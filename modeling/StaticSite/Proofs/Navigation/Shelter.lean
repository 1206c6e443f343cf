import Mathlib
import StaticSite.Proofs.Html.Escape
import StaticSite.Proofs.Html.Title
import StaticSite.Proofs.Navigation.Pass

set_option relaxedAutoImplicit false
set_option autoImplicit false

/-!
# Titles that a list does not change

A navigation list that stands behind the title of a page does not change the title, and neither does
one in front of it, as long as no link of the list shows an opening tag of a title. Inside the title
a list becomes part of it.

## Main definitions

* `StaticSite.Navigation.Sheltered` — no place for a list reaches into the title of a text.

## Main results

* `StaticSite.Navigation.opensTitle_filled` — a list opens no title.
* `StaticSite.Navigation.title?_filled` — a sheltered title is kept.
* `StaticSite.Navigation.keepsLabel_of_sheltered` — and so is what the page is called.
-/

namespace StaticSite

namespace Html

/-- A tag that is no opening tag of a title, and its attributes, open no title. -/
private lemma opensTitle_tag {c : Char} {t : Text} (hc : 't'.toLower ≠ c.toLower)
    (ht : '<' ∉ c :: t) :
    opensTitle ('<' :: c :: t) = false := by
  have hstart : startsTitle ('<' :: c :: t) = false := by
    have hne : ('t'.toLower == c.toLower) = false := beq_eq_false_iff_ne.2 hc
    rw [startsTitle, titleOpening, Text.dropPrefixCaseless?, beq_self_eq_true, if_pos rfl,
      Text.dropPrefixCaseless?, hne]
    rfl
  rw [opensTitle, hstart, opensTitle_of_notMem ht]
  rfl

end Html

namespace Navigation

open StaticSite.Html (opensTitle opensTitle_append opensTitle_of_notMem opensTitle_tag IsSeam
  IsTitleElement)
open StaticSite.Placeholder (Clear afterLast written)

/-! ## Lists -/

/-- An item of a list opens no title, unless its link shows one. -/
private lemma opensTitle_renderLink {link : NavLink} (h : opensTitle (label link) = false) :
    opensTitle (renderLink link) = false := by
  set target := " href=\"".toList ++ Html.escapeQuoted link.href ++ "\"".toList with htarget
  have hitem : renderLink link = "<li>".toList ++ (('<' :: 'a' :: target) ++ ['>'] ++
      (label link ++ "</a></li>".toList)) := by
    unfold renderLink
    simp [htarget]
  have hnotMem : '<' ∉ 'a' :: (target ++ ['>']) := by
    simpa [htarget] using Html.notMem_escapeQuoted rfl link.href
  have htag : opensTitle (('<' :: 'a' :: target) ++ ['>']) = false :=
    opensTitle_tag (by decide) hnotMem
  have hclose : opensTitle "</a></li>".toList = false := by decide
  have hlabel : IsSeam (label link) "</a></li>".toList := .inr (.inr (.inl rfl))
  have hend : IsSeam (('<' :: 'a' :: target) ++ ['>']) (label link ++ "</a></li>".toList) :=
    .inl List.getLast?_concat
  rw [hitem, opensTitle_append (.inl rfl), opensTitle_append hend, opensTitle_append hlabel, htag,
    h, hclose]
  rfl

/-- A list opens no title, unless one of its links shows one. -/
private lemma opensTitle_render {links : List NavLink}
    (h : ∀ link ∈ links, opensTitle (label link) = false) : opensTitle (render links) = false := by
  have hitems : opensTitle (links.flatMap renderLink ++ "</ul>".toList) = false := by
    induction links with
    | nil => decide
    | cons link links ih =>
      have hseam : IsSeam (renderLink link) (links.flatMap renderLink ++ "</ul>".toList) := by
        refine .inl ?_
        unfold renderLink
        rw [List.getLast?_append]
        rfl
      rw [List.flatMap_cons, List.append_assoc, opensTitle_append hseam,
        opensTitle_renderLink (h link List.mem_cons_self),
        ih fun link' hmem => h link' (List.mem_cons_of_mem _ hmem)]
      rfl
  rw [render, List.append_assoc, opensTitle_append (.inl rfl), hitems]
  decide

/-! ## Texts with a list -/

section Labels

variable {links : List NavLink} (hlabels : ∀ link ∈ links, opensTitle (label link) = false)

include hlabels

/-- **A list opens no title** in a text that opens none.

**Proof sketch.** By induction along the placeholders. The borders of the placeholders, and of the
list that takes the place of some, are seams: no opening tag of a title runs over them. So a title
is opened by one of the parts, and neither the list nor the text does it. -/
theorem opensTitle_filled {t : Text} (h : opensTitle t = false) :
    opensTitle (filled (some links) t).text = false := by
  unfold filled
  rw [Option.map_some]
  fun_induction afterLast t with
  | case1 t hfirst => rwa [Resolver.resolve_of_none _ hfirst]
  | case2 t before name after hfirst ih =>
    have hwritten : ∀ w, opensTitle (before ++ (written name ++ w)) =
        (opensTitle before || (opensTitle (written name) || opensTitle w)) := by
      intro w
      have hbehind : IsSeam (written name) w := .inr (.inl (by simp [written, Placeholder.closing]))
      rw [opensTitle_append (.inr (.inr (.inr rfl))), opensTitle_append hbehind]
    have hrender : ∀ w, opensTitle (before ++ (render links ++ w)) =
        (opensTitle before || (opensTitle (render links) || opensTitle w)) := by
      intro w
      have hbehind : IsSeam (render links) w := by
        refine .inl ?_
        rw [render, List.getLast?_append]
        rfl
      rw [opensTitle_append (.inr (.inr (.inl rfl))), opensTitle_append hbehind]
    rw [← Placeholder.append_of_first? hfirst, List.append_assoc, hwritten, Bool.or_eq_false_iff,
      Bool.or_eq_false_iff] at h
    obtain ⟨hbefore, hname, hafter⟩ := h
    rw [Resolver.resolve_of_some _ hfirst, List.append_assoc]
    by_cases heq : name = placeholderName
    · rw [heq, replacement_placeholderName, hrender, hbefore, opensTitle_render hlabels, ih hafter]
      rfl
    · rw [replacement_other _ heq, hwritten, hbefore, hname, ih hafter]
      rfl

end Labels

/-! ## Sheltered titles -/

/-- No place for a list reaches into the title of a text: the first title element is whole, and no
place overlaps it, or no title is opened at all. -/
def Sheltered (t : Text) : Prop :=
  opensTitle t = false ∨
    ∃ u x v, t = u ++ x ++ v ∧ opensTitle u = false ∧ IsTitleElement x ∧ Clear placeholderName u x v

/-- **A sheltered title is kept** by every list of which no link shows an opening tag of a title. -/
theorem title?_filled {t : Text} (h : Sheltered t) {links : List NavLink}
    (hlabels : ∀ link ∈ links, opensTitle (label link) = false) :
    Html.title? (filled (some links) t).text = Html.title? t := by
  obtain ht | ⟨u, x, v, rfl, hu, hx, hclear⟩ := h
  · rw [Html.title?_of_not_opens (opensTitle_filled hlabels ht), Html.title?_of_not_opens ht]
  · have hlist : some links = none → hasPlace (u ++ x ++ v) = false := nofun
    obtain ⟨w, hw⟩ := (filled_keeps_iff hlist).2 hclear
    rw [← hw, Html.title?_of_element (opensTitle_filled hlabels hu) hx w,
      Html.title?_of_element hu hx v]

/-- A page with a sheltered title keeps what it is called, if no page is called an opening tag of a
title. -/
lemma keepsLabel_of_sheltered {includeSelf : Bool} {all : List NavPage} {texts : NavPage → Text}
    (hlabels : ∀ q ∈ all, opensTitle (label (linkTo texts q)) = false) {q : NavPage}
    (h : Sheltered (texts q)) : KeepsLabel includeSelf all texts q := by
  have htitle : Html.title? (withList includeSelf all texts q) = Html.title? (texts q) := by
    refine title?_filled h fun link hlink => ?_
    obtain ⟨q', hq', rfl⟩ := List.mem_map.1 hlink
    exact hlabels q' (List.mem_of_mem_filter hq')
  rw [KeepsLabel, linkTo, linkTo, htitle]

end Navigation

end StaticSite
