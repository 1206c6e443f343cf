import Mathlib
import StaticSite.Proofs.Navigation.Place

set_option relaxedAutoImplicit false
set_option autoImplicit false

/-!
# The texts of the pages in the navigation pass

The pages get their lists one after another. A page in front has its list already when its title is
read, and a page behind has none yet. Here this is said of the texts alone, for every order of the
pages.

## Main definitions

* `StaticSite.Navigation.linkTo` — the link to a page, made from the text of the page.
* `StaticSite.Navigation.withList` — the text of a page with its list.
* `StaticSite.Navigation.pass` — the texts after the turns of some pages.
* `StaticSite.Navigation.KeepsLabel` — the list in a page does not change what links to it show.

## Main results

* `StaticSite.Navigation.pass_turn` — which titles the list in a page shows.
* `StaticSite.Navigation.pass_of_keepsLabel` — the pass page by page, if all keep their labels.
* `StaticSite.Navigation.pass_eq_iff` — when the pass does not depend on the order.
-/

namespace StaticSite.Navigation

/-! ## Lists as parts of a text -/

/-- The link to a page, made from the text of the page. -/
def linkTo (texts : NavPage → Text) (q : NavPage) : NavLink := ⟨q.href, Html.title? (texts q)⟩

/-- The link to a page in the list of another one, where `front` are the pages in front of that: it
shows the last title of a page that has had its turn, and the first title of every other page. -/
def shownLink (front : List NavPage) (first last : NavPage → Text) (q : NavPage) : NavLink :=
  linkTo (if q ∈ front then last else first) q

/-- The item of a page depends on what its link shows. -/
private lemma renderLink_eq_iff {τ τ' : NavPage → Text} {q : NavPage} :
    renderLink (linkTo τ q) = renderLink (linkTo τ' q) ↔
      label (linkTo τ q) = label (linkTo τ' q) := by
  have hhref : (linkTo τ q).href = (linkTo τ' q).href := rfl
  unfold renderLink
  rw [hhref, List.append_left_inj, List.append_right_inj]

/-- A list depends on what its links show. -/
private lemma render_congr {τ τ' : NavPage → Text} {others : List NavPage}
    (h : ∀ q ∈ others, label (linkTo τ q) = label (linkTo τ' q)) :
    render (others.map (linkTo τ)) = render (others.map (linkTo τ')) := by
  have hlinks : others.flatMap (fun q => renderLink (linkTo τ q)) =
      others.flatMap fun q => renderLink (linkTo τ' q) :=
    List.flatMap_congr fun q hq => renderLink_eq_iff.2 (h q hq)
  rw [render, render, List.flatMap_map, List.flatMap_map, hlinks]

/-- If two lists are the same and show the same but for one page, they show the same for this page
as well.

**Proof sketch.** The items in front of the page are the same in both lists, and so are those
behind it. What is left between them is the item of the page, from which its label can be read off
(`renderLink_eq_iff`). -/
private lemma label_eq_of_render_eq {τ τ' : NavPage → Text} {others : List NavPage}
    (hnodup : others.Nodup) {q : NavPage} (hq : q ∈ others)
    (hother : ∀ q' ∈ others, q' ≠ q → τ q' = τ' q')
    (h : render (others.map (linkTo τ)) = render (others.map (linkTo τ'))) :
    label (linkTo τ q) = label (linkTo τ' q) := by
  obtain ⟨front, back, rfl⟩ := List.append_of_mem hq
  obtain ⟨hnot, -⟩ := List.nodup_cons.1 (List.nodup_middle.1 hnodup)
  have hsame : ∀ part : List NavPage, (∀ q' ∈ part, q' ∈ front ++ back) →
      part.map (linkTo τ) = part.map (linkTo τ') := by
    intro part hmem
    refine List.map_congr_left fun q' hq' => ?_
    have hpart := hmem q' hq'
    have hne : q' ≠ q := fun heq => hnot (heq ▸ hpart)
    rw [linkTo, linkTo, hother q' (List.mem_append.2 ?_) hne]
    exact (List.mem_append.1 hpart).imp_right (List.mem_cons_of_mem _)
  have hfront := hsame front fun _ => List.mem_append_left back
  have hback := hsame back fun _ => List.mem_append_right front
  rw [← renderLink_eq_iff]
  unfold render at h
  simpa only [List.map_append, List.map_cons, List.flatMap_append, List.flatMap_cons, hfront, hback,
    List.append_assoc, List.append_right_inj, List.append_left_inj, List.append_cancel_left_eq,
    List.append_cancel_right_eq] using h

/-! ## Turns -/

section Turns

variable (includeSelf : Bool) (all : List NavPage)

/-- The text of a page with its list, made from the texts of all pages. -/
def withList (texts : NavPage → Text) (p : NavPage) : Text :=
  (filled (some ((NavPage.others all p includeSelf).map (linkTo texts))) (texts p)).text

/-- The texts of the pages after the turns of some of them, one after another. -/
def pass (order : List NavPage) (texts : NavPage → Text) : NavPage → Text :=
  order.foldl (fun texts p => Function.update texts p (withList includeSelf all texts p)) texts

/-- The list that is put into a page does not change what links to the page show. -/
def KeepsLabel (texts : NavPage → Text) (q : NavPage) : Prop :=
  label (linkTo (withList includeSelf all texts) q) = label (linkTo texts q)

variable {includeSelf all} {τ τ' : NavPage → Text} {p q : NavPage} {front back order : List NavPage}

/-- A page without a place for the list is left as it is. -/
lemma withList_of_no_place (h : hasPlace (τ p) = false) : withList includeSelf all τ p = τ p :=
  filled_of_no_place h _

/-- The list in a page depends on what its links show. -/
private lemma withList_congr (hp : τ p = τ' p) (h : hasPlace (τ p) = true →
    ∀ q ∈ NavPage.others all p includeSelf, label (linkTo τ q) = label (linkTo τ' q)) :
    withList includeSelf all τ p = withList includeSelf all τ' p := by
  cases hplace : hasPlace (τ p) with
  | false => rw [withList_of_no_place hplace, withList_of_no_place (hp ▸ hplace), hp]
  | true =>
    unfold withList filled
    rw [Option.map_some, Option.map_some, render_congr (h hplace), hp]

/-- The turns of two stretches follow each other. -/
private lemma pass_append : pass includeSelf all (front ++ back) τ =
    pass includeSelf all back (pass includeSelf all front τ) :=
  List.foldl_append

/-- A page without a turn is left as it is. -/
lemma pass_of_notMem (h : p ∉ order) : pass includeSelf all order τ p = τ p := by
  induction order generalizing τ with
  | nil => rfl
  | cons x order ih =>
    rw [List.mem_cons, not_or] at h
    have hrest : pass includeSelf all order
        (Function.update τ x (withList includeSelf all τ x)) p = _ := ih h.2
    exact hrest.trans (Function.update_of_ne h.1 _ _)

/-- A page is in the end what its turn made of it. -/
private lemma pass_of_mem (h : p ∉ back) : pass includeSelf all (front ++ p :: back) τ p =
    withList includeSelf all (pass includeSelf all front τ) p := by
  rw [pass_append]
  have hturn : pass includeSelf all back (Function.update (pass includeSelf all front τ) p
      (withList includeSelf all (pass includeSelf all front τ) p)) p = _ := pass_of_notMem h
  exact hturn.trans (Function.update_self _ _ _)

/-- **The list in a page** shows the title that a page in front has in the end, and the title that
any other page has before the pass. -/
theorem pass_turn (hnodup : (front ++ p :: back).Nodup) :
    pass includeSelf all (front ++ p :: back) τ p =
      (filled (some ((NavPage.others all p includeSelf).map
        (shownLink front τ (pass includeSelf all (front ++ p :: back) τ)))) (τ p)).text := by
  obtain ⟨-, hback, hdisjoint⟩ := List.nodup_append.1 hnodup
  have hp : p ∉ front := fun hmem => hdisjoint p hmem p List.mem_cons_self rfl
  rw [pass_of_mem (List.nodup_cons.1 hback).1, withList, pass_of_notMem hp]
  congr 3
  refine List.map_congr_left fun q _ => ?_
  unfold shownLink linkTo
  split
  · next hq =>
    have hq' : q ∉ p :: back := fun hmem => hdisjoint q hq q hmem rfl
    rw [pass_append, pass_of_notMem hq']
  · next hq => rw [pass_of_notMem hq]

/-- A link shows the last title exactly if the page has had its turn or keeps what it is called. -/
lemma label_shownLink_iff : label (shownLink front τ τ' q) = label (linkTo τ' q) ↔
    (q ∉ front → label (linkTo τ q) = label (linkTo τ' q)) := by
  by_cases hq : q ∈ front <;> simp [shownLink, linkTo, hq]

/-- Two links show the same exactly if the page has no turn between them or keeps what it is
called. -/
lemma label_shownLink_append_iff (h : q ∈ front → q ∉ back) :
    label (shownLink front τ τ' q) = label (shownLink (front ++ back) τ τ' q) ↔
      (q ∈ back → label (linkTo τ q) = label (linkTo τ' q)) := by
  by_cases hq : q ∈ front
  · simp [shownLink, linkTo, hq, h hq]
  · by_cases hq' : q ∈ back <;> simp [shownLink, linkTo, hq, hq']

/-! ## The order of the pages -/

/-- If every page gets its list as if it were the first, and no list changes what its page is
called, then all pages are called what they were. -/
lemma label_of_pass
    (hpass : ∀ q, pass includeSelf all order τ q =
      if q ∈ order then withList includeSelf all τ q else τ q)
    (hkeeps : ∀ q ∈ order, hasPlace (τ q) = true → KeepsLabel includeSelf all τ q) (q : NavPage) :
    label (linkTo (pass includeSelf all order τ) q) = label (linkTo τ q) := by
  rw [linkTo, hpass]
  split
  · next hq =>
    cases hplace : hasPlace (τ q) with
    | false =>
      rw [withList_of_no_place hplace]
      rfl
    | true => exact hkeeps q hq hplace
  · rfl

/-- **If the pages keep their labels, every page gets its list as if it were the first.**

**Proof sketch.** By induction on the order, from its end. The last page sees the labels that the
pages in front of it have by then; those with a place for the list keep theirs, and the others were
not changed. -/
theorem pass_of_keepsLabel (hnodup : order.Nodup)
    (h : ∀ p ∈ order, ∀ q ∈ order, q ≠ p → hasPlace (τ p) = true → hasPlace (τ q) = true →
      KeepsLabel includeSelf all τ q) (p : NavPage) :
    pass includeSelf all order τ p = if p ∈ order then withList includeSelf all τ p else τ p := by
  induction order using List.reverseRecOn generalizing p with
  | nil => rfl
  | append_singleton order x ih =>
    obtain ⟨hfront, -, hdisjoint⟩ := List.nodup_append.1 hnodup
    have hx : x ∉ order := fun hmem => hdisjoint x hmem x List.mem_cons_self rfl
    specialize ih hfront fun p hp q hq =>
      h p (List.mem_append_left _ hp) q (List.mem_append_left _ hq)
    have hlabel : hasPlace (τ x) = true → ∀ q, label (linkTo (pass includeSelf all order τ) q) =
        label (linkTo τ q) := by
      refine fun hplace => label_of_pass ih fun q hq => ?_
      have hne : q ≠ x := fun heq => hx (heq ▸ hq)
      exact h x (by simp) q (List.mem_append_left _ hq) hne hplace
    by_cases hp : p = x
    · subst hp
      rw [pass_of_mem (by simp), if_pos (by simp)]
      have hsame : pass includeSelf all order τ p = τ p := pass_of_notMem hx
      exact withList_congr hsame fun hplace q _ => hlabel (hsame ▸ hplace) q
    · rw [pass_append, pass_of_notMem (by simpa using hp), ih]
      simp [hp]

/-- **The pass does not depend on the order exactly if the pages keep their labels.** Two pages with
a place for the list are needed to tell the orders apart.

**Proof sketch.** If the order does not matter, a page with a place may have its turn first or
right behind another page. Its list is the same in both orders, so the other page shows the same
label before and after its own turn (`label_eq_of_render_eq`). If labels are kept, each page gets
its list as if it were the first, whatever the order (`pass_of_keepsLabel`). -/
theorem pass_eq_iff (hnodup : all.Nodup)
    (hothers : ∀ p ∈ all, ∀ q ∈ all, q ≠ p → q ∈ NavPage.others all p includeSelf) :
    (∀ order, order.Perm all → pass includeSelf all order τ = pass includeSelf all all τ) ↔
      ∀ p ∈ all, ∀ q ∈ all, q ≠ p → hasPlace (τ p) = true → hasPlace (τ q) = true →
        KeepsLabel includeSelf all τ q := by
  constructor
  · intro h p hp q hq hne hplace _
    have hq' : q ∈ all.erase p := (List.mem_erase_of_ne hne).2 hq
    set rest := (all.erase p).erase q
    have hperm : (p :: q :: rest).Perm all :=
      ((List.perm_cons_erase hq').symm.cons p).trans (List.perm_cons_erase hp).symm
    obtain ⟨hpnot, hqnot, -⟩ : p ∉ q :: rest ∧ q ∉ rest ∧ rest.Nodup := by
      simpa only [List.nodup_cons] using hperm.nodup_iff.2 hnodup
    have hprest : p ∉ rest := fun hmem => hpnot (List.mem_cons_of_mem _ hmem)
    -- in front of `q`, the list in `p` shows the label that `q` has before its turn; behind it, the
    -- one that `q` has after it
    have hbefore : pass includeSelf all (p :: q :: rest) τ p = withList includeSelf all τ p :=
      @pass_of_mem _ _ _ _ [] _ hpnot
    have hafter : pass includeSelf all (q :: p :: rest) τ p =
        withList includeSelf all (pass includeSelf all [q] τ) p :=
      @pass_of_mem _ _ _ _ [q] _ hprest
    have hsame : withList includeSelf all (pass includeSelf all [q] τ) p =
        withList includeSelf all τ p := by
      rw [← hbefore, ← hafter, h _ hperm, h _ ((List.Perm.swap p q rest).trans hperm)]
    have hother : ∀ q', q' ≠ q → pass includeSelf all [q] τ q' = τ q' :=
      fun q' hq' => pass_of_notMem (by simpa using hq')
    have hself : pass includeSelf all [q] τ q = withList includeSelf all τ q :=
      @pass_of_mem _ _ _ _ [] _ (by simp)
    unfold withList at hsame
    rw [hother p (Ne.symm hne)] at hsame
    have hlabel := label_eq_of_render_eq (hnodup.filter _) (hothers p hp q hq hne)
      (fun q' _ hq' => hother q' hq') (render_eq_of_filled_eq hplace hsame)
    rwa [linkTo, hself] at hlabel
  · intro h order hperm
    funext p
    rw [pass_of_keepsLabel hnodup h, pass_of_keepsLabel (hperm.nodup_iff.2 hnodup)
      fun p hp q hq => h p (hperm.mem_iff.1 hp) q (hperm.mem_iff.1 hq)]
    simp only [hperm.mem_iff]

end Turns

end StaticSite.Navigation
