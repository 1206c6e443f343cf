import Mathlib
import StaticSite.Proofs.Navigation.Outcome
import StaticSite.Proofs.Placeholder.OpenValue

set_option relaxedAutoImplicit false
set_option autoImplicit false

/-!
# A second turn of a page

A page that was done has no place for a list any more, unless the list that was put in has one
itself. Targets and titles stand in a list with their braces, so a page that is called `{{NAV}}`
brings the place back, and a second turn fills it in.

## Main results

* `StaticSite.Navigation.hasPlace_filled` — a place is left exactly if the list has one.
* `StaticSite.Navigation.exists_hasPlace_of_render` — a list has one only if a target or a label
  has.
* `StaticSite.Navigation.second_turn_keeps_iff` — when a second turn leaves a page alone.
-/

namespace StaticSite.Navigation

open StaticSite.Placeholder (mem_names_append_cons names names_append_of_notMem)

/-! ## Places in a list -/

/-- A place in an item of a list, or behind it, is in the target, in the label or behind the item.


**Proof sketch.** The target and the label are parted from each other, and from what follows, by
characters that are no braces and not in the name of the place. So a place lies within one of the
parts (`mem_names_append_cons`). -/
private lemma place_of_renderLink_append {link : NavLink} {w : Text}
    (h : placeholderName ∈ names (renderLink link ++ w)) :
    placeholderName ∈ names (Html.escapeQuoted link.href) ∨ placeholderName ∈ names (label link) ∨
      placeholderName ∈ names w := by
  have hitem : renderLink link ++ w = "<li><a href=\"".toList ++ (Html.escapeQuoted link.href ++
      '"' :: (['>'] ++ (label link ++ '<' :: ("/a></li>".toList ++ w)))) := by
    unfold renderLink
    simp only [List.append_assoc]
    rfl
  have hopening : '{' ∉ "<li><a href=\"".toList := by decide
  have hbracket : '{' ∉ ['>'] := by decide
  have hclosing : '{' ∉ "/a></li>".toList := by decide
  rw [hitem, names_append_of_notMem hopening] at h
  obtain htarget | hlabel := mem_names_append_cons (by decide) (by decide) (by decide) h
  · exact Or.inl htarget
  · rw [names_append_of_notMem hbracket] at hlabel
    obtain hlabel | hrest := mem_names_append_cons (by decide) (by decide) (by decide) hlabel
    · exact Or.inr (Or.inl hlabel)
    · rw [names_append_of_notMem hclosing] at hrest
      exact Or.inr (Or.inr hrest)

/-- **A list has a place for a list** only if the target or the label of one of its links has.

**Proof sketch.** By induction on the links: a place lies in the first item or behind it
(`place_of_renderLink_append`), and the tags around the items hold no brace. -/
theorem exists_hasPlace_of_render {list : List NavLink} (h : hasPlace (render list) = true) :
    ∃ link ∈ list,
      hasPlace (Html.escapeQuoted link.href) = true ∨ hasPlace (label link) = true := by
  simp only [hasPlace_iff] at h ⊢
  have hopening : '{' ∉ "<ul>".toList := by decide
  have hclosing : '{' ∉ "</ul>".toList := by decide
  rw [render, List.append_assoc, names_append_of_notMem hopening] at h
  induction list with
  | nil =>
    rw [List.flatMap_nil, List.nil_append,
      Placeholder.names_of_none (Placeholder.closed_of_notMem hclosing).1] at h
    exact absurd h List.not_mem_nil
  | cons link list ih =>
    rw [List.flatMap_cons, List.append_assoc] at h
    obtain htarget | hlabel | hrest := place_of_renderLink_append h
    · exact ⟨link, List.mem_cons_self, Or.inl htarget⟩
    · exact ⟨link, List.mem_cons_self, Or.inr hlabel⟩
    · obtain ⟨link', hmem, hplace⟩ := ih hrest
      exact ⟨link', List.mem_cons_of_mem _ hmem, hplace⟩

/-- **A place is left** in a page that was filled in exactly if the list has one itself. -/
theorem hasPlace_filled (list : List NavLink) (t : Text) :
    hasPlace (filled (some list) t).text = true ↔
      hasPlace t = true ∧ hasPlace (render list) = true := by
  have hend : render list = "<ul>".toList ++ list.flatMap renderLink ++ "</ul".toList ++ ['>'] := by
    simp [render]
  have hvalue := (replacement_placeholderName list).trans hend
  simp only [hasPlace_iff]
  rw [hend]
  exact Resolver.mem_names_resolve_iff _ (by decide) (by decide) (by decide) hvalue
    (fun n hn => replacement_other _ hn) t

/-! ## The second turn -/

/-- What a page that was done holds. -/
private lemma readText_of_resolve {target : Path} {others : List NavPage} {s s₁ : FileStore}
    {first : NavOutcome} (h : resolve target others s = .ok first s₁) :
    ∃ t list, s.readText target = .ok t ∧ linksFor s t others = .ok list ∧
      first = outcomeOf list t ∧ s₁.readText target = .ok (filled list t).text := by
  obtain ⟨e, hfailed⟩ | ⟨id, t, list, hid, hc, hlist, hrun⟩ := resolve_cases target others s
  · simp [h] at hfailed
  · rw [h] at hrun
    obtain ⟨rfl, rfl⟩ : first = outcomeOf list t ∧ s₁ = _ := by simpa using hrun
    exact ⟨t, list, FileStore.readText_of_node hid hc, hlist, rfl,
      (isFilledIn_of_node hid hc hlist).written⟩

/-- A turn changes nothing exactly if the page has no place for the list. -/
private lemma keeps_iff_no_place {target : Path} {others : List NavPage} {s : FileStore} {t : Text}
    (hread : s.readText target = .ok t) :
    (∃ outcome, resolve target others s = .ok outcome s ∧ outcome.rewritten = false) ↔
      hasPlace t = false := by
  constructor
  · rintro ⟨outcome, hrun, hkept⟩
    obtain ⟨t', list, hread', hlist, rfl, -⟩ := readText_of_resolve hrun
    obtain rfl := Except.ok.inj (hread.symm.trans hread')
    simpa [outcomeOf_eq hlist] using hkept
  · intro hplace
    exact ⟨_, resolve_of_no_place hread hplace, by simp [outcomeOf, filled_none]⟩

/-- **A second turn of a page leaves it alone** exactly if no list was put in, or the list that was
put in has no place for a list itself. It does not matter what became of the other pages in between,
or which pages are listed now. The list has a place only if a target or a title that it shows has
one.

**Proof sketch.** A turn leaves a page alone exactly if it has no place for the list then
(`keeps_iff_no_place`), and this is decided by the text of the page. Its first turn has replaced
every place by the list, so one is there again exactly if the list brings it (`hasPlace_filled`).
-/
theorem second_turn_keeps_iff {target : Path} {others : List NavPage} {s s₁ s₂ : FileStore}
    {first : NavOutcome} (hfirst : resolve target others s = .ok first s₁)
    (hkept : s₂.readText target = s₁.readText target) (others' : List NavPage) :
    ((∃ second, resolve target others' s₂ = .ok second s₂ ∧ second.rewritten = false) ↔
      ∀ list, first.rewritten = true → links s others = .ok list → hasPlace (render list) = false) ∧
    ∀ list, links s others = .ok list → hasPlace (render list) = true →
      ∃ link ∈ list,
        hasPlace (Html.escapeQuoted link.href) = true ∨ hasPlace (label link) = true := by
  refine ⟨?_, fun list _ hplace => exists_hasPlace_of_render hplace⟩
  obtain ⟨t, list, hread, hlist, rfl, hwritten⟩ := readText_of_resolve hfirst
  rw [keeps_iff_no_place (hkept.trans hwritten), outcomeOf_eq hlist]
  dsimp only
  obtain ⟨hno, rfl⟩ | ⟨hyes, links, rfl, hlinks⟩ := linksFor_eq_ok_iff.1 hlist
  · simp [filled_none, hno]
  · rw [← Bool.not_eq_true, hasPlace_filled, hlinks]
    simp [hyes]

/-- A page, and a second one that it is to link to. -/
def pageBeside (t other : Text) : FileStore :=
  ((({} : FileStore).setEntry ["b".toList] .directory).newFile ["a.html".toList, "b".toList]
    (.text t)).newFile ["b.html".toList, "b".toList] (.text other)

/-- A page that is a place for the list becomes the list. -/
private lemma resolve_pageBeside (other : Text) : ∃ first s₁,
    resolve ⟨"b/a.html".toList⟩ [NavPage.of ⟨"b".toList⟩ ⟨"b/b.html".toList⟩]
      (pageBeside "{{NAV}}".toList other) = .ok first s₁ ∧ first.rewritten = true ∧
      links (pageBeside "{{NAV}}".toList other) [NavPage.of ⟨"b".toList⟩ ⟨"b/b.html".toList⟩] =
        .ok [⟨"b.html".toList, Html.title? other⟩] ∧
      s₁.readText ⟨"b/a.html".toList⟩ = .ok (render [⟨"b.html".toList, Html.title? other⟩]) := by
  have hid : (pageBeside "{{NAV}}".toList other).node ⟨"b/a.html".toList⟩ = .ok (.file ⟨0⟩) := by
    cbv
  have hc : (pageBeside "{{NAV}}".toList other).contentsOf ⟨0⟩ = .text "{{NAV}}".toList := by cbv
  have hplace : hasPlace "{{NAV}}".toList = true := by cbv
  have hlinks : links (pageBeside "{{NAV}}".toList other)
      [NavPage.of ⟨"b".toList⟩ ⟨"b/b.html".toList⟩] =
        .ok [⟨"b.html".toList, Html.title? other⟩] := by
    cbv
  have hlist := linksFor_eq_ok_iff.2 (Or.inr ⟨hplace, _, rfl, hlinks⟩)
  have hfilled := isFilledIn_of_node hid hc hlist
  have htext : (filled (some [⟨"b.html".toList, Html.title? other⟩]) "{{NAV}}".toList).text =
      render [⟨"b.html".toList, Html.title? other⟩] := by
    have hnil : (filled (some [⟨"b.html".toList, Html.title? other⟩]) []).text = [] :=
      filled_of_no_place (by cbv) _
    have hwhole := filled_of_closed (Placeholder.closed_of_notMem List.not_mem_nil).2
      [⟨"b.html".toList, Html.title? other⟩] []
    rwa [hnil, List.nil_append, List.nil_append, List.append_nil, List.append_nil] at hwhole
  refine ⟨_, _, resolve_of_node hid hc hlist, hfilled.rewritten.2 (hasPlace_iff.1 hplace), hlinks,
    ?_⟩
  rw [hfilled.written, htext]

/-- A page is left alone by its second turn even if the page that it links to is called `{{NAV}}` by
then. If that was its title from the start, the second turn does not leave the page alone. -/
theorem second_turn_keeps_iff_pageBeside :
    (∃ second, resolve ⟨"b/a.html".toList⟩ [NavPage.of ⟨"b".toList⟩ ⟨"b/b.html".toList⟩]
        (pageBeside "<ul><li><a href=\"b.html\">B</a></li></ul>".toList
          "<title>{{NAV}}</title>".toList) =
        .ok second (pageBeside "<ul><li><a href=\"b.html\">B</a></li></ul>".toList
          "<title>{{NAV}}</title>".toList) ∧ second.rewritten = false) ∧
      ∃ first s₁, resolve ⟨"b/a.html".toList⟩ [NavPage.of ⟨"b".toList⟩ ⟨"b/b.html".toList⟩]
          (pageBeside "{{NAV}}".toList "<title>{{NAV}}</title>".toList) = .ok first s₁ ∧
        s₁.readText ⟨"b/a.html".toList⟩ =
          .ok "<ul><li><a href=\"b.html\">{{NAV}}</a></li></ul>".toList ∧
        ¬∃ second, resolve ⟨"b/a.html".toList⟩ [NavPage.of ⟨"b".toList⟩ ⟨"b/b.html".toList⟩] s₁ =
          .ok second s₁ ∧ second.rewritten = false := by
  constructor
  · obtain ⟨first, s₁, hrun, -, hlinks, hread⟩ := resolve_pageBeside "<title>B</title>".toList
    refine (second_turn_keeps_iff hrun ?_ _).1.2 fun list _ hlist => ?_
    · rw [hread]
      have hlater : ∀ t other, (pageBeside t other).readText ⟨"b/a.html".toList⟩ = .ok t := by
        intro t other
        cbv
      rw [hlater]
      decide
    · obtain rfl := Except.ok.inj (hlinks.symm.trans hlist)
      have hrender : render [⟨"b.html".toList, Html.title? "<title>B</title>".toList⟩] =
          "<ul><li><a href=\"b.html\">B</a></li></ul>".toList := by
        decide
      rw [hrender]
      cbv
  · obtain ⟨first, s₁, hrun, hrewritten, hlinks, hread⟩ :=
      resolve_pageBeside "<title>{{NAV}}</title>".toList
    refine ⟨first, s₁, hrun, hread.trans (by decide), fun hkept => ?_⟩
    have hno := (second_turn_keeps_iff hrun rfl _).1.1 hkept _ hrewritten hlinks
    have hrender : render [⟨"b.html".toList, Html.title? "<title>{{NAV}}</title>".toList⟩] =
        "<ul><li><a href=\"b.html\">{{NAV}}</a></li></ul>".toList := by
      decide
    have hplace : hasPlace "<ul><li><a href=\"b.html\">{{NAV}}</a></li></ul>".toList = true := by
      cbv
    rw [hrender, hplace] at hno
    simp at hno

end StaticSite.Navigation
