import Mathlib
import StaticSite.Proofs.Navigation.Resolve
import StaticSite.Proofs.Placeholder.Overlap

set_option relaxedAutoImplicit false
set_option autoImplicit false

/-!
# The place for the navigation list

The navigation pass knows one name only. What it makes of a text that was put together from several
parts depends on whether the parts in front leave braces open.

## Main results

* `StaticSite.Navigation.filled_of_closed` — a place behind a closed text is filled in.
* `StaticSite.Navigation.filled_of_open` — a place behind an open text is not.
* `StaticSite.Navigation.filled_ne` — a text with a place is changed.
* `StaticSite.Navigation.render_eq_of_filled_eq` — the list can be read off the text with it.
* `StaticSite.Navigation.filled_keeps_iff` — a stretch is kept if no place reaches into it.
* `StaticSite.Navigation.outcomeOf_eq` — what became of a page can be told from its text.
-/

namespace StaticSite.Navigation

open StaticSite.Placeholder (IsClosed Clear afterLast first? written names)

/-- The name of the place closes with the next braces. -/
private lemma not_closing_placeholderName : ¬Placeholder.closing <:+: placeholderName ++ ['}'] := by
  decide

/-- A text has a place for the list exactly if this is the name of one of its placeholders. -/
lemma hasPlace_iff {t : Text} : hasPlace t = true ↔ placeholderName ∈ names t :=
  List.contains_iff_mem

/-- A list starts with the opening of a tag. -/
private lemma render_eq_cons (links : List NavLink) : ∃ rest, render links = '<' :: rest := ⟨_, rfl⟩

/-- The list stands for its place. -/
lemma replacement_placeholderName (links : List NavLink) :
    (resolver (some (render links))).replacement (.placeholder placeholderName) = render links := by
  simp [Resolver.replacement, resolver]

/-- Every other placeholder is kept. -/
lemma replacement_other (list : Option Text) {name : Text} (h : name ≠ placeholderName) :
    (resolver list).replacement (.placeholder name) = written name := by
  cases list <;> simp [Resolver.replacement, resolver, h]

/-- A place behind a closed text is one. -/
lemma hasPlace_of_closed {u : Text} (h : IsClosed u) (v : Text) :
    hasPlace (u ++ written placeholderName ++ v) = true := by
  have hmem : placeholderName ∈ names (u ++ (written placeholderName ++ v)) := by
    rw [Placeholder.names_append h,
      Placeholder.names_of_some (Placeholder.first?_written not_closing_placeholderName v)]
    simp
  rw [List.append_assoc]
  exact hasPlace_iff.2 hmem

/-- **A place behind a closed text is filled in.** -/
theorem filled_of_closed {u : Text} (h : IsClosed u) (links : List NavLink) (v : Text) :
    (filled (some links) (u ++ written placeholderName ++ v)).text =
      (filled (some links) u).text ++ render links ++ (filled (some links) v).text := by
  unfold filled
  rw [List.append_assoc, Resolver.resolve_append _ h,
    Resolver.resolve_written_append _ not_closing_placeholderName, Option.map_some,
    replacement_placeholderName, List.append_assoc]

/-- **A place behind an open text is not filled in.** -/
theorem filled_of_open {u : Text} (h : ¬IsClosed u) (list : Option (List NavLink)) (v : Text) :
    (filled list (u ++ written placeholderName ++ v)).text =
      (filled list u).text ++ written placeholderName ++ (filled list v).text := by
  refine Resolver.resolve_open_append _ h not_closing_placeholderName (fun n hn => ?_) v
  exact replacement_other _ fun heq => absurd hn (by rw [heq]; exact lt_irrefl _)

/-- A text with a place for the list is changed by every list.

**Proof sketch.** By induction along the placeholders. The first one that is replaced starts with
two braces, and the list with a bracket; the others are kept, and what follows them is changed. -/
theorem filled_ne {t : Text} (h : hasPlace t = true) (links : List NavLink) :
    (filled (some links) t).text ≠ t := by
  replace h := hasPlace_iff.1 h
  unfold filled
  rw [Option.map_some]
  fun_induction afterLast t with
  | case1 t hfirst =>
    rw [Placeholder.names_of_none hfirst] at h
    simp at h
  | case2 t before name after hfirst ih =>
    have hwhole := Placeholder.append_of_first? hfirst
    rw [Resolver.resolve_of_some _ hfirst]
    conv_rhs => rw [← hwhole]
    rw [List.append_assoc, List.append_assoc, ne_eq, List.append_cancel_left_eq]
    by_cases hname : name = placeholderName
    · obtain ⟨rest, hrest⟩ := render_eq_cons links
      rw [hname, replacement_placeholderName, hrest]
      simp [written, Placeholder.opening]
    · rw [replacement_other _ hname, List.append_cancel_left_eq]
      rw [Placeholder.names_of_some hfirst] at h
      exact ih (by simpa [Ne.symm hname] using h)

/-- A text without a place for the list is left as it is by every list. -/
lemma filled_of_no_place {t : Text} (h : hasPlace t = false) (list : Option (List NavLink)) :
    (filled list t).text = t := by
  rw [← Bool.not_eq_true, hasPlace_iff] at h
  unfold filled
  fun_induction afterLast t with
  | case1 t hfirst => exact Resolver.resolve_of_none _ hfirst
  | case2 t before name after hfirst ih =>
    rw [Placeholder.names_of_some hfirst, List.mem_cons, not_or] at h
    rw [Resolver.resolve_of_some _ hfirst, replacement_other _ (Ne.symm h.1), ih h.2]
    exact Placeholder.append_of_first? hfirst

/-- A longer list makes no shorter text. -/
private lemma length_filled_le {links links' : List NavLink}
    (h : (render links).length ≤ (render links').length) (t : Text) :
    (filled (some links) t).text.length ≤ (filled (some links') t).text.length := by
  unfold filled
  rw [Option.map_some, Option.map_some]
  fun_induction afterLast t with
  | case1 t hfirst => rw [Resolver.resolve_of_none _ hfirst, Resolver.resolve_of_none _ hfirst]
  | case2 t before name after hfirst ih =>
    rw [Resolver.resolve_of_some _ hfirst, Resolver.resolve_of_some _ hfirst]
    simp only [List.length_append]
    by_cases hname : name = placeholderName
    · rw [hname, replacement_placeholderName, replacement_placeholderName]
      omega
    · rw [replacement_other _ hname, replacement_other _ hname]
      omega

/-- **A list can be read off the text with it**, if there is a place for it.

**Proof sketch.** By induction along the placeholders, for the longer list against the shorter one.
At the first place for the list the lists stand at the same offset, and what follows is at least as
long with the longer one. As the whole texts are equally long, the lists are, and so they are
equal. -/
theorem render_eq_of_filled_eq {t : Text} (hplace : hasPlace t = true) {links links' : List NavLink}
    (h : (filled (some links) t).text = (filled (some links') t).text) :
    render links = render links' := by
  wlog hle : (render links).length ≤ (render links').length generalizing links links'
  · exact (this h.symm (Nat.le_of_not_le hle)).symm
  replace hplace := hasPlace_iff.1 hplace
  fun_induction afterLast t with
  | case1 t hfirst =>
    rw [Placeholder.names_of_none hfirst] at hplace
    simp at hplace
  | case2 t before name after hfirst ih =>
    have hrest := length_filled_le hle after
    unfold filled at h hrest ih
    rw [Option.map_some, Option.map_some] at h hrest ih
    rw [Resolver.resolve_of_some _ hfirst, Resolver.resolve_of_some _ hfirst, List.append_assoc,
      List.append_assoc, List.append_cancel_left_eq] at h
    by_cases hname : name = placeholderName
    · -- no part of the one text is shorter than that of the other, so all are as long
      rw [hname, replacement_placeholderName, replacement_placeholderName] at h
      have hlength := congrArg List.length h
      simp only [List.length_append] at hlength
      exact (List.append_inj h (by omega)).1
    · rw [replacement_other _ hname, replacement_other _ hname, List.append_cancel_left_eq] at h
      rw [Placeholder.names_of_some hfirst] at hplace
      exact ih h (by simpa [Ne.symm hname] using hplace)

/-- **A stretch is kept exactly if no place reaches into it.** -/
theorem filled_keeps_iff {list : Option (List NavLink)} {u x v : Text}
    (h : list = none → hasPlace (u ++ x ++ v) = false) :
    (filled list u).text ++ x <+: (filled list (u ++ x ++ v)).text ↔
      Clear placeholderName u x v := by
  cases list with
  | none =>
    rw [filled_none, filled_none]
    refine iff_of_true (List.prefix_append ..) fun p hp hname => ?_
    have hplace : hasPlace (u ++ x ++ v) = true := hasPlace_iff.2 (List.mem_map.2 ⟨p, hp, hname⟩)
    rw [h rfl] at hplace
    exact absurd hplace (by simp)
  | some links =>
    obtain ⟨rest, hrest⟩ := render_eq_cons links
    refine Resolver.resolve_keeps_iff _ (by decide : '<' ≠ '{')
      ((replacement_placeholderName links).trans hrest) (fun n hn => ?_) u x v
    exact replacement_other _ hn

/-- There is a list exactly for a text with a place for it. -/
lemma eq_none_of_linksFor {s : FileStore} {t : Text} {others : List NavPage}
    {list : Option (List NavLink)} (h : linksFor s t others = .ok list) (hlist : list = none) :
    hasPlace t = false := by
  obtain ⟨hplace, -⟩ | ⟨-, ls, hls, -⟩ := linksFor_eq_ok_iff.1 h
  · exact hplace
  · simp [hls] at hlist

/-- The placeholders that a page keeps are all but those for the list, in their order. -/
theorem unresolved_filled {list : Option (List NavLink)} {t : Text}
    (h : list = none → hasPlace t = false) :
    (filled list t).unresolved = ((names t).filter (· ≠ placeholderName)).map written := by
  unfold filled
  rw [Resolver.unresolved_eq]
  congr 1
  refine List.filter_congr fun name hname => ?_
  cases list with
  | some links => by_cases heq : name = placeholderName <;> simp [resolver, heq]
  | none =>
    have hne : name ≠ placeholderName := by
      rintro rfl
      have hplace : hasPlace t = true := hasPlace_iff.2 hname
      rw [h rfl] at hplace
      exact absurd hplace (by simp)
    simp [resolver, hne]

/-- What became of a page can be told from its text: the list is put into it if there is a place,
and all other placeholders are kept. -/
theorem outcomeOf_eq {s : FileStore} {t : Text} {others : List NavPage}
    {list : Option (List NavLink)} (h : linksFor s t others = .ok list) :
    outcomeOf list t = ⟨if hasPlace t then others.length else 0, hasPlace t,
      ((names t).filter (· ≠ placeholderName)).map written⟩ := by
  rw [outcomeOf, unresolved_filled (eq_none_of_linksFor h)]
  obtain ⟨hplace, rfl⟩ | ⟨hplace, ls, rfl, hls⟩ := linksFor_eq_ok_iff.1 h
  · simp [hplace, filled_none]
  · have hlength : ls.length = others.length := by
      simpa using congrArg List.length (map_href_of_links hls)
    simp [hplace, filled_ne hplace, hlength]

end StaticSite.Navigation
