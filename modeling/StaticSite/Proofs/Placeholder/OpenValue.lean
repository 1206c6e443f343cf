import Mathlib
import StaticSite.Proofs.Placeholder.TwoPasses

set_option relaxedAutoImplicit false
set_option autoImplicit false

/-!
# Names that come back

A value is put in as it is, so a text in which a name was replaced may hold the name again: it
stands in the value. It comes from nowhere else. Where a value ends and the text goes on, a
placeholder may be made that was in neither of the two, but its name takes in the last character of
the value.

## Main results

* `StaticSite.Placeholder.mem_names_append_cons` — a name that does not hold the character between
  two texts is a name of one of them.
* `StaticSite.Resolver.mem_names_resolve_iff` — a name that is replaced comes back exactly if its
  value holds it.
-/

namespace StaticSite

namespace Placeholder

/-! ## Behind closing braces -/

/-- Braces that are not opened in front of some characters are not opened behind them. -/
lemma closed_append_of_notMem {u v : Text} (hu : ¬opening <:+: u) (hne : v ≠ []) (hv : '{' ∉ v) :
    first? (u ++ v) = none ∧ IsClosed (u ++ v) := by
  have hright : ¬opening <:+: v ++ ['{'] := by
    unfold opening
    rw [Text.double_infix_append_iff]
    rintro (hwithin | hwithin | ⟨hlast, -⟩)
    · exact hv (hwithin.subset (by simp))
    · exact absurd hwithin (by decide)
    · exact hv (List.mem_of_getLast? hlast)
  apply closed_of_not_opening
  unfold opening at hu hright ⊢
  rw [List.append_assoc, Text.double_infix_append_iff]
  rintro (hwithin | hwithin | ⟨-, hhead⟩)
  · exact hu hwithin
  · exact hright hwithin
  · rw [List.head?_append_of_ne_nil v hne] at hhead
    exact hv (List.mem_of_head? hhead)

/-- Behind closing braces, nothing is open.

**Proof sketch.** If the text holds no opening braces, the closing ones bring none. If it does, the
closing braces are the nearest ones behind the first opening, and nothing is left behind them. -/
private lemma isClosed_append_closing {n : Text} (h : ¬closing <:+: n ++ ['}']) :
    IsClosed (n ++ closing) := by
  cases hopen : Text.breakOn opening n with
  | none =>
    have hn := (Text.breakOn_eq_none_iff (by simp [opening])).1 hopen
    exact (closed_append_of_notMem hn (by decide) (by decide)).2
  | some parts =>
    obtain ⟨before, name⟩ := parts
    have hname : ¬closing <:+: name ++ ['}'] := by
      refine fun hwithin => h (hwithin.trans ⟨before ++ opening, [], ?_⟩)
      rw [← Text.append_of_breakOn hopen]
      simp
    have hfirst : first? (n ++ closing) = some (before, name, []) := by
      refine first?_eq_some_iff.2 ⟨name ++ closing, ?_, ?_⟩
      · exact Text.breakOn_append (by simp [opening]) hopen closing
      · simpa using breakOn_closing hname []
    exact (isClosed_iff_of_some hfirst).2 (closed_of_notMem List.not_mem_nil).2

/-- The names behind the first closing braces of a text are names of the text. -/
private lemma mem_names_of_breakOn {t n after name : Text}
    (h : Text.breakOn closing t = some (n, after)) (hname : name ∈ names after) :
    name ∈ names t := by
  have hclosed : IsClosed (n ++ closing) :=
    isClosed_append_closing (Text.not_double_infix_of_breakOn h)
  rw [← Text.append_of_breakOn h, names_append hclosed]
  exact List.mem_append_right _ hname

/-! ## Names of texts that are put together -/

/-- A text without an opening brace adds no name to what follows it. -/
lemma names_append_of_notMem {u : Text} (h : '{' ∉ u) (w : Text) : names (u ++ w) = names w := by
  obtain ⟨hnone, hclosed⟩ := closed_of_notMem h
  rw [names_append hclosed, names_of_none hnone, List.nil_append]

/-- The names of a start of a text are names of the text. -/
private lemma names_subset_append (u w : Text) : names u ⊆ names (u ++ w) := by
  fun_induction afterLast u with
  | case1 u hnone =>
    rw [names_of_none hnone]
    exact List.nil_subset _
  | case2 u before name after hfirst ih =>
    rw [names_of_some hfirst, names_of_some (first?_append hfirst w)]
    exact List.cons_subset_cons name ih

/-- The braces that a text without a placeholder leaves open take in what it goes on with.

**Proof sketch.** The open braces take in the text up to the first closing braces. The name that
they get holds the character, which the given name does not, so the given one is of a placeholder
further on. -/
private lemma names_of_openBraces {u before rest w : Text} (hnone : first? u = none)
    (hopen : Text.breakOn opening u = some (before, rest)) {c : Char} (hc : c ≠ '}') {name : Text}
    (hname : c ∉ name) (h : name ∈ names (u ++ c :: w)) : name ∈ names w := by
  have hrest : ¬closing <:+: rest ++ [c] ++ ['}'] := by
    have hwithin := not_closing_of_none hnone hopen
    unfold closing at hwithin ⊢
    rw [List.append_assoc, Text.double_infix_append_iff]
    rintro (hleft | hright | ⟨-, hhead⟩)
    · exact hwithin hleft
    · simp [List.infix_cons_iff, Ne.symm hc] at hright
    · simp [hc] at hhead
  have hopen' : Text.breakOn opening (u ++ c :: w) = some (before, rest ++ [c] ++ w) := by
    simpa using Text.breakOn_append (by simp [opening]) hopen (c :: w)
  have hskip : Text.breakOn closing (rest ++ [c] ++ w) =
      (Text.breakOn closing w).map fun parts => (rest ++ [c] ++ parts.1, parts.2) :=
    Text.breakOn_skip hrest w
  cases hclose : Text.breakOn closing w with
  | none =>
    have hfirst : first? (u ++ c :: w) = none := by
      rw [hclose, Option.map_none] at hskip
      simp only [first?, hopen', hskip]
    rw [names_of_none hfirst] at h
    exact absurd h List.not_mem_nil
  | some parts =>
    have hfirst : first? (u ++ c :: w) = some (before, rest ++ [c] ++ parts.1, parts.2) := by
      rw [hclose] at hskip
      exact first?_eq_some_iff.2 ⟨_, hopen', hskip⟩
    rw [names_of_some hfirst, List.mem_cons] at h
    obtain rfl | hafter := h
    · simp at hname
    · exact mem_names_of_breakOn hclose hafter

/-- **A name that does not hold the character between two texts** is a name of one of them.

**Proof sketch.** By induction along the placeholders of the first text. Behind the last one, either
no braces are open, or they are closed in the second text only. Then the name of what they open
holds the character, and all other names are behind closing braces of the second text. -/
theorem mem_names_append_cons {u w name : Text} {c : Char} (hopening : c ≠ '{') (hclosing : c ≠ '}')
    (hc : c ∉ name) (h : name ∈ names (u ++ c :: w)) : name ∈ names u ∨ name ∈ names w := by
  fun_induction afterLast u with
  | case1 u hnone =>
    right
    cases hopen : Text.breakOn opening u with
    | none =>
      have hu := (Text.breakOn_eq_none_iff (by simp [opening])).1 hopen
      have hnotMem : '{' ∉ [c] := by simpa using Ne.symm hopening
      obtain ⟨hfirst, hclosed⟩ := closed_append_of_notMem hu (by simp) hnotMem
      rwa [← List.singleton_append, ← List.append_assoc, names_append hclosed, names_of_none hfirst,
        List.nil_append] at h
    | some parts => exact names_of_openBraces hnone hopen hclosing hc h
  | case2 u before n after hfirst ih =>
    rw [names_of_some (first?_append hfirst _), List.mem_cons] at h
    rw [names_of_some hfirst, List.mem_cons, or_assoc]
    exact h.imp_right ih

end Placeholder

namespace Resolver

open Placeholder

/-- **A name that is replaced comes back** exactly if its value holds it, as long as the value ends
with a character that is no brace and not in the name.

**Proof sketch.** By induction along the placeholders of the text. Behind a value the names are
those of the value or of what follows, since the last character of the value is in no such name
(`mem_names_append_cons`). A placeholder of another name stays, and is closed. -/
theorem mem_names_resolve_iff (r : Resolver) {name value : Text} {c : Char} (hopening : c ≠ '{')
    (hclosing : c ≠ '}') (hc : c ∉ name)
    (hvalue : r.replacement (.placeholder name) = value ++ [c])
    (hother : ∀ n, n ≠ name → r.replacement (.placeholder n) = written n) (t : Text) :
    name ∈ names (r.resolve t).text ↔ name ∈ names t ∧ name ∈ names (value ++ [c]) := by
  fun_induction afterLast t with
  | case1 t hnone => simp [r.resolve_of_none hnone, names_of_none hnone]
  | case2 t before n after hfirst ih =>
    obtain ⟨hnone, hbefore⟩ := closed_before hfirst
    rw [r.resolve_of_some hfirst, names_of_some hfirst, List.append_assoc, names_append hbefore,
      names_of_none hnone, List.nil_append, List.mem_cons]
    by_cases hn : n = name
    · rw [hn, hvalue]
      refine ⟨fun h => ⟨Or.inl rfl, ?_⟩, fun h => names_subset_append _ _ h.2⟩
      rw [List.append_assoc, List.singleton_append] at h
      obtain hleft | hright := mem_names_append_cons hopening hclosing hc h
      · exact names_subset_append _ _ hleft
      · exact (ih.1 hright).2
    · obtain ⟨hclosed, hwritten⟩ := written_spec (not_closing_of_first? hfirst)
      rw [hother n hn, names_append hclosed, hwritten, List.singleton_append, List.mem_cons, ih,
        or_and_right, or_iff_right (fun heq => hn heq.symm), iff_false_intro (Ne.symm hn),
        false_and, false_or]

end Resolver

end StaticSite
