import Mathlib
import StaticSite.Proofs.Placeholder.Overlap

set_option relaxedAutoImplicit false
set_option autoImplicit false

/-!
# What the scanner finds

The scanner looks for the leftmost placeholder from an offset on, and goes on behind the one it has
found. It finds every opening that is closed, in order: an opening that it passes over lies in the
name of a placeholder, or has no closing behind it. Nothing of the text is lost between the
placeholders.

## Main definitions

* `StaticSite.Placeholder.OpensAndCloses` — behind an offset there is an opening with a closing
  behind it.
* `StaticSite.Placeholder.IsFirstFrom` — the leftmost placeholder from an offset on.
* `StaticSite.Placeholder.Yields` — the rounds of the scanner.

## Main results

* `StaticSite.Placeholder.find?_eq_none_iff` — where nothing is found, there is nothing.
* `StaticSite.Placeholder.find?_isFirstFrom` — what is found is the leftmost placeholder.
* `StaticSite.Placeholder.yields_iff` — the rounds give the placeholders among the pieces.
* `StaticSite.Placeholder.scan_exact` — the placeholders and the gaps between them are the text.
-/

namespace StaticSite

namespace Placeholder

open StaticSite.Text (byteSize byteSize_append IsBoundary IsInside IsSlice StandsAt)

/-! ## One placeholder -/

/-- At or behind an offset stand opening braces, and behind these stand closing ones. -/
def OpensAndCloses (t : Text) (n : Nat) : Prop :=
  ∃ i j, n ≤ i ∧ StandsAt opening t i ∧ i + byteSize opening ≤ j ∧ StandsAt closing t j

/-- The leftmost placeholder from an offset on, with the nearest closing braces. -/
structure IsFirstFrom (t : Text) (n : Nat) (p : Placeholder) : Prop where
  /-- It starts at the first opening braces. -/
  opens : IsLeast {i | n ≤ i ∧ StandsAt opening t i} p.start
  /-- It ends with the first closing braces behind them. -/
  closes : ∃ j, IsLeast {j | p.start + byteSize opening ≤ j ∧ StandsAt closing t j} j ∧
    p.stop = j + byteSize closing
  /-- It is written in the text between its two offsets. -/
  slice : IsSlice t p.start p.stop (opening ++ p.name ++ closing)
  /-- Its name holds no closing braces. -/
  name : ¬closing <:+: p.name
  /-- Both offsets lie between two characters. -/
  boundaries : IsBoundary t p.start ∧ IsBoundary t p.stop

/-- From a boundary on, the leftmost placeholder is that of the rest of the text. -/
private lemma find?_append (w v : Text) : find? (w ++ v) (byteSize w) =
    (first? v).map fun parts => ⟨parts.2.1, byteSize (w ++ parts.1)⟩ := by
  rw [find?, Text.dropBytes?_byteSize_append]
  cases hfirst : first? v with
  | none => simp only [hfirst, Option.map_none]
  | some parts => simp only [hfirst, Option.map_some, byteSize_append]

/-- From an offset that is no boundary on, nothing is found. -/
private lemma find?_of_not_isBoundary {t : Text} {n : Nat} (h : ¬IsBoundary t n) :
    find? t n = none := by
  have hdrop : Text.dropBytes? n t = none := by
    cases hdrop : Text.dropBytes? n t with
    | none => rfl
    | some rest =>
      obtain ⟨before, rfl, rfl⟩ := Text.dropBytes?_eq_some_iff.1 hdrop
      exact absurd ⟨before, rest, rfl, rfl⟩ h
  rw [find?, hdrop]

section Braces

variable {w v before rest : Text} (hopen : Text.breakOn opening v = some (before, rest))

include hopen

/-- The text behind a boundary, cut at the first opening in it. -/
private lemma append_opening : w ++ before ++ opening ++ rest = w ++ v := by
  rw [← Text.append_of_breakOn hopen]
  simp

/-- The first opening at or behind a boundary. -/
private lemma isLeast_opening :
    IsLeast {i | byteSize w ≤ i ∧ StandsAt opening (w ++ v) i} (byteSize (w ++ before)) :=
  Text.isLeast_of_breakOn (by decide) (by decide) hopen w

/-- The first closing behind this opening. -/
private lemma isLeast_closing {name after : Text}
    (hclose : Text.breakOn closing rest = some (name, after)) :
    IsLeast {j | byteSize (w ++ before) + byteSize opening ≤ j ∧ StandsAt closing (w ++ v) j}
      (byteSize (w ++ before ++ opening ++ name)) := by
  rw [← append_opening hopen, ← byteSize_append]
  exact Text.isLeast_of_breakOn (by decide) (by decide) hclose _

/-- Where no closing is found behind this opening, there is none. -/
private lemma not_standsAt_closing (hclose : Text.breakOn closing rest = none) {j : Nat}
    (hj : byteSize (w ++ before) + byteSize opening ≤ j) : ¬StandsAt closing (w ++ v) j := by
  rw [← append_opening hopen]
  exact Text.not_standsAt_of_breakOn (by decide) (by decide) hclose _ (by rwa [byteSize_append])

end Braces

/-- The rest of a text has a placeholder exactly if an opening with a closing behind it stands in
it.

**Proof sketch.** The search fails only if nothing opens, or if nothing closes behind the first
opening; and every opening stands behind the first one, with its closing behind that. The other way
round, what is found is such an opening with a closing. -/
private lemma opensAndCloses_iff {w v : Text} :
    OpensAndCloses (w ++ v) (byteSize w) ↔ first? v ≠ none := by
  constructor
  · rintro ⟨i, j, hi, hopens, hj, hcloses⟩ hnone
    cases hopen : Text.breakOn opening v with
    | none => exact Text.not_standsAt_of_breakOn (by decide) (by decide) hopen w hi hopens
    | some parts =>
      -- every opening stands behind the first one, and so does its closing
      have hfirst := (isLeast_opening hopen).2 ⟨hi, hopens⟩
      have hclose := (Text.breakOn_eq_none_iff (by decide)).2 (not_closing_of_none hnone hopen)
      exact not_standsAt_closing hopen hclose ((Nat.add_le_add_right hfirst _).trans hj) hcloses
  · intro hsome
    obtain ⟨⟨before, name, after⟩, hfirst⟩ := Option.ne_none_iff_exists'.1 hsome
    obtain ⟨rest, hopen, hclose⟩ := first?_eq_some_iff.1 hfirst
    obtain ⟨hi, hopens⟩ := (isLeast_opening (w := w) hopen).1
    obtain ⟨hj, hcloses⟩ := (isLeast_closing (w := w) hopen hclose).1
    exact ⟨_, _, hi, hopens, hj, hcloses⟩

/-- **Nothing is found exactly where there is nothing**: behind the end of the text, inside a
character, or where no opening with a closing behind it follows. -/
theorem find?_eq_none_iff {t : Text} {n : Nat} :
    find? t n = none ↔ byteSize t < n ∨ IsInside t n ∨ ¬OpensAndCloses t n := by
  rw [← or_assoc, ← Text.not_isBoundary_iff]
  by_cases hboundary : IsBoundary t n
  · obtain ⟨w, v, rfl, rfl⟩ := hboundary
    have hin : IsBoundary (w ++ v) (byteSize w) := ⟨w, v, rfl, rfl⟩
    rw [find?_append, Option.map_eq_none_iff, opensAndCloses_iff, not_not]
    simp [hin]
  · simp [find?_of_not_isBoundary hboundary, hboundary]

/-- **What is found is the leftmost placeholder.**

**Proof sketch.** The offset is a boundary, so the text behind it is searched. The opening found
there is the first one and the closing the first behind it, and both offsets are moved by what
stands in front. -/
theorem find?_isFirstFrom {t : Text} {n : Nat} {p : Placeholder} (h : find? t n = some p) :
    IsFirstFrom t n p := by
  have hboundary : IsBoundary t n := by
    by_contra hnot
    simp [find?_of_not_isBoundary hnot] at h
  obtain ⟨w, v, rfl, rfl⟩ := hboundary
  rw [find?_append] at h
  obtain ⟨⟨before, name, after⟩, hfirst, rfl⟩ := Option.map_eq_some_iff.1 h
  obtain ⟨rest, hopen, hclose⟩ := first?_eq_some_iff.1 hfirst
  have hslice : IsSlice (w ++ v) (byteSize (w ++ before))
      (stop ⟨name, byteSize (w ++ before)⟩) (opening ++ name ++ closing) :=
    ⟨w ++ before, after, by rw [← append_of_first? hfirst]; simp [written], rfl,
      byteSize_append ..⟩
  refine ⟨isLeast_opening hopen, ⟨_, isLeast_closing hopen hclose, ?_⟩, hslice, ?_,
    hslice.isBoundary⟩
  · rw [← byteSize_append, List.append_assoc, List.append_assoc, byteSize_append (w ++ before)]
    simp [stop, text, written]
  · exact fun hname => Text.not_double_infix_of_breakOn hclose
      (hname.trans (List.prefix_append ..).isInfix)

/-! ## The rounds of the scanner -/

/-- The rounds of the scanner from an offset on: it looks for the leftmost placeholder and goes on
behind it, until it finds none. -/
inductive Yields (t : Text) : Nat → List Placeholder → Prop where
  /-- There is no further placeholder. -/
  | done {cursor : Nat} (h : find? t cursor = none) : Yields t cursor []
  /-- A placeholder is found. -/
  | next {cursor : Nat} {p : Placeholder} {ps : List Placeholder} (h : find? t cursor = some p)
      (hrest : Yields t p.stop ps) : Yields t cursor (p :: ps)

/-- The rounds can be made in one way only. -/
private lemma Yields.unique {t : Text} {cursor : Nat} {ps qs : List Placeholder}
    (hp : Yields t cursor ps) (hq : Yields t cursor qs) : ps = qs := by
  induction hp generalizing qs with
  | done h =>
    cases hq with
    | done => rfl
    | next h' => simp [h] at h'
  | next h _ ih =>
    cases hq with
    | done h' => simp [h] at h'
    | next h' hrest =>
      obtain rfl := Option.some.inj (h.symm.trans h')
      rw [ih hrest]

/-- From a boundary on, the rounds give the placeholders among the pieces of the rest. -/
private lemma yields_locate (w v : Text) :
    Yields (w ++ v) (byteSize w) (locate (byteSize w) (pieces v)) := by
  fun_induction pieces v generalizing w with
  | case1 v h => exact .done (by rw [find?_append, h, Option.map_none])
  | case2 v before name after h ih =>
    have hwhole : w ++ v = w ++ before ++ written name ++ after := by
      rw [← append_of_first? h]
      simp
    have hfind : find? (w ++ v) (byteSize w) = some ⟨name, byteSize (w ++ before)⟩ := by
      rw [find?_append, h, Option.map_some]
    have hrest := ih (w ++ before ++ written name)
    rw [← hwhole, byteSize_append (w ++ before)] at hrest
    rw [locate, locate, ← byteSize_append]
    exact .next hfind hrest

/-- **The rounds of the scanner** end, and give the placeholders of the text. -/
theorem yields_iff {t : Text} {ps : List Placeholder} : Yields t 0 ps ↔ ps = scan t := by
  have hscan : Yields t 0 (scan t) := yields_locate [] t
  exact ⟨fun h => h.unique hscan, fun h => h ▸ hscan⟩

/-- The placeholders of the rounds lie behind the offset, one behind the other. -/
private lemma Yields.ordered {t : Text} {cursor : Nat} {ps : List Placeholder}
    (h : Yields t cursor ps) : (∀ p ∈ ps, cursor ≤ p.start) ∧
      ps.Pairwise fun p q => p.start < q.start ∧ p.stop ≤ q.start := by
  induction h with
  | done => simp
  | @next cursor p ps hfind _ ih =>
    obtain ⟨hbehind, hordered⟩ := ih
    have hstart : cursor ≤ p.start := (find?_isFirstFrom hfind).opens.1.1
    have hstop := start_lt_stop p
    refine ⟨List.forall_mem_cons.2 ⟨hstart, fun q hq => ?_⟩, List.pairwise_cons.2 ⟨fun q hq => ?_,
      hordered⟩⟩
    · exact hstart.trans (hstop.le.trans (hbehind q hq))
    · exact ⟨hstop.trans_le (hbehind q hq), hbehind q hq⟩

/-- The placeholders of the rounds are written in the text between their offsets. -/
private lemma Yields.slice {t : Text} {cursor : Nat} {ps : List Placeholder}
    (h : Yields t cursor ps) :
    ∀ p ∈ ps, IsSlice t p.start p.stop p.text := by
  induction h with
  | done => simp
  | next hfind _ ih => exact List.forall_mem_cons.2 ⟨(find?_isFirstFrom hfind).slice, ih⟩

/-! ## The text between the placeholders -/

/-- A text without a placeholder has no opening with a closing behind it. -/
private lemma not_closed_of_none {t : Text} (h : first? t = none) :
    ¬∃ u v w, t = u ++ opening ++ v ++ closing ++ w := by
  rintro ⟨u, v, w, rfl⟩
  have hopens : StandsAt opening (u ++ opening ++ (v ++ closing ++ w)) (byteSize u) :=
    IsSlice.standsAt ⟨u, _, rfl, rfl, rfl⟩
  have hcloses : StandsAt closing (u ++ opening ++ v ++ closing ++ w)
      (byteSize (u ++ opening ++ v)) := IsSlice.standsAt ⟨_, w, rfl, rfl, rfl⟩
  have hle : byteSize u + byteSize opening ≤ byteSize (u ++ opening ++ v) := by
    rw [← byteSize_append]
    exact Text.byteSize_mono (List.prefix_append ..)
  have hboth : OpensAndCloses ([] ++ (u ++ opening ++ v ++ closing ++ w)) (byteSize []) :=
    ⟨_, _, Nat.zero_le _, by simpa using hopens, hle, hcloses⟩
  exact opensAndCloses_iff.1 hboth h

/-- The pieces of a text are gaps without an opening, each with the placeholder behind it, and a
rest in which no opening is closed.

**Proof sketch.** By induction along the pieces of the text. The gap in front of a placeholder
holds no opening, because the first one is found at its end, and what is left at the end has no
opening that is closed. -/
private lemma exists_gaps (offset : Nat) (t : Text) :
    ∃ gaps rest, gaps.length = (locate offset (pieces t)).length ∧
      (∀ gap ∈ gaps, ¬opening <:+: gap) ∧
      (¬∃ u v w, rest = u ++ opening ++ v ++ closing ++ w) ∧
      (List.zipWith (fun gap p => gap ++ p.text) gaps (locate offset (pieces t))).flatten ++ rest =
        t := by
  fun_induction pieces t generalizing offset with
  | case1 t h => exact ⟨[], t, rfl, by simp, not_closed_of_none h, rfl⟩
  | case2 t before name after h ih =>
    obtain ⟨gaps, rest, hlength, hgaps, hrest, hflatten⟩ :=
      ih (offset + byteSize before + byteSize (written name))
    obtain ⟨_, hopen, -⟩ := first?_eq_some_iff.1 h
    have hgap : ¬opening <:+: before := fun hbefore =>
      Text.not_double_infix_of_breakOn hopen (hbefore.trans (List.prefix_append ..).isInfix)
    refine ⟨before :: gaps, rest, by simp [locate, hlength], List.forall_mem_cons.2 ⟨hgap, hgaps⟩,
      hrest, ?_⟩
    rw [locate, locate, List.zipWith_cons_cons, List.flatten_cons, List.append_assoc, hflatten]
    exact append_of_first? h

/-- **The scanner finds exactly the placeholders, and loses nothing.** From any offset on it finds
the leftmost opening that has a closing behind it, with the nearest such closing, and finds nothing
where there is none. Its rounds end, the placeholders follow each other without overlap, no opening
stands in the gaps in front of them, none that is closed stands behind the last one, and the gaps
and the placeholders in order are the text.

**Proof sketch.** The scan goes on behind each placeholder that it finds, so it yields what the
search finds step by step (`yields_iff`). What one step finds is the leftmost placeholder
(`find?_isFirstFrom`), and the order, the slices and the gaps follow along the steps. -/
theorem scan_exact (t : Text) :
    (∀ n, (find? t n = none ↔ byteSize t < n ∨ IsInside t n ∨ ¬OpensAndCloses t n) ∧
      ∀ p, find? t n = some p → IsFirstFrom t n p) ∧
    (∀ ps, Yields t 0 ps ↔ ps = scan t) ∧
    (scan t).Pairwise (fun p q => p.start < q.start ∧ p.stop ≤ q.start) ∧
    (∀ p ∈ scan t, IsSlice t p.start p.stop p.text) ∧
    ∃ gaps rest, gaps.length = (scan t).length ∧
      (∀ gap ∈ gaps, ¬opening <:+: gap) ∧
      (¬∃ u v w, rest = u ++ opening ++ v ++ closing ++ w) ∧
      (List.zipWith (fun gap p => gap ++ p.text) gaps (scan t)).flatten ++ rest = t := by
  have hyields : Yields t 0 (scan t) := yields_iff.2 rfl
  exact ⟨fun n => ⟨find?_eq_none_iff, fun p => find?_isFirstFrom⟩, fun ps => yields_iff,
    hyields.ordered.2, hyields.slice, exists_gaps 0 t⟩

/-- A character of two bytes, runs of three and four opening braces, and an opening behind the last
placeholder that is not closed. -/
def runsOfBraces : Text :=
  'é' :: (written ('{' :: "a".toList) ++ '}' :: written ('{' :: '{' :: "b".toList) ++ opening ++
    "c".toList)

/-- From inside the first character on nothing is found, the first two braces of a run open a
placeholder, and the opening at the end has no closing. -/
theorem scan_exact_runsOfBraces :
    find? runsOfBraces 1 = none ∧ IsFirstFrom runsOfBraces 2 ⟨['{', 'a'], 2⟩ ∧
      ¬OpensAndCloses runsOfBraces 16 ∧
      Yields runsOfBraces 0 [⟨['{', 'a'], 2⟩, ⟨['{', '{', 'b'], 9⟩] := by
  obtain ⟨hfind, hyields, -⟩ := scan_exact runsOfBraces
  have hinside : IsInside runsOfBraces 1 :=
    ⟨[], 'é', runsOfBraces.tail, by cbv, by decide, by decide⟩
  have hfound : find? runsOfBraces 2 = some ⟨['{', 'a'], 2⟩ := by cbv
  have hscan : [⟨['{', 'a'], 2⟩, ⟨['{', '{', 'b'], 9⟩] = scan runsOfBraces := by cbv
  have hend : find? runsOfBraces 16 = none := by cbv
  have hboundary : IsBoundary runsOfBraces 16 :=
    ⟨runsOfBraces.dropLast.dropLast.dropLast, opening ++ "c".toList, by cbv, by cbv⟩
  refine ⟨(hfind 1).1.2 (.inr (.inl hinside)), (hfind 2).2 _ hfound, ?_, (hyields _).2 hscan⟩
  have hnothing := (hfind 16).1.1 hend
  rw [← or_assoc, ← Text.not_isBoundary_iff] at hnothing
  exact hnothing.resolve_left (not_not.2 hboundary)

end Placeholder

end StaticSite
