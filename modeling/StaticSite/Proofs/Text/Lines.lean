import Mathlib
import StaticSite.Text.Basic

set_option relaxedAutoImplicit false
set_option autoImplicit false

/-!
# The lines of a text

A line holds a line feed at its end only. Some lines at the end of a text are the lines of the text
that they make up, so a text may be taken apart line by line.

## Main results

* `StaticSite.Text.lines_append` — the first line ends at the first line feed.
* `StaticSite.Text.length_lines_append` — the number of lines is that of the line feeds.
* `StaticSite.Text.exists_of_mem_lines` — a line is a text without a line feed, and perhaps one
  behind it.
* `StaticSite.Text.lines_flatten_of_suffix` — the last lines are the lines of a text.
-/

namespace StaticSite.Text

/-- The first line ends at the first line feed. -/
lemma lines_append {l : Text} (h : '\n' ∉ l) (t : Text) :
    lines (l ++ '\n' :: t) = (l ++ ['\n']) :: lines t := by
  induction l with
  | nil => simp [lines]
  | cons c l ih =>
    obtain ⟨hc, hl⟩ := not_or.1 (List.mem_cons.not.1 h)
    rw [List.cons_append, lines, if_neg (Ne.symm hc), ih hl]
    rfl

/-- A text without a line feed is one line. -/
lemma lines_of_notMem {l : Text} (h : '\n' ∉ l) (hne : l ≠ []) : lines l = [l] := by
  induction l with
  | nil => exact absurd rfl hne
  | cons c l ih =>
    obtain ⟨hc, hl⟩ := not_or.1 (List.mem_cons.not.1 h)
    rw [lines, if_neg (Ne.symm hc)]
    cases l with
    | nil => rfl
    | cons d l => rw [ih hl (by simp)]

/-- Every line feed ends a line. -/
lemma length_lines_append (s t : Text) :
    (lines (s ++ '\n' :: t)).length = s.count '\n' + 1 + (lines t).length := by
  induction s with
  | nil => simp [lines, Nat.add_comm]
  | cons c s ih =>
    rw [List.cons_append, lines]
    split
    · next hc =>
      rw [List.length_cons, ih, hc, List.count_cons_self]
      omega
    · next hc =>
      rw [List.count_cons_of_ne hc, ← ih]
      -- the rest has a line, which `c` is put in front of
      cases hlines : lines (s ++ '\n' :: t) with
      | nil =>
        rw [hlines, List.length_nil] at ih
        omega
      | cons line rest => rfl

/-- A line is a text without a line feed, and perhaps one behind it.

**Proof sketch.** By induction on the text. A line feed is a line by itself; any other character is
put in front of the first line of the rest, which stays without a line feed but at its end. -/
lemma exists_of_mem_lines {line t : Text} (h : line ∈ lines t) :
    ∃ l, '\n' ∉ l ∧ (line = l ∨ line = l ++ ['\n']) := by
  induction t generalizing line with
  | nil => simp [lines] at h
  | cons c t ih =>
    unfold lines at h
    split at h
    · next hc =>
      rcases List.mem_cons.1 h with rfl | h
      · exact ⟨[], by simp, Or.inr (by rw [hc]; rfl)⟩
      · exact ih h
    · next hc =>
      have hnew : '\n' ≠ c := Ne.symm hc
      split at h
      · obtain rfl := List.mem_singleton.1 h
        exact ⟨[c], by simpa using hnew, Or.inl rfl⟩
      · next first rest hlines =>
        rcases List.mem_cons.1 h with rfl | h
        · obtain ⟨l, hl, hline⟩ := ih (hlines ▸ List.mem_cons_self)
          refine ⟨c :: l, by simp [hnew, hl], ?_⟩
          rcases hline with rfl | rfl
          · exact Or.inl rfl
          · exact Or.inr rfl
        · exact ih (hlines ▸ List.mem_cons_of_mem _ h)

/-- The lines behind the first one are the lines of a text. -/
private lemma lines_flatten_of_cons {t line : Text} {ls : List Text} (h : lines t = line :: ls) :
    lines ls.flatten = ls := by
  induction t generalizing line with
  | nil => simp [lines] at h
  | cons c t ih =>
    unfold lines at h
    split at h
    · obtain ⟨-, rfl⟩ := List.cons.inj h
      rw [flatten_lines]
    · split at h
      · obtain ⟨-, rfl⟩ := List.cons.inj h
        rfl
      · next first rest hlines =>
        obtain ⟨-, rfl⟩ := List.cons.inj h
        exact ih hlines

/-- The last lines of a text are the lines of the text they make up. -/
lemma lines_flatten_of_suffix {t : Text} {ls : List Text} (h : ls <:+ lines t) :
    lines ls.flatten = ls := by
  obtain ⟨front, hfront⟩ := h
  induction front generalizing t with
  | nil =>
    rw [List.nil_append] at hfront
    rw [hfront, flatten_lines]
  | cons line front ih =>
    exact ih (lines_flatten_of_cons hfront.symm).symm

end StaticSite.Text
