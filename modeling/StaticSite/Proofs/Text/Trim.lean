import Mathlib
import StaticSite.Text.WhiteSpace

set_option relaxedAutoImplicit false
set_option autoImplicit false

/-!
# White space at the ends of a text

What is dropped from the end of a text are characters of one kind only, and a character of another
kind stops the search. So white space around a text does not change what the text is trimmed to.

## Main results

* `StaticSite.Text.dropEndWhile_append_cons` — what is in front of a character that is kept is kept.
* `StaticSite.Text.trim_append` — white space around a text does not change what is trimmed.
* `StaticSite.Text.trim_trim` — a trimmed text is trimmed to itself.
* `StaticSite.Text.trim_eq_nil_iff` — blank texts are those of which nothing is left.
-/

namespace StaticSite.Text

/-! ## Dropping from the end -/

/-- Characters that satisfy the test are dropped from the end. -/
private lemma dropEndWhile_append_of_all {p : Char → Bool} {e : Text} (h : ∀ c ∈ e, p c = true)
    (t : Text) :
    dropEndWhile p (t ++ e) = dropEndWhile p t := by
  have hnil : e.reverse.dropWhile p = [] := List.dropWhile_eq_nil_iff.2 (by simpa using h)
  rw [dropEndWhile, List.reverse_append, List.dropWhile_append, hnil]
  simp [dropEndWhile]

/-- A character that fails the test is kept, and all in front of it. -/
lemma dropEndWhile_append_cons {p : Char → Bool} {c : Char} (hc : p c = false) (s t : Text) :
    dropEndWhile p (s ++ c :: t) = s ++ c :: dropEndWhile p t := by
  have hreverse : (s ++ c :: t).reverse = t.reverse ++ c :: s.reverse := by simp
  rw [dropEndWhile, hreverse, List.dropWhile_append, dropEndWhile]
  cases hrest : t.reverse.dropWhile p with
  | nil => simp [hc]
  | cons a u => simp

/-- The text is what is left and the characters that were dropped. -/
lemma exists_dropEndWhile_append (p : Char → Bool) (t : Text) :
    ∃ e : Text, (∀ c ∈ e, p c = true) ∧ t = dropEndWhile p t ++ e := by
  refine ⟨(t.reverse.takeWhile p).reverse, fun c hc => ?_, ?_⟩
  · exact List.mem_takeWhile_imp (List.mem_reverse.1 hc)
  · rw [dropEndWhile, ← List.reverse_append, List.takeWhile_append_dropWhile, List.reverse_reverse]

/-! ## Trimming -/

/-- White space around a text does not change what it is trimmed to. -/
lemma trim_append {before behind : Text} (hbefore : ∀ c ∈ before, isWhiteSpace c = true)
    (hbehind : ∀ c ∈ behind, isWhiteSpace c = true) (t : Text) :
    trim (before ++ t ++ behind) = trim t := by
  have hnil : before.dropWhile isWhiteSpace = [] := List.dropWhile_eq_nil_iff.2 hbefore
  have hnil' : behind.dropWhile isWhiteSpace = [] := List.dropWhile_eq_nil_iff.2 hbehind
  rw [trim, trim, trimStart, trimStart, List.append_assoc, List.dropWhile_append, hnil]
  simp only [List.isEmpty_nil, if_true]
  rw [List.dropWhile_append, hnil']
  split
  · next hempty => rw [List.isEmpty_iff.1 hempty]
  · exact dropEndWhile_append_of_all hbehind _

/-- White space in front of a text is trimmed. -/
lemma trim_append_left {before : Text} (hbefore : ∀ c ∈ before, isWhiteSpace c = true) (t : Text) :
    trim (before ++ t) = trim t := by
  have hnone : ∀ c ∈ ([] : Text), isWhiteSpace c = true := by simp
  simpa using trim_append hbefore hnone t

/-- White space behind a text is trimmed. -/
lemma trim_append_right {behind : Text} (hbehind : ∀ c ∈ behind, isWhiteSpace c = true) (t : Text) :
    trim (t ++ behind) = trim t := by
  have hnone : ∀ c ∈ ([] : Text), isWhiteSpace c = true := by simp
  simpa using trim_append hnone hbehind t

/-- A text is what it is trimmed to with white space around. -/
private lemma exists_trim_append (t : Text) :
    ∃ before behind : Text, (∀ c ∈ before, isWhiteSpace c = true) ∧
      (∀ c ∈ behind, isWhiteSpace c = true) ∧ t = before ++ trim t ++ behind := by
  obtain ⟨behind, hbehind, happend⟩ := exists_dropEndWhile_append isWhiteSpace (trimStart t)
  refine ⟨t.takeWhile isWhiteSpace, behind, fun c hc => List.mem_takeWhile_imp hc, hbehind, ?_⟩
  rw [trim, trimEnd, List.append_assoc, ← happend, trimStart, List.takeWhile_append_dropWhile]

/-- A trimmed text is trimmed to itself. -/
lemma trim_trim (t : Text) : trim (trim t) = trim t := by
  obtain ⟨before, behind, hbefore, hbehind, happend⟩ := exists_trim_append t
  calc
    trim (trim t) = trim (before ++ trim t ++ behind) := (trim_append hbefore hbehind _).symm
    _ = trim t := by rw [← happend]

/-- Trimming adds no character. -/
lemma mem_of_mem_trim {c : Char} {t : Text} (h : c ∈ trim t) : c ∈ t := by
  obtain ⟨before, behind, -, -, happend⟩ := exists_trim_append t
  rw [happend]
  simp [h]

/-- Trimming makes no text longer. -/
lemma length_trim_le (t : Text) : (trim t).length ≤ t.length := by
  obtain ⟨before, behind, -, -, happend⟩ := exists_trim_append t
  have hlength := congrArg List.length happend
  simp only [List.length_append] at hlength
  omega

/-- A text is trimmed to a longer one if it goes on with anything but white space. -/
lemma length_trim_lt {c : Char} (hc : isWhiteSpace c = false) (t u : Text) :
    (trim t).length < (trim (t ++ c :: u)).length := by
  have hsolid : ∃ s : Text, trimStart (t ++ c :: u) = s ++ c :: u ∧
      (trimStart t).length ≤ s.length := by
    rw [trimStart, trimStart, List.dropWhile_append]
    split
    · next hempty =>
      rw [List.isEmpty_iff.1 hempty, List.dropWhile_cons_of_neg (by simp [hc])]
      exact ⟨[], rfl, le_rfl⟩
    · exact ⟨_, rfl, le_rfl⟩
  obtain ⟨s, hs, hle⟩ := hsolid
  obtain ⟨e, -, happend⟩ := exists_dropEndWhile_append isWhiteSpace (trimStart t)
  have hlength := congrArg List.length happend
  rw [trim, trim, hs, trimEnd, trimEnd, dropEndWhile_append_cons hc]
  simp only [List.length_append, List.length_cons] at hlength ⊢
  omega

/-- Nothing is left of a text exactly if it is blank. -/
lemma trim_eq_nil_iff {t : Text} : trim t = [] ↔ isBlank t = true := by
  unfold isBlank
  rw [List.all_eq_true]
  constructor
  · intro h
    obtain ⟨before, behind, hbefore, hbehind, happend⟩ := exists_trim_append t
    rw [h, List.append_nil] at happend
    rw [happend]
    exact List.forall_mem_append.2 ⟨hbefore, hbehind⟩
  · intro h
    have hnil : trim [] = [] := rfl
    simpa [hnil] using trim_append_left h []

end StaticSite.Text
