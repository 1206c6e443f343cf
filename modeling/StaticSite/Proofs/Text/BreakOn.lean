import Mathlib
import StaticSite.Text.Basic

set_option relaxedAutoImplicit false
set_option autoImplicit false

/-!
# Searching in texts that are put together

Where the first occurrence of a pattern lies depends on what stands in front of it only.

## Main results

* `StaticSite.Text.breakOn_eq_none_iff` — a pattern is not found if it does not occur.
* `StaticSite.Text.prefix_of_breakOn` — what is found is the first occurrence.
* `StaticSite.Text.breakOn_append` — an occurrence is found whatever follows it.
* `StaticSite.Text.breakOn_of_notMem`, `StaticSite.Text.breakOn_skip` — a text in which no
  occurrence starts is passed over.
-/

namespace StaticSite.Text

/-- A pattern is not found exactly if it does not occur.

**Proof sketch.** By induction on the text: the pattern occurs in it if it stands in front, which
is when it can be dropped, or if it occurs in the rest. -/
lemma breakOn_eq_none_iff {pattern t : Text} (hp : pattern ≠ []) :
    breakOn pattern t = none ↔ ¬pattern <:+: t := by
  induction t with
  | nil =>
    cases pattern with
    | nil => exact absurd rfl hp
    | cons c p => simp [breakOn]
  | cons c t ih =>
    unfold breakOn
    rw [List.infix_cons_iff, not_or, ← ih]
    cases h : dropPrefix? pattern (c :: t) with
    | some rest =>
      have hstarts : pattern <+: c :: t := ⟨rest, (dropPrefix?_eq_some_iff.1 h).symm⟩
      simp [hstarts]
    | none =>
      have hstarts : ¬pattern <+: c :: t := by
        rintro ⟨rest, hrest⟩
        rw [dropPrefix?_eq_some_iff.2 hrest.symm] at h
        simp at h
      simp [hstarts]

/-- What is found is the first occurrence: the text in front of every other one starts with the text
in front of it.

**Proof sketch.** By induction on the text. If the pattern does not start the text, it is found
further on, and the other occurrence is further on as well. -/
lemma prefix_of_breakOn {pattern t before after u v : Text}
    (h : breakOn pattern t = some (before, after)) (heq : t = u ++ pattern ++ v) :
    before <+: u := by
  induction t generalizing before u with
  | nil =>
    obtain ⟨hu, -⟩ := List.append_eq_nil_iff.1 heq.symm
    obtain ⟨rfl, rfl⟩ := List.append_eq_nil_iff.1 hu
    obtain ⟨rfl, -⟩ : [] = before ∧ [] = after := by simpa [breakOn] using h
    exact List.nil_prefix
  | cons c t ih =>
    obtain ⟨rfl, -⟩ | ⟨front, rfl, hnone, hrest⟩ := breakOn_cons_eq_some_iff.1 h
    · exact List.nil_prefix
    · cases u with
      | nil =>
        rw [List.nil_append] at heq
        rw [dropPrefix?_eq_some_iff.2 heq] at hnone
        simp at hnone
      | cons d u =>
        obtain ⟨rfl, ht⟩ := List.cons.inj heq
        exact List.cons_prefix_cons.2 ⟨rfl, ih hrest ht⟩

/-- An occurrence that is found is found whatever follows the text.

**Proof sketch.** By induction on the text. If the pattern does not start the text, it does not
start the longer one either: it is found in the rest, so the text is long enough to hold it. -/
lemma breakOn_append {pattern t before after : Text} (hp : pattern ≠ [])
    (h : breakOn pattern t = some (before, after)) (w : Text) :
    breakOn pattern (t ++ w) = some (before, after ++ w) := by
  induction t generalizing before with
  | nil =>
    cases pattern with
    | nil => exact absurd rfl hp
    | cons c p => simp [breakOn] at h
  | cons c t ih =>
    rw [List.cons_append, breakOn_cons_eq_some_iff]
    obtain ⟨rfl, hstart⟩ | ⟨front, rfl, hnone, hrest⟩ := breakOn_cons_eq_some_iff.1 h
    · have happend : c :: (t ++ w) = pattern ++ (after ++ w) := by
        rw [← List.cons_append, dropPrefix?_eq_some_iff.1 hstart, List.append_assoc]
      exact .inl ⟨rfl, dropPrefix?_eq_some_iff.2 happend⟩
    · have hstart : dropPrefix? pattern (c :: (t ++ w)) = none := by
        cases hnew : dropPrefix? pattern (c :: (t ++ w)) with
        | none => rfl
        | some rest =>
          -- the text holds the pattern further on, so it is long enough to hold it at its start
          have hlength : pattern.length ≤ (c :: t).length := by
            rw [← append_of_breakOn hrest]
            simp only [List.length_append, List.length_cons]
            omega
          have hstarts : pattern <+: c :: t :=
            List.prefix_of_prefix_length_le ⟨rest, (dropPrefix?_eq_some_iff.1 hnew).symm⟩
              (List.prefix_append (c :: t) w) hlength
          obtain ⟨rest', hrest'⟩ := hstarts
          rw [dropPrefix?_eq_some_iff.2 hrest'.symm] at hnone
          simp at hnone
      exact .inr ⟨front, rfl, hstart, ih hrest⟩

/-- A pattern is found behind a text that its first character is not in. -/
lemma breakOn_of_notMem {c : Char} {p s : Text} (h : c ∉ s) (t : Text) :
    breakOn (c :: p) (s ++ (c :: p ++ t)) = some (s, t) := by
  induction s with
  | nil =>
    have hstart : dropPrefix? (c :: p) (c :: (p ++ t)) = some t := dropPrefix?_eq_some_iff.2 rfl
    rw [List.nil_append, List.cons_append, breakOn, hstart]
  | cons a s ih =>
    obtain ⟨hc, hs⟩ := not_or.1 (List.mem_cons.not.1 h)
    have hnone : dropPrefix? (c :: p) (a :: (s ++ (c :: p ++ t))) = none := by
      simp [dropPrefix?, hc]
    rw [List.cons_append, breakOn, hnone, ih hs]
    rfl

/-- A text is cut at the first of a character. -/
lemma breakOn_singleton {c : Char} {s : Text} (h : c ∉ s) (t : Text) :
    breakOn [c] (s ++ c :: t) = some (s, t) := breakOn_of_notMem h t

/-- A doubled character is found at once where it stands. -/
lemma breakOn_double (c : Char) (w : Text) : breakOn [c, c] (c :: c :: w) = some ([], w) := by
  have h : c :: c :: w = [c, c] ++ w := rfl
  rw [breakOn, dropPrefix?_eq_some_iff.2 h]

/-- A text is passed over if the character is doubled nowhere in it, not even if it follows.

**Proof sketch.** By induction on the text. The doubled character does not start it, not even
together with the character that follows, so the search goes on. -/
lemma breakOn_skip {c : Char} {t : Text} (h : ¬[c, c] <:+: t ++ [c]) (w : Text) :
    breakOn [c, c] (t ++ w) =
      (breakOn [c, c] w).map fun parts => (t ++ parts.1, parts.2) := by
  induction t with
  | nil => simp
  | cons a t ih =>
    rw [List.cons_append, List.infix_cons_iff, not_or] at h
    obtain ⟨hstart, hrest⟩ := h
    have hnone : dropPrefix? [c, c] (a :: (t ++ w)) = none := by
      cases hsome : dropPrefix? [c, c] (a :: (t ++ w)) with
      | none => rfl
      | some rest =>
        have heq := dropPrefix?_eq_some_iff.1 hsome
        refine absurd ?_ hstart
        cases t with
        | nil =>
          obtain rfl : a = c := (List.cons.inj heq).1
          exact ⟨[], rfl⟩
        | cons b t =>
          obtain ⟨rfl, heq⟩ := List.cons.inj heq
          obtain ⟨rfl, -⟩ := List.cons.inj heq
          exact ⟨t ++ [b], rfl⟩
    rw [List.cons_append, breakOn, hnone]
    simp only [ih hrest, Option.map_map]
    rfl

/-- In front of the first place where a character is doubled it is doubled nowhere, not even with
the first of the two.

**Proof sketch.** By induction on the text. If the doubled character started the part in front
together with the first of the two, it would start the text, and would have been found there. -/
lemma not_double_infix_of_breakOn {c : Char} {t before after : Text}
    (h : breakOn [c, c] t = some (before, after)) : ¬[c, c] <:+: before ++ [c] := by
  induction t generalizing before with
  | nil => simp [breakOn] at h
  | cons a t ih =>
    obtain ⟨rfl, -⟩ | ⟨front, rfl, hnone, hrest⟩ := breakOn_cons_eq_some_iff.1 h
    · intro hwithin
      simpa using hwithin.length_le
    · rw [List.cons_append, List.infix_cons_iff, not_or]
      refine ⟨?_, ih hrest⟩
      -- the text goes on with the doubled character, so its start would have been found
      have happend : a :: t = (a :: (front ++ [c])) ++ (c :: after) := by
        rw [← append_of_breakOn hrest]
        simp
      intro hstarts
      obtain ⟨rest, hrest⟩ := hstarts.trans ⟨_, happend.symm⟩
      rw [dropPrefix?_eq_some_iff.2 hrest.symm] at hnone
      simp at hnone

/-- A character is doubled in two texts that are put together if it is in one of them, or ends the
first and starts the second. -/
lemma double_infix_append_iff {c : Char} {s t : Text} :
    [c, c] <:+: s ++ t ↔
      [c, c] <:+: s ∨ [c, c] <:+: t ∨ s.getLast? = some c ∧ t.head? = some c := by
  induction s with
  | nil => simp
  | cons a s ih =>
    rw [List.cons_append, List.infix_cons_iff, List.infix_cons_iff, ih]
    cases s with
    | nil =>
      cases t with
      | nil => simp
      | cons b t =>
        have hcb : c = b ↔ b = c := eq_comm
        have hca : c = a ↔ a = c := eq_comm
        simp only [List.nil_append, List.cons_prefix_cons, List.nil_prefix, and_true,
          List.prefix_nil, reduceCtorEq, and_false, List.infix_nil, or_false, false_or,
          List.getLast?_singleton, List.head?_cons, Option.some.injEq, hcb, hca]
        tauto
    | cons b s => simp [List.cons_prefix_cons, or_assoc]

end StaticSite.Text
