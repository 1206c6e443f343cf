import Mathlib
import StaticSite.Proofs.Text.Offset
import StaticSite.Proofs.Text.Trim
import StaticSite.Text.Ascii

set_option relaxedAutoImplicit false
set_option autoImplicit false

/-!
# Matching up to case

A pattern that is matched up to the case of ASCII letters is found where it stands in a copy of the
text in small letters. The copy has its characters at the same offsets as the text, so what is found
in the copy can be cut out of the text.

## Main definitions

* `StaticSite.Text.StandsCaselessAt` — the bytes of a pattern stand at an offset, up to case.

## Main results

* `StaticSite.Text.dropPrefixCaseless?_eq_some_iff` — a match is a stretch that is the pattern up to
  case.
* `StaticSite.Text.breakOnCaseless_append` — a match that is found is found whatever follows.
* `StaticSite.Text.isSlice_toLowerAscii_iff` — the copy has its parts where the text has them.
* `StaticSite.Text.breakOn_toLowerAscii` — the search in the copy finds the same.
* `StaticSite.Text.trim_toLowerAscii` — the copy is trimmed where the text is.
-/

namespace StaticSite

namespace Text

/-- A match is a stretch that is the pattern up to case.

**Proof sketch.** By induction on the pattern, with one character taken off both texts. If the two
are the same up to case, the rest decides, and otherwise nothing matches, as a match has the same
number of characters as the pattern. -/
lemma dropPrefixCaseless?_eq_some_iff {p t rest : Text} : dropPrefixCaseless? p t = some rest ↔
    ∃ q, t = q ++ rest ∧ toLowerAscii q = toLowerAscii p := by
  induction p generalizing t with
  | nil => simp [dropPrefixCaseless?, toLowerAscii]
  | cons a p ih =>
    cases t with
    | nil => simp [dropPrefixCaseless?, toLowerAscii]
    | cons c t =>
      by_cases h : a.toLower = c.toLower
      · simp only [dropPrefixCaseless?, h, beq_self_eq_true, if_true, ih]
        constructor
        · rintro ⟨q, rfl, hq⟩
          exact ⟨c :: q, rfl, by simpa [toLowerAscii, h] using hq⟩
        · rintro ⟨_ | ⟨d, q⟩, heq, hq⟩
          · simp [toLowerAscii] at hq
          · obtain ⟨rfl, rfl⟩ : c = d ∧ t = q ++ rest := by simpa using heq
            exact ⟨q, rfl, by simpa [toLowerAscii, h] using hq⟩
      · simp only [dropPrefixCaseless?, beq_iff_eq, h, if_false]
        constructor
        · simp
        · rintro ⟨_ | ⟨d, q⟩, heq, hq⟩
          · simp [toLowerAscii] at hq
          · obtain ⟨rfl, rfl⟩ : c = d ∧ t = q ++ rest := by simpa using heq
            exact absurd (by simpa [toLowerAscii] using (List.cons.inj hq).1.symm) h

/-- Texts that are the same up to case have the same length. -/
lemma length_eq_of_toLowerAscii {s t : Text} (h : toLowerAscii s = toLowerAscii t) :
    s.length = t.length := by
  simpa [toLowerAscii] using congrArg List.length h

/-- A matched prefix is as long as the pattern. -/
lemma length_of_dropPrefixCaseless? {p t rest : Text} (h : dropPrefixCaseless? p t = some rest) :
    t.length = p.length + rest.length := by
  obtain ⟨q, rfl, hq⟩ := dropPrefixCaseless?_eq_some_iff.1 h
  rw [List.length_append, length_eq_of_toLowerAscii hq]

/-- What follows a text that is long enough does not matter for a match at its start. -/
lemma dropPrefixCaseless?_append {p t : Text} (h : p.length ≤ t.length) (w : Text) :
    dropPrefixCaseless? p (t ++ w) = (dropPrefixCaseless? p t).map (· ++ w) := by
  induction p generalizing t with
  | nil => simp [dropPrefixCaseless?]
  | cons a p ih =>
    cases t with
    | nil => simp at h
    | cons c t =>
      rw [List.cons_append, dropPrefixCaseless?, dropPrefixCaseless?]
      split
      · exact ih (by simpa using h)
      · rfl

/-- A pattern is found at the start of a text, or else where it is found in the rest. -/
lemma breakOnCaseless_cons_eq_some_iff {p t before after : Text} {c : Char} :
    breakOnCaseless p (c :: t) = some (before, after) ↔
      (before = [] ∧ dropPrefixCaseless? p (c :: t) = some after) ∨
        ∃ front, before = c :: front ∧ dropPrefixCaseless? p (c :: t) = none ∧
          breakOnCaseless p t = some (front, after) := by
  rw [breakOnCaseless]
  cases dropPrefixCaseless? p (c :: t) with
  | some rest => simp [eq_comm]
  | none =>
    constructor
    · intro h
      obtain ⟨parts, hparts, heq⟩ := Option.map_eq_some_iff.1 h
      obtain ⟨rfl, rfl⟩ : c :: parts.1 = before ∧ parts.2 = after := by simpa using heq
      exact .inr ⟨parts.1, rfl, rfl, hparts⟩
    · rintro (⟨-, h⟩ | ⟨front, rfl, -, h⟩)
      · simp at h
      · rw [h]
        rfl

/-- A text in which a pattern is found is as long as the pattern at least. -/
private lemma length_of_breakOnCaseless {p t before after : Text}
    (h : breakOnCaseless p t = some (before, after)) : p.length ≤ t.length := by
  induction t generalizing before after with
  | nil => cases p <;> simp_all [breakOnCaseless]
  | cons c t ih =>
    obtain ⟨-, hstart⟩ | ⟨front, -, -, hrest⟩ := breakOnCaseless_cons_eq_some_iff.1 h
    · have := length_of_dropPrefixCaseless? hstart
      omega
    · have := ih hrest
      simp only [List.length_cons]
      omega

/-- A match that is found is found whatever follows the text. -/
lemma breakOnCaseless_append {p t before after : Text} (hp : p ≠ [])
    (h : breakOnCaseless p t = some (before, after)) (w : Text) :
    breakOnCaseless p (t ++ w) = some (before, after ++ w) := by
  induction t generalizing before with
  | nil =>
    cases p with
    | nil => exact absurd rfl hp
    | cons c p => simp [breakOnCaseless] at h
  | cons c t ih =>
    have hlength := length_of_breakOnCaseless h
    have hdrop := dropPrefixCaseless?_append hlength w
    rw [List.cons_append] at hdrop ⊢
    rw [breakOnCaseless_cons_eq_some_iff, hdrop]
    obtain ⟨rfl, hstart⟩ | ⟨front, rfl, hnone, hrest⟩ := breakOnCaseless_cons_eq_some_iff.1 h
    · exact .inl ⟨rfl, by rw [hstart]; rfl⟩
    · exact .inr ⟨front, rfl, by rw [hnone]; rfl, ih hrest⟩

/-- The text in front of a match, the match and the text behind it are the text. -/
lemma append_of_breakOnCaseless {p t before after : Text}
    (h : breakOnCaseless p t = some (before, after)) :
    ∃ q, t = before ++ q ++ after ∧ toLowerAscii q = toLowerAscii p := by
  induction t generalizing before with
  | nil =>
    cases p with
    | nil =>
      obtain ⟨rfl, rfl⟩ : [] = before ∧ [] = after := by simpa [breakOnCaseless] using h
      exact ⟨[], rfl, rfl⟩
    | cons c p => simp [breakOnCaseless] at h
  | cons c t ih =>
    obtain ⟨rfl, hstart⟩ | ⟨front, rfl, -, hrest⟩ := breakOnCaseless_cons_eq_some_iff.1 h
    · obtain ⟨q, heq, hq⟩ := dropPrefixCaseless?_eq_some_iff.1 hstart
      exact ⟨q, by simpa using heq, hq⟩
    · obtain ⟨q, rfl, hq⟩ := ih hrest
      exact ⟨q, rfl, hq⟩

/-! ## The copy in small letters -/

/-- A character is kept, or a letter is made another one. -/
private lemma toLower_eq_or (c : Char) :
    c.toLower = c ∨ c.isAlpha = true ∧ c.toLower.isAlpha = true := by
  by_cases hupper : c.isUpper
  · have hc : c.isAlpha = true := by rw [Char.isAlpha, hupper, Bool.true_or]
    exact .inr ⟨hc, by rw [Char.isAlpha_toLower_eq_isAlpha, hc]⟩
  · exact .inl (Char.toLower_eq_of_not_isUpper hupper)

/-- A character that is no letter is made of itself only. -/
lemma toLower_eq_iff {c d : Char} (hd : d.isAlpha = false) : c.toLower = d ↔ c = d := by
  constructor
  · rintro rfl
    obtain hkept | ⟨-, halpha⟩ := toLower_eq_or c
    · exact hkept.symm
    · simp [hd] at halpha
  · rintro rfl
    obtain hkept | ⟨halpha, -⟩ := toLower_eq_or c
    · exact hkept
    · simp [hd] at halpha

/-- A letter has one byte. -/
private lemma utf8Size_of_isAlpha {c : Char} (h : c.isAlpha = true) : c.utf8Size = 1 := by
  rw [Char.utf8Size_eq_one_iff]
  simp only [Char.isAlpha, Char.isUpper, Char.isLower, Bool.or_eq_true, Bool.and_eq_true,
    decide_eq_true_eq, UInt32.le_iff_toNat_le, ge_iff_le, ↓Char.isValue, Char.reduceVal,
    UInt32.reduceToNat] at h ⊢
  omega

/-- A letter is no white space. -/
private lemma isWhiteSpace_of_isAlpha {c : Char} (h : c.isAlpha = true) :
    isWhiteSpace c = false := by
  cases hspace : isWhiteSpace c with
  | false => rfl
  | true =>
    simp only [isWhiteSpace, Char.isAlpha, Char.isUpper, Char.isLower, Bool.or_eq_true,
      Bool.and_eq_true, decide_eq_true_eq, beq_iff_eq, Char.le_def, UInt32.le_iff_toNat_le,
      Char.ext_iff, ← UInt32.toNat_inj, ge_iff_le, ↓Char.isValue, Char.reduceVal,
      UInt32.reduceToNat, Char.toNat_val] at h hspace
    omega

/-- A character that is made small has as many bytes. -/
private lemma utf8Size_toLower (c : Char) : c.toLower.utf8Size = c.utf8Size := by
  obtain hkept | ⟨hc, hsmall⟩ := toLower_eq_or c
  · rw [hkept]
  · rw [utf8Size_of_isAlpha hc, utf8Size_of_isAlpha hsmall]

/-- A character that is made small is white space if it was. -/
private lemma isWhiteSpace_toLower (c : Char) : isWhiteSpace c.toLower = isWhiteSpace c := by
  obtain hkept | ⟨hc, hsmall⟩ := toLower_eq_or c
  · rw [hkept]
  · rw [isWhiteSpace_of_isAlpha hc, isWhiteSpace_of_isAlpha hsmall]

/-- The copy in small letters has the size of the text. -/
lemma byteSize_toLowerAscii (t : Text) : byteSize (toLowerAscii t) = byteSize t := by
  induction t with
  | nil => rfl
  | cons c t ih =>
    rw [toLowerAscii, List.map_cons, byteSize_cons, utf8Size_toLower, byteSize_cons]
    exact congrArg _ ih

/-- The copies of two texts are put together. -/
lemma toLowerAscii_append (s t : Text) :
    toLowerAscii (s ++ t) = toLowerAscii s ++ toLowerAscii t := List.map_append

/-- The copy of a text that is not empty is not either. -/
private lemma toLowerAscii_ne_nil {t : Text} (h : t ≠ []) : toLowerAscii t ≠ [] := by
  simpa [toLowerAscii] using h

/-- Texts with the same copy have the same size. -/
lemma byteSize_eq_of_toLowerAscii {s t : Text} (h : toLowerAscii s = toLowerAscii t) :
    byteSize s = byteSize t := by
  rw [← byteSize_toLowerAscii, h, byteSize_toLowerAscii]

/-- **The parts of the copy** are the copies of the parts, between the same offsets. -/
theorem isSlice_toLowerAscii_iff {t part : Text} {i j : Nat} :
    IsSlice (toLowerAscii t) i j part ↔
      ∃ part', IsSlice t i j part' ∧ toLowerAscii part' = part := by
  constructor
  · rintro ⟨before, behind, heq, rfl, rfl⟩
    obtain ⟨front, behind', rfl, hfront, rfl⟩ := List.map_eq_append_iff.1 heq
    obtain ⟨before', part', rfl, rfl, rfl⟩ := List.map_eq_append_iff.1 hfront
    refine ⟨part', ⟨before', behind', rfl, ?_, ?_⟩, rfl⟩
    · exact (byteSize_toLowerAscii before').symm
    · rw [← byteSize_toLowerAscii, toLowerAscii_append]
      rfl
  · rintro ⟨part', ⟨before, behind, rfl, rfl, rfl⟩, rfl⟩
    refine ⟨toLowerAscii before, toLowerAscii behind, ?_, byteSize_toLowerAscii before, ?_⟩
    · rw [toLowerAscii_append, toLowerAscii_append]
    · rw [← toLowerAscii_append, byteSize_toLowerAscii]

/-- The copy starts with the copy of a pattern exactly if the text starts with the pattern up to
case. -/
private lemma dropPrefix?_toLowerAscii (p t : Text) :
    dropPrefix? (toLowerAscii p) (toLowerAscii t) = (dropPrefixCaseless? p t).map toLowerAscii := by
  induction p generalizing t with
  | nil => rfl
  | cons a p ih =>
    cases t with
    | nil => rfl
    | cons c t =>
      have hrest := ih t
      unfold toLowerAscii at *
      rw [List.map_cons, List.map_cons, dropPrefix?, dropPrefixCaseless?, hrest]
      by_cases h : a.toLower = c.toLower <;> simp [h]

/-- **The search in the copy** finds what is found up to case.

**Proof sketch.** By induction on the text: a pattern starts the copy exactly if it starts the text
up to case, and the copy of the rest is the rest of the copy. -/
theorem breakOn_toLowerAscii (p t : Text) : breakOn (toLowerAscii p) (toLowerAscii t) =
    (breakOnCaseless p t).map fun parts => (toLowerAscii parts.1, toLowerAscii parts.2) := by
  induction t with
  | nil =>
    cases p with
    | nil => rfl
    | cons c p => rfl
  | cons c t ih =>
    have hstart := dropPrefix?_toLowerAscii p (c :: t)
    have hcons : toLowerAscii (c :: t) = c.toLower :: toLowerAscii t := rfl
    rw [hcons] at hstart ⊢
    rw [breakOn, breakOnCaseless, hstart, ih]
    cases dropPrefixCaseless? p (c :: t) with
    | some rest => rfl
    | none =>
      rw [Option.map_none]
      dsimp only
      rw [Option.map_map, Option.map_map]
      rfl

/-- A character that is no letter is found up to case where it is found. -/
lemma breakOnCaseless_singleton {c : Char} (hc : c.isAlpha = false) (t : Text) :
    breakOnCaseless [c] t = breakOn [c] t := by
  induction t with
  | nil => rfl
  | cons d t ih =>
    have hsmall : c.toLower = c := (toLower_eq_iff hc).2 rfl
    by_cases hd : d = c
    · subst hd
      simp [breakOnCaseless, breakOn, dropPrefixCaseless?, dropPrefix?]
    · have hne : d.toLower ≠ c := fun h => hd ((toLower_eq_iff hc).1 h)
      simp [breakOnCaseless, breakOn, dropPrefixCaseless?, dropPrefix?, hsmall, Ne.symm hd,
        Ne.symm hne, ih]

/-- A pattern is not found up to case exactly if it does not occur in the copy. -/
lemma breakOnCaseless_eq_none_iff {p t : Text} (hp : p ≠ []) :
    breakOnCaseless p t = none ↔ ¬toLowerAscii p <:+: toLowerAscii t := by
  rw [← breakOn_eq_none_iff (toLowerAscii_ne_nil hp), breakOn_toLowerAscii, Option.map_eq_none_iff]

/-- A match starts at the start of a pattern and not in front of it, if the first character of the
pattern is in it only once: a match that runs over the border would hold it again.

**Proof sketch.** A match that starts in the text in front and does not end there runs over the
first character of the one behind. That character is the first of the pattern up to case, and it
would stand in the pattern behind its start. -/
private lemma dropPrefixCaseless?_of_border {c : Char} {p u w rest : Text}
    (hc : c.toLower ∉ toLowerAscii p) (hne : u ≠ [])
    (hu : ¬toLowerAscii (c :: p) <+: toLowerAscii u)
    (hw : dropPrefixCaseless? (c :: p) w = some rest) :
    dropPrefixCaseless? (c :: p) (u ++ w) = none := by
  cases hsome : dropPrefixCaseless? (c :: p) (u ++ w) with
  | none => rfl
  | some r =>
    obtain ⟨q, heq, hq⟩ := dropPrefixCaseless?_eq_some_iff.1 hsome
    have hwhole : ¬q <+: u := fun ⟨v, hv⟩ =>
      hu ⟨toLowerAscii v, by rw [← hq, ← toLowerAscii_append, hv]⟩
    obtain ⟨x, rfl, rfl⟩ | ⟨x, hx, -⟩ := List.append_eq_append_iff.1 heq
    · cases x with
      | nil => exact absurd (by simp) hwhole
      | cons d x =>
        obtain ⟨_ | ⟨e, q'⟩, heq', hq'⟩ := dropPrefixCaseless?_eq_some_iff.1 hw
        · simp [toLowerAscii] at hq'
        · obtain ⟨rfl, -⟩ := List.cons.inj heq'
          obtain ⟨a, u, rfl⟩ := List.exists_cons_of_ne_nil hne
          have hhead : d.toLower = c.toLower := (List.cons.inj hq').1
          have htail : toLowerAscii (u ++ d :: x) = toLowerAscii p := (List.cons.inj hq).2
          refine absurd ?_ hc
          rw [← htail, ← hhead]
          exact List.mem_map_of_mem (by simp)
    · exact absurd ⟨x, hx.symm⟩ hwhole

/-- A text in which a pattern does not occur is passed over, in front of the pattern, if the first
character of the pattern is in it only once.

**Proof sketch.** By induction on the text that is passed over. No match starts at its first
character: one within it is ruled out, and so is one that runs over the border
(`dropPrefixCaseless?_of_border`). -/
lemma breakOnCaseless_skip {c : Char} {p u w rest : Text} (hc : c.toLower ∉ toLowerAscii p)
    (hu : ¬toLowerAscii (c :: p) <:+: toLowerAscii u)
    (hw : dropPrefixCaseless? (c :: p) w = some rest) :
    breakOnCaseless (c :: p) (u ++ w) = some (u, rest) := by
  induction u with
  | nil =>
    cases w with
    | nil => simp [dropPrefixCaseless?] at hw
    | cons d w => rw [List.nil_append, breakOnCaseless, hw]
  | cons a u ih =>
    have hstart := dropPrefixCaseless?_of_border hc (List.cons_ne_nil a u)
      (fun h => hu h.isInfix) hw
    have hrest : ¬toLowerAscii (c :: p) <:+: toLowerAscii u := fun h =>
      hu (h.trans (List.suffix_cons ..).isInfix)
    rw [List.cons_append] at hstart ⊢
    rw [breakOnCaseless, hstart]
    dsimp only
    rw [ih hrest]
    rfl

/-- The bytes of a pattern stand among those of a text at an offset, up to case. -/
def StandsCaselessAt (pattern t : Text) (i : Nat) : Prop :=
  StandsAt (toLowerAscii pattern) (toLowerAscii t) i

section Ascii

variable {pattern : Text} (hascii : IsAscii (toLowerAscii pattern)) (hne : pattern ≠ [])

include hascii hne

/-- A pattern stands at an offset up to case exactly if the part behind the offset is the pattern up
to case. -/
lemma standsCaselessAt_iff {t : Text} {i : Nat} : StandsCaselessAt pattern t i ↔
    ∃ q, IsSlice t i (i + byteSize pattern) q ∧ toLowerAscii q = toLowerAscii pattern := by
  rw [StandsCaselessAt, standsAt_iff hascii (toLowerAscii_ne_nil hne), isSlice_toLowerAscii_iff,
    byteSize_toLowerAscii]

/-- **A search up to case finds the least offset**, wherever it starts. -/
theorem isLeast_of_breakOnCaseless {t before after : Text}
    (h : breakOnCaseless pattern t = some (before, after)) (w : Text) :
    IsLeast {i | byteSize w ≤ i ∧ StandsCaselessAt pattern (w ++ t) i}
      (byteSize (w ++ before)) := by
  have hcopy : breakOn (toLowerAscii pattern) (toLowerAscii t) =
      some (toLowerAscii before, toLowerAscii after) := by rw [breakOn_toLowerAscii, h]; rfl
  have hleast := isLeast_of_breakOn hascii (toLowerAscii_ne_nil hne) hcopy (toLowerAscii w)
  rwa [← toLowerAscii_append, ← toLowerAscii_append, byteSize_toLowerAscii,
    byteSize_toLowerAscii] at hleast

/-- A search up to case that finds nothing leaves no offset out, wherever it starts. -/
lemma not_standsCaselessAt_of_breakOnCaseless {t : Text} (h : breakOnCaseless pattern t = none)
    (w : Text) {i : Nat} (hle : byteSize w ≤ i) : ¬StandsCaselessAt pattern (w ++ t) i := by
  have hcopy : breakOn (toLowerAscii pattern) (toLowerAscii t) = none := by
    rw [breakOn_toLowerAscii, h]
    rfl
  rw [StandsCaselessAt, toLowerAscii_append]
  exact not_standsAt_of_breakOn hascii (toLowerAscii_ne_nil hne) hcopy _
    (by rwa [byteSize_toLowerAscii])

end Ascii

/-- A character that is no letter stands where it stands up to case. -/
lemma standsCaselessAt_singleton_iff {c : Char} (hascii : c.toNat < 0x80) (hc : c.isAlpha = false)
    {t : Text} {i : Nat} : StandsCaselessAt [c] t i ↔ StandsAt [c] t i := by
  have hcopy : toLowerAscii [c] = [c] := by
    rw [toLowerAscii, List.map_singleton, (toLower_eq_iff hc).2 rfl]
  have hpattern : IsAscii [c] := List.forall_mem_singleton.2 hascii
  rw [standsCaselessAt_iff (by rwa [hcopy]) (by simp), standsAt_iff hpattern (by simp), hcopy]
  constructor
  · rintro ⟨q, hslice, hq⟩
    obtain ⟨d, rfl, hd⟩ := List.map_eq_singleton_iff.1 hq
    rwa [(toLower_eq_iff hc).1 hd] at hslice
  · exact fun hslice => ⟨[c], hslice, hcopy⟩

/-! ## Trimming -/

/-- **The copy is trimmed where the text is.** -/
theorem trim_toLowerAscii (t : Text) : trim (toLowerAscii t) = toLowerAscii (trim t) := by
  have hspace : isWhiteSpace ∘ Char.toLower = isWhiteSpace := funext isWhiteSpace_toLower
  unfold trim trimEnd dropEndWhile trimStart toLowerAscii
  rw [List.dropWhile_map, ← List.map_reverse, List.dropWhile_map, ← List.map_reverse, hspace]

/-- A text is its white space in front, what it is trimmed to, and more. -/
lemma isSlice_trim (t : Text) :
    IsSlice t (byteSize (t.takeWhile isWhiteSpace))
      (byteSize (t.takeWhile isWhiteSpace) + byteSize (trim t)) (trim t) := by
  obtain ⟨behind, -, hbehind⟩ := exists_dropEndWhile_append isWhiteSpace (trimStart t)
  refine ⟨t.takeWhile isWhiteSpace, behind, ?_, rfl, byteSize_append ..⟩
  rw [trim, trimEnd, List.append_assoc, ← hbehind, trimStart, List.takeWhile_append_dropWhile]

/-- The white space in front of the copy has the size of that in front of the text. -/
lemma byteSize_takeWhile_toLowerAscii (t : Text) :
    byteSize ((toLowerAscii t).takeWhile isWhiteSpace) = byteSize (t.takeWhile isWhiteSpace) := by
  have hspace : isWhiteSpace ∘ Char.toLower = isWhiteSpace := funext isWhiteSpace_toLower
  rw [← byteSize_toLowerAscii (t.takeWhile isWhiteSpace), toLowerAscii, toLowerAscii,
    List.takeWhile_map, hspace]

end Text

end StaticSite
