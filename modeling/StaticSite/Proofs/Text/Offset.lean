import Mathlib
import StaticSite.Proofs.Text.BreakOn
import StaticSite.Proofs.Text.Utf8

set_option relaxedAutoImplicit false
set_option autoImplicit false

/-!
# Offsets into a text

A search looks at the bytes of a text and answers with byte offsets, and a text may be cut at an
offset only if it lies between two characters. For a pattern of ASCII characters it always does: no
byte of a longer character is that of an ASCII one.

## Main definitions

* `StaticSite.Text.IsBoundary`, `StaticSite.Text.IsInside` — an offset lies between two characters,
  or inside of one.
* `StaticSite.Text.IsSlice` — the part of a text between two offsets.
* `StaticSite.Text.StandsAt` — the bytes of a pattern stand at an offset.

## Main results

* `StaticSite.Text.standsAt_iff` — an ASCII pattern stands among the bytes where it stands among the
  characters.
* `StaticSite.Text.isLeast_of_breakOn` — a search finds the least offset.
-/

namespace StaticSite

namespace Text

/-! ## Sizes of starts -/

/-- A longer text has more bytes. -/
lemma byteSize_mono {s t : Text} (h : s <+: t) : byteSize s ≤ byteSize t := by
  obtain ⟨w, rfl⟩ := h
  rw [byteSize_append]
  exact Nat.le_add_right _ _

/-- Only the empty text has no bytes. -/
lemma byteSize_pos {t : Text} (h : t ≠ []) : 0 < byteSize t := by
  cases t with
  | nil => exact absurd rfl h
  | cons c t =>
    rw [byteSize_cons]
    exact Nat.lt_of_lt_of_le (Char.utf8Size_pos c) (Nat.le_add_right _ _)

/-- Of two starts of a text, one that does not reach the other is shorter. -/
lemma byteSize_lt_of_prefix {s t w : Text} (hs : s <+: w) (ht : t <+: w) (h : ¬t <+: s) :
    byteSize s < byteSize t := by
  obtain ⟨v, rfl⟩ : s <+: t := (List.prefix_or_prefix_of_prefix hs ht).resolve_right h
  have hv : v ≠ [] := by
    rintro rfl
    simp at h
  rw [byteSize_append]
  exact Nat.lt_add_of_pos_right (byteSize_pos hv)

/-- A text has one start of a given size in bytes. -/
lemma eq_of_prefix_of_byteSize {s t w : Text} (hs : s <+: w) (ht : t <+: w)
    (h : byteSize s = byteSize t) : s = t := by
  have hst : t <+: s := by
    by_contra hnot
    have hlt := byteSize_lt_of_prefix hs ht hnot
    exact absurd h hlt.ne
  have hts : s <+: t := by
    by_contra hnot
    have hlt := byteSize_lt_of_prefix ht hs hnot
    exact absurd h hlt.ne'
  exact hts.eq_of_length_le hst.length_le

/-! ## Boundaries and slices -/

/-- The offset lies between two characters, or at an end of the text. -/
def IsBoundary (t : Text) (i : Nat) : Prop :=
  ∃ before behind, t = before ++ behind ∧ byteSize before = i

/-- The offset lies inside a character. -/
def IsInside (t : Text) (i : Nat) : Prop :=
  ∃ before c behind, t = before ++ c :: behind ∧ byteSize before < i ∧
    i < byteSize before + c.utf8Size

/-- The part of a text between two offsets. -/
def IsSlice (t : Text) (i j : Nat) (part : Text) : Prop :=
  ∃ before behind, t = before ++ part ++ behind ∧ byteSize before = i ∧
    byteSize (before ++ part) = j

/-- Both ends of a part are boundaries. -/
lemma IsSlice.isBoundary {t part : Text} {i j : Nat} (h : IsSlice t i j part) :
    IsBoundary t i ∧ IsBoundary t j := by
  obtain ⟨before, behind, rfl, rfl, rfl⟩ := h
  exact ⟨⟨before, part ++ behind, by simp, rfl⟩, ⟨before ++ part, behind, rfl, rfl⟩⟩

/-- A part ends as many bytes behind its start as it has. -/
lemma IsSlice.eq_add {t part : Text} {i j : Nat} (h : IsSlice t i j part) :
    j = i + byteSize part := by
  obtain ⟨before, behind, -, rfl, rfl⟩ := h
  exact byteSize_append before part

/-- There is one part between two offsets, at most. -/
lemma IsSlice.unique {t part part' : Text} {i j : Nat} (h : IsSlice t i j part)
    (h' : IsSlice t i j part') : part = part' := by
  obtain ⟨before, behind, rfl, rfl, rfl⟩ := h
  obtain ⟨before', behind', heq, hstart, hstop⟩ := h'
  have hbefore : before' = before := by
    refine eq_of_prefix_of_byteSize (w := before ++ part ++ behind) ?_ ?_ hstart
    · exact ⟨part' ++ behind', by rw [heq, List.append_assoc]⟩
    · exact ⟨part ++ behind, by rw [List.append_assoc]⟩
  subst hbefore
  have hpart : before' ++ part' = before' ++ part :=
    eq_of_prefix_of_byteSize ⟨behind', heq.symm⟩ ⟨behind, rfl⟩ hstop
  exact (List.append_cancel_left hpart).symm

/-- A part of a part is a part, its offsets counted from the start of the text. -/
lemma IsSlice.trans {t part piece : Text} {i j k l : Nat} (h : IsSlice t i j part)
    (h' : IsSlice part k l piece) : IsSlice t (i + k) (i + l) piece := by
  obtain ⟨before, behind, rfl, rfl, -⟩ := h
  obtain ⟨before', behind', rfl, rfl, rfl⟩ := h'
  exact ⟨before ++ before', behind' ++ behind, by simp, byteSize_append .., by
    rw [List.append_assoc, byteSize_append]⟩

/-- Parts that meet are one part together. -/
lemma IsSlice.append {t part part' : Text} {i j k : Nat} (h : IsSlice t i j part)
    (h' : IsSlice t j k part') : IsSlice t i k (part ++ part') := by
  obtain ⟨before, behind, rfl, rfl, rfl⟩ := h
  obtain ⟨before', behind', heq, hstart, rfl⟩ := h'
  obtain rfl : before' = before ++ part := by
    refine eq_of_prefix_of_byteSize (w := before ++ part ++ behind) ?_ ⟨behind, rfl⟩ hstart
    exact ⟨part' ++ behind', by rw [heq, List.append_assoc]⟩
  exact ⟨before, behind', by rw [heq]; simp, rfl, by rw [List.append_assoc]⟩

/-- A text can be cut at an offset exactly if it is that of a start of the text. -/
lemma dropBytes?_eq_some_iff {i : Nat} {t rest : Text} :
    dropBytes? i t = some rest ↔ ∃ before, t = before ++ rest ∧ byteSize before = i := by
  constructor
  · intro h
    fun_induction dropBytes? i t with
    | case1 t => exact ⟨[], by simpa using h, rfl⟩
    | case2 n => simp at h
    | case3 n c t hle ih =>
      obtain ⟨before, rfl, hsize⟩ := ih h
      exact ⟨c :: before, rfl, by rw [byteSize_cons, hsize]; omega⟩
    | case4 n c t hle => simp at h
  · rintro ⟨before, rfl, rfl⟩
    exact dropBytes?_byteSize_append before rest

section Cons

variable {c : Char} {t : Text}

/-- In front of the end of the first character, the only boundary is the start of the text. -/
private lemma isBoundary_cons_of_lt {i : Nat} (h : i < c.utf8Size) :
    IsBoundary (c :: t) i ↔ i = 0 := by
  constructor
  · rintro ⟨_ | ⟨d, before⟩, behind, heq, rfl⟩
    · rfl
    · obtain ⟨rfl, -⟩ := List.cons.inj heq
      rw [byteSize_cons] at h
      omega
  · rintro rfl
    exact ⟨[], c :: t, rfl, rfl⟩

/-- In front of the end of the first character, every other offset is inside of it. -/
private lemma isInside_cons_of_lt {i : Nat} (h : i < c.utf8Size) : IsInside (c :: t) i ↔ i ≠ 0 := by
  constructor
  · rintro ⟨before, d, behind, -, hbefore, -⟩
    exact Nat.ne_zero_of_lt hbefore
  · intro hne
    exact ⟨[], c, t, rfl, Nat.pos_of_ne_zero hne, by simpa using h⟩

/-- Behind the first character, the boundaries are those of the rest. -/
private lemma isBoundary_cons_add {k : Nat} :
    IsBoundary (c :: t) (c.utf8Size + k) ↔ IsBoundary t k := by
  constructor
  · rintro ⟨_ | ⟨d, before⟩, behind, heq, hsize⟩
    · have hpos := Char.utf8Size_pos c
      rw [byteSize_nil] at hsize
      omega
    · obtain ⟨rfl, rfl⟩ := List.cons.inj heq
      exact ⟨before, behind, rfl, by rw [byteSize_cons] at hsize; omega⟩
  · rintro ⟨before, behind, rfl, rfl⟩
    exact ⟨c :: before, behind, rfl, rfl⟩

/-- Behind the first character, an offset is inside a character of the rest. -/
private lemma isInside_cons_add {k : Nat} : IsInside (c :: t) (c.utf8Size + k) ↔ IsInside t k := by
  constructor
  · rintro ⟨_ | ⟨d, before⟩, e, behind, heq, hbefore, hbehind⟩
    · obtain ⟨rfl, rfl⟩ := List.cons.inj heq
      rw [byteSize_nil] at hbehind
      omega
    · obtain ⟨rfl, rfl⟩ := List.cons.inj heq
      rw [byteSize_cons] at hbefore hbehind
      exact ⟨before, e, behind, rfl, by omega, by omega⟩
  · rintro ⟨before, e, behind, rfl, hbefore, hbehind⟩
    refine ⟨c :: before, e, behind, rfl, ?_, ?_⟩ <;> rw [byteSize_cons] <;> omega

end Cons

/-- An offset that is no boundary lies behind the end or inside a character.

**Proof sketch.** By induction on the text. An offset below the size of the first character is
inside it unless it is 0; any other is an offset into the rest. -/
lemma not_isBoundary_iff {t : Text} {i : Nat} :
    ¬IsBoundary t i ↔ byteSize t < i ∨ IsInside t i := by
  induction t generalizing i with
  | nil =>
    have hinside : ¬IsInside [] i := by
      rintro ⟨before, c, behind, heq, -⟩
      simp at heq
    have hboundary : IsBoundary [] i ↔ i = 0 := by
      constructor
      · rintro ⟨before, behind, heq, rfl⟩
        obtain ⟨rfl, -⟩ := List.append_eq_nil_iff.1 heq.symm
        rfl
      · rintro rfl
        exact ⟨[], [], rfl, rfl⟩
    rw [hboundary, byteSize_nil]
    simp [hinside, Nat.pos_iff_ne_zero]
  | cons c t ih =>
    by_cases hlt : i < c.utf8Size
    · have hend : ¬byteSize (c :: t) < i := by
        rw [byteSize_cons]
        omega
      rw [isBoundary_cons_of_lt hlt, isInside_cons_of_lt hlt]
      tauto
    · obtain ⟨k, rfl⟩ := Nat.exists_eq_add_of_le (not_lt.1 hlt)
      rw [isBoundary_cons_add, isInside_cons_add, ih, byteSize_cons, Nat.add_lt_add_iff_left]

/-! ## Where a pattern stands -/

/-- The bytes of a pattern stand among those of a text at an offset. -/
def StandsAt (pattern t : Text) (i : Nat) : Prop :=
  Utf8.encode pattern <+: (Utf8.encode t).drop i

/-- A text of ASCII characters. -/
def IsAscii (t : Text) : Prop := ∀ c ∈ t, c.toNat < 0x80

instance (t : Text) : Decidable (IsAscii t) :=
  decidable_of_iff (t.all (·.toNat < 0x80) = true) (by simp [IsAscii])

/-- In front of more text, a pattern stands as many bytes further on. -/
private lemma standsAt_append {pattern t : Text} {i : Nat} (w : Text) :
    StandsAt pattern (w ++ t) (byteSize w + i) ↔ StandsAt pattern t i := by
  rw [StandsAt, StandsAt, Utf8.encode_append, ← Utf8.length_encode, List.drop_length_add_append]

/-- A part of a text that is the pattern has its bytes. -/
lemma IsSlice.standsAt {pattern t : Text} {i j : Nat} (h : IsSlice t i j pattern) :
    StandsAt pattern t i := by
  obtain ⟨before, behind, rfl, rfl, -⟩ := h
  have hstart : StandsAt pattern (pattern ++ behind) 0 := by
    rw [StandsAt, List.drop_zero, Utf8.encode_append]
    exact List.prefix_append ..
  rw [List.append_assoc]
  exact (standsAt_append before).2 hstart

section Ascii

variable {pattern : Text} (hascii : IsAscii pattern)

include hascii

/-- The bytes of a text start with those of an ASCII pattern exactly if the text starts with it.

**Proof sketch.** By induction on the pattern. An ASCII character is one byte, the same for equal
characters only, and the first byte of any other character is not below `0x80`. -/
private lemma encode_prefix_iff {t : Text} :
    Utf8.encode pattern <+: Utf8.encode t ↔ pattern <+: t := by
  induction pattern generalizing t with
  | nil => exact iff_of_true (List.nil_prefix ..) (List.nil_prefix ..)
  | cons p ps ih =>
    obtain ⟨hp, hps⟩ := List.forall_mem_cons.1 hascii
    rw [Utf8.encode_cons, Utf8.encodeChar_of_ascii hp, List.singleton_append]
    cases t with
    | nil => simp [Utf8.encode]
    | cons c t =>
      rw [Utf8.encode_cons, List.cons_prefix_cons]
      by_cases hc : c.toNat < 0x80
      · have hbyte : UInt8.ofNat p.toNat = UInt8.ofNat c.toNat ↔ p = c := by
          constructor
          · intro heq
            have hnat := congrArg UInt8.toNat heq
            rw [UInt8.toNat_ofNat', UInt8.toNat_ofNat', Nat.mod_eq_of_lt (by omega),
              Nat.mod_eq_of_lt (by omega)] at hnat
            exact Char.toNat_inj.1 hnat
          · rintro rfl
            rfl
        rw [Utf8.encodeChar_of_ascii hc, List.singleton_append, List.cons_prefix_cons, hbyte,
          ih hps]
      · -- the first byte of the character is not that of an ASCII one
        have hne : p ≠ c := by
          rintro rfl
          exact hc hp
        refine iff_of_false (fun hprefix => ?_) (fun hboth => hne hboth.1)
        obtain ⟨b, bytes, hbytes⟩ := List.exists_cons_of_ne_nil (Utf8.encodeChar_ne_nil c)
        rw [hbytes, List.cons_append, List.cons_prefix_cons] at hprefix
        have hb : 0x80 ≤ b.toNat :=
          Utf8.le_of_mem_encodeChar (not_lt.1 hc) (hbytes ▸ List.mem_cons_self)
        rw [← hprefix.1, UInt8.toNat_ofNat', Nat.mod_eq_of_lt (by omega)] at hb
        omega

variable (hne : pattern ≠ [])

include hne

/-- No ASCII pattern stands inside a character.

**Proof sketch.** The character has several bytes, so all of them are at least `0x80`, while the
pattern starts with a byte below that. -/
private lemma not_standsAt_of_lt {c : Char} {t : Text} {i : Nat} (hpos : 0 < i)
    (hlt : i < c.utf8Size) :
    ¬StandsAt pattern (c :: t) i := by
  obtain ⟨p, ps, rfl⟩ := List.exists_cons_of_ne_nil hne
  obtain ⟨hp, -⟩ := List.forall_mem_cons.1 hascii
  have hlength := Utf8.length_encodeChar c
  have hc : 0x80 ≤ c.toNat := by
    by_contra hsmall
    rw [Utf8.encodeChar_of_ascii (not_le.1 hsmall), List.length_singleton] at hlength
    omega
  intro hstands
  rw [StandsAt, Utf8.encode_cons c, List.drop_append_of_le_length (by omega), Utf8.encode_cons,
    Utf8.encodeChar_of_ascii hp, List.singleton_append,
    List.drop_eq_getElem_cons (by omega), List.cons_append, List.cons_prefix_cons] at hstands
  have hbyte := Utf8.le_of_mem_encodeChar hc (List.getElem_mem (by omega : i < _))
  rw [← hstands.1, UInt8.toNat_ofNat', Nat.mod_eq_of_lt (by omega)] at hbyte
  omega

/-- **An ASCII pattern stands among the bytes of a text** exactly where it is a part of it: between
two characters.

**Proof sketch.** From left to right by induction on the text. At its start the bytes decide as the
characters do (`encode_prefix_iff`), inside the first character no ASCII pattern stands
(`not_standsAt_of_lt`), and behind it the offset is one into the rest. -/
theorem standsAt_iff {t : Text} {i : Nat} :
    StandsAt pattern t i ↔ IsSlice t i (i + byteSize pattern) pattern := by
  refine ⟨fun h => ?_, IsSlice.standsAt⟩
  induction t generalizing i with
  | nil =>
    have hnil : Utf8.encode pattern = [] := by simpa [StandsAt, Utf8.encode] using h
    have hsize := Utf8.length_encode pattern
    rw [hnil, List.length_nil] at hsize
    exact absurd hsize (byteSize_pos hne).ne
  | cons c t ih =>
    rcases Nat.eq_zero_or_pos i with rfl | hpos
    · rw [StandsAt, List.drop_zero, encode_prefix_iff hascii] at h
      obtain ⟨behind, hbehind⟩ := h
      exact ⟨[], behind, hbehind.symm, rfl, by simp⟩
    · by_cases hlt : i < c.utf8Size
      · exact absurd h (not_standsAt_of_lt hascii hne hpos hlt)
      · obtain ⟨k, rfl⟩ : ∃ k, i = byteSize [c] + k :=
          ⟨i - c.utf8Size, by rw [byteSize_cons, byteSize_nil]; omega⟩
        rw [← List.singleton_append, standsAt_append] at h
        obtain ⟨before, behind, rfl, rfl, -⟩ := ih h
        exact ⟨c :: before, behind, rfl, rfl, by simp [Nat.add_assoc]⟩

/-! ## Searching for a pattern -/

/-- **A search finds the least offset**, wherever it starts. -/
theorem isLeast_of_breakOn {t before after : Text} (h : breakOn pattern t = some (before, after))
    (w : Text) :
    IsLeast {i | byteSize w ≤ i ∧ StandsAt pattern (w ++ t) i} (byteSize (w ++ before)) := by
  constructor
  · refine ⟨byteSize_mono (List.prefix_append ..), ?_⟩
    rw [byteSize_append, standsAt_append, standsAt_iff hascii hne]
    exact ⟨before, after, (append_of_breakOn h).symm, rfl, byteSize_append ..⟩
  · rintro i ⟨hle, hstands⟩
    obtain ⟨k, rfl⟩ := Nat.exists_eq_add_of_le hle
    rw [standsAt_append, standsAt_iff hascii hne] at hstands
    obtain ⟨u, v, heq, rfl, -⟩ := hstands
    rw [byteSize_append]
    exact Nat.add_le_add_left (byteSize_mono (prefix_of_breakOn h heq)) _

/-- A search that finds nothing leaves no offset out, wherever it starts. -/
lemma not_standsAt_of_breakOn {t : Text} (h : breakOn pattern t = none) (w : Text) {i : Nat}
    (hle : byteSize w ≤ i) : ¬StandsAt pattern (w ++ t) i := by
  obtain ⟨k, rfl⟩ := Nat.exists_eq_add_of_le hle
  rw [standsAt_append, standsAt_iff hascii hne]
  rintro ⟨u, v, rfl, -⟩
  exact (breakOn_eq_none_iff hne).1 h ⟨u, v, rfl⟩

end Ascii

end Text

end StaticSite
