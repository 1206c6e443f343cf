import Mathlib
import StaticSite.Text.Utf8

set_option relaxedAutoImplicit false
set_option autoImplicit false

/-!
# Encoding and decoding

A text is read back from the bytes that encode it. Any other bytes are read piece by piece, and
a byte of ASCII ends a piece wherever it stands, so bytes can be read on its two sides apart.

## Main results

* `StaticSite.Utf8.length_encode` — the size of a text is the number of its bytes.
* `StaticSite.Utf8.decodeWithReplacement_encode` — an encoded text is read back.
* `StaticSite.Utf8.decodeWithReplacement_append_cons` — a byte of ASCII stands for itself between
  any others.
-/

namespace StaticSite.Utf8

/-! ## The bytes of a character -/

/-- The greatest code point. -/
private lemma toNat_lt (c : Char) : c.toNat < 0x110000 := by
  rcases c.valid with hv | hv
  · exact lt_trans hv (by decide)
  · exact hv.2

/-- A character has at least one byte. -/
lemma encodeChar_ne_nil (c : Char) : encodeChar c ≠ [] := by
  unfold encodeChar
  simp only
  split_ifs <;> simp

/-- A character of ASCII is its own byte. -/
lemma encodeChar_of_ascii {c : Char} (h : c.toNat < 0x80) :
    encodeChar c = [UInt8.ofNat c.toNat] := by
  simp [encodeChar, h]

/-- The size of a character is the number of its bytes. -/
lemma length_encodeChar (c : Char) : (encodeChar c).length = c.utf8Size := by
  have hval : c.toNat = c.val.toNat := rfl
  unfold encodeChar Char.utf8Size
  simp only [UInt32.le_iff_toNat_le, hval]
  split_ifs <;> simp_all <;> omega

/-- The bytes of every other character lie above those of ASCII. -/
lemma le_of_mem_encodeChar {c : Char} (h : 0x80 ≤ c.toNat) {b : UInt8} (hb : b ∈ encodeChar c) :
    0x80 ≤ b.toNat := by
  have hmax := toNat_lt c
  unfold encodeChar continuationByte at hb
  simp only at hb
  generalize c.toNat = n at h hmax hb
  split_ifs at hb <;> simp only [List.mem_cons, List.not_mem_nil, or_false] at hb <;>
    rcases hb with rfl | rfl | rfl | rfl <;> rw [UInt8.toNat_ofNat'] <;> omega

/-! ## The bytes of a text -/

/-- The bytes of two texts that are put together. -/
lemma encode_append (s t : Text) : encode (s ++ t) = encode s ++ encode t := List.flatMap_append

/-- The bytes of a text are those of its first character and of the others. -/
lemma encode_cons (c : Char) (t : Text) : encode (c :: t) = encodeChar c ++ encode t :=
  List.flatMap_cons

/-- **The size of a text** is the number of its bytes. -/
theorem length_encode (t : Text) : (encode t).length = Text.byteSize t := by
  induction t with
  | nil => rfl
  | cons c t ih => rw [encode_cons, List.length_append, length_encodeChar, ih, Text.byteSize_cons]

/-! ## Reading a text back -/

/-- A byte that carries six bits lies in its range, and its bits are read from it. -/
private lemma toNat_continuationByte (n : ℕ) : (continuationByte n).toNat = 0x80 + n % 0x40 := by
  rw [continuationByte, UInt8.toNat_ofNat']
  omega

/-- The next six bits of a character are read if their byte is within bounds. -/
private lemma continuation_continuationByte {count : ℕ} {low high : UInt8} {bits n : ℕ}
    {bytes : List UInt8} (hlow : low.toNat ≤ 0x80 + n % 0x40)
    (hhigh : 0x80 + n % 0x40 ≤ high.toNat) :
    continuation (count + 1) low high bits (continuationByte n :: bytes) =
      continuation count 0x80 0xbf (bits * 0x40 + n % 0x40) bytes := by
  have hbyte := toNat_continuationByte n
  rw [continuation, if_pos, hbyte, Nat.add_sub_cancel_left]
  rw [UInt8.le_iff_toNat_le, UInt8.le_iff_toNat_le, hbyte]
  exact ⟨hlow, hhigh⟩

/-- Behind the second byte there are no narrower bounds. -/
private lemma continuation_full {count bits n : ℕ} {bytes : List UInt8} :
    continuation (count + 1) 0x80 0xbf bits (continuationByte n :: bytes) =
      continuation count 0x80 0xbf (bits * 0x40 + n % 0x40) bytes := by
  have h80 : (0x80 : UInt8).toNat = 0x80 := rfl
  have hbf : (0xbf : UInt8).toNat = 0xbf := rfl
  exact continuation_continuationByte (by omega) (by omega)

/-- The second byte is read if it is within the narrower bounds that the first one may set. -/
private lemma continuation_narrowed {count bits k a b n : ℕ} {low high : UInt8}
    {bytes : List UInt8} (hlow : k = a → low.toNat ≤ 0x80 + n % 0x40)
    (hhigh : k = b → 0x80 + n % 0x40 ≤ high.toNat) :
    continuation (count + 1) (if k = a then low else 0x80) (if k = b then high else 0xbf) bits
        (continuationByte n :: bytes) =
      continuation count 0x80 0xbf (bits * 0x40 + n % 0x40) bytes := by
  have h80 : (0x80 : UInt8).toNat = 0x80 := rfl
  have hbf : (0xbf : UInt8).toNat = 0xbf := rfl
  refine continuation_continuationByte ?_ ?_
  · split
    · next h => exact hlow h
    · omega
  · split
    · next h => exact hhigh h
    · omega

/-- What the first of two bytes says. -/
private lemma lead?_two : ∀ k < 0x20, 2 ≤ k →
    lead? (UInt8.ofNat (0xc0 + k)) = some ⟨1, 0x80, 0xbf, k⟩ := by
  decide

/-- What the first of three bytes says. -/
private lemma lead?_three : ∀ k < 0x10, lead? (UInt8.ofNat (0xe0 + k)) =
    some ⟨2, if k = 0 then 0xa0 else 0x80, if k = 0xd then 0x9f else 0xbf, k⟩ := by
  decide

/-- What the first of four bytes says. -/
private lemma lead?_four : ∀ k < 5, lead? (UInt8.ofNat (0xf0 + k)) =
    some ⟨3, if k = 0 then 0x90 else 0x80, if k = 4 then 0x8f else 0xbf, k⟩ := by
  decide

/-- The first of several bytes is not in ASCII. -/
private lemma not_ofNat_lt {n : ℕ} (h : 0x80 ≤ n) (hn : n < 0x100) : ¬UInt8.ofNat n < 0x80 := by
  rw [UInt8.lt_iff_toNat_lt, UInt8.toNat_ofNat', Nat.mod_eq_of_lt hn]
  exact Nat.not_lt.2 h

/-- **A character is read back** from its bytes, whatever follows them.

**Proof sketch.** By the number of bytes. The first one says how many there are and, for three and
four bytes, narrows the range of the second one: the shorter forms and the surrogates that this
rules out belong to no character. The others carry the digits of the code point to base 64, which
the reader puts together again. -/
lemma decodeOne_encodeChar (c : Char) :
    ∃ b bytes, encodeChar c = b :: bytes ∧
      ∀ rest, decodeOne b (bytes ++ rest) = (some c, rest) := by
  have hmax := toNat_lt c
  have hsurrogate : ¬(0xd800 ≤ c.toNat ∧ c.toNat < 0xe000) := by
    rcases c.valid with hv | hv
    · have : c.toNat < 0xd800 := hv
      omega
    · have : 0xdfff < c.toNat := hv.1
      omega
  have hc : Char.ofNat c.toNat = c := Char.ofNat_toNat c
  unfold encodeChar
  simp only
  generalize hn : c.toNat = n at hmax hsurrogate hc
  split_ifs with h₁ h₂ h₃
  · -- one byte
    refine ⟨_, _, rfl, fun rest => ?_⟩
    have hbyte : (UInt8.ofNat n).toNat = n := by
      rw [UInt8.toNat_ofNat', Nat.mod_eq_of_lt (by omega)]
    rw [decodeOne, if_pos (by rw [UInt8.lt_iff_toNat_lt, hbyte]; exact h₁), hbyte, hc]
    rfl
  · -- two bytes
    refine ⟨_, _, rfl, fun rest => ?_⟩
    rw [decodeOne, if_neg (not_ofNat_lt (by omega) (by omega)),
      lead?_two (n / 0x40) (by omega) (by omega)]
    simp only [List.cons_append, List.nil_append]
    rw [continuation_full, continuation, Option.map_some, ← hc]
    congr 3
    omega
  · -- three bytes
    refine ⟨_, _, rfl, fun rest => ?_⟩
    rw [decodeOne, if_neg (not_ofNat_lt (by omega) (by omega)),
      lead?_three (n / 0x1000) (by omega)]
    simp only [List.cons_append, List.nil_append]
    have hlow : n / 0x1000 = 0 → 0xa0 ≤ 0x80 + n / 0x40 % 0x40 := by omega
    have hhigh : n / 0x1000 = 0xd → 0x80 + n / 0x40 % 0x40 ≤ 0x9f := by omega
    rw [continuation_narrowed hlow hhigh, continuation_full, continuation, Option.map_some, ← hc]
    congr 3
    omega
  · -- four bytes
    refine ⟨_, _, rfl, fun rest => ?_⟩
    rw [decodeOne, if_neg (not_ofNat_lt (by omega) (by omega)),
      lead?_four (n / 0x40000) (by omega)]
    simp only [List.cons_append, List.nil_append]
    have hlow : n / 0x40000 = 0 → 0x90 ≤ 0x80 + n / 0x1000 % 0x40 := by omega
    have hhigh : n / 0x40000 = 4 → 0x80 + n / 0x1000 % 0x40 ≤ 0x8f := by omega
    rw [continuation_narrowed hlow hhigh, continuation_full, continuation_full, continuation,
      Option.map_some, ← hc]
    congr 3
    omega

/-- The characters of an encoded text are read one by one. -/
private lemma decodeAll_encode (t : Text) : decodeAll (encode t) = t.map some := by
  induction t with
  | nil => rw [encode, List.flatMap_nil, decodeAll, List.map_nil]
  | cons c t ih =>
    obtain ⟨b, bytes, hbytes, hread⟩ := decodeOne_encodeChar c
    rw [encode_cons, hbytes, List.cons_append, decodeAll, hread, ih, List.map_cons]

/-- **An encoded text is read back.** -/
@[simp]
theorem decodeWithReplacement_encode (t : Text) : decodeWithReplacement (encode t) = t := by
  rw [decodeWithReplacement, decodeAll_encode, List.map_map]
  exact List.map_id t

/-- An encoded text is well-formed. -/
@[simp]
lemma decode?_encode (t : Text) : decode? (encode t) = some t := by
  rw [decode?, decodeAll_encode]
  induction t with
  | nil => rfl
  | cons c t ih => simp [ih]

/-- Different texts have different bytes. -/
lemma encode_injective : Function.Injective encode :=
  Function.LeftInverse.injective decodeWithReplacement_encode

/-! ## Bytes of ASCII between others -/

/-- Where a byte of ASCII follows, the rest of a character ends in front of it at the latest. -/
private lemma continuation_append_cons {b : UInt8} (hb : b < 0x80) (count : ℕ) (low high : UInt8)
    (hlow : 0x80 ≤ low) (bits : ℕ) (front back : List UInt8) :
    continuation count low high bits (front ++ b :: back) =
      ((continuation count low high bits front).1,
        (continuation count low high bits front).2 ++ b :: back) := by
  fun_induction continuation count low high bits front with
  | case1 low high bits bytes => rw [continuation]
  | case2 count low high bits =>
    have hout : ¬(low ≤ b ∧ b ≤ high) := fun h =>
      absurd (UInt8.lt_of_lt_of_le hb hlow) (UInt8.not_lt.2 h.1)
    rw [List.nil_append, continuation, if_neg hout]
  | case3 count low high bits a bytes h ih =>
    rw [List.cons_append, continuation, if_pos h]
    exact ih (by decide)
  | case4 count low high bits a bytes h =>
    rw [List.cons_append, continuation, if_neg h]

/-- Where a byte of ASCII follows, the first character ends in front of it at the latest. -/
private lemma decodeOne_append_cons {b : UInt8} (hb : b < 0x80) (a : UInt8)
    (front back : List UInt8) :
    decodeOne a (front ++ b :: back) =
      ((decodeOne a front).1, (decodeOne a front).2 ++ b :: back) := by
  have hlow : ∀ lead, lead? a = some lead → 0x80 ≤ lead.low := by
    intro lead h
    unfold lead? at h
    split_ifs at h <;> obtain rfl := Option.some.inj h <;> simp
  unfold decodeOne
  split
  · rfl
  · cases hlead : lead? a with
    | none => rfl
    | some lead => simp only [continuation_append_cons hb _ _ _ (hlow lead hlead)]

/-- The characters on the two sides of a byte of ASCII are read apart.

**Proof sketch.** Induction on the number of bytes in front, since a character takes several of
them. What is read first ends in front of the byte (`decodeOne_append_cons`). -/
private lemma decodeAll_append_cons {b : UInt8} (hb : b < 0x80) (front back : List UInt8) :
    decodeAll (front ++ b :: back) =
      decodeAll front ++ some (Char.ofNat b.toNat) :: decodeAll back := by
  fun_induction decodeAll front with
  | case1 =>
    rw [List.nil_append, decodeAll, decodeOne, if_pos hb]
    rfl
  | case2 a front ih =>
    rw [List.cons_append, decodeAll, decodeOne_append_cons hb, ih]
    rfl

/-- **A byte of ASCII stands for itself** between any others. -/
theorem decodeWithReplacement_append_cons {b : UInt8} (hb : b < 0x80) (front back : List UInt8) :
    decodeWithReplacement (front ++ b :: back) =
      decodeWithReplacement front ++ Char.ofNat b.toNat :: decodeWithReplacement back := by
  simp [decodeWithReplacement, decodeAll_append_cons hb]

/-- What the first byte of several says puts the code point above ASCII. -/
private lemma lead?_bound {b : UInt8} {lead : Lead} (h : lead? b = some lead) :
    ∃ count, lead.count = count + 1 ∧
      0x80 ≤ (lead.bits * 0x40 + (lead.low.toNat - 0x80)) * 0x40 ^ count := by
  unfold lead? at h
  simp only [UInt8.lt_iff_toNat_lt, UInt8.le_iff_toNat_le, ← UInt8.toNat_inj,
    UInt8.reduceToNat] at h
  split_ifs at h <;> obtain rfl := Option.some.inj h
  all_goals exact ⟨_, rfl, by simp only [UInt8.reduceToNat]; omega⟩

/-- The code point that is put together has the bits that were read first in front. -/
private lemma le_of_continuation {count : ℕ} {low high : UInt8} {bits n : ℕ} {bytes : List UInt8}
    (h : (continuation count low high bits bytes).1 = some n) : bits * 0x40 ^ count ≤ n := by
  fun_induction continuation count low high bits bytes with
  | case1 low high bits bytes =>
    obtain rfl : bits = n := by simpa using h
    simp
  | case2 => simp at h
  | case3 count low high bits b bytes _ ih =>
    have hle := ih h
    rw [Nat.pow_succ']
    nlinarith [Nat.zero_le ((b.toNat - 0x80) * 0x40 ^ count)]
  | case4 => simp at h

/-- A character of ASCII is read only from its own byte.

**Proof sketch.** The character is the byte itself if this is below `0x80`. From several bytes
comes a code point that is at least `0x80`, by the bounds on the first of the bytes that follow, so
the character is not of ASCII. -/
private lemma of_decodeOne_ascii {b : UInt8} {bytes : List UInt8} {c : Char} (hc : 0 < c.toNat)
    (hascii : c.toNat < 0x80) (h : (decodeOne b bytes).1 = some c) : b.toNat = c.toNat := by
  unfold decodeOne at h
  split at h
  · next hb =>
    obtain rfl := Option.some.inj h
    rw [Char.toNat_ofNat, if_pos]
    exact Or.inl (by have := UInt8.lt_iff_toNat_lt.1 hb; simp at this; omega)
  · split at h
    · simp at h
    · next lead hlead =>
      obtain ⟨n, hn, rfl⟩ := Option.map_eq_some_iff.1 h
      obtain ⟨count, hcount, hbound⟩ := lead?_bound hlead
      rw [hcount] at hn
      -- the code point of several bytes lies above ASCII
      have hn' : 0x80 ≤ n := by
        cases bytes with
        | nil => simp [continuation] at hn
        | cons a rest =>
          rw [continuation] at hn
          split at hn
          · next hrange =>
            have hlow := UInt8.le_iff_toNat_le.1 hrange.1
            refine le_trans (le_trans hbound ?_) (le_of_continuation hn)
            exact Nat.mul_le_mul_right _ (by omega)
          · simp at hn
      rw [Char.toNat_ofNat] at hc hascii
      split at hascii <;> simp_all
      omega

/-- **A character of ASCII is read first** only if its byte is the first. -/
theorem head?_of_decodeWithReplacement {bytes : List UInt8} {c : Char} (hc : 0 < c.toNat)
    (hascii : c.toNat < 0x80) (h : (decodeWithReplacement bytes).head? = some c) :
    bytes.head? = some (UInt8.ofNat c.toNat) := by
  cases bytes with
  | nil => simp [decodeWithReplacement, decodeAll] at h
  | cons b bytes =>
    simp only [decodeWithReplacement, decodeAll, List.map_cons, List.head?_cons,
      Option.some.injEq] at h
    cases hread : (decodeOne b bytes).1 with
    | none =>
      rw [hread, Option.getD_none] at h
      rw [← h] at hascii
      exact absurd hascii (by decide)
    | some d =>
      obtain rfl : d = c := by simpa [hread] using h
      rw [← of_decodeOne_ascii hc hascii hread, UInt8.ofNat_toNat]
      rfl

/-! ## Starts of bytes -/

/-- The rest of a character is cut short, or what follows it is.

**Proof sketch.** By induction on the number of bytes that follow. Where the cut falls behind the
last byte that is read, only the rest is cut; where it falls in front, too few bytes are left and
none is read. -/
private lemma continuation_take (count : ℕ) (low high : UInt8) (bits : ℕ) (bytes : List UInt8)
    (k : ℕ) :
    continuation count low high bits (bytes.take k) = (none, []) ∨
      ∃ j, continuation count low high bits (bytes.take k) =
        ((continuation count low high bits bytes).1,
          (continuation count low high bits bytes).2.take j) := by
  fun_induction continuation count low high bits bytes generalizing k with
  | case1 low high bits bytes => exact Or.inr ⟨k, by rw [continuation]⟩
  | case2 count low high bits => exact Or.inl (by rw [List.take_nil, continuation])
  | case3 count low high bits b bytes h ih =>
    cases k with
    | zero => exact Or.inl (by rw [List.take_zero, continuation])
    | succ k =>
      rw [List.take_succ_cons, continuation, if_pos h]
      exact ih k
  | case4 count low high bits b bytes h =>
    cases k with
    | zero => exact Or.inl (by rw [List.take_zero, continuation])
    | succ k => exact Or.inr ⟨k + 1, by rw [List.take_succ_cons, continuation, if_neg h]⟩

/-- The first character is cut short, or what follows it is. -/
private lemma decodeOne_take (b : UInt8) (bytes : List UInt8) (k : ℕ) :
    decodeOne b (bytes.take k) = (none, []) ∨
      ∃ j, decodeOne b (bytes.take k) =
        ((decodeOne b bytes).1, (decodeOne b bytes).2.take j) := by
  unfold decodeOne
  split
  · exact Or.inr ⟨k, rfl⟩
  · cases lead? b with
    | none => exact Or.inr ⟨k, rfl⟩
    | some lead =>
      rcases continuation_take lead.count lead.low lead.high lead.bits bytes k with h | ⟨j, h⟩
      · exact Or.inl (by simp only [h, Option.map_none])
      · exact Or.inr ⟨j, by simp only [h]⟩

/-- A start of some bytes has the characters of the whole, and may end in a character that is cut
short. -/
private lemma mem_decodeAll_take {bytes : List UInt8} {k : ℕ} {c : Option Char}
    (h : c ∈ decodeAll (bytes.take k)) : c = none ∨ c ∈ decodeAll bytes := by
  fun_induction decodeAll bytes generalizing k with
  | case1 => simp [decodeAll] at h
  | case2 b bytes ih =>
    cases k with
    | zero => simp [decodeAll] at h
    | succ k =>
      rw [List.take_succ_cons, decodeAll] at h
      rcases decodeOne_take b bytes k with hcut | ⟨j, hcut⟩
      · rw [hcut] at h
        simpa [decodeAll] using Or.inl h
      · rw [hcut] at h
        rcases List.mem_cons.1 h with rfl | h
        · exact Or.inr List.mem_cons_self
        · exact (ih h).imp id (List.mem_cons_of_mem _)

/-- **A start of some bytes** is read as characters of the whole, and replacements. -/
theorem mem_decodeWithReplacement_take {bytes : List UInt8} {k : ℕ} {c : Char}
    (h : c ∈ decodeWithReplacement (bytes.take k)) :
    c = replacement ∨ c ∈ decodeWithReplacement bytes := by
  obtain ⟨d, hd, rfl⟩ := List.mem_map.1 h
  rcases mem_decodeAll_take hd with rfl | hd
  · exact Or.inl rfl
  · exact Or.inr (List.mem_map.2 ⟨d, hd, rfl⟩)

@[simp]
lemma decodeWithReplacement_nil : decodeWithReplacement [] = [] := by
  rw [decodeWithReplacement, decodeAll, List.map_nil]

end StaticSite.Utf8
