import StaticSite.Text.Basic

set_option relaxedAutoImplicit false
set_option autoImplicit false

/-!
# UTF-8

Texts as bytes and bytes as texts. A stretch of bytes that starts no character ends before the
first byte that rules a character out; reading with replacement puts one replacement character
for each such stretch.

## Main definitions

* `StaticSite.Utf8.encode` — the bytes of a text.
* `StaticSite.Utf8.decodeOne` — the first character of some bytes.
* `StaticSite.Utf8.decode?` — the text of some bytes, if they are well-formed.
* `StaticSite.Utf8.decodeWithReplacement` — the text of any bytes.
-/

namespace StaticSite.Utf8

/-! ## Encoding -/

/-- A byte that carries six bits of a character. -/
def continuationByte (n : Nat) : UInt8 := UInt8.ofNat (0x80 + n % 0x40)

/-- The bytes of a character. -/
def encodeChar (c : Char) : List UInt8 :=
  let n := c.toNat
  if n < 0x80 then [UInt8.ofNat n]
  else if n < 0x800 then [UInt8.ofNat (0xc0 + n / 0x40), continuationByte n]
  else if n < 0x10000 then
    [UInt8.ofNat (0xe0 + n / 0x1000), continuationByte (n / 0x40), continuationByte n]
  else
    [UInt8.ofNat (0xf0 + n / 0x40000), continuationByte (n / 0x1000),
      continuationByte (n / 0x40), continuationByte n]

/-- The bytes of a text. -/
def encode (t : Text) : List UInt8 := t.flatMap encodeChar

/-! ## Decoding -/

/-- What the first byte of a character of several bytes says. -/
structure Lead where
  /-- How many bytes follow. -/
  count : Nat
  /-- The least second byte; a lesser one would make an overlong form. -/
  low : UInt8
  /-- The greatest second byte; a greater one would make a surrogate or leave the code space. -/
  high : UInt8
  /-- The bits of the character in the first byte. -/
  bits : Nat
deriving DecidableEq, Repr

/-- The first bytes of characters of several bytes. -/
def lead? (b : UInt8) : Option Lead :=
  if b < 0xc2 then none
  else if b ≤ 0xdf then some ⟨1, 0x80, 0xbf, b.toNat - 0xc0⟩
  else if b = 0xe0 then some ⟨2, 0xa0, 0xbf, 0⟩
  else if b = 0xed then some ⟨2, 0x80, 0x9f, 0xd⟩
  else if b ≤ 0xef then some ⟨2, 0x80, 0xbf, b.toNat - 0xe0⟩
  else if b = 0xf0 then some ⟨3, 0x90, 0xbf, 0⟩
  else if b ≤ 0xf3 then some ⟨3, 0x80, 0xbf, b.toNat - 0xf0⟩
  else if b = 0xf4 then some ⟨3, 0x80, 0x8f, 4⟩
  else none

/-- The rest of a character: so many more bytes, the first of them within bounds. Gives the code
point if they are all there, and the bytes behind those that belong to it. -/
def continuation : Nat → UInt8 → UInt8 → Nat → List UInt8 → Option Nat × List UInt8
  | 0, _, _, bits, bytes => (some bits, bytes)
  | _ + 1, _, _, _, [] => (none, [])
  | count + 1, low, high, bits, b :: bytes =>
    if low ≤ b ∧ b ≤ high then
      continuation count 0x80 0xbf (bits * 0x40 + (b.toNat - 0x80)) bytes
    else (none, b :: bytes)

/-- The character that a first byte and the bytes behind it start with, and the bytes behind it;
no character if they are ill-formed. -/
def decodeOne (b : UInt8) (bytes : List UInt8) : Option Char × List UInt8 :=
  if b < 0x80 then (some (Char.ofNat b.toNat), bytes)
  else
    match lead? b with
    | none => (none, bytes)
    | some lead =>
      let (n, rest) := continuation lead.count lead.low lead.high lead.bits bytes
      (n.map Char.ofNat, rest)

/-- The rest of a character takes nothing back. -/
theorem length_continuation_le (count : Nat) (low high : UInt8) (bits : Nat)
    (bytes : List UInt8) : (continuation count low high bits bytes).2.length ≤ bytes.length := by
  fun_induction continuation count low high bits bytes with
  | case1 => exact Nat.le_refl _
  | case2 => exact Nat.le_refl _
  | case3 count low high bits b bytes h ih =>
    rw [List.length_cons]
    omega
  | case4 => exact Nat.le_refl _

/-- A character takes nothing back. -/
theorem length_decodeOne_le (b : UInt8) (bytes : List UInt8) :
    (decodeOne b bytes).2.length ≤ bytes.length := by
  unfold decodeOne
  split
  · simp
  · split
    · simp
    · exact length_continuation_le ..

/-- The characters of some bytes in order, `none` standing for an ill-formed stretch. -/
def decodeAll : List UInt8 → List (Option Char)
  | [] => []
  | b :: bytes => (decodeOne b bytes).1 :: decodeAll (decodeOne b bytes).2
termination_by bytes => bytes.length
decreasing_by
  have := length_decodeOne_le b bytes
  simp; omega

/-- The text of some bytes, if they are well-formed. -/
def decode? (bytes : List UInt8) : Option Text := (decodeAll bytes).mapM id

/-- The character that stands for an ill-formed stretch of bytes. -/
def replacement : Char := '\ufffd'

/-- The text of any bytes, ill-formed stretches replaced. -/
def decodeWithReplacement (bytes : List UInt8) : Text :=
  (decodeAll bytes).map fun c => c.getD replacement

end StaticSite.Utf8
