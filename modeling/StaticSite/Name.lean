import StaticSite.Text.Ascii
import StaticSite.Text.Utf8

set_option relaxedAutoImplicit false
set_option autoImplicit false

/-!
# Names

The file system knows a file by bytes, which need not be UTF-8. A text stands for the bytes of its
encoding wherever a name is expected. Where a name is shown or put into a page it is a text again,
with the stretches that encode nothing replaced, so that two names may look the same.

## Main definitions

* `StaticSite.Name` — the bytes of a name.
* `StaticSite.Name.text` — a name as it is shown.
* `StaticSite.Name.equalsCaseless` — equality up to the case of ASCII letters.
* `StaticSite.Name.sort` — names in ascending order.
-/

namespace StaticSite

/-- The bytes of a name. -/
abbrev Name := List UInt8

namespace Name

/-- The byte that separates the names in a path. -/
@[match_pattern]
abbrev slash : UInt8 := 0x2f

/-- The byte in front of an extension. -/
@[match_pattern]
abbrev dot : UInt8 := 0x2e

/-- A text as a name. -/
instance : Coe Text Name := ⟨Utf8.encode⟩

/-- Texts as names. -/
instance : Coe (List Text) (List Name) := ⟨List.map Utf8.encode⟩

/-- A name as it is shown. -/
def text (n : Name) : Text := Utf8.decodeWithReplacement n

/-- Names as they are shown. -/
instance : Coe (List Name) (List Text) := ⟨List.map text⟩

/-! ## ASCII case -/

/-- A byte with an ASCII capital made small. -/
def lowerByte (b : UInt8) : UInt8 := if 0x41 ≤ b ∧ b ≤ 0x5a then b + 0x20 else b

/-- Equality up to the case of ASCII letters. -/
def equalsCaseless (m n : Name) : Bool := m.map lowerByte == n.map lowerByte

/-! ## Order -/

/-- Whether a name comes before another or is equal to it, byte by byte. -/
def atMost : Name → Name → Bool
  | [], _ => true
  | _ :: _, [] => false
  | a :: m, b :: n => if a = b then atMost m n else a < b

/-- Names in ascending order. -/
def sort (ns : List Name) : List Name := ns.mergeSort atMost

end Name

end StaticSite
