import StaticSite.Toml.Quoted
import StaticSite.Toml.Value

set_option relaxedAutoImplicit false
set_option autoImplicit false

/-!
# TOML numbers

Whole numbers of 64 bits with a sign, in decimal, hexadecimal, octal or binary digits, and
floating-point numbers. Single underscores may stand between digits.

## Main definitions

* `StaticSite.Toml.digits?` — a run of digits.
* `StaticSite.Toml.integer?` — a whole number.
* `StaticSite.Toml.float?` — a floating-point number.
-/

namespace StaticSite.Toml

/-! ## Digits -/

/-- Whether every underscore of a run stands between two digits. -/
def separated : Text → Bool
  | [] => false
  | [c] => c != '_'
  | c :: d :: t => (c != '_' || d != '_') && separated (d :: t)

/-- A run of digits, without the underscores between them, and the text behind it. -/
def digits? (isDigit : Char → Bool) (t : Text) : Option (Text × Text) :=
  let inRun := fun c => isDigit c || c == '_'
  let run := t.takeWhile inRun
  if run.head? != some '_' && separated run then
    some (run.filter (· != '_'), t.dropWhile inRun)
  else none

/-- A run of decimal digits in which only a lone zero starts with a zero. -/
def decimalDigits? : Text → Option (Text × Text)
  | '0' :: t => some (['0'], t)
  | t => digits? Char.isDigit t

/-- The number that digits denote in a base. -/
def valueOf (base : Nat) (digits : Text) : Nat :=
  digits.foldl (fun n c => base * n + (hexDigit? c).getD 0) 0

/-- The text without a sign at its start, and whether that is a minus. -/
def sign : Text → Bool × Text
  | '-' :: t => (true, t)
  | '+' :: t => (false, t)
  | t => (false, t)

/-! ## Whole numbers -/

/-- The greatest whole number of 64 bits with a sign. -/
def greatestInteger : Int := 9223372036854775807

/-- A whole number if it fits 64 bits with a sign. -/
def bounded (n : Int) : Option Value :=
  if -greatestInteger - 1 ≤ n ∧ n ≤ greatestInteger then some (.integer n) else none

/-- A whole number in a base other than ten, and the text behind it. -/
def based? (base : Nat) (isDigit : Char → Bool) (t : Text) : Option (Value × Text) := do
  let (digits, rest) ← digits? isDigit t
  some (← bounded (valueOf base digits), rest)

/-- A whole number, and the text behind it. -/
def integer? : Text → Option (Value × Text)
  | '0' :: 'x' :: t => based? 16 (fun c => (hexDigit? c).isSome) t
  | '0' :: 'o' :: t => based? 8 (fun c => '0' ≤ c && c ≤ '7') t
  | '0' :: 'b' :: t => based? 2 (fun c => c == '0' || c == '1') t
  | t => do
    let (negative, t) := sign t
    let (digits, rest) ← decimalDigits? t
    let n : Int := valueOf 10 digits
    some (← bounded (if negative then -n else n), rest)

/-! ## Floating-point numbers -/

/-- The digits behind a decimal point, if there is one. -/
def fraction? : Text → Option (Text × Text)
  | '.' :: t => digits? Char.isDigit t
  | t => some ([], t)

/-- The power of ten behind the letter `e`, if there is one. -/
def exponent? : Text → Option (Int × Text)
  | c :: t =>
    if c = 'e' ∨ c = 'E' then do
      let (negative, t) := sign t
      let (digits, rest) ← digits? Char.isDigit t
      let n : Int := valueOf 10 digits
      some (if negative then -n else n, rest)
    else some (0, c :: t)
  | [] => some (0, [])

/-- A floating-point number, and the text behind it. It has a fraction or a power of ten, or is
`inf` or `nan`; a number too great for the format is refused. -/
def float? (t : Text) : Option (Value × Text) :=
  let (negative, t) := sign t
  match t with
  | 'i' :: 'n' :: 'f' :: rest => some (.float (.infinite negative), rest)
  | 'n' :: 'a' :: 'n' :: rest => some (.float .notANumber, rest)
  | t => do
    let (whole, afterWhole) ← decimalDigits? t
    let (fraction, afterFraction) ← fraction? afterWhole
    let (power, rest) ← exponent? afterFraction
    let x := Binary64.ofDecimal negative (valueOf 10 (whole ++ fraction)) (power - fraction.length)
    if rest.length < afterWhole.length ∧ x ≠ .infinite false then some (.float x, rest) else none

end StaticSite.Toml
