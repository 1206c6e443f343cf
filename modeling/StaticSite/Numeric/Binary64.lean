import StaticSite.Text.Basic

set_option relaxedAutoImplicit false
set_option autoImplicit false

/-!
# Binary floating-point numbers

Numbers in the 64-bit binary format: the one nearest to a decimal fraction, and the shortest
decimal fraction that reads back as a given number. Both are computed exactly, on natural
numbers.

## Main definitions

* `StaticSite.Binary64` — a number of the format.
* `StaticSite.Binary64.ofDecimal` — the number nearest to a decimal fraction.
* `StaticSite.Binary64.shortest` — the shortest decimal fraction that reads back.
* `StaticSite.Binary64.text` — that fraction in positional notation.

## Main results

* `StaticSite.Binary64.roundDiv_le`, `StaticSite.Binary64.le_roundDiv` — a rounded quotient is
  off by at most one half.
-/

namespace StaticSite

/-- A number of the 64-bit binary floating-point format. -/
inductive Binary64 where
  /-- The mantissa times a power of two. -/
  | finite (negative : Bool) (mantissa : Nat) (exponent : Int)
  /-- An infinity. -/
  | infinite (negative : Bool)
  /-- No number. -/
  | notANumber
deriving DecidableEq, Repr

namespace Binary64

/-! ## Rounding -/

/-- The quotient rounded to the nearest natural number, halves to the even one. -/
def roundDiv (n d : Nat) : Nat :=
  if 2 * (n % d) < d then n / d
  else if d < 2 * (n % d) then n / d + 1
  else n / d + n / d % 2

/-- A rounded quotient is at most one half above the quotient. -/
theorem roundDiv_le (n d : Nat) : 2 * (d * roundDiv n d) ≤ 2 * n + d := by
  have hn : d * (n / d) + n % d = n := Nat.div_add_mod n d
  have hq : n / d % 2 = 0 ∨ n / d % 2 = 1 := by omega
  unfold roundDiv
  split
  · omega
  · split
    · rw [Nat.mul_add]; omega
    · rcases hq with hq | hq <;> rw [hq, Nat.mul_add] <;> omega

/-- A rounded quotient is at most one half below the quotient. -/
theorem le_roundDiv (n : Nat) {d : Nat} (hd : 0 < d) :
    2 * n ≤ 2 * (d * roundDiv n d) + d := by
  have hn : d * (n / d) + n % d = n := Nat.div_add_mod n d
  have hq : n / d % 2 = 0 ∨ n / d % 2 = 1 := by omega
  unfold roundDiv
  split
  · omega
  · split
    · have := Nat.mod_lt n hd
      rw [Nat.mul_add]; omega
    · rcases hq with hq | hq <;> rw [hq, Nat.mul_add] <;> omega

/-- The numerator and denominator of a fraction times a power of a base. -/
def scale (n d base : Nat) (exponent : Int) : Nat × Nat :=
  if 0 ≤ exponent then (n * Nat.pow base exponent.toNat, d)
  else (n, d * Nat.pow base (-exponent).toNat)

/-- The least natural number that has too many bits for a mantissa. -/
def mantissaLimit : Nat := Nat.pow 2 53

/-- The least mantissa of a number whose exponent is not the least one. -/
def leastMantissa : Nat := Nat.pow 2 52

/-- The least exponent of a finite number. -/
def leastExponent : Int := -1074

/-- The greatest exponent of a finite number. -/
def greatestExponent : Int := 971

/-- The exponent of the number nearest to a positive fraction: the mantissa gets 53 bits if the
least exponent allows it. -/
def exponentOf (n d : Nat) : Int :=
  let q : Int := (n.log2 : Int) - d.log2 - 53
  let (n', d') := scale n d 2 (-q)
  max leastExponent (if n' / d' < mantissaLimit then q else q + 1)

/-- The number nearest to a fraction. -/
def ofRatio (negative : Bool) (n d : Nat) : Binary64 :=
  let q := exponentOf n d
  let (n', d') := scale n d 2 (-q)
  let m := roundDiv n' d'
  let (m, q) := if m = mantissaLimit then (leastMantissa, q + 1) else (m, q)
  if greatestExponent < q then .infinite negative else .finite negative m q

/-- The number nearest to `digits` times a power of ten. Far outside the range the answer is
known without forming the power. -/
def ofDecimal (negative : Bool) (digits : Nat) (exponent : Int) : Binary64 :=
  let magnitude : Int := (Nat.toDigits 10 digits).length + exponent
  if digits = 0 ∨ magnitude < -330 then .finite negative 0 leastExponent
  else if 330 < magnitude then .infinite negative
  else
    let (n, d) := scale digits 1 10 exponent
    ofRatio negative n d

/-! ## Shortest decimal fractions -/

/-- The number of digits in front of the decimal point of a positive fraction; zeros behind the
point count negatively. -/
def pointOf (n d : Nat) : Int :=
  if d ≤ n then (Nat.toDigits 10 (n / d)).length
  else 1 - (Nat.toDigits 10 ((d + n - 1) / n - 1)).length

/-- Of the two multiples of a power of ten next to a number the nearer one that lies among the
fractions which round to the number; the greater of two equally near. The number is `4 * m`
quarters of a unit, and the fractions that round to it lie within `below` and `2` quarters. -/
def nearest? (m below : Nat) (exponent : Int) (power : Int) : Option Nat :=
  let (n, d) := scale 1 1 2 (exponent - 2)
  let (n, d) := scale n d 10 (-power)
  let value := 4 * m * n
  let low := value / d
  let inside := fun c =>
    if m % 2 = 0 then (4 * m - below) * n ≤ c * d ∧ c * d ≤ (4 * m + 2) * n
    else (4 * m - below) * n < c * d ∧ c * d < (4 * m + 2) * n
  let lowInside := decide (inside low)
  let highInside := decide (inside (low + 1))
  if lowInside && (!highInside || 2 * (value % d) < d) then some low
  else if highInside then some (low + 1)
  else none

/-- The shortest decimal fraction that reads back as `m` times a power of two: the digits and
the power of ten they count. -/
def shortest (m : Nat) (exponent : Int) : Nat × Int :=
  let below := if m = leastMantissa ∧ leastExponent < exponent then 1 else 2
  let (n, d) := scale m 1 2 exponent
  let point := pointOf n d
  let candidate := fun count : Nat =>
    (nearest? m below exponent (point - count)).map fun digits => (digits, point - count)
  ((List.range 17).findSome? fun i => candidate (i + 1)).getD (0, 0)

/-- Digits with a decimal point behind the first `point` of them, zeros filled in, and at least
one digit on either side. -/
def positional (digits : Text) (point : Int) : Text :=
  if point ≤ 0 then '0' :: '.' :: List.replicate (-point).toNat '0' ++ digits
  else if digits.length ≤ point.toNat then
    digits ++ List.replicate (point.toNat - digits.length) '0' ++ ['.', '0']
  else digits.take point.toNat ++ '.' :: digits.drop point.toNat

/-- The number in positional notation, with the fewest digits that read back. -/
def text : Binary64 → Text
  | .notANumber => "NaN".toList
  | .infinite negative => (if negative then ['-'] else []) ++ "inf".toList
  | .finite negative m exponent =>
    let (digits, power) := if m = 0 then (0, 0) else shortest m exponent
    let all := Nat.toDigits 10 digits
    let kept := (all.reverse.dropWhile (· == '0')).reverse
    (if negative then ['-'] else []) ++
      if m = 0 then "0.0".toList else positional kept (all.length + power)

end Binary64

end StaticSite
