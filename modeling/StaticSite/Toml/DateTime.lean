import StaticSite.Text.Basic

set_option relaxedAutoImplicit false
set_option autoImplicit false

/-!
# TOML dates and times

A date such as `1979-05-27`, a time such as `07:32:00.5`, or both with an optional offset from
universal time. Only the text behind them is kept: no setting of a site is a date.

## Main definitions

* `StaticSite.Toml.date?`, `StaticSite.Toml.time?`, `StaticSite.Toml.offset?` — the parts.
* `StaticSite.Toml.dateTime?` — the text behind a date, a time or both.
-/

namespace StaticSite.Toml

/-- A number of exactly so many decimal digits within bounds, and the text behind it. -/
def fixedNumber? (count low high : Nat) (t : Text) : Option (Nat × Text) :=
  let digits := t.take count
  let n := digits.foldl (fun n c => 10 * n + (c.toNat - '0'.toNat)) 0
  if digits.length = count ∧ digits.all Char.isDigit ∧ low ≤ n ∧ n ≤ high then
    some (n, t.drop count)
  else none

/-- The text behind a given character. -/
def mark? (c : Char) : Text → Option Text
  | [] => none
  | d :: t => if d = c then some t else none

/-- The number of days of a month. -/
def daysIn (year month : Nat) : Nat :=
  if month = 2 then
    if year % 4 = 0 ∧ (year % 100 ≠ 0 ∨ year % 400 = 0) then 29 else 28
  else if month = 4 ∨ month = 6 ∨ month = 9 ∨ month = 11 then 30
  else 31

/-- The text behind a date. -/
def date? (t : Text) : Option Text := do
  let (year, t) ← fixedNumber? 4 0 9999 t
  let (month, t) ← fixedNumber? 2 1 12 (← mark? '-' t)
  let (_, t) ← fixedNumber? 2 1 (daysIn year month) (← mark? '-' t)
  some t

/-- The text behind the fraction of a second, if there is one. -/
def skipSecondFraction : Text → Text
  | '.' :: c :: t => if c.isDigit then t.dropWhile Char.isDigit else '.' :: c :: t
  | t => t

/-- The text behind a time of the day. The sixty-first second is a leap second. -/
def time? (t : Text) : Option Text := do
  let (_, t) ← fixedNumber? 2 0 23 t
  let (_, t) ← fixedNumber? 2 0 59 (← mark? ':' t)
  let (_, t) ← fixedNumber? 2 0 60 (← mark? ':' t)
  some (skipSecondFraction t)

/-- The text behind an offset from universal time. -/
def offset? : Text → Option Text
  | [] => none
  | c :: t =>
    if c = 'Z' ∨ c = 'z' then some t
    else if c = '+' ∨ c = '-' then do
      let (_, t) ← fixedNumber? 2 0 23 t
      let (_, t) ← fixedNumber? 2 0 59 (← mark? ':' t)
      some t
    else none

/-- The text behind the time that follows a date, after the letter `T` or a space. -/
def timeOfDate? : Text → Option Text
  | [] => none
  | c :: t =>
    if c = 'T' ∨ c = 't' ∨ c = ' ' then do
      let t ← time? t
      some ((offset? t).getD t)
    else none

/-- The text behind a date, a time or both. -/
def dateTime? (t : Text) : Option Text :=
  match date? t with
  | some rest => some ((timeOfDate? rest).getD rest)
  | none => time? t

end StaticSite.Toml
