import StaticSite.Markdown.EntityTable
import StaticSite.Text.Ascii

set_option relaxedAutoImplicit false
set_option autoImplicit false

/-!
# Character references

A character can be written by name, as in `&amp;`, or by number, as in `&#38;` or `&#x26;`.

## Main definitions

* `StaticSite.Markdown.namedEntity?` — the characters that a name stands for.
* `StaticSite.Markdown.entity?` — the character reference at the start of a text.
* `StaticSite.Markdown.unescape` — a text without escapes and references.
-/

namespace StaticSite.Markdown

/-- The value of a hexadecimal digit. -/
def hexDigit? (c : Char) : Option Nat :=
  if c.isDigit then some (c.toNat - '0'.toNat)
  else if 'a' ≤ c && c ≤ 'f' then some (c.toNat - 'a'.toNat + 10)
  else if 'A' ≤ c && c ≤ 'F' then some (c.toNat - 'A'.toNat + 10)
  else none

/-- The number written by digits of a base; characters that are no digits are passed over. -/
def valueOf (base : Nat) (digits : Text) : Nat :=
  digits.foldl (fun n c => match hexDigit? c with | some d => n * base + d | none => n) 0

/-- The code points of an entry of the table, joined by plus signs. -/
def codesOf (value : Text) : Text :=
  ((value.splitOn '+').map fun code => Char.ofNat (valueOf 16 code))

/-- Looks up a name in a line of entries; the flag says whether an entry starts here. -/
def lookupEntry (name : Text) : Bool → Text → Option Text
  | _, [] => none
  | starts, c :: t =>
    match if starts then Text.dropPrefix? (name ++ ['=']) (c :: t) else none with
    | some rest => some (codesOf (rest.takeWhile (· != ' ')))
    | none => lookupEntry name (c == ' ') t

/-- The characters that a name stands for. -/
def namedEntity? (name : Text) : Option Text :=
  if name.isEmpty then none
  else entityTable.findSome? fun line => lookupEntry name true line.toList

/-- The character with a given code point. Zero and what is no code point of a character stand
for the replacement character. -/
def charOfCode (n : Nat) : Char :=
  if n ≠ 0 ∧ n.isValidChar then Char.ofNat n else '\ufffd'

/-- A reference by number: at least one and at most `limit` digits and a semicolon. -/
def numericEntity? (base limit : Nat) (isDigit : Char → Bool) (t : Text) :
    Option (Text × Text) :=
  let digits := (t.take limit).takeWhile isDigit
  match digits, t.drop digits.length with
  | _ :: _, ';' :: rest => some ([charOfCode (valueOf base digits)], rest)
  | _, _ => none

/-- The characters for the reference at the start of a text and the text after it. The text
starts behind the ampersand. -/
def entity? : Text → Option (Text × Text)
  | '#' :: 'x' :: t => numericEntity? 16 6 (fun c => (hexDigit? c).isSome) t
  | '#' :: 'X' :: t => numericEntity? 16 6 (fun c => (hexDigit? c).isSome) t
  | '#' :: t => numericEntity? 10 7 Char.isDigit t
  | t =>
    let name := t.takeWhile Text.isAsciiAlphanumeric
    match t.drop name.length with
    | ';' :: rest => (namedEntity? name).map fun value => (value, rest)
    | _ => none

/-- A text with its backslash escapes and character references replaced and its carriage returns
dropped, as far as the fuel goes. -/
def unescapeUpTo (inTable : Bool) : Nat → Text → Text
  | 0, t => t
  | _ + 1, [] => []
  | n + 1, '\\' :: '\\' :: '|' :: t =>
    if inTable then '|' :: unescapeUpTo inTable n t
    else '\\' :: unescapeUpTo inTable n ('|' :: t)
  | n + 1, '\\' :: c :: t =>
    if Text.isAsciiPunctuation c then c :: unescapeUpTo inTable n t
    else '\\' :: unescapeUpTo inTable n (c :: t)
  | n + 1, '&' :: t =>
    match entity? t with
    | some (value, rest) => value ++ unescapeUpTo inTable n rest
    | none => '&' :: unescapeUpTo inTable n t
  | n + 1, c :: t =>
    if c = '\r' then unescapeUpTo inTable n t else c :: unescapeUpTo inTable n t

/-- A text with its backslash escapes and character references replaced and its carriage returns
dropped. Inside a table an escaped backslash in front of a pipe belongs to the pipe. -/
def unescape (inTable : Bool) (t : Text) : Text := unescapeUpTo inTable t.length t

end StaticSite.Markdown
