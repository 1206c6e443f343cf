import StaticSite.Text.Basic

set_option relaxedAutoImplicit false
set_option autoImplicit false

/-!
# ASCII classes and ASCII case

Tag names, file extensions and the marks of the formats read here are matched by ASCII rules:
a letter of another alphabet is neither a letter nor changed by folding the case.

## Main definitions

* `StaticSite.Text.isAsciiPunctuation`, `StaticSite.Text.isAsciiSpace` — character classes.
* `StaticSite.Text.equalsCaseless` — equality up to the case of ASCII letters.
* `StaticSite.Text.dropPrefixCaseless?`, `StaticSite.Text.breakOnCaseless` — matching a prefix
  and searching for a pattern up to the case of ASCII letters.
-/

namespace StaticSite.Text

/-- The ASCII letters and digits. -/
def isAsciiAlphanumeric (c : Char) : Bool := c.isAlpha || c.isDigit

/-- The visible ASCII characters that are neither letters nor digits. -/
def isAsciiPunctuation (c : Char) : Bool :=
  '!' ≤ c && c ≤ '~' && !isAsciiAlphanumeric c

/-- The white space that separates the parts of a tag: space, tab, line feed, form feed and
carriage return. -/
def isAsciiSpace (c : Char) : Bool :=
  c == ' ' || c == '\t' || c == '\n' || c == '\x0c' || c == '\r'

/-- A text with its ASCII capitals made small. -/
def toLowerAscii (t : Text) : Text := t.map Char.toLower

/-- Equality up to the case of ASCII letters. -/
def equalsCaseless (s t : Text) : Bool := toLowerAscii s == toLowerAscii t

/-- The text after a prefix that is matched up to the case of ASCII letters. -/
def dropPrefixCaseless? : Text → Text → Option Text
  | [], t => some t
  | _ :: _, [] => none
  | p :: ps, c :: t => if p.toLower == c.toLower then dropPrefixCaseless? ps t else none

/-- The text before the first occurrence of a pattern and the text after it, the pattern being
matched up to the case of ASCII letters. -/
def breakOnCaseless (pattern : Text) : Text → Option (Text × Text)
  | [] => if pattern.isEmpty then some ([], []) else none
  | c :: t =>
    match dropPrefixCaseless? pattern (c :: t) with
    | some rest => some ([], rest)
    | none => (breakOnCaseless pattern t).map fun parts => (c :: parts.1, parts.2)

end StaticSite.Text
