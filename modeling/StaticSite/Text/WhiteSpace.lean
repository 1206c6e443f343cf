import StaticSite.Text.Basic

set_option relaxedAutoImplicit false
set_option autoImplicit false

/-!
# Unicode white space

The characters with the Unicode property `White_Space`, and trimming by them.

## Main definitions

* `StaticSite.Text.isWhiteSpace` — the property `White_Space`.
* `StaticSite.Text.trim` — a text without white space at either end.
-/

namespace StaticSite.Text

/-- The characters with the Unicode property `White_Space`: the tab to the carriage return, the
space, the next-line and no-break characters, and the spaces and separators of the general
punctuation and CJK blocks. -/
def isWhiteSpace (c : Char) : Bool :=
  ('\t' ≤ c && c ≤ '\r') || c == ' ' || c == '\x85' || c == '\xa0' || c == '\u1680' ||
    ('\u2000' ≤ c && c ≤ '\u200a') || c == '\u2028' || c == '\u2029' || c == '\u202f' ||
    c == '\u205f' || c == '\u3000'

/-- A text without the white space at its start. -/
def trimStart (t : Text) : Text := t.dropWhile isWhiteSpace

/-- A text without the characters at its end that satisfy a test. -/
def dropEndWhile (p : Char → Bool) (t : Text) : Text := (t.reverse.dropWhile p).reverse

/-- A text without the white space at its end. -/
def trimEnd (t : Text) : Text := dropEndWhile isWhiteSpace t

/-- A text without the white space at either end. -/
def trim (t : Text) : Text := trimEnd (trimStart t)

/-- A text is blank if it holds white space only. -/
def isBlank (t : Text) : Bool := t.all isWhiteSpace

end StaticSite.Text
