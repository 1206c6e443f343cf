import StaticSite.Text.Basic

set_option relaxedAutoImplicit false
set_option autoImplicit false

/-!
# Blanks, comments and line ends of TOML

A reader here takes the text from some place on and gives the text behind what it read, or
nothing if the text does not start with it.

## Main definitions

* `StaticSite.Toml.skipBlanks` — the text behind spaces and tabs.
* `StaticSite.Toml.newline?` — the text behind a line end.
* `StaticSite.Toml.lineEnd?` — the text behind the rest of a line, a comment included.
* `StaticSite.Toml.skipLines?` — the text behind any number of blanks, line ends and comments.
-/

namespace StaticSite.Toml

/-- Whether a character is a blank inside a line. -/
def isBlank (c : Char) : Bool := c == ' ' || c == '\t'

/-- Whether a character may stand in a comment or a literal string: every one but the control
characters other than the tab. -/
def isPlain (c : Char) : Bool := c == '\t' || (' ' ≤ c && c != '\x7f')

/-- The text behind spaces and tabs. -/
def skipBlanks (t : Text) : Text := t.dropWhile isBlank

/-- The text behind a line feed, or a carriage return and a line feed. -/
def newline? : Text → Option Text
  | '\n' :: t => some t
  | '\r' :: '\n' :: t => some t
  | _ => none

/-- The text behind a comment, if there is one. -/
def skipComment : Text → Text
  | '#' :: t => t.dropWhile isPlain
  | t => t

/-- The text behind the rest of a line that holds no more than blanks and a comment. The end of
the document ends a line too. -/
def lineEnd? (t : Text) : Option Text :=
  match skipComment (skipBlanks t) with
  | [] => some []
  | rest => newline? rest

/-- The text behind any number of blanks and line ends, with a comment in front of a line end;
`inComment` says whether a comment is being read. -/
def skipLines? (inComment : Bool) : Text → Option Text
  | '\n' :: t => skipLines? false t
  | '\r' :: '\n' :: t => skipLines? false t
  | [] => if inComment then none else some []
  | c :: t =>
    if inComment then if isPlain c then skipLines? true t else none
    else if isBlank c then skipLines? false t
    else if c = '#' then skipLines? true t
    else some (c :: t)

/-- Blanks make a text no longer. -/
theorem length_skipBlanks_le (t : Text) : (skipBlanks t).length ≤ t.length :=
  (List.dropWhile_suffix _).length_le

end StaticSite.Toml
