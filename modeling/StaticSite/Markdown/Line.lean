import StaticSite.Text.Basic

set_option relaxedAutoImplicit false
set_option autoImplicit false

/-!
# Lines and columns

A document is read from left to right, line by line. A line ends with a line feed, a carriage
return or both; verbatim lines, those of code and HTML, end with a line feed only. Block
structure depends on how far a line is indented. A tab leads to the next column that is a
multiple of four, so a tab may be read in part.

## Main definitions

* `StaticSite.Markdown.lineText`, `StaticSite.Markdown.splitLine` — the line at the start of a
  text.
* `StaticSite.Markdown.afterBlankLine?` — the text after a blank line.
* `StaticSite.Markdown.splitVerbatimLine` — the verbatim line at the start of a text.
* `StaticSite.Markdown.Cursor` — a place in a line.
* `StaticSite.Markdown.Cursor.skip` — the place some columns of white space further on.
-/

namespace StaticSite.Markdown

/-! ## White space -/

/-- The white space inside a line. -/
def isLineSpace (c : Char) : Bool := c == ' ' || c == '\t' || c == '\x0b' || c == '\x0c'

/-- The characters that end a line. -/
def isLineEnd (c : Char) : Bool := c == '\n' || c == '\r'

/-- The white space inside a line, and line breaks. -/
def isAnySpace (c : Char) : Bool := isLineSpace c || isLineEnd c

/-- A text without the characters at its end that satisfy a test. -/
def dropEnd (p : Char → Bool) (t : Text) : Text := (t.reverse.dropWhile p).reverse

/-- How many characters at the end of a text satisfy a test. -/
def countEnd (p : Char → Bool) (t : Text) : Nat := (t.reverse.takeWhile p).length

/-! ## Lines -/

/-- The text after the line ending at the start of a text. The end of the text is an ending,
too. -/
def afterEnding? : Text → Option Text
  | [] => some []
  | '\n' :: t => some t
  | '\r' :: '\n' :: t => some t
  | '\r' :: t => some t
  | _ => none

/-- The text after the blank line at the start of a text. -/
def afterBlankLine? (t : Text) : Option Text := afterEnding? (t.dropWhile isLineSpace)

/-- Whether a text starts with a blank line. -/
def isBlankLine (t : Text) : Bool := (afterBlankLine? t).isSome

/-- The line at the start of a text without its ending. -/
def lineText (t : Text) : Text := t.takeWhile fun c => !isLineEnd c

/-- The line at the start of a text, its ending and the text after it. -/
def splitLine (t : Text) : Text × Text × Text :=
  let line := lineText t
  match t.drop line.length with
  | '\r' :: '\n' :: rest => (line, ['\r', '\n'], rest)
  | c :: rest => (line, [c], rest)
  | [] => (line, [], [])

/-- The text after the line at the start of a text. -/
def afterLine (t : Text) : Text := (splitLine t).2.2

/-- The verbatim line at the start of a text, with its line feed, and the text after it. -/
def splitVerbatimLine : Text → Text × Text
  | [] => ([], [])
  | c :: t =>
    if c = '\n' then ([c], t)
    else
      let (line, rest) := splitVerbatimLine t
      (c :: line, rest)

/-- A verbatim line as it is shown: a carriage return in front of its last character is dropped,
unless that character lies outside ASCII. -/
def shownLine (line : Text) : Text :=
  match line.reverse with
  | last :: '\r' :: before => if last.toNat < 128 then (last :: before).reverse else line
  | _ => line

/-! ## Places in a line -/

/-- A place in a line. -/
structure Cursor where
  /-- The characters that follow. -/
  rest : Text
  /-- The column, as far as tab stops depend on it. -/
  column : Nat
  /-- The columns that are left of a tab read in part. -/
  pending : Nat
  /-- How many characters stand before the place. -/
  scanned : Nat
deriving DecidableEq, Repr

namespace Cursor

/-- The start of a line. -/
def ofText (t : Text) : Cursor := ⟨t, 0, 0, 0⟩

/-- Whether the line ends here. -/
def atEnd (c : Cursor) : Bool :=
  match c.rest with
  | [] => true
  | d :: _ => isLineEnd d

/-- The place after one more character that is no tab. Columns left of a tab stay. -/
def advance (c : Cursor) : Cursor :=
  { c with rest := c.rest.drop 1, column := c.column + 1, scanned := c.scanned + 1 }

/-- At most `n` columns of spaces and tabs skipped at a column: how many columns could not be
skipped, and the place reached. -/
def skipFrom (column scanned : Nat) : Nat → Text → Nat × Cursor
  | 0, t => (0, ⟨t, column, 0, scanned⟩)
  | n + 1, [] => (n + 1, ⟨[], column, 0, scanned⟩)
  | n + 1, c :: t =>
    if c = ' ' then skipFrom (column + 1) (scanned + 1) n t
    else if c = '\t' then
      let width := 4 - column % 4
      if width ≤ n + 1 then skipFrom (column + width) (scanned + 1) (n + 1 - width) t
      else (0, ⟨t, column + width, width - (n + 1), scanned + 1⟩)
    else (n + 1, ⟨c :: t, column, 0, scanned⟩)
termination_by _ t => t.length

/-- At most `n` columns of spaces and tabs skipped: how many columns could not be skipped, and
the place reached. -/
def skip (n : Nat) (c : Cursor) : Nat × Cursor :=
  if n ≤ c.pending then (0, { c with pending := c.pending - n })
  else skipFrom c.column c.scanned (n - c.pending) c.rest

/-- The place after all spaces and tabs. -/
def skipAll (c : Cursor) : Cursor :=
  let spaces := c.rest.takeWhile fun d => d == ' ' || d == '\t'
  ⟨c.rest.drop spaces.length, c.column, 0, c.scanned + spaces.length⟩

end Cursor

end StaticSite.Markdown
