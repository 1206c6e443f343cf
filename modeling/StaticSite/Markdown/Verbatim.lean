import StaticSite.Markdown.Entity
import StaticSite.Markdown.HtmlBlock
import StaticSite.Markdown.Marker

set_option relaxedAutoImplicit false
set_option autoImplicit false

/-!
# Verbatim blocks

Code and HTML are taken over line by line, without the margins of the containers around them.
Where a tab is part of a margin, what is left of it becomes spaces.

## Main definitions

* `StaticSite.Markdown.indentedCode` — the lines of indented code.
* `StaticSite.Markdown.fencedCode` — the lines of code behind a fence.
* `StaticSite.Markdown.htmlLines` — the lines of a block of HTML.
-/

namespace StaticSite.Markdown

/-- A verbatim line behind what is left of a tab. -/
def indentedLine (spaces : Nat) (line : Text) : Text :=
  List.replicate spaces ' ' ++ shownLine line

/-! ## Indented code -/

/-- A line of indented code. -/
structure CodeLine where
  /-- What is shown of the line. -/
  text : Text
  /-- Whether the line is blank. -/
  isBlank : Bool
deriving DecidableEq, Repr

/-- The lines of indented code from a place on, and the text after them. The code goes on behind
blank lines and behind lines that are indented by four columns. -/
def indentedCode (margins : List Margin) : Nat → Cursor → List CodeLine × Text
  | 0, place => ([], place.rest)
  | limit + 1, place =>
    let (text, rest) := splitVerbatimLine place.rest
    let line := ⟨indentedLine place.pending text, isBlankLine place.rest⟩
    match Margin.enterAll? margins rest with
    | none => ([line], rest)
    | some next =>
      let (left, behind) := next.skip 4
      if (left = 0 || behind.atEnd) && !behind.rest.isEmpty then
        let (lines, rest) := indentedCode margins limit behind
        (line :: lines, rest)
      else ([line], rest)

/-- The text of indented code. Blank lines at its end are left out. -/
def codeText (lines : List CodeLine) : Text :=
  (lines.reverse.dropWhile CodeLine.isBlank).reverse.flatMap CodeLine.text

/-! ## Code behind a fence -/

/-- The language of a code block, the first word behind its fence. -/
def languageOf (info : Text) : Text :=
  (unescape false (dropEnd isAnySpace (info.dropWhile isLineSpace))).takeWhile (· != ' ')

/-- The lines of code behind a fence that is indented by some columns, and the text after them.
The lines are without that indentation. The closing fence is indented by less than four
columns. -/
def fencedCode (margins : List Margin) (fence : Fence) (indent : Nat) : Nat → Text →
    Text × Text
  | 0, t => ([], t)
  | limit + 1, t =>
    match Margin.enterAll? margins t with
    | none => ([], t)
    | some place =>
      let behind := (place.skip indent).2
      let (left, mark) := behind.skip (4 - indent)
      match if left ≠ 0 then fence.closing? mark.rest else none with
      | some rest => ([], rest)
      | none =>
        let (text, rest) := splitVerbatimLine behind.rest
        let (lines, rest) := fencedCode margins fence indent limit rest
        (indentedLine behind.pending text ++ lines, rest)

/-! ## HTML -/

/-- Whether a block of HTML goes on in the line after one of its lines. Behind the margins,
`place` is where the line after it goes on. -/
def HtmlBlockEnd.goesOn (blockEnd : HtmlBlockEnd) (line : Text) (place : Cursor) : Bool :=
  !place.rest.isEmpty &&
    match blockEnd with
    | .mark t => (Text.breakOn t line).isNone
    | .blankLine => !isBlankLine place.rest

/-- The lines of a block of HTML, the first one indented by some columns, and the text after
them. -/
def htmlLines (margins : List Margin) (blockEnd : HtmlBlockEnd) : Nat → Nat → Text →
    Text × Text
  | 0, _, t => ([], t)
  | limit + 1, spaces, t =>
    let (text, rest) := splitVerbatimLine t
    let line := indentedLine spaces text
    match Margin.enterAll? margins rest with
    | none => (line, rest)
    | some place =>
      if blockEnd.goesOn text place then
        let (lines, rest) := htmlLines margins blockEnd limit place.pending place.rest
        (line ++ lines, rest)
      else (line, rest)

end StaticSite.Markdown
