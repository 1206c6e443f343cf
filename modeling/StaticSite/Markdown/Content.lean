import StaticSite.Markdown.Margin

set_option relaxedAutoImplicit false
set_option autoImplicit false

/-!
# Inline content as it stands in a document

The inline content of a block is kept line by line until all link definitions are known. What
stands in front of a line belongs to the containers, but some constructs of inline content take
it over.

## Main definitions

* `StaticSite.Markdown.SourceLine` — a line of inline content.
* `StaticSite.Markdown.Content` — the inline content of a block.
-/

namespace StaticSite.Markdown

/-- A line of inline content. -/
structure SourceLine where
  /-- The margins and the white space in front of the text. -/
  margin : Text
  /-- The text. -/
  text : Text
  /-- The line ending, which the last line of a document may lack. -/
  ending : Text
deriving DecidableEq, Repr

/-- The characters of a line in the document. -/
def SourceLine.source (line : SourceLine) : Text := line.margin ++ line.text ++ line.ending

/-- The inline content of a block. -/
structure Content where
  /-- Whether the content is a cell of a table. -/
  inTable : Bool
  /-- The check box in front of the text. -/
  task : Option Bool
  /-- The margins that the lines behind the first one start with, outermost first. -/
  margins : List Margin
  /-- The lines. -/
  lines : List SourceLine
  /-- Where the text ends, if not at the end of its last line without white space. -/
  textEnd : Option Nat
deriving DecidableEq, Repr

namespace Content

/-- The content of a paragraph. -/
def ofLines (task : Option Bool) (margins : List Margin) (lines : List SourceLine) : Content :=
  ⟨false, task, margins, lines, none⟩

/-- The content of a heading on one line, which ends after the given number of characters. -/
def ofHeading (line : Text) (length : Nat) : Content :=
  ⟨false, none, [], if length = 0 then [] else [⟨[], line, []⟩], some length⟩

/-- The content of a cell of a table. -/
def ofCell (margins : List Margin) (cell : Text) : Content :=
  ⟨true, none, margins, [⟨[], cell, []⟩], none⟩

/-- The characters of the content in the document. -/
def source (content : Content) : Text := content.lines.flatMap SourceLine.source

end Content

end StaticSite.Markdown
