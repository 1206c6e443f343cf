import StaticSite.Markdown.Extensions
import StaticSite.Markdown.HtmlBlock
import StaticSite.Markdown.Label
import StaticSite.Markdown.Marker
import StaticSite.Markdown.Table

set_option relaxedAutoImplicit false
set_option autoImplicit false

/-!
# Where a paragraph ends

A paragraph goes on in the next line even if the margins of its containers are missing, unless
that line starts a block that interrupts paragraphs.

## Main definitions

* `StaticSite.Markdown.Setting` — what decides where a paragraph ends.
* `StaticSite.Markdown.Setting.interrupts` — whether a line ends a paragraph.
* `StaticSite.Markdown.Setting.tableBehind?` — the delimiter line of a table behind its header.
* `StaticSite.Markdown.Setting.goOn?` — the place where a line goes on with a definition.
-/

namespace StaticSite.Markdown

/-- What decides where a paragraph ends: the extensions that are on and the margins of the
containers around it, outermost first. -/
structure Setting where
  /-- Which extensions are on. -/
  extensions : Extensions
  /-- The margins of the containers, outermost first. -/
  margins : List Margin
deriving DecidableEq, Repr

namespace Setting

/-- The margins that a line starts with: whether they are all of them, and the place behind
them. -/
def enter (s : Setting) (t : Text) : Bool × Cursor :=
  let (depth, place) := Margin.enter s.margins (Cursor.ofText t)
  (depth == s.margins.length, place)

/-- Whether a line starts a list item that ends a paragraph. Outside the paragraph's container
and behind a table any item does; otherwise it needs content, and an ordered item must be the
first. -/
def interruptingItem (inContainer inTable : Bool) (t : Text) : Bool :=
  match ListMarker.of? t with
  | none => false
  | some marker =>
    !inContainer || inTable ||
      ((marker.number.isNone || marker.number == some 1) && !isBlankLine (t.drop marker.width))

/-- The label of the footnote whose definition a line starts, and the text behind the colon. -/
def footnoteStart? (s : Setting) (inTable : Bool) (t : Text) : Option (Text × Text) :=
  if s.extensions.footnotes then
    match footnoteLabel? inTable t with
    | none => none
    | some (label, count) =>
      match t.drop count with
      | ':' :: rest => some (label, rest)
      | _ => none
  else none

/-- Whether a line other than the start of a table ends a paragraph or a table. -/
def interruptsText (s : Setting) (inContainer inTable : Bool) (t : Text) : Bool :=
  (afterEnding? t).isSome || isThematicBreak t || (headingLevel? t).isSome ||
    (Fence.opening? t).isSome || t.head? == some '>' ||
    interruptingItem inContainer inTable t || (htmlInterrupt? t).isSome ||
    (s.footnoteStart? inTable t).isSome

/-- The alignments of a table whose header line has some columns, and the text after its
delimiter line. The text starts with that line, which must have as many columns and all
margins. -/
def tableBehind? (s : Setting) (columns : Nat) (t : Text) : Option (List Alignment × Text) :=
  match s.enter t with
  | (true, place) =>
    match Table.delimiterRow? (lineText place.rest) with
    | some alignments =>
      if alignments.length = columns then some (alignments, afterLine place.rest) else none
    | none => none
  | _ => none

/-- The alignments of the table that a line starts, and the text after its delimiter line.
Backslashes in front of pipes are paired in a header that starts a paragraph. -/
def tableStart? (s : Setting) (paired : Bool) (t : Text) : Option (List Alignment × Text) :=
  if s.extensions.tables then
    match splitLine t with
    | (_, [], _) => none
    | (line, _, rest) =>
      match Table.headerColumns? paired line with
      | some columns => s.tableBehind? columns rest
      | none => none
  else none

/-- Whether a line ends a paragraph. A table does if its header starts with a pipe. -/
def interrupts (s : Setting) (inContainer : Bool) (t : Text) : Bool :=
  s.interruptsText inContainer false t ||
    (t.head? == some '|' && (s.tableStart? false t).isSome)

/-- The place where a line goes on with what stands over several lines of a definition: behind
the margins it has and up to four columns of indentation. A line that is indented less may
neither end a paragraph nor underline it. -/
def goOn? (s : Setting) (t : Text) : Option Cursor :=
  let (inContainer, place) := s.enter t
  let (left, behind) := place.skip 4
  if left = 0 then some behind
  else if s.interrupts inContainer behind.rest ||
      (inContainer && (underline? behind.rest).isSome) then
    none
  else some behind

end Setting

end StaticSite.Markdown
