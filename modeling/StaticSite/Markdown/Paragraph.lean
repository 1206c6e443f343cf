import StaticSite.Markdown.Outline

set_option relaxedAutoImplicit false
set_option autoImplicit false

/-!
# Paragraphs, headings and tables

Where no other block starts, lines of text are a paragraph. An underline makes it a heading, a
delimiter line a table. Link definitions at its start are taken out.

## Main definitions

* `StaticSite.Markdown.Setting.paragraphLines` — the lines by which a paragraph goes on.
* `StaticSite.Markdown.Setting.tableRows` — the rows of a table.
* `StaticSite.Markdown.Outline.readText` — the outline after definitions and a paragraph.
* `StaticSite.Markdown.Outline.readHeading` — the outline after a heading on one line.
-/

namespace StaticSite.Markdown

namespace Setting

/-- The lines by which a paragraph goes on, the level of the heading that an underline makes of
it, and the text after them. -/
def paragraphLines (s : Setting) : Nat → Text → List SourceLine × Option Nat × Text
  | 0, t => ([], none, t)
  | limit + 1, t =>
    let (inContainer, place) := s.enter t
    let (left, behind) := place.skip 4
    match if left ≠ 0 && inContainer then underline? behind.rest else none with
    | some (level, rest) => ([], some level, rest)
    | none =>
      let start := behind.skipAll
      if (left ≠ 0 && s.interrupts inContainer behind.rest) || start.atEnd then ([], none, t)
      else
        let (text, ending, rest) := splitLine start.rest
        let (lines, level, rest) := s.paragraphLines limit rest
        (⟨t.take start.scanned, text, ending⟩ :: lines, level, rest)

/-- The cells of the rows of a table, and the text after them. A row has a cell at least. -/
def tableRows (s : Setting) : Nat → Text → List (List Text) × Text
  | 0, t => ([], t)
  | limit + 1, t =>
    let (inContainer, place) := s.enter t
    let start := place.skipAll.rest
    if !inContainer || s.interruptsText true true start then ([], t)
    else
      let (line, _, rest) := splitLine start
      match Table.cells line with
      | [] => ([], t)
      | cells =>
        let (rows, rest) := s.tableRows limit rest
        (cells :: rows, rest)

end Setting

namespace Outline

/-- The outline after the paragraph or the table that starts with a text, and the text after it.
A check box in front of a table is left out. -/
def readParagraph (ext : Extensions) (limit : Nat) (task : Option Bool) (o : Outline) (t : Text) :
    Outline × Text :=
  let s := o.setting ext
  let (line, ending, following) := splitLine t
  match s.tableStart? true t with
  | some (alignments, body) =>
    let (rows, rest) := s.tableRows limit body
    let row := fun cells =>
      (Table.fit alignments.length cells).map (Content.ofCell s.margins)
    (o.add (.table alignments (row (Table.cells line)) (rows.map row)), rest)
  | none =>
    let (lines, level, rest) := s.paragraphLines limit following
    let content := Content.ofLines task s.margins (⟨[], line, ending⟩ :: lines)
    match level with
    | some level => (o.add (.heading level content), rest)
    | none => (o.add (.paragraph content), rest)

/-- The outline after the definitions that a text starts with and the paragraph behind them, and
the text after it, as far as the fuel goes. A definition is no paragraph, but the line after it
goes on as behind one. -/
def readText (ext : Extensions) (limit : Nat) : Nat → Outline → Text → Outline × Text
  | 0, o, t => (o, t)
  | n + 1, o, t =>
    let s := o.setting ext
    match s.definition? limit t with
    | none => o.readParagraph ext limit none t
    | some (definition, rest) =>
      let o := o.define definition
      let next := (afterBlankLine? rest).getD rest
      let (inContainer, place) := s.enter next
      let (left, behind) := place.skip 4
      let start := behind.skipAll
      if (left ≠ 0 && s.interrupts inContainer behind.rest) || start.atEnd then (o, next)
      else readText ext limit n o start.rest

/-- The outline after the heading of a level that starts behind its number signs, and the text
after it. -/
def readHeading (level : Nat) (o : Outline) (t : Text) : Outline × Text :=
  let (line, _, rest) := splitLine t
  let text := line.dropWhile isLineSpace
  (o.add (.heading level (Content.ofHeading text (headingLength text))), rest)

end Outline

end StaticSite.Markdown
