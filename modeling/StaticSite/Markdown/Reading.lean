import StaticSite.Markdown.Paragraph
import StaticSite.Markdown.Verbatim

set_option relaxedAutoImplicit false
set_option autoImplicit false

/-!
# Reading a document block by block

The first line of a block shows which containers go on, which ones it opens, and what block
stands in the innermost of them. That block is read to its end.

## Main definitions

* `StaticSite.Markdown.Outline.openContainers` — the containers that a line opens.
* `StaticSite.Markdown.Outline.readLeaf` — the outline after a block that holds text.
* `StaticSite.Markdown.Outline.readBlock` — the outline after one more block.
* `StaticSite.Markdown.Outline.ofText` — the outline of a document.
-/

namespace StaticSite.Markdown.Outline

/-! ## Blocks that hold text -/

/-- The outline after a block that holds text, and the text after it. The block starts at a
place behind the margins of the open containers. -/
def readLeaf (ext : Extensions) (limit : Nat) (o : Outline) (place : Cursor) : Outline × Text :=
  match afterBlankLine? place.rest with
  | some rest => (o.blankLine, rest)
  | none =>
    let o := o.finishList
    let (left, behind) := place.skip 4
    let t := behind.rest
    if left = 0 then
      let (lines, rest) := indentedCode o.margins limit behind
      let afterBlank := lines.getLast?.any CodeLine.isBlank
      ({ o with afterBlank := afterBlank }.add (.code [] (codeText lines)), rest)
    else
      match htmlBlockStart? t with
      | some blockEnd =>
        let spaces := max place.pending (4 - left)
        let (lines, rest) := htmlLines o.margins blockEnd limit spaces t
        (o.add (.html lines), rest)
      | none =>
        if isThematicBreak t then (o.add .rule, afterLine t)
        else
          match headingLevel? t with
          | some level => o.readHeading level (t.drop level)
          | none =>
            match Fence.opening? t with
            | some (fence, info) =>
              let (first, rest) := splitVerbatimLine info
              let (lines, rest) := fencedCode o.margins fence (4 - left) limit rest
              (o.add (.code (languageOf first) lines), rest)
            | none => readText ext limit limit o t

/-! ## Containers -/

/-- What a line goes on with behind the marker of a list item. -/
inductive ItemStart where
  /-- The line is done. -/
  | done (rest : Text)
  /-- A paragraph with a check box. -/
  | task (done : Bool) (t : Text)
  /-- Any block. -/
  | block (place : Cursor)

/-- The outline after the marker of a list item, and what the line goes on with. -/
def startItem (ext : Extensions) (o : Outline) (outer : Nat) (marker : ListMarker)
    (place : Cursor) : Outline × ItemStart :=
  let o := o.continueList marker.mark marker.number
  let marked : Cursor :=
    ⟨place.rest.drop marker.width, place.column + marker.width, 0, place.scanned + marker.width⟩
  let behind := (marked.skip 1).2
  let indent := outer + marker.width + 1
  match afterBlankLine? behind.rest with
  | some rest => ({ o.openItem indent with emptyItem := true }, .done rest)
  | none =>
    let (left, further) := behind.skip 4
    let (o, start) :=
      if left = 0 then (o.openItem indent, behind) else (o.openItem (indent + (4 - left)), further)
    match if ext.tasklists then checkBox? start else none with
    | none => (o, .block start)
    | some (done, t) =>
      match afterBlankLine? t with
      | some rest => ({ o.add (.checkBox done) with emptyItem := true }, .done rest)
      | none => (o, .task done (t.dropWhile isLineSpace))

/-- The outline with the footnote of a label opened. A footnote ends where the next one
starts. -/
def openFootnote (label : Text) (o : Outline) : Outline :=
  let o := o.finishList
  let o :=
    match o.containers with
    | .footnote _ _ :: _ => o.closeContainer
    | _ => o
  { o.push (.footnote label []) with footnotes := labelKey label :: o.footnotes }

/-- The outline with the containers opened that a line starts, and what the line goes on with,
as far as the fuel goes. -/
def openContainers (ext : Extensions) : Nat → Outline → Cursor → Outline × ItemStart
  | 0, o, place => (o, .block place)
  | n + 1, o, place =>
    let (left, behind) := place.skip 4
    if left = 0 then (o, .block place)
    else
      match (o.setting ext).footnoteStart? false behind.rest with
      | some (label, rest) =>
        openContainers ext n (o.openFootnote label)
          (Cursor.ofText (rest.dropWhile isLineSpace))
      | none =>
        match ListMarker.of? behind.rest with
        | some marker =>
          match o.startItem ext (4 - left) marker behind with
          | (o, .block start) => openContainers ext n o start
          | done => done
        | none =>
          match behind.rest with
          | '>' :: _ =>
            openContainers ext n (o.finishList.push (.quote [])) (behind.advance.skip 1).2
          | _ => (o, .block place)

/-! ## Documents -/

/-- The outline after one more block, and the text after it. -/
def readBlock (ext : Extensions) (limit : Nat) (o : Outline) (t : Text) : Outline × Text :=
  let (depth, place) := o.enter t
  match openContainers ext ((lineText t).length + 1) (o.leave depth) place with
  | (o, .done rest) => (o, rest)
  | (o, .task done t) => o.readParagraph ext limit (some done) t
  | (o, .block place) => o.readLeaf ext limit place

/-- The outline after a text, as far as the fuel goes. -/
def readBlocks (ext : Extensions) (limit : Nat) : Nat → Outline → Text → Outline
  | 0, o, _ => o
  | n + 1, o, t =>
    if t.isEmpty then o
    else
      let (o, rest) := o.readBlock ext limit t
      readBlocks ext limit n o rest

/-- The outline with all containers closed. -/
def close (o : Outline) : Outline := closeContainers o.containers.length o

/-- The outline of a document. -/
def ofText (ext : Extensions) (t : Text) : Outline :=
  let limit := t.length + 1
  (readBlocks ext limit limit empty t).close

end StaticSite.Markdown.Outline
