import StaticSite.Html.Escape
import StaticSite.Markdown.Document

set_option relaxedAutoImplicit false
set_option autoImplicit false

/-!
# Markdown as HTML

A document is written as HTML block by block. A block starts on a line of its own, and
footnotes are numbered in the order in which they are first referred to or defined.

## Main definitions

* `StaticSite.Markdown.Output` — the HTML written so far.
* `StaticSite.Markdown.writeInline`, `StaticSite.Markdown.writeBlock` — the HTML of inline
  content and of a block.
* `StaticSite.Markdown.toHtml` — the HTML of a document.
-/

namespace StaticSite.Markdown

/-- The HTML written so far. -/
structure Output where
  /-- The characters, last first. -/
  reversed : Text
  /-- Whether the next block is at the start of a line. -/
  atLineStart : Bool
  /-- The labels of the numbered footnotes, in the order of their numbers. -/
  numbered : List Text

namespace Output

/-- Nothing written. -/
def empty : Output := ⟨[], true, []⟩

/-- The text written. -/
def text (o : Output) : Text := o.reversed.reverse

/-- One more text written. -/
def put (t : Text) (o : Output) : Output :=
  { o with
    reversed := t.reverse ++ o.reversed
    atLineStart := if t.isEmpty then o.atLineStart else t.getLast? == some '\n' }

/-- One more text written that has no part in how lines start. -/
def putPart (t : Text) (o : Output) : Output := { o with reversed := t.reverse ++ o.reversed }

/-- A text written for content: the next block is at the start of a line if the content ends with
a line feed. -/
def putContent (written content : Text) (o : Output) : Output :=
  { o with
    reversed := written.reverse ++ o.reversed
    atLineStart := content.getLast? == some '\n' }

/-- A mark written. -/
def tag (s : String) (o : Output) : Output := o.put s.toList

/-- A mark written at the start of a line. -/
def freshTag (s : String) (o : Output) : Output :=
  if o.atLineStart then o.tag s else o.put ('\n' :: s.toList)

/-- The number of a footnote, a new one if the footnote has none. -/
def number (label : Text) (o : Output) : Nat × Output :=
  match o.numbered.findIdx? (· == label) with
  | some i => (i + 1, o)
  | none => (o.numbered.length + 1, { o with numbered := o.numbered ++ [label] })

/-- The number of a footnote written. -/
def putNumber (label : Text) (o : Output) : Output :=
  let (n, o) := o.number label
  o.putPart (Text.ofNat n)

/-- The title of a link or an image written, unless it is empty. -/
def putTitle (title : Text) (o : Output) : Output :=
  if title.isEmpty then o else (o.tag "\" title=\"").putPart (Html.escapeAttribute title)

end Output

/-! ## Inline content -/

mutual

/-- The description of an image: inline content as plain text. -/
def writePlain : Inline → Output → Output
  | .text t, o => o.putContent (Html.escapeAttribute t) t
  | .code t, o => o.putContent (Html.escapeAttribute t) t
  | .html t, o => o.putContent (Html.escapeAttribute t) t
  | .math display t, o =>
    let sign := if display then "$$" else "$"
    ((o.tag sign).putPart (Html.escapeAttribute t)).tag sign
  | .softBreak, o => o.tag " "
  | .hardBreak, o => o.tag " "
  | .emphasis children, o => writePlains children o
  | .strong children, o => writePlains children o
  | .strikethrough children, o => writePlains children o
  | .link _ children, o => writePlains children o
  | .image _ children, o => writePlains children o
  | .footnoteReference label, o => ((o.putPart ['[']).putNumber label).putPart [']']
  | .checkBox done, o => o.tag (if done then "[x]" else "[ ]")

/-- The descriptions of inline content in order. -/
def writePlains : List Inline → Output → Output
  | [], o => o
  | i :: is, o => writePlains is (writePlain i o)

end

/-- A check box. -/
def checkBoxTag (done : Bool) : String :=
  if done then "<input disabled=\"\" type=\"checkbox\" checked=\"\"/>\n"
  else "<input disabled=\"\" type=\"checkbox\"/>\n"

mutual

/-- The HTML of inline content. -/
def writeInline : Inline → Output → Output
  | .text t, o => o.putContent (Html.escapeBody t) t
  | .code t, o => ((o.tag "<code>").putPart (Html.escapeBody t)).tag "</code>"
  | .html t, o => o.put t
  | .math display t, o =>
    let o :=
      o.tag (if display then "<span class=\"math math-display\">"
        else "<span class=\"math math-inline\">")
    (o.putPart (Html.escapeAttribute t)).tag "</span>"
  | .softBreak, o => o.tag "\n"
  | .hardBreak, o => o.tag "<br />\n"
  | .emphasis children, o => (writeInlines children (o.tag "<em>")).tag "</em>"
  | .strong children, o => (writeInlines children (o.tag "<strong>")).tag "</strong>"
  | .strikethrough children, o => (writeInlines children (o.tag "<del>")).tag "</del>"
  | .link target children, o =>
    let o := (o.tag "<a href=\"").putPart (Html.escapeTarget target.destination)
    (writeInlines children ((o.putTitle target.title).tag "\">")).tag "</a>"
  | .image target children, o =>
    let o := (o.tag "<img src=\"").putPart (Html.escapeTarget target.destination)
    ((writePlains children (o.tag "\" alt=\"")).putTitle target.title).tag "\" />"
  | .footnoteReference label, o =>
    let o := o.tag "<sup class=\"footnote-reference\"><a href=\"#"
    (((o.putPart (Html.escapeAttribute label)).tag "\">").putNumber label).tag "</a></sup>"
  | .checkBox done, o => o.tag (checkBoxTag done)

/-- The HTML of inline content in order. -/
def writeInlines : List Inline → Output → Output
  | [], o => o
  | i :: is, o => writeInlines is (writeInline i o)

end

/-! ## Tables -/

/-- The attribute for the alignment of a cell. -/
def alignmentAttribute : Alignment → String
  | .unset => ""
  | .left => " style=\"text-align: left\""
  | .center => " style=\"text-align: center\""
  | .right => " style=\"text-align: right\""

/-- The HTML of the cells of a row. -/
def writeCells (element : String) : List Alignment → List (List Inline) → Output → Output
  | _, [], o => o
  | alignments, cell :: cells, o =>
    let style := alignmentAttribute (alignments.head?.getD .unset)
    let o := ((o.tag ("<" ++ element)).tag style).tag ">"
    writeCells element alignments.tail cells
      ((writeInlines cell o).tag ("</" ++ element ++ ">"))

/-- The HTML of a table. -/
def writeTable (alignments : List Alignment) (header : List (List Inline))
    (rows : List (List (List Inline))) (o : Output) : Output :=
  let o := (writeCells "th" alignments header (o.tag "<table><thead><tr>")).tag
    "</tr></thead><tbody>\n"
  (rows.foldl (fun o row => (writeCells "td" alignments row (o.tag "<tr>")).tag "</tr>\n") o).tag
    "</tbody></table>\n"

/-! ## Blocks -/

/-- The tag that opens a list. -/
def listTag : Option Nat → String
  | none => "<ul>\n"
  | some 1 => "<ol>\n"
  | some n => "<ol start=\"" ++ String.ofList (Text.ofNat n) ++ "\">\n"

/-- The tag that opens a code block. -/
def writeCodeTag (language : Text) (o : Output) : Output :=
  if language.isEmpty then o.tag "<pre><code>"
  else
    ((o.tag "<pre><code class=\"language-").putPart (Html.escapeAttribute language)).tag "\">"

mutual

/-- The HTML of a block. A paragraph that is an item of a tight list has no tags. -/
def writeBlock (tight : Bool) : Block (List Inline) → Output → Output
  | .paragraph content, o =>
    if tight then writeInlines content o
    else (writeInlines content (o.freshTag "<p>")).tag "</p>\n"
  | .heading level content, o =>
    let name := "h" ++ String.ofList (Text.ofNat level) ++ ">"
    ((writeInlines content (o.freshTag ("<" ++ name))).tag ("</" ++ name)).tag "\n"
  | .rule, o => o.freshTag "<hr />\n"
  | .code language t, o =>
    let o := writeCodeTag language (if o.atLineStart then o else o.tag "\n")
    (o.putPart (Html.escapeBody t)).tag "</code></pre>\n"
  | .html t, o => o.put t
  | .quote children, o =>
    (writeBlocks false children (o.freshTag "<blockquote>\n")).tag "</blockquote>\n"
  | .list tight start items, o =>
    let o := writeItems tight items (o.freshTag (listTag start))
    match start with
    | none => o.tag "</ul>\n"
    | some _ => o.tag "</ol>\n"
  | .checkBox done, o => o.tag (checkBoxTag done)
  | .footnote label children, o =>
    let o := o.freshTag "<div class=\"footnote-definition\" id=\""
    let o := (o.putPart (Html.escapeAttribute label)).tag
      "\"><sup class=\"footnote-definition-label\">"
    (writeBlocks false children ((o.putNumber label).tag "</sup>")).tag "</div>\n"
  | .table alignments header rows, o => writeTable alignments header rows o

/-- The HTML of blocks in order. -/
def writeBlocks (tight : Bool) : List (Block (List Inline)) → Output → Output
  | [], o => o
  | b :: bs, o => writeBlocks tight bs (writeBlock tight b o)

/-- The HTML of the items of a list. -/
def writeItems (tight : Bool) : List (List (Block (List Inline))) → Output → Output
  | [], o => o
  | item :: items, o =>
    writeItems tight items ((writeBlocks tight item (o.freshTag "<li>")).tag "</li>\n")

end

/-- The HTML of a document. -/
def toHtml (ext : Extensions) (t : Text) : Text :=
  (writeBlocks false (parse ext t) Output.empty).text

end StaticSite.Markdown
