import StaticSite.Text.Basic

set_option relaxedAutoImplicit false
set_option autoImplicit false

/-!
# The structure of a document

A document is a sequence of blocks. Some blocks hold other blocks, the others hold inline
content or literal text.

## Main definitions

* `StaticSite.Markdown.Inline` — inline content.
* `StaticSite.Markdown.Block` — a block, for any kind of inline content.
* `StaticSite.Markdown.Block.mapAlong` — a block with its inline content changed.
-/

namespace StaticSite.Markdown

/-- Where a link leads. -/
structure Target where
  /-- The destination. -/
  destination : Text
  /-- The title; an empty one is no title. -/
  title : Text
deriving DecidableEq, Repr

/-- Inline content. -/
inductive Inline where
  /-- Text. -/
  | text (t : Text)
  /-- A code span. -/
  | code (t : Text)
  /-- An HTML tag or comment. -/
  | html (t : Text)
  /-- A formula, set apart from the text or not. -/
  | math (display : Bool) (t : Text)
  /-- A line break of the source. -/
  | softBreak
  /-- A line break of the page. -/
  | hardBreak
  /-- Emphasis. -/
  | emphasis (children : List Inline)
  /-- Strong emphasis. -/
  | strong (children : List Inline)
  /-- Deleted text. -/
  | strikethrough (children : List Inline)
  /-- A link. -/
  | link (target : Target) (children : List Inline)
  /-- An image with its description. -/
  | image (target : Target) (children : List Inline)
  /-- A reference to the footnote with the given label. -/
  | footnoteReference (label : Text)
  /-- A check box. -/
  | checkBox (done : Bool)
deriving Repr

/-- The alignment of a column of a table. -/
inductive Alignment where
  /-- As the page has it. -/
  | unset
  /-- To the left. -/
  | left
  /-- In the middle. -/
  | center
  /-- To the right. -/
  | right
deriving DecidableEq, Repr

/-- A block whose inline content has type `α`. -/
inductive Block (α : Type) where
  /-- A paragraph. -/
  | paragraph (content : α)
  /-- A heading of a level from one to six. -/
  | heading (level : Nat) (content : α)
  /-- A thematic break. -/
  | rule
  /-- Code, with the language if it has one. -/
  | code (language : Text) (t : Text)
  /-- HTML. -/
  | html (t : Text)
  /-- A quotation. -/
  | quote (children : List (Block α))
  /-- A list. An ordered list has the number of its first item. -/
  | list (tight : Bool) (start : Option Nat) (items : List (List (Block α)))
  /-- A check box without a paragraph. -/
  | checkBox (done : Bool)
  /-- The footnote with the given label. -/
  | footnote (label : Text) (children : List (Block α))
  /-- A table: the alignment of its columns, its header and its rows. -/
  | table (alignments : List Alignment) (header : List α) (rows : List (List α))
deriving Repr

/-! ## Changing inline content -/

/-- A list changed item by item, from left to right, by a function that carries a state along. -/
def mapAlong {σ α β : Type} (f : σ → α → σ × β) : σ → List α → σ × List β
  | s, [] => (s, [])
  | s, a :: as =>
    let (s, b) := f s a
    let (s, bs) := mapAlong f s as
    (s, b :: bs)

mutual

/-- A block with its inline content changed, from left to right, by a function that carries a
state along. -/
def Block.mapAlong {σ α β : Type} (f : σ → α → σ × β) (s : σ) : Block α → σ × Block β
  | .paragraph content =>
    let (s, content) := f s content
    (s, .paragraph content)
  | .heading level content =>
    let (s, content) := f s content
    (s, .heading level content)
  | .rule => (s, .rule)
  | .code language t => (s, .code language t)
  | .html t => (s, .html t)
  | .quote children =>
    let (s, children) := Block.mapAllAlong f s children
    (s, .quote children)
  | .list tight start items =>
    let (s, items) := Block.mapItemsAlong f s items
    (s, .list tight start items)
  | .checkBox done => (s, .checkBox done)
  | .footnote label children =>
    let (s, children) := Block.mapAllAlong f s children
    (s, .footnote label children)
  | .table alignments header rows =>
    let (s, header) := Markdown.mapAlong f s header
    let (s, rows) := Markdown.mapAlong (Markdown.mapAlong f) s rows
    (s, .table alignments header rows)

/-- Blocks with their inline content changed. -/
def Block.mapAllAlong {σ α β : Type} (f : σ → α → σ × β) (s : σ) :
    List (Block α) → σ × List (Block β)
  | [] => (s, [])
  | b :: bs =>
    let (s, b) := Block.mapAlong f s b
    let (s, bs) := Block.mapAllAlong f s bs
    (s, b :: bs)

/-- List items with their inline content changed. -/
def Block.mapItemsAlong {σ α β : Type} (f : σ → α → σ × β) (s : σ) :
    List (List (Block α)) → σ × List (List (Block β))
  | [] => (s, [])
  | item :: items =>
    let (s, item) := Block.mapAllAlong f s item
    let (s, items) := Block.mapItemsAlong f s items
    (s, item :: items)

end

end StaticSite.Markdown
