import StaticSite.Markdown.Content
import StaticSite.Markdown.Definition

set_option relaxedAutoImplicit false
set_option autoImplicit false

/-!
# The outline of a document

While a document is read, the containers that may go on in the next line are open, each inside
the one before. Everything else is finished as soon as it has been read.

## Main definitions

* `StaticSite.Markdown.Container` — an open block that holds blocks.
* `StaticSite.Markdown.Outline` — everything that has been read.
* `StaticSite.Markdown.Outline.enter`, `StaticSite.Markdown.Outline.leave` — how far the
  containers go on in a line, and the outline without the others.
* `StaticSite.Markdown.Outline.finishList`, `StaticSite.Markdown.Outline.continueList` — what a
  block or an item does to the list in front of it.
-/

namespace StaticSite.Markdown

/-! ## Containers -/

/-- An open item of a list. -/
structure OpenItem where
  /-- By how many columns the lines of the item are indented. -/
  indent : Nat
  /-- The blocks of the item, last first. -/
  blocks : List (Block Content)

/-- An open block that holds blocks. Blocks and items that are done are kept last first. -/
inductive Container where
  /-- A quotation. -/
  | quote (blocks : List (Block Content))
  /-- A footnote. -/
  | footnote (label : Text) (blocks : List (Block Content))
  /-- A list whose items have the given mark: the number of the first item, the items that are
  done, and the last item while it is open. -/
  | list (tight : Bool) (mark : Char) (start : Option Nat) (items : List (List (Block Content)))
      (item : Option OpenItem)

namespace Container

/-- A container with one more block. In a list between items the block is an item. -/
def add (b : Block Content) : Container → Container
  | .quote blocks => .quote (b :: blocks)
  | .footnote label blocks => .footnote label (b :: blocks)
  | .list tight mark start items (some item) =>
    .list tight mark start items (some { item with blocks := b :: item.blocks })
  | .list tight mark start items none => .list tight mark start items (some ⟨0, [b]⟩)

/-- A container without an open item. -/
def closeItem : Container → Container
  | .list tight mark start items (some item) =>
    .list tight mark start (item.blocks.reverse :: items) none
  | c => c

/-- The block that a container is when it is closed. -/
def toBlock : Container → Block Content
  | .quote blocks => .quote blocks.reverse
  | .footnote label blocks => .footnote label blocks.reverse
  | .list tight _ start items none => .list tight start items.reverse
  | .list tight _ start items (some item) =>
    .list tight start (item.blocks.reverse :: items).reverse

/-- Whether a container is a tight list. -/
def isTightList : Container → Bool
  | .list tight _ _ _ _ => tight
  | _ => false

/-- A container made a loose list, if an item of it is open. -/
def loosenAroundItem : Container → Container
  | .list _ mark start items (some item) => .list false mark start items (some item)
  | c => c

/-- What the lines of a container start with. A list between items has no margin. -/
def margin? : Container → Option Margin
  | .quote _ => some .quote
  | .footnote _ _ => some (.indent 4)
  | .list _ _ _ _ (some item) => some (.indent item.indent)
  | .list _ _ _ _ none => none

/-- How many containers go on in a line, from the outermost on, and the place behind their
margins. -/
def enter : List Container → Cursor → Nat × Cursor
  | [], c => (0, c)
  | k :: ks, c =>
    match match k.margin? with
      | none => some c
      | some margin => margin.resume? c with
    | none => (0, c)
    | some behind =>
      let (n, place) := enter ks behind
      (n + 1, place)

end Container

/-! ## Outlines -/

/-- What has been read of a document. -/
structure Outline where
  /-- The finished blocks outside all containers, last first. -/
  blocks : List (Block Content)
  /-- The open containers, innermost first. -/
  containers : List Container
  /-- Whether the line before was blank, as far as the looseness of lists depends on it. -/
  afterBlank : Bool
  /-- Whether the innermost item has been opened without any content. -/
  emptyItem : Bool
  /-- The link definitions, last first. -/
  links : List LinkDefinition
  /-- The keys of the footnotes. -/
  footnotes : List Text

namespace Outline

/-- The outline of a document of which nothing has been read. -/
def empty : Outline := ⟨[], [], false, false, [], []⟩

/-- The outline with one more block in the innermost container. -/
def add (b : Block Content) (o : Outline) : Outline :=
  match o.containers with
  | [] => { o with blocks := b :: o.blocks }
  | c :: cs => { o with containers := c.add b :: cs }

/-- The outline with the innermost container closed. -/
def closeContainer (o : Outline) : Outline :=
  match o.containers with
  | [] => o
  | c :: cs =>
    { o with
      containers := cs
      emptyItem := o.emptyItem && !c.isTightList }.add c.toBlock

/-- The outline with a number of containers closed. -/
def closeContainers : Nat → Outline → Outline
  | 0, o => o
  | n + 1, o => closeContainers n o.closeContainer

/-- The outline with one more container. -/
def push (c : Container) (o : Outline) : Outline := { o with containers := c :: o.containers }

/-- The outline with its innermost container changed. -/
def modifyInnermost (f : Container → Container) (o : Outline) : Outline :=
  match o.containers with
  | [] => o
  | c :: cs => { o with containers := f c :: cs }

/-! ### Lines and containers -/

/-- The margins of the open containers, outermost first. -/
def margins (o : Outline) : List Margin := o.containers.reverse.filterMap Container.margin?

/-- What decides where a paragraph in the innermost container ends. -/
def setting (ext : Extensions) (o : Outline) : Setting := ⟨ext, o.margins⟩

/-- How many containers go on in a line, and the place behind their margins. -/
def enter (o : Outline) (t : Text) : Nat × Cursor :=
  Container.enter o.containers.reverse (Cursor.ofText t)

/-- The outline with the containers closed that do not go on. Of a list that does not go on
only the item is closed, because another item may follow. -/
def leave (depth : Nat) (o : Outline) : Outline :=
  match o.containers.length - depth with
  | 0 => o
  | lost + 1 =>
    let o := closeContainers lost o
    match o.containers with
    | .list _ _ _ _ _ :: _ => o.modifyInnermost Container.closeItem
    | _ => o.closeContainer

/-! ### Lists -/

/-- The outline with the innermost item closed if it has no content and a blank line follows
it: an item starts with at most one blank line. -/
def finishEmptyItem (o : Outline) : Outline :=
  let o := if o.emptyItem && o.afterBlank then o.modifyInnermost Container.closeItem else o
  { o with emptyItem := false }

/-- The outline ready for a block that is no item: a list between items ends, and a list whose
item goes on behind a blank line is loose. -/
def finishList (o : Outline) : Outline :=
  let o := o.finishEmptyItem
  let o :=
    match o.containers with
    | .list _ _ _ _ none :: _ => o.closeContainer
    | _ => o
  let o := if o.afterBlank then o.modifyInnermost Container.loosenAroundItem else o
  { o with afterBlank := false }

/-- The outline ready for an item: the list in front of it goes on if its items have the same
mark, and is loose if a blank line separates them; otherwise a new list starts. -/
def continueList (mark : Char) (start : Option Nat) (o : Outline) : Outline :=
  let o := o.finishEmptyItem
  match o.containers with
  | .list tight existing first items none :: cs =>
    if existing = mark then
      { o with
        containers := .list (tight && !o.afterBlank) existing first items none :: cs
        afterBlank := false }
    else (o.finishList).push (.list true mark start [] none)
  | _ => (o.finishList).push (.list true mark start [] none)

/-- The outline with an item opened in the innermost container. -/
def openItem (indent : Nat) (o : Outline) : Outline :=
  o.modifyInnermost fun c =>
    match c with
    | .list tight mark start items none => .list tight mark start items (some ⟨indent, []⟩)
    | c => c

/-- The outline after a blank line. An item without content cannot go on behind it. -/
def blankLine (o : Outline) : Outline :=
  match o.containers with
  | .quote _ :: _ => o
  | .list tight mark start items (some item) :: cs =>
    let item := if o.emptyItem then { item with indent := 0 } else item
    { o with containers := .list tight mark start items (some item) :: cs, afterBlank := true }
  | _ => { o with afterBlank := true }

/-! ### Definitions -/

/-- The outline with one more link definition. -/
def define (definition : LinkDefinition) (o : Outline) : Outline :=
  { o with links := definition :: o.links }

end Outline

end StaticSite.Markdown
