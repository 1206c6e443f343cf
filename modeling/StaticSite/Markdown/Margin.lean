import StaticSite.Markdown.Line

set_option relaxedAutoImplicit false
set_option autoImplicit false

/-!
# Margins

The lines of a quotation start with an angle bracket, those of a list item or a footnote with
white space. What a line needs to go on with a container is the margin of that container, and
containers inside each other have their margins one after the other.

## Main definitions

* `StaticSite.Markdown.Margin` — the margin of a container.
* `StaticSite.Markdown.Margin.enter` — how many margins a line starts with.
* `StaticSite.Markdown.Margin.width` — how many characters of a text the margins take.
-/

namespace StaticSite.Markdown

/-- What the lines of a container start with. -/
inductive Margin where
  /-- The angle bracket of a quotation. -/
  | quote
  /-- The indentation of a list item or a footnote. -/
  | indent (columns : Nat)
deriving DecidableEq, Repr

namespace Margin

/-- The place behind the margin of a container. A line that ends inside an indentation has that
margin, too. Behind a tab that reaches over the angle bracket of a quotation, what is left of
the tab stands for the space behind the bracket. -/
def resume? : Margin → Cursor → Option Cursor
  | .quote, c =>
    let behind := (c.skip 3).2
    match behind.rest with
    | '>' :: _ => some (behind.advance.skip 1).2
    | _ => none
  | .indent n, c =>
    let (left, behind) := c.skip n
    if left = 0 || behind.atEnd then some behind else none

/-- How many margins a line starts with, from the outermost on, and the place behind them. -/
def enter : List Margin → Cursor → Nat × Cursor
  | [], c => (0, c)
  | m :: ms, c =>
    match m.resume? c with
    | none => (0, c)
    | some behind =>
      let (n, place) := enter ms behind
      (n + 1, place)

/-- The place behind all margins, if a line starts with all of them. -/
def enterAll? (ms : List Margin) (t : Text) : Option Cursor :=
  let (depth, place) := enter ms (Cursor.ofText t)
  if depth = ms.length then some place else none

/-- How many characters the margins take at the start of a text. -/
def width (ms : List Margin) (t : Text) : Nat := (enter ms (Cursor.ofText t)).2.scanned

end Margin

end StaticSite.Markdown
