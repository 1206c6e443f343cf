import StaticSite.Markdown.Line
import StaticSite.Text.Ascii

set_option relaxedAutoImplicit false
set_option autoImplicit false

/-!
# Block markers

The marks by which a line shows what block it starts, continues or ends. The texts read here
start at the mark and go on to the end of the document.

## Main definitions

* `StaticSite.Markdown.isThematicBreak`, `StaticSite.Markdown.headingLevel?`,
  `StaticSite.Markdown.underline?` — breaks and headings.
* `StaticSite.Markdown.Fence` — the fence of a code block.
* `StaticSite.Markdown.ListMarker` — the marker of a list item.
* `StaticSite.Markdown.checkBox?` — the check box of a list item.
-/

namespace StaticSite.Markdown

/-! ## Breaks and headings -/

/-- Whether a line is a thematic break: three or more equal marks and white space. -/
def isThematicBreak (t : Text) : Bool :=
  match t with
  | [] => false
  | c :: _ =>
    let line := lineText t
    (c == '*' || c == '-' || c == '_') && line.all (fun d => d == c || d == ' ' || d == '\t') &&
      3 ≤ line.count c

/-- The level of the heading that a line starts: one to six number signs in front of white
space or the end of the line. -/
def headingLevel? (t : Text) : Option Nat :=
  let level := (t.takeWhile (· == '#')).length
  if 1 ≤ level ∧ level ≤ 6 then
    match t.drop level with
    | [] => some level
    | c :: _ => if isAnySpace c then some level else none
  else none

/-- The level of the heading that a line under a paragraph makes of it, and the text after that
line. -/
def underline? (t : Text) : Option (Nat × Text) :=
  match t with
  | '=' :: rest => (afterBlankLine? (rest.dropWhile (· == '='))).map fun after => (1, after)
  | '-' :: rest => (afterBlankLine? (rest.dropWhile (· == '-'))).map fun after => (2, after)
  | _ => none

/-- How many characters of a heading line are its content: spaces at its end and a closing run
of number signs behind a space are left out. -/
def headingLength (line : Text) : Nat :=
  let content := dropEnd (· == ' ') line
  let body := dropEnd (· == '#') content
  if body.isEmpty then 0
  else if body.getLast? == some ' ' then (dropEnd (· == ' ') body).length
  else content.length

/-! ## Fences -/

/-- The fence that opens a code block. -/
structure Fence where
  /-- The mark, a backtick or a tilde. -/
  mark : Char
  /-- How many marks there are. -/
  length : Nat
deriving DecidableEq, Repr

/-- The fence at the start of a line and the text after it. No backtick may follow a fence of
backticks on its line. -/
def Fence.opening? (t : Text) : Option (Fence × Text) :=
  match t with
  | [] => none
  | c :: _ =>
    if c = '`' ∨ c = '~' then
      let length := (t.takeWhile (· == c)).length
      let info := t.drop length
      if length < 3 || (c == '`' && (info.takeWhile (· != '\n')).contains '`') then none
      else some (⟨c, length⟩, info)
    else none

/-- The text after the line that closes a code block: it holds at least as many marks as the
opening fence, and spaces. The end of the document closes the block, too. -/
def Fence.closing? (fence : Fence) (t : Text) : Option Text :=
  if t.isEmpty then some []
  else if (t.takeWhile (· == fence.mark)).length < fence.length then none
  else afterEnding? ((t.dropWhile (· == fence.mark)).dropWhile (· == ' '))

/-! ## List items -/

/-- The marker of a list item. -/
structure ListMarker where
  /-- The mark by which items of one list agree: the bullet, or what follows the number. -/
  mark : Char
  /-- The number of an ordered item. -/
  number : Option Nat
  /-- How many characters the marker has. -/
  width : Nat
deriving DecidableEq, Repr

/-- Whether a marker is followed by white space or the end of the line. -/
def endsMarker : Text → Bool
  | [] => true
  | c :: _ => c == ' ' || c == '\t' || isLineEnd c

/-- The number written by decimal digits. -/
def decimalValue (digits : Text) : Nat :=
  digits.foldl (fun n c => n * 10 + (c.toNat - '0'.toNat)) 0

/-- The marker at the start of a line: a bullet, or up to nine digits and a point or a
parenthesis. -/
def ListMarker.of? (t : Text) : Option ListMarker :=
  match t with
  | [] => none
  | c :: rest =>
    if c = '-' ∨ c = '+' ∨ c = '*' then
      if endsMarker rest && !isThematicBreak t then some ⟨c, none, 1⟩ else none
    else
      let digits := t.takeWhile Char.isDigit
      match t.drop digits.length with
      | d :: rest =>
        if !digits.isEmpty && digits.length ≤ 9 && (d == '.' || d == ')') && endsMarker rest then
          some ⟨d, some (decimalValue digits), digits.length + 1⟩
        else none
      | [] => none

/-- The check box at the start of the text after a list marker, and the text after it. White
space must follow the box. -/
def checkBox? (c : Cursor) : Option (Bool × Text) :=
  match (c.skip 3).2.rest with
  | '[' :: mark :: ']' :: next :: rest =>
    if isAnySpace next then
      if isLineSpace mark then some (false, next :: rest)
      else if mark = 'x' ∨ mark = 'X' then some (true, next :: rest)
      else none
    else none
  | _ => none

end StaticSite.Markdown
