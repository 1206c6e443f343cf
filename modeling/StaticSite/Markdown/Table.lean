import StaticSite.Markdown.Line
import StaticSite.Markdown.Tree

set_option relaxedAutoImplicit false
set_option autoImplicit false

/-!
# Tables

A table starts with a header line and a delimiter line of as many columns. Its cells stand
between pipes; a pipe behind a backslash belongs to its cell.

## Main definitions

* `StaticSite.Markdown.Table.cells` — the cells of a line.
* `StaticSite.Markdown.Table.delimiterRow?` — the alignments that a delimiter line gives.
* `StaticSite.Markdown.Table.headerColumns?` — how many columns a header line has.
-/

namespace StaticSite.Markdown.Table

/-! ## Cells -/

/-- The texts between the pipes of a line that stand behind no backslash. -/
def splitAtPipes (escaped : Bool) : Text → List Text
  | [] => [[]]
  | c :: t =>
    if c = '|' ∧ !escaped then [] :: splitAtPipes false t
    else
      match splitAtPipes (c == '\\') t with
      | [] => [[c]]
      | s :: rest => (c :: s) :: rest

/-- A cell without the white space around it. -/
def trimCell (t : Text) : Text := dropEnd isLineSpace (t.dropWhile isLineSpace)

/-- The cells of a line. A pipe at the start or at the end of the line borders no further
cell. -/
def cells (line : Text) : List Text :=
  let segments :=
    match splitAtPipes false line with
    | [] :: rest => rest
    | segments => segments
  let inner :=
    match segments.reverse with
    | last :: before => if last.all isLineSpace then before.reverse else segments
    | [] => []
  inner.map trimCell

/-- Cells made as many as there are columns: missing ones are empty, further ones are left
out. -/
def fit (columns : Nat) (cells : List Text) : List Text :=
  cells.take columns ++ List.replicate (columns - cells.length) []

/-! ## The delimiter line -/

/-- The alignment of a column after a colon, given the alignment so far and whether the colon
is the first mark of the column. -/
def afterColon (isFirst : Bool) : Alignment → Alignment
  | .unset => if isFirst then .left else .right
  | .left => if isFirst then .left else .center
  | a => a

/-- The alignments of the columns that a delimiter line goes on with: the alignment of the
current column so far, whether the column has no mark so far, and whether it has a hyphen. A
column in front of a pipe must have one. -/
def delimiterColumns? (current : Alignment) (isEmpty hyphen : Bool) :
    Text → Option (List Alignment)
  | [] => some (if isEmpty then [] else [current])
  | c :: t =>
    if c = ' ' then delimiterColumns? current isEmpty hyphen t
    else if c = '-' then delimiterColumns? current false true t
    else if c = ':' then delimiterColumns? (afterColon isEmpty current) false hyphen t
    else if c = '|' ∧ hyphen then (delimiterColumns? .unset true false t).map (current :: ·)
    else none

/-- The alignments that a delimiter line gives, if it is one: its columns hold hyphens and
colons, and there is a pipe. It is indented by at most three spaces. -/
def delimiterRow? (line : Text) : Option (List Alignment) :=
  let body := line.dropWhile (· == ' ')
  if 3 < line.length - body.length || !body.contains '|' || !body.contains '-' then none
  else
    match body with
    | '|' :: rest => delimiterColumns? .unset true false rest
    | _ => delimiterColumns? .unset true false body

/-! ## The header line -/

/-- The pipes of a line that border cells: how many there are, and the text behind the last one.
A backslash takes the character behind it along. Where `paired` is given, it does not if it is
taken along itself. -/
def borders (paired escaped : Bool) : Text → Nat × Option Text
  | [] => (0, none)
  | c :: t =>
    let rest := borders paired (c == '\\' && !(paired && escaped)) t
    if c = '|' ∧ !escaped then (rest.1 + 1, some (rest.2.getD t)) else rest

/-- How many columns a header line has. A pipe at the start or at the end of the line borders no
further column. There must be a pipe. -/
def headerColumns? (paired : Bool) (line : Text) : Option Nat :=
  match borders paired false line with
  | (pipes, some behind) =>
    let first := if (line.dropWhile isLineSpace).head? = some '|' then 1 else 0
    let last := if isBlankLine behind then 0 else 1
    some (pipes - first + last)
  | _ => none

end StaticSite.Markdown.Table
