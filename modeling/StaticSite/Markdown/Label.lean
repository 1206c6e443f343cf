import StaticSite.Markdown.Margin
import StaticSite.Unicode.CaseFold

set_option relaxedAutoImplicit false
set_option autoImplicit false

/-!
# Labels of links and footnotes

A label stands between brackets. Two labels match if they differ only in case and in the
amount of white space between words. A label may go on in the next line, behind the margins of
that line.

## Main definitions

* `StaticSite.Markdown.LabelRules` — what a label depends on besides its text.
* `StaticSite.Markdown.label?` — the label behind an opening bracket.
* `StaticSite.Markdown.linkLabel?`, `StaticSite.Markdown.footnoteLabel?` — the label at the
  start of a text, brackets included.
* `StaticSite.Markdown.labelKey` — the form by which labels are compared.
-/

namespace StaticSite.Markdown

/-- What a label depends on besides its text. -/
structure LabelRules where
  /-- Whether the label stands in a table, where a backslash in front of a pipe is no part of
  it. -/
  inTable : Bool
  /-- How many characters to leave out at the start of a line behind a line break; there are none
  if the label cannot go on there. -/
  behindBreak : Text → Option Nat

/-- The rules of a label that stands on one line. -/
def LabelRules.oneLine (inTable : Bool) : LabelRules := ⟨inTable, fun _ => none⟩

/-- The rules of a label whose lines start with margins. -/
def LabelRules.inside (margins : List Margin) (inTable : Bool) : LabelRules :=
  ⟨inTable, fun t => some (Margin.width margins t)⟩

/-- How many characters of white space a text starts with, among them at most one line break and
what is left out behind it. -/
def labelSpace? (rules : LabelRules) (t : Text) : Option Nat :=
  let spaces := (t.takeWhile isLineSpace).length
  match splitLine (t.drop spaces) with
  | ([], ending, rest) =>
    if ending.isEmpty then some spaces
    else
      match rules.behindBreak rest with
      | none => none
      | some margin =>
        let further := ((rest.drop margin).takeWhile isLineSpace).length
        match rest.drop (margin + further) with
        | c :: _ =>
          if isLineEnd c then none else some (spaces + ending.length + margin + further)
        | [] => some (spaces + ending.length + margin + further)
  | _ => some spaces

/-- The characters up to the closing bracket, every run of white space being one space, and how
many characters of the text they take with the bracket. A bracket inside must be escaped. Of the
bytes outside ASCII and the characters of white space and escapes there may be fewer than a
thousand; the first argument counts them. The flag says whether anything but white space was
read: a label of white space is none. -/
def labelChars? (rules : LabelRules) : Nat → Bool → Text → Option (Text × Nat)
  | _, _, [] => none
  | weight, solid, c :: t =>
    if 1000 ≤ weight then none
    else if c = ']' then if solid then some ([], 1) else none
    else if c = '[' then none
    else if c = '\\' then
      match t with
      | [] => none
      | d :: rest =>
        if rules.inTable ∧ d = '|' then
          (labelChars? rules (weight + 1) true rest).map fun parts => ('|' :: parts.1, parts.2 + 2)
        else if rules.inTable ∧ d = '\\' ∧ rest.head? = some '|' then
          (labelChars? rules (weight + 2) true (rest.drop 1)).map fun parts =>
            ('\\' :: '|' :: parts.1, parts.2 + 3)
        else
          (labelChars? rules (weight + 1 + d.utf8Size) true rest).map fun parts =>
            (c :: d :: parts.1, parts.2 + 2)
    else if isAnySpace c then
      match labelSpace? rules (c :: t) with
      | none => none
      | some n =>
        (labelChars? rules (weight + n) solid (t.drop (n - 1))).map fun parts =>
          (' ' :: parts.1, parts.2 + n)
    else
      let bytes := if c.toNat < 128 then 0 else c.utf8Size
      (labelChars? rules (weight + bytes) true t).map fun parts => (c :: parts.1, parts.2 + 1)
termination_by _ _ t => t.length

/-- The label at the start of a text behind an opening bracket, without white space around it, and
how many characters it takes with the closing bracket. -/
def label? (rules : LabelRules) (t : Text) : Option (Text × Nat) :=
  (labelChars? rules 0 false t).map fun parts =>
    (dropEnd (· == ' ') (parts.1.dropWhile (· == ' ')), parts.2)

/-- The label of a link between brackets at the start of a text, and how many characters it takes
with its brackets. -/
def linkLabel? (rules : LabelRules) : Text → Option (Text × Nat)
  | '[' :: t => (label? rules t).map fun parts => (parts.1, parts.2 + 1)
  | _ => none

/-- The label of a footnote between brackets, with a caret behind the first, and how many
characters it takes with its brackets. Such a label stands on one line. -/
def footnoteLabel? (inTable : Bool) : Text → Option (Text × Nat)
  | '[' :: '^' :: t =>
    (label? (LabelRules.oneLine inTable) t).map fun parts => (parts.1, parts.2 + 2)
  | _ => none

/-- The form by which labels are compared. -/
def labelKey (label : Text) : Text := Unicode.foldCase label

end StaticSite.Markdown
