import StaticSite.Markdown.Destination
import StaticSite.Markdown.Interrupt

set_option relaxedAutoImplicit false
set_option autoImplicit false

/-!
# Link reference definitions

A definition gives a target to a label: `[label]: destination "title"`. It may run over
several lines, as a paragraph does.

## Main definitions

* `StaticSite.Markdown.LinkDefinition` — a label and its target.
* `StaticSite.Markdown.Setting.definition?` — the definition at the start of a text.
-/

namespace StaticSite.Markdown

/-- A label and the target it stands for. -/
structure LinkDefinition where
  /-- The form of the label by which labels are compared. -/
  key : Text
  /-- The target. -/
  target : Target
deriving DecidableEq, Repr

/-- The target of a label among definitions; the first definition of a label counts. -/
def LinkDefinition.find? (definitions : List LinkDefinition) (label : Text) : Option Target :=
  let key := labelKey label
  (definitions.find? fun d => d.key == key).map LinkDefinition.target

namespace Setting

/-- The text after white space with at most one line break, and whether there is one. -/
def afterSpacing? (s : Setting) (t : Text) : Option (Text × Bool) :=
  let t := t.dropWhile isLineSpace
  match afterEnding? t with
  | none => some (t, false)
  | some next =>
    match s.goOn? next with
    | none => none
    | some place =>
      let t := place.rest.dropWhile isLineSpace
      if (afterEnding? t).isSome then none else some (t, true)

/-- The title at the start of a text up to its closing mark, as it is written, and the text
after the mark. -/
def untilTitleEnd (s : Setting) (closing : Char) : Nat → Text → Option (Text × Text)
  | 0, _ => none
  | _ + 1, [] => none
  | limit + 1, c :: t =>
    if c = '(' ∧ closing = ')' then none
    else if isLineEnd c then
      let (_, ending, rest) := splitLine (c :: t)
      match s.goOn? rest with
      | none => none
      | some place =>
        (s.untilTitleEnd closing limit place.skipAll.rest).map fun parts =>
          (ending ++ parts.1, parts.2)
    else if c = closing then some ([], t)
    else
      let escaped := if c = '\\' then (t.take 1).filter fun d => !isLineEnd d else []
      (s.untilTitleEnd closing limit (t.drop escaped.length)).map fun parts =>
        (c :: escaped ++ parts.1, parts.2)

/-- The title at the start of a text and the text after it; only white space may follow it on
its line. -/
def title? (s : Setting) (limit : Nat) : Text → Option (Text × Text)
  | [] => none
  | c :: t =>
    match (titleEnd? c).bind fun closing => s.untilTitleEnd closing limit t with
    | none => none
    | some (title, rest) =>
      if isBlankLine rest then some (unescape false title, rest) else none

/-- The destination, the title and the text after them, behind the colon of a definition. A
title must be set off by white space; one on a line of its own that is none after all is left
to what follows. -/
def definedTarget? (s : Setting) (limit : Nat) (t : Text) : Option (Target × Text) :=
  match s.afterSpacing? t with
  | none => none
  | some (start, _) =>
    match destination? start with
    | none => none
    | some (destination, rest) =>
      let shown := unescape false destination
      if start.head? ≠ some '<' ∧ destination.isEmpty then none
      else
        match s.afterSpacing? rest with
        | none => some (⟨shown, []⟩, rest)
        | some (behind, breaks) =>
          match if breaks || behind.length < rest.length then s.title? limit behind else none with
          | some (title, after) => some (⟨shown, title⟩, after)
          | none => if breaks then some (⟨shown, []⟩, rest) else none

/-- The definition at the start of a text and the text after it. -/
def definition? (s : Setting) (limit : Nat) (t : Text) : Option (LinkDefinition × Text) :=
  let rules : LabelRules := ⟨false, fun t => (s.goOn? t).map Cursor.scanned⟩
  match linkLabel? rules t with
  | none => none
  | some (label, count) =>
    match t.drop count with
    | ':' :: rest =>
      (s.definedTarget? limit rest).map fun parts =>
        (⟨labelKey label, parts.1⟩, parts.2)
    | _ => none

end Setting

end StaticSite.Markdown
