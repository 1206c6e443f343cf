import StaticSite.Markdown.Entity
import StaticSite.Markdown.Margin
import StaticSite.Markdown.Tree

set_option relaxedAutoImplicit false
set_option autoImplicit false

/-!
# Link destinations and titles

A destination stands between angle brackets, or it is a run of characters without white space
whose parentheses are balanced. A title stands between quotes or parentheses.

## Main definitions

* `StaticSite.Markdown.destination?` — the destination at the start of a text.
* `StaticSite.Markdown.inlineTarget?` — the parenthesised target of an inline link.
-/

namespace StaticSite.Markdown

/-! ## Destinations -/

/-- Whether a character behind a backslash stands for itself. -/
def isEscaped (backslash : Bool) (c : Char) : Bool := backslash && Text.isAsciiPunctuation c

/-- A destination behind an opening angle bracket: the characters up to the closing one, and
the text after it. The flag says whether a backslash stands in front. -/
def bracketedDestination? : Bool → Text → Option (Text × Text)
  | _, [] => none
  | backslash, c :: t =>
    if isEscaped backslash c then
      (bracketedDestination? false t).map fun parts => (c :: parts.1, parts.2)
    else if isLineEnd c ∨ c = '<' then none
    else if c = '>' then some ([], t)
    else (bracketedDestination? (c == '\\') t).map fun parts => (c :: parts.1, parts.2)

/-- How many parentheses may be open at a time inside a destination. -/
def maxOpenParentheses : Nat := 33

/-- A destination without angle brackets inside `depth` open parentheses: it ends at white
space, at a control character and at a parenthesis that closes none of its own. The flag says
whether a backslash stands in front. -/
def bareDestination? : Nat → Bool → Text → Option (Text × Text)
  | depth, _, [] => if depth = 0 then some ([], []) else none
  | depth, backslash, c :: t =>
    if isEscaped backslash c then
      (bareDestination? depth false t).map fun parts => (c :: parts.1, parts.2)
    else if c ≤ ' ' then if depth = 0 then some ([], c :: t) else none
    else if c = '(' then
      if depth = maxOpenParentheses then none
      else (bareDestination? (depth + 1) false t).map fun parts => (c :: parts.1, parts.2)
    else if c = ')' then
      if depth = 0 then some ([], c :: t)
      else (bareDestination? (depth - 1) false t).map fun parts => (c :: parts.1, parts.2)
    else (bareDestination? depth (c == '\\') t).map fun parts => (c :: parts.1, parts.2)

/-- The destination at the start of a text as it is written, without its angle brackets, and
the text after it. -/
def destination? : Text → Option (Text × Text)
  | '<' :: t => bracketedDestination? false t
  | t => bareDestination? 0 false t

/-! ## Titles -/

/-- The closing mark for the opening mark of a title. -/
def titleEnd? : Char → Option Char
  | '"' => some '"'
  | '\'' => some '\''
  | '(' => some ')'
  | _ => none

/-- What the target of an inline link depends on besides its text. -/
structure TargetRules where
  /-- Whether the link stands in a table. -/
  inTable : Bool
  /-- The margins that the lines of the text start with. -/
  margins : List Margin
  /-- How many characters are left out behind the end of a line inside a title; there are none
  if the line ending itself goes on. -/
  behindBreak : Text → Option Nat

/-- The text behind a backslash inside a title, with what the backslash stands for. An escaped
backslash in front of a pipe is left out inside a table, and the pipe takes the place of a
backslash. -/
def escapedTitle (inTable : Bool) : Text → Text × Text
  | '\\' :: '|' :: t =>
    if inTable then
      match t with
      | c :: rest => if Text.isAsciiPunctuation c then ([c], rest) else (['|'], t)
      | [] => (['|'], [])
    else (['\\'], '|' :: t)
  | c :: t => if Text.isAsciiPunctuation c then ([c], t) else (['\\'], c :: t)
  | [] => (['\\'], [])

/-- The characters of a title up to its closing mark, and the text after the mark, as far as the
fuel goes. -/
def untilTitleEnd (rules : TargetRules) (opening closing : Char) : Nat → Text →
    Option (Text × Text)
  | 0, _ => none
  | _ + 1, [] => none
  | n + 1, c :: t =>
    if c = closing then some ([], t)
    else if c = opening then none
    else
      let (read, rest) :=
        match if isLineEnd c then rules.behindBreak t else none with
        | some width => (['\n'], t.drop width)
        | none =>
          match if c = '&' then entity? t else none with
          | some (value, rest) => (value, rest)
          | none => if c = '\\' then escapedTitle rules.inTable t else ([c], t)
      (untilTitleEnd rules opening closing n rest).map fun parts => (read ++ parts.1, parts.2)

/-- The title at the start of a text, and the text after it. -/
def inlineTitle? (rules : TargetRules) : Text → Option (Text × Text)
  | [] => none
  | c :: t =>
    match titleEnd? c with
    | none => none
    | some closing => untilTitleEnd rules c closing (t.length + 1) t

/-! ## Targets of inline links -/

/-- The text after white space with at most one line break and the margins behind it. -/
def afterSeparator (margins : List Margin) (t : Text) : Text :=
  let t := t.dropWhile isLineSpace
  match afterEnding? t with
  | none => t
  | some rest => (rest.drop (Margin.width margins rest)).dropWhile isLineSpace

/-- The target of an inline link and the text after it. The text starts behind the opening
parenthesis. -/
def inlineTarget? (rules : TargetRules) (t : Text) : Option (Target × Text) :=
  match destination? (afterSeparator rules.margins t) with
  | none => none
  | some (destination, rest) =>
    let rest := afterSeparator rules.margins rest
    let (title, rest) :=
      match inlineTitle? rules rest with
      | none => ([], rest)
      | some (title, rest) => (title, afterSeparator rules.margins rest)
    match rest with
    | ')' :: rest => some (⟨unescape rules.inTable destination, title⟩, rest)
    | _ => none

end StaticSite.Markdown
