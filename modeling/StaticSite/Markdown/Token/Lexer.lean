import StaticSite.Markdown.Content
import StaticSite.Markdown.Entity
import StaticSite.Markdown.Extensions
import StaticSite.Markdown.Flanking
import StaticSite.Markdown.Token
import StaticSite.Markdown.Token.Braces

set_option relaxedAutoImplicit false
set_option autoImplicit false

/-!
# Cutting inline content into tokens

The tokens of a line depend on that line alone, but for the braces around formulas. Backslashes
in front of punctuation are left out here, and character references are replaced.

## Main definitions

* `StaticSite.Markdown.Lexer` — the state of the cutting.
* `StaticSite.Markdown.Content.tokens` — the tokens of inline content.
-/

namespace StaticSite.Markdown

/-- The state of the cutting of a line. -/
structure Lexer where
  /-- The tokens that are done, last first. -/
  tokens : List Token
  /-- The characters of the text that is being read, last first. -/
  plain : Text
  /-- How many characters of the content stand in front of what is left. -/
  offset : Nat
  /-- The character of the line in front of what is left. -/
  previous : Option Char
  /-- How many characters are left of the line. -/
  left : Nat
  /-- The content that is left. -/
  rest : Text
  /-- The braces that are open. -/
  braces : Braces

namespace Lexer

/-- The state in front of the content. -/
def start (t : Text) : Lexer := ⟨[], [], 0, none, 0, t, Braces.empty⟩

/-! ## Steps -/

/-- The state with the text that is being read made a token. -/
def flush (s : Lexer) : Lexer :=
  if s.plain.isEmpty then s
  else
    { s with
      tokens := ⟨.plain, s.offset - s.plain.length, s.plain.reverse, s.rest⟩ :: s.tokens
      plain := [] }

/-- The state some characters further on. -/
def pass (n : Nat) (s : Lexer) : Lexer :=
  { s with
    offset := s.offset + n
    previous := (s.rest.take n).getLast?.or s.previous
    left := s.left - n
    rest := s.rest.drop n }

/-- The state after some characters of text. -/
def keep (n : Nat) (s : Lexer) : Lexer :=
  { s with plain := (s.rest.take n).reverse ++ s.plain }.pass n

/-- The state after a token of some characters. -/
def emit (kind : TokenKind) (n : Nat) (s : Lexer) : Lexer :=
  let s := s.flush
  { s with tokens := ⟨kind, s.offset, s.rest.take n, s.rest.drop n⟩ :: s.tokens }.pass n

/-- How many equal characters the rest of the line starts with. -/
def repeated (c : Char) (s : Lexer) : Nat := (s.rest.takeWhile (· == c)).length

/-- The state after a delimiter run. A run that can neither open nor close is text, and so is
one of three or more tildes. -/
def delimiters (c : Char) (s : Lexer) : Lexer :=
  let n := s.repeated c
  let next := (s.rest.drop n).head?
  let opens := canOpen c n s.previous next
  let closes := canClose c n s.previous next
  if (opens || closes) && (c != '~' || n ≤ 2) then s.emit (.run c n opens closes) n
  else s.keep n

/-- The dashes for a run of hyphens: em dashes as far as they go evenly, else en dashes. -/
def dashes (n : Nat) : Text :=
  let (em, en) :=
    if n % 6 = 0 ∨ n % 6 = 3 then (n / 3, 0)
    else if n % 6 = 2 ∨ n % 6 = 4 then (0, n / 2)
    else if n % 6 = 1 then (n / 3 - 1, 2)
    else (n / 3, 1)
  List.replicate em '—' ++ List.replicate en '–'

/-- The state after a run of hyphens. -/
def hyphens (s : Lexer) : Lexer :=
  let n := s.repeated '-'
  if n = 1 then s.keep 1 else s.emit (.replaced (dashes n)) n

/-- The state after a straight quote. -/
def quoteMark (c : Char) (t : Text) (s : Lexer) : Lexer :=
  s.emit (.quote c (canOpen c 1 s.previous t.head?) (canClose c 1 s.previous t.head?)) 1

/-- The state after a dollar sign. -/
def dollar (t : Text) (s : Lexer) : Lexer :=
  let opens := t.head?.any fun c => !isAnySpace c
  let closes := s.previous.any fun c => !isAnySpace c
  let (number, braces) := s.braces.current
  { s with braces := braces }.emit (.dollar opens closes number) 1

/-- The state after a backslash. In a table backslashes in front of a pipe are left out, too, if
there are two of them. -/
def backslash (inTable : Bool) (t : Text) (s : Lexer) : Lexer :=
  match t with
  | [] => s.keep 1
  | c :: rest =>
    if Text.isAsciiPunctuation c then
      let behind := s.flush.pass 1
      if c = '`' then
        let n := behind.repeated '`'
        behind.emit (.backticks n true) n
      else if inTable ∧ c = '\\' ∧ rest.head? = some '|' then (behind.pass 1).keep 1
      else behind.keep 1
    else s.keep 1

/-- The state after an ampersand: a character reference or text. -/
def ampersand (t : Text) (s : Lexer) : Lexer :=
  match entity? t with
  | some (value, rest) => s.emit (.replaced value) (t.length - rest.length + 1)
  | none => s.keep 1

/-- The state after a mark that means something only where an extension is on. -/
def extended (ext : Extensions) (c : Char) (t : Text) (s : Lexer) : Lexer :=
  if c = '~' ∧ ext.strikethrough then s.delimiters c
  else if c = '$' ∧ ext.math then s.dollar t
  else if c = '\x7b' ∧ ext.math then { s with braces := s.braces.enter }.keep 1
  else if c = '\x7d' ∧ ext.math then { s with braces := s.braces.leave }.keep 1
  else if c = '-' ∧ ext.smartPunctuation then s.hyphens
  else if (c = '"' ∨ c = '\'') ∧ ext.smartPunctuation then s.quoteMark c t
  else if c = '.' ∧ ext.smartPunctuation then
    match t with
    | '.' :: '.' :: _ => s.emit (.replaced ['…']) 3
    | _ => s.keep 1
  else s.keep 1

/-- The state after the next mark or character of text. -/
def step (ext : Extensions) (inTable : Bool) (s : Lexer) : Lexer :=
  match s.rest with
  | [] => s
  | c :: t =>
    if c = '\\' then s.backslash inTable t
    else if c = '`' then
      let n := s.repeated '`'
      s.emit (.backticks n false) n
    else if c = '*' ∨ c = '_' then s.delimiters c
    else if c = '<' then if t.head? = some '\\' then s.keep 1 else s.emit .angle 1
    else if c = '&' then s.ampersand t
    else if c = '[' then s.emit (.bracket false) 1
    else if c = ']' then s.emit (.closing true) 1
    else if c = '!' then if t.head? = some '[' then s.emit (.bracket true) 2 else s.keep 1
    else s.extended ext c t

/-- The state at the end of a line, as far as the fuel goes. -/
def readLine (ext : Extensions) (inTable : Bool) : Nat → Lexer → Lexer
  | 0, s => s
  | n + 1, s => if s.left = 0 then s else readLine ext inTable n (s.step ext inTable)

/-! ## Lines -/

/-- The state with white space dropped at the end of the text that is being read, and the text
made a token. Whatever is dropped stands behind the token. -/
def flushTrimmed (space : Nat) (s : Lexer) : Lexer :=
  let shown := s.plain.drop space
  if shown.isEmpty then { s with plain := [] }
  else
    { s with
      tokens := ⟨.plain, s.offset - s.plain.length, shown.reverse,
        (s.plain.take space).reverse ++ s.rest⟩ :: s.tokens
      plain := [] }

/-- The state after a line break that starts a number of characters back. -/
def breakLine (kind : TokenKind) (back : Nat) (dropped ending : Text) (s : Lexer) : Lexer :=
  let s := s.flushTrimmed back
  { s with
    tokens := ⟨kind, s.offset - dropped.length, dropped ++ ending, s.rest.drop ending.length⟩ ::
      s.tokens }.pass ending.length

/-- The state after the end of a line that is not the last one: a backslash, or two or more
characters of white space make a line break of the page. -/
def endLine (line : SourceLine) (s : Lexer) : Lexer :=
  if countEnd (· == '\\') line.text % 2 = 1 then
    s.breakLine (.hardBreak true) 1 ['\\'] line.ending
  else
    let shown := line.margin ++ line.text
    let space := countEnd isLineSpace shown
    if 2 ≤ space then
      s.breakLine (.hardBreak false) space (shown.drop (shown.length - space)) line.ending
    else s.breakLine .softBreak space [] line.ending

/-- The state after lines. White space at the end of the last one is dropped. -/
def readLines (ext : Extensions) (inTable : Bool) : List SourceLine → Lexer → Lexer
  | [], s => s
  | line :: lines, s =>
    let s := s.pass line.margin.length
    let s := { s with previous := none, left := line.text.length }
    let s := readLine ext inTable line.text.length s
    if lines.isEmpty then s.flushTrimmed (countEnd isLineSpace line.text)
    else readLines ext inTable lines (s.endLine line)

end Lexer

/-! ## Content -/

/-- Tokens, last first, with the end of the last one moved. -/
def Token.extendLast (place : Nat) (source : Text) : List Token → List Token
  | [] => []
  | t :: before =>
    { t with
      text := (source.drop t.start).take (place - t.start)
      behind := source.drop place } :: before

/-- The tokens of inline content. -/
def Content.tokens (ext : Extensions) (content : Content) : List Token :=
  let source := content.source
  let reversed := (Lexer.readLines ext content.inTable content.lines (Lexer.start source)).tokens
  (match content.textEnd with
    | none => reversed
    | some place => Token.extendLast place source reversed).reverse

end StaticSite.Markdown
