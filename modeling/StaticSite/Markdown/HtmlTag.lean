import StaticSite.Markdown.Margin
import StaticSite.Text.Ascii

set_option relaxedAutoImplicit false
set_option autoImplicit false

/-!
# HTML inside Markdown

Tags, comments and the other constructs of HTML that may stand in a text. A tag that goes on in
the next line leaves out the margins of that line; the other constructs take their text as it
stands.

## Main definitions

* `StaticSite.Markdown.TagReader` — a tag that is being read.
* `StaticSite.Markdown.TagReader.tag?` — the tag at the start of a text.
* `StaticSite.Markdown.inlineHtml?` — any construct of HTML at the start of a text.
-/

namespace StaticSite.Markdown

/-- A tag that is being read: what of it is written, last character first, the text that is
left, and how many characters were read. -/
structure TagReader where
  /-- What is written, last character first. -/
  written : Text
  /-- The text that is left. -/
  rest : Text
  /-- How many characters were read. -/
  count : Nat

namespace TagReader

/-! ## Characters and white space -/

/-- The characters read that satisfy a test. -/
def readWhile (p : Char → Bool) (r : TagReader) : TagReader :=
  let read := r.rest.takeWhile p
  ⟨read.reverse ++ r.written, r.rest.drop read.length, r.count + read.length⟩

/-- One character read if it satisfies a test. -/
def readOne? (p : Char → Bool) (r : TagReader) : Option TagReader :=
  match r.rest with
  | [] => none
  | c :: t => if p c then some ⟨c :: r.written, t, r.count + 1⟩ else none

/-- A line break read, and the margins of the line after it left out. The end of the text is no
line break. There may be none where no margins are given. -/
def readBreak? (margins : Option (List Margin)) (r : TagReader) : Option TagReader :=
  match margins, r.rest with
  | some ms, c :: t =>
    if isLineEnd c then
      let (ending, behind) :=
        match c, t with
        | '\r', '\n' :: t => (['\n', '\r'], t)
        | _, t => ([c], t)
      let width := Margin.width ms behind
      some ⟨ending ++ r.written, behind.drop width, r.count + ending.length + width⟩
    else none
  | _, _ => none

/-- White space read, with line breaks in it. -/
def readSpace? (margins : Option (List Margin)) : Nat → TagReader → Option TagReader
  | 0, r => some r
  | limit + 1, r =>
    let r := r.readWhile isLineSpace
    match r.rest with
    | [] => some r
    | c :: _ =>
      if isLineEnd c then
        match r.readBreak? margins with
        | none => none
        | some r => readSpace? margins limit r
      else some r

/-! ## Attributes -/

/-- The characters that may follow the first one in the name of a tag. -/
def isTagNameChar (c : Char) : Bool := Text.isAsciiAlphanumeric c || c == '-'

/-- The characters that start the name of an attribute. -/
def startsAttribute (c : Char) : Bool := c.isAlpha || c == '_' || c == ':'

/-- The characters that may follow in the name of an attribute. -/
def isAttributeNameChar (c : Char) : Bool :=
  Text.isAsciiAlphanumeric c || c == '_' || c == '.' || c == ':' || c == '-'

/-- The characters that end a value without quotes. -/
def endsBareValue (c : Char) : Bool :=
  ['\'', '"', ' ', '=', '>', '<', '`', '\n', '\r'].contains c

/-- A value read up to its closing quote. -/
def readQuoted? (margins : Option (List Margin)) (quote : Char) : Nat → TagReader →
    Option TagReader
  | 0, _ => none
  | limit + 1, r =>
    let r := r.readWhile fun c => c != quote && !isLineEnd c
    match r.readOne? (· == quote) with
    | some r => some r
    | none =>
      match r.readBreak? margins with
      | none => none
      | some r => readQuoted? margins quote limit r

/-- The value of an attribute read. -/
def readValue? (margins : Option (List Margin)) (limit : Nat) (r : TagReader) :
    Option TagReader :=
  match r.rest with
  | [] => none
  | c :: _ =>
    if c = '"' ∨ c = '\'' then
      (r.readOne? (· == c)).bind (readQuoted? margins c limit)
    else if endsBareValue c then none
    else some (r.readWhile fun d => !endsBareValue d)

/-- An attribute read: a name, and a value if an equals sign follows. -/
def readAttribute? (margins : Option (List Margin)) (limit : Nat) (r : TagReader) :
    Option TagReader :=
  match r.readOne? startsAttribute with
  | none => none
  | some r =>
    let named := r.readWhile isAttributeNameChar
    match named.readSpace? margins limit with
    | none => none
    | some r =>
      match r.readOne? (· == '=') with
      | none => some named
      | some r =>
        match r.readSpace? margins limit with
        | none => none
        | some r => r.readValue? margins limit

/-- The attributes of an opening tag read, each behind white space. A tag does not end inside
them. -/
def readAttributes? (margins : Option (List Margin)) (limit : Nat) : Nat → TagReader →
    Option TagReader
  | 0, _ => none
  | n + 1, r =>
    match r.readSpace? margins limit with
    | none => none
    | some behind =>
      match behind.rest with
      | [] => none
      | c :: _ =>
        if c = '/' ∨ c = '>' then some behind
        else if behind.count = r.count then none
        else
          match behind.readAttribute? margins limit with
          | none => none
          | some r => readAttributes? margins limit n r

/-! ## Tags -/

/-- The tag at the start of a text, which starts with the opening angle bracket. Where no
margins are given, the tag must stand on one line; a closing tag always does. -/
def tag? (margins : Option (List Margin)) (limit : Nat) (t : Text) : Option TagReader :=
  match (TagReader.mk [] t 0).readOne? (· == '<') with
  | none => none
  | some r =>
    match r.readOne? (· == '/') with
    | some r =>
      match r.readOne? Char.isAlpha with
      | none => none
      | some r => ((r.readWhile isTagNameChar).readWhile isLineSpace).readOne? (· == '>')
    | none =>
      match r.readOne? Char.isAlpha with
      | none => none
      | some r =>
        match (r.readWhile isTagNameChar).readAttributes? margins limit (limit + 1) with
        | none => none
        | some r => ((r.readOne? (· == '/')).getD r).readOne? (· == '>')

end TagReader

/-! ## Other constructs -/

/-- How many characters a text has up to the end of the first occurrence of a pattern. -/
def lengthThrough? (pattern t : Text) : Option Nat :=
  (Text.breakOn pattern t).map fun parts => parts.1.length + pattern.length

/-- How many characters a section of character data has behind its opening mark: the first run
of closing brackets must be followed by an angle bracket. -/
def characterDataLength? (t : Text) : Option Nat :=
  let data := t.takeWhile (· != ']')
  let brackets := (t.drop data.length).takeWhile (· == ']')
  match brackets, t.drop (data.length + brackets.length) with
  | _ :: _, '>' :: _ => some (data.length + brackets.length + 1)
  | _, _ => none

/-- How many characters a comment, a processing instruction, a declaration or a section of
character data has behind the opening angle bracket. -/
def rawHtmlLength? : Text → Option Nat
  | '!' :: '-' :: '-' :: t => (lengthThrough? ['-', '-', '>'] ('-' :: '-' :: t)).map (· + 1)
  | '!' :: '[' :: 'C' :: 'D' :: 'A' :: 'T' :: 'A' :: '[' :: t =>
    (characterDataLength? t).map (· + 8)
  | '!' :: c :: t => if c.isAlpha then (lengthThrough? ['>'] t).map (· + 2) else none
  | '?' :: t => (lengthThrough? ['?', '>'] t).map (· + 1)
  | _ => none

/-- The construct of HTML at the start of a text that starts with an angle bracket, as it is
written, and how many characters of the text it takes. -/
def inlineHtml? (margins : List Margin) (limit : Nat) (t : Text) : Option (Text × Nat) :=
  match rawHtmlLength? t.tail with
  | some n => some (t.take (n + 1), n + 1)
  | none =>
    (TagReader.tag? (some margins) limit t).map fun r => (r.written.reverse, r.count)

end StaticSite.Markdown
