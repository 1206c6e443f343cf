import StaticSite.Markdown.Autolink
import StaticSite.Markdown.Definition
import StaticSite.Markdown.Emphasis
import StaticSite.Markdown.HtmlTag
import StaticSite.Markdown.Token.Lexer

set_option relaxedAutoImplicit false
set_option autoImplicit false

/-!
# Inline content

The tokens of a paragraph, a heading or a table cell are read from left to right. Code spans,
formulas, HTML and automatic links bind tightest; brackets are kept open until the bracket that
closes them shows whether they make a link; delimiter runs are paired at the end.

## Main definitions

* `StaticSite.Markdown.References` — what inline content depends on besides its text.
* `StaticSite.Markdown.Scanner` — the state of the reading.
* `StaticSite.Markdown.parseInline` — inline content.
-/

namespace StaticSite.Markdown

/-- What inline content depends on besides its text. -/
structure References where
  /-- Which extensions are on. -/
  extensions : Extensions
  /-- The link definitions of the document. -/
  links : List LinkDefinition
  /-- The keys of the footnotes that the document defines. -/
  footnotes : List Text

/-- What the constructs of inline content depend on besides their own text. -/
structure Surroundings where
  /-- The links and footnotes of the document. -/
  references : References
  /-- Whether the content is a cell of a table. -/
  inTable : Bool
  /-- The margins that the lines of the content start with. -/
  margins : List Margin

/-! ## Code spans and formulas -/

/-- The characters between two tokens. -/
def between (opening closing : Token) : Text :=
  opening.behind.take (closing.start - opening.stop)

/-- Raw content with its line endings changed and the margins behind them left out. Inside a
table a backslash in front of a pipe is left out, too. -/
def rawContent (env : Surroundings) (lineEnd : Char → Char) : Text → Text
  | [] => []
  | c :: t =>
    if isLineEnd c then
      lineEnd c :: rawContent env lineEnd (t.drop (Margin.width env.margins t))
    else if env.inTable ∧ c = '\\' ∧ t.head? = some '|' then
      '|' :: rawContent env lineEnd (t.drop 1)
    else c :: rawContent env lineEnd t
termination_by t => t.length

/-- The content of a code span: line breaks become spaces, and one space is dropped at either
end if both ends have one and there is anything else. -/
def codeContent (env : Surroundings) (raw : Text) : Text :=
  let t := rawContent env (fun _ => ' ') raw
  if t.head? == some ' ' && t.getLast? == some ' ' && !t.all (· == ' ') then t.tail.dropLast
  else t

/-- The next run of exactly `n` backticks, and the tokens behind it. -/
def closingBackticks? (n : Nat) : List Token → Option (Token × List Token)
  | [] => none
  | t :: ts =>
    match t.kind with
    | .backticks length _ => if length = n then some (t, ts) else closingBackticks? n ts
    | _ => closingBackticks? n ts

/-- Whether the next token is a dollar sign. -/
def startsWithDollar : List Token → Bool
  | ⟨.dollar _ _ _, _, _, _⟩ :: _ => true
  | _ => false

/-- The next dollar sign inside the same braces, and the tokens behind it, if it closes a
formula: one that is set apart needs another dollar sign, another one must stand behind no white
space. -/
def closingDollar? (display : Bool) (braces : Nat) : List Token → Option (Token × List Token)
  | [] => none
  | t :: ts =>
    match t.kind with
    | .dollar _ closes number =>
      if number = braces then
        if display then if startsWithDollar ts then some (t, ts.drop 1) else none
        else if closes then some (t, ts) else none
      else closingDollar? display braces ts
    | _ => closingDollar? display braces ts

/-- The formula that a dollar sign opens, and the tokens behind it. -/
def formula? (env : Surroundings) (opening : Token) (braces : Nat) (ts : List Token) :
    Option (Inline × List Token) :=
  let (display, opening, ts) :=
    match ts with
    | second :: rest => if startsWithDollar ts then (true, second, rest) else (false, opening, ts)
    | [] => (false, opening, ts)
  (closingDollar? display braces ts).map fun parts =>
    (.math display (rawContent env id (between opening parts.1)), parts.2)

/-! ## Brackets -/

/-- What an open bracket may become. -/
inductive BracketKind where
  /-- A link. -/
  | link
  /-- An image. -/
  | image
  /-- Nothing, because a link inside it was found. -/
  | inactive
deriving DecidableEq, Repr

/-- An open bracket. -/
structure Bracket where
  /-- What it may become. -/
  kind : BracketKind
  /-- The bracket itself. -/
  token : Token
  /-- The nodes in front of it, last first. -/
  before : List Node

/-- The state of the reading. -/
structure Scanner where
  /-- The nodes behind the innermost open bracket, last first. -/
  nodes : List Node
  /-- The open brackets, innermost first. -/
  brackets : List Bracket
  /-- How many bytes references to link definitions may still bring in. -/
  budget : Nat

namespace Scanner

/-- The state after one more node. -/
def emit (s : Scanner) (n : Node) : Scanner := { s with nodes := n :: s.nodes }

/-- The state after one more part of inline content. -/
def emitInline (s : Scanner) (i : Inline) : Scanner := s.emit (.inline i)

/-- The state after a text. -/
def emitText (s : Scanner) (t : Text) : Scanner := s.emit (.ofText t)

/-- The nodes of all open brackets, which are text, and the nodes behind them, last first. -/
def flatten (brackets : List Bracket) (nodes : List Node) : List Node :=
  brackets.foldl (fun nodes b => nodes ++ .ofText b.token.text :: b.before) nodes

/-! ### Code, formulas and HTML -/

/-- The state after a run of backticks, and the tokens behind it: a code span up to the next run
of the same length, or text. -/
def backticks (env : Surroundings) (s : Scanner) (opening : Token) (length : Nat) (escaped : Bool)
    (ts : List Token) : Scanner × List Token :=
  let n := if escaped then length - 1 else length
  match if n = 0 then none else closingBackticks? n ts with
  | none => (s.emitText opening.text, ts)
  | some (closing, rest) =>
    let s := if escaped then s.emitText ['`'] else s
    (s.emitInline (.code (codeContent env (between opening closing))), rest)

/-- The state after an opening angle bracket, and the tokens behind it: an automatic link, HTML or
text. -/
def angleBracket (env : Surroundings) (s : Scanner) (opening : Token) (ts : List Token) :
    Scanner × List Token :=
  let t := opening.behind
  if ts.isEmpty then (s.emitText opening.text, ts)
  else
    match autolink? t with
    | some (shown, destination, rest) =>
      let stop := opening.stop + (t.length - rest.length)
      (s.emitInline (.link ⟨destination, []⟩ [.text shown]), Token.cut stop ts)
    | none =>
      match inlineHtml? env.margins t.length ('<' :: t) with
      | some (html, count) => (s.emitInline (.html html), Token.cut (opening.start + count) ts)
      | none => (s.emitText opening.text, ts)

/-! ### Links and images -/

/-- Open brackets after a link was found inside them: links do not hold links. -/
def deactivate (brackets : List Bracket) : List Bracket :=
  brackets.map fun b => if b.kind = .link then { b with kind := .inactive } else b

/-- The state after the innermost open bracket became a link or an image. -/
def closeLink (s : Scanner) (b : Bracket) (outer : List Bracket) (target : Target) : Scanner :=
  let children := Node.resolve (s.nodes.any Node.isMark) s.nodes.reverse
  if b.kind = .image then
    { s with nodes := .inline (.image target children) :: b.before, brackets := outer }
  else
    { s with nodes := .inline (.link target children) :: b.before, brackets := deactivate outer }

/-- The state after a closing bracket that makes no link: both brackets are text. -/
def closeText (s : Scanner) (b : Bracket) (outer : List Bracket) (closing : Token) : Scanner :=
  { s with
    nodes := .ofText closing.text :: s.nodes ++ .ofText b.token.text :: b.before
    brackets := outer }

/-- The state after a reference to a footnote. All open brackets become text. -/
def closeFootnote (s : Scanner) (b : Bracket) (outer : List Bracket) (label : Text) : Scanner :=
  let before := if b.kind = .image then .ofText ['!'] :: b.before else b.before
  { s with nodes := .inline (.footnoteReference label) :: flatten outer before, brackets := [] }

/-- The target of a label, and what is left of the budget. Where nothing is left, there is no
target. -/
def definition? (env : Surroundings) (budget : Nat) (label : Text) : Option (Target × Nat) :=
  if budget = 0 then none
  else
    (LinkDefinition.find? env.references.links label).map fun target =>
      (target, budget - (Text.byteSize target.destination + Text.byteSize target.title))

/-- The rules of labels inside the content. -/
def labelRules (env : Surroundings) : LabelRules := LabelRules.inside env.margins env.inTable

/-- The label of a footnote at the start of a text, and how many characters it takes. -/
def footnote? (env : Surroundings) (t : Text) : Option (Text × Nat) :=
  if env.references.extensions.footnotes then footnoteLabel? env.inTable t else none

/-- Where a line goes on behind the end of the line before, inside the title of an inline link: at
the next token, if one starts there. The text starts behind the end of the line. -/
def behindBreak (stop : Nat) (behind : Text) (ts : List Token) (t : Text) : Option Nat :=
  let place := stop + (behind.length - t.length)
  match Token.dropUntil place ts with
  | next :: _ => if place ≤ next.start then some (next.start - place) else none
  | [] => none

/-- The target of the inline link that goes on behind a closing bracket, and the tokens behind
it. -/
def inlineLink? (env : Surroundings) (closing : Token) (ts : List Token) :
    Option (Target × List Token) :=
  match closing.behind with
  | '(' :: t =>
    let rules : TargetRules :=
      ⟨env.inTable, env.margins, behindBreak closing.stop closing.behind ts⟩
    (inlineTarget? rules t).map fun parts =>
      (parts.1, Token.cut (closing.stop + (closing.behind.length - parts.2.length)) ts)
  | _ => none

/-- What a closing bracket refers by, if it ends no inline link. -/
inductive ReferenceForm where
  /-- A label of its own behind the bracket, and the tokens behind it. -/
  | full (label : Text) (rest : List Token)
  /-- The text of the link, and the tokens behind the reference. -/
  | ownText (rest : List Token)

/-- What a closing bracket refers by, and the tokens behind the bracket if there is no such
reference: the closing bracket of a label does not end another reference by its own text. -/
def referenceForm (env : Surroundings) (ts : List Token) : Option ReferenceForm × List Token :=
  match ts with
  | [] => (some (.ownText []), [])
  | next :: rest =>
    let t := next.text ++ next.behind
    if t.take 2 = ['[', ']'] then (some (.ownText (rest.drop 1)), ts)
    else if (footnote? env t).isSome then (some (.ownText ts), ts)
    else
      match linkLabel? (labelRules env) t with
      | none => (some (.ownText ts), ts)
      | some (label, count) =>
        let last := next.start + count - 1
        let inside := ts.takeWhile fun t => t.stop ≤ last
        match Token.dropUntil last ts with
        | [] => (none, ts)
        | closing :: after =>
          (some (.full label after), inside ++ { closing with kind := .closing false } :: after)

/-- The state after a closing bracket that may refer by the text of the link, and the tokens
behind it. -/
def closeOwnText (env : Surroundings) (s : Scanner) (b : Bracket) (outer : List Bracket)
    (closing : Token) (ts rest : List Token) : Scanner × List Token :=
  let t := ('[' :: b.token.behind).take (closing.stop + 1 - b.token.stop)
  match footnote? env t with
  | some (label, count) =>
    if count = t.length && env.references.footnotes.contains (labelKey label) then
      (s.closeFootnote b outer label, ts)
    else (s.closeText b outer closing, ts)
  | none =>
    match (linkLabel? (labelRules env) t).bind fun parts =>
        if parts.2 = t.length then definition? env s.budget parts.1 else none with
    | some (target, budget) => ({ s with budget := budget }.closeLink b outer target, rest)
    | none => (s.closeText b outer closing, ts)

/-- The state after a closing bracket, and the tokens behind it: an inline link, a reference by
the label behind it, a reference by its own text, or text. -/
def closeBracket (env : Surroundings) (s : Scanner) (closing : Token) (ownText : Bool)
    (ts : List Token) : Scanner × List Token :=
  match s.brackets with
  | [] => (s.emitText closing.text, ts)
  | b :: outer =>
    if b.kind = .inactive then (s.closeText b outer closing, ts)
    else
      match inlineLink? env closing ts with
      | some (target, rest) => (s.closeLink b outer target, rest)
      | none =>
        match referenceForm env ts with
        | (none, ts) => (s.closeText b outer closing, ts)
        | (some (.full label rest), ts) =>
          match definition? env s.budget label with
          | some (target, budget) => ({ s with budget := budget }.closeLink b outer target, rest)
          | none => (s.closeText b outer closing, ts)
        | (some (.ownText rest), ts) =>
          if ownText then s.closeOwnText env b outer closing ts rest
          else (s.closeText b outer closing, ts)

/-! ### Reading on -/

/-- The state after a token, and the tokens behind it. -/
def step (env : Surroundings) (s : Scanner) (t : Token) (ts : List Token) :
    Scanner × List Token :=
  match t.kind with
  | .plain => (s.emitText t.text, ts)
  | .replaced value => (s.emitText value, ts)
  | .run mark length opens closes =>
    (s.emit (.run mark length opens closes (t.text.drop length)), ts)
  | .quote mark opens closes => (s.emit (.quote mark opens closes), ts)
  | .softBreak => (s.emitInline .softBreak, ts)
  | .hardBreak true => (s.emit .backslashBreak, ts)
  | .hardBreak false => (s.emitInline .hardBreak, ts)
  | .backticks length escaped => s.backticks env t length escaped ts
  | .dollar opens _ braces =>
    match if opens then formula? env t braces ts else none with
    | some (formula, rest) => (s.emitInline formula, rest)
    | none => (s.emitText t.text, ts)
  | .angle => s.angleBracket env t ts
  | .bracket image =>
    (⟨[], ⟨if image then .image else .link, t, s.nodes⟩ :: s.brackets, s.budget⟩, ts)
  | .closing ownText => s.closeBracket env t ownText ts

/-- The state after all tokens, as far as the fuel goes. -/
def run (env : Surroundings) : Nat → Scanner → List Token → Scanner
  | 0, s, _ => s
  | _ + 1, s, [] => s
  | n + 1, s, t :: ts =>
    let (s, ts) := s.step env t ts
    run env n s ts

/-- All nodes read, the open brackets being text. -/
def finish (s : Scanner) : List Node := (flatten s.brackets s.nodes).reverse

end Scanner

/-- Whether a token is a mark that may mean something. -/
def Token.isMark (t : Token) : Bool :=
  match t.kind with
  | .plain | .replaced _ | .softBreak | .hardBreak _ => false
  | _ => true

/-- The inline content of a block, given how many bytes references to link definitions may bring
in, and what is left of them. -/
def parseInline (refs : References) (budget : Nat) (content : Content) : Nat × List Inline :=
  let tokens := content.tokens refs.extensions
  let env : Surroundings := ⟨refs, content.inTable, content.margins⟩
  let s := Scanner.run env tokens.length ⟨[], [], budget⟩ tokens
  let inlines := Node.resolve (tokens.any Token.isMark) s.finish
  (s.budget, match content.task with
    | some done => .checkBox done :: inlines
    | none => inlines)

end StaticSite.Markdown
