import StaticSite.Markdown.HtmlTag

set_option relaxedAutoImplicit false
set_option autoImplicit false

/-!
# Blocks of HTML

A line that starts with certain tags starts a block of HTML, which is taken over as it stands.

## Main definitions

* `StaticSite.Markdown.HtmlBlockEnd` — what ends a block of HTML.
* `StaticSite.Markdown.htmlInterrupt?` — whether a line starts a block of HTML, also behind a
  paragraph.
* `StaticSite.Markdown.htmlBlockStart?` — whether a line starts a block of HTML.
-/

namespace StaticSite.Markdown

/-- What ends a block of HTML. -/
inductive HtmlBlockEnd where
  /-- The line that holds the given text. -/
  | mark (t : Text)
  /-- The line before a blank one. -/
  | blankLine
deriving DecidableEq, Repr

/-- Whether a text goes on as a tag of the given name. -/
def startsVerbatim (name t : Text) : Bool :=
  match Text.dropPrefixCaseless? name t with
  | none => false
  | some [] => true
  | some (c :: _) => isAnySpace c || c == '>'

/-- The names of the elements whose content is not Markdown. -/
def verbatimNames : List Text :=
  ["pre".toList, "style".toList, "script".toList, "textarea".toList]

/-- The text that ends a block of HTML that may hold blank lines. The block starts with an angle
bracket in front of the given text. -/
def markedBlock? (t : Text) : Option Text :=
  match verbatimNames.find? fun name => startsVerbatim name t with
  | some name => some ("</".toList ++ name ++ ['>'])
  | none =>
    match t with
    | '!' :: '-' :: '-' :: _ => some ['-', '-', '>']
    | '?' :: _ => some ['?', '>']
    | '!' :: '[' :: 'C' :: 'D' :: 'A' :: 'T' :: 'A' :: '[' :: _ => some [']', ']', '>']
    | '!' :: c :: _ => if c.isAlpha then some ['>'] else none
    | _ => none

/-- The names of the elements that make up the structure of a page. -/
def blockNames : List String :=
  ["address", "article", "aside", "base", "basefont", "blockquote", "body", "caption", "center",
    "col", "colgroup", "dd", "details", "dialog", "dir", "div", "dl", "dt", "fieldset",
    "figcaption", "figure", "footer", "form", "frame", "frameset", "h1", "h2", "h3", "h4", "h5",
    "h6", "head", "header", "hr", "html", "iframe", "legend", "li", "link", "main", "menu",
    "menuitem", "nav", "noframes", "ol", "optgroup", "option", "p", "param", "search",
    "section", "summary", "table", "tbody", "td", "tfoot", "th", "thead", "title", "tr",
    "track", "ul"]

/-- Whether a tag of an element that makes up the structure of a page starts with an angle
bracket in front of the given text. -/
def startsBlockTag (t : Text) : Bool :=
  let t :=
    match t with
    | '/' :: rest => rest
    | t => t
  let name := t.takeWhile Text.isAsciiAlphanumeric
  blockNames.contains (String.ofList (Text.toLowerAscii name)) &&
    match t.drop name.length with
    | [] => true
    | '/' :: '>' :: _ => true
    | c :: _ => c == ' ' || c == '\t' || c == '>' || isLineEnd c

/-- What ends the block of HTML that a line starts, if such a block may follow a paragraph. -/
def htmlInterrupt? : Text → Option HtmlBlockEnd
  | '<' :: t =>
    match markedBlock? t with
    | some mark => some (.mark mark)
    | none => if startsBlockTag t then some .blankLine else none
  | _ => none

/-- What ends the block of HTML that a line starts. Behind a paragraph no other tag starts a
block; elsewhere any tag alone on its line does. -/
def htmlBlockStart? (t : Text) : Option HtmlBlockEnd :=
  match htmlInterrupt? t with
  | some blockEnd => some blockEnd
  | none =>
    match TagReader.tag? none (lineText t).length t with
    | some r => if isBlankLine r.rest then some .blankLine else none
    | none => none

end StaticSite.Markdown
