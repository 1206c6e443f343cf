import StaticSite.Frontmatter.Basic
import StaticSite.Text.Ascii
import StaticSite.Text.WhiteSpace

set_option relaxedAutoImplicit false
set_option autoImplicit false

/-!
# The frontmatter of a document

A document may start with a block of lines `key: value`. A line indented by four spaces or
more gives another value for the key before it. The block may open with a fence `---`; it ends
at a blank line or at a fence `---` or `...`, which belongs to the block, or at the first line
of another form, which belongs to the body.

## Main definitions

* `StaticSite.Frontmatter.Line` — what a line means inside the block.
* `StaticSite.Frontmatter.split` — the metadata and the body of a document.
-/

namespace StaticSite.Frontmatter

/-! ## The forms of a line -/

/-- A line without the line feeds and carriage returns at its end. -/
def content (line : Text) : Text := Text.dropEndWhile (fun c => c == '\n' || c == '\r') line

/-- Whether a line is a fence: three marks, and after them nothing or white space and
anything else. -/
def isFence (mark : Char) (line : Text) : Bool :=
  match Text.dropPrefix? [mark, mark, mark] line with
  | none => false
  | some [] => true
  | some (c :: _) => Text.isWhiteSpace c

/-- The characters of which keys are made. -/
def isKeyChar (c : Char) : Bool := Text.isAsciiAlphanumeric c || c == '_' || c == '-'

/-- The key and the value of a line `key: value` that is indented by at most three spaces. -/
def keyLine? (line : Text) : Option (Text × Text) :=
  if (line.takeWhile (· == ' ')).length ≤ 3 then
    match Text.breakOn [':'] (line.dropWhile (· == ' ')) with
    | none => none
    | some (key, value) =>
      if !key.isEmpty && key.all isKeyChar then some (key, Text.trim value) else none
  else none

/-- The value of a line indented by four spaces or more. -/
def continuationLine? (line : Text) : Option Text :=
  if (Text.dropPrefix? [' ', ' ', ' ', ' '] line).isSome then some (Text.trim line) else none

/-- What a line means inside the block. -/
inductive Line where
  /-- The line ends the block and belongs to it. -/
  | terminator
  /-- A value for a key. -/
  | entry (key value : Text)
  /-- Another value for the key before it. -/
  | continuation (value : Text)
  /-- The line starts the body. -/
  | body
deriving DecidableEq, Repr

/-- The form of a line that is not the opening fence. Keys are read in small letters. -/
def Line.of (line : Text) : Line :=
  let line := content line
  if Text.isBlank line || isFence '-' line || isFence '.' line then .terminator
  else
    match keyLine? line with
    | some (key, value) => .entry (Text.toLowerAscii key) value
    | none =>
      match continuationLine? line with
      | some value => .continuation value
      | none => .body

/-! ## Splitting a document -/

/-- Reads the lines of the block after its opening fence: the metadata collected so far, the
key that a continuation belongs to, and the lines. -/
def readLines : Frontmatter → Option Text → List Text → Frontmatter × List Text
  | m, _, [] => (m, [])
  | m, current, line :: rest =>
    match Line.of line with
    | .terminator => (m, rest)
    | .entry key value => readLines (m.add key value) (some key) rest
    | .continuation value =>
      match current with
      | some key => readLines (m.add key value) (some key) rest
      | none => (m, line :: rest)
    | .body => (m, line :: rest)

/-- The lines of a document after its opening fence, if it has one. -/
def afterOpening : List Text → List Text
  | [] => []
  | line :: rest => if isFence '-' (content line) then rest else line :: rest

/-- The metadata of a document and its body. -/
def split (document : Text) : Frontmatter × Text :=
  let (m, rest) := readLines empty none (afterOpening (Text.lines document))
  (m, rest.flatten)

end StaticSite.Frontmatter
