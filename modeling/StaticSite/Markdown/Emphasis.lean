import StaticSite.Markdown.Tree

set_option relaxedAutoImplicit false
set_option autoImplicit false

/-!
# Emphasis and quotes

Delimiter runs become emphasis when an opening run meets a closing one. A run that may both
open and close does not pair with another if the sum of their lengths is a multiple of three,
unless both lengths are.

## Main definitions

* `StaticSite.Markdown.Node` — inline content whose delimiter runs are not paired yet.
* `StaticSite.Markdown.curlQuotes` — straight quotes made typographic.
* `StaticSite.Markdown.pairRuns` — inline content with its delimiter runs paired.
-/

namespace StaticSite.Markdown

/-- Inline content whose delimiter runs and quotes are not paired yet. -/
inductive Node where
  /-- Content that is done. -/
  | inline (i : Inline)
  /-- A delimiter run: its mark, its length, whether it may open or close, and text that goes with
  its last mark. -/
  | run (mark : Char) (length : Nat) (opens closes : Bool) (tail : Text)
  /-- A straight quote and whether it may open or close. -/
  | quote (mark : Char) (opens closes : Bool)
  /-- A line break of the page by a backslash. -/
  | backslashBreak
deriving Repr

/-- Text as a node. -/
def Node.ofText (t : Text) : Node := .inline (.text t)

/-- Whether a node is a mark that is not paired yet. -/
def Node.isMark : Node → Bool
  | .run _ _ _ _ _ => true
  | .quote _ _ _ => true
  | _ => false

/-! ## Line breaks -/

/-- Nodes with the backslashes of their line breaks made line breaks, but for a last one, which
becomes text. -/
def breakLines : List Node → List Node
  | [] => []
  | [.backslashBreak] => [.ofText ['\\']]
  | .backslashBreak :: rest => .inline .hardBreak :: breakLines rest
  | n :: rest => n :: breakLines rest

/-! ## Quotes -/

/-- Whether the next single quote that may open or close may close. -/
def nextSingleCloses : List Node → Bool
  | [] => false
  | .quote '\'' opens closes :: rest => if opens || closes then closes else nextSingleCloses rest
  | _ :: rest => nextSingleCloses rest

/-- Straight quotes made typographic, given whether a single or a double quotation is open. A
single quote opens only if the next one closes it; otherwise it is an apostrophe. A double
quote that cannot close a quotation is an opening one. -/
def curl : Bool → Bool → List Node → List Node
  | _, _, [] => []
  | single, double, .quote mark opens closes :: rest =>
    if mark = '\'' then
      if single && closes then .ofText ['’'] :: curl false double rest
      else if opens then
        .ofText [if nextSingleCloses rest then '‘' else '’'] :: curl true double rest
      else .ofText ['’'] :: curl single double rest
    else if closes && double then .ofText ['”'] :: curl single false rest
    else .ofText ['“'] :: curl single (double || opens) rest
  | single, double, n :: rest => n :: curl single double rest

/-- Straight quotes made typographic. -/
def curlQuotes (nodes : List Node) : List Node := curl false false nodes

/-! ## Pairing delimiter runs -/

/-- An opening run that waits for a closing one. -/
structure Opener where
  /-- The mark of the run. -/
  mark : Char
  /-- The length of the run. -/
  length : Nat
  /-- How many of its marks are not paired yet. -/
  unpaired : Nat
  /-- Whether the run may also close. -/
  both : Bool
  /-- The content in front of the run, last first. -/
  before : List Inline

/-- The state of the pairing: the openers, innermost first, the content behind the innermost,
last first, and the number of outermost openers that are out of reach for a run of tildes. -/
structure Pairing where
  /-- The openers, innermost first. -/
  openers : List Opener
  /-- The content behind the innermost opener, last first. -/
  content : List Inline
  /-- How many of the outermost openers a run of tildes cannot reach. -/
  tildeFloor : Nat

namespace Pairing

/-- Marks as text. -/
def marks (mark : Char) (n : Nat) : Inline := .text (List.replicate n mark)

/-- Content put behind an opener that is not paired any more: its marks are text. -/
def demote (content : List Inline) (o : Opener) : List Inline :=
  content ++ marks o.mark o.unpaired :: o.before

/-- Whether a closing run pairs with an opener. -/
def pairs (mark : Char) (length : Nat) (both : Bool) (o : Opener) : Bool :=
  o.mark == mark && (mark != '~' || o.length == length) &&
    ((!both && !o.both) || (length + o.length) % 3 != 0 || length % 3 == 0)

/-- The innermost opener that pairs with a closing run: the openers inside it, the opener and
the openers around it. -/
def split? (test : Opener → Bool) : List Opener → Option (List Opener × Opener × List Opener)
  | [] => none
  | o :: rest =>
    if test o then some ([], o, rest)
    else (split? test rest).map fun parts => (o :: parts.1, parts.2)

/-- Content put between a number of paired marks: two marks make strong emphasis, a single one
that is left makes emphasis around it. -/
def wrap (mark : Char) : Nat → List Inline → List Inline
  | 0, children => children
  | 1, children => if mark = '~' then [.strikethrough children] else [.emphasis children]
  | n + 2, children =>
    if mark = '~' then [.strikethrough children] else wrap mark n [.strong children]

/-- Pairs the marks of a closing run with openers, innermost first, and says how many marks
are left. -/
def close (mark : Char) (length : Nat) (both : Bool) : Nat → Nat → Pairing → Nat × Pairing
  | 0, unpaired, p => (unpaired, p)
  | _, 0, p => (0, p)
  | fuel + 1, unpaired, p =>
    let reach := if mark = '~' then p.openers.length - p.tildeFloor else p.openers.length
    match split? (pairs mark length both) (p.openers.take reach) with
    | none =>
      (unpaired, if mark = '~' then { p with tildeFloor := p.openers.length } else p)
    | some (inner, o, _) =>
      let outer := p.openers.drop (inner.length + 1)
      let children := (inner.foldl demote p.content).reverse
      let paired := min unpaired o.unpaired
      let wrapped := wrap mark paired children
      let floor := min p.tildeFloor outer.length
      let next : Pairing :=
        if o.unpaired = paired then ⟨outer, wrapped ++ o.before, floor⟩
        else ⟨{ o with unpaired := o.unpaired - paired } :: outer, wrapped, floor⟩
      close mark length both fuel (unpaired - paired) next

/-- The state after one more node. -/
def step (p : Pairing) : Node → Pairing
  | .inline i => { p with content := i :: p.content }
  | .quote mark _ _ => { p with content := marks mark 1 :: p.content }
  | .backslashBreak => { p with content := .hardBreak :: p.content }
  | .run mark length opens closes tail =>
    let (unpaired, p) :=
      if closes then close mark length (opens && closes) length length p else (length, p)
    if unpaired = 0 then p
    else if opens then
      { p with
        openers := ⟨mark, length, unpaired, opens && closes, p.content⟩ :: p.openers
        content := [] }
    else { p with content := .text (List.replicate unpaired mark ++ tail) :: p.content }

/-- The content when no more nodes follow: the openers that wait are text. -/
def finish (p : Pairing) : List Inline := (p.openers.foldl demote p.content).reverse

end Pairing

/-- Inline content with its delimiter runs paired. -/
def pairRuns (nodes : List Node) : List Inline :=
  (nodes.foldl Pairing.step ⟨[], [], 0⟩).finish

/-- Inline content with its quotes curled and its delimiter runs paired. The flag says whether the
content holds marks, so that a backslash at its end is looked at. -/
def Node.resolve (marked : Bool) (nodes : List Node) : List Inline :=
  pairRuns (curlQuotes (if marked then breakLines nodes else nodes))

end StaticSite.Markdown
