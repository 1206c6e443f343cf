import StaticSite.Toml.Expression

set_option relaxedAutoImplicit false
set_option autoImplicit false

/-!
# TOML documents

A document consists of lines: blank ones, pairs and headers, each with an optional comment
behind it.

## Main definitions

* `StaticSite.Toml.header?` — a header in single or double brackets.
* `StaticSite.Toml.parse?` — the table that a document describes.
-/

namespace StaticSite.Toml

/-- The keys of a header between brackets, and the text behind the closing ones. -/
def headerKeys? (close : Text) (t : Text) : Option (List Key × Text) := do
  let (keys, rest) ← keyPath? depthLimit t
  some (keys, ← Text.dropPrefix? close rest)

/-- A header with no pairs behind it yet, and the text behind it. -/
def header? (t : Text) : Option (Section × Text) := do
  let isElement := (Text.dropPrefix? ['[', '['] t).isSome
  let (keys, rest) ←
    if isElement then headerKeys? [']', ']'] (t.drop 2) else headerKeys? [']'] (t.drop 1)
  some (⟨keys.dropLast, ← keys.getLast?, isElement, ⟨t, rest⟩, []⟩, rest)

/-- The pairs up to the first header of a text, and the sections from there on. The first
argument is at least the number of lines. -/
def sections? : Nat → Text → Option (List Pair × List Section)
  | 0, _ => none
  | limit + 1, t =>
    match skipBlanks t with
    | [] => some ([], [])
    | '[' :: rest => do
      let (s, rest) ← header? ('[' :: rest)
      let (pairs, sections) ← sections? limit (← lineEnd? rest)
      some ([], { s with pairs := pairs } :: sections)
    | c :: rest =>
      if c = '#' ∨ c = '\n' ∨ c = '\r' then do sections? limit (← lineEnd? (c :: rest))
      else do
        let (p, rest) ← pair? (c :: rest)
        let (pairs, sections) ← sections? limit (← lineEnd? rest)
        some (p :: pairs, sections)

/-- The text without a byte order mark at its start. -/
def dropByteOrderMark : Text → Text
  | '\ufeff' :: t => t
  | t => t

/-- The table that a document describes, if it is well-formed. -/
def parse? (t : Text) : Option Table := do
  let (pairs, sections) ← sections? (t.length + 1) (dropByteOrderMark t)
  Table.ofSections pairs sections

end StaticSite.Toml
