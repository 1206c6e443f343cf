import StaticSite.Toml.Value

set_option relaxedAutoImplicit false
set_option autoImplicit false

/-!
# Assembling tables

A document is a sequence of sections: the pairs in front of the first header, then for each
header the pairs behind it. Their keys and headers are paths, and together they make up one
table. A key is set at most once; a table is opened by at most one header, and what was closed
by braces or opened by a header takes no dotted keys from elsewhere.

## Main definitions

* `StaticSite.Toml.Pair`, `StaticSite.Toml.Section` — the parts of a document.
* `StaticSite.Toml.Table.modifyAt` — a change of the table at the end of a path.
* `StaticSite.Toml.Table.addPairs` — a table with pairs added to it.
* `StaticSite.Toml.Table.ofSections` — the table that a document describes.
-/

namespace StaticSite.Toml

/-- A value with the path of keys that it is set at. -/
structure Pair where
  /-- The keys in front of the last one. -/
  path : List Key
  /-- The last key. -/
  key : Key
  /-- The value. -/
  value : Located Value

/-- A header and the pairs behind it. -/
structure Section where
  /-- The keys of the header in front of the last one. -/
  path : List Key
  /-- The last key of the header. -/
  key : Key
  /-- Whether the header opens one more table of an array. -/
  isElement : Bool
  /-- Where the header was written, with its brackets. -/
  header : Span
  /-- The pairs up to the next header. -/
  pairs : List Pair

namespace Table

/-- A change of the table at the end of a path. Tables missing on the way get the form `missing`:
`dotted` for the path of a dotted key, `implied` for that of a header. A path goes through the
last table of an array. It goes through no table between braces, and a dotted key through none
with a header. -/
def modifyAt (missing : TableForm) (change : TableForm → Table → Option Table) :
    List Key → TableForm → Table → Option Table
  | [], form, entries => change form entries
  | key :: path, _, entries =>
    match get? entries key.name with
    | none => do
      let inner ← modifyAt missing change path missing []
      some (set key ⟨none, .table missing inner⟩ entries)
    | some ⟨span, .table form inner⟩ =>
      if form = .inline ∨ (missing = .dotted ∧ form = .headed) then none
      else do
        let inner ← modifyAt missing change path form inner
        some (set key ⟨span, .table form inner⟩ entries)
    | some ⟨span, .tables (⟨lastSpan, .table form inner⟩ :: others)⟩ => do
      -- The tables of an array have headers, yet a dotted key may lead through one of them.
      let inner ← modifyAt missing change path form inner
      some (set key ⟨span, .tables (⟨lastSpan, .table form inner⟩ :: others)⟩ entries)
    | some _ => none

/-- A table with one more pair. A dotted key ends in a table that dotted keys made. -/
def addPair (entries : Table) (pair : Pair) : Option Table :=
  let add := fun form inner =>
    if (pair.path ≠ [] ∧ form ≠ .dotted) ∨ (get? inner pair.key.name).isSome then none
    else some (set pair.key pair.value inner)
  modifyAt .dotted add pair.path .headed entries

/-- A table with more pairs. -/
def addPairs (entries : Table) (pairs : List Pair) : Option Table := pairs.foldlM addPair entries

/-- The stretch from the start of one to the end of another. -/
def joinSpans (first last : Option Span) : Option Span := do
  some ⟨(← first).start, (← last).stop⟩

/-- Where a section was written: its header, up to the last value behind it. -/
def spanOf (s : Section) : Option Span :=
  match s.pairs.getLast? with
  | none => some s.header
  | some pair => joinSpans (some s.header) pair.value.span

/-- The table of a section added under the last key of its header. A table that only the
headers of tables inside it implied is opened, and moves to the end. -/
def addTable (s : Section) (entries : Table) : Option Table := do
  let inner ← match get? entries s.key.name with
    | none => some []
    | some ⟨_, .table .implied inner⟩ => some inner
    | some _ => none
  let inner ← addPairs inner s.pairs
  some (set s.key ⟨spanOf s, .table .headed inner⟩ (erase s.key.name entries))

/-- The table of a section added to the array under the last key of its header. -/
def addElement (s : Section) (entries : Table) : Option Table := do
  let items ← match get? entries s.key.name with
    | none => some []
    | some ⟨_, .tables items⟩ => some items
    | some _ => none
  let inner ← addPairs [] s.pairs
  let items := ⟨spanOf s, .table .headed inner⟩ :: items
  let span := joinSpans (items.getLast?.bind Located.span) (spanOf s)
  some (set s.key ⟨span, .tables items⟩ entries)

/-- A table with one more section. -/
def addSection (entries : Table) (s : Section) : Option Table :=
  let add := if s.isElement then addElement s else addTable s
  modifyAt .implied (fun _ inner => add inner) s.path .headed entries

/-- The table that a document describes: the pairs in front of the first header, and the
sections. -/
def ofSections (pairs : List Pair) (sections : List Section) : Option Table := do
  sections.foldlM addSection (← addPairs [] pairs)

end Table

end StaticSite.Toml
