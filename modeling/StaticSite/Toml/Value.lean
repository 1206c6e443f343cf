import StaticSite.Numeric.Binary64

set_option relaxedAutoImplicit false
set_option autoImplicit false

/-!
# TOML values

What a TOML document holds: tables of keys and values in the order they were written, each
with its place in the document.

## Main definitions

* `StaticSite.Toml.Span` — a stretch of a document.
* `StaticSite.Toml.Located` — something with its place, if it was written in one place.
* `StaticSite.Toml.Value` — a value.
* `StaticSite.Toml.Table` — the entries of a table.
-/

namespace StaticSite.Toml

/-- A stretch of a document. An end of it is given as the text of the document from there on. -/
structure Span where
  /-- The text from the first character of the stretch on. -/
  start : Text
  /-- The text behind the last character of the stretch. -/
  stop : Text
deriving DecidableEq, Repr

/-- Something read from a document. A table that was only implied was written nowhere. -/
structure Located (α : Type) where
  /-- Where it was written. -/
  span : Option Span
  /-- What was written. -/
  value : α

/-- A key, without its quotes. -/
structure Key where
  /-- The name. -/
  name : Text
  /-- Where the name was written, with its quotes. -/
  span : Span
deriving DecidableEq, Repr

/-- How a table came to be, which says what may still be added to it. -/
inductive TableForm where
  /-- Written between braces. -/
  | inline
  /-- Implied by a dotted key. -/
  | dotted
  /-- Implied by the header of a table inside it. -/
  | implied
  /-- Opened by a header of its own. -/
  | headed
deriving DecidableEq, Repr

/-- A value. -/
inductive Value where
  /-- A string. -/
  | text (content : Text)
  /-- A whole number. -/
  | integer (n : Int)
  /-- A floating-point number. -/
  | float (x : Binary64)
  /-- A truth value. -/
  | boolean (b : Bool)
  /-- A date, a time or both. -/
  | dateTime
  /-- An array between brackets. -/
  | array (items : List (Located Value))
  /-- An array of tables, each opened by a header in double brackets, the last one first. -/
  | tables (items : List (Located Value))
  /-- A table. -/
  | table (form : TableForm) (entries : List (Key × Located Value))

/-- The entries of a table in the order of their keys' first mention. -/
abbrev Table := List (Key × Located Value)

namespace Table

/-- The value of a key. -/
def get? (entries : Table) (name : Text) : Option (Located Value) :=
  (entries.find? fun e => e.1.name = name).map Prod.snd

/-- The table with the value of a key set; a new key goes to the end. -/
def set (key : Key) (value : Located Value) : Table → Table
  | [] => [(key, value)]
  | e :: entries =>
    if e.1.name = key.name then (e.1, value) :: entries else e :: set key value entries

/-- The table without a key. -/
def erase (name : Text) (entries : Table) : Table := entries.filter fun e => e.1.name ≠ name

end Table

end StaticSite.Toml
