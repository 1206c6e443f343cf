import StaticSite.Config.Basic
import StaticSite.Text.Quotation
import StaticSite.Toml.Value

set_option relaxedAutoImplicit false
set_option autoImplicit false

/-!
# The schema of the configuration

A configuration is a TOML table of three sections, each a table of settings. An array gives the
settings of a section in their order. Unknown keys are refused, so that a misspelt setting does
not go unnoticed.

## Main definitions

* `StaticSite.Config.Fault` — why a document does not fit the schema.
* `StaticSite.Config.Misfit` — a fault and its place.
* `StaticSite.Config.Setting` — a named setting of a section.
* `StaticSite.Config.readSection` — a section read from a value.
* `StaticSite.Config.ofTable` — the configuration read from a table.
-/

namespace StaticSite.Config

open Toml

/-! ## Faults -/

/-- What a value was found to be, where something else was expected. -/
inductive Found where
  /-- A string. -/
  | text (content : Text)
  /-- A whole number. -/
  | integer (n : Int)
  /-- A floating-point number. -/
  | float (x : Binary64)
  /-- A truth value. -/
  | boolean (b : Bool)
  /-- An array of any kind. -/
  | sequence
  /-- A table of any kind, or a date. -/
  | map
deriving DecidableEq, Repr

/-- Why a document does not fit the schema. -/
inductive Fault where
  /-- A key that names no setting. -/
  | unknownField (name : Text) (known : List Text)
  /-- A value of another type than the setting. -/
  | wrongType (found : Found) (expected : Text)
  /-- A negative number. -/
  | negative (n : Int)
deriving DecidableEq, Repr

/-- A fault and its place. -/
structure Misfit where
  /-- The fault. -/
  fault : Fault
  /-- Where it was found. -/
  span : Option Span
deriving DecidableEq, Repr

/-- A misfit with a place given to it if it has none. -/
def Misfit.orAt (m : Misfit) (span : Span) : Misfit := { m with span := m.span.or (some span) }

/-- The digits of a whole number behind its sign. -/
def intText (n : Int) : Text :=
  (if n < 0 then ['-'] else []) ++ Text.ofNat n.natAbs

/-- A text between backquotes. -/
def backquoted (t : Text) : Text := '\x60' :: t ++ ['\x60']

/-- How a message names what was found. -/
def Found.describe : Found → Text
  | .text content => "string ".toList ++ Text.quotation content
  | .integer n => "integer ".toList ++ backquoted (intText n)
  | .float x => "floating point ".toList ++ backquoted x.text
  | .boolean b => "boolean ".toList ++ backquoted (if b then "true".toList else "false".toList)
  | .sequence => "sequence".toList
  | .map => "map".toList

/-- How a message names a whole number that is not negative. -/
def wholeNumber : Text := "usize".toList

/-- The message about a fault. -/
def Fault.message : Fault → Text
  | .unknownField name known =>
    "unknown field ".toList ++ backquoted name ++ ", expected ".toList ++
      match known with
      | [single] => backquoted single
      | _ => "one of ".toList ++ Text.joinWith [',', ' '] (known.map backquoted)
  | .wrongType found expected =>
    "invalid type: ".toList ++ found.describe ++ ", expected ".toList ++ expected
  | .negative n =>
    "invalid value: ".toList ++ (Found.integer n).describe ++ ", expected ".toList ++ wholeNumber

/-- What a value is. -/
def foundIn : Value → Found
  | .text content => .text content
  | .integer n => .integer n
  | .float x => .float x
  | .boolean b => .boolean b
  | .dateTime => .map
  | .array _ => .sequence
  | .tables _ => .sequence
  | .table .. => .map

/-- The misfit of a value of the wrong type. -/
def wrongType {α : Type} (v : Located Value) (expected : Text) : Except Misfit α :=
  .error ⟨.wrongType (foundIn v.value) expected, v.span⟩

/-! ## Settings -/

/-- A truth value. -/
def readBool (v : Located Value) : Except Misfit Bool :=
  match v.value with
  | .boolean b => .ok b
  | _ => wrongType v "a boolean".toList

/-- A whole number that is not negative. -/
def readNat (v : Located Value) : Except Misfit Nat :=
  match v.value with
  | .integer n => if n < 0 then .error ⟨.negative n, v.span⟩ else .ok n.toNat
  | _ => wrongType v wholeNumber

/-- A named setting of a section. -/
structure Setting (σ : Type) where
  /-- The key. -/
  name : Text
  /-- The section with the setting read from a value. -/
  read : Located Value → σ → Except Misfit σ

/-- A setting that is read by a reader of its type. -/
def Setting.of {σ α : Type} (name : String) (read : Located Value → Except Misfit α)
    (set : α → σ → σ) : Setting σ where
  name := name.toList
  read v s := (read v).map fun a => set a s

/-- A section with the settings of a table. The first key that is unknown or whose value does not
fit is the misfit. -/
def readEntries {σ : Type} (settings : List (Setting σ)) : Table → σ → Except Misfit σ
  | [], s => .ok s
  | (key, v) :: entries, s =>
    match settings.find? fun setting => setting.name = key.name with
    | none => .error ⟨.unknownField key.name (settings.map Setting.name), some key.span⟩
    | some setting => do
      let s ← (setting.read v s).mapError fun m => m.orAt key.span
      readEntries settings entries s

/-- A section with its settings given in order. Values beyond the last setting are ignored. -/
def readItems {σ : Type} : List (Setting σ) → List (Located Value) → σ → Except Misfit σ
  | setting :: settings, v :: vs, s => do readItems settings vs (← setting.read v s)
  | _, _, s => .ok s

/-- The key under which a date counts as a table. -/
def dateKey : Text := "$__toml_private_datetime".toList

/-- A section read from a value: a table, or an array of the settings in order. -/
def readSection {σ : Type} (title : String) (settings : List (Setting σ)) (v : Located Value)
    (s : σ) : Except Misfit σ :=
  match v.value with
  | .table _ entries => readEntries settings entries s
  | .array items => readItems settings items s
  | .tables items => readItems settings items.reverse s
  | .dateTime => .error ⟨.unknownField dateKey (settings.map Setting.name), v.span⟩
  | _ => wrongType v ("struct ".toList ++ title.toList)

/-! ## The configuration -/

/-- The settings of the navigation lists. -/
def navSettings : List (Setting NavSettings) :=
  [.of "include_self" readBool fun b _ => { includeSelf := b }]

/-- The Markdown extensions. -/
def markdownSettings : List (Setting Markdown.Extensions) :=
  [.of "tables" readBool fun b s => { s with tables := b },
    .of "footnotes" readBool fun b s => { s with footnotes := b },
    .of "strikethrough" readBool fun b s => { s with strikethrough := b },
    .of "tasklists" readBool fun b s => { s with tasklists := b },
    .of "smart_punctuation" readBool fun b s => { s with smartPunctuation := b },
    .of "math" readBool fun b s => { s with math := b }]

/-- The settings of the page builds. -/
def processingSettings : List (Setting ProcessingSettings) :=
  [.of "max_processes" readNat fun n _ => { maxProcesses := some n }]

/-- The sections. -/
def sections : List (Setting Config) :=
  [.of "nav" (fun v => readSection "NavConfig" navSettings v {}) fun x c => { c with nav := x },
    .of "markdown" (fun v => readSection "MarkdownConfig" markdownSettings v {})
      fun x c => { c with markdown := x },
    .of "processing" (fun v => readSection "ProcessingConfig" processingSettings v {})
      fun x c => { c with processing := x }]

/-- The configuration read from a table. -/
def ofTable (entries : Table) : Except Misfit Config := readEntries sections entries {}

end StaticSite.Config
