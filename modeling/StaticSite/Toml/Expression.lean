import StaticSite.Toml.DateTime
import StaticSite.Toml.Number
import StaticSite.Toml.Section

set_option relaxedAutoImplicit false
set_option autoImplicit false

/-!
# TOML keys and values

## Main definitions

* `StaticSite.Toml.keyPath?` — a key, or several with dots between them.
* `StaticSite.Toml.value?` — a value, with arrays and tables nested to a given depth.
* `StaticSite.Toml.pair?` — a key path and its value.
-/

namespace StaticSite.Toml

/-! ## Keys -/

/-- Whether a character may stand in a key without quotes. -/
def isBareKey (c : Char) : Bool := c.isAlphanum || c == '_' || c == '-'

/-- The name of a single key, and the text behind it. -/
def keyName? : Text → Option (Text × Text)
  | '"' :: t => basic? t
  | '\'' :: t => literal? t
  | t =>
    let name := t.takeWhile isBareKey
    if name.isEmpty then none else some (name, t.dropWhile isBareKey)

/-- At most so many keys with dots between them, and the text behind them and behind the blanks
that follow. -/
def keyPath? : Nat → Text → Option (List Key × Text)
  | 0, _ => none
  | limit + 1, t => do
    let start := skipBlanks t
    let (name, stop) ← keyName? start
    let key : Key := ⟨name, ⟨start, stop⟩⟩
    match skipBlanks stop with
    | '.' :: rest =>
      let (keys, rest) ← keyPath? limit rest
      some (key :: keys, rest)
    | rest => some ([key], rest)

/-- The greatest depth to which arrays, tables and dotted keys may be nested. -/
def depthLimit : Nat := 79

/-! ## Values -/

/-- A value that is not made of others, and the text behind it. -/
def scalar? (t : Text) : Option (Value × Text) :=
  match t with
  | [] => none
  | c :: _ =>
    if c = '"' ∨ c = '\'' then (quoted? t).map fun r => (.text r.1, r.2)
    else
      match Text.dropPrefix? "true".toList t, Text.dropPrefix? "false".toList t with
      | some rest, _ => some (.boolean true, rest)
      | _, some rest => some (.boolean false, rest)
      | none, none =>
        match dateTime? t with
        | some rest => some (.dateTime, rest)
        | none => (float? t).or (integer? t)

/-- The items of an array behind its opening bracket, read by a reader of one item, and the text
behind the closing bracket. A comma may follow the last item. The first argument is at least the
number of items. -/
def items? {α : Type} (item : Text → Option (α × Text)) : Nat → Text → Option (List α × Text)
  | 0, _ => none
  | limit + 1, t => do
    match ← skipLines? false t with
    | ']' :: rest => some ([], rest)
    | t =>
      let (x, rest) ← item t
      match ← skipLines? false rest with
      | ']' :: rest => some ([x], rest)
      | ',' :: rest =>
        let (xs, rest) ← items? item limit rest
        some (x :: xs, rest)
      | _ => none

/-- A key path, an equals sign and a value read by a given reader, and the text behind them. -/
def pairOf? (value : Text → Option (Located Value × Text)) (t : Text) :
    Option (Pair × Text) := do
  let (keys, rest) ← keyPath? depthLimit t
  let (v, rest) ← value (skipBlanks (← mark? '=' rest))
  some (⟨keys.dropLast, ← keys.getLast?, v⟩, rest)

/-- The pairs of a table between braces, from one pair on, and the text behind the closing brace.
No comma may follow the last pair. The first argument is at least the number of pairs. -/
def inlinePairs? (pair : Text → Option (Pair × Text)) : Nat → Text → Option (List Pair × Text)
  | 0, _ => none
  | limit + 1, t => do
    let (p, rest) ← pair t
    match skipBlanks rest with
    | '}' :: rest => some ([p], rest)
    | ',' :: rest =>
      let (ps, rest) ← inlinePairs? pair limit rest
      some (p :: ps, rest)
    | _ => none

/-- The entries of a table behind its opening brace, and the text behind the closing brace. -/
def inlineTable? (pair : Text → Option (Pair × Text)) (t : Text) : Option (Table × Text) := do
  match skipBlanks t with
  | '}' :: rest => some ([], rest)
  | t =>
    let (pairs, rest) ← inlinePairs? pair t.length t
    some (← Table.addPairs [] pairs, rest)

/-- A value, and the text behind it. Arrays and tables are nested to the given depth at most. -/
def value? : Nat → Text → Option (Located Value × Text)
  | 0, t => (scalar? t).map fun r => (⟨some ⟨t, r.2⟩, r.1⟩, r.2)
  | depth + 1, t => do
    let (v, rest) ← match t with
      | '[' :: inner => (items? (value? depth) inner.length inner).map fun r => (.array r.1, r.2)
      | '{' :: inner =>
        (inlineTable? (pairOf? (value? depth)) inner).map fun r => (.table .inline r.1, r.2)
      | _ => scalar? t
    some (⟨some ⟨t, rest⟩, v⟩, rest)

/-- A key path and its value, and the text behind them. -/
def pair? (t : Text) : Option (Pair × Text) := pairOf? (value? depthLimit) t

end StaticSite.Toml
