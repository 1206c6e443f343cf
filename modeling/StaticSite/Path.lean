import StaticSite.Name

set_option relaxedAutoImplicit false
set_option autoImplicit false

/-!
# Paths

A path is kept as it was written, because messages show it that way. Like the names in it, it is
made of bytes. Two paths are alike if they have the same components: repeated slashes, a slash at
the end and a `.` that is not the first component make no difference.

## Main definitions

* `StaticSite.Path.text` — a path as it is shown.
* `StaticSite.Path.components` — the components of a path.
* `StaticSite.Path.alike` — equality of components.
* `StaticSite.Path.join` — a path below another.
* `StaticSite.Path.relativeTo?` — the rest of a path below another.
* `StaticSite.Path.extension?`, `StaticSite.Path.withExtension` — the extension of the file
  name.
-/

namespace StaticSite

/-- A path as it was written. -/
structure Path where
  /-- The bytes of the path. -/
  bytes : List UInt8
deriving DecidableEq, Repr

namespace Path

open StaticSite.Name (slash dot)

/-- A path as it is shown. -/
def text (p : Path) : Text := Utf8.decodeWithReplacement p.bytes

/-- A component of a path. -/
inductive Component where
  /-- The root of an absolute path. -/
  | root
  /-- The current directory, `.`. -/
  | current
  /-- The parent directory, `..`. -/
  | parent
  /-- A name inside a directory. -/
  | name (n : Name)
  /-- A slash at the end, in front of which a directory must stand. -/
  | slash
deriving DecidableEq, Repr

/-- The bytes of a component. -/
def Component.bytes : Component → List UInt8
  | .root => [Name.slash]
  | .current => [dot]
  | .parent => [dot, dot]
  | .name n => n
  | .slash => []

/-- A component as it is shown. -/
def Component.text (c : Component) : Text := Utf8.decodeWithReplacement c.bytes

/-! ## Components -/

/-- The bytes between slashes, as one list between two of them. -/
def segments : List UInt8 → List (List UInt8)
  | [] => [[]]
  | b :: t =>
    if b = slash then [] :: segments t
    else
      match segments t with
      | [] => [[b]]
      | s :: rest => (b :: s) :: rest

/-- The component that the bytes between slashes denote. A repeated slash denotes none. -/
def Component.ofSegment? (s : List UInt8) : Option Component :=
  if s = [] then none
  else if s = [dot] then some .current
  else if s = [dot, dot] then some .parent
  else some (.name s)

/-- Whether a path starts at the root. -/
def isAbsolute (p : Path) : Bool := p.bytes.head? == some slash

/-- The steps that a path takes from directory to directory. A slash at the end is a step. -/
def steps (p : Path) : List Component :=
  (if p.isAbsolute then [.root] else []) ++ (segments p.bytes).filterMap Component.ofSegment? ++
    if p.bytes.getLast? == some slash then [.slash] else []

/-- The components of a path. A current directory counts only in front of a relative path. -/
def components (p : Path) : List Component :=
  match p.steps.filter (· != .slash) with
  | [] => []
  | first :: rest => first :: rest.filter (· != .current)

/-- Two paths are alike if they have the same components. -/
def alike (p q : Path) : Bool := p.components == q.components

/-! ## Building paths -/

/-- The path `q` taken from the directory `p`; an absolute path stays as it is. -/
def join (p q : Path) : Path :=
  if q.isAbsolute || p.bytes.isEmpty then q
  else if p.bytes.getLast? == some slash then ⟨p.bytes ++ q.bytes⟩
  else ⟨p.bytes ++ slash :: q.bytes⟩

/-- The file or directory of a given name in a directory. -/
def child (p : Path) (name : Name) : Path := p.join ⟨name⟩

/-- The path with the given components. -/
def ofComponents : List Component → Path
  | .root :: rest => ⟨slash :: Text.joinWith [slash] (rest.map Component.bytes)⟩
  | cs => ⟨Text.joinWith [slash] (cs.map Component.bytes)⟩

/-- The components that follow a given start. -/
def dropComponents? : List Component → List Component → Option (List Component)
  | [], cs => some cs
  | _ :: _, [] => none
  | b :: bs, c :: cs => if b = c then dropComponents? bs cs else none

/-- The rest of a path below a directory whose components start it. -/
def relativeTo? (p base : Path) : Option Path :=
  (dropComponents? base.components p.components).map ofComponents

/-- The directory that holds a path; the root and the empty path have none. -/
def parent? (p : Path) : Option Path :=
  match p.components.reverse with
  | [] => none
  | .root :: _ => none
  | _ :: rest => some (ofComponents rest.reverse)

/-- The directories that lead to a path, the nearest one first. The current directory in front of
a relative path is not among them. -/
def ancestors (p : Path) : List Path :=
  let cs := p.components
  (List.range (cs.length - 1)).reverse.map fun n => ofComponents (cs.take (n + 1))

/-! ## File names -/

/-- The file name: the last component if it is a name. -/
def fileName? (p : Path) : Option Name :=
  match p.components.getLast? with
  | some (.name n) => some n
  | _ => none

/-- A file name cut at its last dot into stem and extension. A name without a dot, or with one
in front only, has no extension. -/
def splitName (name : Name) : Name × Option Name :=
  let extension := (name.reverse.takeWhile (· != dot)).reverse
  let stem := name.take (name.length - extension.length - 1)
  if extension.length < name.length ∧ stem ≠ [] then (stem, some extension) else (name, none)

/-- The extension of the file name, without the dot. -/
def extension? (p : Path) : Option Name := p.fileName?.bind fun n => (splitName n).2

/-- A reversed path without the slashes and current directories at its end. -/
def dropTail : List UInt8 → List UInt8
  | slash :: t => dropTail t
  | dot :: slash :: t => dropTail t
  | t => t

/-- The path with an extension put behind the stem of the file name, in place of the extension
it has. A path without a file name stays as it is. -/
def replaceExtension (p : Path) (extension : Name) : Path :=
  match p.fileName? with
  | none => p
  | some n =>
    let whole := (dropTail p.bytes.reverse).reverse
    ⟨whole.take (whole.length - n.length) ++ (splitName n).1 ++ dot :: extension⟩

/-- The path with another extension. The bytes of the extension it has are dropped first,
and what is left says which stem the new one goes to: `..md` becomes `..`, which names no
file and stays as it is. -/
def withExtension (p : Path) (extension : Name) : Path :=
  match p.extension? with
  | none => p.replaceExtension extension
  | some e => (Path.mk (p.bytes.take (p.bytes.length - e.length))).replaceExtension extension

/-- Whether the extension is the given one, in any ASCII case. -/
def hasExtension (p : Path) (extension : Name) : Bool :=
  match p.extension? with
  | none => false
  | some e => Name.equalsCaseless e extension

end Path

end StaticSite
