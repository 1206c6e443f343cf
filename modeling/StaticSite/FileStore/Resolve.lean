import StaticSite.FileStore.Basic
import StaticSite.FileStore.Error

set_option relaxedAutoImplicit false
set_option autoImplicit false

/-!
# Following paths

A path leads from directory to directory, through symbolic links, to a file, a directory or
nothing. Links are followed in every place of a path; the name at its end may also be taken as
it is, without following it.

## Main definitions

* `StaticSite.FileStore.follow` — the place that some steps lead to.
* `StaticSite.FileStore.resolve`, `StaticSite.FileStore.resolveForWriting` — the place that a path
  leads to.
* `StaticSite.FileStore.resolveName` — the place of the name at the end of a path.
* `StaticSite.FileStore.node` — the file or directory that a path leads to.
* `StaticSite.FileStore.sameFile` — whether two paths lead to one file or directory.
-/

namespace StaticSite

/-- Where a path leads. -/
inductive Place where
  /-- To a location in use. -/
  | present (l : Location)
  /-- To a free location in a directory. -/
  | absent (l : Location)
deriving DecidableEq, Repr

/-- A file or a directory. Two paths that lead to the same node name the same thing. -/
inductive Node where
  /-- A directory, known by its location. -/
  | directory (l : Location)
  /-- A file, known by its identity. -/
  | file (id : FileId)
deriving DecidableEq, Repr

/-- Whether a node is a directory. -/
def Node.isDirectory : Node → Bool
  | .directory _ => true
  | .file _ => false

namespace FileStore

/-- The greatest number of links that a path is followed through. -/
def linkLimit : Nat := 40

/-- The greatest length of a name in bytes. -/
def nameLimit : Nat := 255

/-- The greatest length of a path in bytes. -/
def pathLimit : Nat := 4095

/-- The place that some steps lead to from a location, through at most so many links. A file is
written under no name with a slash behind it, whatever has that name. -/
def follow (s : FileStore) (writing : Bool) :
    Nat → Location → List Path.Component → Except FileError Place
  | _, l, [] => .ok (.present l)
  | links, _, .root :: rest => s.follow writing links [] rest
  | links, l, .current :: rest =>
    if s.isDirectoryAt l then s.follow writing links l rest else .error .notADirectory
  | links, l, .slash :: rest =>
    if s.isDirectoryAt l then s.follow writing links l rest else .error .notADirectory
  | links, l, .parent :: rest =>
    if s.isDirectoryAt l then s.follow writing links l.tail rest else .error .notADirectory
  | links, l, .name n :: rest =>
    if !s.isDirectoryAt l then .error .notADirectory
    else if writing ∧ rest = [.slash] then .error .isADirectory
    else if nameLimit < n.length then .error .nameTooLong
    else
      match s.entryAt (n :: l) with
      | none => if rest.isEmpty then .ok (.absent (n :: l)) else .error .notFound
      | some .directory => s.follow writing links (n :: l) rest
      | some (.file _) => s.follow writing links (n :: l) rest
      | some (.link target) =>
        match links with
        | 0 => .error .tooManyLinks
        | links + 1 => s.follow writing links l (target.steps ++ rest)
termination_by links _ steps => (links, steps.length)

/-- Why no file can have a path, if it is so for its bytes alone: there must be some, none of them
may be null, and they must not be too many. -/
def badPath? (p : Path) : Option FileError :=
  if p.bytes.contains 0 then some .badName
  else if p.bytes.isEmpty then some .notFound
  else if pathLimit < p.bytes.length then some .nameTooLong
  else none

/-- The place that a path leads to, for reading or for writing a file there. -/
def place (s : FileStore) (writing : Bool) (p : Path) : Except FileError Place :=
  match badPath? p with
  | some e => .error e
  | none => s.follow writing linkLimit s.workingDirectory p.steps

/-- The place that a path leads to. -/
def resolve (s : FileStore) (p : Path) : Except FileError Place := s.place false p

/-- The place where the file is written that a path names. -/
def resolveForWriting (s : FileStore) (p : Path) : Except FileError Place := s.place true p

/-- The place of the name at the end of a path, which is not followed if it is a link. A path
that ends otherwise, with a slash or in dots, is followed to its end. -/
def resolveName (s : FileStore) (p : Path) : Except FileError Place :=
  match p.steps.reverse with
  | .name n :: before =>
    match badPath? p with
    | some e => .error e
    | none =>
      match s.follow false linkLimit s.workingDirectory before.reverse with
      | .error e => .error e
      | .ok (.absent _) => .error .notFound
      | .ok (.present l) =>
        if !s.isDirectoryAt l then .error .notADirectory
        else if nameLimit < n.length then .error .nameTooLong
        else if (s.entryAt (n :: l)).isSome then .ok (.present (n :: l))
        else .ok (.absent (n :: l))
  | _ => s.resolve p

/-- What stands at the name at the end of a path. -/
def entryOf (s : FileStore) (p : Path) : Except FileError Entry :=
  match s.resolveName p with
  | .error e => .error e
  | .ok (.absent _) => .error .notFound
  | .ok (.present l) =>
    match s.entryAt l with
    | some e => .ok e
    | none => .error .notFound

/-- The file or directory that a path leads to. -/
def node (s : FileStore) (p : Path) : Except FileError Node :=
  match s.resolve p with
  | .error e => .error e
  | .ok (.absent _) => .error .notFound
  | .ok (.present l) =>
    match s.entryAt l with
    | some .directory => .ok (.directory l)
    | some (.file id) => .ok (.file id)
    | _ => .error .notFound

/-- Whether a path leads to a directory. -/
def isDirectory (s : FileStore) (p : Path) : Bool :=
  match s.node p with
  | .ok n => n.isDirectory
  | .error _ => false

/-- Whether a path leads to a file. -/
def isFile (s : FileStore) (p : Path) : Bool :=
  match s.node p with
  | .ok n => !n.isDirectory
  | .error _ => false

/-- Whether two paths lead to one file or directory. A path that leads nowhere is not even the
same as itself. -/
def sameFile (s : FileStore) (p q : Path) : Bool :=
  match s.node p, s.node q with
  | .ok m, .ok n => m == n
  | _, _ => false

end FileStore

end StaticSite
