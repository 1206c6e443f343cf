import StaticSite.FileStore.Update

set_option relaxedAutoImplicit false
set_option autoImplicit false

/-!
# Copying a tree

The contents of one directory are copied into another: files are overwritten, nothing is
removed. Links in the source are followed. The target directory is left out where it lies inside
the source, and a file is not copied onto itself.

## Main definitions

* `StaticSite.WalkError`, `StaticSite.CopyError` — why a copy failed.
* `StaticSite.CopyTree.visited` — the file or directory that a path names on the way.
* `StaticSite.CopyTree.copyEntry` — an entry of the source copied with all below it.
* `StaticSite.copyTree` — the tree copied.
-/

namespace StaticSite

/-- Why the source tree could not be walked. -/
inductive WalkError where
  /-- A path leads nowhere. -/
  | unreachable (path : Path) (cause : FileError)
  /-- A link leads back to a directory that it lies in. -/
  | loop (path ancestor : Path)
deriving DecidableEq, Repr

/-- The message about a walk that failed. -/
def WalkError.message : WalkError → Text
  | .unreachable path cause =>
    "IO error for operation on ".toList ++ path.text ++ [':', ' '] ++ cause.message
  | .loop path ancestor =>
    "File system loop found: ".toList ++ path.text ++ " points to an ancestor ".toList ++
      ancestor.text

/-- Why a tree was not copied. -/
inductive CopyError where
  /-- The source tree could not be walked. -/
  | walk (cause : WalkError)
  /-- An entry could not be copied. -/
  | entry (source target : Path) (cause : FileError)
deriving DecidableEq, Repr

/-- A directory on the way to an entry. -/
structure Ancestor where
  /-- The directory. -/
  node : Node
  /-- The path it was reached by. -/
  path : Path
deriving DecidableEq, Repr

namespace CopyTree

/-- The file or directory that a path names on the way through the source tree. A link must not
lead to a directory on the way to it; the nearest such directory comes first. -/
def visited (s : FileStore) (ancestors : List Ancestor) (p : Path) : Except WalkError Node :=
  match s.entryOf p with
  | .error cause => .error (.unreachable p cause)
  | .ok (.link _) =>
    match s.node p with
    | .error cause => .error (.unreachable p cause)
    | .ok (.file id) => .ok (.file id)
    | .ok node =>
      match ancestors.find? fun a => a.node == node with
      | some a => .error (.loop p a.path)
      | none => .ok node
  | .ok _ =>
    match s.node p with
    | .error cause => .error (.unreachable p cause)
    | .ok node => .ok node

/-- The path in the target directory that belongs to a path in the source directory. -/
def targetOf (source target p : Path) : Path :=
  match p.relativeTo? source with
  | some relative => target.join relative
  | none => p

/-- Copies a single file or makes a single directory, unless source and target are the same. Gives
the number of files copied. -/
def copyNode (node : Node) (p q : Path) : FileAction CopyError Nat := do
  if (← get).sameFile p q then return 0
  match node with
  | .directory _ =>
    EStateM.adaptExcept (.entry p q) (FileStore.createDirectories q)
    return 0
  | .file _ =>
    EStateM.adaptExcept (.entry p q) (FileStore.copyFile p q)
    return 1

/-- The names in the directory of a node; a file holds none. -/
def namesOf (s : FileStore) : Node → List Name
  | .directory l => s.namesIn l
  | .file _ => []

/-- Copies an entry of the source with all below it and gives the number of files copied. The
names in a directory are those it has before it is copied itself. The first argument bounds the
depth; a path of that depth is longer than the system allows. -/
def copyEntry (source target : Path) :
    Nat → List Ancestor → Path → FileAction CopyError Nat
  | 0, _, p => throw (.walk (.unreachable p .nameTooLong))
  | depth + 1, ancestors, p => do
    let s ← get
    match visited s ancestors p with
    | .error e => throw (.walk e)
    | .ok node =>
      let names := namesOf s node
      if node.isDirectory && s.sameFile p target then return 0
      let copied ← copyNode node p (targetOf source target p)
      names.foldlM (fun n name => do
        return n + (← copyEntry source target depth (⟨node, p⟩ :: ancestors) (p.child name)))
        copied

end CopyTree

open CopyTree in
/-- Copies the contents of one directory into another and gives the number of files copied. -/
def copyTree (source target : Path) : FileAction CopyError Nat := do
  let s ← get
  match visited s [] source with
  | .error e => throw (.walk e)
  | .ok node =>
    (namesOf s node).foldlM (fun n name => do
      return n + (← copyEntry source target FileStore.pathLimit [⟨node, source⟩]
        (source.child name))) 0

end StaticSite
