import StaticSite.FileStore.Read

set_option relaxedAutoImplicit false
set_option autoImplicit false

/-!
# Changing a file store

An action on a store changes it and gives a result or fails. A failed action leaves the store as
it was when the failure arose.

## Main definitions

* `StaticSite.FileAction` — an action on a store.
* `StaticSite.FileStore.write` — a file made or overwritten.
* `StaticSite.FileStore.createDirectory`, `StaticSite.FileStore.createDirectories` — a directory
  made, and the directories above it.
* `StaticSite.FileStore.copyFile` — a file copied over another.
* `StaticSite.FileStore.addLink`, `StaticSite.FileStore.addName` — symbolic and hard links.
* `StaticSite.FileStore.remove` — an entry removed with all below it.
-/

namespace StaticSite

/-- An action on a file store that may fail in the way `ε`. -/
abbrev FileAction (ε α : Type) := EStateM ε FileStore α

namespace FileStore

/-- The result of looking something up in the store, which may fail. -/
def look {α : Type} (f : FileStore → Except FileError α) : FileAction FileError α := do
  match f (← get) with
  | .ok a => pure a
  | .error e => throw e

/-- The store with a new file at a location. -/
def newFile (s : FileStore) (l : Location) (c : Contents) : FileStore :=
  (s.setEntry l (.file s.freshId)).setContents s.freshId c

/-- Writes a file: the one that the path leads to, or a new one if the place is free. -/
def write (p : Path) (c : Contents) : FileAction FileError Unit := do
  match ← look (resolveForWriting · p) with
  | .absent l => modify fun s => s.newFile l c
  | .present l =>
    match (← get).entryAt l with
    | some (.file id) => modify fun s => s.setContents id c
    | _ => throw .isADirectory

/-- Makes a directory in a free place. -/
def createDirectory (p : Path) : FileAction FileError Unit := do
  match ← look (resolveName · p) with
  | .absent l => modify fun s => s.setEntry l .directory
  | .present _ => throw .exists

/-- Makes a directory unless there is one. -/
def ensureDirectory (p : Path) : FileAction FileError Unit := do
  try createDirectory p
  catch e => if (← get).isDirectory p then pure () else throw e

/-- Makes the first of some directories, each of which lies in the next one, and those of the
others that it needs. -/
def createFirst : List Path → FileAction FileError Unit
  | [] => pure ()
  | p :: above => do
    try createDirectory p
    catch
      | .notFound => do
        createFirst above
        ensureDirectory p
      | e => if (← get).isDirectory p then pure () else throw e

/-- Makes a directory unless there is one, and the directories above it. -/
def createDirectories (p : Path) : FileAction FileError Unit :=
  if p.bytes.isEmpty then pure () else createFirst (p :: p.ancestors)

/-- Copies a file over another one, or to a free place. Only what it holds is copied: a store has no
permissions. -/
def copyFile (source target : Path) : FileAction FileError Unit := do
  write target (← look (readContents · source))

/-- Puts an entry into a free place. -/
def addEntry (p : Path) (e : Entry) : FileAction FileError Unit := do
  match ← look (resolveName · p) with
  | .absent l => modify fun s => s.setEntry l e
  | .present _ => throw .exists

/-- Makes a symbolic link that holds a path. -/
def addLink (p target : Path) : FileAction FileError Unit := addEntry p (.link target)

/-- Gives a file one more name. -/
def addName (p existing : Path) : FileAction FileError Unit := do
  addEntry p (← look (entryOf · existing))

/-- Whether a location lies at or below another. -/
def isWithin (base l : Location) : Bool := l == base || (namesBelow? base l).isSome

/-- Removes the entry that a path names, a link without what it leads to, a directory with all
below it. -/
def remove (p : Path) : FileAction FileError Unit := do
  match ← look (resolveName · p) with
  | .absent _ => throw .notFound
  | .present l =>
    modify fun s => { s with entries := s.entries.filter fun entry => !isWithin l entry.1 }

end FileStore

end StaticSite
