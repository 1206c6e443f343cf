import StaticSite.CommandLine.Run

set_option relaxedAutoImplicit false
set_option autoImplicit false

/-!
# The program

Reads the directories named by the arguments into a file store, runs the build on it, and writes
what the build made or changed. A symbolic link is read with the canonical path that it leads to;
one that leads nowhere gets a target that names nothing.

## Main definitions

* `StaticSite.Disk.load` — the files below a directory.
* `StaticSite.Disk.save` — writes the files that changed.
* `main` — the program.
-/

namespace StaticSite.Disk

/-- The location of a canonical path. -/
def locationOf (path : String) : Location :=
  ((path.splitOn "/").filter (· ≠ "")).reverse.map fun n => Utf8.encode n.toList

/-- The canonical path of a location. -/
def pathOf (l : Location) : String :=
  "/" ++ "/".intercalate (l.reverse.map fun n => String.ofList n.text)

/-- The store with directories at a location and on the way to it, where nothing stands yet. -/
def withDirectories (s : FileStore) : Location → FileStore
  | [] => s
  | name :: directory =>
    let s := withDirectories s directory
    if (s.entryAt (name :: directory)).isSome then s
    else s.setEntry (name :: directory) .directory

/-- A target for links that lead nowhere. -/
def nowhere : Path := ⟨Utf8.encode ['\ufffd']⟩

/-- What was read so far. -/
structure Reading where
  /-- The files. -/
  store : FileStore
  /-- The locations that were read. -/
  seen : List Location := []

/-- Reads what stands at a location, with all below it and all that its links lead to. -/
partial def load (r : Reading) (l : Location) : IO Reading := do
  if r.seen.contains l then return r
  let mut r := { r with seen := l :: r.seen }
  let path := System.mkFilePath [pathOf l]
  match (← path.symlinkMetadata).type with
  | .dir =>
    r := { r with store := withDirectories r.store l }
    for entry in ← path.readDir do r ← load r (entry.fileName.toList :: l)
    return r
  | .symlink =>
    if ← path.pathExists then
      let target := (← IO.FS.realPath path).toString
      let s := r.store.setEntry l (.link ⟨target.toList⟩)
      load { r with store := withDirectories s (locationOf target).tail } (locationOf target)
    else return { r with store := r.store.setEntry l (.link nowhere) }
  | _ =>
    let bytes := (← IO.FS.readBinFile path).toList
    let s := withDirectories r.store l.tail
    return { r with store := s.newFile l (Contents.ofBytes bytes) }

/-- Reads what a path leads to, if it leads anywhere. -/
def loadPath (r : Reading) (p : Path) : IO Reading := do
  let path := System.mkFilePath [String.ofList p.text]
  if p.bytes.isEmpty || !(← path.pathExists) then return r
  let real := locationOf (← IO.FS.realPath path).toString
  let r ← load { r with store := withDirectories r.store real.tail } real
  match r.store.resolveName p with
  | .ok (.absent l) => return { r with store := r.store.setEntry l (.link ⟨(pathOf real).toList⟩) }
  | _ => return r

/-- Writes the directories and files that a store has and another has not, or not so. -/
def save (before after : FileStore) : IO Unit := do
  for (l, e) in after.entries do
    match e with
    | .directory => if (before.entryAt l).isNone then IO.FS.createDirAll (pathOf l)
    | .file id =>
      if before.entryAt l ≠ some e ∨ before.contentsOf id ≠ after.contentsOf id then
        IO.FS.writeBinFile (pathOf l) ⟨(after.contentsOf id).bytes.toArray⟩
    | .link _ => pure ()

/-- The files that a request is about. -/
def filesFor : Except CommandLine.UsageError CommandLine.Request → IO FileStore
  | .ok (.build source build) => do
    let here := locationOf (← IO.FS.realPath (← IO.currentDir)).toString
    let s := { withDirectories {} here with workingDirectory := here }
    return (← loadPath (← loadPath { store := s } source) build).store
  | _ => return {}

end StaticSite.Disk

open StaticSite in
/-- Runs the program with its arguments and gives the exit status. -/
def main (arguments : List String) : IO UInt32 := do
  let arguments := arguments.map String.toList
  let before ← Disk.filesFor (CommandLine.parse arguments)
  let (output, after) := CommandLine.run arguments before
  Disk.save before after
  (← IO.getStdout).putStr (String.ofList output.out)
  (← IO.getStderr).putStr (String.ofList output.err)
  return UInt32.ofNat output.status
