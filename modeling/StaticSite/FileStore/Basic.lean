import StaticSite.Path

set_option relaxedAutoImplicit false
set_option autoImplicit false

/-!
# File stores

A file store is what a disk holds: directories, files and symbolic links at their locations. A
file has an identity of its own, and hard links are several locations of one file, so contents
belong to the identity.

There are no permissions: all files can be read and written and all directories searched, as by a
process that may do everything. So nothing fails for want of a permission, and a copy of a file that
none may write can be written again.

## Main definitions

* `StaticSite.Location` — a place in the tree of directories.
* `StaticSite.Contents` — what a file holds: a text, or bytes that are none.
* `StaticSite.FileStore` — the entries, the contents and the working directory.
* `StaticSite.FileStore.entryAt` — what stands at a location.
* `StaticSite.FileStore.setEntry`, `StaticSite.FileStore.setContents` — the elementary changes.
-/

namespace StaticSite

/-- A place in the tree of directories: the names that lead to it from the root, the last one
first. -/
abbrev Location := List Name

/-- The identity of a file. -/
structure FileId where
  /-- A number that no other file has. -/
  number : Nat
deriving DecidableEq, Repr

/-- What a file holds. -/
inductive Contents where
  /-- A text, in UTF-8. -/
  | text (t : Text)
  /-- Bytes that are not UTF-8. -/
  | binary (bytes : List UInt8) (notText : Utf8.decode? bytes = none)
deriving DecidableEq

namespace Contents

/-- The contents made of some bytes. -/
def ofBytes (bytes : List UInt8) : Contents :=
  match h : Utf8.decode? bytes with
  | some t => .text t
  | none => .binary bytes h

/-- The bytes of a file. -/
def bytes : Contents → List UInt8
  | .text t => Utf8.encode t
  | .binary bytes _ => bytes

/-- The text of a file, ill-formed stretches replaced. -/
def textWithReplacement : Contents → Text
  | .text t => t
  | .binary bytes _ => Utf8.decodeWithReplacement bytes

end Contents

/-- What stands at a location. -/
inductive Entry where
  /-- A directory. -/
  | directory
  /-- A file. -/
  | file (id : FileId)
  /-- A symbolic link and the path it holds. -/
  | link (target : Path)
deriving DecidableEq, Repr

/-! ## Assignments -/

/-- The value assigned to a key. -/
def valueOf? {α β : Type} [DecidableEq α] (key : α) : List (α × β) → Option β
  | [] => none
  | (k, v) :: rest => if key = k then some v else valueOf? key rest

/-- Some assignments with the value of a key set, in its place or at the end. -/
def assign {α β : Type} [DecidableEq α] (key : α) (value : β) : List (α × β) → List (α × β)
  | [] => [(key, value)]
  | (k, v) :: rest => if key = k then (k, value) :: rest else (k, v) :: assign key value rest

/-- The value of a key is what was set last; every other key keeps its value. -/
theorem valueOf?_assign {α β : Type} [DecidableEq α] (key k : α) (value : β)
    (xs : List (α × β)) :
    valueOf? k (assign key value xs) = if k = key then some value else valueOf? k xs := by
  induction xs with
  | nil => rfl
  | cons x xs ih =>
    obtain ⟨a, v⟩ := x
    unfold assign
    split
    · next h => subst h; by_cases hk : k = key <;> simp [valueOf?, hk]
    · next h =>
      by_cases hk : k = a
      · simp [valueOf?, hk, Ne.symm h]
      · simp [valueOf?, hk, ih]

/-! ## The store -/

/-- What a disk holds, and the directory that relative paths start from. The root is a
directory, and has no entry. -/
structure FileStore where
  /-- What stands at the locations that are in use. -/
  entries : List (Location × Entry) := []
  /-- The contents of the files. -/
  contents : List (FileId × Contents) := []
  /-- The directory that relative paths start from. -/
  workingDirectory : Location := []
deriving DecidableEq

namespace FileStore

/-! ## Looking up -/

/-- What stands at a location. -/
def entryAt (s : FileStore) : Location → Option Entry
  | [] => some .directory
  | name :: directory => valueOf? (name :: directory) s.entries

/-- What a file holds; a file that was never written is empty. -/
def contentsOf (s : FileStore) (id : FileId) : Contents :=
  (valueOf? id s.contents).getD (.text [])

/-- Whether a location is a directory itself, and not a link to one. -/
def isDirectoryAt (s : FileStore) (l : Location) : Bool := s.entryAt l == some .directory

/-! ## Elementary changes -/

/-- The store with an entry set. -/
def setEntry (s : FileStore) (l : Location) (e : Entry) : FileStore :=
  { s with entries := assign l e s.entries }

/-- The store with the contents of a file set. -/
def setContents (s : FileStore) (id : FileId) (c : Contents) : FileStore :=
  { s with contents := assign id c s.contents }

/-- An identity that no file has yet. -/
def freshId (s : FileStore) : FileId :=
  ⟨s.contents.foldl (fun n entry => max n (entry.1.number + 1)) 0⟩

@[simp]
theorem contentsOf_setEntry (s : FileStore) (l : Location) (e : Entry) (id : FileId) :
    (s.setEntry l e).contentsOf id = s.contentsOf id := rfl

@[simp]
theorem entryAt_setContents (s : FileStore) (id : FileId) (c : Contents) (l : Location) :
    (s.setContents id c).entryAt l = s.entryAt l := by
  cases l <;> rfl

/-- Below the root, setting an entry changes that location only. -/
theorem entryAt_setEntry (s : FileStore) (name : Name) (d : Location) (e : Entry) (l : Location) :
    (s.setEntry (name :: d) e).entryAt l = if l = name :: d then some e else s.entryAt l := by
  cases l with
  | nil => simp [entryAt]
  | cons n l => exact valueOf?_assign ..

/-- Setting the contents of a file changes that file only. -/
theorem contentsOf_setContents (s : FileStore) (id : FileId) (c : Contents) (i : FileId) :
    (s.setContents id c).contentsOf i = if i = id then c else s.contentsOf i := by
  simp only [contentsOf, setContents, valueOf?_assign]
  split <;> rfl

end FileStore

end StaticSite
