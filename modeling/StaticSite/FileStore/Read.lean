import StaticSite.FileStore.Resolve

set_option relaxedAutoImplicit false
set_option autoImplicit false

/-!
# Reading from a file store

## Main definitions

* `StaticSite.FileStore.readContents`, `StaticSite.FileStore.readText` — what a file holds.
* `StaticSite.FileStore.namesIn` — the names in a directory, in ascending order.
* `StaticSite.FileStore.list` — the names in the directory that a path leads to.
* `StaticSite.FileStore.below` — everything below a location.
-/

namespace StaticSite.FileStore

/-- What the file holds that a path leads to. -/
def readContents (s : FileStore) (p : Path) : Except FileError Contents :=
  match s.node p with
  | .error e => .error e
  | .ok (.directory _) => .error .isADirectory
  | .ok (.file id) => .ok (s.contentsOf id)

/-- The text of the file that a path leads to. -/
def readText (s : FileStore) (p : Path) : Except FileError Text :=
  match s.readContents p with
  | .error e => .error e
  | .ok (.text t) => .ok t
  | .ok (.binary ..) => .error .notText

/-- The name of a location if it lies directly in a directory. -/
def nameIn? (directory : Location) : Location → Option Name
  | [] => none
  | name :: parent => if parent = directory then some name else none

/-- The names in a directory, in ascending order. -/
def namesIn (s : FileStore) (directory : Location) : List Name :=
  Name.sort (s.entries.filterMap fun entry => nameIn? directory entry.1)

/-- The names in the directory that a path leads to, in ascending order. -/
def list (s : FileStore) (p : Path) : Except FileError (List Name) :=
  match s.node p with
  | .error e => .error e
  | .ok (.file _) => .error .notADirectory
  | .ok (.directory l) => .ok (s.namesIn l)

/-- The names that lead from a location down to another, if that lies below the first. -/
def namesBelow? (base : Location) : Location → Option (List Name)
  | [] => none
  | name :: parent =>
    if parent = base then some [name]
    else (namesBelow? base parent).map fun names => names ++ [name]

/-- Everything below a location, with the names that lead there. -/
def below (s : FileStore) (base : Location) : List (List Name × Entry) :=
  s.entries.filterMap fun entry =>
    (namesBelow? base entry.1).map fun names => (names, entry.2)

end StaticSite.FileStore
