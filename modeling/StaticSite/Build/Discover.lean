import StaticSite.FileStore.Read

set_option relaxedAutoImplicit false
set_option autoImplicit false

/-!
# Finding the files of a site

## Main definitions

* `StaticSite.ListError` — why a directory could not be listed.
* `StaticSite.discover` — the files of a directory with a given extension.
-/

namespace StaticSite

/-- Why a directory could not be listed. -/
structure ListError where
  /-- The directory. -/
  path : Path
  /-- The cause. -/
  cause : FileError
deriving DecidableEq, Repr

/-- The files directly in a directory whose names have a given extension in any case, in the
order of their names. A link to a file counts as a file. -/
def discover (s : FileStore) (directory : Path) (extension : Name) :
    Except ListError (List Path) :=
  match s.list directory with
  | .error cause => .error ⟨directory, cause⟩
  | .ok names =>
    .ok ((names.map directory.child).filter fun p => p.hasExtension extension && s.isFile p)

end StaticSite
