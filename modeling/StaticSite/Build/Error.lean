import StaticSite.Build.CopyTree
import StaticSite.Build.Discover
import StaticSite.Config.Load
import StaticSite.Navigation.Resolve
import StaticSite.Page.Build

set_option relaxedAutoImplicit false
set_option autoImplicit false

/-!
# Why a build fails

## Main definitions

* `StaticSite.BuildError` — the causes.
* `StaticSite.BuildError.message` — their wording.
-/

namespace StaticSite

/-- Why a build failed. -/
inductive BuildError where
  /-- The source is no directory. -/
  | sourceNotADirectory (path : Path)
  /-- The build directory is no directory. -/
  | buildNotADirectory (path : Path)
  /-- Source and build directory are the same. -/
  | sameDirectory (path : Path)
  /-- There is no template for the pages. -/
  | missingTemplate (path : Path)
  /-- A page would be written over the template. -/
  | templateOverwrite (path : Path)
  /-- The source tree could not be copied. -/
  | copy (cause : CopyError)
  /-- The build directory could not be listed. -/
  | list (cause : ListError)
  /-- There is no configuration. -/
  | config (cause : ConfigError)
  /-- A page was not built. -/
  | page (cause : PageError)
  /-- A navigation list was not filled in. -/
  | nav (cause : NavError)
deriving DecidableEq, Repr

/-- The message about a tree that was not copied. -/
def CopyError.message : CopyError → Text
  | .walk cause => "cannot walk source tree: ".toList ++ cause.message
  | .entry source target cause =>
    "cannot copy ".toList ++ source.text ++ " to ".toList ++ target.text ++ [':', ' '] ++
      cause.message

/-- The message about a directory that was not listed. -/
def ListError.message (e : ListError) : Text :=
  "cannot list ".toList ++ e.path.text ++ [':', ' '] ++ e.cause.message

/-- A path between quotes. -/
def Path.quoted (p : Path) : Text := '"' :: p.text ++ ['"']

/-- The message about a build that failed. -/
def BuildError.message : BuildError → Text
  | .sourceNotADirectory p => "source directory ".toList ++ p.quoted ++ " doesn't exist".toList
  | .buildNotADirectory p => "build directory ".toList ++ p.quoted ++ " doesn't exist".toList
  | .sameDirectory p =>
    "source and build directory are the same (".toList ++ p.quoted ++ [')']
  | .missingTemplate p => "template ".toList ++ p.quoted ++ " doesn't exist".toList
  | .templateOverwrite p => p.text ++ " would overwrite the template".toList
  | .copy cause => cause.message
  | .list cause => cause.message
  | .config cause => "Config error: ".toList ++ cause.message
  | .page cause => cause.message
  | .nav cause => cause.message

end StaticSite
