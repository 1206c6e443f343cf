import StaticSite.Text.Basic

set_option relaxedAutoImplicit false
set_option autoImplicit false

/-!
# Failures of file operations

## Main definitions

* `StaticSite.FileError` — why a file operation failed.
* `StaticSite.FileError.message` — the wording of a failure.
-/

namespace StaticSite

/-- Why a file operation failed. -/
inductive FileError where
  /-- Nothing has the name. -/
  | notFound
  /-- The name is taken. -/
  | exists
  /-- A file stands where a directory is needed. -/
  | notADirectory
  /-- A directory stands where a file is needed. -/
  | isADirectory
  /-- A name or a path is longer than the system allows. -/
  | nameTooLong
  /-- Links lead to links too many times. -/
  | tooManyLinks
  /-- The bytes of a text file are not UTF-8. -/
  | notText
  /-- A path holds a byte that no name may hold. -/
  | badName
deriving DecidableEq, Repr

namespace FileError

/-- A description of a failure with the number that the system gives it. -/
def numbered (description : String) (number : Nat) : Text :=
  description.toList ++ " (os error ".toList ++ Text.ofNat number ++ [')']

/-- The wording of a failure. -/
def message : FileError → Text
  | .notFound => numbered "No such file or directory" 2
  | .exists => numbered "File exists" 17
  | .notADirectory => numbered "Not a directory" 20
  | .isADirectory => numbered "Is a directory" 21
  | .nameTooLong => numbered "File name too long" 36
  | .tooManyLinks => numbered "Too many levels of symbolic links" 40
  | .notText => "stream did not contain valid UTF-8".toList
  | .badName => "file name contained an unexpected NUL byte".toList

end FileError

end StaticSite
