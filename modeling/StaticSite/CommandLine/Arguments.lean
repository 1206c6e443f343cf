import StaticSite.Path
import StaticSite.Text.Similarity

set_option relaxedAutoImplicit false
set_option autoImplicit false

/-!
# Command line arguments

The program takes two paths. The options for help and for the version end the reading of the
arguments; behind `--` everything is a path.

## Main definitions

* `StaticSite.CommandLine.Request` — what the arguments ask for.
* `StaticSite.CommandLine.UsageError` — what is wrong with the arguments.
* `StaticSite.CommandLine.parse` — the request that some arguments make.
-/

namespace StaticSite.CommandLine

/-- What the arguments ask for. -/
inductive Request where
  /-- The long help. -/
  | help
  /-- The short help. -/
  | shortHelp
  /-- The version. -/
  | version
  /-- A build of a source directory into a build directory. -/
  | build (source target : Path)
deriving DecidableEq, Repr

/-- Advice about an unknown option. -/
inductive Advice where
  /-- None: the argument is no option. -/
  | none
  /-- Put it behind `--` to pass it as a path. -/
  | escape
  /-- An option with a similar name exists. -/
  | similar (option : Text)
deriving DecidableEq, Repr

/-- What the call of the program is shown with in a message about its arguments. -/
structure Usage where
  /-- The options in question. -/
  options : List Text := []
  /-- Whether the two paths are shown as one choice. -/
  choice : Bool := false
deriving DecidableEq, Repr

/-- What is wrong with the arguments. -/
inductive UsageError where
  /-- An argument is one too many or an unknown option. -/
  | unexpected (argument : Text) (advice : Advice) (usage : Usage)
  /-- An option that takes no value has one. -/
  | unexpectedValue (option value : Text) (usage : Usage)
  /-- A path is empty. -/
  | emptyValue (parameter : Text)
  /-- Paths are missing. -/
  | missing (parameters : List Text)
deriving DecidableEq, Repr

/-- The names of the two paths. -/
def parameters : List Text := ["<SOURCE>".toList, "<BUILD>".toList]

/-- The options with long names, and what they ask for. -/
def longOptions : List (Text × Request) :=
  [("help".toList, .help), ("version".toList, .version)]

/-- The options of one letter, and what they ask for. -/
def shortOptions : List (Char × Request) := [('h', .shortHelp), ('V', .version)]

/-- Refuses an empty path. A path is looked at when the next argument has been recognised, so only
the last one can be empty. -/
def checkLast (paths : List Text) : Except UsageError Unit :=
  match paths.getLast?, parameters[paths.length - 1]? with
  | some [], some parameter => .error (.emptyValue parameter)
  | _, _ => .ok ()

/-- The request of a long option, given without its two dashes. Once a path has been recognised,
which takes another one behind it, messages show both paths as one choice. -/
def readLong (paths : List Text) (option : Text) : Except UsageError Request :=
  let name := option.takeWhile (· != '=')
  let dashed := '-' :: '-' :: name
  let choice := 1 < paths.length
  match longOptions.lookup name, option.dropWhile (· != '=') with
  | some _, _ :: value => .error (.unexpectedValue dashed value ⟨[dashed], choice⟩)
  | some request, [] => do checkLast paths; return request
  | none, _ =>
    match (Text.mostSimilar? name (longOptions.map Prod.fst)).map fun t => '-' :: '-' :: t with
    | some similar => .error (.unexpected dashed (.similar similar) ⟨[similar], choice⟩)
    | none => .error (.unexpected dashed .escape ⟨[], choice⟩)

/-- The request of an option of one letter. -/
def readShort (paths : List Text) (letter : Char) : Except UsageError Request :=
  match shortOptions.lookup letter with
  | some request => do checkLast paths; return request
  | none => .error (.unexpected ['-', letter] .escape {})

/-- The request for a build with the paths that were given. -/
def readPaths (paths : List Text) : Except UsageError Request := do
  checkLast paths
  match paths with
  | [source, target] => return .build ⟨source⟩ ⟨target⟩
  | _ => throw (.missing (parameters.drop paths.length))

/-- The request that some arguments make behind those that gave the paths so far; `escaped` says
whether `--` was among them. -/
def readArguments (paths : List Text) (escaped : Bool) : List Text → Except UsageError Request
  | [] => readPaths paths
  | argument :: rest =>
    let path := fun (_ : Unit) =>
      if paths.length < parameters.length then do
        checkLast paths
        readArguments (paths ++ [argument]) escaped rest
      else .error (.unexpected argument .none {})
    if escaped then path ()
    else
      match argument with
      | ['-', '-'] => readArguments paths true rest
      | '-' :: '-' :: option => readLong paths option
      | '-' :: letter :: _ => readShort paths letter
      | _ => path ()

/-- The request that the arguments make. -/
def parse (arguments : List Text) : Except UsageError Request :=
  readArguments [] false arguments

end StaticSite.CommandLine
