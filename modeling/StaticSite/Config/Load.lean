import StaticSite.Config.Schema
import StaticSite.FileStore.Read
import StaticSite.Toml.Document
import StaticSite.Toml.Excerpt

set_option relaxedAutoImplicit false
set_option autoImplicit false

/-!
# Reading the configuration

The configuration stands in the file `mori.toml` at the top of the source directory. Without
that file every setting has its default.

## Main definitions

* `StaticSite.ConfigError` — why there is no configuration, and its message.
* `StaticSite.Config.validate` — refuses settings that make no sense.
* `StaticSite.Config.parse` — the configuration written in a text.
* `StaticSite.Config.load` — the configuration of a directory.
-/

namespace StaticSite

/-- Why there is no configuration. -/
inductive ConfigError where
  /-- The file cannot be read. -/
  | unreadable (cause : FileError)
  /-- The text is not a TOML document. -/
  | malformed
  /-- The document does not fit the schema. -/
  | misfit (document : Text) (cause : Config.Misfit)
  /-- The settings allow no page build at all. -/
  | noProcesses
deriving DecidableEq, Repr

namespace ConfigError

/-- The place of a misfit in the document, shown above its message. -/
def misfitMessage (document : Text) (cause : Config.Misfit) : Text :=
  (match cause.span with
    | some span => Toml.excerpt document span
    | none => []) ++ cause.fault.message ++ ['\n']

/-- The message about an error. -/
def message : ConfigError → Text
  | .unreadable cause => "IO error: ".toList ++ cause.message
  | .malformed => "TOML parse error: not a TOML document\n".toList
  | .misfit document cause => "TOML parse error: ".toList ++ misfitMessage document cause
  | .noProcesses =>
    "Config validation error: processing.max_processes must be at least 1".toList

end ConfigError

namespace Config

/-- Refuses settings that make no sense. -/
def validate (c : Config) : Except ConfigError Config :=
  if c.isValid then .ok c else .error .noProcesses

/-- The configuration written in a text. -/
def parse (t : Text) : Except ConfigError Config :=
  match Toml.parse? t with
  | none => .error .malformed
  | some entries =>
    match ofTable entries with
    | .error cause => .error (.misfit t cause)
    | .ok c => c.validate

/-- The name of the file with the configuration. -/
def fileName : Name := "mori.toml".toList

/-- The configuration of a directory. -/
def load (s : FileStore) (directory : Path) : Except ConfigError Config :=
  let p := directory.child fileName
  if s.isFile p then
    match s.readText p with
    | .error cause => .error (.unreadable cause)
    | .ok t => parse t
  else .ok {}

end Config

end StaticSite
