import StaticSite.Build.Site
import StaticSite.CommandLine.Help

set_option relaxedAutoImplicit false
set_option autoImplicit false

/-!
# Running the program

## Main definitions

* `StaticSite.CommandLine.Output` — what a run of the program shows.
* `StaticSite.CommandLine.run` — a run of the program on some files.
-/

namespace StaticSite.CommandLine

/-- What a run of the program shows. -/
structure Output where
  /-- The exit status. -/
  status : Nat
  /-- The text on the standard output. -/
  out : Text
  /-- The text on the standard error output. -/
  err : Text
deriving DecidableEq, Repr

/-- The exit status of a run that failed. -/
def failure : Nat := 255

/-- Lines, each with a line feed at its end. -/
def terminated (ls : List Text) : Text := ls.flatMap fun l => l ++ ['\n']

/-- The lines of the events that are warnings, or of those that are not. -/
def eventText (warnings : Bool) (events : List BuildEvent) : Text :=
  terminated ((events.filter fun e => e.isWarning == warnings).flatMap BuildEvent.lines)

/-- A message on the standard error output. -/
def complaint (message : Text) : Text := "mori: ".toList ++ message

/-- What a build shows: its steps on the standard output, and its warnings and the reason for a
failure on the standard error output. -/
def buildOutput (result : Except BuildError BuildSummary) (events : List BuildEvent) : Output :=
  match result with
  | .ok summary => ⟨0, eventText false events ++ terminated summary.lines, eventText true events⟩
  | .error e =>
    ⟨failure, eventText false events, eventText true events ++ terminated [complaint e.message]⟩

/-- A build with the files it leaves and what it shows. -/
def runBuild (source build : Path) (s : FileStore) : Output × FileStore :=
  match buildSite source build { store := s } with
  | .ok summary b => (buildOutput (.ok summary) b.events, b.store)
  | .error e b => (buildOutput (.error e) b.events, b.store)

/-- A run of the program with some arguments: what it shows, and the files it leaves. -/
def run (arguments : List Text) (s : FileStore) : Output × FileStore :=
  match parse arguments with
  | .error e => (⟨failure, [], complaint e.message⟩, s)
  | .ok .help => (⟨0, help, []⟩, s)
  | .ok .shortHelp => (⟨0, shortHelp, []⟩, s)
  | .ok .version => (⟨0, version, []⟩, s)
  | .ok (.build source build) => runBuild source build s

end StaticSite.CommandLine
