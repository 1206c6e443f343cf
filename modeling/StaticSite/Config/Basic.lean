import StaticSite.Markdown.Extensions

set_option relaxedAutoImplicit false
set_option autoImplicit false

/-!
# The configuration of a site

Every setting has a default, so a configuration names only what it changes.

## Main definitions

* `StaticSite.Config` — the settings of a site.
* `StaticSite.Config.isValid` — whether the settings make sense together.
* `StaticSite.ProcessingSettings.threads` — how many pages are built side by side.
-/

namespace StaticSite

/-- The settings of the navigation lists. -/
structure NavSettings where
  /-- Whether a page is listed in its own navigation list. -/
  includeSelf : Bool := false
deriving DecidableEq, Repr

/-- The settings of the page builds. -/
structure ProcessingSettings where
  /-- The greatest number of pages built side by side; by default the number of cores. -/
  maxProcesses : Option Nat := none
deriving DecidableEq, Repr

/-- The settings of a site. -/
structure Config where
  /-- The navigation lists. -/
  nav : NavSettings := {}
  /-- The Markdown extensions. -/
  markdown : Markdown.Extensions := {}
  /-- The page builds. -/
  processing : ProcessingSettings := {}
deriving DecidableEq, Repr

/-- A configuration is valid unless it allows no page build at all. -/
def Config.isValid (c : Config) : Bool := c.processing.maxProcesses != some 0

/-- How many pages are built side by side on a machine: as many as it has cores, or fewer if the
settings say so. No pass of a build reads this number here. It bounds how many pages can be under
way at once, so it only decides which schedules of the page pass can come about, and what is known
of a build is known for all schedules. -/
def ProcessingSettings.threads (cores : Nat) (settings : ProcessingSettings) : Nat :=
  match settings.maxProcesses with
  | none => cores
  | some n => min n cores

end StaticSite
