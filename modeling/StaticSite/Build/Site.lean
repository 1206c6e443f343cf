import StaticSite.Build.Error
import StaticSite.Build.Event

set_option relaxedAutoImplicit false
set_option autoImplicit false

/-!
# Building a site

A build runs in four steps, each of which ends before the next one starts: the directories and
the configuration are checked, the source tree is copied into the build directory, the Markdown
files at its top are made into pages, and the navigation lists of its HTML files are filled in.
Titles are read in the last step only, so they are those of finished pages. The template is known
by its identity: no path that leads to it takes part in navigation, and no page may be written
over it. The pages are built one after another here, which is one of the orders in which several
workers may take their steps.

Steps and warnings are reported in order, and those of a build that fails are kept.

## Main definitions

* `StaticSite.Build.checkDirectories` — refuses directories that no build can use.
* `StaticSite.Build.pages` — the pages of the Markdown files.
* `StaticSite.Build.navPages`, `StaticSite.Build.navigate` — the navigation pass.
* `StaticSite.buildSite`, `StaticSite.buildSiteWith` — the whole build.
-/

namespace StaticSite

/-- A build under way: the files, and what was reported so far. -/
structure BuildState where
  /-- The files. -/
  store : FileStore
  /-- What was reported, in order. -/
  events : List BuildEvent := []
deriving DecidableEq

/-- A part of a build, which may fail. -/
abbrev BuildAction (α : Type) := EStateM BuildError BuildState α

namespace Build

/-- An action on the files as a part of a build. -/
def onStore {ε α : Type} (wrap : ε → BuildError) (action : FileAction ε α) : BuildAction α :=
  fun b =>
    match action b.store with
    | .ok a s => .ok a { b with store := s }
    | .error e s => .error (wrap e) { b with store := s }

/-- A question about the files as a part of a build. -/
def ask {ε α : Type} (wrap : ε → BuildError) (question : FileStore → Except ε α) :
    BuildAction α := do
  match question (← get).store with
  | .ok a => pure a
  | .error e => throw (wrap e)

/-- Reports some events. -/
def report (events : List BuildEvent) : BuildAction Unit :=
  modify fun b => { b with events := b.events ++ events }

/-! ## Checks -/

/-- Refuses directories that no build can use. -/
def checkDirectories (source build : Path) (s : FileStore) : Except BuildError Unit :=
  if !s.isDirectory source then .error (.sourceNotADirectory source)
  else if !s.isDirectory build then .error (.buildNotADirectory build)
  else if s.sameFile source build then .error (.sameDirectory build)
  else .ok ()

/-- The name of the template in the build directory. -/
def templateName : Name := "template.html".toList

/-- The template of a build directory. -/
def templateOf (build : Path) : Path := build.child templateName

/-- Whether the page of a Markdown file would be written over the template. -/
def overwrites (s : FileStore) (template source : Path) : Bool :=
  (Page.outputOf source).alike template || s.sameFile (Page.outputOf source) template

/-- Refuses Markdown files whose pages cannot be built with the template. -/
def checkTemplate (template : Path) (sources : List Path) (s : FileStore) :
    Except BuildError Unit :=
  if sources.isEmpty then .ok ()
  else if !s.isFile template then .error (.missingTemplate template)
  else
    match sources.find? (overwrites s template) with
    | some source => .error (.templateOverwrite source)
    | none => .ok ()

/-! ## Pages -/

/-- Builds the pages of some Markdown files one after another, up to the first that fails. Several
workers may take the steps of the pages in other orders: `PagePass.run` goes through them in any
order, and `ScheduledRun` is a whole build in that order. This one is `PagePass.pageByPage`. -/
def pages (extensions : Markdown.Extensions) (template : Path) (sources : List Path) :
    FileAction PageError (List BuiltPage) :=
  sources.mapM (Page.build extensions template)

/-- What is reported about a page: that it was built, and its unknown placeholders. -/
def pageEvents (template : Path) (page : BuiltPage) : List BuildEvent :=
  .pageBuilt page.source page.output ::
    page.unresolved.map fun u =>
      .unresolved (match u.origin with | .template => template | .body => page.source)
        page.source u.text

/-! ## Navigation -/

/-- The HTML files of a build directory that take part in navigation: all but the template. -/
def navPages (build : Path) (s : FileStore) : Except ListError (List NavPage) :=
  (discover s build Page.outputExtension).map fun found =>
    (found.filter fun p => !s.sameFile p (templateOf build)).map (NavPage.of build)

/-- A page after the navigation pass. -/
structure NavigatedPage where
  /-- The page. -/
  path : Path
  /-- Whether this build made the page from a Markdown file. -/
  isGenerated : Bool
  /-- What became of it. -/
  outcome : NavOutcome
deriving DecidableEq, Repr

/-- The warnings about a page in the navigation pass: its unknown placeholders, unless they were
reported when this build made the page. -/
def NavigatedPage.warnings (p : NavigatedPage) : List Text :=
  if p.isGenerated then [] else p.outcome.unresolved

/-- What is reported about a page in the navigation pass. -/
def NavigatedPage.events (p : NavigatedPage) : List BuildEvent :=
  (if p.outcome.rewritten then [.navResolved p.path p.outcome.links] else []) ++
    p.warnings.map (.unresolved p.path p.path)

/-- Fills in the navigation list of one page. -/
def navigateOne (includeSelf : Bool) (generated : List Path) (all : List NavPage)
    (page : NavPage) : BuildAction NavigatedPage := do
  let outcome ← onStore .nav (Navigation.resolve page.path (NavPage.others all page includeSelf))
  let done : NavigatedPage := ⟨page.path, generated.any page.path.alike, outcome⟩
  report done.events
  return done

/-- Fills in the navigation lists of all pages, up to the first that fails. -/
def navigate (includeSelf : Bool) (generated : List Path) (all : List NavPage) :
    BuildAction (List NavigatedPage) :=
  all.mapM (navigateOne includeSelf generated all)

/-- What a build did. -/
def summary (copied : Nat) (built : List BuiltPage) (navigated : List NavigatedPage) :
    BuildSummary where
  copied := copied
  pages := built
  navigated := navigated.countP fun p => p.outcome.rewritten
  warnings :=
    (built.flatMap fun p => p.unresolved).length + (navigated.flatMap fun p => p.warnings).length

end Build

open Build

/-- Builds a site with given settings. -/
def buildSiteWith (source build : Path) (config : Config) : BuildAction BuildSummary := do
  ask id (checkDirectories source build)
  let copied ← onStore .copy (copyTree source build)
  report [.copied copied]
  let template := templateOf build
  let sources ← ask .list fun s => discover s build Page.sourceExtension
  ask id (checkTemplate template sources)
  let built ← onStore .page (Build.pages config.markdown template sources)
  report (built.flatMap (pageEvents template))
  let all ← ask .list (navPages build)
  let navigated ← navigate config.nav.includeSelf (built.map BuiltPage.output) all
  return summary copied built navigated

/-- Builds a site with the settings of its source directory. -/
def buildSite (source build : Path) : BuildAction BuildSummary := do
  ask id (checkDirectories source build)
  let config ← ask .config fun s => Config.load s source
  buildSiteWith source build config

end StaticSite
