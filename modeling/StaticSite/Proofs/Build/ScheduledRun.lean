import Mathlib
import StaticSite.Proofs.Build.SharedOutput

set_option relaxedAutoImplicit false
set_option autoImplicit false

/-!
# Builds with many workers

The pages of a site may be built by any number of workers, whose steps come in any order. All other
passes are as they are, and each starts when the one in front of it has ended. So a successful build
is known by the schedule of its page pass. The build that makes the pages one after another is one
of these.

## Main definitions

* `StaticSite.ScheduledRun` — a successful build whose page pass follows a schedule, pass by pass.
* `StaticSite.BuildsTo` — what such a build gives, reports and leaves.

## Main results

* `StaticSite.buildSiteWith_eq_ok_iff_buildsTo` — the build that makes the pages one after another
  is the one of that schedule.
* `StaticSite.BuildsTo.unique` — the schedule alone decides what a build does.
-/

namespace StaticSite

open StaticSite.Action
open StaticSite.Build
open StaticSite.FileStore (Grows Rewrites)
open StaticSite.PagePass (Builds pageByPage)

/-- A successful build from one store to another whose page pass takes the steps of the pages in the
order of a schedule, pass by pass. -/
structure ScheduledRun (source build : Path) (config : Config) (schedule : List Path)
    (s after : FileStore) where
  /-- The directories can be used. -/
  checked : checkDirectories source build s = .ok ()
  /-- The number of files copied. -/
  copied : Nat
  /-- The files after the source tree was copied. -/
  afterCopy : FileStore
  /-- The source tree is copied. -/
  copy : copyTree source build s = .ok copied afterCopy
  /-- The Markdown files of the build directory. -/
  sources : List Path
  /-- The Markdown files are found. -/
  found : discover afterCopy build Page.sourceExtension = .ok sources
  /-- The template can be used. -/
  accepted : checkTemplate (templateOf build) sources afterCopy = .ok ()
  /-- The pages that are built. -/
  built : List BuiltPage
  /-- The files after the pages were built. -/
  afterPages : FileStore
  /-- The pages are built by the schedule. -/
  paged : Builds config.markdown (templateOf build) sources schedule afterCopy built afterPages
  /-- The pages that take part in navigation. -/
  all : List NavPage
  /-- The pages that take part in navigation are found. -/
  listed : navPages build afterPages = .ok all
  /-- What becomes of the pages in the navigation pass. -/
  navigated : List NavigatedPage
  /-- The navigation lists are filled in. -/
  filled : all.mapM (fillIn config.nav.includeSelf (built.map BuiltPage.output) all) afterPages =
    .ok navigated after

namespace ScheduledRun

variable {source build : Path} {config : Config} {schedule : List Path} {s after : FileStore}

/-- What a build did. -/
def summary (r : ScheduledRun source build config schedule s after) : BuildSummary :=
  Build.summary r.copied r.built r.navigated

/-- What a build reports. The pages are reported in the order in which they were found, when all of
them are built. -/
def events (r : ScheduledRun source build config schedule s after) : List BuildEvent :=
  .copied r.copied :: r.built.flatMap (pageEvents (templateOf build)) ++
    r.navigated.flatMap NavigatedPage.events

variable (r : ScheduledRun source build config schedule s after)

include r

/-- Copying only adds to the files. -/
lemma grows_copy : Grows s r.afterCopy := grows_of_copyTree r.copy

/-- Building the pages writes files. -/
lemma rewrites_pages : Rewrites r.afterCopy r.afterPages := by
  rw [← r.paged.store]
  exact PagePass.rewrites_run config.markdown (templateOf build) schedule (.initial r.afterCopy)

/-- The navigation pass writes files. -/
lemma rewrites_navigation : Rewrites r.afterPages after := rewrites_of_filled r.filled

/-- A build only adds to the files. -/
lemma grows : Grows s after :=
  (r.grows_copy.trans r.rewrites_pages.grows).trans r.rewrites_navigation.grows

/-- **The pages of a build that succeeds can be written** before the first one is. -/
lemma start (hs : s.LinkFree) {l : Location} (hl : s.node build = .ok (.directory l)) :
    PagePass.Start build l r.afterCopy r.sources :=
  r.paged.start (hs.grows r.grows_copy) (r.grows_copy.node hl) r.found r.accepted

/-- Pages are under way to the end of the page pass. -/
lemma underWay : PagePass.UnderWay config.markdown r.sources r.afterCopy
    (PagePass.run config.markdown (templateOf build) schedule (.initial r.afterCopy)) :=
  PagePass.underWay_run config.markdown (templateOf build) fun _ hp => r.paged.interleaving.mem hp

end ScheduledRun

/-! ## What a build does -/

variable {source build : Path} {config : Config} {schedule : List Path} {s after : FileStore}
  {summary : BuildSummary} {events : List BuildEvent}

/-- A build that takes the steps of its pages in the order of a schedule succeeds, with this summary
and these reports, and `after` are the files that it leaves. -/
def BuildsTo (source build : Path) (config : Config) (schedule : List Path) (s : FileStore)
    (summary : BuildSummary) (events : List BuildEvent) (after : FileStore) : Prop :=
  ∃ r : ScheduledRun source build config schedule s after,
    summary = r.summary ∧ events = r.events

/-- **The schedule alone decides what a build does.** -/
theorem BuildsTo.unique {summary' : BuildSummary} {events' : List BuildEvent} {after' : FileStore}
    (h : BuildsTo source build config schedule s summary events after)
    (h' : BuildsTo source build config schedule s summary' events' after') :
    summary' = summary ∧ events' = events ∧ after' = after := by
  obtain ⟨⟨_, copied, afterCopy, copy, sources, found, _, built, afterPages, paged, all, listed,
    navigated, filled⟩, rfl, rfl⟩ := h
  obtain ⟨⟨_, copied', afterCopy', copy', sources', found', _, built', afterPages', paged', all',
    listed', navigated', filled'⟩, rfl, rfl⟩ := h'
  obtain ⟨rfl, rfl⟩ : copied = copied' ∧ afterCopy = afterCopy' := by
    simpa using copy.symm.trans copy'
  obtain rfl := Except.ok.inj (found.symm.trans found')
  obtain ⟨rfl, rfl⟩ := paged.unique paged'
  obtain rfl := Except.ok.inj (listed.symm.trans listed')
  obtain ⟨rfl, rfl⟩ : navigated = navigated' ∧ after = after' := by
    simpa using filled.symm.trans filled'
  exact ⟨rfl, rfl, rfl⟩

/-- **The build that makes the pages one after another is that of a schedule**, in which each page
takes its three steps in a row.

**Proof sketch.** All passes but the one over the pages are the same in both. For this one, the
sequence of pages is the schedule page by page (`builds_pageByPage_iff`), since the sources are
found without repetition. -/
theorem buildSiteWith_eq_ok_iff_buildsTo (hs : s.WellFormed) :
    buildSiteWith source build config ⟨s, []⟩ = .ok summary ⟨after, events⟩ ↔
      BuildsTo source build config (pageByPage (summary.pages.map BuiltPage.source)) s summary
        events after := by
  rw [buildSiteWith_eq_ok_iff]
  constructor
  · rintro ⟨r, rfl, rfl⟩
    have hpaged := r.builds hs
    rw [← r.map_source] at hpaged
    exact ⟨⟨r.checked, r.copied, r.afterCopy, r.copy, r.sources, r.found, r.accepted, r.built,
      r.afterPages, r.map_source ▸ hpaged, r.all, r.listed, r.navigated, r.filled⟩, rfl, rfl⟩
  · rintro ⟨⟨checked, copied, afterCopy, copy, sources, found, accepted, built, afterPages, paged,
      all, listed, navigated, filled⟩, hsummary, rfl⟩
    have hsources := nodup_of_discover ((grows_of_copyTree copy).wellFormed hs) found
    have hmap : summary.pages.map BuiltPage.source = sources :=
      (congrArg (fun b => b.pages.map BuiltPage.source) hsummary).trans paged.map_source
    rw [hmap, PagePass.builds_pageByPage_iff hsources] at paged
    exact ⟨⟨checked, copied, afterCopy, copy, sources, found, accepted, built, afterPages, paged,
      all, listed, navigated, filled⟩, hsummary, rfl⟩

end StaticSite
