import Mathlib
import StaticSite.Build.Site
import StaticSite.Proofs.Action

set_option relaxedAutoImplicit false
set_option autoImplicit false

/-!
# Successful builds

A build that succeeds has gone through all its passes. The structure here names what each of them
was given and what it left, so that facts on whole builds can be put together from facts on the
passes.

## Main definitions

* `StaticSite.Build.fillIn` — the turn of a page in the navigation pass, as far as the files go.
* `StaticSite.BuildRun` — a successful build, pass by pass.

## Main results

* `StaticSite.buildSiteWith_eq_ok_iff` — a build succeeds exactly if it has such a run.
-/

namespace StaticSite

open StaticSite.Action

namespace Build

/-! ## The parts of a build -/

section Parts

variable {ε α : Type}

/-- A part of a build that works on the files succeeds exactly if its action does. -/
lemma onStore_eq_ok_iff {wrap : ε → BuildError} {x : FileAction ε α} {b b' : BuildState} {a : α} :
    onStore wrap x b = .ok a b' ↔ ∃ s, x b.store = .ok a s ∧ b' = { b with store := s } := by
  unfold onStore
  cases h : x b.store with
  | ok a' s => simp [eq_comm]
  | error e s => simp

/-- A question is answered, or the build is over. -/
lemma ask_run (wrap : ε → BuildError) (q : FileStore → Except ε α) (b : BuildState) :
    ask wrap q b = match q b.store with
      | .ok a => .ok a b
      | .error cause => .error (wrap cause) b := by
  rw [ask, get_bind_run]
  cases q b.store <;> rfl

/-- A question is answered without a change. -/
lemma ask_eq_ok_iff {wrap : ε → BuildError} {q : FileStore → Except ε α} {b b' : BuildState}
    {a : α} : ask wrap q b = .ok a b' ↔ q b.store = .ok a ∧ b' = b := by
  rw [ask_run]
  cases q b.store <;> simp [eq_comm]

/-- What is reported comes behind what was reported before. -/
lemma report_run (events : List BuildEvent) (b : BuildState) :
    report events b = .ok () { b with events := b.events ++ events } := rfl

/-- Reporting always succeeds. -/
lemma report_eq_ok_iff {events : List BuildEvent} {b b' : BuildState} {u : Unit} :
    report events b = .ok u b' ↔ b' = { b with events := b.events ++ events } := by
  rw [report_run]
  simp [eq_comm]

/-- A part of a build that works on the files fails exactly if its action does. -/
lemma onStore_eq_error_iff {wrap : ε → BuildError} {x : FileAction ε α} {b b' : BuildState}
    {e : BuildError} : onStore wrap x b = .error e b' ↔
      ∃ cause s, x b.store = .error cause s ∧ e = wrap cause ∧ b' = { b with store := s } := by
  unfold onStore
  cases h : x b.store with
  | ok a s => simp
  | error cause s => simp [eq_comm]

/-- A question without an answer ends the build without a change. -/
lemma ask_eq_error_iff {wrap : ε → BuildError} {q : FileStore → Except ε α} {b b' : BuildState}
    {e : BuildError} :
    ask wrap q b = .error e b' ↔ ∃ cause, q b.store = .error cause ∧ e = wrap cause ∧ b' = b := by
  rw [ask_run]
  cases q b.store <;> simp [eq_comm]

/-- Reporting does not fail. -/
lemma report_ne_error {events : List BuildEvent} {b b' : BuildState} {e : BuildError} :
    report events b ≠ .error e b' :=
  nofun

end Parts

/-- The turn of a page in the navigation pass, as far as the files go. -/
def fillIn (includeSelf : Bool) (generated : List Path) (all : List NavPage) (page : NavPage) :
    FileAction NavError NavigatedPage := do
  let outcome ← Navigation.resolve page.path (NavPage.others all page includeSelf)
  return ⟨page.path, generated.any page.path.alike, outcome⟩

/-- A turn in the navigation pass changes the files and reports what became of the page. -/
private lemma navigateOne_eq_ok_iff {includeSelf : Bool} {generated : List Path}
    {all : List NavPage} {page : NavPage} {b b' : BuildState} {done : NavigatedPage} :
    navigateOne includeSelf generated all page b = .ok done b' ↔
      ∃ t, fillIn includeSelf generated all page b.store = .ok done t ∧
        b' = ⟨t, b.events ++ done.events⟩ := by
  unfold navigateOne fillIn
  simp only [bind_eq_ok_iff, onStore_eq_ok_iff, report_eq_ok_iff, pure_eq_ok_iff]
  constructor
  · rintro ⟨outcome, b₁, ⟨t, hrun, rfl⟩, u, b₂, rfl, rfl, rfl⟩
    exact ⟨t, ⟨outcome, t, hrun, rfl, rfl⟩, rfl⟩
  · rintro ⟨t, ⟨outcome, t', hrun, rfl, rfl⟩, rfl⟩
    exact ⟨outcome, _, ⟨t', hrun, rfl⟩, (), _, rfl, rfl, rfl⟩

/-- The navigation pass changes the files page by page and reports what became of each.

**Proof sketch.** By induction on the pages, where a turn changes the files by the pure pass and
appends its reports (`navigateOne_eq_ok_iff`). -/
private lemma navigate_eq_ok_iff {includeSelf : Bool} {generated : List Path}
    {all pages : List NavPage} {b b' : BuildState} {navigated : List NavigatedPage} :
    pages.mapM (navigateOne includeSelf generated all) b = .ok navigated b' ↔
      ∃ t, pages.mapM (fillIn includeSelf generated all) b.store = .ok navigated t ∧
        b' = ⟨t, b.events ++ navigated.flatMap NavigatedPage.events⟩ := by
  induction pages generalizing b navigated with
  | nil =>
    simp only [mapM_nil_eq_ok_iff]
    constructor
    · rintro ⟨rfl, rfl⟩
      exact ⟨b.store, ⟨rfl, rfl⟩, by simp⟩
    · rintro ⟨t, ⟨rfl, rfl⟩, rfl⟩
      exact ⟨rfl, by simp⟩
  | cons page pages ih =>
    simp only [mapM_cons_eq_ok_iff, navigateOne_eq_ok_iff]
    constructor
    · rintro ⟨done, b₁, rest, ⟨t, hrun, rfl⟩, hrest, rfl⟩
      obtain ⟨t', hfill, rfl⟩ := ih.1 hrest
      exact ⟨t', ⟨done, t, rest, hrun, hfill, rfl⟩, by simp⟩
    · rintro ⟨t', ⟨done, t, rest, hrun, hrest, rfl⟩, rfl⟩
      exact ⟨done, _, rest, ⟨t, hrun, rfl⟩, ih.2 ⟨t', hrest, by simp⟩, rfl⟩

/-- A turn in the navigation pass fails exactly if the files cannot be changed, and then nothing is
reported. -/
private lemma navigateOne_eq_error_iff {includeSelf : Bool} {generated : List Path}
    {all : List NavPage} {page : NavPage} {b b' : BuildState} {e : BuildError} :
    navigateOne includeSelf generated all page b = .error e b' ↔
      ∃ cause t, fillIn includeSelf generated all page b.store = .error cause t ∧
        e = .nav cause ∧ b' = { b with store := t } := by
  unfold navigateOne fillIn
  simp only [bind_eq_error_iff, onStore_eq_error_iff, report_ne_error, pure_ne_error, and_false,
    exists_false, or_false]

/-- The navigation pass fails exactly at the first page that it cannot change, and has reported
what became of those in front of it. -/
lemma navigate_eq_error_iff {includeSelf : Bool} {generated : List Path} {all pages : List NavPage}
    {b b' : BuildState} {e : BuildError} :
    pages.mapM (navigateOne includeSelf generated all) b = .error e b' ↔
      ∃ front page back navigated r cause t, pages = front ++ page :: back ∧
        front.mapM (fillIn includeSelf generated all) b.store = .ok navigated r ∧
        fillIn includeSelf generated all page r = .error cause t ∧ e = .nav cause ∧
        b' = ⟨t, b.events ++ navigated.flatMap NavigatedPage.events⟩ := by
  rw [mapM_eq_error_iff]
  constructor
  · rintro ⟨front, page, back, navigated, _, rfl, hfront, hpage⟩
    obtain ⟨r, hfill, rfl⟩ := navigate_eq_ok_iff.1 hfront
    obtain ⟨cause, t, hfail, rfl, rfl⟩ := navigateOne_eq_error_iff.1 hpage
    exact ⟨front, page, back, navigated, r, cause, t, rfl, hfill, hfail, rfl, rfl⟩
  · rintro ⟨front, page, back, navigated, r, cause, t, rfl, hfill, hfail, rfl, rfl⟩
    exact ⟨front, page, back, navigated, _, rfl, navigate_eq_ok_iff.2 ⟨r, hfill, rfl⟩,
      navigateOne_eq_error_iff.2 ⟨cause, t, hfail, rfl, rfl⟩⟩

end Build

open Build

/-! ## Runs -/

/-- A successful build from one store to another, pass by pass. -/
structure BuildRun (source build : Path) (config : Config) (s after : FileStore) where
  /-- The directories can be used. -/
  checked : checkDirectories source build s = .ok ()
  /-- The number of files copied. -/
  copied : Nat
  /-- The files after the source tree was copied. -/
  afterCopy : FileStore
  /-- The source tree is copied. -/
  copy : copyTree source build s = .ok copied afterCopy
  /-- The Markdown files of the build directory. -/
  sources : List Path
  /-- The Markdown files are found. -/
  found : discover afterCopy build Page.sourceExtension = .ok sources
  /-- The template can be used. -/
  accepted : checkTemplate (templateOf build) sources afterCopy = .ok ()
  /-- The pages that are built. -/
  built : List BuiltPage
  /-- The files after the pages were built. -/
  afterPages : FileStore
  /-- The pages are built. -/
  paged : Build.pages config.markdown (templateOf build) sources afterCopy = .ok built afterPages
  /-- The pages that take part in navigation. -/
  all : List NavPage
  /-- The pages that take part in navigation are found. -/
  listed : navPages build afterPages = .ok all
  /-- What becomes of the pages in the navigation pass. -/
  navigated : List NavigatedPage
  /-- The navigation lists are filled in. -/
  filled : all.mapM (fillIn config.nav.includeSelf (built.map BuiltPage.output) all) afterPages =
    .ok navigated after

namespace BuildRun

variable {source build : Path} {config : Config} {s after : FileStore}

/-- What a build did. -/
def summary (r : BuildRun source build config s after) : BuildSummary :=
  Build.summary r.copied r.built r.navigated

/-- What a build reports. -/
def events (r : BuildRun source build config s after) : List BuildEvent :=
  .copied r.copied :: r.built.flatMap (pageEvents (templateOf build)) ++
    r.navigated.flatMap NavigatedPage.events

/-- A build has one run. -/
instance : Subsingleton (BuildRun source build config s after) where
  allEq r r' := by
    obtain ⟨_, copied, afterCopy, copy, sources, found, _, built, afterPages, paged, all, listed,
      navigated, filled⟩ := r
    obtain ⟨_, copied', afterCopy', copy', sources', found', _, built', afterPages', paged', all',
      listed', navigated', filled'⟩ := r'
    obtain ⟨rfl, rfl⟩ : copied = copied' ∧ afterCopy = afterCopy' := by
      simpa using copy.symm.trans copy'
    obtain rfl := Except.ok.inj (found.symm.trans found')
    obtain ⟨rfl, rfl⟩ : built = built' ∧ afterPages = afterPages' := by
      simpa using paged.symm.trans paged'
    obtain rfl := Except.ok.inj (listed.symm.trans listed')
    obtain rfl : navigated = navigated' := by simpa using filled.symm.trans filled'
    rfl

end BuildRun

/-- **A build succeeds exactly if it goes through all its passes.**

**Proof sketch.** The build is a chain of passes, each of which works on the store, asks it or
reports. From left to right the chain is taken apart at each link, and the results of the passes
are the run; from right to left they are put together again. -/
theorem buildSiteWith_eq_ok_iff {source build : Path} {config : Config} {s after : FileStore}
    {events events' : List BuildEvent} {summary : BuildSummary} :
    buildSiteWith source build config ⟨s, events⟩ = .ok summary ⟨after, events'⟩ ↔
      ∃ r : BuildRun source build config s after,
        summary = r.summary ∧ events' = events ++ r.events := by
  unfold buildSiteWith Build.navigate
  simp only [bind_eq_ok_iff, onStore_eq_ok_iff, ask_eq_ok_iff, report_eq_ok_iff, pure_eq_ok_iff,
    navigate_eq_ok_iff]
  constructor
  · rintro ⟨_, _, ⟨hchecked, rfl⟩, copied, _, ⟨afterCopy, hcopy, rfl⟩, _, _, rfl, sources, _,
      ⟨hfound, rfl⟩, _, _, ⟨haccepted, rfl⟩, built, _, ⟨afterPages, hpaged, rfl⟩, _, _, rfl,
      all, _, ⟨hlisted, rfl⟩, navigated, _, ⟨after', hfilled, rfl⟩, rfl, h⟩
    obtain ⟨rfl, rfl⟩ := BuildState.mk.inj h
    exact ⟨⟨hchecked, copied, afterCopy, hcopy, sources, hfound, haccepted, built, afterPages,
      hpaged, all, hlisted, navigated, hfilled⟩, rfl, by simp [BuildRun.events]⟩
  · rintro ⟨r, rfl, rfl⟩
    refine ⟨(), _, ⟨r.checked, rfl⟩, r.copied, _, ⟨r.afterCopy, r.copy, rfl⟩, (), _, rfl,
      r.sources, _, ⟨r.found, rfl⟩, (), _, ⟨r.accepted, rfl⟩, r.built, _,
      ⟨r.afterPages, r.paged, rfl⟩, (), _, rfl, r.all, _, ⟨r.listed, rfl⟩, r.navigated, _,
      ⟨_, r.filled, rfl⟩, rfl, ?_⟩
    simp [BuildRun.events]

end StaticSite
