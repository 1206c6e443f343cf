import Mathlib
import StaticSite.Proofs.Build.Navigation

set_option relaxedAutoImplicit false
set_option autoImplicit false

/-!
# Failed builds

A build fails in one of its passes, and what it leaves are the files as the passes before have left
them, with what the failing pass has done so far. Which pass that is can be read off the cause of
the failure: the checks of the directories and of the settings come before the copy, and those of
the template between the copy and the first page.

## Main definitions

* `StaticSite.Build.FailedRun` — a failed build, by the pass that fails.
* `StaticSite.BuildError.isBeforeCopy`, `StaticSite.BuildError.isOfTemplate` — the causes that the
  checks find.

## Main results

* `StaticSite.buildSiteWith_eq_error_iff` — a build fails exactly if it has such a run.
* `StaticSite.Build.failed_check_leaves_last_phase` — a build that a check ends leaves the files of
  the last pass before it.
-/

namespace StaticSite

open StaticSite.Action

/-- Whether a cause is found before anything is copied. -/
def BuildError.isBeforeCopy : BuildError → Bool
  | .sourceNotADirectory _ | .buildNotADirectory _ | .sameDirectory _ | .config _ => true
  | _ => false

/-- Whether a cause is that the template cannot be used. -/
def BuildError.isOfTemplate : BuildError → Bool
  | .missingTemplate _ | .templateOverwrite _ => true
  | _ => false

/-- No cause is both. -/
private lemma BuildError.isOfTemplate_eq_false {e : BuildError} (h : e.isBeforeCopy = true) :
    e.isOfTemplate = false := by
  cases e <;> simp_all [isBeforeCopy, isOfTemplate]

namespace Build

/-! ## The checks -/

/-- Directories are refused for a cause that is found before anything is copied. -/
private lemma isBeforeCopy_of_checkDirectories {source build : Path} {s : FileStore}
    {e : BuildError} (h : checkDirectories source build s = .error e) : e.isBeforeCopy = true := by
  unfold checkDirectories at h
  split_ifs at h <;> obtain rfl := Except.error.inj h <;> rfl

/-- A refused template is missing, or a page would be written over it. -/
lemma isOfTemplate_of_checkTemplate {template : Path} {sources : List Path} {s : FileStore}
    {e : BuildError} (h : checkTemplate template sources s = .error e) : e.isOfTemplate = true := by
  unfold checkTemplate at h
  split at h
  · simp at h
  · split at h
    · obtain rfl := Except.error.inj h
      rfl
    · split at h
      · obtain rfl := Except.error.inj h
        rfl
      · simp at h

/-- A Markdown file whose page would be written over the template is found wherever it stands in the
list, unless there is no template at all. -/
private lemma checkTemplate_of_overwrites {template : Path} {sources : List Path} {s : FileStore}
    {p : Path} (hp : p ∈ sources) (hover : overwrites s template p = true) :
    ∃ q ∈ sources, overwrites s template q = true ∧ checkTemplate template sources s =
      .error (if s.isFile template then .templateOverwrite q else .missingTemplate template) := by
  have hne : sources.isEmpty = false := List.isEmpty_eq_false_iff_exists_mem.2 ⟨p, hp⟩
  unfold checkTemplate
  rw [hne]
  cases hfile : s.isFile template with
  | false => exact ⟨p, hp, hover, rfl⟩
  | true =>
    cases hfind : sources.find? (overwrites s template) with
    | none => exact absurd hover (List.find?_eq_none.1 hfind p hp)
    | some q => exact ⟨q, List.mem_of_find?_eq_some hfind, List.find?_some hfind, rfl⟩

/-! ## Failed runs -/

/-- A failed build with given settings: why it fails, the files that it leaves and what it has
reported. Listing the build directory is no cause, because it stays a directory. -/
inductive FailedRun (source build : Path) (config : Config) (s : FileStore) :
    BuildError → FileStore → List BuildEvent → Prop where
  /-- The directories cannot be used. -/
  | refused {e : BuildError} (checked : checkDirectories source build s = .error e) :
      FailedRun source build config s e s []
  /-- The source tree is not copied. -/
  | uncopied {t : FileStore} {cause : CopyError}
      (checked : checkDirectories source build s = .ok ())
      (copy : copyTree source build s = .error cause t) :
      FailedRun source build config s (.copy cause) t []
  /-- The template cannot be used. -/
  | unaccepted {k : ℕ} {start : FileStore} {sources : List Path} {e : BuildError}
      (checked : checkDirectories source build s = .ok ())
      (copy : copyTree source build s = .ok k start)
      (found : discover start build Page.sourceExtension = .ok sources)
      (accepted : checkTemplate (templateOf build) sources start = .error e) :
      FailedRun source build config s e start [.copied k]
  /-- A page is not built. -/
  | unpaged {k : ℕ} {start t : FileStore} {sources : List Path} {cause : PageError}
      (checked : checkDirectories source build s = .ok ())
      (copy : copyTree source build s = .ok k start)
      (found : discover start build Page.sourceExtension = .ok sources)
      (accepted : checkTemplate (templateOf build) sources start = .ok ())
      (paged : Build.pages config.markdown (templateOf build) sources start = .error cause t) :
      FailedRun source build config s (.page cause) t [.copied k]
  /-- A list is not filled in. -/
  | unfilled {k : ℕ} {start afterPages r t : FileStore} {sources : List Path}
      {built : List BuiltPage} {all front back : List NavPage} {page : NavPage}
      {navigated : List NavigatedPage} {cause : NavError}
      (checked : checkDirectories source build s = .ok ())
      (copy : copyTree source build s = .ok k start)
      (found : discover start build Page.sourceExtension = .ok sources)
      (accepted : checkTemplate (templateOf build) sources start = .ok ())
      (paged : Build.pages config.markdown (templateOf build) sources start =
        .ok built afterPages)
      (listed : navPages build afterPages = .ok all)
      (order : all = front ++ page :: back)
      (filled : front.mapM (fillIn config.nav.includeSelf (built.map BuiltPage.output) all)
        afterPages = .ok navigated r)
      (failed : fillIn config.nav.includeSelf (built.map BuiltPage.output) all page r =
        .error cause t) :
      FailedRun source build config s (.nav cause) t
        (.copied k :: built.flatMap (pageEvents (templateOf build)) ++
          navigated.flatMap NavigatedPage.events)

end Build

open Build

/-- **A build fails exactly if one of its passes does**, after those before it.

**Proof sketch.** From left to right the chain of passes is followed: at each link the pass fails,
which is a way for the build to fail, or it gives way to the next one with what it has done.
Looking for files does not fail, as the build directory is there from the first check on. From
right to left the passes are computed one by one up to the one that fails. -/
theorem buildSiteWith_eq_error_iff {source build : Path} {config : Config} {s t : FileStore}
    {events events' : List BuildEvent} {e : BuildError} :
    buildSiteWith source build config ⟨s, events⟩ = .error e ⟨t, events'⟩ ↔
      ∃ reported, FailedRun source build config s e t reported ∧ events' = events ++ reported := by
  constructor
  · intro h
    -- each part fails or gives way to the next one
    unfold buildSiteWith at h
    obtain hask | ⟨_, _, hask, h⟩ := bind_eq_error_iff.1 h
    · obtain ⟨cause, hchecked, rfl, hb⟩ := ask_eq_error_iff.1 hask
      obtain ⟨rfl, rfl⟩ := BuildState.mk.inj hb
      exact ⟨[], .refused hchecked, (List.append_nil _).symm⟩
    obtain ⟨hchecked, rfl⟩ := ask_eq_ok_iff.1 hask
    obtain ⟨l, hl⟩ := node_of_checkDirectories hchecked
    obtain hrun | ⟨k, _, hrun, h⟩ := bind_eq_error_iff.1 h
    · obtain ⟨cause, u, hcopy, rfl, hb⟩ := onStore_eq_error_iff.1 hrun
      obtain ⟨rfl, rfl⟩ := BuildState.mk.inj hb
      exact ⟨[], .uncopied hchecked hcopy, (List.append_nil _).symm⟩
    obtain ⟨start, hcopy, rfl⟩ := onStore_eq_ok_iff.1 hrun
    have hstart : start.node build = .ok (.directory l) :=
      (grows_of_copyTree hcopy).node hl
    obtain hreport | ⟨_, _, hreport, h⟩ := bind_eq_error_iff.1 h
    · exact absurd hreport report_ne_error
    obtain rfl := report_eq_ok_iff.1 hreport
    obtain hask | ⟨sources, _, hask, h⟩ := bind_eq_error_iff.1 h
    · obtain ⟨cause, hfound, -, -⟩ := ask_eq_error_iff.1 hask
      simp [discover_of_node hstart] at hfound
    obtain ⟨hfound, rfl⟩ := ask_eq_ok_iff.1 hask
    obtain hask | ⟨_, _, hask, h⟩ := bind_eq_error_iff.1 h
    · obtain ⟨cause, haccepted, rfl, hb⟩ := ask_eq_error_iff.1 hask
      obtain ⟨rfl, rfl⟩ := BuildState.mk.inj hb
      exact ⟨_, .unaccepted hchecked hcopy hfound haccepted, rfl⟩
    obtain ⟨haccepted, rfl⟩ := ask_eq_ok_iff.1 hask
    obtain hrun | ⟨built, _, hrun, h⟩ := bind_eq_error_iff.1 h
    · obtain ⟨cause, u, hpaged, rfl, hb⟩ := onStore_eq_error_iff.1 hrun
      obtain ⟨rfl, rfl⟩ := BuildState.mk.inj hb
      exact ⟨_, .unpaged hchecked hcopy hfound haccepted hpaged, rfl⟩
    obtain ⟨afterPages, hpaged, rfl⟩ := onStore_eq_ok_iff.1 hrun
    have hpages : afterPages.node build = .ok (.directory l) :=
      (rewrites_of_pages hpaged).grows.node hstart
    obtain hreport | ⟨_, _, hreport, h⟩ := bind_eq_error_iff.1 h
    · exact absurd hreport report_ne_error
    obtain rfl := report_eq_ok_iff.1 hreport
    obtain hask | ⟨all, _, hask, h⟩ := bind_eq_error_iff.1 h
    · obtain ⟨cause, hlisted, -, -⟩ := ask_eq_error_iff.1 hask
      simp [navPages_of_node hpages] at hlisted
    obtain ⟨hlisted, rfl⟩ := ask_eq_ok_iff.1 hask
    obtain hrun | ⟨navigated, _, -, h⟩ := bind_eq_error_iff.1 h
    · obtain ⟨front, page, back, navigated, r, cause, u, horder, hfilled, hfailed, rfl, hb⟩ :=
        navigate_eq_error_iff.1 hrun
      obtain ⟨rfl, rfl⟩ := BuildState.mk.inj hb
      exact ⟨_, .unfilled hchecked hcopy hfound haccepted hpaged hlisted horder hfilled hfailed,
        by simp⟩
    · exact absurd h pure_ne_error
  · rintro ⟨reported, hrun, rfl⟩
    cases hrun with
    | refused checked => simp [buildSiteWith, bind_run, ask_run, checked]
    | uncopied checked copy => simp [buildSiteWith, bind_run, ask_run, onStore, checked, copy]
    | unaccepted checked copy found accepted =>
      simp [buildSiteWith, bind_run, ask_run, onStore, report_run, checked, copy, found, accepted]
    | unpaged checked copy found accepted paged =>
      simp [buildSiteWith, bind_run, ask_run, onStore, report_run, checked, copy, found, accepted,
        paged]
    | @unfilled k start afterPages r t sources built all front back page navigated cause checked
        copy found accepted paged listed order filled failed =>
      have hnav : navigate config.nav.includeSelf (built.map BuiltPage.output) all ⟨afterPages,
          events ++ [.copied k] ++ built.flatMap (pageEvents (templateOf build))⟩ = _ :=
        navigate_eq_error_iff.2 ⟨front, page, back, navigated, r, cause, t, order, filled, failed,
          rfl, rfl⟩
      simp only [buildSiteWith, bind_run, ask_run, onStore, report_run, checked, copy, found,
        accepted, paged, listed, hnav]
      simp

/-- A build with the settings of its source directory is a build with some settings, unless it is
over before and changes nothing. -/
lemma buildSite_cases (source build : Path) (b : BuildState) :
    (∃ e, e.isBeforeCopy = true ∧ buildSite source build b = .error e b) ∨
      ∃ config, Config.load b.store source = .ok config ∧
        buildSite source build b = buildSiteWith source build config b := by
  unfold buildSite
  rw [bind_run, ask_run]
  cases hchecked : checkDirectories source build b.store with
  | error e => exact .inl ⟨e, isBeforeCopy_of_checkDirectories hchecked, rfl⟩
  | ok u =>
    dsimp only
    rw [bind_run, ask_run]
    cases Config.load b.store source with
    | error cause => exact .inl ⟨.config cause, rfl, rfl⟩
    | ok config => exact .inr ⟨config, rfl, rfl⟩

/-- A build whose checks succeed goes on with the settings of its source directory. -/
lemma buildSite_of_load {source build : Path} {config : Config} {b : BuildState}
    (hchecked : checkDirectories source build b.store = .ok ())
    (hload : Config.load b.store source = .ok config) :
    buildSite source build b = buildSiteWith source build config b := by
  unfold buildSite
  rw [bind_run, ask_run, hchecked]
  dsimp only
  rw [bind_run, ask_run, hload]

namespace Build

/-! ## What a failed check leaves -/

/-- **A build that a check ends leaves the files of the last pass before it.** The checks of the
directories and of the settings leave the files as they were, and nothing is reported. The checks of
the template leave what the copy alone leaves, and the copy is all that is reported. They find every
Markdown file whose page would be written over the template, wherever it stands in the list and
whatever the path that leads to the template.

**Proof sketch.** The ways for a build to fail are known (`buildSiteWith_eq_error_iff`), and the
cause tells them apart: only checks of the directories and of the settings come before the copy,
and only those of the template right after it. A source whose page overwrites the template makes
this check fail at the first source of that kind (`checkTemplate_of_overwrites`). -/
theorem failed_check_leaves_last_phase (source build : Path) (s : FileStore) :
    (∀ e t events, buildSite source build ⟨s, []⟩ = .error e ⟨t, events⟩ →
      (e.isBeforeCopy = true → t = s ∧ events = []) ∧
      (e.isOfTemplate = true → ∃ k, copyTree source build s = .ok k t ∧ events = [.copied k])) ∧
    ∀ config k start sources p, checkDirectories source build s = .ok () →
      Config.load s source = .ok config → copyTree source build s = .ok k start →
      discover start build Page.sourceExtension = .ok sources → p ∈ sources →
      overwrites start (templateOf build) p = true →
      ∃ q ∈ sources, overwrites start (templateOf build) q = true ∧
        buildSite source build ⟨s, []⟩ =
          .error (if start.isFile (templateOf build) then .templateOverwrite q
            else .missingTemplate (templateOf build)) ⟨start, [.copied k]⟩ := by
  constructor
  · intro e t events h
    obtain ⟨e', hbefore, hrun⟩ | ⟨config, -, hrun⟩ := buildSite_cases source build ⟨s, []⟩
    · obtain ⟨rfl, hb⟩ := EStateM.Result.error.inj (h.symm.trans hrun)
      obtain ⟨rfl, rfl⟩ := BuildState.mk.inj hb
      exact ⟨fun _ => ⟨rfl, rfl⟩, by simp [BuildError.isOfTemplate_eq_false hbefore]⟩
    · obtain ⟨reported, hfailed, rfl⟩ := buildSiteWith_eq_error_iff.1 (hrun.symm.trans h)
      cases hfailed with
      | refused checked =>
        have hbefore := isBeforeCopy_of_checkDirectories checked
        exact ⟨fun _ => ⟨rfl, rfl⟩, by simp [BuildError.isOfTemplate_eq_false hbefore]⟩
      | uncopied => exact ⟨nofun, nofun⟩
      | unaccepted checked copy found accepted =>
        refine ⟨fun hbefore => ?_, fun _ => ⟨_, copy, rfl⟩⟩
        have hof := isOfTemplate_of_checkTemplate accepted
        simp [BuildError.isOfTemplate_eq_false hbefore] at hof
      | unpaged => exact ⟨nofun, nofun⟩
      | unfilled => exact ⟨nofun, nofun⟩
  · intro config k start sources p hchecked hload hcopy hfound hp hover
    obtain ⟨q, hq, hover', haccepted⟩ := checkTemplate_of_overwrites hp hover
    refine ⟨q, hq, hover', (buildSite_of_load hchecked hload).trans ?_⟩
    exact buildSiteWith_eq_error_iff.2 ⟨_, .unaccepted hchecked hcopy hfound haccepted, rfl⟩

/-- Two Markdown files to be copied, and a build directory in which the output of one of them is a
second name of the template. -/
def aliasedOutput : FileStore :=
  (((((({} : FileStore).setEntry ["s".toList] .directory).setEntry ["b".toList] .directory).newFile
    ["a.md".toList, "s".toList] (.text "1".toList)).newFile ["t.md".toList, "s".toList]
    (.text "2".toList)).newFile ["template.html".toList, "b".toList] (.text "{{CONTENT}}".toList))
    |>.setEntry ["t.html".toList, "b".toList] (.file ⟨2⟩)

/-- The files after the copy. -/
def aliasedOutputCopied : FileStore :=
  (aliasedOutput.newFile ["a.md".toList, "b".toList] (.text "1".toList)).newFile
    ["t.md".toList, "b".toList] (.text "2".toList)

/-- The Markdown files are copied, and no page is written, not even that of the first one. -/
theorem failed_check_leaves_last_phase_aliasedOutput :
    buildSite ⟨"s".toList⟩ ⟨"b".toList⟩ ⟨aliasedOutput, []⟩ =
      .error (.templateOverwrite ⟨"b/t.md".toList⟩) ⟨aliasedOutputCopied, [.copied 2]⟩ := by
  have hchecked : checkDirectories ⟨"s".toList⟩ ⟨"b".toList⟩ aliasedOutput = .ok () := by cbv
  have hnone : aliasedOutput.isFile ((⟨"s".toList⟩ : Path).child Config.fileName) = false := by cbv
  have hload : Config.load aliasedOutput ⟨"s".toList⟩ = .ok {} := by
    simp only [Config.load, hnone, Bool.false_eq_true, if_false]
  have hcopy : copyTree ⟨"s".toList⟩ ⟨"b".toList⟩ aliasedOutput = .ok 2 aliasedOutputCopied := by
    cbv
  have hfound : discover aliasedOutputCopied ⟨"b".toList⟩ Page.sourceExtension =
      .ok [⟨"b/a.md".toList⟩, ⟨"b/t.md".toList⟩] := by cbv
  have hfirst :
      overwrites aliasedOutputCopied (templateOf ⟨"b".toList⟩) ⟨"b/a.md".toList⟩ = false := by
    cbv
  have hsecond :
      overwrites aliasedOutputCopied (templateOf ⟨"b".toList⟩) ⟨"b/t.md".toList⟩ = true := by
    cbv
  have hfile : aliasedOutputCopied.isFile (templateOf ⟨"b".toList⟩) = true := by cbv
  obtain ⟨q, hq, hover, hrun⟩ := (failed_check_leaves_last_phase ⟨"s".toList⟩ ⟨"b".toList⟩
    aliasedOutput).2 _ _ _ _ _ hchecked hload hcopy hfound
      (List.mem_cons_of_mem _ List.mem_cons_self) hsecond
  rw [hfile, if_pos rfl] at hrun
  rcases List.mem_cons.1 hq with rfl | hq
  · rw [hfirst] at hover
    simp at hover
  · rwa [List.mem_singleton.1 hq] at hrun

end Build

end StaticSite
