import Mathlib
import StaticSite.CommandLine.Run
import StaticSite.Proofs.Build.Account
import StaticSite.Proofs.FileStore.OneLineNames
import StaticSite.Proofs.Text.Lines

set_option relaxedAutoImplicit false
set_option autoImplicit false

/-!
# The lines that a build shows

An event is shown by one text, in which the paths of the event stand and, for a warning, the
placeholder it is about. The name of a placeholder may go over several lines, and then so does the
text of the warning. On a disk whose names are on one line nothing else does.

## Main definitions

* `StaticSite.BuildEvent.paths`, `StaticSite.BuildEvent.placeholder?` — what an event shows.

## Main results

* `StaticSite.BuildEvent.exists_line` — the text of an event.
* `StaticSite.Build.isOneLine_paths` — the paths in the events of a build are on one line.
* `StaticSite.CommandLine.shown_lines` — the events of every build, and the number of lines that
  the program shows.
-/

namespace StaticSite

open StaticSite.Action
open StaticSite.FileStore (HasOneLineNames)
open StaticSite.Text (IsOneLine)

/-! ## One event -/

namespace BuildEvent

/-- The paths that an event shows. -/
def paths : BuildEvent → List Path
  | .copied _ => []
  | .pageBuilt source output => [source, output]
  | .navResolved page _ => [page]
  | .unresolved file source _ => [file, source]

/-- The placeholder that a warning is about. -/
def placeholder? : BuildEvent → Option Text
  | .unresolved _ _ text => some text
  | _ => none

/-- A text on one line has no line feeds. -/
private lemma count_eq_zero {t : Text} (h : IsOneLine t) : t.count '\n' = 0 := by
  rw [List.count_eq_zero]
  intro hmem
  exact absurd (h _ hmem) (by decide)

/-- **The text of an event** breaks where the placeholder of a warning does, if its paths are on
one line.

**Proof sketch.** By cases on the event. Its line is made of fixed words, numbers and paths, all on
one line, and in a warning also of the placeholder, which is between texts on one line. -/
theorem exists_line {e : BuildEvent} (h : ∀ p ∈ e.paths, IsOneLine p.text) :
    ∃ line, e.lines = [line] ∧ (IsOneLine line ↔ ∀ t ∈ e.placeholder?, IsOneLine t) ∧
      line.count '\n' = e.placeholder?.elim 0 (List.count '\n') := by
  cases e with
  | copied files =>
    have hline : IsOneLine ("Copied ".toList ++ Text.ofNat files ++ " files".toList) := by
      simp only [Text.isOneLine_append]
      exact ⟨⟨by decide, Text.isOneLine_ofNat files⟩, by decide⟩
    exact ⟨_, rfl, by simpa [placeholder?] using hline, count_eq_zero hline⟩
  | pageBuilt source output =>
    have hline : IsOneLine (source.text ++ " → ".toList ++ output.text) := by
      simp only [Text.isOneLine_append]
      exact ⟨⟨h source (by simp [paths]), by decide⟩, h output (by simp [paths])⟩
    exact ⟨_, rfl, by simpa [placeholder?] using hline, count_eq_zero hline⟩
  | navResolved page links =>
    have hline :
        IsOneLine (page.text ++ [':', ' '] ++ Text.ofNat links ++ " nav links".toList) := by
      simp only [Text.isOneLine_append]
      exact ⟨⟨⟨h page (by simp [paths]), by decide⟩, Text.isOneLine_ofNat links⟩, by decide⟩
    exact ⟨_, rfl, by simpa [placeholder?] using hline, count_eq_zero hline⟩
  | unresolved file source text =>
    -- the placeholder stands between two texts on one line
    have hfront : IsOneLine "warning: unresolved macro ".toList := by decide
    have hfile : IsOneLine (" in ".toList ++ file.text) :=
      Text.isOneLine_append.2 ⟨by decide, h file (by simp [paths])⟩
    have hsource : IsOneLine (" (building ".toList ++ source.text ++ [')']) := by
      simp only [Text.isOneLine_append]
      exact ⟨⟨by decide, h source (by simp [paths])⟩, by decide⟩
    obtain ⟨back, hback, hlines⟩ : ∃ back, IsOneLine back ∧
        (unresolved file source text).lines =
          ["warning: unresolved macro ".toList ++ text ++ back] := by
      unfold lines
      by_cases halike : file.alike source = true
      · exact ⟨_, hfile, by simp only [if_pos halike, List.append_assoc]⟩
      · exact ⟨_, Text.isOneLine_append.2 ⟨hfile, hsource⟩,
          by simp only [if_neg halike, List.append_assoc]⟩
    refine ⟨_, hlines, ?_, ?_⟩
    · simp only [Text.isOneLine_append, hfront, hback, true_and, and_true]
      simp [placeholder?]
    · rw [List.count_append, List.count_append, count_eq_zero hfront, count_eq_zero hback]
      simp [placeholder?]

end BuildEvent

/-! ## The events of a build -/

namespace Build

section Passes

variable {source build : Path} {config : Config} {start afterPages : FileStore}
  {sources : List Path} {built : List BuiltPage}
  (hstart : start.HasOneLineNames) (hbuild : IsOneLine build.text)
  (found : discover start build Page.sourceExtension = .ok sources)
  (paged : Build.pages config.markdown (templateOf build) sources start = .ok built afterPages)

include hstart hbuild found paged

/-- The files have names on one line after the pages were built, and so have the pages.

**Proof sketch.** The names in the build directory are on one line, so the sources are, and their
outputs with them, which have the same name in front of another extension. The events of a page
name its source, its output and the template. -/
private lemma isOneLine_pages : afterPages.HasOneLineNames ∧
    ∀ e ∈ built.flatMap (pageEvents (templateOf build)), ∀ p ∈ e.paths, IsOneLine p.text := by
  have hsources : ∀ p ∈ sources, IsOneLine p.text := fun p hp => hstart.of_discover found hp
  refine ⟨(keeps_oneLineNames_pages hsources _ _).of_eq_ok paged hstart, fun e he p hp => ?_⟩
  obtain ⟨page, hpage, he⟩ := List.mem_flatMap.1 he
  obtain ⟨q, _, _, hq, hturn⟩ := exists_turn_of_result paged hpage
  obtain ⟨_, _, _, _, _, rfl⟩ := Page.build_eq_ok_iff.1 hturn.run
  have hsource := hsources q hq
  have hoptions : p = templateOf build ∨ p = q ∨ p = Page.outputOf q := by
    rcases List.mem_cons.1 he with rfl | he
    · right
      simpa [BuildEvent.paths] using hp
    · obtain ⟨u, -, rfl⟩ := List.mem_map.1 he
      cases horigin : u.origin <;> simp [BuildEvent.paths, horigin] at hp <;> tauto
  rcases hoptions with rfl | rfl | rfl
  · exact Path.isOneLine_child hbuild (by rw [templateName, Name.text_encode]; decide)
  · exact hsource
  · exact Page.isOneLine_outputOf hsource

end Passes

/-- The pages that take part in navigation have names on one line.

**Proof sketch.** Every report of a turn is about its page, which is one of the files found in the
build directory, and these have names on one line (`HasOneLineNames.of_discover`). -/
private lemma isOneLine_navigated {build : Path} {s t : FileStore} (hs : s.HasOneLineNames)
    {all pages : List NavPage} (listed : navPages build s = .ok all)
    (hpages : ∀ page ∈ pages, page ∈ all) {includeSelf : Bool} {generated : List Path}
    {navigated : List NavigatedPage}
    (filled : pages.mapM (fillIn includeSelf generated all) s = .ok navigated t) :
    ∀ e ∈ navigated.flatMap NavigatedPage.events, ∀ p ∈ e.paths, IsOneLine p.text := by
  intro e he p hp
  obtain ⟨done, hdone, he⟩ := List.mem_flatMap.1 he
  obtain ⟨page, _, _, hpage, hturn⟩ := exists_turn_of_result filled hdone
  obtain ⟨outcome, -, rfl⟩ := fillIn_eq_ok_iff.1 hturn.run
  have hall : IsOneLine page.path.text := by
    unfold navPages at listed
    cases hfound : discover s build Page.outputExtension with
    | error cause => simp [hfound, Except.map] at listed
    | ok found =>
      rw [hfound] at listed
      rw [← Except.ok.inj listed] at hpages
      obtain ⟨q, hq, rfl⟩ := List.mem_map.1 (hpages page hpage)
      exact hs.of_discover hfound (List.mem_of_mem_filter hq)
  obtain rfl : p = page.path := by
    simp only [NavigatedPage.events, List.mem_append, List.mem_map] at he
    rcases he with he | ⟨text, -, rfl⟩
    · split_ifs at he
      · obtain rfl := List.mem_singleton.1 he
        simpa [BuildEvent.paths] using hp
      · simp at he
    · simpa [BuildEvent.paths] using hp
  exact hall

/-- **The paths in the events of a build** are on one line, whether it succeeds or fails, if the
names of the files are.

**Proof sketch.** The copy and the page pass keep the names on one line, so at every point the
paths that are found are on one line. A build that fails has reported what its passes reported
before, up to the turn that failed. -/
theorem isOneLine_paths {s : FileStore} (hs : s.HasOneLineNames) (source build : Path)
    (config : Config) :
    ∀ e ∈ (stateAfter (buildSiteWith source build config) ⟨s, []⟩).events, ∀ p ∈ e.paths,
      IsOneLine p.text := by
  have hcopied : ∀ {k start}, checkDirectories source build s = .ok () →
      copyTree source build s = .ok k start → start.HasOneLineNames := fun hchecked hcopy =>
    have hdirectories := hs.of_checkDirectories hchecked
    (keeps_oneLineNames_copyTree hdirectories.1 hdirectories.2).of_eq_ok hcopy hs
  cases hrun : buildSiteWith source build config ⟨s, []⟩ with
  | ok summary b =>
    obtain ⟨after, events⟩ := b
    obtain ⟨r, rfl, rfl⟩ := buildSiteWith_eq_ok_iff.1 hrun
    rw [stateAfter_of_eq_ok hrun, List.nil_append]
    obtain ⟨hpages, hbuilt⟩ := isOneLine_pages (hcopied r.checked r.copy)
      (hs.of_checkDirectories r.checked).2 r.found r.paged
    intro e he
    simp only [BuildRun.events, List.cons_append, List.mem_cons, List.mem_append] at he
    rcases he with rfl | he | he
    · simp [BuildEvent.paths]
    · exact hbuilt e he
    · exact isOneLine_navigated hpages r.listed (fun _ h => h) r.filled e he
  | error cause b =>
    obtain ⟨after, events⟩ := b
    obtain ⟨reported, hfailed, rfl⟩ := buildSiteWith_eq_error_iff.1 hrun
    rw [stateAfter_of_eq_error hrun]
    cases hfailed with
    | refused | uncopied => simp
    | unaccepted | unpaged => simp [BuildEvent.paths]
    | unfilled checked copy found accepted paged listed order filled failed =>
      obtain ⟨hpages, hbuilt⟩ := isOneLine_pages (hcopied checked copy)
        (hs.of_checkDirectories checked).2 found paged
      intro e he
      simp only [List.cons_append, List.mem_cons, List.mem_append] at he
      rcases he with rfl | he | he
      · simp [BuildEvent.paths]
      · exact hbuilt e he
      · exact isOneLine_navigated hpages listed
          (fun page hpage => order ▸ List.mem_append_left _ hpage) filled e he

end Build

/-! ## The lines of the program -/

namespace CommandLine

/-- The number of lines that texts make when each is ended by a line feed. -/
private lemma length_lines_terminated (ls : List Text) (t : Text) :
    (Text.lines (terminated ls ++ t)).length =
      (ls.map fun l => l.count '\n' + 1).sum + (Text.lines t).length := by
  induction ls with
  | nil => simp [terminated]
  | cons l ls ih =>
    have hcons : terminated (l :: ls) ++ t = l ++ '\n' :: (terminated ls ++ t) := by
      simp [terminated]
    rw [hcons, Text.length_lines_append, ih, List.map_cons, List.sum_cons]
    omega

/-- Each event is shown in one line, and one more for each line feed in its placeholder.

**Proof sketch.** By induction on the events: each is one line by `exists_line`, and has a line
feed for each one in its placeholder. -/
private lemma sum_lines {events : List BuildEvent}
    (h : ∀ e ∈ events, ∀ p ∈ e.paths, IsOneLine p.text) :
    ((events.flatMap BuildEvent.lines).map fun l => l.count '\n' + 1).sum =
      events.length + ((events.filterMap BuildEvent.placeholder?).map (List.count '\n')).sum := by
  induction events with
  | nil => rfl
  | cons e events ih =>
    rw [List.forall_mem_cons] at h
    obtain ⟨line, hline, -, hcount⟩ := BuildEvent.exists_line h.1
    rw [List.flatMap_cons, hline, List.singleton_append, List.map_cons, List.sum_cons, ih h.2,
      hcount, List.length_cons]
    cases he : e.placeholder? with
    | none =>
      rw [List.filterMap_cons_none he, Option.elim_none]
      omega
    | some t =>
      rw [List.filterMap_cons_some he, Option.elim_some, List.map_cons, List.sum_cons]
      omega

/-- A warning and no other event is about a placeholder. -/
private lemma filterMap_placeholder?_filter {warnings : Bool} {events : List BuildEvent} :
    (events.filter fun e => e.isWarning == warnings).filterMap BuildEvent.placeholder? =
      if warnings then events.filterMap BuildEvent.placeholder? else [] := by
  rw [List.filterMap_filter]
  cases warnings with
  | true =>
    refine List.filterMap_congr fun e _ => ?_
    cases e <;> rfl
  | false =>
    rw [if_neg (by simp), List.filterMap_eq_nil_iff]
    intro e _
    cases e <;> rfl

/-- What the warnings or the other events make on their stream. -/
private lemma length_lines_eventText {events : List BuildEvent}
    (h : ∀ e ∈ events, ∀ p ∈ e.paths, IsOneLine p.text) (warnings : Bool) (t : Text) :
    (Text.lines (eventText warnings events ++ t)).length =
      (events.countP fun e => e.isWarning == warnings) +
        (if warnings then
          ((events.filterMap BuildEvent.placeholder?).map (List.count '\n')).sum else 0) +
        (Text.lines t).length := by
  rw [eventText, length_lines_terminated, sum_lines fun e he => h e (List.mem_of_mem_filter he),
    filterMap_placeholder?_filter, ← List.countP_eq_length_filter]
  cases warnings <;> rfl

/-- The summary is one line. -/
private lemma length_lines_summary (summary : BuildSummary) :
    (Text.lines (terminated summary.lines)).length = 1 := by
  have hline : IsOneLine ("Built ".toList ++ Text.ofNat summary.pages.length ++
      " pages, resolved nav in ".toList ++ Text.ofNat summary.navigated ++ " pages, ".toList ++
      Text.ofNat summary.warnings ++ " warnings".toList) := by
    simp only [Text.isOneLine_append, Text.isOneLine_ofNat, and_true]
    decide
  have h := length_lines_terminated summary.lines []
  rw [List.append_nil] at h
  rw [h, BuildSummary.lines, List.map_singleton, List.sum_singleton,
    BuildEvent.count_eq_zero hline]
  rfl

/-- **The lines that a build shows**, on a disk whose names are on one line. Each event of every
build, one that fails included, is shown by a single text, which breaks exactly if it is a warning
and the name of its placeholder does. A run of the program that succeeds shows one line for each
event that is no warning and one for the summary on its standard output. On its standard error
output it shows a line for each of the warnings that the summary counts, and one more for each line
feed in a placeholder that is reported: as many as the summary counts exactly if there is none.

**Proof sketch.** The paths in the events are made of names on the disk (`isOneLine_paths`), so all
that can break is the placeholder (`BuildEvent.exists_line`). The lines on a stream are counted by
their line feeds (`Text.length_lines_append`). -/
theorem shown_lines {s : FileStore} (hs : s.HasOneLineNames) (source build : Path) :
    (∀ config, ∀ e ∈ (stateAfter (buildSiteWith source build config) ⟨s, []⟩).events,
      ∃ line, e.lines = [line] ∧ (IsOneLine line ↔ ∀ t ∈ e.placeholder?, IsOneLine t)) ∧
    ∀ arguments, parse arguments = .ok (.build source build) →
      (run arguments s).1.status = 0 →
      ∃ summary after events, buildSite source build ⟨s, []⟩ = .ok summary ⟨after, events⟩ ∧
        (Text.lines (run arguments s).1.out).length =
          1 + events.countP (fun e => !e.isWarning) ∧
        (Text.lines (run arguments s).1.err).length = summary.warnings +
          ((events.filterMap BuildEvent.placeholder?).map (List.count '\n')).sum ∧
        ((Text.lines (run arguments s).1.err).length = summary.warnings ↔
          ∀ e ∈ events, ∀ t ∈ e.placeholder?, '\n' ∉ t) := by
  refine ⟨fun config e he => ?_, fun arguments hparse hstatus => ?_⟩
  · obtain ⟨line, hline, hbreaks, -⟩ :=
      BuildEvent.exists_line (Build.isOneLine_paths hs source build config e he)
    exact ⟨line, hline, hbreaks⟩
  · have hrun : run arguments s = runBuild source build s := by rw [run, hparse]
    rw [hrun] at hstatus ⊢
    unfold runBuild at hstatus ⊢
    cases hbuild : buildSite source build ⟨s, []⟩ with
    | error cause b =>
      simp only [hbuild] at hstatus
      simp [buildOutput, failure] at hstatus
    | ok summary b =>
      obtain ⟨after, events⟩ := b
      -- a build that succeeds is one with some settings
      obtain ⟨config, hconfig⟩ : ∃ config,
          buildSiteWith source build config ⟨s, []⟩ = .ok summary ⟨after, events⟩ := by
        obtain ⟨e, -, herror⟩ | ⟨config, -, hconfig⟩ := buildSite_cases source build ⟨s, []⟩
        · simp [herror] at hbuild
        · exact ⟨config, hconfig.symm.trans hbuild⟩
      have hpaths : ∀ e ∈ events, ∀ p ∈ e.paths, IsOneLine p.text := by
        have h := Build.isOneLine_paths hs source build config
        rwa [stateAfter_of_eq_ok hconfig] at h
      have hwarnings : summary.warnings = events.countP fun e => e.isWarning := by
        obtain ⟨r, rfl, rfl⟩ := buildSiteWith_eq_ok_iff.1 hconfig
        exact (Build.summary_eq_countP r).1
      have herr := length_lines_eventText hpaths true []
      simp only [beq_true, List.append_nil, if_true, Text.lines, List.length_nil, Nat.add_zero]
        at herr
      have hout := length_lines_eventText hpaths false (terminated summary.lines)
      simp only [beq_false, Bool.false_eq_true, if_false, Nat.add_zero, length_lines_summary]
        at hout
      refine ⟨summary, after, events, rfl, ?_, ?_, ?_⟩
      · exact hout.trans (Nat.add_comm _ _)
      · rw [hwarnings]
        exact herr
      · have hcount : (Text.lines (eventText true events)).length = summary.warnings ↔
            ((events.filterMap BuildEvent.placeholder?).map (List.count '\n')).sum = 0 := by
          rw [herr, hwarnings]
          omega
        refine hcount.trans ?_
        rw [List.sum_eq_zero_iff]
        simp only [List.forall_mem_map, List.mem_filterMap, List.count_eq_zero]
        constructor
        · exact fun h e he t ht => h t ⟨e, he, ht⟩
        · rintro h t ⟨e, he, ht⟩
          exact h e he t ht

/-- A placeholder with a name over two lines. -/
def brokenMacro : Text := Placeholder.written ['a', '\n', 'b']

/-- A site with a page whose only placeholder has a name over two lines, and an empty build
directory. -/
def brokenName : FileStore :=
  ((({} : FileStore).setEntry ["s".toList] .directory).setEntry ["b".toList] .directory).newFile
    ["a.html".toList, "s".toList] (.text brokenMacro)

/-- The names of the site are on one line. -/
private lemma hasOneLineNames_brokenName : brokenName.HasOneLineNames := by
  refine ((HasOneLineNames.empty.setEntry ?_ (by simp) []).setEntry ?_ (by simp) []).newFile ?_ _ _
  all_goals
    rw [Name.text_encode]
    decide

/-- The site after it was built. -/
def brokenNameBuilt : FileStore :=
  brokenName.newFile ["a.html".toList, "b".toList] (.text brokenMacro)

/-- One warning is counted, and it is shown in two lines. -/
theorem shown_lines_brokenName :
    buildSite ⟨"s".toList⟩ ⟨"b".toList⟩ ⟨brokenName, []⟩ = .ok ⟨1, [], 0, 1⟩ ⟨brokenNameBuilt,
        [.copied 1, .unresolved ⟨"b/a.html".toList⟩ ⟨"b/a.html".toList⟩ brokenMacro]⟩ ∧
      (run ["s".toList, "b".toList] brokenName).1.err =
        "warning: unresolved macro ".toList ++ brokenMacro ++ " in b/a.html\n".toList ∧
      (Text.lines (run ["s".toList, "b".toList] brokenName).1.err).length = 1 + 1 := by
  have hparse : parse ["s".toList, "b".toList] =
      .ok (.build ⟨"s".toList⟩ ⟨"b".toList⟩) := by
    cbv
  have hchecked : Build.checkDirectories ⟨"s".toList⟩ ⟨"b".toList⟩ brokenName = .ok () := by cbv
  have hnone : brokenName.isFile ((⟨"s".toList⟩ : Path).child Config.fileName) = false := by cbv
  have hload : Config.load brokenName ⟨"s".toList⟩ = .ok {} := by
    simp only [Config.load, hnone, Bool.false_eq_true, if_false]
  have hwith : buildSiteWith ⟨"s".toList⟩ ⟨"b".toList⟩ {} ⟨brokenName, []⟩ =
      .ok ⟨1, [], 0, 1⟩ ⟨brokenNameBuilt, [.copied 1,
        .unresolved ⟨"b/a.html".toList⟩ ⟨"b/a.html".toList⟩ brokenMacro]⟩ := by
    cbv
  have hbuild := (buildSite_of_load (b := ⟨brokenName, []⟩) hchecked hload).trans hwith
  have hrun : (run ["s".toList, "b".toList] brokenName).1 =
      buildOutput (.ok ⟨1, [], 0, 1⟩) [.copied 1,
        .unresolved ⟨"b/a.html".toList⟩ ⟨"b/a.html".toList⟩ brokenMacro] := by
    simp only [run, hparse, runBuild, hbuild]
  obtain ⟨summary, after, events, hbuild', -, hlines, -⟩ :=
    (shown_lines hasOneLineNames_brokenName ⟨"s".toList⟩ ⟨"b".toList⟩).2 _ hparse
      (by rw [hrun]; rfl)
  obtain ⟨rfl, hstate⟩ := EStateM.Result.ok.inj (hbuild.symm.trans hbuild')
  obtain ⟨-, rfl⟩ := BuildState.mk.inj hstate
  exact ⟨hbuild, by rw [hrun]; cbv, hlines⟩

end CommandLine

end StaticSite
