import Mathlib
import StaticSite.Proofs.Build.Failure
import StaticSite.Proofs.Build.SharedOutput
import StaticSite.Proofs.Navigation.Place

set_option relaxedAutoImplicit false
set_option autoImplicit false

/-!
# The account of a build

What a build reports is an account of what it does: what was copied, then page by page what was
built, then page by page which lists were filled in. What is reported about a page in the navigation
pass can be read off its text at its turn. The numbers in the summary are those of the events, and a
build that fails has given the account up to the point where it fails.

## Main definitions

* `StaticSite.Build.turnEvents` — what is reported about a page in the navigation pass, by its text.
* `StaticSite.Build.account` — the account up to a page of the navigation pass.
* `StaticSite.Build.IsReadInTurn` — some texts are those of the pages at their turns.
* `StaticSite.Build.Accounts`, `StaticSite.Build.Interrupted` — the events give the account of a
  build that succeeds or fails.

## Main results

* `StaticSite.Build.exists_readInTurn` — what a stretch of the navigation pass reports.
* `StaticSite.Build.events_account` — the events of every build give its account.
-/

namespace StaticSite

open StaticSite.Action
open StaticSite.Path (IsName)

/-- Whether an event is that a list was filled in. -/
def BuildEvent.isNavResolved : BuildEvent → Bool
  | .navResolved .. => true
  | _ => false

namespace Build

/-- What is reported about a page at its turn in the navigation pass if its text is `t` then: that
its list was filled in, and the other placeholders unless the page is an output of the build. -/
def turnEvents (includeSelf : Bool) (outputs : List Path) (all : List NavPage) (page : NavPage)
    (t : Text) : List BuildEvent :=
  (if Navigation.placeholderName ∈ Placeholder.names t then
      [.navResolved page.path (NavPage.others all page includeSelf).length] else []) ++
    if page.path ∈ outputs then [] else
      ((Placeholder.names t).filter (· ≠ Navigation.placeholderName)).map fun name =>
        .unresolved page.path page.path (Placeholder.written name)

/-- The account of a build up to a page of the navigation pass, with the pages that have had their
turns and their texts then. -/
def account (build : Path) (includeSelf : Bool) (copied : ℕ) (built : List BuiltPage)
    (all : List NavPage) (visited : List (NavPage × Text)) : List BuildEvent :=
  .copied copied :: built.flatMap (pageEvents (templateOf build)) ++
    visited.flatMap fun x => turnEvents includeSelf (built.map BuiltPage.output) all x.1 x.2

/-- In the navigation pass from the files `s` on, each page has the text beside it when those in
front of it have had their turns. -/
def IsReadInTurn (includeSelf : Bool) (outputs : List Path) (all : List NavPage) (s : FileStore)
    (visited : List (NavPage × Text)) : Prop :=
  ∀ front page t back, visited = front ++ (page, t) :: back →
    ∃ done u, (front.map Prod.fst).mapM (fillIn includeSelf outputs all) s = .ok done u ∧
      u.readText page.path = .ok t

/-! ## The navigation pass -/

section Turns

variable {includeSelf : Bool} {outputs : List Path} {all : List NavPage}

/-- What is reported about a page in the navigation pass can be read off its text.

**Proof sketch.** The turn was not refused, so the page is a text and what was reported of it is
what `outcomeOf` says of the text: the list if it has a place for one, and its other placeholders
unless the page was built. -/
private lemma events_of_fillIn {page : NavPage} {s t : FileStore} {done : NavigatedPage}
    (hgenerated : outputs.any page.path.alike = true ↔ page.path ∈ outputs)
    (h : fillIn includeSelf outputs all page s = .ok done t) :
    ∃ text, s.readText page.path = .ok text ∧
      done.events = turnEvents includeSelf outputs all page text := by
  obtain ⟨outcome, hresolve, rfl⟩ := fillIn_eq_ok_iff.1 h
  rcases Navigation.resolve_cases page.path (NavPage.others all page includeSelf) s with
    ⟨e, he⟩ | ⟨id, text, list, hid, hc, hlist, hrun⟩
  · simp [he] at hresolve
  · obtain ⟨rfl, -⟩ := EStateM.Result.ok.inj (hrun.symm.trans hresolve)
    refine ⟨text, FileStore.readText_of_node hid hc, ?_⟩
    unfold NavigatedPage.events NavigatedPage.warnings turnEvents
    simp only [Navigation.outcomeOf_eq hlist, hgenerated, Navigation.hasPlace_iff]
    congr 1
    · split_ifs <;> rfl
    · split_ifs
      · rfl
      · rw [List.map_map]
        rfl

/-- **What a stretch of the navigation pass reports** can be read off the texts of the pages at
their turns.

**Proof sketch.** By induction on the pages, from the end: the last page is read in the state that
the others have left, and the others are read as before it joined them. -/
theorem exists_readInTurn {pages : List NavPage} {s t : FileStore}
    {navigated : List NavigatedPage}
    (hgenerated : ∀ page ∈ pages, outputs.any page.path.alike = true ↔ page.path ∈ outputs)
    (h : pages.mapM (fillIn includeSelf outputs all) s = .ok navigated t) :
    ∃ visited, visited.map Prod.fst = pages ∧ IsReadInTurn includeSelf outputs all s visited ∧
      navigated.flatMap NavigatedPage.events =
        visited.flatMap fun x => turnEvents includeSelf outputs all x.1 x.2 := by
  induction pages using List.reverseRecOn generalizing t navigated with
  | nil =>
    obtain ⟨rfl, -⟩ := mapM_nil_eq_ok_iff.1 h
    exact ⟨[], rfl, by simp [IsReadInTurn], rfl⟩
  | append_singleton pages page ih =>
    obtain ⟨u, zs, ws, hpages, hpage, rfl⟩ := mapM_append_eq_ok_iff.1 h
    obtain ⟨done, t', ws', hrun, hnil, rfl⟩ := mapM_cons_eq_ok_iff.1 hpage
    obtain ⟨rfl, rfl⟩ := mapM_nil_eq_ok_iff.1 hnil
    obtain ⟨visited, rfl, hread, hevents⟩ := ih (fun p hp => hgenerated p (by simp [hp])) hpages
    obtain ⟨text, htext, hdone⟩ := events_of_fillIn (hgenerated page (by simp)) hrun
    refine ⟨visited ++ [(page, text)], by simp, fun front p x back heq => ?_,
      by simp [hevents, hdone]⟩
    -- the last page, or one before it
    rcases List.eq_nil_or_concat back with rfl | ⟨back, y, rfl⟩
    · obtain ⟨rfl, hlast⟩ := List.append_inj' heq rfl
      obtain ⟨rfl, rfl⟩ := Prod.mk.inj (List.singleton_inj.1 hlast)
      exact ⟨zs, u, hpages, htext⟩
    · rw [List.concat_eq_append, ← List.cons_append, ← List.append_assoc] at heq
      exact hread front p x back (List.append_inj' heq rfl).1

end Turns

/-- Whether a page is an output of the build is asked for the path, and all pages and outputs are
paths of entries of the build directory.

**Proof sketch.** Each page and each output is the path of an entry of the build directory, with
its name at the end, and such paths are alike only if they are equal. -/
private lemma any_alike_iff {extensions : Markdown.Extensions} {build : Path} {l : Location}
    {start afterPages : FileStore} {sources : List Path} {built : List BuiltPage}
    {all : List NavPage} (hstart : start.WellFormed) (hl : start.node build = .ok (.directory l))
    (found : discover start build Page.sourceExtension = .ok sources)
    (paged : Build.pages extensions (templateOf build) sources start = .ok built afterPages)
    (listed : navPages build afterPages = .ok all) {page : NavPage} (hpage : page ∈ all) :
    (built.map BuiltPage.output).any page.path.alike = true ↔
      page.path ∈ built.map BuiltPage.output := by
  have hgrows : FileStore.Rewrites start afterPages := rewrites_of_pages paged
  have hbuild := FileStore.bytes_ne_nil_of_node hl
  rw [navPages_of_node (hgrows.grows.node hl)] at listed
  obtain rfl := Except.ok.inj listed
  obtain ⟨n, hn, rfl⟩ := List.mem_map.1 hpage
  have hname := isName_of_mem_navNames (hgrows.grows.wellFormed hstart) hn
  have houtput : ∀ q ∈ built.map BuiltPage.output,
      (build.child n).alike q = true ↔ build.child n = q := by
    intro q hq
    obtain ⟨made, hmade, rfl⟩ := List.mem_map.1 hq
    obtain ⟨p, t, u, -, hturn⟩ := exists_turn_of_result paged hmade
    obtain ⟨m, -, -, -, -, hm, -, hout, -⟩ := exists_written_of_pageTurn hturn hstart hl found
    rw [hout, Path.alike_child_iff hbuild hname hm]
    exact ⟨fun h => by rw [h], Path.child_injective hbuild hname.noSlash hm.noSlash⟩
  rw [List.any_eq_true]
  constructor
  · rintro ⟨q, hq, halike⟩
    exact ((houtput q hq).1 halike : build.child n = q) ▸ hq
  · exact fun hmem => ⟨_, hmem, (houtput _ hmem).2 rfl⟩

/-! ## The numbers in the summary -/

/-- The warnings about built pages are their unknown placeholders, and no list is filled in. -/
private lemma countP_pageEvents (template : Path) (built : List BuiltPage) :
    (built.flatMap (pageEvents template)).countP BuildEvent.isWarning =
        (built.flatMap BuiltPage.unresolved).length ∧
      (built.flatMap (pageEvents template)).countP BuildEvent.isNavResolved = 0 := by
  induction built with
  | nil => exact ⟨rfl, rfl⟩
  | cons page built ih =>
    simp only [List.flatMap_cons, List.countP_append, List.length_append, ih, pageEvents]
    constructor
    · rw [List.countP_cons_of_neg (by simp [BuildEvent.isWarning]), List.countP_map]
      exact congrArg (· + _) (List.countP_eq_length.2 fun _ _ => rfl)
    · rw [List.countP_cons_of_neg (by simp [BuildEvent.isNavResolved]), List.countP_map]
      exact List.countP_eq_zero.2 (by simp [BuildEvent.isNavResolved])

/-- What is reported in the navigation pass are the filled-in lists and the warnings.

**Proof sketch.** By induction on the pages. The reports of a turn are its list, if one was filled
in, and its warnings, none of which is a list. -/
private lemma countP_navigatedEvents (navigated : List NavigatedPage) :
    (navigated.flatMap NavigatedPage.events).countP BuildEvent.isWarning =
        (navigated.flatMap NavigatedPage.warnings).length ∧
      (navigated.flatMap NavigatedPage.events).countP BuildEvent.isNavResolved =
        navigated.countP fun done => done.outcome.rewritten := by
  induction navigated with
  | nil => exact ⟨rfl, rfl⟩
  | cons done navigated ih =>
    have hwarnings : (done.warnings.map (.unresolved done.path done.path)).countP
        BuildEvent.isWarning = done.warnings.length := by
      rw [List.countP_map]
      exact List.countP_eq_length.2 fun _ _ => rfl
    have hnone : (done.warnings.map (.unresolved done.path done.path)).countP
        BuildEvent.isNavResolved = 0 := by
      rw [List.countP_map]
      exact List.countP_eq_zero.2 (by simp [BuildEvent.isNavResolved])
    simp only [List.flatMap_cons, List.countP_append, List.countP_cons, List.length_append, ih,
      NavigatedPage.events, hwarnings, hnone]
    cases done.outcome.rewritten <;>
      simp [BuildEvent.isWarning, BuildEvent.isNavResolved, Nat.add_comm]

/-- **The numbers in the summary are those of the events.** -/
theorem summary_eq_countP {source build : Path} {config : Config} {s after : FileStore}
    (r : BuildRun source build config s after) :
    r.summary.warnings = r.events.countP BuildEvent.isWarning ∧
      r.summary.navigated = r.events.countP BuildEvent.isNavResolved := by
  unfold BuildRun.summary BuildRun.events summary
  rw [List.countP_append, List.countP_append,
    List.countP_cons_of_neg (by simp [BuildEvent.isWarning]),
    List.countP_cons_of_neg (by simp [BuildEvent.isNavResolved])]
  simp [countP_pageEvents, countP_navigatedEvents]

/-! ## Whole builds -/

/-- The files that are found in a directory come in the order of their names, each once. -/
private lemma exists_names_of_discover {s : FileStore} (hs : s.WellFormed) {directory : Path}
    {l : Location} (hl : s.node directory = .ok (.directory l)) {extension : Name}
    {found : List Path} (h : discover s directory extension = .ok found) :
    ∃ names : List Name, names.Pairwise (· < ·) ∧
      found = names.map directory.child := by
  rw [discover_of_node hl] at h
  refine ⟨_, ?_, (Except.ok.inj h).symm⟩
  exact (FileStore.pairwise_namesIn hs l).filter _

/-- The events of a successful build give its account. -/
structure Accounts {source build : Path} {config : Config} {s after : FileStore}
    (r : BuildRun source build config s after) (summary : BuildSummary)
    (events : List BuildEvent) : Prop where
  /-- The pages come in the order of the names of their Markdown files, each once. -/
  ordered : ∃ names : List Name, names.Pairwise (· < ·) ∧
    summary.pages.map BuiltPage.source = names.map build.child
  /-- The events are the account up to the last page that takes part in navigation. -/
  reported : ∃ visited, visited.map Prod.fst = r.all ∧
    IsReadInTurn config.nav.includeSelf (summary.pages.map BuiltPage.output) r.all r.afterPages
      visited ∧
    events = account build config.nav.includeSelf summary.copied summary.pages r.all visited
  /-- The number of warnings is that of the unknown placeholders that are reported. -/
  warnings : summary.warnings = events.countP BuildEvent.isWarning
  /-- The number of pages with a list is that of the lists that are reported. -/
  navigated : summary.navigated = events.countP BuildEvent.isNavResolved

/-- The events of a failed build give its account up to the failure. -/
inductive Interrupted (source build : Path) (config : Config) (s : FileStore) :
    BuildError → List BuildEvent → Prop where
  /-- Nothing is reported if the directories cannot be used or the source tree is not copied. -/
  | early {e : BuildError} (failed : checkDirectories source build s = .error e ∨
        ∃ cause t, copyTree source build s = .error cause t ∧ e = .copy cause) :
      Interrupted source build config s e []
  /-- The copy alone is reported if the template cannot be used or a page is not built. -/
  | pages {k : ℕ} {start : FileStore} {sources : List Path} {e : BuildError}
      (copy : copyTree source build s = .ok k start)
      (found : discover start build Page.sourceExtension = .ok sources)
      (failed : checkTemplate (templateOf build) sources start = .error e ∨
        ∃ cause t, Build.pages config.markdown (templateOf build) sources start = .error cause t ∧
          e = .page cause) :
      Interrupted source build config s e [.copied k]
  /-- All is reported up to the page whose list is not filled in. -/
  | navigation {k : ℕ} {start afterPages r t : FileStore} {sources : List Path}
      {built : List BuiltPage} {all back : List NavPage} {visited : List (NavPage × Text)}
      {page : NavPage} {navigated : List NavigatedPage} {cause : NavError}
      (copy : copyTree source build s = .ok k start)
      (found : discover start build Page.sourceExtension = .ok sources)
      (paged : Build.pages config.markdown (templateOf build) sources start =
        .ok built afterPages)
      (listed : navPages build afterPages = .ok all)
      (order : all = visited.map Prod.fst ++ page :: back)
      (read : IsReadInTurn config.nav.includeSelf (built.map BuiltPage.output) all afterPages
        visited)
      (filled : (visited.map Prod.fst).mapM
        (fillIn config.nav.includeSelf (built.map BuiltPage.output) all) afterPages =
          .ok navigated r)
      (failed : fillIn config.nav.includeSelf (built.map BuiltPage.output) all page r =
        .error cause t) :
      Interrupted source build config s (.nav cause)
        (account build config.nav.includeSelf k built all visited)

/-- **The events of every build give its account**, whether it succeeds or fails. The settings of
the source directory are read before anything is reported, and then the build is one with these
settings.

**Proof sketch.** The page pass reports its results, so what is left are the turns of the navigation
pass. What a page has for a list and for other placeholders is a matter of its text at its turn
(`Navigation.outcomeOf_eq`), and the turns are put together from the first page on
(`exists_readInTurn`), up to the end or to the page that fails. -/
theorem events_account {source build : Path} {s : FileStore} (hs : s.WellFormed) :
    (∀ config summary after events,
      buildSiteWith source build config ⟨s, []⟩ = .ok summary ⟨after, events⟩ →
        ∃ r : BuildRun source build config s after, Accounts r summary events) ∧
    (∀ config e after events,
      buildSiteWith source build config ⟨s, []⟩ = .error e ⟨after, events⟩ →
        Interrupted source build config s e events) ∧
    ((∃ e, e.isBeforeCopy = true ∧ buildSite source build ⟨s, []⟩ = .error e ⟨s, []⟩) ∨
      ∃ config, Config.load s source = .ok config ∧
        buildSite source build ⟨s, []⟩ = buildSiteWith source build config ⟨s, []⟩) := by
  refine ⟨fun config summary after events h => ?_, fun config e after events h => ?_, ?_⟩
  · obtain ⟨r, rfl, rfl⟩ := buildSiteWith_eq_ok_iff.1 h
    obtain ⟨l, hl⟩ := r.node_build
    have hstart := r.wellFormed_afterCopy hs
    obtain ⟨names, hnames, hsources⟩ :=
      exists_names_of_discover hstart (r.grows_copy.node hl) r.found
    obtain ⟨visited, hvisited, hread, hevents⟩ := exists_readInTurn (fun page hpage =>
      any_alike_iff hstart (r.grows_copy.node hl) r.found r.paged r.listed hpage) r.filled
    rw [List.nil_append]
    obtain ⟨hwarnings, hnavigated⟩ := summary_eq_countP r
    refine ⟨r, ⟨names, hnames, r.map_source.trans hsources⟩, ⟨visited, hvisited, hread, ?_⟩,
      hwarnings, hnavigated⟩
    rw [BuildRun.events, hevents]
    rfl
  · obtain ⟨reported, hfailed, rfl⟩ := buildSiteWith_eq_error_iff.1 h
    cases hfailed with
    | refused checked => exact .early (.inl checked)
    | uncopied checked copy => exact .early (.inr ⟨_, _, copy, rfl⟩)
    | unaccepted checked copy found accepted => exact .pages copy found (.inl accepted)
    | unpaged checked copy found accepted paged =>
      exact .pages copy found (.inr ⟨_, _, paged, rfl⟩)
    | unfilled checked copy found accepted paged listed order filled failed =>
      obtain ⟨l, hl⟩ := node_of_checkDirectories checked
      have hgrows := grows_of_copyTree copy
      obtain ⟨visited, rfl, hread, hevents⟩ := exists_readInTurn (fun page hpage =>
        any_alike_iff (hgrows.wellFormed hs) (hgrows.node hl) found paged listed
          (order ▸ List.mem_append_left _ hpage)) filled
      rw [hevents]
      exact .navigation copy found paged listed order hread filled failed
  · exact buildSite_cases source build ⟨s, []⟩

/-- A site with a Markdown file and a template, both with an unknown placeholder, and an empty build
directory. -/
def unknownNames : FileStore :=
  (((({} : FileStore).setEntry ["s".toList] .directory).setEntry ["b".toList] .directory).newFile
    ["a.md".toList, "s".toList] (.text "{{x}}".toList)).newFile ["template.html".toList, "s".toList]
    (.text "{{y}}{{CONTENT}}{{NAV}}".toList)

/-- The site after it was built. -/
def unknownNamesBuilt : FileStore :=
  ((unknownNames.newFile ["a.md".toList, "b".toList] (.text "{{x}}".toList)).newFile
    ["template.html".toList, "b".toList] (.text "{{y}}{{CONTENT}}{{NAV}}".toList)).newFile
    ["a.html".toList, "b".toList] (.text "{{y}}<p>{{x}}</p>\n<ul></ul>".toList)

/-- The site with unknown placeholders is well-formed. -/
private lemma wellFormed_unknownNames : unknownNames.WellFormed := by
  have hmade : made [.makeDirectories ⟨"s".toList⟩, .makeDirectories ⟨"b".toList⟩,
      .write ⟨"s/a.md".toList⟩ (.text "{{x}}".toList),
      .write ⟨"s/template.html".toList⟩ (.text "{{y}}{{CONTENT}}{{NAV}}".toList)] =
        unknownNames := by
    cbv
  rw [← hmade]
  exact wellFormed_made _

/-- The unknown placeholders are reported when the page is built, and not again when its list is
filled in. -/
theorem events_account_unknownNames :
    ∃ r : BuildRun ⟨"s".toList⟩ ⟨"b".toList⟩ {} unknownNames unknownNamesBuilt,
      Accounts r ⟨2, [⟨⟨"b/a.md".toList⟩, ⟨"b/a.html".toList⟩,
          [⟨.template, "{{y}}".toList⟩, ⟨.body, "{{x}}".toList⟩]⟩], 1, 2⟩
        [.copied 2, .pageBuilt ⟨"b/a.md".toList⟩ ⟨"b/a.html".toList⟩,
          .unresolved ⟨"b/template.html".toList⟩ ⟨"b/a.md".toList⟩ "{{y}}".toList,
          .unresolved ⟨"b/a.md".toList⟩ ⟨"b/a.md".toList⟩ "{{x}}".toList,
          .navResolved ⟨"b/a.html".toList⟩ 0] := by
  have hrun : buildSiteWith ⟨"s".toList⟩ ⟨"b".toList⟩ {} ⟨unknownNames, []⟩ =
      .ok ⟨2, [⟨⟨"b/a.md".toList⟩, ⟨"b/a.html".toList⟩,
          [⟨.template, "{{y}}".toList⟩, ⟨.body, "{{x}}".toList⟩]⟩], 1, 2⟩ ⟨unknownNamesBuilt,
        [.copied 2, .pageBuilt ⟨"b/a.md".toList⟩ ⟨"b/a.html".toList⟩,
          .unresolved ⟨"b/template.html".toList⟩ ⟨"b/a.md".toList⟩ "{{y}}".toList,
          .unresolved ⟨"b/a.md".toList⟩ ⟨"b/a.md".toList⟩ "{{x}}".toList,
          .navResolved ⟨"b/a.html".toList⟩ 0]⟩ := by
    cbv
  exact (events_account wellFormed_unknownNames).1 _ _ _ _ hrun

end Build

end StaticSite
