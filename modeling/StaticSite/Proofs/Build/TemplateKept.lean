import Mathlib
import StaticSite.Proofs.Build.Navigation
import StaticSite.Proofs.Build.PagesUnderWay

set_option relaxedAutoImplicit false
set_option autoImplicit false

/-!
# The template is kept

Once the source tree is copied, nothing writes to the template, whatever links there are and in
whatever order the pages are built. The check of the outputs comes before the first page is written,
and the pages of the navigation pass are told apart from the template after the last one; neither
grows stale, because writing files gives an old file no new paths.

## Main definitions

* `StaticSite.Build.Moment` — the files at a moment of a build, from the copy on.

## Main results

* `StaticSite.Build.moment_buildSiteWith` — a build ends in such a moment, whether it succeeds or
  fails.
* `StaticSite.Build.template_kept` — at every moment the template is what the copy has left, and
  every page is made from it.
-/

namespace StaticSite.Build

open StaticSite.Action
open StaticSite.Page (compose)
open StaticSite.PagePass (run initial pageByPage UnderWay)

/-! ## Moments of a build -/

/-- The files at a moment of a build, from the copy on, which has left the files `start`. A pass may
have come to an end or not, and its last step may have failed. -/
inductive Moment (build : Path) (config : Config) (start : FileStore) : FileStore → Prop where
  /-- The source tree is copied. -/
  | copied : Moment build config start start
  /-- Pages are being built, in any order of their steps. -/
  | pages {sources schedule : List Path}
      (found : discover start build Page.sourceExtension = .ok sources)
      (accepted : checkTemplate (templateOf build) sources start = .ok ())
      (scheduled : ∀ p ∈ schedule, p ∈ sources) :
      Moment build config start
        (run config.markdown (templateOf build) schedule (initial start)).store
  /-- Lists are being filled in, after all pages were built. -/
  | navigation {sources schedule : List Path} {built : List BuiltPage}
      {all front back : List NavPage}
      (found : discover start build Page.sourceExtension = .ok sources)
      (accepted : checkTemplate (templateOf build) sources start = .ok ())
      (scheduled : ∀ p ∈ schedule, p ∈ sources)
      (results : (sources.map fun p => ((run config.markdown (templateOf build) schedule
        (initial start)).progress p).result? config.markdown p) =
          built.map fun page => some (.ok page))
      (listed : navPages build (run config.markdown (templateOf build) schedule
        (initial start)).store = .ok all)
      (order : all = front ++ back) :
      Moment build config start
        (stateAfter (front.mapM (fillIn config.nav.includeSelf (built.map BuiltPage.output) all))
          (run config.markdown (templateOf build) schedule (initial start)).store)

/-! ## The parts of a build -/

section Parts

variable {ε α β : Type}

/-- A part that works on the files goes on with what its action gives and leaves. -/
lemma store_onStore_bind (wrap : ε → BuildError) (action : FileAction ε α)
    (f : α → BuildAction β) (b : BuildState) :
    stateAfter (onStore wrap action >>= f) b = match action b.store with
      | .ok a t => stateAfter (f a) { b with store := t }
      | .error _ t => { b with store := t } := by
  rw [stateAfter_bind, onStore]
  cases action b.store <;> rfl

/-- A question is answered, or the build is over. -/
lemma store_ask_bind (wrap : ε → BuildError) (question : FileStore → Except ε α)
    (f : α → BuildAction β) (b : BuildState) :
    stateAfter (ask wrap question >>= f) b = match question b.store with
      | .ok a => stateAfter (f a) b
      | .error _ => b := by
  rw [stateAfter_bind, ask_run]
  cases question b.store <;> rfl

/-- A report does not touch the files. -/
private lemma store_report_bind (events : List BuildEvent) (f : Unit → BuildAction β)
    (b : BuildState) :
    stateAfter (report events >>= f) b =
      stateAfter (f ()) { b with events := b.events ++ events } := by
  rw [stateAfter_bind]
  rfl

/-- The navigation pass does to the files what its turns do, up to the first that fails.

**Proof sketch.** By induction on the pages: what a turn reports besides filling in the page does
not touch the files, and behind a turn that fails no other is taken. -/
private lemma store_navigate (includeSelf : Bool) (generated : List Path) (all pages : List NavPage)
    (b : BuildState) :
    (stateAfter (pages.mapM (navigateOne includeSelf generated all)) b).store =
      stateAfter (pages.mapM (fillIn includeSelf generated all)) b.store := by
  induction pages generalizing b with
  | nil => rfl
  | cons page pages ih =>
    have hone : navigateOne includeSelf generated all page b =
        match fillIn includeSelf generated all page b.store with
        | .ok done t => .ok done ⟨t, b.events ++ done.events⟩
        | .error cause t => .error (.nav cause) ⟨t, b.events⟩ := by
      unfold navigateOne fillIn
      simp only [bind_run, onStore]
      cases Navigation.resolve page.path (NavPage.others all page includeSelf) b.store <;> rfl
    rw [List.mapM_cons, List.mapM_cons, stateAfter_bind, stateAfter_bind, hone]
    cases fillIn includeSelf generated all page b.store with
    | error cause t => rfl
    | ok done t =>
      simp only [stateAfter_bind_pure]
      exact ih ⟨t, b.events ++ done.events⟩

end Parts

/-! ## The ends of the passes -/

section Passes

variable {build : Path} {config : Config} {start : FileStore} {sources : List Path}
  (hstart : start.WellFormed) (found : discover start build Page.sourceExtension = .ok sources)
  (accepted : checkTemplate (templateOf build) sources start = .ok ())

include hstart found accepted

/-- The files that some pages have left that were built one after another are those of a moment. -/
lemma moment_pages {front back : List Path} (order : sources = front ++ back)
    {built : List BuiltPage} {r : FileStore}
    (hfront : Build.pages config.markdown (templateOf build) front start = .ok built r) :
    Moment build config start r := by
  have hnodup := nodup_of_discover hstart found
  rw [order] at hnodup
  obtain ⟨hstore, -⟩ := PagePass.run_pageByPage config.markdown (templateOf build)
    hnodup.of_append_left (initial start) (fun _ _ => rfl) hfront
  rw [← hstore]
  refine .pages found accepted fun p hp => ?_
  rw [order]
  exact List.mem_append_left _ (PagePass.mem_of_mem_pageByPage hp)

/-- The files that some turns of the navigation pass leave are those of a moment. -/
lemma moment_navigation {built : List BuiltPage} {afterPages : FileStore}
    {all front back : List NavPage}
    (paged : Build.pages config.markdown (templateOf build) sources start = .ok built afterPages)
    (listed : navPages build afterPages = .ok all) (order : all = front ++ back) :
    Moment build config start (stateAfter (front.mapM
      (fillIn config.nav.includeSelf (built.map BuiltPage.output) all)) afterPages) := by
  obtain ⟨hstore, hresults⟩ := PagePass.run_pageByPage config.markdown (templateOf build)
    (nodup_of_discover hstart found) (initial start) (fun _ _ => rfl) paged
  rw [← hstore]
  exact .navigation found accepted (fun p => PagePass.mem_of_mem_pageByPage) hresults
    (hstore ▸ listed) order

end Passes

/-- **A build ends in a moment of it**, whether it succeeds or fails.

**Proof sketch.** By following the build through its passes. It ends after the copy if a check
fails there, or within the pages or the navigation pass at the page that fails. Pages that are
built one after another are a schedule up to the one that fails (`exists_run_pages`). -/
theorem moment_buildSiteWith {source build : Path} {config : Config} {s start : FileStore} {k : ℕ}
    (hs : s.WellFormed) (hchecked : checkDirectories source build s = .ok ())
    (hcopy : copyTree source build s = .ok k start) (events : List BuildEvent) :
    Moment build config start
      (stateAfter (buildSiteWith source build config) ⟨s, events⟩).store := by
  have hstart : start.WellFormed := (grows_of_copyTree hcopy).wellFormed hs
  unfold buildSiteWith
  rw [store_ask_bind]
  simp only [hchecked, store_onStore_bind, hcopy, store_report_bind, store_ask_bind]
  cases hfound : discover start build Page.sourceExtension with
  | error e => exact .copied
  | ok sources =>
    dsimp only
    cases haccepted : checkTemplate (templateOf build) sources start with
    | error e => exact .copied
    | ok u =>
      have hnodup := nodup_of_discover hstart hfound
      dsimp only
      cases hpages : Build.pages config.markdown (templateOf build) sources start with
      | error cause t =>
        obtain ⟨schedule, hfront, hstore, -⟩ := PagePass.exists_run_pages config.markdown
          (templateOf build) hnodup (initial start) fun _ _ => rfl
        rw [PagePass.store_initial, stateAfter_of_eq_error hpages] at hstore
        dsimp only
        rw [← hstore]
        exact .pages hfound haccepted fun p hp =>
          PagePass.mem_of_mem_pageByPage (hfront.subset hp)
      | ok built t =>
        dsimp only
        cases hlisted : navPages build t with
        | error e => exact moment_pages hstart hfound haccepted (List.append_nil _).symm hpages
        | ok all =>
          dsimp only
          rw [stateAfter_bind_pure, Build.navigate, store_navigate]
          exact moment_navigation hstart hfound haccepted hpages hlisted (List.append_nil _).symm

/-! ## The template at each moment -/

section Pages

variable (extensions : Markdown.Extensions) {build : Path} {start : FileStore}
  {sources schedule : List Path} (hstart : start.WellFormed)
  (accepted : checkTemplate (templateOf build) sources start = .ok ())
  (scheduled : ∀ p ∈ schedule, p ∈ sources)

include hstart accepted scheduled

/-- While pages are built, the template is the file that it was, with the contents that it had. -/
private lemma template_pages :
    let x := run extensions (templateOf build) schedule (initial start)
    x.store.node (templateOf build) = start.node (templateOf build) ∧
      ∀ id, start.node (templateOf build) = .ok (.file id) →
        x.store.contentsOf id = start.contentsOf id := by
  have hx : UnderWay extensions sources start
    (run extensions (templateOf build) schedule (initial start)) :=
    PagePass.underWay_run extensions (templateOf build) scheduled
  by_cases hfile : start.isFile (templateOf build) = true
  · obtain ⟨id, hid⟩ := FileStore.isFile_iff.1 hfile
    refine ⟨by rw [hx.rewrites.grows.node hid, hid], fun i hi => ?_⟩
    exact hx.contentsOf_eq hstart (fun p hp => (checkTemplate_spec accepted hp).2) hi
  · -- without a template there is no page to build
    have hnone : schedule = [] := List.eq_nil_iff_forall_not_mem.2 fun p hp =>
      hfile (checkTemplate_spec accepted (scheduled p hp)).1
    subst hnone
    exact ⟨rfl, fun _ _ => rfl⟩

/-- All pages that have read the template have read what it was before. -/
private lemma frame_pages :
    let x := run extensions (templateOf build) schedule (initial start)
    ∀ p frame, (x.progress p).frame? = some frame →
      start.readText (templateOf build) = .ok frame := by
  have hkeeps : ∀ p ∈ schedule, ∀ x y, PagePass.Turn extensions (templateOf build) x p y →
      (UnderWay extensions sources start x ∧ ∀ q frame, (x.progress q).frame? = some frame →
        start.readText (templateOf build) = .ok frame) →
      UnderWay extensions sources start y ∧ ∀ q frame, (y.progress q).frame? = some frame →
        start.readText (templateOf build) = .ok frame := by
    rintro p hp x y hturn ⟨hx, hframe⟩
    have hread := hx.readText_eq hstart (fun q hq => (checkTemplate_spec accepted hq).2)
      (checkTemplate_spec accepted (scheduled p hp)).1
    exact ⟨hx.turn (scheduled p hp) hturn, PagePass.frame_turn hread hframe hturn⟩
  exact (PagePass.run_keeps hkeeps ⟨PagePass.underWay_initial start, fun _ _ hf => by
    simp [initial, Page.Progress.frame?] at hf⟩).2

end Pages

/-- At every moment the template is the file that the copy has left, with the same contents.

**Proof sketch.** While pages are built, nothing is written to the file of the template, since the
check has refused every output that leads there (`template_pages`). The navigation pass changes
files only, so paths lead where they led, and it visits no path to the template (`keeps_template`).
-/
private lemma template_moment {build : Path} {config : Config} {start t : FileStore}
    (hstart : start.WellFormed) (h : Moment build config start t) :
    t.node (templateOf build) = start.node (templateOf build) ∧
      t.readContents (templateOf build) = start.readContents (templateOf build) := by
  cases h with
  | copied => exact ⟨rfl, rfl⟩
  | pages found accepted scheduled =>
    obtain ⟨hnode, hcontents⟩ := template_pages config.markdown hstart accepted scheduled
    exact ⟨hnode, FileStore.readContents_congr hnode hcontents⟩
  | @navigation sources schedule built all front back found accepted scheduled results
      listed order =>
    obtain ⟨hnode, hcontents⟩ := template_pages config.markdown hstart accepted scheduled
    set x := run config.markdown (templateOf build) schedule (initial start)
    have hnode' := (keeps_node x.store config.nav.includeSelf (built.map BuiltPage.output) all front
      x.store fun _ => rfl) (templateOf build)
    refine ⟨hnode'.trans hnode, FileStore.readContents_congr (hnode'.trans hnode) fun id hid => ?_⟩
    have hfront : ∀ page ∈ front, page ∈ all := fun page hpage =>
      order ▸ List.mem_append_left back hpage
    rw [← hcontents id hid]
    exact (keeps_template listed hfront (hnode.trans hid) config.nav.includeSelf
      (built.map BuiltPage.output) x.store ⟨rfl, fun _ => rfl⟩).1

/-- **The template is kept.** From the copy on, whatever links there are, whatever the order of the
steps of the pages is, and whether the build succeeds or fails, the path of the template leads to
the file that it led to after the copy, and that file holds what it held. So all pages are made from
one template: it is what every page has read, and every file that the page pass has changed holds a
page made from it.

**Proof sketch.** The first part is `template_moment`. Pages read the template at a moment of the
page pass, so they read what the copy has left (`frame_pages`), and a file that has changed by then
holds a page that was written. The end of a build is a moment of it (`moment_buildSiteWith`). -/
theorem template_kept {source build : Path} (config : Config) {s start : FileStore} {k : ℕ}
    (hs : s.WellFormed) (hcopy : copyTree source build s = .ok k start) :
    (∀ t, Moment build config start t →
      t.node (templateOf build) = start.node (templateOf build) ∧
        t.readContents (templateOf build) = start.readContents (templateOf build)) ∧
    (∀ sources schedule, discover start build Page.sourceExtension = .ok sources →
      checkTemplate (templateOf build) sources start = .ok () → (∀ p ∈ schedule, p ∈ sources) →
      let x := run config.markdown (templateOf build) schedule (initial start)
      (∀ p frame, (x.progress p).frame? = some frame →
        start.readText (templateOf build) = .ok frame) ∧
      ∀ id, x.store.contentsOf id ≠ start.contentsOf id →
        ∃ p document frame, x.progress p = .written document frame ∧
          start.readText (templateOf build) = .ok frame ∧
          x.store.contentsOf id = .text (compose config.markdown frame document).text) ∧
    (checkDirectories source build s = .ok () → ∀ events, Moment build config start
      (stateAfter (buildSiteWith source build config) ⟨s, events⟩).store) := by
  have hstart : start.WellFormed := (grows_of_copyTree hcopy).wellFormed hs
  refine ⟨fun t ht => template_moment hstart ht,
    fun sources schedule found accepted scheduled => ?_,
    fun hchecked events => moment_buildSiteWith hs hchecked hcopy events⟩
  have hframe := frame_pages config.markdown hstart accepted scheduled
  refine ⟨hframe, fun id hid => ?_⟩
  obtain ⟨p, document, frame, hp, -, hc⟩ :=
    (PagePass.underWay_run config.markdown (templateOf build) scheduled).changed id hid
  exact ⟨p, document, frame, hp, hframe p frame (by rw [hp]; rfl), hc⟩

/-- A Markdown file to be copied, and a build directory with a template and a hard link to it. -/
def aliasedTemplate : FileStore :=
  (((({} : FileStore).setEntry ["s".toList] .directory).setEntry ["b".toList] .directory).newFile
    ["a.md".toList, "s".toList] (.text "1".toList)).newFile ["template.html".toList, "b".toList]
    (.text "{{CONTENT}}{{NAV}}".toList)
    |>.setEntry ["t.html".toList, "b".toList] (.file ⟨1⟩)

/-- The disk with a hard link to the template is well-formed. -/
private lemma wellFormed_aliasedTemplate : aliasedTemplate.WellFormed := by
  have hmade : made [.makeDirectories ⟨"s".toList⟩, .makeDirectories ⟨"b".toList⟩,
      .write ⟨"s/a.md".toList⟩ (.text "1".toList),
      .write ⟨"b/template.html".toList⟩ (.text "{{CONTENT}}{{NAV}}".toList),
      .name ⟨"b/t.html".toList⟩ ⟨"b/template.html".toList⟩] = aliasedTemplate := by
    cbv
  rw [← hmade]
  exact wellFormed_made _

/-- The files after the build: the Markdown file is copied and its page written. -/
def aliasedTemplateBuilt : FileStore :=
  (aliasedTemplate.newFile ["a.md".toList, "b".toList] (.text "1".toList)).newFile
    ["a.html".toList, "b".toList] (.text "<p>1</p>\n<ul></ul>".toList)

/-- The page is built and its list is filled in, and the template is what it was. -/
theorem template_kept_aliasedTemplate :
    buildSiteWith ⟨"s".toList⟩ ⟨"b".toList⟩ {} ⟨aliasedTemplate, []⟩ =
        .ok ⟨1, [⟨⟨"b/a.md".toList⟩, ⟨"b/a.html".toList⟩, []⟩], 1, 0⟩ ⟨aliasedTemplateBuilt,
          [.copied 1, .pageBuilt ⟨"b/a.md".toList⟩ ⟨"b/a.html".toList⟩,
            .navResolved ⟨"b/a.html".toList⟩ 0]⟩ ∧
      aliasedTemplateBuilt.readContents ⟨"b/template.html".toList⟩ =
        .ok (.text "{{CONTENT}}{{NAV}}".toList) := by
  have hcopy : copyTree ⟨"s".toList⟩ ⟨"b".toList⟩ aliasedTemplate =
      .ok 1 (aliasedTemplate.newFile ["a.md".toList, "b".toList] (.text "1".toList)) := by cbv
  have hrun : buildSiteWith ⟨"s".toList⟩ ⟨"b".toList⟩ {} ⟨aliasedTemplate, []⟩ =
      .ok ⟨1, [⟨⟨"b/a.md".toList⟩, ⟨"b/a.html".toList⟩, []⟩], 1, 0⟩ ⟨aliasedTemplateBuilt,
        [.copied 1, .pageBuilt ⟨"b/a.md".toList⟩ ⟨"b/a.html".toList⟩,
          .navResolved ⟨"b/a.html".toList⟩ 0]⟩ := by
    cbv
  obtain ⟨hmoments, -, hend⟩ :=
    template_kept {} wellFormed_aliasedTemplate hcopy
  have hafter := hmoments _ (hend (by cbv) [])
  rw [stateAfter_of_eq_ok hrun] at hafter
  exact ⟨hrun, hafter.2.trans (by cbv)⟩

end StaticSite.Build
