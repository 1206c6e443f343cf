import Mathlib
import StaticSite.Build.Site
import StaticSite.Proofs.Page.Step

set_option relaxedAutoImplicit false
set_option autoImplicit false

/-!
# The page pass as a run of steps

Any number of workers may build the pages of a site. Whatever they do, it comes down to one step of
some page after another, and each page takes its three steps in their order. A schedule says which
page is next; a page that is over takes no step when it is its turn. Building the pages one after
another is one of these schedules, and so is a part of it if the build fails.

## Main definitions

* `StaticSite.PagePass` — the files, and how far each page has got.
* `StaticSite.PagePass.initial` — the page pass before its first step.
* `StaticSite.PagePass.step`, `StaticSite.PagePass.run` — a step of a page, and a schedule of steps.
* `StaticSite.PagePass.IsInterleaving` — a schedule in which each page takes all its steps.
* `StaticSite.PagePass.Turn` — what a step of a page can be.

## Main results

* `StaticSite.PagePass.turn_step` — every step is one of these.
* `StaticSite.PagePass.exists_result_of_interleaving` — every page is over in the end.
* `StaticSite.PagePass.run_pageByPage`, `StaticSite.PagePass.exists_run_pages` — building the pages
  one after another is a schedule, whether it succeeds or fails.
-/

namespace StaticSite

open StaticSite.Action
open StaticSite.Page (Progress compose outputOf)

/-- The page pass under way: the files, and how far each page has got. -/
structure PagePass where
  /-- The files. -/
  store : FileStore
  /-- How far each page has got. -/
  progress : Path → Progress

namespace PagePass

section Definitions

variable (extensions : Markdown.Extensions) (template : Path)

/-- The next step of a page. -/
def step (x : PagePass) (source : Path) : PagePass :=
  let y := Page.step extensions template source (x.progress source, x.store)
  ⟨y.2, Function.update x.progress source y.1⟩

/-- The steps of the pages that a schedule names, one after another. -/
def run (schedule : List Path) (x : PagePass) : PagePass :=
  schedule.foldl (step extensions template) x

end Definitions

/-- The page pass before its first step. -/
def initial (s : FileStore) : PagePass := ⟨s, fun _ => .waiting⟩

/-- The schedule in which the pages are built one after another. -/
def pageByPage (sources : List Path) : List Path := sources.flatMap (List.replicate 3)

/-- A schedule in which each page takes all its steps, and those of different pages come in any
order. -/
def IsInterleaving (sources schedule : List Path) : Prop := schedule.Perm (pageByPage sources)

variable {extensions : Markdown.Extensions} {template : Path}

@[simp]
lemma store_initial (s : FileStore) : (initial s).store = s := rfl

/-! ## What a step can be -/

/-- What a step of a page can be: a text is read, the page is written, one of these fails, or there
is nothing left to do. -/
inductive Turn (extensions : Markdown.Extensions) (template : Path) (x : PagePass) (p : Path) :
    PagePass → Prop where
  /-- The document is read. -/
  | opened {document : Text} (h : x.progress p = .waiting)
      (hread : x.store.readText p = .ok document) :
      Turn extensions template x p ⟨x.store, Function.update x.progress p (.opened document)⟩
  /-- The template is read. -/
  | ready {document frame : Text} (h : x.progress p = .opened document)
      (hread : x.store.readText template = .ok frame) :
      Turn extensions template x p
        ⟨x.store, Function.update x.progress p (.ready document frame)⟩
  /-- The page is written. -/
  | written {document frame : Text} {t : FileStore} (h : x.progress p = .ready document frame)
      (hwrite : FileStore.write (outputOf p) (.text (compose extensions frame document).text)
        x.store = .ok () t) :
      Turn extensions template x p ⟨t, Function.update x.progress p (.written document frame)⟩
  /-- The document cannot be read. -/
  | unopened {cause : FileError} (h : x.progress p = .waiting)
      (hread : x.store.readText p = .error cause) :
      Turn extensions template x p
        ⟨x.store, Function.update x.progress p (.failed (.unreadable p cause))⟩
  /-- The template cannot be read. -/
  | unready {document : Text} {cause : FileError} (h : x.progress p = .opened document)
      (hread : x.store.readText template = .error cause) :
      Turn extensions template x p
        ⟨x.store, Function.update x.progress p (.failed (.unreadable template cause))⟩
  /-- The page cannot be written. -/
  | unwritten {document frame : Text} {cause : FileError} (h : x.progress p = .ready document frame)
      (hwrite : FileStore.write (outputOf p) (.text (compose extensions frame document).text)
        x.store = .error cause x.store) :
      Turn extensions template x p
        ⟨x.store, Function.update x.progress p (.failed (.unwritable (outputOf p) cause))⟩
  /-- The page is over. -/
  | finished {result : Except PageError BuiltPage}
      (h : (x.progress p).result? extensions p = some result) : Turn extensions template x p x

/-- A page that is over takes no step. -/
private lemma step_of_result {x : PagePass} {p : Path} {result : Except PageError BuiltPage}
    (h : (x.progress p).result? extensions p = some result) : step extensions template x p = x := by
  have hstay :
      Page.step extensions template p (x.progress p, x.store) = (x.progress p, x.store) := by
    cases hp : x.progress p with
    | written document frame => rfl
    | failed cause => rfl
    | _ => simp [hp, Progress.result?] at h
  unfold step
  simp only [hstay, Function.update_eq_self]

/-- **Every step is a turn.**

**Proof sketch.** By cases on the progress of the page. A page that is over is passed by; otherwise
the step reads the document, reads the template or writes the page, and that succeeds or fails. -/
theorem turn_step (x : PagePass) (p : Path) :
    Turn extensions template x p (step extensions template x p) := by
  by_cases hover : ((x.progress p).result? extensions p).isSome
  · obtain ⟨result, hresult⟩ := Option.isSome_iff_exists.1 hover
    rw [step_of_result hresult]
    exact .finished hresult
  unfold step
  cases hp : x.progress p with
  | waiting =>
    rw [Page.step_waiting, Page.read]
    cases hread : x.store.readText p with
    | ok document => exact .opened hp hread
    | error cause => exact .unopened hp hread
  | opened document =>
    rw [Page.step_opened, Page.read]
    cases hread : x.store.readText template with
    | ok frame => exact .ready hp hread
    | error cause => exact .unready hp hread
  | ready document frame =>
    rw [Page.step_ready, Page.write, EStateM.adaptExcept]
    cases hwrite : FileStore.write (outputOf p) (.text (compose extensions frame document).text)
      x.store with
    | ok u t => exact .written hp hwrite
    | error cause t =>
      obtain rfl := FileStore.eq_of_write_error hwrite
      exact .unwritten hp hwrite
  | written document frame => exact absurd (by rw [hp]; rfl) hover
  | failed cause => exact absurd (by rw [hp]; rfl) hover

/-- A page has one turn only: its step. -/
lemma Turn.eq_step {x y : PagePass} {p : Path} (h : Turn extensions template x p y) :
    y = step extensions template x p := by
  cases h with
  | finished hover => exact (step_of_result hover).symm
  | opened h hread => simp [step, h, Page.step_waiting, Page.read, hread, Page.progressOf]
  | unopened h hread => simp [step, h, Page.step_waiting, Page.read, hread, Page.progressOf]
  | ready h hread => simp [step, h, Page.step_opened, Page.read, hread, Page.progressOf]
  | unready h hread => simp [step, h, Page.step_opened, Page.read, hread, Page.progressOf]
  | written h hwrite =>
    simp [step, h, Page.step_ready, Page.write, EStateM.adaptExcept, hwrite, Page.progressOf]
  | unwritten h hwrite =>
    simp [step, h, Page.step_ready, Page.write, EStateM.adaptExcept, hwrite, Page.progressOf]

/-- What every step keeps, every schedule keeps. -/
theorem run_keeps {I : PagePass → Prop} {schedule : List Path}
    (hI : ∀ p ∈ schedule, ∀ x y, Turn extensions template x p y → I x → I y) {x : PagePass}
    (hx : I x) : I (run extensions template schedule x) := by
  induction schedule generalizing x with
  | nil => exact hx
  | cons p schedule ih =>
    refine ih (fun q hq => hI q (List.mem_cons_of_mem p hq)) ?_
    exact hI p List.mem_cons_self x _ (turn_step x p) hx

/-! ## Every page is over in the end -/

variable (extensions template) in
/-- A step of a page is one step further, and the other pages stay where they are. -/
private lemma rank_step (x : PagePass) (p q : Path) :
    min 3 ((x.progress q).rank + if p = q then 1 else 0) ≤
      ((step extensions template x p).progress q).rank := by
  by_cases h : p = q
  · subst h
    have hrank := Page.rank_step extensions template p (x.progress p, x.store)
    simpa [step] using hrank
  · have hstay : (step extensions template x p).progress q = x.progress q :=
      Function.update_of_ne (Ne.symm h) _ _
    rw [hstay, if_neg h]
    exact min_le_right _ _

variable (extensions template) in
/-- A page has taken at least as many steps as the schedule names it, up to its last one. -/
private lemma rank_run (schedule : List Path) (x : PagePass) (q : Path) :
    min 3 ((x.progress q).rank + schedule.count q) ≤
      ((run extensions template schedule x).progress q).rank := by
  induction schedule generalizing x with
  | nil => simp [run]
  | cons p schedule ih =>
    have hstep := rank_step extensions template x p q
    have hrest : min 3 (((step extensions template x p).progress q).rank + schedule.count q) ≤
        ((run extensions template (p :: schedule) x).progress q).rank := ih _
    rw [List.count_cons]
    have hcount : (if p == q then 1 else 0) = if p = q then 1 else 0 := by simp
    omega

/-- A page is over after three steps. -/
private lemma exists_result_of_rank {progress : Progress} (h : 3 ≤ progress.rank) (p : Path) :
    ∃ result, progress.result? extensions p = some result := by
  cases progress with
  | written document frame => exact ⟨_, rfl⟩
  | failed cause => exact ⟨_, rfl⟩
  | _ => simp [Progress.rank] at h

/-- A page whose building gave a failure has failed. -/
private lemma eq_failed_of_result {progress : Progress} {p : Path} {cause : PageError}
    (h : progress.result? extensions p = some (.error cause)) : progress = .failed cause := by
  cases progress <;> simp_all [Progress.result?]

variable (extensions template) in
/-- **Every page is over** after a schedule in which each takes all its steps. -/
theorem exists_result_of_interleaving {sources schedule : List Path}
    (h : IsInterleaving sources schedule) (x : PagePass) {p : Path} (hp : p ∈ sources) :
    ∃ result, ((run extensions template schedule x).progress p).result? extensions p =
      some result := by
  have hcount : 3 ≤ schedule.count p := by
    rw [h.count_eq, pageByPage, List.count_flatMap]
    have hthree : 3 ∈ sources.map (List.count p ∘ List.replicate 3) :=
      List.mem_map.2 ⟨p, hp, by simp⟩
    exact List.le_sum_of_mem hthree
  have hrank := rank_run extensions template schedule x p
  exact exists_result_of_rank (by omega) p

/-- Building the pages one after another takes steps of these pages only. -/
lemma mem_of_mem_pageByPage {sources : List Path} {p : Path} (hp : p ∈ pageByPage sources) :
    p ∈ sources := by
  obtain ⟨q, hq, hpq⟩ := List.mem_flatMap.1 hp
  rwa [List.eq_of_mem_replicate hpq]

/-- A schedule in which each page takes all its steps names the pages only. -/
lemma IsInterleaving.mem {sources schedule : List Path} (h : IsInterleaving sources schedule)
    {p : Path} (hp : p ∈ schedule) : p ∈ sources :=
  mem_of_mem_pageByPage (h.mem_iff.1 hp)

/-! ## One page after another -/

/-- A page that is built in one go. -/
private lemma run_replicate (k : ℕ) (x : PagePass) (p : Path) :
    run extensions template (List.replicate k p) x =
      let y := (Page.step extensions template p)^[k] (x.progress p, x.store)
      ⟨y.2, Function.update x.progress p y.1⟩ := by
  induction k generalizing x with
  | zero => simp [run]
  | succ k ih =>
    show run extensions template (List.replicate k p) (step extensions template x p) = _
    rw [ih, Function.iterate_succ_apply]
    simp [step]

variable (extensions template) in
/-- A page that takes all its steps in a row is built. -/
private lemma run_page {x : PagePass} {p : Path} (hp : x.progress p = .waiting) :
    (run extensions template (List.replicate 3 p) x).store =
        stateAfter (Page.build extensions template p) x.store ∧
      ((run extensions template (List.replicate 3 p) x).progress p).result? extensions p =
        match Page.build extensions template p x.store with
        | .ok page _ => some (.ok page)
        | .error cause _ => some (.error cause) := by
  have h := Page.iterate_step extensions template p x.store
  rw [run_replicate, hp, stateAfter]
  simp only [Function.update_self]
  cases hbuild : Page.build extensions template p x.store with
  | ok page t =>
    rw [hbuild] at h
    exact ⟨congrArg Prod.snd h, congrArg Prod.fst h⟩
  | error cause t =>
    rw [hbuild] at h
    exact ⟨congrArg Prod.snd h, congrArg Prod.fst h⟩

/-- A schedule that does not name a page leaves it where it is. -/
lemma progress_run {schedule : List Path} {p : Path} (hp : p ∉ schedule) (x : PagePass) :
    (run extensions template schedule x).progress p = x.progress p := by
  induction schedule generalizing x with
  | nil => rfl
  | cons q schedule ih =>
    rw [List.mem_cons, not_or] at hp
    show (run extensions template schedule (step extensions template x q)).progress p = _
    rw [ih hp.2]
    exact Function.update_of_ne hp.1 _ _

/-- A page that has failed takes no further step. -/
lemma failed_run {x : PagePass} {p : Path} {cause : PageError} (h : x.progress p = .failed cause)
    (schedule : List Path) :
    (run extensions template schedule x).progress p = .failed cause := by
  induction schedule generalizing x with
  | nil => exact h
  | cons q schedule ih =>
    refine ih (x := step extensions template x q) ?_
    by_cases hq : q = p
    · subst hq
      have hresult : (x.progress q).result? extensions q = some (.error cause) := by
        rw [h]
        rfl
      rw [step_of_result hresult, h]
    · rw [← h]
      exact Function.update_of_ne (Ne.symm hq) _ _

/-- The pages behind one that is built still wait. -/
private lemma waiting_behind {p : Path} {sources : List Path} (hp : p ∉ sources) {x : PagePass}
    (hx : ∀ q ∈ p :: sources, x.progress q = .waiting) {q : Path} (hq : q ∈ sources) :
    (run extensions template (List.replicate 3 p) x).progress q = .waiting := by
  have hne : q ∉ List.replicate 3 p := fun hmem => hp (List.eq_of_mem_replicate hmem ▸ hq)
  rw [progress_run hne, hx q (List.mem_cons_of_mem p hq)]

/-- The steps of two schedules in a row. -/
private lemma run_append (schedule schedule' : List Path) (x : PagePass) :
    run extensions template (schedule ++ schedule') x =
      run extensions template schedule' (run extensions template schedule x) :=
  List.foldl_append

/-- The first page is built, then the others. -/
private lemma pages_cons (p : Path) (sources : List Path) :
    Build.pages extensions template (p :: sources) = do
      let page ← Page.build extensions template p
      let pages ← Build.pages extensions template sources
      return page :: pages :=
  List.mapM_cons

variable (extensions template) in
/-- **Building the pages one after another is a schedule** in which each page takes all steps.

**Proof sketch.** By induction on the pages. Three steps in a row build the first page
(`run_page`), and the steps of the others do not touch its progress, since each page comes only
once. -/
theorem run_pageByPage {sources : List Path} (hsources : sources.Nodup) (x : PagePass)
    (hx : ∀ p ∈ sources, x.progress p = .waiting) {built : List BuiltPage} {t : FileStore}
    (h : Build.pages extensions template sources x.store = .ok built t) :
    (run extensions template (pageByPage sources) x).store = t ∧
      (sources.map fun p => ((run extensions template (pageByPage sources) x).progress p).result?
        extensions p) = built.map fun page => some (.ok page) := by
  induction sources generalizing x built with
  | nil =>
    obtain ⟨rfl, rfl⟩ := mapM_nil_eq_ok_iff.1 h
    exact ⟨rfl, rfl⟩
  | cons p sources ih =>
    obtain ⟨page, r, pages, hpage, hpages, rfl⟩ := mapM_cons_eq_ok_iff.1 h
    obtain ⟨hp, hsources⟩ := List.nodup_cons.1 hsources
    obtain ⟨hstore, hresult⟩ := run_page extensions template (hx p List.mem_cons_self)
    rw [stateAfter_of_eq_ok hpage] at hstore
    rw [hpage] at hresult
    set y := run extensions template (List.replicate 3 p) x with hy
    have hrest := ih hsources y (fun q hq => waiting_behind hp hx hq) (hstore.symm ▸ hpages)
    have hrun : run extensions template (pageByPage (p :: sources)) x =
        run extensions template (pageByPage sources) y := run_append _ _ x
    have hkeep : (run extensions template (pageByPage sources) y).progress p = y.progress p := by
      exact progress_run (fun hmem => hp (mem_of_mem_pageByPage hmem)) y
    rw [hrun, List.map_cons, List.map_cons, hkeep, hresult]
    exact ⟨hrest.1, congrArg _ hrest.2⟩

variable (extensions template) in
/-- **The pages are built by a schedule up to the first that fails**, and the failure is that of a
page.

**Proof sketch.** By induction on the pages. If the first one fails, its three steps are the
schedule, and what is left of the steps is not taken. Otherwise its three steps are put in front of
the schedule for the others. -/
theorem exists_run_pages {sources : List Path} (hsources : sources.Nodup) (x : PagePass)
    (hx : ∀ p ∈ sources, x.progress p = .waiting) :
    ∃ schedule, schedule <+: pageByPage sources ∧
      (run extensions template schedule x).store =
        stateAfter (Build.pages extensions template sources) x.store ∧
      ∀ cause t, Build.pages extensions template sources x.store = .error cause t →
        ∃ p, (run extensions template schedule x).progress p = .failed cause := by
  induction sources generalizing x with
  | nil => exact ⟨[], List.nil_prefix, rfl, fun cause t h => by cases h⟩
  | cons p sources ih =>
    obtain ⟨hp, hsources⟩ := List.nodup_cons.1 hsources
    obtain ⟨hstore, hresult⟩ := run_page extensions template (hx p List.mem_cons_self)
    rw [stateAfter, pages_cons, bind_run]
    cases hbuild : Page.build extensions template p x.store with
    | error cause t =>
      rw [stateAfter, hbuild] at hstore
      rw [hbuild] at hresult
      refine ⟨List.replicate 3 p, List.prefix_append _ _, hstore, fun cause' t' heq => ?_⟩
      obtain ⟨rfl, -⟩ := EStateM.Result.error.inj heq
      exact ⟨p, eq_failed_of_result hresult⟩
    | ok page t =>
      rw [stateAfter_of_eq_ok hbuild] at hstore
      obtain ⟨schedule, hfront, hrest, hfailed⟩ := ih hsources _ fun q hq => waiting_behind hp hx hq
      refine ⟨List.replicate 3 p ++ schedule, (List.prefix_append_right_inj _).2 hfront, ?_⟩
      rw [hstore] at hrest hfailed
      rw [run_append, hrest, stateAfter]
      simp only [bind_run]
      cases hpages : Build.pages extensions template sources t with
      | ok pages u => exact ⟨rfl, fun cause t' heq => by cases heq⟩
      | error cause u =>
        refine ⟨rfl, fun cause' t' heq => ?_⟩
        obtain ⟨rfl, -⟩ := EStateM.Result.error.inj heq
        exact hfailed cause u hpages

/-! ## Pages built by a schedule -/

/-- Some pages are built from the files `s` on by a schedule in which each takes all its steps, and
`t` are the files after that. -/
structure Builds (extensions : Markdown.Extensions) (template : Path)
    (sources schedule : List Path) (s : FileStore) (built : List BuiltPage) (t : FileStore) :
    Prop where
  /-- Each page takes all its steps. -/
  interleaving : IsInterleaving sources schedule
  /-- No page fails, and these are built. -/
  results : (sources.map fun p => ((run extensions template schedule (initial s)).progress
    p).result? extensions p) = built.map fun page => some (.ok page)
  /-- The files after the last step. -/
  store : (run extensions template schedule (initial s)).store = t

namespace Builds

variable {sources schedule : List Path} {s t : FileStore} {built : List BuiltPage}
  (h : Builds extensions template sources schedule s built t)

include h

/-- Every page is written in the end. -/
lemma exists_written {p : Path} (hp : p ∈ sources) : ∃ document frame,
    (run extensions template schedule (initial s)).progress p = .written document frame := by
  obtain ⟨page, -, hresult⟩ : ∃ page ∈ built, some (.ok page) =
      ((run extensions template schedule (initial s)).progress p).result? extensions p := by
    rw [← List.mem_map, ← h.results]
    exact List.mem_map.2 ⟨p, hp, rfl⟩
  cases hprogress : (run extensions template schedule (initial s)).progress p with
  | written document frame => exact ⟨document, frame, rfl⟩
  | _ => simp [hprogress, Progress.result?] at hresult

/-- What is known of a page by its result is known of the pages that are built, one for each
Markdown file. -/
private lemma map_built {α : Type} {f : BuiltPage → α} {g : Path → α}
    (hfg : ∀ p document frame,
      f ⟨p, outputOf p, (compose extensions frame document).unresolved⟩ = g p) :
    built.map f = sources.map g := by
  have hmap := congrArg (List.map fun result => result.bind fun r => r.toOption.map f) h.results
  rw [List.map_map, List.map_map] at hmap
  have hpages : (sources.map g).map some = (built.map f).map some := by
    rw [List.map_map, List.map_map]
    refine Eq.trans (List.map_congr_left fun p hp => ?_) hmap
    obtain ⟨document, frame, hprogress⟩ := h.exists_written hp
    simp [hprogress, Progress.result?, Except.toOption, hfg]
  exact (List.map_injective_iff.2 (Option.some_injective α) hpages).symm

/-- A page is built for each Markdown file. -/
lemma map_source : built.map BuiltPage.source = sources := by
  rw [h.map_built (g := id) fun _ _ _ => rfl, List.map_id]

/-- Each page is written to the output of its Markdown file. -/
lemma map_output : built.map BuiltPage.output = sources.map outputOf :=
  h.map_built fun _ _ _ => rfl

/-- The schedule alone decides which pages are built. -/
lemma unique {built' : List BuiltPage} {t' : FileStore}
    (h' : Builds extensions template sources schedule s built' t') : built = built' ∧ t = t' := by
  refine ⟨?_, h.store.symm.trans h'.store⟩
  have hinjective : Function.Injective fun page : BuiltPage =>
    (some (.ok page) : Option (Except PageError BuiltPage)) := fun a b hab => by simpa using hab
  exact List.map_injective_iff.2 hinjective (h.results.symm.trans h'.results)

end Builds

/-- **The schedule in which the pages are built one after another** builds the same pages as
building them in this order, and leaves the same files.

**Proof sketch.** From right to left this is `run_pageByPage`. From left to right, the sequence of
pages cannot fail: the schedule runs up to the page that fails (`exists_run_pages`), which stays
failed in the rest of it (`failed_run`), while every page is written in the end. What it builds is
then the same, as a schedule determines its outcome. -/
theorem builds_pageByPage_iff {sources : List Path} (hsources : sources.Nodup) {s t : FileStore}
    {built : List BuiltPage} :
    Builds extensions template sources (pageByPage sources) s built t ↔
      Build.pages extensions template sources s = .ok built t := by
  have hbuilds : ∀ {built t}, Build.pages extensions template sources s = .ok built t →
      Builds extensions template sources (pageByPage sources) s built t := by
    intro built t hpages
    obtain ⟨hstore, hresults⟩ :=
      run_pageByPage extensions template hsources (initial s) (fun _ _ => rfl) hpages
    exact ⟨List.Perm.refl _, hresults, hstore⟩
  constructor
  · intro h
    cases hpages : Build.pages extensions template sources s with
    | ok built' t' =>
      obtain ⟨rfl, rfl⟩ := h.unique (hbuilds hpages)
      rfl
    | error cause t' =>
      obtain ⟨schedule, ⟨rest, hrest⟩, -, hfailed⟩ :=
        exists_run_pages extensions template hsources (initial s) fun _ _ => rfl
      obtain ⟨p, hp⟩ := hfailed cause t' hpages
      have hmem : p ∈ sources := by
        by_contra hnot
        rw [progress_run (fun hmem => hnot (mem_of_mem_pageByPage
          (hrest ▸ List.mem_append_left rest hmem)))] at hp
        simp [initial] at hp
      obtain ⟨document, frame, hwritten⟩ := h.exists_written hmem
      rw [← hrest, run_append, failed_run hp] at hwritten
      simp at hwritten
  · exact hbuilds

end PagePass

end StaticSite
