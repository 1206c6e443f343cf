import Mathlib
import StaticSite.Proofs.Build.Schedule

set_option relaxedAutoImplicit false
set_option autoImplicit false

/-!
# The files while pages are built

Whatever the schedule is, and whatever links there are, the page pass only writes pages to their
outputs. A file that is no page's output stays as it is, and all that read it read the same.

## Main definitions

* `StaticSite.PagePass.Holds` — a file holds a page that was written to it.
* `StaticSite.PagePass.UnderWay` — what holds while pages are built.

## Main results

* `StaticSite.PagePass.UnderWay.turn` — the step: what holds is kept by every turn of a page.
* `StaticSite.PagePass.underWay_run` — the run: it holds in every schedule.
* `StaticSite.PagePass.UnderWay.readText_eq` — what is no page's output stays as it is.
-/

namespace StaticSite.PagePass

open StaticSite.FileStore (Rewrites)
open StaticSite.Page (Progress compose outputOf)

variable {extensions : Markdown.Extensions} {template : Path} {sources : List Path} {s : FileStore}
  {x : PagePass}

/-- A file holds a page that was written to it. -/
def Holds (extensions : Markdown.Extensions) (x : PagePass) (id : FileId) : Prop :=
  ∃ p document frame, x.progress p = .written document frame ∧
    x.store.node (outputOf p) = .ok (.file id) ∧
    x.store.contentsOf id = .text (compose extensions frame document).text

/-- What holds while pages are built, from a store `s` on. -/
structure UnderWay (extensions : Markdown.Extensions) (sources : List Path) (s : FileStore)
    (x : PagePass) : Prop where
  /-- Files are written, and nothing else is done. -/
  rewrites : Rewrites s x.store
  /-- No other page is built. -/
  mem : ∀ p, x.progress p ≠ .waiting → p ∈ sources
  /-- The output of a page that was written holds the page or another one written to that file. -/
  written : ∀ p document frame, x.progress p = .written document frame →
    ∃ id, x.store.node (outputOf p) = .ok (.file id) ∧ Holds extensions x id
  /-- A file that is not what it was holds a page. -/
  changed : ∀ id, x.store.contentsOf id ≠ s.contentsOf id → Holds extensions x id
  /-- An entry that was not there is that of a file that holds a page. -/
  added : ∀ l e, x.store.entryAt l = some e →
    s.entryAt l = some e ∨ ∃ id, e = .file id ∧ Holds extensions x id

/-! ## The step -/

/-- A page that is not over gets a step further without being written.

**Proof sketch.** The store stays as it is, and so does the list of the pages that are written,
since the one that gets further is written neither before nor after. -/
private lemma UnderWay.set (h : UnderWay extensions sources s x) {p : Path} (hp : p ∈ sources)
    {progress : Progress} (hold : ∀ document frame, x.progress p ≠ .written document frame)
    (hnew : ∀ document frame, progress ≠ .written document frame) :
    UnderWay extensions sources s ⟨x.store, Function.update x.progress p progress⟩ := by
  have hwritten : ∀ q document frame,
      Function.update x.progress p progress q = .written document frame ↔
        x.progress q = .written document frame := by
    intro q document frame
    by_cases hq : q = p
    · subst hq
      rw [Function.update_self]
      exact iff_of_false (hnew document frame) (hold document frame)
    · rw [Function.update_of_ne hq]
  have hholds : ∀ id, Holds extensions x id →
      Holds extensions ⟨x.store, Function.update x.progress p progress⟩ id := by
    rintro id ⟨q, document, frame, hq, hnode, hc⟩
    exact ⟨q, document, frame, (hwritten q document frame).2 hq, hnode, hc⟩
  refine ⟨h.rewrites, fun q hq => ?_, fun q document frame hq => ?_, fun id hid => ?_,
    fun l e he => ?_⟩
  · by_cases hqp : q = p
    · rwa [hqp]
    · exact h.mem q (by simpa only [Function.update_of_ne hqp] using hq)
  · obtain ⟨id, hid, hheld⟩ := h.written q document frame ((hwritten q document frame).1 hq)
    exact ⟨id, hid, hholds id hheld⟩
  · exact hholds id (h.changed id hid)
  · rcases h.added l e he with he | ⟨id, rfl, hheld⟩
    · exact Or.inl he
    · exact Or.inr ⟨id, rfl, hholds id hheld⟩

/-- A page is written.

**Proof sketch.** The file written now holds this page. The pages written before are still in their
files, unless they are in the one written now, which then holds this page; and an entry that is new
is that of a page written before or of this one. -/
private lemma UnderWay.write (h : UnderWay extensions sources s x) {p : Path}
    {document frame : Text} {t : FileStore} (hp : x.progress p = .ready document frame)
    (hwrite : FileStore.write (outputOf p) (.text (compose extensions frame document).text)
      x.store = .ok () t) :
    UnderWay extensions sources s ⟨t, Function.update x.progress p (.written document frame)⟩ := by
  obtain ⟨id, hid, hcontents, hentry⟩ := FileStore.exists_file_of_write hwrite
  have hwrites := FileStore.writes_of_write hwrite
  have hgrows : FileStore.Grows x.store t := .single (.write hwrites)
  set y : PagePass := ⟨t, Function.update x.progress p (.written document frame)⟩ with hy
  have hnew : Holds extensions y id :=
    ⟨p, document, frame, Function.update_self .., hid, by rw [hy, hcontents, if_pos rfl]⟩
  -- the pages written before stay in their files, unless the new one is written to them
  have hholds : ∀ i, Holds extensions x i → Holds extensions y i := by
    rintro i ⟨q, document', frame', hq, hnode, hc⟩
    by_cases hi : i = id
    · rwa [hi]
    · have hqp : q ≠ p := by
        rintro rfl
        simp [hp] at hq
      refine ⟨q, document', frame', ?_, hgrows.node hnode, by rw [hy, hcontents, if_neg hi, hc]⟩
      exact (Function.update_of_ne hqp _ _).trans hq
  refine ⟨h.rewrites.tail hwrites, fun q hq => ?_, fun q document' frame' hq => ?_,
    fun i hi => ?_, fun l e he => ?_⟩
  · apply h.mem q
    by_cases hqp : q = p
    · simp [hqp, hp]
    · simpa only [hy, Function.update_of_ne hqp] using hq
  · by_cases hqp : q = p
    · exact ⟨id, by rw [hqp, hid], hnew⟩
    · have hq' : x.progress q = .written document' frame' :=
        (Function.update_of_ne hqp _ _).symm.trans hq
      obtain ⟨i, hi, hheld⟩ := h.written q document' frame' hq'
      exact ⟨i, hgrows.node hi, hholds i hheld⟩
  · by_cases hiid : i = id
    · rwa [hiid]
    · rw [hy, hcontents, if_neg hiid] at hi
      exact hholds i (h.changed i hi)
  · rcases hentry l e he with he | rfl
    · rcases h.added l e he with he | ⟨i, rfl, hheld⟩
      · exact Or.inl he
      · exact Or.inr ⟨i, rfl, hholds i hheld⟩
    · exact Or.inr ⟨id, rfl, hnew⟩

/-- **The step**: what holds while pages are built is kept by every turn of a page. -/
theorem UnderWay.turn (h : UnderWay extensions sources s x) {p : Path} (hp : p ∈ sources)
    {y : PagePass} (hturn : Turn extensions template x p y) : UnderWay extensions sources s y := by
  cases hturn with
  | opened hwaiting _ => exact h.set hp (by simp [hwaiting]) (by simp)
  | ready hopened _ => exact h.set hp (by simp [hopened]) (by simp)
  | written hready hwrite => exact h.write hready hwrite
  | unopened hwaiting _ => exact h.set hp (by simp [hwaiting]) (by simp)
  | unready hopened _ => exact h.set hp (by simp [hopened]) (by simp)
  | unwritten hready _ => exact h.set hp (by simp [hready]) (by simp)
  | finished _ => exact h

/-! ## The run -/

/-- A turn writes a page at most. -/
lemma Turn.rewrites {p : Path} {y : PagePass} (h : Turn extensions template x p y) :
    Rewrites x.store y.store := by
  cases h with
  | written _ hwrite => exact .single (FileStore.writes_of_write hwrite)
  | _ => exact .refl

variable (extensions template) in
/-- A schedule writes files, and does nothing else. -/
lemma rewrites_run (schedule : List Path) (x : PagePass) :
    Rewrites x.store (run extensions template schedule x).store :=
  run_keeps (I := fun y => Rewrites x.store y.store)
    (fun _ _ _ _ hturn hx => hx.trans hturn.rewrites) .refl

/-- Before the first step all is as it was. -/
lemma underWay_initial (s : FileStore) : UnderWay extensions sources s (initial s) :=
  ⟨.refl, fun _ h => absurd rfl h, fun _ _ _ h => by simp [initial] at h, fun _ h => absurd rfl h,
    fun _ _ he => Or.inl he⟩

/-- **The run**: pages are under way in every schedule. -/
theorem underWay_run (extensions : Markdown.Extensions) (template : Path) {schedule : List Path}
    (hschedule : ∀ p ∈ schedule, p ∈ sources) :
    UnderWay extensions sources s (run extensions template schedule (initial s)) :=
  run_keeps (fun p hp _ _ hturn h => h.turn (hschedule p hp) hturn) (underWay_initial s)

/-! ## What stays as it is -/

section Stays

variable (h : UnderWay extensions sources s x) (hs : s.WellFormed) {q : Path}
  (hq : ∀ p ∈ sources, s.sameFile (outputOf p) q = false)

include h hs hq

/-- A file that is no output holds what it did. -/
lemma UnderWay.contentsOf_eq {id : FileId} (hid : s.node q = .ok (.file id)) :
    x.store.contentsOf id = s.contentsOf id := by
  by_contra hne
  obtain ⟨p, document, frame, hp, hnode, -⟩ := h.changed id hne
  have hold := h.rewrites.node_of_old hnode (hs.number_lt hid)
  have hsame : s.sameFile (outputOf p) q = true := FileStore.sameFile_iff.2 ⟨_, hold, hid⟩
  rw [hq p (h.mem p (by simp [hp]))] at hsame
  simp at hsame

/-- **A file that is no output is read as before.** -/
theorem UnderWay.readText_eq (hfile : s.isFile q = true) : x.store.readText q = s.readText q := by
  obtain ⟨id, hid⟩ := FileStore.isFile_iff.1 hfile
  rw [FileStore.readText, FileStore.readText,
    FileStore.readContents_of_node (h.rewrites.grows.node hid), FileStore.readContents_of_node hid,
    h.contentsOf_eq hs hq hid]

end Stays

/-! ## What the pages are made from -/

/-- A turn changes the progress of its page only. What the page has read after it, it had read
before or reads now. -/
lemma Turn.exists_progress {p : Path} {y : PagePass} (h : Turn extensions template x p y) :
    ∃ progress, y.progress = Function.update x.progress p progress ∧
      (∀ document, progress.document? = some document →
        (x.progress p).document? = some document ∨ x.store.readText p = .ok document) ∧
      ∀ frame, progress.frame? = some frame →
        (x.progress p).frame? = some frame ∨ x.store.readText template = .ok frame := by
  cases h with
  | opened h hread => exact ⟨_, rfl, by simp [Progress.document?, hread], by simp [Progress.frame?]⟩
  | ready h hread =>
    exact ⟨_, rfl, by simp [Progress.document?, h], by simp [Progress.frame?, hread]⟩
  | written h _ => exact ⟨_, rfl, by simp [Progress.document?, h], by simp [Progress.frame?, h]⟩
  | finished _ =>
    exact ⟨x.progress p, (Function.update_eq_self ..).symm, fun _ => Or.inl, fun _ => Or.inl⟩
  | _ => exact ⟨_, rfl, by simp [Progress.document?], by simp [Progress.frame?]⟩

/-- The template that a page has read is what it was before, if it still is when it is read. -/
lemma frame_turn (hread : x.store.readText template = s.readText template)
    (h : ∀ q frame, (x.progress q).frame? = some frame → s.readText template = .ok frame) {p : Path}
    {y : PagePass} (hturn : Turn extensions template x p y) :
    ∀ q frame, (y.progress q).frame? = some frame → s.readText template = .ok frame := by
  obtain ⟨progress, hprogress, -, hframe⟩ := hturn.exists_progress
  rw [hprogress]
  refine (Function.forall_update_iff x.progress fun _ progress => ∀ frame,
    progress.frame? = some frame → s.readText template = .ok frame).2
    ⟨fun frame hp => ?_, fun q _ => h q⟩
  rcases hframe frame hp with hp | hp
  · exact h p frame hp
  · rw [← hread, hp]

/-- The document that a page has read is what it was before, if it still is when it is read. -/
lemma document_turn {p : Path} (hread : x.store.readText p = s.readText p)
    (h : ∀ q document, (x.progress q).document? = some document → s.readText q = .ok document)
    {y : PagePass} (hturn : Turn extensions template x p y) :
    ∀ q document, (y.progress q).document? = some document → s.readText q = .ok document := by
  obtain ⟨progress, hprogress, hdocument, -⟩ := hturn.exists_progress
  rw [hprogress]
  refine (Function.forall_update_iff x.progress fun q progress => ∀ document,
    progress.document? = some document → s.readText q = .ok document).2
    ⟨fun document hp => ?_, fun q _ => h q⟩
  rcases hdocument document hp with hp | hp
  · exact h p document hp
  · rw [← hread, hp]

end StaticSite.PagePass
