import Mathlib
import StaticSite.Proofs.Build.Navigation
import StaticSite.Proofs.Build.PagesUnderWay
import StaticSite.Proofs.FileStore.Item

set_option relaxedAutoImplicit false
set_option autoImplicit false

/-!
# Pages are independent

In a build directory without links no page is written over the document of a page, because their
extensions differ, nor over the template, because that is checked. So all pages read what was there
before, in whatever order their steps come. If no two of them have the same output, what they write
does not depend on the order either.

## Main definitions

* `StaticSite.PagePass.Start` — Markdown files in a directory without links whose pages can be
  written.
* `StaticSite.PagePass.Beside` — a page lies beside its document.
* `StaticSite.PagePass.Faithful` — the pages are made from what was there before.

## Main results

* `StaticSite.PagePass.Start.faithful_run` — the pages are faithful in every schedule.
* `StaticSite.PagePass.Start.progress_eq` — no page fails, and each is made from its document.
* `StaticSite.PagePass.interleaving_eq_pageByPage` — in every order of the steps the pages are those
  that are built one after another.
-/

namespace StaticSite.PagePass

open StaticSite.FileStore (SameDisk)
open StaticSite.Page (Progress compose outputOf outputName outputExtension)
open StaticSite.Path (IsName)

/-- Markdown files in a build directory without links, before their pages are built. -/
structure Start (build : Path) (l : Location) (s : FileStore) (sources : List Path) : Prop where
  /-- The store stands for a disk. -/
  wellFormed : s.WellFormed
  /-- The build directory is one. -/
  directory : s.node build = .ok (.directory l)
  /-- There are no links below it. -/
  plain : s.Plain l
  /-- The Markdown files are found in it. -/
  found : ∃ found, discover s build Page.sourceExtension = .ok found ∧ ∀ p ∈ sources, p ∈ found
  /-- The template can be used. -/
  accepted : Build.checkTemplate (Build.templateOf build) sources s = .ok ()
  /-- Every output can be written. -/
  writable : ∀ p ∈ sources, ∃ c t, FileStore.write (outputOf p) c s = .ok () t

/-- A page lies beside its document, a Markdown file of the build directory by the name `n`, with
another extension. -/
structure Beside (build : Path) (s : FileStore) (p : Path) (n : Name) : Prop where
  /-- The document. -/
  source : p = build.child n
  /-- It is a file. -/
  isFile : s.isFile p = true
  /-- The name of the document. -/
  name : IsName n
  /-- Its extension. -/
  markdown : (Path.mk n).hasExtension Page.sourceExtension = true
  /-- The page. -/
  output : outputOf p = build.child (outputName n)
  /-- The name of the page. -/
  outputName : IsName (outputName n)
  /-- Its extension. -/
  html : (Path.mk (Page.outputName n)).hasExtension outputExtension = true

/-- The pages under way are made from what was there before. -/
structure Faithful (extensions : Markdown.Extensions) (template : Path) (sources : List Path)
    (s : FileStore) (x : PagePass) : Prop where
  /-- Pages are under way. -/
  underWay : UnderWay extensions sources s x
  /-- A document that was read is what it was before. -/
  document : ∀ p document, (x.progress p).document? = some document → s.readText p = .ok document
  /-- The template that was read is what it was before. -/
  frame : ∀ p frame, (x.progress p).frame? = some frame → s.readText template = .ok frame

/-- Before the first step nothing was read. -/
private lemma faithful_initial (extensions : Markdown.Extensions) (template : Path)
    (sources : List Path) (s : FileStore) : Faithful extensions template sources s (initial s) :=
  ⟨underWay_initial s, fun _ _ h => by simp [initial, Progress.document?] at h, fun _ _ h => by
    simp [initial, Progress.frame?] at h⟩

variable {extensions : Markdown.Extensions} {build : Path} {l : Location} {s : FileStore}
  {sources : List Path} {x y : PagePass}

/-- **Pages that were all written could be written before** the first one was.

**Proof sketch.** What is needed of a start is that the outputs can be written. The path of each
leads to a file in the end, so it fits; and what stands there at the start is nothing or this very
file, as nothing is removed. -/
theorem start_of_written (hs : s.LinkFree) (hl : s.node build = .ok (.directory l))
    (found : discover s build Page.sourceExtension = .ok sources)
    (accepted : Build.checkTemplate (Build.templateOf build) sources s = .ok ())
    (hx : UnderWay extensions sources s x)
    (hwritten : ∀ p ∈ sources, ∃ document frame, x.progress p = .written document frame) :
    Start build l s sources := by
  have hgrows := hx.rewrites.grows
  refine ⟨hs.wellFormed, hl, hs.plainAt l, ⟨sources, found, fun _ => id⟩, accepted, ?_⟩
  intro p hp
  obtain ⟨document, frame, hprogress⟩ := hwritten p hp
  obtain ⟨id, hid, -⟩ := hx.written p document frame hprogress
  obtain ⟨n, rfl, hentry, hext, -⟩ := exists_name_of_discover hl found hp
  have hn := hs.wellFormed.isName n l hentry
  rw [Path.hasExtension_child (FileStore.bytes_ne_nil_of_node hl) hn] at hext
  obtain ⟨hname, -, hout⟩ := Page.outputOf_child_of_node (hgrows.wellFormed hs.wellFormed)
    (hgrows.node hl) hn hext hid
  rw [hout] at hid ⊢
  obtain ⟨hfits, hfile⟩ := (FileStore.node_child_eq_file_iff (hgrows.node hl) hname
    ((hs.grows hgrows).entryAt_ne_link _)).1 hid
  have hwritable := fun t => FileStore.write_child_eq_ok_iff (c := .text []) (t := t) hl hname hs
  cases he : s.entryAt (outputName n :: l) with
  | none => exact ⟨_, _, (hwritable _).2 ⟨hfits, Or.inl ⟨he, rfl⟩⟩⟩
  | some e =>
    obtain rfl : e = .file id := by simpa [hgrows.entryAt he] using hfile
    exact ⟨_, _, (hwritable _).2 ⟨hfits, Or.inr ⟨id, he, rfl⟩⟩⟩

namespace Start

variable (h : Start build l s sources)

include h

/-! ## Outputs -/

/-- Every page lies beside its document. -/
lemma exists_beside {p : Path} (hp : p ∈ sources) : ∃ n, Beside build s p n := by
  obtain ⟨found, hfound, hmem⟩ := h.found
  obtain ⟨n, rfl, hentry, hext, hfile⟩ := exists_name_of_discover h.directory hfound (hmem p hp)
  have hn := h.wellFormed.isName n l hentry
  rw [Path.hasExtension_child (FileStore.bytes_ne_nil_of_node h.directory) hn] at hext
  obtain ⟨c, t, hwrite⟩ := h.writable _ hp
  obtain ⟨hname, hhtml, hout⟩ :=
    Page.outputOf_child_of_write h.wellFormed h.directory hn hext hwrite
  exact ⟨n, rfl, hfile, hn, hext, hout, hname, hhtml⟩

/-- No page is written over a document. -/
private lemma output_ne_source {p q : Path} (hp : p ∈ sources) (hq : q ∈ sources) :
    s.sameFile (outputOf p) q = false := by
  obtain ⟨n, hn⟩ := h.exists_beside hp
  obtain ⟨m, hm⟩ := h.exists_beside hq
  rw [← Bool.not_eq_true, hn.output, hm.source]
  intro hsame
  have heq := h.plain.eq_of_sameFile h.directory hn.outputName hm.name (hm.source ▸ hm.isFile) hsame
  exact Page.not_markdown_of_html hn.html (heq ▸ hm.markdown)

/-- No page is written over the template. -/
private lemma output_ne_template {p : Path} (hp : p ∈ sources) :
    s.sameFile (outputOf p) (Build.templateOf build) = false :=
  (Build.checkTemplate_spec h.accepted hp).2

/-- While pages are built, a document is read as before. -/
lemma readText_source (hx : UnderWay extensions sources s x) {p : Path} (hp : p ∈ sources) :
    x.store.readText p = s.readText p := by
  obtain ⟨n, hn⟩ := h.exists_beside hp
  exact hx.readText_eq h.wellFormed (fun q hq => h.output_ne_source hq hp) hn.isFile

/-- While pages are built, the template is read as before. -/
lemma readText_template (hx : UnderWay extensions sources s x) {p : Path} (hp : p ∈ sources) :
    x.store.readText (Build.templateOf build) = s.readText (Build.templateOf build) :=
  hx.readText_eq h.wellFormed (fun _ hq => h.output_ne_template hq)
    (Build.checkTemplate_spec h.accepted hp).1

/-- An output stays no link. -/
private lemma noLink (hx : UnderWay extensions sources s x) (n : Name) (u : Path) :
    x.store.entryAt (n :: l) ≠ some (.link u) :=
  (hx.rewrites.grows.plain h.wellFormed h.plain).noLink _ u (List.suffix_cons n l) (by simp)

/-- While pages are built, an output is the entry of its name. -/
lemma entryAt_of_output (hx : UnderWay extensions sources s x) {p : Path} {n : Name}
    (hn : IsName n) (hout : outputOf p = build.child n) {id : FileId}
    (hid : x.store.node (outputOf p) = .ok (.file id)) :
    x.store.entryAt (n :: l) = some (.file id) := by
  rw [hout] at hid
  exact ((FileStore.node_child_eq_file_iff (hx.rewrites.grows.node h.directory) hn
    (h.noLink hx _)).1 hid).2

/-- Two outputs that lead to one file are the same. -/
private lemma output_eq (hx : UnderWay extensions sources s x) {p q : Path} (hp : p ∈ sources)
    (hq : q ∈ sources) {id : FileId} (hpid : x.store.node (outputOf p) = .ok (.file id))
    (hqid : x.store.node (outputOf q) = .ok (.file id)) : outputOf p = outputOf q := by
  obtain ⟨n, hn⟩ := h.exists_beside hp
  obtain ⟨m, hm⟩ := h.exists_beside hq
  rw [hn.output] at hpid
  rw [hm.output] at hqid
  have heq := (hx.rewrites.grows.plain h.wellFormed h.plain).eq_of_sameFile
    (hx.rewrites.grows.node h.directory) hn.outputName hm.outputName
    (FileStore.isFile_iff.2 ⟨id, hqid⟩) (FileStore.sameFile_iff.2 ⟨_, hpid, hqid⟩)
  rw [hn.output, hm.output, heq]

/-- An output can still be written while pages are built.

**Proof sketch.** The path of the output fits, as it could be written at the start. What stands
there now was there then and is a file, or was added since and is the file of a page. -/
private lemma exists_write (hx : UnderWay extensions sources s x) {p : Path} (hp : p ∈ sources)
    (c : Contents) : ∃ t, FileStore.write (outputOf p) c x.store = .ok () t := by
  obtain ⟨n, hn⟩ := h.exists_beside hp
  obtain ⟨c', t, hwrite⟩ := h.writable p hp
  have hlink : ∀ u, s.entryAt (outputName n :: l) ≠ some (.link u) := fun u =>
    h.plain.noLink _ u (List.suffix_cons _ l) (by simp)
  rw [hn.output] at hwrite
  obtain ⟨hfits, hentry⟩ :=
    (FileStore.write_child_eq_ok_iff_of_noLink h.directory hn.outputName hlink).1 hwrite
  rw [hn.output]
  have hwritable := fun t => FileStore.write_child_eq_ok_iff_of_noLink (c := c) (t := t)
    (hx.rewrites.grows.node h.directory) hn.outputName (h.noLink hx _)
  cases he : x.store.entryAt (outputName n :: l) with
  | none => exact ⟨_, (hwritable _).2 ⟨hfits, Or.inl ⟨he, rfl⟩⟩⟩
  | some e =>
    have hfile : ∃ id, e = .file id := by
      rcases hx.added _ e he with hold | ⟨id, rfl, -⟩
      · rcases hentry with ⟨hnone, -⟩ | ⟨id, hid, -⟩
        · rw [hold] at hnone
          simp at hnone
        · exact ⟨id, by simpa [hold] using hid⟩
      · exact ⟨id, rfl⟩
    obtain ⟨id, rfl⟩ := hfile
    exact ⟨_, (hwritable _).2 ⟨hfits, Or.inr ⟨id, he, rfl⟩⟩⟩

/-! ## Faithful pages -/

/-- **The step**: what a page reads is what was there before. -/
lemma faithful_turn (hx : Faithful extensions (Build.templateOf build) sources s x) {p : Path}
    (hp : p ∈ sources) (hturn : Turn extensions (Build.templateOf build) x p y) :
    Faithful extensions (Build.templateOf build) sources s y :=
  ⟨hx.underWay.turn hp hturn,
    document_turn (h.readText_source hx.underWay hp) hx.document hturn,
    frame_turn (h.readText_template hx.underWay hp) hx.frame hturn⟩

variable (extensions) in
/-- **The run**: in every schedule the pages are made from what was there before. -/
theorem faithful_run {schedule : List Path} (hschedule : ∀ p ∈ schedule, p ∈ sources) :
    Faithful extensions (Build.templateOf build) sources s
      (run extensions (Build.templateOf build) schedule (initial s)) :=
  run_keeps (fun _ hp _ _ hturn hx => h.faithful_turn hx (hschedule _ hp) hturn)
    (faithful_initial _ _ _ s)

section Readable

variable (hread : ∀ p ∈ sources, ∃ document frame, s.readText p = .ok document ∧
  s.readText (Build.templateOf build) = .ok frame)

include hread

variable (extensions) in
/-- **No page fails** if the documents and the template can be read before.

**Proof sketch.** No step makes a page fail, by induction on the schedule: the document and the
template are read as they were at the start, because no output is one of them, and the output can
be written (`exists_write`). -/
theorem progress_ne_failed {schedule : List Path} (hschedule : ∀ p ∈ schedule, p ∈ sources)
    (q : Path) (cause : PageError) :
    (run extensions (Build.templateOf build) schedule (initial s)).progress q ≠
      .failed cause := by
  have hkeeps : ∀ p ∈ schedule, ∀ x y, Turn extensions (Build.templateOf build) x p y →
      (Faithful extensions (Build.templateOf build) sources s x ∧
        ∀ q cause, x.progress q ≠ .failed cause) →
      Faithful extensions (Build.templateOf build) sources s y ∧
        ∀ q cause, y.progress q ≠ .failed cause := by
    rintro p hp x y hturn ⟨hx, hnot⟩
    have hp := hschedule p hp
    refine ⟨h.faithful_turn hx hp hturn, fun q cause => ?_⟩
    obtain ⟨document, frame, hdocument, hframe⟩ := hread p hp
    rw [← h.readText_source hx.underWay hp] at hdocument
    rw [← h.readText_template hx.underWay hp] at hframe
    by_cases hqp : q = p
    · subst hqp
      cases hturn with
      | unopened _ hfail => simp [hdocument] at hfail
      | unready _ hfail => simp [hframe] at hfail
      | unwritten _ hfail =>
        obtain ⟨t, hwrite⟩ := h.exists_write hx.underWay hp _
        rw [hwrite] at hfail
        simp at hfail
      | finished _ => exact hnot q cause
      | _ => simp
    · obtain ⟨progress, hprogress, -⟩ := hturn.exists_progress
      rw [hprogress, Function.update_of_ne hqp]
      exact hnot q cause
  exact (run_keeps hkeeps ⟨faithful_initial _ _ _ s, fun _ _ => by simp [initial]⟩).2 q cause

variable (extensions) in
/-- **Every page is written in the end**, made from its document and the template as they were.

**Proof sketch.** All three steps of the page are taken, so it is over, and it has not failed
(`progress_ne_failed`). What it read are the document and the template as they were at the start.
-/
theorem progress_eq {schedule : List Path} (hschedule : IsInterleaving sources schedule) {p : Path}
    (hp : p ∈ sources) {document frame : Text} (hdocument : s.readText p = .ok document)
    (hframe : s.readText (Build.templateOf build) = .ok frame) :
    (run extensions (Build.templateOf build) schedule (initial s)).progress p =
      .written document frame := by
  have hx := h.faithful_run extensions fun q hq => hschedule.mem hq
  have hnot := h.progress_ne_failed extensions hread fun q hq => hschedule.mem hq
  obtain ⟨result, hresult⟩ := exists_result_of_interleaving extensions (Build.templateOf build)
    hschedule (initial s) hp
  set x := run extensions (Build.templateOf build) schedule (initial s)
  cases hprogress : x.progress p with
  | failed cause => exact absurd hprogress (hnot p cause)
  | written document' frame' =>
    have hd := hx.document p document' (by rw [hprogress]; rfl)
    have hf := hx.frame p frame' (by rw [hprogress]; rfl)
    rw [hdocument] at hd
    rw [hframe] at hf
    rw [Except.ok.inj hd, Except.ok.inj hf]
  | _ => simp [hprogress, Progress.result?] at hresult

variable (extensions) in
/-- All pages come as far in every order of their steps. -/
lemma progress_congr {schedule schedule' : List Path} (hschedule : IsInterleaving sources schedule)
    (hschedule' : IsInterleaving sources schedule') :
    (run extensions (Build.templateOf build) schedule' (initial s)).progress =
      (run extensions (Build.templateOf build) schedule (initial s)).progress := by
  funext p
  by_cases hp : p ∈ sources
  · obtain ⟨document, frame, hdocument, hframe⟩ := hread p hp
    rw [h.progress_eq extensions hread hschedule hp hdocument hframe,
      h.progress_eq extensions hread hschedule' hp hdocument hframe]
  · rw [progress_run fun hmem => hp (hschedule.mem hmem),
      progress_run fun hmem => hp (hschedule'.mem hmem)]

end Readable

end Start

/-! ## Pages that were built -/

namespace Builds

variable {schedule : List Path} {built : List BuiltPage} {t : FileStore}
  (h : Builds extensions (Build.templateOf build) sources schedule s built t)

include h

/-- Pages that were built by some schedule could be written before the first one was. -/
lemma start (hs : s.LinkFree) (hl : s.node build = .ok (.directory l))
    (found : discover s build Page.sourceExtension = .ok sources)
    (accepted : Build.checkTemplate (Build.templateOf build) sources s = .ok ()) :
    Start build l s sources :=
  start_of_written hs hl found accepted
    (underWay_run extensions _ fun _ hp => h.interleaving.mem hp) fun _ hp => h.exists_written hp

/-- Pages that were built by some schedule could be read before the first one was written. -/
lemma readable (hstart : Start build l s sources) :
    ∀ p ∈ sources, ∃ document frame, s.readText p = .ok document ∧
      s.readText (Build.templateOf build) = .ok frame := by
  intro p hp
  have hx := hstart.faithful_run extensions fun _ hq => h.interleaving.mem hq
  obtain ⟨document, frame, hprogress⟩ := h.exists_written hp
  exact ⟨document, frame, hx.document p document (by rw [hprogress]; rfl),
    hx.frame p frame (by rw [hprogress]; rfl)⟩

/-- **In every order of the steps the same pages are built**, though where two of them have one
output, the files after that may differ. -/
theorem reorder (hstart : Start build l s sources) {schedule' : List Path}
    (hschedule : IsInterleaving sources schedule') :
    Builds extensions (Build.templateOf build) sources schedule' s built
      (run extensions (Build.templateOf build) schedule' (initial s)).store := by
  refine ⟨hschedule, ?_, rfl⟩
  rw [hstart.progress_congr extensions (h.readable hstart) h.interleaving hschedule, h.results]

end Builds

namespace Start

variable (h : Start build l s sources)

include h

/-! ## What the outputs hold -/

/-- **Every output holds a page of this output.** -/
theorem exists_page_in_output (hx : UnderWay extensions sources s x) {p : Path}
    {document frame : Text} (hp : x.progress p = .written document frame) :
    ∃ id q document' frame', x.store.node (outputOf p) = .ok (.file id) ∧ q ∈ sources ∧
      outputOf q = outputOf p ∧ x.progress q = .written document' frame' ∧
      x.store.contentsOf id = .text (compose extensions frame' document').text := by
  obtain ⟨id, hid, q, document', frame', hq, hqid, hc⟩ := hx.written p document frame hp
  have hpmem := hx.mem p (by simp [hp])
  have hqmem := hx.mem q (by simp [hq])
  exact ⟨id, q, document', frame', hid, hqmem, h.output_eq hx hqmem hpmem hqid hid, hq, hc⟩

section Distinct

variable (hout : (sources.map outputOf).Nodup)

include hout

/-- If the outputs are distinct, every output holds its own page. -/
private lemma contentsOf_output (hx : UnderWay extensions sources s x) {p : Path}
    {document frame : Text} (hp : x.progress p = .written document frame) {id : FileId}
    (hid : x.store.node (outputOf p) = .ok (.file id)) :
    x.store.contentsOf id = .text (compose extensions frame document).text := by
  obtain ⟨id', q, document', frame', hid', hq, hqout, hqwritten, hc⟩ :=
    h.exists_page_in_output hx hp
  obtain rfl : q = p := List.inj_on_of_nodup_map hout hq (hx.mem p (by simp [hp])) hqout
  rw [hp] at hqwritten
  rw [hid] at hid'
  obtain rfl : id = id' := by simpa using hid'
  obtain ⟨rfl, rfl⟩ := Progress.written.inj hqwritten
  exact hc

/-- Two page passes that have come as far have left the same in a file that was there before. -/
private lemma contentsOf_eq (hx : UnderWay extensions sources s x)
    (hy : UnderWay extensions sources s y) (hprogress : y.progress = x.progress) {m : Location}
    {id : FileId} (hid : s.entryAt m = some (.file id)) :
    y.store.contentsOf id = x.store.contentsOf id := by
  have hnumber := h.wellFormed.numbered m id hid
  by_cases hwritten : ∃ p document frame, x.progress p = .written document frame ∧
      s.node (outputOf p) = .ok (.file id)
  · obtain ⟨p, document, frame, hp, hnode⟩ := hwritten
    rw [h.contentsOf_output hout hx hp (hx.rewrites.grows.node hnode),
      h.contentsOf_output hout hy (hprogress ▸ hp) (hy.rewrites.grows.node hnode)]
  · have hkept : ∀ {z : PagePass}, UnderWay extensions sources s z → z.progress = x.progress →
        z.store.contentsOf id = s.contentsOf id := by
      intro z hz hzx
      by_contra hne
      obtain ⟨p, document, frame, hp, hnode, -⟩ := hz.changed id hne
      exact hwritten ⟨p, document, frame, hzx ▸ hp, hz.rewrites.node_of_old hnode hnumber⟩
    rw [hkept hx rfl, hkept hy hprogress]

/-- What one of two page passes that have come as far shows at a location, the other one shows.

**Proof sketch.** An entry that was there at the start is there in both, and a file of it holds the
same, as what it holds depends on the progress only (`contentsOf_eq`). A new file is the output of
a page that is written; the other page pass has written this page as well, to the same place and
with the same contents. -/
private lemma itemAt_of_progress (hx : UnderWay extensions sources s x)
    (hy : UnderWay extensions sources s y) (hprogress : y.progress = x.progress) {m : Location}
    {item : Item} (hitem : x.store.itemAt m = some item) : y.store.itemAt m = some item := by
  obtain ⟨e, he, rfl⟩ := Option.map_eq_some_iff.1 hitem
  cases hs : s.entryAt m with
  | some e' =>
    obtain rfl : e' = e := by
      rw [hx.rewrites.grows.entryAt hs] at he
      exact Option.some.inj he
    rw [FileStore.itemAt, hy.rewrites.grows.entryAt hs, Option.map_some]
    cases e' with
    | directory => rfl
    | link u => rfl
    | file id =>
      rw [FileStore.itemOf, FileStore.itemOf, h.contentsOf_eq hout hx hy hprogress hs]
  | none =>
    -- a new file is the output of a page, which the other pass has made as well
    rcases hx.added m e he with hold | ⟨id, rfl, p, document, frame, hp, hnode, hc⟩
    · rw [hs] at hold
      simp at hold
    · have hpmem := hx.mem p (by simp [hp])
      obtain ⟨n, hn⟩ := h.exists_beside hpmem
      have hnew : s.freshId.number ≤ id.number := by
        rcases hx.rewrites.grows.entryAt_or he with hold | ⟨-, hd | ⟨i, hi, hnumber⟩⟩
        · rw [hs] at hold
          simp at hold
        · simp at hd
        · obtain rfl : id = i := by simpa using hi
          exact hnumber
      obtain rfl : m = outputName n :: l := hx.rewrites.grows.eq_of_new h.wellFormed hnew he
        (h.entryAt_of_output hx hn.outputName hn.output hnode)
      obtain ⟨i, hi, -⟩ := hy.written p document frame (hprogress ▸ hp)
      have hc' := h.contentsOf_output hout hy (hprogress ▸ hp) hi
      rw [FileStore.itemAt, h.entryAt_of_output hy hn.outputName hn.output hi, Option.map_some,
        FileStore.itemOf, FileStore.itemOf, hc, hc']

/-- **Two page passes that have come as far have left the same disk.** -/
theorem sameDisk_of_progress (hx : UnderWay extensions sources s x)
    (hy : UnderWay extensions sources s y) (hprogress : y.progress = x.progress) :
    SameDisk x.store y.store := by
  refine .of_grows h.wellFormed hx.rewrites.grows hy.rewrites.grows fun m => ?_
  refine Option.ext fun item => ⟨fun hitem => ?_, fun hitem => ?_⟩
  · exact h.itemAt_of_progress hout hy hx hprogress.symm hitem
  · exact h.itemAt_of_progress hout hx hy hprogress hitem

end Distinct

end Start

/-! ## All orders of the steps -/

/-- **Pages are independent.** In a build directory without links, let some Markdown files with
different outputs be readable, and their outputs writable. Then they can be built one after another,
and however their steps follow each other, the pages are the same and so is the disk.

**Proof sketch.** No page fails, whatever the schedule (`progress_ne_failed`), so building them one
after another succeeds, and that is a schedule as well (`run_pageByPage`). Under two schedules the
pages come as far in the end (`progress_congr`), and page passes that have come as far leave the
same disk, because the outputs are different (`sameDisk_of_progress`). -/
theorem interleaving_eq_pageByPage (extensions : Markdown.Extensions) (h : Start build l s sources)
    (hread : ∀ p ∈ sources, ∃ document frame, s.readText p = .ok document ∧
      s.readText (Build.templateOf build) = .ok frame)
    (hout : (sources.map outputOf).Nodup) :
    ∃ built after,
      Build.pages extensions (Build.templateOf build) sources s = .ok built after ∧
      ∀ schedule, IsInterleaving sources schedule →
        let x := run extensions (Build.templateOf build) schedule (initial s)
        (sources.map fun p => (x.progress p).result? extensions p) =
            built.map (fun page => some (.ok page)) ∧
          SameDisk after x.store := by
  have hnodup : sources.Nodup := List.Nodup.of_map _ hout
  obtain ⟨built, after, hbuilt⟩ : ∃ built after,
      Build.pages extensions (Build.templateOf build) sources s = .ok built after := by
    obtain ⟨schedule, hfront, -, hfailed⟩ := exists_run_pages extensions
      (Build.templateOf build) hnodup (initial s) fun _ _ => rfl
    cases hpages : Build.pages extensions (Build.templateOf build) sources s with
    | ok built after => exact ⟨built, after, rfl⟩
    | error cause t =>
      obtain ⟨p, hp⟩ := hfailed cause t hpages
      refine absurd hp (h.progress_ne_failed extensions hread (fun q hq => ?_) p cause)
      exact mem_of_mem_pageByPage (hfront.subset hq)
  refine ⟨built, after, hbuilt, fun schedule hschedule => ?_⟩
  obtain ⟨hafter, hresults⟩ := run_pageByPage extensions (Build.templateOf build) hnodup (initial s)
    (fun _ _ => rfl) hbuilt
  have hsame : IsInterleaving sources (pageByPage sources) := List.Perm.refl _
  have hprogress := h.progress_congr extensions hread hsame hschedule
  refine ⟨?_, ?_⟩
  · rw [hprogress, hresults]
  · rw [← hafter]
    exact h.sameDisk_of_progress hout (underWay_run extensions _ fun p hp => hsame.mem hp)
      (underWay_run extensions _ fun p hp => hschedule.mem hp) hprogress

/-- A build directory with a template and two Markdown files. -/
def twoPages : FileStore :=
  (((({} : FileStore).setEntry ["b".toList] .directory).newFile
    ["template.html".toList, "b".toList] (.text "<p>{{CONTENT}}</p>".toList)).newFile
    ["x.md".toList, "b".toList] (.text "1".toList)).newFile ["y.md".toList, "b".toList]
    (.text "2".toList)

/-- The Markdown files of the build directory with two of them. -/
def twoSources : List Path := [⟨"b/x.md".toList⟩, ⟨"b/y.md".toList⟩]

/-- The pages of the two Markdown files can be built. -/
private lemma start_twoPages : Start ⟨"b".toList⟩ ["b".toList] twoPages twoSources := by
  have hmade : made [.makeDirectories ⟨"b".toList⟩,
      .write ⟨"b/template.html".toList⟩ (.text "<p>{{CONTENT}}</p>".toList),
      .write ⟨"b/x.md".toList⟩ (.text "1".toList),
      .write ⟨"b/y.md".toList⟩ (.text "2".toList)] = twoPages := by
    cbv
  have hs : twoPages.LinkFree := by
    rw [← hmade]
    exact linkFree_made (by simp [Change.MakesNoLink])
  refine ⟨hs.wellFormed, by cbv, hs.plainAt _, ⟨twoSources, by cbv, fun _ => id⟩, by cbv, ?_⟩
  simp only [twoSources, List.forall_mem_cons]
  refine ⟨⟨.text [], twoPages.newFile ["x.html".toList, "b".toList] (.text []), by cbv⟩,
    ⟨.text [], twoPages.newFile ["y.html".toList, "b".toList] (.text []), by cbv⟩, by simp⟩

/-- Two pages built at once are those that are built one after another. -/
theorem interleaving_eq_pageByPage_twoPages :
    ∃ after, Build.pages {} ⟨"b/template.html".toList⟩ twoSources twoPages =
        .ok [⟨⟨"b/x.md".toList⟩, ⟨"b/x.html".toList⟩, []⟩,
          ⟨⟨"b/y.md".toList⟩, ⟨"b/y.html".toList⟩, []⟩]
          after ∧
      after.readText ⟨"b/x.html".toList⟩ = .ok "<p><p>1</p>\n</p>".toList ∧
      SameDisk after (run {} ⟨"b/template.html".toList⟩ [⟨"b/y.md".toList⟩, ⟨"b/x.md".toList⟩,
        ⟨"b/x.md".toList⟩, ⟨"b/y.md".toList⟩, ⟨"b/y.md".toList⟩, ⟨"b/x.md".toList⟩]
        (initial twoPages)).store := by
  have hread : ∀ p ∈ twoSources, ∃ document frame, twoPages.readText p = .ok document ∧
      twoPages.readText (Build.templateOf ⟨"b".toList⟩) = .ok frame := by
    simp only [twoSources, List.forall_mem_cons]
    exact ⟨⟨"1".toList, "<p>{{CONTENT}}</p>".toList, by cbv, by cbv⟩,
      ⟨"2".toList, "<p>{{CONTENT}}</p>".toList, by cbv, by cbv⟩, by simp⟩
  have hrun : Build.pages {} ⟨"b/template.html".toList⟩ twoSources twoPages =
      .ok [⟨⟨"b/x.md".toList⟩, ⟨"b/x.html".toList⟩, []⟩,
        ⟨⟨"b/y.md".toList⟩, ⟨"b/y.html".toList⟩, []⟩]
        ((twoPages.newFile ["x.html".toList, "b".toList] (.text "<p><p>1</p>\n</p>".toList)).newFile
          ["y.html".toList, "b".toList] (.text "<p><p>2</p>\n</p>".toList)) := by
    cbv
  obtain ⟨built, after, hbuilt, hall⟩ :=
    interleaving_eq_pageByPage {} start_twoPages hread (by cbv; decide)
  obtain ⟨rfl, rfl⟩ := EStateM.Result.ok.inj (hrun.symm.trans hbuilt)
  refine ⟨_, hrun, by cbv, (hall _ ?_).2⟩
  unfold IsInterleaving
  decide

end StaticSite.PagePass
