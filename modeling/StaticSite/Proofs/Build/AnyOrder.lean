import Mathlib
import StaticSite.Proofs.Build.Overlay
import StaticSite.Proofs.Build.Readable
import StaticSite.Proofs.Build.ScheduledRun

set_option relaxedAutoImplicit false
set_option autoImplicit false

/-!
# Building in another order

On a disk without links the order in which the steps of the pages come does not decide whether a
build succeeds, nor where there are files in the end. It decides what a file holds only if several
pages have it as their output: then the last of them to be written is left. If no two pages have one
output, the build does the same in every order, in all its passes.

## Main definitions

* `StaticSite.PagePass.IsOutput` — a page was written to a location.

## Main results

* `StaticSite.PagePass.Start.itemAt_of_not_output`, `StaticSite.PagePass.Start.exists_text` — what
  is seen while pages are built.
* `StaticSite.ScheduledRun.exists_reordered` — a build in another order.
-/

namespace StaticSite

open StaticSite.Action
open StaticSite.FileStore (Overlay SameDisk)
open StaticSite.Page (compose outputOf outputName)
open StaticSite.Path (IsName)

namespace PagePass

/-- A page was written to a location. -/
def IsOutput (build : Path) (l : Location) (s : FileStore) (x : PagePass) (m : Location) : Prop :=
  ∃ p n document frame, x.progress p = .written document frame ∧ Beside build s p n ∧
    m = outputName n :: l

namespace Start

variable {extensions : Markdown.Extensions} {build : Path} {l m : Location} {s : FileStore}
  {sources : List Path} {x y : PagePass} (h : Start build l s sources) (hs : s.LinkFree)
  (hx : UnderWay extensions sources s x)

include h hx

/-! ## What is seen while pages are built -/

/-- **An output to which a page was written holds a text.** -/
lemma exists_text (hm : IsOutput build l s x m) :
    ∃ t, x.store.itemAt m = some (.file (.text t)) := by
  obtain ⟨p, n, document, frame, hp, hn, rfl⟩ := hm
  obtain ⟨id, hid, q, document', frame', -, -, hc⟩ := hx.written p document frame hp
  exact ⟨_, FileStore.itemAt_eq_file_iff.2
    ⟨id, h.entryAt_of_output hx hn.outputName hn.output hid, hc⟩⟩

include hs

/-- **Everywhere else the same is seen as before.**

**Proof sketch.** An entry that is new is that of a file which holds a page, and without links such
a file is at the output of this page only. An entry that was there is there still, and its file has
changed only if it holds a page. -/
lemma itemAt_of_not_output (hm : ¬IsOutput build l s x m) : x.store.itemAt m = s.itemAt m := by
  have hgrows := hx.rewrites.grows
  -- without links a file that holds a page is nowhere but at an output
  have hnot : ∀ {id}, x.store.entryAt m = some (.file id) → ¬Holds extensions x id := by
    rintro id he ⟨p, document, frame, hp, hnode, -⟩
    obtain ⟨n, hn⟩ := h.exists_beside (hx.mem p (by simp [hp]))
    exact hm ⟨p, n, document, frame, hp, hn, (hs.grows hgrows).eq_of_entryAt he
      (h.entryAt_of_output hx hn.outputName hn.output hnode)⟩
  cases he : s.entryAt m with
  | none =>
    have hnone : x.store.entryAt m = none := by
      by_contra hsome
      obtain ⟨e, he'⟩ := Option.ne_none_iff_exists'.1 hsome
      rcases hx.added m e he' with hold | ⟨id, rfl, hheld⟩
      · simp [he] at hold
      · exact hnot he' hheld
    rw [FileStore.itemAt_eq_none_iff.2 he, FileStore.itemAt_eq_none_iff.2 hnone]
  | some e =>
    have he' := hgrows.entryAt he
    rw [FileStore.itemAt, FileStore.itemAt, he, he', Option.map_some, Option.map_some]
    cases e with
    | directory => rfl
    | link u => rfl
    | file id =>
      have hc : x.store.contentsOf id = s.contentsOf id := by
        by_contra hne
        exact hnot he' (hx.changed id hne)
      rw [FileStore.itemOf, FileStore.itemOf, hc]

variable (hy : UnderWay extensions sources s y) (hprogress : y.progress = x.progress)

include hy hprogress

/-- Page passes that have come as far have made the same files and directories. -/
private lemma extends_of_progress : x.store.Extends y.store := by
  intro m e he
  by_cases hm : IsOutput build l s x m
  · obtain ⟨t, ht⟩ := h.exists_text hx hm
    obtain ⟨id, hid, -⟩ := FileStore.itemAt_eq_file_iff.1 ht
    obtain rfl : e = .file id := Option.some.inj (he.symm.trans hid)
    unfold IsOutput at hm
    rw [← hprogress] at hm
    obtain ⟨u, hu⟩ := h.exists_text hy hm
    obtain ⟨i, hi, -⟩ := FileStore.itemAt_eq_file_iff.1 hu
    exact ⟨_, hi, trivial⟩
  · apply FileStore.sameKind_of_itemAt _ he
    rw [h.itemAt_of_not_output hs hx hm]
    unfold IsOutput at hm
    rw [← hprogress] at hm
    exact h.itemAt_of_not_output hs hy hm

/-- Page passes that have come as far have left texts in the same places. -/
private lemma text_of_progress (hm : ∃ t, x.store.itemAt m = some (.file (.text t))) :
    ∃ t, y.store.itemAt m = some (.file (.text t)) := by
  by_cases hout : IsOutput build l s y m
  · exact h.exists_text hy hout
  · rw [h.itemAt_of_not_output hs hy hout]
    unfold IsOutput at hout
    rw [hprogress] at hout
    rwa [h.itemAt_of_not_output hs hx hout] at hm

end Start

end PagePass

/-- The same names take part in navigation where there are the same files and directories. -/
private lemma Build.IsNavigated.of_extends {build : Path} {l : Location} {s t : FileStore}
    {n : Name} (h : IsNavigated build s n) (hs : s.LinkFree) (ht : t.LinkFree)
    (hsl : s.node build = .ok (.directory l)) (htl : t.node build = .ok (.directory l))
    (hextends : s.Extends t) : IsNavigated build t n := by
  obtain ⟨⟨l', hl', hentry⟩, hhtml, hfile, hnot⟩ := h
  obtain rfl : l = l' := by simpa using hsl.symm.trans hl'
  have hn := hs.wellFormed.isName n l hentry
  obtain ⟨hfits, id, hid⟩ := (FileStore.isFile_child_iff hsl hn hs).1 hfile
  obtain ⟨e, he, hkind⟩ := hextends _ _ hid
  obtain ⟨i, rfl⟩ := hkind.eq_file
  have hfile' := (FileStore.isFile_child_iff htl hn ht).2 ⟨hfits, i, he⟩
  refine ⟨⟨l, htl, by simp [he]⟩, hhtml, hfile', ?_⟩
  rw [← Bool.not_eq_true] at hnot ⊢
  unfold templateOf at hnot ⊢
  rwa [FileStore.sameFile_child_iff htl hn ht isName_templateName hfile',
    ← FileStore.sameFile_child_iff hsl hn hs isName_templateName hfile]

/-- The navigation pass goes through where there are the same files and directories, with texts in
the same places.

**Proof sketch.** The pass goes through exactly if all its pages are texts
(`fillIn_pass_ok_iff`), and its pages are the same (`IsNavigated.of_extends`). -/
private lemma Build.exists_filled_of_extends {build : Path} {l : Location} {s t after : FileStore}
    {includeSelf : Bool} {generated : List Path} {all : List NavPage}
    {navigated : List NavigatedPage} (hs : s.LinkFree) (ht : t.LinkFree)
    (hsl : s.node build = .ok (.directory l)) (htl : t.node build = .ok (.directory l))
    (hextends : t.Extends s)
    (htext : ∀ m, (∃ u, s.itemAt m = some (.file (.text u))) →
      ∃ u, t.itemAt m = some (.file (.text u)))
    (hlisted : navPages build s = .ok all)
    (hfilled : all.mapM (fillIn includeSelf generated all) s = .ok navigated after) :
    ∃ all' navigated' after', navPages build t = .ok all' ∧
      all'.mapM (fillIn includeSelf generated all') t = .ok navigated' after' := by
  have hlisted' := navPages_of_node htl
  have htexts : ∀ page ∈ (navNames build l t).map fun n => NavPage.of build (build.child n),
      ∃ u, t.readText page.path = .ok u := by
    intro page hpage
    obtain ⟨n, hn, rfl⟩ := List.mem_map.1 hpage
    have hname := isName_of_mem_navNames ht.wellFormed hn
    have hnavigated := ((mem_navNames_iff htl).1 hn).of_extends ht hs htl hsl hextends
    have hmem : NavPage.of build (build.child n) ∈ all := by
      rw [navPages_of_node hsl] at hlisted
      rw [← Except.ok.inj hlisted]
      exact List.mem_map_of_mem ((mem_navNames_iff hsl).2 hnavigated)
    have hread := (fillIn_pass_ok_iff _ _ fun page => isFile_of_navPages hlisted).1
      ⟨_, _, hfilled⟩ _ hmem
    obtain ⟨hfits, hitem⟩ := (FileStore.exists_readText_child_iff hsl hname hs).1 hread
    exact (FileStore.exists_readText_child_iff htl hname ht).2 ⟨hfits, htext _ hitem⟩
  obtain ⟨navigated', after', hfilled'⟩ := (fillIn_pass_ok_iff includeSelf generated
    fun page => isFile_of_navPages hlisted').2 htexts
  exact ⟨_, navigated', after', hlisted', hfilled'⟩

namespace ScheduledRun

open StaticSite.Build

variable {source build : Path} {config : Config} {schedule schedule' : List Path}
  {s after : FileStore} (r : ScheduledRun source build config schedule s after) (hs : s.LinkFree)
  (hperm : schedule'.Perm schedule)

include r hs hperm

/-! ## Another order -/

/-- In every order of the steps a build succeeds, and makes the same files and directories.

**Proof sketch.** The pages are built in every order (`PagePass.Builds.reorder`). Then there are the
same files (`PagePass.Start.extends_of_progress`), with texts in the same places
(`PagePass.Start.text_of_progress`), so the navigation pass goes through as well
(`Build.exists_filled_of_extends`). -/
private lemma exists_reordered_any :
    ∃ after', Nonempty (ScheduledRun source build config schedule' s after') ∧
    after'.Extends after ∧ after.Extends after' := by
  obtain ⟨l, hl⟩ := node_of_checkDirectories r.checked
  have hcopy := hs.grows r.grows_copy
  have hstart := r.start hs hl
  have hpaged := r.paged.reorder hstart (hperm.trans r.paged.interleaving)
  have hprogress := hstart.progress_congr config.markdown (r.paged.readable hstart)
    r.paged.interleaving hpaged.interleaving
  have hx := r.underWay
  have hy : PagePass.UnderWay config.markdown r.sources r.afterCopy
      (PagePass.run config.markdown (templateOf build) schedule' (.initial r.afterCopy)) :=
    PagePass.underWay_run config.markdown _ fun _ hp => hpaged.interleaving.mem hp
  have hstore := r.paged.store
  set x := PagePass.run config.markdown (templateOf build) schedule (.initial r.afterCopy)
  set y := PagePass.run config.markdown (templateOf build) schedule' (.initial r.afterCopy)
  have hxl : x.store.node build = .ok (.directory l) :=
    hx.rewrites.grows.node (r.grows_copy.node hl)
  have hyl : y.store.node build = .ok (.directory l) :=
    hy.rewrites.grows.node (r.grows_copy.node hl)
  have hxfree := hcopy.grows hx.rewrites.grows
  have hyfree := hcopy.grows hy.rewrites.grows
  have hxy := hstart.extends_of_progress hcopy hx hy hprogress
  have hyx := hstart.extends_of_progress hcopy hy hx hprogress.symm
  obtain ⟨all, navigated, after', hlisted, hfilled⟩ := exists_filled_of_extends hxfree hyfree hxl
    hyl hyx (fun m => hstart.text_of_progress hcopy hx hy hprogress) (hstore ▸ r.listed)
    (hstore ▸ r.filled)
  have hrun : ScheduledRun source build config schedule' s after' :=
    ⟨r.checked, r.copied, r.afterCopy, r.copy, r.sources, r.found, r.accepted, r.built, y.store,
      hpaged, all, hlisted, navigated, hfilled⟩
  refine ⟨after', ⟨hrun⟩, fun m e he => ?_, fun m e he => ?_⟩
  · rw [entryAt_of_filled hfilled] at he
    rw [entryAt_of_filled (hstore ▸ r.filled)]
    exact hyx m e he
  · rw [entryAt_of_filled (hstore ▸ r.filled)] at he
    rw [entryAt_of_filled hfilled]
    exact hxy m e he

/-- If no two pages have one output, a build does the same in every order.

**Proof sketch.** The page pass leaves the same disk (`PagePass.Start.sameDisk_of_progress`), and
then the navigation pass does the same, because it knows files by what is seen of them. -/
private lemma exists_reordered_of_nodup (hout : (r.built.map BuiltPage.output).Nodup) :
    ∃ (after' : FileStore) (r' : ScheduledRun source build config schedule' s after'),
      r'.summary = r.summary ∧ r'.events = r.events ∧ ∀ l, after'.itemAt l = after.itemAt l := by
  obtain ⟨l, hl⟩ := node_of_checkDirectories r.checked
  have hstart := r.start hs hl
  have hpaged := r.paged.reorder hstart (hperm.trans r.paged.interleaving)
  have hprogress := hstart.progress_congr config.markdown (r.paged.readable hstart)
    r.paged.interleaving hpaged.interleaving
  rw [r.paged.map_output] at hout
  have hy : PagePass.UnderWay config.markdown r.sources r.afterCopy
      (PagePass.run config.markdown (templateOf build) schedule' (.initial r.afterCopy)) :=
    PagePass.underWay_run config.markdown _ fun _ hp => hpaged.interleaving.mem hp
  have hsame : SameDisk r.afterPages _ :=
    r.paged.store ▸ hstart.sameDisk_of_progress hout r.underWay hy hprogress
  have hpages := (hs.grows r.grows_copy).grows r.rewrites_pages.grows
  have hover : Overlay r.afterPages r.afterPages _ :=
    ⟨hpages, (hs.grows r.grows_copy).grows hy.rewrites.grows, hsame.workingDirectory, fun m => by
      rw [hsame.itemAt, Option.or_self]⟩
  have hlisted := (navPages_overlay hover
    ((r.grows_copy.trans r.rewrites_pages.grows).node hl) fun n id hn _ => by simp [hn]).trans
      r.listed
  obtain ⟨after', hfilled, hafter⟩ := mapM_mirrored (R := Overlay r.afterPages) r.filled
    (fun _ _ _ _ _ hturn => mirrored_fillIn hturn.run) _ hover
  refine ⟨after', ⟨r.checked, r.copied, r.afterCopy, r.copy, r.sources, r.found, r.accepted,
    r.built, _, hpaged, r.all, hlisted, r.navigated, hfilled⟩, rfl, rfl, fun m => ?_⟩
  rw [hafter.itemAt]
  cases he : after.itemAt m with
  | some i => rfl
  | none =>
    rw [FileStore.itemAt_eq_none_iff, entryAt_of_filled r.filled] at he
    rw [Option.none_or, FileStore.itemAt_eq_none_iff.2 he]

/-- **A build in another order** of the steps of its pages succeeds, and makes the same files and
directories. If no two pages have one output, it does the same in all. -/
theorem exists_reordered :
    ∃ (after' : FileStore) (r' : ScheduledRun source build config schedule' s after'),
      (after'.Extends after ∧ after.Extends after') ∧
        (schedule' = schedule ∨ (r.built.map BuiltPage.output).Nodup →
          r'.summary = r.summary ∧ r'.events = r.events ∧
            ∀ l, after'.itemAt l = after.itemAt l) := by
  rcases em (schedule' = schedule) with rfl | hne
  · exact ⟨after, r, ⟨.refl after, .refl after⟩, fun _ => ⟨rfl, rfl, fun _ => rfl⟩⟩
  rcases em (r.built.map BuiltPage.output).Nodup with hout | hout
  · obtain ⟨after', r', hsummary, hevents, hitem⟩ := r.exists_reordered_of_nodup hs hperm hout
    refine ⟨after', r', ⟨fun m e he => ?_, fun m e he => ?_⟩, fun _ => ⟨hsummary, hevents, hitem⟩⟩
    · exact FileStore.sameKind_of_itemAt (hitem m).symm he
    · exact FileStore.sameKind_of_itemAt (hitem m) he
  · obtain ⟨after', ⟨r'⟩, hextends⟩ := r.exists_reordered_any hs hperm
    exact ⟨after', r', hextends, fun hsame => (hsame.elim hne hout).elim⟩

end ScheduledRun

end StaticSite
