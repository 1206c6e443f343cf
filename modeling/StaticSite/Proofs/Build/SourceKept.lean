import Mathlib
import StaticSite.Proofs.Build.CopiedTree
import StaticSite.Proofs.Build.Failure
import StaticSite.Proofs.Build.TemplateKept

set_option relaxedAutoImplicit false
set_option autoImplicit false

/-!
# The source tree is kept

On a disk without links all passes of a build write below the build directory: the copy at the
counterparts of what it copies, the later passes at entries of the build directory itself. So the
source tree stays as it is, apart from what lies below the build directory, however the two
directories lie to each other and wherever the build fails.

## Main definitions

* `StaticSite.Build.ChangedBelow` — two stores look different below a directory at most.

## Main results

* `StaticSite.Build.ChangedBelow.write`, `StaticSite.Build.ChangedBelow.setContents` — the steps:
  entries of the directory are written.
* `StaticSite.Build.changedBelow_moment`, `StaticSite.Build.changedBelow_buildSiteWith` — the runs.
* `StaticSite.Build.source_kept` — a build leaves the source tree as it is.
-/

namespace StaticSite.Build

open StaticSite.Action
open StaticSite.FileStore (Grows)
open StaticSite.PagePass (run initial)
open StaticSite.Path (IsName)

/-- A store shows what another one shows everywhere but below a directory, and nothing is
removed. -/
structure ChangedBelow (base : Location) (s t : FileStore) : Prop where
  /-- Nothing is removed. -/
  grows : Grows s t
  /-- What is seen elsewhere. -/
  itemAt : ∀ m, (base <:+ m → m = base) → t.itemAt m = s.itemAt m

namespace ChangedBelow

variable {build : Path} {base : Location} {s t u : FileStore}

/-- A store has not changed from itself. -/
lemma refl (base : Location) (s : FileStore) : ChangedBelow base s s := ⟨.refl, fun _ _ => rfl⟩

/-- Changes below a directory add up. -/
lemma trans (h : ChangedBelow base s t) (h' : ChangedBelow base t u) : ChangedBelow base s u :=
  ⟨h.grows.trans h'.grows, fun m hm => (h'.itemAt m hm).trans (h.itemAt m hm)⟩

/-- What is seen at an entry of a directory is below it. -/
private lemma of_child {n : Name} (hgrows : Grows s t)
    (h : ∀ m, m ≠ n :: base → t.itemAt m = s.itemAt m) : ChangedBelow base s t := by
  refine ⟨hgrows, fun m hm => h m ?_⟩
  rintro rfl
  exact List.cons_ne_self n base (hm (List.suffix_cons n base))

variable (hs : s.LinkFree) (hl : s.node build = .ok (.directory base)) (h : ChangedBelow base s t)

include hs hl h

/-- An entry of the directory is written. -/
theorem write {n : Name} (hn : IsName n) {c : Contents}
    (hw : FileStore.write (build.child n) c t = .ok () u) : ChangedBelow base s u := by
  refine h.trans
    (of_child (n := n) (.single (.write (FileStore.writes_of_write hw))) fun m hm => ?_)
  rw [FileStore.itemAt_of_write (h.grows.node hl) hn (hs.grows h.grows) hw, if_neg hm]

/-- An entry of the directory is overwritten. -/
theorem setContents {n : Name} (hn : IsName n) {id : FileId}
    (hid : t.node (build.child n) = .ok (.file id)) (c : Contents) :
    ChangedBelow base s (t.setContents id c) := by
  have hfree := hs.grows h.grows
  obtain ⟨-, he⟩ := (FileStore.node_child_eq_file_iff (h.grows.node hl) hn
    (hfree.entryAt_ne_link _)).1 hid
  refine h.trans (of_child (n := n) (.single (.write (FileStore.writes_setContents hid c)))
    fun m hm => ?_)
  rw [hfree.itemAt_setContents he, if_neg hm]

end ChangedBelow

/-! ## The passes -/

section Passes

variable {build : Path} {base : Location} {config : Config} {start t : FileStore}
  (hstart : start.LinkFree) (hl : start.node build = .ok (.directory base))

include hstart hl

/-- While pages are built, entries of the build directory are written. -/
private lemma changedBelow_run {extensions : Markdown.Extensions} {sources schedule : List Path}
    (found : discover start build Page.sourceExtension = .ok sources)
    (scheduled : ∀ p ∈ schedule, p ∈ sources) :
    ChangedBelow base start
      (run extensions (templateOf build) schedule (initial start)).store := by
  refine PagePass.run_keeps (I := fun x => ChangedBelow base start x.store)
    (fun p hp x y hturn hx => ?_) (.refl base start)
  cases hturn with
  | written _ hwrite =>
    obtain ⟨n, rfl, hentry, hext, -⟩ := exists_name_of_discover hl found (scheduled p hp)
    have hn : IsName n := hstart.wellFormed.isName n base hentry
    rw [Path.hasExtension_child (FileStore.bytes_ne_nil_of_node hl) hn] at hext
    obtain ⟨hname, -, hout⟩ := Page.outputOf_child_of_write
      (hx.grows.wellFormed hstart.wellFormed) (hx.grows.node hl) hn hext hwrite
    rw [hout] at hwrite
    exact hx.write hstart hl hname hwrite
  | _ => exact hx

/-- While lists are filled in, entries of the build directory are overwritten. -/
private lemma changedBelow_fill {all front : List NavPage} (listed : navPages build t = .ok all)
    (hfront : ∀ page ∈ front, page ∈ all) (h : ChangedBelow base start t) (includeSelf : Bool)
    (generated : List Path) :
    ChangedBelow base start (stateAfter (front.mapM (fillIn includeSelf generated all)) t) := by
  have hwellFormed := h.grows.wellFormed hstart.wellFormed
  rw [navPages_of_node (h.grows.node hl)] at listed
  obtain rfl := Except.ok.inj listed
  refine (Keeps.mapM fun page hpage => keeps_fillIn (fun u id c hid hu => ?_) _ _ _) t h
  obtain ⟨n, hn, rfl⟩ := List.mem_map.1 (hfront page hpage)
  exact hu.setContents hstart hl (isName_of_mem_navNames hwellFormed hn) hid c

/-- **From the copy on, a build looks different below the build directory at most**, at every moment
and in every order of the steps of the pages. -/
theorem changedBelow_moment (h : Moment build config start t) : ChangedBelow base start t := by
  cases h with
  | copied => exact .refl base start
  | pages found accepted scheduled => exact changedBelow_run hstart hl found scheduled
  | navigation found accepted scheduled results listed order =>
    refine changedBelow_fill hstart hl listed (fun page hpage => ?_)
      (changedBelow_run hstart hl found scheduled) _ _
    exact order ▸ List.mem_append_left _ hpage

end Passes

/-! ## Whole builds -/

section Builds

variable {source build : Path} {s : FileStore} {ls base : Location} (hs : s.LinkFree)
  (hsource : s.node source = .ok (.directory ls)) (hbuild : s.node build = .ok (.directory base))

include hs hsource hbuild

/-- A copy changes what is below the build directory at most, unless the source directory lies
there itself. -/
private lemma changedBelow_copyTree (hout : ¬base <:+ ls) :
    ChangedBelow base s (stateAfter (copyTree source build) s) := by
  have h := onlyCopies_copyTree hs hsource hbuild hout
  exact ⟨h.grows, fun m hm => h.itemAt_outside fun hbelow => hbelow.2 (hm hbelow.1)⟩

/-- **A build looks different below the build directory at most**, whether it succeeds or fails,
unless the source directory lies there itself.

**Proof sketch.** A build that is refused before the copy changes nothing. The copy changes the
build directory only, as its target, and so do all later moments of the build
(`changedBelow_moment`), of which the end is one. -/
theorem changedBelow_buildSiteWith (hout : ¬base <:+ ls) (config : Config)
    (events : List BuildEvent) :
    ChangedBelow base s (stateAfter (buildSiteWith source build config) ⟨s, events⟩).store := by
  have hcopied := changedBelow_copyTree hs hsource hbuild hout
  cases hchecked : checkDirectories source build s with
  | error e =>
    rw [buildSiteWith, store_ask_bind]
    simp only [hchecked]
    exact .refl base s
  | ok u =>
    cases hcopy : copyTree source build s with
    | error cause t =>
      rw [stateAfter_of_eq_error hcopy] at hcopied
      rw [buildSiteWith, store_ask_bind]
      simp only [hchecked, store_onStore_bind, hcopy]
      exact hcopied
    | ok k start =>
      rw [stateAfter_of_eq_ok hcopy] at hcopied
      exact hcopied.trans (changedBelow_moment (hs.grows hcopied.grows) (hcopied.grows.node hbuild)
        (moment_buildSiteWith hs.wellFormed hchecked hcopy events))

/-- **A build leaves the source tree as it is**, on a disk without links: what is seen at any place
in the source tree that is not below the build directory is what was seen there before, so nothing
is changed, removed or added. This holds however the two directories lie to each other, for all
settings, whether the build succeeds or fails, and at every moment from the copy on, in whatever
order the pages are built.

**Proof sketch.** If the source directory does not lie in the build directory, every pass writes
below the build directory (`changedBelow_buildSiteWith`). If it does, all of the source tree lies
there, and the only place left is the build directory itself, which stays a directory. -/
theorem source_kept {m : Location} (hm : ls <:+ m) (hbelow : base <:+ m → m = base) :
    (∀ config events,
      (stateAfter (buildSiteWith source build config) ⟨s, events⟩).store.itemAt m = s.itemAt m) ∧
    (∀ events, (stateAfter (buildSite source build) ⟨s, events⟩).store.itemAt m = s.itemAt m) ∧
    ∀ config k start t, copyTree source build s = .ok k start → Moment build config start t →
      t.itemAt m = s.itemAt m := by
  have hdirectory : ∀ {t : FileStore}, base <:+ ls → Grows s t → t.itemAt m = s.itemAt m := by
    intro t hin hgrows
    obtain rfl := hbelow (hin.trans hm)
    have hentry := (FileStore.node_eq_directory_iff.1 hbuild).2
    rw [FileStore.itemAt_eq_directory_iff.2 hentry,
      FileStore.itemAt_eq_directory_iff.2 (hgrows.entryAt hentry)]
  have hwith : ∀ config events,
      (stateAfter (buildSiteWith source build config) ⟨s, events⟩).store.itemAt m = s.itemAt m := by
    intro config events
    by_cases hin : base <:+ ls
    · exact hdirectory hin (grows_buildSiteWith source build config ⟨s, events⟩)
    · exact (changedBelow_buildSiteWith hs hsource hbuild hin config events).itemAt m hbelow
  refine ⟨hwith, fun events => ?_, fun config k start t hcopy hmoment => ?_⟩
  · obtain ⟨e, -, hrun⟩ | ⟨config, -, hrun⟩ := buildSite_cases source build ⟨s, events⟩
    · rw [stateAfter_of_eq_error hrun]
    · rw [stateAfter, hrun]
      exact hwith config events
  · have hcopied : Grows s start := grows_of_copyTree hcopy
    have hchanged := changedBelow_moment (hs.grows hcopied) (hcopied.node hbuild) hmoment
    by_cases hin : base <:+ ls
    · exact hdirectory hin (hcopied.trans hchanged.grows)
    · have hcopy' := changedBelow_copyTree hs hsource hbuild hin
      rw [stateAfter_of_eq_ok hcopy] at hcopy'
      exact (hcopy'.trans hchanged).itemAt m hbelow

end Builds

open CopyTree in
/-- A build directory in the source tree is filled, and the file beside it stays as it is. -/
theorem source_kept_nestedTarget :
    buildSiteWith ⟨"s".toList⟩ ⟨"s/d/o".toList⟩ {} ⟨nestedTarget, []⟩ =
        .ok ⟨2, [], 0, 0⟩ ⟨nestedTargetCopied, [.copied 2]⟩ ∧
      nestedTargetCopied.itemAt ["b".toList, "d".toList, "s".toList] =
        some (.file (.text "2".toList)) := by
  have hsource : nestedTarget.node ⟨"s".toList⟩ = .ok (.directory ["s".toList]) := by cbv
  have hbuild : nestedTarget.node ⟨"s/d/o".toList⟩ =
      .ok (.directory ["o".toList, "d".toList, "s".toList]) := by cbv
  have hrun : buildSiteWith ⟨"s".toList⟩ ⟨"s/d/o".toList⟩ {} ⟨nestedTarget, []⟩ =
      .ok ⟨2, [], 0, 0⟩ ⟨nestedTargetCopied, [.copied 2]⟩ := by
    cbv
  obtain ⟨hkept, -, -⟩ := source_kept (m := ["b".toList, "d".toList, "s".toList])
    linkFree_nestedTarget hsource hbuild (by decide) (by decide)
  have hfile := hkept {} []
  rw [stateAfter_of_eq_ok hrun] at hfile
  exact ⟨hrun, hfile.trans rfl⟩

end StaticSite.Build
