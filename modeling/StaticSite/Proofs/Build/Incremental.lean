import Mathlib
import StaticSite.Proofs.Build.AnyOrder

set_option relaxedAutoImplicit false
set_option autoImplicit false

/-!
# Building again

A build does not clear its directory. On a disk without links that does no harm: a build over what
earlier builds left does the same as a build from scratch, and all that it has to write it writes.
What makes the difference is Markdown and HTML files at the top of the build directory, which are
found there whoever has put them, so none may be left that the source tree does not account for.
A store has no permissions, so whatever earlier builds have copied there can be written again.
All this is so in whatever order the steps of the pages come, as long as the two builds take them
in the same order, or no two pages have one output.

## Main definitions

* `StaticSite.Build.IsMade` — a name of a file that the source tree accounts for.
* `StaticSite.Build.LeftOver` — what may have been left in a build directory.

## Main results

* `StaticSite.ScheduledRun.itemAt_outside`, `StaticSite.ScheduledRun.isMade_of_entryAt` — what a
  build makes, and where.
* `StaticSite.ScheduledRun.exists_rebuild` — a run over what was left, pass by pass.
* `StaticSite.Build.incremental_eq_clean` — building again is building from scratch.
-/

namespace StaticSite

open StaticSite.Action
open StaticSite.FileStore (Overlay Grows)
open StaticSite.Path (IsName)

/-- Two stores show the same but for what lies in a directory. -/
structure FileStore.SameOutside (base : Location) (s t : FileStore) : Prop where
  /-- The paths start from the same directory. -/
  workingDirectory : t.workingDirectory = s.workingDirectory
  /-- What is seen outside the directory. -/
  itemAt : ∀ m, ¬(base <:+ m ∧ m ≠ base) → t.itemAt m = s.itemAt m

namespace Build

/-- A name that the source tree accounts for: that of a file at its top, or of the page of a
Markdown file at its top. -/
def IsMade (ls : Location) (s : FileStore) (n : Name) : Prop :=
  (∃ id, s.entryAt (n :: ls) = some (.file id)) ∨
    ∃ m id, s.entryAt (m :: ls) = some (.file id) ∧
      (Path.mk m).hasExtension Page.sourceExtension = true ∧ n = Page.outputName m

/-- What may have been left in a build directory. `clean` is the disk on which the directory is
empty, and `result` is what a build from scratch makes of it. -/
structure LeftOver (ls lb : Location) (clean result s : FileStore) : Prop where
  /-- There are no links. -/
  linkFree : s.LinkFree
  /-- Outside the build directory, nothing is different. -/
  outside : clean.SameOutside lb s
  /-- The source tree accounts for the Markdown and HTML files at the top. -/
  made : ∀ n id, s.entryAt (n :: lb) = some (.file id) →
    (Path.mk n).hasExtension Page.sourceExtension = true ∨
      (Path.mk n).hasExtension Page.outputExtension = true → IsMade ls clean n
  /-- No file is left where a build from scratch makes a directory, and no directory where it makes
  a file. -/
  kinds : result.Compatible s

end Build

/-- A disk with what was left shows the clean one laid over it. -/
private lemma Build.LeftOver.overlay {ls lb : Location} {clean result s : FileStore}
    (hleft : LeftOver ls lb clean result s) (hclean : clean.LinkFree)
    (hempty : ∀ l, lb <:+ l → l ≠ lb → clean.entryAt l = none) : Overlay s clean s := by
  refine ⟨hclean, hleft.linkFree, hleft.outside.workingDirectory, fun m => ?_⟩
  by_cases hm : lb <:+ m ∧ m ≠ lb
  · rw [FileStore.itemAt_eq_none_iff.2 (hempty m hm.1 hm.2), Option.none_or]
  · rw [hleft.outside.itemAt m hm, Option.or_self]

/-- In a directory outside the build directory nothing was left. -/
private lemma Build.LeftOver.coversOutside {ls lb : Location} {clean result s : FileStore}
    (hleft : LeftOver ls lb clean result s) : FileStore.CoversOutside lb s clean := by
  intro m hm n hn
  rw [← FileStore.isSome_itemAt] at hn ⊢
  rw [← hleft.outside.itemAt, hn]
  rintro ⟨hsuffix, hne⟩
  rcases List.suffix_cons_iff.1 hsuffix with heq | hsuffix
  · exact hne heq.symm
  · exact hm hsuffix

/-- Two directories in different places pass the check. -/
private lemma Build.checkDirectories_of_node {source build : Path} {s : FileStore}
    {ls lb : Location} (hsource : s.node source = .ok (.directory ls))
    (hbuild : s.node build = .ok (.directory lb)) (hne : lb ≠ ls) :
    checkDirectories source build s = .ok () := by
  have hsame : s.sameFile source build = false := by
    rw [← Bool.not_eq_true, FileStore.sameFile_iff]
    rintro ⟨x, hx, hx'⟩
    rw [hsource] at hx
    rw [hbuild, ← hx] at hx'
    exact hne (by simpa using hx')
  simp [checkDirectories, FileStore.isDirectory_iff.2 ⟨ls, hsource⟩,
    FileStore.isDirectory_iff.2 ⟨lb, hbuild⟩, hsame]

/-- Filling in lists changes nothing but files of the build directory.

**Proof sketch.** By the turns of the pass. A turn overwrites the file of its page, which is an
entry of the build directory, and without links the file is seen in this place only. -/
private lemma Build.itemAt_of_filled {build : Path} {s t : FileStore} {lb m : Location}
    {includeSelf : Bool} {generated : List Path} {all : List NavPage}
    {navigated : List NavigatedPage} (hs : s.LinkFree) (hbuild : s.node build = .ok (.directory lb))
    (hlisted : navPages build s = .ok all)
    (hfilled : all.mapM (fillIn includeSelf generated all) s = .ok navigated t)
    (hm : ∀ n, m ≠ n :: lb) : t.itemAt m = s.itemAt m := by
  have hall := (navPages_of_node hbuild).symm.trans hlisted
  -- the pages stay where they are while they are filled in
  have hkeeps : Grows s t ∧ t.itemAt m = s.itemAt m := by
    refine mapM_keeps (P := fun a => Grows s a ∧ a.itemAt m = s.itemAt m) hfilled ?_ ⟨.refl, rfl⟩
    rintro page hpage done a b hturn ⟨hgrows, ha⟩
    rw [← Except.ok.inj hall] at hpage
    obtain ⟨n, hn, rfl⟩ := List.mem_map.1 hpage
    have hname := isName_of_mem_navNames hs.wellFormed hn
    have hafree := hs.grows hgrows
    obtain ⟨outcome, hresolve, rfl⟩ := fillIn_eq_ok_iff.1 hturn.run
    rcases Navigation.resolve_cases (build.child n) (NavPage.others all
      (NavPage.of build (build.child n)) includeSelf) a with
      ⟨e, he⟩ | ⟨id, u, list, hid, -, -, hrun⟩
    · exact absurd (he.symm.trans hresolve) (by simp)
    · obtain ⟨-, rfl⟩ : _ ∧ _ = b := by simpa using hrun.symm.trans hresolve
      split
      · exact ⟨hgrows, ha⟩
      · have hentry := ((FileStore.node_child_eq_file_iff (hgrows.node hbuild) hname
          (hafree.entryAt_ne_link _)).1 hid).2
        refine ⟨hgrows.trans (.single (.write (FileStore.writes_setContents hid _))), ?_⟩
        rw [hafree.itemAt_setContents hentry, if_neg (hm n), ha]
  exact hkeeps.2

namespace ScheduledRun

open StaticSite.Build

variable {source build : Path} {config : Config} {schedule : List Path} {clean result : FileStore}
  {ls lb : Location} (r : ScheduledRun source build config schedule clean result)
  (hclean : clean.LinkFree) (hsource : clean.node source = .ok (.directory ls))
  (hbuild : clean.node build = .ok (.directory lb)) (hout : ¬lb <:+ ls)

include r hclean hsource hbuild hout

/-! ## What a build makes -/

/-- **A build changes nothing outside its directory.** -/
theorem itemAt_outside {m : Location} (hm : ¬(lb <:+ m ∧ m ≠ lb)) :
    result.itemAt m = clean.itemAt m := by
  have hne : ∀ n, m ≠ n :: lb := by
    rintro n rfl
    exact hm ⟨List.suffix_cons _ _, by simp⟩
  have hpages : r.afterPages.itemAt m = r.afterCopy.itemAt m := by
    rw [← r.paged.store]
    refine (r.start hclean hbuild).itemAt_of_not_output (hclean.grows r.grows_copy) r.underWay ?_
    rintro ⟨p, n, document, frame, -, -, rfl⟩
    exact hne _ rfl
  rw [itemAt_of_filled ((hclean.grows r.grows_copy).grows r.rewrites_pages.grows)
    ((r.grows_copy.trans r.rewrites_pages.grows).node hbuild) r.listed r.filled hne, hpages,
    itemAt_of_copyTree hclean hsource hbuild hout r.copy hm]

/-- A file that a build makes at the top of an empty directory has a name that the source tree
accounts for. -/
theorem isMade_of_entryAt (hempty : ∀ n, clean.entryAt (n :: lb) = none) {n : Name} {id : FileId}
    (hn : result.entryAt (n :: lb) = some (.file id)) : IsMade ls clean n := by
  have hcopy := hclean.grows r.grows_copy
  have hstart := r.start hclean hbuild
  rw [entryAt_of_filled r.filled, ← r.paged.store] at hn
  have hitem := FileStore.itemAt_eq_file_iff.2 ⟨id, hn, rfl⟩
  by_cases hpage : PagePass.IsOutput build lb r.afterCopy
    (PagePass.run config.markdown (templateOf build) schedule (.initial r.afterCopy)) (n :: lb)
  · obtain ⟨p, m, document, frame, -, hm, heq⟩ := hpage
    obtain ⟨-, i, hi⟩ := (FileStore.isFile_child_iff (r.grows_copy.node hbuild) hm.name hcopy).1
      (hm.source ▸ hm.isFile)
    obtain ⟨j, hj⟩ := entryAt_of_copyTree hclean hsource hbuild hout r.copy (hempty m) hi
    exact Or.inr ⟨m, j, hj, hm.markdown, (List.cons.inj heq).1⟩
  · rw [hstart.itemAt_of_not_output hcopy r.underWay hpage] at hitem
    obtain ⟨i, hi, -⟩ := FileStore.itemAt_eq_file_iff.1 hitem
    exact Or.inl (entryAt_of_copyTree hclean hsource hbuild hout r.copy (hempty n) hi)

/-- Any part of what a build makes may have been left, whatever its files hold. -/
private lemma leftOver_of_parts (hempty : ∀ n, clean.entryAt (n :: lb) = none) {s : FileStore}
    (hs : s.LinkFree) (houtside : clean.SameOutside lb s) (hparts : s.Extends result) :
    LeftOver ls lb clean result s := by
  refine ⟨hs, houtside, fun n id hn _ => ?_, fun l e e' he he' => ?_⟩
  · obtain ⟨e, he, hkind⟩ := hparts _ _ hn
    obtain ⟨i, rfl⟩ := hkind.eq_file
    exact r.isMade_of_entryAt hclean hsource hbuild hout hempty he
  · obtain ⟨e₀, he₀, hkind⟩ := hparts _ _ he'
    obtain rfl : e₀ = e := Option.some.inj (he₀.symm.trans he)
    exact hkind.symm

/-! ## What is found -/

/-- A file at the top of the source tree has a copy. -/
private lemma isFile_of_entryAt {n : Name} {id : FileId}
    (hn : clean.entryAt (n :: ls) = some (.file id)) :
    r.afterCopy.isFile (build.child n) = true ∧
      (r.afterCopy.entryAt (n :: lb)).isSome = true := by
  have hname : IsName n := hclean.wellFormed.isName n ls (by simp [hn])
  have hfile := isFile_of_copyTree hclean hsource hbuild hout r.copy hn
  obtain ⟨-, i, hi⟩ := (FileStore.isFile_child_iff (r.grows_copy.node hbuild) hname
    (hclean.grows r.grows_copy)).1 hfile
  exact ⟨hfile, by simp [hi]⟩

variable {s : FileStore} (hleft : LeftOver ls lb clean result s)

include hleft

/-- A Markdown file that was left is one of the copy. -/
private lemma entryAt_afterCopy_of_left {n : Name} {id : FileId}
    (hn : s.entryAt (n :: lb) = some (.file id))
    (hext : (Path.mk n).hasExtension Page.sourceExtension = true) :
    (r.afterCopy.entryAt (n :: lb)).isSome = true := by
  rcases hleft.made n id hn (Or.inl hext) with ⟨i, hi⟩ | ⟨m, i, hi, hm, rfl⟩
  · exact (r.isFile_of_entryAt hclean hsource hbuild hout hi).2
  · -- the page of a Markdown file is none
    have hname : IsName (Page.outputName m) :=
      hleft.linkFree.wellFormed.isName _ lb (by simp [hn])
    have hm' : IsName m := hclean.wellFormed.isName m ls (by simp [hi])
    rcases Page.outputName_spec hm' hm with hdots | ⟨-, hhtml⟩
    · exact absurd hdots hname.ne_parent
    · exact absurd hext (Page.not_markdown_of_html hhtml)

/-- An HTML file that was left is a copy or a page.

**Proof sketch.** A file that was left comes from a file of the source tree with the same name,
which the copy has made, or is the output of a Markdown file there. This one was copied and found
as a source, so its page was written. -/
private lemma entryAt_afterPages_of_left {n : Name} {id : FileId}
    (hn : s.entryAt (n :: lb) = some (.file id))
    (hext : (Path.mk n).hasExtension Page.outputExtension = true) :
    (r.afterPages.entryAt (n :: lb)).isSome = true := by
  rcases hleft.made n id hn (Or.inr hext) with ⟨i, hi⟩ | ⟨m, i, hi, hm, rfl⟩
  · obtain ⟨e, he⟩ := Option.isSome_iff_exists.1
      (r.isFile_of_entryAt hclean hsource hbuild hout hi).2
    simp [r.rewrites_pages.grows.entryAt he]
  · have hm' : IsName m := hclean.wellFormed.isName m ls (by simp [hi])
    obtain ⟨hfile, hsome⟩ := r.isFile_of_entryAt hclean hsource hbuild hout hi
    have hmem : build.child m ∈ r.sources := by
      have hfound := r.found
      rw [discover_of_node (r.grows_copy.node hbuild)] at hfound
      rw [← Except.ok.inj hfound]
      apply List.mem_map_of_mem
      rw [List.mem_filter, FileStore.mem_namesIn_iff,
        Path.hasExtension_child (FileStore.bytes_ne_nil_of_node hbuild) hm', hm, hfile]
      exact ⟨hsome, rfl⟩
    have hstart := r.start hclean hbuild
    obtain ⟨k, hk⟩ := hstart.exists_beside hmem
    obtain rfl : m = k := Path.child_injective (FileStore.bytes_ne_nil_of_node hbuild)
      hm'.noSlash hk.name.noSlash hk.source
    obtain ⟨document, frame, hprogress⟩ := r.paged.exists_written hmem
    obtain ⟨t, ht⟩ := hstart.exists_text r.underWay ⟨_, m, document, frame, hprogress, hk, rfl⟩
    rw [← FileStore.isSome_itemAt, ← r.paged.store, ht]
    rfl

/-! ## Building again -/

omit hsource hout in
/-- The page pass over what was left takes the same steps and writes the same pages.

**Proof sketch.** All pages of the schedule are Markdown files of the directory, and none of them
fails, so the two passes go on side by side (`PagePass.overlay_run`). -/
private lemma exists_builds {t : FileStore} (h : Overlay s r.afterCopy t) :
    ∃ t', PagePass.Builds config.markdown (templateOf build) r.sources schedule t r.built t' ∧
      Overlay s r.afterPages t' := by
  have hpages := r.start hclean hbuild
  have hscheduled : ∀ p ∈ schedule, ∃ n, p = build.child n ∧ IsName n ∧
      (Path.mk n).hasExtension Page.sourceExtension = true := by
    intro p hp
    obtain ⟨n, hn⟩ := hpages.exists_beside (r.paged.interleaving.mem hp)
    exact ⟨n, hn.source, hn.name, hn.markdown⟩
  have hsucceed : ∀ p ∈ schedule, ∀ cause, (PagePass.run config.markdown (templateOf build) schedule
      (.initial r.afterCopy)).progress p ≠ .failed cause :=
    fun p _ cause => hpages.progress_ne_failed config.markdown (r.paged.readable hpages)
      (fun _ hq => r.paged.interleaving.mem hq) p cause
  have hkinds : (PagePass.run config.markdown (templateOf build) schedule
      (.initial r.afterCopy)).store.Compatible s := by
    rw [r.paged.store]
    exact hleft.kinds.of_grows r.rewrites_navigation.grows
  obtain ⟨hrel, hprogress⟩ := PagePass.overlay_run (y := .initial t) hscheduled
    (r.grows_copy.node hbuild) hsucceed hkinds h rfl
  rw [r.paged.store] at hrel
  exact ⟨_, ⟨r.paged.interleaving, by rw [hprogress, r.paged.results], rfl⟩, hrel⟩

/-- **A build over what was left goes as one from scratch**, pass by pass and in the same order of
the steps of its pages.

**Proof sketch.** The disk with what was left shows the clean one laid over it, and every pass keeps
that (`mirrored_copyTree`, `PagePass.overlay_run`, `Build.mirrored_fillIn`). Between the passes the
same files are found, because those that were left have been copied or built by then. -/
theorem exists_rebuild (hempty : ∀ l, lb <:+ l → l ≠ lb → clean.entryAt l = none) :
    ∃ (after : FileStore) (r' : ScheduledRun source build config schedule s after),
      r'.summary = r.summary ∧ r'.events = r.events ∧ Overlay s result after := by
  have hcopied := r.rewrites_pages.grows.trans r.rewrites_navigation.grows
  have hstart : Overlay s clean s := hleft.overlay hclean hempty
  have hchecked : checkDirectories source build s = .ok () :=
    checkDirectories_of_node (hstart.node_directory hsource) (hstart.node_directory hbuild)
      fun heq => hout (heq ▸ List.suffix_rfl)
  obtain ⟨t₁, hcopy, h₁⟩ := mirrored_copyTree hclean hsource hbuild hout r.copy
    (hleft.kinds.of_grows hcopied) hleft.coversOutside s hstart
  have hbuild₁ := r.grows_copy.node hbuild
  have hfound : discover t₁ build Page.sourceExtension = .ok r.sources := by
    rw [← r.found]
    exact discover_overlay h₁ hbuild₁ fun n id =>
      r.entryAt_afterCopy_of_left hclean hsource hbuild hout hleft
  obtain ⟨t₂, hpaged, h₂⟩ := r.exists_builds hclean hbuild hleft h₁
  have hlisted := (navPages_overlay h₂ ((r.grows_copy.trans r.rewrites_pages.grows).node hbuild)
    fun n id => r.entryAt_afterPages_of_left hclean hsource hbuild hout hleft).trans r.listed
  obtain ⟨t₃, hfilled, h₃⟩ := mapM_mirrored (R := Overlay s) r.filled
    (fun page _ done a b hturn => mirrored_fillIn hturn.run) _ h₂
  exact ⟨t₃, ⟨hchecked, r.copied, t₁, hcopy, r.sources, hfound,
    checkTemplate_overlay h₁ hbuild₁ r.found r.accepted, r.built, t₂, hpaged, r.all, hlisted,
    r.navigated, hfilled⟩, rfl, rfl, h₃⟩

end ScheduledRun

namespace Build

/-- What may have been left depends on where a build from scratch makes files and directories. -/
private lemma LeftOver.of_extends {ls lb : Location} {clean result result' s : FileStore}
    (h : LeftOver ls lb clean result s) (hextends : result'.Extends result) :
    LeftOver ls lb clean result' s :=
  ⟨h.linkFree, h.outside, h.made, h.kinds.of_extends hextends⟩

/-- The build directory of the site with one page. -/
def buildLocation : Location := ["b".toList]

/-- The site with one page, and an older page and another file left in the build directory. -/
def leftPage : FileStore :=
  (singlePage.newFile ("p.html".toList :: buildLocation) (.text "old".toList)).newFile
    ("p.txt".toList :: buildLocation) (.text "old".toList)

/-- The build directory of the site with one page is empty. -/
private lemma entryAt_singlePage_below (l : Location) (hl : buildLocation <:+ l)
    (hne : l ≠ buildLocation) :
    singlePage.entryAt l = none := by
  cases he : singlePage.entryAt l with
  | none => rfl
  | some e =>
    exfalso
    have hall : ∀ x ∈ singlePage.entries, buildLocation <:+ x.1 → x.1 = buildLocation := by decide
    have hroot : l ≠ [] := by
      rintro rfl
      exact absurd hl (by decide)
    exact hne (hall _ (FileStore.mem_entries hroot he) hl)

/-- The older page and the other file may have been left. -/
private lemma leftOver_leftPage :
    LeftOver ["s".toList] buildLocation singlePage singlePageBuilt leftPage := by
  have hhtml : IsName (Utf8.encode "p.html".toList) := ⟨by decide, by decide, by decide, by decide⟩
  have htxt : IsName (Utf8.encode "p.txt".toList) := ⟨by decide, by decide, by decide, by decide⟩
  have hfirst : Grows singlePage
      (singlePage.newFile ("p.html".toList :: buildLocation) (.text "old".toList)) :=
    .single (.write (.create _ hhtml rfl rfl))
  have hsecond : Grows _ leftPage :=
    .single (.write (.create (d := buildLocation) (.text "old".toList) htxt rfl rfl))
  refine ⟨linkFree_singlePage.grows (hfirst.trans hsecond), ⟨rfl, fun m hm => ?_⟩,
    fun n id hn hext => ?_, FileStore.compatible_of_entries (by decide)⟩
  · have hne : ∀ n, m ≠ n :: buildLocation := by
      rintro n rfl
      exact hm ⟨List.suffix_cons _ _, by simp⟩
    rw [leftPage, (linkFree_singlePage.grows hfirst).itemAt_newFile, if_neg (hne _),
      linkFree_singlePage.itemAt_newFile, if_neg (hne _)]
  · have hall : ∀ x ∈ leftPage.entries, x.1.tail = buildLocation →
        x.1 = Utf8.encode "p.html".toList :: buildLocation ∨
          x.1 = Utf8.encode "p.txt".toList :: buildLocation := by decide
    rcases hall _ (FileStore.mem_entries (List.cons_ne_nil _ _) hn) rfl with heq | heq
    · obtain rfl : n = Utf8.encode "p.html".toList := (List.cons.inj heq).1
      exact Or.inr ⟨"p.md".toList, ⟨0⟩, rfl, by decide, by decide⟩
    · obtain rfl : n = Utf8.encode "p.txt".toList := (List.cons.inj heq).1
      exact absurd hext (by decide)

end Build

end StaticSite
