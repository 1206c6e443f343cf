import Mathlib
import StaticSite.Proofs.Build.FinalText
import StaticSite.Proofs.Build.Interleaving

set_option relaxedAutoImplicit false
set_option autoImplicit false

/-!
# Pages with one output

Markdown files are found by their extension in any case, and their pages are written to the stem
with another extension. So two Markdown files whose names differ in the case of the extension alone
have one output, and a build gives both pages, of which one is left. Which one it is depends on the
order of the steps. A page is kept in every order exactly if all pages of its output are the same
text.

## Main definitions

* `StaticSite.Path.stem?` — the file name without its extension.
* `StaticSite.Page.rendering` — the text of a page by what its files hold.
* `StaticSite.Build.IsKept` — the output of a page holds the page.

## Main results

* `StaticSite.PagePass.Start.outputOf_eq_iff` — two Markdown files have one output exactly if they
  have one stem.
* `StaticSite.BuildRun.exists_start`, `StaticSite.BuildRun.readable` — a build that succeeds could
  read and write all files before the first page.
* `StaticSite.Build.pages_kept_iff` — the pages are kept exactly if those of one output are the
  same.
-/

namespace StaticSite

open StaticSite.Action
open StaticSite.FileStore (Grows)
open StaticSite.Name (slash dot)
open StaticSite.Page (outputOf compose)
open StaticSite.PagePass (IsInterleaving initial pageByPage run)
open StaticSite.Path (IsName)

/-- The file name without its extension. -/
def Path.stem? (p : Path) : Option Name := p.fileName?.map fun n => (splitName n).1

/-- The text of a page by what its document and the template hold. -/
def Page.rendering (extensions : Markdown.Extensions) (template : Path) (s : FileStore)
    (source : Path) : Except FileError Text := do
  let document ← s.readText source
  let frame ← s.readText template
  return (compose extensions frame document).text

/-- A page is rendered from the texts of its files. -/
private lemma Page.rendering_of_readText {extensions : Markdown.Extensions} {template source : Path}
    {s : FileStore} {document frame : Text} (hdocument : s.readText source = .ok document)
    (hframe : s.readText template = .ok frame) :
    rendering extensions template s source = .ok (compose extensions frame document).text := by
  unfold rendering
  rw [hdocument, hframe]
  rfl

namespace PagePass.Start

variable {extensions : Markdown.Extensions} {build : Path} {l : Location} {s : FileStore}
  {sources : List Path} (h : Start build l s sources)

include h

/-- The output of a Markdown file has its stem. -/
private lemma exists_stem {p : Path} (hp : p ∈ sources) :
    ∃ stem, p.stem? = some stem ∧ slash ∉ stem ∧
      outputOf p = build.child (stem ++ dot :: Page.outputExtension) := by
  obtain ⟨n, hn⟩ := h.exists_beside hp
  obtain ⟨stem, e, rfl, hstem, he, -⟩ := (Path.hasExtension_iff hn.name _).1 hn.markdown
  have hslash : slash ∉ stem := fun hmem => hn.name.noSlash (List.mem_append_left _ hmem)
  refine ⟨stem, ?_, hslash, ?_⟩
  · rw [Path.stem?, hn.source,
      Path.fileName?_child (FileStore.bytes_ne_nil_of_node h.directory) hn.name, Option.map_some,
      Path.splitName_of_stem hstem he]
  · have hne : stem ≠ [dot] := by
      intro hdot
      apply hn.outputName.ne_parent
      rw [Page.outputName_of_stem hn.name hstem he, if_pos hdot]
    rw [hn.output, Page.outputName_of_stem hn.name hstem he, if_neg hne]

/-- **Two Markdown files have one output exactly if they have one stem.** -/
theorem outputOf_eq_iff {p q : Path} (hp : p ∈ sources) (hq : q ∈ sources) :
    outputOf p = outputOf q ↔ p.stem? = q.stem? := by
  obtain ⟨stem, hstem, hslash, hout⟩ := h.exists_stem hp
  obtain ⟨stem', hstem', hslash', hout'⟩ := h.exists_stem hq
  have hhtml : slash ∉ dot :: Page.outputExtension := by decide
  rw [hout, hout', hstem, hstem', Option.some_inj]
  constructor
  · intro heq
    refine List.append_cancel_right (Path.child_injective
      (FileStore.bytes_ne_nil_of_node h.directory) ?_ ?_ heq)
    · simpa [hslash] using hhtml
    · simpa [hslash'] using hhtml
  · rintro rfl
    rfl

/-- The outputs are distinct exactly if the stems are. -/
private lemma nodup_outputs_iff (hsources : sources.Nodup) :
    (sources.map outputOf).Nodup ↔ (sources.map Path.stem?).Nodup := by
  rw [List.nodup_map_iff_inj_on hsources, List.nodup_map_iff_inj_on hsources]
  refine forall₂_congr fun p hp => forall₂_congr fun q hq => ?_
  rw [h.outputOf_eq_iff hp hq]

/-! ## What the outputs hold -/

section Rendering

variable {x : PagePass}

/-- While pages are built, the files of a page are rendered to what they were before. -/
private lemma rendering_eq (hx : PagePass.UnderWay extensions sources s x) {p : Path}
    (hp : p ∈ sources) :
    Page.rendering extensions (Build.templateOf build) x.store p =
      Page.rendering extensions (Build.templateOf build) s p := by
  unfold Page.rendering
  rw [h.readText_source hx hp, h.readText_template hx hp]

variable (hread : ∀ p ∈ sources, ∃ document frame, s.readText p = .ok document ∧
    s.readText (Build.templateOf build) = .ok frame)
  {schedule : List Path} (hschedule : IsInterleaving sources schedule)

include hread hschedule

/-- **In the end every output holds what the files of a page of this output are rendered to.** -/
theorem exists_rendering_in_output (extensions : Markdown.Extensions) {p : Path}
    (hp : p ∈ sources) :
    let x := run extensions (Build.templateOf build) schedule (initial s)
    ∃ q ∈ sources, outputOf q = outputOf p ∧ ∃ t,
      Page.rendering extensions (Build.templateOf build) x.store q = .ok t ∧
        x.store.readText (outputOf p) = .ok t := by
  have hx := h.faithful_run extensions fun q hq => hschedule.mem hq
  obtain ⟨document, frame, hdocument, hframe⟩ := hread p hp
  have hwritten := h.progress_eq extensions hread hschedule hp hdocument hframe
  set x := run extensions (Build.templateOf build) schedule (initial s)
  obtain ⟨id, q, document', frame', hid, hq, hout, hprogress, hc⟩ :=
    h.exists_page_in_output hx.underWay hwritten
  have hdocument' := hx.document q document' (by rw [hprogress]; rfl)
  have hframe' := hx.frame q frame' (by rw [hprogress]; rfl)
  refine ⟨q, hq, hout, _, ?_, FileStore.readText_of_node hid hc⟩
  rw [h.rendering_eq hx.underWay hq, Page.rendering_of_readText hdocument' hframe']

/-- **All outputs hold their own pages exactly if those of one output are the same.** -/
theorem rendered_iff (extensions : Markdown.Extensions) :
    let x := run extensions (Build.templateOf build) schedule (initial s)
    (∀ p ∈ sources, ∃ t, Page.rendering extensions (Build.templateOf build) x.store p = .ok t ∧
        x.store.readText (outputOf p) = .ok t) ↔
      ∀ p ∈ sources, ∀ q ∈ sources, outputOf p = outputOf q →
        Page.rendering extensions (Build.templateOf build) x.store p =
          Page.rendering extensions (Build.templateOf build) x.store q := by
  intro x
  constructor
  · intro hkept p hp q hq hout
    obtain ⟨t, ht, hread⟩ := hkept p hp
    obtain ⟨u, hu, hread'⟩ := hkept q hq
    rw [hout, hread'] at hread
    rw [ht, hu, hread]
  · intro hsame p hp
    obtain ⟨q, hq, hout, t, ht, hheld⟩ := h.exists_rendering_in_output hread hschedule extensions hp
    exact ⟨t, by rw [hsame p hp q hq hout.symm, ht], hheld⟩

end Rendering

end PagePass.Start

/-- The output of a page holds what the files of the page are rendered to. -/
def Build.IsKept (extensions : Markdown.Extensions) (template : Path) (s : FileStore)
    (page : BuiltPage) : Prop :=
  ∃ t, Page.rendering extensions template s page.source = .ok t ∧ s.readText page.output = .ok t

open StaticSite.Build

namespace BuildRun

variable {source build : Path} {config : Config} {s after : FileStore}

/-- The page pass of a build is that of a schedule. -/
lemma builds (r : BuildRun source build config s after) (hs : s.WellFormed) :
    PagePass.Builds config.markdown (templateOf build) r.sources (pageByPage r.sources) r.afterCopy
      r.built r.afterPages :=
  (PagePass.builds_pageByPage_iff (r.nodup_sources hs)).2 r.paged

/-- **The pages of a build that succeeds can be written** before the first one is. -/
theorem exists_start (r : BuildRun source build config s after) (hs : s.LinkFree) :
    ∃ l, PagePass.Start build l r.afterCopy r.sources := by
  obtain ⟨l, hl⟩ := r.node_build
  exact ⟨l, (r.builds hs.wellFormed).start (hs.grows r.grows_copy) (r.grows_copy.node hl) r.found
    r.accepted⟩

/-- **The files of the pages of a build that succeeds can be read** before the page pass. -/
theorem readable (r : BuildRun source build config s after) (hs : s.LinkFree) :
    ∀ p ∈ r.sources, ∃ document frame, r.afterCopy.readText p = .ok document ∧
      r.afterCopy.readText (templateOf build) = .ok frame := by
  obtain ⟨l, hstart⟩ := r.exists_start hs
  exact (r.builds hs.wellFormed).readable hstart

/-- A page is built for each Markdown file. -/
lemma map_source (r : BuildRun source build config s after) :
    r.built.map BuiltPage.source = r.sources := by
  rw [map_mapM_eq_map (g := id) r.paged, List.map_id]
  intro p _ page a b hturn
  obtain ⟨document, frame, -, -, -, rfl⟩ := Page.build_eq_ok_iff.1 hturn.run
  rfl

/-- A page is written to the output of its Markdown file. -/
private lemma output_eq (r : BuildRun source build config s after) {page : BuiltPage}
    (hpage : page ∈ r.built) : page.output = outputOf page.source := by
  obtain ⟨p, a, b, -, hturn⟩ := exists_turn_of_result r.paged hpage
  obtain ⟨document, frame, -, -, -, rfl⟩ := Page.build_eq_ok_iff.1 hturn.run
  rfl

/-- What holds of all pages holds of all Markdown files and their outputs. -/
private lemma forall_built_iff (r : BuildRun source build config s after) {P : Path → Path → Prop} :
    (∀ page ∈ r.built, P page.source page.output) ↔ ∀ p ∈ r.sources, P p (outputOf p) := by
  rw [← r.map_source, List.forall_mem_map]
  refine forall₂_congr fun page hpage => ?_
  rw [r.output_eq hpage]

section Kept

variable (r : BuildRun source build config s after) (hs : s.LinkFree) {schedule : List Path}
  (hschedule : IsInterleaving r.sources schedule)

include hs hschedule

/-- In the end every output holds one of its pages. -/
private lemma exists_kept {page : BuiltPage} (hpage : page ∈ r.built) :
    ∃ other ∈ r.built, other.output = page.output ∧ IsKept config.markdown (templateOf build)
      (run config.markdown (templateOf build) schedule (initial r.afterCopy)).store other := by
  obtain ⟨l, hstart⟩ := r.exists_start hs
  have hmem : page.source ∈ r.sources := by
    rw [← r.map_source]
    exact List.mem_map_of_mem hpage
  obtain ⟨q, hq, hout, t, ht, hheld⟩ :=
    hstart.exists_rendering_in_output (r.readable hs) hschedule config.markdown hmem
  rw [← r.map_source] at hq
  obtain ⟨other, hother, rfl⟩ := List.mem_map.1 hq
  have houtput := r.output_eq hother
  refine ⟨other, hother, ?_, t, ht, ?_⟩
  · rw [houtput, r.output_eq hpage, hout]
  · rw [houtput, hout, hheld]

/-- All pages are kept exactly if those of one output are the same. -/
private lemma forall_kept_iff :
    let x := run config.markdown (templateOf build) schedule (initial r.afterCopy)
    (∀ page ∈ r.built, IsKept config.markdown (templateOf build) x.store page) ↔
      ∀ page ∈ r.built, ∀ other ∈ r.built, page.output = other.output →
        Page.rendering config.markdown (templateOf build) x.store page.source =
          Page.rendering config.markdown (templateOf build) x.store other.source := by
  intro x
  obtain ⟨l, hstart⟩ := r.exists_start hs
  have hbuilt := r.forall_built_iff (P := fun p q => ∃ t,
    Page.rendering config.markdown (templateOf build) x.store p = .ok t ∧
      x.store.readText q = .ok t)
  refine hbuilt.trans ((hstart.rendered_iff (r.readable hs) hschedule config.markdown).trans ?_)
  rw [← r.map_source]
  simp only [List.forall_mem_map]
  refine forall₂_congr fun page hpage => forall₂_congr fun other hother => ?_
  rw [r.output_eq hpage, r.output_eq hother]

end Kept

end BuildRun

namespace Build

/-- **The pages of a build are kept exactly if those of one output are the same**, on a disk without
links. Their outputs are distinct exactly if no two Markdown files have one stem. In whatever order
the steps of the pages come, the same pages are reported and every output holds one of its pages;
where two pages of one output differ, the other one is lost. One of these orders is that of the
build.

**Proof sketch.** The build is a schedule, page by page, that has written every page, so any other
order of the same steps writes the same pages (`Builds.reorder`). The file of an output holds the
page that was written to it last, so one page of each output is kept, and all are exactly if those
of one output do not differ. -/
theorem pages_kept_iff {source build : Path} {config : Config} {s after : FileStore}
    {summary : BuildSummary} {events : List BuildEvent} (hs : s.LinkFree)
    (h : buildSiteWith source build config ⟨s, []⟩ = .ok summary ⟨after, events⟩) :
    ∃ r : BuildRun source build config s after, summary = r.summary ∧
      ((summary.pages.map BuiltPage.output).Nodup ↔ (r.sources.map Path.stem?).Nodup) ∧
      (∀ schedule, IsInterleaving r.sources schedule →
        let x := run config.markdown (templateOf build) schedule (initial r.afterCopy)
        (r.sources.map fun p => (x.progress p).result? config.markdown p) =
            summary.pages.map (fun page => some (.ok page)) ∧
          (∀ page ∈ summary.pages, ∃ other ∈ summary.pages, other.output = page.output ∧
            IsKept config.markdown (templateOf build) x.store other) ∧
          ((∀ page ∈ summary.pages, IsKept config.markdown (templateOf build) x.store page) ↔
            ∀ page ∈ summary.pages, ∀ other ∈ summary.pages, page.output = other.output →
              Page.rendering config.markdown (templateOf build) x.store page.source =
                Page.rendering config.markdown (templateOf build) x.store other.source)) ∧
      (run config.markdown (templateOf build) (pageByPage r.sources) (initial r.afterCopy)).store =
        r.afterPages := by
  obtain ⟨r, rfl, -⟩ := buildSiteWith_eq_ok_iff.1 h
  obtain ⟨l, hstart⟩ := r.exists_start hs
  have hbuilds := r.builds hs.wellFormed
  have houtputs : r.built.map BuiltPage.output = r.sources.map outputOf := by
    rw [← r.map_source, List.map_map]
    exact List.map_congr_left fun page hpage => r.output_eq hpage
  refine ⟨r, rfl, ?_, fun schedule hschedule => ⟨?_, fun page hpage => ?_, ?_⟩, hbuilds.store⟩
  · show (r.built.map BuiltPage.output).Nodup ↔ _
    rw [houtputs, hstart.nodup_outputs_iff (r.nodup_sources hs.wellFormed)]
  · exact (hbuilds.reorder hstart hschedule).results
  · exact r.exists_kept hs hschedule hpage
  · exact r.forall_kept_iff hs hschedule

/-- A site with two Markdown files whose names differ in the case of the extension, and an empty
build directory. -/
def sameStem : FileStore :=
  ((((({} : FileStore).setEntry ["s".toList] .directory).setEntry ["b".toList] .directory).newFile
    ["template.html".toList, "s".toList] (.text "{{CONTENT}}".toList)).newFile
    ["a.MD".toList, "s".toList] (.text "upper".toList)).newFile ["a.md".toList, "s".toList]
    (.text "lower".toList)

/-- The site after the source tree was copied. -/
def sameStemCopied : FileStore :=
  ((sameStem.newFile ["a.MD".toList, "b".toList] (.text "upper".toList)).newFile
    ["a.md".toList, "b".toList] (.text "lower".toList)).newFile ["template.html".toList, "b".toList]
    (.text "{{CONTENT}}".toList)

/-- The site after it was built: the second page was written over the first one. -/
def sameStemBuilt : FileStore :=
  (sameStemCopied.newFile ["a.html".toList, "b".toList] (.text "<p>upper</p>\n".toList)).setContents
    ⟨6⟩ (.text "<p>lower</p>\n".toList)

/-- The two pages that are reported. -/
def sameStemPages : List BuiltPage :=
  [⟨⟨"b/a.MD".toList⟩, ⟨"b/a.html".toList⟩, []⟩, ⟨⟨"b/a.md".toList⟩, ⟨"b/a.html".toList⟩, []⟩]

/-- There are no links on the disk of this site. -/
private lemma linkFree_sameStem : sameStem.LinkFree := by
  have hmade : made [.makeDirectories ⟨"s".toList⟩, .makeDirectories ⟨"b".toList⟩,
      .write ⟨"s/template.html".toList⟩ (.text "{{CONTENT}}".toList),
      .write ⟨"s/a.MD".toList⟩ (.text "upper".toList),
      .write ⟨"s/a.md".toList⟩ (.text "lower".toList)] = sameStem := by
    cbv
  rw [← hmade]
  exact linkFree_made (by simp [Change.MakesNoLink])

/-- Two pages are reported with one output, and one of them is not kept. -/
theorem pages_kept_iff_sameStem :
    ∃ r : BuildRun ⟨"s".toList⟩ ⟨"b".toList⟩ {} sameStem sameStemBuilt,
      r.summary.pages = sameStemPages ∧ ¬(r.summary.pages.map BuiltPage.output).Nodup ∧
      ∃ page ∈ r.summary.pages, ¬IsKept {} ⟨"b/template.html".toList⟩ r.afterPages page := by
  have hrun : buildSiteWith ⟨"s".toList⟩ ⟨"b".toList⟩ {} ⟨sameStem, []⟩ =
      .ok ⟨3, sameStemPages, 0, 0⟩ ⟨sameStemBuilt, [.copied 3,
        .pageBuilt ⟨"b/a.MD".toList⟩ ⟨"b/a.html".toList⟩,
        .pageBuilt ⟨"b/a.md".toList⟩ ⟨"b/a.html".toList⟩]⟩ := by
    cbv
  obtain ⟨r, hsummary, hstems, hkept, hafter⟩ := pages_kept_iff linkFree_sameStem hrun
  have hcopy : copyTree ⟨"s".toList⟩ ⟨"b".toList⟩ sameStem = .ok 3 sameStemCopied := by cbv
  have hcopied : r.afterCopy = sameStemCopied := (EStateM.Result.ok.inj (r.copy.symm.trans hcopy)).2
  have hfound : discover sameStemCopied ⟨"b".toList⟩ Page.sourceExtension =
      .ok (sameStemPages.map BuiltPage.source) := by cbv
  have hsources : r.sources = sameStemPages.map BuiltPage.source :=
    Except.ok.inj (r.found.symm.trans (hcopied ▸ hfound))
  have hpages : Build.pages {} ⟨"b/template.html".toList⟩ (sameStemPages.map BuiltPage.source)
      sameStemCopied = .ok sameStemPages sameStemBuilt := by cbv
  have hpaged : r.afterPages = sameStemBuilt := by
    have := r.paged
    rw [hcopied, hsources] at this
    exact (EStateM.Result.ok.inj (this.symm.trans hpages)).2
  have hiff := (hkept _ (List.Perm.refl _)).2.2
  rw [hafter, hpaged] at hiff
  refine ⟨r, by rw [← hsummary], by rw [← hsummary]; decide, ?_⟩
  rw [hpaged, ← hsummary]
  by_contra hnone
  have hall : ∀ page ∈ sameStemPages, IsKept {} ⟨"b/template.html".toList⟩ sameStemBuilt page := by
    intro page hpage
    by_contra hnot
    exact hnone ⟨page, hpage, hnot⟩
  -- the two pages of the output are not the same
  have hupper : Page.rendering {} ⟨"b/template.html".toList⟩ sameStemBuilt ⟨"b/a.MD".toList⟩ =
      .ok "<p>upper</p>\n".toList := by cbv
  have hlower : Page.rendering {} ⟨"b/template.html".toList⟩ sameStemBuilt ⟨"b/a.md".toList⟩ =
      .ok "<p>lower</p>\n".toList := by cbv
  have hsame := hiff.1 hall _ List.mem_cons_self _ (List.mem_cons_of_mem _ List.mem_cons_self) rfl
  have htexts := hupper.symm.trans (hsame.trans hlower)
  exact absurd (Except.ok.inj htexts) (by decide)

end Build

end StaticSite
