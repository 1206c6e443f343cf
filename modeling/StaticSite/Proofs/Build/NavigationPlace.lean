import Mathlib
import StaticSite.Proofs.Build.FinalText
import StaticSite.Proofs.FileStore.Plain
import StaticSite.Proofs.Frontmatter.Key
import StaticSite.Proofs.Navigation.Place
import StaticSite.Proofs.Page.Render

set_option relaxedAutoImplicit false
set_option autoImplicit false

/-!
# Places for the list in finished pages

The page pass leaves the places for the list to the navigation pass, which finds them again in the
page as a whole. It does so exactly if the text in front of a place leaves no braces open. A place
that is lost is not reported: the page pass takes it for a place, and the navigation pass reports
nothing about pages of the build.

## Main definitions

* `StaticSite.Build.ListsPlaced` — the places for the list in a page that are filled in are those
  behind closed texts.

## Main results

* `StaticSite.BuildRun.isSole_of_plain` — without links, pages of different outputs are alone.
* `StaticSite.Build.list_placed_iff_closed` — the places of every page that are filled in.
-/

namespace StaticSite

open StaticSite.Action
open StaticSite.Build
open StaticSite.Path (IsName)
open StaticSite.Placeholder (IsClosed written names opening)

namespace BuildRun

variable {source build : Path} {config : Config} {s after : FileStore}

/-! ## Without links -/

/-- A build keeps a build directory without links, and its path. -/
private lemma plain_after (r : BuildRun source build config s after) (hs : s.WellFormed)
    {l : Location} (hl : s.node build = .ok (.directory l)) (hplain : s.Plain l) :
    after.Plain l ∧ after.node build = .ok (.directory l) := by
  have hgrows := (r.grows_copy.trans r.rewrites_pages.grows).trans r.rewrites_navigation.grows
  exact ⟨hgrows.plain hs hplain, hgrows.node hl⟩

/-- Without links, two names that lead to one file are the same. -/
lemma eq_of_sameFile (r : BuildRun source build config s after) (hs : s.WellFormed) {l : Location}
    (hl : s.node build = .ok (.directory l)) (hplain : s.Plain l) {n m : Name} (hn : IsName n)
    (hm : IsName m) (hfile : after.isFile (build.child m) = true)
    (h : after.sameFile (build.child n) (build.child m) = true) : n = m := by
  obtain ⟨hplain', hl'⟩ := r.plain_after hs hl hplain
  exact hplain'.eq_of_sameFile hl' hn hm hfile h

/-- **Without links, a page of an output of its own is alone.** -/
theorem isSole_of_plain (r : BuildRun source build config s after) (hs : s.WellFormed)
    {l : Location} (hl : s.node build = .ok (.directory l)) (hplain : s.Plain l)
    (houtputs : (r.built.map BuiltPage.output).Nodup) {page : BuiltPage} (hpage : page ∈ r.built) :
    IsSole build after r.built page := by
  refine ⟨fun front back hbuilt q hq heq => ?_, fun n hn hsame => ?_⟩
  · rw [hbuilt, List.map_append, List.map_cons, List.nodup_append, List.nodup_cons] at houtputs
    exact houtputs.2.1.1 (heq ▸ List.mem_map_of_mem hq)
  obtain ⟨-, m, hm, hnav⟩ := r.output_mem_all hs hpage
  rw [hm] at hsame ⊢
  rw [r.eq_of_sameFile hs hl hplain (r.isName_of_isNavigated hs hn)
    (r.isName_of_isNavigated hs hnav) hnav.file hsame]

/-- A Markdown file takes no part in navigation. -/
private lemma source_not_navigated (r : BuildRun source build config s after) (hs : s.WellFormed)
    {l : Location} (hl : s.node build = .ok (.directory l)) (hplain : s.Plain l) {p : Path}
    (hp : p ∈ r.sources) {n : Name} (hn : IsNavigated build after n) :
    build.child n ≠ p ∧ after.sameFile (build.child n) p = false := by
  obtain ⟨m, rfl, hentry, hext, hfile⟩ := r.mem_sources hl hp
  have hbuild := FileStore.bytes_ne_nil_of_node hl
  have hm : IsName m := (r.wellFormed_afterCopy hs).isName m l hentry
  have hname := r.isName_of_isNavigated hs hn
  -- no extension is that of Markdown files and that of HTML files
  have hne : n ≠ m := by
    rintro rfl
    exact Page.not_markdown_of_html hn.html hext
  refine ⟨fun h => hne (Path.child_injective hbuild hname.noSlash hm.noSlash h), ?_⟩
  rw [← Bool.not_eq_true]
  intro hsame
  refine hne (r.eq_of_sameFile hs hl hplain hname hm ?_ hsame)
  exact (r.rewrites_pages.grows.trans r.rewrites_navigation.grows).isFile hfile

/-- The texts that a page is made from are those of its document and of the template in the end. -/
private lemma readText_of_turn (r : BuildRun source build config s after) (hs : s.WellFormed)
    {l : Location} (hl : s.node build = .ok (.directory l)) (hplain : s.Plain l) {p : Path}
    {page : BuiltPage} {t u : FileStore}
    (h : Turn (Page.build config.markdown (templateOf build)) r.sources r.afterCopy r.afterPages p
      page t u) {document frame : Text} (hdocument : t.readText p = .ok document)
    (hframe : t.readText (templateOf build) = .ok frame) :
    after.readText p = .ok document ∧ after.readText (templateOf build) = .ok frame := by
  have hp : p ∈ r.sources := h.mem_list
  exact ⟨r.readText_of_not_navigated hs
      (fun n hn => (r.source_not_navigated hs hl hplain hp hn).2) h hdocument,
    r.readText_of_not_navigated hs (fun n hn => hn.notTemplate) h hframe⟩

/-- Every warning about a page of the build is about a placeholder of another name than that of the
list, in the template or in the body.

**Proof sketch.** A warning about the source of a page tells of a placeholder of the page, which
has another name (`written_of_unresolved`), or is one of the navigation pass, where no Markdown
file has a turn. -/
private lemma written_of_warning (r : BuildRun source build config s after) (hs : s.WellFormed)
    {l : Location} (hl : s.node build = .ok (.directory l)) (hplain : s.Plain l) {p file : Path}
    (hp : p ∈ r.sources) {document frame text : Text} (hdocument : after.readText p = .ok document)
    (hframe : after.readText (templateOf build) = .ok frame)
    (h : .unresolved file p text ∈ r.events) :
    ∃ name, name ≠ Navigation.placeholderName ∧ text = written name ∧
      (name ∈ names frame ∨ name ∈ names (Page.renderDocument config.markdown document).html) := by
  rcases r.exists_of_warning h with ⟨page, hpage, rfl, -, w, hw, rfl⟩ | ⟨done, hdone, -, -, rfl⟩
  · obtain ⟨-, -, t, u, document', frame', hturn, hd, hf, -, hunresolved⟩ := r.exists_pageTurn hpage
    obtain ⟨hd', hf'⟩ := r.readText_of_turn hs hl hplain hturn hd hf
    obtain rfl : document = document' := Except.ok.inj (hdocument.symm.trans hd')
    obtain rfl : frame = frame' := Except.ok.inj (hframe.symm.trans hf')
    rw [hunresolved] at hw
    exact Page.written_of_unresolved hw
  · obtain ⟨q, t, u, hq, hturn⟩ := exists_turn_of_result r.filled hdone
    obtain ⟨n, rfl, hn⟩ := r.exists_name_of_mem_all hq
    obtain ⟨outcome, -, hmade⟩ := fillIn_eq_ok_iff.1 hturn.run
    refine absurd ?_ (r.source_not_navigated hs hl hplain hp hn).1
    rw [hmade]
    rfl

/-- The links of a list that is put into a page of the build lead to the pages of some names: those
of all other pages, and its own only if pages link to themselves. -/
private lemma exists_targets (r : BuildRun source build config s after) (hs : s.WellFormed)
    {l : Location} (hl : s.node build = .ok (.directory l)) {page : BuiltPage}
    (hpage : page ∈ r.built) {t : FileStore} {links : List NavLink}
    (hlinks : Navigation.links t
      (NavPage.others r.all (NavPage.of build page.output) config.nav.includeSelf) = .ok links) :
    ∃ targets : List Name, links.map NavLink.href = targets.map Name.text ∧
      ∀ n, n ∈ targets ↔ IsNavigated build after n ∧
        (config.nav.includeSelf = true ∨ build.child n ≠ page.output) := by
  obtain ⟨m, hm, hout⟩ := r.output_mem_navNames hs hl hpage
  have hl' := (r.grows_copy.trans r.rewrites_pages.grows).node hl
  have hbuild := FileStore.bytes_ne_nil_of_node hl
  have hnames : ∀ n ∈ navNames build l r.afterPages, IsName n :=
    fun n => isName_of_mem_navNames (r.wellFormed_afterPages hs)
  rw [hout, r.others_eq hs hl hm] at hlinks
  refine ⟨(navNames build l r.afterPages).filter (fun n => config.nav.includeSelf || n != m), ?_,
    fun n => ?_⟩
  · rw [Navigation.map_href_of_links hlinks,
      map_href_of_names hbuild fun n hn => hnames n (List.mem_of_mem_filter hn)]
  · rw [hout, List.mem_filter, mem_navNames_iff hl', ← r.isNavigated_after_iff]
    refine and_congr_right fun hn => ?_
    have hname := r.isName_of_isNavigated hs hn
    have hne : build.child n ≠ build.child m ↔ n ≠ m :=
      not_congr ⟨Path.child_injective hbuild hname.noSlash (hnames m hm).noSlash,
        fun h => by rw [h]⟩
    rw [hne, Bool.or_eq_true, bne_iff_ne]

/-- No warning names the file of a page of the build.

**Proof sketch.** A warning names a file that is the template, a Markdown file or a page that was
not built. The output of a page is none of these: the pages of the navigation pass are not the
template and no Markdown files, and it is known to be an output of the build. -/
private lemma not_warned (r : BuildRun source build config s after) (hs : s.WellFormed)
    {l : Location} (hl : s.node build = .ok (.directory l)) (hplain : s.Plain l) {page : BuiltPage}
    (hpage : page ∈ r.built) (origin : Path) (text : Text) :
    .unresolved page.output origin text ∉ r.events := by
  intro h
  obtain ⟨-, n, hn, hnav⟩ := r.output_mem_all hs hpage
  rcases r.exists_of_warning h with ⟨q, hq, -, hfile | hfile, -⟩ |
    ⟨done, hdone, hgenerated, hfile, -⟩
  · -- the template is no page
    have hsame := hnav.notTemplate
    rw [← hn, hfile, FileStore.sameFile] at hsame
    have hisFile := hnav.file
    rw [← hn, hfile, FileStore.isFile] at hisFile
    cases hx : after.node (templateOf build) <;> simp [hx] at hsame hisFile
  · -- and neither is a Markdown file
    have hsource := (r.exists_pageTurn hq).1
    exact (r.source_not_navigated hs hl hplain hsource hnav).1 (hn ▸ hfile)
  · -- the page itself is known to be one of the build
    obtain ⟨q, t, u, hq, hturn⟩ := exists_turn_of_result r.filled hdone
    obtain ⟨outcome, -, hmade⟩ := fillIn_eq_ok_iff.1 hturn.run
    rw [hmade] at hgenerated hfile
    refine absurd hgenerated ?_
    rw [Bool.not_eq_false, List.any_eq_true]
    refine ⟨page.output, List.mem_map_of_mem hpage, ?_⟩
    rw [hfile, Path.alike]
    exact beq_self_eq_true _

end BuildRun

namespace Build

/-- The places for the list in a page that are filled in are those behind closed texts. The page is
made from a document and a template, and `u` and `v` are the texts around a place in it. -/
structure ListsPlaced (build : Path) (config : Config) (after : FileStore)
    (events : List BuildEvent) (page : BuiltPage) (document frame : Text)
    (list : Option (List NavLink)) : Prop where
  /-- Behind a closed text there is the list in the end, which links to all pages but this one, or
  to all if that is asked for, by their names as they are shown; and the list is reported. -/
  filled : ∀ u x v, Page.Placed frame (Page.renderDocument config.markdown document)
    Navigation.placeholderName u x v → IsClosed u → ∃ links, list = some links ∧
      after.readText page.output =
        .ok ((Navigation.filled list u).text ++ Navigation.render links ++
        (Navigation.filled list v).text) ∧
      .navResolved page.output links.length ∈ events ∧
      ∃ targets : List Name, links.map NavLink.href = targets.map Name.text ∧ ∀ n, n ∈ targets ↔
        IsNavigated build after n ∧ (config.nav.includeSelf = true ∨ build.child n ≠ page.output)
  /-- Behind an open text there is the place itself in the end. -/
  lost : ∀ u x v, Page.Placed frame (Page.renderDocument config.markdown document)
    Navigation.placeholderName u x v → ¬IsClosed u →
      after.readText page.output = .ok ((Navigation.filled list u).text ++
        written Navigation.placeholderName ++ (Navigation.filled list v).text)
  /-- No warning about the source of the page tells of a place for the list. -/
  unreported : ∀ file text, .unresolved file page.source text ∈ events →
    ∃ name, name ≠ Navigation.placeholderName ∧ text = written name ∧
      (name ∈ names frame ∨ name ∈ names (Page.renderDocument config.markdown document).html)
  /-- No warning is about the page itself. -/
  silent : ∀ origin text, .unresolved page.output origin text ∉ events

/-- **A place for the list is filled in exactly if the text in front of it is closed**, in every
page of a successful build into a directory without links where no two pages have one output. No
warning tells of a place that is lost.

**Proof sketch.** Without links, pages of different outputs have different files, so each page is
alone and holds in the end its composed text with the list put into it (`exists_finalText`). A
place that the template or the body has is a placeholder written in that text (`text_of_placed`).
If the text in front of it is closed, it is found and replaced, and the list is the one of all
other pages; if it is open, the braces in front take it in (`filled_of_open`), and what is reported
never has the name of the list. -/
theorem list_placed_iff_closed {source build : Path} {config : Config} {s after : FileStore}
    {summary : BuildSummary} {events : List BuildEvent} {l : Location} (hs : s.WellFormed)
    (hl : s.node build = .ok (.directory l)) (hplain : s.Plain l)
    (h : buildSiteWith source build config ⟨s, []⟩ = .ok summary ⟨after, events⟩)
    (houtputs : (summary.pages.map BuiltPage.output).Nodup) :
    ∀ page ∈ summary.pages, ∃ document frame list,
      after.readText page.source = .ok document ∧ after.readText (templateOf build) = .ok frame ∧
      ListsPlaced build config after events page document frame list := by
  obtain ⟨r, rfl, hevents⟩ := buildSiteWith_eq_ok_iff.1 h
  rw [List.nil_append] at hevents
  subst hevents
  intro page hpage
  obtain ⟨t, u, document, frame, text, hturn, hdocument, hframe, htext, t', list, hlist, hfinal,
    hevent⟩ := r.exists_finalText hs hpage (r.isSole_of_plain hs hl hplain houtputs hpage)
  obtain ⟨hdocument', hframe'⟩ := r.readText_of_turn hs hl hplain hturn hdocument hframe
  have hp := (r.exists_pageTurn hpage).1
  have hcapital : ∀ name : Text, (∃ c ∈ name, c.isUpper = true) →
      (Frontmatter.split document).1.first? name = none :=
    fun name => Frontmatter.first?_of_capital (Frontmatter.hasSmallKeys_split document)
  have hcontent := hcapital Page.contentName ⟨'C', by decide, by decide⟩
  have hnav := hcapital Navigation.placeholderName ⟨'N', by decide, by decide⟩
  have hwhole : ∀ u x v, Page.Placed frame (Page.renderDocument config.markdown document)
      Navigation.placeholderName u x v → text = u ++ written Navigation.placeholderName ++ v := by
    intro u x v hplaced
    rw [htext, ← Page.eq_of_placed_nav hnav hplaced]
    exact Page.text_of_placed hcontent hplaced
  refine ⟨document, frame, list, hdocument', hframe', fun u x v hplaced hclosed => ?_,
    fun u x v hplaced hopen => ?_,
    fun file text h => r.written_of_warning hs hl hplain hp hdocument' hframe' h,
    r.not_warned hs hl hplain hpage⟩
  · have htext' := hwhole u x v hplaced
    have hplace : Navigation.hasPlace text = true := by
      rw [htext']
      exact Navigation.hasPlace_of_closed hclosed v
    cases list with
    | none =>
      rw [Navigation.eq_none_of_linksFor hlist rfl] at hplace
      exact absurd hplace (by simp)
    | some links =>
      obtain ⟨-, links', hlinks', hlinks⟩ :=
        Navigation.hasPlace_of_ne hlist (Navigation.filled_ne hplace links)
      obtain rfl : links = links' := by simpa using hlinks'
      refine ⟨links, rfl, ?_, hevent (Navigation.filled_ne hplace links),
        r.exists_targets hs hl hpage hlinks⟩
      rw [hfinal, htext', Navigation.filled_of_closed hclosed]
  · rw [hfinal, hwhole u x v hplaced, Navigation.filled_of_open hopen]

/-- The place for the list in the site with one page is filled in. -/
theorem list_placed_iff_closed_singlePage :
    singlePage.WellFormed ∧ singlePage.Plain [Utf8.encode "b".toList] ∧
    ∃ document frame list,
      singlePageBuilt.readText onlyPage.source = .ok document ∧
      singlePageBuilt.readText (templateOf ⟨"b".toList⟩) = .ok frame ∧
      ListsPlaced ⟨"b".toList⟩ {} singlePageBuilt
        [.copied 2, .pageBuilt onlyPage.source onlyPage.output, .navResolved onlyPage.output 0]
        onlyPage document frame list := by
  have hnode : singlePage.node ⟨"b".toList⟩ = .ok (.directory ["b".toList]) := by cbv
  have hplain : singlePage.Plain [Utf8.encode "b".toList] := linkFree_singlePage.plainAt _
  exact ⟨wellFormed_singlePage, hplain, list_placed_iff_closed wellFormed_singlePage hnode hplain
    build_singlePage (by decide) onlyPage List.mem_cons_self⟩

/-- A document whose value opens a placeholder. -/
def openDocument : Text := "a: ".toList ++ opening

/-- A template with a place for the list behind that for this value. -/
def openFrame : Text := written ['a'] ++ written Navigation.placeholderName

/-- A place for the list behind a value that opens a placeholder is lost, and nothing tells of
it. -/
theorem list_lost_behind_opening :
    names openFrame = [['a'], Navigation.placeholderName] ∧
      buildSiteWith ⟨"s".toList⟩ ⟨"b".toList⟩ {} ⟨pageSite openDocument openFrame, []⟩ =
        .ok ⟨2, [onlyPage], 0, 0⟩
          ⟨pageSiteBuilt openDocument openFrame (opening ++ written Navigation.placeholderName),
            [.copied 2, .pageBuilt onlyPage.source onlyPage.output]⟩ := by
  constructor
  · cbv
  · cbv

end Build

end StaticSite
