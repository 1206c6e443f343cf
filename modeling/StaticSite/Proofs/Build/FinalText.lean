import Mathlib
import StaticSite.Proofs.Build.Navigation

set_option relaxedAutoImplicit false
set_option autoImplicit false

/-!
# What a page is in the end

A page is composed at its turn in the page pass and gets its list at its turn in the navigation
pass. If no later page is written to its file, and no other path leads to it, nothing else of the
build changes it.

## Main definitions

* `StaticSite.Build.IsSole` — the file of a page is its own once the page was built.

## Main results

* `StaticSite.BuildRun.exists_finalText` — a page that is alone is in the end what its two turns
  made of it.
-/

namespace StaticSite

open StaticSite.Action
open StaticSite.Path (IsName)

namespace Build

/-- The file of a page is its own once the page was built: no page that is built later has the same
output, and no other path that takes part in navigation leads to it. -/
structure IsSole (build : Path) (after : FileStore) (built : List BuiltPage) (page : BuiltPage) :
    Prop where
  /-- No page that is built later has the same output. -/
  output : ∀ front back, built = front ++ page :: back → ∀ q ∈ back, q.output ≠ page.output
  /-- No other path that takes part in navigation leads to the file. -/
  file : ∀ n, IsNavigated build after n → after.sameFile (build.child n) page.output = true →
    build.child n = page.output

end Build

open StaticSite.Build

namespace BuildRun

variable {source build : Path} {config : Config} {s after : FileStore}

/-! ## Every page once -/

/-- A Markdown file is built once. -/
lemma nodup_sources (r : BuildRun source build config s after) (hs : s.WellFormed) :
    r.sources.Nodup :=
  nodup_of_discover (r.wellFormed_afterCopy hs) r.found

/-- A page takes part in navigation once. -/
private lemma nodup_paths (r : BuildRun source build config s after) (hs : s.WellFormed) :
    (r.all.map NavPage.path).Nodup := by
  obtain ⟨l, hl⟩ := r.node_build
  have hpages := r.wellFormed_afterPages hs
  rw [r.all_eq hl, List.map_map]
  exact nodup_map_child (FileStore.bytes_ne_nil_of_node hl)
    ((pairwise_navNames hpages build l).imp fun h => Name.ne_of_lt h)
    fun n hn => isName_of_mem_navNames hpages hn

/-- A page has one turn in the navigation pass. -/
lemma nodup_all (r : BuildRun source build config s after) (hs : s.WellFormed) : r.all.Nodup :=
  (r.nodup_paths hs).of_map _

/-- A name that takes part in navigation is one. -/
lemma isName_of_isNavigated (r : BuildRun source build config s after) (hs : s.WellFormed)
    {n : Name} (h : IsNavigated build after n) : IsName n := by
  obtain ⟨l, hl⟩ := r.node_build
  rw [r.isNavigated_after_iff] at h
  have hl' := (r.grows_copy.trans r.rewrites_pages.grows).node hl
  exact isName_of_mem_navNames (r.wellFormed_afterPages hs) ((mem_navNames_iff hl').2 h)

/-- The paths of the navigation pass are those that take part in navigation in the end. -/
lemma exists_name_of_mem_all (r : BuildRun source build config s after) {page : NavPage}
    (hpage : page ∈ r.all) : ∃ n, page = NavPage.of build (build.child n) ∧
      IsNavigated build after n := by
  obtain ⟨l, hl⟩ := r.node_build
  rw [r.all_eq hl] at hpage
  obtain ⟨n, hn, rfl⟩ := List.mem_map.1 hpage
  refine ⟨n, rfl, (r.isNavigated_after_iff n).2 ?_⟩
  exact (mem_navNames_iff ((r.grows_copy.trans r.rewrites_pages.grows).node hl)).1 hn

/-- The page of a Markdown file takes part in the navigation pass. -/
lemma output_mem_all (r : BuildRun source build config s after) (hs : s.WellFormed)
    {page : BuiltPage} (hpage : page ∈ r.built) :
    NavPage.of build page.output ∈ r.all ∧
      ∃ n, page.output = build.child n ∧ IsNavigated build after n := by
  obtain ⟨l, hl⟩ := r.node_build
  obtain ⟨n, hn, hout⟩ := r.output_mem_navNames hs hl hpage
  have hl' := (r.grows_copy.trans r.rewrites_pages.grows).node hl
  refine ⟨?_, n, hout, (r.isNavigated_after_iff n).2 ((mem_navNames_iff hl').1 hn)⟩
  rw [hout, r.all_eq hl]
  exact List.mem_map_of_mem hn

/-! ## Turns -/

/-- A page that was built had its turn in the page pass: its document and the template were read,
and the page was written. -/
lemma exists_pageTurn (r : BuildRun source build config s after) {page : BuiltPage}
    (hpage : page ∈ r.built) :
    page.source ∈ r.sources ∧ page.output = Page.outputOf page.source ∧
      ∃ t u document frame,
        Turn (Page.build config.markdown (templateOf build)) r.sources r.afterCopy r.afterPages
          page.source page t u ∧
        t.readText page.source = .ok document ∧ t.readText (templateOf build) = .ok frame ∧
        FileStore.write page.output (.text (Page.compose config.markdown frame document).text) t =
          .ok () u ∧
        page.unresolved = (Page.compose config.markdown frame document).unresolved := by
  obtain ⟨p, t, u, hp, hturn⟩ := exists_turn_of_result r.paged hpage
  obtain ⟨document, frame, hdocument, hframe, hwrite, hmade⟩ := Page.build_eq_ok_iff.1 hturn.run
  subst hmade
  exact ⟨hp, rfl, t, u, document, frame, hturn, hdocument, hframe, hwrite, rfl⟩

/-- While the lists are filled in, all paths lead where they do in the end. -/
lemma node_of_turn (r : BuildRun source build config s after) {page : NavPage}
    {done : NavigatedPage} {t u : FileStore}
    (h : Turn (fillIn config.nav.includeSelf (r.built.map BuiltPage.output) r.all) r.all
      r.afterPages after page done t u) (p : Path) : t.node p = after.node p := by
  have hkeeps : ∀ page ∈ r.all, Keeps (fun t : FileStore => ∀ p, t.node p = r.afterPages.node p)
      (fillIn config.nav.includeSelf (r.built.map BuiltPage.output) r.all page) :=
    fun page _ => Build.keeps_fillIn
      (fun t id c _ ht p => (FileStore.node_setContents t id c p).trans (ht p)) _ _ _
  rw [r.node_after]
  exact (h.keeps hkeeps fun _ => rfl).1 p

/-- The turn of a page leaves the files alone that are not the page in the end. -/
private lemma contentsOf_of_turn (r : BuildRun source build config s after) {p : Path}
    {page : BuiltPage} {t u : FileStore}
    (h : Turn (Page.build config.markdown (templateOf build)) r.sources r.afterCopy r.afterPages p
      page t u) {id : FileId} (hne : after.node page.output ≠ .ok (.file id)) :
    u.contentsOf id = t.contentsOf id := by
  obtain ⟨document, frame, -, -, hwrite, hmade⟩ := Page.build_eq_ok_iff.1 h.run
  obtain ⟨i, hi, hcontents⟩ := FileStore.write_spec hwrite
  rw [hcontents, if_neg]
  rintro rfl
  apply hne
  rw [hmade, r.node_after]
  exact (r.rewrites_of_turn h).2.2.grows.node hi

/-- The turns of later pages leave the file of a page alone, if the page is alone. -/
private lemma contentsOf_of_later (r : BuildRun source build config s after) (hs : s.WellFormed)
    {page : BuiltPage} (hsole : IsSole build after r.built page) {id : FileId}
    (hid : after.node page.output = .ok (.file id)) {front back : List BuiltPage}
    (hbuilt : r.built = front ++ page :: back) {p : Path} {other : BuiltPage}
    (hother : other ∈ back) {t u : FileStore}
    (h : Turn (Page.build config.markdown (templateOf build)) r.sources r.afterCopy r.afterPages p
      other t u) : u.contentsOf id = t.contentsOf id := by
  apply r.contentsOf_of_turn h
  intro hend
  obtain ⟨-, n, hn, hnav⟩ := r.output_mem_all hs (h.mem r.paged)
  refine hsole.output front back hbuilt other hother (hn.trans (hsole.file n hnav ?_))
  exact FileStore.sameFile_iff.2 ⟨_, hn ▸ hend, hid⟩

/-- While the lists of other pages are filled in, the file of a page is left alone, if the page is
alone. -/
private lemma contentsOf_of_fillIn (r : BuildRun source build config s after) {page : BuiltPage}
    (hsole : IsSole build after r.built page) {id : FileId}
    (hid : after.node page.output = .ok (.file id)) {q : NavPage} (hmem : q ∈ r.all)
    (hq : q ≠ NavPage.of build page.output) {done : NavigatedPage} {t u : FileStore}
    (h : Turn (fillIn config.nav.includeSelf (r.built.map BuiltPage.output) r.all) r.all
      r.afterPages after q done t u) : u.contentsOf id = t.contentsOf id := by
  obtain ⟨n, rfl, hn⟩ := r.exists_name_of_mem_all hmem
  have hne : after.node (build.child n) ≠ .ok (.file id) := by
    intro hi
    apply hq
    rw [hsole.file n hn (FileStore.sameFile_iff.2 ⟨_, hi, hid⟩)]
  have hkeeps : Keeps (fun a : FileStore =>
      a.contentsOf id = t.contentsOf id ∧ ∀ p, a.node p = after.node p)
      (fillIn config.nav.includeSelf (r.built.map BuiltPage.output) r.all
        (NavPage.of build (build.child n))) := Build.keeps_other_file hne _ _ _
  exact (hkeeps.of_eq_ok h.run ⟨rfl, r.node_of_turn h⟩).1

/-- A file that no page is written to is left alone by the page pass and the navigation pass.

**Proof sketch.** All pages that are written and all that are filled in take part in navigation in
the end. So none of the turns of the two passes writes to the file, and it keeps its contents
through each of them. -/
private lemma contentsOf_of_not_navigated (r : BuildRun source build config s after)
    (hs : s.WellFormed) {id : FileId}
    (hid : ∀ n, IsNavigated build after n → after.node (build.child n) ≠ .ok (.file id)) :
    (∀ p page t u, Turn (Page.build config.markdown (templateOf build)) r.sources r.afterCopy
        r.afterPages p page t u → t.contentsOf id = r.afterCopy.contentsOf id) ∧
      after.contentsOf id = r.afterCopy.contentsOf id := by
  have hturn : ∀ p page t u, Turn (Page.build config.markdown (templateOf build)) r.sources
      r.afterCopy r.afterPages p page t u → u.contentsOf id = t.contentsOf id := by
    intro p page t u h
    apply r.contentsOf_of_turn h
    obtain ⟨-, n, hn, hnav⟩ := r.output_mem_all hs (h.mem r.paged)
    rw [hn]
    exact hid n hnav
  have hpages : r.afterPages.contentsOf id = r.afterCopy.contentsOf id :=
    mapM_keeps (P := fun t => t.contentsOf id = r.afterCopy.contentsOf id) r.paged
      (fun p _ page t u h ht => by rw [hturn p page t u h, ht]) rfl
  refine ⟨fun p page t u h => ?_, ?_⟩
  · obtain ⟨front, back, ys, zs, hsources, hfront, hback⟩ := h.order
    refine mapM_keeps_of_turns (P := fun t => t.contentsOf id = r.afterCopy.contentsOf id)
      (mapM_nil_eq_ok_iff.2 ⟨rfl, rfl⟩) hfront
      (mapM_cons_eq_ok_iff.2 ⟨page, u, zs, h.run, hback, rfl⟩)
      (fun p' _ page' _ t' u' h' ht => ?_) rfl
    rw [List.nil_append, ← hsources] at h'
    rw [hturn p' page' t' u' h', ht]
  · have hkeeps : ∀ q ∈ r.all, Keeps (fun a : FileStore =>
        a.contentsOf id = r.afterCopy.contentsOf id ∧ ∀ p, a.node p = after.node p)
        (fillIn config.nav.includeSelf (r.built.map BuiltPage.output) r.all q) := by
      intro q hq
      obtain ⟨n, rfl, hn⟩ := r.exists_name_of_mem_all hq
      exact Build.keeps_other_file (hid n hn) _ _ _
    exact ((Keeps.mapM hkeeps).of_eq_ok r.filled ⟨hpages, fun p => (r.node_after p).symm⟩).1

/-- A text that no page is written to is in the end what it is at every turn of the page pass. -/
lemma readText_of_not_navigated (r : BuildRun source build config s after) (hs : s.WellFormed)
    {q : Path} (hq : ∀ n, IsNavigated build after n → after.sameFile (build.child n) q = false)
    {p : Path} {page : BuiltPage} {t u : FileStore}
    (h : Turn (Page.build config.markdown (templateOf build)) r.sources r.afterCopy r.afterPages p
      page t u) {text : Text} (htext : t.readText q = .ok text) : after.readText q = .ok text := by
  obtain ⟨id, hid, hc⟩ := FileStore.node_of_readText htext
  have hend : after.node q = .ok (.file id) := by
    rw [r.node_after]
    exact (r.rewrites_of_turn h).2.1.grows.node hid
  have hnot : ∀ n, IsNavigated build after n → after.node (build.child n) ≠ .ok (.file id) := by
    intro n hn hnode
    have hnot := hq n hn
    rw [← Bool.not_eq_true, FileStore.sameFile_iff] at hnot
    exact hnot ⟨_, hnode, hend⟩
  obtain ⟨hturn, hafter⟩ := r.contentsOf_of_not_navigated hs hnot
  refine FileStore.readText_of_node hend ?_
  rw [hafter, ← hturn p page t u h, hc]

/-- A list that is filled in is reported. -/
private lemma event_of_navigated (r : BuildRun source build config s after) {done : NavigatedPage}
    (h : done ∈ r.navigated) (hrewritten : done.outcome.rewritten = true) :
    .navResolved done.path done.outcome.links ∈ r.events := by
  refine List.mem_append_right _ (List.mem_flatMap.2 ⟨done, h, ?_⟩)
  rw [NavigatedPage.events, if_pos hrewritten]
  exact List.mem_append_left _ List.mem_cons_self

/-- The file of a page that is alone is left as its turn in the page pass left it to the end of the
pass. -/
private lemma contentsOf_afterPages (r : BuildRun source build config s after) (hs : s.WellFormed)
    {page : BuiltPage} (hsole : IsSole build after r.built page) {t u : FileStore}
    (hturn : Turn (Page.build config.markdown (templateOf build)) r.sources r.afterCopy r.afterPages
      page.source page t u) {id : FileId} (hend : after.node page.output = .ok (.file id)) :
    r.afterPages.contentsOf id = u.contentsOf id := by
  obtain ⟨_, _, zs, ws, -, hall, hkeeps⟩ := hturn.exists_behind
  have hbuilt : r.built = zs ++ page :: ws := by
    have hpaged := r.paged
    unfold Build.pages at hpaged
    simpa using hpaged.symm.trans hall
  refine hkeeps (fun a => a.contentsOf id = u.contentsOf id)
    (fun p' _ other hother a b hturn' ha => ?_)
    rfl
  rw [r.contentsOf_of_later hs hsole hend hbuilt hother hturn', ha]

/-- The navigation pass puts the list into the text that a page that is alone has in front of it.

**Proof sketch.** Nothing is written to the file of the page between the end of the page pass and
its own turn, nor after its turn, as the page is alone (`contentsOf_of_fillIn`). So the turn finds
the text, and what it makes of it is what is there in the end. -/
private lemma exists_filledText (r : BuildRun source build config s after) (hs : s.WellFormed)
    {page : BuiltPage} (hpage : page ∈ r.built) (hsole : IsSole build after r.built page)
    {id : FileId} (hend : after.node page.output = .ok (.file id)) {text : Text}
    (hpages : r.afterPages.contentsOf id = .text text) :
    ∃ t list,
      Navigation.linksFor t text
        (NavPage.others r.all (NavPage.of build page.output) config.nav.includeSelf) = .ok list ∧
      after.readText page.output = .ok (Navigation.filled list text).text ∧
      ((Navigation.filled list text).text ≠ text →
        .navResolved page.output (list.getD []).length ∈ r.events) := by
  obtain ⟨hall, -⟩ := r.output_mem_all hs hpage
  have hnodup := r.nodup_all hs
  obtain ⟨done, t, u, hdone, hnav⟩ := exists_turn r.filled hall
  -- the turns of the other pages leave the file as it is
  have hothers : ∀ c, ∀ q ∈ r.all, q ≠ NavPage.of build page.output → ∀ y a b,
      Turn (fillIn config.nav.includeSelf (r.built.map BuiltPage.output) r.all) r.all r.afterPages
        after q y a b → a.contentsOf id = c → b.contentsOf id = c :=
    fun c q hq hne y a b hturn ha => (r.contentsOf_of_fillIn hsole hend hq hne hturn).trans ha
  have hstart : t.contentsOf id = .text text :=
    hnav.keeps_before (P := fun a => a.contentsOf id = .text text) hnodup (hothers _) hpages
  have hnode : t.node page.output = .ok (.file id) := by rw [r.node_of_turn hnav, hend]
  obtain ⟨outcome, hresolve, hdone'⟩ := fillIn_eq_ok_iff.1 hnav.run
  rcases Navigation.resolve_cases page.output
    (NavPage.others r.all (NavPage.of build page.output) config.nav.includeSelf) t with
    ⟨e, he⟩ | ⟨i, x, list, hi, hx, hlist, hrun⟩
  · exact absurd (he.symm.trans hresolve) (by simp)
  · obtain rfl : id = i := by simpa [hnode] using hi
    obtain rfl : text = x := by simpa [hstart] using hx
    obtain ⟨rfl, rfl⟩ : Navigation.outcomeOf list text = outcome ∧ _ = u := by
      simpa using hrun.symm.trans hresolve
    refine ⟨t, list, hlist, ?_, fun hne => ?_⟩
    · refine FileStore.readText_of_node hend (hnav.keeps_after
        (P := fun a => a.contentsOf id = .text (Navigation.filled list text).text) hnodup
        (hothers _) ?_)
      split
      · next hsame => rw [hstart, hsame]
      · rw [FileStore.contentsOf_setContents, if_pos rfl]
    · have hevent := r.event_of_navigated hdone (by
        rw [hdone']
        simpa [Navigation.outcomeOf] using hne)
      rwa [hdone'] at hevent

/-- **A page that is alone** is in the end what its two turns made of it: its text is composed from
the document and the template as they are at its turn in the page pass, and the list is put into
this text as it is at its turn in the navigation pass.

**Proof sketch.** The page pass writes the composed text to the file of the output, and no later
turn of it writes there, as the page is alone. So this is the text that the navigation pass begins
with (`exists_filledText`). -/
theorem exists_finalText (r : BuildRun source build config s after) (hs : s.WellFormed)
    {page : BuiltPage} (hpage : page ∈ r.built) (hsole : IsSole build after r.built page) :
    ∃ t u document frame text,
      Turn (Page.build config.markdown (templateOf build)) r.sources r.afterCopy r.afterPages
        page.source page t u ∧
      t.readText page.source = .ok document ∧ t.readText (templateOf build) = .ok frame ∧
      text = (Page.compose config.markdown frame document).text ∧
      ∃ t' list,
        Navigation.linksFor t' text
          (NavPage.others r.all (NavPage.of build page.output) config.nav.includeSelf) = .ok list ∧
        after.readText page.output = .ok (Navigation.filled list text).text ∧
        ((Navigation.filled list text).text ≠ text →
          .navResolved page.output (list.getD []).length ∈ r.events) := by
  obtain ⟨-, -, t, u, document, frame, hturn, hdocument, hframe, hwrite, -⟩ :=
    r.exists_pageTurn hpage
  obtain ⟨id, hid, hcontents⟩ := FileStore.write_spec hwrite
  have hend : after.node page.output = .ok (.file id) := by
    rw [r.node_after]
    exact (r.rewrites_of_turn hturn).2.2.grows.node hid
  have hpages : r.afterPages.contentsOf id =
      .text (Page.compose config.markdown frame document).text := by
    rw [r.contentsOf_afterPages hs hsole hturn hend, hcontents, if_pos rfl]
  exact ⟨t, u, document, frame, _, hturn, hdocument, hframe, rfl,
    r.exists_filledText hs hpage hsole hend hpages⟩

end BuildRun

/-! ## A site with one page -/

namespace Build

/-- A document with a key and a line of text. -/
def singleDocument : Text := "a: x\n\ny".toList

/-- A template with places for a key, the list and the body. -/
def singleFrame : Text :=
  Placeholder.written ['a'] ++ Placeholder.written Navigation.placeholderName ++
    Placeholder.written Page.contentName

/-- The source directory of a site with one page, and an empty build directory. -/
def singlePage : FileStore :=
  (((({} : FileStore).setEntry ["s".toList] .directory).setEntry ["b".toList] .directory).newFile
    ["p.md".toList, "s".toList] (.text singleDocument)).newFile
    ["template.html".toList, "s".toList] (.text singleFrame)

/-- The site with one page after it was built. -/
def singlePageBuilt : FileStore :=
  ((singlePage.newFile ["p.md".toList, "b".toList] (.text singleDocument)).newFile
    ["template.html".toList, "b".toList] (.text singleFrame)).newFile
    ["p.html".toList, "b".toList] (.text "x<ul></ul><p>y</p>\n".toList)

/-- The page of the site. -/
def onlyPage : BuiltPage := ⟨⟨"b/p.md".toList⟩, ⟨"b/p.html".toList⟩, []⟩

/-- There are no links in the site with one page. -/
lemma linkFree_singlePage : singlePage.LinkFree := by
  have hmade : made [.makeDirectories ⟨"s".toList⟩, .makeDirectories ⟨"b".toList⟩,
      .write ⟨"s/p.md".toList⟩ (.text singleDocument),
      .write ⟨"s/template.html".toList⟩ (.text singleFrame)] = singlePage := by
    cbv
  rw [← hmade]
  exact linkFree_made (by simp [Change.MakesNoLink])

/-- The site with one page is well-formed. -/
lemma wellFormed_singlePage : singlePage.WellFormed := linkFree_singlePage.wellFormed

/-- The site with one page is built. -/
lemma build_singlePage :
    buildSiteWith ⟨"s".toList⟩ ⟨"b".toList⟩ {} ⟨singlePage, []⟩ =
      .ok ⟨2, [onlyPage], 1, 0⟩ ⟨singlePageBuilt,
        [.copied 2, .pageBuilt onlyPage.source onlyPage.output,
          .navResolved onlyPage.output 0]⟩ := by
  cbv

/-- The same site with another document and another template. -/
def pageSite (document frame : Text) : FileStore :=
  (((({} : FileStore).setEntry ["s".toList] .directory).setEntry ["b".toList] .directory).newFile
    ["p.md".toList, "s".toList] (.text document)).newFile
    ["template.html".toList, "s".toList] (.text frame)

/-- Such a site after its page was built into a text. -/
def pageSiteBuilt (document frame text : Text) : FileStore :=
  (((pageSite document frame).newFile ["p.md".toList, "b".toList] (.text document)).newFile
    ["template.html".toList, "b".toList] (.text frame)).newFile
    ["p.html".toList, "b".toList] (.text text)

/-- The page of the site is alone. -/
lemma isSole_onlyPage : IsSole ⟨"b".toList⟩ singlePageBuilt [onlyPage] onlyPage := by
  refine ⟨fun front back h q hq => ?_, fun n hn _ => ?_⟩
  · rw [List.singleton_eq_append_iff] at h
    simp_all
  have hnode : singlePageBuilt.node ⟨"b".toList⟩ = .ok (.directory ["b".toList]) := by cbv
  have hnames : navNames ⟨"b".toList⟩ ["b".toList] singlePageBuilt =
      [Utf8.encode "p.html".toList] := by cbv
  rw [← mem_navNames_iff hnode, hnames, List.mem_singleton] at hn
  rw [hn]
  rfl

end Build

end StaticSite
