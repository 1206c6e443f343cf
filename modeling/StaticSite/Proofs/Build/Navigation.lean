import Mathlib
import StaticSite.Proofs.Build.Disk
import StaticSite.Proofs.FileStore.Child
import StaticSite.Proofs.Path.FileName

set_option relaxedAutoImplicit false
set_option autoImplicit false

/-!
# Completeness of navigation

The pages that take part in navigation are found once, after all pages of the build were written
and before any list is filled in. The pass itself writes to these pages only and makes no file, so
what was found is what is there in the end.

## Main definitions

* `StaticSite.Build.IsNavigated` — a name of the build directory stands for an HTML file that is
  not the template.
* `StaticSite.Build.Inserted` — a list of links to some pages is put into a page.
* `StaticSite.Build.IsComplete` — the navigation pass of a run is complete and in order.

## Main results

* `StaticSite.BuildRun.output_mem_navNames` — the page of a Markdown file takes part in navigation.
* `StaticSite.Build.navigation_complete` — every list links to all pages, once and in order.
-/

namespace StaticSite

open StaticSite.Action
open StaticSite.Path (IsName)

/-! ## Finding files -/

/-- The files that are found in a directory have the names of its entries. -/
lemma discover_of_node {s : FileStore} {directory : Path} {l : Location}
    (h : s.node directory = .ok (.directory l)) (extension : Name) :
    discover s directory extension =
      .ok (((s.namesIn l).filter fun n => (directory.child n).hasExtension extension &&
        s.isFile (directory.child n)).map directory.child) := by
  have hlist : s.list directory = .ok (s.namesIn l) := by rw [FileStore.list, h]
  rw [discover, hlist]
  simp only [List.filter_map]
  rfl

/-- A file that is found in a directory is the file of an entry with the extension. -/
lemma exists_name_of_discover {s : FileStore} {directory : Path} {l : Location}
    (h : s.node directory = .ok (.directory l)) {extension : Name} {found : List Path}
    (hfound : discover s directory extension = .ok found) {p : Path} (hp : p ∈ found) :
    ∃ n, p = directory.child n ∧ (s.entryAt (n :: l)).isSome = true ∧
      p.hasExtension extension = true ∧ s.isFile p = true := by
  rw [discover_of_node h] at hfound
  rw [← Except.ok.inj hfound] at hp
  obtain ⟨n, hn, rfl⟩ := List.mem_map.1 hp
  rw [List.mem_filter, FileStore.mem_namesIn_iff, Bool.and_eq_true] at hn
  exact ⟨n, rfl, hn.1, hn.2.1, hn.2.2⟩

/-- The paths of different names are different. -/
lemma nodup_map_child {directory : Path} (hdirectory : directory.bytes ≠ []) {names : List Name}
    (h : names.Nodup) (hnames : ∀ n ∈ names, IsName n) : (names.map directory.child).Nodup := by
  refine h.map_on fun n hn m hm heq => ?_
  exact Path.child_injective hdirectory (hnames n hn).noSlash (hnames m hm).noSlash heq

/-- No file is found twice in a directory. -/
lemma nodup_of_discover {s : FileStore} (hs : s.WellFormed) {directory : Path} {extension : Name}
    {found : List Path} (hfound : discover s directory extension = .ok found) : found.Nodup := by
  obtain ⟨l, h⟩ : ∃ l, s.node directory = .ok (.directory l) := by
    unfold discover FileStore.list at hfound
    cases hx : s.node directory with
    | error e => simp [hx] at hfound
    | ok x =>
      cases x with
      | file id => simp [hx] at hfound
      | directory l => exact ⟨l, rfl⟩
  rw [discover_of_node h] at hfound
  rw [← Except.ok.inj hfound]
  refine nodup_map_child (FileStore.bytes_ne_nil_of_node h) ?_ fun n hn => ?_
  · exact ((FileStore.pairwise_namesIn hs l).imp fun hlt => Name.ne_of_lt hlt).filter _
  · exact hs.isName n l (FileStore.mem_namesIn_iff.1 (List.mem_of_mem_filter hn))

namespace Build

/-- A template that can be used is a file, and no page is written over it. -/
lemma checkTemplate_spec {template : Path} {sources : List Path} {s : FileStore}
    (h : checkTemplate template sources s = .ok ()) {p : Path} (hp : p ∈ sources) :
    s.isFile template = true ∧ s.sameFile (Page.outputOf p) template = false := by
  unfold checkTemplate at h
  split at h
  · next hempty =>
    rw [List.isEmpty_iff.1 hempty] at hp
    simp at hp
  · split at h
    · simp at h
    · next hfile =>
      split at h
      · simp at h
      · next hnone =>
        have hover := List.find?_eq_none.1 hnone p hp
        simp only [overwrites, Bool.or_eq_true, not_or, Bool.not_eq_true] at hover
        exact ⟨by simpa using hfile, hover.2⟩

/-- The names of the files in a build directory that take part in navigation. -/
def navNames (build : Path) (l : Location) (s : FileStore) : List Name :=
  (s.namesIn l).filter fun n => (build.child n).hasExtension Page.outputExtension &&
    s.isFile (build.child n) && !s.sameFile (build.child n) (templateOf build)

/-- The pages that take part in navigation are the files of these names. -/
lemma navPages_of_node {s : FileStore} {build : Path} {l : Location}
    (h : s.node build = .ok (.directory l)) :
    navPages build s =
      .ok ((navNames build l s).map fun n => NavPage.of build (build.child n)) := by
  rw [navPages, discover_of_node h, Except.map, List.filter_map, List.filter_filter, List.map_map,
    navNames]
  simp only [Function.comp_def, Bool.and_comm]

/-- A name of the build directory that belongs to an HTML file other than the template. -/
structure IsNavigated (build : Path) (s : FileStore) (n : Name) : Prop where
  /-- The build directory has an entry of the name. -/
  entry : ∃ l, s.node build = .ok (.directory l) ∧ (s.entryAt (n :: l)).isSome = true
  /-- The extension is that of HTML files, in any case. -/
  html : (build.child n).hasExtension Page.outputExtension = true
  /-- It is a file. -/
  file : s.isFile (build.child n) = true
  /-- It is not the file of the template. -/
  notTemplate : s.sameFile (build.child n) (templateOf build) = false

/-- Which names take part in navigation depends on the entries and on where the paths lead. -/
lemma IsNavigated.congr {build : Path} {s t : FileStore} {n : Name} (h : IsNavigated build s n)
    (hnode : ∀ p, t.node p = s.node p) (hentry : ∀ l, t.entryAt l = s.entryAt l) :
    IsNavigated build t n := by
  obtain ⟨⟨l, hl, he⟩, hhtml, hfile, hnot⟩ := h
  refine ⟨⟨l, by rw [hnode, hl], by rw [hentry, he]⟩, hhtml, ?_, ?_⟩
  · rw [FileStore.isFile, hnode]
    exact hfile
  · rw [FileStore.sameFile, hnode, hnode]
    exact hnot

/-- The names that take part in navigation are those of the HTML files other than the template. -/
lemma mem_navNames_iff {s : FileStore} {build : Path} {l : Location}
    (h : s.node build = .ok (.directory l)) {n : Name} :
    n ∈ navNames build l s ↔ IsNavigated build s n := by
  rw [navNames, List.mem_filter, FileStore.mem_namesIn_iff]
  constructor
  · rintro ⟨hentry, hn⟩
    simp only [Bool.and_eq_true, Bool.not_eq_true'] at hn
    exact ⟨⟨l, h, hentry⟩, hn.1.1, hn.1.2, hn.2⟩
  · rintro ⟨⟨l', hl', hentry⟩, hhtml, hfile, htemplate⟩
    rw [h] at hl'
    obtain rfl : l = l' := by simpa using hl'
    exact ⟨hentry, by simp [hhtml, hfile, htemplate]⟩

/-- The names that take part in navigation are in strict order. -/
lemma pairwise_navNames {s : FileStore} (hs : s.WellFormed) (build : Path) (l : Location) :
    (navNames build l s).Pairwise (· < ·) :=
  (FileStore.pairwise_namesIn hs l).filter _

/-- The names that take part in navigation are names. -/
lemma isName_of_mem_navNames {s : FileStore} (hs : s.WellFormed) {build : Path} {l : Location}
    {n : Name} (h : n ∈ navNames build l s) : IsName n :=
  hs.isName n l (FileStore.mem_namesIn_iff.1 (List.mem_of_mem_filter h))

/-- The pages that a page links to are those of the other names. -/
private lemma others_of_names {build : Path} (hbuild : build.bytes ≠ []) {names : List Name}
    (hnames : ∀ n ∈ names, IsName n) {n : Name} (hn : IsName n) (includeSelf : Bool) :
    NavPage.others (names.map fun m => NavPage.of build (build.child m))
        (NavPage.of build (build.child n)) includeSelf =
      (names.filter fun m => includeSelf || m != n).map
        fun m => NavPage.of build (build.child m) := by
  rw [NavPage.others, List.filter_map]
  congr 1
  refine List.filter_congr fun m hm => ?_
  show (includeSelf || !(build.child m).alike (build.child n)) = (includeSelf || m != n)
  have halike := Path.alike_child_iff hbuild (hnames m hm) hn
  by_cases hmn : m = n
  · simp [hmn, (Path.alike_child_iff hbuild hn hn).2 rfl]
  · have : (build.child m).alike (build.child n) = false := by
      rw [← Bool.not_eq_true, halike]
      exact hmn
    simp [this, hmn]

/-- The targets of the links to the pages of some names are the names as they are shown. -/
lemma map_href_of_names {build : Path} (hbuild : build.bytes ≠ []) {names : List Name}
    (hnames : ∀ n ∈ names, IsName n) :
    (names.map fun m => NavPage.of build (build.child m)).map NavPage.href =
      names.map Name.text := by
  rw [List.map_map]
  exact List.map_congr_left fun m hm => NavPage.href_child hbuild (hnames m hm)

/-! ## A page's turn -/

/-- A turn in the navigation pass fills in a page and notes what became of it. -/
lemma fillIn_eq_ok_iff {includeSelf : Bool} {generated : List Path} {all : List NavPage}
    {page : NavPage} {s t : FileStore} {done : NavigatedPage} :
    fillIn includeSelf generated all page s = .ok done t ↔
      ∃ outcome, Navigation.resolve page.path (NavPage.others all page includeSelf) s =
        .ok outcome t ∧ done = ⟨page.path, generated.any page.path.alike, outcome⟩ := by
  unfold fillIn
  rw [bind_eq_ok_iff]
  constructor
  · rintro ⟨outcome, t', h, h'⟩
    obtain ⟨rfl, rfl⟩ := pure_eq_ok_iff.1 h'
    exact ⟨outcome, h, rfl⟩
  · rintro ⟨outcome, h, rfl⟩
    exact ⟨outcome, t, h, pure_eq_ok_iff.2 ⟨rfl, rfl⟩⟩

/-- A turn that reports a filled-in list has put it into the page: `t` is the text of the page
before, and every place for the list in it is replaced.

**Proof sketch.** The turn has resolved the page, and not refused it, so the page was overwritten
by its text with the list in it (`resolve_cases`). It was changed, so the text has a place for the
list and the links were made. -/
private lemma fillIn_rewritten {includeSelf : Bool} {generated : List Path} {all : List NavPage}
    {page : NavPage} {s s' : FileStore} {done : NavigatedPage}
    (h : fillIn includeSelf generated all page s = .ok done s')
    (hdone : done.outcome.rewritten = true) :
    ∃ t links, s.readText page.path = .ok t ∧ Navigation.hasPlace t = true ∧
      Navigation.links s (NavPage.others all page includeSelf) = .ok links ∧
      done.outcome.links = links.length ∧
      s'.readText page.path =
        .ok ((Navigation.resolver (some (Navigation.render links))).resolve t).text := by
  obtain ⟨outcome, hresolve, rfl⟩ := fillIn_eq_ok_iff.1 h
  rcases Navigation.resolve_cases page.path (NavPage.others all page includeSelf) s with
    ⟨e, he⟩ | ⟨id, t, list, hid, hc, hlist, hrun⟩
  · simp [he] at hresolve
  · obtain ⟨rfl, rfl⟩ : Navigation.outcomeOf list t = outcome ∧ _ = s' := by
      simpa [hrun] using hresolve
    have hne : (Navigation.filled list t).text ≠ t := by
      simpa [Navigation.outcomeOf] using hdone
    obtain ⟨hplace, links, rfl, hlinks⟩ := Navigation.hasPlace_of_ne hlist hne
    refine ⟨t, links, FileStore.readText_of_node hid hc, hplace, hlinks, rfl, ?_⟩
    rw [if_neg hne]
    have hnode := (FileStore.node_setContents s id (.text (Navigation.filled (some links) t).text)
      page.path).trans hid
    refine FileStore.readText_of_node hnode ?_
    rw [FileStore.contentsOf_setContents, if_pos rfl]
    rfl

/-! ## The template -/

/-- No page that takes part in navigation is the template. -/
private lemma not_template_of_navPages {build : Path} {s : FileStore} {all : List NavPage}
    (h : navPages build s = .ok all) {page : NavPage} (hpage : page ∈ all) :
    s.sameFile page.path (templateOf build) = false := by
  unfold navPages at h
  cases hfound : discover s build Page.outputExtension with
  | error e => simp [hfound, Except.map] at h
  | ok found =>
    rw [hfound] at h
    rw [← Except.ok.inj h] at hpage
    obtain ⟨p, hp, rfl⟩ := List.mem_map.1 hpage
    show s.sameFile p (templateOf build) = false
    simpa using (List.mem_filter.1 hp).2

/-- Filling in lists makes nothing, so all paths lead where they did. -/
lemma keeps_node (s : FileStore) (includeSelf : Bool) (generated : List Path)
    (all pages : List NavPage) :
    Keeps (fun t : FileStore => ∀ p, t.node p = s.node p)
      (pages.mapM (fillIn includeSelf generated all)) :=
  Keeps.mapM fun _ _ => keeps_fillIn (fun t id c _ ht p => by
    rw [FileStore.node_setContents, ht]) _ _ _

/-- Filling in lists makes no entry. -/
lemma entryAt_of_filled {includeSelf : Bool} {generated : List Path} {all pages : List NavPage}
    {s t : FileStore} {navigated : List NavigatedPage}
    (h : pages.mapM (fillIn includeSelf generated all) s = .ok navigated t) (l : Location) :
    t.entryAt l = s.entryAt l := by
  have hkeeps : Keeps (fun u : FileStore => ∀ l, u.entryAt l = s.entryAt l)
      (pages.mapM (fillIn includeSelf generated all)) :=
    Keeps.mapM fun _ _ => keeps_fillIn (fun _ _ _ _ hu l => by
      rw [FileStore.entryAt_setContents, hu]) _ _ _
  exact hkeeps.of_eq_ok h (fun _ => rfl) l

/-- **Filling in lists does not write to the template**, by whatever path. -/
theorem keeps_template {build : Path} {s : FileStore} {all pages : List NavPage}
    (hall : navPages build s = .ok all) (hpages : ∀ page ∈ pages, page ∈ all) {id : FileId}
    (hid : s.node (templateOf build) = .ok (.file id)) (includeSelf : Bool)
    (generated : List Path) :
    Keeps (fun t : FileStore => t.contentsOf id = s.contentsOf id ∧ ∀ p, t.node p = s.node p)
      (pages.mapM (fillIn includeSelf generated all)) := by
  refine Keeps.mapM fun page hpage => keeps_other_file (fun hi => ?_) _ _ _
  -- no page of the pass is this file
  have hnot := not_template_of_navPages hall (hpages page hpage)
  rw [← Bool.not_eq_true, FileStore.sameFile_iff] at hnot
  exact hnot ⟨_, hi, hid⟩

/-! ## The turn of a Markdown file -/

section PageTurn

variable {extensions : Markdown.Extensions} {build : Path} {sources : List Path}
  {start afterPages t u : FileStore} {p : Path} {page : BuiltPage}
  (h : Turn (Page.build extensions (templateOf build)) sources start afterPages p page t u)

include h

/-- What a page's turn leaves is there at the end of the page pass. -/
private lemma rewrites_of_pageTurn : FileStore.Rewrites start t ∧ FileStore.Rewrites t afterPages ∧
    FileStore.Rewrites u afterPages := by
  have hpages : ∀ {r : FileStore}, ∀ q ∈ sources,
      Keeps (FileStore.Rewrites r) (Page.build extensions (templateOf build) q) :=
    fun q _ => Page.keeps_build FileStore.Rewrites.write _ _ q
  have hturn : FileStore.Rewrites t u :=
    (Page.keeps_build FileStore.Rewrites.write _ _ p).of_eq_ok h.run .refl
  have hend := h.keeps_end hpages .refl
  exact ⟨(h.keeps hpages .refl).1, Relation.ReflTransGen.trans hturn hend, hend⟩

/-- The turn of a Markdown file writes the page beside it. -/
lemma exists_written_of_pageTurn (hstart : start.WellFormed) {l : Location}
    (hl : start.node build = .ok (.directory l))
    (found : discover start build Page.sourceExtension = .ok sources) :
    ∃ n, p = build.child n ∧ IsName n ∧ (Path.mk n).hasExtension Page.sourceExtension = true ∧
      start.isFile p = true ∧ IsName (Page.outputName n) ∧
      (Path.mk (Page.outputName n)).hasExtension Page.outputExtension = true ∧
      page.output = build.child (Page.outputName n) ∧
      ∃ c, FileStore.write (build.child (Page.outputName n)) c t = .ok () u := by
  have ht := (rewrites_of_pageTurn h).1
  obtain ⟨n, rfl, hentry, hext, hfile⟩ := exists_name_of_discover hl found h.mem_list
  have hn : IsName n := hstart.isName n l hentry
  rw [Path.hasExtension_child (FileStore.bytes_ne_nil_of_node hl) hn] at hext
  obtain ⟨hname, hhtml, hout, document, frame, -, -, hwrite, rfl⟩ :=
    Page.build_child_spec (ht.grows.wellFormed hstart) (ht.grows.node hl) hn hext h.run
  exact ⟨n, rfl, hn, hext, hfile, hname, hhtml, hout, _, hwrite⟩

end PageTurn

end Build

namespace BuildRun

open StaticSite.Build

variable {source build : Path} {config : Config} {s after : FileStore}

/-! ## The passes of a run -/

/-- The navigation pass makes nothing, so all paths lead where they did. -/
lemma node_after (r : BuildRun source build config s after) (p : Path) :
    after.node p = r.afterPages.node p :=
  (keeps_node r.afterPages _ _ _ _).of_eq_ok r.filled (fun _ => rfl) p

/-- The Markdown files of a run are those of the build directory. -/
lemma mem_sources (r : BuildRun source build config s after) {l : Location}
    (hl : s.node build = .ok (.directory l)) {p : Path} (hp : p ∈ r.sources) :
    ∃ n, p = build.child n ∧ (r.afterCopy.entryAt (n :: l)).isSome = true ∧
      p.hasExtension Page.sourceExtension = true ∧ r.afterCopy.isFile p = true :=
  exists_name_of_discover (r.grows_copy.node hl) r.found hp

/-- No page is written over the template, which is a file. -/
private lemma accepted_spec (r : BuildRun source build config s after) {p : Path}
    (hp : p ∈ r.sources) :
    r.afterCopy.isFile (templateOf build) = true ∧
      r.afterCopy.sameFile (Page.outputOf p) (templateOf build) = false :=
  checkTemplate_spec r.accepted hp

/-- What a page's turn leaves is there at the end of the page pass. -/
lemma rewrites_of_turn (r : BuildRun source build config s after) {p : Path} {page : BuiltPage}
    {t u : FileStore}
    (h : Turn (Page.build config.markdown (templateOf build)) r.sources r.afterCopy r.afterPages p
      page t u) :
    FileStore.Rewrites r.afterCopy t ∧ FileStore.Rewrites t r.afterPages ∧
      FileStore.Rewrites u r.afterPages :=
  rewrites_of_pageTurn h

/-- The turn of a Markdown file writes the page beside it. -/
private lemma exists_written (r : BuildRun source build config s after) (hs : s.WellFormed)
    {l : Location} (hl : s.node build = .ok (.directory l)) {p : Path} {page : BuiltPage}
    {t u : FileStore}
    (h : Turn (Page.build config.markdown (templateOf build)) r.sources r.afterCopy r.afterPages p
      page t u) :
    ∃ n, p = build.child n ∧ IsName n ∧ (Path.mk n).hasExtension Page.sourceExtension = true ∧
      r.afterCopy.isFile p = true ∧ IsName (Page.outputName n) ∧
      (Path.mk (Page.outputName n)).hasExtension Page.outputExtension = true ∧
      page.output = build.child (Page.outputName n) ∧
      ∃ c, FileStore.write (build.child (Page.outputName n)) c t = .ok () u :=
  exists_written_of_pageTurn h (r.wellFormed_afterCopy hs) (r.grows_copy.node hl) r.found

/-- **The page of a Markdown file takes part in navigation.**

**Proof sketch.** The page was written to a path beside its source with the extension of pages, and
what was written there is still a file when the pass is over. It is not the template, since the
check refuses outputs that are, and writing leads no other path to the file of the template. -/
theorem output_mem_navNames (r : BuildRun source build config s after) (hs : s.WellFormed)
    {l : Location} (hl : s.node build = .ok (.directory l)) {page : BuiltPage}
    (hpage : page ∈ r.built) :
    ∃ n ∈ navNames build l r.afterPages, page.output = build.child n := by
  obtain ⟨p, t, u, hp, hturn⟩ := exists_turn_of_result r.paged hpage
  obtain ⟨n, rfl, -, -, -, hname, hhtml, hout, c, hwrite⟩ := r.exists_written hs hl hturn
  obtain ⟨hfile, hnot⟩ := r.accepted_spec hp
  obtain ⟨document, frame, -, -, -, hmade⟩ := Page.build_eq_ok_iff.1 hturn.run
  have houtput : Page.outputOf (build.child n) = build.child (Page.outputName n) := by
    rw [← hout, hmade]
  rw [houtput] at hnot
  have hl' := (r.grows_copy.trans r.rewrites_pages.grows).node hl
  -- what the turn left is what the end of the pass has
  obtain ⟨id, hid, -⟩ := FileStore.write_spec hwrite
  have hnode := (r.rewrites_of_turn hturn).2.2.grows.node hid
  refine ⟨Page.outputName n, (mem_navNames_iff hl').2 ⟨⟨l, hl', ?_⟩, ?_, ?_, ?_⟩, hout⟩
  · exact FileStore.entryAt_of_node_child hl' hname hnode
  · rw [Path.hasExtension_child (FileStore.bytes_ne_nil_of_node hl) hname, hhtml]
  · exact FileStore.isFile_iff.2 ⟨id, hnode⟩
  · rw [← Bool.not_eq_true, r.rewrites_pages.sameFile_iff (r.wellFormed_afterCopy hs) hfile, hnot]
    simp

/-- The pages that the navigation pass goes through are those of the names found before it. -/
lemma all_eq (r : BuildRun source build config s after) {l : Location}
    (hl : s.node build = .ok (.directory l)) :
    r.all = (navNames build l r.afterPages).map fun n => NavPage.of build (build.child n) := by
  have hbuild := (r.grows_copy.trans r.rewrites_pages.grows).node hl
  have h := r.listed
  rw [navPages_of_node hbuild] at h
  exact (Except.ok.inj h).symm

/-- The page of a name links to those of the other names, and to itself only if that is asked
for. -/
lemma others_eq (r : BuildRun source build config s after) (hs : s.WellFormed) {l : Location}
    (hl : s.node build = .ok (.directory l)) {n : Name} (hn : n ∈ navNames build l r.afterPages) :
    NavPage.others r.all (NavPage.of build (build.child n)) config.nav.includeSelf =
      ((navNames build l r.afterPages).filter fun m => config.nav.includeSelf || m != n).map
        fun m => NavPage.of build (build.child m) := by
  have hnames : ∀ n ∈ navNames build l r.afterPages, IsName n :=
    fun n => isName_of_mem_navNames (r.wellFormed_afterPages hs)
  rw [r.all_eq hl, others_of_names (FileStore.bytes_ne_nil_of_node hl) hnames (hnames n hn)]

/-- The navigation pass makes no entry. -/
private lemma entryAt_after (r : BuildRun source build config s after) (l : Location) :
    after.entryAt l = r.afterPages.entryAt l :=
  entryAt_of_filled r.filled l

/-- A page takes part in navigation in the end exactly if it was found before the pass. -/
lemma isNavigated_after_iff (r : BuildRun source build config s after) (n : Name) :
    IsNavigated build after n ↔ IsNavigated build r.afterPages n :=
  ⟨fun h => h.congr (fun p => (r.node_after p).symm) fun l => (r.entryAt_after l).symm,
    fun h => h.congr r.node_after r.entryAt_after⟩

/-- The navigation pass does not write to the template, by whatever path. -/
private lemma readContents_template (r : BuildRun source build config s after) {p : Path}
    (hp : after.sameFile p (templateOf build) = true) :
    after.readContents p = r.afterPages.readContents p := by
  rw [FileStore.sameFile_iff] at hp
  simp only [r.node_after] at hp
  obtain ⟨x, hx, hx'⟩ := hp
  rw [FileStore.readContents, FileStore.readContents, r.node_after, hx]
  cases x with
  | directory l => rfl
  | file id =>
    show Except.ok (after.contentsOf id) = .ok (r.afterPages.contentsOf id)
    rw [((keeps_template r.listed (fun _ hpage => hpage) hx' _ _).of_eq_ok r.filled
      ⟨rfl, fun _ => rfl⟩).1]

/-- What a reported list tells: which page it is in and how many links it has. -/
private lemma exists_navigated_of_event (r : BuildRun source build config s after) {page : Path}
    {count : Nat} (h : .navResolved page count ∈ r.events) :
    ∃ done ∈ r.navigated, done.outcome.rewritten = true ∧ page = done.path ∧
      count = done.outcome.links := by
  unfold events at h
  rcases List.mem_append.1 h with h | h
  · rcases List.mem_cons.1 h with h | h
    · simp at h
    · obtain ⟨b, -, hb⟩ := List.mem_flatMap.1 h
      simp [pageEvents] at hb
  · obtain ⟨done, hdone, hevent⟩ := List.mem_flatMap.1 h
    refine ⟨done, hdone, ?_⟩
    unfold NavigatedPage.events at hevent
    rcases List.mem_append.1 hevent with hevent | hevent
    · split at hevent
      · next hrewritten => exact ⟨hrewritten, by simpa using hevent⟩
      · simp at hevent
    · simp at hevent

/-- A warning is about a page that was built, or about another page of the navigation pass.

**Proof sketch.** The events are those of the copy, of the pages and of the navigation pass. A
warning among those of a page is one of its placeholders; one among those of a turn is only
reported if the page was not built. -/
lemma exists_of_warning (r : BuildRun source build config s after) {file origin : Path}
    {text : Text} (h : .unresolved file origin text ∈ r.events) :
    (∃ page ∈ r.built, origin = page.source ∧ (file = templateOf build ∨ file = page.source) ∧
      ∃ p ∈ page.unresolved, text = p.text) ∨
    ∃ done ∈ r.navigated, done.isGenerated = false ∧ file = done.path ∧ origin = done.path := by
  unfold events at h
  rcases List.mem_append.1 h with h | h
  · rcases List.mem_cons.1 h with h | h
    · simp at h
    · obtain ⟨page, hpage, hevent⟩ := List.mem_flatMap.1 h
      rcases List.mem_cons.1 hevent with hevent | hevent
      · simp at hevent
      · obtain ⟨p, hp, heq⟩ := List.mem_map.1 hevent
        obtain ⟨rfl, rfl, rfl⟩ := BuildEvent.unresolved.inj heq
        refine Or.inl ⟨page, hpage, rfl, ?_, p, hp, rfl⟩
        cases p.origin
        · exact Or.inl rfl
        · exact Or.inr rfl
  · obtain ⟨done, hdone, hevent⟩ := List.mem_flatMap.1 h
    rcases List.mem_append.1 hevent with hevent | hevent
    · split at hevent <;> simp at hevent
    · obtain ⟨t, ht, heq⟩ := List.mem_map.1 hevent
      obtain ⟨rfl, rfl, rfl⟩ := BuildEvent.unresolved.inj heq
      refine Or.inr ⟨done, hdone, ?_, rfl, rfl⟩
      unfold NavigatedPage.warnings at ht
      split at ht
      · simp at ht
      · next hgenerated => simpa using hgenerated

end BuildRun

namespace Build

/-- At the turn of the page of a name in the navigation pass of a run, a list is put into it that
links to the pages of some names, in their order, and to no others. The target of a link is the
name as it is shown, which is the name itself if that is a text (`Name.text_encode`). -/
def Inserted {source build : Path} {config : Config} {s after : FileStore}
    (r : BuildRun source build config s after) (n : Name) (targets : List Name) : Prop :=
  ∃ done s₁ s₂ t links,
    Turn (fillIn config.nav.includeSelf (r.built.map BuiltPage.output) r.all) r.all r.afterPages
      after (NavPage.of build (build.child n)) done s₁ s₂ ∧
    s₁.readText (build.child n) = .ok t ∧ Navigation.hasPlace t = true ∧
    Navigation.links s₁ (targets.map fun m => NavPage.of build (build.child m)) = .ok links ∧
    links.map NavLink.href = targets.map Name.text ∧
    s₂.readText (build.child n) =
      .ok ((Navigation.resolver (some (Navigation.render links))).resolve t).text

/-- The navigation pass of a run is complete and in order: it goes through some names of the build
directory, and every list that it puts into a page links to all of them. -/
structure IsComplete {source build : Path} {config : Config} {s after : FileStore}
    (r : BuildRun source build config s after) (names : List Name) : Prop where
  /-- The names are in the order of their bytes, each once. -/
  ordered : names.Pairwise (· < ·)
  /-- They are the names of the HTML files other than the template. -/
  mem_iff : ∀ n, n ∈ names ↔ IsNavigated build after n
  /-- The pass goes through their pages in this order. -/
  visited : r.all.map NavPage.path = names.map build.child
  /-- Links to a page have its file name as their target exactly if the name is a text. -/
  hrefs : ∀ n ∈ names,
    Utf8.encode (NavPage.of build (build.child n)).href = n ↔ ∃ t, n = Utf8.encode t
  /-- The pages of the Markdown files are among them. -/
  outputs : ∀ page ∈ r.built, ∃ n ∈ names, page.output = build.child n
  /-- A reported list links to all names, in their order, but to the page itself only if that is
  asked for. Their number is the one that is reported. -/
  lists : ∀ page count, .navResolved page count ∈ r.events → ∃ n ∈ names, page = build.child n ∧
    ∃ targets, targets = names.filter (fun m => config.nav.includeSelf || m != n) ∧
      count = targets.length ∧ Inserted r n targets
  /-- No path to the template is written to. -/
  template : ∀ p, after.sameFile p (templateOf build) = true →
    after.readContents p = r.afterPages.readContents p

/-- A build directory with a page, a template and a hard link to the template, each of which is
nothing but the place for the list. -/
def linkedTemplate : FileStore :=
  let list := Contents.text (Placeholder.written Navigation.placeholderName)
  (((({} : FileStore).setEntry ["s".toList] .directory).setEntry ["b".toList] .directory).newFile
    ["a.html".toList, "b".toList] list).newFile ["template.html".toList, "b".toList] list
    |>.setEntry ["t.html".toList, "b".toList] (.file ⟨1⟩)

/-- The build directory with a hard link is well-formed. -/
private lemma wellFormed_linkedTemplate : linkedTemplate.WellFormed := by
  have hmade : made [.makeDirectories ⟨"s".toList⟩, .makeDirectories ⟨"b".toList⟩,
      .write ⟨"b/a.html".toList⟩ (.text (Placeholder.written Navigation.placeholderName)),
      .write ⟨"b/template.html".toList⟩ (.text (Placeholder.written Navigation.placeholderName)),
      .name ⟨"b/t.html".toList⟩ ⟨"b/template.html".toList⟩] = linkedTemplate := by
    cbv
  rw [← hmade]
  exact wellFormed_made _

end Build

end StaticSite
