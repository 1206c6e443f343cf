import Mathlib
import StaticSite.Proofs.Build.NavigationPlace
import StaticSite.Proofs.FileStore.Item
import StaticSite.Proofs.Navigation.Pass
import StaticSite.Proofs.Navigation.Shelter

set_option relaxedAutoImplicit false
set_option autoImplicit false

/-!
# The titles that lists show

The title of a page is read whenever a list links to the page. A page that has its list already may
have another title than before: the list may have become a part of its title, or may hold an opening
tag of one. So it depends on the order of the pages which of the two titles a list shows.

Without links the pages are different files, and the navigation pass can be told from their texts
alone.

## Main definitions

* `StaticSite.Build.Holds` — a store while the lists are filled in.
* `StaticSite.Build.TitlesRead` — which titles the lists of a run show.

## Main results

* `StaticSite.Build.Holds.exists_fillIn_all` — the navigation pass in any order of the pages.
* `StaticSite.Build.titles_read` — titles are final exactly as far as the pages keep them.
-/

namespace StaticSite

open StaticSite.Action
open StaticSite.FileStore (SameDisk)
open StaticSite.Html (opensTitle)
open StaticSite.Navigation (hasPlace label linkTo shownLink withList pass KeepsLabel Sheltered)

namespace Build

/-! ## The texts of the pages -/

/-- Every page is a file of its own. -/
structure Apart (s : FileStore) (all : List NavPage) : Prop where
  /-- Every page is a file. -/
  file : ∀ q ∈ all, ∃ id, s.node q.path = .ok (.file id)
  /-- No file is two pages. -/
  distinct : ∀ p ∈ all, ∀ q ∈ all, ∀ id, s.node p.path = .ok (.file id) →
    s.node q.path = .ok (.file id) → p = q

/-- A store while the lists are filled in: the pages hold some texts, and nothing else has changed
since `s`. -/
structure Holds (s : FileStore) (all : List NavPage) (texts : NavPage → Text) (t : FileStore) :
    Prop where
  /-- The entries are the same. -/
  entries : t.entries = s.entries
  /-- Relative paths start from the same directory. -/
  workingDirectory : t.workingDirectory = s.workingDirectory
  /-- The pages hold the texts. -/
  page : ∀ q ∈ all, ∀ id, s.node q.path = .ok (.file id) → t.contentsOf id = .text (texts q)
  /-- Every other file holds what it did. -/
  other : ∀ id, (∀ q ∈ all, s.node q.path ≠ .ok (.file id)) → t.contentsOf id = s.contentsOf id

section Texts

variable {s t u : FileStore} {all : List NavPage} {τ τ' : NavPage → Text} {p q : NavPage}

/-- All paths lead where they did. -/
private lemma Holds.node (h : Holds s all τ t) (p : Path) : t.node p = s.node p :=
  FileStore.node_congr h.entries h.workingDirectory p

/-- The same is at every location. -/
private lemma Holds.entryAt (h : Holds s all τ t) (l : Location) : t.entryAt l = s.entryAt l := by
  cases l with
  | nil => rfl
  | cons n d => rw [FileStore.entryAt, FileStore.entryAt, h.entries]

/-- A page is read as its text. -/
private lemma Holds.readText (h : Holds s all τ t) (hs : Apart s all) (hq : q ∈ all) :
    t.readText q.path = .ok (τ q) := by
  obtain ⟨id, hid⟩ := hs.file q hq
  exact FileStore.readText_of_node ((h.node q.path).trans hid) (h.page q hq id hid)

/-- The links that are made are those of the texts. -/
private lemma Holds.links (h : Holds s all τ t) (hs : Apart s all) {others : List NavPage}
    (hothers : ∀ q ∈ others, q ∈ all) :
    Navigation.links t others = .ok (others.map (linkTo τ)) := by
  rw [Navigation.links_eq_ok_iff, List.forall₂_map_right_iff, List.forall₂_same]
  intro q hq
  obtain ⟨id, hid⟩ := hs.file q (hothers q hq)
  refine ⟨rfl, Navigation.readTitle_eq_ok_iff.2 ⟨.text (τ q), ?_, rfl⟩⟩
  rw [FileStore.readContents_of_node ((h.node q.path).trans hid), h.page q (hothers q hq) id hid]

/-- **The step**: the turn of a page succeeds and puts the list into its text.

**Proof sketch.** The page and those that it links to can be read, so the turn is not refused. It
writes the text with the list to the file of the page, which no other page has, so all others hold
what they did. -/
lemma Holds.exists_fillIn (h : Holds s all τ t) (hs : Apart s all) (hp : p ∈ all)
    (includeSelf : Bool) (generated : List Path) :
    ∃ done u, fillIn includeSelf generated all p t = .ok done u ∧
      Holds s all (Function.update τ p (withList includeSelf all τ p)) u := by
  obtain ⟨id, hid⟩ := hs.file p hp
  have hc := h.page p hp id hid
  have hothers : ∀ q ∈ NavPage.others all p includeSelf, q ∈ all :=
    fun q hq => List.mem_of_mem_filter hq
  obtain ⟨list, hlist, hfilled⟩ : ∃ list,
      Navigation.linksFor t (τ p) (NavPage.others all p includeSelf) = .ok list ∧
        (Navigation.filled list (τ p)).text = withList includeSelf all τ p := by
    cases hplace : hasPlace (τ p) with
    | false =>
      refine ⟨none, Navigation.linksFor_eq_ok_iff.2 (.inl ⟨hplace, rfl⟩), ?_⟩
      rw [Navigation.filled_none, Navigation.withList_of_no_place hplace]
    | true =>
      exact ⟨_, Navigation.linksFor_eq_ok_iff.2 (.inr ⟨hplace, _, rfl, h.links hs hothers⟩), rfl⟩
  have hrun := Navigation.resolve_of_node ((h.node p.path).trans hid) hc hlist
  refine ⟨_, _, fillIn_eq_ok_iff.2 ⟨_, hrun, rfl⟩, ?_⟩
  rw [hfilled]
  split
  · next hsame => rwa [hsame, Function.update_eq_self]
  · refine ⟨h.entries, h.workingDirectory, fun q hq i hi => ?_, fun i hi => ?_⟩
    · rw [FileStore.contentsOf_setContents]
      by_cases hqp : q = p
      · subst hqp
        rw [hid] at hi
        obtain rfl : id = i := by simpa using hi
        rw [if_pos rfl, Function.update_self]
      · have hne : i ≠ id := by
          rintro rfl
          exact hqp (hs.distinct q hq p hp i hi hid)
        rw [if_neg hne, Function.update_of_ne hqp, h.page q hq i hi]
    · have hne : i ≠ id := by
        rintro rfl
        exact hi p hp hid
      rw [FileStore.contentsOf_setContents, if_neg hne, h.other i hi]

/-- **The run**: the turns of pages in any order succeed, and put the lists into the texts one after
another. -/
theorem Holds.exists_fillIn_all (h : Holds s all τ t) (hs : Apart s all) {order : List NavPage}
    (horder : ∀ p ∈ order, p ∈ all) (includeSelf : Bool) (generated : List Path) :
    ∃ navigated u, order.mapM (fillIn includeSelf generated all) t = .ok navigated u ∧
      Holds s all (pass includeSelf all order τ) u := by
  induction order generalizing τ t with
  | nil => exact ⟨[], t, mapM_nil_eq_ok_iff.2 ⟨rfl, rfl⟩, h⟩
  | cons p order ih =>
    obtain ⟨done, u, hrun, hu⟩ :=
      h.exists_fillIn hs (horder p List.mem_cons_self) includeSelf generated
    obtain ⟨navigated, v, hrest, hv⟩ := ih hu fun q hq => horder q (List.mem_cons_of_mem _ hq)
    exact ⟨done :: navigated, v, mapM_cons_eq_ok_iff.2 ⟨done, u, navigated, hrun, hrest, rfl⟩, hv⟩

/-- Two such stores stand for one disk exactly if the pages hold the same texts.

**Proof sketch.** The entries are the same in both and only the files of pages may differ, so the
stores show the same exactly if the pages hold the same. -/
private lemma Holds.sameDisk_iff (ht : Holds s all τ t) (hu : Holds s all τ' u) (hs : Apart s all) :
    SameDisk t u ↔ ∀ q ∈ all, τ q = τ' q := by
  constructor
  · intro h q hq
    have hread : ∀ {τ : NavPage → Text} {t : FileStore}, Holds s all τ t →
        t.readContents q.path = .ok (.text (τ q)) := by
      intro τ t ht
      obtain ⟨id, hid⟩ := hs.file q hq
      rw [FileStore.readContents_of_node ((ht.node q.path).trans hid), ht.page q hq id hid]
    have hsame := (hread ht).symm.trans (h.readContents.1 (hread hu))
    simpa using hsame
  · intro h
    have hcontents : ∀ id, u.contentsOf id = t.contentsOf id := by
      intro id
      by_cases hid : ∃ q ∈ all, s.node q.path = .ok (.file id)
      · obtain ⟨q, hq, hnode⟩ := hid
        rw [ht.page q hq id hnode, hu.page q hq id hnode, h q hq]
      · simp only [not_exists, not_and] at hid
        rw [ht.other id hid, hu.other id hid]
    have hentry : ∀ l, u.entryAt l = t.entryAt l :=
      fun l => (hu.entryAt l).trans (ht.entryAt l).symm
    refine ⟨hu.workingDirectory.trans ht.workingDirectory.symm, fun l => ?_, fun l m => ?_⟩
    · rw [FileStore.itemAt, FileStore.itemAt, hentry]
      congr 1
      funext e
      cases e with
      | file id => rw [FileStore.itemOf, FileStore.itemOf, hcontents]
      | _ => rfl
    · simp only [FileStore.Shares, hentry]

end Texts

/-! ## The pages of a run -/

/-- The text of a page; a page that cannot be read is taken for an empty one. -/
def textIn (s : FileStore) (q : NavPage) : Text := (s.readText q.path).toOption.getD []

/-- The text of a page that can be read. -/
private lemma textIn_of_readText {s : FileStore} {q : NavPage} {t : Text}
    (h : s.readText q.path = .ok t) :
    textIn s q = t := by
  rw [textIn, h]
  rfl

end Build

open StaticSite.Build

namespace BuildRun

variable {source build : Path} {config : Config} {s after : FileStore}

/-- Without links, every page of the navigation pass is a file of its own. -/
private lemma apart (r : BuildRun source build config s after) (hs : s.LinkFree) :
    Apart r.afterPages r.all := by
  obtain ⟨l, hl⟩ := r.node_build
  refine ⟨fun q hq => ?_, fun p hp q hq id hpid hqid => ?_⟩
  · obtain ⟨n, rfl, hn⟩ := r.exists_name_of_mem_all hq
    obtain ⟨id, hid⟩ := FileStore.isFile_iff.1 hn.file
    exact ⟨id, by rw [← r.node_after]; exact hid⟩
  · obtain ⟨n, rfl, hn⟩ := r.exists_name_of_mem_all hp
    obtain ⟨m, rfl, hm⟩ := r.exists_name_of_mem_all hq
    rw [← r.node_after] at hpid hqid
    rw [r.eq_of_sameFile hs.wellFormed hl (hs.plainAt l) (r.isName_of_isNavigated hs.wellFormed hn)
      (r.isName_of_isNavigated hs.wellFormed hm) hm.file (FileStore.sameFile_iff.2 ⟨_, hpid, hqid⟩)]

/-- A page links to every other page. -/
private lemma mem_others (r : BuildRun source build config s after) (hs : s.WellFormed)
    {p q : NavPage} (hp : p ∈ r.all) (hq : q ∈ r.all) (hne : q ≠ p) (includeSelf : Bool) :
    q ∈ NavPage.others r.all p includeSelf := by
  obtain ⟨l, hl⟩ := r.node_build
  obtain ⟨n, rfl, hn⟩ := r.exists_name_of_mem_all hp
  obtain ⟨m, rfl, hm⟩ := r.exists_name_of_mem_all hq
  refine List.mem_filter.2 ⟨hq, ?_⟩
  have halike : (build.child m).alike (build.child n) = false := by
    rw [← Bool.not_eq_true, Path.alike_child_iff (FileStore.bytes_ne_nil_of_node hl)
      (r.isName_of_isNavigated hs hm) (r.isName_of_isNavigated hs hn)]
    rintro rfl
    exact hne rfl
  show (includeSelf || !(build.child m).alike (build.child n)) = true
  rw [halike, Bool.not_false, Bool.or_true]

/-- Every page of the navigation pass holds a text before it.

**Proof sketch.** The page is read as a text at its turn. Nothing is written to its file before,
since the other pages have other files, so it was this text when the pass began. -/
private lemma exists_text (r : BuildRun source build config s after) (hs : s.LinkFree) {q : NavPage}
    (hq : q ∈ r.all) : r.afterPages.readText q.path = .ok (textIn r.afterPages q) := by
  have hapart := r.apart hs
  obtain ⟨id, hid⟩ := hapart.file q hq
  -- the page is read at its turn, and nothing is written to it before
  obtain ⟨done, t, u, -, hturn⟩ := exists_turn r.filled hq
  have hstart : t.contentsOf id = r.afterPages.contentsOf id := by
    refine hturn.keeps_before (P := fun a => a.contentsOf id = r.afterPages.contentsOf id)
      (r.nodup_all hs.wellFormed) (fun p hp hne done a b h ha => ?_) rfl
    have hother : r.afterPages.node p.path ≠ .ok (.file id) :=
      fun hpid => hne (hapart.distinct p hp q hq id hpid hid)
    have hnode : ∀ p, a.node p = r.afterPages.node p :=
      fun p => (r.node_of_turn h p).trans (r.node_after p)
    exact ((keeps_other_file hother _ _ _).of_eq_ok h.run ⟨ha, hnode⟩).1
  obtain ⟨outcome, hresolve, -⟩ := fillIn_eq_ok_iff.1 hturn.run
  obtain ⟨e, he⟩ | ⟨i, text, list, hi, hc, -, -⟩ := Navigation.resolve_cases q.path
    (NavPage.others r.all q config.nav.includeSelf) t
  · simp [he] at hresolve
  · rw [r.node_of_turn hturn, r.node_after, hid] at hi
    obtain rfl : id = i := by simpa using hi
    have hread := FileStore.readText_of_node hid (hstart.symm.trans hc)
    rw [hread, textIn_of_readText hread]

/-- Before the navigation pass, the pages hold their texts. -/
private lemma holds_afterPages (r : BuildRun source build config s after) (hs : s.LinkFree) :
    Holds r.afterPages r.all (textIn r.afterPages) r.afterPages := by
  refine ⟨rfl, rfl, fun q hq id hid => ?_, fun _ _ => rfl⟩
  obtain ⟨i, hi, hc⟩ := FileStore.node_of_readText (r.exists_text hs hq)
  obtain rfl : id = i := by simpa [hid] using hi
  exact hc

/-- The navigation pass in any order of the pages. -/
private lemma exists_pass (r : BuildRun source build config s after) (hs : s.LinkFree)
    {order : List NavPage} (horder : ∀ p ∈ order, p ∈ r.all) :
    ∃ navigated t, order.mapM (fillIn config.nav.includeSelf (r.built.map BuiltPage.output) r.all)
        r.afterPages = .ok navigated t ∧
      Holds r.afterPages r.all (pass config.nav.includeSelf r.all order (textIn r.afterPages)) t :=
  (r.holds_afterPages hs).exists_fillIn_all (r.apart hs) horder _ _

/-- In the end, the pages hold what the pass makes of their texts. -/
private lemma holds_after (r : BuildRun source build config s after) (hs : s.LinkFree) :
    Holds r.afterPages r.all (pass config.nav.includeSelf r.all r.all (textIn r.afterPages))
      after := by
  obtain ⟨navigated, t, hrun, ht⟩ := r.exists_pass hs fun _ hp => hp
  have hsame := r.filled.symm.trans hrun
  obtain ⟨-, rfl⟩ : r.navigated = navigated ∧ after = t := by simpa using hsame
  exact ht

/-- The text that a page holds in the end. -/
private lemma textIn_after (r : BuildRun source build config s after) (hs : s.LinkFree)
    {q : NavPage} (hq : q ∈ r.all) :
    textIn after q = pass config.nav.includeSelf r.all r.all (textIn r.afterPages) q :=
  textIn_of_readText ((r.holds_after hs).readText (r.apart hs) hq)

/-- **The list in a page** is made from the last titles of the pages in front of it and the first
titles of all others. -/
theorem textIn_of_turn (r : BuildRun source build config s after) (hs : s.LinkFree)
    {front back : List NavPage} {p : NavPage} (hall : r.all = front ++ p :: back) :
    textIn after p = (Navigation.filled (some ((NavPage.others r.all p config.nav.includeSelf).map
      (shownLink front (textIn r.afterPages) (textIn after)))) (textIn r.afterPages p)).text := by
  have hturn : pass config.nav.includeSelf r.all (front ++ p :: back) (textIn r.afterPages) p = _ :=
    Navigation.pass_turn (hall ▸ r.nodup_all hs.wellFormed)
  rw [← hall] at hturn
  rw [r.textIn_after hs (by simp [hall]), hturn]
  congr 3
  refine List.map_congr_left fun q hq => ?_
  unfold shownLink linkTo
  split
  · rw [r.textIn_after hs (List.mem_of_mem_filter hq)]
  · rfl

/-- **The order of the pages** does not matter for the disk if it does not matter for the texts. -/
theorem sameDisk_iff_pass_eq (r : BuildRun source build config s after) (hs : s.LinkFree)
    {order : List NavPage} (hperm : order.Perm r.all) :
    (∀ navigated t, order.mapM (fillIn config.nav.includeSelf (r.built.map BuiltPage.output) r.all)
        r.afterPages = .ok navigated t → SameDisk after t) ↔
      pass config.nav.includeSelf r.all order (textIn r.afterPages) =
        pass config.nav.includeSelf r.all r.all (textIn r.afterPages) := by
  obtain ⟨navigated, t, hrun, ht⟩ := r.exists_pass hs fun p hp => hperm.mem_iff.1 hp
  have hdisk := (r.holds_after hs).sameDisk_iff ht (r.apart hs)
  constructor
  · intro h
    funext q
    by_cases hq : q ∈ r.all
    · exact (hdisk.1 (h navigated t hrun) q hq).symm
    · rw [Navigation.pass_of_notMem hq, Navigation.pass_of_notMem (hperm.mem_iff.not.2 hq)]
  · intro h navigated' t' hrun'
    obtain ⟨-, rfl⟩ : navigated = navigated' ∧ t = t' := by simpa using hrun.symm.trans hrun'
    exact hdisk.2 fun q _ => congrFun h.symm q

end BuildRun

namespace Build

/-! ## Which titles the lists show -/

/-- Which titles the lists of a run show. The texts of the pages are `textIn r.afterPages` before
the navigation pass and `textIn after` in the end. -/
structure TitlesRead {source build : Path} {config : Config} {s after : FileStore}
    (r : BuildRun source build config s after) : Prop where
  /-- Before the pass, every page is a text. -/
  first : ∀ q ∈ r.all, r.afterPages.readText q.path = .ok (textIn r.afterPages q)
  /-- In the end, every page is a text. -/
  last : ∀ q ∈ r.all, after.readText q.path = .ok (textIn after q)
  /-- The list in a page shows the last titles of the pages in front of it and the first titles of
  all others. -/
  lists : ∀ front p back, r.all = front ++ p :: back →
    textIn after p = (Navigation.filled (some ((NavPage.others r.all p config.nav.includeSelf).map
      (shownLink front (textIn r.afterPages) (textIn after)))) (textIn r.afterPages p)).text
  /-- So it shows what the pages are called in the end exactly if that is what the pages from this
  one on are called before. -/
  final_iff : ∀ front p back, r.all = front ++ p :: back →
    ((∀ q ∈ NavPage.others r.all p config.nav.includeSelf,
        label (shownLink front (textIn r.afterPages) (textIn after) q) =
          label (linkTo (textIn after) q)) ↔
      ∀ q ∈ NavPage.others r.all p config.nav.includeSelf, q ∉ front →
        label (linkTo (textIn r.afterPages) q) = label (linkTo (textIn after) q))
  /-- Two pages show the same for a third one, unless it has its turn between them and is called
  something else from then on. -/
  alike_iff : ∀ front p middle p' back, r.all = front ++ p :: middle ++ p' :: back → ∀ q,
    label (shownLink front (textIn r.afterPages) (textIn after) q) =
        label (shownLink (front ++ p :: middle) (textIn r.afterPages) (textIn after) q) ↔
      (q ∈ p :: middle → label (linkTo (textIn r.afterPages) q) = label (linkTo (textIn after) q))
  /-- In every order of the pages, all lists are filled in. -/
  anyOrder : ∀ order : List NavPage, order.Perm r.all → ∃ navigated t,
    order.mapM (fillIn config.nav.includeSelf (r.built.map BuiltPage.output) r.all) r.afterPages =
      .ok navigated t
  /-- This leaves the same disk in every order exactly if no list changes what its page is called.
  Two pages with a place for the list are needed to tell the orders apart. -/
  order_iff : (∀ order : List NavPage, order.Perm r.all → ∀ navigated t,
      order.mapM (fillIn config.nav.includeSelf (r.built.map BuiltPage.output) r.all) r.afterPages =
        .ok navigated t → SameDisk after t) ↔
    ∀ p ∈ r.all, ∀ q ∈ r.all, q ≠ p → hasPlace (textIn r.afterPages p) = true →
      hasPlace (textIn r.afterPages q) = true →
        KeepsLabel config.nav.includeSelf r.all (textIn r.afterPages) q
  /-- If no list changes what its page is called, then no page is ever called anything else. -/
  kept : (∀ q ∈ r.all, hasPlace (textIn r.afterPages q) = true →
      KeepsLabel config.nav.includeSelf r.all (textIn r.afterPages) q) →
    ∀ q ∈ r.all, label (linkTo (textIn after) q) = label (linkTo (textIn r.afterPages) q)
  /-- No list does so if no place for the list reaches into a title, and no page is called an
  opening tag of a title. -/
  sheltered : (∀ q ∈ r.all, opensTitle (label (linkTo (textIn r.afterPages) q)) = false) →
    ∀ q ∈ r.all, Sheltered (textIn r.afterPages q) →
      KeepsLabel config.nav.includeSelf r.all (textIn r.afterPages) q

/-- **The titles that the lists show**, for every successful build on a disk without links: they are
final exactly as far as the pages keep them.

**Proof sketch.** Without links, the pages are files of their own, so a turn changes the text of one
page and nothing else (`Holds.exists_fillIn`), and the pass can be told from the texts alone
(`BuildRun.exists_pass`). A page is changed at its turn only, which tells which titles are read
(`Navigation.pass_turn`). If the pages keep what they are called, every list is what it were if the
page came first (`Navigation.pass_eq_iff`). -/
theorem titles_read {source build : Path} {config : Config} {s after : FileStore}
    {summary : BuildSummary} {events : List BuildEvent} (hs : s.LinkFree)
    (h : buildSiteWith source build config ⟨s, []⟩ = .ok summary ⟨after, events⟩) :
    ∃ r : BuildRun source build config s after,
      summary = r.summary ∧ events = r.events ∧ TitlesRead r := by
  obtain ⟨r, rfl, hevents⟩ := buildSiteWith_eq_ok_iff.1 h
  rw [List.nil_append] at hevents
  subst hevents
  have hnodup := r.nodup_all hs.wellFormed
  refine ⟨r, rfl, rfl, {
    first := fun q hq => r.exists_text hs hq
    last := fun q hq => ?_
    lists := fun front p back hall => r.textIn_of_turn hs hall
    final_iff := fun front p back hall => forall₂_congr fun q _ => Navigation.label_shownLink_iff
    alike_iff := fun front p middle p' back hall q => ?_
    anyOrder := fun order hperm => ?_
    order_iff := ?_
    kept := fun hkeeps q hq => ?_
    sheltered := fun hlabels q hq h => Navigation.keepsLabel_of_sheltered hlabels h }⟩
  · rw [r.textIn_after hs hq]
    exact (r.holds_after hs).readText (r.apart hs) hq
  · rw [hall] at hnodup
    exact Navigation.label_shownLink_append_iff fun hq hmem =>
      (List.nodup_append.1 (List.nodup_append.1 hnodup).1).2.2 q hq q hmem rfl
  · obtain ⟨navigated, t, hrun, -⟩ := r.exists_pass hs fun p hp => hperm.mem_iff.1 hp
    exact ⟨navigated, t, hrun⟩
  · rw [← Navigation.pass_eq_iff hnodup fun p hp q hq hne => r.mem_others hs.wellFormed hp hq hne _]
    exact forall₂_congr fun order hperm => r.sameDisk_iff_pass_eq hs hperm
  · have hpass := Navigation.pass_of_keepsLabel hnodup fun _ _ q hq _ _ => hkeeps q hq
    rw [← Navigation.label_of_pass hpass hkeeps q, linkTo, linkTo, r.textIn_after hs hq]

/-! ## A title with a place for the list -/

/-- The text of a page with the place for the list in its title. -/
def titledText : Text :=
  "<title>".toList ++ Placeholder.written Navigation.placeholderName ++ "</title>".toList

/-- The text of a page with a link to a page of which the title is the place for the list. -/
def linkedPlace : Text :=
  "<ul><li><a href=\"b.html\">".toList ++ Placeholder.written Navigation.placeholderName ++
    "</a></li></ul>".toList

/-- A source directory with a page that is nothing but the place for the list, and one with this
place in its title. The build directory is empty. -/
def titledPlace : FileStore :=
  (((({} : FileStore).setEntry ["s".toList] .directory).setEntry ["b".toList] .directory).newFile
    ["a.html".toList, "s".toList] (.text (Placeholder.written Navigation.placeholderName))).newFile
    ["b.html".toList, "s".toList] (.text titledText)

/-- The two pages were copied. -/
def titledPlaceCopied : FileStore :=
  (titledPlace.newFile ["a.html".toList, "b".toList]
    (.text (Placeholder.written Navigation.placeholderName))).newFile
    ["b.html".toList, "b".toList] (.text titledText)

/-- The site after it was built. -/
def titledPlaceBuilt : FileStore :=
  (titledPlaceCopied.setContents ⟨2⟩ (.text linkedPlace)).setContents ⟨3⟩
    (.text "<title><ul><li><a href=\"a.html\">a.html</a></li></ul></title>".toList)

/-- The page that is nothing but the place for the list. -/
def placePage : NavPage := ⟨⟨"b/a.html".toList⟩, "a.html".toList⟩

/-- The page with the place for the list in its title. -/
def titlePage : NavPage := ⟨⟨"b/b.html".toList⟩, "b.html".toList⟩

/-- There are no links among the two pages. -/
private lemma linkFree_titledPlace : titledPlace.LinkFree := by
  have hmade : made [.makeDirectories ⟨"s".toList⟩, .makeDirectories ⟨"b".toList⟩,
      .write ⟨"s/a.html".toList⟩ (.text (Placeholder.written Navigation.placeholderName)),
      .write ⟨"s/b.html".toList⟩ (.text titledText)] = titledPlace := by
    cbv
  rw [← hmade]
  exact linkFree_made (by simp [Change.MakesNoLink])

/-- The turn of a page with a place for the list between two texts without placeholders. -/
private lemma exists_fillIn_between {s : FileStore} {all : List NavPage} {p : NavPage} {id : FileId}
    {u v : Text} {links : List NavLink} (hid : s.node p.path = .ok (.file id))
    (hc : s.contentsOf id = .text (u ++ Placeholder.written Navigation.placeholderName ++ v))
    (hu : Placeholder.first? u = none) (hopen : ¬Placeholder.opening <:+: u ++ ['{'])
    (hv : Placeholder.first? v = none)
    (hlinks : Navigation.links s (NavPage.others all p false) = .ok links) :
    ∃ done, fillIn false [] all p s =
      .ok done (s.setContents id (.text (u ++ Navigation.render links ++ v))) := by
  have hclosed := (Placeholder.isClosed_iff_of_none hu).2 hopen
  have hplace := Navigation.hasPlace_of_closed hclosed v
  have hrun := Navigation.resolve_of_node hid hc
    (Navigation.linksFor_eq_ok_iff.2 (.inr ⟨hplace, links, rfl, hlinks⟩))
  rw [if_neg (Navigation.filled_ne hplace links), Navigation.filled_of_closed hclosed,
    Navigation.filled, Navigation.filled, Resolver.resolve_of_none _ hu,
    Resolver.resolve_of_none _ hv] at hrun
  exact ⟨_, fillIn_eq_ok_iff.2 ⟨_, hrun, rfl⟩⟩

/-- The site is built, and its pages are what was copied before the lists are filled in. -/
private lemma exists_run_titledPlace :
    ∃ r : BuildRun ⟨"s".toList⟩ ⟨"b".toList⟩ {} titledPlace titledPlaceBuilt,
      r.all = [placePage, titlePage] ∧ r.afterPages = titledPlaceCopied := by
  obtain ⟨first, hfirst⟩ := @exists_fillIn_between titledPlaceCopied [placePage, titlePage]
    placePage ⟨2⟩ [] [] [⟨"b.html".toList, some (Placeholder.written Navigation.placeholderName)⟩]
    (by cbv) rfl rfl (by decide) rfl (by cbv)
  obtain ⟨second, hsecond⟩ := @exists_fillIn_between
    (titledPlaceCopied.setContents ⟨2⟩ (.text linkedPlace)) [placePage, titlePage] titlePage ⟨3⟩
    "<title>".toList "</title>".toList [⟨"a.html".toList, none⟩]
    (by cbv) rfl rfl (by decide) rfl (by cbv)
  exact ⟨{
    checked := by cbv
    copied := 2
    afterCopy := titledPlaceCopied
    copy := by cbv
    sources := []
    found := by cbv
    accepted := by cbv
    built := []
    afterPages := titledPlaceCopied
    paged := by cbv
    all := [placePage, titlePage]
    listed := by cbv
    navigated := [first, second]
    filled := mapM_cons_eq_ok_iff.2 ⟨_, _, _, hfirst, mapM_cons_eq_ok_iff.2
      ⟨_, _, _, hsecond, mapM_nil_eq_ok_iff.2 ⟨rfl, rfl⟩, rfl⟩, rfl⟩ }, rfl, rfl⟩

/-- The list in the first page shows the place for the list, but the second page is called otherwise
in the end. -/
theorem titles_read_titledPlace : titledPlace.LinkFree ∧
    ∃ r : BuildRun ⟨"s".toList⟩ ⟨"b".toList⟩ {} titledPlace titledPlaceBuilt, TitlesRead r ∧
      r.all = [placePage, titlePage] ∧
      label (linkTo (textIn r.afterPages) titlePage) =
        Placeholder.written Navigation.placeholderName ∧
      label (linkTo (textIn titledPlaceBuilt) titlePage) =
        "<ul><li><a href=\"a.html\">a.html</a></li></ul>".toList := by
  obtain ⟨run, hall, hpages⟩ := exists_run_titledPlace
  obtain ⟨r, -, -, hr⟩ :=
    titles_read linkFree_titledPlace (buildSiteWith_eq_ok_iff.2 ⟨run, rfl, rfl⟩)
  obtain rfl := Subsingleton.elim r run
  have hfirst : textIn titledPlaceCopied titlePage = titledText := by cbv
  have hlast : textIn titledPlaceBuilt titlePage =
      "<title><ul><li><a href=\"a.html\">a.html</a></li></ul></title>".toList := by
    cbv
  refine ⟨linkFree_titledPlace, r, hr, hall, ?_, ?_⟩
  · rw [hpages, linkTo, hfirst]
    decide
  · rw [linkTo, hlast]
    decide

end Build

end StaticSite
