import Mathlib
import StaticSite.Proofs.Build.Failure
import StaticSite.Proofs.Navigation.Outcome

set_option relaxedAutoImplicit false
set_option autoImplicit false

/-!
# When lists can be filled in

The navigation pass reads a page in two ways. As a page that another one links to, any bytes will
do; as a page of its own turn it must be a text. All pages of the pass have their turn, so what it
takes to go through is that all of them are texts. That does not change on the way: a turn replaces
a text by a text.

## Main definitions

* `StaticSite.Build.SameTexts` — the same paths lead to texts in two stores.

## Main results

* `StaticSite.Navigation.resolve_of_isFile` — a page among files is refused only if it is no text.
* `StaticSite.Build.keeps_sameTexts` — a turn changes no text into something else.
* `StaticSite.Build.fillIn_pass_cases` — the pass goes through if all pages are texts, and otherwise
  it fails at the first one that is not.
* `StaticSite.Build.fillIn_pass_ok_iff` — it goes through exactly if all pages are texts.
-/

namespace StaticSite

open StaticSite.Action

/-- A file that is no text cannot be read as one, whatever it holds. -/
private lemma FileStore.readText_of_isFile {s : FileStore} {p : Path} (h : s.isFile p = true) :
    (∃ t, s.readText p = .ok t) ∨ s.readText p = .error .notText := by
  obtain ⟨id, hid⟩ := FileStore.isFile_iff.1 h
  cases hc : s.contentsOf id with
  | text t => exact Or.inl ⟨t, FileStore.readText_of_node hid hc⟩
  | binary bytes notText =>
    right
    rw [FileStore.readText, FileStore.readContents_of_node hid, hc]

/-- **A page among files is refused only if it is no text.** Those that it links to may hold any
bytes. -/
theorem Navigation.resolve_of_isFile {target : Path} {others : List NavPage} {s : FileStore}
    (htarget : s.isFile target = true) (hothers : ∀ page ∈ others, s.isFile page.path = true) :
    (∃ t outcome s', s.readText target = .ok t ∧ resolve target others s = .ok outcome s') ∨
      s.readText target = .error .notText ∧
        resolve target others s = .error (.unreadable target .notText) s := by
  obtain ⟨t, hread⟩ | hread := FileStore.readText_of_isFile htarget
  · obtain ⟨id, hid, hc⟩ := FileStore.node_of_readText hread
    have hready : ¬IsRefused s target others := by
      rintro (hrefused | ⟨-, -, hlisted, hrefused⟩)
      · simp [hread] at hrefused
      · obtain ⟨i, hi⟩ := FileStore.isFile_iff.1 (hothers _ hlisted)
        simp [FileStore.readContents_of_node hi] at hrefused
    obtain ⟨list, hlist⟩ := exists_linksFor hread hready
    exact Or.inl ⟨t, _, _, hread, resolve_of_node hid hc hlist⟩
  · exact Or.inr ⟨hread, resolve_of_unreadable hread others⟩

namespace Build

/-- The same paths lead to the same, and those that lead to texts are the same. -/
structure SameTexts (s t : FileStore) : Prop where
  /-- All paths lead where they did. -/
  node : ∀ p, t.node p = s.node p
  /-- A file is a text if it was one. -/
  text : ∀ id, (∃ u, t.contentsOf id = .text u) ↔ ∃ u, s.contentsOf id = .text u

/-- A store has the same texts as itself. -/
lemma SameTexts.refl (s : FileStore) : SameTexts s s := ⟨fun _ => rfl, fun _ => Iff.rfl⟩

/-- A path leads to a file if it did. -/
private lemma SameTexts.isFile {s t : FileStore} (h : SameTexts s t) {p : Path}
    (hp : s.isFile p = true) :
    t.isFile p = true := by
  obtain ⟨id, hid⟩ := FileStore.isFile_iff.1 hp
  exact FileStore.isFile_iff.2 ⟨id, (h.node p).trans hid⟩

/-- A path leads to a text if it did. -/
private lemma SameTexts.readText_iff {s t : FileStore} (h : SameTexts s t) {p : Path} :
    (∃ u, t.readText p = .ok u) ↔ ∃ u, s.readText p = .ok u := by
  constructor
  · rintro ⟨u, hu⟩
    obtain ⟨id, hid, hc⟩ := FileStore.node_of_readText hu
    obtain ⟨v, hv⟩ := (h.text id).1 ⟨u, hc⟩
    exact ⟨v, FileStore.readText_of_node ((h.node p).symm.trans hid) hv⟩
  · rintro ⟨u, hu⟩
    obtain ⟨id, hid, hc⟩ := FileStore.node_of_readText hu
    obtain ⟨v, hv⟩ := (h.text id).2 ⟨u, hc⟩
    exact ⟨v, FileStore.readText_of_node ((h.node p).trans hid) hv⟩

section Pass

variable (includeSelf : Bool) (generated : List Path)

/-- **The step**: a turn changes no text into something else, and nothing else into a text. -/
theorem keeps_sameTexts (s : FileStore) (all : List NavPage) (page : NavPage) :
    Keeps (SameTexts s) (fillIn includeSelf generated all page) := by
  refine keeps_fillIn_text (fun r id t list hid hc _ hr => ⟨fun p => ?_, fun i => ?_⟩) _ _ _
  · rw [FileStore.node_setContents, hr.node p]
  · rw [← hr.text i, FileStore.contentsOf_setContents]
    by_cases hi : i = id
    · simp [hi, hc]
    · rw [if_neg hi]

variable {s : FileStore} {all : List NavPage} (hfiles : ∀ page ∈ all, s.isFile page.path = true)

include hfiles

/-- A turn goes through, or the page is no text.

**Proof sketch.** All pages are files, and only the page of the turn has to be a text: those that
it links to are read with what is no text replaced. -/
lemma fillIn_cases {r : FileStore} (hr : SameTexts s r) {page : NavPage} (hpage : page ∈ all) :
    (∃ t done r', s.readText page.path = .ok t ∧
      fillIn includeSelf generated all page r = .ok done r') ∨
    s.readText page.path = .error .notText ∧
      fillIn includeSelf generated all page r = .error (.unreadable page.path .notText) r := by
  have hothers : ∀ other ∈ NavPage.others all page includeSelf, r.isFile other.path = true :=
    fun other hother => hr.isFile (hfiles other (List.mem_of_mem_filter hother))
  obtain ⟨t, outcome, r', hread, hrun⟩ | ⟨hread, hrun⟩ :=
    Navigation.resolve_of_isFile (hr.isFile (hfiles page hpage)) hothers
  · obtain ⟨u, hu⟩ := hr.readText_iff.1 ⟨t, hread⟩
    exact Or.inl ⟨u, _, r', hu, fillIn_eq_ok_iff.2 ⟨outcome, hrun, rfl⟩⟩
  · right
    constructor
    · obtain ⟨u, hu⟩ | hnot := FileStore.readText_of_isFile (hfiles page hpage)
      · obtain ⟨v, hv⟩ := hr.readText_iff.2 ⟨u, hu⟩
        simp [hread] at hv
      · exact hnot
    · unfold fillIn
      exact bind_eq_error_iff.2 (Or.inl hrun)

/-- **The run**: the pages have their turns if all of them are texts, and otherwise all those in
front of the first one that is not.

**Proof sketch.** By induction on the pages that are left, from any store with the same texts. -/
theorem fillIn_pass_cases {pages : List NavPage} (hpages : ∀ page ∈ pages, page ∈ all)
    {r : FileStore} (hr : SameTexts s r) :
    ((∀ page ∈ pages, ∃ t, s.readText page.path = .ok t) ∧
      ∃ navigated t, pages.mapM (fillIn includeSelf generated all) r = .ok navigated t) ∨
    ∃ front page back navigated t, pages = front ++ page :: back ∧
      s.readText page.path = .error .notText ∧
      front.mapM (fillIn includeSelf generated all) r = .ok navigated t ∧
      fillIn includeSelf generated all page t = .error (.unreadable page.path .notText) t := by
  induction pages generalizing r with
  | nil => exact Or.inl ⟨by simp, [], r, mapM_nil_eq_ok_iff.2 ⟨rfl, rfl⟩⟩
  | cons page pages ih =>
    obtain ⟨hpage, hrest⟩ := List.forall_mem_cons.1 hpages
    obtain ⟨u, done, r', hread, hrun⟩ | ⟨hread, hrun⟩ :=
      fillIn_cases includeSelf generated hfiles hr hpage
    · have hr' : SameTexts s r' :=
        (keeps_sameTexts includeSelf generated s all page).of_eq_ok hrun hr
      obtain ⟨htexts, navigated, t, hpass⟩ |
        ⟨front, other, back, navigated, t, rfl, hnot, hpass, hfail⟩ := ih hrest hr'
      · exact Or.inl ⟨List.forall_mem_cons.2 ⟨⟨u, hread⟩, htexts⟩, done :: navigated, t,
          mapM_cons_eq_ok_iff.2 ⟨done, r', navigated, hrun, hpass, rfl⟩⟩
      · exact Or.inr ⟨page :: front, other, back, done :: navigated, t, rfl, hnot,
          mapM_cons_eq_ok_iff.2 ⟨done, r', navigated, hrun, hpass, rfl⟩, hfail⟩
    · exact Or.inr ⟨[], page, pages, [], r, rfl, hread, mapM_nil_eq_ok_iff.2 ⟨rfl, rfl⟩, hrun⟩

/-- The pass goes through exactly if all pages are texts. -/
lemma fillIn_pass_ok_iff :
    (∃ navigated t, all.mapM (fillIn includeSelf generated all) s = .ok navigated t) ↔
      ∀ page ∈ all, ∃ t, s.readText page.path = .ok t := by
  obtain ⟨htexts, hpass⟩ | ⟨front, page, back, navigated, t, rfl, hnot, hpass, hfail⟩ :=
    fillIn_pass_cases includeSelf generated hfiles (fun _ hpage => hpage) (SameTexts.refl s)
  · exact iff_of_true hpass htexts
  · refine iff_of_false ?_ fun htexts => ?_
    · rintro ⟨navigated', t', hok⟩
      have herror := mapM_eq_error_iff.2 ⟨front, page, back, navigated, t, rfl, hpass, hfail⟩
      simp [hok] at herror
    · obtain ⟨u, hu⟩ := htexts page (by simp)
      simp [hnot] at hu

end Pass

/-- The pages that take part in navigation are files. -/
lemma isFile_of_navPages {build : Path} {s : FileStore} {all : List NavPage}
    (h : navPages build s = .ok all) {page : NavPage} (hpage : page ∈ all) :
    s.isFile page.path = true := by
  unfold navPages discover at h
  cases hlist : s.list build with
  | error e => simp [hlist, Except.map] at h
  | ok names =>
    rw [hlist] at h
    rw [← Except.ok.inj h] at hpage
    obtain ⟨p, hp, rfl⟩ := List.mem_map.1 hpage
    have hfound := (List.mem_filter.1 (List.mem_filter.1 hp).1).2
    rw [Bool.and_eq_true] at hfound
    exact hfound.2

end Build

end StaticSite
