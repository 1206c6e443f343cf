import Mathlib
import StaticSite.Proofs.Navigation.Place
import StaticSite.Proofs.Placeholder.Replaced

set_option relaxedAutoImplicit false
set_option autoImplicit false

/-!
# What filling in a list comes to

Three tests tell of a place for the list: the scan before the links are made, the resolver that is
given a list or none, and the comparison of the two texts at the end. They agree on every text, so
what is reported about a page is what was done to it, and a page that cannot be done is left alone.

## Main definitions

* `StaticSite.Navigation.listValue` — what stands for a placeholder when a list is filled in.
* `StaticSite.Navigation.IsRefused` — the page, or one that it would link to, cannot be read.
* `StaticSite.Navigation.IsFilledIn` — what is left of a page that is not refused, and reported of
  it.

## Main results

* `StaticSite.Navigation.exists_links_iff` — links can be made if all pages can be read.
* `StaticSite.Navigation.resolve_refuses_or_fills` — a page is refused without a change, or filled
  in.
-/

namespace StaticSite.Navigation

open StaticSite.Placeholder (Replaced names scan written)

/-! ## When links can be made -/

/-- Whether the title of a page can be read does not depend on what the page holds. -/
private lemma exists_readTitle_iff {s : FileStore} {p : Path} :
    (∃ title, readTitle s p = .ok title) ↔ ∃ c, s.readContents p = .ok c := by
  simp only [readTitle_eq_ok_iff]
  constructor
  · rintro ⟨_, c, hc, -⟩
    exact ⟨c, hc⟩
  · rintro ⟨c, hc⟩
    exact ⟨_, c, hc, rfl⟩

/-- **Links to some pages can be made exactly if all of them can be read.** -/
theorem exists_links_iff {s : FileStore} {pages : List NavPage} :
    (∃ list, links s pages = .ok list) ↔ ∀ page ∈ pages, ∃ c, s.readContents page.path = .ok c := by
  simp only [links_eq_ok_iff]
  constructor
  · rintro ⟨list, hlist⟩ page hpage
    obtain ⟨i, hi, rfl⟩ := List.mem_iff_getElem.1 hpage
    obtain ⟨-, htitle⟩ := hlist.get hi (hlist.length_eq ▸ hi)
    exact exists_readTitle_iff.1 ⟨_, htitle⟩
  · intro h
    induction pages with
    | nil => exact ⟨[], .nil⟩
    | cons page pages ih =>
      obtain ⟨hpage, hpages⟩ := List.forall_mem_cons.1 h
      obtain ⟨title, htitle⟩ := exists_readTitle_iff.2 hpage
      obtain ⟨list, hlist⟩ := ih hpages
      exact ⟨⟨page.href, title⟩ :: list, .cons ⟨rfl, htitle⟩ hlist⟩

/-! ## The two ends of a turn -/

/-- What stands for a placeholder of a page: the list in a place for it. Every other placeholder is
kept as it is written. -/
def listValue (list : List NavLink) (name : Text) : Text :=
  if name = placeholderName then render list else written name

/-- A page cannot be done. -/
inductive IsRefused (s : FileStore) (target : Path) (others : List NavPage) : Prop where
  /-- The page is not a text that can be read. -/
  | target {cause : FileError} (h : s.readText target = .error cause)
  /-- The page has a place for the list, and a page that it would link to cannot be read. -/
  | link {t : Text} {page : NavPage} {cause : FileError} (read : s.readText target = .ok t)
      (place : placeholderName ∈ names t) (listed : page ∈ others)
      (h : s.readContents page.path = .error cause)

/-- A page with the text `t` is done: it is left with the text `u`, and an outcome is reported. -/
structure IsFilledIn (s : FileStore) (target : Path) (others : List NavPage) (t u : Text)
    (outcome : NavOutcome) (s' : FileStore) : Prop where
  /-- All places are replaced by the list of the other pages in their order, with the titles that
  they had before, and nothing else is changed. -/
  text : ∃ list : List NavLink, (placeholderName ∈ names t →
      List.Forall₂ (fun page link => link.href = page.href ∧ ∃ c,
        s.readContents page.path = .ok c ∧ link.title = Html.title? c.textWithReplacement)
        others list) ∧
    ∀ v, Replaced (listValue list) 0 t (scan t) v ↔ v = u
  /-- The page holds this text. -/
  written : s'.readText target = .ok u
  /-- Every entry is what it was. -/
  entries : ∀ l, s'.entryAt l = s.entryAt l
  /-- All paths lead where they did. -/
  paths : ∀ p, s'.node p = s.node p
  /-- Every other file holds what it did. -/
  kept : ∀ p, s.sameFile p target = false → s'.readContents p = s.readContents p
  /-- Without a place for the list, nothing is written. -/
  untouched : placeholderName ∉ names t → s' = s
  /-- The text is another one exactly if there was a place for the list. -/
  changed : u ≠ t ↔ placeholderName ∈ names t
  /-- This is reported. -/
  rewritten : outcome.rewritten = true ↔ placeholderName ∈ names t
  /-- The number of links is that of the pages, or zero without a list. -/
  count : outcome.links = if placeholderName ∈ names t then others.length else 0
  /-- All other placeholders are reported as they are written, in their order. -/
  unresolved : outcome.unresolved =
    ((names t).filter (· ≠ placeholderName)).map Placeholder.written

section Turn

variable {s : FileStore} {target : Path} {others : List NavPage} {t : Text}

/-- A page without a place for the list is left alone, whichever other pages there are. -/
lemma resolve_of_no_place (hread : s.readText target = .ok t) (hplace : hasPlace t = false) :
    resolve target others s = .ok (outcomeOf none t) s := by
  obtain ⟨id, hid, hc⟩ := FileStore.node_of_readText hread
  have hlist : linksFor s t others = .ok none := linksFor_eq_ok_iff.2 (Or.inl ⟨hplace, rfl⟩)
  rw [resolve_of_node hid hc hlist, if_pos (filled_none t)]

/-- A page with a text is refused only for the sake of its links. -/
lemma exists_linksFor (hread : s.readText target = .ok t) (h : ¬IsRefused s target others) :
    ∃ list, linksFor s t others = .ok list := by
  cases hplace : hasPlace t with
  | false => exact ⟨none, linksFor_eq_ok_iff.2 (Or.inl ⟨hplace, rfl⟩)⟩
  | true =>
    have hpages : ∀ page ∈ others, ∃ c, s.readContents page.path = .ok c := by
      intro page hpage
      cases hc : s.readContents page.path with
      | ok c => exact ⟨c, rfl⟩
      | error cause => exact absurd (.link hread (hasPlace_iff.1 hplace) hpage hc) h
    obtain ⟨list, hlist⟩ := exists_links_iff.2 hpages
    exact ⟨some list, linksFor_eq_ok_iff.2 (Or.inr ⟨hplace, list, rfl, hlist⟩)⟩

/-- The links of a page with a place for the list have been made. -/
private lemma exists_links_of_linksFor {list : Option (List NavLink)}
    (hlist : linksFor s t others = .ok list) (hname : placeholderName ∈ names t) :
    ∃ ls, list = some ls ∧ links s others = .ok ls := by
  obtain ⟨hno, -⟩ | ⟨-, hlinks⟩ := linksFor_eq_ok_iff.1 hlist
  · rw [hasPlace_iff.2 hname] at hno
    simp at hno
  · exact hlinks

/-- A page that is done was not to be refused. -/
private lemma not_isRefused_of_linksFor {list : Option (List NavLink)}
    (hread : s.readText target = .ok t) (hlist : linksFor s t others = .ok list) :
    ¬IsRefused s target others := by
  rintro (hrefused | ⟨hread', hplace, hlisted, hrefused⟩)
  · simp [hread] at hrefused
  · obtain rfl := Except.ok.inj (hread.symm.trans hread')
    obtain ⟨links, -, hlinks⟩ := exists_links_of_linksFor hlist hplace
    obtain ⟨c, hc⟩ := exists_links_iff.1 ⟨links, hlinks⟩ _ hlisted
    simp [hc] at hrefused

/-- The resolver puts in the list that was made. -/
private lemma replacement_of_linksFor {list : Option (List NavLink)}
    (hlist : linksFor s t others = .ok list) {name : Text} (hname : name ∈ names t) :
    (resolver (list.map render)).replacement (.placeholder name) =
      listValue (list.getD []) name := by
  unfold listValue
  split_ifs with heq
  · subst heq
    obtain ⟨links, rfl, -⟩ := exists_links_of_linksFor hlist hname
    exact replacement_placeholderName links
  · exact replacement_other _ heq

/-- What is left of a page with a text, and reported of it.

**Proof sketch.** The list is one of links that are read before anything is written, or there is no
place for one. The text is changed exactly if there is a place, and then the one file with it is
overwritten, so no entry changes, no path leads elsewhere, and only paths to this file read
something else. -/
lemma isFilledIn_of_node {id : FileId} {list : Option (List NavLink)}
    (hid : s.node target = .ok (.file id)) (hc : s.contentsOf id = .text t)
    (hlist : linksFor s t others = .ok list) :
    IsFilledIn s target others t (filled list t).text (outcomeOf list t)
      (if (filled list t).text = t then s
        else s.setContents id (.text (filled list t).text)) := by
  have hplace : hasPlace t = true ↔ placeholderName ∈ names t := hasPlace_iff
  have hchanged : (filled list t).text ≠ t ↔ placeholderName ∈ names t := by
    refine ⟨fun hne => hplace.1 (hasPlace_of_ne hlist hne).1, fun hname => ?_⟩
    obtain ⟨links, rfl, -⟩ := exists_links_of_linksFor hlist hname
    exact filled_ne (hplace.2 hname) links
  have hentry : ∀ l, (if (filled list t).text = t then s
      else s.setContents id (.text (filled list t).text)).entryAt l = s.entryAt l := by
    intro l
    split_ifs
    · rfl
    · exact FileStore.entryAt_setContents ..
  have hnode : ∀ p, (if (filled list t).text = t then s
      else s.setContents id (.text (filled list t).text)).node p = s.node p := by
    intro p
    split_ifs
    · rfl
    · exact FileStore.node_setContents ..
  have houtcome := outcomeOf_eq hlist
  refine ⟨⟨list.getD [], fun hname => ?_, fun v => ?_⟩, ?_, hentry, hnode, fun p hp => ?_,
    fun hname => ?_, hchanged, ?_, ?_, ?_⟩
  · obtain ⟨links, rfl, hlinks⟩ := exists_links_of_linksFor hlist hname
    simpa only [readTitle_eq_ok_iff, Option.getD_some] using links_eq_ok_iff.1 hlinks
  · exact Resolver.replaced_iff _ fun name hname => replacement_of_linksFor hlist hname
  · refine FileStore.readText_of_node ((hnode target).trans hid) ?_
    split_ifs with hsame
    · rw [hc, hsame]
    · rw [FileStore.contentsOf_setContents, if_pos rfl]
  · refine FileStore.readContents_congr (hnode p) fun i hi => ?_
    have hne : i ≠ id := by
      rintro rfl
      rw [FileStore.sameFile_iff.2 ⟨_, hi, hid⟩] at hp
      simp at hp
    split_ifs
    · rfl
    · rw [FileStore.contentsOf_setContents, if_neg hne]
  · rw [if_pos (not_not.1 (hchanged.not.2 hname))]
  · rw [houtcome, ← hplace]
  · rw [houtcome]
    exact if_congr hplace rfl rfl
  · rw [houtcome]

end Turn

/-- **A page is refused without a change, or it is filled in.** It is refused exactly if it is not a
text, or has a place for the list and a page that it would link to cannot be read. Otherwise no
other file is changed, and what is reported is what was done. Without a place for the list it does
not matter which other pages there are, and whether they can be read.

**Proof sketch.** The page is overwritten by its text with the list in it, or refused
(`resolve_cases`), and the list is there exactly if the page is not refused. Without a place no
other page is looked at, so all of them give the same (`resolve_of_no_place`). -/
theorem resolve_refuses_or_fills (target : Path) (others : List NavPage) (s : FileStore) :
    (IsRefused s target others → ∃ e, resolve target others s = .error e s) ∧
    (¬IsRefused s target others → ∃ t u outcome s', s.readText target = .ok t ∧
      resolve target others s = .ok outcome s' ∧ IsFilledIn s target others t u outcome s') ∧
    ∀ t, s.readText target = .ok t → placeholderName ∉ names t →
      ∀ others', resolve target others' s = resolve target others s := by
  refine ⟨fun hrefused => ?_, fun hrefused => ?_, fun t hread hname others' => ?_⟩
  · obtain hfailed | ⟨id, t, list, hid, hc, hlist, -⟩ := resolve_cases target others s
    · exact hfailed
    · exact absurd hrefused (not_isRefused_of_linksFor (FileStore.readText_of_node hid hc) hlist)
  · cases hread : s.readText target with
    | error cause => exact absurd (.target hread) hrefused
    | ok t =>
      obtain ⟨id, hid, hc⟩ := FileStore.node_of_readText hread
      obtain ⟨list, hlist⟩ := exists_linksFor hread hrefused
      exact ⟨t, _, _, _, rfl, resolve_of_node hid hc hlist, isFilledIn_of_node hid hc hlist⟩
  · have hplace : hasPlace t = false := by
      rw [← Bool.not_eq_true, hasPlace_iff]
      exact hname
    rw [resolve_of_no_place hread hplace, resolve_of_no_place hread hplace]

/-- A page with an unknown name and a place for the list, and a page with a title. -/
def titledNeighbour : FileStore :=
  ((({} : FileStore).setEntry ["b".toList] .directory).newFile ["a.html".toList, "b".toList]
    (.text "{{x}}{{NAV}}".toList)).newFile ["b.html".toList, "b".toList]
    (.text "<title>B</title>".toList)

/-- The page with the place is filled in, and refused if it is to link to a missing page as well.
For the other page the missing one does not matter. -/
theorem resolve_refuses_or_fills_titledNeighbour :
    (∃ u outcome s', resolve ⟨"b/a.html".toList⟩ [NavPage.of ⟨"b".toList⟩ ⟨"b/b.html".toList⟩]
        titledNeighbour = .ok outcome s' ∧
      IsFilledIn titledNeighbour ⟨"b/a.html".toList⟩ [NavPage.of ⟨"b".toList⟩ ⟨"b/b.html".toList⟩]
        "{{x}}{{NAV}}".toList u outcome s' ∧ outcome = ⟨1, true, ["{{x}}".toList]⟩) ∧
      (∃ e, resolve ⟨"b/a.html".toList⟩ [NavPage.of ⟨"b".toList⟩ ⟨"b/b.html".toList⟩,
        NavPage.of ⟨"b".toList⟩ ⟨"b/c.html".toList⟩] titledNeighbour = .error e titledNeighbour) ∧
      resolve ⟨"b/b.html".toList⟩ [NavPage.of ⟨"b".toList⟩ ⟨"b/c.html".toList⟩] titledNeighbour =
        resolve ⟨"b/b.html".toList⟩ [] titledNeighbour := by
  have hread : titledNeighbour.readText ⟨"b/a.html".toList⟩ = .ok "{{x}}{{NAV}}".toList := by cbv
  have hnames : names "{{x}}{{NAV}}".toList = [['x'], placeholderName] := by cbv
  have hplace : placeholderName ∈ names "{{x}}{{NAV}}".toList := hasPlace_iff.1 (by cbv)
  have hmissing : titledNeighbour.readContents ⟨"b/c.html".toList⟩ = .error .notFound := by cbv
  refine ⟨?_, ?_, ?_⟩
  · have hlist : linksFor titledNeighbour "{{x}}{{NAV}}".toList
        [NavPage.of ⟨"b".toList⟩ ⟨"b/b.html".toList⟩] =
          .ok (some [⟨"b.html".toList, some "B".toList⟩]) := by
      cbv
    obtain ⟨t, u, outcome, s', ht, hrun, hfilled⟩ := (resolve_refuses_or_fills
      ⟨"b/a.html".toList⟩ _ _).2.1 (not_isRefused_of_linksFor hread hlist)
    obtain rfl := Except.ok.inj (hread.symm.trans ht)
    refine ⟨u, outcome, s', hrun, hfilled, ?_⟩
    have hcount : outcome.links = 1 := hfilled.count.trans (if_pos hplace)
    have hunresolved : outcome.unresolved = ["{{x}}".toList] := by
      rw [hfilled.unresolved, hnames]
      decide
    rw [← hcount, ← hfilled.rewritten.2 hplace, ← hunresolved]
  · exact (resolve_refuses_or_fills ⟨"b/a.html".toList⟩ _ _).1
      (.link hread hplace (List.mem_cons_of_mem _ List.mem_cons_self) hmissing)
  · have hread' : titledNeighbour.readText ⟨"b/b.html".toList⟩ = .ok "<title>B</title>".toList := by
      cbv
    have hno : hasPlace "<title>B</title>".toList = false := by cbv
    rw [← Bool.not_eq_true, hasPlace_iff] at hno
    exact (resolve_refuses_or_fills ⟨"b/b.html".toList⟩ _ _).2.2 _ hread' hno _

end StaticSite.Navigation
