import Mathlib
import StaticSite.Navigation.Resolve
import StaticSite.Proofs.FileStore.Update

set_option relaxedAutoImplicit false
set_option autoImplicit false

/-!
# What the navigation pass does to a page

A page is read, and overwritten if the list changes it. Nothing else is written, so the pass
changes no path and makes no file.

## Main results

* `StaticSite.Navigation.resolve_cases` — a page is overwritten, left alone or refused.
* `StaticSite.Navigation.links_eq_ok_iff` — the links of a list, one for each page.
* `StaticSite.Navigation.hasPlace_of_ne` — only a text with a place for the list is changed.
-/

namespace StaticSite.Navigation

open StaticSite.Action
open StaticSite.Placeholder (Piece)

/-! ## A page's turn -/

/-- The text of a page with a list in the places for it. -/
def filled (list : Option (List NavLink)) (t : Text) : Resolved :=
  (resolver (list.map render)).resolve t

/-- What became of a page with a text that was given a list. -/
def outcomeOf (list : Option (List NavLink)) (t : Text) : NavOutcome :=
  ⟨(list.getD []).length, (filled list t).text != t, (filled list t).unresolved⟩

/-- A page that can be read is overwritten by its text with the list in it.

**Proof sketch.** The text and the links are at hand, so only the write is left. It is done if the
text changes, and then it overwrites the file that the page leads to. -/
lemma resolve_of_node {target : Path} {others : List NavPage} {s : FileStore} {id : FileId}
    {t : Text} {list : Option (List NavLink)} (hid : s.node target = .ok (.file id))
    (hc : s.contentsOf id = .text t) (hlinks : linksFor s t others = .ok list) :
    resolve target others s = .ok (outcomeOf list t)
      (if (filled list t).text = t then s
        else s.setContents id (.text (filled list t).text)) := by
  have hrun : resolve target others s = (do
      if (filled list t).text != t then
        EStateM.adaptExcept (.unwritable target)
          (FileStore.write target (.text (filled list t).text))
      return outcomeOf list t : FileAction NavError NavOutcome) s := by
    rw [resolve, get_bind_run, FileStore.readText_of_node hid hc]
    dsimp only
    rw [hlinks]
    rfl
  rw [hrun]
  by_cases h : (filled list t).text = t
  · simp only [h, bne_self_eq_false, if_true]
    rfl
  · have hne : ((filled list t).text != t) = true := by simpa using h
    rw [if_pos hne, if_neg h]
    exact bind_eq_ok_iff.2 ⟨(), _, adaptExcept_eq_ok_iff.2 (FileStore.write_of_node hid _), rfl⟩

/-- A page that is no text is refused. -/
lemma resolve_of_unreadable {target : Path} {s : FileStore} {cause : FileError}
    (h : s.readText target = .error cause) (others : List NavPage) :
    resolve target others s = .error (.unreadable target cause) s := by
  rw [resolve, get_bind_run, h]
  rfl

/-- **A page is overwritten by its text with the list in it**, or refused without a change.

**Proof sketch.** The page cannot be read, or the list cannot be made, and then nothing has been
written; or both succeed and the page is overwritten (`resolve_of_node`). -/
theorem resolve_cases (target : Path) (others : List NavPage) (s : FileStore) :
    (∃ e, resolve target others s = .error e s) ∨
    ∃ id t list, s.node target = .ok (.file id) ∧ s.contentsOf id = .text t ∧
      linksFor s t others = .ok list ∧
      resolve target others s = .ok (outcomeOf list t)
        (if (filled list t).text = t then s
          else s.setContents id (.text (filled list t).text)) := by
  cases hread : s.readText target with
  | error cause => exact Or.inl ⟨_, resolve_of_unreadable hread others⟩
  | ok t =>
    cases hlinks : linksFor s t others with
    | error e =>
      refine Or.inl ⟨e, ?_⟩
      rw [resolve, get_bind_run, hread]
      dsimp only
      rw [hlinks]
      rfl
    | ok list =>
      obtain ⟨id, hid, hc⟩ := FileStore.node_of_readText hread
      exact Or.inr ⟨id, t, list, hid, hc, hlinks, resolve_of_node hid hc hlinks⟩

/-- Filling in the navigation list of a page keeps what replacing its text by the one with the list
keeps. -/
lemma keeps_resolve_text {I : FileStore → Prop} {target : Path}
    (hI : ∀ s id t list, s.node target = .ok (.file id) → s.contentsOf id = .text t →
      (filled list t).text ≠ t → I s → I (s.setContents id (.text (filled list t).text)))
    (others : List NavPage) : Keeps I (resolve target others) := by
  intro s hs
  unfold stateAfter
  rcases resolve_cases target others s with ⟨e, h⟩ | ⟨id, t, list, hid, hc, -, h⟩
  · rw [h]
    exact hs
  · rw [h]
    dsimp only
    split_ifs with hsame
    · exact hs
    · exact hI s id t list hid hc hsame hs

/-- Filling in the navigation list of a page keeps what overwriting the page keeps. -/
lemma keeps_resolve {I : FileStore → Prop} {target : Path}
    (hI : ∀ s id c, s.node target = .ok (.file id) → I s → I (s.setContents id c))
    (others : List NavPage) : Keeps I (resolve target others) :=
  keeps_resolve_text (fun s id _ _ hid _ _ => hI s id _ hid) others

/-! ## Links -/

/-- The title of a page is that of its file. -/
lemma readTitle_eq_ok_iff {s : FileStore} {p : Path} {title : Option Text} :
    readTitle s p = .ok title ↔
      ∃ c, s.readContents p = .ok c ∧ title = Html.title? c.textWithReplacement := by
  unfold readTitle
  cases s.readContents p <;> simp [eq_comm]

/-- **A list has one link for each page**, in their order.

**Proof sketch.** By induction on the pages: a list is made exactly if the title of the first page
can be read and the list of the others can be made. -/
lemma links_eq_ok_iff {s : FileStore} {pages : List NavPage} {list : List NavLink} :
    links s pages = .ok list ↔
      List.Forall₂ (fun page link => link.href = page.href ∧ readTitle s page.path = .ok link.title)
        pages list := by
  induction pages generalizing list with
  | nil => simp [links, eq_comm]
  | cons page pages ih =>
    have hlinks : links s (page :: pages) = .ok list ↔
        ∃ title rest, readTitle s page.path = .ok title ∧ links s pages = .ok rest ∧
          list = ⟨page.href, title⟩ :: rest := by
      rw [links]
      cases readTitle s page.path with
      | error e => simp [bind, Except.bind]
      | ok title =>
        cases links s pages with
        | error e => simp [bind, Except.bind]
        | ok rest => simp [bind, Except.bind, pure, Except.pure, eq_comm]
    rw [hlinks]
    constructor
    · rintro ⟨title, rest, htitle, hrest, rfl⟩
      exact .cons ⟨rfl, htitle⟩ (ih.1 hrest)
    · rintro (_ | ⟨⟨hhref, htitle⟩, hrest⟩)
      exact ⟨_, _, htitle, ih.2 hrest, by rw [← hhref]⟩

/-- The links of a list lead to the pages, in their order. -/
lemma map_href_of_links {s : FileStore} {pages : List NavPage} {list : List NavLink}
    (h : links s pages = .ok list) : list.map NavLink.href = pages.map NavPage.href := by
  rw [links_eq_ok_iff] at h
  induction h with
  | nil => rfl
  | cons hlink _ ih => rw [List.map_cons, List.map_cons, ih, hlink.1]

/-- There is a list exactly for a text with a place for it. -/
lemma linksFor_eq_ok_iff {s : FileStore} {t : Text} {others : List NavPage}
    {list : Option (List NavLink)} : linksFor s t others = .ok list ↔
      (hasPlace t = false ∧ list = none) ∨
        (hasPlace t = true ∧ ∃ ls, list = some ls ∧ links s others = .ok ls) := by
  unfold linksFor
  cases hasPlace t <;> cases links s others <;> simp [Except.map, eq_comm]

/-! ## Texts without a place for the list -/

/-- A text is left as it is without a list. -/
lemma filled_none (t : Text) : (filled none t).text = t := by
  have h : (resolver none).replacement = Piece.source := by
    funext p
    cases p <;> rfl
  show (Placeholder.pieces t).flatMap (resolver none).replacement = t
  rw [h, Placeholder.source_pieces]

/-- Only a text with a place for the list is changed, and then all links of the list are there. -/
lemma hasPlace_of_ne {s : FileStore} {t : Text} {others : List NavPage}
    {list : Option (List NavLink)} (hlist : linksFor s t others = .ok list)
    (h : (filled list t).text ≠ t) :
    hasPlace t = true ∧ ∃ ls, list = some ls ∧ links s others = .ok ls := by
  obtain ⟨-, rfl⟩ | hplace := linksFor_eq_ok_iff.1 hlist
  · exact absurd (filled_none t) h
  · exact hplace

end StaticSite.Navigation
