import Mathlib
import StaticSite.Proofs.Build.CopyTree
import StaticSite.Proofs.Build.Navigation
import StaticSite.Proofs.Build.PagesUnderWay

set_option relaxedAutoImplicit false
set_option autoImplicit false

/-!
# The passes of a build over what was left

The passes after the copy find the same files and do the same to them if the build directory holds
more files than it needs to, as long as none of these is a Markdown or HTML file at its top.

## Main results

* `StaticSite.discover_overlay`, `StaticSite.Build.navPages_overlay` — the same files are found.
* `StaticSite.PagePass.overlay_run`, `StaticSite.Build.mirrored_fillIn` — the same pages are
  written.
-/

namespace StaticSite

open StaticSite.Action
open StaticSite.FileStore (Overlay)
open StaticSite.Path (IsName)

/-! ## Finding files -/

section Find

variable {old s t : FileStore} {directory : Path} {l : Location} (h : Overlay old s t)
  (hl : s.node directory = .ok (.directory l))

include h hl

/-- An entry that the upper store has is a file if it is one there. -/
private lemma isFile_child_overlay {n : Name} (hn : IsName n)
    (hknown : ∀ id, old.entryAt (n :: l) = some (.file id) → (s.entryAt (n :: l)).isSome = true) :
    t.isFile (directory.child n) = s.isFile (directory.child n) := by
  rw [Bool.eq_iff_iff, FileStore.isFile_child_iff (h.node_directory hl) hn h.whole,
    FileStore.isFile_child_iff hl hn h.upper]
  refine and_congr_right fun _ => ?_
  have hitem :
      (∃ c, t.itemAt (n :: l) = some (.file c)) ↔ ∃ c, s.itemAt (n :: l) = some (.file c) := by
    cases hs : s.entryAt (n :: l) with
    | some e => rw [h.itemAt_eq (by simp [hs])]
    | none =>
      rw [h.itemAt_eq_old hs, FileStore.itemAt_eq_none_iff.2 hs]
      constructor
      · rintro ⟨c, hc⟩
        obtain ⟨id, hid, -⟩ := FileStore.itemAt_eq_file_iff.1 hc
        exact absurd (hknown id hid) (by simp [hs])
      · rintro ⟨c, hc⟩
        simp at hc
  simpa [FileStore.itemAt_eq_file_iff] using hitem

/-- **The same files are found** if no others with the extension were left.

**Proof sketch.** Both directories are listed in the order of the names, so it is enough that the
same names are listed. A name that only the whole store has is a leftover, and no leftover is a
file with the extension; one that both have is a file in both or in neither. -/
theorem discover_overlay {extension : Name}
    (hknown : ∀ n id, old.entryAt (n :: l) = some (.file id) →
      (Path.mk n).hasExtension extension = true → (s.entryAt (n :: l)).isSome = true) :
    discover t directory extension = discover s directory extension := by
  have hdirectory := FileStore.bytes_ne_nil_of_node hl
  rw [discover_of_node hl, discover_of_node (h.node_directory hl)]
  congr 2
  apply Name.eq_of_mem_iff ((FileStore.pairwise_namesIn h.whole.wellFormed l).filter _)
    ((FileStore.pairwise_namesIn h.upper.wellFormed l).filter _)
  intro n
  simp only [List.mem_filter, Bool.and_eq_true, FileStore.mem_namesIn_iff]
  constructor
  · rintro ⟨hentry, hext, hfile⟩
    have hn : IsName n := h.whole.wellFormed.isName n l hentry
    rw [Path.hasExtension_child hdirectory hn] at hext ⊢
    rw [isFile_child_overlay h hl hn fun id hid => hknown n id hid hext] at hfile
    obtain ⟨-, id, he⟩ := (FileStore.isFile_child_iff hl hn h.upper).1 hfile
    exact ⟨by simp [he], hext, hfile⟩
  · rintro ⟨hentry, hext, hfile⟩
    refine ⟨?_, hext, h.isFile hfile⟩
    obtain ⟨e, he⟩ := Option.isSome_iff_exists.1 hentry
    obtain ⟨e', he', -⟩ := h.extends _ e he
    simp [he']

end Find

namespace Build

/-- The name of the template is one. -/
lemma isName_templateName : IsName templateName :=
  ⟨by decide, by decide, by decide, by decide⟩

section Build

variable {old s t : FileStore} {build : Path} {l : Location} (h : Overlay old s t)
  (hl : s.node build = .ok (.directory l))

include h hl

/-- The path of a file of the upper store leads to another entry exactly if it does so there. -/
private lemma sameFile_overlay {n m : Name} (hn : IsName n) (hm : IsName m)
    (hfile : s.isFile (build.child n) = true) :
    t.sameFile (build.child n) (build.child m) = s.sameFile (build.child n) (build.child m) := by
  rw [Bool.eq_iff_iff, FileStore.sameFile_child_iff (h.node_directory hl) hn h.whole hm
    (h.isFile hfile), FileStore.sameFile_child_iff hl hn h.upper hm hfile]

/-- **The same pages take part in navigation** if no other HTML files were left. -/
theorem navPages_overlay
    (hknown : ∀ n id, old.entryAt (n :: l) = some (.file id) →
      (Path.mk n).hasExtension Page.outputExtension = true → (s.entryAt (n :: l)).isSome = true) :
    navPages build t = navPages build s := by
  unfold navPages
  rw [discover_overlay h hl hknown]
  cases hfound : discover s build Page.outputExtension with
  | error e => rfl
  | ok found =>
    have hfilter : (found.filter fun p => !t.sameFile p (templateOf build)) =
        found.filter fun p => !s.sameFile p (templateOf build) := by
      apply List.filter_congr
      intro p hp
      obtain ⟨n, rfl, hentry, -, hfile⟩ := exists_name_of_discover hl hfound hp
      have hn := h.upper.wellFormed.isName n l hentry
      rw [templateOf, sameFile_overlay h hl hn isName_templateName hfile]
    simp only [Except.map, hfilter]

/-- Markdown files that can be built with the template can be so over what was left.

**Proof sketch.** The template is a file in both. An output that overwrites it over what was left
has its name, or leads to the same file, and without links that means the name as well. So the
output has the name of the template in the upper store too, where the check was passed. -/
theorem checkTemplate_overlay {sources : List Path}
    (hfound : discover s build Page.sourceExtension = .ok sources)
    (hcheck : checkTemplate (templateOf build) sources s = .ok ()) :
    checkTemplate (templateOf build) sources t = .ok () := by
  have hbuild := FileStore.bytes_ne_nil_of_node hl
  have hl' := h.node_directory hl
  unfold checkTemplate at hcheck ⊢
  split at hcheck
  · next hempty => rw [if_pos hempty]
  · next hempty =>
    split at hcheck
    · simp at hcheck
    · next hfile =>
      split at hcheck
      · simp at hcheck
      · next hnone =>
        have hfile' : t.isFile (templateOf build) = true := h.isFile (by simpa using hfile)
        have hnone' : sources.find? (overwrites t (templateOf build)) = none := by
          rw [List.find?_eq_none]
          intro p hp hover
          obtain ⟨n, rfl, hentry, hext, -⟩ := exists_name_of_discover hl hfound hp
          have hn := h.upper.wellFormed.isName n l hentry
          rw [Path.hasExtension_child hbuild hn] at hext
          have hnot := List.find?_eq_none.1 hnone _ hp
          have hout := Page.outputOf_child hbuild hn hext
          simp only [overwrites, Bool.or_eq_true, not_or, hout] at hnot hover
          rcases hover with halike | hsame
          · exact hnot.1 halike
          · rcases Page.outputName_spec hn hext with hdots | ⟨hname, -⟩
            · -- the directory above is not the template
              obtain ⟨id, hid⟩ := FileStore.isFile_iff.1 hfile'
              obtain ⟨x, hx, hx'⟩ := FileStore.sameFile_iff.1 hsame
              rw [hdots, Except.ok.inj (hx'.symm.trans hid)] at hx
              exact FileStore.node_child_parent h.whole.wellFormed hl' hx
            · have heq := (h.whole.plainAt l).eq_of_sameFile hl' hname isName_templateName
                hfile' hsame
              exact hnot.1 ((Path.alike_child_iff hbuild hname isName_templateName).2 heq)
        simp [hempty, hfile', hnone']

end Build

end Build

/-! ## Writing pages -/

namespace PagePass

variable {extensions : Markdown.Extensions} {template directory : Path} {l : Location}
  {old : FileStore} {x x' y : PagePass}

/-- **The step**: a page takes the same turn over what was left, unless it fails.

**Proof sketch.** By cases on the turn. What is read is read alike over what was left, and what is
written is written alike (`Overlay.mirrored_write`). Turns in which a page fails are excluded. -/
lemma exists_turn_overlay {n : Name} (hl : x.store.node directory = .ok (.directory l))
    (hn : IsName n) (hext : (Path.mk n).hasExtension Page.sourceExtension = true)
    (hturn : Turn extensions template x (directory.child n) x')
    (hnot : ∀ cause, x'.progress (directory.child n) ≠ .failed cause)
    (hkinds : x'.store.Compatible old) (h : Overlay old x.store y.store)
    (hprogress : y.progress = x.progress) :
    ∃ y', Turn extensions template y (directory.child n) y' ∧ Overlay old x'.store y'.store ∧
      y'.progress = x'.progress := by
  cases hturn with
  | opened hwaiting hread =>
    exact ⟨_, .opened (hprogress ▸ hwaiting) (h.readText hread), h, by simp only [hprogress]⟩
  | ready hopened hread =>
    exact ⟨_, .ready (hprogress ▸ hopened) (h.readText hread), h, by simp only [hprogress]⟩
  | written hready hwrite =>
    obtain ⟨hname, -, hout⟩ :=
      Page.outputOf_child_of_write h.upper.wellFormed hl hn hext hwrite
    rw [hout] at hwrite
    obtain ⟨t, hwrite', ht⟩ := Overlay.mirrored_write hl hname hwrite hkinds y.store h
    rw [← hout] at hwrite'
    exact ⟨_, .written (hprogress ▸ hready) hwrite', ht, by simp only [hprogress]⟩
  | finished hover => exact ⟨y, .finished (hprogress ▸ hover), h, hprogress⟩
  | unopened => exact absurd (Function.update_self ..) (hnot _)
  | unready => exact absurd (Function.update_self ..) (hnot _)
  | unwritten => exact absurd (Function.update_self ..) (hnot _)

/-- **The run**: pages are built as well over what was left, in the same order of their steps.

**Proof sketch.** By induction on the schedule, from any two page passes that have come as far.
Pages that have failed stay failed, so no step in between fails; and the files only grow, so what is
there after a step differs in kind from nothing that was left. -/
theorem overlay_run {schedule : List Path}
    (hschedule : ∀ p ∈ schedule, ∃ n, p = directory.child n ∧ IsName n ∧
      (Path.mk n).hasExtension Page.sourceExtension = true)
    (hl : x.store.node directory = .ok (.directory l))
    (hnot : ∀ p ∈ schedule, ∀ cause,
      (run extensions template schedule x).progress p ≠ .failed cause)
    (hkinds : (run extensions template schedule x).store.Compatible old)
    (h : Overlay old x.store y.store) (hprogress : y.progress = x.progress) :
    Overlay old (run extensions template schedule x).store
        (run extensions template schedule y).store ∧
      (run extensions template schedule y).progress =
        (run extensions template schedule x).progress := by
  induction schedule generalizing x y with
  | nil => exact ⟨h, hprogress⟩
  | cons p schedule ih =>
    obtain ⟨n, rfl, hn, hext⟩ := hschedule p List.mem_cons_self
    set x' := step extensions template x (directory.child n)
    have hturn : Turn extensions template x (directory.child n) x' :=
      turn_step x (directory.child n)
    have hrest : run extensions template (directory.child n :: schedule) x =
        run extensions template schedule x' := rfl
    rw [hrest] at hnot hkinds ⊢
    have hgrows := (rewrites_run extensions template schedule x').grows
    obtain ⟨y', hturn', h', hprogress'⟩ := exists_turn_overlay hl hn hext hturn
      (fun cause hfailed => hnot _ List.mem_cons_self cause (failed_run hfailed schedule))
      (hkinds.of_grows hgrows) h hprogress
    obtain rfl := hturn'.eq_step
    exact ih (fun q hq => hschedule q (List.mem_cons_of_mem _ hq)) (hturn.rewrites.grows.node hl)
      (fun q hq => hnot q (List.mem_cons_of_mem _ hq)) hkinds h' hprogress'

end PagePass

/-- The links to files of the upper store are the same. -/
private lemma Navigation.links_overlay {old s t : FileStore} (h : Overlay old s t)
    {pages : List NavPage} {list : List NavLink} (hlinks : Navigation.links s pages = .ok list) :
    Navigation.links t pages = .ok list := by
  rw [Navigation.links_eq_ok_iff] at hlinks ⊢
  refine hlinks.imp ?_
  rintro page link ⟨hhref, htitle⟩
  obtain ⟨c, hc, htitle⟩ := Navigation.readTitle_eq_ok_iff.1 htitle
  exact ⟨hhref, Navigation.readTitle_eq_ok_iff.2 ⟨c, h.readContents hc, htitle⟩⟩

/-- **A page that is filled in is filled in as well over what was left.**

**Proof sketch.** The page and the pages that it links to hold the same texts in both stores, so
the list is the same. If it changes the page, then in both stores the file of the page is
overwritten with the same text. -/
theorem Build.mirrored_fillIn {old s s' : FileStore} {includeSelf : Bool} {generated : List Path}
    {all : List NavPage} {page : NavPage} {done : NavigatedPage}
    (hrun : fillIn includeSelf generated all page s = .ok done s') :
    Mirrored (Overlay old) (fillIn includeSelf generated all page) s done s' := by
  intro t h
  obtain ⟨outcome, hresolve, rfl⟩ := fillIn_eq_ok_iff.1 hrun
  rcases Navigation.resolve_cases page.path (NavPage.others all page includeSelf) s with
    ⟨e, he⟩ | ⟨id, u, list, hid, hc, hlist, hrun'⟩
  · simp [he] at hresolve
  obtain ⟨rfl, rfl⟩ : Navigation.outcomeOf list u = outcome ∧ _ = s' := by
    simpa [hrun'] using hresolve
  obtain ⟨m, i, -, -, hi, hci⟩ := h.exists_file hid
  have hlist' : Navigation.linksFor t u (NavPage.others all page includeSelf) = .ok list := by
    unfold Navigation.linksFor at hlist ⊢
    split at hlist
    · next hplace =>
      rw [if_pos hplace]
      cases hlinks : Navigation.links s (NavPage.others all page includeSelf) with
      | error e => simp [hlinks, Except.map] at hlist
      | ok links =>
        rw [hlinks] at hlist
        rw [Navigation.links_overlay h hlinks, hlist]
    · next hplace => rw [if_neg hplace, hlist]
  have hresolve' := Navigation.resolve_of_node hi (hci.trans hc) hlist'
  split
  · next heq =>
    rw [if_pos heq] at hresolve'
    exact ⟨t, fillIn_eq_ok_iff.2 ⟨_, hresolve', rfl⟩, h⟩
  · next hne =>
    rw [if_neg hne] at hresolve'
    have hmirror : Mirrored (Overlay old)
        (FileStore.write page.path (.text (Navigation.filled list u).text)) s () _ :=
      Overlay.mirrored_overwrite hid _
    obtain ⟨t', ht', hrel⟩ := hmirror t h
    rw [FileStore.write_of_node hi] at ht'
    obtain rfl : t.setContents i _ = t' := by simpa using ht'
    exact ⟨_, fillIn_eq_ok_iff.2 ⟨_, hresolve', rfl⟩, hrel⟩

end StaticSite
