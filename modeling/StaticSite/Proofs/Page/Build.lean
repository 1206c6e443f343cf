import Mathlib
import StaticSite.Proofs.FileStore.Child
import StaticSite.Proofs.Path.FileName

set_option relaxedAutoImplicit false
set_option autoImplicit false

/-!
# What building a page does

Building a page reads two texts and writes a third one. Whether it succeeds depends on these three
files only.

## Main results

* `StaticSite.Page.build_eq_ok_iff` — a page is built if both texts are read and it is written.
* `StaticSite.Page.build_child_spec` — the page of a Markdown file lies beside it.
-/

namespace StaticSite.Page

open StaticSite.Action
open StaticSite.FileStore (Writes)

/-- A text is read without a change. -/
private lemma read_eq_ok_iff {p : Path} {t : Text} {s s' : FileStore} :
    read p s = .ok t s' ↔ s.readText p = .ok t ∧ s = s' := by
  unfold read
  cases s.readText p <;> simp

/-- **A page is built** if its document and the template are read and it is written. -/
theorem build_eq_ok_iff {extensions : Markdown.Extensions} {template source : Path}
    {page : BuiltPage} {s t : FileStore} :
    build extensions template source s = .ok page t ↔
      ∃ document frame, s.readText source = .ok document ∧ s.readText template = .ok frame ∧
        FileStore.write (outputOf source) (.text (compose extensions frame document).text) s =
          .ok () t ∧
        page = ⟨source, outputOf source, (compose extensions frame document).unresolved⟩ := by
  unfold build write
  simp only [bind_eq_ok_iff, read_eq_ok_iff, adaptExcept_eq_ok_iff, pure_eq_ok_iff]
  constructor
  · rintro ⟨document, _, ⟨hd, rfl⟩, frame, _, ⟨hf, rfl⟩, _, _, hw, rfl, rfl⟩
    exact ⟨document, frame, hd, hf, hw, rfl⟩
  · rintro ⟨document, frame, hd, hf, hw, rfl⟩
    exact ⟨document, s, ⟨hd, rfl⟩, frame, s, ⟨hf, rfl⟩, (), t, hw, rfl, rfl⟩

/-- A text that cannot be read is the cause. -/
private lemma read_eq_error_iff {p : Path} {cause : PageError} {s s' : FileStore} :
    read p s = .error cause s' ↔
      ∃ e, s.readText p = .error e ∧ cause = .unreadable p e ∧ s = s' := by
  unfold read
  cases s.readText p <;> simp [eq_comm]

/-- A page is not built because its document or the template cannot be read, or because it cannot be
written.

**Proof sketch.** The reads change nothing, so both are made in the store at hand. The one that
fails is the cause, and otherwise it is the write. -/
lemma build_eq_error {extensions : Markdown.Extensions} {template source : Path} {cause : PageError}
    {s t : FileStore} (h : build extensions template source s = .error cause t) :
    (∃ e, (cause = .unreadable source e ∧ s.readText source = .error e) ∨
      (cause = .unreadable template e ∧ s.readText template = .error e)) ∨
    ∃ e, cause = .unwritable (outputOf source) e := by
  unfold build at h
  obtain hread | ⟨document, _, hread, h⟩ := bind_eq_error_iff.1 h
  · obtain ⟨e, he, rfl, -⟩ := read_eq_error_iff.1 hread
    exact Or.inl ⟨e, Or.inl ⟨rfl, he⟩⟩
  obtain ⟨-, rfl⟩ := read_eq_ok_iff.1 hread
  obtain hread | ⟨frame, _, hread, h⟩ := bind_eq_error_iff.1 h
  · obtain ⟨e, he, rfl, -⟩ := read_eq_error_iff.1 hread
    exact Or.inl ⟨e, Or.inr ⟨rfl, he⟩⟩
  obtain hwrite | ⟨_, _, -, h⟩ := bind_eq_error_iff.1 h
  · unfold write EStateM.adaptExcept at hwrite
    split at hwrite
    · next e r hrun =>
      obtain ⟨rfl, -⟩ := EStateM.Result.error.inj hwrite
      exact Or.inr ⟨e, rfl⟩
    · simp at hwrite
  · exact absurd h pure_ne_error

/-- A page that is a file lies beside its source, with a name of its own and the extension of
pages. -/
lemma outputOf_child_of_node {directory : Path} {l : Location} {n : Name} {id : FileId}
    {s : FileStore} (hs : s.WellFormed) (hl : s.node directory = .ok (.directory l))
    (hn : Path.IsName n) (hext : (Path.mk n).hasExtension Page.sourceExtension = true)
    (hid : s.node (outputOf (directory.child n)) = .ok (.file id)) :
    Path.IsName (outputName n) ∧ (Path.mk (outputName n)).hasExtension outputExtension = true ∧
      outputOf (directory.child n) = directory.child (outputName n) := by
  have hout := outputOf_child (FileStore.bytes_ne_nil_of_node hl) hn hext
  rcases outputName_spec hn hext with hdots | ⟨hname, hhtml⟩
  · -- the name of the directory above is no place for a page
    rw [hout, hdots] at hid
    exact absurd hid (FileStore.node_child_parent hs hl)
  · exact ⟨hname, hhtml, hout⟩

/-- A page that can be written lies beside its source, with a name of its own and the extension of
pages. -/
lemma outputOf_child_of_write {directory : Path} {l : Location} {n : Name} {c : Contents}
    {s t : FileStore} (hs : s.WellFormed) (hl : s.node directory = .ok (.directory l))
    (hn : Path.IsName n) (hext : (Path.mk n).hasExtension Page.sourceExtension = true)
    (hwrite : FileStore.write (outputOf (directory.child n)) c s = .ok () t) :
    Path.IsName (outputName n) ∧ (Path.mk (outputName n)).hasExtension outputExtension = true ∧
      outputOf (directory.child n) = directory.child (outputName n) := by
  obtain ⟨id, hid, -⟩ := FileStore.write_spec hwrite
  have hwrites := FileStore.writes_of_write hwrite
  exact outputOf_child_of_node (hwrites.wellFormed hs)
    (FileStore.Grows.node (.single (.write hwrites)) hl) hn hext hid

/-- **The page of a Markdown file lies beside it**, with a name of its own and the extension of
pages. -/
theorem build_child_spec {extensions : Markdown.Extensions} {template directory : Path}
    {l : Location} {n : Name} {page : BuiltPage} {s t : FileStore} (hs : s.WellFormed)
    (hl : s.node directory = .ok (.directory l)) (hn : Path.IsName n)
    (hext : (Path.mk n).hasExtension Page.sourceExtension = true)
    (h : build extensions template (directory.child n) s = .ok page t) :
    Path.IsName (outputName n) ∧ (Path.mk (outputName n)).hasExtension outputExtension = true ∧
      outputOf (directory.child n) = directory.child (outputName n) ∧
      ∃ document frame, s.readText (directory.child n) = .ok document ∧
        s.readText template = .ok frame ∧
        FileStore.write (directory.child (outputName n))
          (.text (compose extensions frame document).text) s = .ok () t ∧
        page = ⟨directory.child n, outputOf (directory.child n),
          (compose extensions frame document).unresolved⟩ := by
  obtain ⟨document, frame, hdocument, hframe, hwrite, hpage⟩ := build_eq_ok_iff.1 h
  obtain ⟨hname, hhtml, hout⟩ := outputOf_child_of_write hs hl hn hext hwrite
  rw [hout] at hwrite
  exact ⟨hname, hhtml, hout, document, frame, hdocument, hframe, hwrite, hpage⟩

section Keeps

variable {I : FileStore → Prop}

/-- Reading a text keeps everything. -/
private lemma keeps_read (p : Path) : Keeps I (read p) := by
  intro s hs
  unfold stateAfter read
  cases s.readText p <;> exact hs

/-- Building a page keeps what writing its output keeps. -/
lemma keeps_build_of {source : Path} (h : ∀ c, Keeps I (FileStore.write (outputOf source) c))
    (extensions : Markdown.Extensions) (template : Path) :
    Keeps I (build extensions template source) :=
  (keeps_read source).bind fun _ => (keeps_read template).bind fun _ =>
    ((h _).adaptExcept _).bind fun _ => Keeps.pure _

/-- Building a page keeps what written files keep. -/
lemma keeps_build (hI : ∀ s t, Writes s t → I s → I t) (extensions : Markdown.Extensions)
    (template source : Path) : Keeps I (build extensions template source) :=
  keeps_build_of (fun c => FileStore.keeps_write hI _ c) extensions template

end Keeps

end StaticSite.Page
