import Mathlib
import StaticSite.Proofs.FileStore.Growth

set_option relaxedAutoImplicit false
set_option autoImplicit false

/-!
# What the actions on a store do

Writing, making directories and copying, as far as a build uses them: which elementary step each
of them takes, and that a run which fails has taken such steps only.

## Main results

* `StaticSite.FileStore.write_cases`, `StaticSite.FileStore.addEntry_cases` — an action
  takes one step or fails and leaves the store as it was.
* `StaticSite.FileStore.write_spec` — after a file was written, its path leads to what was written.
* `StaticSite.FileStore.keeps_write`, `StaticSite.FileStore.keeps_createDirectories`,
  `StaticSite.FileStore.keeps_copyFile` — what the steps keep, every run keeps.
-/

namespace StaticSite.FileStore

open StaticSite.Path (Component IsName)
open StaticSite.Action (Keeps)

/-- An action that depends on what is looked up fails with it or goes on with what was found. -/
lemma look_bind {α β : Type} (f : FileStore → Except FileError α)
    (g : α → FileAction FileError β) (s : FileStore) :
    (look f >>= g) s = match f s with
      | .ok a => g a s
      | .error e => .error e s := by
  show EStateM.bind (look f) g s = _
  unfold EStateM.bind look
  cases h : f s <;> simp [h, bind, EStateM.bind, get, getThe, MonadStateOf.get, EStateM.get,
    pure, EStateM.pure, throw, throwThe, MonadExceptOf.throw, EStateM.throw]

/-- A free place has a name and lies in a directory. -/
lemma place_absent_spec {s : FileStore} {w : Bool} {p : Path} {m : Location}
    (h : s.place w p = .ok (.absent m)) :
    ∃ n d, m = n :: d ∧ IsName n ∧ s.entryAt d = some .directory ∧ s.entryAt m = none :=
  (place_eq_ok_iff.1 h).2.absent_spec (regular_steps p)

/-! ## Writing -/

/-- A file that a path leads to is written there. -/
private lemma place_true_of_node {s : FileStore} {p : Path} {id : FileId}
    (h : s.node p = .ok (.file id)) :
    ∃ l, s.place true p = .ok (.present l) ∧ s.entryAt l = some (.file id) := by
  obtain ⟨l, hl, he⟩ := node_eq_file_iff.1 h
  rw [place_eq_ok_iff] at hl
  exact ⟨l, place_eq_ok_iff.2 ⟨hl.1, hl.2.writing (by simp [he]) true⟩, he⟩

/-- The outcome of a write. -/
lemma write_run (p : Path) (c : Contents) (s : FileStore) :
    write p c s = match s.place true p with
      | .ok (.absent l) => .ok () (s.newFile l c)
      | .ok (.present l) =>
        match s.entryAt l with
        | some (.file id) => .ok () (s.setContents id c)
        | _ => .error .isADirectory s
      | .error e => .error e s := by
  unfold write resolveForWriting
  rw [look_bind]
  cases h : s.place true p with
  | error e => rfl
  | ok q =>
    cases q with
    | absent l => rfl
    | present l =>
      show (match s.entryAt l with
        | some (.file id) => modify fun s => s.setContents id c
        | _ => throw FileError.isADirectory : FileAction FileError Unit) s =
          match s.entryAt l with
          | some (.file id) => .ok () (s.setContents id c)
          | _ => .error .isADirectory s
      cases s.entryAt l with
      | none => rfl
      | some e => cases e <;> rfl

/-- **A write overwrites a file, makes one or fails.** A write that fails leaves the store as it
was.

**Proof sketch.** By cases on the place that the path has for writing: it is free, or there is a
file, or there is something that cannot be written. A place found for writing is found for reading
as well. -/
theorem write_cases (p : Path) (c : Contents) (s : FileStore) :
    (∃ id, s.node p = .ok (.file id) ∧ write p c s = .ok () (s.setContents id c)) ∨
    (∃ m, s.place true p = .ok (.absent m) ∧ write p c s = .ok () (s.newFile m c)) ∨
    ∃ e, write p c s = .error e s := by
  cases h : s.place true p with
  | error e => exact Or.inr (Or.inr ⟨e, by rw [write_run, h]⟩)
  | ok q =>
    cases q with
    | absent m => exact Or.inr (Or.inl ⟨m, rfl, by rw [write_run, h]⟩)
    | present l =>
      by_cases he : ∃ id, s.entryAt l = some (.file id)
      · obtain ⟨id, he⟩ := he
        refine Or.inl ⟨id, ?_, by simp only [write_run, h, he]⟩
        rw [place_eq_ok_iff] at h
        exact node_eq_file_iff.2 ⟨l, place_eq_ok_iff.2 ⟨h.1, h.2.reading⟩, he⟩
      · refine Or.inr (Or.inr ⟨.isADirectory, ?_⟩)
        cases he' : s.entryAt l with
        | none => simp only [write_run, h, he']
        | some e =>
          cases e with
          | file id => exact absurd ⟨id, he'⟩ he
          | directory => simp only [write_run, h, he']
          | link t => simp only [write_run, h, he']

/-- A write that fails changes nothing. -/
lemma eq_of_write_error {p : Path} {c : Contents} {s t : FileStore} {e : FileError}
    (h : write p c s = .error e t) : t = s := by
  rcases write_cases p c s with ⟨id, -, hw⟩ | ⟨m, -, hw⟩ | ⟨e', hw⟩ <;> rw [hw] at h
  · simp at h
  · simp at h
  · simpa [eq_comm] using (EStateM.Result.error.inj h).2

/-- A file that a path leads to is overwritten by a write to the path. -/
theorem write_of_node {s : FileStore} {p : Path} {id : FileId} (h : s.node p = .ok (.file id))
    (c : Contents) : write p c s = .ok () (s.setContents id c) := by
  obtain ⟨l, hl, he⟩ := place_true_of_node h
  rw [write_run, hl]
  simp only [he]

/-- The contents that a path leads to are those of its file. -/
lemma readContents_of_node {s : FileStore} {p : Path} {id : FileId}
    (h : s.node p = .ok (.file id)) : s.readContents p = .ok (s.contentsOf id) := by
  rw [readContents, h]

/-- A path that leads to the same with the same contents is read the same. -/
lemma readContents_congr {s t : FileStore} {p : Path} (hnode : t.node p = s.node p)
    (h : ∀ id, s.node p = .ok (.file id) → t.contentsOf id = s.contentsOf id) :
    t.readContents p = s.readContents p := by
  rw [readContents, readContents, hnode]
  cases hx : s.node p with
  | error e => rfl
  | ok x =>
    cases x with
    | directory l => rfl
    | file id => exact congrArg Except.ok (h id hx)

/-- A text is read from a file. -/
lemma node_of_readText {s : FileStore} {p : Path} {t : Text} (h : s.readText p = .ok t) :
    ∃ id, s.node p = .ok (.file id) ∧ s.contentsOf id = .text t := by
  unfold readText readContents at h
  cases hx : s.node p with
  | error e => simp [hx] at h
  | ok x =>
    cases x with
    | directory l => simp [hx] at h
    | file id =>
      simp only [hx] at h
      cases hc : s.contentsOf id with
      | text u =>
        obtain rfl : u = t := by simpa [hc] using h
        exact ⟨id, rfl, hc⟩
      | binary bytes hbytes => simp [hc] at h

/-- The text of a file is read by every path to it. -/
lemma readText_of_node {s : FileStore} {p : Path} {id : FileId} {t : Text}
    (h : s.node p = .ok (.file id)) (hc : s.contentsOf id = .text t) :
    s.readText p = .ok t := by
  rw [readText, readContents_of_node h, hc]

/-- Overwriting the file that a path leads to is a step. -/
lemma writes_setContents {s : FileStore} {p : Path} {id : FileId}
    (h : s.node p = .ok (.file id)) (c : Contents) : Writes s (s.setContents id c) := by
  obtain ⟨l, -, he⟩ := node_eq_file_iff.1 h
  exact .overwrite c he

/-- A successful write is a step. -/
lemma writes_of_write {p : Path} {c : Contents} {s t : FileStore}
    (h : write p c s = .ok () t) : Writes s t := by
  rcases write_cases p c s with ⟨id, hid, hw⟩ | ⟨m, hm, hw⟩ | ⟨e, hw⟩
  · obtain rfl : s.setContents id c = t := by simpa [hw] using h
    exact writes_setContents hid c
  · obtain rfl : s.newFile m c = t := by simpa [hw] using h
    obtain ⟨n, d, rfl, hn, hd, hfree⟩ := place_absent_spec hm
    exact .create c hn hd hfree
  · simp [hw] at h

/-- **What a write does**: its path leads to a file that holds what was written, every other file
holds what it did, and no entry is new but one for the file.

**Proof sketch.** A file that was there keeps its place and gets the contents. A file that is made
takes the free place, to which the path now leads, since what steps lead to they still lead to
after the store has grown (`Leads.mono`). -/
theorem exists_file_of_write {p : Path} {c : Contents} {s t : FileStore}
    (h : write p c s = .ok () t) :
    ∃ id, t.node p = .ok (.file id) ∧
      (∀ i, t.contentsOf i = if i = id then c else s.contentsOf i) ∧
      ∀ l e, t.entryAt l = some e → s.entryAt l = some e ∨ e = .file id := by
  have hgrows : Grows s t := .single (.write (writes_of_write h))
  rcases write_cases p c s with ⟨id, hid, hw⟩ | ⟨m, hm, hw⟩ | ⟨e, hw⟩
  · obtain rfl : s.setContents id c = t := by simpa [hw] using h
    refine ⟨id, hgrows.node hid, contentsOf_setContents s id c, fun l e he => Or.inl ?_⟩
    rwa [entryAt_setContents] at he
  · obtain rfl : s.newFile m c = t := by simpa [hw] using h
    obtain ⟨n, d, rfl, -, -, -⟩ := place_absent_spec hm
    have hnew : (s.newFile (n :: d) c).entryAt (n :: d) = some (.file s.freshId) := by
      rw [entryAt_newFile, if_pos rfl]
    refine ⟨s.freshId, ?_, contentsOf_newFile s _ c, fun l e he => ?_⟩
    · -- the place was free before, and is now taken by the file
      rw [place_eq_ok_iff] at hm
      refine node_eq_file_iff.2 ⟨n :: d, place_eq_ok_iff.2 ⟨hm.1, ?_⟩, hnew⟩
      refine (hm.2.mono hgrows.extends ?_).reading
      intro m' hm'
      obtain rfl : n :: d = m' := by simpa using hm'
      exact ⟨_, hnew, by simp⟩
    · rw [entryAt_newFile] at he
      split at he
      · exact Or.inr (by simpa using he.symm)
      · exact Or.inl he
  · simp [hw] at h

/-- **After a file was written**, its path leads to a file that holds what was written. Every
other file holds what it did. -/
theorem write_spec {p : Path} {c : Contents} {s t : FileStore} (h : write p c s = .ok () t) :
    ∃ id, t.node p = .ok (.file id) ∧
      (∀ i, t.contentsOf i = if i = id then c else s.contentsOf i) := by
  obtain ⟨id, hid, hc, -⟩ := exists_file_of_write h
  exact ⟨id, hid, hc⟩

/-! ## Making directories -/

/-- The free place of a name has a name and lies in a directory. -/
lemma resolveName_absent_spec {s : FileStore} {p : Path} {m : Location}
    (h : s.resolveName p = .ok (.absent m)) :
    ∃ n d, m = n :: d ∧ IsName n ∧ s.entryAt d = some .directory ∧ s.entryAt m = none := by
  unfold resolveName at h
  split at h
  · next n before hsteps =>
    have hn : IsName n := by
      refine Path.isName_of_mem_steps (p := p) ?_
      rw [← List.mem_reverse, hsteps]
      exact List.mem_cons_self
    split at h
    · simp at h
    · split at h
      · simp at h
      · simp at h
      · next l _ =>
        split_ifs at h with hl hlong he
        · simp at h
        obtain rfl : n :: l = m := by simpa using h
        refine ⟨n, l, rfl, hn, isDirectoryAt_iff.1 (by simpa using hl), ?_⟩
        simpa using he
  · exact place_absent_spec h

/-- **An entry is put into a free place**, or nothing is changed. -/
theorem addEntry_cases (p : Path) (e : Entry) (s : FileStore) :
    (∃ m, s.resolveName p = .ok (.absent m) ∧ addEntry p e s = .ok () (s.setEntry m e)) ∨
    ∃ error, addEntry p e s = .error error s := by
  unfold addEntry
  rw [look_bind]
  cases h : s.resolveName p with
  | error error => exact Or.inr ⟨error, rfl⟩
  | ok q =>
    cases q with
    | absent m => exact Or.inl ⟨m, rfl, rfl⟩
    | present l => exact Or.inr ⟨.exists, rfl⟩

/-- A directory is made in a free place, or nothing is changed. -/
lemma createDirectory_cases (p : Path) (s : FileStore) :
    (∃ m, s.resolveName p = .ok (.absent m) ∧
      createDirectory p s = .ok () (s.setEntry m .directory)) ∨
    ∃ e, createDirectory p s = .error e s :=
  addEntry_cases p .directory s

/-- A directory that can be made is made. -/
lemma createDirectories_of_ok {p : Path} (hp : p.bytes ≠ []) {s t : FileStore}
    (h : createDirectory p s = .ok () t) : createDirectories p s = .ok () t := by
  have hempty : p.bytes.isEmpty = false := by simpa using hp
  unfold createDirectories
  rw [hempty]
  show EStateM.tryCatch (createDirectory p) _ s = _
  simp only [EStateM.tryCatch, h]

/-- If a directory cannot be made for another reason than that it would lie in none, there must be
one already. -/
lemma createDirectories_of_error {p : Path} (hp : p.bytes ≠ []) {s : FileStore} {e : FileError}
    (h : createDirectory p s = .error e s) (he : e ≠ .notFound) :
    createDirectories p s = if s.isDirectory p then .ok () s else .error e s := by
  have hempty : p.bytes.isEmpty = false := by simpa using hp
  unfold createDirectories
  rw [hempty]
  show EStateM.tryCatch (createDirectory p) _ s = _
  simp only [EStateM.tryCatch, h]
  cases e with
  | notFound => exact absurd rfl he
  | _ =>
    show (if s.isDirectory p then pure () else throw _ : FileAction FileError Unit) s = _
    split <;> rfl

/-! ## What every run keeps -/

section Keeps

variable {I : FileStore → Prop}

/-- A write keeps what written files keep. -/
theorem keeps_write (hI : ∀ s t, Writes s t → I s → I t) (p : Path) (c : Contents) :
    Keeps I (write p c) := by
  intro s hs
  unfold Action.stateAfter
  cases h : write p c s with
  | ok a t => exact hI s t (writes_of_write h) hs
  | error e t =>
    rcases write_cases p c s with ⟨id, -, hw⟩ | ⟨m, -, hw⟩ | ⟨e', hw⟩ <;> rw [hw] at h
    · simp at h
    · simp at h
    · obtain ⟨-, rfl⟩ : e' = e ∧ s = t := by simpa using h
      exact hs

/-- Looking something up changes nothing. -/
private lemma keeps_look {α : Type} (f : FileStore → Except FileError α) : Keeps I (look f) := by
  refine Keeps.get_bind fun s hs => ?_
  unfold Action.stateAfter
  cases f s <;> exact hs

variable (hI : ∀ s t, Step s t → I s → I t)

include hI in
/-- Making a directory keeps what the steps keep. -/
private lemma keeps_createDirectory (p : Path) : Keeps I (createDirectory p) := by
  intro s hs
  unfold Action.stateAfter
  rcases createDirectory_cases p s with ⟨m, hm, hc⟩ | ⟨e, hc⟩
  · rw [hc]
    obtain ⟨n, d, rfl, hn, hd, hfree⟩ := resolveName_absent_spec hm
    exact hI s _ (.makeDirectory hn hd hfree) hs
  · rw [hc]
    exact hs

/-- Not minding a failure keeps everything. -/
private lemma keeps_ignore (p : Path) (e : FileError) :
    Keeps I (do if (← get).isDirectory p then pure () else throw e :
      FileAction FileError Unit) := by
  refine Keeps.get_bind fun s hs => ?_
  split <;> exact hs

/-- Making a directory unless there is one keeps what making it keeps. -/
private lemma keeps_ensureDirectory {p : Path} (h : Keeps I (createDirectory p)) :
    Keeps I (ensureDirectory p) :=
  h.tryCatch fun e => keeps_ignore p e

/-- Making a directory with those above it keeps what making each of them keeps. -/
private lemma keeps_createFirst {ps : List Path} (h : ∀ p ∈ ps, Keeps I (createDirectory p)) :
    Keeps I (createFirst ps) := by
  induction ps with
  | nil => exact Keeps.pure ()
  | cons p above ih =>
    rw [List.forall_mem_cons] at h
    refine h.1.tryCatch fun e => ?_
    cases e with
    | notFound => exact (ih h.2).bind fun _ => keeps_ensureDirectory h.1
    | _ => exact keeps_ignore p _

/-- Making directories keeps what making each of them keeps. -/
lemma keeps_createDirectories_of {p : Path}
    (h : ∀ q ∈ p :: p.ancestors, Keeps I (createDirectory q)) : Keeps I (createDirectories p) := by
  unfold createDirectories
  split
  · exact Keeps.pure ()
  · exact keeps_createFirst h

include hI in
/-- Making directories keeps what the steps keep. -/
theorem keeps_createDirectories (p : Path) : Keeps I (createDirectories p) :=
  keeps_createDirectories_of fun q _ => keeps_createDirectory hI q

/-- Copying a file keeps what writing its target keeps. -/
lemma keeps_copyFile_of {q : Path} (h : ∀ c, Keeps I (write q c)) (p : Path) :
    Keeps I (copyFile p q) :=
  (keeps_look _).bind h

include hI in
/-- Copying a file keeps what the steps keep. -/
theorem keeps_copyFile (p q : Path) : Keeps I (copyFile p q) :=
  keeps_copyFile_of (fun c => keeps_write (fun s t h => hI s t (.write h)) q c) p

end Keeps

end StaticSite.FileStore
