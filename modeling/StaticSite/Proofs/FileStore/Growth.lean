import Mathlib
import StaticSite.Proofs.Action
import StaticSite.Proofs.FileStore.Route
import StaticSite.Proofs.FileStore.WellFormed

set_option relaxedAutoImplicit false
set_option autoImplicit false

/-!
# Growth of file stores

A build removes nothing. Each of its actions on the files comes down to three elementary steps: a
file is overwritten, a file is made in a free place of a directory, or a directory is made there.
What these steps keep, every run of such actions keeps, successful or not.

## Main definitions

* `StaticSite.FileStore.Writes`, `StaticSite.FileStore.Step` — the elementary steps.
* `StaticSite.FileStore.Rewrites`, `StaticSite.FileStore.Grows` — any number of steps.

## Main results

* `StaticSite.FileStore.Grows.wellFormed`, `StaticSite.FileStore.Grows.entryAt`,
  `StaticSite.FileStore.Grows.node` — a store that grows stays well-formed, and what was there
  stays there.
* `StaticSite.FileStore.Grows.eq_of_new` — a new file is in one place only.
* `StaticSite.FileStore.Rewrites.node_of_old` — writing files gives an old file no new paths.
* `StaticSite.FileStore.Rewrites.sameFile_iff` — nor does it make two paths lead to one file.
-/

namespace StaticSite.FileStore

open StaticSite.Path (Component IsName)
open StaticSite.Action (Keeps stateAfter)

/-! ## Elementary steps -/

/-- A file is written. -/
inductive Writes (s : FileStore) : FileStore → Prop where
  /-- A file at hand is overwritten. -/
  | overwrite {l : Location} {id : FileId} (c : Contents) (h : s.entryAt l = some (.file id)) :
      Writes s (s.setContents id c)
  /-- A file is made in a free place of a directory. -/
  | create {n : Name} {d : Location} (c : Contents) (hn : IsName n)
      (hd : s.entryAt d = some .directory) (hfree : s.entryAt (n :: d) = none) :
      Writes s (s.newFile (n :: d) c)

/-- A file is written or a directory is made. -/
inductive Step (s : FileStore) : FileStore → Prop where
  /-- A file is written. -/
  | write {t : FileStore} (h : Writes s t) : Step s t
  /-- A directory is made in a free place of a directory. -/
  | makeDirectory {n : Name} {d : Location} (hn : IsName n)
      (hd : s.entryAt d = some .directory) (hfree : s.entryAt (n :: d) = none) :
      Step s (s.setEntry (n :: d) .directory)

/-- Files are written, any number of times. -/
def Rewrites : FileStore → FileStore → Prop := Relation.ReflTransGen Writes

/-- Files are written and directories are made, any number of times. -/
def Grows : FileStore → FileStore → Prop := Relation.ReflTransGen Step

/-- Writing files is growth. -/
lemma Rewrites.grows {s t : FileStore} (h : Rewrites s t) : Grows s t :=
  Relation.ReflTransGen.mono (fun _ _ => Step.write) _ _ h

/-- Growth can go on. -/
lemma Grows.trans {s t u : FileStore} (h : Grows s t) (h' : Grows t u) : Grows s u :=
  Relation.ReflTransGen.trans h h'

/-! ## What a step keeps -/

/-- The entries after a file was made. -/
lemma entryAt_newFile (s : FileStore) (n : Name) (d : Location) (c : Contents) (l : Location) :
    (s.newFile (n :: d) c).entryAt l =
      if l = n :: d then some (.file s.freshId) else s.entryAt l := by
  rw [newFile, entryAt_setContents, entryAt_setEntry]

/-- The contents after a file was made. -/
lemma contentsOf_newFile (s : FileStore) (l : Location) (c : Contents) (id : FileId) :
    (s.newFile l c).contentsOf id = if id = s.freshId then c else s.contentsOf id := by
  rw [newFile, contentsOf_setContents, contentsOf_setEntry]

/-- Writing keeps a store well-formed. -/
lemma Writes.wellFormed {s t : FileStore} (h : Writes s t) (hs : s.WellFormed) :
    t.WellFormed := by
  cases h with
  | overwrite c _ => exact hs.setContents _ c
  | create c hn hd hfree => exact hs.newFile hn hd hfree c

/-- A step keeps a store well-formed. -/
private lemma Step.wellFormed {s t : FileStore} (h : Step s t) (hs : s.WellFormed) :
    t.WellFormed := by
  cases h with
  | write h => exact h.wellFormed hs
  | makeDirectory hn hd hfree => exact hs.setEntry hn hd hfree (by simp)

/-- A step keeps every entry. -/
private lemma Step.entryAt {s t : FileStore} (h : Step s t) {l : Location} {e : Entry}
    (he : s.entryAt l = some e) : t.entryAt l = some e := by
  cases h with
  | write h =>
    cases h with
    | overwrite c _ => rw [entryAt_setContents, he]
    | create c _ _ hfree =>
      rw [entryAt_newFile, if_neg, he]
      rintro rfl
      rw [hfree] at he
      simp at he
  | makeDirectory _ _ hfree =>
    rw [entryAt_setEntry, if_neg, he]
    rintro rfl
    rw [hfree] at he
    simp at he

/-- A step leaves the working directory as it is. -/
private lemma Step.workingDirectory {s t : FileStore} (h : Step s t) :
    t.workingDirectory = s.workingDirectory := by
  cases h with
  | write h => cases h <;> rfl
  | makeDirectory => rfl

/-- The number of a new file does not go down. -/
private lemma Step.freshId_le {s t : FileStore} (h : Step s t) :
    s.freshId.number ≤ t.freshId.number := by
  cases h with
  | write h =>
    cases h with
    | overwrite c _ =>
      rw [freshId_setContents]
      exact le_max_left _ _
    | @create n d c _ _ _ =>
      show s.freshId.number ≤ (s.setContents s.freshId c).freshId.number
      rw [freshId_setContents]
      exact le_max_left _ _
  | makeDirectory => exact le_rfl

/-- An entry after a step was there before, or is a directory or a new file. -/
lemma Step.entryAt_or {s t : FileStore} (h : Step s t) {l : Location} {e : Entry}
    (he : t.entryAt l = some e) :
    s.entryAt l = some e ∨ s.entryAt l = none ∧ (e = .directory ∨ e = .file s.freshId) := by
  cases h with
  | write h =>
    cases h with
    | overwrite c _ =>
      rw [entryAt_setContents] at he
      exact Or.inl he
    | create c _ _ hfree =>
      rw [entryAt_newFile] at he
      split at he
      · next hl => exact Or.inr ⟨hl ▸ hfree, Or.inr (by simpa using he.symm)⟩
      · exact Or.inl he
  | makeDirectory _ _ hfree =>
    rw [entryAt_setEntry] at he
    split at he
    · next hl => exact Or.inr ⟨hl ▸ hfree, Or.inl (by simpa using he.symm)⟩
    · exact Or.inl he

/-! ## What growth keeps -/

/-- A store that grows stays well-formed. -/
theorem Grows.wellFormed {s t : FileStore} (h : Grows s t) (hs : s.WellFormed) :
    t.WellFormed := by
  induction h with
  | refl => exact hs
  | tail _ hstep ih => exact hstep.wellFormed ih

/-- A store that grows keeps every entry. -/
theorem Grows.entryAt {s t : FileStore} (h : Grows s t) {l : Location} {e : Entry}
    (he : s.entryAt l = some e) : t.entryAt l = some e := by
  induction h with
  | refl => exact he
  | tail _ hstep ih => exact hstep.entryAt ih

/-- A store that grows extends what it was. -/
lemma Grows.extends {s t : FileStore} (h : Grows s t) : s.Extends t :=
  fun _ e he => ⟨e, h.entryAt he, SameKind.refl e⟩

/-- Growth leaves the working directory as it is. -/
lemma Grows.workingDirectory {s t : FileStore} (h : Grows s t) :
    t.workingDirectory = s.workingDirectory := by
  induction h with
  | refl => rfl
  | tail _ hstep ih => rw [hstep.workingDirectory, ih]

/-- The number of a new file does not go down while the store grows. -/
private lemma Grows.freshId_le {s t : FileStore} (h : Grows s t) :
    s.freshId.number ≤ t.freshId.number := by
  induction h with
  | refl => exact le_rfl
  | tail _ hstep ih => exact ih.trans hstep.freshId_le

/-- An entry of a store that has grown was there before, or is a directory or a new file.

**Proof sketch.** By induction on the steps. What the last step made was not there before it, and
so not at the start either; and the numbers of new files go up. -/
lemma Grows.entryAt_or {s t : FileStore} (h : Grows s t) {l : Location} {e : Entry}
    (he : t.entryAt l = some e) :
    s.entryAt l = some e ∨ s.entryAt l = none ∧
      (e = .directory ∨ ∃ id, e = .file id ∧ s.freshId.number ≤ id.number) := by
  induction h with
  | refl => exact Or.inl he
  | tail h hstep ih =>
    rcases hstep.entryAt_or he with he | ⟨hnone, hnew⟩
    · exact ih he
    · have hold : s.entryAt l = none := by
        cases hs : s.entryAt l with
        | none => rfl
        | some e' => simp [Grows.entryAt h hs] at hnone
      rcases hnew with rfl | rfl
      · exact Or.inr ⟨hold, Or.inl rfl⟩
      · exact Or.inr ⟨hold, Or.inr ⟨_, rfl, Grows.freshId_le h⟩⟩

/-- A file that a step makes is in one place only.

**Proof sketch.** No entry is of the number to come (`WellFormed.entryAt_ne_freshId`), so an entry
of it is the one that the step has made. Only a file that is created is of this number, and it is
made in one place. -/
lemma Step.eq_of_new {s t : FileStore} (h : Step s t) (hs : s.WellFormed) {l m : Location}
    (hl : t.entryAt l = some (.file s.freshId)) (hm : t.entryAt m = some (.file s.freshId)) :
    l = m := by
  cases h with
  | write h =>
    cases h with
    | overwrite c _ =>
      rw [entryAt_setContents] at hl
      exact absurd hl (hs.entryAt_ne_freshId l)
    | create c _ _ _ =>
      rw [entryAt_newFile] at hl hm
      split at hl
      · next hl' =>
        split at hm
        · next hm' => rw [hl', hm']
        · exact absurd hm (hs.entryAt_ne_freshId m)
      · exact absurd hl (hs.entryAt_ne_freshId l)
  | makeDirectory _ _ _ =>
    rw [entryAt_setEntry] at hl
    split at hl
    · simp at hl
    · exact absurd hl (hs.entryAt_ne_freshId l)

/-- **A file that growth makes is in one place only.**

**Proof sketch.** By induction on the steps. The file is one that the last step made, which is in
one place only (`Step.eq_of_new`), or it was there before this step, and at the same places. -/
theorem Grows.eq_of_new {s t : FileStore} (h : Grows s t) (hs : s.WellFormed) {l m : Location}
    {id : FileId} (hid : s.freshId.number ≤ id.number) (hl : t.entryAt l = some (.file id))
    (hm : t.entryAt m = some (.file id)) : l = m := by
  induction h with
  | refl => exact absurd (hs.numbered l id hl) (not_lt.2 hid)
  | @tail t u h hstep ih =>
    have ht : t.WellFormed := Grows.wellFormed h hs
    by_cases hnew : id = t.freshId
    · subst hnew
      exact hstep.eq_of_new ht hl hm
    · -- a file that this step has not made was there before it
      have hold : ∀ k, u.entryAt k = some (.file id) → t.entryAt k = some (.file id) := by
        intro k hk
        rcases hstep.entryAt_or hk with hk | ⟨-, hk | hk⟩
        · exact hk
        · simp at hk
        · exact absurd (by simpa using hk) hnew
      exact ih (hold l hl) (hold m hm)

/-! ## What paths lead to -/

/-- A path leads to where its steps lead. -/
lemma place_eq_ok_iff {s : FileStore} {w : Bool} {p : Path} {q : Place} :
    s.place w p = .ok q ↔
      badPath? p = none ∧ Leads s w linkLimit s.workingDirectory p.steps q := by
  unfold place
  cases h : badPath? p with
  | some e => simp
  | none => simp [follow_eq_ok_iff]

/-- A path leads to a directory if it leads to a location with one. -/
lemma node_eq_directory_iff {s : FileStore} {p : Path} {l : Location} :
    s.node p = .ok (.directory l) ↔
      s.place false p = .ok (.present l) ∧ s.entryAt l = some .directory := by
  unfold node resolve
  cases h : s.place false p with
  | error e => simp
  | ok q =>
    cases q with
    | absent m => simp
    | present m =>
      by_cases hml : m = l
      · subst hml
        cases he : s.entryAt m with
        | none => simp [he]
        | some e => cases e <;> simp [he]
      · cases he : s.entryAt m with
        | none => simp [he, hml]
        | some e => cases e <;> simp [he, hml]

/-- A path leads to a file if it leads to a location with it. -/
lemma node_eq_file_iff {s : FileStore} {p : Path} {id : FileId} :
    s.node p = .ok (.file id) ↔
      ∃ l, s.place false p = .ok (.present l) ∧ s.entryAt l = some (.file id) := by
  unfold node resolve
  cases h : s.place false p with
  | error e => simp
  | ok q =>
    cases q with
    | absent m => simp
    | present m =>
      cases he : s.entryAt m with
      | none => simp [he]
      | some e => cases e <;> simp [he]

/-- A path is one to a directory if it leads to one. -/
lemma isDirectory_iff {s : FileStore} {p : Path} :
    s.isDirectory p = true ↔ ∃ l, s.node p = .ok (.directory l) := by
  unfold isDirectory
  cases s.node p with
  | error e => simp
  | ok x => cases x <;> simp [Node.isDirectory]

/-- A path is one to a file if it leads to one. -/
lemma isFile_iff {s : FileStore} {p : Path} :
    s.isFile p = true ↔ ∃ id, s.node p = .ok (.file id) := by
  unfold isFile
  cases s.node p with
  | error e => simp
  | ok x => cases x <;> simp [Node.isDirectory]

/-- Two paths lead to the same if they lead to one node. -/
lemma sameFile_iff {s : FileStore} {p q : Path} :
    s.sameFile p q = true ↔ ∃ x, s.node p = .ok x ∧ s.node q = .ok x := by
  unfold sameFile
  cases s.node p with
  | error e => simp
  | ok x =>
    cases s.node q with
    | error e => simp
    | ok y =>
      show (x == y) = true ↔ ∃ z, Except.ok x = .ok z ∧ Except.ok y = .ok z
      rw [beq_iff_eq]
      constructor
      · rintro rfl
        exact ⟨x, rfl, rfl⟩
      · rintro ⟨z, hx, hy⟩
        rw [Except.ok.inj hx, Except.ok.inj hy]

/-- Where paths lead depends on the entries and the working directory only. -/
lemma node_congr {s t : FileStore} (hentries : t.entries = s.entries)
    (hdirectory : t.workingDirectory = s.workingDirectory) (p : Path) : t.node p = s.node p := by
  have hentry : ∀ l, t.entryAt l = s.entryAt l := by
    intro l
    cases l with
    | nil => rfl
    | cons n d => rw [FileStore.entryAt, FileStore.entryAt, hentries]
  have hplace : t.place false p = s.place false p := by
    rw [FileStore.place, FileStore.place, hdirectory, follow_congr hentry]
  unfold FileStore.node resolve
  rw [hplace]
  cases s.place false p with
  | error e => rfl
  | ok q => cases q <;> simp only [hentry]

/-- Overwriting a file changes no path. -/
lemma node_setContents (s : FileStore) (id : FileId) (c : Contents) (p : Path) :
    (s.setContents id c).node p = s.node p :=
  node_congr (s := s) (t := s.setContents id c) rfl rfl p

/-- A path that leads somewhere leads there as well in a store with more entries. -/
lemma Extends.place {s t : FileStore} (h : s.Extends t)
    (hdirectory : t.workingDirectory = s.workingDirectory) {w : Bool} {p : Path} {l : Location}
    (hp : s.place w p = .ok (.present l)) : t.place w p = .ok (.present l) := by
  rw [place_eq_ok_iff] at hp ⊢
  refine ⟨hp.1, ?_⟩
  rw [hdirectory]
  exact hp.2.mono h (by simp)

/-- A path that leads somewhere leads there as well after the store has grown. -/
private lemma Grows.place {s t : FileStore} (h : Grows s t) {w : Bool} {p : Path} {l : Location}
    (hp : s.place w p = .ok (.present l)) : t.place w p = .ok (.present l) :=
  h.extends.place h.workingDirectory hp

/-- **What a path leads to, it leads to** after the store has grown. -/
theorem Grows.node {s t : FileStore} (h : Grows s t) {p : Path} {x : Node}
    (hp : s.node p = .ok x) : t.node p = .ok x := by
  cases x with
  | directory l =>
    rw [node_eq_directory_iff] at hp ⊢
    exact ⟨h.place hp.1, h.entryAt hp.2⟩
  | file id =>
    obtain ⟨l, hl, he⟩ := node_eq_file_iff.1 hp
    exact node_eq_file_iff.2 ⟨l, h.place hl, h.entryAt he⟩

/-- What leads to a file leads to it after the store has grown. -/
lemma Grows.isFile {s t : FileStore} (h : Grows s t) {p : Path} (hp : s.isFile p = true) :
    t.isFile p = true := by
  rw [isFile_iff] at hp ⊢
  obtain ⟨id, hid⟩ := hp
  exact ⟨id, h.node hid⟩

/-- The file that a path leads to has a number below that of a new file. -/
lemma WellFormed.number_lt {s : FileStore} (hs : s.WellFormed) {p : Path} {id : FileId}
    (hp : s.node p = .ok (.file id)) : id.number < s.freshId.number := by
  obtain ⟨l, -, he⟩ := node_eq_file_iff.1 hp
  exact hs.numbered l id he

/-- A path to an old file led there before a file was written.

**Proof sketch.** Overwriting changes no entry. A file that is created is new, so the path does not
end in its place, and it does not lead through it because a file has nothing below it
(`Leads.of_newFile`). -/
private lemma Writes.node_of_old {s t : FileStore} (h : Writes s t) {p : Path} {id : FileId}
    (hp : t.node p = .ok (.file id)) (hid : id.number < s.freshId.number) :
    s.node p = .ok (.file id) := by
  obtain ⟨l, hl, he⟩ := node_eq_file_iff.1 hp
  cases h with
  | overwrite c _ =>
    refine node_eq_file_iff.2 ⟨l, ?_, by rwa [entryAt_setContents] at he⟩
    rw [place_eq_ok_iff] at hl ⊢
    refine ⟨hl.1, hl.2.mono ?_ (by simp)⟩
    intro m e hm
    rw [entryAt_setContents] at hm
    exact ⟨e, hm, SameKind.refl e⟩
  | @create n d c _ _ _ =>
    have hne : l ≠ n :: d := by
      rintro rfl
      rw [entryAt_newFile, if_pos rfl] at he
      obtain rfl : s.freshId = id := by simpa using he
      exact lt_irrefl _ hid
    refine node_eq_file_iff.2 ⟨l, ?_, by rwa [entryAt_newFile, if_neg hne] at he⟩
    rw [place_eq_ok_iff] at hl ⊢
    have hnew : (s.newFile (n :: d) c).entryAt (n :: d) = some (.file s.freshId) := by
      rw [entryAt_newFile, if_pos rfl]
    have hold : ∀ m, m ≠ n :: d → (s.newFile (n :: d) c).entryAt m = s.entryAt m := by
      intro m hm
      rw [entryAt_newFile, if_neg hm]
    exact ⟨hl.1, hl.2.of_newFile hnew hold (regular_steps p) hne⟩

/-- **Writing files gives an old file no new paths.** -/
theorem Rewrites.node_of_old {s t : FileStore} (h : Rewrites s t) {p : Path} {id : FileId}
    (hp : t.node p = .ok (.file id)) (hid : id.number < s.freshId.number) :
    s.node p = .ok (.file id) := by
  induction h with
  | refl => exact hp
  | @tail t u h hstep ih =>
    refine ih (hstep.node_of_old hp (lt_of_lt_of_le hid ?_))
    exact (Rewrites.grows h).freshId_le

/-- Writing files does not change which paths lead to the file of a given one.

**Proof sketch.** A path leads to the file of `q` afterwards exactly if it did before: writing
keeps what paths lead to, and a path to an old file led there already, as a new file has a new
number (`node_of_old`). -/
theorem Rewrites.sameFile_iff {s t : FileStore} (h : Rewrites s t) (hs : s.WellFormed)
    {p q : Path} (hq : s.isFile q = true) : t.sameFile p q = true ↔ s.sameFile p q = true := by
  obtain ⟨id, hid⟩ := isFile_iff.1 hq
  have hiff : t.node p = .ok (.file id) ↔ s.node p = .ok (.file id) :=
    ⟨fun hp => h.node_of_old hp (hs.number_lt hid), fun hp => h.grows.node hp⟩
  have hsame : ∀ u : FileStore, u.node q = .ok (.file id) →
      (u.sameFile p q = true ↔ u.node p = .ok (.file id)) := by
    intro u hu
    rw [FileStore.sameFile_iff, hu]
    constructor
    · rintro ⟨x, hx, hx'⟩
      rw [hx, hx']
    · intro hp
      exact ⟨_, hp, rfl⟩
  rw [hsame t (h.grows.node hid), hsame s hid, hiff]

end StaticSite.FileStore
