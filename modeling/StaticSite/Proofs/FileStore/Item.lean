import Mathlib
import StaticSite.Proofs.FileStore.Plain

set_option relaxedAutoImplicit false
set_option autoImplicit false

/-!
# What is seen of a store

What a disk shows at a location is a directory, a link or the contents of a file, but not which
file it is. In a store without links a change to an entry is seen at its location only, and whether
it succeeds depends on what is seen there.

## Main definitions

* `StaticSite.Item`, `StaticSite.FileStore.itemAt` — what is seen at a location.
* `StaticSite.FileStore.LinkFree` — the store stands for a disk without links.
* `StaticSite.FileStore.SameDisk` — two stores stand for the same disk.

## Main results

* `StaticSite.FileStore.write_child_eq_ok_iff`,
  `StaticSite.FileStore.createDirectories_child_eq_ok_iff` — when an entry can be written or made.
* `StaticSite.FileStore.itemAt_of_write`, `StaticSite.FileStore.itemAt_of_createDirectories` — what
  is seen after that.
* `StaticSite.FileStore.SameDisk.readContents` — the same is read on the same disk.
-/

namespace StaticSite

/-- What is seen at a location. -/
inductive Item where
  /-- A directory. -/
  | directory
  /-- A file and what it holds. -/
  | file (c : Contents)
  /-- A symbolic link and the path it holds. -/
  | link (target : Path)
deriving DecidableEq

namespace FileStore

open StaticSite.Path (IsName)

/-- What is seen of an entry. -/
def itemOf (s : FileStore) : Entry → Item
  | .directory => .directory
  | .file id => .file (s.contentsOf id)
  | .link t => .link t

/-- What is seen at a location. -/
def itemAt (s : FileStore) (l : Location) : Option Item := (s.entryAt l).map s.itemOf

/-- A directory is seen where there is one. -/
lemma itemAt_eq_directory_iff {s : FileStore} {l : Location} :
    s.itemAt l = some .directory ↔ s.entryAt l = some .directory := by
  unfold itemAt
  cases s.entryAt l with
  | none => simp
  | some e => cases e <;> simp [itemOf]

/-- A file is seen where there is one. -/
lemma itemAt_eq_file_iff {s : FileStore} {l : Location} {c : Contents} :
    s.itemAt l = some (.file c) ↔ ∃ id, s.entryAt l = some (.file id) ∧ s.contentsOf id = c := by
  unfold itemAt
  cases s.entryAt l with
  | none => simp
  | some e => cases e <;> simp [itemOf]

/-- Nothing is seen where nothing is. -/
lemma itemAt_eq_none_iff {s : FileStore} {l : Location} :
    s.itemAt l = none ↔ s.entryAt l = none := by
  rw [itemAt, Option.map_eq_none_iff]

/-- Something is seen where something is. -/
lemma isSome_itemAt (s : FileStore) (l : Location) :
    (s.itemAt l).isSome = (s.entryAt l).isSome := by
  rw [itemAt, Option.isSome_map]

/-- Where the same is seen, there are entries of one kind. -/
lemma sameKind_of_itemAt {s t : FileStore} {l : Location} (h : t.itemAt l = s.itemAt l) {e : Entry}
    (he : s.entryAt l = some e) : ∃ e', t.entryAt l = some e' ∧ SameKind e e' := by
  rw [itemAt, itemAt, he] at h
  cases he' : t.entryAt l with
  | none => simp [he'] at h
  | some e' =>
    refine ⟨e', rfl, ?_⟩
    rw [he'] at h
    cases e <;> cases e' <;> simp_all [itemOf, SameKind]

/-- The names in two directories are the same if something is seen in the same places. -/
lemma namesIn_congr {s t : FileStore} (hs : s.WellFormed) (ht : t.WellFormed) {l : Location}
    (h : ∀ n, (t.entryAt (n :: l)).isSome = (s.entryAt (n :: l)).isSome) :
    t.namesIn l = s.namesIn l := by
  apply Name.eq_of_mem_iff (pairwise_namesIn ht l) (pairwise_namesIn hs l)
  intro n
  rw [mem_namesIn_iff, mem_namesIn_iff, h]

/-! ## Stores without links -/

/-- A store that stands for a disk on which there are neither symbolic nor hard links. -/
structure LinkFree (s : FileStore) : Prop where
  /-- The store stands for a disk. -/
  wellFormed : s.WellFormed
  /-- There are no links. -/
  plain : s.Plain []

namespace LinkFree

variable {s : FileStore} (hs : s.LinkFree)

include hs

/-- Growth makes no links. -/
lemma grows {t : FileStore} (h : Grows s t) : t.LinkFree :=
  ⟨h.wellFormed hs.wellFormed, h.plain hs.wellFormed hs.plain⟩

/-- There is no link. -/
lemma entryAt_ne_link (l : Location) (t : Path) : s.entryAt l ≠ some (.link t) := by
  by_cases hl : l = []
  · subst hl
    simp [FileStore.entryAt]
  · exact hs.plain.noLink l t List.nil_suffix hl

/-- There are no links below any location. -/
lemma plainAt (l : Location) : s.Plain l := by
  refine ⟨fun m t _ _ => hs.entryAt_ne_link m t, ?_⟩
  intro m m' id _ hm _ hm' he he'
  have hne : ∀ k, s.entryAt k = some (.file id) → k ≠ [] := by
    rintro k hk rfl
    simp [FileStore.entryAt] at hk
  exact hs.plain.unique m m' id List.nil_suffix (hne m he) List.nil_suffix (hne m' he') he he'

/-- A file is in one place only. -/
lemma eq_of_entryAt {l m : Location} {id : FileId} (hl : s.entryAt l = some (.file id))
    (hm : s.entryAt m = some (.file id)) : l = m := by
  have hne : ∀ k, s.entryAt k = some (.file id) → k ≠ [] := by
    rintro k hk rfl
    simp [FileStore.entryAt] at hk
  exact hs.plain.unique l m id List.nil_suffix (hne l hl) List.nil_suffix (hne m hm) hl hm

/-! ## What is seen after a change -/

/-- Overwriting a file is seen in its place only.

**Proof sketch.** Without links a file has one place (`LinkFree.eq_of_entryAt`), so no other place
shows what is written. -/
lemma itemAt_setContents {l : Location} {id : FileId} (he : s.entryAt l = some (.file id))
    (c : Contents) (m : Location) :
    (s.setContents id c).itemAt m = if m = l then some (.file c) else s.itemAt m := by
  split
  · next hm =>
    rw [itemAt_eq_file_iff]
    exact ⟨id, by rw [entryAt_setContents, hm, he], by rw [contentsOf_setContents, if_pos rfl]⟩
  · next hm =>
    rw [itemAt, itemAt, entryAt_setContents]
    cases hem : s.entryAt m with
    | none => rfl
    | some e =>
      cases e with
      | directory => rfl
      | link t => rfl
      | file i =>
        have hi : i ≠ id := by
          rintro rfl
          exact hm (hs.eq_of_entryAt hem he)
        simp [itemOf, contentsOf_setContents, hi]

/-- A new file is seen in its place only.

**Proof sketch.** The new file has a number of its own, so no entry that was there before is of
this file and sees what it holds. -/
lemma itemAt_newFile (n : Name) (d : Location) (c : Contents) (m : Location) :
    (s.newFile (n :: d) c).itemAt m = if m = n :: d then some (.file c) else s.itemAt m := by
  split
  · next hm =>
    rw [itemAt_eq_file_iff]
    exact ⟨s.freshId, by rw [entryAt_newFile, if_pos hm], by rw [contentsOf_newFile, if_pos rfl]⟩
  · next hm =>
    rw [itemAt, itemAt, entryAt_newFile, if_neg hm]
    cases hem : s.entryAt m with
    | none => rfl
    | some e =>
      cases e with
      | directory => rfl
      | link t => rfl
      | file i =>
        have hi : i ≠ s.freshId := by
          rintro rfl
          exact hs.wellFormed.entryAt_ne_freshId m hem
        simp [itemOf, contentsOf_newFile, hi]

end LinkFree

/-- A new directory is seen in its place only. -/
private lemma itemAt_setEntry_directory (s : FileStore) (n : Name) (d m : Location) :
    (s.setEntry (n :: d) .directory).itemAt m =
      if m = n :: d then some .directory else s.itemAt m := by
  split
  · next hm => rw [itemAt_eq_directory_iff, entryAt_setEntry, if_pos hm]
  · next hm =>
    rw [itemAt, itemAt, entryAt_setEntry, if_neg hm]
    rfl

/-! ## Disks that look the same -/

/-- Two locations hold one file. -/
def Shares (s : FileStore) (l m : Location) : Prop :=
  ∃ id, s.entryAt l = some (.file id) ∧ s.entryAt m = some (.file id)

/-- A store that has grown has the hard links that it had, and no others.

**Proof sketch.** A shared file is new or old, which its number tells. A new file is in one place
only (`eq_of_new`). An old one is where it was, since what growth adds are directories and new
files. -/
private lemma Grows.shares_iff {s t : FileStore} (h : Grows s t) (hs : s.WellFormed)
    (l m : Location) :
    t.Shares l m ↔ s.Shares l m ∨ l = m ∧ ∃ c, t.itemAt l = some (.file c) := by
  constructor
  · rintro ⟨id, hl, hm⟩
    by_cases hid : s.freshId.number ≤ id.number
    · exact Or.inr ⟨h.eq_of_new hs hid hl hm, _, itemAt_eq_file_iff.2 ⟨id, hl, rfl⟩⟩
    · have hold : ∀ k, t.entryAt k = some (.file id) → s.entryAt k = some (.file id) := by
        intro k hk
        rcases h.entryAt_or hk with hk | ⟨-, hk | ⟨i, hi, hnew⟩⟩
        · exact hk
        · simp at hk
        · obtain rfl : id = i := by simpa using hi
          exact absurd hnew hid
      exact Or.inl ⟨id, hold l hl, hold m hm⟩
  · rintro (⟨id, hl, hm⟩ | ⟨rfl, c, hc⟩)
    · exact ⟨id, h.entryAt hl, h.entryAt hm⟩
    · obtain ⟨id, hid, -⟩ := itemAt_eq_file_iff.1 hc
      exact ⟨id, hid, hid⟩

/-- Two stores stand for the same disk: they differ in the numbers of the files at most. -/
structure SameDisk (s t : FileStore) : Prop where
  /-- Relative paths start from the same directory. -/
  workingDirectory : t.workingDirectory = s.workingDirectory
  /-- The same is seen everywhere. -/
  itemAt : ∀ l, t.itemAt l = s.itemAt l
  /-- The same locations hold one file. -/
  shares : ∀ l m, t.Shares l m ↔ s.Shares l m

/-- What a store grows to is the same disk if the same is seen everywhere. -/
lemma SameDisk.of_grows {s t u : FileStore} (hs : s.WellFormed) (ht : Grows s t) (hu : Grows s u)
    (h : ∀ l, u.itemAt l = t.itemAt l) : SameDisk t u :=
  ⟨by rw [hu.workingDirectory, ht.workingDirectory], h, fun l m => by
    rw [hu.shares_iff hs, ht.shares_iff hs, h]⟩

/-- A path is read if it leads to a location where a file is seen. -/
private lemma readContents_eq_ok_iff {s : FileStore} {p : Path} {c : Contents} :
    s.readContents p = .ok c ↔
      ∃ l, s.place false p = .ok (.present l) ∧ s.itemAt l = some (.file c) := by
  simp only [itemAt_eq_file_iff]
  constructor
  · intro h
    obtain ⟨id, hid⟩ : ∃ id, s.node p = .ok (.file id) := by
      unfold readContents at h
      split at h
      · simp at h
      · simp at h
      · next id hid => exact ⟨id, hid⟩
    obtain ⟨l, hl, he⟩ := node_eq_file_iff.1 hid
    rw [readContents_of_node hid] at h
    exact ⟨l, hl, id, he, Except.ok.inj h⟩
  · rintro ⟨l, hl, id, he, rfl⟩
    exact readContents_of_node (node_eq_file_iff.2 ⟨l, hl, he⟩)

/-- **The same is read by every path** on the same disk. -/
theorem SameDisk.readContents {s t : FileStore} (h : SameDisk s t) {p : Path} {c : Contents} :
    t.readContents p = .ok c ↔ s.readContents p = .ok c := by
  have hplace : ∀ {u v : FileStore}, (∀ l, v.itemAt l = u.itemAt l) →
      v.workingDirectory = u.workingDirectory → ∀ {l}, u.place false p = .ok (.present l) →
        v.place false p = .ok (.present l) := by
    intro u v hitem hdirectory l hl
    exact Extends.place (fun m e he => sameKind_of_itemAt (hitem m) he) hdirectory hl
  rw [readContents_eq_ok_iff, readContents_eq_ok_iff]
  constructor
  · rintro ⟨l, hl, hitem⟩
    exact ⟨l, hplace (fun m => (h.itemAt m).symm) h.workingDirectory.symm hl, by
      rw [← h.itemAt, hitem]⟩
  · rintro ⟨l, hl, hitem⟩
    exact ⟨l, hplace h.itemAt h.workingDirectory hl, by rw [h.itemAt, hitem]⟩

/-! ## Changing an entry -/

section Child

variable {s : FileStore} {p : Path} {l : Location} {n : Name}
  (h : s.node p = .ok (.directory l)) (hn : IsName n)

include h hn

/-- A directory can be made in a free place whose path fits. -/
private lemma createDirectory_child (hfits : Fits p n) :
    createDirectory (p.child n) s =
      if (s.entryAt (n :: l)).isSome then .error .exists s
      else .ok () (s.setEntry (n :: l) .directory) := by
  unfold createDirectory
  rw [look_bind, resolveName_child h hn, hfits.path]
  simp only [if_neg (not_lt.2 hfits.name)]
  cases (s.entryAt (n :: l)).isSome <;> rfl

/-- A directory whose path does not fit cannot be made, and not for want of one that it lies in. -/
private lemma createDirectory_of_not_fits (hfits : ¬Fits p n) :
    ∃ e, createDirectory (p.child n) s = .error e s ∧ e ≠ .notFound := by
  unfold createDirectory
  rw [look_bind, resolveName_child h hn]
  cases hbad : badPath? (p.child n) with
  | some e =>
    refine ⟨e, rfl, ?_⟩
    rintro rfl
    have hempty : (p.child n).bytes.isEmpty = false := by
      simpa using Path.bytes_child_ne_nil (bytes_ne_nil_of_node h) hn
    unfold badPath? at hbad
    rw [hempty] at hbad
    split_ifs at hbad <;> simp_all
  | none =>
    have hlong : nameLimit < n.length := by
      by_contra hshort
      exact hfits ⟨hbad, not_lt.1 hshort⟩
    simp only [if_pos hlong]
    exact ⟨_, rfl, by simp⟩

/-- A directory that cannot be made as an entry of a directory is not made in part either.

**Proof sketch.** The directory that it would be an entry of is there, so it is made at once or
fails for another reason than a missing one. In neither case is any directory above it made. -/
lemma eq_of_createDirectories_error {t : FileStore} {e : FileError}
    (hrun : createDirectories (p.child n) s = .error e t) : t = s := by
  have htext := Path.bytes_child_ne_nil (bytes_ne_nil_of_node h) hn
  have hmake : (∃ r, createDirectory (p.child n) s = .ok () r) ∨
      ∃ e', createDirectory (p.child n) s = .error e' s ∧ e' ≠ .notFound := by
    by_cases hfits : Fits p n
    · rw [createDirectory_child h hn hfits]
      split
      · exact Or.inr ⟨_, rfl, by simp⟩
      · exact Or.inl ⟨_, rfl⟩
    · exact Or.inr (createDirectory_of_not_fits h hn hfits)
  rcases hmake with ⟨r, hr⟩ | ⟨e', hmake, he'⟩
  · rw [createDirectories_of_ok htext hr] at hrun
    simp at hrun
  · rw [createDirectories_of_error htext hmake he'] at hrun
    split at hrun
    · simp at hrun
    · exact (EStateM.Result.error.inj hrun).2.symm

/-- An entry that is no link can be written if its path fits and there is no directory.

**Proof sketch.** A write that succeeds has followed its path, so the path fits. The place of an
entry that is no link is the entry itself (`place_child`), and the write does with it what it does
with its place (`write_run`). -/
theorem write_child_eq_ok_iff_of_noLink (hlink : ∀ u, s.entryAt (n :: l) ≠ some (.link u))
    {c : Contents} {t : FileStore} :
    write (p.child n) c s = .ok () t ↔
      Fits p n ∧ ((s.entryAt (n :: l) = none ∧ t = s.newFile (n :: l) c) ∨
        ∃ id, s.entryAt (n :: l) = some (.file id) ∧ t = s.setContents id c) := by
  constructor
  · intro hw
    have hfits : Fits p n := by
      rw [write_run] at hw
      cases hq : s.place true (p.child n) with
      | error e => simp [hq] at hw
      | ok q => exact fits_of_place h hn hq
    refine ⟨hfits, ?_⟩
    rw [write_run, place_child h hn hfits hlink] at hw
    cases he : s.entryAt (n :: l) with
    | none => simpa [he, eq_comm] using hw
    | some e =>
      cases e with
      | directory => simp [he] at hw
      | link u => exact absurd he (hlink u)
      | file id => simpa [he, eq_comm] using hw
  · rintro ⟨hfits, ⟨he, rfl⟩ | ⟨id, he, rfl⟩⟩
    · rw [write_run, place_child h hn hfits hlink, he]
      rfl
    · rw [write_run, place_child h hn hfits hlink, he]
      simp [he]

variable (hs : s.LinkFree)

include hs

/-- The path of an entry is one to a file if it fits and the entry is one. -/
lemma isFile_child_iff :
    s.isFile (p.child n) = true ↔ Fits p n ∧ ∃ id, s.entryAt (n :: l) = some (.file id) := by
  rw [isFile_iff]
  constructor
  · rintro ⟨id, hid⟩
    obtain ⟨hfits, he⟩ := (node_child_eq_file_iff h hn (hs.entryAt_ne_link _)).1 hid
    exact ⟨hfits, id, he⟩
  · rintro ⟨hfits, id, he⟩
    exact ⟨id, (node_child_eq_file_iff h hn (hs.entryAt_ne_link _)).2 ⟨hfits, he⟩⟩

/-- An entry can be read as a text if its path fits and a text is seen. -/
lemma exists_readText_child_iff : (∃ t, s.readText (p.child n) = .ok t) ↔
    Fits p n ∧ ∃ t, s.itemAt (n :: l) = some (.file (.text t)) := by
  simp only [itemAt_eq_file_iff]
  constructor
  · rintro ⟨t, ht⟩
    obtain ⟨id, hid, hc⟩ := node_of_readText ht
    obtain ⟨hfits, he⟩ := (node_child_eq_file_iff h hn (hs.entryAt_ne_link _)).1 hid
    exact ⟨hfits, t, id, he, hc⟩
  · rintro ⟨hfits, t, id, he, hc⟩
    have hid := (node_child_eq_file_iff h hn (hs.entryAt_ne_link _)).2 ⟨hfits, he⟩
    exact ⟨t, readText_of_node hid hc⟩

/-- The path of a file leads to another entry only if it has its name. -/
lemma sameFile_child_iff {m : Name} (hm : IsName m) (hfile : s.isFile (p.child n) = true) :
    s.sameFile (p.child n) (p.child m) = true ↔ n = m := by
  obtain ⟨id, hid⟩ := isFile_iff.1 hfile
  constructor
  · intro hsame
    obtain ⟨x, hx, hx'⟩ := sameFile_iff.1 hsame
    rw [hid] at hx
    apply (hs.plainAt l).eq_of_sameFile h hn hm _ hsame
    exact isFile_iff.2 ⟨id, hx'.trans hx.symm⟩
  · rintro rfl
    exact sameFile_iff.2 ⟨_, hid, hid⟩

/-- **An entry can be written** if its path fits and there is no directory. -/
theorem write_child_eq_ok_iff {c : Contents} {t : FileStore} :
    write (p.child n) c s = .ok () t ↔
      Fits p n ∧ ((s.entryAt (n :: l) = none ∧ t = s.newFile (n :: l) c) ∨
        ∃ id, s.entryAt (n :: l) = some (.file id) ∧ t = s.setContents id c) :=
  write_child_eq_ok_iff_of_noLink h hn (hs.entryAt_ne_link _)

/-- What is seen after an entry was written. -/
theorem itemAt_of_write {c : Contents} {t : FileStore} (hw : write (p.child n) c s = .ok () t)
    (m : Location) : t.itemAt m = if m = n :: l then some (.file c) else s.itemAt m := by
  obtain ⟨-, ⟨-, rfl⟩ | ⟨id, he, rfl⟩⟩ := (write_child_eq_ok_iff h hn hs).1 hw
  · exact hs.itemAt_newFile n l c m
  · exact hs.itemAt_setContents he c m

/-- **A directory can be made** if its path fits and there is no file.

**Proof sketch.** If the path fits, the directory is made exactly if its place is free; if the
place is taken, making it succeeds only if a directory is there. A path that does not fit has no
place, and the failure is not for want of the directory above, so nothing is tried there. -/
theorem createDirectories_child_eq_ok_iff {t : FileStore} :
    createDirectories (p.child n) s = .ok () t ↔
      Fits p n ∧ ((s.entryAt (n :: l) = none ∧ t = s.setEntry (n :: l) .directory) ∨
        (s.entryAt (n :: l) = some .directory ∧ t = s)) := by
  have hlink := hs.entryAt_ne_link (n :: l)
  have htext := Path.bytes_child_ne_nil (bytes_ne_nil_of_node h) hn
  have hdirectory : s.isDirectory (p.child n) = true ↔
      Fits p n ∧ s.entryAt (n :: l) = some .directory := by
    rw [isDirectory_iff]
    constructor
    · rintro ⟨m, hm⟩
      obtain ⟨hfits, rfl, he⟩ := (node_child_eq_directory_iff h hn hlink).1 hm
      exact ⟨hfits, he⟩
    · rintro ⟨hfits, he⟩
      exact ⟨_, (node_child_eq_directory_iff h hn hlink).2 ⟨hfits, rfl, he⟩⟩
  by_cases hfits : Fits p n
  · have hmake := createDirectory_child h hn hfits
    cases he : s.entryAt (n :: l) with
    | none =>
      rw [he] at hmake
      rw [createDirectories_of_ok htext hmake]
      simp [hfits, eq_comm]
    | some e =>
      rw [he] at hmake
      rw [createDirectories_of_error htext hmake (by simp)]
      by_cases hd : e = .directory
      · rw [if_pos (hdirectory.2 ⟨hfits, by rw [he, hd]⟩)]
        simp [hfits, hd, eq_comm]
      · have hnot : ¬s.isDirectory (p.child n) = true := by
          intro hd'
          obtain ⟨-, he'⟩ := hdirectory.1 hd'
          rw [he] at he'
          exact hd (by simpa using he')
        rw [if_neg hnot]
        simp [hd]
  · -- a path that does not fit has no place, and that is not for want of a directory
    obtain ⟨e, hmake, he⟩ : ∃ e, createDirectory (p.child n) s = .error e s ∧ e ≠ .notFound :=
      createDirectory_of_not_fits h hn hfits
    have hnot : ¬s.isDirectory (p.child n) = true := fun hd => hfits (hdirectory.1 hd).1
    rw [createDirectories_of_error htext hmake he, if_neg hnot]
    simp [hfits]

/-- What is seen after a directory was made. -/
theorem itemAt_of_createDirectories {t : FileStore}
    (hw : createDirectories (p.child n) s = .ok () t) (m : Location) :
    t.itemAt m = if m = n :: l then some .directory else s.itemAt m := by
  obtain ⟨-, ⟨-, rfl⟩ | ⟨he, rfl⟩⟩ := (createDirectories_child_eq_ok_iff h hn hs).1 hw
  · exact itemAt_setEntry_directory s n l m
  · split
    · next hm => rw [hm, itemAt_eq_directory_iff, he]
    · rfl

end Child

end FileStore

end StaticSite
