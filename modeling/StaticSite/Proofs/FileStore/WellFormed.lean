import Mathlib
import StaticSite.FileStore.Read
import StaticSite.FileStore.Update
import StaticSite.Proofs.Path.Child
import StaticSite.Proofs.Name

set_option relaxedAutoImplicit false
set_option autoImplicit false

/-!
# Well-formed file stores

A store that stands for a disk has at most one entry at a location, its entries have names and lie
in directories, and the number of a new file is beyond those of the files it has.

## Main definitions

* `StaticSite.FileStore.WellFormed` — the store stands for a disk.

## Main results

* `StaticSite.FileStore.mem_namesIn_iff`, `StaticSite.FileStore.pairwise_namesIn` — the names in a
  directory are those with an entry, in strict order.
* `StaticSite.FileStore.WellFormed.setContents`, `StaticSite.FileStore.WellFormed.newFile`,
  `StaticSite.FileStore.WellFormed.setEntry` — the elementary changes keep a store well-formed.
-/

namespace StaticSite.FileStore

/-! ## Assignments -/

section Assign

variable {α β : Type} [DecidableEq α]

/-- A key has a value exactly if it is assigned one. -/
private lemma valueOf?_isSome_iff (key : α) (xs : List (α × β)) :
    (valueOf? key xs).isSome = true ↔ key ∈ xs.map Prod.fst := by
  induction xs with
  | nil => simp [valueOf?]
  | cons x xs ih =>
    obtain ⟨k, v⟩ := x
    unfold valueOf?
    by_cases h : key = k
    · simp [h]
    · simp [h, ih]

/-- The value of a key is assigned to it. -/
private lemma mem_of_valueOf? {key : α} {value : β} {xs : List (α × β)}
    (h : valueOf? key xs = some value) : (key, value) ∈ xs := by
  induction xs with
  | nil => simp [valueOf?] at h
  | cons x xs ih =>
    obtain ⟨k, v⟩ := x
    unfold valueOf? at h
    split at h
    · next hk =>
      obtain rfl : v = value := by simpa using h
      simp [hk]
    · exact List.mem_cons_of_mem _ (ih h)

/-- Setting a value assigns at most one key more, at the end. -/
private lemma map_fst_assign (key : α) (value : β) (xs : List (α × β)) :
    (assign key value xs).map Prod.fst =
      if key ∈ xs.map Prod.fst then xs.map Prod.fst else xs.map Prod.fst ++ [key] := by
  induction xs with
  | nil => simp [assign]
  | cons x xs ih =>
    obtain ⟨k, v⟩ := x
    unfold assign
    by_cases h : key = k
    · simp [h]
    · rw [if_neg h, List.map_cons, ih]
      simp only [List.map_cons, List.mem_cons, h, false_or]
      split <;> simp

/-- Setting a value keeps the keys distinct. -/
private lemma nodup_assign {key : α} {value : β} {xs : List (α × β)}
    (h : (xs.map Prod.fst).Nodup) : ((assign key value xs).map Prod.fst).Nodup := by
  rw [map_fst_assign]
  split
  · exact h
  · next hkey =>
    rw [List.nodup_append]
    refine ⟨h, List.nodup_singleton _, ?_⟩
    intro a ha b hb hab
    rw [List.mem_singleton] at hb
    exact hkey (hb ▸ hab ▸ ha)

end Assign

/-! ## New identities -/

/-- The number of a new file is beyond every number that has contents.

**Proof sketch.** The number is a maximum taken from left to right, so the statement is proved for
every value to start with, by induction on the contents. -/
private lemma freshId_number_le_iff (s : FileStore) (n : Nat) :
    s.freshId.number ≤ n ↔ ∀ id ∈ s.contents.map Prod.fst, id.number < n := by
  have hfold : ∀ (xs : List (FileId × Contents)) (m : Nat),
      xs.foldl (fun k entry => max k (entry.1.number + 1)) m ≤ n ↔
        m ≤ n ∧ ∀ id ∈ xs.map Prod.fst, id.number < n := by
    intro xs
    induction xs with
    | nil => simp
    | cons x xs ih =>
      intro m
      rw [List.foldl_cons, ih, List.map_cons, List.forall_mem_cons]
      constructor
      · rintro ⟨hm, hxs⟩
        exact ⟨by omega, by omega, hxs⟩
      · rintro ⟨hm, hx, hxs⟩
        exact ⟨by omega, hxs⟩
  show List.foldl _ 0 s.contents ≤ n ↔ _
  rw [hfold]
  simp

/-- Writing a file moves the number of the next new file behind its own.

**Proof sketch.** The numbers that have contents afterwards are those from before and the one that
is written. The new number is the least one beyond them all (`freshId_number_le_iff`). -/
lemma freshId_setContents (s : FileStore) (id : FileId) (c : Contents) :
    (s.setContents id c).freshId.number = max s.freshId.number (id.number + 1) := by
  have hold : ∀ i ∈ s.contents.map Prod.fst, i.number < s.freshId.number :=
    (freshId_number_le_iff s _).1 le_rfl
  have hnew : ∀ i ∈ (s.setContents id c).contents.map Prod.fst,
      i.number < (s.setContents id c).freshId.number := (freshId_number_le_iff _ _).1 le_rfl
  refine le_antisymm ?_ (max_le ?_ (hnew id ?_))
  · rw [freshId_number_le_iff]
    intro i hi
    show i.number < _
    simp only [setContents, map_fst_assign] at hi
    split at hi
    · exact lt_of_lt_of_le (hold i hi) (le_max_left _ _)
    · rcases List.mem_append.1 hi with hi | hi
      · exact lt_of_lt_of_le (hold i hi) (le_max_left _ _)
      · rw [List.mem_singleton] at hi
        rw [hi]
        exact lt_of_lt_of_le (Nat.lt_succ_self _) (le_max_right _ _)
  · rw [freshId_number_le_iff]
    refine fun i hi => hnew i ?_
    simp only [setContents, map_fst_assign]
    split
    · exact hi
    · exact List.mem_append_left _ hi
  · simp only [setContents, map_fst_assign]
    split
    · assumption
    · simp

/-! ## Well-formed stores -/

/-- A store that stands for a disk. -/
structure WellFormed (s : FileStore) : Prop where
  /-- There is at most one entry at a location. -/
  nodup : (s.entries.map Prod.fst).Nodup
  /-- An entry has a name. -/
  isName : ∀ n d, (s.entryAt (n :: d)).isSome → Path.IsName n
  /-- An entry lies in a directory. -/
  parent : ∀ n d, (s.entryAt (n :: d)).isSome → s.entryAt d = some .directory
  /-- The number of a new file is beyond those of all files. -/
  numbered : ∀ l id, s.entryAt l = some (.file id) → id.number < s.freshId.number

/-- What stands below the root is an entry. -/
lemma mem_entries {s : FileStore} {l : Location} {e : Entry} (hl : l ≠ [])
    (h : s.entryAt l = some e) : (l, e) ∈ s.entries := by
  cases l with
  | nil => exact absurd rfl hl
  | cons n d => exact mem_of_valueOf? h

/-- The empty store stands for a disk. -/
lemma WellFormed.empty : WellFormed {} := by
  refine ⟨by simp, fun n d h => ?_, fun n d h => ?_, fun l id h => ?_⟩
  · simp [entryAt, valueOf?] at h
  · simp [entryAt, valueOf?] at h
  · cases l <;> simp [entryAt, valueOf?] at h

/-- A new file is none of the files at hand. -/
lemma WellFormed.entryAt_ne_freshId {s : FileStore} (hs : s.WellFormed) (l : Location) :
    s.entryAt l ≠ some (.file s.freshId) := fun h =>
  lt_irrefl _ (hs.numbered l _ h)

/-- What lies below an entry shows that the entry is a directory. -/
lemma WellFormed.directory_of_suffix {s : FileStore} (hs : s.WellFormed) {l m : Location}
    (hlm : l <:+ m) (hne : m ≠ l) (hm : (s.entryAt m).isSome = true) :
    s.entryAt l = some .directory := by
  induction m with
  | nil => exact absurd (List.suffix_nil.1 hlm).symm hne
  | cons n d ih =>
    have hd := hs.parent n d hm
    rcases List.suffix_cons_iff.1 hlm with rfl | hld
    · exact absurd rfl hne
    · by_cases heq : d = l
      · rw [← heq, hd]
      · exact ih hld heq (by rw [hd]; rfl)

/-- There is something in every place that something lies below. -/
lemma WellFormed.isSome_of_suffix {s : FileStore} (hs : s.WellFormed) {l m : Location}
    (hlm : l <:+ m) (hm : (s.entryAt m).isSome = true) : (s.entryAt l).isSome = true := by
  by_cases heq : m = l
  · rwa [← heq]
  · rw [hs.directory_of_suffix hlm heq hm]
    rfl

/-! ## The names in a directory -/

/-- A name is in a directory exactly if there is an entry. -/
lemma mem_namesIn_iff {s : FileStore} {d : Location} {n : Name} :
    n ∈ s.namesIn d ↔ (s.entryAt (n :: d)).isSome = true := by
  rw [namesIn, Name.mem_sort, List.mem_filterMap, entryAt, valueOf?_isSome_iff, List.mem_map]
  constructor
  · rintro ⟨⟨l, e⟩, hmem, hn⟩
    refine ⟨(l, e), hmem, ?_⟩
    cases l with
    | nil => simp [nameIn?] at hn
    | cons m parent =>
      simp only [nameIn?, Option.ite_none_right_eq_some, Option.some.injEq] at hn
      rw [hn.1, hn.2]
  · rintro ⟨⟨l, e⟩, hmem, rfl⟩
    exact ⟨_, hmem, by simp [nameIn?]⟩

/-- What is in a directory has a name. -/
lemma WellFormed.isName_of_mem_namesIn {s : FileStore} (hs : s.WellFormed) {d : Location} {n : Name}
    (hn : n ∈ s.namesIn d) : Path.IsName n :=
  hs.isName _ _ (mem_namesIn_iff.1 hn)

/-- The names in a directory are in strict order.

**Proof sketch.** The names are sorted, and no name comes twice: two entries of one directory with
the same name are at one location, and the store has each location once. -/
lemma pairwise_namesIn {s : FileStore} (hs : s.WellFormed) (d : Location) :
    (s.namesIn d).Pairwise (· < ·) := by
  apply Name.pairwise_sort_of_nodup
  have h : (s.entries.map Prod.fst).filterMap (nameIn? d) =
      s.entries.filterMap fun entry => nameIn? d entry.1 := by
    rw [List.filterMap_map]
    rfl
  rw [← h]
  refine List.Nodup.filterMap ?_ hs.nodup
  intro l l' n hn hn'
  cases l with
  | nil => simp [nameIn?] at hn
  | cons m parent =>
    cases l' with
    | nil => simp [nameIn?] at hn'
    | cons m' parent' =>
      simp only [nameIn?, Option.mem_def, Option.ite_none_right_eq_some, Option.some.injEq]
        at hn hn'
      rw [hn.1, hn.2, hn'.1, hn'.2]

/-! ## Elementary changes -/

/-- Writing to a file keeps a store well-formed. -/
lemma WellFormed.setContents {s : FileStore} (hs : s.WellFormed) (id : FileId) (c : Contents) :
    (s.setContents id c).WellFormed := by
  refine ⟨hs.nodup, fun n d h => ?_, fun n d h => ?_, fun l i h => ?_⟩
  · rw [entryAt_setContents] at h
    exact hs.isName n d h
  · rw [entryAt_setContents] at h ⊢
    exact hs.parent n d h
  · rw [entryAt_setContents] at h
    rw [freshId_setContents]
    exact lt_of_lt_of_le (hs.numbered l i h) (le_max_left _ _)

/-- Putting an entry with a name into a free place of a directory keeps a store well-formed if the
entry is no file of a number to come. -/
lemma WellFormed.setEntry {s : FileStore} (hs : s.WellFormed) {n : Name} {d : Location}
    (hn : Path.IsName n) (hd : s.entryAt d = some .directory) (hfree : s.entryAt (n :: d) = none)
    {e : Entry} (he : ∀ id, e = .file id → id.number < s.freshId.number) :
    (s.setEntry (n :: d) e).WellFormed := by
  refine ⟨nodup_assign hs.nodup, fun m l h => ?_, fun m l h => ?_, fun l i h => ?_⟩
  · rw [entryAt_setEntry] at h
    split at h
    · next heq => exact (List.cons.inj heq).1 ▸ hn
    · exact hs.isName m l h
  · rw [entryAt_setEntry] at h
    have hl : s.entryAt l = some .directory := by
      split at h
      · next heq => exact (List.cons.inj heq).2 ▸ hd
      · exact hs.parent m l h
    rw [entryAt_setEntry, if_neg, hl]
    rintro rfl
    rw [hfree] at hl
    exact absurd hl (by simp)
  · rw [entryAt_setEntry] at h
    split at h
    · exact he i (by simpa using h)
    · exact hs.numbered l i h

/-- Making a file in a free place of a directory keeps a store well-formed. -/
lemma WellFormed.newFile {s : FileStore} (hs : s.WellFormed) {n : Name} {d : Location}
    (hn : Path.IsName n) (hd : s.entryAt d = some .directory) (hfree : s.entryAt (n :: d) = none)
    (c : Contents) : (s.newFile (n :: d) c).WellFormed := by
  -- the contents come first here, because the number of the file is taken when they are set
  have hnumber : s.freshId.number < (s.setContents s.freshId c).freshId.number := by
    rw [freshId_setContents]
    exact lt_of_lt_of_le (Nat.lt_succ_self _) (le_max_right _ _)
  refine (hs.setContents s.freshId c).setEntry hn ?_ ?_ fun id h => ?_
  · rw [entryAt_setContents, hd]
  · rw [entryAt_setContents, hfree]
  · obtain rfl : s.freshId = id := by simpa using h
    exact hnumber

end StaticSite.FileStore
