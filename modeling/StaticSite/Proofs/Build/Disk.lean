import Mathlib
import StaticSite.Proofs.Build.Growth
import StaticSite.Proofs.FileStore.Item

set_option relaxedAutoImplicit false
set_option autoImplicit false

/-!
# Disks

A disk is what changes make of an empty one: files are written, copied and removed, directories and
links are made, and sites are built. Some of these fail, and a build may fail half way. All disks
are well-formed, and where no link was made there is none.

## Main definitions

* `StaticSite.Change`, `StaticSite.Change.apply` — a change, and the disk after it.
* `StaticSite.made` — the disk that some changes make.

## Main results

* `StaticSite.wellFormed_made` — every disk is well-formed.
* `StaticSite.linkFree_made` — a disk on which no link was made has none.
-/

namespace StaticSite

open StaticSite.Action
open StaticSite.FileStore (Grows LinkFree)

namespace FileStore

/-! ## Removal -/

/-- Leaving out some keys leaves the others their values. -/
private lemma valueOf?_filter {α β : Type} [DecidableEq α] (keep : α → Bool) (key : α)
    (xs : List (α × β)) :
    valueOf? key (xs.filter fun x => keep x.1) = if keep key then valueOf? key xs else none := by
  induction xs with
  | nil => simp [valueOf?]
  | cons x xs ih =>
    obtain ⟨k, v⟩ := x
    by_cases hk : keep k = true
    · rw [List.filter_cons, if_pos hk, valueOf?, valueOf?, ih]
      by_cases hkey : key = k
      · subst hkey
        simp [hk]
      · simp [hkey]
    · rw [List.filter_cons, if_neg hk, ih, valueOf?]
      by_cases hkey : key = k
      · subst hkey
        simp [hk]
      · simp [hkey]

/-- A location lies at or below another if that is where it ends.

**Proof sketch.** By induction on the location: the names below the base can be told exactly if the
location has the base at its end and is longer. -/
private lemma isWithin_iff {base l : Location} : isWithin base l = true ↔ base <:+ l := by
  have hbelow : (namesBelow? base l).isSome = true ↔ base <:+ l ∧ l ≠ base := by
    induction l with
    | nil => simp [namesBelow?]
    | cons n d ih =>
      unfold namesBelow?
      by_cases hd : d = base
      · subst hd
        simp
      · rw [if_neg hd, Option.isSome_map, ih, List.suffix_cons_iff]
        constructor
        · rintro ⟨hsuffix, -⟩
          refine ⟨Or.inr hsuffix, ?_⟩
          rintro rfl
          exact absurd hsuffix.length_le (by simp)
        · rintro ⟨heq | hsuffix, hne⟩
          · exact absurd heq.symm hne
          · exact ⟨hsuffix, hd⟩
  rw [isWithin, Bool.or_eq_true, hbelow, beq_iff_eq]
  constructor
  · rintro (rfl | ⟨hsuffix, -⟩)
    · exact List.suffix_rfl
    · exact hsuffix
  · intro hsuffix
    by_cases heq : l = base
    · exact Or.inl heq
    · exact Or.inr ⟨hsuffix, heq⟩

/-- The store without an entry and all below it. -/
def without (s : FileStore) (l : Location) : FileStore :=
  { s with entries := s.entries.filter fun entry => !isWithin l entry.1 }

/-- The root stays, and so does every entry that is neither the one that is removed nor below it. -/
private lemma entryAt_without (s : FileStore) (l m : Location) :
    (s.without l).entryAt m = if m ≠ [] ∧ l <:+ m then none else s.entryAt m := by
  cases m with
  | nil => simp [entryAt]
  | cons n d =>
    show valueOf? (n :: d) (s.entries.filter fun entry => !isWithin l entry.1) = _
    rw [valueOf?_filter fun m => !isWithin l m]
    by_cases h : l <:+ n :: d
    · simp [h, isWithin_iff.2 h]
    · have hwithin : isWithin l (n :: d) = false := by
        rw [← Bool.not_eq_true, isWithin_iff]
        exact h
      simp [h, hwithin, entryAt]

/-- What is left after a removal was there before. -/
private lemma entryAt_of_without {s : FileStore} {l m : Location} {e : Entry}
    (h : (s.without l).entryAt m = some e) : s.entryAt m = some e := by
  rw [entryAt_without] at h
  split at h
  · simp at h
  · exact h

/-- Removing an entry with all below it keeps a store well-formed. -/
private lemma WellFormed.without {s : FileStore} (hs : s.WellFormed) (l : Location) :
    (s.without l).WellFormed := by
  have hold : ∀ {m}, ((s.without l).entryAt m).isSome = true → (s.entryAt m).isSome = true := by
    intro m hm
    obtain ⟨e, he⟩ := Option.isSome_iff_exists.1 hm
    exact Option.isSome_iff_exists.2 ⟨e, entryAt_of_without he⟩
  refine ⟨?_, fun n d h => hs.isName n d (hold h), fun n d h => ?_, fun m id h => ?_⟩
  · exact hs.nodup.sublist (List.filter_sublist.map _)
  · -- a directory that goes takes what lies in it along
    have hd := hs.parent n d (hold h)
    rw [entryAt_without] at h ⊢
    rw [if_neg, hd]
    rintro ⟨-, hsuffix⟩
    rw [if_pos ⟨List.cons_ne_nil n d, hsuffix.trans (List.suffix_cons n d)⟩] at h
    simp at h
  · exact hs.numbered m id (entryAt_of_without h)

/-- Removing an entry makes no links. -/
private lemma LinkFree.without {s : FileStore} (hs : s.LinkFree) (l : Location) :
    (s.without l).LinkFree := by
  refine ⟨hs.wellFormed.without l, fun m t hm hne he => ?_,
    fun m m' id hm hne hm' hne' he he' => ?_⟩
  · exact hs.plain.noLink m t hm hne (entryAt_of_without he)
  · exact hs.plain.unique m m' id hm hne hm' hne' (entryAt_of_without he) (entryAt_of_without he')

/-- **What a path names is removed**, or nothing is changed. -/
theorem remove_cases (p : Path) (s : FileStore) :
    (∃ l, s.resolveName p = .ok (.present l) ∧ remove p s = .ok () (s.without l)) ∨
    ∃ e, remove p s = .error e s := by
  unfold remove
  rw [look_bind]
  cases h : s.resolveName p with
  | error e => exact Or.inr ⟨e, rfl⟩
  | ok q =>
    cases q with
    | absent l => exact Or.inr ⟨.notFound, rfl⟩
    | present l => exact Or.inl ⟨l, rfl, rfl⟩

/-! ## New entries -/

/-- Putting an entry into a free place keeps a store well-formed if the entry is no file of a number
to come. -/
private lemma wellFormed_addEntry {s : FileStore} (hs : s.WellFormed) (p : Path) {e : Entry}
    (he : ∀ id, e = .file id → id.number < s.freshId.number) :
    (stateAfter (addEntry p e) s).WellFormed := by
  unfold stateAfter
  rcases addEntry_cases p e s with ⟨m, hm, h⟩ | ⟨error, h⟩
  · rw [h]
    obtain ⟨n, d, rfl, hn, hd, hfree⟩ := resolveName_absent_spec hm
    exact hs.setEntry hn hd hfree he
  · rw [h]
    exact hs

/-- Giving a file one more name keeps a store well-formed.

**Proof sketch.** The new entry is that of the existing name, and the number of a file that has an
entry is not one to come. So the entry may be added (`wellFormed_addEntry`). -/
private lemma wellFormed_addName {s : FileStore} (hs : s.WellFormed) (p existing : Path) :
    (stateAfter (addName p existing) s).WellFormed := by
  cases hentry : s.entryOf existing with
  | error error =>
    have hrun : addName p existing s = .error error s := by
      unfold addName
      rw [look_bind, hentry]
    rw [stateAfter, hrun]
    exact hs
  | ok e =>
    have hrun : addName p existing s = addEntry p e s := by
      unfold addName
      rw [look_bind, hentry]
    rw [stateAfter, hrun]
    apply wellFormed_addEntry hs p
    rintro id rfl
    unfold entryOf at hentry
    cases hq : s.resolveName existing with
    | error error => simp [hq] at hentry
    | ok q =>
      cases q with
      | absent l => simp [hq] at hentry
      | present l =>
        rw [hq] at hentry
        cases hl : s.entryAt l with
        | none => simp [hl] at hentry
        | some e =>
          obtain rfl : e = .file id := by simpa [hl] using hentry
          exact hs.numbered l id hl

end FileStore

/-! ## Changes -/

/-- A change to a disk. -/
inductive Change where
  /-- A file is written. -/
  | write (p : Path) (c : Contents)
  /-- A directory is made, and the directories above it. -/
  | makeDirectories (p : Path)
  /-- A file is copied. -/
  | copy (p q : Path)
  /-- A site is built. -/
  | build (source target : Path) (config : Config)
  /-- An entry is removed with all below it. -/
  | remove (p : Path)
  /-- A symbolic link is made. -/
  | link (p target : Path)
  /-- A file is given one more name. -/
  | name (p existing : Path)

namespace Change

/-- The disk after a change, whether it succeeded or failed. -/
def apply (s : FileStore) : Change → FileStore
  | write p c => stateAfter (FileStore.write p c) s
  | makeDirectories p => stateAfter (FileStore.createDirectories p) s
  | copy p q => stateAfter (FileStore.copyFile p q) s
  | build source target config => (stateAfter (buildSiteWith source target config) ⟨s, []⟩).store
  | remove p => stateAfter (FileStore.remove p) s
  | link p target => stateAfter (FileStore.addLink p target) s
  | name p existing => stateAfter (FileStore.addName p existing) s

/-- A change other than making a link. -/
def MakesNoLink : Change → Prop
  | link _ _ | name _ _ => False
  | _ => True

/-- A change that makes no link removes an entry or grows the disk.

**Proof sketch.** By cases on the change. Writing, making directories, copying and building only
make the disk grow; removing leaves out one entry if it succeeds. -/
private lemma grows_or_without (s : FileStore) {change : Change} (h : change.MakesNoLink) :
    Grows s (change.apply s) ∨ ∃ l, change.apply s = s.without l := by
  cases change with
  | write p c =>
    exact Or.inl
      (FileStore.keeps_write (fun t u hstep => Grows.step t u (.write hstep)) p c s .refl)
  | makeDirectories p => exact Or.inl (FileStore.keeps_createDirectories Grows.step p s .refl)
  | copy p q => exact Or.inl (FileStore.keeps_copyFile Grows.step p q s .refl)
  | build source target config => exact Or.inl (grows_buildSiteWith source target config ⟨s, []⟩)
  | remove p =>
    show Grows s (stateAfter (FileStore.remove p) s) ∨ ∃ l, stateAfter (FileStore.remove p) s = _
    unfold stateAfter
    rcases FileStore.remove_cases p s with ⟨l, -, hrun⟩ | ⟨e, hrun⟩
    · rw [hrun]
      exact Or.inr ⟨l, rfl⟩
    · rw [hrun]
      exact Or.inl .refl
  | link p target => exact h.elim
  | name p existing => exact h.elim

/-- A change keeps a disk well-formed. -/
private lemma wellFormed_apply {s : FileStore} (hs : s.WellFormed) (change : Change) :
    (change.apply s).WellFormed := by
  have hother : change.MakesNoLink → (change.apply s).WellFormed := by
    intro h
    rcases grows_or_without s h with hgrows | ⟨l, heq⟩
    · exact hgrows.wellFormed hs
    · rw [heq]
      exact hs.without l
  cases change with
  | link p target => exact FileStore.wellFormed_addEntry hs p (by simp)
  | name p existing => exact FileStore.wellFormed_addName hs p existing
  | _ => exact hother trivial

/-- A change other than making a link makes none. -/
private lemma linkFree_apply {s : FileStore} (hs : s.LinkFree) {change : Change}
    (h : change.MakesNoLink) : (change.apply s).LinkFree := by
  rcases grows_or_without s h with hgrows | ⟨l, heq⟩
  · exact hs.grows hgrows
  · rw [heq]
    exact hs.without l

end Change

/-! ## Disks -/

/-- The disk that some changes make of an empty one, one after the other. -/
def made (changes : List Change) : FileStore := changes.foldl Change.apply {}

/-- **Every disk is well-formed.** -/
theorem wellFormed_made (changes : List Change) : (made changes).WellFormed := by
  have hall : ∀ s : FileStore, s.WellFormed → (changes.foldl Change.apply s).WellFormed := by
    induction changes with
    | nil => exact fun _ hs => hs
    | cons change changes ih => exact fun s hs => ih _ (change.wellFormed_apply hs)
  exact hall {} FileStore.WellFormed.empty

/-- **A disk on which no link was made has none.** -/
theorem linkFree_made {changes : List Change} (h : ∀ change ∈ changes, change.MakesNoLink) :
    (made changes).LinkFree := by
  have hall : ∀ s : FileStore, s.LinkFree → (changes.foldl Change.apply s).LinkFree := by
    induction changes with
    | nil => exact fun _ hs => hs
    | cons change changes ih =>
      intro s hs
      refine ih (fun c hc => h c (List.mem_cons_of_mem _ hc)) _ ?_
      exact Change.linkFree_apply hs (h change List.mem_cons_self)
  exact hall {} ⟨FileStore.WellFormed.empty, FileStore.Plain.empty []⟩

end StaticSite
