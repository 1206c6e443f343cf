import Mathlib
import StaticSite.Proofs.FileStore.Item

set_option relaxedAutoImplicit false
set_option autoImplicit false

/-!
# Stores laid over old ones

What was left of earlier work on a disk shows where the work of today has not put anything. The
same actions then succeed on such a disk, give the same results and leave it laid over in the same
way, as long as they do not need a file where a directory was left, or a directory where a file was.

## Main definitions

* `StaticSite.FileStore.Overlay` — a store shows one that is laid over an old one.
* `StaticSite.FileStore.Compatible` — two stores have no location at which their kinds differ.
* `StaticSite.FileStore.CoversOutside` — outside a location, nothing of an old store comes to light.

## Main results

* `StaticSite.FileStore.Overlay.mirrored_write`,
  `StaticSite.FileStore.Overlay.mirrored_createDirectories` — what is written or made in a store is
  written or made in the same way in a store that shows it laid over an old one.
-/

namespace StaticSite.FileStore

open StaticSite.Action (Mirrored)
open StaticSite.Path (IsName)

/-- A store shows another one laid over an old one: what the other one shows, and where that shows
nothing, what the old one shows. -/
structure Overlay (old s t : FileStore) : Prop where
  /-- The store that is laid over has no links. -/
  upper : s.LinkFree
  /-- The store that shows it has no links. -/
  whole : t.LinkFree
  /-- The paths start from the same directory. -/
  workingDirectory : t.workingDirectory = s.workingDirectory
  /-- What is seen. -/
  itemAt : ∀ l, t.itemAt l = (s.itemAt l).or (old.itemAt l)

/-- Two stores have no location at which their kinds differ. -/
def Compatible (s t : FileStore) : Prop :=
  ∀ l e e', s.entryAt l = some e → t.entryAt l = some e' → SameKind e e'

/-- Outside a location, a store has an entry wherever an old one has one. -/
def CoversOutside (base : Location) (old s : FileStore) : Prop :=
  ∀ m, ¬base <:+ m → ∀ n,
    (old.entryAt (n :: m)).isSome = true → (s.entryAt (n :: m)).isSome = true

/-- Entries that are there stay. -/
lemma CoversOutside.grows {base : Location} {old s t : FileStore} (h : CoversOutside base old s)
    (hgrows : Grows s t) : CoversOutside base old t := by
  intro m hm n hn
  obtain ⟨e, he⟩ := Option.isSome_iff_exists.1 (h m hm n hn)
  rw [hgrows.entryAt he]
  rfl

/-- Only the entries below the root have to be compared. -/
lemma compatible_of_entries {s t : FileStore}
    (h : ∀ x ∈ s.entries, ∀ y ∈ t.entries, x.1 = y.1 → SameKind x.2 y.2) : s.Compatible t := by
  intro l e e' he he'
  by_cases hl : l = []
  · subst hl
    obtain rfl : Entry.directory = e := by simpa [entryAt] using he
    obtain rfl : Entry.directory = e' := by simpa [entryAt] using he'
    exact SameKind.refl _
  · exact h _ (mem_entries hl he) _ (mem_entries hl he') rfl

/-- A store that only has what another one has, has no location that differs in kind if that one has
none. -/
lemma Compatible.of_extends {s s' t : FileStore} (h : s'.Compatible t) (hextends : s.Extends s') :
    s.Compatible t := by
  intro l e e' he he'
  obtain ⟨e₀, he₀, hkind⟩ := hextends l e he
  exact hkind.trans (h l e₀ e' he₀ he')

/-- What a store grew from has no location that differs in kind if the store has none. -/
lemma Compatible.of_grows {s s' t : FileStore} (h : s'.Compatible t) (hgrows : Grows s s') :
    s.Compatible t :=
  h.of_extends hgrows.extends

/-! ## Looking up -/

/-- What the upper store shows is seen. -/
lemma Overlay.itemAt_eq {old s t : FileStore} (h : Overlay old s t) {l : Location}
    (hl : s.entryAt l ≠ none) : t.itemAt l = s.itemAt l := by
  rw [h.itemAt l]
  cases hi : s.itemAt l with
  | none => exact absurd (itemAt_eq_none_iff.1 hi) hl
  | some i => rfl

/-- What is free in the upper store looks as it did in the old one. -/
lemma Overlay.itemAt_eq_old {old s t : FileStore} (h : Overlay old s t) {l : Location}
    (hl : s.entryAt l = none) : t.itemAt l = old.itemAt l := by
  rw [h.itemAt l, itemAt_eq_none_iff.2 hl]
  rfl

/-- There is at least what the upper store has. -/
lemma Overlay.extends {old s t : FileStore} (h : Overlay old s t) : s.Extends t := by
  intro l e he
  apply sameKind_of_itemAt (h.itemAt_eq _) he
  rw [he]
  exact Option.some_ne_none e

namespace Overlay

variable {old s t : FileStore} (h : Overlay old s t)

include h

/-- Where the old store has nothing more than the upper one, there are the same names. -/
lemma namesIn {l : Location}
    (hold : ∀ n, (old.entryAt (n :: l)).isSome = true → (s.entryAt (n :: l)).isSome = true) :
    t.namesIn l = s.namesIn l := by
  apply namesIn_congr h.upper.wellFormed h.whole.wellFormed
  intro n
  have hitem := h.itemAt (n :: l)
  rw [← isSome_itemAt t, ← isSome_itemAt s, hitem, Option.isSome_or, isSome_itemAt, isSome_itemAt]
  cases hs : (s.entryAt (n :: l)).isSome with
  | true => rfl
  | false =>
    cases ho : (old.entryAt (n :: l)).isSome with
    | false => rfl
    | true => exact absurd (hold n ho) (by simp [hs])

/-- A path to a directory of the upper store leads there. -/
lemma node_directory {p : Path} {l : Location} (hp : s.node p = .ok (.directory l)) :
    t.node p = .ok (.directory l) := by
  rw [node_eq_directory_iff] at hp ⊢
  obtain ⟨hplace, he⟩ := hp
  refine ⟨h.extends.place h.workingDirectory hplace, ?_⟩
  rw [← itemAt_eq_directory_iff, h.itemAt_eq (by simp [he]), itemAt_eq_directory_iff, he]

/-- A path to a file of the upper store leads to a file in the same place, which holds the same. -/
lemma exists_file {p : Path} {id : FileId} (hp : s.node p = .ok (.file id)) :
    ∃ l i, s.entryAt l = some (.file id) ∧ t.entryAt l = some (.file i) ∧
      t.node p = .ok (.file i) ∧ t.contentsOf i = s.contentsOf id := by
  obtain ⟨l, hplace, he⟩ := node_eq_file_iff.1 hp
  have hitem : t.itemAt l = some (.file (s.contentsOf id)) := by
    rw [h.itemAt_eq (by simp [he]), itemAt_eq_file_iff]
    exact ⟨id, he, rfl⟩
  obtain ⟨i, hi, hc⟩ := itemAt_eq_file_iff.1 hitem
  have hplace' := h.extends.place h.workingDirectory hplace
  exact ⟨l, i, he, hi, node_eq_file_iff.2 ⟨l, hplace', hi⟩, hc⟩

/-- What a file of the upper store holds is read. -/
lemma readContents {p : Path} {c : Contents} (hp : s.readContents p = .ok c) :
    t.readContents p = .ok c := by
  unfold FileStore.readContents at hp
  cases hx : s.node p with
  | error e => simp [hx] at hp
  | ok x =>
    cases x with
    | directory l => simp [hx] at hp
    | file id =>
      obtain ⟨l, i, -, -, hi, hc⟩ := h.exists_file hx
      rw [readContents_of_node hi, hc]
      simpa [hx] using hp

/-- The text of a file of the upper store is read. -/
lemma readText {p : Path} {u : Text} (hp : s.readText p = .ok u) : t.readText p = .ok u := by
  obtain ⟨id, hid, hc⟩ := node_of_readText hp
  obtain ⟨l, i, -, -, hi, hc'⟩ := h.exists_file hid
  exact readText_of_node hi (hc'.trans hc)

/-- A file of the upper store is one. -/
lemma isFile {p : Path} (hp : s.isFile p = true) : t.isFile p = true := by
  obtain ⟨id, hid⟩ := isFile_iff.1 hp
  obtain ⟨l, i, -, -, hi, -⟩ := h.exists_file hid
  exact isFile_iff.2 ⟨i, hi⟩

/-- The place of a name that the upper store has is found.

**Proof sketch.** The steps in front of the name lead to the same directory, as the lower store
only adds entries (`Leads.mono`), and the name is an entry there. -/
private lemma resolveName {p : Path} {l : Location} (hp : s.resolveName p = .ok (.present l)) :
    t.resolveName p = .ok (.present l) := by
  unfold FileStore.resolveName at hp ⊢
  split at hp
  · next n before _ =>
    cases hbad : badPath? p with
    | some e => simp [hbad] at hp
    | none =>
      simp only [hbad] at hp ⊢
      cases hq : s.follow false linkLimit s.workingDirectory before.reverse with
      | error e => simp [hq] at hp
      | ok q =>
        cases q with
        | absent m => simp [hq] at hp
        | present d =>
          have hfollow : t.follow false linkLimit t.workingDirectory before.reverse =
              .ok (.present d) := by
            rw [h.workingDirectory, follow_eq_ok_iff]
            exact (follow_eq_ok_iff.1 hq).mono h.extends (by simp)
          rw [hfollow]
          simp only [hq] at hp ⊢
          split_ifs at hp with hd hlong he
          · have hd' : t.isDirectoryAt d = true := by
              rw [isDirectoryAt_iff, ← itemAt_eq_directory_iff]
              have hs : s.entryAt d = some .directory := isDirectoryAt_iff.1 (by simpa using hd)
              rw [h.itemAt_eq (by simp [hs]), itemAt_eq_directory_iff, hs]
            have he' : (t.entryAt (n :: d)).isSome = true := by
              obtain ⟨e, hs⟩ := Option.isSome_iff_exists.1 he
              obtain ⟨e', ht, -⟩ := h.extends _ e hs
              rw [ht]
              rfl
            rw [hd', he']
            simpa [hlong] using hp
          · simp at hp
  · exact h.extends.place h.workingDirectory hp

/-- The name at the end of a path is found if the upper store has it. -/
lemma exists_entryOf {p : Path} {e : Entry} (hp : s.entryOf p = .ok e) :
    ∃ e', t.entryOf p = .ok e' := by
  unfold FileStore.entryOf at hp ⊢
  cases hq : s.resolveName p with
  | error e => simp [hq] at hp
  | ok q =>
    cases q with
    | absent m => simp [hq] at hp
    | present l =>
      rw [h.resolveName hq]
      cases hs : s.entryAt l with
      | none => simp [hq, hs] at hp
      | some e₀ =>
        obtain ⟨e', ht, -⟩ := h.extends l e₀ hs
        exact ⟨e', by simp [ht]⟩

/-! ## Changing an entry -/

/-- A change that is seen in one place of both stores leaves them laid over. -/
private lemma update {s' t' : FileStore} (hs : Grows s s') (ht : Grows t t') {l : Location}
    {i : Item} (hs' : ∀ m, s'.itemAt m = if m = l then some i else s.itemAt m)
    (ht' : ∀ m, t'.itemAt m = if m = l then some i else t.itemAt m) : Overlay old s' t' := by
  refine ⟨h.upper.grows hs, h.whole.grows ht, ?_, ?_⟩
  · rw [ht.workingDirectory, hs.workingDirectory, h.workingDirectory]
  · intro m
    rw [hs', ht']
    split
    · rfl
    · exact h.itemAt m

end Overlay

variable {old s s' : FileStore}

/-- **What is written is written as well over what was left.**

**Proof sketch.** The path fits and leads to an entry of the same directory in both stores. If a
directory was left in the place, then the written file is where the leftovers have a directory,
which they may not have; in every other case the write succeeds and both stores show the file there
(`Overlay.update`). -/
theorem Overlay.mirrored_write {p : Path} {l : Location} {n : Name} {c : Contents}
    (hp : s.node p = .ok (.directory l)) (hn : IsName n)
    (hrun : write (p.child n) c s = .ok () s') (hold : s'.Compatible old) :
    Mirrored (Overlay old) (write (p.child n) c) s () s' := by
  intro t h
  have hp' := h.node_directory hp
  obtain ⟨hfits, hcases⟩ := (write_child_eq_ok_iff hp hn h.upper).1 hrun
  have hitem := itemAt_of_write hp hn h.upper hrun
  obtain ⟨t', ht'⟩ : ∃ t', write (p.child n) c t = .ok () t' := by
    cases he : t.entryAt (n :: l) with
    | none => exact ⟨_, (write_child_eq_ok_iff hp' hn h.whole).2 ⟨hfits, Or.inl ⟨he, rfl⟩⟩⟩
    | some e =>
      cases e with
      | file i =>
        exact ⟨_, (write_child_eq_ok_iff hp' hn h.whole).2 ⟨hfits, Or.inr ⟨i, he, rfl⟩⟩⟩
      | link u => exact absurd he (h.whole.entryAt_ne_link _ u)
      | directory =>
        exfalso
        rw [← itemAt_eq_directory_iff] at he
        rcases hcases with ⟨hfree, -⟩ | ⟨id, hid, -⟩
        · -- a directory was left where a file is needed
          rw [h.itemAt_eq_old hfree, itemAt_eq_directory_iff] at he
          obtain ⟨i, hi, -⟩ := itemAt_eq_file_iff.1 ((hitem (n :: l)).trans (if_pos rfl))
          exact hold _ _ _ hi he
        · rw [h.itemAt_eq (by simp [hid]), itemAt_eq_directory_iff, hid] at he
          simp at he
  exact ⟨t', ht', h.update (.single (.write (writes_of_write hrun)))
    (.single (.write (writes_of_write ht'))) hitem (itemAt_of_write hp' hn h.whole ht')⟩

/-- **A directory that is made is made as well over what was left**, or was left there.

**Proof sketch.** As for a write, with the kinds the other way round: a file in the place would be
a leftover where the run makes a directory, and a directory in the place may stay as it is. -/
theorem Overlay.mirrored_createDirectories {p : Path} {l : Location} {n : Name}
    (hp : s.node p = .ok (.directory l)) (hn : IsName n)
    (hrun : createDirectories (p.child n) s = .ok () s') (hold : s'.Compatible old) :
    Mirrored (Overlay old) (createDirectories (p.child n)) s () s' := by
  intro t h
  have hp' := h.node_directory hp
  obtain ⟨hfits, hcases⟩ := (createDirectories_child_eq_ok_iff hp hn h.upper).1 hrun
  have hitem := itemAt_of_createDirectories hp hn h.upper hrun
  obtain ⟨t', ht'⟩ : ∃ t', createDirectories (p.child n) t = .ok () t' := by
    cases he : t.entryAt (n :: l) with
    | none =>
      exact ⟨_, (createDirectories_child_eq_ok_iff hp' hn h.whole).2 ⟨hfits, Or.inl ⟨he, rfl⟩⟩⟩
    | some e =>
      cases e with
      | directory =>
        exact ⟨_, (createDirectories_child_eq_ok_iff hp' hn h.whole).2 ⟨hfits, Or.inr ⟨he, rfl⟩⟩⟩
      | link u => exact absurd he (h.whole.entryAt_ne_link _ u)
      | file i =>
        exfalso
        have hi : t.itemAt (n :: l) = some (.file (t.contentsOf i)) :=
          itemAt_eq_file_iff.2 ⟨i, he, rfl⟩
        rcases hcases with ⟨hfree, -⟩ | ⟨hd, -⟩
        · -- a file was left where a directory is needed
          rw [h.itemAt_eq_old hfree] at hi
          obtain ⟨j, hj, -⟩ := itemAt_eq_file_iff.1 hi
          have hd := itemAt_eq_directory_iff.1 ((hitem (n :: l)).trans (if_pos rfl))
          exact hold _ _ _ hd hj
        · rw [h.itemAt_eq (by simp [hd]), itemAt_eq_directory_iff.2 hd] at hi
          simp at hi
  have hgrows : ∀ {a b : FileStore}, createDirectories (p.child n) a = .ok () b → Grows a b :=
    fun hab => (keeps_createDirectories (fun _ _ hstep ha => Relation.ReflTransGen.tail ha hstep)
      _).of_eq_ok hab .refl
  exact ⟨t', ht', h.update (hgrows hrun) (hgrows ht') hitem
    (itemAt_of_createDirectories hp' hn h.whole ht')⟩

/-- A file that is overwritten is overwritten as well over what was left. -/
lemma Overlay.mirrored_overwrite {p : Path} {id : FileId} (hp : s.node p = .ok (.file id))
    (c : Contents) : Mirrored (Overlay old) (write p c) s () (s.setContents id c) := by
  intro t h
  obtain ⟨l, i, he, hi, hnode, -⟩ := h.exists_file hp
  exact ⟨_, write_of_node hnode c, h.update (.single (.write (writes_setContents hp c)))
    (.single (.write (writes_setContents hnode c))) (h.upper.itemAt_setContents he c)
    (h.whole.itemAt_setContents hi c)⟩

end StaticSite.FileStore
