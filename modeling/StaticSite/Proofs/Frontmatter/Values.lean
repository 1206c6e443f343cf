import Mathlib
import StaticSite.Proofs.Frontmatter.Key

set_option relaxedAutoImplicit false
set_option autoImplicit false

/-!
# The values of metadata

Metadata is put together value by value. Its entries stay in the order of their keys, so a key has
exactly the values that were given for it, in the order in which they were given.

## Main definitions

* `StaticSite.Frontmatter.IsSorted` — the entries are in the order of their keys.
* `StaticSite.Frontmatter.addAll` — metadata with some more values.
* `StaticSite.Frontmatter.valueCount` — the number of all values.

## Main results

* `StaticSite.Frontmatter.values_addAll` — a key has the values that were given for it.
* `StaticSite.Frontmatter.valueCount_addAll` — no value is lost.
* `StaticSite.Frontmatter.contains_iff`, `StaticSite.Frontmatter.first?_eq_head?` — the look-ups of
  a key agree.
-/

namespace StaticSite.Frontmatter

/-! ## Looking up a key -/

/-- The first value of a key is the first of its values. -/
lemma first?_eq_head? (m : Frontmatter) (key : Text) : m.first? key = (m.values key).head? := by
  unfold first? values
  cases m.entryAt key <;> rfl

/-- A key was given exactly if it has values. -/
lemma contains_iff {m : Frontmatter} {key : Text} : m.contains key = true ↔ m.values key ≠ [] := by
  unfold contains values
  cases m.entryAt key <;> simp [FrontmatterEntry.values]

/-- A key was given exactly if it has a first value. -/
lemma contains_eq_isSome (m : Frontmatter) (key : Text) :
    m.contains key = (m.first? key).isSome := by
  unfold contains first?
  rw [Option.isSome_map]

/-! ## The order of the keys -/

/-- The entries are in the order of their keys, and no two have the same key. -/
def IsSorted (m : Frontmatter) : Prop := m.entries.Pairwise fun a b => a.key < b.key

/-- Without any entry they are in order. -/
private lemma isSorted_empty : IsSorted empty := List.Pairwise.nil

/-- A value is added at the place of its key.

**Proof sketch.** By induction on the entries. A value of a key at hand leaves all keys as they
are; that of a new key is put in front of the first larger one, and behind the smaller ones
(`key_of_mem_addTo`). -/
private lemma IsSorted.add {m : Frontmatter} (h : m.IsSorted) (key value : Text) :
    (m.add key value).IsSorted := by
  obtain ⟨es⟩ := m
  unfold IsSorted Frontmatter.add at *
  dsimp only at h ⊢
  induction es with
  | nil => exact List.pairwise_singleton _ _
  | cons e es ih =>
    obtain ⟨hlt, hrest⟩ := List.pairwise_cons.1 h
    unfold addTo
    split
    · exact List.pairwise_cons.2 ⟨hlt, hrest⟩
    · next hne =>
      split
      · next hbefore =>
        refine List.pairwise_cons.2 ⟨fun a ha => ?_, h⟩
        rcases List.mem_cons.1 ha with rfl | ha
        · exact hbefore
        · exact lt_trans hbefore (hlt a ha)
      · next hbefore =>
        refine List.pairwise_cons.2 ⟨fun a ha => ?_, ih hrest⟩
        rcases key_of_mem_addTo ha with hkey | ⟨a', ha', hkey⟩
        · rw [hkey]
          exact lt_of_le_of_ne (not_lt.1 hbefore) hne
        · rw [← hkey]
          exact hlt a' ha'

/-! ## Many values -/

/-- Metadata with some more values, each with its key. -/
def addAll (m : Frontmatter) (pairs : List (Text × Text)) : Frontmatter :=
  pairs.foldl (fun m p => m.add p.1 p.2) m

/-- Values are added one after the other. -/
lemma addAll_cons (m : Frontmatter) (key value : Text) (pairs : List (Text × Text)) :
    m.addAll ((key, value) :: pairs) = (m.add key value).addAll pairs := rfl

/-- **A key has the values that were given for it**, in their order, behind those it had. -/
theorem values_addAll {m : Frontmatter} (h : m.IsSorted) (pairs : List (Text × Text)) (key : Text) :
    (m.addAll pairs).values key =
      m.values key ++ (pairs.filter fun p => p.1 = key).map Prod.snd := by
  induction pairs generalizing m with
  | nil => simp [addAll]
  | cons p pairs ih =>
    obtain ⟨k, v⟩ := p
    rw [addAll_cons, ih (h.add k v)]
    by_cases hk : k = key
    · subst hk
      rw [values_add_self h]
      simp
    · rw [values_add_of_ne m v (Ne.symm hk)]
      simp [hk]

/-- The number of the values of all keys. -/
def valueCount (m : Frontmatter) : Nat := (m.entries.map fun e => e.values.length).sum

/-- One more value is one more value. -/
private lemma valueCount_add (m : Frontmatter) (key value : Text) :
    (m.add key value).valueCount = m.valueCount + 1 := by
  obtain ⟨es⟩ := m
  unfold valueCount Frontmatter.add
  dsimp only
  induction es with
  | nil => rfl
  | cons e es ih =>
    unfold addTo
    split
    · simp only [List.map_cons, List.sum_cons, FrontmatterEntry.values, List.length_cons,
        List.length_append, List.length_nil]
      omega
    · split
      · simp only [List.map_cons, List.sum_cons, FrontmatterEntry.values, List.length_cons,
          List.length_nil]
        omega
      · simp only [List.map_cons, List.sum_cons, ih]
        omega

/-- **No value is lost.** -/
theorem valueCount_addAll (m : Frontmatter) (pairs : List (Text × Text)) :
    (m.addAll pairs).valueCount = m.valueCount + pairs.length := by
  induction pairs generalizing m with
  | nil => rfl
  | cons p pairs ih =>
    obtain ⟨key, value⟩ := p
    rw [addAll_cons, ih, valueCount_add, List.length_cons]
    omega

/-- Put together from nothing, metadata has the values that were given. -/
lemma values_addAll_empty (pairs : List (Text × Text)) (key : Text) :
    (empty.addAll pairs).values key = (pairs.filter fun p => p.1 = key).map Prod.snd := by
  rw [values_addAll isSorted_empty]
  rfl

/-- Put together from nothing, metadata has as many values as were given. -/
lemma valueCount_addAll_empty (pairs : List (Text × Text)) :
    (empty.addAll pairs).valueCount = pairs.length := by
  rw [valueCount_addAll]
  exact Nat.zero_add _

/-- Metadata that was given a value is not empty. -/
lemma eq_nil_of_isEmpty {pairs : List (Text × Text)} (h : (empty.addAll pairs).isEmpty = true) :
    pairs = [] := by
  have hentries : (empty.addAll pairs).entries = [] := List.isEmpty_iff.1 h
  have hcount := valueCount_addAll_empty pairs
  rw [valueCount, hentries] at hcount
  exact List.length_eq_zero_iff.1 hcount.symm

end StaticSite.Frontmatter
