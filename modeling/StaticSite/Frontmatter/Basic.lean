import StaticSite.Placeholder.Resolve

set_option relaxedAutoImplicit false
set_option autoImplicit false

/-!
# Frontmatter

The metadata of a document: keys with one or more values each. A placeholder with the name of
a key stands for the key's first value.

## Main definitions

* `StaticSite.Frontmatter` — metadata, its entries in the order of their keys.
* `StaticSite.Frontmatter.add` — one more value for a key.
* `StaticSite.Frontmatter.resolver` — placeholders stand for first values.

## Main results

* `StaticSite.Frontmatter.values_add_self` — a value is added behind the earlier values of its
  key.
* `StaticSite.Frontmatter.values_add_of_ne` — it changes the values of no other key.
-/

namespace StaticSite

/-- A key with its values. -/
structure FrontmatterEntry where
  /-- The key. -/
  key : Text
  /-- The value that was given first. -/
  first : Text
  /-- The values given after it, in order. -/
  more : List Text
deriving DecidableEq, Repr

/-- All values of an entry, in the order in which they were given. -/
def FrontmatterEntry.values (e : FrontmatterEntry) : List Text := e.first :: e.more

/-- The metadata of a document. -/
structure Frontmatter where
  /-- The entries, in the order of their keys. -/
  entries : List FrontmatterEntry
deriving DecidableEq, Repr

namespace Frontmatter

/-- Metadata without any key. -/
def empty : Frontmatter := ⟨[]⟩

/-- Whether there is no key. -/
def isEmpty (m : Frontmatter) : Bool := m.entries.isEmpty

/-- The number of keys. -/
def size (m : Frontmatter) : Nat := m.entries.length

/-- The entry of a key. -/
def entryAt (m : Frontmatter) (key : Text) : Option FrontmatterEntry :=
  m.entries.find? fun e => e.key == key

/-- The first value of a key. -/
def first? (m : Frontmatter) (key : Text) : Option Text :=
  (m.entryAt key).map FrontmatterEntry.first

/-- All values of a key; there are none for a key that was not given. -/
def values (m : Frontmatter) (key : Text) : List Text :=
  match m.entryAt key with
  | none => []
  | some e => e.values

/-- Whether a key was given. -/
def contains (m : Frontmatter) (key : Text) : Bool := (m.entryAt key).isSome

/-- Entries with one more value for a key: behind the values of that key, or as a new entry at
the key's place in the order. -/
def addTo (key value : Text) : List FrontmatterEntry → List FrontmatterEntry
  | [] => [⟨key, value, []⟩]
  | e :: rest =>
    if e.key = key then ⟨e.key, e.first, e.more ++ [value]⟩ :: rest
    else if key < e.key then ⟨key, value, []⟩ :: e :: rest
    else e :: addTo key value rest

/-- Metadata with one more value for a key. -/
def add (m : Frontmatter) (key value : Text) : Frontmatter := ⟨addTo key value m.entries⟩

/-- A placeholder named as a key stands for the key's first value; every other name is
unknown. -/
def resolver (m : Frontmatter) : Resolver := fun name =>
  match m.first? name with
  | some value => .value value
  | none => .unknown

/-! ## The values after one is added -/

/-- Adding a value appends it to the values of its key. -/
theorem values_add_self {m : Frontmatter} {key value : Text}
    (h : m.entries.Pairwise fun a b => a.key < b.key) :
    (m.add key value).values key = m.values key ++ [value] := by
  obtain ⟨es⟩ := m
  simp only [values, add, entryAt] at h ⊢
  induction es with
  | nil => simp [addTo, FrontmatterEntry.values]
  | cons e es ih =>
    obtain ⟨hlt, hrest⟩ := List.pairwise_cons.1 h
    by_cases heq : e.key = key
    · simp [addTo, heq, FrontmatterEntry.values]
    · by_cases hbefore : key < e.key
      · have hnone : es.find? (fun e => e.key == key) = none := by
          refine List.find?_eq_none.2 fun a ha => ?_
          have hlt' : key < a.key := List.lt_trans hbefore (hlt a ha)
          have : a.key ≠ key := fun hak => List.lt_irrefl key (hak ▸ hlt')
          simpa using this
        simp [addTo, heq, hbefore, hnone, FrontmatterEntry.values]
      · simpa [addTo, heq, hbefore] using ih hrest

/-- Adding a value changes the values of no other key. -/
theorem values_add_of_ne (m : Frontmatter) {key other : Text} (value : Text)
    (h : other ≠ key) : (m.add key value).values other = m.values other := by
  obtain ⟨es⟩ := m
  simp only [values, add, entryAt]
  induction es with
  | nil => simp [addTo, h.symm]
  | cons e es ih =>
    by_cases heq : e.key = key
    · simp [addTo, heq, h.symm]
    · by_cases hbefore : key < e.key
      · simp [addTo, heq, hbefore, h.symm]
      · by_cases ho : e.key = other
        · rw [addTo, if_neg heq, if_neg hbefore]
          simp [ho]
        · simpa [addTo, heq, hbefore, ho] using ih

end Frontmatter

end StaticSite
