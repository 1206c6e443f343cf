import Mathlib
import StaticSite.Frontmatter.Document

set_option relaxedAutoImplicit false
set_option autoImplicit false

/-!
# The keys of a document

Keys are read in small letters, so none of them is a name that is known otherwise: these are
written in capitals.

## Main definitions

* `StaticSite.Frontmatter.HasSmallKeys` — no key holds a capital.

## Main results

* `StaticSite.Frontmatter.hasSmallKeys_split` — no key of a document holds a capital.
* `StaticSite.Frontmatter.first?_of_capital` — a name with a capital has no value.
-/

namespace StaticSite.Frontmatter

/-- No key holds a capital. -/
def HasSmallKeys (m : Frontmatter) : Prop := ∀ e ∈ m.entries, ∀ c ∈ e.key, c.isUpper = false

/-- The keys after a value was added are those at hand and the key of the value. -/
lemma key_of_mem_addTo {key value : Text} {es : List FrontmatterEntry} {e : FrontmatterEntry}
    (h : e ∈ addTo key value es) : e.key = key ∨ ∃ e' ∈ es, e'.key = e.key := by
  induction es with
  | nil =>
    rw [addTo, List.mem_singleton] at h
    exact Or.inl (by rw [h])
  | cons a es ih =>
    unfold addTo at h
    split at h
    · rcases List.mem_cons.1 h with rfl | h
      · exact Or.inr ⟨a, List.mem_cons_self, rfl⟩
      · exact Or.inr ⟨e, List.mem_cons_of_mem _ h, rfl⟩
    · split at h
      · rcases List.mem_cons.1 h with rfl | h
        · exact Or.inl rfl
        · exact Or.inr ⟨e, h, rfl⟩
      · rcases List.mem_cons.1 h with rfl | h
        · exact Or.inr ⟨e, List.mem_cons_self, rfl⟩
        · rcases ih h with hkey | ⟨e', he', hkey⟩
          · exact Or.inl hkey
          · exact Or.inr ⟨e', List.mem_cons_of_mem _ he', hkey⟩

/-- A value for a small key keeps all keys small. -/
private lemma HasSmallKeys.add {m : Frontmatter} (h : HasSmallKeys m) {key : Text}
    (hkey : ∀ c ∈ key, c.isUpper = false) (value : Text) : HasSmallKeys (m.add key value) := by
  intro e he
  rcases key_of_mem_addTo he with heq | ⟨e', he', heq⟩
  · rw [heq]
    exact hkey
  · rw [← heq]
    exact h e' he'

/-- A text in small letters holds no capital. -/
private lemma isUpper_of_mem_toLowerAscii {t : Text} :
    ∀ c ∈ Text.toLowerAscii t, c.isUpper = false := by
  intro c hc
  obtain ⟨d, -, rfl⟩ := List.mem_map.1 hc
  exact Char.isUpper_toLower_eq_false d

/-- Only small letters of a key are kept from a line. -/
private lemma isUpper_of_entry {line key value : Text} (h : Line.of line = .entry key value) :
    ∀ c ∈ key, c.isUpper = false := by
  unfold Line.of at h
  dsimp only at h
  split_ifs at h
  split at h
  · next k v _ =>
    obtain ⟨rfl, -⟩ : Text.toLowerAscii k = key ∧ v = value := by simpa using h
    exact isUpper_of_mem_toLowerAscii
  · split at h <;> simp at h

/-- Reading lines keeps all keys small.

**Proof sketch.** By induction on the lines. A value is added under the key of its own line or
under the one before, and both are in small letters. -/
private lemma hasSmallKeys_readLines {m : Frontmatter} {current : Option Text} {lines : List Text}
    (h : HasSmallKeys m) (hcurrent : ∀ key ∈ current, ∀ c ∈ key, c.isUpper = false) :
    HasSmallKeys (readLines m current lines).1 := by
  induction lines generalizing m current with
  | nil => exact h
  | cons line rest ih =>
    unfold readLines
    split
    · exact h
    · next key value hline =>
      have hkey := isUpper_of_entry hline
      exact ih (h.add hkey value) (by simpa using hkey)
    · next value _ =>
      split
      · next key =>
        have hkey := hcurrent key rfl
        exact ih (h.add hkey value) (by simpa using hkey)
      · exact h
    · exact h

/-- **No key of a document holds a capital.** -/
theorem hasSmallKeys_split (document : Text) : HasSmallKeys (split document).1 :=
  hasSmallKeys_readLines (fun _ he => absurd he (by simp [empty])) (by simp)

/-- A name with a capital has no value. -/
lemma first?_of_capital {m : Frontmatter} (h : HasSmallKeys m) {name : Text}
    (hname : ∃ c ∈ name, c.isUpper = true) : m.first? name = none := by
  rw [first?, Option.map_eq_none_iff, entryAt, List.find?_eq_none]
  intro e he heq
  obtain ⟨c, hc, hupper⟩ := hname
  obtain rfl : e.key = name := by simpa using heq
  rw [h e he c hc] at hupper
  exact absurd hupper (by simp)

end StaticSite.Frontmatter
