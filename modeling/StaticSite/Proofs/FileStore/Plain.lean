import Mathlib
import StaticSite.Proofs.FileStore.Child

set_option relaxedAutoImplicit false
set_option autoImplicit false

/-!
# Directories without links

Below a directory that holds neither symbolic nor hard links, different paths lead to different
files. Growth keeps it so.

## Main definitions

* `StaticSite.FileStore.Plain` — there are no links below a location.

## Main results

* `StaticSite.FileStore.Grows.plain` — growth makes no links.
-/

namespace StaticSite.FileStore

open StaticSite.Path (IsName)

/-- There are no links below a location: no symbolic ones, and no file has two names there. -/
structure Plain (s : FileStore) (base : Location) : Prop where
  /-- There is no symbolic link. -/
  noLink : ∀ l t, base <:+ l → l ≠ base → s.entryAt l ≠ some (.link t)
  /-- No file is in two places. -/
  unique : ∀ l m id, base <:+ l → l ≠ base → base <:+ m → m ≠ base →
    s.entryAt l = some (.file id) → s.entryAt m = some (.file id) → l = m

/-- The empty store holds no links. -/
lemma Plain.empty (base : Location) : Plain {} base := by
  have hnone : ∀ l e, FileStore.entryAt {} l = some e → e = .directory := by
    intro l e he
    cases l with
    | nil => simpa [FileStore.entryAt, eq_comm] using he
    | cons n d => simp [FileStore.entryAt, valueOf?] at he
  refine ⟨fun l t _ _ he => ?_, fun l m id _ _ _ _ he _ => ?_⟩
  · exact absurd (hnone l _ he) (by simp)
  · exact absurd (hnone l _ he) (by simp)

/-- What lies in a directory lies below it. -/
private lemma suffix_cons_ne (n : Name) (l : Location) : l <:+ n :: l ∧ n :: l ≠ l :=
  ⟨List.suffix_cons n l, by simp⟩

/-- A step makes no links.

**Proof sketch.** What the step adds is a directory or a file of a new number. The one is no link,
and the other is in one place only (`Step.eq_of_new`); all else was there before. -/
private lemma Step.plain {s t : FileStore} (h : Step s t) (hs : s.WellFormed) {base : Location}
    (hplain : s.Plain base) : t.Plain base := by
  have hnew : ∀ l e, t.entryAt l = some e →
      s.entryAt l = some e ∨ s.entryAt l = none ∧ (e = .directory ∨ e = .file s.freshId) :=
    fun l e he => h.entryAt_or he
  refine ⟨fun l u hl hne he => ?_, fun l m id hl hlne hm hmne hel hem => ?_⟩
  · rcases hnew l _ he with he | ⟨-, he | he⟩
    · exact hplain.noLink l u hl hne he
    · simp at he
    · simp at he
  · by_cases hid : id = s.freshId
    · subst hid
      exact h.eq_of_new hs hel hem
    · have hold : ∀ k, t.entryAt k = some (.file id) → s.entryAt k = some (.file id) := by
        intro k hk
        rcases hnew k _ hk with hk | ⟨-, hk | hk⟩
        · exact hk
        · simp at hk
        · exact absurd (by simpa using hk) hid
      exact hplain.unique l m id hl hlne hm hmne (hold l hel) (hold m hem)

/-- **Growth makes no links.** -/
theorem Grows.plain {s t : FileStore} (h : Grows s t) (hs : s.WellFormed) {base : Location}
    (hplain : s.Plain base) : t.Plain base := by
  induction h with
  | refl => exact hplain
  | tail h hstep ih => exact hstep.plain (Grows.wellFormed h hs) ih

/-! ## Paths to files -/

section Child

variable {s : FileStore} {p : Path} {l : Location} (h : s.node p = .ok (.directory l))
  (hplain : s.Plain l)

include h hplain

/-- Without links, two names of which the paths lead to one file are the same. -/
lemma Plain.eq_of_sameFile {n m : Name} (hn : IsName n) (hm : IsName m)
    (hfile : s.isFile (p.child m) = true)
    (hsame : s.sameFile (p.child n) (p.child m) = true) : n = m := by
  obtain ⟨id, hmid⟩ := isFile_iff.1 hfile
  obtain ⟨x, hx, hx'⟩ := sameFile_iff.1 hsame
  obtain rfl : x = .file id := Except.ok.inj (hx'.symm.trans hmid)
  have hlink : ∀ k t, s.entryAt (k :: l) ≠ some (.link t) := fun k t =>
    hplain.noLink _ t (suffix_cons_ne k l).1 (suffix_cons_ne k l).2
  have hel := ((node_child_eq_file_iff h hn (hlink n)).1 hx).2
  have hem := ((node_child_eq_file_iff h hm (hlink m)).1 hmid).2
  have heq := hplain.unique _ _ id (suffix_cons_ne n l).1 (suffix_cons_ne n l).2
    (suffix_cons_ne m l).1 (suffix_cons_ne m l).2 hel hem
  exact (List.cons.inj heq).1

end Child

end StaticSite.FileStore
