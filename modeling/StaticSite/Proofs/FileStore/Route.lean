import Mathlib
import StaticSite.FileStore.Resolve
import StaticSite.Proofs.Path.Child

set_option relaxedAutoImplicit false
set_option autoImplicit false

/-!
# Where steps lead

The steps of a path lead through directories and links to a place. The relation here says so step
by step, without the ways in which following a path can fail, and is what facts on paths are
proved about by induction.

## Main definitions

* `StaticSite.Place.location` — the location of a place.
* `StaticSite.FileStore.Leads` — steps lead to a place.
* `StaticSite.FileStore.Regular` — the form that the steps of a path have.

## Main results

* `StaticSite.FileStore.follow_eq_ok_iff` — steps are followed to where they lead.
* `StaticSite.FileStore.Leads.mono` — what steps lead to, they still lead to if the store grows.
* `StaticSite.FileStore.Leads.of_newFile` — a new file gives other paths nothing to lead to.
* `StaticSite.FileStore.Leads.follow_append` — a place is followed on from as if one had started
  there.
* `StaticSite.FileStore.Leads.absent_spec` — a free place has a name and lies in a directory.
-/

namespace StaticSite

/-- The location of a place. -/
def Place.location : Place → Location
  | .present l => l
  | .absent l => l

namespace FileStore

open StaticSite.Path (Component IsName)

/-- There is a directory exactly if the entry is one. -/
lemma isDirectoryAt_iff {s : FileStore} {l : Location} :
    s.isDirectoryAt l = true ↔ s.entryAt l = some .directory := by
  rw [isDirectoryAt, beq_iff_eq]

/-- Steps lead from a location to a place, through at most so many links. -/
inductive Leads (s : FileStore) (writing : Bool) :
    Nat → Location → List Component → Place → Prop where
  /-- No step leads elsewhere. -/
  | here (k : Nat) (l : Location) : Leads s writing k l [] (.present l)
  /-- A step to the root. -/
  | root {k : Nat} {l : Location} {rest : List Component} {p : Place}
      (h : Leads s writing k [] rest p) : Leads s writing k l (.root :: rest) p
  /-- A step that needs a directory and stays in it. -/
  | stay {k : Nat} {l : Location} {c : Component} {rest : List Component} {p : Place}
      (hc : c = .current ∨ c = .slash) (hl : s.entryAt l = some .directory)
      (h : Leads s writing k l rest p) : Leads s writing k l (c :: rest) p
  /-- A step to the directory above. -/
  | up {k : Nat} {l : Location} {rest : List Component} {p : Place}
      (hl : s.entryAt l = some .directory) (h : Leads s writing k l.tail rest p) :
      Leads s writing k l (.parent :: rest) p
  /-- A step to a directory or a file. -/
  | enter {k : Nat} {l : Location} {n : Name} {rest : List Component} {e : Entry} {p : Place}
      (hl : s.entryAt l = some .directory) (hw : ¬(writing = true ∧ rest = [.slash]))
      (hn : n.length ≤ nameLimit) (he : s.entryAt (n :: l) = some e)
      (hlink : ∀ t, e ≠ .link t) (h : Leads s writing k (n :: l) rest p) :
      Leads s writing k l (.name n :: rest) p
  /-- A step to a link, which is followed. -/
  | through {k : Nat} {l : Location} {n : Name} {rest : List Component} {t : Path} {p : Place}
      (hl : s.entryAt l = some .directory) (hw : ¬(writing = true ∧ rest = [.slash]))
      (hn : n.length ≤ nameLimit) (he : s.entryAt (n :: l) = some (.link t))
      (h : Leads s writing k l (t.steps ++ rest) p) : Leads s writing (k + 1) l (.name n :: rest) p
  /-- A last step to a free location. -/
  | free {k : Nat} {l : Location} {n : Name} (hl : s.entryAt l = some .directory)
      (hn : n.length ≤ nameLimit) (he : s.entryAt (n :: l) = none) :
      Leads s writing k l [.name n] (.absent (n :: l))

/-- **Steps are followed to where they lead.**

**Proof sketch.** From left to right along the recursion of `follow`: each branch that does not
fail is one way for steps to lead on, and a link starts the steps of its own path with one link
less to go. From right to left by induction on the way, where the conditions of each step choose
the branch. -/
theorem follow_eq_ok_iff {s : FileStore} {w : Bool} {k : Nat} {l : Location}
    {steps : List Component} {p : Place} :
    s.follow w k l steps = .ok p ↔ Leads s w k l steps p := by
  constructor
  · intro h
    fun_induction follow s w k l steps with
    | case1 k l =>
      obtain rfl : Place.present l = p := by simpa using h
      exact .here k l
    | case2 k l rest ih => exact .root (ih h)
    | case3 k l rest hl ih => exact .stay (Or.inl rfl) (isDirectoryAt_iff.1 hl) (ih h)
    | case4 => simp at h
    | case5 k l rest hl ih => exact .stay (Or.inr rfl) (isDirectoryAt_iff.1 hl) (ih h)
    | case6 => simp at h
    | case7 k l rest hl ih => exact .up (isDirectoryAt_iff.1 hl) (ih h)
    | case8 => simp at h
    | case9 => simp at h
    | case10 => simp at h
    | case11 => simp at h
    | case12 k l n rest hl hw hn he hrest =>
      obtain rfl : rest = [] := by simpa using hrest
      obtain rfl : Place.absent (n :: l) = p := by simpa using h
      exact .free (isDirectoryAt_iff.1 (by simpa using hl)) (not_lt.1 hn) he
    | case13 => simp at h
    | case14 k l n rest hl hw hn he ih =>
      exact .enter (isDirectoryAt_iff.1 (by simpa using hl)) hw (not_lt.1 hn) he (by simp) (ih h)
    | case15 k l n rest hl hw hn id he ih =>
      exact .enter (isDirectoryAt_iff.1 (by simpa using hl)) hw (not_lt.1 hn) he (by simp) (ih h)
    | case16 => simp at h
    | case17 l n rest hl hw hn t he k ih =>
      exact .through (isDirectoryAt_iff.1 (by simpa using hl)) hw (not_lt.1 hn) he (ih h)
  · intro h
    induction h with
    | here k l => rw [follow]
    | root _ ih => rw [follow, ih]
    | stay hc hl _ ih =>
      rcases hc with rfl | rfl <;> rw [follow, if_pos (isDirectoryAt_iff.2 hl), ih]
    | up hl _ ih => rw [follow, if_pos (isDirectoryAt_iff.2 hl), ih]
    | @enter k l n rest e p hl hw hn he hlink _ ih =>
      rw [follow]
      cases e with
      | directory => simp [isDirectoryAt_iff.2 hl, hw, not_lt.2 hn, he, ih]
      | file id => simp [isDirectoryAt_iff.2 hl, hw, not_lt.2 hn, he, ih]
      | link t => exact absurd rfl (hlink t)
    | through hl hw hn he _ ih => simp [follow, isDirectoryAt_iff.2 hl, hw, not_lt.2 hn, he, ih]
    | free hl hn he => simp [follow, isDirectoryAt_iff.2 hl, not_lt.2 hn, he]

/-- Following looks at the entries only. -/
lemma follow_congr {s t : FileStore} (h : ∀ l, t.entryAt l = s.entryAt l) (w : Bool) (k : Nat)
    (l : Location) (steps : List Component) : t.follow w k l steps = s.follow w k l steps := by
  have hdir : ∀ l, t.isDirectoryAt l = s.isDirectoryAt l := fun l => by
    rw [isDirectoryAt, isDirectoryAt, h]
  fun_induction follow s w k l steps <;> rw [follow] <;> grind

/-! ## Regular steps -/

/-- Steps of the form that those of a path have: they go to names, and to the root only at the
start. -/
structure Regular (steps : List Component) : Prop where
  /-- A step to a name goes to one. -/
  isName : ∀ n, .name n ∈ steps → IsName n
  /-- Only the first step may be to the root. -/
  root : .root ∉ steps.tail

/-- The steps of a path are regular. -/
lemma regular_steps (p : Path) : Regular p.steps :=
  ⟨fun _ h => Path.isName_of_mem_steps h, p.root_notMem_tail_steps⟩

/-- What is left of regular steps is regular. -/
private lemma Regular.tail {c : Component} {rest : List Component} (h : Regular (c :: rest)) :
    Regular rest :=
  ⟨fun n hn => h.isName n (List.mem_cons_of_mem _ hn), fun hr => h.root (List.mem_of_mem_tail hr)⟩

/-- The steps of a link's path may take the place of the first step. -/
private lemma Regular.steps_append {c : Component} {rest : List Component} (h : Regular (c :: rest))
    (t : Path) : Regular (t.steps ++ rest) := by
  refine ⟨fun n hn => ?_, fun hr => ?_⟩
  · rcases List.mem_append.1 hn with hn | hn
    · exact Path.isName_of_mem_steps hn
    · exact h.isName n (List.mem_cons_of_mem _ hn)
  · cases ht : t.steps with
    | nil =>
      rw [ht, List.nil_append] at hr
      exact h.root (List.mem_of_mem_tail hr)
    | cons d ds =>
      rw [ht, List.cons_append, List.tail_cons] at hr
      rcases List.mem_append.1 hr with hr | hr
      · exact t.root_notMem_tail_steps (by rw [ht]; exact hr)
      · exact h.root hr

/-! ## Free places -/

/-- **A free place** has a name and lies in a directory.

**Proof sketch.** By induction on the way. Only its last step comes to a free place, which is a
name in the directory reached so far; and the steps of a link's path are regular, so the name is a
proper one. -/
lemma Leads.absent_spec {s : FileStore} {w : Bool} {k : Nat} {l m : Location}
    {steps : List Component} (h : Leads s w k l steps (.absent m)) (hreg : Regular steps) :
    ∃ n d, m = n :: d ∧ IsName n ∧ s.entryAt d = some .directory ∧ s.entryAt m = none := by
  generalize hp : Place.absent m = p at h
  induction h with
  | here k l => simp at hp
  | root _ ih => exact ih hreg.tail hp
  | stay _ _ _ ih => exact ih hreg.tail hp
  | up _ _ ih => exact ih hreg.tail hp
  | enter _ _ _ _ _ _ ih => exact ih hreg.tail hp
  | through _ _ _ _ _ ih => exact ih (hreg.steps_append _) hp
  | @free k l n hl _ he =>
    obtain rfl : m = n :: l := by simpa using hp
    exact ⟨n, l, rfl, hreg.isName n List.mem_cons_self, hl, he⟩

/-! ## Growing stores -/

/-- Two entries of one kind: directories, files, or links that hold the same path. -/
def SameKind : Entry → Entry → Prop
  | .directory, .directory => True
  | .file _, .file _ => True
  | .link t, .link u => t = u
  | _, _ => False

instance (e e' : Entry) : Decidable (SameKind e e') :=
  match e, e' with
  | .directory, .directory => .isTrue trivial
  | .directory, .file _ => .isFalse id
  | .directory, .link _ => .isFalse id
  | .file _, .directory => .isFalse id
  | .file _, .file _ => .isTrue trivial
  | .file _, .link _ => .isFalse id
  | .link _, .directory => .isFalse id
  | .link _, .file _ => .isFalse id
  | .link t, .link u => inferInstanceAs (Decidable (t = u))

/-- An entry is of its own kind. -/
@[refl]
lemma SameKind.refl (e : Entry) : SameKind e e := by
  cases e <;> simp [SameKind]

/-- Only a directory is of the kind of a directory. -/
private lemma SameKind.eq_directory {e : Entry} (h : SameKind .directory e) : e = .directory := by
  cases e <;> simp_all [SameKind]

/-- Only a link that holds the same path is of the kind of a link. -/
private lemma SameKind.eq_link {t : Path} {e : Entry} (h : SameKind (.link t) e) : e = .link t := by
  cases e <;> simp_all [SameKind]

/-- Only a file is of the kind of a file. -/
lemma SameKind.eq_file {id : FileId} {e : Entry} (h : SameKind (.file id) e) :
    ∃ i, e = .file i := by
  cases e <;> simp_all [SameKind]

/-- To be of one kind goes both ways. -/
lemma SameKind.symm {e e' : Entry} (h : SameKind e e') : SameKind e' e := by
  cases e <;> cases e' <;> simp_all [SameKind]

/-- Being of one kind is transitive. -/
lemma SameKind.trans {e e' e'' : Entry} (h : SameKind e e') (h' : SameKind e' e'') :
    SameKind e e'' := by
  cases e <;> cases e' <;> cases e'' <;> simp_all [SameKind]

/-- Only a link is of the kind of a link. -/
private lemma SameKind.ne_link {e e' : Entry} (h : SameKind e e') (hlink : ∀ t, e ≠ .link t)
    (t : Path) :
    e' ≠ .link t := by
  rintro rfl
  cases e <;> simp_all [SameKind]

/-- A store has at least the entries of another, each of the same kind. -/
def Extends (s t : FileStore) : Prop :=
  ∀ l e, s.entryAt l = some e → ∃ e', t.entryAt l = some e' ∧ SameKind e e'

/-- A store has the entries that it has. -/
lemma Extends.refl (s : FileStore) : s.Extends s := fun _ e he => ⟨e, he, SameKind.refl e⟩

/-- Extending is transitive. -/
lemma Extends.trans {s t u : FileStore} (h : s.Extends t) (h' : t.Extends u) : s.Extends u := by
  intro l e he
  obtain ⟨e', he', hkind⟩ := h l e he
  obtain ⟨e'', he'', hkind'⟩ := h' l e' he'
  exact ⟨e'', he'', hkind.trans hkind'⟩

/-- **What steps lead to, they still lead to** in a store with more entries. A place that was free
may have been filled by a file or a directory.

**Proof sketch.** By induction on the way. Directories stay directories and links keep their paths,
so every step can be taken again. Only the last step differs, if the place it came to was free and
is now filled: then the name is entered. -/
theorem Leads.mono {s t : FileStore} (hst : s.Extends t) {w : Bool} {k : Nat} {l : Location}
    {steps : List Component} {p : Place} (h : Leads s w k l steps p)
    (hnew : ∀ m, p = .absent m → ∃ e, t.entryAt m = some e ∧ ∀ u, e ≠ .link u) :
    Leads t w k l steps (.present p.location) := by
  have hdir : ∀ {l}, s.entryAt l = some .directory → t.entryAt l = some .directory := by
    intro l hl
    obtain ⟨e', he', hkind⟩ := hst l _ hl
    rw [he', hkind.eq_directory]
  induction h with
  | here k l => exact .here k l
  | root _ ih => exact .root (ih hnew)
  | stay hc hl _ ih => exact .stay hc (hdir hl) (ih hnew)
  | up hl _ ih => exact .up (hdir hl) (ih hnew)
  | enter hl hw hn he hlink _ ih =>
    obtain ⟨e', he', hkind⟩ := hst _ _ he
    exact .enter (hdir hl) hw hn he' (hkind.ne_link hlink) (ih hnew)
  | through hl hw hn he _ ih =>
    obtain ⟨e', he', hkind⟩ := hst _ _ he
    exact .through (hdir hl) hw hn (by rw [he', hkind.eq_link]) (ih hnew)
  | free hl hn _ =>
    obtain ⟨e, he, hlink⟩ := hnew _ rfl
    exact .enter (hdir hl) (by simp) hn he hlink (.here _ _)

/-- From a file the steps lead nowhere else. -/
private lemma Leads.eq_of_not_directory {s : FileStore} {w : Bool} {k : Nat} {l : Location}
    {steps : List Component} {p : Place} (h : Leads s w k l steps p)
    (hl : s.entryAt l ≠ some .directory) (hroot : .root ∉ steps) : p = .present l := by
  cases h with
  | here => rfl
  | root => exact absurd List.mem_cons_self hroot
  | stay _ hdir => exact absurd hdir hl
  | up hdir => exact absurd hdir hl
  | enter hdir => exact absurd hdir hl
  | through hdir => exact absurd hdir hl
  | free hdir => exact absurd hdir hl

/-- What steps lead to after a file was made, apart from the file, they led to before.

**Proof sketch.** By induction on the way. A step that enters another place than the new file finds
there what was there before. The step to the new file itself would be the last one, as nothing lies
below a file, so it would lead to the new file. -/
lemma Leads.of_newFile {s t : FileStore} {new : Location} {id : FileId}
    (hnew : t.entryAt new = some (.file id)) (hold : ∀ l, l ≠ new → t.entryAt l = s.entryAt l)
    {w : Bool} {k : Nat} {l m : Location} {steps : List Component}
    (h : Leads t w k l steps (.present m)) (hreg : Regular steps) (hm : m ≠ new) :
    Leads s w k l steps (.present m) := by
  have hdir : ∀ {l}, t.entryAt l = some .directory → s.entryAt l = some .directory := by
    intro l hl
    rw [← hold l, hl]
    rintro rfl
    rw [hnew] at hl
    simp at hl
  generalize hp : Place.present m = p at h
  induction h with
  | here k l =>
    obtain rfl : m = l := by simpa using hp
    exact .here k m
  | root _ ih => exact .root (ih hreg.tail hp)
  | stay hc hl _ ih => exact .stay hc (hdir hl) (ih hreg.tail hp)
  | up hl _ ih => exact .up (hdir hl) (ih hreg.tail hp)
  | @enter k l n rest e p hl hw hn he hlink h ih =>
    by_cases heq : n :: l = new
    · -- nothing but the new file itself is reached from there
      have hl' : t.entryAt (n :: l) ≠ some .directory := by simp [heq, hnew]
      have := h.eq_of_not_directory hl' hreg.root
      exact absurd (by simpa [heq, ← hp] using this) hm
    · exact .enter (hdir hl) hw hn (hold _ heq ▸ he) hlink (ih hreg.tail hp)
  | @through k l n rest u p hl hw hn he _ ih =>
    have heq : n :: l ≠ new := by
      rintro heq
      rw [heq, hnew] at he
      simp at he
    exact .through (hdir hl) hw hn (hold _ heq ▸ he) (ih (hreg.steps_append _) hp)
  | free => simp at hp

/-! ## Reading and writing -/

/-- What steps lead to for writing, they lead to for reading. -/
lemma Leads.reading {s : FileStore} {w : Bool} {k : Nat} {l : Location} {steps : List Component}
    {p : Place} (h : Leads s w k l steps p) : Leads s false k l steps p := by
  induction h with
  | here k l => exact .here k l
  | root _ ih => exact .root ih
  | stay hc hl _ ih => exact .stay hc hl ih
  | up hl _ ih => exact .up hl ih
  | enter hl _ hn he hlink _ ih => exact .enter hl (by simp) hn he hlink ih
  | through hl _ hn he _ ih => exact .through hl (by simp) hn he ih
  | free hl hn he => exact .free hl hn he

/-- Steps with a slash at the end lead to directories, and lead there without it too.

**Proof sketch.** By induction on the way, with the steps in front of the slash in general. Where
the slash is the only step left, the way stays in a directory; the steps of a link are put in front
of those that are left, and so the slash is still the last one. -/
lemma Leads.of_slash {s : FileStore} {w : Bool} {k : Nat} {l : Location} {steps : List Component}
    {p : Place} (h : Leads s w k l (steps ++ [.slash]) p) :
    ∃ m, p = .present m ∧ s.entryAt m = some .directory ∧ Leads s false k l steps (.present m) := by
  generalize hsteps : steps ++ [.slash] = all at h
  induction h generalizing steps with
  | here => simp at hsteps
  | root h ih =>
    cases steps with
    | nil => simp at hsteps
    | cons c steps =>
      obtain ⟨rfl, hrest⟩ := List.cons.inj hsteps
      obtain ⟨m, hm, hdir, h'⟩ := ih hrest
      exact ⟨m, hm, hdir, .root h'⟩
  | @stay k l c rest p hc hl h ih =>
    cases steps with
    | nil =>
      obtain rfl : [] = rest := (List.cons.inj hsteps).2
      cases h
      exact ⟨l, rfl, hl, .here k l⟩
    | cons c steps =>
      obtain ⟨rfl, hrest⟩ := List.cons.inj hsteps
      obtain ⟨m, hm, hdir, h'⟩ := ih hrest
      exact ⟨m, hm, hdir, .stay hc hl h'⟩
  | up hl h ih =>
    cases steps with
    | nil => simp at hsteps
    | cons c steps =>
      obtain ⟨rfl, hrest⟩ := List.cons.inj hsteps
      obtain ⟨m, hm, hdir, h'⟩ := ih hrest
      exact ⟨m, hm, hdir, .up hl h'⟩
  | enter hl _ hn he hlink _ ih =>
    cases steps with
    | nil => simp at hsteps
    | cons c steps =>
      obtain ⟨rfl, hrest⟩ := List.cons.inj hsteps
      obtain ⟨m, hm, hdir, h'⟩ := ih hrest
      exact ⟨m, hm, hdir, .enter hl (by simp) hn he hlink h'⟩
  | @through k l n rest t p hl _ hn he _ ih =>
    cases steps with
    | nil => simp at hsteps
    | cons c steps =>
      obtain ⟨rfl, hrest⟩ := List.cons.inj hsteps
      have hall : (t.steps ++ steps) ++ [.slash] = t.steps ++ rest := by
        rw [← hrest, List.append_assoc]
        rfl
      obtain ⟨m, hm, hdir, h'⟩ := ih hall
      exact ⟨m, hm, hdir, .through hl (by simp) hn he h'⟩
  | free => simp [List.append_eq_singleton_iff] at hsteps

/-- A file that steps lead to for reading, they lead to for writing.

**Proof sketch.** By induction on the way. Reading and writing differ only in that writing does not
go through a name with a slash behind it at the end; such steps lead to a directory (`of_slash`),
and this is none. -/
lemma Leads.writing {s : FileStore} {k : Nat} {l m : Location} {steps : List Component}
    (h : Leads s false k l steps (.present m)) (hm : s.entryAt m ≠ some .directory) (w : Bool) :
    Leads s w k l steps (.present m) := by
  generalize hp : Place.present m = p at h
  induction h with
  | here k l => exact .here k l
  | root _ ih => exact .root (ih hp)
  | stay hc hl _ ih => exact .stay hc hl (ih hp)
  | up hl _ ih => exact .up hl (ih hp)
  | enter hl _ hn he hlink h ih =>
    refine .enter hl ?_ hn he hlink (ih hp)
    rintro ⟨-, rfl⟩
    subst hp
    have h' : Leads s false _ _ ([] ++ [.slash]) (.present m) := h
    obtain ⟨m', hm', hdir, -⟩ := h'.of_slash
    obtain rfl : m = m' := by simpa using hm'
    exact hm hdir
  | @through k l n rest t p hl _ hn he h ih =>
    refine .through hl ?_ hn he (ih hp)
    rintro ⟨-, rfl⟩
    subst hp
    obtain ⟨m', hm', hdir, -⟩ := h.of_slash
    obtain rfl : m = m' := by simpa using hm'
    exact hm hdir
  | free => simp at hp

/-! ## Following on -/

/-- Steps that are followed by more than a slash do not end in one. -/
private lemma append_ne_slash {more : List Component} (hne : more ≠ []) (hslash : more ≠ [.slash])
    (w : Bool) (rest : List Component) : ¬(w = true ∧ rest ++ more = [.slash]) := by
  rintro ⟨-, hrest⟩
  rcases List.append_eq_singleton_iff.1 hrest with ⟨-, h⟩ | ⟨-, h⟩
  · exact hslash h
  · exact hne h

/-- **A place is followed on from** as if one had started there, with the links that are left.
Behind a slash at the end nothing is followed on.

**Proof sketch.** By induction on the way, of which only the number of links left is kept. As more
is behind them, the last of the first steps are no longer the last, and since this is not a single
slash, the steps are taken as before (`append_ne_slash`). -/
theorem Leads.follow_append {s : FileStore} {k : Nat} {l m : Location} {steps : List Component}
    (h : Leads s false k l steps (.present m)) :
    ∃ k', ∀ w more, more ≠ [] → more ≠ [.slash] →
      s.follow w k l (steps ++ more) = s.follow w k' m more := by
  generalize hp : Place.present m = p at h
  induction h with
  | here k l =>
    obtain rfl : m = l := by simpa using hp
    exact ⟨k, fun w more _ _ => rfl⟩
  | root _ ih =>
    obtain ⟨k', hk'⟩ := ih hp
    refine ⟨k', fun w more hne hslash => ?_⟩
    rw [List.cons_append, follow, hk' w more hne hslash]
  | stay hc hl _ ih =>
    obtain ⟨k', hk'⟩ := ih hp
    refine ⟨k', fun w more hne hslash => ?_⟩
    rcases hc with rfl | rfl <;>
      rw [List.cons_append, follow, if_pos (isDirectoryAt_iff.2 hl), hk' w more hne hslash]
  | up hl _ ih =>
    obtain ⟨k', hk'⟩ := ih hp
    refine ⟨k', fun w more hne hslash => ?_⟩
    rw [List.cons_append, follow, if_pos (isDirectoryAt_iff.2 hl), hk' w more hne hslash]
  | @enter k l n rest e p hl hw hn he hlink _ ih =>
    obtain ⟨k', hk'⟩ := ih hp
    refine ⟨k', fun w more hne hslash => ?_⟩
    have hw' := append_ne_slash hne hslash w rest
    rw [List.cons_append, follow, ← hk' w more hne hslash]
    cases e with
    | directory => simp [isDirectoryAt_iff.2 hl, hw', not_lt.2 hn, he]
    | file id => simp [isDirectoryAt_iff.2 hl, hw', not_lt.2 hn, he]
    | link t => exact absurd rfl (hlink t)
  | @through k l n rest t p hl hw hn he _ ih =>
    obtain ⟨k', hk'⟩ := ih hp
    refine ⟨k', fun w more hne hslash => ?_⟩
    have hw' := append_ne_slash hne hslash w rest
    rw [List.cons_append, follow, ← hk' w more hne hslash, List.append_assoc]
    simp [isDirectoryAt_iff.2 hl, hw', not_lt.2 hn, he]
  | free => simp at hp

end FileStore

end StaticSite
