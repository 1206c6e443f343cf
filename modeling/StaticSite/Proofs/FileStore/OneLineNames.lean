import Mathlib
import StaticSite.Proofs.Build.Growth
import StaticSite.Proofs.Path.OneLine

set_option relaxedAutoImplicit false
set_option autoImplicit false

/-!
# File names on one line

If all names on a disk are on one line, then a path that leads to something is, and what is made at
a path on one line has its name on one line. A link that leads nowhere holds names too: a file
written through it is made with the last of them.

## Main definitions

* `StaticSite.FileStore.HasOneLineNames` — the names and the paths in links are on one line.

## Main results

* `StaticSite.FileStore.HasOneLineNames.of_node` — a path that leads to something is on one line.
* `StaticSite.FileStore.keeps_oneLineNames_write`,
  `StaticSite.FileStore.keeps_oneLineNames_createDirectory` — the steps, at paths on one line.
* `StaticSite.keeps_oneLineNames_copyTree` — a copied tree.
* `StaticSite.Build.keeps_oneLineNames_pages` — the pages that are built.
-/

namespace StaticSite

open StaticSite.Action
open StaticSite.Path (Component)
open StaticSite.Text (IsOneLine)

namespace FileStore

/-- A store whose names are on one line as they are shown, those in the paths that links hold
included. -/
structure HasOneLineNames (s : FileStore) : Prop where
  /-- The name of an entry is on one line. -/
  name : ∀ n d, (s.entryAt (n :: d)).isSome = true → IsOneLine (Name.text n)
  /-- The path in a link is on one line. -/
  target : ∀ l p, s.entryAt l = some (.link p) → IsOneLine p.text

namespace HasOneLineNames

variable {s : FileStore} (hs : s.HasOneLineNames)

include hs

/-! ## Where steps lead -/

/-- The names on a way to something are on one line.

**Proof sketch.** By induction on the way. Each name on it is that of an entry, whose name is on
one line; the steps of a link are put in front and do not matter. -/
private lemma of_leads {w : Bool} {k : ℕ} {l m : Location} {steps : List Component}
    (h : Leads s w k l steps (.present m)) {n : Name} (hn : .name n ∈ steps) :
    IsOneLine n.text := by
  generalize hp : Place.present m = p at h
  induction h with
  | here => simp at hn
  | root _ ih => exact ih (by simpa using hn) hp
  | stay hc _ _ ih =>
    rcases hc with rfl | rfl <;> exact ih (by simpa using hn) hp
  | up _ _ ih => exact ih (by simpa using hn) hp
  | enter _ _ _ he _ _ ih =>
    rcases List.mem_cons.1 hn with heq | hn
    · obtain rfl := Component.name.inj heq
      exact hs.name _ _ (by rw [he]; rfl)
    · exact ih hn hp
  | through _ _ _ he _ ih =>
    rcases List.mem_cons.1 hn with heq | hn
    · obtain rfl := Component.name.inj heq
      exact hs.name _ _ (by rw [he]; rfl)
    · exact ih (List.mem_append_right _ hn) hp
  | free => simp at hp

/-- A free place has a name on one line if the names on the way there are.

**Proof sketch.** By induction on the way. The steps of a link are on one line because its path is,
and the free place is named by the last step. -/
private lemma of_leads_absent {w : Bool} {k : ℕ} {l d : Location} {n : Name}
    {steps : List Component} (h : Leads s w k l steps (.absent (n :: d)))
    (hsteps : ∀ n, .name n ∈ steps → IsOneLine (Name.text n)) :
    IsOneLine n.text := by
  generalize hp : Place.absent (n :: d) = p at h
  induction h with
  | here => simp at hp
  | root _ ih | stay _ _ _ ih | up _ _ ih | enter _ _ _ _ _ _ ih =>
    exact ih (fun m hm => hsteps m (List.mem_cons_of_mem _ hm)) hp
  | through _ _ _ he _ ih =>
    refine ih (fun m hm => ?_) hp
    rcases List.mem_append.1 hm with hm | hm
    · exact Path.isOneLine_of_mem_steps (hs.target _ _ he) hm
    · exact hsteps m (List.mem_cons_of_mem _ hm)
  | free =>
    obtain ⟨rfl, -⟩ := List.cons.inj (Place.absent.inj hp)
    exact hsteps _ List.mem_cons_self

/-- **A path that leads to something** is on one line. -/
theorem of_node {p : Path} {x : Node} (h : s.node p = .ok x) : IsOneLine p.text := by
  obtain ⟨l, hl⟩ : ∃ l, s.place false p = .ok (.present l) := by
    cases x with
    | directory l => exact ⟨l, (node_eq_directory_iff.1 h).1⟩
    | file id => exact (node_eq_file_iff.1 h).imp fun _ h => h.1
  exact Path.isOneLine_of_names fun n hn => hs.of_leads (place_eq_ok_iff.1 hl).2 hn

/-- The free place that a path on one line leads to has a name on one line. -/
private lemma of_place_absent {w : Bool} {p : Path} (hp : IsOneLine p.text) {n : Name}
    {d : Location} (h : s.place w p = .ok (.absent (n :: d))) : IsOneLine n.text :=
  hs.of_leads_absent (place_eq_ok_iff.1 h).2 fun _ hm => Path.isOneLine_of_mem_steps hp hm

/-- The free place of the name at the end of a path on one line. -/
private lemma of_resolveName_absent {p : Path} (hp : IsOneLine p.text) {n : Name} {d : Location}
    (h : s.resolveName p = .ok (.absent (n :: d))) : IsOneLine n.text := by
  unfold resolveName at h
  split at h
  · next m before hsteps =>
    have hm : IsOneLine (Name.text m) := by
      refine Path.isOneLine_of_mem_steps hp ?_
      rw [← List.mem_reverse, hsteps]
      exact List.mem_cons_self
    split at h
    · simp at h
    · split at h
      · simp at h
      · simp at h
      · split_ifs at h
        · simp at h
        · obtain ⟨rfl, -⟩ : m = n ∧ _ = d := by simpa using h
          exact hm
  · exact hs.of_place_absent hp h

/-- The names in a directory are on one line. -/
private lemma of_mem_namesIn {d : Location} {n : Name} (hn : n ∈ s.namesIn d) : IsOneLine n.text :=
  hs.name n d (mem_namesIn_iff.1 hn)

/-! ## Elementary changes -/

/-- Contents have no names. -/
private lemma setContents (id : FileId) (c : Contents) : (s.setContents id c).HasOneLineNames :=
  ⟨fun n d h => hs.name n d (by rwa [entryAt_setContents] at h),
    fun l p h => hs.target l p (by rwa [entryAt_setContents] at h)⟩

/-- An entry other than a link is set at a name on one line. -/
lemma setEntry {n : Name} (hn : IsOneLine n.text) {e : Entry} (he : ∀ p, e ≠ .link p)
    (d : Location) : (s.setEntry (n :: d) e).HasOneLineNames := by
  constructor
  · intro m l h
    rw [entryAt_setEntry] at h
    split at h
    · next heq => exact (List.cons.inj heq).1 ▸ hn
    · exact hs.name m l h
  · intro l p h
    rw [entryAt_setEntry] at h
    split at h
    · exact absurd (Option.some.inj h) (he p)
    · exact hs.target l p h

/-- A file is made at a name on one line. -/
lemma newFile {n : Name} (hn : IsOneLine n.text) (d : Location) (c : Contents) :
    (s.newFile (n :: d) c).HasOneLineNames :=
  (hs.setEntry hn (by simp) d).setContents _ c

end HasOneLineNames

/-- The empty store has no names. -/
lemma HasOneLineNames.empty : HasOneLineNames {} :=
  ⟨fun n d h => by simp [entryAt, valueOf?] at h, fun l p h => by
    cases l <;> simp [entryAt, valueOf?] at h⟩

/-! ## What the actions keep -/

/-- Writing a file at a path on one line. -/
lemma keeps_oneLineNames_write {p : Path} (hp : IsOneLine p.text) (c : Contents) :
    Keeps HasOneLineNames (write p c) := by
  intro s hs
  unfold stateAfter
  rcases write_cases p c s with ⟨id, -, h⟩ | ⟨m, hm, h⟩ | ⟨e, h⟩ <;> rw [h]
  · exact hs.setContents id c
  · obtain ⟨n, d, rfl, -⟩ := place_absent_spec hm
    exact hs.newFile (hs.of_place_absent hp hm) d c
  · exact hs

/-- Making a directory at a path on one line. -/
lemma keeps_oneLineNames_createDirectory {p : Path} (hp : IsOneLine p.text) :
    Keeps HasOneLineNames (createDirectory p) := by
  intro s hs
  unfold stateAfter
  rcases createDirectory_cases p s with ⟨m, hm, h⟩ | ⟨e, h⟩ <;> rw [h]
  · obtain ⟨n, d, rfl, -⟩ := resolveName_absent_spec hm
    exact hs.setEntry (hs.of_resolveName_absent hp hm) (by simp) d
  · exact hs

end FileStore

open FileStore (HasOneLineNames)

/-- **Copying a tree** into a directory of a path on one line. -/
theorem keeps_oneLineNames_copyTree {source target : Path} (hsource : IsOneLine source.text)
    (htarget : IsOneLine target.text) : Keeps HasOneLineNames (copyTree source target) := by
  refine CopyTree.keeps_copyTree_of (P := fun p => IsOneLine p.text) (fun p hp node => ?_)
    (fun s node p n hs hp hn => ?_) hsource
  · have hq : IsOneLine (CopyTree.targetOf source target p).text :=
      CopyTree.isOneLine_targetOf htarget hp
    refine CopyTree.keeps_copyNode (FileStore.keeps_createDirectories_of fun q hmem => ?_)
      (FileStore.keeps_oneLineNames_write hq) node p
    rcases List.mem_cons.1 hmem with rfl | hmem
    · exact FileStore.keeps_oneLineNames_createDirectory hq
    · exact FileStore.keeps_oneLineNames_createDirectory (Path.isOneLine_ancestors hq hmem)
  · cases node with
    | directory l => exact Path.isOneLine_child hp (hs.of_mem_namesIn hn)
    | file id => simp [CopyTree.namesOf] at hn

/-- Building a page of a path on one line. -/
private lemma Page.keeps_oneLineNames_build {source : Path} (hsource : IsOneLine source.text)
    (extensions : Markdown.Extensions) (template : Path) :
    Keeps HasOneLineNames (build extensions template source) :=
  keeps_build_of (FileStore.keeps_oneLineNames_write (isOneLine_outputOf hsource)) extensions
    template

/-- **The pages that are built** from paths on one line. -/
theorem Build.keeps_oneLineNames_pages {sources : List Path}
    (hsources : ∀ p ∈ sources, IsOneLine p.text) (extensions : Markdown.Extensions)
    (template : Path) : Keeps HasOneLineNames (pages extensions template sources) :=
  Keeps.mapM fun p hp => Page.keeps_oneLineNames_build (hsources p hp) extensions template

/-- The files that are found in a directory are on one line. -/
lemma FileStore.HasOneLineNames.of_discover {s : FileStore} (hs : s.HasOneLineNames)
    {directory : Path} {extension : Name} {found : List Path}
    (h : discover s directory extension = .ok found) {p : Path} (hp : p ∈ found) :
    IsOneLine p.text := by
  unfold discover FileStore.list at h
  cases hnode : s.node directory with
  | error e => simp [hnode] at h
  | ok x =>
    cases x with
    | file id => simp [hnode] at h
    | directory l =>
      simp only [hnode] at h
      rw [← Except.ok.inj h] at hp
      obtain ⟨n, hn, rfl⟩ := List.mem_map.1 (List.mem_of_mem_filter hp)
      exact Path.isOneLine_child (hs.of_node hnode) (hs.of_mem_namesIn hn)

/-- The directories that a build accepts are there, so their paths are on one line. -/
lemma FileStore.HasOneLineNames.of_checkDirectories {s : FileStore} (hs : s.HasOneLineNames)
    {source build : Path} (h : Build.checkDirectories source build s = .ok ()) :
    IsOneLine source.text ∧ IsOneLine build.text := by
  unfold Build.checkDirectories at h
  split_ifs at h with hsource hbuild
  obtain ⟨l, hl⟩ := FileStore.isDirectory_iff.1 (by simpa using hsource)
  obtain ⟨m, hm⟩ := FileStore.isDirectory_iff.1 (by simpa using hbuild)
  exact ⟨hs.of_node hl, hs.of_node hm⟩

end StaticSite
