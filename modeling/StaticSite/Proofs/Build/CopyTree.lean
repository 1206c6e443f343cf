import Mathlib
import StaticSite.Build.CopyTree
import StaticSite.Proofs.Build.Growth
import StaticSite.Proofs.FileStore.Overlay
import StaticSite.Proofs.Path.FileName

set_option relaxedAutoImplicit false
set_option autoImplicit false

/-!
# Copying a tree without links

In a store without links the copy walks through directories and files only, and puts each of them
into the place of the same names below the target. What it does can be told level by level.

## Main definitions

* `StaticSite.CopyTree.Counterpart` — a directory of the source tree and the directory that its
  contents are copied to.
* `StaticSite.CopyTree.EntryCopied` — what copying an entry does on the level of the entry.

## Main results

* `StaticSite.CopyTree.copyEntry_eq_ok_iff` — when an entry is copied.
* `StaticSite.CopyTree.itemAt_of_copyEntry` — copying changes nothing outside the target.
* `StaticSite.CopyTree.mirrored_copyEntry`, `StaticSite.mirrored_copyTree` — a tree that can be
  copied can be copied as well over what was left of a copy.
-/

namespace StaticSite

open StaticSite.Action
open StaticSite.FileStore (Overlay Fits Grows LinkFree Step)
open StaticSite.Path (IsName)

namespace CopyTree

/-! ## One level of a copy -/

/-- Without links, what is visited is what the path leads to, if its name is found. -/
lemma visited_eq_ok_iff {s : FileStore} (hs : s.LinkFree) {ancestors : List Ancestor} {p : Path}
    {node : Node} :
    visited s ancestors p = .ok node ↔ (∃ e, s.entryOf p = .ok e) ∧ s.node p = .ok node := by
  unfold visited
  cases he : s.entryOf p with
  | error e => simp
  | ok e =>
    cases e with
    | link t =>
      exfalso
      unfold FileStore.entryOf at he
      split at he
      · simp at he
      · simp at he
      · next l _ =>
        cases hl : s.entryAt l with
        | none => simp [hl] at he
        | some e =>
          obtain rfl : e = .link t := by simpa [hl] using he
          exact hs.entryAt_ne_link l t hl
    | directory => cases s.node p <;> simp
    | file id => cases s.node p <;> simp

/-- Without links, what is visited at an entry is what its path leads to. -/
lemma visited_child_eq_ok_iff {s : FileStore} (hs : s.LinkFree) {ancestors : List Ancestor}
    {p : Path} {l : Location} (h : s.node p = .ok (.directory l)) {n : Name} (hn : IsName n)
    {node : Node} : visited s ancestors (p.child n) = .ok node ↔ s.node (p.child n) = .ok node := by
  rw [visited_eq_ok_iff hs, and_iff_right_iff_imp]
  intro hnode
  obtain ⟨e, he⟩ := Option.isSome_iff_exists.1 (FileStore.entryAt_of_node_child h hn hnode)
  have hfits : Fits p n := by
    cases node with
    | directory m =>
      exact ((FileStore.node_child_eq_directory_iff h hn (hs.entryAt_ne_link _)).1 hnode).1
    | file id => exact ((FileStore.node_child_eq_file_iff h hn (hs.entryAt_ne_link _)).1 hnode).1
  refine ⟨e, ?_⟩
  unfold FileStore.entryOf
  rw [FileStore.resolveName_child h hn, hfits.path]
  simp [not_lt.2 hfits.name, he]

/-- Nothing is copied beyond the depth that is allowed. -/
lemma copyEntry_zero_ne_ok {source target : Path} {k : ℕ} {s t : FileStore}
    (ancestors : List Ancestor) (p : Path) : copyEntry source target 0 ancestors p s ≠ .ok k t := by
  show EStateM.Result.error _ s ≠ .ok k t
  simp

/-- An entry is copied after it was visited, and what is in it after it was copied itself.

**Proof sketch.** By the entry visited. If it is the target itself it is passed by, otherwise the
bind of its copy and of the copies of its names is taken apart. -/
private lemma copyEntry_succ_eq_ok_iff {source target : Path} {depth k : ℕ}
    {ancestors : List Ancestor} {p : Path} {s t : FileStore} :
    copyEntry source target (depth + 1) ancestors p s = .ok k t ↔
      ∃ node, visited s ancestors p = .ok node ∧
        ((node.isDirectory && s.sameFile p target) = true ∧ k = 0 ∧ t = s ∨
          ¬(node.isDirectory && s.sameFile p target) = true ∧
            ∃ copied r ks, copyNode node p (targetOf source target p) s = .ok copied r ∧
              (namesOf s node).mapM (fun name =>
                copyEntry source target depth (⟨node, p⟩ :: ancestors) (p.child name)) r
                = .ok ks t ∧
              k = copied + ks.sum) := by
  rw [copyEntry, get_bind_run]
  cases hv : visited s ancestors p with
  | error e =>
    show EStateM.Result.error _ s = .ok k t ↔ _
    simp
  | ok node =>
    simp only [Except.ok.injEq, exists_eq_left']
    split
    · next hskip => simp [hskip, pure_eq_ok_iff, eq_comm]
    · next hskip =>
      simp only [hskip, bind_eq_ok_iff, foldlM_add_eq_ok_iff]
      simp

/-- Copying a directory that is not its own target makes the target. -/
lemma copyNode_directory_run {s : FileStore} {p q : Path} {l : Location}
    (h : s.sameFile p q = false) :
    copyNode (.directory l) p q s = match FileStore.createDirectories q s with
      | .ok _ t => .ok 0 t
      | .error e t => .error (.entry p q e) t := by
  show (if s.sameFile p q then pure 0 else do
    EStateM.adaptExcept (.entry p q) (FileStore.createDirectories q)
    return 0 : FileAction CopyError ℕ) s = _
  rw [h, if_neg Bool.false_ne_true, adaptExcept_bind_pure_run]
  cases FileStore.createDirectories q s <;> rfl

/-- Copying a file that is not its own target writes what it holds. -/
lemma copyNode_file_run {s : FileStore} {p q : Path} {id : FileId} (h : s.sameFile p q = false)
    (hp : s.node p = .ok (.file id)) :
    copyNode (.file id) p q s = match FileStore.write q (s.contentsOf id) s with
      | .ok _ t => .ok 1 t
      | .error e t => .error (.entry p q e) t := by
  have hcopy : FileStore.copyFile p q s = FileStore.write q (s.contentsOf id) s := by
    unfold FileStore.copyFile
    rw [FileStore.look_bind, FileStore.readContents_of_node hp]
  show (if s.sameFile p q then pure 0 else do
    EStateM.adaptExcept (.entry p q) (FileStore.copyFile p q)
    return 1 : FileAction CopyError ℕ) s = _
  rw [h, if_neg Bool.false_ne_true, adaptExcept_bind_pure_run, hcopy]
  cases FileStore.write q (s.contentsOf id) s <;> rfl

/-- A directory that is not its own target is made there. -/
private lemma copyNode_directory_eq_ok_iff {s t : FileStore} {p q : Path} {l : Location} {k : ℕ}
    (h : s.sameFile p q = false) :
    copyNode (.directory l) p q s = .ok k t ↔
      FileStore.createDirectories q s = .ok () t ∧ k = 0 := by
  rw [copyNode_directory_run h]
  cases FileStore.createDirectories q s <;> simp [and_comm, eq_comm]

/-- What a file holds that is not its own target is written there. -/
private lemma copyNode_file_eq_ok_iff {s t : FileStore} {p q : Path} {id : FileId} {k : ℕ}
    (h : s.sameFile p q = false) (hp : s.node p = .ok (.file id)) :
    copyNode (.file id) p q s = .ok k t ↔
      FileStore.write q (s.contentsOf id) s = .ok () t ∧ k = 1 := by
  rw [copyNode_file_run h hp]
  cases FileStore.write q (s.contentsOf id) s <;> simp [and_comm, eq_comm]

/-! ## Counterparts -/

/-- A directory of the source tree, reached along some names, and the directory along the same names
below the target, which its contents are copied to. The source tree does not enter the target. -/
structure Counterpart (source target : Path) (base : Location) (names : List Name) (l : Location)
    (s : FileStore) : Prop where
  /-- The path of the source directory is written. -/
  written : source.bytes ≠ []
  /-- The names are names. -/
  isName : ∀ n ∈ names, IsName n
  /-- The target is a directory. -/
  root : s.node target = .ok (.directory base)
  /-- The directory of the source tree. -/
  directory : s.node (source.descend names) = .ok (.directory l)
  /-- The directory below the target. -/
  counterpart : s.node (target.descend names) = .ok (.directory (names.reverse ++ base))
  /-- The directory of the source tree does not lie in the target. -/
  outside : ¬base <:+ l

namespace Counterpart

variable {source target : Path} {base : Location} {names : List Name} {l : Location}
  {s : FileStore} (h : Counterpart source target base names l s)

include h

/-- Growth takes no counterpart away. -/
lemma grows {t : FileStore} (hst : Grows s t) : Counterpart source target base names l t :=
  ⟨h.written, h.isName, hst.node h.root, hst.node h.directory, hst.node h.counterpart, h.outside⟩

/-- Counterparts are seen if the store is laid over an old one. -/
private lemma overlay {old t : FileStore} (hst : Overlay old s t) :
    Counterpart source target base names l t :=
  ⟨h.written, h.isName, hst.node_directory h.root, hst.node_directory h.directory,
    hst.node_directory h.counterpart, h.outside⟩

/-- Entries of one name in counterparts are counterparts, unless the target is reached. -/
private lemma child {n : Name} (hn : IsName n)
    (hdirectory : s.node ((source.descend names).child n) = .ok (.directory (n :: l)))
    (hne : n :: l ≠ base)
    (hcounterpart : s.node ((target.descend names).child n) =
      .ok (.directory (n :: (names.reverse ++ base)))) :
    Counterpart source target base (names ++ [n]) (n :: l) s := by
  refine ⟨h.written, ?_, h.root, ?_, ?_, ?_⟩
  · intro m hm
    rcases List.mem_append.1 hm with hm | hm
    · exact h.isName m hm
    · rw [List.mem_singleton.1 hm]
      exact hn
  · rw [Path.descend_append_singleton, hdirectory]
  · rw [Path.descend_append_singleton, hcounterpart, List.reverse_append]
    rfl
  · intro hbase
    rcases List.suffix_cons_iff.1 hbase with heq | hbase
    · exact hne heq.symm
    · exact h.outside hbase

/-- The target of an entry is the entry of the same name in the counterpart. -/
lemma targetOf_child {n : Name} (hn : IsName n) :
    targetOf source target ((source.descend names).child n) = (target.descend names).child n := by
  rw [← Path.descend_append_singleton, ← Path.descend_append_singleton]
  apply targetOf_descend h.written (FileStore.bytes_ne_nil_of_node h.root) _ (by simp)
  intro m hm
  rcases List.mem_append.1 hm with hm | hm
  · exact h.isName m hm
  · rw [List.mem_singleton.1 hm]
    exact hn

/-- An entry is not its own target.

**Proof sketch.** If the two led to the same, their locations would be the same, as without links
each node has one location. Then the directory of the entry would be the counterpart, which lies
below the target. -/
lemma sameFile_child (hs : s.LinkFree) {n : Name} (hn : IsName n) :
    s.sameFile ((source.descend names).child n) ((target.descend names).child n) = false := by
  have hne : n :: l ≠ n :: (names.reverse ++ base) := by
    intro heq
    apply h.outside
    rw [(List.cons.inj heq).2]
    exact List.suffix_append _ _
  rw [← Bool.not_eq_true, FileStore.sameFile_iff]
  rintro ⟨x, hp, hq⟩
  have hlink := hs.entryAt_ne_link
  cases x with
  | directory m =>
    obtain ⟨-, hm, -⟩ := (FileStore.node_child_eq_directory_iff h.directory hn (hlink _)).1 hp
    obtain ⟨-, hm', -⟩ := (FileStore.node_child_eq_directory_iff h.counterpart hn (hlink _)).1 hq
    exact hne (hm.symm.trans hm')
  | file id =>
    have he := ((FileStore.node_child_eq_file_iff h.directory hn (hlink _)).1 hp).2
    have he' := ((FileStore.node_child_eq_file_iff h.counterpart hn (hlink _)).1 hq).2
    exact hne (hs.eq_of_entryAt he he')

/-- An entry that is a directory is the target exactly if it is in its place. -/
lemma sameFile_target (hs : s.LinkFree) {n : Name} (hn : IsName n) {m : Location}
    (hm : s.node ((source.descend names).child n) = .ok (.directory m)) :
    s.sameFile ((source.descend names).child n) target = true ↔ n :: l = base := by
  obtain ⟨-, rfl, -⟩ :=
    (FileStore.node_child_eq_directory_iff h.directory hn (hs.entryAt_ne_link _)).1 hm
  rw [FileStore.sameFile_iff]
  constructor
  · rintro ⟨x, hx, hx'⟩
    rw [hm] at hx
    rw [h.root, ← hx] at hx'
    simpa [eq_comm] using hx'
  · rintro rfl
    exact ⟨_, hm, h.root⟩

end Counterpart

/-! ## Copying an entry -/

/-- What copying an entry does, on the level of the entry: the target itself is left out, a file is
written, and a directory is made before what is in it is copied. -/
inductive EntryCopied (source target : Path) (base : Location) (names : List Name) (l : Location)
    (depth : ℕ) (ancestors : List Ancestor) (n : Name) (s : FileStore) : ℕ → FileStore → Prop where
  /-- The target is left out. -/
  | skipped (he : s.entryAt (n :: l) = some .directory) (hbase : n :: l = base) :
      EntryCopied source target base names l depth ancestors n s 0 s
  /-- A directory is made and filled. -/
  | directory {r t : FileStore} {ks : List ℕ} (he : s.entryAt (n :: l) = some .directory)
      (hbase : n :: l ≠ base)
      (hmake : FileStore.createDirectories ((target.descend names).child n) s = .ok () r)
      (hfill : (s.namesIn (n :: l)).mapM (fun name => copyEntry source target depth
        (⟨.directory (n :: l), (source.descend names).child n⟩ :: ancestors)
        (((source.descend names).child n).child name)) r = .ok ks t) :
      EntryCopied source target base names l depth ancestors n s ks.sum t
  /-- A file is written. -/
  | file {t : FileStore} {id : FileId} (he : s.entryAt (n :: l) = some (.file id))
      (hwrite : FileStore.write ((target.descend names).child n) (s.contentsOf id) s = .ok () t) :
      EntryCopied source target base names l depth ancestors n s 1 t

variable {source target : Path} {base : Location} {names : List Name} {l : Location}
  {s t : FileStore}

/-- **When an entry is copied** in a store without links.

**Proof sketch.** The walk visits the entry, which is the target itself, another directory or a
file. By cases on this, what the walk does is what is said of an entry that is copied, once the
paths of the entry and of its counterpart are known to lead to their locations. -/
theorem copyEntry_eq_ok_iff (hs : s.LinkFree) (h : Counterpart source target base names l s)
    {n : Name} (hn : IsName n) {depth k : ℕ} {ancestors : List Ancestor} :
    copyEntry source target (depth + 1) ancestors ((source.descend names).child n) s = .ok k t ↔
      Fits (source.descend names) n ∧
        EntryCopied source target base names l depth ancestors n s k t := by
  have hlink := hs.entryAt_ne_link (n :: l)
  have hsame := h.sameFile_child hs hn
  rw [copyEntry_succ_eq_ok_iff]
  simp only [visited_child_eq_ok_iff hs h.directory hn, h.targetOf_child hn]
  constructor
  · rintro ⟨node, hnode, hcases⟩
    cases node with
    | directory m =>
      obtain ⟨hfits, rfl, he⟩ :=
        (FileStore.node_child_eq_directory_iff h.directory hn hlink).1 hnode
      refine ⟨hfits, ?_⟩
      simp only [Node.isDirectory, Bool.true_and, h.sameFile_target hs hn hnode] at hcases
      rcases hcases with ⟨hbase, rfl, rfl⟩ | ⟨hbase, copied, r, ks, hcopy, hfill, rfl⟩
      · exact .skipped he hbase
      · obtain ⟨hmake, rfl⟩ := (copyNode_directory_eq_ok_iff hsame).1 hcopy
        rw [Nat.zero_add]
        exact .directory he hbase hmake hfill
    | file id =>
      obtain ⟨hfits, he⟩ := (FileStore.node_child_eq_file_iff h.directory hn hlink).1 hnode
      refine ⟨hfits, ?_⟩
      rcases hcases with ⟨hskip, -⟩ | ⟨-, copied, r, ks, hcopy, hfill, rfl⟩
      · simp [Node.isDirectory] at hskip
      · obtain ⟨hwrite, rfl⟩ := (copyNode_file_eq_ok_iff hsame hnode).1 hcopy
        obtain ⟨rfl, rfl⟩ := mapM_nil_eq_ok_iff.1 hfill
        exact .file he hwrite
  · rintro ⟨hfits, hcopied⟩
    cases hcopied with
    | skipped he hbase =>
      have hnode := (FileStore.node_child_eq_directory_iff h.directory hn hlink).2 ⟨hfits, rfl, he⟩
      refine ⟨_, hnode, Or.inl ⟨?_, rfl, rfl⟩⟩
      simpa [Node.isDirectory] using (h.sameFile_target hs hn hnode).2 hbase
    | directory he hbase hmake hfill =>
      have hnode := (FileStore.node_child_eq_directory_iff h.directory hn hlink).2 ⟨hfits, rfl, he⟩
      refine ⟨_, hnode, Or.inr ⟨?_, 0, _, _, (copyNode_directory_eq_ok_iff hsame).2 ⟨hmake, rfl⟩,
        hfill, (Nat.zero_add _).symm⟩⟩
      simpa [Node.isDirectory, h.sameFile_target hs hn hnode] using hbase
    | file he hwrite =>
      have hnode := (FileStore.node_child_eq_file_iff h.directory hn hlink).2 ⟨hfits, he⟩
      refine ⟨_, hnode, Or.inr ⟨by simp [Node.isDirectory], 1, t, [],
        (copyNode_file_eq_ok_iff hsame hnode).2 ⟨hwrite, rfl⟩,
        mapM_nil_eq_ok_iff.2 ⟨rfl, rfl⟩, rfl⟩⟩

/-- Copying the entries of a directory only adds to the files. -/
private lemma grows_of_entries {depth : ℕ} {ancestors : List Ancestor} {p : Path} {ns : List Name}
    {ks : List ℕ}
    (h : ns.mapM (fun n => copyEntry source target depth ancestors (p.child n)) s = .ok ks t) :
    Grows s t :=
  (Keeps.mapM fun n _ => keeps_copyEntry Grows.step source target depth ancestors
    (p.child n)).of_eq_ok h .refl

/-- A directory that was made for an entry is its counterpart.

**Proof sketch.** The path of the counterpart fits, since a directory was made there, and the place
holds a directory now. The entry itself is the directory that it was. -/
lemma Counterpart.make (h : Counterpart source target base names l s) (hs : s.LinkFree) {n : Name}
    (hn : IsName n) (hfits : Fits (source.descend names) n)
    (he : s.entryAt (n :: l) = some .directory) (hne : n :: l ≠ base) {r : FileStore}
    (hmake : FileStore.createDirectories ((target.descend names).child n) s = .ok () r) :
    Grows s r ∧ Counterpart source target base (names ++ [n]) (n :: l) r := by
  have hgrows : Grows s r :=
    (FileStore.keeps_createDirectories Grows.step _).of_eq_ok hmake .refl
  have hr := h.grows hgrows
  have hlink := (hs.grows hgrows).entryAt_ne_link
  have hfits' := ((FileStore.createDirectories_child_eq_ok_iff h.counterpart hn hs).1 hmake).1
  have hitem := FileStore.itemAt_of_createDirectories h.counterpart hn hs hmake
    (n :: (names.reverse ++ base))
  rw [if_pos rfl, FileStore.itemAt_eq_directory_iff] at hitem
  refine ⟨hgrows, hr.child hn ?_ hne ?_⟩
  · exact (FileStore.node_child_eq_directory_iff hr.directory hn (hlink _)).2
      ⟨hfits, rfl, hgrows.entryAt he⟩
  · exact (FileStore.node_child_eq_directory_iff hr.counterpart hn (hlink _)).2
      ⟨hfits', rfl, hitem⟩

/-- The turn of an entry of a directory that is copied. -/
private lemma Counterpart.turn_spec (h : Counterpart source target base names l s) (hs : s.LinkFree)
    {ns : List Name} {depth j : ℕ} {ancestors : List Ancestor} {n : Name} {a b : FileStore}
    (hturn : Turn
      (fun n => copyEntry source target depth ancestors ((source.descend names).child n))
      ns s t n j a b) :
    Grows s a ∧ Grows b t ∧ a.LinkFree ∧ Counterpart source target base names l a := by
  have hkeeps : ∀ c : FileStore, ∀ x ∈ ns, Keeps (Grows c)
      (copyEntry source target depth ancestors ((source.descend names).child x)) :=
    fun c x _ => keeps_copyEntry Grows.step _ _ _ _ _
  have hsa : Grows s a := (hturn.keeps (hkeeps s) .refl).1
  exact ⟨hsa, hturn.keeps_end (hkeeps b) .refl, hs.grows hsa, h.grows hsa⟩

/-! ## What a copy leaves alone -/

/-- **Copying an entry changes nothing outside its target.**

**Proof sketch.** By induction on the depth. A file is written, or a directory made, in the place
of the counterpart only, and everything copied into the directory has its counterpart below that
place, so each turn keeps what is seen at the location. -/
theorem itemAt_of_copyEntry {depth k : ℕ} {ancestors : List Ancestor} {n : Name} {m : Location}
    (hs : s.LinkFree) (h : Counterpart source target base names l s) (hn : IsName n)
    (hrun : copyEntry source target depth ancestors ((source.descend names).child n) s = .ok k t)
    (hm : ¬n :: (names.reverse ++ base) <:+ m) : t.itemAt m = s.itemAt m := by
  induction depth generalizing ancestors names l n s k t with
  | zero => exact absurd hrun (copyEntry_zero_ne_ok ancestors _)
  | succ depth ih =>
    have hne : m ≠ n :: (names.reverse ++ base) := by
      rintro rfl
      exact hm List.suffix_rfl
    obtain ⟨hfits, hcopied⟩ := (copyEntry_eq_ok_iff hs h hn).1 hrun
    cases hcopied with
    | skipped => rfl
    | file _ hwrite =>
      rw [FileStore.itemAt_of_write h.counterpart hn hs hwrite, if_neg hne]
    | @directory r _ ks he hbase hmake hfill =>
      obtain ⟨hgrows, hr⟩ := h.make hs hn hfits he hbase hmake
      have hfirst : r.itemAt m = s.itemAt m := by
        rw [FileStore.itemAt_of_createDirectories h.counterpart hn hs hmake, if_neg hne]
      rw [← Path.descend_append_singleton] at hfill
      refine mapM_keeps (P := fun a => a.itemAt m = s.itemAt m) hfill ?_ hfirst
      intro name hname j a b hturn ha
      have hname' : IsName name := hs.wellFormed.isName_of_mem_namesIn hname
      obtain ⟨-, -, hfree, hcounterpart⟩ := hr.turn_spec (hs.grows hgrows) hturn
      rw [← ha]
      refine ih hfree hcounterpart hname' hturn.run fun hsuffix => hm ?_
      rw [List.reverse_append, List.reverse_singleton, List.singleton_append] at hsuffix
      exact (List.suffix_cons _ _).trans hsuffix

/-- What stands in the place of an entry after it was copied: a file for a file, with a path to it,
and a directory for a directory, unless that is the target.

**Proof sketch.** By the forms of a successful copy (`copyEntry_eq_ok_iff`). A file is written and
seen in its place; a directory is made before what is in it is copied, and entries that exist stay.
-/
private lemma entryAt_of_copyEntry {depth k : ℕ} {ancestors : List Ancestor} {n : Name}
    (hs : s.LinkFree) (h : Counterpart source target base names l s) (hn : IsName n)
    (hrun : copyEntry source target depth ancestors ((source.descend names).child n) s = .ok k t) :
    (∃ id i, s.entryAt (n :: l) = some (.file id) ∧ Fits (target.descend names) n ∧
      t.entryAt (n :: (names.reverse ++ base)) = some (.file i)) ∨
    s.entryAt (n :: l) = some .directory ∧
      (t = s ∨ t.entryAt (n :: (names.reverse ++ base)) = some .directory) := by
  cases depth with
  | zero => exact absurd hrun (copyEntry_zero_ne_ok ancestors _)
  | succ depth =>
    obtain ⟨hfits, hcopied⟩ := (copyEntry_eq_ok_iff hs h hn).1 hrun
    cases hcopied with
    | skipped he => exact Or.inr ⟨he, Or.inl rfl⟩
    | @file _ id he hwrite =>
      have hitem := FileStore.itemAt_of_write h.counterpart hn hs hwrite
        (n :: (names.reverse ++ base))
      rw [if_pos rfl] at hitem
      obtain ⟨i, hi, -⟩ := FileStore.itemAt_eq_file_iff.1 hitem
      exact Or.inl
        ⟨id, i, he, ((FileStore.write_child_eq_ok_iff h.counterpart hn hs).1 hwrite).1, hi⟩
    | @directory r _ ks he hbase hmake hfill =>
      obtain ⟨-, hr⟩ := h.make hs hn hfits he hbase hmake
      have hmade := (FileStore.node_eq_directory_iff.1 hr.counterpart).2
      rw [List.reverse_append, List.reverse_singleton, List.singleton_append] at hmade
      exact Or.inr ⟨he, Or.inr ((grows_of_entries hfill).entryAt hmade)⟩

/-! ## Copying over what was left -/

/-- Entries that can be copied can be copied as well over what was left if each of them can.

**Proof sketch.** Each entry is copied in a state that the walk reaches. There the directories are
still counterparts, and no leftover is hidden that was not hidden before, so that the hypothesis on
single entries applies. -/
private lemma mirrored_entries {old : FileStore} (hs : s.LinkFree)
    (h : Counterpart source target base names l s) {ns : List Name} (hns : ∀ n ∈ ns, IsName n)
    {depth : ℕ} {ancestors : List Ancestor} {ks : List ℕ}
    (hfill : ns.mapM (fun n => copyEntry source target depth ancestors
      ((source.descend names).child n)) s = .ok ks t)
    (hkinds : t.Compatible old)
    (hold : FileStore.CoversOutside base old s)
    (hentry : ∀ n k a b, IsName n → a.LinkFree → Counterpart source target base names l a →
      copyEntry source target depth ancestors ((source.descend names).child n) a = .ok k b →
      b.Compatible old → FileStore.CoversOutside base old a → Mirrored (Overlay old)
        (copyEntry source target depth ancestors ((source.descend names).child n)) a k b) :
    Mirrored (Overlay old) (ns.mapM fun n => copyEntry source target depth ancestors
      ((source.descend names).child n)) s ks t := by
  refine mapM_mirrored hfill fun n hn k a b hturn => ?_
  obtain ⟨hsa, hbt, hfree, hcounterpart⟩ := h.turn_spec hs hturn
  exact hentry n k a b (hns n hn) hfree hcounterpart hturn.run (hkinds.of_grows hbt)
    (hold.grows hsa)

/-- **An entry that can be copied can be copied as well over what was left**, if that is nowhere of
another kind, and if outside the target there is nothing else.

**Proof sketch.** By induction on the depth. The entry is the same over what was left, since it was
there before the copy, and a directory has the same names, as nothing was left there. So the walk
takes the same branch, and writing the file or making the directory has its like
(`Overlay.mirrored_write`, `Overlay.mirrored_createDirectories`). What is in the directory follows
entry by entry (`mirrored_entries`). -/
theorem mirrored_copyEntry {old : FileStore} {depth k : ℕ} {ancestors : List Ancestor} {n : Name}
    (hs : s.LinkFree) (h : Counterpart source target base names l s) (hn : IsName n)
    (hrun : copyEntry source target depth ancestors ((source.descend names).child n) s = .ok k t)
    (hkinds : t.Compatible old) (hold : FileStore.CoversOutside base old s) :
    Mirrored (Overlay old)
      (copyEntry source target depth ancestors ((source.descend names).child n)) s k t := by
  induction depth generalizing ancestors names l n s k t with
  | zero => exact absurd hrun (copyEntry_zero_ne_ok ancestors _)
  | succ depth ih =>
    intro d hd
    have hd' := h.overlay hd
    obtain ⟨hfits, hcopied⟩ := (copyEntry_eq_ok_iff hs h hn).1 hrun
    have hitem : ∀ {e}, s.entryAt (n :: l) = some e → d.itemAt (n :: l) = s.itemAt (n :: l) := by
      intro e he
      exact hd.itemAt_eq (by simp [he])
    have hdirectory : s.entryAt (n :: l) = some .directory →
        d.entryAt (n :: l) = some .directory := by
      intro he
      rw [← FileStore.itemAt_eq_directory_iff, hitem he, FileStore.itemAt_eq_directory_iff, he]
    cases hcopied with
    | skipped he hbase =>
      refine ⟨d, (copyEntry_eq_ok_iff hd.whole hd' hn).2 ⟨hfits, ?_⟩, hd⟩
      exact .skipped (hdirectory he) hbase
    | @file _ id he hwrite =>
      obtain ⟨i, he', hc⟩ := FileStore.itemAt_eq_file_iff.1
        ((hitem he).trans (FileStore.itemAt_eq_file_iff.2 ⟨id, he, rfl⟩))
      obtain ⟨d', hwrite', hrel⟩ :=
        Overlay.mirrored_write h.counterpart hn hwrite hkinds d hd
      rw [← hc] at hwrite'
      exact ⟨d', (copyEntry_eq_ok_iff hd.whole hd' hn).2 ⟨hfits, .file he' hwrite'⟩, hrel⟩
    | @directory r _ ks he hbase hmake hfill =>
      have hnames : d.namesIn (n :: l) = s.namesIn (n :: l) := by
        apply hd.namesIn
        apply hold
        intro hsuffix
        rcases List.suffix_cons_iff.1 hsuffix with heq | hsuffix
        · exact hbase heq.symm
        · exact h.outside hsuffix
      obtain ⟨hgrows, hr⟩ := h.make hs hn hfits he hbase hmake
      obtain ⟨d₁, hmake', hrel⟩ := Overlay.mirrored_createDirectories h.counterpart hn hmake
        (hkinds.of_grows (grows_of_entries hfill)) d hd
      -- what is in the directory is copied after it was made
      have hisName : ∀ n' ∈ s.namesIn (n :: l), IsName n' :=
        fun _ hn' => hs.wellFormed.isName_of_mem_namesIn hn'
      rw [← Path.descend_append_singleton] at hfill
      obtain ⟨d₂, hfill', hrel'⟩ := mirrored_entries (hs.grows hgrows) hr hisName hfill hkinds
        (hold.grows hgrows) (fun _ _ _ _ hn' hfree hcounterpart hrun' hkinds' hold' =>
          ih hfree hcounterpart hn' hrun' hkinds' hold') d₁ hrel
      rw [← hnames, Path.descend_append_singleton] at hfill'
      refine ⟨d₂, (copyEntry_eq_ok_iff hd.whole hd' hn).2 ⟨hfits, ?_⟩, hrel'⟩
      exact .directory (hdirectory he) hbase hmake' hfill'

end CopyTree

/-! ## Copying a tree -/

section Tree

open CopyTree

variable {source target : Path} {base ls : Location} {s t : FileStore}

/-- A tree is copied entry by entry.

**Proof sketch.** The source directory is visited and no entry of itself, so nothing but its
entries is copied, each with the directory as its only ancestor. -/
lemma copyTree_eq_ok_iff (hs : s.LinkFree) (hsource : s.node source = .ok (.directory ls)) {k : ℕ} :
    copyTree source target s = .ok k t ↔
      (∃ e, s.entryOf source = .ok e) ∧ ∃ ks, (s.namesIn ls).mapM (fun name =>
        copyEntry source target FileStore.pathLimit [⟨.directory ls, source⟩]
          ((source.descend []).child name)) s = .ok ks t ∧ k = ks.sum := by
  rw [copyTree, get_bind_run]
  have hvisited : ∀ {node}, visited s [] source = .ok node ↔
      (∃ e, s.entryOf source = .ok e) ∧ node = .directory ls := by
    intro node
    rw [visited_eq_ok_iff hs, hsource, Except.ok.injEq, eq_comm (a := node)]
  cases hv : visited s [] source with
  | error e =>
    show EStateM.Result.error _ s = .ok k t ↔ _
    have hnone : ¬∃ e, s.entryOf source = .ok e := by
      intro he
      rw [hvisited.2 ⟨he, rfl⟩] at hv
      simp at hv
    simp [hnone]
  | ok node =>
    obtain ⟨he, rfl⟩ := hvisited.1 hv
    simp only [foldlM_add_eq_ok_iff, Nat.zero_add, Path.descend_nil]
    exact (and_iff_right he).symm

/-- The target is the counterpart of the source. -/
private lemma counterpart_of_roots (hsource : s.node source = .ok (.directory ls))
    (htarget : s.node target = .ok (.directory base)) (hout : ¬base <:+ ls) :
    Counterpart source target base [] ls s :=
  ⟨FileStore.bytes_ne_nil_of_node hsource, by simp, htarget, hsource, htarget, hout⟩

variable (hs : s.LinkFree) (hsource : s.node source = .ok (.directory ls))
  (htarget : s.node target = .ok (.directory base)) (hout : ¬base <:+ ls)

include hs hsource htarget hout

/-- The turn of an entry at the top of the source tree. -/
private lemma copyTurn_spec {name : Name} {j : ℕ} {a b : FileStore} (hname : name ∈ s.namesIn ls)
    (hturn : Turn (fun name => copyEntry source target FileStore.pathLimit
      [⟨.directory ls, source⟩] ((source.descend []).child name)) (s.namesIn ls) s t name j a b) :
    IsName name ∧ Grows s a ∧ Grows b t ∧ a.LinkFree ∧ Counterpart source target base [] ls a := by
  exact ⟨hs.wellFormed.isName_of_mem_namesIn hname,
    (counterpart_of_roots hsource htarget hout).turn_spec hs hturn⟩

variable {k : ℕ} (hrun : copyTree source target s = .ok k t)

include hrun

/-- **A copy changes nothing outside the target directory.** -/
theorem itemAt_of_copyTree {m : Location} (hm : ¬(base <:+ m ∧ m ≠ base)) :
    t.itemAt m = s.itemAt m := by
  obtain ⟨-, ks, hcopy, -⟩ := (copyTree_eq_ok_iff hs hsource).1 hrun
  refine mapM_keeps (P := fun a => a.itemAt m = s.itemAt m) hcopy ?_ rfl
  intro name hname j a b hturn ha
  obtain ⟨hname', -, -, hfree, hcounterpart⟩ :=
    copyTurn_spec hs hsource htarget hout hname hturn
  rw [← ha]
  apply itemAt_of_copyEntry hfree hcounterpart hname' hturn.run
  intro hsuffix
  apply hm
  refine ⟨(List.suffix_cons _ _).trans hsuffix, ?_⟩
  rintro rfl
  exact absurd hsuffix.length_le (by simp)

/-- A file at the top of the source tree is copied to the top of the target directory. -/
lemma isFile_of_copyTree {n : Name} {id : FileId} (hn : s.entryAt (n :: ls) = some (.file id)) :
    t.isFile (target.child n) = true := by
  obtain ⟨-, ks, hcopy, -⟩ := (copyTree_eq_ok_iff hs hsource).1 hrun
  have hmem : n ∈ s.namesIn ls := FileStore.mem_namesIn_iff.2 (by simp [hn])
  obtain ⟨j, a, b, -, hturn⟩ := exists_turn hcopy hmem
  obtain ⟨hname, hsa, hbt, hfree, hcounterpart⟩ :=
    copyTurn_spec hs hsource htarget hout hmem hturn
  rcases entryAt_of_copyEntry hfree hcounterpart hname hturn.run with ⟨-, i, -, hfits, hi⟩ | ⟨hd, -⟩
  · have hst : Grows s t := grows_of_copyTree hrun
    exact (FileStore.isFile_child_iff (hst.node htarget) hname (hs.grows hst)).2
      ⟨hfits, i, hbt.entryAt hi⟩
  · rw [hsa.entryAt hn] at hd
    simp at hd

/-- A file that the copy makes at the top of the target directory is one at the top of the source
tree.

**Proof sketch.** By the turns of the walk: a file shows up at the place only in the turn of the
entry with this name, and that entry is a file and was there from the start. The turns of other
names do not change the place (`itemAt_of_copyEntry`). -/
lemma entryAt_of_copyTree {n : Name} {i : FileId} (hfree : s.entryAt (n :: base) = none)
    (hn : t.entryAt (n :: base) = some (.file i)) :
    ∃ id, s.entryAt (n :: ls) = some (.file id) := by
  obtain ⟨-, ks, hcopy, -⟩ := (copyTree_eq_ok_iff hs hsource).1 hrun
  have hall : (∃ c, t.itemAt (n :: base) = some (.file c)) →
      ∃ id, s.entryAt (n :: ls) = some (.file id) := by
    refine mapM_keeps (P := fun a => (∃ c, a.itemAt (n :: base) = some (.file c)) →
      ∃ id, s.entryAt (n :: ls) = some (.file id)) hcopy ?_ ?_
    · intro name hname j a b hturn ha hb
      obtain ⟨hname', hsa, -, hfree', hcounterpart⟩ :=
        copyTurn_spec hs hsource htarget hout hname hturn
      by_cases heq : name = n
      · subst heq
        rcases entryAt_of_copyEntry hfree' hcounterpart hname' hturn.run with
          ⟨id, -, hid, -, -⟩ | ⟨-, rfl | hd⟩
        · -- the entry was there from the start
          obtain ⟨e, he⟩ := Option.isSome_iff_exists.1 (FileStore.mem_namesIn_iff.1 hname)
          rw [hsa.entryAt he] at hid
          exact ⟨id, by rw [he, hid]⟩
        · exact ha hb
        · obtain ⟨c, hc⟩ := hb
          obtain ⟨i, hi, -⟩ := FileStore.itemAt_eq_file_iff.1 hc
          have hd' : b.entryAt (name :: base) = some .directory := hd
          rw [hd'] at hi
          simp at hi
      · rw [itemAt_of_copyEntry hfree' hcounterpart hname' hturn.run] at hb
        · exact ha hb
        · intro hsuffix
          have hlength : (name :: base).length = (n :: base).length := rfl
          exact heq (List.cons.inj (hsuffix.eq_of_length hlength)).1
    · rintro ⟨c, hc⟩
      obtain ⟨i, hi, -⟩ := FileStore.itemAt_eq_file_iff.1 hc
      rw [hfree] at hi
      simp at hi
  exact hall ⟨_, FileStore.itemAt_eq_file_iff.2 ⟨i, hn, rfl⟩⟩

/-- **A tree that can be copied can be copied as well over what was left**, if that is nowhere of
another kind, and if outside the target there is nothing else. -/
theorem mirrored_copyTree {old : FileStore} (hkinds : t.Compatible old)
    (hold : FileStore.CoversOutside base old s) :
    Mirrored (Overlay old) (copyTree source target) s k t := by
  intro d hd
  obtain ⟨⟨e, he⟩, ks, hcopy, rfl⟩ := (copyTree_eq_ok_iff hs hsource).1 hrun
  have hname : ∀ n ∈ s.namesIn ls, IsName n :=
    fun _ hn => hs.wellFormed.isName_of_mem_namesIn hn
  obtain ⟨d', hcopy', hrel⟩ := mirrored_entries hs (counterpart_of_roots hsource htarget hout) hname
    hcopy hkinds hold (fun _ _ _ _ hn hfree hcounterpart hrun' hkinds' hold' =>
      mirrored_copyEntry hfree hcounterpart hn hrun' hkinds' hold') d hd
  rw [← hd.namesIn (hold ls hout)] at hcopy'
  exact ⟨d', (copyTree_eq_ok_iff hd.whole (hd.node_directory hsource)).2
    ⟨hd.exists_entryOf he, ks, hcopy', rfl⟩, hrel⟩

end Tree

end StaticSite
