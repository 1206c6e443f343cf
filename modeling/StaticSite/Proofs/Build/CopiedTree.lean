import Mathlib
import StaticSite.Proofs.Build.CopyTree
import StaticSite.Proofs.Build.Disk

set_option relaxedAutoImplicit false
set_option autoImplicit false

/-!
# What a copy makes of the target

On a disk without links a copy lays the source tree over the target, and nothing else. This holds
at every depth and also if the target lies inside the source tree, where the walk goes on in a tree
to which the copies are added: they are added below the target, which the walk does not enter.

## Main definitions

* `StaticSite.CopyTree.IsCopied` — an entry of the source tree that a copy takes along.
* `StaticSite.CopyTree.filesToCopy` — the files among them.
* `StaticSite.CopyTree.OnlyCopies` — at most the copies of these entries differ from before.
* `StaticSite.CopyTree.UnderWay` — what holds while the tree is copied.
* `StaticSite.CopyTree.IsComplete` — a part of the tree is copied.

## Main results

* `StaticSite.CopyTree.keeps_copyEntry_underWay` — the step: copying an entry, whether it succeeds
  or fails, changes copies only.
* `StaticSite.CopyTree.copyEntry_complete` — an entry that is copied is copied with all below it.
* `StaticSite.copyTree_overlays` — a copy lays the source tree over the target.
-/

namespace StaticSite

open StaticSite.Action
open StaticSite.FileStore (Fits Grows)
open StaticSite.Path (IsName)

namespace CopyTree

/-! ## What is to be copied -/

/-- The way `r` from the source directory at `ls` leads to an entry that is neither the target nor
below it. Like a location a way has its last name first: the entry is at `r ++ ls`, and its copy
belongs at `r ++ base`. -/
structure IsCopied (s : FileStore) (ls base r : Location) : Prop where
  /-- The source directory itself is not copied. -/
  ne_nil : r ≠ []
  /-- There is an entry. -/
  entry : (s.entryAt (r ++ ls)).isSome = true
  /-- It is neither the target nor below it. -/
  outside : ¬base <:+ r ++ ls

/-- The files at or below a location that do not lie in the target. -/
def filesToCopy (s : FileStore) (base l : Location) : Set Location :=
  {m | (∃ id, s.entryAt m = some (.file id)) ∧ l <:+ m ∧ ¬base <:+ m}

/-- A store shows what another one shows, apart from copies: at most the places that the copies of
the entries of a tree belong to may look different. Nothing is removed. -/
structure OnlyCopies (s : FileStore) (ls base : Location) (t : FileStore) : Prop where
  /-- Nothing is removed. -/
  grows : Grows s t
  /-- What is seen elsewhere. -/
  itemAt : ∀ m, (∀ r, IsCopied s ls base r → m ≠ r ++ base) → t.itemAt m = s.itemAt m

/-- Before anything is copied, nothing is different. -/
lemma OnlyCopies.refl (s : FileStore) (ls base : Location) : OnlyCopies s ls base s :=
  ⟨.refl, fun _ _ => rfl⟩

/-- Copies belong below the target, so nothing is different elsewhere. -/
lemma OnlyCopies.itemAt_outside {s t : FileStore} {ls base : Location} (h : OnlyCopies s ls base t)
    {m : Location} (hm : ¬(base <:+ m ∧ m ≠ base)) : t.itemAt m = s.itemAt m := by
  refine h.itemAt m ?_
  rintro r hr rfl
  exact hm ⟨List.suffix_append _ _, by simpa using hr.ne_nil⟩

/-! ## Counting files -/

section Count

variable {s : FileStore} (hs : s.WellFormed) (base : Location)

/-- There are finitely many files. -/
private lemma finite_files (s : FileStore) : {m | ∃ id, s.entryAt m = some (.file id)}.Finite := by
  refine (List.finite_toSet (s.entries.map Prod.fst)).subset ?_
  rintro m ⟨id, hid⟩
  have hm : m ≠ [] := by
    rintro rfl
    simp [FileStore.entryAt] at hid
  exact List.mem_map.2 ⟨_, FileStore.mem_entries hm hid, rfl⟩

/-- No file lies below two names of a directory. -/
private lemma eq_of_suffix_cons {l m : Location} {n n' : Name} (h : n :: l <:+ m)
    (h' : n' :: l <:+ m) :
    n = n' := by
  have hsuffix := List.suffix_of_suffix_length_le h h' le_rfl
  exact (List.cons.inj (hsuffix.eq_of_length rfl)).1

/-- The files below different names of a directory are added up.

**Proof sketch.** By induction on the names. A location that lies below one of the entries lies
below no other, so the two sets of files are disjoint. -/
private lemma ncard_filesToCopy_names (s : FileStore) (l : Location) {names : List Name}
    (hnames : names.Nodup) :
    {m | ∃ n ∈ names, m ∈ filesToCopy s base (n :: l)}.ncard =
      (names.map fun n => (filesToCopy s base (n :: l)).ncard).sum := by
  induction names with
  | nil => simp
  | cons n names ih =>
    have hfinite : {m | ∃ n' ∈ names, m ∈ filesToCopy s base (n' :: l)}.Finite := by
      refine (finite_files s).subset ?_
      rintro m ⟨n', -, hid, -, -⟩
      exact hid
    have hsplit : {m | ∃ n' ∈ n :: names, m ∈ filesToCopy s base (n' :: l)} =
        filesToCopy s base (n :: l) ∪ {m | ∃ n' ∈ names, m ∈ filesToCopy s base (n' :: l)} := by
      ext m
      simp
    have hdisjoint : Disjoint (filesToCopy s base (n :: l))
        {m | ∃ n' ∈ names, m ∈ filesToCopy s base (n' :: l)} := by
      rw [Set.disjoint_left]
      rintro m ⟨-, hm, -⟩ ⟨n', hn', -, hm', -⟩
      exact (List.nodup_cons.1 hnames).1 (eq_of_suffix_cons hm hm' ▸ hn')
    rw [hsplit, Set.ncard_union_eq hdisjoint ((finite_files s).subset fun m hm => hm.1) hfinite,
      ih (List.nodup_cons.1 hnames).2, List.map_cons, List.sum_cons]

include hs in
/-- Nothing lies below a file. -/
private lemma filesToCopy_file {l : Location} {id : FileId} (hid : s.entryAt l = some (.file id))
    (hl : ¬base <:+ l) : filesToCopy s base l = {l} := by
  ext m
  rw [Set.mem_singleton_iff]
  constructor
  · rintro ⟨⟨i, hi⟩, hlm, -⟩
    by_contra hne
    have hd := hs.directory_of_suffix hlm hne (by rw [hi]; rfl)
    rw [hid] at hd
    simp at hd
  · rintro rfl
    exact ⟨⟨id, hid⟩, List.suffix_rfl, hl⟩

include hs in
/-- The files below a directory are those below its entries.

**Proof sketch.** A file below the directory is not the directory, so it lies below one of the
entries, and the entries have different names (`ncard_filesToCopy_names`). -/
private lemma ncard_filesToCopy_directory {l : Location} (hl : s.entryAt l = some .directory) :
    (filesToCopy s base l).ncard =
      ((s.namesIn l).map fun n => (filesToCopy s base (n :: l)).ncard).sum := by
  rw [← ncard_filesToCopy_names base s l
    ((FileStore.pairwise_namesIn hs l).imp fun h => Name.ne_of_lt h)]
  congr 1
  ext m
  constructor
  · rintro ⟨⟨id, hid⟩, hlm, hm⟩
    obtain ⟨front, rfl⟩ := hlm
    rcases List.eq_nil_or_concat' front with rfl | ⟨front, n, rfl⟩
    · rw [List.nil_append, hl] at hid
      simp at hid
    rw [List.append_assoc, List.singleton_append] at hid hm ⊢
    have hn : (s.entryAt (n :: l)).isSome = true :=
      hs.isSome_of_suffix (List.suffix_append front _) (by rw [hid]; rfl)
    exact ⟨n, FileStore.mem_namesIn_iff.2 hn, ⟨id, hid⟩, List.suffix_append _ _, hm⟩
  · rintro ⟨n, -, hid, hnm, hm⟩
    exact ⟨hid, (List.suffix_cons n l).trans hnm, hm⟩

end Count

/-! ## One step of the copy -/

variable {source target : Path} {base ls : Location} {names : List Name} {s a b : FileStore}

/-- What holds while the tree is copied and the copy is at the directory along some names: only
copies differ from before, and the directory has its counterpart. -/
structure UnderWay (source target : Path) (s : FileStore) (ls base : Location) (names : List Name)
    (a : FileStore) : Prop where
  /-- Only copies differ. -/
  only : OnlyCopies s ls base a
  /-- The directory and its counterpart. -/
  counterpart : Counterpart source target base names (names.reverse ++ ls) a

/-- A file is not the target. -/
private lemma Counterpart.ne_of_file {l m : Location} (h : Counterpart source target base names l a)
    {id : FileId} (hm : a.entryAt m = some (.file id)) : m ≠ base := by
  rintro rfl
  have hroot := (FileStore.node_eq_directory_iff.1 h.root).2
  rw [hm] at hroot
  simp at hroot

namespace UnderWay

variable (h : UnderWay source target s ls base names a)

include h

/-- An entry that the walk is at was there from the start, and is copied unless it is the target. -/
private lemma isCopied {n : Name} (he : (a.entryAt (n :: (names.reverse ++ ls))).isSome = true)
    (hne : n :: (names.reverse ++ ls) ≠ base) : IsCopied s ls base (n :: names.reverse) := by
  have hout : ¬base <:+ n :: (names.reverse ++ ls) := by
    rw [List.suffix_cons_iff]
    rintro (heq | hsuffix)
    · exact hne heq.symm
    · exact h.counterpart.outside hsuffix
  refine ⟨by simp, ?_, hout⟩
  rw [List.cons_append, ← FileStore.isSome_itemAt, ← h.only.itemAt_outside fun hm => hout hm.1,
    FileStore.isSome_itemAt, he]

/-- A change to the copy of an entry is one to a copy. -/
private lemma change {n : Name} (hcopied : IsCopied s ls base (n :: names.reverse))
    (hgrows : Grows a b) (hb : ∀ m, m ≠ n :: (names.reverse ++ base) → b.itemAt m = a.itemAt m) :
    OnlyCopies s ls base b := by
  refine ⟨h.only.grows.trans hgrows, fun m hm => ?_⟩
  rw [hb m, h.only.itemAt m hm]
  exact hm _ hcopied

/-- The walk goes on in a directory after its counterpart was made. -/
private lemma enter (hs : s.LinkFree) {n : Name} (hn : IsName n)
    (hfits : Fits (source.descend names) n)
    (he : a.entryAt (n :: (names.reverse ++ ls)) = some .directory)
    (hne : n :: (names.reverse ++ ls) ≠ base)
    (hmake : FileStore.createDirectories ((target.descend names).child n) a = .ok () b) :
    UnderWay source target s ls base (names ++ [n]) b := by
  have hfree := hs.grows h.only.grows
  obtain ⟨hgrows, hcounterpart⟩ := h.counterpart.make hfree hn hfits he hne hmake
  refine ⟨h.change (h.isCopied (by rw [he]; rfl) hne) hgrows fun m hm => ?_, ?_⟩
  · rw [FileStore.itemAt_of_createDirectories h.counterpart.counterpart hn hfree hmake, if_neg hm]
  · simpa using hcounterpart

/-- A single file is copied, or a directory made, without changing anything but copies. The walk
goes on in a directory that was made.

**Proof sketch.** A failed step leaves the store as it was. A file that is written, or a directory
that is made, is the counterpart of the entry, which is a copy, and no other place changes. A
directory that was made is the counterpart from which the walk goes on. -/
private lemma copyNode (hs : s.LinkFree) {n : Name} (hn : IsName n) {node : Node}
    (hnode : a.node ((source.descend names).child n) = .ok node)
    (hskip : ¬(node.isDirectory && a.sameFile ((source.descend names).child n) target) = true) :
    OnlyCopies s ls base (stateAfter (CopyTree.copyNode node ((source.descend names).child n)
      ((target.descend names).child n)) a) ∧
    ∀ m k b, node = .directory m → CopyTree.copyNode node ((source.descend names).child n)
      ((target.descend names).child n) a = .ok k b →
      UnderWay source target s ls base (names ++ [n]) b := by
  have hfree := hs.grows h.only.grows
  have hdirectory := h.counterpart.directory
  have hlink := hfree.entryAt_ne_link (n :: (names.reverse ++ ls))
  have hsame := h.counterpart.sameFile_child hfree hn
  unfold stateAfter
  cases node with
  | directory l =>
    obtain ⟨hfits, rfl, he⟩ := (FileStore.node_child_eq_directory_iff hdirectory hn hlink).1 hnode
    have hne : n :: (names.reverse ++ ls) ≠ base := by
      simpa [Node.isDirectory, h.counterpart.sameFile_target hfree hn hnode] using hskip
    rw [copyNode_directory_run hsame]
    cases hmake : FileStore.createDirectories ((target.descend names).child n) a with
    | error e t =>
      rw [FileStore.eq_of_createDirectories_error h.counterpart.counterpart hn hmake]
      exact ⟨h.only, by simp⟩
    | ok u t =>
      have hchild := h.enter hs hn hfits he hne hmake
      refine ⟨hchild.only, fun m k b _ hb => ?_⟩
      obtain ⟨-, rfl⟩ := EStateM.Result.ok.inj hb
      exact hchild
  | file id =>
    obtain ⟨hfits, he⟩ := (FileStore.node_child_eq_file_iff hdirectory hn hlink).1 hnode
    refine ⟨?_, by simp⟩
    rw [copyNode_file_run hsame hnode]
    cases hwrite : FileStore.write ((target.descend names).child n) (a.contentsOf id) a with
    | error e t =>
      rw [FileStore.eq_of_write_error hwrite]
      exact h.only
    | ok u t =>
      have hcopied := h.isCopied (by rw [he]; rfl) (h.counterpart.ne_of_file he)
      refine h.change hcopied (.single (.write (FileStore.writes_of_write hwrite))) fun m hm => ?_
      rw [FileStore.itemAt_of_write h.counterpart.counterpart hn hfree hwrite, if_neg hm]

end UnderWay

/-- **Copying an entry changes copies only**, whether it succeeds or fails.

**Proof sketch.** By induction on the depth, for successful and failed walks alike. An entry that
cannot be visited or is passed over changes nothing, and one that is visited changes copies only
(`copyNode`). What is in a directory is copied from the state in which it has its counterpart. -/
theorem keeps_copyEntry_underWay (hs : s.LinkFree) {n : Name} (hn : IsName n) (depth : ℕ)
    (ancestors : List Ancestor) :
    Keeps (UnderWay source target s ls base names)
      (copyEntry source target depth ancestors ((source.descend names).child n)) := by
  induction depth generalizing names n ancestors with
  | zero => exact Keeps.throw _
  | succ depth ih =>
    intro a h
    have hfree := hs.grows h.only.grows
    have hgrows : Grows a (stateAfter
        (copyEntry source target (depth + 1) ancestors ((source.descend names).child n)) a) :=
      keeps_copyEntry Grows.step source target _ ancestors _ a .refl
    suffices OnlyCopies s ls base (stateAfter
        (copyEntry source target (depth + 1) ancestors ((source.descend names).child n)) a) from
      ⟨this, h.counterpart.grows hgrows⟩
    rw [copyEntry, stateAfter_get_bind]
    cases hv : visited a ancestors ((source.descend names).child n) with
    | error e => exact h.only
    | ok node =>
      have hnode := (visited_child_eq_ok_iff hfree h.counterpart.directory hn).1 hv
      dsimp only
      split
      · exact h.only
      · next hskip =>
        obtain ⟨honly, hchild⟩ := h.copyNode hs hn hnode hskip
        rw [h.counterpart.targetOf_child hn, stateAfter_bind]
        rw [stateAfter] at honly
        cases hcopy : copyNode node ((source.descend names).child n)
            ((target.descend names).child n) a with
        | error e t =>
          rw [hcopy] at honly
          exact honly
        | ok k t =>
          rw [hcopy] at honly
          cases node with
          | file id => exact honly
          | directory m =>
            -- what is in the directory is copied from the state in which it has its counterpart
            refine ((Keeps.foldlM fun c name hname => ?_) k t (hchild m k t rfl hcopy)).only
            have hname' : IsName name :=
              hfree.wellFormed.isName _ m (FileStore.mem_namesIn_iff.1 hname)
            rw [← Path.descend_append_singleton]
            exact (ih hname' _).bind fun _ => Keeps.pure _

/-- The walk sees what was there from the start. -/
private lemma UnderWay.itemAt_entry (h : UnderWay source target s ls base names a) {n : Name}
    (hne : n :: (names.reverse ++ ls) ≠ base) :
    a.itemAt (n :: (names.reverse ++ ls)) = s.itemAt (n :: (names.reverse ++ ls)) := by
  apply h.only.itemAt_outside
  rintro ⟨hsuffix, -⟩
  rcases List.suffix_cons_iff.1 hsuffix with heq | hsuffix
  · exact hne heq.symm
  · exact h.counterpart.outside hsuffix

/-- The walk finds the names that were there from the start. -/
private lemma UnderWay.namesIn_entry (hs : s.LinkFree)
    (h : UnderWay source target s ls base names a) {n : Name}
    (hne : n :: (names.reverse ++ ls) ≠ base) :
    a.namesIn (n :: (names.reverse ++ ls)) = s.namesIn (n :: (names.reverse ++ ls)) := by
  apply FileStore.namesIn_congr hs.wellFormed (hs.grows h.only.grows).wellFormed
  intro name
  rw [← FileStore.isSome_itemAt, ← FileStore.isSome_itemAt, h.only.itemAt_outside]
  rintro ⟨hsuffix, hname⟩
  rcases List.suffix_cons_iff.1 hsuffix with heq | hsuffix
  · exact hname heq.symm
  · rcases List.suffix_cons_iff.1 hsuffix with heq | hsuffix
    · exact hne heq.symm
    · exact h.counterpart.outside hsuffix

/-- Copying other entries of a directory leaves the copy of an entry alone. -/
private lemma UnderWay.itemAt_of_sibling (hs : s.LinkFree)
    (h : UnderWay source target s ls base names a) {n n' : Name} (hn' : IsName n') (hne : n' ≠ n)
    {depth k : ℕ} {ancestors : List Ancestor}
    (hrun : copyEntry source target depth ancestors ((source.descend names).child n') a = .ok k b)
    {r : Location} (hr : n :: names.reverse <:+ r) :
    b.itemAt (r ++ base) = a.itemAt (r ++ base) := by
  refine itemAt_of_copyEntry (hs.grows h.only.grows) h.counterpart hn' hrun fun hsuffix => hne ?_
  obtain ⟨front, rfl⟩ := hr
  rw [List.append_assoc, List.cons_append] at hsuffix
  exact eq_of_suffix_cons hsuffix (List.suffix_append front _)

/-- The part of the tree at the way `w` is copied, with so many files: what is seen at and below its
copy is what was seen there in the source tree. -/
structure IsComplete (s : FileStore) (ls base w : Location) (k : ℕ) (b : FileStore) : Prop where
  /-- The number of files. -/
  count : k = (filesToCopy s base (w ++ ls)).ncard
  /-- What is seen of the copies. -/
  itemAt : ∀ r i, w <:+ r → ¬base <:+ r ++ ls → s.itemAt (r ++ ls) = some i →
    b.itemAt (r ++ base) = some i

/-- What lies in the target is not to be copied. -/
private lemma isComplete_of_within {w : Location} (hw : base <:+ w ++ ls) :
    IsComplete s ls base w 0 b := by
  have hempty : filesToCopy s base (w ++ ls) = ∅ := by
    ext m
    simp only [Set.mem_empty_iff_false, iff_false]
    rintro ⟨-, hin, hout⟩
    exact hout (hw.trans hin)
  refine ⟨by rw [hempty, Set.ncard_empty], ?_⟩
  rintro r i ⟨front, rfl⟩ hout -
  rw [List.append_assoc] at hout
  exact absurd (hw.trans (List.suffix_append front _)) hout

/-- A file is copied if its copy looks the same. -/
private lemma isComplete_of_file (hs : s.WellFormed) {w : Location} {id : FileId}
    (hid : s.entryAt (w ++ ls) = some (.file id)) (hw : ¬base <:+ w ++ ls)
    (hb : b.itemAt (w ++ base) = s.itemAt (w ++ ls)) : IsComplete s ls base w 1 b := by
  refine ⟨by rw [filesToCopy_file hs base hid hw, Set.ncard_singleton], ?_⟩
  rintro r i ⟨front, rfl⟩ - hi
  -- nothing lies below a file
  obtain rfl : front = [] := by
    by_contra hfront
    rw [List.append_assoc] at hi
    have hd := hs.directory_of_suffix (List.suffix_append front _) (by simpa) (by
      rw [← FileStore.isSome_itemAt, hi]
      rfl)
    rw [hid] at hd
    simp at hd
  rw [List.nil_append, hb]
  exact hi

/-- A directory is copied with all below it if its entries are.

**Proof sketch.** The files below the directory are those below its entries, so their number is the
sum over the entries. A location below the directory is that of the directory, which has its
counterpart, or lies below an entry. There its copy is seen after the turn of this entry, and the
later turns, which are those of its siblings, do not change it. -/
private lemma isComplete_of_entries (hs : s.LinkFree) {depth : ℕ} {ancestors : List Ancestor}
    (hentry : ∀ n k c d, IsName n → UnderWay source target s ls base names c →
      copyEntry source target depth ancestors ((source.descend names).child n) c = .ok k d →
      IsComplete s ls base (n :: names.reverse) k d)
    (h : UnderWay source target s ls base names a)
    (hd : s.entryAt (names.reverse ++ ls) = some .directory) {ks : List ℕ}
    (hfill : (s.namesIn (names.reverse ++ ls)).mapM (fun n =>
      copyEntry source target depth ancestors ((source.descend names).child n)) a = .ok ks b) :
    IsComplete s ls base names.reverse ks.sum b := by
  have hname : ∀ n ∈ s.namesIn (names.reverse ++ ls), IsName n :=
    fun _ hn => hs.wellFormed.isName_of_mem_namesIn hn
  have hkeeps : ∀ n ∈ s.namesIn (names.reverse ++ ls),
      Keeps (UnderWay source target s ls base names)
        (copyEntry source target depth ancestors ((source.descend names).child n)) :=
    fun n hn => keeps_copyEntry_underWay hs (hname n hn) depth ancestors
  constructor
  · have hks : ks = (s.namesIn (names.reverse ++ ls)).map fun n =>
        (filesToCopy s base (n :: (names.reverse ++ ls))).ncard := by
      refine mapM_eq_map hfill fun n hn k c d hturn => ?_
      exact (hentry n k c d (hname n hn) (hturn.keeps hkeeps h).1 hturn.run).count
    rw [ncard_filesToCopy_directory hs.wellFormed base hd, hks]
  · rintro r i ⟨front, rfl⟩ hout hi
    rcases List.eq_nil_or_concat' front with rfl | ⟨front, n, rfl⟩
    · -- the directory itself
      rw [List.nil_append] at hi ⊢
      rw [FileStore.itemAt_eq_directory_iff.2 hd] at hi
      have hb : UnderWay source target s ls base names b := (Keeps.mapM hkeeps).of_eq_ok hfill h
      rw [← hi, FileStore.itemAt_eq_directory_iff]
      exact (FileStore.node_eq_directory_iff.1 hb.counterpart.counterpart).2
    · -- an entry of the directory, or what is below it
      have hway : front ++ [n] ++ names.reverse = front ++ n :: names.reverse := by simp
      rw [hway] at hout hi ⊢
      have hn : n ∈ s.namesIn (names.reverse ++ ls) := by
        rw [FileStore.mem_namesIn_iff]
        apply hs.wellFormed.isSome_of_suffix (m := front ++ n :: names.reverse ++ ls)
        · rw [List.append_assoc]
          exact List.suffix_append front _
        · rw [← FileStore.isSome_itemAt, hi]
          rfl
      obtain ⟨k, c, d, -, hturn⟩ := exists_turn hfill hn
      have hc := (hturn.keeps hkeeps h).1
      have hcopy := (hentry n k c d (hname n hn) hc hturn.run).itemAt _ i
        (List.suffix_append front _) hout hi
      refine hturn.keeps_after
        (P := fun t => t.itemAt (front ++ n :: names.reverse ++ base) = some i)
        ((FileStore.pairwise_namesIn hs.wellFormed _).imp fun h => Name.ne_of_lt h)
        (fun n' hn' hne k' c' d' hturn' hc' => ?_) hcopy
      rw [(hturn'.keeps hkeeps h).1.itemAt_of_sibling hs (hname n' hn') hne hturn'.run
        (List.suffix_append front _), hc']

/-- **An entry that is copied is copied with all below it**, and its files are counted.

**Proof sketch.** By induction on the depth. The target is passed over, with nothing below it to be
copied; a file is one file, and its copy holds what it held at the start. A directory is complete
because its entries are (`isComplete_of_entries`), from the state in which its counterpart was
made. -/
theorem copyEntry_complete (hs : s.LinkFree) {n : Name} (hn : IsName n) {depth k : ℕ}
    {ancestors : List Ancestor} (h : UnderWay source target s ls base names a)
    (hrun : copyEntry source target depth ancestors ((source.descend names).child n) a = .ok k b) :
    IsComplete s ls base (n :: names.reverse) k b := by
  induction depth generalizing ancestors names n a k b with
  | zero => exact absurd hrun (copyEntry_zero_ne_ok ancestors _)
  | succ depth ih =>
    have hfree := hs.grows h.only.grows
    obtain ⟨hfits, hcopied⟩ := (copyEntry_eq_ok_iff hfree h.counterpart hn).1 hrun
    cases hcopied with
    | skipped he hbase =>
      exact isComplete_of_within ⟨[], hbase.symm⟩
    | @file _ id he hwrite =>
      have hne := h.counterpart.ne_of_file he
      have hitem : s.itemAt (n :: (names.reverse ++ ls)) = some (.file (a.contentsOf id)) := by
        rw [← h.itemAt_entry hne, FileStore.itemAt_eq_file_iff]
        exact ⟨id, he, rfl⟩
      obtain ⟨j, hj, -⟩ := FileStore.itemAt_eq_file_iff.1 hitem
      refine isComplete_of_file hs.wellFormed hj (h.isCopied (by rw [he]; rfl) hne).outside ?_
      rw [List.cons_append, List.cons_append, hitem,
        FileStore.itemAt_of_write h.counterpart.counterpart hn hfree hwrite, if_pos rfl]
    | @directory c _ ks he hbase hmake hfill =>
      have hrev : (names ++ [n]).reverse = n :: names.reverse := by simp
      have hd : s.entryAt (n :: (names.reverse ++ ls)) = some .directory := by
        rw [← FileStore.itemAt_eq_directory_iff, ← h.itemAt_entry hbase,
          FileStore.itemAt_eq_directory_iff, he]
      rw [h.namesIn_entry hs hbase, ← Path.descend_append_singleton source names n] at hfill
      rw [← hrev]
      apply isComplete_of_entries hs (fun _ _ _ _ hname hc hrun' => ih hname hc hrun')
        (h.enter hs hn hfits he hbase hmake)
      · rw [hrev, List.cons_append, hd]
      · rw [hrev, List.cons_append]
        exact hfill

end CopyTree

/-! ## Copying a tree -/

section Tree

open CopyTree

variable {source target : Path} {s : FileStore} {ls base : Location} (hs : s.LinkFree)
  (hsource : s.node source = .ok (.directory ls))
  (htarget : s.node target = .ok (.directory base)) (hout : ¬base <:+ ls)

include hsource htarget hout

/-- The walk starts at the two directories. -/
private lemma CopyTree.underWay_start : UnderWay source target s ls base [] s :=
  ⟨.refl s ls base, FileStore.bytes_ne_nil_of_node hsource, by simp, htarget, hsource,
    htarget, hout⟩

include hs

/-- Copying a tree changes copies only, whether it succeeds or fails. -/
lemma onlyCopies_copyTree : OnlyCopies s ls base (stateAfter (copyTree source target) s) := by
  rw [copyTree, stateAfter_get_bind]
  cases hv : visited s [] source with
  | error e => exact .refl s ls base
  | ok node =>
    obtain rfl : .directory ls = node :=
      Except.ok.inj (hsource.symm.trans ((visited_eq_ok_iff hs).1 hv).2)
    refine (Keeps.foldlM (fun k name hname => ?_) 0 s
      (underWay_start hsource htarget hout)).only
    have hname' : IsName name :=
      hs.wellFormed.isName name ls (FileStore.mem_namesIn_iff.1 hname)
    have hentry : Keeps (UnderWay source target s ls base []) (copyEntry source target
        FileStore.pathLimit [⟨.directory ls, source⟩] (source.child name)) :=
      keeps_copyEntry_underWay hs hname' _ _
    exact hentry.bind fun _ => Keeps.pure _

/-- **A copy lays the source tree over the target, and nothing else**, on a disk without links and
if the source directory does not lie in the target. The target may lie in the source tree: what lies
in it is not copied. A copy that succeeds counts the files it was to copy; each of them is found
below the target with what it holds, and so is each directory; and no other place looks different. A
copy that fails has made some of these copies and changed nothing else.

**Proof sketch.** Each step of the walk writes at the copy of the entry it is at, which lies below
the target, and the walk does not enter the target; so it sees the source tree as it was
(`CopyTree.keeps_copyEntry_underWay`). By induction on the depth, an entry that is copied is copied
with all below it, and its siblings are copied elsewhere (`CopyTree.copyEntry_complete`). -/
theorem copyTree_overlays :
    (∀ k t, copyTree source target s = .ok k t →
      k = {m | (∃ id, s.entryAt m = some (.file id)) ∧ ls <:+ m ∧ ¬base <:+ m}.ncard ∧
      (∀ r c, s.itemAt (r ++ ls) = some (.file c) → ¬base <:+ r ++ ls →
        t.itemAt (r ++ base) = some (.file c)) ∧
      (∀ r, s.itemAt (r ++ ls) = some .directory → ¬base <:+ r ++ ls →
        t.itemAt (r ++ base) = some .directory) ∧
      OnlyCopies s ls base t) ∧
    ∀ e t, copyTree source target s = .error e t → OnlyCopies s ls base t := by
  have honly := onlyCopies_copyTree hs hsource htarget hout
  refine ⟨fun k t hrun => ?_, fun e t hrun => ?_⟩
  · obtain ⟨-, ks, hfill, rfl⟩ := (copyTree_eq_ok_iff hs hsource).1 hrun
    have hcomplete : IsComplete s ls base [] ks.sum t :=
      isComplete_of_entries hs (fun _ _ _ _ hname hc hrun' => copyEntry_complete hs hname hc hrun')
        (underWay_start hsource htarget hout) (FileStore.node_eq_directory_iff.1 hsource).2 hfill
    rw [stateAfter, hrun] at honly
    exact ⟨hcomplete.count, fun r c hr hr' => hcomplete.itemAt r _ List.nil_suffix hr' hr,
      fun r hr hr' => hcomplete.itemAt r _ List.nil_suffix hr' hr, honly⟩
  · rwa [stateAfter, hrun] at honly

end Tree

namespace CopyTree

/-- A source tree with a file at its top and one in a directory, where the target lies that holds a
file already. -/
def nestedTarget : FileStore :=
  (((((({} : FileStore).setEntry ["s".toList] .directory).setEntry ["d".toList, "s".toList]
    .directory).setEntry ["o".toList, "d".toList, "s".toList] .directory).newFile
    ["a".toList, "s".toList] (.text "1".toList)).newFile ["b".toList, "d".toList, "s".toList]
    (.text "2".toList)).newFile ["c".toList, "o".toList, "d".toList, "s".toList] (.text "3".toList)

/-- The tree after it was copied. -/
def nestedTargetCopied : FileStore :=
  ((nestedTarget.newFile ["a".toList, "o".toList, "d".toList, "s".toList]
    (.text "1".toList)).setEntry ["d".toList, "o".toList, "d".toList, "s".toList]
      .directory).newFile
    ["b".toList, "d".toList, "o".toList, "d".toList, "s".toList] (.text "2".toList)

/-- There are no links in the tree. -/
lemma linkFree_nestedTarget : nestedTarget.LinkFree := by
  have hmade : made [.makeDirectories ⟨"s/d/o".toList⟩, .write ⟨"s/a".toList⟩ (.text "1".toList),
      .write ⟨"s/d/b".toList⟩ (.text "2".toList),
      .write ⟨"s/d/o/c".toList⟩ (.text "3".toList)] = nestedTarget := by
    cbv
  rw [← hmade]
  exact linkFree_made (by simp [Change.MakesNoLink])

end CopyTree

open CopyTree in
/-- The file in the directory is copied, the target is not, and the file that it held stays. -/
theorem copyTree_overlays_nestedTarget :
    copyTree ⟨"s".toList⟩ ⟨"s/d/o".toList⟩ nestedTarget = .ok 2 nestedTargetCopied ∧
      nestedTargetCopied.itemAt ["b".toList, "d".toList, "o".toList, "d".toList, "s".toList] =
        some (.file (.text "2".toList)) ∧
      nestedTargetCopied.itemAt ["o".toList, "d".toList, "o".toList, "d".toList, "s".toList] =
        none ∧
      nestedTargetCopied.itemAt ["c".toList, "o".toList, "d".toList, "s".toList] =
        some (.file (.text "3".toList)) := by
  have hsource : nestedTarget.node ⟨"s".toList⟩ = .ok (.directory ["s".toList]) := by cbv
  have htarget : nestedTarget.node ⟨"s/d/o".toList⟩ =
      .ok (.directory ["o".toList, "d".toList, "s".toList]) := by cbv
  have hrun : copyTree ⟨"s".toList⟩ ⟨"s/d/o".toList⟩ nestedTarget = .ok 2 nestedTargetCopied := by
    cbv
  obtain ⟨-, hfile, -, honly⟩ :=
    (copyTree_overlays linkFree_nestedTarget hsource htarget (by decide)).1 2
      nestedTargetCopied hrun
  refine ⟨hrun, hfile ["b".toList, "d".toList] _ rfl (by decide), ?_, ?_⟩
  · rw [honly.itemAt]
    · rfl
    · intro r hr heq
      have hway : (["o".toList, "d".toList] : Location) ++ _ = r ++ _ := heq
      obtain rfl := List.append_cancel_right hway
      exact hr.outside (by decide)
  · rw [honly.itemAt]
    · rfl
    · intro r hr heq
      have hway : (["c".toList] : Location) ++ _ = r ++ _ := heq
      obtain rfl := List.append_cancel_right hway
      exact absurd hr.entry (by decide)

end StaticSite
