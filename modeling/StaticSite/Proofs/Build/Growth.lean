import Mathlib
import StaticSite.Proofs.Build.Run
import StaticSite.Proofs.Navigation.Resolve
import StaticSite.Proofs.Page.Build

set_option relaxedAutoImplicit false
set_option autoImplicit false

/-!
# A build removes nothing

Every pass of a build changes the files by elementary steps only, whether it succeeds or fails: the
copy makes directories and writes files, the later passes write files.

## Main results

* `StaticSite.grows_buildSiteWith` — a build removes nothing, even if it fails.
* `StaticSite.BuildRun.grows_copy`, `StaticSite.BuildRun.rewrites_pages`,
  `StaticSite.BuildRun.rewrites_navigation` — what the passes of a successful build do.
-/

namespace StaticSite

open StaticSite.Action
open StaticSite.FileStore (Step Writes Grows Rewrites)

section Keeps

variable {I : FileStore → Prop}

/-! ## The copy -/

namespace CopyTree

/-- Copying a file or making a directory keeps what is kept by making its target. -/
lemma keeps_copyNode {q : Path} (hdirectory : Keeps I (FileStore.createDirectories q))
    (hfile : ∀ c, Keeps I (FileStore.write q c)) (node : Node) (p : Path) :
    Keeps I (copyNode node p q) := by
  refine Keeps.get_bind fun s hs => ?_
  split
  · exact hs
  · cases node with
    | directory l => exact (hdirectory.adaptExcept _).bind (fun _ => Keeps.pure 0) s hs
    | file id =>
      exact ((FileStore.keeps_copyFile_of hfile p).adaptExcept _).bind (fun _ => Keeps.pure 1) s hs

section Paths

variable {source target : Path} {P : Path → Prop}
  (hnode : ∀ p, P p → ∀ node, Keeps I (copyNode node p (targetOf source target p)))
  (hchild : ∀ s node p n, I s → P p → n ∈ namesOf s node → P (p.child n))

include hnode hchild

/-- Copying an entry with all below it keeps what is kept by copying each of them alone, if all of
them have paths of some kind. -/
private lemma keeps_copyEntry_of (depth : Nat) (ancestors : List Ancestor) {p : Path} (hp : P p) :
    Keeps I (copyEntry source target depth ancestors p) := by
  induction depth generalizing ancestors p with
  | zero => exact Keeps.throw _
  | succ depth ih =>
    refine Keeps.get_bind fun s hs => ?_
    cases visited s ancestors p with
    | error e => exact hs
    | ok node =>
      dsimp only
      split
      · exact hs
      · refine ((hnode p hp node).bind fun copied => ?_) s hs
        refine Keeps.foldlM (fun n name hname => ?_) copied
        exact (ih _ (hchild s node p name hs hp hname)).bind fun m => Keeps.pure _

/-- Copying a tree keeps what is kept by copying each of its entries alone. -/
lemma keeps_copyTree_of (hsource : P source) : Keeps I (copyTree source target) := by
  refine Keeps.get_bind fun s hs => ?_
  cases CopyTree.visited s [] source with
  | error e => exact hs
  | ok node =>
    refine Keeps.foldlM (fun n name hname => ?_) 0 s hs
    exact (keeps_copyEntry_of hnode hchild _ _ (hchild s node source name hs hsource hname)).bind
      fun m => Keeps.pure _

end Paths

section Steps

variable (hI : ∀ s t, Step s t → I s → I t)

include hI

/-- Copying a file or making a directory keeps what the steps keep. -/
private lemma keeps_copyNode_of_steps (node : Node) (p q : Path) : Keeps I (copyNode node p q) :=
  keeps_copyNode (FileStore.keeps_createDirectories hI q)
    (fun c => FileStore.keeps_write (fun s t h => hI s t (.write h)) q c) node p

/-- Copying an entry with all below it keeps what the steps keep. -/
lemma keeps_copyEntry (source target : Path) (depth : Nat) (ancestors : List Ancestor)
    (p : Path) : Keeps I (copyEntry source target depth ancestors p) :=
  keeps_copyEntry_of (P := fun _ => True) (fun p _ node => keeps_copyNode_of_steps hI node p _)
    (fun _ _ _ _ _ _ _ => trivial) depth ancestors trivial

end Steps

end CopyTree

/-- Copying a tree keeps what the steps keep. -/
theorem keeps_copyTree (hI : ∀ s t, Step s t → I s → I t) (source target : Path) :
    Keeps I (copyTree source target) :=
  CopyTree.keeps_copyTree_of (P := fun _ => True)
    (fun p _ node => CopyTree.keeps_copyNode_of_steps hI node p _)
    (fun _ _ _ _ _ _ _ => trivial) trivial

/-! ## Navigation -/

/-- A turn of the navigation pass keeps what overwriting the page keeps. -/
lemma Build.keeps_fillIn {page : NavPage}
    (hI : ∀ s id c, s.node page.path = .ok (.file id) → I s → I (s.setContents id c))
    (includeSelf : Bool) (generated : List Path) (all : List NavPage) :
    Keeps I (Build.fillIn includeSelf generated all page) :=
  (Navigation.keeps_resolve hI _).bind fun _ => Keeps.pure _

/-- The turn of a page keeps what replacing its text by the one with the list keeps. -/
lemma Build.keeps_fillIn_text {page : NavPage}
    (hI : ∀ s id t list, s.node page.path = .ok (.file id) → s.contentsOf id = .text t →
      (Navigation.filled list t).text ≠ t → I s →
        I (s.setContents id (.text (Navigation.filled list t).text)))
    (includeSelf : Bool) (generated : List Path) (all : List NavPage) :
    Keeps I (Build.fillIn includeSelf generated all page) :=
  (Navigation.keeps_resolve_text hI _).bind fun _ => Keeps.pure _

end Keeps

/-- A turn of the navigation pass changes no path, and no file that the path of the page does not
lead to. -/
lemma Build.keeps_other_file {page : NavPage} {id : FileId} {c : Contents}
    {node : Path → Except FileError Node} (h : node page.path ≠ .ok (.file id))
    (includeSelf : Bool) (generated : List Path) (all : List NavPage) :
    Keeps (fun t : FileStore => t.contentsOf id = c ∧ ∀ p, t.node p = node p)
      (Build.fillIn includeSelf generated all page) := by
  refine Build.keeps_fillIn (fun t i d hi ht => ⟨?_, fun p => ?_⟩) _ _ _
  · rw [FileStore.contentsOf_setContents, if_neg, ht.1]
    rintro rfl
    rw [ht.2] at hi
    exact h hi
  · rw [FileStore.node_setContents, ht.2]

/-! ## Whole builds -/

/-- Growth is kept by every step. -/
lemma FileStore.Grows.step {s : FileStore} : ∀ t u, Step t u → Grows s t → Grows s u :=
  fun _ _ h hs => Relation.ReflTransGen.tail hs h

/-- Growth by written files is kept when a file is written. -/
lemma FileStore.Rewrites.write {s : FileStore} :
    ∀ t u, Writes t u → Rewrites s t → Rewrites s u :=
  fun _ _ h hs => Relation.ReflTransGen.tail hs h

/-- Copying a tree only adds to the files. -/
lemma grows_of_copyTree {source target : Path} {s t : FileStore} {k : ℕ}
    (h : copyTree source target s = .ok k t) : Grows s t :=
  (keeps_copyTree FileStore.Grows.step source target).of_eq_ok h .refl

/-- Building the pages writes files. -/
lemma Build.rewrites_of_pages {extensions : Markdown.Extensions} {template : Path}
    {sources : List Path} {s t : FileStore} {built : List BuiltPage}
    (h : Build.pages extensions template sources s = .ok built t) : Rewrites s t :=
  (Keeps.mapM fun source _ =>
    Page.keeps_build FileStore.Rewrites.write extensions template source).of_eq_ok h .refl

/-- Filling in the lists of some pages writes files. -/
lemma Build.rewrites_of_filled {includeSelf : Bool} {generated : List Path}
    {all pages : List NavPage} {s t : FileStore} {navigated : List NavigatedPage}
    (h : pages.mapM (fillIn includeSelf generated all) s = .ok navigated t) : Rewrites s t :=
  (Keeps.mapM fun _ _ => keeps_fillIn (fun t _ c hid =>
    FileStore.Rewrites.write t _ (FileStore.writes_setContents hid c)) _ _ _).of_eq_ok h .refl

namespace Build

/-- An action on the files keeps of a build what it keeps of the files. -/
private lemma keeps_onStore {ε α : Type} {I : FileStore → Prop} (wrap : ε → BuildError)
    {x : FileAction ε α} (h : Keeps I x) : Keeps (fun b => I b.store) (onStore wrap x) := by
  intro b hb
  have hx := h b.store hb
  unfold stateAfter at hx ⊢
  unfold onStore
  cases hxb : x b.store <;> simpa [hxb] using hx

/-- A question keeps everything. -/
private lemma keeps_ask {ε α : Type} {I : BuildState → Prop} (wrap : ε → BuildError)
    (q : FileStore → Except ε α) : Keeps I (ask wrap q) := by
  refine Keeps.get_bind fun b hb => ?_
  unfold stateAfter
  cases q b.store <;> exact hb

/-- Reporting keeps everything about the files. -/
private lemma keeps_report {I : FileStore → Prop} (events : List BuildEvent) :
    Keeps (fun b => I b.store) (report events) := fun _ hb => hb

/-- The navigation pass keeps what overwriting a file keeps. -/
private lemma keeps_navigate {I : FileStore → Prop}
    (hI : ∀ s p id c, s.node p = .ok (.file id) → I s → I (s.setContents id c))
    (includeSelf : Bool) (generated : List Path) (all : List NavPage) :
    Keeps (fun b => I b.store) (navigate includeSelf generated all) := by
  refine Keeps.mapM fun page _ => ?_
  refine (keeps_onStore _ (Navigation.keeps_resolve (fun s => hI s page.path) _)).bind fun _ => ?_
  exact (keeps_report _).bind fun _ => Keeps.pure _

end Build

/-- **A build removes nothing**, whether it succeeds or fails. -/
theorem grows_buildSiteWith (source build : Path) (config : Config) (b : BuildState) :
    Grows b.store (stateAfter (buildSiteWith source build config) b).store := by
  have hstep := FileStore.Grows.step (s := b.store)
  have hwrite : ∀ t u, Writes t u → Grows b.store t → Grows b.store u :=
    fun t u h => hstep t u (.write h)
  have hall : Keeps (fun b' => Grows b.store b'.store) (buildSiteWith source build config) := by
    refine (Build.keeps_ask _ _).bind fun _ => ?_
    refine (Build.keeps_onStore _ (keeps_copyTree hstep _ _)).bind fun _ => ?_
    refine (Build.keeps_report _).bind fun _ => ?_
    refine (Build.keeps_ask _ _).bind fun _ => (Build.keeps_ask _ _).bind fun _ => ?_
    refine (Build.keeps_onStore _ (Keeps.mapM fun source _ =>
      Page.keeps_build hwrite _ _ source)).bind fun _ => ?_
    refine (Build.keeps_report _).bind fun _ => (Build.keeps_ask _ _).bind fun all => ?_
    exact (Build.keeps_navigate (fun t _ _ c hid => hwrite t _ (FileStore.writes_setContents hid c))
      _ _ _).bind fun _ => Keeps.pure _
  exact hall b .refl

/-- A build directory that is accepted is one. -/
lemma Build.node_of_checkDirectories {source build : Path} {s : FileStore}
    (h : Build.checkDirectories source build s = .ok ()) :
    ∃ l, s.node build = .ok (.directory l) := by
  unfold Build.checkDirectories at h
  split_ifs at h with hsource hbuild
  exact FileStore.isDirectory_iff.1 (by simpa using hbuild)

namespace BuildRun

variable {source build : Path} {config : Config} {s after : FileStore}

/-- The copy only adds to the files. -/
lemma grows_copy (r : BuildRun source build config s after) : Grows s r.afterCopy :=
  grows_of_copyTree r.copy

/-- Building the pages writes files. -/
lemma rewrites_pages (r : BuildRun source build config s after) :
    Rewrites r.afterCopy r.afterPages :=
  Build.rewrites_of_pages r.paged

/-- The navigation pass writes files. -/
lemma rewrites_navigation (r : BuildRun source build config s after) :
    Rewrites r.afterPages after :=
  Build.rewrites_of_filled r.filled

/-- The files stay well-formed. -/
lemma wellFormed_afterCopy (r : BuildRun source build config s after) (hs : s.WellFormed) :
    r.afterCopy.WellFormed :=
  r.grows_copy.wellFormed hs

/-- The files stay well-formed while the pages are built. -/
lemma wellFormed_afterPages (r : BuildRun source build config s after) (hs : s.WellFormed) :
    r.afterPages.WellFormed :=
  r.rewrites_pages.grows.wellFormed (r.wellFormed_afterCopy hs)

/-- The build directory is one. -/
lemma node_build (r : BuildRun source build config s after) :
    ∃ l, s.node build = .ok (.directory l) :=
  Build.node_of_checkDirectories r.checked

end BuildRun

end StaticSite
