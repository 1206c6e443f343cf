import Mathlib
import StaticSite.Build.CopyTree
import StaticSite.Navigation.List
import StaticSite.Page.Build
import StaticSite.Proofs.Name
import StaticSite.Proofs.Path.Child

set_option relaxedAutoImplicit false
set_option autoImplicit false

/-!
# What a build computes from the name of a file

The extension of a file, the target of a link to it, the place it is copied to and the file that
its page is written to depend on its name alone, and not on how its directory is written.

## Main definitions

* `StaticSite.Path.descend` — the path below a directory along some names.
* `StaticSite.Page.outputName` — the name of the file that the page of a Markdown file is written
  to.

## Main results

* `StaticSite.Path.hasExtension_iff` — a name has an extension if it ends in a dot and the
  extension, with something in front.
* `StaticSite.CopyTree.targetOf_descend` — what is copied keeps its names.
* `StaticSite.NavPage.href_child` — a page is linked by its file name.
* `StaticSite.Page.outputOf_child`, `StaticSite.Page.outputName_of_stem` — a page lies beside its
  source and has the same stem.
-/

namespace StaticSite

open StaticSite.Name (slash dot)

namespace Path

/-! ## Stem and extension -/

/-- The file name of an entry is its name. -/
lemma fileName?_child {p : Path} (hp : p.bytes ≠ []) {n : Name} (hn : IsName n) :
    (p.child n).fileName? = some n := by
  rw [fileName?, components_child hp hn]
  simp

/-- A name is its own file name. -/
private lemma fileName?_name {n : Name} (hn : IsName n) : (Path.mk n).fileName? = some n := by
  rw [fileName?, components_name hn]
  simp

/-- The extension of an entry is that of its name. -/
private lemma extension?_child {p : Path} (hp : p.bytes ≠ []) {n : Name} (hn : IsName n) :
    (p.child n).extension? = (Path.mk n).extension? := by
  rw [extension?, extension?, fileName?_child hp hn, fileName?_name hn]

/-- Whether an entry has an extension depends on its name. -/
lemma hasExtension_child {p : Path} (hp : p.bytes ≠ []) {n : Name} (hn : IsName n) (e : Name) :
    (p.child n).hasExtension e = (Path.mk n).hasExtension e := by
  rw [hasExtension, hasExtension, extension?_child hp hn]

/-- Behind the last dot of a name there are the bytes that are no dots. -/
private lemma takeWhile_ne_dot {e : Name} (he : dot ∉ e) (stem : Name) :
    (stem ++ dot :: e).reverse.takeWhile (· != dot) = e.reverse := by
  have hall : ∀ c ∈ e.reverse, (c != dot) = true := by
    intro c hc
    have : c ≠ dot := fun h => he (h ▸ List.mem_reverse.1 hc)
    simpa using this
  rw [List.reverse_append, List.reverse_cons, List.append_assoc,
    List.takeWhile_append_of_pos hall]
  simp

/-- A name is cut at its last dot if something stands in front of it. -/
lemma splitName_of_stem {stem e : Name} (hstem : stem ≠ []) (he : dot ∉ e) :
    splitName (stem ++ dot :: e) = (stem, some e) := by
  unfold splitName
  simp only [takeWhile_ne_dot he, List.reverse_reverse]
  have hlen : (stem ++ dot :: e).length - e.length - 1 = stem.length := by
    rw [List.length_append, List.length_cons]
    omega
  rw [hlen, List.take_left, if_pos]
  refine ⟨?_, hstem⟩
  rw [List.length_append, List.length_cons]
  omega

/-- A name with a dot in front only has no extension. -/
private lemma splitName_of_leadingDot {e : Name} (he : dot ∉ e) :
    splitName (dot :: e) = (dot :: e, none) := by
  have htake := takeWhile_ne_dot he []
  rw [List.nil_append] at htake
  unfold splitName
  simp only [htake, List.reverse_reverse]
  simp

/-- A name without a dot has no extension. -/
private lemma splitName_of_notMem {n : Name} (h : dot ∉ n) : splitName n = (n, none) := by
  have htake : n.reverse.takeWhile (· != dot) = n.reverse := by
    rw [List.takeWhile_eq_self_iff]
    intro c hc
    have : c ≠ dot := fun heq => h (heq ▸ List.mem_reverse.1 hc)
    simpa using this
  unfold splitName
  simp [htake]

/-- A name with an extension is the stem, a dot and the extension.

**Proof sketch.** The last dot of the name is the first one from its end, so it splits the name
into what the extension and the stem would be (`splitName_of_stem`), unless it is at the start,
where no stem is left (`splitName_of_leadingDot`). -/
lemma eq_of_splitName {n stem e : Name} (h : splitName n = (stem, some e)) :
    n = stem ++ dot :: e ∧ stem ≠ [] ∧ dot ∉ e := by
  by_cases hdot : dot ∈ n
  · -- the last dot of the name is the first one from its end
    obtain ⟨back, front, hreverse, hback⟩ := List.eq_append_cons_of_mem (List.mem_reverse.2 hdot)
    have he : dot ∉ back.reverse := fun hm => hback (List.mem_reverse.1 hm)
    obtain rfl : n = front.reverse ++ dot :: back.reverse := by
      rw [← List.reverse_reverse n, hreverse]
      simp
    by_cases hstem : front.reverse = []
    · rw [hstem, List.nil_append, splitName_of_leadingDot he] at h
      simp at h
    · rw [splitName_of_stem hstem he] at h
      obtain ⟨rfl, rfl⟩ : front.reverse = stem ∧ back.reverse = e := by simpa using h
      exact ⟨rfl, hstem, he⟩
  · rw [splitName_of_notMem hdot] at h
    simp at h

/-- **A name has an extension** exactly if it ends in a dot and the extension in some case, with
a stem in front. -/
lemma hasExtension_iff {n : Name} (hn : IsName n) (ext : Name) :
    (Path.mk n).hasExtension ext = true ↔
      ∃ stem e, n = stem ++ dot :: e ∧ stem ≠ [] ∧ dot ∉ e ∧ Name.equalsCaseless e ext = true := by
  rw [hasExtension, extension?, fileName?_name hn, Option.bind_some]
  constructor
  · intro h
    cases he : (splitName n).2 with
    | none => simp [he] at h
    | some e =>
      rw [he] at h
      obtain ⟨hname, hstem, hdot⟩ := eq_of_splitName (Prod.ext rfl he)
      exact ⟨_, e, hname, hstem, hdot, h⟩
  · rintro ⟨stem, e, rfl, hstem, hdot, he⟩
    rw [splitName_of_stem hstem hdot]
    exact he

/-! ## Paths along some names -/

/-- The path below a directory along some names. -/
def descend (p : Path) (names : List Name) : Path := names.foldl child p

@[simp]
lemma descend_nil (p : Path) : p.descend [] = p := rfl

/-- The last name is that of an entry. -/
lemma descend_append_singleton (p : Path) (names : List Name) (n : Name) :
    p.descend (names ++ [n]) = (p.descend names).child n := by
  rw [descend, List.foldl_append]
  rfl

/-- A path along some names is written. -/
private lemma bytes_descend_ne_nil {p : Path} (hp : p.bytes ≠ []) {names : List Name}
    (h : ∀ n ∈ names, IsName n) : (p.descend names).bytes ≠ [] := by
  induction names using List.reverseRecOn with
  | nil => exact hp
  | append_singleton names n ih =>
    rw [descend_append_singleton]
    refine bytes_child_ne_nil (ih fun m hm => h m ?_) (h n ?_) <;> simp_all

/-- The components of a path along some names are those of the directory and the names. -/
private lemma components_descend {p : Path} (hp : p.bytes ≠ []) {names : List Name}
    (h : ∀ n ∈ names, IsName n) :
    (p.descend names).components = p.components ++ names.map Component.name := by
  induction names using List.reverseRecOn with
  | nil => simp
  | append_singleton names n ih =>
    have hnames : ∀ m ∈ names, IsName m := fun m hm => h m (by simp [hm])
    rw [descend_append_singleton, components_child (bytes_descend_ne_nil hp hnames) (h n (by simp)),
      ih hnames]
    simp

/-- A path along some names is that of the directory and the names, with slashes between them. -/
private lemma bytes_descend {p : Path} (hp : p.bytes ≠ []) {names : List Name}
    (h : ∀ n ∈ names, IsName n) (hne : names ≠ []) :
    (p.descend names).bytes = p.base ++ Text.joinWith [slash] names := by
  induction names generalizing p with
  | nil => exact absurd rfl hne
  | cons n names ih =>
    have hn : IsName n := h n List.mem_cons_self
    have hnames : ∀ m ∈ names, IsName m := fun m hm => h m (List.mem_cons_of_mem _ hm)
    show ((p.child n).descend names).bytes = _
    cases names with
    | nil =>
      rw [descend_nil, bytes_child hp hn.noSlash]
      rfl
    | cons m names =>
      rw [ih (bytes_child_ne_nil hp hn) hnames (List.cons_ne_nil _ _), base, getLast?_child hp hn,
        bytes_child hp hn.noSlash]
      simp [Text.joinWith]

/-! ## The rest of a path below a directory -/

/-- What follows a start is the rest. -/
lemma dropComponents?_append (cs ds : List Component) :
    dropComponents? cs (cs ++ ds) = some ds := by
  induction cs with
  | nil => rfl
  | cons c cs ih => rw [List.cons_append, dropComponents?, if_pos rfl, ih]

/-- What is left of a path behind other components. -/
lemma dropComponents?_eq_some_iff {base cs rest : List Component} :
    dropComponents? base cs = some rest ↔ cs = base ++ rest := by
  induction base generalizing cs with
  | nil => simp [dropComponents?, eq_comm]
  | cons b base ih =>
    cases cs with
    | nil => simp [dropComponents?]
    | cons c cs =>
      by_cases h : b = c
      · simp [dropComponents?, h, ih]
      · simp [dropComponents?, h, Ne.symm h]

/-- A path made of names is written with slashes between them. -/
private lemma ofComponents_map_name (names : List Name) :
    ofComponents (names.map Component.name) = ⟨Text.joinWith [slash] names⟩ := by
  have hmap : (names.map Component.name).map Component.bytes = names := by
    rw [List.map_map]
    exact List.map_id names
  unfold ofComponents
  split
  · next h =>
    cases names <;> simp at h
  · rw [hmap]

/-- The rest of a path along some names is the names. -/
private lemma relativeTo?_descend {p : Path} (hp : p.bytes ≠ []) {names : List Name}
    (h : ∀ n ∈ names, IsName n) :
    (p.descend names).relativeTo? p = some ⟨Text.joinWith [slash] names⟩ := by
  rw [relativeTo?, components_descend hp h, dropComponents?_append, Option.map_some,
    ofComponents_map_name]

end Path

/-- **What is copied keeps its names**: the target of a path along some names is the path along
the same names below the target directory.

**Proof sketch.** The path of an entry relative to the source is written by its names with slashes
between them. That does not start with a slash, so it is put behind the target, and the result is
how the path along the names below the target is written (`bytes_descend`). -/
lemma CopyTree.targetOf_descend {source target : Path} (hsource : source.bytes ≠ [])
    (htarget : target.bytes ≠ []) {names : List Name} (h : ∀ n ∈ names, Path.IsName n)
    (hne : names ≠ []) :
    CopyTree.targetOf source target (source.descend names) = target.descend names := by
  rw [targetOf, Path.relativeTo?_descend hsource h]
  obtain ⟨n, rest, rfl⟩ := List.exists_cons_of_ne_nil hne
  have hn : Path.IsName n := h n List.mem_cons_self
  have htext : target.bytes.isEmpty = false := by simpa using htarget
  -- the names do not start with a slash, so they are taken from the target directory
  have habs : (Path.mk (Text.joinWith [slash] (n :: rest))).isAbsolute = false := by
    obtain ⟨c, t, rfl⟩ := List.exists_cons_of_ne_nil hn.ne_nil
    have hc : c ≠ slash := fun hc => hn.noSlash (hc ▸ List.mem_cons_self)
    unfold Path.isAbsolute
    cases rest <;> simpa [Text.joinWith] using hc
  have hjoin : target.join ⟨Text.joinWith [slash] (n :: rest)⟩ =
      ⟨target.base ++ Text.joinWith [slash] (n :: rest)⟩ := by
    rw [Path.join, habs, htext, Path.base]
    by_cases hlast : (target.bytes.getLast? == some slash) = true
    · simp [hlast]
    · simp [hlast]
  show target.join ⟨Text.joinWith [slash] (n :: rest)⟩ = target.descend (n :: rest)
  rw [hjoin, ← Path.bytes_descend htarget h hne]

/-- **A page is linked by its file name** from its directory, as the name is shown. -/
lemma NavPage.href_child {directory : Path} (hd : directory.bytes ≠ []) {n : Name}
    (hn : Path.IsName n) : (NavPage.of directory (directory.child n)).href = n.text := by
  have hrest : (directory.child n).relativeTo? directory = some ⟨n⟩ := by
    have hnames : ∀ m ∈ [n], Path.IsName m := by simpa using hn
    simpa [Path.descend, Text.joinWith] using Path.relativeTo?_descend hd hnames
  unfold NavPage.of
  simp only [hrest, Option.getD_some, Path.components_name hn]
  rfl

/-- A byte that belongs to no character is replaced, and so the target is not the name. -/
example : (NavPage.of ⟨"b".toList⟩ ⟨Utf8.encode "b/".toList ++ 0xff :: Utf8.encode ".html".toList⟩
    ).href = "\ufffd.html".toList := by
  cbv

/-! ## The output of a page -/

namespace Path

/-- A slash at the end is dropped. -/
@[simp]
lemma dropTail_slash (t : List UInt8) : dropTail (slash :: t) = dropTail t := rfl

/-- A current directory at the end is dropped. -/
@[simp]
lemma dropTail_dot_slash (t : List UInt8) : dropTail (dot :: slash :: t) = dropTail t := rfl

/-- A dot behind something else than a slash is no current directory at the end. -/
lemma dropTail_dot {c : UInt8} (hc : c ≠ slash) (t : List UInt8) :
    dropTail (dot :: c :: t) = dot :: c :: t := by
  unfold dropTail
  split
  · next heq => simp at heq
  · next heq =>
    obtain ⟨h, -⟩ : c = slash ∧ _ := by simpa using heq
    exact absurd h hc
  · rfl

/-- The path of a file with another extension: what stands in front of the file name is kept, and
the stem of the name gets the new extension. The stem `.` with the dot behind it names the
directory above, and gets none.

**Proof sketch.** The length of the old extension is cut off, which leaves the stem with a dot
behind it. If the stem is a dot, this is no file name, so nothing is put in its place. Otherwise it
is a file name with an empty extension, and the new extension is put in its place. -/
private lemma withExtension_of_stem (front : List UInt8) (ext : Name) {stem e : Name}
    (hstem : stem ≠ []) (hslash : slash ∉ stem)
    (hext : (Path.mk (front ++ (stem ++ dot :: e))).extension? = some e)
    (hname : stem ≠ [dot] → (Path.mk (front ++ (stem ++ [dot]))).fileName? = some (stem ++ [dot]))
    (hdots : (Path.mk (front ++ [dot, dot])).fileName? = none) :
    (Path.mk (front ++ (stem ++ dot :: e))).withExtension ext =
      ⟨front ++ if stem = [dot] then [dot, dot] else stem ++ dot :: ext⟩ := by
  have htake : (front ++ (stem ++ dot :: e)).take
      ((front ++ (stem ++ dot :: e)).length - e.length) = front ++ (stem ++ [dot]) := by
    have hsplit : front ++ (stem ++ dot :: e) = front ++ (stem ++ [dot]) ++ e := by simp
    rw [hsplit, List.length_append, Nat.add_sub_cancel, List.take_left]
  unfold withExtension
  rw [hext]
  simp only [htake]
  unfold replaceExtension
  by_cases hdot : stem = [dot]
  · subst hdot
    simp only [List.singleton_append, hdots, if_true]
  · -- the last byte of the stem is no slash, so the dot behind it stays
    have htail : (dropTail (front ++ (stem ++ [dot])).reverse).reverse =
        front ++ (stem ++ [dot]) := by
      obtain ⟨c, t, hct⟩ := List.exists_cons_of_ne_nil (List.reverse_ne_nil_iff.2 hstem)
      have hc : c ≠ slash := by
        intro h
        apply hslash
        rw [← List.mem_reverse, hct, h]
        exact List.mem_cons_self
      have hrev : (front ++ (stem ++ [dot])).reverse = dot :: c :: (t ++ front.reverse) := by
        simp [List.reverse_append, hct]
      rw [hrev, dropTail_dot hc, ← hrev, List.reverse_reverse]
    have hfront : (front ++ (stem ++ [dot])).take
        ((front ++ (stem ++ [dot])).length - (stem ++ [dot]).length) = front := by
      rw [List.length_append, Nat.add_sub_cancel, List.take_left]
    have hsplit : splitName (stem ++ [dot]) = (stem, some []) :=
      splitName_of_stem hstem (by simp)
    simp only [hname hdot, htail, hfront, hsplit, if_neg hdot]
    simp

end Path

namespace Page

/-- No extension is that of Markdown files and that of pages. -/
lemma not_markdown_of_html {p : Path} (hhtml : p.hasExtension outputExtension = true) :
    ¬p.hasExtension sourceExtension = true := by
  intro hmarkdown
  unfold Path.hasExtension Name.equalsCaseless at hmarkdown hhtml
  cases he : p.extension? with
  | none => simp [he] at hmarkdown
  | some e =>
    simp only [he, beq_iff_eq] at hmarkdown hhtml
    rw [hmarkdown] at hhtml
    exact absurd hhtml (by decide)

/-- The name of the file that the page of a Markdown file of the given name is written to. -/
def outputName (n : Name) : Name := (outputOf ⟨n⟩).bytes

/-- A stem with a dot behind it is a name, unless it is a dot itself. -/
private lemma isName_stem_dot {stem e : Name} (hn : Path.IsName (stem ++ dot :: e))
    (hstem : stem ≠ []) (hdot : stem ≠ [dot]) : Path.IsName (stem ++ [dot]) := by
  have hslash : slash ∉ stem := fun h => hn.noSlash (List.mem_append_left _ h)
  refine ⟨by simp, ?_, ?_, ?_⟩
  · simp [hslash]
  · intro h
    have h' : stem ++ [dot] = [] ++ [dot] := h
    exact hstem (List.append_cancel_right h')
  · intro h
    have h' : stem ++ [dot] = [dot] ++ [dot] := h
    exact hdot (List.append_cancel_right h')

/-- **The name of a page** is the stem of its source with the extension of pages. The stem `.`
makes no page: its output would be the directory above. -/
lemma outputName_of_stem {stem e : Name} (hn : Path.IsName (stem ++ dot :: e)) (hstem : stem ≠ [])
    (he : dot ∉ e) :
    outputName (stem ++ dot :: e) =
      if stem = [dot] then [dot, dot] else stem ++ dot :: outputExtension := by
  have hext : (Path.mk ([] ++ (stem ++ dot :: e))).extension? = some e := by
    rw [List.nil_append, Path.extension?, Path.fileName?_name hn, Option.bind_some,
      Path.splitName_of_stem hstem he]
  have hslash : slash ∉ stem := fun h => hn.noSlash (List.mem_append_left _ h)
  have h := Path.withExtension_of_stem [] outputExtension hstem hslash hext
    (fun hdot => Path.fileName?_name (isName_stem_dot hn hstem hdot)) (by decide)
  exact congrArg Path.bytes h

/-- A page has the extension of pages, and its name is one, unless its source has the stem `.`.

**Proof sketch.** The stem is neither empty nor holds a slash, so with another extension it is a
proper name. Only the stem `.` does not get the extension, and what is left of it is `..`. -/
lemma outputName_spec {n : Name} (hn : Path.IsName n) {ext : Name}
    (hext : (Path.mk n).hasExtension ext = true) :
    outputName n = [dot, dot] ∨
      Path.IsName (outputName n) ∧
        (Path.mk (outputName n)).hasExtension outputExtension = true := by
  obtain ⟨stem, e, rfl, hstem, he, -⟩ := (Path.hasExtension_iff hn ext).1 hext
  have hslash : slash ∉ stem := fun h => hn.noSlash (List.mem_append_left _ h)
  rw [outputName_of_stem hn hstem he]
  split
  · exact Or.inl rfl
  · have hname : Path.IsName (stem ++ dot :: outputExtension) := by
      obtain ⟨c, t, rfl⟩ := List.exists_cons_of_ne_nil hstem
      have hhtml : slash ∉ outputExtension := by decide
      refine ⟨by simp, ?_, by simp, ?_⟩
      · simp only [List.mem_append, List.mem_cons, not_or]
        exact ⟨by simpa using hslash, by decide, hhtml⟩
      · intro h
        have := congrArg List.length h
        have hlength : outputExtension.length = 4 := rfl
        simp [hlength] at this
    refine Or.inr ⟨hname, ?_⟩
    exact (Path.hasExtension_iff hname _).2
      ⟨stem, outputExtension, rfl, hstem, by decide, by decide⟩

/-- **A page lies beside its source.**

**Proof sketch.** The base of the directory stands in front of the name as it is, so this is the
case of `withExtension_of_stem` where the front is that base: neither the name nor what replaces it
holds a slash. -/
lemma outputOf_child {p : Path} (hp : p.bytes ≠ []) {n : Name} (hn : Path.IsName n) {ext : Name}
    (hext : (Path.mk n).hasExtension ext = true) :
    outputOf (p.child n) = p.child (outputName n) := by
  obtain ⟨stem, e, rfl, hstem, he, -⟩ := (Path.hasExtension_iff hn ext).1 hext
  have hslash : slash ∉ stem := fun h => hn.noSlash (List.mem_append_left _ h)
  have hchild : ∀ t : Name, slash ∉ t → p.child t = ⟨p.base ++ t⟩ := fun t ht =>
    congrArg Path.mk (Path.bytes_child hp ht)
  have hdots : (p.child [dot, dot]).fileName? = none := by
    rw [Path.fileName?,
      Path.components_child_segment hp (by simp) (by rfl : _ = some Path.Component.parent)
        (by simp)]
    simp
  have h := Path.withExtension_of_stem p.base outputExtension hstem hslash
    (by rw [← hchild _ hn.noSlash, Path.extension?, Path.fileName?_child hp hn, Option.bind_some,
      Path.splitName_of_stem hstem he])
    (fun hdot => by
      have hname := isName_stem_dot hn hstem hdot
      rw [← hchild _ hname.noSlash]
      exact Path.fileName?_child hp hname)
    (by rw [← hchild _ (by simp)]; exact hdots)
  have hout : slash ∉ (if stem = [dot] then [dot, dot] else stem ++ dot :: outputExtension) := by
    have hhtml : slash ∉ outputExtension := by decide
    split <;> simp [hslash, hhtml]
  rw [outputName_of_stem hn hstem he, hchild _ hn.noSlash, hchild _ hout]
  exact h

end Page

end StaticSite
