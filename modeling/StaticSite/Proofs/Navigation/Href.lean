import Mathlib
import StaticSite.Navigation.List
import StaticSite.Proofs.Path.Tidied

set_option relaxedAutoImplicit false
set_option autoImplicit false

/-!
# The target that links to a page

A page below the directory of the site is linked by the way to it from there. A page elsewhere is
linked as it is, up to what its path can do without. The target joins components with slashes, and
the root is a component that is written as a slash itself: an absolute path that is linked as it
is gets a second slash in front.

A target is a text, and the way that it stands for is made of bytes. Nothing is lost between the
two if the path of the page is written as a text itself.

## Main definitions

* `StaticSite.Path.IsText` — a path that is written as a text.
* `StaticSite.NavPage.way` — the way that a target stands for.

## Main results

* `StaticSite.NavPage.way_below`, `StaticSite.NavPage.way_elsewhere` — the way to a page below a
  directory and to one elsewhere.
* `StaticSite.NavPage.href_eq`, `StaticSite.NavPage.way_eq_href` — a target shows the way, and the
  way to a page whose path is a text is read back from its target.
* `StaticSite.NavPage.href_spec` — where the target leads and how it is written, for all
  directories and paths.
-/

namespace StaticSite

open StaticSite.Name (slash)

namespace Path

/-! ## Paths that are texts -/

/-- A path that is written as a text. -/
def IsText (p : Path) : Prop := ∃ t : Text, p = ⟨Utf8.encode t⟩

/-- Bytes without a slash belong to the first segment of what they stand in front of. -/
private lemma segments_append {s : List UInt8} (hs : slash ∉ s) (t : List UInt8) :
    ∃ first rest, segments t = first :: rest ∧ segments (s ++ t) = (s ++ first) :: rest := by
  induction s with
  | nil =>
    obtain ⟨first, rest, h⟩ := List.exists_cons_of_ne_nil (segments_ne_nil t)
    exact ⟨first, rest, h, h⟩
  | cons b s ih =>
    rw [List.mem_cons, not_or] at hs
    obtain ⟨first, rest, h, hcons⟩ := ih hs.2
    refine ⟨first, rest, h, ?_⟩
    rw [List.cons_append, segments, if_neg (Ne.symm hs.1), hcons]
    rfl

/-- Only a slash has the byte of one. -/
private lemma slash_notMem_encodeChar {c : Char} (hc : c ≠ '/') : slash ∉ Utf8.encodeChar c := by
  intro hmem
  by_cases hascii : c.toNat < 0x80
  · rw [Utf8.encodeChar_of_ascii hascii, List.mem_singleton] at hmem
    have hn : c.toNat = 0x2f := by
      have := congrArg UInt8.toNat hmem
      rw [UInt8.toNat_ofNat', Nat.mod_eq_of_lt (by omega)] at this
      exact this.symm
    exact hc (Char.toNat_inj.1 hn)
  · exact absurd (Utf8.le_of_mem_encodeChar (Nat.not_lt.1 hascii) hmem) (by decide)

/-- The segments of a text are texts.

**Proof sketch.** By induction on the text. The bytes of a character hold no slash unless it is
one, so each character that is none goes into the first segment whole. -/
private lemma exists_text_of_mem_segments {t : Text} {s : List UInt8}
    (h : s ∈ segments (Utf8.encode t)) : ∃ u, s = Utf8.encode u := by
  induction t generalizing s with
  | nil => exact ⟨[], by simpa [Utf8.encode, segments] using h⟩
  | cons c t ih =>
    rw [Utf8.encode_cons] at h
    by_cases hc : c = '/'
    · have hslash : Utf8.encodeChar c = [slash] := by rw [hc]; rfl
      rw [hslash, List.singleton_append, segments, if_pos rfl] at h
      rcases List.mem_cons.1 h with rfl | h
      · exact ⟨[], rfl⟩
      · exact ih h
    · obtain ⟨first, rest, hseg, happend⟩ :=
        segments_append (slash_notMem_encodeChar hc) (Utf8.encode t)
      rw [happend] at h
      rw [hseg] at ih
      rcases List.mem_cons.1 h with rfl | h
      · obtain ⟨u, rfl⟩ := ih List.mem_cons_self
        exact ⟨c :: u, (Utf8.encode_cons c u).symm⟩
      · exact ih (List.mem_cons_of_mem _ h)

/-- The components of a text are texts.

**Proof sketch.** The bytes of a component are a slash or one of the segments
(`map_bytes_components`), and the segments of a text are texts, since no character has a slash
among its bytes (`exists_text_of_mem_segments`). -/
private lemma IsText.exists_text {p : Path} (hp : p.IsText) {c : Component}
    (hc : c ∈ p.components) :
    ∃ u, c.bytes = Utf8.encode u := by
  obtain ⟨t, rfl⟩ := hp
  have hbytes : c.bytes ∈ (Path.mk (Utf8.encode t)).components.map Component.bytes :=
    List.mem_map_of_mem hc
  rw [map_bytes_components, List.mem_append] at hbytes
  rcases hbytes with hroot | hkept
  · refine ⟨['/'], ?_⟩
    split at hroot
    · exact List.mem_singleton.1 hroot
    · simp at hroot
  · -- what counts of a path are some of its segments
    apply exists_text_of_mem_segments (t := t)
    unfold keptSegments at hkept
    split at hkept
    · simp at hkept
    · next first rest hseg =>
      rw [hseg]
      rcases List.mem_cons.1 (List.mem_of_mem_filter hkept) with rfl | hkept
      · exact List.mem_cons_self
      · exact List.mem_cons_of_mem _ (List.mem_of_mem_filter hkept)

/-- Texts with slashes between them are a text. -/
private lemma exists_text_joinWith {parts : List (List UInt8)}
    (h : ∀ s ∈ parts, ∃ u, s = Utf8.encode u) :
    ∃ u, Text.joinWith [slash] parts = Utf8.encode u := by
  induction parts with
  | nil => exact ⟨[], rfl⟩
  | cons s parts ih =>
    rw [List.forall_mem_cons] at h
    obtain ⟨⟨u, rfl⟩, hparts⟩ := h
    obtain ⟨v, hv⟩ := ih hparts
    cases parts with
    | nil => exact ⟨u, rfl⟩
    | cons next parts =>
      refine ⟨u ++ '/' :: v, ?_⟩
      rw [Text.joinWith, hv, Utf8.encode_append, Utf8.encode_cons, List.append_assoc]
      · rfl
      · simp

end Path

namespace NavPage

open StaticSite.Path (Component)

variable {directory path : Path} {rest : List Component}

/-! ## The way to a page -/

/-- The way to a page from a directory: the target of a link to it, before it is made a text. -/
def way (directory path : Path) : Path :=
  ⟨Text.joinWith [slash]
    (((path.relativeTo? directory).getD path).components.map Component.bytes)⟩

/-- The way to **a page below a directory** is made of the components behind those of the
directory. -/
lemma way_below (h : path.components = directory.components ++ rest) :
    way directory path = ⟨Text.joinWith [slash] (rest.map Component.bytes)⟩ := by
  have hrest : path.relativeTo? directory = some (Path.ofComponents rest) := by
    rw [Path.relativeTo?, h, Path.dropComponents?_append, Option.map_some]
  -- what is left is a path with these components, whether the directory has any or not
  have hread : (Path.ofComponents rest).components = rest := by
    cases hd : directory.components with
    | nil =>
      obtain ⟨front, inner, heq, hfront, hinner⟩ := Path.exists_front_components path
      rw [hd, List.nil_append] at h
      rw [← h, heq]
      exact Path.components_ofComponents hfront hinner
    | cons first cs =>
      rw [hd] at h
      exact Path.components_ofComponents .relative (Path.isInner_of_components_eq h)
  rw [way, hrest, Option.getD_some, hread]

/-- The way to **a page that is not below a directory** is made of all its components. -/
lemma way_elsewhere (h : ¬directory.components <+: path.components) :
    way directory path = ⟨Text.joinWith [slash] (path.components.map Component.bytes)⟩ := by
  have hnone : path.relativeTo? directory = none := by
    rw [Path.relativeTo?, Option.map_eq_none_iff, Option.eq_none_iff_forall_ne_some]
    exact fun rest hrest => h ⟨rest, (Path.dropComponents?_eq_some_iff.1 hrest).symm⟩
  rw [way, hnone, Option.getD_none]

/-- The way leads from the directory to the page.

**Proof sketch.** Below the directory the way is the components behind those of the directory,
joined by slashes. Behind a directory these are inner components, and follow its own
(`components_join`); from the empty path they are the whole path. -/
private lemma components_join_way (h : directory.components <+: path.components) :
    (directory.join (way directory path)).components = path.components := by
  obtain ⟨rest, hrest⟩ := h
  rw [way_below hrest.symm]
  cases hd : directory.components with
  | nil =>
    -- from the empty path the way is taken as it is
    have hjoin : directory.join ⟨Text.joinWith [slash] (rest.map Component.bytes)⟩ =
        ⟨Text.joinWith [slash] (rest.map Component.bytes)⟩ := by
      unfold Path.join
      simp [Path.components_eq_nil_iff.1 hd]
    rw [hd, List.nil_append] at hrest
    obtain ⟨front, inner, heq, hfront, hinner⟩ := Path.exists_front_components path
    rw [hjoin, hrest, heq]
    exact Path.components_joinWith hfront hinner
  | cons first cs =>
    have hne : directory.bytes ≠ [] := fun ht => by
      simp [Path.components_eq_nil_iff.2 ht] at hd
    have hinner : ∀ c ∈ rest, c.IsInner :=
      Path.isInner_of_components_eq (by rw [← hrest, hd])
    rw [Path.components_join hne hinner, hrest]

/-- A way that is taken from a directory does not start with a slash. -/
private lemma isAbsolute_way (hd : directory.bytes ≠ [])
    (h : directory.components <+: path.components) : (way directory path).isAbsolute = false := by
  obtain ⟨rest, hrest⟩ := h
  obtain ⟨first, cs, hcs⟩ :=
    List.exists_cons_of_ne_nil fun hnil => hd (Path.components_eq_nil_iff.1 hnil)
  have hinner : ∀ c ∈ rest, c.IsInner := Path.isInner_of_components_eq (by rw [← hrest, hcs])
  rw [way_below hrest.symm]
  exact Path.isAbsolute_joinWith_inner hinner

/-- Pages below the directory are reached by the same way exactly if they are alike. -/
private lemma way_eq_way_iff {other : Path} (h : directory.components <+: path.components)
    (hother : directory.components <+: other.components) :
    way directory other = way directory path ↔ other.alike path = true := by
  rw [Path.alike, beq_iff_eq]
  constructor
  · intro heq
    rw [← components_join_way h, ← components_join_way hother, heq]
  · intro heq
    obtain ⟨rest, hrest⟩ := h
    rw [way_below hrest.symm, way_below (heq.trans hrest.symm)]

/-! ## The target as a text -/

/-- **A target shows the way** to the page. -/
lemma href_eq (directory path : Path) :
    (NavPage.of directory path).href = (way directory path).text := by
  unfold NavPage.of way Path.text
  simp only [Name.decodeWithReplacement_joinWith, List.map_map]
  rfl

/-- The way to a page whose path is a text is a text. -/
private lemma isText_way (hpath : path.IsText) : (way directory path).IsText := by
  obtain ⟨cs, hcs, hway⟩ : ∃ cs : List Component, (∀ c ∈ cs, c ∈ path.components) ∧
      way directory path = ⟨Text.joinWith [slash] (cs.map Component.bytes)⟩ := by
    by_cases h : directory.components <+: path.components
    · obtain ⟨rest, hrest⟩ := h
      exact ⟨rest, fun c hc => hrest ▸ List.mem_append_right _ hc, way_below hrest.symm⟩
    · exact ⟨_, fun c hc => hc, way_elsewhere h⟩
  have hparts : ∀ s ∈ cs.map Component.bytes, ∃ u, s = Utf8.encode u :=
    List.forall_mem_map.2 fun c hc => hpath.exists_text (hcs c hc)
  obtain ⟨u, hu⟩ := Path.exists_text_joinWith hparts
  exact ⟨u, by rw [hway, hu]⟩

/-- **The way to a page whose path is a text** is read back from its target. -/
lemma way_eq_href (hpath : path.IsText) :
    way directory path = ⟨(NavPage.of directory path).href⟩ := by
  obtain ⟨u, hu⟩ : (way directory path).IsText := isText_way hpath
  rw [href_eq, hu, Path.text, Utf8.decodeWithReplacement_encode]

/-- **Where the target of a page leads, and how it is written.** For a page below the directory of
the site whose path is a text, in terms of components, the target leads from the directory to the
page, and only pages that are alike have the same one. Any page below the directory has a target
without a slash in front, unless the directory is the empty path. In all other cases the target
is the path without what it can do without, and an absolute path other than the root has one
slash too many in front.

**Proof sketch.** The target shows a way that is made of components (`href_eq`). All of this holds
of the way: joined components are read back (`Path.components_joinWith`), and behind those of a
directory none is the root. A way made of texts is what its target encodes (`way_eq_href`), and
whether a slash stands in front is seen from the first byte. -/
theorem href_spec (directory path : Path) :
    (path.IsText → directory.components <+: path.components →
      (directory.join ⟨(NavPage.of directory path).href⟩).components = path.components ∧
      ∀ other : Path, other.IsText → directory.components <+: other.components →
        ((NavPage.of directory other).href = (NavPage.of directory path).href ↔
          other.alike path = true)) ∧
    if directory.bytes ≠ [] ∧ directory.components <+: path.components then
      (NavPage.of directory path).href.head? ≠ some '/'
    else
      (NavPage.of directory path).href =
        if path.isAbsolute ∧ path.components ≠ [.root] then '/' :: path.tidied.text
        else path.tidied.text := by
  refine ⟨fun hpath h => ⟨?_, fun other hother h' => ?_⟩, ?_⟩
  · rw [← way_eq_href hpath]
    exact components_join_way h
  · rw [← way_eq_way_iff h h', way_eq_href hpath, way_eq_href hother, Path.mk.injEq,
      Utf8.encode_injective.eq_iff]
  split
  · next h =>
    intro hslash
    rw [href_eq] at hslash
    have hfirst := Utf8.head?_of_decodeWithReplacement (by decide) (by decide) hslash
    have habs := isAbsolute_way h.1 h.2
    rw [Path.isAbsolute, hfirst] at habs
    exact absurd habs (by decide)
  · next h =>
    have hall : way directory path =
        ⟨Text.joinWith [slash] (path.components.map Component.bytes)⟩ := by
      by_cases hprefix : directory.components <+: path.components
      · have hempty : directory.components = [] := by
          rw [Path.components_eq_nil_iff]
          by_contra hne
          exact h ⟨hne, hprefix⟩
        exact way_below (by rw [hempty, List.nil_append])
      · exact way_elsewhere hprefix
    rw [href_eq, hall, Path.joinWith_bytes_components, Path.text]
    split
    · have h := Name.decodeWithReplacement_append_slash [] path.tidied.bytes
      rwa [List.nil_append, Utf8.decodeWithReplacement_nil, List.nil_append] at h
    · rfl

example : (NavPage.of ⟨"/site/build".toList⟩ ⟨"/other/a.html".toList⟩).href =
    "//other/a.html".toList := by cbv

end NavPage

end StaticSite
