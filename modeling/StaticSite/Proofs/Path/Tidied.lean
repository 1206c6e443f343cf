import Mathlib
import StaticSite.Proofs.Path.FileName

set_option relaxedAutoImplicit false
set_option autoImplicit false

/-!
# Paths written with no more than they need

Paths that are alike differ in repeated slashes, in a slash at the end and in current directories
behind the first component. Without these a path is its components with slashes between them, and
what is put together in this way is read back component by component.

## Main definitions

* `StaticSite.Path.keptSegments` — the segments that count.
* `StaticSite.Path.tidied` — a path with the rest left out.
* `StaticSite.Path.Component.IsInner` — the components that can stand behind the first one.
* `StaticSite.Path.IsFront` — what can stand in front of them.

## Main results

* `StaticSite.Path.joinWith_bytes_components` — how the joined components of a path differ from
  the tidied path.
* `StaticSite.Path.components_joinWith` — joined components are read back.
* `StaticSite.Path.components_join` — behind a directory they follow its components.
-/

namespace StaticSite.Path

open StaticSite.Name (slash dot)

/-! ## Tidied paths -/

/-- The segments that say where a path leads: not those between two slashes in a row, and a current
directory only if it is the first. -/
def keptSegments (t : List UInt8) : List (List UInt8) :=
  match segments t with
  | [] => []
  | first :: rest => (first :: rest.filter (· != [dot])).filter (· != [])

/-- A path as it was written, without repeated slashes, slashes at the end and current
directories inside. An absolute path keeps one slash in front. -/
def tidied (p : Path) : Path :=
  ⟨(if p.isAbsolute then [slash] else []) ++ Text.joinWith [slash] (keptSegments p.bytes)⟩

example : tidied ⟨"/a//./b/../c./".toList⟩ = ⟨"/a/b/../c.".toList⟩ := by decide

/-- The component that a segment denotes is written as that segment. -/
lemma bytes_of_ofSegment? {s : List UInt8} {c : Component} (h : Component.ofSegment? s = some c) :
    c.bytes = s := by
  unfold Component.ofSegment? at h
  split_ifs at h with _ hcurrent hparent
  · obtain rfl : Component.current = c := by simpa using h
    exact hcurrent.symm
  · obtain rfl : Component.parent = c := by simpa using h
    exact hparent.symm
  · obtain rfl : Component.name s = c := by simpa using h
    rfl

/-- Only a single dot denotes the current directory. -/
private lemma ofSegment?_eq_current_iff {s : List UInt8} :
    Component.ofSegment? s = some .current ↔ s = [dot] := by
  unfold Component.ofSegment?
  split_ifs <;> simp_all

/-- Only the empty segment denotes nothing. -/
lemma ofSegment?_eq_none_iff {s : List UInt8} : Component.ofSegment? s = none ↔ s = [] := by
  unfold Component.ofSegment?
  split_ifs <;> simp_all

/-- Behind the first segment those count that are neither empty nor a single dot. -/
private lemma map_bytes_filterMap (l : List (List UInt8)) :
    ((l.filterMap Component.ofSegment?).filter (· != .current)).map Component.bytes =
      (l.filter (· != [dot])).filter (· != []) := by
  induction l with
  | nil => rfl
  | cons s l ih =>
    cases h : Component.ofSegment? s with
    | none =>
      have hs : s = [] := ofSegment?_eq_none_iff.1 h
      rw [List.filterMap_cons_none h, ih, hs]
      simp
    | some c =>
      have hs : s ≠ [] := fun hs => by simp [ofSegment?_eq_none_iff.2 hs] at h
      rw [List.filterMap_cons_some h]
      by_cases hc : c = .current
      · have hdot : s = [dot] := ofSegment?_eq_current_iff.1 (hc ▸ h)
        simpa [hc, hdot] using ih
      · have hdot : s ≠ [dot] := fun hdot => by
          rw [ofSegment?_eq_current_iff.2 hdot] at h
          exact hc (by simpa using h.symm)
        simpa [hc, hdot, hs, bytes_of_ofSegment? h] using ih

/-- **The components of a path** are written as the segments that count, behind the root of an
absolute path.

**Proof sketch.** The first segment of an absolute path is empty and the root stands for it; that
of another path is never left out, even if it is a single dot. The segments behind it are those of
`map_bytes_filterMap`. -/
lemma map_bytes_components (p : Path) :
    p.components.map Component.bytes =
      (if p.isAbsolute then [[slash]] else []) ++ keptSegments p.bytes := by
  rw [components_eq_walk, walk, keptSegments, isAbsolute]
  cases ht : p.bytes with
  | nil => simp [segments, Component.ofSegment?]
  | cons c t =>
    by_cases hc : c = slash
    · have hempty : Component.ofSegment? [] = none := rfl
      have hroot : Component.root.bytes = [slash] := rfl
      simpa [hc, segments, hempty, hroot] using map_bytes_filterMap (segments t)
    · obtain ⟨a, l, ha⟩ : ∃ a l, segments (c :: t) = (c :: a) :: l := by
        rw [segments, if_neg hc]
        cases segments t with
        | nil => exact ⟨_, _, rfl⟩
        | cons a l => exact ⟨_, _, rfl⟩
      cases hd : Component.ofSegment? (c :: a) with
      | none => simp [ofSegment?_eq_none_iff] at hd
      | some d => simpa [ha, hc, hd, bytes_of_ofSegment? hd] using map_bytes_filterMap l

/-- The root is the only absolute path without segments that count. -/
private lemma components_eq_root_iff {p : Path} (habs : p.isAbsolute = true) :
    p.components = [.root] ↔ keptSegments p.bytes = [] := by
  have h := map_bytes_components p
  rw [if_pos habs, List.singleton_append] at h
  constructor
  · intro hroot
    rw [hroot] at h
    exact (List.cons.inj h).2.symm
  · intro hkept
    rw [hkept] at h
    obtain ⟨c, hc, htext⟩ := List.map_eq_singleton_iff.1 h
    rw [hc]
    -- an absolute path starts with the root
    have hwalk := components_eq_walk p
    rw [walk, if_pos habs, List.singleton_append, hc] at hwalk
    exact congrArg (fun c => [c]) (List.cons.inj hwalk).1

/-- **The joined components of a path** are the tidied path, except that the root is joined to
what follows it by a second slash. -/
lemma joinWith_bytes_components (p : Path) :
    Text.joinWith [slash] (p.components.map Component.bytes) =
      if p.isAbsolute ∧ p.components ≠ [.root] then slash :: p.tidied.bytes
      else p.tidied.bytes := by
  rw [map_bytes_components, tidied]
  cases habs : p.isAbsolute with
  | false => simp
  | true =>
    have hroot := components_eq_root_iff habs
    cases h : keptSegments p.bytes with
    | nil => simp [Text.joinWith, hroot.2 h]
    | cons s l =>
      have hne : p.components ≠ [.root] := fun heq => by simp [hroot.1 heq] at h
      simp [Text.joinWith, hne]

/-! ## The components that can follow each other -/

/-- A component that can stand behind the first one: the directory above or a name. -/
def Component.IsInner : Component → Prop
  | .parent => True
  | .name n => IsName n
  | _ => False

/-- What can stand in front of the inner components of a path. -/
inductive IsFront : List Component → Prop
  /-- Nothing, in front of a relative path. -/
  | relative : IsFront []
  /-- The current directory, in front of a relative path. -/
  | current : IsFront [.current]
  /-- The root. -/
  | absolute : IsFront [.root]

/-- An inner component is what its bytes denote. -/
private lemma Component.IsInner.ofSegment? {c : Component} (h : c.IsInner) :
    Component.ofSegment? c.bytes = some c := by
  cases c with
  | parent => rfl
  | name n => exact IsName.ofSegment? h
  | _ => exact h.elim

/-- No inner component holds a slash. -/
private lemma Component.IsInner.noSlash {c : Component} (h : c.IsInner) : Name.slash ∉ c.bytes := by
  cases c with
  | parent => simp [Component.bytes]
  | name n => exact IsName.noSlash h
  | _ => exact h.elim

/-- No inner component is the current directory. -/
private lemma Component.IsInner.ne_current {c : Component} (h : c.IsInner) : c ≠ .current := by
  rintro rfl
  exact h

/-- What segments denote is inner, up to current directories. -/
private lemma isInner_of_mem_segments {t : List UInt8} {c : Component}
    (h : c ∈ (segments t).filterMap Component.ofSegment?) (hc : c ≠ .current) : c.IsInner := by
  obtain ⟨s, hs, heq⟩ := List.mem_filterMap.1 h
  cases c with
  | root => exact (ofSegment?_ne s).1 heq
  | slash => exact (ofSegment?_ne s).2 heq
  | current => exact hc rfl
  | parent => trivial
  | name n => exact (ofSegment?_eq_name (noSlash_of_mem_segments hs) heq).2

/-- **The components of a path** are inner ones behind a front.

**Proof sketch.** By cases on the first component: the root, a current directory, or an inner one.
Everything behind it is no root, since no segment is one, and no current directory, since those are
left out. -/
lemma exists_front_components (p : Path) :
    ∃ front inner, p.components = front ++ inner ∧ IsFront front ∧
      ∀ c ∈ inner, c.IsInner := by
  have hinner : ∀ l : List Component,
      (∀ c ∈ l, c ∈ (segments p.bytes).filterMap Component.ofSegment?) →
      ∀ c ∈ l.filter (· != .current), c.IsInner := fun l hl c hc => by
    obtain ⟨hmem, hne⟩ := List.mem_filter.1 hc
    exact isInner_of_mem_segments (hl c hmem) (by simpa using hne)
  rw [components_eq_walk, walk]
  cases habs : p.isAbsolute with
  | true =>
    exact ⟨[.root], _, by simp only [if_true, List.singleton_append], .absolute,
      hinner _ fun c hc => hc⟩
  | false =>
    simp only [Bool.false_eq_true, if_false, List.nil_append]
    cases hseg : (segments p.bytes).filterMap Component.ofSegment? with
    | nil => exact ⟨[], [], rfl, .relative, by simp⟩
    | cons first rest =>
      have hrest := hinner rest fun c hc => by rw [hseg]; exact List.mem_cons_of_mem _ hc
      by_cases hfirst : first = .current
      · exact ⟨[.current], _, by rw [hfirst]; rfl, .current, hrest⟩
      · refine ⟨[], first :: rest.filter (· != .current), rfl, .relative, ?_⟩
        rw [List.forall_mem_cons]
        exact ⟨isInner_of_mem_segments (by rw [hseg]; exact List.mem_cons_self) hfirst, hrest⟩

/-- Behind some components of a path all are inner. -/
lemma isInner_of_components_eq {p : Path} {first : Component} {cs rest : List Component}
    (h : p.components = first :: cs ++ rest) : ∀ c ∈ rest, c.IsInner := by
  obtain ⟨front, inner, heq, hfront, hinner⟩ := exists_front_components p
  rw [heq] at h
  intro c hc
  apply hinner
  cases hfront with
  | relative =>
    obtain rfl : inner = first :: cs ++ rest := h
    exact List.mem_append_right _ hc
  | current | absolute =>
    obtain rfl : inner = cs ++ rest := (List.cons.inj h).2
    exact List.mem_append_right _ hc

/-! ## Reading joined components -/

/-- Joined parts without slashes are the segments of what they make. -/
private lemma segments_joinWith {ts : List (List UInt8)} (hne : ts ≠ []) (h : ∀ t ∈ ts, slash ∉ t) :
    segments (Text.joinWith [slash] ts) = ts := by
  induction ts with
  | nil => exact absurd rfl hne
  | cons t ts ih =>
    rw [List.forall_mem_cons] at h
    cases ts with
    | nil => exact segments_of_noSlash h.1
    | cons u ts =>
      rw [Text.joinWith, List.append_assoc, List.singleton_append, segments_append_slash,
        segments_of_noSlash h.1, ih (by simp) h.2]
      · rfl
      · simp

/-- Inner components are denoted by what joins theirs. -/
private lemma filterMap_segments_inner {inner : List Component} (h : ∀ c ∈ inner, c.IsInner) :
    (segments (Text.joinWith [slash] (inner.map Component.bytes))).filterMap
      Component.ofSegment? = inner := by
  cases inner with
  | nil => rfl
  | cons c inner =>
    have hslash : ∀ t ∈ (c :: inner).map Component.bytes, slash ∉ t := by
      rw [List.forall_mem_map]
      exact fun c hc => (h c hc).noSlash
    rw [segments_joinWith (by simp) hslash, List.filterMap_map]
    refine (List.filterMap_congr fun c hc => ?_).trans List.filterMap_some
    exact (h c hc).ofSegment?

/-- Inner components are written without a slash in front. -/
lemma isAbsolute_joinWith_inner {inner : List Component} (h : ∀ c ∈ inner, c.IsInner) :
    (Path.mk (Text.joinWith [slash] (inner.map Component.bytes))).isAbsolute = false := by
  cases inner with
  | nil => rfl
  | cons c inner =>
    have hc := h c List.mem_cons_self
    cases htext : c.bytes with
    | nil => simpa [htext, Component.ofSegment?] using hc.ofSegment?
    | cons a t =>
      have ha : a ≠ slash := fun ha => hc.noSlash (by simp [htext, ha])
      cases inner <;> simpa [isAbsolute, Text.joinWith, htext] using ha

/-- No inner component is left out for being the current directory. -/
private lemma filter_inner {inner : List Component} (h : ∀ c ∈ inner, c.IsInner) :
    inner.filter (· != .current) = inner := by
  rw [List.filter_eq_self]
  exact fun c hc => by simpa using (h c hc).ne_current

/-- A walk without current directories is the components. -/
private lemma components_of_walk {p : Path} {front inner : List Component} (hfront : IsFront front)
    (hinner : ∀ c ∈ inner, c.IsInner) (h : p.walk = front ++ inner) :
    p.components = front ++ inner := by
  rw [components_eq_walk, h]
  cases hfront with
  | relative =>
    cases inner with
    | nil => rfl
    | cons c inner =>
      rw [List.forall_mem_cons] at hinner
      simp [filter_inner hinner.2]
  | current | absolute => simp [filter_inner hinner]

/-- **Joined components are read back**, though the root is written with two slashes.

**Proof sketch.** The front decides whether what is joined starts with a slash or a dot. The
segments of inner components are these components again (`filterMap_segments_inner`), and an empty
segment, which stands between the two slashes behind a root, is left out. -/
lemma components_joinWith {front inner : List Component} (hfront : IsFront front)
    (hinner : ∀ c ∈ inner, c.IsInner) :
    (Path.mk (Text.joinWith [slash] ((front ++ inner).map Component.bytes))).components =
      front ++ inner := by
  apply components_of_walk hfront hinner
  have hseg := filterMap_segments_inner hinner
  have hempty : Component.ofSegment? [] = none := rfl
  have hdot : Component.ofSegment? [dot] = some .current := rfl
  unfold walk
  cases hfront with
  | relative => simpa [isAbsolute_joinWith_inner hinner] using hseg
  | current =>
    cases inner with
    | nil => rfl
    | cons c inner =>
      have hcurrent : Component.current.bytes = [dot] := rfl
      have habs : (Path.mk (dot :: slash ::
          Text.joinWith [slash] ((c :: inner).map Component.bytes))).isAbsolute = false := rfl
      simp only [List.map_cons] at hseg habs
      simp [Text.joinWith, hcurrent, segments, habs, hdot, hseg]
  | absolute =>
    cases inner with
    | nil => rfl
    | cons c inner =>
      have hroot : Component.root.bytes = [slash] := rfl
      have habs : (Path.mk (slash :: slash ::
          Text.joinWith [slash] ((c :: inner).map Component.bytes))).isAbsolute = true := rfl
      simp only [List.map_cons] at hseg habs
      simp [Text.joinWith, hroot, segments, habs, hempty, hseg]

/-- **A path is made of its components** and read back.

**Proof sketch.** By what the components begin with. Behind a root there is an absolute path whose
first segment is empty; in the other cases the components are joined by slashes, and inner
components are read back from such a text (`components_joinWith`). -/
lemma components_ofComponents {front inner : List Component} (hfront : IsFront front)
    (hinner : ∀ c ∈ inner, c.IsInner) :
    (ofComponents (front ++ inner)).components = front ++ inner := by
  cases hfront with
  | absolute =>
    have hempty : Component.ofSegment? [] = none := rfl
    have habs : (Path.mk (slash ::
        Text.joinWith [slash] (inner.map Component.bytes))).isAbsolute = true := rfl
    apply components_of_walk .absolute hinner
    simp [ofComponents, walk, habs, segments, hempty, filterMap_segments_inner hinner]
  | current => exact components_joinWith .current hinner
  | relative =>
    -- the first inner component is no root, so it is joined as the others
    have h : ofComponents ([] ++ inner) =
        ⟨Text.joinWith [slash] (([] ++ inner).map Component.bytes)⟩ := by
      unfold ofComponents
      split
      · next rest heq =>
        obtain rfl : inner = .root :: rest := heq
        exact (hinner .root List.mem_cons_self).elim
      · rfl
    rw [h]
    exact components_joinWith .relative hinner

/-- A path without bytes is the only one without components. -/
lemma components_eq_nil_iff {p : Path} : p.components = [] ↔ p.bytes = [] := by
  constructor
  · intro h
    by_contra hne
    rw [components_eq_walk] at h
    cases hw : p.walk with
    | nil => exact walk_ne_nil hne hw
    | cons first rest => simp [hw] at h
  · intro h
    obtain ⟨t⟩ := p
    obtain rfl : t = [] := h
    rfl

/-- **Inner components behind a directory** follow those of the directory.

**Proof sketch.** Inner components do not start with a slash, so they are put behind the base of
the directory, and the segments of the two are put together. Only the first segment of the whole
may be a current directory, and the directory has one at least (`walk_ne_nil`). -/
lemma components_join {p : Path} (hp : p.bytes ≠ []) {inner : List Component}
    (hinner : ∀ c ∈ inner, c.IsInner) :
    (p.join ⟨Text.joinWith [slash] (inner.map Component.bytes)⟩).components =
      p.components ++ inner := by
  set t := Text.joinWith [slash] (inner.map Component.bytes) with ht
  have habs : (Path.mk t).isAbsolute = false := isAbsolute_joinWith_inner hinner
  have htext : (p.join ⟨t⟩).bytes = p.base ++ t := by
    have hp' : p.bytes.isEmpty = false := by simpa using hp
    unfold join base
    rw [habs, hp']
    by_cases h : (p.bytes.getLast? == some slash) = true
    · simp [h]
    · simp [h]
  have hdir : (p.join ⟨t⟩).isAbsolute = p.isAbsolute := by
    unfold isAbsolute
    rw [htext, base]
    cases h : p.bytes with
    | nil => exact absurd h hp
    | cons c s => split <;> simp
  have hwalk : (p.join ⟨t⟩).walk = p.walk ++ inner := by
    rw [walk, walk, hdir, htext, filterMap_segments_base, ht, filterMap_segments_inner hinner,
      List.append_assoc]
  rw [components_eq_walk, components_eq_walk, hwalk]
  cases h : p.walk with
  | nil => exact absurd h (walk_ne_nil hp)
  | cons first rest => simp [filter_inner hinner]

/-! ## The file name at the end of a path -/

/-- The segments with slashes between them are the whole. -/
lemma joinWith_segments (t : List UInt8) : Text.joinWith [slash] (segments t) = t := by
  induction t with
  | nil => rfl
  | cons b t ih =>
    obtain ⟨first, rest, hseg⟩ := List.exists_cons_of_ne_nil (segments_ne_nil t)
    rw [hseg] at ih
    by_cases hb : b = slash
    · rw [segments, if_pos hb, hseg, Text.joinWith, ih, hb]
      · rfl
      · simp
    · rw [segments, if_neg hb, hseg]
      cases rest with
      | nil =>
        obtain rfl : first = t := ih
        rfl
      | cons next rest =>
        rw [Text.joinWith] at ih ⊢
        · rw [← ih]
          rfl
        · simp
        · simp

/-- Behind the segment of the file name there are only empty ones and current directories.

**Proof sketch.** The file name is the last component. The walk differs from the components only by
current directories, so these are all that stands behind the name there; and the segments differ
from the walk only by empty ones. -/
private lemma exists_segments_of_fileName? {p : Path} {n : Name} (h : p.fileName? = some n) :
    ∃ before after, segments p.bytes = before ++ n :: after ∧ IsName n ∧
      ∀ s ∈ after, s = [] ∨ s = [dot] := by
  obtain ⟨init, hinit⟩ : ∃ init, p.components = init ++ [.name n] := by
    unfold fileName? at h
    split at h
    · next m hlast =>
      obtain rfl : m = n := by simpa using h
      exact List.getLast?_eq_some_iff.1 hlast
    · simp at h
  -- what stands behind the name in the walk was left out
  obtain ⟨before, after, hwalk, hafter⟩ : ∃ before after, p.walk = before ++ .name n :: after ∧
      ∀ c ∈ after, c = .current := by
    have hfilter : p.walk.filter (· != .current) = init.filter (· != .current) ++ [.name n] := by
      have hcs := components_eq_walk p
      rw [hinit] at hcs
      cases hw : p.walk with
      | nil => simp [hw] at hcs
      | cons first rest =>
        rw [hw] at hcs
        have hcs' := congrArg (List.filter (· != Component.current)) hcs
        simpa [List.filter_append, List.filter_cons, List.filter_filter] using hcs'.symm
    obtain ⟨w₁, w₂, hw, -, hw₂⟩ := List.filter_eq_append_iff.1 hfilter
    obtain ⟨v₁, v₂, rfl, -, -, hv₂⟩ := List.filter_eq_cons_iff.1 hw₂
    exact ⟨w₁ ++ v₁, v₂, by rw [hw, List.append_assoc], by simpa using hv₂⟩
  obtain ⟨front, hfront⟩ : ∃ front,
      (segments p.bytes).filterMap Component.ofSegment? = front ++ .name n :: after := by
    unfold walk at hwalk
    split at hwalk
    · cases before with
      | nil => simp at hwalk
      | cons c before => exact ⟨before, (List.cons.inj hwalk).2⟩
    · exact ⟨before, hwalk⟩
  obtain ⟨l₁, l₂, hseg, -, hl₂⟩ := List.filterMap_eq_append_iff.1 hfront
  obtain ⟨k₁, s, k₂, rfl, -, hs, hk₂⟩ := List.filterMap_eq_cons_iff.1 hl₂
  have hslash : slash ∉ s := noSlash_of_mem_segments (t := p.bytes) (by rw [hseg]; simp)
  obtain ⟨rfl, hname⟩ := ofSegment?_eq_name hslash hs
  refine ⟨l₁ ++ k₁, k₂, by rw [hseg, List.append_assoc], hname, fun t ht => ?_⟩
  cases hc : Component.ofSegment? t with
  | none => exact Or.inl (ofSegment?_eq_none_iff.1 hc)
  | some c =>
    have hmem : c ∈ after := hk₂ ▸ List.mem_filterMap.2 ⟨t, ht, hc⟩
    exact Or.inr (ofSegment?_eq_current_iff.1 (hafter c hmem ▸ hc))

/-- A part among others stands between what joins those before it and what joins those behind.

**Proof sketch.** By induction on the parts before, with what joins them and the slash behind it as
the front. With no part before, what follows is by induction on the parts behind. -/
private lemma exists_front_joinWith (before : List (List UInt8)) (n : List UInt8)
    (after : List (List UInt8)) :
    ∃ front, Text.joinWith [slash] (before ++ n :: after) =
      front ++ n ++ after.flatMap fun s => slash :: s := by
  induction before with
  | nil =>
    refine ⟨[], ?_⟩
    rw [List.nil_append, List.nil_append]
    induction after generalizing n with
    | nil => simp [Text.joinWith]
    | cons s after ih =>
      rw [Text.joinWith, ih]
      · simp
      · simp
  | cons s before ih =>
    obtain ⟨front, h⟩ := ih
    refine ⟨s ++ slash :: front, ?_⟩
    rw [List.cons_append, Text.joinWith, h]
    · simp
    · simp

/-- Nothing is left out at the end of a name.

**Proof sketch.** A name ends neither in a slash nor in a dot with a slash in front, as it is
neither empty nor a single dot. -/
private lemma dropTail_name {n : Name} (hn : IsName n) (front : List UInt8) :
    dropTail (front ++ n).reverse = (front ++ n).reverse := by
  rw [List.reverse_append]
  obtain ⟨c, t, hct⟩ := List.exists_cons_of_ne_nil (List.reverse_ne_nil_iff.2 hn.ne_nil)
  have hslash : ∀ b ∈ c :: t, b ≠ slash := by
    rintro b hb rfl
    exact hn.noSlash (List.mem_reverse.1 (hct ▸ hb))
  rw [hct]
  by_cases hc : c = dot
  · -- a dot at the end of a name has another byte than a slash in front
    cases t with
    | nil =>
      refine absurd ?_ hn.ne_current
      rw [← List.reverse_reverse n, hct, hc]
      rfl
    | cons d t =>
      rw [hc]
      exact dropTail_dot (hslash d (by simp)) _
  · unfold dropTail
    split
    · next heq => exact absurd (List.cons.inj heq).1 (hslash c List.mem_cons_self)
    · next heq => exact absurd (List.cons.inj heq).1 hc
    · rfl

/-- **The file name stands at the end** of a path, once the slashes and current directories behind
it are dropped.

**Proof sketch.** The segments are joined to the whole path again, those behind the name being
empty or single dots (`exists_segments_of_fileName?`). By induction on these, from the end: each of
them is dropped with the slash in front of it, and nothing of the name is (`dropTail_name`). -/
lemma exists_front_of_fileName? {p : Path} {n : Name} (h : p.fileName? = some n) :
    ∃ front back, p.bytes = front ++ n ++ back ∧ (back = [] ∨ ∃ t, back = slash :: t) ∧
      (dropTail p.bytes.reverse).reverse = front ++ n := by
  obtain ⟨before, after, hseg, hname, hafter⟩ := exists_segments_of_fileName? h
  obtain ⟨front, hjoin⟩ := exists_front_joinWith before n after
  rw [← hseg, joinWith_segments] at hjoin
  refine ⟨front, _, hjoin, ?_, ?_⟩
  · cases after with
    | nil => exact Or.inl rfl
    | cons s after => exact Or.inr ⟨_, rfl⟩
  rw [hjoin]
  clear hjoin hseg
  induction after using List.reverseRecOn with
  | nil =>
    rw [List.flatMap_nil, List.append_nil, dropTail_name hname, List.reverse_reverse]
  | append_singleton after s ih =>
    have hs := hafter s (by simp)
    have ih := ih fun t ht => hafter t (by simp [ht])
    rw [List.flatMap_append, List.flatMap_singleton, ← List.append_assoc, List.reverse_append]
    rcases hs with rfl | rfl
    · simpa using ih
    · simpa using ih

end StaticSite.Path
