import Mathlib
import StaticSite.Path

set_option relaxedAutoImplicit false
set_option autoImplicit false

/-!
# Paths of the entries of a directory

A build names every file that it touches by the path of a directory with names behind it. Such a
path takes the steps of the directory, however it is written, and then one step for each name.

## Main definitions

* `StaticSite.Path.IsName` — the bytes that can be the name of an entry.
* `StaticSite.Path.walk` — the steps of a path without a slash at the end.
* `StaticSite.Path.base` — what stands in front of the name of an entry.

## Main results

* `StaticSite.Path.isName_of_mem_steps` — a path steps to names only.
* `StaticSite.Path.steps_child`, `StaticSite.Path.components_child` — the path of an entry takes
  one more step than that of its directory.
* `StaticSite.Path.alike_child_iff` — entries of a directory are alike if their names are equal.
-/

namespace StaticSite.Path

open StaticSite.Name (slash dot)

/-- Bytes that can be the name of an entry of a directory. -/
structure IsName (n : Name) : Prop where
  /-- A name is not empty. -/
  ne_nil : n ≠ []
  /-- A name holds no slash. -/
  noSlash : slash ∉ n
  /-- A name is not that of the directory itself. -/
  ne_current : n ≠ [dot]
  /-- A name is not that of the directory above. -/
  ne_parent : n ≠ [dot, dot]

/-- The steps of a path without the one for a slash at its end. -/
def walk (p : Path) : List Component :=
  (if p.isAbsolute then [.root] else []) ++ (segments p.bytes).filterMap Component.ofSegment?

/-! ## Segments -/

/-- There is a segment before the first slash. -/
lemma segments_ne_nil (t : List UInt8) : segments t ≠ [] := by
  cases t with
  | nil => simp [segments]
  | cons c t =>
    unfold segments
    split
    · simp
    · split <;> simp

/-- A slash separates the segments before it from those behind it. -/
lemma segments_append_slash (s t : List UInt8) :
    segments (s ++ slash :: t) = segments s ++ segments t := by
  induction s with
  | nil => simp [segments]
  | cons c s ih =>
    by_cases h : c = slash
    · simp [segments, h, ih]
    · simp only [List.cons_append, segments, if_neg h, ih]
      cases hs : segments s with
      | nil => exact absurd hs (segments_ne_nil s)
      | cons a l => simp

/-- Bytes without a slash are their only segment. -/
lemma segments_of_noSlash {t : List UInt8} (h : slash ∉ t) : segments t = [t] := by
  induction t with
  | nil => rfl
  | cons c t ih =>
    rw [List.mem_cons, not_or] at h
    rw [segments, if_neg (Ne.symm h.1), ih h.2]

/-- No segment holds a slash. -/
lemma noSlash_of_mem_segments {s t : List UInt8} (h : s ∈ segments t) : slash ∉ s := by
  induction t generalizing s with
  | nil =>
    rw [segments, List.mem_singleton] at h
    simp [h]
  | cons c t ih =>
    unfold segments at h
    split at h
    · rcases List.mem_cons.1 h with rfl | h
      · simp
      · exact ih h
    · next hc =>
      split at h
      · next hnil => exact absurd hnil (segments_ne_nil t)
      · next a l hcons =>
        rcases List.mem_cons.1 h with rfl | h
        · have ha : slash ∉ a := ih (by rw [hcons]; exact List.mem_cons_self)
          simp [ha, Ne.symm hc]
        · exact ih (by rw [hcons]; exact List.mem_cons_of_mem _ h)

/-- A segment that denotes a name is one. -/
lemma ofSegment?_eq_name {s n : List UInt8} (hs : slash ∉ s)
    (h : Component.ofSegment? s = some (.name n)) : n = s ∧ IsName n := by
  unfold Component.ofSegment? at h
  split at h
  · simp at h
  · next h₁ =>
    split at h
    · simp at h
    · next h₂ =>
      split at h
      · simp at h
      · next h₃ =>
        obtain rfl : s = n := by simpa using h
        exact ⟨rfl, h₁, hs, h₂, h₃⟩

/-- A name denotes itself. -/
lemma IsName.ofSegment? {n : Name} (h : IsName n) : Component.ofSegment? n = some (.name n) := by
  rw [Component.ofSegment?, if_neg h.ne_nil, if_neg h.ne_current, if_neg h.ne_parent]

/-! ## Steps -/

/-- The last of the steps is a slash if the path ends in one. -/
lemma steps_eq_walk (p : Path) :
    p.steps = p.walk ++ if p.bytes.getLast? == some slash then [.slash] else [] := rfl

/-- The names among the steps of a path are names. -/
lemma isName_of_mem_steps {p : Path} {n : Name} (h : .name n ∈ p.steps) : IsName n := by
  unfold steps at h
  simp only [List.mem_append] at h
  rcases h with (h | h) | h
  · split at h <;> simp at h
  · obtain ⟨s, hs, heq⟩ := List.mem_filterMap.1 h
    exact (ofSegment?_eq_name (noSlash_of_mem_segments hs) heq).2
  · split at h <;> simp at h

/-- No segment denotes the root or a slash at the end. -/
lemma ofSegment?_ne (s : List UInt8) :
    Component.ofSegment? s ≠ some .root ∧ Component.ofSegment? s ≠ some .slash := by
  unfold Component.ofSegment?
  split_ifs <;> simp

/-- Only the first step of a path may be to the root. -/
lemma root_notMem_tail_steps (p : Path) : .root ∉ p.steps.tail := by
  have hseg : .root ∉ (segments p.bytes).filterMap Component.ofSegment? := by
    intro h
    obtain ⟨s, -, hs⟩ := List.mem_filterMap.1 h
    exact (ofSegment?_ne s).1 hs
  have hend : .root ∉ (if p.bytes.getLast? == some slash then [Component.slash] else []) := by
    split <;> simp
  have hrest : .root ∉ (segments p.bytes).filterMap Component.ofSegment? ++
      if p.bytes.getLast? == some slash then [Component.slash] else [] := by
    simp only [List.mem_append, not_or]
    exact ⟨hseg, hend⟩
  unfold steps
  split
  · simpa using hrest
  · intro h
    rw [List.nil_append] at h
    exact hrest (List.mem_of_mem_tail h)

/-- There is no slash at the end of the walk. -/
private lemma slash_notMem_walk (p : Path) : .slash ∉ p.walk := by
  unfold walk
  simp only [List.mem_append, not_or]
  constructor
  · split <;> simp
  · intro h
    obtain ⟨s, -, hs⟩ := List.mem_filterMap.1 h
    exact (ofSegment?_ne s).2 hs

/-- A path that is written at all takes a step. -/
lemma walk_ne_nil {p : Path} (h : p.bytes ≠ []) : p.walk ≠ [] := by
  unfold walk isAbsolute
  cases ht : p.bytes with
  | nil => exact absurd ht h
  | cons c t =>
    by_cases hc : c = slash
    · simp [hc]
    · -- the first segment starts with `c`, so it denotes something
      obtain ⟨a, l, ha⟩ : ∃ a l, segments (c :: t) = (c :: a) :: l := by
        rw [segments, if_neg hc]
        cases segments t with
        | nil => exact ⟨_, _, rfl⟩
        | cons a l => exact ⟨_, _, rfl⟩
      obtain ⟨d, hd⟩ : ∃ d, Component.ofSegment? (c :: a) = some d := by
        unfold Component.ofSegment?
        split_ifs <;> simp_all
      simp [ha, hd]

/-! ## The path of an entry -/

/-- A directory with what separates it from a name behind it. -/
def base (p : Path) : List UInt8 :=
  if p.bytes.getLast? == some slash then p.bytes else p.bytes ++ [slash]

/-- A name has no slash in front, so it is taken from the directory. -/
private lemma isAbsolute_name {n : Name} (hn : slash ∉ n) : (Path.mk n).isAbsolute = false := by
  unfold isAbsolute
  cases n with
  | nil => rfl
  | cons c n =>
    have hc : c ≠ slash := fun h => hn (h ▸ List.mem_cons_self)
    simpa using hc

/-- The path of an entry is that of its directory with the name behind it. -/
lemma bytes_child {p : Path} (hp : p.bytes ≠ []) {n : Name} (hn : slash ∉ n) :
    (p.child n).bytes = p.base ++ n := by
  have hp' : p.bytes.isEmpty = false := by simpa using hp
  rw [child, join, isAbsolute_name hn, hp', base]
  by_cases h : (p.bytes.getLast? == some slash) = true
  · simp [h]
  · simp [h]

/-- The path of an entry is written. -/
lemma bytes_child_ne_nil {p : Path} (hp : p.bytes ≠ []) {n : Name} (hn : IsName n) :
    (p.child n).bytes ≠ [] := by
  rw [bytes_child hp hn.noSlash]
  simp [hn.ne_nil]

/-- Different names make different paths. -/
lemma child_injective {p : Path} (hp : p.bytes ≠ []) {n m : Name} (hn : slash ∉ n) (hm : slash ∉ m)
    (h : p.child n = p.child m) : n = m := by
  have := congrArg Path.bytes h
  rw [bytes_child hp hn, bytes_child hp hm] at this
  exact List.append_cancel_left this

/-- The first byte of a path decides whether it is absolute. -/
private lemma isAbsolute_child {p : Path} (hp : p.bytes ≠ []) {n : Name} (hn : slash ∉ n) :
    (p.child n).isAbsolute = p.isAbsolute := by
  unfold isAbsolute
  rw [bytes_child hp hn, base]
  cases h : p.bytes with
  | nil => exact absurd h hp
  | cons c t => split <;> simp

/-- The path of an entry does not end in a slash. -/
lemma getLast?_child {p : Path} (hp : p.bytes ≠ []) {n : Name} (hn : IsName n) :
    ((p.child n).bytes.getLast? == some slash) = false := by
  rw [bytes_child hp hn.noSlash, List.getLast?_append_of_ne_nil _ hn.ne_nil]
  rw [beq_eq_false_iff_ne]
  intro h
  exact hn.noSlash (List.mem_of_getLast? h)

/-- A directory with a separator behind it has the segments of the directory. -/
lemma filterMap_segments_base (p : Path) (t : List UInt8) :
    (segments (p.base ++ t)).filterMap Component.ofSegment? =
      (segments p.bytes).filterMap Component.ofSegment? ++
        (segments t).filterMap Component.ofSegment? := by
  unfold base
  split
  · next h =>
    obtain ⟨u, hu⟩ : ∃ u, p.bytes = u ++ [slash] := by
      rw [beq_iff_eq, List.getLast?_eq_some_iff] at h
      exact h
    have hempty : Component.ofSegment? [] = none := rfl
    rw [hu, List.append_assoc, List.singleton_append, segments_append_slash,
      segments_append_slash, List.filterMap_append, List.filterMap_append]
    simp [segments, hempty]
  · rw [List.append_assoc, List.singleton_append, segments_append_slash, List.filterMap_append]

/-- The walk to what is put behind a directory is the walk to the directory and the step that this
denotes. -/
lemma walk_child_segment {p : Path} (hp : p.bytes ≠ []) {t : List UInt8} (ht : slash ∉ t) :
    (p.child t).walk = p.walk ++ (Component.ofSegment? t).toList := by
  rw [walk, walk, isAbsolute_child hp ht, bytes_child hp ht, filterMap_segments_base,
    segments_of_noSlash ht, ← List.append_assoc]
  cases h : Component.ofSegment? t <;> simp [h]

/-- The walk to an entry is the walk to its directory and one step more. -/
private lemma walk_child {p : Path} (hp : p.bytes ≠ []) {n : Name} (hn : IsName n) :
    (p.child n).walk = p.walk ++ [.name n] := by
  rw [walk_child_segment hp hn.noSlash, hn.ofSegment?]
  rfl

/-- **The steps to an entry** are the walk to its directory and one step more. -/
lemma steps_child {p : Path} (hp : p.bytes ≠ []) {n : Name} (hn : IsName n) :
    (p.child n).steps = p.walk ++ [.name n] := by
  rw [steps_eq_walk, walk_child hp hn, getLast?_child hp hn]
  simp

/-- The components of a path are those of its walk, without the current directories inside. -/
lemma components_eq_walk (p : Path) :
    p.components = match p.walk with
      | [] => []
      | first :: rest => first :: rest.filter (· != .current) := by
  have h : p.steps.filter (· != .slash) = p.walk := by
    have hwalk : p.walk.filter (· != .slash) = p.walk := by
      rw [List.filter_eq_self]
      intro c hc
      have : c ≠ .slash := fun h => slash_notMem_walk p (h ▸ hc)
      simpa using this
    rw [steps_eq_walk, List.filter_append, hwalk]
    split <;> simp
  unfold components
  cases hw : p.walk <;> simp only [h, hw]

/-- The components behind a directory are those of the directory and the one that is denoted
behind it, unless that is the current directory. -/
lemma components_child_segment {p : Path} (hp : p.bytes ≠ []) {t : List UInt8} (ht : slash ∉ t)
    {c : Component} (hc : Component.ofSegment? t = some c) (hne : c ≠ .current) :
    (p.child t).components = p.components ++ [c] := by
  rw [components_eq_walk, components_eq_walk, walk_child_segment hp ht, hc]
  cases h : p.walk with
  | nil => exact absurd h (walk_ne_nil hp)
  | cons first rest => simp [hne]

/-- **The components of an entry** are those of its directory and its name. -/
lemma components_child {p : Path} (hp : p.bytes ≠ []) {n : Name} (hn : IsName n) :
    (p.child n).components = p.components ++ [.name n] :=
  components_child_segment hp hn.noSlash hn.ofSegment? (by simp)

/-- The only component of a name is the name. -/
lemma components_name {n : Name} (hn : IsName n) : (Path.mk n).components = [.name n] := by
  rw [components_eq_walk, walk, isAbsolute_name hn.noSlash, segments_of_noSlash hn.noSlash]
  simp [hn.ofSegment?]

/-- Two entries of a directory are alike only if they have the same name. -/
lemma alike_child_iff {p : Path} (hp : p.bytes ≠ []) {n m : Name} (hn : IsName n)
    (hm : IsName m) : (p.child n).alike (p.child m) = true ↔ n = m := by
  rw [alike, components_child hp hn, components_child hp hm]
  simp

end StaticSite.Path
