import Mathlib
import StaticSite.Proofs.FileStore.Update

set_option relaxedAutoImplicit false
set_option autoImplicit false

/-!
# Where the path of an entry leads

The path of a directory with a name behind it leads to the directory first. From there one step is
left, which the store decides without looking at how the directory was reached.

## Main definitions

* `StaticSite.FileStore.Fits` — a name can be put behind the path of a directory.

## Main results

* `StaticSite.FileStore.place_child_segment` — the path of an entry is followed from its directory.
* `StaticSite.FileStore.place_child` — without links the path of an entry leads to the entry.
* `StaticSite.FileStore.entryAt_of_node_child` — a path of an entry that leads somewhere has an
  entry.
-/

namespace StaticSite.FileStore

open StaticSite.Name (slash dot)
open StaticSite.Path (Component IsName)

/-- A path that leads to a directory leads there without the slash at its end. -/
private lemma leads_walk {s : FileStore} {p : Path} {l : Location}
    (h : s.node p = .ok (.directory l)) :
    Leads s false linkLimit s.workingDirectory p.walk (.present l) := by
  rw [node_eq_directory_iff, place_eq_ok_iff] at h
  obtain ⟨⟨-, hleads⟩, -⟩ := h
  rw [Path.steps_eq_walk] at hleads
  split at hleads
  · obtain ⟨m, hm, -, h'⟩ := hleads.of_slash
    obtain rfl : l = m := by simpa using hm
    exact h'
  · rwa [List.append_nil] at hleads

/-- A path that leads somewhere is written. -/
lemma bytes_ne_nil_of_node {s : FileStore} {p : Path} {x : Node} (h : s.node p = .ok x) :
    p.bytes ≠ [] := by
  intro hp
  have hbad : badPath? p = some .notFound := by simp [badPath?, hp]
  unfold node resolve place at h
  simp [hbad] at h

/-- **The path of an entry is followed from its directory.**

**Proof sketch.** The steps of the path are those of the directory's path with the last part behind
them, and the way through the first leads to the directory. So the last step is followed from there
(`follow_append`), with the links that are left. -/
theorem place_child_segment {s : FileStore} {p : Path} {l : Location}
    (h : s.node p = .ok (.directory l)) {t : List UInt8} (ht : slash ∉ t) {c : Component}
    (hc : Component.ofSegment? t = some c) :
    ∃ k, ∀ w, s.place w (p.child t) = match badPath? (p.child t) with
      | some e => .error e
      | none => s.follow w k l [c] := by
  have hp := bytes_ne_nil_of_node h
  have hsteps : (p.child t).steps = p.walk ++ [c] := by
    have hne : t ≠ [] := by
      rintro rfl
      simp [Component.ofSegment?] at hc
    have hlast : ((p.child t).bytes.getLast? == some slash) = false := by
      rw [Path.bytes_child hp ht, List.getLast?_append_of_ne_nil _ hne, beq_eq_false_iff_ne]
      exact fun h => ht (List.mem_of_getLast? h)
    rw [Path.steps_eq_walk, Path.walk_child_segment hp ht, hc, hlast]
    simp
  have hslash : [c] ≠ [.slash] := by
    intro h
    obtain rfl : c = .slash := by simpa using h
    exact (Path.ofSegment?_ne t).2 hc
  obtain ⟨k, hk⟩ := (leads_walk h).follow_append
  refine ⟨k, fun w => ?_⟩
  unfold place
  cases badPath? (p.child t) with
  | some e => rfl
  | none =>
    show s.follow w linkLimit s.workingDirectory (p.child t).steps = _
    rw [hsteps]
    exact hk w [c] (by simp) hslash

/-- A name can be put behind the path of a directory: neither it nor the path gets too long, and
the path holds no byte that none may hold. -/
structure Fits (p : Path) (n : Name) : Prop where
  /-- The path with the name can be followed. -/
  path : badPath? (p.child n) = none
  /-- The name is short enough. -/
  name : n.length ≤ nameLimit

/-- The path of an entry leads nowhere if the name does not fit. -/
lemma fits_of_place {s : FileStore} {p : Path} {l : Location} (h : s.node p = .ok (.directory l))
    {n : Name} (hn : IsName n) {w : Bool} {q : Place} (hq : s.place w (p.child n) = .ok q) :
    Fits p n := by
  have hbad := (place_eq_ok_iff.1 hq).1
  refine ⟨hbad, ?_⟩
  obtain ⟨k, hk⟩ := place_child_segment h hn.noSlash hn.ofSegment?
  rw [hk w, hbad] at hq
  have hleads := follow_eq_ok_iff.1 hq
  cases hleads with
  | stay hc => simp at hc
  | enter _ _ hlimit => exact hlimit
  | through _ _ hlimit => exact hlimit
  | free _ hlimit => exact hlimit

/-- **The path of an entry that is no link** leads to the entry, or to its free place. -/
theorem place_child {s : FileStore} {p : Path} {l : Location} (h : s.node p = .ok (.directory l))
    {n : Name} (hn : IsName n) (hfits : Fits p n) (hlink : ∀ t, s.entryAt (n :: l) ≠ some (.link t))
    (w : Bool) :
    s.place w (p.child n) =
      .ok (if (s.entryAt (n :: l)).isSome then .present (n :: l) else .absent (n :: l)) := by
  obtain ⟨k, hk⟩ := place_child_segment h hn.noSlash hn.ofSegment?
  have hl : s.entryAt l = some .directory := (node_eq_directory_iff.1 h).2
  rw [hk w, hfits.path]
  refine follow_eq_ok_iff.2 ?_
  cases he : s.entryAt (n :: l) with
  | none => exact .free hl hfits.name he
  | some e =>
    refine .enter hl (by simp) hfits.name he ?_ (.here _ _)
    rintro t rfl
    exact hlink t he

/-- The place of an entry as such is in its directory.

**Proof sketch.** The steps to the entry are those to the directory and its name, and the directory
is reached (`leads_walk`). What is left are the two checks of the name and the entry itself. -/
lemma resolveName_child {s : FileStore} {p : Path} {l : Location}
    (h : s.node p = .ok (.directory l)) {n : Name} (hn : IsName n) :
    s.resolveName (p.child n) = match badPath? (p.child n) with
      | some e => .error e
      | none =>
        if nameLimit < n.length then .error .nameTooLong
        else if (s.entryAt (n :: l)).isSome then .ok (.present (n :: l))
        else .ok (.absent (n :: l)) := by
  have hsteps : (p.child n).steps.reverse = .name n :: p.walk.reverse := by
    rw [Path.steps_child (bytes_ne_nil_of_node h) hn, List.reverse_append]
    rfl
  have hwalk : s.follow false linkLimit s.workingDirectory p.walk = .ok (.present l) :=
    follow_eq_ok_iff.2 (leads_walk h)
  have hl : s.isDirectoryAt l = true := isDirectoryAt_iff.2 (node_eq_directory_iff.1 h).2
  unfold resolveName
  rw [hsteps]
  simp only [List.reverse_reverse, hwalk, hl]
  cases badPath? (p.child n) with
  | some e => rfl
  | none => rfl

/-- The path of an entry that is no link leads to a file exactly if the entry is one. -/
lemma node_child_eq_file_iff {s : FileStore} {p : Path} {l : Location}
    (h : s.node p = .ok (.directory l)) {n : Name} (hn : IsName n)
    (hlink : ∀ t, s.entryAt (n :: l) ≠ some (.link t)) {id : FileId} :
    s.node (p.child n) = .ok (.file id) ↔ Fits p n ∧ s.entryAt (n :: l) = some (.file id) := by
  rw [node_eq_file_iff]
  constructor
  · rintro ⟨m, hm, he⟩
    have hfits := fits_of_place h hn hm
    rw [place_child h hn hfits hlink] at hm
    split at hm
    · obtain rfl : n :: l = m := by simpa using hm
      exact ⟨hfits, he⟩
    · simp at hm
  · rintro ⟨hfits, he⟩
    refine ⟨n :: l, ?_, he⟩
    rw [place_child h hn hfits hlink, he]
    rfl

/-- The path of an entry that is no link leads to a directory exactly if the entry is one. -/
lemma node_child_eq_directory_iff {s : FileStore} {p : Path} {l : Location}
    (h : s.node p = .ok (.directory l)) {n : Name} (hn : IsName n)
    (hlink : ∀ t, s.entryAt (n :: l) ≠ some (.link t)) {m : Location} :
    s.node (p.child n) = .ok (.directory m) ↔
      Fits p n ∧ m = n :: l ∧ s.entryAt (n :: l) = some .directory := by
  rw [node_eq_directory_iff]
  constructor
  · rintro ⟨hm, he⟩
    have hfits := fits_of_place h hn hm
    rw [place_child h hn hfits hlink] at hm
    split at hm
    · obtain rfl : n :: l = m := by simpa using hm
      exact ⟨hfits, rfl, he⟩
    · simp at hm
  · rintro ⟨hfits, rfl, he⟩
    refine ⟨?_, he⟩
    rw [place_child h hn hfits hlink, he]
    rfl

/-- A path of an entry that leads somewhere has an entry. -/
lemma entryAt_of_node_child {s : FileStore} {p : Path} {l : Location}
    (h : s.node p = .ok (.directory l)) {n : Name} (hn : IsName n) {x : Node}
    (hx : s.node (p.child n) = .ok x) : (s.entryAt (n :: l)).isSome = true := by
  by_contra hnone
  have hnone' : s.entryAt (n :: l) = none := by simpa using hnone
  have hlink : ∀ t, s.entryAt (n :: l) ≠ some (.link t) := by simp [hnone']
  cases x with
  | directory m => simpa [hnone'] using ((node_child_eq_directory_iff h hn hlink).1 hx).2.2
  | file id => simpa [hnone'] using ((node_child_eq_file_iff h hn hlink).1 hx).2

/-- The directory above is no place for a file.

**Proof sketch.** The directory above a directory is a directory, in a well-formed store: it is the
root, or an entry that the store has because something lies in it. -/
lemma node_child_parent {s : FileStore} (hs : s.WellFormed) {p : Path} {l : Location}
    (h : s.node p = .ok (.directory l)) {id : FileId} :
    s.node (p.child [dot, dot]) ≠ .ok (.file id) := by
  intro hx
  obtain ⟨k, hk⟩ := place_child_segment h (t := [dot, dot]) (by simp) rfl
  obtain ⟨m, hm, he⟩ := node_eq_file_iff.1 hx
  have hl : s.entryAt l = some .directory := (node_eq_directory_iff.1 h).2
  rw [hk false] at hm
  split at hm
  · simp at hm
  · rw [follow, if_pos (isDirectoryAt_iff.2 hl), follow] at hm
    obtain rfl : l.tail = m := by simpa using hm
    have htail : s.entryAt l.tail = some .directory := by
      cases l with
      | nil => rfl
      | cons n d => exact hs.parent n d (by rw [hl]; rfl)
    rw [htail] at he
    simp at he

end StaticSite.FileStore
