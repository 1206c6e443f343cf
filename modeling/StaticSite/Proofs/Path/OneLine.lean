import Mathlib
import StaticSite.Build.CopyTree
import StaticSite.Page.Build
import StaticSite.Proofs.Path.Tidied

set_option relaxedAutoImplicit false
set_option autoImplicit false

/-!
# Paths on one line

A path is shown as names, dots and slashes, so a line breaks in it only if it breaks in one of the
names. The paths that a build makes of others, for copies, pages and directories above, are made
of the same names.

## Main definitions

* `StaticSite.Text.isLineBreak` — the characters that end a line.
* `StaticSite.Text.IsOneLine` — a text without them.

## Main results

* `StaticSite.Path.isOneLine_of_names` — a path is on one line if its names are.
* `StaticSite.Path.isOneLine_child`, `StaticSite.Path.isOneLine_ancestors`,
  `StaticSite.CopyTree.isOneLine_targetOf`, `StaticSite.Page.isOneLine_outputOf` — the paths made
  of paths on one line.
-/

namespace StaticSite

namespace Text

/-- Whether a character ends a line: the line feed to the carriage return, the next-line character,
and the separators of lines and of paragraphs. -/
def isLineBreak (c : Char) : Bool :=
  ('\n' ≤ c && c ≤ '\r') || c == '\x85' || c == '\u2028' || c == '\u2029'

/-- A text without line breaks. -/
def IsOneLine (t : Text) : Prop := ∀ c ∈ t, isLineBreak c = false

instance (t : Text) : Decidable (IsOneLine t) :=
  decidable_of_iff (t.all (!isLineBreak ·) = true) (by simp [IsOneLine])

@[simp]
lemma isOneLine_nil : IsOneLine [] := by simp [IsOneLine]

@[simp]
lemma isOneLine_cons {c : Char} {t : Text} :
    IsOneLine (c :: t) ↔ isLineBreak c = false ∧ IsOneLine t := by
  simp [IsOneLine]

@[simp]
lemma isOneLine_append {s t : Text} : IsOneLine (s ++ t) ↔ IsOneLine s ∧ IsOneLine t := by
  simp [IsOneLine, or_imp, forall_and]

/-- Joined texts are on one line if they all are. -/
private lemma isOneLine_joinWith {separator : Text} (hseparator : IsOneLine separator)
    {ts : List Text} : IsOneLine (joinWith separator ts) ↔ ∀ t ∈ ts, IsOneLine t := by
  induction ts with
  | nil => simp [joinWith]
  | cons t ts ih =>
    cases ts with
    | nil => simp [joinWith]
    | cons u ts =>
      rw [joinWith, isOneLine_append, isOneLine_append, ih, List.forall_mem_cons (l := u :: ts)]
      · tauto
      · simp

/-- A number is written on one line. -/
lemma isOneLine_ofNat (n : ℕ) : IsOneLine (ofNat n) := by
  intro c hc
  have hdigit := Nat.isDigit_of_mem_toDigits (by decide) (by decide) hc
  cases hbreak : isLineBreak c with
  | false => rfl
  | true =>
    simp only [isLineBreak, Char.isDigit, Bool.or_eq_true, Bool.and_eq_true, decide_eq_true_eq,
      beq_iff_eq, Char.le_def, UInt32.le_iff_toNat_le, Char.ext_iff, ← UInt32.toNat_inj, ge_iff_le,
      ↓Char.isValue, Char.reduceVal, UInt32.reduceToNat, Char.toNat_val] at hdigit hbreak
    omega

end Text

open StaticSite.Name (slash dot)
open StaticSite.Text (IsOneLine)

namespace Path

/-! ## Names -/

/-- What is shown of some bytes is what is shown of their segments. -/
private lemma decodeWithReplacement_segments (t : List UInt8) :
    Utf8.decodeWithReplacement t =
      Text.joinWith ['/'] ((segments t).map Utf8.decodeWithReplacement) := by
  rw [← Name.decodeWithReplacement_joinWith, joinWith_segments]

/-- Bytes are shown on one line if their segments are. -/
private lemma isOneLine_iff_segments {t : List UInt8} :
    IsOneLine (Utf8.decodeWithReplacement t) ↔
      ∀ s ∈ segments t, IsOneLine (Utf8.decodeWithReplacement s) := by
  rw [decodeWithReplacement_segments, Text.isOneLine_joinWith (by decide), List.forall_mem_map]

/-- The names of a path on one line are on one line. -/
lemma isOneLine_of_mem_steps {p : Path} (hp : IsOneLine p.text) {n : Name}
    (hn : .name n ∈ p.steps) : IsOneLine n.text := by
  simp only [steps, List.mem_append] at hn
  rcases hn with (hn | hn) | hn
  · split at hn <;> simp at hn
  · obtain ⟨s, hs, heq⟩ := List.mem_filterMap.1 hn
    obtain ⟨rfl, -⟩ := ofSegment?_eq_name (noSlash_of_mem_segments hs) heq
    exact isOneLine_iff_segments.1 hp _ hs
  · split at hn <;> simp at hn

/-- The components that are no names are on one line. -/
private lemma isOneLine_component {c : Component} (hc : ∀ n, c = .name n → IsOneLine n.text) :
    IsOneLine c.text := by
  have hencoded : ∀ t : Text, IsOneLine t →
      IsOneLine (Utf8.decodeWithReplacement (Utf8.encode t)) := fun t ht => by
    rwa [Utf8.decodeWithReplacement_encode]
  cases c with
  | root => exact hencoded ['/'] (by decide)
  | current => exact hencoded ['.'] (by decide)
  | parent => exact hencoded ['.', '.'] (by decide)
  | name n => exact hc n rfl
  | slash => exact hencoded [] (by decide)

/-- **A path is on one line** if its names are. -/
lemma isOneLine_of_names {p : Path} (h : ∀ n, .name n ∈ p.steps → IsOneLine (Name.text n)) :
    IsOneLine p.text := by
  refine isOneLine_iff_segments.2 fun s hs => ?_
  cases hc : Component.ofSegment? s with
  | none =>
    rw [ofSegment?_eq_none_iff.1 hc, Utf8.decodeWithReplacement_nil]
    exact Text.isOneLine_nil
  | some c =>
    rw [← bytes_of_ofSegment? hc]
    refine isOneLine_component fun n hn => h n ?_
    simp only [steps, List.mem_append]
    exact Or.inl (Or.inr (List.mem_filterMap.2 ⟨s, hs, hc.trans (congrArg some hn)⟩))

/-- The components of a path are among its steps. -/
private lemma mem_steps_of_mem_components {p : Path} {c : Component} (hc : c ∈ p.components) :
    c ∈ p.steps := by
  unfold components at hc
  split at hc
  · simp at hc
  · next first rest heq =>
    have hmem : c ∈ p.steps.filter (· != .slash) := by
      rw [heq]
      rcases List.mem_cons.1 hc with rfl | hc
      · exact List.mem_cons_self
      · exact List.mem_cons_of_mem _ (List.mem_of_mem_filter hc)
    exact List.mem_of_mem_filter hmem

/-- The components of a path on one line are on one line. -/
private lemma isOneLine_of_mem_components {p : Path} (hp : IsOneLine p.text) {c : Component}
    (hc : c ∈ p.components) : IsOneLine c.text :=
  isOneLine_component fun _ hn =>
    isOneLine_of_mem_steps hp (hn ▸ mem_steps_of_mem_components hc)

/-! ## Paths made of others -/

/-- A path is on one line if its components are. -/
private lemma isOneLine_ofComponents {cs : List Component} (h : ∀ c ∈ cs, IsOneLine c.text) :
    IsOneLine (ofComponents cs).text := by
  have hjoined : ∀ ds : List Component, (∀ c ∈ ds, IsOneLine c.text) →
      IsOneLine (Utf8.decodeWithReplacement (Text.joinWith [slash] (ds.map Component.bytes))) := by
    intro ds hds
    rw [Name.decodeWithReplacement_joinWith, Text.isOneLine_joinWith (by decide), List.map_map,
      List.forall_mem_map]
    exact hds
  unfold ofComponents
  split
  · next rest =>
    rw [List.forall_mem_cons] at h
    have hroot := Name.decodeWithReplacement_append_slash []
      (Text.joinWith [slash] (rest.map Component.bytes))
    rw [List.nil_append, Utf8.decodeWithReplacement_nil, List.nil_append] at hroot
    rw [text, hroot]
    exact Text.isOneLine_cons.2 ⟨by decide, hjoined rest h.2⟩
  · exact hjoined cs h

/-- A path below another. -/
private lemma isOneLine_join {p q : Path} (hp : IsOneLine p.text) (hq : IsOneLine q.text) :
    IsOneLine (p.join q).text := by
  have hslash : Text.isLineBreak '/' = false := by decide
  have hbehind : ∀ front, IsOneLine (Utf8.decodeWithReplacement front) →
      IsOneLine (Utf8.decodeWithReplacement (front ++ slash :: q.bytes)) := fun front hfront => by
    rw [Name.decodeWithReplacement_append_slash, Text.isOneLine_append, Text.isOneLine_cons]
    exact ⟨hfront, hslash, hq⟩
  unfold join
  split_ifs with _ hlast
  · exact hq
  · -- the slash at the end separates the two
    obtain ⟨front, hfront⟩ : ∃ front, p.bytes = front ++ [slash] := by
      rw [beq_iff_eq, List.getLast?_eq_some_iff] at hlast
      exact hlast
    rw [text, hfront, Name.decodeWithReplacement_append_slash, Text.isOneLine_append] at hp
    rw [text, hfront, List.append_assoc]
    exact hbehind front hp.1
  · exact hbehind p.bytes hp

/-- An entry of a directory. -/
lemma isOneLine_child {p : Path} (hp : IsOneLine p.text) {n : Name} (hn : IsOneLine n.text) :
    IsOneLine (p.child n).text :=
  isOneLine_join hp hn

/-- The rest of a path behind a directory. -/
private lemma isOneLine_relativeTo? {p base rest : Path} (hp : IsOneLine p.text)
    (h : p.relativeTo? base = some rest) : IsOneLine rest.text := by
  obtain ⟨ds, hds, rfl⟩ := Option.map_eq_some_iff.1 h
  refine isOneLine_ofComponents fun c hc => isOneLine_of_mem_components hp ?_
  rw [dropComponents?_eq_some_iff.1 hds]
  exact List.mem_append_right _ hc

/-- The directories that lead to a path. -/
lemma isOneLine_ancestors {p q : Path} (hp : IsOneLine p.text) (hq : q ∈ p.ancestors) :
    IsOneLine q.text := by
  obtain ⟨n, -, rfl⟩ := List.mem_map.1 hq
  exact isOneLine_ofComponents fun c hc =>
    isOneLine_of_mem_components hp (List.mem_of_mem_take hc)

/-- A start of a path, even if it ends inside of a character. -/
private lemma isOneLine_take {t : List UInt8} (h : IsOneLine (Utf8.decodeWithReplacement t))
    (k : ℕ) :
    IsOneLine (Utf8.decodeWithReplacement (t.take k)) := by
  intro c hc
  rcases Utf8.mem_decodeWithReplacement_take hc with rfl | hc
  · decide
  · exact h c hc

/-- A path with another extension behind its stem.

**Proof sketch.** What stands in front of the file name is kept, and the slashes behind the name
are dropped (`exists_front_of_fileName?`). The name is kept up to its last dot, and a dot separates
what stands in front of it from the extension: bytes that form no text are replaced on each side
for themselves. -/
private lemma isOneLine_replaceExtension {p : Path} (hp : IsOneLine p.text) {e : Name}
    (he : IsOneLine e.text) : IsOneLine (p.replaceExtension e).text := by
  have hextended : ∀ stem, IsOneLine (Utf8.decodeWithReplacement stem) →
      IsOneLine (Utf8.decodeWithReplacement (stem ++ dot :: e)) := fun stem hstem => by
    rw [Name.decodeWithReplacement_append_dot, Text.isOneLine_append, Text.isOneLine_cons]
    exact ⟨hstem, by decide, he⟩
  unfold replaceExtension
  cases hname : p.fileName? with
  | none => exact hp
  | some n =>
    obtain ⟨front, back, hbytes, hback, hwhole⟩ := exists_front_of_fileName? hname
    have hfront : IsOneLine (Utf8.decodeWithReplacement (front ++ n)) := by
      rw [text, hbytes] at hp
      rcases hback with rfl | ⟨t, rfl⟩
      · rwa [List.append_nil] at hp
      · rw [Name.decodeWithReplacement_append_slash, Text.isOneLine_append] at hp
        exact hp.1
    simp only [hwhole, List.length_append, Nat.add_sub_cancel, List.take_left]
    refine hextended _ ?_
    -- the stem is the name itself, or the name up to its last dot
    cases hsplit : splitName n with
    | mk stem extension =>
      cases extension with
      | none =>
        obtain rfl : n = stem := by
          unfold splitName at hsplit
          dsimp only at hsplit
          split at hsplit
          · simp at hsplit
          · exact (Prod.mk.inj hsplit).1
        exact hfront
      | some extension =>
        obtain ⟨rfl, -, -⟩ := eq_of_splitName hsplit
        rw [← List.append_assoc, Name.decodeWithReplacement_append_dot,
          Text.isOneLine_append] at hfront
        exact hfront.1

/-- A path with another extension. -/
private lemma isOneLine_withExtension {p : Path} (hp : IsOneLine p.text) {e : Name}
    (he : IsOneLine e.text) : IsOneLine (p.withExtension e).text := by
  unfold withExtension
  split
  · exact isOneLine_replaceExtension hp he
  · exact isOneLine_replaceExtension (isOneLine_take hp _) he

end Path

/-- The path that something is copied to. -/
lemma CopyTree.isOneLine_targetOf {source target p : Path} (htarget : IsOneLine target.text)
    (hp : IsOneLine p.text) : IsOneLine (targetOf source target p).text := by
  unfold targetOf
  split
  · next rest hrest => exact Path.isOneLine_join htarget (Path.isOneLine_relativeTo? hp hrest)
  · exact hp

/-- The path that a page is written to. -/
lemma Page.isOneLine_outputOf {source : Path} (h : IsOneLine source.text) :
    IsOneLine (outputOf source).text :=
  Path.isOneLine_withExtension h (by rw [outputExtension, Name.text_encode]; decide)

end StaticSite
