import Mathlib
import StaticSite.Proofs.Placeholder.Append
import StaticSite.Proofs.Text.Offset

set_option relaxedAutoImplicit false
set_option autoImplicit false

/-!
# Placeholders that reach into a stretch of a text

A resolver that replaces one name keeps a stretch of a text where it is, unless a placeholder of
that name reaches into the stretch. The placeholder may start in front of the stretch, end behind
it, or both.

## Main definitions

* `StaticSite.Placeholder.Clear` — no placeholder of a name reaches into a stretch.

## Main results

* `StaticSite.Placeholder.scan_of_some` — the placeholders behind the leftmost one, moved.
* `StaticSite.Resolver.resolve_keeps_iff` — a stretch is kept exactly if it is clear.
-/

namespace StaticSite

namespace Placeholder

/-! ## Offsets -/

/-- The placeholders of some pieces that start further on lie further on. -/
private lemma locate_add (k offset : Nat) (ps : List Piece) :
    locate (k + offset) ps = (locate offset ps).map fun p => ⟨p.name, k + p.start⟩ := by
  induction ps generalizing offset with
  | nil => rfl
  | cons p ps ih => cases p <;> simp [locate, Nat.add_assoc, ih]

/-- A text without a placeholder has none to find. -/
private lemma scan_of_none {t : Text} (h : first? t = none) : scan t = [] := by
  rw [scan, pieces_of_none h]
  rfl

/-- The placeholders behind the leftmost one are those of the text behind it, moved. -/
lemma scan_of_some {t before name after : Text} (h : first? t = some (before, name, after)) :
    scan t = ⟨name, Text.byteSize before⟩ :: (scan after).map fun p =>
      ⟨p.name, Text.byteSize (before ++ written name) + p.start⟩ := by
  have hmove := locate_add (Text.byteSize (before ++ written name)) 0 (pieces after)
  rw [scan, pieces_of_some h, locate, locate, Nat.zero_add, ← Text.byteSize_append]
  simpa [scan] using hmove

/-- A start of a text that holds the leftmost placeholder has it as its own.

**Proof sketch.** If the start had no placeholder, it would still hold the opening braces, which
are the first ones of the whole as well, and the closing ones behind them. -/
private lemma first?_of_append {u w before name after : Text}
    (h : first? (u ++ w) = some (before, name, after)) (hu : before ++ written name <+: u) :
    ∃ rest, first? u = some (before, name, rest) ∧ u = before ++ written name ++ rest ∧
      after = rest ++ w := by
  cases hfirst : first? u with
  | some parts =>
    obtain ⟨b, n, rest⟩ := parts
    rw [first?_append hfirst w] at h
    obtain ⟨rfl, rfl, rfl⟩ : b = before ∧ n = name ∧ rest ++ w = after := by simpa using h
    exact ⟨rest, rfl, (append_of_first? hfirst).symm, rfl⟩
  | none =>
    obtain ⟨tail, htail⟩ := hu
    obtain ⟨rest, hopen, hclose⟩ := first?_eq_some_iff.1 h
    -- the start holds opening braces, and they are the ones that are found
    cases hbrace : Text.breakOn opening u with
    | none =>
      rw [Text.breakOn_eq_none_iff (by simp [opening])] at hbrace
      refine absurd ⟨before, name ++ closing ++ tail, ?_⟩ hbrace
      rw [← htail]
      simp [written]
    | some parts =>
      obtain ⟨b, rest'⟩ := parts
      rw [Text.breakOn_append (by simp [opening]) hbrace w] at hopen
      obtain ⟨rfl, rfl⟩ : b = before ∧ rest' ++ w = rest := by simpa using hopen
      have hrest : rest' = name ++ closing ++ tail := by
        have happend := Text.append_of_breakOn hbrace
        rw [← htail] at happend
        simpa [written] using happend
      exact absurd ⟨name, tail, hrest.symm⟩ (not_closing_of_none hfirst hbrace)

/-- A start of a text that does not hold the leftmost placeholder has none. -/
private lemma first?_eq_none_of_append {u w before name after : Text}
    (h : first? (u ++ w) = some (before, name, after)) (hu : ¬before ++ written name <+: u) :
    first? u = none := by
  cases hfirst : first? u with
  | none => rfl
  | some parts =>
    obtain ⟨b, n, rest⟩ := parts
    rw [first?_append hfirst w] at h
    obtain ⟨rfl, rfl, -⟩ : b = before ∧ n = name ∧ rest ++ w = after := by simpa using h
    exact absurd ⟨rest, append_of_first? hfirst⟩ hu

/-! ## Clear stretches -/

/-- No placeholder of a name reaches into the stretch `x` between two texts: each of them ends in
front of the stretch or starts behind it. -/
def Clear (name u x v : Text) : Prop :=
  ∀ p ∈ scan (u ++ x ++ v), p.name = name →
    p.stop ≤ Text.byteSize u ∨ Text.byteSize (u ++ x) ≤ p.start

/-- A placeholder ends behind the place where it starts. -/
lemma start_lt_stop (p : Placeholder) : p.start < p.stop := by
  have h : Text.byteSize p.text ≠ 0 := by
    have hpos := Text.byteSize_pos (t := p.text) (by simp [text, written, opening])
    omega
  unfold stop
  omega

/-- A placeholder that is moved ends as much further on. -/
private lemma stop_add (p : Placeholder) (k : Nat) : stop ⟨p.name, k + p.start⟩ = k + p.stop := by
  simp only [stop, text, Nat.add_assoc]

/-- The end of the leftmost placeholder. -/
private lemma stop_first (before n : Text) :
    stop ⟨n, Text.byteSize before⟩ = Text.byteSize (before ++ written n) := by
  simp [stop, text]

section Leftmost

variable {name u x v before n after : Text}

/-- Where there are no placeholders every stretch is clear. -/
private lemma clear_of_none (h : first? (u ++ x ++ v) = none) : Clear name u x v := by
  unfold Clear
  rw [scan_of_none h]
  simp

/-- A placeholder in front of the stretch may be dropped.

**Proof sketch.** The placeholders of the whole are the first one and those behind it, moved by
what is dropped (`scan_of_some`). The first ends in front of the stretch, and for the others both
ends of the stretch move with them. -/
private lemma clear_iff_of_front {rest : Text} (h : first? u = some (before, n, rest)) :
    Clear name u x v ↔ Clear name rest x v := by
  have hfirst : first? (u ++ x ++ v) = some (before, n, rest ++ x ++ v) := by
    rw [List.append_assoc, first?_append h, ← List.append_assoc]
  unfold Clear
  rw [scan_of_some hfirst, ← append_of_first? h]
  simp only [List.forall_mem_cons, List.forall_mem_map, stop_add, stop_first]
  constructor
  · rintro ⟨-, h⟩ p hp hname
    have := h p hp hname
    simp only [Text.byteSize_append] at this ⊢
    omega
  · intro h
    refine ⟨fun _ => Or.inl (by simp), fun p hp hname => ?_⟩
    have := h p hp hname
    simp only [Text.byteSize_append] at this ⊢
    omega

variable (hfirst : first? (u ++ x ++ v) = some (before, n, after))

include hfirst

/-- A stretch that is over where the leftmost placeholder ends is clear, unless that one has the
name and starts before. -/
private lemma clear_of_over (hx : u ++ x <+: before ++ written n)
    (hn : n = name → u ++ x <+: before) :
    Clear name u x v := by
  have hle := Text.byteSize_mono hx
  unfold Clear
  rw [scan_of_some hfirst]
  simp only [List.forall_mem_cons, List.forall_mem_map]
  exact ⟨fun h => Or.inr (Text.byteSize_mono (hn h)), fun p _ _ => Or.inr (by omega)⟩

variable (hu : ¬before ++ written n <+: u)

include hu

/-- A leftmost placeholder that is not in front of the stretch ends in it or behind it. -/
private lemma byteSize_lt_of_first? : Text.byteSize u < Text.byteSize (before ++ written n) :=
  Text.byteSize_lt_of_prefix ⟨x ++ v, by rw [← List.append_assoc]⟩ ⟨after, append_of_first? hfirst⟩
    hu

/-- A stretch is not clear if the leftmost placeholder has the name and lies neither in front of the
stretch nor behind it. -/
private lemma not_clear_of_overlap (hn : n = name) (hx : ¬u ++ x <+: before) :
    ¬Clear name u x v := by
  have hstop := byteSize_lt_of_first? hfirst hu
  have hstart : Text.byteSize before < Text.byteSize (u ++ x) :=
    Text.byteSize_lt_of_prefix ⟨written n ++ after, by
      rw [← List.append_assoc, append_of_first? hfirst]⟩ ⟨v, rfl⟩ hx
  intro h
  unfold Clear at h
  rw [scan_of_some hfirst] at h
  have hoverlap := h _ List.mem_cons_self hn
  rw [stop_first] at hoverlap
  dsimp only at hoverlap
  omega

/-- Of a stretch that starts before the end of a placeholder of another name, what is left behind it
has to be clear.

**Proof sketch.** The stretch starts before the placeholder is over, but this one has another name
and is kept. Every later placeholder starts behind it, so only what is left of the stretch behind
it can be met. -/
private lemma clear_iff_of_within {y : Text} (hn : n ≠ name)
    (hy : before ++ written n ++ y = u ++ x) :
    Clear name u x v ↔ Clear name [] y v := by
  have hstop := byteSize_lt_of_first? hfirst hu
  have hafter : after = y ++ v := by
    have hwhole := append_of_first? hfirst
    rw [← hy, List.append_assoc _ y v] at hwhole
    exact List.append_cancel_left hwhole
  unfold Clear
  rw [scan_of_some hfirst, ← hy, hafter]
  simp only [List.forall_mem_cons, List.forall_mem_map, stop_add, List.nil_append,
    Text.byteSize_nil]
  have hlength : Text.byteSize (before ++ written n ++ y) =
      Text.byteSize (before ++ written n) + Text.byteSize y := Text.byteSize_append ..
  constructor
  · rintro ⟨-, h⟩ p hp hname
    have := h p hp hname
    have := start_lt_stop p
    omega
  · intro h
    refine ⟨fun h => absurd h hn, fun p hp hname => ?_⟩
    have := h p hp hname
    have := start_lt_stop p
    omega

end Leftmost

end Placeholder

namespace Resolver

open Placeholder

/-- A text that reaches into a placeholder is not kept if a text that does not start as placeholders
do takes its place. -/
private lemma not_prefix_of_replaced {w v before n after value rest : Text} {c : Char}
    (hc : c ≠ '{') (hwhole : before ++ written n ++ after = w ++ v) (hw : ¬w <+: before) :
    ¬w <+: before ++ c :: value ++ rest := by
  obtain ⟨y, rfl⟩ : before <+: w :=
    (List.prefix_or_prefix_of_prefix ⟨written n ++ after, by rw [← List.append_assoc, hwhole]⟩
      ⟨v, rfl⟩).resolve_right hw
  rw [List.append_assoc, List.append_assoc, List.append_cancel_left_eq] at hwhole
  rw [List.append_assoc, List.prefix_append_right_inj]
  intro h
  cases y with
  | nil => exact hw (by rw [List.append_nil])
  | cons d y =>
    obtain ⟨rfl, -⟩ := List.cons_prefix_cons.1 h
    exact hc (List.cons.inj hwhole).1.symm

/-- **A stretch is kept exactly if it is clear**, by a resolver that replaces one name by a text
that does not start as placeholders do, and keeps the others.

**Proof sketch.** By induction along the placeholders of the text, for all stretches. If the
leftmost placeholder lies in front of the stretch, it may be dropped. Otherwise it starts before the
text in front is over, and either it is replaced, which changes a character of the stretch or in
front of it, or it is kept, and what is left of the stretch is one behind it. -/
theorem resolve_keeps_iff (r : Resolver) {name : Text} {c : Char} {value : Text} (hc : c ≠ '{')
    (hvalue : r.replacement (.placeholder name) = c :: value)
    (hother : ∀ n, n ≠ name → r.replacement (.placeholder n) = written n) (u x v : Text) :
    (r.resolve u).text ++ x <+: (r.resolve (u ++ x ++ v)).text ↔ Clear name u x v := by
  generalize ht : u ++ x ++ v = t
  fun_induction afterLast t generalizing u x with
  | case1 t hfirst =>
    subst ht
    have hu : first? u = none := by
      cases hu : first? u with
      | none => rfl
      | some parts =>
        obtain ⟨b, n, rest⟩ := parts
        have := first?_append hu (x ++ v)
        rw [← List.append_assoc, hfirst] at this
        simp at this
    rw [r.resolve_of_none hfirst, r.resolve_of_none hu]
    exact iff_of_true (List.prefix_append ..) (clear_of_none hfirst)
  | case2 t before n after hfirst ih =>
    subst ht
    have hwhole : before ++ written n ++ after = u ++ x ++ v := append_of_first? hfirst
    have hfirst' : first? (u ++ (x ++ v)) = some (before, n, after) := by
      rw [← List.append_assoc, hfirst]
    rw [r.resolve_of_some hfirst]
    by_cases hin : before ++ written n <+: u
    · -- the placeholder lies in front of the stretch
      obtain ⟨rest, hrest, -, rfl⟩ := first?_of_append hfirst' hin
      rw [clear_iff_of_front hrest, r.resolve_of_some hrest, List.append_assoc _ _ x,
        List.prefix_append_right_inj]
      exact ih rest x (List.append_assoc ..)
    · rw [r.resolve_of_none (first?_eq_none_of_append hfirst' hin)]
      by_cases hn : n = name
      · subst hn
        by_cases hx : u ++ x <+: before
        · -- it lies behind the stretch
          have hover : Clear n u x v :=
            clear_of_over hfirst (hx.trans (List.prefix_append ..)) fun _ => hx
          refine iff_of_true (hx.trans ?_) hover
          rw [List.append_assoc]
          exact List.prefix_append ..
        · -- it starts before the stretch is over, and is replaced
          rw [hvalue]
          exact iff_of_false (not_prefix_of_replaced hc hwhole hx)
            (not_clear_of_overlap hfirst hin rfl hx)
      · rw [hother n hn]
        by_cases hx : u ++ x <+: before ++ written n
        · -- the stretch is over when it ends
          exact iff_of_true (hx.trans (List.prefix_append ..))
            (clear_of_over hfirst hx fun h => absurd h hn)
        · -- the rest of the stretch is behind it
          obtain ⟨y, hy⟩ : before ++ written n <+: u ++ x :=
            (List.prefix_or_prefix_of_prefix ⟨after, hwhole⟩ ⟨v, rfl⟩).resolve_right hx
          have hafter : [] ++ y ++ v = after := by
            rw [← hy, List.append_assoc _ y v] at hwhole
            exact (List.append_cancel_left hwhole).symm
          have hnil : (r.resolve []).text = [] := r.resolve_of_none rfl
          have hrest := ih [] y hafter
          rw [hnil, List.nil_append] at hrest
          rw [clear_iff_of_within hfirst hin hn hy, ← hy, List.prefix_append_right_inj, hrest]

end Resolver

end StaticSite
