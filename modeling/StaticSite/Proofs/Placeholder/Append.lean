import Mathlib
import StaticSite.Placeholder.Resolve
import StaticSite.Proofs.Text.BreakOn

set_option relaxedAutoImplicit false
set_option autoImplicit false

/-!
# Placeholders in texts that are put together

A text with another one behind it has the placeholders of both, unless braces at the end of the
first text are still open: these take in what follows, up to the next closing braces.

## Main definitions

* `StaticSite.Placeholder.afterLast` — the text behind the last placeholder.
* `StaticSite.Placeholder.IsClosed` — no placeholder is left open at the end of a text.

## Main results

* `StaticSite.Resolver.resolve_append` — behind a closed text, a text is resolved by itself.
* `StaticSite.Resolver.resolve_open_append` — behind an open text, a placeholder is swallowed.
-/

namespace StaticSite

namespace Placeholder

/-! ## The leftmost placeholder -/

/-- The leftmost placeholder opens at the first opening braces and closes at the next closing
ones. -/
lemma first?_eq_some_iff {t before name after : Text} :
    first? t = some (before, name, after) ↔
      ∃ rest, Text.breakOn opening t = some (before, rest) ∧
        Text.breakOn closing rest = some (name, after) := by
  constructor
  · intro h
    unfold first? at h
    split at h
    · simp at h
    · next b rest hopen =>
      split at h
      · simp at h
      · next n a hclose =>
        obtain ⟨rfl, rfl, rfl⟩ : b = before ∧ n = name ∧ a = after := by simpa using h
        exact ⟨rest, hopen, hclose⟩
  · rintro ⟨rest, hopen, hclose⟩
    simp only [first?, hopen, hclose]

/-- Braces that open no placeholder are not closed. -/
lemma not_closing_of_none {t before rest : Text} (h : first? t = none)
    (hopen : Text.breakOn opening t = some (before, rest)) : ¬closing <:+: rest := by
  rw [← Text.breakOn_eq_none_iff (by simp [closing])]
  cases hclose : Text.breakOn closing rest with
  | none => rfl
  | some parts => simp [first?, hopen, hclose] at h

/-- The leftmost placeholder stays so whatever follows the text. -/
lemma first?_append {t before name after : Text} (h : first? t = some (before, name, after))
    (w : Text) : first? (t ++ w) = some (before, name, after ++ w) := by
  obtain ⟨rest, hopen, hclose⟩ := first?_eq_some_iff.1 h
  exact first?_eq_some_iff.2 ⟨rest ++ w, Text.breakOn_append (by simp [opening]) hopen w,
    Text.breakOn_append (by simp [closing]) hclose w⟩

/-- Closing braces are found behind a name that does not hold or start any. -/
lemma breakOn_closing {name : Text} (h : ¬closing <:+: name ++ ['}']) (w : Text) :
    Text.breakOn closing (name ++ (closing ++ w)) = some (name, w) := by
  have hdouble : Text.breakOn closing (closing ++ w) = some ([], w) := Text.breakOn_double '}' w
  unfold closing at h hdouble ⊢
  rw [Text.breakOn_skip h, hdouble]
  simp

/-- A placeholder at the start of a text is its leftmost one. -/
lemma first?_written {name : Text} (h : ¬closing <:+: name ++ ['}']) (w : Text) :
    first? (written name ++ w) = some ([], name, w) := by
  refine first?_eq_some_iff.2 ⟨name ++ (closing ++ w), ?_, breakOn_closing h w⟩
  have happend : written name ++ w = '{' :: '{' :: (name ++ (closing ++ w)) := by
    simp [written, opening]
  rw [happend, opening, Text.breakOn_double]

/-- A text in front of which no braces are open is passed over. -/
private lemma first?_skip {t : Text} (h : ¬opening <:+: t ++ ['{']) (w : Text) :
    first? (t ++ w) = (first? w).map fun parts => (t ++ parts.1, parts.2) := by
  unfold first?
  rw [opening, Text.breakOn_skip h]
  cases Text.breakOn ['{', '{'] w with
  | none => rfl
  | some parts =>
    dsimp only [Option.map_some]
    cases Text.breakOn closing parts.2 <;> rfl

/-- The pieces of a text without a placeholder. -/
lemma pieces_of_none {t : Text} (h : first? t = none) : pieces t = [.literal t] := by
  rw [pieces]
  split
  · rfl
  · next h' => simp [h] at h'

/-- The pieces of a text with a placeholder. -/
lemma pieces_of_some {t before name after : Text} (h : first? t = some (before, name, after)) :
    pieces t = .literal before :: .placeholder name :: pieces after := by
  rw [pieces]
  split
  · next h' => simp [h] at h'
  · next b n a h' =>
    obtain ⟨rfl, rfl, rfl⟩ : before = b ∧ name = n ∧ after = a := by simpa [h] using h'
    rfl

/-- The names in a text are those of the placeholders among its pieces, wherever they start. -/
lemma map_name_locate (offset : Nat) (ps : List Piece) :
    (locate offset ps).map Placeholder.name =
      ps.filterMap fun | .literal _ => none | .placeholder name => some name := by
  induction ps generalizing offset with
  | nil => rfl
  | cons p ps ih => cases p <;> simp [locate, ih]

/-- A text without a placeholder has no name. -/
lemma names_of_none {t : Text} (h : first? t = none) : names t = [] := by
  rw [names, scan, map_name_locate, pieces_of_none h]
  rfl

/-- The name of the leftmost placeholder comes before those behind it. -/
lemma names_of_some {t before name after : Text} (h : first? t = some (before, name, after)) :
    names t = name :: names after := by
  rw [names, scan, map_name_locate, pieces_of_some h, names, scan, map_name_locate]
  rfl

/-! ## Open and closed texts -/

/-- The text behind the last placeholder. -/
def afterLast (t : Text) : Text :=
  match _h : first? t with
  | none => t
  | some (_, _, after) => afterLast after
termination_by t.length
decreasing_by exact length_of_first? _h

/-- No placeholder is left open at the end of a text: behind the last placeholder there are no
opening braces, and the last character is not the first half of any. -/
def IsClosed (t : Text) : Prop := ¬opening <:+: afterLast t ++ ['{']

instance (t : Text) : Decidable (IsClosed t) := inferInstanceAs (Decidable ¬_)

/-- A text without a placeholder is behind the last one as a whole. -/
lemma afterLast_of_none {t : Text} (h : first? t = none) : afterLast t = t := by
  rw [afterLast]
  split
  · rfl
  · next h' => simp [h] at h'

/-- What is behind the last placeholder is behind the first one. -/
private lemma afterLast_of_some {t before name after : Text}
    (h : first? t = some (before, name, after)) : afterLast t = afterLast after := by
  rw [afterLast]
  split
  · next h' => simp [h] at h'
  · next b n a h' =>
    obtain ⟨rfl, rfl, rfl⟩ : before = b ∧ name = n ∧ after = a := by simpa [h] using h'
    rfl

/-- The texts without a placeholder that are closed. -/
lemma isClosed_iff_of_none {t : Text} (h : first? t = none) :
    IsClosed t ↔ ¬opening <:+: t ++ ['{'] := by
  rw [IsClosed, afterLast_of_none h]

/-- Whether a text is closed depends on what is behind its first placeholder. -/
lemma isClosed_iff_of_some {t before name after : Text}
    (h : first? t = some (before, name, after)) : IsClosed t ↔ IsClosed after := by
  rw [IsClosed, IsClosed, afterLast_of_some h]

/-- Opening braces do not make closing ones with what stands in front of them. -/
private lemma closing_not_within {u name : Text} (hu : ¬closing <:+: u)
    (hname : ¬closing <:+: name ++ ['}']) : ¬closing <:+: u ++ opening ++ name ++ ['}'] := by
  have happend : u ++ opening ++ name ++ ['}'] = u ++ (opening ++ (name ++ ['}'])) := by simp
  rw [happend]
  unfold closing at hname hu ⊢
  rw [Text.double_infix_append_iff, Text.double_infix_append_iff]
  rintro (h | (h | h | h) | h)
  · exact hu h
  · revert h
    decide
  · exact hname h
  · simp [opening] at h
  · simp [opening] at h

/-- Behind a closed text, a text has its names.

**Proof sketch.** By induction along the placeholders of the closed text. Behind the last one, the
rest leaves nothing open, so the first placeholder of the whole is that of the second text
(`first?_skip`). -/
lemma names_append {u : Text} (h : IsClosed u) (w : Text) :
    names (u ++ w) = names u ++ names w := by
  fun_induction afterLast u with
  | case1 u hu =>
    have hskip := first?_skip ((isClosed_iff_of_none hu).1 h) w
    rw [names_of_none hu, List.nil_append]
    cases hw : first? w with
    | none =>
      rw [hw] at hskip
      rw [names_of_none hw, names_of_none hskip]
    | some parts =>
      obtain ⟨before, name, after⟩ := parts
      rw [hw] at hskip
      rw [names_of_some hw, names_of_some hskip]
  | case2 u before name after hu ih =>
    rw [names_of_some hu, names_of_some (first?_append hu w), ih ((isClosed_iff_of_some hu).1 h),
      List.cons_append]

/-- In an open text without a placeholder, a placeholder behind it is swallowed: the braces that are
open take in its name, and more.

**Proof sketch.** The braces that are open stand in the text already, or its last character makes
them together with the first one of the placeholder. In both cases the nearest closing braces are
those of the placeholder, as its name holds none. -/
private lemma first?_of_open {t name : Text} (h : first? t = none) (hopen : ¬IsClosed t)
    (hname : ¬closing <:+: name ++ ['}']) (w : Text) :
    ∃ before n, first? (t ++ written name ++ w) = some (before, n, w) ∧
      before ++ written n = t ++ written name ∧ name.length < n.length := by
  rw [isClosed_iff_of_none h, not_not] at hopen
  cases hbrace : Text.breakOn opening t with
  | some parts =>
    obtain ⟨before, rest⟩ := parts
    -- the braces stand in the text already
    have hrest := not_closing_of_none h hbrace
    refine ⟨before, rest ++ opening ++ name, first?_eq_some_iff.2
      ⟨rest ++ opening ++ name ++ (closing ++ w), ?_, ?_⟩, ?_, ?_⟩
    · have := Text.breakOn_append (by simp [opening]) hbrace (written name ++ w)
      simpa [written] using this
    · exact breakOn_closing (closing_not_within hrest hname) w
    · rw [← Text.append_of_breakOn hbrace]
      simp [written]
    · simp only [List.length_append, opening, List.length_cons]
      omega
  | none =>
    -- the last character and the first one of the placeholder make the braces
    have hnone := (Text.breakOn_eq_none_iff (by simp [opening])).1 hbrace
    obtain ⟨before, rfl⟩ : ∃ before, t = before ++ ['{'] := by
      rw [← List.getLast?_eq_some_iff]
      unfold opening at hopen hnone
      rcases Text.double_infix_append_iff.1 hopen with h | h | ⟨h, -⟩
      · exact absurd h hnone
      · exact absurd h (by decide)
      · exact h
    have happend : before ++ ['{'] ++ written name ++ w =
        before ++ ('{' :: '{' :: (('{' :: name) ++ (closing ++ w))) := by
      simp [written, opening]
    have hname' : ¬closing <:+: ('{' :: name) ++ ['}'] := by
      rw [List.cons_append, List.infix_cons_iff]
      rintro (h | h)
      · simp [closing, List.cons_prefix_cons] at h
      · exact hname h
    refine ⟨before, '{' :: name, first?_eq_some_iff.2
      ⟨('{' :: name) ++ (closing ++ w), ?_, breakOn_closing hname' w⟩, ?_, ?_⟩
    · unfold opening at hnone ⊢
      rw [happend, Text.breakOn_skip hnone, Text.breakOn_double]
      simp
    · simp [written, opening]
    · simp

end Placeholder

namespace Resolver

open Placeholder

/-! ## Resolving texts that are put together -/

/-- A text without a placeholder is resolved to itself. -/
lemma resolve_of_none (r : Resolver) {t : Text} (h : first? t = none) :
    (r.resolve t).text = t := by
  show (pieces t).flatMap r.replacement = t
  rw [pieces_of_none h]
  simp [replacement]

/-- A text is resolved placeholder by placeholder. -/
lemma resolve_of_some (r : Resolver) {t before name after : Text}
    (h : first? t = some (before, name, after)) :
    (r.resolve t).text = before ++ r.replacement (.placeholder name) ++ (r.resolve after).text := by
  show (pieces t).flatMap r.replacement = _
  rw [pieces_of_some h, List.flatMap_cons, List.flatMap_cons, ← List.append_assoc]
  rfl

/-- The placeholders that are reported are those with unknown names, in their order. -/
theorem unresolved_eq (r : Resolver) (t : Text) :
    (r.resolve t).unresolved = ((names t).filter fun name => r name = .unknown).map written := by
  rw [names, scan, map_name_locate, List.filter_filterMap, List.map_filterMap]
  refine List.filterMap_congr fun p _ => ?_
  cases p with
  | literal u => rfl
  | placeholder name => cases h : r name <;> simp [report?, h]

/-- **Behind a closed text, a text is resolved by itself.**

**Proof sketch.** By induction along the placeholders of the closed text, as for the names. -/
theorem resolve_append (r : Resolver) {u : Text} (h : IsClosed u) (w : Text) :
    (r.resolve (u ++ w)).text = (r.resolve u).text ++ (r.resolve w).text := by
  fun_induction afterLast u with
  | case1 u hu =>
    have hskip := first?_skip ((isClosed_iff_of_none hu).1 h) w
    rw [r.resolve_of_none hu]
    cases hw : first? w with
    | none =>
      rw [r.resolve_of_none hw, r.resolve_of_none]
      rw [hskip, hw]
      rfl
    | some parts =>
      obtain ⟨before, name, after⟩ := parts
      rw [hw] at hskip
      rw [r.resolve_of_some hw, r.resolve_of_some hskip]
      simp
  | case2 u before name after hu ih =>
    rw [r.resolve_of_some hu, r.resolve_of_some (first?_append hu w),
      ih ((isClosed_iff_of_some hu).1 h), List.append_assoc, List.append_assoc,
      List.append_assoc]

/-- A placeholder at the start of a text is replaced, whatever follows. -/
lemma resolve_written_append (r : Resolver) {name : Text} (h : ¬closing <:+: name ++ ['}'])
    (w : Text) :
    (r.resolve (written name ++ w)).text =
      r.replacement (.placeholder name) ++ (r.resolve w).text := by
  rw [r.resolve_of_some (first?_written h w), List.nil_append]

/-- **Behind an open text, a placeholder is swallowed.** It is kept as it is written by a resolver
that has no value for longer names.

**Proof sketch.** By induction along the placeholders of the open text. Behind the last one, the
braces that are open take in the placeholder with more in front of its name (`first?_of_open`);
such a longer name is kept as written, and so the placeholder stays. -/
theorem resolve_open_append (r : Resolver) {u name : Text} (h : ¬IsClosed u)
    (hname : ¬closing <:+: name ++ ['}'])
    (hr : ∀ n : Text, name.length < n.length → r.replacement (.placeholder n) = written n)
    (w : Text) :
    (r.resolve (u ++ written name ++ w)).text =
      (r.resolve u).text ++ written name ++ (r.resolve w).text := by
  fun_induction afterLast u with
  | case1 u hu =>
    obtain ⟨before, n, hfirst, happend, hlength⟩ := first?_of_open hu h hname w
    rw [r.resolve_of_some hfirst, hr n hlength, happend, r.resolve_of_none hu]
  | case2 u before n after hu ih =>
    rw [r.resolve_of_some hu, List.append_assoc u, r.resolve_of_some (first?_append hu _),
      ← List.append_assoc after, ih ((isClosed_iff_of_some hu).not.1 h)]
    simp

end Resolver

end StaticSite
