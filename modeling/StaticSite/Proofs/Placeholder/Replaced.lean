import Mathlib
import StaticSite.Proofs.Placeholder.Overlap

set_option relaxedAutoImplicit false
set_option autoImplicit false

/-!
# Texts with their placeholders replaced

What a pass makes of a text is determined by the placeholders that the scan finds in it, with their
offsets: each of them gives way to something, and no byte of the text around them is touched.

## Main definitions

* `StaticSite.Placeholder.Replaced` — some placeholders of a text replaced, by their offsets.

## Main results

* `StaticSite.Placeholder.Replaced.eq` — there is one such text at most.
* `StaticSite.Resolver.replaced_iff` — it is the one that a resolver with these values makes.
-/

namespace StaticSite

namespace Placeholder

/-- Some placeholders of a text that starts at a byte offset, replaced by the values of their names.
Each of them is written at its own offset, and the text around them is kept. -/
inductive Replaced (value : Text → Text) : Nat → Text → List Placeholder → Text → Prop where
  /-- Behind the last placeholder, the text is kept. -/
  | rest (offset : Nat) (t : Text) : Replaced value offset t [] t
  /-- The text in front of a placeholder is kept, and the value of its name stands for it. -/
  | next {offset : Nat} {before name t u : Text} {ps : List Placeholder}
      (h : Replaced value (offset + Text.byteSize (before ++ written name)) t ps u) :
      Replaced value offset (before ++ written name ++ t)
        (⟨name, offset + Text.byteSize before⟩ :: ps) (before ++ value name ++ u)

/-- **There is one text** in which given placeholders of a text are replaced, at most.

**Proof sketch.** By induction on the replacements. Both texts have the first placeholder at the
same offset, so what stands in front of it is the same, and what follows is replaced as the
induction says. -/
theorem Replaced.eq {value : Text → Text} {offset : Nat} {t u u' : Text} {ps : List Placeholder}
    (h : Replaced value offset t ps u) (h' : Replaced value offset t ps u') : u = u' := by
  induction h generalizing u' with
  | rest offset t =>
    cases h'
    rfl
  | @next offset before name t u ps h ih =>
    generalize hwhole : before ++ written name ++ t = whole at h'
    generalize hfirst : Placeholder.mk name (offset + Text.byteSize before) = p at h'
    cases h' with
    | @next _ before' name' t' u' _ h' =>
      obtain ⟨rfl, hsize⟩ := Placeholder.mk.inj hfirst
      obtain rfl : before = before' := by
        refine Text.eq_of_prefix_of_byteSize ?_ ?_ (Nat.add_left_cancel hsize)
          (w := before ++ written name ++ t)
        · exact ⟨written name ++ t, (List.append_assoc ..).symm⟩
        · exact ⟨written name ++ t', by rw [hwhole, List.append_assoc]⟩
      obtain rfl : t = t' := List.append_cancel_left hwhole
      rw [ih h']

end Placeholder

namespace Resolver

open Placeholder

/-- A resolver replaces the placeholders that the scan finds, wherever the text starts. -/
private lemma replaced_resolve (r : Resolver) {value : Text → Text} (offset : Nat) {t : Text}
    (h : ∀ name ∈ names t, r.replacement (.placeholder name) = value name) :
    Replaced value offset t (locate offset (pieces t)) (r.resolve t).text := by
  fun_induction afterLast t generalizing offset with
  | case1 t hnone =>
    rw [r.resolve_of_none hnone, pieces_of_none hnone]
    exact .rest offset t
  | case2 t before name after hfirst ih =>
    rw [names_of_some hfirst] at h
    obtain ⟨hname, hafter⟩ := List.forall_mem_cons.1 h
    have hrest := ih (offset + Text.byteSize (before ++ written name)) hafter
    rw [r.resolve_of_some hfirst, hname, pieces_of_some hfirst, locate, locate, Nat.add_assoc,
      ← Text.byteSize_append]
    have hnext := Replaced.next hrest
    rwa [append_of_first? hfirst] at hnext

/-- **What a resolver makes of a text** is the text with every placeholder that the scan finds
replaced by its value, and with nothing else changed. -/
theorem replaced_iff (r : Resolver) {value : Text → Text} {t : Text}
    (h : ∀ name ∈ names t, r.replacement (.placeholder name) = value name) {u : Text} :
    Replaced value 0 t (scan t) u ↔ u = (r.resolve t).text := by
  have hresolve : Replaced value 0 t (scan t) (r.resolve t).text := r.replaced_resolve 0 h
  constructor
  · intro hu
    exact hu.eq hresolve
  · rintro rfl
    exact hresolve

end Resolver

end StaticSite
