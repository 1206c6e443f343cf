import Mathlib
import StaticSite.Proofs.Placeholder.Append

set_option relaxedAutoImplicit false
set_option autoImplicit false

/-!
# Resolving in two passes

The second of two passes scans a text into which the first one has put its values. If every value is
closed, no braces come together across the border of a value, a kept placeholder and the text
between them: the second pass finds the placeholders that the first one left, and no others. What
both do is then what one pass does, by a resolver made of theirs.

## Main definitions

* `StaticSite.Resolver.followedBy` — the answers of two passes at once.
* `StaticSite.Resolver.leaves` — the placeholders that a pass leaves where one was.
* `StaticSite.Resolver.HasClosedValues` — every value for a placeholder of a text is closed.

## Main results

* `StaticSite.Placeholder.isClosed_iff` — the closed texts, by what is behind the last placeholder.
* `StaticSite.Resolver.names_resolve` — the second pass finds what the first one left.
* `StaticSite.Resolver.text_resolve_resolve` — two passes are one pass by both resolvers.
* `StaticSite.Resolver.resolve_resolve_self` — a second pass without new braces changes nothing.
* `StaticSite.Resolver.resolve_twice` — the text, the reports and the placeholders of two passes.
-/

namespace StaticSite

namespace Placeholder

/-! ## Closed texts -/

/-- A text is closed if there are no opening braces behind its last placeholder and it does not end
with one brace of them. -/
lemma isClosed_iff {t : Text} :
    IsClosed t ↔ ¬opening <:+: afterLast t ∧ (afterLast t).getLast? ≠ some '{' := by
  unfold IsClosed opening
  rw [Text.double_infix_append_iff]
  simp [List.infix_singleton_iff]

/-- A text without opening braces holds no placeholder. -/
lemma first?_of_not_opening {t : Text} (h : ¬opening <:+: t) : first? t = none := by
  rw [first?, (Text.breakOn_eq_none_iff (by simp [opening])).2 h]

/-- A text that no opening braces stand in, and that none are open at the end of, is closed and
holds no placeholder. -/
lemma closed_of_not_opening {t : Text} (h : ¬opening <:+: t ++ ['{']) :
    first? t = none ∧ IsClosed t := by
  have hnone : first? t = none := first?_of_not_opening fun hwithin =>
    h (hwithin.trans (List.prefix_append t ['{']).isInfix)
  exact ⟨hnone, (isClosed_iff_of_none hnone).2 h⟩

/-- The text in front of the leftmost placeholder holds none and leaves none open. -/
lemma closed_before {t before name after : Text} (h : first? t = some (before, name, after)) :
    first? before = none ∧ IsClosed before := by
  obtain ⟨rest, hopen, -⟩ := first?_eq_some_iff.1 h
  exact closed_of_not_opening (Text.not_double_infix_of_breakOn hopen)

/-- The name of the leftmost placeholder does not hold closing braces, nor start any. -/
lemma not_closing_of_first? {t before name after : Text}
    (h : first? t = some (before, name, after)) : ¬closing <:+: name ++ ['}'] := by
  obtain ⟨rest, -, hclose⟩ := first?_eq_some_iff.1 h
  exact Text.not_double_infix_of_breakOn hclose

/-- A name without a closing brace does not hold closing braces, nor start any. -/
lemma not_closing_of_notMem {name : Text} (h : '}' ∉ name) : ¬closing <:+: name ++ ['}'] := by
  unfold closing
  rw [Text.double_infix_append_iff]
  rintro (hwithin | hwithin | ⟨hlast, -⟩)
  · exact h (hwithin.subset (by simp))
  · exact absurd hwithin (by decide)
  · exact h (List.mem_of_getLast? hlast)

/-- A placeholder as it is written is closed, and its name is the only one in it. -/
lemma written_spec {name : Text} (h : ¬closing <:+: name ++ ['}']) :
    IsClosed (written name) ∧ names (written name) = [name] := by
  have hfirst : first? (written name) = some ([], name, []) := by
    simpa using first?_written h []
  have hnil : first? [] = none := rfl
  refine ⟨(isClosed_iff_of_some hfirst).2 ((isClosed_iff_of_none hnil).2 (by decide)), ?_⟩
  rw [names_of_some hfirst, names_of_none hnil]

/-- A text without an opening brace is closed and holds no placeholder. -/
lemma closed_of_notMem {t : Text} (h : '{' ∉ t) : first? t = none ∧ IsClosed t := by
  have hwithin : ¬opening <:+: t := fun hwithin => h (hwithin.subset (by simp [opening]))
  have hnone := first?_of_not_opening hwithin
  refine ⟨hnone, isClosed_iff.2 ?_⟩
  rw [afterLast_of_none hnone]
  exact ⟨hwithin, fun hlast => h (List.mem_of_getLast? hlast)⟩

end Placeholder

namespace Resolver

open Placeholder

/-! ## One pass behind the other -/

/-- The answers of two passes at once: the value that the first pass has for a name, resolved by the
second, and the answer of the second where the first keeps the placeholder. -/
def followedBy (r s : Resolver) : Resolver := fun name =>
  match r name with
  | .value v => .value (s.resolve v).text
  | .defer => s name
  | .unknown => s name

/-- The placeholders that a pass leaves where one of a given name was: those in its value, or the
placeholder itself if it is kept. -/
def leaves (r : Resolver) (name : Text) : List Text :=
  match r name with
  | .value v => names v
  | .defer => [name]
  | .unknown => [name]

/-- Every value for a placeholder of the text is closed. -/
def HasClosedValues (r : Resolver) (t : Text) : Prop :=
  ∀ name ∈ names t, ∀ v, r name = .value v → IsClosed v

/-- The value of the leftmost placeholder is closed, and so are those of the placeholders behind
it. -/
private lemma HasClosedValues.of_some {r : Resolver} {t before name after : Text}
    (h : r.HasClosedValues t) (hfirst : first? t = some (before, name, after)) :
    (∀ v, r name = .value v → IsClosed v) ∧ r.HasClosedValues after := by
  unfold HasClosedValues at h
  rw [names_of_some hfirst] at h
  exact List.forall_mem_cons.1 h

/-- What takes the place of a placeholder is closed, it holds the placeholders that the pass leaves,
and the second pass makes of it what both make of the placeholder at once.

**Proof sketch.** A value is closed by the hypothesis. A placeholder that is kept is closed too,
holds itself only (`written_spec`), and the second pass puts its own replacement there. -/
private lemma replacement_spec (r s : Resolver) {name : Text} (hname : ¬closing <:+: name ++ ['}'])
    (hvalue : ∀ v, r name = .value v → IsClosed v) :
    IsClosed (r.replacement (.placeholder name)) ∧
      names (r.replacement (.placeholder name)) = r.leaves name ∧
      (s.resolve (r.replacement (.placeholder name))).text =
        (r.followedBy s).replacement (.placeholder name) := by
  obtain ⟨hclosed, hnames⟩ := written_spec hname
  have hresolve : (s.resolve (written name)).text = s.replacement (.placeholder name) := by
    have happend := s.resolve_written_append hname []
    have hnil : (s.resolve []).text = [] := s.resolve_of_none rfl
    simpa [hnil] using happend
  cases hr : r name with
  | value v => simpa [replacement, leaves, followedBy, hr] using hvalue v hr
  | defer =>
    simp only [replacement, leaves, followedBy, hr]
    exact ⟨hclosed, hnames, hresolve⟩
  | unknown =>
    simp only [replacement, leaves, followedBy, hr]
    exact ⟨hclosed, hnames, hresolve⟩

/-- **The second pass finds exactly what the first one left**: the placeholders in the values that
were put in, and those that were kept, in their order.

**Proof sketch.** By induction along the placeholders of the text. The text in front of the leftmost
one is closed because no braces open in it, and what takes the place of the placeholder is closed,
so the names of the three parts are found apart. -/
theorem names_resolve (r : Resolver) {t : Text} (h : r.HasClosedValues t) :
    names (r.resolve t).text = (names t).flatMap r.leaves := by
  fun_induction afterLast t with
  | case1 t hnone => rw [r.resolve_of_none hnone, names_of_none hnone, List.flatMap_nil]
  | case2 t before name after hfirst ih =>
    obtain ⟨hvalue, hrest⟩ := h.of_some hfirst
    obtain ⟨hnone, hbefore⟩ := closed_before hfirst
    obtain ⟨hclosed, hnames, -⟩ := r.replacement_spec r (not_closing_of_first? hfirst) hvalue
    rw [r.resolve_of_some hfirst, List.append_assoc, names_append hbefore, names_append hclosed,
      names_of_none hnone, hnames, ih hrest, names_of_some hfirst, List.flatMap_cons,
      List.nil_append]

/-- **Two passes are one pass by both resolvers.** The induction is that of `names_resolve`. -/
theorem text_resolve_resolve (r s : Resolver) {t : Text} (h : r.HasClosedValues t) :
    (s.resolve (r.resolve t).text).text = ((r.followedBy s).resolve t).text := by
  fun_induction afterLast t with
  | case1 t hnone => rw [r.resolve_of_none hnone, s.resolve_of_none hnone, resolve_of_none _ hnone]
  | case2 t before name after hfirst ih =>
    obtain ⟨hvalue, hrest⟩ := h.of_some hfirst
    obtain ⟨hnone, hbefore⟩ := closed_before hfirst
    obtain ⟨hclosed, -, hboth⟩ := r.replacement_spec s (not_closing_of_first? hfirst) hvalue
    rw [r.resolve_of_some hfirst, List.append_assoc, s.resolve_append hbefore,
      s.resolve_append hclosed, s.resolve_of_none hnone, hboth, ih hrest,
      resolve_of_some _ hfirst, List.append_assoc]

/-! ## The same pass again -/

/-- A resolver that puts in no opening brace leaves exactly what it keeps. -/
private lemma flatMap_leaves (r : Resolver) {ns : List Text}
    (h : ∀ name ∈ ns, ∀ v, r name = .value v → '{' ∉ v) :
    ns.flatMap r.leaves = ns.filter fun name => r name = .defer ∨ r name = .unknown := by
  induction ns with
  | nil => rfl
  | cons name ns ih =>
    obtain ⟨hname, hrest⟩ := List.forall_mem_cons.1 h
    rw [List.flatMap_cons, ih hrest]
    cases hr : r name with
    | value v => simp [leaves, hr, names_of_none (closed_of_notMem (hname v hr)).1]
    | defer => simp [leaves, hr]
    | unknown => simp [leaves, hr]

/-- The text of a pass depends on the answers for the placeholders in it only. -/
private lemma text_resolve_congr {r s : Resolver} {t : Text}
    (h : ∀ name ∈ names t, r.replacement (.placeholder name) = s.replacement (.placeholder name)) :
    (r.resolve t).text = (s.resolve t).text := by
  fun_induction afterLast t with
  | case1 t hnone => rw [resolve_of_none _ hnone, resolve_of_none _ hnone]
  | case2 t before name after hfirst ih =>
    rw [names_of_some hfirst] at h
    obtain ⟨hname, hrest⟩ := List.forall_mem_cons.1 h
    rw [resolve_of_some _ hfirst, resolve_of_some _ hfirst, hname, ih hrest]

/-- **The same pass again changes nothing** if no value holds an opening brace, and it reports the
same placeholders.

**Proof sketch.** A value without an opening brace holds no placeholder, so the second pass leaves
it and meets the kept placeholders alone. These it keeps again, and it reports the unknown ones
among them, which are the ones reported before. -/
theorem resolve_resolve_self (r : Resolver) {t : Text}
    (h : ∀ name ∈ names t, ∀ v, r name = .value v → '{' ∉ v) :
    r.resolve (r.resolve t).text = r.resolve t := by
  have hclosed : r.HasClosedValues t := fun name hname v hv =>
    (closed_of_notMem (h name hname v hv)).2
  have htext : (r.resolve (r.resolve t).text).text = (r.resolve t).text := by
    rw [r.text_resolve_resolve r hclosed]
    refine text_resolve_congr fun name hname => ?_
    cases hr : r name with
    | value v =>
      have hv := r.resolve_of_none (closed_of_notMem (h name hname v hr)).1
      simp only [replacement, followedBy, hr, hv]
    | defer => simp only [replacement, followedBy, hr]
    | unknown => simp only [replacement, followedBy, hr]
  have hreport : (r.resolve (r.resolve t).text).unresolved = (r.resolve t).unresolved := by
    rw [unresolved_eq, unresolved_eq, r.names_resolve hclosed, r.flatMap_leaves h,
      List.filter_filter]
    congr 1
    refine List.filter_congr fun name _ => ?_
    cases r name <;> rfl
  calc
    r.resolve (r.resolve t).text
        = ⟨(r.resolve (r.resolve t).text).text, (r.resolve (r.resolve t).text).unresolved⟩ := rfl
    _ = ⟨(r.resolve t).text, (r.resolve t).unresolved⟩ := by rw [htext, hreport]
    _ = r.resolve t := rfl

/-! ## What two passes do -/

/-- **Two passes with closed values.** The text is that of one pass by both resolvers. Reported are
the placeholders that the first pass left and the second does not know, in the order of the text:
the second pass finds no others. If no value of the first pass holds an opening brace, the
placeholders it left are those it kept, and the same pass again gives the same.

**Proof sketch.** What the first pass puts in place of the placeholders is closed, so no
placeholder comes up across a border and the second pass works on each of them by itself
(`text_resolve_resolve`, `names_resolve`). Values without an opening brace leave only the kept
placeholders, which the same pass keeps. -/
theorem resolve_twice (r s : Resolver) {t : Text} (h : r.HasClosedValues t) :
    (s.resolve (r.resolve t).text).text = ((r.followedBy s).resolve t).text ∧
      (s.resolve (r.resolve t).text).unresolved =
        (((names t).flatMap r.leaves).filter fun name => s name = .unknown).map written ∧
      names (r.resolve t).text = (names t).flatMap r.leaves ∧
      ((∀ name ∈ names t, ∀ v, r name = .value v → '{' ∉ v) →
        names (r.resolve t).text =
            ((names t).filter fun name => r name = .defer ∨ r name = .unknown) ∧
          r.resolve (r.resolve t).text = r.resolve t) := by
  refine ⟨r.text_resolve_resolve s h, ?_, r.names_resolve h, fun hbrace => ⟨?_, ?_⟩⟩
  · rw [unresolved_eq, r.names_resolve h]
  · rw [r.names_resolve h, r.flatMap_leaves hbrace]
  · exact r.resolve_resolve_self hbrace

/-- An opening without a closing, behind a single brace. -/
def openEnd : Text := '{' :: ' ' :: (opening ++ "d".toList)

/-- A text with three braces in a row, placeholders side by side, and an open end. -/
def tripleBraces : Text :=
  written ('{' :: "a".toList) ++ written "b".toList ++ written "c".toList ++ openEnd

/-- A value that holds a placeholder, and an empty value. -/
def fillsTwo : Resolver := fun name =>
  if name = '{' :: "a".toList then .value (written "e".toList ++ ['}'])
  else if name = "b".toList then .value []
  else .unknown

/-- A value that leaves braces open. -/
def fillsOne : Resolver := fun name => if name = "e".toList then .value opening else .unknown

/-- The placeholder in the value is replaced, the kept one is found again, and the braces at the end
stay what they are. -/
theorem resolve_twice_tripleBraces :
    fillsTwo.HasClosedValues tripleBraces ∧
      (fillsOne.resolve (fillsTwo.resolve tripleBraces).text).text =
        opening ++ ['}'] ++ written "c".toList ++ openEnd ∧
      (fillsOne.resolve (fillsTwo.resolve tripleBraces).text).unresolved = [written "c".toList] ∧
      names (fillsTwo.resolve tripleBraces).text = ["e".toList, "c".toList] := by
  have hnames : names tripleBraces = ['{' :: "a".toList, "b".toList, "c".toList] := by cbv
  have hclosed : fillsTwo.HasClosedValues tripleBraces := by
    unfold HasClosedValues
    rw [hnames]
    intro name hname v hv
    simp only [List.mem_cons, List.not_mem_nil, or_false] at hname
    rcases hname with rfl | rfl | rfl
    · obtain rfl : written "e".toList ++ ['}'] = v := by simpa [fillsTwo] using hv
      decide +kernel
    · obtain rfl : [] = v := by simpa [fillsTwo] using hv
      decide +kernel
    · simp [fillsTwo] at hv
  obtain ⟨htext, hreport, hleft, -⟩ := resolve_twice fillsTwo fillsOne hclosed
  refine ⟨hclosed, htext.trans ?_, hreport.trans ?_, hleft.trans ?_⟩
  · cbv
  · cbv
  · cbv

end Resolver

end StaticSite
