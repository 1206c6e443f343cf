import Mathlib
import StaticSite.Proofs.Html.Title

set_option relaxedAutoImplicit false
set_option autoImplicit false

/-!
# The first title element

The title of a page lies between three offsets: that of the first opening tag, the end of this tag,
and that of the first closing tag behind it. Near misses, such as a longer name, hide no tag that
stands further on, and the offsets are the same in every text that differs in the case of ASCII
letters only.

## Main definitions

* `StaticSite.Html.OpensAt` — an opening tag of a title stands at an offset.
* `StaticSite.Html.IsTitleRange` — the offsets of the first title element.

## Main results

* `StaticSite.Html.opensAt_iff` — an opening tag stands at an offset if the text behind it starts
  with one.
* `StaticSite.Html.title?_cases` — the title is cut out at the offsets of the first element, and
  without such an element there is none.
* `StaticSite.Html.isTitleRange_congr` — the offsets do not depend on the case of letters.
-/

namespace StaticSite

namespace Html

open StaticSite.Text (byteSize byteSize_append toLowerAscii toLowerAscii_append IsSlice IsAscii
  StandsAt StandsCaselessAt breakOnCaseless isAsciiSpace)

/-! ## Offsets of tags -/

/-- A character ends the name of a tag: the end of the tag, or white space. -/
def EndsName (c : Char) : Prop := c = '>' ∨ isAsciiSpace c = true

/-- An opening tag of a title stands at an offset: its name, up to case, and at once a character
that ends the name. -/
def OpensAt (html : Text) (i : Nat) : Prop :=
  StandsCaselessAt titleOpening html i ∧
    ∃ c, EndsName c ∧ StandsAt [c] html (i + byteSize titleOpening)

/-- The end of a tag: the offset behind the first `>` at or behind the end of the tag's name. -/
def IsTagEnd (html : Text) (i o : Nat) : Prop :=
  ∃ e, IsLeast {e | i + byteSize titleOpening ≤ e ∧ StandsAt ['>'] html e} e ∧ o = e + 1

/-- The offsets of the first title element: its opening tag stands at `i` and ends at `o`, and its
closing tag stands at `c`. -/
structure IsTitleRange (html : Text) (i o c : Nat) : Prop where
  /-- The first opening tag. -/
  opens : IsLeast {i | OpensAt html i} i
  /-- The end of the opening tag. -/
  tagEnd : IsTagEnd html i o
  /-- The first closing tag behind it. -/
  closes : IsLeast {c | o ≤ c ∧ StandsCaselessAt titleClosing html c} c

/-- A text has the offsets of one title element, at most. -/
lemma IsTitleRange.unique {html : Text} {i o c i' o' c' : Nat} (h : IsTitleRange html i o c)
    (h' : IsTitleRange html i' o' c') : i = i' ∧ o = o' ∧ c = c' := by
  obtain rfl := h.opens.unique h'.opens
  obtain ⟨e, he, rfl⟩ := h.tagEnd
  obtain ⟨e', he', rfl⟩ := h'.tagEnd
  obtain rfl := he.unique he'
  exact ⟨rfl, rfl, h.closes.unique h'.closes⟩

/-- The characters that end the name of a tag are ASCII and no letters. -/
private lemma EndsName.ascii {c : Char} (h : EndsName c) : c.toNat < 0x80 ∧ c.isAlpha = false := by
  simp only [EndsName, isAsciiSpace, Bool.or_eq_true, beq_iff_eq] at h
  obtain rfl | (((rfl | rfl) | rfl) | rfl) | rfl := h <;> exact ⟨by decide, by decide⟩

/-- A tag's name is ended by what the search takes for its end. -/
lemma endsName_iff {c : Char} : (c == '>' || isAsciiSpace c) = true ↔ EndsName c := by
  rw [EndsName, Bool.or_eq_true, beq_iff_eq]

/-- **An opening tag stands at an offset** exactly if the text behind the offset starts with one.

**Proof sketch.** The name and the character behind it are slices of the text that lie side by
side, so together they are one slice. Conversely a text that starts with a tag has both slices at
its start. -/
theorem opensAt_iff {html : Text} {i : Nat} : OpensAt html i ↔
    ∃ w t, html = w ++ t ∧ byteSize w = i ∧ startsTitle t = true := by
  have hopening : IsAscii (toLowerAscii titleOpening) := by decide
  constructor
  · rintro ⟨hname, c, hc, hend⟩
    obtain ⟨q, hslice, hq⟩ := (Text.standsCaselessAt_iff hopening (by decide)).1 hname
    have hpattern : IsAscii [c] := List.forall_mem_singleton.2 hc.ascii.1
    have hend' := (Text.standsAt_iff hpattern (by simp)).1 hend
    -- the name and the character behind it are one part of the text
    obtain ⟨w, rest, rfl, hsize, -⟩ := hslice.append hend'
    exact ⟨w, q ++ c :: rest, by simp, hsize,
      startsTitle_iff.2 ⟨q, c, rest, rfl, hq, endsName_iff.2 hc⟩⟩
  · rintro ⟨w, t, rfl, rfl, hstarts⟩
    obtain ⟨q, c, rest, rfl, hq, hc⟩ := startsTitle_iff.1 hstarts
    have hsize : byteSize q = byteSize titleOpening := Text.byteSize_eq_of_toLowerAscii hq
    have hslice : IsSlice (w ++ (q ++ c :: rest)) (byteSize w)
        (byteSize w + byteSize titleOpening) q :=
      ⟨w, c :: rest, by simp, rfl, by rw [byteSize_append, hsize]⟩
    have hend : IsSlice (w ++ (q ++ c :: rest)) (byteSize w + byteSize titleOpening)
        (byteSize w + byteSize titleOpening + byteSize [c]) [c] :=
      ⟨w ++ q, rest, by simp, by rw [byteSize_append, hsize], by simp [hsize, Nat.add_assoc]⟩
    exact ⟨(Text.standsCaselessAt_iff hopening (by decide)).2 ⟨q, hslice, hq⟩, c,
      endsName_iff.1 hc, hend.standsAt⟩

/-! ## The opening tag -/

/-- Where a title is opened, there is a first place where this is done, and the search passes over
the text in front of it. -/
private lemma exists_first_start {html : Text} (h : opensTitle html = true) :
    ∃ w t, html = w ++ t ∧ startsTitle t = true ∧ afterTitleTag? html = afterTitleTag? t ∧
      ∀ u v, html = u ++ v → startsTitle v = true → w <+: u := by
  induction html with
  | nil => simp [opensTitle] at h
  | cons c html ih =>
    cases hstart : startsTitle (c :: html) with
    | true => exact ⟨[], c :: html, rfl, hstart, rfl, fun u _ _ _ => List.nil_prefix⟩
    | false =>
      rw [opensTitle, hstart, Bool.false_or] at h
      obtain ⟨w, t, rfl, ht, htag, hfirst⟩ := ih h
      refine ⟨c :: w, t, rfl, ht, (afterTitleTag?_cons hstart).trans htag, ?_⟩
      rintro (_ | ⟨d, u⟩) v heq hv
      · rw [List.nil_append] at heq
        rw [heq, hv] at hstart
        simp at hstart
      · obtain ⟨rfl, heq'⟩ := List.cons.inj heq
        exact List.cons_prefix_cons.2 ⟨rfl, hfirst u v heq' hv⟩

/-- A text in which no title is opened has no offset of an opening tag. -/
private lemma not_opensAt_of_not_opens {html : Text} (h : opensTitle html = false) (i : Nat) :
    ¬OpensAt html i := by
  rw [opensAt_iff]
  rintro ⟨w, t, rfl, -, ht⟩
  induction w with
  | nil =>
    cases t with
    | nil => simp [startsTitle, titleOpening, Text.dropPrefixCaseless?] at ht
    | cons c t => simp_all [opensTitle]
  | cons c w ih =>
    rw [List.cons_append, opensTitle, Bool.or_eq_false_iff] at h
    exact ih h.2

/-- Behind the first opening tag stands what follows the first `>` behind its name. -/
lemma afterTitleTag?_of_starts {q rest : Text} {c : Char}
    (hq : toLowerAscii q = toLowerAscii titleOpening) (hc : EndsName c) :
    afterTitleTag? (q ++ c :: rest) = (Text.breakOn ['>'] (c :: rest)).map Prod.snd := by
  have hdrop : Text.dropPrefixCaseless? titleOpening (q ++ c :: rest) = some (c :: rest) :=
    Text.dropPrefixCaseless?_eq_some_iff.2 ⟨q, rfl, hq⟩
  rw [afterTitleTag?_of_match hdrop (endsName_iff.2 hc), Text.breakOn]
  by_cases hgt : c = '>'
  · rw [if_pos hgt, hgt]
    rfl
  · have hnone : Text.dropPrefix? ['>'] (c :: rest) = none := by
      rw [Text.dropPrefix?, if_neg (Ne.symm hgt)]
    rw [if_neg hgt, hnone, afterTagEnd?]
    dsimp only
    rw [Option.map_map]
    rfl

/-- The first place where a title is opened is the least offset of an opening tag. -/
private lemma isLeast_opensAt {w t : Text} (hstarts : startsTitle t = true)
    (hfirst : ∀ u v, w ++ t = u ++ v → startsTitle v = true → w <+: u) :
    IsLeast {i | OpensAt (w ++ t) i} (byteSize w) := by
  refine ⟨opensAt_iff.2 ⟨w, t, rfl, rfl, hstarts⟩, fun i hi => ?_⟩
  obtain ⟨u, v, heq, rfl, hv⟩ := opensAt_iff.1 hi
  exact Text.byteSize_mono (hfirst u v heq hv)

section TagEnd

variable {w q rest : Text} (hq : toLowerAscii q = toLowerAscii titleOpening)

include hq

/-- The end of a tag is found behind its name. -/
private lemma isTagEnd_of_breakOn {before after : Text}
    (h : Text.breakOn ['>'] rest = some (before, after)) :
    IsTagEnd (w ++ q ++ rest) (byteSize w) (byteSize (w ++ q ++ before ++ ['>'])) := by
  have hleast := Text.isLeast_of_breakOn (by decide) (by simp) h (w ++ q)
  rw [byteSize_append w q, Text.byteSize_eq_of_toLowerAscii hq] at hleast
  exact ⟨_, hleast, by rw [byteSize_append _ ['>']]; rfl⟩

/-- A tag of which no end is found behind its name has none. -/
private lemma not_isTagEnd_of_breakOn (h : Text.breakOn ['>'] rest = none) (o : Nat) :
    ¬IsTagEnd (w ++ q ++ rest) (byteSize w) o := by
  rintro ⟨e, ⟨⟨hle, hstands⟩, -⟩, -⟩
  rw [← Text.byteSize_eq_of_toLowerAscii hq, ← byteSize_append] at hle
  exact Text.not_standsAt_of_breakOn (by decide) (by simp) h _ hle hstands

end TagEnd

/-- **The first opening tag and its end**: either the search finds the text behind it, or there is
no such tag, or it is not ended.

**Proof sketch.** If no tag opens, there is no first one. If one opens, the first is where the
search finds it; what is read behind its name is the text behind the next `>`, and without a `>`
the tag has no end. -/
theorem afterTitleTag?_cases (html : Text) :
    (∃ i w rest, afterTitleTag? html = some rest ∧ html = w ++ rest ∧
      IsLeast {i | OpensAt html i} i ∧ IsTagEnd html i (byteSize w)) ∨
    (afterTitleTag? html = none ∧
      ∀ i o, IsLeast {i | OpensAt html i} i → ¬IsTagEnd html i o) := by
  cases hopens : opensTitle html with
  | false =>
    exact .inr ⟨afterTitleTag?_of_not_opens hopens,
      fun i _ hi => absurd hi.1 (not_opensAt_of_not_opens hopens i)⟩
  | true =>
    obtain ⟨w, t, rfl, hstarts, htag, hfirst⟩ := exists_first_start hopens
    have hleast := isLeast_opensAt hstarts hfirst
    obtain ⟨q, c, rest, rfl, hq, hc⟩ := startsTitle_iff.1 hstarts
    rw [afterTitleTag?_of_starts hq (endsName_iff.1 hc)] at htag
    rw [← List.append_assoc w] at hleast htag ⊢
    cases hgt : Text.breakOn ['>'] (c :: rest) with
    | none =>
      refine .inr ⟨by rw [htag, hgt, Option.map_none], fun i o hi => ?_⟩
      obtain rfl := hi.unique hleast
      exact not_isTagEnd_of_breakOn hq hgt o
    | some parts =>
      obtain ⟨before, after⟩ := parts
      refine .inl ⟨byteSize w, w ++ q ++ before ++ ['>'], after,
        by rw [htag, hgt, Option.map_some], ?_, hleast, isTagEnd_of_breakOn hq hgt⟩
      rw [← Text.append_of_breakOn hgt]
      simp

/-! ## The title -/

/-- What stands between the tags is trimmed, and counts only if it is not blank. -/
def titleOf? (inner : Text) : Option Text :=
  if Text.trim inner = [] then none else some (Text.trim inner)

/-- The title of a text in which the opening tag and the closing tag are found. -/
lemma title?_of_found {html rest inner after : Text} (htag : afterTitleTag? html = some rest)
    (hclosing : breakOnCaseless titleClosing rest = some (inner, after)) :
    title? html = titleOf? inner := by
  rw [title?, htag]
  simp only [hclosing, titleOf?, List.isEmpty_iff]

/-- **The title is cut out between the offsets of the first title element**, and a text without such
an element has no title.

**Proof sketch.** The offsets of the first tag and of its end are unique, so a range has the ones
that the search finds (`afterTitleTag?_cases`). Behind them the first closing name is found, or
there is none, and a range needs one. -/
theorem title?_cases (html : Text) :
    (∃ i o c inner, IsTitleRange html i o c ∧ IsSlice html o c inner ∧
      title? html = titleOf? inner) ∨
    (title? html = none ∧ ∀ i o c, ¬IsTitleRange html i o c) := by
  have hclosing : IsAscii (toLowerAscii titleClosing) := by decide
  obtain ⟨i, w, rest, htag, rfl, hopens, hend⟩ | ⟨htag, hnone⟩ := afterTitleTag?_cases html
  · cases hbreak : breakOnCaseless titleClosing rest with
    | none =>
      refine .inr ⟨by rw [title?, htag]; simp only [hbreak], fun i' o' c hrange => ?_⟩
      obtain rfl := hrange.opens.unique hopens
      obtain ⟨e, he, ho⟩ := hend
      obtain ⟨e', he', rfl⟩ := hrange.tagEnd
      obtain rfl := he.unique he'
      obtain ⟨hle, hstands⟩ := hrange.closes.1
      exact Text.not_standsCaselessAt_of_breakOnCaseless hclosing (by decide) hbreak w
        (ho ▸ hle) hstands
    | some parts =>
      obtain ⟨inner, after⟩ := parts
      obtain ⟨q, rfl, -⟩ := Text.append_of_breakOnCaseless hbreak
      refine .inl ⟨i, byteSize w, byteSize (w ++ inner), inner, ⟨hopens, hend, ?_⟩,
        ⟨w, q ++ after, by simp, rfl, rfl⟩, title?_of_found htag hbreak⟩
      exact Text.isLeast_of_breakOnCaseless hclosing (by decide) hbreak w
  · refine .inr ⟨by rw [title?, htag], fun i o c hrange => ?_⟩
    exact hnone i o hrange.opens hrange.tagEnd

/-! ## The case of letters -/

section Case

variable {html html' : Text} (hcase : toLowerAscii html' = toLowerAscii html)

include hcase

/-- Where a pattern stands up to case does not depend on the case. -/
private lemma standsCaselessAt_congr (pattern : Text) (i : Nat) :
    StandsCaselessAt pattern html' i ↔ StandsCaselessAt pattern html i := by
  rw [StandsCaselessAt, StandsCaselessAt, hcase]

/-- The characters that end a tag or its name stand at the same offsets. -/
private lemma standsAt_congr {c : Char} (hc : EndsName c) (i : Nat) :
    StandsAt [c] html' i ↔ StandsAt [c] html i := by
  obtain ⟨hascii, halpha⟩ := hc.ascii
  rw [← Text.standsCaselessAt_singleton_iff hascii halpha, standsCaselessAt_congr hcase,
    Text.standsCaselessAt_singleton_iff hascii halpha]

/-- Opening tags stand at the same offsets. -/
private lemma opensAt_congr (i : Nat) : OpensAt html' i ↔ OpensAt html i := by
  rw [OpensAt, OpensAt, standsCaselessAt_congr hcase]
  refine and_congr_right fun _ => exists_congr fun c => and_congr_right fun hc => ?_
  exact standsAt_congr hcase hc _

/-- **The offsets of the first title element** do not depend on the case of letters. -/
theorem isTitleRange_congr (i o c : Nat) : IsTitleRange html' i o c ↔ IsTitleRange html i o c := by
  have hopens : {i | OpensAt html' i} = {i | OpensAt html i} :=
    Set.ext fun i => opensAt_congr hcase i
  have hend : IsTagEnd html' i o ↔ IsTagEnd html i o := by
    simp only [IsTagEnd, standsAt_congr hcase (.inl rfl)]
  have hcloses : {c | o ≤ c ∧ StandsCaselessAt titleClosing html' c} =
      {c | o ≤ c ∧ StandsCaselessAt titleClosing html c} :=
    Set.ext fun c => and_congr_right fun _ => standsCaselessAt_congr hcase titleClosing c
  constructor <;> rintro ⟨h₁, h₂, h₃⟩
  · exact ⟨hopens ▸ h₁, hend.1 h₂, hcloses ▸ h₃⟩
  · exact ⟨hopens ▸ h₁, hend.2 h₂, hcloses ▸ h₃⟩

end Case

end Html

end StaticSite
