import Mathlib
import StaticSite.Html.Title
import StaticSite.Proofs.Text.Caseless

set_option relaxedAutoImplicit false
set_option autoImplicit false

/-!
# Titles of texts that are put together

The title of a page is that of the first opening tag of a title in it. A text that opens no title is
passed over, whatever follows, unless a tag runs over the border. No tag does so where a markup
character stands at the border.

## Main definitions

* `StaticSite.Html.startsTitle`, `StaticSite.Html.opensTitle` — an opening tag of a title stands at
  the start of a text, or somewhere in it.
* `StaticSite.Html.IsSeam` — no opening tag of a title runs over a border.
* `StaticSite.Html.IsTitleElement` — a text starts with a whole title element.

## Main results

* `StaticSite.Html.opensTitle_append` — at a seam, a title is opened on one side or the other.
* `StaticSite.Html.title?_of_element` — the title of a text is that of its first title element.
-/

namespace StaticSite

namespace Html

open StaticSite.Text (dropPrefixCaseless? dropPrefixCaseless?_append length_of_dropPrefixCaseless?
  dropPrefixCaseless?_eq_some_iff breakOnCaseless breakOnCaseless_append isAsciiSpace)

/-! ## Opening tags -/

/-- Whether a text starts with an opening tag of a title, closed or not: its name and a character
that ends the name. -/
def startsTitle (t : Text) : Bool :=
  match dropPrefixCaseless? titleOpening t with
  | some (c :: _) => c == '>' || isAsciiSpace c
  | _ => false

/-- An opening tag is the name of one up to case and a character that ends the name. -/
lemma startsTitle_iff {t : Text} : startsTitle t = true ↔
    ∃ q c rest, t = q ++ c :: rest ∧ Text.toLowerAscii q = Text.toLowerAscii titleOpening ∧
      (c == '>' || isAsciiSpace c) = true := by
  constructor
  · intro h
    unfold startsTitle at h
    split at h
    · next c rest hdrop =>
      obtain ⟨q, rfl, hq⟩ := dropPrefixCaseless?_eq_some_iff.1 hdrop
      exact ⟨q, c, rest, rfl, hq, h⟩
    · exact absurd h (by simp)
  · rintro ⟨q, c, rest, rfl, hq, hc⟩
    rw [startsTitle, dropPrefixCaseless?_eq_some_iff.2 ⟨q, rfl, hq⟩]
    exact hc

/-- Whether there is an opening tag of a title in a text. -/
def opensTitle : Text → Bool
  | [] => false
  | c :: t => startsTitle (c :: t) || opensTitle t

/-- A short text has no room for an opening tag. -/
lemma afterTitleTag?_of_short {t : Text} (h : t.length ≤ titleOpening.length) :
    afterTitleTag? t = none := by
  induction t with
  | nil => rfl
  | cons c t ih =>
    have hrest : ∀ {rest}, dropPrefixCaseless? titleOpening (c :: t) = some rest → rest = [] := by
      intro rest hrest
      have := length_of_dropPrefixCaseless? hrest
      exact List.eq_nil_of_length_eq_zero (by omega)
    have ih' := ih (by simp only [List.length_cons] at h; omega)
    unfold afterTitleTag?
    split
    · next hdrop => exact absurd (hrest hdrop) (by simp)
    · next hdrop => exact absurd (hrest hdrop) (by simp)
    · rfl
    · exact ih'

/-- Without an opening tag at its start, the first character of a text is passed over. -/
lemma afterTitleTag?_cons {c : Char} {t : Text} (h : startsTitle (c :: t) = false) :
    afterTitleTag? (c :: t) = afterTitleTag? t := by
  unfold startsTitle at h
  rw [afterTitleTag?]
  split
  · next hdrop => simp [hdrop] at h
  · next d rest hne hdrop =>
    rw [hdrop] at h
    have hspace : isAsciiSpace d = false := by simp_all
    simp [hspace]
  · next hdrop =>
    have := length_of_dropPrefixCaseless? hdrop
    simp only [List.length_cons, List.length_nil] at this
    rw [afterTitleTag?_of_short (by omega)]
  · rfl

/-- In a text without an opening tag of a title there is nothing behind one. -/
lemma afterTitleTag?_of_not_opens {t : Text} (h : opensTitle t = false) :
    afterTitleTag? t = none := by
  induction t with
  | nil => rfl
  | cons c t ih =>
    rw [opensTitle, Bool.or_eq_false_iff] at h
    rw [afterTitleTag?_cons h.1, ih h.2]

/-- A text without an opening tag of a title has no title. -/
lemma title?_of_not_opens {t : Text} (h : opensTitle t = false) : title? t = none := by
  rw [title?, afterTitleTag?_of_not_opens h]

/-- A character that is made small to the one that opens tags is this character. -/
lemma eq_of_toLower {c : Char} (h : '<'.toLower = c.toLower) : c = '<' :=
  (Text.toLower_eq_iff (by decide)).1 h.symm

/-- Only a text with the character that opens tags in front starts with a tag. -/
lemma dropPrefixCaseless?_of_ne {c : Char} (h : c ≠ '<') (p t : Text) :
    dropPrefixCaseless? ('<' :: p) (c :: t) = none := by
  have hne : ('<'.toLower == c.toLower) = false := by
    rw [beq_eq_false_iff_ne]
    exact fun heq => h (eq_of_toLower heq)
  rw [dropPrefixCaseless?, hne]
  rfl

/-- An opening tag starts with the character that opens tags. -/
lemma startsTitle_of_ne {c : Char} (h : c ≠ '<') (t : Text) : startsTitle (c :: t) = false := by
  rw [startsTitle, titleOpening, dropPrefixCaseless?_of_ne h]

/-- A text without the character that opens tags opens no title. -/
lemma opensTitle_of_notMem {t : Text} (h : '<' ∉ t) : opensTitle t = false := by
  induction t with
  | nil => rfl
  | cons c t ih =>
    rw [List.mem_cons, not_or] at h
    rw [opensTitle, ih h.2, startsTitle_of_ne (Ne.symm h.1)]
    rfl

/-- A text without the name of an opening tag opens no title. -/
lemma opensTitle_of_absent {t : Text}
    (h : ¬Text.toLowerAscii titleOpening <:+: Text.toLowerAscii t) : opensTitle t = false := by
  induction t with
  | nil => rfl
  | cons c t ih =>
    have hrest : ¬Text.toLowerAscii titleOpening <:+: Text.toLowerAscii t := fun hwithin =>
      h (hwithin.trans (List.suffix_cons ..).isInfix)
    rw [opensTitle, ih hrest, Bool.or_false]
    refine Bool.eq_false_iff.2 fun hstarts => ?_
    obtain ⟨q, d, rest, heq, hq, -⟩ := startsTitle_iff.1 hstarts
    refine h ⟨[], Text.toLowerAscii (d :: rest), ?_⟩
    rw [List.nil_append, ← hq, ← Text.toLowerAscii_append, ← heq]

/-! ## Seams -/

/-- At the border between two texts stands a character of markup or of a placeholder, so that no
opening tag of a title runs over it. -/
def IsSeam (u w : Text) : Prop :=
  u.getLast? = some '>' ∨ u.getLast? = some '}' ∨ w.head? = some '<' ∨ w.head? = some '{'

/-- The border is the same if characters in front are left out. -/
private lemma IsSeam.of_cons {c : Char} {u w : Text} (hu : u ≠ []) (h : IsSeam (c :: u) w) :
    IsSeam u w := by
  cases u with
  | nil => exact absurd rfl hu
  | cons d u => exact h

/-- No character of a seam is in the name of a title's opening tag, but for that which opens it. -/
lemma seam_notMem {q : Text} (h : Text.toLowerAscii q = Text.toLowerAscii titleOpening) :
    ('>' ∉ q ∧ '}' ∉ q) ∧ '<' ∉ q.tail ∧ '{' ∉ q.tail := by
  have hall : ∀ c : Char, c.toLower ∉ Text.toLowerAscii titleOpening → c ∉ q :=
    fun c hc hmem => hc (h ▸ List.mem_map_of_mem hmem)
  have htail : ∀ c : Char, c.toLower ∉ (Text.toLowerAscii titleOpening).tail → c ∉ q.tail := by
    intro c hc hmem
    rw [← h, Text.toLowerAscii, ← List.map_tail] at hc
    exact hc (List.mem_map_of_mem hmem)
  exact ⟨⟨hall _ (by decide), hall _ (by decide)⟩, htail _ (by decide), htail _ (by decide)⟩

/-- What stands behind a seam does not matter for a tag that starts in front of it.

**Proof sketch.** The name of the tag and the character behind it hold neither of the signs that a
seam has on its sides, but at the very start. So the tag does not run over the seam, and lies whole
in what stands in front. -/
private lemma startsTitle_append {s w : Text} (hs : s ≠ []) (h : IsSeam s w) :
    startsTitle (s ++ w) = startsTitle s := by
  rw [Bool.eq_iff_iff, startsTitle_iff, startsTitle_iff]
  constructor
  · rintro ⟨q, c, rest, heq, hq, hc⟩
    obtain ⟨⟨hgt, hbrace⟩, hlt, hbrace'⟩ := seam_notMem hq
    have hends : c ≠ '<' ∧ c ≠ '{' := by
      constructor <;> rintro rfl <;> exact absurd hc (by decide)
    -- the name of the tag neither runs over the border nor ends there
    have hborder : ∀ a, q = s ++ a → w ≠ a ++ c :: rest := by
      rintro a rfl rfl
      have hhead : ∀ d, (a ++ c :: rest).head? = some d → d = c ∨ d ∈ (s ++ a).tail := by
        intro d hd
        rw [List.tail_append_of_ne_nil hs]
        cases a with
        | nil => exact .inl (by simpa using hd.symm)
        | cons b a => exact .inr (by simp_all)
      obtain h | h | h | h := h
      · exact hgt (List.mem_append_left _ (List.mem_of_getLast? h))
      · exact hbrace (List.mem_append_left _ (List.mem_of_getLast? h))
      · exact (hhead _ h).elim (fun hd => hends.1 hd.symm) hlt
      · exact (hhead _ h).elim (fun hd => hends.2 hd.symm) hbrace'
    obtain ⟨a, hq', hw⟩ | ⟨a, rfl, hrest⟩ := List.append_eq_append_iff.1 heq
    · exact absurd hw (hborder a hq')
    · cases a with
      | nil => exact absurd hrest.symm (hborder [] (by simp))
      | cons b a =>
        obtain ⟨rfl, -⟩ : c = b ∧ rest = a ++ w := by simpa using hrest
        exact ⟨q, c, a, rfl, hq, hc⟩
  · rintro ⟨q, c, rest, rfl, hq, hc⟩
    exact ⟨q, c, rest ++ w, by simp, hq, hc⟩

/-- **At a seam, a title is opened on one side or the other.** -/
theorem opensTitle_append {u w : Text} (h : IsSeam u w) :
    opensTitle (u ++ w) = (opensTitle u || opensTitle w) := by
  induction u with
  | nil => rfl
  | cons c u ih =>
    have hstart := startsTitle_append (by simp) h
    rw [List.cons_append] at hstart ⊢
    rw [opensTitle, opensTitle, hstart, Bool.or_assoc]
    congr 1
    by_cases hu : u = []
    · subst hu
      rfl
    · exact ih (h.of_cons hu)

/-- A text that opens no title is passed over at a seam. -/
lemma afterTitleTag?_append {u w : Text} (hu : opensTitle u = false) (h : IsSeam u w) :
    afterTitleTag? (u ++ w) = afterTitleTag? w := by
  induction u with
  | nil => rfl
  | cons c u ih =>
    rw [opensTitle, Bool.or_eq_false_iff] at hu
    have hstart := startsTitle_append (by simp) h
    rw [List.cons_append] at hstart ⊢
    rw [afterTitleTag?_cons (hstart.trans hu.1)]
    by_cases hnil : u = []
    · subst hnil
      rfl
    · exact ih hu.2 (h.of_cons hnil)

/-! ## Title elements -/

/-- A text starts with an opening tag of a title, and the element is closed in it. -/
structure IsTitleElement (x : Text) : Prop where
  /-- The opening tag. -/
  starts : startsTitle x = true
  /-- The closing tag. -/
  closed : ∃ rest parts, afterTitleTag? x = some rest ∧
    breakOnCaseless titleClosing rest = some parts

/-- A title element starts with the character that opens tags. -/
private lemma head_of_startsTitle {x : Text} (h : startsTitle x = true) : x.head? = some '<' := by
  cases x with
  | nil => simp [startsTitle, titleOpening, dropPrefixCaseless?] at h
  | cons c x =>
    by_contra hne
    rw [startsTitle_of_ne (by simpa using hne)] at h
    simp at h

/-- A name of a tag that is ended by white space starts a tag that ends further on. -/
lemma afterTitleTag?_of_match {t rest : Text} {c : Char}
    (h : dropPrefixCaseless? titleOpening t = some (c :: rest))
    (hc : (c == '>' || isAsciiSpace c) = true) :
    afterTitleTag? t = if c = '>' then some rest else afterTagEnd? rest := by
  cases t with
  | nil => simp [titleOpening, dropPrefixCaseless?] at h
  | cons d t =>
    rw [afterTitleTag?, h]
    split
    · next heq => simp_all
    · next heq =>
      obtain ⟨rfl, rfl⟩ := List.cons.inj (Option.some.inj heq)
      by_cases hgt : c = '>'
      · simp_all
      · have hspace : isAsciiSpace c = true := by simpa [hgt] using hc
        rw [if_pos hspace, if_neg hgt]
    · next heq => simp at heq
    · next heq => simp at heq

/-- What follows an opening tag that is closed does not matter for it. -/
private lemma afterTitleTag?_element {x rest : Text} (h : startsTitle x = true)
    (htag : afterTitleTag? x = some rest) (w : Text) :
    afterTitleTag? (x ++ w) = some (rest ++ w) := by
  obtain ⟨q, c, y, rfl, hq, hc⟩ := startsTitle_iff.1 h
  have hdrop : ∀ y, afterTitleTag? (q ++ c :: y) = if c = '>' then some y else afterTagEnd? y :=
    fun y => afterTitleTag?_of_match (dropPrefixCaseless?_eq_some_iff.2 ⟨q, rfl, hq⟩) hc
  rw [List.append_assoc, List.cons_append]
  rw [hdrop] at htag ⊢
  split
  · next hgt =>
    rw [if_pos hgt] at htag
    rw [Option.some.inj htag]
  · next hgt =>
    rw [if_neg hgt] at htag
    obtain ⟨⟨before, after⟩, hbreak, rfl⟩ := Option.map_eq_some_iff.1 htag
    rw [afterTagEnd?, Text.breakOn_append (by simp) hbreak]
    rfl

/-- What follows a title element does not matter for its title. -/
private lemma IsTitleElement.title?_append {x : Text} (h : IsTitleElement x) (w : Text) :
    title? (x ++ w) = title? x := by
  obtain ⟨rest, ⟨inner, after⟩, htag, hclosing⟩ := h.closed
  have htag' : afterTitleTag? (x ++ w) = some (rest ++ w) := afterTitleTag?_element h.starts htag w
  have hclosing' : breakOnCaseless titleClosing (rest ++ w) = some (inner, after ++ w) :=
    breakOnCaseless_append (by simp [titleClosing]) hclosing w
  rw [title?, title?, htag, htag']
  simp only [hclosing, hclosing']

/-- **The title of a text is that of its first title element.** -/
theorem title?_of_element {u x : Text} (hu : opensTitle u = false) (hx : IsTitleElement x)
    (w : Text) : title? (u ++ x ++ w) = title? x := by
  have hseam : IsSeam u (x ++ w) := by
    refine .inr (.inr (.inl ?_))
    have hhead := head_of_startsTitle hx.starts
    cases x <;> simp_all
  rw [← hx.title?_append w, List.append_assoc, title?, title?, afterTitleTag?_append hu hseam]

end Html

end StaticSite
