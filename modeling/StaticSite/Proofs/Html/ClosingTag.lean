import Mathlib
import StaticSite.Proofs.Html.FirstTitle

set_option relaxedAutoImplicit false
set_option autoImplicit false

/-!
# Whole title elements

A closing tag is whole if its name is followed by white space, or nothing, and the end of the tag.
The search for the title looks for the name of a closing tag only. So a longer name such as
`</titles>` ends a title, and a page may stop inside its closing tag.

## Main definitions

* `StaticSite.Html.closesTitle` — a text starts with a whole closing tag of a title.
* `StaticSite.Html.beforeClosingTag?` — the text in front of the first such tag.
* `StaticSite.Html.elementTitle?` — the title of the first title element with a whole closing tag.

## Main results

* `StaticSite.Html.elementTitle?_eq_some_iff` — what the title of a whole element is.
* `StaticSite.Html.beforeClosingTag?_of_breakOn` — the first name of a closing tag is that of the
  first whole one, or the whole one stands further on.
* `StaticSite.Html.title?_eq_elementTitle?_iff` — when the title is that of a whole element.
-/

namespace StaticSite

namespace Html

open StaticSite.Text (toLowerAscii breakOnCaseless dropPrefixCaseless? isAsciiSpace trim isBlank)

/-! ## Whole closing tags -/

/-- Whether a text goes on with the end of a tag, white space in front of it left aside. -/
def endsTag (t : Text) : Bool := (t.dropWhile isAsciiSpace).head? == some '>'

/-- Whether a text starts with a whole closing tag of a title: its name in any case, and the end of
the tag. -/
def closesTitle (t : Text) : Bool := (dropPrefixCaseless? titleClosing t).any endsTag

/-- The text in front of the first whole closing tag of a title. -/
def beforeClosingTag? : Text → Option Text
  | [] => none
  | c :: t => if closesTitle (c :: t) then some [] else (beforeClosingTag? t).map (c :: ·)

/-- The title of the first title element with a whole closing tag: the text between the tags,
trimmed. A blank one is none. -/
def elementTitle? (html : Text) : Option Text :=
  (afterTitleTag? html).bind fun rest => (beforeClosingTag? rest).bind titleOf?

/-- A closing tag is its name up to case, white space, and the character that ends tags. -/
lemma closesTitle_iff {t : Text} : closesTitle t = true ↔
    ∃ q space rest, t = q ++ space ++ '>' :: rest ∧
      toLowerAscii q = toLowerAscii titleClosing ∧ ∀ c ∈ space, isAsciiSpace c = true := by
  unfold closesTitle
  rw [Option.any_eq_true]
  constructor
  · rintro ⟨after, hdrop, hend⟩
    obtain ⟨q, rfl, hq⟩ := Text.dropPrefixCaseless?_eq_some_iff.1 hdrop
    obtain ⟨rest, hrest⟩ := List.head?_eq_some_iff.1 (beq_iff_eq.1 hend)
    refine ⟨q, after.takeWhile isAsciiSpace, rest, ?_, hq, fun c hc => List.mem_takeWhile_imp hc⟩
    rw [← hrest, List.append_assoc, List.takeWhile_append_dropWhile]
  · rintro ⟨q, space, rest, rfl, hq, hspace⟩
    refine ⟨space ++ '>' :: rest, ?_, ?_⟩
    · exact Text.dropPrefixCaseless?_eq_some_iff.2 ⟨q, by simp, hq⟩
    · have hgt : isAsciiSpace '>' = false := by decide
      rw [endsTag, List.dropWhile_append_of_pos hspace, List.dropWhile_cons, hgt]
      rfl

/-- A closing tag starts with the character that opens tags. -/
private lemma closesTitle_of_ne {c : Char} (h : c ≠ '<') (t : Text) :
    closesTitle (c :: t) = false := by
  rw [closesTitle, titleClosing, dropPrefixCaseless?_of_ne h]
  rfl

/-- **The text in front of the first closing tag** is the shortest one with a closing tag behind
it.

**Proof sketch.** By induction on the text. If it starts with a closing tag, the empty text is in
front of the first one. If it does not, no closing tag stands at its start, and the first one is
that of the rest. -/
theorem beforeClosingTag?_eq_some_iff {t before : Text} : beforeClosingTag? t = some before ↔
    (∃ tag, t = before ++ tag ∧ closesTitle tag = true) ∧
      ∀ u v, t = u ++ v → closesTitle v = true → before <+: u := by
  have hnil : closesTitle [] = false := by decide
  induction t generalizing before with
  | nil => simp [beforeClosingTag?, hnil]
  | cons c t ih =>
    unfold beforeClosingTag?
    split_ifs with hcloses
    · constructor
      · intro h
        obtain rfl := Option.some.inj h
        exact ⟨⟨c :: t, rfl, hcloses⟩, fun u v _ _ => List.nil_prefix⟩
      · rintro ⟨-, hfirst⟩
        rw [List.prefix_nil.1 (hfirst [] (c :: t) rfl hcloses)]
    · rw [Option.map_eq_some_iff]
      constructor
      · rintro ⟨before, hbefore, rfl⟩
        obtain ⟨⟨tag, rfl, htag⟩, hfirst⟩ := ih.1 hbefore
        refine ⟨⟨tag, rfl, htag⟩, ?_⟩
        rintro (_ | ⟨d, u⟩) v heq hv
        · rw [List.nil_append] at heq
          exact absurd (heq ▸ hv) hcloses
        · obtain ⟨rfl, htail⟩ := List.cons.inj heq
          exact List.cons_prefix_cons.2 ⟨rfl, hfirst u v htail hv⟩
      · rintro ⟨⟨tag, htag, hcloses'⟩, hfirst⟩
        cases before with
        | nil => exact absurd (htag ▸ hcloses') hcloses
        | cons d before =>
          obtain ⟨rfl, rfl⟩ := List.cons.inj htag
          refine ⟨before, ih.2 ⟨⟨tag, rfl, hcloses'⟩, fun u v heq hv => ?_⟩, rfl⟩
          exact (List.cons_prefix_cons.1 (hfirst (c :: u) v (congrArg (c :: ·) heq) hv)).2

/-- **The title of a whole element** is what stands, trimmed, between the first opening tag and the
first whole closing tag behind it, unless it is blank. -/
theorem elementTitle?_eq_some_iff {html title : Text} : elementTitle? html = some title ↔
    ∃ rest inner, afterTitleTag? html = some rest ∧ beforeClosingTag? rest = some inner ∧
      title = trim inner ∧ title ≠ [] := by
  simp only [elementTitle?, Option.bind_eq_some_iff, titleOf?]
  constructor
  · rintro ⟨rest, hrest, inner, hinner, htitle⟩
    split_ifs at htitle with hblank
    obtain rfl := Option.some.inj htitle
    exact ⟨rest, inner, hrest, hinner, rfl, hblank⟩
  · rintro ⟨rest, inner, hrest, hinner, rfl, hne⟩
    exact ⟨rest, hrest, inner, hinner, if_neg hne⟩

/-! ## The first name of a closing tag -/

/-- No whole closing tag starts inside the name of a closing tag. -/
private lemma beforeClosingTag?_of_notMem {u : Text} (h : '<' ∉ u) (w : Text) :
    beforeClosingTag? (u ++ w) = (beforeClosingTag? w).map (u ++ ·) := by
  induction u with
  | nil => simp
  | cons c u ih =>
    obtain ⟨hc, hu⟩ := not_or.1 (List.mem_cons.not.1 h)
    rw [List.cons_append, beforeClosingTag?, closesTitle_of_ne (Ne.symm hc), ih hu, Option.map_map]
    rfl

/-- Where a text does not even hold the name of a closing tag, it holds no closing tag. -/
private lemma beforeClosingTag?_of_breakOn_none {t : Text}
    (h : breakOnCaseless titleClosing t = none) :
    beforeClosingTag? t = none := by
  induction t with
  | nil => rfl
  | cons c t ih =>
    unfold breakOnCaseless at h
    split at h
    · simp at h
    · next hnone =>
      rw [beforeClosingTag?, closesTitle, hnone, ih (Option.map_eq_none_iff.1 h)]
      rfl

/-- Behind the name of a closing tag stands the end of the tag, or the first whole closing tag
stands further on.

**Proof sketch.** The name starts with a bracket and holds no other one, so no closing tag starts
within it. One starts at the name itself exactly if the tag ends behind it. -/
private lemma beforeClosingTag?_of_name {q : Text} (hq : toLowerAscii q = toLowerAscii titleClosing)
    (after : Text) : beforeClosingTag? (q ++ after) =
      if endsTag after then some [] else (beforeClosingTag? after).map (q ++ ·) := by
  have hdrop : dropPrefixCaseless? titleClosing (q ++ after) = some after :=
    Text.dropPrefixCaseless?_eq_some_iff.2 ⟨q, rfl, hq⟩
  have hcloses : closesTitle (q ++ after) = endsTag after := by rw [closesTitle, hdrop]; rfl
  cases q with
  | nil => simp [toLowerAscii, titleClosing] at hq
  | cons c q =>
    have htail : '<' ∉ q := by
      intro hmem
      have hsmall : '<'.toLower ∈ toLowerAscii titleClosing.tail := by
        have heq : toLowerAscii q = toLowerAscii titleClosing.tail := (List.cons.inj hq).2
        rw [← heq]
        exact List.mem_map_of_mem hmem
      exact absurd hsmall (by decide)
    rw [List.cons_append] at hcloses ⊢
    rw [beforeClosingTag?, hcloses]
    split_ifs
    · rfl
    · rw [beforeClosingTag?_of_notMem htail, Option.map_map]
      rfl

/-- **The first name of a closing tag** is that of the first whole closing tag if the tag ends
behind it; otherwise the whole one is looked for further on.

**Proof sketch.** By induction on the text, up to the place where the name is found: no closing tag
starts in front of it, since it would have its name there. -/
theorem beforeClosingTag?_of_breakOn {t inner after : Text}
    (h : breakOnCaseless titleClosing t = some (inner, after)) :
    ∃ q, toLowerAscii q = toLowerAscii titleClosing ∧ beforeClosingTag? t =
      if endsTag after then some inner
      else (beforeClosingTag? after).map (inner ++ q ++ ·) := by
  induction t generalizing inner with
  | nil => simp [breakOnCaseless, titleClosing] at h
  | cons c t ih =>
    obtain ⟨rfl, hstart⟩ | ⟨front, rfl, hnone, hrest⟩ := Text.breakOnCaseless_cons_eq_some_iff.1 h
    · obtain ⟨q, heq, hq⟩ := Text.dropPrefixCaseless?_eq_some_iff.1 hstart
      exact ⟨q, hq, by rw [heq, beforeClosingTag?_of_name hq]; rfl⟩
    · obtain ⟨q, hq, hbefore⟩ := ih hrest
      refine ⟨q, hq, ?_⟩
      have hcloses : closesTitle (c :: t) = false := by rw [closesTitle, hnone]; rfl
      rw [beforeClosingTag?, hcloses, hbefore]
      cases endsTag after with
      | true => rfl
      | false =>
        simp only [Bool.false_eq_true, if_false]
        rw [Option.map_map]
        rfl

/-! ## The title -/

/-- A text that goes on with the name of a closing tag has another title.

**Proof sketch.** The bracket of the name is no white space, so the longer text is longer by more
than white space, and its title is longer as well (`length_trim_lt`). -/
private lemma titleOf?_ne_of_name {q : Text} (hq : toLowerAscii q = toLowerAscii titleClosing)
    (inner behind : Text) : titleOf? (inner ++ q ++ behind) ≠ titleOf? inner := by
  obtain ⟨c, name, rfl⟩ : ∃ c name, q = c :: name := by
    cases q with
    | nil => simp [toLowerAscii, titleClosing] at hq
    | cons c name => exact ⟨c, name, rfl⟩
  obtain rfl : c = '<' := eq_of_toLower (List.cons.inj hq).1.symm
  have hlonger := Text.length_trim_lt (c := '<') (by decide) inner (name ++ behind)
  rw [← List.cons_append, ← List.append_assoc] at hlonger
  unfold titleOf?
  split_ifs with h₁ h₂ h₂
  · rw [h₁] at hlonger
    simp at hlonger
  · rw [h₁] at hlonger
    simp at hlonger
  · simp
  · intro heq
    rw [Option.some.inj heq] at hlonger
    exact lt_irrefl _ hlonger

/-- The title of a whole element, where the first name of a closing tag is found. -/
private lemma elementTitle?_of_found {html rest inner after : Text}
    (htag : afterTitleTag? html = some rest)
    (hclosing : breakOnCaseless titleClosing rest = some (inner, after)) :
    ∃ q, toLowerAscii q = toLowerAscii titleClosing ∧ elementTitle? html =
      if endsTag after then titleOf? inner
      else (beforeClosingTag? after).bind fun further => titleOf? (inner ++ q ++ further) := by
  obtain ⟨q, hq, hbefore⟩ := beforeClosingTag?_of_breakOn hclosing
  refine ⟨q, hq, ?_⟩
  rw [elementTitle?, htag, Option.bind_some, hbefore]
  split_ifs
  · rfl
  · rw [Option.bind_map]
    rfl

/-- Without the name of a closing tag behind an opening tag there is no title of either kind. -/
private lemma title?_of_not_found {html : Text}
    (h : ¬∃ rest inner after, afterTitleTag? html = some rest ∧
      breakOnCaseless titleClosing rest = some (inner, after)) :
    title? html = none ∧ elementTitle? html = none := by
  cases htag : afterTitleTag? html with
  | none => simp [title?, elementTitle?, htag]
  | some rest =>
    cases hclosing : breakOnCaseless titleClosing rest with
    | none =>
      have hbefore := beforeClosingTag?_of_breakOn_none hclosing
      simp [title?, elementTitle?, htag, hclosing, hbefore]
    | some parts => exact absurd ⟨rest, parts.1, parts.2, htag, hclosing⟩ h

/-- **The title is that of a whole element** exactly if the first name of a closing tag behind the
opening tag, if there is one, is that of a whole tag, or nothing stands in front of it and no whole
tag behind it. A title that is found is that of a whole element exactly if this name is that of a
whole tag, or nothing stands in front of it. So a longer name closes a title, and so does a tag at
the end of the page that is not finished.

**Proof sketch.** The search takes what stands in front of the first name. If the tag ends behind
the name, this is the first whole one (`beforeClosingTag?_of_breakOn`). If it does not, the whole
one stands further on, if there is one, and then the title of the element holds the name as well and
is longer (`titleOf?_ne_of_name`). -/
theorem title?_eq_elementTitle?_iff (html : Text) :
    (title? html = elementTitle? html ↔
      ∀ rest inner after, afterTitleTag? html = some rest →
        breakOnCaseless titleClosing rest = some (inner, after) →
          endsTag after = true ∨ isBlank inner = true ∧ beforeClosingTag? after = none) ∧
    ((∀ title, title? html = some title → elementTitle? html = some title) ↔
      ∀ rest inner after, afterTitleTag? html = some rest →
        breakOnCaseless titleClosing rest = some (inner, after) →
          endsTag after = true ∨ isBlank inner = true) := by
  have hblank : ∀ {inner}, isBlank inner = true ↔ titleOf? inner = none := by
    intro inner
    rw [← Text.trim_eq_nil_iff, titleOf?]
    split_ifs with h <;> simp [h]
  by_cases hfound : ∃ rest inner after, afterTitleTag? html = some rest ∧
      breakOnCaseless titleClosing rest = some (inner, after)
  · obtain ⟨rest, inner, after, htag, hclosing⟩ := hfound
    obtain ⟨q, hq, helement⟩ := elementTitle?_of_found htag hclosing
    have honly : ∀ {P : Text → Text → Prop}, (∀ rest inner after, afterTitleTag? html = some rest →
        breakOnCaseless titleClosing rest = some (inner, after) → P inner after) ↔
          P inner after := by
      refine fun {P} => ⟨fun h => h _ _ _ htag hclosing, fun h rest' inner' after' htag' hc => ?_⟩
      obtain rfl := Option.some.inj (htag.symm.trans htag')
      obtain ⟨rfl, rfl⟩ := Prod.mk.inj (Option.some.inj (hclosing.symm.trans hc))
      exact h
    rw [honly, honly, title?_of_found htag hclosing, helement, hblank]
    cases hend : endsTag after with
    | true => simp
    | false =>
      cases hfurther : beforeClosingTag? after with
      | none => cases titleOf? inner <;> simp
      | some further =>
        have hne := titleOf?_ne_of_name hq inner further
        cases htitle : titleOf? inner with
        | none => simpa [htitle, eq_comm] using hne
        | some title => simpa [htitle, eq_comm] using hne
  · obtain ⟨htitle, helement⟩ := title?_of_not_found hfound
    rw [htitle, helement]
    constructor <;> refine iff_of_true (by simp) fun rest inner after htag hclosing => ?_ <;>
      exact absurd ⟨rest, inner, after, htag, hclosing⟩ hfound

/-- A longer name ends a title, and so does a closing tag that is not finished. -/
example : title? "<title>a</titles>".toList = some ['a'] ∧
    title? "<title>a</title".toList = some ['a'] ∧
    elementTitle? "<title>a</titles> b</TITLE >".toList = some "a</titles> b".toList := by
  decide

end Html

end StaticSite
