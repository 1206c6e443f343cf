import Mathlib
import StaticSite.Proofs.Html.FirstTitle

set_option relaxedAutoImplicit false
set_option autoImplicit false

/-!
# The search for the title over the bytes

The tags of a title are searched for in a copy of the page in small letters, and the offsets found
there are used to cut the page itself. A text can only be cut between two of its characters, so such
a search could fail on a page. It never does: every offset it cuts at is one where a tag stands, or
the one behind it, and the copy has its characters at the offsets of the page.

## Main definitions

* `StaticSite.Html.BadCut` — a text was to be cut where this cannot be done.
* `StaticSite.Html.openTagEnd` — the search for the end of the opening tag, from an offset on.
* `StaticSite.Html.searchTitle` — the search for the title with all its cuts.

## Main results

* `StaticSite.Html.searchTitle_eq` — no cut fails, and the search finds the title of the page.
* `StaticSite.Html.title?_spans_first_element` — the title is what stands between the first opening
  tag and the first closing tag behind it, in every case of their letters.
-/

namespace StaticSite

namespace Html

open StaticSite.Text (byteSize byteSize_append toLowerAscii toLowerAscii_append
  byteSize_toLowerAscii IsSlice breakOnCaseless isAsciiSpace)

/-! ## Cutting a text at offsets -/

/-- A text was to be cut at an offset that is no boundary of it, or from an offset to one in front
of it. -/
structure BadCut where
  /-- The offset. -/
  offset : Nat
deriving DecidableEq, Repr

/-- The part of a text behind an offset. -/
def cutFrom (t : Text) (i : Nat) : Except BadCut Text :=
  match Text.dropBytes? i t with
  | some rest => .ok rest
  | none => .error ⟨i⟩

/-- The part of a text between two offsets. -/
def cutBetween (t : Text) (i j : Nat) : Except BadCut Text := do
  let part ← cutFrom t i
  let rest ← cutFrom t j
  if i ≤ j then .ok (part.take (part.length - rest.length)) else .error ⟨j⟩

/-- The offset of the first occurrence of a pattern. -/
def offsetOf? (pattern t : Text) : Option Nat :=
  (Text.breakOn pattern t).map fun parts => byteSize parts.1

/-- A cut behind a start of a text leaves the rest. -/
private lemma cutFrom_append (w t : Text) : cutFrom (w ++ t) (byteSize w) = .ok t := by
  rw [cutFrom, Text.dropBytes?_byteSize_append]

/-- A cut at a later offset succeeds only if it is within the text. -/
private lemma le_of_cutFrom {t rest : Text} {i : Nat} (h : cutFrom t i = .ok rest) :
    i ≤ byteSize t := by
  unfold cutFrom at h
  split at h
  · next rest' hdrop =>
    obtain ⟨before, rfl, rfl⟩ := Text.dropBytes?_eq_some_iff.1 hdrop
    exact Text.byteSize_mono (List.prefix_append ..)
  · simp at h

/-- A part of a text is what a cut at its offsets gives. -/
private lemma cutBetween_of_isSlice {t part : Text} {i j : Nat} (h : IsSlice t i j part) :
    cutBetween t i j = .ok part := by
  obtain ⟨before, behind, rfl, rfl, rfl⟩ := h
  have hstart : cutFrom (before ++ part ++ behind) (byteSize before) = .ok (part ++ behind) := by
    rw [List.append_assoc]
    exact cutFrom_append ..
  have hle : byteSize before ≤ byteSize (before ++ part) :=
    Text.byteSize_mono (List.prefix_append ..)
  simp only [cutBetween, hstart, cutFrom_append, bind, Except.bind, if_pos hle]
  simp

/-! ## The search -/

/-- The offset behind the opening tag of a title, searched for from an offset on in the copy in
small letters. A name that is not ended is passed over, and the search goes on behind it. -/
def openTagEnd (copy : Text) (start : Nat) : Except BadCut (Option Nat) :=
  match _h : cutFrom copy start with
  | .error bad => .error bad
  | .ok rest =>
    match offsetOf? titleOpening rest with
    | none => .ok none
    | some n =>
      match cutFrom copy (start + n + byteSize titleOpening) with
      | .error bad => .error bad
      | .ok [] => openTagEnd copy (start + n + byteSize titleOpening)
      | .ok (c :: rest) =>
        if c = '>' then .ok (some (start + n + byteSize titleOpening + 1))
        else if isAsciiSpace c then
          .ok ((offsetOf? ['>'] (c :: rest)).map (start + n + byteSize titleOpening + · + 1))
        else openTagEnd copy (start + n + byteSize titleOpening)
termination_by byteSize copy + 1 - start
decreasing_by
  all_goals
    have hle := le_of_cutFrom _h
    have hpos : 0 < byteSize titleOpening := by decide
    omega

/-- The title of a page, cut out of the page at offsets that are found in its copy in small
letters. -/
def searchTitle (html : Text) : Except BadCut (Option Text) := do
  match ← openTagEnd (toLowerAscii html) 0 with
  | none => .ok none
  | some o =>
    let rest ← cutFrom (toLowerAscii html) o
    match offsetOf? titleClosing rest with
    | none => .ok none
    | some n =>
      let inner ← cutBetween html o (o + n)
      .ok (titleOf? inner)

/-! ## What the search passes over -/

/-- A pattern in small letters is found in the copy at the offset where it is found in the text up
to case. -/
private lemma offsetOf?_toLowerAscii (pattern : Text) (h : toLowerAscii pattern = pattern)
    (t : Text) :
    offsetOf? pattern (toLowerAscii t) =
      (breakOnCaseless pattern t).map fun parts => byteSize parts.1 := by
  have hcopy := Text.breakOn_toLowerAscii pattern t
  rw [h] at hcopy
  rw [offsetOf?, hcopy, Option.map_map]
  simp only [Function.comp_def, byteSize_toLowerAscii]

/-- The text in front of the first name of a tag is passed over. -/
private lemma afterTitleTag?_of_found {t before after : Text}
    (h : breakOnCaseless titleOpening t = some (before, after)) :
    ∃ q, t = before ++ q ++ after ∧ toLowerAscii q = toLowerAscii titleOpening ∧
      afterTitleTag? t = afterTitleTag? (q ++ after) := by
  induction t generalizing before with
  | nil => simp [breakOnCaseless, titleOpening] at h
  | cons c t ih =>
    obtain ⟨rfl, hstart⟩ | ⟨front, rfl, hnone, hrest⟩ := Text.breakOnCaseless_cons_eq_some_iff.1 h
    · obtain ⟨q, heq, hq⟩ := Text.dropPrefixCaseless?_eq_some_iff.1 hstart
      exact ⟨q, by simpa using heq, hq, by rw [heq]⟩
    · obtain ⟨q, rfl, hq, htag⟩ := ih hrest
      have hstart : startsTitle (c :: (front ++ q ++ after)) = false := by
        rw [startsTitle, hnone]
      exact ⟨q, rfl, hq, (afterTitleTag?_cons hstart).trans htag⟩

/-- In a text without the name of a tag there is nothing behind one. -/
private lemma afterTitleTag?_of_not_found {t : Text} (h : breakOnCaseless titleOpening t = none) :
    afterTitleTag? t = none :=
  afterTitleTag?_of_not_opens
    (opensTitle_of_absent ((Text.breakOnCaseless_eq_none_iff (by decide)).1 h))

/-- A text without the character that opens tags is passed over. -/
private lemma afterTitleTag?_of_notMem {u : Text} (h : '<' ∉ u) (w : Text) :
    afterTitleTag? (u ++ w) = afterTitleTag? w := by
  induction u with
  | nil => rfl
  | cons c u ih =>
    obtain ⟨hc, hu⟩ := not_or.1 (List.mem_cons.not.1 h)
    rw [List.cons_append, afterTitleTag?_cons (startsTitle_of_ne (Ne.symm hc) _), ih hu]

/-- **A near miss is passed over**: the name of a tag that is not ended hides no tag behind it. -/
theorem afterTitleTag?_of_near_miss {q rest : Text} {c : Char}
    (hq : toLowerAscii q = toLowerAscii titleOpening) (hc : ¬EndsName c) :
    afterTitleTag? (q ++ c :: rest) = afterTitleTag? (c :: rest) := by
  have hdrop : Text.dropPrefixCaseless? titleOpening (q ++ c :: rest) = some (c :: rest) :=
    Text.dropPrefixCaseless?_eq_some_iff.2 ⟨q, rfl, hq⟩
  have hstart : startsTitle (q ++ c :: rest) = false := by
    rw [startsTitle, hdrop]
    exact Bool.eq_false_iff.2 fun h => hc (endsName_iff.1 h)
  cases q with
  | nil => simp [toLowerAscii, titleOpening] at hq
  | cons d q =>
    rw [List.cons_append] at hstart ⊢
    have htail : '<' ∉ q := (seam_notMem hq).2.1
    rw [afterTitleTag?_cons hstart, afterTitleTag?_of_notMem htail]

/-! ## The search finds the title -/

/-- A character is white space in the copy if it is in the text. -/
private lemma isAsciiSpace_toLower (c : Char) : isAsciiSpace c.toLower = isAsciiSpace c := by
  simp only [isAsciiSpace, Bool.beq_eq_decide_eq, Text.toLower_eq_iff (d := ' ') (by decide),
    Text.toLower_eq_iff (d := '\t') (by decide), Text.toLower_eq_iff (d := '\n') (by decide),
    Text.toLower_eq_iff (d := '\x0c') (by decide), Text.toLower_eq_iff (d := '\r') (by decide)]

/-- The offset of a character that is no letter is the same in the copy. -/
private lemma offsetOf?_singleton {c : Char} (hc : c.isAlpha = false) (t : Text) :
    offsetOf? [c] (toLowerAscii t) = offsetOf? [c] t := by
  have hsmall : toLowerAscii [c] = [c] := by
    rw [toLowerAscii, List.map_singleton, (Text.toLower_eq_iff hc).2 rfl]
  rw [offsetOf?_toLowerAscii [c] hsmall, Text.breakOnCaseless_singleton hc, offsetOf?]

/-- The end of an opening tag is searched for behind its name: what follows it is what stands behind
the tag. -/
private lemma afterTitleTag?_offset {q rest : Text} {c : Char}
    (hq : toLowerAscii q = toLowerAscii titleOpening) (hc : EndsName c) (u : Text) :
    (afterTitleTag? (q ++ c :: rest)).map (byteSize (u ++ c :: rest) - byteSize ·) =
      (offsetOf? ['>'] (c :: rest)).map (byteSize u + · + 1) := by
  rw [afterTitleTag?_of_starts hq hc, offsetOf?, Option.map_map, Option.map_map]
  cases hbreak : Text.breakOn ['>'] (c :: rest) with
  | none => rfl
  | some parts =>
    obtain ⟨before, after⟩ := parts
    have hsize : byteSize ['>'] = 1 := by decide
    rw [← Text.append_of_breakOn hbreak]
    simp only [Option.map_some, Function.comp_apply, byteSize_append, hsize, Option.some.injEq]
    omega

/-- The copy of a text is cut where the text has a boundary. -/
private lemma cutFrom_toLowerAscii (u v : Text) :
    cutFrom (toLowerAscii (u ++ v)) (byteSize u) = .ok (toLowerAscii v) := by
  rw [toLowerAscii_append, ← byteSize_toLowerAscii u, cutFrom_append]

/-- The search ends where there is no name of a tag. -/
private lemma openTagEnd_of_not_found {w t : Text} (h : breakOnCaseless titleOpening t = none) :
    openTagEnd (toLowerAscii (w ++ t)) (byteSize w) = .ok none := by
  have hsearch := offsetOf?_toLowerAscii titleOpening (by decide) t
  rw [h, Option.map_none] at hsearch
  rw [openTagEnd]
  split <;> simp_all [cutFrom_toLowerAscii]

/-- One round of the search: behind the name of a tag it looks for the end of the tag, or goes on if
the name is not ended there.

**Proof sketch.** The search looks at the copy from the offset on, where it finds what is found up
to case in the text, at the same distance. The characters that end a name are the same in small
letters, and so is `>`. -/
private lemma openTagEnd_of_found {w before q after : Text}
    (h : breakOnCaseless titleOpening (before ++ q ++ after) = some (before, after))
    (hq : toLowerAscii q = toLowerAscii titleOpening) :
    openTagEnd (toLowerAscii (w ++ (before ++ q ++ after))) (byteSize w) =
      match after with
      | [] => openTagEnd (toLowerAscii (w ++ before ++ q)) (byteSize (w ++ before ++ q))
      | c :: rest =>
        if c == '>' || isAsciiSpace c then
          .ok ((offsetOf? ['>'] (c :: rest)).map (byteSize (w ++ before ++ q) + · + 1))
        else openTagEnd (toLowerAscii (w ++ before ++ q ++ c :: rest))
          (byteSize (w ++ before ++ q)) := by
  have hsearch := offsetOf?_toLowerAscii titleOpening (by decide) (before ++ q ++ after)
  rw [h, Option.map_some] at hsearch
  have hoffset : byteSize w + byteSize before + byteSize titleOpening =
      byteSize (w ++ before ++ q) := by
    rw [byteSize_append, byteSize_append, Text.byteSize_eq_of_toLowerAscii hq]
  have hsplit : w ++ (before ++ q ++ after) = w ++ before ++ q ++ after := by simp
  have hcut := cutFrom_toLowerAscii w (before ++ q ++ after)
  have hcut' := cutFrom_toLowerAscii (w ++ before ++ q) after
  rw [hsplit] at hcut ⊢
  rw [openTagEnd]
  split
  · next bad hbad =>
    rw [hcut] at hbad
    cases hbad
  · next rest hrest =>
    rw [hcut] at hrest
    obtain rfl := Except.ok.inj hrest
    simp only [hsearch, hoffset, hcut']
    cases after with
    | nil => simp only [toLowerAscii, List.map_nil, List.append_nil]
    | cons c rest =>
      have hcopy : toLowerAscii (c :: rest) = c.toLower :: toLowerAscii rest := rfl
      have hgt : c.toLower = '>' ↔ c = '>' := Text.toLower_eq_iff (by decide)
      have hend := offsetOf?_singleton (c := '>') (by decide) (c :: rest)
      rw [hcopy] at hend
      simp only [hcopy, hgt, isAsciiSpace_toLower, hend]
      by_cases h : c = '>'
      · rw [if_pos h, h]
        rfl
      · simp [h]

/-- **The search for the opening tag** cuts the copy at boundaries only, and finds the end of the
tag from wherever it is started.

**Proof sketch.** By strong induction on the length of the rest, since a round that is not the last
one goes on behind a name of a tag. The offset that it goes on from is the size of what it has
passed, so it is a boundary of the copy too. -/
theorem openTagEnd_eq (w t : Text) : openTagEnd (toLowerAscii (w ++ t)) (byteSize w) =
    .ok ((afterTitleTag? t).map (byteSize (w ++ t) - byteSize ·)) := by
  -- every round of the search is one on a shorter rest
  induction hlength : t.length using Nat.strong_induction_on generalizing w t with
  | _ n ih =>
  cases hfound : breakOnCaseless titleOpening t with
  | none => rw [openTagEnd_of_not_found hfound, afterTitleTag?_of_not_found hfound, Option.map_none]
  | some parts =>
    obtain ⟨before, after⟩ := parts
    obtain ⟨q, rfl, hq, htag⟩ := afterTitleTag?_of_found hfound
    have hname : q.length = titleOpening.length := Text.length_eq_of_toLowerAscii hq
    have hshort : after.length < n := by
      rw [← hlength, List.length_append, List.length_append, hname]
      exact Nat.lt_add_of_pos_left (Nat.add_pos_right _ (by decide))
    have hnext := ih after.length hshort (w ++ before ++ q) after rfl
    rw [openTagEnd_of_found hfound hq, htag]
    have hsplit : w ++ (before ++ q ++ after) = w ++ before ++ q ++ after := by simp
    rw [hsplit]
    cases after with
    | nil =>
      have hnone : afterTitleTag? (q ++ []) = none :=
        afterTitleTag?_of_short (by rw [List.append_nil, hname])
      rw [List.append_nil] at hnext
      exact hnext.trans (by rw [hnone]; rfl)
    | cons c rest =>
      dsimp only
      split_ifs with hend
      · rw [afterTitleTag?_offset hq (endsName_iff.1 hend)]
      · rw [hnext, afterTitleTag?_of_near_miss hq (fun h => hend (endsName_iff.2 h))]

/-- **No cut fails, and the search over the bytes finds the title of the page.**

**Proof sketch.** The end of the opening tag is where the rest starts (`openTagEnd_eq`), so the cut
behind it does not fail. The closing name is looked for in the copy of the rest, and the offset
found there cuts the text itself (`cutBetween_of_isSlice`). -/
theorem searchTitle_eq (html : Text) : searchTitle html = .ok (title? html) := by
  have htag := openTagEnd_eq [] html
  rw [List.nil_append, Text.byteSize_nil] at htag
  obtain ⟨i, w, rest, hrest, rfl, -⟩ | ⟨hnone, -⟩ := afterTitleTag?_cases html
  · have hend : byteSize (w ++ rest) - byteSize rest = byteSize w := by
      rw [byteSize_append, Nat.add_sub_cancel]
    have hsearch := offsetOf?_toLowerAscii titleClosing (by decide) rest
    rw [hrest, Option.map_some, hend] at htag
    cases hbreak : breakOnCaseless titleClosing rest with
    | none =>
      rw [hbreak, Option.map_none] at hsearch
      simp only [searchTitle, htag, bind, Except.bind, cutFrom_toLowerAscii, hsearch, title?, hrest,
        hbreak]
    | some parts =>
      obtain ⟨inner, after⟩ := parts
      obtain ⟨q, rfl, -⟩ := Text.append_of_breakOnCaseless hbreak
      have hslice : IsSlice (w ++ (inner ++ q ++ after)) (byteSize w) (byteSize w + byteSize inner)
          inner := ⟨w, q ++ after, by simp, rfl, byteSize_append ..⟩
      rw [hbreak, Option.map_some] at hsearch
      simp only [searchTitle, htag, bind, Except.bind, cutFrom_toLowerAscii, hsearch,
        cutBetween_of_isSlice hslice, title?_of_found hrest hbreak]
  · rw [hnone, Option.map_none] at htag
    simp only [searchTitle, htag, bind, Except.bind, title?, hnone]

/-! ## The title of the first element -/

/-- Between the same offsets, two texts that differ in case only have titles that stand between the
same offsets.

**Proof sketch.** The copies of the two slices are one slice of the copy, so they are equal, and
trimming takes the same number of bytes off both. What is left is blank in both, or stands between
the same offsets. -/
private lemma titleOf?_congr {html html' inner inner' : Text} {o c : Nat}
    (hcase : toLowerAscii html' = toLowerAscii html) (h : IsSlice html o c inner)
    (h' : IsSlice html' o c inner') :
    (titleOf? inner = none ∧ titleOf? inner' = none) ∨
      ∃ k l title title', o ≤ k ∧ l ≤ c ∧ (titleOf? inner = some title ∧ IsSlice html k l title) ∧
        (titleOf? inner' = some title' ∧ IsSlice html' k l title') := by
  have hcopy : toLowerAscii inner' = toLowerAscii inner := by
    have hslice := Text.isSlice_toLowerAscii_iff.2 ⟨inner, h, rfl⟩
    have hslice' := Text.isSlice_toLowerAscii_iff.2 ⟨inner', h', rfl⟩
    rw [hcase] at hslice'
    exact hslice'.unique hslice
  have htrim : toLowerAscii (Text.trim inner') = toLowerAscii (Text.trim inner) := by
    rw [← Text.trim_toLowerAscii, ← Text.trim_toLowerAscii, hcopy]
  have hempty : Text.trim inner' = [] ↔ Text.trim inner = [] := by
    simpa [toLowerAscii] using congrArg (· = []) htrim
  by_cases hblank : Text.trim inner = []
  · exact .inl ⟨if_pos hblank, if_pos (hempty.2 hblank)⟩
  · have hinner := Text.isSlice_trim inner
    have hinner' := Text.isSlice_trim inner'
    rw [← Text.byteSize_takeWhile_toLowerAscii, hcopy, Text.byteSize_takeWhile_toLowerAscii,
      Text.byteSize_eq_of_toLowerAscii htrim] at hinner'
    refine .inr ⟨_, _, _, _, Nat.le_add_right _ _, ?_, ⟨if_neg hblank, h.trans hinner⟩,
      if_neg (hempty.not.2 hblank), h'.trans hinner'⟩
    rw [h.eq_add]
    obtain ⟨before, behind, heq, -, hstop⟩ := hinner
    rw [← hstop]
    exact Nat.add_le_add_left (Text.byteSize_mono ⟨behind, heq.symm⟩) o

/-- **The title is that of the first title element, on any text.** No cut of the search fails. Where
the page has a first opening tag, an end of it and a closing tag behind it, the title is what stands
between them, trimmed, if it is not blank; otherwise there is none. Pages that differ in the case of
ASCII letters only have no title, both of them, or titles that stand between the same offsets.

**Proof sketch.** A text has a range, and the title is cut out there, or it has none
(`title?_cases`); ranges are unique, which gives the title of a page by its range. Texts that
differ in case only have the same ranges (`isTitleRange_congr`), and between them titles at the
same offsets (`titleOf?_congr`). -/
theorem title?_spans_first_element (html : Text) :
    searchTitle html = .ok (title? html) ∧
    (∀ i o c, IsTitleRange html i o c → ∃ inner, IsSlice html o c inner ∧
      title? html = if Text.trim inner = [] then none else some (Text.trim inner)) ∧
    ((∀ i o c, ¬IsTitleRange html i o c) → title? html = none) ∧
    ∀ html', toLowerAscii html' = toLowerAscii html →
      (title? html = none ∧ title? html' = none) ∨
      ∃ i o c k l title title', IsTitleRange html i o c ∧ o ≤ k ∧ l ≤ c ∧
        (title? html = some title ∧ IsSlice html k l title) ∧
        (title? html' = some title' ∧ IsSlice html' k l title') := by
  refine ⟨searchTitle_eq html, fun i o c hrange => ?_, fun hnone => ?_, fun html' hcase => ?_⟩
  · obtain ⟨i', o', c', inner, hrange', hslice, htitle⟩ | ⟨-, hnone⟩ := title?_cases html
    · obtain ⟨-, rfl, rfl⟩ := hrange.unique hrange'
      exact ⟨inner, hslice, htitle⟩
    · exact absurd hrange (hnone i o c)
  · obtain ⟨i, o, c, -, hrange, -⟩ | ⟨htitle, -⟩ := title?_cases html
    · exact absurd hrange (hnone i o c)
    · exact htitle
  · have hsame := isTitleRange_congr hcase
    obtain ⟨i, o, c, inner, hrange, hslice, htitle⟩ | ⟨htitle, hnone⟩ := title?_cases html <;>
      obtain ⟨i', o', c', inner', hrange', hslice', htitle'⟩ | ⟨htitle', hnone'⟩ :=
        title?_cases html'
    · obtain ⟨-, rfl, rfl⟩ := hrange.unique ((hsame _ _ _).1 hrange')
      rw [htitle, htitle']
      obtain hblank | ⟨k, l, title, title', hboth⟩ := titleOf?_congr hcase hslice hslice'
      · exact .inl hblank
      · exact .inr ⟨i, o, c, k, l, title, title', hrange, hboth⟩
    · exact absurd ((hsame _ _ _).2 hrange) (hnone' i o c)
    · exact absurd ((hsame _ _ _).1 hrange') (hnone i' o' c')
    · exact .inl ⟨htitle, htitle'⟩

/-- A near miss, a character of two bytes and an attribute in front of a title. -/
def nearMiss : Text := "é<titles><TITLE a='é'> Ü b </Title".toList

/-- The same page with the case of its letters changed. -/
def nearMiss' : Text := "é<TITLES><title A='é'> Ü B </tITLE".toList

/-- The near miss is passed over in both pages, and their titles stand at the same offsets. -/
theorem title?_spans_first_element_nearMiss :
    (∃ i o c inner, IsTitleRange nearMiss i o c ∧ IsSlice nearMiss o c inner ∧
      Text.trim inner = "Ü b".toList) ∧
    searchTitle nearMiss = .ok (some "Ü b".toList) ∧
    ∃ k l, IsSlice nearMiss k l "Ü b".toList ∧ IsSlice nearMiss' k l "Ü B".toList := by
  have htitle : title? nearMiss = some "Ü b".toList := by cbv
  have htitle' : title? nearMiss' = some "Ü B".toList := by cbv
  have hcase : toLowerAscii nearMiss' = toLowerAscii nearMiss := by cbv
  obtain ⟨hsearch, hfirst, -, hcopies⟩ := title?_spans_first_element nearMiss
  obtain ⟨hnone, -⟩ | ⟨i, o, c, k, l, title, title', hrange, -, -, ⟨h, hslice⟩, h', hslice'⟩ :=
    hcopies nearMiss' hcase
  · simp [htitle] at hnone
  · rw [htitle] at h hsearch
    rw [htitle'] at h'
    obtain ⟨inner, hinner, htrim⟩ := hfirst i o c hrange
    rw [htitle] at htrim
    obtain rfl := Option.some.inj h
    obtain rfl := Option.some.inj h'
    refine ⟨⟨i, o, c, inner, hrange, hinner, ?_⟩, hsearch, k, l, hslice, hslice'⟩
    split_ifs at htrim
    exact (Option.some.inj htrim).symm

end Html

end StaticSite
