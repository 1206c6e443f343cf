import Mathlib
import StaticSite.Proofs.Frontmatter.Block
import StaticSite.Proofs.Html.FirstTitle
import StaticSite.Proofs.Page.Report
import StaticSite.Proofs.Placeholder.OpenValue

set_option relaxedAutoImplicit false
set_option autoImplicit false

/-!
# The title that a template takes from the metadata

A template may write its title element around the placeholder of a key. The page then has the value
of that key for its title, exactly as it was read, unless the value ends the element itself.

## Main results

* `StaticSite.Html.title?_written` — the title of an element that is written around a value.
* `StaticSite.Page.title?_renderPage_iff` — the title of a page is the value of the key.
-/

namespace StaticSite

namespace Html

open StaticSite.Text (toLowerAscii breakOnCaseless)

/-- The opening tag of a title without attributes. -/
def openTag : Text := "<title>".toList

/-- The closing tag of a title. -/
def closeTag : Text := "</title>".toList

/-- The first closing tag behind a value is the one that is written there, or is in the value. -/
private lemma breakOnCaseless_closeTag {value : Text} (h : ¬titleClosing <:+: toLowerAscii value)
    (w : Text) : ∃ after, breakOnCaseless titleClosing (value ++ (closeTag ++ w)) =
      some (value, after) := by
  have hdrop : Text.dropPrefixCaseless? titleClosing (closeTag ++ w) = some ('>' :: w) :=
    Text.dropPrefixCaseless?_eq_some_iff.2 ⟨titleClosing, rfl, rfl⟩
  have hcopy : toLowerAscii titleClosing = titleClosing := by decide
  unfold titleClosing at h hdrop hcopy ⊢
  exact ⟨_, Text.breakOnCaseless_skip (by decide) (by rwa [hcopy]) hdrop⟩

/-- Behind a text that opens no title stands the element that is written there. -/
private lemma afterTitleTag?_openTag {before : Text} (h : ¬titleOpening <:+: toLowerAscii before)
    (w : Text) : afterTitleTag? (before ++ (openTag ++ w)) = some w := by
  have hname : Text.dropPrefixCaseless? titleOpening (openTag ++ w) = some ('>' :: w) :=
    Text.dropPrefixCaseless?_eq_some_iff.2 ⟨titleOpening, rfl, rfl⟩
  rw [afterTitleTag?_append (opensTitle_of_absent h) (.inr (.inr (.inl rfl))),
    afterTitleTag?_of_match hname rfl, if_pos rfl]

/-- A title of a text that ends in front of the text's end is shorter than the text. -/
private lemma length_lt_of_titleOf? {value inner after title : Text}
    (h : breakOnCaseless titleClosing value = some (inner, after))
    (htitle : titleOf? inner = some title) : title.length < value.length := by
  obtain ⟨q, rfl, hq⟩ := Text.append_of_breakOnCaseless h
  have hname : q.length = titleClosing.length := Text.length_eq_of_toLowerAscii hq
  have hpos : 0 < titleClosing.length := by decide
  have htrim : Text.trim inner = title := by
    unfold titleOf? at htitle
    split_ifs at htitle
    exact Option.some.inj htitle
  have hlength := Text.length_trim_le inner
  rw [htrim] at hlength
  simp only [List.length_append]
  omega

/-- **The title of an element that is written around a value** is the value, if this is not empty
and holds no closing tag itself. -/
theorem title?_written {before value : Text} (hbefore : ¬titleOpening <:+: toLowerAscii before)
    (hvalue : Text.trim value = value) (w : Text) :
    title? (before ++ (openTag ++ (value ++ (closeTag ++ w)))) = some value ↔
      value ≠ [] ∧ ¬titleClosing <:+: toLowerAscii value := by
  have htag := afterTitleTag?_openTag hbefore (value ++ (closeTag ++ w))
  by_cases hclosing : titleClosing <:+: toLowerAscii value
  · -- the element ends within the value, so its text is shorter than the value
    cases hfound : breakOnCaseless titleClosing value with
    | none => exact absurd hclosing ((Text.breakOnCaseless_eq_none_iff (by decide)).1 hfound)
    | some parts =>
      obtain ⟨inner, after⟩ := parts
      have hfound' := Text.breakOnCaseless_append (by decide) hfound (closeTag ++ w)
      rw [title?_of_found htag hfound']
      refine iff_of_false (fun htitle => ?_) (fun hkept => hkept.2 hclosing)
      exact absurd (length_lt_of_titleOf? hfound htitle) (lt_irrefl _)
  · obtain ⟨after, hfound⟩ := breakOnCaseless_closeTag hclosing w
    rw [title?_of_found htag hfound, titleOf?, hvalue]
    split_ifs with hempty <;> simp [hempty, hclosing]

end Html

/-- A key of a document and its first value are proper. -/
lemma Frontmatter.isKey_isValue_of_first? {document key value : Text}
    (h : (split document).1.first? key = some value) : IsKey key ∧ IsValue value := by
  have hcontains : (split document).1.contains key = true := by
    rw [contains_eq_isSome, h]
    rfl
  rw [first?_eq_head?] at h
  obtain ⟨hkey, hvalues⟩ := isKey_of_contains hcontains
  exact ⟨hkey, hvalues value (List.mem_of_head? h)⟩

namespace Page

open StaticSite.Html (title? titleOpening titleClosing openTag closeTag)
open StaticSite.Placeholder (written)

/-- The placeholder of a key closes with the braces behind its name. -/
private lemma not_closing_of_isKey {key : Text} (h : Frontmatter.IsKey key) :
    ¬Placeholder.closing <:+: key ++ ['}'] := by
  refine Placeholder.not_closing_of_notMem fun hmem => ?_
  rcases h.2 _ hmem with hc | hc | hc | hc <;> revert hc <;> decide

/-- A title element around the placeholder of a key becomes one around the value of the key, with
the text in front of it as it is.

**Proof sketch.** What stands in front of the placeholder is closed and holds none, so it is kept
and the rest is resolved by itself. There the key comes first, and the closing tag behind it is
kept as well. -/
private lemma text_renderPage_title {document key value : Text}
    (hvalue : (Frontmatter.split document).1.first? key = some value) {before : Text}
    (hbefore : ¬Placeholder.opening <:+: before) (html behind : Text) :
    ∃ w, (renderPage (before ++ openTag ++ written key ++ closeTag ++ behind)
        ⟨html, (Frontmatter.split document).1⟩).text =
      before ++ (openTag ++ (value ++ (closeTag ++ w))) := by
  obtain ⟨hkey, -⟩ := Frontmatter.isKey_isValue_of_first? hvalue
  obtain ⟨hnone, hclosed⟩ :=
    Placeholder.closed_append_of_notMem (v := openTag) hbefore (by decide) (by decide)
  obtain ⟨hnone', hclosed'⟩ := Placeholder.closed_of_notMem (t := closeTag) (by decide)
  generalize hbody : resolvedBody ⟨html, (Frontmatter.split document).1⟩ = body
  have hframe : frameValue (Frontmatter.split document).1 body.text key = value := by
    rw [frameValue, hvalue, Option.getD_some]
  refine ⟨((resolver (Frontmatter.split document).1 (some body.text)).resolve behind).text, ?_⟩
  have hsplit : before ++ openTag ++ written key ++ closeTag ++ behind =
      before ++ openTag ++ (written key ++ (closeTag ++ behind)) := by simp
  have htext : (renderPage (before ++ openTag ++ written key ++ closeTag ++ behind)
      ⟨html, (Frontmatter.split document).1⟩).text =
        ((resolver (Frontmatter.split document).1 (some body.text)).resolve
          (before ++ openTag ++ (written key ++ (closeTag ++ behind)))).text := by
    rw [← hsplit, ← hbody]
    rfl
  rw [htext, Resolver.resolve_append _ hclosed, Resolver.resolve_of_none _ hnone,
    Resolver.resolve_written_append _ (not_closing_of_isKey hkey), replacement_frame, hframe,
    Resolver.resolve_append _ hclosed', Resolver.resolve_of_none _ hnone', List.append_assoc]

/-- **The title goes round.** A template writes its title element around the placeholder of a key,
with no opening tag of a title and no opening braces in front of it. Then the title of the page is
the first value of the key, exactly as it was read, if and only if this is not empty and holds no
closing tag of a title. Neither the body nor the rest of the template matters.

**Proof sketch.** The page has a title element around the value, with the text in front of it as it
was (`text_renderPage_title`). No title is opened there, so this is the first element, and its
title is what stands in front of the first closing tag, trimmed; the value is trimmed as it was
read. -/
theorem title?_renderPage_iff {document key value : Text}
    (hvalue : (Frontmatter.split document).1.first? key = some value) {before : Text}
    (hbraces : ¬Placeholder.opening <:+: before)
    (htag : ¬titleOpening <:+: Text.toLowerAscii before) (html behind : Text) :
    title? (renderPage (before ++ openTag ++ written key ++ closeTag ++ behind)
        ⟨html, (Frontmatter.split document).1⟩).text = some value ↔
      value ≠ [] ∧ ¬titleClosing <:+: Text.toLowerAscii value := by
  obtain ⟨-, htrim, -⟩ := Frontmatter.isKey_isValue_of_first? hvalue
  obtain ⟨w, hw⟩ := text_renderPage_title hvalue hbraces html behind
  rw [hw]
  exact Html.title?_written htag htrim w

/-- A value with a character of two bytes, a placeholder, and the start of a closing tag at its
end. -/
def partialTag : Text := 'ü' :: (written "x".toList ++ " </Titl".toList)

/-- The value goes round, although it has braces and the start of a tag, and although a brace stands
in front of the element and another title behind it. -/
theorem title?_renderPage_iff_partialTag :
    title? (renderPage (['é', '{'] ++ openTag ++ written "name".toList ++ closeTag ++
        (written contentName ++ "<title>b</title>".toList))
      ⟨"<p>".toList ++ written "name".toList,
        (Frontmatter.split ("Name: ".toList ++ partialTag)).1⟩).text = some partialTag := by
  have hvalue : (Frontmatter.split ("Name: ".toList ++ partialTag)).1.first? "name".toList =
      some partialTag := by cbv
  have hnone : Text.breakOnCaseless titleClosing partialTag = none := by cbv
  have hclosing : ¬titleClosing <:+: Text.toLowerAscii partialTag :=
    (Text.breakOnCaseless_eq_none_iff (by decide)).1 hnone
  have hne : partialTag ≠ [] := List.cons_ne_nil _ _
  have hbraces : ¬Placeholder.opening <:+: ['é', '{'] := by decide
  have htag : ¬titleOpening <:+: Text.toLowerAscii ['é', '{'] := by decide
  exact (title?_renderPage_iff hvalue hbraces htag _ _).2 ⟨hne, hclosing⟩

end Page

end StaticSite
