import Mathlib
import StaticSite.Html.Escape

set_option relaxedAutoImplicit false
set_option autoImplicit false

/-!
# Reading escaped text

The text of an attribute between double quotes is escaped character by character. No character of
markup is left in it, and it can be read back: every reference in it is that of one character, even
where the text itself looks like a reference.

## Main definitions

* `StaticSite.Html.isMarkup` — the characters that are read as markup.
* `StaticSite.Html.unescape` — the text that was escaped.

## Main results

* `StaticSite.Html.notMem_escapeQuoted` — an escaped text holds no markup.
* `StaticSite.Html.unescape_escapeQuoted` — an escaped text is read back.
-/

namespace StaticSite.Html

/-- The characters that open and close tags and attributes. -/
def isMarkup (c : Char) : Bool := c == '<' || c == '>' || c == '"'

/-- The text that was escaped: the references to the characters of markup and to the ampersand are
replaced by these characters. -/
def unescape : Text → Text
  | '&' :: 'a' :: 'm' :: 'p' :: ';' :: t => '&' :: unescape t
  | '&' :: 'l' :: 't' :: ';' :: t => '<' :: unescape t
  | '&' :: 'g' :: 't' :: ';' :: t => '>' :: unescape t
  | '&' :: 'q' :: 'u' :: 'o' :: 't' :: ';' :: t => '"' :: unescape t
  | c :: t => c :: unescape t
  | [] => []

/-- A character that starts no reference is read as it is. -/
private lemma unescape_cons {c : Char} (h : c ≠ '&') (t : Text) :
    unescape (c :: t) = c :: unescape t := by
  rw [unescape] <;> simp [h]

/-- A character is replaced by the reference to it, or is neither an ampersand nor markup and is
kept. -/
private lemma quotedChar_cases (c : Char) :
    (c = '&' ∧ quotedChar c = "&amp;".toList) ∨ (c = '<' ∧ quotedChar c = "&lt;".toList) ∨
      (c = '>' ∧ quotedChar c = "&gt;".toList) ∨ (c = '"' ∧ quotedChar c = "&quot;".toList) ∨
      (c ≠ '&' ∧ isMarkup c = false ∧ quotedChar c = [c]) := by
  unfold quotedChar bodyChar isMarkup
  split
  · simp
  · split <;> simp_all

/-- No markup is in what replaces a character. -/
private lemma all_quotedChar (c : Char) : (quotedChar c).all (!isMarkup ·) = true := by
  obtain ⟨-, hquoted⟩ | ⟨-, hquoted⟩ | ⟨-, hquoted⟩ | ⟨-, hquoted⟩ | ⟨-, hkept, hquoted⟩ :=
    quotedChar_cases c <;> rw [hquoted]
  · decide
  · decide
  · decide
  · decide
  · simp [hkept]

/-- **An escaped text holds no markup.** -/
theorem notMem_escapeQuoted {c : Char} (h : isMarkup c = true) (t : Text) :
    c ∉ escapeQuoted t := by
  rw [escapeQuoted, List.mem_flatMap]
  rintro ⟨d, -, hd⟩
  have hnot := List.all_eq_true.1 (all_quotedChar d) c hd
  simp [h] at hnot

/-- **An escaped text is read back.** -/
theorem unescape_escapeQuoted (t : Text) : unescape (escapeQuoted t) = t := by
  induction t with
  | nil => rfl
  | cons c t ih =>
    have hcons : escapeQuoted (c :: t) = quotedChar c ++ escapeQuoted t := List.flatMap_cons
    rw [hcons]
    obtain ⟨rfl, hquoted⟩ | ⟨rfl, hquoted⟩ | ⟨rfl, hquoted⟩ | ⟨rfl, hquoted⟩ | ⟨hc, -, hquoted⟩ :=
      quotedChar_cases c <;> rw [hquoted]
    · exact congrArg ('&' :: ·) ih
    · exact congrArg ('<' :: ·) ih
    · exact congrArg ('>' :: ·) ih
    · exact congrArg ('"' :: ·) ih
    · rw [List.singleton_append, unescape_cons hc, ih]

end StaticSite.Html
