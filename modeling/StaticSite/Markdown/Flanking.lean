import StaticSite.Text.WhiteSpace
import StaticSite.Unicode.Punctuation

set_option relaxedAutoImplicit false
set_option autoImplicit false

/-!
# Delimiter runs

A run of asterisks, underscores or tildes may open or close emphasis, depending on the
characters around it. The start of a line counts as white space before the run, the end of the
text as white space behind it.

## Main definitions

* `StaticSite.Markdown.canOpen`, `StaticSite.Markdown.canClose` — whether a run may open or
  close emphasis.
-/

namespace StaticSite.Markdown

/-- Whether a run of marks may open emphasis, given the characters before and after it.
Asterisks and double tildes may open inside a word, and so may a tilde behind another one. -/
def canOpen (mark : Char) (length : Nat) (before after : Option Char) : Bool :=
  match after with
  | none => false
  | some next =>
    !Text.isWhiteSpace next &&
      match before with
      | none => true
      | some previous =>
        (mark == '*' && !Unicode.isPunctuation next) || (mark == '~' && 1 < length) ||
          (mark == '~' && previous == '~' && !Unicode.isPunctuation next) ||
          Text.isWhiteSpace previous ||
          (Unicode.isPunctuation previous &&
            (mark != '\'' || (previous != ']' && previous != ')')))

/-- Whether a run of marks may close emphasis, given the characters before and after it.
Asterisks and double tildes may close inside a word, and so may a tilde behind another one. -/
def canClose (mark : Char) (length : Nat) (before after : Option Char) : Bool :=
  match before with
  | none => false
  | some previous =>
    !Text.isWhiteSpace previous &&
      match after with
      | none => true
      | some next =>
        ((mark == '*' || (mark == '~' && 1 < length)) && !Unicode.isPunctuation previous) ||
          (mark == '~' && previous == '~') ||
          Text.isWhiteSpace next || Unicode.isPunctuation next

end StaticSite.Markdown
