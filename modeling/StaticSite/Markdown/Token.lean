import StaticSite.Text.Basic

set_option relaxedAutoImplicit false
set_option autoImplicit false

/-!
# The tokens of inline content

Inline content is cut into tokens: text, and the marks that may mean something. A token knows
where it stands, because some constructs take their characters from the document and not from
the tokens.

## Main definitions

* `StaticSite.Markdown.Token` — a token.
* `StaticSite.Markdown.Token.cut` — tokens without what stands in front of a place.
-/

namespace StaticSite.Markdown

/-- What a token is. -/
inductive TokenKind where
  /-- The characters of the token as text. -/
  | plain
  /-- Other characters as text. -/
  | replaced (t : Text)
  /-- A delimiter run: its mark, its length and whether it may open or close. -/
  | run (mark : Char) (length : Nat) (opens closes : Bool)
  /-- A straight quote and whether it may open or close. -/
  | quote (mark : Char) (opens closes : Bool)
  /-- A run of backticks. The first one is text if it stands behind a backslash. -/
  | backticks (length : Nat) (escaped : Bool)
  /-- A dollar sign: whether it may open or close a formula, and the pair of braces around it. -/
  | dollar (opens closes : Bool) (braces : Nat)
  /-- An opening angle bracket. -/
  | angle
  /-- An opening bracket of a link, or of an image with the exclamation mark in front. -/
  | bracket (image : Bool)
  /-- A closing bracket, which may end a reference by its own text. -/
  | closing (ownText : Bool)
  /-- A line break of the source. -/
  | softBreak
  /-- A line break of the page, by a backslash or by white space. -/
  | hardBreak (backslash : Bool)
deriving DecidableEq, Repr

/-- A token. -/
structure Token where
  /-- What the token is. -/
  kind : TokenKind
  /-- How many characters of the content stand in front of the token. -/
  start : Nat
  /-- The characters of the token. -/
  text : Text
  /-- The content behind the token. -/
  behind : Text
deriving DecidableEq, Repr

namespace Token

/-- How many characters of the content stand in front of the end of the token. -/
def stop (t : Token) : Nat := t.start + t.text.length

/-- Tokens without those that end at or in front of a place. -/
def dropUntil (place : Nat) (tokens : List Token) : List Token :=
  tokens.dropWhile fun t => t.stop ≤ place

/-- Tokens without what stands in front of a place. -/
def cut (place : Nat) (tokens : List Token) : List Token :=
  match dropUntil place tokens with
  | [] => []
  | t :: ts => { t with start := max t.start place, text := t.text.drop (place - t.start) } :: ts

end Token

end StaticSite.Markdown
