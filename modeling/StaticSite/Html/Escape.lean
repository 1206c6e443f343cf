import StaticSite.Text.Ascii

set_option relaxedAutoImplicit false
set_option autoImplicit false

/-!
# Escaping text for HTML

Text becomes part of an HTML page by replacing the characters that would be read as markup.
Which characters these are depends on the place: between tags, inside a quoted attribute, or
inside an attribute that holds a link target.

## Main definitions

* `StaticSite.Html.escapeBody` — text between tags.
* `StaticSite.Html.escapeQuoted` — text in an attribute between double quotes.
* `StaticSite.Html.escapeAttribute` — text in an attribute between quotes of either kind.
* `StaticSite.Html.escapeTarget` — a link target, percent-encoded where it must be.
-/

namespace StaticSite.Html

/-- The replacement of a character of text between tags. -/
def bodyChar (c : Char) : Text :=
  match c with
  | '&' => ['&', 'a', 'm', 'p', ';']
  | '<' => ['&', 'l', 't', ';']
  | '>' => ['&', 'g', 't', ';']
  | c => [c]

/-- The replacement of a character in an attribute between double quotes. -/
def quotedChar (c : Char) : Text :=
  match c with
  | '"' => ['&', 'q', 'u', 'o', 't', ';']
  | c => bodyChar c

/-- The replacement of a character in an attribute between quotes of either kind. -/
def attributeChar (c : Char) : Text :=
  match c with
  | '\'' => ['&', '#', '3', '9', ';']
  | c => quotedChar c

/-- Text between tags. -/
def escapeBody (t : Text) : Text := t.flatMap bodyChar

/-- Text in an attribute between double quotes. -/
def escapeQuoted (t : Text) : Text := t.flatMap quotedChar

/-- Text in an attribute between quotes of either kind. -/
def escapeAttribute (t : Text) : Text := t.flatMap attributeChar

/-! ## Link targets -/

/-- The characters that stand for themselves in a link target. -/
def isTargetChar (c : Char) : Bool :=
  Text.isAsciiAlphanumeric c ||
    ['!', '#', '$', '%', '(', ')', '*', '+', ',', '-', '.', '/', ':', ';', '=', '?', '@', '^',
      '_', '~'].contains c

/-- The hexadecimal digit of a number below 16, in capitals. -/
def hexDigit (n : Nat) : Char := (Nat.digitChar n).toUpper

/-- The percent encoding of a byte. -/
def percent (b : UInt8) : Text := ['%', hexDigit (b.toNat / 16), hexDigit (b.toNat % 16)]

/-- The replacement of a character of a link target: an ampersand and a single quote are
escaped, and what cannot stand in a target is percent-encoded byte by byte. -/
def targetChar (c : Char) : Text :=
  if isTargetChar c then [c]
  else if c = '&' then ['&', 'a', 'm', 'p', ';']
  else if c = '\'' then ['&', '#', 'x', '2', '7', ';']
  else (String.utf8EncodeChar c).flatMap percent

/-- A link target. -/
def escapeTarget (t : Text) : Text := t.flatMap targetChar

end StaticSite.Html
