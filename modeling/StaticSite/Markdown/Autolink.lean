import StaticSite.Text.Ascii

set_option relaxedAutoImplicit false
set_option autoImplicit false

/-!
# Automatic links

An address between angle brackets links to itself: an absolute URI or an e-mail address.

## Main definitions

* `StaticSite.Markdown.uri?` — the URI up to a closing angle bracket.
* `StaticSite.Markdown.email?` — the e-mail address up to a closing angle bracket.
* `StaticSite.Markdown.autolink?` — either, with the destination it links to.
-/

namespace StaticSite.Markdown

/-- The characters of the scheme of a URI. -/
def isSchemeChar (c : Char) : Bool :=
  Text.isAsciiAlphanumeric c || c == '.' || c == '-' || c == '+'

/-- The characters that cannot stand in a URI. -/
def endsUri (c : Char) : Bool := c ≤ ' ' || c == '<' || c == '>'

/-- The URI at the start of a text and the text after the closing angle bracket. Its scheme
starts with a letter and has two to thirty-two characters. -/
def uri? (t : Text) : Option (Text × Text) :=
  let scheme := t.takeWhile isSchemeChar
  if !(scheme.head?.any Char.isAlpha) || scheme.length < 2 || 32 < scheme.length then none
  else
    match t.drop scheme.length with
    | ':' :: rest =>
      let path := rest.takeWhile fun c => !endsUri c
      match rest.drop path.length with
      | '>' :: after => some (scheme ++ ':' :: path, after)
      | _ => none
    | _ => none

/-- The characters in front of the at sign of an e-mail address. -/
def isMailboxChar (c : Char) : Bool :=
  Text.isAsciiAlphanumeric c ||
    ['.', '!', '#', '$', '%', '&', '\'', '*', '+', '/', '=', '?', '^', '_', '`', '\x7b', '|',
      '\x7d', '~', '-'].contains c

/-- Whether a text is a label of a domain: letters, digits and hyphens, no hyphen at either
end, and at most 63 characters. -/
def isDomainLabel (t : Text) : Bool :=
  !t.isEmpty && t.length ≤ 63 && t.all (fun c => Text.isAsciiAlphanumeric c || c == '-') &&
    t.head? != some '-' && t.getLast? != some '-'

/-- The e-mail address at the start of a text and the text after the closing angle bracket. -/
def email? (t : Text) : Option (Text × Text) :=
  let mailbox := t.takeWhile isMailboxChar
  match mailbox, t.drop mailbox.length with
  | _ :: _, '@' :: rest =>
    let domain := rest.takeWhile fun c => Text.isAsciiAlphanumeric c || c == '-' || c == '.'
    match rest.drop domain.length with
    | '>' :: after =>
      if (domain.splitOn '.').all isDomainLabel then some (mailbox ++ '@' :: domain, after)
      else none
    | _ => none
  | _, _ => none

/-- The address at the start of a text, the destination it links to and the text after the
closing angle bracket. -/
def autolink? (t : Text) : Option (Text × Text × Text) :=
  match uri? t with
  | some (uri, after) => some (uri, uri, after)
  | none =>
    match email? t with
    | some (email, after) => some (email, "mailto:".toList ++ email, after)
    | none => none

end StaticSite.Markdown
