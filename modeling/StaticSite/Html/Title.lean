import StaticSite.Text.Ascii
import StaticSite.Text.WhiteSpace

set_option relaxedAutoImplicit false
set_option autoImplicit false

/-!
# The title of a page

The title of an HTML page is the text of its first title element. Tag names are matched in any
ASCII case and the opening tag may carry attributes.

## Main definitions

* `StaticSite.Html.afterTitleTag?` — the text after the opening tag.
* `StaticSite.Html.title?` — the title of a page.
-/

namespace StaticSite.Html

/-- The start of the opening tag of a title. -/
def titleOpening : Text := ['<', 't', 'i', 't', 'l', 'e']

/-- The start of the closing tag of a title. -/
def titleClosing : Text := ['<', '/', 't', 'i', 't', 'l', 'e']

/-- The text after the first `>`. -/
def afterTagEnd? (t : Text) : Option Text := (Text.breakOn ['>'] t).map Prod.snd

/-- The text after the first opening tag of a title: the tag's name is followed by `>`, or by
white space and, further on, by `>`. A longer name such as `<titles>` is passed over. -/
def afterTitleTag? : Text → Option Text
  | [] => none
  | c :: t =>
    match Text.dropPrefixCaseless? titleOpening (c :: t) with
    | some ('>' :: rest) => some rest
    | some (d :: rest) => if Text.isAsciiSpace d then afterTagEnd? rest else afterTitleTag? t
    | some [] => none
    | none => afterTitleTag? t

/-- The title of a page: the text between the opening tag and the closing tag, trimmed. A page
whose title element is missing, unclosed or blank has none. -/
def title? (html : Text) : Option Text :=
  match afterTitleTag? html with
  | none => none
  | some rest =>
    match Text.breakOnCaseless titleClosing rest with
    | none => none
    | some (inner, _) => if (Text.trim inner).isEmpty then none else some (Text.trim inner)

end StaticSite.Html
