import StaticSite.Unicode.Visible

set_option relaxedAutoImplicit false
set_option autoImplicit false

/-!
# Quoted texts

A text between double quotes, as messages show it: quotes, backslashes and invisible characters
are escaped.

## Main definitions

* `StaticSite.Text.quotation` — a text between quotes.
-/

namespace StaticSite.Text

/-- A character as it stands between double quotes. -/
def quotationChar (c : Char) : Text :=
  if c = '\x00' then ['\\', '0']
  else if c = '\t' then ['\\', 't']
  else if c = '\r' then ['\\', 'r']
  else if c = '\n' then ['\\', 'n']
  else if c = '\\' ∨ c = '"' then ['\\', c]
  else if Unicode.isVisible c then [c]
  else '\\' :: 'u' :: '\x7b' :: Nat.toDigits 16 c.toNat ++ ['\x7d']

/-- A text between double quotes. -/
def quotation (t : Text) : Text := '"' :: t.flatMap quotationChar ++ ['"']

end StaticSite.Text
