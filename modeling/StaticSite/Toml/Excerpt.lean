import StaticSite.Toml.Value

set_option relaxedAutoImplicit false
set_option autoImplicit false

/-!
# Excerpts

A message about a place in a document shows its line, with carets below the place.

## Main definitions

* `StaticSite.Toml.excerpt` — the line of a place, marked.
-/

namespace StaticSite.Toml

/-- The part of a text behind its last line feed. -/
def lastLine (t : Text) : Text := (t.reverse.takeWhile (· != '\n')).reverse

/-- So many spaces. -/
def spaces (n : Nat) : Text := List.replicate n ' '

/-- The line of a place, with its number, the column in characters, and carets below the place:
at least one, and none behind the end of the line. -/
def excerpt (document : Text) (span : Span) : Text :=
  let before := document.take (document.length - span.start.length)
  let number := Text.ofNat (before.count '\n' + 1)
  let column := (lastLine before).length
  let line := lastLine before ++ span.start.takeWhile (· != '\n')
  let width := min (Text.byteSize span.start - Text.byteSize span.stop)
    (Text.byteSize line - column)
  let gutter := spaces (number.length + 1) ++ ['|']
  "TOML parse error at line ".toList ++ number ++ ", column ".toList ++
    Text.ofNat (column + 1) ++ '\n' :: gutter ++ '\n' :: number ++ " | ".toList ++ line ++
    '\n' :: gutter ++ spaces (column + 1) ++ List.replicate (max width 1) '^' ++ ['\n']

end StaticSite.Toml
