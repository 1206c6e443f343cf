set_option relaxedAutoImplicit false
set_option autoImplicit false

/-!
# Markdown extensions

The parts of Markdown that a site can switch on beyond plain CommonMark.

## Main definitions

* `StaticSite.Markdown.Extensions` — which extensions are on.
-/

namespace StaticSite.Markdown

/-- Which extensions are on; none is by default. -/
structure Extensions where
  /-- Tables of cells between pipes. -/
  tables : Bool := false
  /-- References to footnotes and their definitions. -/
  footnotes : Bool := false
  /-- Deleted text between tildes. -/
  strikethrough : Bool := false
  /-- List items that start with a check box. -/
  tasklists : Bool := false
  /-- Typographic quotes, dashes and ellipses. -/
  smartPunctuation : Bool := false
  /-- Mathematics between dollar signs. -/
  math : Bool := false
deriving DecidableEq, Repr

end StaticSite.Markdown
