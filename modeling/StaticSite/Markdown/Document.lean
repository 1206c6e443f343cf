import StaticSite.Markdown.Inline
import StaticSite.Markdown.Reading

set_option relaxedAutoImplicit false
set_option autoImplicit false

/-!
# Markdown documents

The blocks of a document are read first, because a link or a footnote may be defined behind the
place that refers to it; then their inline content is parsed.

## Main definitions

* `StaticSite.Markdown.parse` — the blocks of a document.
-/

namespace StaticSite.Markdown

/-- How many bytes the references of any document may bring in by link definitions. A longer
document may bring in as many as it has. -/
def leastBudget : Nat := 100000

/-- The blocks of a document. -/
def parse (ext : Extensions) (t : Text) : List (Block (List Inline)) :=
  let outline := Outline.ofText ext t
  let refs : References := ⟨ext, outline.links.reverse, outline.footnotes⟩
  let budget := max (Text.byteSize t) leastBudget
  (Block.mapAllAlong (parseInline refs) budget outline.blocks.reverse).2

end StaticSite.Markdown
