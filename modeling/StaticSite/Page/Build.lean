import StaticSite.FileStore.Update
import StaticSite.Frontmatter.Document
import StaticSite.Markdown.Html
import StaticSite.Page.Render

set_option relaxedAutoImplicit false
set_option autoImplicit false

/-!
# Building a page

A Markdown file becomes an HTML file beside it. Building it takes three steps that touch the
files: the Markdown file is read, the template is read, and the page is written.

## Main definitions

* `StaticSite.PageError` — why a page was not built, and its message.
* `StaticSite.BuiltPage` — a page that was built.
* `StaticSite.Page.compose` — the page made from the texts of the Markdown file and the template.
* `StaticSite.Page.build` — a page built from its files.
-/

namespace StaticSite

/-- Why a page was not built. -/
inductive PageError where
  /-- The Markdown file or the template cannot be read. -/
  | unreadable (path : Path) (cause : FileError)
  /-- The page cannot be written. -/
  | unwritable (path : Path) (cause : FileError)
deriving DecidableEq, Repr

/-- The message about a page that was not built. -/
def PageError.message : PageError → Text
  | .unreadable path cause => "cannot read ".toList ++ path.text ++ [':', ' '] ++ cause.message
  | .unwritable path cause => "cannot write ".toList ++ path.text ++ [':', ' '] ++ cause.message

/-- A page that was built. -/
structure BuiltPage where
  /-- The Markdown file. -/
  source : Path
  /-- The HTML file. -/
  output : Path
  /-- The placeholders whose names are unknown. -/
  unresolved : List UnresolvedPlaceholder
deriving DecidableEq, Repr

namespace Page

/-- A document split into metadata and body, with the body as HTML. -/
def renderDocument (extensions : Markdown.Extensions) (document : Text) : RenderedDocument :=
  let (frontmatter, body) := Frontmatter.split document
  ⟨Markdown.toHtml extensions body, frontmatter⟩

/-- The page made from the texts of the Markdown file and the template. -/
def compose (extensions : Markdown.Extensions) (template document : Text) : RenderedPage :=
  renderPage template (renderDocument extensions document)

/-- The extension of Markdown files. -/
def sourceExtension : Name := Utf8.encode ['m', 'd']

/-- The extension of the files that pages are written to. -/
def outputExtension : Name := Utf8.encode ['h', 't', 'm', 'l']

/-- The file that the page of a Markdown file is written to. -/
def outputOf (source : Path) : Path := source.withExtension outputExtension

/-- The text of a file that a page is made from. -/
def read (p : Path) : FileAction PageError Text := fun s =>
  match s.readText p with
  | .ok t => .ok t s
  | .error cause => .error (.unreadable p cause) s

/-- Writes the page of a Markdown file. -/
def write (p : Path) (t : Text) : FileAction PageError Unit :=
  EStateM.adaptExcept (.unwritable p) (FileStore.write p (.text t))

/-- Builds the page of a Markdown file. -/
def build (extensions : Markdown.Extensions) (template source : Path) :
    FileAction PageError BuiltPage := do
  let document ← read source
  let frame ← read template
  let page := compose extensions frame document
  write (outputOf source) page.text
  return ⟨source, outputOf source, page.unresolved⟩

end Page

end StaticSite
