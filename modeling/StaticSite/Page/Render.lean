import StaticSite.Frontmatter.Basic
import StaticSite.Navigation.List

set_option relaxedAutoImplicit false
set_option autoImplicit false

/-!
# Filling in the template

A page is made from a template and a document whose body is HTML already. The body's
placeholders are resolved by the metadata of the document, then those of the template, where
`CONTENT` stands for the body. `NAV` is left to the navigation pass.

## Main definitions

* `StaticSite.RenderedDocument` — the HTML body of a document and its metadata.
* `StaticSite.UnresolvedPlaceholder` — an unknown placeholder and where it was written.
* `StaticSite.renderPage` — the page, and the unknown placeholders in it.
-/

namespace StaticSite

/-- A document whose body has been converted to HTML. -/
structure RenderedDocument where
  /-- The body. -/
  html : Text
  /-- The metadata. -/
  frontmatter : Frontmatter
deriving DecidableEq, Repr

/-- Where a placeholder was written. -/
inductive Origin where
  /-- In the template. -/
  | template
  /-- In the body of the document. -/
  | body
deriving DecidableEq, Repr

/-- A placeholder that was kept because its name is unknown. -/
structure UnresolvedPlaceholder where
  /-- Where it was written. -/
  origin : Origin
  /-- The placeholder as it is written. -/
  text : Text
deriving DecidableEq, Repr

/-- A filled-in template. -/
structure RenderedPage where
  /-- The text of the page. -/
  text : Text
  /-- The unknown placeholders, those of the template before those of the body. -/
  unresolved : List UnresolvedPlaceholder
deriving DecidableEq, Repr

namespace Page

/-- The name of the placeholder for the body. -/
def contentName : Text := ['C', 'O', 'N', 'T', 'E', 'N', 'T']

/-- The names known while a page is filled in: the keys of the metadata, then `CONTENT` if the
body is at hand; `NAV` is deferred. -/
def resolver (m : Frontmatter) (content : Option Text) : Resolver := fun name =>
  match m.first? name with
  | some value => .value value
  | none =>
    match content with
    | some html =>
      if name = contentName then .value html
      else if name = Navigation.placeholderName then .defer else .unknown
    | none => if name = Navigation.placeholderName then .defer else .unknown

/-- The body of a document with its placeholders resolved. -/
def resolvedBody (document : RenderedDocument) : Resolved :=
  (resolver document.frontmatter none).resolve document.html

end Page

open Page in
/-- The template filled in with a document. Unknown placeholders of the body are reported only
if the template has a place for the body. -/
def renderPage (template : Text) (document : RenderedDocument) : RenderedPage :=
  let body := resolvedBody document
  let page := (resolver document.frontmatter (some body.text)).resolve template
  { text := page.text
    unresolved :=
      page.unresolved.map (UnresolvedPlaceholder.mk .template) ++
        if (Placeholder.names template).contains contentName then
          body.unresolved.map (UnresolvedPlaceholder.mk .body)
        else [] }

end StaticSite
