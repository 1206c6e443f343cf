import StaticSite.Html.Escape
import StaticSite.Path
import StaticSite.Placeholder.Resolve

set_option relaxedAutoImplicit false
set_option autoImplicit false

/-!
# Navigation lists

A navigation list links to pages of the site. It stands where a page has the placeholder `NAV`.

## Main definitions

* `StaticSite.NavPage` — a page and the target that links to it.
* `StaticSite.NavPage.others` — the pages that a page links to.
* `StaticSite.NavLink` — a link of the list.
* `StaticSite.Navigation.render` — the list as HTML.
* `StaticSite.Navigation.resolver` — the placeholder `NAV` stands for the list.
-/

namespace StaticSite

/-- An HTML page that takes part in navigation. -/
structure NavPage where
  /-- Where the page lies. -/
  path : Path
  /-- The target that links to the page. -/
  href : Text
deriving DecidableEq, Repr

/-- The page at a path, linked relative to a directory. A path outside the directory is linked
as it is. The target holds the components of the path as they are shown, with a slash between
neighbours. -/
def NavPage.of (directory path : Path) : NavPage where
  path := path
  href :=
    let relative := (path.relativeTo? directory).getD path
    Text.joinWith ['/'] (relative.components.map Path.Component.text)

/-- The pages that a page links to: all others, and itself if asked for. -/
def NavPage.others (pages : List NavPage) (target : NavPage) (includeSelf : Bool) :
    List NavPage :=
  pages.filter fun page => includeSelf || !page.path.alike target.path

/-- A link of a navigation list. -/
structure NavLink where
  /-- The target of the link. -/
  href : Text
  /-- The title of the page, which is HTML already. Without one the target is shown. -/
  title : Option Text
deriving DecidableEq, Repr

namespace Navigation

/-- The name of the placeholder for the navigation list. -/
def placeholderName : Text := ['N', 'A', 'V']

/-- What a link shows: the title as it is, or the escaped target. -/
def label (link : NavLink) : Text :=
  match link.title with
  | some title => title
  | none => Html.escapeQuoted link.href

/-- A link as an item of the list. -/
def renderLink (link : NavLink) : Text :=
  "<li><a href=\"".toList ++ Html.escapeQuoted link.href ++ "\">".toList ++ label link ++
    "</a></li>".toList

/-- The navigation list as HTML. -/
def render (links : List NavLink) : Text :=
  "<ul>".toList ++ links.flatMap renderLink ++ "</ul>".toList

/-- The placeholder `NAV` stands for a given list; every other name is unknown. -/
def resolver (list : Option Text) : Resolver := fun name =>
  match list with
  | some html => if name = placeholderName then .value html else .unknown
  | none => .unknown

end Navigation

end StaticSite
