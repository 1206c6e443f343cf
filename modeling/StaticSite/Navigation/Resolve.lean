import StaticSite.FileStore.Update
import StaticSite.Html.Title
import StaticSite.Navigation.List

set_option relaxedAutoImplicit false
set_option autoImplicit false

/-!
# Filling in navigation lists

The placeholders `NAV` of a page are replaced by a list of links to other pages, shown by their
titles. Titles are read from the pages as they are at that time, so all pages must have been
written before. A page without the placeholder is left alone, and the pages it would link to are
not read.

## Main definitions

* `StaticSite.NavError` — why a list was not filled in, and its message.
* `StaticSite.Navigation.readTitle`, `StaticSite.Navigation.links` — the links of a list.
* `StaticSite.NavOutcome` — what became of a page.
* `StaticSite.Navigation.resolve` — the placeholders of a page replaced.
-/

namespace StaticSite

/-- Why a navigation list was not filled in. -/
inductive NavError where
  /-- The page or one that it links to cannot be read. -/
  | unreadable (path : Path) (cause : FileError)
  /-- The page cannot be written. -/
  | unwritable (path : Path) (cause : FileError)
deriving DecidableEq, Repr

/-- The message about a list that was not filled in. -/
def NavError.message : NavError → Text
  | .unreadable path cause => "cannot read ".toList ++ path.text ++ [':', ' '] ++ cause.message
  | .unwritable path cause => "cannot write ".toList ++ path.text ++ [':', ' '] ++ cause.message

/-- What became of a page in the navigation pass. -/
structure NavOutcome where
  /-- The number of links in the list, zero for a page without one. -/
  links : Nat
  /-- Whether the page was written again. -/
  rewritten : Bool
  /-- The placeholders other than `NAV` that the page holds. -/
  unresolved : List Text
deriving DecidableEq, Repr

namespace Navigation

/-- The title of a page. Ill-formed bytes in the page do no harm. -/
def readTitle (s : FileStore) (p : Path) : Except NavError (Option Text) :=
  match s.readContents p with
  | .ok c => .ok (Html.title? c.textWithReplacement)
  | .error cause => .error (.unreadable p cause)

/-- The links to some pages, in their order. -/
def links (s : FileStore) : List NavPage → Except NavError (List NavLink)
  | [] => .ok []
  | page :: pages => do
    let title ← readTitle s page.path
    return ⟨page.href, title⟩ :: (← links s pages)

/-- Whether a text has a place for the navigation list. -/
def hasPlace (t : Text) : Bool := (Placeholder.names t).contains placeholderName

/-- The links that a text asks for: none unless it has a place for the list. -/
def linksFor (s : FileStore) (t : Text) (others : List NavPage) :
    Except NavError (Option (List NavLink)) :=
  if hasPlace t then (links s others).map some else .ok none

/-- Replaces the placeholders `NAV` of a page by a list of links to others. -/
def resolve (target : Path) (others : List NavPage) : FileAction NavError NavOutcome := do
  let s ← get
  match s.readText target with
  | .error cause => throw (.unreadable target cause)
  | .ok t =>
    match linksFor s t others with
    | .error e => throw e
    | .ok list =>
      let resolved := (resolver (list.map render)).resolve t
      let rewritten := resolved.text != t
      if rewritten then
        EStateM.adaptExcept (.unwritable target) (FileStore.write target (.text resolved.text))
      return ⟨(list.getD []).length, rewritten, resolved.unresolved⟩

end Navigation

end StaticSite
