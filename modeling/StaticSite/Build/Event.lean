import StaticSite.Page.Build

set_option relaxedAutoImplicit false
set_option autoImplicit false

/-!
# What a build reports

## Main definitions

* `StaticSite.BuildEvent` — a step of a build, or a warning.
* `StaticSite.BuildSummary` — what a build did.
* `StaticSite.BuildEvent.lines`, `StaticSite.BuildSummary.lines` — how they are shown.
-/

namespace StaticSite

/-- A step of a build, or a warning. -/
inductive BuildEvent where
  /-- The source tree was copied. -/
  | copied (files : Nat)
  /-- A Markdown file was made into a page. -/
  | pageBuilt (source output : Path)
  /-- The navigation list of a page was filled in. -/
  | navResolved (page : Path) (links : Nat)
  /-- A placeholder with an unknown name was kept. It stands in `file`, and was found while
  `source` was processed. -/
  | unresolved (file source : Path) (text : Text)
deriving DecidableEq, Repr

/-- What a build did. -/
structure BuildSummary where
  /-- The number of files copied. -/
  copied : Nat
  /-- The pages that were built. -/
  pages : List BuiltPage
  /-- The number of pages whose navigation list was filled in. -/
  navigated : Nat
  /-- The number of warnings. -/
  warnings : Nat
deriving DecidableEq, Repr

/-- Whether an event is a warning. -/
def BuildEvent.isWarning : BuildEvent → Bool
  | .unresolved .. => true
  | _ => false

/-- The lines that show an event. -/
def BuildEvent.lines : BuildEvent → List Text
  | .copied files => ["Copied ".toList ++ Text.ofNat files ++ " files".toList]
  | .pageBuilt source output => [source.text ++ " → ".toList ++ output.text]
  | .navResolved page links =>
    [page.text ++ [':', ' '] ++ Text.ofNat links ++ " nav links".toList]
  | .unresolved file source text =>
    let place := "warning: unresolved macro ".toList ++ text ++ " in ".toList ++ file.text
    if file.alike source then [place]
    else [place ++ " (building ".toList ++ source.text ++ [')']]

/-- The lines that show what a build did. -/
def BuildSummary.lines (s : BuildSummary) : List Text :=
  ["Built ".toList ++ Text.ofNat s.pages.length ++ " pages, resolved nav in ".toList ++
    Text.ofNat s.navigated ++ " pages, ".toList ++ Text.ofNat s.warnings ++
    " warnings".toList]

end StaticSite
