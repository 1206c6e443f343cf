import StaticSite.Placeholder.Basic

set_option relaxedAutoImplicit false
set_option autoImplicit false

/-!
# Resolving placeholders

A text is resolved in one pass: each placeholder is replaced by its value, or kept as written
if it is left to a later pass or unknown; the unknown ones are reported. Values are not
searched for placeholders again.

## Main definitions

* `StaticSite.Resolution` — the answer for one name.
* `StaticSite.Resolver` — the answers for all names.
* `StaticSite.Resolver.resolve` — the text with every known placeholder replaced, and the
  unknown ones as written.
-/

namespace StaticSite

/-- The answer for the name of a placeholder. -/
inductive Resolution where
  /-- Replace the placeholder by this text. -/
  | value (t : Text)
  /-- Keep the placeholder for a later pass. -/
  | defer
  /-- Keep the placeholder and report it. -/
  | unknown
deriving DecidableEq, Repr

/-- A resolver answers for every name. -/
abbrev Resolver := Text → Resolution

/-- A text whose placeholders have been resolved. -/
structure Resolved where
  /-- The text with the known placeholders replaced. -/
  text : Text
  /-- The unknown placeholders as written, one for each occurrence, from left to right. -/
  unresolved : List Text
deriving DecidableEq, Repr

namespace Resolver

open Placeholder

/-- What stands in the resolved text for a piece. -/
def replacement (r : Resolver) : Piece → Text
  | .literal t => t
  | .placeholder name =>
    match r name with
    | .value t => t
    | .defer => written name
    | .unknown => written name

/-- The report for a piece: a placeholder with an unknown name as it is written. -/
def report? (r : Resolver) : Piece → Option Text
  | .literal _ => none
  | .placeholder name =>
    match r name with
    | .value _ => none
    | .defer => none
    | .unknown => some (written name)

/-- The text with every placeholder replaced as the resolver answers. -/
def resolve (r : Resolver) (t : Text) : Resolved where
  text := (pieces t).flatMap r.replacement
  unresolved := (pieces t).filterMap r.report?

end Resolver

end StaticSite
