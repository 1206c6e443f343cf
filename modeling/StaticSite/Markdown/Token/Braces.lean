set_option relaxedAutoImplicit false
set_option autoImplicit false

/-!
# Braces around formulas

Two dollar signs belong together only if they stand inside the same pair of braces. Each pair
has a number, so that dollar signs can be compared by it. Braces are counted once a dollar sign
has been read. A closing brace without an opening one starts a part of the text of its own.

## Main definitions

* `StaticSite.Markdown.Braces` — the pairs of braces that are open.
* `StaticSite.Markdown.Braces.current` — the number of the innermost pair.
-/

namespace StaticSite.Markdown

/-- The pairs of braces that are open. -/
structure Braces where
  /-- The numbers of the open pairs, innermost first. -/
  opened : List Nat
  /-- The number of the next pair, or the depth where it is only counted. -/
  next : Nat
deriving DecidableEq, Repr

namespace Braces

/-- No pair of braces. -/
def empty : Braces := ⟨[], 0⟩

/-- Up to which depth pairs of braces are told apart; deeper ones are only counted. -/
def maxDepth : Nat := 25

/-- The number of what stands in no pair of braces. -/
def outside : Nat := 255

/-- Numbers of pairs are told apart up to this many. -/
def numberLimit : Nat := 256

/-- The number of the pair of braces around a dollar sign. -/
def current (b : Braces) : Nat × Braces :=
  if maxDepth < b.opened.length then (b.next % numberLimit, b)
  else
    match b.opened with
    | n :: _ => (n, b)
    | [] => (outside, { b with opened := [outside] })

/-- The pairs after an opening brace. -/
def enter (b : Braces) : Braces :=
  if b.opened.length = maxDepth then ⟨b.next % numberLimit :: b.opened, maxDepth⟩
  else if maxDepth < b.opened.length then { b with next := b.next + 1 }
  else if b.opened.isEmpty then b
  else ⟨b.next % numberLimit :: b.opened, b.next + 1⟩

/-- The pairs after a closing brace. -/
def leave (b : Braces) : Braces :=
  match b.opened with
  | [] => b
  | [_] => ⟨[b.next % numberLimit], b.next + 1⟩
  | _ :: outer =>
    if maxDepth < b.opened.length ∧ maxDepth < b.next then { b with next := b.next - 1 }
    else { b with opened := outer }

end Braces

end StaticSite.Markdown
