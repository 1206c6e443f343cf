import StaticSite.Text.Basic

set_option relaxedAutoImplicit false
set_option autoImplicit false

/-!
# Similar words

The Jaro similarity of two words counts the characters that they share at nearby places, and how
many of those come in another order. It tells a misspelt word from an unrelated one.

## Main definitions

* `StaticSite.Text.sharedWith` — the characters that two words share.
* `StaticSite.Text.isSimilar` — whether the similarity exceeds seven tenths.
* `StaticSite.Text.mostSimilar?` — the most similar of some words.
-/

namespace StaticSite.Text

/-- Some characters, each with whether it was taken, with the first free one taken that equals a
given character and whose index lies within bounds. -/
def take? (c : Char) (low high : Nat) : Nat → List (Char × Bool) → Option (List (Char × Bool))
  | _, [] => none
  | i, (d, taken) :: rest =>
    if low ≤ i ∧ i ≤ high ∧ d = c ∧ taken = false then some ((d, true) :: rest)
    else (take? c low high (i + 1) rest).map ((d, taken) :: ·)

/-- The characters of a word, from an index on, that are found within a distance in another, and
the other word with those characters taken. -/
def takeShared (distance : Nat) :
    Nat → Text → List (Char × Bool) → Text × List (Char × Bool)
  | _, [], other => ([], other)
  | i, c :: t, other =>
    match take? c (i - distance) (i + distance) 0 other with
    | some other =>
      let (shared, other) := takeShared distance (i + 1) t other
      (c :: shared, other)
    | none => takeShared distance (i + 1) t other

/-- The characters that two words share, in the order of the one and of the other word. -/
def sharedWith (s t : Text) : Text × Text :=
  let (inFirst, taken) :=
    takeShared (max s.length t.length / 2 - 1) 0 s (t.map fun c => (c, false))
  (inFirst, (taken.filter Prod.snd).map Prod.fst)

/-- Three times the Jaro similarity of two words, as numerator and denominator: the share of each
word that they have in common, and the share of that which comes in the same order. -/
def similarity (s t : Text) : Nat × Nat :=
  let (inFirst, inSecond) := sharedWith s t
  let m := inFirst.length
  let swapped := ((inFirst.zip inSecond).countP fun p => p.1 ≠ p.2) / 2
  if m = 0 then (0, 1)
  else (m * m * t.length + m * m * s.length + (m - swapped) * s.length * t.length,
    s.length * t.length * m)

/-- Whether the similarity of two words exceeds seven tenths. -/
def isSimilar (s t : Text) : Bool :=
  let (n, d) := similarity s t
  21 * d < 10 * n

/-- Whether a word is at least as similar to the second of two words as to the first. -/
def prefersSecond (word s t : Text) : Bool :=
  let (n, d) := similarity word s
  let (n', d') := similarity word t
  n * d' ≤ n' * d

/-- The most similar of some words, if one is similar at all. -/
def mostSimilar? (word : Text) (words : List Text) : Option Text :=
  (words.filter (isSimilar word)).foldl
    (fun best t =>
      match best with
      | none => some t
      | some s => if prefersSecond word s t then some t else some s)
    none

end StaticSite.Text
