import StaticSite.Text.Basic

set_option relaxedAutoImplicit false
set_option autoImplicit false

/-!
# Placeholders

A placeholder is a name between double braces, `{{name}}`. It opens at `{{` and closes at the
nearest `}}` after that, so its name may hold anything but the closing braces, single braces
and line breaks included. An opening without a closing is ordinary text.

## Main definitions

* `StaticSite.Placeholder.first?` — the leftmost placeholder of a text.
* `StaticSite.Placeholder.find?` — the leftmost placeholder at or after a byte offset.
* `StaticSite.Placeholder.pieces` — a text cut into literal text and placeholders.
* `StaticSite.Placeholder.scan` — all placeholders of a text with their offsets.

## Main results

* `StaticSite.Placeholder.append_of_first?` — the parts around the leftmost placeholder and the
  placeholder give back the text.
* `StaticSite.Placeholder.source_pieces` — the pieces in order are the text.
-/

namespace StaticSite

/-- A placeholder in a text: the name between its braces and the byte offset where it starts. -/
structure Placeholder where
  /-- The text between the braces. -/
  name : Text
  /-- The byte offset of the first brace. -/
  start : Nat
deriving DecidableEq, Repr

namespace Placeholder

/-- The braces that open a placeholder. -/
def opening : Text := ['{', '{']

/-- The braces that close a placeholder. -/
def closing : Text := ['}', '}']

/-- The placeholder of a given name as it is written. -/
def written (name : Text) : Text := opening ++ name ++ closing

/-- A placeholder as it is written, braces included. -/
def text (p : Placeholder) : Text := written p.name

/-- The byte offset just after the last brace. -/
def stop (p : Placeholder) : Nat := p.start + Text.byteSize p.text

/-! ## The leftmost placeholder -/

/-- The leftmost placeholder of a text: the text before it, its name and the text after it. -/
def first? (t : Text) : Option (Text × Text × Text) :=
  match Text.breakOn opening t with
  | none => none
  | some (before, rest) =>
    match Text.breakOn closing rest with
    | none => none
    | some (name, after) => some (before, name, after)

/-- The text before the leftmost placeholder, the placeholder and the text after it are the
whole text. -/
theorem append_of_first? {t before name after : Text}
    (h : first? t = some (before, name, after)) : before ++ written name ++ after = t := by
  unfold first? at h
  split at h
  · simp at h
  · next b rest hopen =>
    split at h
    · simp at h
    · next n a hclose =>
      simp only [Option.some.injEq, Prod.mk.injEq] at h
      obtain ⟨rfl, rfl, rfl⟩ := h
      rw [← Text.append_of_breakOn hopen, ← Text.append_of_breakOn hclose]
      simp [written]

/-- What follows a placeholder is shorter than the text that holds it. -/
theorem length_of_first? {t before name after : Text}
    (h : first? t = some (before, name, after)) : after.length < t.length := by
  rw [← append_of_first? h]
  simp only [List.length_append, written, opening, List.length_cons]
  omega

/-- The leftmost placeholder at or after a byte offset. There is none if the offset lies behind
the end of the text or inside a character. -/
def find? (t : Text) (offset : Nat) : Option Placeholder :=
  match Text.dropBytes? offset t with
  | none => none
  | some tail =>
    match first? tail with
    | none => none
    | some (before, name, _) => some ⟨name, offset + Text.byteSize before⟩

/-! ## Cutting a text at its placeholders -/

/-- A piece of a text: literal text or a placeholder. -/
inductive Piece where
  /-- Text outside placeholders. -/
  | literal (t : Text)
  /-- A placeholder of the given name. -/
  | placeholder (name : Text)
deriving DecidableEq, Repr

/-- A piece as it is written. -/
def Piece.source : Piece → Text
  | .literal t => t
  | .placeholder name => written name

/-- A text cut at its placeholders, from left to right. -/
def pieces (t : Text) : List Piece :=
  match _h : first? t with
  | none => [.literal t]
  | some (before, name, after) => .literal before :: .placeholder name :: pieces after
termination_by t.length
decreasing_by exact length_of_first? _h

/-- The pieces of a text in order are the text. -/
theorem source_pieces (t : Text) : (pieces t).flatMap Piece.source = t := by
  fun_induction pieces t with
  | case1 t h => simp [Piece.source]
  | case2 t before name after h ih =>
    rw [List.flatMap_cons, List.flatMap_cons, ih]
    simpa [Piece.source] using append_of_first? h

/-- The placeholders among pieces whose first byte has the given offset. -/
def locate : Nat → List Piece → List Placeholder
  | _, [] => []
  | offset, .literal t :: rest => locate (offset + Text.byteSize t) rest
  | offset, .placeholder name :: rest =>
    ⟨name, offset⟩ :: locate (offset + Text.byteSize (written name)) rest

/-- All placeholders of a text, from left to right. -/
def scan (t : Text) : List Placeholder := locate 0 (pieces t)

/-- The names of the placeholders of a text, from left to right. -/
def names (t : Text) : List Text := (scan t).map Placeholder.name

end Placeholder

end StaticSite
