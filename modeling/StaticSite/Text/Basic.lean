set_option relaxedAutoImplicit false
set_option autoImplicit false

/-!
# Texts

A text is the list of its characters. Offsets into a text count the bytes of its UTF-8
encoding, so they are measured here, and a text can be cut at a byte offset only between two
characters.

## Main definitions

* `StaticSite.Text.byteSize` — the length of a text in bytes.
* `StaticSite.Text.dropBytes?` — the part of a text after a byte offset.
* `StaticSite.Text.dropPrefix?` — the part of a text after a prefix.
* `StaticSite.Text.breakOn` — a text cut at the first occurrence of a pattern.
* `StaticSite.Text.lines` — the lines of a text, each with its line feed.

## Main results

* `StaticSite.Text.append_of_breakOn` — the two parts and the pattern give back the text.
* `StaticSite.Text.flatten_lines` — no character is lost by cutting a text into lines.
-/

namespace StaticSite

/-- A text is the list of its characters. -/
abbrev Text := List Char

namespace Text

/-! ## Lengths and offsets in bytes -/

/-- The number of bytes of the UTF-8 encoding of a text. -/
def byteSize : Text → Nat
  | [] => 0
  | c :: t => c.utf8Size + byteSize t

@[simp]
theorem byteSize_nil : byteSize [] = 0 := rfl

@[simp]
theorem byteSize_cons (c : Char) (t : Text) : byteSize (c :: t) = c.utf8Size + byteSize t := rfl

@[simp]
theorem byteSize_append (s t : Text) : byteSize (s ++ t) = byteSize s + byteSize t := by
  induction s with
  | nil => simp
  | cons c s ih => simp [ih, Nat.add_assoc]

/-- The text after the first `n` bytes; there is none if the text is shorter or the offset
falls inside a character. -/
def dropBytes? : Nat → Text → Option Text
  | 0, t => some t
  | _ + 1, [] => none
  | n + 1, c :: t => if c.utf8Size ≤ n + 1 then dropBytes? (n + 1 - c.utf8Size) t else none

/-- Dropping exactly the bytes of a prefix leaves what follows it. -/
theorem dropBytes?_byteSize_append (s t : Text) : dropBytes? (byteSize s) (s ++ t) = some t := by
  induction s with
  | nil => cases t <;> simp [dropBytes?]
  | cons c s ih =>
    have hc : 0 < c.utf8Size := Char.utf8Size_pos c
    obtain ⟨n, hn⟩ : ∃ n, c.utf8Size + byteSize s = n + 1 :=
      ⟨c.utf8Size + byteSize s - 1, by omega⟩
    have hle : c.utf8Size ≤ n + 1 := by omega
    have hsub : n + 1 - c.utf8Size = byteSize s := by omega
    simp [hn, dropBytes?, hle, hsub, ih]

/-! ## Searching -/

/-- The text after a given prefix. -/
def dropPrefix? : Text → Text → Option Text
  | [], t => some t
  | _ :: _, [] => none
  | p :: ps, c :: t => if p = c then dropPrefix? ps t else none

/-- A prefix can be dropped exactly from the texts that start with it. -/
theorem dropPrefix?_eq_some_iff {p t rest : Text} :
    dropPrefix? p t = some rest ↔ t = p ++ rest := by
  induction p generalizing t with
  | nil => simp [dropPrefix?]
  | cons a p ih =>
    cases t with
    | nil => simp [dropPrefix?]
    | cons c t =>
      by_cases h : a = c
      · simp [dropPrefix?, h, ih]
      · simp [dropPrefix?, h, eq_comm]

/-- The text before the first occurrence of a pattern and the text after it. -/
def breakOn (pattern : Text) : Text → Option (Text × Text)
  | [] => if pattern.isEmpty then some ([], []) else none
  | c :: t =>
    match dropPrefix? pattern (c :: t) with
    | some rest => some ([], rest)
    | none => (breakOn pattern t).map fun parts => (c :: parts.1, parts.2)

/-- A pattern is found at the start of a text, or else where it is found in the rest. -/
theorem breakOn_cons_eq_some_iff {pattern t before after : Text} {c : Char} :
    breakOn pattern (c :: t) = some (before, after) ↔
      (before = [] ∧ dropPrefix? pattern (c :: t) = some after) ∨
        ∃ front, before = c :: front ∧ dropPrefix? pattern (c :: t) = none ∧
          breakOn pattern t = some (front, after) := by
  rw [breakOn]
  cases dropPrefix? pattern (c :: t) with
  | some rest => simp [eq_comm]
  | none =>
    constructor
    · intro h
      obtain ⟨parts, hparts, heq⟩ := Option.map_eq_some_iff.1 h
      obtain ⟨rfl, rfl⟩ : c :: parts.1 = before ∧ parts.2 = after := by simpa using heq
      exact .inr ⟨parts.1, rfl, rfl, hparts⟩
    · rintro (⟨-, h⟩ | ⟨front, rfl, -, h⟩)
      · simp at h
      · rw [h]
        rfl

/-- The two parts and the pattern between them are the whole text. -/
theorem append_of_breakOn {pattern : Text} {t before after : Text}
    (h : breakOn pattern t = some (before, after)) : before ++ pattern ++ after = t := by
  induction t generalizing before after with
  | nil =>
    cases pattern with
    | nil => simp_all [breakOn]
    | cons c p => simp [breakOn] at h
  | cons c t ih =>
    obtain ⟨rfl, hstart⟩ | ⟨front, rfl, -, hrest⟩ := breakOn_cons_eq_some_iff.1 h
    · simpa using (dropPrefix?_eq_some_iff.1 hstart).symm
    · simpa using ih hrest

/-- What follows the first occurrence of a pattern is shorter than the text by at least the
pattern. -/
theorem length_of_breakOn {pattern : Text} {t before after : Text}
    (h : breakOn pattern t = some (before, after)) :
    after.length + pattern.length ≤ t.length := by
  rw [← append_of_breakOn h]
  simp only [List.length_append]
  omega

/-! ## Lines -/

/-- The lines of a text, each with the line feed that ends it; only the last may lack one. -/
def lines : Text → List Text
  | [] => []
  | c :: t =>
    if c = '\n' then [c] :: lines t
    else
      match lines t with
      | [] => [[c]]
      | line :: rest => (c :: line) :: rest

/-- The lines of a text in order are the text. -/
@[simp]
theorem flatten_lines (t : Text) : (lines t).flatten = t := by
  induction t with
  | nil => rfl
  | cons c t ih =>
    unfold lines
    split
    · simp [ih]
    · split <;> simp_all

/-- The parts in order with a separator between neighbours. -/
def joinWith {α : Type} (separator : List α) : List (List α) → List α
  | [] => []
  | [t] => t
  | t :: ts => t ++ separator ++ joinWith separator ts

/-- The decimal digits of a number. -/
def ofNat (n : Nat) : Text := Nat.toDigits 10 n

end Text

end StaticSite
