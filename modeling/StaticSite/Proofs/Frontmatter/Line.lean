import Mathlib
import StaticSite.Frontmatter.Document
import StaticSite.Proofs.Text.BreakOn
import StaticSite.Proofs.Text.Trim

set_option relaxedAutoImplicit false
set_option autoImplicit false

/-!
# The forms of a line of a block

What a line means inside a block is read off the line without its line feed and the carriage returns
in front of that. These are white space, and white space at the end of a line does not matter to any
of the forms, so the forms are given here for the line as it stands in the document. No line has two
of them.

## Main definitions

* `StaticSite.Frontmatter.IsFence` — three marks, and perhaps white space and a text.
* `StaticSite.Frontmatter.IsTerminator` — a blank line or a fence.
* `StaticSite.Frontmatter.IsKeyLine` — a key and its value.
* `StaticSite.Frontmatter.IsContinuation` — another value for the key before it.

## Main results

* `StaticSite.Frontmatter.isFence_content_iff` — the fences are read as such.
* `StaticSite.Frontmatter.Line.of_terminator`, `StaticSite.Frontmatter.Line.of_keyLine`,
  `StaticSite.Frontmatter.Line.of_continuation`, `StaticSite.Frontmatter.Line.of_body` — what a line
  of each form means.
-/

namespace StaticSite

namespace Frontmatter

/-! ## The end of a line -/

/-- A character that is no line feed and no carriage return is kept, and all in front of it. -/
private lemma content_append_cons {c : Char} (hfeed : c ≠ '\n') (hreturn : c ≠ '\r') (s t : Text) :
    content (s ++ c :: t) = s ++ c :: content t :=
  Text.dropEndWhile_append_cons (by simp [hfeed, hreturn]) s t

/-- What is dropped from the end of a line is white space. -/
private lemma exists_content_append (line : Text) :
    ∃ ending : Text, (∀ c ∈ ending, Text.isWhiteSpace c = true) ∧
      line = content line ++ ending := by
  obtain ⟨ending, hending, happend⟩ :=
    Text.exists_dropEndWhile_append (fun c => c == '\n' || c == '\r') line
  refine ⟨ending, fun c hc => ?_, happend⟩
  rcases (by simpa using hending c hc : c = '\n' ∨ c = '\r') with rfl | rfl
  · decide
  · decide

/-- The end of a line is white space that trimming drops. -/
private lemma trim_content (line : Text) : Text.trim (content line) = Text.trim line := by
  obtain ⟨ending, hending, happend⟩ := exists_content_append line
  calc
    Text.trim (content line) = Text.trim (content line ++ ending) :=
      (Text.trim_append_right hending _).symm
    _ = Text.trim line := by rw [← happend]

/-- A line is blank whatever white space ends it. -/
private lemma isBlank_content (line : Text) : Text.isBlank (content line) = Text.isBlank line := by
  rw [Bool.eq_iff_iff, ← Text.trim_eq_nil_iff, ← Text.trim_eq_nil_iff, trim_content]

/-! ## Fences -/

/-- Three marks, and behind them nothing or white space and anything else. -/
def IsFence (mark : Char) (line : Text) : Prop :=
  ∃ rest, line = mark :: mark :: mark :: rest ∧ ∀ c ∈ rest.head?, Text.isWhiteSpace c = true

/-- A fence by its characters. -/
lemma isFence_iff {mark : Char} {line : Text} : isFence mark line = true ↔ IsFence mark line := by
  unfold isFence IsFence
  cases hrest : Text.dropPrefix? [mark, mark, mark] line with
  | none =>
    refine iff_of_false (by simp) ?_
    rintro ⟨rest, hline, -⟩
    have happend : line = [mark, mark, mark] ++ rest := hline
    rw [Text.dropPrefix?_eq_some_iff.2 happend] at hrest
    simp at hrest
  | some rest =>
    obtain rfl := Text.dropPrefix?_eq_some_iff.1 hrest
    cases rest with
    | nil => simp
    | cons c rest => simp

/-- A fence with white space behind it is one. -/
lemma IsFence.append {mark : Char} {line ending : Text} (h : IsFence mark line)
    (hending : ∀ c ∈ ending, Text.isWhiteSpace c = true) : IsFence mark (line ++ ending) := by
  obtain ⟨rest, rfl, hrest⟩ := h
  refine ⟨rest ++ ending, rfl, fun c hc => ?_⟩
  cases rest with
  | nil => exact hending c (List.mem_of_head? hc)
  | cons d rest => exact hrest c hc

/-- A line is a fence whatever white space ends it. -/
lemma isFence_content_iff {mark : Char} (hfeed : mark ≠ '\n') (hreturn : mark ≠ '\r')
    {line : Text} :
    isFence mark (content line) = true ↔ IsFence mark line := by
  rw [isFence_iff]
  constructor
  · intro h
    obtain ⟨ending, hending, happend⟩ := exists_content_append line
    rw [happend]
    exact h.append hending
  · rintro ⟨rest, rfl, hrest⟩
    refine ⟨content rest, content_append_cons hfeed hreturn [mark, mark] rest, fun c hc => ?_⟩
    obtain ⟨ending, -, happend⟩ := exists_content_append rest
    refine hrest c ?_
    rw [happend, List.head?_append, hc]
    rfl

/-- A blank line, or a fence of either mark. -/
def IsTerminator (line : Text) : Prop :=
  Text.isBlank line = true ∨ IsFence '-' line ∨ IsFence '.' line

/-- A terminator with white space behind it is one. -/
lemma IsTerminator.append {line ending : Text} (h : IsTerminator line)
    (hending : ∀ c ∈ ending, Text.isWhiteSpace c = true) : IsTerminator (line ++ ending) := by
  rcases h with hblank | hfence | hfence
  · exact Or.inl
      (List.all_eq_true.2 (List.forall_mem_append.2 ⟨List.all_eq_true.1 hblank, hending⟩))
  · exact Or.inr (Or.inl (hfence.append hending))
  · exact Or.inr (Or.inr (hfence.append hending))

/-- The lines at which a block ends. -/
private lemma isTerminator_content_iff {line : Text} :
    (Text.isBlank (content line) || isFence '-' (content line) || isFence '.' (content line)) =
      true ↔ IsTerminator line := by
  rw [Bool.or_eq_true, Bool.or_eq_true, isBlank_content,
    isFence_content_iff (by decide) (by decide), isFence_content_iff (by decide) (by decide),
    IsTerminator, or_assoc]

/-! ## Key lines -/

/-- Keys are made of letters, digits, underscores and hyphens. -/
lemma isKeyChar_iff {c : Char} : isKeyChar c = true ↔
    ('A' ≤ c ∧ c ≤ 'Z') ∨ ('a' ≤ c ∧ c ≤ 'z') ∨ ('0' ≤ c ∧ c ≤ '9') ∨ c = '_' ∨ c = '-' := by
  simp only [isKeyChar, Text.isAsciiAlphanumeric, Char.isAlpha, Char.isUpper, Char.isLower,
    Char.isDigit, Bool.or_eq_true, Bool.and_eq_true, decide_eq_true_eq, beq_iff_eq, Char.le_def,
    or_assoc]

/-- Keys hold no white space. -/
lemma isWhiteSpace_of_isKeyChar {c : Char} (h : isKeyChar c = true) :
    Text.isWhiteSpace c = false := by
  rw [isKeyChar_iff] at h
  cases hspace : Text.isWhiteSpace c with
  | false => rfl
  | true =>
    simp only [Text.isWhiteSpace, Bool.or_eq_true, Bool.and_eq_true, decide_eq_true_eq, beq_iff_eq,
      Char.le_def, UInt32.le_iff_toNat_le, Char.ext_iff, ← UInt32.toNat_inj, ↓Char.isValue,
      Char.reduceVal, UInt32.reduceToNat, Char.toNat_val] at h hspace
    omega

/-- Keys hold no space and no colon. -/
private lemma isKeyChar_ne {c : Char} (h : isKeyChar c = true) : c ≠ ' ' ∧ c ≠ ':' := by
  constructor
  · rintro rfl
    exact absurd h (by decide)
  · rintro rfl
    exact absurd h (by decide)

/-- A character of a key is still one with its capitals made small, and no capital then. -/
lemma toLower_of_isKeyChar {c : Char} (h : isKeyChar c = true) :
    ('a' ≤ c.toLower ∧ c.toLower ≤ 'z') ∨ ('0' ≤ c.toLower ∧ c.toLower ≤ '9') ∨
      c.toLower = '_' ∨ c.toLower = '-' := by
  rw [isKeyChar_iff] at h
  rw [Char.toLower]
  split
  · next hc =>
    left
    simp only [Char.le_def, UInt32.le_iff_toNat_le, UInt32.toNat_add, ge_iff_le, ↓Char.isValue,
      Char.reduceVal, UInt32.reduceToNat, Char.toNat_val, UInt32.reduceSub, Nat.reducePow] at hc ⊢
    omega
  · next hc =>
    simp only [Char.le_def] at *
    rcases h with h | h
    · exact absurd h hc
    · exact h

/-- A character of which the small letter is one of a key is one itself. -/
lemma isKeyChar_of_toLower {c : Char} (h : isKeyChar c.toLower = true) : isKeyChar c = true := by
  rw [Char.toLower] at h
  split at h
  · next hc =>
    rw [isKeyChar_iff]
    left
    simpa [Char.le_def] using hc
  · exact h

/-- A key of at least one character, behind at most three spaces, and a value behind a colon. -/
def IsKeyLine (line key value : Text) : Prop :=
  ∃ indent rest, indent ≤ 3 ∧ line = List.replicate indent ' ' ++ (key ++ ':' :: rest) ∧ key ≠ [] ∧
    (∀ c ∈ key, isKeyChar c = true) ∧ value = Text.trim rest

/-- Spaces are white space. -/
lemma forall_spaces (n : Nat) : ∀ c ∈ List.replicate n ' ', Text.isWhiteSpace c = true := by
  intro c hc
  rw [List.eq_of_mem_replicate hc]
  decide

/-- Spaces in front of another character are told from what follows. -/
private lemma span_spaces {c : Char} (hc : c ≠ ' ') (indent : Nat) (t : Text) :
    (List.replicate indent ' ' ++ c :: t).takeWhile (· == ' ') = List.replicate indent ' ' ∧
      (List.replicate indent ' ' ++ c :: t).dropWhile (· == ' ') = c :: t := by
  induction indent with
  | zero => simp [hc]
  | succ indent ih => simpa [List.replicate_succ] using ih

/-- A key line is read as its key and its value.

**Proof sketch.** From left to right the tests of `keyLine?` are taken apart: the spaces counted,
the part in front of the first colon, and its characters. From right to left a proper key starts
with no space, so the spaces are counted right, and holds no colon, so the first colon is the one
behind it. -/
private lemma keyLine?_eq_some_iff {line key value : Text} :
    keyLine? line = some (key, value) ↔ IsKeyLine line key value := by
  constructor
  · intro h
    unfold keyLine? at h
    split at h
    · next hindent =>
      split at h
      · simp at h
      · next k rest hcolon =>
        split at h
        · next hkey =>
          obtain ⟨rfl, rfl⟩ : k = key ∧ Text.trim rest = value := by simpa using h
          simp only [Bool.and_eq_true, Bool.not_eq_true', List.isEmpty_eq_false_iff,
            List.all_eq_true] at hkey
          have hspaces : line.takeWhile (· == ' ') =
              List.replicate (line.takeWhile (· == ' ')).length ' ' :=
            List.eq_replicate_of_mem fun c hc => by simpa using List.mem_takeWhile_imp hc
          refine ⟨_, rest, hindent, ?_, hkey.1, hkey.2, rfl⟩
          rw [← hspaces]
          calc
            line = line.takeWhile (· == ' ') ++ line.dropWhile (· == ' ') :=
              List.takeWhile_append_dropWhile.symm
            _ = line.takeWhile (· == ' ') ++ (k ++ ':' :: rest) := by
              rw [← Text.append_of_breakOn hcolon]
              simp
        · simp at h
    · simp at h
  · rintro ⟨indent, rest, hindent, rfl, hne, hkey, rfl⟩
    obtain ⟨c, k, rfl⟩ := List.exists_cons_of_ne_nil hne
    have hcolon : ':' ∉ c :: k := fun hmem => (isKeyChar_ne (hkey _ hmem)).2 rfl
    obtain ⟨htake, hdrop⟩ :=
      span_spaces (isKeyChar_ne (hkey c List.mem_cons_self)).1 indent (k ++ ':' :: rest)
    have hall : (c :: k).all isKeyChar = true := List.all_eq_true.2 hkey
    rw [keyLine?, List.cons_append, htake, hdrop, List.length_replicate, if_pos hindent,
      ← List.cons_append, Text.breakOn_singleton hcolon]
    simp only [hall, List.isEmpty_cons, Bool.not_false, Bool.and_self, if_true]

/-- A key line with white space behind it gives the same value. -/
lemma IsKeyLine.append {line key value ending : Text} (h : IsKeyLine line key value)
    (hending : ∀ c ∈ ending, Text.isWhiteSpace c = true) :
    IsKeyLine (line ++ ending) key value := by
  obtain ⟨indent, rest, hindent, rfl, hne, hkey, rfl⟩ := h
  refine ⟨indent, rest ++ ending, hindent, ?_, hne, hkey, (Text.trim_append_right hending _).symm⟩
  simp

/-- A line is a key line whatever white space ends it. -/
private lemma isKeyLine_content_iff {line key value : Text} :
    IsKeyLine (content line) key value ↔ IsKeyLine line key value := by
  constructor
  · intro h
    obtain ⟨ending, hending, happend⟩ := exists_content_append line
    rw [happend]
    exact h.append hending
  · rintro ⟨indent, rest, hindent, rfl, hne, hkey, rfl⟩
    refine ⟨indent, content rest, hindent, ?_, hne, hkey, (trim_content rest).symm⟩
    rw [← List.append_assoc, content_append_cons (by decide) (by decide), List.append_assoc]

/-- A key line is no fence: its key ends at a colon, and holds no white space.

**Proof sketch.** A line with spaces in front is no fence. Otherwise the colon stands among the
marks, right behind them, or behind more of the key; none of this is a mark, nor white space, which
is all that a fence has behind its marks. -/
lemma IsKeyLine.not_isFence {line key value : Text} (h : IsKeyLine line key value) {mark : Char}
    (hspace : mark ≠ ' ') (hcolon : mark ≠ ':') : ¬IsFence mark line := by
  obtain ⟨indent, rest, -, rfl, -, hkey, -⟩ := h
  rintro ⟨rest', hline, hrest'⟩
  have hnot : Text.isWhiteSpace ':' = false := by decide
  cases indent with
  | succ indent =>
    rw [List.replicate_succ, List.cons_append] at hline
    exact hspace (List.cons.inj hline).1.symm
  | zero =>
    -- either the colon is within the marks or right behind them, or the key goes on there
    have happend : key ++ ':' :: rest = [mark, mark, mark] ++ rest' := hline
    rcases List.append_eq_append_iff.1 happend with ⟨more, hmarks, hrest⟩ | ⟨more, rfl, rfl⟩
    · cases more with
      | nil =>
        obtain rfl : ':' :: rest = rest' := hrest
        simp [hnot] at hrest'
      | cons c more =>
        obtain rfl : ':' = c := (List.cons.inj hrest).1
        have hmem : ':' ∈ [mark, mark, mark] := by simp [hmarks]
        exact hcolon (by simpa using hmem : ':' = mark).symm
    · cases more with
      | nil => simp [hnot] at hrest'
      | cons d more =>
        have hd : Text.isWhiteSpace d = false := isWhiteSpace_of_isKeyChar (hkey d (by simp))
        simp [hd] at hrest'

/-- A key line is no terminator. -/
private lemma IsKeyLine.not_isTerminator {line key value : Text} (h : IsKeyLine line key value) :
    ¬IsTerminator line := by
  rintro (hblank | hfence | hfence)
  · obtain ⟨indent, rest, -, rfl, -, -, -⟩ := h
    have hcolon : Text.isWhiteSpace ':' = true := List.all_eq_true.1 hblank ':' (by simp)
    exact absurd hcolon (by decide)
  · exact h.not_isFence (by decide) (by decide) hfence
  · exact h.not_isFence (by decide) (by decide) hfence

/-! ## Continuations -/

/-- Four spaces at least, and a value that is not empty. -/
def IsContinuation (line value : Text) : Prop :=
  ∃ rest, line = List.replicate 4 ' ' ++ rest ∧ value = Text.trim rest ∧ value ≠ []

/-- A continuation with white space behind it gives the same value. -/
lemma IsContinuation.append {line value ending : Text} (h : IsContinuation line value)
    (hending : ∀ c ∈ ending, Text.isWhiteSpace c = true) :
    IsContinuation (line ++ ending) value := by
  obtain ⟨rest, rfl, rfl, hne⟩ := h
  exact ⟨rest ++ ending, List.append_assoc _ _ _, (Text.trim_append_right hending _).symm, hne⟩

/-- A line indented by four spaces is no key line. -/
private lemma not_isKeyLine_of_spaces {rest key value : Text} :
    ¬IsKeyLine (List.replicate 4 ' ' ++ rest) key value := by
  rintro ⟨indent, rest', hindent, hline, hne, hkey, -⟩
  obtain ⟨c, k, rfl⟩ := List.exists_cons_of_ne_nil hne
  -- the first character of the key is one of the four spaces
  have hspace : (List.replicate 4 ' ' ++ rest)[indent]? = some ' ' := by
    rw [List.getElem?_append_left (by simpa using Nat.lt_succ_of_le hindent),
      List.getElem?_replicate, if_pos (Nat.lt_succ_of_le hindent)]
  rw [hline, List.getElem?_append_right (by simp)] at hspace
  exact (isKeyChar_ne (hkey c List.mem_cons_self)).1 (by simpa using hspace)

/-- A continuation is no terminator. -/
private lemma IsContinuation.not_isTerminator {line value : Text} (h : IsContinuation line value) :
    ¬IsTerminator line := by
  obtain ⟨rest, rfl, rfl, hne⟩ := h
  rintro (hblank | ⟨rest', hline, -⟩ | ⟨rest', hline, -⟩)
  · refine hne (Text.trim_eq_nil_iff.2 (List.all_eq_true.2 fun c hc => ?_))
    exact List.all_eq_true.1 hblank c (List.mem_append_right _ hc)
  · exact absurd (List.cons.inj hline).1 (by decide)
  · exact absurd (List.cons.inj hline).1 (by decide)

/-- A line indented by four spaces that is not blank is a continuation. -/
private lemma isContinuation_of_spaces {rest : Text}
    (h : Text.isBlank (List.replicate 4 ' ' ++ rest) = false) :
    IsContinuation (List.replicate 4 ' ' ++ rest) (Text.trim rest) := by
  refine ⟨rest, rfl, rfl, fun hnil => ?_⟩
  have hrest : ∀ c ∈ rest, Text.isWhiteSpace c = true :=
    List.all_eq_true.1 (Text.trim_eq_nil_iff.1 hnil)
  rw [Text.isBlank, List.all_eq_true.2 (List.forall_mem_append.2 ⟨forall_spaces 4, hrest⟩)] at h
  exact absurd h (by simp)

/-- A line indented by four spaces gives what is left of it without white space around. -/
private lemma continuationLine?_content {rest : Text} :
    continuationLine? (content (List.replicate 4 ' ' ++ rest)) = some (Text.trim rest) := by
  have hcontent : content (List.replicate 4 ' ' ++ rest) = List.replicate 4 ' ' ++ content rest :=
    content_append_cons (by decide) (by decide) [' ', ' ', ' '] rest
  have hdrop : Text.dropPrefix? [' ', ' ', ' ', ' '] (List.replicate 4 ' ' ++ content rest) =
      some (content rest) := Text.dropPrefix?_eq_some_iff.2 rfl
  rw [hcontent, continuationLine?, hdrop, Text.trim_append_left (forall_spaces 4), trim_content]
  rfl

/-! ## What a line means -/

/-- At a terminator a block ends. -/
lemma Line.of_terminator {line : Text} (h : IsTerminator line) : Line.of line = .terminator := by
  unfold Line.of
  exact if_pos (isTerminator_content_iff.2 h)

/-- A key line gives a value for its key, in small letters. -/
lemma Line.of_keyLine {line key value : Text} (h : IsKeyLine line key value) :
    Line.of line = .entry (Text.toLowerAscii key) value := by
  unfold Line.of
  dsimp only
  rw [if_neg (isTerminator_content_iff.not.2 h.not_isTerminator),
    keyLine?_eq_some_iff.2 (isKeyLine_content_iff.2 h)]

/-- A line that is no key line is not read as one. -/
private lemma keyLine?_content_eq_none {line : Text} (h : ∀ key value, ¬IsKeyLine line key value) :
    keyLine? (content line) = none := by
  cases hline : keyLine? (content line) with
  | none => rfl
  | some entry =>
    exact absurd (isKeyLine_content_iff.1 (keyLine?_eq_some_iff.1 hline)) (h entry.1 entry.2)

/-- A continuation gives a value. -/
lemma Line.of_continuation {line value : Text} (h : IsContinuation line value) :
    Line.of line = .continuation value := by
  have hterminator := h.not_isTerminator
  obtain ⟨rest, rfl, rfl, -⟩ := h
  unfold Line.of
  dsimp only
  rw [if_neg (isTerminator_content_iff.not.2 hterminator),
    keyLine?_content_eq_none fun _ _ => not_isKeyLine_of_spaces, continuationLine?_content]

/-- A line of no form starts the body.

**Proof sketch.** The tests are made on the line without its end. The end is white space, so it
changes nothing about a terminator or a key line; and four spaces at the start of what is left are
at the start of the line. -/
lemma Line.of_body {line : Text} (hterminator : ¬IsTerminator line)
    (hkey : ∀ key value, ¬IsKeyLine line key value) (hmore : ∀ value, ¬IsContinuation line value) :
    Line.of line = .body := by
  unfold Line.of
  dsimp only
  rw [if_neg (isTerminator_content_iff.not.2 hterminator), keyLine?_content_eq_none hkey]
  cases hline : continuationLine? (content line) with
  | none => rfl
  | some value =>
    -- what is left of the line starts with four spaces, so the line does
    unfold continuationLine? at hline
    split at hline
    · next hsome =>
      obtain ⟨rest, hrest⟩ := Option.isSome_iff_exists.1 hsome
      obtain ⟨ending, -, happend⟩ := exists_content_append line
      have hline' : line = List.replicate 4 ' ' ++ (rest ++ ending) := by
        rw [happend, Text.dropPrefix?_eq_some_iff.1 hrest]
        simp [List.replicate_succ]
      have hblank : Text.isBlank line = false :=
        Bool.eq_false_iff.2 fun hblank => hterminator (Or.inl hblank)
      rw [hline'] at hblank hmore
      exact absurd (isContinuation_of_spaces hblank) (hmore _)
    · simp at hline

end Frontmatter

end StaticSite
