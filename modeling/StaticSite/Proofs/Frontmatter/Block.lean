import Mathlib
import StaticSite.Page.Render
import StaticSite.Proofs.Frontmatter.Line
import StaticSite.Proofs.Frontmatter.Values
import StaticSite.Proofs.Text.Lines

set_option relaxedAutoImplicit false
set_option autoImplicit false

/-!
# How a document is taken apart

The lines of a document are, in this order: an opening fence, lines that give a value for a key, a
line at which the block ends, and the body. Any of them may be missing. The metadata is what the
lines of the second kind give, one value each, and nothing of the body is lost.

## Main definitions

* `StaticSite.Frontmatter.Gives` — lines of a block with the key and the value that each gives.
* `StaticSite.Frontmatter.Parts` — the lines of a document, taken apart.
* `StaticSite.Frontmatter.Parts.IsReadAs` — every line stands where lines of its form do.

## Main results

* `StaticSite.Frontmatter.exists_parts` — every document is taken apart by its form.
* `StaticSite.Frontmatter.split_sound` — and its metadata consists of proper keys and values.
* `StaticSite.Frontmatter.body_eq_document_iff` — when the body of a document without metadata is
  the whole document.
-/

namespace StaticSite.Frontmatter

/-! ## The lines of a block -/

/-- Lines of a block, each with the key and the value that it gives. The key in front of them, if
there is any, is the first argument: a continuation needs one. -/
inductive Gives : Option Text → List Text → List (Text × Text) → Prop where
  /-- No lines. -/
  | nil {current : Option Text} : Gives current [] []
  /-- A key line, and lines behind its key. -/
  | key {current : Option Text} {line key value : Text} {lines : List Text}
      {pairs : List (Text × Text)} (hline : IsKeyLine line key value)
      (hrest : Gives (some (Text.toLowerAscii key)) lines pairs) :
      Gives current (line :: lines) ((Text.toLowerAscii key, value) :: pairs)
  /-- A continuation, and lines behind the same key. -/
  | continuation {key line value : Text} {lines : List Text} {pairs : List (Text × Text)}
      (hline : IsContinuation line value) (hrest : Gives (some key) lines pairs) :
      Gives (some key) (line :: lines) ((key, value) :: pairs)

/-- Every line gives one value. -/
private lemma Gives.length_eq {current : Option Text} {lines : List Text}
    {pairs : List (Text × Text)} (h : Gives current lines pairs) : pairs.length = lines.length := by
  induction h with
  | nil => rfl
  | key hline hrest ih => rw [List.length_cons, List.length_cons, ih]
  | continuation hline hrest ih => rw [List.length_cons, List.length_cons, ih]

/-! ## Reading line by line -/

/-- At a terminator the block ends, and the terminator belongs to it. -/
lemma readLines_terminator {line : Text} (h : IsTerminator line) (m : Frontmatter)
    (current : Option Text) (rest : List Text) :
    readLines m current (line :: rest) = (m, rest) := by
  rw [readLines, Line.of_terminator h]

/-- A key line adds a value for its key. -/
lemma readLines_keyLine {line key value : Text} (h : IsKeyLine line key value) (m : Frontmatter)
    (current : Option Text) (rest : List Text) :
    readLines m current (line :: rest) =
      readLines (m.add (Text.toLowerAscii key) value) (some (Text.toLowerAscii key)) rest := by
  rw [readLines, Line.of_keyLine h]

/-- A continuation adds a value for the key in front of it. -/
lemma readLines_continuation {line value : Text} (h : IsContinuation line value) (m : Frontmatter)
    (key : Text) (rest : List Text) :
    readLines m (some key) (line :: rest) = readLines (m.add key value) (some key) rest := by
  rw [readLines, Line.of_continuation h]

/-- A line of no form that is read at its place is the first one of the body. -/
structure StartsBody (hasKey : Prop) (line : Text) : Prop where
  /-- The block does not end at it. -/
  not_terminator : ¬IsTerminator line
  /-- It is no key line. -/
  not_keyLine : ∀ key value, ¬IsKeyLine line key value
  /-- It is no continuation behind a key. -/
  not_continuation : hasKey → ∀ value, ¬IsContinuation line value

/-- In front of a line of no form the block ends. -/
lemma readLines_body {current : Option Text} {line : Text} (h : StartsBody (current ≠ none) line)
    (m : Frontmatter) (rest : List Text) :
    readLines m current (line :: rest) = (m, line :: rest) := by
  by_cases hmore : ∃ value, IsContinuation line value
  · obtain ⟨value, hvalue⟩ := hmore
    cases current with
    | none => rw [readLines, Line.of_continuation hvalue]
    | some key => exact absurd hvalue (h.not_continuation (by simp) value)
  · rw [readLines, Line.of_body h.not_terminator h.not_keyLine (not_exists.1 hmore)]

/-- **Reading takes lines apart by their forms**: lines that give values, the line at which the
block ends if one belongs to it, and the rest.

**Proof sketch.** By induction on the lines, for every key in front of them. The first line is a
terminator, a key line, a continuation behind a key, or none of these; in the second case and the
third the lines behind it are taken apart behind its key. -/
theorem exists_readLines (m : Frontmatter) (current : Option Text) (lines : List Text) :
    ∃ (entries : List Text) (pairs : List (Text × Text)) (terminator : Option Text),
      lines = entries ++ (terminator.toList ++ (readLines m current lines).2) ∧
        (readLines m current lines).1 = m.addAll pairs ∧ Gives current entries pairs ∧
        (∀ line ∈ terminator, IsTerminator line) ∧
        (terminator = none → ∀ line ∈ (readLines m current lines).2.head?,
          StartsBody (current ≠ none ∨ entries ≠ []) line) := by
  induction lines generalizing m current with
  | nil => exact ⟨[], [], none, rfl, rfl, .nil, by simp, by simp [readLines]⟩
  | cons line rest ih =>
    by_cases hterminator : IsTerminator line
    · rw [readLines_terminator hterminator]
      exact ⟨[], [], some line, rfl, rfl, .nil, by simpa using hterminator, by simp⟩
    by_cases hkey : ∃ key value, IsKeyLine line key value
    · obtain ⟨key, value, hline⟩ := hkey
      obtain ⟨entries, pairs, terminator, happend, hm, hgives, hend, hbody⟩ :=
        ih (m.add (Text.toLowerAscii key) value) (some (Text.toLowerAscii key))
      rw [readLines_keyLine hline]
      refine ⟨line :: entries, (Text.toLowerAscii key, value) :: pairs, terminator, ?_, hm,
        .key hline hgives, hend, ?_⟩
      · rw [List.cons_append, ← happend]
      · simpa using hbody
    have hnot : ∀ key value, ¬IsKeyLine line key value := by simpa using hkey
    by_cases hmore : current ≠ none ∧ ∃ value, IsContinuation line value
    · obtain ⟨hcurrent, value, hline⟩ := hmore
      obtain ⟨key, rfl⟩ := Option.ne_none_iff_exists'.1 hcurrent
      obtain ⟨entries, pairs, terminator, happend, hm, hgives, hend, hbody⟩ :=
        ih (m.add key value) (some key)
      rw [readLines_continuation hline]
      refine ⟨line :: entries, (key, value) :: pairs, terminator, ?_, hm,
        .continuation hline hgives, hend, ?_⟩
      · rw [List.cons_append, ← happend]
      · simpa using hbody
    · have hstarts : StartsBody (current ≠ none) line :=
        ⟨hterminator, hnot, fun hcurrent value hline => hmore ⟨hcurrent, value, hline⟩⟩
      rw [readLines_body hstarts]
      exact ⟨[], [], none, rfl, rfl, .nil, by simp, by simpa using hstarts⟩

/-! ## The parts of a document -/

/-- The lines of a document, taken apart. -/
structure Parts where
  /-- The opening fence, if there is one. -/
  opening : Option Text
  /-- The lines that give values. -/
  entries : List Text
  /-- The line at which the block ends, if one belongs to it. -/
  terminator : Option Text
  /-- The lines of the body. -/
  body : List Text

/-- All lines, in order. -/
def Parts.lines (p : Parts) : List Text :=
  p.opening.toList ++ (p.entries ++ (p.terminator.toList ++ p.body))

/-- Every line stands where lines of its form do, and the entries give some values. -/
structure Parts.IsReadAs (p : Parts) (pairs : List (Text × Text)) : Prop where
  /-- The opening is a fence of hyphens. -/
  opening_isFence : ∀ line ∈ p.opening, IsFence '-' line
  /-- A fence of hyphens in the first line is the opening. -/
  first_not_isFence : p.opening = none → ∀ line ∈ p.lines.head?, ¬IsFence '-' line
  /-- The entries are key lines, and continuations behind them. -/
  gives : Gives none p.entries pairs
  /-- The block ends at a blank line or a fence. -/
  terminator_isTerminator : ∀ line ∈ p.terminator, IsTerminator line
  /-- If no such line belongs to it, it ends in front of a line of no form or with the document. -/
  startsBody : p.terminator = none → ∀ line ∈ p.body.head?, StartsBody (p.entries ≠ []) line

/-- A fence of hyphens in the first line is the opening. -/
lemma afterOpening_of_isFence {line : Text} (h : IsFence '-' line) (rest : List Text) :
    afterOpening (line :: rest) = rest :=
  if_pos ((isFence_content_iff (by decide) (by decide)).2 h)

/-- Without a fence in the first line there is no opening. -/
lemma afterOpening_of_not_isFence {lines : List Text}
    (h : ∀ line ∈ lines.head?, ¬IsFence '-' line) : afterOpening lines = lines := by
  cases lines with
  | nil => rfl
  | cons line rest =>
    exact if_neg ((isFence_content_iff (by decide) (by decide)).not.2 (h line rfl))

/-- The lines are the opening and those behind it. -/
private lemma exists_opening (lines : List Text) :
    ∃ opening : Option Text, lines = opening.toList ++ afterOpening lines ∧
      (∀ line ∈ opening, IsFence '-' line) ∧
      (opening = none → ∀ line ∈ lines.head?, ¬IsFence '-' line) := by
  by_cases h : ∃ line ∈ lines.head?, IsFence '-' line
  case neg =>
    have hnot : ∀ line ∈ lines.head?, ¬IsFence '-' line := by simpa using h
    exact ⟨none, (afterOpening_of_not_isFence hnot).symm, by simp, fun _ => hnot⟩
  case pos =>
    obtain ⟨line, hline, hfence⟩ := h
    obtain ⟨rest, rfl⟩ := List.head?_eq_some_iff.1 hline
    exact ⟨some line, by rw [afterOpening_of_isFence hfence]; rfl, by simpa using hfence, by simp⟩

/-- **Every document is taken apart by its form**, and its metadata is what the entries give.

**Proof sketch.** Reading takes the lines behind an opening fence apart (`exists_readLines`) and
leaves a suffix of all lines. Such lines, put together to the body, are its lines again
(`lines_flatten_of_suffix`). -/
theorem exists_parts (document : Text) :
    ∃ (p : Parts) (pairs : List (Text × Text)), p.lines = Text.lines document ∧
      p.body = Text.lines (split document).2 ∧ p.IsReadAs pairs ∧
      (split document).1 = empty.addAll pairs := by
  obtain ⟨opening, hopening, hfence, hfirst⟩ := exists_opening (Text.lines document)
  obtain ⟨entries, pairs, terminator, happend, hm, hgives, hend, hbody⟩ :=
    exists_readLines empty none (afterOpening (Text.lines document))
  have hsplit : split document =
      ((readLines empty none (afterOpening (Text.lines document))).1,
        (readLines empty none (afterOpening (Text.lines document))).2.flatten) := rfl
  rw [hsplit]
  generalize readLines empty none (afterOpening (Text.lines document)) = r at *
  obtain ⟨m, body⟩ := r
  have hlines : (⟨opening, entries, terminator, body⟩ : Parts).lines = Text.lines document := by
    rw [Parts.lines, ← happend, ← hopening]
  have hsuffix : body <:+ Text.lines document := by
    rw [← hlines]
    exact ⟨opening.toList ++ (entries ++ terminator.toList), by simp [Parts.lines]⟩
  refine ⟨⟨opening, entries, terminator, body⟩, pairs, hlines,
    (Text.lines_flatten_of_suffix hsuffix).symm,
      ⟨hfence, ?_, hgives, hend, by simpa using hbody⟩, hm⟩
  rw [hlines]
  exact hfirst

/-! ## Keys and values -/

/-- A key as it is read: small letters, digits, underscores and hyphens. -/
def IsKey (key : Text) : Prop :=
  key ≠ [] ∧ ∀ c ∈ key, ('a' ≤ c ∧ c ≤ 'z') ∨ ('0' ≤ c ∧ c ≤ '9') ∨ c = '_' ∨ c = '-'

/-- A value as it is read: on one line, without white space at its ends. -/
def IsValue (value : Text) : Prop := Text.trim value = value ∧ '\n' ∉ value

/-- The key of a key line is one as it is read. -/
private lemma IsKeyLine.isKey {line key value : Text} (h : IsKeyLine line key value) :
    IsKey (Text.toLowerAscii key) := by
  obtain ⟨indent, rest, -, -, hne, hkey, -⟩ := h
  refine ⟨by simpa [Text.toLowerAscii] using hne, fun c hc => ?_⟩
  obtain ⟨d, hd, rfl⟩ := List.mem_map.1 hc
  exact toLower_of_isKeyChar (hkey d hd)

/-- What is left of the end of a line is a value: the line feed is white space at its end. -/
private lemma isValue_trim {document line rest : Text} (hline : line ∈ Text.lines document)
    (h : rest <:+ line) : IsValue (Text.trim rest) := by
  refine ⟨Text.trim_trim rest, fun hfeed => ?_⟩
  obtain ⟨l, hl, rfl | rfl⟩ := Text.exists_of_mem_lines hline
  · exact hl (h.subset (Text.mem_of_mem_trim hfeed))
  · obtain rfl | ⟨r, rfl, hr⟩ := List.suffix_concat_iff.1 h
    · exact absurd hfeed (by decide)
    · have hspace : ∀ c ∈ ['\n'], Text.isWhiteSpace c = true :=
        List.forall_mem_singleton.2 (by decide)
      rw [Text.trim_append_right hspace] at hfeed
      exact hl (hr.subset (Text.mem_of_mem_trim hfeed))

/-- The lines of a document give keys and values as they are read. -/
private lemma Gives.isKey_isValue {document : Text} {current : Option Text} {lines : List Text}
    {pairs : List (Text × Text)} (h : Gives current lines pairs)
    (hcurrent : ∀ key ∈ current, IsKey key) (hlines : ∀ line ∈ lines, line ∈ Text.lines document) :
    ∀ p ∈ pairs, IsKey p.1 ∧ IsValue p.2 := by
  induction h with
  | nil => simp
  | @key _ line key value _ _ hline hrest ih =>
    obtain ⟨hmem, hmems⟩ := List.forall_mem_cons.1 hlines
    refine List.forall_mem_cons.2 ⟨⟨hline.isKey, ?_⟩, ih (by simpa using hline.isKey) hmems⟩
    obtain ⟨indent, rest, -, hline, -, -, rfl⟩ := hline
    refine isValue_trim hmem ⟨List.replicate indent ' ' ++ (key ++ [':']), ?_⟩
    rw [hline]
    simp
  | @continuation key line value _ _ hline hrest ih =>
    obtain ⟨hmem, hmems⟩ := List.forall_mem_cons.1 hlines
    refine List.forall_mem_cons.2 ⟨⟨hcurrent key rfl, ?_⟩, ih hcurrent hmems⟩
    obtain ⟨rest, rfl, rfl, -⟩ := hline
    exact isValue_trim hmem ⟨List.replicate 4 ' ', rfl⟩

/-- **What a document gives** are proper keys with proper values. -/
lemma isKey_of_contains {document key : Text} (h : (split document).1.contains key = true) :
    IsKey key ∧ ∀ value ∈ (split document).1.values key, IsValue value := by
  obtain ⟨p, pairs, hlines, -, hread, hm⟩ := exists_parts document
  have hpairs : ∀ q ∈ pairs, IsKey q.1 ∧ IsValue q.2 := by
    have hentries : ∀ line ∈ p.entries, line ∈ Text.lines document := fun line hline => by
      rw [← hlines]
      exact List.mem_append_right _ (List.mem_append_left _ hline)
    exact hread.gives.isKey_isValue (by simp) hentries
  have hvalues :
      (split document).1.values key = (pairs.filter fun q => q.1 = key).map Prod.snd := by
    rw [hm, values_addAll_empty]
  have hmem : ∀ value ∈ (split document).1.values key, (key, value) ∈ pairs := by
    rw [hvalues]
    simp
  refine ⟨?_, fun value hvalue => (hpairs _ (hmem value hvalue)).2⟩
  obtain ⟨value, hvalue⟩ := List.exists_mem_of_ne_nil _ (contains_iff.1 h)
  exact (hpairs _ (hmem value hvalue)).1

/-! ## Documents with metadata and without -/

/-- **A document is taken apart soundly.** Its lines are an opening fence, key lines and
continuations behind them, a line at which the block ends, and those of the body, each where lines
of its form stand. The metadata holds one value for each of the entries, in order, of a proper key
and proper itself; its look-ups agree; and no key takes the place of `CONTENT` or `NAV`.

**Proof sketch.** The parts are those of `exists_parts`, and joined in order they are the document.
The metadata is made by adding the values of the entries one by one, so what is known of one added
value holds of all: keys are proper and in small letters, and the look-ups agree. `CONTENT` and
`NAV` hold a capital letter, so no key hides them. -/
theorem split_sound (document : Text) :
    (split document).2 <:+ document ∧
      (∃ (p : Parts) (pairs : List (Text × Text)), p.lines = Text.lines document ∧
        p.body = Text.lines (split document).2 ∧ p.IsReadAs pairs ∧
        (∀ key, (split document).1.values key =
          (pairs.filter fun q => q.1 = key).map Prod.snd) ∧
        (split document).1.valueCount = p.entries.length) ∧
      (∀ key, (split document).1.contains key = true → IsKey key ∧
        (split document).1.values key ≠ [] ∧
        ∀ value ∈ (split document).1.values key, IsValue value) ∧
      (∀ key, (split document).1.first? key = ((split document).1.values key).head? ∧
        ((split document).1.contains key = true ↔ (split document).1.values key ≠ []) ∧
        (split document).1.contains key = ((split document).1.first? key).isSome) ∧
      (∀ html, Page.resolver (split document).1 (some html) Page.contentName = .value html) ∧
      ∀ content, Page.resolver (split document).1 content Navigation.placeholderName = .defer := by
  refine ⟨?_, ?_, fun key h => ?_, fun key => ?_, fun html => ?_, fun content => ?_⟩
  · obtain ⟨p, pairs, hlines, hbody, -, -⟩ := exists_parts document
    refine ⟨(p.opening.toList ++ (p.entries ++ p.terminator.toList)).flatten, ?_⟩
    calc
      (p.opening.toList ++ (p.entries ++ p.terminator.toList)).flatten ++ (split document).2 =
          p.lines.flatten := by
        rw [← Text.flatten_lines (split document).2, ← hbody]
        simp [Parts.lines]
      _ = document := by rw [hlines, Text.flatten_lines]
  · obtain ⟨p, pairs, hlines, hbody, hread, hm⟩ := exists_parts document
    refine ⟨p, pairs, hlines, hbody, hread, fun key => ?_, ?_⟩
    · rw [hm, values_addAll_empty]
    · rw [hm, valueCount_addAll_empty, hread.gives.length_eq]
  · obtain ⟨hkey, hvalues⟩ := isKey_of_contains h
    exact ⟨hkey, contains_iff.1 h, hvalues⟩
  · exact ⟨first?_eq_head? _ key, contains_iff, contains_eq_isSome _ key⟩
  · have hnone : (split document).1.first? Page.contentName = none :=
      first?_of_capital (hasSmallKeys_split document) ⟨'C', by decide, by decide⟩
    unfold Page.resolver
    rw [hnone]
    exact if_pos rfl
  · have hnone : (split document).1.first? Navigation.placeholderName = none :=
      first?_of_capital (hasSmallKeys_split document) ⟨'N', by decide, by decide⟩
    unfold Page.resolver
    rw [hnone]
    cases content with
    | none => exact if_pos rfl
    | some html => exact (if_neg (by decide)).trans (if_pos rfl)

/-- A document without metadata has no entries. -/
private lemma exists_parts_of_isEmpty {document : Text} (h : (split document).1.isEmpty = true) :
    ∃ p : Parts, p.lines = Text.lines document ∧ p.body = Text.lines (split document).2 ∧
      p.entries = [] ∧ p.IsReadAs [] := by
  obtain ⟨p, pairs, hlines, hbody, hread, hm⟩ := exists_parts document
  rw [hm] at h
  obtain rfl := eq_nil_of_isEmpty h
  exact ⟨p, hlines, hbody, List.length_eq_zero_iff.1 hread.gives.length_eq.symm, hread⟩

/-- Without entries nothing but the body is there exactly if no line at the start ends the block.

**Proof sketch.** If the body is all lines, it starts with the first one, which then is no line
that ends a block. If the first line is no such line, it is neither an opening fence nor a
terminator, so neither is there. -/
private lemma Parts.IsReadAs.lines_eq_body_iff {p : Parts} {pairs : List (Text × Text)}
    (h : p.IsReadAs pairs) (hentries : p.entries = []) :
    p.body = p.lines ↔ ∀ line ∈ p.lines.head?, ¬IsTerminator line := by
  have hlines : p.lines = p.opening.toList ++ (p.terminator.toList ++ p.body) := by
    rw [Parts.lines, hentries]
    rfl
  constructor
  · intro hbody line hline hterminator
    have hlength : p.opening.toList = [] ∧ p.terminator.toList = [] := by
      have hcount := congrArg List.length hlines
      rw [← hbody, List.length_append, List.length_append] at hcount
      exact ⟨List.length_eq_zero_iff.1 (by omega), List.length_eq_zero_iff.1 (by omega)⟩
    rw [← hbody] at hline
    exact (h.startsBody (Option.toList_eq_nil_iff.1 hlength.2) line hline).not_terminator
      hterminator
  · intro hfirst
    cases hopening : p.opening with
    | some line =>
      rw [hlines, hopening] at hfirst
      exact absurd (Or.inr (Or.inl (h.opening_isFence line hopening))) (hfirst line rfl)
    | none =>
      cases hterminator : p.terminator with
      | some line =>
        rw [hlines, hopening, hterminator] at hfirst
        exact absurd (h.terminator_isTerminator line hterminator) (hfirst line rfl)
      | none => rw [hlines, hopening, hterminator]; rfl

/-- **When a document without metadata is its own body.** Its lines are an opening fence, a line at
which the block ends, and those of the body; of the first two there may be any. So the body is the
whole document exactly if the document does not start with a blank line or a fence.

**Proof sketch.** The parts of such a document hold no entries, so its lines are those of the body
behind an opening and a terminator. Neither is there exactly if the first line ends no block
(`lines_eq_body_iff`), and a text is its lines joined together. -/
theorem body_eq_document_iff {document : Text} (h : (split document).1.isEmpty = true) :
    (∃ p : Parts, p.lines = Text.lines document ∧ p.body = Text.lines (split document).2 ∧
        p.entries = [] ∧ p.IsReadAs []) ∧
      ((split document).2 = document ↔
        ∀ line ∈ (Text.lines document).head?, ¬IsTerminator line) := by
  obtain ⟨p, hlines, hbody, hentries, hread⟩ := exists_parts_of_isEmpty h
  refine ⟨⟨p, hlines, hbody, hentries, hread⟩, ?_⟩
  have hiff := hread.lines_eq_body_iff hentries
  rw [hlines, hbody] at hiff
  rw [← hiff]
  constructor
  · intro heq
    rw [heq]
  · intro heq
    rw [← Text.flatten_lines (split document).2, heq, Text.flatten_lines]

/-- Three dots in front of a text: the line is lost, though no key stands in the document. -/
theorem body_eq_document_iff_dots :
    (split "... and so on\nHello\n".toList).1.isEmpty = true ∧
      (split "... and so on\nHello\n".toList).2 = "Hello\n".toList ∧
      ¬∀ line ∈ (Text.lines "... and so on\nHello\n".toList).head?, ¬IsTerminator line := by
  have hempty : (split "... and so on\nHello\n".toList).1.isEmpty = true := by cbv
  have hbody : (split "... and so on\nHello\n".toList).2 = "Hello\n".toList := by cbv
  refine ⟨hempty, hbody, fun hfirst => ?_⟩
  have hwhole := (body_eq_document_iff hempty).2.2 hfirst
  rw [hbody] at hwhole
  exact absurd hwhole (by decide)

end StaticSite.Frontmatter
