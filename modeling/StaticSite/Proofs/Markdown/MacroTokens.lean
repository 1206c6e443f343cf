import Mathlib
import StaticSite.Markdown.Inline
import StaticSite.Proofs.Frontmatter.Line
import StaticSite.Proofs.Markdown.MacroName

set_option relaxedAutoImplicit false
set_option autoImplicit false

/-!
# Cutting a macro into tokens

A line that holds the name of a macro between braces is read character by character. Whatever has
been read at some place of the line is stretches of text, in which hyphens in a row are dashes, and
the runs of underscores that open or close. One step of the reading keeps this, so the whole line is
such stretches in the end.

## Main definitions

* `StaticSite.Markdown.isMacroChar` — the characters of names, and braces.
* `StaticSite.Markdown.Lexer.Reads` — what the state of the cutting has read, and what is left.

## Main results

* `StaticSite.Markdown.Lexer.Reads.exists_step` — what one step reads.
* `StaticSite.Markdown.Lexer.Reads.readLine` — what is read of a line.
* `StaticSite.Markdown.exists_parseInline` — a line is read as stretches with its runs.
-/

namespace StaticSite.Markdown

/-! ## The characters of a macro -/

/-- The characters of names, and braces. -/
def isMacroChar (c : Char) : Bool := Frontmatter.isKeyChar c || c == '{' || c == '}'

section Chars

variable {c d : Char}

/-- The characters of a macro are visible characters of ASCII. -/
private lemma toNat_of_isMacroChar (h : isMacroChar c = true) :
    0x21 ≤ c.toNat ∧ c.toNat ≤ 0x7e := by
  rw [isMacroChar, Bool.or_eq_true, Bool.or_eq_true, Frontmatter.isKeyChar_iff, beq_iff_eq,
    beq_iff_eq] at h
  simp only [Char.le_def, UInt32.le_iff_toNat_le, Char.ext_iff, ← UInt32.toNat_inj, ↓Char.isValue,
    Char.reduceVal, UInt32.reduceToNat, Char.toNat_val] at h
  omega

/-- None of them is white space. -/
private lemma isWhiteSpace_of_isMacroChar (h : isMacroChar c = true) :
    Text.isWhiteSpace c = false := by
  rw [isMacroChar, Bool.or_eq_true, Bool.or_eq_true, beq_iff_eq, beq_iff_eq] at h
  rcases h with (h | rfl) | rfl
  · exact Frontmatter.isWhiteSpace_of_isKeyChar h
  · decide
  · decide

/-- They are punctuation unless they are letters or digits. -/
private lemma isPunctuation_of_isMacroChar (h : isMacroChar c = true) :
    Unicode.isPunctuation c = isBorder c := by
  obtain ⟨hlow, hhigh⟩ := toNat_of_isMacroChar h
  have hbounds : '!' ≤ c ∧ c ≤ '~' := by
    simp only [Char.le_def, UInt32.le_iff_toNat_le, ↓Char.isValue, Char.reduceVal,
      UInt32.reduceToNat, Char.toNat_val]
    omega
  rw [Unicode.isPunctuation, if_pos (by omega), Text.isAsciiPunctuation, isBorder]
  simp [hbounds]

/-- Between two of them, a run of underscores may open behind one that is no letter. -/
private lemma canOpen_underscore (hc : isMacroChar c = true) (hd : isMacroChar d = true) (n : Nat) :
    canOpen '_' n (some c) (some d) = isBorder c := by
  simp [canOpen, isWhiteSpace_of_isMacroChar hc, isWhiteSpace_of_isMacroChar hd,
    isPunctuation_of_isMacroChar hc]

/-- Between two of them, a run of underscores may close in front of one that is no letter. -/
private lemma canClose_underscore (hc : isMacroChar c = true) (hd : isMacroChar d = true)
    (n : Nat) :
    canClose '_' n (some c) (some d) = isBorder d := by
  simp [canClose, isWhiteSpace_of_isMacroChar hc, isWhiteSpace_of_isMacroChar hd,
    isPunctuation_of_isMacroChar hd]

/-- A character that is none of them is another one. -/
lemma ne_of_isMacroChar (hc : isMacroChar c = true) (hd : isMacroChar d = false) : c ≠ d := by
  rintro rfl
  rw [hc] at hd
  exact absurd hd (by decide)

end Chars

/-- Characters of a macro, the last of them a closing brace. -/
structure IsMacroLine (u : Text) : Prop where
  /-- All characters are those of a macro. -/
  chars : ∀ c ∈ u, isMacroChar c = true
  /-- No line ends otherwise. -/
  last : ∀ c ∈ u.getLast?, c = '}'

/-- What follows some characters of such a line is one. -/
private lemma IsMacroLine.of_append {f u : Text} (h : IsMacroLine (f ++ u)) : IsMacroLine u := by
  refine ⟨fun c hc => h.chars c (List.mem_append_right _ hc), fun c hc => h.last c ?_⟩
  rw [List.getLast?_append, Option.mem_def.1 hc]
  rfl

/-- A run of a character ends at another one. -/
private lemma exists_replicate_append {c d : Char} {u : Text} (hmem : d ∈ u) (hd : d ≠ c) :
    ∃ n a w, u = List.replicate n c ++ a :: w ∧ a ≠ c := by
  induction u with
  | nil => exact absurd hmem List.not_mem_nil
  | cons b u ih =>
    by_cases hb : b = c
    · subst hb
      obtain ⟨n, a, w, rfl, ha⟩ := ih ((List.mem_cons.1 hmem).resolve_left hd)
      exact ⟨n + 1, a, w, rfl, ha⟩
    · exact ⟨0, b, u, rfl, hb⟩

/-- A run of a character, other than the closing brace, ends within the line. -/
private lemma IsMacroLine.exists_run {c : Char} {u : Text} (h : IsMacroLine (c :: u))
    (hc : c ≠ '}') :
    ∃ n d w, c :: u = List.replicate (n + 1) c ++ d :: w ∧ d ≠ c ∧ isMacroChar d = true ∧
      IsMacroLine (d :: w) ∧ (d :: w).length ≤ u.length := by
  have hlast : '}' ∈ c :: u := by
    have heq := h.last _ (List.getLast_mem_getLast? (List.cons_ne_nil c u))
    rw [← heq]
    exact List.getLast_mem _
  obtain ⟨n, d, w, rfl, hd⟩ :=
    exists_replicate_append ((List.mem_cons.1 hlast).resolve_left hc.symm) hc.symm
  have hrest : IsMacroLine (List.replicate (n + 1) c ++ d :: w) := h
  exact ⟨n, d, w, rfl, hd, hrest.chars d (by simp), hrest.of_append, by simp⟩

/-- Such a line does not end with white space. -/
private lemma IsMacroLine.countEnd_eq_zero {u : Text} (h : IsMacroLine u) :
    countEnd isLineSpace u = 0 := by
  rcases List.eq_nil_or_concat u with rfl | ⟨v, c, rfl⟩
  · rfl
  · obtain rfl : c = '}' := h.last c (by simp)
    simp [countEnd, isLineSpace]

/-! ## Tokens that are stretches -/

/-- A token is a stretch of a line. -/
inductive Token.IsStretch : Token → Stretch → Prop where
  /-- Text as it stands. -/
  | plain {start : Nat} {t behind : Text} : IsStretch ⟨.plain, start, t, behind⟩ (.text t)
  /-- Text for other characters. -/
  | replaced {start : Nat} {t u behind : Text} :
      IsStretch ⟨.replaced u, start, t, behind⟩ (.text u)
  /-- A run of underscores. -/
  | run {start : Nat} {behind : Text} {r : UnderscoreRun} (hr : 0 < r.length) :
      IsStretch ⟨.run '_' r.length r.opens r.closes, start, List.replicate r.length '_', behind⟩
        (.run r)

namespace Lexer

/-- The state of the cutting stands in front of the rest `u` of a line, behind which the text goes
on with `e`. What it has read is the text `t`, in which `rs` are the runs that open or close. -/
structure Reads (s : Lexer) (t : Text) (rs : List UnderscoreRun) (u e : Text) : Prop where
  /-- The content that is left. -/
  rest : s.rest = u ++ e
  /-- How much of it belongs to the line. -/
  left : s.left = u.length
  /-- No braces are counted without a dollar sign. -/
  braces : s.braces = Braces.empty
  /-- The tokens are stretches, and the text that is being read follows them. -/
  stretches : ∃ xs, List.Forall₂ Token.IsStretch s.tokens.reverse xs ∧
    xs.flatMap Stretch.source ++ s.plain.reverse = t ∧ runsOf xs = rs

namespace Reads

variable {s : Lexer} {t f u e : Text} {rs : List UnderscoreRun}

/-- Some characters may be read as text. -/
private lemma keep (h : s.Reads t rs (f ++ u) e) : (s.keep f.length).Reads (t ++ f) rs u e := by
  obtain ⟨xs, hxs, htext, hruns⟩ := h.stretches
  have htake : s.rest.take f.length = f := by rw [h.rest]; simp
  refine ⟨?_, ?_, h.braces, xs, hxs, ?_, hruns⟩
  · simp [Lexer.keep, pass, h.rest]
  · simp [Lexer.keep, pass, h.left]
  · simp [Lexer.keep, pass, htake, ← htext]

/-- The text that is being read may be made a token. -/
private lemma flush (h : s.Reads t rs u e) : s.flush.Reads t rs u e ∧ s.flush.plain = [] := by
  unfold Lexer.flush
  split
  · next hempty => exact ⟨h, List.isEmpty_iff.1 hempty⟩
  · obtain ⟨xs, hxs, htext, hruns⟩ := h.stretches
    refine ⟨⟨h.rest, h.left, h.braces, xs ++ [.text s.plain.reverse], ?_, ?_, ?_⟩, rfl⟩
    · rw [List.reverse_cons]
      exact List.rel_append hxs (.cons .plain .nil)
    · simpa [Stretch.source] using htext
    · rw [runsOf_append_singleton, hruns]
      exact List.append_nil rs

/-- Some characters may be made a token. -/
private lemma emit (h : s.Reads t rs (f ++ u) e) {k : TokenKind} {x : Stretch}
    (hx : ∀ start behind, Token.IsStretch ⟨k, start, f, behind⟩ x) :
    (s.emit k f.length).Reads (t ++ x.source) (rs ++ x.run?.toList) u e := by
  obtain ⟨⟨hrest, hleft, hbraces, xs, hxs, htext, hruns⟩, hplain⟩ := h.flush
  have htake : s.flush.rest.take f.length = f := by rw [hrest]; simp
  refine ⟨?_, ?_, hbraces, xs ++ [x], ?_, ?_, ?_⟩
  · simp [Lexer.emit, pass, hrest]
  · simp [Lexer.emit, pass, hleft]
  · simp only [Lexer.emit, pass, List.reverse_cons, htake]
    exact List.rel_append hxs (.cons (hx _ _) .nil)
  · rw [hplain] at htext
    simp [Lexer.emit, pass, hplain, ← htext]
  · rw [runsOf_append_singleton, hruns]

/-- The character behind which the cutting goes on. -/
private lemma previous_keep (h : s.Reads t rs (f ++ u) e) :
    (s.keep f.length).previous = f.getLast?.or s.previous := by
  simp [Lexer.keep, pass, h.rest]

/-- A token is no different there. -/
private lemma previous_emit (h : s.Reads t rs (f ++ u) e) (kind : TokenKind) :
    (s.emit kind f.length).previous = f.getLast?.or s.previous := by
  have hprevious : s.flush.previous = s.previous := by
    unfold Lexer.flush
    split <;> rfl
  simp [Lexer.emit, pass, h.flush.1.rest, hprevious]

/-! ### Steps -/

/-- A character that is no mark is read as text. -/
private lemma step_text {ext : Extensions} {inTable : Bool} {c : Char} (h : s.Reads t rs (c :: u) e)
    (hc : isMacroChar c = true) (hunderscore : c ≠ '_')
    (hhyphen : c = '-' → ext.smartPunctuation = false) :
    s.step ext inTable = s.keep 1 := by
  have hrest : s.rest = c :: (u ++ e) := h.rest
  have hne : ∀ d, isMacroChar d = false → c ≠ d := fun d => ne_of_isMacroChar hc
  have henter : s.braces.enter = s.braces := by rw [h.braces]; rfl
  have hleave : s.braces.leave = s.braces := by rw [h.braces]; rfl
  have hhyphen' : ¬(c = '-' ∧ ext.smartPunctuation = true) := fun ⟨hc, hsmart⟩ => by
    rw [hhyphen hc] at hsmart
    exact absurd hsmart (by decide)
  simp only [Lexer.step, hrest, extended, henter, hleave, hunderscore, hhyphen',
    hne '\\' rfl, hne '`' rfl, hne '*' rfl, hne '<' rfl, hne '&' rfl, hne '[' rfl, hne ']' rfl,
    hne '!' rfl, hne '~' rfl, hne '$' rfl, hne '"' rfl, hne '\'' rfl, hne '.' rfl, or_self,
    false_and, if_false]
  simp only [← hrest, ite_self]

/-- A run of underscores is a token if it may open or close, and text otherwise.

**Proof sketch.** The run is all underscores that stand in front of the next character. A run that
neither opens nor closes is kept as text, and any other is a token of its own. -/
private lemma step_underscores {ext : Extensions} {inTable : Bool} {n : Nat} {c d : Char}
    (h : s.Reads t rs (List.replicate (n + 1) '_' ++ d :: u) e) (hc : isMacroChar c = true)
    (hprevious : s.previous = some c) (hd : isMacroChar d = true) (hunderscore : d ≠ '_') :
    (s.step ext inTable).Reads (t ++ List.replicate (n + 1) '_')
      (rs ++ [⟨n + 1, isBorder c, isBorder d⟩].filter UnderscoreRun.isActive) (d :: u) e := by
  have hrest : s.rest = '_' :: (List.replicate n '_' ++ (d :: (u ++ e))) := by
    rw [h.rest, List.replicate_succ]
    simp
  have hrepeated : s.repeated '_' = n + 1 := by
    rw [repeated, hrest, List.takeWhile_cons_of_pos (by simp),
      List.takeWhile_append_of_pos (by simp)]
    simp [hunderscore]
  have hnext : (s.rest.drop (n + 1)).head? = some d := by
    rw [hrest]
    simp
  have hstep : s.step ext inTable = s.delimiters '_' := by simp [Lexer.step, hrest]
  have hactive : UnderscoreRun.isActive ⟨n + 1, isBorder c, isBorder d⟩ =
      (isBorder c || isBorder d) := rfl
  have hlength : (List.replicate (n + 1) '_').length = n + 1 := List.length_replicate
  rw [hstep, delimiters, hrepeated, hnext, hprevious, canOpen_underscore hc hd,
    canClose_underscore hc hd]
  cases hborder : isBorder c || isBorder d with
  | false =>
    have hkeep := h.keep
    rw [hlength] at hkeep
    simpa [hborder, hactive] using hkeep
  | true =>
    have hemit := h.emit (k := .run '_' (n + 1) (isBorder c) (isBorder d))
      (x := .run ⟨n + 1, isBorder c, isBorder d⟩) fun _ _ =>
        .run (r := ⟨n + 1, isBorder c, isBorder d⟩) (Nat.succ_pos n)
    rw [hlength] at hemit
    simpa [hborder, hactive, Stretch.source, Stretch.run?] using hemit

/-- A single hyphen is read as text, more of them are a token with dashes. The next character stands
behind a hyphen.

**Proof sketch.** The hyphens up to the next character are counted. One is kept as text, and more
are replaced by their dashes, which is how they are typeset. -/
private lemma step_hyphens {ext : Extensions} {inTable : Bool} {n : Nat} {d : Char}
    (h : s.Reads t rs (List.replicate (n + 1) '-' ++ d :: u) e)
    (hsmart : ext.smartPunctuation = true) (hd : d ≠ '-') :
    (s.step ext inTable).Reads (t ++ hyphenText (n + 1)) rs (d :: u) e ∧
      (s.step ext inTable).previous = some '-' := by
  have hrest : s.rest = '-' :: (List.replicate n '-' ++ (d :: (u ++ e))) := by
    rw [h.rest, List.replicate_succ]
    simp
  have hrepeated : s.repeated '-' = n + 1 := by
    rw [repeated, hrest, List.takeWhile_cons_of_pos (by simp),
      List.takeWhile_append_of_pos (by simp)]
    simp [hd]
  have hstep : s.step ext inTable = s.hyphens := by simp [Lexer.step, hrest, extended, hsmart]
  have hlength : (List.replicate (n + 1) '-').length = n + 1 := List.length_replicate
  have hlast : (List.replicate (n + 1) '-').getLast?.or s.previous = some '-' := by
    rw [List.getLast?_replicate]
    rfl
  rw [hstep, hyphens, hrepeated, hyphenText]
  cases n with
  | zero => exact ⟨h.keep, h.previous_keep⟩
  | succ n =>
    have hemit := h.emit (k := .replaced (dashes (n + 1 + 1))) (x := .text (dashes (n + 1 + 1)))
      fun _ _ => .replaced
    have hprevious := h.previous_emit (.replaced (dashes (n + 1 + 1)))
    rw [hlength] at hemit hprevious
    rw [hlast] at hprevious
    exact ⟨by simpa [Stretch.source, Stretch.run?] using hemit, by simpa using hprevious⟩

/-! ### The whole line -/

/-- In front of a run of underscores there is a character of a macro, which says whether the run may
open. -/
def Behind (s : Lexer) (opens : Bool) (u : Text) : Prop :=
  u.head? = some '_' → ∃ c, s.previous = some c ∧ isMacroChar c = true ∧ isBorder c = opens

/-- **One step** reads some characters of the line. What becomes of them is put behind the text, and
the runs among them that open or close behind the others.

**Proof sketch.** By the first character. Underscores, and hyphens where they may be dashes, are
read together up to the character behind them (`step_underscores`, `step_hyphens`); any other
character of a macro is read as text by itself. -/
lemma exists_step (ext : Extensions) (inTable : Bool) {opens : Bool} {c : Char} {v : Text}
    (h : s.Reads t rs (c :: v) e) (hu : IsMacroLine (c :: v)) (hbehind : Behind s opens (c :: v)) :
    ∃ t' rs' opens' w, IsMacroLine w ∧ w.length ≤ v.length ∧
      (s.step ext inTable).Reads (t ++ t') (rs ++ rs'.filter UnderscoreRun.isActive) w e ∧
      Behind (s.step ext inTable) opens' w ∧ typeset ext (c :: v) = t' ++ typeset ext w ∧
      runsFrom opens 0 (c :: v) = rs' ++ runsFrom opens' 0 w := by
  by_cases hunderscore : c = '_'
  · -- underscores are read up to the character behind them
    obtain ⟨a, hprevious, ha, rfl⟩ := hbehind (by rw [hunderscore]; rfl)
    obtain ⟨n, d, w, hline, hd, hdchar, hrest, hlength⟩ :=
      hu.exists_run (by rw [hunderscore]; decide)
    rw [hunderscore] at hline hd
    rw [hunderscore, hline] at h ⊢
    refine ⟨_, [⟨n + 1, isBorder a, isBorder d⟩], isBorder d, d :: w, hrest, hlength,
      h.step_underscores ha hprevious hdchar hd, fun heq => absurd (Option.some.inj heq) hd,
      typeset_append_of_notMem ext (by simp) _, ?_⟩
    rw [runsFrom_underscores_cons hd, runsFrom_cons hd]
    rfl
  by_cases hhyphen : c = '-' ∧ ext.smartPunctuation = true
  · -- so are hyphens where these may be dashes
    obtain ⟨hchar, hsmart⟩ := hhyphen
    obtain ⟨n, d, w, hline, hd, -, hrest, hlength⟩ := hu.exists_run (by rw [hchar]; decide)
    rw [hchar] at hline hd
    rw [hchar, hline] at h ⊢
    obtain ⟨hstep, hprevious⟩ : _ ∧ (s.step ext inTable).previous = some '-' :=
      h.step_hyphens hsmart hd
    exact ⟨_, [], true, d :: w, hrest, hlength, by simpa using hstep,
      fun _ => ⟨'-', hprevious, by decide, by decide⟩, typeset_hyphens_cons hsmart hd (n + 1) w,
      runsFrom_hyphens opens n (d :: w)⟩
  · have hchar : isMacroChar c = true := hu.chars c List.mem_cons_self
    have hplain : c = '-' → ext.smartPunctuation = false := fun heq =>
      Bool.eq_false_iff.2 fun hsmart => hhyphen ⟨heq, hsmart⟩
    have hkeep : (s.keep 1).Reads (t ++ [c]) rs v e := h.keep (f := [c])
    rw [h.step_text hchar hunderscore hplain]
    exact ⟨[c], [], isBorder c, v, hu.of_append (f := [c]), le_rfl, by simpa using hkeep,
      fun _ => ⟨c, h.previous_keep (f := [c]), hchar, rfl⟩, typeset_cons hplain v,
      runsFrom_cons hunderscore opens v⟩

/-- **What is read of a line**: its text as it is typeset, and the runs in it that open or close.

**Proof sketch.** By induction on the fuel, of which the line has enough: each step reads a
character at least, and what it reads is typeset in front of the rest (`exists_step`). -/
theorem readLine {ext : Extensions} {inTable : Bool} (fuel : Nat) {opens : Bool}
    (h : s.Reads t rs u e) (hu : IsMacroLine u) (hfuel : u.length ≤ fuel)
    (hbehind : Behind s opens u) :
    (readLine ext inTable fuel s).Reads (t ++ typeset ext u)
      (rs ++ (runsFrom opens 0 u).filter UnderscoreRun.isActive) [] e := by
  induction fuel generalizing s t rs u opens with
  | zero =>
    obtain rfl := List.length_eq_zero_iff.1 (Nat.le_zero.1 hfuel)
    simpa [Lexer.readLine, typeset, dashedFrom, hyphenText, runsFrom] using h
  | succ fuel ih =>
    cases u with
    | nil => simpa [Lexer.readLine, h.left, typeset, dashedFrom, hyphenText, runsFrom] using h
    | cons c v =>
      obtain ⟨t', rs', opens', w, hw, hlength, hstep, hnext, htext, hruns⟩ :=
        h.exists_step ext inTable hu hbehind
      have hread : Lexer.readLine ext inTable (fuel + 1) s =
          Lexer.readLine ext inTable fuel (s.step ext inTable) := by
        rw [Lexer.readLine, if_neg (by simp [h.left])]
      rw [List.length_cons] at hfuel
      rw [hread, htext, hruns, List.filter_append, ← List.append_assoc, ← List.append_assoc]
      exact ih hstep hw (by omega) hnext

end Reads

/-- Without white space to drop, the text at the end of the last line is made a token as it
stands. -/
private lemma flushTrimmed_zero (s : Lexer) : s.flushTrimmed 0 = s.flush := by
  obtain ⟨_, plain, _, _, _, _, _⟩ := s
  cases plain <;> simp [flushTrimmed, flush]

end Lexer

/-! ## Inline content -/

/-- The content of a paragraph with a single line. -/
def lineContent (u e : Text) : Content := .ofLines none [] [⟨[], u, e⟩]

/-- The tokens of a line are its stretches.

**Proof sketch.** The line is read from its start, with nothing read before, by `readLine`; nothing
is left of it, and there is no white space at its end to be trimmed. -/
private lemma exists_tokens (ext : Extensions) {u : Text} (hu : IsMacroLine u)
    (hhead : u.head? ≠ some '_') (e : Text) :
    ∃ xs, List.Forall₂ Token.IsStretch ((lineContent u e).tokens ext) xs ∧
      xs.flatMap Stretch.source = typeset ext u ∧
      runsOf xs = (runsFrom true 0 u).filter UnderscoreRun.isActive := by
  let s : Lexer := { Lexer.start (u ++ e) with left := u.length }
  have hstart : s.Reads [] [] u e := ⟨rfl, rfl, rfl, [], .nil, rfl, rfl⟩
  have hbehind : Lexer.Reads.Behind s true u := fun h => absurd h hhead
  have hread : (Lexer.readLine ext false u.length s).Reads ([] ++ typeset ext u)
      ([] ++ (runsFrom true 0 u).filter UnderscoreRun.isActive) [] e :=
    hstart.readLine u.length hu le_rfl hbehind
  have htokens : (lineContent u e).tokens ext =
      (Lexer.readLine ext false u.length s).flush.tokens.reverse := by
    rw [← Lexer.flushTrimmed_zero, ← hu.countEnd_eq_zero]
    simp [lineContent, Content.tokens, Content.ofLines, Content.source, SourceLine.source,
      Lexer.readLines, Lexer.pass, s, Lexer.start]
  obtain ⟨⟨-, -, -, xs, hxs, htext, hruns⟩, hplain⟩ := hread.flush
  rw [htokens]
  exact ⟨xs, hxs, by simpa [hplain] using htext, hruns⟩

/-- Stretches are read one by one. -/
private lemma Scanner.run_stretches (env : Surroundings) {ts : List Token} {xs : List Stretch}
    (h : List.Forall₂ Token.IsStretch ts xs) (s : Scanner) :
    Scanner.run env ts.length s ts =
      { s with nodes := (xs.map Stretch.node).reverse ++ s.nodes } := by
  induction h generalizing s with
  | nil => rfl
  | cons hx _ ih =>
    rw [List.length_cons, Scanner.run]
    cases hx <;> simp [Scanner.step, ih, Scanner.emitText, Scanner.emit, Stretch.node]

/-- There are no line breaks among stretches. -/
private lemma breakLines_stretches (xs : List Stretch) :
    breakLines (xs.map Stretch.node) = xs.map Stretch.node := by
  induction xs with
  | nil => rfl
  | cons x xs ih => cases x <;> simp_all [breakLines, Stretch.node, Node.ofText]

/-- There are no quotes among stretches. -/
private lemma curlQuotes_stretches (xs : List Stretch) :
    curlQuotes (xs.map Stretch.node) = xs.map Stretch.node := by
  unfold curlQuotes
  induction xs with
  | nil => rfl
  | cons x xs ih => cases x <;> simp_all [curl, Stretch.node, Node.ofText]

/-- The tokens of a line are text and runs that are not empty. -/
private lemma isProper_of_forall₂ {ts : List Token} {xs : List Stretch}
    (h : List.Forall₂ Token.IsStretch ts xs)
    (hplain : ∀ c ∈ xs.flatMap Stretch.source, c ≠ '&' ∧ c ≠ '<' ∧ c ≠ '>') :
    ∀ x ∈ xs, x.IsProper := by
  induction h with
  | nil => simp
  | cons hx _ ih =>
    rw [List.flatMap_cons, List.forall_mem_append] at hplain
    refine List.forall_mem_cons.2 ⟨?_, ih hplain.2⟩
    cases hx with
    | plain => exact hplain.1
    | replaced => exact hplain.1
    | run hr => exact hr

/-- **A line is read as stretches with its runs**, and these are paired.

**Proof sketch.** The stretches that are read go through the scanner as they are, since none of
them can open anything but emphasis, and what is left is to pair the runs. A stretch holds no
character of another markup, since typesetting brings in dashes only. -/
theorem exists_parseInline (refs : References) {u : Text} (hu : IsMacroLine u)
    (hhead : u.head? ≠ some '_') (e : Text) :
    ∃ xs, (∀ budget, parseInline refs budget (lineContent u e) =
        (budget, pairRuns (xs.map Stretch.node))) ∧
      (∀ x ∈ xs, x.IsProper) ∧ xs.flatMap Stretch.source = typeset refs.extensions u ∧
      runsOf xs = (runsFrom true 0 u).filter UnderscoreRun.isActive := by
  obtain ⟨xs, hxs, hsource, hruns⟩ := exists_tokens refs.extensions hu hhead e
  refine ⟨xs, fun budget => ?_, isProper_of_forall₂ hxs fun c hc => ?_, hsource, hruns⟩
  · unfold parseInline
    dsimp only
    rw [Scanner.run_stretches _ hxs]
    simp [lineContent, Content.ofLines, Scanner.finish, Scanner.flatten, Node.resolve,
      breakLines_stretches, curlQuotes_stretches]
  · rw [hsource] at hc
    rcases mem_typeset hc with rfl | (rfl | rfl) | hc
    · decide
    · decide
    · decide
    · exact ⟨ne_of_isMacroChar (hu.chars c hc) rfl, ne_of_isMacroChar (hu.chars c hc) rfl,
        ne_of_isMacroChar (hu.chars c hc) rfl⟩

end StaticSite.Markdown
