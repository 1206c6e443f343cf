import Mathlib
import StaticSite.Markdown.Html
import StaticSite.Proofs.Markdown.MacroTokens

set_option relaxedAutoImplicit false
set_option autoImplicit false

/-!
# A macro alone on its line

A document of a single line with a macro is a paragraph, because no other block and no container
starts with a brace. So it becomes a macro between the tags of a paragraph, and Markdown can change
no more than the name of the macro.

## Main definitions

* `StaticSite.Markdown.IsLineEnding` — the end of a line, which the last line may lack.

## Main results

* `StaticSite.Markdown.ofText_macroLine` — a line with a macro is read as a paragraph.
* `StaticSite.Markdown.exists_toHtml_written` — what becomes of a macro, and exactly when its name
  stays the same.
-/

namespace StaticSite.Markdown

/-! ## Blocks that do not start with a brace -/

section Brace

variable (ext : Extensions) (t : Text)

/-- There is no white space in front of a brace. -/
private lemma skip_brace : (Cursor.ofText ('{' :: t)).skip 4 = (4, Cursor.ofText ('{' :: t)) := by
  simp [Cursor.skip, Cursor.ofText, Cursor.skipFrom]

/-- A brace opens no container. -/
private lemma openContainers_brace (n : Nat) (o : Outline) :
    Outline.openContainers ext (n + 1) o (Cursor.ofText ('{' :: t)) =
      (o, .block (Cursor.ofText ('{' :: t))) := by
  have hnote : (o.setting ext).footnoteStart? false ('{' :: t) = none := by
    simp [Setting.footnoteStart?, footnoteLabel?]
  have hmarker : ListMarker.of? ('{' :: t) = none := by
    simp [ListMarker.of?]
  have hrest : (Cursor.ofText ('{' :: t)).rest = '{' :: t := rfl
  rw [Outline.openContainers, skip_brace]
  simp only [hrest, hnote, hmarker, OfNat.ofNat_ne_zero, if_false]
  rfl

/-- A brace starts no block but a paragraph.

**Proof sketch.** Every kind of block that is tried before a paragraph starts with another
character than a brace, and so does a definition of a link. -/
private lemma readLeaf_brace (limit : Nat) :
    Outline.readLeaf ext (limit + 1) Outline.empty (Cursor.ofText ('{' :: t)) =
      Outline.readParagraph ext (limit + 1) none Outline.empty ('{' :: t) := by
  have hblank : afterBlankLine? ('{' :: t) = none := by
    simp [afterBlankLine?, isLineSpace, afterEnding?]
  have hfinish : Outline.empty.finishList = Outline.empty := rfl
  have htag : TagReader.tag? none (lineText ('{' :: t)).length ('{' :: t) = none := by
    simp [TagReader.tag?, TagReader.readOne?]
  have hhtml : htmlBlockStart? ('{' :: t) = none := by
    rw [htmlBlockStart?, htag]
    rfl
  have hbreak : isThematicBreak ('{' :: t) = false := by
    simp [isThematicBreak]
  have hheading : headingLevel? ('{' :: t) = none := by
    simp [headingLevel?]
  have hfence : Fence.opening? ('{' :: t) = none := by
    simp [Fence.opening?]
  have hdefinition : ∀ s : Setting, s.definition? (limit + 1) ('{' :: t) = none := fun s => by
    simp [Setting.definition?, linkLabel?]
  have hrest : (Cursor.ofText ('{' :: t)).rest = '{' :: t := rfl
  rw [Outline.readLeaf, hrest, hblank, hfinish, skip_brace]
  simp only [hrest, hhtml, hbreak, hheading, hfence, OfNat.ofNat_ne_zero, if_false,
    Bool.false_eq_true, Outline.readText, hdefinition]

end Brace

/-! ## The line as a paragraph -/

/-- The end of a line, which the last line of a document may lack. -/
def IsLineEnding (e : Text) : Prop := e = [] ∨ e = ['\n']

section Line

variable (ext : Extensions) {u e : Text} (hu : IsMacroLine u) (he : IsLineEnding e)

include hu he in
/-- The line is told from its end. -/
private lemma splitLine_macroLine : splitLine (u ++ e) = (u, e, []) := by
  have hends : ∀ c ∈ u, (!isLineEnd c) = true := fun c hc => by
    have hchar := hu.chars c hc
    simp [isLineEnd, ne_of_isMacroChar hchar (d := '\n') rfl,
      ne_of_isMacroChar hchar (d := '\r') rfl]
  have hline : lineText (u ++ e) = u := by
    rw [lineText, List.takeWhile_append_of_pos hends]
    rcases he with rfl | rfl <;> simp [isLineEnd]
  unfold splitLine
  rw [hline]
  rcases he with rfl | rfl <;> simp

/-- There are no columns without pipes. -/
private lemma headerColumns?_of_notMem {t : Text} (h : '|' ∉ t) (paired : Bool) :
    Table.headerColumns? paired t = none := by
  have hborders : ∀ escaped, Table.borders paired escaped t = (0, none) := by
    induction t with
    | nil => exact fun _ => rfl
    | cons c t ih =>
      rw [List.mem_cons, not_or] at h
      intro escaped
      rw [Table.borders, ih h.2, if_neg fun hc => h.1 hc.1.symm]
  rw [Table.headerColumns?, hborders]

include hu he in
/-- The line is no header of a table. -/
private lemma tableStart?_macroLine (s : Setting) : s.tableStart? true (u ++ e) = none := by
  have hpipe : '|' ∉ u := fun hmem => ne_of_isMacroChar (hu.chars _ hmem) (d := '|') rfl rfl
  unfold Setting.tableStart?
  rw [splitLine_macroLine hu he]
  split
  · rcases he with rfl | rfl
    · rfl
    · simp only [headerColumns?_of_notMem hpipe]
  · rfl

/-- A paragraph does not go on at the end of a document. -/
private lemma paragraphLines_nil (limit : Nat) :
    (⟨ext, []⟩ : Setting).paragraphLines limit [] = ([], none, []) := by
  cases limit with
  | zero => rfl
  | succ limit =>
    simp [Setting.paragraphLines, Setting.enter, Margin.enter, Cursor.ofText, Cursor.skip,
      Cursor.skipFrom, Cursor.skipAll, Cursor.atEnd, underline?]

include hu he in
/-- The line is a paragraph, and the document ends behind it. -/
private lemma readParagraph_macroLine (limit : Nat) :
    Outline.readParagraph ext limit none Outline.empty (u ++ e) =
      (Outline.empty.add (.paragraph (lineContent u e)), []) := by
  have hsetting : Outline.empty.setting ext = ⟨ext, []⟩ := rfl
  unfold Outline.readParagraph
  rw [splitLine_macroLine hu he, hsetting]
  dsimp only
  rw [tableStart?_macroLine hu he, paragraphLines_nil]
  rfl

end Line

/-- **A document that is a line with a macro** is a paragraph.

**Proof sketch.** The line enters no container and opens none, since it starts with a brace. It is
read as a paragraph up to its end, and no block is left to read behind it. -/
theorem ofText_macroLine (ext : Extensions) {v e : Text} (hu : IsMacroLine ('{' :: v))
    (he : IsLineEnding e) :
    Outline.ofText ext ('{' :: v ++ e) =
      Outline.empty.add (.paragraph (lineContent ('{' :: v) e)) := by
  have hread : ∀ limit, Outline.readBlock ext (limit + 1) Outline.empty ('{' :: v ++ e) =
      (Outline.empty.add (.paragraph (lineContent ('{' :: v) e)), []) := by
    intro limit
    have henter : Outline.empty.enter ('{' :: (v ++ e)) =
        (0, Cursor.ofText ('{' :: (v ++ e))) := rfl
    have hleave : Outline.empty.leave 0 = Outline.empty := rfl
    rw [List.cons_append, Outline.readBlock, henter]
    dsimp only
    rw [hleave, openContainers_brace]
    dsimp only
    rw [readLeaf_brace, ← List.cons_append, readParagraph_macroLine ext hu he]
  have hend : ∀ limit n o, Outline.readBlocks ext limit n o [] = o := fun limit n o => by
    cases n <;> simp [Outline.readBlocks]
  have hclose : (Outline.empty.add (.paragraph (lineContent ('{' :: v) e))).close =
      Outline.empty.add (.paragraph (lineContent ('{' :: v) e)) := rfl
  unfold Outline.ofText
  dsimp only
  rw [Outline.readBlocks, if_neg (by simp), hread]
  dsimp only
  rw [hend, hclose]

/-! ## The paragraph as HTML -/

/-- A macro alone on its line is shown between the tags of a paragraph. -/
private lemma toHtml_macroLine {ext : Extensions} {v e t : Text} {is : List Inline}
    (hu : IsMacroLine ('{' :: v)) (he : IsLineEnding e)
    (his : ∀ budget, (parseInline ⟨ext, [], []⟩ budget (lineContent ('{' :: v) e)).2 = is)
    (ht : Shows is t) :
    toHtml ext ('{' :: v ++ e) = "<p>".toList ++ t ++ "</p>\n".toList := by
  have hparse : parse ext ('{' :: v ++ e) = [.paragraph is] := by
    unfold parse
    dsimp only
    rw [ofText_macroLine ext hu he, ← his]
    rfl
  have hfresh : (Output.empty.freshTag "<p>").text = "<p>".toList := rfl
  rw [toHtml, hparse]
  simp only [writeBlocks, writeBlock, Bool.false_eq_true, if_false, Output.text_tag, ht _, hfresh]

/-- The macro of a name, on a line of its own. -/
private lemma isMacroLine_written {name : Text} (h : ∀ c ∈ name, Frontmatter.isKeyChar c = true) :
    IsMacroLine ('{' :: '{' :: (name ++ ['}', '}'])) := by
  refine ⟨?_, fun c hc => ?_⟩
  · simp only [List.forall_mem_cons, List.forall_mem_append]
    refine ⟨by decide, by decide, fun c hc => ?_, by decide, by decide, by simp⟩
    rw [isMacroChar, h c hc]
    rfl
  · have hclosing : '{' :: '{' :: (name ++ ['}', '}']) =
        '{' :: '{' :: (name ++ ['}']) ++ ['}'] := by
      simp
    rw [hclosing, List.getLast?_concat] at hc
    exact (Option.some.inj hc).symm

/-- A text that is respelt between braces stands between them. -/
private lemma Respelt.of_written {name t : Text}
    (h : Respelt ('{' :: '{' :: (name ++ ['}', '}'])) t) :
    ∃ shown, t = '{' :: '{' :: (shown ++ ['}', '}']) ∧ Respelt name shown := by
  obtain ⟨opening, rest, rfl, hopening, hrest⟩ := h.of_append (t := ['{', '{'])
  obtain ⟨shown, closing, rfl, hshown, hclosing⟩ := hrest.of_append
  obtain rfl := hopening.eq_of_forall (by simp [IsSpelling])
  obtain rfl := hclosing.eq_of_forall (by simp [IsSpelling])
  exact ⟨shown, rfl, hshown⟩

/-- The name of a macro is shown as it is exactly if Markdown keeps it: otherwise there is a tag or
a dash in what is shown.

**Proof sketch.** The line is read as its text typeset and the runs of underscores in it that may
pair. If the name has no hyphens in a row and no two runs pair, it is shown as it is. If two runs
pair, a tag is shown; if hyphens are typeset, a dash is. -/
private lemma exists_shows_written (refs : References) {name : Text}
    (hname : ∀ c ∈ name, Frontmatter.isKeyChar c = true) (e : Text) :
    ∃ is shown, (∀ budget, parseInline refs budget (lineContent (Placeholder.written name) e) =
        (budget, is)) ∧
      Shows is (Placeholder.written shown) ∧ Respelt name shown ∧
      (KeepsName refs.extensions name → shown = name) ∧
      (¬KeepsName refs.extensions name → ∃ c ∈ shown, c = '<' ∨ IsDash c) := by
  obtain ⟨xs, hinline, hproper, hsource, hruns⟩ :=
    exists_parseInline refs (isMacroLine_written hname) (by simp) e
  rw [typeset_written] at hsource
  rw [runsFrom_written] at hruns
  obtain ⟨t, ht, hrespelt, hnone, hsome⟩ := exists_shows_pairRuns hproper
  rw [hsource] at hrespelt hnone
  rw [hruns, nonePairs_filter_iff] at hnone hsome
  obtain ⟨shown, rfl, hshown⟩ := hrespelt.of_written
  refine ⟨_, shown, hinline, ht, (respelt_typeset _ name).trans hshown, ?_, ?_⟩
  · rintro ⟨hhyphens, hpairs⟩
    obtain ⟨-, hkept⟩ := (typeset_eq_self_or refs.extensions name).resolve_right fun h =>
      h.1 hhyphens
    simpa [hkept] using hnone hpairs
  · intro hchanged
    rcases typeset_eq_self_or refs.extensions name with ⟨hhyphens, -⟩ | ⟨-, c, hc, hdash⟩
    · have htag := hsome fun hpairs => hchanged ⟨hhyphens, hpairs⟩
      exact ⟨'<', by simpa using htag, Or.inl rfl⟩
    · refine ⟨c, hshown.mem ?_ hc, Or.inr hdash⟩
      rcases hdash with rfl | rfl <;> simp [IsSpelling]

/-- **What becomes of a macro alone on its line**: it is a macro in a paragraph, and its name is the
same exactly if Markdown keeps it. Otherwise there is a tag or a dash in the name. -/
theorem exists_toHtml_written (ext : Extensions) {name e : Text}
    (hname : ∀ c ∈ name, Frontmatter.isKeyChar c = true) (he : IsLineEnding e) :
    ∃ shown, toHtml ext (Placeholder.written name ++ e) =
        "<p>".toList ++ Placeholder.written shown ++ "</p>\n".toList ∧
      '}' ∉ shown ∧ (KeepsName ext name → shown = name) ∧
      (¬KeepsName ext name → ∃ c ∈ shown, c = '<' ∨ IsDash c) := by
  obtain ⟨is, shown, hinline, hshows, hrespelt, hkept, hchanged⟩ :=
    exists_shows_written ⟨ext, [], []⟩ hname e
  have hparse : ∀ budget, (parseInline ⟨ext, [], []⟩ budget
      (lineContent ('{' :: '{' :: (name ++ ['}', '}'])) e)).2 = is :=
    fun budget => congrArg Prod.snd (hinline budget)
  refine ⟨shown, toHtml_macroLine (isMacroLine_written hname) he hparse hshows,
    hrespelt.notMem (.inr rfl) fun hbrace => ?_, hkept, hchanged⟩
  exact absurd (hname _ hbrace) (by decide)

end StaticSite.Markdown
