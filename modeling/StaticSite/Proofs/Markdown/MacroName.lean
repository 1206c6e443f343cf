import Mathlib
import StaticSite.Frontmatter.Document
import StaticSite.Markdown.Token.Lexer
import StaticSite.Proofs.Markdown.Pairing
import StaticSite.Proofs.Text.BreakOn

set_option relaxedAutoImplicit false
set_option autoImplicit false

/-!
# Names that Markdown keeps

The name of a macro is made of letters, digits, underscores and hyphens. Of these Markdown may
change runs of underscores, which are emphasis if two of them pair, and hyphens in a row, which are
dashes where typographic punctuation is on. Whether a run of underscores opens or closes emphasis
depends on the characters beside it, and the braces around a name are no letters.

## Main definitions

* `StaticSite.Markdown.runs` — the runs of underscores of a name between braces.
* `StaticSite.Markdown.typeset` — a text with the hyphens in it made dashes.
* `StaticSite.Markdown.KeepsName` — no run of the name pairs, and no hyphen becomes a dash.

## Main results

* `StaticSite.Markdown.typeset_eq_self_or` — a text is kept, or holds a dash.
* `StaticSite.Markdown.nonePairs_filter_iff` — runs that neither open nor close do not matter.
-/

namespace StaticSite.Markdown

/-! ## Runs of underscores -/

/-- Whether a run of underscores may open behind a character, and close in front of it. -/
def isBorder (c : Char) : Bool := !Text.isAsciiAlphanumeric c

/-- The runs of underscores of a text that ends at a brace, given how many underscores stand in
front of it, and whether a run of them may open. -/
def runsFrom (opens : Bool) : Nat → Text → List UnderscoreRun
  | n, [] => if n = 0 then [] else [⟨n, opens, true⟩]
  | n, c :: t =>
    if c = '_' then runsFrom opens (n + 1) t
    else if n = 0 then runsFrom (isBorder c) 0 t
    else ⟨n, opens, isBorder c⟩ :: runsFrom (isBorder c) 0 t

/-- The runs of underscores of a name between braces. -/
def runs (name : Text) : List UnderscoreRun := runsFrom true 0 name

/-- Underscores belong to the run in front of them. -/
private lemma runsFrom_underscores (opens : Bool) (m n : Nat) (t : Text) :
    runsFrom opens m (List.replicate n '_' ++ t) = runsFrom opens (m + n) t := by
  induction n generalizing m with
  | zero => rfl
  | succ n ih =>
    rw [List.replicate_succ, List.cons_append, runsFrom, if_pos rfl, ih, Nat.add_right_comm,
      Nat.add_assoc]

/-- Without underscores in front, the character there does not matter to what follows. -/
lemma runsFrom_cons {c : Char} (hc : c ≠ '_') (opens : Bool) (t : Text) :
    runsFrom opens 0 (c :: t) = runsFrom (isBorder c) 0 t := by
  rw [runsFrom, if_neg hc, if_pos rfl]

/-- A run ends at the next character. -/
lemma runsFrom_underscores_cons {c : Char} (hc : c ≠ '_') (opens : Bool) (n : Nat) (t : Text) :
    runsFrom opens 0 (List.replicate (n + 1) '_' ++ c :: t) =
      ⟨n + 1, opens, isBorder c⟩ :: runsFrom (isBorder c) 0 t := by
  rw [runsFrom_underscores, Nat.zero_add, runsFrom, if_neg hc, if_neg (Nat.succ_ne_zero n)]

/-- Behind hyphens a run of underscores may open. -/
lemma runsFrom_hyphens (opens : Bool) (n : Nat) (t : Text) :
    runsFrom opens 0 (List.replicate (n + 1) '-' ++ t) = runsFrom true 0 t := by
  induction n generalizing opens with
  | zero => exact runsFrom_cons (by decide) opens t
  | succ n ih =>
    rw [List.replicate_succ, List.cons_append, runsFrom_cons (by decide)]
    exact ih _

/-- The closing braces bring in no run. -/
private lemma runsFrom_append_closing (opens : Bool) (n : Nat) (t : Text) :
    runsFrom opens n (t ++ ['}', '}']) = runsFrom opens n t := by
  have hborder : isBorder '}' = true := by decide
  induction t generalizing opens n with
  | nil => by_cases hn : n = 0 <;> simp [runsFrom, hborder, hn]
  | cons c t ih => by_cases hc : c = '_' <;> by_cases hn : n = 0 <;> simp [runsFrom, hc, hn, ih]

/-- The runs of a name between braces are those of the name. -/
lemma runsFrom_written (opens : Bool) (name : Text) :
    runsFrom opens 0 ('{' :: '{' :: (name ++ ['}', '}'])) = runs name := by
  rw [runsFrom_cons (by decide), runsFrom_cons (by decide), runsFrom_append_closing]
  rfl

/-- Whether a run opens or closes. -/
def UnderscoreRun.isActive (r : UnderscoreRun) : Bool := r.opens || r.closes

/-- Runs that neither open nor close do not pair. -/
lemma nonePairs_filter_iff {rs : List UnderscoreRun} :
    NonePairs (rs.filter UnderscoreRun.isActive) ↔ NonePairs rs := by
  rw [NonePairs, NonePairs, List.pairwise_filter]
  refine List.Pairwise.iff fun r s => ⟨fun h => ?_, fun h _ _ => h⟩
  refine Bool.eq_false_iff.2 fun hpairs => ?_
  have hactive := hpairs
  rw [UnderscoreRun.pairsWith, Bool.and_eq_true, Bool.and_eq_true] at hactive
  obtain ⟨⟨hopens, hcloses⟩, -⟩ := hactive
  rw [h (by simp [UnderscoreRun.isActive, hopens]) (by simp [UnderscoreRun.isActive, hcloses])]
    at hpairs
  exact absurd hpairs (by decide)

/-! ## Hyphens -/

/-- What becomes of a number of hyphens in a row. -/
def hyphenText (n : Nat) : Text := if n ≤ 1 then List.replicate n '-' else Lexer.dashes n

/-- A text with the hyphens in it made dashes, given how many hyphens stand in front of it. -/
def dashedFrom : Nat → Text → Text
  | n, [] => hyphenText n
  | n, c :: t => if c = '-' then dashedFrom (n + 1) t else hyphenText n ++ c :: dashedFrom 0 t

/-- A text as it is typeset: with typographic punctuation, hyphens in a row are dashes. -/
def typeset (ext : Extensions) (t : Text) : Text :=
  if ext.smartPunctuation then dashedFrom 0 t else t

/-- Hyphens belong to those in front of them. -/
private lemma dashedFrom_replicate (m n : Nat) :
    dashedFrom m (List.replicate n '-') = hyphenText (m + n) := by
  induction n generalizing m with
  | zero => rfl
  | succ n ih =>
    rw [List.replicate_succ, dashedFrom, if_pos rfl, ih, Nat.add_right_comm, Nat.add_assoc]

/-- At another character the hyphens in front end. -/
private lemma dashedFrom_append_cons {c : Char} (hc : c ≠ '-') (n : Nat) (t s : Text) :
    dashedFrom n (t ++ c :: s) = dashedFrom n t ++ c :: dashedFrom 0 s := by
  induction t generalizing n with
  | nil => simp [dashedFrom, hc]
  | cons d t ih => by_cases hd : d = '-' <;> simp [dashedFrom, hd, ih]

/-- The dashes. -/
def IsDash (c : Char) : Prop := c = '—' ∨ c = '–'

/-- Two or more hyphens become at least one dash, and nothing else. -/
private lemma dashes_spec {n : Nat} (h : 2 ≤ n) : (∃ c ∈ Lexer.dashes n, IsDash c) ∧
    ∀ c ∈ Lexer.dashes n, IsDash c := by
  have hcounts : ∀ em en : Nat, 0 < em + en →
      (∃ c ∈ List.replicate em '—' ++ List.replicate en '–', IsDash c) ∧
        ∀ c ∈ List.replicate em '—' ++ List.replicate en '–', IsDash c := by
    intro em en hpos
    have hall : ∀ c ∈ List.replicate em '—' ++ List.replicate en '–', IsDash c := by
      simp only [List.mem_append, List.mem_replicate]
      rintro c (⟨-, rfl⟩ | ⟨-, rfl⟩)
      · exact Or.inl rfl
      · exact Or.inr rfl
    have hne : List.replicate em '—' ++ List.replicate en '–' ≠ [] := by
      rw [← List.length_pos_iff]
      simpa using hpos
    obtain ⟨c, hc⟩ := List.exists_mem_of_ne_nil _ hne
    exact ⟨⟨c, hc, hall c hc⟩, hall⟩
  unfold Lexer.dashes
  dsimp only
  split <;> [skip; split <;> [skip; split]] <;> exact hcounts _ _ (by omega)

/-- Hyphens in a row are respelt. -/
private lemma respelt_hyphenText (n : Nat) : Respelt (List.replicate n '-') (hyphenText n) := by
  unfold hyphenText
  split
  · exact .refl _
  · next hn =>
    obtain ⟨m, rfl⟩ : ∃ m, n = m + 1 := ⟨n - 1, by omega⟩
    refine Respelt.replicate (.inr rfl) m fun c hc => ?_
    rcases (dashes_spec (by omega)).2 c hc with rfl | rfl <;> simp [IsSpelling]

/-- Typeset text holds no characters but dashes that the text does not hold. -/
private lemma mem_dashedFrom {c : Char} {n : Nat} {t : Text} (h : c ∈ dashedFrom n t) :
    c = '-' ∨ IsDash c ∨ c ∈ t := by
  have hhyphens : ∀ m, c ∈ hyphenText m → c = '-' ∨ IsDash c := by
    intro m hm
    unfold hyphenText at hm
    split at hm
    · exact Or.inl (List.eq_of_mem_replicate hm)
    · exact Or.inr ((dashes_spec (by omega)).2 c hm)
  induction t generalizing n with
  | nil => exact (hhyphens n h).imp_right Or.inl
  | cons d t ih =>
    rw [dashedFrom] at h
    split at h
    · exact (ih h).imp_right (Or.imp_right (List.mem_cons_of_mem d))
    · rcases List.mem_append.1 h with h | h
      · exact (hhyphens n h).imp_right Or.inl
      · rcases List.mem_cons.1 h with rfl | h
        · exact Or.inr (Or.inr List.mem_cons_self)
        · exact (ih h).imp_right (Or.imp_right (List.mem_cons_of_mem d))

/-- Typeset text is respelt. -/
private lemma respelt_dashedFrom (n : Nat) (t : Text) :
    Respelt (List.replicate n '-' ++ t) (dashedFrom n t) := by
  induction t generalizing n with
  | nil =>
    rw [List.append_nil, dashedFrom]
    exact respelt_hyphenText n
  | cons c t ih =>
    rw [dashedFrom]
    split
    · next hc =>
      obtain rfl := hc
      have h := ih (n + 1)
      rwa [List.replicate_succ', List.append_assoc, List.singleton_append] at h
    · exact (respelt_hyphenText n).append (.keep c (ih 0))

/-- Two hyphens or more are hyphens in a row. -/
private lemma hyphens_infix_replicate_iff (n : Nat) :
    ['-', '-'] <:+: List.replicate n '-' ↔ 2 ≤ n := by
  constructor
  · exact fun h => by simpa using h.length_le
  · intro hn
    obtain ⟨m, rfl⟩ := Nat.exists_eq_add_of_le hn
    exact ⟨[], List.replicate m '-', by rw [List.replicate_add]; rfl⟩

/-- Hyphens in a row stand in front of another character or behind it. -/
private lemma hyphens_infix_iff {c : Char} (hc : c ≠ '-') (n : Nat) (t : Text) :
    ['-', '-'] <:+: List.replicate n '-' ++ c :: t ↔ 2 ≤ n ∨ ['-', '-'] <:+: t := by
  rw [Text.double_infix_append_iff, hyphens_infix_replicate_iff, List.infix_cons_iff]
  simp [hc, Ne.symm hc]

/-- A text is kept if there are no hyphens in a row, and holds a dash otherwise.

**Proof sketch.** By induction on the text, with the hyphens counted so far in front of it. Where
the count ends, at most one hyphen is kept as it is and two or more become dashes. -/
private lemma dashedFrom_eq_self_or (n : Nat) (t : Text) :
    (¬['-', '-'] <:+: List.replicate n '-' ++ t ∧ dashedFrom n t = List.replicate n '-' ++ t) ∨
      ['-', '-'] <:+: List.replicate n '-' ++ t ∧ ∃ c ∈ dashedFrom n t, IsDash c := by
  induction t generalizing n with
  | nil =>
    rw [List.append_nil, hyphens_infix_replicate_iff, dashedFrom, hyphenText]
    split
    · next hn => exact Or.inl ⟨by omega, rfl⟩
    · next hn => exact Or.inr ⟨by omega, (dashes_spec (by omega)).1⟩
  | cons c t ih =>
    by_cases hc : c = '-'
    · obtain rfl := hc
      have h := ih (n + 1)
      rwa [List.replicate_succ', List.append_assoc, List.singleton_append] at h
    · rw [hyphens_infix_iff hc, dashedFrom, if_neg hc, hyphenText]
      split
      · next hn =>
        rcases ih 0 with ⟨hnone, heq⟩ | ⟨hsome, d, hd, hdash⟩
        · exact Or.inl ⟨by simpa using ⟨by omega, hnone⟩, by rw [heq]; rfl⟩
        · exact Or.inr ⟨Or.inr hsome, d, by simp [hd], hdash⟩
      · next hn =>
        obtain ⟨d, hd, hdash⟩ := (dashes_spec (n := n) (by omega)).1
        exact Or.inr ⟨Or.inl (by omega), d, List.mem_append_left _ hd, hdash⟩

/-- There are no hyphens in a row where these would be dashes. -/
def KeepsHyphens (ext : Extensions) (t : Text) : Prop :=
  ext.smartPunctuation = true → ¬['-', '-'] <:+: t

instance (ext : Extensions) (t : Text) : Decidable (KeepsHyphens ext t) :=
  inferInstanceAs (Decidable (_ → _))

/-- **A text is kept if there are no hyphens in a row** that would be dashes, and holds a dash
otherwise. -/
theorem typeset_eq_self_or (ext : Extensions) (t : Text) :
    (KeepsHyphens ext t ∧ typeset ext t = t) ∨
      ¬KeepsHyphens ext t ∧ ∃ c ∈ typeset ext t, IsDash c := by
  unfold typeset KeepsHyphens
  cases hsmart : ext.smartPunctuation with
  | false => exact Or.inl (by simp)
  | true => simpa using dashedFrom_eq_self_or 0 t

/-- A character that is no hyphen is kept, and any one without typographic punctuation. -/
lemma typeset_cons {ext : Extensions} {c : Char} (hc : c = '-' → ext.smartPunctuation = false)
    (t : Text) : typeset ext (c :: t) = c :: typeset ext t := by
  unfold typeset
  split
  · next hsmart =>
    have hne : c ≠ '-' := fun heq => by
      rw [hc heq] at hsmart
      exact absurd hsmart (by decide)
    rw [dashedFrom, if_neg hne]
    rfl
  · rfl

/-- A text without hyphens is kept, whatever follows. -/
lemma typeset_append_of_notMem (ext : Extensions) {u : Text} (hu : '-' ∉ u) (t : Text) :
    typeset ext (u ++ t) = u ++ typeset ext t := by
  induction u with
  | nil => rfl
  | cons c u ih =>
    rw [List.mem_cons, not_or] at hu
    rw [List.cons_append, typeset_cons fun hc => absurd hc.symm hu.1, ih hu.2]
    rfl

/-- Hyphens in front of another character are typeset as one. -/
lemma typeset_hyphens_cons {ext : Extensions} (hsmart : ext.smartPunctuation = true) {c : Char}
    (hc : c ≠ '-') (n : Nat) (t : Text) :
    typeset ext (List.replicate n '-' ++ c :: t) = hyphenText n ++ typeset ext (c :: t) := by
  rw [typeset_cons fun heq => absurd heq hc, typeset, typeset, if_pos hsmart, if_pos hsmart,
    dashedFrom_append_cons hc, dashedFrom_replicate, Nat.zero_add]

/-- Typeset text is respelt. -/
lemma respelt_typeset (ext : Extensions) (t : Text) : Respelt t (typeset ext t) := by
  unfold typeset
  split
  · exact respelt_dashedFrom 0 t
  · exact .refl t

/-- Typeset text holds no characters but dashes that the text does not hold. -/
lemma mem_typeset {ext : Extensions} {c : Char} {t : Text} (h : c ∈ typeset ext t) :
    c = '-' ∨ IsDash c ∨ c ∈ t := by
  unfold typeset at h
  split at h
  · exact mem_dashedFrom h
  · exact Or.inr (Or.inr h)

/-- A name between braces is typeset between them. -/
lemma typeset_written (ext : Extensions) (name : Text) :
    typeset ext ('{' :: '{' :: (name ++ ['}', '}'])) =
      '{' :: '{' :: (typeset ext name ++ ['}', '}']) := by
  rw [typeset_cons (by simp), typeset_cons (by simp)]
  unfold typeset
  split
  · rw [dashedFrom_append_cons (by decide)]
    rfl
  · rfl

/-! ## Names that are kept -/

/-- A name between braces that Markdown keeps: no hyphens in it are dashes, and no run of
underscores pairs with an earlier one. -/
def KeepsName (ext : Extensions) (name : Text) : Prop :=
  KeepsHyphens ext name ∧ NonePairs (runs name)

instance (rs : List UnderscoreRun) : Decidable (NonePairs rs) :=
  inferInstanceAs (Decidable (rs.Pairwise fun r s => r.pairsWith s = false))

instance (ext : Extensions) (name : Text) : Decidable (KeepsName ext name) :=
  inferInstanceAs (Decidable (_ ∧ _))

-- underscores within a word are kept, those around it are not
example : KeepsName {} "snake_case".toList ∧ ¬KeepsName {} "_private_".toList := by decide

end StaticSite.Markdown
