import Mathlib
import StaticSite.Markdown.Html

set_option relaxedAutoImplicit false
set_option autoImplicit false

/-!
# What inline content shows

Inline content is written behind whatever has been written before, so what it shows is the text that
it adds. Emphasis shows its content between two tags. The underscores and hyphens of a line may be
replaced by such tags and by dashes; everything else of the line stays where it is.

## Main definitions

* `StaticSite.Markdown.Shows` — inline content adds a text.
* `StaticSite.Markdown.Respelt` — a text with some of its underscores and hyphens replaced.

## Main results

* `StaticSite.Markdown.Shows.append`, `StaticSite.Markdown.Shows.emphasis`,
  `StaticSite.Markdown.Shows.strong` — what content shows from what its parts show.
* `StaticSite.Markdown.Respelt.of_append` — a respelt text is respelt part by part.
* `StaticSite.Markdown.Respelt.trans` — a text respelt twice is respelt.
-/

namespace StaticSite.Markdown

/-! ## Writing -/

/-- Inline content adds a text to whatever has been written. -/
def Shows (is : List Inline) (t : Text) : Prop :=
  ∀ o : Output, (writeInlines is o).text = o.text ++ t

namespace Output

@[simp]
lemma text_put (t : Text) (o : Output) : (o.put t).text = o.text ++ t := by
  simp [put, text]

@[simp]
lemma text_putContent (written content : Text) (o : Output) :
    (o.putContent written content).text = o.text ++ written := by
  simp [putContent, text]

@[simp]
lemma text_tag (s : String) (o : Output) : (o.tag s).text = o.text ++ s.toList :=
  text_put s.toList o

end Output

/-- Content is written part by part. -/
private lemma writeInlines_append (is js : List Inline) (o : Output) :
    writeInlines (is ++ js) o = writeInlines js (writeInlines is o) := by
  induction is generalizing o with
  | nil => simp [writeInlines]
  | cons i is ih => simp [writeInlines, ih]

namespace Shows

/-- No content shows nothing. -/
lemma nil : Shows [] [] := fun o => by simp [writeInlines]

/-- Two contents show their texts one after the other. -/
lemma append {is js : List Inline} {s t : Text} (hs : Shows is s) (ht : Shows js t) :
    Shows (is ++ js) (s ++ t) := fun o => by
  rw [writeInlines_append, ht, hs, List.append_assoc]

/-- Text shows itself, but for the characters that would be read as markup. -/
lemma text (t : Text) : Shows [.text t] (Html.escapeBody t) := fun o => by
  simp [writeInlines, writeInline]

/-- Emphasis shows its content between tags. -/
lemma emphasis {is : List Inline} {t : Text} (h : Shows is t) :
    Shows [.emphasis is] ("<em>".toList ++ t ++ "</em>".toList) := fun o => by
  simp only [writeInlines, writeInline, Output.text_tag, h _, List.append_assoc]

/-- Strong emphasis shows its content between tags. -/
lemma strong {is : List Inline} {t : Text} (h : Shows is t) :
    Shows [.strong is] ("<strong>".toList ++ t ++ "</strong>".toList) := fun o => by
  simp only [writeInlines, writeInline, Output.text_tag, h _, List.append_assoc]

end Shows

/-- Text without any character that would be read as markup is written as it stands. -/
lemma escapeBody_eq_self {t : Text} (h : ∀ c ∈ t, c ≠ '&' ∧ c ≠ '<' ∧ c ≠ '>') :
    Html.escapeBody t = t := by
  have hchar : ∀ c ∈ t, Html.bodyChar c = [c] := fun c hc => by
    obtain ⟨hamp, hopen, hclose⟩ := h c hc
    rw [Html.bodyChar] <;> assumption
  rw [Html.escapeBody, List.flatMap_congr hchar, List.flatMap_singleton']

/-! ## Respelt texts -/

/-- Whether a character may be replaced in a respelt text. -/
def IsSpelling (c : Char) : Prop := c = '_' ∨ c = '-'

/-- A text that holds no underscore, no hyphen and no brace. -/
def IsReplacement (t : Text) : Prop := ∀ c ∈ t, ¬IsSpelling c ∧ c ≠ '{' ∧ c ≠ '}'

/-- A text with some of its underscores and hyphens replaced by texts that hold neither, and no
brace. -/
inductive Respelt : Text → Text → Prop where
  /-- Nothing is left. -/
  | nil : Respelt [] []
  /-- A character is kept. -/
  | keep (c : Char) {t s : Text} (h : Respelt t s) : Respelt (c :: t) (c :: s)
  /-- A character is replaced. -/
  | replace {c : Char} (hc : IsSpelling c) {u : Text} (hu : IsReplacement u) {t s : Text}
      (h : Respelt t s) : Respelt (c :: t) (u ++ s)

namespace Respelt

/-- A text may be kept as it is. -/
lemma refl (t : Text) : Respelt t t := by
  induction t with
  | nil => exact .nil
  | cons c t ih => exact .keep c ih

/-- Two texts may be respelt one after the other. -/
lemma append {t s t' s' : Text} (h : Respelt t s) (h' : Respelt t' s') :
    Respelt (t ++ t') (s ++ s') := by
  induction h with
  | nil => exact h'
  | keep c _ ih => exact .keep c ih
  | replace hc hu _ ih =>
    rw [List.append_assoc]
    exact .replace hc hu ih

/-- A run of a character that may be replaced may be replaced as a whole. -/
lemma replicate {c : Char} (hc : IsSpelling c) (n : Nat) {u : Text} (hu : IsReplacement u) :
    Respelt (List.replicate (n + 1) c) u := by
  have hempty : ∀ m : Nat, Respelt (List.replicate m c) [] := fun m => by
    induction m with
    | zero => exact .nil
    | succ m ih => exact .replace hc (u := []) (by simp [IsReplacement]) ih
  have h := Respelt.replace hc hu (hempty n)
  rwa [List.append_nil] at h

/-- A respelt text is respelt part by part. -/
lemma of_append {t t' r : Text} (h : Respelt (t ++ t') r) :
    ∃ s s', r = s ++ s' ∧ Respelt t s ∧ Respelt t' s' := by
  induction t generalizing r with
  | nil => exact ⟨[], r, rfl, .nil, h⟩
  | cons c t ih =>
    cases h with
    | keep c h =>
      obtain ⟨s, s', rfl, hs, hs'⟩ := ih h
      exact ⟨c :: s, s', rfl, .keep c hs, hs'⟩
    | replace hc hu h =>
      obtain ⟨s, s', rfl, hs, hs'⟩ := ih h
      exact ⟨_, s', (List.append_assoc _ _ _).symm, .replace hc hu hs, hs'⟩

/-- A text without underscores and hyphens is kept. -/
lemma eq_of_forall {t s : Text} (h : Respelt t s) (ht : ∀ c ∈ t, ¬IsSpelling c) : s = t := by
  induction h with
  | nil => rfl
  | keep c _ ih => rw [ih fun d hd => ht d (List.mem_cons_of_mem _ hd)]
  | replace hc _ _ _ => exact absurd hc (ht _ List.mem_cons_self)

/-- A text respelt twice is respelt. -/
lemma trans {t s r : Text} (h : Respelt t s) (h' : Respelt s r) : Respelt t r := by
  induction h generalizing r with
  | nil => exact h'
  | keep c _ ih =>
    cases h' with
    | keep c h' => exact .keep c (ih h')
    | replace hc hu h' => exact .replace hc hu (ih h')
  | replace hc hu _ ih =>
    obtain ⟨u', s', rfl, hu', hs'⟩ := h'.of_append
    obtain rfl := hu'.eq_of_forall fun d hd => (hu d hd).1
    exact .replace hc hu (ih hs')

/-- What is neither an underscore nor a hyphen is still there. -/
lemma mem {t s : Text} (h : Respelt t s) {c : Char} (hc : ¬IsSpelling c) (hmem : c ∈ t) :
    c ∈ s := by
  induction h with
  | nil => exact hmem
  | keep d _ ih => exact (List.mem_cons.1 hmem).elim (fun h => h ▸ List.mem_cons_self) fun h =>
      List.mem_cons_of_mem _ (ih h)
  | replace hd _ _ ih =>
    rcases List.mem_cons.1 hmem with rfl | hmem
    · exact absurd hd hc
    · exact List.mem_append_right _ (ih hmem)

/-- Braces are not brought in. -/
lemma notMem {t s : Text} (h : Respelt t s) {c : Char} (hc : c = '{' ∨ c = '}') (hmem : c ∉ t) :
    c ∉ s := by
  induction h with
  | nil => exact hmem
  | keep d _ ih =>
    rw [List.mem_cons, not_or] at hmem ⊢
    exact ⟨hmem.1, ih hmem.2⟩
  | replace _ hu _ ih =>
    rw [List.mem_append, not_or]
    refine ⟨fun hcu => ?_, ih fun h => hmem (List.mem_cons_of_mem _ h)⟩
    obtain ⟨-, hopen, hclose⟩ := hu c hcu
    exact hc.elim hopen hclose

end Respelt

end StaticSite.Markdown
