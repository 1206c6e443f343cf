import Mathlib
import StaticSite.Page.Render
import StaticSite.Proofs.Placeholder.Append

set_option relaxedAutoImplicit false
set_option autoImplicit false

/-!
# Where placeholders go

What becomes of a placeholder of the template stands in the page between what becomes of the pieces
around it. A placeholder of the body does so inside the text of the body, once for each place that
the template has for the body.

## Main definitions

* `StaticSite.Page.Placed` — the stretch of a page that a placeholder becomes.

## Main results

* `StaticSite.Page.text_of_placed` — the page is the stretch with the texts around it.
* `StaticSite.Page.eq_of_placed_key`, `StaticSite.Page.eq_of_placed_nav` — what the stretch is.
* `StaticSite.Page.written_of_unresolved` — a list to come is not reported.
-/

namespace StaticSite

open StaticSite.Placeholder (Piece pieces names written)

/-- A piece is that of a name in the text. -/
private lemma Placeholder.mem_names_of_pieces {t name : Text}
    (h : Piece.placeholder name ∈ pieces t) :
    name ∈ names t := by
  rw [names, scan, map_name_locate]
  exact List.mem_filterMap.2 ⟨_, h, rfl⟩

namespace Page

/-- What a piece of the template becomes. -/
def ofFrame (document : RenderedDocument) : Piece → Text :=
  (resolver document.frontmatter (some (resolvedBody document).text)).replacement

/-- What a piece of the body becomes. -/
def ofBody (document : RenderedDocument) : Piece → Text :=
  (resolver document.frontmatter none).replacement

/-- A placeholder of a name becomes a stretch of the page, between two other texts. It is one of the
template, or one of the body where the template has a place for that. -/
inductive Placed (frame : Text) (document : RenderedDocument) (name : Text) :
    Text → Text → Text → Prop where
  /-- A placeholder of the template. -/
  | template {before behind : List Piece}
      (h : pieces frame = before ++ .placeholder name :: behind) :
      Placed frame document name (before.flatMap (ofFrame document))
        (ofFrame document (.placeholder name)) (behind.flatMap (ofFrame document))
  /-- A placeholder of the body. -/
  | body {before behind before' behind' : List Piece}
      (h : pieces frame = before ++ .placeholder contentName :: behind)
      (h' : pieces document.html = before' ++ .placeholder name :: behind') :
      Placed frame document name
        (before.flatMap (ofFrame document) ++ before'.flatMap (ofBody document))
        (ofBody document (.placeholder name))
        (behind'.flatMap (ofBody document) ++ behind.flatMap (ofFrame document))

/-- **The page is the stretch with the texts around it**, if no key stands for the body. -/
theorem text_of_placed {frame name u x v : Text} {document : RenderedDocument}
    (hcontent : document.frontmatter.first? contentName = none)
    (h : Placed frame document name u x v) : (renderPage frame document).text = u ++ x ++ v := by
  have htext : (renderPage frame document).text = (pieces frame).flatMap (ofFrame document) := rfl
  cases h with
  | template h => rw [htext, h, List.flatMap_append, List.flatMap_cons, List.append_assoc]
  | body h h' =>
    have hplace : ofFrame document (.placeholder contentName) =
        (pieces document.html).flatMap (ofBody document) := by
      simp [ofFrame, Resolver.replacement, resolver, hcontent, resolvedBody, Resolver.resolve,
        ofBody]
    rw [htext, h, List.flatMap_append, List.flatMap_cons, hplace, h', List.flatMap_append,
      List.flatMap_cons]
    simp only [List.append_assoc]

/-- A key becomes its first value. -/
lemma eq_of_placed_key {frame name u x v value : Text} {document : RenderedDocument}
    (hvalue : document.frontmatter.first? name = some value)
    (h : Placed frame document name u x v) : x = value := by
  cases h <;> simp [ofFrame, ofBody, Resolver.replacement, resolver, hvalue]

/-- A place for the list stays as it is written. -/
lemma eq_of_placed_nav {frame u x v : Text} {document : RenderedDocument}
    (hnav : document.frontmatter.first? Navigation.placeholderName = none)
    (h : Placed frame document Navigation.placeholderName u x v) :
    x = written Navigation.placeholderName := by
  have hne : Navigation.placeholderName ≠ contentName := by decide
  cases h <;> simp [ofFrame, ofBody, Resolver.replacement, resolver, hnav, hne]

/-- A place for the list is not reported: every reported placeholder has another name.

**Proof sketch.** A report is that of a placeholder of the template or of the body for which the
resolver knows nothing. It defers the name of the list unless a key hides it, and in neither case
reports it. -/
lemma written_of_unresolved {frame : Text} {document : RenderedDocument} {p : UnresolvedPlaceholder}
    (h : p ∈ (renderPage frame document).unresolved) :
    ∃ name, name ≠ Navigation.placeholderName ∧ p.text = written name ∧
      (name ∈ names frame ∨ name ∈ names document.html) := by
  have hreport : ∀ (content : Option Text) (t w : Text),
      w ∈ ((resolver document.frontmatter content).resolve t).unresolved →
        ∃ name, name ≠ Navigation.placeholderName ∧ w = written name ∧ name ∈ names t := by
    intro content t w hw
    obtain ⟨piece, hpiece, hw⟩ := List.mem_filterMap.1 hw
    cases piece with
    | literal u => simp [Resolver.report?] at hw
    | placeholder name =>
      refine ⟨name, ?_, ?_, Placeholder.mem_names_of_pieces hpiece⟩
      · rintro rfl
        have hne : Navigation.placeholderName ≠ contentName := by decide
        unfold Resolver.report? resolver at hw
        cases hvalue : document.frontmatter.first? Navigation.placeholderName with
        | some value => simp [hvalue] at hw
        | none => cases content <;> simp [hvalue, hne] at hw
      · unfold Resolver.report? at hw
        dsimp only at hw
        split at hw <;> simp_all
  unfold renderPage at h
  dsimp only at h
  rcases List.mem_append.1 h with h | h
  · obtain ⟨w, hw, rfl⟩ := List.mem_map.1 h
    obtain ⟨name, hne, heq, hname⟩ := hreport _ _ _ hw
    exact ⟨name, hne, heq, Or.inl hname⟩
  · split at h
    · obtain ⟨w, hw, rfl⟩ := List.mem_map.1 h
      obtain ⟨name, hne, heq, hname⟩ := hreport _ _ _ hw
      exact ⟨name, hne, heq, Or.inr hname⟩
    · simp at h

end Page

end StaticSite
