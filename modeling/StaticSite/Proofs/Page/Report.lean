import Mathlib
import StaticSite.Page.Build
import StaticSite.Proofs.Frontmatter.Key
import StaticSite.Proofs.Frontmatter.Values
import StaticSite.Proofs.Placeholder.Replaced

set_option relaxedAutoImplicit false
set_option autoImplicit false

/-!
# What a page holds and what is reported about it

The body of a document and the template are resolved one after the other, with different names
known, and a scan of its own tells whether the template has a place for the body. The three agree:
the body stands at every place that the template has for it, and its unknown placeholders are
reported exactly if there is one.

## Main definitions

* `StaticSite.Page.bodyValue`, `StaticSite.Page.frameValue` — what stands for a placeholder of the
  body and of the template.
* `StaticSite.Page.IsUnknown` — the names that are reported.

## Main results

* `StaticSite.Page.resolvedBody_eq` — the body with its placeholders replaced, and its reports.
* `StaticSite.Page.renderPage_replaces_and_reports` — the text of a page and its reports.
-/

namespace StaticSite.Page

open StaticSite.Placeholder (Replaced names scan written)

/-! ## What stands for a placeholder -/

/-- What stands for a placeholder of the body: the first value of a key. Every other placeholder is
kept as it is written. -/
def bodyValue (m : Frontmatter) (name : Text) : Text := (m.first? name).getD (written name)

/-- What stands for a placeholder of the template: the first value of a key, or the body in a place
for it. Every other placeholder is kept as it is written. -/
def frameValue (m : Frontmatter) (body name : Text) : Text :=
  (m.first? name).getD (if name = contentName then body else written name)

/-- A name that is neither a key nor one of those that are known otherwise. -/
def IsUnknown (m : Frontmatter) (known : List Text) (name : Text) : Prop :=
  m.contains name = false ∧ name ∉ known

instance (m : Frontmatter) (known : List Text) : DecidablePred (IsUnknown m known) :=
  fun _ => inferInstanceAs (Decidable (_ ∧ _))

section Names

variable (m : Frontmatter) (body name : Text)

/-- The resolver for the body puts in the first values of keys. -/
lemma replacement_body : (resolver m none).replacement (.placeholder name) = bodyValue m name := by
  unfold Resolver.replacement resolver bodyValue
  dsimp only
  cases m.first? name with
  | some value => rfl
  | none =>
    dsimp only
    split_ifs <;> rfl

/-- The resolver for the template puts in the first values of keys and the body. -/
lemma replacement_frame :
    (resolver m (some body)).replacement (.placeholder name) = frameValue m body name := by
  unfold Resolver.replacement resolver frameValue
  dsimp only
  cases m.first? name with
  | some value => rfl
  | none =>
    dsimp only
    split_ifs <;> rfl

/-- In the body, `NAV` is known besides the keys. -/
private lemma resolver_body_eq_unknown_iff :
    resolver m none name = .unknown ↔ IsUnknown m [Navigation.placeholderName] name := by
  unfold resolver IsUnknown
  rw [Frontmatter.contains_eq_isSome]
  cases m.first? name <;> simp

/-- In the template, `CONTENT` and `NAV` are known besides the keys. -/
private lemma resolver_frame_eq_unknown_iff : resolver m (some body) name = .unknown ↔
    IsUnknown m [contentName, Navigation.placeholderName] name := by
  unfold resolver IsUnknown
  rw [Frontmatter.contains_eq_isSome]
  cases m.first? name with
  | some value => simp
  | none =>
    dsimp only
    split_ifs <;> simp_all

end Names

/-- No key of a document is a name that is known otherwise. -/
lemma first?_split_eq_none (document : Text) :
    (Frontmatter.split document).1.first? contentName = none ∧
      (Frontmatter.split document).1.first? Navigation.placeholderName = none :=
  have hsmall := Frontmatter.hasSmallKeys_split document
  ⟨Frontmatter.first?_of_capital hsmall ⟨'C', by decide, by decide⟩,
    Frontmatter.first?_of_capital hsmall ⟨'N', by decide, by decide⟩⟩

/-! ## The text and the reports -/

/-- The body holds the first values of its keys, and its other placeholders but `NAV` are reported.
-/
lemma resolvedBody_eq (document : RenderedDocument) :
    (∀ u, Replaced (bodyValue document.frontmatter) 0 document.html (scan document.html) u ↔
        u = (resolvedBody document).text) ∧
      (resolvedBody document).unresolved = ((names document.html).filter
        (IsUnknown document.frontmatter [Navigation.placeholderName] ·)).map written := by
  refine ⟨fun u => Resolver.replaced_iff _ fun name _ => replacement_body _ name, ?_⟩
  rw [resolvedBody, Resolver.unresolved_eq]
  congr 1
  exact List.filter_congr fun name _ => by
    rw [decide_eq_decide, resolver_body_eq_unknown_iff]

/-- The reports of a page: the unknown placeholders of the template, and then those of the body if
the template has a place for it.

**Proof sketch.** What a pass reports are the names that its resolver does not know, in their order
(`unresolved_eq`). For the template and for the body these are the ones that are no key and none of
the names with a meaning there. -/
lemma unresolved_renderPage (frame : Text) (document : RenderedDocument) :
    (renderPage frame document).unresolved =
      ((names frame).filter (IsUnknown document.frontmatter
          [contentName, Navigation.placeholderName] ·)).map
            (fun name => ⟨.template, written name⟩) ++
        (if contentName ∈ names frame then
          ((names document.html).filter (IsUnknown document.frontmatter
            [Navigation.placeholderName] ·)).map fun name => ⟨.body, written name⟩
        else []) := by
  have hplace : (names frame).contains contentName = true ↔ contentName ∈ names frame :=
    List.contains_iff_mem
  have hframe : ((resolver document.frontmatter (some (resolvedBody document).text)).resolve
      frame).unresolved = ((names frame).filter (IsUnknown document.frontmatter
        [contentName, Navigation.placeholderName] ·)).map written := by
    rw [Resolver.unresolved_eq]
    congr 1
    exact List.filter_congr fun name _ => by
      rw [decide_eq_decide, resolver_frame_eq_unknown_iff]
  show List.map _ _ ++ (if (names frame).contains contentName = true then _ else _) = _
  rw [hframe, (resolvedBody_eq document).2, List.map_map, List.map_map]
  congr 1
  exact if_congr hplace rfl rfl

/-- An unknown placeholder of the body is reported if and only if the template has a place for the
body. -/
private lemma reported_iff_of_body (frame : Text) {document : RenderedDocument} {name : Text}
    (hname : name ∈ names document.html)
    (hunknown : IsUnknown document.frontmatter [Navigation.placeholderName] name) :
    ⟨.body, written name⟩ ∈ (renderPage frame document).unresolved ↔ contentName ∈ names frame := by
  rw [unresolved_renderPage]
  by_cases hplace : contentName ∈ names frame
  · refine iff_of_true (List.mem_append_right _ ?_) hplace
    rw [if_pos hplace]
    exact List.mem_map_of_mem (List.mem_filter.2 ⟨hname, by simpa using hunknown⟩)
  · rw [if_neg hplace, List.append_nil]
    refine iff_of_false (fun h => ?_) hplace
    obtain ⟨_, -, heq⟩ := List.mem_map.1 h
    simp at heq

/-- **A page is the template with its placeholders replaced, and nothing else changed**: a key by
its first value, a place for the body by the body, in which the keys have been replaced alike. All
others are kept, `NAV` among them, and in the body also `CONTENT`. Reported are the unknown
placeholders of the template, and then those of the body if and only if the template has a place for
it, each as often and in the order as it is written.

**Proof sketch.** Both passes replace the placeholders that the scan finds by what the resolver has
for them (`replaced_iff`), first in the body and then in the template, with the body as the value
of `CONTENT`. Keys of a document are in small letters, so none of them hides `CONTENT` or `NAV`
(`first?_split_eq_none`). -/
theorem renderPage_replaces_and_reports (frame html document : Text) :
    let m := (Frontmatter.split document).1
    let page := renderPage frame ⟨html, m⟩
    ∃ body,
      (∀ u, Replaced (bodyValue m) 0 html (scan html) u ↔ u = body) ∧
      (∀ u, Replaced (frameValue m body) 0 frame (scan frame) u ↔ u = page.text) ∧
      (frameValue m body contentName = body ∧
        frameValue m body Navigation.placeholderName = written Navigation.placeholderName ∧
        bodyValue m contentName = written contentName ∧
        bodyValue m Navigation.placeholderName = written Navigation.placeholderName) ∧
      page.unresolved =
        ((names frame).filter (IsUnknown m [contentName, Navigation.placeholderName] ·)).map
            (fun name => ⟨.template, written name⟩) ++
          (if contentName ∈ names frame then
            ((names html).filter (IsUnknown m [Navigation.placeholderName] ·)).map
              fun name => ⟨.body, written name⟩
          else []) ∧
      ∀ name ∈ names html, IsUnknown m [Navigation.placeholderName] name →
        (⟨.body, written name⟩ ∈ page.unresolved ↔ contentName ∈ names frame) := by
  intro m page
  obtain ⟨hcontent, hnav⟩ := first?_split_eq_none document
  refine ⟨(resolvedBody ⟨html, m⟩).text, (resolvedBody_eq ⟨html, m⟩).1,
    fun u => Resolver.replaced_iff _ fun name _ => replacement_frame m _ name, ⟨?_, ?_, ?_, ?_⟩,
    unresolved_renderPage frame ⟨html, m⟩, fun name hname hunknown =>
      reported_iff_of_body frame hname hunknown⟩
  · rw [frameValue, hcontent, Option.getD_none, if_pos rfl]
  · rw [frameValue, hnav, Option.getD_none, if_neg (by decide)]
  · rw [bodyValue, hcontent, Option.getD_none]
  · rw [bodyValue, hnav, Option.getD_none]

end StaticSite.Page
