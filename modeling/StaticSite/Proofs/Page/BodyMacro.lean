import Mathlib
import StaticSite.Page.Build
import StaticSite.Proofs.Frontmatter.Block
import StaticSite.Proofs.Markdown.MacroLine
import StaticSite.Proofs.Page.Report
import StaticSite.Proofs.Page.TitleValue
import StaticSite.Proofs.Placeholder.OpenValue

set_option relaxedAutoImplicit false
set_option autoImplicit false

/-!
# Keys as macros of the body

The body of a document is HTML already when the macros in it are resolved. So a key works as a
macro of the body as far as Markdown keeps its name: a name with two runs of underscores that pair
gets tags, and one with hyphens in a row gets a dash where typographic punctuation is on. Then the
macro has another name, which no key has, and is reported.

## Main definitions

* `StaticSite.Page.usingKey` — a document that gives a value to a key and uses the key.

## Main results

* `StaticSite.Page.compose_macroBody` — a body that is the macro of a key.
* `StaticSite.Page.compose_usingKey` — exactly the keys that Markdown keeps work in the body.
-/

namespace StaticSite.Page

open StaticSite.Frontmatter (IsKey IsKeyLine IsTerminator isKeyChar)
open StaticSite.Markdown (Extensions IsLineEnding KeepsName IsDash toHtml)
open StaticSite.Placeholder (names written)

/-! ## A page that is the body -/

/-- A paragraph around a text. -/
def paragraph (t : Text) : Text := "<p>".toList ++ t ++ "</p>\n".toList

/-- A template that is the place for the body gives the body, and reports the unknown placeholders
of the body.

**Proof sketch.** The template is one placeholder, which the resolved body takes the place of. No
key hides it, so nothing of the template is reported, and the body is reported because there is a
place for it. -/
private lemma renderPage_content {document : RenderedDocument}
    (hcontent : document.frontmatter.first? contentName = none) :
    renderPage (written contentName) document =
      ⟨(resolvedBody document).text, ((names document.html).filter
        (IsUnknown document.frontmatter [Navigation.placeholderName] ·)).map
          fun name => ⟨.body, written name⟩⟩ := by
  have hclosing : ¬Placeholder.closing <:+: contentName ++ ['}'] := by decide
  have hnames : names (written contentName) = [contentName] :=
    (Placeholder.written_spec hclosing).2
  have hframe : frameValue document.frontmatter (resolvedBody document).text contentName =
      (resolvedBody document).text := by
    simp [frameValue, hcontent]
  have htext : (renderPage (written contentName) document).text =
      (resolvedBody document).text := by
    have hwritten := ((resolver document.frontmatter (some (resolvedBody document).text))
      ).resolve_written_append hclosing []
    rw [List.append_nil, replacement_frame, hframe] at hwritten
    rw [Resolver.resolve_of_none _ (t := []) rfl, List.append_nil] at hwritten
    exact hwritten
  have hunresolved := unresolved_renderPage (written contentName) document
  rw [hnames, if_pos List.mem_cons_self] at hunresolved
  calc
    renderPage (written contentName) document =
        ⟨(renderPage (written contentName) document).text,
          (renderPage (written contentName) document).unresolved⟩ := rfl
    _ = _ := by
      rw [htext, hunresolved]
      simp [IsUnknown]

/-- A paragraph with a macro is resolved to one with what stands for the macro. -/
private lemma resolvedBody_paragraph {m : Frontmatter} {shown : Text} (hclosing : '}' ∉ shown) :
    names (paragraph (written shown)) = [shown] ∧
      (resolvedBody ⟨paragraph (written shown), m⟩).text = paragraph (bodyValue m shown) := by
  have hshown := Placeholder.not_closing_of_notMem hclosing
  obtain ⟨hnone, hclosed⟩ := Placeholder.closed_of_notMem (t := "<p>".toList) (by decide)
  obtain ⟨hnone', -⟩ := Placeholder.closed_of_notMem (t := "</p>\n".toList) (by decide)
  obtain ⟨hclosed', hnames⟩ := Placeholder.written_spec hshown
  rw [paragraph, paragraph, List.append_assoc, List.append_assoc]
  constructor
  · rw [Placeholder.names_append hclosed, Placeholder.names_append hclosed', hnames,
      Placeholder.names_of_none hnone, Placeholder.names_of_none hnone']
    rfl
  · rw [resolvedBody, Resolver.resolve_append _ hclosed, Resolver.resolve_written_append _ hshown,
      Resolver.resolve_of_none _ hnone, Resolver.resolve_of_none _ hnone', replacement_body]

/-! ## A body that is a macro -/

/-- Keys are made of the characters of keys. -/
private lemma isKeyChar_of_isKey {key : Text} (h : IsKey key) : ∀ c ∈ key, isKeyChar c = true := by
  intro c hc
  rw [Frontmatter.isKeyChar_iff]
  exact Or.inr (h.2 c hc)

/-- There is neither a tag nor a dash in a key. -/
private lemma not_isKey_of_mem {t : Text} {c : Char} (hc : c ∈ t) (h : c = '<' ∨ IsDash c) :
    ¬IsKey t := by
  intro hkey
  have hchar := isKeyChar_of_isKey hkey c hc
  rcases h with rfl | rfl | rfl <;> exact absurd hchar (by decide)

/-- **A body that is the macro of a key** becomes its value if Markdown keeps the name of the key.
Otherwise the macro has another name, and is kept and reported.

**Proof sketch.** Markdown shows the body as a paragraph with a macro, perhaps under another name
(`exists_toHtml_written`). Under its own name it becomes its value. Otherwise the name shown holds
a tag or a dash, which no key does, so it is unknown, and it is not `NAV` either. -/
theorem compose_macroBody (ext : Extensions) {document key value ending : Text}
    (hbody : (Frontmatter.split document).2 = written key ++ ending)
    (hvalue : (Frontmatter.split document).1.first? key = some value)
    (hending : IsLineEnding ending) :
    (KeepsName ext key → compose ext (written contentName) document = ⟨paragraph value, []⟩) ∧
      (¬KeepsName ext key → ∃ shown, shown ≠ key ∧
        compose ext (written contentName) document =
          ⟨paragraph (written shown), [⟨.body, written shown⟩]⟩) := by
  obtain ⟨hkey, -⟩ := Frontmatter.isKey_isValue_of_first? hvalue
  obtain ⟨shown, hhtml, hclosing, hkept, hchanged⟩ :=
    Markdown.exists_toHtml_written ext (isKeyChar_of_isKey hkey) hending
  obtain ⟨hnames, htext⟩ := resolvedBody_paragraph (m := (Frontmatter.split document).1) hclosing
  have hcompose : compose ext (written contentName) document =
      ⟨paragraph (bodyValue (Frontmatter.split document).1 shown),
        ([shown].filter (IsUnknown (Frontmatter.split document).1
          [Navigation.placeholderName] ·)).map fun name => ⟨.body, written name⟩⟩ := by
    have hdocument : renderDocument ext document =
        ⟨paragraph (written shown), (Frontmatter.split document).1⟩ := by
      have hrender : renderDocument ext document =
          ⟨toHtml ext (Frontmatter.split document).2, (Frontmatter.split document).1⟩ := rfl
      rw [hrender, hbody, hhtml]
      rfl
    rw [compose, hdocument, renderPage_content (first?_split_eq_none document).1, htext, hnames]
  constructor
  · intro h
    obtain rfl := hkept h
    rw [hcompose]
    simp [bodyValue, hvalue, IsUnknown, Frontmatter.contains_eq_isSome]
  · intro h
    obtain ⟨c, hc, hmark⟩ := hchanged h
    have hnone : (Frontmatter.split document).1.first? shown = none := by
      cases hfirst : (Frontmatter.split document).1.first? shown with
      | none => rfl
      | some _ =>
        exact absurd (Frontmatter.isKey_isValue_of_first? hfirst).1 (not_isKey_of_mem hc hmark)
    have hnav : shown ≠ Navigation.placeholderName := by
      rintro rfl
      rcases hmark with rfl | rfl | rfl <;> exact absurd hc (by decide)
    refine ⟨shown, ?_, ?_⟩
    · rintro rfl
      exact not_isKey_of_mem hc hmark hkey
    · rw [hcompose]
      simp [bodyValue, hnone, IsUnknown, Frontmatter.contains_eq_isSome, hnav]

/-! ## A document that uses its key -/

/-- A document of a line with a key and a value, a blank line, and the macro of the key. -/
def usingKey (key value ending : Text) : Text :=
  key ++ ':' :: ' ' :: value ++ '\n' :: '\n' :: (written (Text.toLowerAscii key) ++ ending)

/-- The document is taken apart into its key with its value and the macro.

**Proof sketch.** The first line is a key line and no fence, and the blank line behind it ends the
block. So the value is added to no metadata, and the lines of the macro are left. -/
private lemma split_usingKey {key value : Text} (hne : key ≠ [])
    (hkey : ∀ c ∈ key, isKeyChar c = true) (hvalue : '\n' ∉ value) (ending : Text) :
    Frontmatter.split (usingKey key value ending) =
      (Frontmatter.empty.add (Text.toLowerAscii key) (Text.trim value),
        written (Text.toLowerAscii key) ++ ending) := by
  have hline : IsKeyLine (key ++ ':' :: ' ' :: value ++ ['\n']) key (Text.trim value) := by
    refine ⟨0, ' ' :: value ++ ['\n'], Nat.zero_le 3, by simp, hne, hkey, ?_⟩
    have hspace : ∀ c ∈ [' '], Text.isWhiteSpace c = true :=
      List.forall_mem_singleton.2 (by decide)
    have hfeed : ∀ c ∈ ['\n'], Text.isWhiteSpace c = true :=
      List.forall_mem_singleton.2 (by decide)
    exact (Text.trim_append hspace hfeed value).symm
  have hblank : IsTerminator ['\n'] := Or.inl (by decide)
  have hfeed : '\n' ∉ key ++ ':' :: ' ' :: value := by
    have hnot : '\n' ∉ key := fun hmem => absurd (hkey _ hmem) (by decide)
    simp [hnot, hvalue]
  have hlines : Text.lines (usingKey key value ending) =
      (key ++ ':' :: ' ' :: value ++ ['\n']) :: ['\n'] ::
        Text.lines (written (Text.toLowerAscii key) ++ ending) := by
    have hempty := Text.lines_append (l := []) (by simp) (written (Text.toLowerAscii key) ++ ending)
    rw [usingKey, Text.lines_append hfeed]
    exact congrArg _ hempty
  have hopening : Frontmatter.afterOpening (Text.lines (usingKey key value ending)) =
      Text.lines (usingKey key value ending) := by
    refine Frontmatter.afterOpening_of_not_isFence fun line hfirst => ?_
    rw [hlines] at hfirst
    obtain rfl := Option.some.inj hfirst
    exact hline.not_isFence (by decide) (by decide)
  unfold Frontmatter.split
  rw [hopening, hlines, Frontmatter.readLines_keyLine hline,
    Frontmatter.readLines_terminator hblank]
  dsimp only
  rw [Text.flatten_lines]

/-- **Exactly the keys that Markdown keeps work as macros of the body**: whatever extensions are on,
the page has the value in place of the macro and nothing is reported. For any other key the macro is
kept under another name and reported.

**Proof sketch.** The body is the macro of the key that the document defines (`split_usingKey`), so
`compose_macroBody` tells what becomes of it. A page with a report is not one without, so only a
name that Markdown keeps gives the value. -/
theorem compose_usingKey (ext : Extensions) {key value ending : Text} (hne : key ≠ [])
    (hkey : ∀ c ∈ key, isKeyChar c = true) (hvalue : '\n' ∉ value)
    (hending : IsLineEnding ending) :
    (compose ext (written contentName) (usingKey key value ending) =
        ⟨paragraph (Text.trim value), []⟩ ↔ KeepsName ext (Text.toLowerAscii key)) ∧
      (¬KeepsName ext (Text.toLowerAscii key) → ∃ shown, shown ≠ Text.toLowerAscii key ∧
        compose ext (written contentName) (usingKey key value ending) =
          ⟨paragraph (written shown), [⟨.body, written shown⟩]⟩) := by
  have hsplit := split_usingKey hne hkey hvalue ending
  have hbody : (Frontmatter.split (usingKey key value ending)).2 =
      written (Text.toLowerAscii key) ++ ending := by
    rw [hsplit]
  have hfirst : (Frontmatter.split (usingKey key value ending)).1.first? (Text.toLowerAscii key) =
      some (Text.trim value) := by
    rw [hsplit]
    simp [Frontmatter.first?, Frontmatter.entryAt, Frontmatter.add, Frontmatter.empty,
      Frontmatter.addTo]
  obtain ⟨hkept, hchanged⟩ := compose_macroBody ext hbody hfirst hending
  refine ⟨⟨fun hpage => ?_, hkept⟩, hchanged⟩
  by_contra hnot
  obtain ⟨shown, -, hpage'⟩ := hchanged hnot
  have hreports := congrArg RenderedPage.unresolved (hpage.symm.trans hpage')
  simp at hreports

/-- A key between underscores becomes emphasis and is reported, and so is one with two hyphens where
these are a dash. -/
theorem compose_usingKey_underscores :
    compose {} (written contentName) (usingKey "_a_".toList "v".toList ['\n']) =
        ⟨paragraph (written "<em>a</em>".toList), [⟨.body, written "<em>a</em>".toList⟩]⟩ ∧
      compose {} (written contentName) (usingKey "_a_".toList "v".toList ['\n']) ≠
        ⟨paragraph "v".toList, []⟩ ∧
      compose {} (written contentName) (usingKey "A--b_c".toList " v ".toList []) =
        ⟨paragraph "v".toList, []⟩ ∧
      ∃ shown, shown ≠ "a--b_c".toList ∧
        compose { smartPunctuation := true } (written contentName)
            (usingKey "A--b_c".toList " v ".toList []) =
          ⟨paragraph (written shown), [⟨.body, written shown⟩]⟩ := by
  have hkey : ∀ c ∈ "_a_".toList, isKeyChar c = true := List.all_eq_true.1 (by decide)
  have hkey' : ∀ c ∈ "A--b_c".toList, isKeyChar c = true := List.all_eq_true.1 (by decide)
  refine ⟨by cbv, fun hpage => ?_, ?_, ?_⟩
  · have hkeeps := (compose_usingKey {} (by decide) hkey (by decide) (Or.inr rfl)).1.1 hpage
    exact absurd hkeeps (by decide)
  · exact (compose_usingKey {} (by decide) hkey' (by decide) (Or.inl rfl)).1.2 (by decide)
  · exact (compose_usingKey { smartPunctuation := true } (by decide) hkey' (by decide)
      (Or.inl rfl)).2 (by decide)

end StaticSite.Page
