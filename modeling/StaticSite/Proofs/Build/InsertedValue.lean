import Mathlib
import StaticSite.Proofs.Build.FinalText
import StaticSite.Proofs.Frontmatter.Key
import StaticSite.Proofs.Navigation.Place
import StaticSite.Proofs.Page.Render

set_option relaxedAutoImplicit false
set_option autoImplicit false

/-!
# Values in finished pages

The value of a key is put into a page once and is not searched in the page pass. The navigation
pass reads the page as a whole, values included. So a value is kept through the whole build exactly
if no place for the list reaches into it, be it that the value holds one, or that the value and the
texts around it make one.

## Main definitions

* `StaticSite.Build.KeepsClearValues` — the values in a page that the build keeps are those that no
  place for the list reaches into.

## Main results

* `StaticSite.Build.value_kept_iff_clear` — this holds for every page of every build whose file is
  that of no other page.
-/

namespace StaticSite.Build

open StaticSite.Action
open StaticSite.Placeholder (Clear written)

/-- The values in a page that the build keeps are those that no place for the list reaches into. The
page is made from a document and the template as they are at its turn, and a list is put into it
later. `before` and `behind` are the texts around a value in the page, and `before` with the list in
it is what stands in front of the value in the end. -/
def KeepsClearValues {source build : Path} {config : Config} {s after : FileStore}
    (r : BuildRun source build config s after) (page : BuiltPage) : Prop :=
  ∃ t u document frame text list,
    Turn (Page.build config.markdown (templateOf build)) r.sources r.afterCopy r.afterPages
      page.source page t u ∧
    t.readText page.source = .ok document ∧ t.readText (templateOf build) = .ok frame ∧
    text = (Page.compose config.markdown frame document).text ∧
    after.readText page.output = .ok (Navigation.filled list text).text ∧
    ∀ key value before x behind, (Frontmatter.split document).1.first? key = some value →
      Page.Placed frame (Page.renderDocument config.markdown document) key before x behind →
      x = value ∧ text = before ++ value ++ behind ∧
      ((Navigation.filled list before).text ++ value <+: (Navigation.filled list text).text ↔
        Clear Navigation.placeholderName before value behind)

/-- **A value is kept exactly if no place for the list reaches into it**, in every page of a
successful build that is the last one in its file and is reached under one path only.

**Proof sketch.** What the page holds in the end is its composed text with the list put into it
(`exists_finalText`). A value placed by the template or the body is a stretch of that text, and
putting the list in keeps a stretch exactly if it is clear (`filled_keeps_iff`). -/
theorem value_kept_iff_clear {source build : Path} {config : Config} {s after : FileStore}
    {summary : BuildSummary} {events : List BuildEvent} (hs : s.WellFormed)
    (h : buildSiteWith source build config ⟨s, []⟩ = .ok summary ⟨after, events⟩) {page : BuiltPage}
    (hpage : page ∈ summary.pages) (hsole : IsSole build after summary.pages page) :
    ∃ r : BuildRun source build config s after, summary = r.summary ∧ KeepsClearValues r page := by
  obtain ⟨r, rfl, -⟩ := buildSiteWith_eq_ok_iff.1 h
  obtain ⟨t, u, document, frame, text, hturn, hdocument, hframe, htext, t', list, hlist, hfinal,
    -⟩ := r.exists_finalText hs hpage hsole
  refine ⟨r, rfl, t, u, document, frame, text, list, hturn, hdocument, hframe, htext, hfinal, ?_⟩
  intro key value before x behind hvalue hplaced
  have hcontent : (Frontmatter.split document).1.first? Page.contentName = none :=
    Frontmatter.first?_of_capital (Frontmatter.hasSmallKeys_split document)
      ⟨'C', by decide, by decide⟩
  obtain rfl : x = value := Page.eq_of_placed_key hvalue hplaced
  have hwhole : text = before ++ x ++ behind := htext.trans (Page.text_of_placed hcontent hplaced)
  refine ⟨rfl, hwhole, ?_⟩
  rw [hwhole]
  refine Navigation.filled_keeps_iff fun hnone => ?_
  rw [← hwhole]
  exact Navigation.eq_none_of_linksFor hlist hnone

/-- The value in the page of the site with one page is kept. -/
theorem value_kept_iff_clear_singlePage :
    ∃ r : BuildRun ⟨"s".toList⟩ ⟨"b".toList⟩ {} singlePage singlePageBuilt,
      onlyPage ∈ r.summary.pages ∧ IsSole ⟨"b".toList⟩ singlePageBuilt r.summary.pages onlyPage ∧
      KeepsClearValues r onlyPage := by
  obtain ⟨r, hsummary, hr⟩ := value_kept_iff_clear wellFormed_singlePage build_singlePage
    List.mem_cons_self isSole_onlyPage
  refine ⟨r, ?_, ?_, hr⟩
  · rw [← hsummary]
    exact List.mem_cons_self
  · rw [← hsummary]
    exact isSole_onlyPage

/-- A document whose value is a place for the list. -/
def placeDocument : Text := "a: ".toList ++ written Navigation.placeholderName

/-- A template with a place for this value. -/
def placeFrame : Text := "<p>".toList ++ written ['a'] ++ "</p>".toList

/-- The list takes the place of a value that is a place for it. -/
theorem value_replaced_by_list :
    (Frontmatter.split placeDocument).1.first? ['a'] = some (written Navigation.placeholderName) ∧
      buildSiteWith ⟨"s".toList⟩ ⟨"b".toList⟩ {} ⟨pageSite placeDocument placeFrame, []⟩ =
        .ok ⟨2, [onlyPage], 1, 0⟩
          ⟨pageSiteBuilt placeDocument placeFrame "<p><ul></ul></p>".toList,
            [.copied 2, .pageBuilt onlyPage.source onlyPage.output,
              .navResolved onlyPage.output 0]⟩ ∧
      ¬written Navigation.placeholderName <:+: "<p><ul></ul></p>".toList := by
  refine ⟨?_, ?_, by decide⟩
  · cbv
  · cbv

end StaticSite.Build
