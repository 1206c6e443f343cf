import Mathlib
import StaticSite.Proofs.Build.Readable
import StaticSite.Proofs.Build.TemplateKept
import StaticSite.Proofs.Placeholder.TwoPasses

set_option relaxedAutoImplicit false
set_option autoImplicit false

/-!
# Static pages

An HTML file that no page is written to, and in which no braces are opened, takes part in navigation
like all others: it is linked to by its title, and it has a turn. No build changes it, whatever its
bytes are. As a page that is linked to it may hold any bytes, but in its own turn it must be a text,
so a build goes through only if it is one.

## Main definitions

* `StaticSite.Build.IsStatic` — a static page, and what it holds.
* `StaticSite.Build.Blames` — a build fails at a file.
* `StaticSite.Build.IsReached` — nothing but a file can stop a build.

## Main results

* `StaticSite.Build.keeps_static` — a turn in the navigation pass leaves a static page alone.
* `StaticSite.Build.static_moment` — at every moment it holds what it did.
* `StaticSite.Build.static_page_kept` — it is kept, and a build fails at it exactly if it is no
  text.
-/

namespace StaticSite

open StaticSite.Action
open StaticSite.PagePass (run initial)

/-- The file that could not be read or written once the source tree was copied. -/
def BuildError.file? : BuildError → Option Path
  | .page (.unreadable p _) | .page (.unwritable p _) => some p
  | .nav (.unreadable p _) | .nav (.unwritable p _) => some p
  | _ => none

namespace Build

/-- A build fails at a file: it is what could not be read or written, by whatever path. -/
def Blames (start : FileStore) (e : BuildError) (p : Path) : Prop :=
  ∃ q, e.file? = some q ∧ start.sameFile q p = true

/-- The HTML file of a name in the build directory is a static page that holds `c`. -/
structure IsStatic (build : Path) (start : FileStore) (sources : List Path) (n : Name)
    (c : Contents) : Prop where
  /-- It takes part in navigation, so it is not the template. -/
  navigated : IsNavigated build start n
  /-- No page of a Markdown file is written to it. -/
  notOutput : ∀ p ∈ sources, start.sameFile (Page.outputOf p) (build.child n) = false
  /-- It holds these contents. -/
  held : start.readContents (build.child n) = .ok c
  /-- No two opening braces stand in its bytes. -/
  noBraces : ¬[0x7b, 0x7b] <:+: c.bytes

/-- Nothing but the file of a path can stop a build: the pages of the Markdown files are built, and
all other files that take part in navigation are texts. -/
def IsReached (build : Path) (config : Config) (start : FileStore) (sources : List Path)
    (p : Path) : Prop :=
  checkTemplate (templateOf build) sources start = .ok () ∧ ∃ built afterPages all,
    Build.pages config.markdown (templateOf build) sources start = .ok built afterPages ∧
      navPages build afterPages = .ok all ∧
      ∀ page ∈ all, start.sameFile page.path p = false → ∃ u, afterPages.readText page.path = .ok u

/-- A text without opening braces in its bytes holds no placeholder. -/
private lemma names_of_noBraces {t : Text} (h : ¬[0x7b, 0x7b] <:+: Utf8.encode t) :
    Placeholder.names t = [] := by
  refine Placeholder.names_of_none (Placeholder.first?_of_not_opening ?_)
  rintro ⟨u, v, rfl⟩
  have hbraces : Utf8.encode Placeholder.opening = [0x7b, 0x7b] := by decide
  refine h ⟨Utf8.encode u, Utf8.encode v, ?_⟩
  rw [← hbraces, Utf8.encode, Utf8.encode, Utf8.encode, Utf8.encode, List.flatMap_append,
    List.flatMap_append]

/-- A text without opening braces in its bytes has no place for a list. -/
private lemma hasPlace_of_noBraces {t : Text} (h : ¬[0x7b, 0x7b] <:+: Utf8.encode t) :
    Navigation.hasPlace t = false := by
  rw [Navigation.hasPlace, names_of_noBraces h]
  rfl

/-! ## The static page at each moment -/

/-- **A turn in the navigation pass leaves a static page alone**, even if it is the page's own. -/
theorem keeps_static {id : FileId} {c : Contents} {node : Path → Except FileError Node}
    (hc : ¬[0x7b, 0x7b] <:+: c.bytes) (includeSelf : Bool) (generated : List Path)
    (all : List NavPage) (page : NavPage) :
    Keeps (fun t : FileStore => t.contentsOf id = c ∧ ∀ p, t.node p = node p)
      (fillIn includeSelf generated all page) := by
  refine keeps_fillIn_text (fun r i t list _ ht hne hr => ⟨?_, fun p => ?_⟩) _ _ _
  · -- in its own turn there is no place for the list, so nothing is written
    have hi : id ≠ i := by
      rintro rfl
      rw [← hr.1, ht] at hc
      exact hne (Navigation.filled_of_no_place (hasPlace_of_noBraces hc) list)
    rw [FileStore.contentsOf_setContents, if_neg hi, hr.1]
  · rw [FileStore.node_setContents, hr.2]

section Moments

variable {build : Path} {config : Config} {start t : FileStore} {sources : List Path} {n : Name}
  {c : Contents}

/-- What a path leads to after the copy, it leads to at every moment. -/
private lemma node_moment (h : Moment build config start t) {p : Path} {x : Node}
    (hp : start.node p = .ok x) : t.node p = .ok x := by
  cases h with
  | copied => exact hp
  | pages found accepted scheduled =>
    have hx : PagePass.UnderWay config.markdown _ start _ :=
      PagePass.underWay_run config.markdown (templateOf build) scheduled
    exact hx.rewrites.grows.node hp
  | navigation found accepted scheduled results listed order =>
    have hx : PagePass.UnderWay config.markdown _ start _ :=
      PagePass.underWay_run config.markdown (templateOf build) scheduled
    rw [keeps_node _ _ _ _ _ _ (fun _ => rfl) p, hx.rewrites.grows.node hp]

variable (hstart : start.WellFormed)
  (found : discover start build Page.sourceExtension = .ok sources)
  (hstatic : IsStatic build start sources n c)

include hstart found hstatic

/-- **At every moment a static page holds what it did.**

**Proof sketch.** The path of the page leads to its file at every moment. No output is this file,
so no page is written to it, and the navigation pass finds no braces in it and leaves it alone
(`keeps_static`). -/
theorem static_moment (h : Moment build config start t) :
    t.readContents (build.child n) = .ok c := by
  obtain ⟨id, hid⟩ := FileStore.isFile_iff.1 hstatic.navigated.file
  have hc : start.contentsOf id = c := by
    simpa [FileStore.readContents_of_node hid] using hstatic.held
  rw [FileStore.readContents_of_node (node_moment h hid)]
  congr 1
  have hpages : ∀ {schedule}, (∀ p ∈ schedule, p ∈ sources) →
      (run config.markdown (templateOf build) schedule (initial start)).store.contentsOf id =
        c := by
    intro schedule scheduled
    rw [(PagePass.underWay_run config.markdown (templateOf build) scheduled).contentsOf_eq hstart
      hstatic.notOutput hid, hc]
  cases h with
  | copied => exact hc
  | pages found' accepted scheduled =>
    obtain rfl := Except.ok.inj (found.symm.trans found')
    exact hpages scheduled
  | navigation found' accepted scheduled results listed order =>
    obtain rfl := Except.ok.inj (found.symm.trans found')
    exact (Keeps.mapM (fun page _ => keeps_static hstatic.noBraces _ _ _ page) _
      ⟨hpages scheduled, fun _ => rfl⟩).1

/-- A file that is a static page is read as what it holds. -/
private lemma readContents_of_sameFile (h : Moment build config start t) {q : Path}
    (hq : start.sameFile q (build.child n) = true) : t.readContents q = .ok c := by
  obtain ⟨x, hx, hx'⟩ := FileStore.sameFile_iff.1 hq
  obtain ⟨id, hid⟩ := FileStore.isFile_iff.1 hstatic.navigated.file
  obtain rfl : x = .file id := by simpa [hx'] using hid
  have hheld := static_moment hstart found hstatic h
  rw [FileStore.readContents_of_node (node_moment h hid)] at hheld
  rw [FileStore.readContents_of_node (node_moment h hx), hheld]

end Moments

/-! ## Builds with a static page -/

section Static

variable {source build : Path} {config : Config} {s start : FileStore} {k : ℕ} {sources : List Path}
  {n : Name} {c : Contents} (hstart : start.WellFormed)
  (found : discover start build Page.sourceExtension = .ok sources)
  (hstatic : IsStatic build start sources n c)

include hstart hstatic

/-- A static page has its turn in the navigation pass.

**Proof sketch.** The page is a file with the extension of pages that is not the template after the
copy. Building pages adds files and leads no path from one file that was there to another, so it is
all that afterwards as well. -/
private lemma static_mem_navPages {built : List BuiltPage} {afterPages : FileStore}
    {all : List NavPage}
    (paged : Build.pages config.markdown (templateOf build) sources start = .ok built afterPages)
    (listed : navPages build afterPages = .ok all) :
    NavPage.of build (build.child n) ∈ all := by
  have hrewrites : FileStore.Rewrites start afterPages := rewrites_of_pages paged
  obtain ⟨⟨l, hl, hentry⟩, hhtml, hfile, hnot⟩ := hstatic.navigated
  obtain ⟨id, hid⟩ := FileStore.isFile_iff.1 hfile
  obtain ⟨entry, hentry⟩ := Option.isSome_iff_exists.1 hentry
  have hpages := hrewrites.grows.node hl
  have hnavigated : IsNavigated build afterPages n := by
    refine ⟨⟨l, hpages, ?_⟩, hhtml, hrewrites.grows.isFile hfile, ?_⟩
    · rw [hrewrites.grows.entryAt hentry]
      rfl
    · -- building pages leads no other path to a file that was there
      rw [← Bool.not_eq_true, FileStore.sameFile_iff] at hnot ⊢
      rintro ⟨x, hx, htemplate⟩
      obtain rfl : x = .file id := by simpa [hrewrites.grows.node hid] using hx.symm
      exact hnot ⟨_, hid, hrewrites.node_of_old htemplate (hstart.number_lt hid)⟩
  rw [navPages_of_node hpages] at listed
  rw [← Except.ok.inj listed]
  exact List.mem_map_of_mem ((mem_navNames_iff hpages).2 hnavigated)

include found

/-- **No build fails at a static page that is a text.**

**Proof sketch.** By cases on where the build fails. A check of the directories or of the template
blames no page. A page that fails blames its document, the template or its output; the first two
can be read if they are the static page, which is a text at that moment, and the third is not the
static page. A turn of the navigation pass fails at a page that is no text. -/
theorem not_blames_static (hchecked : checkDirectories source build s = .ok ())
    (hcopy : copyTree source build s = .ok k start) {u : Text} (hc : c = .text u) {e : BuildError}
    {t : FileStore} {reported : List BuildEvent}
    (h : FailedRun source build config s e t reported) : ¬Blames start e (build.child n) := by
  have hread : ∀ {r q}, Moment build config start r → start.sameFile q (build.child n) = true →
      r.readText q = .ok u := by
    intro r q hr hq
    rw [FileStore.readText, readContents_of_sameFile hstart found hstatic hr hq, hc]
  rintro ⟨q, hfile, hq⟩
  cases h with
  | refused checked => simp [hchecked] at checked
  | uncopied checked copy => simp [hcopy] at copy
  | unaccepted checked copy found accepted =>
    have hof := isOfTemplate_of_checkTemplate accepted
    cases e <;> simp [BuildError.isOfTemplate, BuildError.file?] at hof hfile
  | unpaged checked copy found' accepted paged =>
    obtain ⟨rfl, rfl⟩ := EStateM.Result.ok.inj (hcopy.symm.trans copy)
    obtain rfl := Except.ok.inj (found.symm.trans found')
    obtain ⟨front, p, back, built, r, order, hfront, hpage⟩ := mapM_eq_error_iff.1 paged
    have hr := moment_pages hstart found accepted order hfront
    obtain ⟨e, ⟨rfl, hcause⟩ | ⟨rfl, hcause⟩⟩ | ⟨e, rfl⟩ := Page.build_eq_error hpage
    · obtain rfl : p = q := by simpa [BuildError.file?] using hfile
      simp [hread hr hq] at hcause
    · obtain rfl : templateOf build = q := by simpa [BuildError.file?] using hfile
      simp [hread hr hq] at hcause
    · obtain rfl : Page.outputOf p = q := by simpa [BuildError.file?] using hfile
      simp [hstatic.notOutput p (by simp [order])] at hq
  | @unfilled k start afterPages r t sources built all front back page navigated cause checked copy
      found' accepted paged listed order filled failed =>
    obtain ⟨rfl, rfl⟩ := EStateM.Result.ok.inj (hcopy.symm.trans copy)
    obtain rfl := Except.ok.inj (found.symm.trans found')
    have hr : SameTexts afterPages r := (Keeps.mapM fun page _ =>
      keeps_sameTexts _ _ afterPages all page).of_eq_ok filled (SameTexts.refl afterPages)
    have hpage : page ∈ all := by simp [order]
    obtain ⟨u', done, r', -, hrun⟩ | ⟨hnot, hrun⟩ := fillIn_cases config.nav.includeSelf
      (built.map BuiltPage.output) (fun _ => isFile_of_navPages listed) hr hpage
    · simp [failed] at hrun
    · obtain ⟨rfl, -⟩ := EStateM.Result.error.inj (failed.symm.trans hrun)
      obtain rfl : page.path = q := by simpa [BuildError.file?] using hfile
      have hpages := moment_pages hstart found accepted (List.append_nil _).symm paged
      rw [hread hpages hq] at hnot
      simp at hnot

/-- A static page that can be read after the page pass is a text. -/
private lemma isText_of_readText
    (accepted : checkTemplate (templateOf build) sources start = .ok ())
    {built : List BuiltPage} {afterPages : FileStore}
    (paged : Build.pages config.markdown (templateOf build) sources start = .ok built afterPages)
    {u : Text} (hu : afterPages.readText (build.child n) = .ok u) : c = .text u := by
  have hpages := moment_pages hstart found accepted (List.append_nil _).symm paged
  rw [FileStore.readText, static_moment hstart found hstatic hpages] at hu
  cases c with
  | text t => rw [Except.ok.inj hu]
  | binary bytes notText => simp at hu

/-- **No build goes through with a static page that is no text.** -/
theorem isText_of_run (hcopy : copyTree source build s = .ok k start) {after : FileStore}
    (r : BuildRun source build config s after) : ∃ u, c = .text u := by
  obtain ⟨-, rfl⟩ := EStateM.Result.ok.inj (hcopy.symm.trans r.copy)
  obtain rfl := Except.ok.inj (found.symm.trans r.found)
  obtain ⟨u, hu⟩ := (fillIn_pass_ok_iff _ _ fun _ => isFile_of_navPages r.listed).1
    ⟨_, _, r.filled⟩ _ (static_mem_navPages hstart hstatic r.paged r.listed)
  exact ⟨u, isText_of_readText hstart r.found hstatic r.accepted r.paged hu⟩

/-- A build that nothing else can stop fails at a static page that is no text.

**Proof sketch.** The page has its turn in the navigation pass (`static_mem_navPages`) and is no
text then, so the pass fails at it or at a page in front of it that is none. All pages that do not
lead to this file are texts, so the page at which the pass fails leads to it. -/
theorem blames_static (hchecked : checkDirectories source build s = .ok ())
    (hcopy : copyTree source build s = .ok k start)
    (hreached : IsReached build config start sources (build.child n))
    (hc : ¬∃ u, c = .text u) (events : List BuildEvent) :
    ∃ e b, buildSiteWith source build config ⟨s, events⟩ = .error e b ∧
      Blames start e (build.child n) := by
  obtain ⟨accepted, built, afterPages, all, paged, listed, hothers⟩ := hreached
  have hmem := static_mem_navPages hstart hstatic paged listed
  have hnot : ∀ u, afterPages.readText (build.child n) ≠ .ok u := fun u hu =>
    hc ⟨u, isText_of_readText hstart found hstatic accepted paged hu⟩
  obtain ⟨htexts, -⟩ | ⟨front, page, back, navigated, t, order, hbinary, hpass, hfail⟩ :=
    fillIn_pass_cases config.nav.includeSelf (built.map BuiltPage.output)
      (fun _ => isFile_of_navPages listed) (fun _ hpage => hpage) (SameTexts.refl afterPages)
  · obtain ⟨u, hu⟩ := htexts _ hmem
    exact absurd hu (hnot u)
  · have hsame : start.sameFile page.path (build.child n) = true := by
      by_contra hdifferent
      obtain ⟨u, hu⟩ := hothers page (by simp [order]) (by simpa using hdifferent)
      simp [hbinary] at hu
    have hrun := FailedRun.unfilled hchecked hcopy found accepted paged listed order hpass hfail
    exact ⟨_, _, buildSiteWith_eq_error_iff.2 ⟨_, hrun, rfl⟩, page.path, rfl, hsame⟩

/-- Nothing is reported of a static page.

**Proof sketch.** Its text has no braces when its turn comes, as it is the one that the copy has
left (`static_moment`). So there is no place for the list and no placeholder to be reported. -/
private lemma outcome_static (hcopy : copyTree source build s = .ok k start) {after : FileStore}
    (r : BuildRun source build config s after) {done : NavigatedPage} (hdone : done ∈ r.navigated)
    (hpath : done.path = build.child n) : done.outcome = ⟨0, false, []⟩ := by
  obtain ⟨u, rfl⟩ := isText_of_run hstart found hstatic hcopy r
  obtain ⟨-, rfl⟩ := EStateM.Result.ok.inj (hcopy.symm.trans r.copy)
  obtain rfl := Except.ok.inj (found.symm.trans r.found)
  obtain ⟨page, t, t', -, hturn⟩ := exists_turn_of_result r.filled hdone
  obtain ⟨front, back, navigated, _, order, hfront, -⟩ := hturn.order
  have ht := moment_navigation hstart found r.accepted r.paged r.listed order
  rw [stateAfter_of_eq_ok hfront] at ht
  have hplace := hasPlace_of_noBraces hstatic.noBraces
  obtain ⟨outcome, hresolve, rfl⟩ := fillIn_eq_ok_iff.1 hturn.run
  have hread : t.readText page.path = .ok u := by
    have hpage : page.path = build.child n := hpath
    rw [hpage, FileStore.readText, static_moment hstart found hstatic ht]
  rw [Navigation.resolve_of_no_place hread hplace] at hresolve
  obtain ⟨rfl, -⟩ := EStateM.Result.ok.inj hresolve
  have hlist : Navigation.linksFor t u [] = .ok none :=
    Navigation.linksFor_eq_ok_iff.2 (Or.inl ⟨hplace, rfl⟩)
  rw [Navigation.outcomeOf_eq hlist, hplace, names_of_noBraces hstatic.noBraces]
  rfl

end Static

/-- **A static page is kept**, whatever its bytes are: at every moment from the copy on, whether the
build succeeds or fails, it holds what the copy has left, and lends other pages the title in it. In
a build that goes through, nothing is reported of it. No build fails at it if it is a text, and none
goes through if it is not; a build that nothing else can stop fails at it exactly then.

**Proof sketch.** What the page holds at a moment is `static_moment`, and its title is read with
what is no text replaced. A build that goes through has filled in the page, which is a text then; a
failing one does not fail at it if it is a text (`not_blames_static`), and does if it is none and
nothing else fails before (`blames_static`). -/
theorem static_page_kept {source build : Path} (config : Config) {s start : FileStore} {k : ℕ}
    {sources : List Path} {n : Name} {c : Contents} (hs : s.WellFormed)
    (hchecked : checkDirectories source build s = .ok ())
    (hcopy : copyTree source build s = .ok k start)
    (found : discover start build Page.sourceExtension = .ok sources)
    (hstatic : IsStatic build start sources n c) :
    (∀ t, Moment build config start t → t.readContents (build.child n) = .ok c ∧
      Navigation.readTitle t (build.child n) = .ok (Html.title? c.textWithReplacement)) ∧
    (∀ events, Moment build config start
      (stateAfter (buildSiteWith source build config) ⟨s, events⟩).store) ∧
    (∀ after, ∀ r : BuildRun source build config s after, (∃ u, c = .text u) ∧
      ∀ done ∈ r.navigated, done.path = build.child n → done.outcome = ⟨0, false, []⟩) ∧
    ∀ events, ((∃ u, c = .text u) → ∀ e b,
        buildSiteWith source build config ⟨s, events⟩ = .error e b →
          ¬Blames start e (build.child n)) ∧
      (IsReached build config start sources (build.child n) →
        ((∃ e b, buildSiteWith source build config ⟨s, events⟩ = .error e b ∧
          Blames start e (build.child n)) ↔ ¬∃ u, c = .text u)) := by
  have hstart : start.WellFormed := (grows_of_copyTree hcopy).wellFormed hs
  have hfails : ∀ events, (∃ u, c = .text u) → ∀ e b,
      buildSiteWith source build config ⟨s, events⟩ = .error e b →
        ¬Blames start e (build.child n) := by
    rintro events ⟨u, hc⟩ e ⟨t, events'⟩ hrun
    obtain ⟨reported, hfailed, -⟩ := buildSiteWith_eq_error_iff.1 hrun
    exact not_blames_static hstart found hstatic hchecked hcopy hc hfailed
  refine ⟨fun t ht => ?_, fun events => moment_buildSiteWith hs hchecked hcopy events,
    fun after r => ⟨isText_of_run hstart found hstatic hcopy r, fun done hdone hpath =>
      outcome_static hstart found hstatic hcopy r hdone hpath⟩,
    fun events => ⟨hfails events, fun hreached => ⟨?_, fun hc => ?_⟩⟩⟩
  · have hheld := static_moment hstart found hstatic ht
    exact ⟨hheld, Navigation.readTitle_eq_ok_iff.2 ⟨c, hheld, rfl⟩⟩
  · rintro ⟨e, b, hrun, hblames⟩ hc
    exact hfails events hc e b hrun hblames
  · exact blames_static hstart found hstatic hchecked hcopy hreached hc events

/-- A page whose title is written in another encoding. -/
def latinTitle : Contents :=
  .binary [0x3c, 0x74, 0x69, 0x74, 0x6c, 0x65, 0x3e, 0x43, 0x61, 0x66, 0xe9, 0x3c, 0x2f, 0x74, 0x69,
    0x74, 0x6c, 0x65, 0x3e] (by cbv)

/-- A page with a place for the list and a static page, to be copied. -/
def latinPage : FileStore :=
  (((({} : FileStore).setEntry ["s".toList] .directory).setEntry ["b".toList] .directory).newFile
    ["a.html".toList, "s".toList] (.text "{{NAV}}".toList)).newFile ["b.html".toList, "s".toList]
    latinTitle

/-- The files after the copy. -/
def latinPageCopied : FileStore :=
  (latinPage.newFile ["a.html".toList, "b".toList] (.text "{{NAV}}".toList)).newFile
    ["b.html".toList, "b".toList] latinTitle

/-- The pages are well-formed. -/
private lemma wellFormed_latinPage : latinPage.WellFormed := by
  have hmade : made [.makeDirectories ⟨"s".toList⟩, .makeDirectories ⟨"b".toList⟩,
      .write ⟨"s/a.html".toList⟩ (.text "{{NAV}}".toList),
      .write ⟨"s/b.html".toList⟩ latinTitle] = latinPage := by
    cbv
  rw [← hmade]
  exact wellFormed_made _

/-- The static page takes part in navigation. -/
private lemma isStatic_latinPage :
    IsStatic ⟨"b".toList⟩ latinPageCopied [] "b.html".toList latinTitle where
  navigated := ⟨⟨["b".toList], by cbv, by cbv⟩, by cbv, by cbv, by cbv⟩
  notOutput := by simp
  held := by cbv
  noBraces := by decide

/-- The build fails at the static page, of which the list in front of it shows the title. -/
theorem static_page_kept_latinPage :
    ∃ e b, buildSiteWith ⟨"s".toList⟩ ⟨"b".toList⟩ {} ⟨latinPage, []⟩ = .error e b ∧
      Blames latinPageCopied e ⟨"b/b.html".toList⟩ ∧
      b.store.readContents ⟨"b/b.html".toList⟩ = .ok latinTitle ∧
      Navigation.readTitle b.store ⟨"b/b.html".toList⟩ = .ok (some "Caf\ufffd".toList) := by
  have hchecked : checkDirectories ⟨"s".toList⟩ ⟨"b".toList⟩ latinPage = .ok () := by cbv
  have hcopy : copyTree ⟨"s".toList⟩ ⟨"b".toList⟩ latinPage = .ok 2 latinPageCopied := by cbv
  have hfound : discover latinPageCopied ⟨"b".toList⟩ Page.sourceExtension = .ok [] := by cbv
  have hreached : IsReached ⟨"b".toList⟩ {} latinPageCopied []
      ((⟨"b".toList⟩ : Path).child "b.html".toList) := by
    refine ⟨by cbv, [], latinPageCopied, [NavPage.of ⟨"b".toList⟩ ⟨"b/a.html".toList⟩,
      NavPage.of ⟨"b".toList⟩ ⟨"b/b.html".toList⟩], rfl, by cbv, fun page hpage hother => ?_⟩
    rcases List.mem_cons.1 hpage with rfl | hpage
    · exact ⟨"{{NAV}}".toList, by cbv⟩
    · obtain rfl := List.mem_singleton.1 hpage
      have hself : latinPageCopied.sameFile ⟨"b/b.html".toList⟩
          ((⟨"b".toList⟩ : Path).child "b.html".toList) = true := by
        cbv
      exact absurd (hself.symm.trans hother) (by simp)
  obtain ⟨hmoments, hend, -, hblames⟩ := static_page_kept {} wellFormed_latinPage hchecked hcopy
    hfound isStatic_latinPage
  obtain ⟨e, b, hrun, hblame⟩ := ((hblames []).2 hreached).2 (by simp [latinTitle])
  obtain ⟨hheld, htitle⟩ := hmoments _ (hend [])
  rw [stateAfter_of_eq_error hrun] at hheld htitle
  refine ⟨e, b, hrun, hblame, hheld, htitle.trans ?_⟩
  cbv

end Build

end StaticSite
