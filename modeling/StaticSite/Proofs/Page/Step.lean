import Mathlib
import StaticSite.Proofs.Page.Build

set_option relaxedAutoImplicit false
set_option autoImplicit false

/-!
# Building a page step by step

Three steps of building a page touch the files: the document is read, the template is read, and the
page is written. Where several pages are built at once, steps of the others may come between these
three, so they are taken apart here. A page whose step fails takes no further one.

## Main definitions

* `StaticSite.Page.Progress` — how far the building of a page has got.
* `StaticSite.Page.step` — its next step.

## Main results

* `StaticSite.Page.iterate_step` — three steps in a row are what building a page is.
-/

namespace StaticSite.Page

open StaticSite.Action

/-- How far the building of a page has got, and what it has read. -/
inductive Progress where
  /-- Nothing was read. -/
  | waiting
  /-- The document was read. -/
  | opened (document : Text)
  /-- The template was read as well. -/
  | ready (document frame : Text)
  /-- The page made from both was written. -/
  | written (document frame : Text)
  /-- A step has failed. -/
  | failed (cause : PageError)
deriving DecidableEq, Repr

namespace Progress

/-- The document, once it was read. -/
def document? : Progress → Option Text
  | opened document => some document
  | ready document _ => some document
  | written document _ => some document
  | _ => none

/-- The template, once it was read. -/
def frame? : Progress → Option Text
  | ready _ frame => some frame
  | written _ frame => some frame
  | _ => none

/-- What building the page gives, once it is over. -/
def result? (extensions : Markdown.Extensions) (source : Path) :
    Progress → Option (Except PageError BuiltPage)
  | written document frame =>
    some (.ok ⟨source, outputOf source, (compose extensions frame document).unresolved⟩)
  | failed cause => some (.error cause)
  | _ => none

/-- The number of steps that were taken; a page whose step has failed takes no further one. -/
def rank : Progress → ℕ
  | waiting => 0
  | opened _ => 1
  | ready _ _ => 2
  | written _ _ => 3
  | failed _ => 3

end Progress

/-- How far a page has got after an action that was its step, with the files after that. -/
def progressOf {α : Type} (next : α → Progress) :
    EStateM.Result PageError FileStore α → Progress × FileStore
  | .ok a t => (next a, t)
  | .error cause t => (.failed cause, t)

/-- The next step of building a page. -/
def step (extensions : Markdown.Extensions) (template source : Path) :
    Progress × FileStore → Progress × FileStore
  | (.waiting, s) => progressOf .opened (read source s)
  | (.opened document, s) => progressOf (.ready document) (read template s)
  | (.ready document frame, s) =>
    progressOf (fun _ => .written document frame)
      (write (outputOf source) (compose extensions frame document).text s)
  | finished => finished

section Step

variable (extensions : Markdown.Extensions) (template source : Path)

/-- The first step reads the document. -/
lemma step_waiting (s : FileStore) :
    step extensions template source (.waiting, s) = progressOf .opened (read source s) := rfl

/-- The second step reads the template. -/
lemma step_opened (document : Text) (s : FileStore) :
    step extensions template source (.opened document, s) =
      progressOf (.ready document) (read template s) := rfl

/-- The third step writes the page. -/
lemma step_ready (document frame : Text) (s : FileStore) :
    step extensions template source (.ready document frame, s) =
      progressOf (fun _ => .written document frame)
        (write (outputOf source) (compose extensions frame document).text s) := rfl

/-- A step is one step further, unless there is none left. -/
lemma rank_step (x : Progress × FileStore) :
    min 3 (x.1.rank + 1) ≤ (step extensions template source x).1.rank := by
  obtain ⟨progress, s⟩ := x
  cases progress with
  | waiting =>
    rw [step_waiting]
    cases read source s <;> simp [progressOf, Progress.rank]
  | opened document =>
    rw [step_opened]
    cases read template s <;> simp [progressOf, Progress.rank]
  | ready document frame =>
    rw [step_ready]
    cases write (outputOf source) (compose extensions frame document).text s <;>
      simp [progressOf, Progress.rank]
  | written document frame => simp [step, Progress.rank]
  | failed cause => simp [step, Progress.rank]

/-- **Three steps in a row build a page**: they give what building it gives, and leave the files as
it leaves them. -/
theorem iterate_step (s : FileStore) :
    ((step extensions template source)^[3] (.waiting, s)).map (Progress.result? extensions source)
        id =
      match build extensions template source s with
      | .ok page t => (some (.ok page), t)
      | .error cause t => (some (.error cause), t) := by
  simp only [Function.iterate_succ, Function.iterate_zero, Function.comp_apply, id_eq, step_waiting]
  unfold build
  rw [bind_run]
  cases read source s with
  | error cause t => rfl
  | ok document t =>
    simp only [bind_run, progressOf, step_opened]
    cases read template t with
    | error cause u => rfl
    | ok frame u =>
      simp only [progressOf, step_ready]
      cases write (outputOf source) (compose extensions frame document).text u <;> rfl

end Step

end StaticSite.Page
