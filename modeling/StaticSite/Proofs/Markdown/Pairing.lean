import Mathlib
import StaticSite.Markdown.Emphasis
import StaticSite.Proofs.Markdown.Shown

set_option relaxedAutoImplicit false
set_option autoImplicit false

/-!
# Pairing runs of underscores

A line is taken here as stretches of text and runs of underscores between them. While the runs are
paired, the state of the pairing shows a text all the time: the openers that wait are shown as their
underscores. Pairing replaces underscores by tags, and nothing is replaced exactly if no run pairs
with an earlier one.

## Main definitions

* `StaticSite.Markdown.UnderscoreRun` — a run, and whether an earlier one pairs with it.
* `StaticSite.Markdown.Stretch` — text, or a run of underscores.
* `StaticSite.Markdown.Pairing.ShowsOpen` — what the state of the pairing shows.

## Main results

* `StaticSite.Markdown.Pairing.exists_close` — a closing run leaves the text respelt.
* `StaticSite.Markdown.exists_shows_pairRuns` — what stretches of a line show.
-/

namespace StaticSite.Markdown

/-! ## Stretches of a line -/

/-- A run of underscores: its length, and whether it may open and close emphasis. -/
structure UnderscoreRun where
  /-- How many underscores there are. -/
  length : Nat
  /-- Whether the run may open emphasis. -/
  opens : Bool
  /-- Whether the run may close emphasis. -/
  closes : Bool
deriving DecidableEq, Repr

namespace UnderscoreRun

/-- Whether a run may open and close. -/
def both (r : UnderscoreRun) : Bool := r.opens && r.closes

/-- Whether a run pairs with a later one. -/
def pairsWith (r s : UnderscoreRun) : Bool :=
  r.opens && s.closes &&
    ((!s.both && !r.both) || (s.length + r.length) % 3 != 0 || s.length % 3 == 0)

end UnderscoreRun

/-- A stretch of a line. -/
inductive Stretch where
  /-- Text. -/
  | text (t : Text)
  /-- A run of underscores. -/
  | run (r : UnderscoreRun)
deriving DecidableEq, Repr

namespace Stretch

/-- The characters of a stretch. -/
def source : Stretch → Text
  | .text t => t
  | .run r => List.replicate r.length '_'

/-- The run that a stretch is. -/
def run? : Stretch → Option UnderscoreRun
  | .text _ => none
  | .run r => some r

/-- A stretch as a node. -/
def node : Stretch → Node
  | .text t => .ofText t
  | .run r => .run '_' r.length r.opens r.closes []

/-- No character of a text would be read as markup, and no run is empty. -/
def IsProper : Stretch → Prop
  | .text t => ∀ c ∈ t, c ≠ '&' ∧ c ≠ '<' ∧ c ≠ '>'
  | .run r => 0 < r.length

end Stretch

namespace Pairing

/-! ## What a state shows -/

/-- The text shown by openers, innermost first, and the content behind the innermost of them, last
first. The openers are runs of underscores, of which some are left. -/
inductive ShowsOpen : List Opener → List Inline → Text → Prop where
  /-- There are no openers. -/
  | nil {content : List Inline} {t : Text} (h : Shows content.reverse t) : ShowsOpen [] content t
  /-- There is an innermost opener. -/
  | cons {o : Opener} {os : List Opener} {content : List Inline} {t s : Text}
      (hmark : o.mark = '_') (hpos : 0 < o.unpaired) (hbefore : ShowsOpen os o.before t)
      (h : Shows content.reverse s) :
      ShowsOpen (o :: os) content (t ++ List.replicate o.unpaired '_' ++ s)

/-- Underscores are shown as they are. -/
private lemma shows_underscores (n : Nat) :
    Shows [.text (List.replicate n '_')] (List.replicate n '_') := by
  have h := Shows.text (List.replicate n '_')
  rwa [escapeBody_eq_self fun c hc => by rw [List.eq_of_mem_replicate hc]; decide] at h

namespace ShowsOpen

variable {os : List Opener} {content : List Inline} {t : Text}

/-- More content shows more text. -/
private lemma append {is : List Inline} {s : Text} (h : ShowsOpen os content t)
    (his : Shows is.reverse s) : ShowsOpen os (is ++ content) (t ++ s) := by
  cases h with
  | nil h => exact .nil (by rw [List.reverse_append]; exact h.append his)
  | cons hmark hpos hbefore h =>
    rw [List.append_assoc]
    exact .cons hmark hpos hbefore (by rw [List.reverse_append]; exact h.append his)

/-- One more part of the content shows more text. -/
private lemma cons_content {i : Inline} {s : Text} (h : ShowsOpen os content t) (hi : Shows [i] s) :
    ShowsOpen os (i :: content) (t ++ s) :=
  have his : Shows [i].reverse s := hi
  h.append his

/-- All openers are runs of underscores. -/
private lemma mark_eq (h : ShowsOpen os content t) : ∀ o ∈ os, o.mark = '_' := by
  induction h with
  | nil => simp
  | cons hmark _ _ _ ih => exact List.forall_mem_cons.2 ⟨hmark, ih⟩

/-- An opener that is not paired any more shows the same underscores. -/
private lemma demote {o : Opener} (h : ShowsOpen (o :: os) content t) :
    ShowsOpen os (Pairing.demote content o) t := by
  cases h with
  | @cons _ _ _ t s hmark hpos hbefore h =>
    have hmarks : Shows (content ++ [marks o.mark o.unpaired]).reverse
        (List.replicate o.unpaired '_' ++ s) := by
      rw [List.reverse_append, hmark]
      exact (shows_underscores _).append h
    have hdemote : Pairing.demote content o =
        (content ++ [marks o.mark o.unpaired]) ++ o.before := by
      rw [Pairing.demote, List.append_assoc, List.singleton_append]
    rw [hdemote, List.append_assoc t]
    exact hbefore.append hmarks

/-- In the end all openers are text. -/
private lemma finish (h : ShowsOpen os content t) :
    Shows (os.foldl Pairing.demote content).reverse t := by
  induction os generalizing content with
  | nil =>
    cases h with
    | nil h => exact h
  | cons o os ih => exact ih h.demote

/-- The text in front of an opener and the text behind it. -/
private lemma split {inner outer : List Opener} {o : Opener}
    (h : ShowsOpen (inner ++ o :: outer) content t) :
    ∃ d c, t = d ++ List.replicate o.unpaired '_' ++ c ∧ 0 < o.unpaired ∧ o.mark = '_' ∧
      ShowsOpen outer o.before d ∧ Shows (inner.foldl Pairing.demote content).reverse c := by
  induction inner generalizing content with
  | nil =>
    cases h with
    | cons hmark hpos hbefore h => exact ⟨_, _, rfl, hpos, hmark, hbefore, h⟩
  | cons a inner ih => exact ih h.demote

end ShowsOpen

/-! ## Closing runs -/

/-- No opener passes a test, or the innermost one that does is found. -/
private lemma split?_spec (test : Opener → Bool) (os : List Opener) :
    (split? test os = none ∧ ∀ o ∈ os, test o = false) ∨
      ∃ inner o outer, split? test os = some (inner, o, outer) ∧ os = inner ++ o :: outer ∧
        test o = true := by
  induction os with
  | nil => exact Or.inl ⟨rfl, by simp⟩
  | cons o os ih =>
    cases ho : test o with
    | true => exact Or.inr ⟨[], o, os, by simp [split?, ho], rfl, ho⟩
    | false =>
      rcases ih with ⟨hnone, hall⟩ | ⟨inner, p, outer, hsome, rfl, hp⟩
      · exact Or.inl ⟨by simp [split?, ho, hnone], List.forall_mem_cons.2 ⟨ho, hall⟩⟩
      · exact Or.inr ⟨o :: inner, p, outer, by simp [split?, ho, hsome], rfl, hp⟩

/-- Paired underscores are tags around the content. -/
private lemma exists_wrap (n : Nat) {is : List Inline} {t : Text} (h : Shows is t) :
    ∃ i u v, wrap '_' (n + 1) is = [i] ∧ Shows [i] (u ++ t ++ v) ∧ IsReplacement u ∧
      IsReplacement v ∧ '<' ∈ u := by
  induction n using Nat.twoStepInduction generalizing is t with
  | zero =>
    exact ⟨.emphasis is, _, _, by simp [wrap], h.emphasis, by simp [IsReplacement, IsSpelling],
      by simp [IsReplacement, IsSpelling], by simp⟩
  | one =>
    exact ⟨.strong is, _, _, by simp [wrap], h.strong, by simp [IsReplacement, IsSpelling],
      by simp [IsReplacement, IsSpelling], by simp⟩
  | more n ih _ =>
    obtain ⟨i, u, v, hwrap, hshows, hu, hv, hmem⟩ := ih h.strong
    refine ⟨i, u ++ "<strong>".toList, "</strong>".toList ++ v, ?_, ?_, ?_, ?_, ?_⟩
    · rw [wrap, if_neg (by decide), hwrap]
    · simpa only [List.append_assoc] using hshows
    · exact List.forall_mem_append.2 ⟨hu, by simp [IsSpelling]⟩
    · exact List.forall_mem_append.2 ⟨by simp [IsSpelling], hv⟩
    · exact List.mem_append_left _ hmem

section Close

variable {length : Nat} {both : Bool} {p : Pairing} {t : Text}

/-- A closing run that pairs with no opener is left as it is. -/
private lemma close_of_forall (h : ∀ o ∈ p.openers, pairs '_' length both o = false)
    (fuel n : Nat) :
    close '_' length both fuel n p = (n, p) := by
  rcases split?_spec (pairs '_' length both) p.openers with ⟨hnone, -⟩ | ⟨_, o, _, -, hos, ho⟩
  · cases fuel with
    | zero => rw [close]
    | succ fuel =>
      cases n with
      | zero => rw [close]; simp
      | succ n => simp [close, hnone]
  · rw [h o (by simp [hos])] at ho
    exact absurd ho (by decide)

/-- One pairing puts tags into the text, and takes as many underscores of either run.

**Proof sketch.** The innermost opener that pairs is taken, and what stands behind it becomes the
inner content of the tags. Every underscore that the tags take the place of is spelt by a tag, so
the text is respelt, whatever is left of the two runs. -/
private lemma exists_close_succ (h : ShowsOpen p.openers p.content t) {o : Opener}
    (ho : o ∈ p.openers) (hpairs : pairs '_' length both o = true) (fuel n : Nat) :
    ∃ k q s, close '_' length both (fuel + 1) (n + 1) p = close '_' length both fuel k q ∧
      ShowsOpen q.openers q.content s ∧ '<' ∈ s ∧
      Respelt (t ++ List.replicate (n + 1) '_') (s ++ List.replicate k '_') := by
  rcases split?_spec (pairs '_' length both) p.openers with
    ⟨-, hall⟩ | ⟨inner, o, outer, hsome, hos, -⟩
  · rw [hall o ho] at hpairs
    exact absurd hpairs (by decide)
  · rw [hos] at h
    obtain ⟨d, c, rfl, hpos, hmark, hbefore, hchildren⟩ := h.split
    obtain ⟨m, hm⟩ : ∃ m, min (n + 1) o.unpaired = m + 1 :=
      ⟨min (n + 1) o.unpaired - 1, by omega⟩
    obtain ⟨i, u, v, hwrap, hshows, hu, hv, hmem⟩ := exists_wrap m hchildren
    have houter : p.openers.drop (inner.length + 1) = outer := by
      rw [hos, List.drop_append]
      simp
    -- underscores of both runs are replaced, whatever is left of them
    have hrespelt : ∀ a b : Nat, o.unpaired = a + (m + 1) → n + 1 = b + (m + 1) →
        Respelt (d ++ List.replicate o.unpaired '_' ++ c ++ List.replicate (n + 1) '_')
          (d ++ List.replicate a '_' ++ (u ++ c ++ v) ++ List.replicate b '_') := by
      intro a b ha hb
      rw [ha, hb, Nat.add_comm b, List.replicate_add a, List.replicate_add (m + 1)]
      simp only [List.append_assoc]
      exact (Respelt.refl d).append ((Respelt.refl _).append
        ((Respelt.replicate (.inl rfl) m hu).append ((Respelt.refl c).append
          ((Respelt.replicate (.inl rfl) m hv).append (Respelt.refl _)))))
    have hclose : close '_' length both (fuel + 1) (n + 1) p =
        close '_' length both fuel (n + 1 - (m + 1))
          (if o.unpaired = m + 1 then ⟨outer, [i] ++ o.before, min p.tildeFloor outer.length⟩
          else ⟨{ o with unpaired := o.unpaired - (m + 1) } :: outer, [i],
            min p.tildeFloor outer.length⟩) := by
      simp only [close, Char.reduceEq, if_false, List.take_length, hsome, hm, hwrap, houter]
    rw [hclose]
    by_cases hall : o.unpaired = m + 1
    · rw [if_pos hall]
      refine ⟨_, _, d ++ (u ++ c ++ v), rfl, hbefore.cons_content hshows, by simp [hmem], ?_⟩
      have h := hrespelt 0 (n + 1 - (m + 1)) (by omega) (by omega)
      simpa only [List.replicate_zero, List.append_nil] using h
    · rw [if_neg hall]
      refine ⟨_, _, d ++ List.replicate (o.unpaired - (m + 1)) '_' ++ (u ++ c ++ v), rfl, ?_,
        by simp [hmem], hrespelt _ _ (by omega) (by omega)⟩
      exact .cons hmark (by dsimp only; omega) hbefore hshows

/-- **A closing run leaves the text respelt**, and there are tags in it if the run pairs with an
opener.

**Proof sketch.** By induction on the fuel. While an opener pairs with the run, one pairing brings
tags in (`exists_close_succ`), and these stay in whatever the rest does; once none pairs, nothing
changes. -/
theorem exists_close (h : ShowsOpen p.openers p.content t) (length : Nat) (both : Bool)
    (fuel n : Nat) :
    ∃ s, ShowsOpen (close '_' length both fuel n p).2.openers
        (close '_' length both fuel n p).2.content s ∧
      Respelt (t ++ List.replicate n '_')
        (s ++ List.replicate (close '_' length both fuel n p).1 '_') ∧
      (0 < fuel → 0 < n → (∃ o ∈ p.openers, pairs '_' length both o = true) → '<' ∈ s) := by
  induction fuel generalizing n p t with
  | zero => exact ⟨t, by rw [close]; exact h, by rw [close]; exact .refl _, by simp⟩
  | succ fuel ih =>
    cases n with
    | zero => exact ⟨t, by rw [close] <;> simp [h], by rw [close] <;> simp [Respelt.refl], by simp⟩
    | succ n =>
      by_cases hany : ∃ o ∈ p.openers, pairs '_' length both o = true
      · obtain ⟨o, ho, hpairs⟩ := hany
        obtain ⟨k, q, s, hclose, hs, hmem, hrespelt⟩ := exists_close_succ h ho hpairs fuel n
        obtain ⟨s', hs', hrespelt', -⟩ := ih hs k
        rw [hclose]
        refine ⟨s', hs', hrespelt.trans hrespelt', fun _ _ _ => ?_⟩
        have hmem' := hrespelt'.mem (c := '<') (by simp [IsSpelling])
          (List.mem_append_left _ hmem)
        simpa [List.mem_replicate] using hmem'
      · have hnone : ∀ o ∈ p.openers, pairs '_' length both o = false := by simpa using hany
        rw [close_of_forall hnone]
        exact ⟨t, h, .refl _, fun _ _ hsome => absurd hsome hany⟩

end Close

/-! ## One stretch after the other -/

variable {p : Pairing} {t : Text}

/-- The state after a run of which some underscores are left. -/
def settle (r : UnderscoreRun) (left : Nat) (p : Pairing) : Pairing :=
  if left = 0 then p
  else if r.opens then
    { p with openers := ⟨'_', r.length, left, r.both, p.content⟩ :: p.openers, content := [] }
  else { p with content := .text (List.replicate left '_') :: p.content }

/-- A run is closed first, then settled. -/
private lemma step_run (r : UnderscoreRun) (p : Pairing) :
    p.step (Stretch.run r).node =
      if r.closes then
        settle r (close '_' r.length r.both r.length r.length p).1
          (close '_' r.length r.both r.length r.length p).2
      else settle r r.length p := by
  cases hcloses : r.closes <;>
    simp [Stretch.node, step, settle, UnderscoreRun.both, hcloses]

/-- Underscores that are left are shown, whether they wait or not. -/
private lemma ShowsOpen.settle (h : ShowsOpen p.openers p.content t) (r : UnderscoreRun)
    (left : Nat) :
    ShowsOpen (settle r left p).openers (settle r left p).content
      (t ++ List.replicate left '_') := by
  unfold Pairing.settle
  split
  · next hleft => simpa [hleft] using h
  · next hleft =>
    split
    · have hcons : ShowsOpen (⟨'_', r.length, left, r.both, p.content⟩ :: p.openers) []
          (t ++ List.replicate left '_' ++ []) := .cons rfl (Nat.pos_of_ne_zero hleft) h Shows.nil
      rwa [List.append_nil] at hcons
    · exact h.cons_content (shows_underscores left)

/-- Whether a run pairs with one of the openers. -/
def Meets (p : Pairing) (r : UnderscoreRun) : Prop :=
  r.closes = true ∧ ∃ o ∈ p.openers, pairs '_' r.length r.both o = true

/-- A run that pairs with an opener leaves the text respelt, with tags in it. -/
private lemma exists_step_of_meets (h : ShowsOpen p.openers p.content t) {r : UnderscoreRun}
    (hr : 0 < r.length) (hmeets : p.Meets r) :
    ∃ s, ShowsOpen (p.step (Stretch.run r).node).openers (p.step (Stretch.run r).node).content s ∧
      Respelt (t ++ List.replicate r.length '_') s ∧ '<' ∈ s := by
  obtain ⟨s, hs, hrespelt, hmem⟩ := exists_close h r.length r.both r.length r.length
  rw [step_run, if_pos hmeets.1]
  exact ⟨_, hs.settle r _, hrespelt, List.mem_append_left _ (hmem hr hr hmeets.2)⟩

/-- A run that pairs with no opener waits if it may open, and is text otherwise. -/
private lemma step_of_not_meets {r : UnderscoreRun} (h : ¬p.Meets r) :
    p.step (Stretch.run r).node = settle r r.length p := by
  rw [step_run]
  split
  · next hcloses =>
    have hnone : ∀ o ∈ p.openers, pairs '_' r.length r.both o = false := by
      simpa [Meets, hcloses] using h
    rw [close_of_forall hnone]
  · rfl

/-- A stretch that is no such run is shown behind the text. -/
private lemma ShowsOpen.step_of_not_meets (h : ShowsOpen p.openers p.content t) {x : Stretch}
    (hx : x.IsProper) (hnone : ∀ r, x = .run r → ¬p.Meets r) :
    ShowsOpen (p.step x.node).openers (p.step x.node).content (t ++ x.source) := by
  cases x with
  | text u =>
    have hshows := Shows.text u
    rw [escapeBody_eq_self hx] at hshows
    exact h.cons_content hshows
  | run r =>
    rw [Pairing.step_of_not_meets (hnone r rfl)]
    exact h.settle r r.length

/-- The openers are the runs that may open, of all runs so far. -/
def Awaits (p : Pairing) (rs : List UnderscoreRun) : Prop :=
  p.openers.map (fun o => (o.length, o.both)) =
    ((rs.filter UnderscoreRun.opens).map fun r => (r.length, r.both)).reverse

/-- A run meets an opener if an earlier run pairs with it.

**Proof sketch.** Whether a run pairs with an opener depends on the length of the opener's run and
on whether it may close as well, and these are what the openers keep of the runs. -/
private lemma Awaits.meets_iff {rs : List UnderscoreRun} (h : p.Awaits rs)
    (hmark : ∀ o ∈ p.openers, o.mark = '_') (s : UnderscoreRun) :
    p.Meets s ↔ ∃ r ∈ rs, r.pairsWith s = true := by
  let test : Nat × Bool → Bool := fun x =>
    (!s.both && !x.2) || (s.length + x.1) % 3 != 0 || s.length % 3 == 0
  have hopeners : (∃ o ∈ p.openers, pairs '_' s.length s.both o = true) ↔
      ∃ x ∈ p.openers.map (fun o => (o.length, o.both)), test x = true := by
    simp only [List.mem_map, exists_exists_and_eq_and]
    refine exists_congr fun o => and_congr_right fun ho => ?_
    simp [pairs, test, hmark o ho]
  rw [Meets, hopeners, h]
  simp only [List.mem_reverse, List.mem_map, List.mem_filter]
  constructor
  · rintro ⟨hcloses, _, ⟨r, ⟨hr, hopens⟩, rfl⟩, htest⟩
    refine ⟨r, hr, ?_⟩
    rw [UnderscoreRun.pairsWith, hopens, hcloses, Bool.and_self, Bool.true_and]
    exact htest
  · rintro ⟨r, hr, hpairs⟩
    rw [UnderscoreRun.pairsWith, Bool.and_eq_true, Bool.and_eq_true] at hpairs
    exact ⟨hpairs.1.2, _, ⟨r, ⟨hr, hpairs.1.1⟩, rfl⟩, hpairs.2⟩

/-- A run that pairs with no earlier one waits behind these. -/
private lemma Awaits.settle {rs : List UnderscoreRun} (h : p.Awaits rs) {r : UnderscoreRun}
    (hr : 0 < r.length) : (settle r r.length p).Awaits (rs ++ [r]) := by
  unfold Awaits at h ⊢
  unfold Pairing.settle
  cases hopens : r.opens <;> simp [hopens, h, Nat.ne_of_gt hr]

end Pairing

/-! ## The whole line -/

/-- No run pairs with an earlier one. -/
def NonePairs (rs : List UnderscoreRun) : Prop := rs.Pairwise fun r s => r.pairsWith s = false

/-- No run pairs if none of the front does and the last one does not pair with any of these. -/
private lemma nonePairs_append_singleton {rs : List UnderscoreRun} {s : UnderscoreRun} :
    NonePairs (rs ++ [s]) ↔ NonePairs rs ∧ ¬∃ r ∈ rs, r.pairsWith s = true := by
  simp [NonePairs, List.pairwise_append]

/-- The runs among stretches of a line. -/
def runsOf (xs : List Stretch) : List UnderscoreRun := xs.filterMap Stretch.run?

/-- One more stretch is at most one more run. -/
lemma runsOf_append_singleton (xs : List Stretch) (x : Stretch) :
    runsOf (xs ++ [x]) = runsOf xs ++ x.run?.toList := by
  cases x <;> simp [runsOf, Stretch.run?]

namespace Pairing

/-- The state after stretches of a line. -/
def after (xs : List Stretch) : Pairing := (xs.map Stretch.node).foldl step ⟨[], [], 0⟩

/-- One more stretch is one more step. -/
private lemma after_append_singleton (xs : List Stretch) (x : Stretch) :
    after (xs ++ [x]) = (after xs).step x.node := by
  simp [after, List.foldl_append]

/-- The state after stretches shows their text if no run pairs with an earlier one, and a text with
tags otherwise.

**Proof sketch.** By induction on the stretches, from the end. Text is put behind what is there. A
run that meets no opener stays text and waits for later runs; one that meets an opener pairs with
an earlier run, and brings tags in. -/
private lemma exists_showsOpen {xs : List Stretch} (hxs : ∀ x ∈ xs, x.IsProper) :
    ∃ t, ShowsOpen (after xs).openers (after xs).content t ∧ Respelt (xs.flatMap Stretch.source) t ∧
      (NonePairs (runsOf xs) → t = xs.flatMap Stretch.source ∧ (after xs).Awaits (runsOf xs)) ∧
      (¬NonePairs (runsOf xs) → '<' ∈ t) := by
  induction xs using List.reverseRecOn with
  | nil => exact ⟨[], .nil .nil, .nil, by simp [after, Awaits, runsOf], by simp [NonePairs, runsOf]⟩
  | append_singleton xs x ih =>
    obtain ⟨hfront, hx⟩ := List.forall_mem_append.1 hxs
    obtain ⟨t, ht, hrespelt, hnone, hsome⟩ := ih hfront
    have hproper : x.IsProper := hx x List.mem_cons_self
    have hsource : (xs ++ [x]).flatMap Stretch.source = xs.flatMap Stretch.source ++ x.source := by
      simp
    rw [after_append_singleton, runsOf_append_singleton, hsource]
    cases x with
    | text u =>
      have hruns : runsOf xs ++ (Stretch.text u).run?.toList = runsOf xs := List.append_nil _
      rw [hruns]
      refine ⟨t ++ u, ht.step_of_not_meets hproper (by simp), hrespelt.append (.refl u), ?_, ?_⟩
      · exact fun h => ⟨by rw [(hnone h).1]; rfl, (hnone h).2⟩
      · exact fun h => List.mem_append_left _ (hsome h)
    | run r =>
      have hruns : (Stretch.run r).run?.toList = [r] := rfl
      rw [hruns, nonePairs_append_singleton]
      by_cases hmeets : (after xs).Meets r
      · obtain ⟨s, hs, hrespelt', hmem⟩ := exists_step_of_meets ht hproper hmeets
        refine ⟨s, hs, (hrespelt.append (.refl _)).trans hrespelt', fun h => ?_, fun _ => hmem⟩
        exact absurd (((hnone h.1).2.meets_iff ht.mark_eq r).1 hmeets) h.2
      · refine ⟨_, ht.step_of_not_meets hproper fun s hs => Stretch.run.inj hs ▸ hmeets,
          hrespelt.append (.refl _), fun h => ⟨by rw [(hnone h.1).1], ?_⟩, fun h => ?_⟩
        · rw [Pairing.step_of_not_meets hmeets]
          exact (hnone h.1).2.settle hproper
        · refine List.mem_append_left _ (hsome fun hfront => h ⟨hfront, ?_⟩)
          exact fun hpairs => hmeets (((hnone hfront).2.meets_iff ht.mark_eq r).2 hpairs)

end Pairing

/-- **What stretches of a line show.** Their text is respelt, and it is kept exactly if no run pairs
with an earlier one: otherwise there are tags in it. -/
theorem exists_shows_pairRuns {xs : List Stretch} (hxs : ∀ x ∈ xs, x.IsProper) :
    ∃ t, Shows (pairRuns (xs.map Stretch.node)) t ∧ Respelt (xs.flatMap Stretch.source) t ∧
      (NonePairs (runsOf xs) → t = xs.flatMap Stretch.source) ∧
      (¬NonePairs (runsOf xs) → '<' ∈ t) := by
  obtain ⟨t, ht, hrespelt, hnone, hsome⟩ := Pairing.exists_showsOpen hxs
  exact ⟨t, ht.finish, hrespelt, fun h => (hnone h).1, hsome⟩

end StaticSite.Markdown
