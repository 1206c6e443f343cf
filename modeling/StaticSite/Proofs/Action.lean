import Mathlib
import StaticSite.FileStore.Update

set_option relaxedAutoImplicit false
set_option autoImplicit false

/-!
# Reasoning about actions

An action changes a state and gives a result or fails. Three views of an action are used in what
follows: how a successful run splits into the runs of its parts, whether it has its like from other
states, and which properties of the state every run keeps, successful or not.

## Main definitions

* `StaticSite.Action.Turn` — the turn of an element in a run over a list.
* `StaticSite.Action.stateAfter` — the state in which a run ends.
* `StaticSite.Action.Mirrored` — a run has its like from every related state.
* `StaticSite.Action.Keeps` — every run keeps a property of the state.

## Main results

* `StaticSite.Action.bind_eq_ok_iff` — a successful run of two actions in a row is a successful
  run of each.
* `StaticSite.Action.bind_eq_error_iff`, `StaticSite.Action.mapM_eq_error_iff` — where a run fails.
* `StaticSite.Action.mapM_eq_map` — the results of a run are those of its turns.
* `StaticSite.Action.mapM_mirrored` — a run over a list has its like if its turns have.
* `StaticSite.Action.Keeps.bind`, `StaticSite.Action.Keeps.tryCatch`,
  `StaticSite.Action.Keeps.mapM`, `StaticSite.Action.Keeps.foldlM` — what the parts keep, the
  whole keeps.
-/

namespace StaticSite.Action

variable {ε ε' σ α β : Type}

/-! ## Successful runs -/

/-- A run that looks at the state goes on with what it saw. -/
lemma get_bind_run (f : σ → EStateM ε σ α) (s : σ) : (get >>= f) s = f s s := rfl

/-- A run of two actions in a row goes on where the first one ends, unless that fails. -/
lemma bind_run (x : EStateM ε σ α) (f : α → EStateM ε σ β) (s : σ) :
    (x >>= f) s = match x s with
      | .ok a t => f a t
      | .error e t => .error e t := by
  show EStateM.bind x f s = _
  unfold EStateM.bind
  cases x s <;> rfl

/-- A run of two actions in a row succeeds exactly if the first one succeeds, and then the
second one from the state in which the first one ends. -/
theorem bind_eq_ok_iff {x : EStateM ε σ α} {f : α → EStateM ε σ β} {s t : σ} {b : β} :
    (x >>= f) s = .ok b t ↔ ∃ a r, x s = .ok a r ∧ f a r = .ok b t := by
  show EStateM.bind x f s = .ok b t ↔ _
  unfold EStateM.bind
  cases h : x s with
  | ok a r =>
    constructor
    · intro hf
      exact ⟨a, r, rfl, hf⟩
    · rintro ⟨a', r', hx, hf⟩
      cases hx
      exact hf
  | error e r => simp

/-- A run of an action whose failure is reworded succeeds exactly if the action does. -/
theorem adaptExcept_eq_ok_iff {f : ε → ε'} {x : EStateM ε σ α} {s t : σ} {a : α} :
    EStateM.adaptExcept f x s = .ok a t ↔ x s = .ok a t := by
  unfold EStateM.adaptExcept
  cases x s <;> simp

/-- An action with a fixed answer and a failure that is reworded: its run is that of the action. -/
lemma adaptExcept_bind_pure_run (f : ε → ε') (x : EStateM ε σ α) (b : β) (s : σ) :
    (EStateM.adaptExcept f x >>= fun _ => pure b) s = match x s with
      | .ok _ t => .ok b t
      | .error e t => .error (f e) t := by
  rw [bind_run, EStateM.adaptExcept]
  cases x s <;> rfl

/-- An action that only gives a result leaves the state as it is. -/
theorem pure_eq_ok_iff {s t : σ} {a b : α} :
    (pure a : EStateM ε σ α) s = .ok b t ↔ a = b ∧ s = t := by
  show EStateM.Result.ok a s = .ok b t ↔ _
  simp

/-- A successful run over a list starts with a run for its first element. -/
theorem mapM_cons_eq_ok_iff {f : α → EStateM ε σ β} {x : α} {xs : List α} {s t : σ}
    {ys : List β} :
    (x :: xs).mapM f s = .ok ys t ↔
      ∃ y r zs, f x s = .ok y r ∧ xs.mapM f r = .ok zs t ∧ ys = y :: zs := by
  rw [List.mapM_cons, bind_eq_ok_iff]
  constructor
  · rintro ⟨y, r, hy, h⟩
    obtain ⟨zs, r', hzs, h⟩ := bind_eq_ok_iff.1 h
    obtain ⟨rfl, rfl⟩ := pure_eq_ok_iff.1 h
    exact ⟨y, r, zs, hy, hzs, rfl⟩
  · rintro ⟨y, r, zs, hy, hzs, rfl⟩
    exact ⟨y, r, hy, bind_eq_ok_iff.2 ⟨zs, t, hzs, rfl⟩⟩

/-- A run over no element changes nothing. -/
theorem mapM_nil_eq_ok_iff {f : α → EStateM ε σ β} {s t : σ} {ys : List β} :
    ([] : List α).mapM f s = .ok ys t ↔ ys = [] ∧ s = t := by
  rw [List.mapM_nil, pure_eq_ok_iff, eq_comm]

/-- A successful run over two lists in a row is a run over each. -/
theorem mapM_append_eq_ok_iff {f : α → EStateM ε σ β} {xs xs' : List α} {s t : σ}
    {ys : List β} :
    (xs ++ xs').mapM f s = .ok ys t ↔
      ∃ r zs zs', xs.mapM f s = .ok zs r ∧ xs'.mapM f r = .ok zs' t ∧ ys = zs ++ zs' := by
  induction xs generalizing s ys with
  | nil =>
    constructor
    · intro h
      exact ⟨s, [], ys, mapM_nil_eq_ok_iff.2 ⟨rfl, rfl⟩, h, rfl⟩
    · rintro ⟨r, zs, zs', h, h', rfl⟩
      obtain ⟨rfl, rfl⟩ := mapM_nil_eq_ok_iff.1 h
      exact h'
  | cons x xs ih =>
    rw [List.cons_append, mapM_cons_eq_ok_iff]
    constructor
    · rintro ⟨y, r, ws, hy, hws, rfl⟩
      obtain ⟨r', zs, zs', hzs, hzs', rfl⟩ := ih.1 hws
      exact ⟨r', y :: zs, zs', mapM_cons_eq_ok_iff.2 ⟨y, r, zs, hy, hzs, rfl⟩, hzs', rfl⟩
    · rintro ⟨r', zs, zs', hzs, hzs', rfl⟩
      obtain ⟨y, r, ws, hy, hws, rfl⟩ := mapM_cons_eq_ok_iff.1 hzs
      exact ⟨y, r, ws ++ zs', hy, ih.2 ⟨r', ws, zs', hws, hzs', rfl⟩, rfl⟩

/-! ## Failed runs -/

/-- A run of two actions in a row fails exactly if the first one does, or the second one from the
state in which the first one ends. -/
theorem bind_eq_error_iff {x : EStateM ε σ α} {f : α → EStateM ε σ β} {s t : σ} {e : ε} :
    (x >>= f) s = .error e t ↔
      x s = .error e t ∨ ∃ a r, x s = .ok a r ∧ f a r = .error e t := by
  rw [bind_run]
  cases x s <;> simp

/-- An action that only gives a result does not fail. -/
lemma pure_ne_error {s t : σ} {a : α} {e : ε} : (pure a : EStateM ε σ α) s ≠ .error e t :=
  nofun

/-- A run over a list fails exactly if one of its elements does, after those in front of it have
had their turns.

**Proof sketch.** By induction on the list. The first element fails, or it has its turn and the
rest fails; in the second case the turn of the first element is put in front of the turns that the
rest had. -/
theorem mapM_eq_error_iff {f : α → EStateM ε σ β} {xs : List α} {s t : σ} {e : ε} :
    xs.mapM f s = .error e t ↔
      ∃ front x back ys r, xs = front ++ x :: back ∧ front.mapM f s = .ok ys r ∧
        f x r = .error e t := by
  induction xs generalizing s with
  | nil =>
    refine iff_of_false pure_ne_error ?_
    rintro ⟨front, x, back, -, -, h, -⟩
    simp at h
  | cons x xs ih =>
    rw [List.mapM_cons]
    simp only [bind_eq_error_iff, pure_ne_error, and_false, exists_false, or_false, ih]
    constructor
    · rintro (hx | ⟨y, r, hy, front, z, back, ys, r', rfl, hfront, hz⟩)
      · exact ⟨[], x, xs, [], s, rfl, mapM_nil_eq_ok_iff.2 ⟨rfl, rfl⟩, hx⟩
      · exact ⟨x :: front, z, back, y :: ys, r', rfl,
          mapM_cons_eq_ok_iff.2 ⟨y, r, ys, hy, hfront, rfl⟩, hz⟩
    · rintro ⟨front, z, back, ys, r, hxs, hfront, hz⟩
      cases front with
      | nil =>
        obtain ⟨rfl, rfl⟩ := List.cons.inj hxs
        obtain ⟨-, rfl⟩ := mapM_nil_eq_ok_iff.1 hfront
        exact Or.inl hz
      | cons w front =>
        obtain ⟨rfl, rfl⟩ := List.cons.inj hxs
        obtain ⟨y, r', zs, hy, hzs, -⟩ := mapM_cons_eq_ok_iff.1 hfront
        exact Or.inr ⟨y, r', hy, front, z, back, zs, r, rfl, hzs, hz⟩

/-! ## The turns of a run over a list -/

/-- In a run over a list the turn of an element comes, between a state and the next one. Those in
front of it have had their turns, and those behind it have theirs later. -/
structure Turn (f : α → EStateM ε σ β) (xs : List α) (s t : σ) (x : α) (y : β) (s' t' : σ) :
    Prop where
  /-- The run takes the elements in their order. -/
  order : ∃ front back ys zs, xs = front ++ x :: back ∧ front.mapM f s = .ok ys s' ∧
    back.mapM f t' = .ok zs t
  /-- What the element does at its turn. -/
  run : f x s' = .ok y t'

/-- Every element has its turn. -/
lemma exists_turn {f : α → EStateM ε σ β} {xs : List α} {s t : σ} {ys : List β}
    (h : xs.mapM f s = .ok ys t) {x : α} (hx : x ∈ xs) :
    ∃ y s' t', y ∈ ys ∧ Turn f xs s t x y s' t' := by
  obtain ⟨front, back, rfl⟩ := List.append_of_mem hx
  obtain ⟨s', zs, zs', hfront, hback, rfl⟩ := mapM_append_eq_ok_iff.1 h
  obtain ⟨y, t', ws, hy, hws, rfl⟩ := mapM_cons_eq_ok_iff.1 hback
  exact ⟨y, s', t', by simp, ⟨front, back, zs, ws, rfl, hfront, hws⟩, hy⟩

/-- Every result is that of a turn. -/
lemma exists_turn_of_result {f : α → EStateM ε σ β} {xs : List α} {s t : σ} {ys : List β}
    (h : xs.mapM f s = .ok ys t) {y : β} (hy : y ∈ ys) :
    ∃ x s' t', x ∈ xs ∧ Turn f xs s t x y s' t' := by
  induction xs generalizing s ys with
  | nil =>
    obtain ⟨rfl, -⟩ := mapM_nil_eq_ok_iff.1 h
    simp at hy
  | cons a xs ih =>
    obtain ⟨b, r, zs, hb, hzs, rfl⟩ := mapM_cons_eq_ok_iff.1 h
    rcases List.mem_cons.1 hy with rfl | hy
    · exact ⟨a, s, r, List.mem_cons_self,
        ⟨[], xs, [], zs, rfl, mapM_nil_eq_ok_iff.2 ⟨rfl, rfl⟩, hzs⟩, hb⟩
    · obtain ⟨x, s', t', hx, ⟨front, back, us, vs, rfl, hfront, hback⟩, hrun⟩ := ih hzs hy
      exact ⟨x, s', t', List.mem_cons_of_mem _ hx, ⟨a :: front, back, b :: us, vs, rfl,
        mapM_cons_eq_ok_iff.2 ⟨b, r, us, hb, hfront, rfl⟩, hback⟩, hrun⟩

/-- The element of a turn is one of the list. -/
lemma Turn.mem_list {f : α → EStateM ε σ β} {xs : List α} {s t : σ} {x : α} {y : β} {s' t' : σ}
    (h : Turn f xs s t x y s' t') : x ∈ xs := by
  obtain ⟨front, back, -, -, rfl, -, -⟩ := h.order
  exact List.mem_append_right _ List.mem_cons_self

/-- A stretch of a run and the step behind it are a stretch of the run. -/
private lemma mapM_concat_eq_ok {f : α → EStateM ε σ β} {front : List α} {x : α} {ys : List β}
    {y : β} {s r t : σ} (hfront : front.mapM f s = .ok ys r) (hx : f x r = .ok y t) :
    (front ++ [x]).mapM f s = .ok (ys ++ [y]) t :=
  mapM_append_eq_ok_iff.2 ⟨r, ys, [y], hfront,
    mapM_cons_eq_ok_iff.2 ⟨y, t, [], hx, mapM_nil_eq_ok_iff.2 ⟨rfl, rfl⟩, rfl⟩, rfl⟩

/-- What the turns of a stretch of a run keep, the stretch keeps.

**Proof sketch.** By induction on the stretch. Its first turn is a turn of the whole run, so it
keeps the property, and with it at the end of what stands in front, the rest of the stretch is one
that the induction speaks of. -/
lemma mapM_keeps_of_turns {f : α → EStateM ε σ β} {P : σ → Prop} {front xs back : List α}
    {s s' t' t : σ} {ys zs ws : List β} (hfront : front.mapM f s = .ok ys s')
    (hxs : xs.mapM f s' = .ok zs t') (hback : back.mapM f t' = .ok ws t)
    (h : ∀ x ∈ xs, ∀ y ∈ zs, ∀ a b, Turn f (front ++ (xs ++ back)) s t x y a b → P a → P b)
    (hs : P s') : P t' := by
  induction xs generalizing front s' ys zs with
  | nil =>
    obtain ⟨-, rfl⟩ := mapM_nil_eq_ok_iff.1 hxs
    exact hs
  | cons x xs ih =>
    obtain ⟨y, r, us, hy, hus, rfl⟩ := mapM_cons_eq_ok_iff.1 hxs
    have hturn : Turn f (front ++ (x :: xs ++ back)) s t x y s' r :=
      ⟨⟨front, xs ++ back, ys, us ++ ws, rfl, hfront,
        mapM_append_eq_ok_iff.2 ⟨t', us, ws, hus, hback, rfl⟩⟩, hy⟩
    have hfront' : (front ++ [x]).mapM f s = .ok (ys ++ [y]) r := mapM_concat_eq_ok hfront hy
    have happend : front ++ [x] ++ (xs ++ back) = front ++ (x :: xs ++ back) := by simp
    refine ih hfront' hus (fun x' hx' y' hy' a b hturn' => ?_)
      (h x List.mem_cons_self y List.mem_cons_self s' r hturn hs)
    rw [happend] at hturn'
    exact h x' (List.mem_cons_of_mem _ hx') y' (List.mem_cons_of_mem _ hy') a b hturn'

/-- The results of a run are those in front of a turn, that of the turn and those behind it; and
what the turns behind it keep holds at the end if it holds after the turn. -/
lemma Turn.exists_behind {f : α → EStateM ε σ β} {xs : List α} {s t : σ} {x : α} {y : β} {s' t' : σ}
    (h : Turn f xs s t x y s' t') : ∃ front back zs ws, xs = front ++ x :: back ∧
      xs.mapM f s = .ok (zs ++ y :: ws) t ∧ ∀ P : σ → Prop,
        (∀ x' ∈ back, ∀ y' ∈ ws, ∀ a b, Turn f xs s t x' y' a b → P a → P b) → P t' → P t := by
  obtain ⟨front, back, zs, ws, rfl, hfront, hback⟩ := h.order
  have hall : (front ++ x :: back).mapM f s = .ok (zs ++ y :: ws) t :=
    mapM_append_eq_ok_iff.2 ⟨s', zs, y :: ws, hfront,
      mapM_cons_eq_ok_iff.2 ⟨y, t', ws, h.run, hback, rfl⟩, rfl⟩
  have hfront' : (front ++ [x]).mapM f s = .ok (zs ++ [y]) t' := mapM_concat_eq_ok hfront h.run
  have happend : front ++ [x] ++ (back ++ []) = front ++ x :: back := by simp
  refine ⟨front, back, zs, ws, rfl, hall, fun P hturns ht' => ?_⟩
  refine mapM_keeps_of_turns hfront' hback (mapM_nil_eq_ok_iff.2 ⟨rfl, rfl⟩)
    (fun x' hx' y' hy' a b hturn => ?_) ht'
  rw [happend] at hturn
  exact hturns x' hx' y' hy' a b hturn

/-- The result of a turn is one of the run. -/
lemma Turn.mem {f : α → EStateM ε σ β} {xs : List α} {s t : σ} {x : α} {y : β} {s' t' : σ}
    (h : Turn f xs s t x y s' t') {ys : List β} (hrun : xs.mapM f s = .ok ys t) : y ∈ ys := by
  obtain ⟨front, back, zs, ws, -, hall, -⟩ := h.exists_behind
  rw [hall] at hrun
  obtain ⟨rfl, -⟩ : zs ++ y :: ws = ys ∧ t = t := by simpa using hrun
  simp

section Around

variable {f : α → EStateM ε σ β} {P : σ → Prop} {xs : List α} {s t : σ} {x : α} {y : β}
  {s' t' : σ} (h : Turn f xs s t x y s' t') (hxs : xs.Nodup)
  (hturns : ∀ x' ∈ xs, x' ≠ x → ∀ y' a b, Turn f xs s t x' y' a b → P a → P b)

include h hxs hturns

/-- What the other turns keep still holds when the turn of an element comes. -/
lemma Turn.keeps_before (hs : P s) : P s' := by
  obtain ⟨front, back, zs, ws, rfl, hfront, hback⟩ := h.order
  have hx : x ∉ front := fun hmem =>
    (List.nodup_append.1 hxs).2.2 x hmem x List.mem_cons_self rfl
  have hback' : (x :: back).mapM f s' = .ok (y :: ws) t :=
    mapM_cons_eq_ok_iff.2 ⟨y, t', ws, h.run, hback, rfl⟩
  refine mapM_keeps_of_turns (mapM_nil_eq_ok_iff.2 ⟨rfl, rfl⟩) hfront hback'
    (fun x' hx' y' _ => hturns x' (List.mem_append_left _ hx') (fun heq => hx (heq ▸ hx')) y') hs

/-- What the other turns keep holds at the end if it holds after the turn of an element. -/
lemma Turn.keeps_after (ht' : P t') : P t := by
  obtain ⟨front, back, zs, ws, rfl, -, hkeeps⟩ := h.exists_behind
  have hx : x ∉ back := (List.nodup_cons.1 (List.nodup_append.1 hxs).2.1).1
  apply hkeeps P _ ht'
  intro x' hx' y' _ a b hturn
  exact hturns x' (by simp [hx']) (fun heq => hx (heq ▸ hx')) y' a b hturn

end Around

/-- What every turn of a run keeps, the run keeps. -/
lemma mapM_keeps {f : α → EStateM ε σ β} {P : σ → Prop} {xs : List α} {s t : σ} {ys : List β}
    (h : xs.mapM f s = .ok ys t)
    (hturn : ∀ x ∈ xs, ∀ y a b, Turn f xs s t x y a b → P a → P b) (hs : P s) : P t := by
  have hnil : ∀ r : σ, ([] : List α).mapM f r = .ok [] r := fun r =>
    mapM_nil_eq_ok_iff.2 ⟨rfl, rfl⟩
  apply mapM_keeps_of_turns (hnil s) h (hnil t) _ hs
  intro x hx y _ a b ht
  rw [List.nil_append, List.append_nil] at ht
  exact hturn x hx y a b ht

/-- In a stretch of a run every element and its result have a turn. -/
private lemma forall₂_of_stretch {f : α → EStateM ε σ β} {front xs : List α} {s s' t : σ}
    {ys zs : List β} (hfront : front.mapM f s = .ok ys s') (hxs : xs.mapM f s' = .ok zs t) :
    List.Forall₂ (fun x y => ∃ a b, Turn f (front ++ xs) s t x y a b) xs zs := by
  induction xs generalizing front s' ys zs with
  | nil =>
    obtain ⟨rfl, rfl⟩ := mapM_nil_eq_ok_iff.1 hxs
    exact .nil
  | cons x xs ih =>
    obtain ⟨y, r, us, hy, hus, rfl⟩ := mapM_cons_eq_ok_iff.1 hxs
    have hfront' : (front ++ [x]).mapM f s = .ok (ys ++ [y]) r := mapM_concat_eq_ok hfront hy
    have hrest := ih hfront' hus
    rw [List.append_assoc, List.singleton_append] at hrest
    exact .cons ⟨s', r, ⟨front, xs, ys, us, rfl, hfront, hus⟩, hy⟩ hrest

/-- What holds of the result of each turn, given its element, is read off the results of a run in
order. -/
lemma map_mapM_eq_map {γ : Type} {f : α → EStateM ε σ β} {g : α → γ} {φ : β → γ} {xs : List α}
    {s t : σ} {ys : List β} (hrun : xs.mapM f s = .ok ys t)
    (h : ∀ x ∈ xs, ∀ y a b, Turn f xs s t x y a b → φ y = g x) : ys.map φ = xs.map g := by
  have hturns : List.Forall₂ (fun x y => ∃ a b, Turn f xs s t x y a b) xs ys :=
    forall₂_of_stretch (mapM_nil_eq_ok_iff.2 ⟨rfl, rfl⟩) hrun
  have hresults : List.Forall₂ (fun x y => φ y = g x) xs ys := by
    refine hturns.imp ?_
    rintro x y ⟨a, b, hturn⟩
    exact h x hturn.mem_list y a b hturn
  rw [eq_comm, ← List.forall₂_eq_eq_eq, List.forall₂_map_left_iff, List.forall₂_map_right_iff]
  exact hresults.imp fun x y h => h.symm

/-- The results of a run are those of its turns. -/
lemma mapM_eq_map {f : α → EStateM ε σ β} {g : α → β} {xs : List α} {s t : σ} {ys : List β}
    (hrun : xs.mapM f s = .ok ys t)
    (h : ∀ x ∈ xs, ∀ y a b, Turn f xs s t x y a b → y = g x) : ys = xs.map g := by
  have hmap : ys.map id = xs.map g := map_mapM_eq_map hrun h
  rwa [List.map_id] at hmap

/-! ## Runs from related states -/

/-- A run has its like from every related state: it gives the same result and ends in a related
state. -/
def Mirrored (R : σ → σ → Prop) (x : EStateM ε σ α) (s : σ) (a : α) (t : σ) : Prop :=
  ∀ s', R s s' → ∃ t', x s' = .ok a t' ∧ R t t'

/-- A stretch of a run has its like from every related state if its turns have.

**Proof sketch.** By induction on the stretch. The first turn has its like from the related state
and leads to related states again, from which the rest of the stretch has its like. -/
private lemma mirrored_of_turns {R : σ → σ → Prop} {f : α → EStateM ε σ β} {front xs : List α}
    {s s' t : σ} {ys zs : List β} (hfront : front.mapM f s = .ok ys s')
    (hxs : xs.mapM f s' = .ok zs t)
    (h : ∀ x ∈ xs, ∀ y a b, Turn f (front ++ xs) s t x y a b → Mirrored R (f x) a y b) :
    Mirrored R (xs.mapM f) s' zs t := by
  induction xs generalizing front s' ys zs with
  | nil =>
    obtain ⟨rfl, rfl⟩ := mapM_nil_eq_ok_iff.1 hxs
    exact fun d hd => ⟨d, mapM_nil_eq_ok_iff.2 ⟨rfl, rfl⟩, hd⟩
  | cons x xs ih =>
    obtain ⟨y, r, us, hy, hus, rfl⟩ := mapM_cons_eq_ok_iff.1 hxs
    have hturn : Turn f (front ++ x :: xs) s t x y s' r :=
      ⟨⟨front, xs, ys, us, rfl, hfront, hus⟩, hy⟩
    have hfront' : (front ++ [x]).mapM f s = .ok (ys ++ [y]) r := mapM_concat_eq_ok hfront hy
    have hrest : Mirrored R (xs.mapM f) r us t := by
      apply ih hfront' hus
      intro x' hx' y' a b hturn'
      rw [List.append_assoc, List.singleton_append] at hturn'
      exact h x' (List.mem_cons_of_mem _ hx') y' a b hturn'
    intro d hd
    obtain ⟨d', hd', hrel⟩ := h x List.mem_cons_self y s' r hturn d hd
    obtain ⟨d'', hd'', hrel'⟩ := hrest d' hrel
    exact ⟨d'', mapM_cons_eq_ok_iff.2 ⟨y, d', us, hd', hd'', rfl⟩, hrel'⟩

/-- **A run over a list has its like from every related state** if its turns have. -/
theorem mapM_mirrored {R : σ → σ → Prop} {f : α → EStateM ε σ β} {xs : List α} {s t : σ}
    {ys : List β} (hrun : xs.mapM f s = .ok ys t)
    (h : ∀ x ∈ xs, ∀ y a b, Turn f xs s t x y a b → Mirrored R (f x) a y b) :
    Mirrored R (xs.mapM f) s ys t :=
  mirrored_of_turns (mapM_nil_eq_ok_iff.2 ⟨rfl, rfl⟩) hrun h

/-- A run that counts goes through the elements and adds up what they give.

**Proof sketch.** By induction on the list, for every count to start with: what the first element
gives is added to the count before the rest is gone through. -/
lemma foldlM_add_eq_ok_iff {g : α → EStateM ε σ ℕ} {xs : List α} {c k : ℕ} {s t : σ} :
    (xs.foldlM (fun n x => do return n + (← g x)) c : EStateM ε σ ℕ) s = .ok k t ↔
      ∃ ks, xs.mapM g s = .ok ks t ∧ k = c + ks.sum := by
  induction xs generalizing c s with
  | nil =>
    rw [List.foldlM_nil, pure_eq_ok_iff]
    constructor
    · rintro ⟨rfl, rfl⟩
      exact ⟨[], mapM_nil_eq_ok_iff.2 ⟨rfl, rfl⟩, rfl⟩
    · rintro ⟨ks, hks, rfl⟩
      obtain ⟨rfl, rfl⟩ := mapM_nil_eq_ok_iff.1 hks
      exact ⟨rfl, rfl⟩
  | cons x xs ih =>
    simp only [List.foldlM_cons, bind_eq_ok_iff, pure_eq_ok_iff, mapM_cons_eq_ok_iff]
    constructor
    · rintro ⟨b, r, ⟨j, r', hj, rfl, rfl⟩, h⟩
      obtain ⟨ks, hks, rfl⟩ := ih.1 h
      exact ⟨j :: ks, ⟨j, r', ks, hj, hks, rfl⟩, by simp [Nat.add_assoc]⟩
    · rintro ⟨_, ⟨j, r, ks, hj, hks, rfl⟩, rfl⟩
      exact ⟨c + j, r, ⟨j, r, hj, rfl, rfl⟩, ih.2 ⟨ks, hks, by simp [Nat.add_assoc]⟩⟩

/-! ## What every run keeps -/

/-- The state in which a run ends, whether it succeeds or fails. -/
def stateAfter (x : EStateM ε σ α) (s : σ) : σ :=
  match x s with
  | .ok _ t => t
  | .error _ t => t

/-- A successful run ends in the state that it gives. -/
theorem stateAfter_of_eq_ok {x : EStateM ε σ α} {s t : σ} {a : α} (h : x s = .ok a t) :
    stateAfter x s = t := by
  rw [stateAfter, h]

/-- A failed run ends in the state in which the failure arose. -/
theorem stateAfter_of_eq_error {x : EStateM ε σ α} {s t : σ} {e : ε} (h : x s = .error e t) :
    stateAfter x s = t := by
  rw [stateAfter, h]

/-- Looking at the state changes nothing. -/
lemma stateAfter_get_bind (f : σ → EStateM ε σ α) (s : σ) :
    stateAfter (get >>= f) s = stateAfter (f s) s := rfl

/-- Two actions in a row end where the first one fails or the second one ends. -/
lemma stateAfter_bind (x : EStateM ε σ α) (f : α → EStateM ε σ β) (s : σ) :
    stateAfter (x >>= f) s = match x s with
      | .ok a t => stateAfter (f a) t
      | .error _ t => t := by
  rw [stateAfter, bind_run]
  cases x s <;> rfl

/-- Giving another result changes nothing. -/
lemma stateAfter_bind_pure (x : EStateM ε σ α) (g : α → β) (s : σ) :
    stateAfter (x >>= fun a => pure (g a)) s = stateAfter x s := by
  rw [stateAfter_bind, stateAfter]
  cases x s <;> rfl

/-- Every run of an action, successful or not, keeps a property of the state. -/
def Keeps (I : σ → Prop) (x : EStateM ε σ α) : Prop := ∀ s, I s → I (stateAfter x s)

variable {I : σ → Prop}

/-- What every run keeps holds after a successful one. -/
theorem Keeps.of_eq_ok {x : EStateM ε σ α} (h : Keeps I x) {s t : σ} {a : α}
    (hx : x s = .ok a t) (hs : I s) : I t := by
  have := h s hs
  rwa [stateAfter_of_eq_ok hx] at this

/-- Giving a result keeps everything. -/
theorem Keeps.pure (a : α) : Keeps I (pure a : EStateM ε σ α) := fun _ h => h

/-- Failing keeps everything. -/
theorem Keeps.throw (e : ε) : Keeps I (throw e : EStateM ε σ α) := fun _ h => h

/-- Looking at the state keeps what is kept from there on, whatever was seen. -/
theorem Keeps.get_bind {f : σ → EStateM ε σ α}
    (h : ∀ s, I s → I (stateAfter (f s) s)) : Keeps I (get >>= f) := h

/-- Two actions in a row keep what each of them keeps. -/
theorem Keeps.bind {x : EStateM ε σ α} {f : α → EStateM ε σ β} (hx : Keeps I x)
    (hf : ∀ a, Keeps I (f a)) : Keeps I (x >>= f) := by
  intro s hs
  have h := hx s hs
  show I (match EStateM.bind x f s with | .ok _ t => t | .error _ t => t)
  unfold stateAfter at h
  unfold EStateM.bind
  cases hxs : x s with
  | ok a t =>
    rw [hxs] at h
    exact hf a t h
  | error e t =>
    rw [hxs] at h
    exact h

/-- An action and what is done about its failure keep what each of them keeps. A failed action
is not undone. -/
theorem Keeps.tryCatch {x : EStateM ε σ α} {f : ε → EStateM ε σ α} (hx : Keeps I x)
    (hf : ∀ e, Keeps I (f e)) : Keeps I (tryCatch x f) := by
  intro s hs
  have h := hx s hs
  show I (match EStateM.tryCatch x f s with | .ok _ t => t | .error _ t => t)
  unfold stateAfter at h
  unfold EStateM.tryCatch
  cases hxs : x s with
  | ok a t =>
    rw [hxs] at h
    exact h
  | error e t =>
    rw [hxs] at h
    exact hf e t h

/-- Rewording a failure keeps what the action keeps. -/
theorem Keeps.adaptExcept {x : EStateM ε σ α} (f : ε → ε') (hx : Keeps I x) :
    Keeps I (EStateM.adaptExcept f x) := by
  intro s hs
  have h := hx s hs
  unfold stateAfter EStateM.adaptExcept at *
  cases hxs : x s <;> simpa [hxs] using h

/-- A run over a list keeps what the run for each element keeps. -/
theorem Keeps.mapM {f : α → EStateM ε σ β} {xs : List α} (h : ∀ x ∈ xs, Keeps I (f x)) :
    Keeps I (xs.mapM f) := by
  induction xs with
  | nil => exact Keeps.pure []
  | cons x xs ih =>
    rw [List.mapM_cons]
    refine (h x List.mem_cons_self).bind fun y => ?_
    exact (ih fun x' hx' => h x' (List.mem_cons_of_mem _ hx')).bind fun ys => Keeps.pure _

/-- What every step of a run keeps holds before and after each turn if it holds at the start. -/
lemma Turn.keeps {f : α → EStateM ε σ β} {xs : List α} {s t : σ} {x : α} {y : β} {s' t' : σ}
    (h : Turn f xs s t x y s' t') (hI : ∀ x ∈ xs, Keeps I (f x)) (hs : I s) : I s' ∧ I t' := by
  obtain ⟨front, back, ys, zs, rfl, hfront, -⟩ := h.order
  have hs' : I s' :=
    (Keeps.mapM fun x hx => hI x (List.mem_append_left _ hx)).of_eq_ok hfront hs
  exact ⟨hs', (hI x (by simp)).of_eq_ok h.run hs'⟩

/-- What every step of a run keeps holds at the end of the run if it holds after a turn. -/
lemma Turn.keeps_end {f : α → EStateM ε σ β} {xs : List α} {s t : σ} {x : α} {y : β} {s' t' : σ}
    (h : Turn f xs s t x y s' t') (hI : ∀ x ∈ xs, Keeps I (f x)) (ht' : I t') : I t := by
  obtain ⟨front, back, ys, zs, rfl, -, hback⟩ := h.order
  exact (Keeps.mapM fun x hx => hI x (by simp [hx])).of_eq_ok hback ht'

/-- A fold over a list keeps what each of its steps keeps. -/
theorem Keeps.foldlM {f : β → α → EStateM ε σ β} {xs : List α}
    (h : ∀ b, ∀ x ∈ xs, Keeps I (f b x)) (b : β) : Keeps I (xs.foldlM f b) := by
  induction xs generalizing b with
  | nil => exact Keeps.pure b
  | cons x xs ih =>
    rw [List.foldlM_cons]
    refine (h b x List.mem_cons_self).bind fun b' => ?_
    exact ih (fun b'' x' hx' => h b'' x' (List.mem_cons_of_mem _ hx')) b'

end StaticSite.Action
