import Mathlib.Logic.Function.Basic
import Mathlib.Tactic.Choose
import UniversityQA.Lib.Coroutine

/-!
# Interleaved programs

A family of programs that take turns, one query at a time, in one world.

* `Interleaved step pool s tr o s'`: the programs of `pool` can run to their
  outcomes `o` in this order of queries;
* `Interleaved.runs`: each of them has run as it may run alone;
* `Interleaved.follows`: the world has gone through all the queries in turn;
* `Turns step pool s tr pool' s'`: the same up to some moment, the programs
  being at `pool'`;
* `GuardedTurns guard …`: each turn taken where `guard` allows it;
* `interleave`: the executable reading for a given schedule.
-/

namespace Coroutine

open Prog

variable {Q ι σ ε α : Type} {A : Q → Type} [DecidableEq ι]

/-- The programs of a pool take turns until each has its outcome. -/
inductive Interleaved (step : σ → (q : Q) → A q → σ → Prop) :
    (ι → Prog Q A ε α) → σ → List (ι × Event Q A) → (ι → Except ε α) → σ → Prop
  | done {s o} : Interleaved step (fun i => Prog.ofExcept (o i)) s [] o s
  | turn {pool s s₁ s' i q k a tr o} : pool i = .ask q k → step s q a s₁ →
      Interleaved step (Function.update pool i (k a)) s₁ tr o s' →
      Interleaved step pool s ((i, ⟨q, a⟩) :: tr) o s'

/-- The events of one program. -/
def eventsOf (i : ι) (tr : List (ι × Event Q A)) : List (Event Q A) :=
  tr.filterMap fun x => if x.1 = i then some x.2 else none

theorem eventsOf_append (i : ι) (t₁ t₂ : List (ι × Event Q A)) :
    eventsOf i (t₁ ++ t₂) = eventsOf i t₁ ++ eventsOf i t₂ := List.filterMap_append

@[simp] theorem eventsOf_cons_self (i : ι) (e : Event Q A) (tr : List (ι × Event Q A)) :
    eventsOf i ((i, e) :: tr) = e :: eventsOf i tr := by
  simp [eventsOf]

theorem eventsOf_cons_ne {i j : ι} (h : j ≠ i) (e : Event Q A) (tr : List (ι × Event Q A)) :
    eventsOf i ((j, e) :: tr) = eventsOf i tr := by
  simp [eventsOf, h]

theorem mem_eventsOf {i : ι} {e : Event Q A} {tr : List (ι × Event Q A)} :
    e ∈ eventsOf i tr ↔ (i, e) ∈ tr := by
  rw [eventsOf, List.mem_filterMap]
  constructor
  · rintro ⟨⟨j, e'⟩, hmem, heq⟩
    split at heq
    case isTrue hj =>
      cases heq
      cases hj
      exact hmem
    case isFalse => cases heq
  · intro hmem
    exact ⟨(i, e), hmem, if_pos rfl⟩

/-- The first event of a program. -/
theorem exists_first {i : ι} {tr : List (ι × Event Q A)} (h : eventsOf i tr ≠ []) :
    ∃ pre e post, tr = pre ++ (i, e) :: post ∧ eventsOf i pre = [] := by
  induction tr with
  | nil => exact absurd rfl h
  | cons x tr ih =>
    obtain ⟨j, e⟩ := x
    by_cases hj : j = i
    · subst hj
      exact ⟨[], e, tr, rfl, rfl⟩
    · rw [eventsOf_cons_ne hj] at h
      obtain ⟨pre, e', post, rfl, hpre⟩ := ih h
      refine ⟨(j, e) :: pre, e', post, rfl, ?_⟩
      rw [eventsOf_cons_ne hj]
      exact hpre

section Interleaved

variable {step : σ → (q : Q) → A q → σ → Prop} {pool : ι → Prog Q A ε α} {s s' : σ}
  {tr : List (ι × Event Q A)} {o : ι → Except ε α}

/-- **Each program alone.** -/
theorem Interleaved.runs (h : Interleaved step pool s tr o s') (i : ι) :
    Runs (pool i) (eventsOf i tr) (o i) := by
  induction h with
  | @done s o => exact (exec_ofExcept.mpr ⟨rfl, rfl, rfl⟩ : Runs (Prog.ofExcept (o i)) [] (o i))
  | @turn pool s s₁ s' j q k a tr o hask hs _ ih =>
    by_cases hj : j = i
    · subst hj
      rw [Function.update_self] at ih
      rw [eventsOf_cons_self, hask]
      exact runs_ask.mpr ⟨a, _, rfl, ih⟩
    · rw [Function.update_of_ne (Ne.symm hj)] at ih
      rw [eventsOf_cons_ne hj]
      exact ih

/-- **The world.** -/
theorem Interleaved.follows (h : Interleaved step pool s tr o s') :
    Follows step s (tr.map Prod.snd) s' := by
  induction h with
  | done => rfl
  | turn _ hs _ ih => exact ⟨_, hs, ih⟩

/-- **Simulation.** -/
theorem Interleaved.map {τ : Type} {step' : τ → (q : Q) → A q → τ → Prop} (f : σ → τ)
    (hstep : ∀ s q a s', step s q a s' → step' (f s) q a (f s'))
    (h : Interleaved step pool s tr o s') : Interleaved step' pool (f s) tr o (f s') := by
  induction h with
  | done => exact .done
  | turn hask hs _ ih => exact .turn hask (hstep _ _ _ _ hs) ih

end Interleaved

/-! ## Up to some moment -/

/-- The programs of a pool have taken some turns. -/
inductive Turns (step : σ → (q : Q) → A q → σ → Prop) :
    (ι → Prog Q A ε α) → σ → List (ι × Event Q A) → (ι → Prog Q A ε α) → σ → Prop
  | refl {pool s} : Turns step pool s [] pool s
  | turn {pool s s₁ s' i q k a tr pool'} : pool i = .ask q k → step s q a s₁ →
      Turns step (Function.update pool i (k a)) s₁ tr pool' s' →
      Turns step pool s ((i, ⟨q, a⟩) :: tr) pool' s'

section Turns

variable {step : σ → (q : Q) → A q → σ → Prop} {pool pool' : ι → Prog Q A ε α} {s s' : σ}
  {tr : List (ι × Event Q A)}

/-- A finished run is one up to its end. -/
theorem Interleaved.turns {o : ι → Except ε α} (h : Interleaved step pool s tr o s') :
    Turns step pool s tr (fun i => Prog.ofExcept (o i)) s' := by
  induction h with
  | done => exact .refl
  | turn hask hs _ ih => exact .turn hask hs ih

/-- **Each program alone**, up to that moment. -/
theorem Turns.reaches (h : Turns step pool s tr pool' s') (i : ι) :
    Reaches (pool i) (eventsOf i tr) (pool' i) := by
  induction h with
  | refl => exact .refl
  | @turn pool s s₁ s' j q k a tr pool' hask hs _ ih =>
    by_cases hj : j = i
    · subst hj
      rw [Function.update_self] at ih
      rw [eventsOf_cons_self, hask]
      exact .ask ih
    · rw [Function.update_of_ne (Ne.symm hj)] at ih
      rw [eventsOf_cons_ne hj]
      exact ih

theorem Turns.follows (h : Turns step pool s tr pool' s') :
    Follows step s (tr.map Prod.snd) s' := by
  induction h with
  | refl => rfl
  | turn _ hs _ ih => exact ⟨_, hs, ih⟩

end Turns

/-! ## Turns under a condition -/

/-- What a program asks next. -/
def Prog.next : Prog Q A ε α → Option Q
  | .ask q _ => some q
  | _ => none

/-- Each turn is taken where `guard` allows it. -/
inductive GuardedTurns (guard : (ι → Prog Q A ε α) → σ → ι → Event Q A → Prop)
    (step : σ → (q : Q) → A q → σ → Prop) :
    (ι → Prog Q A ε α) → σ → List (ι × Event Q A) → (ι → Prog Q A ε α) → σ → Prop
  | refl {pool s} : GuardedTurns guard step pool s [] pool s
  | turn {pool s s₁ s' i q k a tr pool'} : pool i = .ask q k → step s q a s₁ →
      guard pool s i ⟨q, a⟩ →
      GuardedTurns guard step (Function.update pool i (k a)) s₁ tr pool' s' →
      GuardedTurns guard step pool s ((i, ⟨q, a⟩) :: tr) pool' s'

section GuardedTurns

variable {guard : (ι → Prog Q A ε α) → σ → ι → Event Q A → Prop}
  {step : σ → (q : Q) → A q → σ → Prop} {pool pool' : ι → Prog Q A ε α} {s s' : σ}
  {tr t₁ t₂ : List (ι × Event Q A)}

theorem GuardedTurns.append_inv (h : GuardedTurns guard step pool s (t₁ ++ t₂) pool' s') :
    ∃ pool₁ s₁, GuardedTurns guard step pool s t₁ pool₁ s₁ ∧
      GuardedTurns guard step pool₁ s₁ t₂ pool' s' := by
  induction t₁ generalizing pool s with
  | nil => exact ⟨pool, s, .refl, h⟩
  | cons x t₁ ih =>
    cases h with
    | turn hask hs hguard hrest =>
      obtain ⟨pool₁, s₁, h₁, h₂⟩ := ih hrest
      exact ⟨pool₁, s₁, .turn hask hs hguard h₁, h₂⟩

/-- The last turn of a run. -/
theorem GuardedTurns.last_inv {x : ι × Event Q A}
    (h : GuardedTurns guard step pool s (t₁ ++ [x]) pool' s') :
    ∃ pool₁ s₁ k, GuardedTurns guard step pool s t₁ pool₁ s₁ ∧ pool₁ x.1 = .ask x.2.1 k ∧
      step s₁ x.2.1 x.2.2 s' ∧ guard pool₁ s₁ x.1 x.2 ∧
      pool' = Function.update pool₁ x.1 (k x.2.2) := by
  obtain ⟨pool₁, s₁, h₁, h₂⟩ := h.append_inv
  cases h₂ with
  | turn hask hs hguard hrest =>
    cases hrest
    exact ⟨pool₁, s₁, _, h₁, hask, hs, hguard, rfl⟩

/-- The turns are those of some of the programs. -/
theorem GuardedTurns.restrict {S : ι → Prop} (h : GuardedTurns guard step pool s tr pool' s')
    (hS : ∀ x ∈ tr, S x.1) :
    GuardedTurns (fun pool s i e => guard pool s i e ∧ S i) step pool s tr pool' s' := by
  induction h with
  | refl => exact .refl
  | turn hask hs hguard _ ih =>
    obtain ⟨hi, hrest⟩ := List.forall_mem_cons.1 hS
    exact .turn hask hs ⟨hguard, hi⟩ (ih hrest)

end GuardedTurns

/-! ## Executable schedules -/

/-- The outcome of a program that asks nothing more. -/
def Prog.outcome : Prog Q A ε α → Option (Except ε α)
  | .ret a => some (.ok a)
  | .raise e => some (.error e)
  | .ask _ _ => none

theorem outcome_eq_some {p : Prog Q A ε α} {o : Except ε α} :
    p.outcome = some o ↔ p = Prog.ofExcept o := by
  cases p <;> cases o <;> simp [Prog.outcome, Prog.ofExcept]

/-- Let the programs take turns as scheduled, in the world that answers by
`h`; a turn of a finished program is passed. -/
def interleave (h : σ → (q : Q) → A q × σ) :
    (ι → Prog Q A ε α) → σ → List ι → List (ι × Event Q A) × (ι → Prog Q A ε α) × σ
  | pool, s, [] => ([], pool, s)
  | pool, s, i :: schedule =>
    match pool i with
    | .ask q k =>
      let r := interleave h (Function.update pool i (k (h s q).1)) (h s q).2 schedule
      ((i, ⟨q, (h s q).1⟩) :: r.1, r.2)
    | _ => interleave h pool s schedule

/-- Every answer comes from the world at some time. -/
theorem mem_interleave (h : σ → (q : Q) → A q × σ) (schedule : List ι) (pool : ι → Prog Q A ε α)
    (s : σ) {x : ι × Event Q A} (hx : x ∈ (interleave h pool s schedule).1) :
    ∃ s', x.2.2 = (h s' x.2.1).1 := by
  induction schedule generalizing pool s with
  | nil => cases hx
  | cons i schedule ih =>
    unfold interleave at hx
    cases hi : pool i with
    | ret a =>
      rw [hi] at hx
      exact ih pool s hx
    | raise e =>
      rw [hi] at hx
      exact ih pool s hx
    | ask q k =>
      rw [hi] at hx
      rcases List.mem_cons.1 hx with rfl | hx
      · exact ⟨s, rfl⟩
      · exact ih _ _ hx

theorem interleave_interleaved {step : σ → (q : Q) → A q → σ → Prop} (h : σ → (q : Q) → A q × σ)
    (hstep : ∀ s q, step s q (h s q).1 (h s q).2) (o : ι → Except ε α) (schedule : List ι)
    (pool : ι → Prog Q A ε α) (s : σ)
    (hdone : ∀ i, ((interleave h pool s schedule).2.1 i).outcome = some (o i)) :
    Interleaved step pool s (interleave h pool s schedule).1 o
      (interleave h pool s schedule).2.2 := by
  induction schedule generalizing pool s with
  | nil =>
    have hpool : pool = fun i => Prog.ofExcept (o i) := funext fun i => outcome_eq_some.mp (hdone i)
    rw [hpool]
    exact .done
  | cons i schedule ih =>
    unfold interleave at hdone ⊢
    cases hi : pool i with
    | ret a =>
      rw [hi] at hdone
      exact ih pool s hdone
    | raise e =>
      rw [hi] at hdone
      exact ih pool s hdone
    | ask q k =>
      rw [hi] at hdone
      exact .turn hi (hstep s q) (ih _ _ hdone)

/-- **Schedules.**  A schedule that leaves no program unfinished is an
interleaved run. -/
theorem exists_interleaved (step : σ → (q : Q) → A q → σ → Prop) (h : σ → (q : Q) → A q × σ)
    (hstep : ∀ s q, step s q (h s q).1 (h s q).2) (schedule : List ι) (pool : ι → Prog Q A ε α)
    (s : σ) (hdone : ∀ i, ((interleave h pool s schedule).2.1 i).outcome.isSome) :
    ∃ o, (∀ i, ((interleave h pool s schedule).2.1 i).outcome = some (o i)) ∧
      Interleaved step pool s (interleave h pool s schedule).1 o
        (interleave h pool s schedule).2.2 := by
  choose o ho using fun i => Option.isSome_iff_exists.mp (hdone i)
  exact ⟨o, ho, interleave_interleaved h hstep o schedule pool s ho⟩

end Coroutine
