import UniversityQA.Lib.Interleaving

/-!
# Programs in phases

An automaton says in which phase a program may ask what, and which phase the
answer leads to.

* `Typestate.Obeys P φ p`: from phase `φ` on, `p` asks what it may and ends
  where it may;
* `GuardedTurns.typestate`: an invariant of the world and of everybody's phase
  holds along the runs of programs that obey.
-/

namespace Coroutine

variable {Q Φ ι σ ε α β : Type} {A : Q → Type}

/-- Phases, the queries they allow, where an answer leads and where to end. -/
structure Typestate (Q : Type) (A : Q → Type) (Φ : Type) where
  allows : Φ → Q → Prop
  after : Φ → Event Q A → Φ
  final : Φ → Prop

namespace Typestate

variable {P : Typestate Q A Φ} {φ : Φ}

def Obeys (P : Typestate Q A Φ) : Φ → Prog Q A ε α → Prop
  | φ, .ret _ => P.final φ
  | φ, .raise _ => P.final φ
  | φ, .ask q k => P.allows φ q ∧ ∀ a, P.Obeys (P.after φ ⟨q, a⟩) (k a)

theorem obeys_ask {q : Q} {k : A q → Prog Q A ε α} :
    P.Obeys φ (.ask q k) ↔ P.allows φ q ∧ ∀ a, P.Obeys (P.after φ ⟨q, a⟩) (k a) := Iff.rfl

/-- A program whose queries do not change the phase. -/
theorem obeys_of_asks {C : Q → Prop} (hfinal : P.final φ)
    (hstay : ∀ q, C q → P.allows φ q ∧ ∀ a, P.after φ ⟨q, a⟩ = φ) {p : Prog Q A ε α}
    (hp : p.Asks C) : P.Obeys φ p := by
  induction p with
  | ret a => exact hfinal
  | raise e => exact hfinal
  | ask q k ih =>
    obtain ⟨hallows, hafter⟩ := hstay q hp.1
    refine ⟨hallows, fun a => ?_⟩
    rw [hafter a]
    exact ih a (hp.2 a)

/-- **Sequencing.** -/
theorem obeys_bind {p : Prog Q A ε α} {f : α → Prog Q A ε β} (hp : P.Obeys φ p)
    (hf : ∀ ψ, P.final ψ → ∀ a, P.Obeys ψ (f a)) : P.Obeys φ (p >>= f) := by
  induction p generalizing φ with
  | ret a => exact hf φ hp a
  | raise e => exact hp
  | ask q k ih => exact ⟨hp.1, fun a => ih a (hp.2 a)⟩

/-- **Handlers.** -/
theorem obeys_tryCatch {p : Prog Q A ε α} {h : ε → Prog Q A ε α} (hp : P.Obeys φ p)
    (hh : ∀ ψ, P.final ψ → ∀ e, P.Obeys ψ (h e)) : P.Obeys φ (p.tryCatch h) := by
  induction p generalizing φ with
  | ret a => exact hp
  | raise e => exact hh φ hp e
  | ask q k ih => exact ⟨hp.1, fun a => ih a (hp.2 a)⟩

/-- In a phase where it must not end, a program asks. -/
theorem Obeys.next_of_not_final {p : Prog Q A ε α} (h : P.Obeys φ p) (hfinal : ¬ P.final φ) :
    ∃ q, p.next = some q ∧ P.allows φ q := by
  cases p with
  | ret a => exact absurd h hfinal
  | raise e => exact absurd h hfinal
  | ask q k => exact ⟨q, rfl, h.1⟩

end Typestate

variable [DecidableEq ι] {guard : (ι → Prog Q A ε α) → σ → ι → Event Q A → Prop}
  {step : σ → (q : Q) → A q → σ → Prop} {pool pool' : ι → Prog Q A ε α} {s s' : σ}
  {tr : List (ι × Event Q A)}

/-- Everybody's phase after the turns. -/
def Typestate.phases (P : Typestate Q A Φ) (φ : ι → Φ) (tr : List (ι × Event Q A)) (j : ι) : Φ :=
  (eventsOf j tr).foldl P.after (φ j)

theorem Typestate.phases_cons (P : Typestate Q A Φ) (φ : ι → Φ) (i : ι) (e : Event Q A)
    (tr : List (ι × Event Q A)) :
    P.phases φ ((i, e) :: tr) = P.phases (Function.update φ i (P.after (φ i) e)) tr := by
  funext j
  unfold Typestate.phases
  by_cases hj : j = i
  · subst hj
    rw [eventsOf_cons_self, List.foldl_cons, Function.update_self]
  · rw [eventsOf_cons_ne (Ne.symm hj), Function.update_of_ne hj]

theorem Typestate.phases_append (P : Typestate Q A Φ) (φ : ι → Φ) (t₁ t₂ : List (ι × Event Q A)) :
    P.phases φ (t₁ ++ t₂) = P.phases (P.phases φ t₁) t₂ := by
  funext j
  rw [Typestate.phases, eventsOf_append, List.foldl_append]
  rfl

theorem Typestate.phases_concat (P : Typestate Q A Φ) (φ : ι → Φ) (tr : List (ι × Event Q A))
    (x : ι × Event Q A) : P.phases φ (tr ++ [x]) =
      Function.update (P.phases φ tr) x.1 (P.after (P.phases φ tr x.1) x.2) := by
  rw [P.phases_append, P.phases_cons]
  rfl

/-- **Invariants of phases.** -/
theorem GuardedTurns.typestate (P : Typestate Q A Φ) {I : (ι → Φ) → σ → Prop}
    (h : GuardedTurns guard step pool s tr pool' s')
    (hstep : ∀ pool φ s i q a s', (∀ j, P.Obeys (φ j) (pool j)) → I φ s → P.allows (φ i) q →
      step s q a s' → guard pool s i ⟨q, a⟩ →
      I (Function.update φ i (P.after (φ i) ⟨q, a⟩)) s')
    {φ : ι → Φ} (hφ : ∀ j, P.Obeys (φ j) (pool j)) (hI : I φ s) :
    (∀ j, P.Obeys (P.phases φ tr j) (pool' j)) ∧ I (P.phases φ tr) s' := by
  induction h generalizing φ with
  | refl => exact ⟨hφ, hI⟩
  | @turn pool s s₁ s' i q k a tr pool' hask hs hguard _ ih =>
    have hi := hφ i
    rw [hask, Typestate.obeys_ask] at hi
    rw [P.phases_cons]
    refine ih (fun j => ?_) (hstep pool φ s i q a s₁ hφ hI hi.1 hs hguard)
    by_cases hj : j = i
    · subst hj
      rw [Function.update_self, Function.update_self]
      exact hi.2 a
    · rw [Function.update_of_ne hj, Function.update_of_ne hj]
      exact hφ j

end Coroutine
