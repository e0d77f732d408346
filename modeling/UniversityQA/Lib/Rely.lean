import UniversityQA.Lib.Expansion

/-!
# Programs that rely on their answers

What a program asks may depend on what it was told: one that is told that a
door is open need not open it.

* `Prog.AsksWhile P C p`: as long as the answers satisfy `P`, all queries of `p`
  satisfy `C`; the rules take programs apart;
* `Prog.Ensures P M p`: as long as they do, what `p` returns satisfies `M`;
* `asksWhile_of_runs`: it can be read off the runs; `Reaches.asked`: what it says
  about a run, query by query;
* `Exec.rely`, `Turns.rely`: in a world that gives such answers to such queries,
  alone or with any number of others, nothing else is ever asked.
-/

namespace Coroutine

variable {Q R ι σ ε δ α β : Type} {A : Q → Type} {B : R → Type}

/-- As long as the answers satisfy `P`, all queries satisfy `C`. -/
def Prog.AsksWhile (P : Event Q A → Prop) (C : Q → Prop) : Prog Q A ε α → Prop
  | .ret _ => True
  | .raise _ => True
  | .ask q k => C q ∧ ∀ a, P ⟨q, a⟩ → (k a).AsksWhile P C

theorem asks_mono {C C' : Q → Prop} (hC : ∀ q, C q → C' q) {p : Prog Q A ε α} (hp : p.Asks C) :
    p.Asks C' := by
  induction p with
  | ret a => trivial
  | raise e => trivial
  | ask q k ih => exact ⟨hC q hp.1, fun a => ih a (hp.2 a)⟩

/-- As long as the answers satisfy `P`, what is returned satisfies `M`. -/
def Prog.Ensures (P : Event Q A → Prop) (M : α → Prop) : Prog Q A ε α → Prop
  | .ret a => M a
  | .raise _ => True
  | .ask q k => ∀ a, P ⟨q, a⟩ → (k a).Ensures P M

section Rules

variable {P : Event Q A → Prop} {C : Q → Prop}

theorem ensures_of_forall {M : α → Prop} (hM : ∀ a, M a) (p : Prog Q A ε α) : p.Ensures P M := by
  induction p with
  | ret a => exact hM a
  | raise e => trivial
  | ask q k ih => exact fun a _ => ih a

theorem ensures_imp {M N : α → Prop} (hN : ∀ a, M a → N a) {p : Prog Q A ε α} (hp : p.Ensures P M) :
    p.Ensures P N := by
  induction p with
  | ret a => exact hN a hp
  | raise e => trivial
  | ask q k ih => exact fun a ha => ih a (hp a ha)

theorem ensures_ofExcept {M : α → Prop} {r : Except ε α} (hM : ∀ a, r = .ok a → M a) :
    (Prog.ofExcept r : Prog Q A ε α).Ensures P M := by
  cases r with
  | ok a => exact hM a rfl
  | error e => trivial

theorem ensures_bind {M : α → Prop} {N : β → Prop} {p : Prog Q A ε α} {f : α → Prog Q A ε β}
    (hp : p.Ensures P M) (hf : ∀ a, M a → (f a).Ensures P N) : (p >>= f).Ensures P N := by
  induction p with
  | ret a => exact hf a hp
  | raise e => trivial
  | ask q k ih => exact fun a ha => ih a (hp a ha)

theorem ensures_tryCatch {M : α → Prop} {p : Prog Q A ε α} {h : ε → Prog Q A ε α}
    (hp : p.Ensures P M) (hh : ∀ e, (h e).Ensures P M) : (p.tryCatch h).Ensures P M := by
  induction p with
  | ret a => exact hp
  | raise e => exact hh e
  | ask q k ih => exact fun a ha => ih a (hp a ha)

theorem asksWhile_of_asks {p : Prog Q A ε α} (h : p.Asks C) : p.AsksWhile P C := by
  induction p with
  | ret a => trivial
  | raise e => trivial
  | ask q k ih => exact ⟨h.1, fun a _ => ih a (h.2 a)⟩

theorem asksWhile_mono {P' : Event Q A → Prop} (hP : ∀ e, P' e → P e) {p : Prog Q A ε α}
    (hp : p.AsksWhile P C) : p.AsksWhile P' C := by
  induction p with
  | ret a => trivial
  | raise e => trivial
  | ask q k ih => exact ⟨hp.1, fun a ha => ih a (hp.2 a (hP _ ha))⟩

theorem asksWhile_of_imp {C' : Q → Prop} (hC : ∀ q, C' q → C q) {p : Prog Q A ε α}
    (hp : p.AsksWhile P C') : p.AsksWhile P C := by
  induction p with
  | ret a => trivial
  | raise e => trivial
  | ask q k ih => exact ⟨hC q hp.1, fun a ha => ih a (hp.2 a ha)⟩

theorem asksWhile_ofExcept (r : Except ε α) : (Prog.ofExcept r : Prog Q A ε α).AsksWhile P C :=
  asksWhile_of_asks (asks_ofExcept r)

/-- What follows may count on what its input is. -/
theorem asksWhile_bind_ensures {M : α → Prop} {p : Prog Q A ε α} {f : α → Prog Q A ε β}
    (hp : p.AsksWhile P C) (hM : p.Ensures P M) (hf : ∀ a, M a → (f a).AsksWhile P C) :
    (p >>= f).AsksWhile P C := by
  induction p with
  | ret a => exact hf a hM
  | raise e => trivial
  | ask q k ih => exact ⟨hp.1, fun a ha => ih a (hp.2 a ha) (hM a ha)⟩

theorem asksWhile_bind {p : Prog Q A ε α} {f : α → Prog Q A ε β} (hp : p.AsksWhile P C)
    (hf : ∀ a, (f a).AsksWhile P C) : (p >>= f).AsksWhile P C := by
  induction p with
  | ret a => exact hf a
  | raise e => trivial
  | ask q k ih => exact ⟨hp.1, fun a ha => ih a (hp.2 a ha)⟩

theorem asksWhile_tryCatch {p : Prog Q A ε α} {h : ε → Prog Q A ε α} (hp : p.AsksWhile P C)
    (hh : ∀ e, (h e).AsksWhile P C) : (p.tryCatch h).AsksWhile P C := by
  induction p with
  | ret a => trivial
  | raise e => exact hh e
  | ask q k ih => exact ⟨hp.1, fun a ha => ih a (hp.2 a ha)⟩

/-- A program whose queries satisfy `D` while the answers it is handed satisfy
`P'`. -/
theorem asksWhile_expand_ensures {P' : Event R B → Prop} {D : R → Prop}
    {carry : (r : R) → Prog Q A δ (B r)} {f : ε → δ} (hcarry : ∀ r, D r → (carry r).AsksWhile P C)
    (hanswer : ∀ r, (carry r).Ensures P fun b => P' ⟨r, b⟩) {p : Prog R B ε α}
    (hp : p.AsksWhile P' D) : (p.expand carry f).AsksWhile P C := by
  induction p with
  | ret a => trivial
  | raise e => trivial
  | ask r k ih =>
    exact asksWhile_bind_ensures (hcarry r hp.1) (hanswer r) fun b hb => ih b (hp.2 b hb)

theorem asksWhile_expand {carry : (r : R) → Prog Q A δ (B r)} {f : ε → δ}
    (hcarry : ∀ r, (carry r).AsksWhile P C) (p : Prog R B ε α) :
    (p.expand carry f).AsksWhile P C := by
  induction p with
  | ret a => trivial
  | raise e => trivial
  | ask r k ih => exact asksWhile_bind (hcarry r) ih

theorem asksWhile_liftLeft {P : Event (Q ⊕ R) (Sum.elim A B) → Prop} {C : Q ⊕ R → Prop}
    {p : Prog Q A ε α} (hp : p.AsksWhile (fun e => P e.inl) fun q => C (.inl q)) :
    (p.liftLeft : Prog (Q ⊕ R) (Sum.elim A B) ε α).AsksWhile P C := by
  induction p with
  | ret a => trivial
  | raise e => trivial
  | ask q k ih => exact ⟨hp.1, fun a ha => ih a (hp.2 a ha)⟩

theorem ensures_liftLeft {P : Event (Q ⊕ R) (Sum.elim A B) → Prop} {M : α → Prop}
    {p : Prog Q A ε α} (hp : p.Ensures (fun e => P e.inl) M) :
    (p.liftLeft : Prog (Q ⊕ R) (Sum.elim A B) ε α).Ensures P M := by
  induction p with
  | ret a => exact hp
  | raise e => trivial
  | ask q k ih => exact fun a ha => ih a (hp a ha)

theorem asksWhile_liftRight {P : Event (R ⊕ Q) (Sum.elim B A) → Prop} {C : R ⊕ Q → Prop}
    {f : ε → δ} {p : Prog Q A ε α}
    (hp : p.AsksWhile (fun e => P e.inr) fun q => C (.inr q)) : (p.liftRight f).AsksWhile P C := by
  induction p with
  | ret a => trivial
  | raise e => trivial
  | ask q k ih => exact ⟨hp.1, fun a ha => ih a (hp.2 a ha)⟩

end Rules

/-! ## Along a run -/

section Runs

variable {P : Event Q A → Prop} {C : Q → Prop}

/-- Read off the runs, where every query can be answered. -/
theorem asksWhile_of_runs [∀ q, Nonempty (A q)] {p : Prog Q A ε α}
    (h : ∀ tr o, Runs p tr o → ∀ pre e post, tr = pre ++ e :: post → (∀ e' ∈ pre, P e') → C e.1) :
    p.AsksWhile P C := by
  induction p with
  | ret a => trivial
  | raise e => trivial
  | ask q k ih =>
    constructor
    · obtain ⟨a⟩ := ‹∀ q, Nonempty (A q)› q
      obtain ⟨t, o, hrun⟩ := exists_runs (k a)
      exact h _ o (runs_ask.2 ⟨a, t, rfl, hrun⟩) [] ⟨q, a⟩ t rfl (List.forall_mem_nil _)
    · intro a ha
      refine ih a fun tr o hrun pre e post htr hpre => ?_
      refine h _ o (runs_ask.2 ⟨a, tr, rfl, hrun⟩) (⟨q, a⟩ :: pre) e post ?_ ?_
      · rw [htr]
        rfl
      · exact List.forall_mem_cons.2 ⟨ha, hpre⟩

/-- Read off the runs. -/
theorem ensures_of_runs {M : α → Prop} {p : Prog Q A ε α}
    (h : ∀ tr a, Runs p tr (.ok a) → (∀ e ∈ tr, P e) → M a) : p.Ensures P M := by
  induction p with
  | ret a => exact h [] a (runs_ret.2 ⟨rfl, rfl⟩) (List.forall_mem_nil _)
  | raise e => trivial
  | ask q k ih =>
    intro a ha
    refine ih a fun tr b hrun htr => ?_
    exact h _ b (runs_ask.2 ⟨a, tr, rfl, hrun⟩) (List.forall_mem_cons.2 ⟨ha, htr⟩)

theorem Prog.Ensures.runs {M : α → Prop} {p : Prog Q A ε α} (hp : p.Ensures P M)
    {tr : List (Event Q A)} {a : α} (h : Runs p tr (.ok a)) (hP : ∀ e ∈ tr, P e) : M a := by
  induction p generalizing tr with
  | ret b =>
    obtain ⟨-, hb, -⟩ := exec_ret.1 h
    cases hb
    exact hp
  | raise e => cases (runs_raise.1 h).2
  | ask q k ih =>
    obtain ⟨b, t, rfl, hrest⟩ := runs_ask.1 h
    obtain ⟨hb, ht⟩ := List.forall_mem_cons.1 hP
    exact ih b (hp b hb) hrest ht

theorem Runs.reaches {p : Prog Q A ε α} {tr : List (Event Q A)} {o : Except ε α} (h : Runs p tr o) :
    Reaches p tr (Prog.ofExcept o) := by
  induction p generalizing tr with
  | ret a =>
    obtain ⟨rfl, rfl⟩ := runs_ret.1 h
    exact .refl
  | raise e =>
    obtain ⟨rfl, rfl⟩ := runs_raise.1 h
    exact .refl
  | ask q k ih =>
    obtain ⟨a, t, rfl, hrest⟩ := runs_ask.1 h
    exact .ask (ih a hrest)

theorem Reaches.split {p p' : Prog Q A ε α} {t₁ t₂ : List (Event Q A)} {e : Event Q A}
    (h : Reaches p (t₁ ++ e :: t₂) p') :
    ∃ k, Reaches p t₁ (.ask e.1 k) ∧ Reaches (k e.2) t₂ p' := by
  induction t₁ generalizing p with
  | nil =>
    cases h with
    | @ask _ k _ _ _ hrest => exact ⟨k, .refl, hrest⟩
  | cons e₁ t₁ ih =>
    cases h with
    | ask h =>
      obtain ⟨k, hbefore, hafter⟩ := ih h
      exact ⟨k, .ask hbefore, hafter⟩

/-- **What is asked**, from what has been answered before. -/
theorem Reaches.asks {p : Prog Q A ε α} {t : List (Event Q A)} {q : Q} {k : A q → Prog Q A ε α}
    (h : Reaches p t (.ask q k)) (hp : p.AsksWhile P C) (hP : ∀ e ∈ t, P e) : C q := by
  induction t generalizing p with
  | nil =>
    cases h with
    | refl => exact hp.1
  | cons e t ih =>
    obtain ⟨he, ht⟩ := List.forall_mem_cons.1 hP
    cases h with
    | ask h => exact ih h (hp.2 _ he) ht

theorem Reaches.asked {p p' : Prog Q A ε α} {t₁ t₂ : List (Event Q A)} {e : Event Q A}
    (h : Reaches p (t₁ ++ e :: t₂) p') (hp : p.AsksWhile P C) (hP : ∀ e' ∈ t₁, P e') : C e.1 := by
  obtain ⟨k, hbefore, -⟩ := h.split
  exact hbefore.asks hp hP

theorem asks_of_reaches {p : Prog Q A ε α} (hp : p.Asks C) {t : List (Event Q A)} {q : Q}
    {k : A q → Prog Q A ε α} (h : Reaches p t (.ask q k)) : C q :=
  h.asks (P := fun _ => True) (asksWhile_of_asks hp) fun _ _ => trivial

theorem asks_of_mem_reaches {p p' : Prog Q A ε α} (hp : p.Asks C) {t : List (Event Q A)}
    (h : Reaches p t p') {e : Event Q A} (he : e ∈ t) : C e.1 := by
  obtain ⟨t₁, t₂, rfl⟩ := List.append_of_mem he
  exact h.asked (P := fun _ => True) (asksWhile_of_asks hp) fun _ _ => trivial

end Runs

/-! ## What relying programs do -/

section Worlds

variable {step : σ → (q : Q) → A q → σ → Prop} {P : Event Q A → Prop} {C : Q → Prop}
  {I : σ → Prop}

/-- In a state of `I`, a query of `C` is answered as `P` says and leads to a
state of `I`. -/
def Reliable (step : σ → (q : Q) → A q → σ → Prop) (P : Event Q A → Prop) (C : Q → Prop)
    (I : σ → Prop) : Prop :=
  ∀ s q a s', I s → C q → step s q a s' → P ⟨q, a⟩ ∧ I s'

/-- **One program.** -/
theorem Exec.rely (hstep : Reliable step P C I) {s s' : σ} {p : Prog Q A ε α}
    {tr : List (Event Q A)} {o : Except ε α} (h : Exec step s p tr o s') (hp : p.AsksWhile P C)
    (hI : I s) : I s' ∧ ∀ e ∈ tr, C e.1 ∧ P e := by
  induction h with
  | ret => exact ⟨hI, by simp⟩
  | raise => exact ⟨hI, by simp⟩
  | ask hs _ ih =>
    obtain ⟨hP, hI'⟩ := hstep _ _ _ _ hI hp.1 hs
    obtain ⟨hend, hrest⟩ := ih (hp.2 _ hP) hI'
    exact ⟨hend, List.forall_mem_cons.2 ⟨⟨hp.1, hP⟩, hrest⟩⟩

/-- Whoever asks. -/
theorem Follows.rely (hstep : Reliable step P C I) {s s' : σ} {tr : List (Event Q A)}
    (h : Follows step s tr s') (hC : ∀ e ∈ tr, C e.1) (hI : I s) : I s' := by
  induction tr generalizing s with
  | nil =>
    obtain rfl : s' = s := h
    exact hI
  | cons e tr ih =>
    obtain ⟨s₁, hs, hrest⟩ := h
    obtain ⟨he, hC'⟩ := List.forall_mem_cons.1 hC
    exact ih hrest hC' (hstep s e.1 e.2 s₁ hI he hs).2

/-- **Many programs.** -/
theorem Turns.rely [DecidableEq ι] (hstep : Reliable step P C I) {s s' : σ}
    {pool pool' : ι → Prog Q A ε α} {tr : List (ι × Event Q A)}
    (h : Turns step pool s tr pool' s') (hpool : ∀ i, (pool i).AsksWhile P C) (hI : I s) :
    I s' ∧ (∀ i, (pool' i).AsksWhile P C) ∧ ∀ x ∈ tr, C x.2.1 ∧ P x.2 := by
  induction h with
  | refl => exact ⟨hI, hpool, by simp⟩
  | @turn pool s s₁ s' i q k a tr pool' hask hs _ ih =>
    have hi := hpool i
    rw [hask] at hi
    obtain ⟨hP, hI'⟩ := hstep _ _ _ _ hI hi.1 hs
    have hpool' : ∀ j, (Function.update pool i (k a) j).AsksWhile P C := by
      intro j
      by_cases hj : j = i
      · subst hj
        rw [Function.update_self]
        exact hi.2 a hP
      · rw [Function.update_of_ne hj]
        exact hpool j
    obtain ⟨hend, hprogs, hrest⟩ := ih hpool' hI'
    exact ⟨hend, hprogs, List.forall_mem_cons.2 ⟨⟨hi.1, hP⟩, hrest⟩⟩

end Worlds

end Coroutine
