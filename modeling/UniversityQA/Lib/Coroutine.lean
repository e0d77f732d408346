import Mathlib.Logic.Basic
import Mathlib.Data.List.Basic

/-!
# Coroutines that ask and wait

A `Prog Q A ε α` is a program that returns a value, raises an exception, or
asks a query `q : Q` and goes on with whatever answer in `A q` it is given.
Nothing is said about who answers.

* `Exec step s p tr o s'`: under the world `step`, the program `p` started in
  the state `s` can ask and receive `tr`, end with the outcome `o` and leave
  the state `s'`; `exec_bind` and `exec_tryCatch` take programs apart;
* `Follows step s tr s'`: the world goes from `s` to `s'` along `tr`, as it
  does in every execution (`Exec.follows`);
* `Runs p tr o`: executions in a world that may answer anything;
  `exec_liftLeft` says that queries of one signature leave alone the state
  kept for the other;
* `run`: the executable reading for a world given as a function
  (`run_exec`);
* `Computes P p v`: with answers that satisfy `P`, `p` ends with `v`;
* `Asks`: all queries of a program are of one kind; `run_congr` says that it
  runs alike in two worlds that answer these alike;
* `Returns` and `bind_congr`: programs that differ only after results that
  never occur are equal.
-/

namespace Coroutine

/-- A program over the queries `Q` with answers `A`, exceptions `ε`. -/
inductive Prog (Q : Type) (A : Q → Type) (ε α : Type) where
  | ret (a : α)
  | raise (e : ε)
  | ask (q : Q) (k : A q → Prog Q A ε α)

/-- A query together with the answer it got. -/
abbrev Event (Q : Type) (A : Q → Type) := (q : Q) × A q

variable {Q : Type} {A : Q → Type} {ε α β γ σ : Type}

namespace Prog

def bind : Prog Q A ε α → (α → Prog Q A ε β) → Prog Q A ε β
  | ret a, f => f a
  | raise e, _ => raise e
  | ask q k, f => ask q fun a => (k a).bind f

/-- `try p except e: h e`. -/
def tryCatch : Prog Q A ε α → (ε → Prog Q A ε α) → Prog Q A ε α
  | ret a, _ => ret a
  | raise e, h => h e
  | ask q k, h => ask q fun a => (k a).tryCatch h

/-- An outcome as a program. -/
def ofExcept : Except ε α → Prog Q A ε α
  | .ok a => ret a
  | .error e => raise e

instance : Monad (Prog Q A ε) where
  pure := ret
  bind := bind

@[simp] theorem pure_eq (a : α) : (pure a : Prog Q A ε α) = ret a := rfl
@[simp] theorem ret_bind (a : α) (f : α → Prog Q A ε β) : (ret a >>= f) = f a := rfl
@[simp] theorem raise_bind (e : ε) (f : α → Prog Q A ε β) : (raise e >>= f) = raise e := rfl
@[simp] theorem ask_bind (q : Q) (k : A q → Prog Q A ε α) (f : α → Prog Q A ε β) :
    (ask q k >>= f) = ask q fun a => k a >>= f := rfl

@[simp] theorem bind_assoc (p : Prog Q A ε α) (f : α → Prog Q A ε β) (g : β → Prog Q A ε γ) :
    (p >>= f) >>= g = p >>= fun a => f a >>= g := by
  induction p with
  | ret a => rfl
  | raise e => rfl
  | ask q k ih => simp only [ask_bind]; exact congrArg (ask q) (funext ih)

/-! ## Values a program can return -/

/-- `a` is the result of `p` under some answers. -/
def Returns : Prog Q A ε α → α → Prop
  | ret b, a => b = a
  | raise _, _ => False
  | ask _ k, a => ∃ r, (k r).Returns a

@[simp] theorem returns_ask (q : Q) (k : A q → Prog Q A ε α) (a : α) :
    (ask q k).Returns a ↔ ∃ r, (k r).Returns a := Iff.rfl

/-- **Congruence.**  Continuations need to agree on possible results only. -/
theorem bind_congr (p : Prog Q A ε α) (f g : α → Prog Q A ε β)
    (h : ∀ a, p.Returns a → f a = g a) : p >>= f = p >>= g := by
  induction p with
  | ret a => exact h a rfl
  | raise e => rfl
  | ask q k ih =>
    simp only [ask_bind]
    exact congrArg (ask q) (funext fun r => ih r fun a ha => h a ⟨r, ha⟩)

/-! ## Two signatures side by side -/

variable {R : Type} {B : R → Type}

/-- A program over `Q` among the queries `Q ⊕ R`. -/
def liftLeft : Prog Q A ε α → Prog (Q ⊕ R) (Sum.elim A B) ε α
  | ret a => ret a
  | raise e => raise e
  | ask q k => ask (.inl q) fun a => (k a).liftLeft

end Prog

/-- An event of the left signature among both. -/
def Event.inl {R : Type} {B : R → Type} (e : Event Q A) : Event (Q ⊕ R) (Sum.elim A B) :=
  ⟨.inl e.1, e.2⟩

/-! ## Executions in a world -/

open Prog

/-- Executions of a program in a world that answers `q` in state `s` with any
`a` and moves to any `s'` such that `step s q a s'`. -/
inductive Exec (step : σ → (q : Q) → A q → σ → Prop) :
    σ → Prog Q A ε α → List (Event Q A) → Except ε α → σ → Prop
  | ret {s a} : Exec step s (ret a) [] (.ok a) s
  | raise {s e} : Exec step s (raise e) [] (.error e) s
  | ask {s s' s'' q k a tr o} : step s q a s' → Exec step s' (k a) tr o s'' →
      Exec step s (ask q k) (⟨q, a⟩ :: tr) o s''

section Exec

variable {step : σ → (q : Q) → A q → σ → Prop} {s s' : σ} {tr : List (Event Q A)}

@[simp] theorem exec_ret {a : α} {o : Except ε α} :
    Exec step s (ret a) tr o s' ↔ tr = [] ∧ o = .ok a ∧ s' = s := by
  constructor
  · rintro ⟨⟩; exact ⟨rfl, rfl, rfl⟩
  · rintro ⟨rfl, rfl, rfl⟩; exact .ret

@[simp] theorem exec_raise {e : ε} {o : Except ε α} :
    Exec step s (raise e) tr o s' ↔ tr = [] ∧ o = .error e ∧ s' = s := by
  constructor
  · rintro ⟨⟩; exact ⟨rfl, rfl, rfl⟩
  · rintro ⟨rfl, rfl, rfl⟩; exact .raise

@[simp] theorem exec_ofExcept {r o : Except ε α} :
    Exec step s (ofExcept r) tr o s' ↔ tr = [] ∧ o = r ∧ s' = s := by
  cases r with
  | ok a => exact exec_ret
  | error e => exact exec_raise

theorem exec_ask {q : Q} {k : A q → Prog Q A ε α} {o : Except ε α} :
    Exec step s (ask q k) tr o s' ↔
      ∃ a s₁ tr', step s q a s₁ ∧ tr = ⟨q, a⟩ :: tr' ∧ Exec step s₁ (k a) tr' o s' := by
  constructor
  · rintro ⟨⟩; exact ⟨_, _, _, ‹_›, rfl, ‹_›⟩
  · rintro ⟨a, s₁, tr', h, rfl, h'⟩; exact .ask h h'

/-- **Sequencing.** -/
theorem exec_bind {p : Prog Q A ε α} {f : α → Prog Q A ε β} {o : Except ε β} :
    Exec step s (p >>= f) tr o s' ↔
      (∃ e, Exec step s p tr (.error e) s' ∧ o = .error e) ∨
      ∃ a s₁ t₁ t₂, tr = t₁ ++ t₂ ∧ Exec step s p t₁ (.ok a) s₁ ∧ Exec step s₁ (f a) t₂ o s' := by
  induction p generalizing s tr with
  | ret a => simp
  | raise e => simp [and_assoc, and_comm, and_left_comm]
  | ask q k ih =>
    simp only [ask_bind, exec_ask, ih]
    constructor
    · rintro ⟨a, s₁, t, hs, rfl, ⟨e, he, rfl⟩ | ⟨b, s₂, t₁, t₂, rfl, h₁, h₂⟩⟩
      · exact .inl ⟨e, ⟨a, s₁, t, hs, rfl, he⟩, rfl⟩
      · exact .inr ⟨b, s₂, ⟨q, a⟩ :: t₁, t₂, rfl, ⟨a, s₁, t₁, hs, rfl, h₁⟩, h₂⟩
    · rintro (⟨e, ⟨a, s₁, t, hs, rfl, he⟩, rfl⟩ | ⟨b, s₂, _, t₂, rfl, ⟨a, s₁, t₁, hs, rfl, h₁⟩, h₂⟩)
      · exact ⟨a, s₁, t, hs, rfl, .inl ⟨e, he, rfl⟩⟩
      · exact ⟨a, s₁, t₁ ++ t₂, hs, rfl, .inr ⟨b, s₂, t₁, t₂, rfl, h₁, h₂⟩⟩

/-- **Handlers.** -/
theorem exec_tryCatch {p : Prog Q A ε α} {h : ε → Prog Q A ε α} {o : Except ε α} :
    Exec step s (p.tryCatch h) tr o s' ↔
      (∃ a, Exec step s p tr (.ok a) s' ∧ o = .ok a) ∨
      ∃ e s₁ t₁ t₂, tr = t₁ ++ t₂ ∧ Exec step s p t₁ (.error e) s₁ ∧
        Exec step s₁ (h e) t₂ o s' := by
  induction p generalizing s tr with
  | ret a =>
    simp only [Prog.tryCatch, exec_ret]
    constructor
    · rintro ⟨rfl, rfl, rfl⟩; exact .inl ⟨a, ⟨rfl, rfl, rfl⟩, rfl⟩
    · rintro (⟨b, ⟨rfl, hb, rfl⟩, rfl⟩ | ⟨e, s₁, t₁, t₂, _, ⟨_, he, _⟩, _⟩)
      · exact ⟨rfl, hb, rfl⟩
      · cases he
  | raise e =>
    simp only [Prog.tryCatch, exec_raise]
    constructor
    · intro hx; exact .inr ⟨e, s, [], tr, rfl, ⟨rfl, rfl, rfl⟩, hx⟩
    · rintro (⟨b, ⟨_, hb, _⟩, _⟩ | ⟨e', s₁, t₁, t₂, rfl, ⟨rfl, he, rfl⟩, hx⟩)
      · cases hb
      · cases he; exact hx
  | ask q k ih =>
    simp only [Prog.tryCatch, exec_ask, ih]
    constructor
    · rintro ⟨a, s₁, t, hs, rfl, ⟨b, hb, rfl⟩ | ⟨e, s₂, t₁, t₂, rfl, h₁, h₂⟩⟩
      · exact .inl ⟨b, ⟨a, s₁, t, hs, rfl, hb⟩, rfl⟩
      · exact .inr ⟨e, s₂, ⟨q, a⟩ :: t₁, t₂, rfl, ⟨a, s₁, t₁, hs, rfl, h₁⟩, h₂⟩
    · rintro (⟨b, ⟨a, s₁, t, hs, rfl, hb⟩, rfl⟩ | ⟨e, s₂, _, t₂, rfl, ⟨a, s₁, t₁, hs, rfl, h₁⟩, h₂⟩)
      · exact ⟨a, s₁, t, hs, rfl, .inl ⟨b, hb, rfl⟩⟩
      · exact ⟨a, s₁, t₁ ++ t₂, hs, rfl, .inr ⟨e, s₂, t₁, t₂, rfl, h₁, h₂⟩⟩

theorem Exec.returns {p : Prog Q A ε α} {a : α} (h : Exec step s p tr (.ok a) s') :
    p.Returns a := by
  induction p generalizing s tr with
  | ret b => simp at h; exact h.2.1.symm
  | raise e => simp at h
  | ask q k ih =>
    obtain ⟨r, s₁, t, _, _, hr⟩ := exec_ask.mp h
    exact ⟨r, ih r hr⟩

/-- **Simulation.**  A map between worlds that respects their steps takes
executions to executions. -/
theorem Exec.map {τ : Type} {step' : τ → (q : Q) → A q → τ → Prop} (f : σ → τ)
    (hstep : ∀ s q a s', step s q a s' → step' (f s) q a (f s')) {p : Prog Q A ε α}
    {o : Except ε α} (h : Exec step s p tr o s') : Exec step' (f s) p tr o (f s') := by
  induction h with
  | ret => exact .ret
  | raise => exact .raise
  | ask hs _ ih => exact .ask (hstep _ _ _ _ hs) ih

end Exec

/-- The world goes along with the events. -/
def Follows (step : σ → (q : Q) → A q → σ → Prop) : σ → List (Event Q A) → σ → Prop
  | s, [], s' => s' = s
  | s, e :: tr, s' => ∃ s₁, step s e.1 e.2 s₁ ∧ Follows step s₁ tr s'

theorem follows_append {step : σ → (q : Q) → A q → σ → Prop} {s s' : σ} {t₁ t₂ : List (Event Q A)} :
    Follows step s (t₁ ++ t₂) s' ↔ ∃ s₁, Follows step s t₁ s₁ ∧ Follows step s₁ t₂ s' := by
  induction t₁ generalizing s with
  | nil => simp [Follows]
  | cons e t₁ ih =>
    simp only [List.cons_append, Follows, ih]
    constructor
    · rintro ⟨s₁, hs, s₂, h₁, h₂⟩
      exact ⟨s₂, ⟨s₁, hs, h₁⟩, h₂⟩
    · rintro ⟨s₂, ⟨s₁, hs, h₁⟩, h₂⟩
      exact ⟨s₁, hs, s₂, h₁, h₂⟩

theorem Follows.step_of_mem {step : σ → (q : Q) → A q → σ → Prop} {s s' : σ} {tr : List (Event Q A)}
    (h : Follows step s tr s') {e : Event Q A} (he : e ∈ tr) : ∃ s₁ s₂, step s₁ e.1 e.2 s₂ := by
  obtain ⟨t₁, t₂, rfl⟩ := List.append_of_mem he
  obtain ⟨s₁, -, s₂, hs, -⟩ := follows_append.mp h
  exact ⟨s₁, s₂, hs⟩

/-- An execution is a run along which the world goes. -/
theorem Exec.follows {step : σ → (q : Q) → A q → σ → Prop} {s s' : σ} {p : Prog Q A ε α}
    {tr : List (Event Q A)} {o : Except ε α} (h : Exec step s p tr o s') : Follows step s tr s' := by
  induction h with
  | ret => rfl
  | raise => rfl
  | ask hs _ ih => exact ⟨_, hs, ih⟩

/-! ## Executions under arbitrary answers -/

/-- `p` can ask and receive `tr` and end with `o`, whatever answers. -/
def Runs (p : Prog Q A ε α) (tr : List (Event Q A)) (o : Except ε α) : Prop :=
  Exec (fun (_ : Unit) _ _ _ => True) () p tr o ()

section Runs

variable {tr : List (Event Q A)}

@[simp] theorem runs_ret {a : α} {o : Except ε α} :
    Runs (ret a : Prog Q A ε α) tr o ↔ tr = [] ∧ o = .ok a := by simp [Runs]

@[simp] theorem runs_raise {e : ε} {o : Except ε α} :
    Runs (raise e : Prog Q A ε α) tr o ↔ tr = [] ∧ o = .error e := by simp [Runs]

theorem runs_ask {q : Q} {k : A q → Prog Q A ε α} {o : Except ε α} :
    Runs (ask q k) tr o ↔ ∃ a tr', tr = ⟨q, a⟩ :: tr' ∧ Runs (k a) tr' o := by
  rw [Runs, exec_ask]
  exact exists_congr fun a => ⟨fun ⟨_, t, _, h⟩ => ⟨t, h⟩, fun ⟨t, h⟩ => ⟨(), t, trivial, h⟩⟩

theorem runs_bind {p : Prog Q A ε α} {f : α → Prog Q A ε β} {o : Except ε β} :
    Runs (p >>= f) tr o ↔ (∃ e, Runs p tr (.error e) ∧ o = .error e) ∨
      ∃ a t₁ t₂, tr = t₁ ++ t₂ ∧ Runs p t₁ (.ok a) ∧ Runs (f a) t₂ o := by
  rw [Runs, exec_bind]
  exact or_congr_right (exists_congr fun a => ⟨fun ⟨_, h⟩ => h, fun h => ⟨(), h⟩⟩)

theorem runs_map {p : Prog Q A ε α} {f : α → β} {o : Except ε β} :
    Runs (p >>= fun a => ret (f a)) tr o ↔ ∃ r, Runs p tr r ∧ o = r.map f := by
  rw [runs_bind]
  constructor
  · rintro (⟨e, he, rfl⟩ | ⟨a, t₁, t₂, rfl, ha, hret⟩)
    · exact ⟨.error e, he, rfl⟩
    · obtain ⟨rfl, rfl⟩ := runs_ret.mp hret
      rw [List.append_nil]
      exact ⟨.ok a, ha, rfl⟩
  · rintro ⟨_ | a, hr, rfl⟩
    · exact .inl ⟨_, hr, rfl⟩
    · exact .inr ⟨a, tr, [], (List.append_nil tr).symm, hr, runs_ret.mpr ⟨rfl, rfl⟩⟩

/-- The possible results are those of the runs. -/
theorem returns_iff_runs {p : Prog Q A ε α} {a : α} : p.Returns a ↔ ∃ tr, Runs p tr (.ok a) := by
  constructor
  · intro h
    induction p with
    | ret b => exact ⟨[], by simpa using h.symm⟩
    | raise e => exact h.elim
    | ask q k ih =>
      obtain ⟨r, hr⟩ := h
      obtain ⟨tr, htr⟩ := ih r hr
      exact ⟨⟨q, r⟩ :: tr, runs_ask.mpr ⟨r, tr, rfl, htr⟩⟩
  · rintro ⟨tr, h⟩
    exact Exec.returns h

/-- **Determinism.**  The answers leave nothing open. -/
theorem Runs.unique {p : Prog Q A ε α} {o o' : Except ε α} (h : Runs p tr o) (h' : Runs p tr o') :
    o = o' := by
  induction p generalizing tr with
  | ret a => rw [(runs_ret.mp h).2, (runs_ret.mp h').2]
  | raise e => rw [(runs_raise.mp h).2, (runs_raise.mp h').2]
  | ask q k ih =>
    obtain ⟨a, t, rfl, hrest⟩ := runs_ask.mp h
    obtain ⟨a', t', heq, hrest'⟩ := runs_ask.mp h'
    cases heq
    exact ih a hrest hrest'

/-- Every execution is one under arbitrary answers. -/
theorem Exec.runs {step : σ → (q : Q) → A q → σ → Prop} {s s' : σ} {p : Prog Q A ε α}
    {o : Except ε α} (h : Exec step s p tr o s') : Runs p tr o := by
  induction h with
  | ret => simp
  | raise => simp
  | ask _ _ ih => exact runs_ask.mpr ⟨_, _, rfl, ih⟩

/-- `p` has asked and received `tr` and goes on as `p'`. -/
inductive Reaches : Prog Q A ε α → List (Event Q A) → Prog Q A ε α → Prop
  | refl {p} : Reaches p [] p
  | ask {q k a tr p'} : Reaches (k a) tr p' → Reaches (ask q k) (⟨q, a⟩ :: tr) p'

theorem Reaches.runs_append {p p' : Prog Q A ε α} {t : List (Event Q A)} {o : Except ε α}
    (h : Reaches p tr p') (h' : Runs p' t o) : Runs p (tr ++ t) o := by
  induction h with
  | refl => exact h'
  | ask _ ih => exact runs_ask.mpr ⟨_, _, rfl, ih h'⟩

theorem exists_runs [∀ q, Nonempty (A q)] (p : Prog Q A ε α) : ∃ tr o, Runs p tr o := by
  induction p with
  | ret a => exact ⟨[], .ok a, runs_ret.mpr ⟨rfl, rfl⟩⟩
  | raise e => exact ⟨[], .error e, runs_raise.mpr ⟨rfl, rfl⟩⟩
  | ask q k ih =>
    obtain ⟨a⟩ := ‹∀ q, Nonempty (A q)› q
    obtain ⟨t, o, h⟩ := ih a
    exact ⟨⟨q, a⟩ :: t, o, runs_ask.mpr ⟨a, t, rfl, h⟩⟩

/-- **Completion.**  What has begun can come to an end. -/
theorem Reaches.completes [∀ q, Nonempty (A q)] {p p' : Prog Q A ε α} (h : Reaches p tr p') :
    ∃ t o, Runs p (tr ++ t) o := by
  obtain ⟨t, o, h'⟩ := exists_runs p'
  exact ⟨t, o, h.runs_append h'⟩

/-- **Executions** are the runs along which the world can go. -/
theorem Runs.exec {step : σ → (q : Q) → A q → σ → Prop} {s s' : σ} {p : Prog Q A ε α}
    {o : Except ε α} (h : Runs p tr o) (hf : Follows step s tr s') : Exec step s p tr o s' := by
  induction p generalizing s tr with
  | ret a =>
    obtain ⟨rfl, rfl⟩ := runs_ret.mp h
    exact exec_ret.mpr ⟨rfl, rfl, hf⟩
  | raise e =>
    obtain ⟨rfl, rfl⟩ := runs_raise.mp h
    exact exec_raise.mpr ⟨rfl, rfl, hf⟩
  | ask q k ih =>
    obtain ⟨a, t, rfl, hrest⟩ := runs_ask.mp h
    obtain ⟨s₁, hs, hrest'⟩ := hf
    exact .ask hs (ih a hrest hrest')

/-- **Frame rule.**  Where the world answers the left signature freely and
keeps its state, a lifted program runs as it does alone. -/
theorem exec_liftLeft {R : Type} {B : R → Type}
    {step : σ → (q : Q ⊕ R) → Sum.elim A B q → σ → Prop} {s s' : σ}
    (hstep : ∀ s (q : Q) (a : A q) s', step s (.inl q) a s' ↔ s' = s) (p : Prog Q A ε α)
    {t : List (Event (Q ⊕ R) (Sum.elim A B))} {o : Except ε α} :
    Exec step s p.liftLeft t o s' ↔ s' = s ∧ ∃ tr, t = tr.map Event.inl ∧ Runs p tr o := by
  induction p generalizing t with
  | ret a =>
    simp only [liftLeft, exec_ret, runs_ret]
    constructor
    · rintro ⟨rfl, rfl, rfl⟩; exact ⟨rfl, [], rfl, rfl, rfl⟩
    · rintro ⟨rfl, _, rfl, rfl, rfl⟩; exact ⟨rfl, rfl, rfl⟩
  | raise e =>
    simp only [liftLeft, exec_raise, runs_raise]
    constructor
    · rintro ⟨rfl, rfl, rfl⟩; exact ⟨rfl, [], rfl, rfl, rfl⟩
    · rintro ⟨rfl, _, rfl, rfl, rfl⟩; exact ⟨rfl, rfl, rfl⟩
  | ask q k ih =>
    simp only [liftLeft, exec_ask, runs_ask]
    constructor
    · rintro ⟨a, s₁, t', hs, rfl, h⟩
      obtain rfl := (hstep _ _ _ _).mp hs
      obtain ⟨rfl, tr, rfl, hr⟩ := (ih a).mp h
      exact ⟨rfl, ⟨q, a⟩ :: tr, rfl, a, tr, rfl, hr⟩
    · rintro ⟨rfl, _, rfl, a, tr, rfl, hr⟩
      exact ⟨a, _, tr.map Event.inl, (hstep _ _ _ _).mpr rfl, rfl, (ih a).mpr ⟨rfl, tr, rfl, hr⟩⟩

end Runs

/-! ## Executable worlds -/

/-- Run `p` in the world that answers by `h`. -/
def run (h : σ → (q : Q) → A q × σ) : σ → Prog Q A ε α → Except ε α × List (Event Q A) × σ
  | s, .ret a => (.ok a, [], s)
  | s, .raise e => (.error e, [], s)
  | s, .ask q k =>
    let r := run h (h s q).2 (k (h s q).1)
    (r.1, ⟨q, (h s q).1⟩ :: r.2.1, r.2.2)

theorem run_exec (step : σ → (q : Q) → A q → σ → Prop) (h : σ → (q : Q) → A q × σ)
    (hstep : ∀ s q, step s q (h s q).1 (h s q).2) (p : Prog Q A ε α) (s : σ) :
    Exec step s p (run h s p).2.1 (run h s p).1 (run h s p).2.2 := by
  induction p generalizing s with
  | ret a => exact .ret
  | raise e => exact .raise
  | ask q k ih => exact .ask (hstep s q) (ih _ _)

theorem run_runs (h : σ → (q : Q) → A q × σ) (p : Prog Q A ε α) (s : σ) :
    Runs p (run h s p).2.1 (run h s p).1 :=
  (run_exec (fun _ _ _ _ => True) h (fun _ _ => trivial) p s).runs

/-- Every answer in the trace is one the world gave. -/
theorem mem_run (h : σ → (q : Q) → A q × σ) (p : Prog Q A ε α) (s : σ) {e : Event Q A}
    (he : e ∈ (run h s p).2.1) : ∃ s', e.2 = (h s' e.1).1 := by
  induction p generalizing s with
  | ret a => cases he
  | raise e => cases he
  | ask q k ih =>
    rcases List.mem_cons.mp he with rfl | he
    · exact ⟨s, rfl⟩
    · exact ih _ _ he

theorem run_ofExcept (h : σ → (q : Q) → A q × σ) (s : σ) (r : Except ε α) :
    run h s (ofExcept r) = (r, [], s) := by
  cases r <;> rfl

theorem run_bind (h : σ → (q : Q) → A q × σ) (s : σ) (p : Prog Q A ε α) (f : α → Prog Q A ε β) :
    run h s (p >>= f) =
      match run h s p with
      | (.ok a, t, s₁) => ((run h s₁ (f a)).1, t ++ (run h s₁ (f a)).2.1, (run h s₁ (f a)).2.2)
      | (.error e, t, s₁) => (.error e, t, s₁) := by
  induction p generalizing s with
  | ret a => rfl
  | raise e => rfl
  | ask q k ih =>
    simp only [ask_bind, run, ih]
    rcases run h (h s q).2 (k (h s q).1) with ⟨_ | _, _, _⟩ <;> rfl

theorem run_tryCatch (h : σ → (q : Q) → A q × σ) (s : σ) (p : Prog Q A ε α)
    (f : ε → Prog Q A ε α) :
    run h s (p.tryCatch f) =
      match run h s p with
      | (.ok a, t, s₁) => (.ok a, t, s₁)
      | (.error e, t, s₁) => ((run h s₁ (f e)).1, t ++ (run h s₁ (f e)).2.1, (run h s₁ (f e)).2.2) := by
  induction p generalizing s with
  | ret a => rfl
  | raise e => rfl
  | ask q k ih =>
    simp only [Prog.tryCatch, run, ih]
    rcases run h (h s q).2 (k (h s q).1) with ⟨_ | _, _, _⟩ <;> rfl

/-! ## What a program computes -/

/-- With answers that satisfy `P`, the program ends with `v` only. -/
def Computes (P : Event Q A → Prop) (p : Prog Q A ε α) (v : Except ε α) : Prop :=
  ∀ tr o, Runs p tr o → (∀ e ∈ tr, P e) → o = v

section Computes

variable {P : Event Q A → Prop}

theorem computes_ofExcept (v : Except ε α) : Computes P (ofExcept v) v :=
  fun _ _ h _ => (exec_ofExcept.mp h).2.1

theorem computes_ask {q : Q} {k : A q → Prog Q A ε α} {v : Except ε α}
    (h : ∀ a, P ⟨q, a⟩ → Computes P (k a) v) : Computes P (ask q k) v := by
  intro tr o hruns hP
  obtain ⟨a, t, rfl, hrest⟩ := runs_ask.mp hruns
  obtain ⟨ha, ht⟩ := List.forall_mem_cons.mp hP
  exact h a ha t o hrest ht

theorem computes_bind {p : Prog Q A ε α} {f : α → Prog Q A ε β} {v : Except ε α}
    {g : α → Except ε β} (hp : Computes P p v) (hf : ∀ a, v = .ok a → Computes P (f a) (g a)) :
    Computes P (p >>= f) (v >>= g) := by
  intro tr o hruns hP
  rcases runs_bind.mp hruns with ⟨e, he, rfl⟩ | ⟨a, t₁, t₂, rfl, ha, hrest⟩
  · obtain rfl := hp tr _ he hP
    rfl
  · obtain ⟨h₁, h₂⟩ := List.forall_mem_append.mp hP
    have hv := hp t₁ _ ha h₁
    rw [← hv]
    exact hf a hv.symm t₂ o hrest h₂

theorem computes_tryCatch {p : Prog Q A ε α} {h : ε → Prog Q A ε α} {v : Except ε α}
    {g : ε → Except ε α} (hp : Computes P p v) (hh : ∀ e, v = .error e → Computes P (h e) (g e)) :
    Computes P (p.tryCatch h) (v.tryCatch g) := by
  intro tr o hruns hP
  rcases exec_tryCatch.mp hruns with ⟨a, ha, rfl⟩ | ⟨e, _, t₁, t₂, rfl, he, hrest⟩
  · obtain rfl := hp tr _ ha hP
    rfl
  · obtain ⟨h₁, h₂⟩ := List.forall_mem_append.mp hP
    have hv := hp t₁ _ he h₁
    rw [← hv]
    exact hh e hv.symm t₂ o hrest h₂

end Computes

/-! ## Two worlds -/

/-- Whatever the answers, all queries satisfy `P`. -/
def Prog.Asks (P : Q → Prop) : Prog Q A ε α → Prop
  | .ret _ => True
  | .raise _ => True
  | .ask q k => P q ∧ ∀ a, (k a).Asks P

section Asks

variable {P : Q → Prop}

@[simp] theorem asks_ret (a : α) : (.ret a : Prog Q A ε α).Asks P := trivial

theorem asks_bind {p : Prog Q A ε α} {f : α → Prog Q A ε β} (hp : p.Asks P)
    (hf : ∀ a, (f a).Asks P) : (p >>= f).Asks P := by
  induction p with
  | ret a => exact hf a
  | raise e => trivial
  | ask q k ih => exact ⟨hp.1, fun a => ih a (hp.2 a)⟩

theorem asks_tryCatch {p : Prog Q A ε α} {h : ε → Prog Q A ε α} (hp : p.Asks P)
    (hh : ∀ e, (h e).Asks P) : (p.tryCatch h).Asks P := by
  induction p with
  | ret a => trivial
  | raise e => exact hh e
  | ask q k ih => exact ⟨hp.1, fun a => ih a (hp.2 a)⟩

theorem asks_ofExcept (r : Except ε α) : (ofExcept r : Prog Q A ε α).Asks P := by
  cases r <;> trivial

/-- **Congruence of runs.** -/
theorem run_congr {h₁ h₂ : σ → (q : Q) → A q × σ} (heq : ∀ q, P q → ∀ s, h₁ s q = h₂ s q)
    {p : Prog Q A ε α} (hp : p.Asks P) (s : σ) : run h₁ s p = run h₂ s p := by
  induction p generalizing s with
  | ret a => rfl
  | raise e => rfl
  | ask q k ih => simp only [run, heq q hp.1 s, ih _ (hp.2 _)]

theorem asks_of_mem_runs {p : Prog Q A ε α} (hp : p.Asks P) {tr : List (Event Q A)}
    {o : Except ε α} (h : Runs p tr o) {e : Event Q A} (he : e ∈ tr) : P e.1 := by
  induction p generalizing tr with
  | ret a =>
    obtain ⟨rfl, -⟩ := runs_ret.mp h
    cases he
  | raise e =>
    obtain ⟨rfl, -⟩ := runs_raise.mp h
    cases he
  | ask q k ih =>
    obtain ⟨a, t, rfl, hrest⟩ := runs_ask.mp h
    rcases List.mem_cons.mp he with rfl | he
    · exact hp.1
    · exact ih a (hp.2 a) hrest he

theorem asks_of_mem_run {h : σ → (q : Q) → A q × σ} {p : Prog Q A ε α} (hp : p.Asks P) (s : σ)
    {e : Event Q A} (he : e ∈ (run h s p).2.1) : P e.1 := by
  induction p generalizing s with
  | ret a => cases he
  | raise e => cases he
  | ask q k ih =>
    rcases List.mem_cons.mp he with rfl | he
    · exact hp.1
    · exact ih _ (hp.2 _) _ he

end Asks

end Coroutine
