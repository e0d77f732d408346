import UniversityQA.Lib.Expansion

/-!
# Cancelled programs

A program that stands at a query can be cancelled there: the query is answered
as `interrupt` says, with an exception that the program is to let through.

* `Prog.Aborts P C e p`: as long as the answers satisfy `P`, `p` asks nothing but
  queries of `C` and ends with `e`;
* `Prog.CancelSafe`: cancelled at any query, now or later, the program aborts;
  the rules take programs apart;
* `CancelSafe.reaches`: so does what is left of it at any moment.
-/

namespace Coroutine

variable {Q R ε δ α β : Type} {A : Q → Type} {B : R → Type}

/-- As long as the answers satisfy `P`, the program asks nothing but queries of
`C` and ends with `e`. -/
def Prog.Aborts (P : Event Q A → Prop) (C : Q → Prop) (e : ε) : Prog Q A ε α → Prop
  | .ret _ => False
  | .raise e' => e' = e
  | .ask q k => C q ∧ ∀ a, P ⟨q, a⟩ → (k a).Aborts P C e

section Aborts

variable {P : Event Q A → Prop} {C : Q → Prop} {e : ε}

theorem aborts_bind {p : Prog Q A ε α} (hp : p.Aborts P C e) (f : α → Prog Q A ε β) :
    (p >>= f).Aborts P C e := by
  induction p with
  | ret a => exact hp.elim
  | raise e' => exact hp
  | ask q k ih => exact ⟨hp.1, fun a ha => ih a (hp.2 a ha)⟩

theorem aborts_tryCatch {p : Prog Q A ε α} (hp : p.Aborts P C e) {h : ε → Prog Q A ε α}
    (hh : (h e).Aborts P C e) : (p.tryCatch h).Aborts P C e := by
  induction p with
  | ret a => exact hp.elim
  | raise e' =>
    obtain rfl : e' = e := hp
    exact hh
  | ask q k ih => exact ⟨hp.1, fun a ha => ih a (hp.2 a ha)⟩

/-- **What an aborting program does.** -/
theorem Prog.Aborts.exec {σ : Type} {step : σ → (q : Q) → A q → σ → Prop} {s s' : σ}
    {p : Prog Q A ε α} {tr : List (Event Q A)} {o : Except ε α} (hp : p.Aborts P C e)
    (h : Exec step s p tr o s') (hP : ∀ x ∈ tr, P x) : o = .error e ∧ ∀ x ∈ tr, C x.1 := by
  induction h with
  | ret => exact hp.elim
  | raise =>
    obtain rfl : _ = e := hp
    exact ⟨rfl, by simp⟩
  | ask _ _ ih =>
    obtain ⟨hfirst, hrest⟩ := List.forall_mem_cons.1 hP
    obtain ⟨ho, hasks⟩ := ih (hp.2 _ hfirst) hrest
    exact ⟨ho, List.forall_mem_cons.2 ⟨hp.1, hasks⟩⟩

theorem aborts_liftRight {P : Event (R ⊕ Q) (Sum.elim B A) → Prop} {C : R ⊕ Q → Prop} {f : ε → δ}
    {p : Prog Q A ε α} (hp : p.Aborts (fun x => P x.inr) (fun q => C (.inr q)) e) :
    (p.liftRight f).Aborts P C (f e) := by
  induction p with
  | ret a => exact hp.elim
  | raise e' => exact congrArg f hp
  | ask q k ih => exact ⟨hp.1, fun a ha => ih a (hp.2 a ha)⟩

end Aborts

/-- Cancelled at a query that can be interrupted, now or later, the program
aborts. -/
def Prog.CancelSafe (interrupt : (q : Q) → Option (A q)) (P : Event Q A → Prop) (C : Q → Prop)
    (e : ε) : Prog Q A ε α → Prop
  | .ret _ => True
  | .raise _ => True
  | .ask q k => (∀ a, (k a).CancelSafe interrupt P C e) ∧ ∀ a ∈ interrupt q, (k a).Aborts P C e

section CancelSafe

variable {interrupt : (q : Q) → Option (A q)} {P : Event Q A → Prop} {C : Q → Prop} {e : ε}

theorem cancelSafe_ofExcept (r : Except ε α) :
    (Prog.ofExcept r : Prog Q A ε α).CancelSafe interrupt P C e := by
  cases r <;> trivial

/-- **Sequencing.** -/
theorem cancelSafe_bind {p : Prog Q A ε α} {f : α → Prog Q A ε β}
    (hp : p.CancelSafe interrupt P C e) (hf : ∀ a, (f a).CancelSafe interrupt P C e) :
    (p >>= f).CancelSafe interrupt P C e := by
  induction p with
  | ret a => exact hf a
  | raise e' => trivial
  | ask q k ih => exact ⟨fun a => ih a (hp.1 a), fun a ha => aborts_bind (hp.2 a ha) f⟩

/-- **Handlers** that let the exception through. -/
theorem cancelSafe_tryCatch {p : Prog Q A ε α} {h : ε → Prog Q A ε α}
    (hp : p.CancelSafe interrupt P C e) (hh : ∀ e', (h e').CancelSafe interrupt P C e)
    (hthrough : (h e).Aborts P C e) : (p.tryCatch h).CancelSafe interrupt P C e := by
  induction p with
  | ret a => trivial
  | raise e' => exact hh e'
  | ask q k ih => exact ⟨fun a => ih a (hp.1 a), fun a ha => aborts_tryCatch (hp.2 a ha) hthrough⟩

/-- **Expansion.**  Handlers around a coarse query see nothing of what
interrupts the program that carries it out. -/
theorem cancelSafe_expand {carry : (r : R) → Prog Q A ε (B r)} {f : δ → ε}
    (hcarry : ∀ r, (carry r).CancelSafe interrupt P C e) (p : Prog R B δ α) :
    (p.expand carry f).CancelSafe interrupt P C e := by
  induction p with
  | ret a => trivial
  | raise e' => trivial
  | ask r k ih => exact cancelSafe_bind (hcarry r) ih

theorem cancelSafe_liftRight {interrupt : (q : R ⊕ Q) → Option (Sum.elim B A q)}
    {P : Event (R ⊕ Q) (Sum.elim B A) → Prop} {C : R ⊕ Q → Prop} {f : ε → δ} {p : Prog Q A ε α}
    (hp : p.CancelSafe (fun q => interrupt (.inr q)) (fun x => P x.inr) (fun q => C (.inr q)) e) :
    (p.liftRight f).CancelSafe interrupt P C (f e) := by
  induction p with
  | ret a => trivial
  | raise e' => trivial
  | ask q k ih => exact ⟨fun a => ih a (hp.1 a), fun a ha => aborts_liftRight (hp.2 a ha)⟩

theorem Prog.CancelSafe.reaches {p p' : Prog Q A ε α} {tr : List (Event Q A)}
    (h : Reaches p tr p') (hp : p.CancelSafe interrupt P C e) : p'.CancelSafe interrupt P C e := by
  induction h with
  | refl => exact hp
  | ask _ ih => exact ih (hp.1 _)

end CancelSafe

end Coroutine
