import UniversityQA.Lib.Coroutine

/-!
# Pre- and postconditions

`Triple step Pre p Post`: started in a state of `Pre`, whatever `p` ends with
and wherever the world is then, `Post` holds of it.  The rules take a program
apart.
-/

namespace Coroutine

variable {Q σ ε α β : Type} {A : Q → Type}

def Triple (step : σ → (q : Q) → A q → σ → Prop) (Pre : σ → Prop) (p : Prog Q A ε α)
    (Post : Except ε α → σ → Prop) : Prop :=
  ∀ s tr o s', Pre s → Exec step s p tr o s' → Post o s'

/-- The postcondition of a program that others follow: `M` of its value, or
`Post` of its exception. -/
def Through (M : α → σ → Prop) (Post : Except ε β → σ → Prop) : Except ε α → σ → Prop
  | .ok a, s => M a s
  | .error e, s => Post (.error e) s

section Rules

variable {step : σ → (q : Q) → A q → σ → Prop} {Pre Pre' : σ → Prop} {p : Prog Q A ε α}
  {Post : Except ε α → σ → Prop}

theorem triple_ret {a : α} (h : ∀ s, Pre s → Post (.ok a) s) : Triple step Pre (.ret a) Post := by
  intro s tr o s' hs hexec
  obtain ⟨rfl, rfl, rfl⟩ := exec_ret.1 hexec
  exact h s' hs

theorem triple_raise {e : ε} (h : ∀ s, Pre s → Post (.error e) s) :
    Triple step Pre (.raise e) Post := by
  intro s tr o s' hs hexec
  obtain ⟨rfl, rfl, rfl⟩ := exec_raise.1 hexec
  exact h s' hs

/-- **Asking.**  `M a` is what holds after the answer `a`. -/
theorem triple_ask {q : Q} {k : A q → Prog Q A ε α} {M : A q → σ → Prop}
    (hstep : ∀ s a s', Pre s → step s q a s' → M a s')
    (hk : ∀ a, Triple step (M a) (k a) Post) : Triple step Pre (.ask q k) Post := by
  intro s tr o s' hs hexec
  obtain ⟨a, s₁, t, hstep', rfl, hrest⟩ := exec_ask.1 hexec
  exact hk a s₁ t o s' (hstep s a s₁ hs hstep') hrest

/-- **Sequencing.** -/
theorem triple_bind {f : α → Prog Q A ε β} {M : α → σ → Prop} {Post : Except ε β → σ → Prop}
    (hp : Triple step Pre p (Through M Post)) (hf : ∀ a, Triple step (M a) (f a) Post) :
    Triple step Pre (p >>= f) Post := by
  intro s tr o s' hs hexec
  rcases exec_bind.1 hexec with ⟨e, he, rfl⟩ | ⟨a, s₁, t₁, t₂, rfl, ha, hrest⟩
  · exact hp s tr _ s' hs he
  · exact hf a s₁ t₂ o s' (hp s t₁ _ s₁ hs ha) hrest

/-- What the precondition says of no state is a hypothesis. -/
theorem triple_and {φ : Prop} (h : φ → Triple step Pre p Post) :
    Triple step (fun s => Pre s ∧ φ) p Post :=
  fun s tr o s' hs hexec => h hs.2 s tr o s' hs.1 hexec

/-- **Consequence.** -/
theorem Triple.imp {Post' : Except ε α → σ → Prop} (h : Triple step Pre p Post)
    (hpre : ∀ s, Pre' s → Pre s) (hpost : ∀ o s, Post o s → Post' o s) :
    Triple step Pre' p Post' :=
  fun s tr o s' hs hexec => hpost o s' (h s tr o s' (hpre s hs) hexec)

end Rules

end Coroutine
