import UniversityQA.Lib.Interleaving

/-!
# Queries carried out by programs

A coarse query may be a whole program of finer ones.  `Prog.expand` puts the
programs in the place of the queries, and other programs can then take turns
in the middle of what was one query before.

* `Prog.liftRight`: a program of finer queries among others, `exec_liftRight` how it runs;
* `CarriedOut`: what an expanded program has done is made of runs of what carries
  its queries out (`reaches_expand`);
* `Level`: how the finer world looks from the coarse one;
* `Level.Atomic`: of all turns of a program only its last one counts, as the
  coarse query it carries out;
* `Turns.coarsen`, `Interleaved.coarsen`: whatever turns the expanded programs
  take, the coarse programs could have taken the turns that count.
-/

namespace Coroutine

variable {Q R ι σ τ γ ε δ α β : Type} {A : Q → Type} {B : R → Type}

/-- Every query in the hands of a program, exceptions renamed. -/
def Prog.expand (carry : (q : Q) → Prog R B δ (A q)) (f : ε → δ) :
    Prog Q A ε α → Prog R B δ α
  | .ret a => .ret a
  | .raise e => .raise (f e)
  | .ask q k => carry q >>= fun a => (k a).expand carry f

/-! ## Finer queries among others -/

/-- A program over `R` among the queries `Q ⊕ R`, exceptions renamed. -/
def Prog.liftRight (f : ε → δ) : Prog R B ε α → Prog (Q ⊕ R) (Sum.elim A B) δ α
  | .ret a => .ret a
  | .raise e => .raise (f e)
  | .ask r k => .ask (.inr r) fun b => (k b).liftRight f

/-- An event of the right signature among both. -/
def Event.inr (e : Event R B) : Event (Q ⊕ R) (Sum.elim A B) := ⟨.inr e.1, e.2⟩

/-- **A lifted program** runs as it does where it sees its own queries only. -/
theorem exec_liftRight {step : σ → (q : Q ⊕ R) → Sum.elim A B q → σ → Prop} {s s' : σ}
    {f : ε → δ} (p : Prog R B ε α) {t : List (Event (Q ⊕ R) (Sum.elim A B))} {o : Except δ α} :
    Exec step s (p.liftRight f) t o s' ↔ ∃ tr o', t = tr.map Event.inr ∧ o = o'.mapError f ∧
      Exec (fun s r b s' => step s (.inr r) b s') s p tr o' s' := by
  induction p generalizing s t with
  | ret a =>
    constructor
    · intro h
      obtain ⟨rfl, rfl, rfl⟩ := exec_ret.1 h
      exact ⟨[], .ok a, rfl, rfl, .ret⟩
    · rintro ⟨tr, o', rfl, rfl, h⟩
      obtain ⟨rfl, rfl, rfl⟩ := exec_ret.1 h
      exact .ret
  | raise e =>
    constructor
    · intro h
      obtain ⟨rfl, rfl, rfl⟩ := exec_raise.1 h
      exact ⟨[], .error e, rfl, rfl, .raise⟩
    · rintro ⟨tr, o', rfl, rfl, h⟩
      obtain ⟨rfl, rfl, rfl⟩ := exec_raise.1 h
      exact .raise
  | ask r k ih =>
    constructor
    · intro h
      obtain ⟨b, s₁, t', hs, rfl, hrest⟩ := exec_ask.1 h
      obtain ⟨tr, o', rfl, rfl, hrun⟩ := (ih b).1 hrest
      exact ⟨⟨r, b⟩ :: tr, o', rfl, rfl, .ask hs hrun⟩
    · rintro ⟨tr, o', rfl, rfl, h⟩
      obtain ⟨b, s₁, tr', hs, rfl, hrun⟩ := exec_ask.1 h
      exact .ask hs ((ih b).2 ⟨tr', o', rfl, rfl, hrun⟩)

theorem runs_liftRight {f : ε → δ} {p : Prog R B ε α} {t : List (Event (Q ⊕ R) (Sum.elim A B))} {a : α}
    (h : Runs (p.liftRight f) t (.ok a)) :
    ∃ tr : List (Event R B), t = tr.map Event.inr ∧ Runs p tr (.ok a) := by
  obtain ⟨tr, o, rfl, ho, hrun⟩ := (exec_liftRight p).1 h
  cases o with
  | error e => cases ho
  | ok b =>
    cases ho
    exact ⟨tr, rfl, hrun⟩

/-- What it computes stays what it computes. -/
theorem computes_liftRight {P : Event (Q ⊕ R) (Sum.elim A B) → Prop} {f : ε → δ} {p : Prog R B ε α}
    {v : Except ε α} (h : Computes (fun e => P e.inr) p v) :
    Computes P (p.liftRight f) (v.mapError f) := by
  intro t o hruns hP
  obtain ⟨tr, o', rfl, rfl, hrun⟩ := (exec_liftRight p).1 hruns
  rw [h tr o' hrun fun e he => hP _ (List.mem_map_of_mem he)]

/-! ## Inside an expanded program -/

/-- Halfway through a sequence: in its first part, or in its second. -/
theorem reaches_bind {p : Prog R B ε α} {f : α → Prog R B ε β} {tr : List (Event R B)} {r : R}
    {k : B r → Prog R B ε β} (h : Reaches (p >>= f) tr (.ask r k)) :
    (∃ k', Reaches p tr (.ask r k')) ∨
      ∃ a t₁ t₂, tr = t₁ ++ t₂ ∧ Runs p t₁ (.ok a) ∧ Reaches (f a) t₂ (.ask r k) := by
  induction p generalizing tr with
  | ret a => exact .inr ⟨a, [], tr, rfl, runs_ret.2 ⟨rfl, rfl⟩, h⟩
  | raise e => cases h
  | ask q k' ih =>
    cases h with
    | refl => exact .inl ⟨k', .refl⟩
    | @ask _ _ b _ _ hrest =>
      rcases ih b hrest with ⟨k'', hfirst⟩ | ⟨a, t₁, t₂, rfl, hrun, hsecond⟩
      · exact .inl ⟨k'', .ask hfirst⟩
      · exact .inr ⟨a, ⟨q, b⟩ :: t₁, t₂, rfl, runs_ask.2 ⟨b, t₁, rfl, hrun⟩, hsecond⟩

/-- The finer events are runs of what carries the coarse ones out, one after
another. -/
inductive CarriedOut (carry : (q : Q) → Prog R B δ (A q)) :
    List (Event Q A) → List (Event R B) → Prop
  | nil : CarriedOut carry [] []
  | cons {q a t tr ctr} : Runs (carry q) t (.ok a) → CarriedOut carry ctr tr →
      CarriedOut carry (⟨q, a⟩ :: ctr) (t ++ tr)

/-- The last of them. -/
theorem CarriedOut.last {carry : (q : Q) → Prog R B δ (A q)} {ctr : List (Event Q A)}
    {e : Event Q A} {tr : List (Event R B)} (h : CarriedOut carry (ctr ++ [e]) tr) :
    ∃ t₁ t₂, tr = t₁ ++ t₂ ∧ Runs (carry e.1) t₂ (.ok e.2) := by
  induction ctr generalizing tr with
  | nil =>
    cases h with
    | @cons _ _ t _ _ hrun hrest =>
      cases hrest
      exact ⟨[], t, List.append_nil t, hrun⟩
  | cons e' ctr ih =>
    cases h with
    | @cons _ _ t _ _ _ hrest =>
      obtain ⟨t₁, t₂, rfl, hlast⟩ := ih hrest
      exact ⟨t ++ t₁, t₂, (List.append_assoc ..).symm, hlast⟩

/-- **Halfway through an expanded program**: some queries were carried out, and
one is under way. -/
theorem reaches_expand {carry : (q : Q) → Prog R B δ (A q)} {f : ε → δ} {p : Prog Q A ε α}
    {tr : List (Event R B)} {r : R} {k : B r → Prog R B δ α}
    (h : Reaches (p.expand carry f) tr (.ask r k)) :
    ∃ ctr q kq t₁ t₂ k', tr = t₁ ++ t₂ ∧ CarriedOut carry ctr t₁ ∧ Reaches p ctr (.ask q kq) ∧
      Reaches (carry q) t₂ (.ask r k') := by
  induction p generalizing tr with
  | ret a => cases h
  | raise e => cases h
  | ask q kq ih =>
    rcases reaches_bind h with ⟨k', hfirst⟩ | ⟨a, t₁, t₂, rfl, hrun, hsecond⟩
    · exact ⟨[], q, kq, [], tr, k', rfl, .nil, .refl, hfirst⟩
    · obtain ⟨ctr, q', kq', u₁, u₂, k', rfl, hcarried, hreaches, hunder⟩ := ih a hsecond
      exact ⟨⟨q, a⟩ :: ctr, q', kq', t₁ ++ u₁, u₂, k', (List.append_assoc ..).symm,
        .cons hrun hcarried, .ask hreaches, hunder⟩

/-! ## Two levels -/

/-- A finer world seen from a coarse one: its states and what is observed of
the events. -/
structure Level (σ τ γ Q R : Type) (A : Q → Type) (B : R → Type) where
  state : σ → τ
  coarse : Event Q A → Option γ
  fine : Event R B → Option γ

/-- What is observed of a run. -/
def observed {E : Type} (see : E → Option γ) (tr : List (ι × E)) : List (ι × γ) :=
  tr.filterMap fun x => (see x.2).map (Prod.mk x.1)

theorem observed_cons {E : Type} (see : E → Option γ) (x : ι × E) (tr : List (ι × E)) :
    observed see (x :: tr) = ((see x.2).map (Prod.mk x.1)).toList ++ observed see tr := by
  rw [observed, List.filterMap_cons]
  cases see x.2 <;> rfl

theorem observed_cons_none {E : Type} {see : E → Option γ} {x : ι × E} (h : see x.2 = none)
    (tr : List (ι × E)) : observed see (x :: tr) = observed see tr := by
  rw [observed_cons, h]
  rfl

namespace Level

variable (L : Level σ τ γ Q R A B) (fine : σ → (r : R) → B r → σ → Prop)
  (coarse : τ → (q : Q) → A q → τ → Prop)

/-- The turn that ends a program with `a` counts as `q` answered by `a`, the
turns before as nothing.  The program ends with a value, after some turn. -/
def Atomic (q : Q) : Prog R B δ (A q) → Prop
  | .ret _ => False
  | .raise _ => False
  | .ask r k => ∀ s b s', fine s r b s' →
      (∃ a, k b = .ret a ∧ coarse (L.state s) q a (L.state s') ∧ L.fine ⟨r, b⟩ = L.coarse ⟨q, a⟩) ∨
      (Atomic q (k b) ∧ L.state s' = L.state s ∧ L.fine ⟨r, b⟩ = none)

variable {L fine coarse} {carry : (q : Q) → Prog R B δ (A q)} {f : ε → δ}

variable (L fine coarse carry f) in
/-- Where the expanded program can be while the coarse one is at `c`. -/
def Refines (p : Prog R B δ α) : Prog Q A ε α → Prop
  | .ret a => p = .ret a
  | .raise e => p = .raise (f e)
  | .ask q k => ∃ rest, L.Atomic fine coarse q rest ∧ p = rest >>= fun a => (k a).expand carry f

theorem refines_expand (hcarry : ∀ q, L.Atomic fine coarse q (carry q)) (c : Prog Q A ε α) :
    L.Refines fine coarse carry f (c.expand carry f) c := by
  cases c with
  | ret a => rfl
  | raise e => rfl
  | ask q k => exact ⟨carry q, hcarry q, rfl⟩

/-- **A turn** counts as nothing or as a coarse query. -/
theorem Refines.turn (hcarry : ∀ q, L.Atomic fine coarse q (carry q)) {r : R}
    {k : B r → Prog R B δ α} {c : Prog Q A ε α}
    (h : L.Refines fine coarse carry f (.ask r k) c) {s s' : σ} {b : B r} (hs : fine s r b s') :
    (L.Refines fine coarse carry f (k b) c ∧ L.state s' = L.state s ∧ L.fine ⟨r, b⟩ = none) ∨
      ∃ q k' a, c = .ask q k' ∧ coarse (L.state s) q a (L.state s') ∧
        L.Refines fine coarse carry f (k b) (k' a) ∧ L.fine ⟨r, b⟩ = L.coarse ⟨q, a⟩ := by
  cases c with
  | ret a => cases h
  | raise e => cases h
  | ask q k' =>
    obtain ⟨rest, hatomic, hp⟩ := h
    cases rest with
    | ret a => exact hatomic.elim
    | raise e => exact hatomic.elim
    | ask r' k₀ =>
      cases hp
      rcases hatomic s b s' hs with ⟨a, hret, hcoarse, hseen⟩ | ⟨hrest, hstate, hseen⟩
      · refine .inr ⟨q, k', a, rfl, hcoarse, ?_, hseen⟩
        change L.Refines fine coarse carry f (k₀ b >>= fun a => (k' a).expand carry f) (k' a)
        rw [hret]
        exact refines_expand hcarry (k' a)
      · exact .inl ⟨⟨k₀ b, hrest, rfl⟩, hstate, hseen⟩

/-- An expanded program ends as the coarse one does. -/
theorem Refines.outcome {o : Except δ α} {c : Prog Q A ε α}
    (h : L.Refines fine coarse carry f (Prog.ofExcept o) c) :
    ∃ o', c = Prog.ofExcept o' ∧ o = o'.mapError f := by
  cases c with
  | ret a =>
    cases o with
    | error e => cases h
    | ok b =>
      cases h
      exact ⟨.ok a, rfl, rfl⟩
  | raise e =>
    cases o with
    | ok b => cases h
    | error e' =>
      cases h
      exact ⟨.error e, rfl, rfl⟩
  | ask q k =>
    obtain ⟨rest, hatomic, hp⟩ := h
    cases rest with
    | ret a => exact hatomic.elim
    | raise e => exact hatomic.elim
    | ask r k₀ => cases o <;> cases hp

end Level

/-! ## Runs -/

section Runs

variable [DecidableEq ι] {L : Level σ τ γ Q R A B} {fine : σ → (r : R) → B r → σ → Prop}
  {coarse : τ → (q : Q) → A q → τ → Prop} {carry : (q : Q) → Prog R B δ (A q)} {f : ε → δ}

/-- Related programs stay related when one of them has moved. -/
theorem refines_update {pool : ι → Prog R B δ α} {cpool : ι → Prog Q A ε α}
    (h : ∀ i, L.Refines fine coarse carry f (pool i) (cpool i)) {i : ι} {p : Prog R B δ α}
    {c : Prog Q A ε α} (hi : L.Refines fine coarse carry f p c) (j : ι) :
    L.Refines fine coarse carry f (Function.update pool i p j) (Function.update cpool i c j) := by
  by_cases hj : j = i
  · subst hj
    rw [Function.update_self, Function.update_self]
    exact hi
  · rw [Function.update_of_ne hj, Function.update_of_ne hj]
    exact h j

/-- **Coarse turns.** -/
theorem Turns.coarsen (hcarry : ∀ q, L.Atomic fine coarse q (carry q)) {s s' : σ}
    {pool pool' : ι → Prog R B δ α} {tr : List (ι × Event R B)}
    (h : Turns fine pool s tr pool' s') {cpool : ι → Prog Q A ε α}
    (hpool : ∀ i, L.Refines fine coarse carry f (pool i) (cpool i)) :
    ∃ tr' cpool', Turns coarse cpool (L.state s) tr' cpool' (L.state s') ∧
      (∀ i, L.Refines fine coarse carry f (pool' i) (cpool' i)) ∧
      observed L.coarse tr' = observed L.fine tr := by
  induction h generalizing cpool with
  | refl => exact ⟨[], cpool, .refl, hpool, rfl⟩
  | @turn pool s s₁ s' i r k b tr pool' hask hs _ ih =>
    have hi := hpool i
    rw [hask] at hi
    rcases hi.turn hcarry hs with ⟨hrest, hstate, hseen⟩ | ⟨q, k', a, hc, hcoarse, hrest, hseen⟩
    · -- the turn counts as nothing
      have hpool' : ∀ j, L.Refines fine coarse carry f (Function.update pool i (k b) j) (cpool j) := by
        have hmoved := refines_update hpool (i := i) hrest
        rwa [Function.update_eq_self] at hmoved
      obtain ⟨tr', cpool', hturns, hend, hobserved⟩ := ih hpool'
      rw [hstate] at hturns
      exact ⟨tr', cpool', hturns, hend, hobserved.trans (observed_cons_none hseen tr).symm⟩
    · obtain ⟨tr', cpool', hturns, hend, hobserved⟩ := ih (refines_update hpool hrest)
      refine ⟨(i, ⟨q, a⟩) :: tr', cpool', .turn hc hcoarse hturns, hend, ?_⟩
      rw [observed_cons, observed_cons, hobserved, hseen]

/-- Scheduled turns. -/
theorem interleave_turns {step : σ → (r : R) → B r → σ → Prop} (h : σ → (r : R) → B r × σ)
    (hstep : ∀ s r, step s r (h s r).1 (h s r).2) (schedule : List ι) (pool : ι → Prog R B δ α)
    (s : σ) : Turns step pool s (interleave h pool s schedule).1 (interleave h pool s schedule).2.1
      (interleave h pool s schedule).2.2 := by
  induction schedule generalizing pool s with
  | nil => exact .refl
  | cons i schedule ih =>
    unfold interleave
    cases hi : pool i with
    | ret a => exact ih pool s
    | raise e => exact ih pool s
    | ask r k => exact .turn hi (hstep s r) (ih _ _)

/-- A run to an end where all have their outcomes is a finished one. -/
theorem Turns.interleaved {step : σ → (r : R) → B r → σ → Prop} {s s' : σ}
    {pool pool' : ι → Prog R B δ α} {tr : List (ι × Event R B)}
    (h : Turns step pool s tr pool' s') {o : ι → Except δ α}
    (hend : ∀ i, pool' i = Prog.ofExcept (o i)) : Interleaved step pool s tr o s' := by
  induction h with
  | @refl pool s =>
    obtain rfl : pool = fun i => Prog.ofExcept (o i) := funext hend
    exact .done
  | turn hask hs _ ih => exact .turn hask hs (ih hend)

/-- What all events satisfy may be said of the steps. -/
theorem Interleaved.restrict {step : σ → (r : R) → B r → σ → Prop} {s s' : σ}
    {pool : ι → Prog R B δ α} {tr : List (ι × Event R B)} {o : ι → Except δ α}
    {P : Event R B → Prop} (h : Interleaved step pool s tr o s') (hP : ∀ x ∈ tr, P x.2) :
    Interleaved (fun s r b s' => step s r b s' ∧ P ⟨r, b⟩) pool s tr o s' := by
  induction h with
  | done => exact .done
  | turn hask hs _ ih =>
    obtain ⟨hfirst, hrest⟩ := List.forall_mem_cons.1 hP
    exact .turn hask ⟨hs, hfirst⟩ (ih hrest)

/-- **Refinement.**  What expanded programs do in any order of turns, the
coarse ones can do, with the same outcomes and the same observations. -/
theorem Interleaved.coarsen (hcarry : ∀ q, L.Atomic fine coarse q (carry q)) {s s' : σ}
    {cpool : ι → Prog Q A ε α} {tr : List (ι × Event R B)} {o : ι → Except δ α}
    (h : Interleaved fine (fun i => (cpool i).expand carry f) s tr o s') :
    ∃ tr' o', Interleaved coarse cpool (L.state s) tr' o' (L.state s') ∧
      (∀ i, o i = (o' i).mapError f) ∧ observed L.coarse tr' = observed L.fine tr := by
  obtain ⟨tr', cpool', hturns, hend, hobserved⟩ :=
    h.turns.coarsen hcarry fun i => Level.refines_expand hcarry (cpool i)
  choose o' hprog hout using fun i => (hend i).outcome
  exact ⟨tr', o', hturns.interleaved hprog, hout, hobserved⟩

end Runs

/-! ## Programs that compute -/

theorem asks_of_forall {C : Q → Prop} (hC : ∀ q, C q) (p : Prog Q A ε α) : p.Asks C := by
  induction p with
  | ret a => trivial
  | raise e => trivial
  | ask q k ih => exact ⟨hC q, ih⟩

/-- The queries of a lifted program are its own. -/
theorem asks_liftRight {C : Q ⊕ R → Prop} {f : ε → δ} {p : Prog R B ε α}
    (hp : p.Asks fun r => C (.inr r)) :
    (p.liftRight f : Prog (Q ⊕ R) (Sum.elim A B) δ α).Asks C := by
  induction p with
  | ret a => trivial
  | raise e => trivial
  | ask r k ih => exact ⟨hp.1, fun b => ih b (hp.2 b)⟩

theorem asks_liftLeft {C : Q ⊕ R → Prop} {p : Prog Q A ε α} (hp : p.Asks fun q => C (.inl q)) :
    (p.liftLeft : Prog (Q ⊕ R) (Sum.elim A B) ε α).Asks C := by
  induction p with
  | ret a => trivial
  | raise e => trivial
  | ask q k ih => exact ⟨hp.1, fun a => ih a (hp.2 a)⟩

theorem asks_expand {carry : (q : Q) → Prog R B δ (A q)} {f : ε → δ} {C : R → Prop} {D : Q → Prop}
    (hcarry : ∀ q, D q → (carry q).Asks C) {p : Prog Q A ε α} (hp : p.Asks D) :
    (p.expand carry f).Asks C := by
  induction p with
  | ret a => trivial
  | raise e => trivial
  | ask q k ih => exact asks_bind (hcarry q hp.1) fun a => ih a (hp.2 a)

theorem computes_mono {P P' : Event R B → Prop} {p : Prog R B δ α} {v : Except δ α}
    (hP : ∀ e, P' e → P e) (h : Computes P p v) : Computes P' p v :=
  fun tr o hruns hall => h tr o hruns fun e he => hP e (hall e he)

/-- A program that only ever computes `v`, in a world where this takes place
inside, is atomic. -/
theorem Level.atomic_of_computes {L : Level σ τ γ Q R A B}
    {fine : σ → (r : R) → B r → σ → Prop} {coarse : τ → (q : Q) → A q → τ → Prop} {q : Q}
    {P : Event R B → Prop} {C : R → Prop} {v : A q}
    (hinside : ∀ s r b s', C r → fine s r b s' →
      P ⟨r, b⟩ ∧ L.state s' = L.state s ∧ L.fine ⟨r, b⟩ = none)
    (hcounts : ∀ t, coarse t q v t) (hseen : L.coarse ⟨q, v⟩ = none)
    {p : Prog R B δ (A q)} (hasks : p.Asks C) (hp : Computes P p (.ok v))
    (hne : ∀ o : Except δ (A q), p ≠ Prog.ofExcept o) : L.Atomic fine coarse q p := by
  induction p with
  | ret a => exact (hne (.ok a) rfl).elim
  | raise e => exact (hne (.error e) rfl).elim
  | ask r k ih =>
    intro s b s' hs
    obtain ⟨hP, hstate, hnone⟩ := hinside s r b s' hasks.1 hs
    have hrest : Computes P (k b) (.ok v) := fun tr o hruns hall =>
      hp (⟨r, b⟩ :: tr) o (runs_ask.2 ⟨b, tr, rfl, hruns⟩) (List.forall_mem_cons.2 ⟨hP, hall⟩)
    cases hk : k b with
    | ret a =>
      rw [hk] at hrest
      obtain rfl : a = v := Except.ok.inj (hrest [] (.ok a) (runs_ret.2 ⟨rfl, rfl⟩) (by simp))
      refine .inl ⟨a, rfl, ?_, hnone.trans hseen.symm⟩
      rw [hstate]
      exact hcounts _
    | raise e =>
      rw [hk] at hrest
      cases hrest [] (.error e) (runs_raise.2 ⟨rfl, rfl⟩) (by simp)
    | ask r' k' =>
      refine .inr ⟨?_, hstate, hnone⟩
      rw [← hk]
      refine ih b (hasks.2 b) hrest fun o ho => ?_
      rw [hk] at ho
      cases o <;> cases ho

end Coroutine
