import UniversityQA.Lib.Coroutine

/-!
# State graphs

A graph of coroutine nodes over a shared state: a node returns an update, the
engine merges it, and the node's edges choose where to go on.  A conditional
edge looks the value of its path function up in a table; a value without entry
raises.

`invoke` takes at most `fuel` steps.  `invoke_stable`: where a rank falls with
every step, all bounds above the rank give the same program, so the bound is
never felt.
-/

namespace StateGraph

open Coroutine

inductive Target (N : Type) where
  | END
  | node (n : N)
  deriving DecidableEq, Repr

/-- The edges out of a node. -/
inductive Edges (N S K : Type) where
  | edge (target : Target N)
  | conditional (path : S → K) (pathMap : List (K × Target N))

/-- Where to go in the state `s`; `error k` is the missing entry `k`. -/
def Edges.next {N S K : Type} [BEq K] : Edges N S K → S → Except K (Target N)
  | .edge t, _ => .ok t
  | .conditional path pathMap, s =>
    match pathMap.lookup (path s) with
    | some t => .ok t
    | none => .error (path s)

/-- A compiled graph with its engine: `snapshot` is asked in front of a node,
`merge` folds an update in. -/
structure Graph (Q : Type) (A : Q → Type) (ε N S U K : Type) where
  entryPoint : N
  node : N → S → Prog Q A ε U
  edges : N → Edges N S K
  merge : S → U → S
  snapshot : N → S → Q
  keyError : K → ε
  recursionError : ε

variable {Q : Type} {A : Q → Type} {ε N S U K : Type} [BEq K]

namespace Graph

/-- Out of the node `n` in the state `s`, where `go` runs the next node. -/
def follow (g : Graph Q A ε N S U K) (go : N → S → Prog Q A ε S) (n : N) (s : S) : Prog Q A ε S :=
  match (g.edges n).next s with
  | .error k => .raise (g.keyError k)
  | .ok .END => .ret s
  | .ok (.node m) => go m s

/-- At most `fuel` steps from the node `n` in the state `s`. -/
def invoke (g : Graph Q A ε N S U K) : Nat → N → S → Prog Q A ε S
  | 0, _, _ => .raise g.recursionError
  | fuel + 1, n, s =>
    .ask (g.snapshot n s) fun _ => do
      let u ← g.node n s
      g.follow (g.invoke fuel) n (g.merge s u)

section Runs

variable {g : Graph Q A ε N S U K} {go : N → S → Prog Q A ε S} {n m : N} {s : S}
  {tr : List (Event Q A)} {o : Except ε S}

theorem runs_follow_node (hn : (g.edges n).next s = .ok (.node m)) :
    Runs (g.follow go n s) tr o ↔ Runs (go m s) tr o := by
  rw [follow, hn]

theorem runs_follow_END (hn : (g.edges n).next s = .ok .END) :
    Runs (g.follow go n s) tr o ↔ tr = [] ∧ o = .ok s := by
  rw [follow, hn, runs_ret]

/-- One step, by what the node returned. -/
theorem runs_invoke_succ {fuel : Nat} (h : Runs (g.invoke (fuel + 1) n s) tr o) :
    ∃ r t, tr = ⟨g.snapshot n s, r⟩ :: t ∧
      ((∃ e, Runs (g.node n s) t (.error e) ∧ o = .error e) ∨
        ∃ u t₁ t₂, t = t₁ ++ t₂ ∧ Runs (g.node n s) t₁ (.ok u) ∧
          Runs (g.follow (g.invoke fuel) n (g.merge s u)) t₂ o) := by
  rw [invoke, runs_ask] at h
  obtain ⟨r, t, rfl, h⟩ := h
  refine ⟨r, t, rfl, ?_⟩
  rcases runs_bind.mp h with ⟨e, he, rfl⟩ | ⟨u, t₁, t₂, rfl, hu, h₂⟩
  · exact .inl ⟨e, he, rfl⟩
  · exact .inr ⟨u, t₁, t₂, rfl, hu, h₂⟩

end Runs

/-- Every step to another node lowers `rank`. -/
def Decreases (g : Graph Q A ε N S U K) (rank : N → S → Nat) : Prop :=
  ∀ n s u m, (g.node n s).Returns u → (g.edges n).next (g.merge s u) = .ok (.node m) →
    rank m (g.merge s u) < rank n s

/-- **Termination.**  Above the rank the bound does not matter. -/
theorem invoke_stable {g : Graph Q A ε N S U K} {rank : N → S → Nat} (hrank : g.Decreases rank)
    (fuel fuel' : Nat) (n : N) (s : S) (h : rank n s < fuel) (h' : rank n s < fuel') :
    g.invoke fuel n s = g.invoke fuel' n s := by
  induction fuel generalizing fuel' n s with
  | zero => omega
  | succ fuel ih =>
    cases fuel' with
    | zero => omega
    | succ fuel' =>
      unfold invoke
      refine congrArg (Prog.ask _) (funext fun _ => Prog.bind_congr _ _ _ fun u hu => ?_)
      unfold follow
      cases hn : (g.edges n).next (g.merge s u) with
      | error k => rfl
      | ok t =>
        cases t with
        | END => rfl
        | node m =>
          have hlt := hrank n s u m hu hn
          exact ih fuel' m (g.merge s u) (by omega) (by omega)

/-- **What a graph asks.**  With an invariant of node and state that the edges
keep, the nodes speak for the graph. -/
theorem asks_invoke {g : Graph Q A ε N S U K} {P : Q → Prop} {I : N → S → Prop}
    (hsnapshot : ∀ n s, P (g.snapshot n s)) (hnode : ∀ n s, I n s → (g.node n s).Asks P)
    (hnext : ∀ n s u m, I n s → (g.edges n).next (g.merge s u) = .ok (.node m) → I m (g.merge s u))
    (fuel : Nat) {n : N} {s : S} (h : I n s) : (g.invoke fuel n s).Asks P := by
  induction fuel generalizing n s with
  | zero => trivial
  | succ fuel ih =>
    refine ⟨hsnapshot n s, fun _ => asks_bind (hnode n s h) fun u => ?_⟩
    unfold follow
    cases hn : (g.edges n).next (g.merge s u) with
    | error k => trivial
    | ok t =>
      cases t with
      | END => trivial
      | node m => exact ih (hnext n s u m h hn)

end Graph

end StateGraph
