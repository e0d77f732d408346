import UniversityQA.Lib.StateGraph

/-!
# Silent queries

Some queries are asked for their effect only: the answer is known beforehand.
`hide` takes them out of a program.

* `hide_bind`: hiding goes through programs;
* `Runs.hide`: a run is one of the program without its silent queries;
* `Runs.determined`: two runs with answers given by a function are the same;
* `Graph.hide_invoke`: a change of the state that the nodes show in silent
  queries only goes unnoticed until the end.
-/

namespace Coroutine

open Prog StateGraph

variable {Q : Type} {A : Q → Type} {ε α β : Type} {silent : (q : Q) → Option (A q)}

/-- The program with every silent query answered as `silent` says. -/
def Prog.hide (silent : (q : Q) → Option (A q)) : Prog Q A ε α → Prog Q A ε α
  | .ret a => .ret a
  | .raise e => .raise e
  | .ask q k =>
    match silent q with
    | some a => (k a).hide silent
    | none => .ask q fun a => (k a).hide silent

/-- The events that are left. -/
def audible (silent : (q : Q) → Option (A q)) (tr : List (Event Q A)) : List (Event Q A) :=
  tr.filter fun e => (silent e.1).isNone

theorem hide_ask_some {q : Q} {a : A q} (h : silent q = some a) (k : A q → Prog Q A ε α) :
    (ask q k).hide silent = (k a).hide silent := by
  rw [Prog.hide, h]

theorem hide_ask_none {q : Q} (h : silent q = none) (k : A q → Prog Q A ε α) :
    (ask q k).hide silent = ask q fun a => (k a).hide silent := by
  rw [Prog.hide, h]

theorem hide_bind (p : Prog Q A ε α) (f : α → Prog Q A ε β) :
    (p >>= f).hide silent = p.hide silent >>= fun a => (f a).hide silent := by
  induction p with
  | ret a => rfl
  | raise e => rfl
  | ask q k ih =>
    rw [ask_bind]
    cases hq : silent q with
    | some a => rw [hide_ask_some hq, hide_ask_some hq, ih a]
    | none =>
      rw [hide_ask_none hq, hide_ask_none hq, ask_bind]
      exact congrArg (ask q) (funext ih)

section Runs

variable {tr tr' : List (Event Q A)} {o o' : Except ε α}

/-- **Hiding.** -/
theorem Runs.hide {p : Prog Q A ε α} (h : Runs p tr o)
    (hsilent : ∀ e ∈ tr, ∀ a, silent e.1 = some a → e.2 = a) :
    Runs (p.hide silent) (audible silent tr) o := by
  induction p generalizing tr with
  | ret a =>
    obtain ⟨rfl, rfl⟩ := runs_ret.mp h
    exact runs_ret.mpr ⟨rfl, rfl⟩
  | raise e =>
    obtain ⟨rfl, rfl⟩ := runs_raise.mp h
    exact runs_raise.mpr ⟨rfl, rfl⟩
  | ask q k ih =>
    obtain ⟨a, t, rfl, hrest⟩ := runs_ask.mp h
    obtain ⟨hhead, htail⟩ := List.forall_mem_cons.mp hsilent
    have hih := ih a hrest htail
    cases hq : silent q with
    | some a' =>
      obtain rfl := hhead a' hq
      rw [hide_ask_some hq, audible, List.filter_cons_of_neg (by simp [hq])]
      exact hih
    | none =>
      rw [hide_ask_none hq, audible, List.filter_cons_of_pos (by simp [hq])]
      exact runs_ask.mpr ⟨a, _, rfl, hih⟩

/-- **Determinism.**  A function that gives the answers leaves nothing open. -/
theorem Runs.determined {p : Prog Q A ε α} {w : (q : Q) → A q} (h : Runs p tr o)
    (h' : Runs p tr' o') (hw : ∀ e ∈ tr, e.2 = w e.1) (hw' : ∀ e ∈ tr', e.2 = w e.1) :
    tr = tr' ∧ o = o' := by
  induction p generalizing tr tr' with
  | ret a =>
    obtain ⟨rfl, rfl⟩ := runs_ret.mp h
    exact (runs_ret.mp h').imp Eq.symm Eq.symm
  | raise e =>
    obtain ⟨rfl, rfl⟩ := runs_raise.mp h
    exact (runs_raise.mp h').imp Eq.symm Eq.symm
  | ask q k ih =>
    obtain ⟨a, t, rfl, hrest⟩ := runs_ask.mp h
    obtain ⟨a', t', rfl, hrest'⟩ := runs_ask.mp h'
    obtain ⟨ha, ht⟩ := List.forall_mem_cons.mp hw
    obtain ⟨ha', ht'⟩ := List.forall_mem_cons.mp hw'
    obtain rfl : a = a' := ha.trans ha'.symm
    obtain ⟨rfl, ho⟩ := ih a hrest hrest' ht ht'
    exact ⟨rfl, ho⟩

end Runs

/-! ## State graphs -/

section Graph

variable {N S U K : Type} [BEq K] {g : Graph Q A ε N S U K} {f : S → S}

/-- The nodes, the edges and the merging do not notice the change `f`. -/
structure Unnoticed (silent : (q : Q) → Option (A q)) (g : Graph Q A ε N S U K) (f : S → S) :
    Prop where
  snapshot : ∀ n s, ∃ a, silent (g.snapshot n s) = some a
  node : ∀ n s, (g.node n (f s)).hide silent = (g.node n s).hide silent
  next : ∀ n s, (g.edges n).next (f s) = (g.edges n).next s
  merge : ∀ s u, g.merge (f s) u = f (g.merge s u)

/-- **Unnoticed changes.** -/
theorem hide_invoke (h : Unnoticed silent g f) (fuel : Nat) (n : N) (s : S) :
    (g.invoke fuel n (f s)).hide silent =
      (g.invoke fuel n s).hide silent >>= fun r => ret (f r) := by
  induction fuel generalizing n s with
  | zero => rfl
  | succ fuel ih =>
    obtain ⟨a, ha⟩ := h.snapshot n (f s)
    obtain ⟨b, hb⟩ := h.snapshot n s
    rw [Graph.invoke, Graph.invoke, hide_ask_some ha, hide_ask_some hb, hide_bind, hide_bind,
      h.node, bind_assoc]
    congr 1
    funext u
    rw [h.merge, Graph.follow, Graph.follow, h.next]
    cases (g.edges n).next (g.merge s u) with
    | error k => rfl
    | ok target =>
      cases target with
      | END => rfl
      | node m => exact ih m (g.merge s u)

end Graph

end Coroutine
