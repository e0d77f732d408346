import UniversityQA.Agent.Nodes
import UniversityQA.Lib.StateGraph

/-!
# The graph

`buildGraph` wires the nodes as the source does and `ainvokeGraph` runs it
from the entry point.  The rank of a node and a state falls along every edge
that is followed (`buildGraph_decreases`).

LangGraph's own recursion limit is left out: `ainvokeGraph` allows
`superstepBound` steps, and `ainvoke_stable` shows that no larger bound makes
a difference.
-/

namespace UniversityQA.Agent

open UniversityQA.Py UniversityQA.Db Coroutine StateGraph

/-- `_route`. -/
def route (state : AgentState) : AgentStatus := state.status

def buildGraph (config : Configurable) :
    Graph AgentQuery AgentReply PyException Node AgentState StateUpdate AgentStatus where
  entryPoint := .questionAnalyzer
  node
    | .questionAnalyzer, state => questionAnalyzer state config
    | .sqlGenerator, state => sqlGenerator state config
    | .sqlValidator, state => sqlValidator state
    | .sqlExecutor, state => sqlExecutor state config
    | .answerFormatter, state => answerFormatter state config
  edges
    | .questionAnalyzer => .conditional route
        [(.generating, .node .sqlGenerator), (.askingClarification, .END), (.error, .END)]
    | .sqlGenerator => .edge (.node .sqlValidator)
    | .sqlValidator => .conditional route [(.executing, .node .sqlExecutor), (.error, .END)]
    | .sqlExecutor => .conditional route
        [(.formatting, .node .answerFormatter), (.generating, .node .sqlGenerator), (.error, .END)]
    | .answerFormatter => .edge .END
  merge := AgentState.merge
  snapshot := .superstep
  keyError := .keyError
  recursionError := .graphRecursionError

/-- Steps still possible at a node, less one: three a retry that is left. -/
def rank (config : Configurable) (n : Node) (s : AgentState) : Nat :=
  let left := (config.maxRetries - s.retryCount).toNat
  match n with
  | .questionAnalyzer => 3 * left + 4
  | .sqlGenerator => 3 * left + 3
  | .sqlValidator => 3 * left + 2
  | .sqlExecutor => 3 * left + 1
  | .answerFormatter => 0

def superstepBound (config : Configurable) (state : AgentState) : Nat :=
  rank config .questionAnalyzer state + 1

/-- `graph.ainvoke(state, config)`. -/
def ainvokeGraph (config : Configurable) (state : AgentState) : NodeProg AgentState :=
  (buildGraph config).invoke (superstepBound config state) (buildGraph config).entryPoint state

/-! ## Edges -/

theorem next_questionAnalyzer (c : Configurable) (s : AgentState) :
    ((buildGraph c).edges .questionAnalyzer).next s =
      match s.status with
      | .generating => .ok (.node .sqlGenerator)
      | .askingClarification | .error => .ok .END
      | k => .error k := by
  cases h : s.status <;> simp only [buildGraph, Edges.next, route, h] <;> rfl

theorem next_sqlValidator (c : Configurable) (s : AgentState) :
    ((buildGraph c).edges .sqlValidator).next s =
      match s.status with
      | .executing => .ok (.node .sqlExecutor)
      | .error => .ok .END
      | k => .error k := by
  cases h : s.status <;> simp only [buildGraph, Edges.next, route, h] <;> rfl

theorem next_sqlExecutor (c : Configurable) (s : AgentState) :
    ((buildGraph c).edges .sqlExecutor).next s =
      match s.status with
      | .formatting => .ok (.node .answerFormatter)
      | .generating => .ok (.node .sqlGenerator)
      | .error => .ok .END
      | k => .error k := by
  cases h : s.status <;> simp only [buildGraph, Edges.next, route, h] <;> rfl

/-- The verdict leads on to the generator, or it ends the run. -/
theorem next_verdict (c : Configurable) (s : AgentState) (v : Verdict) (intent : String) :
    ((buildGraph c).edges .questionAnalyzer).next (s.merge (v.update s intent)) =
      .ok (if v = .answerable then .node .sqlGenerator else .END) := by
  rw [next_questionAnalyzer]
  cases v <;> rfl

/-! ## Termination -/

/-- Every step to another node lowers the rank: back to the generator goes
only an executor that counted a retry within the limit. -/
theorem buildGraph_decreases (c : Configurable) : (buildGraph c).Decreases (rank c) := by
  intro n s u m hu hn
  obtain ⟨tr, h⟩ := returns_iff_runs.mp hu
  cases n with
  | questionAnalyzer =>
    cases questionAnalyzer_run h with
    | classified content hm hv =>
      change ((buildGraph c).edges .questionAnalyzer).next (s.merge _) = _ at hn
      rw [next_verdict] at hn
      split at hn <;> cases hn
      simp [rank, AgentState.merge, buildGraph, Verdict.update, *]
  | sqlGenerator =>
    cases sqlGenerator_run h with
    | generated content =>
      cases hn
      simp [rank, AgentState.merge, buildGraph]
  | sqlValidator =>
    cases sqlValidator_run h with
    | valid hv =>
      cases hn
      simp [rank, AgentState.merge, buildGraph]
    | invalid message hv => cases hn
  | sqlExecutor =>
    cases sqlExecutor_run h with
    | succeeded results =>
      cases hn
      simp [rank]
    | retry errorMsg hr =>
      cases hn
      simp only [rank, AgentState.merge, buildGraph, Option.getD_some]
      omega
    | exhausted errorMsg hr => cases hn
  | answerFormatter => cases hn

/-- **Termination.**  Every bound from `superstepBound` on gives the same
program as `ainvokeGraph`. -/
theorem ainvoke_stable (c : Configurable) (s : AgentState) (fuel : Nat)
    (h : superstepBound c s ≤ fuel) :
    (buildGraph c).invoke fuel .questionAnalyzer s = ainvokeGraph c s :=
  Graph.invoke_stable (buildGraph_decreases c) _ _ _ _ h (Nat.lt_succ_self _)

/-! ## What is asked -/

/-- The prompts a node may send in a state. -/
inductive NodePrompt (c : Configurable) (s : AgentState) : Node → Prompt → Prop
  | merger : NodePrompt c s .questionAnalyzer (mergerPrompt s)
  | classifier (intent : String) :
      NodePrompt c s .questionAnalyzer (.classifier intent s.schemaContext)
  | sql : NodePrompt c s .sqlGenerator (sqlPrompt s c)
  | answer : NodePrompt c s .answerFormatter (answerPrompt s c)

/-- `P` restricts calls of the chat model only. -/
def OfModel (P : AgentQuery → Prop) : Prop :=
  ∀ q, (∀ prompt messages, q ≠ .ainvoke prompt messages) → P q

section Asks

variable {P : AgentQuery → Prop} (hP : OfModel P)

include hP

theorem asks_log (t : Tracer) (node : Node) (event : NodeEvent) (kwargs : JsonObject) :
    (t.log node event kwargs).Asks P :=
  ⟨hP _ fun _ _ => AgentQuery.noConfusion, fun _ => trivial⟩

theorem asks_executeQuery (sql : String) : (executeQuery sql).Asks P :=
  ⟨hP _ fun _ _ => AgentQuery.noConfusion, fun _ => trivial⟩

omit hP in
theorem asks_ainvoke {c : Configurable} {prompt : Prompt}
    (h : P (.ainvoke prompt (prompt.messages c.strOf))) : (ainvoke c prompt).Asks P := by
  refine ⟨h, fun reply => ?_⟩
  cases reply <;> trivial

omit hP in
theorem asks_mergeIntent {c : Configurable} {s : AgentState}
    (h : P (.ainvoke (mergerPrompt s) ((mergerPrompt s).messages c.strOf))) :
    (mergeIntent s c).Asks P := by
  unfold mergeIntent
  split
  · exact asks_bind (asks_ainvoke h) fun _ => asks_ret _
  · trivial

theorem asks_routeReply (s : AgentState) (maxRounds : Int) (intent content : String) :
    (routeReply s maxRounds intent content).Asks P := by
  rw [routeReply_eq]
  cases verdict s.ambiguityCount maxRounds content with
  | error e => trivial
  | ok v =>
    have hclosing : P (v.closing s).1 := by
      cases v <;> exact hP _ fun _ _ => AgentQuery.noConfusion
    exact ⟨hclosing, fun _ => trivial⟩

/-- **What the nodes ask.** -/
theorem asks_node {c : Configurable} {n : Node} {s : AgentState}
    (h : ∀ prompt, NodePrompt c s n prompt → P (.ainvoke prompt (prompt.messages c.strOf))) :
    ((buildGraph c).node n s).Asks P := by
  cases n with
  | questionAnalyzer =>
    change (questionAnalyzer s c).Asks P
    unfold questionAnalyzer
    refine asks_bind (asks_log hP ..) fun _ => asks_bind (asks_mergeIntent (h _ .merger)) ?_
    intro intent
    refine asks_bind (asks_ainvoke (h _ (.classifier intent))) fun raw => ?_
    exact asks_routeReply hP s c.maxRounds intent raw
  | sqlGenerator =>
    change (sqlGenerator s c).Asks P
    unfold sqlGenerator
    refine asks_bind (asks_log hP ..) fun _ => asks_bind (asks_ainvoke (h _ .sql)) fun _ => ?_
    exact asks_bind (asks_log hP ..) fun _ => asks_ret _
  | sqlValidator =>
    change (sqlValidator s).Asks P
    unfold sqlValidator
    -- whatever it checks, lest the check itself be evaluated
    generalize validateSql = validate
    refine asks_bind (asks_log hP ..) fun _ => ?_
    dsimp only
    rcases validate (orElse s.sql "") with ⟨_ | _, errorMsg⟩
    · exact asks_bind (asks_log hP ..) fun _ => asks_ret _
    · exact asks_bind (asks_log hP ..) fun _ => asks_ret _
  | sqlExecutor =>
    change (sqlExecutor s c).Asks P
    unfold sqlExecutor
    refine asks_bind (asks_log hP ..) fun _ => asks_bind (asks_executeQuery hP _) fun result => ?_
    cases result with
    | ok results => exact asks_bind (asks_log hP ..) fun _ => asks_ret _
    | error errorMsg =>
      dsimp only
      split
      · exact asks_bind (asks_log hP ..) fun _ => asks_ret _
      · exact asks_bind (asks_log hP ..) fun _ => asks_ret _
  | answerFormatter =>
    change (answerFormatter s c).Asks P
    unfold answerFormatter
    refine asks_bind (asks_log hP ..) fun _ => asks_bind (asks_ainvoke (h _ .answer)) fun _ => ?_
    exact asks_bind (asks_log hP ..) fun _ => asks_ret _

end Asks

end UniversityQA.Agent
