import UniversityQA.Agent.Graph

/-!
# The run around the classifier's reply

A run asks the classifier once.  `ainvokeGraph_eq` cuts the program there:
`beforeClassifier` finds the intent, `conclude` goes on with the verdict, and
neither of the two asks the classifier (`asks_conclude`).  Two worlds that
differ in the classifier only therefore differ through the verdict only.
-/

namespace UniversityQA.Agent

open UniversityQA.Py UniversityQA.Db Coroutine StateGraph

/-- The query is not a call of the classifier. -/
def NotClassifier : AgentQuery → Prop
  | .ainvoke prompt _ => prompt.isClassifier = false
  | _ => True

/-! ## What the loop asks -/

theorem notClassifier_ofModel : OfModel NotClassifier := by
  intro q hq
  cases q with
  | ainvoke prompt messages => exact absurd rfl (hq prompt messages)
  | executeQuery sql => trivial
  | log record => trivial
  | superstep node state => trivial

/-- No edge leads back to the analyzer. -/
theorem next_ne_questionAnalyzer {c : Configurable} {n m : Node} {s : AgentState}
    (h : ((buildGraph c).edges n).next s = .ok (.node m)) : m ≠ .questionAnalyzer := by
  rintro rfl
  cases n with
  | questionAnalyzer => rw [next_questionAnalyzer] at h; split at h <;> cases h
  | sqlGenerator => cases h
  | sqlValidator => rw [next_sqlValidator] at h; split at h <;> cases h
  | sqlExecutor => rw [next_sqlExecutor] at h; split at h <;> cases h
  | answerFormatter => cases h

theorem asks_invoke (c : Configurable) (fuel : Nat) {n : Node} (hn : n ≠ .questionAnalyzer)
    (s : AgentState) : ((buildGraph c).invoke fuel n s).Asks NotClassifier := by
  refine Graph.asks_invoke (I := fun n _ => n ≠ .questionAnalyzer) (fun _ _ => trivial) ?_
    (fun _ _ _ _ _ hnext => next_ne_questionAnalyzer hnext) fuel hn
  intro n s hn
  refine asks_node notClassifier_ofModel fun prompt hprompt => ?_
  cases hprompt with
  | merger => exact absurd rfl hn
  | classifier intent => exact absurd rfl hn
  | sql => rfl
  | answer => rfl

/-! ## The cut -/

/-- From the entry to the intent. -/
def beforeClassifier (c : Configurable) (s : AgentState) : NodeProg String :=
  .ask (.superstep .questionAnalyzer s) fun _ => do
    s.tracer.log .questionAnalyzer .start
    mergeIntent s c

/-- From the verdict on. -/
def conclude (c : Configurable) (s : AgentState) (intent : String) :
    Except PyException Verdict → NodeProg AgentState
  | .error e => .raise e
  | .ok v => .ask (v.closing s).1 fun _ =>
    if v = .answerable then
      (buildGraph c).invoke (rank c .questionAnalyzer s) .sqlGenerator (s.merge (v.update s intent))
    else .ret (s.merge (v.update s intent))

theorem asks_beforeClassifier (c : Configurable) (s : AgentState) :
    (beforeClassifier c s).Asks NotClassifier :=
  ⟨trivial, fun _ => asks_bind (asks_log notClassifier_ofModel ..) fun _ => asks_mergeIntent rfl⟩

theorem asks_conclude (c : Configurable) (s : AgentState) (intent : String)
    (r : Except PyException Verdict) : (conclude c s intent r).Asks NotClassifier := by
  cases r with
  | error e => trivial
  | ok v =>
    refine ⟨by cases v <;> trivial, fun _ => ?_⟩
    split
    · exact asks_invoke c _ (by simp) _
    · trivial

theorem follow_verdict (c : Configurable) (s : AgentState) (intent : String) (v : Verdict)
    (go : Node → AgentState → NodeProg AgentState) :
    (buildGraph c).follow go .questionAnalyzer (s.merge (v.update s intent)) =
      if v = .answerable then go .sqlGenerator (s.merge (v.update s intent))
      else .ret (s.merge (v.update s intent)) := by
  rw [Graph.follow, next_verdict]
  by_cases hv : v = .answerable
  · rw [if_pos hv, if_pos hv]
  · rw [if_neg hv, if_neg hv]

/-- **The cut.** -/
theorem ainvokeGraph_eq (c : Configurable) (s : AgentState) :
    ainvokeGraph c s = beforeClassifier c s >>= fun intent =>
      ainvoke c (.classifier intent s.schemaContext) >>= fun content =>
        conclude c s intent (verdict s.ambiguityCount c.maxRounds content) := by
  have hroute (intent content : String) :
      (routeReply s c.maxRounds intent content >>= fun u =>
        (buildGraph c).follow ((buildGraph c).invoke (rank c .questionAnalyzer s)) .questionAnalyzer
          (s.merge u)) =
      conclude c s intent (verdict s.ambiguityCount c.maxRounds content) := by
    rw [routeReply_eq]
    cases verdict s.ambiguityCount c.maxRounds content with
    | error e => rfl
    | ok v => simp only [conclude, Prog.ask_bind, Prog.ret_bind, follow_verdict]
  rw [ainvokeGraph, superstepBound, Graph.invoke, beforeClassifier, Prog.ask_bind]
  refine congrArg (Prog.ask _) (funext fun _ => ?_)
  simp only [Prog.bind_assoc, ← hroute]
  show (questionAnalyzer s c >>= _) = _
  simp only [questionAnalyzer, Prog.bind_assoc]
  rfl

/-- What a run of the graph is made of, for a chat model and a connector of
fixed behaviour. -/
theorem run_ainvokeGraph (w : Oracle) (n : Nat) (c : Configurable) (s : AgentState) :
    run w.handle n (ainvokeGraph c s) =
      match run w.handle n (beforeClassifier c s) with
      | (.error e, t, m) => (.error e, t, m)
      | (.ok intent, t, m) =>
        let prompt := Prompt.classifier intent s.schemaContext
        match w m (.ainvoke prompt (prompt.messages c.strOf)) with
        | .error text => (.error (.llmError text), t ++ [replied c prompt (.error text)], m + 1)
        | .ok content =>
          let r := run w.handle (m + 1)
            (conclude c s intent (verdict s.ambiguityCount c.maxRounds content))
          (r.1, t ++ replied c prompt (.ok content) :: r.2.1, r.2.2) := by
  rw [ainvokeGraph_eq, run_bind]
  rcases run w.handle n (beforeClassifier c s) with ⟨e | intent, t, m⟩
  · rfl
  · dsimp only
    rw [run_bind, ainvoke, run]
    dsimp only [Oracle.handle]
    cases w m (.ainvoke (.classifier intent s.schemaContext) _) with
    | error text => rfl
    | ok content => rfl

theorem callsTo_eq_nil {w : Oracle} {α : Type} {p : NodeProg α} (hp : p.Asks NotClassifier) (n : Nat) :
    callsTo Prompt.isClassifier (run w.handle n p).2.1 = [] := by
  refine List.filter_eq_nil_iff.mpr fun r hr => ?_
  obtain ⟨⟨q, a⟩, hmem, heq⟩ := List.mem_filterMap.mp hr
  have hq := asks_of_mem_run hp n hmem
  cases q with
  | ainvoke prompt messages =>
    cases heq
    rw [hq]
    simp
  | executeQuery sql => cases heq
  | log record => cases heq
  | superstep node state => cases heq

end UniversityQA.Agent
