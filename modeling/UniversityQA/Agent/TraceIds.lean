import UniversityQA.Agent.Graph
import UniversityQA.Lib.Hiding

/-!
# Trace ids are for the log

A request draws a random trace id.  The graph writes it into its log lines and
hands it on in its state, and nothing else comes of it.

* `hide_ainvokeGraph`: up to the log, a run for one trace id is a run for any
  other;
* `ainvokeGraph_determined`: with a chat model and a connector of fixed
  behaviour two runs send the same messages and end alike.
-/

namespace UniversityQA.Agent

open UniversityQA.Py UniversityQA.Db Coroutine

/-- Log lines and snapshots. -/
def quiet : (q : AgentQuery) → Option (AgentReply q)
  | .ainvoke _ _ => none
  | .executeQuery _ => none
  | .log _ => some ()
  | .superstep _ _ => some ()

/-- The state of a request with another trace id. -/
def AgentState.retrace (state : AgentState) (traceId : String) : AgentState :=
  { state with traceId := traceId, tracer := { state.tracer with traceId := traceId } }

theorem hide_log (t : Tracer) (node : Node) (event : NodeEvent) (kwargs : JsonObject) :
    (t.log node event kwargs).hide quiet = .ret () := rfl

/-! ## The nodes -/

section Nodes

variable (s : AgentState) (c : Configurable) (traceId : String)

theorem hide_routeReply (maxRounds : Int) (intent content : String) :
    (routeReply (s.retrace traceId) maxRounds intent content).hide quiet =
      (routeReply s maxRounds intent content).hide quiet := by
  rw [routeReply_eq, routeReply_eq]
  have hcount : (s.retrace traceId).ambiguityCount = s.ambiguityCount := rfl
  rw [hcount]
  cases verdict s.ambiguityCount maxRounds content with
  | error e => rfl
  | ok v => cases v <;> rfl

theorem hide_questionAnalyzer :
    (questionAnalyzer (s.retrace traceId) c).hide quiet = (questionAnalyzer s c).hide quiet := by
  unfold questionAnalyzer
  simp only [hide_bind, hide_log, Prog.ret_bind, hide_routeReply]
  rfl

theorem hide_sqlGenerator :
    (sqlGenerator (s.retrace traceId) c).hide quiet = (sqlGenerator s c).hide quiet := by
  unfold sqlGenerator
  simp only [hide_bind, hide_log, Prog.ret_bind]
  rfl

theorem hide_sqlValidator :
    (sqlValidator (s.retrace traceId)).hide quiet = (sqlValidator s).hide quiet := by
  unfold sqlValidator
  -- whatever it checks, lest the check itself be evaluated
  generalize validateSql = validate
  simp only [hide_bind, hide_log, Prog.ret_bind]
  have hsql : (s.retrace traceId).sql = s.sql := rfl
  rw [hsql]
  rcases validate (orElse s.sql "") with ⟨_ | _, errorMsg⟩
  · rfl
  · rfl

theorem hide_sqlExecutor :
    (sqlExecutor (s.retrace traceId) c).hide quiet = (sqlExecutor s c).hide quiet := by
  unfold sqlExecutor
  simp only [hide_bind, hide_log, Prog.ret_bind]
  have hsql : (s.retrace traceId).sql = s.sql := rfl
  have hcount : (s.retrace traceId).retryCount = s.retryCount := rfl
  rw [hsql, hcount]
  congr 1
  funext result
  cases result with
  | ok results => rfl
  | error errorMsg =>
    dsimp only
    by_cases hr : s.retryCount + 1 ≤ c.maxRetries
    · rw [if_pos hr, if_pos hr]
      rfl
    · rw [if_neg hr, if_neg hr]
      rfl

theorem hide_answerFormatter :
    (answerFormatter (s.retrace traceId) c).hide quiet = (answerFormatter s c).hide quiet := by
  unfold answerFormatter
  simp only [hide_bind, hide_log, Prog.ret_bind]
  rfl

end Nodes

/-! ## The graph -/

theorem buildGraph_unnoticed (c : Configurable) (traceId : String) :
    Unnoticed quiet (buildGraph c) (AgentState.retrace · traceId) where
  snapshot _ _ := ⟨(), rfl⟩
  node n s := by
    cases n with
    | questionAnalyzer => exact hide_questionAnalyzer s c traceId
    | sqlGenerator => exact hide_sqlGenerator s c traceId
    | sqlValidator => exact hide_sqlValidator s traceId
    | sqlExecutor => exact hide_sqlExecutor s c traceId
    | answerFormatter => exact hide_answerFormatter s c traceId
  next n s := by
    cases n with
    | questionAnalyzer => rw [next_questionAnalyzer, next_questionAnalyzer]; rfl
    | sqlGenerator => rfl
    | sqlValidator => rw [next_sqlValidator, next_sqlValidator]; rfl
    | sqlExecutor => rw [next_sqlExecutor, next_sqlExecutor]; rfl
    | answerFormatter => rfl
  merge _ _ := rfl

/-- **Trace ids go unnoticed.** -/
theorem hide_ainvokeGraph (c : Configurable) (s : AgentState) (traceId : String) :
    (ainvokeGraph c (s.retrace traceId)).hide quiet =
      (ainvokeGraph c s).hide quiet >>= fun r => .ret (r.retrace traceId) :=
  hide_invoke (buildGraph_unnoticed c traceId) _ _ _

/-- A chat model that is a function of the messages and a connector that is one
of the SQL text. -/
def fixedReply (llm : List BaseMessage → Except String String)
    (connector : String → Except String (List Row)) : (q : AgentQuery) → AgentReply q
  | .ainvoke _ messages => llm messages
  | .executeQuery sql => connector sql
  | .log _ => ()
  | .superstep _ _ => ()

theorem sent_audible (kind : Prompt → Bool) (tr : List AgentEvent) :
    sent kind (audible quiet tr) = sent kind tr := by
  induction tr with
  | nil => rfl
  | cons e tr ih =>
    have hcons (t : List AgentEvent) : sent kind (e :: t) = sent kind [e] ++ sent kind t :=
      sent_append kind [e] t
    obtain ⟨q, a⟩ := e
    cases q with
    | ainvoke prompt messages => exact (hcons _).trans ((congrArg _ ih).trans (hcons _).symm)
    | executeQuery sql => exact (hcons _).trans ((congrArg _ ih).trans (hcons _).symm)
    | log record => exact ih
    | superstep node state => exact ih

/-- **Determinism.**  For two trace ids the messages are the same and so is the
end, but for the trace id. -/
theorem ainvokeGraph_determined {llm : List BaseMessage → Except String String}
    {connector : String → Except String (List Row)} {c : Configurable} {s : AgentState}
    {traceId traceId' : String} {tr tr' : List AgentEvent} {o o' : Except PyException AgentState}
    (h : Runs (ainvokeGraph c (s.retrace traceId)) tr o)
    (h' : Runs (ainvokeGraph c (s.retrace traceId')) tr' o')
    (hfixed : ∀ e ∈ tr, e.2 = fixedReply llm connector e.1)
    (hfixed' : ∀ e ∈ tr', e.2 = fixedReply llm connector e.1) :
    sent (fun _ => true) tr = sent (fun _ => true) tr' ∧
      ∃ r : Except PyException AgentState,
        o = r.map (AgentState.retrace · traceId) ∧ o' = r.map (AgentState.retrace · traceId') := by
  have hunit : ∀ (e : AgentEvent) (a : AgentReply e.1), quiet e.1 = some a → e.2 = a := by
    rintro ⟨_ | _ | _ | _, ⟨⟩⟩ a ha <;> cases ha <;> rfl
  have hhidden := h.hide fun e _ => hunit e
  have hhidden' := h'.hide fun e _ => hunit e
  rw [hide_ainvokeGraph, runs_map] at hhidden hhidden'
  obtain ⟨r, hr, rfl⟩ := hhidden
  obtain ⟨r', hr', rfl⟩ := hhidden'
  obtain ⟨htr, rfl⟩ := hr.determined hr' (fun e he => hfixed e (List.mem_of_mem_filter he))
    fun e he => hfixed' e (List.mem_of_mem_filter he)
  refine ⟨?_, r, rfl, rfl⟩
  rw [← sent_audible, htr, sent_audible]

end UniversityQA.Agent
