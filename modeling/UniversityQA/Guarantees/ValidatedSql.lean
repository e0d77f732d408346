import UniversityQA.Agent.Runs
import UniversityQA.Api.Routes
import UniversityQA.Lib.Trace

/-!
# Only validated SQL reaches the database

`Guarded past sql` is what has to have happened before `sql` is executed: the
superstep in front of the executor's was the validator's and checked this very
string, and the string is the stripped reply of the last call of the
generator.

* `attempts_guarded`: every execution in the retry loop is guarded, by
  induction on its rounds;
* `executed_sql_guarded`: so is every execution of every run of the graph.
-/

namespace UniversityQA.Guarantees

open UniversityQA.Py UniversityQA.Db UniversityQA.Agent UniversityQA.Api Coroutine Trace

structure Guarded (past : List AgentEvent) (sql : String) : Prop where
  valid : (validateSql sql).1 = true
  checked : ∃ older v x, supersteps past = older ++ [(.sqlValidator, v), (.sqlExecutor, x)] ∧
    orElse v.sql "" = sql
  latest : ∃ content, (repliesTo Prompt.isSql past).getLast? = some (.ok content) ∧ sql = strip content

/-- Every execution is guarded. -/
def GuardsExecution (past : List AgentEvent) (e : AgentEvent) : Prop :=
  ∀ sql result, e = executed sql result → Guarded past sql

theorem guarded_weaken (x past : List AgentEvent) (sql : String) (h : Guarded past sql) :
    Guarded (x ++ past) sql := by
  obtain ⟨hv, ⟨older, v, e, hs, hsql⟩, content, hl, hc⟩ := h
  refine ⟨hv, ⟨supersteps x ++ older, v, e, ?_, hsql⟩, content, ?_, hc⟩
  · rw [supersteps_append, hs, List.append_assoc]
  · rw [repliesTo_append, List.getLast?_append, hl]
    rfl

theorem guardsExecution_weaken (x past : List AgentEvent) (e : AgentEvent)
    (h : GuardsExecution past e) : GuardsExecution (x ++ past) e :=
  fun sql result he => guarded_weaken x past sql (h sql result he)

/-- An event that executes nothing needs no guard. -/
theorem guardsExecution_of_queries {e : AgentEvent} (h : queries [e] = []) (past : List AgentEvent) :
    GuardsExecution past e := by
  rintro sql result rfl
  cases h

theorem always_guardsExecution (past tr : List AgentEvent) (h : queries tr = []) :
    Always GuardsExecution past tr := by
  refine always_of_none past tr fun e he past' => guardsExecution_of_queries ?_ past'
  have hnone := List.filterMap_eq_nil_iff.mp h e he
  simp [queries, hnone]

theorem round_guarded (c : Configurable) (s : AgentState) (content : String)
    (result : Except String (List Row)) (closing : AgentEvent)
    (hv : validateSql (strip content) = (true, none)) (hc : queries [closing] = []) :
    Always GuardsExecution [] (roundEvents c s content result closing) := by
  rw [roundEvents, always_append]
  refine ⟨always_guardsExecution _ _ rfl, ?_⟩
  refine ⟨guardsExecution_of_queries rfl _, guardsExecution_of_queries rfl _, ?_,
    guardsExecution_of_queries hc _, trivial⟩
  intro sql result' he
  obtain rfl : strip content = sql := by
    have := congrArg (fun e => (queries [e]).map Prod.fst) he
    simpa [queries, executed] using this
  refine ⟨by rw [hv], ⟨[(.sqlGenerator, s)], _, _, rfl, ?_⟩, content, rfl, rfl⟩
  simp

theorem attempts_guarded {c : Configurable} {s : AgentState} {tr : List AgentEvent}
    {o : Except PyException AgentState} (h : Attempts c s tr o) :
    Always GuardsExecution [] tr := by
  induction h with
  | generatorRaised text => exact always_guardsExecution _ _ rfl
  | rejected content message hv => exact always_guardsExecution _ _ rfl
  | exhausted content errorMsg hv hr => exact round_guarded _ _ _ _ _ hv rfl
  | formatterRaised content results text hv hf =>
    exact always_glue guardsExecution_weaken (round_guarded _ _ _ _ _ hv rfl)
      (always_guardsExecution _ _ rfl)
  | answered content results answer hv hf =>
    exact always_glue guardsExecution_weaken (round_guarded _ _ _ _ _ hv rfl)
      (always_guardsExecution _ _ rfl)
  | retried content errorMsg hv hr ha ih =>
    exact always_glue guardsExecution_weaken (round_guarded _ _ _ _ _ hv rfl) ih

/-- A graph that starts in any state guards its executions. -/
theorem graphRun_guarded {c : Configurable} {s : AgentState} {tr : List AgentEvent}
    {o : Except PyException AgentState} (h : GraphRun c s tr o) :
    Always GuardsExecution [] tr := by
  cases h with
  | raised ha => exact always_guardsExecution _ _ ((queries_cons _ _).trans (queries_analyzerRun_error ha))
  | stopped content hm hv hne =>
    exact always_guardsExecution _ _ (queries_classifyEvents content _ hm)
  | attempted content hm hv hat =>
    exact always_glue guardsExecution_weaken
      (always_guardsExecution _ _ (queries_classifyEvents content _ hm)) (attempts_guarded hat)

/-- **Only validated SQL.**  In every run of the graph that `chat` starts,
what is executed has passed `validate_sql`, in the superstep just before, and
is the stripped reply of the latest call of the generator. -/
theorem executed_sql_guarded (app : App) (schemaContext traceId : String)
    (history : ConversationHistory) (req : ChatRequest) {tr : List AgentEvent}
    {o : Except PyException AgentState}
    (h : Runs (ainvokeGraph app.configurable
      (initialState app schemaContext history traceId req)) tr o)
    (pre post : List AgentEvent) (sql : String) (result : Except String (List Row))
    (htr : tr = pre ++ executed sql result :: post) : Guarded pre sql := by
  have hall := (always_iff [] tr).mp (graphRun_guarded (ainvoke_run h))
  have hguard := hall pre (executed sql result) post htr
  exact hguard sql result rfl

/-- The query of a small run is guarded. -/
theorem executed_sql_guarded_sample :
    ∃ pre result post, (sampleRun {} (selectsOne "")).2.1 = pre ++ executed "SELECT 1" result :: post ∧
      Guarded pre "SELECT 1" := by
  have hqueries : (queries (sampleRun {} (selectsOne "")).2.1).map Prod.fst = ["SELECT 1"] := by
    decide +kernel
  obtain ⟨pre, result, post, htr⟩ := exists_executed_of_mem (hqueries ▸ List.mem_singleton_self _)
  exact ⟨pre, result, post, htr, executed_sql_guarded sampleApp "" "t" {} sampleRequest
    (sampleRun_runs _ _) pre post "SELECT 1" result htr⟩

end UniversityQA.Guarantees
