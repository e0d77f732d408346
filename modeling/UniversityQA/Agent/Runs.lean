import UniversityQA.Agent.Graph

/-!
# Runs of the graph

`ainvoke_run` says everything a run of the compiled graph can do: the
analyzer, and where it finds the question answerable `Attempts`, the loop of
generator, validator and executor with its five ways out and its one way
back.  The states between two nodes and the stretches of the trace have names
of their own; the results about runs are inductions over `Attempts`.
-/

namespace UniversityQA.Agent

open UniversityQA.Py UniversityQA.Db Coroutine StateGraph

/-! ## States between two nodes -/

namespace AgentState

variable (s : AgentState)

def classified (v : Verdict) (intent : String) : AgentState := s.merge (v.update s intent)

def generated (content : String) : AgentState :=
  s.merge { sql := some (some (strip content)), status := .validating, sqlError := some none }

def rejected (message : String) : AgentState :=
  s.merge { status := .error, answer := some (.str (safetyError message)) }

def validated : AgentState := s.merge { status := .executing }

def fetched (results : List Row) : AgentState :=
  s.merge { dbResults := some (some results), status := .formatting, sqlError := some none }

def retried (errorMsg : String) : AgentState :=
  s.merge {
    sqlError := some (some errorMsg)
    retryCount := some (s.retryCount + 1)
    status := .generating }

def exhausted (errorMsg : String) : AgentState :=
  s.merge {
    sqlError := some (some errorMsg)
    status := .error
    answer := some (.str executionError) }

def answered (content : String) : AgentState :=
  s.merge { answer := some (.str (strip content)), status := .done }

/-- The state in which the executor runs the query of the reply `content`. -/
def approved (content : String) : AgentState := (s.generated content).validated

@[simp] theorem sql_generated (content : String) :
    (s.generated content).sql = some (strip content) := rfl
@[simp] theorem sql_approved (content : String) :
    (s.approved content).sql = some (strip content) := rfl
@[simp] theorem retryCount_approved (content : String) :
    (s.approved content).retryCount = s.retryCount := rfl
@[simp] theorem retryCount_retried (errorMsg : String) :
    (s.retried errorMsg).retryCount = s.retryCount + 1 := rfl
@[simp] theorem retryCount_classified (v : Verdict) (intent : String) :
    (s.classified v intent).retryCount = s.retryCount := by cases v <;> rfl

end AgentState

/-! ## Stretches of a trace -/

section Segments

variable (c : Configurable) (s : AgentState)

def classifyEvents (tm : List AgentEvent) (intent content : String) (v : Verdict) :
    List AgentEvent :=
  entered .questionAnalyzer s :: analyzerStart s :: tm ++
    [replied c (.classifier intent s.schemaContext) (.ok content), v.closing s]

def generateEvents (content : String) : List AgentEvent :=
  [entered .sqlGenerator s, generatorStart s, replied c (sqlPrompt s c) (.ok content),
    generatorEnd s (strip content)]

def checkEvents : List AgentEvent := [entered .sqlValidator s, validatorStart s, validatorEnd s]

def rejectEvents (message : String) : List AgentEvent :=
  [entered .sqlValidator s, validatorStart s, validatorError s message]

def executeEvents (result : Except String (List Row)) (closing : AgentEvent) : List AgentEvent :=
  [entered .sqlExecutor s, executorStart s, executed (orElse s.sql "") result, closing]

/-- A round: generate, check, execute. -/
def roundEvents (content : String) (result : Except String (List Row)) (closing : AgentEvent) :
    List AgentEvent :=
  generateEvents c s content ++ checkEvents (s.generated content) ++
    executeEvents (s.approved content) result closing

def formatEvents (content : String) : List AgentEvent :=
  [entered .answerFormatter s, formatterStart s, replied c (answerPrompt s c) (.ok content),
    formatterEnd s]

end Segments

/-! ## The loop -/

/-- Runs from the generator on. -/
inductive Attempts (c : Configurable) :
    AgentState → List AgentEvent → Except PyException AgentState → Prop
  | generatorRaised {s} (text : String) :
      Attempts c s [entered .sqlGenerator s, generatorStart s, replied c (sqlPrompt s c) (.error text)]
        (.error (.llmError text))
  | rejected {s} (content message : String) :
      validateSql (strip content) = (false, some message) →
      Attempts c s (generateEvents c s content ++ rejectEvents (s.generated content) message)
        (.ok ((s.generated content).rejected message))
  | exhausted {s} (content errorMsg : String) :
      validateSql (strip content) = (true, none) → ¬ s.retryCount + 1 ≤ c.maxRetries →
      Attempts c s
        (roundEvents c s content (.error errorMsg) (executorError (s.approved content) errorMsg))
        (.ok ((s.approved content).exhausted errorMsg))
  | formatterRaised {s f} (content : String) (results : List Row) (text : String) :
      validateSql (strip content) = (true, none) → f = (s.approved content).fetched results →
      Attempts c s
        (roundEvents c s content (.ok results) (executorEnd (s.approved content) results) ++
          [entered .answerFormatter f, formatterStart f, replied c (answerPrompt f c) (.error text)])
        (.error (.llmError text))
  | answered {s f} (content : String) (results : List Row) (answer : String) :
      validateSql (strip content) = (true, none) → f = (s.approved content).fetched results →
      Attempts c s
        (roundEvents c s content (.ok results) (executorEnd (s.approved content) results) ++
          formatEvents c f answer)
        (.ok (f.answered answer))
  | retried {s tr o} (content errorMsg : String) :
      validateSql (strip content) = (true, none) → s.retryCount + 1 ≤ c.maxRetries →
      Attempts c ((s.approved content).retried errorMsg) tr o →
      Attempts c s
        (roundEvents c s content (.error errorMsg) (executorRetry (s.approved content) errorMsg) ++
          tr) o

section Steps

variable {c : Configurable} {fuel : Nat} {s : AgentState} {tr : List AgentEvent}
  {o : Except PyException AgentState}

theorem generator_step (h : Runs ((buildGraph c).invoke (fuel + 1) .sqlGenerator s) tr o) :
    (∃ text, tr = [entered .sqlGenerator s, generatorStart s,
        replied c (sqlPrompt s c) (.error text)] ∧ o = .error (.llmError text)) ∨
      ∃ content t, tr = generateEvents c s content ++ t ∧
        Runs ((buildGraph c).invoke fuel .sqlValidator (s.generated content)) t o := by
  obtain ⟨_, t, rfl, ⟨e, he, rfl⟩ | ⟨u, t₁, t₂, rfl, hu, hn⟩⟩ := Graph.runs_invoke_succ h
  · cases sqlGenerator_run he with
    | raised text => exact .inl ⟨text, rfl, rfl⟩
  · cases sqlGenerator_run hu with
    | generated content =>
      exact .inr ⟨content, t₂, rfl, (Graph.runs_follow_node rfl).mp hn⟩

theorem validator_step (h : Runs ((buildGraph c).invoke (fuel + 1) .sqlValidator s) tr o) :
    (∃ message, validateSql (orElse s.sql "") = (false, some message) ∧
        tr = rejectEvents s message ∧ o = .ok (s.rejected message)) ∨
      ∃ t, validateSql (orElse s.sql "") = (true, none) ∧ tr = checkEvents s ++ t ∧
        Runs ((buildGraph c).invoke fuel .sqlExecutor s.validated) t o := by
  obtain ⟨_, t, rfl, ⟨e, he, rfl⟩ | ⟨u, t₁, t₂, rfl, hu, hn⟩⟩ := Graph.runs_invoke_succ h
  · cases sqlValidator_run he
  · cases sqlValidator_run hu with
    | valid hv =>
      exact .inr ⟨t₂, hv, rfl, (Graph.runs_follow_node rfl).mp hn⟩
    | invalid message hv =>
      obtain ⟨rfl, rfl⟩ := (Graph.runs_follow_END rfl).mp hn
      exact .inl ⟨message, hv, rfl, rfl⟩

theorem executor_step (h : Runs ((buildGraph c).invoke (fuel + 1) .sqlExecutor s) tr o) :
    (∃ errorMsg, ¬ s.retryCount + 1 ≤ c.maxRetries ∧
        tr = executeEvents s (.error errorMsg) (executorError s errorMsg) ∧
        o = .ok (s.exhausted errorMsg)) ∨
      (∃ errorMsg t, s.retryCount + 1 ≤ c.maxRetries ∧
        tr = executeEvents s (.error errorMsg) (executorRetry s errorMsg) ++ t ∧
        Runs ((buildGraph c).invoke fuel .sqlGenerator (s.retried errorMsg)) t o) ∨
      ∃ results t, tr = executeEvents s (.ok results) (executorEnd s results) ++ t ∧
        Runs ((buildGraph c).invoke fuel .answerFormatter (s.fetched results)) t o := by
  obtain ⟨_, t, rfl, ⟨e, he, rfl⟩ | ⟨u, t₁, t₂, rfl, hu, hn⟩⟩ := Graph.runs_invoke_succ h
  · cases sqlExecutor_run he
  · cases sqlExecutor_run hu with
    | succeeded results =>
      exact .inr (.inr ⟨results, t₂, rfl, (Graph.runs_follow_node rfl).mp hn⟩)
    | retry errorMsg hr =>
      exact .inr (.inl ⟨errorMsg, t₂, hr, rfl, (Graph.runs_follow_node rfl).mp hn⟩)
    | exhausted errorMsg hr =>
      obtain ⟨rfl, rfl⟩ := (Graph.runs_follow_END rfl).mp hn
      exact .inl ⟨errorMsg, hr, rfl, rfl⟩

theorem formatter_step (h : Runs ((buildGraph c).invoke (fuel + 1) .answerFormatter s) tr o) :
    (∃ text, tr = [entered .answerFormatter s, formatterStart s,
        replied c (answerPrompt s c) (.error text)] ∧ o = .error (.llmError text)) ∨
      ∃ content, tr = formatEvents c s content ∧ o = .ok (s.answered content) := by
  obtain ⟨_, t, rfl, ⟨e, he, rfl⟩ | ⟨u, t₁, t₂, rfl, hu, hn⟩⟩ := Graph.runs_invoke_succ h
  · cases answerFormatter_run he with
    | raised text => exact .inl ⟨text, rfl, rfl⟩
  · cases answerFormatter_run hu with
    | answered content =>
      obtain ⟨rfl, rfl⟩ := (Graph.runs_follow_END rfl).mp hn
      exact .inr ⟨content, rfl, rfl⟩

/-- By induction on the steps allowed: a round takes three of them, and the
rank covers the rounds that are left. -/
theorem attempts_of_runs (h : Runs ((buildGraph c).invoke fuel .sqlGenerator s) tr o)
    (hfuel : rank c .sqlGenerator s < fuel) : Attempts c s tr o := by
  induction fuel using Nat.strong_induction_on generalizing s tr with
  | _ fuel ih =>
    have hrank : 3 * (c.maxRetries - s.retryCount).toNat + 3 < fuel := hfuel
    obtain ⟨f, rfl⟩ : ∃ f, fuel = f + 4 := ⟨fuel - 4, by omega⟩
    rcases generator_step h with ⟨text, rfl, rfl⟩ | ⟨content, t₁, rfl, h₁⟩
    · exact .generatorRaised text
    rcases validator_step h₁ with ⟨message, hv, rfl, rfl⟩ | ⟨t₂, hv, rfl, h₂⟩
    · exact .rejected content message (by simpa using hv)
    replace hv : validateSql (strip content) = (true, none) := by simpa using hv
    rcases executor_step h₂ with ⟨errorMsg, hr, rfl, rfl⟩ | ⟨errorMsg, t₃, hr, rfl, h₃⟩ |
      ⟨results, t₃, rfl, h₃⟩
    · rw [← List.append_assoc]
      exact .exhausted content errorMsg hv hr
    · rw [← List.append_assoc, ← List.append_assoc]
      refine .retried content errorMsg hv hr (ih (f + 1) (by omega) h₃ ?_)
      change s.retryCount + 1 ≤ c.maxRetries at hr
      show 3 * (c.maxRetries - (s.retryCount + 1)).toNat + 3 < f + 1
      omega
    · rw [← List.append_assoc, ← List.append_assoc]
      rcases formatter_step h₃ with ⟨text, rfl, rfl⟩ | ⟨answer, rfl, rfl⟩
      · exact .formatterRaised content results text hv rfl
      · exact .answered content results answer hv rfl

end Steps

/-! ## Whole runs -/

/-- Runs of the graph from its entry point. -/
inductive GraphRun (c : Configurable) (s : AgentState) :
    List AgentEvent → Except PyException AgentState → Prop
  | raised {t e} : AnalyzerRun s c t (.error e) →
      GraphRun c s (entered .questionAnalyzer s :: t) (.error e)
  | stopped {tm intent v} (content : String) : Merges s c tm intent →
      verdict s.ambiguityCount c.maxRounds content = .ok v → v ≠ .answerable →
      GraphRun c s (classifyEvents c s tm intent content v) (.ok (s.classified v intent))
  | attempted {tm intent t o} (content : String) : Merges s c tm intent →
      verdict s.ambiguityCount c.maxRounds content = .ok .answerable →
      Attempts c (s.classified .answerable intent) t o →
      GraphRun c s (classifyEvents c s tm intent content .answerable ++ t) o

/-- **Runs of the graph.** -/
theorem ainvoke_run {c : Configurable} {s : AgentState} {tr : List AgentEvent}
    {o : Except PyException AgentState} (h : Runs (ainvokeGraph c s) tr o) : GraphRun c s tr o := by
  obtain ⟨_, t, rfl, ⟨e, he, rfl⟩ | ⟨u, t₁, t₂, rfl, hu, hn⟩⟩ := Graph.runs_invoke_succ h
  · exact .raised (questionAnalyzer_run he)
  · cases questionAnalyzer_run hu with
    | @classified tm intent v content hm hv =>
      have hnext : ((buildGraph c).edges (buildGraph c).entryPoint).next
          ((buildGraph c).merge s (v.update s intent)) =
            .ok (if v = .answerable then .node .sqlGenerator else .END) := next_verdict c s v intent
      by_cases ha : v = .answerable
      · subst ha
        refine .attempted content hm hv (attempts_of_runs ((Graph.runs_follow_node hnext).mp hn) ?_)
        show 3 * (c.maxRetries - s.retryCount).toNat + 3 < _
        simp [rank]
      · rw [if_neg ha] at hnext
        obtain ⟨rfl, rfl⟩ := (Graph.runs_follow_END hnext).mp hn
        rw [List.append_nil]
        exact .stopped content hm hv ha

/-- A run enters the analyzer first, in the state it was started with. -/
theorem graphRun_entered {c : Configurable} {s : AgentState} {tr : List AgentEvent}
    {o : Except PyException AgentState} (h : GraphRun c s tr o) :
    (supersteps tr).head? = some (.questionAnalyzer, s) := by
  cases h with
  | raised ha => rfl
  | stopped content hm hv hne => rfl
  | attempted content hm hv ha => rfl

/-! ## Facts about the loop -/

/-- The loop ends in `done` or `error`, with a text to show. -/
theorem attempts_result {c : Configurable} {s result : AgentState} {tr : List AgentEvent}
    (h : Attempts c s tr (.ok result)) :
    (result.status = .done ∨ result.status = .error) ∧ ∃ text, result.answer = .str text := by
  generalize ho : Except.ok result = o at h
  induction h with
  | generatorRaised text => cases ho
  | rejected content message hv => cases ho; exact ⟨.inr rfl, _, rfl⟩
  | exhausted content errorMsg hv hr => cases ho; exact ⟨.inr rfl, _, rfl⟩
  | formatterRaised content results text hv hf => cases ho
  | answered content results answer hv hf => cases ho; exact ⟨.inl rfl, _, rfl⟩
  | retried content errorMsg hv hr ha ih => exact ih ho

/-- The question the generator and the formatter ask about. -/
def askedIntent (s : AgentState) : String := orElse s.accumulatedIntent s.question

/-- Every call in the loop asks about the same intent, and there is one. -/
theorem attempts_intents {c : Configurable} {s : AgentState} {tr : List AgentEvent}
    {o : Except PyException AgentState} (h : Attempts c s tr o) :
    ∃ n, intents tr = List.replicate (n + 1) (askedIntent s) := by
  induction h with
  | generatorRaised text => exact ⟨0, rfl⟩
  | rejected content message hv => exact ⟨0, rfl⟩
  | exhausted content errorMsg hv hr => exact ⟨0, rfl⟩
  | formatterRaised content results text hv hf => subst hf; exact ⟨1, rfl⟩
  | answered content results answer hv hf => subst hf; exact ⟨1, rfl⟩
  | retried content errorMsg hv hr ha ih =>
    obtain ⟨n, hn⟩ := ih
    refine ⟨n + 1, ?_⟩
    rw [intents_append, hn]
    rfl

/-- The loop does not use the analyzer's prompts. -/
theorem attempts_callsTo {c : Configurable} {s : AgentState} {tr : List AgentEvent}
    {o : Except PyException AgentState} (h : Attempts c s tr o) :
    callsTo Prompt.isMerger tr = [] ∧ callsTo Prompt.isClassifier tr = [] := by
  induction h with
  | generatorRaised text => exact ⟨rfl, rfl⟩
  | rejected content message hv => exact ⟨rfl, rfl⟩
  | exhausted content errorMsg hv hr => exact ⟨rfl, rfl⟩
  | formatterRaised content results text hv hf => exact ⟨rfl, rfl⟩
  | answered content results answer hv hf => exact ⟨rfl, rfl⟩
  | retried content errorMsg hv hr ha ih =>
    rw [callsTo_append, callsTo_append, ih.1, ih.2]
    exact ⟨rfl, rfl⟩

/-! ## The analyzer sends nothing to the database -/

theorem queries_merges {c : Configurable} {s : AgentState} {tm : List AgentEvent} {intent : String}
    (h : Merges s c tm intent) : queries tm = [] := by
  cases h <;> rfl

theorem queries_classifyEvents {c : Configurable} {s : AgentState} {tm : List AgentEvent}
    {intent : String} (content : String) (v : Verdict) (h : Merges s c tm intent) :
    queries (classifyEvents c s tm intent content v) = [] := by
  have hclosing : queries [v.closing s] = [] := by cases v <;> rfl
  rw [classifyEvents, queries_append, queries_cons, queries_cons (analyzerStart s),
    queries_merges h, queries_cons (replied ..), hclosing]
  rfl

theorem queries_analyzerRun_error {c : Configurable} {s : AgentState} {tr : List AgentEvent}
    {e : PyException} (h : AnalyzerRun s c tr (.error e)) : queries tr = [] := by
  cases h with
  | mergerRaised text hc => rfl
  | classifierRaised text hm =>
    rw [queries_append, queries_cons, queries_merges hm]
    rfl
  | unhandled content hm hv =>
    rw [queries_append, queries_cons, queries_merges hm]
    rfl

/-! ## The analyzer and the loop -/

section Split

variable {c : Configurable} {s : AgentState} {kind : Prompt → Bool}

/-- The prompts are none of the analyzer's. -/
def OfTheLoop (kind : Prompt → Bool) : Prop :=
  (∀ accumulatedIntent clarification input, kind (.merger accumulatedIntent clarification input) = false) ∧
    ∀ accumulatedIntent schemaContext, kind (.classifier accumulatedIntent schemaContext) = false

theorem sent_replied (prompt : Prompt) (reply : Except String String) :
    sent kind [replied c prompt reply] =
      if kind prompt then [(prompt.messages c.strOf, reply)] else [] := by
  by_cases hk : kind prompt = true <;> simp [sent, replied, hk]

theorem sent_analyzer (hkind : OfTheLoop kind) {tm : List AgentEvent} {intent : String}
    (hm : Merges s c tm intent) (reply : Except String String) (rest : List AgentEvent)
    (hrest : sent kind rest = []) :
    sent kind (entered .questionAnalyzer s :: analyzerStart s :: tm ++
      ([replied c (.classifier intent s.schemaContext) reply] ++ rest)) = [] := by
  have hmerges : sent kind (entered .questionAnalyzer s :: analyzerStart s :: tm) = [] := by
    cases hm with
    | continuation content hc =>
      exact (sent_replied (mergerPrompt s) (.ok content)).trans
        (if_neg (by rw [mergerPrompt, hkind.1]; exact Bool.false_ne_true))
    | fresh hc => rfl
  rw [sent_append, sent_append, hmerges, sent_replied, hkind.2, hrest]
  rfl

/-- Before the loop nothing of its kind is asked, and nothing is sent to the
database. -/
theorem graphRun_split (hkind : OfTheLoop kind) {tr : List AgentEvent}
    {o : Except PyException AgentState} (h : GraphRun c s tr o) :
    (sent kind tr = [] ∧ queries tr = [] ∧ ∀ result, o = .ok result →
        result.status = .askingClarification ∨ result.status = .error) ∨
      ∃ intent pre t, tr = pre ++ t ∧ sent kind pre = [] ∧ queries pre = [] ∧
        Attempts c (s.classified .answerable intent) t o := by
  have hclosing (v : Verdict) : sent kind [v.closing s] = [] := by cases v <;> rfl
  cases h with
  | raised ha =>
    refine .inl ⟨?_, ?_, fun result hr => by cases hr⟩
    · cases ha with
      | mergerRaised text hc =>
        exact (sent_replied (mergerPrompt s) (.error text)).trans
          (if_neg (by rw [mergerPrompt, hkind.1]; exact Bool.false_ne_true))
      | classifierRaised text hm => exact sent_analyzer hkind hm (.error text) [] rfl
      | unhandled content hm hv => exact sent_analyzer hkind hm (.ok content) [] rfl
    · rw [queries_cons, queries_analyzerRun_error ha]
      rfl
  | @stopped tm intent v content hm hv hne =>
    refine .inl ⟨sent_analyzer hkind hm (.ok content) _ (hclosing v), queries_classifyEvents content v hm,
      fun result hr => ?_⟩
    cases hr
    cases v with
    | answerable => exact absurd rfl hne
    | ask q => exact .inl rfl
    | undecodable => exact .inr rfl
    | limitReached => exact .inr rfl
    | outOfScope reason => exact .inr rfl
  | @attempted tm intent t _ content hm hv ha =>
    exact .inr ⟨intent, _, t, rfl, sent_analyzer hkind hm (.ok content) _ (hclosing _),
      queries_classifyEvents content _ hm, ha⟩

end Split

/-! ## The calls of a run -/

theorem replies_classifyEvents (c : Configurable) (s : AgentState) (tm : List AgentEvent)
    (intent content : String) (v : Verdict) :
    replies (classifyEvents c s tm intent content v) =
      replies tm ++ [(.classifier intent s.schemaContext, .ok content)] := by
  have hstart : replies (entered .questionAnalyzer s :: analyzerStart s :: tm) = replies tm := rfl
  rw [classifyEvents, replies_append, hstart]
  cases v <;> rfl

/-- Where the analyzer raises over the classifier's reply. -/
theorem replies_analyzerRaised (c : Configurable) (s : AgentState) (tm : List AgentEvent)
    (intent : String) (reply : Except String String) :
    replies (entered .questionAnalyzer s :: (analyzerStart s :: tm ++
        [replied c (.classifier intent s.schemaContext) reply])) =
      replies tm ++ [(.classifier intent s.schemaContext, reply)] := by
  rw [← List.cons_append, replies_append]
  rfl

/-- **Calls.**  A merger that raises; or the classifier after at most a
merger, and then the loop where the reply is answerable. -/
theorem graphRun_replies {c : Configurable} {s : AgentState} {tr : List AgentEvent}
    {o : Except PyException AgentState} (h : GraphRun c s tr o) :
    (∃ text, s.lastClarification ≠ .null ∧ replies tr = [(mergerPrompt s, .error text)]) ∨
      ∃ tm intent, Merges s c tm intent ∧
        ((∃ reply, replies tr = replies tm ++ [(.classifier intent s.schemaContext, reply)] ∧
            ∀ content, reply = .ok content → ¬ FindsAnswerable content) ∨
          ∃ content t, FindsAnswerable content ∧
            replies tr = replies tm ++ (.classifier intent s.schemaContext, .ok content) :: replies t ∧
            Attempts c (s.classified .answerable intent) t o) := by
  cases h with
  | raised ha =>
    cases ha with
    | mergerRaised text hc => exact .inl ⟨text, hc, rfl⟩
    | @classifierRaised tm intent text hm =>
      exact .inr ⟨tm, intent, hm, .inl ⟨.error text, replies_analyzerRaised ..,
        fun content h => by cases h⟩⟩
    | @unhandled tm intent _ content hm hv =>
      refine .inr ⟨tm, intent, hm, .inl ⟨.ok content, replies_analyzerRaised .., ?_⟩⟩
      intro content' heq hf
      cases heq
      rw [(verdict_eq_answerable_iff s.ambiguityCount c.maxRounds content).mpr hf] at hv
      cases hv
  | @stopped tm intent v content hm hv hne =>
    refine .inr ⟨tm, intent, hm, .inl ⟨.ok content, replies_classifyEvents .., ?_⟩⟩
    intro content' heq hf
    cases heq
    rw [(verdict_eq_answerable_iff s.ambiguityCount c.maxRounds content).mpr hf] at hv
    cases hv
    exact hne rfl
  | @attempted tm intent t _ content hm hv ha =>
    refine .inr ⟨tm, intent, hm, .inr ⟨content, t, ?_, ?_, ha⟩⟩
    · exact (verdict_eq_answerable_iff s.ambiguityCount c.maxRounds content).mp hv
    · rw [replies_append, replies_classifyEvents, List.append_assoc, List.singleton_append]

/-- The calls of step 1 are those of the merger. -/
theorem callsTo_merges {c : Configurable} {s : AgentState} {tm : List AgentEvent} {intent : String}
    (h : Merges s c tm intent) :
    callsTo Prompt.isMerger tm = replies tm ∧ callsTo Prompt.isClassifier tm = [] := by
  cases h <;> exact ⟨rfl, rfl⟩

/-- The analyzer's two prompts in a run: the merger as in step 1, then the
classifier. -/
theorem graphRun_callsTo {c : Configurable} {s : AgentState} {tr : List AgentEvent}
    {o : Except PyException AgentState} (h : GraphRun c s tr o) :
    (∃ text, s.lastClarification ≠ .null ∧
        callsTo Prompt.isMerger tr = [(mergerPrompt s, .error text)] ∧
        callsTo Prompt.isClassifier tr = []) ∨
      ∃ tm intent reply, Merges s c tm intent ∧ callsTo Prompt.isMerger tr = replies tm ∧
        callsTo Prompt.isClassifier tr = [(.classifier intent s.schemaContext, reply)] := by
  rcases graphRun_replies h with ⟨text, hc, hr⟩ | ⟨tm, intent, hm, ⟨reply, hr, _⟩ |
    ⟨content, t, _, hr, ha⟩⟩
  · refine .inl ⟨text, hc, ?_, ?_⟩ <;> rw [callsTo, hr] <;> rfl
  · have hmerges := callsTo_merges hm
    refine .inr ⟨tm, intent, reply, hm, ?_, ?_⟩
    · rw [callsTo, hr, List.filter_append]
      exact (List.append_nil _).trans hmerges.1
    · rw [callsTo, hr, List.filter_append]
      exact congrArg (· ++ _) hmerges.2
  · have hmerges := callsTo_merges hm
    have hloop := attempts_callsTo ha
    refine .inr ⟨tm, intent, .ok content, hm, ?_, ?_⟩
    · rw [callsTo, hr, List.filter_append]
      exact (congrArg₂ (· ++ ·) hmerges.1 hloop.1).trans (List.append_nil _)
    · rw [callsTo, hr, List.filter_append]
      exact congrArg₂ (· ++ _ :: ·) hmerges.2 hloop.2

/-! ## How a run concludes -/

/-- The final state by the verdict on the classifier's reply. -/
inductive Concludes (s : AgentState) (intent : String) : Verdict → AgentState → Prop
  | stopped {v} : v ≠ .answerable → Concludes s intent v (s.classified v intent)
  | attempted {result} : (result.status = .done ∨ result.status = .error) →
      (∃ text, result.answer = .str text) → Concludes s intent .answerable result

theorem callsTo_classifyEvents {c : Configurable} {s : AgentState}
    {tm : List AgentEvent} {intent : String} (content : String) (v : Verdict)
    (hm : Merges s c tm intent) :
    callsTo Prompt.isClassifier (classifyEvents c s tm intent content v) =
      [(.classifier intent s.schemaContext, .ok content)] := by
  rw [callsTo, replies_classifyEvents, List.filter_append, ← callsTo, (callsTo_merges hm).2]
  rfl

theorem callsTo_analyzerRaised {c : Configurable} {s : AgentState} {tm : List AgentEvent}
    {intent : String} (reply : Except String String) (hm : Merges s c tm intent) :
    callsTo Prompt.isClassifier (entered .questionAnalyzer s :: (analyzerStart s :: tm ++
        [replied c (.classifier intent s.schemaContext) reply])) =
      [(.classifier intent s.schemaContext, reply)] := by
  rw [callsTo, replies_analyzerRaised, List.filter_append, ← callsTo, (callsTo_merges hm).2]
  rfl

/-- **Conclusions.**  A run that returns classified some intent. -/
theorem graphRun_concludes {c : Configurable} {s result : AgentState} {tr : List AgentEvent}
    (h : GraphRun c s tr (.ok result)) :
    ∃ tm intent content v, Merges s c tm intent ∧
      callsTo Prompt.isClassifier tr = [(.classifier intent s.schemaContext, .ok content)] ∧
      verdict s.ambiguityCount c.maxRounds content = .ok v ∧ Concludes s intent v result := by
  cases h with
  | @stopped tm intent v content hm hv hne =>
    exact ⟨tm, intent, content, v, hm, callsTo_classifyEvents content v hm, hv,
      .stopped hne⟩
  | @attempted tm intent t _ content hm hv ha =>
    refine ⟨tm, intent, content, .answerable, hm, ?_, hv, ?_⟩
    · rw [callsTo_append, callsTo_classifyEvents content _ hm, (attempts_callsTo ha).2]
      rfl
    · obtain ⟨hstatus, hanswer⟩ := attempts_result ha
      exact .attempted hstatus hanswer

/-- Only a clarification question ends a run in `asking_clarification`. -/
theorem Concludes.status_ne {s result : AgentState} {intent : String} {v : Verdict}
    (h : Concludes s intent v result) (hv : ∀ q, v ≠ .ask q) :
    result.status ≠ .askingClarification := by
  cases h with
  | stopped hne =>
    cases v with
    | answerable => exact absurd rfl hne
    | ask q => exact absurd rfl (hv q)
    | undecodable => exact fun h => nomatch h
    | limitReached => exact fun h => nomatch h
    | outOfScope reason => exact fun h => nomatch h
  | attempted hstatus hanswer => rcases hstatus with hs | hs <;> rw [hs] <;> simp

/-- A run that raises found nothing to tell the user. -/
theorem graphRun_error_verdict {c : Configurable} {s : AgentState} {tr : List AgentEvent}
    {e : PyException} (h : GraphRun c s tr (.error e)) {content : String} {v : Verdict}
    (hmem : .ok content ∈ repliesTo Prompt.isClassifier tr)
    (hv : verdict s.ambiguityCount c.maxRounds content = .ok v) : v = .answerable := by
  cases h with
  | raised ha =>
    cases ha with
    | mergerRaised text hc => cases hmem
    | @classifierRaised tm intent text hm =>
      rw [repliesTo, callsTo_analyzerRaised _ hm] at hmem
      cases List.mem_singleton.mp hmem
    | @unhandled tm intent _ content' hm hv' =>
      rw [repliesTo, callsTo_analyzerRaised _ hm] at hmem
      cases List.mem_singleton.mp hmem
      rw [hv'] at hv
      cases hv
  | @attempted tm intent t _ content' hm hv' ha =>
    rw [repliesTo, callsTo_append, callsTo_classifyEvents content' _ hm,
      (attempts_callsTo ha).2] at hmem
    cases List.mem_singleton.mp hmem
    rw [hv'] at hv
    cases hv
    rfl

end UniversityQA.Agent
