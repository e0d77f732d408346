import UniversityQA.Agent.Runtime
import UniversityQA.Agent.SqlValidator

/-!
# The five nodes

Each node is the coroutine of the source, followed by the one lemma that says
everything a run of it can do; nothing below unfolds a node again.  The
analyzer's handling of the classifier reply is split off as `routeReply`, its
result is `verdict`.
-/

namespace UniversityQA.Agent

open UniversityQA.Py UniversityQA.Db Coroutine

/-! ## `question_analyzer` -/

/-- The prompt of the merger in a state. -/
def mergerPrompt (state : AgentState) : Prompt :=
  .merger state.accumulatedIntent state.lastClarification state.question

/-- Step 1 of `question_analyzer`: merge on a continuation, else take the
question itself. -/
def mergeIntent (state : AgentState) (config : Configurable) : NodeProg String :=
  if state.lastClarification ≠ .null then do
    let merged ← ainvoke config (mergerPrompt state)
    return strip merged
  else
    return orElse state.accumulatedIntent state.question

def classifyError : String := "Failed to classify the question."

def ambiguityLimitError : String := "Too many ambiguous questions, please rephrase from scratch."

/-- Step 3 of `question_analyzer` and the decoding in front of it: from the
content of the classifier reply to the state update. -/
def routeReply (state : AgentState) (maxRounds : Int) (accumulatedIntent content : String) :
    NodeProg StateUpdate :=
  match loads content with
  | .error .decode => do
    state.tracer.log .questionAnalyzer .error [("reason", .str "invalid_classifier_json")]
    return {
      status := .error
      answer := some (.str classifyError)
      accumulatedIntent := some (some accumulatedIntent) }
  | .error .intDigits => .raise .valueError
  | .ok (.obj parsed) => do
    let classification := JsonObject.get parsed "status" (.str "out_of_scope")
    if classification = .str "answerable" then
      state.tracer.log .questionAnalyzer .end_ [("status", .str "generating")]
      return {
        status := .generating
        accumulatedIntent := some (some accumulatedIntent)
        lastClarification := some .null
        ambiguityCount := some 0 }
    else if classification = .str "ambiguous" ∧ state.ambiguityCount < maxRounds then
      let clarificationQ :=
        JsonObject.get parsed "clarification_question" (.str "Could you clarify your question?")
      let newCount := state.ambiguityCount + 1
      state.tracer.log .questionAnalyzer .clarify [("ambiguity_count", .int newCount)]
      return {
        status := .askingClarification
        accumulatedIntent := some (some accumulatedIntent)
        lastClarification := some clarificationQ
        ambiguityCount := some newCount
        answer := some clarificationQ }
    else if classification = .str "ambiguous" then
      state.tracer.log .questionAnalyzer .error [("reason", .str "ambiguity_limit_reached")]
      return {
        status := .error
        answer := some (.str ambiguityLimitError)
        accumulatedIntent := some (some accumulatedIntent) }
    else
      let reason :=
        JsonObject.get parsed "reason" (.str "This question is outside the scope of the system.")
      state.tracer.log .questionAnalyzer .end_ [("status", .str "error"), ("reason", reason)]
      return {
        status := .error
        answer := some reason
        accumulatedIntent := some (some accumulatedIntent) }
  -- anything but a dict has no `get`, outside the `try`
  | .ok v => .raise (.attributeError v.typeName "get")

def questionAnalyzer (state : AgentState) (config : Configurable) : NodeProg StateUpdate := do
  state.tracer.log .questionAnalyzer .start
  let accumulatedIntent ← mergeIntent state config
  let raw ← ainvoke config (.classifier accumulatedIntent state.schemaContext)
  routeReply state config.maxRounds accumulatedIntent raw

/-- How the analyzer reads a classifier reply it can use. -/
inductive Verdict where
  | undecodable
  | answerable
  | ask (clarificationQ : Json)
  | limitReached
  | outOfScope (reason : Json)
  deriving DecidableEq, Repr

/-- The verdict on the content of a classifier reply, after `ambiguityCount`
clarification questions. -/
def verdict (ambiguityCount maxRounds : Int) (content : String) : Except PyException Verdict :=
  match loads content with
  | .error .decode => .ok .undecodable
  | .error .intDigits => .error .valueError
  | .ok (.obj parsed) =>
    let classification := JsonObject.get parsed "status" (.str "out_of_scope")
    if classification = .str "answerable" then .ok .answerable
    else if classification = .str "ambiguous" ∧ ambiguityCount < maxRounds then
      .ok (.ask
        (JsonObject.get parsed "clarification_question" (.str "Could you clarify your question?")))
    else if classification = .str "ambiguous" then .ok .limitReached
    else
      .ok (.outOfScope
        (JsonObject.get parsed "reason" (.str "This question is outside the scope of the system.")))
  | .ok v => .error (.attributeError v.typeName "get")

theorem verdict_of_object {content : String} {parsed : JsonObject}
    (h : loads content = .ok (.obj parsed)) (ambiguityCount maxRounds : Int) :
    verdict ambiguityCount maxRounds content =
      if JsonObject.get parsed "status" (.str "out_of_scope") = .str "answerable" then .ok .answerable
      else if JsonObject.get parsed "status" (.str "out_of_scope") = .str "ambiguous" ∧
          ambiguityCount < maxRounds then
        .ok (.ask (JsonObject.get parsed "clarification_question"
          (.str "Could you clarify your question?")))
      else if JsonObject.get parsed "status" (.str "out_of_scope") = .str "ambiguous" then
        .ok .limitReached
      else .ok (.outOfScope (JsonObject.get parsed "reason"
        (.str "This question is outside the scope of the system."))) := by
  unfold verdict
  rw [h]

/-- The reply is an object that says `answerable`. -/
def FindsAnswerable (content : String) : Prop :=
  ∃ parsed, loads content = .ok (.obj parsed) ∧
    JsonObject.get parsed "status" (.str "out_of_scope") = .str "answerable"

theorem verdict_eq_answerable_iff (ambiguityCount maxRounds : Int) (content : String) :
    verdict ambiguityCount maxRounds content = .ok .answerable ↔ FindsAnswerable content := by
  constructor
  · intro h
    unfold verdict at h
    split at h
    case h_3 parsed hp =>
      refine ⟨parsed, hp, ?_⟩
      by_contra hne
      rw [if_neg hne] at h
      split at h
      · cases h
      · split at h <;> cases h
    all_goals cases h
  · rintro ⟨parsed, hp, hs⟩
    rw [verdict_of_object hp, if_pos hs]

/-- The reply is an object that says `ambiguous`. -/
def SaysAmbiguous (content : String) : Prop :=
  ∃ parsed, loads content = .ok (.obj parsed) ∧
    JsonObject.get parsed "status" (.str "out_of_scope") = .str "ambiguous"

/-- The reply is an object with any other status, and this is its reason. -/
def GivesReason (content : String) (reason : Json) : Prop :=
  ∃ parsed, loads content = .ok (.obj parsed) ∧
    JsonObject.get parsed "status" (.str "out_of_scope") ≠ .str "answerable" ∧
    JsonObject.get parsed "status" (.str "out_of_scope") ≠ .str "ambiguous" ∧
    JsonObject.get parsed "reason" (.str "This question is outside the scope of the system.") = reason

theorem givesReason_iff {content : String} {parsed : JsonObject}
    (h : loads content = .ok (.obj parsed)) (reason : Json) :
    GivesReason content reason ↔
      JsonObject.get parsed "status" (.str "out_of_scope") ≠ .str "answerable" ∧
      JsonObject.get parsed "status" (.str "out_of_scope") ≠ .str "ambiguous" ∧
      JsonObject.get parsed "reason" (.str "This question is outside the scope of the system.") =
        reason := by
  constructor
  · rintro ⟨parsed', hp, hrest⟩
    rw [h] at hp
    cases hp
    exact hrest
  · intro hrest
    exact ⟨parsed, h, hrest⟩

theorem verdict_of_givesReason {content : String} {reason : Json} (h : GivesReason content reason)
    (ambiguityCount maxRounds : Int) :
    verdict ambiguityCount maxRounds content = .ok (.outOfScope reason) := by
  obtain ⟨parsed, hp, hna, hnm, hr⟩ := h
  rw [verdict_of_object hp, if_neg hna, if_neg (fun h => hnm h.1), if_neg hnm, hr]

theorem verdict_of_ambiguous {content : String} (h : SaysAmbiguous content)
    (ambiguityCount maxRounds : Int) :
    (ambiguityCount < maxRounds ∧ ∃ q, verdict ambiguityCount maxRounds content = .ok (.ask q)) ∨
      (¬ ambiguityCount < maxRounds ∧ verdict ambiguityCount maxRounds content = .ok .limitReached) := by
  obtain ⟨parsed, hp, hs⟩ := h
  unfold verdict
  rw [hp]
  by_cases hc : ambiguityCount < maxRounds
  · exact .inl ⟨hc, _, by simp [hs, hc]; rfl⟩
  · exact .inr ⟨hc, by simp [hs, hc]⟩

/-- A clarification question is asked within the limit only. -/
theorem lt_of_verdict_ask {ambiguityCount maxRounds : Int} {content : String} {q : Json}
    (h : verdict ambiguityCount maxRounds content = .ok (.ask q)) : ambiguityCount < maxRounds := by
  unfold verdict at h
  split at h
  case h_3 parsed hp =>
    dsimp only at h
    split at h
    · cases h
    · split at h
      case isTrue hc => exact hc.2
      case isFalse => split at h <;> cases h
  all_goals cases h

/-- The update a verdict leads to. -/
def Verdict.update (state : AgentState) (accumulatedIntent : String) : Verdict → StateUpdate
  | .undecodable => {
      status := .error
      answer := some (.str classifyError)
      accumulatedIntent := some (some accumulatedIntent) }
  | .answerable => {
      status := .generating
      accumulatedIntent := some (some accumulatedIntent)
      lastClarification := some .null
      ambiguityCount := some 0 }
  | .ask clarificationQ => {
      status := .askingClarification
      accumulatedIntent := some (some accumulatedIntent)
      lastClarification := some clarificationQ
      ambiguityCount := some (state.ambiguityCount + 1)
      answer := some clarificationQ }
  | .limitReached => {
      status := .error
      answer := some (.str ambiguityLimitError)
      accumulatedIntent := some (some accumulatedIntent) }
  | .outOfScope reason => {
      status := .error
      answer := some reason
      accumulatedIntent := some (some accumulatedIntent) }

/-- The text or JSON value a verdict puts in front of the user, where it comes
from the classifier. -/
def Verdict.shown : Verdict → Option Json
  | .ask clarificationQ => some clarificationQ
  | .outOfScope reason => some reason
  | _ => none

/-- The closing log line of a verdict. -/
def Verdict.closing (state : AgentState) : Verdict → AgentEvent
  | .undecodable =>
    logged state.tracer .questionAnalyzer .error [("reason", .str "invalid_classifier_json")]
  | .answerable => logged state.tracer .questionAnalyzer .end_ [("status", .str "generating")]
  | .ask _ =>
    logged state.tracer .questionAnalyzer .clarify
      [("ambiguity_count", .int (state.ambiguityCount + 1))]
  | .limitReached =>
    logged state.tracer .questionAnalyzer .error [("reason", .str "ambiguity_limit_reached")]
  | .outOfScope reason =>
    logged state.tracer .questionAnalyzer .end_ [("status", .str "error"), ("reason", reason)]

/-- `routeReply` computes the verdict, logs it and returns its update. -/
theorem routeReply_eq (state : AgentState) (maxRounds : Int) (intent content : String) :
    routeReply state maxRounds intent content =
      match verdict state.ambiguityCount maxRounds content with
      | .error e => .raise e
      | .ok v => .ask (v.closing state).1 fun _ => .ret (v.update state intent) := by
  unfold routeReply verdict
  split
  case h_1 => rfl
  case h_2 => rfl
  case h_3 parsed _ =>
    dsimp only
    generalize JsonObject.get parsed "status" (.str "out_of_scope") = classification
    by_cases ha : classification = .str "answerable"
    · rw [if_pos ha, if_pos ha]
      rfl
    · rw [if_neg ha, if_neg ha]
      by_cases hm : classification = .str "ambiguous"
      · by_cases hc : state.ambiguityCount < maxRounds
        · rw [if_pos ⟨hm, hc⟩, if_pos ⟨hm, hc⟩]
          rfl
        · have hlimit : ¬ (classification = .str "ambiguous" ∧ state.ambiguityCount < maxRounds) :=
            fun h => hc h.2
          rw [if_neg hlimit, if_neg hlimit, if_pos hm, if_pos hm]
          rfl
      · have hother : ¬ (classification = .str "ambiguous" ∧ state.ambiguityCount < maxRounds) :=
          fun h => hm h.1
        rw [if_neg hother, if_neg hother, if_neg hm, if_neg hm]
        rfl
  case h_4 => rfl

theorem runs_routeReply (state : AgentState) (maxRounds : Int) (intent content : String)
    (tr : List AgentEvent) (o : Except PyException StateUpdate) :
    Runs (routeReply state maxRounds intent content) tr o ↔
      (∃ e, verdict state.ambiguityCount maxRounds content = .error e ∧ tr = [] ∧ o = .error e) ∨
        ∃ v, verdict state.ambiguityCount maxRounds content = .ok v ∧ tr = [v.closing state] ∧
          o = .ok (v.update state intent) := by
  rw [routeReply_eq]
  cases verdict state.ambiguityCount maxRounds content with
  | error e => simp
  | ok v =>
    have hclosing : ∀ a, (⟨(v.closing state).1, a⟩ : AgentEvent) = v.closing state := by
      cases v <;> intro a <;> rfl
    simp only [runs_ask, runs_ret, hclosing]
    constructor
    · rintro ⟨_, _, rfl, rfl, rfl⟩
      exact .inr ⟨v, rfl, rfl, rfl⟩
    · rintro (⟨e, he, _⟩ | ⟨v', hv, rfl, rfl⟩)
      · cases he
      · cases hv
        exact ⟨(v.closing state).2, [], rfl, rfl, rfl⟩

/-- Runs of step 1: the events and the intent the classifier is asked about. -/
inductive Merges (s : AgentState) (c : Configurable) : List AgentEvent → String → Prop
  | continuation (content : String) : s.lastClarification ≠ .null →
      Merges s c [replied c (mergerPrompt s) (.ok content)] (strip content)
  | fresh : s.lastClarification = .null → Merges s c [] (orElse s.accumulatedIntent s.question)

def analyzerStart (s : AgentState) : AgentEvent := logged s.tracer .questionAnalyzer .start []

/-- Runs of `question_analyzer`. -/
inductive AnalyzerRun (s : AgentState) (c : Configurable) :
    List AgentEvent → Except PyException StateUpdate → Prop
  | mergerRaised (text : String) : s.lastClarification ≠ .null →
      AnalyzerRun s c [analyzerStart s, replied c (mergerPrompt s) (.error text)]
        (.error (.llmError text))
  | classifierRaised {tm intent} (text : String) : Merges s c tm intent →
      AnalyzerRun s c (analyzerStart s :: tm ++
        [replied c (.classifier intent s.schemaContext) (.error text)])
        (.error (.llmError text))
  | unhandled {tm intent e} (content : String) : Merges s c tm intent →
      verdict s.ambiguityCount c.maxRounds content = .error e →
      AnalyzerRun s c (analyzerStart s :: tm ++
        [replied c (.classifier intent s.schemaContext) (.ok content)])
        (.error e)
  | classified {tm intent v} (content : String) : Merges s c tm intent →
      verdict s.ambiguityCount c.maxRounds content = .ok v →
      AnalyzerRun s c (analyzerStart s :: tm ++
        [replied c (.classifier intent s.schemaContext) (.ok content),
          v.closing s]) (.ok (v.update s intent))

theorem mergeIntent_run {s : AgentState} {c : Configurable} {tr : List AgentEvent}
    {o : Except PyException String} (h : Runs (mergeIntent s c) tr o) :
    (∃ text, s.lastClarification ≠ .null ∧ tr = [replied c (mergerPrompt s) (.error text)] ∧
        o = .error (.llmError text)) ∨
      ∃ intent, Merges s c tr intent ∧ o = .ok intent := by
  unfold mergeIntent at h
  split at h
  case isTrue hc =>
    rw [runs_ainvoke_bind] at h
    simp only [Prog.pure_eq, runs_ret] at h
    rcases h with ⟨text, rfl, rfl⟩ | ⟨content, _, rfl, rfl, rfl⟩
    · exact .inl ⟨text, hc, rfl, rfl⟩
    · exact .inr ⟨_, .continuation content hc, rfl⟩
  case isFalse hc =>
    simp only [Prog.pure_eq, runs_ret] at h
    obtain ⟨rfl, rfl⟩ := h
    exact .inr ⟨_, .fresh (not_not.mp hc), rfl⟩

theorem questionAnalyzer_run {s : AgentState} {c : Configurable} {tr : List AgentEvent}
    {o : Except PyException StateUpdate} (h : Runs (questionAnalyzer s c) tr o) :
    AnalyzerRun s c tr o := by
  rw [questionAnalyzer, runs_log_bind] at h
  obtain ⟨tr', rfl, h⟩ := h
  rcases runs_bind.mp h with ⟨e, hm, rfl⟩ | ⟨intent, tm, t₂, rfl, hm, h₂⟩
  · rcases mergeIntent_run hm with ⟨text, hc, rfl, he⟩ | ⟨_, _, he⟩
    · cases he
      exact .mergerRaised text hc
    · cases he
  · rcases mergeIntent_run hm with ⟨_, _, _, he⟩ | ⟨i, hi, he⟩
    · cases he
    · cases he
      rw [runs_ainvoke_bind] at h₂
      rcases h₂ with ⟨text, rfl, rfl⟩ | ⟨content, t₃, rfl, h₃⟩
      · exact .classifierRaised text hi
      · rcases (runs_routeReply _ _ _ _ _ _).mp h₃ with ⟨e, hv, rfl, rfl⟩ | ⟨v, hv, rfl, rfl⟩
        · exact .unhandled content hi hv
        · exact .classified content hi hv

/-! ## `sql_generator` -/

/-- The prompt of `sql_generator` in a state. -/
def sqlPrompt (state : AgentState) (config : Configurable) : Prompt :=
  .sql state.schemaContext config.fewShotExamples state.conversationHistory
    (orElse state.accumulatedIntent state.question)
    (if state.retryCount > 0 then state.sql else none)
    (if state.retryCount > 0 then state.sqlError else none)

def sqlGenerator (state : AgentState) (config : Configurable) : NodeProg StateUpdate := do
  state.tracer.log .sqlGenerator .start [("retry_count", .int state.retryCount)]
  let result ← ainvoke config (sqlPrompt state config)
  let sql := strip result
  state.tracer.log .sqlGenerator .end_ [("sql", .str sql), ("retry_count", .int state.retryCount)]
  return { sql := some (some sql), status := .validating, sqlError := some none }

def generatorStart (s : AgentState) : AgentEvent :=
  logged s.tracer .sqlGenerator .start [("retry_count", .int s.retryCount)]

def generatorEnd (s : AgentState) (sql : String) : AgentEvent :=
  logged s.tracer .sqlGenerator .end_ [("sql", .str sql), ("retry_count", .int s.retryCount)]

/-- Runs of `sql_generator`. -/
inductive GeneratorRun (s : AgentState) (c : Configurable) :
    List AgentEvent → Except PyException StateUpdate → Prop
  | raised (text : String) :
      GeneratorRun s c [generatorStart s, replied c (sqlPrompt s c) (.error text)] (.error (.llmError text))
  | generated (content : String) :
      GeneratorRun s c [generatorStart s, replied c (sqlPrompt s c) (.ok content),
        generatorEnd s (strip content)]
        (.ok { sql := some (some (strip content)), status := .validating, sqlError := some none })

theorem sqlGenerator_run {s : AgentState} {c : Configurable} {tr : List AgentEvent}
    {o : Except PyException StateUpdate} (h : Runs (sqlGenerator s c) tr o) :
    GeneratorRun s c tr o := by
  rw [sqlGenerator, runs_log_bind] at h
  obtain ⟨tr', rfl, h⟩ := h
  rw [runs_ainvoke_bind] at h
  rcases h with ⟨text, rfl, rfl⟩ | ⟨content, t₂, rfl, h⟩
  · exact .raised text
  · simp only [runs_log_bind, Prog.pure_eq, runs_ret] at h
    obtain ⟨_, rfl, rfl, rfl⟩ := h
    exact .generated content

/-! ## `sql_validator` -/

def safetyError (message : String) : String :=
  "Generated SQL failed safety validation: " ++ message

/-- An `error_msg: str | None` inside an f-string. -/
def formatMessage : Option String → String
  | none => "None"
  | some m => m

/-- An `error_msg: str | None` as a log field. -/
def jsonMessage : Option String → Json
  | none => .null
  | some m => .str m

def sqlValidator (state : AgentState) : NodeProg StateUpdate := do
  state.tracer.log .sqlValidator .start
  let sql := orElse state.sql ""
  let (isValid, errorMsg) := validateSql sql
  if isValid then
    state.tracer.log .sqlValidator .end_ [("valid", .bool true)]
    return { status := .executing }
  else
    state.tracer.log .sqlValidator .error [("reason", jsonMessage errorMsg)]
    return { status := .error, answer := some (.str (safetyError (formatMessage errorMsg))) }

def validatorStart (s : AgentState) : AgentEvent := logged s.tracer .sqlValidator .start []

def validatorEnd (s : AgentState) : AgentEvent :=
  logged s.tracer .sqlValidator .end_ [("valid", .bool true)]

def validatorError (s : AgentState) (message : String) : AgentEvent :=
  logged s.tracer .sqlValidator .error [("reason", .str message)]

/-- Runs of `sql_validator`. -/
inductive ValidatorRun (s : AgentState) : List AgentEvent → Except PyException StateUpdate → Prop
  | valid : validateSql (orElse s.sql "") = (true, none) →
      ValidatorRun s [validatorStart s, validatorEnd s] (.ok { status := .executing })
  | invalid (message : String) : validateSql (orElse s.sql "") = (false, some message) →
      ValidatorRun s [validatorStart s, validatorError s message]
        (.ok { status := .error, answer := some (.str (safetyError message)) })

theorem sqlValidator_run {s : AgentState} {tr : List AgentEvent}
    {o : Except PyException StateUpdate} (h : Runs (sqlValidator s) tr o) : ValidatorRun s tr o := by
  rw [sqlValidator, runs_log_bind] at h
  obtain ⟨tr', rfl, h⟩ := h
  by_cases hv : validateSql (orElse s.sql "") = (true, none)
  · simp only [hv, ↓reduceIte, runs_log_bind, Prog.pure_eq, runs_ret] at h
    obtain ⟨_, rfl, rfl, rfl⟩ := h
    exact .valid hv
  · obtain ⟨message, hm⟩ := validateSql_rejects hv
    simp only [hm, Bool.false_eq_true, ↓reduceIte, runs_log_bind, Prog.pure_eq, runs_ret] at h
    obtain ⟨_, rfl, rfl, rfl⟩ := h
    exact .invalid message hm

/-! ## `sql_executor` -/

def executionError : String := "Failed to execute the query after multiple attempts."

def sqlExecutor (state : AgentState) (config : Configurable) : NodeProg StateUpdate := do
  state.tracer.log .sqlExecutor .start
  match ← executeQuery (orElse state.sql "") with
  | .ok results =>
    state.tracer.log .sqlExecutor .end_ [("row_count", .int results.length)]
    return { dbResults := some (some results), status := .formatting, sqlError := some none }
  | .error errorMsg =>
    let newRetryCount := state.retryCount + 1
    if newRetryCount ≤ config.maxRetries then
      state.tracer.log .sqlExecutor .retry
        [("retry_count", .int newRetryCount), ("error", .str errorMsg)]
      return {
        sqlError := some (some errorMsg), retryCount := some newRetryCount, status := .generating }
    else
      state.tracer.log .sqlExecutor .error [("reason", .str errorMsg)]
      return {
        sqlError := some (some errorMsg), status := .error, answer := some (.str executionError) }

def executorStart (s : AgentState) : AgentEvent := logged s.tracer .sqlExecutor .start []

def executorEnd (s : AgentState) (results : List Row) : AgentEvent :=
  logged s.tracer .sqlExecutor .end_ [("row_count", .int results.length)]

def executorRetry (s : AgentState) (errorMsg : String) : AgentEvent :=
  logged s.tracer .sqlExecutor .retry
    [("retry_count", .int (s.retryCount + 1)), ("error", .str errorMsg)]

def executorError (s : AgentState) (errorMsg : String) : AgentEvent :=
  logged s.tracer .sqlExecutor .error [("reason", .str errorMsg)]

/-- Runs of `sql_executor`. -/
inductive ExecutorRun (s : AgentState) (c : Configurable) :
    List AgentEvent → Except PyException StateUpdate → Prop
  | succeeded (results : List Row) :
      ExecutorRun s c
        [executorStart s, executed (orElse s.sql "") (.ok results), executorEnd s results]
        (.ok { dbResults := some (some results), status := .formatting, sqlError := some none })
  | retry (errorMsg : String) : s.retryCount + 1 ≤ c.maxRetries →
      ExecutorRun s c
        [executorStart s, executed (orElse s.sql "") (.error errorMsg), executorRetry s errorMsg]
        (.ok {
          sqlError := some (some errorMsg)
          retryCount := some (s.retryCount + 1)
          status := .generating })
  | exhausted (errorMsg : String) : ¬ s.retryCount + 1 ≤ c.maxRetries →
      ExecutorRun s c
        [executorStart s, executed (orElse s.sql "") (.error errorMsg), executorError s errorMsg]
        (.ok {
          sqlError := some (some errorMsg)
          status := .error
          answer := some (.str executionError) })

theorem sqlExecutor_run {s : AgentState} {c : Configurable} {tr : List AgentEvent}
    {o : Except PyException StateUpdate} (h : Runs (sqlExecutor s c) tr o) :
    ExecutorRun s c tr o := by
  rw [sqlExecutor, runs_log_bind] at h
  obtain ⟨tr', rfl, h⟩ := h
  rw [runs_executeQuery_bind] at h
  obtain ⟨result, t₂, rfl, h⟩ := h
  cases result with
  | ok results =>
    simp only [runs_log_bind, Prog.pure_eq, runs_ret] at h
    obtain ⟨_, rfl, rfl, rfl⟩ := h
    exact .succeeded results
  | error errorMsg =>
    by_cases hr : s.retryCount + 1 ≤ c.maxRetries
    · simp only [hr, ↓reduceIte, runs_log_bind, Prog.pure_eq, runs_ret] at h
      obtain ⟨_, rfl, rfl, rfl⟩ := h
      exact .retry errorMsg hr
    · simp only [hr, ↓reduceIte, runs_log_bind, Prog.pure_eq, runs_ret] at h
      obtain ⟨_, rfl, rfl, rfl⟩ := h
      exact .exhausted errorMsg hr

/-! ## `answer_formatter` -/

/-- The prompt of `answer_formatter` in a state. -/
def answerPrompt (state : AgentState) (config : Configurable) : Prompt :=
  let results := truncateResults (state.dbResults.getD []) config.rowLimit
  .answer (orElse state.accumulatedIntent state.question) (formatDbResults results)

def answerFormatter (state : AgentState) (config : Configurable) : NodeProg StateUpdate := do
  state.tracer.log .answerFormatter .start
  let result ← ainvoke config (answerPrompt state config)
  state.tracer.log .answerFormatter .end_
  return { answer := some (.str (strip result)), status := .done }

def formatterStart (s : AgentState) : AgentEvent := logged s.tracer .answerFormatter .start []

def formatterEnd (s : AgentState) : AgentEvent := logged s.tracer .answerFormatter .end_ []

/-- Runs of `answer_formatter`. -/
inductive FormatterRun (s : AgentState) (c : Configurable) :
    List AgentEvent → Except PyException StateUpdate → Prop
  | raised (text : String) :
      FormatterRun s c
        [formatterStart s, replied c (answerPrompt s c) (.error text)]
        (.error (.llmError text))
  | answered (content : String) :
      FormatterRun s c [formatterStart s,
        replied c (answerPrompt s c) (.ok content), formatterEnd s]
        (.ok { answer := some (.str (strip content)), status := .done })

theorem answerFormatter_run {s : AgentState} {c : Configurable} {tr : List AgentEvent}
    {o : Except PyException StateUpdate} (h : Runs (answerFormatter s c) tr o) :
    FormatterRun s c tr o := by
  rw [answerFormatter, runs_log_bind] at h
  obtain ⟨tr', rfl, h⟩ := h
  rw [runs_ainvoke_bind] at h
  rcases h with ⟨text, rfl, rfl⟩ | ⟨content, t₂, rfl, h⟩
  · exact .raised text
  · simp only [runs_log_bind, Prog.pure_eq, runs_ret] at h
    obtain ⟨_, rfl, rfl, rfl⟩ := h
    exact .answered content

end UniversityQA.Agent
