import UniversityQA.Agent.Runs

/-!
# Stages of a run

The type of `AgentState` admits any combination of its fields.  In front of a
node and at the end of a run there are few, and the counters stay within the
limits of the settings.

* `InStage`: what holds where a node is entered;
* `Ended`: what holds of a result;
* `graphRun_stages`: so it is in every run from a fresh state.
-/

namespace UniversityQA.Agent

open UniversityQA.Py UniversityQA.Db Coroutine

/-! ## What a stage is -/

/-- The fields that no node writes. -/
structure SameRun (s₀ s : AgentState) : Prop where
  question : s.question = s₀.question
  schemaContext : s.schemaContext = s₀.schemaContext
  conversationHistory : s.conversationHistory = s₀.conversationHistory
  traceId : s.traceId = s₀.traceId
  sessionId : s.sessionId = s₀.sessionId
  tracer : s.tracer = s₀.tracer

theorem SameRun.merge {s₀ s : AgentState} (h : SameRun s₀ s) (u : StateUpdate) :
    SameRun s₀ (s.merge u) :=
  ⟨h.question, h.schemaContext, h.conversationHistory, h.traceId, h.sessionId, h.tracer⟩

/-- Both counters within their limits. -/
structure WithinLimits (c : Configurable) (s : AgentState) : Prop where
  retries : 0 ≤ s.retryCount ∧ s.retryCount ≤ max c.maxRetries 0
  rounds : 0 ≤ s.ambiguityCount ∧ s.ambiguityCount ≤ max c.maxRounds 0

/-- Nothing is left to be clarified. -/
structure Resolved (s : AgentState) : Prop where
  intent : s.accumulatedIntent.isSome = true
  lastClarification : s.lastClarification = .null
  ambiguityCount : s.ambiguityCount = 0

def HasValidSql (s : AgentState) : Prop := ∃ sql, s.sql = some sql ∧ validateSql sql = (true, none)

/-- The generator is entered for the first time, or after a query that failed. -/
inductive Attempt (s : AgentState) : Prop where
  | first (retryCount : s.retryCount = 0) (sql : s.sql = none) (sqlError : s.sqlError = none)
  | again (retryCount : 0 < s.retryCount) (sql : HasValidSql s) (sqlError : s.sqlError.isSome = true)

/-- The stage that comes with a node. -/
def Stage (s : AgentState) : Node → Prop
  | .questionAnalyzer => s.status = .analyzing ∧ s.retryCount = 0 ∧ s.sql = none ∧
      s.sqlError = none ∧ s.dbResults = none
  | .sqlGenerator => s.status = .generating ∧ Resolved s ∧ Attempt s ∧ s.dbResults = none
  | .sqlValidator => s.status = .validating ∧ Resolved s ∧ s.sql.isSome = true ∧
      s.sqlError = none ∧ s.dbResults = none
  | .sqlExecutor => s.status = .executing ∧ Resolved s ∧ HasValidSql s ∧ s.sqlError = none ∧
      s.dbResults = none
  | .answerFormatter => s.status = .formatting ∧ Resolved s ∧ HasValidSql s ∧ s.sqlError = none ∧
      s.dbResults.isSome = true

/-- What holds of the state in front of a node, in a run from `s₀`. -/
structure InStage (c : Configurable) (s₀ s : AgentState) (node : Node) : Prop where
  same : SameRun s₀ s
  limits : WithinLimits c s
  answer : s.answer = .null
  stage : Stage s node

/-- What a final status says. -/
def Outcome (s : AgentState) : AgentStatus → Prop
  | .done => Resolved s ∧ HasValidSql s ∧ s.sqlError = none ∧ s.dbResults.isSome = true ∧
      ∃ text, s.answer = .str text
  | .askingClarification => s.answer = s.lastClarification ∧ 0 < s.ambiguityCount ∧ s.sql = none ∧
      s.dbResults = none
  | .error => s.dbResults = none
  | _ => False

/-- What holds of the result of a run from `s₀`. -/
structure Ended (c : Configurable) (s₀ s : AgentState) : Prop where
  same : SameRun s₀ s
  limits : WithinLimits c s
  outcome : Outcome s s.status

/-! ## Node by node -/

section Steps

variable {c : Configurable} {s₀ s : AgentState}

theorem InStage.classified (h : InStage c s₀ s .questionAnalyzer) {v : Verdict} (intent : String)
    (hv : ∀ q, v = .ask q → s.ambiguityCount < c.maxRounds) :
    if v = .answerable then InStage c s₀ (s.classified v intent) .sqlGenerator
    else Ended c s₀ (s.classified v intent) := by
  obtain ⟨hsame, ⟨hretries, hlow, hhigh⟩, hanswer, -, hzero, hsql, herror, hresults⟩ := h
  have hkept : SameRun s₀ (s.classified v intent) := hsame.merge _
  cases v with
  | answerable =>
    rw [if_pos rfl]
    exact ⟨hkept, ⟨hretries, Int.le_refl _, Int.le_max_right _ _⟩, hanswer, rfl, ⟨rfl, rfl, rfl⟩,
      .first hzero hsql herror, hresults⟩
  | ask q =>
    have hlt := hv q rfl
    rw [if_neg (by simp)]
    refine ⟨hkept, ⟨hretries, ?_⟩, rfl, ?_, hsql, hresults⟩
    · change 0 ≤ s.ambiguityCount + 1 ∧ s.ambiguityCount + 1 ≤ max c.maxRounds 0
      omega
    · change 0 < s.ambiguityCount + 1
      omega
  | undecodable => exact ⟨hkept, ⟨hretries, hlow, hhigh⟩, hresults⟩
  | limitReached => exact ⟨hkept, ⟨hretries, hlow, hhigh⟩, hresults⟩
  | outOfScope reason => exact ⟨hkept, ⟨hretries, hlow, hhigh⟩, hresults⟩

theorem InStage.generated (h : InStage c s₀ s .sqlGenerator) (content : String) :
    InStage c s₀ (s.generated content) .sqlValidator := by
  obtain ⟨hsame, hlimits, hanswer, -, hresolved, -, hresults⟩ := h
  exact ⟨hsame.merge _, ⟨hlimits.1, hlimits.2⟩, hanswer, rfl,
    ⟨hresolved.1, hresolved.2, hresolved.3⟩, rfl, rfl, hresults⟩

theorem InStage.rejected (h : InStage c s₀ s .sqlValidator) (message : String) :
    Ended c s₀ (s.rejected message) := by
  obtain ⟨hsame, hlimits, -, -, -, -, -, hresults⟩ := h
  exact ⟨hsame.merge _, ⟨hlimits.1, hlimits.2⟩, hresults⟩

theorem InStage.validated (h : InStage c s₀ s .sqlValidator) (hvalid : HasValidSql s) :
    InStage c s₀ s.validated .sqlExecutor := by
  obtain ⟨hsame, hlimits, hanswer, -, hresolved, -, herror, hresults⟩ := h
  exact ⟨hsame.merge _, ⟨hlimits.1, hlimits.2⟩, hanswer, rfl,
    ⟨hresolved.1, hresolved.2, hresolved.3⟩, hvalid, herror, hresults⟩

theorem InStage.approved (h : InStage c s₀ s .sqlGenerator) {content : String}
    (hvalid : validateSql (strip content) = (true, none)) :
    InStage c s₀ (s.approved content) .sqlExecutor :=
  (h.generated content).validated ⟨_, rfl, hvalid⟩

theorem InStage.fetched (h : InStage c s₀ s .sqlExecutor) (results : List Row) :
    InStage c s₀ (s.fetched results) .answerFormatter := by
  obtain ⟨hsame, hlimits, hanswer, -, hresolved, hvalid, -, -⟩ := h
  exact ⟨hsame.merge _, ⟨hlimits.1, hlimits.2⟩, hanswer, rfl,
    ⟨hresolved.1, hresolved.2, hresolved.3⟩, hvalid, rfl, rfl⟩

theorem InStage.retried (h : InStage c s₀ s .sqlExecutor) (errorMsg : String)
    (hr : s.retryCount + 1 ≤ c.maxRetries) : InStage c s₀ (s.retried errorMsg) .sqlGenerator := by
  obtain ⟨hsame, ⟨⟨hlow, hhigh⟩, hrounds⟩, hanswer, -, hresolved, hvalid, -, hresults⟩ := h
  refine ⟨hsame.merge _, ⟨?_, hrounds⟩, hanswer, rfl,
    ⟨hresolved.1, hresolved.2, hresolved.3⟩, .again ?_ hvalid rfl, hresults⟩
  · rw [AgentState.retryCount_retried]
    omega
  · rw [AgentState.retryCount_retried]
    omega

theorem InStage.exhausted (h : InStage c s₀ s .sqlExecutor) (errorMsg : String) :
    Ended c s₀ (s.exhausted errorMsg) := by
  obtain ⟨hsame, hlimits, -, -, -, -, -, hresults⟩ := h
  exact ⟨hsame.merge _, ⟨hlimits.1, hlimits.2⟩, hresults⟩

theorem InStage.answered (h : InStage c s₀ s .answerFormatter) (content : String) :
    Ended c s₀ (s.answered content) := by
  obtain ⟨hsame, hlimits, -, -, hresolved, hvalid, herror, hresults⟩ := h
  exact ⟨hsame.merge _, ⟨hlimits.1, hlimits.2⟩,
    ⟨hresolved.1, hresolved.2, hresolved.3⟩, hvalid, herror, hresults, _, rfl⟩

end Steps

/-! ## Whole runs -/

/-- Every node is entered in its stage. -/
def Staged (c : Configurable) (s₀ : AgentState) (tr : List AgentEvent) : Prop :=
  ∀ x ∈ supersteps tr, InStage c s₀ x.2 x.1

section Runs

variable {c : Configurable} {s₀ s : AgentState} {tr : List AgentEvent}
  {o : Except PyException AgentState}

theorem Staged.append {t₁ t₂ : List AgentEvent} (h₁ : Staged c s₀ t₁) (h₂ : Staged c s₀ t₂) :
    Staged c s₀ (t₁ ++ t₂) := by
  intro x hx
  rw [supersteps_append] at hx
  exact (List.mem_append.1 hx).elim (h₁ x) (h₂ x)

theorem staged_generate (h : InStage c s₀ s .sqlGenerator) (content : String) :
    Staged c s₀ (generateEvents c s content) :=
  List.forall_mem_singleton.2 h

/-- A round whose closing line is `closing`. -/
theorem staged_round (h : InStage c s₀ s .sqlGenerator) {content : String}
    (hvalid : validateSql (strip content) = (true, none)) (result : Except String (List Row))
    {closing : AgentEvent} (hclosing : supersteps [closing] = []) :
    Staged c s₀ (roundEvents c s content result closing) := by
  refine ((staged_generate h content).append ?_).append ?_
  · exact List.forall_mem_singleton.2 (h.generated content)
  · intro x hx
    have happend : supersteps (executeEvents (s.approved content) result closing) =
        (.sqlExecutor, s.approved content) :: supersteps [closing] := rfl
    rw [happend, hclosing] at hx
    rw [List.mem_singleton.1 hx]
    exact h.approved hvalid

/-- From the generator on. -/
theorem attempts_stages (h : Attempts c s tr o) (hs : InStage c s₀ s .sqlGenerator) :
    Staged c s₀ tr ∧ ∀ result, o = .ok result → Ended c s₀ result := by
  induction h with
  | generatorRaised text =>
    refine ⟨List.forall_mem_singleton.2 hs, fun result hresult => ?_⟩
    cases hresult
  | rejected content message hv =>
    refine ⟨(staged_generate hs content).append
      (List.forall_mem_singleton.2 (hs.generated content)), fun result hresult => ?_⟩
    cases hresult
    exact (hs.generated content).rejected message
  | exhausted content errorMsg hv hr =>
    refine ⟨staged_round hs hv _ rfl, fun result hresult => ?_⟩
    cases hresult
    exact (hs.approved hv).exhausted errorMsg
  | formatterRaised content results text hv hf =>
    subst hf
    refine ⟨(staged_round hs hv _ rfl).append
      (List.forall_mem_singleton.2 ((hs.approved hv).fetched results)), fun result hresult => ?_⟩
    cases hresult
  | answered content results answer hv hf =>
    subst hf
    refine ⟨(staged_round hs hv _ rfl).append
      (List.forall_mem_singleton.2 ((hs.approved hv).fetched results)), fun result hresult => ?_⟩
    cases hresult
    exact ((hs.approved hv).fetched results).answered answer
  | retried content errorMsg hv hr ha ih =>
    obtain ⟨hrest, hended⟩ := ih ((hs.approved hv).retried errorMsg hr)
    exact ⟨(staged_round hs hv _ rfl).append hrest, hended⟩

theorem supersteps_analyzed {t : List AgentEvent} (ht : supersteps t = []) :
    supersteps (entered .questionAnalyzer s :: t) = [(.questionAnalyzer, s)] :=
  congrArg (List.cons _) ht

theorem supersteps_merges {tm : List AgentEvent} {intent : String} (h : Merges s c tm intent) :
    supersteps tm = [] := by
  cases h <;> rfl

theorem supersteps_classifyEvents {tm : List AgentEvent} {intent : String} (content : String)
    (v : Verdict) (h : Merges s c tm intent) :
    supersteps (classifyEvents c s tm intent content v) = [(.questionAnalyzer, s)] := by
  have hstart : supersteps (entered .questionAnalyzer s :: analyzerStart s :: tm) =
      (.questionAnalyzer, s) :: supersteps tm := rfl
  rw [classifyEvents, supersteps_append, hstart, supersteps_merges h]
  cases v <;> rfl

theorem supersteps_classifying {tm : List AgentEvent} {intent : String} (h : Merges s c tm intent)
    (reply : Except String String) :
    supersteps (analyzerStart s :: tm ++ [replied c (.classifier intent s.schemaContext) reply]) = [] := by
  have hstart : supersteps (analyzerStart s :: tm) = supersteps tm := rfl
  rw [supersteps_append, hstart, supersteps_merges h]
  rfl

/-- **Stages.**  In a run from a state that the analyzer may be entered in,
every node is entered in its stage, and the result is an outcome. -/
theorem graphRun_stages (h : GraphRun c s₀ tr o) (hs : InStage c s₀ s₀ .questionAnalyzer) :
    Staged c s₀ tr ∧ ∀ result, o = .ok result → Ended c s₀ result := by
  cases h with
  | @raised t e ha =>
    have hnone : supersteps t = [] := by
      cases ha with
      | mergerRaised text hc => rfl
      | classifierRaised text hm => exact supersteps_classifying hm (.error text)
      | unhandled content hm hv => exact supersteps_classifying hm (.ok content)
    refine ⟨fun x hx => ?_, fun result hresult => ?_⟩
    · rw [supersteps_analyzed hnone] at hx
      rw [List.mem_singleton.1 hx]
      exact hs
    · cases hresult
  | @stopped tm intent v content hm hv hne =>
    refine ⟨fun x hx => ?_, fun result hresult => ?_⟩
    · rw [supersteps_classifyEvents content v hm] at hx
      rw [List.mem_singleton.1 hx]
      exact hs
    · cases hresult
      have hended := hs.classified (v := v) intent fun q hq => lt_of_verdict_ask (hq ▸ hv)
      rwa [if_neg hne] at hended
  | @attempted tm intent t o content hm hv ha =>
    have hstage := hs.classified (v := .answerable) intent fun q hq => by cases hq
    rw [if_pos rfl] at hstage
    obtain ⟨hrest, hended⟩ := attempts_stages ha hstage
    refine ⟨Staged.append (fun x hx => ?_) hrest, hended⟩
    rw [supersteps_classifyEvents content _ hm] at hx
    rw [List.mem_singleton.1 hx]
    exact hs

end Runs

end UniversityQA.Agent
