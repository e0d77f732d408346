import UniversityQA.Agent.Runs
import UniversityQA.Api.Routes

/-!
# The protocol of external calls

A run in which the chat model never raises and the classifier replies with an
object or with undecodable text makes a fixed pattern of calls.

* `AttemptsEnd`: the three ways the retry loop ends, with `limit` retries
  left; `attempts_end` is the induction over its rounds;
* `FollowsProtocol`: the pattern of a whole run;
* `call_protocol`: every run follows it, no bound on the supersteps is felt
  and no status is without an edge.
-/

namespace UniversityQA.Guarantees

open UniversityQA.Py UniversityQA.Db UniversityQA.Agent UniversityQA.Api Coroutine StateGraph

/-! ## What is asked of a run -/

/-- No call of the chat model raises. -/
def NoLlmRaises (tr : List AgentEvent) : Prop :=
  ∀ prompt text, (prompt, .error text) ∉ replies tr

/-- A JSON object or no JSON at all. -/
def Readable (content : String) : Prop :=
  (∃ parsed, loads content = .ok (.obj parsed)) ∨ loads content = .error .decode

def ReadableClassifier (tr : List AgentEvent) : Prop :=
  ∀ intent schemaContext content,
    (.classifier intent schemaContext, .ok content) ∈ replies tr → Readable content

theorem noLlmRaises_append {t₁ t₂ : List AgentEvent} :
    NoLlmRaises (t₁ ++ t₂) ↔ NoLlmRaises t₁ ∧ NoLlmRaises t₂ := by
  unfold NoLlmRaises
  simp only [replies_append, List.mem_append, not_or, forall_and]

/-- A readable reply has a verdict. -/
theorem Readable.verdict_ne_error {content : String} (h : Readable content)
    (ambiguityCount maxRounds : Int) (e : PyException) :
    verdict ambiguityCount maxRounds content ≠ .error e := by
  unfold verdict
  rcases h with ⟨parsed, hp⟩ | hp
  · rw [hp]
    dsimp only
    split
    · simp
    · split
      · simp
      · split <;> simp
  · rw [hp]
    simp

/-! ## The retry loop -/

/-- `j` times a query is generated and fails. -/
def failedRounds : Nat → List Call
  | 0 => []
  | j + 1 => .generate :: .execute false :: failedRounds j

theorem count_failedRounds (j : Nat) : (failedRounds j).count (.execute false) = j := by
  induction j with
  | zero => rfl
  | succ j ih => simp [failedRounds, ih]

/-- The SQL of the last generator reply is refused. -/
def LastSqlRejected (tr : List AgentEvent) : Prop :=
  ∃ content message, (repliesTo Prompt.isSql tr).getLast? = some (.ok content) ∧
    validateSql (strip content) = (false, some message)

/-- The last superstep is one of the node. -/
def EndsAt (node : Node) (tr : List AgentEvent) : Prop :=
  ∃ x, (supersteps tr).getLast? = some (node, x)

theorem EndsAt.append {node : Node} {tr : List AgentEvent} (h : EndsAt node tr)
    (t : List AgentEvent) : EndsAt node (t ++ tr) := by
  obtain ⟨x, hx⟩ := h
  refine ⟨x, ?_⟩
  rw [supersteps_append, List.getLast?_append, hx]
  rfl

theorem EndsAt.unique {m n : Node} {tr : List AgentEvent} (hm : EndsAt m tr) (hn : EndsAt n tr) :
    m = n := by
  obtain ⟨x, hx⟩ := hm
  obtain ⟨y, hy⟩ := hn
  rw [hx] at hy
  cases hy
  rfl

theorem LastSqlRejected.append {tr : List AgentEvent} (h : LastSqlRejected tr)
    (t : List AgentEvent) : LastSqlRejected (t ++ tr) := by
  obtain ⟨content, message, hl, hv⟩ := h
  refine ⟨content, message, ?_, hv⟩
  rw [repliesTo_append, List.getLast?_append, hl]
  rfl

/-- How the loop ends with `limit` retries left. -/
inductive AttemptsEnd (limit : Nat) (tr : List AgentEvent) (result : AgentState) : Prop
  | rejected (j : Nat) : j ≤ limit → calls tr = failedRounds j ++ [.generate] →
      LastSqlRejected tr → EndsAt .sqlValidator tr → result.status = .error →
      AttemptsEnd limit tr result
  | answered (j : Nat) : j ≤ limit →
      calls tr = failedRounds j ++ [.generate, .execute true, .format] →
      EndsAt .answerFormatter tr → result.status = .done → AttemptsEnd limit tr result
  | exhausted : calls tr = failedRounds (limit + 1) → EndsAt .sqlExecutor tr →
      result.status = .error → result.answer = .str executionError → AttemptsEnd limit tr result

/-- A failed round in front uses one retry up. -/
theorem AttemptsEnd.retried {limit : Nat} {tr round : List AgentEvent} {result : AgentState}
    (h : AttemptsEnd limit tr result) (hround : calls round = [.generate, .execute false]) :
    AttemptsEnd (limit + 1) (round ++ tr) result := by
  cases h with
  | rejected j hj hc hr he hs =>
    refine .rejected (j + 1) (by omega) ?_ (hr.append round) (he.append round) hs
    rw [calls_append, hround, hc]
    rfl
  | answered j hj hc he hs =>
    refine .answered (j + 1) (by omega) ?_ (he.append round) hs
    rw [calls_append, hround, hc]
    rfl
  | exhausted hc he hs ha =>
    refine .exhausted ?_ (he.append round) hs ha
    rw [calls_append, hround, hc]
    rfl

theorem attempts_end {c : Configurable} {s : AgentState} {tr : List AgentEvent}
    {o : Except PyException AgentState} (h : Attempts c s tr o) (hllm : NoLlmRaises tr) :
    ∃ result, o = .ok result ∧ AttemptsEnd (c.maxRetries - s.retryCount).toNat tr result := by
  induction h with
  | @generatorRaised s text => exact absurd (List.mem_singleton.mpr rfl) (hllm (sqlPrompt s c) text)
  | @rejected s content message hv =>
    exact ⟨_, rfl, .rejected 0 (by omega) rfl ⟨content, message, rfl, hv⟩ ⟨_, rfl⟩ rfl⟩
  | @exhausted s content errorMsg hv hr =>
    have hlimit : (c.maxRetries - s.retryCount).toNat = 0 := by omega
    rw [hlimit]
    exact ⟨_, rfl, .exhausted rfl ⟨_, rfl⟩ rfl rfl⟩
  | @formatterRaised s f content results text hv hf =>
    have hlast := (noLlmRaises_append.mp hllm).2
    exact absurd (List.mem_singleton.mpr rfl) (hlast (answerPrompt f c) text)
  | @answered s f content results answer hv hf =>
    exact ⟨_, rfl, .answered 0 (by omega) rfl ⟨_, rfl⟩ rfl⟩
  | @retried s tr o content errorMsg hv hr ha ih =>
    obtain ⟨result, ho, hend⟩ := ih (noLlmRaises_append.mp hllm).2
    rw [AgentState.retryCount_retried, AgentState.retryCount_approved] at hend
    have hlimit : (c.maxRetries - s.retryCount).toNat =
        (c.maxRetries - (s.retryCount + 1)).toNat + 1 := by omega
    rw [hlimit]
    exact ⟨result, ho, hend.retried rfl⟩

/-! ## The analyzer -/

theorem calls_merges {c : Configurable} {s : AgentState} {tm : List AgentEvent} {intent : String}
    (h : Merges s c tm intent) : calls tm = [] ∨ calls tm = [.merger] := by
  cases h with
  | continuation content hc => exact .inr rfl
  | fresh hc => exact .inl rfl

theorem calls_classifyEvents (c : Configurable) (s : AgentState) (tm : List AgentEvent)
    (intent content : String) (v : Verdict) :
    calls (classifyEvents c s tm intent content v) = calls tm ++ [.classifier] := by
  have hstart : calls (entered .questionAnalyzer s :: analyzerStart s :: tm) = calls tm := rfl
  rw [classifyEvents, calls_append, hstart]
  cases v <;> rfl

theorem endsAt_classifyEvents (c : Configurable) (s : AgentState) {tm : List AgentEvent}
    {intent : String} (content : String) (v : Verdict) (h : Merges s c tm intent) :
    EndsAt .questionAnalyzer (classifyEvents c s tm intent content v) := by
  refine ⟨s, ?_⟩
  have hsteps : supersteps (classifyEvents c s tm intent content v) = [(.questionAnalyzer, s)] := by
    cases h <;> cases v <;> rfl
  rw [hsteps]
  rfl

/-- The analyzer raises only what is ruled out here. -/
theorem analyzerRun_ne_error {c : Configurable} {s : AgentState} {t : List AgentEvent}
    {e : PyException} (hllm : NoLlmRaises (entered .questionAnalyzer s :: t))
    (hread : ReadableClassifier (entered .questionAnalyzer s :: t)) :
    ¬ AnalyzerRun s c t (.error e) := by
  intro h
  cases h with
  | mergerRaised text hc => exact hllm (mergerPrompt s) text (List.mem_singleton.mpr rfl)
  | @classifierRaised tm intent text hm =>
    refine hllm (.classifier intent s.schemaContext) text ?_
    rw [← List.cons_append, replies_append]
    exact List.mem_append_right _ (List.mem_singleton.mpr rfl)
  | @unhandled tm intent _ content hm hv =>
    refine (hread intent s.schemaContext content ?_).verdict_ne_error s.ambiguityCount c.maxRounds e hv
    rw [← List.cons_append, replies_append]
    exact List.mem_append_right _ (List.mem_singleton.mpr rfl)

/-! ## Whole runs -/

/-- The run ends with the executor giving up. -/
def ReportsExecutionFailure (tr : List AgentEvent) (result : AgentState) : Prop :=
  EndsAt .sqlExecutor tr ∧ result.status = .error ∧ result.answer = .str executionError

theorem reportsExecutionFailure_iff {tr : List AgentEvent} {node : Node} (hend : EndsAt node tr)
    (hnode : node ≠ .sqlExecutor) (result : AgentState) {m n : Int} (hne : m ≠ n) :
    ReportsExecutionFailure tr result ↔ m = n := by
  refine iff_of_false (fun hreports => ?_) hne
  exact hnode (hend.unique hreports.1)

/-- The pattern of calls for the retry limit `r`. -/
structure FollowsProtocol (r : Int) (tr : List AgentEvent) (result : AgentState) : Prop where
  shape : ∃ front rest, (front = [] ∨ front = [.merger]) ∧ calls tr = front ++ .classifier :: rest ∧
    ((rest = [] ∧ (result.status = .askingClarification ∨ result.status = .error)) ∨
      ∃ j : Nat,
        (rest = failedRounds j ++ [.generate] ∧ j ≤ max r 0 ∧ LastSqlRejected tr ∧
          result.status = .error) ∨
        (rest = failedRounds j ++ [.generate, .execute true, .format] ∧ j ≤ max r 0 ∧
          result.status = .done) ∨
        (rest = failedRounds j ∧ j = max r 0 + 1 ∧ result.status = .error))
  executions : (queries tr).length ≤ max r 0 + 1
  executionFailure :
    ReportsExecutionFailure tr result ↔ (calls tr).count (.execute false) = max r 0 + 1
  finalStatus : result.status = .done ∨ result.status = .askingClarification ∨
    result.status = .error

theorem countP_failedRounds (j : Nat) : (failedRounds j).countP Call.isExecute = j := by
  induction j with
  | zero => rfl
  | succ j ih => simp [failedRounds, List.countP_cons, Call.isExecute, ih]

theorem followsProtocol_stopped (r : Int) {c : Configurable} {s : AgentState}
    {tm : List AgentEvent} {intent : String} (content : String) {v : Verdict}
    (hm : Merges s c tm intent) (hne : v ≠ .answerable) :
    FollowsProtocol r (classifyEvents c s tm intent content v) (s.classified v intent) := by
  have hcalls := calls_classifyEvents c s tm intent content v
  have hstatus : (s.classified v intent).status = .askingClarification ∨
      (s.classified v intent).status = .error := by
    cases v with
    | answerable => exact absurd rfl hne
    | ask q => exact .inl rfl
    | undecodable => exact .inr rfl
    | limitReached => exact .inr rfl
    | outOfScope reason => exact .inr rfl
  refine ⟨⟨calls tm, [], calls_merges hm, hcalls, .inl ⟨rfl, hstatus⟩⟩, ?_, ?_, .inr hstatus⟩
  · rw [queries_classifyEvents content v hm, List.length_nil]
    omega
  · have hcount : (calls (classifyEvents c s tm intent content v)).count (.execute false) = 0 := by
      rw [hcalls]
      rcases calls_merges hm with h | h <;> rw [h] <;> rfl
    rw [hcount]
    exact reportsExecutionFailure_iff (endsAt_classifyEvents c s content v hm) (by simp) _ (by omega)

theorem followsProtocol_attempted {r : Int} {c : Configurable} {s result : AgentState}
    {tm t : List AgentEvent} {intent : String} (content : String) (hm : Merges s c tm intent)
    (h : AttemptsEnd (max r 0).toNat t result) :
    FollowsProtocol r (classifyEvents c s tm intent content .answerable ++ t) result := by
  have hfront := calls_merges hm
  have hcalls : calls (classifyEvents c s tm intent content .answerable ++ t) =
      calls tm ++ .classifier :: calls t := by
    rw [calls_append, calls_classifyEvents, List.append_assoc, List.singleton_append]
  have hexec : (queries (classifyEvents c s tm intent content .answerable ++ t)).length =
      (calls t).countP Call.isExecute := by
    rw [queries_append, queries_classifyEvents content _ hm, List.nil_append, length_queries]
  have hcount : (calls (classifyEvents c s tm intent content .answerable ++ t)).count
      (.execute false) = (calls t).count (.execute false) := by
    rw [hcalls]
    rcases hfront with h | h <;> rw [h] <;> simp
  cases h with
  | rejected j hj hc hr he hs =>
    refine ⟨⟨calls tm, calls t, hfront, hcalls, .inr ⟨j, .inl ⟨hc, by omega, hr.append _, hs⟩⟩⟩, ?_, ?_,
      .inr (.inr hs)⟩
    · have hlast : [Call.generate].countP Call.isExecute = 0 := rfl
      rw [hexec, hc, List.countP_append, countP_failedRounds, hlast]
      omega
    · have hlast : [Call.generate].count (.execute false) = 0 := rfl
      rw [hcount, hc, List.count_append, count_failedRounds, hlast]
      exact reportsExecutionFailure_iff (he.append _) (by simp) _ (by omega)
  | answered j hj hc he hs =>
    refine ⟨⟨calls tm, calls t, hfront, hcalls, .inr ⟨j, .inr (.inl ⟨hc, by omega, hs⟩)⟩⟩, ?_, ?_,
      .inl hs⟩
    · have hlast : [Call.generate, .execute true, .format].countP Call.isExecute = 1 := rfl
      rw [hexec, hc, List.countP_append, countP_failedRounds, hlast]
      omega
    · have hlast : [Call.generate, .execute true, .format].count (.execute false) = 0 := rfl
      rw [hcount, hc, List.count_append, count_failedRounds, hlast]
      exact reportsExecutionFailure_iff (he.append _) (by simp) _ (by omega)
  | exhausted hc he hs ha =>
    refine ⟨⟨calls tm, calls t, hfront, hcalls,
      .inr ⟨(max r 0).toNat + 1, .inr (.inr ⟨hc, by omega, hs⟩)⟩⟩, ?_, ?_, .inr (.inr hs)⟩
    · rw [hexec, hc, countP_failedRounds]
      omega
    · rw [hcount, hc, count_failedRounds]
      constructor
      · intro _
        omega
      · intro _
        exact ⟨he.append _, hs, ha⟩

theorem graphRun_followsProtocol {c : Configurable} {s : AgentState} {tr : List AgentEvent}
    {o : Except PyException AgentState} (h : GraphRun c s tr o) (hs : s.retryCount = 0)
    (hllm : NoLlmRaises tr) (hread : ReadableClassifier tr) :
    ∃ result, o = .ok result ∧ FollowsProtocol c.maxRetries tr result := by
  cases h with
  | raised ha => exact absurd ha (analyzerRun_ne_error hllm hread)
  | stopped content hm hv hne => exact ⟨_, rfl, followsProtocol_stopped _ content hm hne⟩
  | attempted content hm hv ha =>
    obtain ⟨result, ho, hend⟩ := attempts_end ha (noLlmRaises_append.mp hllm).2
    have hlimit : (c.maxRetries - 0).toNat = (max c.maxRetries 0).toNat := by omega
    rw [AgentState.retryCount_classified, hs, hlimit] at hend
    exact ⟨result, ho, followsProtocol_attempted content hm hend⟩

/-- Whatever a node returns, an edge leads on from there. -/
theorem next_of_returns {c : Configurable} {n : Node} {s : AgentState} {u : StateUpdate}
    (h : ((buildGraph c).node n s).Returns u) :
    ∃ target, ((buildGraph c).edges n).next (s.merge u) = .ok target := by
  obtain ⟨tr, hr⟩ := returns_iff_runs.mp h
  cases n with
  | questionAnalyzer =>
    cases questionAnalyzer_run hr with
    | classified content hm hv => exact ⟨_, next_verdict _ _ _ _⟩
  | sqlGenerator => exact ⟨_, rfl⟩
  | sqlValidator => cases sqlValidator_run hr <;> exact ⟨_, rfl⟩
  | sqlExecutor => cases sqlExecutor_run hr <;> exact ⟨_, rfl⟩
  | answerFormatter => exact ⟨_, rfl⟩

/-- **The protocol.**  For every state `chat` starts the graph in: no bound on
the supersteps is felt, every status has an edge, and every run in which the
chat model does not raise and the classifier is readable returns a state and
follows the protocol. -/
theorem call_protocol (app : App) (schemaContext traceId : String) (history : ConversationHistory)
    (req : ChatRequest) :
    let graph := buildGraph app.configurable
    let state := initialState app schemaContext history traceId req
    (∀ fuel, superstepBound app.configurable state ≤ fuel →
      graph.invoke fuel graph.entryPoint state = ainvokeGraph app.configurable state) ∧
    (∀ n s u, (graph.node n s).Returns u → ∃ target, (graph.edges n).next (s.merge u) = .ok target) ∧
    ∀ tr o, Runs (ainvokeGraph app.configurable state) tr o → NoLlmRaises tr →
      ReadableClassifier tr →
      ∃ result, o = .ok result ∧ FollowsProtocol app.settings.maxSqlRetries tr result := by
  refine ⟨ainvoke_stable _ _, fun _ _ _ => next_of_returns, ?_⟩
  intro tr o h hllm hread
  exact graphRun_followsProtocol (ainvoke_run h) rfl hllm hread

/-- In a scripted run nothing raises. -/
theorem sampleRun_noLlmRaises (w : Oracle) {merger classifier sql answer : String}
    {rows : Except String (List Row)} (hw : w = scripted merger classifier sql answer rows)
    (history : ConversationHistory) : NoLlmRaises (sampleRun history w).2.1 := by
  intro prompt text h
  rw [sampleRun] at h
  obtain ⟨_, _, hreply⟩ := replies_run w _ _ h
  rw [hw] at hreply
  cases prompt <;> cases hreply

theorem sampleRun_readable (w : Oracle) {merger classifier sql answer : String}
    {rows : Except String (List Row)} (hw : w = scripted merger classifier sql answer rows)
    (hclassifier : Readable classifier) (history : ConversationHistory) :
    ReadableClassifier (sampleRun history w).2.1 := by
  intro intent schemaContext content h
  rw [sampleRun] at h
  obtain ⟨_, _, hreply⟩ := replies_run w _ _ h
  rw [hw] at hreply
  cases hreply
  exact hclassifier

/-- A chat model whose queries all fail. -/
def failsAlways : Oracle :=
  scripted "" "\x7b\"status\": \"answerable\"\x7d" "SELECT 1" "" (.error "timeout")

/-- Its run uses both retries up. -/
theorem call_protocol_sample :
    calls (sampleRun {} failsAlways).2.1 = .classifier :: failedRounds 3 ∧
      ∃ result, (sampleRun {} failsAlways).1 = .ok result ∧
        FollowsProtocol 2 (sampleRun {} failsAlways).2.1 result := by
  refine ⟨by decide +kernel, ?_⟩
  have hloads : Readable "\x7b\"status\": \"answerable\"\x7d" :=
    .inl ⟨[("status", .str "answerable")], by decide +kernel⟩
  exact (call_protocol sampleApp "" "t" {} sampleRequest).2.2 _ _ (sampleRun_runs {} failsAlways)
    (sampleRun_noLlmRaises failsAlways rfl {}) (sampleRun_readable failsAlways rfl hloads {})

end UniversityQA.Guarantees
