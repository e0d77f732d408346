import UniversityQA.Api.Sessions

/-!
# Failed requests and the session store

A request that fails inside the graph leaves the store alone.  One whose
response cannot be built has already saved its turn.

* `failed_request_keeps_store_iff`: a request leaves no trace when it fails,
  exactly when what the classifier puts in front of the user is a text or
  null;
* `failed_request_saves`: a clarification question that is a number.
-/

namespace UniversityQA.Guarantees

open UniversityQA.Py UniversityQA.Agent UniversityQA.Api Coroutine

/-- What the verdict shows of the classifier's reply is a text or null. -/
def ShowsText (app : App) (history : ConversationHistory) (tr : List ChatEvent) : Prop :=
  ∀ content v a, .ok content ∈ repliesTo Prompt.isClassifier (agentEvents tr) →
    verdict history.phase.count app.settings.maxClarificationRounds content = .ok v →
    v.shown = some a → Presentable a

/-- A saved turn shows. -/
theorem save_nextHistory_ne (st : SessionStore) (req : ChatRequest) (result : AgentState) :
    st.save req.sessionId (nextHistory (st.get req.sessionId) req result) ≠ st := by
  intro h
  have hlength := congrArg (fun s => (s.get req.sessionId).turns.length) h
  simp [nextHistory] at hlength

/-- **Failed requests.** -/
theorem failed_request_keeps_store_iff (app : App) (st : SessionStore) (req : ChatRequest)
    {tr : List ChatEvent} {o : Except PyException ChatReply} {st' : SessionStore}
    (h : Exec chatStep st (chat app req) tr o st') :
    ((∀ e, o = .error e → st' = st) ↔ ShowsText app (st.get req.sessionId) tr) := by
  cases chat_turn h with
  | failed hsaves hanswerable =>
    refine ⟨fun _ content v a hmem hv hshown => ?_, fun _ _ _ => rfl⟩
    have hva := hanswerable content v hmem hv
    rw [hva] at hshown
    cases hshown
  | @completed schemaContext traceId intent content v result hcalls hv hc hsaves =>
    have hreplies : repliesTo Prompt.isClassifier (agentEvents tr) = [.ok content] := by
      rw [repliesTo, hcalls]
      rfl
    have hshows : ShowsText app (st.get req.sessionId) tr ↔ Presentable result.answer := by
      rw [presentable_of_shown hc]
      constructor
      · intro hall a ha
        exact hall content v a (by rw [hreplies]; exact List.mem_singleton_self _) hv ha
      · intro hall content' v' a hmem hv' ha
        rw [hreplies] at hmem
        cases List.mem_singleton.mp hmem
        rw [hv] at hv'
        cases hv'
        exact hall a ha
    rw [hshows]
    constructor
    · intro hkeeps
      by_contra hp
      obtain ⟨e, he⟩ := (respond_error_iff req traceId result).mpr hp
      exact save_nextHistory_ne st req result (hkeeps e he)
    · intro hp e he
      exact absurd hp ((respond_error_iff req traceId result).mp ⟨e, he⟩)

/-- The classifier asks back with a number. -/
def asksNumber : World :=
  sampleWorld (scripted ""
    "\x7b\"status\": \"ambiguous\", \"clarification_question\": 5\x7d" "" "" (.ok []))

/-- The request of the sample in that world. -/
def numberRun : Except PyException ChatReply × List ChatEvent × (SessionStore × Nat) :=
  run asksNumber.handle (SessionStore.empty, 0) (chat sampleApp sampleRequest)

theorem numberRun_error : ∃ e, numberRun.1 = .error e := by
  have hnone : numberRun.1.toOption = none := by decide +kernel
  cases ho : numberRun.1 with
  | ok reply => rw [ho] at hnone; cases hnone
  | error e => exact ⟨e, rfl⟩

theorem numberRun_store : numberRun.2.2.1 ≠ SessionStore.empty := by
  intro h
  have hlength : (numberRun.2.2.1.get "s").turns.length = 2 := by decide +kernel
  rw [h] at hlength
  cases hlength

/-- The response cannot be built, and yet the session has been saved. -/
theorem failed_request_saves :
    Exec chatStep SessionStore.empty (chat sampleApp sampleRequest) numberRun.2.1 numberRun.1
        numberRun.2.2.1 ∧
      (∃ e, numberRun.1 = .error e) ∧ numberRun.2.2.1 ≠ SessionStore.empty :=
  ⟨asksNumber.run_exec (SessionStore.empty, 0) (chat sampleApp sampleRequest), numberRun_error,
    numberRun_store⟩

/-- The number is what the condition rules out. -/
theorem failed_request_keeps_store_iff_number :
    ¬ ShowsText sampleApp (SessionStore.empty.get sampleRequest.sessionId) numberRun.2.1 := by
  intro hshows
  obtain ⟨e, he⟩ := numberRun_error
  exact numberRun_store ((failed_request_keeps_store_iff sampleApp SessionStore.empty sampleRequest
    (asksNumber.run_exec (SessionStore.empty, 0) _)).mpr hshows e he)

end UniversityQA.Guarantees
