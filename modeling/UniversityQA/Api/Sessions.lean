import UniversityQA.Agent.Runs
import UniversityQA.Api.Routes

/-!
# What a session is to its next request

A stored history speaks to the next request in two ways only: by its turns,
and by its `Phase`, which is either `fresh` or the clarification question that
waits for a reply, with the intent it is about and the number of questions
asked so far.  `Phase` is the abstract state of a session; the stored fields
are one way to write it down.

* `initialState_accumulatedIntent` and its neighbours: a request reads the
  stored fields through the phase;
* `chat_turn`: it moves the phase as the verdict on its classifier reply says,
  or leaves the store alone;
* `chat_calls`: what it asks the merger and the classifier.
-/

namespace UniversityQA.Api

open UniversityQA.Py UniversityQA.Agent Coroutine Service

inductive Phase where
  | fresh
  | asked (intent : Option String) (clarification : Json) (count : Int)
  deriving DecidableEq

namespace Phase

def intent : Phase → Option String
  | fresh => none
  | asked intent _ _ => intent

def clarification : Phase → Json
  | fresh => .null
  | asked _ clarification _ => clarification

def count : Phase → Int
  | fresh => 0
  | asked _ _ count => count

/-- The phase after a request whose classifier was asked about `intent`. -/
def next (p : Phase) (intent : String) : Verdict → Phase
  | .ask clarificationQ => asked (some intent) clarificationQ (p.count + 1)
  | _ => fresh

theorem next_of_ne (p : Phase) (intent : String) {v : Verdict} (hv : ∀ q, v ≠ .ask q) :
    p.next intent v = .fresh := by
  cases v with
  | ask q => exact absurd rfl (hv q)
  | undecodable => rfl
  | answerable => rfl
  | limitReached => rfl
  | outOfScope reason => rfl

end Phase

/-- The phase a stored history stands for. -/
def ConversationHistory.phase (h : ConversationHistory) : Phase :=
  if h.lastStatus = .askingClarification then
    .asked h.accumulatedIntent h.lastClarificationQuestion h.ambiguityCount
  else .fresh

theorem phase_of_ne {h : ConversationHistory} (hs : h.lastStatus ≠ .askingClarification) :
    h.phase = .fresh := if_neg hs

theorem phase_of_eq {h : ConversationHistory} (hs : h.lastStatus = .askingClarification) :
    h.phase = .asked h.accumulatedIntent h.lastClarificationQuestion h.ambiguityCount := if_pos hs

theorem phase_eq_fresh_iff (h : ConversationHistory) :
    h.phase = .fresh ↔ h.lastStatus ≠ .askingClarification := by
  constructor
  · intro hp hs
    rw [phase_of_eq hs] at hp
    cases hp
  · exact phase_of_ne

/-! ## The initial state reads the phase -/

section InitialState

variable (app : App) (schemaContext traceId : String) (h : ConversationHistory) (req : ChatRequest)

theorem initialState_accumulatedIntent :
    (initialState app schemaContext h traceId req).accumulatedIntent = h.phase.intent := by
  unfold initialState ConversationHistory.phase
  by_cases hs : h.lastStatus = .askingClarification <;> simp only [hs, if_true, if_false] <;> rfl

theorem initialState_lastClarification :
    (initialState app schemaContext h traceId req).lastClarification = h.phase.clarification := by
  unfold initialState ConversationHistory.phase
  by_cases hs : h.lastStatus = .askingClarification <;> simp only [hs, if_true, if_false] <;> rfl

theorem initialState_ambiguityCount :
    (initialState app schemaContext h traceId req).ambiguityCount = h.phase.count := by
  unfold initialState ConversationHistory.phase
  by_cases hs : h.lastStatus = .askingClarification <;> simp only [hs, if_true, if_false] <;> rfl

end InitialState

/-! ## The events of the agent -/

/-- The events of the graph run inside a request. -/
def agentEvents : List ChatEvent → List AgentEvent :=
  List.filterMap fun
    | ⟨.inl q, a⟩ => some ⟨q, a⟩
    | ⟨.inr _, _⟩ => none

theorem agentEvents_inl (t : List AgentEvent) : agentEvents (t.map Event.inl) = t := by
  induction t with
  | nil => rfl
  | cons e t ih => exact congrArg (e :: ·) ih

theorem agentEvents_append (t₁ t₂ : List ChatEvent) :
    agentEvents (t₁ ++ t₂) = agentEvents t₁ ++ agentEvents t₂ := List.filterMap_append

/-- Up to the end of the graph run. -/
theorem agentEvents_loaded (schemaContext traceId : String) (h : ConversationHistory)
    (req : ChatRequest) (t : List AgentEvent) :
    agentEvents (loadEvents schemaContext h traceId req ++ t.map Event.inl) = t := by
  rw [agentEvents_append, agentEvents_inl]
  rfl

theorem agentEvents_request (schemaContext traceId : String) (h : ConversationHistory)
    (req : ChatRequest) (t : List AgentEvent) (rest : List ChatEvent) (hrest : agentEvents rest = []) :
    agentEvents (loadEvents schemaContext h traceId req ++ t.map Event.inl ++ rest) = t := by
  rw [agentEvents_append, agentEvents_loaded, hrest, List.append_nil]

/-! ## A request and the phase -/

/-- What `ChatResponse` takes for an answer. -/
def Presentable (answer : Json) : Prop := answer = .null ∨ ∃ text, answer = .str text

theorem respond_ok {req : ChatRequest} {traceId : String} {result : AgentState} {reply : ChatReply}
    (h : respond req traceId result = .ok reply) :
    reply.body.status = result.status ∧
      ((result.answer = .null ∧ reply.body.answer = none) ∨
        ∃ text, result.answer = .str text ∧ reply.body.answer = some text) := by
  unfold respond ChatResponse.build at h
  cases ha : result.answer with
  | null => rw [ha] at h; cases h; exact ⟨rfl, .inl ⟨rfl, rfl⟩⟩
  | str text => rw [ha] at h; cases h; exact ⟨rfl, .inr ⟨text, rfl, rfl⟩⟩
  | bool b => rw [ha] at h; cases h
  | int n => rw [ha] at h; cases h
  | float f => rw [ha] at h; cases h
  | arr xs => rw [ha] at h; cases h
  | obj o => rw [ha] at h; cases h

/-- The response is built exactly when the answer is presentable. -/
theorem respond_error_iff (req : ChatRequest) (traceId : String) (result : AgentState) :
    (∃ e, respond req traceId result = .error e) ↔ ¬ Presentable result.answer := by
  unfold respond ChatResponse.build Presentable
  cases ha : result.answer <;> simp

theorem presentable_of_shown {s result : AgentState} {intent : String} {v : Verdict}
    (h : Concludes s intent v result) :
    Presentable result.answer ↔ ∀ a, v.shown = some a → Presentable a := by
  cases h with
  | stopped hne =>
    cases v with
    | answerable => exact absurd rfl hne
    | undecodable => exact ⟨fun _ a ha => (by cases ha), fun _ => .inr ⟨_, rfl⟩⟩
    | limitReached => exact ⟨fun _ a ha => (by cases ha), fun _ => .inr ⟨_, rfl⟩⟩
    | ask q => exact ⟨fun hp a ha => (by cases ha; exact hp), fun hall => hall q rfl⟩
    | outOfScope reason => exact ⟨fun hp a ha => (by cases ha; exact hp), fun hall => hall reason rfl⟩
  | attempted hstatus hanswer => exact ⟨fun _ a ha => (by cases ha), fun _ => .inr hanswer⟩

/-- The saved phase is the next one. -/
theorem nextHistory_phase (app : App) (schemaContext traceId : String) (h : ConversationHistory)
    (req : ChatRequest) {intent : String} {v : Verdict} {result : AgentState}
    (hc : Concludes (initialState app schemaContext h traceId req) intent v result) :
    (nextHistory h req result).phase = h.phase.next intent v := by
  cases hc with
  | stopped hne =>
    cases v with
    | answerable => exact absurd rfl hne
    | ask q =>
      rw [Phase.next, ← initialState_ambiguityCount app schemaContext traceId h req]
      rfl
    | undecodable => rfl
    | limitReached => rfl
    | outOfScope reason => rfl
  | attempted hstatus hanswer =>
    refine phase_of_ne ?_
    change result.status ≠ .askingClarification
    rcases hstatus with hs | hs <;> rw [hs] <;> simp

/-- The histories saved for a session, in order. -/
def saves (sessionId : String) : List ChatEvent → List ConversationHistory :=
  List.filterMap fun
    | ⟨.inr (.saveSession k history), _⟩ => if k = sessionId then some history else none
    | _ => none

theorem saves_inl (sessionId : String) (t : List AgentEvent) :
    saves sessionId (t.map Event.inl) = [] := by
  induction t with
  | nil => rfl
  | cons e t ih => exact ih

theorem saves_append (sessionId : String) (t₁ t₂ : List ChatEvent) :
    saves sessionId (t₁ ++ t₂) = saves sessionId t₁ ++ saves sessionId t₂ := List.filterMap_append

theorem saves_loaded (sessionId schemaContext traceId : String) (h : ConversationHistory)
    (req : ChatRequest) (t : List AgentEvent) :
    saves sessionId (loadEvents schemaContext h traceId req ++ t.map Event.inl) = [] := by
  rw [saves_append, saves_inl]
  rfl

theorem saves_request (sessionId schemaContext traceId : String) (h : ConversationHistory)
    (req : ChatRequest) (t : List AgentEvent) (rest : List ChatEvent) :
    saves sessionId (loadEvents schemaContext h traceId req ++ t.map Event.inl ++ rest) =
      saves sessionId rest := by
  rw [saves_append, saves_loaded, List.nil_append]

/-- What a request does to its session, by the verdict on the classifier's
reply: `failed` is a graph run that raised. -/
inductive ChatTurn (app : App) (st : SessionStore) (req : ChatRequest) (tr : List ChatEvent) :
    Except PyException ChatReply → SessionStore → Prop
  | failed : (∀ sessionId, saves sessionId tr = []) →
      (∀ content v, .ok content ∈ repliesTo Prompt.isClassifier (agentEvents tr) →
        verdict (st.get req.sessionId).phase.count app.settings.maxClarificationRounds content = .ok v →
        v = .answerable) →
      ChatTurn app st req tr (.error internalError) st
  | completed {schemaContext traceId intent content v result} :
      callsTo Prompt.isClassifier (agentEvents tr) =
        [(.classifier intent schemaContext, .ok content)] →
      verdict (st.get req.sessionId).phase.count app.settings.maxClarificationRounds content = .ok v →
      Concludes (initialState app schemaContext (st.get req.sessionId) traceId req) intent v result →
      (∀ sessionId, saves sessionId tr =
        if req.sessionId = sessionId then [nextHistory (st.get req.sessionId) req result] else []) →
      ChatTurn app st req tr (respond req traceId result)
        (st.save req.sessionId (nextHistory (st.get req.sessionId) req result))

/-- **Turns.** -/
theorem chat_turn {app : App} {st st' : SessionStore} {req : ChatRequest} {tr : List ChatEvent}
    {o : Except PyException ChatReply} (h : Exec chatStep st (chat app req) tr o st') :
    ChatTurn app st req tr o st' := by
  cases chat_run h with
  | @failed t e schemaContext traceId hrun =>
    refine .failed (fun sessionId => saves_loaded ..) fun content v hmem hv => ?_
    rw [agentEvents_loaded] at hmem
    rw [← initialState_ambiguityCount app schemaContext traceId _ req] at hv
    exact graphRun_error_verdict (ainvoke_run hrun) hmem hv
  | @completed t result schemaContext traceId hrun =>
    have hagent := agentEvents_request schemaContext traceId (st.get req.sessionId) req t
      [saved req.sessionId (nextHistory (st.get req.sessionId) req result)] rfl
    obtain ⟨tm, intent, content, v, hm, hcalls, hv, hc⟩ := graphRun_concludes (ainvoke_run hrun)
    rw [initialState_ambiguityCount] at hv
    refine .completed (by rw [hagent]; exact hcalls) hv hc fun sessionId => ?_
    rw [saves_request]
    by_cases hk : req.sessionId = sessionId <;> simp [saves, saved, hk]

/-- The events of the graph run, whatever came of the request. -/
theorem chat_agentEvents {app : App} {st st' : SessionStore} {req : ChatRequest}
    {tr : List ChatEvent} {o : Except PyException ChatReply}
    (h : Exec chatStep st (chat app req) tr o st') :
    ∃ schemaContext traceId o', GraphRun app.configurable
      (initialState app schemaContext (st.get req.sessionId) traceId req) (agentEvents tr) o' := by
  cases chat_run h with
  | @failed t e schemaContext traceId hrun =>
    rw [agentEvents_loaded]
    exact ⟨schemaContext, traceId, .error e, ainvoke_run hrun⟩
  | @completed t result schemaContext traceId hrun =>
    rw [agentEvents_request schemaContext traceId (st.get req.sessionId) req t _ rfl]
    exact ⟨schemaContext, traceId, .ok result, ainvoke_run hrun⟩

/-- **Prompts.**  In a session that waits for a reply the merger gets the
phase; in every other the classifier is asked right away. -/
theorem chat_calls {app : App} {st st' : SessionStore} {req : ChatRequest} {tr : List ChatEvent}
    {o : Except PyException ChatReply} (h : Exec chatStep st (chat app req) tr o st') :
    ((st.get req.sessionId).phase.clarification = .null ∧
        callsTo Prompt.isMerger (agentEvents tr) = [] ∧
        ∃ schemaContext reply, callsTo Prompt.isClassifier (agentEvents tr) =
          [(.classifier (orElse (st.get req.sessionId).phase.intent req.question) schemaContext,
            reply)]) ∨
      ((st.get req.sessionId).phase.clarification ≠ .null ∧
        ∃ reply, callsTo Prompt.isMerger (agentEvents tr) =
          [(.merger (st.get req.sessionId).phase.intent (st.get req.sessionId).phase.clarification
            req.question, reply)]) := by
  obtain ⟨schemaContext, traceId, o', hg⟩ := chat_agentEvents h
  have hintent := initialState_accumulatedIntent app schemaContext traceId (st.get req.sessionId) req
  have hclar := initialState_lastClarification app schemaContext traceId (st.get req.sessionId) req
  have hprompt : mergerPrompt (initialState app schemaContext (st.get req.sessionId) traceId req) =
      .merger (st.get req.sessionId).phase.intent (st.get req.sessionId).phase.clarification
        req.question := by
    rw [mergerPrompt, hintent, hclar]
    rfl
  rcases graphRun_callsTo hg with ⟨text, hc, hcalls, _⟩ | ⟨tm, intent, reply, hm, hmerger, hclass⟩
  · rw [hclar] at hc
    rw [hprompt] at hcalls
    exact .inr ⟨hc, _, hcalls⟩
  · cases hm with
    | continuation content hc =>
      rw [hclar] at hc
      refine .inr ⟨hc, .ok content, ?_⟩
      rw [hmerger, ← hprompt]
      rfl
    | fresh hc =>
      rw [hclar] at hc
      refine .inl ⟨hc, hmerger, schemaContext, reply, ?_⟩
      rw [hclass, hintent]
      rfl

end UniversityQA.Api
