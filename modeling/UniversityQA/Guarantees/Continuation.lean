import UniversityQA.Api.Sessions

/-!
# The reply to a clarification question

Whether a turn continues a clarification is decided by the stored fields; what
the user sees is the last response.  `Agrees` relates the two.

* `agreesInv_turn`: a request keeps them in agreement as long as the
  classifier puts a text in front of the user (`ShowsSafely`);
* `clarification_continuation`: then the merger runs exactly on a reply to a
  clarification question, with the intent, the question shown and the reply,
  and every other turn classifies the question alone;
* `null_clarification`: a clarification question that is null loses the reply.
-/

namespace UniversityQA.Guarantees

open UniversityQA.Py UniversityQA.Agent UniversityQA.Api Coroutine Service

/-- The turns of a session that were answered with a response, oldest first. -/
def completedTurns (sessionId : String) (past : List ChatExchange) : List (ChatExchange × ChatReply) :=
  past.filterMap fun x =>
    if x.req.sessionId = sessionId then x.outcome.toOption.map fun reply => (x, reply) else none

def previousTurn (sessionId : String) (past : List ChatExchange) : Option (ChatExchange × ChatReply) :=
  (completedTurns sessionId past).getLast?

/-- The previous turn was answered with a clarification question. -/
def AsksClarification (prev : Option (ChatExchange × ChatReply)) : Prop :=
  ∃ x reply, prev = some (x, reply) ∧ reply.body.status = .askingClarification

/-- What the classifier makes the turn show is a text: a clarification
question has to be one, and so has a reason that ends a clarification. -/
def ShowsSafely (app : App) (st : SessionStore) (x : ChatExchange) : Prop :=
  let p := (st.get x.req.sessionId).phase
  ∀ content v, .ok content ∈ repliesTo Prompt.isClassifier (agentEvents x.events) →
    verdict p.count app.settings.maxClarificationRounds content = .ok v →
    match v with
    | .ask clarificationQ => ∃ text, clarificationQ = .str text
    | .outOfScope reason => p = .fresh ∨ Presentable reason
    | _ => True

/-! ## What was shown and what is stored -/

/-- The previous turn against the phase of the session. -/
inductive Agrees : Option (ChatExchange × ChatReply) → Phase → Prop
  | waiting {x reply intent schemaContext r text count} :
      reply.body.status = .askingClarification →
      callsTo Prompt.isClassifier (agentEvents x.events) = [(.classifier intent schemaContext, r)] →
      reply.body.answer = some text →
      Agrees (some (x, reply)) (.asked (some intent) (.str text) count)
  | idle {prev} : ¬ AsksClarification prev → Agrees prev .fresh

theorem Agrees.idle_of_fresh {prev : Option (ChatExchange × ChatReply)} (h : Agrees prev .fresh) :
    ¬ AsksClarification prev := by
  cases h with
  | idle hidle => exact hidle

theorem not_asksClarification {x : ChatExchange} {reply : ChatReply}
    (h : reply.body.status ≠ .askingClarification) : ¬ AsksClarification (some (x, reply)) := by
  rintro ⟨x', reply', heq, hs⟩
  cases heq
  exact h hs

theorem previousTurn_error (sessionId : String) (past : List ChatExchange) (req : ChatRequest)
    (tr : List ChatEvent) (e : PyException) :
    previousTurn sessionId (past ++ [⟨req, tr, .error e⟩]) = previousTurn sessionId past := by
  by_cases hid : req.sessionId = sessionId <;>
    simp [previousTurn, completedTurns, hid, Except.toOption]

theorem previousTurn_ne {sessionId : String} (past : List ChatExchange) {req : ChatRequest}
    (hid : req.sessionId ≠ sessionId) (tr : List ChatEvent) (o : Except PyException ChatReply) :
    previousTurn sessionId (past ++ [⟨req, tr, o⟩]) = previousTurn sessionId past := by
  simp [previousTurn, completedTurns, hid]

theorem previousTurn_ok (past : List ChatExchange) (req : ChatRequest) (tr : List ChatEvent)
    (reply : ChatReply) :
    previousTurn req.sessionId (past ++ [⟨req, tr, .ok reply⟩]) =
      some (⟨req, tr, .ok reply⟩, reply) := by
  simp [previousTurn, completedTurns, Except.toOption]

/-- Every session agrees with its previous turn. -/
def AgreesInv (past : List ChatExchange) (st : SessionStore) : Prop :=
  ∀ sessionId, Agrees (previousTurn sessionId past) (st.get sessionId).phase

theorem agreesInv_turn (app : App) (past : List ChatExchange) (st : SessionStore) (req : ChatRequest)
    (tr : List ChatEvent) (o : Except PyException ChatReply) (st' : SessionStore)
    (ih : AgreesInv past st) (hx : Exec chatStep st (chat app req) tr o st')
    (hshows : ShowsSafely app st ⟨req, tr, o⟩) : AgreesInv (past ++ [⟨req, tr, o⟩]) st' := by
  intro sessionId
  cases chat_turn hx with
  | failed hsaves hanswerable =>
    rw [previousTurn_error]
    exact ih sessionId
  | @completed schemaContext traceId intent content v result hcalls hv hc hsaves =>
    by_cases hid : req.sessionId = sessionId
    · subst hid
      have hsafe := hshows content v (by rw [repliesTo, hcalls]; exact List.mem_singleton_self _) hv
      have hphase := nextHistory_phase app schemaContext traceId (st.get req.sessionId) req hc
      rw [SessionStore.get_save, hphase]
      by_cases hask : ∃ q, v = .ask q
      · obtain ⟨q, rfl⟩ := hask
        obtain ⟨text, rfl⟩ := hsafe
        cases hc with
        | stopped hne =>
          rw [show respond req traceId _ = .ok ⟨200, req.sessionId, some text, .askingClarification,
            traceId⟩ from rfl, previousTurn_ok]
          exact .waiting rfl hcalls rfl
      · have hne (q : Json) : v ≠ .ask q := fun h => hask ⟨q, h⟩
        rw [Phase.next_of_ne _ _ hne]
        cases hr : respond req traceId result with
        | ok reply =>
          rw [previousTurn_ok]
          refine .idle (not_asksClarification ?_)
          rw [(respond_ok hr).1]
          exact hc.status_ne hne
        | error e =>
          rw [previousTurn_error]
          refine .idle ?_
          have hp := (respond_error_iff req traceId result).mp ⟨e, hr⟩
          rw [presentable_of_shown hc] at hp
          cases v with
          | outOfScope reason =>
            rcases hsafe with hfresh | hreason
            · have hagree := ih req.sessionId
              rw [hfresh] at hagree
              exact hagree.idle_of_fresh
            · exact absurd (fun a ha => by cases ha; exact hreason) hp
          | ask q => exact absurd rfl (hne q)
          | undecodable => exact absurd (fun a ha => by cases ha) hp
          | answerable => exact absurd (fun a ha => by cases ha) hp
          | limitReached => exact absurd (fun a ha => by cases ha) hp
    · rw [previousTurn_ne past hid, SessionStore.get_save_ne st (fun h => hid h.symm)]
      exact ih sessionId

theorem sessions_agreesInv {app : App} {past : List ChatExchange} {st : SessionStore}
    (h : SessionsWhere app (ShowsSafely app) past st) : AgreesInv past st := by
  refine h.inv (I := AgreesInv) ?_ ?_
  · intro sessionId
    refine .idle ?_
    rintro ⟨x, reply, heq, _⟩
    cases heq
  · intro past st req tr o st' ih hx hshows
    exact agreesInv_turn app past st req tr o st' ih hx hshows

/-- **Continuation.**  As long as every turn so far has shown its text safely:
a turn runs the merger if and only if the previous completed turn was answered
with a clarification question, and then on the intent that turn classified, the
question it showed and the current question; any other turn classifies the
current question alone. -/
theorem clarification_continuation (app : App) {past : List ChatExchange} {st st' : SessionStore}
    (h : SessionsWhere app (ShowsSafely app) past st) (req : ChatRequest) {tr : List ChatEvent}
    {o : Except PyException ChatReply} (hx : Exec chatStep st (chat app req) tr o st') :
    (callsTo Prompt.isMerger (agentEvents tr) ≠ [] ↔
      AsksClarification (previousTurn req.sessionId past)) ∧
    (∀ x reply, previousTurn req.sessionId past = some (x, reply) →
      reply.body.status = .askingClarification →
      ∃ intent schemaContext r shown r',
        callsTo Prompt.isClassifier (agentEvents x.events) = [(.classifier intent schemaContext, r)] ∧
        reply.body.answer = some shown ∧
        callsTo Prompt.isMerger (agentEvents tr) =
          [(.merger (some intent) (.str shown) req.question, r')]) ∧
    (¬ AsksClarification (previousTurn req.sessionId past) →
      ∃ schemaContext r, callsTo Prompt.isClassifier (agentEvents tr) =
        [(.classifier req.question schemaContext, r)]) := by
  have hagree := sessions_agreesInv h req.sessionId
  have hcalls := chat_calls hx
  generalize previousTurn req.sessionId past = prev at hagree ⊢
  generalize (st.get req.sessionId).phase = p at hagree hcalls
  cases hagree with
  | @waiting x reply intent schemaContext r text count hstatus hclass hanswer =>
    have hasks : AsksClarification (some (x, reply)) := ⟨x, reply, rfl, hstatus⟩
    rcases hcalls with ⟨hnull, _, _⟩ | ⟨_, r', hmerger⟩
    · cases hnull
    · refine ⟨⟨fun _ => hasks, fun _ => by rw [hmerger]; simp⟩, ?_, fun hn => absurd hasks hn⟩
      intro x' reply' heq _
      cases heq
      exact ⟨intent, schemaContext, r, text, r', hclass, hanswer, hmerger⟩
  | idle hidle =>
    rcases hcalls with ⟨_, hmerger, schemaContext, r, hclass⟩ | ⟨hnull, _, _⟩
    · refine ⟨⟨fun hne => absurd hmerger hne, fun ha => absurd ha hidle⟩, ?_, ?_⟩
      · intro x reply heq hs
        exact absurd ⟨x, reply, heq, hs⟩ hidle
      · intro _
        exact ⟨schemaContext, r, hclass⟩
    · exact absurd rfl hnull

/-! ## Two turns of a session -/

theorem asksClarification_of_status {prev : Option (ChatExchange × ChatReply)}
    (h : prev.map (fun turn => turn.2.body.status) = some .askingClarification) :
    AsksClarification prev := by
  obtain ⟨⟨x, reply⟩, rfl, hs⟩ := Option.map_eq_some_iff.mp h
  exact ⟨x, reply, rfl, hs⟩

/-- The first turn in the world. -/
def firstTurn (w : World) : Except PyException ChatReply × List ChatEvent × (SessionStore × Nat) :=
  run w.handle (SessionStore.empty, 0) (chat sampleApp sampleRequest)

/-- The second. -/
def secondTurn (w : World) : Except PyException ChatReply × List ChatEvent × (SessionStore × Nat) :=
  run w.handle (firstTurn w).2.2 (chat sampleApp sampleRequest)

def firstExchange (w : World) : ChatExchange := ⟨sampleRequest, (firstTurn w).2.1, (firstTurn w).1⟩

theorem firstTurn_sessions (w : World) (allow : SessionStore → ChatExchange → Prop)
    (h : allow SessionStore.empty (firstExchange w)) :
    SessionsWhere sampleApp allow [firstExchange w] (firstTurn w).2.2.1 := by
  have hstart : SessionsWhere sampleApp allow [] SessionStore.empty := .start
  exact hstart.turn (w.run_exec (SessionStore.empty, 0) _) h

theorem asksBack_showsSafely :
    ShowsSafely sampleApp SessionStore.empty (firstExchange asksBack) := by
  intro content v hmem hv
  have hreplies : repliesTo Prompt.isClassifier (agentEvents (firstTurn asksBack).2.1) =
      [.ok "\x7b\"status\": \"ambiguous\", \"clarification_question\": \"Which semester?\"\x7d"] := by
    decide +kernel
  have hverdict : verdict 0 3
      "\x7b\"status\": \"ambiguous\", \"clarification_question\": \"Which semester?\"\x7d" =
      .ok (.ask (.str "Which semester?")) := by decide +kernel
  change .ok content ∈ repliesTo Prompt.isClassifier (agentEvents (firstTurn asksBack).2.1) at hmem
  rw [hreplies] at hmem
  cases List.mem_singleton.mp hmem
  change verdict 0 3 _ = _ at hv
  rw [hverdict] at hv
  cases hv
  exact ⟨_, rfl⟩

/-- The reply to "Which semester?" is merged. -/
theorem clarification_continuation_sample :
    callsTo Prompt.isMerger (agentEvents (secondTurn asksBack).2.1) ≠ [] := by
  refine (clarification_continuation sampleApp (firstTurn_sessions asksBack _ asksBack_showsSafely)
    sampleRequest (asksBack.run_exec (firstTurn asksBack).2.2 _)).1.mpr ?_
  exact asksClarification_of_status (by decide +kernel)

/-- A classifier that asks nothing. -/
def asksNull : World :=
  sampleWorld (scripted "Algorithms"
    "\x7b\"status\": \"ambiguous\", \"clarification_question\": null\x7d" "" "" (.ok []))

/-- The user was told that a clarification is needed, the reply is not merged. -/
theorem null_clarification :
    Sessions sampleApp [firstExchange asksNull] (firstTurn asksNull).2.2.1 ∧
      Exec chatStep (firstTurn asksNull).2.2.1 (chat sampleApp sampleRequest)
        (secondTurn asksNull).2.1 (secondTurn asksNull).1 (secondTurn asksNull).2.2.1 ∧
      AsksClarification (previousTurn sampleRequest.sessionId [firstExchange asksNull]) ∧
      callsTo Prompt.isMerger (agentEvents (secondTurn asksNull).2.1) = [] := by
  refine ⟨firstTurn_sessions asksNull _ trivial, asksNull.run_exec (firstTurn asksNull).2.2 _, ?_, ?_⟩
  · exact asksClarification_of_status (by decide +kernel)
  · decide +kernel

end UniversityQA.Guarantees
