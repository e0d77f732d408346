import UniversityQA.Api.Main

/-!
# A session alone

What a request does depends on the stored history of its session and on the
schema context, as long as the chat model and the connector answer as
functions.

* `alone`: the requests of a session one after another, and nothing else;
* `request_determined`: for a single request;
* `alone_of_serial`: requests that ran one after another are observed as they
  are alone.
-/

namespace UniversityQA.Api

open UniversityQA.Py UniversityQA.Agent UniversityQA.Db Coroutine

variable {ι : Type} {llm : List BaseMessage → Except String String}
  {connector : String → Except String (List Row)} {app : App}

/-! ## What is observed -/

/-- The response but for the trace id. -/
def untraced (reply : ChatReply) : ChatReply :=
  { reply with body := { reply.body with traceId := "" } }

/-- The end of a request, and the messages sent on its behalf with the
replies. -/
structure Observation where
  outcome : Except PyException (Option ChatReply)
  prompts : List (List BaseMessage × Except String String)

def observe (tr : List ChatEvent) (o : Except PyException (Option ChatReply)) : Observation where
  outcome := o.map (Option.map untraced)
  prompts := sent (fun _ => true) (agentEvents tr)

/-! ## A session alone -/

/-- Nothing but one request with its schema context. -/
def aloneWorld (llm : List BaseMessage → Except String String)
    (connector : String → Except String (List Row)) (uuid4 : Nat → String)
    (schemaContext : String) : World where
  agent _ := fixedReply llm connector
  schemaContext _ := schemaContext
  uuid4 := uuid4

/-- Requests one after another, each with its schema context: what is observed
of them, and the store in the end. -/
def alone (llm : List BaseMessage → Except String String)
    (connector : String → Except String (List Row)) (uuid4 : Nat → String) (app : App) :
    SessionStore × Nat → List (ChatRequest × String) → List Observation × (SessionStore × Nat)
  | s, [] => ([], s)
  | s, (req, schemaContext) :: rest =>
    let r := run (aloneWorld llm connector uuid4 schemaContext).handle s (chat app req)
    let later := alone llm connector uuid4 app r.2.2 rest
    (observe r.2.1 (r.1.map some) :: later.1, later.2)

/-! ## One request -/

/-- The request read one schema context, and the chat model and the connector
answered as functions. -/
structure AnsweredBy (llm : List BaseMessage → Except String String)
    (connector : String → Except String (List Row)) (schemaContext : String)
    (tr : List ChatEvent) : Prop where
  agent : ∀ e ∈ agentEvents tr, e.2 = fixedReply llm connector e.1
  schema : ∀ c, (⟨.inr .schemaContext, c⟩ : ChatEvent) ∈ tr → c = schemaContext

theorem respond_untraced (req : ChatRequest) (traceId traceId' : String) (r : AgentState) :
    (respond req traceId (r.retrace traceId)).map untraced =
      (respond req traceId' (r.retrace traceId')).map untraced := by
  unfold respond ChatResponse.build
  have hanswer (t : String) : (r.retrace t).answer = r.answer := rfl
  rw [hanswer, hanswer]
  cases r.answer <;> rfl

theorem observe_some (tr : List ChatEvent) (r : Except PyException ChatReply) :
    (observe tr (r.map some)).outcome = (r.map untraced).map some := by
  cases r <;> rfl

/-- The run of the graph inside a request, and what came of it. -/
theorem request_graph {req : ChatRequest} {st st' : SessionStore} {tr : List ChatEvent}
    {o : Except PyException ChatReply} {schemaContext : String}
    (h : Exec chatStep st (chat app req) tr o st')
    (ha : AnsweredBy llm connector schemaContext tr) :
    ∃ traceId r, Runs (ainvokeGraph app.configurable
        ((initialState app schemaContext (st.get req.sessionId) "" req).retrace traceId))
        (agentEvents tr) r ∧
      (o, st'.store req.sessionId) =
        match r with
        | .error _ => (.error internalError, st.store req.sessionId)
        | .ok result =>
          (respond req traceId result, some (nextHistory (st.get req.sessionId) req result)) := by
  cases chat_run h with
  | @failed t e c traceId hrun =>
    obtain rfl := ha.schema c (List.mem_append_left _ (List.mem_cons_self ..))
    rw [agentEvents_loaded]
    exact ⟨traceId, .error e, hrun, rfl⟩
  | @completed t result c traceId hrun =>
    obtain rfl := ha.schema c
      (List.mem_append_left _ (List.mem_append_left _ (List.mem_cons_self ..)))
    rw [agentEvents_request _ _ _ _ _ _ rfl]
    exact ⟨traceId, .ok result, hrun, congrArg (Prod.mk _) (if_pos rfl)⟩

/-- **Requests are determined** by the stored history and the schema
context. -/
theorem request_determined {req : ChatRequest} {st st₁ st' st₁' : SessionStore}
    {tr tr₁ : List ChatEvent} {o o₁ : Except PyException ChatReply} {schemaContext : String}
    (h : Exec chatStep st (chat app req) tr o st')
    (h₁ : Exec chatStep st₁ (chat app req) tr₁ o₁ st₁')
    (ha : AnsweredBy llm connector schemaContext tr)
    (ha₁ : AnsweredBy llm connector schemaContext tr₁)
    (hstore : st.store req.sessionId = st₁.store req.sessionId) :
    observe tr (o.map some) = observe tr₁ (o₁.map some) ∧
      st'.store req.sessionId = st₁'.store req.sessionId := by
  have hhistory : st.get req.sessionId = st₁.get req.sessionId := by
    rw [SessionStore.get, hstore, SessionStore.get]
  obtain ⟨traceId, r, hrun, hend⟩ := request_graph h ha
  obtain ⟨traceId₁, r₁, hrun₁, hend₁⟩ := request_graph h₁ ha₁
  rw [← hhistory] at hrun₁ hend₁
  obtain ⟨hsent, result, rfl, rfl⟩ := ainvokeGraph_determined hrun hrun₁ ha.agent ha₁.agent
  cases result with
  | error e =>
    obtain ⟨rfl, hentry⟩ := Prod.mk.inj hend
    obtain ⟨rfl, hentry₁⟩ := Prod.mk.inj hend₁
    exact ⟨congrArg (Observation.mk _) hsent, hentry.trans (hstore.trans hentry₁.symm)⟩
  | ok result =>
    obtain ⟨rfl, hentry⟩ := Prod.mk.inj hend
    obtain ⟨rfl, hentry₁⟩ := Prod.mk.inj hend₁
    have houtcome := congrArg (Except.map some) (respond_untraced req traceId traceId₁ result)
    rw [← observe_some tr, ← observe_some tr₁] at houtcome
    refine ⟨?_, hentry.trans hentry₁.symm⟩
    unfold observe at houtcome ⊢
    rw [hsent]
    exact congrArg (Observation.mk · _) houtcome

/-! ## Serial requests -/

theorem mem_agentEvents {tr : List ChatEvent} {e : AgentEvent} :
    e ∈ agentEvents tr ↔ (⟨.inl e.1, e.2⟩ : ChatEvent) ∈ tr := by
  rw [agentEvents, List.mem_filterMap]
  constructor
  · rintro ⟨⟨q | q, a⟩, hmem, heq⟩
    · obtain rfl := Option.some.inj heq
      exact hmem
    · cases heq
  · intro hmem
    exact ⟨_, hmem, rfl⟩

theorem aloneWorld_answers (uuid4 : Nat → String) (schemaContext : String)
    (s : SessionStore × Nat) (req : ChatRequest) :
    AnsweredBy llm connector schemaContext
      (run (aloneWorld llm connector uuid4 schemaContext).handle s (chat app req)).2.1 where
  agent e he := by
    obtain ⟨s', hs'⟩ := mem_run _ _ _ (mem_agentEvents.mp he)
    exact hs'
  schema c hc := by
    obtain ⟨s', hs'⟩ := mem_run _ _ _ hc
    exact hs'

/-- A request of the session that ran as recorded. -/
def RanAs (llm : List BaseMessage → Except String String)
    (connector : String → Except String (List Row)) (app : App) (sessionId : String)
    (req : ChatRequest) (schemaContext : String) (tr : List ChatEvent)
    (o : Except PyException (Option ChatReply)) : Prop :=
  req.sessionId = sessionId ∧ AnsweredBy llm connector schemaContext tr ∧
    ∃ r, Runs (chat app req) tr r ∧ o = r.map some

/-- **Serial requests** are observed as they are alone. -/
theorem alone_of_serial {sessionId : String} (events : ι → List ChatEvent)
    (o : ι → Except PyException (Option ChatReply)) (contexts : ι → String)
    (uuid4 : Nat → String) {requests : List (ι × ChatRequest)}
    (hran : ∀ r ∈ requests,
      RanAs llm connector app sessionId r.2 (contexts r.1) (events r.1) (o r.1))
    {st st' : SessionStore} {s : SessionStore × Nat}
    (hfollows : Follows chatStep st (requests.flatMap fun r => events r.1) st')
    (hstore : s.1.store sessionId = st.store sessionId) :
    (alone llm connector uuid4 app s (requests.map fun r => (r.2, contexts r.1))).1 =
        requests.map (fun r => observe (events r.1) (o r.1)) ∧
      (alone llm connector uuid4 app s
        (requests.map fun r => (r.2, contexts r.1))).2.1.store sessionId = st'.store sessionId := by
  induction requests generalizing st s with
  | nil =>
    cases hfollows
    exact ⟨rfl, hstore⟩
  | cons r requests ih =>
    obtain ⟨hr, hrest⟩ := List.forall_mem_cons.mp hran
    obtain ⟨rfl, hanswered, reply, hrun, ho⟩ := hr
    obtain ⟨st₁, hblock, hlater⟩ := follows_append.mp hfollows
    have halone := (aloneWorld llm connector uuid4 (contexts r.1)).run_exec s (chat app r.2)
    obtain ⟨hobserve, hentry⟩ := request_determined halone (hrun.exec hblock)
      (aloneWorld_answers uuid4 (contexts r.1) s r.2) hanswered hstore
    obtain ⟨hobserves, hentries⟩ := ih hrest hlater hentry
    rw [List.map_cons, List.map_cons, alone, ho]
    exact ⟨congrArg₂ List.cons hobserve hobserves, hentries⟩

end UniversityQA.Api
