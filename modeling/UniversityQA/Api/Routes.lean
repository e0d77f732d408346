import UniversityQA.Agent.Graph
import UniversityQA.Api.SessionStore
import UniversityQA.Lib.Service

/-!
# `POST /chat`

`chat` is the handler as a coroutine: besides the queries of the graph it
reads the schema context and the session, draws a trace id and saves the
session (`ApiQuery`).  `chatStep` is the world in which the session store
answers and everything else is free.

* `chat_trace`: everything a request can do, in one relation `ChatTrace`;
* `chat_run`: the same over a store;
* `Sessions`: serial runs of requests, from the empty store.
-/

namespace UniversityQA.Api

open UniversityQA.Py UniversityQA.Agent Coroutine Service

/-! ## Settings and schemas -/

/-- The agent part of `Settings`. -/
structure Settings where
  maxClarificationRounds : Int := 3
  maxSqlRetries : Int := 2
  conversationHistoryWindow : Int := 6
  dbResultsRowLimit : Int := 50

/-- What the process keeps; `strOf` is the interpreter's `str`. -/
structure App where
  settings : Settings := {}
  fewShotExamples : String
  strOf : Json → String

/-- The `config` of `graph.ainvoke`. -/
def App.configurable (app : App) : Configurable where
  fewShotExamples := app.fewShotExamples
  maxClarificationRounds := some app.settings.maxClarificationRounds
  maxSqlRetries := some app.settings.maxSqlRetries
  dbResultsRowLimit := some app.settings.dbResultsRowLimit
  strOf := app.strOf

structure ChatRequest where
  sessionId : String
  question : String
  sessionId_length : 1 ≤ sessionId.length ∧ sessionId.length ≤ 256
  question_length : 1 ≤ question.length ∧ question.length ≤ 2000

theorem ChatRequest.question_ne_empty (req : ChatRequest) : req.question ≠ "" := by
  intro h
  have := req.question_length.1
  rw [h] at this
  exact absurd this (by decide)

structure ChatResponse where
  sessionId : String
  answer : Option String
  status : AgentStatus
  traceId : String
  deriving DecidableEq, Repr

/-- `ChatResponse(...)`: an answer that is neither a string nor `None` fails
the validation. -/
def ChatResponse.build (sessionId : String) (answer : Json) (status : AgentStatus)
    (traceId : String) : Except PyException ChatResponse :=
  match answer with
  | .str text => .ok ⟨sessionId, some text, status, traceId⟩
  | .null => .ok ⟨sessionId, none, status, traceId⟩
  | _ => .error (.validationError "answer")

/-- The status code of the response with its body. -/
structure ChatReply where
  statusCode : Nat
  body : ChatResponse
  deriving DecidableEq, Repr

/-! ## The handler -/

inductive ApiQuery where
  | schemaContext
  | getSession (sessionId : String)
  | uuid4
  | saveSession (sessionId : String) (history : ConversationHistory)

abbrev ApiReply : ApiQuery → Type
  | .schemaContext => String
  | .getSession _ => ConversationHistory
  | .uuid4 => String
  | .saveSession _ _ => Unit

abbrev ChatQuery := AgentQuery ⊕ ApiQuery

abbrev ChatAnswer : ChatQuery → Type := Sum.elim AgentReply ApiReply

abbrev ChatEvent := Event ChatQuery ChatAnswer

abbrev ChatProg := Prog ChatQuery ChatAnswer PyException

def initialState (app : App) (schemaContext : String) (history : ConversationHistory)
    (traceId : String) (req : ChatRequest) : AgentState :=
  let isContinuation := history.lastStatus = .askingClarification
  let window := app.settings.conversationHistoryWindow * 2
  { question := req.question
    schemaContext := schemaContext
    sql := none
    sqlError := none
    retryCount := 0
    dbResults := none
    answer := .null
    status := .analyzing
    conversationHistory := sliceFrom history.turns (-window)
    accumulatedIntent := if isContinuation then history.accumulatedIntent else none
    lastClarification := if isContinuation then history.lastClarificationQuestion else .null
    ambiguityCount := if isContinuation then history.ambiguityCount else 0
    traceId := traceId
    sessionId := req.sessionId
    tracer := ⟨traceId, req.sessionId⟩ }

/-- What `chat` saves after a run that ended in `result`. -/
def nextHistory (history : ConversationHistory) (req : ChatRequest) (result : AgentState) :
    ConversationHistory where
  lastStatus := result.status
  lastClarificationQuestion := result.lastClarification
  accumulatedIntent := result.accumulatedIntent
  ambiguityCount := result.ambiguityCount
  turns := history.turns ++
    [⟨.user, .str req.question⟩,
     ⟨.assistant, if result.answer.truthy then result.answer else .str ""⟩]

def internalError : PyException := .httpException 500 "Internal agent error"

/-- The end of `chat`: the status code and the response model. -/
def respond (req : ChatRequest) (traceId : String) (result : AgentState) :
    Except PyException ChatReply :=
  let statusCode := if result.status = .error then 422 else 200
  match ChatResponse.build req.sessionId result.answer result.status traceId with
  | .ok body => .ok ⟨statusCode, body⟩
  | .error e => .error e

def chat (app : App) (req : ChatRequest) : ChatProg ChatReply :=
  .ask (.inr .schemaContext) fun schemaContext =>
  .ask (.inr (.getSession req.sessionId)) fun history =>
  .ask (.inr .uuid4) fun traceId => do
    let state := initialState app schemaContext history traceId req
    let result ← (ainvokeGraph app.configurable state).liftLeft.tryCatch fun _ =>
      .raise internalError
    .ask (.inr (.saveSession req.sessionId (nextHistory history req result))) fun _ =>
      .ofExcept (respond req traceId result)

/-! ## The session store as the world -/

/-- The store answers `getSession` and takes `saveSession`; everything else
answers what it likes and leaves the store alone. -/
def chatStep (st : SessionStore) : (q : ChatQuery) → ChatAnswer q → SessionStore → Prop
  | .inl _, _, st' => st' = st
  | .inr .schemaContext, _, st' => st' = st
  | .inr (.getSession sessionId), history, st' => history = st.get sessionId ∧ st' = st
  | .inr .uuid4, _, st' => st' = st
  | .inr (.saveSession sessionId history), _, st' => st' = st.save sessionId history

def loadEvents (schemaContext : String) (history : ConversationHistory) (traceId : String)
    (req : ChatRequest) : List ChatEvent :=
  [⟨.inr .schemaContext, schemaContext⟩, ⟨.inr (.getSession req.sessionId), history⟩,
    ⟨.inr .uuid4, traceId⟩]

def saved (sessionId : String) (history : ConversationHistory) : ChatEvent :=
  ⟨.inr (.saveSession sessionId history), ()⟩

/-- Runs of `chat` that found `history`: the events, the outcome and what was
saved. -/
inductive ChatTrace (app : App) (req : ChatRequest) (history : ConversationHistory) :
    List ChatEvent → Except PyException ChatReply → Option ConversationHistory → Prop
  | failed {t e} (schemaContext traceId : String) :
      Runs (ainvokeGraph app.configurable (initialState app schemaContext history traceId req)) t
        (.error e) →
      ChatTrace app req history (loadEvents schemaContext history traceId req ++ t.map Event.inl)
        (.error internalError) none
  | completed {t result} (schemaContext traceId : String) :
      Runs (ainvokeGraph app.configurable (initialState app schemaContext history traceId req)) t
        (.ok result) →
      ChatTrace app req history
        (loadEvents schemaContext history traceId req ++ t.map Event.inl ++
          [saved req.sessionId (nextHistory history req result)])
        (respond req traceId result) (some (nextHistory history req result))

/-- **Requests under any answers.** -/
theorem chat_trace {app : App} {req : ChatRequest} {tr : List ChatEvent}
    {o : Except PyException ChatReply} (h : Runs (chat app req) tr o) :
    ∃ history written, ChatTrace app req history tr o written := by
  obtain ⟨schemaContext, t₁, rfl, h₁⟩ := runs_ask.mp h
  obtain ⟨history, t₂, rfl, h₂⟩ := runs_ask.mp h₁
  obtain ⟨traceId, t₃, rfl, h₃⟩ := runs_ask.mp h₂
  have hlift (s : Unit) (q : AgentQuery) (_ : AgentReply q) (s' : Unit) : True ↔ s' = s :=
    (iff_of_true trivial rfl)
  rcases runs_bind.mp h₃ with ⟨e, he, rfl⟩ | ⟨result, u₁, u₂, rfl, hok, hrest⟩
  · rcases exec_tryCatch.mp he with ⟨_, _, ha⟩ | ⟨_, _, u₁, u₂, rfl, herr, hraise⟩
    · cases ha
    · obtain ⟨_, t, rfl, hrun⟩ := (exec_liftLeft hlift _).mp herr
      obtain ⟨rfl, hexc, _⟩ := exec_raise.mp hraise
      cases hexc
      rw [List.append_nil]
      exact ⟨history, none, .failed schemaContext traceId hrun⟩
  · rcases exec_tryCatch.mp hok with ⟨_, ha, heq⟩ | ⟨_, _, _, _, _, _, hraise⟩
    · cases heq
      obtain ⟨_, t, rfl, hrun⟩ := (exec_liftLeft hlift _).mp ha
      obtain ⟨⟨⟩, w, rfl, hend⟩ := runs_ask.mp hrest
      obtain ⟨rfl, rfl, _⟩ := exec_ofExcept.mp hend
      exact ⟨history, _, .completed schemaContext traceId hrun⟩
    · cases (exec_raise.mp hraise).2.1

theorem follows_inl {st st' : SessionStore} (t : List AgentEvent) :
    Follows chatStep st (t.map Event.inl) st' ↔ st' = st := by
  induction t with
  | nil => rfl
  | cons e t ih =>
    constructor
    · rintro ⟨_, rfl, h⟩
      exact ih.mp h
    · rintro rfl
      exact ⟨_, rfl, ih.mpr rfl⟩

theorem follows_loadEvents {st st' : SessionStore} {schemaContext traceId : String}
    {history : ConversationHistory} {req : ChatRequest}
    (h : Follows chatStep st (loadEvents schemaContext history traceId req) st') :
    history = st.get req.sessionId ∧ st' = st := by
  obtain ⟨_, rfl, _, ⟨rfl, rfl⟩, _, rfl, rfl⟩ := h
  exact ⟨rfl, rfl⟩

/-- Runs of `chat` over a store. -/
inductive ChatRun (app : App) (st : SessionStore) (req : ChatRequest) :
    List ChatEvent → Except PyException ChatReply → SessionStore → Prop
  | failed {t e} (schemaContext traceId : String) :
      Runs (ainvokeGraph app.configurable
        (initialState app schemaContext (st.get req.sessionId) traceId req)) t (.error e) →
      ChatRun app st req
        (loadEvents schemaContext (st.get req.sessionId) traceId req ++ t.map Event.inl)
        (.error internalError) st
  | completed {t result} (schemaContext traceId : String) :
      Runs (ainvokeGraph app.configurable
        (initialState app schemaContext (st.get req.sessionId) traceId req)) t (.ok result) →
      ChatRun app st req
        (loadEvents schemaContext (st.get req.sessionId) traceId req ++ t.map Event.inl ++
          [saved req.sessionId (nextHistory (st.get req.sessionId) req result)])
        (respond req traceId result)
        (st.save req.sessionId (nextHistory (st.get req.sessionId) req result))

/-- **Requests.** -/
theorem chat_run {app : App} {st st' : SessionStore} {req : ChatRequest} {tr : List ChatEvent}
    {o : Except PyException ChatReply} (h : Exec chatStep st (chat app req) tr o st') :
    ChatRun app st req tr o st' := by
  have hfollows := h.follows
  obtain ⟨history, written, htrace⟩ := chat_trace h.runs
  cases htrace with
  | failed schemaContext traceId hrun =>
    obtain ⟨s₁, hload, hgraph⟩ := follows_append.mp hfollows
    obtain ⟨rfl, rfl⟩ := follows_loadEvents hload
    obtain rfl := (follows_inl _).mp hgraph
    exact .failed schemaContext traceId hrun
  | completed schemaContext traceId hrun =>
    obtain ⟨s₁, hfront, _, rfl, rfl⟩ := follows_append.mp hfollows
    obtain ⟨s₂, hload, hgraph⟩ := follows_append.mp hfront
    obtain ⟨rfl, rfl⟩ := follows_loadEvents hload
    obtain rfl := (follows_inl _).mp hgraph
    exact .completed schemaContext traceId hrun

abbrev ChatExchange := Exchange ChatRequest ChatQuery ChatAnswer PyException ChatReply

/-- Requests handled one after another since the process started, each of
which met the condition `allow` on the store it found. -/
abbrev SessionsWhere (app : App) (allow : SessionStore → ChatExchange → Prop) :
    List ChatExchange → SessionStore → Prop :=
  Serves chatStep (chat app) allow SessionStore.empty

/-- Requests handled one after another since the process started. -/
abbrev Sessions (app : App) : List ChatExchange → SessionStore → Prop :=
  SessionsWhere app fun _ _ => True

/-! ## Executable worlds -/

/-- Everything outside the process with fixed behaviour; the number is that of
the queries before. -/
structure World where
  agent : Oracle
  schemaContext : Nat → String
  uuid4 : Nat → String

/-- The store next to the number of queries so far. -/
def World.handle (w : World) :
    SessionStore × Nat → (q : ChatQuery) → ChatAnswer q × (SessionStore × Nat)
  | (st, n), .inl q => (w.agent n q, (st, n + 1))
  | (st, n), .inr .schemaContext => (w.schemaContext n, (st, n + 1))
  | (st, n), .inr (.getSession sessionId) => (st.get sessionId, (st, n + 1))
  | (st, n), .inr .uuid4 => (w.uuid4 n, (st, n + 1))
  | (st, n), .inr (.saveSession sessionId history) => ((), (st.save sessionId history, n + 1))

theorem World.handle_step (w : World) (s : SessionStore × Nat) (q : ChatQuery) :
    chatStep s.1 q (w.handle s q).1 (w.handle s q).2.1 := by
  obtain ⟨st, n⟩ := s
  cases q with
  | inl q => rfl
  | inr q =>
    cases q with
    | schemaContext => rfl
    | getSession sessionId => exact ⟨rfl, rfl⟩
    | uuid4 => rfl
    | saveSession sessionId history => rfl

theorem World.run_exec {α : Type} (w : World) (s : SessionStore × Nat) (p : ChatProg α) :
    Exec chatStep s.1 p (run w.handle s p).2.1 (run w.handle s p).1 (run w.handle s p).2.2.1 :=
  (Coroutine.run_exec (fun s q a s' => chatStep s.1 q a s'.1) w.handle w.handle_step p s).map
    Prod.fst fun _ _ _ _ hs => hs

theorem World.run_liftLeft {α : Type} (w : World) (p : NodeProg α) (st : SessionStore) (n : Nat) :
    run w.handle (st, n) (p.liftLeft : ChatProg α) =
      ((run w.agent.handle n p).1, (run w.agent.handle n p).2.1.map Event.inl,
        (st, (run w.agent.handle n p).2.2)) := by
  induction p generalizing n with
  | ret a => rfl
  | raise e => rfl
  | ask q k ih =>
    have hrest := ih (w.agent n q) (n + 1)
    simp only [Prog.liftLeft, run]
    rw [show w.handle (st, n) (.inl q) = (w.agent n q, (st, n + 1)) from rfl, hrest]
    rfl

/-- The state `chat` starts the graph in when it is the `n`-th query. -/
def World.initialState (w : World) (app : App) (st : SessionStore) (n : Nat) (req : ChatRequest) :
    AgentState :=
  Api.initialState app (w.schemaContext n) (st.get req.sessionId) (w.uuid4 (n + 2)) req

/-- The run of the graph inside that request. -/
def World.graphRun (w : World) (app : App) (st : SessionStore) (n : Nat) (req : ChatRequest) :
    Except PyException AgentState × List AgentEvent × Nat :=
  run w.agent.handle (n + 3) (ainvokeGraph app.configurable (w.initialState app st n req))

/-- What `chat` makes of it. -/
theorem World.run_chat (w : World) (app : App) (st : SessionStore) (n : Nat) (req : ChatRequest) :
    run w.handle (st, n) (chat app req) =
      match w.graphRun app st n req with
      | (.error _, t, m) =>
        (.error internalError,
          loadEvents (w.schemaContext n) (st.get req.sessionId) (w.uuid4 (n + 2)) req ++
            t.map Event.inl, (st, m))
      | (.ok result, t, m) =>
        (respond req (w.uuid4 (n + 2)) result,
          loadEvents (w.schemaContext n) (st.get req.sessionId) (w.uuid4 (n + 2)) req ++
            t.map Event.inl ++ [saved req.sessionId (nextHistory (st.get req.sessionId) req result)],
          (st.save req.sessionId (nextHistory (st.get req.sessionId) req result), m + 1)) := by
  have hlift := w.run_liftLeft
    (ainvokeGraph app.configurable (w.initialState app st n req)) st (n + 3)
  have htry := run_tryCatch w.handle (st, n + 3)
    ((ainvokeGraph app.configurable (w.initialState app st n req)).liftLeft : ChatProg AgentState)
    fun _ => .raise internalError
  rw [hlift] at htry
  have hrun : run w.handle (st, n) (chat app req) =
      let r := run w.handle (st, n + 3) (do
        let result ← (ainvokeGraph app.configurable (w.initialState app st n req)).liftLeft.tryCatch
          fun _ => .raise internalError
        .ask (.inr (.saveSession req.sessionId (nextHistory (st.get req.sessionId) req result)))
          fun _ => .ofExcept (respond req (w.uuid4 (n + 2)) result) : ChatProg ChatReply)
      (r.1, loadEvents (w.schemaContext n) (st.get req.sessionId) (w.uuid4 (n + 2)) req ++ r.2.1,
        r.2.2) := rfl
  rw [hrun, run_bind, htry]
  unfold World.graphRun
  rcases run w.agent.handle (n + 3) (ainvokeGraph app.configurable (w.initialState app st n req))
    with ⟨e | result, t, m⟩
  · simp [run]
  · simp [run, run_ofExcept, World.handle, saved]

/-- Requests one after another from the empty store. -/
def World.serve (w : World) (app : App) (reqs : List ChatRequest) :
    List ChatExchange × (SessionStore × Nat) :=
  Service.serve w.handle (chat app) (SessionStore.empty, 0) reqs

theorem World.serve_sessions (w : World) (app : App) (reqs : List ChatRequest) :
    Sessions app (w.serve app reqs).1 (w.serve app reqs).2.1 := by
  have h := serve_serves w.handle (chat app) Prod.fst w.handle_step []
    (SessionStore.empty, 0) reqs .start
  rwa [List.nil_append] at h

/-! ## A small deployment -/

/-- The default settings, without examples; `str` as far as the runs below
need it. -/
def sampleApp : App where
  fewShotExamples := ""
  strOf
    | .null => "None"
    | .bool true => "True"
    | .bool false => "False"
    | .int n => toString n
    | _ => ""

def sampleRequest : ChatRequest where
  sessionId := "s"
  question := "Who teaches Algorithms?"
  sessionId_length := by decide
  question_length := by decide

/-- A chat model that finds every question answerable by `SELECT 1`. -/
def selectsOne (merger : String) : Oracle :=
  scripted merger "\x7b\"status\": \"answerable\"\x7d" " SELECT 1 " "One." (.ok [])

/-- `sampleRequest` in a session with the given history. -/
def sampleState (history : ConversationHistory) : AgentState :=
  initialState sampleApp "" history "t" sampleRequest

/-- Its run of the graph with the given oracle. -/
def sampleRun (history : ConversationHistory) (w : Oracle) :
    Except PyException AgentState × List AgentEvent × Nat :=
  run w.handle 0 (ainvokeGraph sampleApp.configurable (sampleState history))

theorem sampleRun_runs (history : ConversationHistory) (w : Oracle) :
    Runs (ainvokeGraph sampleApp.configurable (sampleState history)) (sampleRun history w).2.1
      (sampleRun history w).1 :=
  run_runs _ _ _

/-- The world around the oracle. -/
def sampleWorld (w : Oracle) : World := ⟨w, fun _ => "", fun _ => "t"⟩

/-- A classifier that always asks for the semester. -/
def asksBack : World :=
  sampleWorld (scripted "Algorithms" ("\x7b\"status\": \"ambiguous\", " ++
    "\"clarification_question\": \"Which semester?\"\x7d") "" "" (.ok []))

end UniversityQA.Api
