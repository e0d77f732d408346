import UniversityQA.Agent.TraceIds
import UniversityQA.Api.Sessions
import UniversityQA.Db.SchemaLoader
import UniversityQA.Lib.Interleaving

/-!
# The running application

Requests and the refresh of the schema context run next to each other on one
event loop.  They share the session store and the schema context, and take
turns wherever one of them waits.

* `refreshLoop`: the background task, `refresh_events` what it does;
* `appStep`: the world, where the chat model and the connector are fixed
  functions of what they are asked;
* `Task.prog`: what runs.
-/

namespace UniversityQA.Api

open UniversityQA.Py UniversityQA.Agent UniversityQA.Db Coroutine

/-! ## The background task -/

inductive RefreshQuery where
  | sleep (seconds : Nat)
  | fetchSchema
  | setSchemaContext (schemaContext : String)
  | log (message : String)

/-- `fetch_schema` returns the records or raises. -/
abbrev RefreshAnswer : RefreshQuery → Type
  | .sleep _ => Unit
  | .fetchSchema => Except String (List ColumnRecord)
  | .setSchemaContext _ => Unit
  | .log _ => Unit

abbrev AppQuery := ChatQuery ⊕ RefreshQuery

abbrev AppAnswer : AppQuery → Type := Sum.elim ChatAnswer RefreshAnswer

abbrev AppEvent := Event AppQuery AppAnswer

abbrev AppProg := Prog AppQuery AppAnswer PyException

def schemaRefreshSeconds : Nat := 300

/-- `_refresh_schema_loop`, cancelled after so many rounds. -/
def refreshLoop : Nat → AppProg (Option ChatReply)
  | 0 => .ret none
  | rounds + 1 =>
    .ask (.inr (.sleep schemaRefreshSeconds)) fun _ =>
    .ask (.inr .fetchSchema) fun result =>
      match result with
      | .ok rows =>
        .ask (.inr (.setSchemaContext (loadSchemaContext rows))) fun _ =>
        .ask (.inr (.log "Schema context refreshed")) fun _ => refreshLoop rounds
      | .error _ =>
        .ask (.inr (.log "Schema refresh failed; retaining previous context")) fun _ =>
          refreshLoop rounds

/-- What runs on the event loop: a request, or the background task for a number
of rounds. -/
inductive Task where
  | chat (req : ChatRequest)
  | refresh (rounds : Nat)

def Task.prog (app : App) : Task → AppProg (Option ChatReply)
  | .chat req => do
    let reply ← (Api.chat app req).liftLeft
    return some reply
  | .refresh rounds => refreshLoop rounds

/-! ## The world -/

/-- `app.state.schema_context` and the session store. -/
structure AppState where
  schemaContext : String
  sessions : SessionStore

/-- The chat model and the connector answer as functions; `fetch_schema` and
the trace ids are open. -/
def appStep (llm : List BaseMessage → Except String String)
    (connector : String → Except String (List Row)) (s : AppState) :
    (q : AppQuery) → AppAnswer q → AppState → Prop
  | .inl (.inl q), reply, s' => reply = fixedReply llm connector q ∧ s' = s
  | .inl (.inr .schemaContext), schemaContext, s' => schemaContext = s.schemaContext ∧ s' = s
  | .inl (.inr (.getSession sessionId)), history, s' => history = s.sessions.get sessionId ∧ s' = s
  | .inl (.inr .uuid4), _, s' => s' = s
  | .inl (.inr (.saveSession sessionId history)), _, s' =>
    s' = { s with sessions := s.sessions.save sessionId history }
  | .inr (.sleep _), _, s' => s' = s
  | .inr .fetchSchema, _, s' => s' = s
  | .inr (.setSchemaContext schemaContext), _, s' => s' = { s with schemaContext := schemaContext }
  | .inr (.log _), _, s' => s' = s

/-- The schema context after an event. -/
def schemaAfter (schemaContext : String) : AppEvent → String
  | ⟨.inr (.setSchemaContext next), _⟩ => next
  | _ => schemaContext

theorem appStep_schemaContext {llm : List BaseMessage → Except String String}
    {connector : String → Except String (List Row)} {s s' : AppState} {e : AppEvent}
    (h : appStep llm connector s e.1 e.2 s') :
    s'.schemaContext = schemaAfter s.schemaContext e := by
  obtain ⟨(_ | _ | _ | _ | _) | (_ | _ | _ | _), a⟩ := e
  · rw [h.2]; rfl
  · rw [h.2]; rfl
  · rw [h.2]; rfl
  all_goals
    cases h
    rfl

/-! ## What a request did -/

/-- The events of a request. -/
def chatEvents : List AppEvent → List ChatEvent :=
  List.filterMap fun
    | ⟨.inl q, a⟩ => some ⟨q, a⟩
    | ⟨.inr _, _⟩ => none

theorem chatEvents_inl (t : List ChatEvent) : chatEvents (t.map Event.inl) = t := by
  induction t with
  | nil => rfl
  | cons e t ih => exact congrArg (e :: ·) ih

/-- A request on the event loop is a run of the handler. -/
theorem runs_chat_task {app : App} {req : ChatRequest} {tr : List AppEvent}
    {o : Except PyException (Option ChatReply)} (h : Runs ((Task.chat req).prog app) tr o) :
    ∃ t r, tr = t.map Event.inl ∧ Runs (chat app req) t r ∧ o = r.map some := by
  obtain ⟨r, hr, rfl⟩ := runs_map.mp h
  have hlift (s : Unit) (q : ChatQuery) (_ : ChatAnswer q) (s' : Unit) : True ↔ s' = s :=
    iff_of_true trivial rfl
  obtain ⟨-, t, rfl, hrun⟩ := (exec_liftLeft hlift _).mp hr
  exact ⟨t, r, rfl, hrun, rfl⟩

/-! ## Rounds of the background task -/

/-- The events of a round, by what `fetch_schema` answered. -/
def refreshEvents (result : Except String (List ColumnRecord)) : List AppEvent :=
  ⟨.inr (.sleep schemaRefreshSeconds), ()⟩ :: ⟨.inr .fetchSchema, result⟩ ::
    match result with
    | .ok rows =>
      [⟨.inr (.setSchemaContext (loadSchemaContext rows)), ()⟩,
        ⟨.inr (.log "Schema context refreshed"), ()⟩]
    | .error _ => [⟨.inr (.log "Schema refresh failed; retaining previous context"), ()⟩]

/-- **Rounds.** -/
theorem refresh_events {rounds : Nat} {tr : List AppEvent}
    {o : Except PyException (Option ChatReply)} (h : Runs (refreshLoop rounds) tr o) :
    ∃ results : List (Except String (List ColumnRecord)), results.length = rounds ∧
      tr = results.flatMap refreshEvents := by
  induction rounds generalizing tr with
  | zero => exact ⟨[], rfl, (runs_ret.mp h).1⟩
  | succ rounds ih =>
    rw [refreshLoop, runs_ask] at h
    obtain ⟨_, t₁, rfl, h₁⟩ := h
    obtain ⟨result, t₂, rfl, h₂⟩ := runs_ask.mp h₁
    cases result with
    | ok rows =>
      obtain ⟨_, t₃, rfl, h₃⟩ := runs_ask.mp h₂
      obtain ⟨_, t₄, rfl, h₄⟩ := runs_ask.mp h₃
      obtain ⟨results, rfl, rfl⟩ := ih h₄
      exact ⟨.ok rows :: results, rfl, rfl⟩
    | error text =>
      obtain ⟨_, t₃, rfl, h₃⟩ := runs_ask.mp h₂
      obtain ⟨results, rfl, rfl⟩ := ih h₃
      exact ⟨.error text :: results, rfl, rfl⟩

/-! ## Executable schedules -/

variable {ι : Type} {llm : List BaseMessage → Except String String}
  {connector : String → Except String (List Row)} {app : App}

/-- The application with the answers of `fetch_schema` and the trace ids given
by the number of queries before. -/
def appHandle (llm : List BaseMessage → Except String String)
    (connector : String → Except String (List Row))
    (fetched : Nat → Except String (List ColumnRecord)) (uuid4 : Nat → String) :
    AppState × Nat → (q : AppQuery) → AppAnswer q × (AppState × Nat)
  | (s, n), .inl (.inl q) => (fixedReply llm connector q, (s, n + 1))
  | (s, n), .inl (.inr .schemaContext) => (s.schemaContext, (s, n + 1))
  | (s, n), .inl (.inr (.getSession sessionId)) => (s.sessions.get sessionId, (s, n + 1))
  | (s, n), .inl (.inr .uuid4) => (uuid4 n, (s, n + 1))
  | (s, n), .inl (.inr (.saveSession sessionId history)) =>
    ((), ({ s with sessions := s.sessions.save sessionId history }, n + 1))
  | (s, n), .inr (.sleep _) => ((), (s, n + 1))
  | (s, n), .inr .fetchSchema => (fetched n, (s, n + 1))
  | (s, n), .inr (.setSchemaContext schemaContext) =>
    ((), ({ s with schemaContext := schemaContext }, n + 1))
  | (s, n), .inr (.log _) => ((), (s, n + 1))

theorem appHandle_step (fetched : Nat → Except String (List ColumnRecord)) (uuid4 : Nat → String)
    (s : AppState × Nat) (q : AppQuery) :
    appStep llm connector s.1 q (appHandle llm connector fetched uuid4 s q).1
      (appHandle llm connector fetched uuid4 s q).2.1 := by
  obtain ⟨s, n⟩ := s
  obtain (_ | _ | _ | _ | _) | (_ | _ | _ | _) := q
  · exact ⟨rfl, rfl⟩
  · exact ⟨rfl, rfl⟩
  · exact ⟨rfl, rfl⟩
  all_goals rfl

/-- Tasks that take turns as scheduled. -/
def together [DecidableEq ι] (llm : List BaseMessage → Except String String)
    (connector : String → Except String (List Row))
    (fetched : Nat → Except String (List ColumnRecord)) (uuid4 : Nat → String) (app : App)
    (tasks : ι → Task) (s : AppState) (schedule : List ι) :
    List (ι × AppEvent) × (ι → AppProg (Option ChatReply)) × (AppState × Nat) :=
  interleave (appHandle llm connector fetched uuid4) (fun i => (tasks i).prog app) (s, 0) schedule

theorem together_interleaved [DecidableEq ι] {fetched : Nat → Except String (List ColumnRecord)}
    {uuid4 : Nat → String} {tasks : ι → Task} {s : AppState} {schedule : List ι}
    {run : List (ι × AppEvent) × (ι → AppProg (Option ChatReply)) × (AppState × Nat)}
    (hrun : run = together llm connector fetched uuid4 app tasks s schedule)
    (hdone : ∀ i, (run.2.1 i).outcome.isSome = true) :
    ∃ o, Interleaved (appStep llm connector) (fun i => (tasks i).prog app) s run.1 o
      run.2.2.1 := by
  subst hrun
  obtain ⟨o, -, hinterleaved⟩ := exists_interleaved
    (fun s q a s' => appStep llm connector s.1 q a s'.1) _ (appHandle_step fetched uuid4) schedule
    (fun i => (tasks i).prog app) (s, 0) hdone
  exact ⟨o, hinterleaved.map Prod.fst fun _ _ _ _ hs => hs⟩

end UniversityQA.Api
