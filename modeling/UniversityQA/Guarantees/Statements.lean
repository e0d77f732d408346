import UniversityQA.Db.Statements
import UniversityQA.Guarantees.Lifecycle
import UniversityQA.Guarantees.ValidatedSql

/-!
# What the database is sent

A process sends the database what it takes to introspect the schema, `SELECT 1`,
and statements that the chat model has written and `validate_sql` has accepted.
Which of them depends on the task alone, whatever the tasks do next to each
other.

* `MaySend`: the statements of a task;
* `graph_executes`, `chat_executes`, `prog_sends`: what each layer sends, from
  the graph to the task on the event loop;
* `statements_of_life`: everything that is sent.
-/

namespace UniversityQA.Guarantees

open UniversityQA.Py UniversityQA.Agent UniversityQA.Db UniversityQA.Api Coroutine SharedHandle Trace

variable {ε ι : Type}

/-- Accepted, and one of these texts but for the white space around it. -/
def Checked (texts : String → Prop) (sql : String) : Prop :=
  (validateSql sql).1 = true ∧ ∃ text, texts text ∧ sql = strip text

/-- What a task may send, where `tables` are the tables that it was told of and
`texts` what the chat model has written for it. -/
def MaySend (c : Connector) (tables texts : String → Prop) : ProcessTask → String → Prop
  | .app (.chat _), sql => Checked texts sql
  | .app (.refresh _), sql => c.Introspects tables sql
  | .health, sql => sql = "SELECT 1"

/-! ## Requests -/

/-- A statement that the chat model replies is one of `texts`. -/
def Replies (texts : String → Prop) : AgentEvent → Prop
  | ⟨.ainvoke prompt _, .ok text⟩ => prompt.isSql = true → texts text
  | _ => True

def Executes (texts : String → Prop) : AgentQuery → Prop
  | .executeQuery sql => Checked texts sql
  | _ => True

instance (q : AgentQuery) : Nonempty (AgentReply q) := by
  cases q with
  | ainvoke prompt messages => exact ⟨.error ""⟩
  | executeQuery sql => exact ⟨.error ""⟩
  | log record => exact ⟨()⟩
  | superstep node state => exact ⟨()⟩

theorem graph_executes (c : Configurable) (s : AgentState) (texts : String → Prop) :
    (ainvokeGraph c s).AsksWhile (Replies texts) (Executes texts) := by
  refine asksWhile_of_runs fun tr o h pre e post htr hpre => ?_
  obtain ⟨q, a⟩ := e
  cases q with
  | executeQuery sql =>
    have hall := (always_iff [] tr).1 (graphRun_guarded (ainvoke_run h))
    obtain ⟨hvalid, -, text, hlatest, rfl⟩ := hall pre ⟨.executeQuery sql, a⟩ post htr sql a rfl
    refine ⟨hvalid, text, ?_, rfl⟩
    obtain ⟨⟨prompt, reply⟩, hcall, rfl⟩ := List.mem_map.1 (List.mem_of_getLast? hlatest)
    obtain ⟨hreply, hsql⟩ := List.mem_filter.1 hcall
    obtain ⟨⟨q, b⟩, hmem, heq⟩ := List.mem_filterMap.1 hreply
    cases q with
    | ainvoke prompt' messages =>
      cases heq
      exact hpre _ hmem hsql
    | _ => cases heq
  | _ => trivial

def ChatReplies (texts : String → Prop) : ChatEvent → Prop
  | ⟨.inl q, a⟩ => Replies texts ⟨q, a⟩
  | ⟨.inr _, _⟩ => True

def ChatExecutes (texts : String → Prop) : ChatQuery → Prop
  | .inl q => Executes texts q
  | .inr _ => True

theorem chat_executes (app : App) (req : ChatRequest) (texts : String → Prop) :
    (chat app req).AsksWhile (ChatReplies texts) (ChatExecutes texts) := by
  refine ⟨trivial, fun _ _ => ⟨trivial, fun _ _ => ⟨trivial, fun _ _ => ?_⟩⟩⟩
  refine asksWhile_bind (asksWhile_tryCatch (asksWhile_liftLeft (graph_executes _ _ texts))
    fun _ => trivial) fun result => ?_
  exact ⟨trivial, fun _ _ => asksWhile_ofExcept _⟩

/-! ## Tasks -/

def AppReplies (texts : String → Prop) : AppEvent → Prop
  | ⟨.inl q, a⟩ => ChatReplies texts ⟨q, a⟩
  | ⟨.inr _, _⟩ => True

/-- What a task asks of the application. -/
def MayAsk (texts : String → Prop) : Task → AppQuery → Prop
  | .chat _, .inl q => ChatExecutes texts q
  | .refresh _, .inr _ => True
  | _, _ => False

theorem refreshLoop_asks (texts : String → Prop) (rounds observed : Nat) :
    (refreshLoop rounds).AsksWhile (AppReplies texts) (MayAsk texts (.refresh observed)) := by
  induction rounds with
  | zero => trivial
  | succ rounds ih =>
    refine ⟨trivial, fun _ _ => ⟨trivial, fun result _ => ?_⟩⟩
    cases result with
    | ok rows => exact ⟨trivial, fun _ _ => ⟨trivial, fun _ _ => ih⟩⟩
    | error text => exact ⟨trivial, fun _ _ => ih⟩

theorem task_mayAsk (app : App) (texts : String → Prop) (task : Task) :
    (task.prog app).AsksWhile (AppReplies texts) (MayAsk texts task) := by
  cases task with
  | chat req =>
    exact asksWhile_bind (asksWhile_liftLeft (chat_executes app req texts)) fun reply => trivial
  | refresh rounds => exact refreshLoop_asks texts rounds rounds

/-! ## On the event loop -/

/-- The answers, while the connector is connected. -/
def Told (tables texts : String → Prop) : ProcessEvent ε → Prop
  | ⟨.inl q, a⟩ => AppReplies texts ⟨q, a⟩
  | ⟨.inr op, a⟩ => Found ⟨op, a⟩ ∧ Lists tables ⟨op, a⟩

def SendsOnLoop (S : String → Prop) : ProcessQuery → Prop
  | .inr op => Sends S op
  | .inl _ => True

section Sends

variable {α : Type} {tables texts : String → Prop} (c : Connector) (d : Driver ε)

theorem onLoop_sends {S : String → Prop} {p : Steps ε α}
    (hp : p.AsksWhile (fun e => Found e ∧ Lists tables e) (Sends S)) :
    (onLoop p).AsksWhile (Told tables texts) (SendsOnLoop S) :=
  asksWhile_liftRight hp

theorem carryOut_sends (task : Task) (q : AppQuery) (hq : MayAsk texts task q) :
    (carryOut c d q).AsksWhile (Told tables texts)
      (SendsOnLoop (MaySend c tables texts (.app task))) := by
  have hfound : ∀ S : String → Prop, (∀ e : OpEvent Request.Answer ε, Found e ∧ Lists tables e →
      Found e) ∨ S foreignKeysOn := fun S => .inl fun e he => he.1
  obtain ((_ | sql | _ | _) | q) | (_ | _ | _ | _) := q
  case inl.inl.executeQuery =>
    cases task with
    | chat req => exact handed_asksWhile d (onLoop_sends (executeQuerySteps_sends (hfound _) c hq))
    | refresh rounds => exact hq.elim
  case inr.fetchSchema =>
    cases task with
    | chat req => exact hq.elim
    | refresh rounds =>
      exact handed_asksWhile d (onLoop_sends (fetchSchemaSteps_sends (hfound _) c (fun e he => he.2)
        fun sql hsql => hsql))
  all_goals exact ⟨trivial, fun _ _ => trivial⟩

/-- The replies of the chat model are handed over as they are. -/
theorem carryOut_ensures (q : AppQuery) :
    (carryOut c d q).Ensures (Told tables texts) fun a => AppReplies texts ⟨q, a⟩ := by
  obtain ((_ | sql | _ | _) | q) | (_ | _ | _ | _) := q
  case inl.inl.executeQuery => exact ensures_of_forall (fun _ => trivial) _
  case inr.fetchSchema => exact ensures_of_forall (fun _ => trivial) _
  all_goals exact fun a ha => ha

/-- **A task** sends what it may. -/
theorem prog_sends (app : App) (task : ProcessTask) :
    (task.prog app c d).AsksWhile (Told tables texts) (SendsOnLoop (MaySend c tables texts task)) := by
  cases task with
  | app task =>
    exact asksWhile_bind (asksWhile_expand_ensures (carryOut_sends c d task) (carryOut_ensures c d)
      (task_mayAsk app texts task)) fun reply => trivial
  | health =>
    refine asksWhile_bind (onLoop_sends (asksWhile_bind (asksWhile_tryCatch
      (healthcheckSteps_sends (.inl fun e he => he.1) c d.isException rfl) fun e => ?_)
      fun dbOk => trivial)) fun response => trivial
    split <;> trivial

end Sends

/-! ## Startup -/

/-- What a startup sends: it introspects, after it has set up a connection. -/
def StartupSends (py : Interpreter) (settings : LifespanSettings) (tables : String → Prop)
    (sql : String) : Prop :=
  sql = foreignKeysOn ∨ ∃ c, getConnector py.repr settings.factory = .ok c ∧
    (c.calls py.record).Introspects tables sql

def ToldAtStartup (tables : String → Prop) : StartupEvent ε → Prop
  | ⟨.inr op, a⟩ => Lists tables ⟨op, a⟩
  | ⟨.inl _, _⟩ => True

def SendsAtStartup (S : String → Prop) : LifespanQuery ⊕ Op Request → Prop
  | .inr op => Sends S op
  | .inl _ => True

theorem startup_sends (py : Interpreter) (settings : LifespanSettings) (tables : String → Prop) :
    (startup py settings : StartupProg ε Started).AsksWhile (ToldAtStartup tables)
      (SendsAtStartup (StartupSends py settings tables)) := by
  have hinfo : ∀ message, (info message : StartupProg ε Unit).AsksWhile (ToldAtStartup tables)
      (SendsAtStartup (StartupSends py settings tables)) :=
    fun message => ⟨trivial, fun _ _ => trivial⟩
  refine asksWhile_bind ⟨trivial, fun _ _ => asksWhile_ofExcept _⟩ fun _ =>
    asksWhile_bind (hinfo _) fun _ => ?_
  refine asksWhile_bind_ensures (M := fun c => getConnector py.repr settings.factory = .ok c)
    (asksWhile_ofExcept _) (ensures_ofExcept fun c hc => ?_) fun c hc => ?_
  · cases h : getConnector py.repr settings.factory with
    | ok c' =>
      rw [h] at hc
      cases hc
      rfl
    | error text =>
      rw [h] at hc
      cases hc
  refine asksWhile_bind (hinfo _) fun _ => asksWhile_bind (asksWhile_liftRight ?_) fun records => ?_
  · exact fetchSchemaSteps_sends (P := Lists tables) (S := StartupSends py settings tables)
      (.inr (.inl rfl)) (c.calls py.record) (fun e he => he) fun sql hsql => .inr ⟨c, hc, hsql⟩
  refine asksWhile_bind (hinfo _) fun _ => asksWhile_bind ?_ fun examples =>
    asksWhile_bind (hinfo _) fun _ => ?_
  · exact asksWhile_bind (asksWhile_ofExcept _) fun filename =>
      ⟨trivial, fun text _ => asksWhile_ofExcept _⟩
  refine asksWhile_bind ⟨trivial, fun _ _ => asksWhile_ofExcept _⟩ fun _ =>
    asksWhile_bind (hinfo _) fun _ => ?_
  exact asksWhile_bind ⟨trivial, fun _ _ => trivial⟩ fun _ => asksWhile_bind (hinfo _) fun _ => trivial

/-! ## The whole life -/

/-- The operations of the connector among the events of the startup. -/
def startupOps : List (StartupEvent ε) → List (OpEvent Request.Answer ε) :=
  List.filterMap fun
    | ⟨.inr op, a⟩ => some ⟨op, a⟩
    | ⟨.inl _, _⟩ => none

/-- The operations of the connector among the events of a task. -/
def taskOps : List (ProcessEvent ε) → List (OpEvent Request.Answer ε) :=
  List.filterMap fun
    | ⟨.inr op, a⟩ => some ⟨op, a⟩
    | ⟨.inl _, _⟩ => none

/-- What the chat model has replied to the generator. -/
def Written (events : List (ProcessEvent ε)) (text : String) : Prop :=
  ∃ prompt messages, prompt.isSql = true ∧
    (⟨.inl (.inl (.inl (.ainvoke prompt messages))), .ok text⟩ : ProcessEvent ε) ∈ events

theorem told_of_mem {events : List (ProcessEvent ε)} {e : ProcessEvent ε} (he : e ∈ events)
    (hfound : FoundHandle e) : Told (ListedIn (taskOps events)) (Written events) e := by
  obtain ⟨q | op, a⟩ := e
  · obtain (q | q) | q := q
    · cases q with
      | ainvoke prompt messages =>
        cases a with
        | ok text => exact fun hsql => ⟨prompt, messages, hsql, he⟩
        | error text => trivial
      | _ => trivial
    · trivial
    · trivial
  · exact ⟨hfound, lists_listedIn (List.mem_filterMap.2 ⟨_, he, rfl⟩)⟩

theorem toldAtStartup_of_mem {events : List (StartupEvent ε)} {e : StartupEvent ε} (he : e ∈ events) :
    ToldAtStartup (ListedIn (startupOps events)) e := by
  obtain ⟨q | op, a⟩ := e
  · trivial
  · exact lists_listedIn (List.mem_filterMap.2 ⟨_, he, rfl⟩)

/-- **What is sent.**  In the whole life of a process, a startup sends what it
takes to introspect the schema; after that a health check sends `SELECT 1`, the
refresh introspects, and a request sends what the chat model has written for
this very request and `validate_sql` accepts.  The tables whose structure is
asked for are those that the database has listed to the one that asks. -/
theorem statements_of_life [DecidableEq ι] {D : Deployment ε ι} {rounds : Nat}
    {t₁ : List (StartupEvent ε)} {started : Started} {t₂ : List (Option ι × ProcessEvent ε)}
    {pool : Option ι → ProcessProg ε Reply} {p : Process} {w : StartupWorld}
    (h : D.Serves rounds t₁ started t₂ pool p w) :
    (∀ pre e post, t₁ = pre ++ e :: post → ∀ k r sql, e.1 = .inr (.request k r) →
      r.statement = some sql → sql = foreignKeysOn ∨
        (started.connector.calls D.py.record).Introspects (ListedIn (startupOps pre)) sql) ∧
    ∀ pre i e post, t₂ = pre ++ (i, e) :: post → ∀ k r sql, e.1 = .inr (.request k r) →
      r.statement = some sql →
      MaySend (started.connector.calls D.py.record) (ListedIn (taskOps (eventsOf i pre)))
        (Written (eventsOf i pre)) (D.task rounds i) sql := by
  constructor
  · rintro pre ⟨q, a⟩ post rfl k r sql rfl hsql
    have hasked := h.start.runs.reaches.asked (startup_sends D.py D.settings _)
      fun e' he' => toldAtStartup_of_mem he'
    obtain ⟨-, hstarted, -⟩ := triple_startup D.py D.settings {} _ _ w rfl h.start
    rcases hasked sql hsql with hpragma | ⟨c, hc, hintrospects⟩
    · exact .inl hpragma
    · rw [hstarted] at hc
      cases hc
      exact .inr hintrospects
  · rintro pre i ⟨q, a⟩ post rfl k r sql rfl hsql
    have hevents : eventsOf i (pre ++ (i, ⟨.inr (.request k r), a⟩) :: post) =
        eventsOf i pre ++ ⟨.inr (.request k r), a⟩ :: eventsOf i post := by
      rw [eventsOf_append, eventsOf_cons_self]
    have hreaches := h.serve.reaches i
    rw [hevents] at hreaches
    have hfound := (serving h).2.2
    refine hreaches.asked (prog_sends _ D.driver (D.app started) (D.task rounds i)) ?_ sql hsql
    intro e' he'
    exact told_of_mem he' (hfound _ (List.mem_append_left _ (mem_eventsOf.1 he'))).2.1

theorem statements_of_life_sample :
    (∀ pre e post, sampleStartup.2.1 = pre ++ e :: post → ∀ k r sql, e.1 = .inr (.request k r) →
      r.statement = some sql → sql = foreignKeysOn ∨
        (sampleStarted.connector.calls sampleDeployment.py.record).Introspects
          (ListedIn (startupOps pre)) sql) ∧
    ∀ pre i e post, sampleServing.1 = pre ++ (i, e) :: post → ∀ k r sql,
      e.1 = .inr (.request k r) → r.statement = some sql →
      MaySend (sampleStarted.connector.calls sampleDeployment.py.record)
        (ListedIn (taskOps (eventsOf i pre))) (Written (eventsOf i pre))
        (sampleDeployment.task 1 i) sql :=
  statements_of_life sampleServing_serves

end UniversityQA.Guarantees
