import UniversityQA.Agent.SchemaPrompts
import UniversityQA.Guarantees.Statements

/-!
# One version of the schema for each request

The schema context is replaced while requests are served.  Every version of it
was rendered from one introspection that came to its end, and every request
keeps to the version that it found when it began.

* `KeepsSchemaContext`: how `app.state` answers;
* `startup_introspects`, `refresh_sets`: where versions come from;
* `schema_versions`: which one the chat model is shown.
-/

namespace UniversityQA.Guarantees

open UniversityQA.Py UniversityQA.Agent UniversityQA.Db UniversityQA.Api Coroutine SharedHandle

variable {ε ι : Type}

/-! ## The version in force -/

/-- `app.state.schema_context` is what was assigned last. -/
structure KeepsSchemaContext
    (answers : AppState → (q : AppQuery) → AppAnswer q → AppState → Prop) : Prop where
  read : ∀ {s v s'}, answers s (.inl (.inr .schemaContext)) v s' → v = s.schemaContext
  after : ∀ {s q a s'}, answers s q a s' → s'.schemaContext = schemaAfter s.schemaContext ⟨q, a⟩

theorem appStep_keepsSchemaContext (llm : List BaseMessage → Except String String)
    (connector : String → Except String (List Row)) : KeepsSchemaContext (appStep llm connector) where
  read h := h.1
  after {_ q a _} h := appStep_schemaContext (e := ⟨q, a⟩) h

/-- The version after an event. -/
def versionAfter (version : String) : ProcessEvent ε → String
  | ⟨.inl q, a⟩ => schemaAfter version ⟨q, a⟩
  | ⟨.inr _, _⟩ => version

/-- The version in force after the events. -/
def inForce (version : String) (events : List (ProcessEvent ε)) : String :=
  events.foldl versionAfter version

theorem follows_inForce {answers : AppState → (q : AppQuery) → AppAnswer q → AppState → Prop}
    (hanswers : KeepsSchemaContext answers) {p p' : Process} {tr : List (ProcessEvent ε)}
    (h : Follows (processStep answers) p tr p') :
    p'.app.schemaContext = inForce p.app.schemaContext tr := by
  induction tr generalizing p with
  | nil =>
    obtain rfl : p' = p := h
    rfl
  | cons e tr ih =>
    obtain ⟨p₁, hstep, hrest⟩ := h
    have hfirst : p₁.app.schemaContext = versionAfter p.app.schemaContext e := by
      obtain ⟨q | op, a⟩ := e
      · exact hanswers.after hstep.1
      · rw [hstep.2]
        rfl
    rw [ih hrest, hfirst]
    rfl

/-- What is read is in force. -/
theorem version_of_read {answers : AppState → (q : AppQuery) → AppAnswer q → AppState → Prop}
    (hanswers : KeepsSchemaContext answers) {p p' : Process} {pre post : List (ProcessEvent ε)}
    {version : String}
    (h : Follows (processStep answers) p
      (pre ++ ⟨.inl (.inl (.inr .schemaContext)), version⟩ :: post) p') :
    version = inForce p.app.schemaContext pre := by
  obtain ⟨p₁, hpre, p₂, hstep, -⟩ := follows_append.1 h
  rw [← follows_inForce hanswers hpre]
  exact hanswers.read hstep.1

/-! ## Where versions come from -/

/-- The last operations of the connector are an introspection, and the version
is rendered from its records. -/
def Introspected (c : Connector) (ops : List (OpEvent Request.Answer ε)) (version : String) : Prop :=
  ∃ records, Runs c.fetchSchemaSteps ops (.ok records) ∧ version = loadSchemaContext records

section Startup

variable {α β : Type}

def AsksLifespan : LifespanQuery ⊕ Op Request → Prop
  | .inl _ => True
  | .inr _ => False

theorem startupOps_append (t₁ t₂ : List (StartupEvent ε)) :
    startupOps (t₁ ++ t₂) = startupOps t₁ ++ startupOps t₂ := List.filterMap_append

theorem startupOps_of_asks {p : StartupProg ε α} (hp : p.Asks AsksLifespan)
    {t : List (StartupEvent ε)} {o : Except (StartupError ε) α} (h : Runs p t o) :
    startupOps t = [] := by
  refine List.filterMap_eq_nil_iff.2 fun e he => ?_
  have hasks := asks_of_mem_runs hp h he
  obtain ⟨q | op, a⟩ := e
  · rfl
  · exact hasks.elim

/-- Only the calls of the connector are left. -/
theorem startupOps_call (ops : List (OpEvent Request.Answer ε)) {t : List (StartupEvent ε)}
    (ht : startupOps t = []) : startupOps (ops.map Event.inr ++ t) = ops := by
  induction ops with
  | nil => exact ht
  | cons e ops ih => exact congrArg (e :: ·) ih

/-- A part of the startup that leaves the connector alone. -/
theorem startup_skip {p : StartupProg ε α} {f : α → StartupProg ε β} (hp : p.Asks AsksLifespan)
    {t : List (StartupEvent ε)} {b : β} (h : Runs (p >>= f) t (.ok b)) :
    ∃ a t', Runs (f a) t' (.ok b) ∧ startupOps t' = startupOps t := by
  rcases runs_bind.1 h with ⟨e, -, he⟩ | ⟨a, t₁, t₂, rfl, hfirst, hrest⟩
  · cases he
  · refine ⟨a, t₂, hrest, ?_⟩
    rw [startupOps_append, startupOps_of_asks hp hfirst, List.nil_append]

theorem startup_skips {p : StartupProg ε α} {f : α → StartupProg ε β} {M : β → Prop}
    (hf : ∀ a, (f a).Ensures (fun _ => True) M) : (p >>= f).Ensures (fun _ => True) M :=
  ensures_bind (ensures_of_forall (fun _ => trivial) p) fun a _ => hf a

theorem asksLifespan_ask {q : LifespanQuery} {k : LifespanAnswer q → StartupProg ε α}
    (hk : ∀ a, (k a).Asks AsksLifespan) :
    (.ask (.inl q) k : StartupProg ε α).Asks AsksLifespan :=
  ⟨trivial, hk⟩

/-- **The first version.**  A startup that succeeds introspects once. -/
theorem startup_introspects {py : Interpreter} {settings : LifespanSettings}
    {t : List (StartupEvent ε)} {started : Started}
    (h : Runs (startup py settings) t (.ok started)) :
    Introspected (started.connector.calls py.record) (startupOps t) started.schemaContext := by
  have hinfo : ∀ message, (info message : StartupProg ε Unit).Asks AsksLifespan :=
    fun message => asksLifespan_ask fun _ => trivial
  obtain ⟨-, t₁, h₁, hops₁⟩ := startup_skip (asksLifespan_ask fun _ => asks_ofExcept _) h
  obtain ⟨-, t₂, h₂, hops₂⟩ := startup_skip (hinfo _) h₁
  obtain ⟨connector, t₃, h₃, hops₃⟩ := startup_skip (asks_ofExcept _) h₂
  obtain ⟨-, t₄, h₄, hops₄⟩ := startup_skip (hinfo _) h₃
  rw [← hops₁, ← hops₂, ← hops₃, ← hops₄]
  rcases runs_bind.1 h₄ with ⟨e, -, he⟩ | ⟨records, u₁, u₂, rfl, hfetch, hrest⟩
  · cases he
  obtain ⟨ops, rfl, hrun⟩ := runs_liftRight hfetch
  have hlast : startupOps u₂ = [] := by
    refine startupOps_of_asks (asks_bind (hinfo _) fun _ => asks_bind ?_ fun examples =>
      asks_bind (hinfo _) fun _ => ?_) hrest
    · exact asks_bind (asks_ofExcept _) fun filename => asksLifespan_ask fun text => asks_ofExcept _
    refine asks_bind (asksLifespan_ask fun _ => asks_ofExcept _) fun _ =>
      asks_bind (hinfo _) fun _ => ?_
    exact asks_bind (asksLifespan_ask fun _ => trivial) fun _ => asks_bind (hinfo _) fun _ => trivial
  obtain ⟨hconnector, hcontext⟩ : started.connector = connector ∧
      started.schemaContext = loadSchemaContext records := by
    refine Prog.Ensures.runs (P := fun _ => True) (M := fun started : Started =>
      started.connector = connector ∧ started.schemaContext = loadSchemaContext records) ?_ hrest
      fun _ _ => trivial
    exact startup_skips fun _ => startup_skips fun _ => startup_skips fun _ => startup_skips
      fun _ => startup_skips fun _ => startup_skips fun _ => startup_skips fun _ => ⟨rfl, rfl⟩
  rw [startupOps_call ops hlast, hconnector]
  exact ⟨records, hrun, hcontext⟩

end Startup

/-- The assignment follows a call of `fetch_schema` that returned. -/
theorem refresh_sets {rounds : Nat} {ctr : List AppEvent} {version : String}
    {k : AppAnswer (.inr (.setSchemaContext version)) → AppProg (Option ChatReply)}
    (h : Reaches (refreshLoop rounds) ctr (.ask (.inr (.setSchemaContext version)) k)) :
    ∃ before rows, ctr = before ++ [⟨.inr .fetchSchema, .ok rows⟩] ∧
      version = loadSchemaContext rows := by
  induction rounds generalizing ctr with
  | zero => cases h
  | succ rounds ih =>
    cases h with
    | ask h₁ =>
      cases h₁ with
      | @ask _ _ result _ _ h₂ =>
        cases result with
        | ok rows =>
          cases h₂ with
          | refl => exact ⟨[_], rows, rfl, rfl⟩
          | ask h₃ =>
            cases h₃ with
            | ask h₄ =>
              obtain ⟨before, rows', rfl, hversion⟩ := ih h₄
              exact ⟨_ :: _ :: _ :: _ :: before, rows', rfl, hversion⟩
        | error text =>
          cases h₂ with
          | ask h₃ =>
            obtain ⟨before, rows', rfl, hversion⟩ := ih h₃
            exact ⟨_ :: _ :: _ :: before, rows', rfl, hversion⟩

section Refresh

variable {α : Type} (c : Connector) (d : Driver ε)

/-- Under way with something that is not the driver's: a query as it is. -/
theorem carryOut_reaches {q r : AppQuery} {t : List (ProcessEvent ε)}
    {k : AppAnswer r → ProcessProg ε (AppAnswer q)}
    (h : Reaches (carryOut c d q) t (.ask (.inl r) k)) : t = [] ∧ q = r := by
  obtain ((_ | sql | _ | _) | q) | (_ | _ | _ | _) := q
  case inl.inl.executeQuery => exact (asks_of_reaches (handed_asks d _) h).elim
  case inr.fetchSchema => exact (asks_of_reaches (handed_asks d _) h).elim
  all_goals
    cases h with
    | refl => exact ⟨rfl, rfl⟩
    | ask h => cases h

theorem runs_handed {d : Driver ε} {p : Steps ε α} {t : List (ProcessEvent ε)} {a : α}
    (h : Runs (handed d p) t (.ok (.ok a))) :
    ∃ ops : List (OpEvent Request.Answer ε), t = ops.map Event.inr ∧ Runs p ops (.ok a) := by
  rcases exec_tryCatch.1 h with ⟨b, hb, hok⟩ | ⟨e, _, t₁, t₂, rfl, -, hhandler⟩
  · cases hok
    rcases runs_bind.1 hb with ⟨e, -, he⟩ | ⟨b, t₁, t₂, rfl, hrun, hret⟩
    · cases he
    obtain ⟨rfl, heq⟩ := runs_ret.1 hret
    cases heq
    rw [List.append_nil]
    exact runs_liftRight hrun
  · cases e with
    | raised e => cases (exec_raise.1 hhandler).2.1
    | connector e =>
      dsimp only at hhandler
      split at hhandler
      · cases (exec_ret.1 hhandler).2.1
      · cases (exec_raise.1 hhandler).2.1

/-- **Later versions.**  Only the refresh assigns one, and the last thing it has
done is an introspection. -/
theorem task_sets {app : App} {task : ProcessTask} {events : List (ProcessEvent ε)} {version : String}
    {k : AppAnswer (.inr (.setSchemaContext version)) → ProcessProg ε Reply}
    (h : Reaches (task.prog app c d) events (.ask (.inl (.inr (.setSchemaContext version))) k)) :
    ∃ before ops, events = before ++ ops.map Event.inr ∧ Introspected c ops version := by
  cases task with
  | health =>
    rcases reaches_bind h with ⟨k', hfirst⟩ | ⟨_, _, _, rfl, -, hrest⟩
    · have hdriver : (onLoop (Api.health c d.isException)).Asks OfDriver :=
        asks_liftRight (asks_of_forall (fun _ => trivial) _)
      exact (asks_of_reaches hdriver hfirst).elim
    · cases hrest
  | app task =>
    rcases reaches_bind h with ⟨k', hfirst⟩ | ⟨_, _, _, rfl, -, hrest⟩
    · obtain ⟨ctr, q, kq, t₁, t₂, k'', rfl, hcarried, hcoarse, hunder⟩ := reaches_expand hfirst
      obtain ⟨rfl, rfl⟩ := carryOut_reaches c d hunder
      cases task with
      | chat req =>
        have hchat : ((Task.chat req).prog app).Asks fun q => q.isLeft = true :=
          asks_bind (asks_liftLeft (asks_of_forall (fun _ => rfl) _)) fun _ => trivial
        cases asks_of_reaches hchat hcoarse
      | refresh rounds =>
        obtain ⟨before, rows, rfl, hversion⟩ := refresh_sets hcoarse
        obtain ⟨t₃, t₄, rfl, hrun⟩ := hcarried.last
        obtain ⟨ops, rfl, hops⟩ := runs_handed hrun
        exact ⟨t₃, ops, List.append_nil _, rows, hops, hversion⟩
    · cases hrest

end Refresh

/-! ## What requests show -/

def ChatShows (version : String) : ChatQuery → Prop
  | .inl q => ShowsSchema version q
  | .inr .schemaContext => False
  | .inr _ => True

def AppShows (version : String) : AppQuery → Prop
  | .inl q => ChatShows version q
  | .inr _ => False

/-- Calls of the classifier and of the generator show this version, and the
schema context is not read. -/
def ShowsVersion (version : String) : ProcessQuery → Prop
  | .inl q => AppShows version q
  | .inr _ => True

theorem carryOut_shows (c : Connector) (d : Driver ε) (version : String) (q : AppQuery)
    (hq : AppShows version q) : (carryOut c d q).Asks (ShowsVersion version) := by
  have hdriver : ∀ r, OfDriver r → ShowsVersion version r := by
    rintro (r | op) hr
    · exact hr.elim
    · trivial
  obtain ((_ | sql | _ | _) | q) | (_ | _ | _ | _) := q
  case inl.inl.executeQuery => exact asks_mono hdriver (handed_asks d _)
  case inr.fetchSchema => exact asks_mono hdriver (handed_asks d _)
  all_goals exact ⟨hq, fun _ => trivial⟩

theorem chat_shows (app : App) (req : ChatRequest) : ∃ k : String → ChatProg ChatReply,
    chat app req = .ask (.inr .schemaContext) k ∧ ∀ version, (k version).Asks (ChatShows version) := by
  refine ⟨_, rfl, fun version => ⟨trivial, fun history => ⟨trivial, fun traceId => ?_⟩⟩⟩
  refine asks_bind (asks_tryCatch (asks_liftLeft (asks_showsSchema _ _)) fun _ => trivial) fun result => ?_
  exact ⟨trivial, fun _ => asks_ofExcept _⟩

/-- **A request** reads the schema context, and from then on shows what it has
read. -/
theorem prog_shows (app : App) (c : Connector) (d : Driver ε) (req : ChatRequest) :
    ∃ k : String → ProcessProg ε Reply,
      (ProcessTask.app (.chat req)).prog app c d = .ask (.inl (.inl (.inr .schemaContext))) k ∧
        ∀ version, (k version).Asks (ShowsVersion version) := by
  obtain ⟨k, hk, hshows⟩ := chat_shows app req
  refine ⟨fun version => ((k version).liftLeft >>= fun reply => .ret (some reply) :
    AppProg (Option ChatReply)).expand (carryOut c d) .raised >>= fun reply => .ret (.app reply),
    ?_, fun version => ?_⟩
  · rw [ProcessTask.prog, Task.steps, Task.prog, hk]
    rfl
  · exact asks_bind (asks_expand (carryOut_shows c d version) (asks_bind (asks_liftLeft (hshows version))
      fun reply => trivial)) fun reply => trivial

/-! ## The whole life -/

/-- **Versions of the schema.**  The startup and every refresh that replaces the
schema context have just introspected the schema, and render what they were
told.  A request reads the version in force when it begins, and it is this
version that all its calls of the classifier and the generator show, whatever
refreshes come in between. -/
theorem schema_versions [DecidableEq ι] {D : Deployment ε ι} {rounds : Nat}
    {t₁ : List (StartupEvent ε)} {started : Started} {t₂ : List (Option ι × ProcessEvent ε)}
    {pool : Option ι → ProcessProg ε Reply} {p : Process} {w : StartupWorld}
    (h : D.Serves rounds t₁ started t₂ pool p w) (hanswers : KeepsSchemaContext D.answers) :
    Introspected (started.connector.calls D.py.record) (startupOps t₁) started.schemaContext ∧
    (∀ pre i version a post, t₂ = pre ++ (i, ⟨.inl (.inr (.setSchemaContext version)), a⟩) :: post →
      ∃ before ops, eventsOf i pre = before ++ ops.map Event.inr ∧
        Introspected (started.connector.calls D.py.record) ops version) ∧
    ∀ i req, D.task rounds i = .app (.chat req) → eventsOf i t₂ ≠ [] →
      ∃ pre version post, t₂ = pre ++ (i, ⟨.inl (.inl (.inr .schemaContext)), version⟩) :: post ∧
        eventsOf i pre = [] ∧ version = inForce started.schemaContext (pre.map Prod.snd) ∧
        ∀ e ∈ eventsOf i post, ShowsVersion version e.1 := by
  refine ⟨startup_introspects h.start.runs, ?_, ?_⟩
  · rintro pre i version a post rfl
    have hreaches := h.serve.reaches i
    rw [eventsOf_append, eventsOf_cons_self] at hreaches
    obtain ⟨k, hbefore, -⟩ := hreaches.split
    exact task_sets _ _ hbefore
  · intro i req htask hne
    obtain ⟨pre, e, post, rfl, hpre⟩ := exists_first hne
    obtain ⟨k, hk, hshows⟩ := prog_shows (D.app started) (started.connector.calls D.py.record)
      D.driver req
    have hreaches := h.serve.reaches i
    rw [eventsOf_append, eventsOf_cons_self, hpre, List.nil_append, Deployment.pool, htask, hk]
      at hreaches
    cases hreaches with
    | @ask _ _ version _ _ hrest =>
      refine ⟨pre, version, post, rfl, hpre, ?_, fun e he => asks_of_mem_reaches (hshows version) hrest he⟩
      have hfollows := h.serve.follows
      rw [List.map_append, List.map_cons] at hfollows
      exact version_of_read hanswers hfollows

/-- A SQLite deployment whose server is asked a question. -/
def askedDeployment : Deployment Unit Unit :=
  { sampleDeployment with tasks := fun _ => .app (.chat sampleRequest) }

/-- The question comes in the middle of the first refresh, which ends before it
is answered. -/
def askedServing : List (Option Unit × ProcessEvent Unit) ×
    (Option Unit → ProcessProg Unit Reply) × Process :=
  interleave (processHandle (fun _ => .ok "") (fun _ => .ok []) emptyDatabase)
    (askedDeployment.pool sampleStarted 1) ⟨⟨"", .empty⟩, sampleStartup.2.2.handle⟩
    [none, none, some (), none, none, none, none, none, some (), some (), some ()]

theorem askedServing_serves : askedDeployment.Serves 1 sampleStartup.2.1 sampleStarted
    askedServing.1 askedServing.2.1 askedServing.2.2 sampleStartup.2.2 where
  start := sampleServing_serves.start
  serve := interleave_turns _ (processHandle_step _ _ _) _ _ _

theorem schema_versions_asked :
    Introspected (sampleStarted.connector.calls askedDeployment.py.record)
      (startupOps sampleStartup.2.1) sampleStarted.schemaContext ∧
    (∀ pre i version a post,
      askedServing.1 = pre ++ (i, ⟨.inl (.inr (.setSchemaContext version)), a⟩) :: post →
      ∃ before ops, eventsOf i pre = before ++ ops.map Event.inr ∧
        Introspected (sampleStarted.connector.calls askedDeployment.py.record) ops version) ∧
    ∀ i req, askedDeployment.task 1 i = .app (.chat req) → eventsOf i askedServing.1 ≠ [] →
      ∃ pre version post,
        askedServing.1 = pre ++ (i, ⟨.inl (.inl (.inr .schemaContext)), version⟩) :: post ∧
        eventsOf i pre = [] ∧ version = inForce sampleStarted.schemaContext (pre.map Prod.snd) ∧
        ∀ e ∈ eventsOf i post, ShowsVersion version e.1 :=
  schema_versions askedServing_serves (appStep_keepsSchemaContext _ _)

end UniversityQA.Guarantees
