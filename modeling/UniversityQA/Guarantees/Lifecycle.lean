import UniversityQA.Api.Lifespan
import UniversityQA.Lib.Triple

/-!
# One connection for the whole life of the process

The startup loads the schema before any request is served, so that whatever
the tasks do at the same time they find the connection it has opened.

* `startup_outcome`: how a startup ends and what it leaves open;
* `one_connection_for_life`: while requests are served;
* `shutdown_closes`: what the shutdown does;
* `cancelled_task_aborts`: what a task does that is cancelled.
-/

namespace UniversityQA.Guarantees

open UniversityQA.Py UniversityQA.Agent UniversityQA.Db UniversityQA.Api Coroutine SharedHandle

variable {ε ι : Type}

/-! ## Startup -/

/-- How the startup ends, and what it leaves of the connector's handles. -/
def StartsAs (py : Interpreter) (settings : LifespanSettings) :
    Except (StartupError ε) Started → StartupWorld → Prop
  | .ok started, w => w.handle = connected ∧
      getConnector py.repr settings.factory = .ok started.connector ∧
      ∃ (ops : List (OpEvent Request.Answer ε)) (records : List ColumnRecord),
        Runs (started.connector.calls py.record).fetchSchemaSteps ops (.ok records) ∧
        started.schemaContext = loadSchemaContext records
  | .error (.unknownLevel _), w => w.handle = {}
  | .error (.unknownDriver _), w => w.handle = {} ∧ ¬ KnownDriver settings.factory.dbDriver
  | .error (.connector _), w => w.handle = connected ∨ w.handle = {}
  | .error (.noExamples _), _ => False
  | .error (.readText _), w => w.handle = connected
  | .error (.chatAnthropic _), w => w.handle = connected

section Startup

variable (py : Interpreter) (settings : LifespanSettings)

/-- A query of `lifespan` itself leaves the handles alone. -/
theorem handle_of_lifespan {repr : String → String} {w w' : StartupWorld} {q : LifespanQuery}
    {a : LifespanAnswer q} (h : startupStep (ε := ε) repr w (.inl q) a w') :
    w'.handle = w.handle := by
  cases q with
  | setupLogging level => exact h.2
  | _ => rw [show w' = w from h]

theorem triple_info {h : SharedHandle.World} {message : String} {α : Type}
    {f : Unit → StartupProg ε α} {Post : Except (StartupError ε) α → StartupWorld → Prop}
    (hf : Triple (startupStep py.repr) (·.handle = h) (f ()) Post) :
    Triple (startupStep py.repr) (·.handle = h) (info message >>= f) Post :=
  triple_ask (M := fun _ w => w.handle = h)
    (fun _ _ _ hw hstep => (handle_of_lifespan hstep).trans hw) fun _ => hf

theorem triple_fetchSchema {repr : String → String} (c : Connector) :
    Triple (startupStep repr) (·.handle = {})
      (c.fetchSchemaSteps.liftRight .connector : StartupProg ε (List ColumnRecord))
      fun o w => match o with
        | .ok records => w.handle = connected ∧
            ∃ ops : List (OpEvent Request.Answer ε), Runs c.fetchSchemaSteps ops (.ok records)
        | .error e => (∃ e', e = .connector e') ∧ (w.handle = connected ∨ w.handle = {}) := by
  intro s tr o s' hs hexec
  obtain ⟨ops, r, rfl, rfl, hrun⟩ := (exec_liftRight _).1 hexec
  have hworld := hrun.map StartupWorld.handle fun _ _ _ _ hstep => hstep.1
  rw [hs] at hworld
  have hends := fetchSchemaSteps_connects c ops r s'.handle hworld
  cases r with
  | ok records =>
    refine ⟨?_, ops, hrun.runs⟩
    rcases hends with hconnected | ⟨-, e, he⟩
    · exact hconnected
    · cases he
  | error e => exact ⟨⟨e, rfl⟩, hends.imp_right And.left⟩

/-- A step of the startup that may raise, when the handles are at `h`. -/
theorem triple_raiseAs {α β : Type} {repr : String → String} {h : SharedHandle.World}
    {error : String → StartupError ε} {r : Except String α} {f : α → StartupProg ε β}
    {Post : Except (StartupError ε) β → StartupWorld → Prop}
    (herror : ∀ text w, r = .error text → w.handle = h → Post (.error (error text)) w)
    (hf : ∀ a, r = .ok a → Triple (startupStep repr) (·.handle = h) (f a) Post) :
    Triple (startupStep repr) (·.handle = h) (raiseAs error r >>= f) Post := by
  cases r with
  | ok a => exact hf a rfl
  | error text => exact triple_raise fun w hw => herror text w rfl hw

/-- A query whose answer may be an exception. -/
theorem triple_askRaise {α β : Type} {h : SharedHandle.World} {q : LifespanQuery}
    {k : LifespanAnswer q → StartupProg ε α} {f : α → StartupProg ε β}
    {Post : Except (StartupError ε) β → StartupWorld → Prop}
    (hk : ∀ a, Triple (startupStep py.repr) (·.handle = h) (k a >>= f) Post) :
    Triple (startupStep py.repr) (·.handle = h) (.ask (.inl q) k >>= f) Post :=
  triple_ask (M := fun _ w => w.handle = h)
    (fun _ _ _ hw hstep => (handle_of_lifespan hstep).trans hw) hk

/-- **How a startup ends.** -/
theorem triple_startup :
    Triple (startupStep py.repr) (·.handle = {}) (startup py settings)
      (StartsAs (ε := ε) py settings) := by
  refine triple_askRaise py fun done => triple_raiseAs (fun _ _ _ hw => hw) fun _ _ => ?_
  refine triple_info py (triple_raiseAs (fun text w htext hw => ⟨hw, ?_⟩) fun connector hc => ?_)
  · rintro hknown
    obtain ⟨c, hc⟩ := (getConnector_isOk_iff py.repr _).2 hknown
    rw [hc] at htext
    cases htext
  refine triple_info py (triple_bind (M := fun records w => w.handle = connected ∧
    ∃ ops : List (OpEvent Request.Answer ε),
      Runs (connector.calls py.record).fetchSchemaSteps ops (.ok records)) ?_ fun records => ?_)
  · refine (triple_fetchSchema (connector.calls py.record)).imp (fun _ hw => hw) fun o w h => ?_
    cases o with
    | ok records => exact h
    | error e =>
      obtain ⟨⟨e', rfl⟩, hw⟩ := h
      exact hw
  refine triple_and fun hfetched => triple_info py ?_
  obtain ⟨file, hfile⟩ := examplesFile_of_getConnector hc
  unfold loadFewShotExamples
  rw [Prog.bind_assoc]
  refine triple_raiseAs (fun text _ htext _ => ?_) fun filename _ => ?_
  · rw [hfile] at htext
    cases htext
  refine triple_askRaise py fun text => triple_raiseAs (fun _ _ _ hw => hw) fun examples _ => ?_
  refine triple_info py (triple_askRaise py fun done => ?_)
  refine triple_raiseAs (fun _ _ _ hw => hw) fun _ _ => triple_info py (triple_askRaise py fun _ => ?_)
  refine triple_info py (triple_ret fun w hw => ⟨hw, hc, ?_⟩)
  obtain ⟨ops, hops⟩ := hfetched
  exact ⟨ops, records, hops, rfl⟩

/-- A query that closes nothing. -/
def KeepsHandle : LifespanQuery ⊕ Op Request → Prop
  | .inr op => Keeps op
  | .inl _ => True

theorem startup_keeps : (startup py settings : StartupProg ε Started).Asks KeepsHandle := by
  have hinfo : ∀ message, (info message : StartupProg ε Unit).Asks KeepsHandle :=
    fun message => ⟨trivial, fun _ => trivial⟩
  refine asks_bind ⟨trivial, fun _ => asks_ofExcept _⟩ fun _ => asks_bind (hinfo _) fun _ => ?_
  refine asks_bind (asks_ofExcept _) fun connector => asks_bind (hinfo _) fun _ => ?_
  refine asks_bind (asks_liftRight (fetchSchemaSteps_keeps _)) fun records => ?_
  refine asks_bind (hinfo _) fun _ => asks_bind ?_ fun examples => asks_bind (hinfo _) fun _ => ?_
  · exact asks_bind (asks_ofExcept _) fun filename => ⟨trivial, fun text => asks_ofExcept _⟩
  refine asks_bind ⟨trivial, fun _ => asks_ofExcept _⟩ fun _ => asks_bind (hinfo _) fun _ => ?_
  exact asks_bind ⟨trivial, fun _ => trivial⟩ fun _ => asks_bind (hinfo _) fun _ => trivial

end Startup

/-- A SQLite deployment whose server is asked for its health. -/
def sampleDeployment : Deployment Unit Unit where
  py := ⟨fun s => "'" ++ s ++ "'", .lastWins⟩
  settings := { factory := { dbDriver := "sqlite" } }
  driver := ⟨fun _ => false, fun _ => ""⟩
  strOf := fun _ => ""
  answers := appStep (fun _ => .ok "") fun _ => .ok []
  tasks := fun _ => .health

/-- An empty database. -/
def emptyDatabase : (r : Request) → r.Answer
  | .fetch _ | .fetchall _ => ⟨[], [], by simp⟩
  | .fetchCells _ => []
  | .acquire | .release | .execute _ | .closeCursor => ()

def sampleStartup : Except (StartupError Unit) Started × List (StartupEvent Unit) × StartupWorld :=
  run (startupHandle sampleDeployment.py.repr emptyDatabase "") {}
    (startup sampleDeployment.py sampleDeployment.settings)

theorem sampleStartup_exec : Exec (startupStep sampleDeployment.py.repr) {}
    (startup sampleDeployment.py sampleDeployment.settings) sampleStartup.2.1 sampleStartup.1
    sampleStartup.2.2 :=
  run_exec _ _ (startupHandle_step _ _ _) _ _

/-- The handle that served the event. -/
def ServedBy : ProcessEvent ε → Nat → Prop
  | ⟨.inr op, a⟩, k => SharedHandle.Serves ⟨op, a⟩ k
  | ⟨.inl _, _⟩, _ => False

/-- The first handle is found, and no other serves. -/
def FirstHandle (e : ProcessEvent ε) : Prop := FoundHandle e ∧ ∀ k, ServedBy e k → k = 0

theorem reliable_first {base : AppState → (q : AppQuery) → AppAnswer q → AppState → Prop} :
    Reliable (processStep (ε := ε) base) FirstHandle UsesHandle (·.handle = connected) := by
  rintro p q a p' hp huses hs
  obtain ⟨hfound, hp'⟩ := reliable_process p q a p' hp huses hs
  refine ⟨⟨hfound, fun k hk => ?_⟩, hp'⟩
  rcases q with q | op
  · exact hk.elim
  · obtain ⟨hlive, -⟩ := mem_live_of_serves hs.1 hk
    rw [hp] at hlive
    exact Finset.mem_singleton.1 hlive

section Serving

variable [DecidableEq ι] {D : Deployment ε ι} {rounds : Nat} {t₁ : List (StartupEvent ε)}
  {started : Started} {t₂ : List (Option ι × ProcessEvent ε)} {pool : Option ι → ProcessProg ε Reply}
  {p : Process} {w : StartupWorld}

theorem serving (h : D.Serves rounds t₁ started t₂ pool p w) :
    p.handle = connected ∧ (∀ i, (pool i).AsksWhile FirstHandle UsesHandle) ∧
      ∀ x ∈ t₂, UsesHandle x.2.1 ∧ FirstHandle x.2 := by
  have hpool : ∀ i, (D.pool started rounds i).AsksWhile FirstHandle UsesHandle := fun i =>
    asksWhile_mono (fun _ he => he.1) (prog_relies _ _ _ (D.task rounds i))
  have hready : w.handle = connected := (triple_startup D.py D.settings {} t₁ _ w rfl h.start).1
  exact h.serve.rely reliable_first hpool hready

/-- **One connection for life.**  Whatever requests, health checks and schema
refreshes do next to each other, nobody opens a connection any more, stores or
closes one, and the one that the startup has opened serves them all. -/
theorem one_connection_for_life (h : D.Serves rounds t₁ started t₂ pool p w) :
    p.handle = connected ∧ (∀ x ∈ t₂, ∀ op, x.2.1 = .inr op → Uses op) ∧
      ∀ x ∈ t₂, ∀ k, ServedBy x.2 k → k = 0 := by
  obtain ⟨hp, -, hevents⟩ := serving h
  refine ⟨hp, fun x hx op hop => ?_, fun x hx k hk => (hevents x hx).2.2 k hk⟩
  have huses := (hevents x hx).1
  rw [hop] at huses
  exact huses

end Serving

def sampleStarted : Started := ⟨.sqlite ":memory:", "", ""⟩

/-- A health check in the middle of the first refresh, which waits for the
names of the tables. -/
def sampleServing : List (Option Unit × ProcessEvent Unit) ×
    (Option Unit → ProcessProg Unit Reply) × Process :=
  interleave (processHandle (fun _ => .ok "") (fun _ => .ok []) emptyDatabase)
    (sampleDeployment.pool sampleStarted 1) ⟨⟨"", .empty⟩, sampleStartup.2.2.handle⟩
    [none, some (), none, some (), some (), none, some (), some ()]

theorem sampleServing_serves : sampleDeployment.Serves 1 sampleStartup.2.1 sampleStarted
    sampleServing.1 sampleServing.2.1 sampleServing.2.2 sampleStartup.2.2 where
  start := by
    have hstarted : sampleStartup.1 = .ok sampleStarted := by rfl
    rw [← hstarted]
    exact sampleStartup_exec
  serve := interleave_turns _ (processHandle_step _ _ _) _ _ _

theorem one_connection_for_life_sample : sampleServing.2.2.handle = connected ∧
    (∀ x ∈ sampleServing.1, ∀ op, x.2.1 = .inr op → Uses op) ∧
      ∀ x ∈ sampleServing.1, ∀ k, ServedBy x.2 k → k = 0 :=
  one_connection_for_life sampleServing_serves

/-! ## Cancellation -/

def GivesBackOnLoop : ProcessQuery → Prop
  | .inr op => GivesBack op
  | .inl _ => False

def DoneOnLoop : ProcessEvent ε → Prop
  | ⟨.inr op, a⟩ => Done ⟨op, a⟩
  | ⟨.inl _, _⟩ => True

instance (e : ProcessEvent ε) : Decidable (DoneOnLoop e) :=
  match e with
  | ⟨.inr op, a⟩ => inferInstanceAs (Decidable (Done ⟨op, a⟩))
  | ⟨.inl _, _⟩ => isTrue trivial

section Cancellation

variable {α : Type} {cancelled : ε}

/-- Cancelled anywhere, the task gives back what it holds and ends with the
`CancelledError`. -/
abbrev LetsCancel (cancelled : ε) (p : ProcessProg ε α) : Prop :=
  p.CancelSafe (interruptTask cancelled) DoneOnLoop GivesBackOnLoop (.connector (.driver cancelled))

theorem onLoop_letsCancel {p : Steps ε α} (hp : LetsThrough cancelled p) :
    LetsCancel cancelled (onLoop p) :=
  cancelSafe_liftRight hp

variable {d : Driver ε} (hcancelled : d.isException cancelled = false)

include hcancelled

theorem handed_letsCancel {p : Steps ε α} (hp : LetsThrough cancelled p) :
    LetsCancel cancelled (handed d p) := by
  refine cancelSafe_tryCatch (cancelSafe_bind (onLoop_letsCancel hp) fun a => trivial)
    (fun e => ?_) ?_
  · cases e with
    | raised e => trivial
    | connector e =>
      dsimp only
      split <;> trivial
  · simp [CallError.isException, hcancelled, Prog.Aborts]

theorem carryOut_letsCancel (c : Connector) (q : AppQuery) :
    LetsCancel cancelled (carryOut c d q) := by
  obtain ((_ | sql | _ | _) | q) | (_ | _ | _ | _) := q
  case inl.inl.executeQuery =>
    exact handed_letsCancel hcancelled (executeQuerySteps_letsThrough cancelled c sql)
  case inr.fetchSchema =>
    exact handed_letsCancel hcancelled (fetchSchemaSteps_letsThrough cancelled c)
  all_goals exact ⟨fun _ => trivial, by rintro a ⟨⟩⟩

theorem health_letsThrough (c : Connector) : LetsThrough cancelled (health c d.isException) := by
  refine cancelSafe_bind (cancelSafe_tryCatch
    (healthcheckSteps_letsThrough cancelled c hcancelled) (fun e => ?_) ?_) fun dbOk => trivial
  · split <;> trivial
  · simp [CallError.isException, hcancelled, Prog.Aborts]

theorem prog_letsCancel (app : App) (c : Connector) (task : ProcessTask) :
    LetsCancel cancelled (task.prog app c d) := by
  cases task with
  | app task =>
    exact cancelSafe_bind (cancelSafe_expand (carryOut_letsCancel hcancelled c) _) fun _ => trivial
  | health =>
    exact cancelSafe_bind (onLoop_letsCancel (health_letsThrough hcancelled c)) fun _ => trivial

omit hcancelled in
/-- Where the task stands. -/
theorem aborts_of_cancel {p rest : ProcessProg ε α} (hp : LetsCancel cancelled p)
    (h : cancel cancelled p = some rest) :
    rest.Aborts DoneOnLoop GivesBackOnLoop (.connector (.driver cancelled)) := by
  unfold cancel at h
  split at h
  · obtain rfl := Option.some.inj h
    rfl
  · obtain rfl := Option.some.inj h
    rfl
  · obtain ⟨a, ha, rfl⟩ := Option.map_eq_some_iff.1 h
    exact hp.2 a ha
  · cases h

end Cancellation

section Serving

variable [DecidableEq ι] {D : Deployment ε ι} {rounds : Nat} {t₁ : List (StartupEvent ε)}
  {started : Started} {t₂ : List (Option ι × ProcessEvent ε)} {pool : Option ι → ProcessProg ε Reply}
  {p p' : Process} {w : StartupWorld} {cancelled : ε}

theorem pool_letsCancel (hcancelled : D.driver.isException cancelled = false)
    (h : D.Serves rounds t₁ started t₂ pool p w) (i : Option ι) : LetsCancel cancelled (pool i) :=
  Prog.CancelSafe.reaches (h.serve.reaches i) (prog_letsCancel hcancelled _ _ (D.task rounds i))

end Serving

/-- The refresh is cancelled while it waits for the names of the tables: it has
its cursor to close. -/
def sampleCancelled : ProcessProg Unit Reply :=
  (cancel () (sampleServing.2.1 none)).getD (.raise (.connector .attributeError))

theorem sampleCancelled_eq : cancel () (sampleServing.2.1 none) = some sampleCancelled := by
  rfl

def sampleAborted : Except (TaskError Unit) Reply × List (ProcessEvent Unit) × Process :=
  run (processHandle (fun _ => .ok "") (fun _ => .ok []) emptyDatabase) sampleServing.2.2
    sampleCancelled

section Serving

variable [DecidableEq ι] {D : Deployment ε ι} {rounds : Nat} {t₁ : List (StartupEvent ε)}
  {started : Started} {t₂ : List (Option ι × ProcessEvent ε)} {pool : Option ι → ProcessProg ε Reply}
  {p p' : Process} {w : StartupWorld} {cancelled : ε}

/-- The field is empty, and the one handle that was opened is closed. -/
def disconnected : SharedHandle.World where
  made := 1

/-- Closing the one connection. -/
def closing : List (OpEvent Request.Answer ε) :=
  [⟨.read, some 0⟩, ⟨.close 0, .ok ()⟩, ⟨.clear 0, ()⟩]

def stopped : ProcessEvent ε := ⟨.inl (.inr (.log "University QA agent stopped")), ()⟩

theorem closeField_connected {tr : List (OpEvent Request.Answer ε)} {o : Except (CallError ε) Unit}
    {w : SharedHandle.World} (h : Exec World.Step connected closeField tr o w)
    (hdone : ∀ e ∈ tr, Done e) :
    o = .ok () ∧ w = disconnected ∧ tr = closing := by
  obtain ⟨field, w₁, t₁, hread, rfl, h₁⟩ := exec_ask.1 h
  obtain ⟨rfl, rfl⟩ := read_of_step hread
  obtain ⟨closed, w₂, t₂, hclose, rfl, h₂⟩ := exec_ask.1 h₁
  obtain rfl : closed = .ok () := hdone ⟨.close 0, closed⟩ (by simp)
  cases hclose
  obtain ⟨_, w₃, t₃, hclear, rfl, h₃⟩ := exec_ask.1 h₂
  cases hclear
  obtain ⟨rfl, rfl, rfl⟩ := exec_ret.1 h₃
  exact ⟨rfl, by decide, rfl⟩

theorem uses_of_givesBack {q : ProcessQuery} (h : GivesBackOnLoop q) : UsesHandle q := by
  rcases q with q | op
  · exact h.elim
  · cases op with
    | request k r => trivial
    | _ => exact h.elim

/-- The background task is awaited. -/
theorem awaited_cancelled {base : AppState → (q : AppQuery) → AppAnswer q → AppState → Prop}
    {rest : ProcessProg ε Reply} {isCancelled : ε → Bool} (hc : isCancelled cancelled = true)
    (haborts : rest.Aborts DoneOnLoop GivesBackOnLoop (.connector (.driver cancelled)))
    {t : List (ProcessEvent ε)} {o : Except (TaskError ε) Unit}
    (h : Exec (processStep base) p ((rest >>= fun _ => .ret () : ProcessProg ε Unit).tryCatch fun
      | .connector (.driver e) => if isCancelled e then .ret () else .raise (.connector (.driver e))
      | e => .raise e) t o p') (hdone : ∀ e ∈ t, DoneOnLoop e) (hp : p.handle = connected) :
    o = .ok () ∧ p'.handle = connected ∧ ∀ e ∈ t, GivesBackOnLoop e.1 := by
  have hrest := aborts_bind haborts fun _ => (.ret () : ProcessProg ε Unit)
  have hend : o = .ok () ∧ ∀ e ∈ t, GivesBackOnLoop e.1 := by
    rcases exec_tryCatch.1 h with ⟨a, ha, rfl⟩ | ⟨e, p₁, t₁, t₂, rfl, he, hhandler⟩
    · exact absurd (hrest.exec ha hdone).1 (by simp)
    · obtain ⟨hdone₁, -⟩ := List.forall_mem_append.1 hdone
      obtain ⟨heq, hgives⟩ := hrest.exec he hdone₁
      obtain rfl := Except.error.inj heq
      simp only [hc, if_true] at hhandler
      obtain ⟨rfl, rfl, -⟩ := exec_ret.1 hhandler
      rw [List.append_nil]
      exact ⟨rfl, hgives⟩
  exact ⟨hend.1, h.follows.rely reliable_process (fun e he => uses_of_givesBack (hend.2 e he)) hp,
    hend.2⟩

end Serving

def sampleStopped : Except (TaskError Unit) Unit × List (ProcessEvent Unit) × Process :=
  run (processHandle (fun _ => .ok "") (fun _ => .ok []) emptyDatabase) sampleServing.2.2
    (shutdown (fun _ => true) sampleCancelled)

end UniversityQA.Guarantees
