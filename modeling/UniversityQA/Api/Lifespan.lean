import UniversityQA.Agent.Tracing
import UniversityQA.Api.Process
import UniversityQA.Db.Cancelled
import UniversityQA.Db.Factory

/-!
# The lifespan of the application

What happens before the first request and after the last one.

* `startup`: `lifespan` up to its `yield`; `Started` is what it leaves in
  `app.state`;
* `shutdown`: `lifespan` from there on, `cancel` what it does to the
  background task;
* `startupStep`: the world of the startup;
* `Deployment.Serves`, `Deployment.Stops`: a process up to some moment, and its
  end;
* `startupHandle`, `processHandle`: worlds that can be run.
-/

namespace UniversityQA.Api

open UniversityQA.Py UniversityQA.Agent UniversityQA.Db Coroutine SharedHandle

variable {ε ι : Type}

/-! ## Startup -/

/-- The fields of `Settings` that `lifespan` and the requests read. -/
structure LifespanSettings where
  logLevel : String := "INFO"
  factory : FactorySettings := {}
  anthropicApiKey : String := ""
  agent : Settings := {}

/-- What `lifespan` does besides using the connector. -/
inductive LifespanQuery where
  | setupLogging (level : String)
  | info (message : String)
  | readText (filename : String)
  | chatAnthropic (model : String) (apiKey : Option String)
  | buildGraph

/-- An exception is handed over with its text. -/
abbrev LifespanAnswer : LifespanQuery → Type
  | .setupLogging _ => Except String Unit
  | .info _ => Unit
  | .readText _ => Except String String
  | .chatAnthropic _ _ => Except String Unit
  | .buildGraph => Unit

/-- What a startup can raise. -/
inductive StartupError (ε : Type) where
  | unknownLevel (text : String)
  | unknownDriver (text : String)
  | connector (e : CallError ε)
  | noExamples (text : String)
  | readText (text : String)
  | chatAnthropic (text : String)

abbrev StartupAnswer (ε : Type) : LifespanQuery ⊕ Op Request → Type :=
  Sum.elim LifespanAnswer (Op.Answer Request.Answer ε)

abbrev StartupEvent (ε : Type) := Event (LifespanQuery ⊕ Op Request) (StartupAnswer ε)

abbrev StartupProg (ε α : Type) :=
  Prog (LifespanQuery ⊕ Op Request) (StartupAnswer ε) (StartupError ε) α

/-- `app.state` when the requests begin. -/
structure Started where
  connector : NewConnector
  schemaContext : String
  fewShotExamples : String

def info (message : String) : StartupProg ε Unit := .ask (.inl (.info message)) fun _ => .ret ()

def raiseAs {α : Type} (error : String → StartupError ε) (r : Except String α) : StartupProg ε α :=
  Prog.ofExcept (r.mapError error)

/-- The interpreter's `repr` of a string, and `dict(record)` of the driver's
records. -/
structure Interpreter where
  repr : String → String
  record : RecordDict

/-- `load_few_shot_examples`. -/
def loadFewShotExamples (py : Interpreter) (driver : String) : StartupProg ε String := do
  let filename ← raiseAs .noExamples (examplesFile py.repr driver)
  .ask (.inl (.readText filename)) fun text => raiseAs .readText text

/-- `lifespan` before its `yield`. -/
def startup (py : Interpreter) (settings : LifespanSettings) : StartupProg ε Started := do
  .ask (.inl (.setupLogging settings.logLevel)) fun done => raiseAs .unknownLevel done
  info "Starting university QA agent"
  let connector ← raiseAs .unknownDriver (getConnector py.repr settings.factory)
  info ("Database connector created (driver=" ++ settings.factory.dbDriver ++ ")")
  let records ← (connector.calls py.record).fetchSchemaSteps.liftRight .connector
  let schemaContext := loadSchemaContext records
  info "Schema context loaded"
  let fewShotExamples ← loadFewShotExamples py settings.factory.dbDriver
  info ("Few-shot examples loaded (driver=" ++ settings.factory.dbDriver ++ ")")
  .ask (.inl (.chatAnthropic "claude-sonnet-4-6"
    (if settings.anthropicApiKey = "" then none else some settings.anthropicApiKey)))
    fun done => raiseAs .chatAnthropic done
  info "LLM initialised (model=claude-sonnet-4-6)"
  .ask (.inl .buildGraph) fun _ => .ret ()
  info "LangGraph graph compiled"
  return ⟨connector, schemaContext, fewShotExamples⟩

/-- The logger, and the connector's field and handles. -/
structure StartupWorld where
  logger : Logger := {}
  handle : SharedHandle.World := {}

def startupStep (repr : String → String) (w : StartupWorld) :
    (q : LifespanQuery ⊕ Op Request) → StartupAnswer ε q → StartupWorld → Prop
  | .inl (.setupLogging level), done, w' =>
    (done, w'.logger) = Agent.setupLogging repr level w.logger ∧ w'.handle = w.handle
  | .inl _, _, w' => w' = w
  | .inr op, a, w' => w.handle.Step op a w'.handle ∧ w'.logger = w.logger

/-! ## Shutdown -/

/-- What a cancelled task is answered where it awaits the driver. -/
def interruptTask (cancelled : ε) : (q : ProcessQuery) → Option (ProcessAnswer ε q)
  | .inr op => interrupt cancelled op
  | .inl _ => none

/-- `task.cancel()` while the task stands at an `await`: that raises the
`CancelledError`.  `none` is a task that stands at no `await`. -/
def cancel {α : Type} (cancelled : ε) : ProcessProg ε α → Option (ProcessProg ε α)
  -- nothing around these two catches it
  | .ask (.inl (.inr (.sleep _))) _ => some (.raise (.connector (.driver cancelled)))
  | .ask (.inl (.inl (.inl (.ainvoke _ _)))) _ => some (.raise (.connector (.driver cancelled)))
  | .ask q k => (interruptTask cancelled q).map k
  | _ => none

/-- `lifespan` after its `yield`, where `refreshTask` is the rest of the
background task once it is cancelled. -/
def shutdown (isCancelled : ε → Bool) (refreshTask : ProcessProg ε Reply) : ProcessProg ε Unit := do
  (do
    let _ ← refreshTask
    return () : ProcessProg ε Unit).tryCatch fun
      | .connector (.driver e) =>
        if isCancelled e then .ret () else .raise (.connector (.driver e))
      | e => .raise e
  onLoop closeField
  .ask (.inl (.inr (.log "University QA agent stopped"))) fun _ => .ret ()

/-! ## The whole life -/

/-- What a deployment is given: its settings, the driver, how everything but
the driver answers, and what the server has to run for its clients. -/
structure Deployment (ε ι : Type) where
  py : Interpreter
  settings : LifespanSettings
  driver : Driver ε
  strOf : Json → String
  answers : AppState → (q : AppQuery) → AppAnswer q → AppState → Prop
  tasks : ι → ProcessTask

/-- The application that the requests see. -/
def Deployment.app (D : Deployment ε ι) (started : Started) : App where
  settings := D.settings.agent
  fewShotExamples := started.fewShotExamples
  strOf := D.strOf

/-- The background task at `none`, observed for so many rounds, and the tasks
for the clients. -/
def Deployment.task (D : Deployment ε ι) (rounds : Nat) : Option ι → ProcessTask
  | none => .app (.refresh rounds)
  | some i => D.tasks i

def Deployment.pool (D : Deployment ε ι) (started : Started) (rounds : Nat) (i : Option ι) :
    ProcessProg ε Reply :=
  (D.task rounds i).prog (D.app started) (started.connector.calls D.py.record) D.driver

/-- The process has started by the events `t₁` and served by the turns `t₂`;
the tasks are now at `pool`. -/
structure Deployment.Serves [DecidableEq ι] (D : Deployment ε ι) (rounds : Nat)
    (t₁ : List (StartupEvent ε)) (started : Started) (t₂ : List (Option ι × ProcessEvent ε))
    (pool : Option ι → ProcessProg ε Reply) (p : Process) (w : StartupWorld) : Prop where
  start : Exec (startupStep D.py.repr) {} (startup D.py D.settings) t₁ (.ok started) w
  serve : Turns (processStep D.answers) (D.pool started rounds)
    ⟨⟨started.schemaContext, .empty⟩, w.handle⟩ t₂ pool p

/-- Then it shuts down, and the background task is cancelled where it stands. -/
def Deployment.Stops (D : Deployment ε ι) (cancelled : ε) (isCancelled : ε → Bool)
    (pool : Option ι → ProcessProg ε Reply) (p : Process) (t₃ : List (ProcessEvent ε))
    (o : Except (TaskError ε) Unit) (p' : Process) : Prop :=
  ∃ rest, cancel cancelled (pool none) = some rest ∧
    Exec (processStep D.answers) p (shutdown isCancelled rest) t₃ o p'

/-! ## Executable worlds -/

/-- A driver that answers everything; `answer` are its answers on a handle that
is open. -/
def serveOp (answer : (r : Request) → r.Answer) (w : SharedHandle.World) :
    (op : Op Request) → Op.Answer Request.Answer Unit op × SharedHandle.World
  | .read => (w.field, w)
  | .connect => (.ok w.made, w.opened)
  | .store h => ((), w.set (some h))
  | .request h r => (if h ∈ w.live then .ok (answer r) else .error (), w)
  | .close h => (.ok (), w.closed h)
  | .clear _ => ((), w.set none)

theorem serveOp_step (answer : (r : Request) → r.Answer) (w : SharedHandle.World) (op : Op Request) :
    w.Step op (serveOp answer w op).1 (serveOp answer w op).2 := by
  cases op with
  | read => exact .read
  | connect => exact .connected
  | store h => exact .store
  | request h r =>
    change w.Step (.request h r) (if h ∈ w.live then .ok (answer r) else .error ()) w
    split
    · next hlive => exact .served hlive
    · exact .failed
  | close h => exact .closed
  | clear h => exact .clear

/-- A startup on a disk that has every file, each of the text `text`. -/
def startupHandle (repr : String → String) (answer : (r : Request) → r.Answer) (text : String)
    (w : StartupWorld) :
    (q : LifespanQuery ⊕ Op Request) → StartupAnswer Unit q × StartupWorld
  | .inl (.setupLogging level) =>
    let r := Agent.setupLogging repr level w.logger
    (r.1, { w with logger := r.2 })
  | .inl (.info _) => ((), w)
  | .inl (.readText _) => (.ok text, w)
  | .inl (.chatAnthropic _ _) => (.ok (), w)
  | .inl .buildGraph => ((), w)
  | .inr op =>
    let r := serveOp answer w.handle op
    (r.1, { w with handle := r.2 })

theorem startupHandle_step (repr : String → String) (answer : (r : Request) → r.Answer)
    (text : String) (w : StartupWorld) (q : LifespanQuery ⊕ Op Request) :
    startupStep repr w q (startupHandle repr answer text w q).1
      (startupHandle repr answer text w q).2 := by
  obtain (_ | _ | _ | _ | _) | op := q
  case inr => exact ⟨serveOp_step answer w.handle op, rfl⟩
  case inl.setupLogging => exact ⟨rfl, rfl⟩
  all_goals rfl

/-- The application of `appHandle` over such a driver. -/
def processHandle (llm : List BaseMessage → Except String String)
    (connector : String → Except String (List Row)) (answer : (r : Request) → r.Answer)
    (p : Process) : (q : ProcessQuery) → ProcessAnswer Unit q × Process
  | .inl q =>
    let r := appHandle llm connector (fun _ => .ok []) (fun _ => "t") (p.app, 0) q
    (r.1, { p with app := r.2.1 })
  | .inr op =>
    let r := serveOp answer p.handle op
    (r.1, { p with handle := r.2 })

theorem processHandle_step (llm : List BaseMessage → Except String String)
    (connector : String → Except String (List Row)) (answer : (r : Request) → r.Answer)
    (p : Process) (q : ProcessQuery) :
    processStep (appStep llm connector) p q (processHandle llm connector answer p q).1
      (processHandle llm connector answer p q).2 := by
  cases q with
  | inl q => exact ⟨appHandle_step _ _ (p.app, 0) q, rfl⟩
  | inr op => exact ⟨serveOp_step answer p.handle op, rfl⟩

end UniversityQA.Api
