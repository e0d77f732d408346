import UniversityQA.Api.Main
import UniversityQA.Db.Connected

/-!
# The process, await by await

The tasks of the event loop with the calls of the connector taken apart into
what they await of the driver.

* `carryOut`: what a request to the connector is carried out by;
* `health`: the handler of `GET /health`;
* `ProcessTask.prog`: what runs;
* `processStep`: the shared state, the connector's field and handles with it;
  `reliable_process` says that a connected connector stays as it is.
-/

namespace UniversityQA.Api

open UniversityQA.Py UniversityQA.Agent UniversityQA.Db Coroutine SharedHandle

variable {ε α : Type}

/-! ## Exceptions -/

/-- The driver's exceptions: which of them are `Exception`s, and the `str` of
what leaves a call of the connector. -/
structure Driver (ε : Type) where
  isException : ε → Bool
  str : CallError ε → String

/-- The connector raises `Exception`s of its own only. -/
def CallError.isException (isException : ε → Bool) : CallError ε → Bool
  | .driver e => isException e
  | _ => true

/-- What ends a task: an exception of the handler, or one that came through a
call of the connector. -/
inductive TaskError (ε : Type) where
  | raised (e : PyException)
  | connector (e : CallError ε)

/-! ## Queries -/

abbrev ProcessQuery := AppQuery ⊕ Op Request

abbrev ProcessAnswer (ε : Type) : ProcessQuery → Type :=
  Sum.elim AppAnswer (Op.Answer Request.Answer ε)

abbrev ProcessEvent (ε : Type) := Event ProcessQuery (ProcessAnswer ε)

abbrev ProcessProg (ε α : Type) := Prog ProcessQuery (ProcessAnswer ε) (TaskError ε) α

/-- A call of the connector on the event loop. -/
def onLoop (p : Steps ε α) : ProcessProg ε α := p.liftRight .connector

/-- `try: … except Exception as exc`, the exception handed over as its text. -/
def handed (d : Driver ε) (p : Steps ε α) : ProcessProg ε (Except String α) :=
  (do
    let a ← onLoop p
    return .ok a : ProcessProg ε (Except String α)).tryCatch fun
      | .connector e =>
        if CallError.isException d.isException e then .ret (.error (d.str e))
        else .raise (.connector e)
      | .raised e => .raise (.raised e)

/-- Requests to the connector are carried out by its calls, the others stay. -/
def carryOut (c : Connector) (d : Driver ε) : (q : AppQuery) → ProcessProg ε (AppAnswer q)
  | .inl (.inl (.executeQuery sql)) => handed d (c.executeQuerySteps sql)
  | .inr .fetchSchema => handed d c.fetchSchemaSteps
  | q => .ask (.inl q) .ret

/-! ## `GET /health` -/

structure HealthResponse where
  status : String
  dbOk : Bool
  deriving DecidableEq, Repr

def health (c : Connector) (isException : ε → Bool) : Steps ε HealthResponse := do
  let dbOk ← (c.healthcheckSteps isException).tryCatch fun e =>
    if CallError.isException isException e then .ret false else .raise e
  return ⟨"ok", dbOk⟩

/-! ## Tasks -/

/-- What the event loop runs: a task of the application, or a health check. -/
inductive ProcessTask where
  | app (task : Task)
  | health

inductive Reply where
  | app (reply : Option ChatReply)
  | health (response : HealthResponse)

/-- A task with its calls of the connector taken apart. -/
def Task.steps (app : App) (c : Connector) (d : Driver ε) (task : Task) :
    ProcessProg ε (Option ChatReply) :=
  (task.prog app).expand (carryOut c d) .raised

def ProcessTask.prog (app : App) (c : Connector) (d : Driver ε) :
    ProcessTask → ProcessProg ε Reply
  | .app task => do return .app (← task.steps app c d)
  | .health => do return .health (← onLoop (Api.health c d.isException))

/-! ## The world -/

/-- What the application shares, with the connector's field and handles. -/
structure Process where
  app : AppState
  handle : SharedHandle.World

/-- `base` answers everything but the driver. -/
def processStep (base : AppState → (q : AppQuery) → AppAnswer q → AppState → Prop) (p : Process) :
    (q : ProcessQuery) → ProcessAnswer ε q → Process → Prop
  | .inl q, a, p' => base p.app q a p'.app ∧ p'.handle = p.handle
  | .inr op, a, p' => p.handle.Step op a p'.handle ∧ p'.app = p.app

/-- Reading the field finds a handle. -/
def FoundHandle : ProcessEvent ε → Prop
  | ⟨.inr op, a⟩ => Found ⟨op, a⟩
  | ⟨.inl _, _⟩ => True

/-- Of the connector's operations, only those that use a handle. -/
def UsesHandle : ProcessQuery → Prop
  | .inr op => Uses op
  | .inl _ => True

theorem reliable_process {base : AppState → (q : AppQuery) → AppAnswer q → AppState → Prop} :
    Reliable (processStep (ε := ε) base) FoundHandle UsesHandle (·.handle = connected) := by
  rintro p (q | op) a p' hp huses ⟨hs, hrest⟩
  · exact ⟨trivial, hrest.trans hp⟩
  · exact reliable_connected p.handle op a p'.handle hp huses hs

/-! ## What the tasks ask -/

/-- A query of the driver. -/
def OfDriver : ProcessQuery → Prop
  | .inr _ => True
  | .inl _ => False

theorem handed_asks (d : Driver ε) (p : Steps ε α) : (handed d p).Asks OfDriver := by
  have hp : p.Asks fun op => OfDriver (.inr op) := asks_of_forall (fun _ => trivial) p
  refine asks_tryCatch (asks_bind (asks_liftRight hp) fun a => trivial) fun e => ?_
  cases e with
  | raised e => trivial
  | connector e =>
    dsimp only
    split <;> trivial

/-- What comes of an exception asks nothing. -/
theorem handed_asksWhile {P : ProcessEvent ε → Prop} {C : ProcessQuery → Prop} (d : Driver ε)
    {p : Steps ε α} (hp : (onLoop p).AsksWhile P C) : (handed d p).AsksWhile P C := by
  refine asksWhile_tryCatch (asksWhile_bind hp fun a => trivial) fun e => ?_
  cases e with
  | raised e => trivial
  | connector e =>
    dsimp only
    split <;> trivial

section Relies

theorem onLoop_relies {p : Steps ε α} (hp : p.AsksWhile Found Uses) :
    (onLoop p).AsksWhile FoundHandle UsesHandle :=
  asksWhile_liftRight hp

theorem carryOut_relies (c : Connector) (d : Driver ε) (q : AppQuery) :
    (carryOut c d q).AsksWhile FoundHandle UsesHandle := by
  obtain ((_ | sql | _ | _) | q) | (_ | _ | _ | _) := q
  case inl.inl.executeQuery => exact handed_asksWhile d (onLoop_relies (executeQuerySteps_relies c sql))
  case inr.fetchSchema => exact handed_asksWhile d (onLoop_relies (fetchSchemaSteps_relies c))
  all_goals exact ⟨trivial, fun _ _ => trivial⟩

theorem health_relies (c : Connector) (isException : ε → Bool) :
    (health c isException).AsksWhile Found Uses := by
  refine asksWhile_bind (asksWhile_tryCatch (healthcheckSteps_relies c isException) fun e => ?_)
    fun dbOk => trivial
  split <;> trivial

/-- **Tasks** rely on the connector being connected. -/
theorem prog_relies (app : App) (c : Connector) (d : Driver ε) (task : ProcessTask) :
    (task.prog app c d).AsksWhile FoundHandle UsesHandle := by
  cases task with
  | app task =>
    exact asksWhile_bind (asksWhile_expand (carryOut_relies c d) _) fun reply => trivial
  | health =>
    exact asksWhile_bind (onLoop_relies (health_relies c d.isException)) fun response => trivial

end Relies

/-! ## Handlers on the event loop -/

section Handlers

variable {P : ChatEvent → Prop} {C : ChatQuery → Prop}

/-- What a handler asks, among all queries. -/
def OfHandler (C : ChatQuery → Prop) : ProcessQuery → Prop
  | .inl (.inl q) => C q
  | _ => True

/-- What a handler is told, among all events. -/
def ToHandler (P : ChatEvent → Prop) : ProcessEvent ε → Prop
  | ⟨.inl (.inl q), a⟩ => P ⟨q, a⟩
  | _ => True

/-- The same before the calls of the connector are taken apart. -/
def ToAppHandler (P : ChatEvent → Prop) : AppEvent → Prop
  | ⟨.inl q, a⟩ => P ⟨q, a⟩
  | _ => True

theorem handed_handler (d : Driver ε) (p : Steps ε α) :
    (handed d p).AsksWhile (ToHandler P) (OfHandler C) := by
  refine asksWhile_of_asks (asks_mono ?_ (handed_asks d p))
  rintro (q | op) hq
  · exact hq.elim
  · trivial

theorem carryOut_handler (c : Connector) (d : Driver ε) (q : AppQuery) (hq : OfHandler C (.inl q)) :
    (carryOut c d q).AsksWhile (ToHandler P) (OfHandler C) := by
  obtain ((_ | sql | _ | _) | q) | (_ | _ | _ | _) := q
  case inl.inl.executeQuery => exact handed_handler d _
  case inr.fetchSchema => exact handed_handler d _
  all_goals exact ⟨hq, fun _ _ => trivial⟩

/-- Only what the database answers is made up on the way. -/
theorem carryOut_tells (hP : ∀ sql rows, P ⟨.inl (.executeQuery sql), rows⟩) (c : Connector)
    (d : Driver ε) (q : AppQuery) :
    (carryOut c d q).Ensures (ToHandler P) fun a => ToAppHandler P ⟨q, a⟩ := by
  obtain ((_ | sql | _ | _) | q) | (_ | _ | _ | _) := q
  case inl.inl.executeQuery => exact ensures_of_forall (fun rows => hP sql rows) _
  case inr.fetchSchema => exact ensures_of_forall (fun _ => trivial) _
  all_goals exact fun a ha => ha

/-- **A handler** does on the event loop what it does alone. -/
theorem handler_onLoop (hP : ∀ sql rows, P ⟨.inl (.executeQuery sql), rows⟩) (c : Connector)
    (d : Driver ε) {p : ChatProg ChatReply} (hp : p.AsksWhile P C) :
    ((p.liftLeft >>= fun reply => .ret (some reply) : AppProg (Option ChatReply)).expand
      (carryOut c d) .raised).AsksWhile (ToHandler P) (OfHandler C) :=
  asksWhile_expand_ensures (D := fun q => OfHandler C (.inl q)) (carryOut_handler c d)
    (carryOut_tells hP c d) (asksWhile_bind (asksWhile_liftLeft hp) fun _ => trivial)

end Handlers

end UniversityQA.Api
