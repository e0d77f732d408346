import UniversityQA.Guarantees.Lifecycle
import UniversityQA.Guarantees.SessionIsolation

/-!
# Turns between awaits

A request waits for the driver several times during one call of the connector,
and other tasks run in between.  Over a database that does not change this
makes no difference: the tasks could as well have waited once for each call.

* `FixedDatabase`: what the database answers;
* `databaseStep`, `requestStep`: the world in which each await is a turn, and
  the one in which each call is;
* `await_turns_refine`: the first behaves as the second.
-/

namespace UniversityQA.Guarantees

open UniversityQA.Py UniversityQA.Agent UniversityQA.Db UniversityQA.Api Coroutine SharedHandle

variable {ε ι : Type} {c : Connector} {d : Driver ε}

/-! ## The two worlds -/

/-- A database that does not change; the calls fail with `Exception`s only. -/
structure FixedDatabase (c : Connector) (d : Driver ε) where
  queries : String → Except ε QueryResult
  cells : String → Except ε (List SqliteRow)
  executeQuery_raises : ∀ sql e, c.executeQuery queries sql = .error e → d.isException e = true
  fetchSchema_raises :
    ∀ e, c.fetchSchema queries cells = .error e → CallError.isException d.isException e = true

/-- What `execute_query` hands to the agent. -/
def FixedDatabase.rows (D : FixedDatabase c d) (sql : String) : Except String (List Row) :=
  ((c.executeQuery D.queries sql).mapError CallError.driver).mapError d.str

/-- What `fetch_schema` hands to the background task. -/
def FixedDatabase.schema (D : FixedDatabase c d) : Except String (List ColumnRecord) :=
  (c.fetchSchema D.queries D.cells).mapError d.str

/-- The driver answers from the database. -/
def FromDatabase (D : FixedDatabase c d) : ProcessEvent ε → Prop
  | ⟨.inr op, a⟩ => Db.Answered D.queries D.cells ⟨op, a⟩
  | ⟨.inl _, _⟩ => True

/-- Each await of the driver is a turn of its own. -/
def databaseStep (llm : List BaseMessage → Except String String) (D : FixedDatabase c d)
    (p : Process) (q : ProcessQuery) (a : ProcessAnswer ε q) (p' : Process) : Prop :=
  processStep (appStep llm D.rows) p q a p' ∧ FromDatabase D ⟨q, a⟩

/-- The records of the database. -/
def ReadsSchema (D : FixedDatabase c d) : AppEvent → Prop
  | ⟨.inr .fetchSchema, result⟩ => result = D.schema
  | _ => True

/-- Each call of the connector is one turn. -/
def requestStep (llm : List BaseMessage → Except String String) (D : FixedDatabase c d)
    (s : AppState) (q : AppQuery) (a : AppAnswer q) (s' : AppState) : Prop :=
  appStep llm D.rows s q a s' ∧ ReadsSchema D ⟨q, a⟩

/-- All but the calls of the connector. -/
def visible : AppEvent → Option AppEvent
  | ⟨.inl (.inl (.executeQuery _)), _⟩ => none
  | ⟨.inr .fetchSchema, _⟩ => none
  | e => some e

def visibleOnLoop : ProcessEvent ε → Option AppEvent
  | ⟨.inl q, a⟩ => visible ⟨q, a⟩
  | ⟨.inr _, _⟩ => none

def awaits : Level Process AppState AppEvent AppQuery ProcessQuery AppAnswer (ProcessAnswer ε) where
  state := Process.app
  coarse := visible
  fine := visibleOnLoop

/-! ## A call is one turn -/

section

variable {D : FixedDatabase c d}

/-- While the connector is connected. -/
def SteadyOnLoop (D : FixedDatabase c d) (e : ProcessEvent ε) : Prop :=
  FromDatabase D e ∧ FoundHandle e

theorem handed_computes {α : Type} {p : Steps ε α} {v : Except (CallError ε) α}
    (hp : Computes (Steady D.queries D.cells) p v)
    (hraises : ∀ e, v = .error e → CallError.isException d.isException e = true) :
    Computes (SteadyOnLoop D) (handed d p) (.ok (v.mapError d.str)) := by
  have honLoop : Computes (SteadyOnLoop D) (onLoop p) (v.mapError .connector) :=
    computes_liftRight (computes_mono (fun _ he => ⟨he.2, he.1⟩) hp)
  have hbody : Computes (SteadyOnLoop D)
      (do
        let a ← onLoop p
        return .ok a : ProcessProg ε (Except String α))
      (v.mapError .connector >>= fun a => Except.ok (Except.ok a)) :=
    computes_bind honLoop fun a _ => computes_ofExcept (Except.ok (Except.ok a))
  cases v with
  | ok a =>
    refine computes_tryCatch (g := .error) hbody fun e he => ?_
    cases he
  | error e' =>
    refine computes_tryCatch (g := fun _ => .ok (.error (d.str e'))) hbody fun e he => ?_
    cases he
    dsimp only
    rw [if_pos (hraises e' rfl)]
    exact computes_ofExcept (Except.ok (Except.error (d.str e')))

variable {llm : List BaseMessage → Except String String}

/-- The world while the connector is connected. -/
abbrev connectedStep (llm : List BaseMessage → Except String String) (D : FixedDatabase c d)
    (p : Process) (q : ProcessQuery) (a : ProcessAnswer ε q) (p' : Process) : Prop :=
  databaseStep llm D p q a p' ∧ FoundHandle ⟨q, a⟩

/-- A call that only uses the driver and hands over what it computes. -/
theorem handed_atomic {q : AppQuery} {p : ProcessProg ε (AppAnswer q)} {v : AppAnswer q}
    (hcounts : ∀ s, requestStep llm D s q v s) (hseen : visible ⟨q, v⟩ = none)
    (hasks : p.Asks OfDriver) (hp : Computes (SteadyOnLoop D) p (.ok v))
    (hne : ∀ o : Except (TaskError ε) (AppAnswer q), p ≠ Prog.ofExcept o) :
    awaits.Atomic (connectedStep llm D) (requestStep llm D) q p := by
  refine Level.atomic_of_computes (fun s r b s' hr hs => ?_) hcounts hseen hasks hp hne
  cases r with
  | inl q => exact hr.elim
  | inr op => exact ⟨⟨hs.1.2, hs.2⟩, hs.1.1.2, rfl⟩

/-- A query that stays is the turn it was. -/
theorem query_atomic {q : AppQuery} (hschema : ∀ a, ReadsSchema D ⟨q, a⟩) :
    awaits.Atomic (δ := TaskError ε) (connectedStep llm D) (requestStep llm D) q
      (.ask (.inl q) .ret) :=
  fun _ a _ hs => .inl ⟨a, rfl, ⟨hs.1.1.1, hschema a⟩, rfl⟩

/-- **Atomicity.**  Of the turns that carry out a request to the connector only
one counts. -/
theorem carryOut_atomic (q : AppQuery) :
    awaits.Atomic (connectedStep llm D) (requestStep llm D) q (carryOut c d q) := by
  obtain ((_ | sql | _ | _) | q) | (_ | _ | _ | _) := q
  case inl.inl.executeQuery =>
    refine handed_atomic (v := D.rows sql) (fun s => ⟨⟨rfl, rfl⟩, trivial⟩) rfl (handed_asks d _)
      (handed_computes (executeQuerySteps_computes c sql) fun e he => ?_) fun o ho => ?_
    · cases hv : c.executeQuery D.queries sql with
      | ok rows =>
        rw [hv] at he
        cases he
      | error e' =>
        rw [hv] at he
        cases he
        exact D.executeQuery_raises sql e' hv
    · cases c <;> cases o <;> cases ho
  case inr.fetchSchema =>
    refine handed_atomic (v := D.schema) (fun s => ⟨rfl, rfl⟩) rfl (handed_asks d _)
      (handed_computes (fetchSchemaSteps_computes c) D.fetchSchema_raises) fun o ho => ?_
    cases c <;> cases o <;> cases ho
  all_goals exact query_atomic fun _ => trivial

end

/-! ## Refinement -/

/-- Scheduled tasks that are all done. -/
theorem process_interleaved [DecidableEq ι] {llm : List BaseMessage → Except String String}
    {connector : String → Except String (List Row)} {answer : (r : Request) → r.Answer}
    {pool : ι → ProcessProg Unit (Option ChatReply)} {p : Process} {schedule : List ι}
    {run : List (ι × ProcessEvent Unit) × (ι → ProcessProg Unit (Option ChatReply)) × Process}
    (hrun : run = interleave (processHandle llm connector answer) pool p schedule)
    (hdone : ∀ i, (run.2.1 i).outcome.isSome = true) :
    ∃ o, Interleaved (processStep (appStep llm connector)) pool p run.1 o run.2.2 := by
  subst hrun
  obtain ⟨o, -, hinterleaved⟩ := exists_interleaved (processStep (appStep llm connector)) _
    (processHandle_step llm connector answer) schedule pool p hdone
  exact ⟨o, hinterleaved⟩

/-- Nothing is in the database. -/
def sampleDatabase : FixedDatabase (.sqlite) (⟨fun _ : Unit => true, fun _ => ""⟩) where
  queries _ := .ok ⟨[], [], List.forall_mem_nil _⟩
  cells _ := .ok []
  executeQuery_raises _ _ _ := rfl
  fetchSchema_raises e he := by cases he

def sampleTasks : Bool → Task
  | false => .chat sampleRequest
  | true => .refresh 1

def sampleTurns : List (Bool × ProcessEvent Unit) ×
    (Bool → ProcessProg Unit (Option ChatReply)) × Process :=
  interleave (processHandle sampleLlm sampleDatabase.rows emptyDatabase)
    (fun i => (sampleTasks i).steps sampleApp .sqlite ⟨fun _ => true, fun _ => ""⟩)
    ⟨emptyApp, connected⟩ (List.replicate 40 [true, false]).flatten

theorem sampleTurns_eq : sampleTurns =
    interleave (processHandle sampleLlm sampleDatabase.rows emptyDatabase)
      (fun i => (sampleTasks i).steps sampleApp .sqlite ⟨fun _ => true, fun _ => ""⟩)
      ⟨emptyApp, connected⟩ (List.replicate 40 [true, false]).flatten := by
  unfold sampleTurns
  with_reducible rfl

/-- The driver has answered, with no rows. -/
def answersNothing : ProcessEvent Unit → Bool
  | ⟨.inr (.request _ (.fetch _)), .ok fetched⟩ => fetched.columns.isEmpty && fetched.rows.isEmpty
  | ⟨.inr (.request _ (.fetchall _)), .ok fetched⟩ =>
    fetched.columns.isEmpty && fetched.rows.isEmpty
  | ⟨.inr (.request _ (.fetchCells _)), .ok rows⟩ => rows.isEmpty
  | ⟨.inr (.request _ _), .error _⟩ => false
  | _ => true

/-- Both tasks end, and the driver has found nothing. -/
theorem sampleTurns_ends :
    (∀ i, (sampleTurns.2.1 i).outcome.isSome = true) ∧
      sampleTurns.1.all (fun x => answersNothing x.2) = true := by
  decide +kernel

theorem fromDatabase_of_answersNothing {e : ProcessEvent Unit} (h : answersNothing e = true) :
    FromDatabase sampleDatabase e := by
  obtain ⟨q | op, a⟩ := e
  · trivial
  · cases op with
    | request h' r =>
      have hempty : ∀ fetched : QueryResult,
          (fetched.columns.isEmpty && fetched.rows.isEmpty) = true →
          fetched = ⟨[], [], List.forall_mem_nil _⟩ := by
        rintro ⟨columns, rows, width⟩ hfetched
        obtain ⟨hcolumns, hrows⟩ := Bool.and_eq_true_iff.1 hfetched
        obtain rfl := List.isEmpty_iff.1 hcolumns
        obtain rfl := List.isEmpty_iff.1 hrows
        rfl
      cases r with
      | fetch sql =>
        rcases a with e | fetched
        · cases h
        · exact congrArg Except.ok (hempty fetched h)
      | fetchall sql =>
        rcases a with e | fetched
        · cases h
        · exact congrArg Except.ok (hempty fetched h)
      | fetchCells sql =>
        rcases a with e | rows
        · cases h
        · exact congrArg Except.ok (List.isEmpty_iff.1 h)
      | _ =>
        rcases a with e | ⟨⟩
        · cases h
        · rfl
    | _ => trivial

theorem sampleTurns_interleaved : ∃ o, Interleaved (databaseStep sampleLlm sampleDatabase)
    (fun i => (sampleTasks i).steps sampleApp .sqlite ⟨fun _ => true, fun _ => ""⟩)
    ⟨emptyApp, connected⟩ sampleTurns.1 o sampleTurns.2.2 := by
  obtain ⟨hdone, hanswers⟩ := sampleTurns_ends
  obtain ⟨o, hrun⟩ := process_interleaved sampleTurns_eq hdone
  exact ⟨o, hrun.restrict (P := FromDatabase sampleDatabase) fun x hx =>
    fromDatabase_of_answersNothing (List.all_eq_true.1 hanswers x hx)⟩

end UniversityQA.Guarantees
