import UniversityQA.Db.ConnectorCalls
import UniversityQA.Lib.Rely

/-!
# A connector that is connected

The first call opens a pool or connection and stores it.  A call that finds it
stored uses it and opens nothing.

* `connected`: the world with one handle, open and stored;
* `fetchSchemaSteps_connects`: `fetch_schema` on a new connector leads there, or
  raises;
* `executeQuerySteps_relies` and its like: what the calls ask when the field is
  filled;
* `executeQuerySteps_computes`, `fetchSchemaSteps_computes`: what they compute
  then.
-/

namespace UniversityQA.Db

open UniversityQA.Py Coroutine SharedHandle

variable {ε α β : Type}

/-- The first handle, open and stored. -/
def connected : World where
  field := some 0
  live := {0}
  made := 1

/-- Where the field is read, a handle is found. -/
def Found : OpEvent Request.Answer ε → Prop
  | ⟨.read, field⟩ => field.isSome = true
  | _ => True

theorem reliable_connected :
    Reliable (World.Step (V := Request.Answer) (ε := ε)) Found Uses (· = connected) := by
  rintro w q a w' rfl huses hs
  cases hs with
  | read => exact ⟨rfl, rfl⟩
  | served _ => exact ⟨trivial, rfl⟩
  | failed => exact ⟨trivial, rfl⟩
  | _ => exact huses.elim

/-! ## Calls that find it stored -/

theorem PostgresConnector.pool_relies :
    (PostgresConnector.pool : Steps ε Nat).AsksWhile Found Uses := by
  refine ⟨trivial, fun field hfield => ?_⟩
  cases field with
  | none => cases hfield
  | some pool => trivial

theorem SQLiteConnector.getConn_relies :
    (SQLiteConnector.getConn : Steps ε (Option Nat)).AsksWhile Found Uses := by
  refine ⟨trivial, fun field hfield => ?_⟩
  cases field with
  | none => cases hfield
  | some conn => trivial

/-- `conn = await self._get_conn()` and what is done with it. -/
theorem SQLiteConnector.withConn_relies {body : Nat → Steps ε α}
    (hbody : ∀ conn, (body conn).Asks Uses) :
    (SQLiteConnector.getConn >>= fun conn => SQLiteConnector.deref conn >>= body).AsksWhile
      Found Uses :=
  asksWhile_bind getConn_relies fun conn =>
    asksWhile_of_asks (asks_bind (deref_asks conn) hbody)

theorem executeQuerySteps_relies (c : Connector) (sql : String) :
    (c.executeQuerySteps sql : Steps ε (List Row)).AsksWhile Found Uses := by
  cases c with
  | postgres record =>
    exact asksWhile_bind PostgresConnector.pool_relies fun pool =>
      asksWhile_of_asks (PostgresConnector.query_asks record sql pool)
  | sqlite => exact SQLiteConnector.withConn_relies (SQLiteConnector.query_asks sql)

theorem fetchSchemaSteps_relies (c : Connector) :
    (c.fetchSchemaSteps : Steps ε (List ColumnRecord)).AsksWhile Found Uses := by
  cases c with
  | postgres record =>
    exact asksWhile_bind (executeQuerySteps_relies (.postgres record) schemaQuery) fun rows =>
      asksWhile_ofExcept _
  | sqlite => exact SQLiteConnector.withConn_relies SQLiteConnector.schemaSteps_asks

theorem healthcheckSteps_relies (c : Connector) (isException : ε → Bool) :
    (c.healthcheckSteps isException).AsksWhile Found Uses := by
  refine asksWhile_tryCatch (asksWhile_bind (executeQuerySteps_relies c _) fun rows => trivial) ?_
  intro e
  cases e with
  | driver e =>
    cases h : isException e with
    | true => simp [h, Prog.AsksWhile]
    | false => simp [h, Prog.AsksWhile]
  | _ => trivial

/-! ## The first call -/

/-- Run on a new connector, the program leaves the handle stored, or it raises
and nothing was opened. -/
def Connects (p : Steps ε α) : Prop :=
  ∀ tr o w, Exec World.Step {} p tr o w → w = connected ∨ w = {} ∧ ∃ e, o = .error e

theorem exec_uses {p : Steps ε α} (hp : p.Asks Uses) {tr : List (OpEvent Request.Answer ε)}
    {o : Except (CallError ε) α} {w : World} (h : Exec World.Step connected p tr o w) :
    w = connected :=
  (h.rely reliable_connected (asksWhile_of_asks hp) rfl).1

theorem connects_bind {p : Steps ε α} {f : α → Steps ε β} (hp : Connects p)
    (hf : ∀ a, (f a).Asks Uses) : Connects (p >>= f) := by
  intro tr o w h
  rcases exec_bind.1 h with ⟨e, he, rfl⟩ | ⟨a, w₁, t₁, t₂, rfl, ha, hrest⟩
  · exact (hp tr _ w he).imp_right fun hnone => ⟨hnone.1, e, rfl⟩
  · rcases hp t₁ _ w₁ ha with rfl | ⟨-, e, he⟩
    · exact .inl (exec_uses (hf a) hrest)
    · cases he

/-- Finding nothing, opening and storing. -/
theorem connects_of_missing {k : Option Nat → Steps ε α} {f : Nat → Steps ε α}
    (hk : k none = connect >>= fun h => storeField h >>= fun _ => f h)
    (hf : ∀ h, (f h).Asks Uses) : Connects (.ask .read k) := by
  intro tr o w h
  obtain ⟨field, w₁, t₁, hread, rfl, h₁⟩ := exec_ask.1 h
  obtain ⟨rfl, rfl⟩ := read_of_step hread
  change Exec World.Step {} (k none) t₁ o w at h₁
  rw [hk] at h₁
  obtain ⟨opened, w₂, t₂, hconnect, rfl, h₂⟩ := exec_ask.1 h₁
  cases hconnect with
  | refused =>
    obtain ⟨rfl, rfl, rfl⟩ := exec_raise.1 h₂
    exact .inr ⟨rfl, _, rfl⟩
  | connected =>
    obtain ⟨_, w₃, t₃, hstore, rfl, h₃⟩ := exec_ask.1 h₂
    cases hstore
    exact .inl (exec_uses (hf _) h₃)

theorem PostgresConnector.pool_connects : Connects (PostgresConnector.pool : Steps ε Nat) :=
  connects_of_missing (f := fun h => .ret h) rfl fun _ => trivial

theorem SQLiteConnector.getConn_connects :
    Connects (SQLiteConnector.getConn : Steps ε (Option Nat)) :=
  connects_of_missing
    (f := fun conn => request conn (.execute "PRAGMA foreign_keys = ON") >>= fun _ => readField) rfl
    fun _ => asks_bind (request_asks _ _) fun _ => ⟨trivial, fun _ => trivial⟩

/-- **The first call connects**, or raises before anything was opened. -/
theorem fetchSchemaSteps_connects (c : Connector) :
    Connects (c.fetchSchemaSteps : Steps ε (List ColumnRecord)) := by
  cases c with
  | postgres record =>
    exact connects_bind (connects_bind PostgresConnector.pool_connects
      (PostgresConnector.query_asks record schemaQuery)) fun rows => asks_ofExcept _
  | sqlite =>
    exact connects_bind SQLiteConnector.getConn_connects fun conn =>
      asks_bind (SQLiteConnector.deref_asks conn) SQLiteConnector.schemaSteps_asks

/-! ## Nothing is closed -/

/-- The operation does not close a handle and does not empty the field. -/
def Keeps : Op Request → Prop
  | .close _ => False
  | .clear _ => False
  | _ => True

theorem keeps_of_uses {op : Op Request} (h : Uses op) : Keeps op := by
  cases op with
  | read => trivial
  | request h r => trivial
  | _ => exact h.elim

theorem PostgresConnector.pool_keeps : (PostgresConnector.pool : Steps ε Nat).Asks Keeps := by
  refine ⟨trivial, fun field => ?_⟩
  cases field with
  | some pool => trivial
  | none =>
    refine ⟨trivial, fun opened => ?_⟩
    cases opened with
    | error e => trivial
    | ok pool => exact ⟨trivial, fun _ => trivial⟩

theorem SQLiteConnector.getConn_keeps :
    (SQLiteConnector.getConn : Steps ε (Option Nat)).Asks Keeps := by
  refine ⟨trivial, fun field => ?_⟩
  cases field with
  | some conn => trivial
  | none =>
    refine ⟨trivial, fun opened => ?_⟩
    cases opened with
    | error e => trivial
    | ok conn =>
      have hpragma : (request conn (.execute "PRAGMA foreign_keys = ON") >>= fun _ => readField :
          Steps ε (Option Nat)).Asks Keeps :=
        asks_bind (asks_mono (fun _ => keeps_of_uses) (request_asks _ _)) fun _ =>
          ⟨trivial, fun _ => trivial⟩
      exact ⟨trivial, fun _ => hpragma⟩

theorem fetchSchemaSteps_keeps (c : Connector) :
    (c.fetchSchemaSteps : Steps ε (List ColumnRecord)).Asks Keeps := by
  cases c with
  | postgres record =>
    refine asks_bind (asks_bind PostgresConnector.pool_keeps fun pool => ?_) fun rows =>
      asks_ofExcept _
    exact asks_mono (fun _ => keeps_of_uses) (PostgresConnector.query_asks record schemaQuery pool)
  | sqlite =>
    refine asks_bind SQLiteConnector.getConn_keeps fun conn => ?_
    exact asks_mono (fun _ => keeps_of_uses)
      (asks_bind (SQLiteConnector.deref_asks conn) SQLiteConnector.schemaSteps_asks)

/-! ## What they compute -/

/-- `execute_query` without awaits. -/
def Connector.executeQuery (queries : String → Except ε QueryResult) (sql : String) :
    Connector → Except ε (List Row)
  | .postgres record => PostgresConnector.executeQuery record queries sql
  | .sqlite => SQLiteConnector.executeQuery queries sql

/-- `fetch_schema` without awaits. -/
def Connector.fetchSchema (queries : String → Except ε QueryResult)
    (cells : String → Except ε (List SqliteRow)) : Connector → Except (CallError ε) (List ColumnRecord)
  | .postgres record => (PostgresConnector.fetchSchema record queries).mapError FetchError.toCall
  | .sqlite => (SQLiteConnector.fetchSchema cells).mapError SqliteError.toCall

/-- The database does not change, and the field is filled. -/
def Steady (queries : String → Except ε QueryResult)
    (cells : String → Except ε (List SqliteRow)) (e : OpEvent Request.Answer ε) : Prop :=
  Found e ∧ Answered queries cells e

variable {queries : String → Except ε QueryResult} {cells : String → Except ε (List SqliteRow)}

/-- After the field was read, the rest computes what it computes. -/
theorem found_computes {k : Option Nat → Steps ε α} {v : Except (CallError ε) α}
    (hk : ∀ h, Computes (Answered queries cells) (k (some h)) v) :
    Computes (Steady queries cells) (.ask .read k) v :=
  computes_ask fun field hfield => by
    cases field with
    | none => cases hfield.1
    | some h => exact computes_mono (fun e he => he.2) (hk h)

theorem executeQuerySteps_computes (c : Connector) (sql : String) :
    Computes (Steady queries cells) (c.executeQuerySteps sql)
      ((c.executeQuery queries sql).mapError CallError.driver) := by
  cases c with
  | postgres record => exact found_computes (PostgresConnector.query_computes record sql)
  | sqlite => exact found_computes (SQLiteConnector.query_computes sql)

theorem fetchSchemaSteps_computes (c : Connector) :
    Computes (Steady queries cells) c.fetchSchemaSteps (c.fetchSchema queries cells) := by
  cases c with
  | postgres record => exact found_computes (PostgresConnector.schema_computes record)
  | sqlite => exact found_computes SQLiteConnector.schemaSteps_computes

end UniversityQA.Db
