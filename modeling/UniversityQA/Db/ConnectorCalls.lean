import UniversityQA.Db.InformationSchema
import UniversityQA.Db.SqliteSchema
import UniversityQA.Lib.SharedHandle

/-!
# The calls of a connector, await by await

What `execute_query`, `fetch_schema`, `healthcheck` and `close` do with the
pool or connection that the connector keeps in a field.

* `PostgresConnector.pool`, `SQLiteConnector.getConn`: the lazy initialisation.
* `Connector.call`: the four calls of both connectors.
* `SQLiteConnector.schemaSteps_computes` and its like: what they compute is
  what the connectors do without awaits.
* `call_obeys`: they go through the phases of a call on a shared handle.
-/

namespace UniversityQA.Db

open UniversityQA.Py Coroutine SharedHandle

/-! ## Awaiting the driver -/

/-- What is awaited on a pool (the first three) or a connection.  The cells of
`fetchall` are listed as `execute_query` passes them on and, in `fetchCells`,
as `fetch_schema` reads them. -/
inductive Request where
  | acquire
  | fetch (sql : String)
  | release
  | execute (sql : String)
  | fetchall (sql : String)
  | fetchCells (sql : String)
  | closeCursor
  deriving DecidableEq

abbrev Request.Answer : Request → Type
  | .fetch _ => QueryResult
  | .fetchall _ => QueryResult
  | .fetchCells _ => List SqliteRow
  | _ => Unit

/-- What a call can raise: what the driver raised, `AttributeError` on a
connection that is `None`, or the reading of a row. -/
inductive CallError (ε : Type) where
  | driver (e : ε)
  | attributeError
  | postgresRow (e : FetchError ε)
  | sqliteRow (e : SqliteError ε)

variable {ε : Type}

def FetchError.toCall : FetchError ε → CallError ε
  | .driver e => .driver e
  | e => .postgresRow e

def SqliteError.toCall : SqliteError ε → CallError ε
  | .driver e => .driver e
  | e => .sqliteRow e

abbrev Steps (ε : Type) := Prog (Op Request) (Op.Answer Request.Answer ε) (CallError ε)

/-- The field, `self._pool` or `self._conn`. -/
def readField : Steps ε (Option Nat) := .ask .read .ret

def storeField (h : Nat) : Steps ε Unit := .ask (.store h) fun _ => .ret ()

/-- The result of an awaited call of the driver. -/
def awaited {α : Type} (r : Except ε α) : Steps ε α := Prog.ofExcept (r.mapError .driver)

/-- `asyncpg.create_pool(dsn)` or `aiosqlite.connect(path)`. -/
def connect : Steps ε Nat := .ask .connect awaited

def request (h : Nat) (r : Request) : Steps ε r.Answer := .ask (.request h r) awaited

/-- `async with`: `leave` is awaited however the body ends. -/
def within {α : Type} (enter : Steps ε Unit) (body : Steps ε α) (leave : Steps ε Unit) :
    Steps ε α := do
  enter
  let a ← body.tryCatch fun e => do
    leave
    .raise e
  leave
  return a

/-- `if self._x: await self._x.close(); self._x = None`. -/
def closeField : Steps ε Unit := do
  match ← readField with
  | none => return ()
  | some h =>
    .ask (.close h) awaited
    .ask (.clear h) fun _ => .ret ()

/-! ## PostgreSQL -/

/-- `PostgresConnector._pool_`. -/
def PostgresConnector.pool : Steps ε Nat := do
  match ← readField with
  | some pool => return pool
  | none =>
    let pool ← connect
    storeField pool
    return pool

def PostgresConnector.query (record : RecordDict) (sql : String) (pool : Nat) :
    Steps ε (List Row) :=
  within (request pool .acquire)
    (do
      let fetched ← request pool (.fetch sql)
      return PostgresConnector.rowDicts record fetched)
    (request pool .release)

def PostgresConnector.executeQuerySteps (record : RecordDict) (sql : String) :
    Steps ε (List Row) := do
  let pool ← PostgresConnector.pool
  PostgresConnector.query record sql pool

def PostgresConnector.records (rows : List Row) : Steps ε (List ColumnRecord) :=
  Prog.ofExcept ((rows.mapM PostgresConnector.columnRecord).mapError FetchError.toCall)

def PostgresConnector.fetchSchemaSteps (record : RecordDict) : Steps ε (List ColumnRecord) := do
  let rows ← PostgresConnector.executeQuerySteps record schemaQuery
  PostgresConnector.records rows

/-! ## SQLite -/

/-- `SQLiteConnector._get_conn`; the field is read again after the `PRAGMA`. -/
def SQLiteConnector.getConn : Steps ε (Option Nat) := do
  match ← readField with
  | some conn => return some conn
  | none =>
    let conn ← connect
    storeField conn
    request conn (.execute "PRAGMA foreign_keys = ON")
    readField

/-- An attribute of what `_get_conn` returned. -/
def SQLiteConnector.deref : Option Nat → Steps ε Nat
  | some conn => .ret conn
  | none => .raise .attributeError

def SQLiteConnector.query (sql : String) (conn : Nat) : Steps ε (List Row) :=
  within (request conn (.execute sql))
    (do
      let fetched ← request conn (.fetchall sql)
      return SQLiteConnector.rowDicts fetched)
    (request conn .closeCursor)

def SQLiteConnector.executeQuerySteps (sql : String) : Steps ε (List Row) := do
  let conn ← SQLiteConnector.deref (← SQLiteConnector.getConn)
  SQLiteConnector.query sql conn

/-- `async with conn.execute(sql) as cursor`, the rows being read inside. -/
def SQLiteConnector.readRows {α : Type} (sql : String)
    (read : List SqliteRow → Except (SqliteError ε) α) (conn : Nat) : Steps ε α :=
  within (request conn (.execute sql))
    (do
      let rows ← request conn (.fetchCells sql)
      Prog.ofExcept ((read rows).mapError SqliteError.toCall))
    (request conn .closeCursor)

/-- The loop over the tables. -/
def SQLiteConnector.tablesSteps (conn : Nat) : List String → Steps ε (List ColumnRecord)
  | [] => .ret []
  | table :: tables => do
    let pairs ← SQLiteConnector.readRows (foreignKeyList table) (fun rows => rows.mapM fkPair) conn
    let records ← SQLiteConnector.readRows (tableInfo table)
      (fun rows => rows.mapM (SQLiteConnector.columnRecord table (Dict.ofPairs pairs))) conn
    let result ← SQLiteConnector.tablesSteps conn tables
    return records ++ result

def SQLiteConnector.schemaSteps (conn : Nat) : Steps ε (List ColumnRecord) := do
  let tables ← SQLiteConnector.readRows tablesQuery
    (fun rows => rows.mapM fun row => textCell row 0) conn
  SQLiteConnector.tablesSteps conn tables

def SQLiteConnector.fetchSchemaSteps : Steps ε (List ColumnRecord) := do
  let conn ← SQLiteConnector.deref (← SQLiteConnector.getConn)
  SQLiteConnector.schemaSteps conn

/-! ## The calls -/

inductive Connector where
  | postgres (record : RecordDict)
  | sqlite

inductive ConnectorCall where
  | executeQuery (sql : String)
  | fetchSchema
  | healthcheck
  | close
  deriving DecidableEq

inductive CallValue where
  | rows (rows : List Row)
  | schema (records : List ColumnRecord)
  | healthy (ok : Bool)
  | closed

def Connector.executeQuerySteps (sql : String) : Connector → Steps ε (List Row)
  | .postgres record => PostgresConnector.executeQuerySteps record sql
  | .sqlite => SQLiteConnector.executeQuerySteps sql

def Connector.fetchSchemaSteps : Connector → Steps ε (List ColumnRecord)
  | .postgres record => PostgresConnector.fetchSchemaSteps record
  | .sqlite => SQLiteConnector.fetchSchemaSteps

/-- `healthcheck`; `isException` says which of the driver's exceptions are
`Exception`s. -/
def Connector.healthcheckSteps (isException : ε → Bool) (c : Connector) : Steps ε Bool :=
  (do
    let rows ← c.executeQuerySteps "SELECT 1"
    return !rows.isEmpty : Steps ε Bool).tryCatch fun
      | .driver e => if isException e then .ret false else .raise (.driver e)
      | _ => .ret false

/-- A call on the connector. -/
def Connector.call (c : Connector) (isException : ε → Bool) : ConnectorCall → Steps ε CallValue
  | .executeQuery sql => do return .rows (← c.executeQuerySteps sql)
  | .fetchSchema => do return .schema (← c.fetchSchemaSteps)
  | .healthcheck => do return .healthy (← c.healthcheckSteps isException)
  | .close => do
    closeField
    return .closed

/-! ## What the calls compute -/

/-- What a database answers that does not change. -/
def answerOf (queries : String → Except ε QueryResult) (cells : String → Except ε (List SqliteRow)) :
    (r : Request) → Except ε r.Answer
  | .fetch sql => queries sql
  | .fetchall sql => queries sql
  | .fetchCells sql => cells sql
  | .acquire | .release | .execute _ | .closeCursor => .ok ()

variable {queries : String → Except ε QueryResult} {cells : String → Except ε (List SqliteRow)}

def Answered (queries : String → Except ε QueryResult)
    (cells : String → Except ε (List SqliteRow)) : OpEvent Request.Answer ε → Prop
  | ⟨.request _ r, a⟩ => a = answerOf queries cells r
  | _ => True

theorem request_computes (h : Nat) (r : Request) :
    Computes (Answered queries cells) (request h r)
      ((answerOf queries cells r).mapError CallError.driver) :=
  computes_ask fun a ha => by
    obtain rfl : a = answerOf queries cells r := ha
    exact computes_ofExcept _

theorem within_computes {α : Type} {P : OpEvent Request.Answer ε → Prop}
    {enter leave : Steps ε Unit} {body : Steps ε α} {v : Except (CallError ε) α}
    (henter : Computes P enter (.ok ())) (hbody : Computes P body v)
    (hleave : Computes P leave (.ok ())) : Computes P (within enter body leave) v := by
  have htry : Computes P (body.tryCatch fun e => do leave; .raise e) (v.tryCatch .error) :=
    computes_tryCatch hbody fun e _ =>
      computes_bind hleave (g := fun _ => .error e) fun _ _ => computes_ofExcept (.error e)
  have hwithin := computes_bind henter fun _ _ => computes_bind htry fun a _ =>
    computes_bind hleave (g := fun _ => .ok a) fun _ _ => computes_ofExcept (.ok a)
  cases v with
  | error e => exact hwithin
  | ok a => exact hwithin

theorem mapError_bind {α β δ γ : Type} (x : Except δ α) (f : α → Except δ β) (g : δ → γ) :
    (x >>= f).mapError g = x.mapError g >>= fun a => (f a).mapError g := by
  cases x <;> rfl

/-- A statement inside `async with`, its answer being put to use by `g`. -/
theorem statement_computes {α β : Type} {P : OpEvent Request.Answer ε → Prop}
    {enter leave : Steps ε Unit} {fetch : Steps ε β} {v : Except (CallError ε) β}
    {g : β → Except (CallError ε) α} (henter : Computes P enter (.ok ()))
    (hfetch : Computes P fetch v) (hleave : Computes P leave (.ok ())) :
    Computes P (within enter (fetch >>= fun b => Prog.ofExcept (g b)) leave) (v >>= g) :=
  within_computes henter (computes_bind hfetch fun b _ => computes_ofExcept (g b)) hleave

theorem PostgresConnector.query_computes (record : RecordDict) (sql : String) (pool : Nat) :
    Computes (Answered queries cells) (PostgresConnector.query record sql pool)
      ((PostgresConnector.executeQuery record queries sql).mapError CallError.driver) := by
  rw [PostgresConnector.executeQuery, mapError_bind]
  exact statement_computes (g := fun fetched => .ok (PostgresConnector.rowDicts record fetched))
    (request_computes pool .acquire) (request_computes pool (.fetch sql))
    (request_computes pool .release)

theorem SQLiteConnector.query_computes (sql : String) (conn : Nat) :
    Computes (Answered queries cells) (SQLiteConnector.query sql conn)
      ((SQLiteConnector.executeQuery queries sql).mapError CallError.driver) := by
  rw [SQLiteConnector.executeQuery, mapError_bind]
  exact statement_computes (g := fun fetched => .ok (SQLiteConnector.rowDicts fetched))
    (request_computes conn (.execute sql)) (request_computes conn (.fetchall sql))
    (request_computes conn .closeCursor)

theorem SQLiteConnector.readRows_computes {α : Type} (sql : String)
    (read : List SqliteRow → Except (SqliteError ε) α) (conn : Nat) :
    Computes (Answered queries cells) (SQLiteConnector.readRows sql read conn)
      (((cells sql).mapError SqliteError.driver >>= read).mapError SqliteError.toCall) := by
  have hvalue : ((cells sql).mapError SqliteError.driver >>= read).mapError SqliteError.toCall =
      ((cells sql).mapError CallError.driver >>= fun rows =>
        (read rows).mapError SqliteError.toCall) := by
    rw [mapError_bind]
    cases cells sql with
    | error e => rfl
    | ok rows => rfl
  rw [hvalue]
  exact statement_computes (request_computes conn (.execute sql))
    (request_computes conn (.fetchCells sql)) (request_computes conn .closeCursor)

/-- The two statements about a table. -/
theorem SQLiteConnector.tableRecords_toCall (table : String) :
    (SQLiteConnector.tableRecords cells table).mapError SqliteError.toCall =
      (((cells (foreignKeyList table)).mapError SqliteError.driver >>= fun rows =>
        rows.mapM fkPair).mapError SqliteError.toCall >>= fun pairs =>
        ((cells (tableInfo table)).mapError SqliteError.driver >>= fun rows =>
          rows.mapM (SQLiteConnector.columnRecord table (Dict.ofPairs pairs))).mapError
            SqliteError.toCall) := by
  rw [SQLiteConnector.tableRecords, ← mapError_bind]
  cases cells (foreignKeyList table) with
  | error e => rfl
  | ok rows => rfl

theorem SQLiteConnector.tablesSteps_computes (conn : Nat) (tables : List String) :
    Computes (Answered queries cells) (SQLiteConnector.tablesSteps conn tables)
      ((tables.mapM (SQLiteConnector.tableRecords cells) >>= fun result =>
        .ok result.flatten).mapError SqliteError.toCall) := by
  induction tables with
  | nil => exact computes_ofExcept (.ok [])
  | cons table tables ih =>
    have hvalue : ((table :: tables).mapM (SQLiteConnector.tableRecords cells) >>= fun result =>
        .ok result.flatten).mapError SqliteError.toCall =
        ((SQLiteConnector.tableRecords cells table).mapError SqliteError.toCall >>= fun records =>
          (tables.mapM (SQLiteConnector.tableRecords cells) >>= fun result =>
            .ok result.flatten).mapError SqliteError.toCall >>= fun result =>
              .ok (records ++ result)) := by
      rw [List.mapM_cons]
      cases SQLiteConnector.tableRecords cells table with
      | error e => rfl
      | ok records =>
        cases tables.mapM (SQLiteConnector.tableRecords cells) with
        | error e => rfl
        | ok result => rfl
    rw [hvalue, tableRecords_toCall, bind_assoc]
    refine computes_bind (readRows_computes _ _ conn) fun pairs _ => ?_
    refine computes_bind (readRows_computes _ _ conn) fun records _ => ?_
    exact computes_bind ih fun result _ => computes_ofExcept (.ok (records ++ result))

/-- **The steps of `fetch_schema`** compute what `fetch_schema` does. -/
theorem SQLiteConnector.schemaSteps_computes (conn : Nat) :
    Computes (Answered queries cells) (SQLiteConnector.schemaSteps conn)
      ((SQLiteConnector.fetchSchema cells).mapError SqliteError.toCall) := by
  have hvalue : (SQLiteConnector.fetchSchema cells).mapError SqliteError.toCall =
      (((cells tablesQuery).mapError SqliteError.driver >>= fun rows =>
        rows.mapM fun row => textCell row 0).mapError SqliteError.toCall >>= fun tables =>
          (tables.mapM (SQLiteConnector.tableRecords cells) >>= fun result =>
            .ok result.flatten).mapError SqliteError.toCall) := by
    rw [SQLiteConnector.fetchSchema, ← mapError_bind, bind_assoc]
    rfl
  rw [hvalue]
  exact computes_bind (readRows_computes _ _ conn) fun tables _ => tablesSteps_computes conn tables

/-- The same on PostgreSQL. -/
theorem PostgresConnector.schema_computes (record : RecordDict) (pool : Nat) :
    Computes (Answered queries cells)
      (PostgresConnector.query record schemaQuery pool >>= PostgresConnector.records)
      ((PostgresConnector.fetchSchema record queries).mapError FetchError.toCall) := by
  have hvalue : (PostgresConnector.fetchSchema record queries).mapError FetchError.toCall =
      ((PostgresConnector.executeQuery record queries schemaQuery).mapError CallError.driver >>=
        fun rows => (rows.mapM PostgresConnector.columnRecord).mapError FetchError.toCall) := by
    rw [PostgresConnector.fetchSchema, mapError_bind]
    cases PostgresConnector.executeQuery record queries schemaQuery <;> rfl
  rw [hvalue]
  exact computes_bind (PostgresConnector.query_computes _ _ pool) fun rows _ => computes_ofExcept _
/-! ## The phases -/

theorem request_asks (h : Nat) (r : Request) : (request h r : Steps ε _).Asks Uses :=
  ⟨trivial, fun _ => asks_ofExcept _⟩

theorem within_asks {α : Type} {enter leave : Steps ε Unit} {body : Steps ε α}
    (henter : enter.Asks Uses) (hbody : body.Asks Uses) (hleave : leave.Asks Uses) :
    (within enter body leave).Asks Uses := by
  refine asks_bind henter fun _ => asks_bind (asks_tryCatch hbody fun e => ?_) fun a => ?_
  · exact asks_bind hleave fun _ => trivial
  · exact asks_bind hleave fun _ => trivial

theorem PostgresConnector.query_asks (record : RecordDict) (sql : String) (pool : Nat) :
    (PostgresConnector.query record sql pool : Steps ε (List Row)).Asks Uses :=
  within_asks (request_asks _ _) (asks_bind (request_asks _ _) fun _ => trivial)
    (request_asks _ _)

theorem SQLiteConnector.query_asks (sql : String) (conn : Nat) :
    (SQLiteConnector.query sql conn : Steps ε (List Row)).Asks Uses :=
  within_asks (request_asks _ _) (asks_bind (request_asks _ _) fun _ => trivial)
    (request_asks _ _)

theorem SQLiteConnector.readRows_asks {α : Type} (sql : String)
    (read : List SqliteRow → Except (SqliteError ε) α) (conn : Nat) :
    (SQLiteConnector.readRows sql read conn : Steps ε α).Asks Uses :=
  within_asks (request_asks _ _) (asks_bind (request_asks _ _) fun _ => asks_ofExcept _)
    (request_asks _ _)

theorem SQLiteConnector.tablesSteps_asks (conn : Nat) (tables : List String) :
    (SQLiteConnector.tablesSteps conn tables : Steps ε _).Asks Uses := by
  induction tables with
  | nil => trivial
  | cons table tables ih =>
    refine asks_bind (readRows_asks _ _ conn) fun pairs => ?_
    refine asks_bind (readRows_asks _ _ conn) fun records => ?_
    exact asks_bind ih fun result => trivial

theorem SQLiteConnector.schemaSteps_asks (conn : Nat) :
    (SQLiteConnector.schemaSteps conn : Steps ε _).Asks Uses :=
  asks_bind (readRows_asks _ _ conn) fun tables => tablesSteps_asks conn tables

/-- Programs that only use what they got may follow in the final phase. -/
theorem obeys_of_final {α : Type} {p : Steps ε α} (hp : p.Asks Uses) (ψ : Phase)
    (hψ : (calls Request.Answer ε).final ψ) : (calls Request.Answer ε).Obeys ψ p := by
  obtain rfl : ψ = .active := hψ
  exact obeys_active hp

theorem PostgresConnector.pool_obeys :
    (calls Request.Answer ε).Obeys .user (PostgresConnector.pool : Steps ε Nat) := by
  refine ⟨trivial, fun field => ?_⟩
  cases field with
  | some pool => rfl
  | none =>
    refine ⟨trivial, fun opened => ?_⟩
    cases opened with
    | error e => rfl
    | ok pool => exact ⟨rfl, fun _ => rfl⟩

theorem SQLiteConnector.getConn_obeys :
    (calls Request.Answer ε).Obeys .user (SQLiteConnector.getConn : Steps ε (Option Nat)) := by
  refine ⟨trivial, fun field => ?_⟩
  cases field with
  | some conn => rfl
  | none =>
    refine ⟨trivial, fun opened => ?_⟩
    cases opened with
    | error e => rfl
    | ok conn =>
      have hpragma : (request conn (.execute "PRAGMA foreign_keys = ON") >>= fun _ => readField :
          Steps ε (Option Nat)).Asks Uses :=
        asks_bind (request_asks _ _) fun _ => ⟨trivial, fun _ => trivial⟩
      exact ⟨rfl, fun _ => obeys_active hpragma⟩

theorem closeField_obeys : (calls Request.Answer ε).Obeys .closer (closeField : Steps ε Unit) := by
  refine ⟨trivial, fun field => ?_⟩
  cases field with
  | none => rfl
  | some h =>
    refine ⟨rfl, fun closed => ?_⟩
    cases closed with
    | error e => rfl
    | ok _ => exact ⟨rfl, fun _ => rfl⟩

theorem SQLiteConnector.deref_asks (conn : Option Nat) :
    (SQLiteConnector.deref conn : Steps ε Nat).Asks Uses := by
  cases conn <;> trivial

/-- `conn = await self._get_conn()` and what is done with it. -/
theorem SQLiteConnector.withConn_obeys {α : Type} {body : Nat → Steps ε α}
    (hbody : ∀ conn, (body conn).Asks Uses) :
    (calls Request.Answer ε).Obeys .user
      (SQLiteConnector.getConn >>= fun conn => SQLiteConnector.deref conn >>= body) :=
  Typestate.obeys_bind getConn_obeys fun ψ hψ conn =>
    obeys_of_final (asks_bind (deref_asks conn) hbody) ψ hψ

theorem executeQuerySteps_obeys (c : Connector) (sql : String) :
    (calls Request.Answer ε).Obeys .user (c.executeQuerySteps sql : Steps ε (List Row)) := by
  cases c with
  | postgres record =>
    exact Typestate.obeys_bind PostgresConnector.pool_obeys fun ψ hψ pool =>
      obeys_of_final (PostgresConnector.query_asks record sql pool) ψ hψ
  | sqlite => exact SQLiteConnector.withConn_obeys (SQLiteConnector.query_asks sql)

theorem fetchSchemaSteps_obeys (c : Connector) :
    (calls Request.Answer ε).Obeys .user (c.fetchSchemaSteps : Steps ε (List ColumnRecord)) := by
  cases c with
  | postgres record =>
    exact Typestate.obeys_bind (executeQuerySteps_obeys (.postgres record) schemaQuery)
      fun ψ hψ rows => obeys_of_final (asks_ofExcept _) ψ hψ
  | sqlite => exact SQLiteConnector.withConn_obeys SQLiteConnector.schemaSteps_asks

theorem healthcheckSteps_obeys (c : Connector) (isException : ε → Bool) :
    (calls Request.Answer ε).Obeys .user (c.healthcheckSteps isException) := by
  refine Typestate.obeys_tryCatch (Typestate.obeys_bind (executeQuerySteps_obeys c _)
    fun ψ hψ rows => obeys_of_final (asks_ret _) ψ hψ) fun ψ hψ e => obeys_of_final ?_ ψ hψ
  cases e with
  | driver e =>
    cases h : isException e with
    | true => simp [h]
    | false => simp [h, Prog.Asks]
  | _ => trivial

/-- Only `close` begins as a closing call. -/
def ConnectorCall.closes : ConnectorCall → Bool
  | .close => true
  | _ => false

/-- **The calls of a connector** go through the phases of a call on a shared
handle. -/
theorem call_obeys (c : Connector) (isException : ε → Bool) (x : ConnectorCall) :
    (calls Request.Answer ε).Obeys (if x.closes then .closer else .user)
      (c.call isException x) := by
  have hret : ∀ v : CallValue, ∀ ψ, (calls Request.Answer ε).final ψ →
      (calls Request.Answer ε).Obeys ψ (.ret v : Steps ε CallValue) :=
    fun v ψ hψ => obeys_of_final (asks_ret v) ψ hψ
  cases x with
  | executeQuery sql =>
    exact Typestate.obeys_bind (executeQuerySteps_obeys c sql) fun ψ hψ rows => hret _ ψ hψ
  | fetchSchema =>
    exact Typestate.obeys_bind (fetchSchemaSteps_obeys c) fun ψ hψ records => hret _ ψ hψ
  | healthcheck =>
    exact Typestate.obeys_bind (healthcheckSteps_obeys c isException)
      fun ψ hψ ok => hret _ ψ hψ
  | close => exact Typestate.obeys_bind closeField_obeys fun ψ hψ _ => hret _ ψ hψ

end UniversityQA.Db
