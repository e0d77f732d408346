import UniversityQA.Db.Connected

/-!
# The statements that a connector sends

Besides the queries it is given, a connector sends statements of its own: it
introspects the schema, and a SQLite connection is set up.

* `Request.statement`: what a request sends;
* `ListedIn`: the tables that the database has listed so far;
* `executeQuerySteps_sends`, `fetchSchemaSteps_sends`,
  `healthcheckSteps_sends`: what the calls send.
-/

namespace UniversityQA.Db

open UniversityQA.Py Coroutine SharedHandle

variable {ε α : Type}

def Request.statement : Request → Option String
  | .fetch sql | .execute sql | .fetchall sql | .fetchCells sql => some sql
  | .acquire | .release | .closeCursor => none

/-- The statement that the operation sends, if it sends one, is one of `S`. -/
def Sends (S : String → Prop) : Op Request → Prop
  | .request _ r => ∀ sql, r.statement = some sql → S sql
  | _ => True

theorem sends_imp {S S' : String → Prop} (h : ∀ sql, S sql → S' sql) (op : Op Request)
    (hop : Sends S op) : Sends S' op := by
  cases op with
  | request k r => exact fun sql hsql => h sql (hop sql hsql)
  | _ => trivial

/-! ## Introspection -/

/-- Some answer to the query for the tables had a row with this name. -/
def ListedIn (ops : List (OpEvent Request.Answer ε)) (table : String) : Prop :=
  ∃ k rows, (⟨.request k (.fetchCells tablesQuery), .ok rows⟩ : OpEvent Request.Answer ε) ∈ ops ∧
    ∃ row ∈ rows, textCell row 0 = (.ok table : Except (SqliteError ε) String)

/-- The tables that the answer lists, if it is one to that query, are among
`tables`. -/
def Lists (tables : String → Prop) (e : OpEvent Request.Answer ε) : Prop :=
  ∀ table, ListedIn [e] table → tables table

theorem lists_listedIn {ops : List (OpEvent Request.Answer ε)} {e : OpEvent Request.Answer ε}
    (he : e ∈ ops) : Lists (ListedIn ops) e := by
  rintro table ⟨k, rows, hmem, hrow⟩
  obtain rfl := List.mem_singleton.1 hmem
  exact ⟨k, rows, he, hrow⟩

/-- What `fetch_schema` sends, where these are the tables. -/
def Connector.Introspects (tables : String → Prop) (sql : String) : Connector → Prop
  | .postgres _ => sql = schemaQuery
  | .sqlite => sql = tablesQuery ∨ ∃ table, tables table ∧ (sql = foreignKeyList table ∨ sql = tableInfo table)

def foreignKeysOn : String := "PRAGMA foreign_keys = ON"

/-! ## What the calls send -/

section Calls

variable {P : OpEvent Request.Answer ε → Prop} {S : String → Prop}

theorem request_sends (k : Nat) {r : Request} (hr : ∀ sql, r.statement = some sql → S sql) :
    (request k r : Steps ε r.Answer).Asks (Sends S) :=
  ⟨hr, fun _ => asks_ofExcept _⟩

theorem within_sends {enter leave : Steps ε Unit} {body : Steps ε α} (henter : enter.Asks (Sends S))
    (hbody : body.Asks (Sends S)) (hleave : leave.Asks (Sends S)) :
    (within enter body leave).Asks (Sends S) := by
  refine asks_bind henter fun _ => asks_bind (asks_tryCatch hbody fun e => ?_) fun a => ?_
  · exact asks_bind hleave fun _ => trivial
  · exact asks_bind hleave fun _ => trivial

theorem sends_one {sql : String} (hsql : S sql) {r : Request} (hr : r.statement = some sql) :
    ∀ sql', r.statement = some sql' → S sql' := by
  intro sql' hsql'
  rw [hr] at hsql'
  cases hsql'
  exact hsql

theorem sends_none {r : Request} (hr : r.statement = none) :
    ∀ sql, r.statement = some sql → S sql := by
  intro sql hsql
  rw [hr] at hsql
  cases hsql

theorem PostgresConnector.query_sends (record : RecordDict) {sql : String} (hsql : S sql) (pool : Nat) :
    (PostgresConnector.query record sql pool : Steps ε (List Row)).Asks (Sends S) :=
  within_sends (request_sends _ (sends_none rfl))
    (asks_bind (request_sends _ (sends_one hsql rfl)) fun _ => trivial)
    (request_sends _ (sends_none rfl))

theorem SQLiteConnector.query_sends {sql : String} (hsql : S sql) (conn : Nat) :
    (SQLiteConnector.query sql conn : Steps ε (List Row)).Asks (Sends S) :=
  within_sends (request_sends _ (sends_one hsql rfl))
    (asks_bind (request_sends _ (sends_one hsql rfl)) fun _ => trivial)
    (request_sends _ (sends_none rfl))

theorem SQLiteConnector.readRows_sends {sql : String} (hsql : S sql)
    (read : List SqliteRow → Except (SqliteError ε) α) (conn : Nat) :
    (SQLiteConnector.readRows sql read conn : Steps ε α).Asks (Sends S) :=
  within_sends (request_sends _ (sends_one hsql rfl))
    (asks_bind (request_sends _ (sends_one hsql rfl)) fun _ => asks_ofExcept _)
    (request_sends _ (sends_none rfl))

theorem SQLiteConnector.tablesSteps_sends (conn : Nat) {tables : List String}
    (hkeys : ∀ table ∈ tables, S (foreignKeyList table))
    (hinfo : ∀ table ∈ tables, S (tableInfo table)) :
    (SQLiteConnector.tablesSteps conn tables : Steps ε _).Asks (Sends S) := by
  induction tables with
  | nil => trivial
  | cons table tables ih =>
    obtain ⟨hkey, hkeys⟩ := List.forall_mem_cons.1 hkeys
    obtain ⟨hfirst, hinfo⟩ := List.forall_mem_cons.1 hinfo
    refine asks_bind (readRows_sends hkey _ conn) fun pairs => ?_
    refine asks_bind (readRows_sends hfirst _ conn) fun records => ?_
    exact asks_bind (ih hkeys hinfo) fun result => trivial

/-- What is read inside `async with`. -/
theorem within_ensures {M : α → Prop} {enter leave : Steps ε Unit} {body : Steps ε α}
    (hbody : body.Ensures P M) : (within enter body leave).Ensures P M := by
  refine ensures_bind (ensures_of_forall (fun _ => trivial) enter) fun _ _ => ?_
  refine ensures_bind (ensures_tryCatch hbody fun e => ?_) fun a ha => ?_
  · exact ensures_bind (ensures_of_forall (fun _ => trivial) leave) fun _ _ => trivial
  · exact ensures_bind (ensures_of_forall (fun _ => trivial) leave) fun _ _ => ha

theorem SQLiteConnector.readRows_ensures {M : α → Prop} {sql : String}
    {read : List SqliteRow → Except (SqliteError ε) α} {conn : Nat}
    (hread : ∀ rows a, P ⟨.request conn (.fetchCells sql), .ok rows⟩ → read rows = .ok a → M a) :
    (SQLiteConnector.readRows sql read conn).Ensures P M := by
  refine within_ensures fun answer hanswer => ?_
  cases answer with
  | error e => trivial
  | ok rows =>
    refine ensures_ofExcept fun a ha => hread rows a hanswer ?_
    cases h : read rows with
    | error e =>
      rw [h] at ha
      cases ha
    | ok b =>
      rw [h] at ha
      cases ha
      rfl

/-- **The introspection of SQLite**: the tables, and what belongs to tables that
were listed. -/
theorem SQLiteConnector.schemaSteps_sends {tables : String → Prop}
    (hlists : ∀ e, P e → Lists tables e) (conn : Nat) :
    (SQLiteConnector.schemaSteps conn : Steps ε _).AsksWhile P
      (Sends fun sql => Connector.sqlite.Introspects tables sql) := by
  refine asksWhile_bind_ensures (M := fun names => ∀ table ∈ names, tables table)
    (asksWhile_of_asks (readRows_sends (.inl rfl) _ conn))
    (readRows_ensures fun rows names hrows hread table htable => ?_) fun names hnames => ?_
  · obtain ⟨row, hrow, hcell⟩ := mem_of_mapM hread table htable
    exact hlists _ hrows table ⟨conn, rows, List.mem_singleton_self _, row, hrow, hcell⟩
  · exact asksWhile_of_asks (tablesSteps_sends conn
      (fun table htable => .inr ⟨table, hnames table htable, .inl rfl⟩)
      fun table htable => .inr ⟨table, hnames table htable, .inr rfl⟩)

theorem PostgresConnector.pool_sends : (PostgresConnector.pool : Steps ε Nat).Asks (Sends S) := by
  refine ⟨trivial, fun field => ?_⟩
  cases field with
  | some pool => trivial
  | none =>
    refine ⟨trivial, fun opened => ?_⟩
    cases opened with
    | error e => trivial
    | ok pool => exact ⟨trivial, fun _ => trivial⟩

/-- A connection is set up unless one is found. -/
theorem SQLiteConnector.getConn_sends (h : (∀ e, P e → Found e) ∨ S foreignKeysOn) :
    (SQLiteConnector.getConn : Steps ε (Option Nat)).AsksWhile P (Sends S) := by
  refine ⟨trivial, fun field hfield => ?_⟩
  cases field with
  | some conn => trivial
  | none =>
    rcases h with hfound | hpragma
    · cases hfound _ hfield
    refine ⟨trivial, fun opened _ => ?_⟩
    cases opened with
    | error e => trivial
    | ok conn =>
      have hset : (request conn (.execute foreignKeysOn) >>= fun _ => readField :
          Steps ε (Option Nat)).Asks (Sends S) :=
        asks_bind (request_sends conn (sends_one hpragma rfl)) fun _ => ⟨trivial, fun _ => trivial⟩
      exact ⟨trivial, fun _ _ => asksWhile_of_asks hset⟩

/-- `conn = await self._get_conn()` and what is done with it. -/
theorem SQLiteConnector.withConn_sends (h : (∀ e, P e → Found e) ∨ S foreignKeysOn)
    {body : Nat → Steps ε α} (hbody : ∀ conn, (body conn).AsksWhile P (Sends S)) :
    (SQLiteConnector.getConn >>= fun conn => SQLiteConnector.deref conn >>= body).AsksWhile P
      (Sends S) := by
  refine asksWhile_bind (getConn_sends h) fun conn => asksWhile_bind ?_ hbody
  cases conn <;> trivial

variable (h : (∀ e, P e → Found e) ∨ S foreignKeysOn)

include h

theorem executeQuerySteps_sends (c : Connector) {sql : String} (hsql : S sql) :
    (c.executeQuerySteps sql : Steps ε (List Row)).AsksWhile P (Sends S) := by
  cases c with
  | postgres record =>
    exact asksWhile_of_asks (asks_bind PostgresConnector.pool_sends
      (PostgresConnector.query_sends record hsql))
  | sqlite =>
    exact SQLiteConnector.withConn_sends h fun conn =>
      asksWhile_of_asks (SQLiteConnector.query_sends hsql conn)

theorem fetchSchemaSteps_sends (c : Connector) {tables : String → Prop}
    (hlists : ∀ e, P e → Lists tables e) (hsends : ∀ sql, c.Introspects tables sql → S sql) :
    (c.fetchSchemaSteps : Steps ε (List ColumnRecord)).AsksWhile P (Sends S) := by
  cases c with
  | postgres record =>
    exact asksWhile_bind (executeQuerySteps_sends h (.postgres record) (hsends _ rfl)) fun rows =>
      asksWhile_ofExcept _
  | sqlite =>
    exact SQLiteConnector.withConn_sends h fun conn =>
      asksWhile_of_imp (sends_imp hsends) (SQLiteConnector.schemaSteps_sends hlists conn)

theorem healthcheckSteps_sends (c : Connector) (isException : ε → Bool) (hsql : S "SELECT 1") :
    (c.healthcheckSteps isException).AsksWhile P (Sends S) := by
  refine asksWhile_tryCatch (asksWhile_bind (executeQuerySteps_sends h c hsql) fun rows => trivial) ?_
  intro e
  cases e with
  | driver e =>
    cases he : isException e with
    | true => simp [he, Prog.AsksWhile]
    | false => simp [he, Prog.AsksWhile]
  | _ => trivial

end Calls

end UniversityQA.Db
