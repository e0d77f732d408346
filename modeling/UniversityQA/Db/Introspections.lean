import UniversityQA.Db.Statements

/-!
# Introspections that come to their end

While `fetch_schema` is under way any call of the driver may fail, and the
field may change between two awaits.  What it returns when it returns is what
the answers it was given amount to.

* `Truthful`: where the schema was asked for and the driver answered, it
  answered for the database.
* `PostgresConnector.fetchSchemaSteps_finds`, `SQLiteConnector.fetchSchemaSteps_finds`.
-/

namespace UniversityQA.Db

open UniversityQA.Py Coroutine SharedHandle

variable {ε : Type} {queries : String → Except ε QueryResult}
  {cells : String → Except ε (List SqliteRow)}

/-- The schema is what the database answers, if it answers.  Other queries may
be answered differently every time. -/
def Truthful (queries : String → Except ε QueryResult) (cells : String → Except ε (List SqliteRow)) :
    OpEvent Request.Answer ε → Prop
  | ⟨.request _ (.fetch sql), .ok fetched⟩ => sql = schemaQuery → queries schemaQuery = .ok fetched
  | ⟨.request _ (.fetchCells sql), .ok rows⟩ => cells sql = .ok rows
  | _ => True

theorem fetchSchema_finds (pool : Nat) :
    (request pool (.fetch schemaQuery) : Steps ε QueryResult).Ensures (Truthful queries cells)
      fun fetched => queries schemaQuery = .ok fetched := by
  intro a ha
  cases a with
  | ok v => exact ha rfl
  | error e => trivial

theorem PostgresConnector.schemaQuery_finds (record : RecordDict) (pool : Nat) :
    (PostgresConnector.query record schemaQuery pool).Ensures (Truthful queries cells)
      fun rows => PostgresConnector.executeQuery record queries schemaQuery = .ok rows := by
  refine within_ensures (ensures_bind (fetchSchema_finds pool) fun fetched hfetched => ?_)
  change PostgresConnector.executeQuery record queries schemaQuery = _
  rw [PostgresConnector.executeQuery, hfetched]
  rfl

theorem PostgresConnector.fetchSchemaSteps_finds (record : RecordDict) :
    (PostgresConnector.fetchSchemaSteps record).Ensures (Truthful queries cells)
      fun records => PostgresConnector.fetchSchema record queries = .ok records := by
  refine ensures_bind (ensures_bind (ensures_of_forall (fun _ => trivial) _) fun pool _ =>
    schemaQuery_finds record pool) fun rows hrows => ?_
  refine ensures_ofExcept fun records hrecords => ?_
  rw [PostgresConnector.fetchSchema, hrows]
  cases hread : rows.mapM PostgresConnector.columnRecord with
  | error e =>
    rw [hread] at hrecords
    cases hrecords
  | ok found =>
    rw [hread] at hrecords
    cases hrecords
    exact hread

theorem SQLiteConnector.readRows_finds {α : Type} (sql : String)
    (read : List SqliteRow → Except (SqliteError ε) α) (conn : Nat) :
    (SQLiteConnector.readRows sql read conn).Ensures (Truthful queries cells)
      fun a => ((cells sql).mapError SqliteError.driver >>= read) = .ok a := by
  refine readRows_ensures fun rows a hrows ha => ?_
  have hcells : cells sql = .ok rows := hrows
  rw [hcells]
  exact ha

/-- The loop over the tables. -/
theorem SQLiteConnector.tablesSteps_finds (conn : Nat) (tables : List String) :
    (SQLiteConnector.tablesSteps conn tables).Ensures (Truthful queries cells)
      fun records => (tables.mapM (SQLiteConnector.tableRecords cells) >>= fun result =>
        .ok result.flatten) = .ok records := by
  induction tables with
  | nil => rfl
  | cons table tables ih =>
    refine ensures_bind (readRows_finds _ _ conn) fun pairs hpairs => ?_
    refine ensures_bind (readRows_finds _ _ conn) fun records hrecords => ?_
    refine ensures_bind ih fun result hresult => ?_
    have htable : SQLiteConnector.tableRecords cells table = .ok records := by
      rw [SQLiteConnector.tableRecords, ← bind_assoc, hpairs]
      exact hrecords
    change ((table :: tables).mapM (SQLiteConnector.tableRecords cells) >>= fun result =>
      .ok result.flatten) = .ok (records ++ result)
    rw [List.mapM_cons, htable]
    cases hrest : tables.mapM (SQLiteConnector.tableRecords cells) with
    | error e =>
      rw [hrest] at hresult
      cases hresult
    | ok parts =>
      rw [hrest] at hresult
      cases hresult
      rfl

theorem SQLiteConnector.fetchSchemaSteps_finds :
    (SQLiteConnector.fetchSchemaSteps : Steps ε (List ColumnRecord)).Ensures (Truthful queries cells)
      fun records => SQLiteConnector.fetchSchema cells = .ok records := by
  refine ensures_bind (ensures_of_forall (fun _ => trivial) _) fun conn? _ => ?_
  refine ensures_bind (ensures_of_forall (fun _ => trivial) _) fun conn _ => ?_
  refine ensures_bind (readRows_finds _ _ conn) fun tables htables => ?_
  refine ensures_imp (fun records hrecords => ?_) (tablesSteps_finds conn tables)
  rw [SQLiteConnector.fetchSchema, ← bind_assoc, htables]
  exact hrecords

end UniversityQA.Db
