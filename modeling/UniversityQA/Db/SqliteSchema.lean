import UniversityQA.Db.Base
import UniversityQA.Lib.Relational
import UniversityQA.Py.Dict

/-!
# SQLite introspection

A SQLite database as its `CREATE TABLE` statements declare it, what the
`PRAGMA` statements answer about it and what the connector makes of the rows.

* `SqliteDatabase`: tables with columns and foreign keys.
* `SqliteTable.foreignKeyRows`, `SqliteTable.columnRows`: the answers.
* `SQLiteConnector.fetchSchema`, and `fetchSchema_eq` for these answers.
-/

namespace UniversityQA.Db

open UniversityQA.Py Relational

/-! ## Values and names -/

/-- A value of a result row.  A real is carried by its `repr`, a blob by its
`str`. -/
inductive SqliteValue where
  | null
  | integer (n : Int)
  | real (repr : String)
  | text (s : String)
  | blob (str : String)
  deriving DecidableEq, Repr

abbrev SqliteRow := List SqliteValue

/-- A value inside an f-string. -/
def SqliteValue.format : SqliteValue → String
  | .null => "None"
  | .integer n => toString n
  | .real repr => repr
  | .text s => s
  | .blob str => str

def SqliteValue.ofText? : Option String → SqliteValue
  | none => .null
  | some s => .text s

/-- SQLite does not distinguish the case of ASCII letters in names. -/
def SameName (a b : String) : Prop := a.map Char.toLower = b.map Char.toLower

instance (a b : String) : Decidable (SameName a b) :=
  inferInstanceAs (Decidable (a.map Char.toLower = b.map Char.toLower))

/-- The keywords that are no names without quotes. -/
def reservedWords : List String :=
  ["ADD", "ALL", "ALTER", "AND", "AS", "AUTOINCREMENT", "BETWEEN", "CASE", "CHECK", "COLLATE",
   "COMMIT", "CONSTRAINT", "CREATE", "DEFAULT", "DEFERRABLE", "DELETE", "DISTINCT", "DROP", "ELSE",
   "ESCAPE", "EXCEPT", "EXISTS", "FOREIGN", "FROM", "GROUP", "HAVING", "IN", "INDEX", "INSERT",
   "INTERSECT", "INTO", "IS", "ISNULL", "JOIN", "LIMIT", "NOT", "NOTHING", "NOTNULL", "NULL", "ON",
   "OR", "ORDER", "PRIMARY", "REFERENCES", "RETURNING", "SELECT", "SET", "TABLE", "THEN", "TO",
   "TRANSACTION", "UNION", "UNIQUE", "UPDATE", "USING", "VALUES", "WHEN", "WHERE"]

/-- A name that needs no quotes. -/
def PlainName (name : String) : Prop :=
  name.toList.all (fun c => c.isAlphanum || c == '_') = true ∧
    name.toList.head?.any (fun c => !c.isDigit) = true ∧
    reservedWords.contains (name.map Char.toUpper) = false

instance (name : String) : Decidable (PlainName name) :=
  inferInstanceAs (Decidable (_ ∧ _ ∧ _))

/-! ## The database -/

/-- A column; `hidden` are those that `PRAGMA table_info` leaves out (generated
ones and those of virtual tables), `more` are the cells behind its type. -/
structure SqliteColumn where
  name : String
  type : String
  hidden : Bool := false
  more : List SqliteValue := []
  deriving DecidableEq, Repr

/-- A foreign key as it is written: the table it names, its own columns and
the columns named of that table, if any are. -/
structure SqliteForeignKey where
  parent : String
  columns : List String
  targets : Option (List String)
  actions : List SqliteValue := []
  targets_length : ∀ ts ∈ targets, ts.length = columns.length
  deriving DecidableEq

/-- A table.  The foreign keys stand in the order in which
`PRAGMA foreign_key_list` has them. -/
structure SqliteTable where
  name : String
  columns : List SqliteColumn
  primaryKey : List String := []
  foreignKeys : List SqliteForeignKey := []
  deriving DecidableEq

/-- The tables of a database, those that SQLite keeps for itself among them. -/
structure SqliteDatabase where
  tables : List SqliteTable
  name_unique : (tables.map fun T => T.name.map Char.toLower).Nodup

/-- The columns of the parent table that a key refers to: those it names, or
the primary key. -/
def SqliteForeignKey.targetsIn (k : SqliteForeignKey) (parent : SqliteTable) : List String :=
  match k.targets with
  | some ts => ts
  | none => if parent.primaryKey.length = k.columns.length then parent.primaryKey else []

/-- Column `a` of table `T` refers to column `d` of table `p`. -/
def References (T : SqliteTable) (a : String) (p : SqliteTable) (d : SqliteColumn) : Prop :=
  ∃ k ∈ T.foreignKeys, SameName k.parent p.name ∧ d ∈ p.columns ∧
    ∃ target, (a, target) ∈ k.columns.zip (k.targetsIn p) ∧ SameName target d.name

def SqliteTable.InForeignKey (T : SqliteTable) (a : String) : Prop :=
  ∃ k ∈ T.foreignKeys, a ∈ k.columns

/-- The tables as `ORDER BY name` lists them; names have the collation
`BINARY`. -/
def SqliteDatabase.InOrder (S : SqliteDatabase) (tables : List SqliteTable) : Prop :=
  OrderedBy (fun T U : SqliteTable => T.name ≤ U.name) S.tables tables

/-! ## The answers -/

/-- One column of one key, `target` as it is written. -/
structure KeyEntry where
  id : Nat
  seq : Nat
  key : SqliteForeignKey
  column : String
  target : Option String
  deriving DecidableEq

def SqliteForeignKey.targetCells (k : SqliteForeignKey) : List (Option String) :=
  match k.targets with
  | some ts => ts.map some
  | none => k.columns.map fun _ => none

def SqliteForeignKey.entries (k : SqliteForeignKey) (id : Nat) : List KeyEntry :=
  (k.columns.zip k.targetCells).zipIdx.map fun x => ⟨id, x.2, k, x.1.1, x.1.2⟩

def SqliteTable.entries (T : SqliteTable) : List KeyEntry :=
  T.foreignKeys.zipIdx.flatMap fun x => x.1.entries x.2

def KeyEntry.row (e : KeyEntry) : SqliteRow :=
  [.integer e.id, .integer e.seq, .text e.key.parent, .text e.column, .ofText? e.target]
    ++ e.key.actions

/-- `PRAGMA foreign_key_list`. -/
def SqliteTable.foreignKeyRows (T : SqliteTable) : List SqliteRow := T.entries.map KeyEntry.row

def SqliteTable.visibleColumns (T : SqliteTable) : List SqliteColumn :=
  T.columns.filter fun c => !c.hidden

/-- `PRAGMA table_info`. -/
def SqliteTable.columnRows (T : SqliteTable) : List SqliteRow :=
  T.visibleColumns.zipIdx.map fun x => [.integer x.2, .text x.1.name, .text x.1.type] ++ x.1.more

def tablesQuery : String := "SELECT name FROM sqlite_master WHERE type='table' ORDER BY name"

def foreignKeyList (table : String) : String := "PRAGMA foreign_key_list(" ++ table ++ ")"

def tableInfo (table : String) : String := "PRAGMA table_info(" ++ table ++ ")"

variable {ε : Type}

/-- The driver answers the three statements from the database; `tables` is the
order in which it lists the tables. -/
structure SqliteAnswers (S : SqliteDatabase) (tables : List SqliteTable)
    (driver : String → Except ε (List SqliteRow)) : Prop where
  order : S.InOrder tables
  tables : driver tablesQuery = .ok (tables.map fun T => [.text T.name])
  foreignKeys : ∀ T ∈ S.tables, PlainName T.name →
    driver (foreignKeyList T.name) = .ok T.foreignKeyRows
  columns : ∀ T ∈ S.tables, PlainName T.name → driver (tableInfo T.name) = .ok T.columnRows

/-! ## `fetch_schema` -/

/-- What `fetch_schema` can raise: what the driver raised, or a row without the
cell.  A cell that is no text has no record here. -/
inductive SqliteError (ε : Type) where
  | driver (e : ε)
  | indexError (i : Nat)
  | notText (i : Nat)
  deriving DecidableEq, Repr

/-- `row[i]`. -/
def cell (row : SqliteRow) (i : Nat) : Except (SqliteError ε) SqliteValue :=
  match row[i]? with
  | some v => .ok v
  | none => .error (.indexError i)

/-- `row[i]` for a cell of text. -/
def textCell (row : SqliteRow) (i : Nat) : Except (SqliteError ε) String :=
  match row[i]? with
  | some (.text s) => .ok s
  | some _ => .error (.notText i)
  | none => .error (.indexError i)

/-- `fk_map[row[3]] = f"{row[2]}.{row[4]}"`, as a pair. -/
def fkPair (row : SqliteRow) : Except (SqliteError ε) (String × String) := do
  let referencedTable ← cell row 2
  let toCol ← cell row 4
  let fromCol ← textCell row 3
  return (fromCol, referencedTable.format ++ "." ++ toCol.format)

/-- The record made of one row of `PRAGMA table_info`. -/
def SQLiteConnector.columnRecord (table : String) (fkMap : Dict String String) (row : SqliteRow) :
    Except (SqliteError ε) ColumnRecord := do
  let colName ← textCell row 1
  let type ← textCell row 2
  return {
    table := table
    column := colName
    type := type
    isFk := (fkMap.lookup colName).isSome
    references := fkMap.lookup colName }

/-- The body of the loop over the tables. -/
def SQLiteConnector.tableRecords (driver : String → Except ε (List SqliteRow)) (table : String) :
    Except (SqliteError ε) (List ColumnRecord) := do
  let fkRows ← (driver (foreignKeyList table)).mapError .driver
  let fkMap := Dict.ofPairs (← fkRows.mapM fkPair)
  let columnRows ← (driver (tableInfo table)).mapError .driver
  columnRows.mapM (SQLiteConnector.columnRecord table fkMap)

/-- `SQLiteConnector.fetch_schema`. -/
def SQLiteConnector.fetchSchema (driver : String → Except ε (List SqliteRow)) :
    Except (SqliteError ε) (List ColumnRecord) := do
  let rows ← (driver tablesQuery).mapError .driver
  let tables ← rows.mapM fun row => textCell row 0
  let result ← tables.mapM (SQLiteConnector.tableRecords driver)
  return result.flatten

/-! ## Reading the answers -/

def KeyEntry.text (e : KeyEntry) : String :=
  e.key.parent ++ "." ++ (SqliteValue.ofText? e.target).format

def SqliteTable.fkMap (T : SqliteTable) : Dict String String :=
  Dict.ofPairs (T.entries.map fun e => (e.column, e.text))

/-- What becomes of a column. -/
def columnRecordOf (x : SqliteTable × SqliteColumn) : ColumnRecord where
  table := x.1.name
  column := x.2.name
  type := x.2.type
  isFk := (x.1.fkMap.lookup x.2.name).isSome
  references := x.1.fkMap.lookup x.2.name

theorem fkPair_row (e : KeyEntry) :
    fkPair e.row = (.ok (e.column, e.text) : Except (SqliteError ε) (String × String)) := rfl

theorem tableRecords_eq {S : SqliteDatabase} {tables : List SqliteTable}
    {driver : String → Except ε (List SqliteRow)} (h : SqliteAnswers S tables driver)
    {T : SqliteTable} (hT : T ∈ S.tables) (hplain : PlainName T.name) :
    SQLiteConnector.tableRecords driver T.name =
      .ok (T.visibleColumns.map fun c => columnRecordOf (T, c)) := by
  have hfk : T.foreignKeyRows.mapM fkPair =
      (.ok (T.entries.map fun e => (e.column, e.text)) :
        Except (SqliteError ε) (List (String × String))) := by
    rw [SqliteTable.foreignKeyRows, List.mapM_map]
    exact mapM_eq_ok fun e _ => fkPair_row e
  have hcolumns : T.columnRows.mapM (SQLiteConnector.columnRecord T.name T.fkMap) =
      (.ok (T.visibleColumns.map fun c => columnRecordOf (T, c)) :
        Except (SqliteError ε) (List ColumnRecord)) := by
    have hindex : T.visibleColumns.map (fun c => columnRecordOf (T, c)) =
        T.visibleColumns.zipIdx.map fun x => columnRecordOf (T, x.1) := by
      rw [← List.zipIdx_map_fst 0 T.visibleColumns, List.map_map, List.zipIdx_map_fst]
      rfl
    rw [SqliteTable.columnRows, List.mapM_map, hindex]
    exact mapM_eq_ok fun x _ => rfl
  rw [SQLiteConnector.tableRecords, h.foreignKeys T hT hplain, h.columns T hT hplain]
  change (T.foreignKeyRows.mapM fkPair >>= fun pairs =>
    T.columnRows.mapM (SQLiteConnector.columnRecord T.name (Dict.ofPairs pairs))) = _
  rw [hfk]
  exact hcolumns

/-- The connector's part: one record for every visible column. -/
theorem SQLiteConnector.fetchSchema_eq {S : SqliteDatabase} {tables : List SqliteTable}
    {driver : String → Except ε (List SqliteRow)} (h : SqliteAnswers S tables driver)
    (hplain : ∀ T ∈ S.tables, PlainName T.name) :
    SQLiteConnector.fetchSchema driver =
      .ok ((expand SqliteTable.visibleColumns tables).map columnRecordOf) := by
  have hnames : (tables.map fun T => ([.text T.name] : SqliteRow)).mapM (fun row => textCell row 0) =
      (.ok (tables.map SqliteTable.name) : Except (SqliteError ε) (List String)) := by
    rw [List.mapM_map]
    exact mapM_eq_ok fun T _ => rfl
  have hrecords : (tables.map SqliteTable.name).mapM (SQLiteConnector.tableRecords driver) =
      .ok (tables.map fun T => T.visibleColumns.map fun c => columnRecordOf (T, c)) := by
    rw [List.mapM_map]
    refine mapM_eq_ok fun T hT => ?_
    have hmem := h.order.perm.mem_iff.1 hT
    exact tableRecords_eq h hmem (hplain T hmem)
  rw [SQLiteConnector.fetchSchema, h.tables]
  change ((tables.map fun T => ([.text T.name] : SqliteRow)).mapM (fun row => textCell row 0) >>=
    fun names => names.mapM (SQLiteConnector.tableRecords driver) >>=
      fun result => .ok result.flatten) = _
  rw [hnames]
  change ((tables.map SqliteTable.name).mapM (SQLiteConnector.tableRecords driver) >>=
    fun result => .ok result.flatten) = _
  rw [hrecords, expand, List.map_flatMap, List.flatMap_def]
  simp only [List.map_map]
  rfl

end UniversityQA.Db
