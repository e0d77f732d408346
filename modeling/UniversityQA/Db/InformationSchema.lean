import Mathlib.Data.List.Dedup
import UniversityQA.Db.Connectors
import UniversityQA.Lib.Relational

/-!
# PostgreSQL introspection

The catalog of a database, the views of it that `information_schema` offers,
the query the connector asks and what it makes of the answer.

* `Catalog`: columns and constraints of every schema.
* `Catalog.schemaRows`: the query `_SCHEMA_QUERY` over the views.
* `PostgresConnector.fetchSchema`.
-/

namespace UniversityQA.Db

open UniversityQA.Py Relational

/-! ## The catalog -/

/-- A table with the schema it is in. -/
structure Relation where
  tableSchema : String
  tableName : String
  deriving DecidableEq, Repr

structure ColumnInfo where
  table : Relation
  columnName : String
  dataType : String
  ordinalPosition : Nat
  deriving DecidableEq, Repr

/-- Each local column with the column it refers to.  A referenced column is
not named twice. -/
structure ForeignKey where
  referenced : Relation
  pairs : List (String × String)
  pairs_ne_nil : pairs ≠ []
  referenced_nodup : (pairs.map Prod.snd).Nodup
  deriving DecidableEq

inductive ConstraintKind where
  | foreignKey (key : ForeignKey)
  | primaryKey (columns : List String)
  | unique (columns : List String)
  | check (columns : List String)
  deriving DecidableEq

structure Constraint where
  constraintName : String
  table : Relation
  kind : ConstraintKind
  deriving DecidableEq

def Constraint.constraintType (k : Constraint) : String :=
  match k.kind with
  | .foreignKey _ => "FOREIGN KEY"
  | .primaryKey _ => "PRIMARY KEY"
  | .unique _ => "UNIQUE"
  | .check _ => "CHECK"

def Constraint.foreignKey? (k : Constraint) : Option ForeignKey :=
  match k.kind with
  | .foreignKey key => some key
  | _ => none

/-- The columns of its own table that a key constrains. -/
def Constraint.keyColumns (k : Constraint) : List String :=
  match k.kind with
  | .foreignKey key => (key.pairs.map Prod.fst).dedup
  | .primaryKey columns | .unique columns => columns.dedup
  | .check _ => []

/-- The columns a constraint rests on: those a foreign key refers to, those of
its own table for any other. -/
def Constraint.usedColumns (k : Constraint) : List (Relation × String) :=
  match k.kind with
  | .foreignKey key => (key.pairs.map fun pair => (key.referenced, pair.2)).dedup
  | .primaryKey columns | .unique columns | .check columns =>
    (columns.map fun column => (k.table, column)).dedup

/-- The tables and constraints of a database.  Constraint names are unique in
one table only, and the foreign keys of the public schema stay within it. -/
structure Catalog where
  columns : List ColumnInfo
  constraints : List Constraint
  column_unique : (columns.map fun c => (c.table, c.columnName)).Nodup
  position_unique : (columns.map fun c => (c.table, c.ordinalPosition)).Nodup
  name_unique : (constraints.map fun k => (k.table, k.constraintName)).Nodup
  key_column : ∀ k ∈ constraints, ∀ a ∈ k.keyColumns,
    ∃ c ∈ columns, c.table = k.table ∧ c.columnName = a
  used_column : ∀ k ∈ constraints, ∀ u ∈ k.usedColumns,
    ∃ c ∈ columns, c.table = u.1 ∧ c.columnName = u.2
  within : ∀ k ∈ constraints, k.table.tableSchema = "public" →
    ∀ key ∈ k.foreignKey?, key.referenced.tableSchema = "public"
  table_ne_empty : ∀ c ∈ columns, c.table.tableName ≠ ""

/-- The column refers to column `a` of table `t` by one of its foreign keys. -/
def Catalog.References (S : Catalog) (c : ColumnInfo) (t : Relation) (a : String) : Prop :=
  ∃ k ∈ S.constraints, k.table = c.table ∧
    ∃ key ∈ k.foreignKey?, key.referenced = t ∧ (c.columnName, a) ∈ key.pairs

/-! ## The views

A view row of a constraint is the constraint with what the row adds to it. -/

/-- `information_schema.key_column_usage`. -/
def Catalog.keyColumnUsage (S : Catalog) : List (Constraint × String) :=
  expand Constraint.keyColumns S.constraints

/-- `information_schema.constraint_column_usage`; its `table_schema` is the
schema of the column used. -/
def Catalog.constraintColumnUsage (S : Catalog) : List (Constraint × Relation × String) :=
  expand Constraint.usedColumns S.constraints

/-! ## The query -/

/-- A row of the derived table `fk`. -/
structure FkRow where
  tableName : String
  columnName : String
  foreignTable : String
  foreignColumn : String
  deriving DecidableEq, Repr

/-- A row of `table_constraints tc`, `key_column_usage kcu` and
`constraint_column_usage ccu` joined. -/
abbrev FkJoin := (Constraint × Constraint × String) × Constraint × Relation × String

/-- `tc JOIN kcu ON … JOIN ccu ON … WHERE …`. -/
def Catalog.fkJoin (S : Catalog) : List FkJoin :=
  let withKey := join (fun (tc : Constraint) (kcu : Constraint × String) =>
    tc.constraintName == kcu.1.constraintName && tc.table.tableSchema == kcu.1.table.tableSchema)
    S.constraints S.keyColumnUsage
  let withUse := join (fun (row : Constraint × Constraint × String)
      (ccu : Constraint × Relation × String) =>
    row.1.constraintName == ccu.1.constraintName && row.1.table.tableSchema == ccu.2.1.tableSchema)
    withKey S.constraintColumnUsage
  withUse.filter fun row =>
    row.1.1.constraintType == "FOREIGN KEY" && row.1.1.table.tableSchema == "public"

/-- `SELECT kcu.table_name, kcu.column_name, ccu.table_name, ccu.column_name`. -/
def FkJoin.select (row : FkJoin) : FkRow where
  tableName := row.1.2.1.table.tableName
  columnName := row.1.2.2
  foreignTable := row.2.2.1.tableName
  foreignColumn := row.2.2.2

def onColumn (col : ColumnInfo) (fk : FkRow) : Bool :=
  col.table.tableName == fk.tableName && col.columnName == fk.columnName

def Catalog.publicColumns (S : Catalog) : List ColumnInfo :=
  S.columns.filter fun col => col.table.tableSchema == "public"

/-- `ORDER BY col.table_name, col.ordinal_position`; names have the collation
`C`. -/
def InOrder (x y : ColumnInfo) : Prop :=
  x.table.tableName < y.table.tableName ∨
    x.table.tableName = y.table.tableName ∧ x.ordinalPosition ≤ y.ordinalPosition

/-- The rows of `columns col LEFT JOIN (…) fk ON … WHERE … ORDER BY …`. -/
def Catalog.SchemaRows (S : Catalog) (rows : List (ColumnInfo × Option FkRow)) : Prop :=
  OrderedBy (fun x y => InOrder x.1 y.1)
    (leftJoin onColumn S.publicColumns (S.fkJoin.map FkJoin.select)) rows

/-- The text asked; `Catalog.SchemaRows` is its meaning. -/
def schemaQuery : String := "
    SELECT
        col.table_name,
        col.column_name,
        col.data_type,
        fk.foreign_table AS references_table,
        fk.foreign_column AS references_column
    FROM information_schema.columns col
    LEFT JOIN (
        SELECT
            kcu.table_name,
            kcu.column_name,
            ccu.table_name  AS foreign_table,
            ccu.column_name AS foreign_column
        FROM information_schema.table_constraints tc
        JOIN information_schema.key_column_usage kcu
            ON tc.constraint_name = kcu.constraint_name
            AND tc.table_schema   = kcu.table_schema
        JOIN information_schema.constraint_column_usage ccu
            ON tc.constraint_name = ccu.constraint_name
            AND tc.table_schema   = ccu.table_schema
        WHERE tc.constraint_type = 'FOREIGN KEY'
          AND tc.table_schema    = 'public'
    ) fk ON col.table_name  = fk.table_name
         AND col.column_name = fk.column_name
    WHERE col.table_schema = 'public'
    ORDER BY col.table_name, col.ordinal_position
"

def orNull : Option String → DbValue
  | none => .null
  | some s => .text s

/-- The select list of the query on one row. -/
def selected (row : ColumnInfo × Option FkRow) : List DbValue :=
  [.text row.1.table.tableName, .text row.1.columnName, .text row.1.dataType,
    orNull (row.2.map FkRow.foreignTable), orNull (row.2.map FkRow.foreignColumn)]

def selectList : List String :=
  ["table_name", "column_name", "data_type", "references_table", "references_column"]

/-- The rows as the driver delivers them. -/
def schemaResult (rows : List (ColumnInfo × Option FkRow)) : QueryResult where
  columns := selectList
  rows := rows.map selected
  width := by
    intro row hrow
    obtain ⟨row, -, rfl⟩ := List.mem_map.1 hrow
    rfl

/-! ## `fetch_schema` -/

/-- What `fetch_schema` can raise: what the driver raised, or the reading of a
row. -/
inductive FetchError (ε : Type) where
  | driver (e : ε)
  | keyError (key : String)
  | valueError (key : String)
  deriving DecidableEq, Repr

variable {ε : Type}

/-- `row[key]` for a column of text. -/
def text (row : Row) (key : String) : Except (FetchError ε) String :=
  match row.lookup key with
  | none => .error (.keyError key)
  | some (.text s) => .ok s
  | some _ => .error (.valueError key)

/-- `row[key]` for a column of text that may be null. -/
def textOrNone (row : Row) (key : String) : Except (FetchError ε) (Option String) :=
  match row.lookup key with
  | none => .error (.keyError key)
  | some .null => .ok none
  | some (.text s) => .ok (some s)
  | some _ => .error (.valueError key)

/-- The record made of one row. -/
def PostgresConnector.columnRecord (row : Row) : Except (FetchError ε) ColumnRecord := do
  let table ← text row "table_name"
  let column ← text row "column_name"
  let type ← text row "data_type"
  let referencesTable ← textOrNone row "references_table"
  let referencesColumn ← textOrNone row "references_column"
  return {
    table := table
    column := column
    type := type
    isFk := referencesTable.isSome
    references :=
      match referencesTable with
      | none => none
      | some foreign =>
        -- the empty string is falsy
        if foreign = "" then none
        else some (foreign ++ "." ++ referencesColumn.getD "None") }

/-- `PostgresConnector.fetch_schema`. -/
def PostgresConnector.fetchSchema (record : RecordDict) (driver : String → Except ε QueryResult) :
    Except (FetchError ε) (List ColumnRecord) := do
  let rows ← (PostgresConnector.executeQuery record driver schemaQuery).mapError .driver
  rows.mapM PostgresConnector.columnRecord

/-! ## Reading the answer -/

/-- What becomes of a row of the query. -/
def recordOf (row : ColumnInfo × Option FkRow) : ColumnRecord where
  table := row.1.table.tableName
  column := row.1.columnName
  type := row.1.dataType
  isFk := row.2.isSome
  references :=
    match row.2 with
    | none => none
    | some fk => if fk.foreignTable = "" then none
      else some (fk.foreignTable ++ "." ++ fk.foreignColumn)

theorem columnRecord_selected (record : RecordDict) (row : ColumnInfo × Option FkRow) :
    PostgresConnector.columnRecord (record.dict selectList (selected row)) =
      (.ok (recordOf row) : Except (FetchError ε) ColumnRecord) := by
  have hwidth : (selected row).length = selectList.length := rfl
  have hnodup : selectList.Nodup := by decide
  have hkeeps := (record.keepsRow_iff hwidth).2 (agreeingRow_of_nodup hnodup _)
  have htable := hkeeps 0 _ _ rfl rfl
  have hcolumn := hkeeps 1 _ _ rfl rfl
  have htype := hkeeps 2 _ _ rfl rfl
  have hforeign := hkeeps 3 _ _ rfl rfl
  have hreferenced := hkeeps 4 _ _ rfl rfl
  unfold PostgresConnector.columnRecord text textOrNone
  rw [htable, hcolumn, htype, hforeign, hreferenced]
  obtain ⟨c, _ | fk⟩ := row
  · rfl
  · rfl

/-- The connector's part: one record for every row of the answer, in order. -/
theorem fetchSchema_eq (record : RecordDict) {driver : String → Except ε QueryResult}
    {rows : List (ColumnInfo × Option FkRow)} (h : driver schemaQuery = .ok (schemaResult rows)) :
    PostgresConnector.fetchSchema record driver = .ok (rows.map recordOf) := by
  have hrecords : (PostgresConnector.rowDicts record (schemaResult rows)).mapM
      PostgresConnector.columnRecord =
        (.ok (rows.map recordOf) : Except (FetchError ε) (List ColumnRecord)) := by
    have hdicts : PostgresConnector.rowDicts record (schemaResult rows) =
        rows.map fun row => record.dict selectList (selected row) := by
      rw [PostgresConnector.rowDicts, schemaResult, List.map_map]
      rfl
    rw [hdicts, List.mapM_map]
    exact mapM_eq_ok fun row _ => columnRecord_selected record row
  rw [PostgresConnector.fetchSchema, PostgresConnector.executeQuery, h]
  exact hrecords

end UniversityQA.Db
