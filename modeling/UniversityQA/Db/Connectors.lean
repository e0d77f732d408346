import UniversityQA.Db.Base
import UniversityQA.Py.Dict

/-!
# Rows as dicts

A driver delivers the names of the select list and the rows as sequences of
values.  Both connectors turn every row into a dict from column name to value.

* `QueryResult`: what a driver delivers.
* `SQLiteConnector.executeQuery`, `PostgresConnector.executeQuery`: the
  adapters, which differ in how the dict of a row is made.
* `RecordDict`: `dict(record)` of an asyncpg record.
-/

namespace UniversityQA.Db

open UniversityQA.Py

/-- The result of a statement: the names of the select list in order, a name
as often as it was selected, and the rows, with one value for every name. -/
structure QueryResult where
  columns : List String
  rows : List (List DbValue)
  width : ∀ row ∈ rows, row.length = columns.length

variable {ε : Type}

/-- `[dict(zip(cols, row)) for row in rows]`; the names are not looked at when
no row was fetched. -/
def SQLiteConnector.rowDicts (fetched : QueryResult) : List Row :=
  if fetched.rows.isEmpty then []
  else fetched.rows.map fun row => Dict.ofPairs (fetched.columns.zip row)

/-- `SQLiteConnector.execute_query`; what the driver raises is not caught. -/
def SQLiteConnector.executeQuery (driver : String → Except ε QueryResult) (sql : String) :
    Except ε (List Row) := do
  let fetched ← driver sql
  return SQLiteConnector.rowDicts fetched

/-- `dict(record)` of an asyncpg record with the given names and values: one
item for every distinct name, holding one of the values under that name. -/
structure RecordDict where
  dict : List String → List DbValue → Row
  holds : ∀ columns row, row.length = columns.length →
    Dict.Holds (columns.zip row) (dict columns row)

/-- The records that answer `record[name]` by the last column of that name. -/
def RecordDict.lastWins : RecordDict where
  dict columns row := Dict.ofPairs (columns.zip row)
  holds _ _ _ := Dict.ofPairs_holds _

/-- `[dict(row) for row in rows]`. -/
def PostgresConnector.rowDicts (record : RecordDict) (fetched : QueryResult) : List Row :=
  fetched.rows.map fun row => record.dict fetched.columns row

/-- `PostgresConnector.execute_query`. -/
def PostgresConnector.executeQuery (record : RecordDict)
    (driver : String → Except ε QueryResult) (sql : String) : Except ε (List Row) := do
  let fetched ← driver sql
  return PostgresConnector.rowDicts record fetched

/-! ## What is preserved -/

theorem SQLiteConnector.rowDicts_eq (fetched : QueryResult) :
    SQLiteConnector.rowDicts fetched = PostgresConnector.rowDicts .lastWins fetched := by
  unfold SQLiteConnector.rowDicts PostgresConnector.rowDicts
  split
  · next h => rw [List.isEmpty_iff.1 h, List.map_nil]
  · rfl

/-- The dict of a row has every value of the row under its column's name. -/
def KeepsRow (columns : List String) (row : List DbValue) (dict : Row) : Prop :=
  ∀ (j : Nat) (name : String) (v : DbValue), columns[j]? = some name → row[j]? = some v →
    dict.lookup name = some v

/-- Columns of one name have one value. -/
def AgreeingRow (columns : List String) (row : List DbValue) : Prop :=
  ∀ (i j : Nat) (name : String) (v w : DbValue), columns[i]? = some name →
    columns[j]? = some name → row[i]? = some v → row[j]? = some w → v = w

theorem mem_zip_iff (columns : List String) (row : List DbValue) (name : String) (v : DbValue) :
    (name, v) ∈ columns.zip row ↔ ∃ j : Nat, columns[j]? = some name ∧ row[j]? = some v := by
  simp only [List.mem_iff_getElem?, List.getElem?_zip_eq_some]

theorem keepsRow_iff_zip (columns : List String) (row : List DbValue) (dict : Row) :
    KeepsRow columns row dict ↔
      ∀ name v, (name, v) ∈ columns.zip row → dict.lookup name = some v := by
  simp only [mem_zip_iff]
  exact ⟨fun h name v ⟨j, hn, hv⟩ => h j name v hn hv, fun h j name v hn hv => h name v ⟨j, hn, hv⟩⟩

theorem agreeingRow_iff_zip (columns : List String) (row : List DbValue) :
    AgreeingRow columns row ↔ Dict.Functional (columns.zip row) := by
  simp only [Dict.Functional, mem_zip_iff]
  constructor
  · rintro h name v w ⟨i, hin, hiv⟩ ⟨j, hjn, hjw⟩
    exact h i j name v w hin hjn hiv hjw
  · intro h i j name v w hin hjn hiv hjw
    exact h name v w ⟨i, hin, hiv⟩ ⟨j, hjn, hjw⟩

/-- Of one row, the dict keeps everything exactly when columns of one name
agree. -/
theorem RecordDict.keepsRow_iff (record : RecordDict) {columns : List String}
    {row : List DbValue} (h : row.length = columns.length) :
    KeepsRow columns row (record.dict columns row) ↔ AgreeingRow columns row := by
  rw [keepsRow_iff_zip, agreeingRow_iff_zip]
  exact (record.holds columns row h).keeps_all_iff

theorem agreeingRow_of_nodup {columns : List String} (h : columns.Nodup) (row : List DbValue) :
    AgreeingRow columns row := by
  intro i j name v w hi hj hv hw
  obtain ⟨hlt, -⟩ := List.getElem?_eq_some_iff.1 hi
  have hij : i = j := (List.getElem?_inj hlt h).1 (hi.trans hj.symm)
  rw [hij, hw] at hv
  exact (Option.some.inj hv).symm

end UniversityQA.Db
