import UniversityQA.Db.Connectors

/-!
# Nothing is lost between the driver and the answer

A row becomes a dict from column name to value, so two columns of one name
share an item.  Both connectors return one dict for every row, in the same
order, and the dicts hold every value of the result exactly when the values
under a repeated name are equal in every row.

* `rows_kept_iff`: for both connectors.
-/

namespace UniversityQA.Guarantees

open UniversityQA.Db

variable {ε : Type}

/-- A connector returned one dict for every row, in the order of the rows, and
no value is missing. -/
def KeepsResult (fetched : QueryResult) (result : Except ε (List Row)) : Prop :=
  ∃ returned, result = .ok returned ∧
    List.Forall₂ (KeepsRow fetched.columns) fetched.rows returned

/-- In every row, columns of one name have one value. -/
def AgreeingResult (fetched : QueryResult) : Prop :=
  ∀ row ∈ fetched.rows, AgreeingRow fetched.columns row

theorem forall₂_keepsRow_iff (record : RecordDict) (fetched : QueryResult) :
    List.Forall₂ (KeepsRow fetched.columns) fetched.rows
        (PostgresConnector.rowDicts record fetched) ↔ AgreeingResult fetched := by
  rw [PostgresConnector.rowDicts, List.forall₂_map_right_iff, List.forall₂_same]
  constructor
  · intro h row hrow
    exact (record.keepsRow_iff (fetched.width row hrow)).1 (h row hrow)
  · intro h row hrow
    exact (record.keepsRow_iff (fetched.width row hrow)).2 (h row hrow)

theorem keepsResult_ok (fetched : QueryResult) (returned : List Row) :
    KeepsResult fetched (.ok returned : Except ε (List Row)) ↔
      List.Forall₂ (KeepsRow fetched.columns) fetched.rows returned := by
  constructor
  · rintro ⟨returned', hok, hkept⟩
    obtain rfl := Except.ok.inj hok
    exact hkept
  · intro hkept
    exact ⟨returned, rfl, hkept⟩

/-- **Result rows lose nothing exactly when repeated names agree.** -/
theorem rows_kept_iff (driver : String → Except ε QueryResult) (sql : String)
    (fetched : QueryResult) (h : driver sql = .ok fetched) (record : RecordDict) :
    (KeepsResult fetched (SQLiteConnector.executeQuery driver sql) ↔ AgreeingResult fetched) ∧
      (KeepsResult fetched (PostgresConnector.executeQuery record driver sql) ↔
        AgreeingResult fetched) := by
  have hsqlite : SQLiteConnector.executeQuery driver sql =
      .ok (SQLiteConnector.rowDicts fetched) := by
    rw [SQLiteConnector.executeQuery, h]
    rfl
  have hpostgres : PostgresConnector.executeQuery record driver sql =
      .ok (PostgresConnector.rowDicts record fetched) := by
    rw [PostgresConnector.executeQuery, h]
    rfl
  rw [hsqlite, hpostgres, keepsResult_ok, keepsResult_ok, SQLiteConnector.rowDicts_eq]
  exact ⟨forall₂_keepsRow_iff .lastWins fetched, forall₂_keepsRow_iff record fetched⟩

/-- `SELECT id, name FROM teachers ORDER BY id`. -/
def teacherNames : QueryResult where
  columns := ["id", "name"]
  rows := [[.int 1, .text "Alice Smith"], [.int 2, .text "Bob Jones"]]
  width := by decide

theorem rows_kept_iff_teachers :
    KeepsResult (ε := Unit) teacherNames
        (SQLiteConnector.executeQuery (fun _ => .ok teacherNames)
          "SELECT id, name FROM teachers ORDER BY id") ∧
      KeepsResult (ε := Unit) teacherNames
        (PostgresConnector.executeQuery .lastWins (fun _ => .ok teacherNames)
          "SELECT id, name FROM teachers ORDER BY id") := by
  have hiff := rows_kept_iff (ε := Unit) (fun _ => .ok teacherNames)
    "SELECT id, name FROM teachers ORDER BY id" teacherNames rfl .lastWins
  have hnodup : teacherNames.columns.Nodup := by decide
  have hagree : AgreeingResult teacherNames := fun row _ => agreeingRow_of_nodup hnodup row
  exact ⟨hiff.1.2 hagree, hiff.2.2 hagree⟩

/-- `SELECT s.name, c.name FROM ...`: a student and a course. -/
def studentAndCourse : QueryResult where
  columns := ["name", "name"]
  rows := [[.text "Charlie Brown", .text "Algorithms"]]
  width := by decide

/-- The student's name is gone. -/
theorem namesakes_dropped :
    ¬ KeepsResult (ε := Unit) studentAndCourse
        (SQLiteConnector.executeQuery (fun _ => .ok studentAndCourse)
          "SELECT s.name, c.name FROM students s, courses c") ∧
      ¬ KeepsResult (ε := Unit) studentAndCourse
        (PostgresConnector.executeQuery .lastWins (fun _ => .ok studentAndCourse)
          "SELECT s.name, c.name FROM students s, courses c") := by
  have hdropped : ∀ returned : List Row,
      returned = [[("name", .text "Algorithms")]] →
      ¬ KeepsResult (ε := Unit) studentAndCourse (.ok returned) := by
    rintro returned rfl hkeeps
    rw [keepsResult_ok] at hkeeps
    obtain ⟨hrow, -⟩ := List.forall₂_cons.1 hkeeps
    have hname := hrow 0 "name" (.text "Charlie Brown") rfl rfl
    exact absurd (DbValue.text.inj (Option.some.inj hname)) (by decide)
  exact ⟨hdropped _ rfl, hdropped _ rfl⟩

end UniversityQA.Guarantees
