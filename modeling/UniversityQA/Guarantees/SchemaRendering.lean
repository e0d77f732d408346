import UniversityQA.Db.SchemaLoader

/-!
# The prompt text has every record once

The dict of lines that `load_schema_context` fills is compared with a
description that looks at the records table by table.

* `foldl_addRecord`: the loop groups the rendered columns by table.
* `loadSchemaContext_by_table`: the text, line by line.
-/

namespace UniversityQA.Db

open UniversityQA.Py

/-- The tables of the records, each where it occurs first. -/
def tableNames (rows : List ColumnRecord) : List String :=
  (rows.map ColumnRecord.table).eraseDups

/-- The records of one table. -/
def recordsOf (rows : List ColumnRecord) (table : String) : List ColumnRecord :=
  rows.filter fun row => row.table = table

/-- The record is a foreign key that names what it refers to. -/
def ShowsReference (row : ColumnRecord) (references : String) : Prop :=
  row.isFk = true ∧ row.references = some references ∧ references ≠ ""

/-! ## The loop -/

theorem addRecord_eq_push (tables : Dict String (List String)) (row : ColumnRecord) :
    addRecord tables row = Dict.push tables row.table (renderColumn row) := by
  unfold addRecord Dict.push
  cases h : tables.lookup row.table with
  | some cols => simp [h]
  | none => simp [Dict.lookup_set, Dict.set_set]

theorem valuesAt_rendered (rows : List ColumnRecord) (table : String) :
    valuesAt (rows.map fun row => (row.table, renderColumn row)) table =
      (recordsOf rows table).map renderColumn := by
  rw [valuesAt, List.filter_map, List.map_map]
  rfl

/-- **The loop groups.** -/
theorem foldl_addRecord (rows : List ColumnRecord) :
    rows.foldl addRecord [] =
      (tableNames rows).map fun table => (table, (recordsOf rows table).map renderColumn) := by
  have hpush := Dict.foldl_push (rows.map fun row => (row.table, renderColumn row))
  have hloop : rows.foldl addRecord [] =
      (rows.map fun row => (row.table, renderColumn row)).foldl
        (fun d p => Dict.push d p.1 p.2) [] := by
    rw [List.foldl_map]
    congr 1
    funext tables row
    exact addRecord_eq_push tables row
  rw [hloop, hpush, Dict.groups, List.map_map]
  exact List.map_congr_left fun table _ => congrArg (Prod.mk table) (valuesAt_rendered rows table)

/-! ## The columns -/

theorem renderColumn_reference {row : ColumnRecord} {references : String}
    (h : ShowsReference row references) : renderColumn row = row.column ++ "→" ++ references := by
  obtain ⟨hfk, hreferences, hne⟩ := h
  rw [renderColumn, hreferences]
  exact if_pos ⟨hfk, hne⟩

theorem renderColumn_plain {row : ColumnRecord} (h : ∀ references, ¬ShowsReference row references) :
    renderColumn row = row.column := by
  unfold renderColumn
  cases hreferences : row.references with
  | none => rfl
  | some references =>
    refine if_neg fun hfk => ?_
    exact h references ⟨hfk.1, hreferences, hfk.2⟩

/-! ## The text -/

/-- **Rendering.**  One line for every table in order of first occurrence, on it
all records of the table in order, and the arrow exactly at the columns that
show a reference. -/
theorem loadSchemaContext_by_table (rows : List ColumnRecord) :
    loadSchemaContext rows =
        "\n".intercalate ((tableNames rows).map fun table =>
          table ++ ": " ++ ", ".intercalate ((recordsOf rows table).map renderColumn)) ∧
      ∀ row ∈ rows,
        (∀ references, ShowsReference row references →
          renderColumn row = row.column ++ "→" ++ references) ∧
        ((∀ references, ¬ShowsReference row references) → renderColumn row = row.column) := by
  constructor
  · rw [loadSchemaContext, foldl_addRecord, List.map_map]
    rfl
  · intro row _
    exact ⟨fun _ => renderColumn_reference, renderColumn_plain⟩

end UniversityQA.Db
