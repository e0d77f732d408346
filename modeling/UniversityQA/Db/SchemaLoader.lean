import UniversityQA.Db.Base
import UniversityQA.Py.Dict

/-!
# The schema as prompt text

`load_schema_context` renders the column records line by line, one line for
each table.
-/

namespace UniversityQA.Db

open UniversityQA.Py

/-- A column, a foreign key with an arrow to what it refers to. -/
def renderColumn (row : ColumnRecord) : String :=
  match row.references with
  | none => row.column
  | some references =>
    if row.isFk ∧ references ≠ "" then row.column ++ "→" ++ references else row.column

/-- The body of the loop over the records. -/
def addRecord (tables : Dict String (List String)) (row : ColumnRecord) :
    Dict String (List String) :=
  let tables := if (tables.lookup row.table).isSome then tables else tables.set row.table []
  tables.set row.table ((tables.lookup row.table).getD [] ++ [renderColumn row])

/-- `load_schema_context` on the records that `fetch_schema` returned. -/
def loadSchemaContext (rows : List ColumnRecord) : String :=
  let tables := rows.foldl addRecord []
  "\n".intercalate (tables.map fun entry => entry.1 ++ ": " ++ ", ".intercalate entry.2)

-- records of one table need not be adjacent
example : loadSchemaContext [⟨"a", "id", "integer", false, none⟩, ⟨"b", "id", "integer", false, none⟩,
    ⟨"a", "b_id", "integer", true, some "b.id"⟩] = "a: id, b_id→b.id\nb: id" := by
  decide +kernel

end UniversityQA.Db
