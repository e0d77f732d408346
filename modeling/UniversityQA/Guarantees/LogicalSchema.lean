import UniversityQA.Guarantees.SchemaRendering
import UniversityQA.Lib.Relational
import UniversityQA.Py.Text

/-!
# Schemas apart from their databases

What the agent is to know of a database: tables, columns and what refers to
what.  The drivers have catalogs of their own; the text for the prompt has one
form.

* `LogicalSchema.render`: the text of a schema.
* `loadSchemaContext_eq_render`: records that show a schema are rendered as it.
* `readSchema_render`: the text says what the schema is.
-/

namespace UniversityQA.Guarantees

open UniversityQA.Py UniversityQA.Db Relational

/-! ## Schemas -/

/-- A column, and the table and column that it refers to. -/
structure LogicalColumn where
  name : String
  reference : Option (String × String) := none
  deriving DecidableEq, Repr

/-- A table has a column. -/
structure LogicalTable where
  name : String
  columns : List LogicalColumn
  columns_ne_nil : columns ≠ []
  deriving DecidableEq

structure LogicalSchema where
  tables : List LogicalTable
  name_unique : (tables.map LogicalTable.name).Nodup
  deriving DecidableEq

def LogicalColumn.render (c : LogicalColumn) : String :=
  match c.reference with
  | none => c.name
  | some (table, column) => c.name ++ "→" ++ (table ++ "." ++ column)

def LogicalTable.render (t : LogicalTable) : String :=
  t.name ++ ": " ++ ", ".intercalate (t.columns.map LogicalColumn.render)

def LogicalSchema.render (L : LogicalSchema) : String :=
  "\n".intercalate (L.tables.map LogicalTable.render)

/-! ## Records that show a schema -/

/-- The record is that of a column of the schema. -/
structure Shows (r : ColumnRecord) (x : LogicalTable × LogicalColumn) : Prop where
  table : r.table = x.1.name
  column : r.column = x.2.name
  plain : x.2.reference = none → ∀ references, ¬ShowsReference r references
  refers : ∀ t a, x.2.reference = some (t, a) → ShowsReference r (t ++ "." ++ a)

theorem Shows.renderColumn_eq {r : ColumnRecord} {x : LogicalTable × LogicalColumn} (h : Shows r x) :
    renderColumn r = x.2.render := by
  unfold LogicalColumn.render
  split
  · next hnone => rw [renderColumn_plain (h.plain hnone), h.column]
  · next t a hsome => rw [renderColumn_reference (h.refers t a hsome), h.column]

/-- The lines that the loop collects are those of the tables. -/
theorem foldl_addRecord_shows {L : LogicalSchema} {rows : List ColumnRecord}
    (h : List.Forall₂ Shows rows (expand LogicalTable.columns L.tables)) :
    rows.foldl addRecord [] =
      L.tables.map fun t => (t.name, t.columns.map LogicalColumn.render) := by
  have hpairs : rows.map (fun row => (row.table, renderColumn row)) =
      (expand LogicalTable.columns L.tables).map fun x => (x.1.name, x.2.render) := by
    rw [← List.forall₂_eq_eq_eq, List.forall₂_map_left_iff, List.forall₂_map_right_iff]
    exact h.imp fun r x hshows => Prod.ext hshows.table hshows.renderColumn_eq
  have hblocks : (expand LogicalTable.columns L.tables).map (fun x => (x.1.name, x.2.render)) =
      (L.tables.map fun t => (t.name, t.columns.map LogicalColumn.render)).flatMap
        fun b => b.2.map (Prod.mk b.1) := by
    rw [expand, List.map_flatMap, List.flatMap_map]
    simp only [List.map_map, Function.comp_def]
  have hgroups : rows.foldl addRecord [] =
      Dict.groups (rows.map fun row => (row.table, renderColumn row)) := by
    rw [foldl_addRecord, Dict.groups, List.map_map]
    exact List.map_congr_left fun table _ =>
      congrArg (Prod.mk table) (valuesAt_rendered rows table).symm
  rw [hgroups, hpairs, hblocks]
  refine Dict.groups_flatMap ?_ ?_
  · rw [List.map_map]
    exact L.name_unique
  · intro b hb
    obtain ⟨t, -, rfl⟩ := List.mem_map.1 hb
    simpa using t.columns_ne_nil

/-- **The text of the records** is that of the schema they show. -/
theorem loadSchemaContext_eq_render {L : LogicalSchema} {rows : List ColumnRecord}
    (h : List.Forall₂ Shows rows (expand LogicalTable.columns L.tables)) :
    loadSchemaContext rows = L.render := by
  rw [loadSchemaContext, foldl_addRecord_shows h, List.map_map]
  rfl

/-! ## Reading the text -/

/-- None of the signs that the text is laid out with. -/
def PlainText (s : String) : Prop := ∀ c ∈ [',', ':', '.', '→', '\n'], c ∉ s.toList

theorem plainText_of_identifier {s : String}
    (h : s.toList.all (fun c => c.isAlphanum || c == '_') = true) : PlainText s := by
  intro c hc hmem
  have hchar := List.all_eq_true.1 h c hmem
  simp only [List.mem_cons, List.not_mem_nil, or_false] at hc
  rcases hc with rfl | rfl | rfl | rfl | rfl <;> exact absurd hchar (by decide)

structure LogicalColumn.WellNamed (c : LogicalColumn) : Prop where
  name : PlainText c.name
  reference : ∀ r ∈ c.reference, PlainText r.1 ∧ PlainText r.2

structure LogicalTable.WellNamed (t : LogicalTable) : Prop where
  name : PlainText t.name
  columns : ∀ c ∈ t.columns, c.WellNamed

def LogicalSchema.WellNamed (L : LogicalSchema) : Prop := ∀ t ∈ L.tables, t.WellNamed

def readReference (target : List Char) : String × String :=
  (.ofList (partition '.' target).1, .ofList (partition '.' target).2)

def readColumn (text : List Char) : LogicalColumn :=
  if '→' ∈ text then
    { name := .ofList (partition '→' text).1
      reference := some (readReference (partition '→' text).2) }
  else { name := .ofList text }

-- a blank stands before every column
def readTable (line : List Char) : String × List LogicalColumn :=
  (.ofList (partition ':' line).1,
    ((partition ':' line).2.splitOn ',').map fun piece => readColumn (piece.drop 1))

def readSchema (text : String) : List (String × List LogicalColumn) :=
  if text = "" then [] else (text.toList.splitOn '\n').map readTable

theorem LogicalColumn.render_none {c : LogicalColumn} (h : c.reference = none) :
    c.render = c.name := by
  rw [LogicalColumn.render, h]

theorem LogicalColumn.toList_render_some {c : LogicalColumn} {t a : String}
    (h : c.reference = some (t, a)) :
    c.render.toList = c.name.toList ++ '→' :: (t.toList ++ '.' :: a.toList) := by
  rw [LogicalColumn.render, h]
  simp

theorem readColumn_render {c : LogicalColumn} (h : c.WellNamed) :
    readColumn c.render.toList = c := by
  have harrow : '→' ∉ c.name.toList := h.name '→' (by simp)
  cases href : c.reference with
  | none =>
    rw [LogicalColumn.render_none href, readColumn, if_neg harrow, String.ofList_toList,
      ← href]
  | some r =>
    obtain ⟨t, a⟩ := r
    have hdot : '.' ∉ t.toList := (h.reference _ href).1 '.' (by simp)
    rw [LogicalColumn.toList_render_some href, readColumn, if_pos (by simp),
      partition_append harrow, readReference, partition_append hdot, String.ofList_toList,
      String.ofList_toList, String.ofList_toList, ← href]

/-- Only the arrow and the dot are signs of a column. -/
theorem sign_notMem_column (sign : Char) {c : LogicalColumn} (h : c.WellNamed)
    (hsign : sign ∈ [',', ':', '\n']) : sign ∉ c.render.toList := by
  have hplain : ∀ s, PlainText s → sign ∉ s.toList := by
    intro s hs
    refine hs sign ?_
    simp only [List.mem_cons, List.not_mem_nil, or_false] at hsign ⊢
    tauto
  cases href : c.reference with
  | none =>
    rw [LogicalColumn.render_none href]
    exact hplain _ h.name
  | some r =>
    obtain ⟨t, a⟩ := r
    obtain ⟨ht, ha⟩ := h.reference _ href
    have harrow : sign ≠ '→' := by
      rintro rfl
      simp at hsign
    have hdot : sign ≠ '.' := by
      rintro rfl
      simp at hsign
    rw [LogicalColumn.toList_render_some href]
    simp [hplain _ h.name, hplain _ ht, hplain _ ha, harrow, hdot]

/-- A comma and a blank between the texts: a blank before every text. -/
theorem blank_intercalate {texts : List (List Char)} (h : texts ≠ []) :
    ' ' :: [',', ' '].intercalate texts = [','].intercalate (texts.map (' ' :: ·)) := by
  induction texts with
  | nil => exact absurd rfl h
  | cons text texts ih =>
    cases texts with
    | nil => rfl
    | cons text' texts =>
      have hrest := ih (List.cons_ne_nil _ _)
      rw [List.map_cons, List.map_cons, List.intercalate_cons_cons, List.intercalate_cons_cons,
        ← List.map_cons (f := (' ' :: ·)), ← hrest]
      simp

theorem notMem_intercalate {sign : Char} {sep : List Char} (hsep : sign ∉ sep)
    {texts : List (List Char)} (h : ∀ text ∈ texts, sign ∉ text) : sign ∉ sep.intercalate texts := by
  induction texts with
  | nil => exact List.not_mem_nil
  | cons text texts ih =>
    obtain ⟨htext, htexts⟩ := List.forall_mem_cons.1 h
    cases texts with
    | nil => simpa using htext
    | cons text' texts =>
      rw [List.intercalate_cons_cons]
      simp [htext, hsep, ih htexts]

theorem LogicalTable.toList_render (t : LogicalTable) :
    t.render.toList = t.name.toList ++ ':' ::
      [','].intercalate (t.columns.map fun c => ' ' :: c.render.toList) := by
  have hne : t.columns.map (fun c => c.render.toList) ≠ [] := by
    simpa using t.columns_ne_nil
  have hblank := blank_intercalate hne
  rw [List.map_map] at hblank
  have htext : t.render.toList = t.name.toList ++ ':' :: ' ' ::
      [',', ' '].intercalate (t.columns.map fun c => c.render.toList) := by
    rw [LogicalTable.render, String.toList_append, String.toList_append, String.toList_intercalate,
      List.map_map, List.append_assoc]
    rfl
  rw [htext, hblank]
  rfl

theorem readTable_render {t : LogicalTable} (h : t.WellNamed) :
    readTable t.render.toList = (t.name, t.columns) := by
  have hcolon : ':' ∉ t.name.toList := h.name ':' (by simp)
  have hcomma : ∀ text ∈ t.columns.map (fun c => ' ' :: c.render.toList), ',' ∉ text := by
    intro text htext
    obtain ⟨c, hc, rfl⟩ := List.mem_map.1 htext
    simpa using sign_notMem_column ',' (h.columns c hc) (by simp)
  have hne : t.columns.map (fun c => ' ' :: c.render.toList) ≠ [] := by
    simpa using t.columns_ne_nil
  rw [readTable, t.toList_render, partition_append hcolon, String.ofList_toList,
    List.splitOn_intercalate ',' hcomma hne, List.map_map]
  refine congrArg _ ((List.map_congr_left fun c hc => ?_).trans (List.map_id _))
  exact readColumn_render (h.columns c hc)

theorem LogicalTable.render_ne_empty (t : LogicalTable) : t.render ≠ "" := by
  intro h
  have hlist := congrArg String.toList h
  rw [t.toList_render] at hlist
  simp at hlist

theorem newline_notMem_table {t : LogicalTable} (h : t.WellNamed) : '\n' ∉ t.render.toList := by
  have hname : '\n' ∉ t.name.toList := h.name '\n' (by simp)
  have hcolumns : '\n' ∉ [','].intercalate (t.columns.map fun c => ' ' :: c.render.toList) := by
    refine notMem_intercalate (by decide) fun text htext => ?_
    obtain ⟨c, hc, rfl⟩ := List.mem_map.1 htext
    simpa using sign_notMem_column '\n' (h.columns c hc) (by simp)
  rw [t.toList_render]
  simp [hname, hcolumns]

theorem LogicalSchema.toList_render (L : LogicalSchema) :
    L.render.toList = ['\n'].intercalate (L.tables.map fun t => t.render.toList) := by
  rw [LogicalSchema.render, String.toList_intercalate, List.map_map]
  rfl

theorem LogicalSchema.render_eq_empty_iff (L : LogicalSchema) : L.render = "" ↔ L.tables = [] := by
  constructor
  · intro h
    cases htables : L.tables with
    | nil => rfl
    | cons t tables =>
      have hne := t.render_ne_empty
      rw [LogicalSchema.render, htables, List.map_cons] at h
      cases tables with
      | nil => exact absurd h hne
      | cons t' tables =>
        have hlist := congrArg String.toList h
        simp [hne] at hlist
  · intro h
    rw [LogicalSchema.render, h]
    rfl

theorem readSchema_render {L : LogicalSchema} (h : L.WellNamed) :
    readSchema L.render = L.tables.map fun t => (t.name, t.columns) := by
  unfold readSchema
  split
  · next hempty =>
    rw [L.render_eq_empty_iff.1 hempty]
    rfl
  · next hempty =>
    have hne : L.tables.map (fun t => t.render.toList) ≠ [] := by
      simpa using mt L.render_eq_empty_iff.2 hempty
    have hlines : ∀ line ∈ L.tables.map (fun t => t.render.toList), '\n' ∉ line := by
      intro line hline
      obtain ⟨t, ht, rfl⟩ := List.mem_map.1 hline
      exact newline_notMem_table (h t ht)
    rw [L.toList_render, List.splitOn_intercalate '\n' hlines hne, List.map_map]
    exact List.map_congr_left fun t ht => readTable_render (h t ht)

theorem schema_eq {L L' : LogicalSchema}
    (h : L.tables.map (fun t => (t.name, t.columns)) = L'.tables.map fun t => (t.name, t.columns)) :
    L = L' := by
  have hinj : Function.Injective fun t : LogicalTable => (t.name, t.columns) := by
    rintro ⟨name, columns, _⟩ ⟨name', columns', _⟩ heq
    obtain ⟨rfl, rfl⟩ := Prod.mk.inj heq
    rfl
  have htables := List.map_injective_iff.2 hinj h
  cases L
  cases L'
  obtain rfl : _ = _ := htables
  rfl

/-- **The text says what the schema is.**  Records of a schema without signs in
its names are rendered as a text that can be read back, so that texts are equal
only for equal schemas. -/
theorem schema_reads_back {L : LogicalSchema} {rows : List ColumnRecord}
    (hrows : List.Forall₂ Shows rows (expand LogicalTable.columns L.tables)) (hnamed : L.WellNamed) :
    readSchema (loadSchemaContext rows) = L.tables.map (fun t => (t.name, t.columns)) ∧
      ∀ L' : LogicalSchema, ∀ rows', L'.WellNamed →
        List.Forall₂ Shows rows' (expand LogicalTable.columns L'.tables) →
        (loadSchemaContext rows' = loadSchemaContext rows ↔ L' = L) := by
  rw [loadSchemaContext_eq_render hrows]
  refine ⟨readSchema_render hnamed, fun L' rows' hnamed' hrows' => ?_⟩
  rw [loadSchemaContext_eq_render hrows']
  constructor
  · intro htext
    apply schema_eq
    rw [← readSchema_render hnamed, ← readSchema_render hnamed', htext]
  · rintro rfl
    rfl

/-- Two tables of the seed schema. -/
def offeringsSchema : LogicalSchema where
  tables := [
    ⟨"course_offerings", [⟨"id", none⟩, ⟨"teacher_id", some ("teachers", "id")⟩],
      List.cons_ne_nil _ _⟩,
    ⟨"teachers", [⟨"id", none⟩], List.cons_ne_nil _ _⟩]
  name_unique := by decide

def offeringsRecords : List ColumnRecord :=
  [⟨"course_offerings", "id", "integer", false, none⟩,
    ⟨"course_offerings", "teacher_id", "integer", true, some "teachers.id"⟩,
    ⟨"teachers", "id", "integer", false, none⟩]

theorem offerings_shows :
    List.Forall₂ Shows offeringsRecords (expand LogicalTable.columns offeringsSchema.tables) := by
  have hplain : ∀ table column type, ∀ t : LogicalTable, t.name = table →
      Shows ⟨table, column, type, false, none⟩ (t, ⟨column, none⟩) := by
    rintro table column type t rfl
    refine ⟨rfl, rfl, fun _ references h => ?_, fun t' a h => ?_⟩
    · cases h.1
    · cases h
  refine .cons (hplain _ _ _ _ rfl) (.cons ⟨rfl, rfl, fun h => ?_, fun t a h => ?_⟩
    (.cons (hplain _ _ _ _ rfl) .nil))
  · cases h
  · obtain ⟨rfl, rfl⟩ := Prod.mk.inj (Option.some.inj h)
    exact ⟨rfl, rfl, by decide⟩

theorem offerings_wellNamed : offeringsSchema.WellNamed := by
  have hid : PlainText "id" := plainText_of_identifier rfl
  have hteachers : PlainText "teachers" := plainText_of_identifier rfl
  have hkey : (⟨"id", none⟩ : LogicalColumn).WellNamed := by
    refine ⟨hid, fun r hr => ?_⟩
    cases hr
  have hteacher : (⟨"teacher_id", some ("teachers", "id")⟩ : LogicalColumn).WellNamed := by
    refine ⟨plainText_of_identifier rfl, fun r hr => ?_⟩
    cases hr
    exact ⟨hteachers, hid⟩
  refine List.forall_mem_cons.2 ⟨⟨plainText_of_identifier rfl, ?_⟩,
    List.forall_mem_singleton.2 ⟨hteachers, List.forall_mem_singleton.2 hkey⟩⟩
  exact List.forall_mem_cons.2 ⟨hkey, List.forall_mem_singleton.2 hteacher⟩

theorem schema_reads_back_offerings :
    readSchema (loadSchemaContext offeringsRecords) =
        offeringsSchema.tables.map (fun t => (t.name, t.columns)) ∧
      ∀ L' : LogicalSchema, ∀ rows', L'.WellNamed →
        List.Forall₂ Shows rows' (expand LogicalTable.columns L'.tables) →
        (loadSchemaContext rows' = loadSchemaContext offeringsRecords ↔ L' = offeringsSchema) :=
  schema_reads_back offerings_shows offerings_wellNamed

end UniversityQA.Guarantees
