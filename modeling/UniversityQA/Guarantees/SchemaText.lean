import UniversityQA.Db.Introspections
import UniversityQA.Guarantees.LogicalSchema
import UniversityQA.Guarantees.SchemaIntrospection
import UniversityQA.Guarantees.SchemaVersions
import UniversityQA.Guarantees.SqliteIntrospection

/-!
# The same schema, the same text

Two drivers introspect in two ways.  Where neither way loses anything, what the
prompt is given is the rendering of the schema that the database has, whichever
driver was asked and whatever else happened meanwhile.

* `PostgresSchema`, `SqliteSchema`: the schema that a database has.
* `Behind`: a database that a connector can report faithfully.
-/

namespace UniversityQA.Guarantees

open UniversityQA.Py UniversityQA.Agent UniversityQA.Db UniversityQA.Api Coroutine SharedHandle
open Relational

variable {ε ι : Type}

/-! ## PostgreSQL -/

/-- What the catalog has in the public schema is this column. -/
structure PostgresColumn (S : Db.Catalog) (c : ColumnInfo) (x : LogicalTable × LogicalColumn) :
    Prop where
  table : c.table.tableName = x.1.name
  column : c.columnName = x.2.name
  references : ∀ t a, x.2.reference = some (t, a) ↔ S.References c ⟨"public", t⟩ a

/-- The public schema, by table and position. -/
def PostgresSchema (S : Db.Catalog) (L : LogicalSchema) : Prop :=
  ∃ cols, OrderedBy InOrder S.publicColumns cols ∧
    List.Forall₂ (PostgresColumn S) cols (expand LogicalTable.columns L.tables)

theorem inOrder_antisymm {S : Db.Catalog} {c d : ColumnInfo} (hc : c ∈ S.publicColumns)
    (hd : d ∈ S.publicColumns) (hcd : InOrder c d) (hdc : InOrder d c) : c = d := by
  obtain ⟨hmem, hpublic⟩ := mem_publicColumns.1 hc
  obtain ⟨hmem', hpublic'⟩ := mem_publicColumns.1 hd
  have hboth : c.table.tableName = d.table.tableName ∧ c.ordinalPosition = d.ordinalPosition := by
    rcases hcd with hlt | ⟨heq, hle⟩
    · rcases hdc with hlt' | ⟨heq', -⟩
      · exact absurd hlt' (lt_asymm hlt)
      · exact absurd heq' hlt.ne'
    · rcases hdc with hlt' | ⟨-, hle'⟩
      · exact absurd heq hlt'.ne'
      · exact ⟨heq, Nat.le_antisymm hle hle'⟩
  have htable : c.table = d.table := by
    cases hct : c.table
    cases hdt : d.table
    simp_all
  exact List.inj_on_of_nodup_map S.position_unique hmem hmem' (Prod.ext htable hboth.2)

theorem columns_unique {S : Db.Catalog} {cols cols' : List ColumnInfo}
    (h : OrderedBy InOrder S.publicColumns cols) (h' : OrderedBy InOrder S.publicColumns cols') :
    cols = cols' := by
  refine List.Perm.eq_of_pairwise ?_ h.pairwise h'.pairwise (h.perm.trans h'.perm.symm)
  intro c d hc hd
  exact inOrder_antisymm (h.perm.mem_iff.1 hc) (h'.perm.mem_iff.1 hd)

/-- What a public column refers to is public. -/
theorem references_public {S : Db.Catalog} {c : ColumnInfo} (hc : c ∈ S.publicColumns)
    {t : Relation} {a : String} (h : S.References c t a) : t = ⟨"public", t.tableName⟩ := by
  obtain ⟨-, hpublic⟩ := mem_publicColumns.1 hc
  obtain ⟨k, hk, htable, key, hkey, rfl, -⟩ := h
  have hreferenced := S.within k hk (by rw [htable, hpublic]) key hkey
  cases hr : key.referenced
  simp_all

theorem dotted_ne_empty (t a : String) : t ++ "." ++ a ≠ "" := by
  intro h
  have hlist := congrArg String.toList h
  simp at hlist

theorem shows_of_describes {S : Db.Catalog} {c : ColumnInfo} (hc : c ∈ S.publicColumns)
    {x : LogicalTable × LogicalColumn} (hx : PostgresColumn S c x) {r : ColumnRecord}
    (hr : Describes S c r) : Shows r x where
  table := hr.table.trans hx.table
  column := hr.column.trans hx.column
  plain hnone references hshows := by
    obtain ⟨t, a, hrefers⟩ := hr.is_fk.1 hshows.1
    rw [references_public hc hrefers] at hrefers
    have hsome := (hx.references _ _).2 hrefers
    rw [hnone] at hsome
    cases hsome
  refers t a hsome := by
    have hrefers := (hx.references t a).1 hsome
    cases hreferences : r.references with
    | none => exact absurd ⟨_, _, hrefers⟩ (hr.references_none hreferences)
    | some s =>
      obtain ⟨t', a', hrefers', rfl⟩ := hr.references_some s hreferences
      rw [references_public hc hrefers'] at hrefers'
      have hsome' := (hx.references _ _).2 hrefers'
      rw [hsome] at hsome'
      obtain ⟨rfl, rfl⟩ := Prod.mk.inj (Option.some.inj hsome')
      exact ⟨hr.is_fk.2 ⟨_, _, hrefers⟩, hreferences, dotted_ne_empty _ _⟩

/-- **PostgreSQL.**  With simple keys the records show the schema. -/
theorem postgres_shows {S : Db.Catalog} (hS : SimpleKeys S) {L : LogicalSchema}
    (hL : PostgresSchema S L) {rows : List (ColumnInfo × Option FkRow)} (hrows : S.SchemaRows rows)
    {record : RecordDict} {queries : String → Except ε QueryResult}
    (hqueries : queries schemaQuery = .ok (schemaResult rows)) {records : List ColumnRecord}
    (h : PostgresConnector.fetchSchema record queries = .ok records) :
    List.Forall₂ Shows records (expand LogicalTable.columns L.tables) := by
  rw [fetchSchema_eq record hqueries] at h
  obtain rfl := Except.ok.inj h
  unfold Db.Catalog.SchemaRows at hrows
  rw [leftJoin_eq_map hS.onePartner] at hrows
  obtain ⟨cols, hcols, rfl⟩ := hrows.of_map (g := Prod.fst) fun _ => rfl
  obtain ⟨cols', hcols', hall⟩ := hL
  obtain rfl := columns_unique hcols hcols'
  have hpublic : ∀ c ∈ cols, c ∈ S.publicColumns := fun c => hcols.perm.mem_iff.1
  rw [List.map_map, List.forall₂_map_left_iff]
  refine ((List.forall₂_and_left cols _).2 ⟨hpublic, hall⟩).imp ?_
  rintro c x ⟨hc, hx⟩
  exact shows_of_describes hc hx (hS.describes hc)

/-! ## SQLite -/

/-- What the table declares is this column. -/
structure DeclaredColumn (S : SqliteDatabase) (c : SqliteTable × SqliteColumn)
    (x : LogicalTable × LogicalColumn) : Prop where
  table : c.1.name = x.1.name
  column : c.2.name = x.2.name
  references : ∀ t a, x.2.reference = some (t, a) ↔
    ∃ p ∈ S.tables, ∃ d, References c.1 c.2.name p d ∧ p.name = t ∧ d.name = a

/-- The declared schema, by table name and declaration. -/
def SqliteSchema (S : SqliteDatabase) (L : LogicalSchema) : Prop :=
  ∃ tables, S.InOrder tables ∧ List.Forall₂ (DeclaredColumn S) (expand SqliteTable.columns tables)
    (expand LogicalTable.columns L.tables)

/-- No column is hidden, and every key says which columns it means, in the
spelling of their declaration. -/
structure ExplicitKeys (S : SqliteDatabase) : Prop where
  visible : ∀ T ∈ S.tables, ∀ c ∈ T.columns, c.hidden = false
  explicit : ∀ T ∈ S.tables, ∀ k ∈ T.foreignKeys, ∃ p ∈ S.tables, k.parent = p.name ∧
    ∃ targets, k.targets = some targets ∧ ∀ target ∈ targets, ∃ d ∈ p.columns, d.name = target

/-- The text of an entry names what its column refers to. -/
theorem ExplicitKeys.entry {S : SqliteDatabase} (hS : ExplicitKeys S) {T : SqliteTable}
    (hT : T ∈ S.tables) {e : KeyEntry} (he : e ∈ T.entries) :
    ∃ p ∈ S.tables, ∃ d, References T e.column p d ∧ e.text = p.name ++ "." ++ d.name := by
  obtain ⟨hk, hpair⟩ := mem_entries he
  obtain ⟨p, hp, hparent, targets, htargets, hcolumns⟩ := hS.explicit T hT e.key hk
  have hcells : e.key.targetCells = targets.map some := by
    rw [SqliteForeignKey.targetCells, htargets]
  have hmem := (List.of_mem_zip hpair).2
  rw [hcells] at hmem
  obtain ⟨target, htarget, hsome⟩ := List.mem_map.1 hmem
  obtain ⟨d, hd, hname⟩ := hcolumns target htarget
  refine ⟨p, hp, d, references_of_entry he (congrArg _ hparent) hd hsome.symm
    (congrArg _ hname.symm), ?_⟩
  rw [text_some hsome.symm, hparent, hname]

theorem shows_of_declared {S : SqliteDatabase} (hS : ExplicitKeys S) {T : SqliteTable}
    (hT : T ∈ S.tables) {c : SqliteColumn} {x : LogicalTable × LogicalColumn}
    (hx : DeclaredColumn S (T, c) x) : Shows (columnRecordOf (T, c)) x where
  table := hx.table
  column := hx.column
  plain hnone references hshows := by
    have hlast : (lastEntry T c.name).isSome = true := by
      rw [← Option.isSome_map (f := KeyEntry.text), ← lookup_fkMap]
      exact hshows.1
    obtain ⟨e, he⟩ := Option.isSome_iff_exists.1 hlast
    obtain ⟨hmem, hcolumn⟩ := lastEntry_mem he
    obtain ⟨p, hp, d, hrefers, -⟩ := hS.entry hT hmem
    rw [hcolumn] at hrefers
    have hsome := (hx.references _ _).2 ⟨p, hp, d, hrefers, rfl, rfl⟩
    rw [hnone] at hsome
    cases hsome
  refers t a hsome := by
    obtain ⟨p, -, d, ⟨k, hk, -, -, target, hzip, -⟩, -⟩ := (hx.references t a).1 hsome
    have hlast := (lastEntry_isSome_iff T c.name).2 ⟨k, hk, (List.of_mem_zip hzip).1⟩
    obtain ⟨e, he⟩ := Option.isSome_iff_exists.1 hlast
    obtain ⟨hmem, hcolumn⟩ := lastEntry_mem he
    obtain ⟨p', hp', d', hrefers, htext⟩ := hS.entry hT hmem
    rw [hcolumn] at hrefers
    have hsome' := (hx.references _ _).2 ⟨p', hp', d', hrefers, rfl, rfl⟩
    rw [hsome] at hsome'
    obtain ⟨rfl, rfl⟩ := Prod.mk.inj (Option.some.inj hsome')
    have hlookup : T.fkMap.lookup c.name = some (p'.name ++ "." ++ d'.name) := by
      rw [lookup_fkMap, he, ← htext]
      rfl
    refine ⟨?_, hlookup, dotted_ne_empty _ _⟩
    exact Option.isSome_iff_exists.2 ⟨_, hlookup⟩

/-- **SQLite.**  With explicit keys the records show the schema. -/
theorem sqlite_shows {S : SqliteDatabase} (hS : ExplicitKeys S) (hplain : ∀ T ∈ S.tables, PlainName T.name)
    {L : LogicalSchema} (hL : SqliteSchema S L) {tables : List SqliteTable}
    {cells : String → Except ε (List SqliteRow)} (hanswers : SqliteAnswers S tables cells)
    {records : List ColumnRecord} (h : SQLiteConnector.fetchSchema cells = .ok records) :
    List.Forall₂ Shows records (expand LogicalTable.columns L.tables) := by
  rw [SQLiteConnector.fetchSchema_eq hanswers hplain] at h
  obtain rfl := Except.ok.inj h
  obtain ⟨tables', horder, hall⟩ := hL
  obtain rfl := inOrder_unique hanswers.order horder
  have hmem : ∀ T ∈ tables, T ∈ S.tables := fun T => hanswers.order.perm.mem_iff.1
  have hvisible : ∀ T ∈ tables, T.visibleColumns = T.columns := fun T hT =>
    (visibleColumns_eq_iff T).2 (hS.visible T (hmem T hT))
  rw [expand_congr hvisible, List.forall₂_map_left_iff]
  have hown : ∀ c ∈ expand SqliteTable.columns tables, c.1 ∈ S.tables := by
    rintro ⟨T, c⟩ hc
    exact hmem T (mem_expand.1 hc).1
  refine ((List.forall₂_and_left _ _).2 ⟨hown, hall⟩).imp ?_
  rintro ⟨T, c⟩ x ⟨hT, hx⟩
  exact shows_of_declared hS hT hx

/-! ## Whichever driver -/

/-- The database behind the connector has the schema `L` and keeps nothing of it
to itself. -/
inductive Behind (queries : String → Except ε QueryResult)
    (cells : String → Except ε (List SqliteRow)) (L : LogicalSchema) : Connector → Prop where
  | postgres (record : RecordDict) (S : Db.Catalog) (rows : List (ColumnInfo × Option FkRow))
      (simple : SimpleKeys S) (schema : PostgresSchema S L) (ordered : S.SchemaRows rows)
      (answers : queries schemaQuery = .ok (schemaResult rows)) : Behind queries cells L (.postgres record)
  | sqlite (S : SqliteDatabase) (tables : List SqliteTable) (explicit : ExplicitKeys S)
      (plain : ∀ T ∈ S.tables, PlainName T.name) (schema : SqliteSchema S L)
      (answers : SqliteAnswers S tables cells) : Behind queries cells L .sqlite

theorem Behind.shows {queries : String → Except ε QueryResult}
    {cells : String → Except ε (List SqliteRow)} {L : LogicalSchema} {c : Connector}
    (h : Behind queries cells L c) :
    (c.fetchSchemaSteps).Ensures (Truthful queries cells)
      fun records => List.Forall₂ Shows records (expand LogicalTable.columns L.tables) := by
  cases h with
  | postgres record S rows simple schema ordered answers =>
    exact ensures_imp (fun records hrecords => postgres_shows simple schema ordered answers hrecords)
      (PostgresConnector.fetchSchemaSteps_finds record)
  | sqlite S tables explicit plain schema answers =>
    exact ensures_imp (fun records hrecords => sqlite_shows explicit plain schema answers hrecords)
      SQLiteConnector.fetchSchemaSteps_finds

/-- What an introspection makes of the schema. -/
theorem Behind.version {queries : String → Except ε QueryResult}
    {cells : String → Except ε (List SqliteRow)} {L : LogicalSchema} {c : Connector}
    (h : Behind queries cells L c) {ops : List (OpEvent Request.Answer ε)} {version : String}
    (hops : ∀ e ∈ ops, Truthful queries cells e) (hversion : Introspected c ops version) :
    version = L.render := by
  obtain ⟨records, hrun, rfl⟩ := hversion
  exact loadSchemaContext_eq_render (h.shows.runs hrun hops)

theorem inForce_eq {version : String} {events : List (ProcessEvent ε)}
    (h : ∀ next a, (⟨.inl (.inr (.setSchemaContext next)), a⟩ : ProcessEvent ε) ∈ events →
      next = version) : inForce version events = version := by
  induction events with
  | nil => rfl
  | cons e events ih =>
    have hrest := ih fun next a hmem => h next a (List.mem_cons_of_mem _ hmem)
    have hfirst : versionAfter version e = version := by
      obtain ⟨(q | (_ | _ | _ | _)) | op, a⟩ := e
      case inl.inr.setSchemaContext next => exact h next a List.mem_cons_self
      all_goals rfl
    rw [inForce, List.foldl_cons, hfirst]
    exact hrest

/-- The schema of `explicitDatabase`. -/
def coursesSchema : LogicalSchema where
  tables := [
    ⟨"courses", [⟨"id", none⟩, ⟨"title", none⟩], List.cons_ne_nil _ _⟩,
    ⟨"offerings", [⟨"id", none⟩, ⟨"course_id", some ("courses", "id")⟩], List.cons_ne_nil _ _⟩]
  name_unique := by decide

/-- What such a database answers, without rows. -/
def coursesDatabase : (r : Request) → r.Answer
  | .fetchCells sql => (sqliteDriver explicitDatabase.tables sql).toOption.getD []
  | r => emptyDatabase r

/-- What is asked about the schema, on a handle that answers. -/
def fetched (answer : (r : Request) → r.Answer) (sql : String) : Except Unit QueryResult :=
  .ok (answer (.fetch sql))

def fetchedCells (answer : (r : Request) → r.Answer) (sql : String) : Except Unit (List SqliteRow) :=
  .ok (answer (.fetchCells sql))

theorem serveOp_truthful (answer : (r : Request) → r.Answer) (w : SharedHandle.World)
    (op : Op Request) {a : Op.Answer Request.Answer Unit op} (ha : a = (serveOp answer w op).1) :
    Truthful (fetched answer) (fetchedCells answer) ⟨op, a⟩ := by
  subst ha
  cases op with
  | request h r =>
    by_cases hlive : h ∈ w.live
    · cases r with
      | fetch sql =>
        simp only [serveOp, if_pos hlive]
        rintro rfl
        rfl
      | fetchCells sql =>
        simp only [serveOp, if_pos hlive]
        rfl
      | _ => trivial
    · cases r <;> simp only [serveOp, if_neg hlive, Truthful]
  | _ => trivial

theorem courses_explicit : ExplicitKeys explicitDatabase where
  visible := explicit_named.visible
  explicit := by
    intro T hT k hk
    rcases List.mem_pair.1 hT with rfl | rfl
    · cases hk
    · rw [List.mem_singleton.1 hk]
      refine ⟨coursesTable, List.mem_cons_self, rfl, ["id"], rfl, fun target htarget => ?_⟩
      rw [List.mem_singleton.1 htarget]
      exact ⟨_, List.mem_cons_self, rfl⟩

theorem offerings_refers {c : String} {p : SqliteTable} {d : SqliteColumn}
    (h : References offeringsTable c p d) : c = "course_id" ∧ SameName "courses" p.name ∧
      d ∈ p.columns ∧ SameName "id" d.name := by
  obtain ⟨k, hk, hparent, hd, target, hzip, htarget⟩ := h
  obtain rfl := List.mem_singleton.1 hk
  obtain ⟨rfl, rfl⟩ := Prod.mk.inj (List.mem_singleton.1 hzip)
  exact ⟨rfl, hparent, hd, htarget⟩

theorem courses_schema : SqliteSchema explicitDatabase coursesSchema := by
  have hnone : ∀ T : SqliteTable, ∀ c : SqliteColumn, ∀ x : LogicalTable, T.name = x.name →
      (∀ p d, ¬References T c.name p d) → DeclaredColumn explicitDatabase (T, c) (x, ⟨c.name, none⟩) := by
    intro T c x hname h
    refine ⟨hname, rfl, fun t a => ⟨fun hsome => ?_, ?_⟩⟩
    · cases hsome
    · rintro ⟨p, -, d, hrefers, -⟩
      exact (h p d hrefers).elim
  have hcourses : ∀ c p d, ¬References coursesTable c p d := by
    rintro c p d ⟨k, hk, -⟩
    cases hk
  refine ⟨explicitDatabase.tables, explicit_answers.order, ?_⟩
  refine .cons (hnone _ _ _ rfl (hcourses _)) (.cons (hnone _ _ _ rfl (hcourses _))
    (.cons (hnone _ _ _ rfl fun p d hrefers => ?_) (.cons ⟨rfl, rfl, fun t a => ?_⟩ .nil)))
  · exact absurd (offerings_refers hrefers).1 (by decide)
  · constructor
    · rintro hsome
      obtain ⟨rfl, rfl⟩ := Prod.mk.inj (Option.some.inj hsome)
      exact ⟨coursesTable, List.mem_cons_self, ⟨"id", "INTEGER", false, []⟩, ⟨courseKey,
        List.mem_singleton_self _, rfl, List.mem_cons_self, "id", List.mem_singleton_self _, rfl⟩,
        rfl, rfl⟩
    · rintro ⟨p, hp, d, hrefers, rfl, rfl⟩
      obtain ⟨-, hname, hd, hid⟩ := offerings_refers hrefers
      rcases List.mem_pair.1 hp with rfl | rfl
      · rcases List.mem_pair.1 hd with rfl | rfl
        · rfl
        · exact absurd hid (by decide +kernel)
      · exact absurd hname (by decide +kernel)

theorem courses_answers : SqliteAnswers explicitDatabase explicitDatabase.tables
    (fetchedCells coursesDatabase) where
  order := explicit_answers.order
  tables := by
    change Except.ok ((sqliteDriver explicitDatabase.tables tablesQuery).toOption.getD []) = _
    rw [explicit_answers.tables]
    rfl
  foreignKeys T hT hplain := by
    change Except.ok ((sqliteDriver explicitDatabase.tables (foreignKeyList T.name)).toOption.getD [])
      = _
    rw [explicit_answers.foreignKeys T hT hplain]
    rfl
  columns T hT hplain := by
    change Except.ok ((sqliteDriver explicitDatabase.tables (tableInfo T.name)).toOption.getD []) = _
    rw [explicit_answers.columns T hT hplain]
    rfl

theorem courses_behind :
    Behind (fetched coursesDatabase) (fetchedCells coursesDatabase) coursesSchema .sqlite :=
  .sqlite explicitDatabase explicitDatabase.tables courses_explicit
    (fun T hT => (explicit_plain T hT).1) courses_schema courses_answers

def coursesRun : Except (CallError Unit) (List ColumnRecord) × List (OpEvent Request.Answer Unit) ×
    SharedHandle.World :=
  run (serveOp coursesDatabase) {} SQLiteConnector.fetchSchemaSteps

def coursesRecords : List ColumnRecord :=
  [⟨"courses", "id", "INTEGER", false, none⟩, ⟨"courses", "title", "TEXT", false, none⟩,
    ⟨"offerings", "id", "INTEGER", false, none⟩,
    ⟨"offerings", "course_id", "INTEGER", true, some "courses.id"⟩]

theorem coursesRun_ok : coursesRun.1 = .ok coursesRecords := by
  rfl

theorem coursesRun_runs :
    Runs Connector.sqlite.fetchSchemaSteps coursesRun.2.1 (.ok coursesRecords) := by
  rw [← coursesRun_ok]
  exact run_runs _ _ _

def coursesStartup : Except (StartupError Unit) Started × List (StartupEvent Unit) × StartupWorld :=
  run (startupHandle askedDeployment.py.repr coursesDatabase "") {}
    (startup askedDeployment.py askedDeployment.settings)

def coursesStarted : Started := ⟨.sqlite ":memory:", coursesSchema.render, ""⟩

/-- The question comes in the middle of the first refresh. -/
def coursesServing : List (Option Unit × ProcessEvent Unit) ×
    (Option Unit → ProcessProg Unit Reply) × Process :=
  interleave (processHandle (fun _ => .ok "") (fun _ => .ok []) coursesDatabase)
    (askedDeployment.pool coursesStarted 1)
    ⟨⟨coursesSchema.render, .empty⟩, coursesStartup.2.2.handle⟩
    (List.replicate 6 none ++ [some (), some ()] ++ List.replicate 14 none ++ [some (), some ()])

theorem coursesServing_serves : askedDeployment.Serves 1 coursesStartup.2.1 coursesStarted
    coursesServing.1 coursesServing.2.1 coursesServing.2.2 coursesStartup.2.2 where
  start := by
    have hstarted : coursesStartup.1 = .ok coursesStarted := by rfl
    rw [← hstarted]
    exact run_exec _ _ (startupHandle_step _ _ _) _ _
  serve := interleave_turns _ (processHandle_step _ _ _) _ _ _

theorem mem_startupOps {t : List (StartupEvent ε)} {e : OpEvent Request.Answer ε}
    (h : e ∈ startupOps t) : Event.inr e ∈ t := by
  obtain ⟨⟨q | op, a⟩, hmem, heq⟩ := List.mem_filterMap.1 h
  · cases heq
  · cases heq
    exact hmem

end UniversityQA.Guarantees
