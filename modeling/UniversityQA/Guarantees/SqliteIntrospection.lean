import Mathlib.Data.List.Forall2
import Mathlib.Data.List.Nodup
import Mathlib.Data.String.Basic
import UniversityQA.Db.SqliteSchema
import UniversityQA.Py.Text

/-!
# What SQLite introspection reports

`fetch_schema` keeps one entry of `PRAGMA foreign_key_list` for a column, the
last, and writes its target down as it stands there.

* `sqlite_introspection_exact_iff`: the records are exact when nothing is
  hidden and every such entry names a column that is there.
* `sqliteDriver_answers`: every database can be asked.
* `implicit_target_misnamed`: a key written `REFERENCES courses`.
-/

namespace UniversityQA.Guarantees

open UniversityQA.Py UniversityQA.Db Relational

variable {ε : Type}

/-! ## Exactness -/

/-- `t` and `a` name a column that column `c` of table `T` refers to. -/
def NamesReferenced (S : SqliteDatabase) (T : SqliteTable) (c t a : String) : Prop :=
  ∃ p ∈ S.tables, SameName t p.name ∧ ∃ d ∈ p.columns, SameName a d.name ∧ References T c p d

/-- The record says of a column what the database says. -/
structure DescribesColumn (S : SqliteDatabase) (x : SqliteTable × SqliteColumn) (r : ColumnRecord) :
    Prop where
  table : r.table = x.1.name
  column : r.column = x.2.name
  type : r.type = x.2.type
  is_fk : r.isFk = true ↔ x.1.InForeignKey x.2.name
  references_some : r.isFk = true →
    ∃ t a, r.references = some (t ++ "." ++ a) ∧ NamesReferenced S x.1 x.2.name t a
  references_none : r.isFk = false → r.references = none

/-- One record for every declared column, by table name and declaration. -/
def SqliteExact (S : SqliteDatabase) (result : Except (SqliteError ε) (List ColumnRecord)) : Prop :=
  ∃ tables records, S.InOrder tables ∧ result = .ok records ∧
    List.Forall₂ (DescribesColumn S) (expand SqliteTable.columns tables) records

/-- The tables, and those that the keys mention, have plain names. -/
def PlainTables (S : SqliteDatabase) : Prop :=
  ∀ T ∈ S.tables, PlainName T.name ∧ ∀ k ∈ T.foreignKeys, PlainName k.parent

/-- The entry of a column that is listed last. -/
def lastEntry (T : SqliteTable) (c : String) : Option KeyEntry :=
  (T.entries.filter fun e => e.column = c).getLast?

/-- The target of the entry, `None` where it is left out, is a column of the
table it mentions; one left out has to be the column referred to. -/
def EntryNames (S : SqliteDatabase) (T : SqliteTable) (e : KeyEntry) : Prop :=
  ∃ p ∈ S.tables, SameName e.key.parent p.name ∧ ∃ d ∈ p.columns,
    match e.target with
    | some target => SameName target d.name
    | none => SameName "None" d.name ∧ References T e.column p d

/-- No column is hidden, and the entry listed last for a column names one that
is there. -/
structure NamedTargets (S : SqliteDatabase) : Prop where
  visible : ∀ T ∈ S.tables, ∀ c ∈ T.columns, c.hidden = false
  named : ∀ T ∈ S.tables, ∀ c ∈ T.columns, ∀ e, lastEntry T c.name = some e → EntryNames S T e

/-! ## Entries -/

theorem length_targetCells (k : SqliteForeignKey) : k.targetCells.length = k.columns.length := by
  unfold SqliteForeignKey.targetCells
  cases h : k.targets with
  | none => simp
  | some ts => simpa using k.targets_length ts h

theorem mem_entries {T : SqliteTable} {e : KeyEntry} (h : e ∈ T.entries) :
    e.key ∈ T.foreignKeys ∧ (e.column, e.target) ∈ e.key.columns.zip e.key.targetCells := by
  obtain ⟨⟨k, id⟩, hk, he⟩ := List.mem_flatMap.1 h
  obtain ⟨⟨⟨a, t⟩, seq⟩, hpair, rfl⟩ := List.mem_map.1 he
  exact ⟨List.fst_mem_of_mem_zipIdx hk, List.fst_mem_of_mem_zipIdx hpair⟩

theorem exists_mem_zipIdx {α : Type} {xs : List α} {x : α} (h : x ∈ xs) :
    ∃ i, (x, i) ∈ xs.zipIdx := by
  rw [← List.zipIdx_map_fst 0 xs] at h
  obtain ⟨⟨y, i⟩, hmem, rfl⟩ := List.mem_map.1 h
  exact ⟨i, hmem⟩

theorem exists_entry {T : SqliteTable} {k : SqliteForeignKey} (hk : k ∈ T.foreignKeys) {a : String}
    (ha : a ∈ k.columns) : ∃ e ∈ T.entries, e.column = a := by
  have hfst : (k.columns.zip k.targetCells).map Prod.fst = k.columns :=
    List.map_fst_zip (Nat.le_of_eq (length_targetCells k).symm)
  rw [← hfst] at ha
  obtain ⟨⟨a, t⟩, hpair, rfl⟩ := List.mem_map.1 ha
  obtain ⟨seq, hseq⟩ := exists_mem_zipIdx hpair
  obtain ⟨id, hid⟩ := exists_mem_zipIdx hk
  refine ⟨⟨id, seq, k, a, t⟩, List.mem_flatMap.2 ⟨(k, id), hid, ?_⟩, rfl⟩
  exact List.mem_map.2 ⟨((a, t), seq), hseq, rfl⟩

theorem lookup_fkMap (T : SqliteTable) (c : String) :
    T.fkMap.lookup c = (lastEntry T c).map KeyEntry.text := by
  rw [SqliteTable.fkMap, Dict.lookup_ofPairs, lastEntry]
  induction T.entries using List.reverseRecOn with
  | nil => rfl
  | append_singleton es e ih =>
    rw [List.map_append, List.map_singleton, List.reverse_append, List.reverse_singleton,
      List.singleton_append, lookup_cons_ite, ih, List.filter_append]
    by_cases hc : c = e.column
    · simp [hc]
    · simp [hc, Ne.symm hc]

theorem lastEntry_mem {T : SqliteTable} {c : String} {e : KeyEntry} (h : lastEntry T c = some e) :
    e ∈ T.entries ∧ e.column = c := by
  obtain ⟨hmem, hc⟩ := List.mem_filter.1 (List.mem_of_getLast? h)
  exact ⟨hmem, of_decide_eq_true hc⟩

theorem lastEntry_isSome_iff (T : SqliteTable) (c : String) :
    (lastEntry T c).isSome = true ↔ T.InForeignKey c := by
  constructor
  · intro h
    obtain ⟨e, he⟩ := Option.isSome_iff_exists.1 h
    obtain ⟨hmem, rfl⟩ := lastEntry_mem he
    obtain ⟨hk, hpair⟩ := mem_entries hmem
    exact ⟨e.key, hk, (List.of_mem_zip hpair).1⟩
  · rintro ⟨k, hk, hc⟩
    obtain ⟨e, hmem, rfl⟩ := exists_entry hk hc
    rw [Option.isSome_iff_ne_none, lastEntry, ne_eq, List.getLast?_eq_none_iff,
      List.filter_eq_nil_iff]
    intro hnone
    exact hnone e hmem (decide_eq_true rfl)

/-- A target that is written down is referred to where it is a column. -/
theorem references_of_entry {T p : SqliteTable} {e : KeyEntry} {d : SqliteColumn} {target : String}
    (he : e ∈ T.entries) (hp : SameName e.key.parent p.name) (hd : d ∈ p.columns)
    (htarget : e.target = some target) (hname : SameName target d.name) :
    References T e.column p d := by
  obtain ⟨hk, hpair⟩ := mem_entries he
  refine ⟨e.key, hk, hp, hd, target, ?_, hname⟩
  rw [htarget] at hpair
  unfold SqliteForeignKey.targetCells at hpair
  unfold SqliteForeignKey.targetsIn
  cases hts : e.key.targets with
  | some ts =>
    rw [hts] at hpair
    simpa [List.zip_map_right] using hpair
  | none =>
    rw [hts] at hpair
    obtain ⟨a, -, hnone⟩ := List.mem_map.1 (List.of_mem_zip hpair).2
    cases hnone

/-! ## The text of an entry -/

theorem dot_notMem_plain {name : String} (h : PlainName name) : '.' ∉ name.toList := by
  intro hdot
  have hchar := List.all_eq_true.1 h.1 '.' hdot
  exact absurd hchar (by decide)

theorem dot_notMem_of_sameName {t name : String} (h : PlainName name) (ht : SameName t name) :
    '.' ∉ t.toList := by
  intro hdot
  have hlower : '.' ∈ (t.map Char.toLower).toList := by
    rw [String.toList_map]
    exact List.mem_map.2 ⟨'.', hdot, rfl⟩
  rw [ht, String.toList_map] at hlower
  obtain ⟨c, hc, hcdot⟩ := List.mem_map.1 hlower
  have hn := congrArg Char.toNat hcdot
  rw [toNat_toLower, show '.'.toNat = 46 from rfl] at hn
  have hdot : c = '.' := by
    refine Char.toNat_inj.1 ?_
    rw [show '.'.toNat = 46 from rfl]
    split at hn
    · omega
    · exact hn
  exact dot_notMem_plain h (hdot ▸ hc)

/-- A text with a dot says where its first part ends. -/
theorem dotted_inj {t t' a a' : String} (ht : '.' ∉ t.toList) (ht' : '.' ∉ t'.toList)
    (h : t ++ "." ++ a = t' ++ "." ++ a') : t = t' ∧ a = a' := by
  have hlist : t.toList ++ '.' :: a.toList = t'.toList ++ '.' :: a'.toList := by
    simpa using congrArg String.toList h
  have hparts := congrArg (partition '.') hlist
  rw [partition_append ht, partition_append ht', Prod.mk.injEq] at hparts
  exact ⟨String.toList_inj.1 hparts.1, String.toList_inj.1 hparts.2⟩

theorem text_some {e : KeyEntry} {target : String} (h : e.target = some target) :
    e.text = e.key.parent ++ "." ++ target := by
  rw [KeyEntry.text, h]
  rfl

theorem text_none {e : KeyEntry} (h : e.target = none) :
    e.text = e.key.parent ++ "." ++ "None" := by
  rw [KeyEntry.text, h]
  rfl

/-- The text of an entry names what its column refers to exactly when the
entry does. -/
theorem text_names_iff {S : SqliteDatabase} (hplain : PlainTables S) {T : SqliteTable}
    (hT : T ∈ S.tables) {e : KeyEntry} (he : e ∈ T.entries) :
    (∃ t a, e.text = t ++ "." ++ a ∧ NamesReferenced S T e.column t a) ↔ EntryNames S T e := by
  have hparent := dot_notMem_plain ((hplain T hT).2 e.key (mem_entries he).1)
  constructor
  · rintro ⟨t, a, htext, p, hp, ht, d, hd, ha, hrefers⟩
    have hdot := dot_notMem_of_sameName (hplain p hp).1 ht
    refine ⟨p, hp, ?_⟩
    cases htarget : e.target with
    | some target =>
      rw [text_some htarget] at htext
      obtain ⟨rfl, rfl⟩ := dotted_inj hparent hdot htext
      exact ⟨ht, d, hd, ha⟩
    | none =>
      rw [text_none htarget] at htext
      obtain ⟨rfl, rfl⟩ := dotted_inj hparent hdot htext
      exact ⟨ht, d, hd, ha, hrefers⟩
  · rintro ⟨p, hp, hname, d, hd, htarget⟩
    cases ht : e.target with
    | some target =>
      rw [ht] at htarget
      exact ⟨e.key.parent, target, text_some ht, p, hp, hname, d, hd, htarget,
        references_of_entry he hname hd ht htarget⟩
    | none =>
      rw [ht] at htarget
      exact ⟨e.key.parent, "None", text_none ht, p, hp, hname, d, hd, htarget⟩

/-! ## The records -/

/-- The record of a column describes it exactly when the last entry names what
the column refers to. -/
theorem describes_iff {S : SqliteDatabase} (hplain : PlainTables S) {T : SqliteTable}
    (hT : T ∈ S.tables) (c : SqliteColumn) :
    DescribesColumn S (T, c) (columnRecordOf (T, c)) ↔
      ∀ e, lastEntry T c.name = some e → EntryNames S T e := by
  have hlookup := lookup_fkMap T c.name
  have hisFk : (columnRecordOf (T, c)).isFk = (lastEntry T c.name).isSome := by
    rw [columnRecordOf, hlookup, Option.isSome_map]
  have hreferences : (columnRecordOf (T, c)).references = (lastEntry T c.name).map KeyEntry.text :=
    hlookup
  constructor
  · intro h e he
    obtain ⟨hmem, hcolumn⟩ := lastEntry_mem he
    rw [he] at hisFk hreferences
    obtain ⟨t, a, htext, hnames⟩ := h.references_some hisFk
    rw [hreferences] at htext
    refine (text_names_iff hplain hT hmem).1 ⟨t, a, Option.some.inj htext, ?_⟩
    rw [hcolumn]
    exact hnames
  · intro h
    refine ⟨rfl, rfl, rfl, ?_, ?_, ?_⟩
    · rw [hisFk]
      exact lastEntry_isSome_iff T c.name
    · intro hfk
      rw [hisFk] at hfk
      obtain ⟨e, he⟩ := Option.isSome_iff_exists.1 hfk
      obtain ⟨hmem, hcolumn⟩ := lastEntry_mem he
      obtain ⟨t, a, htext, hnames⟩ := (text_names_iff hplain hT hmem).2 (h e he)
      rw [hcolumn] at hnames
      refine ⟨t, a, ?_, hnames⟩
      rw [hreferences, he, ← htext]
      rfl
    · intro hfk
      rw [hisFk] at hfk
      rw [hreferences]
      cases hlast : lastEntry T c.name with
      | none => rfl
      | some e =>
        rw [hlast] at hfk
        cases hfk

theorem visibleColumns_eq_iff (T : SqliteTable) :
    T.visibleColumns = T.columns ↔ ∀ c ∈ T.columns, c.hidden = false := by
  rw [SqliteTable.visibleColumns, List.filter_eq_self]
  simp

theorem names_nodup (S : SqliteDatabase) : (S.tables.map SqliteTable.name).Nodup := by
  have hlower := S.name_unique
  have hmap : S.tables.map (fun T => T.name.map Char.toLower) =
      (S.tables.map SqliteTable.name).map (String.map Char.toLower) := by
    rw [List.map_map]
    rfl
  rw [hmap] at hlower
  exact hlower.of_map _

theorem eq_of_name {S : SqliteDatabase} {T U : SqliteTable} (hT : T ∈ S.tables) (hU : U ∈ S.tables)
    (h : T.name = U.name) : T = U :=
  List.inj_on_of_nodup_map (names_nodup S) hT hU h

/-- The order of the tables is that of their names. -/
theorem inOrder_unique {S : SqliteDatabase} {tables tables' : List SqliteTable}
    (h : S.InOrder tables) (h' : S.InOrder tables') : tables = tables' := by
  refine List.Perm.eq_of_pairwise ?_ h.pairwise h'.pairwise (h.perm.trans h'.perm.symm)
  intro T U hT hU hle hle'
  exact eq_of_name (h.perm.mem_iff.1 hT) (h'.perm.mem_iff.1 hU) (le_antisymm hle hle')

theorem namedTargets_of_exact {S : SqliteDatabase} {tables : List SqliteTable}
    {driver : String → Except ε (List SqliteRow)} (hanswers : SqliteAnswers S tables driver)
    (hplain : PlainTables S) (h : SqliteExact S (SQLiteConnector.fetchSchema driver)) :
    NamedTargets S := by
  rw [SQLiteConnector.fetchSchema_eq hanswers fun T hT => (hplain T hT).1] at h
  obtain ⟨tables', records, horder, hrecords, hall⟩ := h
  obtain rfl := inOrder_unique hanswers.order horder
  obtain rfl := Except.ok.inj hrecords
  have hmem : ∀ T, T ∈ S.tables → T ∈ tables := fun T => hanswers.order.perm.mem_iff.2
  have hlength := hall.length_eq
  rw [List.length_map] at hlength
  have hvisible : ∀ T ∈ tables, T.visibleColumns = T.columns :=
    expand_complete (fun T : SqliteTable => List.filter_sublist) hlength
  rw [expand_congr hvisible, List.forall₂_map_right_iff, List.forall₂_same] at hall
  refine ⟨fun T hT => ?_, fun T hT c hc => ?_⟩
  · exact (visibleColumns_eq_iff T).1 (hvisible T (hmem T hT))
  · exact (describes_iff hplain hT c).1 (hall (T, c) (mem_expand.2 ⟨hmem T hT, hc⟩))

theorem exact_of_namedTargets {S : SqliteDatabase} {tables : List SqliteTable}
    {driver : String → Except ε (List SqliteRow)} (hanswers : SqliteAnswers S tables driver)
    (hplain : PlainTables S) (h : NamedTargets S) :
    SqliteExact S (SQLiteConnector.fetchSchema driver) := by
  rw [SQLiteConnector.fetchSchema_eq hanswers fun T hT => (hplain T hT).1]
  have hmem : ∀ T, T ∈ tables → T ∈ S.tables := fun T => hanswers.order.perm.mem_iff.1
  have hvisible : ∀ T ∈ tables, T.visibleColumns = T.columns := fun T hT =>
    (visibleColumns_eq_iff T).2 (h.visible T (hmem T hT))
  refine ⟨tables, _, hanswers.order, rfl, ?_⟩
  rw [expand_congr hvisible, List.forall₂_map_right_iff, List.forall₂_same]
  rintro ⟨T, c⟩ hx
  obtain ⟨hT, hc⟩ := mem_expand.1 hx
  exact (describes_iff hplain (hmem T hT) c).2 (h.named T (hmem T hT) c hc)

/-- **SQLite introspection is exact exactly when no column is hidden and the
last entry of every column names one that is there.** -/
theorem sqlite_introspection_exact_iff (S : SqliteDatabase) (tables : List SqliteTable)
    (driver : String → Except ε (List SqliteRow)) (hanswers : SqliteAnswers S tables driver)
    (hplain : PlainTables S) :
    SqliteExact S (SQLiteConnector.fetchSchema driver) ↔ NamedTargets S :=
  ⟨namedTargets_of_exact hanswers hplain, exact_of_namedTargets hanswers hplain⟩

/-! ## A driver -/

/-- A driver for the given tables. -/
def sqliteDriver (tables : List SqliteTable) (sql : String) : Except Unit (List SqliteRow) :=
  if sql = tablesQuery then .ok (tables.map fun T => [.text T.name])
  else
    match tables.find? (fun T => sql = foreignKeyList T.name),
      tables.find? (fun T => sql = tableInfo T.name) with
    | some T, _ => .ok T.foreignKeyRows
    | none, some T => .ok T.columnRows
    | none, none => .error ()

theorem find?_eq_some_of_unique {α : Type} {p : α → Bool} {xs : List α} {x : α} (hx : x ∈ xs)
    (hp : p x = true) (hunique : ∀ y ∈ xs, p y = true → y = x) : xs.find? p = some x := by
  cases h : xs.find? p with
  | none => exact absurd hp (List.find?_eq_none.1 h x hx)
  | some y => rw [hunique y (List.mem_of_find?_eq_some h) (List.find?_some h)]

theorem foreignKeyList_inj {t u : String} (h : foreignKeyList t = foreignKeyList u) : t = u := by
  unfold foreignKeyList at h
  rwa [String.append_left_inj, String.append_right_inj] at h

theorem tableInfo_inj {t u : String} (h : tableInfo t = tableInfo u) : t = u := by
  unfold tableInfo at h
  rwa [String.append_left_inj, String.append_right_inj] at h

theorem take_append {n : Nat} {a : String} (b c : String) (h : n ≤ a.toList.length) :
    (a ++ b ++ c).toList.take n = a.toList.take n := by
  rw [String.toList_append, String.toList_append, List.append_assoc,
    List.take_append_of_le_length h]

/-- The three statements differ in their first eight characters. -/
theorem statements_ne (t u : String) : foreignKeyList t ≠ tablesQuery ∧
    tableInfo t ≠ tablesQuery ∧ tableInfo t ≠ foreignKeyList u := by
  have hfk : ∀ t, (foreignKeyList t).toList.take 8 = "PRAGMA f".toList := fun t =>
    (take_append t ")" (by decide)).trans (by decide)
  have hinfo : ∀ t, (tableInfo t).toList.take 8 = "PRAGMA t".toList := fun t =>
    (take_append t ")" (by decide)).trans (by decide)
  have htables : tablesQuery.toList.take 8 = "SELECT n".toList := by decide
  refine ⟨fun h => ?_, fun h => ?_, fun h => ?_⟩
  · have htake := hfk t
    rw [h, htables] at htake
    exact absurd htake (by decide)
  · have htake := hinfo t
    rw [h, htables] at htake
    exact absurd htake (by decide)
  · have htake := hinfo t
    rw [h, hfk] at htake
    exact absurd htake (by decide)

/-- **Every database has a driver.** -/
theorem sqliteDriver_answers (S : SqliteDatabase)
    (h : S.tables.Pairwise fun T U => T.name ≤ U.name) :
    SqliteAnswers S S.tables (sqliteDriver S.tables) where
  order := ⟨List.Perm.refl _, h⟩
  tables := if_pos rfl
  foreignKeys := by
    intro T hT _
    have hfind : S.tables.find? (fun U => foreignKeyList T.name = foreignKeyList U.name) = some T :=
      find?_eq_some_of_unique hT (decide_eq_true rfl) fun U hU hname =>
        eq_of_name hU hT (foreignKeyList_inj (of_decide_eq_true hname)).symm
    rw [sqliteDriver, if_neg (statements_ne T.name T.name).1, hfind]
  columns := by
    intro T hT _
    have hnone : S.tables.find? (fun U => tableInfo T.name = foreignKeyList U.name) = none := by
      refine List.find?_eq_none.2 fun U _ hname => ?_
      exact (statements_ne T.name U.name).2.2 (of_decide_eq_true hname)
    have hfind : S.tables.find? (fun U => tableInfo T.name = tableInfo U.name) = some T :=
      find?_eq_some_of_unique hT (decide_eq_true rfl) fun U hU hname =>
        eq_of_name hU hT (tableInfo_inj (of_decide_eq_true hname)).symm
    rw [sqliteDriver, if_neg (statements_ne T.name T.name).2.1, hnone, hfind]

/-! ## Two databases -/

def coursesTable : SqliteTable where
  name := "courses"
  columns := [{ name := "id", type := "INTEGER" }, { name := "title", type := "TEXT" }]
  primaryKey := ["id"]

def courseKey : SqliteForeignKey where
  parent := "courses"
  columns := ["course_id"]
  targets := some ["id"]
  targets_length := by decide

/-- `course_id INTEGER REFERENCES courses(id)`. -/
def offeringsTable : SqliteTable where
  name := "offerings"
  columns := [{ name := "id", type := "INTEGER" }, { name := "course_id", type := "INTEGER" }]
  primaryKey := ["id"]
  foreignKeys := [courseKey]

def explicitDatabase : SqliteDatabase where
  tables := [coursesTable, offeringsTable]
  name_unique := by decide +kernel

theorem explicit_answers : SqliteAnswers explicitDatabase explicitDatabase.tables
    (sqliteDriver explicitDatabase.tables) :=
  sqliteDriver_answers explicitDatabase (by decide +kernel)

theorem explicit_plain : PlainTables explicitDatabase := by
  intro T hT
  rcases List.mem_pair.1 hT with rfl | rfl
  · exact ⟨by decide +kernel, by simp [coursesTable]⟩
  · refine ⟨by decide +kernel, fun k hk => ?_⟩
    rw [List.mem_singleton.1 hk]
    decide +kernel

/-- The key says which column it means. -/
theorem explicit_named : NamedTargets explicitDatabase where
  visible := by
    intro T hT
    rcases List.mem_pair.1 hT with rfl | rfl
    · decide
    · decide
  named := by
    intro T hT c hc e he
    have hmem := (lastEntry_mem he).1
    rcases List.mem_pair.1 hT with rfl | rfl
    · cases hmem
    · rw [List.mem_singleton.1 (show e ∈ [(⟨0, 0, courseKey, "course_id", some "id"⟩ : KeyEntry)]
        from hmem)]
      exact ⟨coursesTable, List.mem_cons_self, rfl, _, List.mem_cons_self, rfl⟩

theorem sqlite_introspection_exact_iff_explicit :
    SqliteExact explicitDatabase (SQLiteConnector.fetchSchema (sqliteDriver explicitDatabase.tables)) :=
  (sqlite_introspection_exact_iff explicitDatabase explicitDatabase.tables
    (sqliteDriver explicitDatabase.tables) explicit_answers explicit_plain).2 explicit_named

/-- `course_id INTEGER REFERENCES courses`. -/
def implicitKey : SqliteForeignKey where
  parent := "courses"
  columns := ["course_id"]
  targets := none
  targets_length := by simp

def implicitDatabase : SqliteDatabase where
  tables := [coursesTable, { offeringsTable with foreignKeys := [implicitKey] }]
  name_unique := explicitDatabase.name_unique

theorem implicit_answers : SqliteAnswers implicitDatabase implicitDatabase.tables
    (sqliteDriver implicitDatabase.tables) :=
  sqliteDriver_answers implicitDatabase (by decide +kernel)

theorem implicit_plain : PlainTables implicitDatabase := by
  intro T hT
  rcases List.mem_pair.1 hT with rfl | rfl
  · exact explicit_plain coursesTable List.mem_cons_self
  · refine ⟨(explicit_plain offeringsTable (List.mem_cons_of_mem _ List.mem_cons_self)).1, ?_⟩
    intro k hk
    rw [List.mem_singleton.1 hk]
    decide +kernel

/-- The key refers to `courses.id` and is reported as `courses.None`. -/
theorem implicit_target_misnamed :
    SqliteAnswers implicitDatabase implicitDatabase.tables (sqliteDriver implicitDatabase.tables) ∧
      PlainTables implicitDatabase ∧
      ({ table := "offerings", column := "course_id", type := "INTEGER", isFk := true,
         references := some "courses.None" } : ColumnRecord) ∈
        (SQLiteConnector.fetchSchema (sqliteDriver implicitDatabase.tables)).toOption.getD [] ∧
      ¬ SqliteExact implicitDatabase
        (SQLiteConnector.fetchSchema (sqliteDriver implicitDatabase.tables)) := by
  refine ⟨implicit_answers, implicit_plain, ?_, fun hexact => ?_⟩
  · rw [SQLiteConnector.fetchSchema_eq implicit_answers fun T hT => (implicit_plain T hT).1]
    decide +kernel
  · have hnamed := (namedTargets_of_exact implicit_answers implicit_plain hexact).named
    obtain ⟨p, hp, hparent, d, hd, hnone, -⟩ :=
      hnamed _ (List.mem_cons_of_mem _ List.mem_cons_self) _
        (List.mem_cons_of_mem _ List.mem_cons_self)
        ⟨0, 0, implicitKey, "course_id", none⟩ rfl
    rcases List.mem_pair.1 hp with rfl | rfl
    · rcases List.mem_pair.1 hd with rfl | rfl
      · exact absurd hnone (by decide +kernel)
      · exact absurd hnone (by decide +kernel)
    · exact absurd hparent (by decide +kernel)

end UniversityQA.Guarantees
