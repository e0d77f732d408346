import UniversityQA.Db.InformationSchema

/-!
# What PostgreSQL introspection reports

The query joins the views of `information_schema` on constraint name and schema
only.  A column gets a row for every combination of rows joined, so its record
is repeated, and told of columns it does not refer to, unless the foreign keys
are simple.

* `introspection_exact_iff`: `fetch_schema` is exact exactly for simple keys.
-/

namespace UniversityQA.Guarantees

open UniversityQA.Db Relational

variable {ε : Type}

/-! ## Exactness -/

/-- The record says of a column what the catalog says. -/
structure Describes (S : Catalog) (c : ColumnInfo) (r : ColumnRecord) : Prop where
  table : r.table = c.table.tableName
  column : r.column = c.columnName
  type : r.type = c.dataType
  is_fk : r.isFk = true ↔ ∃ t a, S.References c t a
  references_some : ∀ s, r.references = some s →
    ∃ t a, S.References c t a ∧ s = t.tableName ++ "." ++ a
  references_none : r.references = none → ¬ ∃ t a, S.References c t a

/-- One record for every column of the public schema, by table and position. -/
def Exact (S : Catalog) (result : Except (FetchError ε) (List ColumnRecord)) : Prop :=
  ∃ cols records, OrderedBy InOrder S.publicColumns cols ∧ result = .ok records ∧
    List.Forall₂ (Describes S) cols records

/-- `k` is a foreign key of the public schema. -/
def PublicKey (S : Catalog) (k : Constraint) (key : ForeignKey) : Prop :=
  k ∈ S.constraints ∧ k.table.tableSchema = "public" ∧ k.foreignKey? = some key

/-- Every foreign key has one column, no column is in two, and no other
constraint that rests on a public column has the name of one. -/
structure SimpleKeys (S : Catalog) : Prop where
  single : ∀ k key, PublicKey S k key → key.pairs.length = 1
  disjoint : ∀ k key l key', PublicKey S k key → PublicKey S l key' →
    k.table = l.table → ∀ a ∈ k.keyColumns, a ∈ l.keyColumns → k = l
  named : ∀ k key, PublicKey S k key → ∀ l ∈ S.constraints,
    l.constraintName = k.constraintName →
    (∃ u ∈ l.usedColumns, u.1.tableSchema = "public") → l = k

/-! ## The rows joined -/

theorem foreignKey?_eq_some {k : Constraint} {key : ForeignKey} :
    k.foreignKey? = some key ↔ k.kind = .foreignKey key := by
  unfold Constraint.foreignKey?
  cases k.kind <;> simp

theorem constraintType_eq_iff (k : Constraint) :
    k.constraintType = "FOREIGN KEY" ↔ ∃ key, k.foreignKey? = some key := by
  unfold Constraint.constraintType Constraint.foreignKey?
  cases k.kind <;> simp

theorem mem_keyColumns {k : Constraint} {key : ForeignKey} (h : k.foreignKey? = some key)
    (a : String) : a ∈ k.keyColumns ↔ ∃ b, (a, b) ∈ key.pairs := by
  rw [Constraint.keyColumns, foreignKey?_eq_some.1 h]
  simp

theorem mem_usedColumns {k : Constraint} {key : ForeignKey} (h : k.foreignKey? = some key)
    (u : Relation × String) :
    u ∈ k.usedColumns ↔ u.1 = key.referenced ∧ ∃ a, (a, u.2) ∈ key.pairs := by
  rw [Constraint.usedColumns, foreignKey?_eq_some.1 h]
  obtain ⟨t, b⟩ := u
  simp only [List.mem_dedup, List.mem_map, Prod.exists, Prod.mk.injEq]
  constructor
  · rintro ⟨a, b', hpair, rfl, rfl⟩
    exact ⟨rfl, a, hpair⟩
  · rintro ⟨rfl, a, hpair⟩
    exact ⟨a, b, hpair, rfl, rfl⟩

theorem nodup_keyColumns (k : Constraint) : k.keyColumns.Nodup := by
  unfold Constraint.keyColumns
  cases k.kind with
  | check columns => exact List.nodup_nil
  | _ => exact List.nodup_dedup _

theorem nodup_usedColumns (k : Constraint) : k.usedColumns.Nodup := by
  unfold Constraint.usedColumns
  cases k.kind <;> exact List.nodup_dedup _

theorem nodup_constraints (S : Catalog) : S.constraints.Nodup := S.name_unique.of_map _

theorem nodup_fkJoin (S : Catalog) : S.fkJoin.Nodup := by
  have hconstraints := nodup_constraints S
  have hkey := nodup_join (fun (tc : Constraint) (kcu : Constraint × String) =>
    tc.constraintName == kcu.1.constraintName && tc.table.tableSchema == kcu.1.table.tableSchema)
    hconstraints (nodup_expand hconstraints nodup_keyColumns)
  exact (nodup_join _ hkey (nodup_expand hconstraints nodup_usedColumns)).filter _

/-- A row joined: a foreign key of the public schema, and a key column and a
used column of constraints of its name. -/
theorem mem_fkJoin {S : Catalog} {tc l m : Constraint} {a : String} {u : Relation × String} :
    ((tc, l, a), m, u) ∈ S.fkJoin ↔ (∃ key, PublicKey S tc key) ∧
      (l ∈ S.constraints ∧ a ∈ l.keyColumns ∧ l.constraintName = tc.constraintName ∧
        l.table.tableSchema = "public") ∧
      m ∈ S.constraints ∧ u ∈ m.usedColumns ∧ m.constraintName = tc.constraintName ∧
        u.1.tableSchema = "public" := by
  simp only [Catalog.fkJoin, List.mem_filter, mem_join, Catalog.keyColumnUsage,
    Catalog.constraintColumnUsage, mem_expand, Bool.and_eq_true, beq_iff_eq,
    constraintType_eq_iff, PublicKey]
  constructor
  · rintro ⟨⟨⟨htc, ⟨hl, ha⟩, hlname, hlschema⟩, ⟨hm, hu⟩, hmname, hmschema⟩, ⟨key, hkey⟩, hpublic⟩
    exact ⟨⟨key, htc, hpublic, hkey⟩, ⟨hl, ha, hlname.symm, hlschema ▸ hpublic⟩,
      hm, hu, hmname.symm, hmschema ▸ hpublic⟩
  · rintro ⟨⟨key, htc, hpublic, hkey⟩, ⟨hl, ha, hlname, hlschema⟩, hm, hu, hmname, hmschema⟩
    exact ⟨⟨⟨htc, ⟨hl, ha⟩, hlname.symm, hpublic.trans hlschema.symm⟩, ⟨hm, hu⟩, hmname.symm,
      hpublic.trans hmschema.symm⟩, ⟨key, hkey⟩, hpublic⟩

theorem onColumn_select (tc m : Constraint) (u : Relation × String) {c : ColumnInfo}
    {l : Constraint} {a : String} (hc : c.table.tableSchema = "public")
    (hl : l.table.tableSchema = "public") :
    onColumn c (FkJoin.select ((tc, l, a), m, u)) = true ↔ l.table = c.table ∧ a = c.columnName := by
  simp only [onColumn, FkJoin.select, Bool.and_eq_true, beq_iff_eq]
  constructor
  · rintro ⟨hname, hcolumn⟩
    refine ⟨?_, hcolumn.symm⟩
    cases htable : l.table with
    | mk schema name =>
      cases htable' : c.table with
      | mk schema' name' =>
        rw [htable] at hl hname
        rw [htable'] at hc hname
        exact congrArg₂ Relation.mk (hl.trans hc.symm) hname.symm
  · rintro ⟨htable, rfl⟩
    exact ⟨congrArg Relation.tableName htable.symm, rfl⟩

/-- What the left join puts next to a column. -/
def partners (S : Catalog) (c : ColumnInfo) : List FkRow :=
  (S.fkJoin.map FkJoin.select).filter (onColumn c)

theorem length_partners_le_one_iff (S : Catalog) (c : ColumnInfo) :
    (partners S c).length ≤ 1 ↔
      ∀ row ∈ S.fkJoin, ∀ row' ∈ S.fkJoin, onColumn c row.select = true →
        onColumn c row'.select = true → row = row' := by
  rw [partners, List.filter_map, List.length_map, length_filter_le_one_iff (nodup_fkJoin S)]
  rfl

theorem mem_publicColumns {S : Catalog} {c : ColumnInfo} :
    c ∈ S.publicColumns ↔ c ∈ S.columns ∧ c.table.tableSchema = "public" := by
  rw [Catalog.publicColumns, List.mem_filter, beq_iff_eq]

/-- What a public key refers to is public. -/
theorem used_public {S : Catalog} {k : Constraint} {key : ForeignKey}
    (hk : PublicKey S k key) {a b : String} (hpair : (a, b) ∈ key.pairs) :
    (key.referenced, b) ∈ k.usedColumns ∧ key.referenced.tableSchema = "public" := by
  obtain ⟨hmem, hpublic, hkey⟩ := hk
  exact ⟨(mem_usedColumns hkey _).2 ⟨rfl, a, hpair⟩, S.within k hmem hpublic key hkey⟩

/-- A key column of a foreign key joins with every public column that a
constraint of the key's name rests on. -/
theorem mem_fkJoin_of_name {S : Catalog} {k m : Constraint} {key : ForeignKey}
    (hk : PublicKey S k key) {a : String} (ha : a ∈ k.keyColumns)
    (hm : m ∈ S.constraints) (hname : m.constraintName = k.constraintName)
    {u : Relation × String} (hu : u ∈ m.usedColumns) (hpublic : u.1.tableSchema = "public") :
    ((k, k, a), m, u) ∈ S.fkJoin :=
  mem_fkJoin.2 ⟨⟨key, hk⟩, ⟨hk.1, ha, rfl, hk.2.1⟩, hm, hu, hname, hpublic⟩

/-! ## Simple keys have one partner for a column -/

theorem keyColumn_rests {S : Catalog} {l : Constraint} (hl : l ∈ S.constraints)
    (hpublic : l.table.tableSchema = "public") {a : String} (ha : a ∈ l.keyColumns) :
    ∃ u ∈ l.usedColumns, u.1.tableSchema = "public" := by
  cases hkey : l.foreignKey? with
  | some key =>
    obtain ⟨b, hpair⟩ := (mem_keyColumns hkey a).1 ha
    obtain ⟨hu, hschema⟩ := used_public ⟨hl, hpublic, hkey⟩ hpair
    exact ⟨_, hu, hschema⟩
  | none =>
    refine ⟨(l.table, a), ?_, hpublic⟩
    unfold Constraint.foreignKey? at hkey
    unfold Constraint.keyColumns at ha
    unfold Constraint.usedColumns
    cases hkind : l.kind <;> simp_all

/-- The rows joined of simple keys are the keys themselves. -/
theorem SimpleKeys.row_eq {S : Catalog} (hS : SimpleKeys S) {tc l m : Constraint} {a : String}
    {u : Relation × String} (h : ((tc, l, a), m, u) ∈ S.fkJoin) :
    l = tc ∧ m = tc ∧ tc.table.tableSchema = "public" ∧
      ∃ key, PublicKey S tc key ∧ key.referenced = u.1 ∧ key.pairs = [(a, u.2)] := by
  obtain ⟨⟨key, htc⟩, ⟨hl, ha, hlname, hlpublic⟩, hm, hu, hmname, hupublic⟩ := mem_fkJoin.1 h
  obtain rfl : l = tc := hS.named tc key htc l hl hlname (keyColumn_rests hl hlpublic ha)
  obtain rfl : m = l := hS.named l key htc m hm hmname ⟨u, hu, hupublic⟩
  refine ⟨rfl, rfl, hlpublic, key, htc, ?_⟩
  obtain ⟨⟨a₀, b₀⟩, hpair⟩ := List.length_eq_one_iff.1 (hS.single m key htc)
  obtain ⟨b, hb⟩ := (mem_keyColumns htc.2.2 a).1 ha
  obtain ⟨hreferenced, a', ha'⟩ := (mem_usedColumns htc.2.2 u).1 hu
  rw [hpair, List.mem_singleton] at hb ha'
  obtain ⟨ha₀, -⟩ := Prod.mk.inj hb
  obtain ⟨-, hb₀⟩ := Prod.mk.inj ha'
  exact ⟨hreferenced.symm, by rw [hpair, ha₀, hb₀]⟩

/-- No column of the public schema has two partners. -/
def OnePartner (S : Catalog) : Prop := ∀ c ∈ S.publicColumns, (partners S c).length ≤ 1

theorem SimpleKeys.onePartner {S : Catalog} (hS : SimpleKeys S) : OnePartner S := by
  intro c hc
  obtain ⟨-, hpublic⟩ := mem_publicColumns.1 hc
  rw [length_partners_le_one_iff]
  rintro ⟨⟨tc, l, a⟩, m, u⟩ hrow ⟨⟨tc', l', a'⟩, m', u'⟩ hrow' hon hon'
  obtain ⟨rfl, rfl, htc, key, hkey, hreferenced, hpairs⟩ := hS.row_eq hrow
  obtain ⟨rfl, rfl, htc', key', hkey', hreferenced', hpairs'⟩ := hS.row_eq hrow'
  obtain ⟨htable, rfl⟩ := (onColumn_select m m u hpublic htc).1 hon
  obtain ⟨htable', rfl⟩ := (onColumn_select m' m' u' hpublic htc').1 hon'
  have ha : c.columnName ∈ m.keyColumns :=
    (mem_keyColumns hkey.2.2 _).2 ⟨u.2, by rw [hpairs]; exact List.mem_singleton_self _⟩
  have ha' : c.columnName ∈ m'.keyColumns :=
    (mem_keyColumns hkey'.2.2 _).2 ⟨u'.2, by rw [hpairs']; exact List.mem_singleton_self _⟩
  obtain rfl := hS.disjoint m key m' key' hkey hkey' (htable.trans htable'.symm) _ ha ha'
  obtain rfl := Option.some.inj (hkey.2.2.symm.trans hkey'.2.2)
  have hu : u = u' := by
    have hsecond := (Prod.mk.inj (List.singleton_inj.1 (hpairs.symm.trans hpairs'))).2
    exact Prod.ext (hreferenced.symm.trans hreferenced') hsecond
  rw [hu]

theorem partner_of_references {S : Catalog} {c : ColumnInfo}
    (hpublic : c.table.tableSchema = "public") {t : Relation} {b : String}
    (h : S.References c t b) : ∃ fk ∈ S.fkJoin.map FkJoin.select, onColumn c fk = true := by
  obtain ⟨k, hk, htable, key, hkey, -, hpair⟩ := h
  have hkeyOf : PublicKey S k key := ⟨hk, by rw [htable, hpublic], hkey⟩
  obtain ⟨hu, husedPublic⟩ := used_public hkeyOf hpair
  have ha : c.columnName ∈ k.keyColumns := (mem_keyColumns hkey _).2 ⟨b, hpair⟩
  have hrow := mem_fkJoin_of_name hkeyOf ha hk rfl hu husedPublic
  exact ⟨_, List.mem_map_of_mem hrow, (onColumn_select k k _ hpublic hkeyOf.2.1).2 ⟨htable, rfl⟩⟩

/-- With simple keys the partner of a column names what the column refers to. -/
theorem SimpleKeys.references_of_partner {S : Catalog} (hS : SimpleKeys S) {c : ColumnInfo}
    (hpublic : c.table.tableSchema = "public") {fk : FkRow}
    (hfk : fk ∈ S.fkJoin.map FkJoin.select) (hon : onColumn c fk = true) :
    ∃ t, S.References c t fk.foreignColumn ∧ t.tableName = fk.foreignTable ∧
      t.tableName ≠ "" := by
  obtain ⟨⟨⟨tc, l, a⟩, m, u⟩, hrow, rfl⟩ := List.mem_map.1 hfk
  obtain ⟨rfl, rfl, htc, key, hkey, hreferenced, hpairs⟩ := hS.row_eq hrow
  obtain ⟨htable, rfl⟩ := (onColumn_select m m u hpublic htc).1 hon
  have hpair : (c.columnName, u.2) ∈ key.pairs := by
    rw [hpairs]
    exact List.mem_singleton_self _
  refine ⟨u.1, ⟨m, hkey.1, htable, key, hkey.2.2, hreferenced, hpair⟩, rfl, ?_⟩
  obtain ⟨hu, -⟩ := used_public hkey hpair
  obtain ⟨c', hc', htable', -⟩ := S.used_column m hkey.1 _ hu
  have hname := S.table_ne_empty c' hc'
  rwa [htable', hreferenced] at hname

/-- With simple keys the record made of a column and its partner describes the
column. -/
theorem SimpleKeys.describes {S : Catalog} (hS : SimpleKeys S) {c : ColumnInfo}
    (hc : c ∈ S.publicColumns) :
    Describes S c (recordOf (c, (partners S c).head?)) := by
  obtain ⟨-, hpublic⟩ := mem_publicColumns.1 hc
  cases hpartners : partners S c with
  | nil =>
    have hnone : ¬ ∃ t a, S.References c t a := by
      rintro ⟨t, b, hrefers⟩
      obtain ⟨fk, hfk, hon⟩ := partner_of_references hpublic hrefers
      exact List.filter_eq_nil_iff.1 hpartners fk hfk hon
    exact ⟨rfl, rfl, rfl, by simpa [recordOf] using hnone, by simp [recordOf], fun _ => hnone⟩
  | cons fk more =>
    have hfk : fk ∈ partners S c := by simp [hpartners]
    obtain ⟨hmem, hon⟩ := List.mem_filter.1 hfk
    obtain ⟨t, hrefers, hname, hne⟩ := hS.references_of_partner hpublic hmem hon
    have hreferences : (recordOf (c, some fk)).references =
        some (t.tableName ++ "." ++ fk.foreignColumn) := by
      rw [hname] at hne ⊢
      exact if_neg hne
    refine ⟨rfl, rfl, rfl, ⟨fun _ => ⟨_, _, hrefers⟩, fun _ => rfl⟩, ?_, ?_⟩
    · intro s hs
      exact ⟨t, fk.foreignColumn, hrefers, Option.some.inj (hs.symm.trans hreferences)⟩
    · intro hnone
      rw [List.head?_cons, hreferences] at hnone
      cases hnone

/-! ## One partner for a column makes the keys simple -/

/-- Two rows joined of one key column are the same. -/
theorem OnePartner.same {S : Catalog} (h : OnePartner S) {k l m n : Constraint}
    {key key' : ForeignKey} {a : String} {u v : Relation × String}
    (hk : PublicKey S k key) (hl : PublicKey S l key') (htable : k.table = l.table)
    (hrow : ((k, k, a), m, u) ∈ S.fkJoin) (hrow' : ((l, l, a), n, v) ∈ S.fkJoin) :
    k = l ∧ m = n ∧ u = v := by
  obtain ⟨-, ⟨-, ha, -, -⟩, -⟩ := mem_fkJoin.1 hrow
  obtain ⟨c, hc, hctable, rfl⟩ := S.key_column k hk.1 a ha
  have hpublic : c.table.tableSchema = "public" := by rw [hctable, hk.2.1]
  have hon := (onColumn_select k m u hpublic hk.2.1).2 ⟨hctable.symm, rfl⟩
  have hon' := (onColumn_select l n v hpublic hl.2.1).2
    ⟨htable.symm.trans hctable.symm, rfl⟩
  have heq := (length_partners_le_one_iff S c).1 (h c (mem_publicColumns.2 ⟨hc, hpublic⟩))
    _ hrow _ hrow' hon hon'
  simp only [Prod.mk.injEq] at heq
  exact ⟨heq.1.1, heq.2⟩

/-- The row joined of a pair of a foreign key. -/
theorem pair_row {S : Catalog} {k : Constraint} {key : ForeignKey}
    (hk : PublicKey S k key) {a a' b : String} (ha : a ∈ k.keyColumns)
    (hpair : (a', b) ∈ key.pairs) : ((k, k, a), k, key.referenced, b) ∈ S.fkJoin := by
  obtain ⟨hu, hpublic⟩ := used_public hk hpair
  exact mem_fkJoin_of_name hk ha hk.1 rfl hu hpublic

theorem simpleKeys_of_onePartner {S : Catalog} (h : OnePartner S) : SimpleKeys S where
  single k key hk := by
    have hnodup := key.referenced_nodup
    cases hpairs : key.pairs with
    | nil => exact absurd hpairs key.pairs_ne_nil
    | cons first more =>
      cases more with
      | nil => rfl
      | cons second more =>
        have hfirst : (first.1, first.2) ∈ key.pairs := by simp [hpairs]
        have hsecond : (second.1, second.2) ∈ key.pairs := by simp [hpairs]
        have ha : first.1 ∈ k.keyColumns := (mem_keyColumns hk.2.2 _).2 ⟨_, hfirst⟩
        obtain ⟨-, -, hsame⟩ := h.same hk hk rfl (pair_row hk ha hfirst) (pair_row hk ha hsecond)
        have hcolumn : first.2 = second.2 := (Prod.mk.inj hsame).2
        rw [hpairs] at hnodup
        simp [hcolumn] at hnodup
  disjoint k key l key' hk hl htable a ha ha' := by
    obtain ⟨b, hpair⟩ := (mem_keyColumns hk.2.2 a).1 ha
    obtain ⟨b', hpair'⟩ := (mem_keyColumns hl.2.2 a).1 ha'
    exact (h.same hk hl htable (pair_row hk ha hpair) (pair_row hl ha' hpair')).1
  named k key hk l hl hname := by
    rintro ⟨u, hu, hpublic⟩
    obtain ⟨⟨a, b⟩, hpair⟩ := List.exists_mem_of_ne_nil _ key.pairs_ne_nil
    have ha : a ∈ k.keyColumns := (mem_keyColumns hk.2.2 a).2 ⟨b, hpair⟩
    have hrow := mem_fkJoin_of_name hk ha hl hname hu hpublic
    exact (h.same hk hk rfl hrow (pair_row hk ha hpair)).2.1

/-! ## The exact condition -/

/-- **Introspection is exact exactly for simple keys.** -/
theorem introspection_exact_iff (S : Catalog) (record : RecordDict)
    (driver : String → Except ε QueryResult) (rows : List (ColumnInfo × Option FkRow))
    (hrows : S.SchemaRows rows) (hdriver : driver schemaQuery = .ok (schemaResult rows)) :
    Exact S (PostgresConnector.fetchSchema record driver) ↔ SimpleKeys S := by
  rw [fetchSchema_eq record hdriver]
  constructor
  · rintro ⟨cols, records, hcols, hrecords, hall⟩
    obtain rfl := Except.ok.inj hrecords
    have hlength : (leftJoin onColumn S.publicColumns (S.fkJoin.map FkJoin.select)).length =
        S.publicColumns.length := by
      rw [← hrows.perm.length_eq, ← hcols.perm.length_eq, hall.length_eq, List.length_map]
    exact simpleKeys_of_onePartner (length_leftJoin_eq_iff.1 hlength)
  · intro hS
    have hjoined := leftJoin_eq_map hS.onePartner
    unfold Catalog.SchemaRows at hrows
    rw [hjoined] at hrows
    obtain ⟨cols, hcols, rfl⟩ := hrows.of_map (g := Prod.fst) fun _ => rfl
    refine ⟨cols, _, hcols, rfl, ?_⟩
    rw [List.map_map, List.forall₂_map_right_iff, List.forall₂_same]
    intro c hc
    exact hS.describes (hcols.perm.mem_iff.1 hc)

instance (x y : ColumnInfo) : Decidable (InOrder x y) := by
  unfold InOrder
  infer_instance

/-- Two tables of the seed schema with the key between them. -/
def offeringsCatalog : Catalog where
  columns := [
    ⟨⟨"public", "course_offerings"⟩, "id", "integer", 1⟩,
    ⟨⟨"public", "course_offerings"⟩, "teacher_id", "integer", 2⟩,
    ⟨⟨"public", "teachers"⟩, "id", "integer", 1⟩]
  constraints := [
    ⟨"course_offerings_teacher_id_fkey", ⟨"public", "course_offerings"⟩,
      .foreignKey ⟨⟨"public", "teachers"⟩, [("teacher_id", "id")], by decide, by decide⟩⟩]
  column_unique := by decide
  position_unique := by decide
  name_unique := by decide
  key_column := by decide
  used_column := by decide
  within := by decide
  table_ne_empty := by decide

/-- The rows of the query in the order of the columns. -/
def joinedRows (S : Catalog) : List (ColumnInfo × Option FkRow) :=
  leftJoin onColumn S.publicColumns (S.fkJoin.map FkJoin.select)

theorem offerings_simple : SimpleKeys offeringsCatalog where
  single k key hk := by
    obtain ⟨hmem, -, hkey⟩ := hk
    obtain rfl := List.mem_singleton.1 hmem
    obtain rfl := Option.some.inj hkey
    rfl
  disjoint k key l key' hk hl _ a _ _ :=
    (List.mem_singleton.1 hk.1).trans (List.mem_singleton.1 hl.1).symm
  named k key hk l hl _ _ := (List.mem_singleton.1 hl).trans (List.mem_singleton.1 hk.1).symm

theorem introspection_exact_iff_offerings :
    Exact (ε := Unit) offeringsCatalog (PostgresConnector.fetchSchema .lastWins
      fun _ => .ok (schemaResult (joinedRows offeringsCatalog))) := by
  have hrows : offeringsCatalog.SchemaRows (joinedRows offeringsCatalog) :=
    ⟨List.Perm.refl _, by decide +kernel⟩
  exact (introspection_exact_iff offeringsCatalog .lastWins _ _ hrows rfl).2 offerings_simple

/-- A key of two columns that a foreign key refers to. -/
def sectionsCatalog : Catalog where
  columns := [
    ⟨⟨"public", "enrollments"⟩, "course_id", "integer", 1⟩,
    ⟨⟨"public", "enrollments"⟩, "term", "text", 2⟩,
    ⟨⟨"public", "sections"⟩, "course_id", "integer", 1⟩,
    ⟨⟨"public", "sections"⟩, "term", "text", 2⟩]
  constraints := [
    ⟨"sections_pkey", ⟨"public", "sections"⟩, .primaryKey ["course_id", "term"]⟩,
    ⟨"enrollments_fkey", ⟨"public", "enrollments"⟩,
      .foreignKey ⟨⟨"public", "sections"⟩, [("course_id", "course_id"), ("term", "term")],
        by decide, by decide⟩⟩]
  column_unique := by decide
  position_unique := by decide
  name_unique := by decide
  key_column := by decide
  used_column := by decide
  within := by decide
  table_ne_empty := by decide

/-- Four columns, six records: both columns of the key are reported twice. -/
theorem composite_key_repeated :
    sectionsCatalog.SchemaRows (joinedRows sectionsCatalog) ∧
      ¬ Exact (ε := Unit) sectionsCatalog (PostgresConnector.fetchSchema .lastWins
        fun _ => .ok (schemaResult (joinedRows sectionsCatalog))) := by
  refine ⟨⟨List.Perm.refl _, by decide +kernel⟩, ?_⟩
  rw [fetchSchema_eq .lastWins rfl]
  rintro ⟨cols, records, hcols, hrecords, hall⟩
  obtain rfl := Except.ok.inj hrecords
  have hlength : (joinedRows sectionsCatalog).length = sectionsCatalog.publicColumns.length := by
    rw [← hcols.perm.length_eq, hall.length_eq, List.length_map]
  exact absurd hlength (by decide +kernel)

end UniversityQA.Guarantees
