import UniversityQA.Agent.PostgresSql

/-!
# Names of catalog relations

PostgreSQL looks for an unqualified name in `pg_catalog` before anywhere else.
The schema guard searches for the names of the schemas.

* `schema_not_blocked`: no name in an accepted text is qualified by a catalog
  schema, plain or quoted, in any letter case;
* `no_catalog_name_iff`: what is left are the unqualified names of `pg_catalog`;
* `catalog_read`: one of them.
-/

namespace UniversityQA.Guarantees

open UniversityQA.Py UniversityQA.Agent PostgresText

/-! ## Name resolution -/

/-- The relations of the two catalog schemas, by name. -/
structure Catalog where
  pgCatalog : List Char → Prop
  informationSchema : List Char → Prop

/-- A relation name as it is written. -/
inductive RelationName where
  | plain (relation : Token)
  | qualified (schema relation : Token)
  | inDatabase (database schema relation : Token)

namespace RelationName

def dot : Token := .other ['.']

def tokens : RelationName → List Token
  | plain relation => [relation]
  | qualified schema relation => [schema, dot, relation]
  | inDatabase database schema relation => [database, dot, schema, dot, relation]

/-- The name stands among the tokens. -/
def OccursIn (n : RelationName) (toks : List Token) : Prop :=
  ∃ pre post, toks = pre ++ n.tokens ++ post

def schema : RelationName → Option Token
  | plain _ => none
  | qualified schema _ => some schema
  | inDatabase _ schema _ => some schema

def relation : RelationName → Token
  | plain relation => relation
  | qualified _ relation => relation
  | inDatabase _ _ relation => relation

end RelationName

/-- The token names a relation of `pg_catalog`, when it stands alone. -/
def Catalog.HasPlain (cat : Catalog) (t : Token) : Prop := ∃ n, t.ident = some n ∧ cat.pgCatalog n

/-- The token names the schema. -/
def NamesSchema (schema : String) (t : Token) : Prop := t.ident = some schema.toList

/-- The name denotes a relation of a catalog schema.  `pg_catalog` is searched
first for a name without a schema, and `information_schema` not at all. -/
def Catalog.Denotes (cat : Catalog) (n : RelationName) : Prop :=
  match n.schema with
  | none => cat.HasPlain n.relation
  | some schema =>
    (NamesSchema "pg_catalog" schema ∧ cat.HasPlain n.relation) ∨
      (NamesSchema "information_schema" schema ∧
        ∃ m, n.relation.ident = some m ∧ cat.informationSchema m)

/-! ## The guard -/

/-- **Schemas.** -/
theorem schema_not_blocked {sql : String} (haccepted : validateSql sql = (true, none))
    {toks : List Token} (hr : Renders toks sql.toList) {t : Token} (ht : t ∈ toks) {schema : String}
    (hschema : schema ∈ blockedSchemas) : ¬ NamesSchema schema t := by
  intro hnames
  have hlower : ∀ schema ∈ blockedSchemas, schema.toList.map Char.toLower = schema.toList := by
    decide +kernel
  cases t with
  | word w =>
    have hw : w.map Char.toLower = schema.toList := Option.some.inj hnames
    refine validateSql_names_blocked hr ht (.inl rfl) (.inr hschema) ?_ haccepted
    rw [hw, hlower schema hschema]
  | quoted name =>
    have hname : name = schema.toList := Option.some.inj hnames
    refine validateSql_names_blocked hr ht (.inr rfl) (.inr hschema) ?_ haccepted
    rw [hname]
  | other text => cases hnames

theorem schema_mem_tokens {n : RelationName} {schema : Token} (h : n.schema = some schema) :
    schema ∈ n.tokens := by
  cases n with
  | plain relation => cases h
  | qualified schema' relation =>
    cases h
    simp [RelationName.tokens]
  | inDatabase database schema' relation =>
    cases h
    simp [RelationName.tokens]

/-- **Catalog names.**  `names` are the relation names of the text, among all
that could be one. -/
theorem no_catalog_name_iff (cat : Catalog) {sql : String}
    (haccepted : validateSql sql = (true, none)) {toks : List Token} (hr : Renders toks sql.toList)
    {names : RelationName → Prop} (hnames : ∀ n, names n → n.OccursIn toks) :
    (∀ n, names n → ¬ cat.Denotes n) ↔
      ∀ relation, names (.plain relation) → ¬ cat.HasPlain relation := by
  constructor
  · intro h relation hname
    exact h (.plain relation) hname
  · intro h n hname hdenotes
    unfold Catalog.Denotes at hdenotes
    cases hs : n.schema with
    | none =>
      cases n with
      | plain relation => exact h relation hname hdenotes
      | qualified schema relation => cases hs
      | inDatabase database schema relation => cases hs
    | some schema =>
      obtain ⟨pre, post, htoks⟩ := hnames n hname
      have hmem : schema ∈ toks := by
        rw [htoks]
        simp [schema_mem_tokens hs]
      rw [hs] at hdenotes
      rcases hdenotes with ⟨hpg, _⟩ | ⟨hinfo, _⟩
      · exact schema_not_blocked haccepted hr hmem (by decide) hpg
      · exact schema_not_blocked haccepted hr hmem (by decide) hinfo

/-! ## Two queries -/

/-- Some of the catalog. -/
def someRelations : Catalog where
  pgCatalog n := n ∈ ["pg_tables", "pg_class", "pg_user"].map String.toList
  informationSchema n := n ∈ ["tables", "columns"].map String.toList

def pgTables : Token := .word "pg_tables".toList

/-- `SELECT * FROM pg_tables`. -/
def listsTables : List (List Char × Token) :=
  [([], .word "SELECT".toList), ([' '], .other ['*']), ([' '], .word "FROM".toList),
    ([' '], pgTables)]

/-- The list of all tables is read. -/
theorem catalog_read :
    validateSql "SELECT * FROM pg_tables" = (true, none) ∧
      Renders (listsTables.map Prod.snd) "SELECT * FROM pg_tables".toList ∧
      (RelationName.plain pgTables).OccursIn (listsTables.map Prod.snd) ∧
      someRelations.Denotes (.plain pgTables) := by
  have hlaid : WellLaid listsTables [] := by decide +kernel
  have htext : layout listsTables [] = "SELECT * FROM pg_tables".toList := by decide +kernel
  have hrenders := renders_layout hlaid
  rw [htext] at hrenders
  have hfolded : pgTables.ident = some "pg_tables".toList := by decide +kernel
  have hoccurs : (RelationName.plain pgTables).OccursIn (listsTables.map Prod.snd) :=
    ⟨(listsTables.map Prod.snd).take 3, [], rfl⟩
  have hlisted : someRelations.pgCatalog "pg_tables".toList := List.mem_map_of_mem (by simp)
  exact ⟨by decide +kernel, hrenders, hoccurs, _, hfolded, hlisted⟩

/-- `"Registry".pg_class`. -/
def registered : RelationName := .qualified (.quoted "Registry".toList) (.word "pg_class".toList)

/-- `select 1 from "Registry".pg_class`. -/
def readsRegistry : List (List Char × Token) :=
  [([], .word "select".toList), ([' '], .other ['1']), ([' '], .word "from".toList),
    ([' '], .quoted "Registry".toList), ([], RelationName.dot), ([], .word "pg_class".toList)]

theorem no_catalog_name_iff_registry : ¬ someRelations.Denotes registered := by
  have haccepted : validateSql "select 1 from \"Registry\".pg_class" = (true, none) := by
    decide +kernel
  have hlaid : WellLaid readsRegistry [] := by decide +kernel
  have htext : layout readsRegistry [] = "select 1 from \"Registry\".pg_class".toList := by
    decide +kernel
  have hrenders := renders_layout hlaid
  rw [htext] at hrenders
  have hoccurs : ∀ n, n = registered → n.OccursIn (readsRegistry.map Prod.snd) := by
    rintro n rfl
    exact ⟨(readsRegistry.map Prod.snd).take 3, [], rfl⟩
  refine (no_catalog_name_iff someRelations haccepted hrenders hoccurs).mpr ?_ registered rfl
  intro relation hplain
  cases hplain

end UniversityQA.Guarantees
