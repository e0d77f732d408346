import UniversityQA.Agent.PostgresSql

/-!
# Statements that write

The forms in which a PostgreSQL statement modifies data or the schema, over
tokens, against the guards.

* `Writes.exists_keyword`: every form but one is made by a keyword of the
  list;
* `writing_statement_rejected_iff`: such a statement is refused however it is
  laid out; `SELECT … INTO …` is refused only for its layout, a semicolon or a
  word in it;
* `select_into_accepted`: a plain one passes.
-/

namespace UniversityQA.Guarantees

open UniversityQA.Py UniversityQA.Agent WordSearch PostgresText

/-! ## The grammar -/

/-- What makes a statement write: its keyword, or the `INTO` of a `SELECT`. -/
inductive WrittenBy where
  | keyword
  | selectInto

def writeKeywords : List String :=
  ["INSERT", "UPDATE", "DELETE", "MERGE", "TRUNCATE", "CREATE", "ALTER", "DROP"]

def lparen : Token := .other ['(']
def rparen : Token := .other [')']
def semicolon : Token := .other [';']

/-- Statements that write.  Where the grammar goes on in a way that does not
matter here, any tokens may follow, so these are more than it has. -/
inductive Writes : WrittenBy → List Token → Prop
  | statement {k t rest} : k ∈ writeKeywords → t.IsKeyword k → Writes .keyword (t :: rest)
  | selectInto {select into targets rest} : select.IsKeyword "SELECT" → into.IsKeyword "INTO" →
      Writes .selectInto (select :: targets ++ into :: rest)
  | parenthesised {how body rest} : Writes how body → Writes how (lparen :: body ++ rparen :: rest)
  | cteBody {how w front body rest} : w.IsKeyword "WITH" → Writes how body →
      Writes how (w :: front ++ lparen :: body ++ rparen :: rest)
  | afterCtes {how w ctes main} : w.IsKeyword "WITH" → Writes how main → Writes how (w :: ctes ++ main)
  | terminated {how statement} : Writes how statement → Writes how (statement ++ [semicolon])

/-- A write by keyword has the keyword among its tokens. -/
theorem Writes.exists_keyword {how : WrittenBy} {toks : List Token} (h : Writes how toks)
    (hhow : how = .keyword) : ∃ t ∈ toks, ∃ k ∈ writeKeywords, t.IsKeyword k := by
  induction h with
  | @statement k t rest hk ht => exact ⟨t, List.mem_cons_self .., k, hk, ht⟩
  | selectInto => cases hhow
  | parenthesised _ ih =>
    obtain ⟨t, hmem, hk⟩ := ih hhow
    exact ⟨t, by simp [hmem], hk⟩
  | cteBody _ _ ih =>
    obtain ⟨t, hmem, hk⟩ := ih hhow
    exact ⟨t, by simp [hmem], hk⟩
  | afterCtes _ _ ih =>
    obtain ⟨t, hmem, hk⟩ := ih hhow
    exact ⟨t, by simp [hmem], hk⟩
  | terminated _ ih =>
    obtain ⟨t, hmem, hk⟩ := ih hhow
    exact ⟨t, by simp [hmem], hk⟩

/-! ## The guards -/

theorem writeKeywords_blocked {k : String} (h : k ∈ writeKeywords) : k ∈ blockedKeywords := by
  revert k
  decide

theorem writes_keyword_rejected {toks : List Token} {sql : String} (hr : Renders toks sql.toList)
    (hw : Writes .keyword toks) : validateSql sql ≠ (true, none) := by
  obtain ⟨t, ht, k, hk, w, hword, hspelled⟩ := hw.exists_keyword rfl
  exact validateSql_names_blocked hr ht (.inl hword) (.inl (writeKeywords_blocked hk)) hspelled

/-- A word of either list is a word of the text, be it in a comment or a
string. -/
def MentionsBlocked (sql : String) : Prop :=
  ∃ w, IsWordOf isWordChar w sql.toList ∧ ∃ word ∈ blockedKeywords ++ blockedSchemas, Spells word w

theorem mentionsBlocked_iff (sql : String) : MentionsBlocked sql ↔
    (searchWords blockedKeywords sql).isSome ∨ (searchWords blockedSchemas sql).isSome := by
  rw [searchWords_isSome_iff wordAlts_blockedKeywords, searchWords_isSome_iff wordAlts_blockedSchemas]
  constructor
  · rintro ⟨w, hw, word, hmem, hs⟩
    rcases List.mem_append.mp hmem with hmem | hmem
    · exact .inl ⟨w, hw, word, hmem, hs⟩
    · exact .inr ⟨w, hw, word, hmem, hs⟩
  · rintro (⟨w, hw, word, hmem, hs⟩ | ⟨w, hw, word, hmem, hs⟩)
    · exact ⟨w, hw, word, List.mem_append_left _ hmem, hs⟩
    · exact ⟨w, hw, word, List.mem_append_right _ hmem, hs⟩

theorem exists_message_iff (sql : String) :
    (∃ message, validateSql sql = (false, some message)) ↔ validateSql sql ≠ (true, none) := by
  constructor
  · rintro ⟨message, h⟩ hok
    rw [h] at hok
    cases hok
  · exact validateSql_rejects

/-! ## The opening -/

/-- A `SELECT` or `WITH` behind leading parentheses. -/
theorem Writes.selectInto_opens {how : WrittenBy} {toks : List Token} (h : Writes how toks)
    (hhow : how = .selectInto) : ∃ k t rest, toks = List.replicate k lparen ++ t :: rest ∧
      (t.IsKeyword "SELECT" ∨ t.IsKeyword "WITH") := by
  induction h with
  | statement => cases hhow
  | selectInto hselect _ => exact ⟨0, _, _, rfl, .inl hselect⟩
  | @parenthesised how body after _ ih =>
    obtain ⟨k, t, rest, rfl, ht⟩ := ih hhow
    exact ⟨k + 1, t, rest ++ rparen :: after, by simp [List.replicate_succ], ht⟩
  | cteBody hwith _ _ => exact ⟨0, _, _, rfl, .inr hwith⟩
  | afterCtes hwith _ _ => exact ⟨0, _, _, rfl, .inr hwith⟩
  | terminated _ ih =>
    obtain ⟨k, t, rest, rfl, ht⟩ := ih hhow
    exact ⟨k, t, rest ++ [semicolon], by simp, ht⟩

/-- Nothing stands between the leading parentheses and the token behind
them. -/
def Adjacent : List (List Char × Token) → Prop
  | (_, t) :: (sep, t') :: items => t = lparen → sep = [] ∧ Adjacent ((sep, t') :: items)
  | _ => True

/-- The layout opens with whitespace and then at once with the parentheses
and the first keyword. -/
def OpensPlainly : List (List Char × Token) → Prop
  | [] => True
  | (sep, t) :: items => (∀ c ∈ sep, space c = true) ∧ Adjacent ((sep, t) :: items)

/-- The characters from the first token on. -/
theorem adjacent_cases {items : List (List Char × Token)} {last : List Char} {k : Nat} {w : List Char}
    {rest : List Token} {sep : List Char} {t : Token} (h : WellLaid ((sep, t) :: items) last)
    (htoks : t :: items.map Prod.snd = List.replicate k lparen ++ .word w :: rest) :
    (Adjacent ((sep, t) :: items) ∧ ∃ more, t.text ++ layout items last =
      List.replicate k '(' ++ (w ++ more)) ∨
    (¬ Adjacent ((sep, t) :: items) ∧ ∃ j c more, t.text ++ layout items last =
      List.replicate j '(' ++ c :: more ∧ 0 < j ∧ ((c = '-' ∨ c = '/') ∨ space c = true)) := by
  induction k generalizing sep t items with
  | zero =>
    obtain ⟨rfl, _⟩ := List.cons.inj htoks
    refine .inl ⟨?_, layout items last, rfl⟩
    cases items with
    | nil => trivial
    | cons item items => exact fun hparen => by cases hparen
  | succ k ih =>
    obtain ⟨rfl, hitems⟩ := List.cons.inj htoks
    cases items with
    | nil => simp at hitems
    | cons item items =>
      obtain ⟨sep', t'⟩ := item
      obtain ⟨_, _, _, hlaid⟩ := h
      have htext : lparen.text ++ layout ((sep', t') :: items) last =
          '(' :: (sep' ++ (t'.text ++ layout items last)) := by
        rw [layout, List.append_assoc]
        rfl
      rw [htext]
      cases sep' with
      | nil =>
        rcases ih hlaid hitems with ⟨hadjacent, more, hmore⟩ | ⟨hapart, j, c, more, hmore, _, hc⟩
        · refine .inl ⟨fun _ => ⟨rfl, hadjacent⟩, more, ?_⟩
          rw [List.nil_append, hmore]
          rfl
        · refine .inr ⟨fun hadjacent => hapart (hadjacent rfl).2, j + 1, c, more, ?_,
            Nat.succ_pos j, hc⟩
          rw [List.nil_append, hmore]
          rfl
      | cons c cs =>
        refine .inr ⟨fun hadjacent => ?_, 1, c, cs ++ (t'.text ++ layout items last), rfl,
          Nat.one_pos, separates_head hlaid.1⟩
        cases (hadjacent rfl).1

theorem opens_iff {items : List (List Char × Token)} {last : List Char} {sql : String}
    (hsql : sql.toList = layout items last) (hlaid : WellLaid items last)
    (hw : Writes .selectInto (items.map Prod.snd)) :
    opensWithSelect sql = true ↔ OpensPlainly items := by
  obtain ⟨k, t, rest, htoks, hkeyword⟩ := hw.selectInto_opens rfl
  obtain ⟨word, hword, w, rfl, hspelled⟩ :
      ∃ word, (word = "SELECT" ∨ word = "WITH") ∧ t.IsKeyword word := by
    rcases hkeyword with ht | ht
    · exact ⟨_, .inl rfl, ht⟩
    · exact ⟨_, .inr rfl, ht⟩
  cases items with
  | nil => simp at htoks
  | cons item items =>
    obtain ⟨sep, t⟩ := item
    rw [layout, List.append_assoc] at hsql
    rcases separates_cases hlaid.1 with hblank | ⟨blank, c, more, rfl, hblank, hc⟩
    · rcases adjacent_cases hlaid htoks with ⟨hadjacent, more, hmore⟩ |
        ⟨hapart, j, c, more, hmore, hj, hc⟩
      · rw [hmore] at hsql
        exact iff_of_true (opensWithSelect_of_keyword hsql hblank hword hspelled) ⟨hblank, hadjacent⟩
      · rw [hmore] at hsql
        have hfalse := opensWithSelect_of_other hsql hblank (hc.imp_right fun hspace => ⟨hspace, hj⟩)
        exact iff_of_false (by simp [hfalse]) fun hplain => hapart hplain.2
    · have hcomment : sql.toList = blank ++ (List.replicate 0 '(' ++
          c :: (more ++ (t.text ++ layout items last))) := by
        rw [hsql, List.append_assoc]
        rfl
      have hfalse := opensWithSelect_of_other hcomment hblank (.inl hc)
      refine iff_of_false (by simp [hfalse]) fun hplain => ?_
      have hspace := hplain.1 c (by simp)
      rcases hc with rfl | rfl <;> cases hspace

/-- **Writing statements.**  One that is made by a keyword is refused; one that
only selects into a table is not, unless its text runs into a guard. -/
theorem writing_statement_rejected_iff {items : List (List Char × Token)} {last : List Char}
    {sql : String} {how : WrittenBy} (hsql : sql.toList = layout items last)
    (hlaid : WellLaid items last) (hw : Writes how (items.map Prod.snd)) :
    (∃ message, validateSql sql = (false, some message)) ↔
      Writes .keyword (items.map Prod.snd) ∨ ¬ OpensPlainly items ∨ isStacked sql = true ∨
        MentionsBlocked sql := by
  have hr : Renders (items.map Prod.snd) sql.toList := by
    rw [hsql]
    exact renders_layout hlaid
  rw [exists_message_iff]
  by_cases hkeyword : Writes .keyword (items.map Prod.snd)
  · exact iff_of_true (writes_keyword_rejected hr hkeyword) (.inl hkeyword)
  · have hinto : Writes .selectInto (items.map Prod.snd) := by
      cases how with
      | keyword => exact absurd hw hkeyword
      | selectInto => exact hw
    rw [Ne, validateSql_accepts_iff, opens_iff hsql hlaid hinto, mentionsBlocked_iff]
    simp only [hkeyword, false_or]
    cases isStacked sql <;> cases searchWords blockedKeywords sql <;>
      cases searchWords blockedSchemas sql <;> simp

/-! ## Two statements -/

def keyword (k : String) : Token := .word k.toList

/-- `SELECT * INTO backup FROM students`. -/
def copiesStudents : List (List Char × Token) :=
  [([], keyword "SELECT"), ([' '], .other ['*']), ([' '], keyword "INTO"), ([' '], keyword "backup"),
    ([' '], keyword "FROM"), ([' '], keyword "students")]

/-- A table is created and filled. -/
theorem select_into_accepted :
    "SELECT * INTO backup FROM students".toList = layout copiesStudents [] ∧
      WellLaid copiesStudents [] ∧ Writes .selectInto (copiesStudents.map Prod.snd) ∧
      validateSql "SELECT * INTO backup FROM students" = (true, none) := by
  have hwrites : Writes .selectInto (keyword "SELECT" :: [.other ['*']] ++
      keyword "INTO" :: [keyword "backup", keyword "FROM", keyword "students"]) :=
    .selectInto ⟨_, rfl, rfl⟩ ⟨_, rfl, rfl⟩
  exact ⟨by decide +kernel, by decide +kernel, hwrites, by decide +kernel⟩

/-- `with gone as (/* all */ delete from students) select 1;`. -/
def deletesStudents : List (List Char × Token) :=
  [([], keyword "with"), ([' '], keyword "gone"), ([' '], keyword "as"), ([' '], lparen),
    ("/* all */ ".toList, keyword "delete"), ([' '], keyword "from"), ([' '], keyword "students"),
    ([], rparen), ([' '], keyword "select"), ([' '], .other ['1']), ([], semicolon)]

theorem writing_statement_rejected_iff_delete :
    ∃ message, validateSql "with gone as (/* all */ delete from students) select 1;" =
      (false, some message) := by
  have hdelete : Writes .keyword [keyword "delete", keyword "from", keyword "students"] :=
    .statement (by decide : "DELETE" ∈ writeKeywords) ⟨_, rfl, by decide⟩
  have hcte : Writes .keyword (keyword "with" :: [keyword "gone", keyword "as"] ++
      lparen :: [keyword "delete", keyword "from", keyword "students"] ++
      rparen :: [keyword "select", .other ['1'], semicolon]) :=
    .cteBody ⟨_, rfl, by decide⟩ hdelete
  have hwrites : Writes .keyword (deletesStudents.map Prod.snd) := hcte
  have hsql : "with gone as (/* all */ delete from students) select 1;".toList =
      layout deletesStudents [] := by decide +kernel
  have hlaid : WellLaid deletesStudents [] := by decide +kernel
  exact (writing_statement_rejected_iff hsql hlaid hwrites).mpr (.inl hwrites)

end UniversityQA.Guarantees
