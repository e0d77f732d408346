import UniversityQA.Lib.WordSearch
import UniversityQA.Py.Text

/-!
# `validate_sql`

The four guards in front of the database, in the order of the source.  A
pattern `\b(…)\b` with `re.IGNORECASE` is a list of words for
`WordSearch.search`.

* `validateSql_accepts_iff`: what passes is what every guard lets through;
* `validateSql_rejects`: everything else is refused with a message;
* `searchWords_isSome_iff`: a word list is found exactly when one of its words
  is a word of the text, in any letter case.
-/

namespace UniversityQA.Agent

open UniversityQA.Py WordSearch

/-- `_BLOCKED_KEYWORDS`, the alternatives in order. -/
def blockedKeywords : List String :=
  ["DROP", "DELETE", "INSERT", "UPDATE", "ALTER", "CREATE", "TRUNCATE", "REPLACE", "MERGE", "EXEC",
   "EXECUTE"]

/-- `_BLOCKED_SCHEMAS`. -/
def blockedSchemas : List String := ["information_schema", "pg_catalog"]

/-- `re.compile(r"\b(words)\b", re.IGNORECASE).search(text)` and its `group()`. -/
def searchWords (words : List String) (text : String) : Option String :=
  (search isWordChar matchesIgnoreCase (words.map String.toList) text.toList).map String.ofList

/-- Guard 1: the text starts with one of the two opening keywords. -/
def opensWithSelect (sql : String) : Bool :=
  let normalised := upper (lstripChar '(' (strip sql))
  startswith normalised "SELECT" || startswith normalised "WITH"

/-- Guard 2: a semicolon remains once the trailing ones are gone. -/
def isStacked (sql : String) : Bool :=
  let stripped := rstripChar ';' (strip sql)
  stripped.toList.contains ';'

def validateSql (sql : String) : Bool × Option String :=
  if !opensWithSelect sql then (false, some "Only SELECT queries are permitted")
  else if isStacked sql then (false, some "Multiple statements are not allowed")
  else match searchWords blockedKeywords sql with
    | some keyword => (false, some ("Statement type '" ++ keyword ++ "' is not allowed"))
    | none => match searchWords blockedSchemas sql with
      | some schema => (false, some ("Access to '" ++ schema ++ "' is not allowed"))
      | none => (true, none)

/-- **Acceptance.** -/
theorem validateSql_accepts_iff (sql : String) :
    validateSql sql = (true, none) ↔ opensWithSelect sql = true ∧ isStacked sql = false ∧
      searchWords blockedKeywords sql = none ∧ searchWords blockedSchemas sql = none := by
  unfold validateSql
  cases opensWithSelect sql <;> cases isStacked sql <;>
    cases searchWords blockedKeywords sql <;> cases searchWords blockedSchemas sql <;> simp

theorem validateSql_accepts {sql : String} (h : (validateSql sql).1 = true) :
    validateSql sql = (true, none) := by
  rw [validateSql_accepts_iff]
  unfold validateSql at h
  cases ho : opensWithSelect sql <;> cases hs : isStacked sql <;>
    cases hk : searchWords blockedKeywords sql <;> cases hb : searchWords blockedSchemas sql <;>
    simp_all

/-- **Rejection** always comes with a message. -/
theorem validateSql_rejects {sql : String} (h : validateSql sql ≠ (true, none)) :
    ∃ message, validateSql sql = (false, some message) := by
  cases hv : (validateSql sql).1 with
  | true => exact absurd (validateSql_accepts hv) h
  | false =>
    unfold validateSql at hv ⊢
    split
    · exact ⟨_, rfl⟩
    · split
      · exact ⟨_, rfl⟩
      · split
        · exact ⟨_, rfl⟩
        · split <;> simp_all

/-! ## Word lists -/

/-- A word list is checked letter by letter. -/
theorem wordAlts_of_all {isWord : Char → Bool} {alts : List (List Char)}
    (h : alts.all (fun alt => !alt.isEmpty && alt.all fun p => (caseVariants p).all isWord) = true) :
    WordAlts isWord matchesIgnoreCase alts := by
  intro alt halt
  have hletters := List.all_eq_true.mp h alt halt
  rw [Bool.and_eq_true, List.all_eq_true] at hletters
  refine ⟨by simpa using hletters.1, fun p hp c hc => ?_⟩
  exact List.all_eq_true.mp (hletters.2 p hp) c (List.contains_iff_mem.mp hc)

theorem wordAlts_blockedKeywords :
    WordAlts isWordChar matchesIgnoreCase (blockedKeywords.map String.toList) :=
  wordAlts_of_all (by decide +kernel)

theorem wordAlts_blockedSchemas :
    WordAlts isWordChar matchesIgnoreCase (blockedSchemas.map String.toList) :=
  wordAlts_of_all (by decide +kernel)

/-- `w` spells `word` in some letter case, as `re.IGNORECASE` reads it. -/
def Spells (word : String) (w : List Char) : Prop := Matches matchesIgnoreCase word.toList w

theorem searchWords_isSome_iff {words : List String}
    (h : WordAlts isWordChar matchesIgnoreCase (words.map String.toList)) (text : String) :
    (searchWords words text).isSome ↔
      ∃ w, IsWordOf isWordChar w text.toList ∧ ∃ word ∈ words, Spells word w := by
  simp only [searchWords, Option.isSome_map, search_isSome_iff h, List.mem_map,
    exists_exists_and_eq_and, Spells]

/-- A blocked word anywhere in the text is the end of it. -/
theorem validateSql_blocked {sql : String} {word : String} {w : List Char}
    (hmem : word ∈ blockedKeywords ∨ word ∈ blockedSchemas)
    (hw : IsWordOf isWordChar w sql.toList) (hs : Spells word w) :
    validateSql sql ≠ (true, none) := by
  rw [Ne, validateSql_accepts_iff]
  rintro ⟨-, -, hk, hb⟩
  rcases hmem with hmem | hmem
  · have := (searchWords_isSome_iff wordAlts_blockedKeywords sql).mpr ⟨w, hw, word, hmem, hs⟩
    rw [hk] at this
    cases this
  · have := (searchWords_isSome_iff wordAlts_blockedSchemas sql).mpr ⟨w, hw, word, hmem, hs⟩
    rw [hb] at this
    cases this

end UniversityQA.Agent
