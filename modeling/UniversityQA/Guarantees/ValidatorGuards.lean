import UniversityQA.Agent.GuardText

/-!
# The exact behaviour of `validate_sql`

The guards are made of string operations; what they are for is said of tokens,
the maximal runs of word characters.

* `opening_keyword_iff`: when guard 1 rejects exactly the texts whose first
  token is no opening keyword;
* `guards_accept_iff`: what guards 2 to 4 let through, for every text that has
  passed guard 1.
-/

namespace UniversityQA.Guarantees

open UniversityQA.Py UniversityQA.Agent WordSearch

/-! ## Guard 1 -/

/-- The token is the keyword in some letter case. -/
def IsKeyword (keyword : String) (token : List Char) : Prop :=
  token.map Char.toLower = keyword.toList.map Char.toLower

def OpensWithKeyword (s : List Char) : Prop :=
  IsKeyword "SELECT" (firstToken s) ∨ IsKeyword "WITH" (firstToken s)

theorem ne_of_head? {s t : String} (h : s.toList.head? ≠ t.toList.head?) : s ≠ t := by
  rintro rfl
  exact h rfl

/-- No other guard has the message of the first. -/
theorem opening_rejected_iff (sql : String) :
    validateSql sql = (false, some "Only SELECT queries are permitted") ↔
      opensWithSelect sql = false := by
  have hkeyword (keyword : String) : "Statement type '" ++ keyword ++ "' is not allowed" ≠
      "Only SELECT queries are permitted" := ne_of_head? (by simp)
  have hschema (schema : String) : "Access to '" ++ schema ++ "' is not allowed" ≠
      "Only SELECT queries are permitted" := ne_of_head? (by simp)
  unfold validateSql
  cases opensWithSelect sql <;> cases isStacked sql <;>
    cases searchWords blockedKeywords sql <;> cases searchWords blockedSchemas sql <;>
    simp [hkeyword, hschema]

theorem startsLikeKeyword_of_opens {s : List Char} (h : OpensWithKeyword s) :
    StartsLikeKeyword (firstToken s) := by
  rcases h with h | h
  · have hupper := flatMap_upperChar (by decide) h
    exact .inl (by rw [hupper]; decide)
  · have hupper := flatMap_upperChar (by decide) h
    exact .inr (by rw [hupper]; decide)

/-- The inputs on which guard 1 goes by the first token.  Behind a plain opening
that means that what starts like a keyword is one, and else that there is no
keyword to be overlooked. -/
def TokenDecides (s : List Char) : Prop :=
  (OpensPlainly s → StartsLikeKeyword (firstToken s) → OpensWithKeyword s) ∧
    (¬ OpensPlainly s → ¬ OpensWithKeyword s)

/-- **The opening keyword.** -/
theorem opening_keyword_iff (sql : String) :
    (validateSql sql = (false, some "Only SELECT queries are permitted") ↔
      ¬ OpensWithKeyword sql.toList) ↔ TokenDecides sql.toList := by
  rw [opening_rejected_iff, ← Bool.not_eq_true, opensWithSelect_iff, not_iff_not]
  by_cases hp : OpensPlainly sql.toList
  · constructor
    · intro h
      exact ⟨fun _ hs => h.mp ⟨hp, hs⟩, fun hnp => absurd hp hnp⟩
    · intro h
      exact ⟨fun hs => h.1 hp hs.2, fun hk => ⟨hp, startsLikeKeyword_of_opens hk⟩⟩
  · constructor
    · intro h
      exact ⟨fun hp' => absurd hp' hp, fun _ hk => hp (h.mpr hk).1⟩
    · intro h
      exact ⟨fun hs => absurd hs.1 hp, fun hk => absurd hk (h.2 hp)⟩

/-- A longer word passes for the keyword, and a keyword behind a space after
the parenthesis does not. -/
theorem opening_token_ignored :
    ¬ (validateSql "SELECTED 1" = (false, some "Only SELECT queries are permitted") ↔
        ¬ OpensWithKeyword "SELECTED 1".toList) ∧
      ¬ (validateSql "( SELECT 1)" = (false, some "Only SELECT queries are permitted") ↔
        ¬ OpensWithKeyword "( SELECT 1)".toList) := by
  unfold OpensWithKeyword IsKeyword
  decide +kernel

/-! ## Guards 2 to 4 -/

/-- A word of the text is a blocked one. -/
def HasBlockedWord (s : List Char) : Prop :=
  ∃ w, IsWordOf isWordChar w s ∧ ∃ word ∈ blockedKeywords ++ blockedSchemas, Spells word w

theorem hasBlockedWord_iff (sql : String) : HasBlockedWord sql.toList ↔
    ¬ (searchWords blockedKeywords sql = none ∧ searchWords blockedSchemas sql = none) := by
  rw [Classical.not_and_iff_not_or_not, ← Ne, ← Ne, ← Option.isSome_iff_ne_none,
    ← Option.isSome_iff_ne_none, searchWords_isSome_iff wordAlts_blockedKeywords,
    searchWords_isSome_iff wordAlts_blockedSchemas, ← exists_or]
  refine exists_congr fun w => ?_
  rw [← and_or_left]
  refine and_congr_right fun _ => ?_
  simp only [List.mem_append, or_and_right, exists_or]

/-- **Guards 2 to 4.** -/
theorem guards_accept_iff (sql : String) (h : opensWithSelect sql = true) :
    (validateSql sql = (true, none) ↔ SingleStatement sql.toList ∧ ¬ HasBlockedWord sql.toList) ∧
      (validateSql sql ≠ (true, none) → ∃ message, validateSql sql = (false, some message)) := by
  refine ⟨?_, validateSql_rejects⟩
  rw [validateSql_accepts_iff, isStacked_eq_false_iff, hasBlockedWord_iff, not_not]
  simp [h]

/-- A query with two trailing semicolons and a space between them and the end. -/
theorem guards_accept_iff_trailing :
    SingleStatement "SELECT updated_at FROM s;; ".toList ∧
      ¬ HasBlockedWord "SELECT updated_at FROM s;; ".toList :=
  (guards_accept_iff "SELECT updated_at FROM s;; " (by decide +kernel)).1.mp (by decide +kernel)

end UniversityQA.Guarantees
