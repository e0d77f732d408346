import UniversityQA.Agent.GuardText
import UniversityQA.Lib.PostgresText

/-!
# `validate_sql` on PostgreSQL texts

The word lists are searched in the characters of a text, not in its tokens.
An identifier or keyword of the text cannot escape them all the same.

* `opensWithSelect_of_keyword`, `opensWithSelect_of_other`: guard 1 by what
  stands between the start of a text and its first keyword;
* `validateSql_names_blocked`: a text with a blocked word for an identifier or
  a keyword is refused, however it is laid out.
-/

namespace UniversityQA.Agent

open UniversityQA.Py WordSearch PostgresText

theorem identChar_of_isWordChar (c : Char) (h : isWordChar c = true) : identChar c = true := by
  simp only [isWordChar, isalnum, Bool.or_eq_true, Bool.and_eq_true] at h
  simp only [identChar, Bool.or_eq_true]
  rcases h with (h | h) | h
  · exact .inl (.inl (.inl h))
  · exact .inr h.1
  · exact .inl (.inl (.inr h))

/-- Equal up to ASCII case. -/
theorem spells_of_toLower {word : String} {w : List Char}
    (h : w.map Char.toLower = word.toList.map Char.toLower) : Spells word w := by
  unfold Spells Matches
  generalize word.toList = ps at h
  induction ps generalizing w with
  | nil =>
    rw [List.map_nil, List.map_eq_nil_iff] at h
    rw [h]
    exact .nil
  | cons p ps ih =>
    cases w with
    | nil => cases h
    | cons c w =>
      rw [List.map_cons, List.map_cons, List.cons.injEq] at h
      exact .cons (matchesIgnoreCase_of_toLower h.1) (ih h.2)

/-- **Blocked names.** -/
theorem validateSql_names_blocked {toks : List Token} {sql : String} (h : Renders toks sql.toList)
    {t : Token} (ht : t ∈ toks) {w : List Char} (htw : t = .word w ∨ t = .quoted w) {word : String}
    (hmem : word ∈ blockedKeywords ∨ word ∈ blockedSchemas)
    (hw : w.map Char.toLower = word.toList.map Char.toLower) : validateSql sql ≠ (true, none) := by
  have hspells := spells_of_toLower hw
  have hchars : ∀ c ∈ w, isWordChar c = true := by
    rcases hmem with hmem | hmem
    · exact (matches_isWord wordAlts_blockedKeywords (List.mem_map_of_mem hmem) hspells).2
    · exact (matches_isWord wordAlts_blockedSchemas (List.mem_map_of_mem hmem) hspells).2
  refine validateSql_blocked hmem ?_ hspells
  rcases htw with rfl | rfl
  · exact h.isWordOf_word identChar_of_isWordChar ht hchars
  · exact h.isWordOf_quoted ht (by decide) hchars

/-! ## The opening -/

theorem isspace_of_space {c : Char} (h : space c = true) : isspace c = true := by
  simp only [space, newline, Bool.or_eq_true, beq_iff_eq] at h
  rcases h with ((((rfl | rfl) | rfl) | rfl) | rfl) | rfl <;> decide

/-- A word behind whitespace and parentheses is where the opening begins. -/
theorem opening_word {blank w : List Char} (hblank : ∀ c ∈ blank, space c = true) (k : Nat)
    (more : List Char) (hne : w ≠ []) (hw : ∀ c ∈ w, isspace c = false ∧ c ≠ '(') :
    opening (blank ++ (List.replicate k '(' ++ (w ++ more))) = w ++ more.rdropWhile isspace := by
  have hlast : w = w.dropLast ++ [w.getLast hne] := (List.dropLast_append_getLast hne).symm
  have hright : (w ++ more).rdropWhile isspace = w ++ more.rdropWhile isspace := by
    have hstep := rdropWhile_append_cons isspace w.dropLast more (hw _ (List.getLast_mem hne)).1
    rw [hlast]
    simpa using hstep
  rw [opening_plain (fun c hc => isspace_of_space (hblank c hc)) k, hright]
  intro c hc
  rw [List.head?_append_of_ne_nil w hne] at hc
  exact hw c (List.mem_of_mem_head? hc)

/-- No spelling of an opening keyword contains a character that is stripped. -/
theorem keptAlts : WordAlts (fun c => !isspace c && c != '(') matchesIgnoreCase
    (["SELECT", "WITH"].map String.toList) :=
  wordAlts_of_all (by decide +kernel)

/-- **The opening.**  Guard 1 finds a keyword behind whitespace and
parentheses. -/
theorem opensWithSelect_of_keyword {sql : String} {blank w more : List Char} {k : Nat} {word : String}
    (hsql : sql.toList = blank ++ (List.replicate k '(' ++ (w ++ more)))
    (hblank : ∀ c ∈ blank, space c = true) (hword : word = "SELECT" ∨ word = "WITH")
    (hw : w.map Char.toLower = word.toList.map Char.toLower) : opensWithSelect sql = true := by
  have hupper : w.flatMap upperChar = word.toList := by
    rcases hword with rfl | rfl
    · rw [flatMap_upperChar (by decide) hw]
      decide
    · rw [flatMap_upperChar (by decide) hw]
      decide
  have hletters : ∀ c ∈ w, isspace c = false ∧ c ≠ '(' := by
    intro c hc
    have hword' : word.toList ∈ ["SELECT", "WITH"].map String.toList := by
      rcases hword with rfl | rfl <;> simp
    have hkept := (matches_isWord keptAlts hword' (spells_of_toLower hw)).2 c hc
    simpa using hkept
  have hne : w ≠ [] := by
    rintro rfl
    rcases hword with rfl | rfl <;> cases hw
  rw [opensWithSelect_eq, hsql, opening_word hblank k more hne hletters, List.flatMap_append, hupper]
  rcases hword with rfl | rfl <;> simp

/-- It finds nothing where a comment comes first, or where anything stands
between the parentheses and the keyword. -/
theorem opensWithSelect_of_other {sql : String} {blank more : List Char} {k : Nat} {c : Char}
    (hsql : sql.toList = blank ++ (List.replicate k '(' ++ c :: more))
    (hblank : ∀ c ∈ blank, space c = true)
    (hc : (c = '-' ∨ c = '/') ∨ space c = true ∧ 0 < k) : opensWithSelect sql = false := by
  have hcases : isWordChar c = false ∧ c ≠ '(' ∧ (isspace c = false ∨ 0 < k) := by
    rcases hc with (rfl | rfl) | ⟨hspace, hk⟩
    · exact ⟨by decide, by decide, .inl (by decide)⟩
    · exact ⟨by decide, by decide, .inl (by decide)⟩
    · refine ⟨isWordChar_of_isspace (isspace_of_space hspace), ?_, .inr hk⟩
      rintro rfl
      exact absurd hspace (by decide)
  obtain ⟨hword, hparen, hstrip⟩ := hcases
  refine opensWithSelect_of_opening hword ?_
  rw [hsql]
  exact opening_other (fun d hd => isspace_of_space (hblank d hd)) k more hstrip hparen

end UniversityQA.Agent
