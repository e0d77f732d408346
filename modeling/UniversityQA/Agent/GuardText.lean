import UniversityQA.Agent.SqlValidator

/-!
# The first two guards, character by character

`validate_sql` looks for the opening keyword and for semicolons in texts that
`strip`, `lstrip`, `rstrip` and `upper` made.  Here both are said of the text
itself.

* `opensWithSelect_iff`: guard 1 passes a text whose first token starts like a
  keyword, when no whitespace stands behind its leading parentheses;
* `isStacked_eq_false_iff`: guard 2 passes a text with no semicolon but those
  it ends with.
-/

namespace UniversityQA.Agent

open UniversityQA.Py

/-! ## Stripping -/

section Stripping

variable {α : Type} (p : α → Bool)

theorem dropWhile_append_cons (l r : List α) {x : α} (hx : p x = false) :
    (l ++ x :: r).dropWhile p = l.dropWhile p ++ x :: r := by
  rw [List.dropWhile_append]
  split
  case isTrue h =>
    rw [List.isEmpty_iff] at h
    simp [h, hx]
  case isFalse => rfl

theorem rdropWhile_append_cons (l r : List α) {x : α} (hx : p x = false) :
    (l ++ x :: r).rdropWhile p = l ++ x :: r.rdropWhile p := by
  simp only [List.rdropWhile, List.reverse_append, List.reverse_cons, List.append_assoc]
  rw [List.singleton_append, dropWhile_append_cons p _ _ hx]
  simp

theorem dropWhile_of_all {l : List α} (h : ∀ x ∈ l, p x = true) {r : List α}
    (hr : ∀ x, r.head? = some x → p x = false) : (l ++ r).dropWhile p = r := by
  rw [List.dropWhile_append_of_pos h]
  cases r with
  | nil => rfl
  | cons x r => rw [List.dropWhile_cons_of_neg (by simp [hr x rfl])]

theorem rdropWhile_of_all {r : List α} (h : ∀ x ∈ r, p x = true) (l : List α) :
    (l ++ r).rdropWhile p = l.rdropWhile p := by
  simp only [List.rdropWhile, List.reverse_append]
  rw [List.dropWhile_append_of_pos fun x hx => h x (List.mem_reverse.mp hx)]

theorem takeWhile_rdropWhile {q : α → Bool} (hpq : ∀ x, p x = true → q x = false) (l : List α) :
    (l.rdropWhile p).takeWhile q = l.takeWhile q := by
  induction l using List.reverseRecOn with
  | nil => rfl
  | append_singleton l x ih =>
    by_cases hx : p x = true
    · have hlast : [x].takeWhile q = [] := by simp [hpq x hx]
      rw [List.rdropWhile_concat_pos p l x hx, ih, List.takeWhile_append, hlast, List.append_nil]
      split
      case isTrue hlen => exact List.IsPrefix.eq_of_length (List.takeWhile_prefix q) hlen
      case isFalse => rfl
    · rw [List.rdropWhile_concat_neg p l x hx]

end Stripping

/-! ## The opening -/

/-- What holds of each code of some ranges. -/
theorem of_inRanges {p : Nat → Bool} {rs : List (Nat × Nat)}
    (hall : rs.all (fun r => (List.range' r.1 (r.2 + 1 - r.1)).all p) = true) {n : Nat}
    (h : inRanges rs n = true) : p n = true := by
  obtain ⟨r, hr, hn⟩ := List.any_eq_true.mp h
  rw [Bool.and_eq_true, decide_eq_true_eq, decide_eq_true_eq] at hn
  refine List.all_eq_true.mp (List.all_eq_true.mp hall r hr) n ?_
  rw [List.mem_range'_1]
  omega

theorem isWordChar_of_isspace {c : Char} (h : isspace c = true) : isWordChar c = false := by
  have hnot : (!isWordChar (Char.ofNat c.toNat)) = true := by
    rw [isspace, Bool.or_eq_true, Bool.and_eq_true] at h
    rcases h with h | ⟨-, h⟩
    · exact of_inRanges (p := fun n => !isWordChar (Char.ofNat n)) (by decide +kernel) h
    · exact of_inRanges (p := fun n => !isWordChar (Char.ofNat n)) (by decide +kernel) h
  rwa [Char.ofNat_toNat, Bool.not_eq_true'] at hnot

/-- No character but a word character has an ASCII letter for its upper
case. -/
theorem upperChar_of_not_word {c : Char} (h : isWordChar c = false) :
    ∃ d, upperChar c = [d] ∧ ¬ (65 ≤ d.toNat ∧ d.toNat ≤ 90) := by
  have htable : upperToAscii.all (fun e => isWordChar e.1) = true := by decide +kernel
  by_cases hc : c.toNat < 128
  · refine ⟨c.toUpper, by rw [upperChar, if_pos hc], ?_⟩
    have hletters : (List.range 128).all (fun n => isWordChar (Char.ofNat n) ||
        !decide (65 ≤ n ∧ n ≤ 90 ∨ 97 ≤ n ∧ n ≤ 122)) = true := by decide +kernel
    have hnat := List.all_eq_true.mp hletters c.toNat (List.mem_range.mpr hc)
    rw [Char.ofNat_toNat, h, Bool.false_or, Bool.not_eq_true', decide_eq_false_iff_not] at hnat
    rw [toNat_toUpper]
    split <;> omega
  · refine ⟨c, ?_, by omega⟩
    have hnone : upperToAscii.lookup c = none := by
      rw [List.lookup_eq_none_iff]
      intro e he
      have hword := List.all_eq_true.mp htable e he
      by_contra heq
      simp at heq
      rw [← heq, h] at hword
      cases hword
    rw [upperChar, if_neg hc, hnone]
    rfl

/-- An ASCII letter in either case comes out in upper case. -/
theorem upperChar_of_toLower {p c : Char} (hp : p.toNat < 128) (h : c.toLower = p.toLower) :
    upperChar c = [p.toUpper] := by
  have hn := congrArg Char.toNat h
  rw [toNat_toLower, toNat_toLower] at hn
  have hc : c.toNat < 128 := by split at hn <;> split at hn <;> omega
  rw [upperChar, if_pos hc, List.singleton_inj, ← Char.toNat_inj, toNat_toUpper, toNat_toUpper]
  split at hn <;> split at hn <;> split <;> split <;> omega

theorem flatMap_upperChar {word w : List Char} (hword : word.all (·.toNat < 128) = true)
    (h : w.map Char.toLower = word.map Char.toLower) :
    w.flatMap upperChar = word.map Char.toUpper := by
  induction word generalizing w with
  | nil =>
    rw [List.map_nil, List.map_eq_nil_iff] at h
    rw [h]
    rfl
  | cons p word ih =>
    cases w with
    | nil => cases h
    | cons c w =>
      rw [List.map_cons, List.map_cons, List.cons.injEq] at h
      rw [List.all_cons, Bool.and_eq_true, decide_eq_true_eq] at hword
      rw [List.flatMap_cons, upperChar_of_toLower hword.1 h.1, ih hword.2 h.2]
      rfl

/-- The characters guard 1 compares. -/
def opening (s : List Char) : List Char :=
  ((s.dropWhile isspace).rdropWhile isspace).dropWhile (· == '(')

theorem opensWithSelect_eq (sql : String) : opensWithSelect sql =
    ("SELECT".toList.isPrefixOf ((opening sql.toList).flatMap upperChar) ||
      "WITH".toList.isPrefixOf ((opening sql.toList).flatMap upperChar)) := by
  simp only [opensWithSelect, upper, lstripChar, strip, startswith, opening, String.toList_ofList]

theorem dropWhile_parens (k : Nat) {r : List Char} (hr : ∀ c, r.head? = some c → c ≠ '(') :
    (List.replicate k '(' ++ r).dropWhile (· == '(') = r :=
  dropWhile_of_all _ (fun c hc => by simp [List.eq_of_mem_replicate hc])
    fun c hc => by simp [hr c hc]

theorem head?_parens {k : Nat} {r : List Char}
    (hr : ∀ c, r.head? = some c → isspace c = false ∨ 0 < k) {d : Char}
    (hd : (List.replicate k '(' ++ r).head? = some d) : isspace d = false := by
  cases k with
  | zero => exact (hr d hd).resolve_right (Nat.lt_irrefl 0)
  | succ k =>
    cases hd
    decide

theorem rdropWhile_parens (k : Nat) (r : List Char) :
    (List.replicate k '(' ++ r).rdropWhile isspace = List.replicate k '(' ++ r.rdropWhile isspace := by
  cases k with
  | zero => rfl
  | succ k =>
    rw [List.replicate_succ', List.append_assoc, List.singleton_append,
      rdropWhile_append_cons isspace _ r (by decide), List.append_assoc, List.singleton_append]

theorem head?_rdropWhile {α : Type} {p : α → Bool} {l : List α} {x : α}
    (h : (l.rdropWhile p).head? = some x) : l.head? = some x := by
  obtain ⟨t, ht⟩ := List.rdropWhile_prefix p (l := l)
  rw [← ht, List.head?_append, h]
  rfl

/-- Behind whitespace and parentheses the opening begins. -/
theorem opening_plain {blank : List Char} (hblank : ∀ c ∈ blank, isspace c = true) (k : Nat)
    {rest : List Char} (hrest : ∀ c, rest.head? = some c → isspace c = false ∧ c ≠ '(') :
    opening (blank ++ (List.replicate k '(' ++ rest)) = rest.rdropWhile isspace := by
  unfold opening
  rw [dropWhile_of_all isspace hblank fun d hd => ?_, rdropWhile_parens, dropWhile_parens k]
  · intro c hc
    exact (hrest c (head?_rdropWhile hc)).2
  · exact head?_parens (fun c hc => .inl (hrest c hc).1) hd

/-- So it does at any other character that is not stripped. -/
theorem opening_other {blank : List Char} (hblank : ∀ c ∈ blank, isspace c = true) (k : Nat)
    {c : Char} (more : List Char) (hc : isspace c = false ∨ 0 < k) (hparen : c ≠ '(') :
    opening (blank ++ (List.replicate k '(' ++ c :: more)) = [] ∨
      ∃ more', opening (blank ++ (List.replicate k '(' ++ c :: more)) = c :: more' := by
  have hhead (d : Char) (hd : (c :: more).head? = some d) : d = c := by
    cases hd
    rfl
  unfold opening
  rw [dropWhile_of_all isspace hblank fun d hd => ?_, rdropWhile_parens, dropWhile_parens k]
  · rcases hl : (c :: more).rdropWhile isspace with _ | ⟨d, more'⟩
    · exact .inl rfl
    · have hd := head?_rdropWhile (congrArg List.head? hl)
      rw [hhead d hd]
      exact .inr ⟨more', rfl⟩
  · intro d hd
    rw [hhead d (head?_rdropWhile hd)]
    exact hparen
  · exact head?_parens (fun e he => by rw [hhead e he]; exact hc) hd

/-- Nothing opens with a character whose upper case is no letter. -/
theorem opensWithSelect_of_opening {sql : String} {c : Char} (hc : isWordChar c = false)
    (h : opening sql.toList = [] ∨ ∃ more, opening sql.toList = c :: more) :
    opensWithSelect sql = false := by
  obtain ⟨d, hupper, hd⟩ := upperChar_of_not_word hc
  have hs : d ≠ 'S' := by
    rintro rfl
    exact hd (by decide)
  have hw : d ≠ 'W' := by
    rintro rfl
    exact hd (by decide)
  rw [opensWithSelect_eq]
  rcases h with h | ⟨more, h⟩
  · rw [h]
    decide
  · rw [h, List.flatMap_cons, hupper]
    simp [List.isPrefixOf, Ne.symm hs, Ne.symm hw]

/-! ## The first token -/

/-- Whitespace and opening parentheses, in any mix. -/
def skipped (c : Char) : Bool := isspace c || c == '('

/-- The first maximal run of word characters behind them. -/
def firstToken (s : List Char) : List Char := (s.dropWhile skipped).takeWhile isWordChar

/-- No whitespace stands behind a leading parenthesis. -/
def OpensPlainly (s : List Char) : Prop :=
  ∃ blank k, s.takeWhile skipped = blank ++ List.replicate k '(' ∧ ∀ c ∈ blank, isspace c = true

/-- The upper case of the token starts with a keyword. -/
def StartsLikeKeyword (token : List Char) : Prop :=
  "SELECT".toList <+: token.flatMap upperChar ∨ "WITH".toList <+: token.flatMap upperChar

theorem prefix_append_cons_iff {α : Type} {word l : List α} {x : α} (hx : x ∉ word) (r : List α) :
    word <+: l ++ x :: r ↔ word <+: l := by
  induction l generalizing word with
  | nil =>
    cases word with
    | nil => simp
    | cons y word =>
      have hne : y ≠ x := fun h => hx (by simp [h])
      simp [List.cons_prefix_cons, hne]
  | cons z l ih =>
    cases word with
    | nil => simp
    | cons y word =>
      rw [List.cons_append, List.cons_prefix_cons, List.cons_prefix_cons,
        ih fun h => hx (List.mem_cons_of_mem y h)]

def IsCapital (c : Char) : Prop := 65 ≤ c.toNat ∧ c.toNat ≤ 90

instance (c : Char) : Decidable (IsCapital c) := inferInstanceAs (Decidable (_ ∧ _))

theorem capitals_of_all {word : List Char} (h : word.all (fun c => decide (IsCapital c)) = true) :
    ∀ c ∈ word, 65 ≤ c.toNat ∧ c.toNat ≤ 90 :=
  fun c hc => of_decide_eq_true (List.all_eq_true.mp h c hc)

/-- A keyword does not go over the end of the token. -/
theorem prefix_firstToken_iff {word : List Char} (hword : ∀ c ∈ word, 65 ≤ c.toNat ∧ c.toNat ≤ 90)
    (l : List Char) :
    word <+: l.flatMap upperChar ↔ word <+: (l.takeWhile isWordChar).flatMap upperChar := by
  conv_lhs => rw [← List.takeWhile_append_dropWhile (p := isWordChar) (l := l)]
  rcases hl : l.dropWhile isWordChar with _ | ⟨c, more⟩
  · rw [List.append_nil]
  · have hc := List.head?_dropWhile_not isWordChar l
    rw [hl] at hc
    obtain ⟨d, hupper, hd⟩ := upperChar_of_not_word hc
    rw [List.flatMap_append, List.flatMap_cons, hupper, List.singleton_append]
    exact prefix_append_cons_iff (fun hmem => hd (hword d hmem)) _

/-- Behind a plain opening the token decides. -/
theorem opensWithSelect_of_plain {sql : String} (h : OpensPlainly sql.toList) :
    opensWithSelect sql = true ↔ StartsLikeKeyword (firstToken sql.toList) := by
  obtain ⟨blank, k, hskip, hblank⟩ := h
  have hsplit : sql.toList =
      blank ++ (List.replicate k '(' ++ sql.toList.dropWhile skipped) := by
    rw [← List.append_assoc, ← hskip, List.takeWhile_append_dropWhile]
  have hrest (c : Char) (hc : (sql.toList.dropWhile skipped).head? = some c) :
      isspace c = false ∧ c ≠ '(' := by
    have hnot := List.head?_dropWhile_not skipped sql.toList
    rw [hc] at hnot
    simpa [skipped] using hnot
  have htoken : ((sql.toList.dropWhile skipped).rdropWhile isspace).takeWhile isWordChar =
      firstToken sql.toList := takeWhile_rdropWhile isspace (fun _ => isWordChar_of_isspace) _
  have hselect := capitals_of_all (show "SELECT".toList.all _ = true by decide)
  have hwith := capitals_of_all (show "WITH".toList.all _ = true by decide)
  rw [opensWithSelect_eq, hsplit, opening_plain hblank k hrest, Bool.or_eq_true,
    List.isPrefixOf_iff_prefix, List.isPrefixOf_iff_prefix, prefix_firstToken_iff hselect,
    prefix_firstToken_iff hwith, htoken, ← hsplit]
  rfl

/-- In a run of skipped characters either no whitespace stands behind a
parenthesis, or it does somewhere. -/
theorem skipped_run {skip : List Char} (h : ∀ c ∈ skip, skipped c = true) :
    ∃ blank k, (∀ c ∈ blank, isspace c = true) ∧ (skip = blank ++ List.replicate k '(' ∨
      ∃ c more, skip = blank ++ (List.replicate k '(' ++ c :: more) ∧ isspace c = true ∧ 0 < k) := by
  induction skip with
  | nil => exact ⟨[], 0, by simp, .inl rfl⟩
  | cons d skip ih =>
    have hd : isspace d = true ∨ d = '(' := by simpa [skipped] using h d (by simp)
    obtain ⟨blank, k, hblank, hrun⟩ := ih fun c hc => h c (List.mem_cons_of_mem d hc)
    rcases hd with hspace | rfl
    · refine ⟨d :: blank, k, ?_, ?_⟩
      · simpa [hspace] using hblank
      · rcases hrun with rfl | ⟨c, more, rfl, hc⟩
        · exact .inl rfl
        · exact .inr ⟨c, more, rfl, hc⟩
    · cases blank with
      | nil =>
        refine ⟨[], k + 1, by simp, ?_⟩
        rcases hrun with rfl | ⟨c, more, rfl, hc, hk⟩
        · exact .inl rfl
        · exact .inr ⟨c, more, rfl, hc, Nat.succ_pos k⟩
      | cons b blank =>
        have hb : isspace b = true := hblank b (by simp)
        rcases hrun with rfl | ⟨c, more, rfl, hc⟩
        · exact ⟨[], 1, by simp, .inr ⟨b, _, rfl, hb, Nat.one_pos⟩⟩
        · exact ⟨[], 1, by simp, .inr ⟨b, _, rfl, hb, Nat.one_pos⟩⟩

/-- Without one there is whitespace where the keyword is looked for. -/
theorem opensWithSelect_of_not_plain {sql : String} (h : ¬ OpensPlainly sql.toList) :
    opensWithSelect sql = false := by
  have hsplit : sql.toList.takeWhile skipped ++ sql.toList.dropWhile skipped = sql.toList :=
    List.takeWhile_append_dropWhile
  obtain ⟨blank, k, hblank, hrun | ⟨c, more, hrun, hspace, hk⟩⟩ :=
    skipped_run fun c (hc : c ∈ sql.toList.takeWhile skipped) => List.mem_takeWhile_imp hc
  · exact absurd ⟨blank, k, hrun, hblank⟩ h
  · have hparen : c ≠ '(' := by
      rintro rfl
      exact absurd hspace (by decide)
    rw [hrun, List.append_assoc, List.append_assoc, List.cons_append] at hsplit
    refine opensWithSelect_of_opening (isWordChar_of_isspace hspace) ?_
    rw [← hsplit]
    exact opening_other hblank k _ (.inr hk) hparen

/-- **Guard 1.** -/
theorem opensWithSelect_iff (sql : String) : opensWithSelect sql = true ↔
    OpensPlainly sql.toList ∧ StartsLikeKeyword (firstToken sql.toList) := by
  by_cases h : OpensPlainly sql.toList
  · rw [opensWithSelect_of_plain h]
    simp [h]
  · rw [opensWithSelect_of_not_plain h]
    simp [h]

/-! ## Semicolons -/

/-- Whitespace, a body without semicolons, some semicolons, whitespace. -/
def SingleStatement (s : List Char) : Prop :=
  ∃ blank body n blank', s = blank ++ body ++ List.replicate n ';' ++ blank' ∧
    (∀ c ∈ blank, isspace c = true) ∧ ';' ∉ body ∧ ∀ c ∈ blank', isspace c = true

/-- The characters guard 2 searches. -/
def statementBody (s : List Char) : List Char :=
  ((s.dropWhile isspace).rdropWhile isspace).rdropWhile (· == ';')

theorem isStacked_eq (sql : String) : isStacked sql = (statementBody sql.toList).contains ';' := by
  simp only [isStacked, rstripChar, strip, statementBody, String.toList_ofList]

theorem singleStatement_of_body {s : List Char} (h : ';' ∉ statementBody s) : SingleStatement s := by
  have hleft : s.takeWhile isspace ++ s.dropWhile isspace = s := List.takeWhile_append_dropWhile
  have hright := List.rdropWhile_append_rtakeWhile (p := isspace) (l := s.dropWhile isspace)
  have hsemis := List.rdropWhile_append_rtakeWhile (p := (· == ';'))
    (l := (s.dropWhile isspace).rdropWhile isspace)
  obtain ⟨n, hn⟩ : ∃ n, ((s.dropWhile isspace).rdropWhile isspace).rtakeWhile (· == ';') =
      List.replicate n ';' :=
    ⟨_, List.eq_replicate_of_mem fun c hc => by simpa using List.mem_rtakeWhile_imp hc⟩
  rw [hn] at hsemis
  refine ⟨s.takeWhile isspace, statementBody s, n, (s.dropWhile isspace).rtakeWhile isspace, ?_,
    fun c hc => List.mem_takeWhile_imp hc, h, fun c hc => List.mem_rtakeWhile_imp hc⟩
  rw [List.append_assoc _ (statementBody s), statementBody, hsemis, List.append_assoc, hright, hleft]

theorem mem_of_mem_statementBody {s : List Char} {c : Char} (h : c ∈ statementBody s) : c ∈ s :=
  (List.dropWhile_suffix _).subset
    (List.IsPrefix.subset (List.rdropWhile_prefix _ _)
      (List.IsPrefix.subset (List.rdropWhile_prefix _ _) h))

theorem not_mem_statementBody {s : List Char} (h : SingleStatement s) : ';' ∉ statementBody s := by
  obtain ⟨blank, body, n, blank', rfl, hblank, hbody, hblank'⟩ := h
  have hsemicolon : isspace ';' = false := by decide
  have hspaces {l : List Char} (hl : ∀ c ∈ l, isspace c = true) : ';' ∉ l := by
    intro hmem
    rw [hl _ hmem] at hsemicolon
    cases hsemicolon
  have hleft : ';' ∉ blank ++ body := by
    rw [List.mem_append, not_or]
    exact ⟨hspaces hblank, hbody⟩
  cases n with
  | zero =>
    intro hmem
    have hmem' := mem_of_mem_statementBody hmem
    rw [List.replicate_zero, List.append_nil] at hmem'
    exact (List.mem_append.mp hmem').elim hleft (hspaces hblank')
  | succ n =>
    -- the last semicolon keeps `rstrip` out of the body
    have hfront : (blank ++ body ++ List.replicate (n + 1) ';' ++ blank').dropWhile isspace =
        (blank ++ body).dropWhile isspace ++ List.replicate (n + 1) ';' ++ blank' := by
      rw [List.append_assoc, List.replicate_succ, List.cons_append,
        dropWhile_append_cons isspace _ _ hsemicolon, List.append_assoc, List.cons_append]
    have hend : ((blank ++ body).dropWhile isspace ++ List.replicate (n + 1) ';').rdropWhile isspace =
        (blank ++ body).dropWhile isspace ++ List.replicate (n + 1) ';' := by
      rw [List.replicate_succ', ← List.append_assoc]
      exact List.rdropWhile_concat_neg isspace _ _ (by simp [hsemicolon])
    intro hmem
    rw [statementBody, hfront, rdropWhile_of_all isspace hblank', hend,
      rdropWhile_of_all _ fun c hc => by simp [List.eq_of_mem_replicate hc]] at hmem
    have hfirst := List.IsPrefix.subset (List.rdropWhile_prefix _ _) hmem
    exact hleft ((List.dropWhile_suffix _).subset hfirst)

/-- **Guard 2.** -/
theorem isStacked_eq_false_iff (sql : String) :
    isStacked sql = false ↔ SingleStatement sql.toList := by
  rw [isStacked_eq, ← Bool.not_eq_true, List.contains_iff_mem]
  exact ⟨singleStatement_of_body, not_mem_statementBody⟩

end UniversityQA.Agent
