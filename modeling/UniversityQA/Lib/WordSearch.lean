import Mathlib.Data.List.Forall2

/-!
# Searching whole words

A pattern `\b(w₁|…|wₙ)\b` is searched as a backtracking engine does: from
left to right, the alternatives in order, a boundary on each side.  The words
of a text are its maximal runs of word elements.

* `search_sound`: what is found is a word of the text that some alternative
  matches;
* `search_complete`: a word of the text that some alternative matches makes
  the search succeed;
* `search_isSome_iff`: together, for alternatives that match words only.
-/

namespace WordSearch

variable {α : Type} (isWord : α → Bool) (eq : α → α → Bool)

/-- An element, or the outside of the text, is of the word class. -/
def wordAt : Option α → Bool
  | none => false
  | some c => isWord c

/-- No word goes over the end of `l`. -/
def EndsOutside (l : List α) : Prop := wordAt isWord l.getLast? = false

/-- No word goes over the start of `l`. -/
def StartsOutside (l : List α) : Prop := wordAt isWord l.head? = false

/-- `w` is a maximal run of word elements of `s`. -/
def IsWordOf (w s : List α) : Prop :=
  w ≠ [] ∧ (∀ c ∈ w, isWord c = true) ∧
    ∃ pre post, s = pre ++ w ++ post ∧ EndsOutside isWord pre ∧ StartsOutside isWord post

/-- `s` starts with a match of `alt`: the matched part and the rest. -/
def matchPrefix : List α → List α → Option (List α × List α)
  | [], s => some ([], s)
  | _ :: _, [] => none
  | p :: ps, c :: cs =>
    if eq p c then (matchPrefix ps cs).map fun r => (c :: r.1, r.2) else none

/-- `alt` with a boundary behind it, at the head of `s`. -/
def matchWord (alt s : List α) : Option (List α) :=
  match matchPrefix eq alt s with
  | some (m, rest) => if wordAt isWord m.getLast? != wordAt isWord rest.head? then some m else none
  | none => none

/-- `\b(alts)\b` at the head of `s`, with `prev` before it. -/
def matchAt (alts : List (List α)) (prev : Option α) (s : List α) : Option (List α) :=
  if wordAt isWord prev != wordAt isWord s.head? then alts.findSome? fun alt => matchWord isWord eq alt s
  else none

/-- The first match of `\b(alts)\b` in `s`, with `prev` before it. -/
def searchFrom (alts : List (List α)) (prev : Option α) : List α → Option (List α)
  | [] => matchAt isWord eq alts prev []
  | c :: cs =>
    match matchAt isWord eq alts prev (c :: cs) with
    | some m => some m
    | none => searchFrom alts (some c) cs

def search (alts : List (List α)) (s : List α) : Option (List α) := searchFrom isWord eq alts none s

/-- `alt` matches the whole of `w`. -/
def Matches (alt w : List α) : Prop := List.Forall₂ (fun p c => eq p c = true) alt w

theorem matchPrefix_eq_some (alt s m rest : List α) :
    matchPrefix eq alt s = some (m, rest) ↔ s = m ++ rest ∧ Matches eq alt m := by
  induction alt generalizing s m with
  | nil =>
    simp only [matchPrefix, Option.some.injEq, Prod.mk.injEq, Matches, List.forall₂_nil_left_iff]
    constructor
    · rintro ⟨rfl, rfl⟩; exact ⟨rfl, rfl⟩
    · rintro ⟨rfl, rfl⟩; exact ⟨rfl, rfl⟩
  | cons p ps ih =>
    cases s with
    | nil =>
      simp only [matchPrefix, reduceCtorEq, false_iff, not_and]
      intro hs hm
      rw [List.nil_eq, List.append_eq_nil_iff] at hs
      rw [hs.1] at hm
      cases hm
    | cons c cs =>
      by_cases hpc : eq p c = true
      · simp only [matchPrefix, hpc, ↓reduceIte, Option.map_eq_some_iff, Prod.mk.injEq, Prod.exists]
        constructor
        · rintro ⟨m', r', h, rfl, rfl⟩
          obtain ⟨rfl, hm⟩ := (ih cs m').mp h
          exact ⟨rfl, .cons hpc hm⟩
        · rintro ⟨hs, hm⟩
          cases hm with
          | @cons _ d _ m' hd hm' =>
            obtain ⟨rfl, rfl⟩ := List.cons.inj hs
            exact ⟨m', rest, (ih _ m').mpr ⟨rfl, hm'⟩, rfl, rfl⟩
      · simp only [matchPrefix, hpc, Bool.false_eq_true, ↓reduceIte, reduceCtorEq, false_iff, not_and]
        intro hs hm
        cases hm with
        | @cons _ d _ m' hd hm' =>
          obtain ⟨rfl, rfl⟩ := List.cons.inj hs
          exact hpc hd

/-- The alternatives are nonempty and match word elements only. -/
def WordAlts (alts : List (List α)) : Prop :=
  ∀ alt ∈ alts, alt ≠ [] ∧ ∀ p ∈ alt, ∀ c, eq p c = true → isWord c = true

section Spec

variable {isWord eq} {alts : List (List α)}

theorem matches_isWord (halts : WordAlts isWord eq alts) {alt w : List α} (hmem : alt ∈ alts)
    (hm : Matches eq alt w) : w ≠ [] ∧ ∀ c ∈ w, isWord c = true := by
  obtain ⟨hne, hword⟩ := halts alt hmem
  constructor
  · intro hw
    rw [hw, Matches, List.forall₂_nil_right_iff] at hm
    exact hne hm
  · intro c hc
    clear hne hmem
    induction hm with
    | nil => cases hc
    | @cons p d ps w hd _ ih =>
      rcases List.mem_cons.mp hc with rfl | hc
      · exact hword p (List.mem_cons_self ..) _ hd
      · exact ih (fun q hq => hword q (List.mem_cons_of_mem _ hq)) hc

theorem endsOutside_cons (l pre : List α) (c : α) :
    EndsOutside isWord (l ++ c :: pre) ↔ EndsOutside isWord (c :: pre) := by
  simp [EndsOutside, List.getLast?_append, List.getLast?_cons]

theorem wordAt_getLast? {w : List α} (hne : w ≠ []) (hw : ∀ c ∈ w, isWord c = true) :
    wordAt isWord w.getLast? = true := by
  rw [List.getLast?_eq_some_getLast hne]
  exact hw _ (List.getLast_mem hne)

theorem wordAt_head? {w : List α} (hne : w ≠ []) (hw : ∀ c ∈ w, isWord c = true) (post : List α) :
    wordAt isWord (w ++ post).head? = true := by
  cases w with
  | nil => exact absurd rfl hne
  | cons c w => exact hw c (List.mem_cons_self ..)

/-- What is matched at a place is a word that starts there. -/
theorem matchAt_eq_some (halts : WordAlts isWord eq alts) {prev : Option α} {s m : List α}
    (h : matchAt isWord eq alts prev s = some m) :
    wordAt isWord prev = false ∧ (∃ alt ∈ alts, Matches eq alt m) ∧
      ∃ post, s = m ++ post ∧ StartsOutside isWord post := by
  unfold matchAt at h
  split at h
  case isFalse => cases h
  case isTrue hb =>
    obtain ⟨alt, hmem, hw⟩ := List.exists_of_findSome?_eq_some h
    unfold matchWord at hw
    split at hw
    case h_2 => cases hw
    case h_1 m' rest hp =>
      obtain ⟨rfl, hm⟩ := (matchPrefix_eq_some eq alt s m' rest).mp hp
      obtain ⟨hne, hall⟩ := matches_isWord halts hmem hm
      rw [wordAt_head? hne hall] at hb
      rw [wordAt_getLast? hne hall] at hw
      split at hw
      case isFalse => cases hw
      case isTrue hr =>
        cases hw
        exact ⟨by simpa using hb, ⟨alt, hmem, hm⟩, rest, rfl, by simpa [StartsOutside] using hr⟩

/-- A word at a place that some alternative matches is matched there. -/
theorem matchAt_isSome {prev : Option α} {m post : List α}
    (halts : WordAlts isWord eq alts) (hprev : wordAt isWord prev = false) {alt : List α}
    (hmem : alt ∈ alts) (hm : Matches eq alt m) (hpost : StartsOutside isWord post) :
    (matchAt isWord eq alts prev (m ++ post)).isSome := by
  obtain ⟨hne, hall⟩ := matches_isWord halts hmem hm
  have hp := (matchPrefix_eq_some eq alt (m ++ post) m post).mpr ⟨rfl, hm⟩
  have hw : matchWord isWord eq alt (m ++ post) = some m := by
    unfold StartsOutside at hpost
    simp [matchWord, hp, wordAt_getLast? hne hall, hpost]
  unfold matchAt
  rw [hprev, wordAt_head? hne hall]
  simp only [bne, Bool.false_beq, Bool.not_true, Bool.not_false, ↓reduceIte]
  rw [List.findSome?_isSome_iff]
  exact ⟨alt, hmem, by rw [hw]; rfl⟩

theorem searchFrom_sound (halts : WordAlts isWord eq alts) {m : List α} (prev : Option α)
    (s : List α) (h : searchFrom isWord eq alts prev s = some m) :
    (∃ alt ∈ alts, Matches eq alt m) ∧ ∃ pre post, s = pre ++ m ++ post ∧
      EndsOutside isWord (prev.toList ++ pre) ∧ StartsOutside isWord post := by
  have hhere {prev : Option α} {s : List α} (hm : matchAt isWord eq alts prev s = some m) :
      (∃ alt ∈ alts, Matches eq alt m) ∧ ∃ pre post, s = pre ++ m ++ post ∧
        EndsOutside isWord (prev.toList ++ pre) ∧ StartsOutside isWord post := by
    obtain ⟨hprev, halt, post, rfl, hpost⟩ := matchAt_eq_some halts hm
    refine ⟨halt, [], post, rfl, ?_, hpost⟩
    cases prev <;> simpa [EndsOutside] using hprev
  induction s generalizing prev with
  | nil => exact hhere h
  | cons c cs ih =>
    unfold searchFrom at h
    cases hm : matchAt isWord eq alts prev (c :: cs) with
    | some m' =>
      rw [hm] at h
      cases h
      exact hhere hm
    | none =>
      rw [hm] at h
      obtain ⟨halt, pre, post, rfl, hpre, hpost⟩ := ih (some c) h
      exact ⟨halt, c :: pre, post, rfl, (endsOutside_cons _ pre c).mpr hpre, hpost⟩

theorem search_sound (halts : WordAlts isWord eq alts) {m s : List α}
    (h : search isWord eq alts s = some m) :
    IsWordOf isWord m s ∧ ∃ alt ∈ alts, Matches eq alt m := by
  obtain ⟨⟨alt, hmem, hm⟩, pre, post, hs, hpre, hpost⟩ := searchFrom_sound halts none s h
  obtain ⟨hne, hall⟩ := matches_isWord halts hmem hm
  exact ⟨⟨hne, hall, pre, post, hs, by simpa using hpre, hpost⟩, alt, hmem, hm⟩

theorem searchFrom_complete (halts : WordAlts isWord eq alts) {alt m post : List α}
    (hmem : alt ∈ alts) (hm : Matches eq alt m) (hpost : StartsOutside isWord post)
    (pre : List α) (prev : Option α) (hpre : EndsOutside isWord (prev.toList ++ pre)) :
    (searchFrom isWord eq alts prev (pre ++ m ++ post)).isSome := by
  induction pre generalizing prev with
  | nil =>
    have hprev : wordAt isWord prev = false := by
      cases prev <;> simpa [EndsOutside] using hpre
    have hhere := matchAt_isSome halts hprev hmem hm hpost
    rw [List.nil_append]
    cases hs : m ++ post with
    | nil => rw [hs] at hhere; exact hhere
    | cons c cs =>
      rw [hs] at hhere
      unfold searchFrom
      cases hmatch : matchAt isWord eq alts prev (c :: cs) with
      | some m' => rfl
      | none => rw [hmatch] at hhere; cases hhere
  | cons c pre ih =>
    have hrest := ih (some c) ((endsOutside_cons prev.toList pre c).mp hpre)
    rw [List.cons_append, List.cons_append]
    unfold searchFrom
    cases matchAt isWord eq alts prev (c :: (pre ++ m ++ post)) with
    | some m' => rfl
    | none => exact hrest

theorem search_complete (halts : WordAlts isWord eq alts) {alt m s : List α} (hmem : alt ∈ alts)
    (hm : Matches eq alt m) (hw : IsWordOf isWord m s) : (search isWord eq alts s).isSome := by
  obtain ⟨_, _, pre, post, rfl, hpre, hpost⟩ := hw
  exact searchFrom_complete halts hmem hm hpost pre none (by simpa using hpre)

/-- **Searching whole words.** -/
theorem search_isSome_iff (halts : WordAlts isWord eq alts) (s : List α) :
    (search isWord eq alts s).isSome ↔ ∃ w, IsWordOf isWord w s ∧ ∃ alt ∈ alts, Matches eq alt w := by
  constructor
  · intro h
    obtain ⟨m, hm⟩ := Option.isSome_iff_exists.mp h
    exact ⟨m, search_sound halts hm⟩
  · rintro ⟨w, hw, alt, hmem, hm⟩
    exact search_complete halts hmem hm hw

end Spec

end WordSearch
