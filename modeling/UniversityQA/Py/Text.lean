import Mathlib.Data.List.DropRight
import UniversityQA.Py.Unicode

/-!
# String and list operations of Python

`str.strip` and its relatives, the falsy-default operator `x or d`, list
slices with one bound, `str.partition` and `int`.
-/

namespace UniversityQA.Py

/-- `s.strip()`. -/
def strip (s : String) : String :=
  .ofList ((s.toList.dropWhile isspace).rdropWhile isspace)

/-- `s.lstrip(c)` for one character `c`. -/
def lstripChar (c : Char) (s : String) : String := .ofList (s.toList.dropWhile (· == c))

/-- `s.rstrip(c)` for one character `c`. -/
def rstripChar (c : Char) (s : String) : String := .ofList (s.toList.rdropWhile (· == c))

/-- `s.upper()`, see `upperChar`. -/
def upper (s : String) : String := .ofList (s.toList.flatMap upperChar)

/-- `s.startswith(p)`. -/
def startswith (s p : String) : Bool := p.toList.isPrefixOf s.toList

/-- `x or d` for `x : str | None`. -/
def orElse : Option String → String → String
  | none, d => d
  | some s, d => if s = "" then d else s

theorem orElse_of_ne_empty {s : String} (h : s ≠ "") (d : String) : orElse (some s) d = s := by
  simp [orElse, h]

@[simp] theorem orElse_empty (d : String) : orElse (some "") d = d := rfl

@[simp] theorem orElse_some_empty (s : String) : orElse (some s) "" = s := by
  by_cases h : s = ""
  · rw [h]; rfl
  · exact orElse_of_ne_empty h ""

theorem orElse_ne_empty (x : Option String) {d : String} (h : d ≠ "") : orElse x d ≠ "" := by
  cases x with
  | none => exact h
  | some s =>
    by_cases hs : s = ""
    · simpa [orElse, hs] using h
    · simp [orElse, hs]

/-- `xs[i:]`. -/
def sliceFrom {α : Type} (xs : List α) (i : Int) : List α :=
  if i < 0 then xs.drop (xs.length + i).toNat else xs.drop i.toNat

/-- `xs[:j]`. -/
def sliceTo {α : Type} (xs : List α) (j : Int) : List α :=
  if j < 0 then xs.take (xs.length + j).toNat else xs.take j.toNat

/-! ## Splitting at a character -/

/-- The ends of `s.partition(c)`. -/
def partition (c : Char) (s : List Char) : List Char × List Char :=
  (s.takeWhile (· ≠ c), (s.dropWhile (· ≠ c)).drop 1)

/-- The ends of `s.rpartition(c)`. -/
def rpartition (c : Char) (s : List Char) : List Char × List Char :=
  ((partition c s.reverse).2.reverse, (partition c s.reverse).1.reverse)

theorem partition_append {c : Char} {a : List Char} (h : c ∉ a) (b : List Char) :
    partition c (a ++ c :: b) = (a, b) := by
  have ha : ∀ x ∈ a, decide (x ≠ c) = true := by
    intro x hx
    exact decide_eq_true (ne_of_mem_of_not_mem hx h)
  rw [partition, List.takeWhile_append_of_pos ha, List.dropWhile_append_of_pos ha]
  simp

theorem partition_of_notMem {c : Char} {s : List Char} (h : c ∉ s) : partition c s = (s, []) := by
  have hs : ∀ x ∈ s, decide (x ≠ c) = true := by
    intro x hx
    exact decide_eq_true (ne_of_mem_of_not_mem hx h)
  rw [partition, List.takeWhile_eq_self_iff.2 hs, List.dropWhile_eq_nil_iff.2 hs, List.drop_nil]

theorem rpartition_append {c : Char} (a : List Char) {b : List Char} (h : c ∉ b) :
    rpartition c (a ++ c :: b) = (a, b) := by
  have hreverse : (a ++ c :: b).reverse = b.reverse ++ c :: a.reverse := by simp
  rw [rpartition, hreverse, partition_append (mt List.mem_reverse.1 h)]
  simp

theorem rpartition_of_notMem {c : Char} {s : List Char} (h : c ∉ s) :
    rpartition c s = ([], s) := by
  rw [rpartition, partition_of_notMem (mt List.mem_reverse.1 h)]
  simp

/-- The first place of a character that is there. -/
theorem exists_first {c : Char} {s : List Char} (h : c ∈ s) : ∃ a b, s = a ++ c :: b ∧ c ∉ a :=
  List.eq_append_cons_of_mem h

/-- The last place of a character that is there. -/
theorem exists_last {c : Char} {s : List Char} (h : c ∈ s) : ∃ a b, s = a ++ c :: b ∧ c ∉ b := by
  obtain ⟨a, b, hs, hc⟩ := exists_first (List.mem_reverse.2 h)
  refine ⟨b.reverse, a.reverse, ?_, mt List.mem_reverse.1 hc⟩
  rw [← List.reverse_reverse s, hs]
  simp

/-! ## Marks between texts -/

/-- A text whose first character does not come again. -/
def Mark (m : String) : Prop := ∃ c cs, m.toList = c :: cs ∧ c ∉ cs

/-- A mark does not overlap itself. -/
theorem Mark.prefix_cases {m : String} (hm : Mark m) {z v w : List Char} (hz : z ≠ [])
    (h : m.toList ++ v = z ++ (m.toList ++ w)) : ∃ y, z = m.toList ++ y ∧ v = y ++ (m.toList ++ w) := by
  obtain ⟨c, cs, hmark, hc⟩ := hm
  rcases List.append_eq_append_iff.1 h with ⟨y, hy, hv⟩ | ⟨y, hy, hw⟩
  · exact ⟨y, hy, hv⟩
  · -- `z` ends inside the mark, or with it
    cases y with
    | nil =>
      rw [List.append_nil] at hy
      rw [List.nil_append] at hw
      exact ⟨[], by rw [List.append_nil, hy], hw.symm⟩
    | cons d ds =>
      obtain ⟨a, as, rfl⟩ := List.exists_cons_of_ne_nil hz
      rw [hmark] at hy hw
      obtain ⟨-, hcs⟩ := List.cons_eq_cons.1 hy
      obtain ⟨rfl, -⟩ := List.cons_eq_cons.1 hw
      exact absurd (by rw [hcs]; simp) hc

theorem Mark.split_of_le {m : String} (hm : Mark m) {u v u' v' z : List Char}
    (hu : u' = u ++ z) (hv : m.toList ++ v = z ++ (m.toList ++ v')) :
    u = u' ∧ v = v' ∨ ∃ y, u' = u ++ (m.toList ++ y) ∧ v = y ++ (m.toList ++ v') := by
  by_cases hz : z = []
  · subst hz
    rw [List.append_nil] at hu
    exact .inl ⟨hu.symm, List.append_cancel_left hv⟩
  · obtain ⟨y, rfl, hy⟩ := hm.prefix_cases hz hv
    exact .inr ⟨y, hu, hy⟩

/-- **Splitting at a mark.**  Two ways to read a text at a mark are one way, or
one of them passes over a mark that the other stops at. -/
theorem Mark.split {m : String} (hm : Mark m) {u v u' v' : String}
    (h : u ++ m ++ v = u' ++ m ++ v') :
    u = u' ∧ v = v' ∨ (∃ z, u' = u ++ m ++ z ∧ v = z ++ m ++ v') ∨
      ∃ z, u = u' ++ m ++ z ∧ v' = z ++ m ++ v := by
  have hlist : u.toList ++ (m.toList ++ v.toList) = u'.toList ++ (m.toList ++ v'.toList) := by
    simpa using congrArg String.toList h
  have hread : ∀ {a b : String} {y : List Char}, a.toList = b.toList ++ (m.toList ++ y) →
      a = b ++ m ++ .ofList y := by
    intro a b y hy
    rw [← String.toList_inj]
    simpa using hy
  have hrest : ∀ {a b : String} {y : List Char}, a.toList = y ++ (m.toList ++ b.toList) →
      a = .ofList y ++ m ++ b := by
    intro a b y hy
    rw [← String.toList_inj]
    simpa using hy
  rcases List.append_eq_append_iff.1 hlist with ⟨z, hu, hv⟩ | ⟨z, hu, hv⟩
  · rcases hm.split_of_le hu hv with ⟨hu, hv⟩ | ⟨y, hy, hy'⟩
    · exact .inl ⟨String.toList_inj.1 hu, String.toList_inj.1 hv⟩
    · exact .inr (.inl ⟨.ofList y, hread hy, hrest hy'⟩)
  · rcases hm.split_of_le hu hv with ⟨hu, hv⟩ | ⟨y, hy, hy'⟩
    · exact .inl ⟨String.toList_inj.1 hu.symm, String.toList_inj.1 hv.symm⟩
    · exact .inr (.inr ⟨.ofList y, hread hy, hrest hy'⟩)

/-! ## Numbers -/

/-- Digits with single underscores between them; the flag says that an
underscore or the end may come. -/
def isDecimal : Bool → List Char → Bool
  | ready, [] => ready
  | true, '_' :: s => isDecimal false s
  | _, c :: s => c.isDigit && isDecimal true s

def parseDigits (s : List Char) : Option Nat :=
  if isDecimal false s then some (Nat.ofDigitChars 10 (s.filter (· ≠ '_')) 0) else none

def parseSigned : List Char → Option Int
  | '-' :: digits => (parseDigits digits).map fun (n : Nat) => -(n : Int)
  | '+' :: digits => (parseDigits digits).map Int.ofNat
  | digits => (parseDigits digits).map Int.ofNat

/-- `int(s)` for ASCII digits: blanks around it, a sign, single underscores
between the digits. -/
def parseInt (s : String) : Option Int := parseSigned (strip s).toList

example : parseInt " -5_432\n" = some (-5432) ∧ parseInt "5__4" = none ∧ parseInt "" = none := by
  decide +kernel

theorem toNat_of_isDigit {c : Char} (h : c.isDigit) : 48 ≤ c.toNat ∧ c.toNat ≤ 57 := by
  exact Char.isDigit_iff_toNat.1 h

theorem isspace_of_isDigit {c : Char} (h : c.isDigit) : isspace c = false := by
  have := toNat_of_isDigit h
  simp [isspace, inRanges]
  omega

theorem isDecimal_of_isDigit {s : List Char} (h : ∀ c ∈ s, c.isDigit) (ready : Bool)
    (hs : s = [] → ready = true) : isDecimal ready s = true := by
  induction s generalizing ready with
  | nil => exact hs rfl
  | cons c s ih =>
    obtain ⟨hc, hrest⟩ := List.forall_mem_cons.1 h
    have hne : c ≠ '_' := by
      rintro rfl
      exact absurd hc (by decide)
    unfold isDecimal
    split
    · next hnil => cases hnil
    · next heq => exact absurd (List.cons.inj heq).1 hne
    · next heq =>
      obtain ⟨rfl, rfl⟩ := List.cons.inj heq
      rw [hc, ih hrest true fun _ => rfl]
      rfl

theorem parseDigits_toDigits (n : Nat) : parseDigits (Nat.toDigits 10 n) = some n := by
  have hdigit : ∀ c ∈ Nat.toDigits 10 n, c.isDigit := by
    intro c hc
    exact Nat.isDigit_of_mem_toDigits (by omega) (by omega) hc
  have hfilter : (Nat.toDigits 10 n).filter (· ≠ '_') = Nat.toDigits 10 n := by
    rw [List.filter_eq_self]
    rintro c hc
    refine decide_eq_true ?_
    rintro rfl
    exact absurd (hdigit _ hc) (by decide)
  rw [parseDigits, if_pos (isDecimal_of_isDigit hdigit false fun h => absurd h Nat.toDigits_ne_nil),
    hfilter, Nat.ofDigitChars_ten_toDigits]

theorem strip_eq_self {s : String} (h : ∀ c ∈ s.toList, isspace c = false) : strip s = s := by
  have hdrop : s.toList.dropWhile isspace = s.toList := by
    rw [List.dropWhile_eq_self_iff]
    intro hpos
    simp [h _ (List.getElem_mem hpos)]
  have hrdrop : s.toList.rdropWhile isspace = s.toList := by
    rw [List.rdropWhile_eq_self_iff]
    intro hne
    simp [h _ (List.getLast_mem hne)]
  rw [strip, hdrop, hrdrop, String.ofList_toList]

theorem parseSigned_toDigits (n : Nat) : parseSigned (Nat.toDigits 10 n) = some (n : Int) := by
  have hsigns : ∀ c, c.isDigit = false → ∀ s, Nat.toDigits 10 n ≠ c :: s := by
    intro c hc s hs
    have hmem : c ∈ Nat.toDigits 10 n := by rw [hs]; exact List.mem_cons_self ..
    have hdigit := Nat.isDigit_of_mem_toDigits (by omega) (by omega) hmem
    rw [hc] at hdigit
    cases hdigit
  have hdigits := parseDigits_toDigits n
  unfold parseSigned
  split
  · next heq => exact absurd heq (hsigns _ (by decide) _)
  · next heq => exact absurd heq (hsigns _ (by decide) _)
  · rw [hdigits]
    rfl

theorem mem_toString {n : Int} {c : Char} (h : c ∈ (toString n).toList) : c.isDigit ∨ c = '-' := by
  rw [Int.toString_eq_repr, Int.repr_eq_if] at h
  split at h
  · rw [Nat.toList_repr] at h
    exact .inl (Nat.isDigit_of_mem_toDigits (by omega) (by omega) h)
  · rw [String.toList_append, Nat.toList_repr] at h
    rcases List.mem_append.1 h with hsign | hdigit
    · exact .inr (List.mem_singleton.1 hsign)
    · exact .inl (Nat.isDigit_of_mem_toDigits (by omega) (by omega) hdigit)

theorem isspace_toString {n : Int} : ∀ c ∈ (toString n).toList, isspace c = false := by
  intro c hc
  rcases mem_toString hc with hdigit | rfl
  · exact isspace_of_isDigit hdigit
  · decide

/-- The decimal text of a number is read back. -/
theorem parseInt_toString (n : Int) : parseInt (toString n) = some n := by
  rw [parseInt, strip_eq_self isspace_toString, Int.toString_eq_repr, Int.repr_eq_if]
  by_cases hn : 0 ≤ n
  · rw [if_pos hn, Nat.toList_repr, parseSigned_toDigits, Int.toNat_of_nonneg hn]
  · have hneg : ((-n).toNat : Int) = -n := Int.toNat_of_nonneg (by omega)
    rw [if_neg hn, String.toList_append, Nat.toList_repr]
    simp [parseSigned, parseDigits_toDigits, hneg]

end UniversityQA.Py
