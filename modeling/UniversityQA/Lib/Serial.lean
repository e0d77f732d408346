import Mathlib.Data.List.Nodup
import UniversityQA.Lib.Interleaving

/-!
# Programs that do not overlap

* `Before tr i j`: in the trace, `i` is over when `j` begins;
* `exists_serial`: the events of programs any two of which are apart in this
  way are the events of one program after the other.
-/

namespace Coroutine

variable {Q ι : Type} {A : Q → Type} [DecidableEq ι]

/-- `i` is over when `j` begins. -/
def Before (tr : List (ι × Event Q A)) (i j : ι) : Prop :=
  ∃ t₁ t₂, tr = t₁ ++ t₂ ∧ eventsOf j t₁ = [] ∧ eventsOf i t₂ = []

variable {tr : List (ι × Event Q A)} {i j k : ι} {e : Event Q A}

theorem Before.tail (h : Before ((k, e) :: tr) i j) : Before tr i j := by
  obtain ⟨t₁, t₂, htr, hj, hi⟩ := h
  have hcons (l : ι) (t : List (ι × Event Q A)) (hl : eventsOf l ((k, e) :: t) = []) :
      eventsOf l t = [] := by
    by_cases hk : k = l
    · subst hk
      rw [eventsOf_cons_self] at hl
      cases hl
    · rwa [eventsOf_cons_ne hk] at hl
  cases t₁ with
  | nil =>
    obtain rfl : (k, e) :: tr = t₂ := htr
    exact ⟨[], tr, rfl, rfl, hcons i tr hi⟩
  | cons x t₁ =>
    obtain ⟨rfl, rfl⟩ := List.cons.inj htr
    exact ⟨t₁, t₂, rfl, hcons j t₁ hj, hi⟩

theorem Before.cons (h : Before tr i j) (hk : k ≠ j) : Before ((k, e) :: tr) i j := by
  obtain ⟨t₁, t₂, rfl, hj, hi⟩ := h
  exact ⟨(k, e) :: t₁, t₂, rfl, by rwa [eventsOf_cons_ne hk], hi⟩

theorem Before.asymm (h : Before tr i j) (h' : Before tr j i) :
    eventsOf i tr = [] ∨ eventsOf j tr = [] := by
  obtain ⟨t₁, t₂, rfl, hj, hi⟩ := h
  obtain ⟨u₁, u₂, htr, hi', hj'⟩ := h'
  rcases List.append_eq_append_iff.mp htr with ⟨v, rfl, rfl⟩ | ⟨v, rfl, rfl⟩
  · left
    rw [eventsOf_append] at hi' ⊢
    rw [(List.append_eq_nil_iff.mp hi').1, hi, List.append_nil]
  · right
    rw [eventsOf_append] at hj
    rw [List.append_assoc, eventsOf_append, (List.append_eq_nil_iff.mp hj).1, hj', List.append_nil]

/-- The events of `i` first: nothing was before it. -/
theorem not_before_head (hij : eventsOf i tr ≠ []) : ¬ Before ((j, e) :: tr) i j := by
  rintro ⟨t₁, t₂, htr, hj, hi⟩
  cases t₁ with
  | nil =>
    obtain rfl : (j, e) :: tr = t₂ := htr
    by_cases h : j = i
    · subst h
      rw [eventsOf_cons_self] at hi
      cases hi
    · rw [eventsOf_cons_ne h] at hi
      exact hij hi
  | cons x t₁ =>
    obtain ⟨rfl, -⟩ := List.cons.inj htr
    rw [eventsOf_cons_self] at hj
    cases hj

/-- One program after the other. -/
def blocks (tr : List (ι × Event Q A)) (order : List ι) : List (ι × Event Q A) :=
  order.flatMap fun i => (eventsOf i tr).map fun e => (i, e)

theorem blocks_cons_of_notMem {order : List ι} (h : i ∉ order) :
    blocks ((i, e) :: tr) order = blocks tr order := by
  refine List.flatMap_congr fun j hj => ?_
  have hij : i ≠ j := fun hij => h (hij ▸ hj)
  rw [eventsOf_cons_ne hij]

/-- **Serial traces.** -/
theorem exists_order (h : ∀ i j, i ≠ j → eventsOf i tr ≠ [] → eventsOf j tr ≠ [] →
      Before tr i j ∨ Before tr j i) :
    ∃ order : List ι, order.Nodup ∧ (∀ i, i ∈ order ↔ eventsOf i tr ≠ []) ∧
      order.Pairwise (Before tr) ∧ tr = blocks tr order := by
  induction tr with
  | nil => exact ⟨[], List.nodup_nil, fun i => by simp [eventsOf], List.Pairwise.nil, rfl⟩
  | cons x tr ih =>
    obtain ⟨i, e⟩ := x
    have hself : eventsOf i ((i, e) :: tr) ≠ [] := by simp
    have hcons (j : ι) (hj : eventsOf j tr ≠ []) : eventsOf j ((i, e) :: tr) ≠ [] := by
      by_cases hij : i = j
      · rwa [← hij]
      · rwa [eventsOf_cons_ne hij]
    obtain ⟨order, hnodup, hmem, hpairwise, htr⟩ := ih fun j k hjk hj hk =>
      (h j k hjk (hcons j hj) (hcons k hk)).imp Before.tail Before.tail
    by_cases hi : eventsOf i tr = []
    · -- `i` is over
      have hnot : i ∉ order := fun hio => (hmem i).mp hio hi
      refine ⟨i :: order, List.nodup_cons.mpr ⟨hnot, hnodup⟩, ?_, ?_, ?_⟩
      · intro j
        by_cases hij : i = j
        · subst hij
          exact iff_of_true (List.mem_cons_self ..) hself
        · rw [List.mem_cons, eventsOf_cons_ne hij, ← hmem j]
          exact or_iff_right (Ne.symm hij)
      · refine List.pairwise_cons.mpr ⟨fun j hj => ?_, ?_⟩
        · have hij : i ≠ j := fun hij => hnot (hij ▸ hj)
          exact ⟨[(i, e)], tr, rfl, by rw [eventsOf_cons_ne hij]; rfl, hi⟩
        · exact hpairwise.imp_of_mem fun {j k} _ hk hjk =>
            hjk.cons fun hik => hnot (hik ▸ hk)
      · rw [blocks, List.flatMap_cons, eventsOf_cons_self, hi]
        exact congrArg ((i, e) :: ·) (htr.trans (blocks_cons_of_notMem hnot).symm)
    · -- the block of `i` goes on
      have hio : i ∈ order := (hmem i).mpr hi
      obtain ⟨first, rest, rfl⟩ := List.exists_cons_of_ne_nil (List.ne_nil_of_mem hio)
      obtain ⟨hfirst, hrest⟩ := List.pairwise_cons.mp hpairwise
      obtain ⟨hnot, hnodup'⟩ := List.nodup_cons.mp hnodup
      have hhead : first = i := by
        by_contra hne
        have hfirstEvents := (hmem first).mp (List.mem_cons_self ..)
        have hbefore : Before tr first i :=
          hfirst i ((List.mem_cons.mp hio).resolve_left (Ne.symm hne))
        rcases h i first (Ne.symm hne) hself (hcons first hfirstEvents) with hif | hfi
        · rcases hif.tail.asymm hbefore with hnil | hnil
          · exact hi hnil
          · exact hfirstEvents hnil
        · exact not_before_head hfirstEvents hfi
      subst hhead
      refine ⟨first :: rest, hnodup, ?_, ?_, ?_⟩
      · intro j
        by_cases hij : first = j
        · subst hij
          exact iff_of_true (List.mem_cons_self ..) hself
        · rw [hmem j, eventsOf_cons_ne hij]
      · refine List.pairwise_cons.mpr ⟨fun j hj => ?_, ?_⟩
        · exact (hfirst j hj).cons fun hij => hnot (hij ▸ hj)
        · exact hrest.imp_of_mem fun {j k} _ hk hjk => hjk.cons fun hik => hnot (hik ▸ hk)
      · rw [blocks, List.flatMap_cons, eventsOf_cons_self, List.map_cons, List.cons_append]
        refine congrArg ((first, e) :: ·) (htr.trans ?_)
        rw [blocks, List.flatMap_cons]
        exact congrArg _ (blocks_cons_of_notMem hnot).symm

/-! ## Some of the programs -/

/-- The events of the programs in `p`. -/
def ofPrograms (p : ι → Bool) (tr : List (ι × Event Q A)) : List (ι × Event Q A) :=
  tr.filter fun x => p x.1

theorem eventsOf_ofPrograms (p : ι → Bool) (i : ι) (tr : List (ι × Event Q A)) :
    eventsOf i (ofPrograms p tr) = if p i = true then eventsOf i tr else [] := by
  induction tr with
  | nil => simp [ofPrograms, eventsOf]
  | cons x tr ih =>
    obtain ⟨j, e⟩ := x
    by_cases hj : p j = true
    · have hcons : ofPrograms p ((j, e) :: tr) = (j, e) :: ofPrograms p tr :=
        List.filter_cons_of_pos hj
      rw [hcons]
      by_cases hij : j = i
      · subst hij
        rw [eventsOf_cons_self, eventsOf_cons_self, ih, if_pos hj, if_pos hj]
      · rw [eventsOf_cons_ne hij, eventsOf_cons_ne hij, ih]
    · have hcons : ofPrograms p ((j, e) :: tr) = ofPrograms p tr := List.filter_cons_of_neg hj
      rw [hcons, ih]
      by_cases hij : j = i
      · subst hij
        rw [if_neg hj, if_neg hj]
      · rw [eventsOf_cons_ne hij]

theorem Before.ofPrograms (h : Before tr i j) (p : ι → Bool) : Before (ofPrograms p tr) i j := by
  obtain ⟨t₁, t₂, rfl, hj, hi⟩ := h
  refine ⟨Coroutine.ofPrograms p t₁, Coroutine.ofPrograms p t₂, List.filter_append .., ?_, ?_⟩
  · rw [eventsOf_ofPrograms, hj, ite_self]
  · rw [eventsOf_ofPrograms, hi, ite_self]

/-- **Serial programs** among others. -/
theorem exists_serial (p : ι → Bool)
    (h : ∀ i j, p i = true → p j = true → i ≠ j → Before tr i j ∨ Before tr j i) :
    ∃ order : List ι, order.Nodup ∧ (∀ i, i ∈ order ↔ p i = true ∧ eventsOf i tr ≠ []) ∧
      order.Pairwise (Before tr) ∧ ofPrograms p tr = blocks tr order := by
  have hmem (i : ι) : eventsOf i (ofPrograms p tr) ≠ [] ↔ p i = true ∧ eventsOf i tr ≠ [] := by
    rw [eventsOf_ofPrograms]
    by_cases hi : p i = true <;> simp [hi]
  have hserial : ∀ i j, i ≠ j → eventsOf i (ofPrograms p tr) ≠ [] →
      eventsOf j (ofPrograms p tr) ≠ [] →
      Before (ofPrograms p tr) i j ∨ Before (ofPrograms p tr) j i := by
    intro i j hij hi hj
    exact (h i j ((hmem i).mp hi).1 ((hmem j).mp hj).1 hij).imp (Before.ofPrograms · p)
      (Before.ofPrograms · p)
  obtain ⟨order, hnodup, horder, hpairwise, htr⟩ := exists_order hserial
  have hiff (i : ι) : i ∈ order ↔ p i = true ∧ eventsOf i tr ≠ [] := (horder i).trans (hmem i)
  refine ⟨order, hnodup, hiff, ?_, ?_⟩
  · refine (hpairwise.and (List.nodup_iff_pairwise_ne.mp hnodup)).imp_of_mem ?_
    rintro i j hi hj ⟨hij, hne⟩
    obtain ⟨hpi, -⟩ := (hiff i).mp hi
    obtain ⟨hpj, -⟩ := (hiff j).mp hj
    rcases h i j hpi hpj hne with hbefore | hbefore
    · exact hbefore
    · rcases hij.asymm (hbefore.ofPrograms p) with hnil | hnil
      · exact absurd hnil ((horder i).mp hi)
      · exact absurd hnil ((horder j).mp hj)
  · refine htr.trans (List.flatMap_congr fun i hi => ?_)
    rw [eventsOf_ofPrograms, if_pos ((hiff i).mp hi).1]

end Coroutine
