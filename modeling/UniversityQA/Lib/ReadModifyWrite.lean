import Mathlib.Data.List.Induction
import Mathlib.Data.List.Perm.Basic
import UniversityQA.Lib.Trace

/-!
# Appending by read, modify and write

Many parties append to one list, each by loading it and storing the loaded
value with something added.  Nothing locks the list in between.  `op` tells
which events of a trace are loads and stores.

* `complete_or_short`: as long as every store follows a load of its own party
  with no store in between, the list is everything stored so far; from the
  first other store on it is shorter;
* `stored_complete_iff`: nothing is lost exactly when the trace is
  `Undisturbed`.
-/

namespace ReadModifyWrite

open Trace

/-- A load of `v`, or a store of `v ++ new`. -/
inductive Op (ι α : Type) where
  | load (i : ι) (v : List α)
  | store (i : ι) (v new : List α)

variable {ι α E : Type} (op : E → Option (Op ι α))

/-- The list after an event. -/
def write (cur : List α) (e : E) : List α :=
  match op e with
  | some (.store _ v new) => v ++ new
  | _ => cur

/-- The list after a trace. -/
def stored (init : List α) (tr : List E) : List α := tr.foldl (write op) init

/-- What the stores of a trace added, in order. -/
def additions (tr : List E) : List (List α) :=
  tr.filterMap fun e =>
    match op e with
    | some (.store _ _ new) => some new
    | _ => none

/-- `i` has loaded, and nobody has stored since. -/
def Fresh (i : ι) (tr : List E) : Prop :=
  ∃ pre e mid v, tr = pre ++ e :: mid ∧ op e = some (.load i v) ∧ additions op mid = []

/-- Every store follows a load of its own party with no store in between. -/
def Undisturbed (tr : List E) : Prop :=
  Always (fun pre e => ∀ i v new, op e = some (.store i v new) → Fresh op i pre) [] tr

/-- Loads read the list, and a store goes back to the one load of its party
and adds something. -/
structure Disciplined (init : List α) (tr : List E) : Prop where
  reads : Always (fun pre e => ∀ i v, op e = some (.load i v) → v = stored op init pre) [] tr
  based : Always (fun pre e => ∀ i v new, op e = some (.store i v new) →
    new ≠ [] ∧ (∃ e' ∈ pre, op e' = some (.load i v)) ∧
      ∀ e' ∈ pre, ∀ v', op e' = some (.load i v') → v' = v) [] tr

variable {op}

theorem always_snoc {P : List E → E → Prop} {tr : List E} {e : E} :
    Always P [] (tr ++ [e]) ↔ Always P [] tr ∧ P tr e := by
  rw [always_append]
  simp

theorem stored_snoc (init : List α) (tr : List E) (e : E) :
    stored op init (tr ++ [e]) = write op (stored op init tr) e := by
  simp [stored]

theorem additions_append (t₁ t₂ : List E) :
    additions op (t₁ ++ t₂) = additions op t₁ ++ additions op t₂ := List.filterMap_append

/-- An event is a store or leaves the list alone. -/
theorem store_or_idle (op : E → Option (Op ι α)) (e : E) :
    (∃ i v new, op e = some (.store i v new) ∧ additions op [e] = [new]) ∨
      (additions op [e] = [] ∧ ∀ cur, write op cur e = cur) := by
  cases he : op e with
  | none => exact .inr ⟨by simp [additions, he], fun cur => by simp [write, he]⟩
  | some o =>
    cases o with
    | load i v => exact .inr ⟨by simp [additions, he], fun cur => by simp [write, he]⟩
    | store i v new => exact .inl ⟨i, v, new, rfl, by simp [additions, he]⟩

theorem write_store {e : E} {i : ι} {v new : List α} (he : op e = some (.store i v new))
    (cur : List α) : write op cur e = v ++ new := by
  simp [write, he]

theorem stored_append_of_idle (init : List α) (t₁ t₂ : List E) (h : additions op t₂ = []) :
    stored op init (t₁ ++ t₂) = stored op init t₁ := by
  induction t₂ using List.reverseRecOn with
  | nil => rw [List.append_nil]
  | append_singleton t₂ e ih =>
    rw [additions_append, List.append_eq_nil_iff] at h
    rcases store_or_idle op e with ⟨i, v, new, _, hadd⟩ | ⟨_, hwrite⟩
    · rw [hadd] at h
      cases h.2
    · rw [← List.append_assoc, stored_snoc, hwrite, ih h.1]

/-! ## Freshness -/

theorem fresh_snoc_of_idle {e : E} {i : ι} {tr : List E} (h : Fresh op i tr)
    (he : additions op [e] = []) : Fresh op i (tr ++ [e]) := by
  obtain ⟨pre, e', mid, v, rfl, hload, hmid⟩ := h
  refine ⟨pre, e', mid ++ [e], v, by simp, hload, ?_⟩
  rw [additions_append, hmid, he]
  rfl

theorem fresh_snoc_load {e : E} {i : ι} {v : List α} (he : op e = some (.load i v)) (tr : List E) :
    Fresh op i (tr ++ [e]) := ⟨tr, e, [], v, rfl, he, rfl⟩

/-- A fresh party has loaded the list as it is. -/
theorem Fresh.value {init : List α} {i : ι} {tr : List E} (h : Fresh op i tr)
    (hreads : Always (fun pre e => ∀ i v, op e = some (.load i v) → v = stored op init pre) [] tr) :
    ∃ e ∈ tr, op e = some (.load i (stored op init tr)) := by
  obtain ⟨pre, e, mid, v, rfl, hload, hmid⟩ := h
  have hv := (always_iff [] _).mp hreads pre e mid rfl i v hload
  have hidle : additions op (e :: mid) = [] := by
    have hcons : additions op (e :: mid) = additions op [e] ++ additions op mid :=
      additions_append [e] mid
    rw [hcons, hmid]
    simp [additions, hload]
  refine ⟨e, by simp, ?_⟩
  rw [stored_append_of_idle init pre (e :: mid) hidle, hload, hv]
  rfl

/-! ## The invariant -/

/-- Everything stored so far is there, and what was loaded is at most that; it
is less once somebody else has stored. -/
structure Complete (op : E → Option (Op ι α)) (init : List α) (tr : List E) : Prop where
  value : stored op init tr = init ++ (additions op tr).flatten
  loads : ∀ e ∈ tr, ∀ i v, op e = some (.load i v) → v.length ≤ (stored op init tr).length
  stale : ∀ e ∈ tr, ∀ i v, op e = some (.load i v) → ¬ Fresh op i tr →
    v.length < (stored op init tr).length

/-- Something is missing, also from all that was loaded. -/
structure Short (op : E → Option (Op ι α)) (init : List α) (tr : List E) : Prop where
  value : (stored op init tr).length < init.length + (additions op tr).flatten.length
  loads : ∀ e ∈ tr, ∀ i v, op e = some (.load i v) →
    v.length < init.length + (additions op tr).flatten.length

theorem complete_nil (init : List α) : Complete op init [] where
  value := by simp [stored, additions]
  loads _ he := by cases he
  stale _ he := by cases he

section Step

variable {init : List α} {tr : List E} {e : E}

theorem Complete.idle (h : Complete op init tr) (hadd : additions op [e] = [])
    (hwrite : ∀ cur, write op cur e = cur)
    (hread : ∀ i v, op e = some (.load i v) → v = stored op init tr) :
    Complete op init (tr ++ [e]) := by
  have hstored : stored op init (tr ++ [e]) = stored op init tr := by rw [stored_snoc, hwrite]
  refine ⟨?_, fun e' he' i v hload => ?_, fun e' he' i v hload hstale => ?_⟩
  · rw [hstored, additions_append, hadd, List.append_nil]
    exact h.value
  · rw [hstored]
    rcases List.mem_append.mp he' with hmem | hmem
    · exact h.loads e' hmem i v hload
    · cases List.mem_singleton.mp hmem
      exact Nat.le_of_eq (congrArg List.length (hread i v hload))
  · rw [hstored]
    rcases List.mem_append.mp he' with hmem | hmem
    · exact h.stale e' hmem i v hload fun hfresh => hstale (fresh_snoc_of_idle hfresh hadd)
    · cases List.mem_singleton.mp hmem
      exact absurd (fresh_snoc_load hload tr) hstale

variable {i : ι} {v new : List α}

theorem Complete.store (h : Complete op init tr) (he : op e = some (.store i v new))
    (hadd : additions op [e] = [new]) (hnew : new ≠ []) (hv : v = stored op init tr) :
    Complete op init (tr ++ [e]) := by
  have hpos := List.length_pos_iff.mpr hnew
  have hstored : stored op init (tr ++ [e]) = stored op init tr ++ new := by
    rw [stored_snoc, write_store he, hv]
  have hless : ∀ e' ∈ tr ++ [e], ∀ j w, op e' = some (.load j w) →
      w.length < (stored op init (tr ++ [e])).length := by
    intro e' he' j w hload
    rw [hstored, List.length_append]
    rcases List.mem_append.mp he' with hmem | hmem
    · have := h.loads e' hmem j w hload
      omega
    · cases List.mem_singleton.mp hmem
      rw [he] at hload
      cases hload
  refine ⟨?_, fun e' he' j w hload => ?_, fun e' he' j w hload _ => hless e' he' j w hload⟩
  · rw [hstored, h.value, additions_append, hadd]
    simp
  · have := hless e' he' j w hload
    omega

/-- A store by a party that is behind. -/
theorem short_of_behind (he : op e = some (.store i v new)) (hadd : additions op [e] = [new])
    (hnew : new ≠ []) (hv : v.length < init.length + (additions op tr).flatten.length)
    (hloads : ∀ e' ∈ tr, ∀ j w, op e' = some (.load j w) →
      w.length ≤ init.length + (additions op tr).flatten.length) :
    Short op init (tr ++ [e]) := by
  have hpos := List.length_pos_iff.mpr hnew
  have hlength : (additions op (tr ++ [e])).flatten.length =
      (additions op tr).flatten.length + new.length := by
    rw [additions_append, hadd]
    simp
  refine ⟨?_, fun e' he' j w hload => ?_⟩
  · rw [stored_snoc, write_store he, List.length_append]
    omega
  · rcases List.mem_append.mp he' with hmem | hmem
    · have := hloads e' hmem j w hload
      omega
    · cases List.mem_singleton.mp hmem
      rw [he] at hload
      cases hload

theorem Short.idle (h : Short op init tr) (hadd : additions op [e] = [])
    (hwrite : ∀ cur, write op cur e = cur)
    (hread : ∀ i v, op e = some (.load i v) → v = stored op init tr) :
    Short op init (tr ++ [e]) := by
  refine ⟨?_, fun e' he' j w hload => ?_⟩
  · rw [stored_snoc, hwrite, additions_append, hadd, List.append_nil]
    exact h.value
  · rw [additions_append, hadd, List.append_nil]
    rcases List.mem_append.mp he' with hmem | hmem
    · exact h.loads e' hmem j w hload
    · cases List.mem_singleton.mp hmem
      rw [hread j w hload]
      exact h.value

end Step

/-! ## Whole traces -/

/-- **Lost updates.** -/
theorem complete_or_short {init : List α} {tr : List E} (h : Disciplined op init tr) :
    (Undisturbed op tr ∧ Complete op init tr) ∨ (¬ Undisturbed op tr ∧ Short op init tr) := by
  obtain ⟨hreads, hbased⟩ := h
  induction tr using List.reverseRecOn with
  | nil => exact .inl ⟨always_nil [], complete_nil init⟩
  | append_singleton tr e ih =>
    rw [always_snoc] at hreads hbased
    rw [Undisturbed, always_snoc]
    rcases store_or_idle op e with ⟨i, v, new, he, hadd⟩ | ⟨hadd, hwrite⟩
    · obtain ⟨hnew, ⟨e', hmem, hload⟩, hunique⟩ := hbased.2 i v new he
      rcases ih hreads.1 hbased.1 with ⟨hundisturbed, hcomplete⟩ | ⟨hdisturbed, hshort⟩
      · by_cases hfresh : Fresh op i tr
        · obtain ⟨e'', hmem', hvalue⟩ := hfresh.value hreads.1
          have hv := hunique e'' hmem' _ hvalue
          refine .inl ⟨⟨hundisturbed, fun j w new' he' => ?_⟩, hcomplete.store he hadd hnew hv.symm⟩
          rw [he] at he'
          cases he'
          exact hfresh
        · refine .inr ⟨fun hall => hfresh (hall.2 i v new he), ?_⟩
          have hlength := congrArg List.length hcomplete.value
          rw [List.length_append] at hlength
          refine short_of_behind he hadd hnew ?_ fun e'' hmem' j w hload' => ?_
          · rw [← hlength]
            exact hcomplete.stale e' hmem i v hload hfresh
          · rw [← hlength]
            exact hcomplete.loads e'' hmem' j w hload'
      · refine .inr ⟨fun hall => hdisturbed hall.1, ?_⟩
        apply short_of_behind he hadd hnew (hshort.loads e' hmem i v hload)
        exact fun e'' hmem' j w hload' => Nat.le_of_lt (hshort.loads e'' hmem' j w hload')
    · have hidle : ∀ i v new, op e = some (.store i v new) → Fresh op i tr := by
        intro i v new he
        simp [additions, he] at hadd
      rcases ih hreads.1 hbased.1 with ⟨hundisturbed, hcomplete⟩ | ⟨hdisturbed, hshort⟩
      · exact .inl ⟨⟨hundisturbed, hidle⟩, hcomplete.idle hadd hwrite hreads.2⟩
      · exact .inr ⟨fun hall => hdisturbed hall.1, hshort.idle hadd hwrite hreads.2⟩

theorem Disciplined.complete {init : List α} {tr : List E} (h : Disciplined op init tr)
    (hundisturbed : Undisturbed op tr) : Complete op init tr := by
  rcases complete_or_short h with ⟨_, hcomplete⟩ | ⟨hdisturbed, _⟩
  · exact hcomplete
  · exact absurd hundisturbed hdisturbed

/-- **Nothing is lost** exactly when no store comes between a load and the
store that goes back to it. -/
theorem stored_complete_iff {init : List α} {tr : List E} (h : Disciplined op init tr) :
    (∃ parts : List (List α), parts.Perm (additions op tr) ∧ stored op init tr = init ++ parts.flatten) ↔
      Undisturbed op tr := by
  rcases complete_or_short h with ⟨hundisturbed, hcomplete⟩ | ⟨hdisturbed, hshort⟩
  · exact iff_of_true ⟨_, .refl _, hcomplete.value⟩ hundisturbed
  · refine iff_of_false ?_ hdisturbed
    rintro ⟨parts, hperm, hvalue⟩
    have hshorter := hshort.value
    rw [hvalue, List.length_append, hperm.flatten.length_eq] at hshorter
    omega

end ReadModifyWrite
