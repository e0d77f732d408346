import Mathlib.Data.List.Basic

/-!
# Rows of a query result, records of the schema
-/

namespace UniversityQA.Db

/-- A value of a result row.  A float is carried by its `repr`, a value that
JSON has no form for (a date, a decimal) by its `str`. -/
inductive DbValue where
  | null
  | bool (b : Bool)
  | int (n : Int)
  | float (repr : String)
  | text (s : String)
  | list (xs : List DbValue)
  | other (str : String)
  deriving Repr

/-- A row dict, column names to values. -/
abbrev Row := List (String × DbValue)

/-- A record of `fetch_schema`, one for each column. -/
structure ColumnRecord where
  table : String
  column : String
  type : String
  isFk : Bool
  references : Option String
  deriving DecidableEq, Repr

/-- A loop of which no step raises. -/
theorem mapM_eq_ok {α β δ : Type} {f : α → Except δ β} {g : α → β} {xs : List α}
    (h : ∀ x ∈ xs, f x = .ok (g x)) : xs.mapM f = .ok (xs.map g) := by
  induction xs with
  | nil => rfl
  | cons x xs ih =>
    obtain ⟨hx, hxs⟩ := List.forall_mem_cons.1 h
    rw [List.mapM_cons, hx, ih hxs]
    rfl

theorem mem_of_mapM {α β δ : Type} {f : α → Except δ β} {xs : List α} {ys : List β}
    (h : xs.mapM f = .ok ys) : ∀ y ∈ ys, ∃ x ∈ xs, f x = .ok y := by
  induction xs generalizing ys with
  | nil =>
    cases h
    exact List.forall_mem_nil _
  | cons x xs ih =>
    rw [List.mapM_cons] at h
    cases hx : f x with
    | error e =>
      rw [hx] at h
      cases h
    | ok z =>
      cases hxs : xs.mapM f with
      | error e =>
        rw [hx, hxs] at h
        cases h
      | ok zs =>
        rw [hx, hxs] at h
        cases h
        refine List.forall_mem_cons.2 ⟨⟨x, List.mem_cons_self, hx⟩, fun y hy => ?_⟩
        obtain ⟨x', hx', hy⟩ := ih hxs y hy
        exact ⟨x', List.mem_cons_of_mem x hx', hy⟩


end UniversityQA.Db
