import Mathlib.Data.List.Nodup
import Mathlib.Data.List.Perm.Basic

/-!
# Joins of row lists

Tables are lists of rows, as SQL has bags of rows; the order of a table says
nothing before an `ORDER BY`.

* `expand`, `join`: rows with their details, inner join on a condition;
* `leftJoin`: left outer join.  It has a row for every row of the left table;
  `length_leftJoin_eq_iff` says when it has no more than these, and
  `leftJoin_eq_map` what it is then;
* `OrderedBy`: the results an `ORDER BY` admits.
-/

namespace Relational

variable {α β : Type}

/-- Every row with each of its details. -/
def expand (details : α → List β) (xs : List α) : List (α × β) :=
  xs.flatMap fun x => (details x).map fun y => (x, y)

theorem mem_expand {details : α → List β} {xs : List α} {x : α} {y : β} :
    (x, y) ∈ expand details xs ↔ x ∈ xs ∧ y ∈ details x := by
  simp only [expand, List.mem_flatMap, List.mem_map, Prod.mk.injEq]
  constructor
  · rintro ⟨x', hx, y', hy, rfl, rfl⟩
    exact ⟨hx, hy⟩
  · rintro ⟨hx, hy⟩
    exact ⟨x, hx, y, hy, rfl, rfl⟩

theorem nodup_expand {details : α → List β} {xs : List α} (hxs : xs.Nodup)
    (hdetails : ∀ x, (details x).Nodup) : (expand details xs).Nodup := by
  rw [expand, List.nodup_flatMap]
  constructor
  · intro x _
    exact (hdetails x).map fun y z h => (Prod.mk.inj h).2
  · refine hxs.imp fun {x x'} hne => ?_
    rintro ⟨a, b⟩ hab hab'
    obtain ⟨y, -, hy⟩ := List.mem_map.1 hab
    obtain ⟨y', -, hy'⟩ := List.mem_map.1 hab'
    exact hne ((Prod.mk.inj hy).1.trans (Prod.mk.inj hy').1.symm)

theorem expand_cons (details : α → List β) (x : α) (xs : List α) :
    expand details (x :: xs) = (details x).map (fun y => (x, y)) ++ expand details xs := rfl

theorem expand_congr {f g : α → List β} {xs : List α} (h : ∀ x ∈ xs, f x = g x) :
    expand f xs = expand g xs := by
  induction xs with
  | nil => rfl
  | cons x xs ih =>
    obtain ⟨hx, hxs⟩ := List.forall_mem_cons.1 h
    rw [expand_cons, expand_cons, hx, ih hxs]

/-- **No detail is missing** where as many rows are left. -/
theorem expand_complete {f g : α → List β} (hsub : ∀ x, (f x).Sublist (g x)) {xs : List α}
    (h : (expand g xs).length = (expand f xs).length) : ∀ x ∈ xs, f x = g x := by
  have hle : ∀ xs : List α, (expand f xs).length ≤ (expand g xs).length := by
    intro xs
    induction xs with
    | nil => exact Nat.le_refl _
    | cons x xs ih =>
      have hx := (hsub x).length_le
      simp only [expand_cons, List.length_append, List.length_map]
      omega
  induction xs with
  | nil => simp
  | cons x xs ih =>
    have hx := (hsub x).length_le
    have hxs := hle xs
    simp only [expand_cons, List.length_append, List.length_map] at h
    refine List.forall_mem_cons.2 ⟨?_, ih (by omega)⟩
    exact (hsub x).eq_of_length (by omega)

/-- `xs JOIN ys ON on`. -/
def join (on : α → β → Bool) (xs : List α) (ys : List β) : List (α × β) :=
  expand (fun x => ys.filter (on x)) xs

theorem mem_join {on : α → β → Bool} {xs : List α} {ys : List β} {x : α} {y : β} :
    (x, y) ∈ join on xs ys ↔ x ∈ xs ∧ y ∈ ys ∧ on x y = true := by
  rw [join, mem_expand, List.mem_filter]

/-- A row of the product occurs once. -/
theorem nodup_join (on : α → β → Bool) {xs : List α} {ys : List β} (hxs : xs.Nodup)
    (hys : ys.Nodup) : (join on xs ys).Nodup :=
  nodup_expand hxs fun _ => hys.filter _

/-- `xs LEFT JOIN ys ON on`: a row without a partner is kept, with nothing in
the partner's place. -/
def leftJoin (on : α → β → Bool) (xs : List α) (ys : List β) : List (α × Option β) :=
  xs.flatMap fun x =>
    match ys.filter (on x) with
    | [] => [(x, none)]
    | y :: more => (y :: more).map fun y => (x, some y)

variable {on : α → β → Bool} {xs : List α} {ys : List β}

theorem leftJoin_cons (x : α) :
    leftJoin on (x :: xs) ys = leftJoin on [x] ys ++ leftJoin on xs ys := by
  simp [leftJoin]

theorem length_leftJoin_singleton (x : α) :
    (leftJoin on [x] ys).length = max 1 (ys.filter (on x)).length := by
  cases h : ys.filter (on x) with
  | nil => simp [leftJoin, h]
  | cons y more =>
    simp only [leftJoin, h, List.flatMap_singleton, List.length_map, List.length_cons]
    omega

theorem length_le_length_leftJoin : xs.length ≤ (leftJoin on xs ys).length := by
  induction xs with
  | nil => exact Nat.zero_le _
  | cons x xs ih =>
    rw [leftJoin_cons, List.length_append, List.length_cons, length_leftJoin_singleton]
    omega

/-- **No row of the left table is repeated** exactly when none has two
partners. -/
theorem length_leftJoin_eq_iff :
    (leftJoin on xs ys).length = xs.length ↔ ∀ x ∈ xs, (ys.filter (on x)).length ≤ 1 := by
  induction xs with
  | nil => simp [leftJoin]
  | cons x xs ih =>
    have hle : xs.length ≤ (leftJoin on xs ys).length := length_le_length_leftJoin
    rw [leftJoin_cons, List.length_append, List.length_cons, length_leftJoin_singleton,
      List.forall_mem_cons, ← ih]
    omega

theorem leftJoin_eq_map (h : ∀ x ∈ xs, (ys.filter (on x)).length ≤ 1) :
    leftJoin on xs ys = xs.map fun x => (x, (ys.filter (on x)).head?) := by
  induction xs with
  | nil => rfl
  | cons x xs ih =>
    obtain ⟨hx, hxs⟩ := List.forall_mem_cons.1 h
    rw [leftJoin_cons, ih hxs, List.map_cons]
    have hhead : leftJoin on [x] ys = [(x, (ys.filter (on x)).head?)] := by
      cases hys : ys.filter (on x) with
      | nil => simp [leftJoin, hys]
      | cons y more =>
        rw [hys, List.length_cons] at hx
        have hmore : more = [] := List.length_eq_zero_iff.1 (by omega)
        simp [leftJoin, hys, hmore]
    rw [hhead, List.singleton_append]

/-- At most one row of a table without repetitions meets a condition exactly
when any two that meet it are the same. -/
theorem length_filter_le_one_iff {p : α → Bool} (h : xs.Nodup) :
    (xs.filter p).length ≤ 1 ↔
      ∀ x ∈ xs, ∀ y ∈ xs, p x = true → p y = true → x = y := by
  constructor
  · intro hle x hx y hy hpx hpy
    have hxf : x ∈ xs.filter p := List.mem_filter.2 ⟨hx, hpx⟩
    have hyf : y ∈ xs.filter p := List.mem_filter.2 ⟨hy, hpy⟩
    cases hf : xs.filter p with
    | nil => simp [hf] at hxf
    | cons a more =>
      rw [hf, List.length_cons] at hle
      have hmore : more = [] := List.length_eq_zero_iff.1 (by omega)
      rw [hf, hmore, List.mem_singleton] at hxf hyf
      rw [hxf, hyf]
  · intro hall
    have hnodup := h.filter p
    cases hf : xs.filter p with
    | nil => simp
    | cons a more =>
      cases more with
      | nil => simp
      | cons b more =>
        have ha : a ∈ xs.filter p := by simp [hf]
        have hb : b ∈ xs.filter p := by simp [hf]
        rw [List.mem_filter] at ha hb
        have hab := hall a ha.1 b hb.1 ha.2 hb.2
        rw [hf, hab] at hnodup
        simp at hnodup

/-- `rows` holds the rows of `xs` in an order that `le` admits; ties are open. -/
structure OrderedBy (le : α → α → Prop) (xs rows : List α) : Prop where
  perm : rows.Perm xs
  pairwise : rows.Pairwise le

/-- Ordering a table by a column it was made from is ordering the origin. -/
theorem OrderedBy.of_map {le : β → β → Prop} {f : α → β} {g : β → α}
    (hg : ∀ x, g (f x) = x) {rows : List β} (h : OrderedBy le (xs.map f) rows) :
    ∃ origin, OrderedBy (fun x y => le (f x) (f y)) xs origin ∧ rows = origin.map f := by
  have hrows : (rows.map g).map f = rows := by
    rw [List.map_map]
    refine (List.map_congr_left fun row hrow => ?_).trans (List.map_id rows)
    obtain ⟨x, -, rfl⟩ := List.mem_map.1 (h.perm.mem_iff.1 hrow)
    rw [Function.comp_apply, hg, id]
  have hperm : (rows.map g).Perm xs := by
    have hmap := h.perm.map g
    have hid : g ∘ f = id := funext hg
    rwa [List.map_map, hid, List.map_id] at hmap
  refine ⟨rows.map g, ⟨hperm, ?_⟩, hrows.symm⟩
  rw [← List.pairwise_map, hrows]
  exact h.pairwise

end Relational
