import Mathlib.Data.List.Induction
import Mathlib.Data.List.Nodup

/-!
# Dicts with insertion order

A Python `dict` as the list of its items in insertion order.  An assignment to
a key that is there keeps the key's place and replaces its value.

* `Dict.lookup_ofPairs`: of several pairs with one key the last one counts.
* `Dict.Holds`: what a dict built from pairs has to be, whichever of the pairs
  of a key it keeps.
* `Dict.Holds.keeps_all_iff`: such a dict keeps every pair exactly when no two
  pairs disagree about a key.
* `Dict.foldl_push`: a dict of lists filled item by item has the keys in the
  order of their first occurrence, each with its own items in order.
-/

namespace UniversityQA.Py

/-- A `dict`, items in insertion order. -/
abbrev Dict (κ ν : Type) := List (κ × ν)

variable {κ ν : Type} [DecidableEq κ]

/-- `d[key] = value`. -/
def Dict.set : Dict κ ν → κ → ν → Dict κ ν
  | [], key, value => [(key, value)]
  | (k, v) :: d, key, value => if k = key then (k, value) :: d else (k, v) :: Dict.set d key value

/-- `dict(pairs)`. -/
def Dict.ofPairs (pairs : List (κ × ν)) : Dict κ ν :=
  pairs.foldl (fun d p => d.set p.1 p.2) []

theorem lookup_cons_ite (k' : κ) (v : ν) (d : List (κ × ν)) (k : κ) :
    List.lookup k ((k', v) :: d) = if k = k' then some v else d.lookup k := by
  by_cases h : k = k'
  · rw [h, List.lookup_cons_self, if_pos rfl]
  · rw [List.lookup_cons, beq_eq_false_iff_ne.2 h, if_neg h]

theorem Dict.lookup_set (d : Dict κ ν) (key k : κ) (value : ν) :
    (d.set key value).lookup k = if k = key then some value else d.lookup k := by
  induction d with
  | nil => exact lookup_cons_ite key value [] k
  | cons p d ih =>
    obtain ⟨k', v⟩ := p
    by_cases h : k' = key
    · rw [Dict.set, if_pos h, lookup_cons_ite, lookup_cons_ite, h]
      split <;> rfl
    · rw [Dict.set, if_neg h, lookup_cons_ite, lookup_cons_ite, ih]
      by_cases hk : k = k'
      · rw [if_pos hk, if_neg (hk ▸ h), if_pos hk]
      · rw [if_neg hk, if_neg hk]

theorem Dict.keys_set (d : Dict κ ν) (key : κ) (value : ν) :
    (d.set key value).map Prod.fst =
      if key ∈ d.map Prod.fst then d.map Prod.fst else d.map Prod.fst ++ [key] := by
  induction d with
  | nil => rfl
  | cons p d ih =>
    obtain ⟨k, v⟩ := p
    by_cases h : k = key
    · simp [Dict.set, h]
    · rw [Dict.set, if_neg h, List.map_cons, List.map_cons, ih]
      by_cases hd : key ∈ d.map Prod.fst
      · rw [if_pos hd, if_pos (List.mem_cons_of_mem _ hd)]
      · rw [if_neg hd, if_neg (by simpa [Ne.symm h] using hd)]
        rfl

theorem Dict.nodup_set {d : Dict κ ν} (h : (d.map Prod.fst).Nodup) (key : κ) (value : ν) :
    ((d.set key value).map Prod.fst).Nodup := by
  rw [Dict.keys_set]
  split
  · exact h
  · next hkey => exact List.nodup_append.2 ⟨h, List.nodup_singleton _, by grind⟩

theorem Dict.ofPairs_append_singleton (pairs : List (κ × ν)) (p : κ × ν) :
    Dict.ofPairs (pairs ++ [p]) = (Dict.ofPairs pairs).set p.1 p.2 := by
  simp [Dict.ofPairs]

theorem Dict.lookup_ofPairs (pairs : List (κ × ν)) (k : κ) :
    (Dict.ofPairs pairs).lookup k = pairs.reverse.lookup k := by
  induction pairs using List.reverseRecOn with
  | nil => rfl
  | append_singleton pairs p ih =>
    rw [Dict.ofPairs_append_singleton, Dict.lookup_set, ih, List.reverse_append,
      List.reverse_singleton, List.singleton_append]
    exact (lookup_cons_ite p.1 p.2 _ k).symm

theorem Dict.nodup_ofPairs (pairs : List (κ × ν)) : ((Dict.ofPairs pairs).map Prod.fst).Nodup := by
  induction pairs using List.reverseRecOn with
  | nil => exact List.nodup_nil
  | append_singleton pairs p ih =>
    rw [Dict.ofPairs_append_singleton]
    exact Dict.nodup_set ih _ _

/-! ## Dicts of given pairs -/

/-- `d` has one item for every key of `pairs`, with one of the key's values. -/
structure Dict.Holds (pairs : List (κ × ν)) (d : Dict κ ν) : Prop where
  nodup : (d.map Prod.fst).Nodup
  sound : ∀ k v, d.lookup k = some v → (k, v) ∈ pairs
  complete : ∀ k v, (k, v) ∈ pairs → (d.lookup k).isSome

/-- No key has two values. -/
def Dict.Functional (pairs : List (κ × ν)) : Prop :=
  ∀ k v w, (k, v) ∈ pairs → (k, w) ∈ pairs → v = w

theorem mem_of_lookup {pairs : List (κ × ν)} {k : κ} {v : ν} (h : pairs.lookup k = some v) :
    (k, v) ∈ pairs := by
  obtain ⟨l₁, l₂, hsplit, -⟩ := List.lookup_eq_some_iff.1 h
  rw [hsplit]
  exact List.mem_append_right _ (List.mem_cons_self ..)

theorem lookup_of_mem {d : List (κ × ν)} (h : (d.map Prod.fst).Nodup) {k : κ} {v : ν}
    (hmem : (k, v) ∈ d) : d.lookup k = some v := by
  induction d with
  | nil => cases hmem
  | cons p d ih =>
    obtain ⟨hnotMem, hnodup⟩ := List.nodup_cons.1 h
    rw [lookup_cons_ite]
    rcases List.mem_cons.1 hmem with rfl | hmem
    · rw [if_pos rfl]
    · have hne : k ≠ p.1 := by
        rintro rfl
        exact hnotMem (List.mem_map.2 ⟨_, hmem, rfl⟩)
      rw [if_neg hne, ih hnodup hmem]

theorem lookup_isSome_of_mem {pairs : List (κ × ν)} {k : κ} {v : ν} (h : (k, v) ∈ pairs) :
    (pairs.lookup k).isSome := by
  rw [List.lookup_isSome_iff]
  exact ⟨(k, v), h, beq_self_eq_true k⟩

theorem Dict.ofPairs_holds (pairs : List (κ × ν)) : Dict.Holds pairs (Dict.ofPairs pairs) where
  nodup := Dict.nodup_ofPairs pairs
  sound k v h := by
    rw [Dict.lookup_ofPairs] at h
    exact List.mem_reverse.1 (mem_of_lookup h)
  complete k v h := by
    rw [Dict.lookup_ofPairs]
    exact lookup_isSome_of_mem (List.mem_reverse.2 h)

/-- **A dict keeps all its pairs exactly when they agree.** -/
theorem Dict.Holds.keeps_all_iff {pairs : List (κ × ν)} {d : Dict κ ν} (h : Dict.Holds pairs d) :
    (∀ k v, (k, v) ∈ pairs → d.lookup k = some v) ↔ Dict.Functional pairs := by
  constructor
  · intro hall k v w hv hw
    have hvw := (hall k v hv).symm.trans (hall k w hw)
    exact Option.some.inj hvw
  · intro hfun k v hv
    obtain ⟨w, hw⟩ := Option.isSome_iff_exists.1 (h.complete k v hv)
    rw [hw, hfun k v w hv (h.sound k w hw)]

/-! ## Dicts of lists -/

/-- `d[key].append(value)`, for a key that is not there on a new list. -/
def Dict.push (d : Dict κ (List ν)) (key : κ) (value : ν) : Dict κ (List ν) :=
  d.set key ((d.lookup key).getD [] ++ [value])

/-- The values of the pairs with key `k`, in order. -/
def valuesAt (pairs : List (κ × ν)) (k : κ) : List ν :=
  (pairs.filter fun p => p.1 = k).map Prod.snd

/-- Each key once, in the order of first occurrence, with its values. -/
def Dict.groups (pairs : List (κ × ν)) : Dict κ (List ν) :=
  (pairs.map Prod.fst).eraseDups.map fun k => (k, valuesAt pairs k)

theorem Dict.set_set (d : Dict κ ν) (key : κ) (v w : ν) : (d.set key v).set key w = d.set key w := by
  induction d with
  | nil => simp [Dict.set]
  | cons p d ih =>
    obtain ⟨k, u⟩ := p
    by_cases h : k = key
    · simp [Dict.set, h]
    · simp [Dict.set, h, ih]

theorem Dict.set_map_of_notMem {ks : List κ} {key : κ} (h : key ∉ ks) (f : κ → ν) (v : ν) :
    Dict.set (ks.map fun k => (k, f k)) key v = (ks.map fun k => (k, f k)) ++ [(key, v)] := by
  induction ks with
  | nil => rfl
  | cons k ks ih =>
    obtain ⟨hk, hks⟩ := not_or.1 (mt List.mem_cons.2 h)
    rw [List.map_cons, Dict.set, if_neg (Ne.symm hk), ih hks, List.cons_append]

theorem Dict.set_map_of_mem {ks : List κ} (hnodup : ks.Nodup) {key : κ} (h : key ∈ ks) (f : κ → ν)
    (v : ν) : Dict.set (ks.map fun k => (k, f k)) key v =
      ks.map fun k => (k, if k = key then v else f k) := by
  induction ks with
  | nil => cases h
  | cons k ks ih =>
    obtain ⟨hk, hks⟩ := List.nodup_cons.1 hnodup
    rw [List.map_cons, List.map_cons, Dict.set]
    by_cases hkey : k = key
    · have hrest : ∀ a ∈ ks, f a = if a = key then v else f a := by
        intro a ha
        rw [if_neg]
        rintro rfl
        exact hk (hkey ▸ ha)
      rw [if_pos hkey, if_pos hkey]
      exact congrArg _ (List.map_congr_left fun a ha => congrArg (Prod.mk a) (hrest a ha))
    · rw [if_neg hkey, if_neg hkey, ih hks ((List.mem_cons.1 h).resolve_left (Ne.symm hkey))]

theorem lookup_map_pair (ks : List κ) (f : κ → ν) (key : κ) :
    List.lookup key (ks.map fun k => (k, f k)) = if key ∈ ks then some (f key) else none := by
  induction ks with
  | nil => rfl
  | cons k ks ih =>
    rw [List.map_cons, lookup_cons_ite, ih]
    by_cases hk : key = k
    · simp [hk]
    · simp [hk]

theorem eraseDups_append_singleton (ks : List κ) (k : κ) :
    (ks ++ [k]).eraseDups = if k ∈ ks then ks.eraseDups else ks.eraseDups ++ [k] := by
  rw [List.eraseDups_append]
  by_cases hk : k ∈ ks
  · simp [List.removeAll, hk]
  · simp [List.removeAll, hk, List.eraseDups_cons]

theorem nodup_eraseDups (ks : List κ) : ks.eraseDups.Nodup := by
  induction ks using List.reverseRecOn with
  | nil => exact List.nodup_nil
  | append_singleton ks k ih =>
    rw [eraseDups_append_singleton]
    split
    · exact ih
    · next hk =>
      have hkeys : k ∉ ks.eraseDups := mt List.mem_eraseDups.1 hk
      exact List.nodup_append.2 ⟨ih, List.nodup_singleton _, by grind⟩

theorem valuesAt_of_notMem {pairs : List (κ × ν)} {k : κ} (h : k ∉ pairs.map Prod.fst) :
    valuesAt pairs k = [] := by
  rw [valuesAt, List.map_eq_nil_iff, List.filter_eq_nil_iff]
  intro p hp hk
  exact h (List.mem_map.2 ⟨p, hp, of_decide_eq_true hk⟩)

theorem valuesAt_append_singleton (pairs : List (κ × ν)) (p : κ × ν) (k : κ) :
    valuesAt (pairs ++ [p]) k =
      if k = p.1 then valuesAt pairs k ++ [p.2] else valuesAt pairs k := by
  by_cases hk : k = p.1
  · simp [valuesAt, hk]
  · simp [valuesAt, hk, Ne.symm hk]

theorem Dict.groups_append_singleton (pairs : List (κ × ν)) (p : κ × ν) :
    Dict.groups (pairs ++ [p]) = (Dict.groups pairs).push p.1 p.2 := by
  obtain ⟨k, v⟩ := p
  rw [Dict.groups, List.map_append, List.map_singleton, eraseDups_append_singleton]
  rw [Dict.push, Dict.groups, lookup_map_pair]
  by_cases hk : k ∈ pairs.map Prod.fst
  · have hkeys : k ∈ (pairs.map Prod.fst).eraseDups := List.mem_eraseDups.2 hk
    rw [if_pos hk, if_pos hkeys, Dict.set_map_of_mem (nodup_eraseDups _) hkeys]
    refine List.map_congr_left fun a _ => ?_
    rw [valuesAt_append_singleton]
    by_cases hak : a = k
    · rw [if_pos hak, if_pos hak, hak]
      rfl
    · rw [if_neg hak, if_neg hak]
  · have hkeys : k ∉ (pairs.map Prod.fst).eraseDups := mt List.mem_eraseDups.1 hk
    rw [if_neg hk, if_neg hkeys, Dict.set_map_of_notMem hkeys, List.map_append]
    have hold : (pairs.map Prod.fst).eraseDups.map (fun a => (a, valuesAt (pairs ++ [(k, v)]) a)) =
        (pairs.map Prod.fst).eraseDups.map fun a => (a, valuesAt pairs a) := by
      refine List.map_congr_left fun a ha => ?_
      rw [valuesAt_append_singleton, if_neg]
      rintro rfl
      exact hkeys ha
    rw [hold, List.map_singleton, valuesAt_append_singleton, if_pos rfl, valuesAt_of_notMem hk]
    rfl

/-- **Grouping.**  The loop that appends each value to the list of its key. -/
theorem Dict.foldl_push (pairs : List (κ × ν)) :
    pairs.foldl (fun d p => Dict.push d p.1 p.2) [] = Dict.groups pairs := by
  induction pairs using List.reverseRecOn with
  | nil => rfl
  | append_singleton pairs p ih =>
    rw [List.foldl_append, ih, Dict.groups_append_singleton]
    rfl

theorem valuesAt_append (pairs pairs' : List (κ × ν)) (k : κ) :
    valuesAt (pairs ++ pairs') k = valuesAt pairs k ++ valuesAt pairs' k := by
  rw [valuesAt, List.filter_append, List.map_append]
  rfl

/-- Items that stand together already are left as they are. -/
theorem Dict.groups_flatMap {blocks : Dict κ (List ν)} (hkeys : (blocks.map Prod.fst).Nodup)
    (hne : ∀ b ∈ blocks, b.2 ≠ []) :
    Dict.groups (blocks.flatMap fun b => b.2.map (Prod.mk b.1)) = blocks := by
  induction blocks with
  | nil => rfl
  | cons b blocks ih =>
    obtain ⟨k, vs⟩ := b
    obtain ⟨hvs, hrest⟩ := List.forall_mem_cons.1 hne
    rw [List.map_cons, List.nodup_cons] at hkeys
    obtain ⟨hk, hnodup⟩ := hkeys
    have hnotMem : k ∉ (blocks.flatMap fun b => b.2.map (Prod.mk b.1)).map Prod.fst := by
      intro hmem
      obtain ⟨p, hp, rfl⟩ := List.mem_map.1 hmem
      obtain ⟨b, hb, hp⟩ := List.mem_flatMap.1 hp
      obtain ⟨v, -, rfl⟩ := List.mem_map.1 hp
      exact hk (List.mem_map.2 ⟨b, hb, rfl⟩)
    have hown : valuesAt (vs.map (Prod.mk k)) k = vs := by
      simp [valuesAt, List.filter_map, Function.comp_def]
    obtain ⟨v, more, rfl⟩ := List.exists_cons_of_ne_nil hvs
    have hfirst : (more.map fun _ => k).filter (fun a => !(a == k)) = [] := by simp
    have hothers : ((blocks.flatMap fun b => b.2.map (Prod.mk b.1)).map Prod.fst).filter
        (fun a => !(a == k)) = (blocks.flatMap fun b => b.2.map (Prod.mk b.1)).map Prod.fst := by
      refine List.filter_eq_self.2 fun a ha => ?_
      have hne : a ≠ k := fun h => hnotMem (h ▸ ha)
      simpa using hne
    have hnames : ((v :: more).map (Prod.mk k)).map Prod.fst = k :: more.map fun _ => k := by
      simp [Function.comp_def]
    rw [Dict.groups, List.flatMap_cons, List.map_append, hnames, List.cons_append,
      List.eraseDups_cons, List.filter_append, hfirst, hothers, List.nil_append, List.map_cons,
      valuesAt_append, hown, valuesAt_of_notMem hnotMem, List.append_nil]
    refine congrArg _ (Eq.trans ?_ (ih hnodup hrest))
    refine List.map_congr_left fun a ha => ?_
    have hne : a ≠ k := fun h => hnotMem (h ▸ List.mem_eraseDups.1 ha)
    have hnone : valuesAt ((v :: more).map (Prod.mk k)) a = [] := by
      refine valuesAt_of_notMem ?_
      simp [hne, hne.symm]
    rw [valuesAt_append, hnone, List.nil_append]

end UniversityQA.Py
