import UniversityQA.Py.JsonReads

/-!
# `json.dumps`, and back

* `dumps`: the writer; `visible_dumps`: it writes one line;
* `Json.WellFormed`: the values that the decoder returns (`wellFormed_of_loads`);
* `loads_dumps`: what is written for them is read back.
-/

namespace UniversityQA.Py

/-! ## The writer -/

/-- How the interpreter writes finite floats, and what a float is read back
as: its shortest decimal. -/
structure FloatWriter where
  repr : Bool → Nat → Int → String
  shortest : Bool → Nat → Int → PyFloat
  literal : ∀ neg digits exp,
    scanNumber (repr neg digits exp).toList = .ok (.float (shortest neg digits exp), [])

namespace FloatWriter

variable (w : FloatWriter)

def text : PyFloat → String
  | .finite neg digits exp => w.repr neg digits exp
  | .inf neg => if neg then "-Infinity" else "Infinity"
  | .nan => "NaN"

def reread : PyFloat → PyFloat
  | .finite neg digits exp => w.shortest neg digits exp
  | x => x

theorem reads_float (x : PyFloat) : Reads (w.text x).toList (.float (w.reread x)) := by
  cases x with
  | finite neg digits exp => exact reads_number (w.literal neg digits exp)
  | inf neg => exact reads_infinity neg
  | nan => exact reads_nan

end FloatWriter

mutual

/-- `json.dumps(v)`. -/
def dumps (w : FloatWriter) : Json → String
  | .null => "null"
  | .bool b => if b then "true" else "false"
  | .int n => toString n
  | .float x => w.text x
  | .str s => dumpsString s
  | .arr xs => "[" ++ ", ".intercalate (dumpsElements w xs) ++ "]"
  | .obj d => "\x7b" ++ ", ".intercalate (dumpsMembers w d) ++ "\x7d"

def dumpsElements (w : FloatWriter) : List Json → List String
  | [] => []
  | x :: xs => dumps w x :: dumpsElements w xs

def dumpsMembers (w : FloatWriter) : JsonObject → List String
  | [] => []
  | (key, v) :: d => (dumpsString key ++ ": " ++ dumps w v) :: dumpsMembers w d

end

mutual

/-- The value with its floats read back. -/
def Json.reread (w : FloatWriter) : Json → Json
  | .float x => .float (w.reread x)
  | .arr xs => .arr (Json.rereadElements w xs)
  | .obj d => .obj (Json.rereadMembers w d)
  | v => v

def Json.rereadElements (w : FloatWriter) : List Json → List Json
  | [] => []
  | x :: xs => x.reread w :: Json.rereadElements w xs

def Json.rereadMembers (w : FloatWriter) : JsonObject → JsonObject
  | [] => []
  | (key, v) :: d => (key, v.reread w) :: Json.rereadMembers w d

end

mutual

/-- What the decoder can return: integers that it has read the digits of, and
dicts. -/
def Json.WellFormed : Json → Prop
  | .int n => FitsDigits n
  | .arr xs => Json.WellFormedElements xs
  | .obj d => (d.map Prod.fst).Nodup ∧ Json.WellFormedMembers d
  | _ => True

def Json.WellFormedElements : List Json → Prop
  | [] => True
  | x :: xs => x.WellFormed ∧ Json.WellFormedElements xs

def Json.WellFormedMembers : JsonObject → Prop
  | [] => True
  | (_, v) :: d => v.WellFormed ∧ Json.WellFormedMembers d

end

/-- `, ` between the items. -/
def compact : Layout where
  opening := []
  comma := [' ']
  closing := []
  opening_white := by simp [White]
  comma_white := by simp [White, isJsonSpace]
  closing_white := by simp [White]

theorem toList_compact (opening closing : Char) (texts : List String) :
    (String.singleton opening ++ ", ".intercalate texts ++ String.singleton closing).toList =
      compact.block opening closing (texts.map String.toList) := by
  have hsep : ", ".toList = [',', ' '] := rfl
  cases texts with
  | nil => simp [Layout.block]
  | cons t ts => simp [Layout.block, Layout.items, compact, String.toList_intercalate, hsep]

/-- A member with what is written for it. -/
def writtenMember (w : FloatWriter) (kv : String × Json) : Member :=
  ⟨kv.1, (dumps w kv.2).toList, kv.2.reread w⟩

theorem dumpsElements_eq (w : FloatWriter) (xs : List Json) :
    dumpsElements w xs = xs.map (dumps w) ∧ Json.rereadElements w xs = xs.map (Json.reread w) := by
  induction xs with
  | nil => exact ⟨rfl, rfl⟩
  | cons x xs ih =>
    rw [dumpsElements, Json.rereadElements, ih.1, ih.2]
    exact ⟨rfl, rfl⟩

theorem dumpsMembers_eq (w : FloatWriter) (d : JsonObject) :
    (dumpsMembers w d).map String.toList = (d.map (writtenMember w)).map Member.written ∧
      Json.rereadMembers w d = (d.map (writtenMember w)).map Member.item := by
  induction d with
  | nil => exact ⟨rfl, rfl⟩
  | cons kv d ih =>
    have hcolon : ": ".toList = [':', ' '] := rfl
    rw [dumpsMembers, Json.rereadMembers, List.map_cons, ih.1, ih.2]
    refine ⟨?_, rfl⟩
    simp [writtenMember, Member.written, memberText, hcolon]

mutual

/-- **What is written stands for the value.** -/
theorem reads_dumps (w : FloatWriter) :
    ∀ v : Json, v.WellFormed → Reads (dumps w v).toList (v.reread w)
  | .null, _ => reads_null
  | .bool b, _ => reads_bool b
  | .int _, h => reads_int h
  | .float x, _ => w.reads_float x
  | .str s, _ => reads_string s
  | .arr xs, h => by
    have hxs := compact.reads_array (l := xs.map fun x => ((dumps w x).toList, x.reread w)) (by
      rintro _ hmem
      obtain ⟨x, hx, rfl⟩ := List.mem_map.1 hmem
      exact reads_dumpsElements w xs h x hx)
    rw [dumps, Json.reread, (dumpsElements_eq w xs).1, (dumpsElements_eq w xs).2]
    rw [List.map_map, List.map_map] at hxs
    have htext := toList_compact '[' ']' (xs.map (dumps w))
    rw [List.map_map] at htext
    exact htext ▸ hxs
  | .obj d, h => by
    have hd := compact.reads_object (l := d.map (writtenMember w)) (by
      rintro _ hmem
      obtain ⟨kv, hkv, rfl⟩ := List.mem_map.1 hmem
      exact reads_dumpsMembers w d h.2 kv hkv) (by
      rw [List.map_map]
      exact h.1)
    rw [← (dumpsMembers_eq w d).1, ← (dumpsMembers_eq w d).2] at hd
    rw [dumps, Json.reread]
    exact toList_compact '\x7b' '\x7d' (dumpsMembers w d) ▸ hd

theorem reads_dumpsElements (w : FloatWriter) : ∀ xs : List Json, Json.WellFormedElements xs →
    ∀ x ∈ xs, Reads (dumps w x).toList (x.reread w)
  | [], _ => List.forall_mem_nil _
  | x :: xs, h => List.forall_mem_cons.2 ⟨reads_dumps w x h.1, reads_dumpsElements w xs h.2⟩

theorem reads_dumpsMembers (w : FloatWriter) : ∀ d : JsonObject, Json.WellFormedMembers d →
    ∀ kv ∈ d, Reads (dumps w kv.2).toList (kv.2.reread w)
  | [], _ => List.forall_mem_nil _
  | (_, v) :: d, h => List.forall_mem_cons.2 ⟨reads_dumps w v h.1, reads_dumpsMembers w d h.2⟩

end

/-- **Round trip.** -/
theorem loads_dumps (w : FloatWriter) {v : Json} (h : v.WellFormed) :
    loads (dumps w v) = .ok (v.reread w) := loads_of_reads (reads_dumps w v h)

/-! ## One line -/

theorem visible_of_all {s : String} (h : s.toList.all (fun c => decide (Visible c)) = true) :
    ∀ c ∈ s.toList, Visible c := fun c hc => of_decide_eq_true (List.all_eq_true.1 h c hc)

theorem visible_intercalate {sep : String} (hsep : ∀ c ∈ sep.toList, Visible c) {texts : List String}
    (h : ∀ t ∈ texts, ∀ c ∈ t.toList, Visible c) :
    ∀ c ∈ (sep.intercalate texts).toList, Visible c := by
  rw [String.toList_intercalate]
  induction texts with
  | nil => exact List.forall_mem_nil _
  | cons t ts ih =>
    obtain ⟨ht, hts⟩ := List.forall_mem_cons.1 h
    cases ts with
    | nil => simpa using ht
    | cons t' ts =>
      rw [List.map_cons, List.map_cons, List.intercalate_cons_cons, List.forall_mem_append,
        List.forall_mem_append]
      exact ⟨⟨ht, hsep⟩, ih hts⟩

theorem visible_block (opening closing : Char) (hopening : Visible opening) (hclosing : Visible closing)
    {texts : List String} (h : ∀ t ∈ texts, ∀ c ∈ t.toList, Visible c) :
    ∀ c ∈ (String.singleton opening ++ ", ".intercalate texts ++ String.singleton closing).toList,
      Visible c := by
  have hsep : ∀ c ∈ ", ".toList, Visible c := visible_of_all rfl
  simp only [String.toList_append, String.toList_singleton, List.forall_mem_append,
    List.forall_mem_singleton]
  exact ⟨⟨hopening, visible_intercalate hsep h⟩, hclosing⟩

theorem FloatWriter.visible_text (w : FloatWriter) (x : PyFloat) :
    ∀ c ∈ (w.text x).toList, Visible c := by
  cases x with
  | finite neg digits exp => exact visible_of_scanNumber (w.literal neg digits exp)
  | inf neg =>
    cases neg
    · exact visible_of_all (s := "Infinity") rfl
    · exact visible_of_all (s := "-Infinity") rfl
  | nan => exact visible_of_all (s := "NaN") rfl

mutual

/-- **The writer** writes one line, of ASCII characters. -/
theorem visible_dumps (w : FloatWriter) : ∀ v : Json, ∀ c ∈ (dumps w v).toList, Visible c
  | .null => visible_of_all (s := "null") rfl
  | .bool true => visible_of_all (s := "true") rfl
  | .bool false => visible_of_all (s := "false") rfl
  | .int n => visible_toString n
  | .float x => w.visible_text x
  | .str s => visible_dumpsString s
  | .arr xs => visible_block '[' ']' (by decide) (by decide) (visible_dumpsElements w xs)
  | .obj d => visible_block '\x7b' '\x7d' (by decide) (by decide) (visible_dumpsMembers w d)

theorem visible_dumpsElements (w : FloatWriter) :
    ∀ xs : List Json, ∀ t ∈ dumpsElements w xs, ∀ c ∈ t.toList, Visible c
  | [] => List.forall_mem_nil _
  | x :: xs => List.forall_mem_cons.2 ⟨visible_dumps w x, visible_dumpsElements w xs⟩

theorem visible_dumpsMembers (w : FloatWriter) :
    ∀ d : JsonObject, ∀ t ∈ dumpsMembers w d, ∀ c ∈ t.toList, Visible c
  | [] => List.forall_mem_nil _
  | (key, v) :: d => by
    have hcolon : ∀ c ∈ ": ".toList, Visible c := visible_of_all rfl
    refine List.forall_mem_cons.2 ⟨?_, visible_dumpsMembers w d⟩
    simp only [String.toList_append, List.forall_mem_append]
    exact ⟨⟨visible_dumpsString key, hcolon⟩, visible_dumps w v⟩

end

/-! ## What the decoder returns -/

theorem ofDigitChars_lt {ds : List Char} (h : ∀ c ∈ ds, c.isDigit = true) :
    Nat.ofDigitChars 10 ds 0 < 10 ^ ds.length := by
  induction ds with
  | nil => decide
  | cons c ds ih =>
    obtain ⟨hc, hds⟩ := List.forall_mem_cons.1 h
    have hrest := ih hds
    have hdigit := toNat_of_isDigit hc
    have hvalue : c.toNat - '0'.toNat ≤ 9 := by
      have hzero : '0'.toNat = 48 := rfl
      omega
    rw [Nat.ofDigitChars_cons, Nat.ofDigitChars_eq_ofDigitChars_zero, Nat.mul_zero, Nat.zero_add,
      List.length_cons, Nat.pow_succ]
    have hmul := Nat.mul_le_mul_left (10 ^ ds.length) hvalue
    omega

theorem isDigit_of_scanIntPart {cs ds r : List Char} (h : scanIntPart cs = some (ds, r)) :
    ∀ c ∈ ds, c.isDigit = true := by
  cases cs with
  | nil => cases h
  | cons c cs =>
    by_cases hc : c = '0'
    · subst hc
      cases h
      simp
    · rw [scanIntPart_of_ne hc] at h
      split at h
      · cases h
      · cases h
        exact fun d hd => List.mem_takeWhile_imp hd

theorem scanUnsigned_wellFormed {neg : Bool} {cs r : List Char} {v : Json}
    (h : scanUnsigned neg cs = .ok (v, r)) : v.WellFormed := by
  unfold scanUnsigned at h
  split at h
  · cases h
  · next ds cs' hint =>
    dsimp only at h
    split at h
    · split at h
      · cases h
      · next hlimit =>
        cases h
        have hlt := ofDigitChars_lt (isDigit_of_scanIntPart hint)
        have hle := Nat.pow_le_pow_right (n := 10) (by decide) (Nat.le_of_not_lt hlimit)
        have habs : (if neg then -(digitsValue ds : Int) else digitsValue ds).natAbs =
            Nat.ofDigitChars 10 ds 0 := by
          cases neg <;> simp [digitsValue, Nat.ofDigitChars]
        rw [Json.WellFormed, FitsDigits, habs]
        exact Nat.lt_of_lt_of_le hlt hle
    · cases h
      trivial

theorem scanNumber_wellFormed {cs r : List Char} {v : Json} (h : scanNumber cs = .ok (v, r)) :
    v.WellFormed := by
  by_cases hminus : cs.head? = some '-'
  · obtain ⟨ds, rfl⟩ := List.head?_eq_some_iff.1 hminus
    exact scanUnsigned_wellFormed h
  · rw [scanNumber_unsigned hminus] at h
    exact scanUnsigned_wellFormed h

theorem map_fst_setItem (d : JsonObject) (key : String) (v : Json) :
    (setItem d key v).map Prod.fst =
      if key ∈ d.map Prod.fst then d.map Prod.fst else d.map Prod.fst ++ [key] := by
  induction d with
  | nil => rfl
  | cons kw d ih =>
    obtain ⟨k, w⟩ := kw
    rw [setItem]
    split
    · next hk => simp [hk]
    · next hk =>
      rw [List.map_cons, ih]
      split
      · next hmem => simp [hmem]
      · next hmem => simp [hmem, Ne.symm hk]

theorem wellFormedMembers_iff (d : JsonObject) :
    Json.WellFormedMembers d ↔ ∀ kv ∈ d, kv.2.WellFormed := by
  induction d with
  | nil => simp [Json.WellFormedMembers]
  | cons kv d ih => rw [Json.WellFormedMembers, List.forall_mem_cons, ih]

theorem wellFormedElements_iff (xs : List Json) :
    Json.WellFormedElements xs ↔ ∀ x ∈ xs, x.WellFormed := by
  induction xs with
  | nil => simp [Json.WellFormedElements]
  | cons x xs ih => rw [Json.WellFormedElements, List.forall_mem_cons, ih]

theorem mem_setItem {d : JsonObject} {key : String} {v : Json} {kv : String × Json}
    (h : kv ∈ setItem d key v) : kv ∈ d ∨ kv = (kv.1, v) := by
  induction d with
  | nil => exact .inr (by rw [List.mem_singleton.1 h])
  | cons kw d ih =>
    rw [setItem] at h
    split at h
    · rcases List.mem_cons.1 h with rfl | h
      · exact .inr rfl
      · exact .inl (List.mem_cons_of_mem _ h)
    · rcases List.mem_cons.1 h with rfl | h
      · exact .inl List.mem_cons_self
      · exact (ih h).imp_left (List.mem_cons_of_mem _)

/-- A dict stays one. -/
theorem setItem_wellFormed {d : JsonObject} (hd : (Json.obj d).WellFormed) (key : String) {v : Json}
    (hv : v.WellFormed) : (Json.obj (setItem d key v)).WellFormed := by
  refine ⟨?_, (wellFormedMembers_iff _).2 fun kv hkv => ?_⟩
  · rw [map_fst_setItem]
    split
    · exact hd.1
    · next hkey =>
      rw [List.nodup_append]
      refine ⟨hd.1, by simp, fun a ha b hb => ?_⟩
      rintro rfl
      exact hkey (List.mem_singleton.1 hb ▸ ha)
  · rcases mem_setItem hkv with hmem | heq
    · exact (wellFormedMembers_iff _).1 hd.2 kv hmem
    · rw [heq]
      exact hv

/-- The three scanners with one bound. -/
structure ScansWellFormed (n : Nat) : Prop where
  once : ∀ cs v rest, scanOnce n cs = .ok (v, rest) → v.WellFormed
  members : ∀ acc cs v rest, (Json.obj acc).WellFormed → scanMembers n acc cs = .ok (v, rest) →
    v.WellFormed
  elements : ∀ acc cs v rest, (Json.arr acc).WellFormed → scanElements n acc cs = .ok (v, rest) →
    v.WellFormed

theorem ScansWellFormed.next_once {n : Nat} (ih : ScansWellFormed n) (cs : List Char) (v : Json)
    (rest : List Char) (h : scanOnce (n + 1) cs = .ok (v, rest)) : v.WellFormed := by
  unfold scanOnce at h
  split at h
  case h_1 heq => cases heq
  case h_2 cs' _ =>
    cases hscan : scanString cs' with
    | error e =>
      rw [hscan] at h
      cases h
    | ok r =>
      rw [hscan] at h
      cases h
      trivial
  case h_3 heq =>
    cases heq
    split at h
    · cases h
      exact ⟨List.nodup_nil, trivial⟩
    · exact ih.members [] _ v rest ⟨List.nodup_nil, trivial⟩ h
  case h_4 heq =>
    cases heq
    split at h
    · cases h
      trivial
    · exact ih.elements [] _ v rest trivial h
  case h_11 => exact scanNumber_wellFormed h
  all_goals
    cases h
    trivial

theorem ScansWellFormed.next_members {n : Nat} (ih : ScansWellFormed n) (acc : JsonObject)
    (cs : List Char) (v : Json) (rest : List Char) (hacc : (Json.obj acc).WellFormed)
    (h : scanMembers (n + 1) acc cs = .ok (v, rest)) : v.WellFormed := by
  unfold scanMembers at h
  split at h
  case h_1 heq => cases heq
  case h_3 => cases h
  case h_2 heq =>
    cases heq
    split at h
    · cases h
    · next key _ _ =>
      split at h
      · split at h
        · cases h
        · next hvalue =>
          have hset := setItem_wellFormed hacc key (ih.once _ _ _ hvalue)
          split at h
          · cases h
            exact hset
          · exact ih.members _ _ v rest hset h
          · cases h
      · cases h

theorem ScansWellFormed.next_elements {n : Nat} (ih : ScansWellFormed n) (acc : List Json)
    (cs : List Char) (v : Json) (rest : List Char) (hacc : (Json.arr acc).WellFormed)
    (h : scanElements (n + 1) acc cs = .ok (v, rest)) : v.WellFormed := by
  unfold scanElements at h
  split at h
  · cases h
  · next x _ hvalue =>
    have hx := ih.once _ _ _ hvalue
    have happend : (Json.arr (acc ++ [x])).WellFormed := by
      refine (wellFormedElements_iff _).2 (List.forall_mem_append.2 ⟨?_, ?_⟩)
      · exact (wellFormedElements_iff acc).1 hacc
      · exact List.forall_mem_singleton.2 hx
    split at h
    · cases h
      exact happend
    · exact ih.elements _ _ v rest happend h
    · cases h

theorem scans_wellFormed (n : Nat) : ScansWellFormed n := by
  induction n with
  | zero => exact ⟨nofun, nofun, nofun⟩
  | succ n ih => exact ⟨ih.next_once, ih.next_members, ih.next_elements⟩

/-- **Decoded values.** -/
theorem wellFormed_of_loads {s : String} {v : Json} (h : loads s = .ok v) : v.WellFormed := by
  unfold loads at h
  split at h
  · cases h
  · split at h
    · cases h
    · next hscan =>
      split at h
      · cases h
        exact (scans_wellFormed _).once _ _ _ hscan
      · cases h

end UniversityQA.Py
