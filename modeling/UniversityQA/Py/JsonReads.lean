import UniversityQA.Py.JsonText

/-!
# Texts of values

* `Reads text v`: the scanner reads `v` where it finds `text`, whatever follows
  it; a rule for each kind of value;
* `Layout`: the blanks of a container; `Layout.reads_array`, `Layout.reads_object`;
* `loads_of_reads`: so does `json.loads`.
-/

namespace UniversityQA.Py

/-! ## Texts of values -/

/-- A text that stands for a value. -/
structure Reads (text : List Char) (v : Json) : Prop where
  /-- It begins with a character that no container skips or closes at. -/
  starts : ∃ c cs, text = c :: cs ∧ isJsonSpace c = false ∧ c ≠ ']'
  /-- The scanner stops behind it. -/
  scan : ∀ n rest, text.length ≤ n → Ends rest → scanOnce n (text ++ rest) = .ok (v, rest)

theorem skipSpace_of_not_space {c : Char} (hc : isJsonSpace c = false) (cs : List Char) :
    skipSpace (c :: cs) = c :: cs := by
  simp [skipSpace, hc]

theorem Reads.skipSpace {text : List Char} {v : Json} (h : Reads text v) (cs : List Char) :
    skipSpace (text ++ cs) = text ++ cs := by
  obtain ⟨c, text, rfl, hc, -⟩ := h.starts
  exact skipSpace_of_not_space hc _

/-- Between a value and its length lies a step of the scanner. -/
theorem reads_of_scan {c : Char} {cs : List Char} {v : Json} (hspace : isJsonSpace c = false)
    (hclose : c ≠ ']')
    (h : ∀ n rest, cs.length ≤ n → Ends rest → scanOnce (n + 1) (c :: cs ++ rest) = .ok (v, rest)) :
    Reads (c :: cs) v where
  starts := ⟨c, cs, rfl, hspace, hclose⟩
  scan n rest hn hrest := by
    obtain ⟨n, rfl⟩ := Nat.exists_eq_succ_of_ne_zero (Nat.ne_of_gt (Nat.lt_of_lt_of_le (Nat.succ_pos _) hn))
    exact h n rest (Nat.le_of_succ_le_succ hn) hrest

/-- A word of the language. -/
theorem reads_word {text : List Char} {v : Json} (c : Char) (cs : List Char) (htext : text = c :: cs)
    (hspace : isJsonSpace c = false) (hclose : c ≠ ']')
    (h : ∀ n rest, scanOnce (n + 1) (c :: cs ++ rest) = .ok (v, rest)) : Reads text v := by
  rw [htext]
  exact reads_of_scan hspace hclose fun n rest _ _ => h n rest

theorem reads_null : Reads "null".toList .null :=
  reads_word 'n' ['u', 'l', 'l'] rfl rfl (by decide) fun _ _ => rfl

theorem reads_bool (b : Bool) : Reads (if b then "true" else "false").toList (.bool b) := by
  cases b
  · exact reads_word 'f' ['a', 'l', 's', 'e'] rfl rfl (by decide) fun _ _ => rfl
  · exact reads_word 't' ['r', 'u', 'e'] rfl rfl (by decide) fun _ _ => rfl

theorem reads_nan : Reads "NaN".toList (.float .nan) :=
  reads_word 'N' ['a', 'N'] rfl rfl (by decide) fun _ _ => rfl

theorem reads_infinity (neg : Bool) :
    Reads (if neg then "-Infinity" else "Infinity").toList (.float (.inf neg)) := by
  cases neg
  · exact reads_word 'I' ['n', 'f', 'i', 'n', 'i', 't', 'y'] rfl rfl (by decide) fun _ _ => rfl
  · exact reads_word '-' ['I', 'n', 'f', 'i', 'n', 'i', 't', 'y'] rfl rfl (by decide) fun _ _ => rfl

theorem scanOnce_quote (n : Nat) (cs : List Char) :
    scanOnce (n + 1) ('"' :: cs) = (scanString cs).map fun r => (.str r.1, r.2) := rfl

theorem reads_string (s : String) : Reads (dumpsString s).toList (.str s) := by
  rw [toList_dumpsString]
  refine reads_of_scan rfl (by decide) fun n rest _ _ => ?_
  rw [List.cons_append, scanOnce_quote, List.append_assoc, List.singleton_append,
    scanString_dumpsString]
  rfl

/-- A digit, or a sign and a digit. -/
def NumberStarts (c : Char) (cs : List Char) : Prop :=
  c.isDigit = true ∨ c = '-' ∧ ∃ d ds, cs = d :: ds ∧ d.isDigit = true

theorem number_starts {cs r : List Char} {v : Json} (h : scanNumber cs = .ok (v, r)) :
    ∃ c cs', cs = c :: cs' ∧ NumberStarts c cs' := by
  have hunsigned : ∀ neg cs, scanUnsigned neg cs = .ok (v, r) →
      ∃ c cs', cs = c :: cs' ∧ c.isDigit = true := by
    intro neg cs h
    cases cs with
    | nil => cases h
    | cons c cs =>
      refine ⟨c, cs, rfl, ?_⟩
      by_cases hc : c = '0'
      · rw [hc]
        rfl
      · cases hdigit : c.isDigit with
        | true => rfl
        | false =>
          rw [scanUnsigned, scanIntPart_of_ne hc, if_pos (by simp [hdigit])] at h
          cases h
  cases cs with
  | nil => cases h
  | cons c cs =>
    by_cases hc : c = '-'
    · subst hc
      exact ⟨'-', cs, rfl, .inr ⟨rfl, hunsigned true cs h⟩⟩
    · have hhead : (c :: cs).head? ≠ some '-' := fun heq => hc (Option.some.inj heq)
      rw [scanNumber_unsigned hhead] at h
      obtain ⟨c', cs', heq, hdigit⟩ := hunsigned false _ h
      exact ⟨c', cs', heq, .inl hdigit⟩

theorem ne_of_isDigit {c d : Char} (hc : c.isDigit = true) (hd : d.isDigit = false) : c ≠ d := by
  rintro rfl
  rw [hc] at hd
  cases hd

theorem scanOnce_number {c : Char} {cs : List Char} (h : NumberStarts c cs) (n : Nat) :
    scanOnce (n + 1) (c :: cs) = scanNumber (c :: cs) := by
  have hne : ∀ {d : Char} {cs' : List Char}, d.isDigit = false → d ≠ '-' → c :: cs ≠ d :: cs' := by
    rintro d cs' hd hminus heq
    obtain ⟨rfl, -⟩ := List.cons.inj heq
    rcases h with hc | ⟨rfl, -⟩
    · exact ne_of_isDigit hc hd rfl
    · exact hminus rfl
  unfold scanOnce
  split
  case h_1 heq => cases heq
  case h_10 cs' _ heq =>
    -- not `-Infinity`
    rcases h with hc | ⟨-, d, ds, rfl, hd⟩
    · exact absurd (List.cons.inj heq).1 (ne_of_isDigit hc rfl)
    · exact absurd (List.cons.inj (List.cons.inj heq).2).1 (ne_of_isDigit hd rfl)
  case h_11 => rfl
  all_goals exact absurd ‹c :: cs = _› (hne rfl (by decide))

theorem numberStarts_append {c : Char} {cs : List Char} (h : NumberStarts c cs) (rest : List Char) :
    NumberStarts c (cs ++ rest) :=
  h.imp_right fun ⟨hc, d, ds, hds, hd⟩ => ⟨hc, d, ds ++ rest, by rw [hds]; rfl, hd⟩

/-- Whatever the scanner takes for a number. -/
theorem reads_number {text : List Char} {v : Json} (h : scanNumber text = .ok (v, [])) :
    Reads text v := by
  obtain ⟨c, cs, rfl, hc⟩ := number_starts h
  have hplain : isJsonSpace c = false ∧ c ≠ ']' := by
    rcases hc with hdigit | ⟨rfl, -⟩
    · have hne : ∀ {d}, d.isDigit = false → (c == d) = false :=
        fun hd => beq_eq_false_iff_ne.2 (ne_of_isDigit hdigit hd)
      exact ⟨by simp [isJsonSpace, hne], ne_of_isDigit hdigit rfl⟩
    · exact ⟨rfl, by decide⟩
  refine reads_of_scan hplain.1 hplain.2 fun n rest _ hrest => ?_
  rw [List.cons_append, scanOnce_number (numberStarts_append hc rest)]
  exact scanNumber_append h hrest

/-- **Integers.** -/
theorem reads_int {n : Int} (hn : FitsDigits n) : Reads (toString n).toList (.int n) :=
  reads_number (scanNumber_toString hn)

/-! ## Containers -/

def White (ws : List Char) : Prop := ∀ c ∈ ws, isJsonSpace c = true

theorem skipSpace_white {ws : List Char} (h : White ws) (cs : List Char) :
    skipSpace (ws ++ cs) = skipSpace cs := List.dropWhile_append_of_pos h

theorem ends_white {ws : List Char} (h : White ws) {c : Char} (hc : c ∈ [',', ']', '}'])
    (rest : List Char) : Ends (ws ++ c :: rest) := by
  cases ws with
  | nil => exact ends_cons (.inr hc) rest
  | cons d ws => exact ends_cons (.inl (h d List.mem_cons_self)) _

/-- The blanks of a container: after it is opened, after a comma and before it
is closed. -/
structure Layout where
  opening : List Char
  comma : List Char
  closing : List Char
  opening_white : White opening
  comma_white : White comma
  closing_white : White closing

namespace Layout

variable (L : Layout)

def items (texts : List (List Char)) : List Char := (',' :: L.comma).intercalate texts

/-- The text of a container. -/
def block (opening closing : Char) (texts : List (List Char)) : List Char :=
  if texts.isEmpty then [opening, closing]
  else opening :: (L.opening ++ (L.items texts ++ (L.closing ++ [closing])))

theorem items_cons_cons (t t' : List Char) (ts : List (List Char)) :
    L.items (t :: t' :: ts) = t ++ (',' :: (L.comma ++ L.items (t' :: ts))) := by
  simp [items]

theorem items_starts (t : List Char) (ts : List (List Char)) :
    ∃ cs, L.items (t :: ts) = t ++ cs := by
  cases ts with
  | nil => exact ⟨[], by simp [items]⟩
  | cons t' ts => exact ⟨_, L.items_cons_cons t t' ts⟩

end Layout

theorem scanElements_last {n : Nat} {acc : List Json} {cs rest rest' : List Char} {v : Json}
    (h : scanOnce n cs = .ok (v, rest)) (hclose : skipSpace rest = ']' :: rest') :
    scanElements (n + 1) acc cs = .ok (.arr (acc ++ [v]), rest') := by
  rw [scanElements, h]
  simp only [hclose]

theorem scanElements_comma {n : Nat} {acc : List Json} {cs rest rest' : List Char} {v : Json}
    (h : scanOnce n cs = .ok (v, rest)) (hcomma : skipSpace rest = ',' :: rest') :
    scanElements (n + 1) acc cs = scanElements n (acc ++ [v]) (skipSpace rest') := by
  rw [scanElements, h]
  simp only [hcomma]

namespace Layout

variable (L : Layout)

/-- The elements of an array, from the first one on. -/
theorem scan_elements {x : List Char × Json} {xs : List (List Char × Json)}
    (h : ∀ y ∈ x :: xs, Reads y.1 y.2) {n : Nat} (acc : List Json) (rest : List Char)
    (hn : (L.items ((x :: xs).map Prod.fst) ++ L.closing).length < n) :
    scanElements n acc (L.items ((x :: xs).map Prod.fst) ++ (L.closing ++ ']' :: rest)) =
      .ok (.arr (acc ++ (x :: xs).map Prod.snd), rest) := by
  obtain ⟨hx, hxs⟩ := List.forall_mem_cons.1 h
  induction xs generalizing x n acc with
  | nil =>
    obtain ⟨n, rfl⟩ := Nat.exists_eq_succ_of_ne_zero (Nat.ne_of_gt (Nat.zero_lt_of_lt hn))
    have hitems : L.items (([x]).map Prod.fst) = x.1 := List.intercalate_singleton
    rw [hitems] at hn ⊢
    rw [List.length_append] at hn
    refine scanElements_last (hx.scan n _ (by omega) (ends_white L.closing_white (by simp) rest)) ?_
    rw [skipSpace_white L.closing_white, skipSpace_of_not_space rfl]
  | cons y ys ih =>
    obtain ⟨n, rfl⟩ := Nat.exists_eq_succ_of_ne_zero (Nat.ne_of_gt (Nat.zero_lt_of_lt hn))
    obtain ⟨hy, hys⟩ := List.forall_mem_cons.1 hxs
    obtain ⟨cs, hcs⟩ := L.items_starts y.1 (ys.map Prod.fst)
    simp only [List.map_cons, items_cons_cons, List.length_append, List.length_cons] at hn
    simp only [List.map_cons, items_cons_cons, List.append_assoc, List.cons_append]
    have hcomma := ends_cons (.inr (by simp : ',' ∈ [',', ']', '}']))
      (L.comma ++ (L.items (y.1 :: ys.map Prod.fst) ++ (L.closing ++ ']' :: rest)))
    rw [scanElements_comma (hx.scan n _ (by omega) hcomma) (skipSpace_of_not_space rfl _),
      skipSpace_white L.comma_white, hcs, List.append_assoc, hy.skipSpace, ← List.append_assoc, ← hcs]
    have hrest := ih hxs (n := n) (acc ++ [x.2])
      (by simp only [List.map_cons, List.length_append]; omega) hy hys
    simpa using hrest

end Layout

/-- `"key": value`. -/
def memberText (key : String) (text : List Char) : List Char :=
  (dumpsString key).toList ++ ':' :: ' ' :: text

theorem memberText_cons (key : String) (text rest : List Char) :
    memberText key text ++ rest =
      '"' :: (key.toList.flatMap escapeChar ++ '"' :: ':' :: ' ' :: (text ++ rest)) := by
  rw [memberText, toList_dumpsString]
  simp

section Members

variable {key : String} {text rest rest' : List Char} {v : Json} {n : Nat} {acc : JsonObject}

theorem scanMembers_last (h : Reads text v) (hn : text.length ≤ n) (hrest : Ends rest)
    (hclose : skipSpace rest = '}' :: rest') :
    scanMembers (n + 1) acc (memberText key text ++ rest) = .ok (.obj (setItem acc key v), rest') := by
  have hblank : skipSpace (' ' :: (text ++ rest)) = text ++ rest := h.skipSpace rest
  rw [memberText_cons, scanMembers, scanString_dumpsString]
  simp only [skipSpace_of_not_space (c := ':') rfl, hblank, h.scan n rest hn hrest, hclose]

theorem scanMembers_comma (h : Reads text v) (hn : text.length ≤ n) (hrest : Ends rest)
    (hcomma : skipSpace rest = ',' :: rest') :
    scanMembers (n + 1) acc (memberText key text ++ rest) =
      scanMembers n (setItem acc key v) (skipSpace rest') := by
  have hblank : skipSpace (' ' :: (text ++ rest)) = text ++ rest := h.skipSpace rest
  rw [memberText_cons, scanMembers, scanString_dumpsString]
  simp only [skipSpace_of_not_space (c := ':') rfl, hblank, h.scan n rest hn hrest, hcomma]

end Members

theorem setItem_of_notMem {d : JsonObject} {key : String} (h : key ∉ d.map Prod.fst) (v : Json) :
    setItem d key v = d ++ [(key, v)] := by
  induction d with
  | nil => rfl
  | cons kw d ih =>
    rw [List.map_cons, List.mem_cons, not_or] at h
    rw [setItem, if_neg (Ne.symm h.1), ih h.2]
    rfl

/-- A member of an object, with the text of its value. -/
structure Member where
  key : String
  text : List Char
  value : Json

def Member.written (m : Member) : List Char := memberText m.key m.text

def Member.item (m : Member) : String × Json := (m.key, m.value)

theorem Member.skipSpace_written (m : Member) (rest : List Char) :
    skipSpace (m.written ++ rest) = m.written ++ rest := by
  rw [Member.written, memberText_cons]
  exact skipSpace_of_not_space rfl _

theorem Member.length_written (m : Member) : m.text.length < m.written.length := by
  rw [Member.written, memberText, List.length_append, List.length_cons, List.length_cons]
  omega

namespace Layout

variable (L : Layout)

/-- The members of an object, from the first one on. -/
theorem scan_members {m : Member} {ms : List Member} (h : ∀ x ∈ m :: ms, Reads x.text x.value)
    {n : Nat} (acc : JsonObject) (rest : List Char)
    (hkeys : (acc.map Prod.fst ++ (m :: ms).map Member.key).Nodup)
    (hn : (L.items ((m :: ms).map Member.written) ++ L.closing).length < n) :
    scanMembers n acc (L.items ((m :: ms).map Member.written) ++ (L.closing ++ '}' :: rest)) =
      .ok (.obj (acc ++ (m :: ms).map Member.item), rest) := by
  obtain ⟨hm, hms⟩ := List.forall_mem_cons.1 h
  have hkey : m.key ∉ acc.map Prod.fst := by
    have hapart := (List.nodup_append.1 hkeys).2.2
    exact fun hmem => hapart _ hmem _ List.mem_cons_self rfl
  have hlength := m.length_written
  induction ms generalizing m n acc with
  | nil =>
    obtain ⟨n, rfl⟩ := Nat.exists_eq_succ_of_ne_zero (Nat.ne_of_gt (Nat.zero_lt_of_lt hn))
    have hitems : L.items ([m].map Member.written) = m.written := List.intercalate_singleton
    rw [hitems] at hn ⊢
    rw [List.length_append] at hn
    rw [Member.written, scanMembers_last hm (by omega) (ends_white L.closing_white (by simp) rest)
      (by rw [skipSpace_white L.closing_white, skipSpace_of_not_space rfl]), setItem_of_notMem hkey]
    rfl
  | cons m' ms ih =>
    obtain ⟨n, rfl⟩ := Nat.exists_eq_succ_of_ne_zero (Nat.ne_of_gt (Nat.zero_lt_of_lt hn))
    obtain ⟨hm', hms'⟩ := List.forall_mem_cons.1 hms
    obtain ⟨cs, hcs⟩ := L.items_starts m'.written (ms.map Member.written)
    simp only [List.map_cons, items_cons_cons, List.length_append, List.length_cons] at hn
    simp only [List.map_cons, items_cons_cons, List.append_assoc, List.cons_append]
    have hcomma := ends_cons (.inr (by simp : ',' ∈ [',', ']', '}']))
      (L.comma ++ (L.items (m'.written :: ms.map Member.written) ++ (L.closing ++ '}' :: rest)))
    rw [Member.written, scanMembers_comma hm (by omega) hcomma (skipSpace_of_not_space rfl _),
      skipSpace_white L.comma_white, hcs, List.append_assoc, m'.skipSpace_written,
      ← List.append_assoc, ← hcs, setItem_of_notMem hkey]
    have hkeys' : ((acc ++ [m.item]).map Prod.fst ++ (m' :: ms).map Member.key).Nodup := by
      rw [List.map_append, List.append_assoc]
      exact hkeys
    have hkey' : m'.key ∉ (acc ++ [m.item]).map Prod.fst := by
      have hapart := (List.nodup_append.1 hkeys').2.2
      exact fun hmem => hapart _ hmem _ List.mem_cons_self rfl
    have hrest := ih hms (n := n) (acc ++ [m.item]) hkeys'
      (by simp only [List.map_cons, List.length_append]; omega) hm' hms' hkey' m'.length_written
    simpa [Member.item] using hrest

end Layout

/-! ## Containers are read -/

theorem scanOnce_array (n : Nat) {cs cs' : List Char} {c : Char} (h : skipSpace cs = c :: cs')
    (hc : c ≠ ']') : scanOnce (n + 1) ('[' :: cs) = scanElements n [] (c :: cs') := by
  rw [scanOnce, h]
  split
  · next heq => exact absurd (List.cons.inj heq).1 hc
  · rfl

theorem scanOnce_object (n : Nat) {cs cs' : List Char} {c : Char} (h : skipSpace cs = c :: cs')
    (hc : c ≠ '}') : scanOnce (n + 1) ('{' :: cs) = scanMembers n [] (c :: cs') := by
  rw [scanOnce, h]
  split
  · next heq => exact absurd (List.cons.inj heq).1 hc
  · rfl

namespace Layout

variable (L : Layout)

/-- **Arrays.** -/
theorem reads_array {l : List (List Char × Json)} (h : ∀ x ∈ l, Reads x.1 x.2) :
    Reads (L.block '[' ']' (l.map Prod.fst)) (.arr (l.map Prod.snd)) := by
  cases l with
  | nil => exact reads_word '[' [']'] rfl rfl (by decide) fun _ _ => rfl
  | cons x xs =>
    refine reads_of_scan rfl (by decide) fun n rest hn _ => ?_
    obtain ⟨cs, hcs⟩ : ∃ cs, L.items ((x :: xs).map Prod.fst) = x.1 ++ cs := L.items_starts _ _
    obtain ⟨c, text, htext, -, hclose⟩ := (h x List.mem_cons_self).starts
    have hskip : skipSpace (L.opening ++ (L.items ((x :: xs).map Prod.fst) ++ (L.closing ++ [']']))
        ++ rest) = L.items ((x :: xs).map Prod.fst) ++ (L.closing ++ ']' :: rest) := by
      simp only [List.append_assoc, List.singleton_append]
      rw [skipSpace_white L.opening_white, hcs, List.append_assoc,
        (h x List.mem_cons_self).skipSpace]
    have hhead : L.items ((x :: xs).map Prod.fst) ++ (L.closing ++ ']' :: rest) =
        c :: (text ++ cs ++ (L.closing ++ ']' :: rest)) := by
      rw [hcs, htext]
      rfl
    simp only [List.length_append] at hn
    rw [List.cons_append, scanOnce_array n (hskip.trans hhead) hclose, ← hhead]
    refine L.scan_elements h [] rest ?_
    simp only [List.map_cons, List.length_append, List.length_singleton] at hn ⊢
    omega

/-- **Objects**, whose keys are distinct. -/
theorem reads_object {l : List Member} (h : ∀ m ∈ l, Reads m.text m.value)
    (hkeys : (l.map Member.key).Nodup) :
    Reads (L.block '{' '}' (l.map Member.written)) (.obj (l.map Member.item)) := by
  cases l with
  | nil => exact reads_word '{' ['}'] rfl rfl (by decide) fun _ _ => rfl
  | cons m ms =>
    refine reads_of_scan rfl (by decide) fun n rest hn _ => ?_
    obtain ⟨cs, hcs⟩ : ∃ cs, L.items ((m :: ms).map Member.written) = m.written ++ cs :=
      L.items_starts _ _
    have hskip : skipSpace (L.opening ++ (L.items ((m :: ms).map Member.written) ++
        (L.closing ++ ['}'])) ++ rest) =
          L.items ((m :: ms).map Member.written) ++ (L.closing ++ '}' :: rest) := by
      simp only [List.append_assoc, List.singleton_append]
      rw [skipSpace_white L.opening_white, hcs, List.append_assoc, m.skipSpace_written]
    obtain ⟨text, htext⟩ : ∃ text, m.written = '"' :: text := by
      rw [Member.written, memberText, toList_dumpsString]
      exact ⟨_, rfl⟩
    have hhead : L.items ((m :: ms).map Member.written) ++ (L.closing ++ '}' :: rest) =
        '"' :: (text ++ cs ++ (L.closing ++ '}' :: rest)) := by
      rw [hcs, htext]
      rfl
    rw [List.cons_append, scanOnce_object n (hskip.trans hhead) (by decide), ← hhead]
    refine L.scan_members h [] rest hkeys ?_
    simp only [List.map_cons, List.length_append, List.length_singleton] at hn ⊢
    omega

end Layout

/-! ## `json.loads` -/

/-- **The decoder** takes a text for the value that it stands for. -/
theorem loads_of_reads {s : String} {v : Json} (h : Reads s.toList v) : loads s = .ok v := by
  have hscan := h.scan (s.toList.length + 1) [] (Nat.le_succ _) ends_nil
  obtain ⟨c, cs, htext, hspace, -⟩ := h.starts
  rw [List.append_nil, htext] at hscan
  have hbom : c ≠ '\ufeff' := by
    rintro rfl
    have hfail : scanOnce (('\ufeff' :: cs).length + 1) ('\ufeff' :: cs) = .error .decode := rfl
    rw [hfail] at hscan
    cases hscan
  unfold loads
  rw [htext]
  split
  · next heq => exact absurd (List.cons.inj heq).1 hbom
  · rw [skipSpace_of_not_space hspace, hscan]
    rfl

end UniversityQA.Py
