import Mathlib.Algebra.Group.Nat.Defs
import Mathlib.Data.List.TakeDrop
import UniversityQA.Py.Json
import UniversityQA.Py.Text

/-!
# Literals that the decoder reads

Strings and numbers, as `json.dumps` writes them.

* `scanString_dumpsString`: strings, with their escapes;
* `Ends`: what may follow a value;
* `scanNumber_append`: a number before it; `scanNumber_toString`: integers.
-/

namespace UniversityQA.Py

/-! ## Strings -/

/-- `\uXXXX`. -/
def hexEscape (n : Nat) : List Char :=
  ['\\', 'u'] ++ [n / 4096, n / 256 % 16, n / 16 % 16, n % 16].map Nat.digitChar

/-- A character inside a string literal. -/
def escapeChar (c : Char) : List Char :=
  if c = '"' ∨ c = '\\' then ['\\', c]
  else if c = '\n' then ['\\', 'n']
  else if c = '\r' then ['\\', 'r']
  else if c = '\t' then ['\\', 't']
  else if c = '\x0c' then ['\\', 'f']
  else if c = '\x08' then ['\\', 'b']
  else if ' ' ≤ c ∧ c ≤ '~' then [c]
  else if c.toNat < 0x10000 then hexEscape c.toNat
  else hexEscape (0xD800 + (c.toNat - 0x10000) / 0x400) ++
    hexEscape (0xDC00 + (c.toNat - 0x10000) % 0x400)

theorem toList_dumpsString (s : String) :
    (dumpsString s).toList = '"' :: (s.toList.flatMap escapeChar ++ ['"']) :=
  String.toList_ofList

/-- The code points that the literal has for a character: a pair of surrogates
outside the basic plane. -/
def codePoints (c : Char) : List Nat :=
  if c.toNat < 0x10000 then [c.toNat]
  else [0xD800 + (c.toNat - 0x10000) / 0x400, 0xDC00 + (c.toNat - 0x10000) % 0x400]

theorem hexDigit_digitChar : ∀ n, n < 16 → hexDigit? (Nat.digitChar n) = some n := by
  decide

theorem scan_hexEscape {n : Nat} (h : n < 0x10000) (cs : List Char) :
    scanCodePoints (hexEscape n ++ cs) = (scanCodePoints cs).map fun r => (n :: r.1, r.2) := by
  have hhex : hex4? (Nat.digitChar (n / 4096)) (Nat.digitChar (n / 256 % 16))
      (Nat.digitChar (n / 16 % 16)) (Nat.digitChar (n % 16)) = some n := by
    rw [hex4?, hexDigit_digitChar _ (by omega), hexDigit_digitChar _ (by omega),
      hexDigit_digitChar _ (by omega), hexDigit_digitChar _ (by omega)]
    refine congrArg some ?_
    omega
  simp only [hexEscape, List.map_cons, List.map_nil, List.cons_append, List.nil_append]
  rw [scanCodePoints, hhex]

theorem scan_simpleEscape {e c : Char} (h : simpleEscape? e = some c) (hu : e ≠ 'u')
    (cs : List Char) :
    scanCodePoints ('\\' :: e :: cs) = (scanCodePoints cs).map fun r => (c.toNat :: r.1, r.2) := by
  rw [scanCodePoints, h]
  exact fun a b c d cs' he => absurd he hu

/-- A character that stands for itself. -/
theorem scan_plain {c : Char} (hquote : c ≠ '"') (hbackslash : c ≠ '\\') (hspace : 0x20 ≤ c.toNat)
    (cs : List Char) :
    scanCodePoints (c :: cs) = (scanCodePoints cs).map fun r => (c.toNat :: r.1, r.2) := by
  rw [scanCodePoints, if_neg]
  · rintro (h | h)
    · omega
    · exact hbackslash h
  · exact hquote
  · exact fun _ _ _ _ _ h => absurd h hbackslash
  · exact fun _ _ h => absurd h hbackslash

theorem toNat_lt (c : Char) : c.toNat < 0x110000 := by
  rcases c.valid with h | ⟨-, h⟩
  · exact Nat.lt_trans h (by decide)
  · exact h

theorem codePoints_of_lt {c : Char} (h : c.toNat < 0x10000) : codePoints c = [c.toNat] :=
  if_pos h

/-- **A character** is read back as its code points. -/
theorem scan_escapeChar (c : Char) (cs : List Char) :
    scanCodePoints (escapeChar c ++ cs) =
      (scanCodePoints cs).map fun r => (codePoints c ++ r.1, r.2) := by
  have hsimple : ∀ e, simpleEscape? e = some c → e ≠ 'u' → c.toNat < 0x10000 →
      scanCodePoints (['\\', e] ++ cs) =
        (scanCodePoints cs).map fun r => (codePoints c ++ r.1, r.2) := by
    intro e he hu hc
    rw [codePoints_of_lt hc]
    exact scan_simpleEscape he hu cs
  unfold escapeChar
  split
  case isTrue h => rcases h with rfl | rfl <;> exact hsimple _ rfl (by decide) (by decide)
  case isFalse hmarks =>
  split
  case isTrue h => exact hsimple 'n' (by rw [h]; rfl) (by decide) (by rw [h]; decide)
  split
  case isTrue h => exact hsimple 'r' (by rw [h]; rfl) (by decide) (by rw [h]; decide)
  split
  case isTrue h => exact hsimple 't' (by rw [h]; rfl) (by decide) (by rw [h]; decide)
  split
  case isTrue h => exact hsimple 'f' (by rw [h]; rfl) (by decide) (by rw [h]; decide)
  split
  case isTrue h => exact hsimple 'b' (by rw [h]; rfl) (by decide) (by rw [h]; decide)
  split
  case isTrue h =>
    obtain ⟨hlow, hhigh⟩ := h
    have hlt : c.toNat < 0x10000 := Nat.lt_of_le_of_lt (show c.toNat ≤ '~'.toNat from hhigh) (by decide)
    rw [codePoints_of_lt hlt]
    exact scan_plain (fun hc => hmarks (.inl hc)) (fun hc => hmarks (.inr hc)) hlow cs
  split
  case isTrue h =>
    rw [codePoints_of_lt h]
    exact scan_hexEscape h cs
  case isFalse h =>
    have hc := toNat_lt c
    rw [List.append_assoc, scan_hexEscape (by omega), scan_hexEscape (by omega), codePoints,
      if_neg h]
    cases scanCodePoints cs <;> rfl

theorem scan_escaped (cs rest : List Char) :
    scanCodePoints (cs.flatMap escapeChar ++ '"' :: rest) = .ok (cs.flatMap codePoints, rest) := by
  induction cs with
  | nil => rfl
  | cons c cs ih =>
    rw [List.flatMap_cons, List.append_assoc, scan_escapeChar, ih]
    rfl

theorem not_surrogate (c : Char) : c.toNat < 0xD800 ∨ 0xDFFF < c.toNat := by
  rcases c.valid with h | ⟨h, -⟩
  · exact .inl h
  · exact .inr h

theorem isValidChar_toNat (c : Char) : c.toNat.isValidChar := c.valid

theorem joinSurrogates_toNat (c : Char) (ns : List Nat) :
    joinSurrogates (c.toNat :: ns) = c :: joinSurrogates ns := by
  cases ns with
  | nil =>
    change joinSurrogates [c.toNat] = [c]
    rw [joinSurrogates, if_pos (isValidChar_toNat c), Char.ofNat_toNat]
  | cons n ns =>
    have hc := not_surrogate c
    rw [joinSurrogates, if_neg (by omega), if_pos (isValidChar_toNat c), Char.ofNat_toNat]

theorem joinSurrogates_pair {n hi lo : Nat} (hn : n < 0x100000) (hhi : hi = 0xD800 + n / 0x400)
    (hlo : lo = 0xDC00 + n % 0x400) (ns : List Nat) :
    joinSurrogates (hi :: lo :: ns) = .ofNat (0x10000 + n) :: joinSurrogates ns := by
  have hpair : 0xD800 ≤ hi ∧ hi ≤ 0xDBFF ∧ 0xDC00 ≤ lo ∧ lo ≤ 0xDFFF := by omega
  have hjoin : 0x10000 + (hi - 0xD800) * 0x400 + (lo - 0xDC00) = 0x10000 + n := by omega
  rw [joinSurrogates, if_pos hpair, hjoin]

/-- Surrogates are joined to the characters they were made of. -/
theorem joinSurrogates_codePoints (cs : List Char) :
    joinSurrogates (cs.flatMap codePoints) = cs := by
  induction cs with
  | nil => rfl
  | cons c cs ih =>
    rw [List.flatMap_cons, codePoints]
    split
    · rw [List.singleton_append, joinSurrogates_toNat, ih]
    · have hc := toNat_lt c
      have hback : 0x10000 + (c.toNat - 0x10000) = c.toNat := by omega
      rw [List.cons_append, List.singleton_append,
        joinSurrogates_pair (n := c.toNat - 0x10000) (by omega) rfl rfl, hback, Char.ofNat_toNat, ih]

/-- **Strings** are read back. -/
theorem scanString_dumpsString (s : String) (rest : List Char) :
    scanString (s.toList.flatMap escapeChar ++ '"' :: rest) = .ok (s, rest) := by
  rw [scanString, scan_escaped]
  simp only [Except.map, joinSurrogates_codePoints, String.ofList_toList]

/-! ## What may follow -/

/-- White space, a comma or the end of a container, or nothing. -/
def Ends (rest : List Char) : Prop :=
  ∀ c, rest.head? = some c → isJsonSpace c = true ∨ c ∈ [',', ']', '}']

theorem ends_nil : Ends [] := nofun

theorem ends_cons {c : Char} (h : isJsonSpace c = true ∨ c ∈ [',', ']', '}']) (rest : List Char) :
    Ends (c :: rest) := by
  rintro _ ⟨⟩
  exact h

/-- It is not part of a number. -/
theorem Ends.head_ne {rest : List Char} (h : Ends rest) {c : Char} (hc : rest.head? = some c) :
    c.isDigit = false ∧ c ∉ ['.', 'e', 'E', '+', '-'] := by
  have hmem : c ∈ [' ', '\t', '\n', '\r', ',', ']', '}'] := by
    rcases h c hc with hspace | hmem
    · simp only [isJsonSpace, Bool.or_eq_true, beq_iff_eq] at hspace
      rcases hspace with ((rfl | rfl) | rfl) | rfl <;> simp
    · exact List.mem_append_right [' ', '\t', '\n', '\r'] hmem
  simp only [List.mem_cons, List.not_mem_nil, or_false] at hmem
  rcases hmem with rfl | rfl | rfl | rfl | rfl | rfl | rfl <;> exact ⟨rfl, by simp⟩

/-! ## Numbers -/

theorem digits_append {cs rest : List Char} (h : Ends rest) :
    (cs ++ rest).takeWhile Char.isDigit = cs.takeWhile Char.isDigit ∧
      (cs ++ rest).dropWhile Char.isDigit = cs.dropWhile Char.isDigit ++ rest := by
  induction cs with
  | nil =>
    cases rest with
    | nil => exact ⟨rfl, rfl⟩
    | cons c rest =>
      have hc := (h.head_ne rfl).1
      simp [hc]
  | cons c cs ih =>
    cases hc : c.isDigit with
    | true => simp [hc, ih.1, ih.2]
    | false => simp [hc]

theorem scanIntPart_of_ne {c : Char} (hc : c ≠ '0') (cs : List Char) : scanIntPart (c :: cs) =
    if (c :: cs).takeWhile Char.isDigit = [] then none
    else some ((c :: cs).takeWhile Char.isDigit, (c :: cs).dropWhile Char.isDigit) := by
  rw [scanIntPart, List.span_eq_takeWhile_dropWhile]
  exact fun _ h => hc (List.cons.inj h).1

theorem scanIntPart_append {cs rest ds r : List Char} (h : scanIntPart cs = some (ds, r))
    (hrest : Ends rest) : scanIntPart (cs ++ rest) = some (ds, r ++ rest) := by
  cases cs with
  | nil => cases h
  | cons c cs =>
    by_cases hc : c = '0'
    · subst hc
      cases h
      rfl
    · rw [scanIntPart_of_ne hc] at h
      rw [List.cons_append, scanIntPart_of_ne hc, ← List.cons_append, (digits_append hrest).1,
        (digits_append hrest).2]
      split at h
      · cases h
      · next hne =>
        cases h
        rw [if_neg hne]

theorem scanFraction_append (cs : List Char) {rest : List Char} (hrest : Ends rest) :
    scanFraction (cs ++ rest) = ((scanFraction cs).1, (scanFraction cs).2 ++ rest) := by
  cases cs with
  | nil =>
    rw [List.nil_append]
    unfold scanFraction
    split
    · next heq =>
      exact absurd (hrest.head_ne rfl).2 (by simp)
    · rfl
  | cons c cs =>
    by_cases hc : c = '.'
    · subst hc
      simp only [List.cons_append, scanFraction, (digits_append hrest).1, (digits_append hrest).2]
      split <;> rfl
    · rw [scanFraction.eq_def, scanFraction.eq_def]
      simp [hc]

/-- The sign and the digits of an exponent. -/
def exponentDigits : List Char → Bool × List Char
  | '-' :: ds => (true, ds)
  | '+' :: ds => (false, ds)
  | ds => (false, ds)

theorem exponentDigits_append (cs : List Char) {rest : List Char} (hrest : Ends rest) :
    exponentDigits (cs ++ rest) = ((exponentDigits cs).1, (exponentDigits cs).2 ++ rest) := by
  cases cs with
  | nil =>
    cases rest with
    | nil => rfl
    | cons c rest =>
      have hc := (hrest.head_ne rfl).2
      simp only [List.mem_cons, not_or] at hc
      simp [exponentDigits, hc]
  | cons c cs =>
    by_cases hminus : c = '-'
    · subst hminus
      rfl
    by_cases hplus : c = '+'
    · subst hplus
      rfl
    simp [exponentDigits, hminus, hplus]

theorem scanExponent_cons (e : Char) (cs : List Char) : scanExponent (e :: cs) =
    if e = 'e' ∨ e = 'E' then
      if (exponentDigits cs).2.takeWhile Char.isDigit = [] then (none, e :: cs)
      else
        let n : Int := digitsValue ((exponentDigits cs).2.takeWhile Char.isDigit)
        (some (if (exponentDigits cs).1 then -n else n), (exponentDigits cs).2.dropWhile Char.isDigit)
    else (none, e :: cs) := rfl

theorem scanExponent_append (cs : List Char) {rest : List Char} (hrest : Ends rest) :
    scanExponent (cs ++ rest) = ((scanExponent cs).1, (scanExponent cs).2 ++ rest) := by
  cases cs with
  | nil =>
    cases rest with
    | nil => rfl
    | cons c rest =>
      have hc := (hrest.head_ne rfl).2
      simp only [List.mem_cons, not_or] at hc
      simp [scanExponent, hc]
  | cons e cs =>
    rw [List.cons_append, scanExponent_cons, scanExponent_cons, exponentDigits_append cs hrest,
      (digits_append hrest).1, (digits_append hrest).2]
    split
    · split <;> rfl
    · rfl

/-- A number after its sign. -/
def scanUnsigned (neg : Bool) (cs : List Char) : Except LoadsError (Json × List Char) :=
  match scanIntPart cs with
  | none => .error .decode
  | some (ds, cs) =>
    let (fraction, cs) := scanFraction cs
    let (exponent, cs) := scanExponent cs
    if fraction = none ∧ exponent = none then
      if maxStrDigits < ds.length then .error .intDigits
      else .ok (.int (if neg then -digitsValue ds else digitsValue ds), cs)
    else
      let fs := fraction.getD []
      .ok (.float (.finite neg (digitsValue (ds ++ fs)) (exponent.getD 0 - fs.length)), cs)

theorem scanNumber_unsigned {cs : List Char} (h : cs.head? ≠ some '-') :
    scanNumber cs = scanUnsigned false cs := by
  cases cs with
  | nil => rfl
  | cons c cs =>
    have hc : c ≠ '-' := fun hc => h (congrArg some hc)
    unfold scanNumber
    split
    next heq =>
      split at heq
      · next hminus => exact absurd (List.cons.inj hminus).1 hc
      · cases heq
        rfl

theorem scanUnsigned_append {neg : Bool} {cs rest r : List Char} {v : Json}
    (h : scanUnsigned neg cs = .ok (v, r)) (hrest : Ends rest) :
    scanUnsigned neg (cs ++ rest) = .ok (v, r ++ rest) := by
  unfold scanUnsigned at h ⊢
  split at h
  · cases h
  · next ds cs' hint =>
    rw [scanIntPart_append hint hrest]
    simp only [scanFraction_append cs' hrest, scanExponent_append _ hrest] at h ⊢
    split
    · next hnone =>
      rw [if_pos hnone] at h
      split
      · next hlimit =>
        rw [if_pos hlimit] at h
        cases h
      · next hlimit =>
        rw [if_neg hlimit] at h
        cases h
        rfl
    · next hsome =>
      rw [if_neg hsome] at h
      cases h
      rfl

/-- **A number** is read alike where more text follows. -/
theorem scanNumber_append {cs rest r : List Char} {v : Json} (h : scanNumber cs = .ok (v, r))
    (hrest : Ends rest) : scanNumber (cs ++ rest) = .ok (v, r ++ rest) := by
  by_cases hminus : cs.head? = some '-'
  · obtain ⟨cs, rfl⟩ := List.head?_eq_some_iff.1 hminus
    exact scanUnsigned_append h hrest
  · cases cs with
    | nil => cases h
    | cons c cs =>
      have hmore : (c :: cs ++ rest).head? ≠ some '-' := hminus
      rw [scanNumber_unsigned hminus] at h
      rw [scanNumber_unsigned hmore]
      exact scanUnsigned_append h hrest

theorem head_toDigits {n : Nat} (hn : n ≠ 0) : (Nat.toDigits 10 n).head? ≠ some '0' := by
  induction n using Nat.strongRecOn with
  | ind n ih =>
    rw [Nat.toDigits_eq_if (by decide)]
    split
    · next hlt =>
      have hdigit : ∀ k, k < 10 → k ≠ 0 → Nat.digitChar k ≠ '0' := by decide
      exact fun h => hdigit n hlt hn (Option.some.inj h)
    · next hle =>
      rw [List.head?_append_of_ne_nil _ Nat.toDigits_ne_nil]
      exact ih (n / 10) (by omega) (by omega)

theorem scanIntPart_toDigits (n : Nat) : scanIntPart (Nat.toDigits 10 n) = some (Nat.toDigits 10 n, []) := by
  have hall : ∀ c ∈ Nat.toDigits 10 n, c.isDigit = true := fun c hc =>
    Nat.isDigit_of_mem_toDigits (by decide) (by decide) hc
  by_cases hn : n = 0
  · subst hn
    rw [Nat.toDigits_zero]
    rfl
  · have hhead := head_toDigits hn
    unfold scanIntPart
    split
    · next heq =>
      rw [heq] at hhead
      exact absurd rfl hhead
    · rw [List.takeWhile_eq_self_iff.2 hall, if_neg Nat.toDigits_ne_nil,
        List.span_eq_takeWhile_dropWhile, List.takeWhile_eq_self_iff.2 hall,
        List.dropWhile_eq_nil_iff.2 hall]

/-- Written with at most as many digits as `int` reads. -/
def FitsDigits (n : Int) : Prop := n.natAbs < 10 ^ maxStrDigits

theorem scanUnsigned_toDigits (neg : Bool) {n : Nat} (hn : n < 10 ^ maxStrDigits) :
    scanUnsigned neg (Nat.toDigits 10 n) = .ok (.int (if neg then -n else n), []) := by
  have hlength : (Nat.toDigits 10 n).length ≤ maxStrDigits :=
    (Nat.length_toDigits_le_iff (by decide) (by decide)).2 hn
  have hvalue : digitsValue (Nat.toDigits 10 n) = n := Nat.ofDigitChars_ten_toDigits
  rw [scanUnsigned, scanIntPart_toDigits]
  simp only [scanFraction, scanExponent, and_self, if_true]
  rw [if_neg (by omega), hvalue]

/-- **Integers** are read back. -/
theorem scanNumber_toString {n : Int} (hn : FitsDigits n) :
    scanNumber (toString n).toList = .ok (.int n, []) := by
  rw [Int.toString_eq_repr, Int.repr_eq_if]
  by_cases hsign : 0 ≤ n
  · rw [if_pos hsign, Nat.toList_repr, scanNumber_unsigned, scanUnsigned_toDigits]
    · simp [Int.toNat_of_nonneg hsign]
    · have hnat : n.toNat = n.natAbs := by omega
      rw [hnat]
      exact hn
    · intro hminus
      have hmem := List.mem_of_mem_head? hminus
      have hdigit := Nat.isDigit_of_mem_toDigits (by decide) (by decide) hmem
      exact absurd hdigit (by decide)
  · have hnat : (-n).toNat = n.natAbs := by omega
    rw [if_neg hsign, String.toList_append, Nat.toList_repr]
    change scanUnsigned true (Nat.toDigits 10 (-n).toNat) = _
    rw [scanUnsigned_toDigits true (by rw [hnat]; exact hn)]
    simp only [if_true]
    congr 3
    omega

/-! ## Characters of literals -/

/-- A blank or a printing character of ASCII. -/
def Visible (c : Char) : Prop := 0x20 ≤ c.toNat ∧ c.toNat ≤ 0x7e

instance (c : Char) : Decidable (Visible c) := inferInstanceAs (Decidable (_ ∧ _))

theorem visible_digitChar (n : Nat) : Visible (Nat.digitChar n) := by
  have hall : ∀ k, k < 17 → Visible (Nat.digitChar k) := by decide
  by_cases hn : n < 16
  · exact hall n (by omega)
  · have hstar : Nat.digitChar n = Nat.digitChar 16 := by
      rw [Nat.digitChar_eq_star.2 (by omega)]
      rfl
    rw [hstar]
    exact hall 16 (by decide)

theorem visible_hexEscape (n : Nat) : ∀ d ∈ hexEscape n, Visible d := by
  simp only [hexEscape, List.map_cons, List.map_nil, List.cons_append, List.nil_append,
    List.forall_mem_cons]
  exact ⟨by decide, by decide, visible_digitChar _, visible_digitChar _, visible_digitChar _,
    visible_digitChar _, List.forall_mem_nil _⟩

theorem visible_escapeChar (c : Char) : ∀ d ∈ escapeChar c, Visible d := by
  have hpair : ∀ e, Visible e → ∀ d ∈ ['\\', e], Visible d := fun e he =>
    List.forall_mem_cons.2 ⟨by decide, List.forall_mem_singleton.2 he⟩
  unfold escapeChar
  split
  case isTrue h => rcases h with rfl | rfl <;> exact hpair _ (by decide)
  iterate 5
    split
    case isTrue => exact hpair _ (by decide)
  split
  case isTrue h => exact List.forall_mem_singleton.2 h
  split
  · exact visible_hexEscape _
  · exact List.forall_mem_append.2 ⟨visible_hexEscape _, visible_hexEscape _⟩

theorem visible_dumpsString (s : String) : ∀ c ∈ (dumpsString s).toList, Visible c := by
  rw [toList_dumpsString, List.forall_mem_cons, List.forall_mem_append]
  refine ⟨by decide, fun d hd => ?_, List.forall_mem_singleton.2 (by decide)⟩
  obtain ⟨c, -, hc⟩ := List.mem_flatMap.1 hd
  exact visible_escapeChar c d hc

theorem visible_of_isDigit {c : Char} (h : c.isDigit = true) : Visible c := by
  have hdigit := toNat_of_isDigit h
  exact ⟨by omega, by omega⟩

theorem visible_toString (n : Int) : ∀ c ∈ (toString n).toList, Visible c := by
  intro c hc
  rcases mem_toString hc with hdigit | rfl
  · exact visible_of_isDigit hdigit
  · decide

/-- What was read, and what is left. -/
def VisiblyRead (cs r : List Char) : Prop := ∃ pre, cs = pre ++ r ∧ ∀ c ∈ pre, Visible c

theorem VisiblyRead.refl (cs : List Char) : VisiblyRead cs cs := ⟨[], rfl, List.forall_mem_nil _⟩

theorem VisiblyRead.trans {cs r r' : List Char} (h : VisiblyRead cs r) (h' : VisiblyRead r r') :
    VisiblyRead cs r' := by
  obtain ⟨pre, rfl, hpre⟩ := h
  obtain ⟨pre', rfl, hpre'⟩ := h'
  exact ⟨pre ++ pre', by rw [List.append_assoc], List.forall_mem_append.2 ⟨hpre, hpre'⟩⟩

theorem VisiblyRead.cons {c : Char} {cs r : List Char} (hc : Visible c) (h : VisiblyRead cs r) :
    VisiblyRead (c :: cs) r := by
  obtain ⟨pre, rfl, hpre⟩ := h
  exact ⟨c :: pre, rfl, List.forall_mem_cons.2 ⟨hc, hpre⟩⟩

theorem visiblyRead_digits (cs : List Char) : VisiblyRead cs (cs.dropWhile Char.isDigit) :=
  ⟨cs.takeWhile Char.isDigit, List.takeWhile_append_dropWhile.symm,
    fun _ hc => visible_of_isDigit (List.mem_takeWhile_imp hc)⟩

theorem visiblyRead_intPart {cs ds r : List Char} (h : scanIntPart cs = some (ds, r)) :
    VisiblyRead cs r := by
  cases cs with
  | nil => cases h
  | cons c cs =>
    by_cases hc : c = '0'
    · subst hc
      cases h
      exact .cons (by decide) (.refl _)
    · rw [scanIntPart_of_ne hc] at h
      split at h
      · cases h
      · cases h
        exact visiblyRead_digits _

theorem visiblyRead_fraction (cs : List Char) : VisiblyRead cs (scanFraction cs).2 := by
  unfold scanFraction
  split
  · split
    · exact .refl _
    · exact .cons (by decide) (visiblyRead_digits _)
  · exact .refl _

theorem visiblyRead_sign (cs : List Char) : VisiblyRead cs (exponentDigits cs).2 := by
  unfold exponentDigits
  split
  · exact .cons (by decide) (.refl _)
  · exact .cons (by decide) (.refl _)
  · exact .refl _

theorem visiblyRead_exponent (cs : List Char) : VisiblyRead cs (scanExponent cs).2 := by
  cases cs with
  | nil => exact .refl _
  | cons e cs =>
    rw [scanExponent_cons]
    split
    · next he =>
      split
      · exact .refl _
      · refine .cons ?_ ((visiblyRead_sign cs).trans (visiblyRead_digits _))
        rcases he with rfl | rfl <;> decide
    · exact .refl _

theorem visiblyRead_unsigned {neg : Bool} {cs r : List Char} {v : Json}
    (h : scanUnsigned neg cs = .ok (v, r)) : VisiblyRead cs r := by
  unfold scanUnsigned at h
  split at h
  · cases h
  · next ds cs' hint =>
    have hread := (visiblyRead_intPart hint).trans
      ((visiblyRead_fraction cs').trans (visiblyRead_exponent (scanFraction cs').2))
    dsimp only at h
    split at h
    · split at h
      · cases h
      · cases h
        exact hread
    · cases h
      exact hread

/-- The literal of a number. -/
theorem visible_of_scanNumber {cs : List Char} {v : Json} (h : scanNumber cs = .ok (v, [])) :
    ∀ c ∈ cs, Visible c := by
  have hread : VisiblyRead cs [] := by
    by_cases hminus : cs.head? = some '-'
    · obtain ⟨ds, rfl⟩ := List.head?_eq_some_iff.1 hminus
      exact .cons (by decide) (visiblyRead_unsigned h)
    · rw [scanNumber_unsigned hminus] at h
      exact visiblyRead_unsigned h
  obtain ⟨pre, hpre, hvisible⟩ := hread
  rw [hpre, List.append_nil]
  exact hvisible

end UniversityQA.Py
