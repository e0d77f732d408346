import Mathlib.Data.List.Basic

/-!
# Percent-decoding

`urllib.parse.unquote`: each `%` with two hexadecimal digits is a byte, runs of
bytes are read as UTF-8 and what is no UTF-8 becomes U+FFFD.

* `HasEscape`: some `%` of the text has two hexadecimal digits.
* `length_unquote_le`: decoding makes no text longer.
* `unquote_eq_self_iff`: it changes exactly the texts with an escape.
-/

namespace UniversityQA.Py

/-! ## Escapes -/

def hexValue (c : Char) : Option Nat :=
  if '0' ≤ c ∧ c ≤ '9' then some (c.toNat - '0'.toNat)
  else if 'a' ≤ c ∧ c ≤ 'f' then some (c.toNat - 'a'.toNat + 10)
  else if 'A' ≤ c ∧ c ≤ 'F' then some (c.toNat - 'A'.toNat + 10)
  else none

/-- The byte of the escape that the text begins with. -/
def escape : List Char → Option Nat
  | '%' :: a :: b :: _ =>
    match hexValue a, hexValue b with
    | some x, some y => some (16 * x + y)
    | _, _ => none
  | _ => none

inductive Piece where
  | char (c : Char)
  | byte (b : Nat)
  deriving DecidableEq, Repr

/-- The text as characters and escaped bytes; the first argument counts the
characters that belong to the last escape. -/
def pieces : Nat → List Char → List Piece
  | _, [] => []
  | skip + 1, _ :: s => pieces skip s
  | 0, c :: s =>
    match escape (c :: s) with
    | some b => .byte b :: pieces 2 s
    | none => .char c :: pieces 0 s

/-! ## UTF-8 -/

/-- An unfinished sequence: the bytes that are missing, the bounds of the next
one and the bits read. -/
structure Sequence where
  missing : Nat
  lower : Nat
  upper : Nat
  point : Nat

/-- What a byte does where a character begins. -/
def leadByte (b : Nat) : List Char × Option Sequence :=
  if b < 0x80 then ([Char.ofNat b], none)
  else if 0xC2 ≤ b ∧ b ≤ 0xDF then ([], some ⟨1, 0x80, 0xBF, b - 0xC0⟩)
  else if 0xE0 ≤ b ∧ b ≤ 0xEF then
    ([], some ⟨2, if b = 0xE0 then 0xA0 else 0x80, if b = 0xED then 0x9F else 0xBF, b - 0xE0⟩)
  else if 0xF0 ≤ b ∧ b ≤ 0xF4 then
    ([], some ⟨3, if b = 0xF0 then 0x90 else 0x80, if b = 0xF4 then 0x8F else 0xBF, b - 0xF0⟩)
  else (['\uFFFD'], none)

def readByte : Option Sequence → Nat → List Char × Option Sequence
  | none, b => leadByte b
  | some q, b =>
    if q.lower ≤ b ∧ b ≤ q.upper then
      let point := 64 * q.point + (b - 0x80)
      if q.missing ≤ 1 then ([Char.ofNat point], none)
      else ([], some ⟨q.missing - 1, 0x80, 0xBF, point⟩)
    else ('\uFFFD' :: (leadByte b).1, (leadByte b).2)

/-- What is left of a sequence that ends too early. -/
def cutOff : Option Sequence → List Char
  | none => []
  | some _ => ['\uFFFD']

def decodePieces : Option Sequence → List Piece → List Char
  | q, [] => cutOff q
  | q, .char c :: ps => cutOff q ++ c :: decodePieces none ps
  | q, .byte b :: ps => (readByte q b).1 ++ decodePieces (readByte q b).2 ps

/-- `urllib.parse.unquote(s)`. -/
def unquote (s : List Char) : List Char := decodePieces none (pieces 0 s)

example : unquote "a%40b%C3%a9%ff%zz".toList = "a@bé\uFFFD%zz".toList := by decide +kernel

/-! ## Texts with an escape -/

/-- A `%` with two hexadecimal digits. -/
def HasEscape (s : List Char) : Prop :=
  ∃ before x y after, s = before ++ '%' :: x :: y :: after ∧
    (hexValue x).isSome ∧ (hexValue y).isSome

theorem escape_isSome_iff (s : List Char) : (escape s).isSome ↔
    ∃ x y after, s = '%' :: x :: y :: after ∧ (hexValue x).isSome ∧ (hexValue y).isSome := by
  constructor
  · intro h
    unfold escape at h
    split at h
    · next a b after =>
      refine ⟨a, b, after, rfl, ?_⟩
      cases ha : hexValue a <;> cases hb : hexValue b <;> simp_all
    · cases h
  · rintro ⟨x, y, after, rfl, hx, hy⟩
    obtain ⟨m, hm⟩ := Option.isSome_iff_exists.1 hx
    obtain ⟨n, hn⟩ := Option.isSome_iff_exists.1 hy
    simp [escape, hm, hn]

theorem hasEscape_cons (c : Char) (s : List Char) :
    HasEscape (c :: s) ↔ (escape (c :: s)).isSome ∨ HasEscape s := by
  rw [escape_isSome_iff]
  constructor
  · rintro ⟨before, x, y, after, hs, hxy⟩
    cases before with
    | nil => exact .inl ⟨x, y, after, hs, hxy⟩
    | cons d before => exact .inr ⟨before, x, y, after, (List.cons.inj hs).2, hxy⟩
  · rintro (⟨x, y, after, hs, hxy⟩ | ⟨before, x, y, after, hs, hxy⟩)
    · exact ⟨[], x, y, after, hs, hxy⟩
    · exact ⟨c :: before, x, y, after, by rw [hs, List.cons_append], hxy⟩

theorem not_hasEscape_nil : ¬HasEscape [] := by
  rintro ⟨before, x, y, after, hs, -⟩
  cases before <;> cases hs

/-! ## Lengths -/

theorem length_pieces_le (skip : Nat) (s : List Char) : (pieces skip s).length ≤ s.length := by
  fun_induction pieces skip s with
  | case1 => simp
  | case2 skip c s ih => simp only [List.length_cons]; omega
  | case3 c s b _ ih => simp only [List.length_cons]; omega
  | case4 c s _ ih => simp only [List.length_cons]; omega

theorem pieces_of_not_hasEscape {s : List Char} (h : ¬HasEscape s) :
    pieces 0 s = s.map Piece.char := by
  induction s with
  | nil => rfl
  | cons c s ih =>
    obtain ⟨hhead, htail⟩ := not_or.1 (mt (hasEscape_cons c s).2 h)
    rw [pieces, Option.not_isSome_iff_eq_none.1 hhead, List.map_cons, ih htail]

theorem length_pieces_lt {s : List Char} (h : HasEscape s) : (pieces 0 s).length < s.length := by
  induction s with
  | nil => exact absurd h not_hasEscape_nil
  | cons c s ih =>
    rw [pieces]
    cases hc : escape (c :: s) with
    | some b =>
      obtain ⟨x, y, after, hs, -⟩ := (escape_isSome_iff _).1 (by rw [hc]; rfl)
      rw [(List.cons.inj hs).2]
      have := length_pieces_le 0 after
      simp only [pieces, List.length_cons]
      omega
    | none =>
      have htail : HasEscape s := ((hasEscape_cons c s).1 h).resolve_left (by simp [hc])
      have := ih htail
      simp only [List.length_cons]
      omega

theorem length_leadByte (b : Nat) :
    (leadByte b).1.length + (cutOff (leadByte b).2).length = 1 := by
  unfold leadByte
  split
  · rfl
  · split
    · rfl
    · split
      · rfl
      · split <;> rfl

theorem length_readByte_le (q : Option Sequence) (b : Nat) :
    (readByte q b).1.length + (cutOff (readByte q b).2).length ≤ (cutOff q).length + 1 := by
  have hlead := length_leadByte b
  cases q with
  | none => exact le_of_eq_of_le hlead (Nat.le_add_left 1 _)
  | some q =>
    by_cases hrange : q.lower ≤ b ∧ b ≤ q.upper
    · by_cases hlast : q.missing ≤ 1
      · simp [readByte, hrange, hlast, cutOff]
      · simp [readByte, hrange, hlast, cutOff]
    · rw [readByte, if_neg hrange]
      simp only [List.length_cons, cutOff, List.length_nil] at hlead ⊢
      omega

theorem length_decodePieces_le (q : Option Sequence) (ps : List Piece) :
    (decodePieces q ps).length ≤ (cutOff q).length + ps.length := by
  induction ps generalizing q with
  | nil => exact Nat.le_refl _
  | cons p ps ih =>
    cases p with
    | char c =>
      have := ih none
      simp only [decodePieces, List.length_append, List.length_cons, cutOff, List.length_nil] at this ⊢
      omega
    | byte b =>
      have hrest := ih (readByte q b).2
      have hbyte := length_readByte_le q b
      simp only [decodePieces, List.length_append, List.length_cons]
      omega

theorem length_unquote_le_pieces (s : List Char) : (unquote s).length ≤ (pieces 0 s).length := by
  have h := length_decodePieces_le none (pieces 0 s)
  rwa [show (cutOff none).length = 0 from rfl, Nat.zero_add] at h

theorem length_unquote_le (s : List Char) : (unquote s).length ≤ s.length :=
  Nat.le_trans (length_unquote_le_pieces s) (length_pieces_le 0 s)

theorem decodePieces_map_char (s : List Char) : decodePieces none (s.map Piece.char) = s := by
  induction s with
  | nil => rfl
  | cons c s ih =>
    rw [List.map_cons, decodePieces, ih]
    rfl

/-- **Decoding is the identity exactly on texts without an escape.** -/
theorem unquote_eq_self_iff (s : List Char) : unquote s = s ↔ ¬HasEscape s := by
  constructor
  · intro h hescape
    have hle := length_unquote_le_pieces s
    have hlt := length_pieces_lt hescape
    rw [h] at hle
    omega
  · intro h
    rw [unquote, pieces_of_not_hasEscape h, decodePieces_map_char]

end UniversityQA.Py
