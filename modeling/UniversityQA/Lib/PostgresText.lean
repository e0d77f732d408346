import UniversityQA.Lib.WordSearch

/-!
# The lexical structure of PostgreSQL texts

A text is a sequence of tokens with whitespace and comments between them.
Only unquoted and double-quoted identifiers are looked into; every other
token, an operator, a number or a string constant, is just its characters.

* `Renders toks s`: the text `s` consists of the tokens `toks`;
* `Renders.isWordOf_word`, `Renders.isWordOf_quoted`: an unquoted identifier,
  and a quoted one of word characters, is a word of the text in the sense of
  `\b`, wherever it stands.
-/

namespace PostgresText

open WordSearch

/-! ## Characters -/

/-- A character that can continue an unquoted identifier. -/
def identChar (c : Char) : Bool := c.isAlphanum || c == '_' || c == '$' || 128 ≤ c.toNat

def newline (c : Char) : Bool := c == '\n' || c == '\r'

def space (c : Char) : Bool := newline c || c == ' ' || c == '\t' || c == '\x0b' || c == '\x0c'

/-! ## Separators -/

/-- Where a reader of whitespace and comments is: between comments, in a
line comment, or in a block comment inside `depth` others. -/
inductive Reading where
  | between
  | line
  | block (depth : Nat)

/-- Nothing but whitespace and comments; with `unfinished` the last line comment
needs no end. -/
def separates (unfinished : Bool) : Reading → List Char → Bool
  | .between, [] => true
  | .between, '-' :: '-' :: cs => separates unfinished .line cs
  | .between, '/' :: '*' :: cs => separates unfinished (.block 0) cs
  | .between, c :: cs => space c && separates unfinished .between cs
  | .line, [] => unfinished
  | .line, c :: cs => if newline c then separates unfinished .between cs else separates unfinished .line cs
  | .block _, [] => false
  | .block 0, '*' :: '/' :: cs => separates unfinished .between cs
  | .block (depth + 1), '*' :: '/' :: cs => separates unfinished (.block depth) cs
  | .block depth, '/' :: '*' :: cs => separates unfinished (.block (depth + 1)) cs
  | .block depth, _ :: cs => separates unfinished (.block depth) cs

example : separates false .between "\n /* a /* b */ */ -- c\n\t".toList = true := by decide

theorem endsOutside_cons_of {isWord : Char → Bool} {c : Char} {cs : List Char}
    (h : EndsOutside isWord cs) (hc : cs = [] → isWord c = false) : EndsOutside isWord (c :: cs) := by
  cases cs with
  | nil => exact hc rfl
  | cons d cs =>
    have hcons : EndsOutside isWord ([c] ++ d :: cs) := (endsOutside_cons [c] cs d).mpr h
    exact hcons

theorem identChar_of_space {c : Char} (h : space c = true) : identChar c = false := by
  simp only [space, newline, Bool.or_eq_true, beq_iff_eq] at h
  rcases h with ((((rfl | rfl) | rfl) | rfl) | rfl) | rfl <;> decide

/-- A comment needs its end. -/
theorem separates_ne_nil {r : Reading} {cs : List Char} (h : separates false r cs = true)
    (hr : r ≠ .between) : cs ≠ [] := by
  rintro rfl
  cases r with
  | between => exact hr rfl
  | line => cases h
  | block depth => cases h

/-- A separator does not end in an identifier. -/
theorem separates_endsOutside (r : Reading) (cs : List Char) (h : separates false r cs = true) :
    EndsOutside identChar cs := by
  fun_induction separates false r cs with
  | case1 => rfl
  | case2 cs ih => exact endsOutside_cons_of (endsOutside_cons_of (ih h) fun _ => rfl) fun _ => rfl
  | case3 cs ih => exact endsOutside_cons_of (endsOutside_cons_of (ih h) fun _ => rfl) fun _ => rfl
  | case4 c cs _ _ ih =>
    rw [Bool.and_eq_true] at h
    exact endsOutside_cons_of (ih h.2) fun _ => identChar_of_space h.1
  | case5 => cases h
  | case6 c cs hc ih =>
    have hspace : space c = true := by simp [space, hc]
    exact endsOutside_cons_of (ih h) fun _ => identChar_of_space hspace
  | case7 c cs _ ih =>
    exact endsOutside_cons_of (ih h) fun hnil => absurd hnil (separates_ne_nil h (by simp))
  | case8 => cases h
  | case9 cs ih => exact endsOutside_cons_of (endsOutside_cons_of (ih h) fun _ => rfl) fun _ => rfl
  | case10 depth cs ih =>
    exact endsOutside_cons_of (endsOutside_cons_of (ih h) fun _ => rfl) fun _ => rfl
  | case11 depth cs ih =>
    exact endsOutside_cons_of (endsOutside_cons_of (ih h) fun _ => rfl) fun _ => rfl
  | case12 depth c cs _ _ _ ih =>
    exact endsOutside_cons_of (ih h) fun hnil => absurd hnil (separates_ne_nil h (by simp))

theorem separates_cons {unfinished : Bool} {c : Char} {cs : List Char} (hc : c ≠ '-' ∧ c ≠ '/') :
    separates unfinished .between (c :: cs) = (space c && separates unfinished .between cs) := by
  rw [separates]
  · exact fun _ hdash => absurd hdash hc.1
  · exact fun _ hslash => absurd hslash hc.2

theorem separates_head {unfinished : Bool} {c : Char} {cs : List Char}
    (h : separates unfinished .between (c :: cs) = true) : (c = '-' ∨ c = '/') ∨ space c = true := by
  by_cases hcomment : c = '-' ∨ c = '/'
  · exact .inl hcomment
  · rw [separates_cons (not_or.mp hcomment), Bool.and_eq_true] at h
    exact .inr h.1

/-- A separator is whitespace up to its first comment. -/
theorem separates_cases {unfinished : Bool} {cs : List Char}
    (h : separates unfinished .between cs = true) : (∀ c ∈ cs, space c = true) ∨
      ∃ blank c more, cs = blank ++ c :: more ∧ (∀ d ∈ blank, space d = true) ∧ (c = '-' ∨ c = '/') := by
  induction cs with
  | nil => exact .inl fun c hc => by cases hc
  | cons c cs ih =>
    by_cases hcomment : c = '-' ∨ c = '/'
    · exact .inr ⟨[], c, cs, rfl, fun d hd => (by cases hd), hcomment⟩
    · rw [not_or] at hcomment
      rw [separates_cons hcomment, Bool.and_eq_true] at h
      rcases ih h.2 with hblank | ⟨blank, d, more, rfl, hblank, hd⟩
      · exact .inl fun d hd => (List.mem_cons.mp hd).elim (fun hd => hd ▸ h.1) (hblank d)
      · refine .inr ⟨c :: blank, d, more, rfl, fun e he => ?_, hd⟩
        exact (List.mem_cons.mp he).elim (fun he => he ▸ h.1) (hblank e)

/-! ## Tokens -/

/-- An identifier or keyword as it stands, a double-quoted identifier, or the
characters of anything else. -/
inductive Token where
  | word (w : List Char)
  | quoted (name : List Char)
  | other (text : List Char)
  deriving DecidableEq

namespace Token

/-- A quote inside a quoted identifier is doubled. -/
def escaped (name : List Char) : List Char :=
  name.flatMap fun c => if c = '"' then ['"', '"'] else [c]

def text : Token → List Char
  | word w => w
  | quoted name => '"' :: escaped name ++ ['"']
  | other text => text

def Valid : Token → Prop
  | word w => w ≠ [] ∧ ∀ c ∈ w, identChar c = true
  | quoted name => name ≠ []
  | other text => text ≠ []

theorem Valid.text_ne_nil {t : Token} (h : t.Valid) : t.text ≠ [] := by
  cases t with
  | word w => exact h.1
  | quoted name => simp [text]
  | other text => exact h

/-- The identifier a token stands for: an unquoted one is folded to lower
case. -/
def ident : Token → Option (List Char)
  | word w => some (w.map Char.toLower)
  | quoted name => some name
  | other _ => none

/-- The token is this keyword, in any letter case. -/
def IsKeyword (keyword : String) (t : Token) : Prop :=
  ∃ w, t = word w ∧ w.map Char.toLower = keyword.toList.map Char.toLower

theorem escaped_eq_self {name : List Char} (h : '"' ∉ name) : escaped name = name := by
  induction name with
  | nil => rfl
  | cons c name ih =>
    have hc : c ≠ '"' := fun hc => h (hc ▸ List.mem_cons_self ..)
    have hrest := ih fun hmem => h (List.mem_cons_of_mem _ hmem)
    rw [escaped, List.flatMap_cons, if_neg hc, ← escaped, hrest]
    rfl

end Token

/-! ## Texts -/

/-- No identifier runs from `l` into `r`; neither does one follow a number
directly. -/
def Apart (l r : List Char) : Prop :=
  ¬ (wordAt identChar l.getLast? = true ∧ wordAt identChar r.head? = true)

/-- The text consists of the tokens, with separators in front of, between and
behind them. -/
inductive Renders : List Token → List Char → Prop
  | nil {last} : separates true .between last = true → Renders [] last
  | cons {sep t toks rest} : separates false .between sep = true → t.Valid → Apart t.text rest →
      Renders toks rest → Renders (t :: toks) (sep ++ t.text ++ rest)

/-- Tokens with the separators in front of them, and what follows the last. -/
def layout : List (List Char × Token) → List Char → List Char
  | [], last => last
  | (sep, t) :: items, last => sep ++ t.text ++ layout items last

def WellLaid : List (List Char × Token) → List Char → Prop
  | [], last => separates true .between last = true
  | (sep, t) :: items, last => separates false .between sep = true ∧ t.Valid ∧
      Apart t.text (layout items last) ∧ WellLaid items last

instance : DecidablePred Token.Valid
  | .word w =>
    have := List.decidableBAll (fun c => identChar c = true) w
    inferInstanceAs (Decidable (_ ∧ _))
  | .quoted _ => inferInstanceAs (Decidable (_ ≠ _))
  | .other _ => inferInstanceAs (Decidable (_ ≠ _))

instance (l r : List Char) : Decidable (Apart l r) := inferInstanceAs (Decidable (¬ _))

instance decidableWellLaid (last : List Char) : (items : List (List Char × Token)) →
    Decidable (WellLaid items last)
  | [] => inferInstanceAs (Decidable (_ = _))
  | (_, _) :: items =>
    have := decidableWellLaid last items
    inferInstanceAs (Decidable (_ ∧ _ ∧ _ ∧ _))

theorem renders_layout {items : List (List Char × Token)} {last : List Char}
    (h : WellLaid items last) : Renders (items.map Prod.snd) (layout items last) := by
  induction items with
  | nil => exact .nil h
  | cons item items ih =>
    obtain ⟨hsep, hvalid, hapart, hrest⟩ := h
    exact .cons hsep hvalid hapart (ih hrest)

theorem endsOutside_of_apart {sep l r q : List Char} (hl : l ≠ [])
    (hr : wordAt identChar r.head? = true) (h : Apart l (r ++ q)) :
    EndsOutside identChar (sep ++ l) := by
  have hhead : (r ++ q).head? = r.head? := by
    cases r with
    | nil => cases hr
    | cons c r => rfl
  have hlast : (sep ++ l).getLast? = l.getLast? := List.getLast?_append_of_ne_nil sep hl
  rw [Apart, hhead, hr] at h
  rw [EndsOutside, hlast]
  exact Bool.eq_false_iff.mpr fun hword => h ⟨hword, rfl⟩

/-- The characters around a token: an identifier does not run into it. -/
theorem Renders.occurs {toks : List Token} {s : List Char} (h : Renders toks s) {t : Token}
    (ht : t ∈ toks) : t.Valid ∧ ∃ p q, s = p ++ t.text ++ q ∧ Apart t.text q ∧
      (wordAt identChar t.text.head? = true → EndsOutside identChar p) := by
  induction h with
  | nil => cases ht
  | @cons sep t' toks rest hsep hvalid hapart hrest ih =>
    rcases List.mem_cons.mp ht with rfl | ht
    · exact ⟨hvalid, sep, rest, rfl, hapart, fun _ => separates_endsOutside .between sep hsep⟩
    · obtain ⟨ht', p, q, rfl, hq, hp⟩ := ih ht
      refine ⟨ht', sep ++ t'.text ++ p, q, by simp, hq, fun hhead => ?_⟩
      cases p with
      | nil =>
        rw [List.append_nil]
        exact endsOutside_of_apart hvalid.text_ne_nil hhead (by simpa using hapart)
      | cons c p => exact (endsOutside_cons _ p c).mpr (hp hhead)

section Words

variable {isWord : Char → Bool}

theorem outside_of_ident (hsub : ∀ c, isWord c = true → identChar c = true) {x : Option Char}
    (h : wordAt identChar x = false) : wordAt isWord x = false := by
  cases x with
  | none => rfl
  | some c =>
    cases hc : isWord c with
    | false => exact hc
    | true =>
      have hident := hsub c hc
      rw [wordAt, hident] at h
      cases h

/-- An unquoted identifier of word characters is a word of the text. -/
theorem Renders.isWordOf_word (hsub : ∀ c, isWord c = true → identChar c = true)
    {toks : List Token} {s w : List Char} (h : Renders toks s) (ht : .word w ∈ toks)
    (hw : ∀ c ∈ w, isWord c = true) : IsWordOf isWord w s := by
  obtain ⟨⟨hne, hident⟩, p, q, rfl, hq, hp⟩ := h.occurs ht
  have hhead : wordAt identChar w.head? = true := by
    have := wordAt_head? hne hident []
    rwa [List.append_nil] at this
  have hlast : wordAt identChar w.getLast? = true := wordAt_getLast? hne hident
  refine ⟨hne, hw, p, q, rfl, outside_of_ident hsub (hp hhead), outside_of_ident hsub ?_⟩
  exact Bool.eq_false_iff.mpr fun hstart => hq ⟨hlast, hstart⟩

/-- So is a quoted one, inside its quotes. -/
theorem Renders.isWordOf_quoted {toks : List Token} {s name : List Char} (h : Renders toks s)
    (ht : .quoted name ∈ toks) (hquote : isWord '"' = false) (hname : ∀ c ∈ name, isWord c = true) :
    IsWordOf isWord name s := by
  obtain ⟨hne, p, q, rfl, -, -⟩ := h.occurs ht
  have hescaped : Token.escaped name = name := by
    refine Token.escaped_eq_self fun hmem => ?_
    have hword := hname _ hmem
    rw [hquote] at hword
    cases hword
  refine ⟨hne, hname, p ++ ['"'], '"' :: q, ?_, ?_, hquote⟩
  · simp [Token.text, hescaped]
  · simpa [EndsOutside, wordAt] using hquote

end Words

end PostgresText
