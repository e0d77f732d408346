import Mathlib.Data.List.Basic

/-!
# Python's `json`

`loads` is the decoder of the `json` module with its default settings: strict
strings, `NaN` and the infinities accepted, the last of several equal keys
kept, integers of more than 4300 digits refused with a `ValueError`.
-/

namespace UniversityQA.Py

/-- A float, by a decimal that denotes it: `±digits * 10 ^ exp`. -/
inductive PyFloat where
  | finite (neg : Bool) (digits : Nat) (exp : Int)
  | inf (neg : Bool)
  | nan
  deriving DecidableEq, Repr

/-- The values `json.loads` can return. -/
inductive Json where
  | null
  | bool (b : Bool)
  | int (n : Int)
  | float (x : PyFloat)
  | str (s : String)
  | arr (xs : List Json)
  | obj (fields : List (String × Json))
  deriving Repr

mutual

def Json.beq : Json → Json → Bool
  | .null, .null => true
  | .bool a, .bool b => a == b
  | .int a, .int b => a == b
  | .float a, .float b => a == b
  | .str a, .str b => a == b
  | .arr xs, .arr ys => Json.beqList xs ys
  | .obj d, .obj e => Json.beqFields d e
  | _, _ => false

def Json.beqList : List Json → List Json → Bool
  | [], [] => true
  | a :: xs, b :: ys => a.beq b && Json.beqList xs ys
  | _, _ => false

def Json.beqFields : List (String × Json) → List (String × Json) → Bool
  | [], [] => true
  | (k, a) :: d, (l, b) :: e => k == l && a.beq b && Json.beqFields d e
  | _, _ => false

end

mutual

theorem Json.beq_iff : ∀ a b : Json, a.beq b = true ↔ a = b
  | .null, b => by cases b <;> simp [Json.beq]
  | .bool _, b => by cases b <;> simp [Json.beq]
  | .int _, b => by cases b <;> simp [Json.beq]
  | .float _, b => by cases b <;> simp [Json.beq]
  | .str _, b => by cases b <;> simp [Json.beq]
  | .arr xs, b => by cases b <;> simp [Json.beq, Json.beqList_iff xs]
  | .obj d, b => by cases b <;> simp [Json.beq, Json.beqFields_iff d]

theorem Json.beqList_iff : ∀ xs ys : List Json, Json.beqList xs ys = true ↔ xs = ys
  | [], ys => by cases ys <;> simp [Json.beqList]
  | x :: xs, ys => by cases ys <;> simp [Json.beqList, Json.beq_iff x, Json.beqList_iff xs]

theorem Json.beqFields_iff :
    ∀ d e : List (String × Json), Json.beqFields d e = true ↔ d = e
  | [], e => by cases e <;> simp [Json.beqFields]
  | (k, a) :: d, e => by
    rcases e with _ | ⟨⟨l, b⟩, e⟩ <;>
      simp [Json.beqFields, Json.beq_iff a, Json.beqFields_iff d]

end

instance : DecidableEq Json := fun a b => decidable_of_iff _ (Json.beq_iff a b)

/-- A decoded object, a dict in insertion order. -/
abbrev JsonObject := List (String × Json)

/-- `d[key] = v`. -/
def setItem : JsonObject → String → Json → JsonObject
  | [], key, v => [(key, v)]
  | (k, w) :: d, key, v => if k = key then (k, v) :: d else (k, w) :: setItem d key v

/-- `d.get(key, default)`. -/
def JsonObject.get (d : JsonObject) (key : String) (default : Json) : Json :=
  (d.lookup key).getD default

/-- The nearest double is zero. -/
def PyFloat.isZero : PyFloat → Bool
  | .finite _ digits exp =>
    digits * Nat.pow 2 1075 * Nat.pow 10 exp.toNat ≤ Nat.pow 10 (-exp).toNat
  | _ => false

/-- `bool(v)`. -/
def Json.truthy : Json → Bool
  | .null => false
  | .bool b => b
  | .int n => n != 0
  | .float x => !x.isZero
  | .str s => s != ""
  | .arr xs => !xs.isEmpty
  | .obj d => !d.isEmpty

/-- `type(v).__name__`. -/
def Json.typeName : Json → String
  | .null => "NoneType"
  | .bool _ => "bool"
  | .int _ => "int"
  | .float _ => "float"
  | .str _ => "str"
  | .arr _ => "list"
  | .obj _ => "dict"

/-- What `json.loads` raises: `JSONDecodeError`, or the `ValueError` of `int`
for a literal over the digit limit. -/
inductive LoadsError where
  | decode
  | intDigits
  deriving DecidableEq, Repr

/-- `json.dumps` of a string, with `ensure_ascii`. -/
def dumpsString (s : String) : String :=
  let hex (n : Nat) : List Char :=
    ['\\', 'u'] ++ [n / 4096, n / 256 % 16, n / 16 % 16, n % 16].map Nat.digitChar
  let escape (c : Char) : List Char :=
    if c = '"' ∨ c = '\\' then ['\\', c]
    else if c = '\n' then ['\\', 'n']
    else if c = '\r' then ['\\', 'r']
    else if c = '\t' then ['\\', 't']
    else if c = '\x0c' then ['\\', 'f']
    else if c = '\x08' then ['\\', 'b']
    else if ' ' ≤ c ∧ c ≤ '~' then [c]
    else if c.toNat < 0x10000 then hex c.toNat
    else hex (0xD800 + (c.toNat - 0x10000) / 0x400) ++ hex (0xDC00 + (c.toNat - 0x10000) % 0x400)
  .ofList ('"' :: s.toList.flatMap escape ++ ['"'])

/-! ## Scanner -/

def isJsonSpace (c : Char) : Bool := c == ' ' || c == '\t' || c == '\n' || c == '\r'

def skipSpace (cs : List Char) : List Char := cs.dropWhile isJsonSpace

def hexDigit? (c : Char) : Option Nat :=
  if '0' ≤ c ∧ c ≤ '9' then some (c.toNat - '0'.toNat)
  else if 'a' ≤ c ∧ c ≤ 'f' then some (c.toNat - 'a'.toNat + 10)
  else if 'A' ≤ c ∧ c ≤ 'F' then some (c.toNat - 'A'.toNat + 10)
  else none

def hex4? (a b c d : Char) : Option Nat := do
  return ((← hexDigit? a) * 16 + (← hexDigit? b)) * 256 + (← hexDigit? c) * 16 + (← hexDigit? d)

/-- The character after a backslash, other than `u`. -/
def simpleEscape? : Char → Option Char
  | '"' => some '"'
  | '\\' => some '\\'
  | '/' => some '/'
  | 'b' => some '\x08'
  | 'f' => some '\x0c'
  | 'n' => some '\n'
  | 'r' => some '\r'
  | 't' => some '\t'
  | _ => none

/-- The code points of a string literal whose opening quote is read, and the
text after its closing quote. -/
def scanCodePoints : List Char → Except LoadsError (List Nat × List Char)
  | [] => .error .decode
  | '"' :: cs => .ok ([], cs)
  | '\\' :: 'u' :: a :: b :: c :: d :: cs =>
    match hex4? a b c d with
    | none => .error .decode
    | some n => (scanCodePoints cs).map fun r => (n :: r.1, r.2)
  | '\\' :: e :: cs =>
    match simpleEscape? e with
    | none => .error .decode
    | some c => (scanCodePoints cs).map fun r => (c.toNat :: r.1, r.2)
  | c :: cs =>
    if c.toNat < 0x20 ∨ c = '\\' then .error .decode
    else (scanCodePoints cs).map fun r => (c.toNat :: r.1, r.2)

/-- Joins surrogate pairs.  A lone surrogate, which a Python string can hold
and a Lean one cannot, becomes U+FFFD. -/
def joinSurrogates : List Nat → List Char
  | [] => []
  | [n] => [if n.isValidChar then .ofNat n else '\ufffd']
  | hi :: lo :: ns =>
    if 0xD800 ≤ hi ∧ hi ≤ 0xDBFF ∧ 0xDC00 ≤ lo ∧ lo ≤ 0xDFFF then
      .ofNat (0x10000 + (hi - 0xD800) * 0x400 + (lo - 0xDC00)) :: joinSurrogates ns
    else (if hi.isValidChar then .ofNat hi else '\ufffd') :: joinSurrogates (lo :: ns)

def scanString (cs : List Char) : Except LoadsError (String × List Char) :=
  (scanCodePoints cs).map fun r => (.ofList (joinSurrogates r.1), r.2)

def digitsValue (ds : List Char) : Nat := ds.foldl (fun n d => 10 * n + (d.toNat - '0'.toNat)) 0

/-- `sys.int_info.default_max_str_digits`. -/
def maxStrDigits : Nat := 4300

/-- The digits before a fraction or an exponent: `0` or a number without
leading zero. -/
def scanIntPart : List Char → Option (List Char × List Char)
  | '0' :: cs => some (['0'], cs)
  | cs => if cs.takeWhile Char.isDigit = [] then none else some (cs.span Char.isDigit)

/-- `.` and digits, or nothing. -/
def scanFraction : List Char → Option (List Char) × List Char
  | '.' :: cs =>
    if cs.takeWhile Char.isDigit = [] then (none, '.' :: cs)
    else (some (cs.takeWhile Char.isDigit), cs.dropWhile Char.isDigit)
  | cs => (none, cs)

/-- `e` or `E`, a sign and digits, or nothing. -/
def scanExponent : List Char → Option Int × List Char
  | [] => (none, [])
  | e :: cs =>
    if e = 'e' ∨ e = 'E' then
      let (neg, ds) := match cs with
        | '-' :: ds => (true, ds)
        | '+' :: ds => (false, ds)
        | ds => (false, ds)
      if ds.takeWhile Char.isDigit = [] then (none, e :: cs)
      else
        let n : Int := digitsValue (ds.takeWhile Char.isDigit)
        (some (if neg then -n else n), ds.dropWhile Char.isDigit)
    else (none, e :: cs)

def scanNumber (cs : List Char) : Except LoadsError (Json × List Char) :=
  let (neg, cs) := match cs with
    | '-' :: cs => (true, cs)
    | cs => (false, cs)
  match scanIntPart cs with
  | none => .error .decode
  | some (ds, cs) =>
    let (fraction, cs) := scanFraction cs
    let (exponent, cs) := scanExponent cs
    if fraction = none ∧ exponent = none then
      if maxStrDigits < ds.length then .error .intDigits
      else .ok (.int (if neg then -digitsValue ds else digitsValue ds), cs)
    else
      let fs := fraction.getD []
      .ok (.float (.finite neg (digitsValue (ds ++ fs)) (exponent.getD 0 - fs.length)), cs)

mutual

/-- A value at the head of the text and the text after it.  The bound is on
the nesting of the calls; the length of the text always suffices. -/
def scanOnce : Nat → List Char → Except LoadsError (Json × List Char)
  | 0, _ => .error .decode
  | _ + 1, '"' :: cs => (scanString cs).map fun r => (.str r.1, r.2)
  | n + 1, '{' :: cs =>
    match skipSpace cs with
    | '}' :: cs => .ok (.obj [], cs)
    | cs => scanMembers n [] cs
  | n + 1, '[' :: cs =>
    match skipSpace cs with
    | ']' :: cs => .ok (.arr [], cs)
    | cs => scanElements n [] cs
  | _ + 1, 'n' :: 'u' :: 'l' :: 'l' :: cs => .ok (.null, cs)
  | _ + 1, 't' :: 'r' :: 'u' :: 'e' :: cs => .ok (.bool true, cs)
  | _ + 1, 'f' :: 'a' :: 'l' :: 's' :: 'e' :: cs => .ok (.bool false, cs)
  | _ + 1, 'N' :: 'a' :: 'N' :: cs => .ok (.float .nan, cs)
  | _ + 1, 'I' :: 'n' :: 'f' :: 'i' :: 'n' :: 'i' :: 't' :: 'y' :: cs => .ok (.float (.inf false), cs)
  | _ + 1, '-' :: 'I' :: 'n' :: 'f' :: 'i' :: 'n' :: 'i' :: 't' :: 'y' :: cs =>
    .ok (.float (.inf true), cs)
  | _ + 1, cs => scanNumber cs

/-- The members of an object from a key on, after those in `acc`. -/
def scanMembers : Nat → JsonObject → List Char → Except LoadsError (Json × List Char)
  | 0, _, _ => .error .decode
  | n + 1, acc, '"' :: cs =>
    match scanString cs with
    | .error e => .error e
    | .ok (key, cs) =>
      match skipSpace cs with
      | ':' :: cs =>
        match scanOnce n (skipSpace cs) with
        | .error e => .error e
        | .ok (v, cs) =>
          match skipSpace cs with
          | '}' :: cs => .ok (.obj (setItem acc key v), cs)
          | ',' :: cs => scanMembers n (setItem acc key v) (skipSpace cs)
          | _ => .error .decode
      | _ => .error .decode
  | _ + 1, _, _ => .error .decode

/-- The elements of an array from a value on, after those in `acc`. -/
def scanElements : Nat → List Json → List Char → Except LoadsError (Json × List Char)
  | 0, _, _ => .error .decode
  | n + 1, acc, cs =>
    match scanOnce n cs with
    | .error e => .error e
    | .ok (v, cs) =>
      match skipSpace cs with
      | ']' :: cs => .ok (.arr (acc ++ [v]), cs)
      | ',' :: cs => scanElements n (acc ++ [v]) (skipSpace cs)
      | _ => .error .decode

end

/-- `json.loads(s)`. -/
def loads (s : String) : Except LoadsError Json :=
  match s.toList with
  | '\ufeff' :: _ => .error .decode
  | cs =>
    match scanOnce (cs.length + 1) (skipSpace cs) with
    | .error e => .error e
    | .ok (v, rest) => if skipSpace rest = [] then .ok v else .error .decode

end UniversityQA.Py
