import Mathlib.Data.Finset.Card
import UniversityQA.Lib.Typestate

/-!
# A handle behind a field

Programs share a field that is empty or holds a handle.  A call that finds it
empty opens a handle and stores it; one that closes the handle it found empties
the field.

* `World`: the field and the open handles; `calls`: the phases of a call.
* `Move`: what one call can do in one step (`move_of_step`).
* `Inv`: every open handle is in the field or about to be stored, and no two
  are.
* `Prudent`: the moves that keep it (`inv_move`).
* `Quiet`: nothing is open and nothing is being opened.
* `card_live_run`, `served_run`, `live_eq_empty_run`: what holds along the
  `Careful` runs of programs.
-/

namespace SharedHandle

open Coroutine

variable {R ι ε E α : Type} {V : R → Type}

/-! ## The world -/

/-- What a program does with the field and with handles. -/
inductive Op (R : Type) where
  | read
  | connect
  | store (h : Nat)
  | request (h : Nat) (r : R)
  | close (h : Nat)
  -- empties the field, after closing `h`
  | clear (h : Nat)

abbrev Op.Answer (V : R → Type) (ε : Type) : Op R → Type
  | .read => Option Nat
  | .connect => Except ε Nat
  | .store _ => Unit
  | .request _ r => Except ε (V r)
  | .close _ => Except ε Unit
  | .clear _ => Unit

abbrev OpEvent (V : R → Type) (ε : Type) := Event (Op R) (Op.Answer V ε)

/-- The field, the handles opened and not closed, and how many were opened;
handles are numbered. -/
structure World where
  field : Option Nat := none
  live : Finset Nat := ∅
  made : Nat := 0
  deriving DecidableEq

namespace World

def opened (w : World) : World :=
  { w with live := insert w.made w.live, made := w.made + 1 }

def closed (w : World) (h : Nat) : World := { w with live := w.live.erase h }

def set (w : World) (field : Option Nat) : World := { w with field := field }

/-- A request is served on an open handle only, a handle that failed to open
is not open, and one that failed to close is open or not. -/
inductive Step : World → (q : Op R) → Op.Answer V ε q → World → Prop
  | read {w} : Step w .read w.field w
  | connected {w} : Step w .connect (.ok w.made) w.opened
  | refused {w e} : Step w .connect (.error e) w
  | store {w h} : Step w (.store h) () (w.set (some h))
  | served {w h r v} : h ∈ w.live → Step w (.request h r) (.ok v) w
  | failed {w h r e} : Step w (.request h r) (.error e) w
  | closed {w h} : Step w (.close h) (.ok ()) (w.closed h)
  | closeFailed {w w' h e} : w' = w ∨ w' = w.closed h → Step w (.close h) (.error e) w'
  | clear {w h} : Step w (.clear h) () (w.set none)

end World

/-- The event is a request that handle `h` has served. -/
inductive Serves : OpEvent V ε → Nat → Prop
  | mk {h r v} : Serves ⟨.request h r, .ok v⟩ h

/-! ## The phases of a call -/

inductive Phase where
  -- not begun: a call that uses the handle, one that closes it
  | user
  | closer
  | opening
  | storing (h : Nat)
  | closing (h : Nat)
  | clearing (h : Nat)
  -- reading and requesting
  | active
  deriving DecidableEq

def Uses : Op R → Prop
  | .read => True
  | .request _ _ => True
  | _ => False

/-- Whether the phase allows the operation. -/
def Phase.Allows : Phase → Op R → Prop
  | .user, .read => True
  | .closer, .read => True
  | .opening, .connect => True
  | .storing h, .store h' => h' = h
  | .closing h, .close h' => h' = h
  | .clearing h, .clear h' => h' = h
  | .active, q => Uses q
  | _, _ => False

/-- The phase after an operation and its answer. -/
def Phase.after : Phase → OpEvent V ε → Phase
  | .user, ⟨.read, none⟩ => .opening
  | .opening, ⟨.connect, .ok h⟩ => .storing h
  | .closer, ⟨.read, some h⟩ => .closing h
  | .closing h, ⟨.close _, .ok _⟩ => .clearing h
  | _, _ => .active

def calls (V : R → Type) (ε : Type) : Typestate (Op R) (Op.Answer V ε) Phase where
  allows := Phase.Allows
  after := Phase.after
  final φ := φ = .active

/-- A program that only reads and requests. -/
theorem obeys_active {p : Prog (Op R) (Op.Answer V ε) E α} (h : p.Asks Uses) :
    (calls V ε).Obeys .active p :=
  Typestate.obeys_of_asks rfl (fun _ hq => ⟨hq, fun _ => rfl⟩) h

/-- **The moves of a call**: its phase and the world, before and after. -/
inductive Move : Phase → World → OpEvent V ε → Phase → World → Prop
  | found {w h} : w.field = some h → Move .user w ⟨.read, some h⟩ .active w
  | missing {w} : w.field = none → Move .user w ⟨.read, none⟩ .opening w
  | connected {w} : Move .opening w ⟨.connect, .ok w.made⟩ (.storing w.made) w.opened
  | refused {w e} : Move .opening w ⟨.connect, .error e⟩ .active w
  | stored {w h} : Move (.storing h) w ⟨.store h, ()⟩ .active (w.set (some h))
  | toClose {w h} : w.field = some h → Move .closer w ⟨.read, some h⟩ (.closing h) w
  | nothing {w} : w.field = none → Move .closer w ⟨.read, none⟩ .active w
  | closed {w h} : Move (.closing h) w ⟨.close h, .ok ()⟩ (.clearing h) (w.closed h)
  | closeFailed {w w' h e} : w' = w ∨ w' = w.closed h →
      Move (.closing h) w ⟨.close h, .error e⟩ .active w'
  | cleared {w h} : Move (.clearing h) w ⟨.clear h, ()⟩ .active (w.set none)
  | used {w e} : Move .active w e .active w

/-- An allowed operation is a move. -/
theorem move_of_step {ψ : Phase} {q : Op R} {a : Op.Answer V ε q} {w w' : World}
    (hallows : ψ.Allows q) (hs : w.Step q a w') : Move ψ w ⟨q, a⟩ (ψ.after ⟨q, a⟩) w' := by
  cases hs with
  | read =>
    cases ψ with
    | user =>
      cases hfield : w.field with
      | none => exact .missing hfield
      | some h => exact .found hfield
    | closer =>
      cases hfield : w.field with
      | none => exact .nothing hfield
      | some h => exact .toClose hfield
    | active => exact .used
    | _ => cases hallows
  | connected =>
    cases ψ with
    | opening => exact .connected
    | _ => cases hallows
  | refused =>
    cases ψ with
    | opening => exact .refused
    | _ => cases hallows
  | store =>
    cases ψ with
    | storing h =>
      obtain rfl : _ = h := hallows
      exact .stored
    | _ => cases hallows
  | served =>
    cases ψ with
    | active => exact .used
    | _ => cases hallows
  | failed =>
    cases ψ with
    | active => exact .used
    | _ => cases hallows
  | closed =>
    cases ψ with
    | closing h =>
      obtain rfl : _ = h := hallows
      exact .closed
    | _ => cases hallows
  | closeFailed hw' =>
    cases ψ with
    | closing h =>
      obtain rfl : _ = h := hallows
      exact .closeFailed hw'
    | _ => cases hallows
  | clear =>
    cases ψ with
    | clearing h =>
      obtain rfl : _ = h := hallows
      exact .cleared
    | _ => cases hallows

/-! ## One handle -/

/-- A handle is in the field or about to be stored there. -/
def InHand (φ : ι → Phase) (w : World) (h : Nat) : Prop :=
  w.field = some h ∨ ∃ i, φ i = .storing h

structure Inv (φ : ι → Phase) (w : World) : Prop where
  held : ∀ h ∈ w.live, InHand φ w h
  one : ∀ h h', InHand φ w h → InHand φ w h' → h = h'
  made : ∀ h, (InHand φ w h ∨ ∃ i, φ i = .closing h ∨ φ i = .clearing h) → h < w.made
  dead : ∀ i h, φ i = .clearing h → h ∉ w.live

theorem inv_init {φ : ι → Phase} (h : ∀ i, φ i = .user ∨ φ i = .closer) : Inv φ {} := by
  have hnot : ∀ i k, φ i ≠ .storing k ∧ φ i ≠ .closing k ∧ φ i ≠ .clearing k := by
    intro i k
    rcases h i with hi | hi <;> simp [hi]
  have hhand : ∀ k, ¬ InHand φ {} k := by
    rintro k (hk | ⟨i, hi⟩)
    · cases hk
    · exact (hnot i k).1 hi
  refine ⟨by simp, fun k _ hk => absurd hk (hhand k), ?_, fun i k hi => absurd hi (hnot i k).2.2⟩
  rintro k (hk | ⟨i, hi | hi⟩)
  · exact absurd hk (hhand k)
  · exact absurd hi (hnot i k).2.1
  · exact absurd hi (hnot i k).2.2

/-- **At most one handle is open.** -/
theorem Inv.card_live {φ : ι → Phase} {w : World} (h : Inv φ w) : w.live.card ≤ 1 := by
  rw [Finset.card_le_one]
  intro a ha b hb
  exact h.one a b (h.held a ha) (h.held b hb)

/-- **Where nothing is in hand, nothing is open.** -/
theorem Inv.live_eq_empty {φ : ι → Phase} {w : World} (h : Inv φ w)
    (hnone : ∀ k, ¬ InHand φ w k) : w.live = ∅ :=
  Finset.eq_empty_of_forall_notMem fun k hk => hnone k (h.held k hk)

theorem Inv.closed {φ : ι → Phase} {w : World} (h : Inv φ w) (k : Nat) : Inv φ (w.closed k) := by
  refine ⟨fun a ha => h.held a (Finset.mem_of_mem_erase ha), h.one, h.made, fun j a hj ha => ?_⟩
  exact h.dead j a hj (Finset.mem_of_mem_erase ha)

/-- The field may lose a handle that is not open. -/
theorem Inv.emptied {φ : ι → Phase} {w : World} (h : Inv φ w) {k : Nat} (hk : k ∉ w.live)
    (hfield : ∀ a ∈ w.field, a = k) : Inv φ (w.set none) := by
  have hhand : ∀ a, InHand φ (w.set none) a → InHand φ w a := by
    rintro a (ha | ha)
    · cases ha
    · exact .inr ha
  refine ⟨fun a ha => ?_, fun a b ha hb => h.one a b (hhand a ha) (hhand b hb),
    fun a ha => h.made a (ha.imp_left (hhand a)), h.dead⟩
  rcases h.held a ha with hfielda | hstoring
  · obtain rfl := hfield a hfielda
    exact absurd ha hk
  · exact .inr hstoring

/-- A handle is opened only while none is in hand, the field emptied only of
the handle that was closed. -/
structure Prudent (φ : ι → Phase) (w : World) (e : OpEvent V ε) : Prop where
  connected : ∀ h, e = ⟨.connect, .ok h⟩ → ∀ k, ¬ InHand φ w k
  cleared : ∀ h, e.1 = .clear h → ∀ k ∈ w.field, k = h

variable [DecidableEq ι] {φ : ι → Phase} {w w' : World} {i : ι}

theorem of_update {ψ χ : Phase} {j : ι} (h : Function.update φ i ψ j = χ) : ψ = χ ∨ φ j = χ := by
  by_cases hji : j = i
  · subst hji
    rw [Function.update_self] at h
    exact .inl h
  · rw [Function.update_of_ne hji] at h
    exact .inr h

/-- A move of a call between phases that hold nothing. -/
theorem inv_of_idle {ψ : Phase} (h : Inv φ w) (hfrom : ∀ k, φ i ≠ .storing k)
    (hto : ∀ k, ψ ≠ .storing k) (hmade : ∀ k, ψ = .closing k ∨ ψ = .clearing k → k < w.made)
    (hdead : ∀ k, ψ = .clearing k → k ∉ w.live) : Inv (Function.update φ i ψ) w := by
  have hhand : ∀ k, InHand (Function.update φ i ψ) w k ↔ InHand φ w k := by
    refine fun k => or_congr_right ⟨fun ⟨j, hj⟩ => ?_, fun ⟨j, hj⟩ => ⟨j, ?_⟩⟩
    · exact (of_update hj).elim (fun hψ => absurd hψ (hto k)) fun hφ => ⟨j, hφ⟩
    · rwa [Function.update_of_ne]
      rintro rfl
      exact hfrom k hj
  refine ⟨fun k hk => (hhand k).2 (h.held k hk), fun k k' hk hk' =>
    h.one k k' ((hhand k).1 hk) ((hhand k').1 hk'), ?_, fun j k hj => ?_⟩
  · rintro k (hk | ⟨j, hj | hj⟩)
    · exact h.made k (.inl ((hhand k).1 hk))
    · exact (of_update hj).elim (fun hψ => hmade k (.inl hψ)) fun hφ => h.made k (.inr ⟨j, .inl hφ⟩)
    · exact (of_update hj).elim (fun hψ => hmade k (.inr hψ)) fun hφ => h.made k (.inr ⟨j, .inr hφ⟩)
  · exact (of_update hj).elim (hdead k) (h.dead j k)

/-- The handle that was opened is the only one. -/
theorem inv_connected (h : Inv φ w) (hnone : ∀ k, ¬ InHand φ w k) :
    Inv (Function.update φ i (.storing w.made)) w.opened := by
  have hhand : ∀ k, InHand (Function.update φ i (.storing w.made)) w.opened k ↔ k = w.made := by
    intro k
    constructor
    · rintro (hk | ⟨j, hj⟩)
      · exact absurd (.inl hk) (hnone k)
      · rcases of_update hj with hmade | hφ
        · exact (Phase.storing.inj hmade).symm
        · exact absurd (.inr ⟨j, hφ⟩) (hnone k)
    · rintro rfl
      exact .inr ⟨i, Function.update_self _ _ _⟩
  have hlive : ∀ k, k ∈ w.opened.live ↔ k = w.made := by
    intro k
    rw [World.opened, Finset.mem_insert]
    exact or_iff_left fun hk => hnone k (h.held k hk)
  have hclosing : ∀ j k, Function.update φ i (.storing w.made) j = .closing k → k < w.made := by
    intro j k hj
    exact (of_update hj).elim (by simp) fun hφ => h.made k (.inr ⟨j, .inl hφ⟩)
  have hclearing : ∀ j k, Function.update φ i (.storing w.made) j = .clearing k → k < w.made := by
    intro j k hj
    exact (of_update hj).elim (by simp) fun hφ => h.made k (.inr ⟨j, .inr hφ⟩)
  refine ⟨fun k hk => (hhand k).2 ((hlive k).1 hk), fun a b ha hb => ?_, ?_, fun j k hj hk => ?_⟩
  · rw [(hhand a).1 ha, (hhand b).1 hb]
  · rintro k (hk | ⟨j, hj | hj⟩)
    · rw [(hhand k).1 hk]
      exact Nat.lt_succ_self _
    · exact Nat.lt_succ_of_lt (hclosing j k hj)
    · exact Nat.lt_succ_of_lt (hclearing j k hj)
  · have hlt := hclearing j k hj
    rw [(hlive k).1 hk] at hlt
    exact Nat.lt_irrefl _ hlt

/-- The handle moves from the call into the field. -/
theorem inv_stored (h : Inv φ w) {k : Nat} (hi : φ i = .storing k) :
    Inv (Function.update φ i .active) (w.set (some k)) := by
  have hphase : ∀ j ψ, ψ ≠ .active → Function.update φ i .active j = ψ → φ j = ψ := fun j ψ hψ hj =>
    (of_update hj).resolve_left (Ne.symm hψ)
  have hk : InHand φ w k := .inr ⟨i, hi⟩
  have hhand : ∀ a, InHand (Function.update φ i .active) (w.set (some k)) a ↔ a = k := by
    intro a
    constructor
    · rintro (ha | ⟨j, hj⟩)
      · exact (Option.some.inj ha).symm
      · exact h.one a k (.inr ⟨j, hphase j _ (by simp) hj⟩) hk
    · rintro rfl
      exact .inl rfl
  refine ⟨fun a ha => (hhand a).2 (h.one a k (h.held a ha) hk), fun a b ha hb => ?_, ?_, ?_⟩
  · rw [(hhand a).1 ha, (hhand b).1 hb]
  · rintro a (ha | ⟨j, hj | hj⟩)
    · rw [(hhand a).1 ha]
      exact h.made k (.inl hk)
    · exact h.made a (.inr ⟨j, .inl (hphase j _ (by simp) hj)⟩)
    · exact h.made a (.inr ⟨j, .inr (hphase j _ (by simp) hj)⟩)
  · intro j a hj
    exact h.dead j a (hphase j _ (by simp) hj)

/-- **Preservation.** -/
theorem inv_move {e : OpEvent V ε} {ψ' : Phase} (h : Inv φ w) (hmove : Move (φ i) w e ψ' w')
    (hprudent : Prudent φ w e) : Inv (Function.update φ i ψ') w' := by
  have hidle : (∀ k, φ i ≠ .storing k) → ∀ {w₁}, Inv φ w₁ → Inv (Function.update φ i .active) w₁ :=
    fun hfrom _ h₁ => inv_of_idle h₁ hfrom (by simp) (by simp) (by simp)
  generalize hi : φ i = ψ at hmove
  cases hmove with
  | found _ => exact hidle (by simp [hi]) h
  | missing _ => exact inv_of_idle h (by simp [hi]) (by simp) (by simp) (by simp)
  | connected => exact inv_connected h (hprudent.connected _ rfl)
  | refused => exact hidle (by simp [hi]) h
  | stored => exact inv_stored h hi
  | @toClose _ k hfield =>
    refine inv_of_idle h (by simp [hi]) (by simp) (fun m hm => ?_) (by simp)
    obtain rfl : k = m := by simpa using hm
    exact h.made k (.inl (.inl hfield))
  | nothing _ => exact hidle (by simp [hi]) h
  | @closed _ k =>
    refine inv_of_idle (h.closed k) (by simp [hi]) (by simp) (fun m hm => ?_) fun m hm => ?_
    · obtain rfl : k = m := by simpa using hm
      exact h.made k (.inr ⟨i, .inl hi⟩)
    · obtain rfl : k = m := by simpa using hm
      exact Finset.notMem_erase _ _
  | closeFailed hw' =>
    rcases hw' with rfl | rfl
    · exact hidle (by simp [hi]) h
    · exact hidle (by simp [hi]) (h.closed _)
  | cleared => exact hidle (by simp [hi]) (h.emptied (h.dead i _ hi) (hprudent.cleared _ rfl))
  | used => exact hidle (by simp [hi]) h

/-! ## No handle -/

/-- Nothing is open and nothing is being opened. -/
structure Quiet (φ : ι → Phase) (w : World) : Prop where
  live : w.live = ∅
  idle : ∀ j, φ j ≠ .opening ∧ ∀ h, φ j ≠ .storing h

/-- Only a call that begins can end the quiet. -/
theorem quiet_move {e : OpEvent V ε} {ψ' : Phase} (h : Quiet φ w) (hmove : Move (φ i) w e ψ' w')
    (hbegun : φ i ≠ .user) : Quiet (Function.update φ i ψ') w' := by
  have hother : (ψ' ≠ .opening ∧ ∀ k, ψ' ≠ .storing k) → ∀ j,
      Function.update φ i ψ' j ≠ .opening ∧ ∀ k, Function.update φ i ψ' j ≠ .storing k :=
    fun hψ' j => ⟨fun hj => (of_update hj).elim hψ'.1 (h.idle j).1,
      fun k hj => (of_update hj).elim (hψ'.2 k) ((h.idle j).2 k)⟩
  have hclosed : ∀ k, (w.closed k).live = ∅ := by
    intro k
    rw [World.closed, h.live, Finset.erase_empty]
  generalize hi : φ i = ψ at hmove
  cases hmove with
  | found _ => exact absurd hi hbegun
  | missing _ => exact absurd hi hbegun
  | connected => exact absurd hi (h.idle i).1
  | refused => exact absurd hi (h.idle i).1
  | stored => exact absurd hi ((h.idle i).2 _)
  | toClose _ => exact ⟨h.live, hother (by simp)⟩
  | nothing _ => exact ⟨h.live, hother (by simp)⟩
  | closed => exact ⟨hclosed _, hother (by simp)⟩
  | closeFailed hw' =>
    refine ⟨?_, hother (by simp)⟩
    rcases hw' with rfl | rfl
    · exact h.live
    · exact hclosed _
  | cleared => exact ⟨h.live, hother (by simp)⟩
  | used => exact ⟨h.live, hother (by simp)⟩

/-- A call that has asked has begun. -/
theorem begun_after (ψ : Phase) (e : OpEvent V ε) : ψ.after e ≠ .user := by
  unfold Phase.after
  split <;> simp

/-! ## Runs -/

/-- The program has found the field empty and not stored a handle yet. -/
def Opening (p : Prog (Op R) (Op.Answer V ε) E α) : Prop :=
  p.next = some .connect ∨ ∃ h, p.next = some (.store h)

/-- When a turn is careful: a handle is opened only while the field is empty
and nobody is about to store one; the field is emptied only of the handle that
was closed; a closing call comes to its end only while nobody is opening. -/
structure Careful (closes : ι → Bool) (pool : ι → Prog (Op R) (Op.Answer V ε) E α) (w : World)
    (i : ι) (e : OpEvent V ε) : Prop where
  connected : ∀ h, e = ⟨.connect, .ok h⟩ →
    w.field = none ∧ ∀ j k, (pool j).next ≠ some (.store k)
  cleared : ∀ h, e.1 = .clear h → ∀ k ∈ w.field, k = h
  ended : closes i = true → (e = ⟨.read, none⟩ ∨ ∃ h, e.1 = .clear h) → ∀ j, ¬ Opening (pool j)

/-- How the calls begin. -/
def begin (closes : ι → Bool) (i : ι) : Phase := if closes i then .closer else .user

variable {closes : ι → Bool} {pool pool' : ι → Prog (Op R) (Op.Answer V ε) E α}
  {tr : List (ι × OpEvent V ε)}

theorem next_of_storing {p : Prog (Op R) (Op.Answer V ε) E α} {h : Nat}
    (hp : (calls V ε).Obeys (.storing h) p) : p.next = some (.store h) := by
  obtain ⟨q, hq, hallows⟩ := hp.next_of_not_final (by simp [calls])
  cases q with
  | store k =>
    obtain rfl : k = h := hallows
    exact hq
  | _ => cases hallows

theorem next_of_opening {p : Prog (Op R) (Op.Answer V ε) E α}
    (hp : (calls V ε).Obeys .opening p) : p.next = some .connect := by
  obtain ⟨q, hq, hallows⟩ := hp.next_of_not_final (by simp [calls])
  cases q with
  | connect => exact hq
  | _ => cases hallows

omit [DecidableEq ι] in
theorem Careful.prudent {e : OpEvent V ε} (h : Careful closes pool w i e)
    (hφ : ∀ j, (calls V ε).Obeys (φ j) (pool j)) : Prudent φ w e := by
  refine ⟨fun k hk m hm => ?_, h.cleared⟩
  obtain ⟨hfield, hnext⟩ := h.connected k hk
  rcases hm with hm | ⟨j, hj⟩
  · rw [hfield] at hm
    cases hm
  · have hobeys := hφ j
    rw [hj] at hobeys
    exact hnext j m (next_of_storing hobeys)

/-- Along a careful run. -/
theorem inv_run (hpool : ∀ i, (calls V ε).Obeys (begin closes i) (pool i))
    (h : GuardedTurns (Careful closes) World.Step pool {} tr pool' w) :
    (∀ j, (calls V ε).Obeys ((calls V ε).phases (begin closes) tr j) (pool' j)) ∧
      Inv ((calls V ε).phases (begin closes) tr) w := by
  refine h.typestate (calls V ε) ?_ hpool (inv_init fun i => ?_)
  · intro pool φ s i q a s' hφ hinv hallows hs hcareful
    exact inv_move hinv (move_of_step hallows hs) (hcareful.prudent hφ)
  · unfold begin
    cases closes i with
    | true => exact .inr rfl
    | false => exact .inl rfl

/-- **At most one handle is open.** -/
theorem card_live_run (hpool : ∀ i, (calls V ε).Obeys (begin closes i) (pool i))
    (h : GuardedTurns (Careful closes) World.Step pool {} tr pool' w) : w.live.card ≤ 1 :=
  (inv_run hpool h).2.card_live

theorem mem_live_of_step {q : Op R} {a : Op.Answer V ε q} {k : Nat} (hs : w.Step q a w')
    (hk : k ∈ w.live) (hq : q ≠ .close k) : k ∈ w'.live := by
  have hclosed : ∀ m, q = .close m → k ∈ (w.closed m).live := by
    rintro m rfl
    refine Finset.mem_erase.2 ⟨?_, hk⟩
    rintro rfl
    exact hq rfl
  cases hs with
  | connected => exact Finset.mem_insert_of_mem hk
  | closed => exact hclosed _ rfl
  | closeFailed hw' =>
    rcases hw' with rfl | rfl
    · exact hk
    · exact hclosed _ rfl
  | _ => exact hk

theorem mem_live_of_turns {guard} {s s' : World}
    (h : GuardedTurns guard World.Step pool s tr pool' s') {k : Nat} (hk : k ∈ s.live)
    (hclose : ∀ x ∈ tr, x.2.1 ≠ .close k) : k ∈ s'.live := by
  induction h with
  | refl => exact hk
  | turn _ hs _ _ ih =>
    obtain ⟨hx, hrest⟩ := List.forall_mem_cons.1 hclose
    exact ih (mem_live_of_step hs hk hx) hrest

theorem mem_live_of_serves {e : OpEvent V ε} {k : Nat} (hs : w.Step e.1 e.2 w')
    (he : Serves e k) : k ∈ w.live ∧ w' = w := by
  cases he with
  | mk =>
    cases hs with
    | served hk => exact ⟨hk, rfl⟩

/-- **One handle at a time.**  Before another handle serves, the one that has
served is closed. -/
theorem served_run (hpool : ∀ i, (calls V ε).Obeys (begin closes i) (pool i))
    {t₁ t₂ : List (ι × OpEvent V ε)} {x y : ι × OpEvent V ε} {k m : Nat}
    (h : GuardedTurns (Careful closes) World.Step pool {} (t₁ ++ [x] ++ t₂ ++ [y]) pool' w)
    (hx : Serves x.2 k) (hy : Serves y.2 m) (hkm : k ≠ m) : ∃ z ∈ t₂, z.2.1 = .close k := by
  obtain ⟨pool₂, w₂, -, h₂, -, hsy, -, -⟩ := h.last_inv
  obtain ⟨pool₁, w₁, h₁, hrest⟩ := h₂.append_inv
  obtain ⟨pool₀, w₀, -, -, -, hsx, -, -⟩ := h₁.last_inv
  obtain ⟨hk, rfl⟩ := mem_live_of_serves hsx hx
  obtain ⟨hm, -⟩ := mem_live_of_serves hsy hy
  by_contra hnone
  have hclose : ∀ z ∈ t₂, z.2.1 ≠ .close k := fun z hz hclosed => hnone ⟨z, hz, hclosed⟩
  have hlive := mem_live_of_turns hrest hk hclose
  exact hkm (Finset.card_le_one.1 (card_live_run hpool h₂) k hlive m hm)

theorem phases_ne_user {j : ι} (h : (∃ x ∈ tr, x.1 = j) ∨ closes j = true) :
    (calls V ε).phases (begin closes) tr j ≠ .user := by
  unfold Typestate.phases
  rcases List.eq_nil_or_concat' (eventsOf j tr) with hnil | ⟨es, e, hes⟩
  · rw [hnil, List.foldl_nil, begin]
    rcases h with ⟨⟨j', e⟩, hmem, rfl⟩ | hcloses
    · have he := mem_eventsOf.2 hmem
      rw [hnil] at he
      cases he
    · rw [if_pos hcloses]
      simp
  · rw [hes, List.foldl_append]
    exact begun_after _ e

theorem active_of_ended {ψ : Phase} {e : OpEvent V ε} (hψ : ψ ≠ .user)
    (hend : e = ⟨.read, none⟩ ∨ ∃ k, e.1 = .clear k) : (calls V ε).after ψ e = .active := by
  rcases hend with rfl | ⟨k, hk⟩
  · cases ψ with
    | user => exact absurd rfl hψ
    | _ => rfl
  · obtain ⟨q, a⟩ := e
    obtain rfl : q = .clear k := hk
    cases ψ <;> rfl

theorem read_of_step {a : Op.Answer V ε .read} (hs : w.Step .read a w') :
    a = w.field ∧ w' = w := by
  cases hs
  exact ⟨rfl, rfl⟩

/-- The end of a closing call. -/
theorem quiet_of_ended (hpool : ∀ i, (calls V ε).Obeys (begin closes i) (pool i))
    {t : List (ι × OpEvent V ε)} {x : ι × OpEvent V ε}
    (h : GuardedTurns (Careful closes) World.Step pool {} (t ++ [x]) pool' w)
    (hx : closes x.1 = true) (hend : x.2 = ⟨.read, none⟩ ∨ ∃ k, x.2.1 = .clear k) :
    Quiet ((calls V ε).phases (begin closes) (t ++ [x])) w := by
  obtain ⟨pool₀, w₀, k, h₀, -, hs, hcareful, -⟩ := h.last_inv
  obtain ⟨hobeys, -⟩ := inv_run hpool h₀
  have hquiet := hcareful.ended hx hend
  have hidle : ∀ j, (calls V ε).phases (begin closes) (t ++ [x]) j ≠ .opening ∧
      ∀ m, (calls V ε).phases (begin closes) (t ++ [x]) j ≠ .storing m := by
    intro j
    rw [Typestate.phases_concat]
    by_cases hji : j = x.1
    · rw [hji, Function.update_self, active_of_ended (phases_ne_user (.inr hx)) hend]
      simp
    · rw [Function.update_of_ne hji]
      have hj := hobeys j
      refine ⟨fun hopening => ?_, fun m hstoring => ?_⟩
      · rw [hopening] at hj
        exact hquiet j (.inl (next_of_opening hj))
      · rw [hstoring] at hj
        exact hquiet j (.inr ⟨m, next_of_storing hj⟩)
  have hfield : w.field = none := by
    rcases hend with he | ⟨m, hm⟩
    · rw [he] at hs
      obtain ⟨hread, rfl⟩ := read_of_step hs
      exact hread.symm
    · obtain ⟨i, q, a⟩ := x
      obtain rfl : q = .clear m := hm
      cases hs
      rfl
  refine ⟨(inv_run hpool h).2.live_eq_empty ?_, hidle⟩
  rintro m (hm | ⟨j, hj⟩)
  · rw [hfield] at hm
    cases hm
  · exact (hidle j).2 m hj

/-- **Nothing stays open.**  After the end of a closing call nothing is open
until another call begins. -/
theorem live_eq_empty_run (hpool : ∀ i, (calls V ε).Obeys (begin closes i) (pool i))
    {t₁ t₂ : List (ι × OpEvent V ε)} {x : ι × OpEvent V ε}
    (h : GuardedTurns (Careful closes) World.Step pool {} (t₁ ++ [x] ++ t₂) pool' w)
    (hx : closes x.1 = true) (hend : x.2 = ⟨.read, none⟩ ∨ ∃ k, x.2.1 = .clear k)
    (hbegun : ∀ y ∈ t₂, ∃ z ∈ t₁ ++ [x], z.1 = y.1) : w.live = ∅ := by
  obtain ⟨pool₁, w₁, h₁, h₂⟩ := h.append_inv
  have hquiet := quiet_of_ended hpool h₁ hx hend
  obtain ⟨hobeys, -⟩ := inv_run hpool h₁
  have hrun := (h₂.restrict (S := fun j => ∃ z ∈ t₁ ++ [x], z.1 = j) hbegun).typestate (calls V ε)
    (I := fun φ w => Quiet φ w ∧ ∀ j, (∃ z ∈ t₁ ++ [x], z.1 = j) → φ j ≠ .user) ?_ hobeys
    ⟨hquiet, fun j hj => phases_ne_user (.inl hj)⟩
  · exact hrun.2.1.live
  · rintro pool φ s i q a s' - ⟨hq, huser⟩ hallows hs ⟨-, hi⟩
    refine ⟨quiet_move hq (move_of_step hallows hs) (huser i hi), fun j hj hphase => ?_⟩
    rcases of_update hphase with hafter | hφ
    · exact begun_after _ _ hafter
    · exact huser j hj hφ

end SharedHandle
