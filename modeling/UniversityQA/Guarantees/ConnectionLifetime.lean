import UniversityQA.Db.ConnectorCalls

/-!
# One connection at a time

Any number of calls on one connector, in any interleaving.  A handle is a pool
or a connection that the connector opened.

* `OneConnection`: at most one handle is open, no other serves before it is
  closed, and none is left open after a `close`.
* `one_connection_of_careful`: it holds where no call overwrites or drops a
  handle that it has not seen (`SharedHandle.Careful`).
* `two_first_calls`: two first calls open two pools.
-/

namespace UniversityQA.Guarantees

open UniversityQA.Db Coroutine SharedHandle

variable {ι ε : Type}

/-! ## The property -/

/-- The calls before any of them has begun. -/
def callPool (c : Connector) (isException : ε → Bool) (calls : ι → ConnectorCall) (i : ι) :
    Steps ε CallValue :=
  c.call isException (calls i)

/-- What holds when the calls have come as far as `pool`, the connector being
in the state `w`. -/
structure OneConnection [DecidableEq ι] (c : Connector) (isException : ε → Bool)
    (calls : ι → ConnectorCall) (tr : List (ι × OpEvent Request.Answer ε))
    (pool : ι → Steps ε CallValue) (w : World) : Prop where
  -- at most one handle is open
  one_open : w.live.card ≤ 1
  -- before another handle serves, the one that has served is closed
  one_serves : ∀ t₁ x t₂ y t₃ h k, tr = t₁ ++ [x] ++ t₂ ++ [y] ++ t₃ → Serves x.2 h →
    Serves y.2 k → h ≠ k → ∃ z ∈ t₂, z.2.1 = .close h
  -- after a `close` has returned, unless a call began since or is still going on
  none_left : ∀ t₁ x t₂, tr = t₁ ++ [x] ++ t₂ → calls x.1 = .close →
    Runs (callPool c isException calls x.1) (eventsOf x.1 (t₁ ++ [x])) (.ok .closed) →
    (∀ y ∈ t₂, ∃ z ∈ t₁ ++ [x], z.1 = y.1) → (∀ y ∈ tr, (pool y.1).next = none) → w.live = ∅

/-! ## Careful runs -/

/-- The awaits of a `close` that returns. -/
theorem closeField_runs {t : List (OpEvent Request.Answer ε)}
    (h : Runs (closeField : Steps ε Unit) t (.ok ())) :
    t = [⟨.read, none⟩] ∨ ∃ k, t = [⟨.read, some k⟩, ⟨.close k, .ok ()⟩, ⟨.clear k, ()⟩] := by
  obtain ⟨field, t₁, rfl, h₁⟩ := runs_ask.1 h
  cases field with
  | none =>
    obtain ⟨rfl, -⟩ := runs_ret.1 h₁
    exact .inl rfl
  | some k =>
    obtain ⟨closed, t₂, rfl, h₂⟩ := runs_ask.1 h₁
    refine .inr ⟨k, ?_⟩
    cases closed with
    | error e => exact absurd (runs_raise.1 h₂).2 (by simp)
    | ok _ =>
      obtain ⟨cleared, t₃, rfl, h₃⟩ := runs_ask.1 h₂
      obtain ⟨rfl, -⟩ := runs_ret.1 h₃
      rfl

/-- How the last await of a `close` looks. -/
theorem close_ended {c : Connector} {isException : ε → Bool}
    {es : List (OpEvent Request.Answer ε)} {e : OpEvent Request.Answer ε}
    (h : Runs (c.call isException .close) (es ++ [e]) (.ok .closed)) :
    e = ⟨.read, none⟩ ∨ ∃ k, e.1 = .clear k := by
  obtain ⟨o, ho, hval⟩ := runs_map.1 h
  cases o with
  | error e => cases hval
  | ok u =>
    rcases closeField_runs ho with ht | ⟨k, ht⟩
    · obtain ⟨-, he⟩ := List.append_inj' (show es ++ [e] = [] ++ [⟨.read, none⟩] from ht) rfl
      exact .inl (List.singleton_inj.1 he)
    · obtain ⟨-, he⟩ := List.append_inj' (show es ++ [e] =
        [⟨.read, some k⟩, ⟨.close k, .ok ()⟩] ++ [⟨.clear k, ()⟩] from ht) rfl
      rw [List.singleton_inj.1 he]
      exact .inr ⟨k, rfl⟩

/-- **One connection at a time**, in every state of every run whose turns are
careful. -/
theorem one_connection_of_careful [DecidableEq ι] (c : Connector) (isException : ε → Bool)
    (calls : ι → ConnectorCall) (tr : List (ι × OpEvent Request.Answer ε))
    (pool : ι → Steps ε CallValue) (w : World)
    (h : GuardedTurns (Careful fun i => (calls i).closes) World.Step
      (callPool c isException calls) {} tr pool w) :
    OneConnection c isException calls tr pool w := by
  have hpool : ∀ i, (SharedHandle.calls Request.Answer ε).Obeys
      (begin (fun i => (calls i).closes) i) (callPool c isException calls i) :=
    fun i => call_obeys c isException (calls i)
  refine ⟨card_live_run hpool h, ?_, ?_⟩
  · rintro t₁ x t₂ y t₃ k m rfl hx hy hkm
    obtain ⟨pool₁, w₁, h₁, -⟩ := h.append_inv
    exact served_run hpool h₁ hx hy hkm
  · rintro t₁ x t₂ rfl hx hreturned hbegun -
    refine live_eq_empty_run hpool h ?_ ?_ hbegun
    · change (calls x.1).closes = true
      rw [hx]
      rfl
    · rw [callPool, hx, eventsOf_append] at hreturned
      have hlast : eventsOf x.1 [x] = [x.2] := eventsOf_cons_self x.1 x.2 []
      rw [hlast] at hreturned
      exact close_ended hreturned

/-! ## Two runs -/

theorem careful_of_other {closes : ι → Bool} {pool : ι → Steps ε CallValue} {w : World} {i : ι}
    {e : OpEvent Request.Answer ε} (hconnect : ∀ h, e ≠ ⟨.connect, .ok h⟩)
    (hclear : ∀ h, e.1 ≠ .clear h) (hread : closes i = true → e ≠ ⟨.read, none⟩) :
    Careful closes pool w i e := by
  refine ⟨fun h he => absurd he (hconnect h), fun h he => absurd he (hclear h), ?_⟩
  rintro hi (he | ⟨h, he⟩)
  · exact absurd he (hread hi)
  · exact absurd he (hclear h)

/-- A query and, after it, a `close`. -/
def queryThenClose : Bool → ConnectorCall
  | false => .executeQuery "SELECT 1"
  | true => .close

def oneRow : QueryResult where
  columns := ["?column?"]
  rows := [[.int 1]]
  width := by simp

def queryThenCloseTrace : List (Bool × OpEvent Request.Answer Unit) :=
  [(false, ⟨.read, none⟩), (false, ⟨.connect, .ok 0⟩), (false, ⟨.store 0, ()⟩),
   (false, ⟨.request 0 .acquire, .ok ()⟩), (false, ⟨.request 0 (.fetch "SELECT 1"), .ok oneRow⟩),
   (false, ⟨.request 0 .release, .ok ()⟩), (true, ⟨.read, some 0⟩),
   (true, ⟨.close 0, .ok ()⟩), (true, ⟨.clear 0, ()⟩)]

/-- Nothing overlaps. -/
theorem queryThenClose_run : ∃ pool w,
    GuardedTurns (Careful fun i => (queryThenClose i).closes) World.Step
      (callPool (.postgres .lastWins) (fun _ => true) queryThenClose) {} queryThenCloseTrace
      pool w := by
  have hquery : ∀ (pool : Bool → Steps Unit CallValue) w (e : OpEvent Request.Answer Unit),
      (∀ h, e ≠ ⟨.connect, .ok h⟩) → (∀ h, e.1 ≠ .clear h) →
      Careful (fun i => (queryThenClose i).closes) pool w false e :=
    fun pool w e hconnect hclear => careful_of_other hconnect hclear (by simp [queryThenClose,
      ConnectorCall.closes])
  refine ⟨_, _, .turn rfl .read ?_ <| .turn rfl .connected ?_ <| .turn rfl .store ?_ <|
    .turn rfl (.served ?_) ?_ <| .turn rfl (.served ?_) ?_ <| .turn rfl (.served ?_) ?_ <|
    .turn rfl .read ?_ <| .turn rfl .closed ?_ <| .turn rfl .clear ?_ .refl⟩
  · exact hquery _ _ _ (by simp) (by simp)
  · refine ⟨fun h _ => ⟨rfl, fun j k hnext => ?_⟩, by simp, by simp [queryThenClose,
      ConnectorCall.closes]⟩
    cases j with
    | false => cases hnext
    | true => cases hnext
  · exact hquery _ _ _ (by simp) (by simp)
  · exact Finset.mem_insert_self 0 ∅
  · exact hquery _ _ _ (by simp) (by simp)
  · exact Finset.mem_insert_self 0 ∅
  · exact hquery _ _ _ (by simp) (by simp)
  · exact Finset.mem_insert_self 0 ∅
  · exact hquery _ _ _ (by simp) (by simp)
  · exact careful_of_other (by simp) (by simp) (by simp)
  · exact careful_of_other (by simp) (by simp) (by simp)
  · refine ⟨by simp, fun h hclear k hk => ?_, fun _ _ j hopening => ?_⟩
    · cases hclear
      exact (Option.some.inj hk).symm
    · cases j with
      | false => rcases hopening with hnext | ⟨k, hnext⟩ <;> cases hnext
      | true => rcases hopening with hnext | ⟨k, hnext⟩ <;> cases hnext

theorem one_connection_of_careful_queryThenClose : ∃ pool w,
    OneConnection (.postgres .lastWins) (fun _ : Unit => true) queryThenClose queryThenCloseTrace
      pool w := by
  obtain ⟨pool, w, h⟩ := queryThenClose_run
  exact ⟨pool, w, one_connection_of_careful (.postgres .lastWins) (fun _ => true) queryThenClose
    queryThenCloseTrace pool w h⟩

/-- Two calls find the field empty and open a pool or a connection each. -/
def twoFirstCalls : List (Bool × OpEvent Request.Answer Unit) :=
  [(false, ⟨.read, none⟩), (true, ⟨.read, none⟩), (false, ⟨.connect, .ok 0⟩),
   (true, ⟨.connect, .ok 1⟩)]

theorem not_oneConnection_of_live {c : Connector} {isException : ε → Bool} [DecidableEq ι]
    {calls : ι → ConnectorCall} {tr : List (ι × OpEvent Request.Answer ε)}
    {pool : ι → Steps ε CallValue} {w : World} {h k : Nat} (hh : h ∈ w.live) (hk : k ∈ w.live)
    (hne : h ≠ k) : ¬ OneConnection c isException calls tr pool w :=
  fun hone => hne (Finset.card_le_one.1 hone.one_open h hh k hk)

/-- **Two first calls** of either connector. -/
theorem two_first_calls :
    (∃ pool w, Turns World.Step
        (callPool (.postgres .lastWins) (fun _ => true) fun _ => .executeQuery "SELECT 1") {}
        twoFirstCalls pool w ∧
      ¬ OneConnection (.postgres .lastWins) (fun _ : Unit => true)
        (fun _ => .executeQuery "SELECT 1") twoFirstCalls pool w) ∧
    ∃ pool w, Turns World.Step
        (callPool .sqlite (fun _ => true) fun _ => .executeQuery "SELECT 1") {}
        twoFirstCalls pool w ∧
      ¬ OneConnection .sqlite (fun _ : Unit => true)
        (fun _ => .executeQuery "SELECT 1") twoFirstCalls pool w := by
  constructor
  · exact ⟨_, _, .turn rfl .read <| .turn rfl .read <| .turn rfl .connected <|
      .turn rfl .connected .refl, not_oneConnection_of_live (h := 0) (k := 1) (by decide)
        (by decide) (by decide)⟩
  · exact ⟨_, _, .turn rfl .read <| .turn rfl .read <| .turn rfl .connected <|
      .turn rfl .connected .refl, not_oneConnection_of_live (h := 0) (k := 1) (by decide)
        (by decide) (by decide)⟩

end UniversityQA.Guarantees
