import UniversityQA.Guarantees.ConcurrentTurns

/-!
# What a session remembers

A session stores all its turns, and `chat` hands the last of them to the graph
as `history.turns[-window:]`.

* `Remembers`: the pairs of question and answer that a session has gone
  through, read off its requests;
* `sessions_remember`: these are the turns that are stored;
* `conversation_memory_iff`: the graph gets the last `N` of them, except when
  `N` is zero.
-/

namespace UniversityQA.Guarantees

open UniversityQA.Py UniversityQA.Agent UniversityQA.Api Coroutine Service

/-! ## The pairs of a session -/

/-- The graph run inside the request ended like this. -/
def GraphEnds (app : App) (x : ChatExchange) (o : Except PyException AgentState) : Prop :=
  ∃ schemaContext history traceId rest,
    x.events = loadEvents schemaContext history traceId x.req ++ rest ∧
    Runs (ainvokeGraph app.configurable (initialState app schemaContext history traceId x.req))
      (agentEvents x.events) o

theorem GraphEnds.unique {app : App} {x : ChatExchange} {o o' : Except PyException AgentState}
    (h : GraphEnds app x o) (h' : GraphEnds app x o') : o = o' := by
  obtain ⟨schemaContext, history, traceId, rest, hevents, hrun⟩ := h
  obtain ⟨schemaContext', history', traceId', rest', hevents', hrun'⟩ := h'
  rw [hevents] at hevents'
  cases hevents'
  exact hrun.unique hrun'

/-- A question with its answer, or with the empty string. -/
abbrev Pair := String × Json

/-- What a request adds to the session: its pair, when its graph run
returned. -/
inductive Adds (app : App) (sessionId : String) (x : ChatExchange) : List Pair → Prop
  | other : x.req.sessionId ≠ sessionId → Adds app sessionId x []
  | raised (e : PyException) : x.req.sessionId = sessionId → GraphEnds app x (.error e) →
      Adds app sessionId x []
  | returned (result : AgentState) : x.req.sessionId = sessionId → GraphEnds app x (.ok result) →
      Adds app sessionId x [(x.req.question, savedAnswer result)]

theorem Adds.unique {app : App} {sessionId : String} {x : ChatExchange} {added added' : List Pair}
    (h : Adds app sessionId x added) (h' : Adds app sessionId x added') : added = added' := by
  cases h with
  | other hne =>
    cases h' with
    | other => rfl
    | raised e hid hends => rfl
    | returned result hid hends => exact absurd hid hne
  | raised e hid hends =>
    cases h' with
    | other hne => rfl
    | raised e' hid' hends' => rfl
    | returned result hid' hends' => cases hends.unique hends'
  | returned result hid hends =>
    cases h' with
    | other hne => exact absurd hid hne
    | raised e hid' hends' => cases hends.unique hends'
    | returned result' hid' hends' =>
      cases hends.unique hends'
      rfl

/-- The pairs of the session, in the order of its requests. -/
def Remembers (app : App) (sessionId : String) (past : List ChatExchange) (pairs : List Pair) :
    Prop :=
  ∃ added, List.Forall₂ (Adds app sessionId) past added ∧ pairs = added.flatten

/-- The requests determine the pairs. -/
theorem Remembers.unique {app : App} {sessionId : String} {past : List ChatExchange}
    {pairs pairs' : List Pair} (h : Remembers app sessionId past pairs)
    (h' : Remembers app sessionId past pairs') : pairs = pairs' := by
  obtain ⟨added, hadded, rfl⟩ := h
  obtain ⟨added', hadded', rfl⟩ := h'
  have hunique : Relator.RightUnique (Adds app sessionId) := fun _ _ _ => Adds.unique
  rw [hunique.forall₂ hadded hadded']

theorem Remembers.snoc {app : App} {sessionId : String} {past : List ChatExchange}
    {pairs added : List Pair} (h : Remembers app sessionId past pairs) {x : ChatExchange}
    (hx : Adds app sessionId x added) : Remembers app sessionId (past ++ [x]) (pairs ++ added) := by
  obtain ⟨older, holder, rfl⟩ := h
  exact ⟨older ++ [added], List.rel_append holder (.cons hx .nil), by simp⟩

/-! ## The stored turns -/

/-- The two messages of a pair. -/
def messages (p : Pair) : List Turn := [⟨.user, .str p.1⟩, ⟨.assistant, p.2⟩]

/-- Every session stores the pairs it went through. -/
def MemoryInv (app : App) (past : List ChatExchange) (st : SessionStore) : Prop :=
  ∀ sessionId, ∃ pairs, Remembers app sessionId past pairs ∧
    (st.get sessionId).turns = pairs.flatMap messages

theorem memoryInv_turn (app : App) (past : List ChatExchange) (st : SessionStore)
    (req : ChatRequest) (tr : List ChatEvent) (o : Except PyException ChatReply) (st' : SessionStore)
    (ih : MemoryInv app past st) (hx : Exec chatStep st (chat app req) tr o st') :
    MemoryInv app (past ++ [⟨req, tr, o⟩]) st' := by
  intro sessionId
  obtain ⟨pairs, hpairs, hturns⟩ := ih sessionId
  by_cases hid : req.sessionId = sessionId
  · subst hid
    cases chat_run hx with
    | @failed t e schemaContext traceId hrun =>
      refine ⟨pairs ++ [], hpairs.snoc (.raised e rfl ⟨_, _, _, _, rfl, ?_⟩), ?_⟩
      · rw [agentEvents_loaded]
        exact hrun
      · rw [List.append_nil, hturns]
    | @completed t result schemaContext traceId hrun =>
      refine ⟨_, hpairs.snoc (.returned result rfl ⟨_, _, _, _, List.append_assoc _ _ _, ?_⟩), ?_⟩
      · rw [agentEvents_request schemaContext traceId _ req t _ rfl]
        exact hrun
      · rw [SessionStore.get_save, nextHistory_turns, hturns, List.flatMap_append]
        rfl
  · refine ⟨pairs ++ [], hpairs.snoc (.other hid), ?_⟩
    rw [List.append_nil, ← hturns]
    cases chat_run hx with
    | failed schemaContext traceId hrun => rfl
    | completed schemaContext traceId hrun =>
      rw [SessionStore.get_save_ne st (fun h => hid h.symm)]

theorem sessions_remember {app : App} {past : List ChatExchange} {st : SessionStore}
    (h : Sessions app past st) : MemoryInv app past st := by
  refine h.inv (I := MemoryInv app) ?_ ?_
  · intro sessionId
    exact ⟨[], ⟨[], .nil, rfl⟩, rfl⟩
  · intro past st req tr o st' ih hx _
    exact memoryInv_turn app past st req tr o st' ih hx

/-! ## The window -/

theorem length_flatMap_messages (pairs : List Pair) :
    (pairs.flatMap messages).length = 2 * pairs.length := by
  induction pairs with
  | nil => rfl
  | cons p pairs ih =>
    rw [List.flatMap_cons, List.length_append, ih, List.length_cons]
    simp only [messages, List.length_cons, List.length_nil]
    omega

theorem drop_flatMap_messages (pairs : List Pair) (n : Nat) :
    (pairs.flatMap messages).drop (2 * n) = (pairs.drop n).flatMap messages := by
  induction n generalizing pairs with
  | zero => rfl
  | succ n ih =>
    cases pairs with
    | nil => simp
    | cons p pairs => exact ih pairs

theorem isChain_flatMap_messages (pairs : List Pair) :
    (pairs.flatMap messages).IsChain fun a b => a.role ≠ b.role := by
  induction pairs with
  | nil => exact .nil
  | cons p pairs ih =>
    rw [List.flatMap_cons]
    cases pairs with
    | nil => simp [messages]
    | cons q pairs =>
      simp only [List.flatMap_cons, messages, List.cons_append, List.nil_append] at ih ⊢
      exact .cons_cons (by simp) (.cons_cons (by simp) ih)

/-- The messages are those of the last `n` pairs, or of all there are. -/
structure Windowed (n : Nat) (pairs : List Pair) (history : List Turn) : Prop where
  last : history = (pairs.drop (pairs.length - min n pairs.length)).flatMap messages
  bounded : history.length ≤ 2 * n
  startsWithUser : ∀ turn, history.head? = some turn → turn.role = .user
  alternates : history.IsChain fun a b => a.role ≠ b.role

theorem windowed_last (n : Nat) (pairs : List Pair) :
    Windowed n pairs ((pairs.drop (pairs.length - min n pairs.length)).flatMap messages) where
  last := rfl
  bounded := by
    rw [length_flatMap_messages, List.length_drop]
    omega
  startsWithUser := by
    intro turn hturn
    cases hpairs : pairs.drop (pairs.length - min n pairs.length) with
    | nil =>
      rw [hpairs] at hturn
      cases hturn
    | cons p rest =>
      rw [hpairs] at hturn
      cases hturn
      rfl
  alternates := isChain_flatMap_messages _

/-- `turns[-window:]`, for every window. -/
theorem windowed_sliceFrom_iff (pairs : List Pair) {n : Int} (hn : 0 ≤ n) :
    Windowed n.toNat pairs (sliceFrom (pairs.flatMap messages) (-(n * 2))) ↔ n ≠ 0 ∨ pairs = [] := by
  by_cases h0 : n = 0
  · -- `-0` is no negative index: nothing is cut off
    subst h0
    have hall : sliceFrom (pairs.flatMap messages) (-(0 * 2)) = pairs.flatMap messages := rfl
    rw [hall]
    constructor
    · intro h
      have hlength := h.bounded
      rw [length_flatMap_messages] at hlength
      exact .inr (List.length_eq_zero_iff.mp (by omega))
    · rintro (h | rfl)
      · exact absurd rfl h
      · exact windowed_last 0 []
  · have hslice : sliceFrom (pairs.flatMap messages) (-(n * 2)) =
        (pairs.drop (pairs.length - min n.toNat pairs.length)).flatMap messages := by
      rw [sliceFrom, if_pos (by omega), ← drop_flatMap_messages, length_flatMap_messages]
      congr 1
      omega
    rw [hslice]
    exact iff_of_true (windowed_last _ _) (.inl h0)

/-- **Conversation memory.**  The stored turns are the pairs of the session,
and the graph run of its next request starts with the last of them. -/
theorem conversation_memory_iff {app : App} (hwindow : 0 ≤ app.settings.conversationHistoryWindow)
    {past : List ChatExchange} {st : SessionStore} (h : Sessions app past st) (sessionId : String) :
    ∃ pairs, Remembers app sessionId past pairs ∧
      (∀ pairs', Remembers app sessionId past pairs' → pairs' = pairs) ∧
      (st.get sessionId).turns = pairs.flatMap messages ∧
      ∀ req tr o st', req.sessionId = sessionId → Exec chatStep st (chat app req) tr o st' →
        ∃ state, (supersteps (agentEvents tr)).head? = some (.questionAnalyzer, state) ∧
          (Windowed app.settings.conversationHistoryWindow.toNat pairs state.conversationHistory ↔
            app.settings.conversationHistoryWindow ≠ 0 ∨ pairs = []) := by
  obtain ⟨pairs, hpairs, hturns⟩ := sessions_remember h sessionId
  refine ⟨pairs, hpairs, fun pairs' hpairs' => hpairs'.unique hpairs, hturns, ?_⟩
  rintro req tr o st' rfl hx
  obtain ⟨schemaContext, traceId, o', hgraph⟩ := chat_agentEvents hx
  refine ⟨_, graphRun_entered hgraph, ?_⟩
  have hhistory : (initialState app schemaContext (st.get req.sessionId) traceId
      req).conversationHistory = sliceFrom (pairs.flatMap messages)
        (-(app.settings.conversationHistoryWindow * 2)) := by
    rw [← hturns]
    rfl
  rw [hhistory]
  exact windowed_sliceFrom_iff pairs hwindow

/-! ## Two requests of a session -/

/-- A first request from the empty store. -/
def firstServed (app : App) : List ChatExchange × (SessionStore × Nat) :=
  (sampleWorld (selectsOne "")).serve app [sampleRequest]

/-- A second one after it. -/
def secondRun (app : App) : Except PyException ChatReply × List ChatEvent × (SessionStore × Nat) :=
  run (sampleWorld (selectsOne "")).handle (firstServed app).2 (chat app sampleRequest)

theorem firstServed_sessions (app : App) : Sessions app (firstServed app).1 (firstServed app).2.1 := by
  unfold firstServed
  exact World.serve_sessions _ _ _

theorem secondRun_exec (app : App) :
    Exec chatStep (firstServed app).2.1 (chat app sampleRequest) (secondRun app).2.1
      (secondRun app).1 (secondRun app).2.2.1 := by
  unfold secondRun
  exact World.run_exec _ _ _

/-- The settings with an empty window. -/
def noWindow : App := { sampleApp with settings := { conversationHistoryWindow := 0 } }

/-- With an empty window the second request is told about the first. -/
theorem empty_window_remembers :
    Sessions noWindow (firstServed noWindow).1 (firstServed noWindow).2.1 ∧
      Exec chatStep (firstServed noWindow).2.1 (chat noWindow sampleRequest) (secondRun noWindow).2.1
        (secondRun noWindow).1 (secondRun noWindow).2.2.1 ∧
      ∃ pairs state, Remembers noWindow "s" (firstServed noWindow).1 pairs ∧
        (supersteps (agentEvents (secondRun noWindow).2.1)).head? = some (.questionAnalyzer, state) ∧
        ¬ Windowed 0 pairs state.conversationHistory := by
  refine ⟨firstServed_sessions noWindow, secondRun_exec noWindow, ?_⟩
  obtain ⟨pairs, hpairs, _⟩ := sessions_remember (firstServed_sessions noWindow) "s"
  obtain ⟨schemaContext, traceId, o', hgraph⟩ := chat_agentEvents (secondRun_exec noWindow)
  obtain ⟨state, hentered⟩ : ∃ state, (supersteps (agentEvents (secondRun noWindow).2.1)).head? =
      some (.questionAnalyzer, state) := ⟨_, graphRun_entered hgraph⟩
  refine ⟨pairs, state, hpairs, hentered, fun hwindowed => ?_⟩
  have hlength : ((supersteps (agentEvents (secondRun noWindow).2.1)).head?.map
      fun x => x.2.conversationHistory.length) = some 2 := by decide +kernel
  rw [hentered] at hlength
  have htwo : state.conversationHistory.length = 2 := Option.some.inj hlength
  have hbounded := hwindowed.bounded
  omega

/-- With the default window it is told about the first as well, as it should
be. -/
theorem conversation_memory_iff_default :
    ∃ pairs state, Remembers sampleApp "s" (firstServed sampleApp).1 pairs ∧
      (supersteps (agentEvents (secondRun sampleApp).2.1)).head? = some (.questionAnalyzer, state) ∧
      Windowed 6 pairs state.conversationHistory := by
  have hwindow : 0 ≤ sampleApp.settings.conversationHistoryWindow := by decide
  obtain ⟨pairs, hpairs, _, _, hnext⟩ :=
    conversation_memory_iff hwindow (firstServed_sessions sampleApp) "s"
  obtain ⟨state, hstate, hiff⟩ := hnext sampleRequest _ _ _ rfl (secondRun_exec sampleApp)
  exact ⟨pairs, state, hpairs, hstate, hiff.mpr (.inl (by decide))⟩

end UniversityQA.Guarantees
