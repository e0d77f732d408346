import Mathlib.Data.List.Nodup
import UniversityQA.Api.Sessions
import UniversityQA.Lib.Interleaving
import UniversityQA.Lib.ReadModifyWrite

/-!
# Concurrent requests and the stored turns

Requests take turns at every query; each loads its session first and saves it
last.  For one session that is a list to which many parties append by read,
modify and write.

* `turns_disciplined`: what the handler does to the turns of a session;
* `no_lost_turn_iff`: every completed request finds its place in the stored
  turns exactly when no request of the session saves between the load and the
  save of another;
* `lost_turn`: two requests of which one is forgotten.
-/

namespace UniversityQA.Guarantees

open UniversityQA.Py UniversityQA.Agent UniversityQA.Api Coroutine ReadModifyWrite

variable {ι : Type}

/-- The loads and saves of a session; a save appends the last two turns. -/
def turnsOp (sessionId : String) : ι × ChatEvent → Option (Op ι Turn)
  | (i, ⟨.inr (.getSession k), history⟩) => if k = sessionId then some (.load i history.turns) else none
  | (i, ⟨.inr (.saveSession k history), _⟩) =>
    if k = sessionId then
      some (.store i (history.turns.take (history.turns.length - 2))
        (history.turns.drop (history.turns.length - 2)))
    else none
  | _ => none

/-- The requests that came to save the session, in order, each with the answer
it saved. -/
def completions (sessionId : String) : List (ι × ChatEvent) → List (ι × Json) :=
  List.filterMap fun
    | (i, ⟨.inr (.saveSession k history), _⟩) =>
      if k = sessionId then some (i, (history.turns.getLast?.map Turn.content).getD .null) else none
    | _ => none

def loaded (sessionId : String) (history : ConversationHistory) : ChatEvent :=
  ⟨.inr (.getSession sessionId), history⟩

/-- The question of the user and the answer of the assistant. -/
def exchange (req : ChatRequest) (answer : Json) : List Turn :=
  [⟨.user, .str req.question⟩, ⟨.assistant, answer⟩]

/-! ## One request -/

theorem nextHistory_turns (history : ConversationHistory) (req : ChatRequest) (result : AgentState) :
    (nextHistory history req result).turns = history.turns ++
      exchange req (if result.answer.truthy then result.answer else .str "") := rfl

theorem take_nextHistory (history : ConversationHistory) (req : ChatRequest) (result : AgentState) :
    (nextHistory history req result).turns.take ((nextHistory history req result).turns.length - 2) =
      history.turns := by
  rw [nextHistory_turns, List.length_append]
  exact List.take_left' (by simp [exchange])

theorem drop_nextHistory (history : ConversationHistory) (req : ChatRequest) (result : AgentState) :
    (nextHistory history req result).turns.drop ((nextHistory history req result).turns.length - 2) =
      exchange req (if result.answer.truthy then result.answer else .str "") := by
  rw [nextHistory_turns, List.length_append]
  exact List.drop_left' (by simp [exchange])

theorem turnsOp_load {sessionId : String} {x : ι × ChatEvent} {i : ι} {v : List Turn}
    (h : turnsOp sessionId x = some (.load i v)) :
    ∃ history, x = (i, loaded sessionId history) ∧ v = history.turns := by
  obtain ⟨j, q, a⟩ := x
  rcases q with q | k | k | k | ⟨k, next⟩
  · cases h
  · cases h
  · by_cases hk : k = sessionId
    · subst hk
      simp only [turnsOp, if_true, Option.some.injEq, Op.load.injEq] at h
      obtain ⟨rfl, rfl⟩ := h
      exact ⟨a, rfl, rfl⟩
    · simp [turnsOp, hk] at h
  · cases h
  · by_cases hk : k = sessionId <;> simp [turnsOp, hk] at h

theorem turnsOp_store {sessionId : String} {x : ι × ChatEvent} {i : ι} {v new : List Turn}
    (h : turnsOp sessionId x = some (.store i v new)) :
    ∃ next, x = (i, saved sessionId next) ∧ v = next.turns.take (next.turns.length - 2) ∧
      new = next.turns.drop (next.turns.length - 2) := by
  obtain ⟨j, q, a⟩ := x
  rcases q with q | k | k | k | ⟨k, next⟩
  · cases h
  · cases h
  · by_cases hk : k = sessionId <;> simp [turnsOp, hk] at h
  · cases h
  · by_cases hk : k = sessionId
    · subst hk
      simp only [turnsOp, if_true, Option.some.injEq, Op.store.injEq] at h
      obtain ⟨rfl, rfl, rfl⟩ := h
      exact ⟨next, rfl, rfl, rfl⟩
    · simp [turnsOp, hk] at h

/-- The content of the turn saved last. -/
def savedAnswer (result : AgentState) : Json :=
  if result.answer.truthy then result.answer else .str ""

theorem savedAnswer_of_respond {req : ChatRequest} {traceId : String} {result : AgentState}
    {reply : ChatReply} (h : respond req traceId result = .ok reply) :
    savedAnswer result = .str (reply.body.answer.getD "") := by
  obtain ⟨_, ⟨hnull, hnone⟩ | ⟨text, htext, hsome⟩⟩ := respond_ok h
  · rw [savedAnswer, hnull, hnone]
    rfl
  · rw [savedAnswer, htext, hsome]
    by_cases he : text = ""
    · subst he
      rfl
    · simp [Json.truthy, he]

theorem length_saves_chatTrace {app : App} {req : ChatRequest} {history : ConversationHistory}
    {events : List ChatEvent} {o : Except PyException ChatReply}
    {written : Option ConversationHistory} (h : ChatTrace app req history events o written)
    (sessionId : String) : (saves sessionId events).length ≤ 1 := by
  cases h with
  | @failed t e schemaContext traceId hrun =>
    rw [saves_loaded]
    exact Nat.zero_le _
  | completed schemaContext traceId hrun =>
    rw [saves_request]
    exact List.length_filterMap_le _ _

theorem chatTrace_answered {app : App} {req : ChatRequest} {history : ConversationHistory}
    {events : List ChatEvent} {reply : ChatReply} {written : Option ConversationHistory}
    (h : ChatTrace app req history events (.ok reply) written) :
    ∃ traceId result, respond req traceId result = .ok reply ∧
      saved req.sessionId (nextHistory history req result) ∈ events := by
  generalize ho : Except.ok reply = o at h
  cases h with
  | failed schemaContext traceId hrun => cases ho
  | @completed t result schemaContext traceId hrun =>
    exact ⟨traceId, result, rfl, List.mem_append_right _ (List.mem_singleton_self _)⟩

section Request

variable {schemaContext traceId : String} {history : ConversationHistory} {req : ChatRequest}
  {t : List AgentEvent}

theorem mem_request {e : ChatEvent}
    (h : e ∈ loadEvents schemaContext history traceId req ++ t.map Event.inl) :
    e ∈ loadEvents schemaContext history traceId req ∨ ∃ e', e = Event.inl e' := by
  rcases List.mem_append.mp h with hload | hinl
  · exact .inl hload
  · obtain ⟨e', _, heq⟩ := List.mem_map.mp hinl
    exact .inr ⟨e', heq.symm⟩

theorem saved_notMem_request (k : String) (next : ConversationHistory) :
    saved k next ∉ loadEvents schemaContext history traceId req ++ t.map Event.inl := by
  intro hmem
  rcases mem_request hmem with hload | ⟨e, heq⟩
  · simp only [loadEvents, saved, List.mem_cons, List.not_mem_nil, or_false] at hload
    rcases hload with heq | heq | heq <;> cases heq
  · cases heq

theorem eq_of_loaded_mem_request {k : String} {history' : ConversationHistory}
    (h : loaded k history' ∈ loadEvents schemaContext history traceId req ++ t.map Event.inl) :
    history' = history := by
  rcases mem_request h with hload | ⟨e, heq⟩
  · simp only [loadEvents, List.mem_cons, List.not_mem_nil, or_false] at hload
    rcases hload with heq | heq | heq <;> cases heq
    rfl
  · cases heq

end Request

/-- Where a request saves, it has loaded the history it goes on from. -/
theorem chatTrace_save {app : App} {req : ChatRequest} {history : ConversationHistory}
    {events pre post : List ChatEvent} {o : Except PyException ChatReply}
    {written : Option ConversationHistory} (h : ChatTrace app req history events o written)
    {k : String} {next : ConversationHistory} (hevents : events = pre ++ saved k next :: post) :
    k = req.sessionId ∧ (∃ result, next = nextHistory history req result) ∧
      loaded k history ∈ pre ∧
      ∀ k' history', loaded k' history' ∈ pre → history' = history := by
  cases h with
  | @failed t e schemaContext traceId hrun =>
    have hmem : saved k next ∈ loadEvents schemaContext history traceId req ++ t.map Event.inl := by
      rw [hevents]
      simp
    exact absurd hmem (saved_notMem_request k next)
  | @completed t result schemaContext traceId hrun =>
    rcases List.eq_nil_or_concat post with rfl | ⟨post', e, rfl⟩
    · obtain ⟨hpre, hlast⟩ := List.append_inj' hevents rfl
      cases hlast
      subst hpre
      exact ⟨rfl, ⟨result, rfl⟩, by simp [loadEvents, loaded],
        fun k' history' hmem => eq_of_loaded_mem_request hmem⟩
    · rw [List.concat_eq_append, ← List.cons_append, ← List.append_assoc] at hevents
      obtain ⟨hpre, _⟩ := List.append_inj' hevents rfl
      have hmem : saved k next ∈ loadEvents schemaContext history traceId req ++ t.map Event.inl := by
        rw [hpre]
        simp
      exact absurd hmem (saved_notMem_request k next)

/-! ## Many requests -/

/-- The world keeps the turns as the loads and saves say. -/
theorem follows_stored (sessionId : String) {st st₁ : SessionStore} (tr : List (ι × ChatEvent))
    (h : Follows chatStep st (tr.map Prod.snd) st₁) :
    (st₁.get sessionId).turns = stored (turnsOp sessionId) (st.get sessionId).turns tr := by
  induction tr generalizing st with
  | nil =>
    cases h
    rfl
  | cons x tr ih =>
    obtain ⟨s₁, hs, hrest⟩ := h
    rw [ih hrest]
    change _ = stored _ (write (turnsOp sessionId) (st.get sessionId).turns x) tr
    congr 1
    obtain ⟨i, q, a⟩ := x
    cases q with
    | inl q =>
      cases hs
      rfl
    | inr q =>
      cases q with
      | schemaContext =>
        cases hs
        rfl
      | uuid4 =>
        cases hs
        rfl
      | getSession k =>
        obtain ⟨rfl, rfl⟩ := hs
        unfold write turnsOp
        by_cases hk : k = sessionId <;> simp [hk]
      | saveSession k history =>
        cases hs
        unfold write turnsOp
        by_cases hk : k = sessionId
        · simp [hk]
        · simp [hk, SessionStore.get_save_ne st (Ne.symm hk) history]

theorem completions_cons (sessionId : String) (i : ι) (e : ChatEvent) (tr : List (ι × ChatEvent)) :
    (completions sessionId ((i, e) :: tr)).map Prod.fst =
      (saves sessionId [e]).map (fun _ => i) ++ (completions sessionId tr).map Prod.fst := by
  rcases e with ⟨q | k | k | k | ⟨k, next⟩, a⟩
  · rfl
  · rfl
  · rfl
  · rfl
  · by_cases hk : k = sessionId
    · simp [completions, saves, hk]
    · simp [completions, saves, hk]

theorem count_completions [DecidableEq ι] (sessionId : String) (i : ι) (tr : List (ι × ChatEvent)) :
    ((completions sessionId tr).map Prod.fst).count i =
      (saves sessionId (eventsOf i tr)).length := by
  induction tr with
  | nil => rfl
  | cons x tr ih =>
    obtain ⟨j, e⟩ := x
    rw [completions_cons, List.count_append, List.map_const', List.count_replicate, ih]
    by_cases hj : j = i
    · subst hj
      have hsaves := saves_append sessionId [e] (eventsOf j tr)
      rw [List.singleton_append] at hsaves
      rw [eventsOf_cons_self, hsaves, List.length_append]
      simp
    · rw [eventsOf_cons_ne hj]
      simp [hj]

section Concurrent

variable [DecidableEq ι] {app : App} {reqs : ι → ChatRequest} {st st' : SessionStore}
  {tr : List (ι × ChatEvent)} {o : ι → Except PyException ChatReply}

/-- The same inside an interleaved run. -/
theorem interleaved_save (h : Interleaved chatStep (fun i => chat app (reqs i)) st tr o st')
    {pre post : List (ι × ChatEvent)} {i : ι} {k : String} {next : ConversationHistory}
    (htr : tr = pre ++ (i, saved k next) :: post) :
    ∃ history, k = (reqs i).sessionId ∧ (∃ result, next = nextHistory history (reqs i) result) ∧
      (i, loaded k history) ∈ pre ∧
      ∀ k' history', (i, loaded k' history') ∈ pre → history' = history := by
  obtain ⟨history, written, htrace⟩ := chat_trace (h.runs i)
  rw [htr, eventsOf_append, eventsOf_cons_self] at htrace
  obtain ⟨hk, hnext, hload, hunique⟩ := chatTrace_save htrace rfl
  refine ⟨history, hk, hnext, mem_eventsOf.mp hload, fun k' history' hmem => ?_⟩
  exact hunique k' history' (mem_eventsOf.mpr hmem)

/-- **Discipline.** -/
theorem turns_disciplined (h : Interleaved chatStep (fun i => chat app (reqs i)) st tr o st')
    (sessionId : String) : Disciplined (turnsOp sessionId) (st.get sessionId).turns tr where
  reads := by
    refine (Trace.always_iff [] tr).mpr fun pre x post htr i v hop => ?_
    obtain ⟨history, rfl, rfl⟩ := turnsOp_load hop
    have hfollows := h.follows
    rw [htr, List.map_append] at hfollows
    obtain ⟨s₁, hpre, s₂, ⟨hread, _⟩, _⟩ := follows_append.mp hfollows
    have hturns : history.turns = (s₁.get sessionId).turns := congrArg ConversationHistory.turns hread
    rw [hturns]
    exact follows_stored sessionId pre hpre
  based := by
    refine (Trace.always_iff [] tr).mpr fun pre x post htr i v new hop => ?_
    obtain ⟨next, rfl, rfl, rfl⟩ := turnsOp_store hop
    obtain ⟨history, hk, ⟨result, rfl⟩, hload, hunique⟩ := interleaved_save h htr
    rw [take_nextHistory, drop_nextHistory]
    refine ⟨by simp [exchange], ⟨_, hload, by simp [turnsOp, loaded]⟩, fun x' hmem v' hop' => ?_⟩
    obtain ⟨history', rfl, rfl⟩ := turnsOp_load hop'
    rw [hunique sessionId history' hmem]

/-- What the saves add are the completed exchanges. -/
theorem additions_turns (h : Interleaved chatStep (fun i => chat app (reqs i)) st tr o st')
    (sessionId : String) : additions (turnsOp sessionId) tr =
      (completions sessionId tr).map fun c => exchange (reqs c.1) c.2 := by
  rw [completions, List.map_filterMap]
  refine List.filterMap_congr fun x hmem => ?_
  obtain ⟨pre, post, htr⟩ := List.append_of_mem hmem
  obtain ⟨i, q, a⟩ := x
  rcases q with q | k | k | k | ⟨k, next⟩
  · rfl
  · rfl
  · by_cases hk : k = sessionId <;> simp [turnsOp, hk]
  · rfl
  · by_cases hk : k = sessionId
    · obtain ⟨history, _, ⟨result, rfl⟩, _⟩ := interleaved_save h htr
      simp [turnsOp, hk, nextHistory_turns, exchange]
    · simp [turnsOp, hk]

/-- A request completes once at most. -/
theorem completions_nodup (h : Interleaved chatStep (fun i => chat app (reqs i)) st tr o st')
    (sessionId : String) : ((completions sessionId tr).map Prod.fst).Nodup := by
  refine List.nodup_iff_count_le_one.mpr fun i => ?_
  rw [count_completions]
  obtain ⟨history, written, htrace⟩ := chat_trace (h.runs i)
  exact length_saves_chatTrace htrace sessionId

/-- A request that is answered has completed, with the answer it gave. -/
theorem completions_answered (h : Interleaved chatStep (fun i => chat app (reqs i)) st tr o st')
    {i : ι} {reply : ChatReply} (hi : o i = .ok reply) :
    (i, .str (reply.body.answer.getD "")) ∈ completions (reqs i).sessionId tr := by
  obtain ⟨history, written, htrace⟩ := chat_trace (h.runs i)
  rw [hi] at htrace
  obtain ⟨traceId, result, hresult, hmem⟩ := chatTrace_answered htrace
  rw [← savedAnswer_of_respond hresult]
  refine List.mem_filterMap.mpr ⟨_, mem_eventsOf.mp hmem, ?_⟩
  simp [saved, nextHistory_turns, exchange, savedAnswer]

/-- **No lost turn.**  The completions are the completed requests of the
session, each once; the stored turns consist of what was there before and of
them, exactly when nobody saves between a load and the save that goes back to
it. -/
theorem no_lost_turn_iff (h : Interleaved chatStep (fun i => chat app (reqs i)) st tr o st')
    (sessionId : String) :
    ((completions sessionId tr).map Prod.fst).Nodup ∧
    (∀ i reply, (reqs i).sessionId = sessionId → o i = .ok reply →
      (i, .str (reply.body.answer.getD "")) ∈ completions sessionId tr) ∧
    ((∃ turns : List (ι × Json), turns.Perm (completions sessionId tr) ∧ (st'.get sessionId).turns =
      (st.get sessionId).turns ++ turns.flatMap fun c => exchange (reqs c.1) c.2) ↔
        Undisturbed (turnsOp sessionId) tr) := by
  refine ⟨completions_nodup h sessionId, fun i reply hk hi => ?_, ?_⟩
  · rw [← hk]
    exact completions_answered h hi
  · have hdisciplined := turns_disciplined h sessionId
    have hstored := follows_stored sessionId tr h.follows
    have hadditions := additions_turns h sessionId
    constructor
    · rintro ⟨turns, hperm, hturns⟩
      refine (stored_complete_iff hdisciplined).mp
        ⟨turns.map fun c => exchange (reqs c.1) c.2, ?_, ?_⟩
      · rw [hadditions]
        exact hperm.map _
      · rw [← hstored, hturns, List.flatMap_def]
    · intro hundisturbed
      have hvalue := (hdisciplined.complete hundisturbed).value
      refine ⟨completions sessionId tr, .refl _, ?_⟩
      rw [hstored, hvalue, hadditions, List.flatMap_def]

end Concurrent

/-! ## Two requests at once -/

/-- Requests that take turns as scheduled, from the empty store. -/
def concurrent [DecidableEq ι] (w : World) (app : App) (reqs : ι → ChatRequest) (schedule : List ι) :
    List (ι × ChatEvent) × (ι → ChatProg ChatReply) × (SessionStore × Nat) :=
  interleave w.handle (fun i => chat app (reqs i)) (SessionStore.empty, 0) schedule

theorem concurrent_interleaved [DecidableEq ι] (w : World) (app : App) (reqs : ι → ChatRequest)
    (schedule : List ι)
    {run : List (ι × ChatEvent) × (ι → ChatProg ChatReply) × (SessionStore × Nat)}
    (hrun : run = concurrent w app reqs schedule)
    (hdone : ∀ i, (run.2.1 i).outcome.isSome = true) :
    ∃ o, Interleaved chatStep (fun i => chat app (reqs i)) SessionStore.empty run.1 o run.2.2.1 := by
  subst hrun
  obtain ⟨o, _, hrun⟩ := exists_interleaved (fun s q a s' => chatStep s.1 q a s'.1)
    w.handle w.handle_step schedule (fun i => chat app (reqs i)) (SessionStore.empty, 0) hdone
  exact ⟨o, hrun.map Prod.fst fun _ _ _ _ hs => hs⟩

/-- The request of the sample and another one in its session. -/
def twoRequests : Bool → ChatRequest
  | false => sampleRequest
  | true =>
    { sampleRequest with
      question := "Where is Algorithms taught?"
      question_length := by decide }

/-- The first request waits for the classifier while the second is served. -/
def overtaken : List (Bool × ChatEvent) × (Bool → ChatProg ChatReply) × (SessionStore × Nat) :=
  concurrent (sampleWorld (selectsOne "")) sampleApp twoRequests
    (List.replicate 5 false ++ List.replicate 40 true ++ List.replicate 40 false)

theorem overtaken_eq : overtaken = concurrent (sampleWorld (selectsOne "")) sampleApp twoRequests
    (List.replicate 5 false ++ List.replicate 40 true ++ List.replicate 40 false) := by
  unfold overtaken
  with_reducible rfl

/-- Both requests end, both report an exchange, and one is stored. -/
theorem overtaken_ends :
    (∀ i, (overtaken.2.1 i).outcome.isSome = true) ∧
      (completions "s" overtaken.1).length = 2 ∧
      (overtaken.2.2.1.get "s").turns.length = 2 := by
  decide +kernel

theorem overtaken_interleaved :
    ∃ o, Interleaved chatStep (fun i => chat sampleApp (twoRequests i)) SessionStore.empty
      overtaken.1 o overtaken.2.2.1 :=
  concurrent_interleaved _ _ _ _ overtaken_eq overtaken_ends.1

/-- Both requests complete, and one exchange is stored. -/
theorem overtaken_lost :
    ¬ ∃ turns : List (Bool × Json), turns.Perm (completions "s" overtaken.1) ∧
      (overtaken.2.2.1.get "s").turns = (SessionStore.empty.get "s").turns ++
        turns.flatMap fun c => exchange (twoRequests c.1) c.2 := by
  rintro ⟨turns, hperm, hturns⟩
  obtain ⟨-, hcompleted, hstored⟩ := overtaken_ends
  have hexchanges : (turns.flatMap fun c => exchange (twoRequests c.1) c.2).length = 4 := by
    rw [List.length_flatMap]
    simp [exchange, hperm.length_eq, hcompleted]
  rw [hturns, List.length_append, hexchanges] at hstored
  omega

/-- The second request overtakes the first, whose save then undoes it. -/
theorem lost_turn :
    (∃ o, Interleaved chatStep (fun i => chat sampleApp (twoRequests i)) SessionStore.empty
      overtaken.1 o overtaken.2.2.1) ∧
    ¬ ∃ turns : List (Bool × Json), turns.Perm (completions "s" overtaken.1) ∧
      (overtaken.2.2.1.get "s").turns = (SessionStore.empty.get "s").turns ++
        turns.flatMap fun c => exchange (twoRequests c.1) c.2 :=
  ⟨overtaken_interleaved, overtaken_lost⟩

/-- The schedule is what the condition rules out. -/
theorem no_lost_turn_iff_overtaken : ¬ Undisturbed (turnsOp "s") overtaken.1 := by
  obtain ⟨o, hrun⟩ := overtaken_interleaved
  intro hundisturbed
  exact overtaken_lost ((no_lost_turn_iff hrun "s").2.2.mpr hundisturbed)

end UniversityQA.Guarantees
