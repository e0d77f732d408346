import UniversityQA.Agent.Stages
import UniversityQA.Guarantees.ConversationMemory
import UniversityQA.Guarantees.SchemaVersions

/-!
# What `AgentState` promises

The state that a request carries through the graph starts from a history that
other requests, of the same session too, may have saved at any time.  What the
class says of its fields holds all the same.

* `Kept`: histories as requests leave them;
* `Contract`: what a request shows of its state;
* `state_contract`: in every life of a process, whatever is interleaved.
-/

namespace UniversityQA.Guarantees

open UniversityQA.Py UniversityQA.Agent UniversityQA.Db UniversityQA.Api Coroutine SharedHandle

variable {ε ι : Type}

/-! ## Histories -/

/-- Rounds within the limit, turns in pairs. -/
structure Kept (app : App) (history : ConversationHistory) : Prop where
  rounds : 0 ≤ history.ambiguityCount ∧
    history.ambiguityCount ≤ max app.settings.maxClarificationRounds 0
  turns : ∃ pairs : List Pair, history.turns = pairs.flatMap messages

/-- Pairs of a question and an answer, as many as the window admits. -/
def InWindow (app : App) (history : List Turn) : Prop :=
  ∃ pairs : List Pair, history = pairs.flatMap messages ∧ (0 < app.settings.conversationHistoryWindow →
    pairs.length ≤ app.settings.conversationHistoryWindow)

theorem kept_default (app : App) : Kept app {} where
  rounds := ⟨Int.le_refl 0, Int.le_max_right _ _⟩
  turns := ⟨[], rfl⟩

variable {app : App} {history : ConversationHistory} {req : ChatRequest}
  {schemaContext traceId : String}

theorem Kept.inStage (h : Kept app history) :
    InStage app.configurable (initialState app schemaContext history traceId req)
      (initialState app schemaContext history traceId req) .questionAnalyzer where
  same := ⟨rfl, rfl, rfl, rfl, rfl, rfl⟩
  limits := by
    refine ⟨⟨Int.le_refl 0, Int.le_max_right _ _⟩, ?_⟩
    unfold initialState
    dsimp only
    split
    · exact h.rounds
    · exact ⟨Int.le_refl 0, Int.le_max_right _ _⟩
  answer := rfl
  stage := ⟨rfl, rfl, rfl, rfl, rfl⟩

/-- Whatever the window is, it cuts between two pairs. -/
theorem Kept.inWindow (h : Kept app history) :
    InWindow app (initialState app schemaContext history traceId req).conversationHistory := by
  obtain ⟨pairs, hpairs⟩ := h.turns
  have hslice : (initialState app schemaContext history traceId req).conversationHistory =
      sliceFrom (pairs.flatMap messages) (-(app.settings.conversationHistoryWindow * 2)) := by
    rw [← hpairs]
    rfl
  rw [hslice, sliceFrom]
  split
  · refine ⟨pairs.drop (pairs.length - app.settings.conversationHistoryWindow.toNat), ?_, fun hpos => ?_⟩
    · rw [← drop_flatMap_messages, length_flatMap_messages]
      congr 1
      omega
    · rw [List.length_drop]
      omega
  · refine ⟨pairs.drop (-app.settings.conversationHistoryWindow).toNat, ?_, fun hpos => ?_⟩
    · rw [← drop_flatMap_messages]
      congr 1
      omega
    · omega

theorem Ended.kept (h : Kept app history) {s₀ result : AgentState}
    (hended : Ended app.configurable s₀ result) : Kept app (nextHistory history req result) where
  rounds := hended.limits.rounds
  turns := by
    obtain ⟨pairs, hpairs⟩ := h.turns
    refine ⟨pairs ++ [(req.question, savedAnswer result)], ?_⟩
    rw [nextHistory_turns, hpairs, List.flatMap_append]
    rfl

/-! ## Requests -/

/-- What a request shows of its state: nodes are entered in their stage, and
what is saved is the outcome of the run. -/
def Contract (app : App) (req : ChatRequest) (history : ConversationHistory) (s₀ : AgentState) :
    ChatQuery → Prop
  | .inl (.superstep node s) => InStage app.configurable s₀ s node
  | .inr (.saveSession sessionId saved) => sessionId = req.sessionId ∧
      ∃ result, Ended app.configurable s₀ result ∧ saved = nextHistory history req result
  | _ => True

/-- Only histories as requests leave them are saved. -/
def SavesKept (app : App) : ChatQuery → Prop
  | .inr (.saveSession _ saved) => Kept app saved
  | _ => True

theorem Contract.savesKept (h : Kept app history) {s₀ : AgentState} {q : ChatQuery}
    (hq : Contract app req history s₀ q) : SavesKept app q := by
  obtain q | (_ | _ | _ | _) := q
  case inr.saveSession =>
    obtain ⟨-, result, hended, rfl⟩ := hq
    exact Ended.kept h hended
  all_goals trivial

theorem graph_contract (h : Kept app history) :
    (ainvokeGraph app.configurable (initialState app schemaContext history traceId req)).AsksWhile
      (fun _ => True) fun q => Contract app req history
        (initialState app schemaContext history traceId req) (.inl q) := by
  refine asksWhile_of_runs fun tr o hrun pre e post htr _ => ?_
  obtain ⟨hstaged, -⟩ := graphRun_stages (ainvoke_run hrun) h.inStage
  obtain ⟨q, a⟩ := e
  cases q with
  | superstep node s =>
    refine hstaged (node, s) (List.mem_filterMap.2 ⟨⟨.superstep node s, a⟩, ?_, rfl⟩)
    rw [htr]
    exact List.mem_append_right _ List.mem_cons_self
  | _ => trivial

theorem graph_ends (h : Kept app history) :
    (ainvokeGraph app.configurable (initialState app schemaContext history traceId req)).Ensures
      (fun _ => True)
      (Ended app.configurable (initialState app schemaContext history traceId req)) :=
  ensures_of_runs fun _ result hrun _ => (graphRun_stages (ainvoke_run hrun) h.inStage).2 result rfl

/-- **A request** draws its initial state, and keeps to its contract. -/
theorem chat_contract (app : App) (req : ChatRequest) :
    ∃ k : String → ConversationHistory → String → ChatProg ChatReply,
      chat app req = .ask (.inr .schemaContext) (fun schemaContext =>
        .ask (.inr (.getSession req.sessionId)) fun history =>
          .ask (.inr .uuid4) fun traceId => k schemaContext history traceId) ∧
      ∀ schemaContext history traceId, Kept app history →
        (k schemaContext history traceId).AsksWhile (fun _ => True)
          (Contract app req history (initialState app schemaContext history traceId req)) := by
  refine ⟨_, rfl, fun schemaContext history traceId h => ?_⟩
  change Prog.AsksWhile _ _ (_ >>= _)
  refine asksWhile_bind_ensures
    (asksWhile_tryCatch (asksWhile_liftLeft (graph_contract h)) fun _ => trivial)
    (ensures_tryCatch (ensures_liftLeft (graph_ends h)) fun _ => trivial) fun result hended => ?_
  exact ⟨⟨rfl, result, hended, rfl⟩, fun _ _ => asksWhile_ofExcept _⟩

/-! ## On the event loop -/

/-- What was loaded is as requests leave it. -/
def LoadsKept (app : App) : ChatEvent → Prop
  | ⟨.inr (.getSession _), history⟩ => Kept app history
  | _ => True

theorem chat_savesKept (app : App) (req : ChatRequest) :
    (chat app req).AsksWhile (LoadsKept app) (SavesKept app) := by
  obtain ⟨k, hk, hcontract⟩ := chat_contract app req
  rw [hk]
  refine ⟨trivial, fun _ _ => ⟨trivial, fun history hhistory => ⟨trivial, fun _ _ => ?_⟩⟩⟩
  exact asksWhile_of_imp (fun q hq => hq.savesKept hhistory)
    (asksWhile_mono (fun _ _ => trivial) (hcontract _ history _ hhistory))

theorem refreshLoop_handler {P : AppEvent → Prop} {C : ChatQuery → Prop} (rounds : Nat) :
    (refreshLoop rounds).AsksWhile P fun q => OfHandler C (.inl q) := by
  induction rounds with
  | zero => trivial
  | succ rounds ih =>
    refine ⟨trivial, fun _ _ => ⟨trivial, fun result _ => ?_⟩⟩
    cases result with
    | ok rows => exact ⟨trivial, fun _ _ => ⟨trivial, fun _ _ => ih⟩⟩
    | error text => exact ⟨trivial, fun _ _ => ih⟩

/-- Every task. -/
theorem prog_savesKept (app : App) (c : Connector) (d : Driver ε) (task : ProcessTask) :
    (task.prog app c d).AsksWhile (ToHandler (LoadsKept app)) (OfHandler (SavesKept app)) := by
  cases task with
  | health =>
    have hdriver : (onLoop (Api.health c d.isException)).AsksWhile (ToHandler (LoadsKept app))
        (OfHandler (SavesKept app)) :=
      asksWhile_liftRight (asksWhile_of_asks (asks_of_forall (fun _ => trivial) _))
    exact asksWhile_bind hdriver fun _ => trivial
  | app task =>
    refine asksWhile_bind ?_ fun _ => trivial
    cases task with
    | chat req => exact handler_onLoop (fun _ _ => trivial) c d (chat_savesKept app req)
    | refresh rounds =>
      exact asksWhile_expand_ensures (carryOut_handler c d)
        (carryOut_tells (fun _ _ => trivial) c d) (refreshLoop_handler rounds)

/-- `app.state`'s session store returns what was saved. -/
structure KeepsSessions
    (answers : AppState → (q : AppQuery) → AppAnswer q → AppState → Prop) : Prop where
  read : ∀ {s sessionId history s'},
    answers s (.inl (.inr (.getSession sessionId))) history s' → history = s.sessions.get sessionId
  saved : ∀ {s sessionId history a s'},
    answers s (.inl (.inr (.saveSession sessionId history))) a s' →
      s'.sessions = s.sessions.save sessionId history
  other : ∀ {s q a s'}, answers s q a s' →
    (∀ sessionId history, q ≠ .inl (.inr (.saveSession sessionId history))) →
      s'.sessions = s.sessions

theorem appStep_keepsSessions (llm : List BaseMessage → Except String String)
    (connector : String → Except String (List Row)) : KeepsSessions (appStep llm connector) where
  read h := h.1
  saved h := by
    cases h
    rfl
  other {s q a s'} h hq := by
    obtain (q | (_ | sessionId | _ | ⟨sessionId, history⟩)) | (_ | _ | _ | _) := q
    case inl.inl => rw [h.2]
    case inl.inr.schemaContext => rw [h.2]
    case inl.inr.getSession => rw [h.2]
    case inl.inr.saveSession => exact absurd rfl (hq sessionId history)
    all_goals
      cases h
      rfl

/-- All stored histories are as requests leave them. -/
def AllKept (app : App) (p : Process) : Prop :=
  ∀ sessionId, Kept app (p.app.sessions.get sessionId)

theorem reliable_sessions {answers : AppState → (q : AppQuery) → AppAnswer q → AppState → Prop}
    (hanswers : KeepsSessions answers) (app : App) :
    Reliable (processStep (ε := ε) answers) (ToHandler (LoadsKept app)) (OfHandler (SavesKept app))
      (AllKept app) := by
  rintro p (q | op) a p' hp hq ⟨hs, hrest⟩
  · by_cases hsave : ∃ sessionId history, q = .inl (.inr (.saveSession sessionId history))
    · obtain ⟨sessionId, history, rfl⟩ := hsave
      refine ⟨trivial, fun id => ?_⟩
      rw [hanswers.saved hs]
      by_cases hid : id = sessionId
      · subst hid
        rw [SessionStore.get_save]
        exact hq
      · rw [SessionStore.get_save_ne _ hid]
        exact hp id
    · have hsame := hanswers.other hs fun sessionId history heq => hsave ⟨sessionId, history, heq⟩
      refine ⟨?_, fun id => ?_⟩
      · obtain (q | (_ | sessionId | _ | _)) | q := q
        case inl.inr.getSession =>
          obtain rfl := hanswers.read hs
          exact hp sessionId
        all_goals trivial
      · rw [hsame]
        exact hp id
  · refine ⟨trivial, fun id => ?_⟩
    rw [hrest]
    exact hp id

/-! ## The whole life -/

/-- The program reads the schema context and the session, draws a trace id, and
goes on with these. -/
def drawing (req : ChatRequest)
    (k : String → ConversationHistory → String → ProcessProg ε Reply) : ProcessProg ε Reply :=
  .ask (.inl (.inl (.inr .schemaContext))) fun schemaContext : String =>
    .ask (.inl (.inl (.inr (.getSession req.sessionId)))) fun history : ConversationHistory =>
      .ask (.inl (.inl (.inr .uuid4))) fun traceId : String => k schemaContext history traceId

/-- **A task** that answers a request. -/
theorem prog_contract (app : App) (c : Connector) (d : Driver ε) (req : ChatRequest) :
    ∃ k : String → ConversationHistory → String → ProcessProg ε Reply,
      (ProcessTask.app (.chat req)).prog app c d = drawing req k ∧
      ∀ schemaContext history traceId, Kept app history →
        (k schemaContext history traceId).AsksWhile (ToHandler fun _ => True)
          (OfHandler (Contract app req history (initialState app schemaContext history traceId req))) := by
  obtain ⟨k, hk, hcontract⟩ := chat_contract app req
  refine ⟨fun schemaContext history traceId =>
    ((k schemaContext history traceId).liftLeft >>= fun reply => .ret (some reply) :
      AppProg (Option ChatReply)).expand (carryOut c d) .raised >>= fun reply => .ret (.app reply),
    ?_, fun schemaContext history traceId h => ?_⟩
  · rw [ProcessTask.prog, Task.steps, Task.prog, hk]
    rfl
  · exact asksWhile_bind (handler_onLoop (fun _ _ => trivial) c d
      (hcontract schemaContext history traceId h)) fun reply => trivial

/-- The state a request starts from. -/
def StartsFrom (app : App) (req : ChatRequest) (history : ConversationHistory) (s₀ : AgentState) :
    Prop :=
  ∃ schemaContext traceId, s₀ = initialState app schemaContext history traceId req

theorem toHandler_true (e : ProcessEvent ε) : ToHandler (fun _ => True) e := by
  obtain ⟨(q | q) | op, a⟩ := e
  all_goals trivial

/-- Under way, a request has drawn its initial state or not yet asked for
anything else. -/
theorem reaches_contract {app : App} {req : ChatRequest}
    {k : String → ConversationHistory → String → ProcessProg ε Reply}
    (hk : ∀ schemaContext history traceId, Kept app history →
      (k schemaContext history traceId).AsksWhile (ToHandler fun _ => True)
        (OfHandler (Contract app req history (initialState app schemaContext history traceId req))))
    {events : List (ProcessEvent ε)} {rest : ProcessProg ε Reply}
    (h : Reaches (drawing req k) events rest) (htold : ∀ e ∈ events, ToHandler (LoadsKept app) e) :
    ∃ history s₀, Kept app history ∧ StartsFrom app req history s₀ ∧
      ∀ e ∈ events, OfHandler (Contract app req history s₀) e.1 := by
  have hnone : (∀ s₀, ∀ e ∈ events, OfHandler (Contract app req {} s₀) e.1) →
      ∃ history s₀, Kept app history ∧ StartsFrom app req history s₀ ∧
        ∀ e ∈ events, OfHandler (Contract app req history s₀) e.1 :=
    fun hevents => ⟨{}, _, kept_default app, ⟨"", "", rfl⟩, hevents _⟩
  cases h with
  | refl => exact hnone fun _ => List.forall_mem_nil _
  | @ask _ _ schemaContext _ _ h =>
    cases h with
    | refl => exact hnone fun _ => List.forall_mem_singleton.2 trivial
    | @ask _ _ history _ _ h =>
      have hhistory : Kept app history := htold _ (List.mem_cons_of_mem _ List.mem_cons_self)
      cases h with
      | refl =>
        exact hnone fun _ => List.forall_mem_cons.2 ⟨trivial, List.forall_mem_singleton.2 trivial⟩
      | @ask _ _ traceId later _ h =>
        refine ⟨history, _, hhistory, ⟨schemaContext, traceId, rfl⟩, ?_⟩
        refine List.forall_mem_cons.2 ⟨trivial, List.forall_mem_cons.2 ⟨trivial,
          List.forall_mem_cons.2 ⟨trivial, fun e he => ?_⟩⟩⟩
        obtain ⟨pre, post, rfl⟩ := List.append_of_mem he
        exact h.asked (hk schemaContext history traceId hhistory) fun e _ => toHandler_true e

end UniversityQA.Guarantees
