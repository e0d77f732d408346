import UniversityQA.Agent.SchemaPrompts
import UniversityQA.Api.Alone
import UniversityQA.Lib.Serial

/-!
# Sessions are isolated

Requests of any sessions and refreshes of the schema context run next to each
other.  As long as the requests of one session do not overlap, that session
cannot tell: it goes as it would alone, each request with the schema context
that was current when it began.

* `session_follows`: the programs of a session are all that happens to its
  entry;
* `sessions_isolated`: for every interleaving.
-/

namespace UniversityQA.Guarantees

open UniversityQA.Py UniversityQA.Agent UniversityQA.Api UniversityQA.Db Coroutine

variable {ι : Type} {llm : List BaseMessage → Except String String}
  {connector : String → Except String (List Row)} {app : App}

/-! ## Among other tasks -/

/-- The query is about no other session. -/
def OwnQuery (sessionId : String) : AppQuery → Prop
  | .inl (.inr (.getSession k)) => k = sessionId
  | .inl (.inr (.saveSession k _)) => k = sessionId
  | _ => True

/-- The query saves another session, if any. -/
def ForeignQuery (sessionId : String) : AppQuery → Prop
  | .inl (.inr (.saveSession k _)) => k ≠ sessionId
  | _ => True

theorem foreign_of_own {sessionId k : String} {q : AppQuery} (h : OwnQuery k q)
    (hk : k ≠ sessionId) : ForeignQuery sessionId q := by
  obtain (_ | _ | _ | _ | _) | _ := q
  case inl.inr.saveSession => exact fun heq => hk (h.symm.trans heq)
  all_goals trivial

theorem own_step {sessionId : String} {s s₁ : AppState} {q : ChatQuery} {a : ChatAnswer q}
    (h : appStep llm connector s (.inl q) a s₁) (hq : OwnQuery sessionId (.inl q))
    {st : SessionStore} (hst : st.store sessionId = s.sessions.store sessionId) :
    ∃ st₁, chatStep st q a st₁ ∧ st₁.store sessionId = s₁.sessions.store sessionId := by
  obtain _ | _ | k | _ | ⟨k, history⟩ := q
  · obtain ⟨-, rfl⟩ := h
    exact ⟨st, rfl, hst⟩
  · obtain ⟨-, rfl⟩ := h
    exact ⟨st, rfl, hst⟩
  · obtain ⟨rfl, rfl⟩ := h
    obtain rfl : k = sessionId := hq
    refine ⟨st, ⟨?_, rfl⟩, hst⟩
    rw [SessionStore.get, SessionStore.get, hst]
  · cases h
    exact ⟨st, rfl, hst⟩
  · cases h
    obtain rfl : k = sessionId := hq
    exact ⟨st.save k history, rfl, (if_pos rfl).trans (if_pos rfl).symm⟩

theorem foreign_step {sessionId : String} {s s₁ : AppState} {q : AppQuery} {a : AppAnswer q}
    (h : appStep llm connector s q a s₁) (hq : ForeignQuery sessionId q) :
    s₁.sessions.store sessionId = s.sessions.store sessionId := by
  obtain (_ | _ | _ | _ | ⟨k, history⟩) | (_ | _ | _ | _) := q
  · rw [h.2]
  · rw [h.2]
  · rw [h.2]
  · cases h
    rfl
  · cases h
    exact if_neg (Ne.symm hq)
  all_goals
    cases h
    rfl

/-- **Projection.**  The events of a session's own programs are all that
happens to its entry. -/
theorem session_follows {sessionId : String} {p : ι → Bool} {tr : List (ι × AppEvent)}
    (hown : ∀ x ∈ tr, p x.1 = true → ∃ q a, x.2 = ⟨.inl q, a⟩ ∧ OwnQuery sessionId (.inl q))
    (hforeign : ∀ x ∈ tr, ¬ p x.1 = true → ForeignQuery sessionId x.2.1)
    {s s' : AppState} (h : Follows (appStep llm connector) s (tr.map Prod.snd) s')
    {st : SessionStore} (hst : st.store sessionId = s.sessions.store sessionId) :
    ∃ st', Follows chatStep st (chatEvents ((ofPrograms p tr).map Prod.snd)) st' ∧
      st'.store sessionId = s'.sessions.store sessionId := by
  induction tr generalizing s st with
  | nil =>
    cases h
    exact ⟨st, rfl, hst⟩
  | cons x tr ih =>
    obtain ⟨s₁, hs, hrest⟩ := h
    obtain ⟨hx, htr⟩ := List.forall_mem_cons.mp hown
    obtain ⟨hx', htr'⟩ := List.forall_mem_cons.mp hforeign
    by_cases hp : p x.1 = true
    · obtain ⟨i, e⟩ := x
      obtain ⟨q, a, rfl, hq⟩ := hx hp
      obtain ⟨st₁, hst₁, hentry⟩ := own_step hs hq hst
      obtain ⟨st', hfollows, hend⟩ := ih htr htr' hrest hentry
      have hcons : ofPrograms p ((i, (⟨.inl q, a⟩ : AppEvent)) :: tr) =
          (i, ⟨.inl q, a⟩) :: ofPrograms p tr := List.filter_cons_of_pos hp
      rw [hcons]
      exact ⟨st', ⟨st₁, hst₁, hfollows⟩, hend⟩
    · have hcons : ofPrograms p (x :: tr) = ofPrograms p tr := List.filter_cons_of_neg hp
      rw [hcons]
      exact ih htr htr' hrest (hst.trans (foreign_step hs (hx' hp)).symm)

/-! ## The schema context of a request -/

/-- The schema context when the task began. -/
def schemaAtStart [DecidableEq ι] (i : ι) : String → List (ι × AppEvent) → String
  | schemaContext, [] => schemaContext
  | schemaContext, (j, e) :: tr =>
    if j = i then schemaContext else schemaAtStart i (schemaAfter schemaContext e) tr

theorem schemaAtStart_eq [DecidableEq ι] {i : ι} {tr : List (ι × AppEvent)} {s s' : AppState}
    (h : Follows (appStep llm connector) s (tr.map Prod.snd) s') {c : String}
    {rest : List AppEvent}
    (hi : eventsOf i tr = (⟨.inl (.inr .schemaContext), c⟩ : AppEvent) :: rest) :
    c = schemaAtStart i s.schemaContext tr := by
  induction tr generalizing s with
  | nil => cases hi
  | cons x tr ih =>
    obtain ⟨s₁, hs, hrest⟩ := h
    obtain ⟨j, e⟩ := x
    by_cases hj : j = i
    · subst hj
      rw [eventsOf_cons_self] at hi
      obtain ⟨rfl, -⟩ := List.cons.inj hi
      rw [schemaAtStart, if_pos rfl]
      exact hs.1
    · rw [eventsOf_cons_ne hj] at hi
      rw [schemaAtStart, if_neg hj, ← appStep_schemaContext hs]
      exact ih hrest hi

theorem follows_schemaContext {tr : List AppEvent} {s s' : AppState}
    (h : Follows (appStep llm connector) s tr s') :
    s'.schemaContext = tr.foldl schemaAfter s.schemaContext := by
  induction tr generalizing s with
  | nil =>
    cases h
    rfl
  | cons e tr ih =>
    obtain ⟨s₁, hs, hrest⟩ := h
    rw [List.foldl_cons, ← appStep_schemaContext hs]
    exact ih hrest

theorem failed_round_keeps (text : String) {e : AppEvent} (he : e ∈ refreshEvents (.error text))
    (schemaContext : String) : schemaAfter schemaContext e = schemaContext := by
  simp only [refreshEvents, List.mem_cons, List.not_mem_nil, or_false] at he
  rcases he with rfl | rfl | rfl <;> rfl

/-- A request reads the schema context first and then no more, and it keeps to
its session. -/
theorem chatTrace_shape {req : ChatRequest} {history : ConversationHistory} {tr : List ChatEvent}
    {o : Except PyException ChatReply} {written : Option ConversationHistory}
    (h : ChatTrace app req history tr o written) :
    ∃ c rest, tr = (⟨.inr .schemaContext, c⟩ : ChatEvent) :: rest ∧
      (∀ c', (⟨.inr .schemaContext, c'⟩ : ChatEvent) ∉ rest) ∧
      ∀ e ∈ tr, OwnQuery req.sessionId (.inl e.1) := by
  cases h with
  | @failed t e c traceId hrun =>
    refine ⟨c, ⟨.inr (.getSession req.sessionId), history⟩ :: ⟨.inr .uuid4, traceId⟩ ::
      t.map Event.inl, rfl, ?_, ?_⟩
    · intro c' hc'
      simp only [List.mem_cons, List.mem_map] at hc'
      rcases hc' with h | h | ⟨e', -, h⟩ <;> cases h
    · intro e he
      simp only [loadEvents, List.cons_append, List.nil_append, List.mem_cons, List.mem_map] at he
      rcases he with rfl | rfl | rfl | ⟨e', -, rfl⟩ <;> trivial
  | @completed t result c traceId hrun =>
    refine ⟨c, ⟨.inr (.getSession req.sessionId), history⟩ :: ⟨.inr .uuid4, traceId⟩ ::
      (t.map Event.inl ++ [saved req.sessionId (nextHistory history req result)]), rfl, ?_, ?_⟩
    · intro c' hc'
      simp only [List.mem_cons, List.mem_append, List.mem_map, List.not_mem_nil, or_false] at hc'
      rcases hc' with h | h | ⟨e', -, h⟩ | h <;> cases h
    · intro e he
      simp only [loadEvents, List.cons_append, List.nil_append, List.mem_cons, List.mem_append,
        List.mem_map, List.not_mem_nil, or_false] at he
      rcases he with rfl | rfl | rfl | ⟨e', -, rfl⟩ | rfl <;> trivial

/-- All calls of a request show the schema context it read. -/
theorem chatTrace_shows {req : ChatRequest} {history : ConversationHistory} {c : String}
    {rest : List ChatEvent} {o : Except PyException ChatReply}
    {written : Option ConversationHistory}
    (h : ChatTrace app req history ((⟨.inr .schemaContext, c⟩ : ChatEvent) :: rest) o written)
    {e : AgentEvent} (he : e ∈ agentEvents ((⟨.inr .schemaContext, c⟩ : ChatEvent) :: rest)) :
    ShowsSchema c e.1 := by
  generalize htr : (⟨.inr .schemaContext, c⟩ : ChatEvent) :: rest = tr at h he
  cases h with
  | @failed t e' c' traceId hrun =>
    obtain ⟨hhead, -⟩ := List.cons.inj htr
    cases hhead
    rw [agentEvents_loaded] at he
    exact asks_of_mem_runs (asks_showsSchema _ _) hrun he
  | @completed t result c' traceId hrun =>
    obtain ⟨hhead, -⟩ := List.cons.inj htr
    cases hhead
    rw [agentEvents_request _ _ _ _ _ _ rfl] at he
    exact asks_of_mem_runs (asks_showsSchema _ _) hrun he

/-! ## Every interleaving -/

section Interleaving

/-- Is the task a request of the session? -/
def inSession (tasks : ι → Task) (sessionId : String) (i : ι) : Bool :=
  match tasks i with
  | .chat req => req.sessionId == sessionId
  | .refresh _ => false

theorem inSession_iff {tasks : ι → Task} {sessionId : String} {i : ι} :
    inSession tasks sessionId i = true ↔ ∃ req, tasks i = .chat req ∧ req.sessionId = sessionId := by
  unfold inSession
  cases tasks i with
  | chat req => simp
  | refresh rounds => simp

theorem exists_requests {tasks : ι → Task} {order : List ι}
    (h : ∀ i ∈ order, ∃ req, tasks i = .chat req) :
    ∃ requests : List (ι × ChatRequest), requests.map Prod.fst = order ∧
      ∀ r ∈ requests, tasks r.1 = .chat r.2 := by
  induction order with
  | nil => exact ⟨[], rfl, fun r hr => by cases hr⟩
  | cons i order ih =>
    obtain ⟨⟨req, hi⟩, hrest⟩ := List.forall_mem_cons.mp h
    obtain ⟨requests, rfl, hrequests⟩ := ih hrest
    exact ⟨(i, req) :: requests, rfl, List.forall_mem_cons.mpr ⟨hi, hrequests⟩⟩

variable [DecidableEq ι]

/-- The requests of one session do not overlap. -/
def OneAtATime (tasks : ι → Task) (tr : List (ι × AppEvent)) : Prop :=
  ∀ i j req req', tasks i = .chat req → tasks j = .chat req' → req.sessionId = req'.sessionId →
    i ≠ j → Before tr i j ∨ Before tr j i

/-- All requests of a session in the order in which they ran. -/
structure RanInOrder (tasks : ι → Task) (tr : List (ι × AppEvent)) (sessionId : String)
    (requests : List (ι × ChatRequest)) : Prop where
  nodup : (requests.map Prod.fst).Nodup
  mem_iff : ∀ i req, (i, req) ∈ requests ↔ tasks i = .chat req ∧ req.sessionId = sessionId
  ordered : (requests.map Prod.fst).Pairwise (Before tr)

/-- What isolation means for a run from `s` to `s'`. -/
structure Isolated (llm : List BaseMessage → Except String String)
    (connector : String → Except String (List Row)) (app : App) (tasks : ι → Task)
    (s : AppState) (tr : List (ι × AppEvent)) (o : ι → Except PyException (Option ChatReply))
    (s' : AppState) : Prop where
  /-- The requests of a session are observed as they are alone, and leave the
  same entry, whatever the trace ids and the other sessions. -/
  session : ∀ sessionId, ∃ requests, RanInOrder tasks tr sessionId requests ∧
    ∀ (uuid4 : Nat → String) (st : SessionStore) (n : Nat),
      st.store sessionId = s.sessions.store sessionId →
      let served := alone llm connector uuid4 app (st, n)
        (requests.map fun r => (r.2, schemaAtStart r.1 s.schemaContext tr))
      served.1 = requests.map (fun r => observe (chatEvents (eventsOf r.1 tr)) (o r.1)) ∧
        served.2.1.store sessionId = s'.sessions.store sessionId
  /-- The events of the background task are those of its rounds, and no event
  of a round that raises changes the schema context. -/
  refresh : ∀ i rounds, tasks i = .refresh rounds →
    ∃ results : List (Except String (List ColumnRecord)), results.length = rounds ∧
      eventsOf i tr = results.flatMap refreshEvents ∧
      ∀ text, .error text ∈ results → ∀ e ∈ refreshEvents (.error text),
        ∀ schemaContext, schemaAfter schemaContext e = schemaContext
  /-- The schema context is at all times what the events so far have made it. -/
  schema : ∀ pre post, tr = pre ++ post → ∃ mid,
    Follows (appStep llm connector) s (pre.map Prod.snd) mid ∧
      mid.schemaContext = (pre.map Prod.snd).foldl schemaAfter s.schemaContext
  /-- All prompts of a request that show a schema context show the one that was
  current when it began. -/
  prompts : ∀ i req, tasks i = .chat req → ∀ (q : AgentQuery) (a : AgentReply q),
    (i, (⟨.inl (.inl q), a⟩ : AppEvent)) ∈ tr →
      ShowsSchema (schemaAtStart i s.schemaContext tr) q

variable {tasks : ι → Task} {s s' : AppState} {tr : List (ι × AppEvent)}
  {o : ι → Except PyException (Option ChatReply)}

/-- What a request did in the interleaved run. -/
theorem chat_part (h : Interleaved (appStep llm connector) (fun i => (tasks i).prog app) s tr o s')
    {i : ι} {req : ChatRequest} (hi : tasks i = .chat req) :
    ∃ t r history written, eventsOf i tr = t.map Event.inl ∧ Runs (chat app req) t r ∧
      o i = r.map some ∧ ChatTrace app req history t r written := by
  have hruns := h.runs i
  rw [hi] at hruns
  obtain ⟨t, r, hevents, hrun, ho⟩ := runs_chat_task hruns
  obtain ⟨history, written, htrace⟩ := chat_trace hrun
  exact ⟨t, r, history, written, hevents, hrun, ho, htrace⟩

/-- The answers to its queries. -/
theorem chat_part_answered
    (h : Interleaved (appStep llm connector) (fun i => (tasks i).prog app) s tr o s') {i : ι}
    {req : ChatRequest} (hi : tasks i = .chat req) :
    AnsweredBy llm connector (schemaAtStart i s.schemaContext tr)
      (chatEvents (eventsOf i tr)) := by
  obtain ⟨t, r, history, written, hevents, hrun, ho, htrace⟩ := chat_part h hi
  obtain ⟨c, rest, rfl, hrest, -⟩ := chatTrace_shape htrace
  have hcurrent := schemaAtStart_eq h.follows hevents
  rw [hevents, chatEvents_inl]
  constructor
  · intro e he
    have hmem : (⟨.inl (.inl e.1), e.2⟩ : AppEvent) ∈ tr.map Prod.snd := by
      refine List.mem_map.mpr ⟨(i, _), mem_eventsOf.mp ?_, rfl⟩
      rw [hevents]
      exact List.mem_map.mpr ⟨_, mem_agentEvents.mp he, rfl⟩
    obtain ⟨s₁, s₂, hstep⟩ := h.follows.step_of_mem hmem
    exact hstep.1
  · intro c' hc'
    rw [← hcurrent]
    rcases List.mem_cons.mp hc' with heq | hmem
    · cases heq
      rfl
    · exact absurd hmem (hrest c')

/-- The queries of the tasks, seen from a session. -/
theorem task_queries
    (h : Interleaved (appStep llm connector) (fun i => (tasks i).prog app) s tr o s')
    (sessionId : String) :
    (∀ x ∈ tr, inSession tasks sessionId x.1 = true →
      ∃ q a, x.2 = ⟨.inl q, a⟩ ∧ OwnQuery sessionId (.inl q)) ∧
    ∀ x ∈ tr, ¬ inSession tasks sessionId x.1 = true → ForeignQuery sessionId x.2.1 := by
  have hchat : ∀ x ∈ tr, ∀ req, tasks x.1 = .chat req →
      ∃ q a, x.2 = ⟨.inl q, a⟩ ∧ OwnQuery req.sessionId (.inl q) := by
    rintro ⟨i, e⟩ hx req hi
    obtain ⟨t, r, history, written, hevents, -, -, htrace⟩ := chat_part h hi
    obtain ⟨-, -, -, -, hown⟩ := chatTrace_shape htrace
    have hmem := mem_eventsOf.mpr hx
    rw [hevents] at hmem
    obtain ⟨e', he', rfl⟩ := List.mem_map.mp hmem
    exact ⟨e'.1, e'.2, rfl, hown e' he'⟩
  constructor
  · intro x hx hin
    obtain ⟨req, hi, rfl⟩ := inSession_iff.mp hin
    exact hchat x hx req hi
  · rintro ⟨i, e⟩ hx hin
    cases hi : tasks i with
    | chat req =>
      obtain ⟨q, a, rfl, hq⟩ := hchat _ hx req hi
      exact foreign_of_own hq fun hk => hin (inSession_iff.mpr ⟨req, hi, hk⟩)
    | refresh rounds =>
      have hruns := h.runs i
      rw [hi] at hruns
      obtain ⟨results, -, hevents⟩ := refresh_events hruns
      have hmem := mem_eventsOf.mpr hx
      rw [hevents] at hmem
      obtain ⟨result, -, he⟩ := List.mem_flatMap.mp hmem
      cases result with
      | ok rows =>
        simp only [refreshEvents, List.mem_cons, List.not_mem_nil, or_false] at he
        rcases he with rfl | rfl | rfl | rfl <;> trivial
      | error text =>
        simp only [refreshEvents, List.mem_cons, List.not_mem_nil, or_false] at he
        rcases he with rfl | rfl | rfl <;> trivial

theorem chatEvents_blocks {requests : List (ι × ChatRequest)} :
    chatEvents ((blocks tr (requests.map Prod.fst)).map Prod.snd) =
      requests.flatMap fun r => chatEvents (eventsOf r.1 tr) := by
  rw [blocks, List.flatMap_map, List.map_flatMap, chatEvents, List.filterMap_flatMap]
  refine List.flatMap_congr fun r _ => ?_
  rw [List.map_map]
  exact congrArg _ (List.map_id _)

/-- A session for itself. -/
theorem session_isolated
    (h : Interleaved (appStep llm connector) (fun i => (tasks i).prog app) s tr o s')
    (hserial : OneAtATime tasks tr) (sessionId : String) :
    ∃ requests, RanInOrder tasks tr sessionId requests ∧
      ∀ (uuid4 : Nat → String) (st : SessionStore) (n : Nat),
        st.store sessionId = s.sessions.store sessionId →
        let served := alone llm connector uuid4 app (st, n)
          (requests.map fun r => (r.2, schemaAtStart r.1 s.schemaContext tr))
        served.1 = requests.map (fun r => observe (chatEvents (eventsOf r.1 tr)) (o r.1)) ∧
          served.2.1.store sessionId = s'.sessions.store sessionId := by
  have happart : ∀ i j, inSession tasks sessionId i = true → inSession tasks sessionId j = true →
      i ≠ j → Before tr i j ∨ Before tr j i := by
    intro i j hi hj hij
    obtain ⟨req, hreq, hk⟩ := inSession_iff.mp hi
    obtain ⟨req', hreq', hk'⟩ := inSession_iff.mp hj
    exact hserial i j req req' hreq hreq' (hk.trans hk'.symm) hij
  obtain ⟨order, hnodup, hmem, hpairwise, htr⟩ := exists_serial _ happart
  have hchat : ∀ i ∈ order, ∃ req, tasks i = .chat req := by
    intro i hi
    obtain ⟨req, hreq, -⟩ := inSession_iff.mp ((hmem i).mp hi).1
    exact ⟨req, hreq⟩
  obtain ⟨requests, rfl, hrequests⟩ := exists_requests hchat
  have hsession : ∀ r ∈ requests, r.2.sessionId = sessionId := by
    intro r hr
    obtain ⟨req, hreq, hk⟩ := inSession_iff.mp ((hmem r.1).mp (List.mem_map_of_mem hr)).1
    rw [hrequests r hr] at hreq
    cases hreq
    exact hk
  refine ⟨requests, ⟨hnodup, fun i req => ⟨fun hr => ⟨hrequests _ hr, hsession _ hr⟩, ?_⟩,
    hpairwise⟩, fun uuid4 st n hst => ?_⟩
  · rintro ⟨hi, hk⟩
    obtain ⟨t, r, history, written, hevents, -, -, htrace⟩ := chat_part h hi
    obtain ⟨c, rest, rfl, -, -⟩ := chatTrace_shape htrace
    have hne : eventsOf i tr ≠ [] := by simp [hevents]
    obtain ⟨r', hr', rfl⟩ := List.mem_map.mp
      ((hmem i).mpr ⟨inSession_iff.mpr ⟨req, hi, hk⟩, hne⟩)
    have hreq := (hrequests r' hr').symm.trans hi
    cases hreq
    exact hr'
  · obtain ⟨hown, hforeign⟩ := task_queries h sessionId
    obtain ⟨st', hfollows, hend⟩ := session_follows hown hforeign h.follows hst
    rw [htr, chatEvents_blocks] at hfollows
    have hran : ∀ r ∈ requests, RanAs llm connector app sessionId r.2
        (schemaAtStart r.1 s.schemaContext tr) (chatEvents (eventsOf r.1 tr)) (o r.1) := by
      intro r hr
      obtain ⟨t, reply, history, written, hevents, hrun, ho, -⟩ := chat_part h (hrequests r hr)
      refine ⟨hsession r hr, chat_part_answered h (hrequests r hr), reply, ?_, ho⟩
      rw [hevents, chatEvents_inl]
      exact hrun
    obtain ⟨hobserved, hentry⟩ := alone_of_serial (s := (st, n))
      (fun i => chatEvents (eventsOf i tr)) o (fun i => schemaAtStart i s.schemaContext tr) uuid4
      hran hfollows rfl
    exact ⟨hobserved, hentry.trans hend⟩

/-- **Sessions are isolated.** -/
theorem sessions_isolated
    (h : Interleaved (appStep llm connector) (fun i => (tasks i).prog app) s tr o s')
    (hserial : OneAtATime tasks tr) : Isolated llm connector app tasks s tr o s' where
  session := session_isolated h hserial
  refresh i rounds hi := by
    have hruns := h.runs i
    rw [hi] at hruns
    obtain ⟨results, hlength, hevents⟩ := refresh_events hruns
    exact ⟨results, hlength, hevents, fun text _ e he => failed_round_keeps text he⟩
  schema pre post htr := by
    have hfollows := h.follows
    rw [htr, List.map_append] at hfollows
    obtain ⟨mid, hpre, -⟩ := follows_append.mp hfollows
    exact ⟨mid, hpre, follows_schemaContext hpre⟩
  prompts i req hi q a hmem := by
    obtain ⟨t, r, history, written, hevents, hrun, -, htrace⟩ := chat_part h hi
    obtain ⟨c, rest, rfl, -, -⟩ := chatTrace_shape htrace
    rw [← schemaAtStart_eq h.follows hevents]
    have hagent : (⟨q, a⟩ : AgentEvent) ∈
        agentEvents ((⟨.inr .schemaContext, c⟩ : ChatEvent) :: rest) := by
      have hevent := mem_eventsOf.mpr hmem
      rw [hevents] at hevent
      obtain ⟨⟨q', a'⟩, he, heq⟩ := List.mem_map.mp hevent
      cases heq
      exact mem_agentEvents.mpr he
    exact chatTrace_shows htrace hagent

end Interleaving

/-! ## Two sessions and the background task -/

/-- A chat model that finds every question answerable by `SELECT 1`. -/
def sampleLlm : List BaseMessage → Except String String
  | [.system _, .human text] =>
    if text.toList.take 12 = "User intent:".toList then .ok "\x7b\"status\": \"answerable\"\x7d"
    else .ok "SELECT 1"
  | _ => .error "unexpected"

/-- Requests of two sessions next to two rounds of the background task. -/
def busyTasks : Option Bool → Task
  | none => .refresh 2
  | some false => .chat sampleRequest
  | some true =>
    .chat { sampleRequest with sessionId := "t", sessionId_length := by decide }

/-- A connector without rows. -/
def noRows (_ : String) : Except String (List Row) := .ok []

/-- `fetch_schema` raises at first. -/
def fetchedLater (n : Nat) : Except String (List ColumnRecord) :=
  if n < 10 then .error "no connection" else .ok [⟨"t", "id", "integer", false, none⟩]

def emptyApp : AppState := ⟨"", SessionStore.empty⟩

/-- All take turns. -/
def busy : List (Option Bool × AppEvent) × (Option Bool → AppProg (Option ChatReply)) ×
    (AppState × Nat) :=
  together sampleLlm noRows fetchedLater (fun _ => "t") sampleApp busyTasks emptyApp
    (List.replicate 40 [some false, none, some true]).flatten

theorem busy_eq : busy = together sampleLlm noRows fetchedLater (fun _ => "t") sampleApp busyTasks
    emptyApp (List.replicate 40 [some false, none, some true]).flatten := by
  unfold busy
  with_reducible rfl

theorem busy_done (i : Option Bool) : (busy.2.1 i).outcome.isSome = true := by
  have hall : [none, some false, some true].all (fun i => (busy.2.1 i).outcome.isSome) = true := by
    decide +kernel
  exact List.all_eq_true.mp hall i (by rcases i with _ | _ | _ <;> simp)

theorem busy_interleaved :
    ∃ o, Interleaved (appStep sampleLlm noRows) (fun i => (busyTasks i).prog sampleApp) emptyApp
      busy.1 o busy.2.2.1 :=
  together_interleaved busy_eq busy_done

theorem busyTasks_session {i : Option Bool} {req : ChatRequest} (h : busyTasks i = .chat req) :
    i = some false ∧ req.sessionId = "s" ∨ i = some true ∧ req.sessionId = "t" := by
  rcases i with _ | _ | _
  · cases h
  · cases h
    exact .inl ⟨rfl, rfl⟩
  · cases h
    exact .inr ⟨rfl, rfl⟩

/-- There is one request in each session. -/
theorem busy_oneAtATime : OneAtATime busyTasks busy.1 := by
  intro i j req req' hi hj hk hij
  rcases busyTasks_session hi with ⟨rfl, hs⟩ | ⟨rfl, hs⟩ <;>
    rcases busyTasks_session hj with ⟨rfl, hs'⟩ | ⟨rfl, hs'⟩
  · exact absurd rfl hij
  · rw [hs, hs'] at hk
    exact absurd hk (by decide)
  · rw [hs, hs'] at hk
    exact absurd hk (by decide)
  · exact absurd rfl hij

theorem sessions_isolated_busy :
    ∃ o, Isolated sampleLlm noRows sampleApp busyTasks emptyApp busy.1 o busy.2.2.1 := by
  obtain ⟨o, hrun⟩ := busy_interleaved
  exact ⟨o, sessions_isolated hrun busy_oneAtATime⟩

end UniversityQA.Guarantees
