import Mathlib.Data.List.Nodup
import UniversityQA.Agent.LogLines
import UniversityQA.Guarantees.ConcurrentTurns

/-!
# The log tells the run

All requests write to one log, line by line as they take turns.

* `linesOf traceId tr`: the lines with one trace id, in order;
* `linesOf_eq`: they are the lines of one request where no two requests have
  drawn the same id;
* `log_tells_the_run`: from them the visits of its graph run can be read, the
  retries and the status it ended in.
-/

namespace UniversityQA.Guarantees

open UniversityQA.Py UniversityQA.Agent UniversityQA.Api Coroutine

variable {ι : Type}

/-- The whole log. -/
def logLines (tr : List (ι × ChatEvent)) : List LogRecord := records (agentEvents (tr.map Prod.snd))

def linesOf (traceId : String) (tr : List (ι × ChatEvent)) : List LogRecord :=
  (logLines tr).filter fun r => r.traceId = traceId

/-- The draws of trace ids, in order. -/
def draws : List (ι × ChatEvent) → List (ι × String) :=
  List.filterMap fun
    | (i, ⟨.inr .uuid4, traceId⟩) => some (i, traceId)
    | _ => none

def drawn (traceId : String) : ChatEvent := ⟨.inr .uuid4, traceId⟩

/-- In the events of a request so far its graph run, under `traceId`, has
returned `result`. -/
def GraphReturned (app : App) (req : ChatRequest) (events : List ChatEvent) (traceId : String)
    (result : AgentState) : Prop :=
  ∃ schemaContext history, loadEvents schemaContext history traceId req <+: events ∧
    Runs (ainvokeGraph app.configurable (initialState app schemaContext history traceId req))
      (agentEvents events) (.ok result)

/-- What the lines of a run tell about it: they go in pairs, each of a node's
start and its one closing line, in the order of the visits. -/
structure TellsRun (sessionId : String) (visited : List Node) (result : AgentState)
    (lines : List LogRecord) : Prop where
  session : ∀ r ∈ lines, r.sessionId = sessionId
  pairs : ∃ visits : List Visit, visits.map Prod.fst = visited ∧
    (∀ v ∈ visits, v.2.closes = true) ∧
    lines.map (fun r => (r.node, r.event)) = visits.flatMap Visit.lines
  retries : (lines.countP fun r => r.event = .retry : Int) = result.retryCount
  status : ∃ last, lines.getLast? = some last ∧ result.status = statusTold last.node last.event

/-! ## One request -/

instance (q : ChatQuery) : Nonempty (ChatAnswer q) := by
  rcases q with q | q
  · cases q with
    | ainvoke prompt messages => exact ⟨(.ok "" : Except String String)⟩
    | executeQuery sql => exact ⟨(.ok [] : Except String (List Db.Row))⟩
    | log record => exact ⟨()⟩
    | superstep node state => exact ⟨()⟩
  · cases q with
    | schemaContext => exact ⟨("" : String)⟩
    | getSession sessionId => exact ⟨SessionStore.empty.get sessionId⟩
    | uuid4 => exact ⟨("" : String)⟩
    | saveSession sessionId history => exact ⟨()⟩

theorem chatTrace_split {app : App} {req : ChatRequest} {history : ConversationHistory}
    {events : List ChatEvent} {o : Except PyException ChatReply}
    {written : Option ConversationHistory} (h : ChatTrace app req history events o written) :
    ∃ schemaContext traceId rest, events = loadEvents schemaContext history traceId req ++ rest ∧
      ∀ r ∈ records (agentEvents rest), r.traceId = traceId ∧ r.sessionId = req.sessionId := by
  cases h with
  | @failed t e schemaContext traceId hrun =>
    refine ⟨schemaContext, traceId, t.map Event.inl, rfl, fun r hr => ?_⟩
    rw [agentEvents_inl] at hr
    exact graphRun_ids (ainvoke_run hrun) r hr
  | @completed t result schemaContext traceId hrun =>
    refine ⟨schemaContext, traceId,
      t.map Event.inl ++ [saved req.sessionId (nextHistory history req result)],
      List.append_assoc .., fun r hr => ?_⟩
    rw [agentEvents_append, agentEvents_inl] at hr
    have hsaved : agentEvents [saved req.sessionId (nextHistory history req result)] = [] := rfl
    rw [hsaved, List.append_nil] at hr
    exact graphRun_ids (ainvoke_run hrun) r hr

/-- A request writes no line before it has drawn its trace id, and every line
under that id and its session id. -/
theorem reaches_log {app : App} {req : ChatRequest} {events : List ChatEvent}
    {p : ChatProg ChatReply} (h : Reaches (chat app req) events p) {r : LogRecord}
    (hr : r ∈ records (agentEvents events)) :
    drawn r.traceId ∈ events ∧ r.sessionId = req.sessionId := by
  obtain ⟨later, o, hrun⟩ := h.completes
  obtain ⟨history, written, htrace⟩ := chat_trace hrun
  obtain ⟨schemaContext, traceId, rest, hsplit, hids⟩ := chatTrace_split htrace
  have hquiet : agentEvents (loadEvents schemaContext history traceId req) = [] := rfl
  rcases List.append_eq_append_iff.1 hsplit with ⟨a, hload, -⟩ | ⟨b, rfl, rfl⟩
  · -- the lines would stand among the three first events
    rw [hload, agentEvents_append] at hquiet
    rw [(List.append_eq_nil_iff.1 hquiet).1] at hr
    cases hr
  · rw [agentEvents_append, hquiet, List.nil_append] at hr
    have hmem : r ∈ records (agentEvents (b ++ later)) := by
      rw [agentEvents_append, records_append]
      exact List.mem_append_left _ hr
    obtain ⟨rfl, hsession⟩ := hids r hmem
    exact ⟨List.mem_append_left _ (by simp [loadEvents, drawn]), hsession⟩

/-! ## All requests -/

theorem logLines_cons (j : ι) (e : ChatEvent) (tr : List (ι × ChatEvent)) :
    logLines ((j, e) :: tr) = records (agentEvents [e]) ++ logLines tr := by
  rw [logLines, List.map_cons, ← List.singleton_append, agentEvents_append, records_append]
  rfl

section Requests

variable [DecidableEq ι]

theorem records_eventsOf_cons (i j : ι) (e : ChatEvent) (tr : List (ι × ChatEvent)) :
    records (agentEvents (eventsOf i ((j, e) :: tr))) =
      (if j = i then records (agentEvents [e]) else []) ++ records (agentEvents (eventsOf i tr)) := by
  by_cases hj : j = i
  · subst hj
    rw [eventsOf_cons_self, if_pos rfl, ← List.singleton_append, agentEvents_append, records_append]
  · rw [eventsOf_cons_ne hj, if_neg hj, List.nil_append]

/-- **The lines of one id are those of one request.** -/
theorem linesOf_eq {traceId : String} {i : ι} {tr : List (ι × ChatEvent)}
    (hown : ∀ r ∈ records (agentEvents (eventsOf i tr)), r.traceId = traceId)
    (hothers : ∀ j, j ≠ i → ∀ r ∈ records (agentEvents (eventsOf j tr)), r.traceId ≠ traceId) :
    linesOf traceId tr = records (agentEvents (eventsOf i tr)) := by
  induction tr with
  | nil => rfl
  | cons x tr ih =>
    obtain ⟨j, e⟩ := x
    simp only [records_eventsOf_cons, List.forall_mem_append] at hown hothers
    have hrest := ih hown.2 fun k hk => (hothers k hk).2
    rw [linesOf, logLines_cons, List.filter_append, ← linesOf, hrest, records_eventsOf_cons]
    congr 1
    by_cases hj : j = i
    · rw [if_pos hj] at hown ⊢
      rw [List.filter_eq_self]
      intro r hr
      exact decide_eq_true (hown.1 r hr)
    · rw [if_neg hj, List.filter_eq_nil_iff]
      intro r hr hid
      have hother := (hothers j hj).1
      rw [if_pos rfl] at hother
      exact hother r hr (of_decide_eq_true hid)

theorem mem_draws {i : ι} {traceId : String} {tr : List (ι × ChatEvent)}
    (h : drawn traceId ∈ eventsOf i tr) : (i, traceId) ∈ draws tr :=
  List.mem_filterMap.2 ⟨(i, drawn traceId), mem_eventsOf.1 h, rfl⟩

theorem eq_of_drawn {i j : ι} {traceId : String} {tr : List (ι × ChatEvent)}
    (hdistinct : ((draws tr).map Prod.snd).Nodup) (hi : drawn traceId ∈ eventsOf i tr)
    (hj : drawn traceId ∈ eventsOf j tr) : i = j := by
  have hpair := List.inj_on_of_nodup_map hdistinct (mem_draws hi) (mem_draws hj) rfl
  exact congrArg Prod.fst hpair

end Requests

/-! ## Reading the lines -/

theorem countP_lines (visits : List Visit) :
    (visits.flatMap Visit.lines).countP (fun l => l.2 = .retry) = retries visits := by
  induction visits with
  | nil => rfl
  | cons v visits ih =>
    have hstart : NodeEvent.start ≠ .retry := by decide
    rw [List.flatMap_cons, List.countP_append, ih, retries, retries, List.countP_cons]
    simp only [Visit.lines, List.countP_cons, List.countP_nil, hstart]
    simp [Nat.add_comm]

/-- The lines of a told run tell it. -/
theorem tellsRun_of_told {t : Tracer} {tr : List AgentEvent} {visits : List Visit} {last : Visit}
    {result : AgentState} (h : Told t tr (visits ++ [last]))
    (hcount : (retries (visits ++ [last]) : Int) = result.retryCount)
    (hstatus : result.status = statusTold last.1.name last.2) :
    TellsRun t.sessionId ((supersteps tr).map Prod.fst) result (records tr) where
  session r hr := (h.ids r hr).2
  pairs := ⟨visits ++ [last], h.visited.symm, h.closes, h.lines⟩
  retries := by
    rw [← hcount, ← countP_lines, ← h.lines, List.countP_map]
    rfl
  status := by
    have hlines := congrArg List.getLast? h.lines
    rw [List.getLast?_map, List.flatMap_append, List.getLast?_append] at hlines
    cases hlast : (records tr).getLast? with
    | none =>
      rw [hlast] at hlines
      cases hlines
    | some r =>
      rw [hlast] at hlines
      refine ⟨r, rfl, ?_⟩
      have hpair : (r.node, r.event) = (last.1.name, last.2) := Option.some.inj hlines
      rw [hstatus, ← (Prod.mk.inj hpair).1, ← (Prod.mk.inj hpair).2]

/-- **The log tells the run.** -/
theorem log_tells_the_run [DecidableEq ι] {app : App} {reqs : ι → ChatRequest}
    {st st' : SessionStore} {tr : List (ι × ChatEvent)} {pool : ι → ChatProg ChatReply}
    (h : Turns chatStep (fun i => chat app (reqs i)) st tr pool st')
    (hdistinct : ((draws tr).map Prod.snd).Nodup) {i : ι} {traceId : String} {result : AgentState}
    (hreturned : GraphReturned app (reqs i) (eventsOf i tr) traceId result) :
    TellsRun (reqs i).sessionId ((supersteps (agentEvents (eventsOf i tr))).map Prod.fst) result
      (linesOf traceId tr) := by
  obtain ⟨schemaContext, history, hload, hrun⟩ := hreturned
  obtain ⟨visits, last, htold, hcount, hstatus⟩ := graphRun_told (ainvoke_run hrun)
  have hdrawn : drawn traceId ∈ eventsOf i tr := hload.subset (by simp [loadEvents, drawn])
  have hlines : linesOf traceId tr = records (agentEvents (eventsOf i tr)) := by
    refine linesOf_eq (fun r hr => (htold.ids r hr).1) fun j hj r hr hid => ?_
    obtain ⟨hother, -⟩ := reaches_log (h.reaches j) hr
    rw [hid] at hother
    exact hj (eq_of_drawn hdistinct hother hdrawn)
  rw [hlines]
  have hzero : (initialState app schemaContext history traceId (reqs i)).retryCount = 0 := rfl
  rw [hzero, Int.zero_add] at hcount
  exact tellsRun_of_told htold hcount hstatus

/-! ## Two requests at once -/

/-- The graph run of a request that came to save has returned. -/
theorem graphReturned_of_saves {app : App} {req : ChatRequest} {events : List ChatEvent}
    {o : Except PyException ChatReply} (h : Runs (chat app req) events o)
    (hsaves : saves req.sessionId events ≠ []) :
    ∃ traceId result, GraphReturned app req events traceId result := by
  obtain ⟨history, written, htrace⟩ := chat_trace h
  cases htrace with
  | failed schemaContext traceId hrun => exact absurd (saves_loaded ..) hsaves
  | @completed t result schemaContext traceId hrun =>
    refine ⟨traceId, result, schemaContext, history, ?_, ?_⟩
    · rw [List.append_assoc]
      exact List.prefix_append _ _
    · rw [agentEvents_request schemaContext traceId history req t _ rfl]
      exact hrun

/-- Two requests that take turns line by line, with ids of their own. -/
def lineByLine : List (Bool × ChatEvent) × (Bool → ChatProg ChatReply) × (SessionStore × Nat) :=
  concurrent { sampleWorld (selectsOne "") with uuid4 := fun n => toString n } sampleApp twoRequests
    ((List.replicate 40 [false, true]).flatten)

theorem lineByLine_eq : lineByLine =
    concurrent { sampleWorld (selectsOne "") with uuid4 := fun n => toString n } sampleApp
      twoRequests ((List.replicate 40 [false, true]).flatten) := by
  unfold lineByLine
  with_reducible rfl

/-- Both requests end, the first saves once, and the trace ids differ. -/
theorem lineByLine_ends :
    (∀ i, (lineByLine.2.1 i).outcome.isSome = true) ∧
      (saves "s" (eventsOf false lineByLine.1)).length = 1 ∧
      ((draws lineByLine.1).map Prod.snd).Nodup := by
  decide +kernel

theorem log_tells_lineByLine : ∃ traceId result,
    GraphReturned sampleApp (twoRequests false) (eventsOf false lineByLine.1) traceId result ∧
      TellsRun "s" ((supersteps (agentEvents (eventsOf false lineByLine.1))).map Prod.fst) result
        (linesOf traceId lineByLine.1) := by
  obtain ⟨o, h⟩ := concurrent_interleaved _ _ _ _ lineByLine_eq lineByLine_ends.1
  have hsaves : saves (twoRequests false).sessionId (eventsOf false lineByLine.1) ≠ [] := by
    intro hnil
    have hone : (saves (twoRequests false).sessionId (eventsOf false lineByLine.1)).length = 1 :=
      lineByLine_ends.2.1
    rw [hnil] at hone
    cases hone
  obtain ⟨traceId, result, hreturned⟩ := graphReturned_of_saves (h.runs false) hsaves
  exact ⟨traceId, result, hreturned,
    log_tells_the_run h.turns lineByLine_ends.2.2 hreturned⟩

end UniversityQA.Guarantees
