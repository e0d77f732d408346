import UniversityQA.Agent.Runs

/-!
# The log lines of a run

What the nodes write to the log, read against the supersteps.  A node that is
left writes two lines, one when it starts and one that closes it.

* `Told t tr visits`: along `tr` the log tells the visits, each with its
  closing event, under the identifiers of `t`;
* `attempts_told`, `graphRun_told`: the log of a run that returns;
* `graphRun_ids`: the identifiers, whatever becomes of the run.
-/

namespace UniversityQA.Agent

open UniversityQA.Py UniversityQA.Db Coroutine

/-- The log lines, in order. -/
def records : List AgentEvent → List LogRecord :=
  List.filterMap fun
    | ⟨.log record, _⟩ => some record
    | _ => none

@[simp] theorem records_append (t₁ t₂ : List AgentEvent) :
    records (t₁ ++ t₂) = records t₁ ++ records t₂ := List.filterMap_append

/-- The events that close a node. -/
def NodeEvent.closes : NodeEvent → Bool
  | .end_ | .error | .retry | .clarify => true
  | .start | .skip => false

/-- A node and the event that closed it. -/
abbrev Visit := Node × NodeEvent

/-- The two lines of a visit. -/
def Visit.lines (v : Visit) : List (String × NodeEvent) := [(v.1.name, .start), (v.1.name, v.2)]

/-- The status a run has ended in, by the line it wrote last. -/
def statusTold (node : String) (event : NodeEvent) : AgentStatus :=
  match event with
  | .clarify => .askingClarification
  | .end_ => if node = Node.answerFormatter.name then .done else .error
  | _ => .error

def LogRecord.OfTracer (t : Tracer) (r : LogRecord) : Prop :=
  r.traceId = t.traceId ∧ r.sessionId = t.sessionId

/-- Along `tr` the log tells `visits`. -/
structure Told (t : Tracer) (tr : List AgentEvent) (visits : List Visit) : Prop where
  visited : (supersteps tr).map Prod.fst = visits.map Prod.fst
  lines : (records tr).map (fun r => (r.node, r.event)) = visits.flatMap Visit.lines
  closes : ∀ v ∈ visits, v.2.closes = true
  ids : ∀ r ∈ records tr, r.OfTracer t

theorem Told.append {t : Tracer} {t₁ t₂ : List AgentEvent} {v₁ v₂ : List Visit}
    (h₁ : Told t t₁ v₁) (h₂ : Told t t₂ v₂) : Told t (t₁ ++ t₂) (v₁ ++ v₂) where
  visited := by rw [supersteps_append, List.map_append, List.map_append, h₁.visited, h₂.visited]
  lines := by rw [records_append, List.map_append, List.flatMap_append, h₁.lines, h₂.lines]
  closes v hv := (List.mem_append.1 hv).elim (h₁.closes v) (h₂.closes v)
  ids r hr := by
    rw [records_append] at hr
    exact (List.mem_append.1 hr).elim (h₁.ids r) (h₂.ids r)

/-! ## One visit -/

/-- The events of a node between its two lines. -/
structure Quiet (tr : List AgentEvent) : Prop where
  supersteps : supersteps tr = []
  records : records tr = []

theorem quiet_replied (c : Configurable) (prompt : Prompt) (reply : Except String String) :
    Quiet [replied c prompt reply] := ⟨rfl, rfl⟩

theorem quiet_executed (sql : String) (result : Except String (List Row)) :
    Quiet [executed sql result] := ⟨rfl, rfl⟩

theorem Quiet.append {t₁ t₂ : List AgentEvent} (h₁ : Quiet t₁) (h₂ : Quiet t₂) :
    Quiet (t₁ ++ t₂) where
  supersteps := by rw [supersteps_append, h₁.supersteps, h₂.supersteps, List.append_nil]
  records := by rw [records_append, h₁.records, h₂.records, List.append_nil]

theorem quiet_merges {c : Configurable} {s : AgentState} {tm : List AgentEvent} {intent : String}
    (h : Merges s c tm intent) : Quiet tm := by
  cases h with
  | continuation content hc => exact quiet_replied c _ _
  | fresh hc => exact ⟨rfl, rfl⟩

/-- A node that is entered, starts, works and closes. -/
def visitEvents (s : AgentState) (n : Node) (kwargs : JsonObject) (work : List AgentEvent)
    (closing : AgentEvent) : List AgentEvent :=
  [entered n s, logged s.tracer n .start kwargs] ++ work ++ [closing]

theorem told_visit (s : AgentState) (n : Node) (kwargs kwargs' : JsonObject)
    {work : List AgentEvent} (hwork : Quiet work) {event : NodeEvent} (hevent : event.closes = true) :
    Told s.tracer (visitEvents s n kwargs work (logged s.tracer n event kwargs')) [(n, event)] where
  visited := by
    rw [visitEvents, supersteps_append, supersteps_append, hwork.supersteps]
    rfl
  lines := by
    rw [visitEvents, records_append, records_append, hwork.records]
    rfl
  closes v hv := by
    rw [List.mem_singleton.1 hv]
    exact hevent
  ids r hr := by
    rw [visitEvents, records_append, records_append, hwork.records, List.append_nil] at hr
    rcases List.mem_pair.1 hr with rfl | rfl
    · exact ⟨rfl, rfl⟩
    · exact ⟨rfl, rfl⟩

section Visits

variable (c : Configurable) (s : AgentState)

/-- The event that closes the analyzer. -/
def Verdict.event : Verdict → NodeEvent
  | .undecodable | .limitReached => .error
  | .answerable | .outOfScope _ => .end_
  | .ask _ => .clarify

theorem told_classify {tm : List AgentEvent} {intent : String} (hm : Merges s c tm intent)
    (content : String) (v : Verdict) :
    Told s.tracer (classifyEvents c s tm intent content v) [(.questionAnalyzer, v.event)] := by
  have hwork := (quiet_merges hm).append
    (quiet_replied c (.classifier intent s.schemaContext) (.ok content))
  have hevents : classifyEvents c s tm intent content v =
      visitEvents s .questionAnalyzer []
        (tm ++ [replied c (.classifier intent s.schemaContext) (.ok content)]) (v.closing s) := by
    simp [classifyEvents, visitEvents, analyzerStart]
  rw [hevents]
  cases v with
  | undecodable => exact told_visit s _ _ _ hwork rfl
  | answerable => exact told_visit s _ _ _ hwork rfl
  | ask q => exact told_visit s _ _ _ hwork rfl
  | limitReached => exact told_visit s _ _ _ hwork rfl
  | outOfScope reason => exact told_visit s _ _ _ hwork rfl

theorem told_generate (content : String) :
    Told s.tracer (generateEvents c s content) [(.sqlGenerator, .end_)] :=
  told_visit s .sqlGenerator _ _ (quiet_replied c (sqlPrompt s c) (.ok content)) rfl

theorem quiet_nil : Quiet [] := ⟨rfl, rfl⟩

theorem told_check : Told s.tracer (checkEvents s) [(.sqlValidator, .end_)] :=
  told_visit s .sqlValidator [] [("valid", .bool true)] quiet_nil rfl

theorem told_reject (message : String) :
    Told s.tracer (rejectEvents s message) [(.sqlValidator, .error)] :=
  told_visit s .sqlValidator [] [("reason", .str message)] quiet_nil rfl

theorem told_execute (result : Except String (List Row)) {event : NodeEvent} (kwargs : JsonObject)
    (hevent : event.closes = true) :
    Told s.tracer (executeEvents s result (logged s.tracer .sqlExecutor event kwargs))
      [(.sqlExecutor, event)] :=
  told_visit s .sqlExecutor _ _ (quiet_executed (orElse s.sql "") result) hevent

theorem told_format (content : String) :
    Told s.tracer (formatEvents c s content) [(.answerFormatter, .end_)] :=
  told_visit s .answerFormatter _ _ (quiet_replied c (answerPrompt s c) (.ok content)) rfl

/-- The visits of a round that comes to the executor. -/
def roundVisits (event : NodeEvent) : List Visit :=
  [(.sqlGenerator, .end_), (.sqlValidator, .end_), (.sqlExecutor, event)]

theorem told_round (content : String) (result : Except String (List Row)) {event : NodeEvent}
    (kwargs : JsonObject) (hevent : event.closes = true) :
    Told s.tracer (roundEvents c s content result
      (logged s.tracer .sqlExecutor event kwargs)) (roundVisits event) :=
  ((told_generate c s content).append (told_check (s.generated content))).append
    (told_execute (s.approved content) result kwargs hevent)

end Visits

/-! ## Runs that return -/

def retries (visits : List Visit) : Nat := visits.countP fun v => v.2 = .retry

theorem retries_append (v₁ v₂ : List Visit) : retries (v₁ ++ v₂) = retries v₁ + retries v₂ :=
  List.countP_append

/-- **The loop.** -/
theorem attempts_told {c : Configurable} {s result : AgentState} {tr : List AgentEvent}
    (h : Attempts c s tr (.ok result)) :
    ∃ visits last, Told s.tracer tr (visits ++ [last]) ∧
      s.retryCount + retries (visits ++ [last]) = result.retryCount ∧
      result.status = statusTold last.1.name last.2 := by
  generalize ho : Except.ok result = o at h
  induction h with
  | generatorRaised text => cases ho
  | @rejected s content message hv =>
    cases ho
    exact ⟨[(.sqlGenerator, .end_)], (.sqlValidator, .error),
      (told_generate c s content).append (told_reject (s.generated content) message),
      Int.add_zero s.retryCount, rfl⟩
  | @exhausted s content errorMsg hv hr =>
    cases ho
    exact ⟨[(.sqlGenerator, .end_), (.sqlValidator, .end_)], (.sqlExecutor, .error),
      told_round c s content (.error errorMsg) _ rfl, Int.add_zero s.retryCount, rfl⟩
  | formatterRaised content results text hv hf => cases ho
  | @answered s f content results answer hv hf =>
    cases ho
    subst hf
    exact ⟨roundVisits .end_, (.answerFormatter, .end_),
      (told_round c s content (.ok results) _ rfl).append
        (told_format c ((s.approved content).fetched results) answer),
      Int.add_zero s.retryCount, by rfl⟩
  | @retried s t o content errorMsg hv hr ha ih =>
    obtain ⟨visits, last, htold, hcount, hstatus⟩ := ih ho
    refine ⟨roundVisits .retry ++ visits, last, ?_, ?_, hstatus⟩
    · rw [List.append_assoc]
      exact (told_round c s content (.error errorMsg) _ rfl).append htold
    · have hround : retries (roundVisits .retry) = 1 := rfl
      rw [List.append_assoc, retries_append, hround, ← hcount, AgentState.retryCount_retried,
        AgentState.retryCount_approved]
      push_cast
      omega

theorem statusTold_closing (v : Verdict) (hne : v ≠ .answerable) (s : AgentState) (intent : String) :
    (s.classified v intent).status = statusTold Node.questionAnalyzer.name v.event := by
  cases v with
  | answerable => exact absurd rfl hne
  | undecodable => rfl
  | ask q => rfl
  | limitReached => rfl
  | outOfScope reason => rfl

theorem retries_verdict (v : Verdict) : retries [(.questionAnalyzer, v.event)] = 0 := by
  cases v <;> rfl

/-- **The log of a run that returns.** -/
theorem graphRun_told {c : Configurable} {s result : AgentState} {tr : List AgentEvent}
    (h : GraphRun c s tr (.ok result)) :
    ∃ visits last, Told s.tracer tr (visits ++ [last]) ∧
      s.retryCount + retries (visits ++ [last]) = result.retryCount ∧
      result.status = statusTold last.1.name last.2 := by
  generalize ho : Except.ok result = o at h
  cases h with
  | raised ha => cases ho
  | @stopped tm intent v content hm hv hne =>
    cases ho
    refine ⟨[], (.questionAnalyzer, v.event), told_classify c s hm content v, ?_,
      statusTold_closing v hne s intent⟩
    rw [List.nil_append, retries_verdict, AgentState.retryCount_classified]
    exact Int.add_zero s.retryCount
  | @attempted tm intent t _ content hm hv ha =>
    subst ho
    obtain ⟨visits, last, htold, hcount, hstatus⟩ := attempts_told ha
    refine ⟨(.questionAnalyzer, .end_) :: visits, last, ?_, ?_, hstatus⟩
    · exact (told_classify c s hm content .answerable).append htold
    · have hclassify := retries_append [(.questionAnalyzer, .end_)] (visits ++ [last])
      rw [AgentState.retryCount_classified] at hcount
      rw [List.cons_append, ← List.singleton_append, hclassify, ← hcount]
      simp [retries]

/-! ## Identifiers -/

/-- Every line carries the identifiers of the tracer. -/
def Identified (t : Tracer) (tr : List AgentEvent) : Prop := ∀ r ∈ records tr, r.OfTracer t

theorem Identified.append {t : Tracer} {t₁ t₂ : List AgentEvent} (h₁ : Identified t t₁)
    (h₂ : Identified t t₂) : Identified t (t₁ ++ t₂) := by
  intro r hr
  rw [records_append] at hr
  exact (List.mem_append.1 hr).elim (h₁ r) (h₂ r)

theorem Quiet.identified {tr : List AgentEvent} (h : Quiet tr) (t : Tracer) : Identified t tr := by
  intro r hr
  rw [h.records] at hr
  cases hr

/-- A node that raises has written its first line only. -/
theorem identified_raised (s : AgentState) (n : Node) (kwargs : JsonObject) {work : List AgentEvent}
    (hwork : Quiet work) :
    Identified s.tracer (entered n s :: logged s.tracer n .start kwargs :: work) := by
  have hstart : Identified s.tracer [entered n s, logged s.tracer n .start kwargs] := by
    intro r hr
    rw [List.mem_singleton.1 hr]
    exact ⟨rfl, rfl⟩
  exact hstart.append (hwork.identified s.tracer)

theorem attempts_ids {c : Configurable} {s : AgentState} {tr : List AgentEvent}
    {o : Except PyException AgentState} (h : Attempts c s tr o) : Identified s.tracer tr := by
  induction h with
  | @generatorRaised s text =>
    exact identified_raised s .sqlGenerator _ (quiet_replied c (sqlPrompt s c) (.error text))
  | @rejected s content message hv =>
    exact Identified.append (told_generate c s content).ids
      (told_reject (s.generated content) message).ids
  | @exhausted s content errorMsg hv hr =>
    exact (told_round c s content (.error errorMsg) _ rfl).ids
  | @formatterRaised s f content results text hv hf =>
    subst hf
    exact Identified.append (told_round c s content (.ok results) _ rfl).ids
      (identified_raised ((s.approved content).fetched results) .answerFormatter _
        (quiet_replied c _ (.error text)))
  | @answered s f content results answer hv hf =>
    subst hf
    exact Identified.append (told_round c s content (.ok results) _ rfl).ids
      (told_format c ((s.approved content).fetched results) answer).ids
  | @retried s t o content errorMsg hv hr ha ih =>
    exact Identified.append (told_round c s content (.error errorMsg) _ rfl).ids ih

theorem analyzer_ids {c : Configurable} {s : AgentState} {tr : List AgentEvent} {e : PyException}
    (h : AnalyzerRun s c tr (.error e)) :
    Identified s.tracer (entered .questionAnalyzer s :: tr) := by
  cases h with
  | mergerRaised text hc =>
    exact identified_raised s .questionAnalyzer [] (quiet_replied c (mergerPrompt s) (.error text))
  | classifierRaised text hm =>
    exact identified_raised s .questionAnalyzer [] ((quiet_merges hm).append (quiet_replied ..))
  | unhandled content hm hv =>
    exact identified_raised s .questionAnalyzer [] ((quiet_merges hm).append (quiet_replied ..))

/-- **The identifiers of a run.** -/
theorem graphRun_ids {c : Configurable} {s : AgentState} {tr : List AgentEvent}
    {o : Except PyException AgentState} (h : GraphRun c s tr o) : Identified s.tracer tr := by
  cases h with
  | raised ha => exact analyzer_ids ha
  | @stopped tm intent v content hm hv hne => exact (told_classify c s hm content v).ids
  | @attempted tm intent t _ content hm hv ha =>
    have hloop : Identified (s.classified .answerable intent).tracer t := attempts_ids ha
    exact Identified.append (told_classify c s hm content .answerable).ids hloop

end UniversityQA.Agent
