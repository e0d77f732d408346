import UniversityQA.Agent.Tracing
import UniversityQA.Guarantees.RunLog
import UniversityQA.Lib.Expansion
import UniversityQA.Py.Dict

/-!
# The log as text

The log is one text that all requests write to.  It can be cut into lines and
decoded, and what comes out are the records, whatever a question, a statement
or an error message in them looks like.

* `info_after_setups`: a line is written once, however often logging was set up;
* `chat_tidy`: the records of a request have no field twice, and no value that
  JSON cannot carry;
* `log_read_back`: the text of all requests.
-/

namespace UniversityQA.Guarantees

open UniversityQA.Py UniversityQA.Agent UniversityQA.Api Coroutine

variable {ι : Type}

/-! ## The logger -/

/-- **Once.**  However often logging was set up, with whatever levels: as soon
as one call has known its level, a line is written once, if the last such level
lets it through (`NOTSET` leaves that to the root logger).  Before that it also
goes where the root logger's lines go. -/
theorem info_after_setups (repr : String → String) (root : Root) (levels : List String)
    (message : String) :
    (setups repr levels {}).info root message =
      match lastLevel levels with
      | some n => if (if n = 0 then root.level else n) ≤ 20 then [message ++ "\n"] else []
      | none =>
        if root.level ≤ 20 then
          (if levels.isEmpty then [] else [message ++ "\n"]) ++ root.handlers.map fun h => h message
        else [] := by
  obtain ⟨hhandlers, hlevel, hpropagate⟩ := setups_setUp repr levels
  rw [Logger.info, Logger.effectiveLevel, hhandlers, hlevel, hpropagate]
  cases hlast : lastLevel levels with
  | some n =>
    have hne : levels.isEmpty = false := by
      cases levels with
      | nil => cases hlast
      | cons level levels => rfl
    rw [hne]
    rfl
  | none =>
    cases levels with
    | nil => rfl
    | cons level levels => rfl

/-- A logger that writes every line once. -/
def WritesLines (root : Root) (logger : Logger) : Prop :=
  ∀ message, logger.info root message = [message ++ "\n"]

theorem setups_writesLines (repr : String → String) {root : Root} {levels : List String} {n : Nat}
    (hlast : lastLevel levels = some n) (hn : (if n = 0 then root.level else n) ≤ 20) :
    WritesLines root (setups repr levels {}) := by
  obtain ⟨hhandlers, hlevel, hpropagate⟩ := setups_setUp repr levels
  have hne : levels.isEmpty = false := by
    cases levels with
    | nil => cases hlast
    | cons level levels => rfl
  intro message
  rw [hlast] at hlevel hpropagate
  rw [hne] at hhandlers
  rw [Logger.info, Logger.effectiveLevel, hhandlers, hlevel, hpropagate]
  exact if_pos hn

/-! ## Records of a request -/

def LogsTidy : AgentQuery → Prop
  | .log record => record.Tidy
  | _ => True

theorem logsTidy_log (t : Tracer) (node : Node) (event : NodeEvent) {kwargs : JsonObject}
    (hkeys : (["ts", "trace_id", "session_id", "node", "event"] ++ kwargs.map Prod.fst).Nodup)
    (hvalues : ∀ kwarg ∈ kwargs, (∃ n, kwarg.2 = .int n) ∨ kwarg.2.WellFormed) :
    (t.log node event kwargs).Asks LogsTidy :=
  ⟨⟨hkeys, hvalues⟩, fun _ => trivial⟩

theorem logsTidy_start (t : Tracer) (node : Node) (event : NodeEvent) :
    (t.log node event).Asks LogsTidy :=
  logsTidy_log t node event (by decide) (List.forall_mem_nil _)

/-- A line with one keyword. -/
theorem logsTidy_one (t : Tracer) (node : Node) (event : NodeEvent) {key : String} {v : Json}
    (hkey : key ∉ ["ts", "trace_id", "session_id", "node", "event"])
    (hv : (∃ n, v = .int n) ∨ v.WellFormed) : (t.log node event [(key, v)]).Asks LogsTidy := by
  refine logsTidy_log t node event ?_ (List.forall_mem_singleton.2 hv)
  have hfields : ["ts", "trace_id", "session_id", "node", "event"].Nodup := by decide
  refine List.nodup_append.2 ⟨hfields, by simp, fun a ha b hb hab => hkey ?_⟩
  have hb : b = key := List.mem_singleton.1 hb
  rw [← hb, ← hab]
  exact ha

theorem wellFormed_get {d : JsonObject} (h : (Json.obj d).WellFormed) (key : String) {default : Json}
    (hdefault : default.WellFormed) : (JsonObject.get d key default).WellFormed := by
  unfold JsonObject.get
  cases hlookup : d.lookup key with
  | none => exact hdefault
  | some v => exact (wellFormedMembers_iff d).1 h.2 _ (mem_of_lookup hlookup)

/-- The closing line of the analyzer: what it shows of the classifier's reply
was decoded from it. -/
theorem verdict_tidy (s : AgentState) {maxRounds : Int} {content : String} {v : Verdict}
    (h : verdict s.ambiguityCount maxRounds content = .ok v) : LogsTidy (v.closing s).1 := by
  have hone : ∀ {event : NodeEvent} {key : String} {w : Json},
      key ∉ ["ts", "trace_id", "session_id", "node", "event"] → (∃ n, w = .int n) ∨ w.WellFormed →
      LogsTidy (logged s.tracer .questionAnalyzer event [(key, w)]).1 :=
    fun hkey hw => (logsTidy_one s.tracer .questionAnalyzer _ hkey hw).1
  cases v with
  | undecodable => exact hone (by decide) (.inr trivial)
  | answerable => exact hone (by decide) (.inr trivial)
  | ask q => exact hone (by decide) (.inl ⟨_, rfl⟩)
  | limitReached => exact hone (by decide) (.inr trivial)
  | outOfScope reason =>
    have hreason : reason.WellFormed := by
      unfold verdict at h
      split at h
      case h_3 parsed hp =>
        dsimp only at h
        split at h
        · cases h
        split at h
        · cases h
        split at h
        · cases h
        · cases h
          exact wellFormed_get (wellFormed_of_loads hp) "reason" trivial
      all_goals cases h
    have hvalues : ∀ kwarg ∈ [("status", Json.str "error"), ("reason", reason)],
        (∃ n, kwarg.2 = .int n) ∨ kwarg.2.WellFormed :=
      List.forall_mem_cons.2 ⟨.inr trivial, List.forall_mem_singleton.2 (.inr hreason)⟩
    exact (logsTidy_log s.tracer .questionAnalyzer .end_ (by simp) hvalues).1

theorem ainvoke_tidy (c : Configurable) (prompt : Prompt) : (ainvoke c prompt).Asks LogsTidy :=
  asks_ainvoke trivial

theorem node_tidy (c : Configurable) (n : Node) (s : AgentState) :
    ((buildGraph c).node n s).Asks LogsTidy := by
  cases n with
  | questionAnalyzer =>
    change (questionAnalyzer s c).Asks LogsTidy
    unfold questionAnalyzer
    refine asks_bind (logsTidy_start ..) fun _ => asks_bind (asks_mergeIntent trivial) fun intent => ?_
    refine asks_bind (ainvoke_tidy c _) fun raw => ?_
    rw [routeReply_eq]
    cases hv : verdict s.ambiguityCount c.maxRounds raw with
    | error e => trivial
    | ok v => exact ⟨verdict_tidy s hv, fun _ => trivial⟩
  | sqlGenerator =>
    change (sqlGenerator s c).Asks LogsTidy
    unfold sqlGenerator
    refine asks_bind (logsTidy_one _ _ _ (by decide) (.inl ⟨_, rfl⟩)) fun _ =>
      asks_bind (ainvoke_tidy c _) fun sql => asks_bind ?_ fun _ => asks_ret _
    exact logsTidy_log _ _ _ (by simp)
      (List.forall_mem_cons.2 ⟨.inr trivial, List.forall_mem_singleton.2 (.inl ⟨_, rfl⟩)⟩)
  | sqlValidator =>
    change (sqlValidator s).Asks LogsTidy
    unfold sqlValidator
    -- whatever it checks, lest the check itself be evaluated
    generalize validateSql = validate
    refine asks_bind (logsTidy_start ..) fun _ => ?_
    dsimp only
    rcases validate (orElse s.sql "") with ⟨_ | _, errorMsg⟩
    · refine asks_bind (logsTidy_one _ _ _ (by decide) (.inr ?_)) fun _ => asks_ret _
      cases errorMsg <;> trivial
    · exact asks_bind (logsTidy_one _ _ _ (by decide) (.inr trivial)) fun _ => asks_ret _
  | sqlExecutor =>
    change (sqlExecutor s c).Asks LogsTidy
    unfold sqlExecutor
    refine asks_bind (logsTidy_start ..) fun _ => asks_bind ⟨trivial, fun _ => trivial⟩ fun result => ?_
    cases result with
    | ok results =>
      exact asks_bind (logsTidy_one _ _ _ (by decide) (.inl ⟨_, rfl⟩)) fun _ => asks_ret _
    | error errorMsg =>
      dsimp only
      split
      · refine asks_bind (logsTidy_log _ _ _ (by simp) ?_) fun _ => asks_ret _
        exact List.forall_mem_cons.2 ⟨.inl ⟨_, rfl⟩, List.forall_mem_singleton.2 (.inr trivial)⟩
      · exact asks_bind (logsTidy_one _ _ _ (by decide) (.inr trivial)) fun _ => asks_ret _
  | answerFormatter =>
    change (answerFormatter s c).Asks LogsTidy
    unfold answerFormatter
    refine asks_bind (logsTidy_start ..) fun _ => asks_bind (ainvoke_tidy c _) fun _ => ?_
    exact asks_bind (logsTidy_start ..) fun _ => asks_ret _

theorem graph_tidy (c : Configurable) (s : AgentState) : (ainvokeGraph c s).Asks LogsTidy :=
  StateGraph.Graph.asks_invoke (I := fun _ _ => True) (fun _ _ => trivial)
    (fun n s _ => node_tidy c n s) (fun _ _ _ _ _ _ => trivial) _ trivial

/-- What a request logs is tidy. -/
def ChatLogsTidy : ChatQuery → Prop
  | .inl q => LogsTidy q
  | .inr _ => True

/-- **A request.** -/
theorem chat_tidy (app : App) (req : ChatRequest) : (chat app req).Asks ChatLogsTidy := by
  refine ⟨trivial, fun _ => ⟨trivial, fun _ => ⟨trivial, fun _ => ?_⟩⟩⟩
  refine asks_bind (asks_tryCatch (asks_liftLeft (graph_tidy _ _)) fun _ => trivial) fun result => ?_
  exact ⟨trivial, fun _ => asks_ofExcept _⟩

/-! ## The text -/

theorem written_cons {root : Root} {logger : Logger} (hlogger : WritesLines root logger)
    (w : FloatWriter) (line : String × LogRecord) (lines : List (String × LogRecord)) :
    (written w root logger (line :: lines)).toList =
      (line.2.message w line.1).toList ++ '\n' :: (written w root logger lines).toList := by
  have hnewline : "\n".toList = ['\n'] := rfl
  rw [written, List.flatMap_cons, hlogger, String.join_append, ← written, String.toList_append]
  simp [String.join_cons, hnewline]

/-- **Tidy records** are read back from their text. -/
theorem readLog_written {root : Root} {logger : Logger} (hlogger : WritesLines root logger)
    (w : FloatWriter) {lines : List (String × LogRecord)} (htidy : ∀ line ∈ lines, line.2.Tidy)
    (hfit : ∀ line ∈ lines, line.2.CountersFit) :
    readLog (written w root logger lines) =
      some (lines.map fun line => (line.1, line.2.reread w)) := by
  induction lines with
  | nil => rfl
  | cons line lines ih =>
    obtain ⟨hline, hlines⟩ := List.forall_mem_cons.1 htidy
    obtain ⟨hfirst, hrest⟩ := List.forall_mem_cons.1 hfit
    have hbreak : '\n' ∉ (line.2.message w line.1).toList := fun hmem =>
      absurd (visible_dumps w _ _ hmem) (by decide)
    have hne : (written w root logger lines).toList.splitOn '\n' ≠ [] := List.splitOn_ne_nil _ _
    have hread := ih hlines hrest
    unfold readLog at hread ⊢
    rw [written_cons hlogger, List.splitOn_append_cons_self_of_not_mem hbreak,
      List.dropLast_cons_of_ne_nil hne, List.mapM_cons, String.ofList_toList,
      hline.read_message hfirst w line.1, hread]
    rfl

/-- The lines with the times they were written at. -/
def stamped (ts : Nat → String) (lines : List LogRecord) : List (String × LogRecord) :=
  lines.mapIdx fun n record => (ts n, record)

/-- **The log is read back.**  Logging was set up any number of times, the last
level that was known lets the lines through.  Requests of any number take
turns, some of them still under way: from the text that was written so far
every line is decoded to its record, in order. -/
theorem log_read_back [DecidableEq ι] {app : App} {reqs : ι → ChatRequest}
    {st st' : SessionStore} {tr : List (ι × ChatEvent)} {pool : ι → ChatProg ChatReply}
    (h : Turns chatStep (fun i => chat app (reqs i)) st tr pool st')
    (hfit : ∀ r ∈ logLines tr, r.CountersFit) (repr : String → String) {root : Root}
    {levels : List String} {n : Nat} (hlast : lastLevel levels = some n)
    (hn : (if n = 0 then root.level else n) ≤ 20) (w : FloatWriter) (ts : Nat → String) :
    readLog (written w root (setups repr levels {}) (stamped ts (logLines tr))) =
      some ((stamped ts (logLines tr)).map fun line => (line.1, line.2.reread w)) := by
  have htidy : ∀ r ∈ logLines tr, r.Tidy := by
    intro r hr
    obtain ⟨e, he, heq⟩ := List.mem_filterMap.1 hr
    obtain ⟨⟨q, a⟩, hx, hxe⟩ := List.mem_filterMap.1 he
    obtain ⟨⟨i, _⟩, hmem, rfl⟩ := List.mem_map.1 hx
    obtain ⟨later, o, hrun⟩ := (h.reaches i).completes
    have hown := asks_of_mem_runs (chat_tidy app (reqs i)) hrun
      (List.mem_append_left later (mem_eventsOf.2 hmem))
    cases q with
    | inr q => cases hxe
    | inl q =>
      cases hxe
      cases q with
      | log record =>
        cases heq
        exact hown
      | _ => cases heq
  have hmem : ∀ line ∈ stamped ts (logLines tr), line.2 ∈ logLines tr := by
    intro line hline
    obtain ⟨n, hn, rfl⟩ := List.mem_mapIdx.1 hline
    exact List.getElem_mem hn
  exact readLog_written (setups_writesLines repr hlast hn) w (fun line hline => htidy _ (hmem line hline))
    fun line hline => hfit _ (hmem line hline)

/-! ## Two requests at once -/

/-- A writer for records without floats. -/
def zeroWriter : FloatWriter where
  repr _ _ _ := "0.0"
  shortest _ _ _ := .finite false 0 (-1)
  literal _ _ _ := by rfl

def countersFit (r : LogRecord) : Bool :=
  r.kwargs.all fun kwarg => match kwarg.2 with
    | .int n => n.natAbs < 10 ^ maxStrDigits
    | _ => true

theorem countersFit_iff (r : LogRecord) : countersFit r = true ↔ r.CountersFit := by
  rw [countersFit, List.all_eq_true]
  refine forall₂_congr fun kwarg _ => ?_
  constructor
  · intro h n hn
    rw [hn] at h
    have hfits : n.natAbs < 10 ^ maxStrDigits := of_decide_eq_true h
    exact hfits
  · intro h
    split
    · next n hn =>
      have hfits : n.natAbs < 10 ^ maxStrDigits := h n hn
      exact decide_eq_true hfits
    · rfl

/-- Set up twice, the first time with a level that nobody knows. -/
theorem log_read_back_lineByLine :
    readLog (written zeroWriter {} (setups id ["loud", "info"] {})
        (stamped (fun n => toString n) (logLines lineByLine.1))) =
      some ((stamped (fun n => toString n) (logLines lineByLine.1)).map fun line =>
        (line.1, line.2.reread zeroWriter)) := by
  obtain ⟨o, h⟩ := concurrent_interleaved _ _ _ _ lineByLine_eq lineByLine_ends.1
  have hfit : (logLines lineByLine.1).all countersFit = true := by
    decide +kernel
  have hlast : lastLevel ["loud", "info"] = some 20 := by
    decide +kernel
  exact log_read_back h.turns
    (fun r hr => (countersFit_iff r).1 (List.all_eq_true.1 hfit r hr)) id hlast (by decide) zeroWriter _

end UniversityQA.Guarantees
