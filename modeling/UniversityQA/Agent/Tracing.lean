import UniversityQA.Agent.State
import UniversityQA.Py.JsonDumps

/-!
# The logger

The logger of the agent, how it is set up and what becomes of a line that is
logged.  `repr` is the interpreter's `repr` of a string.

* `setupLogging`, and `setups` for any number of calls;
* `SetUp`: the logger after them; `Logger.info`: what is written;
* `LogRecord.message`: the line of `Tracer.log`, `LogRecord.ofJson` its reader.
-/

namespace UniversityQA.Agent

open UniversityQA.Py

/-- The levels that `logging` knows by name. -/
def levelNames : List (String × Nat) :=
  [("CRITICAL", 50), ("FATAL", 50), ("ERROR", 40), ("WARN", 30), ("WARNING", 30), ("INFO", 20),
   ("DEBUG", 10), ("NOTSET", 0)]

/-- A handler, by what it writes for a message. -/
abbrev Handler := String → String

/-- A `StreamHandler` with the format `%(message)s`. -/
def messageOnly : Handler := fun message => message ++ "\n"

/-- The logger `university_qa`. -/
structure Logger where
  handlers : List Handler := []
  level : Nat := 0
  propagate : Bool := true

/-- `logger.setLevel(level)`, or the text of its `ValueError`. -/
def Logger.setLevel (repr : String → String) (level : String) (logger : Logger) :
    Except String Unit × Logger :=
  match levelNames.lookup level with
  | some n => (.ok (), { logger with level := n })
  | none => (.error ("Unknown level: " ++ repr level), logger)

/-- `setup_logging`. -/
def setupLogging (repr : String → String) (level : String) (logger : Logger) :
    Except String Unit × Logger :=
  let logger :=
    if logger.handlers.isEmpty then { logger with handlers := [messageOnly] } else logger
  match logger.setLevel repr (upper level) with
  | (.ok (), logger) => (.ok (), { logger with propagate := false })
  | (.error e, logger) => (.error e, logger)

/-- What else receives a line: the level of the parent, which counts when the
logger has none, and the parent's handlers. -/
structure Root where
  level : Nat := 30
  handlers : List Handler := []

def Logger.effectiveLevel (root : Root) (logger : Logger) : Nat :=
  if logger.level = 0 then root.level else logger.level

/-- What `logger.info(message)` writes, handler by handler; the handlers have
no level of their own. -/
def Logger.info (root : Root) (logger : Logger) (message : String) : List String :=
  let handlers := logger.handlers ++ if logger.propagate then root.handlers else []
  if logger.effectiveLevel root ≤ 20 then handlers.map fun handler => handler message else []

/-- `setup_logging` called with these levels in turn; a `ValueError` of one
call does not keep the next from being made. -/
def setups (repr : String → String) (levels : List String) (logger : Logger) : Logger :=
  levels.foldl (fun logger level => (setupLogging repr level logger).2) logger

/-! ## Any number of calls -/

/-- The level that the last call has set which knew its level. -/
def lastLevel : List String → Option Nat
  | [] => none
  | level :: levels => (lastLevel levels).or (levelNames.lookup (upper level))

theorem setups_append_singleton (repr : String → String) (levels : List String) (level : String)
    (logger : Logger) :
    setups repr (levels ++ [level]) logger = (setupLogging repr level (setups repr levels logger)).2 := by
  rw [setups, List.foldl_append]
  rfl

theorem lastLevel_append_singleton (levels : List String) (level : String) :
    lastLevel (levels ++ [level]) = (levelNames.lookup (upper level)).or (lastLevel levels) := by
  induction levels with
  | nil => simp [lastLevel]
  | cons l levels ih => rw [List.cons_append, lastLevel, ih, lastLevel, Option.or_assoc]

/-- The logger after the calls: a handler once there was a call, the level of
the last call that knew its own, nothing passed on once there was such a call. -/
structure SetUp (levels : List String) (logger : Logger) : Prop where
  handlers : logger.handlers = if levels.isEmpty then [] else [messageOnly]
  level : logger.level = (lastLevel levels).getD 0
  propagate : logger.propagate = (lastLevel levels).isNone

/-- One more call. -/
theorem SetUp.next {repr : String → String} {levels : List String} {logger : Logger}
    (h : SetUp levels logger) (level : String) :
    SetUp (levels ++ [level]) (setupLogging repr level logger).2 := by
  have hhandlers : (if logger.handlers.isEmpty then { logger with handlers := [messageOnly] }
      else logger) = { logger with handlers := [messageOnly] } := by
    cases levels with
    | nil => simp [h.handlers]
    | cons l levels =>
      have hone : logger.handlers = [messageOnly] := h.handlers
      rw [if_neg (by simp [hone]), ← hone]
  have hlast := lastLevel_append_singleton levels level
  unfold setupLogging
  rw [hhandlers]
  cases hlookup : levelNames.lookup (upper level) with
  | none =>
    rw [hlookup, Option.none_or] at hlast
    simp only [Logger.setLevel, hlookup]
    exact ⟨by simp, by rw [hlast]; exact h.level, by rw [hlast]; exact h.propagate⟩
  | some n =>
    rw [hlookup, Option.some_or] at hlast
    simp only [Logger.setLevel, hlookup]
    exact ⟨by simp, by rw [hlast]; rfl, by rw [hlast]; rfl⟩

theorem setups_setUp (repr : String → String) (levels : List String) :
    SetUp levels (setups repr levels {}) := by
  induction levels using List.reverseRecOn with
  | nil => exact ⟨rfl, rfl, rfl⟩
  | append_singleton levels level ih =>
    rw [setups_append_singleton]
    exact ih.next level

/-! ## `Tracer.log` -/

def NodeEvent.value : NodeEvent → String
  | .start => "start"
  | .end_ => "end"
  | .error => "error"
  | .retry => "retry"
  | .clarify => "clarification_requested"
  | .skip => "skip"

/-- The fields that every line has. -/
def LogRecord.fields (ts : String) (r : LogRecord) : JsonObject :=
  [("ts", .str ts), ("trace_id", .str r.traceId), ("session_id", .str r.sessionId),
    ("node", .str r.node), ("event", .str r.event.value)]

/-- `{"ts": …, "event": event.value, **kwargs}`. -/
def LogRecord.json (ts : String) (r : LogRecord) : JsonObject :=
  r.kwargs.foldl (fun record kwarg => setItem record kwarg.1 kwarg.2) (r.fields ts)

/-- `json.dumps(record)`. -/
def LogRecord.message (w : FloatWriter) (ts : String) (r : LogRecord) : String :=
  dumps w (.obj (r.json ts))

/-! ## Reading a line -/

def NodeEvent.ofValue (value : String) : Option NodeEvent :=
  [NodeEvent.start, .end_, .error, .retry, .clarify, .skip].find? fun event => event.value = value

theorem NodeEvent.ofValue_value (event : NodeEvent) : NodeEvent.ofValue event.value = some event := by
  cases event <;> decide

/-- A decoded line, as its time stamp and the record. -/
def LogRecord.ofJson : Json → Option (String × LogRecord)
  | .obj (("ts", .str ts) :: ("trace_id", .str traceId) :: ("session_id", .str sessionId) ::
      ("node", .str node) :: ("event", .str value) :: kwargs) =>
    (NodeEvent.ofValue value).map fun event => (ts, ⟨traceId, sessionId, node, event, kwargs⟩)
  | _ => none

/-- The keywords are told apart from the fields and from each other, and their
values are counters or values that the decoder returns. -/
structure LogRecord.Tidy (r : LogRecord) : Prop where
  keys : (["ts", "trace_id", "session_id", "node", "event"] ++ r.kwargs.map Prod.fst).Nodup
  values : ∀ kwarg ∈ r.kwargs, (∃ n, kwarg.2 = .int n) ∨ kwarg.2.WellFormed

theorem foldl_setItem (d kwargs : JsonObject) (h : (d.map Prod.fst ++ kwargs.map Prod.fst).Nodup) :
    kwargs.foldl (fun record kwarg => setItem record kwarg.1 kwarg.2) d = d ++ kwargs := by
  induction kwargs generalizing d with
  | nil => simp
  | cons kwarg kwargs ih =>
    have hkey : kwarg.1 ∉ d.map Prod.fst := by
      have hapart := (List.nodup_append.1 h).2.2
      exact fun hmem => hapart _ hmem _ List.mem_cons_self rfl
    rw [List.foldl_cons, setItem_of_notMem hkey, ih, List.append_assoc]
    · rfl
    · rw [List.map_append, List.append_assoc]
      exact h

theorem LogRecord.Tidy.json_eq {r : LogRecord} (h : r.Tidy) (ts : String) :
    r.json ts = r.fields ts ++ r.kwargs := foldl_setItem _ _ h.keys

/-- No counter is over the digit limit. -/
def LogRecord.CountersFit (r : LogRecord) : Prop :=
  ∀ kwarg ∈ r.kwargs, ∀ n, kwarg.2 = .int n → FitsDigits n

theorem LogRecord.Tidy.wellFormed {r : LogRecord} (h : r.Tidy) (hfit : r.CountersFit) (ts : String) :
    (Json.obj (r.json ts)).WellFormed := by
  rw [h.json_eq]
  refine ⟨?_, (wellFormedMembers_iff _).2 (List.forall_mem_append.2 ⟨?_, fun kwarg hkwarg => ?_⟩)⟩
  · rw [List.map_append]
    exact h.keys
  · simp [LogRecord.fields, Json.WellFormed]
  · rcases h.values kwarg hkwarg with ⟨n, hn⟩ | hvalue
    · rw [hn]
      exact hfit kwarg hkwarg n hn
    · exact hvalue

/-- The record with the floats of its keywords read back. -/
def LogRecord.reread (w : FloatWriter) (r : LogRecord) : LogRecord :=
  { r with kwargs := Json.rereadMembers w r.kwargs }

/-- **A line** is read back as its record. -/
theorem LogRecord.Tidy.read_message {r : LogRecord} (h : r.Tidy) (hfit : r.CountersFit)
    (w : FloatWriter) (ts : String) :
    (loads (r.message w ts)).toOption.bind LogRecord.ofJson = some (ts, r.reread w) := by
  rw [LogRecord.message, loads_dumps w (h.wellFormed hfit ts), h.json_eq]
  change LogRecord.ofJson (.obj (("ts", .str ts) :: ("trace_id", .str r.traceId) ::
    ("session_id", .str r.sessionId) :: ("node", .str r.node) :: ("event", .str r.event.value) ::
      Json.rereadMembers w r.kwargs)) = _
  rw [LogRecord.ofJson, NodeEvent.ofValue_value]
  rfl

/-! ## The whole text -/

/-- What lines that are logged one after another leave on the handlers. -/
def written (w : FloatWriter) (root : Root) (logger : Logger) (lines : List (String × LogRecord)) :
    String :=
  String.join (lines.flatMap fun line => logger.info root (line.2.message w line.1))

/-- The lines of a text, each of them ended. -/
def readLog (text : String) : Option (List (String × LogRecord)) :=
  (text.toList.splitOn '\n').dropLast.mapM fun line =>
    (loads (.ofList line)).toOption.bind LogRecord.ofJson

end UniversityQA.Agent
