import UniversityQA.Agent.Prompts
import UniversityQA.Lib.Coroutine

/-!
# What a node can do

A node is a coroutine over `AgentQuery`: it awaits the chat model and the
database connector and writes log lines.  `superstep` is LangGraph's own
snapshot of the state in front of a node; no node asks it.  Every answer is
possible: a reply of any text, any rows, or an exception.  A call of the chat
model keeps the builder its messages come from.
-/

namespace UniversityQA.Agent

open UniversityQA.Py UniversityQA.Db Coroutine

inductive Node where
  | questionAnalyzer
  | sqlGenerator
  | sqlValidator
  | sqlExecutor
  | answerFormatter
  deriving DecidableEq, Repr

/-- The name under which `build_graph` registers the node. -/
def Node.name : Node → String
  | .questionAnalyzer => "question_analyzer"
  | .sqlGenerator => "sql_generator"
  | .sqlValidator => "sql_validator"
  | .sqlExecutor => "sql_executor"
  | .answerFormatter => "answer_formatter"

inductive AgentQuery where
  | ainvoke (prompt : Prompt) (messages : List BaseMessage)
  | executeQuery (sql : String)
  | log (record : LogRecord)
  | superstep (node : Node) (state : AgentState)

/-- The chat model answers with a text, the connector with rows; either may
raise instead, an exception with the given text. -/
abbrev AgentReply : AgentQuery → Type
  | .ainvoke _ _ => Except String String
  | .executeQuery _ => Except String (List Row)
  | .log _ => Unit
  | .superstep _ _ => Unit

abbrev AgentEvent := Event AgentQuery AgentReply

/-- The exceptions that can leave a node, the graph or the `chat` handler. -/
inductive PyException where
  | llmError (text : String)
  | attributeError (typeName name : String)
  | valueError
  | keyError (status : AgentStatus)
  | graphRecursionError
  | httpException (statusCode : Nat) (detail : String)
  | validationError (field : String)
  deriving DecidableEq, Repr

abbrev NodeProg := Prog AgentQuery AgentReply PyException

/-- `config["configurable"]` but for the chat model and the connector, which
are queries; `none` is an absent key.  `strOf` is the interpreter's `str`. -/
structure Configurable where
  fewShotExamples : String
  maxClarificationRounds : Option Int := none
  maxSqlRetries : Option Int := none
  dbResultsRowLimit : Option Int := none
  strOf : Json → String

def Configurable.maxRounds (config : Configurable) : Int := config.maxClarificationRounds.getD 3

def Configurable.maxRetries (config : Configurable) : Int := config.maxSqlRetries.getD 2

def Configurable.rowLimit (config : Configurable) : Int := config.dbResultsRowLimit.getD 50

/-- `(await llm.ainvoke(messages)).content` for the messages of `prompt`. -/
def ainvoke (config : Configurable) (prompt : Prompt) : NodeProg String :=
  .ask (.ainvoke prompt (prompt.messages config.strOf)) fun reply =>
    match reply with
    | .ok content => .ret content
    | .error text => .raise (.llmError text)

/-- `await connector.execute_query(sql)`, the exception handed over as a
value. -/
def executeQuery (sql : String) : NodeProg (Except String (List Row)) :=
  .ask (.executeQuery sql) fun result => .ret result

def Tracer.record (t : Tracer) (node : Node) (event : NodeEvent) (kwargs : JsonObject) : LogRecord :=
  ⟨t.traceId, t.sessionId, node.name, event, kwargs⟩

def Tracer.log (t : Tracer) (node : Node) (event : NodeEvent) (kwargs : JsonObject := []) :
    NodeProg Unit :=
  .ask (.log (t.record node event kwargs)) fun _ => .ret ()

/-! ## Events -/

def logged (t : Tracer) (node : Node) (event : NodeEvent) (kwargs : JsonObject) : AgentEvent :=
  ⟨.log (t.record node event kwargs), ()⟩

def replied (config : Configurable) (prompt : Prompt) (reply : Except String String) : AgentEvent :=
  ⟨.ainvoke prompt (prompt.messages config.strOf), reply⟩

def executed (sql : String) (result : Except String (List Row)) : AgentEvent :=
  ⟨.executeQuery sql, result⟩

def entered (node : Node) (state : AgentState) : AgentEvent := ⟨.superstep node state, ()⟩

/-! ## What a trace shows -/

/-- The supersteps, in order. -/
def supersteps : List AgentEvent → List (Node × AgentState) :=
  List.filterMap fun
    | ⟨.superstep node state, _⟩ => some (node, state)
    | _ => none

/-- The calls of the chat model with their replies, in order. -/
def replies : List AgentEvent → List (Prompt × Except String String) :=
  List.filterMap fun
    | ⟨.ainvoke prompt _, reply⟩ => some (prompt, reply)
    | _ => none

/-- The queries sent to the database with their results, in order. -/
def queries : List AgentEvent → List (String × Except String (List Row)) :=
  List.filterMap fun
    | ⟨.executeQuery sql, result⟩ => some (sql, result)
    | _ => none

/-- The calls with a prompt of one kind, in order. -/
def callsTo (kind : Prompt → Bool) (tr : List AgentEvent) : List (Prompt × Except String String) :=
  (replies tr).filter fun r => kind r.1

/-- The replies to the prompts of one kind, in order. -/
def repliesTo (kind : Prompt → Bool) (tr : List AgentEvent) : List (Except String String) :=
  (callsTo kind tr).map Prod.snd

/-- The messages sent for the prompts of one kind with the replies, in order. -/
def sent (kind : Prompt → Bool) :
    List AgentEvent → List (List BaseMessage × Except String String) :=
  List.filterMap fun
    | ⟨.ainvoke prompt messages, reply⟩ => if kind prompt then some (messages, reply) else none
    | _ => none

/-- The intents the chat model was asked about, in order. -/
def intents (tr : List AgentEvent) : List String := (replies tr).filterMap fun r => r.1.intent

/-- The external calls, in order, each with what the protocol says of it. -/
inductive Call where
  | merger
  | classifier
  | generate
  | execute (succeeded : Bool)
  | format
  deriving DecidableEq, Repr

def Call.isExecute : Call → Bool
  | .execute _ => true
  | _ => false

def calls : List AgentEvent → List Call :=
  List.filterMap fun
    | ⟨.ainvoke (.merger ..) _, _⟩ => some .merger
    | ⟨.ainvoke (.classifier ..) _, _⟩ => some .classifier
    | ⟨.ainvoke (.sql ..) _, _⟩ => some .generate
    | ⟨.ainvoke (.answer ..) _, _⟩ => some .format
    | ⟨.executeQuery _, .ok _⟩ => some (.execute true)
    | ⟨.executeQuery _, .error _⟩ => some (.execute false)
    | _ => none

@[simp] theorem supersteps_append (t₁ t₂ : List AgentEvent) :
    supersteps (t₁ ++ t₂) = supersteps t₁ ++ supersteps t₂ := List.filterMap_append

@[simp] theorem replies_append (t₁ t₂ : List AgentEvent) :
    replies (t₁ ++ t₂) = replies t₁ ++ replies t₂ := List.filterMap_append

@[simp] theorem queries_append (t₁ t₂ : List AgentEvent) :
    queries (t₁ ++ t₂) = queries t₁ ++ queries t₂ := List.filterMap_append

@[simp] theorem callsTo_append (kind : Prompt → Bool) (t₁ t₂ : List AgentEvent) :
    callsTo kind (t₁ ++ t₂) = callsTo kind t₁ ++ callsTo kind t₂ := by
  simp [callsTo]

@[simp] theorem repliesTo_append (kind : Prompt → Bool) (t₁ t₂ : List AgentEvent) :
    repliesTo kind (t₁ ++ t₂) = repliesTo kind t₁ ++ repliesTo kind t₂ := by
  simp [repliesTo]

@[simp] theorem sent_append (kind : Prompt → Bool) (t₁ t₂ : List AgentEvent) :
    sent kind (t₁ ++ t₂) = sent kind t₁ ++ sent kind t₂ := List.filterMap_append

@[simp] theorem intents_append (t₁ t₂ : List AgentEvent) :
    intents (t₁ ++ t₂) = intents t₁ ++ intents t₂ := by
  simp [intents]

@[simp] theorem calls_append (t₁ t₂ : List AgentEvent) :
    calls (t₁ ++ t₂) = calls t₁ ++ calls t₂ := List.filterMap_append

theorem queries_cons (e : AgentEvent) (tr : List AgentEvent) :
    queries (e :: tr) = queries [e] ++ queries tr := queries_append [e] tr

theorem length_queries (tr : List AgentEvent) :
    (queries tr).length = (calls tr).countP Call.isExecute := by
  induction tr with
  | nil => rfl
  | cons e tr ih =>
    have hc : calls (e :: tr) = calls [e] ++ calls tr := calls_append [e] tr
    rw [queries_cons, hc, List.length_append, List.countP_append, ih]
    congr 1
    obtain ⟨q, a⟩ := e
    cases q with
    | ainvoke prompt messages => cases prompt <;> rfl
    | executeQuery sql => cases a <;> rfl
    | log record => rfl
    | superstep node state => rfl

/-- What was sent to the database stands somewhere in the trace. -/
theorem exists_executed_of_mem {tr : List AgentEvent} {sql : String}
    (h : sql ∈ (queries tr).map Prod.fst) :
    ∃ pre result post, tr = pre ++ executed sql result :: post := by
  obtain ⟨⟨sql', result⟩, hmem, rfl⟩ := List.mem_map.mp h
  obtain ⟨⟨q, r⟩, hq, heq⟩ := List.mem_filterMap.mp hmem
  cases q with
  | executeQuery sql'' =>
    cases heq
    obtain ⟨pre, post, htr⟩ := List.append_of_mem hq
    exact ⟨pre, result, post, htr⟩
  | ainvoke prompt messages => cases heq
  | log record => cases heq
  | superstep node state => cases heq

/-! ## Oracles -/

/-- A chat model and a connector of fixed behaviour; the number is that of the
queries before. -/
abbrev Oracle := Nat → (q : AgentQuery) → AgentReply q

def Oracle.handle (w : Oracle) (n : Nat) (q : AgentQuery) : AgentReply q × Nat := (w n q, n + 1)

/-- What the model replies in a run is what its oracle says. -/
theorem replies_run {α : Type} (w : Oracle) (p : NodeProg α) (n : Nat) {prompt : Prompt}
    {reply : Except String String} (h : (prompt, reply) ∈ replies (run w.handle n p).2.1) :
    ∃ m messages, reply = w m (.ainvoke prompt messages) := by
  obtain ⟨⟨q, a⟩, hmem, heq⟩ := List.mem_filterMap.mp h
  obtain ⟨m, hm⟩ := mem_run w.handle p n hmem
  cases q with
  | ainvoke prompt' messages =>
    cases heq
    exact ⟨m, messages, hm⟩
  | executeQuery sql => cases heq
  | log record => cases heq
  | superstep node state => cases heq

/-- The oracle that answers every call of one kind alike. -/
def scripted (merger classifier sql answer : String) (rows : Except String (List Row)) : Oracle
  | _, .ainvoke (.merger ..) _ => .ok merger
  | _, .ainvoke (.classifier ..) _ => .ok classifier
  | _, .ainvoke (.sql ..) _ => .ok sql
  | _, .ainvoke (.answer ..) _ => .ok answer
  | _, .executeQuery _ => rows
  | _, .log _ => ()
  | _, .superstep _ _ => ()

/-! ## Running the primitives -/

/-- Asking for a log line. -/
theorem runs_log_bind {α : Type} (t : Tracer) (node : Node) (event : NodeEvent)
    (kwargs : JsonObject) (p : NodeProg α) (tr : List AgentEvent) (o : Except PyException α) :
    Runs (t.log node event kwargs >>= fun _ => p) tr o ↔
      ∃ tr', tr = logged t node event kwargs :: tr' ∧ Runs p tr' o := by
  rw [Tracer.log, Prog.ask_bind, runs_ask]
  exact ⟨fun ⟨_, tr', h⟩ => ⟨tr', h⟩, fun ⟨tr', h⟩ => ⟨(), tr', h⟩⟩

/-- Asking the chat model. -/
theorem runs_ainvoke_bind {α : Type} (config : Configurable) (prompt : Prompt)
    (f : String → NodeProg α) (tr : List AgentEvent) (o : Except PyException α) :
    Runs (ainvoke config prompt >>= f) tr o ↔
      (∃ text, tr = [replied config prompt (.error text)] ∧ o = .error (.llmError text)) ∨
        ∃ content tr', tr = replied config prompt (.ok content) :: tr' ∧ Runs (f content) tr' o := by
  rw [ainvoke, Prog.ask_bind, runs_ask]
  constructor
  · rintro ⟨reply, tr', rfl, h⟩
    cases reply with
    | ok content => exact .inr ⟨content, tr', rfl, h⟩
    | error text =>
      rw [Prog.raise_bind, runs_raise] at h
      exact .inl ⟨text, by rw [h.1]; rfl, h.2⟩
  · rintro (⟨text, rfl, rfl⟩ | ⟨content, tr', rfl, h⟩)
    · exact ⟨.error text, [], rfl, by simp⟩
    · exact ⟨.ok content, tr', rfl, h⟩

/-- Asking the connector. -/
theorem runs_executeQuery_bind {α : Type} (sql : String)
    (f : Except String (List Row) → NodeProg α) (tr : List AgentEvent) (o : Except PyException α) :
    Runs (executeQuery sql >>= f) tr o ↔
      ∃ result tr', tr = executed sql result :: tr' ∧ Runs (f result) tr' o := by
  rw [executeQuery, Prog.ask_bind, runs_ask]
  exact Iff.rfl

end UniversityQA.Agent
