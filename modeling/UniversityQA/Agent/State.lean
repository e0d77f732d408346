import UniversityQA.Db.Base
import UniversityQA.Py.Json

/-!
# The agent state

`AgentState` is the record threaded through the nodes of the graph; a node
returns a `StateUpdate`, the keys it writes, and `AgentState.merge` is how
LangGraph folds it in.  `answer` and `lastClarification` are annotated
`str | None` in the source, but any decoded JSON value can get there.
-/

namespace UniversityQA.Agent

open UniversityQA.Py UniversityQA.Db

inductive AgentStatus where
  | analyzing
  | generating
  | validating
  | executing
  | formatting
  | askingClarification
  | error
  | done
  deriving DecidableEq, Repr

inductive Role where
  | user
  | assistant
  deriving DecidableEq, Repr

/-- One entry of `conversation_history`. -/
structure Turn where
  role : Role
  content : Json
  deriving DecidableEq, Repr

/-- The emitter of structured log lines, fixed by its two identifiers. -/
structure Tracer where
  traceId : String
  sessionId : String
  deriving DecidableEq, Repr

inductive NodeEvent where
  | start
  | end_
  | error
  | retry
  | clarify
  | skip
  deriving DecidableEq, Repr

/-- A log line without its time stamp. -/
structure LogRecord where
  traceId : String
  sessionId : String
  node : String
  event : NodeEvent
  kwargs : JsonObject
  deriving DecidableEq, Repr

structure AgentState where
  question : String
  schemaContext : String
  sql : Option String
  sqlError : Option String
  retryCount : Int
  dbResults : Option (List Row)
  answer : Json
  status : AgentStatus
  conversationHistory : List Turn
  accumulatedIntent : Option String
  lastClarification : Json
  ambiguityCount : Int
  traceId : String
  sessionId : String
  tracer : Tracer

/-- The partial state dict a node returns: `none` is an absent key. -/
structure StateUpdate where
  status : AgentStatus
  sql : Option (Option String) := none
  sqlError : Option (Option String) := none
  retryCount : Option Int := none
  dbResults : Option (Option (List Row)) := none
  answer : Option Json := none
  accumulatedIntent : Option (Option String) := none
  lastClarification : Option Json := none
  ambiguityCount : Option Int := none

/-- The state after a node returned `u`. -/
def AgentState.merge (s : AgentState) (u : StateUpdate) : AgentState :=
  { s with
    status := u.status
    sql := u.sql.getD s.sql
    sqlError := u.sqlError.getD s.sqlError
    retryCount := u.retryCount.getD s.retryCount
    dbResults := u.dbResults.getD s.dbResults
    answer := u.answer.getD s.answer
    accumulatedIntent := u.accumulatedIntent.getD s.accumulatedIntent
    lastClarification := u.lastClarification.getD s.lastClarification
    ambiguityCount := u.ambiguityCount.getD s.ambiguityCount }

end UniversityQA.Agent
