import UniversityQA.Guarantees.CallProtocol
import UniversityQA.Guarantees.ValidatedSql
import UniversityQA.Guarantees.OneIntent
import UniversityQA.Api.Sessions
import UniversityQA.Guarantees.FailedRequests
import UniversityQA.Guarantees.ClarificationBudget
import UniversityQA.Guarantees.Continuation
import UniversityQA.Agent.Classification
import UniversityQA.Guarantees.InternalNote
import UniversityQA.Lib.Interleaving
import UniversityQA.Lib.ReadModifyWrite
import UniversityQA.Guarantees.ConcurrentTurns
import UniversityQA.Lib.PostgresText
import UniversityQA.Agent.PostgresSql
import UniversityQA.Guarantees.WritingStatements
import UniversityQA.Guarantees.CatalogNames
import UniversityQA.Guarantees.ClassifierReplies
import UniversityQA.Guarantees.ValidatorGuards
import UniversityQA.Guarantees.RetryPrompts
import UniversityQA.Guarantees.AnswerProvenance
import UniversityQA.Guarantees.ConversationMemory
import UniversityQA.Db.Connectors
import UniversityQA.Db.InformationSchema
import UniversityQA.Guarantees.ResultRows
import UniversityQA.Guarantees.SchemaIntrospection
import UniversityQA.Agent.TraceIds
import UniversityQA.Api.Main
import UniversityQA.Lib.Serial
import UniversityQA.Guarantees.SessionIsolation
import UniversityQA.Guarantees.SchemaRendering
import UniversityQA.Config.Settings
import UniversityQA.Guarantees.ConnectionString
import UniversityQA.Agent.LogLines
import UniversityQA.Guarantees.RunLog
import UniversityQA.Db.SqliteSchema
import UniversityQA.Guarantees.SqliteIntrospection
import UniversityQA.Lib.Typestate
import UniversityQA.Lib.SharedHandle
import UniversityQA.Db.ConnectorCalls
import UniversityQA.Guarantees.ConnectionLifetime
import UniversityQA.Guarantees.HistoryText
import UniversityQA.Db.Factory
import UniversityQA.Lib.Expansion
import UniversityQA.Lib.Rely
import UniversityQA.Db.Connected
import UniversityQA.Api.Process
import UniversityQA.Agent.Tracing
import UniversityQA.Api.Lifespan
import UniversityQA.Lib.Cancellation
import UniversityQA.Lib.Triple
import UniversityQA.Guarantees.Lifecycle
import UniversityQA.Guarantees.AwaitTurns
import UniversityQA.Py.JsonDumps
import UniversityQA.Guarantees.ResultsReadBack
import UniversityQA.Guarantees.LogText
import UniversityQA.Db.Statements
import UniversityQA.Guarantees.Statements
import UniversityQA.Guarantees.SchemaVersions
import UniversityQA.Guarantees.LogicalSchema
import UniversityQA.Db.Introspections
import UniversityQA.Guarantees.SchemaText
import UniversityQA.Agent.Stages
import UniversityQA.Guarantees.StateContract
