import UniversityQA.Agent.State
import UniversityQA.Py.Text

/-!
# Prompt builders

The four prompts of the agent and the helpers they share.  `strOf` is the
interpreter's `str` on decoded JSON values that are not strings; an f-string
writes a string as it is.
-/

namespace UniversityQA.Agent

open UniversityQA.Py UniversityQA.Db

inductive BaseMessage where
  | system (content : String)
  | human (content : String)
  deriving DecidableEq, Repr

/-- A value inside an f-string. -/
def formatValue (strOf : Json → String) : Json → String
  | .str s => s
  | v => strOf v

/-! ## Templates of `str.format` -/

/-- A piece of a template: text with its doubled braces undone, or a field. -/
inductive Piece (F : Type) where
  | text (s : String)
  | field (f : F)

/-- `template.format(...)`: one pass, inserted values are not read again. -/
def formatTemplate {F : Type} (arg : F → String) : List (Piece F) → String
  | [] => ""
  | .text s :: t => s ++ formatTemplate arg t
  | .field f :: t => arg f ++ formatTemplate arg t

/-! ## Helpers -/

def Role.capitalize : Role → String
  | .user => "User"
  | .assistant => "Assistant"

def formatHistory (strOf : Json → String) (conversationHistory : List Turn) : String :=
  "\n".intercalate <|
    conversationHistory.map fun turn => turn.role.capitalize ++ ": " ++ formatValue strOf turn.content

def truncateResults (dbResults : List Row) (rowLimit : Int) : List Row := sliceTo dbResults rowLimit

/-- A container of `json.dumps(indent=2)`, opened at depth `n`. -/
def dumpsBlock (n : Nat) (opening closing : String) (items : List String) : String :=
  let newline (k : Nat) : String := .ofList ('\n' :: List.replicate (2 * k) ' ')
  if items.isEmpty then opening ++ closing
  else opening ++ newline (n + 1) ++ ("," ++ newline (n + 1)).intercalate items ++ newline n ++ closing

def dumpsFloat (repr : String) : String :=
  if repr = "nan" then "NaN"
  else if repr = "inf" then "Infinity"
  else if repr = "-inf" then "-Infinity"
  else repr

mutual

def dumpsValue (n : Nat) : DbValue → String
  | .null => "null"
  | .bool b => if b then "true" else "false"
  | .int k => toString k
  | .float repr => dumpsFloat repr
  | .text s => dumpsString s
  | .list xs => dumpsBlock n "[" "]" (dumpsValues (n + 1) xs)
  | .other str => dumpsString str

def dumpsValues (n : Nat) : List DbValue → List String
  | [] => []
  | x :: xs => dumpsValue n x :: dumpsValues n xs

end

def dumpsRow (n : Nat) (row : Row) : String :=
  dumpsBlock n "\x7b" "\x7d" <|
    row.map fun cell => dumpsString cell.1 ++ ": " ++ dumpsValue (n + 1) cell.2

/-- `json.dumps(db_results, indent=2, default=str)`. -/
def formatDbResults (dbResults : List Row) : String :=
  dumpsBlock 0 "[" "]" (dbResults.map (dumpsRow 1))

/-! ## Intent merger -/

def mergerSystem : String :=
  "You are tracking a user's intent across a multi-turn university Q&A session.\n" ++
  "The user was asked a clarification question and has now responded.\n" ++
  "Merge the previous intent with the user's new response into a single, clear\n" ++
  "plain-text description of what the user wants to know.\n" ++
  "\n" ++
  "Output ONLY the merged intent — no explanation, no JSON, no punctuation wrapper."

def buildMergerPrompt (strOf : Json → String) (accumulatedIntent : Option String)
    (lastClarification : Json) (currentInput : String) : List BaseMessage :=
  [.system mergerSystem,
   .human ("Previous intent: " ++ orElse accumulatedIntent "(none yet)" ++ "\n" ++
    "Clarification question asked: " ++ formatValue strOf lastClarification ++ "\n" ++
    "User's response: " ++ currentInput ++ "\n\n" ++
    "Merged intent:")]

/-! ## Intent classifier -/

inductive ClassifierField where
  | schemaContext

def classifierSystemTemplate : List (Piece ClassifierField) :=
  [.text ("You are classifying a user's question for a university database Q&A system.\n" ++
    "\n" ++
    "Database schema:\n"),
   .field .schemaContext,
   .text ("\n" ++
    "\n" ++
    "Classify the user's intent as exactly one of:\n" ++
    "  \"answerable\"   — can be answered with a SQL query against the schema above\n" ++
    "  \"ambiguous\"    — needs clarification before SQL can be written\n" ++
    "  \"out_of_scope\" — cannot be answered from this database\n" ++
    "\n" ++
    "Respond with ONLY valid JSON in this exact format (no markdown, no extra keys):\n" ++
    "\x7b\"status\": \"answerable\"|\"ambiguous\"|\"out_of_scope\",\n" ++
    "  \"clarification_question\": \"<question to ask the user, or empty string>\",\n" ++
    "  \"reason\": \"<brief internal note, never shown to the user>\"\x7d\n")]

def buildClassifierPrompt (accumulatedIntent schemaContext : String) : List BaseMessage :=
  [.system (formatTemplate (fun | .schemaContext => schemaContext) classifierSystemTemplate),
   .human ("User intent: " ++ accumulatedIntent)]

/-! ## SQL generator -/

inductive SqlField where
  | schemaContext
  | fewShotExamples

def sqlSystemTemplate : List (Piece SqlField) :=
  [.text ("You are a SQL expert for a university database system.\n" ++
    "Generate a single correct SQL SELECT query to answer the user's question.\n" ++
    "\n" ++
    "Database schema:\n"),
   .field .schemaContext,
   .text ("\n" ++
    "\n" ++
    "Rules:\n" ++
    "- Output ONLY the raw SQL query — no markdown, no explanation, no apology\n" ++
    "- Do not include a trailing semicolon\n" ++
    "- If the request would require modifying data, output a SELECT query\n" ++
    "  that retrieves the relevant data instead\n" ++
    "- Use only SELECT statements; never output UPDATE, INSERT, DELETE, or any other DML\n" ++
    "- Reference only the tables and columns listed in the schema above\n" ++
    "- Use table aliases consistently (s for students, t for teachers, c for courses, etc.)\n" ++
    "\n" ++
    "Examples:\n"),
   .field .fewShotExamples]

def buildSqlPrompt (strOf : Json → String) (schemaContext fewShotExamples : String)
    (conversationHistory : List Turn) (accumulatedIntent : String)
    (retrySql retryError : Option String) : List BaseMessage :=
  let system := formatTemplate
    (fun | .schemaContext => schemaContext | .fewShotExamples => fewShotExamples) sqlSystemTemplate
  let context :=
    if conversationHistory.isEmpty then []
    else ["Conversation context:\n" ++ formatHistory strOf conversationHistory]
  let retry := match retrySql, retryError with
    | some sql, some error =>
      ["Previous attempt failed:\n" ++
        "SQL: " ++ sql ++ "\n" ++
        "Error: " ++ error ++ "\n\n" ++
        "Please generate a corrected SQL query."]
    | _, _ => []
  [.system system,
   .human ("\n\n".intercalate (context ++ ["Question: " ++ accumulatedIntent] ++ retry))]

/-! ## Answer formatter -/

def answerSystem : String :=
  "You are answering a user's question about a university.\n" ++
  "You have been given the raw results of a database query.\n" ++
  "Produce a clear, concise, natural-language answer.\n" ++
  "\n" ++
  "Rules:\n" ++
  "- Write in plain English; never mention SQL, databases, or queries\n" ++
  "- Empty results: state that no matching information was found\n" ++
  "- Single scalar value: state it directly in one sentence\n" ++
  "- List of fewer than 5 items: write them in flowing prose\n" ++
  "- List of 5 or more items: use a bulleted list\n" ++
  "- Do not invent information that is not in the query results"

def buildAnswerPrompt (question dbResultsStr : String) : List BaseMessage :=
  [.system answerSystem,
   .human ("Question: " ++ question ++ "\n\nQuery results (JSON):\n" ++ dbResultsStr ++ "\n\nAnswer:")]

/-! ## Calls of the builders -/

/-- A builder with its arguments. -/
inductive Prompt where
  | merger (accumulatedIntent : Option String) (lastClarification : Json) (currentInput : String)
  | classifier (accumulatedIntent schemaContext : String)
  | sql (schemaContext fewShotExamples : String) (conversationHistory : List Turn)
      (accumulatedIntent : String) (retrySql retryError : Option String)
  | answer (question dbResultsStr : String)
  deriving DecidableEq

/-- The messages the builder returns. -/
def Prompt.messages (strOf : Json → String) : Prompt → List BaseMessage
  | .merger accumulatedIntent lastClarification currentInput =>
    buildMergerPrompt strOf accumulatedIntent lastClarification currentInput
  | .classifier accumulatedIntent schemaContext =>
    buildClassifierPrompt accumulatedIntent schemaContext
  | .sql schemaContext fewShotExamples conversationHistory accumulatedIntent retrySql retryError =>
    buildSqlPrompt strOf schemaContext fewShotExamples conversationHistory accumulatedIntent
      retrySql retryError
  | .answer question dbResultsStr => buildAnswerPrompt question dbResultsStr

def Prompt.isMerger : Prompt → Bool
  | .merger .. => true
  | _ => false

def Prompt.isClassifier : Prompt → Bool
  | .classifier .. => true
  | _ => false

def Prompt.isSql : Prompt → Bool
  | .sql .. => true
  | _ => false

def Prompt.isAnswer : Prompt → Bool
  | .answer .. => true
  | _ => false

/-- The intent a prompt is about; the merger is only looking for one. -/
def Prompt.intent : Prompt → Option String
  | .merger .. => none
  | .classifier accumulatedIntent _ => some accumulatedIntent
  | .sql _ _ _ accumulatedIntent _ _ => some accumulatedIntent
  | .answer question _ => some question

end UniversityQA.Agent
