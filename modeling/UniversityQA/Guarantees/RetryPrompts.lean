import UniversityQA.Guarantees.CallProtocol

/-!
# The prompts of the retry loop

The generator reads the last query and its error out of the state, where the
executor left them.

* `buildSqlPrompt_eq`: the two messages, in closed form;
* `attempts_chain`: along the loop every call is told about the one before it;
* `retry_prompts`: so it is in every run of the graph.
-/

namespace UniversityQA.Guarantees

open UniversityQA.Py UniversityQA.Db UniversityQA.Agent UniversityQA.Api Coroutine

/-! ## The messages -/

/-- The block a failed attempt adds to the human message. -/
def retryBlock (sql error : String) : String :=
  "Previous attempt failed:\n" ++ "SQL: " ++ sql ++ "\n" ++ "Error: " ++ error ++ "\n\n" ++
    "Please generate a corrected SQL query."

/-- The human message without such a block. -/
def sqlQuestion (strOf : Json → String) (conversationHistory : List Turn) (intent : String) : String :=
  let context :=
    if conversationHistory.isEmpty then []
    else ["Conversation context:\n" ++ formatHistory strOf conversationHistory]
  "\n\n".intercalate (context ++ ["Question: " ++ intent])

/-- The human message after an attempt with this query and this error. -/
def sqlHuman (question : String) : Option String → Option String → String
  | some sql, some error => question ++ "\n\n" ++ retryBlock sql error
  | _, _ => question

def sqlSystem (schemaContext fewShotExamples : String) : String :=
  formatTemplate
    (fun | .schemaContext => schemaContext | .fewShotExamples => fewShotExamples) sqlSystemTemplate

theorem formatTemplate_two {F : Type} (arg : F → String) (a b : String) (f g : F) :
    formatTemplate arg [.text a, .field f, .text b, .field g] = a ++ arg f ++ b ++ arg g := by
  simp only [formatTemplate, String.append_empty, String.append_assoc]

/-- The schema and the examples stand in fixed places, as they are. -/
theorem sqlSystem_verbatim : ∃ front middle : String, ∀ schemaContext fewShotExamples : String,
    sqlSystem schemaContext fewShotExamples =
      front ++ schemaContext ++ middle ++ fewShotExamples :=
  ⟨_, _, fun _ _ => formatTemplate_two _ _ _ _ _⟩

theorem intercalate_retryBlock {parts : List String} (hne : parts ≠ []) (sql error : String) :
    "\n\n".intercalate (parts ++ [retryBlock sql error]) =
      "\n\n".intercalate parts ++ "\n\n" ++ retryBlock sql error := by
  rw [String.intercalate_append_of_ne_nil hne (List.cons_ne_nil _ _), String.intercalate_singleton]

theorem buildSqlPrompt_eq (strOf : Json → String) (schemaContext fewShotExamples : String)
    (history : List Turn) (intent : String) (retrySql retryError : Option String) :
    buildSqlPrompt strOf schemaContext fewShotExamples history intent retrySql retryError =
      [.system (sqlSystem schemaContext fewShotExamples),
        .human (sqlHuman (sqlQuestion strOf history intent) retrySql retryError)] := by
  unfold buildSqlPrompt sqlQuestion
  dsimp only
  generalize (if history.isEmpty = true then [] else _ : List String) = context
  cases retrySql with
  | none =>
    rw [List.append_nil]
    rfl
  | some sql =>
    cases retryError with
    | none =>
      rw [List.append_nil]
      rfl
    | some error =>
      have hne : context ++ ["Question: " ++ intent] ≠ [] := by simp
      exact congrArg₂ (fun system human => [BaseMessage.system system, .human human]) rfl
        (intercalate_retryBlock hne sql error)

/-! ## The loop -/

/-- What the generator says in a state after the attempt with this query and
this error. -/
def sqlMessages (c : Configurable) (s : AgentState) (retrySql retryError : Option String) :
    List BaseMessage :=
  [.system (sqlSystem s.schemaContext c.fewShotExamples),
    .human (sqlHuman (sqlQuestion c.strOf s.conversationHistory (askedIntent s)) retrySql retryError)]

/-- The attempt a state remembers. -/
def failedSql (s : AgentState) : Option String := if s.retryCount > 0 then s.sql else none

def failedError (s : AgentState) : Option String := if s.retryCount > 0 then s.sqlError else none

theorem sqlPrompt_messages (c : Configurable) (s : AgentState) :
    (sqlPrompt s c).messages c.strOf = sqlMessages c s (failedSql s) (failedError s) :=
  buildSqlPrompt_eq _ _ _ _ _ _ _

/-- Each call but the first is told about the one before, which the connector
has refused. -/
def Chained (c : Configurable) (s : AgentState) (tr : List AgentEvent) : Prop :=
  ∀ k messages reply, (sent Prompt.isSql tr)[k + 1]? = some (messages, reply) →
    ∃ messages' previous error, (sent Prompt.isSql tr)[k]? = some (messages', .ok previous) ∧
      (queries tr)[k]? = some (strip previous, .error error) ∧
      messages = sqlMessages c s (some (strip previous)) (some error)

theorem chained_of_length {c : Configurable} {s : AgentState} {tr : List AgentEvent}
    (h : (sent Prompt.isSql tr).length ≤ 1) : Chained c s tr := by
  intro k messages reply hcall
  obtain ⟨hlt, _⟩ := List.getElem?_eq_some_iff.mp hcall
  omega

/-- The first call is told what the state remembers, and then the chain goes
on. -/
theorem attempts_chain {c : Configurable} {s : AgentState} {tr : List AgentEvent}
    {o : Except PyException AgentState} (h : Attempts c s tr o) (hcount : 0 ≤ s.retryCount) :
    (∃ reply, (sent Prompt.isSql tr)[0]? =
        some (sqlMessages c s (failedSql s) (failedError s), reply)) ∧ Chained c s tr := by
  induction h with
  | @generatorRaised s text =>
    rw [← sqlPrompt_messages]
    exact ⟨⟨_, rfl⟩, chained_of_length (Nat.le_refl 1)⟩
  | @rejected s content message hv =>
    rw [← sqlPrompt_messages]
    exact ⟨⟨_, rfl⟩, chained_of_length (Nat.le_refl 1)⟩
  | @exhausted s content errorMsg hv hr =>
    rw [← sqlPrompt_messages]
    exact ⟨⟨_, rfl⟩, chained_of_length (Nat.le_refl 1)⟩
  | @formatterRaised s f content results text hv hf =>
    rw [← sqlPrompt_messages]
    exact ⟨⟨_, rfl⟩, chained_of_length (Nat.le_refl 1)⟩
  | @answered s f content results answer hv hf =>
    rw [← sqlPrompt_messages]
    exact ⟨⟨_, rfl⟩, chained_of_length (Nat.le_refl 1)⟩
  | @retried s tr o content errorMsg hv hr ha ih =>
    have hnext : 0 < ((s.approved content).retried errorMsg).retryCount := by
      rw [AgentState.retryCount_retried, AgentState.retryCount_approved]
      omega
    obtain ⟨⟨reply, hfirst⟩, hchain⟩ := ih (Int.le_of_lt hnext)
    rw [failedSql, if_pos hnext, failedError, if_pos hnext] at hfirst
    have hsent : sent Prompt.isSql (roundEvents c s content (.error errorMsg)
        (executorRetry (s.approved content) errorMsg) ++ tr) =
        (sqlMessages c s (failedSql s) (failedError s), .ok content) :: sent Prompt.isSql tr := by
      rw [← sqlPrompt_messages, sent_append]
      rfl
    have hqueries : queries (roundEvents c s content (.error errorMsg)
        (executorRetry (s.approved content) errorMsg) ++ tr) =
        (orElse (some (strip content)) "", .error errorMsg) :: queries tr := by
      rw [queries_append]
      rfl
    rw [orElse_some_empty] at hqueries
    unfold Chained
    rw [hsent, hqueries]
    refine ⟨⟨_, rfl⟩, ?_⟩
    intro k messages reply' hcall
    rw [List.getElem?_cons_succ] at hcall
    cases k with
    | zero =>
      rw [hfirst] at hcall
      cases hcall
      exact ⟨_, content, errorMsg, rfl, rfl, rfl⟩
    | succ k =>
      obtain ⟨messages', previous, error, hsentk, hquery, heq⟩ := hchain k messages reply' hcall
      exact ⟨messages', previous, error, hsentk, hquery, heq⟩

/-! ## Whole runs -/

/-- The generator's calls in a run: the system message is always the same, the
first human message is the question, and every later one goes back to the call
before it, whose query the connector refused. -/
structure RetryChain (system question : String) (tr : List AgentEvent) : Prop where
  first : ∀ messages reply, (sent Prompt.isSql tr)[0]? = some (messages, reply) →
    messages = [.system system, .human question]
  retry : ∀ k messages reply, (sent Prompt.isSql tr)[k + 1]? = some (messages, reply) →
    ∃ messages' previous error, (sent Prompt.isSql tr)[k]? = some (messages', .ok previous) ∧
      (queries tr)[k]? = some (strip previous, .error error) ∧
      messages = [.system system, .human (question ++ "\n\n" ++ retryBlock (strip previous) error)]

theorem graphRun_chain {c : Configurable} {s : AgentState} {tr : List AgentEvent}
    {o : Except PyException AgentState} (h : GraphRun c s tr o) (hs : s.retryCount = 0) :
    ∃ intent, RetryChain (sqlSystem s.schemaContext c.fewShotExamples)
      (sqlQuestion c.strOf s.conversationHistory intent) tr := by
  have hkind : OfTheLoop Prompt.isSql := ⟨fun _ _ _ => rfl, fun _ _ => rfl⟩
  rcases graphRun_split hkind h with ⟨hnone, _, _⟩ | ⟨intent, pre, t, rfl, hpre, hqueries, ha⟩
  · refine ⟨"", fun messages reply hcall => ?_, fun k messages reply hcall => ?_⟩
    · rw [hnone] at hcall
      cases hcall
    · rw [hnone] at hcall
      cases hcall
  · have hcount : (s.classified .answerable intent).retryCount = 0 := by
      rw [AgentState.retryCount_classified, hs]
    have hfresh : ¬ (s.classified .answerable intent).retryCount > 0 := by omega
    obtain ⟨⟨reply, hfirst⟩, hchain⟩ := attempts_chain ha (Int.le_of_eq hcount.symm)
    rw [failedSql, if_neg hfresh, failedError, if_neg hfresh] at hfirst
    refine ⟨askedIntent (s.classified .answerable intent), ?_, ?_⟩
    · intro messages reply' hcall
      rw [sent_append, hpre, List.nil_append, hfirst] at hcall
      cases hcall
      rfl
    · intro k messages reply' hcall
      rw [sent_append, hpre, List.nil_append] at hcall ⊢
      rw [queries_append, hqueries, List.nil_append]
      exact hchain k messages reply' hcall

end UniversityQA.Guarantees
