import UniversityQA.Agent.Graph

/-!
# The schema context in prompts

The classifier and the generator are told the schema.  Both take it from the
state, where no node changes it.

* `asks_showsSchema`: all calls of a run show the schema context it began with.
-/

namespace UniversityQA.Agent

open UniversityQA.Py Coroutine StateGraph

/-- The text stands in the system message. -/
def Shows (schemaContext : String) (messages : List BaseMessage) : Prop :=
  ∃ before after human, messages = [.system (before ++ schemaContext ++ after), .human human]

/-- Calls of the classifier and of the generator show the schema context. -/
def ShowsSchema (schemaContext : String) : AgentQuery → Prop
  | .ainvoke prompt messages =>
    prompt.isClassifier = true ∨ prompt.isSql = true → Shows schemaContext messages
  | _ => True

theorem formatTemplate_field {F : Type} (arg : F → String) (before : String) (f : F)
    (after : List (Piece F)) :
    formatTemplate arg (.text before :: .field f :: after) =
      before ++ arg f ++ formatTemplate arg after := (String.append_assoc ..).symm

theorem shows_classifier (intent schemaContext : String) :
    Shows schemaContext (buildClassifierPrompt intent schemaContext) := by
  unfold buildClassifierPrompt classifierSystemTemplate
  rw [formatTemplate_field]
  exact ⟨_, _, _, rfl⟩

theorem shows_sql (strOf : Json → String) (schemaContext fewShotExamples : String)
    (conversationHistory : List Turn) (intent : String) (retrySql retryError : Option String) :
    Shows schemaContext (buildSqlPrompt strOf schemaContext fewShotExamples conversationHistory
      intent retrySql retryError) := by
  unfold buildSqlPrompt sqlSystemTemplate
  rw [formatTemplate_field]
  exact ⟨_, _, _, rfl⟩

theorem showsSchema_ofModel (schemaContext : String) : OfModel (ShowsSchema schemaContext) := by
  intro q hq
  cases q with
  | ainvoke prompt messages => exact absurd rfl (hq prompt messages)
  | executeQuery sql => trivial
  | log record => trivial
  | superstep node state => trivial

/-- **Prompts.**  All of a run show the schema context it began with. -/
theorem asks_showsSchema (c : Configurable) (s : AgentState) :
    (ainvokeGraph c s).Asks (ShowsSchema s.schemaContext) := by
  refine Graph.asks_invoke (I := fun _ s' => s'.schemaContext = s.schemaContext)
    (fun _ _ => trivial) ?_ ?_ _ rfl
  · intro n s' hs'
    refine asks_node (showsSchema_ofModel _) fun prompt hprompt => ?_
    rw [← hs']
    cases hprompt with
    | merger => rintro (h | h) <;> cases h
    | classifier intent => exact fun _ => shows_classifier intent s'.schemaContext
    | sql => exact fun _ => shows_sql ..
    | answer => rintro (h | h) <;> cases h
  · intro n s' u m hs' _
    exact hs'

end UniversityQA.Agent
