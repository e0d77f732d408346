import UniversityQA.Agent.State

/-!
# The session store

The in-memory dict from session ids to histories.
-/

namespace UniversityQA.Api

open UniversityQA.Py UniversityQA.Agent

/-- `last_clarification_question` is annotated `str | None`; what the
analyzer decoded goes there unchecked. -/
structure ConversationHistory where
  lastStatus : AgentStatus := .done
  lastClarificationQuestion : Json := .null
  accumulatedIntent : Option String := none
  ambiguityCount : Int := 0
  turns : List Turn := []
  deriving DecidableEq

structure SessionStore where
  store : String → Option ConversationHistory

namespace SessionStore

/-- `SessionStore()`. -/
def empty : SessionStore := ⟨fun _ => none⟩

def get (s : SessionStore) (sessionId : String) : ConversationHistory :=
  (s.store sessionId).getD {}

def save (s : SessionStore) (sessionId : String) (history : ConversationHistory) : SessionStore :=
  ⟨fun k => if k = sessionId then some history else s.store k⟩

@[simp] theorem get_save (s : SessionStore) (sessionId : String) (history : ConversationHistory) :
    (s.save sessionId history).get sessionId = history := by simp [save, get]

theorem get_save_ne (s : SessionStore) {k sessionId : String} (h : k ≠ sessionId)
    (history : ConversationHistory) : (s.save sessionId history).get k = s.get k := by
  simp [save, get, h]

end SessionStore

end UniversityQA.Api
