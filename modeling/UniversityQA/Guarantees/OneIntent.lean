import UniversityQA.Agent.Runs
import UniversityQA.Api.Routes

/-!
# One intent per run

The classifier is asked about one intent; the generator and the formatter ask
about `accumulated_intent or question`, which is another one when the intent
is blank.

* `OneIntent`: all prompts of a run are about the same intent;
* `oneIntent_iff`: that is so unless the merger's reply is blank and the
  classifier still finds it answerable;
* `oneIntent_blank`: a run that answers another question than the one
  approved.
-/

namespace UniversityQA.Guarantees

open UniversityQA.Py UniversityQA.Db UniversityQA.Agent UniversityQA.Api Coroutine

/-- All prompts of the run are about one intent. -/
def OneIntent (tr : List AgentEvent) : Prop := ∃ intent, ∀ i ∈ intents tr, i = intent

/-- The merger replied with nothing but white space. -/
def BlankMerge (tr : List AgentEvent) : Prop :=
  ∃ content, .ok content ∈ repliesTo Prompt.isMerger tr ∧ strip content = ""

/-- The classifier replied that the question is answerable. -/
def RepliesAnswerable (tr : List AgentEvent) : Prop :=
  ∃ content, .ok content ∈ repliesTo Prompt.isClassifier tr ∧ FindsAnswerable content

/-- The intent is blank exactly when the merger made it so. -/
theorem blank_iff_of_merges {c : Configurable} {s : AgentState} {tm : List AgentEvent}
    {intent : String} (h : Merges s c tm intent) (hq : s.question ≠ "") :
    (∃ content, .ok content ∈ repliesTo Prompt.isMerger tm ∧ strip content = "") ↔ intent = "" := by
  cases h with
  | continuation content hc =>
    have hreplies : repliesTo Prompt.isMerger [replied c (mergerPrompt s) (.ok content)] =
        [.ok content] := rfl
    rw [hreplies]
    constructor
    · rintro ⟨content', hmem, hs⟩
      cases List.mem_singleton.mp hmem
      exact hs
    · intro hs
      exact ⟨content, List.mem_singleton.mpr rfl, hs⟩
  | fresh hc =>
    constructor
    · rintro ⟨content, hmem, _⟩
      cases hmem
    · intro he
      exact absurd he (orElse_ne_empty _ hq)

theorem intents_merges {c : Configurable} {s : AgentState} {tm : List AgentEvent} {intent : String}
    (h : Merges s c tm intent) : (replies tm).filterMap (fun r => r.1.intent) = [] := by
  cases h <;> rfl

/-- Without an answerable reply there is one intent at most. -/
theorem oneIntent_iff_of_unanswered {tr : List AgentEvent} (intent : String)
    (hi : ∀ i ∈ intents tr, i = intent) (ha : ¬ RepliesAnswerable tr) :
    OneIntent tr ↔ ¬ (BlankMerge tr ∧ RepliesAnswerable tr) :=
  ⟨fun _ h => ha h.2, fun _ => ⟨intent, hi⟩⟩

theorem graphRun_oneIntent_iff {c : Configurable} {s : AgentState} {tr : List AgentEvent}
    {o : Except PyException AgentState} (h : GraphRun c s tr o) (hq : s.question ≠ "") :
    OneIntent tr ↔ ¬ (BlankMerge tr ∧ RepliesAnswerable tr) := by
  rcases graphRun_replies h with ⟨text, hc, hr⟩ | ⟨tm, intent, hm, ⟨reply, hr, hna⟩ |
    ⟨content, t, hf, hr, ha⟩⟩
  · have hi : intents tr = [] := by rw [intents, hr]; rfl
    have hcl : repliesTo Prompt.isClassifier tr = [] := by rw [repliesTo, callsTo, hr]; rfl
    refine oneIntent_iff_of_unanswered "" (by simp [hi]) ?_
    rintro ⟨content, hmem, _⟩
    rw [hcl] at hmem
    cases hmem
  · have hi : intents tr = [intent] := by
      rw [intents, hr, List.filterMap_append, intents_merges hm]
      rfl
    have hcl : repliesTo Prompt.isClassifier tr = [reply] := by
      rw [repliesTo, callsTo, hr, List.filter_append, ← callsTo, (callsTo_merges hm).2]
      rfl
    refine oneIntent_iff_of_unanswered intent (by simp [hi]) ?_
    rintro ⟨content, hmem, hf⟩
    rw [hcl, List.mem_singleton] at hmem
    exact hna content hmem.symm hf
  · obtain ⟨n, hn⟩ := attempts_intents ha
    have hi : intents tr = intent :: List.replicate (n + 1) (orElse (some intent) s.question) := by
      rw [intents, hr, List.filterMap_append, intents_merges hm]
      exact congrArg (intent :: ·) hn
    have hcl : RepliesAnswerable tr := by
      refine ⟨content, ?_, hf⟩
      rw [repliesTo, callsTo, hr, List.filter_append, ← callsTo, (callsTo_merges hm).2]
      exact List.mem_cons_self
    have hmerger : repliesTo Prompt.isMerger tr = repliesTo Prompt.isMerger tm := by
      rw [repliesTo, callsTo, hr, List.filter_append]
      show List.map Prod.snd (callsTo Prompt.isMerger tm ++ callsTo Prompt.isMerger t) = _
      rw [(attempts_callsTo ha).1, List.append_nil]
      rfl
    have hblank : BlankMerge tr ↔ intent = "" := by
      rw [BlankMerge, hmerger]
      exact blank_iff_of_merges hm hq
    have hone : OneIntent tr ↔ intent ≠ "" := by
      rw [OneIntent, hi]
      constructor
      · rintro ⟨i, hall⟩ rfl
        have h₁ : "" = i := hall "" List.mem_cons_self
        have h₂ : s.question = i := hall s.question (by simp [List.replicate_succ])
        exact hq (h₂.trans h₁.symm)
      · intro hne
        rw [orElse_of_ne_empty hne]
        exact ⟨intent, fun i hmem => by simpa using hmem⟩
    rw [hone, hblank]
    tauto

/-- **One intent.**  In a run of the graph that `chat` starts all prompts are
about the intent the classifier was asked about, unless the merger's reply is
blank and the classifier finds it answerable. -/
theorem oneIntent_iff (app : App) (schemaContext traceId : String) (history : ConversationHistory)
    (req : ChatRequest) {tr : List AgentEvent} {o : Except PyException AgentState}
    (h : Runs (ainvokeGraph app.configurable
      (initialState app schemaContext history traceId req)) tr o) :
    OneIntent tr ↔ ¬ (BlankMerge tr ∧ RepliesAnswerable tr) :=
  graphRun_oneIntent_iff (ainvoke_run h) req.question_ne_empty

theorem oneIntent_iff_sample : OneIntent (sampleRun {} (selectsOne "")).2.1 := by
  refine (oneIntent_iff sampleApp "" "t" {} sampleRequest (sampleRun_runs _ _)).mpr ?_
  rintro ⟨⟨content, hmem, _⟩, _⟩
  have hlength : (repliesTo Prompt.isMerger (sampleRun {} (selectsOne "")).2.1).length = 0 := by
    decide +kernel
  rw [List.eq_nil_of_length_eq_zero hlength] at hmem
  cases hmem

/-- A session that waits for the reply to a clarification question. -/
def askedHistory : ConversationHistory where
  lastStatus := .askingClarification
  lastClarificationQuestion := .str "Which semester?"
  accumulatedIntent := some "Who teaches?"
  ambiguityCount := 1
  turns := [⟨.user, .str "Who teaches?"⟩, ⟨.assistant, .str "Which semester?"⟩]

/-- The classifier approves the empty intent, the answer is about the reply of
the user alone. -/
theorem oneIntent_blank :
    Runs (ainvokeGraph sampleApp.configurable
        (initialState sampleApp "" askedHistory "t" sampleRequest))
      (sampleRun askedHistory (selectsOne " ")).2.1 (sampleRun askedHistory (selectsOne " ")).1 ∧
    intents (sampleRun askedHistory (selectsOne " ")).2.1 =
      ["", "Who teaches Algorithms?", "Who teaches Algorithms?"] ∧
    ¬ OneIntent (sampleRun askedHistory (selectsOne " ")).2.1 := by
  have hintents : intents (sampleRun askedHistory (selectsOne " ")).2.1 =
      ["", "Who teaches Algorithms?", "Who teaches Algorithms?"] := by decide +kernel
  refine ⟨sampleRun_runs _ _, hintents, ?_⟩
  rintro ⟨i, hall⟩
  rw [hintents] at hall
  have h₁ : "" = i := hall "" (by simp)
  have h₂ : "Who teaches Algorithms?" = i := hall _ (by simp)
  exact absurd (h₁.trans h₂.symm) (by decide)

end UniversityQA.Guarantees
