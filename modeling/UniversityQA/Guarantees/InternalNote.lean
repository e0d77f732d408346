import UniversityQA.Agent.Classification
import UniversityQA.Api.Sessions

/-!
# The classifier's internal note

Two worlds that are alike but for the `reason` in the objects the classifier
replies with.  What the client sees is the same in both, exactly as long as
the classifier gives the same reason wherever it calls a question out of
scope.

* `twins_turn`: one request in the two worlds;
* `internal_note_hidden_iff`: any sequence of requests;
* `internal_note_shown`: two notes on one question, two answers.
-/

namespace UniversityQA.Guarantees

open UniversityQA.Py UniversityQA.Agent UniversityQA.Api Coroutine Service

/-! ## Replies that differ in the note -/

/-- Equal but for the value of `reason`, a string in both. -/
def SameButReason (p₁ p₂ : JsonObject) : Prop :=
  (∀ key, key ≠ "reason" → p₁.lookup key = p₂.lookup key) ∧
    (p₁.lookup "reason" = p₂.lookup "reason" ∨
      ∃ r₁ r₂, p₁.lookup "reason" = some (.str r₁) ∧ p₂.lookup "reason" = some (.str r₂))

theorem SameButReason.get {p₁ p₂ : JsonObject} (h : SameButReason p₁ p₂) {key : String}
    (hkey : key ≠ "reason") (default : Json) :
    JsonObject.get p₁ key default = JsonObject.get p₂ key default := by
  rw [JsonObject.get, JsonObject.get, h.1 key hkey]

/-- Two contents that decode to such objects. -/
def SameNote (content₁ content₂ : String) : Prop :=
  ∃ p₁ p₂, loads content₁ = .ok (.obj p₁) ∧ loads content₂ = .ok (.obj p₂) ∧ SameButReason p₁ p₂

/-- Where both are a reason for a refusal it is the same one. -/
def AgreeOnReason (content₁ content₂ : String) : Prop :=
  ∀ r₁ r₂, GivesReason content₁ r₁ → GivesReason content₂ r₂ → r₁ = r₂

theorem givesReason_unique {content : String} {r₁ r₂ : Json} (h₁ : GivesReason content r₁)
    (h₂ : GivesReason content r₂) : r₁ = r₂ := by
  have hv := (verdict_of_givesReason h₁ 0 0).symm.trans (verdict_of_givesReason h₂ 0 0)
  cases hv
  rfl

theorem agreed {content₁ content₂ : String} {r : Json} (h₁ : GivesReason content₁ r)
    (h₂ : GivesReason content₂ r) {ambiguityCount maxRounds : Int} :
    verdict ambiguityCount maxRounds content₁ = verdict ambiguityCount maxRounds content₂ ∧
      AgreeOnReason content₁ content₂ := by
  refine ⟨?_, fun r₁ r₂ hr₁ hr₂ => ?_⟩
  · rw [verdict_of_givesReason h₁, verdict_of_givesReason h₂]
  · rw [givesReason_unique hr₁ h₁, givesReason_unique hr₂ h₂]

/-- The analyzer tells two such contents apart by the reason of a refusal. -/
theorem verdict_sameNote {content₁ content₂ : String} (h : SameNote content₁ content₂)
    (ambiguityCount maxRounds : Int) :
    (verdict ambiguityCount maxRounds content₁ = verdict ambiguityCount maxRounds content₂ ∧
        AgreeOnReason content₁ content₂) ∨
      ∃ r₁ r₂, r₁ ≠ r₂ ∧ GivesReason content₁ (.str r₁) ∧ GivesReason content₂ (.str r₂) := by
  obtain ⟨p₁, p₂, h₁, h₂, hsame⟩ := h
  have hstatus := hsame.get (show "status" ≠ "reason" by decide) (.str "out_of_scope")
  have hask := hsame.get (show "clarification_question" ≠ "reason" by decide)
    (.str "Could you clarify your question?")
  by_cases hrefuse : JsonObject.get p₂ "status" (.str "out_of_scope") ≠ .str "answerable" ∧
      JsonObject.get p₂ "status" (.str "out_of_scope") ≠ .str "ambiguous"
  · have hgives₁ := (givesReason_iff h₁ _).mpr ⟨hstatus ▸ hrefuse.1, hstatus ▸ hrefuse.2, rfl⟩
    have hgives₂ := (givesReason_iff h₂ _).mpr ⟨hrefuse.1, hrefuse.2, rfl⟩
    rcases hsame.2 with hreason | ⟨r₁, r₂, hr₁, hr₂⟩
    · have hget (default : Json) :
          JsonObject.get p₁ "reason" default = JsonObject.get p₂ "reason" default := by
        rw [JsonObject.get, JsonObject.get, hreason]
      rw [hget] at hgives₁
      exact .inl (agreed hgives₁ hgives₂)
    · rw [JsonObject.get, hr₁] at hgives₁
      rw [JsonObject.get, hr₂] at hgives₂
      by_cases hr : r₁ = r₂
      · subst hr
        exact .inl (agreed hgives₁ hgives₂)
      · exact .inr ⟨r₁, r₂, hr, hgives₁, hgives₂⟩
  · refine .inl ⟨?_, fun _ _ _ hg₂ => ?_⟩
    · rw [verdict_of_object h₁, verdict_of_object h₂, hstatus, hask]
      by_cases hna : JsonObject.get p₂ "status" (.str "out_of_scope") = .str "answerable"
      · rw [if_pos hna, if_pos hna]
      · have hnm := not_not.mp fun hnm => hrefuse ⟨hna, hnm⟩
        rw [if_pos hnm, if_pos hnm]
    · obtain ⟨hna, hnm, _⟩ := (givesReason_iff h₂ _).mp hg₂
      exact absurd ⟨hna, hnm⟩ hrefuse

/-! ## Worlds that differ in the note -/

/-- Alike but for the note in the classifier's replies. -/
structure Twins (w₁ w₂ : World) : Prop where
  schemaContext : w₁.schemaContext = w₂.schemaContext
  uuid4 : w₁.uuid4 = w₂.uuid4
  others : ∀ q, NotClassifier q → ∀ n, w₁.agent n q = w₂.agent n q
  classifier : ∀ n prompt messages, prompt.isClassifier = true →
    ∃ content₁ content₂, w₁.agent n (.ainvoke prompt messages) = .ok content₁ ∧
      w₂.agent n (.ainvoke prompt messages) = .ok content₂ ∧ SameNote content₁ content₂

/-- The classifier gives the same reasons in the two traces. -/
def ReasonsAgree (t₁ t₂ : List AgentEvent) : Prop :=
  ∀ content₁ content₂, .ok content₁ ∈ repliesTo Prompt.isClassifier t₁ →
    .ok content₂ ∈ repliesTo Prompt.isClassifier t₂ → AgreeOnReason content₁ content₂

theorem reasonsAgree_of_nil {t₁ t₂ : List AgentEvent}
    (h : repliesTo Prompt.isClassifier t₁ = []) : ReasonsAgree t₁ t₂ := by
  intro content₁ content₂ h₁
  rw [h] at h₁
  cases h₁

theorem reasonsAgree_of_singleton {t₁ t₂ : List AgentEvent} {content₁ content₂ : String}
    (h₁ : repliesTo Prompt.isClassifier t₁ = [.ok content₁])
    (h₂ : repliesTo Prompt.isClassifier t₂ = [.ok content₂]) :
    ReasonsAgree t₁ t₂ ↔ AgreeOnReason content₁ content₂ := by
  unfold ReasonsAgree
  rw [h₁, h₂]
  constructor
  · intro h
    exact h content₁ content₂ (List.mem_singleton_self _) (List.mem_singleton_self _)
  · intro h content₁' content₂' hmem₁ hmem₂
    cases List.mem_singleton.mp hmem₁
    cases List.mem_singleton.mp hmem₂
    exact h

/-- Two runs of the graph: alike, or apart in the answer. -/
inductive TwinRuns (g₁ g₂ : Except PyException AgentState × List AgentEvent × Nat) : Prop
  | alike : g₁.1 = g₂.1 → g₁.2.2 = g₂.2.2 → ReasonsAgree g₁.2.1 g₂.2.1 → TwinRuns g₁ g₂
  | apart {r₁ r₂ result₁ result₂} : r₁ ≠ r₂ → g₁.1 = .ok result₁ → result₁.answer = .str r₁ →
      g₂.1 = .ok result₂ → result₂.answer = .str r₂ → ¬ ReasonsAgree g₁.2.1 g₂.2.1 → TwinRuns g₁ g₂

section Twins

variable {w₁ w₂ : World}

theorem Twins.run_eq (h : Twins w₁ w₂) {α : Type} {p : NodeProg α} (hp : p.Asks NotClassifier)
    (n : Nat) : run w₁.agent.handle n p = run w₂.agent.handle n p := by
  refine run_congr (fun q hq m => ?_) hp n
  rw [Oracle.handle, Oracle.handle, h.others q hq m]

/-- The one reply of the classifier in a run that goes on after it. -/
theorem repliesTo_classifier {t : List AgentEvent} (ht : callsTo Prompt.isClassifier t = [])
    (w : Oracle) (m : Nat) (c : Configurable) (s : AgentState) (intent content : String)
    (r : Except PyException Verdict) :
    repliesTo Prompt.isClassifier (t ++ replied c (.classifier intent s.schemaContext) (.ok content) ::
      (run w.handle m (conclude c s intent r)).2.1) = [.ok content] := by
  have hrest := callsTo_eq_nil (w := w) (asks_conclude c s intent r) m
  have hcons : replied c (.classifier intent s.schemaContext) (.ok content) ::
      (run w.handle m (conclude c s intent r)).2.1 =
    [replied c (.classifier intent s.schemaContext) (.ok content)] ++
      (run w.handle m (conclude c s intent r)).2.1 := rfl
  rw [hcons, repliesTo, callsTo_append, callsTo_append, ht, hrest]
  rfl

/-- A refusal ends the run with its reason for an answer. -/
theorem run_refusal (w : Oracle) (m : Nat) (c : Configurable) (s : AgentState) (intent : String)
    (reason : Json) : (run w.handle m (conclude c s intent (.ok (.outOfScope reason)))).1 =
      .ok (s.merge ((Verdict.outOfScope reason).update s intent)) := rfl

/-- **The graph in two worlds.** -/
theorem Twins.ainvokeGraph (h : Twins w₁ w₂) (c : Configurable) (s : AgentState) (n : Nat) :
    TwinRuns (run w₁.agent.handle n (ainvokeGraph c s)) (run w₂.agent.handle n (ainvokeGraph c s)) := by
  have hnil := callsTo_eq_nil (w := w₂.agent) (asks_beforeClassifier c s) n
  rw [run_ainvokeGraph, run_ainvokeGraph, h.run_eq (asks_beforeClassifier c s) n]
  generalize run w₂.agent.handle n (beforeClassifier c s) = before at hnil
  rcases before with ⟨e | intent, t, m⟩
  · exact .alike rfl rfl (reasonsAgree_of_nil (congrArg (List.map Prod.snd) hnil))
  · obtain ⟨content₁, content₂, h₁, h₂, hnote⟩ := h.classifier m
      (.classifier intent s.schemaContext) ((Prompt.classifier intent s.schemaContext).messages c.strOf)
      rfl
    dsimp only
    rw [h₁, h₂]
    dsimp only
    have hagree := reasonsAgree_of_singleton
      (repliesTo_classifier hnil w₁.agent (m + 1) c s intent content₁
        (verdict s.ambiguityCount c.maxRounds content₁))
      (repliesTo_classifier hnil w₂.agent (m + 1) c s intent content₂
        (verdict s.ambiguityCount c.maxRounds content₂))
    rcases verdict_sameNote hnote s.ambiguityCount c.maxRounds with
      ⟨hv, hreasons⟩ | ⟨r₁, r₂, hr, hg₁, hg₂⟩
    · have hafter := h.run_eq (asks_conclude c s intent
        (verdict s.ambiguityCount c.maxRounds content₂)) (m + 1)
      refine .alike ?_ ?_ (hagree.mpr hreasons)
      · rw [hv, hafter]
      · rw [hv, hafter]
    · have hapart : ¬ AgreeOnReason content₁ content₂ := by
        intro hreasons
        have heq := hreasons _ _ hg₁ hg₂
        cases heq
        exact hr rfl
      rw [← hagree] at hapart
      rw [verdict_of_givesReason hg₁, verdict_of_givesReason hg₂] at hapart ⊢
      exact .apart hr (run_refusal w₁.agent (m + 1) c s intent (.str r₁)) rfl
        (run_refusal w₂.agent (m + 1) c s intent (.str r₂)) rfl hapart

theorem Twins.graphRun (h : Twins w₁ w₂) (app : App) (st : SessionStore) (n : Nat)
    (req : ChatRequest) : TwinRuns (w₁.graphRun app st n req) (w₂.graphRun app st n req) := by
  have hstate : w₁.initialState app st n req = w₂.initialState app st n req := by
    rw [World.initialState, World.initialState, h.schemaContext, h.uuid4]
  rw [World.graphRun, World.graphRun, hstate]
  exact h.ainvokeGraph app.configurable _ (n + 3)

end Twins

/-! ## What the client sees -/

/-- The answer and the status in the response, or the exception instead. -/
def view (x : ChatExchange) : Except PyException (Option String × AgentStatus) :=
  x.outcome.map fun reply => (reply.body.answer, reply.body.status)

/-- The classifier gives the same reasons in the two exchanges. -/
def SameReasons (x₁ x₂ : ChatExchange) : Prop :=
  ReasonsAgree (agentEvents x₁.events) (agentEvents x₂.events)

/-- The exchange of a request with the given run of the graph. -/
theorem answer_agentEvents (w : World) (app : App) (s : SessionStore × Nat) (req : ChatRequest) :
    agentEvents (answer w.handle (chat app) s req).1.events = (w.graphRun app s.1 s.2 req).2.1 := by
  obtain ⟨st, n⟩ := s
  rw [answer, w.run_chat]
  rcases w.graphRun app st n req with ⟨e | result, t, m⟩
  · exact agentEvents_loaded ..
  · exact agentEvents_request _ _ _ req t _ rfl

/-- A text in the final state is the answer in the response. -/
theorem view_answer (w : World) (app : App) (s : SessionStore × Nat) (req : ChatRequest)
    {result : AgentState} {text : String} (hok : (w.graphRun app s.1 s.2 req).1 = .ok result)
    (htext : result.answer = .str text) :
    view (answer w.handle (chat app) s req).1 = .ok (some text, result.status) := by
  obtain ⟨st, n⟩ := s
  rw [answer, w.run_chat]
  rcases hg : w.graphRun app st n req with ⟨e | result', t, m⟩
  · rw [hg] at hok
    cases hok
  · rw [hg] at hok
    cases hok
    simp [view, respond, ChatResponse.build, htext, Except.map]

/-- Runs of the graph with one outcome lead to one response and one store. -/
theorem answer_congr {w₁ w₂ : World} (app : App) (s : SessionStore × Nat) (req : ChatRequest)
    (huuid : w₁.uuid4 = w₂.uuid4)
    (houtcome : (w₁.graphRun app s.1 s.2 req).1 = (w₂.graphRun app s.1 s.2 req).1)
    (hcount : (w₁.graphRun app s.1 s.2 req).2.2 = (w₂.graphRun app s.1 s.2 req).2.2) :
    (answer w₁.handle (chat app) s req).1.outcome = (answer w₂.handle (chat app) s req).1.outcome ∧
      (answer w₁.handle (chat app) s req).2 = (answer w₂.handle (chat app) s req).2 := by
  obtain ⟨st, n⟩ := s
  rw [answer, answer, w₁.run_chat, w₂.run_chat, huuid]
  generalize w₁.graphRun app st n req = g₁ at houtcome hcount
  generalize w₂.graphRun app st n req = g₂ at houtcome hcount
  obtain ⟨o₁, t₁, m₁⟩ := g₁
  obtain ⟨o₂, t₂, m₂⟩ := g₂
  obtain rfl : o₁ = o₂ := houtcome
  obtain rfl : m₁ = m₂ := hcount
  cases o₁ with
  | error e => exact ⟨rfl, rfl⟩
  | ok result => exact ⟨rfl, rfl⟩

/-- **A turn in two worlds.** -/
theorem twins_turn {w₁ w₂ : World} (h : Twins w₁ w₂) (app : App) (s : SessionStore × Nat)
    (req : ChatRequest) :
    (view (answer w₁.handle (chat app) s req).1 = view (answer w₂.handle (chat app) s req).1 ∧
        (answer w₁.handle (chat app) s req).2 = (answer w₂.handle (chat app) s req).2 ∧
        SameReasons (answer w₁.handle (chat app) s req).1 (answer w₂.handle (chat app) s req).1) ∨
      (view (answer w₁.handle (chat app) s req).1 ≠ view (answer w₂.handle (chat app) s req).1 ∧
        ¬ SameReasons (answer w₁.handle (chat app) s req).1 (answer w₂.handle (chat app) s req).1) := by
  rw [SameReasons, answer_agentEvents, answer_agentEvents]
  cases h.graphRun app s.1 s.2 req with
  | alike houtcome hcount hreasons =>
    obtain ⟨hsame, hstate⟩ := answer_congr app s req h.uuid4 houtcome hcount
    refine .inl ⟨?_, hstate, hreasons⟩
    rw [view, view, hsame]
  | apart hr hok₁ htext₁ hok₂ htext₂ hreasons =>
    refine .inr ⟨?_, hreasons⟩
    rw [view_answer w₁ app s req hok₁ htext₁, view_answer w₂ app s req hok₂ htext₂]
    intro heq
    have htext := (Prod.mk.inj (Except.ok.inj heq)).1
    exact hr (Option.some.inj htext)

/-- **The internal note.** -/
theorem internal_note_hidden_iff (app : App) (reqs : List ChatRequest) {w₁ w₂ : World}
    (h : Twins w₁ w₂) :
    (w₁.serve app reqs).1.map view = (w₂.serve app reqs).1.map view ↔
      List.Forall₂ SameReasons (w₁.serve app reqs).1 (w₂.serve app reqs).1 := by
  unfold World.serve
  generalize (SessionStore.empty, 0) = s
  induction reqs generalizing s with
  | nil => simp [Service.serve]
  | cons req reqs ih =>
    simp only [Service.serve, List.map_cons, List.cons.injEq, List.forall₂_cons]
    rcases twins_turn h app s req with ⟨hview, hstate, hreasons⟩ | ⟨hview, hreasons⟩
    · rw [hstate]
      have hrest := ih (answer w₂.handle (chat app) s req).2
      exact and_congr (iff_of_true hview hreasons) hrest
    · exact iff_of_false (fun hsame => hview hsame.1) fun hsame => hreasons hsame.1

/-! ## Two notes -/

/-- A classifier that refuses every question and keeps a note about it. -/
def refuses (reply : String) : World := sampleWorld (scripted "" reply "" "" (.ok []))

def mentionsStaff : String :=
  "\x7b\"status\": \"out_of_scope\", \"reason\": \"Asks about staff.\"\x7d"

def mentionsSalaries : String :=
  "\x7b\"status\": \"out_of_scope\", \"reason\": \"Asks about salaries.\"\x7d"

theorem sameNote_mentions : SameNote mentionsStaff mentionsSalaries := by
  refine ⟨[("status", .str "out_of_scope"), ("reason", .str "Asks about staff.")],
    [("status", .str "out_of_scope"), ("reason", .str "Asks about salaries.")],
    by decide +kernel, by decide +kernel, ?_, .inr ⟨_, _, rfl, rfl⟩⟩
  intro key hkey
  have hbeq : (key == "reason") = false := beq_false_of_ne hkey
  simp only [List.lookup_cons, List.lookup_nil, hbeq]

theorem twins_mentions : Twins (refuses mentionsStaff) (refuses mentionsSalaries) where
  schemaContext := rfl
  uuid4 := rfl
  others q hq n := by
    cases q with
    | ainvoke prompt messages =>
      cases prompt with
      | classifier intent schemaContext => cases hq
      | merger accumulatedIntent lastClarification currentInput => rfl
      | sql schemaContext examples history intent retrySql retryError => rfl
      | answer question dbResultsStr => rfl
    | executeQuery sql => rfl
    | log record => rfl
    | superstep node state => rfl
  classifier n prompt messages hprompt := by
    cases prompt with
    | classifier intent schemaContext => exact ⟨_, _, rfl, rfl, sameNote_mentions⟩
    | merger accumulatedIntent lastClarification currentInput => cases hprompt
    | sql schemaContext examples history intent retrySql retryError => cases hprompt
    | answer question dbResultsStr => cases hprompt

theorem views_mentions :
    ((refuses mentionsStaff).serve sampleApp [sampleRequest]).1.map view ≠
      ((refuses mentionsSalaries).serve sampleApp [sampleRequest]).1.map view := by
  decide +kernel

/-- The user reads the note. -/
theorem internal_note_shown :
    Twins (refuses mentionsStaff) (refuses mentionsSalaries) ∧
      ((refuses mentionsStaff).serve sampleApp [sampleRequest]).1.map view ≠
        ((refuses mentionsSalaries).serve sampleApp [sampleRequest]).1.map view :=
  ⟨twins_mentions, views_mentions⟩

/-- The two notes are what the condition rules out. -/
theorem internal_note_hidden_iff_mentions :
    ¬ List.Forall₂ SameReasons ((refuses mentionsStaff).serve sampleApp [sampleRequest]).1
      ((refuses mentionsSalaries).serve sampleApp [sampleRequest]).1 := by
  intro hreasons
  exact views_mentions
    ((internal_note_hidden_iff sampleApp [sampleRequest] twins_mentions).mpr hreasons)

end UniversityQA.Guarantees
