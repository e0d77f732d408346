import UniversityQA.Api.Sessions
import UniversityQA.Guarantees.CallProtocol

/-!
# Every classifier reply

The classifier's reply is free text.  `question_analyzer` guards the decoding
of it, and then takes what comes out for a dict.

* `analyzerRun_reply`: what the analyzer does is the verdict on the reply;
* `classifier_reply_survived_iff`: it survives exactly the objects and what is
  no JSON;
* `answer_given_iff`: when it ends the run there is a text to show, exactly
  when what the reply puts in front of the user is one.
-/

namespace UniversityQA.Guarantees

open UniversityQA.Py UniversityQA.Agent UniversityQA.Api Coroutine

/-- The `status` of the object is this string. -/
def StatusIs (parsed : JsonObject) (status : String) : Prop :=
  parsed.lookup "status" = some (.str status)

/-- No default of the source is mistaken for another status. -/
theorem get_status_iff (parsed : JsonObject) {status : String} (hne : status ≠ "out_of_scope") :
    JsonObject.get parsed "status" (.str "out_of_scope") = .str status ↔ StatusIs parsed status := by
  unfold JsonObject.get StatusIs
  cases hs : parsed.lookup "status" with
  | none =>
    rw [Option.getD_none]
    constructor
    · intro h
      cases h
      exact absurd rfl hne
    · intro h
      cases h
  | some v => simp

/-! ## The analyzer and the reply -/

/-- Step 1 does not ask the classifier. -/
theorem classifier_mem_replies {c : Configurable} {s : AgentState} {tm : List AgentEvent}
    {intent : String} (hm : Merges s c tm intent) {rest : List AgentEvent}
    {intent' schemaContext : String} {reply : Except String String}
    (h : (.classifier intent' schemaContext, reply) ∈ replies (analyzerStart s :: tm ++ rest)) :
    (.classifier intent' schemaContext, reply) ∈ replies rest := by
  rw [replies_append] at h
  rcases List.mem_append.mp h with hmem | hmem
  · cases hm with
    | continuation content hc => cases List.mem_singleton.mp hmem
    | fresh hc => cases hmem
  · exact hmem

theorem replies_closing (c : Configurable) (s : AgentState) (v : Verdict) (prompt : Prompt)
    (reply : Except String String) :
    replies [replied c prompt reply, v.closing s] = [(prompt, reply)] := by
  cases v <;> rfl

/-- Once the classifier has replied, the outcome is the verdict's. -/
theorem analyzerRun_reply {c : Configurable} {s : AgentState} {tr : List AgentEvent}
    {o : Except PyException StateUpdate} (h : AnalyzerRun s c tr o)
    {intent schemaContext content : String}
    (hreply : (.classifier intent schemaContext, .ok content) ∈ replies tr) :
    (∃ e, verdict s.ambiguityCount c.maxRounds content = .error e ∧ o = .error e) ∨
      ∃ v, verdict s.ambiguityCount c.maxRounds content = .ok v ∧ o = .ok (v.update s intent) := by
  cases h with
  | mergerRaised text hc => cases List.mem_singleton.mp hreply
  | classifierRaised text hm => cases List.mem_singleton.mp (classifier_mem_replies hm hreply)
  | unhandled content' hm hv =>
    cases List.mem_singleton.mp (classifier_mem_replies hm hreply)
    exact .inl ⟨_, hv, rfl⟩
  | @classified tm intent' v content' hm hv =>
    have hmem := classifier_mem_replies hm hreply
    rw [replies_closing] at hmem
    cases List.mem_singleton.mp hmem
    exact .inr ⟨v, hv, rfl⟩

/-- A reply that is JSON but no object has no verdict. -/
theorem verdict_error_of_not_readable {content : String} (h : ¬ Readable content)
    (ambiguityCount maxRounds : Int) :
    ∃ e, verdict ambiguityCount maxRounds content = .error e := by
  unfold verdict
  split
  case h_1 hp => exact absurd (.inr hp) h
  case h_2 => exact ⟨_, rfl⟩
  case h_3 parsed hp => exact absurd (.inl ⟨parsed, hp⟩) h
  case h_4 v hp hobj => exact ⟨_, rfl⟩

/-! ## Survival -/

/-- The reply is an object that calls the question answerable or ambiguous. -/
def NamesStatus (content : String) : Prop :=
  ∃ parsed, loads content = .ok (.obj parsed) ∧
    (StatusIs parsed "answerable" ∨ StatusIs parsed "ambiguous")

/-- The analyzer returns, with one of its statuses, and with `error` unless
the reply names another. -/
def Survives (content : String) (o : Except PyException StateUpdate) : Prop :=
  ∃ u, o = .ok u ∧
    (u.status = .generating ∨ u.status = .askingClarification ∨ u.status = .error) ∧
    (¬ NamesStatus content → u.status = .error)

theorem status_update (v : Verdict) (s : AgentState) (intent : String) :
    (v.update s intent).status = .generating ∨
      (v.update s intent).status = .askingClarification ∨ (v.update s intent).status = .error := by
  cases v with
  | undecodable => exact .inr (.inr rfl)
  | answerable => exact .inl rfl
  | ask q => exact .inr (.inl rfl)
  | limitReached => exact .inr (.inr rfl)
  | outOfScope reason => exact .inr (.inr rfl)

/-- Any verdict but an error takes a reply that names its status. -/
theorem namesStatus_of_verdict {ambiguityCount maxRounds : Int} {content : String} {v : Verdict}
    (hv : verdict ambiguityCount maxRounds content = .ok v) (s : AgentState) (intent : String)
    (hs : (v.update s intent).status ≠ .error) : NamesStatus content := by
  cases v with
  | answerable =>
    obtain ⟨parsed, hp, hstatus⟩ := (verdict_eq_answerable_iff _ _ _).mp hv
    exact ⟨parsed, hp, .inl ((get_status_iff parsed (by decide)).mp hstatus)⟩
  | ask q =>
    unfold verdict at hv
    split at hv
    case h_3 parsed hp =>
      refine ⟨parsed, hp, .inr ((get_status_iff parsed (by decide)).mp ?_)⟩
      dsimp only at hv
      split at hv
      · cases hv
      · split at hv
        case isTrue hc => exact hc.1
        case isFalse => split at hv <;> cases hv
    all_goals cases hv
  | undecodable => exact absurd rfl hs
  | limitReached => exact absurd rfl hs
  | outOfScope reason => exact absurd rfl hs

/-- **Survival.**  Of all replies, the analyzer survives the objects and the
texts that are no JSON. -/
theorem classifier_reply_survived_iff (app : App) (schemaContext traceId : String)
    (history : ConversationHistory) (req : ChatRequest) {tr : List AgentEvent}
    {o : Except PyException StateUpdate} {intent schema content : String}
    (h : Runs (questionAnalyzer (initialState app schemaContext history traceId req)
      app.configurable) tr o)
    (hreply : (.classifier intent schema, .ok content) ∈ replies tr) :
    Survives content o ↔ Readable content := by
  rcases analyzerRun_reply (questionAnalyzer_run h) hreply with ⟨e, hv, rfl⟩ | ⟨v, hv, rfl⟩
  · constructor
    · rintro ⟨u, hu, _⟩
      cases hu
    · intro hread
      exact absurd hv (hread.verdict_ne_error _ _ e)
  · constructor
    · intro _
      by_contra hread
      obtain ⟨e, he⟩ := verdict_error_of_not_readable hread
        (initialState app schemaContext history traceId req).ambiguityCount
        app.configurable.maxRounds
      rw [hv] at he
      cases he
    · intro _
      refine ⟨_, rfl, status_update v _ intent, fun hnames => ?_⟩
      by_contra hs
      exact hnames (namesStatus_of_verdict hv _ _ hs)

/-- The analyzer on the sample request, the classifier replying `content`. -/
def analyzed (content : String) : Except PyException StateUpdate × List AgentEvent × Nat :=
  run (scripted "" content "" "" (.ok [])).handle 0
    (questionAnalyzer (sampleState {}) sampleApp.configurable)

theorem analyzed_runs (content : String) :
    Runs (questionAnalyzer (sampleState {}) sampleApp.configurable) (analyzed content).2.1
      (analyzed content).1 :=
  run_runs _ _ _

/-- The classifier is asked before its reply is looked at. -/
theorem analyzed_reply (content : String) :
    (.classifier "Who teaches Algorithms?" "", .ok content) ∈ replies (analyzed content).2.1 := by
  show _ ∈ _ :: replies _
  exact List.mem_cons_self

theorem analyzed_verdict (content : String) :
    (∃ e, verdict 0 3 content = .error e ∧ (analyzed content).1 = .error e) ∨
      ∃ v, verdict 0 3 content = .ok v ∧
        (analyzed content).1 = .ok (v.update (sampleState {}) "Who teaches Algorithms?") :=
  analyzerRun_reply (questionAnalyzer_run (analyzed_runs content)) (analyzed_reply content)

theorem analyzed_reply_array :
    (.classifier "Who teaches Algorithms?" "", .ok "[]") ∈ replies (analyzed "[]").2.1 :=
  analyzed_reply "[]"

theorem analyzed_array_raises : ¬ Survives "[]" (analyzed "[]").1 := by
  rintro ⟨u, hu, _⟩
  rcases analyzed_verdict "[]" with ⟨e, hv, ho⟩ | ⟨v, hv, ho⟩
  · rw [ho] at hu
    cases hu
  · have hloads : loads "[]" = .ok (.arr []) := by rfl
    rw [verdict, hloads] at hv
    cases hv

/-- A list is decoded, and then asked for its `status`. -/
theorem array_reply_raises :
    Runs (questionAnalyzer (sampleState {}) sampleApp.configurable) (analyzed "[]").2.1
        (analyzed "[]").1 ∧
      (.classifier "Who teaches Algorithms?" "", .ok "[]") ∈ replies (analyzed "[]").2.1 ∧
      ¬ Survives "[]" (analyzed "[]").1 :=
  ⟨analyzed_runs "[]", analyzed_reply_array, analyzed_array_raises⟩

/-- A list is what the condition rules out. -/
theorem classifier_reply_survived_iff_array : ¬ Readable "[]" := by
  intro hread
  exact analyzed_array_raises ((classifier_reply_survived_iff sampleApp "" "t" {} sampleRequest
    (analyzed_runs "[]") analyzed_reply_array).mpr hread)

/-! ## The text to show -/

def NonEmptyText (v : Json) : Prop := ∃ text, v = .str text ∧ text ≠ ""

/-- Whatever stands under the key is a text. -/
def TextIfGiven (parsed : JsonObject) (key : String) : Prop :=
  ∀ v, parsed.lookup key = some v → NonEmptyText v

/-- A default that is a text is no worse than the value. -/
theorem nonEmptyText_get_iff (parsed : JsonObject) (key : String) {default : String}
    (hd : default ≠ "") :
    NonEmptyText (JsonObject.get parsed key (.str default)) ↔ TextIfGiven parsed key := by
  unfold JsonObject.get TextIfGiven
  cases hs : parsed.lookup key with
  | none => simp [NonEmptyText, hd]
  | some v => simp

/-- The key the analyzer takes the text from, if it takes any, has none or a
text. -/
def GivesText (ambiguityCount maxRounds : Int) (content : String) : Prop :=
  ∀ parsed, loads content = .ok (.obj parsed) →
    (StatusIs parsed "ambiguous" → ambiguityCount < maxRounds →
      TextIfGiven parsed "clarification_question") ∧
    (¬ StatusIs parsed "answerable" → ¬ StatusIs parsed "ambiguous" → TextIfGiven parsed "reason")

/-- An update that ends the run has a text for an answer. -/
def ClientHasText (o : Except PyException StateUpdate) : Prop :=
  ∃ u, o = .ok u ∧ (u.status = .askingClarification ∨ u.status = .error →
    ∃ answer, u.answer = some answer ∧ NonEmptyText answer)

theorem clientHasText_update_iff (s : AgentState) (intent : String) (v : Verdict) :
    ClientHasText (.ok (v.update s intent)) ↔ ∀ a, v.shown = some a → NonEmptyText a := by
  constructor
  · rintro ⟨u, hu, htext⟩ a ha
    cases hu
    cases v with
    | ask q =>
      cases ha
      obtain ⟨answer, heq, hne⟩ := htext (.inl rfl)
      cases heq
      exact hne
    | outOfScope reason =>
      cases ha
      obtain ⟨answer, heq, hne⟩ := htext (.inr rfl)
      cases heq
      exact hne
    | undecodable => cases ha
    | answerable => cases ha
    | limitReached => cases ha
  · intro hshown
    refine ⟨_, rfl, fun hends => ?_⟩
    cases v with
    | ask q => exact ⟨q, rfl, hshown q rfl⟩
    | outOfScope reason => exact ⟨reason, rfl, hshown reason rfl⟩
    | undecodable => exact ⟨_, rfl, classifyError, rfl, by decide⟩
    | answerable => rcases hends with h | h <;> cases h
    | limitReached => exact ⟨_, rfl, ambiguityLimitError, rfl, by decide⟩

theorem givesText_iff {content : String} {parsed : JsonObject}
    (hp : loads content = .ok (.obj parsed)) (ambiguityCount maxRounds : Int) :
    GivesText ambiguityCount maxRounds content ↔
      (StatusIs parsed "ambiguous" → ambiguityCount < maxRounds →
        TextIfGiven parsed "clarification_question") ∧
      (¬ StatusIs parsed "answerable" → ¬ StatusIs parsed "ambiguous" →
        TextIfGiven parsed "reason") := by
  constructor
  · intro h
    exact h parsed hp
  · intro h parsed' hp'
    rw [hp] at hp'
    cases hp'
    exact h

/-- What a verdict shows is a text exactly when the reply gives one. -/
theorem shown_text_iff {ambiguityCount maxRounds : Int} {content : String} {v : Verdict}
    (hread : Readable content) (hv : verdict ambiguityCount maxRounds content = .ok v) :
    (∀ a, v.shown = some a → NonEmptyText a) ↔ GivesText ambiguityCount maxRounds content := by
  rcases hread with ⟨parsed, hp⟩ | hp
  · have hanswerable : JsonObject.get parsed "status" (.str "out_of_scope") = .str "answerable" ↔
        StatusIs parsed "answerable" := get_status_iff parsed (by decide)
    have hambiguous : JsonObject.get parsed "status" (.str "out_of_scope") = .str "ambiguous" ↔
        StatusIs parsed "ambiguous" := get_status_iff parsed (by decide)
    rw [givesText_iff hp]
    rw [verdict_of_object hp] at hv
    by_cases ha : StatusIs parsed "answerable"
    · have hnm : ¬ StatusIs parsed "ambiguous" := by
        intro hm
        rw [StatusIs, ha] at hm
        exact absurd hm (by decide)
      rw [if_pos (hanswerable.mpr ha)] at hv
      cases hv
      simp [Verdict.shown, ha, hnm]
    · rw [if_neg (mt hanswerable.mp ha)] at hv
      by_cases hm : StatusIs parsed "ambiguous"
      · by_cases hc : ambiguityCount < maxRounds
        · rw [if_pos ⟨hambiguous.mpr hm, hc⟩] at hv
          cases hv
          have hdefault : "Could you clarify your question?" ≠ "" := by decide
          rw [← nonEmptyText_get_iff parsed "clarification_question" hdefault]
          simp [Verdict.shown, hm, hc]
        · rw [if_neg (fun h => hc h.2), if_pos (hambiguous.mpr hm)] at hv
          cases hv
          simp [Verdict.shown, hm, hc]
      · rw [if_neg (fun h => hm (hambiguous.mp h.1)), if_neg (mt hambiguous.mp hm)] at hv
        cases hv
        have hdefault : "This question is outside the scope of the system." ≠ "" := by decide
        rw [← nonEmptyText_get_iff parsed "reason" hdefault]
        simp [Verdict.shown, ha, hm]
  · have hgives : GivesText ambiguityCount maxRounds content := by
      intro parsed hobj
      rw [hp] at hobj
      cases hobj
    unfold verdict at hv
    rw [hp] at hv
    cases hv
    exact iff_of_true (fun a ha => by cases ha) hgives

/-- **A text to show.**  When the analyzer ends the run over an object or what
is no JSON, its answer is a non-empty string exactly when the reply gives one
or leaves it to the default. -/
theorem answer_given_iff (app : App) (schemaContext traceId : String)
    (history : ConversationHistory) (req : ChatRequest) {tr : List AgentEvent}
    {o : Except PyException StateUpdate} {intent schema content : String}
    (h : Runs (questionAnalyzer (initialState app schemaContext history traceId req)
      app.configurable) tr o)
    (hreply : (.classifier intent schema, .ok content) ∈ replies tr) (hread : Readable content) :
    ClientHasText o ↔
      GivesText history.phase.count app.settings.maxClarificationRounds content := by
  rw [← initialState_ambiguityCount app schemaContext traceId history req]
  rcases analyzerRun_reply (questionAnalyzer_run h) hreply with ⟨e, hv, rfl⟩ | ⟨v, hv, rfl⟩
  · exact absurd hv (hread.verdict_ne_error _ _ e)
  · rw [clientHasText_update_iff]
    exact shown_text_iff hread hv

/-- The classifier asks back and leaves the question empty. -/
def emptyQuestion : String :=
  "\x7b\"status\": \"ambiguous\", \"clarification_question\": \"\"\x7d"

theorem loads_emptyQuestion : loads emptyQuestion =
    .ok (.obj [("status", .str "ambiguous"), ("clarification_question", .str "")]) := by
  decide +kernel

theorem analyzed_reply_empty :
    (.classifier "Who teaches Algorithms?" "", .ok emptyQuestion) ∈
      replies (analyzed emptyQuestion).2.1 :=
  analyzed_reply emptyQuestion

theorem analyzed_empty_no_text : ¬ ClientHasText (analyzed emptyQuestion).1 := by
  have hread : Readable emptyQuestion := .inl ⟨_, loads_emptyQuestion⟩
  rcases analyzed_verdict emptyQuestion with ⟨e, hv, _⟩ | ⟨v, hv, ho⟩
  · exact absurd hv (hread.verdict_ne_error _ _ e)
  · rw [ho, clientHasText_update_iff, shown_text_iff hread hv, givesText_iff loads_emptyQuestion]
    rintro ⟨hasked, -⟩
    obtain ⟨text, htext, hne⟩ := hasked rfl (by decide) (.str "") rfl
    cases htext
    exact hne rfl

/-- The clarification question the client gets is empty. -/
theorem empty_question_shown :
    Runs (questionAnalyzer (sampleState {}) sampleApp.configurable) (analyzed emptyQuestion).2.1
        (analyzed emptyQuestion).1 ∧
      (.classifier "Who teaches Algorithms?" "", .ok emptyQuestion) ∈
        replies (analyzed emptyQuestion).2.1 ∧
      Readable emptyQuestion ∧ ¬ ClientHasText (analyzed emptyQuestion).1 :=
  ⟨analyzed_runs emptyQuestion, analyzed_reply_empty, .inl ⟨_, loads_emptyQuestion⟩,
    analyzed_empty_no_text⟩

/-- The empty question is what the condition rules out. -/
theorem answer_given_iff_empty : ¬ GivesText 0 3 emptyQuestion := by
  intro hgives
  exact analyzed_empty_no_text ((answer_given_iff sampleApp "" "t" {} sampleRequest
    (analyzed_runs emptyQuestion) analyzed_reply_empty (.inl ⟨_, loads_emptyQuestion⟩)).mpr hgives)

end UniversityQA.Guarantees
