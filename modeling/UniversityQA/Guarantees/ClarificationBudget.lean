import UniversityQA.Api.Sessions

/-!
# The clarification budget

The count a session carries is the number of saved runs in a row that ended
in a clarification question, `streak`; what the error branches leave in the
store is never read.

* `WithinBudget`: the phase of a session against its streak;
* `budgetInv_turn`, `sessions_budgetInv`: one request keeps it, so it holds in
  every reachable store;
* `clarification_budget`: the count, the bound and the exact budget.
-/

namespace UniversityQA.Guarantees

open UniversityQA.Py UniversityQA.Agent UniversityQA.Api Coroutine Service

/-- The final statuses of the runs saved for a session, oldest first. -/
def savedStatuses (sessionId : String) (past : List ChatExchange) : List AgentStatus :=
  past.flatMap fun x => (saves sessionId x.events).map ConversationHistory.lastStatus

/-- How many of them, counted from the last, asked for a clarification. -/
def streak (statuses : List AgentStatus) : Nat :=
  (statuses.reverse.takeWhile (· = .askingClarification)).length

theorem streak_concat (statuses : List AgentStatus) (status : AgentStatus) :
    streak (statuses ++ [status]) =
      if status = .askingClarification then streak statuses + 1 else 0 := by
  unfold streak
  rw [List.reverse_append, List.reverse_singleton, List.singleton_append, List.takeWhile_cons]
  by_cases hs : status = .askingClarification <;> simp [hs]

theorem savedStatuses_concat (sessionId : String) (past : List ChatExchange) (x : ChatExchange) :
    savedStatuses sessionId (past ++ [x]) =
      savedStatuses sessionId past ++ (saves sessionId x.events).map ConversationHistory.lastStatus := by
  simp [savedStatuses]

/-- The phase counts the streak `k`, which stays within `m`. -/
def WithinBudget (m : Int) (k : Nat) : Phase → Prop
  | .fresh => k = 0
  | .asked _ _ count => count = k ∧ 1 ≤ k ∧ (k : Int) ≤ m

theorem WithinBudget.count_eq {m : Int} {k : Nat} {p : Phase} (h : WithinBudget m k p) :
    p.count = k := by
  cases p with
  | fresh => change k = 0 at h; rw [h]; rfl
  | asked intent clarification count => exact h.1

/-- One more verdict. -/
theorem WithinBudget.next {m : Int} {k : Nat} {p : Phase} (h : WithinBudget m k p) (intent : String)
    {v : Verdict} (hv : ∀ q, v = .ask q → p.count < m) :
    WithinBudget m (if p.next intent v = .fresh then 0 else k + 1) (p.next intent v) := by
  have hcount := h.count_eq
  cases v with
  | ask q =>
    have hlt := hv q rfl
    show p.count + 1 = ((k + 1 : Nat) : Int) ∧ 1 ≤ k + 1 ∧ ((k + 1 : Nat) : Int) ≤ m
    omega
  | undecodable => rfl
  | answerable => rfl
  | limitReached => rfl
  | outOfScope reason => rfl

/-- Every session is within its budget. -/
def BudgetInv (app : App) (past : List ChatExchange) (st : SessionStore) : Prop :=
  ∀ sessionId, WithinBudget app.settings.maxClarificationRounds
    (streak (savedStatuses sessionId past)) (st.get sessionId).phase

theorem budgetInv_turn (app : App) (past : List ChatExchange) (st : SessionStore) (req : ChatRequest)
    (tr : List ChatEvent) (o : Except PyException ChatReply) (st' : SessionStore)
    (ih : BudgetInv app past st) (hx : Exec chatStep st (chat app req) tr o st') :
    BudgetInv app (past ++ [⟨req, tr, o⟩]) st' := by
  intro sessionId
  rw [savedStatuses_concat]
  cases chat_turn hx with
  | failed hsaves hanswerable =>
    rw [hsaves, List.map_nil, List.append_nil]
    exact ih sessionId
  | @completed schemaContext traceId intent content v result hcalls hv hc hsaves =>
    rw [hsaves]
    by_cases hid : req.sessionId = sessionId
    · subst hid
      have hphase := nextHistory_phase app schemaContext traceId (st.get req.sessionId) req hc
      have hnext := (ih req.sessionId).next intent (v := v) fun q hq => lt_of_verdict_ask (hq ▸ hv)
      rw [if_pos rfl, List.map_singleton, streak_concat, SessionStore.get_save]
      rw [← hphase] at hnext
      simpa only [phase_eq_fresh_iff, ite_not] using hnext
    · rw [if_neg hid, List.map_nil, List.append_nil,
        SessionStore.get_save_ne st (fun h => hid h.symm)]
      exact ih sessionId

theorem sessions_budgetInv {app : App} {past : List ChatExchange} {st : SessionStore}
    (h : Sessions app past st) : BudgetInv app past st := by
  refine h.inv (I := BudgetInv app) ?_ ?_
  · intro sessionId
    rfl
  · intro past st req tr o st' ih hx _
    exact budgetInv_turn app past st req tr o st' ih hx

/-- **The budget.**  In every reachable store of the service: a session that
waits for a reply has counted its streak, which is between 1 and `m`; no
streak passes `m`; a run the classifier finds ambiguous asks back while the
streak is below `m` and ends in an error otherwise; and any other outcome ends
the streak. -/
theorem clarification_budget (app : App) {past : List ChatExchange} {st : SessionStore}
    (h : Sessions app past st) (sessionId : String) :
    let m := app.settings.maxClarificationRounds
    let k := streak (savedStatuses sessionId past)
    ((st.get sessionId).lastStatus = .askingClarification →
      (st.get sessionId).ambiguityCount = k ∧ 1 ≤ k ∧ k ≤ m) ∧
    k ≤ max m 0 ∧
    (∀ req tr o st' content, req.sessionId = sessionId → Exec chatStep st (chat app req) tr o st' →
      .ok content ∈ repliesTo Prompt.isClassifier (agentEvents tr) → SaysAmbiguous content →
      ∃ history, saves sessionId tr = [history] ∧
        history.lastStatus = if k < m then .askingClarification else .error) ∧
    (∀ status, (savedStatuses sessionId past).getLast? = some status →
      status ≠ .askingClarification → k = 0) := by
  intro m k
  have hbudget : WithinBudget m k (st.get sessionId).phase := sessions_budgetInv h sessionId
  refine ⟨fun hs => ?_, ?_, ?_, ?_⟩
  · rw [phase_of_eq hs] at hbudget
    exact hbudget
  · cases hp : (st.get sessionId).phase with
    | fresh => rw [hp] at hbudget; change k = 0 at hbudget; omega
    | asked intent q n => rw [hp] at hbudget; obtain ⟨_, _, _⟩ := hbudget; omega
  · rintro req tr o st' content rfl hx hmem hamb
    have hcount : (st.get req.sessionId).phase.count = k := hbudget.count_eq
    cases chat_turn hx with
    | failed hsaves hanswerable =>
      rcases verdict_of_ambiguous hamb (st.get req.sessionId).phase.count m with
        ⟨_, q, hv⟩ | ⟨_, hv⟩
      · cases hanswerable content _ hmem hv
      · cases hanswerable content _ hmem hv
    | @completed schemaContext traceId intent content' v result hcalls hv hc hsaves =>
      rw [repliesTo, hcalls] at hmem
      cases List.mem_singleton.mp hmem
      refine ⟨_, (hsaves req.sessionId).trans (if_pos rfl), ?_⟩
      change result.status = _
      rcases verdict_of_ambiguous hamb (st.get req.sessionId).phase.count m with
        ⟨hlt, q, hv'⟩ | ⟨hge, hv'⟩
      · rw [hv] at hv'
        cases hv'
        rw [if_pos (by omega)]
        cases hc with
        | stopped hne => rfl
      · rw [hv] at hv'
        cases hv'
        rw [if_neg (by omega)]
        cases hc with
        | stopped hne => rfl
  · intro status hlast hne
    obtain ⟨front, hfront⟩ := List.getLast?_eq_some_iff.mp hlast
    show streak (savedStatuses sessionId past) = 0
    rw [hfront, streak_concat, if_neg hne]

theorem clarification_budget_sample :
    let r := asksBack.serve sampleApp [sampleRequest, sampleRequest]
    (r.2.1.get "s").ambiguityCount = streak (savedStatuses "s" r.1) ∧
      (r.2.1.get "s").ambiguityCount = 2 := by
  have hstatus : ((asksBack.serve sampleApp [sampleRequest, sampleRequest]).2.1.get "s").lastStatus =
      .askingClarification := by decide +kernel
  have hsessions := asksBack.serve_sessions sampleApp [sampleRequest, sampleRequest]
  exact ⟨((clarification_budget sampleApp hsessions "s").1 hstatus).1, by decide +kernel⟩

end UniversityQA.Guarantees
