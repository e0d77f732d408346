import UniversityQA.Lib.Coroutine

/-!
# Serial runs of a service

A service answers requests one after another, each by a coroutine `handler
req` over a state that outlives the request.  `Serves` are its runs, with the
whole exchange of every request kept, where each request may be asked to meet
a condition `allow` on the state it found; `Serves.inv` is the induction rule
for what a run preserves.  `serve` is the executable reading for a world given as
a function.
-/

namespace Service

open Coroutine

/-- A request with everything that happened until it was over. -/
structure Exchange (Req Q : Type) (A : Q → Type) (ε α : Type) where
  req : Req
  events : List (Event Q A)
  outcome : Except ε α

variable {Req Q : Type} {A : Q → Type} {ε α σ : Type}

/-- The service has handled `past`, oldest first, and is in the given state. -/
inductive Serves (step : σ → (q : Q) → A q → σ → Prop) (handler : Req → Prog Q A ε α)
    (allow : σ → Exchange Req Q A ε α → Prop) (init : σ) : List (Exchange Req Q A ε α) → σ → Prop
  | start : Serves step handler allow init [] init
  | turn {past s req tr o s'} : Serves step handler allow init past s →
      Exec step s (handler req) tr o s' → allow s ⟨req, tr, o⟩ →
      Serves step handler allow init (past ++ [⟨req, tr, o⟩]) s'

variable {step : σ → (q : Q) → A q → σ → Prop} {handler : Req → Prog Q A ε α}
  {allow : σ → Exchange Req Q A ε α → Prop} {init : σ}

/-- **Invariants.**  What holds at the start and is kept by every request
holds of every run. -/
theorem Serves.inv {I : List (Exchange Req Q A ε α) → σ → Prop} (h0 : I [] init)
    (hturn : ∀ past s req tr o s', I past s → Exec step s (handler req) tr o s' →
      allow s ⟨req, tr, o⟩ → I (past ++ [⟨req, tr, o⟩]) s')
    {past : List (Exchange Req Q A ε α)} {s : σ} (h : Serves step handler allow init past s) :
    I past s := by
  induction h with
  | start => exact h0
  | turn _ hx hallow ih => exact hturn _ _ _ _ _ _ ih hx hallow

/-- One request in the world that answers by `h`. -/
def answer (h : σ → (q : Q) → A q × σ) (handler : Req → Prog Q A ε α) (s : σ) (req : Req) :
    Exchange Req Q A ε α × σ :=
  let r := run h s (handler req)
  (⟨req, r.2.1, r.1⟩, r.2.2)

/-- Requests one after another. -/
def serve (h : σ → (q : Q) → A q × σ) (handler : Req → Prog Q A ε α) :
    σ → List Req → List (Exchange Req Q A ε α) × σ
  | s, [] => ([], s)
  | s, req :: reqs =>
    let first := answer h handler s req
    let rest := serve h handler first.2 reqs
    (first.1 :: rest.1, rest.2)

theorem serve_serves (h : σ → (q : Q) → A q × σ) (handler : Req → Prog Q A ε α) {τ : Type}
    {stepτ : τ → (q : Q) → A q → τ → Prop} (f : σ → τ) (hstep : ∀ s q, stepτ (f s) q (h s q).1 (f (h s q).2)) {initτ : τ}
    (past : List (Exchange Req Q A ε α)) (s : σ) (reqs : List Req)
    (hpast : Serves stepτ handler (fun _ _ => True) initτ past (f s)) :
    Serves stepτ handler (fun _ _ => True) initτ (past ++ (serve h handler s reqs).1)
      (f (serve h handler s reqs).2) := by
  induction reqs generalizing past s with
  | nil => simpa [serve] using hpast
  | cons req reqs ih =>
    have hexec := run_exec (fun s q a s' => stepτ (f s) q a (f s')) h hstep (handler req) s
    have hfirst := hpast.turn (hexec.map f fun _ _ _ _ hs => hs) trivial
    have hrest := ih _ _ hfirst
    rw [List.append_assoc] at hrest
    exact hrest

end Service
