import Mathlib.Data.List.Basic

/-!
# Statements about every event of a trace

`Always P past tr`: each event of `tr` stands in the relation `P` to all
events in front of it, where `past` came before the trace began.

* `always_iff`: the reading over all ways to split the trace;
* `always_append`: a trace is checked stretch by stretch;
* `always_weaken`: for a relation that looks back only as far as it needs, a
  stretch may be checked with an empty past;
* `always_of_none`: so may a stretch without events of the kind at issue.
-/

namespace Trace

variable {E : Type}

def Always (P : List E → E → Prop) : List E → List E → Prop
  | _, [] => True
  | past, e :: tr => P past e ∧ Always P (past ++ [e]) tr

variable {P : List E → E → Prop}

@[simp] theorem always_nil (past : List E) : Always P past [] := trivial

@[simp] theorem always_cons (past tr : List E) (e : E) :
    Always P past (e :: tr) ↔ P past e ∧ Always P (past ++ [e]) tr := Iff.rfl

theorem always_append (past t₁ t₂ : List E) :
    Always P past (t₁ ++ t₂) ↔ Always P past t₁ ∧ Always P (past ++ t₁) t₂ := by
  induction t₁ generalizing past with
  | nil => simp
  | cons e t₁ ih => simp [ih, and_assoc]

/-- **Reading.** -/
theorem always_iff (past tr : List E) :
    Always P past tr ↔ ∀ pre e post, tr = pre ++ e :: post → P (past ++ pre) e := by
  constructor
  · rintro h pre e post rfl
    have := ((always_append _ _ _).mp h).2
    exact this.1
  · intro h
    induction tr generalizing past with
    | nil => trivial
    | cons e tr ih =>
      refine ⟨by simpa using h [] e tr rfl, ih (past ++ [e]) fun pre e' post he => ?_⟩
      rw [List.append_assoc]
      exact h (e :: pre) e' post (by rw [he]; rfl)

/-- **Weakening.** -/
theorem always_weaken (hP : ∀ x past e, P past e → P (x ++ past) e) (x past tr : List E)
    (h : Always P past tr) : Always P (x ++ past) tr := by
  induction tr generalizing past with
  | nil => trivial
  | cons e tr ih =>
    refine ⟨hP x past e h.1, ?_⟩
    rw [List.append_assoc]
    exact ih (past ++ [e]) h.2

/-- Two stretches checked on their own. -/
theorem always_glue (hP : ∀ x past e, P past e → P (x ++ past) e) {t₁ t₂ : List E}
    (h₁ : Always P [] t₁) (h₂ : Always P [] t₂) : Always P [] (t₁ ++ t₂) := by
  refine (always_append [] t₁ t₂).mpr ⟨h₁, ?_⟩
  have hweak := always_weaken hP t₁ [] t₂ h₂
  rwa [List.append_nil] at hweak

theorem always_of_none (past tr : List E) (h : ∀ e ∈ tr, ∀ past, P past e) : Always P past tr := by
  induction tr generalizing past with
  | nil => trivial
  | cons e tr ih => exact ⟨h e (by simp) past, ih _ fun e' he' => h e' (by simp [he'])⟩

end Trace
