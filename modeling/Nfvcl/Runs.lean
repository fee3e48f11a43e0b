import Mathlib.Data.List.Infix

namespace Nfvcl.Runs
set_option autoImplicit true

variable {σ Op : Type}

/-- A condition on the step and the state it is taken in holds along a run. -/
def Along (step : σ → Op → σ) (C : Op → σ → Prop) (s : σ) : List Op → Prop
  | [] => True
  | op :: ops => C op s ∧ Along step C (step s op) ops

instance Along.decidable (step : σ → Op → σ) (C : Op → σ → Prop) [∀ op s, Decidable (C op s)] (s : σ) (ops : List Op) :
    Decidable (Along step C s ops) :=
  match ops with
  | [] => isTrue trivial
  | op :: ops =>
    have : Decidable (Along step C (step s op) ops) := Along.decidable step C (step s op) ops
    inferInstanceAs (Decidable (C op s ∧ Along step C (step s op) ops))

/-- What every admissible step keeps holds in every state of an admissible run. -/
theorem Along.invariant {step : σ → Op → σ} {C : Op → σ → Prop} {I : σ → Prop}
    (hstep : ∀ op s, C op s → I s → I (step s op)) (ops : List Op) (hC : Along step C s ops) (hI : I s)
    (before : List Op) (hbefore : before.IsPrefix ops) : I (before.foldl step s) := by
  induction before generalizing s ops with
  | nil => exact hI
  | cons op before ih =>
    cases ops with
    | nil => exact absurd (List.prefix_nil.1 hbefore) (List.cons_ne_nil op before)
    | cons op' ops =>
      obtain ⟨rfl, hrest⟩ := List.cons_prefix_cons.1 hbefore
      exact ih ops hC.2 (hstep op s hC.1 hI) hrest

end Nfvcl.Runs
