import Nfvcl.Effects

namespace Nfvcl.Effects
set_option autoImplicit true

/-- A program on a larger state does on a component what the other program does there. -/
def Projects (π : σ → τ) (m : EStateM ε σ α) (m' : EStateM ε τ α) : Prop :=
  ∀ s, match m.run s with
    | .ok a s' => m'.run (π s) = .ok a (π s')
    | .error e s' => m'.run (π s) = .error e (π s')

namespace Projects

variable {π : σ → τ}

theorem zoom {put : τ → σ → σ} (hput : ∀ t s, π (put t s) = t) (m : EStateM ε τ α) : Projects π (zoom π put m) m := by
  intro s
  rw [run_zoom]
  cases m.run (π s) with
  | ok a t => exact congrArg (EStateM.Result.ok a) (hput t s).symm
  | error e t => exact congrArg (EStateM.Result.error e) (hput t s).symm

protected theorem pure (a : α) : Projects π (pure a : EStateM ε σ α) (pure a) :=
  fun _ => rfl

/-- A change outside of the component. -/
theorem modify_bind {f : σ → σ} {m : EStateM ε σ α} {m' : EStateM ε τ α} (hf : ∀ s, π (f s) = π s) (hm : Projects π m m') :
    Projects π (do modify f; m) m' := by
  intro s
  have h := hm (f s)
  rw [hf] at h
  exact h

protected theorem bind {m : EStateM ε σ α} {f : α → EStateM ε σ β} {m' : EStateM ε τ α} {f' : α → EStateM ε τ β}
    (hm : Projects π m m') (hf : ∀ a, Projects π (f a) (f' a)) : Projects π (m >>= f) (m' >>= f') := by
  intro s
  have h := hm s
  rw [EStateM.run_bind, EStateM.run_bind]
  cases hr : m.run s with
  | ok a s' =>
    rw [hr] at h
    dsimp only at h ⊢
    rw [h]
    exact hf a s'
  | error e s' =>
    rw [hr] at h
    dsimp only at h ⊢
    rw [h]

protected theorem ite {c : Prop} [Decidable c] {m n : EStateM ε σ α} {m' n' : EStateM ε τ α}
    (hm : Projects π m m') (hn : Projects π n n') : Projects π (if c then m else n) (if c then m' else n') := by
  split
  · exact hm
  · exact hn

protected theorem forM {f : α → EStateM ε σ Unit} {f' : α → EStateM ε τ Unit} (hf : ∀ a, Projects π (f a) (f' a)) (xs : List α) :
    Projects π (forM xs f) (forM xs f') := by
  induction xs with
  | nil => exact fun _ => rfl
  | cons x xs ih =>
    rw [List.forM_cons, List.forM_cons]
    exact (hf x).bind (fun _ => ih)

theorem run_ok {m : EStateM ε σ α} {m' : EStateM ε τ α} (h : Projects π m m') (hrun : m.run s = .ok a s') :
    m'.run (π s) = .ok a (π s') := by
  have hs := h s
  rw [hrun] at hs
  exact hs

/-- What the program on the component meets holds of the component. -/
theorem meets {m : EStateM ε σ α} {m' : EStateM ε τ α} {Q : α → τ → Prop} {E : ε → τ → Prop} (h : Projects π m m')
    (hm : Meets m' (π s) Q E) : Meets m s (fun a s' => Q a (π s')) (fun e s' => E e (π s')) := by
  have hs := h s
  unfold Meets at hm ⊢
  cases hr : m.run s with
  | ok a s' =>
    rw [hr] at hs
    dsimp only at hs ⊢
    rw [hs] at hm
    exact hm
  | error e s' =>
    rw [hr] at hs
    dsimp only at hs ⊢
    rw [hs] at hm
    exact hm

end Projects

end Nfvcl.Effects
