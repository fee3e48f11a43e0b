import Mathlib.Data.List.Basic
import Nfvcl.Effects

namespace Nfvcl.Retries
set_option autoImplicit true
open Effects

/-- Look for the place; if there is none, make it and start over. The number is that of the calls that
may still be nested. -/
def retrying (exhausted : ε) (tryOnce : EStateM ε σ Bool) (create : Nat → EStateM ε σ Unit) : Nat → EStateM ε σ Unit
  | 0 => throw exhausted
  | n + 1 => do
    if ← tryOnce then return ()
    create n
    retrying exhausted tryOnce create n

section Runs

variable {exhausted : ε} {tryOnce : EStateM ε σ Bool} {create : Nat → EStateM ε σ Unit} {s s₁ s₂ s' : σ}

theorem retrying_found (h : tryOnce.run s = .ok true s') :
    (retrying exhausted tryOnce create (n + 1)).run s = .ok () s' := by
  rw [retrying, run_bind_ok _ _ h]
  rfl

theorem retrying_raises (h : tryOnce.run s = .error e s') :
    (retrying exhausted tryOnce create (n + 1)).run s = .error e s' := by
  rw [retrying, run_bind_error _ _ h]

theorem retrying_creates (h : tryOnce.run s = .ok false s₁) (hc : (create n).run s₁ = .ok () s₂) :
    (retrying exhausted tryOnce create (n + 1)).run s = (retrying exhausted tryOnce create n).run s₂ := by
  rw [retrying, run_bind_ok _ _ h]
  simp only [Bool.false_eq_true, if_false]
  rw [run_bind_ok _ _ hc]

theorem retrying_create_raises (h : tryOnce.run s = .ok false s₁) (hc : (create n).run s₁ = .error e s₂) :
    (retrying exhausted tryOnce create (n + 1)).run s = .error e s₂ := by
  rw [retrying, run_bind_ok _ _ h]
  simp only [Bool.false_eq_true, if_false]
  rw [run_bind_error _ _ hc]

/-- A call that never finds its place and never makes one. -/
theorem retrying_stuck (h : tryOnce.run s = .ok false s) (hc : ∀ n, (create n).run s = .ok () s) (n : Nat) :
    (retrying exhausted tryOnce create n).run s = .error exhausted s := by
  induction n with
  | zero => rfl
  | succ n ih => rw [retrying_creates h (hc n), ih]

/-- A call adds something, or it does not end. -/
theorem retrying_grows {I : σ → Prop} {size : σ → Nat} {d : Nat}
    (htry : ∀ s, I s → ∃ found s', tryOnce.run s = .ok found s' ∧ I s' ∧ (if found then size s + d ≤ size s' else size s ≤ size s'))
    (hcreate : ∀ n s, I s → (∃ s', (create n).run s = .error exhausted s') ∨
      ∃ s', (create n).run s = .ok () s' ∧ I s' ∧ size s ≤ size s')
    (n : Nat) (s : σ) (h : I s) : (∃ s', (retrying exhausted tryOnce create n).run s = .error exhausted s') ∨
      ∃ s', (retrying exhausted tryOnce create n).run s = .ok () s' ∧ I s' ∧ size s + d ≤ size s' := by
  induction n generalizing s with
  | zero => exact .inl ⟨s, rfl⟩
  | succ n ih =>
    obtain ⟨found, s₁, hfound, h₁, hsize⟩ := htry s h
    cases found with
    | true => exact .inr ⟨s₁, retrying_found hfound, h₁, hsize⟩
    | false =>
      have hle : size s ≤ size s₁ := hsize
      rcases hcreate n s₁ h₁ with ⟨s₂, hc⟩ | ⟨s₂, hc, h₂, hsize₂⟩
      · exact .inl ⟨s₂, retrying_create_raises hfound hc⟩
      · rw [retrying_creates hfound hc]
        rcases ih s₂ h₂ with hend | ⟨s', hrun, hI, hlt⟩
        · exact .inl hend
        · exact .inr ⟨s', hrun, hI, by omega⟩

end Runs

section Settling

variable {Op : Type} (exhausted : ε) (exec : Nat → Op → EStateM ε σ Unit)

/-- The call ends before the nesting does. -/
def Ends (n : Nat) (op : Op) (s : σ) : Prop :=
  ∀ s', ((exec n op).run s) ≠ .error exhausted s'

/-- With enough nesting the call ends, a second one too, and that leaves the state as the first did. -/
def Settles (op : Op) (s : σ) : Prop :=
  ∃ n, ∀ m, n ≤ m → Ends exhausted exec m op s ∧ Ends exhausted exec m op (finalState ((exec m op).run s)) ∧
    finalState ((exec m op).run (finalState ((exec m op).run s))) = finalState ((exec m op).run s)

variable {exhausted exec}

/-- With enough nesting the call ends in the state. -/
def Finishes (exhausted : ε) (f : Nat → EStateM ε σ Unit) (n : Nat) (s s' : σ) : Prop :=
  ∀ m, n ≤ m → (f m).run s = .ok () s' ∨ ∃ e, e ≠ exhausted ∧ (f m).run s = .error e s'

theorem settles_of_finishes {op : Op} {f : Nat → EStateM ε σ Unit} (hexec : ∀ m, exec m op = f m)
    (h : Finishes exhausted f n s s') (hagain : Finishes exhausted f k s' s') : Settles exhausted exec op s := by
  have hends : ∀ m t, (f m).run t = .ok () s' ∨ (∃ e, e ≠ exhausted ∧ (f m).run t = .error e s') →
      Ends exhausted exec m op t ∧ finalState ((exec m op).run t) = s' := by
    intro m t ht
    unfold Ends
    rw [hexec]
    rcases ht with hok | ⟨e, he, herror⟩
    · rw [hok]
      exact ⟨fun _ hbad => (nomatch hbad), rfl⟩
    · rw [herror]
      exact ⟨fun _ hbad => he (EStateM.Result.error.inj hbad).1, rfl⟩
  refine ⟨n + k, fun m hm => ?_⟩
  obtain ⟨hfirst, hstate⟩ := hends m s (h m (by omega))
  obtain ⟨hsecond, hstate'⟩ := hends m s' (hagain m (by omega))
  rw [hstate, hstate']
  exact ⟨hfirst, hsecond, rfl⟩

section Finishing

variable {tryOnce : EStateM ε σ Bool} {create : Nat → EStateM ε σ Unit} {s s₁ s₂ s' : σ}

theorem finishes_found (h : tryOnce.run s = .ok true s') : Finishes exhausted (retrying exhausted tryOnce create) 1 s s' := by
  intro m hm
  obtain ⟨m, rfl⟩ : ∃ l, m = l + 1 := ⟨m - 1, by omega⟩
  exact .inl (retrying_found h)

theorem finishes_raises (h : tryOnce.run s = .error e s') (he : e ≠ exhausted) :
    Finishes exhausted (retrying exhausted tryOnce create) 1 s s' := by
  intro m hm
  obtain ⟨m, rfl⟩ : ∃ l, m = l + 1 := ⟨m - 1, by omega⟩
  exact .inr ⟨e, he, retrying_raises h⟩

theorem finishes_creates (k : Nat) (h : tryOnce.run s = .ok false s₁) (hc : ∀ n, k ≤ n → (create n).run s₁ = .ok () s₂)
    (hrest : Finishes exhausted (retrying exhausted tryOnce create) n s₂ s') :
    Finishes exhausted (retrying exhausted tryOnce create) (k + n + 1) s s' := by
  intro m hm
  obtain ⟨m, rfl⟩ : ∃ l, m = l + 1 := ⟨m - 1, by omega⟩
  rw [retrying_creates h (hc m (by omega))]
  exact hrest m (by omega)

theorem finishes_create_raises (k : Nat) (h : tryOnce.run s = .ok false s₁) (hc : ∀ n, k ≤ n → (create n).run s₁ = .error e s')
    (he : e ≠ exhausted) : Finishes exhausted (retrying exhausted tryOnce create) (k + 1) s s' := by
  intro m hm
  obtain ⟨m, rfl⟩ : ∃ l, m = l + 1 := ⟨m - 1, by omega⟩
  exact .inr ⟨e, he, retrying_create_raises h (hc m (by omega))⟩

end Finishing

/-- A call that adds something whenever it ends. -/
theorem not_settles_of_grows {op : Op} {I : σ → Prop} (size : σ → Nat)
    (h : ∀ m s, I s → (∃ s', (exec m op).run s = .error exhausted s') ∨
      ∃ s', (exec m op).run s = .ok () s' ∧ I s' ∧ size s + 1 ≤ size s') (hs : I s) : ¬ Settles exhausted exec op s := by
  rintro ⟨n, hn⟩
  obtain ⟨hend, hend', hsame⟩ := hn n (Nat.le_refl n)
  rcases h n s hs with ⟨s', hbad⟩ | ⟨s', hrun, hs', -⟩
  · exact hend s' hbad
  · rw [hrun] at hend' hsame
    rcases h n s' hs' with ⟨s'', hbad⟩ | ⟨s'', hrun', -, hlt⟩
    · exact hend' s'' hbad
    · rw [finalState_ok, hrun', finalState_ok] at hsame
      rw [hsame] at hlt
      exact Nat.lt_irrefl _ hlt

end Settling

end Nfvcl.Retries
