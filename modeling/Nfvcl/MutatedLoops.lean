import Nfvcl.Effects

namespace Nfvcl.MutatedLoops
set_option autoImplicit true
open Effects

variable {σ ε α : Type} (entries : σ → List α) (body : α → EStateM ε σ Unit)

/-- A loop over a list that its body may change: the iterator is an index, read against the list as
it then is. `n` bounds the number of rounds. -/
def iterate : Nat → Nat → EStateM ε σ Unit
  | 0, _ => pure ()
  | n + 1, i => do
    let s ← get
    match (entries s)[i]? with
    | none => pure ()
    | some x => do
      body x
      iterate n (i + 1)

variable {entries body}

theorem run_iterate_none (h : (entries s)[i]? = none) : (iterate entries body (n + 1) i).run s = .ok () s := by
  simp only [iterate, EStateM.run_bind, EStateM.run_get, h]
  rfl

theorem run_iterate_some (h : (entries s)[i]? = some x) :
    (iterate entries body (n + 1) i).run s = (body x >>= fun _ => iterate entries body n (i + 1)).run s := by
  simp only [iterate, EStateM.run_bind, EStateM.run_get, h]

/-- Past the end of the list nothing happens, however many rounds are left. -/
theorem run_iterate_past (h : (entries s).length ≤ i) : (iterate entries body n i).run s = .ok () s := by
  cases n with
  | zero => rfl
  | succ n => exact run_iterate_none (List.getElem?_eq_none h)

/-- Where the body does not lengthen the list, its length bounds the rounds. -/
theorem run_iterate_rounds (hbody : ∀ x s s', (body x).run s = .ok () s' → (entries s').length ≤ (entries s).length)
    (h : (entries s).length ≤ n + i) :
    (iterate entries body (n + k) i).run s = (iterate entries body n i).run s := by
  induction n generalizing i s with
  | zero =>
    have hpast : (entries s).length ≤ i := by omega
    rw [run_iterate_past hpast, run_iterate_past hpast]
  | succ n ih =>
    rw [Nat.succ_add]
    cases hx : (entries s)[i]? with
    | none => rw [run_iterate_none hx, run_iterate_none hx]
    | some x =>
      rw [run_iterate_some hx, run_iterate_some hx]
      cases hrun : (body x).run s with
      | error e s' => rw [run_bind_error _ _ hrun, run_bind_error _ _ hrun]
      | ok u s' =>
        have hlen := hbody x s s' hrun
        rw [run_bind_ok _ _ hrun, run_bind_ok _ _ hrun]
        exact ih (by omega)

/-- A loop whose body takes at most one element out empties the list only if there is at most one. -/
theorem iterate_empties (hbody : ∀ x s s', (body x).run s = .ok () s' → (entries s).length ≤ (entries s').length + 1)
    (h : (iterate entries body n i).run s = .ok () s') (hempty : entries s' = []) :
    entries s = [] ∨ i = 0 ∧ (entries s).length = 1 := by
  induction n generalizing i s with
  | zero =>
    cases h
    exact .inl hempty
  | succ n ih =>
    cases hx : (entries s)[i]? with
    | none =>
      rw [run_iterate_none hx] at h
      cases h
      exact .inl hempty
    | some x =>
      rw [run_iterate_some hx] at h
      obtain ⟨u, t, hrun, hrest⟩ := bind_ok_inv h
      have hlt : i < (entries s).length := (List.getElem?_eq_some_iff.1 hx).1
      have hone := hbody x s t hrun
      rcases ih hrest with hnil | ⟨hzero, -⟩
      · rw [hnil, List.length_nil] at hone
        exact .inr ⟨by omega, by omega⟩
      · cases hzero

end Nfvcl.MutatedLoops
