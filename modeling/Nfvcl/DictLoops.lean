import Nfvcl.Dicts
import Nfvcl.Effects

namespace Nfvcl.Dict
set_option autoImplicit true

section Loops

variable {κ ν α ε : Type} [DecidableEq κ]
variable {step : Dict κ ν → κ × α → Except ε (Dict κ ν)} {P : κ × α → Prop} {Q : κ × α → ν → Prop}

/-- A loop over keys of its own that sets the values of some: what it leaves under each key. -/
theorem foldlM_set {items : List (κ × α)} (hskip : ∀ d, ∀ p ∈ items, ¬ P p → step d p = .ok d)
    (hset : ∀ d d', ∀ p ∈ items, P p → step d p = .ok d' → ∃ v, Q p v ∧ d' = d.set p.1 v)
    (hkeys : (items.map Prod.fst).Nodup) {d d' : Dict κ ν} (hrun : items.foldlM step d = .ok d') :
    (∀ p ∈ items, P p → ∃ v, Q p v ∧ d'.get? p.1 = some v) ∧
      ∀ k, (∀ p ∈ items, P p → p.1 ≠ k) → d'.get? k = d.get? k := by
  induction items generalizing d with
  | nil =>
    cases hrun
    exact ⟨fun p hp => absurd hp List.not_mem_nil, fun _ _ => rfl⟩
  | cons p items ih =>
    rw [List.foldlM_cons] at hrun
    obtain ⟨d₁, hstep, hrun⟩ := Effects.except_bind_ok.1 hrun
    rw [List.map_cons, List.nodup_cons] at hkeys
    obtain ⟨hset', hother⟩ := ih (fun d q hq => hskip d q (List.mem_cons_of_mem p hq))
      (fun d d' q hq => hset d d' q (List.mem_cons_of_mem p hq)) hkeys.2 hrun
    have hlater : ∀ q ∈ items, P q → q.1 ≠ p.1 := by
      intro q hq _ heq
      exact hkeys.1 (heq ▸ List.mem_map_of_mem hq)
    by_cases hw : P p
    · obtain ⟨v, hv, rfl⟩ := hset d d₁ p List.mem_cons_self hw hstep
      constructor
      · intro q hq hwq
        rcases List.mem_cons.1 hq with rfl | hq
        · refine ⟨v, hv, ?_⟩
          rw [hother q.1 hlater, get?_set, if_pos rfl]
        · exact hset' q hq hwq
      · intro k hk
        rw [hother k (fun q hq => hk q (List.mem_cons_of_mem p hq)), get?_set, if_neg (Ne.symm (hk p List.mem_cons_self hw))]
    · rw [hskip d p List.mem_cons_self hw] at hstep
      cases hstep
      constructor
      · intro q hq hwq
        rcases List.mem_cons.1 hq with rfl | hq
        · exact absurd hwq hw
        · exact hset' q hq hwq
      · intro k hk
        exact hother k (fun q hq => hk q (List.mem_cons_of_mem p hq))

/-- The loop goes through when every step does, from dictionaries that do not have its key yet. -/
theorem exists_foldlM {I : Dict κ ν → Prop} {items : List (κ × α)} (hkeys : (items.map Prod.fst).Nodup)
    (hstep : ∀ d, ∀ p ∈ items, I d → p.1 ∉ d.keys → ∃ d', step d p = .ok d' ∧ I d' ∧ ∀ k ∈ d'.keys, k = p.1 ∨ k ∈ d.keys)
    {d : Dict κ ν} (hI : I d) (hnew : ∀ p ∈ items, p.1 ∉ d.keys) : ∃ d', items.foldlM step d = .ok d' ∧ I d' := by
  induction items generalizing d with
  | nil => exact ⟨d, rfl, hI⟩
  | cons p items ih =>
    rw [List.map_cons, List.nodup_cons] at hkeys
    obtain ⟨d₁, hrun, hI₁, hsub⟩ := hstep d p List.mem_cons_self hI (hnew p List.mem_cons_self)
    rw [List.foldlM_cons, hrun, Effects.except_ok_bind]
    refine ih hkeys.2 (fun d q hq => hstep d q (List.mem_cons_of_mem p hq)) hI₁ ?_
    intro q hq hmem
    rcases hsub q.1 hmem with heq | hmem
    · exact hkeys.1 (heq ▸ List.mem_map_of_mem hq)
    · exact hnew q (List.mem_cons_of_mem p hq) hmem

/-- Steps that do nothing can be left out. -/
theorem foldlM_filter {w : κ × α → Bool} {items : List (κ × α)} (hskip : ∀ d, ∀ p ∈ items, ¬ w p = true → step d p = .ok d)
    {d : Dict κ ν} : items.foldlM step d = (items.filter w).foldlM step d := by
  induction items generalizing d with
  | nil => rfl
  | cons p items ih =>
    have hrest : ∀ d, items.foldlM step d = (items.filter w).foldlM step d :=
      fun d => ih (fun d q hq => hskip d q (List.mem_cons_of_mem p hq))
    by_cases hw : w p = true
    · rw [List.filter_cons_of_pos hw, List.foldlM_cons, List.foldlM_cons]
      exact congrArg _ (funext hrest)
    · rw [List.filter_cons_of_neg hw, List.foldlM_cons, hskip d p List.mem_cons_self hw, Effects.except_ok_bind, hrest d]

/-- A loop that sets every key to a value computed from its item. -/
theorem foldlM_setAll {f : κ × α → Except ε ν} {items : List (κ × α)} (hkeys : (items.map Prod.fst).Nodup) {d' : Dict κ ν}
    (hrun : items.foldlM (fun d p => do return d.set p.1 (← f p)) Dict.empty = .ok d') :
    (∀ p ∈ items, ∃ v, f p = .ok v ∧ d'.get? p.1 = some v) ∧ ∀ k, (∀ p ∈ items, p.1 ≠ k) → d'.get? k = none := by
  have h := foldlM_set (P := fun _ => True) (Q := fun p v => f p = .ok v) (fun _ _ _ hw => absurd trivial hw) ?_ hkeys hrun
  · exact ⟨fun p hp => h.1 p hp trivial, fun k hk => h.2 k (fun p hp _ => hk p hp)⟩
  · intro d d' p _ _ hstep
    obtain ⟨v, hv, heq⟩ := Effects.except_bind_ok.1 hstep
    cases heq
    exact ⟨v, hv, rfl⟩

theorem exists_foldlM_setAll {f : κ × α → Except ε ν} {items : List (κ × α)} (hkeys : (items.map Prod.fst).Nodup)
    (h : ∀ p ∈ items, ∃ v, f p = .ok v) : ∃ d', items.foldlM (fun d p => do return d.set p.1 (← f p)) Dict.empty = .ok d' := by
  have hstep : ∀ d : Dict κ ν, ∀ p ∈ items, True → p.1 ∉ d.keys → ∃ d', (do return d.set p.1 (← f p) : Except ε (Dict κ ν)) = .ok d' ∧
      True ∧ ∀ k ∈ d'.keys, k = p.1 ∨ k ∈ d.keys := by
    intro d p hp _ _
    obtain ⟨v, hv⟩ := h p hp
    exact ⟨d.set p.1 v, by rw [hv, Effects.except_ok_bind]; rfl, trivial, fun k hk => mem_keys_set.1 hk⟩
  obtain ⟨d', hrun, -⟩ := exists_foldlM hkeys hstep (d := Dict.empty) trivial (fun _ _ hmem => absurd hmem List.not_mem_nil)
  exact ⟨d', hrun⟩

theorem foldlM_invariant {σ : Type} {step : σ → α → Except ε σ} {I : σ → Prop} {xs : List α}
    (hstep : ∀ s s', ∀ x ∈ xs, I s → step s x = .ok s' → I s') {s s' : σ} (hs : I s) (hrun : xs.foldlM step s = .ok s') : I s' := by
  induction xs generalizing s with
  | nil =>
    cases hrun
    exact hs
  | cons x xs ih =>
    rw [List.foldlM_cons] at hrun
    obtain ⟨s₁, hone, hrun⟩ := Effects.except_bind_ok.1 hrun
    exact ih (fun s s' y hy => hstep s s' y (List.mem_cons_of_mem x hy)) (hstep s s₁ x List.mem_cons_self hs hone) hrun

end Loops

end Nfvcl.Dict
