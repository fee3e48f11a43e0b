import Mathlib.Data.List.Basic
import Nfvcl.OperationRecords

namespace Nfvcl
set_option autoImplicit true
open Effects

namespace MeasuredWorkers

open PerformanceManager

structure Consistent (w : MeasuredWorkers) : Prop where
  manager : w.manager.Consistent
  assigned : w.performanceOperationId.get? b = some (some op) → w.manager.Owns b op

/-- What a step on behalf of another blueprint leaves as it is for blueprint `b`. -/
structure Undisturbed (b : BlueId) (w w' : MeasuredWorkers) : Prop where
  consistent : w'.Consistent
  performance : w'.manager.performanceDict.get? b = w.manager.performanceDict.get? b
  pending : w'.manager.pendingOperations.get? b = w.manager.pendingOperations.get? b
  registered : op ∈ w.manager.operations → op ∈ w'.manager.operations
  summary : op ∈ w.manager.held b → w'.manager.summaryAt op = w.manager.summaryAt op
  assigned : w'.performanceOperationId.get? b = w.performanceOperationId.get? b
  raised : (b, e) ∈ w'.raisedAtEnd → (b, e) ∈ w.raisedAtEnd

section

variable {b id : BlueId} {w w' w'' : MeasuredWorkers}

theorem Undisturbed.refl (h : w.Consistent) : Undisturbed b w w where
  consistent := h
  performance := rfl
  pending := rfl
  registered := fun h => h
  summary := fun _ => rfl
  assigned := rfl
  raised := fun h => h

theorem Undisturbed.trans (h : Undisturbed b w w') (h' : Undisturbed b w' w'') : Undisturbed b w w'' where
  consistent := h'.consistent
  performance := h'.performance.trans h.performance
  pending := h'.pending.trans h.pending
  registered := fun hop => h'.registered (h.registered hop)
  summary := fun hop => (h'.summary ((held_eq h.performance).symm ▸ hop)).trans (h.summary hop)
  assigned := h'.assigned.trans h.assigned
  raised := fun he => h.raised (h'.raised he)

theorem Undisturbed.records_eq (h : Undisturbed b w w') : w'.manager.records b = w.manager.records b := by
  rw [records, records, held_eq h.performance]
  exact List.filterMap_congr (fun op hop => h.summary hop)

theorem finalState_onManager (m : PerformanceM α) (w : MeasuredWorkers) :
    finalState ((onManager m).run w) = { w with manager := finalState (m.run w.manager) } := by
  rw [onManager, run_zoom]
  cases m.run w.manager <;> rfl

theorem run_onManager_ok {m : PerformanceM α} (h : m.run w.manager = .ok a m') :
    (onManager m).run w = .ok a { w with manager := m' } := by
  rw [onManager, run_zoom, h]

theorem run_onManager_error {m : PerformanceM α} (h : m.run w.manager = .error e m') :
    (onManager m).run w = .error e { w with manager := m' } := by
  rw [onManager, run_zoom, h]

/-! ### The other workers -/

theorem Undisturbed.of_aside (hw : w.Consistent) (hb : b ≠ id) (h : Aside id w.manager m') :
    Undisturbed b w { w with manager := m' } where
  consistent := { manager := h.consistent, assigned := fun hop => h.owns (hw.assigned hop) }
  performance := h.performance hb
  pending := h.pending hb
  registered := h.registered
  summary := h.summary hb
  assigned := rfl
  raised := fun h => h

theorem Undisturbed.assign (hw : w.Consistent) (hb : b ≠ id) (value : Option OperationId)
    (hvalue : ∀ op, value = some op → w.manager.Owns id op) :
    Undisturbed b w { w with performanceOperationId := w.performanceOperationId.set id value } where
  consistent := {
    manager := hw.manager
    assigned := by
      intro op b' hop
      change (w.performanceOperationId.set id value).get? op = _ at hop
      rw [Dict.get?_set] at hop
      split at hop
      · rename_i hid
        rw [hid]
        exact hvalue _ (Option.some.inj hop)
      · exact hw.assigned hop }
  performance := rfl
  pending := rfl
  registered := fun h => h
  summary := fun _ => rfl
  assigned := (Dict.get?_set _ _ _ _).trans (if_neg hb)
  raised := fun h => h

theorem run_startOperation (h : (PerformanceManager.startOperation id type opName).run w.manager = .ok value m') :
    (startOperation id type opName).run w =
      .ok () { w with manager := m', performanceOperationId := w.performanceOperationId.set id value } :=
  run_bind_ok _ _ (run_onManager_ok h)

theorem startOperation_undisturbed (hw : w.Consistent) (hb : b ≠ id) (type : BlueprintPerformanceType) (opName : String) :
    Undisturbed b w (finalState ((startOperation id type opName).run w)) := by
  cases hget : w.manager.performanceDict.get? id with
  | none =>
    rw [run_startOperation (startOperation_unknown hget type opName)]
    exact .assign hw hb none (fun op h => by cases h)
  | some performance =>
    have haside := started_aside hw.manager hget type opName
    rw [run_startOperation (startOperation_known hget type opName)]
    apply (Undisturbed.of_aside hw hb haside).trans
    apply Undisturbed.assign (Undisturbed.of_aside hw hb haside).consistent hb
    intro op hop
    cases hop
    apply haside.consistent.held
    rw [held_started hget, if_pos rfl]
    exact List.mem_append_right _ (List.mem_singleton.2 rfl)

theorem endOperation_undisturbed (hw : w.Consistent) (hb : b ≠ id) :
    Undisturbed b w (finalState ((endOperation id).run w)) := by
  cases hvariable : w.performanceOperationId.get? id with
  | none =>
    have hrun : (endOperation id).run w = .ok () w := by simp [endOperation, hvariable]
    rw [hrun]
    exact .refl hw
  | some value =>
    have haside : Aside id w.manager (finalState ((PerformanceManager.endOperation value).run w.manager)) := by
      cases value with
      | none => exact .refl hw.manager
      | some op => exact endOperation_aside hw.manager op (hw.assigned hvariable)
    have hundisturbed := Undisturbed.of_aside hw hb haside
    cases hend : (PerformanceManager.endOperation value).run w.manager with
    | ok u m' =>
      have hrun : (endOperation id).run w = .ok () { w with manager := m' } := by
        simp [endOperation, hvariable, run_onManager_ok hend]
      rw [hend] at hundisturbed
      rw [hrun]
      exact hundisturbed
    | error e m' =>
      have hrun : (endOperation id).run w = .error e { w with manager := m', raisedAtEnd := w.raisedAtEnd ++ [(id, e)] } := by
        simp only [endOperation, EStateM.run_bind, EStateM.run_get, hvariable, run_tryCatch, run_onManager_error hend]
        rfl
      rw [hend] at hundisturbed
      rw [hrun]
      exact {
        hundisturbed with
        consistent := { manager := hundisturbed.consistent.manager, assigned := hundisturbed.consistent.assigned }
        raised := by
          intro e' he
          rcases List.mem_append.1 he with he | he
          · exact he
          · exact absurd (congrArg Prod.fst (List.mem_singleton.1 he)) hb }

theorem finalState_then (m : EStateM PyError σ α) (s : σ) :
    finalState (EStateM.run (do let _ ← m) s) = finalState (m.run s) := by
  rw [EStateM.run_bind]
  cases m.run s <;> rfl

theorem run_caught (m : EStateM PyError σ Unit) (s : σ) :
    EStateM.run (tryCatch m (fun _ => pure ())) s = .ok () (finalState (m.run s)) := by
  rw [run_tryCatch]
  cases m.run s <;> rfl

theorem move_undisturbed (hw : w.Consistent) (move : Move) (hb : move.blueprintId ≠ b) :
    Undisturbed b w (finalState (move.run.run w)) := by
  cases move with
  | addBlueprint id type =>
    rw [Move.run, finalState_onManager]
    exact .of_aside hw (Ne.symm hb) (addBlueprint_aside hw.manager id type)
  | startOperation id type opName => exact startOperation_undisturbed hw (Ne.symm hb) type opName
  | endOperation id => exact endOperation_undisturbed hw (Ne.symm hb)
  | providerCall id call =>
    rw [Move.run, finalState_then, finalState_onManager]
    exact .of_aside hw (Ne.symm hb) (registerPerformance_aside hw.manager id call)

theorem elsewhere_undisturbed (hw : w.Consistent) (move : ForeignMove b) :
    ∃ w', move.move.elsewhere.run w = .ok () w' ∧ Undisturbed b w w' :=
  ⟨_, run_caught _ w, move_undisturbed hw move.move move.foreign⟩

/-! ### The worker of one blueprint -/

/-- Between two messages. -/
structure Idle (b : BlueId) (earlier : List OperationRecord) (w : MeasuredWorkers) : Prop where
  consistent : w.Consistent
  records : w.manager.records b = earlier
  pending : w.manager.pendingOperations.get? b = none
  quiet : (b, e) ∉ w.raisedAtEnd

/-- In the middle of operation `op`. -/
structure Processing (b : BlueId) (before : List OperationId) (op : OperationId) (earlier : List OperationRecord)
    (current : OperationRecord) (w : MeasuredWorkers) : Prop where
  consistent : w.Consistent
  held : w.manager.held b = before ++ [op]
  fresh : op ∉ before
  past : before.filterMap w.manager.summaryAt = earlier
  present : w.manager.summaryAt op = some current
  pending : w.manager.pendingOperations.get? b = some op
  registered : op ∈ w.manager.operations
  assigned : w.performanceOperationId.get? b = some (some op)
  quiet : (b, e) ∉ w.raisedAtEnd

theorem Idle.undisturbed (h : Idle b earlier w) (hw : Undisturbed b w w') : Idle b earlier w' where
  consistent := hw.consistent
  records := hw.records_eq.trans h.records
  pending := hw.pending.trans h.pending
  quiet := fun he => h.quiet (hw.raised he)

theorem Processing.undisturbed (h : Processing b before op earlier current w) (hw : Undisturbed b w w') :
    Processing b before op earlier current w' where
  consistent := hw.consistent
  held := (held_eq hw.performance).trans h.held
  fresh := h.fresh
  past := by
    rw [← h.past]
    apply List.filterMap_congr
    intro op' hop
    apply hw.summary
    rw [h.held]
    exact List.mem_append_left _ hop
  present := by
    rw [← h.present]
    apply hw.summary
    rw [h.held]
    exact List.mem_append_right _ (List.mem_singleton.2 rfl)
  pending := hw.pending.trans h.pending
  registered := hw.registered h.registered
  assigned := hw.assigned.trans h.assigned
  quiet := fun he => h.quiet (hw.raised he)

theorem Idle.start (h : Idle b earlier w) (hget : w.manager.performanceDict.get? b = some performance)
    (type : BlueprintPerformanceType) (opName : String) :
    ∃ w', (startOperation b type opName).run w = .ok () w' ∧
      Processing b (w.manager.held b) w.manager.objects.length earlier ⟨opName, type, false, []⟩ w' := by
  have haside := started_aside h.consistent.manager hget type opName
  have hheld := held_started hget type opName b
  rw [if_pos rfl] at hheld
  refine ⟨_, run_startOperation (startOperation_known hget type opName), ?_⟩
  exact {
    consistent := {
      manager := haside.consistent
      assigned := by
        intro op b' hop
        change (w.performanceOperationId.set b (some w.manager.objects.length)).get? op = _ at hop
        rw [Dict.get?_set] at hop
        split at hop
        · rename_i hb
          cases hop
          rw [hb]
          apply haside.consistent.held
          rw [hheld]
          exact List.mem_append_right _ (List.mem_singleton.2 rfl)
        · exact haside.owns (h.consistent.assigned hop) }
    held := hheld
    fresh := fun hop => Nat.lt_irrefl _ (h.consistent.manager.held hop).1
    past := by
      rw [← h.records]
      apply List.filterMap_congr
      intro op hop
      exact summaryAt_started _ _ _ _ _ (h.consistent.manager.held hop).1
    present := by
      change (w.manager.objects ++ [_])[w.manager.objects.length]?.map _ = _
      rw [List.getElem?_append_right (Nat.le_refl _), Nat.sub_self]
      rfl
    pending := (Dict.get?_set _ _ _ _).trans (if_pos rfl)
    registered := List.mem_append_right _ (List.mem_singleton.2 rfl)
    assigned := (Dict.get?_set _ _ _ _).trans (if_pos rfl)
    quiet := h.quiet }

theorem Processing.call (h : Processing b before op earlier current w) (call : ProviderCall) :
    Processing b before op earlier (current.noting call.methodName call.info)
      { w with manager := finalState ((registerPerformance b call).run w.manager) } := by
  have hnotes := registerPerformance_notes b call w.manager
  have haside := registerPerformance_aside h.consistent.manager b call
  exact {
    consistent := { manager := haside.consistent, assigned := fun hop => haside.owns (h.consistent.assigned hop) }
    held := (held_eq (by rw [hnotes.performance])).trans h.held
    fresh := h.fresh
    past := by
      rw [← h.past]
      apply List.filterMap_congr
      intro op' hop
      apply hnotes.others
      apply Or.inl
      intro htarget
      have heq : some op = some op' := h.pending.symm.trans htarget
      exact h.fresh (Option.some.inj heq ▸ hop)
    present := by
      rw [hnotes.noted h.pending h.registered, h.present]
      rfl
    pending := by
      rw [hnotes.pending]
      exact h.pending
    registered := by
      rw [hnotes.operations]
      exact h.registered
    assigned := h.assigned
    quiet := h.quiet }

theorem Processing.finish (h : Processing b before op earlier current w) :
    ∃ w', (endOperation b).run w = .ok () w' ∧ Idle b (earlier ++ [{ current with ended := true }]) w' ∧
      w'.manager.performanceDict = w.manager.performanceDict := by
  have hheld : op ∈ w.manager.held b := by
    rw [h.held]
    exact List.mem_append_right _ (List.mem_singleton.2 rfl)
  let m' : PerformanceManager :=
    { w.manager.settled op with pendingOperations := w.manager.pendingOperations.erase b }
  have haside : Aside b w.manager m' :=
    (settled_aside h.consistent.manager (h.consistent.manager.held hheld)).trans
      (erase_aside (settled_aside h.consistent.manager (h.consistent.manager.held hheld)).consistent b)
  have hend : (PerformanceManager.endOperation (some op)).run w.manager = .ok () m' := by
    rw [endOperation_found (findOperation_of_held h.consistent.manager hheld)]
    exact delPending_some (show (w.manager.settled op).pendingOperations.get? b = some op from h.pending)
  have hsummary : ∀ op', m'.summaryAt op' = _ := summaryAt_settled w.manager op
  refine ⟨{ w with manager := m' }, ?_, ?_, rfl⟩
  · simp [endOperation, h.assigned, run_onManager_ok hend]
  · exact {
      consistent := { manager := haside.consistent, assigned := fun hop => haside.owns (h.consistent.assigned hop) }
      records := by
        have hold : before.filterMap m'.summaryAt = earlier := by
          rw [← h.past]
          apply List.filterMap_congr
          intro op' hop
          rw [hsummary, if_neg]
          rintro rfl
          exact h.fresh hop
        have hlast : m'.summaryAt op = some { current with ended := true } := by
          rw [hsummary, if_pos rfl, h.present]
          rfl
        rw [records, show m'.held b = before ++ [op] from h.held, List.filterMap_append, hold, List.filterMap_cons, hlast,
          List.filterMap_nil]
      pending := (Dict.get?_erase _ _ _).trans (if_pos rfl)
      quiet := h.quiet }

end

end MeasuredWorkers

end Nfvcl
