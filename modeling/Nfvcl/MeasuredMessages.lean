import Mathlib.Data.List.Basic
import Nfvcl.PerformanceRuns

namespace Nfvcl
set_option autoImplicit true
open Effects

namespace MeasuredWorkers

open PerformanceManager

def Activity.call? : Activity b → Option (String × List (String × String))
  | .providerCall call => some (call.methodName, call.info)
  | .elsewhere _ => none

namespace MeasuredMessage

def type (q : MeasuredMessage b) : BlueprintPerformanceType :=
  match q.message.messageType with
  | .day0 => .day0
  | .day2 | .day2ByName => .day2
  | .stop => .deletion

def opName (q : MeasuredMessage b) : String :=
  match q.message.messageType with
  | .day0 => "create"
  | .day2 | .day2ByName => q.function
  | .stop => "delete"

/-- The record of a message: its operation with an end, and the provider calls made for it. -/
def expected (q : MeasuredMessage b) : OperationRecord where
  opName := q.opName
  type := q.type
  ended := true
  calls := q.during.filterMap Activity.call?

/-- The message comes to the call of `create`, of the day2 function or of `destroy`. -/
def Reaches (q : MeasuredMessage b) : Prop :=
  q.results.started = none ∧ (q.message.messageType = .day2 → q.lookup = none)

instance (q : MeasuredMessage b) : Decidable q.Reaches :=
  inferInstanceAs (Decidable (_ ∧ (_ → _)))

/-- That call does not raise. -/
def Returns (q : MeasuredMessage b) : Prop :=
  q.results.operation.isOk = true

instance (q : MeasuredMessage b) : Decidable q.Returns :=
  inferInstanceAs (Decidable (_ = true))

/-- The loop goes on after the message. -/
def Continues (q : MeasuredMessage b) : Prop :=
  q.message.messageType ≠ .stop ∧ q.results.started = none ∧
    (q.Reaches ∧ q.Returns ∧ q.results.ended = none ∨ q.results.failed = none)

instance (q : MeasuredMessage b) : Decidable q.Continues :=
  inferInstanceAs (Decidable (_ ∧ _ ∧ (_ ∨ _)))

end MeasuredMessage

/-- The messages the worker takes from its queue. -/
def processed : List (MeasuredMessage b) → List (MeasuredMessage b)
  | [] => []
  | q :: qs => q :: if q.Continues then processed qs else []

/-- The records of blueprint `b` match the messages processed since `w`. -/
structure Matched (b : BlueId) (w : MeasuredWorkers) (messages : List (MeasuredMessage b)) (w' : MeasuredWorkers) :
    Prop where
  pending : w'.manager.pendingOperations.get? b = none
  records : w'.manager.records b =
    w.manager.records b ++ (messages.filter (fun q => decide q.Reaches)).map MeasuredMessage.expected
  quiet : ∀ e, (b, e) ∉ w'.raisedAtEnd

/-- The records match after every message of the queue that is processed. -/
def AlwaysMatched (b : BlueId) (w : MeasuredWorkers) (queue : List (MeasuredMessage b)) : Prop :=
  ∀ done rest, queue = done ++ rest → Matched b w (processed done) (finalState ((listen done).run w))

section

variable {b : BlueId} {w w' : MeasuredWorkers}

/-! ### One operation -/

theorem Processing.activity (h : Processing b before op earlier current w) (a : Activity b) :
    ∃ w', a.run.run w = .ok () w' ∧
      Processing b before op earlier { current with calls := current.calls ++ a.call?.toList } w' := by
  cases a with
  | providerCall call =>
    refine ⟨_, run_caught _ w, ?_⟩
    rw [finalState_then, finalState_onManager]
    exact h.call call
  | elsewhere move =>
    obtain ⟨w', hrun, hw⟩ := elsewhere_undisturbed h.consistent move
    refine ⟨w', hrun, ?_⟩
    have hnone : current.calls ++ (Activity.elsewhere move).call?.toList = current.calls := List.append_nil _
    rw [hnone]
    exact h.undisturbed hw

theorem Processing.during (h : Processing b before op earlier current w) (activities : List (Activity b)) :
    ∃ w', (activities.forM Activity.run).run w = .ok () w' ∧
      Processing b before op earlier { current with calls := current.calls ++ activities.filterMap Activity.call? } w' := by
  induction activities generalizing w current with
  | nil =>
    refine ⟨w, rfl, ?_⟩
    rw [List.filterMap_nil, List.append_nil]
    exact h
  | cons a activities ih =>
    obtain ⟨w', hrun, hw⟩ := h.activity a
    obtain ⟨w'', hrest, hlast⟩ := ih hw
    refine ⟨w'', ?_, ?_⟩
    · change EStateM.run (a.run >>= fun _ => activities.forM Activity.run) w = _
      rw [run_bind_ok _ _ hrun]
      exact hrest
    · have hcalls : current.calls ++ (a :: activities).filterMap Activity.call? =
          current.calls ++ a.call?.toList ++ activities.filterMap Activity.call? := by
        rw [List.append_assoc, List.filterMap_cons]
        cases a.call? <;> rfl
      rw [hcalls]
      exact hlast

/-- An operation of a known blueprint gets its record if it returns, and stays pending if it raises. -/
theorem measured_known (h : Idle b earlier w) (hget : w.manager.performanceDict.get? b = some performance)
    (q : MeasuredMessage b) (type : BlueprintPerformanceType) (opName : String) :
    (∃ w', (q.measured type opName).run w = .ok () w' ∧ q.Returns ∧
      Idle b (earlier ++ [⟨opName, type, true, q.during.filterMap Activity.call?⟩]) w' ∧
      ∃ performance', w'.manager.performanceDict.get? b = some performance') ∨
    (∃ e w', (q.measured type opName).run w = .error e w' ∧ ¬ q.Returns ∧
      w'.manager.pendingOperations.get? b ≠ none) := by
  obtain ⟨w₁, hstart, hw₁⟩ := h.start hget type opName
  obtain ⟨w₂, hduring, hw₂⟩ := hw₁.during q.during
  have hrun : (q.measured type opName).run w = EStateM.run (do
      (do let _ ← ofExcept q.results.operation)
      endOperation b) w₂ := by
    rw [MeasuredMessage.measured, run_bind_ok _ _ hstart, MeasuredMessage.operation, EStateM.run_bind,
      run_bind_ok _ _ hduring]
    rfl
  cases hresult : q.results.operation with
  | ok value =>
    obtain ⟨w₃, hfinish, hidle, hdict⟩ := hw₂.finish
    have hknown : ∃ performance', w₃.manager.performanceDict.get? b = some performance' := by
      cases hget' : w₃.manager.performanceDict.get? b with
      | some performance' => exact ⟨performance', rfl⟩
      | none =>
        have hheld := hw₂.held
        rw [held, ← hdict, hget'] at hheld
        exact absurd hheld.symm (List.append_ne_nil_of_right_ne_nil _ (List.cons_ne_nil _ _))
    left
    refine ⟨w₃, ?_, ?_, hidle, hknown⟩
    · rw [hrun, hresult]
      exact hfinish
    · rw [MeasuredMessage.Returns, hresult]
      rfl
  | error e =>
    right
    refine ⟨e, w₂, ?_, ?_, ?_⟩
    · rw [hrun, hresult]
      rfl
    · rw [MeasuredMessage.Returns, hresult]
      exact Bool.false_ne_true
    · rw [hw₂.pending]
      exact Option.some_ne_none _

/-- Nothing is noted for an unknown blueprint. -/
structure Unknown (b : BlueId) (w : MeasuredWorkers) : Prop where
  idle : Idle b [] w
  unknown : w.manager.performanceDict.get? b = none

theorem Unknown.undisturbed (h : Unknown b w) (hw : Undisturbed b w w') : Unknown b w' where
  idle := h.idle.undisturbed hw
  unknown := hw.performance.trans h.unknown

theorem Unknown.call (h : Unknown b w) (call : ProviderCall) :
    Unknown b { w with manager := finalState ((registerPerformance b call).run w.manager) } := by
  have hnotes := registerPerformance_notes b call w.manager
  have haside := registerPerformance_aside h.idle.consistent.manager b call
  have hget : (finalState ((registerPerformance b call).run w.manager)).performanceDict.get? b = none := by
    rw [hnotes.performance]
    exact h.unknown
  exact {
    idle := {
      consistent := { manager := haside.consistent, assigned := fun hop => haside.owns (h.idle.consistent.assigned hop) }
      records := by rw [records, held, hget]; rfl
      pending := by rw [hnotes.pending]; exact h.idle.pending
      quiet := h.idle.quiet }
    unknown := hget }

theorem Unknown.activities (h : Unknown b w) (hvariable : w.performanceOperationId.get? b = some none)
    (activities : List (Activity b)) :
    ∃ w', (activities.forM Activity.run).run w = .ok () w' ∧ Unknown b w' ∧ w'.performanceOperationId.get? b = some none := by
  induction activities generalizing w with
  | nil => exact ⟨w, rfl, h, hvariable⟩
  | cons a activities ih =>
    have hstep : ∃ w', a.run.run w = .ok () w' ∧ Unknown b w' ∧ w'.performanceOperationId.get? b = some none := by
      cases a with
      | providerCall call =>
        refine ⟨_, run_caught _ w, ?_⟩
        rw [finalState_then, finalState_onManager]
        exact ⟨h.call call, hvariable⟩
      | elsewhere move =>
        obtain ⟨w', hrun, hw⟩ := elsewhere_undisturbed h.idle.consistent move
        exact ⟨w', hrun, h.undisturbed hw, hw.assigned.trans hvariable⟩
    obtain ⟨w', hrun, hw, hvariable'⟩ := hstep
    obtain ⟨w'', hrest, hlast⟩ := ih hw hvariable'
    refine ⟨w'', ?_, hlast⟩
    change EStateM.run (a.run >>= fun _ => activities.forM Activity.run) w = _
    rw [run_bind_ok _ _ hrun]
    exact hrest

theorem measured_unknown (h : Unknown b w) (q : MeasuredMessage b) (type : BlueprintPerformanceType) (opName : String) :
    Unknown b (finalState ((q.measured type opName).run w)) := by
  have hstart := run_startOperation (startOperation_unknown h.unknown type opName)
  have hset := Dict.get?_set w.performanceOperationId b none
  have hassign : Unknown b { w with performanceOperationId := w.performanceOperationId.set b none } := {
    idle := {
      consistent := {
        manager := h.idle.consistent.manager
        assigned := by
          intro op b' hop
          change (w.performanceOperationId.set b none).get? op = _ at hop
          rw [hset] at hop
          split at hop
          · cases hop
          · exact h.idle.consistent.assigned hop }
      records := h.idle.records
      pending := h.idle.pending
      quiet := h.idle.quiet }
    unknown := h.unknown }
  obtain ⟨w', hduring, hw', hvariable⟩ := hassign.activities ((hset b).trans (if_pos rfl)) q.during
  have hrun : (q.measured type opName).run w = EStateM.run (do
      (do let _ ← ofExcept q.results.operation)
      endOperation b) w' := by
    rw [MeasuredMessage.measured, run_bind_ok _ _ hstart, MeasuredMessage.operation, EStateM.run_bind,
      run_bind_ok _ _ hduring]
    rfl
  rw [hrun]
  cases q.results.operation with
  | error e => exact hw'
  | ok value =>
    have hend : (endOperation b).run w' = .ok () w' := by
      simp [endOperation, hvariable, run_onManager_ok (show (PerformanceManager.endOperation none).run w'.manager = _ from rfl)]
    change Unknown b (finalState ((endOperation b).run w'))
    rw [hend]
    exact hw'

/-! ### One message -/

theorem outcome_state (result : Option PyError) (s : σ) : finalState ((outcome result).run s) = s := by
  cases result <;> rfl

theorem before_undisturbed (hw : w.Consistent) (moves : List (ForeignMove b)) :
    ∃ w', (moves.forM (fun move => move.move.elsewhere)).run w = .ok () w' ∧ Undisturbed b w w' := by
  induction moves generalizing w with
  | nil => exact ⟨w, rfl, .refl hw⟩
  | cons move moves ih =>
    obtain ⟨w', hrun, hw'⟩ := elsewhere_undisturbed hw move
    obtain ⟨w'', hrest, hlast⟩ := ih hw'.consistent
    refine ⟨w'', ?_, hw'.trans hlast⟩
    change EStateM.run (move.move.elsewhere >>= fun _ => moves.forM (fun move => move.move.elsewhere)) w = _
    rw [run_bind_ok _ _ hrun]
    exact hrest

/-- The `try` of the creation and day2 cases. -/
theorem attempt_state (m : MeasuredM Unit) (ended failed : Option PyError) (w : MeasuredWorkers) :
    finalState (EStateM.run (tryCatch (do m; outcome ended) (fun _ => outcome failed)) w) = finalState (m.run w) := by
  rw [run_tryCatch, EStateM.run_bind]
  cases m.run w with
  | error e w' => exact outcome_state failed w'
  | ok u w' =>
    cases ended with
    | none => rfl
    | some e => exact outcome_state failed w'

theorem attempt_returns (m : MeasuredM Unit) (ended failed : Option PyError) (w : MeasuredWorkers) :
    returned (EStateM.run (tryCatch (do m; outcome ended) (fun _ => outcome failed)) w) = some () ↔
      returned (m.run w) = some () ∧ ended = none ∨ failed = none := by
  rw [run_tryCatch, EStateM.run_bind]
  cases m.run w with
  | error e w' =>
    cases failed with
    | none => exact iff_of_true rfl (.inr rfl)
    | some e' => exact iff_of_false (fun h => (nomatch h)) (by rintro (⟨h, -⟩ | h) <;> cases h)
  | ok u w' =>
    cases ended with
    | none => exact iff_of_true rfl (.inl ⟨rfl, rfl⟩)
    | some e =>
      cases failed with
      | none => exact iff_of_true rfl (.inr rfl)
      | some e' => exact iff_of_false (fun h => (nomatch h)) (by rintro (⟨-, h⟩ | h) <;> cases h)

theorem then_true (m : MeasuredM Unit) (w : MeasuredWorkers) :
    finalState (EStateM.run (do m; return true) w) = finalState (m.run w) ∧
      (returned (EStateM.run (do m; return true) w) = some true ↔ returned (m.run w) = some ()) := by
  rw [EStateM.run_bind]
  cases m.run w with
  | ok u w' => exact ⟨rfl, iff_of_true rfl rfl⟩
  | error e w' => exact ⟨rfl, iff_of_false (fun h => (nomatch h)) (fun h => (nomatch h))⟩

/-- What the worker does with a message once it has taken it. -/
def MeasuredMessage.work (q : MeasuredMessage b) : MeasuredM Bool :=
  match q.message.messageType with
  | .day0 => do
    q.handleDay0
    return true
  | .day2 | .day2ByName => do
    q.handleDay2
    return true
  | .stop => do
    q.handleStop
    return false

theorem run_handle (q : MeasuredMessage b) (hbefore : (q.before.forM (fun move => move.move.elsewhere)).run w = .ok () w') :
    q.handle.run w = q.work.run w' :=
  run_bind_ok _ _ hbefore

/-- A message that comes to its operation does just that operation. -/
theorem work_reaching (q : MeasuredMessage b) (hreaches : q.Reaches) (w : MeasuredWorkers) :
    finalState (q.work.run w) = finalState ((q.measured q.type q.opName).run w) ∧
      (returned (q.work.run w) = some true ↔ q.message.messageType ≠ .stop ∧
        (returned ((q.measured q.type q.opName).run w) = some () ∧ q.results.ended = none ∨ q.results.failed = none)) := by
  obtain ⟨hstarted, hlookup⟩ := hreaches
  have hattempt := fun m => attempt_state m q.results.ended q.results.failed w
  have hreturns := fun m => attempt_returns m q.results.ended q.results.failed w
  unfold MeasuredMessage.work MeasuredMessage.type MeasuredMessage.opName
  cases hkind : q.message.messageType with
  | day0 =>
    have hhandle : q.handleDay0 = tryCatch (do q.measured .day0 "create"; outcome q.results.ended)
        (fun _ => outcome q.results.failed) := by
      rw [MeasuredMessage.handleDay0, hstarted]
      rfl
    obtain ⟨hfinal, htrue⟩ := then_true q.handleDay0 w
    refine ⟨hfinal.trans ?_, htrue.trans ?_⟩
    · rw [hhandle, hattempt]
    · rw [hhandle, hreturns]
      exact (and_iff_right (by decide)).symm
  | day2 =>
    have hhandle : q.handleDay2 = tryCatch (do q.measured .day2 q.function; outcome q.results.ended)
        (fun _ => outcome q.results.failed) := by
      rw [MeasuredMessage.handleDay2, hstarted, hkind, hlookup hkind]
      rfl
    obtain ⟨hfinal, htrue⟩ := then_true q.handleDay2 w
    refine ⟨hfinal.trans ?_, htrue.trans ?_⟩
    · rw [hhandle, hattempt]
    · rw [hhandle, hreturns]
      exact (and_iff_right (by decide)).symm
  | day2ByName =>
    have hhandle : q.handleDay2 = tryCatch (do q.measured .day2 q.function; outcome q.results.ended)
        (fun _ => outcome q.results.failed) := by
      rw [MeasuredMessage.handleDay2, hstarted, hkind]
      rfl
    obtain ⟨hfinal, htrue⟩ := then_true q.handleDay2 w
    refine ⟨hfinal.trans ?_, htrue.trans ?_⟩
    · rw [hhandle, hattempt]
    · rw [hhandle, hreturns]
      exact (and_iff_right (by decide)).symm
  | stop =>
    have hrun : EStateM.run (do q.handleStop; return false) w = EStateM.run (do
        (do q.measured .deletion "delete"; outcome q.results.ended)
        return false) w := by
      rw [MeasuredMessage.handleStop, hstarted]
      rfl
    refine ⟨?_, iff_of_false ?_ (fun h => h.1 rfl)⟩
    · rw [hrun, EStateM.run_bind, EStateM.run_bind]
      cases (q.measured .deletion "delete").run w with
      | error e w' => rfl
      | ok u w' => cases q.results.ended <;> rfl
    · rw [hrun, EStateM.run_bind, EStateM.run_bind]
      cases (q.measured .deletion "delete").run w with
      | error e w' => exact fun h => (nomatch h)
      | ok u w' => cases q.results.ended <;> exact fun h => (nomatch h)

/-- The other messages leave the manager as it is. -/
theorem work_not_reaching (q : MeasuredMessage b) (hreaches : ¬ q.Reaches) (w : MeasuredWorkers) :
    finalState (q.work.run w) = w ∧ (returned (q.work.run w) = some true ↔
      q.message.messageType ≠ .stop ∧ q.results.started = none ∧ q.results.failed = none) := by
  unfold MeasuredMessage.work
  cases hstarted : q.results.started with
  | some e =>
    cases q.message.messageType with
    | day0 =>
      rw [MeasuredMessage.handleDay0, hstarted]
      exact ⟨rfl, iff_of_false (fun h => (nomatch h)) (fun h => (nomatch h.2.1))⟩
    | stop =>
      rw [MeasuredMessage.handleStop, hstarted]
      exact ⟨rfl, iff_of_false (fun h => (nomatch h)) (fun h => (nomatch h.2.1))⟩
    | _ =>
      rw [MeasuredMessage.handleDay2, hstarted]
      exact ⟨rfl, iff_of_false (fun h => (nomatch h)) (fun h => (nomatch h.2.1))⟩
  | none =>
    have hlookup : q.message.messageType = .day2 ∧ ∃ e, q.lookup = some e := by
      have hnot : ¬ (q.message.messageType = .day2 → q.lookup = none) := fun h => hreaches ⟨hstarted, h⟩
      obtain ⟨hkind, hsome⟩ := Classical.not_imp.1 hnot
      exact ⟨hkind, Option.ne_none_iff_exists'.1 hsome⟩
    obtain ⟨hkind, e, hraises⟩ := hlookup
    rw [hkind]
    have hhandle : q.handleDay2 = outcome q.results.failed := by
      rw [MeasuredMessage.handleDay2, hstarted, hkind, hraises]
      rfl
    obtain ⟨hfinal, htrue⟩ := then_true q.handleDay2 w
    refine ⟨hfinal.trans ?_, htrue.trans ?_⟩
    · rw [hhandle]
      exact outcome_state _ _
    · rw [hhandle]
      cases q.results.failed with
      | none => exact iff_of_true rfl ⟨by decide, rfl, rfl⟩
      | some e' => exact iff_of_false (fun h => (nomatch h)) (fun h => (nomatch h.2.2))

/-! ### The whole queue -/

def Knows (w : MeasuredWorkers) (b : BlueId) : Prop :=
  ∃ performance, w.manager.performanceDict.get? b = some performance

theorem knows_congr (h : w'.manager.performanceDict.get? b = w.manager.performanceDict.get? b) :
    w'.Knows b ↔ w.Knows b := by
  rw [Knows, Knows, h]

/-- The records a message adds. -/
def added (messages : List (MeasuredMessage b)) : List OperationRecord :=
  (messages.filter (fun q => decide q.Reaches)).map MeasuredMessage.expected

theorem added_cons (q : MeasuredMessage b) (qs : List (MeasuredMessage b)) : added (q :: qs) = added [q] ++ added qs := by
  rw [added, added, added, ← List.map_append, ← List.filter_append]
  rfl

theorem added_reaching {q : MeasuredMessage b} (h : q.Reaches) : added [q] = [q.expected] := by
  rw [added, List.filter_cons_of_pos (p := fun q : MeasuredMessage b => decide q.Reaches) (decide_eq_true h)]
  rfl

theorem added_not_reaching {q : MeasuredMessage b} (h : ¬ q.Reaches) : added [q] = [] := by
  rw [added, List.filter_cons_of_neg (by simpa using h)]
  rfl

theorem message_matched (h : Idle b earlier w) (q : MeasuredMessage b) (hq : q.Reaches → q.Returns ∧ w.Knows b) :
    Idle b (earlier ++ added [q]) (finalState (q.handle.run w)) ∧ ((finalState (q.handle.run w)).Knows b ↔ w.Knows b) ∧
      (returned (q.handle.run w) = some true ↔ q.Continues) := by
  obtain ⟨w₁, hbefore, hw₁⟩ := before_undisturbed h.consistent q.before
  rw [run_handle q hbefore]
  by_cases hreaches : q.Reaches
  · obtain ⟨hreturns, performance, hget⟩ := hq hreaches
    obtain ⟨hfinal, htrue⟩ := work_reaching q hreaches w₁
    rcases measured_known (h.undisturbed hw₁) (hw₁.performance.trans hget) q q.type q.opName with
      ⟨w₂, hrun, -, hidle, hknows⟩ | ⟨e, w₂, -, hraises, -⟩
    · rw [hfinal, htrue, hrun, added_reaching hreaches]
      refine ⟨hidle, iff_of_true hknows ⟨performance, hget⟩, ?_⟩
      unfold MeasuredMessage.Continues
      constructor
      · rintro ⟨hkind, hgoes⟩
        exact ⟨hkind, hreaches.1, hgoes.imp_left (fun hended => ⟨hreaches, hreturns, hended.2⟩)⟩
      · rintro ⟨hkind, -, hgoes⟩
        exact ⟨hkind, hgoes.imp_left (fun hended => ⟨rfl, hended.2.2⟩)⟩
    · exact absurd hreturns hraises
  · obtain ⟨hfinal, htrue⟩ := work_not_reaching q hreaches w₁
    rw [hfinal, htrue, added_not_reaching hreaches, List.append_nil]
    refine ⟨h.undisturbed hw₁, knows_congr hw₁.performance, ?_⟩
    unfold MeasuredMessage.Continues
    constructor
    · rintro ⟨hkind, hstarted, hfailed⟩
      exact ⟨hkind, hstarted, .inr hfailed⟩
    · rintro ⟨hkind, hstarted, hgoes⟩
      exact ⟨hkind, hstarted, hgoes.resolve_left (fun hall => hreaches hall.1)⟩

theorem message_unmatched (h : Idle b earlier w) (q : MeasuredMessage b) (hreaches : q.Reaches)
    (hq : ¬ (q.Returns ∧ w.Knows b)) : ¬ Matched b w [q] (finalState (q.handle.run w)) := by
  obtain ⟨w₁, hbefore, hw₁⟩ := before_undisturbed h.consistent q.before
  obtain ⟨hfinal, -⟩ := work_reaching q hreaches w₁
  rw [run_handle q hbefore, hfinal]
  intro hmatched
  cases hget : w.manager.performanceDict.get? b with
  | some performance =>
    rcases measured_known (h.undisturbed hw₁) (hw₁.performance.trans hget) q q.type q.opName with
      ⟨w₂, -, hreturns, -, -⟩ | ⟨e, w₂, hrun, -, hpending⟩
    · exact hq ⟨hreturns, performance, hget⟩
    · rw [hrun] at hmatched
      exact hpending hmatched.pending
  | none =>
    have hnone : w.manager.records b = [] := by
      rw [records, held, hget]
      rfl
    have hunknown : Unknown b w := {
      idle := { consistent := h.consistent, records := hnone, pending := h.pending, quiet := h.quiet }
      unknown := hget }
    have hafter := (measured_unknown (hunknown.undisturbed hw₁) q q.type q.opName).idle.records
    have hrecords := hmatched.records
    rw [hafter, hnone, show (List.filter _ [q]).map MeasuredMessage.expected = _ from added_reaching hreaches] at hrecords
    cases hrecords

theorem listen_continues {q : MeasuredMessage b} (h : returned (q.handle.run w) = some true) (qs : List (MeasuredMessage b)) :
    finalState ((listen (q :: qs)).run w) = finalState ((listen qs).run (finalState (q.handle.run w))) := by
  change finalState (EStateM.run (q.handle >>= fun goesOn => if goesOn then listen qs else pure ()) w) = _
  rw [EStateM.run_bind]
  cases hrun : q.handle.run w with
  | error e w' =>
    rw [hrun] at h
    cases h
  | ok goesOn w' =>
    rw [hrun] at h
    cases h
    rfl

theorem listen_leaves {q : MeasuredMessage b} (h : returned (q.handle.run w) ≠ some true) (qs : List (MeasuredMessage b)) :
    finalState ((listen (q :: qs)).run w) = finalState (q.handle.run w) := by
  change finalState (EStateM.run (q.handle >>= fun goesOn => if goesOn then listen qs else pure ()) w) = _
  rw [EStateM.run_bind]
  cases hrun : q.handle.run w with
  | error e w' => rfl
  | ok goesOn w' =>
    rw [hrun] at h
    cases goesOn with
    | true => exact absurd rfl h
    | false => rfl

theorem listen_one (q : MeasuredMessage b) (w : MeasuredWorkers) :
    finalState ((listen [q]).run w) = finalState (q.handle.run w) := by
  by_cases h : returned (q.handle.run w) = some true
  · rw [listen_continues h]
    rfl
  · exact listen_leaves h []

theorem processed_one (q : MeasuredMessage b) : processed [q] = [q] := by
  rw [processed, processed, ite_self]

theorem mem_processed_append {queue : List (MeasuredMessage b)} (rest : List (MeasuredMessage b)) (h : q ∈ processed queue) :
    q ∈ processed (queue ++ rest) := by
  induction queue with
  | nil => cases h
  | cons first queue ih =>
    rw [List.cons_append, processed]
    rcases List.mem_cons.1 h with rfl | h
    · exact List.mem_cons_self
    · apply List.mem_cons_of_mem
      split at h
      · rename_i hcontinues
        rw [if_pos hcontinues]
        exact ih h
      · cases h

theorem queue_matched (h : Idle b earlier w) (queue : List (MeasuredMessage b))
    (hq : ∀ q ∈ processed queue, q.Reaches → q.Returns ∧ w.Knows b) :
    Idle b (earlier ++ added (processed queue)) (finalState ((listen queue).run w)) := by
  induction queue generalizing earlier w with
  | nil =>
    change Idle b (earlier ++ []) w
    rw [List.append_nil]
    exact h
  | cons q qs ih =>
    obtain ⟨hidle, hknows, hcontinues⟩ := message_matched h q (hq q List.mem_cons_self)
    rw [processed, added_cons, ← List.append_assoc]
    by_cases hgoes : q.Continues
    · rw [if_pos hgoes, listen_continues (hcontinues.2 hgoes)]
      apply ih hidle
      intro q' hq' hreaches
      rw [hknows]
      apply hq q' _ hreaches
      rw [processed, if_pos hgoes]
      exact List.mem_cons_of_mem _ hq'
    · rw [if_neg hgoes, listen_leaves (fun h => hgoes (hcontinues.1 h))]
      change Idle b ((earlier ++ added [q]) ++ []) _
      rw [List.append_nil]
      exact hidle

theorem alwaysMatched_iff (h : Idle b earlier w) (queue : List (MeasuredMessage b)) :
    AlwaysMatched b w queue ↔ ∀ q ∈ processed queue, q.Reaches → q.Returns ∧ w.Knows b := by
  constructor
  · intro hmatched
    induction queue generalizing earlier w with
    | nil =>
      intro q hq
      cases hq
    | cons q qs ih =>
      have hfirst : q.Reaches → q.Returns ∧ w.Knows b := by
        intro hreaches
        apply Classical.byContradiction
        intro hnot
        have hone := hmatched [q] qs rfl
        rw [processed_one, listen_one] at hone
        exact message_unmatched h q hreaches hnot hone
      obtain ⟨hidle, hknows, hcontinues⟩ := message_matched h q hfirst
      intro q' hq' hreaches
      rcases List.mem_cons.1 hq' with rfl | hq'
      · exact hfirst hreaches
      · split at hq'
        · rename_i hgoes
          rw [← hknows]
          apply ih hidle _ q' hq' hreaches
          intro done rest hqs
          have hlater := hmatched (q :: done) rest (by rw [hqs]; rfl)
          rw [processed, if_pos hgoes, listen_continues (hcontinues.2 hgoes)] at hlater
          exact {
            pending := hlater.pending
            records := by
              rw [hlater.records, hidle.records, h.records, List.append_assoc]
              exact congrArg (earlier ++ ·) (added_cons q (processed done))
            quiet := hlater.quiet }
        · cases hq'
  · intro hq done rest hqueue
    have hidle := queue_matched h done (fun q hmem => hq q (hqueue ▸ mem_processed_append rest hmem))
    exact {
      pending := hidle.pending
      records := by
        rw [hidle.records, h.records]
        rfl
      quiet := fun e => hidle.quiet }

end

/-! ### From the start of NFVCL -/

/-- What happens before the worker takes its first message. -/
inductive Beginning (b : BlueId) where
  | created (type : String)
  | elsewhere (move : ForeignMove b)

def Beginning.run : Beginning b → MeasuredM Unit
  | .created type => onManager (addBlueprint b type)
  | .elsewhere move => move.move.elsewhere

/-- The state of the workers when the worker of blueprint `b` takes its first message. -/
def ready (stored : List StoredPerformance) (beginnings : List (Beginning b)) : MeasuredWorkers :=
  runAll Beginning.run { manager := loadFromDb stored } beginnings

/-- The blueprint has performances in the database, or was created since NFVCL was started. -/
def Registered (b : BlueId) (stored : List StoredPerformance) (beginnings : List (Beginning b)) : Prop :=
  (∃ performance ∈ stored, performance.blueprintId = b) ∨ ∃ type, .created type ∈ beginnings

theorem loadOperations_keep (m : PerformanceManager) (operations : List StoredOperation) :
    (operations.foldl loadOperation m).objects.length = m.objects.length + operations.length ∧
      (operations.foldl loadOperation m).pendingOperations = m.pendingOperations := by
  induction operations generalizing m with
  | nil => exact ⟨rfl, rfl⟩
  | cons operation operations ih =>
    obtain ⟨hlength, hpending⟩ := ih (loadOperation m operation)
    refine ⟨hlength.trans ?_, hpending⟩
    change (m.objects ++ [_]).length + _ = _
    rw [List.length_append, List.length_cons, List.length_nil, List.length_cons]
    omega

theorem held_loadPerformance (m : PerformanceManager) (stored : StoredPerformance) (b : BlueId) :
    (loadPerformance m stored).held b =
      if b = stored.blueprintId then List.range' m.objects.length stored.operations.length else m.held b := by
  have hget : (loadPerformance m stored).performanceDict.get? b = _ := Dict.get?_set _ _ _ _
  split
  · rename_i hb
    rw [if_pos hb] at hget
    exact held_of_get? hget
  · rename_i hb
    rw [if_neg hb] at hget
    exact held_eq hget

theorem loadPerformance_consistent {m : PerformanceManager} (hm : m.Consistent) (hpending : m.pendingOperations = .empty)
    (stored : StoredPerformance) :
    (loadPerformance m stored).Consistent ∧ (loadPerformance m stored).pendingOperations = .empty := by
  obtain ⟨hlength, hkept⟩ := loadOperations_keep m stored.operations
  have hobjects : (loadPerformance m stored).objects.length = m.objects.length + stored.operations.length := hlength
  have hempty : (loadPerformance m stored).pendingOperations = .empty := hkept.trans hpending
  have hheld := held_loadPerformance m stored
  refine ⟨?_, hempty⟩
  exact {
    named := by
      intro b performance hp
      rw [show (loadPerformance m stored).performanceDict.get? b = _ from Dict.get?_set _ _ _ _] at hp
      split at hp
      · rename_i hb
        cases hp
        exact hb.symm
      · exact hm.named hp
    held := by
      intro op b hop
      rw [hheld] at hop
      unfold Owns
      rw [hobjects]
      split at hop
      · rename_i hb
        have hrange := List.mem_range'_1.1 hop
        refine ⟨hrange.2, fun b' hb' => ?_⟩
        rw [hheld] at hb'
        split at hb'
        · rename_i hsame
          exact hsame.trans hb.symm
        · exact absurd (hm.held hb').1 (Nat.not_lt.2 hrange.1)
      · have howns := hm.held hop
        refine ⟨Nat.lt_of_lt_of_le howns.1 (Nat.le_add_right _ _), fun b' hb' => ?_⟩
        rw [hheld] at hb'
        split at hb'
        · exact absurd howns.1 (Nat.not_lt.2 (List.mem_range'_1.1 hb').1)
        · exact howns.2 b' hb'
    pending := by
      intro op b hop
      rw [hempty] at hop
      cases hop }

theorem loadFromDb_consistent (stored : List StoredPerformance) :
    (loadFromDb stored).Consistent ∧ (loadFromDb stored).pendingOperations = .empty := by
  have hfold : ∀ (m : PerformanceManager), m.Consistent → m.pendingOperations = .empty →
      (stored.foldl loadPerformance m).Consistent ∧ (stored.foldl loadPerformance m).pendingOperations = .empty := by
    induction stored with
    | nil => exact fun m hm hpending => ⟨hm, hpending⟩
    | cons performance stored ih =>
      intro m hm hpending
      obtain ⟨hm', hpending'⟩ := loadPerformance_consistent hm hpending performance
      exact ih _ hm' hpending'
  apply hfold
  · exact {
      named := fun h => (nomatch h)
      held := fun h => (nomatch h)
      pending := fun h => (nomatch h) }
  · rfl

theorem loadFromDb_knows (stored : List StoredPerformance) (b : BlueId) :
    (∃ performance, (loadFromDb stored).performanceDict.get? b = some performance) ↔
      ∃ performance ∈ stored, performance.blueprintId = b := by
  have hfold : ∀ (m : PerformanceManager), (∃ performance, (stored.foldl loadPerformance m).performanceDict.get? b =
      some performance) ↔ (∃ performance ∈ stored, performance.blueprintId = b) ∨
        ∃ performance, m.performanceDict.get? b = some performance := by
    induction stored with
    | nil => exact fun m => ⟨.inr, fun h => h.resolve_left (fun ⟨_, hmem, _⟩ => (nomatch hmem))⟩
    | cons first stored ih =>
      intro m
      have hget : (loadPerformance m first).performanceDict.get? b = _ := Dict.get?_set _ _ _ _
      rw [List.foldl_cons, ih, hget, List.exists_mem_cons_iff]
      by_cases hb : b = first.blueprintId
      · rw [if_pos hb]
        exact iff_of_true (.inr ⟨_, rfl⟩) (.inl (.inl hb.symm))
      · rw [if_neg hb]
        exact or_congr_left (by rw [or_iff_right (fun h => hb h.symm)])
  refine (hfold {}).trans (or_iff_left ?_)
  rintro ⟨performance, h⟩
  cases h

theorem created_idle {w : MeasuredWorkers} (h : Idle b earlier w) (type : String) :
    Idle b [] (finalState ((Beginning.created (b := b) type).run.run w)) ∧
      (finalState ((Beginning.created (b := b) type).run.run w)).Knows b := by
  have haside := addBlueprint_aside h.consistent.manager b type
  have hget : (finalState ((addBlueprint b type).run w.manager)).performanceDict.get? b = _ := Dict.get?_set _ _ _ _
  rw [if_pos rfl] at hget
  rw [Beginning.run, finalState_onManager]
  refine ⟨?_, _, hget⟩
  exact {
    consistent := { manager := haside.consistent, assigned := fun hop => haside.owns (h.consistent.assigned hop) }
    records := by
      rw [records, held_of_get? hget]
      rfl
    pending := h.pending
    quiet := h.quiet }

theorem beginnings_idle {w : MeasuredWorkers} (h : Idle b earlier w) (beginnings : List (Beginning b)) :
    (∃ records, Idle b records (runAll Beginning.run w beginnings)) ∧
      ((runAll Beginning.run w beginnings).Knows b ↔ w.Knows b ∨ ∃ type, .created type ∈ beginnings) := by
  induction beginnings generalizing w earlier with
  | nil => exact ⟨⟨earlier, h⟩, ⟨.inl, fun h => h.resolve_right (fun ⟨_, hmem⟩ => (nomatch hmem))⟩⟩
  | cons beginning beginnings ih =>
    rw [runAll_cons]
    cases beginning with
    | created type =>
      obtain ⟨hidle, hknows⟩ := created_idle h type
      obtain ⟨hlast, hiff⟩ := ih hidle
      exact ⟨hlast, iff_of_true (hiff.2 (.inl hknows)) (.inr ⟨type, List.mem_cons_self⟩)⟩
    | elsewhere move =>
      obtain ⟨w', hrun, hw'⟩ := elsewhere_undisturbed h.consistent move
      have hfinal : finalState ((Beginning.elsewhere move).run.run w) = w' := by
        rw [Beginning.run, hrun]
        rfl
      rw [hfinal]
      obtain ⟨hlast, hiff⟩ := ih (h.undisturbed hw')
      refine ⟨hlast, hiff.trans (or_congr (knows_congr hw'.performance) (exists_congr (fun type => ?_)))⟩
      exact ⟨List.mem_cons_of_mem _, fun hmem => (List.mem_cons.1 hmem).resolve_left (fun heq => (nomatch heq))⟩

theorem ready_idle (stored : List StoredPerformance) (beginnings : List (Beginning b)) :
    (∃ records, Idle b records (ready stored beginnings)) ∧
      ((ready stored beginnings).Knows b ↔ Registered b stored beginnings) := by
  obtain ⟨hconsistent, hpending⟩ := loadFromDb_consistent stored
  have hidle : Idle b ((loadFromDb stored).records b) { manager := loadFromDb stored } := {
    consistent := { manager := hconsistent, assigned := fun h => (nomatch h) }
    records := rfl
    pending := by
      rw [hpending]
      rfl
    quiet := fun h => (nomatch h) }
  obtain ⟨hlast, hiff⟩ := beginnings_idle hidle beginnings
  exact ⟨hlast, hiff.trans (or_congr_left (loadFromDb_knows stored b))⟩

/-- A creation that fails. -/
def failedCreation : MeasuredMessage 0 where
  message := { messageType := .day0, path := "vyos" }
  results := { operation := .error (.external "no route to host") }

end MeasuredWorkers

end Nfvcl
