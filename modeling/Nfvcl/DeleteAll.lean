import Mathlib.Data.List.Basic
import Nfvcl.LcmClaims

namespace Nfvcl
set_option autoImplicit true

namespace Lcm

/-- `n` statements of a thread, with nothing in between. -/
def runThread (s : Lcm) (t : Nat) : Nat → Lcm
  | 0 => s
  | n + 1 => (s.step (.thread t)).runThread t n

/-- One iteration of `delete_all_blueprints`: `delete_blueprint` has seven statements at most. -/
def deleteBlueprint (s : Lcm) (id : BlueId) : Lcm :=
  (s.step (.request (.delete id false))).runThread s.threads.length 7

/-- How the call of the iteration ended. -/
def deleteOutcome (s : Lcm) (id : BlueId) : Option Pc :=
  (s.deleteBlueprint id).threads[s.threads.length]?.map Thread.pc

/-- The loop of `delete_all_blueprints`; `progress` is what the workers do after each iteration.
Only `BlueprintProtectedException` is caught. -/
def deleteLoop (progress : Nat → List LcmStep) (n : Nat) (s : Lcm) : List BlueId → Lcm × Option LcmError
  | [] => (s, none)
  | id :: ids =>
    match s.deleteOutcome id with
    | some (.raised .blueprintProtected) | some .done =>
      deleteLoop progress (n + 1) ((progress n).foldl step (s.deleteBlueprint id)) ids
    | some (.raised e) => (s.deleteBlueprint id, some e)
    | _ => (s.deleteBlueprint id, some .keyError)

def deleteAllBlueprints (s : Lcm) (progress : Nat → List LcmStep) : Lcm × Option LcmError :=
  s.deleteLoop progress 0 (s.docs.map Prod.fst)

/-- The flag `delete_blueprint` tests. -/
def flagOf (s : Lcm) (id : BlueId) : Bool :=
  match s.workerCollection id with
  | some w => (s.workers[w]?.map (fun x => x.blueprint.isProtected)).getD false
  | none => ((s.docs.get id).map Blueprint.isProtected).getD false

/-- A STOP is the last message of a worker of the blueprint. -/
def StopQueued (s : Lcm) (id : BlueId) : Prop :=
  ∃ x ∈ s.workers, x.id = id ∧ ∃ queue m, x.queue = queue ++ [m] ∧ m.messageType = .stop

/-- Every iteration puts a STOP, unless the blueprint is protected or was destroyed before. -/
def AllQueued (progress : Nat → List LcmStep) (n : Nat) (s : Lcm) : List BlueId → Prop
  | [] => True
  | id :: ids =>
    (id ∉ s.destroyed → s.flagOf id = false → (s.deleteBlueprint id).StopQueued id) ∧
      AllQueued progress (n + 1) ((progress n).foldl step (s.deleteBlueprint id)) ids

/-- `get_worker` finds the blueprint. -/
def Present (s : Lcm) (id : BlueId) : Prop :=
  s.workerCollection id ≠ none ∨ s.docs.get id ≠ none

/-- Every blueprint of the listing is still there when its iteration comes. -/
def AllPresent (progress : Nat → List LcmStep) (n : Nat) (s : Lcm) : List BlueId → Prop
  | [] => True
  | id :: ids => s.Present id ∧ AllPresent progress (n + 1) ((progress n).foldl step (s.deleteBlueprint id)) ids

section Iteration

variable {s : Lcm} {id : BlueId}

/-- After `n` statements the call stands at `pc`, and this has become of the workers. -/
structure Ends (s : Lcm) (t n : Nat) (pc : Pc) (left : List LcmWorker) : Prop where
  outcome : (s.runThread t n).threads[t]?.map Thread.pc = some pc
  workers : (s.runThread t n).workers = left

theorem Ends.step (ht : s.threads[t]? = some th) (hact : th.act t s = some (next, effect))
    (h : Ends ((s.applyThread th.request.id effect).setThread t { th with pc := next }) t n pc left) :
    Ends s t (n + 1) pc left := by
  have hstep : s.runThread t (n + 1) =
      ((s.applyThread th.request.id effect).setThread t { th with pc := next }).runThread t n := by
    change (s.step (.thread t)).runThread t n = _
    unfold Lcm.step
    simp only [ht, hact]
  exact ⟨hstep ▸ h.outcome, hstep ▸ h.workers⟩

theorem Ends.stuck (ht : s.threads[t]? = some th) (hact : th.act t s = none) (n : Nat) : Ends s t n th.pc s.workers := by
  have hstay : s.runThread t n = s := by
    induction n with
    | zero => rfl
    | succ n ih =>
      change (s.step (.thread t)).runThread t n = s
      unfold Lcm.step
      simp only [ht, hact]
      exact ih
  exact ⟨by rw [hstay, ht]; rfl, by rw [hstay]⟩

theorem setThread_get (ht : s.threads[t]? = some th) (id : BlueId) (effect : ThreadEffect) (th' : Thread) :
    ((s.applyThread id effect).setThread t th').threads[t]? = some th' := by
  change ((s.applyThread id effect).threads.set t th')[t]? = some th'
  rw [applyThread_threads]
  exact List.getElem?_set_self (List.getElem?_eq_some_iff.1 ht).1

theorem ends_pop (ht : s.threads[t]? = some ⟨.delete id false, none, .pop, false⟩) (hentry : s.workerCollection id = some w)
    (n : Nat) : Ends s t (n + 1) .done s.workers := by
  have hact : Thread.act ⟨.delete id false, none, .pop, false⟩ t s = some (.done, .setEntry none) := by
    simp [Thread.act, Request.id, hentry]
  exact .step ht hact (.stuck (setThread_get ht _ _ _) rfl n)

theorem ends_putStop (ht : s.threads[t]? = some ⟨.delete id false, none, .putStop w, false⟩) (hx : s.workers[w]? = some x)
    (hentry : s.workerCollection id = some w) (n : Nat) :
    Ends s t (n + 2) .done (s.workers.set w { x with queue := x.queue ++ [⟨.stop, none⟩] }) := by
  have hput : (s.applyThread id (.put w ⟨.stop, none⟩)).workers =
      s.workers.set w { x with queue := x.queue ++ [⟨.stop, none⟩] } := by
    unfold applyThread onWorker
    simp only [hx]
    rfl
  have hentry' : (s.applyThread id (.put w ⟨.stop, none⟩)).workerCollection id = some w := by
    rw [applyThread_entry (by nofun)]
    exact hentry
  have hpop := ends_pop (setThread_get ht _ _ _) hentry' n
  rw [← hput]
  exact .step ht rfl hpop

/-- From the first use of the worker on. -/
theorem ends_use (ht : s.threads[t]? = some ⟨.delete id false, none, .use w, false⟩) (hx : s.workers[w]? = some x)
    (hentry : s.workerCollection id = some w) (n : Nat) :
    (x.blueprint.isProtected = true → Ends s t (n + 3) (.raised .blueprintProtected) s.workers) ∧
      (x.blueprint.isProtected = false →
        Ends s t (n + 3) .done (s.workers.set w { x with queue := x.queue ++ [⟨.stop, none⟩] })) := by
  constructor
  · intro hflag
    have hact : Thread.act ⟨.delete id false, none, .use w, false⟩ t s = some (.raised .blueprintProtected, .quiet) := by
      simp [Thread.act, Thread.useWorker, hx, hflag]
    exact .step ht hact (.stuck (setThread_get ht _ _ _) rfl (n + 2))
  · intro hflag
    have hact : Thread.act ⟨.delete id false, none, .use w, false⟩ t s = some (.putStop w, .quiet) := by
      simp [Thread.act, Thread.useWorker, hx, hflag]
    apply Ends.step ht hact
    exact ends_putStop (setThread_get ht id .quiet _) hx hentry n

theorem ends_insert (ht : s.threads[t]? = some ⟨.delete id false, none, .insert w, false⟩) (hx : s.workers[w]? = some x)
    (n : Nat) :
    (x.blueprint.isProtected = true → Ends s t (n + 4) (.raised .blueprintProtected) s.workers) ∧
      (x.blueprint.isProtected = false →
        Ends s t (n + 4) .done (s.workers.set w { x with queue := x.queue ++ [⟨.stop, none⟩] })) := by
  have hentry : (s.applyThread id (.setEntry (some w))).workerCollection id = some w := Function.update_self _ _ _
  obtain ⟨hraise, hdone⟩ := ends_use (s := (s.applyThread id (.setEntry (some w))).setThread t _)
    (setThread_get ht id _ ⟨.delete id false, none, .use w, false⟩) hx hentry n
  exact ⟨fun hflag => .step ht rfl (hraise hflag), fun hflag => .step ht rfl (hdone hflag)⟩

/-- A call that finds no entry. -/
theorem ends_load (ht : s.threads[t]? = some ⟨.delete id false, none, .load, false⟩) (n : Nat) :
    (s.docs.get id = none → Ends s t (n + 6) (.raised .blueprintNotFound) s.workers) ∧
      ∀ b, s.docs.get id = some b →
        (b.isProtected = true → ∃ left, Ends s t (n + 6) (.raised .blueprintProtected) left) ∧
        (b.isProtected = false → Ends s t (n + 6) .done (s.workers ++ [{ id := id, blueprint := b, queue := [⟨.stop, none⟩] }])) := by
  constructor
  · intro hdoc
    have hact : Thread.act ⟨.delete id false, none, .load, false⟩ t s = some (.raised .blueprintNotFound, .quiet) := by
      simp [Thread.act, Request.id, hdoc]
    exact .step ht hact (.stuck (setThread_get ht _ _ _) rfl (n + 5))
  · intro b hdoc
    have hact : Thread.act ⟨.delete id false, none, .load, false⟩ t s = some (.start b, .quiet) := by
      simp [Thread.act, Request.id, hdoc]
    have ht' := setThread_get ht id .quiet ⟨.delete id false, none, .start b, false⟩
    obtain ⟨hraise, hdone⟩ := ends_insert (x := { id := id, blueprint := b })
      (setThread_get ht' id (.addWorker b) ⟨.delete id false, none, .insert s.workers.length, false⟩)
      List.getElem?_concat_length n
    constructor
    · intro hflag
      exact ⟨_, .step ht hact (.step ht' rfl (hraise hflag))⟩
    · intro hflag
      have hlast : (s.workers ++ [({ id := id, blueprint := b } : LcmWorker)]).set s.workers.length
          { id := id, blueprint := b, queue := [⟨.stop, none⟩] } =
          s.workers ++ [{ id := id, blueprint := b, queue := [⟨.stop, none⟩] }] := by
        rw [List.set_append_right _ _ (Nat.le_refl _), Nat.sub_self]
        rfl
      rw [← hlast]
      exact .step ht hact (.step ht' rfl (hdone hflag))

theorem ends_hit (ht : s.threads[t]? = some ⟨.delete id false, none, .test, false⟩) (hx : s.workers[w]? = some x)
    (hentry : s.workerCollection id = some w) (n : Nat) :
    (x.blueprint.isProtected = true → Ends s t (n + 5) (.raised .blueprintProtected) s.workers) ∧
      (x.blueprint.isProtected = false →
        Ends s t (n + 5) .done (s.workers.set w { x with queue := x.queue ++ [⟨.stop, none⟩] })) := by
  have htest : Thread.act ⟨.delete id false, none, .test, false⟩ t s = some (.fetch, .quiet) := by
    simp [Thread.act, Request.id, hentry]
  have ht' := setThread_get ht id .quiet ⟨.delete id false, none, .fetch, false⟩
  have hfetch : Thread.act ⟨.delete id false, none, .fetch, false⟩ t
      ((s.applyThread id .quiet).setThread t ⟨.delete id false, none, .fetch, false⟩) = some (.use w, .quiet) := by
    simp [Thread.act, Request.id, applyThread, setThread, hentry]
  obtain ⟨hraise, hdone⟩ := ends_use (setThread_get ht' id .quiet ⟨.delete id false, none, .use w, false⟩) hx hentry n
  exact ⟨fun hflag => .step ht htest (.step ht' hfetch (hraise hflag)),
    fun hflag => .step ht htest (.step ht' hfetch (hdone hflag))⟩

theorem ends_miss (ht : s.threads[t]? = some ⟨.delete id false, none, .test, false⟩) (hentry : s.workerCollection id = none)
    (h : Ends ((s.applyThread id .quiet).setThread t ⟨.delete id false, none, .load, false⟩) t n pc left) :
    Ends s t (n + 1) pc left := by
  have htest : Thread.act ⟨.delete id false, none, .test, false⟩ t s = some (.load, .quiet) := by
    simp [Thread.act, Request.id, hentry]
  exact .step ht htest h

/-- The whole call, from an entry of the table or from the document. -/
theorem deleteBlueprint_ends (hl : s.Linked) (id : BlueId) :
    (¬ s.Present id → s.deleteOutcome id = some (.raised .blueprintNotFound)) ∧
      (s.Present id → s.flagOf id = true → s.deleteOutcome id = some (.raised .blueprintProtected)) ∧
      (s.Present id → s.flagOf id = false → s.deleteOutcome id = some .done ∧ (s.deleteBlueprint id).StopQueued id) := by
  have ht : (s.spawn (.delete id false) none).threads[s.threads.length]? = some ⟨.delete id false, none, .test, false⟩ :=
    List.getElem?_concat_length
  cases hentry : s.workerCollection id with
  | some w =>
    obtain ⟨x, hx, hid⟩ := hl.entries id w hentry
    have hflag : s.flagOf id = x.blueprint.isProtected := by simp [flagOf, hentry, hx]
    have hpresent : s.Present id := .inl (by rw [hentry]; nofun)
    obtain ⟨hraise, hdone⟩ := ends_hit ht hx hentry 2
    rw [hflag]
    refine ⟨fun habsent => absurd hpresent habsent, fun _ hset => (hraise hset).outcome, fun _ hclear => ?_⟩
    refine ⟨(hdone hclear).outcome, { x with queue := x.queue ++ [⟨.stop, none⟩] }, ?_, hid, x.queue, _, rfl, rfl⟩
    have hworkers : (s.deleteBlueprint id).workers = _ := (hdone hclear).workers
    rw [hworkers]
    exact List.mem_of_getElem? (List.getElem?_set_self (List.getElem?_eq_some_iff.1 hx).1)
  | none =>
    have ht' := setThread_get ht id .quiet ⟨.delete id false, none, .load, false⟩
    obtain ⟨habsent, hload⟩ := ends_load ht' 0
    cases hdoc : s.docs.get id with
    | none =>
      have hnone : ¬ s.Present id := by simp [Present, hentry, hdoc]
      refine ⟨fun _ => (ends_miss ht hentry (habsent hdoc)).outcome, fun h => absurd h hnone, fun h => absurd h hnone⟩
    | some b =>
      have hflag : s.flagOf id = b.isProtected := by simp [flagOf, hentry, hdoc]
      have hpresent : s.Present id := .inr (by rw [hdoc]; nofun)
      obtain ⟨hraise, hdone⟩ := hload b hdoc
      rw [hflag]
      refine ⟨fun h => absurd hpresent h, fun _ hset => ?_, fun _ hclear => ?_⟩
      · obtain ⟨left, hleft⟩ := hraise hset
        exact (ends_miss ht hentry hleft).outcome
      · have hends := ends_miss ht hentry (hdone hclear)
        refine ⟨hends.outcome, { id := id, blueprint := b, queue := [⟨.stop, none⟩] }, ?_, rfl, [], _, rfl, rfl⟩
        have hworkers : (s.deleteBlueprint id).workers = _ := hends.workers
        rw [hworkers]
        exact List.mem_append_right _ (List.mem_singleton_self _)

theorem Linked.foldl (hl : s.Linked) (steps : List LcmStep) : (steps.foldl Lcm.step s).Linked := by
  induction steps generalizing s with
  | nil => exact hl
  | cons e steps ih => exact ih (hl.step e)

theorem Linked.runThread (hl : s.Linked) (t n : Nat) : (s.runThread t n).Linked := by
  induction n generalizing s with
  | zero => exact hl
  | succ n ih => exact ih (hl.step (.thread t))

theorem deleteLoop_iff (hl : s.Linked) (progress : Nat → List LcmStep) (n : Nat) (ids : List BlueId) :
    ((s.deleteLoop progress n ids).2 = none ∧ s.AllQueued progress n ids) ↔ s.AllPresent progress n ids := by
  induction ids generalizing s n with
  | nil => simp [deleteLoop, AllQueued, AllPresent]
  | cons id ids ih =>
    obtain ⟨habsent, hprotected, hdone⟩ := deleteBlueprint_ends hl id
    have hrest := ih ((((hl.step (.request (.delete id false))).runThread s.threads.length 7)).foldl (progress n)) (n + 1)
    by_cases hpresent : s.Present id
    · cases hflag : s.flagOf id with
      | true =>
        have hloop : s.deleteLoop progress n (id :: ids) =
            deleteLoop progress (n + 1) ((progress n).foldl step (s.deleteBlueprint id)) ids := by
          simp only [deleteLoop, hprotected hpresent hflag]
        rw [hloop]
        simp only [AllQueued, AllPresent, hpresent, hflag, true_and, Bool.true_eq_false, false_implies, implies_true]
        exact hrest
      | false =>
        obtain ⟨houtcome, hqueued⟩ := hdone hpresent hflag
        have hloop : s.deleteLoop progress n (id :: ids) =
            deleteLoop progress (n + 1) ((progress n).foldl step (s.deleteBlueprint id)) ids := by
          simp only [deleteLoop, houtcome]
        rw [hloop]
        simp only [AllQueued, AllPresent, hpresent, hqueued, true_and, implies_true]
        exact hrest
    · have hloop : (s.deleteLoop progress n (id :: ids)).2 = some .blueprintNotFound := by
        simp only [deleteLoop, habsent hpresent]
      rw [hloop]
      simp only [AllPresent, hpresent, false_and, iff_false]
      exact fun h => nomatch h.1

end Iteration

end Lcm

end Nfvcl
