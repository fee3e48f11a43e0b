import Mathlib.Data.List.Basic
import Nfvcl.Runs
import Nfvcl.WorkerOwnership

namespace Nfvcl
set_option autoImplicit true
open Runs

namespace Lcm

/-- `destroy` is not running on a protected blueprint, nor on one that lists it as a child. -/
structure Respected (s : Lcm) : Prop where
  own : ∀ x ∈ s.workers, x.id ∈ s.guarded → x.phase.destroying = false
  parents : ∀ x ∈ s.workers, x.phase.destroying = true → ∀ child ∈ x.blueprint.childrenBlueIds, child ∉ s.guarded

/-- Neither the document nor a running worker of the blueprint has the flag. -/
def Unprotected (s : Lcm) (id : BlueId) : Prop :=
  (∀ b ∈ s.docs.get id, b.isProtected = false) ∧
    ∀ y ∈ s.workers, y.id = id → y.phase ≠ .ended → y.blueprint.isProtected = false

/-- No deletion of the worker's blueprint is on its way, nor of a blueprint that lists it. -/
def Undeleted (s : Lcm) (w : Nat) (x : LcmWorker) : Prop :=
  x.Accepts ∧ (∀ th ∈ s.threads, th.pc ≠ .putStop w) ∧
    ∀ y ∈ s.workers, y.phase.destroying = true → x.id ∉ y.blueprint.childrenBlueIds

instance (s : Lcm) (id : BlueId) : Decidable (s.Unprotected id) :=
  inferInstanceAs (Decidable (_ ∧ _))

instance (s : Lcm) (w : Nat) (x : LcmWorker) : Decidable (s.Undeleted w x) :=
  inferInstanceAs (Decidable (_ ∧ _))

end Lcm

/-- `protect_blueprint` runs on a worker whose loop runs: to set the flag when no deletion is on its
way, to clear it when no call that sets it is about to save. -/
def Thread.Settled (th : Thread) (s : Lcm) : Prop :=
  match th.pc, th.request with
  | .use w, .protect _ true => ∀ x ∈ s.workers[w]?, s.Undeleted w x
  | .use w, .protect _ false => ∀ th' ∈ s.threads, th'.pc = .saveFlag w → th'.request ≠ .protect th'.request.id true
  | .saveFlag w, _ => ∀ x ∈ s.workers[w]?, x.phase ≠ .ended
  | _, _ => True

instance (th : Thread) (s : Lcm) : Decidable (th.Settled s) := by
  unfold Thread.Settled
  split <;> exact inferInstance

namespace Lcm

/-- The calls that start workers are alone, those that protect are settled, and `destroy` is started
on blueprints without protected children. -/
def Calm (e : LcmStep) (s : Lcm) : Prop :=
  match e with
  | .request _ => True
  | .thread t => ∀ th ∈ s.threads[t]?, th.Alone s ∧ th.Settled s
  | .work w action =>
    ∀ x ∈ s.workers[w]?, x.phase.destroying = false → ∀ y ∈ x.act s.threads action, y.1.phase.destroying = true →
      ∀ child ∈ x.blueprint.childrenBlueIds, s.Unprotected child

instance (e : LcmStep) (s : Lcm) : Decidable (Calm e s) :=
  match e with
  | .request _ => isTrue trivial
  | .thread t => inferInstanceAs (Decidable (∀ th ∈ s.threads[t]?, th.Alone s ∧ th.Settled s))
  | .work w action =>
    inferInstanceAs (Decidable (∀ x ∈ s.workers[w]?, x.phase.destroying = false → ∀ y ∈ x.act s.threads action,
      y.1.phase.destroying = true → ∀ child ∈ x.blueprint.childrenBlueIds, s.Unprotected child))

/-- A worker whose blueprint is protected for good. -/
structure Safe (s : Lcm) (w : Nat) (x : LcmWorker) : Prop where
  flag : x.blueprint.isProtected = true
  queue : ∀ m ∈ x.queue, m.messageType ≠ .stop
  idle : x.phase.destroying = false
  stops : ∀ th ∈ s.threads, th.pc ≠ .putStop w
  parents : ∀ y ∈ s.workers, y.phase.destroying = true → x.id ∉ y.blueprint.childrenBlueIds

/-- A blueprint that is protected for good. -/
structure Shielded (s : Lcm) (id : BlueId) : Prop where
  doc : ∃ b, s.docs.get id = some b ∧ b.isProtected = true
  workers : ∀ (w : Nat) (x : LcmWorker), s.workers[w]? = some x → x.id = id → x.phase ≠ .ended → s.Safe w x
  fresh : ∀ th ∈ s.threads, th.request.id = id → th.pc ≠ .saveNew
  loaded : ∀ th ∈ s.threads, th.request.id = id → ∀ b, th.pc = .start b → b.isProtected = true
  parents : ∀ y ∈ s.workers, y.phase.destroying = true → id ∉ y.blueprint.childrenBlueIds

structure ShieldInv (s : Lcm) : Prop where
  claims : ∀ id, s.claims id ≤ 1
  linked : s.Linked
  guarded : ∀ id ∈ s.guarded, s.Shielded id
  /-- `protect_blueprint(True)` has set the flag and is about to save. -/
  saving : ∀ th ∈ s.threads, ∀ w, th.pc = .saveFlag w → th.request = .protect th.request.id true →
    ∀ x, s.workers[w]? = some x → x.phase ≠ .ended → s.Safe w x

theorem ShieldInv.respected {s : Lcm} (h : s.ShieldInv) : s.Respected := by
  constructor
  · intro x hx hid
    by_cases hended : x.phase = .ended
    · rw [hended]
      rfl
    · obtain ⟨w, hw⟩ := List.mem_iff_getElem?.1 hx
      exact ((h.guarded x.id hid).workers w x hw rfl hended).idle
  · intro x hx hdestroying child hchild hguarded
    exact (h.guarded child hguarded).parents x hx hdestroying hchild

end Lcm

namespace LcmWorker.Moves

variable {x : LcmWorker}

/-- `destroy` is started by a STOP, on the children there are then. -/
theorem destroying_cases (h : x.Moves threads x' effect) (hx' : x'.phase.destroying = true) :
    (x.phase.destroying = true ∧ ∀ child ∈ x'.blueprint.childrenBlueIds, child ∈ x.blueprint.childrenBlueIds) ∨
      (x.phase.destroying = false ∧ x'.blueprint = x.blueprint ∧ ∃ m ∈ x.queue, m.messageType = .stop) := by
  cases h with
  | take hphase hqueue =>
    right
    rename_i m later
    change (x.onMessage m).destroying = true at hx'
    unfold LcmWorker.onMessage at hx'
    split at hx'
    next hstop => exact ⟨by rw [hphase]; rfl, rfl, m, by rw [hqueue]; exact List.mem_cons_self, hstop⟩
    · cases hx'
  | childDeleted hphase hthread hpc =>
    left
    refine ⟨by rw [hphase]; rfl, ?_⟩
    rcases deregister_cases _ _ _ _ with h | h
    · rw [h]
      exact fun child hchild => List.mem_of_mem_erase hchild
    · rw [h]
      exact fun child hchild => hchild
  | childAbsent hphase hthread hpc =>
    left
    refine ⟨by rw [hphase]; rfl, ?_⟩
    rcases deregister_cases _ _ _ _ with h | h
    · rw [h]
      exact fun child hchild => List.mem_of_mem_erase hchild
    · rw [h]
      exact fun child hchild => hchild
  | children hphase =>
    change x.phase.destroying = true at hx'
    rw [hphase] at hx'
    cases hx'
  | save hphase => exact .inl ⟨hx', fun _ hc => hc⟩
  | _ => simp_all [Phase.destroying, LcmWorker.withDeployed]

end LcmWorker.Moves

namespace Lcm

variable {s : Lcm} {id : BlueId}

theorem applyThread_destroying {effect : ThreadEffect} (hy : y ∈ (s.applyThread id effect).workers)
    (hdestroying : y.phase.destroying = true) :
    ∃ y₀ ∈ s.workers, y₀.phase.destroying = true ∧ y₀.blueprint.childrenBlueIds = y.blueprint.childrenBlueIds := by
  obtain ⟨w, hw⟩ := List.mem_iff_getElem?.1 hy
  rcases s.applyThread_worker hw with hold | ⟨x, m, -, hx, rfl⟩ | ⟨x, value, -, hx, rfl⟩ | ⟨b, -, -, rfl⟩
  · exact ⟨y, List.mem_of_getElem? hold, hdestroying, rfl⟩
  · exact ⟨x, List.mem_of_getElem? hx, hdestroying, rfl⟩
  · exact ⟨x, List.mem_of_getElem? hx, hdestroying, rfl⟩
  · cases hdestroying

/-- A call queues a STOP when the worker it holds has no flag, and puts no other STOP. -/
theorem Safe.thread (h : s.Safe w x) (hx : s.workers[w]? = some x) {th : Thread} (ht : s.threads[t]? = some th)
    (hmoves : th.Moves t s next effect) (hclear : effect ≠ .setFlag w false)
    (hy : ((s.applyThread th.request.id effect).setThread t { th with pc := next }).workers[w]? = some y) :
    ((s.applyThread th.request.id effect).setThread t { th with pc := next }).Safe w y := by
  have hth := List.mem_of_getElem? ht
  have hparents : ∀ y ∈ (s.applyThread th.request.id effect).workers, y.phase.destroying = true →
      x.id ∉ y.blueprint.childrenBlueIds := by
    intro y hy hdestroying hchild
    obtain ⟨y₀, hy₀, hd, hc⟩ := applyThread_destroying hy hdestroying
    exact h.parents y₀ hy₀ hd (hc ▸ hchild)
  have hstops : ∀ th' ∈ s.threads.set t { th with pc := next }, th'.pc ≠ .putStop w := by
    intro th' hth' hpc
    rcases List.mem_or_eq_of_mem_set hth' with hold | rfl
    · exact h.stops th' hold hpc
    · have hnext : next = .putStop w := hpc
      subst hnext
      cases hmoves with
      | allow _ _ hx' hflag =>
        rw [hx] at hx'
        cases hx'
        exact absurd (hflag.symm.trans h.flag) Bool.false_ne_true
      | send _ _ _ hnext _ => rcases hnext with hnext | ⟨hnext, -⟩ <;> cases hnext
  have hbuild (hflag : y.blueprint.isProtected = true) (hqueue : ∀ m ∈ y.queue, m.messageType ≠ .stop)
      (hphase : y.phase = x.phase) (hid : y.id = x.id) :
      ((s.applyThread th.request.id effect).setThread t { th with pc := next }).Safe w y := by
    refine ⟨hflag, hqueue, hphase ▸ h.idle, ?_, hid ▸ hparents⟩
    change ∀ th' ∈ (s.applyThread th.request.id effect).threads.set t { th with pc := next }, th'.pc ≠ .putStop w
    rw [applyThread_threads]
    exact hstops
  rcases s.applyThread_worker hy with hold | ⟨x', m, rfl, hx', rfl⟩ | ⟨x', value, rfl, hx', rfl⟩ | ⟨b, -, rfl, -⟩
  · rw [hx] at hold
    cases hold
    exact hbuild h.flag h.queue rfl rfl
  · rw [hx] at hx'
    cases hx'
    apply hbuild h.flag _ rfl rfl
    intro m' hm'
    rcases List.mem_append.1 hm' with hm' | hm'
    · exact h.queue m' hm'
    · rw [List.mem_singleton.1 hm']
      cases hmoves with
      | send _ _ hm _ _ => exact hm
      | putStop hpc _ => exact absurd hpc (h.stops th hth)
      | putStopSync hpc _ => exact absurd hpc (h.stops th hth)
  · rw [hx] at hx'
    cases hx'
    cases value with
    | true => exact hbuild rfl h.queue rfl rfl
    | false => exact absurd rfl hclear
  · rw [List.getElem?_eq_none (Nat.le_refl _)] at hx
    cases hx

/-- The saves of a call: of its own id with a claim, or of a worker it holds. -/
theorem Shielded.thread_doc (h : s.Shielded id) {th : Thread} (hth : th ∈ s.threads) (hmoves : th.Moves t s next effect)
    (hsave : ∀ w, th.pc = .saveFlag w → ∀ x, s.workers[w]? = some x → x.phase ≠ .ended) :
    ∃ b, (s.applyThread th.request.id effect).docs.get id = some b ∧ b.isProtected = true := by
  cases hmoves with
  | saveNew hpc hb =>
    obtain ⟨b, hdoc, hflag⟩ := h.doc
    have hid : th.request.id ≠ id := fun hid => h.fresh th hth hid hpc
    refine ⟨b, ?_, hflag⟩
    change (s.docs.saveNgBlue th.request.id _).get id = some b
    rw [BlueDocs.get_saveNgBlue, if_neg hid, hdoc]
  | saveFlag hpc hrequest =>
    apply s.onWorker_rule (P := fun s' => ∃ b, s'.docs.get id = some b ∧ b.isProtected = true) h.doc
    intro x hx
    change ∃ b, (s.docs.saveNgBlue x.id x.blueprint).get id = some b ∧ b.isProtected = true
    rw [BlueDocs.get_saveNgBlue]
    by_cases hid : x.id = id
    · rw [if_pos hid]
      exact ⟨x.blueprint, rfl, (h.workers _ x hx hid (hsave _ hpc x hx)).flag⟩
    · rw [if_neg hid]
      exact h.doc
  | _ =>
    rw [s.applyThread_docs (by nofun) (by nofun)]
    exact h.doc

theorem Shielded.thread (h : s.Shielded id) (hl : s.Linked) {th : Thread} (ht : s.threads[t]? = some th)
    (hmoves : th.Moves t s next effect)
    (hsave : ∀ w, th.pc = .saveFlag w → ∀ x, s.workers[w]? = some x → x.phase ≠ .ended)
    (hclear : ∀ w x, effect = .setFlag w false → s.workers[w]? = some x → x.id ≠ id) :
    ((s.applyThread th.request.id effect).setThread t { th with pc := next }).Shielded id := by
  have hth := List.mem_of_getElem? ht
  have hparents : ∀ y ∈ (s.applyThread th.request.id effect).workers, y.phase.destroying = true →
      id ∉ y.blueprint.childrenBlueIds := by
    intro y hy hdestroying hchild
    obtain ⟨y₀, hy₀, hd, hc⟩ := applyThread_destroying hy hdestroying
    exact h.parents y₀ hy₀ hd (hc ▸ hchild)
  have hthreads {P : Thread → Prop} (hold : ∀ th' ∈ s.threads, P th') (hnew : P { th with pc := next }) :
      ∀ th' ∈ ((s.applyThread th.request.id effect).setThread t { th with pc := next }).threads, P th' := by
    intro th' hth'
    change th' ∈ (s.applyThread th.request.id effect).threads.set t { th with pc := next } at hth'
    rw [applyThread_threads] at hth'
    rcases List.mem_or_eq_of_mem_set hth' with hth' | rfl
    · exact hold th' hth'
    · exact hnew
  refine ⟨h.thread_doc hth hmoves hsave, ?_, hthreads h.fresh ?_, hthreads h.loaded ?_, hparents⟩
  · intro w y hy hid hended
    rcases s.applyThread_worker hy with hold | ⟨x, m, -, hx, hyx⟩ | ⟨x, value, hvalue, hx, hyx⟩ | ⟨b, rfl, rfl, rfl⟩
    · apply (h.workers w y hold hid hended).thread hold ht hmoves _ hy
      exact fun heffect => hclear w y heffect hold hid
    · have hxid : x.id = id := by rw [← hid, hyx]
      have hxended : x.phase ≠ .ended := by rw [hyx] at hended; exact hended
      apply (h.workers w x hx hxid hxended).thread hx ht hmoves _ hy
      exact fun heffect => hclear w x heffect hx hxid
    · have hxid : x.id = id := by rw [← hid, hyx]
      have hxended : x.phase ≠ .ended := by rw [hyx] at hended; exact hended
      apply (h.workers w x hx hxid hxended).thread hx ht hmoves _ hy
      exact fun heffect => hclear w x heffect hx hxid
    · cases hmoves with
      | start hpc =>
        have hthid : th.request.id = id := hid
        refine ⟨h.loaded th hth hthid _ hpc, by simp, rfl, ?_, hid ▸ hparents⟩
        apply hthreads
        · intro th' hth' hstop
          obtain ⟨x, hx, -⟩ := hl.held th' hth' s.workers.length (by rw [hstop]; rfl)
          rw [List.getElem?_eq_none (Nat.le_refl _)] at hx
          cases hx
        · nofun
  · intro hid hnew
    have hnext : next = .saveNew := hnew
    subst hnext
    cases hmoves with
    | reserve hpc hdoc =>
      obtain ⟨b, hb, -⟩ := h.doc
      rw [show th.request.id = id from hid, hb] at hdoc
      cases hdoc
    | send _ _ _ hnext _ => rcases hnext with hnext | ⟨hnext, -⟩ <;> cases hnext
  · intro hid b hnew
    have hnext : next = .start b := hnew
    subst hnext
    cases hmoves with
    | saveNew hpc hb => exact absurd hpc (h.fresh th hth hid)
    | load hpc hdoc =>
      obtain ⟨b', hb', hflag⟩ := h.doc
      rw [show th.request.id = id from hid, hb'] at hdoc
      cases hdoc
      exact hflag
    | send _ _ _ hnext _ => rcases hnext with hnext | ⟨hnext, -⟩ <;> cases hnext

/-- A worker takes no step towards `putStop`, and starts no call there. -/
theorem applyWorker_pc {th : Thread} (hth : th ∈ (s.applyWorker id effect).threads) :
    th.pc = .check ∨ th.pc = .test ∨ ∃ th₀ ∈ s.threads, th.request = th₀.request ∧ th.pc = th₀.pc := by
  rcases s.applyWorker_thread hth with ⟨th₀, hth₀, hr, -, hpc⟩ | ⟨r, -, rfl⟩
  · exact .inr (.inr ⟨th₀, hth₀, hr, hpc⟩)
  · cases r with
    | create => exact .inl rfl
    | _ => exact .inr (.inl rfl)

/-- Where `destroy` runs after a step of a worker, on a blueprint that lists a child. -/
theorem destroying_parent (hy : s.workers[i]? = some y) (hmoves : y.Moves s.threads y' effect)
    (hstart : y.phase.destroying = false → y'.phase.destroying = true → ∀ child ∈ y.blueprint.childrenBlueIds, s.Unprotected child)
    (hz : z ∈ ((s.applyWorker y.id effect).setWorker i y').workers) (hd : z.phase.destroying = true)
    (hchild : child ∈ z.blueprint.childrenBlueIds) :
    (∃ z₀ ∈ s.workers, z₀.phase.destroying = true ∧ child ∈ z₀.blueprint.childrenBlueIds) ∨ s.Unprotected child := by
  rcases List.mem_or_eq_of_mem_set hz with hz | rfl
  · rw [applyWorker_workers] at hz
    exact .inl ⟨z, hz, hd, hchild⟩
  · rcases hmoves.destroying_cases hd with ⟨hyd, hsub⟩ | ⟨hyd, hb, -⟩
    · exact .inl ⟨y, List.mem_of_getElem? hy, hyd, hsub child hchild⟩
    · exact .inr (hstart hyd hd child (hb ▸ hchild))

/-- A step of a worker adds none, and none whose loop had ended runs after it. -/
theorem worker_before {y y' z : LcmWorker} {i w : Nat} (hy : s.workers[i]? = some y) (hmoves : y.Moves s.threads y' effect)
    (hz : ((s.applyWorker y.id effect).setWorker i y').workers[w]? = some z) :
    ∃ z₀, s.workers[w]? = some z₀ ∧ z₀.id = z.id ∧ (z.phase ≠ .ended → z₀.phase ≠ .ended) := by
  change ((s.applyWorker y.id effect).workers.set i y')[w]? = some z at hz
  rw [applyWorker_workers] at hz
  by_cases hiw : i = w
  · subst hiw
    rw [List.getElem?_set_self (List.getElem?_eq_some_iff.1 hy).1] at hz
    cases hz
    exact ⟨y, hy, hmoves.id_eq.symm, fun _ => hmoves.live⟩
  · rw [List.getElem?_set_ne hiw] at hz
    exact ⟨z, hz, rfl, fun h => h⟩

/-- No STOP is in the queue of a safe worker, so it starts no `destroy`. -/
theorem Safe.worker (h : s.Safe w x) (hx : s.workers[w]? = some x) (hlive : x.phase ≠ .ended) (hy : s.workers[i]? = some y)
    (hmoves : y.Moves s.threads y' effect)
    (hstart : y.phase.destroying = false → y'.phase.destroying = true → ∀ child ∈ y.blueprint.childrenBlueIds, s.Unprotected child)
    (hz : ((s.applyWorker y.id effect).setWorker i y').workers[w]? = some z) :
    ((s.applyWorker y.id effect).setWorker i y').Safe w z := by
  have hstops : ∀ th ∈ ((s.applyWorker y.id effect).setWorker i y').threads, th.pc ≠ .putStop w := by
    intro th hth hpc
    rcases applyWorker_pc hth with hpc' | hpc' | ⟨th₀, hth₀, -, hpc'⟩
    · cases hpc'.symm.trans hpc
    · cases hpc'.symm.trans hpc
    · exact h.stops th₀ hth₀ (hpc'.symm.trans hpc)
  have hparents : ∀ z ∈ ((s.applyWorker y.id effect).setWorker i y').workers, z.phase.destroying = true →
      x.id ∉ z.blueprint.childrenBlueIds := by
    intro z hz hd hchild
    rcases destroying_parent hy hmoves hstart hz hd hchild with ⟨z₀, hz₀, hd₀, hchild₀⟩ | ⟨-, hunprotected⟩
    · exact h.parents z₀ hz₀ hd₀ hchild₀
    · have hflag := hunprotected x (List.mem_of_getElem? hx) rfl hlive
      exact absurd (hflag.symm.trans h.flag) Bool.false_ne_true
  change ((s.applyWorker y.id effect).workers.set i y')[w]? = some z at hz
  rw [applyWorker_workers] at hz
  by_cases hiw : i = w
  · subst hiw
    rw [hx] at hy
    cases hy
    rw [List.getElem?_set_self (List.getElem?_eq_some_iff.1 hx).1] at hz
    cases hz
    refine ⟨hmoves.isProtected_eq.trans h.flag, fun m hm => h.queue m (hmoves.queue_subset m hm), ?_, hstops,
      hmoves.id_eq ▸ hparents⟩
    rw [← Bool.not_eq_true]
    intro hd
    rcases hmoves.destroying_cases hd with ⟨hxd, -⟩ | ⟨-, -, m, hm, hstop⟩
    · exact absurd (h.idle.symm.trans hxd) Bool.false_ne_true
    · exact h.queue m hm hstop
  · rw [List.getElem?_set_ne hiw, hx] at hz
    cases hz
    exact ⟨h.flag, h.queue, h.idle, hstops, hparents⟩

theorem Shielded.worker (h : s.Shielded id) (hy : s.workers[i]? = some y) (hmoves : y.Moves s.threads y' effect)
    (hstart : y.phase.destroying = false → y'.phase.destroying = true → ∀ child ∈ y.blueprint.childrenBlueIds, s.Unprotected child) :
    ((s.applyWorker y.id effect).setWorker i y').Shielded id := by
  have hsafe : y.id = id → s.Safe i y := fun hid => h.workers i y hy hid hmoves.live
  obtain ⟨b, hdoc, hb⟩ := h.doc
  refine ⟨?_, ?_, ?_, ?_, ?_⟩
  · cases effect with
    | save b' =>
      change ∃ b, (s.docs.saveNgBlue y.id b').get id = some b ∧ b.isProtected = true
      rw [BlueDocs.get_saveNgBlue]
      by_cases hid : y.id = id
      · rw [if_pos hid]
        exact ⟨b', rfl, hmoves.save_isProtected.trans (hsafe hid).flag⟩
      · rw [if_neg hid]
        exact h.doc
    | destroyNgBlue =>
      have hid : y.id ≠ id := by
        intro hid
        have hidle := (hsafe hid).idle
        cases hmoves with
        | remove hphase =>
          rw [hphase] at hidle
          cases hidle
      refine ⟨b, ?_, hb⟩
      change (s.docs.destroyNgBlue y.id).get id = some b
      rw [BlueDocs.get_destroyNgBlue, if_neg hid, hdoc]
    | answer m =>
      refine ⟨b, ?_, hb⟩
      rw [← hdoc]
      change (s.applyWorker y.id (.answer m)).docs.get id = s.docs.get id
      unfold applyWorker
      simp only
      split
      · rfl
      · split
        · rfl
        · rfl
    | quiet => exact h.doc
    | spawn r => exact h.doc
  · intro w z hz hid hended
    obtain ⟨z₀, hz₀, hid₀, hlive⟩ := worker_before hy hmoves hz
    exact (h.workers w z₀ hz₀ (hid₀.trans hid) (hlive hended)).worker hz₀ (hlive hended) hy hmoves hstart hz
  · intro th hth hid hpc
    rcases applyWorker_pc hth with hpc' | hpc' | ⟨th₀, hth₀, hr, hpc'⟩
    · cases hpc'.symm.trans hpc
    · cases hpc'.symm.trans hpc
    · exact h.fresh th₀ hth₀ (hr ▸ hid) (hpc'.symm.trans hpc)
  · intro th hth hid b' hpc
    rcases applyWorker_pc hth with hpc' | hpc' | ⟨th₀, hth₀, hr, hpc'⟩
    · cases hpc'.symm.trans hpc
    · cases hpc'.symm.trans hpc
    · exact h.loaded th₀ hth₀ (hr ▸ hid) b' (hpc'.symm.trans hpc)
  · intro z hz hd hchild
    rcases destroying_parent hy hmoves hstart hz hd hchild with ⟨z₀, hz₀, hd₀, hchild₀⟩ | ⟨hunprotected, -⟩
    · exact h.parents z₀ hz₀ hd₀ hchild₀
    · have hflag := hunprotected b hdoc
      exact absurd (hflag.symm.trans hb) Bool.false_ne_true

theorem Safe.spawn (h : s.Safe w x) (r : Request) (owner : Option BlueId) : (s.spawn r owner).Safe w x := by
  refine ⟨h.flag, h.queue, h.idle, ?_, h.parents⟩
  intro th hth
  rcases List.mem_append.1 hth with hth | hth
  · exact h.stops th hth
  · rw [List.mem_singleton.1 hth]
    cases r <;> nofun

theorem Shielded.spawn (h : s.Shielded id) (r : Request) (owner : Option BlueId) : (s.spawn r owner).Shielded id := by
  refine ⟨h.doc, fun w x hx hid hended => (h.workers w x hx hid hended).spawn r owner, ?_, ?_, h.parents⟩
  · intro th hth
    rcases List.mem_append.1 hth with hth | hth
    · exact h.fresh th hth
    · rw [List.mem_singleton.1 hth]
      cases r <;> nofun
  · intro th hth
    rcases List.mem_append.1 hth with hth | hth
    · exact h.loaded th hth
    · rw [List.mem_singleton.1 hth]
      cases r <;> nofun

/-- An id is guarded after a step if it was, and the step does not clear its flag, or if
`protect_blueprint(True)` returns. -/
theorem guarded_cases {effect : ThreadEffect} (hid : id ∈ (s.applyThread id' effect).guarded) :
    (id ∈ s.guarded ∧ ∀ w x, effect = .setFlag w false → s.workers[w]? = some x → x.id ≠ id) ∨
      ∃ w x, effect = .saveFlag w true ∧ s.workers[w]? = some x ∧ x.id = id := by
  cases effect with
  | put w m =>
    left
    unfold applyThread onWorker at hid
    simp only at hid
    split at hid
    · exact ⟨hid, nofun⟩
    · exact ⟨hid, nofun⟩
  | setFlag w value =>
    left
    unfold applyThread onWorker at hid
    simp only at hid
    split at hid
    next hnone =>
      refine ⟨hid, ?_⟩
      intro w' x hw' hx
      cases hw'
      cases hnone.symm.trans hx
    next x hx =>
      cases value with
      | true => exact ⟨hid, nofun⟩
      | false =>
        obtain ⟨hold, hne⟩ := List.mem_filter.1 hid
        refine ⟨hold, ?_⟩
        intro w' x' hw' hx'
        cases hw'
        rw [hx] at hx'
        cases hx'
        exact fun heq => (of_decide_eq_true hne) heq.symm
  | saveFlag w value =>
    unfold applyThread onWorker at hid
    simp only at hid
    split at hid
    · exact .inl ⟨hid, nofun⟩
    next x hx =>
      cases value with
      | false => exact .inl ⟨hid, nofun⟩
      | true =>
        rcases List.mem_cons.1 hid with rfl | hid
        · exact .inr ⟨w, x, rfl, hx, rfl⟩
        · exact .inl ⟨hid, nofun⟩
  | _ => exact .inl ⟨hid, nofun⟩

/-- `protect_blueprint(True)` has saved the only running instance. -/
theorem Safe.shielded_of_return (h : s.Safe w x) (hclaims : s.claims x.id ≤ 1) (hx : s.workers[w]? = some x)
    (hlive : x.phase ≠ .ended) {th : Thread} (ht : s.threads[t]? = some th) (hmoves : th.Moves t s .done (.saveFlag w true)) :
    ((s.applyThread th.request.id (.saveFlag w true)).setThread t { th with pc := .done }).Shielded x.id := by
  have hs : s.applyThread th.request.id (.saveFlag w true) =
      { s.save x.id x.blueprint with guarded := x.id :: s.guarded } := by
    unfold applyThread onWorker
    simp only [hx, if_true]
  have hthreads (th' : Thread) (hth' : th' ∈ (s.threads.set t { th with pc := .done })) (hid : th'.request.id = x.id) :
      th'.pc.claims = false := by
    rcases List.mem_or_eq_of_mem_set hth' with hold | rfl
    · exact no_claim_of_live hclaims hx hlive th' hold hid
    · rfl
  constructor
  · rw [hs]
    refine ⟨x.blueprint, ?_, h.flag⟩
    change (s.docs.saveNgBlue x.id x.blueprint).get x.id = some x.blueprint
    rw [BlueDocs.get_saveNgBlue, if_pos rfl]
  · intro j y hj hid hended
    have hold : s.workers[j]? = some y := by
      rw [hs] at hj
      exact hj
    have hjw : w = j := single_of_claims hclaims hx hold hid.symm hlive hended
    subst hjw
    exact h.thread hx ht hmoves (by nofun) hj
  · intro th' hth' hid hpc
    rw [hs] at hth'
    have := hthreads th' hth' hid
    rw [hpc] at this
    cases this
  · intro th' hth' hid b hpc
    rw [hs] at hth'
    have := hthreads th' hth' hid
    rw [hpc] at this
    cases this
  · rw [hs]
    exact h.parents

/-- `protect_blueprint(True)` has set the flag while no deletion was on its way. -/
theorem Undeleted.safe (h : s.Undeleted w x) (hx : s.workers[w]? = some x) {th : Thread}
    (hy : ((s.applyThread th.request.id (.setFlag w true)).setThread t { th with pc := .saveFlag w }).workers[w]? = some y) :
    ((s.applyThread th.request.id (.setFlag w true)).setThread t { th with pc := .saveFlag w }).Safe w y := by
  obtain ⟨⟨hlive, hidle, hqueue⟩, hstops, hparents⟩ := h
  have hs : (s.applyThread th.request.id (.setFlag w true)).workers =
      s.workers.set w { x with blueprint := { x.blueprint with isProtected := true } } := by
    unfold applyThread onWorker
    simp only [hx]
    rfl
  have hyx : y = { x with blueprint := { x.blueprint with isProtected := true } } := by
    change (s.applyThread th.request.id (.setFlag w true)).workers[w]? = some y at hy
    rw [hs, List.getElem?_set_self (List.getElem?_eq_some_iff.1 hx).1] at hy
    exact (Option.some.inj hy).symm
  subst hyx
  refine ⟨rfl, hqueue, hidle, ?_, ?_⟩
  · intro th' hth'
    change th' ∈ (s.applyThread th.request.id (.setFlag w true)).threads.set t _ at hth'
    rw [applyThread_threads] at hth'
    rcases List.mem_or_eq_of_mem_set hth' with hold | rfl
    · exact hstops th' hold
    · nofun
  · intro z hz hd hchild
    obtain ⟨z₀, hz₀, hd₀, hc₀⟩ := applyThread_destroying hz hd
    exact hparents z₀ hz₀ hd₀ (hc₀ ▸ hchild)

theorem ShieldInv.thread (h : s.ShieldInv) {th : Thread} (ht : s.threads[t]? = some th) (hmoves : th.Moves t s next effect)
    (halone : th.Alone s) (hsettled : th.Settled s) :
    ((s.applyThread th.request.id effect).setThread t { th with pc := next }).ShieldInv := by
  have hth := List.mem_of_getElem? ht
  have hsave : ∀ w, th.pc = .saveFlag w → ∀ x, s.workers[w]? = some x → x.phase ≠ .ended := by
    intro w hpc x hx
    unfold Thread.Settled at hsettled
    rw [hpc] at hsettled
    exact hsettled x hx
  refine ⟨claims_thread h.claims ht hmoves halone, h.linked.thread ht hmoves, ?_, ?_⟩
  · intro id hid
    rcases guarded_cases hid with ⟨hold, hclear⟩ | ⟨w, x, rfl, hx, rfl⟩
    · exact (h.guarded id hold).thread h.linked ht hmoves hsave hclear
    · cases hmoves with
      | saveFlag hpc hrequest =>
        have hlive : x.phase ≠ .ended := hsave w hpc x hx
        have hprotect : th.request = .protect th.request.id true := by rw [hrequest]; rfl
        have hsafe : s.Safe w x := h.saving th hth w hpc hprotect x hx hlive
        exact hsafe.shielded_of_return (h.claims x.id) hx hlive ht (.saveFlag hpc hrequest)
  · intro th' hth' w hpc hrequest y hy hended
    change th' ∈ (s.applyThread th.request.id effect).threads.set t { th with pc := next } at hth'
    rw [applyThread_threads] at hth'
    rcases List.mem_or_eq_of_mem_set hth' with hold | rfl
    · obtain ⟨x, hx, -⟩ := h.linked.held th' hold w (by rw [hpc]; rfl)
      have hlive : x.phase ≠ .ended := by
        rcases s.applyThread_worker hy with hy | ⟨x', m, -, hx', rfl⟩ | ⟨x', value, -, hx', rfl⟩ | ⟨b, -, rfl, -⟩
        · rw [hx] at hy
          cases hy
          exact hended
        · rw [hx] at hx'
          cases hx'
          exact hended
        · rw [hx] at hx'
          cases hx'
          exact hended
        · rw [List.getElem?_eq_none (Nat.le_refl _)] at hx
          cases hx
      apply (h.saving th' hold w hpc hrequest x hx hlive).thread hx ht hmoves _ hy
      rintro rfl
      cases hmoves with
      | setFlag hpc' hrequest' =>
        unfold Thread.Settled at hsettled
        rw [hpc', hrequest'] at hsettled
        exact hsettled th' hold hpc hrequest
    · have hnext : next = .saveFlag w := hpc
      subst hnext
      cases hmoves with
      | setFlag hpc' hrequest' =>
        have hvalue : th.request = .protect th.request.id true := hrequest
        rw [hrequest'] at hvalue
        cases hvalue
        obtain ⟨x, hx, -⟩ := h.linked.held th hth w (by rw [hpc']; rfl)
        have hundeleted : s.Undeleted w x := by
          unfold Thread.Settled at hsettled
          rw [hpc', hrequest'] at hsettled
          exact hsettled x hx
        exact hundeleted.safe hx hy
      | send _ _ _ hnext _ => rcases hnext with hnext | ⟨hnext, -⟩ <;> cases hnext

theorem ShieldInv.step (e : LcmStep) (s : Lcm) (hcalm : Calm e s) (h : s.ShieldInv) : (s.step e).ShieldInv := by
  apply s.step_rule e h
  · intro r _
    refine ⟨claims_request h.claims r none, h.linked.spawn r none, fun id hid => (h.guarded id hid).spawn r none, ?_⟩
    intro th hth w hpc hrequest x hx hended
    rcases List.mem_append.1 hth with hth | hth
    · exact (h.saving th hth w hpc hrequest x hx hended).spawn r none
    · rw [List.mem_singleton.1 hth] at hpc
      cases r <;> cases hpc
  · intro t th next effect he ht hmoves
    subst he
    obtain ⟨halone, hsettled⟩ := hcalm th ht
    exact h.thread ht hmoves halone hsettled
  · intro w x action x' effect he hx hact hmoves
    subst he
    have hstart : x.phase.destroying = false → x'.phase.destroying = true →
        ∀ child ∈ x.blueprint.childrenBlueIds, s.Unprotected child :=
      fun hidle hd => hcalm x hx hidle (x', effect) hact hd
    constructor
    · exact fun id => (s.claims_worker_le hx hmoves.id_eq hmoves.live effect id).trans (h.claims id)
    · exact h.linked.worker hx hmoves.id_eq effect
    · have hguarded : ((s.applyWorker x.id effect).setWorker w x').guarded = s.guarded := by
        cases effect with
        | answer m =>
          unfold applyWorker
          simp only
          split
          · rfl
          · split
            · rfl
            · rfl
        | _ => rfl
      intro id hid
      exact (h.guarded id (hguarded ▸ hid)).worker hx hmoves hstart
    · intro th hth i hpc hrequest z hz hended
      obtain ⟨z₀, hz₀, -, hlive⟩ := worker_before hx hmoves hz
      rcases applyWorker_pc hth with hpc' | hpc' | ⟨th₀, hth₀, hr, hpc'⟩
      · cases hpc'.symm.trans hpc
      · cases hpc'.symm.trans hpc
      · rw [hr] at hrequest
        have hsafe := h.saving th₀ hth₀ i (hpc'.symm.trans hpc) hrequest z₀ hz₀ (hlive hended)
        exact hsafe.worker hz₀ (hlive hended) hx hmoves hstart hz

end Lcm

/-- As long as calls that start workers are alone, calls that protect are settled and `destroy` is not
started over protected children: in every interleaving, once `protect_blueprint(True)` has returned
and until `protect_blueprint(False)` is called, `destroy` does not run on the blueprint, nor on
one that lists it as a child. -/
theorem protection_respected (docs : BlueDocs) (steps : List LcmStep)
    (hsteps : Along Lcm.step Lcm.Calm { docs := docs } steps) (before : List LcmStep) (hbefore : before.IsPrefix steps) :
    (before.foldl Lcm.step { docs := docs }).Respected := by
  apply Lcm.ShieldInv.respected
  apply hsteps.invariant Lcm.ShieldInv.step steps _ before hbefore
  exact ⟨by simp [Lcm.claims], ⟨by simp, by simp⟩, by simp, by simp⟩

/-- Blueprint 2, a child of blueprint 1, is protected; a deletion of it is refused. -/
theorem protection_respected_refused :
    let steps := [.request (.protect 2 true), .thread 0, .thread 0, .thread 0, .thread 0, .thread 0, .thread 0,
      .request (.delete 2 false), .thread 1, .thread 1, .thread 1]
    let s := steps.foldl Lcm.step { docs := [(1, { childrenBlueIds := [2] }), (2, { parentBlueId := some 1 })] }
    s.guarded = [2] ∧ s.Respected := by
  intro steps s
  exact ⟨by decide, protection_respected _ steps (by decide) steps List.prefix_rfl⟩

/-- The flag is tested, then set and saved, and then the STOP is put. -/
theorem protection_respected_fails :
    ¬ ∀ (docs : BlueDocs) (steps : List LcmStep), (steps.foldl Lcm.step { docs := docs }).Respected := by
  intro h
  have hrespected := h [(7, {})] [.request (.delete 7 true), .thread 0, .thread 0, .thread 0, .thread 0, .thread 0,
    .request (.protect 7 true), .thread 1, .thread 1, .thread 1, .thread 1, .thread 0, .work 0 .take]
  have hidle := hrespected.own { id := 7, blueprint := { isProtected := true }, phase := .deletingChildren ⟨.stop, some 0⟩ [] none }
    (by decide) (by decide)
  revert hidle
  decide

end Nfvcl
