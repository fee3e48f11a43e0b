import Mathlib.Data.List.Basic
import Nfvcl.Runs
import Nfvcl.WorkerOwnership

namespace Nfvcl
set_option autoImplicit true
open Runs

/-- `destroy_ng_blue` has not been called for the worker's blueprint, and its loop runs. -/
def LcmWorker.Undestroyed (x : LcmWorker) : Prop :=
  match x.phase with
  | .removed _ | .ended => False
  | _ => True

instance (x : LcmWorker) : Decidable x.Undestroyed := by
  unfold LcmWorker.Undestroyed
  cases x.phase <;> exact inferInstance

/-- A new blueprint gets an id that was not used before, and `protect_blueprint` saves before its
worker is done with a STOP. -/
def Thread.Timely (th : Thread) (s : Lcm) : Prop :=
  match th.pc with
  | .check => th.request.id ∉ s.destroyed
  | .saveFlag w => ∀ x ∈ s.workers[w]?, x.Undestroyed
  | _ => True

instance (th : Thread) (s : Lcm) : Decidable (th.Timely s) :=
  match th with
  | ⟨request, _, .check, _⟩ => inferInstanceAs (Decidable (request.id ∉ s.destroyed))
  | ⟨_, _, .saveFlag w, _⟩ => inferInstanceAs (Decidable (∀ x ∈ s.workers[w]?, x.Undestroyed))
  | ⟨_, _, .saveNew, _⟩ | ⟨_, _, .test, _⟩ | ⟨_, _, .fetch, _⟩ | ⟨_, _, .load, _⟩ | ⟨_, _, .start _, _⟩
  | ⟨_, _, .insert _, _⟩ | ⟨_, _, .use _, _⟩ | ⟨_, _, .putStop _, _⟩ | ⟨_, _, .await, _⟩ | ⟨_, _, .pop, _⟩
  | ⟨_, _, .done, _⟩ | ⟨_, _, .raised _, _⟩ => isTrue trivial

namespace Lcm

/-- Calls that start a worker are alone, and no call is late. -/
def InTime (e : LcmStep) (s : Lcm) : Prop :=
  match e with
  | .thread t => ∀ th ∈ s.threads[t]?, th.Alone s ∧ th.Timely s
  | _ => True

instance (e : LcmStep) (s : Lcm) : Decidable (InTime e s) :=
  match e with
  | .thread t => inferInstanceAs (Decidable (∀ th ∈ s.threads[t]?, th.Alone s ∧ th.Timely s))
  | .request _ | .work _ _ => isTrue trivial

/-- A destroyed blueprint: no document, and nobody who would write one. -/
structure Gone (s : Lcm) (id : BlueId) : Prop where
  doc : s.docs.get id = none
  threads : ∀ th ∈ s.threads, th.claims id = false
  workers : ∀ x ∈ s.workers, x.id = id → ¬ x.Undestroyed

structure GoneInv (s : Lcm) : Prop where
  claims : ∀ id, s.claims id ≤ 1
  gone : ∀ id ∈ s.destroyed, s.Gone id

section Gone

variable {s : Lcm} {id : BlueId}

theorem Gone.spawn (h : s.Gone id) (r : Request) (owner : Option BlueId) : (s.spawn r owner).Gone id := by
  refine ⟨h.doc, ?_, h.workers⟩
  intro th hth
  rcases List.mem_append.1 hth with hth | hth
  · exact h.threads th hth
  · rw [List.mem_singleton.1 hth]
    cases r <;> simp [Thread.claims, Request.entry, Pc.claims]

theorem Gone.save (h : s.Gone id) (hid : id' ≠ id) (b : Blueprint) : (s.save id' b).Gone id := by
  refine ⟨?_, h.threads, h.workers⟩
  change (s.docs.saveNgBlue id' b).get id = none
  rw [BlueDocs.get_saveNgBlue, if_neg hid, h.doc]

theorem Gone.setThread (h : s.Gone id) (hth : th.claims id = false) : (s.setThread t th).Gone id := by
  refine ⟨h.doc, ?_, h.workers⟩
  intro th' hth'
  rcases List.mem_or_eq_of_mem_set hth' with hold | rfl
  · exact h.threads th' hold
  · exact hth

theorem Gone.setWorker (h : s.Gone id) (hx : x.id = id → ¬ x.Undestroyed) : (s.setWorker w x).Gone id := by
  refine ⟨h.doc, h.threads, ?_⟩
  intro x' hx'
  rcases List.mem_or_eq_of_mem_set hx' with hold | rfl
  · exact h.workers x' hold
  · exact hx

/-- A thread writes a document of its own id when it has a claim, or of a worker it holds. -/
theorem Gone.applyThread (h : s.Gone id) {th : Thread} (hth : th ∈ s.threads) (hmoves : th.Moves t s next effect)
    (hflag : ∀ w, th.pc = .saveFlag w → ∀ x, s.workers[w]? = some x → x.Undestroyed) :
    (s.applyThread th.request.id effect).Gone id := by
  have hclaims : th.pc.claims = true → th.request.id ≠ id := by
    intro hpc hid
    have hfalse := h.threads th hth
    simp [Thread.claims, hpc, hid] at hfalse
  have hkeep {w : Nat} {x x' : LcmWorker} (hx : s.workers[w]? = some x) (hid : x'.id = x.id) (hphase : x'.phase = x.phase) :
      (s.setWorker w x').Gone id := by
    apply h.setWorker
    intro hx'
    have hold := h.workers x (List.mem_of_getElem? hx) (hid.symm.trans hx')
    unfold LcmWorker.Undestroyed at hold ⊢
    rw [hphase]
    exact hold
  cases hmoves with
  | saveNew hpc hb => exact h.save (hclaims (by rw [hpc]; rfl)) _
  | start hpc =>
    refine ⟨h.doc, h.threads, ?_⟩
    intro x hx hid
    rcases List.mem_append.1 hx with hx | hx
    · exact h.workers x hx hid
    · rw [List.mem_singleton.1 hx] at hid
      exact absurd hid (hclaims (by rw [hpc]; rfl))
  | insert hpc => exact ⟨h.doc, h.threads, h.workers⟩
  | pop hpc hentry => exact ⟨h.doc, h.threads, h.workers⟩
  | send hpc hrequest hm hnext hcaller =>
    exact s.onWorker_rule (P := fun s' => s'.Gone id) h (fun x hx => hkeep hx rfl rfl)
  | putStop hpc hwait => exact s.onWorker_rule (P := fun s' => s'.Gone id) h (fun x hx => hkeep hx rfl rfl)
  | putStopSync hpc hwait => exact s.onWorker_rule (P := fun s' => s'.Gone id) h (fun x hx => hkeep hx rfl rfl)
  | setFlag hpc hrequest =>
    apply s.onWorker_rule (P := fun s' => s'.Gone id) h
    intro x hx
    rename_i w _ value
    have hset : (s.setWorker w { x with blueprint := { x.blueprint with isProtected := value } }).Gone id := hkeep hx rfl rfl
    exact ⟨hset.doc, hset.threads, hset.workers⟩
  | saveFlag hpc hrequest =>
    apply s.onWorker_rule (P := fun s' => s'.Gone id) h
    intro x hx
    have hid : x.id ≠ id := fun hid => h.workers x (List.mem_of_getElem? hx) hid (hflag _ hpc x hx)
    have hsave := h.save hid x.blueprint
    exact ⟨hsave.doc, hsave.threads, hsave.workers⟩
  | _ => exact h

theorem Gone.thread (h : s.Gone id) {th : Thread} (hth : th ∈ s.threads) (hmoves : th.Moves t s next effect)
    (hcheck : th.pc = .check → th.request.id ≠ id)
    (hflag : ∀ w, th.pc = .saveFlag w → ∀ x, s.workers[w]? = some x → x.Undestroyed) :
    ((s.applyThread th.request.id effect).setThread t { th with pc := next }).Gone id := by
  apply (h.applyThread hth hmoves hflag).setThread
  have hfalse := h.threads th hth
  cases hmoves with
  | reserve hpc hdoc => simp [Thread.claims, hcheck hpc]
  | load hpc hdoc =>
    have hid : th.request.id ≠ id := by
      rintro rfl
      rw [h.doc] at hdoc
      cases hdoc
    simp [Thread.claims, hid]
  | saveNew hpc hb => simpa [Thread.claims, hpc, Pc.claims] using hfalse
  | send hpc hrequest hm hnext hcaller => rcases hnext with rfl | ⟨rfl, -⟩ <;> simp [Thread.claims, Pc.claims]
  | _ => simp [Thread.claims, Pc.claims]

end Gone

end Lcm

namespace LcmWorker.Moves

variable {x : LcmWorker}

theorem undestroyed_of_save (h : x.Moves threads x' (.save b)) : x.Undestroyed := by
  cases h with
  | save hphase => rcases hphase with h | h <;> simp [LcmWorker.Undestroyed, h]
  | _ => simp_all [LcmWorker.Undestroyed]

/-- After `destroy_ng_blue` the loop ends. -/
theorem destroyed_stays (h : x.Moves threads x' effect) (hx : ¬ x.Undestroyed) : ¬ x'.Undestroyed := by
  cases h with
  | save hphase => exact hx
  | children hphase => exact hx
  | _ => simp_all [LcmWorker.Undestroyed]

end LcmWorker.Moves

namespace Lcm

variable {s : Lcm} {id : BlueId}

theorem Gone.applyWorker (h : s.Gone id) {x : LcmWorker} (hx : x ∈ s.workers) (hmoves : x.Moves s.threads x' effect) :
    (s.applyWorker x.id effect).Gone id := by
  cases effect with
  | quiet => exact h
  | save b =>
    apply h.save
    exact fun hid => h.workers x hx hid hmoves.undestroyed_of_save
  | spawn r => exact h.spawn r (some x.id)
  | destroyNgBlue =>
    refine ⟨?_, h.threads, h.workers⟩
    change (s.docs.destroyNgBlue x.id).get id = none
    rw [BlueDocs.get_destroyNgBlue, h.doc, ite_self]
  | answer m =>
    unfold Lcm.applyWorker
    simp only
    split
    · exact h
    · split
      · exact h
      next th hth =>
        have hclaims : Thread.claims { th with event := true } id = false := h.threads th (List.mem_of_getElem? hth)
        exact h.setThread hclaims

/-- The worker that calls `destroy_ng_blue` is the only one with a claim. -/
theorem gone_of_remove (hclaims : s.claims x.id ≤ 1) (hx : s.workers[w]? = some x) (hphase : x.phase = .removing m) :
    ((s.applyWorker x.id .destroyNgBlue).setWorker w { x with phase := .removed m }).Gone x.id := by
  have hlive : x.phase ≠ .ended := by rw [hphase]; nofun
  constructor
  · change (s.docs.destroyNgBlue x.id).get x.id = none
    rw [BlueDocs.get_destroyNgBlue, if_pos rfl]
  · intro th hth
    by_cases hid : th.request.id = x.id
    · simp [Thread.claims, no_claim_of_live hclaims hx hlive th hth hid]
    · simp [Thread.claims, hid]
  · intro y hy hid
    obtain ⟨j, hj⟩ := List.mem_iff_getElem?.1 hy
    change (s.workers.set w _)[j]? = some y at hj
    by_cases hij : w = j
    · subst hij
      rw [List.getElem?_set_self (List.getElem?_eq_some_iff.1 hx).1] at hj
      cases hj
      simp [LcmWorker.Undestroyed]
    · rw [List.getElem?_set_ne hij] at hj
      by_cases hy' : y.phase = .ended
      · simp [LcmWorker.Undestroyed, hy']
      · exact absurd (single_of_claims hclaims hx hj hid.symm hlive hy') hij

theorem GoneInv.step (e : LcmStep) (s : Lcm) (htime : InTime e s) (h : s.GoneInv) : (s.step e).GoneInv := by
  apply s.step_rule e h
  · intro r _
    exact ⟨claims_request h.claims r none, fun id hid => (h.gone id hid).spawn r none⟩
  · intro t th next effect he ht hmoves
    subst he
    obtain ⟨halone, htimely⟩ := htime th ht
    constructor
    · exact claims_thread h.claims ht hmoves halone
    · intro id hid
      have hdestroyed : id ∈ s.destroyed := by
        rw [← s.applyThread_destroyed th.request.id effect]
        exact hid
      apply (h.gone id hdestroyed).thread (List.mem_of_getElem? ht) hmoves
      · intro hpc hth
        unfold Thread.Timely at htimely
        rw [hpc] at htimely
        exact htimely (hth ▸ hdestroyed)
      · intro w hpc x hx
        unfold Thread.Timely at htimely
        rw [hpc] at htimely
        exact htimely x hx
  · intro w x action x' effect he hx hact hmoves
    constructor
    · exact fun id => (s.claims_worker_le hx hmoves.id_eq hmoves.live effect id).trans (h.claims id)
    · intro id hid
      have hkeep (hdestroyed : id ∈ s.destroyed) : ((s.applyWorker x.id effect).setWorker w x').Gone id := by
        apply ((h.gone id hdestroyed).applyWorker (List.mem_of_getElem? hx) hmoves).setWorker
        intro hx'
        apply hmoves.destroyed_stays
        exact (h.gone id hdestroyed).workers x (List.mem_of_getElem? hx) (hmoves.id_eq.symm.trans hx')
      by_cases heffect : effect = .destroyNgBlue
      · subst heffect
        rcases List.mem_cons.1 hid with rfl | hdestroyed
        · cases hmoves with
          | remove hphase => exact gone_of_remove (h.claims x.id) hx hphase
        · exact hkeep hdestroyed
      · apply hkeep
        rw [← s.applyWorker_destroyed heffect x.id]
        exact hid

end Lcm

/-- As long as calls that start a worker are alone and `protect_blueprint` saves before the STOP
of its worker is done: in every interleaving, a blueprint whose document was removed by `destroy`
has no document ever after. -/
theorem destroyed_blueprint_stays_gone (docs : BlueDocs) (steps : List LcmStep)
    (hsteps : Along Lcm.step Lcm.InTime { docs := docs } steps) (before : List LcmStep) (hbefore : before.IsPrefix steps)
    (id : BlueId) (hid : id ∈ (before.foldl Lcm.step { docs := docs }).destroyed) :
    (before.foldl Lcm.step { docs := docs }).docs.get id = none := by
  have hinv : (before.foldl Lcm.step { docs := docs }).GoneInv := by
    apply hsteps.invariant Lcm.GoneInv.step steps _ before hbefore
    exact ⟨by simp [Lcm.claims], by simp⟩
  exact (hinv.gone id hid).doc

/-- A request to lift the protection and one to delete, one after the other. -/
theorem destroyed_blueprint_stays_gone_deleted :
    let steps := [.request (.protect 7 false), .thread 0, .thread 0, .thread 0, .thread 0, .thread 0, .thread 0,
      .request (.delete 7 true), .thread 1, .thread 1, .thread 1, .thread 1, .work 0 .take, .work 0 .next, .work 0 .save,
      .work 0 .next, .work 0 .next, .work 0 .next, .work 0 .next, .thread 1, .thread 1]
    let s := steps.foldl Lcm.step { docs := [(7, {})] }
    7 ∈ s.destroyed ∧ s.docs.get 7 = none := by
  intro steps s
  have hdestroyed : 7 ∈ s.destroyed := by decide
  exact ⟨hdestroyed, destroyed_blueprint_stays_gone [(7, {})] steps (by decide) steps List.prefix_rfl 7 hdestroyed⟩

/-- The worker is looked up before a deletion, and its blueprint saved after it. -/
theorem destroyed_blueprint_stays_gone_fails :
    ¬ ∀ (docs : BlueDocs) (steps : List LcmStep) (id : BlueId), id ∈ (steps.foldl Lcm.step { docs := docs }).destroyed →
      (steps.foldl Lcm.step { docs := docs }).docs.get id = none := by
  intro h
  have hgone := h [(7, {})] [.request (.protect 7 true), .thread 0, .thread 0, .thread 0, .thread 0,
    .request (.delete 7 false), .thread 1, .thread 1, .thread 1, .thread 1, .thread 1, .work 0 .take, .work 0 .next,
    .work 0 .next, .work 0 .next, .work 0 .next, .thread 0, .thread 0] 7 (by decide)
  revert hgone
  decide

end Nfvcl
