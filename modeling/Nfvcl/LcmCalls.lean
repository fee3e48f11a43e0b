import Mathlib.Data.List.Basic
import Nfvcl.LcmFrames

namespace Nfvcl
set_option autoImplicit true

/-- The message the worker is busy with. -/
def Phase.message : Phase → Option LcmMessage
  | .running m | .calling m _ | .deletingChildren m _ _ | .deletingResources m | .cleaningUp m _ _ | .removing m
  | .removed m => some m
  | .listening | .closing | .ended => none

def Request.creates : Request → Bool
  | .create _ _ => true
  | _ => false

def Request.deletes : Request → Bool
  | .delete _ _ => true
  | _ => false

/-- What the place of a call says about its request. -/
structure Thread.Shaped (th : Thread) : Prop where
  creates : th.pc = .check ∨ th.pc = .saveNew → th.request.creates = true
  deletes : th.pc = .pop ∨ (∃ w, th.pc = .putStop w) → th.request.deletes = true
  owned : th.owner ≠ none → th.request.waits = true

theorem Thread.shaped_entry {owner : Option BlueId} (hr : owner = none ∨ r.waits = true) :
    Thread.Shaped { request := r, owner := owner, pc := r.entry } := by
  refine ⟨?_, ?_, fun howner => hr.resolve_left howner⟩
  · cases r <;> simp [Request.entry, Request.creates]
  · cases r <;> simp [Request.entry]

namespace Thread.Moves

variable {th : Thread} {s : Lcm}

theorem shaped (h : th.Moves t s next effect) (hth : th.Shaped) : Thread.Shaped { th with pc := next } := by
  refine ⟨?_, ?_, hth.owned⟩
  · intro hpc
    cases h with
    | reserve hpc' hdoc => exact hth.creates (.inl hpc')
    | send hpc' hrequest hm hnext hcaller => rcases hnext with rfl | ⟨rfl, -⟩ <;> simp at hpc
    | _ => simp at hpc
  · intro hpc
    cases h with
    | allow hpc' hrequest hw hflag =>
      change th.request.deletes = true
      rw [hrequest]
      rfl
    | putStop hpc' hwait => exact hth.deletes (.inr ⟨_, hpc'⟩)
    | deleted hpc' hevent hrequest =>
      change th.request.deletes = true
      rw [hrequest]
      rfl
    | send hpc' hrequest hm hnext hcaller => rcases hnext with rfl | ⟨rfl, -⟩ <;> simp at hpc
    | _ => simp at hpc

end Thread.Moves

namespace LcmWorker.Moves

variable {x : LcmWorker}

/-- A worker is busy with the message it was busy with, or takes the first of its queue. -/
theorem message (h : x.Moves threads x' effect) (hm : x'.phase.message = some m) :
    (x.phase.message = some m ∧ x'.phase.destroying = x.phase.destroying) ∨
      (m ∈ x.queue ∧ x'.phase = x.onMessage m) := by
  cases h with
  | take hphase hqueue =>
    rename_i m' later
    right
    have hm' : m' = m := by
      change (x.onMessage m').message = some m at hm
      unfold LcmWorker.onMessage at hm
      split at hm
      · exact Option.some.inj hm
      · exact Option.some.inj hm
    subst hm'
    exact ⟨by rw [hqueue]; exact List.mem_cons_self, rfl⟩
  | childDeleted hphase hthread hpc =>
    rcases deregister_cases _ _ _ _ with h | h
    · rw [h] at hm ⊢
      rw [hphase]
      exact .inl ⟨hm, rfl⟩
    · rw [h] at hm
      cases hm
  | childAbsent hphase hthread hpc =>
    rcases deregister_cases _ _ _ _ with h | h
    · rw [h] at hm ⊢
      rw [hphase]
      exact .inl ⟨hm, rfl⟩
    · rw [h] at hm
      cases hm
  | save hphase => exact .inl ⟨hm, rfl⟩
  | children hphase => exact .inl ⟨hm, rfl⟩
  | crash hlisten hended hcall => cases hm
  | answer hphase => cases hm
  | finish hphase => cases hm
  | childRaises hphase hthread hpc => cases hm
  | stop hphase => cases hm
  | _ => simp_all [Phase.message, Phase.destroying]

/-- The callback of a message is called at the end of its operation, or of `destroy`. -/
theorem answers (h : x.Moves threads x' (.answer m)) : x.phase = .running m ∨ x.phase = .removed m := by
  cases h with
  | answer hphase => exact .inl hphase
  | stop hphase => exact .inr hphase

/-- The last statement of `destroy` is `destroy_ng_blue`. -/
theorem removes (h : x.Moves threads x' effect) (hphase : x'.phase = .removed m) : effect = .destroyNgBlue := by
  cases h with
  | remove hphase => rfl
  | take hlisten hqueue =>
    change x.onMessage _ = .removed m at hphase
    unfold LcmWorker.onMessage at hphase
    split at hphase <;> cases hphase
  | childDeleted hdeleting hthread hpc =>
    rcases deregister_cases _ _ _ _ with h | h <;> rw [h] at hphase <;> cases hphase
  | childAbsent hdeleting hthread hpc =>
    rcases deregister_cases _ _ _ _ with h | h <;> rw [h] at hphase <;> cases hphase
  | save hrunning => rcases hrunning with h | h <;> cases h.symm.trans hphase
  | children hrunning => cases hrunning.symm.trans hphase
  | _ => cases hphase

/-- Workers wait for the calls they make. -/
theorem spawns (h : x.Moves threads x' (.spawn r)) : r.waits = true ∧ x'.phase.waits = some threads.length := by
  cases h with
  | callOut hphase hrequest => exact ⟨hrequest, rfl⟩
  | deleteChild hphase => exact ⟨rfl, rfl⟩
  | cleanChild hphase => exact ⟨rfl, rfl⟩

/-- A worker that waits goes on when the call is over. -/
theorem waits_finished (h : x.Moves threads x' effect) (hwaits : x.phase.waits = some t) :
    ∃ th, threads[t]? = some th ∧ th.pc.Finished := by
  cases h with
  | crash hlisten hended hcall => rw [hcall] at hwaits; cases hwaits
  | save hphase => rcases hphase with h | h <;> rw [h] at hwaits <;> cases hwaits
  | created hphase hthread hpc hrequest => rw [hphase] at hwaits; cases hwaits; exact ⟨_, hthread, .inl hpc⟩
  | deleted hphase hthread hpc hrequest => rw [hphase] at hwaits; cases hwaits; exact ⟨_, hthread, .inl hpc⟩
  | returned hphase hthread hpc hcreate => rw [hphase] at hwaits; cases hwaits; exact ⟨_, hthread, hpc⟩
  | childDeleted hphase hthread hpc => rw [hphase] at hwaits; cases hwaits; exact ⟨_, hthread, .inl hpc⟩
  | childAbsent hphase hthread hpc => rw [hphase] at hwaits; cases hwaits; exact ⟨_, hthread, .inr ⟨_, hpc⟩⟩
  | childRaises hphase hthread hpc => rw [hphase] at hwaits; cases hwaits; exact ⟨_, hthread, hpc⟩
  | childCleaned hphase hthread hpc => rw [hphase] at hwaits; cases hwaits; exact ⟨_, hthread, hpc⟩
  | _ => simp_all [Phase.waits]

end LcmWorker.Moves

/-- The deletion of a child that `destroy` waits for. -/
def Phase.deletion : Phase → Option BlueId
  | .deletingChildren _ (child :: _) (some _) | .cleaningUp _ (child :: _) (some _) => some child
  | _ => none

namespace LcmWorker.Moves

variable {x : LcmWorker}

/-- A worker that waits after a step made its call at this step. -/
theorem waits_spawn (h : x.Moves threads x' effect) (hwaits : x'.phase.waits = some t) :
    t = threads.length ∧ ∃ r, effect = .spawn r ∧
      ((∃ m, x'.phase = .calling m t) ∨ ∃ child, x'.phase.deletion = some child ∧ r = .delete child true) := by
  cases h with
  | callOut hphase hrequest =>
    cases hwaits
    exact ⟨rfl, _, rfl, .inl ⟨_, rfl⟩⟩
  | deleteChild hphase => exact ⟨(Option.some.inj hwaits).symm, _, rfl, .inr ⟨_, rfl, rfl⟩⟩
  | cleanChild hphase => exact ⟨(Option.some.inj hwaits).symm, _, rfl, .inr ⟨_, rfl, rfl⟩⟩
  | take hphase hqueue =>
    change (x.onMessage _).waits = some t at hwaits
    unfold LcmWorker.onMessage at hwaits
    split at hwaits <;> cases hwaits
  | save hphase => rcases hphase with h | h <;> rw [h] at hwaits <;> cases hwaits
  | children hphase =>
    change x.phase.waits = some t at hwaits
    rw [hphase] at hwaits
    cases hwaits
  | childDeleted hphase hthread hpc =>
    rcases deregister_cases _ _ _ _ with h | h <;> rw [h] at hwaits <;> cases hwaits
  | childAbsent hphase hthread hpc =>
    rcases deregister_cases _ _ _ _ with h | h <;> rw [h] at hwaits <;> cases hwaits
  | _ => cases hwaits

end LcmWorker.Moves

namespace Lcm

/-- The call at a position asked the worker of this blueprint for what the message says. -/
def Asked (s : Lcm) (t : Nat) (id : BlueId) (messageType : WorkerMessageType) : Prop :=
  ∃ th, s.threads[t]? = some th ∧ th.request.id = id ∧ (messageType = .stop ↔ th.request.deletes = true)

/-- Callbacks go to the calls that wait for them, and a deletion that was answered is over. -/
structure Answers (s : Lcm) : Prop where
  shaped : ∀ th ∈ s.threads, th.Shaped
  queued : ∀ x ∈ s.workers, ∀ m ∈ x.queue, ∀ t, m.caller = some t → s.Asked t x.id m.messageType
  handled : ∀ x ∈ s.workers, ∀ m, x.phase.message = some m →
    (∀ t, m.caller = some t → s.Asked t x.id m.messageType) ∧ (m.messageType = .stop ↔ x.phase.destroying = true)
  removed : ∀ x ∈ s.workers, ∀ m, x.phase = .removed m → x.id ∈ s.destroyed
  deleted : ∀ th ∈ s.threads, th.request.deletes = true → th.request.waits = true →
    th.event = true ∨ th.pc = .pop ∨ th.pc = .done → th.request.id ∈ s.destroyed
  popped : ∀ th ∈ s.threads, th.owner ≠ none → th.pc = .raised .keyError → th.request.id ∈ s.destroyed

section Answers

variable {s : Lcm} {id : BlueId} {t j : Nat}

theorem Asked.thread (h : s.Asked j id messageType) (ht : s.threads[t]? = some th) :
    (s.afterThread t th next effect).Asked j id messageType := by
  obtain ⟨th', hth', hasked⟩ := h
  by_cases hj : j = t
  · subst hj
    rw [ht] at hth'
    cases hth'
    exact ⟨_, afterThread_self ht, hasked⟩
  · exact ⟨th', (afterThread_other hj).trans hth', hasked⟩

theorem Asked.worker (h : s.Asked j id messageType) : (s.afterWorker w x x' effect).Asked j id messageType := by
  obtain ⟨th, hth, hasked⟩ := h
  obtain ⟨th', hth', hrequest, -⟩ := afterWorker_keeps hth w x x' effect
  refine ⟨th', hth', ?_⟩
  rw [hrequest]
  exact hasked

theorem Answers.spawn (h : s.Answers) (hr : owner = none ∨ r.waits = true) : (s.spawn r owner).Answers := by
  have hth {th : Thread} (hth : th ∈ (s.spawn r owner).threads) :
      th ∈ s.threads ∨ th = { request := r, owner := owner, pc := r.entry } := by
    rcases List.mem_append.1 hth with hold | hnew
    · exact .inl hold
    · exact .inr (List.mem_singleton.1 hnew)
  have hasked {t : Nat} {id : BlueId} {messageType : WorkerMessageType} (ha : s.Asked t id messageType) :
      (s.spawn r owner).Asked t id messageType := by
    obtain ⟨th, hth, hid⟩ := ha
    exact ⟨th, (List.getElem?_append_left (List.getElem?_eq_some_iff.1 hth).1).trans hth, hid⟩
  constructor
  · intro th hmem
    rcases hth hmem with hold | rfl
    · exact h.shaped th hold
    · exact Thread.shaped_entry hr
  · exact fun x hx m hm t ht => hasked (h.queued x hx m hm t ht)
  · exact fun x hx m hm => ⟨fun t ht => hasked ((h.handled x hx m hm).1 t ht), (h.handled x hx m hm).2⟩
  · exact h.removed
  · intro th hmem hdeletes hwaits hover
    rcases hth hmem with hold | rfl
    · exact h.deleted th hold hdeletes hwaits hover
    · cases r <;> simp [Request.entry] at hover
  · intro th hmem howner hpc
    rcases hth hmem with hold | rfl
    · exact h.popped th hold howner hpc
    · cases r <;> cases hpc

/-- A call puts the message its worker answers to it. -/
theorem asked_of_put (h : s.Answers) (hl : s.Linked) {th : Thread} (ht : s.threads[t]? = some th)
    (hmoves : th.Moves t s next (.put w m)) (hx : s.workers[w]? = some x) (hm : m.caller = some j) :
    s.Asked j x.id m.messageType := by
  have hid (hw : th.pc.worker? = some w) : th.request.id = x.id := by
    obtain ⟨y, hy, hyid⟩ := hl.held th (List.mem_of_getElem? ht) w hw
    rw [hx] at hy
    cases hy
    exact hyid.symm
  cases hmoves with
  | send hpc hrequest hstop hnext hcaller =>
    rcases hcaller with hcaller | hcaller
    · cases hcaller.symm.trans hm
    · cases hcaller.symm.trans hm
      refine ⟨th, ht, hid (by rw [hpc]; rfl), ?_⟩
      rcases hrequest with hr | hr <;> simp [hr, Request.deletes, hstop]
  | putStop hpc hwait => cases hm
  | putStopSync hpc hwait =>
    cases hm
    exact ⟨th, ht, hid (by rw [hpc]; rfl), by simp [(h.shaped th (List.mem_of_getElem? ht)).deletes (.inr ⟨_, hpc⟩)]⟩

/-- A deletion goes past its event when it was answered. -/
theorem Answers.over (h : s.Answers) {th : Thread} (hth : th ∈ s.threads) (hmoves : th.Moves t s next effect)
    (hdeletes : th.request.deletes = true) (hwaits : th.request.waits = true)
    (hover : th.event = true ∨ next = .pop ∨ next = .done) : th.request.id ∈ s.destroyed := by
  rcases hover with hevent | hnext
  · exact h.deleted th hth hdeletes hwaits (.inl hevent)
  · cases hmoves with
    | putStop hpc hwait => exact absurd (hwait.symm.trans hwaits) Bool.false_ne_true
    | deleted hpc hevent hrequest => exact h.deleted th hth hdeletes hwaits (.inl hevent)
    | pop hpc hentry => exact h.deleted th hth hdeletes hwaits (.inr (.inl hpc))
    | send hpc hrequest hm hnext' hcaller => rcases hrequest with hr | hr <;> rw [hr] at hdeletes <;> cases hdeletes
    | saveFlag hpc hrequest => rw [hrequest] at hdeletes; cases hdeletes
    | answered hpc hevent hrequest =>
      unfold Request.deletes at hdeletes
      split at hdeletes
      next id wait hr => exact absurd hr (hrequest id wait)
      · cases hdeletes
    | _ => simp at hnext

theorem Answers.thread (h : s.Answers) (hl : s.Linked) {th : Thread} (ht : s.threads[t]? = some th)
    (hmoves : th.Moves t s next effect)
    (hfound : th.pc = .fetch → th.owner ≠ none → s.workerCollection th.request.id ≠ none) :
    (s.afterThread t th next effect).Answers := by
  have hth := List.mem_of_getElem? ht
  have hshaped := h.shaped th hth
  constructor
  · intro th' hth'
    rcases afterThread_mem ht hth' with hold | rfl
    · exact h.shaped th' hold
    · exact hmoves.shaped hshaped
  · intro y hy m hm j hj
    apply Asked.thread _ ht
    obtain ⟨i, hi⟩ := List.mem_iff_getElem?.1 hy
    rcases s.applyThread_worker hi with hold | ⟨x, m', rfl, hx, rfl⟩ | ⟨x, value, -, hx, rfl⟩ | ⟨b, -, -, rfl⟩
    · exact h.queued y (List.mem_of_getElem? hold) m hm j hj
    · rcases List.mem_append.1 hm with hold | hnew
      · exact h.queued x (List.mem_of_getElem? hx) m hold j hj
      · rw [List.mem_singleton.1 hnew] at hj ⊢
        have hasked := asked_of_put h hl ht hmoves hx hj
        exact hasked
    · exact h.queued x (List.mem_of_getElem? hx) m hm j hj
    · cases hm
  · intro y hy m hm
    rcases afterThread_worker hmoves hy with ⟨x, hx, hlike⟩ | ⟨b, -, rfl⟩
    · rw [hlike.phase] at hm ⊢
      rw [hlike.id]
      exact ⟨fun j hj => ((h.handled x hx m hm).1 j hj).thread ht, (h.handled x hx m hm).2⟩
    · cases hm
  · intro y hy m hm
    rw [afterThread_destroyed]
    rcases afterThread_worker hmoves hy with ⟨x, hx, hlike⟩ | ⟨b, -, rfl⟩
    · rw [hlike.id]
      exact h.removed x hx m (hlike.phase ▸ hm)
    · cases hm
  · intro th' hth' hdeletes hwaits hover
    rw [afterThread_destroyed]
    rcases afterThread_mem ht hth' with hold | rfl
    · exact h.deleted th' hold hdeletes hwaits hover
    · have hdestroyed := h.over hth hmoves hdeletes hwaits hover
      exact hdestroyed
  · intro th' hth' howner hpc
    rw [afterThread_destroyed]
    rcases afterThread_mem ht hth' with hold | rfl
    · exact h.popped th' hold howner hpc
    · simp only at hpc
      subst hpc
      cases hmoves with
      | popped hpc hentry => exact absurd hentry (hfound hpc howner)
      | popAgain hpc hentry =>
        exact h.deleted th hth (hshaped.deletes (.inl hpc)) (hshaped.owned howner) (.inr (.inl hpc))
      | send hpc hrequest hm hnext hcaller => rcases hnext with hnext | ⟨hnext, -⟩ <;> cases hnext

/-- The callback of a deletion is called when its blueprint is destroyed. -/
theorem Answers.answered (h : s.Answers) {x : LcmWorker} (hx : x ∈ s.workers) (hmoves : x.Moves s.threads x' (.answer m))
    (hcaller : m.caller = some j) {th : Thread} (hth : s.threads[j]? = some th) (hdeletes : th.request.deletes = true) :
    th.request.id ∈ s.destroyed := by
  have hasked (hm : x.phase.message = some m) : th.request.id = x.id ∧ m.messageType = .stop := by
    obtain ⟨th', hth', hid, hstop⟩ := (h.handled x hx m hm).1 j hcaller
    rw [hth] at hth'
    cases hth'
    exact ⟨hid, hstop.2 hdeletes⟩
  rcases hmoves.answers with hphase | hphase
  · have hm : x.phase.message = some m := by rw [hphase]; rfl
    have hdestroying := (h.handled x hx m hm).2.1 (hasked hm).2
    rw [hphase] at hdestroying
    cases hdestroying
  · have hm : x.phase.message = some m := by rw [hphase]; rfl
    rw [(hasked hm).1]
    exact h.removed x hx m hphase

theorem Answers.worker (h : s.Answers) {x : LcmWorker} (hx : s.workers[w]? = some x) (hmoves : x.Moves s.threads x' effect) :
    (s.afterWorker w x x' effect).Answers := by
  have hmem := List.mem_of_getElem? hx
  have hwrites := afterWorker_writes (w := w) hmem hmoves
  constructor
  · intro th' hth'
    obtain ⟨j, hj⟩ := List.mem_iff_getElem?.1 hth'
    rcases afterWorker_thread hj with ⟨th, hth, rfl | ⟨rfl, -⟩⟩ | ⟨r, rfl, -, rfl⟩
    · exact h.shaped th' (List.mem_of_getElem? hth)
    · obtain ⟨hcreates, hdeletes, howned⟩ := h.shaped th (List.mem_of_getElem? hth)
      exact ⟨hcreates, hdeletes, howned⟩
    · exact Thread.shaped_entry (.inr hmoves.spawns.1)
  · intro y hy m hm j hj
    apply Asked.worker
    rcases afterWorker_mem hy with hold | rfl
    · exact h.queued y hold m hm j hj
    · rw [hmoves.id_eq]
      exact h.queued x hmem m (hmoves.queue_subset m hm) j hj
  · intro y hy m hm
    rcases afterWorker_mem hy with hold | rfl
    · exact ⟨fun j hj => ((h.handled y hold m hm).1 j hj).worker, (h.handled y hold m hm).2⟩
    · rw [hmoves.id_eq]
      rcases hmoves.message hm with ⟨hold, hdestroying⟩ | ⟨hqueue, hphase⟩
      · rw [hdestroying]
        exact ⟨fun j hj => ((h.handled x hmem m hold).1 j hj).worker, (h.handled x hmem m hold).2⟩
      · refine ⟨fun j hj => (h.queued x hmem m hqueue j hj).worker, ?_⟩
        rw [hphase]
        unfold LcmWorker.onMessage
        split
        next hstop => exact iff_of_true hstop rfl
        next hstop => exact iff_of_false hstop (by nofun)
  · intro y hy m hm
    rcases afterWorker_mem hy with hold | rfl
    · exact hwrites.destroyed_of_mem (h.removed y hold m hm)
    · cases hmoves.removes hm
      rw [hmoves.id_eq]
      exact List.mem_cons_self
  · intro th' hth' hdeletes hwaits hover
    obtain ⟨j, hj⟩ := List.mem_iff_getElem?.1 hth'
    rcases afterWorker_thread hj with ⟨th, hth, rfl | ⟨rfl, m, rfl, hcaller⟩⟩ | ⟨r, -, -, rfl⟩
    · exact hwrites.destroyed_of_mem (h.deleted th' (List.mem_of_getElem? hth) hdeletes hwaits hover)
    · have hdestroyed := h.answered hmem hmoves hcaller hth hdeletes
      exact hwrites.destroyed_of_mem hdestroyed
    · cases r <;> simp [Request.entry] at hover
  · intro th' hth' howner hpc
    obtain ⟨j, hj⟩ := List.mem_iff_getElem?.1 hth'
    rcases afterWorker_thread hj with ⟨th, hth, rfl | ⟨rfl, -⟩⟩ | ⟨r, -, -, rfl⟩
    · exact hwrites.destroyed_of_mem (h.popped th' (List.mem_of_getElem? hth) howner hpc)
    · have hdestroyed := h.popped th (List.mem_of_getElem? hth) howner hpc
      exact hwrites.destroyed_of_mem hdestroyed
    · cases r <;> cases hpc

end Answers

/-- Every call a worker made is over, or the worker waits for it. -/
structure Waits (s : Lcm) : Prop where
  awaited : ∀ (t : Nat) th q, s.threads[t]? = some th → th.owner = some q →
    th.pc.Finished ∨ ∃ x ∈ s.workers, x.id = q ∧ x.phase.waits = some t
  waiting : ∀ x ∈ s.workers, ∀ t, x.phase.waits = some t → ∃ th, s.threads[t]? = some th ∧ th.owner = some x.id ∧
    ((∃ m, x.phase = .calling m t) ∨ ∃ child, x.phase.deletion = some child ∧ th.request = .delete child true)

namespace Waits

variable {s : Lcm} {t : Nat}

theorem spawn (h : s.Waits) : (s.spawn r none).Waits := by
  constructor
  · intro j th q hj howner
    rcases Nat.lt_trichotomy j s.threads.length with hlt | heq | hgt
    · exact h.awaited j th q ((List.getElem?_append_left hlt).symm.trans hj) howner
    · subst heq
      cases List.getElem?_concat_length.symm.trans hj
      cases howner
    · have hnone : (s.threads ++ [{ request := r, owner := none, pc := r.entry }])[j]? = none :=
        List.getElem?_eq_none (by rw [List.length_append, List.length_singleton]; omega)
      cases hnone.symm.trans hj
  · intro x hx t ht
    obtain ⟨th, hth, hcall⟩ := h.waiting x hx t ht
    exact ⟨th, (List.getElem?_append_left (List.getElem?_eq_some_iff.1 hth).1).trans hth, hcall⟩

theorem thread (h : s.Waits) {th : Thread} (ht : s.threads[t]? = some th) (hmoves : th.Moves t s next effect) :
    (s.afterThread t th next effect).Waits := by
  have hkept {j : Nat} {q : BlueId} (hx : ∃ x ∈ s.workers, x.id = q ∧ x.phase.waits = some j) :
      ∃ x ∈ (s.afterThread t th next effect).workers, x.id = q ∧ x.phase.waits = some j := by
    obtain ⟨x, hx, hid, hwaits⟩ := hx
    obtain ⟨y, hy, hlike⟩ := afterThread_keeps hx t th next effect
    exact ⟨y, hy, hlike.id.trans hid, hlike.phase ▸ hwaits⟩
  constructor
  · intro j th' q hj howner
    rcases afterThread_thread ht hj with ⟨-, hold⟩ | ⟨rfl, rfl⟩
    · exact (h.awaited j th' q hold howner).imp_right hkept
    · right
      apply hkept
      exact (h.awaited j th q ht howner).resolve_left hmoves.unfinished
  · intro y hy j hj
    rcases afterThread_worker hmoves hy with ⟨x, hx, hlike⟩ | ⟨b, -, rfl⟩
    · rw [hlike.phase] at hj
      obtain ⟨th', hth', hcall⟩ := h.waiting x hx j hj
      rw [hlike.id, hlike.phase]
      by_cases hjt : j = t
      · subst hjt
        rw [ht] at hth'
        cases hth'
        exact ⟨_, afterThread_self ht, hcall⟩
      · exact ⟨th', (afterThread_other hjt).trans hth', hcall⟩
    · cases hj

theorem worker (h : s.Waits) {x : LcmWorker} (hx : s.workers[w]? = some x) (hmoves : x.Moves s.threads x' effect) :
    (s.afterWorker w x x' effect).Waits := by
  constructor
  · intro j th' q hj howner
    have hkept {th : Thread} (hth : s.threads[j]? = some th) (howner : th.owner = some q) :
        th.pc.Finished ∨ ∃ y ∈ (s.afterWorker w x x' effect).workers, y.id = q ∧ y.phase.waits = some j := by
      rcases h.awaited j th q hth howner with hfinished | ⟨y, hy, hid, hwaits⟩
      · exact .inl hfinished
      · rcases afterWorker_other hx hy with rfl | hy'
        · left
          obtain ⟨th', hth', hfinished⟩ := hmoves.waits_finished hwaits
          rw [hth] at hth'
          cases hth'
          exact hfinished
        · exact .inr ⟨y, hy', hid, hwaits⟩
    rcases afterWorker_thread hj with ⟨th, hth, rfl | ⟨rfl, -⟩⟩ | ⟨r, rfl, rfl, rfl⟩
    · exact hkept hth howner
    · have hcall := hkept hth howner
      exact hcall
    · right
      cases howner
      exact ⟨x', afterWorker_self hx, hmoves.id_eq, hmoves.spawns.2⟩
  · intro y hy j hj
    rcases afterWorker_mem hy with hold | rfl
    · obtain ⟨th, hth, howner, hrequest⟩ := h.waiting y hold j hj
      obtain ⟨th', hth', hrequest', howner', -⟩ := afterWorker_keeps hth w x x' effect
      refine ⟨th', hth', howner'.trans howner, ?_⟩
      rw [hrequest']
      exact hrequest
    · obtain ⟨rfl, r, rfl, hdeletion⟩ := hmoves.waits_spawn hj
      rw [hmoves.id_eq]
      exact ⟨_, List.getElem?_concat_length, rfl, hdeletion⟩

end Waits

end Lcm

end Nfvcl
