import Mathlib.Data.List.Basic
import Nfvcl.BlueprintManager

namespace Nfvcl
set_option autoImplicit true

/-- Every way a call of the manager goes on. -/
inductive Thread.Moves (th : Thread) (t : Nat) (s : Lcm) : Pc → ThreadEffect → Prop
  | reserve (hpc : th.pc = .check) (hdoc : s.docs.get th.request.id = none) : Moves th t s .saveNew .quiet
  | refuse (hpc : th.pc = .check) (hdoc : s.docs.get th.request.id = some b) :
      Moves th t s (.raised .blueprintAlreadyExisting) .quiet
  | saveNew (hpc : th.pc = .saveNew) (hb : b = { parentBlueId := th.owner }) : Moves th t s (.start b) (.save b)
  | miss (hpc : th.pc = .test) (hentry : s.workerCollection th.request.id = none) : Moves th t s .load .quiet
  | hit (hpc : th.pc = .test) (hentry : s.workerCollection th.request.id = some w) : Moves th t s .fetch .quiet
  | fetch (hpc : th.pc = .fetch) (hentry : s.workerCollection th.request.id = some w) : Moves th t s (.use w) .quiet
  | popped (hpc : th.pc = .fetch) (hentry : s.workerCollection th.request.id = none) :
      Moves th t s (.raised .keyError) .quiet
  | load (hpc : th.pc = .load) (hdoc : s.docs.get th.request.id = some b) : Moves th t s (.start b) .quiet
  | absent (hpc : th.pc = .load) (hdoc : s.docs.get th.request.id = none) :
      Moves th t s (.raised .blueprintNotFound) .quiet
  | start (hpc : th.pc = .start b) : Moves th t s (.insert s.workers.length) (.addWorker b)
  | insert (hpc : th.pc = .insert w) : Moves th t s (.use w) (.setEntry (some w))
  | send (hpc : th.pc = .use w)
      (hrequest : th.request = .create blueId wait ∨ th.request = .call blueId wait) (hm : m.messageType ≠ .stop)
      (hnext : next = .done ∨ (next = .await ∧ m.caller = some t)) (hcaller : m.caller = none ∨ m.caller = some t) :
      Moves th t s next (.put w m)
  | setFlag (hpc : th.pc = .use w) (hrequest : th.request = .protect blueId value) :
      Moves th t s (.saveFlag w) (.setFlag w value)
  | forbid (hpc : th.pc = .use w) (hrequest : th.request = .delete blueId wait) (hw : s.workers[w]? = some x)
      (hflag : x.blueprint.isProtected = true) : Moves th t s (.raised .blueprintProtected) .quiet
  | allow (hpc : th.pc = .use w) (hrequest : th.request = .delete blueId wait) (hw : s.workers[w]? = some x)
      (hflag : x.blueprint.isProtected = false) : Moves th t s (.putStop w) .quiet
  | putStop (hpc : th.pc = .putStop w) (hwait : th.request.waits = false) : Moves th t s .pop (.put w ⟨.stop, none⟩)
  | putStopSync (hpc : th.pc = .putStop w) (hwait : th.request.waits = true) :
      Moves th t s .await (.put w ⟨.stop, some t⟩)
  | saveFlag (hpc : th.pc = .saveFlag w) (hrequest : th.request = .protect blueId value) :
      Moves th t s .done (.saveFlag w value)
  | deleted (hpc : th.pc = .await) (hevent : th.event = true) (hrequest : th.request = .delete blueId wait) :
      Moves th t s .pop .quiet
  | answered (hpc : th.pc = .await) (hevent : th.event = true) (hrequest : ∀ id wait, th.request ≠ .delete id wait) :
      Moves th t s .done .quiet
  | pop (hpc : th.pc = .pop) (hentry : s.workerCollection th.request.id = some w) : Moves th t s .done (.setEntry none)
  | popAgain (hpc : th.pc = .pop) (hentry : s.workerCollection th.request.id = none) :
      Moves th t s (.raised .keyError) .quiet

theorem Thread.send_moves {th : Thread} {s : Lcm} (hpc : th.pc = .use w)
    (hrequest : th.request = .create blueId wait ∨ th.request = .call blueId wait) (hm : messageType ≠ .stop)
    (h : th.send t w messageType .done = (next, effect)) : th.Moves t s next effect := by
  unfold Thread.send at h
  split at h
  · cases h; exact .send hpc hrequest hm (.inr ⟨rfl, rfl⟩) (.inr rfl)
  · cases h; exact .send hpc hrequest hm (.inl rfl) (.inl rfl)

theorem Thread.useWorker_moves {th : Thread} {s : Lcm} (hpc : th.pc = .use w)
    (h : th.useWorker t s w = some (next, effect)) : th.Moves t s next effect := by
  unfold Thread.useWorker at h
  split at h
  next hr => exact Thread.send_moves hpc (.inl hr) (by decide) (Option.some.inj h)
  next hr => exact Thread.send_moves hpc (.inr hr) (by decide) (Option.some.inj h)
  next hr =>
    cases h
    exact .setFlag hpc hr
  next hr =>
    split at h
    · cases h
    next hw =>
      cases h
      split
      next hflag => exact .forbid hpc hr hw hflag
      next hflag => exact .allow hpc hr hw (Bool.eq_false_iff.2 hflag)

theorem Thread.act_moves {th : Thread} {s : Lcm} (h : th.act t s = some (next, effect)) : th.Moves t s next effect := by
  unfold Thread.act at h
  split at h
  next hpc =>
    split at h
    next hdoc => cases h; exact .reserve hpc hdoc
    next hdoc => cases h; exact .refuse hpc hdoc
  next hpc => cases h; exact .saveNew hpc rfl
  next hpc =>
    split at h
    next hentry => cases h; exact .miss hpc hentry
    next hentry => cases h; exact .hit hpc hentry
  next hpc =>
    split at h
    next hentry => cases h; exact .popped hpc hentry
    next hentry => cases h; exact .fetch hpc hentry
  next hpc =>
    split at h
    next hdoc => cases h; exact .absent hpc hdoc
    next hdoc => cases h; exact .load hpc hdoc
  next hpc => cases h; exact .start hpc
  next hpc => cases h; exact .insert hpc
  next hpc => exact Thread.useWorker_moves hpc h
  next hpc =>
    unfold Thread.send at h
    split at h
    next hwait => cases h; exact .putStopSync hpc hwait
    next hwait => cases h; exact .putStop hpc (Bool.eq_false_iff.2 hwait)
  next hpc =>
    split at h
    next hr => cases h; exact .saveFlag hpc hr
    · cases h
  next hpc =>
    split at h
    · cases h
    next hevent hr => cases h; exact .deleted hpc hevent hr
    next hevent hr => cases h; exact .answered hpc hevent hr
  next hpc =>
    split at h
    next hentry => cases h; exact .popAgain hpc hentry
    next hentry => cases h; exact .pop hpc hentry
  · cases h
  · cases h

/-- The phases in which `destroy` was started and has not ended. -/
def Phase.destroying : Phase → Bool
  | .deletingChildren _ _ _ | .deletingResources _ | .cleaningUp _ _ _ | .removing _ | .removed _ => true
  | _ => false

/-- The call the thread of a worker waits for. -/
def Phase.waits : Phase → Option Nat
  | .calling _ t => some t
  | .deletingChildren _ _ t | .cleaningUp _ _ t => t
  | _ => none

/-- The call has returned or raised. -/
def Pc.Finished (pc : Pc) : Prop := pc = .done ∨ ∃ e, pc = .raised e

/-- Every way a worker goes on. -/
inductive LcmWorker.Moves (x : LcmWorker) (threads : List Thread) : LcmWorker → WorkerEffect → Prop
  | take (hphase : x.phase = .listening) (hqueue : x.queue = m :: later) :
      Moves x threads { x with queue := later, phase := x.onMessage m } .quiet
  | save (hphase : x.phase = .running m ∨ x.phase = .deletingResources m) : Moves x threads x (.save x.blueprint)
  | answer (hphase : x.phase = .running m) : Moves x threads { x with phase := .closing } (.answer m)
  | finish (hphase : x.phase = .closing) : Moves x threads { x with phase := .listening } (.save x.blueprint)
  | crash (hlisten : x.phase ≠ .listening) (hended : x.phase ≠ .ended) (hcall : x.phase.waits = none) :
      Moves x threads { x with phase := .ended } .quiet
  | callOut (hphase : x.phase = .running m) (hrequest : request.waits = true) :
      Moves x threads { x with phase := .calling m threads.length } (.spawn request)
  | children (hphase : x.phase = .running m) : Moves x threads (x.withChildren ids) .quiet
  | created (hphase : x.phase = .calling m t) (hthread : threads[t]? = some th) (hpc : th.pc = .done)
      (hrequest : th.request = .create child wait) :
      Moves x threads { x.withDeployed (x.blueprint.deployedBlueprints ++ [child]) with phase := .running m }
        (.save (x.withDeployed (x.blueprint.deployedBlueprints ++ [child])).blueprint)
  | deleted (hphase : x.phase = .calling m t) (hthread : threads[t]? = some th) (hpc : th.pc = .done)
      (hrequest : th.request = .delete child wait) :
      Moves x threads { x.withDeployed (x.blueprint.deployedBlueprints.erase child) with phase := .running m }
        (.save (x.withDeployed (x.blueprint.deployedBlueprints.erase child)).blueprint)
  | returned (hphase : x.phase = .calling m t) (hthread : threads[t]? = some th) (hpc : th.pc.Finished)
      (hcreate : ∀ child wait, th.request = .create child wait → th.pc ≠ .done) :
      Moves x threads { x with phase := .running m } .quiet
  | resources (hphase : x.phase = .deletingChildren m [] none) :
      Moves x threads { x with phase := .deletingResources m } .quiet
  | deleteChild (hphase : x.phase = .deletingChildren m (child :: rest) none) :
      Moves x threads { x with phase := .deletingChildren m (child :: rest) (some threads.length) }
        (.spawn (.delete child true))
  | childDeleted (hphase : x.phase = .deletingChildren m (child :: rest) (some t)) (hthread : threads[t]? = some th)
      (hpc : th.pc = .done) :
      Moves x threads ((x.withDeployed (x.blueprint.deployedBlueprints.erase child)).deregister m child rest)
        (.save (x.withDeployed (x.blueprint.deployedBlueprints.erase child)).blueprint)
  | childAbsent (hphase : x.phase = .deletingChildren m (child :: rest) (some t)) (hthread : threads[t]? = some th)
      (hpc : th.pc = .raised .blueprintNotFound) : Moves x threads (x.deregister m child rest) .quiet
  | childRaises (hphase : x.phase = .deletingChildren m (child :: rest) (some t)) (hthread : threads[t]? = some th)
      (hpc : th.pc.Finished) :
      Moves x threads { x with phase := .ended } .quiet
  | cleanup (hphase : x.phase = .deletingResources m) :
      Moves x threads { x with phase := .cleaningUp m x.blueprint.deployedBlueprints none } .quiet
  | cleanChild (hphase : x.phase = .cleaningUp m (child :: rest) none) :
      Moves x threads { x with phase := .cleaningUp m (child :: rest) (some threads.length) } (.spawn (.delete child true))
  | childCleaned (hphase : x.phase = .cleaningUp m (child :: rest) (some t)) (hthread : threads[t]? = some th)
      (hpc : th.pc.Finished) : Moves x threads { x with phase := .cleaningUp m rest none } .quiet
  | clear (hphase : x.phase = .cleaningUp m [] none) :
      Moves x threads { x.withDeployed [] with phase := .removing m } (.save (x.withDeployed []).blueprint)
  | remove (hphase : x.phase = .removing m) : Moves x threads { x with phase := .removed m } .destroyNgBlue
  | stop (hphase : x.phase = .removed m) : Moves x threads { x with phase := .ended } (.answer m)

theorem LcmWorker.resumeOperation_moves {x : LcmWorker} (hphase : x.phase = .calling m t) (hthread : threads[t]? = some th)
    (h : x.resumeOperation m th = some (x', effect)) : x.Moves threads x' effect := by
  unfold LcmWorker.resumeOperation at h
  split at h
  next hpc hr => cases h; exact .created hphase hthread hpc hr
  next hpc hr =>
    split at h
    · cases h; exact .deleted hphase hthread hpc hr
    · cases h; exact .returned hphase hthread (.inl hpc) (by rw [hr]; nofun)
  next hpc hcreate _ => cases h; exact .returned hphase hthread (.inl hpc) (fun child wait hr _ => hcreate child wait hr)
  next hpc => cases h; exact .returned hphase hthread (.inr ⟨_, hpc⟩) (by rw [hpc]; nofun)
  · cases h

theorem LcmWorker.resumeDestroy_moves {x : LcmWorker} (hphase : x.phase = .deletingChildren m (child :: rest) (some t))
    (hthread : threads[t]? = some th) (h : x.resumeDestroy m child rest th = some (x', effect)) :
    x.Moves threads x' effect := by
  unfold LcmWorker.resumeDestroy at h
  split at h
  next hpc =>
    split at h
    · cases h; exact .childDeleted hphase hthread hpc
    · cases h; exact .childRaises hphase hthread (.inl hpc)
  next hpc => cases h; exact .childAbsent hphase hthread hpc
  next hpc => cases h; exact .childRaises hphase hthread (.inr ⟨_, hpc⟩)
  · cases h

theorem LcmWorker.resume_moves {x : LcmWorker} (h : x.resume threads = some (x', effect)) : x.Moves threads x' effect := by
  unfold LcmWorker.resume at h
  split at h
  next hphase =>
    obtain ⟨th, hthread, h⟩ := Option.bind_eq_some_iff.1 h
    exact LcmWorker.resumeOperation_moves hphase hthread h
  next hphase =>
    obtain ⟨th, hthread, h⟩ := Option.bind_eq_some_iff.1 h
    exact LcmWorker.resumeDestroy_moves hphase hthread h
  next hphase =>
    obtain ⟨th, hthread, h⟩ := Option.bind_eq_some_iff.1 h
    unfold LcmWorker.resumeCleanup at h
    split at h
    next hpc => cases h; exact .childCleaned hphase hthread (.inl hpc)
    next hpc => cases h; exact .childCleaned hphase hthread (.inr ⟨_, hpc⟩)
    · cases h
  · cases h

theorem LcmWorker.next_moves {x : LcmWorker} (h : x.next threads = some (x', effect)) : x.Moves threads x' effect := by
  unfold LcmWorker.next at h
  split at h
  next hphase => cases h; exact .resources hphase
  next hphase => cases h; exact .deleteChild hphase
  next hphase => cases h; exact .cleanup hphase
  next hphase => cases h; exact .cleanChild hphase
  next hphase => cases h; exact .clear hphase
  next hphase => cases h; exact .remove hphase
  next hphase => cases h; exact .stop hphase
  · cases h

theorem LcmWorker.crash_moves {x : LcmWorker} (h : x.crash = some (x', effect)) : x.Moves threads x' effect := by
  unfold LcmWorker.crash at h
  split at h
  all_goals first
    | cases h; done
    | cases h
      rename_i hphase
      apply LcmWorker.Moves.crash
      · rw [hphase]; nofun
      · rw [hphase]; nofun
      · rw [hphase]; rfl

theorem LcmWorker.callOut_moves {x : LcmWorker} (hrequest : request.waits = true)
    (h : x.callOut threads request = some (x', effect)) : x.Moves threads x' effect := by
  unfold LcmWorker.callOut at h
  split at h
  next hphase => cases h; exact .callOut hphase hrequest
  · cases h

theorem LcmWorker.act_moves {x : LcmWorker} (h : x.act threads action = some (x', effect)) : x.Moves threads x' effect := by
  cases action with
  | take =>
    simp only [LcmWorker.act] at h
    split at h
    next hphase hqueue => cases h; exact .take hphase hqueue
    · cases h
  | save =>
    simp only [LcmWorker.act] at h
    split at h
    next m hphase => cases h; exact .save (m := m) (.inl hphase)
    next m hphase => cases h; exact .save (m := m) (.inr hphase)
    · cases h
  | answer =>
    simp only [LcmWorker.act] at h
    split at h
    next hphase => cases h; exact .answer hphase
    · cases h
  | finish =>
    simp only [LcmWorker.act] at h
    split at h
    next hphase => cases h; exact .finish hphase
    · cases h
  | crash => exact LcmWorker.crash_moves h
  | createChild id =>
    exact LcmWorker.callOut_moves rfl h
  | deleteChild id =>
    exact LcmWorker.callOut_moves rfl h
  | callChild id =>
    exact LcmWorker.callOut_moves rfl h
  | registerChildren id =>
    simp only [LcmWorker.act] at h
    split at h
    next hphase =>
      split at h
      · cases h
      · cases h; exact .children hphase
    · cases h
  | deregisterChildren id =>
    simp only [LcmWorker.act] at h
    split at h
    next hphase => cases h; exact .children hphase
    · cases h
  | resume => exact LcmWorker.resume_moves h
  | next => exact LcmWorker.next_moves h

/-- A step changes nothing, or is a request, a move of a thread or a move of a worker. -/
theorem Lcm.step_rule {P : Lcm → Prop} (e : LcmStep) (s : Lcm) (hsame : P s)
    (hrequest : ∀ r, e = .request r → P (s.spawn r none))
    (hthread : ∀ t th next effect, e = .thread t → s.threads[t]? = some th → th.Moves t s next effect →
      P ((s.applyThread th.request.id effect).setThread t { th with pc := next }))
    (hwork : ∀ w x action x' effect, e = .work w action → s.workers[w]? = some x →
      x.act s.threads action = some (x', effect) → x.Moves s.threads x' effect →
      P ((s.applyWorker x.id effect).setWorker w x')) : P (s.step e) := by
  unfold Lcm.step
  split
  next r => exact hrequest r rfl
  next t =>
    split
    · exact hsame
    next th ht =>
      split
      · exact hsame
      next hact => exact hthread t th _ _ rfl ht (Thread.act_moves hact)
  next w action =>
    split
    · exact hsame
    next x hx =>
      split
      · exact hsame
      next hact => exact hwork w x action _ _ rfl hx hact (LcmWorker.act_moves hact)

end Nfvcl
