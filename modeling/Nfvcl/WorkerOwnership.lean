import Mathlib.Data.List.Basic
import Nfvcl.Runs
import Nfvcl.LcmClaims

namespace Nfvcl
set_option autoImplicit true
open Runs

/-- A call that goes on to start a worker finds nobody acting on the blueprint: no worker whose
loop runs, no other call between the document and the start. -/
def Thread.Alone (th : Thread) (s : Lcm) : Prop :=
  match th.pc with
  | .check => s.docs.get th.request.id = none → s.claims th.request.id = 0
  | .load => s.docs.get th.request.id ≠ none → s.claims th.request.id = 0
  | _ => True

instance (th : Thread) (s : Lcm) : Decidable (th.Alone s) :=
  match h : th.pc with
  | .check => decidable_of_iff (s.docs.get th.request.id = none → s.claims th.request.id = 0) (by simp only [Thread.Alone, h])
  | .load => decidable_of_iff (s.docs.get th.request.id ≠ none → s.claims th.request.id = 0) (by simp only [Thread.Alone, h])
  | .saveNew | .test | .fetch | .start _ | .insert _ | .use _ | .putStop _ | .saveFlag _ | .await | .pop | .done
  | .raised _ => isTrue (by simp only [Thread.Alone, h])

/-- The worker gets to messages that are put now. -/
def LcmWorker.Accepts (x : LcmWorker) : Prop :=
  x.phase ≠ .ended ∧ x.phase.destroying = false ∧ ∀ m ∈ x.queue, m.messageType ≠ .stop

instance (x : LcmWorker) : Decidable x.Accepts :=
  inferInstanceAs (Decidable (x.phase ≠ .ended ∧ x.phase.destroying = false ∧ ∀ m ∈ x.queue, m.messageType ≠ .stop))

/-- The worker a statement puts a message for. -/
def Thread.puts (th : Thread) : Option Nat :=
  match th.pc, th.request with
  | .use w, .create _ _ | .use w, .call _ _ => some w
  | .putStop w, _ => some w
  | _, _ => none

namespace Lcm

/-- No two calls and workers get in each other's way at this step. -/
def InTurn (e : LcmStep) (s : Lcm) : Prop :=
  match e with
  | .request _ => True
  | .thread t => ∀ th ∈ s.threads[t]?, th.Alone s ∧ ∀ w ∈ th.puts, ∀ x ∈ s.workers[w]?, x.Accepts
  | .work w action =>
    ∀ x ∈ s.workers[w]?, ∀ y ∈ x.act s.threads action, y.1.phase = .ended → x.phase.destroying = true ∨ x.queue = []

instance (e : LcmStep) (s : Lcm) : Decidable (InTurn e s) :=
  match e with
  | .request _ => isTrue trivial
  | .thread t =>
    inferInstanceAs (Decidable (∀ th ∈ s.threads[t]?, th.Alone s ∧ ∀ w ∈ th.puts, ∀ x ∈ s.workers[w]?, x.Accepts))
  | .work w action =>
    inferInstanceAs (Decidable (∀ x ∈ s.workers[w]?, ∀ y ∈ x.act s.threads action, y.1.phase = .ended →
      x.phase.destroying = true ∨ x.queue = []))

/-- One worker acts on a blueprint at a time, calls hold workers of their blueprint, and the
worker in whose queue a message is gets to it. -/
structure Owned (s : Lcm) : Prop where
  single : ∀ (i j : Nat) (x y : LcmWorker), s.workers[i]? = some x → s.workers[j]? = some y → x.id = y.id →
    x.phase ≠ .ended → y.phase ≠ .ended → i = j
  addressed : ∀ th ∈ s.threads, ∀ w, th.pc.worker? = some w → s.HasWorker w th.request.id
  served : ∀ x ∈ s.workers, ∀ before m after, x.queue = before ++ m :: after →
    x.phase ≠ .ended ∧ x.phase.destroying = false ∧ ∀ m' ∈ before, m'.messageType ≠ .stop

end Lcm

/-- After a STOP nothing is in the queue, nor once it is taken. -/
structure LcmWorker.Serves (x : LcmWorker) : Prop where
  last : ∀ before m after, x.queue = before ++ m :: after → m.messageType = .stop → after = []
  empty : x.phase = .ended ∨ x.phase.destroying = true → x.queue = []

namespace LcmWorker.Serves

variable {x : LcmWorker}

theorem put (ha : x.Accepts) (m : LcmMessage) : Serves { x with queue := x.queue ++ [m] } := by
  obtain ⟨hlive, hdestroying, hstop⟩ := ha
  constructor
  · intro before m' after hqueue hm'
    rcases List.eq_nil_or_concat after with rfl | ⟨after, last, rfl⟩
    · rfl
    · have happend : x.queue ++ [m] = (before ++ m' :: after) ++ [last] := by
        simpa using hqueue
      have hfront : x.queue = before ++ m' :: after := (List.append_inj' happend rfl).1
      have hmem : m' ∈ x.queue := by
        rw [hfront]
        exact List.mem_append_right before List.mem_cons_self
      exact absurd hm' (hstop m' hmem)
  · intro hphase
    rcases hphase with hphase | hphase
    · exact absurd hphase hlive
    · exact absurd (hdestroying.symm.trans hphase) Bool.false_ne_true

/-- The queue and the phase say it all. -/
theorem congr (h : x.Serves) (hqueue : x'.queue = x.queue) (hphase : x'.phase = .ended ∨ x'.phase.destroying = true →
    x.phase = .ended ∨ x.phase.destroying = true ∨ x.queue = []) : Serves x' := by
  constructor
  · rw [hqueue]
    exact h.last
  · intro hend
    rw [hqueue]
    rcases hphase hend with hold | hold | hold
    · exact h.empty (.inl hold)
    · exact h.empty (.inr hold)
    · exact hold

end LcmWorker.Serves

theorem LcmWorker.Moves.serves {x : LcmWorker} (h : x.Moves threads x' effect) (hx : x.Serves)
    (hend : x'.phase = .ended → x.phase.destroying = true ∨ x.queue = []) : x'.Serves := by
  cases h with
  | take hphase hqueue =>
    rename_i m later
    constructor
    · intro before m' after hq hm'
      apply hx.last (m :: before) m' after _ hm'
      rw [hqueue, show later = before ++ m' :: after from hq]
      rfl
    · intro hstop
      apply hx.last [] m later hqueue
      change x.onMessage m = .ended ∨ (x.onMessage m).destroying = true at hstop
      unfold LcmWorker.onMessage at hstop
      split at hstop
      · assumption
      · rcases hstop with hstop | hstop <;> cases hstop
  | childDeleted hphase hthread hpc =>
    unfold LcmWorker.deregister
    split
    · exact hx.congr rfl (fun _ => .inr (.inl (by rw [hphase]; rfl)))
    · exact hx.congr rfl (fun _ => .inr (.inl (by rw [hphase]; rfl)))
  | childAbsent hphase hthread hpc =>
    unfold LcmWorker.deregister
    split
    · exact hx.congr rfl (fun _ => .inr (.inl (by rw [hphase]; rfl)))
    · exact hx.congr rfl (fun _ => .inr (.inl (by rw [hphase]; rfl)))
  | crash hlisten hended hcall => exact hx.congr rfl (fun _ => .inr (hend rfl))
  | save hphase => exact hx
  | _ =>
    apply hx.congr
    · rfl
    · simp_all [Phase.destroying, LcmWorker.withChildren]

namespace Lcm

variable {s : Lcm}

/-- What is kept when every step is taken in turn. -/
structure OwnedInv (s : Lcm) : Prop where
  claims : ∀ id, s.claims id ≤ 1
  linked : s.Linked
  serves : ∀ x ∈ s.workers, x.Serves

theorem claims_request (h : ∀ id, s.claims id ≤ 1) (r : Request) (owner : Option BlueId) :
    ∀ id, (s.spawn r owner).claims id ≤ 1 := by
  intro id
  rw [claims_spawn]
  exact h id

theorem claims_thread (h : ∀ id, s.claims id ≤ 1) {th : Thread} (ht : s.threads[t]? = some th)
    (hmoves : th.Moves t s next effect) (halone : th.Alone s) :
    ∀ id, ((s.applyThread th.request.id effect).setThread t { th with pc := next }).claims id ≤ 1 := by
  intro id
  rcases Moves.claims_thread s ht hmoves id with hle | ⟨rfl, hpc, hnew⟩
  · exact hle.trans (h id)
  · have hzero : s.claims th.request.id = 0 := by
      unfold Thread.Alone at halone
      rcases hpc with ⟨hpc, hdoc⟩ | ⟨hpc, b, hdoc⟩
      · rw [hpc] at halone
        exact halone hdoc
      · rw [hpc] at halone
        exact halone (by rw [hdoc]; nofun)
    omega

theorem serves_setWorker (h : ∀ x ∈ s.workers, x.Serves) (hx' : x'.Serves) : ∀ x ∈ (s.setWorker w x').workers, x.Serves := by
  intro x hx
  rcases List.mem_or_eq_of_mem_set hx with hold | rfl
  · exact h x hold
  · exact hx'

/-- Messages are put where `Thread.puts` says. -/
theorem serves_applyThread (h : ∀ x ∈ s.workers, x.Serves) {th : Thread} (hmoves : th.Moves t s next effect)
    (haccepts : ∀ w ∈ th.puts, ∀ x ∈ s.workers[w]?, x.Accepts) :
    ∀ x ∈ (s.applyThread th.request.id effect).workers, x.Serves := by
  have hput (w : Nat) (hw : th.puts = some w) (m : LcmMessage) :
      ∀ x ∈ (s.applyThread th.request.id (.put w m)).workers, x.Serves := by
    apply s.onWorker_rule (P := fun s' => ∀ x ∈ s'.workers, x.Serves) h
    intro x hx
    exact serves_setWorker h (LcmWorker.Serves.put (haccepts w hw x hx) m)
  cases hmoves with
  | start hpc =>
    intro x hx
    rcases List.mem_append.1 hx with hx | hx
    · exact h x hx
    · rw [List.mem_singleton.1 hx]
      exact ⟨by simp, by simp⟩
  | send hpc hrequest hm hnext hcaller =>
    apply hput
    unfold Thread.puts
    rcases hrequest with hr | hr
    · rw [hpc, hr]
    · rw [hpc, hr]
  | putStop hpc hwait =>
    apply hput
    unfold Thread.puts
    rw [hpc]
  | putStopSync hpc hwait =>
    apply hput
    unfold Thread.puts
    rw [hpc]
  | setFlag hpc hrequest =>
    apply s.onWorker_rule (P := fun s' => ∀ x ∈ s'.workers, x.Serves) h
    intro x hx
    apply serves_setWorker h
    exact (h x (List.mem_of_getElem? hx)).congr rfl (by tauto)
  | saveFlag hpc hrequest => exact s.onWorker_rule (P := fun s' => ∀ x ∈ s'.workers, x.Serves) h (fun _ _ => h)
  | _ => exact h

theorem OwnedInv.step (e : LcmStep) (s : Lcm) (hturn : InTurn e s) (h : s.OwnedInv) : (s.step e).OwnedInv := by
  apply s.step_rule e h
  · intro r _
    exact ⟨claims_request h.claims r none, h.linked.spawn r none, h.serves⟩
  · intro t th next effect he ht hmoves
    subst he
    obtain ⟨halone, haccepts⟩ := hturn th ht
    exact ⟨claims_thread h.claims ht hmoves halone, h.linked.thread ht hmoves, serves_applyThread h.serves hmoves haccepts⟩
  · intro w x action x' effect he hx hact hmoves
    subst he
    constructor
    · exact fun id => (s.claims_worker_le hx hmoves.id_eq hmoves.live effect id).trans (h.claims id)
    · exact h.linked.worker hx hmoves.id_eq effect
    · apply serves_setWorker
      · rw [applyWorker_workers]
        exact h.serves
      · exact hmoves.serves (h.serves x (List.mem_of_getElem? hx)) (hturn x hx (x', effect) hact)

theorem OwnedInv.owned (h : s.OwnedInv) : s.Owned := by
  constructor
  · intro i j x y hi hj hid hx hy
    exact single_of_claims (h.claims x.id) hi hj hid hx hy
  · exact h.linked.held
  · intro x hx before m after hqueue
    have hne : x.queue ≠ [] := by simp [hqueue]
    refine ⟨fun hended => hne ((h.serves x hx).empty (.inl hended)), ?_, ?_⟩
    · rw [← Bool.not_eq_true]
      exact fun hdestroying => hne ((h.serves x hx).empty (.inr hdestroying))
    · intro m' hm' hstop
      obtain ⟨front, back, rfl⟩ := List.append_of_mem hm'
      have hback : back ++ m :: after = [] := by
        apply (h.serves x hx).last front m' _ _ hstop
        rw [hqueue, List.append_assoc]
        rfl
      simp at hback

end Lcm

end Nfvcl
