import Mathlib.Data.List.Basic
import Nfvcl.Runs
import Nfvcl.BlueprintLineage
import Nfvcl.LcmCalls

namespace Nfvcl
set_option autoImplicit true
open Runs

/-- The new document is written, and the call will not raise. -/
def Pc.saved : Pc → Bool
  | .start _ | .insert _ | .use _ | .await | .done => true
  | _ => false

theorem Thread.Moves.saved {th : Thread} (h : th.Moves t s next effect) (hcreates : th.request.creates = true)
    (hsaved : th.pc.saved = true) : next.saved = true := by
  cases h with
  | start hpc => rfl
  | insert hpc => rfl
  | send hpc hrequest hm hnext hcaller => rcases hnext with rfl | ⟨rfl, -⟩ <;> rfl
  | answered hpc hevent hrequest => rfl
  | setFlag hpc hrequest => rw [hrequest] at hcreates; cases hcreates
  | forbid hpc hrequest hw hflag => rw [hrequest] at hcreates; cases hcreates
  | allow hpc hrequest hw hflag => rw [hrequest] at hcreates; cases hcreates
  | deleted hpc hevent hrequest => rw [hrequest] at hcreates; cases hcreates
  | _ => simp_all [Pc.saved]

namespace Lcm

/-- The call at a position has saved a new blueprint and has not returned it yet, or just now. -/
def Creating (s : Lcm) (t : Nat) (id : BlueId) : Prop :=
  ∃ th, s.threads[t]? = some th ∧ th.request.creates = true ∧ th.request.id = id ∧ th.pc.saved = true

end Lcm

/-- The provider of the worker has the blueprint, or is in the call that creates it. -/
def LcmWorker.Tracks (x : LcmWorker) (s : Lcm) (id : BlueId) : Prop :=
  id ∈ x.blueprint.deployedBlueprints ∨ ∃ m t, x.phase = .calling m t ∧ s.Creating t id

namespace Lcm

/-- Every blueprint with a parent is known to the parent: to its document, to its worker, and to
the loop of its `final_cleanup`. -/
structure Family (s : Lcm) : Prop where
  doc : ∀ c q, s.docs.HasParent c (some q) → ∃ b, s.docs.get q = some b ∧
    (c ∈ b.deployedBlueprints ∨ ∃ x ∈ s.workers, x.id = q ∧ ∃ m t, x.phase = .calling m t ∧ s.Creating t c)
  worker : ∀ x ∈ s.workers, x.Undestroyed → ∀ c, s.docs.HasParent c (some x.id) → x.Tracks s c
  start : ∀ th ∈ s.threads, ∀ b, th.pc = .start b → ∀ c, s.docs.HasParent c (some th.request.id) → c ∈ b.deployedBlueprints
  cleaning : ∀ x ∈ s.workers, ∀ m rest t, x.phase = .cleaningUp m rest t → ∀ c, s.docs.HasParent c (some x.id) → c ∈ rest
  finished : ∀ x ∈ s.workers, ∀ m child rest t th, x.phase = .cleaningUp m (child :: rest) (some t) →
    s.threads[t]? = some th → th.pc.Finished → ¬ s.docs.HasParent child (some x.id)
  removing : ∀ x ∈ s.workers, ∀ m, x.phase = .removing m → ∀ c, ¬ s.docs.HasParent c (some x.id)

structure FamilyInv (s : Lcm) : Prop where
  lineage : s.Lineage
  unguarded : s.Unguarded
  answers : s.Answers
  waits : s.Waits
  family : s.Family

variable {s : Lcm} {t j : Nat}

theorem Creating.thread {th : Thread} (h : s.Creating j c) (ht : s.threads[t]? = some th) (hmoves : th.Moves t s next effect) :
    (s.afterThread t th next effect).Creating j c := by
  obtain ⟨th', hth', hcreates, hid, hsaved⟩ := h
  by_cases hj : j = t
  · subst hj
    rw [ht] at hth'
    cases hth'
    exact ⟨_, afterThread_self ht, hcreates, hid, hmoves.saved hcreates hsaved⟩
  · exact ⟨th', (afterThread_other hj).trans hth', hcreates, hid, hsaved⟩

theorem Creating.worker (h : s.Creating j c) : (s.afterWorker w x x' effect).Creating j c := by
  obtain ⟨th, hth, hcreates, hid, hsaved⟩ := h
  obtain ⟨th', hth', hrequest, -, hpc⟩ := afterWorker_keeps hth w x x' effect
  refine ⟨th', hth', ?_⟩
  rw [hrequest, hpc]
  exact ⟨hcreates, hid, hsaved⟩

namespace FamilyInv

variable {th : Thread} {x : LcmWorker} {c q : BlueId}

theorem gone_doc (h : s.FamilyInv) (hc : c ∈ s.destroyed) (p : Option BlueId) : ¬ s.docs.HasParent c p := by
  rintro ⟨b, hb, -⟩
  rw [(h.lineage.gone.gone c hc).doc] at hb
  cases hb

/-- The worker in whose call a new blueprint is about to be saved. -/
theorem creator (h : s.FamilyInv) (ht : s.threads[t]? = some th) (hpc : th.pc = .saveNew) (howner : th.owner = some q) :
    ∃ x ∈ s.workers, x.id = q ∧ ∃ m, x.phase = .calling m t := by
  have hunfinished : ¬ th.pc.Finished := by
    rw [hpc]
    rintro (h | ⟨e, h⟩) <;> cases h
  obtain ⟨x, hx, hid, hwaits⟩ := (h.waits.awaited t th q ht howner).resolve_left hunfinished
  obtain ⟨th', hth', -, hcalling | ⟨child, -, hdelete⟩⟩ := h.waits.waiting x hx t hwaits
  · exact ⟨x, hx, hid, hcalling⟩
  · rw [ht] at hth'
    cases hth'
    have hcreates := (h.answers.shaped th (List.mem_of_getElem? ht)).creates (.inr hpc)
    rw [hdelete] at hcreates
    cases hcreates

/-- Running workers of one blueprint are one. -/
theorem same_worker (h : s.FamilyInv) {y : LcmWorker} (hx : x ∈ s.workers) (hy : y ∈ s.workers) (hid : x.id = y.id)
    (hxlive : x.phase ≠ .ended) (hylive : y.phase ≠ .ended) : x = y := by
  obtain ⟨i, hi⟩ := List.mem_iff_getElem?.1 hx
  obtain ⟨j, hj⟩ := List.mem_iff_getElem?.1 hy
  cases single_of_claims (h.lineage.gone.claims x.id) hi hj hid hxlive hylive
  exact Option.some.inj (hi.symm.trans hj)

/-- While a new blueprint is about to be saved, the running worker of its parent is in that call. -/
theorem creator_phase (h : s.FamilyInv) (ht : s.threads[t]? = some th) (hpc : th.pc = .saveNew)
    (howner : th.owner = some x.id) (hx : x ∈ s.workers) (hlive : x.phase ≠ .ended) : ∃ m, x.phase = .calling m t := by
  obtain ⟨y, hy, hid, m, hphase⟩ := h.creator ht hpc howner
  have hsame := h.same_worker hy hx hid (by rw [hphase]; nofun) hlive
  exact ⟨m, hsame ▸ hphase⟩

section Threads

variable {next : Pc} {effect : ThreadEffect}

/-- A blueprint has its parent after a step of a call, or is saved by it. -/
theorem thread_child (h : s.FamilyInv) (ht : s.threads[t]? = some th) (hmoves : th.Moves t s next effect)
    (htimely : th.Timely s) (hc : (s.afterThread t th next effect).docs.HasParent c (some q)) :
    s.docs.HasParent c (some q) ∨ (th.pc = .saveNew ∧ th.request.id = c ∧ th.owner = some q ∧
      (s.afterThread t th next effect).Creating t c) := by
  rcases h.lineage.back (afterThread_writes ht hmoves htimely) hc with hold | ⟨t', th', hactor, hth', hpc, hid, howner⟩
  · exact .inl hold
  · right
    cases hactor
    rw [ht] at hth'
    cases hth'
    have hcreates := (h.answers.shaped th (List.mem_of_getElem? ht)).creates (.inr hpc)
    refine ⟨hpc, hid, howner, _, afterThread_self ht, hcreates, hid, ?_⟩
    cases hmoves with
    | saveNew hpc' hb => rfl
    | send hpc' hrequest hm hnext hcaller => rcases hnext with rfl | ⟨rfl, -⟩ <;> rfl
    | _ => simp_all

theorem thread_tracks (ht : s.threads[t]? = some th) (hmoves : th.Moves t s next effect) {y : LcmWorker} (hlike : y.Like x)
    (hx : x.Tracks s c) : y.Tracks (s.afterThread t th next effect) c := by
  rcases hx with hdeployed | ⟨m, j, hphase, hcreating⟩
  · left
    rw [hlike.deployed]
    exact hdeployed
  · exact .inr ⟨m, j, hlike.phase.trans hphase, hcreating.thread ht hmoves⟩

theorem thread_worker (h : s.FamilyInv) (ht : s.threads[t]? = some th) (hmoves : th.Moves t s next effect)
    (htimely : th.Timely s) {y : LcmWorker} (hy : y ∈ (s.afterThread t th next effect).workers) (hlive : y.Undestroyed)
    (hc : (s.afterThread t th next effect).docs.HasParent c (some y.id)) : y.Tracks (s.afterThread t th next effect) c := by
  rcases afterThread_worker hmoves hy with ⟨x, hx, hlike⟩ | ⟨b, hpc, rfl⟩
  · have hxlive := hlike.undestroyed.1 hlive
    rw [hlike.id] at hc
    rcases h.thread_child ht hmoves htimely hc with hold | ⟨hpc, -, howner, hcreating⟩
    · exact thread_tracks ht hmoves hlike (h.family.worker x hx hxlive c hold)
    · have hended : x.phase ≠ .ended := by
        intro hphase
        simp [LcmWorker.Undestroyed, hphase] at hxlive
      obtain ⟨m, hphase⟩ := h.creator_phase ht hpc howner hx hended
      exact .inr ⟨m, t, hlike.phase.trans hphase, hcreating⟩
  · left
    rcases h.thread_child ht hmoves htimely hc with hold | ⟨hpc', -⟩
    · exact h.family.start th (List.mem_of_getElem? ht) b hpc c hold
    · cases hpc.symm.trans hpc'

/-- No blueprint is a child of one that is about to be saved first. -/
theorem no_child_of_new (h : s.FamilyInv) (hth : th ∈ s.threads) (hpc : th.pc = .saveNew) :
    ¬ s.docs.HasParent c (some th.request.id) := by
  intro hc
  obtain ⟨b, hb, -⟩ := h.family.doc c _ hc
  rw [h.lineage.news th hth hpc] at hb
  cases hb

theorem thread_start (h : s.FamilyInv) (ht : s.threads[t]? = some th) (hmoves : th.Moves t s next effect)
    (htimely : th.Timely s) (hgone : (s.afterThread t th next effect).GoneInv)
    {th' : Thread} (hth' : th' ∈ (s.afterThread t th next effect).threads) (hpc' : th'.pc = .start b)
    (hc : (s.afterThread t th next effect).docs.HasParent c (some th'.request.id)) : c ∈ b.deployedBlueprints := by
  -- the call has the only claim, so no worker of its blueprint is running
  have halone : ∀ x ∈ s.workers, x.id = th'.request.id → x.phase = .ended := by
    intro x hx hid
    by_contra hlive
    obtain ⟨y, hy, hlike⟩ := afterThread_keeps hx t th next effect
    obtain ⟨w, hw⟩ := List.mem_iff_getElem?.1 hy
    have hfalse := no_claim_of_live (hgone.claims y.id) hw (by rw [hlike.phase]; exact hlive) th' hth' (by rw [hlike.id, hid])
    rw [hpc'] at hfalse
    cases hfalse
  rcases h.thread_child ht hmoves htimely hc with hold | ⟨hpc, -, howner, -⟩
  · rcases afterThread_mem ht hth' with hmem | rfl
    · exact h.family.start th' hmem b hpc' c hold
    · simp only at hpc'
      subst hpc'
      cases hmoves with
      | saveNew hpc hb =>
        have hnone := h.no_child_of_new (c := c) (List.mem_of_getElem? ht) hpc
        exact absurd hold hnone
      | load hpc hdoc =>
        obtain ⟨b', hb', hdeployed | ⟨x, hx, hid, m, t', hphase, -⟩⟩ := h.family.doc c _ hold
        · cases hb'.symm.trans hdoc
          exact hdeployed
        · cases hphase.symm.trans (halone x hx hid)
      | send hpc hrequest hm hnext hcaller => rcases hnext with hnext | ⟨hnext, -⟩ <;> cases hnext
  · obtain ⟨x, hx, hid, m, hphase⟩ := h.creator ht hpc howner
    cases hphase.symm.trans (halone x hx hid)

/-- A blueprint that was there before a step of a call is there after it. -/
theorem thread_doc_kept (h : s.FamilyInv) (ht : s.threads[t]? = some th) (hmoves : th.Moves t s next effect)
    (htimely : th.Timely s) (hq : s.docs.HasParent q p) : (s.afterThread t th next effect).docs.HasParent q p := by
  rcases h.lineage.forward (afterThread_writes ht hmoves htimely) hq with hkept | hdestroyed
  · exact hkept
  · rw [afterThread_destroyed] at hdestroyed
    exact absurd hq (h.gone_doc hdestroyed p)

theorem thread_doc (h : s.FamilyInv) (ht : s.threads[t]? = some th) (hmoves : th.Moves t s next effect)
    (htimely : th.Timely s) (hc : (s.afterThread t th next effect).docs.HasParent c (some q)) :
    ∃ b, (s.afterThread t th next effect).docs.get q = some b ∧ (c ∈ b.deployedBlueprints ∨
      ∃ x ∈ (s.afterThread t th next effect).workers, x.id = q ∧ ∃ m j, x.phase = .calling m j ∧
        (s.afterThread t th next effect).Creating j c) := by
  have hcalling {x : LcmWorker} {m : LcmMessage} {j : Nat} (hx : x ∈ s.workers) (hid : x.id = q)
      (hphase : x.phase = .calling m j) (hcreating : (s.afterThread t th next effect).Creating j c) :
      ∃ x ∈ (s.afterThread t th next effect).workers, x.id = q ∧ ∃ m j, x.phase = .calling m j ∧
        (s.afterThread t th next effect).Creating j c := by
    obtain ⟨y, hy, hlike⟩ := afterThread_keeps hx t th next effect
    exact ⟨y, hy, hlike.id.trans hid, m, j, hlike.phase.trans hphase, hcreating⟩
  rcases h.thread_child ht hmoves htimely hc with hold | ⟨hpc, -, howner, hcreating⟩
  · obtain ⟨b, hb, htracked⟩ := h.family.doc c q hold
    obtain ⟨b', hb', -⟩ := h.thread_doc_kept ht hmoves htimely ⟨b, hb, rfl⟩
    refine ⟨b', hb', ?_⟩
    rcases afterThread_doc hmoves htimely hb' with hsame | ⟨hpc, hid⟩ | ⟨x, hx, hlive, hid, rfl⟩
    · cases hb.symm.trans hsame
      rcases htracked with hdeployed | ⟨x, hx, hid, m, j, hphase, hcreating⟩
      · exact .inl hdeployed
      · exact .inr (hcalling hx hid hphase (hcreating.thread ht hmoves))
    · rw [← hid, h.lineage.news th (List.mem_of_getElem? ht) hpc] at hb
      cases hb
    · subst hid
      rcases h.family.worker x hx hlive c hold with hdeployed | ⟨m, j, hphase, hcreating⟩
      · exact .inl hdeployed
      · exact .inr (hcalling hx rfl hphase (hcreating.thread ht hmoves))
  · obtain ⟨x, hx, rfl, m, hphase⟩ := h.creator ht hpc howner
    have hlive : x.Undestroyed := by simp [LcmWorker.Undestroyed, hphase]
    obtain ⟨b, hb, -⟩ := h.thread_doc_kept ht hmoves htimely (h.lineage.known hx hlive)
    exact ⟨b, hb, .inr (hcalling hx rfl hphase hcreating)⟩

/-- A parent that is in `destroy` gets no new child. -/
theorem thread_child_destroying (h : s.FamilyInv) (ht : s.threads[t]? = some th) (hmoves : th.Moves t s next effect)
    (htimely : th.Timely s) (hx : x ∈ s.workers) (hdestroying : x.phase.destroying = true)
    (hc : (s.afterThread t th next effect).docs.HasParent c (some x.id)) : s.docs.HasParent c (some x.id) := by
  rcases h.thread_child ht hmoves htimely hc with hold | ⟨hpc, -, howner, -⟩
  · exact hold
  · have hended : x.phase ≠ .ended := by
      intro hphase
      rw [hphase] at hdestroying
      cases hdestroying
    obtain ⟨m, hphase⟩ := h.creator_phase ht hpc howner hx hended
    rw [hphase] at hdestroying
    cases hdestroying

/-- The deletion of a leftover child ends when there is none. -/
theorem deletion_over (h : s.FamilyInv) (ht : s.threads[t]? = some th) (hmoves : th.Moves t s next effect)
    (hfound : th.pc = .fetch → th.owner ≠ none → s.workerCollection th.request.id ≠ none)
    (howner : th.owner = some q) (hrequest : th.request = .delete c true) (hnext : next.Finished) :
    ¬ s.docs.HasParent c (some q) := by
  have hth := List.mem_of_getElem? ht
  have howned : th.owner ≠ none := by rw [howner]; nofun
  have hid : th.request.id = c := by rw [hrequest]; rfl
  have hdestroyed (hc : th.request.id ∈ s.destroyed) : ¬ s.docs.HasParent c (some q) := by
    rw [← hid]
    exact h.gone_doc hc (some q)
  have hover (hdone : next = .done) : th.request.id ∈ s.destroyed := by
    apply h.answers.over hth hmoves _ _ (.inr (.inr hdone))
    · rw [hrequest]; rfl
    · rw [hrequest]; rfl
  rcases hnext with hdone | ⟨e, rfl⟩
  · exact hdestroyed (hover hdone)
  · cases hmoves with
    | refuse hpc hdoc =>
      have hcreates := (h.answers.shaped th hth).creates (.inl hpc)
      rw [hrequest] at hcreates
      cases hcreates
    | popped hpc hentry => exact absurd hentry (hfound hpc howned)
    | absent hpc hdoc =>
      rw [hid] at hdoc
      rintro ⟨b, hb, -⟩
      cases hdoc.symm.trans hb
    | forbid hpc hrequest' hw hflag =>
      rename_i w blueId wait x
      obtain ⟨y, hy, hyid⟩ := h.lineage.linked.held th hth w (by rw [hpc]; rfl)
      cases hw.symm.trans hy
      rw [hid] at hyid
      rcases h.lineage.workers x (List.mem_of_getElem? hw) with hgone | hparent
      · exact hyid ▸ h.gone_doc hgone (some q)
      · intro hc
        have hunprotected := h.unguarded.workers x (List.mem_of_getElem? hw)
        rw [hyid] at hparent
        rw [hunprotected (by rw [hparent.unique hc]; nofun)] at hflag
        cases hflag
    | popAgain hpc hentry =>
      apply hdestroyed
      apply h.answers.deleted th hth _ _ (.inr (.inl hpc))
      · rw [hrequest]; rfl
      · rw [hrequest]; rfl
    | send hpc hrequest' hm hnext hcaller => rcases hnext with hnext | ⟨hnext, -⟩ <;> cases hnext

theorem thread_finished (h : s.FamilyInv) (ht : s.threads[t]? = some th) (hmoves : th.Moves t s next effect)
    (hfound : th.pc = .fetch → th.owner ≠ none → s.workerCollection th.request.id ≠ none) (hx : x ∈ s.workers)
    (hphase : x.phase = .cleaningUp m (c :: rest) (some j)) {th' : Thread}
    (hj : (s.afterThread t th next effect).threads[j]? = some th') (hfinished : th'.pc.Finished) :
    ¬ s.docs.HasParent c (some x.id) := by
  rcases afterThread_thread ht hj with ⟨-, hold⟩ | ⟨rfl, rfl⟩
  · exact h.family.finished x hx m c rest j th' hphase hold hfinished
  · obtain ⟨th', hth', howner, ⟨m', hcalling⟩ | ⟨child, hdeletion, hrequest⟩⟩ :=
      h.waits.waiting x hx j (by rw [hphase]; rfl)
    · cases hphase.symm.trans hcalling
    · rw [ht] at hth'
      cases hth'
      rw [hphase] at hdeletion
      cases hdeletion
      exact h.deletion_over ht hmoves hfound howner hrequest hfinished

theorem thread (h : s.FamilyInv) (ht : s.threads[t]? = some th) (hmoves : th.Moves t s next effect)
    (htimely : th.Timely s)
    (hfound : th.pc = .fetch → th.owner ≠ none → s.workerCollection th.request.id ≠ none)
    (hspares : ∀ w blueId x, th.pc = .use w → th.request = .protect blueId true → s.workers[w]? = some x →
      x.blueprint.parentBlueId = none) (hlineage : (s.afterThread t th next effect).Lineage) :
    (s.afterThread t th next effect).FamilyInv := by
  refine ⟨hlineage, h.unguarded.thread ht hmoves htimely hspares, h.answers.thread h.lineage.linked ht hmoves hfound,
    h.waits.thread ht hmoves, ?_⟩
  constructor
  · exact fun c q hc => h.thread_doc ht hmoves htimely hc
  · exact fun y hy hlive c hc => h.thread_worker ht hmoves htimely hy hlive hc
  · exact fun th' hth' b hpc c hc => h.thread_start ht hmoves htimely hlineage.gone hth' hpc hc
  · intro y hy m rest j hphase c hc
    rcases afterThread_worker hmoves hy with ⟨x, hx, hlike⟩ | ⟨b, -, rfl⟩
    · rw [hlike.phase] at hphase
      rw [hlike.id] at hc
      exact h.family.cleaning x hx m rest j hphase c (h.thread_child_destroying ht hmoves htimely hx (by rw [hphase]; rfl) hc)
    · cases hphase
  · intro y hy m child rest j th' hphase hth' hfinished hc
    rcases afterThread_worker hmoves hy with ⟨x, hx, hlike⟩ | ⟨b, -, rfl⟩
    · rw [hlike.phase] at hphase
      rw [hlike.id] at hc
      apply h.thread_finished ht hmoves hfound hx hphase hth' hfinished
      exact h.thread_child_destroying ht hmoves htimely hx (by rw [hphase]; rfl) hc
    · cases hphase
  · intro y hy m hphase c hc
    rcases afterThread_worker hmoves hy with ⟨x, hx, hlike⟩ | ⟨b, -, rfl⟩
    · rw [hlike.phase] at hphase
      rw [hlike.id] at hc
      exact h.family.removing x hx m hphase c (h.thread_child_destroying ht hmoves htimely hx (by rw [hphase]; rfl) hc)
    · cases hphase

end Threads

section Workers

variable {x' : LcmWorker} {effect : WorkerEffect} {w : Nat}

/-- Workers save no new blueprint. -/
theorem worker_child (h : s.FamilyInv) (hx : x ∈ s.workers) (hmoves : x.Moves s.threads x' effect)
    (hc : (s.afterWorker w x x' effect).docs.HasParent c p) : s.docs.HasParent c p := by
  rcases h.lineage.back (afterWorker_writes hx hmoves) hc with hold | ⟨t, th, hactor, -⟩
  · exact hold
  · cases hactor

/-- A worker that was not in a call has all its children in `deployed_blueprints`. -/
theorem deployed (h : s.FamilyInv) (hx : x ∈ s.workers) (hlive : x.Undestroyed) (hidle : ∀ m t, x.phase ≠ .calling m t)
    (hc : s.docs.HasParent c (some x.id)) : c ∈ x.blueprint.deployedBlueprints := by
  rcases h.family.worker x hx hlive c hc with hdeployed | ⟨m, t, hphase, -⟩
  · exact hdeployed
  · exact absurd hphase (hidle m t)

/-- A blueprint is removed from `deployed_blueprints` when it is destroyed. -/
theorem not_child_of_deleted (h : s.FamilyInv) (hx : x ∈ s.workers) (hwaits : x.phase.waits = some t)
    (hth : s.threads[t]? = some th) (hdone : th.pc = .done) (hdeletes : th.request.deletes = true) :
    ¬ s.docs.HasParent th.request.id p := by
  have hmem := List.mem_of_getElem? hth
  apply h.gone_doc
  apply h.answers.deleted th hmem hdeletes _ (.inr (.inr hdone))
  obtain ⟨th', hth', howner, -⟩ := h.waits.waiting x hx t hwaits
  cases hth.symm.trans hth'
  apply (h.answers.shaped th hmem).owned
  rw [howner]
  nofun

theorem mem_erase (h : s.FamilyInv) (hx : x ∈ s.workers) (hwaits : x.phase.waits = some t)
    (hth : s.threads[t]? = some th) (hdone : th.pc = .done) (hrequest : th.request = .delete child wait)
    (hc : s.docs.HasParent c p) (hdeployed : c ∈ x.blueprint.deployedBlueprints) :
    c ∈ x.blueprint.deployedBlueprints.erase child := by
  rw [List.mem_erase_of_ne _]
  · exact hdeployed
  · rintro rfl
    have hnone := h.not_child_of_deleted (p := p) hx hwaits hth hdone (by rw [hrequest]; rfl)
    rw [hrequest] at hnone
    exact hnone hc

/-- In a call that creates a blueprint a worker goes on by saving it in `deployed_blueprints`. -/
theorem creating_over (hphase : x.phase = .calling m t) (hcreating : s.Creating t c) (hmoves : x.Moves s.threads x' effect) :
    effect = .save x'.blueprint ∧ c ∈ x'.blueprint.deployedBlueprints := by
  obtain ⟨th, hth, hcreates, rfl, hsaved⟩ := hcreating
  cases hmoves with
  | created hphase' hthread hpc hrequest =>
    cases hphase.symm.trans hphase'
    cases hth.symm.trans hthread
    rw [hrequest]
    exact ⟨rfl, List.mem_append_right _ List.mem_cons_self⟩
  | deleted hphase' hthread hpc hrequest =>
    cases hphase.symm.trans hphase'
    cases hth.symm.trans hthread
    rw [hrequest] at hcreates
    cases hcreates
  | returned hphase' hthread hpc hcreate =>
    cases hphase.symm.trans hphase'
    cases hth.symm.trans hthread
    rcases hpc with hdone | ⟨e, hraised⟩
    · unfold Request.creates at hcreates
      split at hcreates
      next child wait hr => exact absurd hdone (hcreate child wait hr)
      · cases hcreates
    · rw [hraised] at hsaved
      cases hsaved
  | crash hlisten hended hcall =>
    rw [hphase] at hcall
    cases hcall
  | save hphase' => rcases hphase' with h | h <;> cases hphase.symm.trans h
  | _ => simp_all

theorem worker_tracks (h : s.FamilyInv) (hx : x ∈ s.workers) (hlive : x.Undestroyed) (hmoves : x.Moves s.threads x' effect)
    (hc : s.docs.HasParent c (some x.id)) : c ∈ x'.blueprint.deployedBlueprints := by
  rcases h.family.worker x hx hlive c hc with hdeployed | ⟨m, t, hphase, hcreating⟩
  · cases hmoves with
    | created hphase hthread hpc hrequest => exact List.mem_append_left _ hdeployed
    | deleted hphase hthread hpc hrequest => exact h.mem_erase hx (by rw [hphase]; rfl) hthread hpc hrequest hc hdeployed
    | childDeleted hphase hthread hpc =>
      obtain ⟨th', hth', -, ⟨m', hcalling⟩ | ⟨child', hdeletion, hrequest⟩⟩ := h.waits.waiting x hx _ (by rw [hphase]; rfl)
      · cases hphase.symm.trans hcalling
      · cases hthread.symm.trans hth'
        rw [hphase] at hdeletion
        cases hdeletion
        have herase := h.mem_erase hx (by rw [hphase]; rfl) hthread hpc hrequest hc hdeployed
        rcases LcmWorker.Moves.deregister_cases _ _ _ _ with h | h
        · rw [h]; exact herase
        · rw [h]; exact herase
    | childAbsent hphase hthread hpc =>
      rcases LcmWorker.Moves.deregister_cases _ _ _ _ with h | h
      · rw [h]; exact hdeployed
      · rw [h]; exact hdeployed
    | clear hphase => cases h.family.cleaning x hx _ [] none hphase c hc
    | _ => exact hdeployed
  · exact (creating_over hphase hcreating hmoves).2

/-- The parent of a blueprint is there after a step of a worker. -/
theorem worker_parent (h : s.FamilyInv) (hx : x ∈ s.workers) (hmoves : x.Moves s.threads x' effect)
    (hc : s.docs.HasParent c (some q)) : ∃ b b', s.docs.get q = some b ∧ (s.afterWorker w x x' effect).docs.get q = some b' ∧
      (c ∈ b.deployedBlueprints ∨ ∃ x ∈ s.workers, x.id = q ∧ ∃ m t, x.phase = .calling m t ∧ s.Creating t c) := by
  obtain ⟨b, hb, htracked⟩ := h.family.doc c q hc
  have hwrites := afterWorker_writes (w := w) hx hmoves
  rcases h.lineage.forward hwrites ⟨b, hb, rfl⟩ with ⟨b', hb', -⟩ | hdestroyed
  · exact ⟨b, b', hb, hb', htracked⟩
  · exfalso
    by_cases heffect : effect = .destroyNgBlue
    · subst heffect
      rcases List.mem_cons.1 hdestroyed with rfl | hold
      · cases hmoves with
        | remove hphase => exact h.family.removing x hx _ hphase c hc
      · exact h.gone_doc hold _ ⟨b, hb, rfl⟩
    · have hold : q ∈ s.destroyed := s.applyWorker_destroyed heffect x.id ▸ hdestroyed
      exact h.gone_doc hold _ ⟨b, hb, rfl⟩

theorem worker_doc (h : s.FamilyInv) (hx : s.workers[w]? = some x) (hmoves : x.Moves s.threads x' effect)
    (hc : s.docs.HasParent c (some q)) :
    ∃ b, (s.afterWorker w x x' effect).docs.get q = some b ∧ (c ∈ b.deployedBlueprints ∨
      ∃ y ∈ (s.afterWorker w x x' effect).workers, y.id = q ∧ ∃ m t, y.phase = .calling m t ∧
        (s.afterWorker w x x' effect).Creating t c) := by
  have hmem := List.mem_of_getElem? hx
  obtain ⟨b, b', hb, hb', htracked⟩ := h.worker_parent (w := w) hmem hmoves hc
  refine ⟨b', hb', ?_⟩
  rcases afterWorker_doc hmoves hb' with ⟨rfl, rfl⟩ | ⟨hsame, hquiet⟩
  · left
    rw [hmoves.saves.2]
    exact h.worker_tracks hmem hmoves.undestroyed_of_save hmoves hc
  · cases hb.symm.trans hsame
    rcases htracked with hdeployed | ⟨y, hy, hid, m, t, hphase, hcreating⟩
    · exact .inl hdeployed
    · rcases afterWorker_other hx hy with rfl | hkept
      · exact absurd (creating_over hphase hcreating hmoves).1 (hquiet hid _)
      · exact .inr ⟨y, hkept, hid, m, t, hphase, hcreating.worker⟩

/-- What is left to clean up after a step of a parent. -/
theorem worker_cleaning (h : s.FamilyInv) (hx : x ∈ s.workers) (hmoves : x.Moves s.threads x' effect)
    (hphase : x'.phase = .cleaningUp m rest t?) (hc : s.docs.HasParent c (some x.id)) : c ∈ rest := by
  cases hmoves with
  | cleanup hphase' =>
    cases hphase
    apply h.deployed hx _ _ hc
    · simp [LcmWorker.Undestroyed, hphase']
    · intro m' t hcalling
      cases hphase'.symm.trans hcalling
  | cleanChild hphase' =>
    cases hphase
    exact h.family.cleaning x hx _ _ _ hphase' c hc
  | childCleaned hphase' hthread hpc =>
    cases hphase
    rcases List.mem_cons.1 (h.family.cleaning x hx _ _ _ hphase' c hc) with rfl | hrest
    · exact absurd hc (h.family.finished x hx _ _ _ _ _ hphase' hthread hpc)
    · exact hrest
  | take hlisten hqueue =>
    change x.onMessage _ = .cleaningUp m rest t? at hphase
    unfold LcmWorker.onMessage at hphase
    split at hphase <;> cases hphase
  | childDeleted hphase' hthread hpc =>
    rcases LcmWorker.Moves.deregister_cases _ _ _ _ with h | h <;> rw [h] at hphase <;> cases hphase
  | childAbsent hphase' hthread hpc =>
    rcases LcmWorker.Moves.deregister_cases _ _ _ _ with h | h <;> rw [h] at hphase <;> cases hphase
  | save hphase' => rcases hphase' with h | h <;> cases h.symm.trans hphase
  | children hphase' => cases hphase'.symm.trans hphase
  | _ => cases hphase

theorem worker_removing (h : s.FamilyInv) (hx : x ∈ s.workers) (hmoves : x.Moves s.threads x' effect)
    (hphase : x'.phase = .removing m) : ¬ s.docs.HasParent c (some x.id) := by
  intro hc
  cases hmoves with
  | clear hphase' => cases h.family.cleaning x hx _ _ _ hphase' c hc
  | take hlisten hqueue =>
    change x.onMessage _ = .removing m at hphase
    unfold LcmWorker.onMessage at hphase
    split at hphase <;> cases hphase
  | childDeleted hphase' hthread hpc =>
    rcases LcmWorker.Moves.deregister_cases _ _ _ _ with h | h <;> rw [h] at hphase <;> cases hphase
  | childAbsent hphase' hthread hpc =>
    rcases LcmWorker.Moves.deregister_cases _ _ _ _ with h | h <;> rw [h] at hphase <;> cases hphase
  | save hphase' => rcases hphase' with h | h <;> cases h.symm.trans hphase
  | children hphase' => cases hphase'.symm.trans hphase
  | _ => cases hphase

theorem worker (h : s.FamilyInv) (hx : s.workers[w]? = some x) (hmoves : x.Moves s.threads x' effect)
    (hlineage : (s.afterWorker w x x' effect).Lineage) : (s.afterWorker w x x' effect).FamilyInv := by
  have hmem := List.mem_of_getElem? hx
  have hchild {c : BlueId} {p : Option BlueId} (hc : (s.afterWorker w x x' effect).docs.HasParent c p) :
      s.docs.HasParent c p := h.worker_child hmem hmoves hc
  refine ⟨hlineage, h.unguarded.worker hx hmoves, h.answers.worker hx hmoves, h.waits.worker hx hmoves, ?_⟩
  constructor
  · exact fun c q hc => h.worker_doc hx hmoves (hchild hc)
  · intro y hy hlive c hc
    rcases afterWorker_mem hy with hold | rfl
    · rcases h.family.worker y hold hlive c (hchild hc) with hdeployed | ⟨m, t, hphase, hcreating⟩
      · exact .inl hdeployed
      · exact .inr ⟨m, t, hphase, hcreating.worker⟩
    · left
      rw [hmoves.id_eq] at hc
      have hxlive : x.Undestroyed := by
        by_contra hdead
        exact hmoves.destroyed_stays hdead hlive
      exact h.worker_tracks hmem hxlive hmoves (hchild hc)
  · intro th' hth' b hpc c hc
    obtain ⟨j, hj⟩ := List.mem_iff_getElem?.1 hth'
    rcases afterWorker_thread hj with ⟨th, hth, rfl | ⟨rfl, -⟩⟩ | ⟨r, -, -, rfl⟩
    · exact h.family.start th' (List.mem_of_getElem? hth) b hpc c (hchild hc)
    · exact h.family.start th (List.mem_of_getElem? hth) b hpc c (hchild hc)
    · cases r <;> cases hpc
  · intro y hy m rest t hphase c hc
    rcases afterWorker_mem hy with hold | rfl
    · exact h.family.cleaning y hold m rest t hphase c (hchild hc)
    · rw [hmoves.id_eq] at hc
      exact h.worker_cleaning hmem hmoves hphase (hchild hc)
  · intro y hy m child rest j th' hphase hj hfinished hc
    have hentry (r : Request) : ¬ r.entry.Finished := by
      rintro (h | ⟨e, h⟩) <;> cases r <;> cases h
    rcases afterWorker_thread hj with ⟨th, hth, hsame⟩ | ⟨r, -, -, rfl⟩
    · rcases afterWorker_mem hy with hold | rfl
      · apply h.family.finished y hold m child rest j th hphase hth _ (hchild hc)
        rcases hsame with rfl | ⟨rfl, -⟩ <;> exact hfinished
      · obtain ⟨rfl, -⟩ := hmoves.waits_spawn (t := j) (by rw [hphase]; rfl)
        simp at hth
    · exact hentry r hfinished
  · intro y hy m hphase c hc
    rcases afterWorker_mem hy with hold | rfl
    · exact h.family.removing y hold m hphase c (hchild hc)
    · rw [hmoves.id_eq] at hc
      exact h.worker_removing hmem hmoves hphase (hchild hc)

end Workers

theorem request (h : s.FamilyInv) (hlineage : (s.spawn r none).Lineage) : (s.spawn r none).FamilyInv := by
  have hcreating {j : Nat} {c : BlueId} (hj : s.Creating j c) : (s.spawn r none).Creating j c := by
    obtain ⟨th, hth, hcreate⟩ := hj
    exact ⟨th, (List.getElem?_append_left (List.getElem?_eq_some_iff.1 hth).1).trans hth, hcreate⟩
  refine ⟨hlineage, h.unguarded.spawn, h.answers.spawn (.inl rfl), h.waits.spawn, ?_⟩
  constructor
  · intro c q hc
    obtain ⟨b, hb, hdeployed | ⟨x, hx, hid, m, t, hphase, hcreate⟩⟩ := h.family.doc c q hc
    · exact ⟨b, hb, .inl hdeployed⟩
    · exact ⟨b, hb, .inr ⟨x, hx, hid, m, t, hphase, hcreating hcreate⟩⟩
  · intro x hx hlive c hc
    rcases h.family.worker x hx hlive c hc with hdeployed | ⟨m, t, hphase, hcreate⟩
    · exact .inl hdeployed
    · exact .inr ⟨m, t, hphase, hcreating hcreate⟩
  · intro th hth b hpc c hc
    rcases List.mem_append.1 hth with hold | hnew
    · exact h.family.start th hold b hpc c hc
    · rw [List.mem_singleton.1 hnew] at hpc
      cases r <;> cases hpc
  · exact h.family.cleaning
  · intro x hx m child rest t th hphase hth hfinished
    obtain ⟨th', hth', -⟩ := h.waits.waiting x hx t (by rw [hphase]; rfl)
    have hold : s.threads[t]? = some th :=
      (List.getElem?_append_left (List.getElem?_eq_some_iff.1 hth').1).symm.trans hth
    exact h.family.finished x hx m child rest t th hphase hold hfinished
  · exact h.family.removing

end FamilyInv

end Lcm

/-- A provider that looks a worker up finds it, and no flag is set on a blueprint with a parent. -/
def Thread.Spares (th : Thread) (s : Lcm) : Prop :=
  match th.pc, th.request with
  | .fetch, _ => th.owner ≠ none → s.workerCollection th.request.id ≠ none
  | .use w, .protect _ true => ∀ x ∈ s.workers[w]?, x.blueprint.parentBlueId = none
  | _, _ => True

instance (th : Thread) (s : Lcm) : Decidable (th.Spares s) := by
  obtain ⟨request, owner, pc, event⟩ := th
  unfold Thread.Spares
  cases pc
  case use w =>
    cases request
    case protect b value => cases value <;> exact inferInstance
    all_goals exact inferInstance
  all_goals exact inferInstance

/-- An operation is in a call of its blueprint provider. -/
def Phase.calls : Phase → Bool
  | .calling _ _ => true
  | _ => false

/-- A step of the manager and its workers, or a restart: blueprints are loaded again when they are
asked for. -/
inductive FamilyStep where
  | lcm (e : LcmStep)
  | restart
  deriving DecidableEq, Repr

namespace Lcm

def restart (s : Lcm) : Lcm := { docs := s.docs, destroyed := s.destroyed, guarded := s.guarded }

def familyStep (s : Lcm) : FamilyStep → Lcm
  | .lcm e => s.step e
  | .restart => s.restart

/-- Calls that start a worker are alone, no call is late, providers find the workers they look up,
no child is protected, and a restart is between operations. -/
def InOrder (e : FamilyStep) (s : Lcm) : Prop :=
  match e with
  | .lcm (.thread t) => ∀ th ∈ s.threads[t]?, (th.Alone s ∧ th.Timely s) ∧ th.Spares s
  | .lcm _ => True
  | .restart => ∀ x ∈ s.workers, x.phase.calls = false

instance (e : FamilyStep) (s : Lcm) : Decidable (InOrder e s) :=
  match e with
  | .lcm (.thread t) => inferInstanceAs (Decidable (∀ th ∈ s.threads[t]?, (th.Alone s ∧ th.Timely s) ∧ th.Spares s))
  | .lcm (.request _) | .lcm (.work _ _) => isTrue trivial
  | .restart => inferInstanceAs (Decidable (∀ x ∈ s.workers, x.phase.calls = false))

/-- Every blueprint with a parent is in the `deployed_blueprints` of the parent, of its document and
of its worker, unless it is the one that the provider is creating; a destroyed parent has none. -/
structure NoOrphans (s : Lcm) : Prop where
  stored : ∀ c b q, s.docs.get c = some b → b.parentBlueId = some q → ∃ parent, s.docs.get q = some parent ∧
    (c ∈ parent.deployedBlueprints ∨ ∃ x ∈ s.workers, x.id = q ∧ ∃ m t, x.phase = .calling m t ∧ s.Creating t c)
  running : ∀ c b q, s.docs.get c = some b → b.parentBlueId = some q → ∀ x ∈ s.workers, x.id = q → x.phase ≠ .ended →
    c ∈ x.blueprint.deployedBlueprints ∨ ∃ m t, x.phase = .calling m t ∧ s.Creating t c
  destroyed : ∀ q ∈ s.destroyed, ∀ c b, s.docs.get c = some b → b.parentBlueId ≠ some q

theorem FamilyInv.noOrphans {s : Lcm} (h : s.FamilyInv) : s.NoOrphans := by
  have hdestroyed : ∀ q ∈ s.destroyed, ∀ c, ¬ s.docs.HasParent c (some q) := by
    intro q hq c hc
    obtain ⟨b, hb, -⟩ := h.family.doc c q hc
    exact h.gone_doc hq _ ⟨b, hb, rfl⟩
  constructor
  · exact fun c b q hb hparent => h.family.doc c q ⟨b, hb, hparent⟩
  · rintro c b q hb hparent x hx rfl hended
    by_cases hlive : x.Undestroyed
    · exact h.family.worker x hx hlive c ⟨b, hb, hparent⟩
    · cases hphase : x.phase with
      | removed m => exact absurd ⟨b, hb, hparent⟩ (hdestroyed x.id (h.answers.removed x hx m hphase) c)
      | ended => exact absurd hphase hended
      | _ => simp [LcmWorker.Undestroyed, hphase] at hlive
  · exact fun q hq c b hb hparent => hdestroyed q hq c ⟨b, hb, hparent⟩

/-- Nothing runs: only the documents matter. -/
theorem FamilyInv.of_idle {s : Lcm} (hworkers : s.workers = []) (hthreads : s.threads = [])
    (hentries : ∀ id, s.workerCollection id = none) (hgone : ∀ id ∈ s.destroyed, s.docs.get id = none)
    (hdocs : ∀ id b, s.docs.get id = some b → b.Unprotected)
    (hparents : ∀ c q, s.docs.HasParent c (some q) → ∃ b, s.docs.get q = some b ∧ c ∈ b.deployedBlueprints) : s.FamilyInv := by
  have hno {P : LcmWorker → Prop} : ∀ x ∈ s.workers, P x := by simp [hworkers]
  have hnone {P : Thread → Prop} : ∀ th ∈ s.threads, P th := by simp [hthreads]
  have hinv : s.GoneInv := by
    constructor
    · intro id
      simp [claims, hworkers, hthreads]
    · exact fun id hid => ⟨hgone id hid, hnone, hno⟩
  have hlinked : s.Linked := by
    constructor
    · intro id w hentry
      cases (hentries id).symm.trans hentry
    · exact hnone
  refine ⟨⟨hinv, hlinked, hno, hnone, hnone⟩, ⟨hdocs, hno, hnone⟩, ⟨hnone, hno, hno, hno, hnone, hnone⟩, ⟨?_, hno⟩, ?_⟩
  · intro t th q ht
    simp [hthreads] at ht
  · refine ⟨?_, hno, hnone, hno, hno, hno⟩
    intro c q hc
    obtain ⟨b, hb, hdeployed⟩ := hparents c q hc
    exact ⟨b, hb, .inl hdeployed⟩

theorem FamilyInv.restart {s : Lcm} (h : s.FamilyInv) (hcalls : ∀ x ∈ s.workers, x.phase.calls = false) :
    s.restart.FamilyInv := by
  apply FamilyInv.of_idle rfl rfl (fun _ => rfl)
  · exact fun id hid => (h.lineage.gone.gone id hid).doc
  · exact h.unguarded.docs
  · intro c q hc
    obtain ⟨b, hb, hdeployed | ⟨x, hx, -, m, t, hphase, -⟩⟩ := h.family.doc c q hc
    · exact ⟨b, hb, hdeployed⟩
    · have hfalse := hcalls x hx
      rw [hphase] at hfalse
      cases hfalse

theorem FamilyInv.step (e : FamilyStep) (s : Lcm) (horder : InOrder e s) (h : s.FamilyInv) : (s.familyStep e).FamilyInv := by
  cases e with
  | restart => exact h.restart horder
  | lcm e =>
    have htime : InTime e s := by
      cases e with
      | thread t => exact fun th hth => (horder th hth).1
      | _ => trivial
    have hlineage := Lineage.step e s htime h.lineage
    revert hlineage
    apply s.step_rule (P := fun s' => s'.Lineage → s'.FamilyInv) e
    · exact fun _ => h
    · exact fun r _ hlineage => h.request hlineage
    · intro t th next effect he ht hmoves hlineage
      subst he
      obtain ⟨⟨-, htimely⟩, hspares⟩ := horder th ht
      apply h.thread ht hmoves htimely _ _ hlineage
      · intro hpc howner
        unfold Thread.Spares at hspares
        rw [hpc] at hspares
        exact hspares howner
      · intro w blueId x hpc hrequest hx
        unfold Thread.Spares at hspares
        rw [hpc, hrequest] at hspares
        exact hspares x hx
    · exact fun w x action x' effect _ hx _ hmoves hlineage => h.worker hx hmoves hlineage

end Lcm

/-- In every run of creations, operations, direct deletions and restarts in which calls do not get
in each other's way: a blueprint with a parent is in the parent's `deployed_blueprints`, and a
parent whose `destroy` has returned has none. -/
theorem no_orphan_children (steps : List FamilyStep) (hsteps : Along Lcm.familyStep Lcm.InOrder {} steps)
    (before : List FamilyStep) (hbefore : before.IsPrefix steps) : (before.foldl Lcm.familyStep {}).NoOrphans := by
  apply Lcm.FamilyInv.noOrphans
  apply hsteps.invariant Lcm.FamilyInv.step steps _ before hbefore
  apply Lcm.FamilyInv.of_idle rfl rfl (fun _ => rfl)
  · simp
  · exact fun id b hb => by cases hb
  · rintro c q ⟨b, hb, -⟩
    cases hb

/-- A parent is created, and creates its child. -/
def parentAndChild : List LcmStep :=
  [.request (.create 1 false), .thread 0, .thread 0, .thread 0, .thread 0, .thread 0, .work 0 .take, .work 0 (.createChild 2),
    .thread 1, .thread 1, .thread 1, .thread 1, .thread 1, .work 1 .take, .work 1 .answer, .work 1 .finish, .thread 1,
    .work 0 .resume, .work 0 (.registerChildren 2), .work 0 .answer, .work 0 .finish]

/-- The user asks for the deletion of the child, and its `destroy` begins. -/
def childDeletion : List LcmStep :=
  [.request (.delete 2 false), .thread 2, .thread 2, .thread 2, .thread 2, .thread 2, .work 1 .take, .work 1 .next]

/-- The parent is loaded and deleted. -/
def parentDeletion : List LcmStep :=
  [.request (.delete 1 false), .thread 0, .thread 0, .thread 0, .thread 0, .thread 0, .thread 0, .thread 0, .work 0 .take,
    .work 0 .next, .thread 1, .thread 1, .work 0 .resume, .work 0 .next, .work 0 .next, .work 0 .next, .thread 2, .thread 2,
    .work 0 .resume, .work 0 .next, .work 0 .next]

/-- The parent is deleted by its running worker, and the child for it by a second worker. -/
def bothDeletions : List LcmStep :=
  [.request (.delete 1 false), .thread 3, .thread 3, .thread 3, .thread 3, .thread 3, .work 0 .take, .work 0 .next, .thread 4,
    .thread 4, .thread 4, .thread 4, .thread 4, .thread 4, .work 2 .take, .work 2 .next, .work 2 .next, .work 2 .next,
    .work 2 .next, .work 2 .next, .thread 4, .thread 4, .work 0 .resume, .work 0 .next, .work 0 .next, .work 0 .next,
    .work 0 .next]

/-- The user deletes the child, the manager is restarted and the parent deleted. -/
theorem no_orphan_children_destroyed :
    let childDeleted : List LcmStep := [.work 1 .next, .work 1 .next, .work 1 .next, .work 1 .next]
    let steps := (parentAndChild ++ childDeletion ++ childDeleted).map .lcm ++ .restart :: parentDeletion.map .lcm
    (steps.foldl Lcm.familyStep {}).NoOrphans ∧ (steps.foldl Lcm.familyStep {}).destroyed = [1, 2] := by
  intro childDeleted steps
  constructor
  · exact no_orphan_children steps (by decide) steps List.prefix_rfl
  · decide

/-- No protection, no exception in a worker, no restart. -/
def FamilyStep.Plain : FamilyStep → Prop
  | .lcm (.request (.protect _ _)) | .lcm (.work _ .crash) | .restart => False
  | _ => True

instance (e : FamilyStep) : Decidable e.Plain := by
  unfold FamilyStep.Plain
  split <;> exact inferInstance

set_option maxRecDepth 2000 in
/-- The child is being destroyed when its parent is: a second worker destroys it for the parent,
and then the first one saves it again. -/
theorem no_orphan_children_fails :
    ¬ ∀ steps : List FamilyStep, (∀ e ∈ steps, e.Plain) → (steps.foldl Lcm.familyStep {}).NoOrphans := by
  intro h
  have hno := h ((parentAndChild ++ childDeletion ++ bothDeletions ++ [LcmStep.work 1 .next, LcmStep.work 1 .next]).map .lcm) (by decide)
  exact hno.destroyed 1 (by decide) 2 { parentBlueId := some 1 } (by decide) rfl

end Nfvcl
