import Mathlib.Data.List.Basic
import Nfvcl.LcmFrames

namespace Nfvcl
set_option autoImplicit true

/-- There is a document of the blueprint, and it names this parent. -/
def BlueDocs.HasParent (docs : BlueDocs) (id : BlueId) (parent : Option BlueId) : Prop :=
  ∃ b, docs.get id = some b ∧ b.parentBlueId = parent

theorem BlueDocs.HasParent.unique {docs : BlueDocs} {id : BlueId} (h : docs.HasParent id p) (h' : docs.HasParent id q) : p = q := by
  obtain ⟨b, hb, rfl⟩ := h
  obtain ⟨b', hb', rfl⟩ := h'
  rw [hb] at hb'
  cases hb'
  rfl

/-- A blueprint with a parent is not protected. -/
def Blueprint.Unprotected (b : Blueprint) : Prop := b.parentBlueId ≠ none → b.isProtected = false

namespace Lcm

/-- The parent of a blueprint is the same in its document, its workers and the calls that start one. -/
structure Lineage (s : Lcm) : Prop where
  gone : s.GoneInv
  linked : s.Linked
  workers : ∀ x ∈ s.workers, x.id ∈ s.destroyed ∨ s.docs.HasParent x.id x.blueprint.parentBlueId
  starts : ∀ th ∈ s.threads, ∀ b, th.pc = .start b → s.docs.HasParent th.request.id b.parentBlueId
  news : ∀ th ∈ s.threads, th.pc = .saveNew → s.docs.get th.request.id = none

namespace Lineage

variable {s s' : Lcm} {docs : BlueDocs} {destroyed : List BlueId} {id : BlueId} {t : Nat}

theorem known (h : s.Lineage) {x : LcmWorker} (hx : x ∈ s.workers) (hlive : x.Undestroyed) :
    s.docs.HasParent x.id x.blueprint.parentBlueId := by
  rcases h.workers x hx with hdestroyed | hparent
  · exact absurd hlive ((h.gone.gone x.id hdestroyed).workers x hx rfl)
  · exact hparent

/-- A document keeps its parent until it is removed. -/
theorem forward (h : s.Lineage) (hwrites : s.Writes actor docs destroyed) (hp : s.docs.HasParent id p) :
    docs.HasParent id p ∨ id ∈ destroyed := by
  obtain ⟨b, hb, rfl⟩ := hp
  cases hwrites with
  | none => exact .inl ⟨b, hb, rfl⟩
  | create hactor hth hpc =>
    left
    refine ⟨b, ?_, rfl⟩
    rw [BlueDocs.get_saveNgBlue, if_neg, hb]
    rintro rfl
    rw [h.news _ (List.mem_of_getElem? hth) hpc] at hb
    cases hb
  | save hx hlive hparent hflag =>
    rename_i b' x
    left
    by_cases hid : x.id = id
    · subst hid
      refine ⟨b', by rw [BlueDocs.get_saveNgBlue, if_pos rfl], ?_⟩
      rw [hparent]
      exact (h.known hx hlive).unique ⟨b, hb, rfl⟩
    · exact ⟨b, by rw [BlueDocs.get_saveNgBlue, if_neg hid, hb], rfl⟩
  | remove hx hphase =>
    rename_i m x
    by_cases hid : x.id = id
    · exact .inr (List.mem_cons.2 (.inl hid.symm))
    · exact .inl ⟨b, by rw [BlueDocs.get_destroyNgBlue, if_neg hid, hb], rfl⟩

/-- A document is new, or its parent is what it was. -/
theorem back (h : s.Lineage) (hwrites : s.Writes actor docs destroyed) (hp : docs.HasParent id p) :
    s.docs.HasParent id p ∨ ∃ (t : Nat) (th : Thread), actor = some t ∧ s.threads[t]? = some th ∧ th.pc = .saveNew ∧
      th.request.id = id ∧ th.owner = p := by
  obtain ⟨b, hb, rfl⟩ := hp
  cases hwrites with
  | none => exact .inl ⟨b, hb, rfl⟩
  | create hactor hth hpc =>
    rename_i th t
    rw [BlueDocs.get_saveNgBlue] at hb
    split at hb
    next hid =>
      cases hb
      exact .inr ⟨t, th, hactor, hth, hpc, hid, rfl⟩
    · exact .inl ⟨b, hb, rfl⟩
  | save hx hlive hparent hflag =>
    left
    rw [BlueDocs.get_saveNgBlue] at hb
    split at hb
    next hid =>
      cases hb
      rw [← hid, hparent]
      exact h.known hx hlive
    · exact ⟨b, hb, rfl⟩
  | remove hx hphase =>
    left
    rw [BlueDocs.get_destroyNgBlue] at hb
    split at hb
    · cases hb
    · exact ⟨b, hb, rfl⟩

/-- Nobody else writes the document of a blueprint that is about to be saved first. -/
theorem stays_new (h : s.Lineage) (hwrites : s.Writes actor docs destroyed) {th : Thread} (ht : s.threads[t]? = some th)
    (hpc : th.pc = .saveNew) (hactor : actor ≠ some t) : docs.get th.request.id = none := by
  have hnone := h.news th (List.mem_of_getElem? ht) hpc
  have hclaims : th.claims th.request.id = true := by simp [Thread.claims, hpc, Pc.claims]
  cases hwrites with
  | none => exact hnone
  | create hactor' hth' hpc' =>
    rename_i th' t'
    rw [BlueDocs.get_saveNgBlue, if_neg, hnone]
    intro hid
    have hclaims' : th'.claims th.request.id = true := by simp [Thread.claims, hpc', Pc.claims, hid]
    have hcount : s.threads.countP (fun th'' => th''.claims th.request.id) ≤ 1 :=
      (Nat.le_add_left _ _).trans (h.gone.claims th.request.id)
    rcases Nat.lt_trichotomy t t' with hlt | rfl | hlt
    · have := two_le_countP (p := fun th'' => th''.claims th.request.id) ht hth' hlt hclaims hclaims'
      omega
    · exact hactor hactor'
    · have := two_le_countP (p := fun th'' => th''.claims th.request.id) hth' ht hlt hclaims' hclaims
      omega
  | save hx hlive hparent hflag =>
    rename_i b x
    rw [BlueDocs.get_saveNgBlue, if_neg, hnone]
    intro hid
    obtain ⟨w, hw⟩ := List.mem_iff_getElem?.1 hx
    have hended : x.phase ≠ .ended := by
      intro hphase
      simp [LcmWorker.Undestroyed, hphase] at hlive
    have hfalse := no_claim_of_live (h.gone.claims x.id) hw hended th (List.mem_of_getElem? ht) hid.symm
    rw [hpc] at hfalse
    cases hfalse
  | remove hx hphase => rw [BlueDocs.get_destroyNgBlue, hnone, ite_self]

/-- Every step keeps the documents' side of it. -/
theorem of_writes (h : s.Lineage) (hgone : s'.GoneInv) (hlinked : s'.Linked) (hwrites : s.Writes actor s'.docs s'.destroyed)
    (hworkers : ∀ y ∈ s'.workers, (∃ x ∈ s.workers, y.id = x.id ∧ y.blueprint.parentBlueId = x.blueprint.parentBlueId) ∨
      s'.docs.HasParent y.id y.blueprint.parentBlueId)
    (hstarts : ∀ th ∈ s'.threads, ∀ b, th.pc = .start b → s.docs.HasParent th.request.id b.parentBlueId ∨
      s'.docs.HasParent th.request.id b.parentBlueId)
    (hnews : ∀ th ∈ s'.threads, th.pc = .saveNew → s'.docs.get th.request.id = none) : s'.Lineage := by
  refine ⟨hgone, hlinked, ?_, ?_, hnews⟩
  · intro y hy
    rcases hworkers y hy with ⟨x, hx, hid, hparent⟩ | hnew
    · rw [hid, hparent]
      rcases h.workers x hx with hdestroyed | hold
      · exact .inl (hwrites.destroyed_of_mem hdestroyed)
      · exact (h.forward hwrites hold).symm
    · exact .inr hnew
  · intro th hth b hpc
    rcases hstarts th hth b hpc with hold | hnew
    · rcases h.forward hwrites hold with hkept | hdestroyed
      · exact hkept
      · have hfalse := (hgone.gone _ hdestroyed).threads th hth
        simp [Thread.claims, hpc, Pc.claims] at hfalse
    · exact hnew

theorem spawn (h : s.Lineage) (hgone : (s.spawn r owner).GoneInv) : (s.spawn r owner).Lineage := by
  have hth {th : Thread} (hth : th ∈ (s.spawn r owner).threads) :
      th ∈ s.threads ∨ th.pc = .check ∨ th.pc = .test := by
    rcases List.mem_append.1 hth with hold | hnew
    · exact .inl hold
    · rw [List.mem_singleton.1 hnew]
      cases r <;> simp [Request.entry]
  refine ⟨hgone, h.linked.spawn r owner, h.workers, ?_, ?_⟩
  · intro th hmem b hpc
    rcases hth hmem with hold | hcheck | htest
    · exact h.starts th hold b hpc
    · cases hcheck.symm.trans hpc
    · cases htest.symm.trans hpc
  · intro th hmem hpc
    rcases hth hmem with hold | hcheck | htest
    · exact h.news th hold hpc
    · cases hcheck.symm.trans hpc
    · cases htest.symm.trans hpc

theorem thread (h : s.Lineage) {th : Thread} (ht : s.threads[t]? = some th) (hmoves : th.Moves t s next effect)
    (htimely : th.Timely s) (hgone : (s.afterThread t th next effect).GoneInv)
    (hlinked : (s.afterThread t th next effect).Linked) : (s.afterThread t th next effect).Lineage := by
  have hwrites := afterThread_writes ht hmoves htimely
  apply h.of_writes hgone hlinked hwrites
  · intro y hy
    rcases afterThread_worker hmoves hy with ⟨x, hx, hlike⟩ | ⟨b, hpc, rfl⟩
    · exact .inl ⟨x, hx, hlike.id, hlike.parent⟩
    · right
      rcases h.forward hwrites (h.starts th (List.mem_of_getElem? ht) b hpc) with hkept | hdestroyed
      · exact hkept
      · rw [afterThread_destroyed] at hdestroyed
        have hfalse := (h.gone.gone _ hdestroyed).threads th (List.mem_of_getElem? ht)
        simp [Thread.claims, hpc, Pc.claims] at hfalse
  · intro th' hth' b hpc
    rcases afterThread_mem ht hth' with hold | rfl
    · exact .inl (h.starts th' hold b hpc)
    · simp only at hpc
      subst hpc
      cases hmoves with
      | saveNew hpc hb =>
        right
        refine ⟨b, ?_, rfl⟩
        change (s.docs.saveNgBlue th.request.id b).get th.request.id = some b
        rw [BlueDocs.get_saveNgBlue, if_pos rfl]
      | load hpc hdoc => exact .inl ⟨b, hdoc, rfl⟩
      | send hpc hrequest hm hnext hcaller => rcases hnext with hnext | ⟨hnext, -⟩ <;> cases hnext
  · intro th' hth' hpc
    obtain ⟨j, hj⟩ := List.mem_iff_getElem?.1 hth'
    rcases afterThread_thread ht hj with ⟨hjt, hold⟩ | ⟨rfl, rfl⟩
    · exact h.stays_new hwrites hold hpc (fun heq => hjt (Option.some.inj heq).symm)
    · simp only at hpc
      subst hpc
      cases hmoves with
      | reserve hpc hdoc => exact hdoc
      | send hpc hrequest hm hnext hcaller => rcases hnext with hnext | ⟨hnext, -⟩ <;> cases hnext

theorem worker (h : s.Lineage) {x : LcmWorker} (hx : s.workers[w]? = some x) (hmoves : x.Moves s.threads x' effect)
    (hgone : (s.afterWorker w x x' effect).GoneInv) (hlinked : (s.afterWorker w x x' effect).Linked) :
    (s.afterWorker w x x' effect).Lineage := by
  have hwrites := afterWorker_writes (w := w) (List.mem_of_getElem? hx) hmoves
  apply h.of_writes hgone hlinked hwrites
  · intro y hy
    left
    rcases afterWorker_mem hy with hold | rfl
    · exact ⟨y, hold, rfl, rfl⟩
    · exact ⟨x, List.mem_of_getElem? hx, hmoves.id_eq, hmoves.parent_eq⟩
  · intro th' hth' b hpc
    left
    obtain ⟨j, hj⟩ := List.mem_iff_getElem?.1 hth'
    rcases afterWorker_thread hj with ⟨th, hth, rfl | ⟨rfl, -⟩⟩ | ⟨r, -, -, rfl⟩
    · exact h.starts th' (List.mem_of_getElem? hth) b hpc
    · exact h.starts th (List.mem_of_getElem? hth) b hpc
    · cases r <;> cases hpc
  · intro th' hth' hpc
    obtain ⟨j, hj⟩ := List.mem_iff_getElem?.1 hth'
    rcases afterWorker_thread hj with ⟨th, hth, rfl | ⟨rfl, -⟩⟩ | ⟨r, -, -, rfl⟩
    · exact h.stays_new hwrites hth hpc (by nofun)
    · have hnew : th.pc = .saveNew := hpc
      have hnone := h.stays_new hwrites hth hnew (by nofun)
      exact hnone
    · cases r <;> cases hpc

theorem step (e : LcmStep) (s : Lcm) (htime : InTime e s) (h : s.Lineage) : (s.step e).Lineage := by
  have hgone := GoneInv.step e s htime h.gone
  have hlinked := h.linked.step e
  revert hgone hlinked
  apply s.step_rule (P := fun s' => s'.GoneInv → s'.Linked → s'.Lineage) e
  · exact fun _ _ => h
  · exact fun r _ hgone _ => h.spawn hgone
  · intro t th next effect he ht hmoves hgone hlinked
    subst he
    exact h.thread ht hmoves (htime th ht).2 hgone hlinked
  · intro w x action x' effect _ hx _ hmoves hgone hlinked
    exact h.worker hx hmoves hgone hlinked

end Lineage

/-- Nothing that has a parent is protected. -/
structure Unguarded (s : Lcm) : Prop where
  docs : ∀ id b, s.docs.get id = some b → b.Unprotected
  workers : ∀ x ∈ s.workers, x.blueprint.Unprotected
  starts : ∀ th ∈ s.threads, ∀ b, th.pc = .start b → b.Unprotected

namespace Unguarded

variable {s : Lcm} {docs : BlueDocs} {destroyed : List BlueId} {id : BlueId} {t : Nat}

theorem writes (h : s.Unguarded) (hwrites : s.Writes actor docs destroyed) (hb : docs.get id = some b) : b.Unprotected := by
  cases hwrites with
  | none => exact h.docs id b hb
  | create hactor hth hpc =>
    rw [BlueDocs.get_saveNgBlue] at hb
    split at hb
    · cases hb
      exact fun _ => rfl
    · exact h.docs id b hb
  | save hx hlive hparent hflag =>
    rw [BlueDocs.get_saveNgBlue] at hb
    split at hb
    · cases hb
      intro hne
      rw [hflag]
      exact h.workers _ hx (hparent ▸ hne)
    · exact h.docs id b hb
  | remove hx hphase =>
    rw [BlueDocs.get_destroyNgBlue] at hb
    split at hb
    · cases hb
    · exact h.docs id b hb

theorem spawn (h : s.Unguarded) : (s.spawn r owner).Unguarded := by
  refine ⟨h.docs, h.workers, ?_⟩
  intro th hth b hpc
  rcases List.mem_append.1 hth with hold | hnew
  · exact h.starts th hold b hpc
  · rw [List.mem_singleton.1 hnew] at hpc
    cases r <;> cases hpc

/-- A flag is set on a blueprint without parent only. -/
theorem thread (h : s.Unguarded) {th : Thread} (ht : s.threads[t]? = some th) (hmoves : th.Moves t s next effect)
    (htimely : th.Timely s)
    (hspares : ∀ w blueId x, th.pc = .use w → th.request = .protect blueId true → s.workers[w]? = some x →
      x.blueprint.parentBlueId = none) : (s.afterThread t th next effect).Unguarded := by
  have hwrites := afterThread_writes ht hmoves htimely
  refine ⟨fun id b hb => h.writes hwrites hb, ?_, ?_⟩
  · intro y hy
    obtain ⟨j, hj⟩ := List.mem_iff_getElem?.1 hy
    rcases s.applyThread_worker hj with hold | ⟨x, m, -, hx, rfl⟩ | ⟨x, value, rfl, hx, rfl⟩ | ⟨b, rfl, -, rfl⟩
    · exact h.workers y (List.mem_of_getElem? hold)
    · exact h.workers x (List.mem_of_getElem? hx)
    · cases value with
      | false => exact fun _ => rfl
      | true =>
        cases hmoves with
        | setFlag hpc hrequest => exact fun hne => absurd (hspares j _ x hpc hrequest hx) hne
    · cases hmoves with
      | start hpc => exact h.starts th (List.mem_of_getElem? ht) b hpc
  · intro th' hth' b hpc
    rcases afterThread_mem ht hth' with hold | rfl
    · exact h.starts th' hold b hpc
    · simp only at hpc
      subst hpc
      cases hmoves with
      | saveNew hpc hb =>
        subst hb
        exact fun _ => rfl
      | load hpc hdoc => exact h.docs _ b hdoc
      | send hpc hrequest hm hnext hcaller => rcases hnext with hnext | ⟨hnext, -⟩ <;> cases hnext

theorem worker (h : s.Unguarded) {x : LcmWorker} (hx : s.workers[w]? = some x) (hmoves : x.Moves s.threads x' effect) :
    (s.afterWorker w x x' effect).Unguarded := by
  have hwrites := afterWorker_writes (w := w) (List.mem_of_getElem? hx) hmoves
  refine ⟨fun id b hb => h.writes hwrites hb, ?_, ?_⟩
  · intro y hy
    rcases afterWorker_mem hy with hold | rfl
    · exact h.workers y hold
    · intro hne
      rw [hmoves.isProtected_eq]
      exact h.workers x (List.mem_of_getElem? hx) (hmoves.parent_eq ▸ hne)
  · intro th' hth' b hpc
    obtain ⟨j, hj⟩ := List.mem_iff_getElem?.1 hth'
    rcases afterWorker_thread hj with ⟨th, hth, rfl | ⟨rfl, -⟩⟩ | ⟨r, -, -, rfl⟩
    · exact h.starts th' (List.mem_of_getElem? hth) b hpc
    · exact h.starts th (List.mem_of_getElem? hth) b hpc
    · cases r <;> cases hpc

end Unguarded

end Lcm

end Nfvcl
