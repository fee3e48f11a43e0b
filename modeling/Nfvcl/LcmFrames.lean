import Mathlib.Data.List.Basic
import Nfvcl.DestroyedBlueprints

namespace Nfvcl
set_option autoImplicit true

/-- The same worker as far as the family of its blueprint goes. -/
structure LcmWorker.Like (y x : LcmWorker) : Prop where
  id : y.id = x.id
  phase : y.phase = x.phase
  parent : y.blueprint.parentBlueId = x.blueprint.parentBlueId
  deployed : y.blueprint.deployedBlueprints = x.blueprint.deployedBlueprints

theorem LcmWorker.Like.undestroyed {x y : LcmWorker} (h : y.Like x) : y.Undestroyed ↔ x.Undestroyed := by
  unfold LcmWorker.Undestroyed
  rw [h.phase]

theorem Thread.Moves.unfinished {th : Thread} (h : th.Moves t s next effect) : ¬ th.pc.Finished := by
  rintro (hpc | ⟨e, hpc⟩)
  · cases h <;> simp_all
  · cases h <;> simp_all

namespace LcmWorker.Moves

variable {x : LcmWorker}

theorem parent_eq (h : x.Moves threads x' effect) : x'.blueprint.parentBlueId = x.blueprint.parentBlueId := by
  cases h with
  | childDeleted hphase hthread hpc =>
    rcases deregister_cases _ _ _ _ with h | h
    · rw [h]; rfl
    · rw [h]; rfl
  | childAbsent hphase hthread hpc =>
    rcases deregister_cases _ _ _ _ with h | h
    · rw [h]; rfl
    · rw [h]
  | _ => rfl

/-- What a worker saves is its blueprint, up to the children. -/
theorem saves (h : x.Moves threads x' (.save b)) : b.parentBlueId = x.blueprint.parentBlueId ∧
    b.deployedBlueprints = x'.blueprint.deployedBlueprints := by
  cases h with
  | childDeleted hphase hthread hpc =>
    rcases deregister_cases _ _ _ _ with h | h
    · rw [h]; exact ⟨rfl, rfl⟩
    · rw [h]; exact ⟨rfl, rfl⟩
  | _ => exact ⟨rfl, rfl⟩

end LcmWorker.Moves

namespace Lcm

/-- What becomes of the documents and of the destroyed ids at a step, of the thread at a position
if it is the step of a thread. -/
inductive Writes (s : Lcm) (actor : Option Nat) : BlueDocs → List BlueId → Prop
  | none : Writes s actor s.docs s.destroyed
  | create {th : Thread} {t : Nat} (hactor : actor = some t) (hth : s.threads[t]? = some th) (hpc : th.pc = .saveNew) :
      Writes s actor (s.docs.saveNgBlue th.request.id { parentBlueId := th.owner }) s.destroyed
  | save {x : LcmWorker} (hx : x ∈ s.workers) (hlive : x.Undestroyed) (hparent : b.parentBlueId = x.blueprint.parentBlueId)
      (hflag : b.isProtected = x.blueprint.isProtected) : Writes s actor (s.docs.saveNgBlue x.id b) s.destroyed
  | remove {x : LcmWorker} (hx : x ∈ s.workers) (hphase : x.phase = .removing m) :
      Writes s actor (s.docs.destroyNgBlue x.id) (x.id :: s.destroyed)

theorem Writes.destroyed_of_mem {s : Lcm} {id : BlueId} (h : s.Writes actor docs' destroyed') (hid : id ∈ s.destroyed) :
    id ∈ destroyed' := by
  cases h with
  | remove hx hphase => exact List.mem_cons_of_mem _ hid
  | _ => exact hid

section Threads

variable {s : Lcm} {th : Thread}

/-- After a call has gone on. -/
def afterThread (s : Lcm) (t : Nat) (th : Thread) (next : Pc) (effect : ThreadEffect) : Lcm :=
  (s.applyThread th.request.id effect).setThread t { th with pc := next }

theorem afterThread_destroyed : (s.afterThread t th next effect).destroyed = s.destroyed :=
  s.applyThread_destroyed th.request.id effect

theorem afterThread_thread (ht : s.threads[t]? = some th)
    (h : (s.afterThread t th next effect).threads[j]? = some th') :
    (j ≠ t ∧ s.threads[j]? = some th') ∨ (j = t ∧ th' = { th with pc := next }) := by
  unfold afterThread setThread at h
  simp only [applyThread_threads] at h
  by_cases hj : t = j
  · subst hj
    rw [List.getElem?_set_self (List.getElem?_eq_some_iff.1 ht).1] at h
    exact .inr ⟨rfl, (Option.some.inj h).symm⟩
  · rw [List.getElem?_set_ne hj] at h
    exact .inl ⟨Ne.symm hj, h⟩

theorem afterThread_self (ht : s.threads[t]? = some th) :
    (s.afterThread t th next effect).threads[t]? = some { th with pc := next } := by
  unfold afterThread setThread
  simp only [applyThread_threads]
  exact List.getElem?_set_self (List.getElem?_eq_some_iff.1 ht).1

theorem afterThread_other (hj : j ≠ t) : (s.afterThread t th next effect).threads[j]? = s.threads[j]? := by
  unfold afterThread setThread
  simp only [applyThread_threads]
  exact List.getElem?_set_ne (Ne.symm hj)

/-- The threads a call leaves are the threads there were, one of them moved on. -/
theorem afterThread_mem (ht : s.threads[t]? = some th) (h : th' ∈ (s.afterThread t th next effect).threads) :
    th' ∈ s.threads ∨ th' = { th with pc := next } := by
  obtain ⟨j, hj⟩ := List.mem_iff_getElem?.1 h
  rcases afterThread_thread ht hj with ⟨-, hold⟩ | ⟨-, hnew⟩
  · exact .inl (List.mem_of_getElem? hold)
  · exact .inr hnew

theorem afterThread_worker {y : LcmWorker} (hmoves : th.Moves t s next effect)
    (hy : y ∈ (s.afterThread t th next effect).workers) :
    (∃ x ∈ s.workers, y.Like x) ∨ ∃ b, th.pc = .start b ∧ y = { id := th.request.id, blueprint := b } := by
  obtain ⟨j, hj⟩ := List.mem_iff_getElem?.1 hy
  rcases s.applyThread_worker hj with hold | ⟨x, m, -, hx, rfl⟩ | ⟨x, value, -, hx, rfl⟩ | ⟨b, rfl, -, rfl⟩
  · exact .inl ⟨y, List.mem_of_getElem? hold, rfl, rfl, rfl, rfl⟩
  · exact .inl ⟨x, List.mem_of_getElem? hx, rfl, rfl, rfl, rfl⟩
  · exact .inl ⟨x, List.mem_of_getElem? hx, rfl, rfl, rfl, rfl⟩
  · right
    cases hmoves with
    | start hpc => exact ⟨b, hpc, rfl⟩

theorem afterThread_keeps {x : LcmWorker} (hx : x ∈ s.workers) (t : Nat) (th : Thread) (next : Pc) (effect : ThreadEffect) :
    ∃ y ∈ (s.afterThread t th next effect).workers, y.Like x := by
  obtain ⟨j, hj⟩ := List.mem_iff_getElem?.1 hx
  have hset (w : Nat) (z z' : LcmWorker) (hz : s.workers[w]? = some z) (hlike : z'.Like z) :
      ∃ y ∈ s.workers.set w z', y.Like x := by
    by_cases hw : w = j
    · subst hw
      rw [hz] at hj
      cases hj
      exact ⟨z', List.mem_of_getElem? (List.getElem?_set_self (List.getElem?_eq_some_iff.1 hz).1), hlike⟩
    · exact ⟨x, List.mem_of_getElem? ((List.getElem?_set_ne hw).trans hj), rfl, rfl, rfl, rfl⟩
  have hsame : ∃ y ∈ s.workers, y.Like x := ⟨x, hx, rfl, rfl, rfl, rfl⟩
  cases effect with
  | addWorker b => exact ⟨x, List.mem_append_left _ hx, rfl, rfl, rfl, rfl⟩
  | put w m =>
    apply s.onWorker_rule (P := fun s' => ∃ y ∈ s'.workers, y.Like x) hsame
    exact fun z hz => hset w z _ hz ⟨rfl, rfl, rfl, rfl⟩
  | setFlag w value =>
    apply s.onWorker_rule (P := fun s' => ∃ y ∈ s'.workers, y.Like x) hsame
    exact fun z hz => hset w z _ hz ⟨rfl, rfl, rfl, rfl⟩
  | saveFlag w value => exact s.onWorker_rule (P := fun s' => ∃ y ∈ s'.workers, y.Like x) hsame (fun _ _ => hsame)
  | _ => exact hsame

theorem afterThread_writes (ht : s.threads[t]? = some th) (hmoves : th.Moves t s next effect) (htimely : th.Timely s) :
    s.Writes (some t) (s.afterThread t th next effect).docs (s.afterThread t th next effect).destroyed := by
  rw [afterThread_destroyed]
  change s.Writes (some t) (s.applyThread th.request.id effect).docs s.destroyed
  cases hmoves with
  | saveNew hpc hb =>
    subst hb
    exact .create rfl ht hpc
  | saveFlag hpc hrequest =>
    apply s.onWorker_rule (P := fun s' => s.Writes (some t) s'.docs s.destroyed) .none
    intro x hx
    unfold Thread.Timely at htimely
    rw [hpc] at htimely
    exact .save (List.mem_of_getElem? hx) (htimely x hx) rfl rfl
  | _ =>
    rw [applyThread_docs s (by nofun) (by nofun)]
    exact .none

/-- A document after a call has gone on: as it was, new, or as a worker has it. -/
theorem afterThread_doc (hmoves : th.Moves t s next effect) (htimely : th.Timely s)
    (hb : (s.afterThread t th next effect).docs.get q = some b) :
    s.docs.get q = some b ∨ (th.pc = .saveNew ∧ th.request.id = q) ∨
      ∃ x ∈ s.workers, x.Undestroyed ∧ x.id = q ∧ x.blueprint = b := by
  change (s.applyThread th.request.id effect).docs.get q = some b at hb
  cases hmoves with
  | saveNew hpc hb' =>
    change (s.docs.saveNgBlue th.request.id _).get q = some b at hb
    rw [BlueDocs.get_saveNgBlue] at hb
    split at hb
    next hid => exact .inr (.inl ⟨hpc, hid⟩)
    · exact .inl hb
  | saveFlag hpc hrequest =>
    unfold applyThread onWorker at hb
    simp only at hb
    split at hb
    · exact .inl hb
    next x hx =>
      change (s.docs.saveNgBlue x.id x.blueprint).get q = some b at hb
      rw [BlueDocs.get_saveNgBlue] at hb
      split at hb
      next hid =>
        unfold Thread.Timely at htimely
        rw [hpc] at htimely
        exact .inr (.inr ⟨x, List.mem_of_getElem? hx, htimely x hx, hid, Option.some.inj hb⟩)
      · exact .inl hb
  | _ =>
    rw [applyThread_docs s (by nofun) (by nofun)] at hb
    exact .inl hb

end Threads

section Workers

variable {s : Lcm} {x : LcmWorker}

/-- After a worker has gone on. -/
def afterWorker (s : Lcm) (w : Nat) (x x' : LcmWorker) (effect : WorkerEffect) : Lcm :=
  (s.applyWorker x.id effect).setWorker w x'

theorem afterWorker_mem (hy : y ∈ (s.afterWorker w x x' effect).workers) : y ∈ s.workers ∨ y = x' := by
  unfold afterWorker setWorker at hy
  rw [applyWorker_workers] at hy
  exact List.mem_or_eq_of_mem_set hy

theorem afterWorker_self (hx : s.workers[w]? = some x) : x' ∈ (s.afterWorker w x x' effect).workers := by
  unfold afterWorker setWorker
  rw [applyWorker_workers]
  exact List.mem_of_getElem? (List.getElem?_set_self (List.getElem?_eq_some_iff.1 hx).1)

theorem afterWorker_other (hx : s.workers[w]? = some x) (hy : y ∈ s.workers) :
    y = x ∨ y ∈ (s.afterWorker w x x' effect).workers := by
  obtain ⟨j, hj⟩ := List.mem_iff_getElem?.1 hy
  by_cases hw : w = j
  · subst hw
    rw [hx] at hj
    exact .inl (Option.some.inj hj).symm
  · right
    unfold afterWorker setWorker
    rw [applyWorker_workers]
    exact List.mem_of_getElem? ((List.getElem?_set_ne hw).trans hj)

/-- The threads a worker leaves: it sets an event or makes a call. -/
theorem afterWorker_thread {j : Nat} (h : (s.afterWorker w x x' effect).threads[j]? = some th') :
    (∃ th, s.threads[j]? = some th ∧
      (th' = th ∨ (th' = { th with event := true } ∧ ∃ m, effect = .answer m ∧ m.caller = some j))) ∨
      ∃ r, effect = .spawn r ∧ j = s.threads.length ∧ th' = { request := r, owner := some x.id, pc := r.entry } := by
  change (s.applyWorker x.id effect).threads[j]? = some th' at h
  cases effect with
  | spawn r =>
    rcases Nat.lt_trichotomy j s.threads.length with hlt | heq | hgt
    · exact .inl ⟨th', (List.getElem?_append_left hlt).symm.trans h, .inl rfl⟩
    · subst heq
      exact .inr ⟨r, rfl, rfl, (Option.some.inj (List.getElem?_concat_length.symm.trans h)).symm⟩
    · have hnone : (s.threads ++ [{ request := r, owner := some x.id, pc := r.entry }])[j]? = none :=
        List.getElem?_eq_none (by rw [List.length_append, List.length_singleton]; omega)
      cases hnone.symm.trans h
  | answer m =>
    left
    unfold applyWorker at h
    simp only at h
    split at h
    · exact ⟨th', h, .inl rfl⟩
    next t hcaller =>
      split at h
      · exact ⟨th', h, .inl rfl⟩
      next th hth =>
        by_cases hj : t = j
        · subst hj
          unfold setThread at h
          simp only at h
          rw [List.getElem?_set_self (List.getElem?_eq_some_iff.1 hth).1] at h
          exact ⟨th, hth, .inr ⟨(Option.some.inj h).symm, m, rfl, hcaller⟩⟩
        · exact ⟨th', (List.getElem?_set_ne hj).symm.trans h, .inl rfl⟩
  | _ => exact .inl ⟨th', h, .inl rfl⟩

theorem afterWorker_keeps {th : Thread} {j : Nat} (h : s.threads[j]? = some th) (w : Nat) (x x' : LcmWorker)
    (effect : WorkerEffect) :
    ∃ th' : Thread, (s.afterWorker w x x' effect).threads[j]? = some th' ∧ th'.request = th.request ∧ th'.owner = th.owner ∧
      th'.pc = th.pc := by
  change ∃ th' : Thread, (s.applyWorker x.id effect).threads[j]? = some th' ∧ _
  have hlt := (List.getElem?_eq_some_iff.1 h).1
  cases effect with
  | spawn r => exact ⟨th, (List.getElem?_append_left hlt).trans h, rfl, rfl, rfl⟩
  | answer m =>
    unfold applyWorker
    simp only
    split
    · exact ⟨th, h, rfl, rfl, rfl⟩
    next t hcaller =>
      split
      · exact ⟨th, h, rfl, rfl, rfl⟩
      next th₁ hth₁ =>
        by_cases hj : t = j
        · subst hj
          rw [h] at hth₁
          cases hth₁
          exact ⟨_, List.getElem?_set_self hlt, rfl, rfl, rfl⟩
        · exact ⟨th, (List.getElem?_set_ne hj).trans h, rfl, rfl, rfl⟩
  | _ => exact ⟨th, h, rfl, rfl, rfl⟩

theorem afterWorker_writes (hx : x ∈ s.workers) (hmoves : x.Moves s.threads x' effect) :
    s.Writes Option.none (s.afterWorker w x x' effect).docs (s.afterWorker w x x' effect).destroyed := by
  change s.Writes Option.none (s.applyWorker x.id effect).docs (s.applyWorker x.id effect).destroyed
  cases effect with
  | quiet => exact .none
  | save b => exact .save hx hmoves.undestroyed_of_save hmoves.saves.1 hmoves.save_isProtected
  | spawn r => exact .none
  | answer m =>
    unfold applyWorker
    simp only
    split
    · exact .none
    · split
      · exact .none
      · exact .none
  | destroyNgBlue =>
    cases hmoves with
    | remove hphase => exact .remove hx hphase

/-- A document after a worker has gone on: what the worker saved, or as it was. -/
theorem afterWorker_doc (hmoves : x.Moves s.threads x' effect)
    (hb : (s.afterWorker w x x' effect).docs.get q = some b) :
    (effect = .save b ∧ x.id = q) ∨ (s.docs.get q = some b ∧ (x.id = q → ∀ b', effect ≠ .save b')) := by
  change (s.applyWorker x.id effect).docs.get q = some b at hb
  cases effect with
  | save b' =>
    change (s.docs.saveNgBlue x.id b').get q = some b at hb
    rw [BlueDocs.get_saveNgBlue] at hb
    split at hb
    next hid =>
      cases hb
      exact .inl ⟨rfl, hid⟩
    next hid => exact .inr ⟨hb, fun hid' => absurd hid' hid⟩
  | destroyNgBlue =>
    change (s.docs.destroyNgBlue x.id).get q = some b at hb
    rw [BlueDocs.get_destroyNgBlue] at hb
    split at hb
    · cases hb
    · exact .inr ⟨hb, by nofun⟩
  | answer m =>
    right
    unfold applyWorker at hb
    simp only at hb
    split at hb
    · exact ⟨hb, by nofun⟩
    · split at hb
      · exact ⟨hb, by nofun⟩
      · exact ⟨hb, by nofun⟩
  | _ => exact .inr ⟨hb, by nofun⟩

end Workers

end Lcm

end Nfvcl
