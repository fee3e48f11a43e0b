import Mathlib.Data.List.Basic
import Nfvcl.LcmSteps

namespace Nfvcl
set_option autoImplicit true

theorem countP_set_add {p : α → Bool} {l : List α} (hi : l[i]? = some a) (b : α) :
    (l.set i b).countP p + (p a).toNat = l.countP p + (p b).toNat := by
  obtain ⟨hlt, rfl⟩ := List.getElem?_eq_some_iff.1 hi
  have hcount := List.countP_set (p := p) (a := b) hlt
  have hpos : p l[i] = true → 0 < l.countP p := fun h => List.countP_pos_iff.2 ⟨_, List.getElem_mem hlt, h⟩
  cases ha : p l[i] <;> cases hb : p b <;> simp_all

theorem two_le_countP {p : α → Bool} {l : List α} {i j : Nat} (hi : l[i]? = some a) (hj : l[j]? = some b) (hij : i < j) (ha : p a = true)
    (hb : p b = true) : 2 ≤ l.countP p := by
  have hfirst : a ∈ l.take (i + 1) := by
    apply List.mem_of_getElem? (i := i)
    rw [List.getElem?_take_of_lt (Nat.lt_succ_self i), hi]
  have hsecond : b ∈ l.drop (i + 1) := by
    apply List.mem_of_getElem? (i := j - (i + 1))
    rw [List.getElem?_drop, Nat.add_sub_cancel' hij, hj]
  have hone := List.countP_pos_iff.2 ⟨a, hfirst, ha⟩
  have htwo := List.countP_pos_iff.2 ⟨b, hsecond, hb⟩
  rw [← List.take_append_drop (i + 1) l, List.countP_append]
  omega

/-- The loop has not ended: the thread of the worker still acts on the blueprint. -/
def LcmWorker.claims (x : LcmWorker) (id : BlueId) : Bool :=
  decide (x.id = id) && decide (x.phase ≠ .ended)

/-- The call goes on to start a worker. -/
def Pc.claims : Pc → Bool
  | .saveNew | .start _ => true
  | _ => false

def Thread.claims (th : Thread) (id : BlueId) : Bool :=
  decide (th.request.id = id) && th.pc.claims

namespace Lcm

/-- How many workers act on a blueprint, those that are about to be started included. -/
def claims (s : Lcm) (id : BlueId) : Nat :=
  s.workers.countP (fun x => x.claims id) + s.threads.countP (fun th => th.claims id)

section Claims

variable (s : Lcm)

@[simp] theorem claims_save (id id' : BlueId) (b : Blueprint) : (s.save id b).claims id' = s.claims id' := rfl

theorem claims_spawn (r : Request) (owner : Option BlueId) (id : BlueId) : (s.spawn r owner).claims id = s.claims id := by
  have hentry : Thread.claims { request := r, owner := owner, pc := r.entry } id = false := by
    cases r <;> simp [Thread.claims, Request.entry, Pc.claims]
  unfold claims spawn
  rw [List.countP_append]
  simp [hentry]

theorem claims_setThread (ht : s.threads[t]? = some th) (th' : Thread) (id : BlueId) :
    (s.setThread t th').claims id + (th.claims id).toNat = s.claims id + (th'.claims id).toNat := by
  have := countP_set_add (p := fun th => th.claims id) ht th'
  unfold claims setThread
  simp only at this ⊢
  omega

theorem claims_setWorker (hx : s.workers[w]? = some x) (x' : LcmWorker) (id : BlueId) :
    (s.setWorker w x').claims id + (x.claims id).toNat = s.claims id + (x'.claims id).toNat := by
  have := countP_set_add (p := fun x => x.claims id) hx x'
  unfold claims setWorker
  simp only at this ⊢
  omega

theorem claims_setWorker_same (hx : s.workers[w]? = some x) (x' : LcmWorker) (hid : x'.id = x.id)
    (hphase : x'.phase = x.phase) (id : BlueId) :
    (s.setWorker w x').claims id = s.claims id := by
  have h := s.claims_setWorker hx x' id
  have hsame : x'.claims id = x.claims id := by simp only [LcmWorker.claims, hid, hphase]
  rw [hsame] at h
  omega

theorem onWorker_rule {P : Lcm → Prop} (hnone : P s) (hsome : ∀ x, s.workers[w]? = some x → P (f x)) :
    P (s.onWorker w f) := by
  unfold onWorker
  split
  · exact hnone
  next x hx => exact hsome x hx

theorem claims_applyThread {effect : ThreadEffect} (heffect : ∀ b, effect ≠ .addWorker b) (id id' : BlueId) :
    (s.applyThread id effect).claims id' = s.claims id' := by
  cases effect with
  | quiet => rfl
  | save b => rfl
  | addWorker b => exact absurd rfl (heffect b)
  | setEntry entry => rfl
  | put w m =>
    apply s.onWorker_rule (P := fun s' => s'.claims id' = s.claims id') rfl
    intro x hx
    exact s.claims_setWorker_same hx { x with queue := x.queue ++ [m] } rfl rfl id'
  | setFlag w value =>
    apply s.onWorker_rule (P := fun s' => s'.claims id' = s.claims id') rfl
    intro x hx
    exact s.claims_setWorker_same hx { x with blueprint := { x.blueprint with isProtected := value } } rfl rfl id'
  | saveFlag w value => exact s.onWorker_rule (P := fun s' => s'.claims id' = s.claims id') rfl (fun _ _ => rfl)

@[simp] theorem applyThread_threads (id : BlueId) (effect : ThreadEffect) : (s.applyThread id effect).threads = s.threads := by
  cases effect with
  | put w m => exact s.onWorker_rule (P := fun s' => s'.threads = s.threads) rfl (fun _ _ => rfl)
  | setFlag w value => exact s.onWorker_rule (P := fun s' => s'.threads = s.threads) rfl (fun _ _ => rfl)
  | saveFlag w value => exact s.onWorker_rule (P := fun s' => s'.threads = s.threads) rfl (fun _ _ => rfl)
  | _ => rfl

@[simp] theorem applyThread_destroyed (id : BlueId) (effect : ThreadEffect) :
    (s.applyThread id effect).destroyed = s.destroyed := by
  cases effect with
  | put w m => exact s.onWorker_rule (P := fun s' => s'.destroyed = s.destroyed) rfl (fun _ _ => rfl)
  | setFlag w value => exact s.onWorker_rule (P := fun s' => s'.destroyed = s.destroyed) rfl (fun _ _ => rfl)
  | saveFlag w value => exact s.onWorker_rule (P := fun s' => s'.destroyed = s.destroyed) rfl (fun _ _ => rfl)
  | _ => rfl

theorem applyThread_docs {effect : ThreadEffect} (hsave : ∀ b, effect ≠ .save b) (hflag : ∀ w value, effect ≠ .saveFlag w value)
    (id : BlueId) : (s.applyThread id effect).docs = s.docs := by
  cases effect with
  | save b => exact absurd rfl (hsave b)
  | saveFlag w value => exact absurd rfl (hflag w value)
  | put w m => exact s.onWorker_rule (P := fun s' => s'.docs = s.docs) rfl (fun _ _ => rfl)
  | setFlag w value => exact s.onWorker_rule (P := fun s' => s'.docs = s.docs) rfl (fun _ _ => rfl)
  | _ => rfl

/-- A thread adds a worker, appends to a queue or sets a flag, and changes no worker otherwise. -/
theorem applyThread_worker {id : BlueId} {effect : ThreadEffect} {y : LcmWorker}
    (hy : (s.applyThread id effect).workers[w]? = some y) :
    s.workers[w]? = some y ∨
      (∃ x m, effect = .put w m ∧ s.workers[w]? = some x ∧ y = { x with queue := x.queue ++ [m] }) ∨
      (∃ x value, effect = .setFlag w value ∧ s.workers[w]? = some x ∧
        y = { x with blueprint := { x.blueprint with isProtected := value } }) ∨
      ∃ b, effect = .addWorker b ∧ w = s.workers.length ∧ y = { id := id, blueprint := b } := by
  have hset {i : Nat} {x x' : LcmWorker} (hx : s.workers[i]? = some x) (hi : (s.setWorker i x').workers[w]? = some y) :
      s.workers[w]? = some y ∨ (i = w ∧ y = x') := by
    by_cases hiw : i = w
    · subst hiw
      right
      have hlt := (List.getElem?_eq_some_iff.1 hx).1
      exact ⟨rfl, Option.some.inj (hi.symm.trans (List.getElem?_set_self hlt))⟩
    · left
      exact (List.getElem?_set_ne hiw).symm.trans hi
  cases effect with
  | quiet => exact .inl hy
  | save b => exact .inl hy
  | setEntry entry => exact .inl hy
  | addWorker b =>
    rcases Nat.lt_trichotomy w s.workers.length with hlt | heq | hgt
    · exact .inl ((List.getElem?_append_left hlt).symm.trans hy)
    · subst heq
      refine .inr (.inr (.inr ⟨b, rfl, rfl, ?_⟩))
      exact Option.some.inj (hy.symm.trans List.getElem?_concat_length)
    · have hnone : (s.workers ++ [{ id := id, blueprint := b }])[w]? = none :=
        List.getElem?_eq_none (by rw [List.length_append, List.length_singleton]; omega)
      cases hnone.symm.trans hy
  | put i m =>
    unfold applyThread onWorker at hy
    simp only at hy
    split at hy
    · exact .inl hy
    next x hx =>
      rcases hset hx hy with hold | ⟨rfl, rfl⟩
      · exact .inl hold
      · exact .inr (.inl ⟨x, m, rfl, hx, rfl⟩)
  | setFlag i value =>
    unfold applyThread onWorker at hy
    simp only at hy
    split at hy
    · exact .inl hy
    next x hx =>
      rcases hset hx hy with hold | ⟨rfl, rfl⟩
      · exact .inl hold
      · exact .inr (.inr (.inl ⟨x, value, rfl, hx, rfl⟩))
  | saveFlag i value =>
    unfold applyThread onWorker at hy
    simp only at hy
    split at hy
    · exact .inl hy
    · exact .inl hy

/-- A call takes a new claim when it finds no document of the new id, or loads the document. -/
theorem Moves.claims_thread {th : Thread} (ht : s.threads[t]? = some th) (h : th.Moves t s next effect) (id : BlueId) :
    ((s.applyThread th.request.id effect).setThread t { th with pc := next }).claims id ≤ s.claims id ∨
      th.request.id = id ∧
        ((th.pc = .check ∧ s.docs.get id = none) ∨ (th.pc = .load ∧ ∃ b, s.docs.get id = some b)) ∧
        ((s.applyThread th.request.id effect).setThread t { th with pc := next }).claims id = s.claims id + 1 := by
  have hset := (s.applyThread th.request.id effect).claims_setThread (by rw [applyThread_threads]; exact ht) { th with pc := next } id
  cases h
  case reserve hpc hdoc =>
    rw [s.claims_applyThread (by nofun)] at hset
    by_cases hid : th.request.id = id
    · subst hid
      refine .inr ⟨rfl, .inl ⟨hpc, hdoc⟩, ?_⟩
      simp [Thread.claims, hpc, Pc.claims] at hset
      exact hset
    · left
      simp [Thread.claims, hid] at hset
      omega
  case load hpc hdoc =>
    rw [s.claims_applyThread (by nofun)] at hset
    by_cases hid : th.request.id = id
    · subst hid
      refine .inr ⟨rfl, .inr ⟨hpc, _, hdoc⟩, ?_⟩
      simp [Thread.claims, hpc, Pc.claims] at hset
      exact hset
    · left
      simp [Thread.claims, hid] at hset
      omega
  case start b hpc =>
    left
    have hadd : (s.applyThread th.request.id (.addWorker b)).claims id =
        s.claims id + (decide (th.request.id = id)).toNat := by
      unfold claims applyThread
      rw [List.countP_append]
      by_cases hid : th.request.id = id
      · simp [LcmWorker.claims, hid]
        omega
      · simp [LcmWorker.claims, hid]
    rw [hadd] at hset
    simp only [Thread.claims, hpc, Pc.claims, Bool.and_true, Bool.and_false, Bool.toNat_false] at hset
    omega
  case saveNew b hpc hb =>
    left
    rw [s.claims_applyThread (by nofun)] at hset
    simp only [Thread.claims, hpc, Pc.claims] at hset
    omega
  case send hpc hrequest hm hcaller hnext =>
    left
    rw [s.claims_applyThread (by nofun)] at hset
    rcases hnext with rfl | ⟨rfl, -⟩
    · simp only [Thread.claims, Pc.claims, Bool.and_false, Bool.toNat_false] at hset
      omega
    · simp only [Thread.claims, Pc.claims, Bool.and_false, Bool.toNat_false] at hset
      omega
  all_goals
    left
    rw [s.claims_applyThread (by nofun)] at hset
    simp only [Thread.claims, Pc.claims, Bool.and_false, Bool.toNat_false] at hset
    omega

theorem claims_applyWorker (id id' : BlueId) (effect : WorkerEffect) :
    (s.applyWorker id effect).claims id' = s.claims id' := by
  cases effect with
  | quiet => rfl
  | save b => rfl
  | spawn r => exact s.claims_spawn r (some id) id'
  | destroyNgBlue => rfl
  | answer m =>
    unfold applyWorker
    simp only
    split
    · rfl
    next t hcaller =>
      split
      · rfl
      next th hth =>
        have hset := s.claims_setThread hth { th with event := true } id'
        have hsame : Thread.claims { th with event := true } id' = th.claims id' := rfl
        rw [hsame] at hset
        omega

@[simp] theorem applyWorker_workers (id : BlueId) (effect : WorkerEffect) : (s.applyWorker id effect).workers = s.workers := by
  cases effect with
  | answer m =>
    unfold applyWorker
    simp only
    split
    · rfl
    · split
      · rfl
      · rfl
  | _ => rfl

/-- A worker adds a thread at its first statement, or sets an event. -/
theorem applyWorker_thread {id : BlueId} {effect : WorkerEffect} {th : Thread} (hth : th ∈ (s.applyWorker id effect).threads) :
    (∃ th₀ ∈ s.threads, th.request = th₀.request ∧ th.owner = th₀.owner ∧ th.pc = th₀.pc) ∨
      ∃ r, effect = .spawn r ∧ th = { request := r, owner := some id, pc := r.entry } := by
  cases effect with
  | spawn r =>
    rcases List.mem_append.1 hth with hth | hth
    · exact .inl ⟨th, hth, rfl, rfl, rfl⟩
    · exact .inr ⟨r, rfl, List.mem_singleton.1 hth⟩
  | answer m =>
    left
    unfold applyWorker at hth
    simp only at hth
    split at hth
    · exact ⟨th, hth, rfl, rfl, rfl⟩
    · split at hth
      · exact ⟨th, hth, rfl, rfl, rfl⟩
      next th' hth' =>
        rcases List.mem_or_eq_of_mem_set hth with hold | rfl
        · exact ⟨th, hold, rfl, rfl, rfl⟩
        · exact ⟨th', List.mem_of_getElem? hth', rfl, rfl, rfl⟩
  | _ => exact .inl ⟨th, hth, rfl, rfl, rfl⟩

theorem applyWorker_destroyed {effect : WorkerEffect} (heffect : effect ≠ .destroyNgBlue) (id : BlueId) :
    (s.applyWorker id effect).destroyed = s.destroyed := by
  cases effect with
  | destroyNgBlue => exact absurd rfl heffect
  | answer m =>
    unfold applyWorker
    simp only
    split
    · rfl
    · split
      · rfl
      · rfl
  | _ => rfl

/-- A worker takes no claim. -/
theorem claims_worker_le {x : LcmWorker} (hx : s.workers[w]? = some x) (hid : x'.id = x.id) (hlive : x.phase ≠ .ended)
    (effect : WorkerEffect) (id : BlueId) : ((s.applyWorker x.id effect).setWorker w x').claims id ≤ s.claims id := by
  have hset := (s.applyWorker x.id effect).claims_setWorker (by rw [applyWorker_workers]; exact hx) x' id
  rw [claims_applyWorker] at hset
  have hle : (x'.claims id).toNat ≤ (x.claims id).toNat := by
    simp only [LcmWorker.claims, hid, hlive, ne_eq, not_false_eq_true, decide_true, Bool.and_true]
    cases decide (x.id = id) <;> cases decide (x'.phase ≠ .ended) <;> decide
  omega

/-- Two running workers of one blueprint are two claims. -/
theorem single_of_claims {s : Lcm} {x y : LcmWorker} {i j : Nat} (h : s.claims x.id ≤ 1) (hi : s.workers[i]? = some x) (hj : s.workers[j]? = some y)
    (hid : x.id = y.id) (hx : x.phase ≠ .ended) (hy : y.phase ≠ .ended) : i = j := by
  have hcx : x.claims x.id = true := by simp [LcmWorker.claims, hx]
  have hcy : y.claims x.id = true := by simp [LcmWorker.claims, hid, hy]
  have hcount : s.workers.countP (fun z => z.claims x.id) ≤ 1 := Nat.le_trans (Nat.le_add_right _ _) h
  rcases Nat.lt_trichotomy i j with hij | hij | hij
  · have := two_le_countP (p := fun z => z.claims x.id) hi hj hij hcx hcy
    omega
  · exact hij
  · have := two_le_countP (p := fun z => z.claims x.id) hj hi hij hcy hcx
    omega

/-- A worker with a claim leaves none to a thread. -/
theorem no_claim_of_live {s : Lcm} {x : LcmWorker} {w : Nat} (hclaims : s.claims x.id ≤ 1) (hx : s.workers[w]? = some x) (hlive : x.phase ≠ .ended) :
    ∀ th ∈ s.threads, th.request.id = x.id → th.pc.claims = false := by
  intro th hth hid
  have hpos : 0 < s.workers.countP (fun y => y.claims x.id) :=
    List.countP_pos_iff.2 ⟨x, List.mem_of_getElem? hx, by simp [LcmWorker.claims, hlive]⟩
  have hzero : s.threads.countP (fun th => th.claims x.id) = 0 := by
    unfold Lcm.claims at hclaims
    omega
  simpa [Thread.claims, hid] using List.countP_eq_zero.1 hzero th hth

end Claims

end Lcm

namespace LcmWorker.Moves

variable {x : LcmWorker}

theorem deregister_id (x : LcmWorker) (m : LcmMessage) (child : BlueId) (rest : List BlueId) :
    (x.deregister m child rest).id = x.id := by
  unfold LcmWorker.deregister
  split <;> rfl

theorem id_eq (h : x.Moves threads x' effect) : x'.id = x.id := by
  cases h with
  | childDeleted hphase hthread hpc => exact deregister_id _ _ _ _
  | childAbsent hphase hthread hpc => exact deregister_id _ _ _ _
  | _ => rfl

theorem live (h : x.Moves threads x' effect) : x.phase ≠ .ended := by
  cases h with
  | save hphase => rcases hphase with h | h <;> rw [h] <;> nofun
  | crash _ hended _ => exact hended
  | _ => simp_all

theorem deregister_cases (x : LcmWorker) (m : LcmMessage) (child : BlueId) (rest : List BlueId) :
    x.deregister m child rest =
        { x.withChildren (x.blueprint.childrenBlueIds.erase child) with phase := .deletingChildren m rest none } ∨
      x.deregister m child rest = { x with phase := .ended } := by
  unfold LcmWorker.deregister
  split
  · exact .inl rfl
  · exact .inr rfl

/-- A worker never changes the flag. -/
theorem isProtected_eq (h : x.Moves threads x' effect) : x'.blueprint.isProtected = x.blueprint.isProtected := by
  cases h with
  | childDeleted hphase hthread hpc =>
    rcases deregister_cases _ _ _ _ with h | h
    · rw [h]; rfl
    · rw [h]; rfl
  | childAbsent hphase hthread hpc =>
    rcases deregister_cases _ _ _ _ with h | h
    · rw [h]; rfl
    · rw [h]
  | _ => rfl

theorem save_isProtected (h : x.Moves threads x' (.save b)) : b.isProtected = x.blueprint.isProtected := by
  cases h
  all_goals rfl

theorem queue_subset (h : x.Moves threads x' effect) : ∀ m ∈ x'.queue, m ∈ x.queue := by
  cases h with
  | take hphase hqueue =>
    rw [hqueue]
    exact fun m hm => List.mem_cons_of_mem _ hm
  | childDeleted hphase hthread hpc =>
    rcases deregister_cases _ _ _ _ with h | h
    · rw [h]
      exact fun m hm => hm
    · rw [h]
      exact fun m hm => hm
  | childAbsent hphase hthread hpc =>
    rcases deregister_cases _ _ _ _ with h | h
    · rw [h]
      exact fun m hm => hm
    · rw [h]
      exact fun m hm => hm
  | _ => exact fun m hm => hm

end LcmWorker.Moves

/-- The worker a call holds. -/
def Pc.worker? : Pc → Option Nat
  | .insert w | .use w | .putStop w | .saveFlag w => some w
  | _ => none

namespace Lcm

def HasWorker (s : Lcm) (w : Nat) (id : BlueId) : Prop :=
  ∃ x, s.workers[w]? = some x ∧ x.id = id

/-- The entries of `worker_collection` and the workers that calls hold are workers of the
blueprint that is asked for. -/
structure Linked (s : Lcm) : Prop where
  entries : ∀ id w, s.workerCollection id = some w → s.HasWorker w id
  held : ∀ th ∈ s.threads, ∀ w, th.pc.worker? = some w → s.HasWorker w th.request.id

section Linked

variable {s : Lcm} {id : BlueId}

theorem HasWorker.setWorker (h : s.HasWorker w id) (hx : s.workers[i]? = some x) (hid : x'.id = x.id) :
    (s.setWorker i x').HasWorker w id := by
  obtain ⟨y, hy, rfl⟩ := h
  unfold HasWorker Lcm.setWorker
  simp only [List.getElem?_set]
  by_cases hi : i = w
  · subst hi
    rw [hx] at hy
    cases hy
    refine ⟨x', ?_, hid⟩
    rw [if_pos rfl, if_pos (List.getElem?_eq_some_iff.1 hx).1]
  · exact ⟨y, by rw [if_neg hi, hy], rfl⟩

theorem HasWorker.applyThread (h : s.HasWorker w id) (id' : BlueId) (effect : ThreadEffect) :
    (s.applyThread id' effect).HasWorker w id := by
  cases effect with
  | quiet => exact h
  | save b => exact h
  | setEntry entry => exact h
  | addWorker b =>
    obtain ⟨y, hy, hid⟩ := h
    exact ⟨y, List.getElem?_append_left (List.getElem?_eq_some_iff.1 hy).1 ▸ hy, hid⟩
  | put i m => exact s.onWorker_rule (P := fun s' => s'.HasWorker w id) h (fun x hx => h.setWorker hx rfl)
  | setFlag i value => exact s.onWorker_rule (P := fun s' => s'.HasWorker w id) h (fun x hx => h.setWorker hx rfl)
  | saveFlag i value => exact s.onWorker_rule (P := fun s' => s'.HasWorker w id) h (fun _ _ => h)

theorem applyThread_entry {effect : ThreadEffect} (heffect : ∀ entry, effect ≠ .setEntry entry) (id : BlueId) :
    (s.applyThread id effect).workerCollection = s.workerCollection := by
  cases effect with
  | setEntry entry => exact absurd rfl (heffect entry)
  | put w m => exact s.onWorker_rule (P := fun s' => s'.workerCollection = s.workerCollection) rfl (fun _ _ => rfl)
  | setFlag w value => exact s.onWorker_rule (P := fun s' => s'.workerCollection = s.workerCollection) rfl (fun _ _ => rfl)
  | saveFlag w value => exact s.onWorker_rule (P := fun s' => s'.workerCollection = s.workerCollection) rfl (fun _ _ => rfl)
  | _ => rfl

/-- The worker a call holds after a step is the one it held, the entry it read or the one it added. -/
theorem Moves.worker? {th : Thread} (h : th.Moves t s next effect) (hw : next.worker? = some w) :
    th.pc.worker? = some w ∨ s.workerCollection th.request.id = some w ∨
      w = s.workers.length ∧ ∃ b, effect = .addWorker b := by
  cases h with
  | fetch hpc hentry => exact .inr (.inl (hentry.trans hw))
  | start hpc => exact .inr (.inr ⟨(Option.some.inj hw).symm, _, rfl⟩)
  | insert hpc => exact .inl (by rw [hpc]; exact hw)
  | setFlag hpc hrequest => exact .inl (by rw [hpc]; exact hw)
  | allow hpc hrequest hx hflag => exact .inl (by rw [hpc]; exact hw)
  | send hpc hrequest hm hnext hcaller => rcases hnext with rfl | ⟨rfl, -⟩ <;> cases hw
  | _ => cases hw

theorem Linked.thread (hl : s.Linked) {th : Thread} (ht : s.threads[t]? = some th) (h : th.Moves t s next effect) :
    ((s.applyThread th.request.id effect).setThread t { th with pc := next }).Linked := by
  have hth : th ∈ s.threads := List.mem_of_getElem? ht
  have hkeep : ∀ w id, s.HasWorker w id →
      ((s.applyThread th.request.id effect).setThread t { th with pc := next }).HasWorker w id :=
    fun w id hw => hw.applyThread th.request.id effect
  constructor
  · intro id w hentry
    change (s.applyThread th.request.id effect).workerCollection id = some w at hentry
    cases h with
    | insert hpc =>
      by_cases hid : id = th.request.id
      · subst hid
        have hw := hl.held th hth w (by rw [hpc]; simpa [applyThread, Pc.worker?] using hentry)
        exact hkeep w _ hw
      · have hold : s.workerCollection id = some w := by simpa [applyThread, Function.update_of_ne hid] using hentry
        exact hkeep w id (hl.entries id w hold)
    | pop hpc hfound =>
      by_cases hid : id = th.request.id
      · subst hid
        simp [applyThread] at hentry
      · have hold : s.workerCollection id = some w := by simpa [applyThread, Function.update_of_ne hid] using hentry
        exact hkeep w id (hl.entries id w hold)
    | _ =>
      rw [applyThread_entry (by nofun)] at hentry
      exact hkeep w id (hl.entries id w hentry)
  · intro th' hth' w hw
    rcases List.mem_or_eq_of_mem_set hth' with hold | rfl
    · rw [applyThread_threads] at hold
      exact hkeep w _ (hl.held th' hold w hw)
    · rcases Moves.worker? h hw with hpc | hentry | ⟨rfl, b, rfl⟩
      · exact hkeep w _ (hl.held th hth w hpc)
      · exact hkeep w _ (hl.entries _ w hentry)
      · refine ⟨{ id := th.request.id, blueprint := b }, ?_, rfl⟩
        change (s.workers ++ [_])[s.workers.length]? = _
        exact List.getElem?_concat_length

theorem Linked.spawn (hl : s.Linked) (r : Request) (owner : Option BlueId) : (s.spawn r owner).Linked := by
  constructor
  · exact hl.entries
  · intro th hth w hw
    rcases List.mem_append.1 hth with hth | hth
    · exact hl.held th hth w hw
    · rw [List.mem_singleton.1 hth] at hw
      cases r <;> cases hw

theorem Linked.applyWorker (hl : s.Linked) (id : BlueId) (effect : WorkerEffect) : (s.applyWorker id effect).Linked := by
  cases effect with
  | quiet => exact hl
  | save b => exact ⟨hl.entries, hl.held⟩
  | destroyNgBlue => exact ⟨hl.entries, hl.held⟩
  | spawn r => exact hl.spawn r (some id)
  | answer m =>
    unfold Lcm.applyWorker
    simp only
    split
    · exact hl
    · split
      · exact hl
      next th hth =>
        constructor
        · exact hl.entries
        · intro th' hth' w hw
          rcases List.mem_or_eq_of_mem_set hth' with hold | rfl
          · exact hl.held th' hold w hw
          · exact hl.held th (List.mem_of_getElem? hth) w hw

theorem Linked.worker (hl : s.Linked) {x : LcmWorker} (hx : s.workers[w]? = some x) (hid : x'.id = x.id)
    (effect : WorkerEffect) : ((s.applyWorker x.id effect).setWorker w x').Linked := by
  have hl' := hl.applyWorker x.id effect
  have hx' : (s.applyWorker x.id effect).workers[w]? = some x := by rw [applyWorker_workers]; exact hx
  constructor
  · intro id i hentry
    exact (hl'.entries id i hentry).setWorker hx' hid
  · intro th hth i hi
    exact (hl'.held th hth i hi).setWorker hx' hid

theorem Linked.step (hl : s.Linked) (e : LcmStep) : (s.step e).Linked := by
  apply s.step_rule e hl
  · intro r _
    exact hl.spawn r none
  · intro t th next effect _ ht hmoves
    exact hl.thread ht hmoves
  · intro w x action x' effect _ hx _ hmoves
    exact hl.worker hx hmoves.id_eq effect

end Linked

end Lcm

end Nfvcl
