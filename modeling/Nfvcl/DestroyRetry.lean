import Mathlib.Data.List.Nodup
import Nfvcl.Effects
import Nfvcl.BlueprintWorker

namespace Nfvcl
set_option autoImplicit true
open Effects

/-- How `destroy` deletes a registered resource; the VIM of a VM's area says which provider it has. -/
inductive ResourceKind where
  | openstackVm | proxmoxVm | helmChart | other
  deriving DecidableEq, Repr

structure RegisteredResource where
  id : String
  kind : ResourceKind
  deriving DecidableEq, Repr

/-- The part of `base_model` that `destroy` reads and writes. Of the providers' tables the keys are
kept: what exists on a back end is named by the resource it was created for. -/
structure DestroyModel where
  childrenBlueIds : List BlueId := []
  registeredResources : List RegisteredResource := []
  osDict : List String := []
  proxmoxDict : List String := []
  deployedBlueprints : List BlueId := []
  isProtected : Bool := false
  deriving DecidableEq, Repr

inductive DestroyError where
  | blueprintNotFound | blueprintProtected | blueprintNG | keyError | valueError | backEnd | notUninstalled
  deriving DecidableEq, Repr

/-- Which provider call of `destroy` fails: the deletion of a child that is protected, or the call for
a resource, after some of its requests were served by the back end. -/
inductive DestroyFault where
  | child (id : BlueId)
  | call (id : String) (served : Nat)
  deriving DecidableEq, Repr

structure DestroyWorld where
  blueprint : DestroyModel
  doc : Option DestroyModel
  /-- The VMs and Helm releases that exist. -/
  alive : List String
  /-- The other blueprints that exist. -/
  children : List BlueId
  deriving DecidableEq, Repr

abbrev DestroyM := EStateM DestroyError DestroyWorld Unit

namespace DestroyWorld

def saveToDb (s : DestroyWorld) : DestroyWorld := { s with doc := some s.blueprint }

def remove (s : DestroyWorld) (id : String) : DestroyWorld := { s with alive := s.alive.filter (· ≠ id) }

/-- `del self.data.proxmox_dict[id]`, in memory only. -/
def untable (s : DestroyWorld) (id : String) : DestroyWorld :=
  { s with blueprint := { s.blueprint with proxmoxDict := s.blueprint.proxmoxDict.filter (· ≠ id) } }

def removeChild (s : DestroyWorld) (id : BlueId) : DestroyWorld := { s with children := s.children.filter (· ≠ id) }

def removeDeployed (s : DestroyWorld) (id : BlueId) : DestroyWorld :=
  { s with blueprint := { s.blueprint with deployedBlueprints := s.blueprint.deployedBlueprints.erase id } }

end DestroyWorld

namespace BlueprintNG

def raiseUnless (c : DestroyWorld → Prop) [DecidablePred c] (e : DestroyError) : DestroyM := fun s =>
  if c s then .ok () s else .error e s

/-- The `n`-th request of the call for a resource. -/
def request (fault : Option DestroyFault) (id : String) (n : Nat) : DestroyM :=
  raiseUnless (fun _ => fault ≠ some (.call id n)) .backEnd

/-- Deleting a server that is not there is no error. -/
def destroyVmOpenstack (fault : Option DestroyFault) (id : String) : DestroyM := do
  if id ∈ (← get).blueprint.osDict then
    request fault id 0
    modify (·.remove id)
    modify (·.saveToDb)
  else
    modify (·.saveToDb)

/-- `qm stop`, `qm destroy` and two `rm`; nothing is saved. -/
def destroyVmProxmox (fault : Option DestroyFault) (id : String) : DestroyM := do
  raiseUnless (fun s => id ∈ s.blueprint.proxmoxDict) .keyError
  request fault id 0
  raiseUnless (fun s => id ∈ s.alive) .backEnd
  request fault id 1
  modify (·.remove id)
  request fault id 2
  request fault id 3
  modify (·.untable id)

/-- `uninstall_release`, then the list of releases and the cluster of the topology. -/
def uninstallHelmChart (fault : Option DestroyFault) (id : String) : DestroyM := do
  request fault id 0
  raiseUnless (fun s => id ∈ s.alive) .backEnd
  modify (·.remove id)
  modify (·.saveToDb)
  request fault id 1
  raiseUnless (fun s => id ∉ s.alive) .notUninstalled
  request fault id 2

def destroyResource (fault : Option DestroyFault) (r : RegisteredResource) : DestroyM :=
  match r.kind with
  | .openstackVm => destroyVmOpenstack fault r.id
  | .proxmoxVm => destroyVmProxmox fault r.id
  | .helmChart => uninstallHelmChart fault r.id
  | .other => pure ()

/-- `blueprint_manager.delete_blueprint(id, wait=True)` of another blueprint. -/
def deleteOther (fault : Option DestroyFault) (id : BlueId) : DestroyM := do
  raiseUnless (fun s => id ∈ s.children) .blueprintNotFound
  raiseUnless (fun _ => fault ≠ some (.child id)) .blueprintProtected
  modify (·.removeChild id)

/-- `BlueprintProvider.delete_blueprint`. -/
def deleteChild (fault : Option DestroyFault) (id : BlueId) : DestroyM := do
  deleteOther fault id
  raiseUnless (fun s => id ∈ s.blueprint.deployedBlueprints) .valueError
  modify (·.removeDeployed id)
  modify (·.saveToDb)

def deregisterChildren (id : BlueId) : DestroyM := do
  raiseUnless (fun s => id ∈ s.blueprint.childrenBlueIds) .blueprintNG
  modify fun s => { s with blueprint := { s.blueprint with childrenBlueIds := s.blueprint.childrenBlueIds.erase id } }

def destroyChild (fault : Option DestroyFault) (id : BlueId) : DestroyM := do
  tryCatch (deleteChild fault id) fun e => if e = .blueprintNotFound then pure () else throw e
  deregisterChildren id

/-- The PDUs are unlocked and what children are left is deleted; the exceptions are logged. -/
def finalCleanup (fault : Option DestroyFault) : DestroyM := do
  modify (·.saveToDb)
  forM (← get).blueprint.deployedBlueprints fun id => tryCatch (deleteOther fault id) fun _ => pure ()
  modify fun s => { s with blueprint := { s.blueprint with deployedBlueprints := [] } }
  modify (·.saveToDb)

def destroy (fault : Option DestroyFault) : DestroyM := do
  forM (← get).blueprint.childrenBlueIds (destroyChild fault)
  forM (← get).blueprint.registeredResources (destroyResource fault)
  finalCleanup fault
  modify fun s => { s with doc := none }

end BlueprintNG

/-- A worker, its instance of the blueprint and whether its thread is still in the loop. -/
structure DestroyWorker where
  blueprint : DestroyModel
  listening : Bool
  deriving DecidableEq, Repr

structure DeleteState where
  worker : Option DestroyWorker
  doc : Option DestroyModel
  alive : List String
  children : List BlueId
  deriving DecidableEq, Repr

inductive DeleteOutcome where
  | returned
  | raised (e : DestroyError)
  /-- The caller waits for a callback that never comes. -/
  | blocked
  deriving DecidableEq, Repr

namespace DeleteState

def world (s : DeleteState) (b : DestroyModel) : DestroyWorld := ⟨b, s.doc, s.alive, s.children⟩

def getWorker (s : DeleteState) : Option DestroyWorker :=
  match s.worker with
  | some w => some w
  | none => s.doc.map (⟨·, true⟩)

/-- The STOP message: an exception of `destroy` ends the thread of the worker, as the end of the loop
does. The second component says whether the callback was called. -/
def stop (s : DeleteState) (fault : Option DestroyFault) (w : DestroyWorker) : DeleteState × Bool :=
  if w.listening then
    match (BlueprintNG.destroy fault).run (s.world w.blueprint) with
    | .ok _ s' => (⟨some ⟨s'.blueprint, false⟩, s'.doc, s'.alive, s'.children⟩, true)
    | .error _ s' => (⟨some ⟨s'.blueprint, false⟩, s'.doc, s'.alive, s'.children⟩, false)
  else (s, false)

/-- `BlueprintManager.delete_blueprint`, and what its message makes the worker do. -/
def deleteBlueprint (s : DeleteState) (fault : Option DestroyFault) (wait : Bool) : DeleteOutcome × DeleteState :=
  match s.getWorker with
  | none => (.raised .blueprintNotFound, s)
  | some w =>
    let s := { s with worker := some w }
    if w.blueprint.isProtected then (.raised .blueprintProtected, s)
    else
      let (s, answered) := s.stop fault w
      if wait && !answered then (.blocked, s) else (.returned, { s with worker := none })

end DeleteState

/-- What `destroy` cannot delete twice, or at all when it is not in the table. -/
def RegisteredResource.Deletable (r : RegisteredResource) (b : DestroyModel) (alive : List String) : Prop :=
  match r.kind with
  | .openstackVm => r.id ∈ alive → r.id ∈ b.osDict
  | .proxmoxVm => r.id ∈ b.proxmoxDict ∧ r.id ∈ alive
  | .helmChart => r.id ∈ alive
  | .other => True

/-- A call that failed after this many requests has deleted what it cannot delete again. -/
def RegisteredResource.Deletes (r : RegisteredResource) (served : Nat) : Prop :=
  match r.kind with
  | .proxmoxVm => 2 ≤ served
  | .helmChart => 1 ≤ served
  | _ => False

/-- Nothing was deleted before the failure that cannot be deleted again. -/
def DestroyFault.Spares (fault : Option DestroyFault) (rs : List RegisteredResource) : Prop :=
  match fault with
  | some (.call id served) =>
    (∀ r ∈ rs.takeWhile (·.id ≠ id), r.kind = .openstackVm ∨ r.kind = .other) ∧ ∀ r ∈ rs, r.id = id → ¬ r.Deletes served
  | _ => True

/-- The same data, but for table entries of the given resources. -/
structure DestroyModel.Agrees (ids : List String) (b d : DestroyModel) : Prop where
  rest : d = { b with proxmoxDict := d.proxmoxDict }
  fewer : ∀ x ∈ d.proxmoxDict, x ∈ b.proxmoxDict
  others : ∀ x ∈ b.proxmoxDict, x ∉ ids → x ∈ d.proxmoxDict

/-- What the calls for the given resources can have changed. -/
structure DestroyWorld.Frame (ids : List String) (s s' : DestroyWorld) : Prop where
  fewer : ∀ x ∈ s'.alive, x ∈ s.alive
  others : ∀ x ∈ s.alive, x ∉ ids → x ∈ s'.alive
  blueprint : s.blueprint.Agrees ids s'.blueprint
  doc : s'.doc = s.doc ∨ ∃ d, s'.doc = some d ∧ s.blueprint.Agrees ids d
  children : s'.children = s.children

section Frame

variable {b d : DestroyModel} {s s' s'' : DestroyWorld} {ids : List String} {x : String}

theorem DestroyModel.Agrees.refl (ids : List String) (b : DestroyModel) : b.Agrees ids b :=
  ⟨rfl, fun _ h => h, fun _ h _ => h⟩

theorem DestroyModel.Agrees.trans (h : b.Agrees ids d) (h' : d.Agrees ids e) : b.Agrees ids e := by
  refine ⟨?_, fun x hx => h.fewer x (h'.fewer x hx), fun x hx hid => h'.others x (h.others x hx hid) hid⟩
  rw [h'.rest, h.rest]

theorem DestroyModel.Agrees.mono (h : b.Agrees ids d) (hsub : ∀ x ∈ ids, x ∈ ids') : b.Agrees ids' d :=
  ⟨h.rest, h.fewer, fun x hx hid => h.others x hx fun hin => hid (hsub x hin)⟩

namespace DestroyWorld

theorem Frame.refl (ids : List String) (s : DestroyWorld) : Frame ids s s :=
  ⟨fun _ h => h, fun _ h _ => h, .refl ids _, .inl rfl, rfl⟩

theorem Frame.trans (h : Frame ids s s') (h' : Frame ids s' s'') : Frame ids s s'' := by
  refine ⟨fun x hx => h.fewer x (h'.fewer x hx), fun x hx hid => h'.others x (h.others x hx hid) hid,
    h.blueprint.trans h'.blueprint, ?_, h'.children.trans h.children⟩
  rcases h'.doc with hdoc | ⟨d, hd, hagrees⟩
  · rw [hdoc]
    exact h.doc
  · exact .inr ⟨d, hd, h.blueprint.trans hagrees⟩

theorem Frame.mono (h : Frame ids s s') (hsub : ∀ x ∈ ids, x ∈ ids') : Frame ids' s s' := by
  refine ⟨h.fewer, fun x hx hid => h.others x hx fun hin => hid (hsub x hin), h.blueprint.mono hsub, ?_, h.children⟩
  rcases h.doc with hdoc | ⟨d, hd, hagrees⟩
  · exact .inl hdoc
  · exact .inr ⟨d, hd, hagrees.mono hsub⟩

theorem frame_remove (s : DestroyWorld) (x : String) : Frame [x] s (s.remove x) := by
  refine ⟨fun y hy => (List.mem_filter.1 hy).1, ?_, .refl _ _, .inl rfl, rfl⟩
  intro y hy hne
  exact List.mem_filter.2 ⟨hy, decide_eq_true (fun h => hne (List.mem_singleton.2 h))⟩

theorem frame_saveToDb (ids : List String) (s : DestroyWorld) : Frame ids s s.saveToDb :=
  ⟨fun _ h => h, fun _ h _ => h, .refl ids _, .inr ⟨s.blueprint, rfl, .refl ids _⟩, rfl⟩

theorem frame_untable (s : DestroyWorld) (x : String) : Frame [x] s (s.untable x) := by
  refine ⟨fun _ h => h, fun _ h _ => h, ⟨rfl, fun y hy => (List.mem_filter.1 hy).1, ?_⟩, .inl rfl, rfl⟩
  intro y hy hne
  exact List.mem_filter.2 ⟨hy, decide_eq_true (fun h => hne (List.mem_singleton.2 h))⟩

theorem remove_not_alive (s : DestroyWorld) (x : String) : x ∉ (s.remove x).alive := by
  intro h
  exact of_decide_eq_true (List.mem_filter.1 h).2 rfl

/-- Whether a resource can be deleted depends on its own entry alone. -/
theorem Frame.deletable_iff {r : RegisteredResource} (h : Frame ids s s') (hid : r.id ∉ ids) (hagrees : s.blueprint.Agrees ids d) :
    r.Deletable d s'.alive ↔ r.Deletable s.blueprint s.alive := by
  have halive : r.id ∈ s'.alive ↔ r.id ∈ s.alive := ⟨h.fewer _, fun hx => h.others _ hx hid⟩
  have htable : r.id ∈ d.proxmoxDict ↔ r.id ∈ s.blueprint.proxmoxDict :=
    ⟨hagrees.fewer _, fun hx => hagrees.others _ hx hid⟩
  have hos : d.osDict = s.blueprint.osDict := by rw [hagrees.rest]
  unfold RegisteredResource.Deletable
  split <;> simp only [halive, htable, hos]

end DestroyWorld

end Frame

namespace BlueprintNG

variable {fault : Option DestroyFault} {s s' : DestroyWorld} {r : RegisteredResource}

theorem meets_raiseUnless {c : DestroyWorld → Prop} [DecidablePred c] {Q : Unit → DestroyWorld → Prop}
    {E : DestroyError → DestroyWorld → Prop} :
    Meets (raiseUnless c e) s Q E ↔ (c s → Q () s) ∧ (¬ c s → E e s) := by
  by_cases h : c s <;> simp [Meets, raiseUnless, EStateM.run, h]

theorem meets_request {Q : Unit → DestroyWorld → Prop} {E : DestroyError → DestroyWorld → Prop} :
    Meets (request fault x n) s Q E ↔ (fault ≠ some (.call x n) → Q () s) ∧ (fault = some (.call x n) → E .backEnd s) := by
  unfold request
  rw [meets_raiseUnless, not_not]

/-- A call that returned. -/
def Deleted (r : RegisteredResource) (s s' : DestroyWorld) : Prop :=
  match r.kind with
  | .openstackVm => if r.id ∈ s.blueprint.osDict then r.id ∉ s'.alive else s'.alive = s.alive
  | .proxmoxVm | .helmChart => r.Deletable s.blueprint s.alive ∧ r.id ∉ s'.alive
  | .other => True

/-- A call that raised, before or after the deletion. -/
def Failed (fault : Option DestroyFault) (r : RegisteredResource) (s s' : DestroyWorld) : Prop :=
  s' = s ∧ (r.Deletable s.blueprint s.alive → ∃ n, fault = some (.call r.id n) ∧ ¬ r.Deletes n) ∨
    r.id ∉ s'.alive ∧ ∃ n, fault = some (.call r.id n) ∧ r.Deletes n

theorem destroyVmOpenstack_meets (hkind : r.kind = .openstackVm) :
    Meets (destroyVmOpenstack fault r.id) s (fun _ s' => Deleted r s s' ∧ s.Frame [r.id] s')
      (fun _ s' => Failed fault r s s' ∧ s.Frame [r.id] s') := by
  unfold destroyVmOpenstack
  rw [meets_bind, meets_get]
  split
  next h =>
    simp only [meets_bind, meets_request, meets_modify]
    constructor
    · intro hfault
      refine ⟨?_, (s.frame_remove r.id).trans ((s.remove r.id).frame_saveToDb _)⟩
      simp only [Deleted, hkind, if_pos h]
      exact s.remove_not_alive r.id
    · intro hfault
      refine ⟨.inl ⟨rfl, fun _ => ⟨0, hfault, ?_⟩⟩, .refl _ s⟩
      simp [RegisteredResource.Deletes, hkind]
  next h =>
    rw [meets_modify]
    refine ⟨?_, s.frame_saveToDb _⟩
    simp only [Deleted, hkind, if_neg h]
    rfl

theorem destroyVmProxmox_meets (hkind : r.kind = .proxmoxVm) :
    Meets (destroyVmProxmox fault r.id) s (fun _ s' => Deleted r s s' ∧ s.Frame [r.id] s')
      (fun _ s' => Failed fault r s s' ∧ s.Frame [r.id] s') := by
  have hdel : r.Deletable s.blueprint s.alive ↔ r.id ∈ s.blueprint.proxmoxDict ∧ r.id ∈ s.alive := by
    simp [RegisteredResource.Deletable, hkind]
  have hdeletes (n : Nat) : r.Deletes n ↔ 2 ≤ n := by simp [RegisteredResource.Deletes, hkind]
  have early {n : Nat} (hn : n < 2) (hfault : fault = some (.call r.id n)) : Failed fault r s s :=
    .inl ⟨rfl, fun _ => ⟨n, hfault, by rw [hdeletes]; omega⟩⟩
  have late {n : Nat} (hn : 2 ≤ n) (hfault : fault = some (.call r.id n)) : Failed fault r s (s.remove r.id) :=
    .inr ⟨s.remove_not_alive r.id, n, hfault, (hdeletes n).2 hn⟩
  have hframe := s.frame_remove r.id
  unfold destroyVmProxmox
  simp only [meets_bind, meets_raiseUnless, meets_request, meets_modify]
  refine ⟨fun htabled => ⟨fun _ => ⟨fun halive => ⟨fun _ => ⟨fun _ => ⟨fun _ => ⟨?_, ?_⟩, ?_⟩, ?_⟩, ?_⟩, ?_⟩, ?_⟩, ?_⟩
  · simp only [Deleted, hkind]
    exact ⟨hdel.2 ⟨htabled, halive⟩, s.remove_not_alive r.id⟩
  · exact hframe.trans ((s.remove r.id).frame_untable r.id)
  · exact fun hfault => ⟨late (by omega) hfault, hframe⟩
  · exact fun hfault => ⟨late (by omega) hfault, hframe⟩
  · exact fun hfault => ⟨early (by omega) hfault, .refl _ s⟩
  · exact fun hdead => ⟨.inl ⟨rfl, fun h => absurd (hdel.1 h).2 hdead⟩, .refl _ s⟩
  · exact fun hfault => ⟨early (by omega) hfault, .refl _ s⟩
  · exact fun hmissing => ⟨.inl ⟨rfl, fun h => absurd (hdel.1 h).1 hmissing⟩, .refl _ s⟩

theorem uninstallHelmChart_meets (hkind : r.kind = .helmChart) :
    Meets (uninstallHelmChart fault r.id) s (fun _ s' => Deleted r s s' ∧ s.Frame [r.id] s')
      (fun _ s' => Failed fault r s s' ∧ s.Frame [r.id] s') := by
  have hdel : r.Deletable s.blueprint s.alive ↔ r.id ∈ s.alive := by simp [RegisteredResource.Deletable, hkind]
  have hdeletes (n : Nat) : r.Deletes n ↔ 1 ≤ n := by simp [RegisteredResource.Deletes, hkind]
  have hdead : r.id ∉ (s.remove r.id).saveToDb.alive := s.remove_not_alive r.id
  have late {n : Nat} (hn : 1 ≤ n) (hfault : fault = some (.call r.id n)) : Failed fault r s (s.remove r.id).saveToDb :=
    .inr ⟨hdead, n, hfault, (hdeletes n).2 hn⟩
  have hframe : s.Frame [r.id] (s.remove r.id).saveToDb := (s.frame_remove r.id).trans ((s.remove r.id).frame_saveToDb _)
  unfold uninstallHelmChart
  simp only [meets_bind, meets_raiseUnless, meets_request, meets_modify]
  refine ⟨fun _ => ⟨fun halive => ⟨fun _ => ⟨fun _ => ⟨fun _ => ⟨?_, hframe⟩, ?_⟩, fun h => absurd hdead h⟩, ?_⟩, ?_⟩, ?_⟩
  · simp only [Deleted, hkind]
    exact ⟨hdel.2 halive, hdead⟩
  · exact fun hfault => ⟨late (by omega) hfault, hframe⟩
  · exact fun hfault => ⟨late (by omega) hfault, hframe⟩
  · exact fun hmissing => ⟨.inl ⟨rfl, fun h => absurd (hdel.1 h) hmissing⟩, .refl _ s⟩
  · intro hfault
    refine ⟨.inl ⟨rfl, fun _ => ⟨0, hfault, ?_⟩⟩, .refl _ s⟩
    rw [hdeletes]
    omega

theorem destroyResource_meets (fault : Option DestroyFault) (r : RegisteredResource) (s : DestroyWorld) :
    Meets (destroyResource fault r) s (fun _ s' => Deleted r s s' ∧ s.Frame [r.id] s')
      (fun _ s' => Failed fault r s s' ∧ s.Frame [r.id] s') := by
  unfold destroyResource
  split
  next h => exact destroyVmOpenstack_meets h
  next h => exact destroyVmProxmox_meets h
  next h => exact uninstallHelmChart_meets h
  next h =>
    rw [meets_pure]
    exact ⟨by simp [Deleted, h], .refl _ s⟩

theorem destroyResources_frame (rs : List RegisteredResource) :
    Meets (forM rs (destroyResource fault)) s (fun _ => s.Frame (rs.map (·.id))) (fun _ => s.Frame (rs.map (·.id))) := by
  apply Meets.forM rs (.refl _ s)
  intro r hr s₁ hframe
  have hsub : ∀ x ∈ [r.id], x ∈ rs.map (·.id) := by
    intro x hx
    rw [List.mem_singleton.1 hx]
    exact List.mem_map.2 ⟨r, hr, rfl⟩
  apply (destroyResource_meets fault r s₁).mono
  · exact fun _ s₂ h => hframe.trans (h.2.mono hsub)
  · exact fun _ s₂ h => hframe.trans (h.2.mono hsub)

end BlueprintNG

section Loop

variable {fault : Option DestroyFault} {s s' s₁ : DestroyWorld} {r : RegisteredResource} {rs : List RegisteredResource}

theorem DestroyFault.spares_self (hfault : fault = some (.call r.id n)) (hnodup : r.id ∉ rs.map (·.id)) :
    DestroyFault.Spares fault (r :: rs) ↔ ¬ r.Deletes n := by
  subst hfault
  have hne : ∀ q ∈ rs, q.id = r.id → ¬ q.Deletes n := fun q hq h => absurd (List.mem_map.2 ⟨q, hq, h⟩) hnodup
  simp only [Spares, ne_eq, not_true_eq_false, decide_false, Bool.false_eq_true, not_false_eq_true,
    List.takeWhile_cons_of_neg, List.not_mem_nil, false_implies, implies_true, true_and, List.forall_mem_cons, forall_const]
  exact ⟨fun h => h.1, fun h => ⟨h, hne⟩⟩

theorem DestroyFault.spares_cons (hfault : fault = some (.call x n)) (hne : r.id ≠ x) :
    DestroyFault.Spares fault (r :: rs) ↔ (r.kind = .openstackVm ∨ r.kind = .other) ∧ DestroyFault.Spares fault rs := by
  subst hfault
  have hwhile : (r :: rs).takeWhile (·.id ≠ x) = r :: rs.takeWhile (·.id ≠ x) := by
    exact List.takeWhile_cons_of_pos (decide_eq_true hne)
  simp only [Spares, hwhile, List.forall_mem_cons, hne, false_implies, true_and, and_assoc]

namespace DestroyWorld

/-- The document has the tables of the instance. -/
structure Synced (rs : List RegisteredResource) (s : DestroyWorld) : Prop where
  doc : ∃ d, s.doc = some d ∧ d.osDict = s.blueprint.osDict ∧
    ∀ r ∈ rs, r.id ∈ d.proxmoxDict ↔ r.id ∈ s.blueprint.proxmoxDict

/-- What the reloaded blueprint can delete. -/
def DocDeletable (s : DestroyWorld) (r : RegisteredResource) : Prop := ∃ d, s.doc = some d ∧ r.Deletable d s.alive

theorem Synced.tail (h : s.Synced (r :: rs)) : s.Synced rs := by
  obtain ⟨d, hd, hos, htable⟩ := h.doc
  exact ⟨d, hd, hos, fun q hq => htable q (List.mem_cons_of_mem r hq)⟩

theorem Synced.frame (h : s.Synced rs) (hframe : s.Frame ids s') (hrs : ∀ r ∈ rs, r.id ∉ ids) : s'.Synced rs := by
  have hos : s'.blueprint.osDict = s.blueprint.osDict := by rw [hframe.blueprint.rest]
  have htable' (q : RegisteredResource) (hq : q ∈ rs) : q.id ∈ s'.blueprint.proxmoxDict ↔ q.id ∈ s.blueprint.proxmoxDict :=
    ⟨hframe.blueprint.fewer _, fun hx => hframe.blueprint.others _ hx (hrs q hq)⟩
  rcases hframe.doc with hdoc | ⟨d, hd, hagrees⟩
  · obtain ⟨d, hd, hos', htable⟩ := h.doc
    exact ⟨d, hdoc.trans hd, hos'.trans hos.symm, fun q hq => (htable q hq).trans (htable' q hq).symm⟩
  · have hos' : d.osDict = s.blueprint.osDict := by rw [hagrees.rest]
    refine ⟨d, hd, hos'.trans hos.symm, fun q hq => ?_⟩
    rw [htable' q hq]
    exact ⟨hagrees.fewer _, fun hx => hagrees.others _ hx (hrs q hq)⟩

theorem Synced.docDeletable_iff (h : s.Synced rs) (hr : r ∈ rs) :
    s.DocDeletable r ↔ r.Deletable s.blueprint s.alive := by
  obtain ⟨d, hd, hos, htable⟩ := h.doc
  have hiff : r.Deletable d s.alive ↔ r.Deletable s.blueprint s.alive := by
    unfold RegisteredResource.Deletable
    split <;> simp only [hos, htable r hr]
  constructor
  · rintro ⟨d', hd', hdel⟩
    cases hd.symm.trans hd'
    exact hiff.1 hdel
  · exact fun hdel => ⟨d, hd, hiff.2 hdel⟩

theorem Frame.docDeletable_iff (h : s.Frame ids s') (hs : s.Synced rs) (hrs : ∀ r ∈ rs, r.id ∉ ids) (hr : r ∈ rs) :
    s'.DocDeletable r ↔ r.Deletable s.blueprint s.alive := by
  rw [(hs.frame h hrs).docDeletable_iff hr]
  exact h.deletable_iff (hrs r hr) h.blueprint

end DestroyWorld

namespace BlueprintNG

/-- What a raised loop says of the resources and of the failure. -/
structure Stopped (fault : Option DestroyFault) (rs : List RegisteredResource) (s s' : DestroyWorld) : Prop where
  retry : (∀ r ∈ rs, s'.DocDeletable r) ↔ (∀ r ∈ rs, r.Deletable s.blueprint s.alive) ∧ DestroyFault.Spares fault rs
  cause : (∀ r ∈ rs, r.Deletable s.blueprint s.alive) → ∃ r ∈ rs, ∃ n, fault = some (.call r.id n)

theorem Stopped.here (hnodup : ((r :: rs).map (·.id)).Nodup) (hs : s.Synced (r :: rs)) (hfail : Failed fault r s s')
    (hframe : s.Frame [r.id] s') : Stopped fault (r :: rs) s s' := by
  obtain ⟨hr, -⟩ := List.nodup_cons.1 hnodup
  have hothers : ∀ q ∈ rs, q.id ∉ [r.id] := by
    intro q hq h
    exact hr (List.mem_map.2 ⟨q, hq, List.mem_singleton.1 h⟩)
  have hrs : (∀ q ∈ rs, s'.DocDeletable q) ↔ ∀ q ∈ rs, q.Deletable s.blueprint s.alive :=
    forall₂_congr fun q hq => hframe.docDeletable_iff hs.tail hothers hq
  rcases hfail with ⟨rfl, hcause⟩ | ⟨hdead, n, hfault, hdeletes⟩
  · have hself := hs.docDeletable_iff List.mem_cons_self
    constructor
    · rw [List.forall_mem_cons, List.forall_mem_cons, hself, hrs]
      refine ⟨fun h => ⟨h, ?_⟩, fun h => h.1⟩
      obtain ⟨n, hfault, hspared⟩ := hcause h.1
      exact (DestroyFault.spares_self hfault hr).2 hspared
    · intro h
      obtain ⟨n, hfault, -⟩ := hcause (h r List.mem_cons_self)
      exact ⟨r, List.mem_cons_self, n, hfault⟩
  · constructor
    · rw [DestroyFault.spares_self hfault hr]
      refine ⟨fun h => ?_, fun h => absurd hdeletes h.2⟩
      obtain ⟨d, -, hdel⟩ := h r List.mem_cons_self
      unfold RegisteredResource.Deletes at hdeletes
      unfold RegisteredResource.Deletable at hdel
      split at hdeletes
      next hkind =>
        rw [hkind] at hdel
        exact absurd hdel.2 hdead
      next hkind =>
        rw [hkind] at hdel
        exact absurd hdel hdead
      · exact hdeletes.elim
    · exact fun _ => ⟨r, List.mem_cons_self, n, hfault⟩

/-- Of what a call has deleted only a server can be deleted again. -/
theorem Deleted.docDeletable_iff (hdel : Deleted r s s₁) (hs : s'.Synced []) (hos : s'.blueprint.osDict = s.blueprint.osDict)
    (halive : r.id ∈ s'.alive ↔ r.id ∈ s₁.alive) :
    s'.DocDeletable r ↔ r.Deletable s.blueprint s.alive ∧ (r.kind = .openstackVm ∨ r.kind = .other) := by
  obtain ⟨d, hd, hosd, -⟩ := hs.doc
  have hdoc : s'.DocDeletable r ↔ r.Deletable d s'.alive := by
    constructor
    · rintro ⟨d', hd', h⟩
      cases hd.symm.trans hd'
      exact h
    · exact fun h => ⟨d, hd, h⟩
  rw [hdoc]
  unfold Deleted at hdel
  cases hkind : r.kind with
  | openstackVm =>
    simp only [hkind] at hdel
    simp only [RegisteredResource.Deletable, hkind, halive, hosd, hos, true_or, and_true]
    split at hdel
    next h => exact ⟨fun _ _ => h, fun _ _ => h⟩
    next h => rw [hdel]
  | proxmoxVm =>
    simp only [hkind] at hdel
    simp [RegisteredResource.Deletable, hkind, halive, hdel.2]
  | helmChart =>
    simp only [hkind] at hdel
    simp [RegisteredResource.Deletable, hkind, halive, hdel.2]
  | other => simp [RegisteredResource.Deletable, hkind]

theorem Stopped.later (hnodup : ((r :: rs).map (·.id)).Nodup) (hs : s.Synced (r :: rs)) (hdel : Deleted r s s₁)
    (hframe : s.Frame [r.id] s₁) (hrest : s₁.Frame (rs.map (·.id)) s') (h : Stopped fault rs s₁ s') :
    Stopped fault (r :: rs) s s' := by
  obtain ⟨hr, -⟩ := List.nodup_cons.1 hnodup
  have hne : ∀ q ∈ rs, q.id ≠ r.id := fun q hq h => hr (List.mem_map.2 ⟨q, hq, h⟩)
  have hothers : ∀ q ∈ rs, q.id ∉ [r.id] := fun q hq h => hne q hq (List.mem_singleton.1 h)
  have hrs : (∀ q ∈ rs, q.Deletable s₁.blueprint s₁.alive) ↔ ∀ q ∈ rs, q.Deletable s.blueprint s.alive :=
    forall₂_congr fun q hq => hframe.deletable_iff (hothers q hq) hframe.blueprint
  have hcause := h.cause
  rw [hrs] at hcause
  have hsynced : s'.Synced [] := by
    have hnil : s.Synced [] := ⟨by
      obtain ⟨d, hd, hos, -⟩ := hs.doc
      exact ⟨d, hd, hos, by simp⟩⟩
    exact (hnil.frame hframe (by simp)).frame hrest (by simp)
  have hself := hdel.docDeletable_iff hsynced (by rw [hrest.blueprint.rest, hframe.blueprint.rest])
    ⟨hrest.fewer _, fun hx => hrest.others _ hx hr⟩
  constructor
  · rw [List.forall_mem_cons, List.forall_mem_cons, hself, h.retry, hrs]
    by_cases hall : ∀ q ∈ rs, q.Deletable s.blueprint s.alive
    · obtain ⟨q, hq, n, hfault⟩ := hcause hall
      rw [DestroyFault.spares_cons hfault (hne q hq).symm]
      tauto
    · exact ⟨fun h => absurd h.2.1 hall, fun h => absurd h.1.2 hall⟩
  · intro hall
    obtain ⟨q, hq, n, hfault⟩ := hcause fun q hq => hall q (List.mem_cons_of_mem r hq)
    exact ⟨q, List.mem_cons_of_mem r hq, n, hfault⟩

theorem destroyResources_stopped (rs : List RegisteredResource) (hnodup : (rs.map (·.id)).Nodup) (hs : s.Synced rs) :
    Meets (forM rs (destroyResource fault)) s (fun _ _ => True) (fun _ s' => Stopped fault rs s s') := by
  induction rs generalizing s with
  | nil => trivial
  | cons r rs ih =>
    obtain ⟨hr, hrs⟩ := List.nodup_cons.1 hnodup
    have hothers : ∀ q ∈ rs, q.id ∉ [r.id] := by
      intro q hq h
      exact hr (List.mem_map.2 ⟨q, hq, List.mem_singleton.1 h⟩)
    rw [List.forM_cons, meets_bind]
    apply (destroyResource_meets fault r s).mono
    · rintro _ s₁ ⟨hdel, hframe⟩
      apply ((ih hrs (hs.tail.frame hframe hothers)).and (destroyResources_frame rs)).mono
      · exact fun _ _ _ => trivial
      · rintro _ s' ⟨h, hrest⟩
        exact h.later hnodup hs hdel hframe hrest
    · rintro _ s' ⟨hfail, hframe⟩
      exact .here hnodup hs hfail hframe

theorem Deleted.gone_iff (hdel : Deleted r s s₁) (halive : r.id ∈ s'.alive ↔ r.id ∈ s₁.alive) :
    (r.kind ≠ .other → r.id ∉ s'.alive) ↔ r.Deletable s.blueprint s.alive := by
  rw [halive]
  unfold Deleted at hdel
  cases hkind : r.kind with
  | openstackVm =>
    simp only [hkind] at hdel
    simp only [RegisteredResource.Deletable, hkind]
    split at hdel
    next h => simp [hdel, h]
    next h => simp [hdel, h]
  | proxmoxVm =>
    simp only [hkind] at hdel
    simp [hdel.1, hdel.2]
  | helmChart =>
    simp only [hkind] at hdel
    simp [hdel.1, hdel.2]
  | other => simp [RegisteredResource.Deletable, hkind]

/-- Without a failure the loop deletes everything exactly when everything can be deleted. -/
theorem destroyResources_again (rs : List RegisteredResource) (hnodup : (rs.map (·.id)).Nodup) :
    Meets (forM rs (destroyResource none)) s
      (fun _ s' => (∀ r ∈ rs, r.kind ≠ .other → r.id ∉ s'.alive) ↔ ∀ r ∈ rs, r.Deletable s.blueprint s.alive)
      (fun _ _ => ¬ ∀ r ∈ rs, r.Deletable s.blueprint s.alive) := by
  induction rs generalizing s with
  | nil =>
    change Meets (pure ()) s _ _
    rw [meets_pure]
    simp
  | cons r rs ih =>
    obtain ⟨hr, hrs⟩ := List.nodup_cons.1 hnodup
    rw [List.forM_cons, meets_bind]
    apply (destroyResource_meets none r s).mono
    · rintro _ s₁ ⟨hdel, hframe⟩
      have hothers : (∀ q ∈ rs, q.Deletable s₁.blueprint s₁.alive) ↔ ∀ q ∈ rs, q.Deletable s.blueprint s.alive := by
        apply forall₂_congr
        intro q hq
        apply hframe.deletable_iff _ hframe.blueprint
        exact fun h => hr (List.mem_map.2 ⟨q, hq, List.mem_singleton.1 h⟩)
      apply ((ih hrs).and (destroyResources_frame rs)).mono
      · rintro _ s' ⟨hiff, hrest⟩
        rw [List.forall_mem_cons, List.forall_mem_cons, hiff, hothers,
          hdel.gone_iff ⟨hrest.fewer _, fun hx => hrest.others _ hx hr⟩]
      · rintro _ s' ⟨hnot, -⟩ hall
        exact hnot (hothers.2 fun q hq => hall q (List.mem_cons_of_mem r hq))
    · rintro _ s' ⟨hfail | ⟨-, n, hfault, -⟩, -⟩ hall
      · obtain ⟨n, hfault, -⟩ := hfail.2 (hall r List.mem_cons_self)
        cases hfault
      · cases hfault

end BlueprintNG

end Loop

/-- Every registered child that exists is known to the provider: `register_children` follows
`create_blueprint`, and refuses a child it has. -/
structure DestroyModel.ChildrenOk (b : DestroyModel) (children : List BlueId) : Prop where
  nodup : b.childrenBlueIds.Nodup
  deployed : ∀ id ∈ b.childrenBlueIds, id ∈ children → id ∈ b.deployedBlueprints

structure DestroyModel.SameTables (b d : DestroyModel) : Prop where
  resources : d.registeredResources = b.registeredResources
  osDict : d.osDict = b.osDict
  proxmoxDict : d.proxmoxDict = b.proxmoxDict
  isProtected : d.isProtected = b.isProtected

/-- What the deletion of the children keeps. -/
structure DestroyWorld.ChildInv (b : DestroyModel) (alive : List String) (s : DestroyWorld) : Prop where
  alive : s.alive = alive
  tables : b.SameTables s.blueprint
  children : s.blueprint.ChildrenOk s.children
  doc : ∃ d, s.doc = some d ∧ b.SameTables d ∧ d.ChildrenOk s.children

section Children

variable {b : DestroyModel} {s s' : DestroyWorld} {alive : List String} {fault : Option DestroyFault} {id : BlueId}

theorem DestroyModel.ChildrenOk.mono (h : b.ChildrenOk children) (hsub : ∀ id ∈ children', id ∈ children) :
    b.ChildrenOk children' :=
  ⟨h.nodup, fun id hid hin => h.deployed id hid (hsub id hin)⟩

namespace DestroyWorld

theorem ChildInv.removeChild (h : ChildInv b alive s) (id : BlueId) : ChildInv b alive (s.removeChild id) := by
  have hsub : ∀ id' ∈ (s.removeChild id).children, id' ∈ s.children := fun _ h => (List.mem_filter.1 h).1
  obtain ⟨d, hd, htables, hchildren⟩ := h.doc
  exact ⟨h.alive, h.tables, h.children.mono hsub, d, hd, htables, hchildren.mono hsub⟩

theorem ChildInv.removeDeployed (h : ChildInv b alive s) (hgone : id ∉ s.children) :
    ChildInv b alive (s.removeDeployed id) := by
  refine ⟨h.alive, ⟨h.tables.resources, h.tables.osDict, h.tables.proxmoxDict, h.tables.isProtected⟩, ⟨h.children.nodup, ?_⟩, h.doc⟩
  intro id' hid' hin
  have hne : id' ≠ id := by
    rintro rfl
    exact hgone hin
  exact (List.mem_erase_of_ne hne).2 (h.children.deployed id' hid' hin)

theorem ChildInv.saveToDb (h : ChildInv b alive s) : ChildInv b alive s.saveToDb :=
  ⟨h.alive, h.tables, h.children, s.blueprint, rfl, h.tables, h.children⟩

theorem ChildInv.deregister (h : ChildInv b alive s) (id : BlueId) :
    ChildInv b alive { s with blueprint := { s.blueprint with childrenBlueIds := s.blueprint.childrenBlueIds.erase id } } :=
  ⟨h.alive, ⟨h.tables.resources, h.tables.osDict, h.tables.proxmoxDict, h.tables.isProtected⟩,
    ⟨h.children.nodup.erase id, fun id' hid' => h.children.deployed id' (List.mem_of_mem_erase hid')⟩, h.doc⟩

end DestroyWorld

namespace BlueprintNG

open DestroyWorld

theorem deleteChild_meets (h : ChildInv b alive s) (hid : id ∈ s.blueprint.childrenBlueIds) :
    Meets (deleteChild fault id) s
      (fun _ s' => ChildInv b alive s' ∧ s'.blueprint.childrenBlueIds = s.blueprint.childrenBlueIds)
      (fun e s' => ChildInv b alive s' ∧ s'.blueprint.childrenBlueIds = s.blueprint.childrenBlueIds ∧
        (e = .blueprintNotFound ∨ fault = some (.child id))) := by
  unfold deleteChild deleteOther
  simp only [meets_bind, meets_raiseUnless, meets_modify]
  refine ⟨fun hin => ⟨fun _ => ⟨fun _ => ?_, fun hnot => ?_⟩, fun hfault => ?_⟩, fun _ => ⟨h, trivial, .inl trivial⟩⟩
  · have hgone : id ∉ (s.removeChild id).children := by
      intro hin'
      exact of_decide_eq_true (List.mem_filter.1 hin').2 rfl
    exact ⟨((h.removeChild id).removeDeployed hgone).saveToDb, rfl⟩
  · exact absurd (h.children.deployed id hid hin) hnot
  · exact ⟨h, trivial, .inr (not_not.1 hfault)⟩

theorem destroyChild_meets (h : ChildInv b alive s) (hid : id ∈ s.blueprint.childrenBlueIds) :
    Meets (destroyChild fault id) s
      (fun _ s' => ChildInv b alive s' ∧ s'.blueprint.childrenBlueIds = s.blueprint.childrenBlueIds.erase id)
      (fun _ s' => ChildInv b alive s' ∧ fault = some (.child id)) := by
  have hrest (s₁ : DestroyWorld) (h₁ : ChildInv b alive s₁)
      (hids : s₁.blueprint.childrenBlueIds = s.blueprint.childrenBlueIds) :
      Meets (deregisterChildren id) s₁
        (fun _ s' => ChildInv b alive s' ∧ s'.blueprint.childrenBlueIds = s.blueprint.childrenBlueIds.erase id)
        (fun _ s' => ChildInv b alive s' ∧ fault = some (.child id)) := by
    unfold deregisterChildren
    rw [meets_bind, meets_raiseUnless, meets_modify]
    exact ⟨fun _ => ⟨h₁.deregister id, congrArg (·.erase id) hids⟩, fun hnot => absurd (hids ▸ hid) hnot⟩
  unfold destroyChild
  rw [meets_bind, meets_tryCatch]
  apply (deleteChild_meets h hid).mono
  · rintro _ s₁ ⟨h₁, hids⟩
    exact hrest s₁ h₁ hids
  · rintro e s₁ ⟨h₁, hids, hcause⟩
    split
    · exact hrest s₁ h₁ hids
    next hne => exact ⟨h₁, hcause.resolve_left hne⟩

theorem destroyChildren_meets (ids : List BlueId) (h : ChildInv b alive s) (hnodup : ids.Nodup)
    (hids : ∀ id ∈ ids, id ∈ s.blueprint.childrenBlueIds) :
    Meets (forM ids (destroyChild fault)) s (fun _ s' => ChildInv b alive s')
      (fun _ s' => ChildInv b alive s' ∧ ∃ id, fault = some (.child id)) := by
  induction ids generalizing s with
  | nil => exact h
  | cons id ids ih =>
    obtain ⟨hid, hnodup⟩ := List.nodup_cons.1 hnodup
    rw [List.forM_cons, meets_bind]
    apply (destroyChild_meets h (hids id List.mem_cons_self)).mono
    · rintro _ s₁ ⟨h₁, herase⟩
      apply ih h₁ hnodup
      intro id' hid'
      rw [herase]
      have hne : id' ≠ id := by
        rintro rfl
        exact hid hid'
      exact (List.mem_erase_of_ne hne).2 (hids id' (List.mem_cons_of_mem id hid'))
    · exact fun _ s₁ h₁ => ⟨h₁.1, id, h₁.2⟩

theorem deleteOther_meets : Meets (deleteOther fault id) s (fun _ s' => s'.alive = s.alive) (fun _ s' => s'.alive = s.alive) := by
  unfold deleteOther
  rw [meets_bind, meets_raiseUnless, meets_bind, meets_raiseUnless, meets_modify]
  exact ⟨fun _ => ⟨fun _ => rfl, fun _ => rfl⟩, fun _ => rfl⟩

theorem finalCleanup_meets : Meets (finalCleanup fault) s (fun _ s' => s'.alive = s.alive) (fun _ _ => False) := by
  unfold finalCleanup
  rw [meets_bind, meets_modify, meets_bind, meets_get, meets_bind]
  apply (Meets.forM (I := fun s' => s'.alive = s.alive) (E := fun _ _ => False) _ rfl ?_).mono
  · exact fun _ s' h => h
  · exact fun _ _ h => h
  · intro id _ s' hs'
    rw [meets_tryCatch]
    apply deleteOther_meets.mono
    · exact fun _ _ h => h.trans hs'
    · exact fun _ _ h => h.trans hs'

end BlueprintNG

namespace DestroyModel

theorem SameTables.deletable_iff {r : RegisteredResource} (h : b.SameTables d) :
    r.Deletable d alive ↔ r.Deletable b alive := by
  unfold RegisteredResource.Deletable
  rw [h.osDict, h.proxmoxDict]

/-- What is left for a later attempt. -/
structure Retriable (fault : Option DestroyFault) (b : DestroyModel) (alive : List String) (d : DestroyModel)
    (s : DestroyWorld) : Prop where
  doc : s.doc = some d
  resources : d.registeredResources = b.registeredResources
  isProtected : d.isProtected = b.isProtected
  children : d.ChildrenOk s.children
  deletable : (∀ r ∈ b.registeredResources, r.Deletable d s.alive) ↔
    (∀ r ∈ b.registeredResources, r.Deletable b alive) ∧ DestroyFault.Spares fault b.registeredResources

end DestroyModel

namespace DestroyWorld

theorem ChildInv.synced (h : ChildInv b alive s) (rs : List RegisteredResource) : s.Synced rs := by
  obtain ⟨d, hd, htables, -⟩ := h.doc
  refine ⟨d, hd, htables.osDict.trans h.tables.osDict.symm, fun r _ => ?_⟩
  rw [htables.proxmoxDict, h.tables.proxmoxDict]

theorem ChildInv.init (hdoc : s.doc = some s.blueprint) (hchildren : s.blueprint.ChildrenOk s.children) :
    ChildInv s.blueprint s.alive s :=
  ⟨rfl, ⟨rfl, rfl, rfl, rfl⟩, hchildren, s.blueprint, hdoc, ⟨rfl, rfl, rfl, rfl⟩, hchildren⟩

/-- The document a raised loop leaves behind. -/
theorem ChildInv.doc_after (h : ChildInv b alive s) (hframe : s.Frame ids s') :
    ∃ d, s'.doc = some d ∧ d.registeredResources = b.registeredResources ∧ d.isProtected = b.isProtected ∧
      d.ChildrenOk s'.children := by
  rw [hframe.children]
  rcases hframe.doc with hdoc | ⟨d, hd, hagrees⟩
  · obtain ⟨d, hd, htables, hchildren⟩ := h.doc
    exact ⟨d, hdoc.trans hd, htables.resources, htables.isProtected, hchildren⟩
  · refine ⟨d, hd, ?_, ?_, ?_⟩
    · rw [hagrees.rest]
      exact h.tables.resources
    · rw [hagrees.rest]
      exact h.tables.isProtected
    · rw [hagrees.rest]
      exact ⟨h.children.nodup, h.children.deployed⟩

end DestroyWorld

namespace BlueprintNG

open DestroyWorld

theorem destroy_raised (hdoc : s.doc = some s.blueprint) (hchildren : s.blueprint.ChildrenOk s.children)
    (hnodup : (s.blueprint.registeredResources.map (·.id)).Nodup) :
    Meets (destroy fault) s (fun _ _ => True) (fun _ s' => ∃ d, DestroyModel.Retriable fault s.blueprint s.alive d s') := by
  unfold destroy
  rw [meets_bind, meets_get, meets_bind]
  apply (destroyChildren_meets _ (.init hdoc hchildren) hchildren.nodup (fun _ h => h)).mono
  · intro _ s₁ h₁
    rw [meets_bind, meets_get, meets_bind, h₁.tables.resources]
    have hrs : (∀ r ∈ s.blueprint.registeredResources, r.Deletable s₁.blueprint s₁.alive) ↔
        ∀ r ∈ s.blueprint.registeredResources, r.Deletable s.blueprint s.alive := by
      rw [h₁.alive]
      exact forall₂_congr fun r _ => h₁.tables.deletable_iff
    apply ((destroyResources_stopped _ hnodup (h₁.synced _)).and (destroyResources_frame _)).mono
    · intro _ s₂ _
      rw [meets_bind]
      apply finalCleanup_meets.mono
      · exact fun _ _ _ => trivial
      · exact fun _ _ h => h.elim
    · rintro _ s' ⟨hstopped, hframe⟩
      obtain ⟨d, hd, hresources, hprotected, hchildren'⟩ := h₁.doc_after hframe
      refine ⟨d, hd, hresources, hprotected, hchildren', ?_⟩
      rw [← hrs, ← hstopped.retry]
      apply forall₂_congr
      intro r _
      constructor
      · exact fun h => ⟨d, hd, h⟩
      · rintro ⟨d', hd', h⟩
        cases hd.symm.trans hd'
        exact h
  · rintro _ s' ⟨h, id, rfl⟩
    obtain ⟨d, hd, htables, hchildren'⟩ := h.doc
    refine ⟨d, hd, htables.resources, htables.isProtected, hchildren', ?_⟩
    rw [h.alive]
    simp only [htables.deletable_iff, DestroyFault.Spares, and_true]

theorem destroy_again (hdoc : s.doc = some s.blueprint) (hchildren : s.blueprint.ChildrenOk s.children)
    (hnodup : (s.blueprint.registeredResources.map (·.id)).Nodup) :
    Meets (destroy none) s
      (fun _ s' => s'.doc = none ∧ ((∀ r ∈ s.blueprint.registeredResources, r.kind ≠ .other → r.id ∉ s'.alive) ↔
        ∀ r ∈ s.blueprint.registeredResources, r.Deletable s.blueprint s.alive))
      (fun _ s' => s'.doc ≠ none ∧ ¬ ∀ r ∈ s.blueprint.registeredResources, r.Deletable s.blueprint s.alive) := by
  unfold destroy
  rw [meets_bind, meets_get, meets_bind]
  apply (destroyChildren_meets _ (.init hdoc hchildren) hchildren.nodup (fun _ h => h)).mono
  · intro _ s₁ h₁
    rw [meets_bind, meets_get, meets_bind, h₁.tables.resources]
    have hrs : (∀ r ∈ s.blueprint.registeredResources, r.Deletable s₁.blueprint s₁.alive) ↔
        ∀ r ∈ s.blueprint.registeredResources, r.Deletable s.blueprint s.alive := by
      rw [h₁.alive]
      exact forall₂_congr fun r _ => h₁.tables.deletable_iff
    apply ((destroyResources_again _ hnodup).and (destroyResources_frame _)).mono
    · rintro _ s₂ ⟨hgone, -⟩
      rw [meets_bind]
      apply finalCleanup_meets.mono
      · intro _ s₃ halive
        rw [meets_modify]
        refine ⟨rfl, ?_⟩
        rw [← hrs, ← hgone, halive]
      · exact fun _ _ h => h.elim
    · rintro _ s' ⟨hnot, hframe⟩
      obtain ⟨d, hd, -⟩ := h₁.doc_after hframe
      rw [hrs] at hnot
      exact ⟨by simp [hd], hnot⟩
  · rintro _ s' ⟨-, id, hfault⟩
    cases hfault

end BlueprintNG

end Children

/-- A blueprint that is saved and not protected, with its worker idle or not yet loaded. -/
structure DeleteState.Ready (s : DeleteState) (b : DestroyModel) : Prop where
  worker : s.worker = none ∨ s.worker = some ⟨b, true⟩
  doc : s.doc = some b
  isProtected : b.isProtected = false
  resources : (b.registeredResources.map (·.id)).Nodup
  children : b.ChildrenOk s.children

namespace DeleteState

variable {s : DeleteState} {b d : DestroyModel} {fault : Option DestroyFault}

/-- The document outlives a first attempt, and a later one without failures deletes everything. -/
def Retried (s : DeleteState) (b : DestroyModel) (fault : Option DestroyFault) (wait waitAgain : Bool) : Prop :=
  let first := (s.deleteBlueprint fault wait).2
  let again := first.deleteBlueprint none waitAgain
  first.doc ≠ none ∧ again.1 = .returned ∧ again.2.doc = none ∧
    ∀ r ∈ b.registeredResources, r.kind ≠ .other → r.id ∉ again.2.alive

theorem Ready.getWorker (h : s.Ready b) : s.getWorker = some ⟨b, true⟩ := by
  unfold DeleteState.getWorker
  rcases h.worker with hw | hw
  · rw [hw, h.doc]
    rfl
  · rw [hw]

theorem Ready.first (h : s.Ready b) (hrun : (BlueprintNG.destroy fault).run (s.world b) = .error e s') (wait : Bool) :
    (s.deleteBlueprint fault wait).2 = ⟨if wait then some ⟨s'.blueprint, false⟩ else none, s'.doc, s'.alive, s'.children⟩ := by
  have hstop : ({ s with worker := some ⟨b, true⟩ } : DeleteState).stop fault ⟨b, true⟩ =
      (⟨some ⟨s'.blueprint, false⟩, s'.doc, s'.alive, s'.children⟩, false) := by
    unfold stop
    have hworld : ({ s with worker := some ⟨b, true⟩ } : DeleteState).world b = s.world b := rfl
    simp only [if_true, hworld, hrun]
  unfold deleteBlueprint
  simp only [h.getWorker, h.isProtected, Bool.false_eq_true, if_false, hstop, Bool.not_false, Bool.and_true]
  cases wait <;> rfl

/-- A worker that is no longer in its loop handles no message. -/
theorem dead_worker_keeps (hdoc : s.doc = some d) (hworker : s.worker = some ⟨b, false⟩) (wait : Bool) :
    (s.deleteBlueprint fault wait).2.doc ≠ none := by
  have hget : s.getWorker = some ⟨b, false⟩ := by
    unfold DeleteState.getWorker
    rw [hworker]
  unfold deleteBlueprint stop
  simp only [hget]
  split
  · simp [hdoc]
  · simp only [Bool.false_eq_true, if_false]
    split <;> simp [hdoc]

/-- The outcome of an attempt without failures. -/
theorem Ready.again_iff (h : s.Ready b) (wait : Bool) :
    ((s.deleteBlueprint none wait).1 = .returned ∧ (s.deleteBlueprint none wait).2.doc = none ∧
        ∀ r ∈ b.registeredResources, r.kind ≠ .other → r.id ∉ (s.deleteBlueprint none wait).2.alive) ↔
      ∀ r ∈ b.registeredResources, r.Deletable b s.alive := by
  have hmeets := BlueprintNG.destroy_again (s := s.world b) h.doc h.children h.resources
  unfold Meets at hmeets
  have hworld : ({ s with worker := some ⟨b, true⟩ } : DeleteState).world b = s.world b := rfl
  unfold deleteBlueprint stop
  simp only [h.getWorker, h.isProtected, Bool.false_eq_true, if_false, if_true, hworld]
  cases hrun : (BlueprintNG.destroy none).run (s.world b) with
  | ok a s' =>
    rw [hrun] at hmeets
    simp only [Bool.not_true, Bool.and_false, Bool.false_eq_true, if_false, true_and]
    exact ⟨fun h => hmeets.2.1 h.2, fun h => ⟨hmeets.1, hmeets.2.2 h⟩⟩
  | error e s' =>
    rw [hrun] at hmeets
    refine ⟨?_, fun hall => absurd hall hmeets.2⟩
    simp only [Bool.not_false, Bool.and_true]
    rintro ⟨-, hdoc, -⟩
    split at hdoc <;> exact absurd hdoc hmeets.1

end DeleteState

section Retry

variable {s : DeleteState} {b : DestroyModel} {fault : Option DestroyFault}

theorem destroy_retried_iff (h : s.Ready b) (hraised : Raised ((BlueprintNG.destroy fault).run (s.world b)))
    (wait waitAgain : Bool) :
    s.Retried b fault wait waitAgain ↔
      wait = false ∧ (∀ r ∈ b.registeredResources, r.Deletable b s.alive) ∧
        DestroyFault.Spares fault b.registeredResources := by
  have hmeets : Meets (BlueprintNG.destroy fault) (s.world b) _ _ :=
    BlueprintNG.destroy_raised h.doc h.children h.resources
  unfold Meets at hmeets
  cases hrun : (BlueprintNG.destroy fault).run (s.world b) with
  | ok a s' =>
    rw [hrun] at hraised
    exact absurd hraised (raised_ok a s')
  | error e s' =>
    rw [hrun] at hmeets
    obtain ⟨d, hretry⟩ := hmeets
    unfold DeleteState.Retried
    rw [h.first hrun]
    cases wait with
    | true =>
      refine ⟨fun hretried => ?_, fun hcond => absurd hcond.1 (by decide)⟩
      exact absurd hretried.2.2.1 (DeleteState.dead_worker_keeps hretry.doc rfl waitAgain)
    | false =>
      have hready : DeleteState.Ready ⟨none, s'.doc, s'.alive, s'.children⟩ d :=
        ⟨.inl rfl, hretry.doc, hretry.isProtected.trans h.isProtected, hretry.resources ▸ h.resources, hretry.children⟩
      have hagain := hready.again_iff waitAgain
      rw [hretry.resources, hretry.deletable] at hagain
      simp only [Bool.false_eq_true, if_false, true_and]
      have hdoc : s'.doc ≠ none := by simp [hretry.doc]
      exact ⟨fun h => hagain.1 h.2, fun h => ⟨hdoc, hagain.2 h⟩⟩

end Retry

/-- Two servers; the deletion of the second one is refused. -/
theorem destroy_retried_servers :
    let b : DestroyModel :=
      { registeredResources := [⟨"vm1", .openstackVm⟩, ⟨"vm2", .openstackVm⟩], osDict := ["vm1", "vm2"],
        childrenBlueIds := [7], deployedBlueprints := [7] }
    let s : DeleteState := ⟨none, some b, ["vm1", "vm2"], [7]⟩
    s.Retried b (some (.call "vm2" 0)) false true := by
  intro b s
  have hready : s.Ready b := ⟨.inl rfl, rfl, rfl, by decide, by decide, by decide⟩
  have hraised : Raised ((BlueprintNG.destroy (some (.call "vm2" 0))).run (s.world b)) := by decide
  apply (destroy_retried_iff hready hraised false true).2
  refine ⟨rfl, ?_, ?_⟩
  · simp [b, s, RegisteredResource.Deletable]
  · simp [b, DestroyFault.Spares, RegisteredResource.Deletes]

/-- Two VMs on Proxmox; `qm stop` of the second one fails, then that of the first one. -/
theorem destroy_retried_fails :
    ¬ ∀ (s : DeleteState) (b : DestroyModel) (fault : Option DestroyFault) (wait waitAgain : Bool), s.Ready b →
      Raised ((BlueprintNG.destroy fault).run (s.world b)) → s.Retried b fault wait waitAgain := by
  intro h
  let b : DestroyModel :=
    { registeredResources := [⟨"vm1", .proxmoxVm⟩, ⟨"vm2", .proxmoxVm⟩], proxmoxDict := ["vm1", "vm2"] }
  let s : DeleteState := ⟨none, some b, ["vm1", "vm2"], []⟩
  have hready : s.Ready b := ⟨.inl rfl, rfl, rfl, by decide, by decide, by decide⟩
  have hretried := h s b (some (.call "vm2" 0)) false true hready (by decide)
  have hblocked : ((s.deleteBlueprint (some (.call "vm2" 0)) false).2.deleteBlueprint none true).1 = .blocked := by decide
  exact absurd (hretried.2.1.symm.trans hblocked) (by decide)

end Nfvcl
