import Nfvcl.K8sLoadBalancers
import Nfvcl.LowerNames
import Nfvcl.WorkerNumbers

namespace Nfvcl
set_option autoImplicit true
open Effects

namespace K8sBlueprint

/-- The master and the workers are those of the other state. -/
structure SameNodes (s s' : K8sBlueprintState) : Prop where
  master : s'.vmMaster = s.vmMaster
  workers : s'.vmWorkers = s.vmWorkers

theorem SameNodes.refl (s : K8sBlueprintState) : SameNodes s s where
  master := rfl
  workers := rfl

theorem SameNodes.trans (h : SameNodes s s₁) (h' : SameNodes s₁ s₂) : SameNodes s s₂ where
  master := h'.master.trans h.master
  workers := h'.workers.trans h.workers

/-- Workers are added, each with a name of its number. -/
structure AddsWorkers (id : String) (areas : List K8sAreaDeployment) (s s' : K8sBlueprintState) (added : List NodeVm) : Prop where
  master : s'.vmMaster = s.vmMaster
  workers : s'.vmWorkers = s.vmWorkers ++ added
  names : ∀ vm ∈ added, ∃ n, vm.name = workerName id n
  areas : ∀ areaId, (∃ vm ∈ added, vm.area = areaId) ↔ ∃ area ∈ areas, area.areaId = areaId ∧ 0 < area.workerReplicas

section Nodes

variable (raises : Nat → Option PyError)

theorem attempt_nodes (s : K8sBlueprintState) :
    Meets (attempt raises) s (fun _ s' => SameNodes s s') (fun _ _ => True) :=
  attempt_meets raises (fun _ => ⟨rfl, rfl⟩) (fun _ _ => trivial)

theorem registerResource_nodes (resource : Nat) (s : K8sBlueprintState) :
    Meets (registerResource raises resource) s (fun _ s' => SameNodes s s') (fun _ _ => True) :=
  registerResource_meets raises ⟨rfl, rfl⟩ (fun _ => trivial)

theorem day0conf_nodes (configureMaster : Bool) (s : K8sBlueprintState) :
    Meets (day0conf raises configureMaster) s (fun _ s' => SameNodes s s') (fun _ _ => True) := by
  have hworkers : ∀ s₁, SameNodes s s₁ → Meets (do
      let s ← get
      forM s.day0WorkersConfiguratorsTobeExec (fun _ => attempt raises)
      modify (fun s => { s with day0WorkersConfiguratorsTobeExec := [] })) s₁
      (fun _ s' => SameNodes s s') (fun _ _ => True) := by
    intro s₁ h₁
    rw [meets_bind, meets_get]
    refine Meets.bind (Meets.forM (I := SameNodes s) _ h₁ (fun _ _ s₂ h₂ => ?_)) ?_
    · exact (attempt_nodes raises s₂).mono (fun _ _ h => h₂.trans h) (fun _ _ h => h)
    · exact fun _ s' hs' => ⟨hs'.master, hs'.workers⟩
  unfold day0conf
  cases configureMaster with
  | false => exact hworkers s (.refl s)
  | true => exact Meets.bind (attempt_nodes raises s) (fun _ s' hs' => hworkers s' hs')

variable (id : String)

theorem deployWorker_nodes (area : K8sAreaDeployment) (s : K8sBlueprintState) :
    Meets (deployWorker raises id area) s
      (fun _ s' => ∃ n vmId, s'.vmMaster = s.vmMaster ∧ s'.vmWorkers = s.vmWorkers ++ [⟨area.areaId, workerName id n, vmId⟩])
      (fun _ _ => True) := by
  unfold deployWorker
  rw [meets_bind]
  cases hf : s.workerNumbers.findIdx? (fun val => decide (val = 0)) with
  | none =>
    unfold Meets
    rw [reserve_run_none hf]
    trivial
  | some n =>
    unfold Meets
    rw [reserve_run_some hf]
    change Meets (newId >>= _) _ _ _
    rw [meets_bind, newId_meets, meets_bind, meets_modify]
    refine Meets.bind (registerResource_nodes raises _ _) (fun _ s₁ h₁ => ?_)
    refine Meets.bind (attempt_nodes raises s₁) (fun _ s₂ h₂ => ?_)
    rw [meets_bind, newId_meets, meets_bind, meets_modify]
    refine (registerResource_nodes raises _ _).mono (fun _ s₃ h₃ => ?_) (fun _ _ h => h)
    exact ⟨n, s.ids, h₃.master.trans (h₂.master.trans h₁.master), h₃.workers.trans (h₂.workers.trans h₁.workers)⟩

theorem deployWorkers_nodes (area : K8sAreaDeployment) (n : Nat) (s : K8sBlueprintState) :
    Meets (forM (List.replicate n area) (deployWorker raises id)) s
      (fun _ s' => ∃ added, s'.vmMaster = s.vmMaster ∧ s'.vmWorkers = s.vmWorkers ++ added ∧ added.length = n ∧
        ∀ vm ∈ added, vm.area = area.areaId ∧ ∃ n, vm.name = workerName id n) (fun _ _ => True) := by
  induction n generalizing s with
  | zero => exact ⟨[], rfl, (List.append_nil _).symm, rfl, fun _ h => (nomatch h)⟩
  | succ n ih =>
    rw [List.replicate_succ, List.forM_cons]
    refine Meets.bind (deployWorker_nodes raises id area s) ?_
    rintro _ s₁ ⟨number, vmId, hmaster, hworkers⟩
    refine (ih s₁).mono ?_ (fun _ _ h => h)
    rintro _ s₂ ⟨added, hmaster₂, hworkers₂, hlength, hadded⟩
    refine ⟨⟨area.areaId, workerName id number, vmId⟩ :: added, hmaster₂.trans hmaster, ?_, congrArg (· + 1) hlength, ?_⟩
    · rw [hworkers₂, hworkers, List.append_assoc]
      rfl
    · intro vm hvm
      rcases List.mem_cons.1 hvm with rfl | hvm
      · exact ⟨rfl, number, rfl⟩
      · exact hadded vm hvm

theorem deployArea_nodes (area : K8sAreaDeployment) (s : K8sBlueprintState) :
    Meets (deployArea raises id area) s (fun _ s' => ∃ added, AddsWorkers id [area] s s' added) (fun _ _ => True) := by
  unfold deployArea
  refine Meets.bind (deployWorkers_nodes raises id area area.workerReplicas s) ?_
  rintro _ s₁ ⟨added, hmaster, hworkers, hlength, hadded⟩
  have hareas : ∀ areaId, (∃ vm ∈ added, vm.area = areaId) ↔
      ∃ other ∈ [area], other.areaId = areaId ∧ 0 < other.workerReplicas := by
    intro areaId
    constructor
    · rintro ⟨vm, hvm, rfl⟩
      refine ⟨area, List.mem_cons_self, (hadded vm hvm).1.symm, ?_⟩
      rw [← hlength]
      exact List.length_pos_of_mem hvm
    · rintro ⟨other, hother, rfl, hpos⟩
      rw [List.mem_singleton.1 hother] at hpos ⊢
      rw [← hlength] at hpos
      obtain ⟨vm, hvm⟩ := List.exists_mem_of_length_pos hpos
      exact ⟨vm, hvm, (hadded vm hvm).1⟩
  rw [meets_bind, meets_modify, meets_modify]
  split
  · exact ⟨added, hmaster, hworkers, fun vm hvm => (hadded vm hvm).2, hareas⟩
  · exact ⟨added, hmaster, hworkers, fun vm hvm => (hadded vm hvm).2, hareas⟩

theorem deployMasterNode_nodes (area : K8sAreaDeployment) (s : K8sBlueprintState) :
    Meets (deployMasterNode raises id area) s
      (fun _ s' => (∃ vmId, s'.vmMaster = some ⟨area.areaId, masterName id, vmId⟩) ∧ s'.vmWorkers = s.vmWorkers) (fun _ _ => True) := by
  unfold deployMasterNode
  rw [meets_bind, newId_meets, meets_bind, meets_modify]
  refine Meets.bind (registerResource_nodes raises _ _) (fun _ s₁ h₁ => ?_)
  refine Meets.bind (attempt_nodes raises s₁) (fun _ s₂ h₂ => ?_)
  rw [meets_bind, newId_meets, meets_bind, newId_meets]
  refine Meets.bind (registerResource_nodes raises _ _) (fun _ s₃ h₃ => ?_)
  refine (registerResource_nodes raises _ _).mono (fun _ s₄ h₄ => ?_) (fun _ _ h => h)
  have hlast : SameNodes s₂ s₄ := ⟨h₄.master.trans h₃.master, h₄.workers.trans h₃.workers⟩
  have h := h₁.trans (h₂.trans hlast)
  exact ⟨⟨s.ids, h.master⟩, h.workers⟩

theorem AddsWorkers.trans {areas more : List K8sAreaDeployment} (h : AddsWorkers id areas s s₁ added) (h' : AddsWorkers id more s₁ s₂ added') :
    AddsWorkers id (areas ++ more) s s₂ (added ++ added') where
  master := h'.master.trans h.master
  workers := by rw [h'.workers, h.workers, List.append_assoc]
  names := fun vm hvm => (List.mem_append.1 hvm).elim (h.names vm) (h'.names vm)
  areas := by
    intro areaId
    simp only [List.mem_append, or_and_right, exists_or]
    exact or_congr (h.areas areaId) (h'.areas areaId)

theorem deployAreas_nodes (areas : List K8sAreaDeployment) (s : K8sBlueprintState) :
    Meets (forM areas (deployArea raises id)) s (fun _ s' => ∃ added, AddsWorkers id areas s s' added) (fun _ _ => True) := by
  induction areas generalizing s with
  | nil => exact ⟨[], rfl, (List.append_nil _).symm, fun _ h => (nomatch h), by simp⟩
  | cons area areas ih =>
    rw [List.forM_cons]
    refine Meets.bind (deployArea_nodes raises id area s) ?_
    rintro _ s₁ ⟨added, h₁⟩
    refine (ih s₁).mono ?_ (fun _ _ h => h)
    rintro _ s₂ ⟨added', h₂⟩
    exact ⟨added ++ added', h₁.trans id h₂⟩

theorem addWorker_nodes (areas : List K8sAreaDeployment) (s : K8sBlueprintState) :
    Meets (addWorker raises id areas) s (fun _ s' => ∃ added, AddsWorkers id areas s s' added) (fun _ _ => True) := by
  unfold addWorker
  refine Meets.bind (deployAreas_nodes raises id areas s) ?_
  rintro _ s₁ ⟨added, h₁⟩
  refine (day0conf_nodes raises false s₁).mono (fun _ s₂ h₂ => ?_) (fun _ _ h => h)
  exact ⟨added, h₂.master.trans h₁.master, h₂.workers.trans h₁.workers, h₁.names, h₁.areas⟩

/-! ### The deletion of workers -/

theorem deregisterResource_nodes (resource : Nat) (s : K8sBlueprintState) :
    Meets (deregisterResource resource) s (fun _ s' => SameNodes s s') (fun _ _ => True) := by
  unfold deregisterResource
  rw [meets_bind, meets_get]
  split
  · exact ⟨rfl, rfl⟩
  · trivial

theorem releaseWorkerNumber_nodes (number : Nat) (s : K8sBlueprintState) :
    Meets (K8sBlueprintState.releaseWorkerNumber number) s (fun _ s' => SameNodes s s') (fun _ _ => True) := by
  unfold K8sBlueprintState.releaseWorkerNumber
  rw [meets_bind, meets_get]
  split
  · trivial
  · split
    · exact ⟨rfl, rfl⟩
    · trivial

theorem removeConfigurators_nodes (name : String) (configurators : List VmK8sDay0Configurator) (s : K8sBlueprintState) :
    Meets (K8sBlueprintState.removeConfigurators name configurators) s (fun _ s' => SameNodes s s') (fun _ _ => True) := by
  fun_induction K8sBlueprintState.removeConfigurators name configurators generalizing s with
  | case1 => exact .refl s
  | case2 configurator hname =>
    refine Meets.bind (releaseWorkerNumber_nodes _ s) (fun _ s₁ h₁ => ?_)
    exact ⟨h₁.master, h₁.workers⟩
  | case3 configurator hname => exact .refl s
  | case4 configurator next rest hname ih =>
    refine Meets.bind (releaseWorkerNumber_nodes _ s) (fun _ s₁ h₁ => ?_)
    rw [meets_bind, meets_modify]
    refine Meets.bind (ih _) (fun more s₂ h₂ => ?_)
    exact ⟨h₂.master.trans h₁.master, h₂.workers.trans h₁.workers⟩
  | case5 configurator next rest hname ih => exact ih s

/-- The workers with the names of `gone` are not listed any more. -/
structure DropsWorkers (gone : List String) (s s' : K8sBlueprintState) : Prop where
  master : s'.vmMaster = s.vmMaster
  workers : s'.vmWorkers = s.vmWorkers.filter (fun vm => decide (vm.name ∉ gone))

theorem destroyWorker_nodes (vm : NodeVm) (s : K8sBlueprintState) :
    Meets (destroyWorker raises vm) s (fun _ s' => DropsWorkers [vm.name] s s') (fun _ _ => True) := by
  unfold destroyWorker
  refine Meets.bind (attempt_nodes raises s) (fun _ s₁ h₁ => ?_)
  refine Meets.bind (deregisterResource_nodes _ s₁) (fun _ s₂ h₂ => ?_)
  have hremove : Meets (K8sBlueprintState.removeWorker vm) s₂ (fun _ s' => DropsWorkers [vm.name] s₂ s') (fun _ _ => True) := by
    unfold K8sBlueprintState.removeWorker
    rw [meets_bind, meets_modify, meets_bind, meets_get]
    refine Meets.bind (removeConfigurators_nodes _ _ _) (fun configurators s₃ h₃ => ?_)
    rw [meets_bind, meets_modify]
    refine ⟨h₃.master, h₃.workers.trans ?_⟩
    simp only [List.mem_singleton]
  refine Meets.bind hremove (fun configurators s₃ h₃ => ?_)
  have hall : DropsWorkers [vm.name] s s₃ := by
    refine ⟨h₃.master.trans (h₂.master.trans h₁.master), ?_⟩
    rw [h₃.workers, h₂.workers, h₁.workers]
  refine Meets.forM _ hall (fun configurator _ s₄ h₄ => ?_)
  refine (deregisterResource_nodes _ s₄).mono (fun _ s₅ h₅ => ?_) (fun _ _ h => h)
  exact ⟨h₅.master.trans h₄.master, h₅.workers.trans h₄.workers⟩

theorem destroyWorkers_nodes (targets : List NodeVm) (s : K8sBlueprintState) :
    Meets (forM targets (destroyWorker raises)) s (fun _ s' => DropsWorkers (targets.map NodeVm.name) s s') (fun _ _ => True) := by
  induction targets generalizing s with
  | nil => exact ⟨rfl, by simp⟩
  | cons vm targets ih =>
    rw [List.forM_cons]
    refine Meets.bind (destroyWorker_nodes raises vm s) (fun _ s₁ h₁ => ?_)
    refine (ih s₁).mono (fun _ s₂ h₂ => ?_) (fun _ _ h => h)
    refine ⟨h₂.master.trans h₁.master, ?_⟩
    rw [h₂.workers, h₁.workers, List.filter_filter]
    congr 1
    funext other
    simp only [List.map_cons, List.mem_cons, List.not_mem_nil, or_false, not_or, Bool.decide_and]
    exact Bool.and_comm _ _

end Nodes

end K8sBlueprint

end Nfvcl
