import Nfvcl.K8sDeletion

namespace Nfvcl
set_option autoImplicit true
open Effects ListUpdates

namespace K8sBlueprint

/-- Each worker has its own name, number, resource and configurator, and none of them is the master's. -/
structure Consistent (s : K8sBlueprintState) : Prop where
  names : (s.vmWorkers.map NodeVm.name).Nodup
  configured : (s.day0WorkersConfigurators.map VmK8sDay0Configurator.vmResource).Perm s.vmWorkers
  numbers : (s.day0WorkersConfigurators.map VmK8sDay0Configurator.vmNumber).Nodup
  reserved : ∀ configurator ∈ s.day0WorkersConfigurators, s.workerNumbers[configurator.vmNumber]? = some 1
  ids : (s.vmWorkers.map NodeVm.id ++ s.day0WorkersConfigurators.map VmK8sDay0Configurator.id).Nodup
  workersRegistered : ∀ vm ∈ s.vmWorkers, vm.id ∈ s.registeredResources
  configuratorsRegistered : ∀ configurator ∈ s.day0WorkersConfigurators, configurator.id ∈ s.registeredResources
  resources : s.registeredResources.Nodup
  master : ∃ master, s.vmMaster = some master ∧ master.id ∈ s.registeredResources ∧
    master.name ∉ s.vmWorkers.map NodeVm.name ∧
    master.id ∉ s.vmWorkers.map NodeVm.id ++ s.day0WorkersConfigurators.map VmK8sDay0Configurator.id

/-- From `s` to `s'`, the workers with the given names are gone from every list, and nothing else is. -/
structure RemovesExactly (nodeNames : List String) (s s' : K8sBlueprintState) : Prop where
  master : s'.vmMaster = s.vmMaster
  workers : s'.vmWorkers = s.vmWorkers.filter (fun vm => decide (vm.name ∉ nodeNames))
  configurators : s'.day0WorkersConfigurators =
    s.day0WorkersConfigurators.filter (fun configurator => decide (configurator.vmResource.name ∉ nodeNames))
  sublist : s'.registeredResources.Sublist s.registeredResources
  resources : ∀ resource, resource ∈ s'.registeredResources ↔ resource ∈ s.registeredResources ∧
    (∀ vm ∈ s.vmWorkers, vm.name ∈ nodeNames → vm.id ≠ resource) ∧
    ∀ configurator ∈ s.day0WorkersConfigurators, configurator.vmResource.name ∈ nodeNames → configurator.id ≠ resource
  freed : ∀ configurator ∈ s.day0WorkersConfigurators, configurator.vmResource.name ∈ nodeNames →
    s'.workerNumbers[configurator.vmNumber]? = some 0
  kept : ∀ n, (∀ configurator ∈ s.day0WorkersConfigurators, configurator.vmResource.name ∈ nodeNames →
    configurator.vmNumber ≠ n) → s'.workerNumbers[n]? = s.workerNumbers[n]?

/-! ### Workers and configurators of a consistent state -/

section Lists

variable {s s' : K8sBlueprintState}

theorem Consistent.configurator_worker {configurator : VmK8sDay0Configurator} (h : Consistent s) (hmem : configurator ∈ s.day0WorkersConfigurators) :
    configurator.vmResource ∈ s.vmWorkers :=
  h.configured.subset (List.mem_map_of_mem hmem)

theorem Consistent.worker_eq (h : Consistent s) (hvm : vm ∈ s.vmWorkers) (hother : other ∈ s.vmWorkers)
    (hname : vm.name = other.name) : vm = other :=
  List.inj_on_of_nodup_map h.names hvm hother hname

theorem Consistent.configurator_eq (h : Consistent s) (hc : c ∈ s.day0WorkersConfigurators)
    (hd : d ∈ s.day0WorkersConfigurators) (hnumber : c.vmNumber = d.vmNumber) : c = d :=
  List.inj_on_of_nodup_map h.numbers hc hd hnumber

theorem Consistent.configurator_names (h : Consistent s) :
    (s.day0WorkersConfigurators.map (fun configurator => configurator.vmResource.name)).Nodup := by
  have hperm := h.configured.map NodeVm.name
  rw [List.map_map] at hperm
  exact hperm.nodup_iff.2 h.names

theorem Consistent.worker_id (h : Consistent s) (hvm : vm ∈ s.vmWorkers) (hother : other ∈ s.vmWorkers)
    (hid : vm.id = other.id) : vm = other :=
  List.inj_on_of_nodup_map (List.nodup_append.1 h.ids).1 hvm hother hid

theorem Consistent.configurator_id (h : Consistent s) (hc : c ∈ s.day0WorkersConfigurators)
    (hd : d ∈ s.day0WorkersConfigurators) (hid : c.id = d.id) : c = d :=
  List.inj_on_of_nodup_map (List.nodup_append.1 h.ids).2.1 hc hd hid

theorem Consistent.id_ne (h : Consistent s) (hvm : vm ∈ s.vmWorkers) (hc : c ∈ s.day0WorkersConfigurators) :
    vm.id ≠ c.id :=
  (List.nodup_append.1 h.ids).2.2 _ (List.mem_map_of_mem hvm) _ (List.mem_map_of_mem hc)

/-- The configurator of a worker, and the others around it. -/
theorem Consistent.split (h : Consistent s) (hvm : vm ∈ s.vmWorkers) :
    ∃ before configurator after, s.day0WorkersConfigurators = before ++ configurator :: after ∧
      configurator.vmResource = vm ∧ (∀ other ∈ before, other.vmResource.name ≠ vm.name) ∧
      ∀ other ∈ after, other.vmResource.name ≠ vm.name := by
  obtain ⟨configurator, hmem, hresource⟩ := List.mem_map.1 (h.configured.symm.subset hvm)
  obtain ⟨before, after, hsplit⟩ := List.append_of_mem hmem
  have hnodup := h.configurator_names
  rw [hsplit, List.map_append, List.map_cons, List.nodup_middle, List.nodup_cons, List.mem_append] at hnodup
  refine ⟨before, configurator, after, hsplit, hresource, ?_, ?_⟩
  · intro other hother he
    exact hnodup.1 (.inl (List.mem_map.2 ⟨other, hother, he.trans (congrArg NodeVm.name hresource.symm)⟩))
  · intro other hother he
    exact hnodup.1 (.inr (List.mem_map.2 ⟨other, hother, he.trans (congrArg NodeVm.name hresource.symm)⟩))

/-! ### What a removal keeps -/

theorem RemovesExactly.mem_workers (h : RemovesExactly nodeNames s s') :
    vm ∈ s'.vmWorkers ↔ vm ∈ s.vmWorkers ∧ vm.name ∉ nodeNames := by
  rw [h.workers, List.mem_filter, decide_eq_true_iff]

theorem RemovesExactly.mem_configurators {configurator : VmK8sDay0Configurator} (h : RemovesExactly nodeNames s s') :
    configurator ∈ s'.day0WorkersConfigurators ↔
      configurator ∈ s.day0WorkersConfigurators ∧ configurator.vmResource.name ∉ nodeNames := by
  rw [h.configurators, List.mem_filter, decide_eq_true_iff]

theorem Consistent.removed (h : Consistent s) (hr : RemovesExactly nodeNames s s') : Consistent s' where
  names := by
    rw [hr.workers]
    exact h.names.sublist (List.filter_sublist.map _)
  configured := by
    have hperm := h.configured.filter (fun vm => decide (vm.name ∉ nodeNames))
    rw [List.filter_map] at hperm
    rw [hr.workers, hr.configurators]
    exact hperm
  numbers := by
    rw [hr.configurators]
    exact h.numbers.sublist (List.filter_sublist.map _)
  reserved := by
    intro configurator hc
    obtain ⟨hmem, hname⟩ := hr.mem_configurators.1 hc
    rw [hr.kept, h.reserved configurator hmem]
    intro other hother hgone he
    rw [h.configurator_eq hother hmem he] at hgone
    exact hname hgone
  ids := by
    rw [hr.workers, hr.configurators]
    exact h.ids.sublist ((List.filter_sublist.map _).append (List.filter_sublist.map _))
  workersRegistered := by
    intro vm hvm
    obtain ⟨hmem, hname⟩ := hr.mem_workers.1 hvm
    rw [hr.resources]
    refine ⟨h.workersRegistered vm hmem, ?_, fun c hc _ he => h.id_ne hmem hc he.symm⟩
    intro other hother hgone he
    rw [h.worker_id hother hmem he] at hgone
    exact hname hgone
  configuratorsRegistered := by
    intro configurator hc
    obtain ⟨hmem, hname⟩ := hr.mem_configurators.1 hc
    rw [hr.resources]
    refine ⟨h.configuratorsRegistered configurator hmem, fun vm hvm _ he => h.id_ne hvm hmem he, ?_⟩
    intro other hother hgone he
    rw [h.configurator_id hother hmem he] at hgone
    exact hname hgone
  resources := h.resources.sublist hr.sublist
  master := by
    obtain ⟨master, hmaster, hregistered, hname, hid⟩ := h.master
    rw [List.mem_append, not_or] at hid
    refine ⟨master, hr.master.trans hmaster, ?_, ?_, ?_⟩
    · rw [hr.resources]
      exact ⟨hregistered, fun vm hvm _ he => hid.1 (List.mem_map.2 ⟨vm, hvm, he⟩),
        fun c hc _ he => hid.2 (List.mem_map.2 ⟨c, hc, he⟩)⟩
    · rw [hr.workers]
      exact fun hmem => hname ((List.filter_sublist.map _).subset hmem)
    · rw [hr.workers, hr.configurators, List.mem_append, not_or]
      exact ⟨fun hmem => hid.1 ((List.filter_sublist.map _).subset hmem),
        fun hmem => hid.2 ((List.filter_sublist.map _).subset hmem)⟩

theorem RemovesExactly.refl (s : K8sBlueprintState) : RemovesExactly [] s s where
  master := rfl
  workers := by simp
  configurators := by simp
  sublist := List.Sublist.refl _
  resources := by simp
  freed := fun _ _ h => (nomatch h)
  kept := fun _ _ => rfl

/-- One removal after another. -/
theorem RemovesExactly.trans (h : Consistent s) (h₁ : RemovesExactly nodeNames s s₁) (h₂ : RemovesExactly more s₁ s₂) :
    RemovesExactly (nodeNames ++ more) s s₂ where
  master := h₂.master.trans h₁.master
  workers := by
    rw [h₂.workers, h₁.workers, List.filter_filter]
    congr 1
    funext vm
    simp only [List.mem_append, not_or, Bool.decide_and]
    exact Bool.and_comm _ _
  configurators := by
    rw [h₂.configurators, h₁.configurators, List.filter_filter]
    congr 1
    funext configurator
    simp only [List.mem_append, not_or, Bool.decide_and]
    exact Bool.and_comm _ _
  sublist := h₂.sublist.trans h₁.sublist
  resources := by
    intro resource
    simp only [h₂.resources, h₁.resources, h₁.mem_workers, h₁.mem_configurators, List.mem_append]
    constructor
    · rintro ⟨⟨hmem, hvms, hcs⟩, hvms', hcs'⟩
      refine ⟨hmem, fun vm hvm hname => ?_, fun c hc hname => ?_⟩
      · by_cases hin : vm.name ∈ nodeNames
        · exact hvms vm hvm hin
        · exact hvms' vm ⟨hvm, hin⟩ (hname.resolve_left hin)
      · by_cases hin : c.vmResource.name ∈ nodeNames
        · exact hcs c hc hin
        · exact hcs' c ⟨hc, hin⟩ (hname.resolve_left hin)
    · rintro ⟨hmem, hvms, hcs⟩
      exact ⟨⟨hmem, fun vm hvm hname => hvms vm hvm (.inl hname), fun c hc hname => hcs c hc (.inl hname)⟩,
        fun vm hvm hname => hvms vm hvm.1 (.inr hname), fun c hc hname => hcs c hc.1 (.inr hname)⟩
  freed := by
    intro configurator hc hname
    by_cases hin : configurator.vmResource.name ∈ nodeNames
    · rw [h₂.kept, h₁.freed configurator hc hin]
      intro other hother _ he
      obtain ⟨hmem, hout⟩ := h₁.mem_configurators.1 hother
      rw [h.configurator_eq hmem hc he] at hout
      exact hout hin
    · exact h₂.freed configurator (h₁.mem_configurators.2 ⟨hc, hin⟩) ((List.mem_append.1 hname).resolve_left hin)
  kept := by
    intro n hn
    rw [h₂.kept n, h₁.kept n]
    · exact fun c hc hname => hn c hc (List.mem_append_left _ hname)
    · exact fun c hc hname => hn c (h₁.mem_configurators.1 hc).1 (List.mem_append_right _ hname)

/-- Only the names of workers count. -/
theorem RemovesExactly.congr (h : Consistent s) (hr : RemovesExactly nodeNames s s')
    (hsame : ∀ vm ∈ s.vmWorkers, vm.name ∈ nodeNames ↔ vm.name ∈ others) : RemovesExactly others s s' := by
  have hconfigurators : ∀ c ∈ s.day0WorkersConfigurators, c.vmResource.name ∈ nodeNames ↔ c.vmResource.name ∈ others :=
    fun c hc => hsame _ (h.configurator_worker hc)
  refine ⟨hr.master, ?_, ?_, hr.sublist, ?_, ?_, ?_⟩
  · rw [hr.workers]
    exact List.filter_congr (fun vm hvm => by rw [decide_eq_decide, hsame vm hvm])
  · rw [hr.configurators]
    exact List.filter_congr (fun c hc => by rw [decide_eq_decide, hconfigurators c hc])
  · intro resource
    rw [hr.resources]
    refine and_congr_right (fun _ => and_congr ?_ ?_)
    · exact forall₂_congr (fun vm hvm => by rw [hsame vm hvm])
    · exact forall₂_congr (fun c hc => by rw [hconfigurators c hc])
  · exact fun c hc hname => hr.freed c hc ((hconfigurators c hc).2 hname)
  · exact fun n hn => hr.kept n (fun c hc hname => hn c hc ((hconfigurators c hc).1 hname))

end Lists

/-! ### One deletion -/

section Deletion

variable {s : K8sBlueprintState}

/-- The registered resources and the steps play no part in it. -/
theorem Consistent.removeWorker_run (h : Consistent s) (hvm : vm ∈ s.vmWorkers) (resources : List Nat) (steps : Nat) :
    ∃ configurator ∈ s.day0WorkersConfigurators, configurator.vmResource = vm ∧
      (K8sBlueprintState.removeWorker vm).run { s with registeredResources := resources, steps := steps } =
        .ok [configurator]
          { s with
            vmWorkers := s.vmWorkers.filter (fun worker => decide (worker.name ≠ vm.name))
            day0WorkersConfigurators := s.day0WorkersConfigurators.filter
              (fun other => decide (other.vmResource.name ≠ vm.name))
            day0WorkersConfiguratorsTobeExec := s.day0WorkersConfiguratorsTobeExec.filter
              (fun other => decide (other.vmResource.name ≠ vm.name))
            workerNumbers := s.workerNumbers.set configurator.vmNumber 0
            registeredResources := resources
            steps := steps } := by
  obtain ⟨before, configurator, after, hsplit, hresource, hbefore, hafter⟩ := h.split hvm
  have hname : configurator.vmResource.name = vm.name := congrArg NodeVm.name hresource
  have hmem : configurator ∈ s.day0WorkersConfigurators := by
    rw [hsplit]
    exact List.mem_append_right _ List.mem_cons_self
  have herase : s.day0WorkersConfigurators.erase configurator =
      s.day0WorkersConfigurators.filter (fun other => decide (other.vmResource.name ≠ vm.name)) := by
    have hnot : configurator ∉ before := fun hin => hbefore configurator hin hname
    rw [hsplit, List.erase_append_right _ hnot, List.erase_cons_head, List.filter_append,
      List.filter_cons_of_neg (by simp [hname]), filter_all hbefore, filter_all hafter]
  have hrun := removeConfigurators_one (s := { s with
    vmWorkers := s.vmWorkers.filter (fun worker => decide (worker.name ≠ vm.name))
    registeredResources := resources
    steps := steps }) hbefore hafter hname (h.reserved configurator hmem)
  rw [← hsplit] at hrun
  refine ⟨configurator, hmem, hresource, ?_⟩
  unfold K8sBlueprintState.removeWorker
  rw [EStateM.run_bind, EStateM.run_modify]
  change ((get : K8sM K8sBlueprintState) >>= _).run _ = _
  rw [EStateM.run_bind, EStateM.run_get]
  change ((K8sBlueprintState.removeConfigurators vm.name s.day0WorkersConfigurators) >>= _).run _ = _
  rw [run_bind_ok _ _ hrun, ← herase]
  rfl

/-- The state after the deletion of a worker with its configurator. -/
def deleted (s : K8sBlueprintState) (vm : NodeVm) (configurator : VmK8sDay0Configurator) : K8sBlueprintState :=
  { s with
    vmWorkers := s.vmWorkers.filter (fun worker => decide (worker.name ≠ vm.name))
    day0WorkersConfigurators := s.day0WorkersConfigurators.filter (fun other => decide (other.vmResource.name ≠ vm.name))
    day0WorkersConfiguratorsTobeExec := s.day0WorkersConfiguratorsTobeExec.filter
      (fun other => decide (other.vmResource.name ≠ vm.name))
    workerNumbers := s.workerNumbers.set configurator.vmNumber 0
    registeredResources := (s.registeredResources.erase vm.id).erase configurator.id
    steps := s.steps + 1 }

theorem RemovesExactly.deleted {configurator : VmK8sDay0Configurator} (h : Consistent s) (hvm : vm ∈ s.vmWorkers)
    (hc : configurator ∈ s.day0WorkersConfigurators) (hresource : configurator.vmResource = vm) :
    RemovesExactly [vm.name] s (deleted s vm configurator) where
  master := rfl
  workers := by simp only [K8sBlueprint.deleted, List.mem_singleton]
  configurators := by simp only [K8sBlueprint.deleted, List.mem_singleton]
  sublist := List.erase_sublist.trans List.erase_sublist
  resources := by
    intro resource
    have hvms : (∀ other ∈ s.vmWorkers, other.name ∈ [vm.name] → other.id ≠ resource) ↔ vm.id ≠ resource := by
      refine ⟨fun hall => hall vm hvm List.mem_cons_self, fun hne other hother hname => ?_⟩
      rw [h.worker_eq hother hvm (List.mem_singleton.1 hname)]
      exact hne
    have hcs : (∀ other ∈ s.day0WorkersConfigurators, other.vmResource.name ∈ [vm.name] → other.id ≠ resource) ↔
        configurator.id ≠ resource := by
      refine ⟨fun hall => hall configurator hc (by rw [hresource]; exact List.mem_cons_self), fun hne other hother hname => ?_⟩
      have hsame : other.vmResource.name = configurator.vmResource.name := by
        rw [hresource]
        exact List.mem_singleton.1 hname
      rw [List.inj_on_of_nodup_map h.configurator_names hother hc hsame]
      exact hne
    rw [hvms, hcs, K8sBlueprint.deleted, (h.resources.erase _).mem_erase_iff, h.resources.mem_erase_iff]
    constructor
    · rintro ⟨hne, hne', hmem⟩
      exact ⟨hmem, Ne.symm hne', Ne.symm hne⟩
    · rintro ⟨hmem, hne', hne⟩
      exact ⟨Ne.symm hne, Ne.symm hne', hmem⟩
  freed := by
    intro other hother hname
    have hsame : other.vmResource.name = configurator.vmResource.name := by
      rw [hresource]
      exact List.mem_singleton.1 hname
    obtain rfl := List.inj_on_of_nodup_map h.configurator_names hother hc hsame
    exact List.getElem?_set_self (List.getElem?_eq_some_iff.1 (h.reserved other hother)).1
  kept := by
    intro n hn
    exact List.getElem?_set_ne (hn configurator hc (by rw [hresource]; exact List.mem_cons_self))

end Deletion

end K8sBlueprint

namespace K8sCluster
open K8sBlueprint

section Deletions

variable {s : K8sCluster}

theorem run_onBlueprint_ok {m : K8sM α} {b : K8sBlueprintState} (h : m.run s.blueprint = .ok a b) :
    (onBlueprint m).run s = .ok a { s with blueprint := b } := by
  rw [onBlueprint, run_zoom, h]

/-- The state when the VM has been asked to be destroyed. -/
def asked (s : K8sCluster) (vm : NodeVm) : K8sCluster :=
  ⟨{ s.blueprint with steps := s.blueprint.steps + 1 }, s.destroyed ++ [vm]⟩

theorem destroyVm_run (s : K8sCluster) (vm : NodeVm) :
    (destroyVm (fun _ => none) vm).run s = .ok () (asked s vm) := rfl

theorem destroyWorker_run (h : Consistent s.blueprint) (hvm : vm ∈ s.blueprint.vmWorkers) :
    ∃ b, RemovesExactly [vm.name] s.blueprint b ∧
      (destroyWorker (fun _ => none) vm).run s = .ok () ⟨b, s.destroyed ++ [vm]⟩ := by
  have hid : vm.id ∈ (asked s vm).blueprint.registeredResources := h.workersRegistered vm hvm
  obtain ⟨configurator, hc, hresource, hremove⟩ :=
    h.removeWorker_run hvm (s.blueprint.registeredResources.erase vm.id) (s.blueprint.steps + 1)
  have hconfigurator : configurator.id ∈ s.blueprint.registeredResources.erase vm.id := by
    rw [h.resources.mem_erase_iff]
    exact ⟨(h.id_ne hvm hc).symm, h.configuratorsRegistered configurator hc⟩
  refine ⟨deleted s.blueprint vm configurator, .deleted h hvm hc hresource, ?_⟩
  rw [destroyWorker, run_bind_ok _ _ (destroyVm_run s vm),
    run_bind_ok _ _ (run_onBlueprint_ok (deregisterResource_run_mem hid))]
  refine (run_bind_ok _ _ (run_onBlueprint_ok hremove)).trans ?_
  rw [List.forM_cons]
  exact run_bind_ok _ _ (run_onBlueprint_ok (deregisterResource_run_mem hconfigurator))

/-- A VM that is not registered any more stops the loop. -/
theorem destroyWorker_unregistered (h : vm.id ∉ s.blueprint.registeredResources) :
    Raised ((destroyWorker (fun _ => none) vm).run s) := by
  have hid : vm.id ∉ (asked s vm).blueprint.registeredResources := h
  have hrun : (onBlueprint (deregisterResource vm.id)).run (asked s vm) =
      .error (.blueprintNG "The resource to be deleted is not present in registered resources") (asked s vm) := by
    rw [onBlueprint, run_zoom, deregisterResource_run_not_mem hid]
  rw [destroyWorker, run_bind_ok _ _ (destroyVm_run s vm), run_bind_error _ _ hrun]
  trivial

/-! ### The list of node names -/

theorem destroyWorkers_run {targets : List NodeVm} (h : Consistent s.blueprint)
    (hsub : ∀ vm ∈ targets, vm ∈ s.blueprint.vmWorkers) (hnodup : targets.Nodup) :
    ∃ b, RemovesExactly (targets.map NodeVm.name) s.blueprint b ∧
      (forM targets (destroyWorker (fun _ => none))).run s = .ok () ⟨b, s.destroyed ++ targets⟩ := by
  induction targets generalizing s with
  | nil => exact ⟨s.blueprint, .refl _, by rw [List.append_nil]; rfl⟩
  | cons vm rest ih =>
    have hvm := hsub vm List.mem_cons_self
    obtain ⟨b, hremoves, hrun⟩ := destroyWorker_run h hvm
    have hrest : ∀ other ∈ rest, other ∈ b.vmWorkers := by
      intro other hother
      have hmem := hsub other (List.mem_cons_of_mem vm hother)
      refine hremoves.mem_workers.2 ⟨hmem, fun hname => ?_⟩
      rw [h.worker_eq hmem hvm (List.mem_singleton.1 hname)] at hother
      exact (List.nodup_cons.1 hnodup).1 hother
    obtain ⟨b', hremoves', hrun'⟩ := ih (s := ⟨b, s.destroyed ++ [vm]⟩) (h.removed hremoves) hrest (List.nodup_cons.1 hnodup).2
    refine ⟨b', hremoves.trans h hremoves', ?_⟩
    rw [List.forM_cons, run_bind_ok _ _ hrun, hrun', List.append_assoc]
    rfl

/-- The second time a worker is named it is not registered any more. -/
theorem destroyWorkers_raised {targets : List NodeVm} (h : Consistent s.blueprint)
    (hsub : ∀ vm ∈ targets, vm ∈ s.blueprint.vmWorkers ∨ vm.id ∉ s.blueprint.registeredResources)
    (hbad : (∃ vm ∈ targets, vm.id ∉ s.blueprint.registeredResources) ∨ ¬ targets.Nodup) :
    Raised ((forM targets (destroyWorker (fun _ => none))).run s) := by
  induction targets generalizing s with
  | nil =>
    rcases hbad with ⟨vm, hvm, -⟩ | hnodup
    · exact (nomatch hvm)
    · exact absurd List.nodup_nil hnodup
  | cons vm rest ih =>
    rw [List.forM_cons]
    by_cases hid : vm.id ∈ s.blueprint.registeredResources
    · have hvm := (hsub vm List.mem_cons_self).resolve_right (not_not_intro hid)
      obtain ⟨b, hremoves, hrun⟩ := destroyWorker_run h hvm
      have hgone : vm.id ∉ b.registeredResources :=
        fun hmem => ((hremoves.resources vm.id).1 hmem).2.1 vm hvm List.mem_cons_self rfl
      rw [run_bind_ok _ _ hrun]
      refine ih (s := ⟨b, s.destroyed ++ [vm]⟩) (h.removed hremoves) ?_ ?_
      · intro other hother
        rcases hsub other (List.mem_cons_of_mem vm hother) with hmem | hnot
        · by_cases hname : other.name = vm.name
          · rw [h.worker_eq hmem hvm hname]
            exact .inr hgone
          · exact .inl (hremoves.mem_workers.2 ⟨hmem, fun hin => hname (List.mem_singleton.1 hin)⟩)
        · exact .inr (fun hmem => hnot (hremoves.sublist.subset hmem))
      · rcases hbad with ⟨other, hother, hnot⟩ | hnodup
        · rcases List.mem_cons.1 hother with rfl | hrest
          · exact absurd hid hnot
          · exact .inl ⟨other, hrest, fun hmem => hnot (hremoves.sublist.subset hmem)⟩
        · rw [List.nodup_cons, not_and_or, not_not] at hnodup
          rcases hnodup with hin | hrest
          · exact .inl ⟨vm, hin, hgone⟩
          · exact .inr hrest
    · have hraised := destroyWorker_unregistered hid
      rw [EStateM.run_bind]
      cases hrun : (destroyWorker (fun _ => none) vm).run s with
      | ok u s' =>
        rw [hrun] at hraised
        exact hraised.elim
      | error e s' => trivial

end Deletions

end K8sCluster

namespace K8sBlueprint

section Targets

variable {s : K8sBlueprintState}

theorem find_worker {node : String} (h : s.vmWorkers.find? (fun vm => decide (vm.name = node)) = some vm) :
    vm ∈ s.vmWorkers ∧ vm.name = node := by
  have hname := List.find?_some h
  exact ⟨List.mem_of_find?_eq_some h, of_decide_eq_true hname⟩

theorem mem_toBeDestroyed (h : Consistent s) :
    vm ∈ toBeDestroyed s nodeNames ↔ vm ∈ s.vmWorkers ∧ vm.name ∈ nodeNames := by
  rw [toBeDestroyed, List.mem_filterMap]
  constructor
  · rintro ⟨node, hnode, hfind⟩
    obtain ⟨hvm, hname⟩ := find_worker hfind
    rw [hname]
    exact ⟨hvm, hnode⟩
  · rintro ⟨hvm, hname⟩
    refine ⟨vm.name, hname, ?_⟩
    cases hfind : s.vmWorkers.find? (fun other => decide (other.name = vm.name)) with
    | none => exact absurd (decide_eq_true rfl) (List.find?_eq_none.1 hfind vm hvm)
    | some other =>
      obtain ⟨hother, hsame⟩ := find_worker hfind
      rw [h.worker_eq hother hvm hsame]

theorem toBeDestroyed_names (s : K8sBlueprintState) (nodeNames : List String) :
    (toBeDestroyed s nodeNames).map NodeVm.name =
      nodeNames.filter (fun node => decide (node ∈ s.vmWorkers.map NodeVm.name)) := by
  induction nodeNames with
  | nil => rfl
  | cons node nodeNames ih =>
    rw [toBeDestroyed] at ih ⊢
    rw [List.filterMap_cons]
    cases hfind : s.vmWorkers.find? (fun vm => decide (vm.name = node)) with
    | none =>
      have hnot : node ∉ s.vmWorkers.map NodeVm.name := by
        intro hmem
        obtain ⟨vm, hvm, rfl⟩ := List.mem_map.1 hmem
        exact List.find?_eq_none.1 hfind vm hvm (decide_eq_true rfl)
      rw [List.filter_cons_of_neg (by simpa using hnot)]
      exact ih
    | some vm =>
      obtain ⟨hvm, hname⟩ := find_worker hfind
      have hmem : node ∈ s.vmWorkers.map NodeVm.name := List.mem_map.2 ⟨vm, hvm, hname⟩
      rw [List.filter_cons_of_pos (by exact decide_eq_true hmem)]
      exact congrArg₂ List.cons hname ih

/-- A worker is to be destroyed twice when its name is there twice. -/
theorem nodup_toBeDestroyed (h : Consistent s) :
    (toBeDestroyed s nodeNames).Nodup ↔
      (nodeNames.filter (fun node => decide (node ∈ s.vmWorkers.map NodeVm.name))).Nodup := by
  rw [← toBeDestroyed_names]
  refine ⟨fun hnodup => hnodup.map_on ?_, List.Nodup.of_map _⟩
  intro vm hvm other hother hname
  exact h.worker_eq ((mem_toBeDestroyed h).1 hvm).1 ((mem_toBeDestroyed h).1 hother).1 hname

theorem filter_erase_of_neg {p : String → Bool} (nodeNames : List String) (hp : p name = false) :
    (nodeNames.erase name).filter p = nodeNames.filter p := by
  induction nodeNames with
  | nil => rfl
  | cons node nodeNames ih =>
    by_cases hnode : node = name
    · rw [hnode, List.erase_cons_head, List.filter_cons_of_neg (by rw [hp]; exact Bool.false_ne_true)]
    · rw [List.erase_cons_tail (by simpa using hnode), List.filter_cons, List.filter_cons, ih]

end Targets

/-- No worker is named twice and some worker is not named, unless the request is refused. -/
def Deletable (s : K8sBlueprintState) (nodeNames : List String) : Prop :=
  s.vmWorkers.length ≤ 1 ∨
    (nodeNames.filter (fun node => decide (node ∈ s.vmWorkers.map NodeVm.name))).Nodup ∧
      ∃ vm ∈ s.vmWorkers, vm.name ∉ nodeNames

end K8sBlueprint

namespace K8sCluster
open K8sBlueprint

/-- The deletion returns, the master and a worker are still there, and either nothing was done or the named
workers are gone and each was destroyed once. -/
def KeepsUsable (s : K8sCluster) (nodeNames : List String) : Prop :=
  ∃ s', (delWorkers (fun _ => none) nodeNames).run s = .ok () s' ∧
    s'.blueprint.vmMaster = s.blueprint.vmMaster ∧
    (∀ master, s.blueprint.vmMaster = some master → master.id ∈ s'.blueprint.registeredResources) ∧
    s'.blueprint.vmWorkers ≠ [] ∧
    (s' = s ∨ RemovesExactly nodeNames s.blueprint s'.blueprint ∧ ∃ gone,
      s'.destroyed = s.destroyed ++ gone ∧
        gone.Perm (s.blueprint.vmWorkers.filter (fun vm => decide (vm.name ∈ nodeNames))))

section Requests

variable {s : K8sCluster} {nodeNames : List String}

theorem delWorkers_refused (h : Consistent s.blueprint) (hlen : s.blueprint.vmWorkers.length ≤ 1) :
    (delWorkers (fun _ => none) nodeNames).run s = .ok () s := by
  obtain ⟨master, hmaster, -⟩ := h.master
  rw [delWorkers, EStateM.run_bind, EStateM.run_get]
  dsimp only
  rw [hmaster]
  dsimp only
  rw [if_pos hlen]
  rfl

/-- The state when the configurator of the master has been run. -/
def stepped (s : K8sCluster) : K8sCluster :=
  { s with blueprint := { s.blueprint with steps := s.blueprint.steps + 1 } }

theorem attempt_run (s : K8sCluster) : (onBlueprint (attempt (fun _ => none))).run s = .ok () (stepped s) := rfl

theorem delWorkers_run (hmaster : s.blueprint.vmMaster = some master) (hlen : ¬ s.blueprint.vmWorkers.length ≤ 1) :
    (delWorkers (fun _ => none) nodeNames).run s =
      (forM (toBeDestroyed s.blueprint (nodeNames.erase master.name)) (destroyWorker (fun _ => none))).run (stepped s) := by
  rw [delWorkers, EStateM.run_bind, EStateM.run_get]
  dsimp only
  rw [hmaster]
  dsimp only
  rw [if_neg hlen]
  exact run_bind_ok _ _ (attempt_run s)

/-- Consistency says nothing of the steps. -/
theorem consistent_stepped (h : Consistent s.blueprint) : Consistent (stepped s).blueprint where
  names := h.names
  configured := h.configured
  numbers := h.numbers
  reserved := h.reserved
  ids := h.ids
  workersRegistered := h.workersRegistered
  configuratorsRegistered := h.configuratorsRegistered
  resources := h.resources
  master := h.master

/-- The master's name, taken out once, is no worker's. -/
theorem named_iff (h : Consistent s.blueprint) (hmaster : s.blueprint.vmMaster = some master)
    (hvm : vm ∈ s.blueprint.vmWorkers) : vm.name ∈ nodeNames.erase master.name ↔ vm.name ∈ nodeNames := by
  obtain ⟨known, hknown, -, hname, -⟩ := h.master
  obtain rfl := Option.some.inj (hmaster.symm.trans hknown)
  refine List.mem_erase_of_ne (fun he => hname ?_)
  rw [← he]
  exact List.mem_map_of_mem hvm

theorem nodup_targets (h : Consistent s.blueprint) (hmaster : s.blueprint.vmMaster = some master) :
    (toBeDestroyed s.blueprint (nodeNames.erase master.name)).Nodup ↔
      (nodeNames.filter (fun node => decide (node ∈ s.blueprint.vmWorkers.map NodeVm.name))).Nodup := by
  obtain ⟨known, hknown, -, hname, -⟩ := h.master
  obtain rfl := Option.some.inj (hmaster.symm.trans hknown)
  rw [nodup_toBeDestroyed h, filter_erase_of_neg nodeNames (decide_eq_false hname)]

theorem delWorkers_ok (h : Consistent s.blueprint) (hlen : ¬ s.blueprint.vmWorkers.length ≤ 1)
    (hnodup : (nodeNames.filter (fun node => decide (node ∈ s.blueprint.vmWorkers.map NodeVm.name))).Nodup) :
    ∃ s', (delWorkers (fun _ => none) nodeNames).run s = .ok () s' ∧
      RemovesExactly nodeNames s.blueprint s'.blueprint ∧ ∃ gone, s'.destroyed = s.destroyed ++ gone ∧
        gone.Perm (s.blueprint.vmWorkers.filter (fun vm => decide (vm.name ∈ nodeNames))) := by
  obtain ⟨master, hmaster, -⟩ := h.master
  have htargets := (nodup_targets h hmaster).2 hnodup
  obtain ⟨b, hremoves, hrun⟩ := destroyWorkers_run (consistent_stepped h) (fun vm hvm => ((mem_toBeDestroyed h).1 hvm).1) htargets
  have hsame : ∀ vm ∈ s.blueprint.vmWorkers,
      vm.name ∈ (toBeDestroyed s.blueprint (nodeNames.erase master.name)).map NodeVm.name ↔ vm.name ∈ nodeNames := by
    intro vm hvm
    rw [toBeDestroyed_names, List.mem_filter, named_iff h hmaster hvm]
    exact and_iff_left (decide_eq_true (List.mem_map_of_mem hvm))
  refine ⟨_, (delWorkers_run hmaster hlen).trans hrun, ?_, _, rfl, ?_⟩
  · exact RemovesExactly.congr h { hremoves with } hsame
  · refine (List.perm_ext_iff_of_nodup htargets ((List.Nodup.of_map _ h.names).filter _)).2 (fun vm => ?_)
    rw [mem_toBeDestroyed h, List.mem_filter, decide_eq_true_iff]
    exact and_congr_right (fun hvm => named_iff h hmaster hvm)

theorem delWorkers_raised (h : Consistent s.blueprint) (hlen : ¬ s.blueprint.vmWorkers.length ≤ 1)
    (hdup : ¬ (nodeNames.filter (fun node => decide (node ∈ s.blueprint.vmWorkers.map NodeVm.name))).Nodup) :
    Raised ((delWorkers (fun _ => none) nodeNames).run s) := by
  obtain ⟨master, hmaster, -⟩ := h.master
  rw [delWorkers_run hmaster hlen]
  refine destroyWorkers_raised (consistent_stepped h) (fun vm hvm => .inl ((mem_toBeDestroyed h).1 hvm).1) (.inr ?_)
  rw [nodup_targets h hmaster]
  exact hdup

theorem usable_iff (h : Consistent s.blueprint) (hworkers : s.blueprint.vmWorkers ≠ []) (nodeNames : List String) :
    KeepsUsable s nodeNames ↔ Deletable s.blueprint nodeNames := by
  constructor
  · rintro ⟨s', hrun, -, -, hleft, -⟩
    by_cases hlen : s.blueprint.vmWorkers.length ≤ 1
    · exact .inl hlen
    by_cases hnodup : (nodeNames.filter (fun node => decide (node ∈ s.blueprint.vmWorkers.map NodeVm.name))).Nodup
    · obtain ⟨s'', hrun', hremoves, -⟩ := delWorkers_ok h hlen hnodup
      rw [hrun] at hrun'
      cases hrun'
      obtain ⟨vm, hvm⟩ := List.exists_mem_of_ne_nil _ hleft
      exact .inr ⟨hnodup, vm, hremoves.mem_workers.1 hvm⟩
    · have hraised := delWorkers_raised h hlen hnodup
      rw [hrun] at hraised
      exact hraised.elim
  · intro hdeletable
    by_cases hlen : s.blueprint.vmWorkers.length ≤ 1
    · obtain ⟨master, hmaster, hregistered, -⟩ := h.master
      refine ⟨s, delWorkers_refused h hlen, rfl, ?_, hworkers, .inl rfl⟩
      intro known hknown
      obtain rfl := Option.some.inj (hmaster.symm.trans hknown)
      exact hregistered
    · obtain ⟨hnodup, vm, hvm, hname⟩ := hdeletable.resolve_left hlen
      obtain ⟨s', hrun, hremoves, hdestroyed⟩ := delWorkers_ok h hlen hnodup
      refine ⟨s', hrun, hremoves.master, ?_, ?_, .inr ⟨hremoves, hdestroyed⟩⟩
      · obtain ⟨master, hmaster, hregistered, -⟩ := (h.removed hremoves).master
        intro known hknown
        obtain rfl := Option.some.inj (hmaster.symm.trans (hremoves.master.trans hknown))
        exact hregistered
      · exact List.ne_nil_of_mem (hremoves.mem_workers.2 ⟨hvm, hname⟩)

/-- A deletion keeps the cluster usable exactly when the request names no worker twice and leaves one. -/
theorem del_workers_keeps_usable_iff (h : Consistent s.blueprint) (hworkers : s.blueprint.vmWorkers ≠ [])
    (nodeNames : List String) : KeepsUsable s nodeNames ↔ Deletable s.blueprint nodeNames :=
  usable_iff h hworkers nodeNames

/-- A master and two workers. -/
def twoWorkers : K8sCluster :=
  ⟨{ vmMaster := some ⟨1, "k8s-vm-k8s-c", 0⟩
     vmWorkers := [⟨1, "k8s-vm-w-0", 3⟩, ⟨2, "k8s-vm-w-1", 5⟩]
     day0WorkersConfigurators := [⟨⟨1, "k8s-vm-w-0", 3⟩, 0, 4⟩, ⟨⟨2, "k8s-vm-w-1", 5⟩, 1, 6⟩]
     workerNumbers := 1 :: 1 :: List.replicate 16 0
     registeredResources := [0, 1, 2, 3, 4, 5, 6]
     ids := 7 }, []⟩

theorem consistent_twoWorkers : Consistent twoWorkers.blueprint where
  names := by decide
  configured := List.Perm.refl _
  numbers := by decide
  reserved := by decide
  ids := by decide
  workersRegistered := by decide
  configuratorsRegistered := by decide
  resources := by decide
  master := ⟨⟨1, "k8s-vm-k8s-c", 0⟩, rfl, by decide, by decide, by decide⟩

theorem del_workers_keeps_usable_one :
    KeepsUsable twoWorkers ["k8s-vm-k8s-c", "k8s-vm-w-1", "other"] ↔
      Deletable twoWorkers.blueprint ["k8s-vm-k8s-c", "k8s-vm-w-1", "other"] :=
  del_workers_keeps_usable_iff consistent_twoWorkers (by decide) _

/-- A worker named twice is destroyed twice, and the second time the deletion raises. -/
theorem del_workers_keeps_usable_fails :
    ¬ ∀ s : K8sCluster, Consistent s.blueprint → s.blueprint.vmWorkers ≠ [] → ∀ nodeNames : List String,
      KeepsUsable s nodeNames := by
  intro h
  have hdeletable := (usable_iff consistent_twoWorkers (by decide) ["k8s-vm-w-1", "k8s-vm-w-1"]).1
    (h twoWorkers consistent_twoWorkers (by decide) _)
  rcases hdeletable with hlen | ⟨hnodup, -⟩
  · exact absurd hlen (by decide)
  · exact absurd hnodup (by decide)

end Requests

end K8sCluster

end Nfvcl
