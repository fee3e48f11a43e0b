import Mathlib.Data.List.Nodup
import Mathlib.Data.List.Perm.Basic
import Nfvcl.Projections
import Nfvcl.WorkerNumbers

namespace Nfvcl
set_option autoImplicit true
open Effects

/-- A K8S blueprint and the VMs that its provider was asked to destroy. -/
structure K8sCluster where
  blueprint : K8sBlueprintState
  destroyed : List NodeVm := []
  deriving DecidableEq, Repr

abbrev K8sClusterM := EStateM PyError K8sCluster

namespace K8sCluster
open K8sBlueprint

def onBlueprint (m : K8sM α) : K8sClusterM α :=
  zoom K8sCluster.blueprint (fun blueprint s => { s with blueprint := blueprint }) m

section Calls

variable (raises : Nat → Option PyError)

def destroyVm (vm : NodeVm) : K8sClusterM Unit := do
  modify (fun s => { s with destroyed := s.destroyed ++ [vm] })
  onBlueprint (attempt raises)

def destroyWorker (vm : NodeVm) : K8sClusterM Unit := do
  destroyVm raises vm
  onBlueprint (deregisterResource vm.id)
  let configurators ← onBlueprint (K8sBlueprintState.removeWorker vm)
  forM configurators (fun configurator => onBlueprint (deregisterResource configurator.id))

def delWorkers (nodeNames : List String) : K8sClusterM Unit := do
  let s ← get
  match s.blueprint.vmMaster with
  | none => throw (.attributeError "'NoneType' object has no attribute 'name'")
  | some master =>
    if s.blueprint.vmWorkers.length ≤ 1 then return ()
    onBlueprint (attempt raises)
    forM (toBeDestroyed s.blueprint (nodeNames.erase master.name)) (destroyWorker raises)

end Calls

theorem projects_onBlueprint (m : K8sM α) : Projects K8sCluster.blueprint (onBlueprint m) m :=
  Projects.zoom (fun _ _ => rfl) m

theorem destroyVm_projects (raises : Nat → Option PyError) (vm : NodeVm) :
    Projects K8sCluster.blueprint (destroyVm raises vm) (attempt raises) :=
  Projects.modify_bind (fun _ => rfl) (projects_onBlueprint (attempt raises))

theorem destroyWorker_projects (raises : Nat → Option PyError) (vm : NodeVm) :
    Projects K8sCluster.blueprint (destroyWorker raises vm) (K8sBlueprint.destroyWorker raises vm) := by
  unfold destroyWorker K8sBlueprint.destroyWorker
  refine (destroyVm_projects raises vm).bind (fun _ => ?_)
  refine (projects_onBlueprint _).bind (fun _ => ?_)
  refine (projects_onBlueprint _).bind (fun configurators => ?_)
  exact Projects.forM (fun _ => projects_onBlueprint _) configurators

/-- The record of the destroyed VMs changes nothing else. -/
theorem delWorkers_projects (raises : Nat → Option PyError) (nodeNames : List String) :
    Projects K8sCluster.blueprint (delWorkers raises nodeNames) (K8sBlueprint.delWorkers raises nodeNames) := by
  intro s
  unfold delWorkers K8sBlueprint.delWorkers
  rw [EStateM.run_bind, EStateM.run_bind, EStateM.run_get, EStateM.run_get]
  dsimp only
  cases s.blueprint.vmMaster with
  | none => rfl
  | some master =>
    dsimp only
    by_cases hlen : s.blueprint.vmWorkers.length ≤ 1
    · rw [if_pos hlen, if_pos hlen]
      rfl
    · rw [if_neg hlen, if_neg hlen]
      exact (projects_onBlueprint _).bind (fun _ => Projects.forM (destroyWorker_projects raises) _) s

end K8sCluster

end Nfvcl
