import Nfvcl.Dicts
import Nfvcl.K8sBlueprint
import Nfvcl.Projections

namespace Nfvcl
set_option autoImplicit true
open Effects

structure K8sLoadBalancerPoolArea where
  poolName : String
  ipList : List String
  hostNames : Option (List String) := none
  deriving DecidableEq, Repr

/-- An area of a request, with the addresses of its load balancer. -/
structure K8sPoolArea extends K8sAreaDeployment where
  loadBalancerPoolsIps : List String := []
  deriving DecidableEq, Repr

/-- The state of a K8S blueprint with its load balancers, the addresses indexed by the area. -/
structure K8sPools where
  blueprint : K8sBlueprintState := {}
  loadBalancerIpsArea : Dict Int (List String) := Dict.empty
  loadBalancerPools : List K8sLoadBalancerPoolArea := []
  deriving DecidableEq

abbrev K8sPoolsM := EStateM PyError K8sPools

namespace K8sPools

def onBlueprint (m : K8sM α) : K8sPoolsM α :=
  zoom K8sPools.blueprint (fun b s => { s with blueprint := b }) m

/-- The workers in the area announce its addresses, and the controller if it is there too. -/
def hostNames (master : NodeVm) (workers : List NodeVm) (areaId : Int) : List String :=
  (workers.filter (fun vm => decide (vm.area = areaId))).map (fun vm => vm.name.toLower) ++
    if master.area = areaId then [master.name.toLower] else []

/-- The pool of an area. The name is the same for every area. -/
def poolOf (id : String) (b : K8sBlueprintState) (areaId : Int) (value : List String) : Except PyError K8sLoadBalancerPoolArea :=
  match b.vmMaster with
  | none => throw (.attributeError "'NoneType' object has no attribute 'area'")
  | some master =>
    let hostnames := hostNames master b.vmWorkers areaId
    return {
      poolName := s!"{id.toLower}-area1"
      ipList := value
      hostNames := if hostnames.length = 0 then none else some hostnames }

def setupLoadBalancerPool (id : String) : K8sPoolsM Unit := do
  let s ← get
  match s.loadBalancerIpsArea.items.mapM (fun item => poolOf id s.blueprint item.1 item.2) with
  | .ok lbAreaList => set { s with loadBalancerPools := lbAreaList }
  | .error e => throw e

section Calls

variable (raises : Nat → Option PyError) (id : String)

def createArea (area : K8sPoolArea) : K8sPoolsM Unit := do
  if area.isMasterArea then onBlueprint (K8sBlueprint.deployMasterNode raises id.toLower area.toK8sAreaDeployment)
  modify (fun s =>
    if 0 < area.loadBalancerPoolsIps.length then
      { s with loadBalancerIpsArea := s.loadBalancerIpsArea.set area.areaId area.loadBalancerPoolsIps }
    else s)
  onBlueprint (K8sBlueprint.deployArea raises id.toLower area.toK8sAreaDeployment)

def create (areas : List K8sPoolArea) : K8sPoolsM Unit := do
  forM areas (createArea raises id)
  setupLoadBalancerPool id
  onBlueprint (do
    K8sBlueprint.attempt raises
    K8sBlueprint.day0conf raises true
    K8sBlueprint.attempt raises)

/-- The addresses in the request are not read. -/
def addWorker (areas : List K8sPoolArea) : K8sPoolsM Unit :=
  onBlueprint (K8sBlueprint.addWorker raises id.toLower (areas.map K8sPoolArea.toK8sAreaDeployment))

def delWorkers (nodeNames : List String) : K8sPoolsM Unit :=
  onBlueprint (K8sBlueprint.delWorkers raises nodeNames)

end Calls

end K8sPools

/-- A day 2 call that changes the nodes. -/
inductive K8sNodeCall where
  | addNode (areas : List K8sPoolArea)
  | delWorkers (nodeNames : List String)
  deriving DecidableEq, Repr

def K8sNodeCall.exec (raises : Nat → Option PyError) (id : String) : K8sNodeCall → K8sPoolsM Unit
  | .addNode areas => K8sPools.addWorker raises id areas
  | .delWorkers nodeNames => K8sPools.delWorkers raises nodeNames

namespace K8sPools

/-! ### The blueprint under the pools -/

theorem projects_onBlueprint (m : K8sM α) : Projects K8sPools.blueprint (onBlueprint m) m :=
  Projects.zoom (fun _ _ => rfl) m

theorem createArea_projects (raises : Nat → Option PyError) (id : String) (area : K8sPoolArea) :
    Projects K8sPools.blueprint (createArea raises id area) (K8sBlueprint.createArea raises id.toLower area.toK8sAreaDeployment) := by
  have hrest : Projects K8sPools.blueprint
      (do
        modify (fun s =>
          if 0 < area.loadBalancerPoolsIps.length then
            { s with loadBalancerIpsArea := s.loadBalancerIpsArea.set area.areaId area.loadBalancerPoolsIps }
          else s)
        onBlueprint (K8sBlueprint.deployArea raises id.toLower area.toK8sAreaDeployment))
      (K8sBlueprint.deployArea raises id.toLower area.toK8sAreaDeployment) := by
    apply Projects.modify_bind
    · intro s
      split
      · rfl
      · rfl
    · exact projects_onBlueprint _
  unfold createArea K8sBlueprint.createArea
  by_cases hmaster : area.isMasterArea = true
  · rw [if_pos hmaster, if_pos hmaster]
    exact (projects_onBlueprint _).bind (fun _ => hrest)
  · rw [if_neg hmaster, if_neg hmaster]
    exact hrest

theorem setupLoadBalancerPool_ok {id : String} (h : (setupLoadBalancerPool id).run s = .ok () s') :
    s'.blueprint = s.blueprint ∧
      s.loadBalancerIpsArea.items.mapM (fun item => poolOf id s.blueprint item.1 item.2) = .ok s'.loadBalancerPools := by
  rw [setupLoadBalancerPool, EStateM.run_bind, EStateM.run_get] at h
  dsimp only at h
  cases hpools : s.loadBalancerIpsArea.items.mapM (fun item => poolOf id s.blueprint item.1 item.2) with
  | ok pools =>
    rw [hpools] at h
    cases h
    exact ⟨rfl, rfl⟩
  | error e =>
    rw [hpools] at h
    cases h

/-- A creation with pools that returns creates the blueprint. -/
theorem create_projects {id : String} (h : (create raises id areas).run s = .ok () s') :
    (K8sBlueprint.create raises id.toLower (areas.map K8sPoolArea.toK8sAreaDeployment)).run s.blueprint = .ok () s'.blueprint := by
  obtain ⟨_, s₁, hareas, h⟩ := bind_ok_inv h
  obtain ⟨_, s₂, hpools, h⟩ := bind_ok_inv h
  have hloop : Projects K8sPools.blueprint (forM areas (createArea raises id))
      (forM (areas.map K8sPoolArea.toK8sAreaDeployment) (K8sBlueprint.createArea raises id.toLower)) := by
    rw [List.forM_map]
    exact Projects.forM (createArea_projects raises id) areas
  have hrest := (projects_onBlueprint _).run_ok h
  rw [(setupLoadBalancerPool_ok hpools).1] at hrest
  rw [K8sBlueprint.create, run_bind_ok _ _ (hloop.run_ok hareas)]
  exact hrest

end K8sPools

end Nfvcl
