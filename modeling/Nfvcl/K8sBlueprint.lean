import Mathlib.Data.List.Basic
import Nfvcl.ListUpdates
import Nfvcl.PyValue

namespace Nfvcl
set_option autoImplicit true
open Effects ListUpdates

structure K8sAreaDeployment where
  areaId : Int
  isMasterArea : Bool := false
  mgmtNet : String
  additionalNetworks : List String := []
  workerReplicas : Nat := 1
  deriving DecidableEq, Repr

/-- A `VmResource` with the id that `register_resource` gives it. -/
structure NodeVm where
  area : Int
  name : String
  id : Nat
  deriving DecidableEq, Repr

structure VmK8sDay0Configurator where
  vmResource : NodeVm
  vmNumber : Nat
  id : Nat
  deriving DecidableEq, Repr

/-- The state of a K8S blueprint and its registered resources. -/
structure K8sBlueprintState where
  areaList : List K8sAreaDeployment := []
  workerNumbers : List Nat := List.replicate 18 0
  attachedNetworks : List String := []
  vmMaster : Option NodeVm := none
  vmWorkers : List NodeVm := []
  day0WorkersConfigurators : List VmK8sDay0Configurator := []
  day0WorkersConfiguratorsTobeExec : List VmK8sDay0Configurator := []
  registeredResources : List Nat := []
  /-- How many ids were given. -/
  ids : Nat := 0
  /-- How many steps that can raise were made. -/
  steps : Nat := 0
  deriving DecidableEq, Repr

abbrev K8sM := EStateM PyError K8sBlueprintState

namespace K8sBlueprintState

/-- The first free number. -/
def reserveWorkerNumber : K8sM Nat := do
  let s ← get
  match s.workerNumbers.findIdx? (fun val => decide (val = 0)) with
  | some position =>
    set { s with workerNumbers := s.workerNumbers.set position 1 }
    return position
  | none => throw (.valueError "Cannot assign number to a worker, all numbers has been reserved.")

def releaseWorkerNumber (number : Nat) : K8sM Unit := do
  let s ← get
  match s.workerNumbers[number]? with
  | none => throw (.indexError "list index out of range")
  | some val =>
    if val = 1 then set { s with workerNumbers := s.workerNumbers.set number 0 }
    else throw (.valueError "The worker number was not reserved")

/-- The loop removes from the list it runs over, so the element after a removed one is passed over. -/
def removeConfigurators (name : String) : List VmK8sDay0Configurator → K8sM (List VmK8sDay0Configurator)
  | [] => return []
  | [configurator] =>
    if configurator.vmResource.name = name then do
      releaseWorkerNumber configurator.vmNumber
      modify (fun s => { s with day0WorkersConfigurators := s.day0WorkersConfigurators.erase configurator })
      return [configurator]
    else return []
  | configurator :: next :: rest =>
    if configurator.vmResource.name = name then do
      releaseWorkerNumber configurator.vmNumber
      modify (fun s => { s with day0WorkersConfigurators := s.day0WorkersConfigurators.erase configurator })
      let more ← removeConfigurators name rest
      return configurator :: more
    else removeConfigurators name (next :: rest)

def removeWorker (worker : NodeVm) : K8sM (List VmK8sDay0Configurator) := do
  modify (fun s => { s with vmWorkers := s.vmWorkers.filter (fun vm => decide (vm.name ≠ worker.name)) })
  let s ← get
  let configurators ← removeConfigurators worker.name s.day0WorkersConfigurators
  modify (fun s =>
    { s with
      day0WorkersConfiguratorsTobeExec := s.day0WorkersConfiguratorsTobeExec.filter
        (fun configurator => decide (configurator.vmResource.name ≠ worker.name)) })
  return configurators

end K8sBlueprintState

namespace K8sBlueprint
open K8sBlueprintState

/-- `self.id.lower()` comes first in the names. -/
def masterName (id : String) : String := s!"{id}-vm-k8s-c"

def workerName (id : String) (number : Nat) : String := s!"{id}-vm-w-{number}"

def newId : K8sM Nat := do
  let s ← get
  set { s with ids := s.ids + 1 }
  return s.ids

def deregisterResource (resource : Nat) : K8sM Unit := do
  let s ← get
  if resource ∈ s.registeredResources then
    set { s with registeredResources := s.registeredResources.erase resource }
  else throw (.blueprintNG "The resource to be deleted is not present in registered resources")

section Calls

-- what the steps that can raise do, in the order they are made
variable (raises : Nat → Option PyError)

/-- A call of the provider, or another step that leaves the lists alone and can raise. -/
def attempt : K8sM Unit := do
  let s ← get
  set { s with steps := s.steps + 1 }
  outcome (raises s.steps)

def registerResource (resource : Nat) : K8sM Unit := do
  attempt raises
  modify (fun s => { s with registeredResources := s.registeredResources ++ [resource] })

variable (id : String)

def deployMasterNode (area : K8sAreaDeployment) : K8sM Unit := do
  let vmId ← newId
  modify (fun s => { s with vmMaster := some ⟨area.areaId, masterName id, vmId⟩ })
  registerResource raises vmId
  attempt raises
  let day0 ← newId
  let day2 ← newId
  registerResource raises day0
  registerResource raises day2

def deployWorker (area : K8sAreaDeployment) : K8sM Unit := do
  let workerNumber ← reserveWorkerNumber
  let vmId ← newId
  let vm : NodeVm := ⟨area.areaId, workerName id workerNumber, vmId⟩
  modify (fun s => { s with vmWorkers := s.vmWorkers ++ [vm] })
  registerResource raises vmId
  attempt raises
  let configuratorId ← newId
  let configurator : VmK8sDay0Configurator := ⟨vm, workerNumber, configuratorId⟩
  modify (fun s =>
    { s with
      day0WorkersConfigurators := s.day0WorkersConfigurators ++ [configurator]
      day0WorkersConfiguratorsTobeExec := s.day0WorkersConfiguratorsTobeExec ++ [configurator] })
  registerResource raises configuratorId

/-- Two areas are the same if they have the same id. -/
def deployArea (area : K8sAreaDeployment) : K8sM Unit := do
  forM (List.replicate area.workerReplicas area) (deployWorker raises id)
  modify (fun s => { s with attachedNetworks := (area.mgmtNet :: area.additionalNetworks).foldl appendNew s.attachedNetworks })
  modify (fun s =>
    if s.areaList.any (fun known => decide (known.areaId = area.areaId)) then s
    else { s with areaList := s.areaList ++ [area] })

def day0conf (configureMaster : Bool) : K8sM Unit := do
  if configureMaster then attempt raises
  let s ← get
  forM s.day0WorkersConfiguratorsTobeExec (fun _ => attempt raises)
  modify (fun s => { s with day0WorkersConfiguratorsTobeExec := [] })

def createArea (area : K8sAreaDeployment) : K8sM Unit := do
  if area.isMasterArea then deployMasterNode raises id area
  deployArea raises id area

/-- The pools of the load balancer, the repair of the DNS, the plugins and the topology are steps that
leave the lists alone. -/
def create (areas : List K8sAreaDeployment) : K8sM Unit := do
  forM areas (createArea raises id)
  attempt raises
  day0conf raises true
  attempt raises

def addWorker (areas : List K8sAreaDeployment) : K8sM Unit := do
  forM areas (deployArea raises id)
  day0conf raises false

def destroyWorker (vm : NodeVm) : K8sM Unit := do
  attempt raises
  deregisterResource vm.id
  let configurators ← removeWorker vm
  forM configurators (fun configurator => deregisterResource configurator.id)

/-- `vm_to_be_destroyed`: the workers with the given names. -/
def toBeDestroyed (s : K8sBlueprintState) (nodeNames : List String) : List NodeVm :=
  nodeNames.filterMap (fun node => s.vmWorkers.find? (fun vm => decide (vm.name = node)))

def delWorkers (nodeNames : List String) : K8sM Unit := do
  let s ← get
  match s.vmMaster with
  | none => throw (.attributeError "'NoneType' object has no attribute 'name'")
  | some master =>
    if s.vmWorkers.length ≤ 1 then return ()
    attempt raises
    forM (toBeDestroyed s (nodeNames.erase master.name)) (destroyWorker raises)

end Calls

end K8sBlueprint

/-- A request to a K8S blueprint. -/
inductive K8sCall where
  | create (areas : List K8sAreaDeployment)
  | addNode (areas : List K8sAreaDeployment)
  | delWorkers (nodeNames : List String)
  deriving DecidableEq, Repr

def K8sCall.exec (raises : Nat → Option PyError) (id : String) : K8sCall → K8sM Unit
  | .create areas => K8sBlueprint.create raises id areas
  | .addNode areas => K8sBlueprint.addWorker raises id areas
  | .delWorkers nodeNames => K8sBlueprint.delWorkers raises nodeNames

end Nfvcl
