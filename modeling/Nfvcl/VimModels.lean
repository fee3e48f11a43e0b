import Mathlib.Data.List.Basic
import Nfvcl.PyValue

namespace Nfvcl
set_option autoImplicit true

inductive VimTypeEnum where
  | openstack | proxmox
  deriving DecidableEq, Repr

structure VimConfigModel where
  insecure : Bool := true
  apiVersion : String := "v3.3"
  useFloatingIp : Bool := false
  deriving DecidableEq, Repr

/-- `VimModel`; its validator has already lowered the name and replaced its hyphens. -/
structure VimModel where
  name : String
  vimType : VimTypeEnum := .openstack
  schemaVersion : String := "1.3"
  vimUrl : String
  vimTenantName : String := "admin"
  vimUser : String := "admin"
  vimPassword : String := "admin"
  sshKeys : Option (List String) := some []
  vimProxmoxRealm : Option String := some "pam"
  vimProxmoxStorageId : Option String := some "local"
  vimProxmoxStorageVolume : Option String := some "local-lvm"
  osmOnboard : Option Bool := some false
  config : VimConfigModel := {}
  networks : List String := []
  routers : List String := []
  areas : List Int := []
  deriving DecidableEq, Repr

section Fields

variable (v : VimModel)

def VimModel.setNetworks (names : List String) : VimModel := { v with networks := names }

def VimModel.setRouters (names : List String) : VimModel := { v with routers := names }

def VimModel.setAreas (areas : List Int) : VimModel := { v with areas := areas }

@[simp] theorem VimModel.setNetworks_name (names : List String) : (v.setNetworks names).name = v.name := rfl

@[simp] theorem VimModel.setNetworks_networks (names : List String) :
    (v.setNetworks names).networks = names := rfl

@[simp] theorem VimModel.setNetworks_routers (names : List String) :
    (v.setNetworks names).routers = v.routers := rfl

@[simp] theorem VimModel.setRouters_name (names : List String) : (v.setRouters names).name = v.name := rfl

@[simp] theorem VimModel.setRouters_networks (names : List String) :
    (v.setRouters names).networks = v.networks := rfl

@[simp] theorem VimModel.setRouters_routers (names : List String) :
    (v.setRouters names).routers = names := rfl

@[simp] theorem VimModel.setAreas_name (areas : List Int) : (v.setAreas areas).name = v.name := rfl

@[simp] theorem VimModel.setAreas_networks (areas : List Int) :
    (v.setAreas areas).networks = v.networks := rfl

@[simp] theorem VimModel.setAreas_routers (areas : List Int) :
    (v.setAreas areas).routers = v.routers := rfl

end Fields

/-- The common body of `add_net` and `add_router`: a name already listed, or an empty
one, is only logged. -/
def addName (name : String) (names : List String) : List String :=
  if name ∈ names ∨ name = "" then names else names ++ [name]

def VimModel.addNet (net : String) : EStateM PyError VimModel Unit :=
  modify fun vim => { vim with networks := addName net vim.networks }

/-- `del_net` removes the first entry with the name; a missing name is only logged. -/
def VimModel.delNet (netName : String) : EStateM PyError VimModel (Option String) := do
  let vim ← get
  if netName ∉ vim.networks then
    return none
  set { vim with networks := vim.networks.erase netName }
  return some netName

def VimModel.addRouter (router : String) : EStateM PyError VimModel Unit :=
  modify fun vim => { vim with routers := addName router vim.routers }

/-- `del_router` looks the name up among the VIM's networks before removing it from
the routers, where it may be missing. -/
def VimModel.delRouter (routerName : String) : EStateM PyError VimModel (Option String) := do
  let vim ← get
  if routerName ∉ vim.networks then
    return none
  if routerName ∉ vim.routers then
    throw (.valueError s!"'{routerName}' is not in list")
  set { vim with routers := vim.routers.erase routerName }
  return some routerName

def VimModel.addArea (areaId : Int) : EStateM PyError VimModel Unit :=
  modify fun vim =>
    { vim with areas := if areaId ∈ vim.areas then vim.areas else vim.areas ++ [areaId] }

def VimModel.delArea (areaId : Int) : EStateM PyError VimModel (Option Int) := do
  let vim ← get
  if areaId ∉ vim.areas then
    return none
  set { vim with areas := vim.areas.erase areaId }
  return some areaId

/-- `get_net` and `get_router` log a missing name and return `None`. -/
def VimModel.getNet (vim : VimModel) (netName : String) : Option String :=
  if netName ∈ vim.networks then some netName else none

def VimModel.getRouter (vim : VimModel) (routerName : String) : Option String :=
  if routerName ∈ vim.routers then some routerName else none

section Runs

variable (v : VimModel)

theorem VimModel.addNet_run (net : String) :
    (VimModel.addNet net).run v = .ok () (v.setNetworks (addName net v.networks)) := rfl

theorem VimModel.delNet_run (net : String) :
    (VimModel.delNet net).run v =
      .ok (if net ∈ v.networks then some net else none) (v.setNetworks (v.networks.erase net)) := by
  simp only [VimModel.delNet, EStateM.run_bind, EStateM.run_get]
  by_cases hn : net ∈ v.networks
  · simp only [hn, not_true_eq_false, if_false, if_true]
    rfl
  · simp only [hn, not_false_eq_true, if_true, if_false, List.erase_of_not_mem hn]
    rfl

theorem VimModel.addRouter_run (router : String) :
    (VimModel.addRouter router).run v = .ok () (v.setRouters (addName router v.routers)) := rfl

/-- Deleting a name listed as a network but not as a router raises. -/
theorem VimModel.delRouter_run (router : String) :
    (VimModel.delRouter router).run v =
      if router ∈ v.networks ∧ router ∉ v.routers then
        .error (.valueError s!"'{router}' is not in list") v
      else
        .ok (if router ∈ v.networks then some router else none)
          (v.setRouters (if router ∈ v.networks then v.routers.erase router else v.routers)) := by
  simp only [VimModel.delRouter, EStateM.run_bind, EStateM.run_get]
  by_cases hn : router ∈ v.networks
  · by_cases hr : router ∈ v.routers
    · simp only [hn, hr, not_true_eq_false, if_false, and_false, if_true]
      rfl
    · simp only [hn, hr, not_true_eq_false, if_false, not_false_eq_true, and_self, if_true]
      rfl
  · simp only [hn, not_false_eq_true, if_true, false_and, if_false]
    rfl

theorem VimModel.delArea_run (areaId : Int) :
    (VimModel.delArea areaId).run v =
      .ok (if areaId ∈ v.areas then some areaId else none) (v.setAreas (v.areas.erase areaId)) := by
  simp only [VimModel.delArea, EStateM.run_bind, EStateM.run_get]
  by_cases ha : areaId ∈ v.areas
  · simp only [ha, not_true_eq_false, if_false, if_true]
    rfl
  · simp only [ha, not_false_eq_true, if_true, if_false, List.erase_of_not_mem ha]
    rfl

end Runs

structure UpdateVimModel where
  name : String
  networksToAdd : List String := []
  networksToDel : List String := []
  routersToAdd : List String := []
  routersToDel : List String := []
  areasToAdd : List Int := []
  areasToDel : List Int := []
  deriving DecidableEq, Repr

end Nfvcl
