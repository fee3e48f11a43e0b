import Mathlib.Data.List.Basic
import Nfvcl.KeyedList
import Nfvcl.Generic5GDay2
import Nfvcl.BlueprintWorker

namespace Nfvcl
set_option autoImplicit true
open Effects

structure BlueCreateModelNetworks where
  mgt : String
  n4 : String
  n3 : String
  n6 : String
  deriving DecidableEq, Repr

structure UPFNetworkInfo where
  n4Cidr : IPv4Network
  n3Cidr : IPv4Network
  n6Cidr : IPv4Network
  n4Ip : IPv4Address
  n3Ip : IPv4Address
  n6Ip : IPv4Address
  deriving DecidableEq, Repr

structure DnnModel where
  name : Option String := none
  cidr : Option String := none
  deriving DecidableEq, Repr

structure SliceModel where
  id : String
  type : SliceType := .embb
  dnnList : List DnnModel := []
  deriving DecidableEq, Repr

structure UPFBlueCreateModel where
  areaId : Int
  networks : BlueCreateModelNetworks
  nrfIp : Option IPv4Address := none
  slices : List SliceModel := []
  start : Option Bool := some true
  n3GatewayIp : IPv4Address
  n6GatewayIp : IPv4Address
  gnbCidr : IPv4Network
  deriving DecidableEq, Repr

structure DeployedUPFInfo where
  area : Int
  servedSlices : List SliceModel := []
  networkInfo : Option UPFNetworkInfo := none
  vmResourceId : String
  vmConfiguratorId : String
  deriving DecidableEq, Repr

structure Router5GCreateModelNetworks where
  mgt : String
  gnb : String
  core : String
  n3 : String
  n6 : String
  deriving DecidableEq, Repr

structure Router5GCreateModel where
  areaId : Int
  networks : Router5GCreateModelNetworks
  deriving DecidableEq, Repr

structure UPFInfo where
  blueId : BlueId
  external : Bool
  routerGnbIp : IPv4Address
  upfList : List DeployedUPFInfo := []
  currentConfig : UPFBlueCreateModel
  deriving DecidableEq, Repr

structure Router5GInfo where
  blueId : Option BlueId := none
  external : Bool
  network : Router5GNetworkInfo
  deriving DecidableEq, Repr

structure EdgeAreaInfo where
  area : Int
  upf : Option UPFInfo := none
  router : Option Router5GInfo := none
  deriving DecidableEq, Repr

/-- What the edge section keeps beside the configuration. `edge_areas` is a dictionary from
`str(area.id)`, the area its entry records. -/
structure EdgeState where
  edgeAreas : List EdgeAreaInfo := []
  coreDeployed : Bool := false
  childrenBlueIds : List BlueId := []
  /-- How many provider calls were made. -/
  calls : Nat := 0
  deriving DecidableEq, Repr

/-- The calls of the edge section that leave the blueprint. -/
inductive EdgeCall where
  | createRouter (model : Router5GCreateModel)
  | getRouterInfo (router : BlueId)
  | createUpf (upfType : String) (model : UPFBlueCreateModel)
  | getUpfsInfo (upf : BlueId)
  | getNrfIp
  | updateUpf (upf : BlueId) (config : UPFBlueCreateModel)
  | addRoutes (router : Option BlueId) (cidr : String) (nexthop : IPv4Address)
  | deleteRouter (router : Option BlueId)
  | deleteUpf (upf : BlueId)
  deriving DecidableEq, Repr

/-- What the providers do: whether the `n`-th call, made for an area, raises, and the answers of
those that return. Sets are iterated in some order. -/
structure EdgeProvider where
  raises : EdgeCall → Int → Nat → Option PyError := fun _ _ _ => none
  routerInfo : Nat → Router5GNetworkInfo
  upfsInfo : Nat → List DeployedUPFInfo
  nrfIp : Nat → IPv4Address
  order : List Int → List Int := id
  order_perm : ∀ ids, (order ids).Perm ids := by intro ids; exact .refl ids

/-- What the parts of `create` outside the edge section do: `none` if they return. -/
structure CoreOutcomes where
  preCreationChecks : Option PyError := none
  create5g : Option PyError := none
  coreDeployed : Bool := true
  waitCoreReady : Option PyError := none
  updateGnbConfig : Option PyError := none

/-- A field that has to be a string. -/
def required (field : String) (value : Option String) : Except PyError String :=
  match value with
  | some value => .ok value
  | none => .error (.validationError field)

namespace Create5gModel

/-- `SliceModel.from_slice_profile`, on what `get_slice_profile` returned. -/
def fromSliceProfile (allDnns : List SubDataNets) (sliceProfile : Option SubSliceProfiles) :
    Except PyError SliceModel :=
  match sliceProfile with
  | none => .error (.attributeError "'NoneType' object has no attribute 'dnnList'")
  | some profile => do
    let dnnList ← (allDnns.filter (fun dnn => decide (dnn.dnn ∈ profile.dnnList))).mapM (fun dnn =>
      match dnn.pools with
      | [] => .error (.indexError "list index out of range")
      | pool :: _ => .ok { name := some dnn.dnn, cidr := some pool.cidr })
    return { id := profile.sliceId, type := profile.sliceType, dnnList := dnnList }

def upfSlices (c : Create5gModel) (areaId : Int) : Except PyError (List SliceModel) := do
  let profiles ← c.getSlicesProfilesForArea areaId
  profiles.mapM (fromSliceProfile c.config.networkEndpoints.dataNets)

def areaNetworks (c : Create5gModel) (areaId : Int) : Except PyError SubAreaNetwork :=
  match c.getArea areaId with
  | some area => .ok area.networks
  | none => .error (.attributeError "'NoneType' object has no attribute 'networks'")

def upfNetworks (c : Create5gModel) (areaId : Int) : Except PyError BlueCreateModelNetworks := do
  let area ← c.areaNetworks areaId
  let mgt ← required "mgt" c.config.networkEndpoints.mgt
  let n4 ← required "n4" c.config.networkEndpoints.wan
  let n3 ← required "n3" area.n3
  let n6 ← required "n6" area.n6
  return { mgt := mgt, n4 := n4, n3 := n3, n6 := n6 }

def routerModel (c : Create5gModel) (areaId : Int) : Except PyError Router5GCreateModel := do
  let area ← c.areaNetworks areaId
  let mgt ← required "mgt" c.config.networkEndpoints.mgt
  let gnb ← required "gnb" area.gnb
  let core ← required "core" c.config.networkEndpoints.wan
  let n3 ← required "n3" area.n3
  let n6 ← required "n6" area.n6
  return { areaId := areaId, networks := { mgt := mgt, gnb := gnb, core := core, n3 := n3, n6 := n6 } }

end Create5gModel

namespace Generic5G

abbrev EdgeM := EStateM PyError (Generic5GState EdgeState)

variable (provider : EdgeProvider)

/-- A provider call, which returns the number it has. -/
def call (c : EdgeCall) (area : Int) : EdgeM Nat := fun s =>
  let after := { s with rest := { s.rest with calls := s.rest.calls + 1 } }
  match provider.raises c area s.rest.calls with
  | some e => .error e after
  | none => .ok s.rest.calls after

def liftExcept (m : Except PyError α) : EStateM PyError σ α := fun s =>
  match m with
  | .ok a => .ok a s
  | .error e => .error e s

theorem lift_meets (m : Except PyError α) (s : σ) :
    Meets (liftExcept m) s (fun a s' => m = .ok a ∧ s' = s) (fun e s' => m = .error e ∧ s' = s) := by
  cases m with
  | ok a => exact ⟨rfl, rfl⟩
  | error e => exact ⟨rfl, rfl⟩

def registerChildren (blueId : BlueId) : EdgeM Unit := do
  let s ← get
  if blueId ∈ s.rest.childrenBlueIds then
    throw (.blueprintNG s!"Children blueprint {blueId} already present")
  set { s with rest := { s.rest with childrenBlueIds := s.rest.childrenBlueIds ++ [blueId] } }

def deregisterChildren (blueId : BlueId) : EdgeM Unit := do
  let s ← get
  if blueId ∉ s.rest.childrenBlueIds then
    throw (.blueprintNG s!"Children blueprint {blueId} not found")
  set { s with rest := { s.rest with childrenBlueIds := s.rest.childrenBlueIds.erase blueId } }

def setEdgeAreas (edgeAreas : List EdgeAreaInfo) : EdgeM Unit :=
  modify (fun s => { s with rest := { s.rest with edgeAreas := edgeAreas } })

/-- `self.state.edge_areas[str(area_id)]`. -/
def edgeArea (areaId : Int) : EdgeM EdgeAreaInfo := do
  let s ← get
  match KeyedList.toMap EdgeAreaInfo.area s.rest.edgeAreas areaId with
  | some info => return info
  | none => throw (.keyError s!"{areaId}")

/-- The router of an area, for one of its attributes. -/
def edgeRouter (attr : String) (areaId : Int) : EdgeM Router5GInfo := do
  let info ← edgeArea areaId
  match info.router with
  | some router => return router
  | none => throw (.attributeError s!"'NoneType' object has no attribute '{attr}'")

def edgeUpf (attr : String) (areaId : Int) : EdgeM UPFInfo := do
  let info ← edgeArea areaId
  match info.upf with
  | some upf => return upf
  | none => throw (.attributeError s!"'NoneType' object has no attribute '{attr}'")

/-- An assignment to a field of the entry of an area. -/
def assignEdgeArea (areaId : Int) (f : EdgeAreaInfo → EdgeAreaInfo) : EdgeM Unit := do
  let info ← edgeArea areaId
  let s ← get
  setEdgeAreas (KeyedList.replace EdgeAreaInfo.area s.rest.edgeAreas (f info))

/-- The NRF is asked for once the core is deployed. -/
def currentNrfIp (areaId : Int) : EdgeM (Option IPv4Address) := do
  let s ← get
  if s.rest.coreDeployed then do
    let n ← call provider .getNrfIp areaId
    return some (provider.nrfIp n)
  else
    return none

/-- `_create_upf_config`. -/
def createUpfConfig (areaId : Int) : EdgeM UPFBlueCreateModel := do
  let slices ← onConfig "get_slices_profiles_for_area" (do let c ← get; liftExcept (c.upfSlices areaId))
  let networks ← onConfig "config" (do let c ← get; liftExcept (c.upfNetworks areaId))
  let router ← edgeRouter "network" areaId
  let nrfIp ← currentNrfIp provider areaId
  return {
    areaId := areaId
    networks := networks
    nrfIp := nrfIp
    slices := slices
    n3GatewayIp := router.network.n3Ip
    n6GatewayIp := router.network.n6Ip
    gnbCidr := router.network.gnbCidr }

def deployRouterBlueprint (areaId : Int) : EdgeM Router5GInfo := do
  let model ← onConfig "get_area" (do let c ← get; liftExcept (c.routerModel areaId))
  let routerId ← call provider (.createRouter model) areaId
  registerChildren routerId
  let n ← call provider (.getRouterInfo routerId) areaId
  return { external := false, blueId := some routerId, network := provider.routerInfo n }

def undeployRouterBlueprint (areaId : Int) : EdgeM Unit := do
  let router ← edgeRouter "blue_id" areaId
  let _ ← call provider (.deleteRouter router.blueId) areaId
  match router.blueId with
  | some blueId => deregisterChildren blueId
  | none => throw (.blueprintNG "Children blueprint None not found")

def addRouteToRouter (areaId : Int) (cidr : Option String) (nexthop : IPv4Address) : EdgeM Unit := do
  let router ← edgeRouter "external" areaId
  if router.external then
    pure ()
  else do
    let cidr ← liftExcept (required "network_cidr" cidr)
    let _ ← call provider (.addRoutes router.blueId cidr nexthop) areaId

def getUpfsInfo (areaId : Int) (upfId : BlueId) (currentConfig : UPFBlueCreateModel) : EdgeM UPFInfo := do
  let n ← call provider (.getUpfsInfo upfId) areaId
  let router ← edgeRouter "network" areaId
  return {
    blueId := upfId
    routerGnbIp := router.network.gnbIp
    external := false
    upfList := provider.upfsInfo n
    currentConfig := currentConfig }

def deployUpfBlueprint (areaId : Int) (upfType : String) : EdgeM UPFInfo := do
  let upfCreateModel ← createUpfConfig provider areaId
  let upfId ← call provider (.createUpf upfType upfCreateModel) areaId
  registerChildren upfId
  getUpfsInfo provider areaId upfId upfCreateModel

def undeployUpfBlueprint (areaId : Int) : EdgeM Unit := do
  let upf ← edgeUpf "blue_id" areaId
  let _ ← call provider (.deleteUpf upf.blueId) areaId
  deregisterChildren upf.blueId

/-! ### The branches of `update_edge_areas` -/

def areaRouter (area : SubArea) : EdgeM Router5GInfo :=
  match area.networks.externalRouter with
  | none => deployRouterBlueprint provider area.id
  | some network => pure { external := true, network := network }

/-- The entry is stored before the area has a router and a UPF. -/
def deployArea (area : SubArea) : EdgeM Unit := do
  let s ← get
  setEdgeAreas (s.rest.edgeAreas ++ [{ area := area.id }])
  let routerInfo ← areaRouter provider area
  assignEdgeArea area.id (fun info => { info with router := some routerInfo })
  match area.upf with
  | none => throw (.attributeError "'list' object has no attribute 'type'")
  | some upf =>
    let upfInfo ← deployUpfBlueprint provider area.id upf.type
    assignEdgeArea area.id (fun info => { info with upf := some upfInfo })

def refreshArea (areaId : Int) : EdgeM Unit := do
  let updatedConfig ← createUpfConfig provider areaId
  let upf ← edgeUpf "current_config" areaId
  if upf.currentConfig ≠ updatedConfig then
    let _ ← call provider (.updateUpf upf.blueId updatedConfig) areaId
    let upfInfo ← getUpfsInfo provider areaId upf.blueId updatedConfig
    assignEdgeArea areaId (fun info => { info with upf := some upfInfo })

/-- The routes to the DNN pools through one UPF. -/
def routeUpf (areaId : Int) (deployedUpf : DeployedUPFInfo) : EdgeM Unit :=
  forM (deployedUpf.servedSlices.flatMap SliceModel.dnnList) (fun dnn =>
    match deployedUpf.networkInfo with
    | some networkInfo => addRouteToRouter provider areaId dnn.cidr networkInfo.n6Ip
    | none => throw (.attributeError "'NoneType' object has no attribute 'n6_ip'"))

def deployOrRefresh (area : SubArea) : EdgeM Unit := do
  let s ← get
  if (KeyedList.toMap EdgeAreaInfo.area s.rest.edgeAreas area.id).isNone then
    deployArea provider area
  else
    refreshArea provider area.id

/-- One iteration of the loop over the areas of the configuration. -/
def updateArea (area : SubArea) : EdgeM Unit := do
  deployOrRefresh provider area
  let upf ← edgeUpf "upf_list" area.id
  forM upf.upfList (routeUpf provider area.id)

def undeployOwnRouter (areaId : Int) : EdgeM Unit := do
  let router ← edgeRouter "external" areaId
  if router.external then
    pure ()
  else
    undeployRouterBlueprint provider areaId

/-- One iteration of the loop over the areas that left the configuration. -/
def deleteArea (areaId : Int) : EdgeM Unit := do
  undeployOwnRouter provider areaId
  undeployUpfBlueprint provider areaId
  let s ← get
  setEdgeAreas (KeyedList.erase EdgeAreaInfo.area s.rest.edgeAreas areaId)

/-- `update_edge_areas`. -/
def updateEdgeAreas : EdgeM Unit := do
  let areas ← onConfig "areas" (do let c ← get; return c.areas)
  forM areas (updateArea provider)
  let s ← get
  let toDelete := (s.rest.edgeAreas.map EdgeAreaInfo.area).filter (fun id =>
    decide (id ∉ areas.map SubArea.id))
  forM (provider.order toDelete) (deleteArea provider)

def setCoreDeployed (coreDeployed : Bool) : EdgeM Unit :=
  modify (fun s => { s with rest := { s.rest with coreDeployed := coreDeployed } })

/-- `create` once the configuration is stored. -/
def createDeployment (core : CoreOutcomes) (createModel : Create5gModel) : EdgeM Unit := do
  liftExcept createModel.configurationFeasibilityCheck
  outcome core.preCreationChecks
  updateEdgeAreas provider
  outcome core.create5g
  setCoreDeployed core.coreDeployed
  outcome core.waitCoreReady
  updateEdgeAreas provider
  outcome core.updateGnbConfig

def create (core : CoreOutcomes) (createModel : Create5gModel) : EdgeM Unit := do
  modify (fun s => { s with currentConfig := some createModel })
  createDeployment provider core createModel

end Generic5G

end Nfvcl
