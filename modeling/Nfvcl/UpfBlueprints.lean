import Mathlib.Data.List.Basic
import Mathlib.Data.List.Dedup
import Nfvcl.KeyedList
import Nfvcl.Generic5GEdge

namespace Nfvcl
set_option autoImplicit true
open Effects

/-- An interface of a VM, with the addresses a VIM reports. -/
structure VmResourceNetworkInterfaceAddress where
  interfaceName : String := ""
  mac : String
  ip : IPv4Address
  cidr : IPv4Network
  deriving DecidableEq, Repr

structure VmResource where
  id : String
  area : Int
  name : String
  managementNetwork : String
  additionalNetworks : List String
  requirePortSecurityDisabled : Bool := false
  networkInterfaces : String → Option (List VmResourceNetworkInterfaceAddress) := fun _ => none

namespace VmResource

def getAllConnectedNetworkNames (vm : VmResource) : List String :=
  vm.managementNetwork :: vm.additionalNetworks

/-- `network_interfaces[network][0].fixed`. -/
def interface (vm : VmResource) (network : String) : Except PyError VmResourceNetworkInterfaceAddress :=
  match vm.networkInterfaces network with
  | none => .error (.keyError network)
  | some [] => .error (.indexError "list index out of range")
  | some (address :: _) => .ok address

end VmResource

/-- The VIMs of a run: the interfaces of the VM created for the `n`-th resource, on every network it is connected to.
Resources have ids of their own, and sets are iterated in some order. -/
structure VmProvider where
  interfaces : Nat → VmResource → String → Option (List VmResourceNetworkInterfaceAddress)
  attached : ∀ n vm network, network ∈ vm.getAllConnectedNetworkNames →
    ∃ address addresses, interfaces n vm network = some (address :: addresses)
  uuid : Nat → String
  uuid_injective : Function.Injective uuid
  order : List (Option String) → List (Option String) := List.dedup
  order_nodup : ∀ xs, (order xs).Nodup := by intro xs; exact List.nodup_dedup xs
  order_mem : ∀ xs x, x ∈ order xs ↔ x ∈ xs := by intro xs x; exact List.mem_dedup

/-! ### Configurations -/

structure Snssai where
  sst : Nat
  sd : String
  deriving DecidableEq, Repr

structure SNssaiUpfInfoListItem where
  sNssai : Snssai
  dnnUpfInfoList : List String
  deriving DecidableEq, Repr

structure OaiDnn where
  dnn : String
  ipv4Subnet : String
  deriving DecidableEq, Repr

/-- The part of the OAI values that `update_upf` writes. -/
structure Upfconfig where
  snssais : List Snssai := []
  sNssaiUpfInfoList : List SNssaiUpfInfoListItem := []
  dnns : List OaiDnn := []
  host : String := "oai-upf"
  n3InterfaceName : String := "eth0"
  n4InterfaceName : String := "eth0"
  n6InterfaceName : String := "eth0"
  remoteN6Gw : Option IPv4Address := none
  deriving DecidableEq, Repr

structure OpenAirInterfaceUpfConfigurator where
  upfId : Int
  nrfIpv4Address : IPv4Address
  upfConf : Upfconfig
  gnbCidr : IPv4Network
  n3Gateway : IPv4Address
  n6Gateway : IPv4Address
  deriving DecidableEq, Repr

structure DnnListItem where
  dnn : String
  cidr : String
  deriving DecidableEq, Repr

structure Free5gcUpfConfig where
  pfcpAddr : Option IPv4Address := none
  ifList : List IPv4Address := []
  dnnList : List DnnListItem := []
  deriving DecidableEq, Repr

structure Free5gcUpfConfigurator where
  upfId : Int
  upfConf : Free5gcUpfConfig
  n6 : String
  gnbCidr : IPv4Network
  n3Gateway : IPv4Address
  n6Gateway : IPv4Address
  deriving DecidableEq, Repr

structure SDCoreUPFConfiguration where
  n3NicName : String
  n6NicName : String
  n3NetCidr : IPv4Address × Nat
  n6NetCidr : IPv4Address × Nat
  n3NicMac : String
  n6NicMac : String
  n3NhIp : IPv4Address
  n6NhIp : IPv4Address
  n3Route : IPv4Network
  start : Bool
  dnn : String
  ueIpPoolCidr : String
  deriving DecidableEq, Repr

/-- What `configure_vm` runs on a VM. -/
inductive UpfConfiguration where
  | oai (configurator : OpenAirInterfaceUpfConfigurator)
  | free5gc (configurator : Free5gcUpfConfigurator)
  | sdcore (configuration : SDCoreUPFConfiguration)
  deriving DecidableEq, Repr

/-! ### The state of a UPF blueprint -/

/-- `Generic5GUPFBlueprintNGState`, with what an implementation adds to it. -/
structure UpfState (χ : Type) where
  createConfig : Option UPFBlueCreateModel := none
  currentConfig : Option UPFBlueCreateModel := none
  upfList : List DeployedUPFInfo := []
  /-- A dictionary from the id of a VM, in insertion order. -/
  vmResources : List VmResource := []
  /-- How many resources were given an id. -/
  registered : Nat := 0
  /-- What `configure_vm` ran on the VMs, the last first. -/
  configured : List (String × UpfConfiguration) := []
  own : χ

abbrev UpfM (χ : Type) := EStateM PyError (UpfState χ)

structure OAIUpfOwn where
  configuratorId : Option String := none
  upfConf : Upfconfig := {}

structure Free5gcUpfOwn where
  configuratorId : Option String := none
  upfConf : Free5gcUpfConfig := {}

structure SdCoreUpfOwn where
  vmConfigurators : List String := []
  /-- A dictionary from the name of a DNN. -/
  currentlyDeployedDnns : List (Option String × DeployedUPFInfo) := []

/-- The `configurator.id` of a configurator that has to be there. -/
def configurator (id : Option String) : Except PyError String :=
  match id with
  | some id => .ok id
  | none => .error (.attributeError "'NoneType' object has no attribute 'id'")

namespace UpfState

variable {χ : Type} (provider : VmProvider)

/-- `register_resource` gives the resource an id. -/
def registerResource : UpfM χ String := do
  let s ← get
  set { s with registered := s.registered + 1 }
  return provider.uuid s.registered

/-- A VM on the networks of the configuration, registered and created. -/
def createVm (config : UPFBlueCreateModel) (name : String) (requirePortSecurityDisabled : Bool) : UpfM χ VmResource := do
  let n := (← get).registered
  let id ← registerResource provider
  let networks := [config.networks.n4, config.networks.n3, config.networks.n6].dedup
  let vm : VmResource := {
    id := id
    area := config.areaId
    name := name
    managementNetwork := config.networks.mgt
    additionalNetworks := networks.filter (fun network => decide (network ≠ config.networks.mgt))
    requirePortSecurityDisabled := requirePortSecurityDisabled }
  return { vm with networkInterfaces := provider.interfaces n vm }

def storeVm (vm : VmResource) : UpfM χ Unit :=
  modify (fun s => { s with vmResources := s.vmResources ++ [vm] })

/-- `next(iter(self.state.vm_resources.values()))`. -/
def firstVm : UpfM χ VmResource := do
  let s ← get
  match s.vmResources with
  | vm :: _ => return vm
  | [] => throw (.external "StopIteration")

def configureVm (vm : VmResource) (configuration : UpfConfiguration) : UpfM χ Unit :=
  modify (fun s => { s with configured := (vm.id, configuration) :: s.configured })

/-- The configuration the blueprint was created with. -/
def createdWith : UpfM χ UPFBlueCreateModel := do
  let s ← get
  match s.createConfig with
  | some config => return config
  | none => throw (.attributeError "'NoneType' object has no attribute 'networks'")

/-- The `DeployedUPFInfo` of a VM, with the addresses it has on the networks given. -/
def deployedInfo (config : UPFBlueCreateModel) (slices : List SliceModel) (networks : BlueCreateModelNetworks)
    (vm : VmResource) (configuratorId : String) : Except PyError DeployedUPFInfo := do
  let n4 ← vm.interface networks.n4
  let n3 ← vm.interface networks.n3
  let n6 ← vm.interface networks.n6
  return {
    area := config.areaId
    servedSlices := slices
    networkInfo := some {
      n4Cidr := n4.cidr
      n3Cidr := n3.cidr
      n6Cidr := n6.cidr
      n4Ip := n4.ip
      n3Ip := n3.ip
      n6Ip := n6.ip }
    vmResourceId := vm.id
    vmConfiguratorId := configuratorId }

/-- `update_upf_info` of the two blueprints with one VM, which `create_upf` calls in both. -/
def updateUpfInfo (configuratorId : Option String) (config : UPFBlueCreateModel) : UpfM χ Unit := do
  let vm ← firstVm
  let configuratorId ← Generic5G.liftExcept (configurator configuratorId)
  let info ← Generic5G.liftExcept (deployedInfo config config.slices config.networks vm configuratorId)
  modify (fun s => { s with upfList := [info] })

/-- `create_upf` of the blueprints with one VM: the VM is created and its configurator registered. -/
def createSingle (name : String) (setConfigurator : String → χ → χ) (config : UPFBlueCreateModel) : UpfM χ Unit := do
  let vm ← createVm provider config name false
  storeVm vm
  let id ← registerResource provider
  modify (fun s => { s with own := setConfigurator id s.own })
  updateUpfInfo (some id) config

/-- `Generic5GUPFBlueprintNG.create`. -/
def create (createUpf : UPFBlueCreateModel → UpfM χ Unit) (createModel : UPFBlueCreateModel) : UpfM χ Unit := do
  modify (fun s => { s with createConfig := some createModel, currentConfig := some createModel })
  createUpf createModel

/-- `Generic5GUPFBlueprintNG.update`. -/
def update (updateUpf : UPFBlueCreateModel → UpfM χ Unit) (createModel : UPFBlueCreateModel) : UpfM χ Unit := do
  modify (fun s => { s with currentConfig := some createModel })
  updateUpf createModel

end UpfState

open UpfState

/-- `str.zfill`. -/
def zfill (width : Nat) (text : String) : String :=
  let zeros := List.replicate (width - text.length) '0'
  match text.toList with
  | [] => String.ofList zeros
  | c :: cs => if c = '+' ∨ c = '-' then String.ofList (c :: (zeros ++ cs)) else String.ofList (zeros ++ c :: cs)

/-- `SstConvertion.to_int`. -/
def SliceType.toInt : SliceType → Nat
  | .embb => 1
  | .urllc => 2
  | .mmtc => 3

/-! ### OpenAirInterfaceUpf -/

namespace OpenAirInterfaceUpf

def snssaiOf (slice : SliceModel) : Snssai where
  sst := slice.type.toInt
  sd := zfill 6 slice.id

def addSnssai (conf : Upfconfig) (slice : SliceModel) : Except PyError Upfconfig :=
  if snssaiOf slice ∈ conf.snssais then
    .error (.valueError s!"Add failed, slice {slice.id} already exist")
  else
    .ok { conf with snssais := conf.snssais ++ [snssaiOf slice] }

def addDnnDnns (conf : Upfconfig) (dnn : OaiDnn) : Upfconfig :=
  if dnn ∈ conf.dnns then conf else { conf with dnns := conf.dnns ++ [dnn] }

/-- The item with the `sd` gets the DNN; without one an item is added and gets it. -/
def addDnnSnssaiUpfInfoListItem (items : List SNssaiUpfInfoListItem) (snssai : Snssai) (dnn : String) :
    List SNssaiUpfInfoListItem :=
  match items with
  | [] => [{ sNssai := snssai, dnnUpfInfoList := [dnn] }]
  | item :: items =>
    if item.sNssai.sd = snssai.sd then
      (if dnn ∈ item.dnnUpfInfoList then item else { item with dnnUpfInfoList := item.dnnUpfInfoList ++ [dnn] }) :: items
    else
      item :: addDnnSnssaiUpfInfoListItem items snssai dnn

def addDnn (snssai : Snssai) (conf : Upfconfig) (dnn : DnnModel) : Except PyError Upfconfig := do
  let name ← required "dnn" dnn.name
  let cidr ← required "ipv4_subnet" dnn.cidr
  let conf := addDnnDnns conf { dnn := name, ipv4Subnet := cidr }
  return { conf with sNssaiUpfInfoList := addDnnSnssaiUpfInfoListItem conf.sNssaiUpfInfoList snssai name }

def addSlice (conf : Upfconfig) (slice : SliceModel) : Except PyError Upfconfig := do
  let conf ← addSnssai conf slice
  slice.dnnList.foldlM (addDnn (snssaiOf slice)) conf

/-- `upf_conf` as an update leaves it: it is cleared first. -/
def newUpfConf (config : UPFBlueCreateModel) (vm : VmResource) : Except PyError Upfconfig := do
  let n4 ← vm.interface config.networks.n4
  let n3 ← vm.interface config.networks.n3
  let n6 ← vm.interface config.networks.n6
  config.slices.foldlM addSlice {
    host := s!"oai-upf{config.areaId}"
    n3InterfaceName := n3.interfaceName
    n4InterfaceName := n4.interfaceName
    n6InterfaceName := n6.interfaceName
    remoteN6Gw := some config.n6GatewayIp }

def newConfigurator (config : UPFBlueCreateModel) (upfConf : Upfconfig) : Except PyError OpenAirInterfaceUpfConfigurator :=
  match config.nrfIp with
  | none => .error (.attributeError "'NoneType' object has no attribute 'exploded'")
  | some nrfIp => .ok {
      upfId := config.areaId
      nrfIpv4Address := nrfIp
      upfConf := upfConf
      gnbCidr := config.gnbCidr
      n3Gateway := config.n3GatewayIp
      n6Gateway := config.n6GatewayIp }

def updateUpfInfo (config : UPFBlueCreateModel) : UpfM OAIUpfOwn Unit := do
  let s ← get
  UpfState.updateUpfInfo s.own.configuratorId config

variable (provider : VmProvider)

def createUpf (config : UPFBlueCreateModel) : UpfM OAIUpfOwn Unit :=
  createSingle provider s!"OAI_UPF_{config.areaId}" (fun id own => { own with configuratorId := some id }) config

def updateUpf (config : UPFBlueCreateModel) : UpfM OAIUpfOwn Unit := do
  let vm ← firstVm
  let upfConf ← Generic5G.liftExcept (newUpfConf config vm)
  modify (fun s => { s with own := { s.own with upfConf := upfConf } })
  let s ← get
  let _ ← Generic5G.liftExcept (configurator s.own.configuratorId)
  let newConfig ← Generic5G.liftExcept (newConfigurator config upfConf)
  configureVm vm (.oai newConfig)
  updateUpfInfo config

end OpenAirInterfaceUpf

/-! ### Free5GCUpf -/

namespace Free5GCUpf

def addDnn (dnns : List DnnListItem) (dnn : DnnModel) : Except PyError (List DnnListItem) := do
  let name ← required "dnn" dnn.name
  let cidr ← required "cidr" dnn.cidr
  let item : DnnListItem := { dnn := name, cidr := cidr }
  return if item ∈ dnns then dnns else dnns ++ [item]

/-- The addresses on N4 and N3 are looked up on the networks of the creation. -/
def newUpfConf (config created : UPFBlueCreateModel) (vm : VmResource) : Except PyError Free5gcUpfConfig := do
  let n4 ← vm.interface created.networks.n4
  let n3 ← vm.interface created.networks.n3
  let dnnList ← (config.slices.flatMap SliceModel.dnnList).foldlM addDnn []
  return { pfcpAddr := some n4.ip, ifList := [n3.ip], dnnList := dnnList }

def newConfigurator (config : UPFBlueCreateModel) (vm : VmResource) (upfConf : Free5gcUpfConfig) :
    Except PyError Free5gcUpfConfigurator := do
  let n6 ← vm.interface config.networks.n6
  return {
    upfId := config.areaId
    upfConf := upfConf
    n6 := n6.interfaceName
    gnbCidr := config.gnbCidr
    n3Gateway := config.n3GatewayIp
    n6Gateway := config.n6GatewayIp }

variable (provider : VmProvider)

def createUpf (config : UPFBlueCreateModel) : UpfM Free5gcUpfOwn Unit :=
  createSingle provider s!"FREE5GC_UPF_{config.areaId}" (fun id own => { own with configuratorId := some id }) config

/-- The information about the UPF is not brought up to date. -/
def updateUpf (config : UPFBlueCreateModel) : UpfM Free5gcUpfOwn Unit := do
  let vm ← firstVm
  let created ← createdWith
  let upfConf ← Generic5G.liftExcept (newUpfConf config created vm)
  modify (fun s => { s with own := { s.own with upfConf := upfConf } })
  let s ← get
  let _ ← Generic5G.liftExcept (configurator s.own.configuratorId)
  let newConfig ← Generic5G.liftExcept (newConfigurator config vm upfConf)
  configureVm vm (.free5gc newConfig)

end Free5GCUpf

/-! ### SdCoreUPFBlueprintNG -/

namespace SdCoreUPF

def dnnsToDeploy (config : UPFBlueCreateModel) : List (Option String) :=
  (config.slices.flatMap SliceModel.dnnList).map DnnModel.name

def foundIpPool (found : Option String) (cidr : Option String) : Except PyError (Option String) :=
  match found with
  | none => .ok cidr
  | some pool =>
    if some pool ≠ cidr then .error (.valueError "The same dnn for different slices must have the same ip pool")
    else .ok found

def getDnnIpPool (config : UPFBlueCreateModel) (dnn : Option String) : Except PyError String := do
  let dnns := (config.slices.flatMap SliceModel.dnnList).filter (fun x => decide (x.name = dnn))
  let found ← (dnns.map DnnModel.cidr).foldlM foundIpPool none
  match found with
  | some pool => return pool
  | none => throw (.valueError ("Unable to find ip pool for dnn '" ++ dnn.getD "None" ++ "'"))

def getSlicesForDnn (config : UPFBlueCreateModel) (dnn : Option String) : List SliceModel :=
  config.slices.filter (fun slice => decide (dnn ∈ slice.dnnList.map DnnModel.name))

/-- `start` has to be a boolean. -/
def started (config : UPFBlueCreateModel) : Except PyError Bool :=
  match config.start with
  | some start => .ok start
  | none => .error (.validationError "start")

def newConfiguration (config : UPFBlueCreateModel) (vm : VmResource) (dnn : Option String) :
    Except PyError SDCoreUPFConfiguration := do
  let n3 ← vm.interface config.networks.n3
  let n6 ← vm.interface config.networks.n6
  let pool ← getDnnIpPool config dnn
  let start ← started config
  let dnn ← required "dnn" dnn
  return {
    n3NicName := n3.interfaceName
    n6NicName := n6.interfaceName
    n3NetCidr := (n3.ip, n3.cidr.prefixlen)
    n6NetCidr := (n6.ip, n6.cidr.prefixlen)
    n3NicMac := n3.mac
    n6NicMac := n6.mac
    n3NhIp := config.n3GatewayIp
    n6NhIp := config.n6GatewayIp
    n3Route := config.gnbCidr
    start := start
    dnn := dnn
    ueIpPoolCidr := pool }

variable (provider : VmProvider)

def deployUpfVm (config : UPFBlueCreateModel) (dnn : Option String) : UpfM SdCoreUpfOwn DeployedUPFInfo := do
  let vm ← createVm provider config (s!"{config.areaId}_SDCORE_UPF_" ++ dnn.getD "None") true
  let configuration ← Generic5G.liftExcept (newConfiguration config vm dnn)
  let configuratorId ← registerResource provider
  configureVm vm (.sdcore configuration)
  storeVm vm
  modify (fun s => { s with own := { s.own with vmConfigurators := s.own.vmConfigurators ++ [configuratorId] } })
  let created ← createdWith
  Generic5G.liftExcept (deployedInfo config (getSlicesForDnn config dnn) created.networks vm configuratorId)

def deployedDnn (dnn : Option String) : UpfM SdCoreUpfOwn DeployedUPFInfo := do
  let s ← get
  match KeyedList.toMap Prod.fst s.own.currentlyDeployedDnns dnn with
  | some (_, info) => return info
  | none => throw (.keyError (dnn.getD "None"))

def undeployUpfVm (dnn : Option String) : UpfM SdCoreUpfOwn DeployedUPFInfo := do
  let info ← deployedDnn dnn
  let s ← get
  if (KeyedList.toMap VmResource.id s.vmResources info.vmResourceId).isNone then
    throw (.keyError info.vmResourceId)
  if info.vmConfiguratorId ∉ s.own.vmConfigurators then
    throw (.keyError info.vmConfiguratorId)
  set { s with
    vmResources := KeyedList.erase VmResource.id s.vmResources info.vmResourceId
    own := { s.own with vmConfigurators := s.own.vmConfigurators.erase info.vmConfiguratorId } }
  return info

/-- One DNN of the configuration. -/
def deployDnn (config : UPFBlueCreateModel) (dnn : Option String) : UpfM SdCoreUpfOwn Unit := do
  let s ← get
  if (KeyedList.toMap Prod.fst s.own.currentlyDeployedDnns dnn).isNone then do
    let info ← deployUpfVm provider config dnn
    modify (fun s => { s with
      upfList := s.upfList ++ [info]
      own := { s.own with currentlyDeployedDnns := s.own.currentlyDeployedDnns ++ [(dnn, info)] } })

/-- One DNN that left the configuration. -/
def undeployDnn (dnn : Option String) : UpfM SdCoreUpfOwn Unit := do
  let info ← undeployUpfVm dnn
  let s ← get
  if info ∉ s.upfList then
    throw (.valueError "list.remove(x): x not in list")
  set { s with
    upfList := s.upfList.erase info
    own := { s.own with currentlyDeployedDnns := KeyedList.erase Prod.fst s.own.currentlyDeployedDnns dnn } }

def updateDeployments (config : UPFBlueCreateModel) : UpfM SdCoreUpfOwn Unit := do
  forM (provider.order (dnnsToDeploy config)) (deployDnn provider config)
  let s ← get
  let toUndeploy := (s.own.currentlyDeployedDnns.map Prod.fst).filter (fun dnn => decide (dnn ∉ dnnsToDeploy config))
  forM (provider.order toUndeploy) undeployDnn

end SdCoreUPF

/-! ### The blueprints -/

inductive UpfKind where
  | oai | free5gc | sdcore
  deriving DecidableEq, Repr

/-- A UPF blueprint of one of the implementations. -/
inductive UpfBlueprint where
  | oai (state : UpfState OAIUpfOwn)
  | free5gc (state : UpfState Free5gcUpfOwn)
  | sdcore (state : UpfState SdCoreUpfOwn)

/-- What a program of a blueprint leaves and raises. -/
def UpfState.leaves (wrap : UpfState χ → UpfBlueprint) (m : UpfM χ Unit) (s : UpfState χ) : UpfBlueprint × Option PyError :=
  match m.run s with
  | .ok _ s' => (wrap s', none)
  | .error e s' => (wrap s', some e)

namespace UpfBlueprint

variable (provider : VmProvider)

def create (kind : UpfKind) (model : UPFBlueCreateModel) : UpfBlueprint × Option PyError :=
  match kind with
  | .oai => leaves .oai (UpfState.create (OpenAirInterfaceUpf.createUpf provider) model) { own := {} }
  | .free5gc => leaves .free5gc (UpfState.create (Free5GCUpf.createUpf provider) model) { own := {} }
  | .sdcore => leaves .sdcore (UpfState.create (SdCoreUPF.updateDeployments provider) model) { own := {} }

def update (model : UPFBlueCreateModel) : UpfBlueprint → UpfBlueprint × Option PyError
  | .oai s => leaves .oai (UpfState.update OpenAirInterfaceUpf.updateUpf model) s
  | .free5gc s => leaves .free5gc (UpfState.update Free5GCUpf.updateUpf model) s
  | .sdcore s => leaves .sdcore (UpfState.update (SdCoreUPF.updateDeployments provider) model) s

def getUpfsInfo : UpfBlueprint → List DeployedUPFInfo
  | .oai s => s.upfList
  | .free5gc s => s.upfList
  | .sdcore s => s.upfList

end UpfBlueprint

end Nfvcl
