import Mathlib.Data.List.Basic
import Nfvcl.UpfBlueprints

namespace Nfvcl
set_option autoImplicit true
open Effects

/-! ### References in a saved blueprint -/

/-- `text.startswith('REF=')`. -/
def isRef (text : String) : Bool :=
  "REF=".toList.isPrefixOf text.toList

def ref (id : String) : String := s!"REF={id}"

/-- The characters before the next `REF=`. -/
def beforeRef : List Char → List Char
  | [] => []
  | c :: cs => if "REF=".toList.isPrefixOf (c :: cs) then [] else c :: beforeRef cs

/-- `text.split("REF=")[1]` of a text that starts with `REF=`. -/
def refId (text : String) : String :=
  String.ofList (beforeRef (text.toList.drop 4))

/-! ### An SD-Core UPF blueprint with its registered resources -/

inductive UpfResource where
  | vm (vm : VmResource)
  | configurator (vm : VmResource) (configuration : SDCoreUPFConfiguration)

/-- What a blueprint finds outside: VIMs for areas, machines attached to the networks they were asked for and
to no others, `uuid4` ids, and sets in some order. -/
structure UpfHost extends VmProvider where
  hasVim : Int → Bool
  unattached : ∀ n vm network, network ∉ vm.getAllConnectedNetworkNames → interfaces n vm network = none
  uuid_plain : ∀ n, beforeRef (uuid n).toList = (uuid n).toList
  networkOrder : List String → List String := fun networks => networks
  networkOrder_perm : ∀ networks, (networkOrder networks).Perm networks := by intro networks; exact .refl networks

structure SdCoreUpfBlueprint where
  upf : UpfState SdCoreUpfOwn := { own := {} }
  /-- A dictionary from the ids. -/
  registeredResources : List (String × UpfResource) := []

abbrev SdCoreUpfM := EStateM PyError SdCoreUpfBlueprint

namespace SdCoreUpfBlueprint

def onUpf (m : UpfM SdCoreUpfOwn α) : SdCoreUpfM α :=
  zoom SdCoreUpfBlueprint.upf (fun upf s => { s with upf := upf }) m

/-- `registered_resources[id] = …` for a new id. -/
def keep (id : String) (resource : UpfResource) : SdCoreUpfM Unit :=
  modify (fun s => { s with registeredResources := s.registeredResources ++ [(id, resource)] })

def deregisterResourceById (id : String) : SdCoreUpfM Unit := do
  let s ← get
  if id ∈ s.registeredResources.map Prod.fst then
    set { s with registeredResources := KeyedList.erase Prod.fst s.registeredResources id }
  else throw (.blueprintNG "The resource to be deleted is not present in registered resources")

section Deployments

variable (host : UpfHost)

def checkVim (area : Int) : SdCoreUpfM Unit :=
  if host.hasVim area then pure ()
  else throw (.blueprintNG "Unable to register resource, the area has no associated VIM")

def deployUpfVm (config : UPFBlueCreateModel) (dnn : Option String) : SdCoreUpfM DeployedUPFInfo := do
  checkVim host config.areaId
  let vm ← onUpf (UpfState.createVm host.toVmProvider config (s!"{config.areaId}_SDCORE_UPF_" ++ dnn.getD "None") true)
  keep vm.id (.vm vm)
  let configuration ← Generic5G.liftExcept (SdCoreUPF.newConfiguration config vm dnn)
  let configuratorId ← onUpf (UpfState.registerResource host.toVmProvider)
  keep configuratorId (.configurator vm configuration)
  onUpf (UpfState.configureVm vm (.sdcore configuration))
  onUpf (UpfState.storeVm vm)
  onUpf (modify (fun s => { s with own := { s.own with vmConfigurators := s.own.vmConfigurators ++ [configuratorId] } }))
  let created ← onUpf UpfState.createdWith
  Generic5G.liftExcept (UpfState.deployedInfo config (SdCoreUPF.getSlicesForDnn config dnn) created.networks vm configuratorId)

def undeployUpfVm (dnn : Option String) : SdCoreUpfM DeployedUPFInfo := do
  let info ← onUpf (SdCoreUPF.deployedDnn dnn)
  let s ← get
  if (KeyedList.toMap VmResource.id s.upf.vmResources info.vmResourceId).isNone then throw (.keyError info.vmResourceId)
  else
    deregisterResourceById info.vmResourceId
    deregisterResourceById info.vmConfiguratorId
    onUpf (modify (fun s => { s with vmResources := KeyedList.erase VmResource.id s.vmResources info.vmResourceId }))
    if info.vmConfiguratorId ∉ s.upf.own.vmConfigurators then throw (.keyError info.vmConfiguratorId)
    else
      onUpf (modify (fun s => { s with own := { s.own with vmConfigurators := s.own.vmConfigurators.erase info.vmConfiguratorId } }))
      return info

/-- One DNN of the configuration. -/
def deployDnn (config : UPFBlueCreateModel) (dnn : Option String) : SdCoreUpfM Unit := do
  let s ← get
  if (KeyedList.toMap Prod.fst s.upf.own.currentlyDeployedDnns dnn).isNone then
    let info ← deployUpfVm host config dnn
    onUpf (modify (fun s => { s with
      upfList := s.upfList ++ [info]
      own := { s.own with currentlyDeployedDnns := s.own.currentlyDeployedDnns ++ [(dnn, info)] } }))
  else pure ()

/-- One DNN that left the configuration. -/
def undeployDnn (dnn : Option String) : SdCoreUpfM Unit := do
  let info ← undeployUpfVm dnn
  let s ← get
  if info ∉ s.upf.upfList then throw (.valueError "list.remove(x): x not in list")
  else
    onUpf (modify (fun s => { s with
      upfList := s.upfList.erase info
      own := { s.own with currentlyDeployedDnns := KeyedList.erase Prod.fst s.own.currentlyDeployedDnns dnn } }))

theorem lawful_dnns : LawfulBEq (Option String) := inferInstance

attribute [local instance] lawful_dnns in
def updateDeployments (config : UPFBlueCreateModel) : SdCoreUpfM Unit := do
  forM (host.order (SdCoreUPF.dnnsToDeploy config)) (deployDnn host config)
  let s ← get
  let toUndeploy := (s.upf.own.currentlyDeployedDnns.map Prod.fst).filter (fun dnn => decide (dnn ∉ SdCoreUPF.dnnsToDeploy config))
  forM (host.order toUndeploy) undeployDnn

def create (createModel : UPFBlueCreateModel) : SdCoreUpfM Unit := do
  onUpf (modify (fun s => { s with createConfig := some createModel, currentConfig := some createModel }))
  updateDeployments host createModel

def update (createModel : UPFBlueCreateModel) : SdCoreUpfM Unit := do
  onUpf (modify (fun s => { s with currentConfig := some createModel }))
  updateDeployments host createModel

end Deployments

end SdCoreUpfBlueprint

/-! ### Saving and reading back -/

/-- A registered resource in the database: a configurator has a reference to its machine. -/
inductive SavedResource where
  | vm (vm : VmResource)
  | configurator (vm : String) (configuration : SDCoreUPFConfiguration)

/-- The contents of the database: what holds resources has references. -/
structure SavedUpf where
  createConfig : Option UPFBlueCreateModel
  currentConfig : Option UPFBlueCreateModel
  upfList : List DeployedUPFInfo
  currentlyDeployedDnns : List (Option String × DeployedUPFInfo)
  vmResources : List (String × String)
  vmConfigurators : List (String × String)
  registeredResources : List (String × SavedResource)

namespace SdCoreUPF

def servedDnns (infos : List DeployedUPFInfo) : List String :=
  (infos.flatMap DeployedUPFInfo.servedSlices).flatMap (fun slice => slice.dnnList.flatMap (fun dnn => dnn.name.toList ++ dnn.cidr.toList))

def configDnns (config : UPFBlueCreateModel) : List String :=
  config.slices.flatMap (fun slice => slice.dnnList.flatMap (fun dnn => dnn.name.toList ++ dnn.cidr.toList))

def infoIds (infos : List DeployedUPFInfo) : List String :=
  infos.flatMap (fun info => [info.vmResourceId, info.vmConfiguratorId])

/-- The texts of a configuration that a request or a VIM decides. -/
def configurationTexts (configuration : SDCoreUPFConfiguration) : List String :=
  [configuration.n3NicName, configuration.n6NicName, configuration.n3NicMac, configuration.n6NicMac, configuration.dnn,
    configuration.ueIpPoolCidr]

/-- The texts of a state, those in the depth first; its references to resources are apart. -/
def stateTexts (config : List UPFBlueCreateModel) (infos : List DeployedUPFInfo) : List String :=
  servedDnns infos ++ config.flatMap configDnns ++ (infos.flatMap DeployedUPFInfo.servedSlices).map SliceModel.id ++
    config.flatMap (fun config => config.slices.map SliceModel.id) ++
    config.flatMap (fun config => [config.networks.mgt, config.networks.n4, config.networks.n3, config.networks.n6]) ++
    infoIds infos

end SdCoreUPF

def SavedUpf.stateTexts (saved : SavedUpf) : List String :=
  SdCoreUPF.stateTexts saved.currentConfig.toList (saved.upfList ++ saved.currentlyDeployedDnns.map Prod.snd)

namespace SdCoreUpfBlueprint

/-- A resource becomes a reference if it is registered; the blueprint is marked as corrupted if not. -/
def reference (registered : List String) (id : String) : Except PyError String :=
  if id ∈ registered then .ok (ref id) else .error (.blueprintNG s!"Resource {id} not registered")

def saveResource (registered : List String) : String × UpfResource → Except PyError (String × SavedResource)
  | (id, .vm vm) => .ok (id, .vm vm)
  | (id, .configurator vm configuration) => do
    let vm ← reference registered vm.id
    return (id, .configurator vm configuration)

def serializeContent (s : SdCoreUpfBlueprint) : Except PyError SavedUpf := do
  let registered := s.registeredResources.map Prod.fst
  let vms ← s.upf.vmResources.mapM (fun vm => do return (vm.id, ← reference registered vm.id))
  let configurators ← s.upf.own.vmConfigurators.mapM (fun id => do return (id, ← reference registered id))
  let resources ← s.registeredResources.mapM (saveResource registered)
  return {
    createConfig := s.upf.createConfig
    currentConfig := s.upf.currentConfig
    upfList := s.upf.upfList
    currentlyDeployedDnns := s.upf.own.currentlyDeployedDnns
    vmResources := vms
    vmConfigurators := configurators
    registeredResources := resources }

section Loading

variable (host : UpfHost)

/-- `register_resource` of a resource that has an id. -/
def register (id : String) (resource : UpfResource) : SdCoreUpfM Unit := do
  let s ← get
  if id ∈ s.registeredResources.map Prod.fst then throw (.blueprintNG "Already registered")
  else keep id resource

def resolve (text : String) : SdCoreUpfM UpfResource := do
  let s ← get
  match KeyedList.toMap Prod.fst s.registeredResources (refId text) with
  | some (_, resource) => return resource
  | none => throw (.keyError (refId text))

/-- Every text that looks like a reference is resolved. -/
def resolveTexts (texts : List String) : SdCoreUpfM Unit :=
  forM (texts.filter isRef) (fun text => do
    let _ ← resolve text
    return ())

/-- The networks of a machine go through a set again. -/
def reloadedVm (vm : VmResource) : VmResource :=
  { vm with additionalNetworks := host.networkOrder vm.additionalNetworks }

/-- The first pass: what is deployable. -/
def registerDeployable : String × SavedResource → SdCoreUpfM Unit
  | (id, .vm vm) => do
    let s ← get
    if id ∈ s.registeredResources.map Prod.fst then throw (.blueprintNG "Already registered")
    else
      checkVim host vm.area
      keep id (.vm (reloadedVm host vm))
  | (_, .configurator _ _) => pure ()

/-- The second pass: a configurator gets the machine that was registered. -/
def registerConfiguration : String × SavedResource → SdCoreUpfM Unit
  | (_, .vm _) => pure ()
  | (id, .configurator text configuration) => do
    resolveTexts (SdCoreUPF.configurationTexts configuration)
    let found ← resolve text
    match found with
    | .configurator _ _ => throw (.validationError "vm_resource")
    | .vm vm =>
      if (SdCoreUPF.configurationTexts configuration).any isRef then throw (.validationError "configuration")
      else register id (.configurator vm configuration)

/-- The machines among resources, unless there are others. -/
def machines : List UpfResource → Option (List VmResource)
  | [] => some []
  | .vm vm :: rest => (machines rest).map (vm :: ·)
  | .configurator _ _ :: _ => none

def areConfigurators : List UpfResource → Bool
  | [] => true
  | .vm _ :: _ => false
  | .configurator _ _ :: rest => areConfigurators rest

/-- The state, its references resolved; a state that pydantic refuses stays empty. -/
def loadState (saved : SavedUpf) : SdCoreUpfM Unit := do
  resolveTexts saved.stateTexts
  let vms ← saved.vmResources.mapM (fun p => resolve p.2)
  let configurators ← saved.vmConfigurators.mapM (fun p => resolve p.2)
  match machines vms with
  | none => pure ()
  | some vms =>
    if saved.stateTexts.any isRef ∨ areConfigurators configurators = false then pure ()
    else onUpf (modify (fun s => { s with
      currentConfig := saved.currentConfig
      upfList := saved.upfList
      vmResources := vms
      own := ⟨saved.vmConfigurators.map Prod.fst, saved.currentlyDeployedDnns⟩ }))

/-- `to_db` and `from_db`. -/
def reload : SdCoreUpfM Unit := do
  let s ← get
  let saved ← Generic5G.liftExcept (serializeContent s)
  set ({ upf := { createConfig := saved.createConfig, registered := s.upf.registered, configured := s.upf.configured, own := {} } } :
    SdCoreUpfBlueprint)
  forM saved.registeredResources (registerDeployable host)
  forM saved.registeredResources registerConfiguration
  loadState saved

end Loading

end SdCoreUpfBlueprint

inductive SdCoreUpfStep where
  | create (model : UPFBlueCreateModel)
  | update (model : UPFBlueCreateModel)
  /-- The blueprint is saved and read back. -/
  | reload

def SdCoreUpfStep.exec (host : UpfHost) : SdCoreUpfStep → SdCoreUpfM Unit
  | .create model => SdCoreUpfBlueprint.create host model
  | .update model => SdCoreUpfBlueprint.update host model
  | .reload => SdCoreUpfBlueprint.reload host

end Nfvcl
