import Mathlib.Data.List.Basic
import Nfvcl.BlueprintSerialization
import Nfvcl.KeyedList
import Nfvcl.PyInt

namespace Nfvcl
set_option autoImplicit true
open Effects KeyedTrees

structure UeransimNetworkEndpoints where
  mgt : String
  n2 : String
  n3 : String
  deriving DecidableEq, Repr

structure UeransimSim where
  imsi : String
  plmn : String
  key : String
  op : String
  amf : Option String := none
  deriving DecidableEq, Repr

/-- A UE of a request; both fields are `None` if they are not given. -/
structure UeransimUe where
  id : Option Int := none
  sims : Option (List UeransimSim) := none
  deriving DecidableEq, Repr

structure UeransimArea where
  id : Int
  ues : List UeransimUe
  deriving DecidableEq, Repr

structure Ueransim.GNBPDUSlice where
  sst : Int
  sd : Int
  deriving DecidableEq, Repr

/-- A route of the Linux kernel. -/
structure LinuxRoute where
  networkCidr : String
  nextHop : String
  device : Option String := none
  deriving DecidableEq, Repr

structure Ueransim.GNBPDUConfigure where
  area : Int
  plmn : String
  tac : Int
  amfIp : String
  upfIp : String
  amfPort : Int
  nssai : List Ueransim.GNBPDUSlice
  additionalRoutes : Option (List LinuxRoute) := some []
  deriving DecidableEq, Repr

/-- A `NetResource` with the id that `register_resource` gives it. -/
structure UeransimNet where
  area : Int
  name : String
  cidr : String
  id : Nat
  deriving DecidableEq, Repr

structure UeransimVm where
  area : Int
  name : String
  id : Nat
  deriving DecidableEq, Repr

structure UeransimGNBConfigurator where
  vmResource : UeransimVm
  configuration : Ueransim.GNBPDUConfigure
  radioAddr : String
  ngapAddr : String
  gtpAddr : String
  n3NicName : String
  additionalRoutes : Option (List LinuxRoute)
  id : Nat
  deriving DecidableEq, Repr

structure UeransimUEConfigurator where
  vmResource : UeransimVm
  sims : List UeransimSim
  gnbSearchList : List String
  simsToDelete : List UeransimSim := []
  id : Nat
  deriving DecidableEq, Repr

inductive UeransimResource where
  | net (network : UeransimNet)
  | vm (machine : UeransimVm)
  | gnbConfigurator (configurator : UeransimGNBConfigurator)
  | ueConfigurator (configurator : UeransimUEConfigurator)
  deriving DecidableEq, Repr

structure BlueUeransimUe where
  ueId : String
  vmUe : UeransimVm
  vmUeConfigurator : UeransimUEConfigurator
  deriving DecidableEq, Repr

structure BlueUeransimArea where
  vmGnb : UeransimVm
  vmGnbConfigurator : Option UeransimGNBConfigurator := none
  ues : List BlueUeransimUe := []
  radioNet : UeransimNet
  deriving DecidableEq, Repr

namespace UeransimResource

def id : UeransimResource → Nat
  | .net network => network.id
  | .vm machine => machine.id
  | .gnbConfigurator configurator => configurator.id
  | .ueConfigurator configurator => configurator.id

/-- The area of the resource, for a configurator that of its VM. -/
def area : UeransimResource → Int
  | .net network => network.area
  | .vm machine => machine.area
  | .gnbConfigurator configurator => configurator.vmResource.area
  | .ueConfigurator configurator => configurator.vmResource.area

/-- The resource after its configurator of a UE has changed. -/
def write (configurator : UeransimUEConfigurator) : UeransimResource → UeransimResource
  | .ueConfigurator old => .ueConfigurator (if old.id = configurator.id then configurator else old)
  | r => r

end UeransimResource

namespace BlueUeransimArea

def write (configurator : UeransimUEConfigurator) (area : BlueUeransimArea) : BlueUeransimArea :=
  { area with
    ues := area.ues.map (fun ue =>
      { ue with vmUeConfigurator := if ue.vmUeConfigurator.id = configurator.id then configurator else ue.vmUeConfigurator }) }

end BlueUeransimArea

/-- The state of a UERANSIM blueprint and its registered resources. -/
structure UeransimBlueprint where
  areas : List (String × BlueUeransimArea) := []
  registeredResources : List UeransimResource := []
  /-- How many ids were given. -/
  ids : Nat := 0
  /-- How many steps that can raise were made. -/
  steps : Nat := 0
  unique : KeyedList.Unique Prod.fst areas := by exact List.nodup_nil
  deriving DecidableEq

abbrev UeransimM := EStateM PyError UeransimBlueprint

/-- The first address of a VM on a network. -/
structure InterfaceAddress where
  ip : String
  interfaceName : String
  deriving DecidableEq, Repr

/-- What the blueprint calls: the provider and the topology. -/
structure UeransimServices where
  /-- What the calls raise, in the order they are made. -/
  raises : Nat → Option PyError
  /-- The area has a VIM when so many calls were made. -/
  hasVim : Nat → Int → Bool
  /-- `network_interfaces` of the VM with the id. -/
  networkInterfaces : Nat → List (String × List InterfaceAddress)

namespace UeransimBlueprint

def area (s : UeransimBlueprint) (areaId : String) : Option BlueUeransimArea :=
  (KeyedList.toMap Prod.fst s.areas areaId).map Prod.snd

/-- `self.state.areas[area_id] = area`. -/
def putArea (s : UeransimBlueprint) (areaId : String) (area : BlueUeransimArea) : UeransimBlueprint :=
  match h : KeyedList.toMap Prod.fst s.areas areaId with
  | some _ => { s with
      areas := KeyedList.replace Prod.fst s.areas (areaId, area)
      unique := s.unique.replace (areaId, area) }
  | none => { s with
      areas := s.areas ++ [(areaId, area)]
      unique := s.unique.append h }

def delArea (s : UeransimBlueprint) (areaId : String) : UeransimBlueprint :=
  { s with
    areas := KeyedList.erase Prod.fst s.areas areaId
    unique := s.unique.erase areaId }

theorem unique_write (s : UeransimBlueprint) (configurator : UeransimUEConfigurator) :
    KeyedList.Unique Prod.fst (s.areas.map (fun p => (p.1, p.2.write configurator))) := by
  unfold KeyedList.Unique
  rw [List.map_map]
  exact s.unique

/-- A configurator of a UE changes. It is one object in the state and among the registered resources. -/
def write (s : UeransimBlueprint) (configurator : UeransimUEConfigurator) : UeransimBlueprint :=
  { s with
    areas := s.areas.map (fun p => (p.1, p.2.write configurator))
    registeredResources := s.registeredResources.map (UeransimResource.write configurator)
    unique := s.unique_write configurator }

def newId : UeransimM Nat := do
  let s ← get
  set { s with ids := s.ids + 1 }
  return s.ids

def deregisterResource (id : Nat) : UeransimM Unit := do
  let s ← get
  if id ∈ s.registeredResources.map UeransimResource.id then
    set { s with registeredResources := s.registeredResources.filter (fun r => decide (r.id ≠ id)) }
  else throw (.blueprintNG "The resource to be deleted is not present in registered resources")

section Calls

variable (w : UeransimServices)

/-- A call of the provider or of the topology. -/
def attempt : UeransimM Unit := do
  let s ← get
  set { s with steps := s.steps + 1 }
  outcome (w.raises s.steps)

def registerResource (r : UeransimResource) : UeransimM Unit := do
  let s ← get
  if r.id ∈ s.registeredResources.map UeransimResource.id then throw (.blueprintNG "Already registered")
  match r with
  | .net net => checkVim s net.area
  | .vm vm => checkVim s vm.area
  | _ => pure ()
  modify (fun s => { s with registeredResources := s.registeredResources ++ [r] })
where
  checkVim (s : UeransimBlueprint) (area : Int) : UeransimM Unit :=
    if w.hasVim s.steps area then pure ()
    else throw (.blueprintNG "Unable to register resource, the area has no associated VIM")

/-- `vm.network_interfaces[network][0].fixed`. -/
def interfaceAddress (vm : UeransimVm) (network : String) : UeransimM InterfaceAddress :=
  match (w.networkInterfaces vm.id).lookup network with
  | none => throw (.keyError network)
  | some [] => throw (.indexError "list index out of range")
  | some (address :: _) => pure address

def parsedArea (areaId : String) : UeransimM Int :=
  match PyInt.parse areaId with
  | .ok n => pure n
  | .error e => throw e

/-- The playbook of a UE's configurator is dumped before the VM is reached, which clears the SIMs to delete. -/
def configureUe (configurator : UeransimUEConfigurator) : UeransimM Unit := do
  modify (fun s => s.write { configurator with simsToDelete := [] })
  attempt w

variable (id : String)

def radioNetworkName (areaId : String) : String := s!"radio_{id}_{areaId}"

def createGnb (areaId : String) : UeransimM Unit := do
  match (← get).area areaId with
  | some _ => throw (.blueprintNG s!"GnB already exists in area {areaId}")
  | none =>
    let areaNumber ← parsedArea areaId
    let netId ← newId
    let network : UeransimNet := ⟨areaNumber, radioNetworkName id areaId, s!"10.168.{areaId}.0/24", netId⟩
    registerResource w (.net network)
    attempt w
    let vmId ← newId
    let vmGnb : UeransimVm := ⟨areaNumber, s!"{id}_{areaId}_GNB", vmId⟩
    registerResource w (.vm vmGnb)
    attempt w
    modify (fun s => s.putArea areaId { vmGnb := vmGnb, radioNet := network })
    attempt w

/-- `str(ue.id)`. -/
def ueText : Option Int → String
  | some n => toString n
  | none => "None"

def createUe (areaId : String) (ue : UeransimUe) : UeransimM Unit := do
  match (← get).area areaId with
  | none => throw (.blueprintNG s!"Gnb in area {areaId} not found")
  | some blueUeransimArea =>
    let areaNumber ← parsedArea areaId
    let vmId ← newId
    let vmUe : UeransimVm := ⟨areaNumber, s!"{id}_{areaId}_UE_{ueText ue.id}", vmId⟩
    registerResource w (.vm vmUe)
    attempt w
    let address ← interfaceAddress w blueUeransimArea.vmGnb (radioNetworkName id areaId)
    match ue.sims with
    | none => throw (.typeError "'NoneType' object is not iterable")
    | some sims =>
      let configuratorId ← newId
      let configurator : UeransimUEConfigurator := { vmResource := vmUe, sims, gnbSearchList := [address.ip], id := configuratorId }
      registerResource w (.ueConfigurator configurator)
      configureUe w configurator
      modify (fun s => s.putArea areaId { blueUeransimArea with
        ues := blueUeransimArea.ues ++ [⟨ueText ue.id, vmUe, configurator⟩] })

def createArea (area : UeransimArea) : UeransimM Unit := do
  createGnb w id (toString area.id)
  forM area.ues (createUe w id (toString area.id))

def create (areas : List UeransimArea) : UeransimM Unit :=
  forM areas (createArea w id)

def deregisterUe (ue : BlueUeransimUe) : UeransimM Unit := do
  attempt w
  deregisterResource ue.vmUe.id
  deregisterResource ue.vmUeConfigurator.id

/-- The radio network stays registered. The deletion of the PDU does not raise. -/
def deleteGnb (areaId : String) : UeransimM Unit := do
  match (← get).area areaId with
  | none => throw (.blueprintNG s!"No Gnb found in area {areaId}")
  | some area =>
    forM area.ues (deregisterUe w)
    attempt w
    deregisterResource area.vmGnb.id
    match area.vmGnbConfigurator with
    | some configurator => deregisterResource configurator.id
    | none => pure ()
    modify (fun s => s.delArea areaId)
    let _ ← parsedArea areaId

/-- One round of the loop in `_delete_ue`, which raises at the first UE with another id. -/
def deleteListedUe (areaId : String) (ueId : Int) (ue : BlueUeransimUe) : UeransimM Unit := do
  if ue.ueId = toString ueId then
    deregisterUe w ue
    match (← get).area areaId with
    | none => throw (.keyError areaId)
    | some area => modify (fun s => s.putArea areaId { area with ues := area.ues.erase ue })
  else throw (.blueprintNG s!"No UE found in area {areaId} with id {ueId}")

def deleteUe (areaId : String) (ueId : Int) : UeransimM Unit := do
  match (← get).area areaId with
  | none => throw (.blueprintNG s!"No Gnb found in area {areaId}")
  | some area => forM area.ues (deleteListedUe w areaId ueId)

def addSimToUe (ueId : Int) (newSim : UeransimSim) (ue : BlueUeransimUe) : UeransimM Unit := do
  if ue.ueId = toString ueId then
    if ue.vmUeConfigurator.sims.any (fun sim => decide (sim.imsi = newSim.imsi)) then
      throw (.blueprintNG s!"Sim {newSim.imsi} already exists")
    let configurator := { ue.vmUeConfigurator with sims := ue.vmUeConfigurator.sims ++ [newSim] }
    modify (fun s => s.write configurator)
    configureUe w configurator

def addSim (areaId : String) (ueId : Int) (newSim : UeransimSim) : UeransimM Unit := do
  match (← get).area areaId with
  | none => throw (.keyError areaId)
  | some area => forM area.ues (addSimToUe w ueId newSim)

/-- The first UE with the id, and its first SIM with the number. -/
def delSim (areaId : String) (ueId : Int) (imsi : String) : UeransimM Unit := do
  match (← get).area areaId with
  | none => throw (.keyError areaId)
  | some area =>
    match area.ues.find? (fun ue => decide (ue.ueId = toString ueId)) with
    | none => pure ()
    | some ue =>
      match ue.vmUeConfigurator.sims.find? (fun sim => decide (sim.imsi = imsi)) with
      | none => throw (.blueprintNG s!"Sim with imsi {imsi} does not exist")
      | some sim =>
        let configurator := { ue.vmUeConfigurator with
          simsToDelete := ue.vmUeConfigurator.simsToDelete ++ [sim]
          sims := ue.vmUeConfigurator.sims.erase sim }
        modify (fun s => s.write configurator)
        configureUe w configurator

variable (endpoints : UeransimNetworkEndpoints)

/-- A configurator that the area had before stays registered. -/
def configureGnb (model : Ueransim.GNBPDUConfigure) : UeransimM Unit := do
  let areaId := toString model.area
  match (← get).area areaId with
  | none => throw (.keyError areaId)
  | some area =>
    let radio ← interfaceAddress w area.vmGnb area.radioNet.name
    let ngap ← interfaceAddress w area.vmGnb endpoints.n2
    let gtp ← interfaceAddress w area.vmGnb endpoints.n3
    let configuratorId ← newId
    let configurator : UeransimGNBConfigurator :=
      ⟨area.vmGnb, model, radio.ip, ngap.ip, gtp.ip, gtp.interfaceName, model.additionalRoutes, configuratorId⟩
    modify (fun s => s.putArea areaId { area with vmGnbConfigurator := some configurator })
    registerResource w (.gnbConfigurator configurator)
    attempt w

end Calls

end UeransimBlueprint

/-! ### The content that is serialised -/

def UeransimNet.toPy (net : UeransimNet) : PyObj :=
  .resource .deployable (toString net.id) [("area", .int net.area), ("name", .str net.name), ("cidr", .str net.cidr)]

def UeransimVm.toPy (vm : UeransimVm) : PyObj :=
  .resource .deployable (toString vm.id) [("area", .int vm.area), ("name", .str vm.name)]

def UeransimSim.toPy (sim : UeransimSim) : PyObj :=
  .object .model [("imsi", .str sim.imsi), ("plmn", .str sim.plmn), ("key", .str sim.key), ("op", .str sim.op),
    ("amf", .optional .str sim.amf)]

def LinuxRoute.toPy (route : LinuxRoute) : PyObj :=
  .object .model [("network_cidr", .str route.networkCidr), ("next_hop", .str route.nextHop), ("device", .optional .str route.device)]

def Ueransim.GNBPDUSlice.toPy (slice : Ueransim.GNBPDUSlice) : PyObj :=
  .object .model [("sst", .int slice.sst), ("sd", .int slice.sd)]

def LinuxRoute.routesToPy : Option (List LinuxRoute) → PyObj :=
  .optional (fun routes => .list (routes.map LinuxRoute.toPy))

def Ueransim.GNBPDUConfigure.toPy (model : Ueransim.GNBPDUConfigure) : PyObj :=
  .object .model [("area", .int model.area), ("plmn", .str model.plmn), ("tac", .int model.tac), ("amf_ip", .str model.amfIp),
    ("upf_ip", .str model.upfIp), ("amf_port", .int model.amfPort), ("nssai", .list (model.nssai.map Ueransim.GNBPDUSlice.toPy)),
    ("additional_routes", LinuxRoute.routesToPy model.additionalRoutes)]

def UeransimGNBConfigurator.toPy (configurator : UeransimGNBConfigurator) : PyObj :=
  .resource .configuration (toString configurator.id) [("vm_resource", configurator.vmResource.toPy),
    ("configuration", configurator.configuration.toPy), ("radio_addr", .str configurator.radioAddr),
    ("ngap_addr", .str configurator.ngapAddr), ("gtp_addr", .str configurator.gtpAddr),
    ("n3_nic_name", .str configurator.n3NicName), ("additional_routes", LinuxRoute.routesToPy configurator.additionalRoutes)]

def UeransimUEConfigurator.toPy (configurator : UeransimUEConfigurator) : PyObj :=
  .resource .configuration (toString configurator.id) [("vm_resource", configurator.vmResource.toPy),
    ("sims", .list (configurator.sims.map UeransimSim.toPy)),
    ("gnbSearchList", .list (configurator.gnbSearchList.map .str)),
    ("sims_to_delete", .list (configurator.simsToDelete.map UeransimSim.toPy))]

def UeransimResource.toPy : UeransimResource → PyObj
  | .net network => network.toPy
  | .vm machine => machine.toPy
  | .gnbConfigurator configurator => configurator.toPy
  | .ueConfigurator configurator => configurator.toPy

def BlueUeransimUe.toPy (ue : BlueUeransimUe) : PyObj :=
  .object .model [("ue_id", .str ue.ueId), ("vm_ue", ue.vmUe.toPy), ("vm_ue_configurator", ue.vmUeConfigurator.toPy)]

def BlueUeransimArea.toPy (area : BlueUeransimArea) : PyObj :=
  .object .model [("vm_gnb", area.vmGnb.toPy), ("vm_gnb_configurator", .optional UeransimGNBConfigurator.toPy area.vmGnbConfigurator),
    ("ues", .list (area.ues.map BlueUeransimUe.toPy)), ("radio_net", area.radioNet.toPy)]

def UeransimBlueprint.stateToPy (s : UeransimBlueprint) : PyObj :=
  .object .model [("areas", .object .dict (s.areas.map (fun p => (p.1, p.2.toPy))))]

section Shapes
open PyObj

variable {P : PyObj → Prop}

theorem UeransimNet.shaped {net : UeransimNet} (h : P net.toPy) : Shaped P net.toPy := by
  refine shaped_object (by simp) (fun _ => h) ?_
  simp only [List.forall_mem_cons, shaped_int, shaped_str, List.not_mem_nil, false_imp_iff, implies_true, and_self]

theorem UeransimVm.shaped {vm : UeransimVm} (h : P vm.toPy) : Shaped P vm.toPy := by
  refine shaped_object (by simp) (fun _ => h) ?_
  simp only [List.forall_mem_cons, shaped_int, shaped_str, List.not_mem_nil, false_imp_iff, implies_true, and_self]

theorem shaped_listMap {xs : List α} {f : α → PyObj} (h : ∀ x ∈ xs, Shaped P (f x)) : Shaped P (.list (xs.map f)) := by
  refine shaped_list ?_
  intro y hy
  obtain ⟨x, hx, rfl⟩ := List.mem_map.1 hy
  exact h x hx

theorem UeransimSim.shaped (sim : UeransimSim) : Shaped P sim.toPy := by
  refine shaped_object (by simp) (fun hl => (nomatch hl)) ?_
  simp only [List.forall_mem_cons, shaped_str, List.not_mem_nil, false_imp_iff, implies_true, and_true, true_and]
  exact shaped_optional (fun a _ => shaped_str a)

theorem LinuxRoute.shaped (route : LinuxRoute) : Shaped P route.toPy := by
  refine shaped_object (by simp) (fun hl => (nomatch hl)) ?_
  simp only [List.forall_mem_cons, shaped_str, List.not_mem_nil, false_imp_iff, implies_true, and_true, true_and]
  exact shaped_optional (fun a _ => shaped_str a)

theorem LinuxRoute.shaped_routes (routes : Option (List LinuxRoute)) : Shaped P (LinuxRoute.routesToPy routes) :=
  shaped_optional (fun _ _ => shaped_listMap (fun route _ => route.shaped))

theorem Ueransim.GNBPDUSlice.shaped (slice : Ueransim.GNBPDUSlice) : Shaped P slice.toPy := by
  refine shaped_object (by simp) (fun hl => (nomatch hl)) ?_
  simp only [List.forall_mem_cons, shaped_int, List.not_mem_nil, false_imp_iff, implies_true, and_self]

theorem Ueransim.GNBPDUConfigure.shaped (model : Ueransim.GNBPDUConfigure) : Shaped P model.toPy := by
  refine shaped_object (by simp) (fun hl => (nomatch hl)) ?_
  simp only [List.forall_mem_cons, shaped_int, shaped_str, List.not_mem_nil, false_imp_iff, implies_true, and_true, true_and]
  exact ⟨shaped_listMap (fun slice _ => slice.shaped), LinuxRoute.shaped_routes _⟩

theorem UeransimGNBConfigurator.shaped {configurator : UeransimGNBConfigurator} (h : P configurator.toPy)
    (hvm : P configurator.vmResource.toPy) : Shaped P configurator.toPy := by
  refine shaped_object (by simp) (fun _ => h) ?_
  simp only [List.forall_mem_cons, shaped_str, List.not_mem_nil, false_imp_iff, implies_true, and_true, true_and]
  exact ⟨UeransimVm.shaped hvm, configurator.configuration.shaped, LinuxRoute.shaped_routes _⟩

theorem UeransimUEConfigurator.shaped {configurator : UeransimUEConfigurator} (h : P configurator.toPy)
    (hvm : P configurator.vmResource.toPy) : Shaped P configurator.toPy := by
  refine shaped_object (by simp) (fun _ => h) ?_
  simp only [List.forall_mem_cons, shaped_str, List.not_mem_nil, false_imp_iff, implies_true, and_true, true_and]
  exact ⟨UeransimVm.shaped hvm, shaped_listMap (fun sim _ => sim.shaped), shaped_listMap (fun text _ => shaped_str text),
    shaped_listMap (fun sim _ => sim.shaped)⟩

/-- The resources that an area of the state refers to. -/
structure BlueUeransimArea.AllOf (Q : UeransimResource → Prop) (area : BlueUeransimArea) : Prop where
  gnb : Q (.vm area.vmGnb)
  net : Q (.net area.radioNet)
  configurator : ∀ c, area.vmGnbConfigurator = some c → Q (.gnbConfigurator c) ∧ Q (.vm c.vmResource)
  ues : ∀ ue ∈ area.ues, Q (.vm ue.vmUe) ∧ Q (.ueConfigurator ue.vmUeConfigurator) ∧ Q (.vm ue.vmUeConfigurator.vmResource)

theorem BlueUeransimArea.shaped {area : BlueUeransimArea} (h : area.AllOf (fun r => P r.toPy)) : Shaped P area.toPy := by
  refine shaped_object (by simp) (fun hl => (nomatch hl)) ?_
  simp only [List.forall_mem_cons, List.not_mem_nil, false_imp_iff, implies_true, and_true]
  refine ⟨UeransimVm.shaped h.gnb, ?_, ?_, UeransimNet.shaped h.net⟩
  · exact shaped_optional (fun c hc => UeransimGNBConfigurator.shaped (h.configurator c hc).1 (h.configurator c hc).2)
  · refine shaped_listMap ?_
    intro ue hue
    obtain ⟨hvm, hconfigurator, hconfigured⟩ := h.ues ue hue
    refine shaped_object (by simp) (fun hl => (nomatch hl)) ?_
    simp only [List.forall_mem_cons, shaped_str, List.not_mem_nil, false_imp_iff, implies_true, and_true, true_and]
    exact ⟨UeransimVm.shaped hvm, UeransimUEConfigurator.shaped hconfigurator hconfigured⟩

theorem UeransimBlueprint.shaped {s : UeransimBlueprint} (h : ∀ p ∈ s.areas, p.2.AllOf (fun r => P r.toPy)) : Shaped P s.stateToPy := by
  refine shaped_object (by simp) (fun hl => (nomatch hl)) ?_
  simp only [List.forall_mem_cons, List.not_mem_nil, false_imp_iff, implies_true, and_true]
  refine shaped_object ?_ (fun hl => (nomatch hl)) ?_
  · rw [List.map_map]
    exact s.unique
  · intro a ha
    obtain ⟨p, hp, rfl⟩ := List.mem_map.1 ha
    exact BlueUeransimArea.shaped (h p hp)

/-- The VM that a registered resource refers to. -/
def UeransimResource.vmResource : UeransimResource → Option UeransimVm
  | .gnbConfigurator configurator => some configurator.vmResource
  | .ueConfigurator configurator => some configurator.vmResource
  | _ => none

theorem UeransimResource.shaped {r : UeransimResource} (h : P r.toPy) (hvm : ∀ vm, r.vmResource = some vm → P vm.toPy) :
    Shaped P r.toPy := by
  cases r with
  | net network => exact UeransimNet.shaped h
  | vm machine => exact UeransimVm.shaped h
  | gnbConfigurator configurator => exact UeransimGNBConfigurator.shaped h (hvm _ rfl)
  | ueConfigurator configurator => exact UeransimUEConfigurator.shaped h (hvm _ rfl)

end Shapes

theorem UeransimResource.id_toPy (r : UeransimResource) : PyObj.id r.toPy = some (some (toString r.id)) := by
  cases r <;> rfl

theorem UeransimResource.id_toPy_ne (r : UeransimResource) : PyObj.id r.toPy ≠ none := by
  rw [r.id_toPy]
  exact Option.some_ne_none _

/-- What `__serialize_content` is given. -/
def UeransimBlueprint.content (s : UeransimBlueprint) : BlueprintContent where
  state := s.stateToPy
  registeredResources := s.registeredResources.map (fun r => (toString r.id, r.toPy))
  state_model := rfl
  state_ok := (UeransimBlueprint.shaped (fun p _ => ⟨UeransimResource.id_toPy_ne _, UeransimResource.id_toPy_ne _,
    fun _ _ => ⟨UeransimResource.id_toPy_ne _, UeransimResource.id_toPy_ne (.vm _)⟩,
    fun _ _ => ⟨UeransimResource.id_toPy_ne (.vm _), UeransimResource.id_toPy_ne (.ueConfigurator _), UeransimResource.id_toPy_ne (.vm _)⟩⟩)).wellFormed
  resources_ok := by
    intro p hp
    obtain ⟨r, hr, rfl⟩ := List.mem_map.1 hp
    refine ⟨?_, (UeransimResource.shaped r.id_toPy_ne (fun vm _ => UeransimResource.id_toPy_ne (.vm vm))).wellFormed⟩
    cases r <;> rfl

/-- A request to a UERANSIM blueprint. -/
inductive UeransimCall where
  | create (areas : List UeransimArea)
  | addGnb (areaId : String)
  | configureGnb (model : Ueransim.GNBPDUConfigure)
  | delGnb (areaId : String)
  | addUe (areaId : String) (ue : UeransimUe)
  | delUe (areaId : String) (ueId : Int)
  | addSim (areaId : String) (ueId : Int) (sim : UeransimSim)
  | delSim (areaId : String) (ueId : Int) (imsi : String)
  deriving DecidableEq, Repr

def UeransimCall.exec (w : UeransimServices) (id : String) (endpoints : UeransimNetworkEndpoints) : UeransimCall → UeransimM Unit
  | .create areas => UeransimBlueprint.create w id areas
  | .addGnb areaId => UeransimBlueprint.createGnb w id areaId
  | .configureGnb model => UeransimBlueprint.configureGnb w endpoints model
  | .delGnb areaId => UeransimBlueprint.deleteGnb w areaId
  | .addUe areaId ue => UeransimBlueprint.createUe w id areaId ue
  | .delUe areaId ueId => UeransimBlueprint.deleteUe w areaId ueId
  | .addSim areaId ueId sim => UeransimBlueprint.addSim w areaId ueId sim
  | .delSim areaId ueId imsi => UeransimBlueprint.delSim w areaId ueId imsi

end Nfvcl
