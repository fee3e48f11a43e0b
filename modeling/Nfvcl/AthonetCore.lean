import Mathlib.Data.List.Basic
import Nfvcl.AthonetSmf
import Nfvcl.GnbConfigs

namespace Nfvcl
set_option autoImplicit true
open Effects KeyedList
open Athonet (DnnVrf ProvisionedDataInfo)

/-- The state of an `AthonetCore`: the edge and the RAN section, the configuration the core had before (of a
type that only the configurator looks into), and what `find_pdu` answered for the core. -/
structure AthonetState (ω : Type) where
  edge : EdgeState := {}
  ran : RanState
  backupConfig : Option ω := none
  lookups : List (Except PyError PduModel) := []

/-- The calls of the core's configurator. -/
inductive CoreCall (ω : Type) where
  | deleteAllSupis
  | deleteAllUdrPlmns
  | getCoreConfig
  | configure (c : Create5gModel)
  | addUser (subscriber : SubSubscribers) (infos : List ProvisionedDataInfo)
  | delUser (supi : String)
  | getAmfIp
  | restoreBaseConfig (backup : Option ω)

/-- What the providers, the configurator and the blueprints of the UPFs do in the `n`-th call. -/
structure AthonetProvider (ω : Type) where
  edge : EdgeProvider
  ran : RanProvider
  raises : CoreCall ω → Nat → Option PyError := fun _ _ => none
  dnnVrf : List DnnVrf
  coreConfig : Nat → ω
  amfIp : Nat → String
  /-- The locks that the blueprints of the UPFs have on the PDUs of theirs, by name. -/
  upfLocks : Nat → String → Option String := fun _ _ => none

/-- The topology with the locks of the UPF blueprints. -/
def TopologyModel.lockUpfs (locks : String → Option String) (t : TopologyModel) : TopologyModel :=
  { t with pdus := t.pdus.map (fun pdu =>
      if pdu.instanceType = "AthonetUPF" then { pdu with lockedBy := locks pdu.name } else pdu) }

namespace AthonetCore

variable {ω : Type}

abbrev AthonetM (ω : Type) := EStateM PyError (Generic5GState (AthonetState ω))

def edgePart (s : Generic5GState (AthonetState ω)) : Generic5GState EdgeState :=
  ⟨s.currentConfig, s.rest.edge⟩

def setEdge (t : Generic5GState EdgeState) (s : Generic5GState (AthonetState ω)) : Generic5GState (AthonetState ω) :=
  ⟨t.currentConfig, { s.rest with edge := t.rest }⟩

def ranPart (s : Generic5GState (AthonetState ω)) : Generic5GState RanState :=
  ⟨s.currentConfig, { s.rest.ran with edgeAreas := s.rest.edge.edgeAreas }⟩

def setRan (t : Generic5GState RanState) (s : Generic5GState (AthonetState ω)) : Generic5GState (AthonetState ω) :=
  ⟨t.currentConfig, { s.rest with ran := t.rest }⟩

def onEdge (m : Generic5G.EdgeM α) : AthonetM ω α :=
  zoom edgePart setEdge m

def onRan (m : Generic5G.RanM α) : AthonetM ω α :=
  zoom ranPart setRan m

section Model

variable (provider : AthonetProvider ω)

def coreCall (c : CoreCall ω) : AthonetM ω Nat := fun s =>
  let after := { s with rest := { s.rest with ran := { s.rest.ran with calls := s.rest.ran.calls + 1 } } }
  match provider.raises c s.rest.ran.calls with
  | some e => .error e after
  | none => .ok s.rest.ran.calls after

/-- `self.state.current_config.areas[0].id`. -/
def firstArea : AthonetM ω Int :=
  Generic5G.onConfig "areas" (do let c ← get; Generic5G.liftExcept (Generic5G.first (c.areas.map SubArea.id)))

/-- `find_pdu` for the core. -/
def findCore : AthonetM ω PduModel := do
  let areaId ← firstArea
  let s ← get
  Generic5G.liftExcept (PDUProvider.findPdu s.rest.ran.document areaId .core5g (some "AthonetCore") none)

/-- The PDU of the core and its configurator, as the operations after the creation get them. -/
def corePdu : AthonetM ω PduModel := do
  let areaId ← firstArea
  let s ← get
  let found := PDUProvider.findPdu s.rest.ran.document areaId .core5g (some "AthonetCore") none
  modify (fun s => { s with rest := { s.rest with lookups := s.rest.lookups ++ [found] } })
  let pdu ← Generic5G.liftExcept found
  onRan (Generic5G.getPduConfigurator provider.ran pdu)
  return pdu

def configure : AthonetM ω Unit := do
  let c ← Generic5G.onConfig "config" get
  let _ ← coreCall provider (.configure c)

def updateCore : AthonetM ω Unit := do
  let _ ← corePdu provider
  configure provider

def getAmfIp : AthonetM ω String := do
  let _ ← corePdu provider
  let n ← coreCall provider .getAmfIp
  return provider.amfIp n

/-! ### The edge areas -/

/-- The loops of `update_edge_areas`, which adds no route to a router. -/
def updateAreas (provider : EdgeProvider) : Generic5G.EdgeM Unit := do
  let areas ← Generic5G.onConfig "areas" (do let c ← get; return c.areas)
  forM areas (Generic5G.deployOrRefresh provider)
  let s ← get
  let toDelete := (s.rest.edgeAreas.map EdgeAreaInfo.area).filter (fun id => decide (id ∉ areas.map SubArea.id))
  forM (provider.order toDelete) (Generic5G.deleteArea provider)

/-- `update_edge_areas`. It reads no PDU, so that the locks which the UPF blueprints take or give up
meanwhile are written first. -/
def updateEdgeAreas : AthonetM ω Unit := do
  modify (fun s => { s with rest := { s.rest with ran := { s.rest.ran with
    document := s.rest.ran.document.map (TopologyModel.lockUpfs (provider.upfLocks s.rest.ran.calls)) } } })
  onEdge (updateAreas provider.edge)

/-! ### The gNBs -/

def gnbRequest (pdu : PduModel) : AthonetM ω GNBPDUConfigure := do
  onRan (Generic5G.getPduConfigurator provider.ran pdu)
  let slices ← Generic5G.onConfig "areas" (do let c ← get; Generic5G.liftExcept (Generic5G.gnbSlices provider.ran c pdu.area))
  let plmn ← Generic5G.onConfig "config" (do let c ← get; return c.config.plmn)
  let amfIp ← getAmfIp provider
  let s ← get
  let upfIp ← Generic5G.liftExcept (Generic5G.gnbUpfIp s.rest.edge.edgeAreas slices)
  let additionalRoutes ← Generic5G.liftExcept (Generic5G.additionalRoutesForGnb s.rest.edge.edgeAreas pdu.area)
  return {
    area := pdu.area
    plmn := plmn
    tac := pdu.area
    amfIp := amfIp
    upfIp := upfIp
    amfPort := 38412
    nssai := slices
    additionalRoutes := additionalRoutes }

def configureGnb (pdu : PduModel) : AthonetM ω Unit := do
  let request ← gnbRequest provider pdu
  onRan (do
    modify (fun s => { s with rest := { s.rest with sent := s.rest.sent ++ [(pdu, request)] } })
    let _ ← Generic5G.ranCall provider.ran (.configure pdu.name)
    modify (fun s => { s with rest := { s.rest with
      ranAreas := Generic5G.recordRanArea { area := pdu.area, pduName := pdu.name } s.rest.ranAreas } }))

/-- `update_gnb_config`, with the `get_amf_ip` of this core. -/
def updateGnbConfig : AthonetM ω Unit := do
  let pdus ← onRan (Generic5G.getGnbPdus provider.ran)
  forM pdus (configureGnb provider)
  onRan (Generic5G.releaseRanAreas provider.ran)

/-! ### Creation and destruction -/

def createSubscriber (subscriber : SubSubscribers) : AthonetM ω Unit := do
  let infos ← Generic5G.onConfig "config" (do let c ← get; Generic5G.liftExcept (uesAdditionalInfos c subscriber.snssai))
  let _ ← coreCall provider (.addUser subscriber infos)

/-- The end of `create_5g`: the core forgets its users and is configured. -/
def provisionCore (createModel : Create5gModel) : AthonetM ω Unit := do
  let _ ← coreCall provider .deleteAllSupis
  let _ ← coreCall provider .deleteAllUdrPlmns
  let n ← coreCall provider .getCoreConfig
  modify (fun s => { s with rest := { s.rest with backupConfig := some (provider.coreConfig n) } })
  configure provider
  forM createModel.config.subscribers (createSubscriber provider)

/-- `create_5g` once the number of areas is checked. -/
def createCore (createModel : Create5gModel) : AthonetM ω Unit := do
  let found ← findCore
  let pdu ← onRan (Generic5G.lockPdu provider.ran found)
  onRan (Generic5G.getPduConfigurator provider.ran pdu)
  if provider.dnnVrf.length < createModel.config.networkEndpoints.dataNets.length then
    throw (.exception s!"Error, maximum number of supported dnn is {provider.dnnVrf.length}")
  else
    provisionCore provider createModel

def create5g (createModel : Create5gModel) : AthonetM ω Unit := do
  let areas ← Generic5G.onConfig "areas" (do let c ← get; return c.areas)
  if areas.length > 1 then
    throw (.exception "Athonet does not support multiple areas yet")
  else
    createCore provider createModel

/-- `create`; `wait_core_ready` does nothing here. -/
def create (createModel : Create5gModel) : AthonetM ω Unit := do
  modify (fun s => { s with currentConfig := some createModel })
  Generic5G.liftExcept createModel.configurationFeasibilityCheck
  let _ ← onRan (Generic5G.getGnbPdus provider.ran)
  updateEdgeAreas provider
  create5g provider createModel
  updateEdgeAreas provider
  updateGnbConfig provider

/-- `destroy`, up to that of the superclass. -/
def destroy : AthonetM ω Unit := do
  let _ ← corePdu provider
  let s ← get
  let _ ← coreCall provider (.restoreBaseConfig s.rest.backupConfig)

/-! ### The hooks of the day2 operations -/

def addUes (subscriberModel : SubSubscribers) : AthonetM ω Unit := do
  let _ ← corePdu provider
  let infos ← Generic5G.onConfig "config" (do
    let c ← get
    Generic5G.liftExcept (uesAdditionalInfos c subscriberModel.snssai))
  updateCore provider
  let _ ← coreCall provider (.addUser subscriberModel infos)

def delUes (imsi : String) : AthonetM ω Unit := do
  let _ ← corePdu provider
  let _ ← coreCall provider (.delUser s!"imsi-{imsi}")
  updateCore provider

/-- `add_dnn` and `del_dnn`: the core is configured twice. -/
def changeDnn : AthonetM ω Unit := do
  updateCore provider
  let _ ← corePdu provider
  configure provider
  updateEdgeAreas provider

/-- The inherited hook of the operations on areas. -/
def changeArea : AthonetM ω Unit := do
  updateEdgeAreas provider
  updateGnbConfig provider
  updateCore provider

/-- `add_slice` and `del_slice`: the inherited hook, then the core is configured once more. -/
def changeSlice : AthonetM ω Unit := do
  changeArea provider
  let _ ← corePdu provider
  configure provider

def hook : Day2Op → AthonetM ω Unit
  | .addUes subscriberModel => addUes provider subscriberModel
  | .delUes imsi => delUes provider imsi
  | .addDnn _ => changeDnn provider
  | .delDnn _ => changeDnn provider
  | .addSliceOss _ => changeSlice provider
  | .addSliceOperator _ => changeSlice provider
  | .delSlice _ => changeSlice provider
  | .addTac _ => changeArea provider
  | .delTac _ => changeArea provider

end Model

/-- A new blueprint. -/
def initial (blueprintId : String) (t : TopologyModel) : Generic5GState (AthonetState ω) where
  currentConfig := none
  rest := { ran := { document := some t, pdus := { blueprintId := blueprintId } } }

end AthonetCore

/-- A day2 operation, with what the providers do during it. -/
structure AthonetCall (ω : Type) where
  op : Day2Op
  provider : AthonetProvider ω

namespace AthonetCall

variable {ω : Type}

def exec (call : AthonetCall ω) : AthonetCore.AthonetM ω Unit :=
  call.op.exec (AthonetCore.hook call.provider call.op)

end AthonetCall

end Nfvcl
