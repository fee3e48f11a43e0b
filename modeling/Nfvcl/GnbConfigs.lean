import Mathlib.Data.List.Basic
import Nfvcl.EdgeChildren
import Nfvcl.Numerals
import Nfvcl.PduProvider
import Nfvcl.UpfBlueprints

namespace Nfvcl
set_option autoImplicit true
open Effects KeyedList

structure GNBPDUSlice where
  sst : Nat
  sd : Int
  deriving DecidableEq, Repr

structure GNBPDUConfigure where
  area : Int
  plmn : String
  tac : Int
  amfIp : String
  upfIp : IPv4Address
  amfPort : Nat
  nssai : List GNBPDUSlice
  additionalRoutes : List Route
  deriving DecidableEq, Repr

structure RANAreaInfo where
  area : Int
  pduName : String
  deriving DecidableEq, Repr

/-- What the RAN section reads and keeps: the recorded areas, the topology, the PDUs locked, and the
requests that configurators were passed. -/
structure RanState where
  edgeAreas : List EdgeAreaInfo := []
  ranAreas : List RANAreaInfo := []
  document : Option TopologyModel := none
  pdus : PDUProvider
  sent : List (PduModel × GNBPDUConfigure) := []
  /-- How many calls were made. -/
  calls : Nat := 0

/-- The calls of the RAN section that leave the blueprint, apart from those for the topology. -/
inductive RanCall where
  | getPduConfigurator (pdu : String)
  | getAmfIp
  | configure (pdu : String)
  deriving DecidableEq, Repr

/-- What the providers do in the `n`-th call, the integers that pydantic reads off texts, and the
order in which a set of areas is iterated. -/
structure RanProvider where
  raises : RanCall → Nat → Option PyError := fun _ _ => none
  services : Nat → Services := fun _ => {}
  amfIp : Nat → String
  validateInt : String → Option Int
  order : List Int → List Int := id
  order_perm : ∀ ids, (order ids).Perm ids := by intro ids; exact .refl ids

/-- `str.rjust` with zeros. -/
def rjustZeros (width : Nat) (text : String) : String :=
  String.ofList (Numerals.padded width text.toList)

/-- A UPF with a served slice of that id. -/
def DeployedUPFInfo.serves (sliceId : String) (upf : DeployedUPFInfo) : Bool :=
  upf.servedSlices.any (fun slice => decide (slice.id = sliceId))

namespace Generic5G

abbrev RanM := EStateM PyError (Generic5GState RanState)

/-- `get_upfs_for_slice`. -/
def getUpfsForSlice (edgeAreas : List EdgeAreaInfo) (sliceId : String) : Except PyError (List DeployedUPFInfo) := do
  let upfs ← edgeAreas.mapM (fun edgeArea =>
    match edgeArea.upf with
    | some upf => .ok (upf.upfList.filter (DeployedUPFInfo.serves (rjustZeros 6 sliceId)))
    | none => .error (.attributeError "'NoneType' object has no attribute 'upf_list'"))
  return upfs.flatten

/-- The item at position 0. -/
def first (items : List α) : Except PyError α :=
  match items with
  | item :: _ => .ok item
  | [] => .error (.indexError "list index out of range")

def networkInfoOf (attr : String) (upf : DeployedUPFInfo) : Except PyError UPFNetworkInfo :=
  match upf.networkInfo with
  | some info => .ok info
  | none => .error (.attributeError s!"'NoneType' object has no attribute '{attr}'")

/-- `_additional_routes_for_gnb`. -/
def additionalRoutesForGnb (edgeAreas : List EdgeAreaInfo) (areaId : Int) : Except PyError (List Route) :=
  match toMap EdgeAreaInfo.area edgeAreas areaId with
  | none => .error (.keyError s!"{areaId}")
  | some edgeArea =>
    match edgeArea.upf with
    | none => .error (.attributeError "'NoneType' object has no attribute 'upf_list'")
    | some upf => do
      let deployed ← first upf.upfList
      let info ← networkInfoOf "n3_cidr" deployed
      return [{ networkCidr := info.n3Cidr.exploded, nextHop := upf.routerGnbIp }]

section Model

variable (provider : RanProvider)

def ranCall (c : RanCall) : RanM Nat := fun s =>
  let after := { s with rest := { s.rest with calls := s.rest.calls + 1 } }
  match provider.raises c s.rest.calls with
  | some e => .error e after
  | none => .ok s.rest.calls after

/-- `build_topology().upd_pdu(pdu_model)`, once the object and the provider's list were changed. -/
def storePdu (marked : EStateM PyError (PDUProvider × PduModel) Unit) (pdu : PduModel) : RanM PduModel := fun s =>
  match marked.run (s.rest.pdus, pdu) with
  | .error e (pdus, _) => .error e { s with rest := { s.rest with pdus := pdus } }
  | .ok _ (pdus, changed) =>
    match (Topology.updPdu (provider.services s.rest.calls) changed).run ⟨s.rest.document, s.rest.document⟩ with
    | .ok _ saved =>
      .ok changed { s with rest := { s.rest with pdus := pdus, document := saved.stored, calls := s.rest.calls + 1 } }
    | .error e saved =>
      .error e { s with rest := { s.rest with pdus := pdus, document := saved.stored, calls := s.rest.calls + 1 } }

def lockPdu (pdu : PduModel) : RanM PduModel :=
  storePdu provider PDUProvider.markLocked pdu

def unlockPdu (pdu : PduModel) : RanM PduModel :=
  storePdu provider PDUProvider.markUnlocked pdu

/-- The PDU of an area, locked. -/
def gnbPdu (areaId : Int) : RanM PduModel := do
  let s ← get
  let pdu ← liftExcept (PDUProvider.findPdu s.rest.document areaId .gnb none none)
  if pdu.lockedBy = some s.rest.pdus.blueprintId then
    return pdu
  else
    lockPdu provider pdu

def getGnbPdus : RanM (List PduModel) := do
  let areas ← onConfig "areas" (do let c ← get; return c.areas.map SubArea.id)
  areas.mapM (gnbPdu provider)

def getPduConfigurator (pdu : PduModel) : RanM Unit := do
  let s ← get
  if pdu.lockedBy = some s.rest.pdus.blueprintId then
    let _ ← ranCall provider (.getPduConfigurator pdu.name)
  else
    let shown := pdu.lockedBy.getD "None"
    throw (.pduProvider s!"The PDU is not locked or locked by another blueprint: {shown}")

def gnbSlice (slice : SubSlices) : Except PyError GNBPDUSlice :=
  match provider.validateInt slice.sliceId with
  | some sd => .ok ⟨slice.sliceType.toInt, sd⟩
  | none => .error (.validationError "sd")

def gnbSlices (c : Create5gModel) (areaId : Int) : Except PyError (List GNBPDUSlice) := do
  let area ← first (c.areas.filter (fun area => decide (area.id = areaId)))
  let slices ← iterate area.slices
  slices.mapM (gnbSlice provider)

def gnbUpfIp (edgeAreas : List EdgeAreaInfo) (slices : List GNBPDUSlice) : Except PyError IPv4Address := do
  let slice ← first slices
  let upfs ← getUpfsForSlice edgeAreas (toString slice.sd)
  let upf ← first upfs
  let info ← networkInfoOf "n3_ip" upf
  return info.n3Ip

/-- One iteration of the loop over the PDUs, up to the call of the configurator. -/
def gnbRequest (pdu : PduModel) : RanM GNBPDUConfigure := do
  getPduConfigurator provider pdu
  let slices ← onConfig "areas" (do let c ← get; liftExcept (gnbSlices provider c pdu.area))
  let plmn ← onConfig "config" (do let c ← get; return c.config.plmn)
  let n ← ranCall provider .getAmfIp
  let s ← get
  let upfIp ← liftExcept (gnbUpfIp s.rest.edgeAreas slices)
  let additionalRoutes ← liftExcept (additionalRoutesForGnb s.rest.edgeAreas pdu.area)
  return {
    area := pdu.area
    plmn := plmn
    tac := pdu.area
    amfIp := provider.amfIp n
    upfIp := upfIp
    amfPort := 38412
    nssai := slices
    additionalRoutes := additionalRoutes }

/-- `ran_areas[str(info.area)] = info`. -/
def recordRanArea (info : RANAreaInfo) (ranAreas : List RANAreaInfo) : List RANAreaInfo :=
  if (toMap RANAreaInfo.area ranAreas info.area).isSome then replace RANAreaInfo.area ranAreas info
  else ranAreas ++ [info]

def configureGnb (pdu : PduModel) : RanM Unit := do
  let request ← gnbRequest provider pdu
  modify (fun s => { s with rest := { s.rest with sent := s.rest.sent ++ [(pdu, request)] } })
  let _ ← ranCall provider (.configure pdu.name)
  modify (fun s => { s with rest := { s.rest with
    ranAreas := recordRanArea { area := pdu.area, pduName := pdu.name } s.rest.ranAreas } })

/-- One iteration of the loop over the areas that left the configuration. -/
def releaseRanArea (areaId : Int) : RanM Unit := do
  let s ← get
  match toMap RANAreaInfo.area s.rest.ranAreas areaId with
  | none => throw (.keyError s!"{areaId}")
  | some info =>
    let pdu ← liftExcept (PDUProvider.findByName s.rest.document info.pduName)
    let _ ← unlockPdu provider pdu
    modify (fun s => { s with rest := { s.rest with ranAreas := KeyedList.erase RANAreaInfo.area s.rest.ranAreas areaId } })

def releaseRanAreas : RanM Unit := do
  let existing ← onConfig "areas" (do let c ← get; return c.areas.map SubArea.id)
  let s ← get
  let toDelete := (s.rest.ranAreas.map RANAreaInfo.area).filter (fun id => decide (id ∉ existing))
  forM (provider.order toDelete) (releaseRanArea provider)

def updateGnbConfig : RanM Unit := do
  let pdus ← getGnbPdus provider
  forM pdus (configureGnb provider)
  releaseRanAreas provider

end Model

end Generic5G

end Nfvcl
