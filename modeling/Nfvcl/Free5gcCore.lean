import Mathlib.Data.List.Basic
import Nfvcl.Free5gcValues
import Nfvcl.GnbConfigs

namespace Nfvcl
set_option autoImplicit true
open Effects Free5gc

/-- What a free5gc blueprint keeps beside its configuration for the values of the chart. -/
structure Free5gcState where
  values : Free5gcCoreConfig
  edgeAreas : List EdgeAreaInfo := []
  mcc : String
  mnc : String
  smfIp : Option String := none
  nsiNssfId : Nat := 1
  supportedNssaiAvailabilityNssfId : Nat := 1
  deriving DecidableEq

namespace Free5gcCore

abbrev LoopM := EStateM PyError Free5gcState

/-- The tracking area code of an area. -/
def tacOf (areaId : Int) : String :=
  zfill 6 (toString areaId)

def gnbName (areaId : Int) : String := s!"gNB{areaId}"

def upfName (areaId : Int) : String := s!"UPF{areaId}"

/-- `edge_areas[str(area_id)].upf.upf_list[0]`. -/
def deployedUpf (edgeAreas : List EdgeAreaInfo) (areaId : Int) : Except PyError DeployedUPFInfo :=
  match KeyedList.toMap EdgeAreaInfo.area edgeAreas areaId with
  | none => .error (.keyError s!"{areaId}")
  | some info =>
    match info.upf with
    | none => .error (.attributeError "'NoneType' object has no attribute 'upf_list'")
    | some upf => Generic5G.first upf.upfList

/-- A step on the values of the chart. -/
def onValues (m : Free5gcCoreConfig.ConfigM α) : LoopM α :=
  zoom Free5gcState.values (fun values s => { s with values := values }) m

section Model

-- the number of calls that Python nests
variable (depth : Nat)

def addSliceDnn (c : Create5gModel) (areaId : Int) (upf : DeployedUPFInfo) (slice : SubSlices) (snssai : Free5gc.Snssai) (dnn : String) :
    Free5gcCoreConfig.ConfigM Unit := do
  let net ← Free5gcCoreConfig.lift (OpenAirInterface.getDnn c dnn)
  modify (Free5gcCoreConfig.addDnnAmfItem dnn)
  Free5gcCoreConfig.addDnnInfoSmfItem dnn net.dns snssai none depth
  let info ← Free5gcCoreConfig.lift (Generic5G.networkInfoOf "n4_ip" upf)
  let cidr ← Free5gcCoreConfig.lift (OpenAirInterface.firstCidr net)
  Free5gcCoreConfig.addDnnUpfInfoListSmf (gnbName areaId) (upfName areaId) info.n4Ip.exploded info.n3Ip.exploded
    slice.sliceType.toInt slice.sliceId dnn cidr depth

/-- The lists that have the slice itself. -/
def addSliceItems (areaId : Int) (slice : SubSlices) (snssai : Free5gc.Snssai) : LoopM Unit := do
  let s ← get
  onValues (Free5gcCoreConfig.addPlmnAmfItem s.mcc s.mnc snssai depth)
  onValues (Free5gcCoreConfig.addSupportedSnssaiListItemNssf s.mcc s.mnc snssai depth)
  onValues (Free5gcCoreConfig.addNsiListItemNssf slice.sliceType.toInt slice.sliceId s.nsiNssfId)
  modify (fun s => { s with nsiNssfId := s.nsiNssfId + 1 })
  onValues (Free5gcCoreConfig.addSupportedNssaiNssf s.supportedNssaiAvailabilityNssfId s.mcc s.mnc (tacOf areaId) snssai depth)
  modify (fun s => { s with supportedNssaiAvailabilityNssfId := s.supportedNssaiAvailabilityNssfId + 1 })
  onValues (Free5gcCoreConfig.addTaiSupportedSnssaiListNssfItem s.mcc s.mnc (tacOf areaId) snssai depth)

/-- One iteration of the loop over the slices of an area. -/
def addAreaSlice (c : Create5gModel) (areaId : Int) (upf : DeployedUPFInfo) (slice : SubSlices) : LoopM Unit := do
  let snssai ← Generic5G.liftExcept (Free5gc.Snssai.make slice.sliceType.toInt slice.sliceId)
  addSliceItems depth areaId slice snssai
  let profile ← Generic5G.liftExcept (OpenAirInterface.getSlice c snssai.sd.text)
  onValues (forM profile.dnnList (addSliceDnn depth c areaId upf slice snssai))

/-- One iteration of the loop over the areas. -/
def addArea (c : Create5gModel) (subArea : SubArea) : LoopM Unit := do
  let s ← get
  let upf ← Generic5G.liftExcept (deployedUpf s.edgeAreas subArea.id)
  onValues (Free5gcCoreConfig.addItemAmfSupportTaiList s.mcc s.mnc (tacOf subArea.id))
  let slices ← Generic5G.liftExcept (iterate subArea.slices)
  forM slices (addAreaSlice depth c subArea.id upf)

/-- `clear_core_values`. -/
def clearCoreValues (s : Free5gcState) : Free5gcState :=
  { s with
    values := s.values.clearCoreValues
    nsiNssfId := 1
    supportedNssaiAvailabilityNssfId := 1 }

/-- An address that is empty or `None` is not set. -/
def setSmfIp (s : Free5gcState) : Free5gcState :=
  match s.smfIp with
  | some ip => if ip = "" then s else { s with values := s.values.setSmfIp ip }
  | none => s

/-- The values with the PLMN in its lists. -/
def setPlmn (s : Free5gcState) : Free5gcState :=
  { s with values := Free5gcCoreConfig.addSupportedPlmnNssf s.mcc s.mnc (Free5gcCoreConfig.addPlmnAusfItem s.mcc s.mnc
      (Free5gcCoreConfig.addPlmnSmfItem s.mcc s.mnc (Free5gcCoreConfig.addItemAmfServedGuamiList s.mcc s.mnc
        (Free5gcCoreConfig.setDefaultNrfPlmnd s.mcc s.mnc s.values)))) }

/-- The loops of `update_core_values`. -/
def addAreas (c : Create5gModel) : LoopM Unit :=
  forM c.areas (addArea depth c)

def updateCoreValues : EStateM PyError (Generic5GState Free5gcState) Unit := do
  modify (fun s => { s with rest := setPlmn (setSmfIp (clearCoreValues s.rest)) })
  let c ← Generic5G.onConfig "areas" get
  zoom Generic5GState.rest (fun r s => { s with rest := r }) (addAreas depth c)

end Model

end Free5gcCore

end Nfvcl
