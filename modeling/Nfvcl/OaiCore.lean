import Nfvcl.ListUpdates
import Nfvcl.UpfBlueprints
import Nfvcl.Day2References

namespace Nfvcl
set_option autoImplicit true
open Effects ListUpdates

structure ServedGuamiListItem where
  mcc : String
  mnc : String
  amfRegionId : String
  amfSetId : String
  amfPointer : String
  deriving DecidableEq, Repr

structure PlmnSupportListItem where
  mcc : String
  mnc : String
  tac : Int
  nssai : List Snssai
  deriving DecidableEq, Repr

structure HostAliase where
  ip : String
  hostnames : String
  deriving DecidableEq, Repr

/-- `UpfAvailable`; its `config` always has the default. -/
structure UpfAvailable where
  host : String
  deriving DecidableEq, Repr

/-- The items of `dnnSmfInfoList` are the names of their DNNs. -/
structure SNssaiSmfInfoListItem where
  sNssai : Snssai
  dnnSmfInfoList : List String
  deriving DecidableEq, Repr

structure QosProfile where
  field5qi : Int
  sessionAmbrUl : String
  sessionAmbrDl : String
  deriving DecidableEq, Repr

structure LocalSubscriptionInfo where
  singleNssai : Snssai
  dnn : String
  qosProfile : QosProfile
  deriving DecidableEq, Repr

/-- The lists of `OaiCoreValuesModel` that `update_core_values` writes. -/
structure OaiCoreValues where
  servedGuamiList : List ServedGuamiListItem := []
  hostAliases : List HostAliase := []
  upfs : List UpfAvailable := []
  snssais : List Snssai := []
  plmnSupportList : List PlmnSupportListItem := []
  sNssaiSmfInfoList : List SNssaiSmfInfoListItem := []
  localSubscriptionInfos : List LocalSubscriptionInfo := []
  dnns : List OaiDnn := []
  deriving DecidableEq, Repr

abbrev OaiValuesM := EStateM PyError OaiCoreValues

/-! ### oai_utils -/

namespace OaiUtils

def snssaiOf (slice : SubSlices) : Snssai where
  sst := slice.sliceType.toInt
  sd := zfill 6 slice.sliceId

def addSnssai (slice : SubSlices) : OaiValuesM Snssai := do
  let values ← get
  if snssaiOf slice ∈ values.snssais then
    throw (.valueError s!"Add failed, slice {slice.sliceId} already exist")
  set { values with snssais := values.snssais ++ [snssaiOf slice] }
  return snssaiOf slice

def addDnnDnns (dnn : OaiDnn) (values : OaiCoreValues) : OaiCoreValues :=
  { values with dnns := appendNew values.dnns dnn }

def addServedGuamiListItem (mcc mnc : String) (values : OaiCoreValues) : OaiCoreValues :=
  { values with servedGuamiList := appendNew values.servedGuamiList ⟨mcc, mnc, mnc, mcc, mnc⟩ }

def upfHost (areaId : Int) : String := s!"oai-upf{areaId}"

def addHostAliases (areaId : Int) (ipUpf : String) : OaiValuesM Unit := do
  let values ← get
  if (⟨ipUpf, upfHost areaId⟩ : HostAliase) ∈ values.hostAliases then
    throw (.valueError s!"Add failed, oai-upf{areaId} already exist")
  set { values with hostAliases := values.hostAliases ++ [(⟨ipUpf, upfHost areaId⟩ : HostAliase)] }

def addAvailableUpf (areaId : Int) (values : OaiCoreValues) : OaiCoreValues :=
  { values with upfs := appendNew values.upfs (⟨upfHost areaId⟩ : UpfAvailable) }

def addLocalSubscriptionInfo (info : LocalSubscriptionInfo) (values : OaiCoreValues) : OaiCoreValues :=
  { values with localSubscriptionInfos := appendNew values.localSubscriptionInfos info }

/-- The item is looked for by its `sd` alone. -/
def addDnnSnssaiSmfInfoListItem (nssai : Snssai) (dnn : String) (values : OaiCoreValues) : OaiCoreValues :=
  { values with
    sNssaiSmfInfoList := growFirst (fun item => decide (item.sNssai.sd = nssai.sd))
      (fun item => { item with dnnSmfInfoList := appendNew item.dnnSmfInfoList dnn })
      { sNssai := nssai, dnnSmfInfoList := [dnn] } values.sNssaiSmfInfoList }

def addPlmnItem (mcc mnc : String) (areaId : Int) (nssai : Snssai) (values : OaiCoreValues) : OaiCoreValues :=
  { values with
    plmnSupportList := growFirst (fun item => decide (item.mcc = mcc ∧ item.mnc = mnc ∧ item.tac = areaId))
      (fun item => { item with nssai := appendNew item.nssai nssai })
      { mcc := mcc, mnc := mnc, tac := areaId, nssai := [nssai] } values.plmnSupportList }

end OaiUtils

open OaiUtils

/-- What an OpenAirInterface blueprint keeps beside its configuration. `ue_dict` is a dictionary from
the imsi. -/
structure OaiState where
  oaiConfigValues : OaiCoreValues := {}
  edgeAreas : List EdgeAreaInfo := []
  mcc : String
  mnc : String
  ueDict : List (String × List Snssai) := []
  deriving DecidableEq, Repr

namespace OpenAirInterface

abbrev OaiM := EStateM PyError (Generic5GState OaiState)

def getSlice (c : Create5gModel) (sliceId : String) : Except PyError SubSliceProfiles := do
  let profiles ← iterate c.config.sliceProfiles
  match profiles.find? (fun slice => decide (slice.sliceId = sliceId)) with
  | some slice => return slice
  | none => throw (.valueError s!"Slice {sliceId} not found.")

def getDnn (c : Create5gModel) (dnnName : String) : Except PyError SubDataNets :=
  match c.config.networkEndpoints.dataNets.find? (fun dnn => decide (dnn.dnn = dnnName)) with
  | some dnn => .ok dnn
  | none => .error (.valueError s!"Dnn {dnnName} not found.")

/-- `edge_areas[str(area_id)].upf.upf_list[0].network_info.n4_ip`. -/
def deployedUpfIp (edgeAreas : List EdgeAreaInfo) (areaId : Int) : Except PyError IPv4Address :=
  match KeyedList.toMap EdgeAreaInfo.area edgeAreas areaId with
  | none => .error (.keyError s!"{areaId}")
  | some info =>
    match info.upf with
    | none => .error (.attributeError "'NoneType' object has no attribute 'upf_list'")
    | some upf =>
      match upf.upfList with
      | [] => .error (.indexError "list index out of range")
      | deployed :: _ =>
        match deployed.networkInfo with
        | none => .error (.attributeError "'NoneType' object has no attribute 'n4_ip'")
        | some network => .ok network.n4Ip

/-- `dnn_info.pools[0].cidr`. -/
def firstCidr (dnn : SubDataNets) : Except PyError String :=
  match dnn.pools with
  | [] => .error (.indexError "list index out of range")
  | pool :: _ => .ok pool.cidr

/-- `ambr.replace(" ", "")`. -/
def ambr (value : Option String) : Except PyError String :=
  match value with
  | none => .error (.attributeError "'NoneType' object has no attribute 'replace'")
  | some text => .ok (String.ofList (text.toList.filter (fun ch => decide (ch ≠ ' '))))

section Values

-- what pydantic makes of a text given for a field of type `int`, if it accepts it
variable (validateInt : String → Option Int)

def field5qi (value : Option String) : Except PyError Int :=
  match value.bind validateInt with
  | some n => .ok n
  | none => .error (.validationError "field_5qi")

def subscriptionInfo (snssai : Snssai) (dnn : SubDataNets) : Except PyError LocalSubscriptionInfo := do
  let ul ← ambr dnn.uplinkAmbr
  let dl ← ambr dnn.downlinkAmbr
  let qi ← field5qi validateInt dnn.default5qi
  return ⟨snssai, dnn.dnn, ⟨qi, ul, dl⟩⟩

/-- The data the loop over the DNNs of a slice looks up. -/
def dnnData (c : Create5gModel) (snssai : Snssai) (dnn : String) :
    Except PyError (LocalSubscriptionInfo × OaiDnn) := do
  let dnnInfo ← getDnn c dnn
  let cidr ← firstCidr dnnInfo
  let info ← subscriptionInfo validateInt snssai dnnInfo
  return (info, ⟨dnnInfo.dnn, cidr⟩)

def addSliceDnn (c : Create5gModel) (snssai : Snssai) (dnn : String) : OaiValuesM Unit := do
  let (info, entry) ← Generic5G.liftExcept (dnnData validateInt c snssai dnn)
  modify (addLocalSubscriptionInfo info)
  modify (addDnnDnns entry)
  modify (addDnnSnssaiSmfInfoListItem snssai dnn)

def addAreaSlice (c : Create5gModel) (mcc mnc : String) (areaId : Int) (slice : SubSlices) : OaiValuesM Unit := do
  let newSnssai ← addSnssai slice
  modify (addPlmnItem mcc mnc areaId newSnssai)
  let subSlice ← Generic5G.liftExcept (getSlice c slice.sliceId)
  forM subSlice.dnnList (addSliceDnn validateInt c newSnssai)

def addArea (c : Create5gModel) (edgeAreas : List EdgeAreaInfo) (mcc mnc : String) (subArea : SubArea) :
    OaiValuesM Unit := do
  let ip ← Generic5G.liftExcept (deployedUpfIp edgeAreas subArea.id)
  addHostAliases subArea.id ip.exploded
  modify (addAvailableUpf subArea.id)
  let slices ← Generic5G.liftExcept (iterate subArea.slices)
  forM slices (addAreaSlice validateInt c mcc mnc subArea.id)

/-- The eight lists are cleared, and the list of served GUAMIs gets its item. -/
def clearedValues (mcc mnc : String) : OaiCoreValues :=
  addServedGuamiListItem mcc mnc {}

/-- A step on the values of the chart. -/
def onValues (m : OaiValuesM α) : OaiM α := fun s =>
  match m.run s.rest.oaiConfigValues with
  | .ok a values => .ok a { s with rest := { s.rest with oaiConfigValues := values } }
  | .error e values => .error e { s with rest := { s.rest with oaiConfigValues := values } }

def updateCoreValues : OaiM Unit := do
  let s ← get
  onValues (set (clearedValues s.rest.mcc s.rest.mnc))
  let c ← Generic5G.onConfig "areas" get
  onValues (forM c.areas (addArea validateInt c s.rest.edgeAreas s.rest.mcc s.rest.mnc))

/-- The steps of the hooks that leave the blueprint. -/
structure Steps where
  updateCore : OaiM Unit := pure ()
  updateEdgeAreas : OaiM Unit := pure ()
  updateGnbConfig : OaiM Unit := pure ()

variable (steps : Steps)

def addDnnToConf (newDnn : SubDataNets) : OaiM Unit := do
  Generic5G.onConfig "config" (Create5gModel.checking (fun c =>
    if c.config.networkEndpoints.dataNets.any (fun dnn => decide (dnn.dnn = newDnn.dnn)) then
      .error (.blueprintNG s!"Dnn {newDnn.dnn} already exist")
    else .ok ()))
  Generic5G.onConfig "config" (modify (fun c => c.setDataNets (c.config.networkEndpoints.dataNets ++ [newDnn])))
  updateCoreValues validateInt
  steps.updateCore
  steps.updateEdgeAreas
  steps.updateGnbConfig

/-- `data_nets.remove(dnn)` takes out the first equal element. -/
def delDnnFromConf (oldDnn : String) : OaiM Unit := do
  let dnn ← Generic5G.onConfig "config" (do let c ← get; Generic5G.liftExcept (getDnn c oldDnn))
  Generic5G.onConfig "config" (Create5gModel.checking (fun c => do
    let profiles ← iterate c.config.sliceProfiles
    if profiles.any (fun slice => decide (dnn.dnn ∈ slice.dnnList)) then
      throw (.blueprintNG s!"Dnn {oldDnn} cannot be deleted because there are slices that use it")))
  Generic5G.onConfig "config" (modify (fun c => c.setDataNets (c.config.networkEndpoints.dataNets.erase dnn)))
  updateCoreValues validateInt
  steps.updateCore
  steps.updateEdgeAreas
  steps.updateGnbConfig

/-- `day2_add_dnn` with the hook `add_dnn` of the class. -/
def day2AddDnn (dnnModel : SubDataNets) : OaiM Unit :=
  Generic5G.day2AddDnn (addDnnToConf validateInt steps dnnModel) dnnModel

/-- `day2_del_dnn` with the hook `del_dnn` of the class. -/
def day2DelDnn (dnn : String) : OaiM Unit :=
  Generic5G.day2DelDnn (delDnnFromConf validateInt steps dnn) dnn

/-- `day2_add_dnn` returns with exactly that DNN added. -/
def AddsDnn (c : Create5gModel) (r : OaiState) (m : SubDataNets) : Prop :=
  ∃ r', (day2AddDnn validateInt steps m).run ⟨some c, r⟩ =
    .ok () ⟨some (c.setDataNets (c.config.networkEndpoints.dataNets ++ [m])), r'⟩

/-- `day2_del_dnn` returns with exactly that DNN removed. -/
def RemovesDnn (c : Create5gModel) (r : OaiState) (dnn : String) : Prop :=
  ∃ r', (day2DelDnn validateInt steps dnn).run ⟨some c, r⟩ =
    .ok () ⟨some (c.setDataNets (c.config.networkEndpoints.dataNets.filter (fun x => decide (x.dnn ≠ dnn)))), r'⟩

/-- The hook finds the DNN that the generic method has just appended. -/
theorem addDnnToConf_raises (c : Create5gModel) (r : OaiState) (m : SubDataNets)
    (h : m ∈ c.config.networkEndpoints.dataNets) :
    (addDnnToConf validateInt steps m).run ⟨some c, r⟩ =
      .error (.blueprintNG s!"Dnn {m.dnn} already exist") ⟨some c, r⟩ := by
  have hany : c.config.networkEndpoints.dataNets.any (fun dnn => decide (dnn.dnn = m.dnn)) = true :=
    List.any_eq_true.2 ⟨m, h, decide_eq_true rfl⟩
  rw [addDnnToConf, EStateM.run_bind, Generic5G.onConfig_run, Create5gModel.checking_run]
  simp only [hany, if_true]

/-- The hook no longer finds the DNN that the generic method has just removed. -/
theorem delDnnFromConf_raises (c : Create5gModel) (r : OaiState) (dnn : String)
    (h : ∀ net ∈ c.config.networkEndpoints.dataNets, net.dnn ≠ dnn) :
    (delDnnFromConf validateInt steps dnn).run ⟨some c, r⟩ =
      .error (.valueError s!"Dnn {dnn} not found.") ⟨some c, r⟩ := by
  have hfind : c.config.networkEndpoints.dataNets.find? (fun net => decide (net.dnn = dnn)) = none := by
    rw [List.find?_eq_none]
    intro net hnet he
    exact h net hnet (of_decide_eq_true he)
  have hget : getDnn c dnn = .error (.valueError s!"Dnn {dnn} not found.") := by
    rw [getDnn, hfind]
  rw [delDnnFromConf, EStateM.run_bind, Generic5G.onConfig_run, EStateM.run_bind, EStateM.run_get]
  simp only [hget]
  rfl

theorem day2AddDnn_raises (c : Create5gModel) (r : OaiState) (m : SubDataNets) :
    ∃ e, (day2AddDnn validateInt steps m).run ⟨some c, r⟩ = .error e ⟨some c, r⟩ := by
  rw [day2AddDnn, Generic5G.day2AddDnn, Generic5G.changeConfig_run]
  cases Create5gModel.checkAddDnn m c with
  | error e => exact ⟨e, rfl⟩
  | ok _ =>
    have hook := addDnnToConf_raises validateInt steps
      (c.setDataNets (c.config.networkEndpoints.dataNets ++ [m])) r m
      (List.mem_append_right _ List.mem_cons_self)
    simp only [Generic5G.restoring_run, hook]
    exact ⟨_, rfl⟩

theorem day2DelDnn_raises (c : Create5gModel) (r : OaiState) (dnn : String) :
    ∃ e, (day2DelDnn validateInt steps dnn).run ⟨some c, r⟩ = .error e ⟨some c, r⟩ := by
  rw [day2DelDnn, Generic5G.day2DelDnn, Generic5G.changeConfig_run]
  cases Create5gModel.checkDelDnn dnn c with
  | error e => exact ⟨e, rfl⟩
  | ok _ =>
    have hook := delDnnFromConf_raises validateInt steps
      (c.setDataNets (c.config.networkEndpoints.dataNets.filter (fun x => decide (x.dnn ≠ dnn)))) r dnn
      (fun net hnet => of_decide_eq_true (List.mem_filter.1 hnet).2)
    simp only [Generic5G.restoring_run, hook]
    exact ⟨_, rfl⟩

theorem dnn_operations_never_work (c : Create5gModel) (r : OaiState) :
    (∀ m, ¬ AddsDnn validateInt steps c r m) ∧ ∀ dnn, ¬ RemovesDnn validateInt steps c r dnn := by
  constructor
  · rintro m ⟨r', h⟩
    obtain ⟨e, he⟩ := day2AddDnn_raises validateInt steps c r m
    rw [he] at h
    cases h
  · rintro dnn ⟨r', h⟩
    obtain ⟨e, he⟩ := day2DelDnn_raises validateInt steps c r dnn
    rw [he] at h
    cases h

end Values

/-- A configuration with one DNN and no slice. -/
def oneDnn : Create5gModel where
  config :=
    { networkEndpoints := { dataNets := [{ netName := "dnn", dnn := "internet", dns := "8.8.8.8", pools := [⟨"12.1.1.0/24"⟩] }] }
      plmn := "00101"
      sliceProfiles := some []
      subscribers := [] }
  areas := []

/-- Neither a new DNN can be added to the configuration nor its only one, used by no slice, deleted. -/
theorem dnn_operations_work_fails :
    ¬ ∀ (c : Create5gModel) (r : OaiState), c.Closed →
      (∀ m, ¬ c.HasDnn m.dnn → AddsDnn (fun _ => some 9) {} c r m) ∧
      ∀ dnn, c.HasDnn dnn → (∀ profile ∈ c.config.sliceProfiles.getD [], dnn ∉ profile.dnnList) →
        RemovesDnn (fun _ => some 9) {} c r dnn := by
  intro h
  have hclosed : oneDnn.Closed := ⟨by decide, by decide, by decide⟩
  obtain ⟨r', hrun⟩ := (h oneDnn { mcc := "001", mnc := "01" } hclosed).2 "internet" (by decide) (by decide)
  have hraised : Raised ((day2DelDnn (fun _ => some 9) {} "internet").run
      ⟨some oneDnn, { mcc := "001", mnc := "01" }⟩) := by decide +kernel
  rw [hrun] at hraised
  exact hraised

end OpenAirInterface

end Nfvcl
