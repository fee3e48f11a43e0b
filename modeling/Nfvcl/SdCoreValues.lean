import Mathlib.Data.List.Basic
import Nfvcl.AddressText
import Nfvcl.Generic5GEdge
import Nfvcl.GnbConfigs
import Nfvcl.ListUpdates
import Nfvcl.PyInt
import Nfvcl.UpfBlueprints

namespace Nfvcl
set_option autoImplicit true
open Effects ListUpdates

namespace SdCore

structure Subscriber where
  ueIdStart : String
  ueIdEnd : String
  plmnId : String
  opc : String
  op : String
  key : String
  sequenceNumber : String
  deriving DecidableEq, Repr

structure TrafficClass where
  name : String
  qci : Int
  arp : Int
  pdb : Int
  pelr : Int
  deriving DecidableEq, Repr

structure UeDnnQos where
  dnnMbrDownlink : Int
  dnnMbrUplink : Int
  bitrateUnit : String
  trafficClass : TrafficClass
  deriving DecidableEq, Repr

structure IpDomainExpanded where
  dnn : String
  dnsPrimary : String
  mtu : Int
  ueIpPool : String
  ueDnnQos : UeDnnQos
  deriving DecidableEq, Repr

structure DeviceGroup where
  name : String
  imsis : List String
  ipDomainName : String
  ipDomainExpanded : IpDomainExpanded
  siteInfo : String
  deriving DecidableEq, Repr

structure SliceId where
  sd : String
  sst : Int
  deriving DecidableEq, Repr

structure ApplicationFilteringRule where
  ruleName : String
  priority : Int
  action : String
  endpoint : String
  deriving DecidableEq, Repr

structure GNodeB where
  name : String
  tac : Int
  deriving DecidableEq, Repr

structure Plmn where
  mcc : String
  mnc : String
  deriving DecidableEq, Repr

structure Upf where
  upfName : String
  upfPort : Int
  deriving DecidableEq, Repr

structure SiteInfo where
  gNodeBs : List GNodeB
  plmn : Plmn
  siteName : String
  upf : Upf
  deriving DecidableEq, Repr

structure NetworkSlice where
  name : String
  sliceId : SliceId
  siteDeviceGroup : List String
  applicationFilteringRules : List ApplicationFilteringRule
  siteInfo : SiteInfo
  deriving DecidableEq, Repr

end SdCore

open SdCore

/-- The fields that the methods read and write. -/
structure SimAppYamlConfiguration where
  subscribers : List SdCore.Subscriber := []
  deviceGroups : List DeviceGroup := []
  networkSlices : List NetworkSlice := []
  extPlmn : Option String := none
  extDataNets : Option (List SubDataNets) := none
  deriving DecidableEq, Repr

namespace SimAppYamlConfiguration

abbrev ValuesM := EStateM PyError SimAppYamlConfiguration

def sliceName (sliceId : String) : String := s!"slice_{sliceId}"

def deviceGroupName (sliceId : String) : String := s!"device-group-{sliceName sliceId}"

def siteName (sliceId : String) : String := s!"site-{sliceName sliceId}"

/-- `ambr.split(" ")`. -/
def ambrParts (ambr : Option String) : Except PyError (List String) :=
  match ambr with
  | none => .error (.attributeError "'NoneType' object has no attribute 'split'")
  | some text => .ok ((splitChars ' ' text.toList).map String.ofList)

/-- `items[i]`. -/
def item (items : List α) (i : Nat) : Except PyError α :=
  match items[i]? with
  | some x => .ok x
  | none => .error (.indexError "list index out of range")

/-- `__get_areas_with_slice`, the ids. -/
def areasWithSlice (c : Create5gModel) (profile : SubSliceProfiles) : Except PyError (List Int) := do
  let ids ← c.areas.mapM (fun area => do
    let slices ← iterate area.slices
    return (slices.filter (fun slice => decide (slice.sliceId = profile.sliceId))).map (fun _ => area.id))
  return ids.flatten

section Values

-- `str.lower`
variable (lower : String → String)

/-- `ambr.split(" ")[1].lower()`. -/
def ambrUnit (ambr : Option String) : Except PyError String := do
  let parts ← ambrParts ambr
  return lower (← item parts 1)

/-- `int(ambr.split(" ")[0])`. -/
def ambrAmount (ambr : Option String) : Except PyError Int := do
  let parts ← ambrParts ambr
  PyInt.parse (← item parts 0)

/-- The network slice and the device group of a profile; nothing is appended before both are made. -/
def sliceValues (extPlmn : Option String) (extDataNets : Option (List SubDataNets)) (profile : SubSliceProfiles) (areaId : Option Int) :
    Except PyError (NetworkSlice × DeviceGroup) := do
  match profile.dnnList with
  | [dnn] =>
    let nets ← iterate extDataNets
    let net ← Generic5G.first (nets.filter (fun net => decide (net.dnn = dnn)))
    let downlink ← ambrUnit lower net.downlinkAmbr
    let uplink ← ambrUnit lower net.uplinkAmbr
    if downlink ≠ uplink then throw (.valueError "SD-Core does not support different units for downlinkAmbr and uplinkAmbr")
    else if downlink ∉ ["mbps", "gbps", "kbps"] then
      throw (.valueError "Unsupported unit for downlinkAmbr/uplinkAmbr, use one of [mbps, gbps, kbps]")
    else
      match extPlmn with
      | none => throw (.typeError "'NoneType' object is not subscriptable")
      | some plmn =>
        let pool ← Generic5G.first net.pools
        let mbrDownlink ← ambrAmount net.downlinkAmbr
        let mbrUplink ← ambrAmount net.uplinkAmbr
        return (
          { name := sliceName profile.sliceId
            sliceId := ⟨profile.sliceId, profile.sliceType.toInt⟩
            siteDeviceGroup := [deviceGroupName profile.sliceId]
            applicationFilteringRules := [⟨"ALLOW-ALL", 250, "permit", "0.0.0.0/0"⟩]
            siteInfo :=
              { gNodeBs := areaId.toList.map (fun id => ⟨s!"gnb{id}", id⟩)
                plmn := ⟨String.ofList (plmn.toList.take 3), String.ofList (plmn.toList.drop 3)⟩
                siteName := siteName profile.sliceId
                upf := ⟨"PLACEHOLDER", 8805⟩ } },
          { name := deviceGroupName profile.sliceId
            imsis := []
            ipDomainName := "pool1"
            ipDomainExpanded :=
              { dnn := net.dnn
                dnsPrimary := net.dns
                mtu := 1410
                ueIpPool := pool.cidr
                ueDnnQos := ⟨mbrDownlink, mbrUplink, downlink, ⟨"platinum", 9, 6, 300, 6⟩⟩ }
            siteInfo := siteName profile.sliceId })
  | _ => throw (.valueError "config.sliceProfiles[].dnnList need to be of size 1")

def addSliceFromGenericModel (profile : SubSliceProfiles) (areaId : Option Int) : ValuesM NetworkSlice := do
  let s ← get
  let (networkSlice, deviceGroup) ← Generic5G.liftExcept (sliceValues lower s.extPlmn s.extDataNets profile areaId)
  modify (fun s => { s with
    deviceGroups := s.deviceGroups ++ [deviceGroup]
    networkSlices := s.networkSlices ++ [networkSlice] })
  return networkSlice

def subscriberOf (plmn : String) (generic : SubSubscribers) : SdCore.Subscriber where
  ueIdStart := generic.imsi
  ueIdEnd := generic.imsi
  plmnId := plmn
  opc := generic.opc
  op := ""
  key := generic.k
  sequenceNumber := "16f3b3f70fc2"

/-- The imsi goes into the first device group of the first slice with the id. -/
def addImsi (imsi : String) (snssai : SubSnssai) : ValuesM Unit := do
  let s ← get
  let slice ← Generic5G.liftExcept (Generic5G.first (s.networkSlices.filter (fun slice => decide (slice.sliceId.sd = snssai.sliceId))))
  let name ← Generic5G.liftExcept (Generic5G.first slice.siteDeviceGroup)
  match updateFirst (fun group => decide (group.name = name)) (fun group => { group with imsis := group.imsis ++ [imsi] }) s.deviceGroups with
  | some groups => set { s with deviceGroups := groups }
  | none => throw (.indexError "list index out of range")

/-- pydantic refuses a subscriber whose PLMN is `None`. -/
def addSubscriberFromGenericModel (generic : SubSubscribers) : ValuesM Unit := do
  match (← get).extPlmn with
  | none => throw (.validationError "plmn_id")
  | some plmn =>
    modify (fun s => { s with subscribers := s.subscribers ++ [subscriberOf plmn generic] })
    forM generic.snssai (addImsi generic.imsi)

/-- The loop over a list that `remove` takes elements out of: the iterator goes on by its index. -/
def removeIterating (imsi : String) : Nat → Nat → List String → List String
  | 0, _, imsis => imsis
  | n + 1, i, imsis =>
    match imsis[i]? with
    | none => imsis
    | some found => removeIterating imsi n (i + 1) (if found = imsi then imsis.erase found else imsis)

def deleteSubscriber (imsi : String) : ValuesM Unit := do
  let s ← get
  match s.subscribers.find? (fun subscriber => decide (subscriber.ueIdStart = imsi)) with
  | none => throw (.valueError s!"Subscriber {imsi} does not exist")
  | some subscriber =>
    let groups := s.deviceGroups.map (fun group =>
      { group with imsis := removeIterating subscriber.ueIdStart group.imsis.length 0 group.imsis })
    set { s with deviceGroups := groups, subscribers := s.subscribers.erase subscriber }

def deleteSlice (sliceId : String) : ValuesM Unit := do
  let s ← get
  match s.networkSlices.find? (fun slice => decide (slice.name = sliceName sliceId)),
      s.deviceGroups.find? (fun group => decide (group.name = deviceGroupName sliceId)) with
  | some slice, some group =>
    set { s with networkSlices := s.networkSlices.erase slice, deviceGroups := s.deviceGroups.erase group }
  | _, _ => throw (.valueError s!"Slice {sliceId} does not exist")

/-- The area of a slice, if it is offered in exactly one. -/
def onlyArea : List Int → Option Int
  | [areaId] => some areaId
  | _ => none

def fromGeneric5gModel (c : Create5gModel) : ValuesM Unit := do
  set ({ extDataNets := some c.config.networkEndpoints.dataNets, extPlmn := some c.config.plmn } : SimAppYamlConfiguration)
  let profiles ← Generic5G.liftExcept (iterate c.config.sliceProfiles)
  forM profiles (fun profile => do
    let areas ← Generic5G.liftExcept (areasWithSlice c profile)
    let _ ← addSliceFromGenericModel lower profile (onlyArea areas)
    return ())
  forM c.config.subscribers addSubscriberFromGenericModel

end Values

end SimAppYamlConfiguration

end Nfvcl
