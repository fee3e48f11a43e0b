import Mathlib.Data.List.Basic
import Nfvcl.NetworkModels

namespace Nfvcl
set_option autoImplicit true

structure Pool where
  cidr : String
  deriving DecidableEq, Repr

structure SubDataNets where
  netName : String
  dnn : String
  dns : String
  pools : List Pool
  uplinkAmbr : Option String := none
  downlinkAmbr : Option String := none
  default5qi : Option String := none
  deriving DecidableEq, Repr

structure Router5GNetworkInfo where
  n3Ip : IPv4Address
  n6Ip : IPv4Address
  gnbIp : IPv4Address
  gnbCidr : IPv4Network
  deriving DecidableEq, Repr

structure NetworkEndPoints where
  mgt : Option String := none
  wan : Option String := none
  dataNets : List SubDataNets
  deriving DecidableEq, Repr

inductive SliceType where
  | embb | urllc | mmtc
  deriving DecidableEq, Repr

inductive IsolationLevel where
  | isolation | noIsolation
  deriving DecidableEq, Repr

structure SubFlows where
  flowId : String
  ipAddrFilter : Option String := none
  qi : String
  gfbr : Option String := none
  deriving DecidableEq, Repr

structure SubpduSessions where
  pduSessionId : String
  pduSessionAmbr : Option String := none
  flows : List SubFlows := []
  deriving DecidableEq, Repr

structure SubProfileParams where
  isolationLevel : IsolationLevel
  sliceAmbr : Option String := some "1000Mbps"
  ueAmbr : Option String := some "50Mbps"
  maximumNumberUE : Option Int := none
  pduSessions : List SubpduSessions
  deriving DecidableEq, Repr

structure SubLocationConstraints where
  geographicalAreaId : String
  tai : String
  deriving DecidableEq, Repr

structure SubEnabledUEList where
  iccid : String := "*"
  deriving DecidableEq, Repr

structure SubSliceProfiles where
  sliceId : String
  sliceType : SliceType
  dnnList : List String := []
  profileParams : SubProfileParams
  locationConstraints : List SubLocationConstraints
  enabledUEList : List SubEnabledUEList
  deriving DecidableEq, Repr

structure SubSnssai where
  sliceId : String
  sliceType : SliceType
  pduSessionIds : List String
  defaultSlice : Option Bool := none
  deriving DecidableEq, Repr

structure SubSubscribers where
  imsi : String
  k : String
  opc : String
  snssai : List SubSnssai
  authenticationMethod : Option String := some "5G_AKA"
  authenticationManagementField : Option String := some "8000"
  deriving DecidableEq, Repr

/-- The slice profiles may be left out of the request, and are then `None`. -/
structure SubConfig where
  networkEndpoints : NetworkEndPoints
  plmn : String
  sliceProfiles : Option (List SubSliceProfiles) := none
  subscribers : List SubSubscribers
  deriving DecidableEq, Repr

structure SubSlices where
  sliceType : SliceType
  sliceId : String
  deriving DecidableEq, Repr

structure SubAreaNetwork where
  n3 : Option String := none
  n6 : Option String := none
  gnb : Option String := none
  externalRouter : Option Router5GNetworkInfo := none
  deriving DecidableEq, Repr

structure SubAreaUPF where
  type : String
  external : Option Bool := some false
  deriving DecidableEq, Repr

/-- A request without `upf` gets an empty list there, which is not validated: `none` here. -/
structure SubArea where
  id : Int
  nci : String
  idLength : Int
  core : Bool := true
  upf : Option SubAreaUPF := none
  networks : SubAreaNetwork
  slices : Option (List SubSlices) := some []
  deriving DecidableEq, Repr

structure Create5gModel where
  callbackURL : Option String := none
  config : SubConfig
  areas : List SubArea
  deriving DecidableEq, Repr

structure Core5GAddSliceModel extends SubSliceProfiles where
  areaIds : Option (List String) := none
  deriving DecidableEq, Repr

/-- Iterating over an optional list. -/
def iterate (items : Option (List α)) : Except PyError (List α) :=
  match items with
  | some items => .ok items
  | none => .error (.typeError "'NoneType' object is not iterable")

namespace Create5gModel

def getArea (c : Create5gModel) (areaId : Int) : Option SubArea :=
  c.areas.find? (fun area => decide (area.id = areaId))

/-- `get_slice_profile` returns `None` when there is no such profile. -/
def getSliceProfile (c : Create5gModel) (sliceId : String) : Except PyError (Option SubSliceProfiles) := do
  let profiles ← iterate c.config.sliceProfiles
  return profiles.find? (fun slice => decide (slice.sliceId = sliceId))

def getSlicesProfilesForArea (c : Create5gModel) (areaId : Int) :
    Except PyError (List (Option SubSliceProfiles)) := do
  let perArea ← (c.areas.filter (fun area => decide (area.id = areaId))).mapM (fun area => do
    let slices ← iterate area.slices
    slices.mapM (fun slice => c.getSliceProfile slice.sliceId))
  return perArea.flatten

/-- `configuration_feasibility_check`. -/
def configurationFeasibilityCheck (c : Create5gModel) : Except PyError Unit := do
  let profiles ← iterate c.config.sliceProfiles
  let ddns := profiles.flatMap SubSliceProfiles.dnnList
  if ddns.dedup.length < ddns.length then
    throw (.blueprintNG "Cannot have multiple slices with the same DNN")

end Create5gModel

end Nfvcl
