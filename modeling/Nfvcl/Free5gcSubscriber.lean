import Mathlib.Data.List.Basic
import Nfvcl.Dicts
import Nfvcl.Free5gcValues
import Nfvcl.PyInt

namespace Nfvcl
set_option autoImplicit true
open Effects

/-! ### The record of a subscriber -/

namespace Free5gc

/-- The fields of the key material that are written. -/
structure AuthenticationSubscription where
  authenticationMethod : Option String
  permanentKeyValue : String
  opcValue : String
  deriving DecidableEq

structure Nssai where
  defaultSingleNssais : List Snssai
  singleNssais : List Snssai
  deriving DecidableEq

structure AccessAndMobilitySubscriptionData where
  gpsis : List String
  nssai : Nssai
  deriving DecidableEq

structure SessionAmbr where
  uplink : String
  downlink : String
  deriving DecidableEq

/-- The other fields always have their defaults. -/
structure DnnInfoRoot where
  field5qi : Int
  sessionAmbr : SessionAmbr
  deriving DecidableEq

structure SessionManagementSubscriptionDatum where
  singleNssai : Snssai
  dnnConfigurations : Dict String DnnInfoRoot
  deriving DecidableEq

structure DnnInfoApi where
  dnn : String
  deriving DecidableEq

structure SliceDnn where
  dnnInfos : List DnnInfoApi
  deriving DecidableEq

structure SlicePolicy where
  snssai : Snssai
  smPolicyDnnData : Dict String DnnInfoApi
  deriving DecidableEq

/-- The fields of `FlowRule` and `QosFlow` that have no default, and those of `ChargingData`. -/
structure FlowItem where
  snssai : String
  dnn : String
  qosRef : Int
  deriving DecidableEq

end Free5gc

open Free5gc

/-- `Free5gcSubScriber`; every part may be left out. `subscribed_snssai_infos` and `sm_policy_snssai_data` stand
for the records that hold nothing else. -/
structure Free5gcSubScriber where
  plmnId : Option String := none
  ueId : Option String := none
  authenticationSubscription : Option AuthenticationSubscription := none
  accessAndMobilitySubscriptionData : Option AccessAndMobilitySubscriptionData := none
  sessionManagementSubscriptionData : Option (List SessionManagementSubscriptionDatum) := none
  subscribedSnssaiInfos : Option (Dict String SliceDnn) := none
  smPolicySnssaiData : Option (Dict String SlicePolicy) := none
  flowRules : Option (List FlowItem) := none
  qosFlows : Option (List FlowItem) := none
  chargingDatas : Option (List FlowItem) := none
  deriving DecidableEq

namespace Free5gcSubScriber

abbrev SubscriberM := EStateM PyError Free5gcSubScriber

/-- Write to a part that must be there. -/
def onPart (look : Free5gcSubScriber → Option α) (put : α → Free5gcSubScriber → Free5gcSubScriber) (attr : String)
    (f : α → Except PyError α) : SubscriberM Unit := fun s =>
  match look s with
  | none => .error (.attributeError s!"'NoneType' object has no attribute '{attr}'") s
  | some part =>
    match f part with
    | .ok part => .ok () (put part s)
    | .error e => .error e s

def onAuthentication (attr : String) (f : AuthenticationSubscription → AuthenticationSubscription) : SubscriberM Unit :=
  onPart authenticationSubscription (fun part s => { s with authenticationSubscription := some part }) attr (fun part => .ok (f part))

def onAccess (attr : String) (f : AccessAndMobilitySubscriptionData → AccessAndMobilitySubscriptionData) : SubscriberM Unit :=
  onPart accessAndMobilitySubscriptionData (fun part s => { s with accessAndMobilitySubscriptionData := some part }) attr
    (fun part => .ok (f part))

def onSessions (attr : String) (f : List SessionManagementSubscriptionDatum → List SessionManagementSubscriptionDatum) :
    SubscriberM Unit :=
  onPart sessionManagementSubscriptionData (fun part s => { s with sessionManagementSubscriptionData := some part }) attr
    (fun part => .ok (f part))

def onInfos (f : Dict String SliceDnn → Except PyError (Dict String SliceDnn)) : SubscriberM Unit :=
  onPart subscribedSnssaiInfos (fun part s => { s with subscribedSnssaiInfos := some part }) "subscribed_snssai_infos" f

def onPolicies (f : Dict String SlicePolicy → Except PyError (Dict String SlicePolicy)) : SubscriberM Unit :=
  onPart smPolicySnssaiData (fun part s => { s with smPolicySnssaiData := some part }) "sm_policy_snssai_data" f

def clearValue : SubscriberM Unit := do
  onAccess "nssai" (fun access => { access with nssai := { access.nssai with defaultSingleNssais := [] } })
  onAccess "nssai" (fun access => { access with nssai := { access.nssai with singleNssais := [] } })
  onSessions "clear" (fun _ => [])
  onInfos (fun _ => .ok .empty)
  onPolicies (fun _ => .ok .empty)
  onPart flowRules (fun part s => { s with flowRules := some part }) "clear" (fun _ => .ok [])
  onPart qosFlows (fun part s => { s with qosFlows := some part }) "clear" (fun _ => .ok [])
  onPart chargingDatas (fun part s => { s with chargingDatas := some part }) "clear" (fun _ => .ok [])

/-- The key of a slice in the two dictionaries. -/
def sliceKey (profile : SubSliceProfiles) : String :=
  s!"0{profile.sliceType.toInt}{profile.sliceId}"

/-- `pduSessions[0].flows[0].qi`. -/
def firstQi (params : SubProfileParams) : Except PyError String :=
  match params.pduSessions with
  | [] => .error (.indexError "list index out of range")
  | session :: _ =>
    match session.flows with
    | [] => .error (.indexError "list index out of range")
    | flow :: _ => .ok flow.qi

def sessionAmbr (params : SubProfileParams) : Except PyError SessionAmbr :=
  match params.sliceAmbr with
  | some ambr => .ok ⟨ambr, ambr⟩
  | none => .error (.validationError "uplink")

def dnnInfoRoot (params : SubProfileParams) : Except PyError DnnInfoRoot := do
  let qi ← firstQi params
  let field5qi ← PyInt.parse qi
  let ambr ← sessionAmbr params
  return ⟨field5qi, ambr⟩

/-- `subscribed_snssai_infos.root[key].dnn_infos.append(DnnInfoApi(dnn=dnn))`. -/
def appendDnnInfo (key dnn : String) (infos : Dict String SliceDnn) : Except PyError (Dict String SliceDnn) :=
  match infos.get? key with
  | some slice => .ok (infos.set key ⟨slice.dnnInfos ++ [⟨dnn⟩]⟩)
  | none => .error (.keyError key)

/-- `sm_policy_snssai_data.root[key].sm_policy_dnn_data.root[dnn] = DnnInfoApi(dnn=dnn)`. -/
def setPolicyDnn (key dnn : String) (policies : Dict String SlicePolicy) : Except PyError (Dict String SlicePolicy) :=
  match policies.get? key with
  | some policy => .ok (policies.set key { policy with smPolicyDnnData := policy.smPolicyDnnData.set dnn ⟨dnn⟩ })
  | none => .error (.keyError key)

/-- A data network of the slice, put into the three structures; the first is not part of the record yet. -/
def addDnn (profile : SubSliceProfiles) (configurations : Dict String DnnInfoRoot) (net : SubDataNets) :
    SubscriberM (Dict String DnnInfoRoot) := do
  let root ← Generic5G.liftExcept (dnnInfoRoot profile.profileParams)
  onInfos (appendDnnInfo (sliceKey profile) net.dnn)
  onPolicies (setPolicyDnn (sliceKey profile) net.dnn)
  return configurations.set net.dnn root

def addSlice (c : Create5gModel) (profile : SubSliceProfiles) : SubscriberM Unit := do
  let snssai ← Generic5G.liftExcept (Free5gc.Snssai.make profile.sliceType.toInt profile.sliceId)
  onAccess "nssai" (fun access =>
    { access with nssai := { access.nssai with defaultSingleNssais := access.nssai.defaultSingleNssais ++ [snssai] } })
  onPolicies (fun policies => .ok (policies.set (sliceKey profile) ⟨snssai, .empty⟩))
  onInfos (fun infos => .ok (infos.set (sliceKey profile) ⟨[]⟩))
  let configurations ← profile.dnnList.foldlM (fun configurations dnnSlice =>
    c.config.networkEndpoints.dataNets.foldlM (fun configurations net =>
      if dnnSlice = net.dnn then addDnn profile configurations net else pure configurations) configurations) Dict.empty
  onSessions "append" (fun sessions => sessions ++ [⟨snssai, configurations⟩])

def addSubscriber (c : Create5gModel) (gpsi : Option String) (subscriber : SubSubscribers) : SubscriberM Unit := do
  match gpsi with
  | some gpsi => if gpsi ≠ "" then onAccess "gpsis" (fun access => { access with gpsis := [s!"msisdn-{gpsi}"] })
  | none => pure ()
  modify (fun s => { s with ueId := some s!"imsi-{subscriber.imsi}" })
  onAuthentication "authentication_method" (fun auth => { auth with authenticationMethod := subscriber.authenticationMethod })
  onAuthentication "opc" (fun auth => { auth with opcValue := subscriber.opc })
  onAuthentication "permanent_key" (fun auth => { auth with permanentKeyValue := subscriber.k })
  forM subscriber.snssai (fun slice => do
    let profiles ← Generic5G.liftExcept (iterate c.config.sliceProfiles)
    forM profiles (fun profile =>
      if profile.sliceId = slice.sliceId ∧ profile.sliceType = slice.sliceType then addSlice c profile else pure ()))

/-- `qosRef` is counted and not read. -/
def updateSubscriberConfig (ueId : String) (c : Create5gModel) (gpsi : Option String := none) : SubscriberM Unit := do
  clearValue
  modify (fun s => { s with plmnId := some c.config.plmn })
  forM c.config.subscribers (fun subscriber =>
    if ueId = subscriber.imsi then addSubscriber c gpsi subscriber else pure ())

end Free5gcSubScriber

end Nfvcl
