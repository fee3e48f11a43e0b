import Mathlib.Data.List.Basic
import Nfvcl.Free5gcValues
import Nfvcl.Numerals
import Nfvcl.OaiCore

namespace Nfvcl
set_option autoImplicit true
open Effects KeyedList

/-- The AMBR and the 5qi of a DNN in a session management subscription. -/
structure DnnConfiguration where
  dnn : String
  uplink : String
  downlink : String
  fiveQi : Int
  deriving DecidableEq, Repr

/-- The requests to the UDR. -/
inductive UdrRequest where
  | putUe (subscriber : SubSubscribers)
  | deleteUe (imsi : String)
  | putSession (imsi plmn : String) (snssai : Snssai) (configurations : List DnnConfiguration)
  | deleteSession (imsi plmn : String) (snssai : Snssai)
  deriving DecidableEq, Repr

/-- The status code of the answer to the `n`-th request, or what is raised instead. -/
abbrev Udr := UdrRequest → Nat → Except PyError Nat

/-- The blueprint, and the requests that were sent. -/
structure UdrState extends OaiState where
  requests : List UdrRequest := []
  deriving DecidableEq, Repr

def hexValue (ch : Char) : Nat :=
  if ch ≤ '9' then ch.toNat - 48 else if ch ≤ 'F' then ch.toNat - 55 else ch.toNat - 87

/-- `int(text, 16)`, for the digits that the field of a slice id accepts. -/
def hexInt (text : String) : Except PyError Nat :=
  if text ≠ "" ∧ ∀ ch ∈ text.toList, Free5gc.isHexDigit ch = true then .ok (Numerals.value 16 (text.toList.map hexValue))
  else .error (.valueError "invalid literal for int() with base 16")

/-- `hex(n)[2:]`. -/
def hexTail : Int → String
  | .ofNat n => String.ofList (Nat.toDigits 16 n)
  | .negSucc n => String.ofList ('x' :: Nat.toDigits 16 (n + 1))

namespace OpenAirInterface

abbrev UeM := EStateM PyError (Generic5GState UdrState)

def onOai (m : OaiM α) : UeM α :=
  zoom (fun s => ⟨s.currentConfig, s.rest.toOaiState⟩)
    (fun t s => ⟨t.currentConfig, { s.rest with toOaiState := t.rest }⟩) m

def getSubscriber (c : Create5gModel) (imsi : String) : Except PyError SubSubscribers :=
  match c.config.subscribers.find? (fun subscriber => decide (subscriber.imsi = imsi)) with
  | some subscriber => .ok subscriber
  | none => .error (.valueError s!"Subscriber with imsi: {imsi} not found.")

/-- `subscriber.snssai[0]`. -/
def firstSnssai (subscriber : SubSubscribers) : Except PyError SubSnssai :=
  match subscriber.snssai with
  | snssai :: _ => .ok snssai
  | [] => .error (.indexError "list index out of range")

/-- `int(value)` of an optional text. -/
def intOf (value : Option String) : Except PyError Int :=
  match value with
  | some text => PyInt.parse text
  | none => .error (.typeError "int() argument must be a string, a bytes-like object or a real number, not 'NoneType'")

def dnnConfiguration (c : Create5gModel) (dnn : String) : Except PyError DnnConfiguration := do
  let subDnn ← getDnn c dnn
  let uplink ← ambr subDnn.uplinkAmbr
  let downlink ← ambr subDnn.downlinkAmbr
  let fiveQi ← intOf subDnn.default5qi
  return ⟨dnn, uplink, downlink, fiveQi⟩

/-- `add_configuration`. -/
def addConfiguration (configurations : List DnnConfiguration) (configuration : DnnConfiguration) : List DnnConfiguration :=
  if configuration ∈ configurations then configurations
  else if (toMap DnnConfiguration.dnn configurations configuration.dnn).isSome then
    replace DnnConfiguration.dnn configurations configuration
  else
    configurations ++ [configuration]

/-- The slice of a subscriber as `ue_dict` keeps it. -/
def singleNssai (snssai : SubSnssai) : Except PyError Snssai := do
  let n ← hexInt snssai.sliceId
  return ⟨snssai.sliceType.toInt, toString n⟩

/-- `hex(int(sd))[2:].zfill(6)`. -/
def recoveredSliceId (sd : String) : Except PyError String := do
  let n ← PyInt.parse sd
  return zfill 6 (hexTail n)

/-- `ue_dict[imsi] = list`. -/
def storeUe (imsi : String) (snssais : List Snssai) (ueDict : List (String × List Snssai)) : List (String × List Snssai) :=
  if (toMap Prod.fst ueDict imsi).isSome then replace Prod.fst ueDict (imsi, snssais) else ueDict ++ [(imsi, snssais)]

/-- `ue_dict[imsi].remove(sms)`, and the key with it if nothing is left. -/
def removeSms (imsi : String) (sms : Snssai) (ueDict : List (String × List Snssai)) : List (String × List Snssai) :=
  match toMap Prod.fst ueDict imsi with
  | none => ueDict
  | some (_, snssais) =>
    if snssais.erase sms = [] then KeyedList.erase Prod.fst ueDict imsi
    else replace Prod.fst ueDict (imsi, snssais.erase sms)

def updateUes (f : List (String × List Snssai) → List (String × List Snssai)) : UeM Unit :=
  modify (fun s => { s with rest := { s.rest with ueDict := f s.rest.ueDict } })

section Udr

variable (udr : Udr)

def request (req : UdrRequest) : UeM Nat := fun s =>
  let sent := { s with rest := { s.rest with requests := s.rest.requests ++ [req] } }
  match udr req s.rest.requests.length with
  | .ok status => .ok status sent
  | .error e => .error e sent

def addSubscriberToConf (newSubscriber : SubSubscribers) : UeM Unit := do
  let _ ← request udr (.putUe newSubscriber)

def delSubscriberToConf (imsi : String) : UeM Unit := do
  let status ← request udr (.deleteUe imsi)
  if status ≠ 204 then
    throw (.blueprintNG s!"Subscriber with imsi: {imsi} not deleted")

/-- The loop over the DNNs of the slice; the payload grows with each. -/
def putSessions (imsi plmn : String) (snssai : Snssai) (configurations : List DnnConfiguration) : List String → UeM Unit
  | [] => pure ()
  | dnn :: dnns => do
    let configuration ← Generic5G.onConfig "config" (do let c ← get; Generic5G.liftExcept (dnnConfiguration c dnn))
    let payload := addConfiguration configurations configuration
    let _ ← request udr (.putSession imsi plmn snssai payload)
    putSessions imsi plmn snssai payload dnns

def associatingSubscriberWithSlice (imsi : String) : UeM Unit := do
  let s ← get
  if imsi ∈ s.rest.ueDict.map Prod.fst then
    throw (.blueprintNG s!"Subscriber with imsi: {imsi} already associated to a slice")
  let (subSlice, snssai, plmn) ← Generic5G.onConfig "config" (do
    let c ← get
    Generic5G.liftExcept (do
      let subscriber ← getSubscriber c imsi
      let first ← firstSnssai subscriber
      let subSlice ← getSlice c first.sliceId
      let snssai ← singleNssai first
      return (subSlice, snssai, c.config.plmn)))
  updateUes (storeUe imsi [snssai])
  putSessions udr imsi plmn snssai [] subSlice.dnnList

/-- The loop over `ue_dict[imsi]`, from a position; the loop takes items out of the list it goes through. -/
def disassociateFrom (imsi plmn : String) : Nat → Nat → UeM Unit
  | 0, _ => pure ()
  | rounds + 1, i => do
    let s ← get
    match (((toMap Prod.fst s.rest.ueDict imsi).map Prod.snd).getD [])[i]? with
    | none => pure ()
    | some sms =>
      let status ← request udr (.deleteSession imsi plmn sms)
      if status = 204 then
        updateUes (removeSms imsi sms)
      disassociateFrom imsi plmn rounds (i + 1)

variable (validateInt : String → Option Int) (steps : Steps)

def disassociatingSubscriberFromSlice (imsi : String) : UeM Unit := do
  let s ← get
  match toMap Prod.fst s.rest.ueDict imsi with
  | none => throw (.keyError imsi)
  | some (_, snssais) =>
    let plmn ← Generic5G.onConfig "config" (do let c ← get; return c.config.plmn)
    disassociateFrom udr imsi plmn snssais.length 0
  onOai (updateCoreValues validateInt)
  onOai steps.updateCore
  onOai steps.updateGnbConfig

def addUes (subscriberModel : SubSubscribers) : UeM Unit := do
  addSubscriberToConf udr subscriberModel
  associatingSubscriberWithSlice udr subscriberModel.imsi

def delUes (imsi : String) : UeM Unit := do
  disassociatingSubscriberFromSlice udr validateInt steps imsi
  delSubscriberToConf udr imsi

/-- The subscribers for whom an item of `ue_dict` decodes to the slice, one for each such item. -/
def subscribersOf (ueDict : List (String × List Snssai)) (sliceId : String) (subscriber : SubSubscribers) :
    Except PyError (List SubSubscribers) :=
  match toMap Prod.fst ueDict subscriber.imsi with
  | none => .error (.keyError subscriber.imsi)
  | some (_, snssais) => do
    let ids ← snssais.mapM (fun snssai => recoveredSliceId snssai.sd)
    return (ids.filter (fun id => decide (id = sliceId))).map (fun _ => subscriber)

/-- `sliceProfiles.remove(old_slice)`, then `append`. -/
def replaceProfile (oldSlice newSlice : SubSliceProfiles) (c : Create5gModel) : Create5gModel :=
  c.setSliceProfiles (c.config.sliceProfiles.map (fun profiles => profiles.erase oldSlice ++ [newSlice]))

def reassociate (subscriber : SubSubscribers) : UeM Unit := do
  disassociatingSubscriberFromSlice udr validateInt steps subscriber.imsi
  associatingSubscriberWithSlice udr subscriber.imsi

def updateSlice (updateSliceModel : SubSliceProfiles) : UeM Unit := do
  let s ← get
  let (oldSlice, subscribers) ← Generic5G.onConfig "config" (do
    let c ← get
    Generic5G.liftExcept (do
      let oldSlice ← getSlice c updateSliceModel.sliceId
      let _ ← updateSliceModel.dnnList.mapM (getDnn c)
      let subscribers ← c.config.subscribers.mapM (subscribersOf s.rest.ueDict updateSliceModel.sliceId)
      return (oldSlice, subscribers.flatten)))
  Generic5G.onConfig "config" (modify (replaceProfile oldSlice updateSliceModel))
  forM subscribers (reassociate udr validateInt steps)
  onOai (updateCoreValues validateInt)
  onOai steps.updateCore
  onOai steps.updateEdgeAreas
  onOai steps.updateGnbConfig

/-- Asking the iterator of `ue_dict.keys()` for the next key. -/
def sameSize (size : Nat) : UeM Unit := do
  let s ← get
  if s.rest.ueDict.length ≠ size then
    throw (.runtimeError "dictionary changed size during iteration")

/-- The sd, which is decimal, is compared with the slice id as it is. -/
def delSliceOf (sliceId imsi : String) : UeM Unit := do
  let s ← get
  match toMap Prod.fst s.rest.ueDict imsi with
  | none => throw (.keyError imsi)
  | some (_, snssais) =>
    forM (snssais.filter (fun snssai => decide (sliceId = snssai.sd)))
      (fun _ => disassociatingSubscriberFromSlice udr validateInt steps imsi)

def delSliceFrom (sliceId : String) (size : Nat) : List String → UeM Unit
  | [] => sameSize size
  | imsi :: imsis => do
    sameSize size
    delSliceOf udr validateInt steps sliceId imsi
    delSliceFrom sliceId size imsis

def delSlice (sliceId : String) : UeM Unit := do
  let s ← get
  delSliceFrom udr validateInt steps sliceId s.rest.ueDict.length (s.rest.ueDict.map Prod.fst)
  onOai steps.updateEdgeAreas
  onOai (updateCoreValues validateInt)
  onOai steps.updateCore
  onOai steps.updateEdgeAreas
  onOai steps.updateGnbConfig

end Udr

end OpenAirInterface

end Nfvcl
