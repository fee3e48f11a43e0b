import Mathlib.Data.List.Basic
import Nfvcl.KeyedList
import Nfvcl.ListUpdates
import Nfvcl.OaiCore
import Nfvcl.Retries

namespace Nfvcl
set_option autoImplicit true
open Effects ListUpdates

/-! ### The values of the chart -/

namespace Free5gc

def isHexDigit (ch : Char) : Bool :=
  ('0' ≤ ch && ch ≤ '9') || ('a' ≤ ch && ch ≤ 'f') || ('A' ≤ ch && ch ≤ 'F')

/-- Over the characters of a text, and not over all characters. -/
instance decidableForallMem {p : Char → Prop} [DecidablePred p] (chars : List Char) :
    Decidable (∀ ch ∈ chars, p ch) :=
  List.decidableBAll p chars

/-- Six hexadecimal digits. -/
def IsCode (text : String) : Prop :=
  text.length = 6 ∧ ∀ ch ∈ text.toList, isHexDigit ch = true

instance (text : String) : Decidable (IsCode text) :=
  inferInstanceAs (Decidable (_ ∧ _))

/-- The text of a `sd` or a `tac`. -/
structure Code where
  text : String
  isCode : IsCode text
  deriving DecidableEq

/-- The validator of these fields accepts the text. -/
def Accepted (text : String) : Prop :=
  text.length ≤ 6 ∧ IsCode (zfill 6 text)

instance (text : String) : Decidable (Accepted text) :=
  inferInstanceAs (Decidable (_ ∧ _))

def Code.check (text : String) : Except PyError Code :=
  if h : Accepted text then .ok ⟨zfill 6 text, h.2⟩
  else .error (.exception "Slice must be in range 000000~FFFFFF")

structure Snssai where
  sst : Int
  sd : Code
  deriving DecidableEq

def Snssai.make (sst : Int) (sd : String) : Except PyError Snssai := do
  let sd ← Code.check sd
  return ⟨sst, sd⟩

structure PlmnId where
  mcc : String
  mnc : String
  deriving DecidableEq

structure Tai where
  plmnId : PlmnId
  tac : Code
  deriving DecidableEq

def Tai.make (plmnId : PlmnId) (tac : String) : Except PyError Tai := do
  let tac ← Code.check tac
  return ⟨plmnId, tac⟩

structure GuamiItem where
  plmnId : PlmnId
  amfId : String
  deriving DecidableEq

/-- An item of a list of slices for each PLMN. -/
structure PlmnItem where
  plmnId : PlmnId
  snssaiList : List Snssai
  deriving DecidableEq

structure DnnInfo where
  dnn : String
  ipv4 : String
  ipv6 : Option String
  deriving DecidableEq

structure SnssaiInfo where
  sNssai : Snssai
  dnnInfos : List DnnInfo
  deriving DecidableEq

structure DnnUpfInfoListItem where
  dnn : String
  pools : List Pool
  deriving DecidableEq

structure SNssaiUpfInfo where
  sNssai : Snssai
  dnnUpfInfoList : List DnnUpfInfoListItem
  deriving DecidableEq

structure Interface where
  interfaceType : String
  endpoints : List String
  networkInstances : List String
  deriving DecidableEq

structure Upf where
  nodeId : String
  addr : String
  sNssaiUpfInfos : List SNssaiUpfInfo
  interfaces : List Interface
  deriving DecidableEq

inductive Node where
  | gnb
  | upf (upf : Upf)
  deriving DecidableEq

structure Link where
  a : String
  b : String
  deriving DecidableEq

structure NsiListItem where
  snssai : Snssai
  nrfId : String
  nsiId : Nat
  deriving DecidableEq

/-- An item of a list of slices for each tracking area. -/
structure TaiItem where
  tai : Tai
  supportedSnssaiList : List Snssai
  deriving DecidableEq

structure AmfSetListItem where
  amfSetId : Nat
  nrfAmfSet : String
  supportedNssaiAvailabilityData : List TaiItem
  deriving DecidableEq

end Free5gc

open Free5gc

/-- The fields of the chart's values that the builders read and write. `up_nodes` is a dictionary. -/
structure Free5gcCoreConfig where
  smfIp : String
  scheme : String
  nrfServiceName : String
  nrfServicePort : Nat
  defaultPlmnId : PlmnId
  servedGuamiList : List GuamiItem := []
  supportTaiList : List Tai := []
  plmnSupportList : List PlmnItem := []
  supportDnnList : List String := []
  snssaiInfos : List SnssaiInfo := []
  smfPlmnList : List PlmnId := []
  upNodes : List (String × Node) := []
  links : List Link := []
  ausfPlmnSupportList : List PlmnId := []
  supportedPlmnList : List PlmnId := []
  supportedNssaiInPlmnList : List PlmnItem := []
  nsiList : List NsiListItem := []
  amfSetList : List AmfSetListItem := []
  taList : List TaiItem := []
  nodes_unique : KeyedList.Unique Prod.fst upNodes := by exact List.nodup_nil
  deriving DecidableEq

namespace Free5gcCoreConfig

abbrev ConfigM := EStateM PyError Free5gcCoreConfig

def nrfInstances (c : Free5gcCoreConfig) : String :=
  s!"{c.scheme}://{c.nrfServiceName}:{c.nrfServicePort}/nnrf-nfm/v1/nf-instances"

/-- `raise` what the construction of a model raises. -/
def lift (m : Except PyError α) : ConfigM α :=
  Generic5G.liftExcept m

/-- The first element that passes the test is changed; the answer is whether there is one. -/
def change (get : Free5gcCoreConfig → List α) (put : List α → Free5gcCoreConfig → Free5gcCoreConfig) (test : α → Bool) (f : α → α) :
    ConfigM Bool := fun c =>
  match updateFirst test f (get c) with
  | some xs => .ok true (put xs c)
  | none => .ok false c

def setSmfIp (ip : String) (c : Free5gcCoreConfig) : Free5gcCoreConfig :=
  { c with smfIp := ip }

def setDefaultNrfPlmnd (mcc mnc : String) (c : Free5gcCoreConfig) : Free5gcCoreConfig :=
  { c with defaultPlmnId := ⟨mcc, mnc⟩ }

/-! ### AMF -/

def addItemAmfServedGuamiList (mcc mnc : String) (c : Free5gcCoreConfig) : Free5gcCoreConfig :=
  { c with servedGuamiList := appendNew c.servedGuamiList ⟨⟨mcc, mnc⟩, "cafe00"⟩ }

def addItemAmfSupportTaiList (mcc mnc tac : String) : ConfigM Unit := do
  let item ← lift (Tai.make ⟨mcc, mnc⟩ tac)
  modify (fun c => { c with supportTaiList := appendNew c.supportTaiList item })

def createPlmnAmfList (mcc mnc : String) : ConfigM Unit :=
  modify (fun c =>
    if c.plmnSupportList.any (fun item => decide (item.plmnId = ⟨mcc, mnc⟩)) then c
    else { c with plmnSupportList := c.plmnSupportList ++ [⟨⟨mcc, mnc⟩, []⟩] })

/-- `area_id` is not read. -/
def addPlmnAmfItem (mcc mnc : String) (nssai : Free5gc.Snssai) : Nat → ConfigM Unit :=
  Retries.retrying .recursionError
    (change plmnSupportList (fun xs c => { c with plmnSupportList := xs }) (fun item => decide (item.plmnId = ⟨mcc, mnc⟩))
      (fun item => { item with snssaiList := appendNew item.snssaiList nssai }))
    (fun _ => createPlmnAmfList mcc mnc)

def addDnnAmfItem (dnn : String) (c : Free5gcCoreConfig) : Free5gcCoreConfig :=
  { c with supportDnnList := appendNew c.supportDnnList dnn }

/-! ### SMF -/

def createSsnsaiSmfItem (snssai : Free5gc.Snssai) : ConfigM Unit :=
  modify (fun c =>
    if c.snssaiInfos.any (fun item => decide (item.sNssai = snssai)) then c
    else { c with snssaiInfos := c.snssaiInfos ++ [⟨snssai, []⟩] })

def findSnssaiInfo (snssai : Free5gc.Snssai) (info : DnnInfo) : ConfigM Bool :=
  change snssaiInfos (fun xs c => { c with snssaiInfos := xs }) (fun item => decide (item.sNssai = snssai))
    (fun item => { item with dnnInfos := appendNew item.dnnInfos info })

/-- The nested call is made without the ipv6 address. -/
def addDnnInfoSmfItem (dnn ipv4 : String) (snssai : Free5gc.Snssai) (ipv6 : Option String) : Nat → ConfigM Unit
  | 0 => throw .recursionError
  | n + 1 => do
    if ← findSnssaiInfo snssai ⟨dnn, ipv4, ipv6⟩ then return ()
    createSsnsaiSmfItem snssai
    Retries.retrying .recursionError (findSnssaiInfo snssai ⟨dnn, ipv4, none⟩) (fun _ => createSsnsaiSmfItem snssai) n

def addPlmnSmfItem (mcc mnc : String) (c : Free5gcCoreConfig) : Free5gcCoreConfig :=
  { c with smfPlmnList := appendNew c.smfPlmnList ⟨mcc, mnc⟩ }

def addNodeSmfTopology (name : String) (node : Node) (c : Free5gcCoreConfig) : Free5gcCoreConfig :=
  if h : KeyedList.toMap Prod.fst c.upNodes name = none then
    { c with
      upNodes := c.upNodes ++ [(name, node)]
      nodes_unique := c.nodes_unique.append h }
  else c

def addGnbSmf (gnbName : String) : Free5gcCoreConfig → Free5gcCoreConfig :=
  addNodeSmfTopology gnbName .gnb

def addUpfSmf (upfName ip n3ip : String) : Free5gcCoreConfig → Free5gcCoreConfig :=
  addNodeSmfTopology upfName (.upf ⟨ip, ip, [], [⟨"N3", [n3ip], []⟩]⟩)

/-- The link is looked for with its ends the other way round. -/
def addLinkSmf (upfName gnbName : String) (c : Free5gcCoreConfig) : Free5gcCoreConfig :=
  if c.links.any (fun link => decide (link.a = upfName ∧ link.b = gnbName)) then c
  else { c with links := c.links ++ [⟨gnbName, upfName⟩] }

def node (c : Free5gcCoreConfig) (name : String) : Option Node :=
  (KeyedList.toMap Prod.fst c.upNodes name).map Prod.snd

/-- The node with the name becomes another one. -/
def setNode (name : String) (node : Node) (c : Free5gcCoreConfig) : Free5gcCoreConfig :=
  { c with
    upNodes := KeyedList.replace Prod.fst c.upNodes (name, node)
    nodes_unique := c.nodes_unique.replace (name, node) }

def isSlice (sst : Int) (sd : String) (info : SNssaiUpfInfo) : Bool :=
  decide (info.sNssai.sst = sst ∧ info.sNssai.sd.text = sd)

/-- The slices of a UPF are looked for by the given text; `Snssai` pads it. -/
def findSnssaiUpfInfo (upfName : String) (sst : Int) (sd : String) : ConfigM Bool := do
  match (← get).node upfName with
  | none => return false
  | some .gnb => throw (.attributeError "'GNb' object has no attribute 's_nssai_upf_infos'")
  | some (.upf upf) =>
    if upf.sNssaiUpfInfos.any (isSlice sst sd) then return true
    let snssai ← lift (Free5gc.Snssai.make sst sd)
    modify (setNode upfName (.upf { upf with sNssaiUpfInfos := upf.sNssaiUpfInfos ++ [⟨snssai, []⟩] }))
    return true

def addSnssaiUpfInfosSmf (gnbName upfName upfIp upfN3Ip : String) (sst : Int) (sd : String) : Nat → ConfigM Unit :=
  Retries.retrying .recursionError (findSnssaiUpfInfo upfName sst sd)
    (fun _ => modify (fun c => addLinkSmf upfName gnbName (addGnbSmf gnbName (addUpfSmf upfName upfIp upfN3Ip c))))

/-- The DNN is put into the list of the slice before the first interface is looked up. -/
def addDnnToUpf (upfName : String) (sst : Int) (sd dnnName ipPool : String) (upf : Upf) : ConfigM Bool := do
  match upf.sNssaiUpfInfos.find? (isSlice sst sd) with
  | none => return false
  | some info =>
    if info.dnnUpfInfoList.any (fun dnn => decide (dnn.dnn = dnnName)) then return true
    let infos := (updateFirst (isSlice sst sd)
      (fun info => { info with dnnUpfInfoList := info.dnnUpfInfoList ++ [⟨dnnName, [⟨ipPool⟩]⟩] }) upf.sNssaiUpfInfos).getD []
    match upf.interfaces with
    | [] =>
      modify (setNode upfName (.upf { upf with sNssaiUpfInfos := infos }))
      throw (.indexError "list index out of range")
    | first :: others =>
      modify (setNode upfName (.upf { upf with
        sNssaiUpfInfos := infos
        interfaces := { first with networkInstances := first.networkInstances ++ [dnnName] } :: others }))
      return true

def findDnnUpfInfo (upfName : String) (sst : Int) (sd dnnName ipPool : String) : ConfigM Bool := do
  match (← get).node upfName with
  | none => return false
  | some .gnb => throw (.attributeError "'GNb' object has no attribute 's_nssai_upf_infos'")
  | some (.upf upf) => addDnnToUpf upfName sst sd dnnName ipPool upf

def addDnnUpfInfoListSmf (gnbName upfName upfIp upfN3Ip : String) (sst : Int) (sd dnnName ipPool : String) : Nat → ConfigM Unit :=
  Retries.retrying .recursionError (findDnnUpfInfo upfName sst sd dnnName ipPool)
    (addSnssaiUpfInfosSmf gnbName upfName upfIp upfN3Ip sst sd)

/-! ### AUSF and NSSF -/

def addPlmnAusfItem (mcc mnc : String) (c : Free5gcCoreConfig) : Free5gcCoreConfig :=
  { c with ausfPlmnSupportList := appendNew c.ausfPlmnSupportList ⟨mcc, mnc⟩ }

def addSupportedPlmnNssf (mcc mnc : String) (c : Free5gcCoreConfig) : Free5gcCoreConfig :=
  { c with supportedPlmnList := appendNew c.supportedPlmnList ⟨mcc, mnc⟩ }

def createSupportedNssaiInPlmnListNssf (mcc mnc : String) : ConfigM Unit :=
  modify (fun c =>
    if c.supportedNssaiInPlmnList.any (fun item => decide (item.plmnId = ⟨mcc, mnc⟩)) then c
    else { c with supportedNssaiInPlmnList := c.supportedNssaiInPlmnList ++ [⟨⟨mcc, mnc⟩, []⟩] })

/-- An item that has the slice already is passed over. -/
def addSupportedSnssaiListItemNssf (mcc mnc : String) (snssai : Free5gc.Snssai) : Nat → ConfigM Unit :=
  Retries.retrying .recursionError
    (change supportedNssaiInPlmnList (fun xs c => { c with supportedNssaiInPlmnList := xs })
      (fun item => decide (item.plmnId = ⟨mcc, mnc⟩ ∧ snssai ∉ item.snssaiList))
      (fun item => { item with snssaiList := item.snssaiList ++ [snssai] }))
    (fun _ => createSupportedNssaiInPlmnListNssf mcc mnc)

def addNsiListItemNssf (sst : Int) (sd : String) (nsiId : Nat) : ConfigM Unit := do
  let c ← get
  if c.nsiList.any (fun item => decide (item.snssai.sst = sst ∧ item.snssai.sd.text = sd)) then return ()
  let snssai ← lift (Free5gc.Snssai.make sst sd)
  set { c with nsiList := c.nsiList ++ [({ snssai, nrfId := c.nrfInstances, nsiId } : NsiListItem)] }

def createAmfSetListNssf (id : Nat) : ConfigM Unit :=
  modify (fun c =>
    if c.amfSetList.any (fun item => decide (item.amfSetId = id)) then c
    else { c with amfSetList := c.amfSetList ++ [⟨id, c.nrfInstances, []⟩] })

def isTai (mcc mnc tac : String) (el : TaiItem) : Bool :=
  decide (el.tai.tac.text = tac ∧ el.tai.plmnId = ⟨mcc, mnc⟩)

/-- The tracking areas of the first set with the id are looked for by the given text; `Tai` pads it. -/
def findAvailabilityDatum (id : Nat) (mcc mnc tac : String) : ConfigM Bool := do
  match (← get).amfSetList.find? (fun item => decide (item.amfSetId = id)) with
  | none => return false
  | some item =>
    if item.supportedNssaiAvailabilityData.any (isTai mcc mnc tac) then return true
    let tai ← lift (Tai.make ⟨mcc, mnc⟩ tac)
    change amfSetList (fun xs c => { c with amfSetList := xs }) (fun item => decide (item.amfSetId = id))
      (fun item => { item with supportedNssaiAvailabilityData := item.supportedNssaiAvailabilityData ++ [⟨tai, []⟩] })

def addSupportedNssaiAvailabilityDatumNssf (id : Nat) (mcc mnc tac : String) : Nat → ConfigM Unit :=
  Retries.retrying .recursionError (findAvailabilityDatum id mcc mnc tac) (fun _ => createAmfSetListNssf id)

def lacksSnssai (mcc mnc tac : String) (snssai : Free5gc.Snssai) (el : TaiItem) : Bool :=
  isTai mcc mnc tac el && decide (snssai ∉ el.supportedSnssaiList)

def TaiItem.addSnssai (snssai : Free5gc.Snssai) (el : TaiItem) : TaiItem :=
  { el with supportedSnssaiList := el.supportedSnssaiList ++ [snssai] }

/-- A tracking area that has the slice already is passed over. -/
def addSupportedNssaiNssf (id : Nat) (mcc mnc tac : String) (snssai : Free5gc.Snssai) : Nat → ConfigM Unit :=
  Retries.retrying .recursionError
    (change amfSetList (fun xs c => { c with amfSetList := xs })
      (fun item => decide (item.amfSetId = id) && item.supportedNssaiAvailabilityData.any (lacksSnssai mcc mnc tac snssai))
      (fun item => { item with
        supportedNssaiAvailabilityData := (updateFirst (lacksSnssai mcc mnc tac snssai) (TaiItem.addSnssai snssai)
          item.supportedNssaiAvailabilityData).getD [] }))
    (addSupportedNssaiAvailabilityDatumNssf id mcc mnc tac)

def createTaListItemNssf (mcc mnc tac : String) : ConfigM Unit := do
  let c ← get
  if c.taList.any (fun el => decide (el.tai.tac.text = tac)) then return ()
  let tai ← lift (Tai.make ⟨mcc, mnc⟩ tac)
  set { c with taList := c.taList ++ [({ tai, supportedSnssaiList := [] } : TaiItem)] }

/-- A tracking area that has the slice already is passed over. -/
def addTaiSupportedSnssaiListNssfItem (mcc mnc tac : String) (snssai : Free5gc.Snssai) : Nat → ConfigM Unit :=
  Retries.retrying .recursionError
    (change taList (fun xs c => { c with taList := xs })
      (fun el => decide (el.tai.tac.text = tac ∧ snssai ∉ el.supportedSnssaiList)) (TaiItem.addSnssai snssai))
    (fun _ => createTaListItemNssf mcc mnc tac)

/-- The lists and maps are emptied. -/
def clearCoreValues (c : Free5gcCoreConfig) : Free5gcCoreConfig where
  smfIp := c.smfIp
  scheme := c.scheme
  nrfServiceName := c.nrfServiceName
  nrfServicePort := c.nrfServicePort
  defaultPlmnId := c.defaultPlmnId

end Free5gcCoreConfig

/-- A call of one of the builders that call themselves. -/
inductive Free5gcBuilder where
  | addPlmnAmfItem (mcc mnc : String) (areaId : Int) (nssai : Free5gc.Snssai)
  | addDnnInfoSmfItem (dnn ipv4 : String) (snssai : Free5gc.Snssai) (ipv6 : Option String)
  | addSnssaiUpfInfosSmf (gnbName upfName upfIp upfN3Ip : String) (sst : Int) (sd : String)
  | addDnnUpfInfoListSmf (gnbName upfName upfIp upfN3Ip : String) (sst : Int) (sd dnnName ipPool : String)
  | addSupportedSnssaiListItemNssf (mcc mnc : String) (snssai : Free5gc.Snssai)
  | addSupportedNssaiAvailabilityDatumNssf (id : Nat) (mcc mnc tac : String)
  | addSupportedNssaiNssf (id : Nat) (mcc mnc tac : String) (snssai : Free5gc.Snssai)
  | addTaiSupportedSnssaiListNssfItem (mcc mnc tac : String) (snssai : Free5gc.Snssai)
  deriving DecidableEq

def Free5gcBuilder.exec (depth : Nat) : Free5gcBuilder → Free5gcCoreConfig.ConfigM Unit
  | .addPlmnAmfItem mcc mnc _ nssai => Free5gcCoreConfig.addPlmnAmfItem mcc mnc nssai depth
  | .addDnnInfoSmfItem dnn ipv4 snssai ipv6 => Free5gcCoreConfig.addDnnInfoSmfItem dnn ipv4 snssai ipv6 depth
  | .addSnssaiUpfInfosSmf gnbName upfName upfIp upfN3Ip sst sd =>
    Free5gcCoreConfig.addSnssaiUpfInfosSmf gnbName upfName upfIp upfN3Ip sst sd depth
  | .addDnnUpfInfoListSmf gnbName upfName upfIp upfN3Ip sst sd dnnName ipPool =>
    Free5gcCoreConfig.addDnnUpfInfoListSmf gnbName upfName upfIp upfN3Ip sst sd dnnName ipPool depth
  | .addSupportedSnssaiListItemNssf mcc mnc snssai => Free5gcCoreConfig.addSupportedSnssaiListItemNssf mcc mnc snssai depth
  | .addSupportedNssaiAvailabilityDatumNssf id mcc mnc tac =>
    Free5gcCoreConfig.addSupportedNssaiAvailabilityDatumNssf id mcc mnc tac depth
  | .addSupportedNssaiNssf id mcc mnc tac snssai => Free5gcCoreConfig.addSupportedNssaiNssf id mcc mnc tac snssai depth
  | .addTaiSupportedSnssaiListNssfItem mcc mnc tac snssai =>
    Free5gcCoreConfig.addTaiSupportedSnssaiListNssfItem mcc mnc tac snssai depth

end Nfvcl
