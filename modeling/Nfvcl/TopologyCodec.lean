import Mathlib.Data.List.Basic
import Nfvcl.LowerNames
import Nfvcl.Codec
import Nfvcl.PyInt
import Nfvcl.AddressText
import Nfvcl.TopologyModel

namespace Nfvcl
set_option autoImplicit true
open Codec

/-- `json.loads` reads integers of at most this many digits. -/
def jsonInt (n : Int) : Bool := decide (n.natAbs < 10 ^ PyInt.maxStrDigits)

/-- The exponent field of infinities and NaNs is all ones. -/
def finiteFloat (bits : BitVec 64) : Bool := decide (bits.toNat / 2 ^ 52 % 2 ^ 11 ≠ 2047)

def PyKey.toJson : PyKey → PyKey
  | .str s => .str s
  | .other text => .str text

mutual

/-- What untyped data reads as after JSON; infinities and NaNs are written as `null`. -/
def PyValue.toJson : PyValue → Option PyValue
  | .none => some .none
  | .bool b => some (.bool b)
  | .int n => if jsonInt n then some (.int n) else none
  | .float bits => some (if finiteFloat bits then .float bits else .none)
  | .str s => some (.str s)
  | .list items => (PyValue.listToJson items).map .list
  | .dict entries => (PyValue.dictToJson entries).map .dict
  | .other _ json => json

def PyValue.listToJson : List PyValue → Option (List PyValue)
  | [] => some []
  | v :: vs => (PyValue.toJson v).bind fun v' => (PyValue.listToJson vs).map (v' :: ·)

def PyValue.dictToJson : List (PyKey × PyValue) → Option (List (PyKey × PyValue))
  | [] => some []
  | (k, v) :: entries => (PyValue.toJson v).bind fun v' => (PyValue.dictToJson entries).map ((k.toJson, v') :: ·)

end

mutual

/-- What JSON can hold: string keys, finite numbers, no other objects. -/
def PyValue.plain : PyValue → Bool
  | .none | .bool _ | .str _ => true
  | .int n => jsonInt n
  | .float bits => finiteFloat bits
  | .list items => PyValue.plainList items
  | .dict entries => PyValue.plainDict entries
  | .other _ _ => false

def PyValue.plainList : List PyValue → Bool
  | [] => true
  | v :: vs => PyValue.plain v && PyValue.plainList vs

def PyValue.plainDict : List (PyKey × PyValue) → Bool
  | [] => true
  | (k, v) :: entries => decide (k.toJson = k) && (PyValue.plain v && PyValue.plainDict entries)

end

mutual

theorem PyValue.toJson_eq_self (v : PyValue) : v.toJson = some v ↔ v.plain = true := by
  cases v with
  | none => simp [PyValue.toJson, PyValue.plain]
  | bool b => simp [PyValue.toJson, PyValue.plain]
  | int n => by_cases h : jsonInt n <;> simp [PyValue.toJson, PyValue.plain, h]
  | float bits => by_cases h : finiteFloat bits <;> simp [PyValue.toJson, PyValue.plain, h]
  | str s => simp [PyValue.toJson, PyValue.plain]
  | list items =>
    simp only [PyValue.toJson, PyValue.plain, Option.map_eq_some_iff, PyValue.list.injEq, exists_eq_right]
    exact PyValue.listToJson_eq_self items
  | dict entries =>
    simp only [PyValue.toJson, PyValue.plain, Option.map_eq_some_iff, PyValue.dict.injEq, exists_eq_right]
    exact PyValue.dictToJson_eq_self entries
  | other repr json =>
    simp only [PyValue.toJson, PyValue.plain, Bool.false_eq_true, iff_false]
    intro h
    have hsize := congrArg sizeOf h
    simp at hsize
    omega

theorem PyValue.listToJson_eq_self (vs : List PyValue) : PyValue.listToJson vs = some vs ↔ PyValue.plainList vs = true := by
  cases vs with
  | nil => simp [PyValue.listToJson, PyValue.plainList]
  | cons v vs =>
    simp only [PyValue.listToJson, PyValue.plainList, Option.bind_eq_some_iff, Option.map_eq_some_iff, List.cons.injEq,
      Bool.and_eq_true, ← PyValue.toJson_eq_self v, ← PyValue.listToJson_eq_self vs]
    constructor
    · rintro ⟨v', hv, vs', hvs, rfl, rfl⟩
      exact ⟨hv, hvs⟩
    · rintro ⟨hv, hvs⟩
      exact ⟨v, hv, vs, hvs, rfl, rfl⟩

theorem PyValue.dictToJson_eq_self (entries : List (PyKey × PyValue)) :
    PyValue.dictToJson entries = some entries ↔ PyValue.plainDict entries = true := by
  cases entries with
  | nil => simp [PyValue.dictToJson, PyValue.plainDict]
  | cons entry entries =>
    obtain ⟨k, v⟩ := entry
    simp only [PyValue.dictToJson, PyValue.plainDict, Option.bind_eq_some_iff, Option.map_eq_some_iff, List.cons.injEq,
      Prod.mk.injEq, Bool.and_eq_true, decide_eq_true_eq, ← PyValue.toJson_eq_self v, ← PyValue.dictToJson_eq_self entries]
    constructor
    · rintro ⟨v', hv, entries', hentries, ⟨hk, rfl⟩, rfl⟩
      exact ⟨hk, hv, hentries⟩
    · rintro ⟨hk, hv, hentries⟩
      exact ⟨v, hv, entries, hentries, ⟨hk, rfl⟩, rfl⟩

end

/-- The leaves of `model_dump()`. -/
inductive Leaf where
  | none
  | bool (b : Bool)
  | int (n : Int)
  | str (s : String)
  /-- Untyped data. -/
  | value (v : PyValue)
  /-- A member of an enumeration, with its value. -/
  | enum (value : String)
  | address (a : IPv4Address)
  | url (text : String)
  /-- What JSON cannot write, or read again. -/
  | unserializable
  deriving DecidableEq, Repr

namespace Leaf

def toJson : Leaf → Leaf
  | .int n => if jsonInt n then .int n else .unserializable
  | .value v => (v.toJson.map .value).getD .unserializable
  | .enum member => .str member
  | .address a => .str a.exploded
  | .url text => .str text
  | x => x

/-- What arrives of a leaf through `json.loads(model_dump_json())`, or through `model_dump()`. -/
def carry (json : Bool) (x : Leaf) : Leaf := if json then x.toJson else x

/-- A validator sees what could be written. -/
def read (get : Leaf → Option α) (x : Leaf) : Option α := if x = .unserializable then Option.none else get x

end Leaf

/-- The names of VIMs are lowered, and their hyphens replaced. -/
def normalizeVimName (lower : String → String) (name : String) : String := (lower name).map fun c => if c = '-' then '_' else c

/-- `str.lower` and the validators of pydantic for the builtin types and `HttpUrl`, as far as the
models rely on them. -/
structure Pydantic where
  lower : String → String
  str : Leaf → Option String
  int : Leaf → Option Int
  bool : Leaf → Option Bool
  dict : Leaf → Option PyDict
  /-- The normalized text of a URL. -/
  url : String → Option String
  lower_again : ∀ s, normalizeVimName lower (normalizeVimName lower s) = normalizeVimName lower s
  str_str : ∀ s, str (.str s) = some s
  str_none : str .none = none
  int_int : ∀ n, int (.int n) = some n
  int_none : int .none = none
  bool_bool : ∀ b, bool (.bool b) = some b
  bool_none : bool .none = none
  dict_dict : ∀ d, dict (.value (.dict d)) = some d
  /-- `None` is no dictionary. -/
  dict_none : dict .none = none
  /-- A normalized URL is accepted as it is, up to the length an `HttpUrl` may have. -/
  url_again : ∀ s t, url s = some t → url t = if t.utf8ByteSize ≤ 2083 then some t else none

namespace Pydantic

variable (P : Pydantic)

def strCodec : Codec Leaf String := .ofLeaf .str (Leaf.read P.str)

def intCodec : Codec Leaf Int := .ofLeaf .int (Leaf.read P.int)

def boolCodec : Codec Leaf Bool := .ofLeaf .bool (Leaf.read P.bool)

/-- A field of type `dict`. -/
def dictCodec : Codec Leaf PyDict := .ofLeaf (fun d => .value (.dict d)) (Leaf.read P.dict)

/-- A field of type `dict` whose default `None` no validator has seen. -/
def defaultNoneDictCodec : Codec Leaf (Option PyDict) where
  dump
    | none => .leaf .none
    | some d => P.dictCodec.dump d
  load t := (P.dictCodec.load t).map some

/-- `HttpUrl`. -/
def urlCodec : Codec Leaf String := .ofLeaf .url fun
  | .str s => P.url s
  | .url text => if text.utf8ByteSize ≤ 2083 then some text else none
  | _ => none

def optional (c : Codec Leaf α) : Codec Leaf (Option α) := Codec.optional .none c

end Pydantic

/-- The members of an enumeration, found by their value. -/
def enumCodec (members : List α) (value : α → String) : Codec Leaf α := .ofLeaf (fun a => .enum (value a)) fun
  | .enum v | .str v => members.find? fun a => value a == v
  | _ => none

def loadAddress : Leaf → Option IPv4Address
  | .str s => IPv4Address.ofString s
  | .address a => some a
  | .int n => if h : 0 ≤ n ∧ n < 2 ^ 32 then some ⟨n.toNat, by omega⟩ else none
  | _ => none

/-- An address with a serializer that returns its text. -/
def addressTextCodec : Codec Leaf IPv4Address := .ofLeaf (fun a => .str a.exploded) loadAddress

def addressCodec : Codec Leaf IPv4Address := .ofLeaf .address loadAddress

def networkTextCodec : Codec Leaf IPv4Network := .ofLeaf (fun n => .str n.exploded) fun
  | .str s => IPv4Network.ofString s
  | _ => none

section Leaves

variable (P : Pydantic) (json : Bool)

/-- The integer survives the way through JSON. -/
def IntOk (n : Int) : Prop := json = true → jsonInt n = true

/-- The dictionary survives the way through JSON. -/
def DictOk (d : PyDict) : Prop := json = true → PyValue.plainDict d = true

theorem roundTrips_str (s : String) : RoundTrips (Leaf.carry json) P.strCodec s := by
  rw [Pydantic.strCodec, roundTrips_ofLeaf]
  cases json <;> simp [Leaf.carry, Leaf.toJson, Leaf.read, P.str_str]

theorem roundTrips_bool (b : Bool) : RoundTrips (Leaf.carry json) P.boolCodec b := by
  rw [Pydantic.boolCodec, roundTrips_ofLeaf]
  cases json <;> simp [Leaf.carry, Leaf.toJson, Leaf.read, P.bool_bool]

theorem roundTrips_int (n : Int) : RoundTrips (Leaf.carry json) P.intCodec n ↔ IntOk json n := by
  rw [Pydantic.intCodec, roundTrips_ofLeaf]
  unfold IntOk
  cases json with
  | false => simp [Leaf.carry, Leaf.read, P.int_int]
  | true => by_cases h : jsonInt n <;> simp [Leaf.carry, Leaf.toJson, Leaf.read, P.int_int, h]

theorem roundTrips_dict (d : PyDict) : RoundTrips (Leaf.carry json) P.dictCodec d ↔ DictOk json d := by
  rw [Pydantic.dictCodec, roundTrips_ofLeaf]
  unfold DictOk
  rw [← PyValue.dictToJson_eq_self]
  cases json with
  | false => simp [Leaf.carry, Leaf.read, P.dict_dict]
  | true =>
    simp only [Leaf.carry, if_true, Leaf.toJson, PyValue.toJson, forall_const]
    cases PyValue.dictToJson d with
    | none => simp [Leaf.read]
    | some d' => simp [Leaf.read, P.dict_dict]

theorem roundTrips_defaultNoneDict (o : Option PyDict) :
    RoundTrips (Leaf.carry json) P.defaultNoneDictCodec o ↔ ∃ d, o = some d ∧ DictOk json d := by
  cases o with
  | none =>
    have hnull : Leaf.carry json .none = .none := by cases json <;> rfl
    unfold RoundTrips Pydantic.defaultNoneDictCodec
    simp [Codec.Tree.map, hnull, Pydantic.dictCodec, ofLeaf, Leaf.read, P.dict_none]
  | some d =>
    simp only [Option.some.injEq, exists_eq_left', ← roundTrips_dict P]
    unfold RoundTrips Pydantic.defaultNoneDictCodec
    simp

theorem roundTrips_url (text : String) (h : P.url raw = some text) :
    RoundTrips (Leaf.carry json) P.urlCodec text ↔ text.utf8ByteSize ≤ 2083 := by
  rw [Pydantic.urlCodec, roundTrips_ofLeaf]
  have hagain := P.url_again raw text h
  cases json with
  | false => simp [Leaf.carry]
  | true => simp [Leaf.carry, Leaf.toJson, hagain]

theorem roundTrips_enum {members : List α} {value : α → String} (h : members.find? (fun b => value b == value a) = some a) :
    RoundTrips (Leaf.carry json) (enumCodec members value) a := by
  rw [enumCodec, roundTrips_ofLeaf]
  cases json <;> exact h

theorem roundTrips_addressText (a : IPv4Address) : RoundTrips (Leaf.carry json) addressTextCodec a := by
  rw [addressTextCodec, roundTrips_ofLeaf]
  cases json <;> exact a.ofString_exploded

theorem roundTrips_address (a : IPv4Address) : RoundTrips (Leaf.carry json) addressCodec a := by
  rw [addressCodec, roundTrips_ofLeaf]
  cases json with
  | false => rfl
  | true => exact a.ofString_exploded

theorem roundTrips_networkText (n : IPv4Network) : RoundTrips (Leaf.carry json) networkTextCodec n := by
  rw [networkTextCodec, roundTrips_ofLeaf]
  cases json <;> exact n.ofString_exploded

theorem roundTrips_option {c : Codec Leaf α} (hnull : c.load (.leaf .none) = none) (o : Option α) :
    RoundTrips (Leaf.carry json) (Pydantic.optional c) o ↔ ∀ a, o = some a → RoundTrips (Leaf.carry json) c a := by
  have hcarry : Leaf.carry json .none = .none := by cases json <;> rfl
  exact roundTrips_optional hcarry hnull

end Leaves

/-! ### The models -/

def NetworkTypeEnum.value : NetworkTypeEnum → String
  | .vlan => "vlan"
  | .vxlan => "vxlan"
  | .gre => "gre"
  | .flat => "flat"

def VimTypeEnum.value : VimTypeEnum → String
  | .openstack => "openstack"
  | .proxmox => "proxmox"

def NfvoStatus.value : NfvoStatus → String
  | .onboarded => "onboarded"
  | .notOnboarded => "not_onboarded"
  | .onboarding => "onboarding"
  | .error => "error"

def K8sVersion.value : K8sVersion → String
  | .v1_24 => "v1.24"
  | .v1_25 => "v1.25"
  | .v1_26 => "v1.26"
  | .v1_27 => "v1.27"
  | .v1_28 => "v1.28"
  | .v1_29 => "v1.29"
  | .v1_30 => "v1.30"

def PduType.value : PduType → String
  | .linux => "LINUX"
  | .gnb => "GNB"
  | .lwgateway => "LWGATEWAY"
  | .ru => "RU"
  | .cudu => "CUDU"
  | .core5g => "CORE5G"

namespace Pydantic

variable (P : Pydantic)

def networkTypeEnum : Codec Leaf NetworkTypeEnum := enumCodec [.vlan, .vxlan, .gre, .flat] NetworkTypeEnum.value

def vimTypeEnum : Codec Leaf VimTypeEnum := enumCodec [.openstack, .proxmox] VimTypeEnum.value

def nfvoStatus : Codec Leaf NfvoStatus := enumCodec [.onboarded, .notOnboarded, .onboarding, .error] NfvoStatus.value

def k8sVersion : Codec Leaf K8sVersion :=
  enumCodec [.v1_24, .v1_25, .v1_26, .v1_27, .v1_28, .v1_29, .v1_30] K8sVersion.value

def pduType : Codec Leaf PduType := enumCodec [.linux, .gnb, .lwgateway, .ru, .cudu, .core5g] PduType.value

def ipv4Pool : Codec Leaf IPv4Pool :=
  .record (Slots.nil
    |>.field "start" IPv4Pool.start addressTextCodec none
    |>.field "end" IPv4Pool.stop addressTextCodec none)
    fun (((), start), stop) => ⟨start, stop⟩

def ipv4ReservedRange : Codec Leaf IPv4ReservedRange :=
  .record (Slots.nil
    |>.field "start" (fun r : IPv4ReservedRange => r.start) addressTextCodec none
    |>.field "end" (fun r => r.stop) addressTextCodec none
    |>.field "owner" (fun r => r.owner) P.strCodec none)
    fun ((((), start), stop), owner) => ⟨⟨start, stop⟩, owner⟩

def networkModel : Codec Leaf NetworkModel :=
  .record (Slots.nil
    |>.field "name" NetworkModel.name P.strCodec none
    |>.field "external" NetworkModel.external P.boolCodec (some false)
    |>.field "type" NetworkModel.type networkTypeEnum none
    |>.field "vid" NetworkModel.vid (optional P.intCodec) (some none)
    |>.field "dhcp" NetworkModel.dhcp P.boolCodec (some true)
    |>.field "ids" NetworkModel.ids P.dictCodec.list (some [])
    |>.field "cidr" NetworkModel.cidr networkTextCodec none
    |>.field "gateway_ip" NetworkModel.gatewayIp (optional addressTextCodec) (some none)
    |>.field "allocation_pool" NetworkModel.allocationPool ipv4Pool.list (some [])
    |>.field "reserved_ranges" NetworkModel.reservedRanges P.ipv4ReservedRange.list (some [])
    |>.field "dns_nameservers" NetworkModel.dnsNameservers addressTextCodec.list (some []))
    fun ((((((((((((), name), external), type), vid), dhcp), ids), cidr), gatewayIp), allocationPool), reservedRanges), dnsNameservers) =>
      ⟨name, external, type, vid, dhcp, ids, cidr, gatewayIp, allocationPool, reservedRanges, dnsNameservers⟩

def routerPortModel : Codec Leaf RouterPortModel :=
  .record (Slots.nil
    |>.field "net" RouterPortModel.net P.strCodec none
    |>.field "ip_addr" RouterPortModel.ipAddr addressCodec none)
    fun (((), net), ipAddr) => ⟨net, ipAddr⟩

def routerModel : Codec Leaf RouterModel :=
  .record (Slots.nil
    |>.field "name" RouterModel.name P.strCodec none
    |>.field "ports" RouterModel.ports P.routerPortModel.list (some [])
    |>.field "internal_net" RouterModel.internalNet P.routerPortModel.list (some [])
    |>.field "external_gateway_info" RouterModel.externalGatewayInfo P.defaultNoneDictCodec (some none))
    fun (((((), name), ports), internalNet), externalGatewayInfo) => ⟨name, ports, internalNet, externalGatewayInfo⟩

def networkInterfaceModel : Codec Leaf NetworkInterfaceModel :=
  .record (Slots.nil
    |>.field "name" NetworkInterfaceModel.name P.strCodec none
    |>.field "mgmt" NetworkInterfaceModel.mgmt P.boolCodec (some false)
    |>.field "interface_name" NetworkInterfaceModel.interfaceName (optional P.strCodec) (some none)
    |>.field "ip" NetworkInterfaceModel.ip addressTextCodec none
    |>.field "network" NetworkInterfaceModel.network (optional networkTextCodec) (some none)
    |>.field "gateway" NetworkInterfaceModel.gateway (optional addressTextCodec) (some none))
    fun (((((((), name), mgmt), interfaceName), ip), network), gateway) => ⟨name, mgmt, interfaceName, ip, network, gateway⟩

def pduModel : Codec Leaf PduModel :=
  .record (Slots.nil
    |>.field "name" PduModel.name P.strCodec none
    |>.field "area" PduModel.area P.intCodec none
    |>.field "type" PduModel.type pduType none
    |>.field "instance_type" PduModel.instanceType P.strCodec none
    |>.field "description" PduModel.description (optional P.strCodec) (some none)
    |>.field "network_interfaces" PduModel.networkInterfaces P.networkInterfaceModel.list (some [])
    |>.field "username" PduModel.username (optional P.strCodec) (some none)
    |>.field "password" PduModel.password (optional P.strCodec) (some none)
    |>.field "become_password" PduModel.becomePassword (optional P.strCodec) (some none)
    |>.field "config" PduModel.config P.dictCodec (some [])
    |>.field "locked_by" PduModel.lockedBy (optional P.strCodec) (some none))
    fun ((((((((((((), name), area), type), instanceType), description), networkInterfaces), username), password), becomePassword), config), lockedBy) =>
      ⟨name, area, type, instanceType, description, networkInterfaces, username, password, becomePassword, config, lockedBy⟩

def vimConfigModel : Codec Leaf VimConfigModel :=
  .record (Slots.nil
    |>.field "insecure" VimConfigModel.insecure P.boolCodec (some true)
    |>.field "APIversion" VimConfigModel.apiVersion P.strCodec (some "v3.3")
    |>.field "use_floating_ip" VimConfigModel.useFloatingIp P.boolCodec (some false))
    fun ((((), insecure), apiVersion), useFloatingIp) => ⟨insecure, apiVersion, useFloatingIp⟩

def vimName : Codec Leaf String := P.strCodec.adjusted (normalizeVimName P.lower)

def vimModel : Codec Leaf VimModel :=
  .record (Slots.nil
    |>.field "name" VimModel.name P.vimName none
    |>.field "vim_type" VimModel.vimType vimTypeEnum (some .openstack)
    |>.field "schema_version" VimModel.schemaVersion P.strCodec (some "1.3")
    |>.field "vim_url" VimModel.vimUrl P.strCodec none
    |>.field "vim_tenant_name" VimModel.vimTenantName P.strCodec (some "admin")
    |>.field "vim_user" VimModel.vimUser P.strCodec (some "admin")
    |>.field "vim_password" VimModel.vimPassword P.strCodec (some "admin")
    |>.field "ssh_keys" VimModel.sshKeys (optional P.strCodec.list) (some (some []))
    |>.field "vim_proxmox_realm" VimModel.vimProxmoxRealm (optional P.strCodec) (some (some "pam"))
    |>.field "vim_proxmox_storage_id" VimModel.vimProxmoxStorageId (optional P.strCodec) (some (some "local"))
    |>.field "vim_proxmox_storage_volume" VimModel.vimProxmoxStorageVolume (optional P.strCodec) (some (some "local-lvm"))
    |>.field "osm_onboard" VimModel.osmOnboard (optional P.boolCodec) (some (some false))
    |>.field "config" VimModel.config P.vimConfigModel (some {})
    |>.field "networks" VimModel.networks P.strCodec.list (some [])
    |>.field "routers" VimModel.routers P.strCodec.list (some [])
    |>.field "areas" VimModel.areas P.intCodec.list (some []))
    fun (((((((((((((((((), name), vimType), schemaVersion), vimUrl), vimTenantName), vimUser), vimPassword), sshKeys), realm), storageId), storageVolume), osmOnboard), config), networks), routers), areas) =>
      ⟨name, vimType, schemaVersion, vimUrl, vimTenantName, vimUser, vimPassword, sshKeys, realm, storageId, storageVolume,
        osmOnboard, config, networks, routers, areas⟩

def updateVimModel : Codec Leaf UpdateVimModel :=
  .record (Slots.nil
    |>.field "name" UpdateVimModel.name P.strCodec none
    |>.field "networks_to_add" UpdateVimModel.networksToAdd P.strCodec.list (some [])
    |>.field "networks_to_del" UpdateVimModel.networksToDel P.strCodec.list (some [])
    |>.field "routers_to_add" UpdateVimModel.routersToAdd P.strCodec.list (some [])
    |>.field "routers_to_del" UpdateVimModel.routersToDel P.strCodec.list (some [])
    |>.field "areas_to_add" UpdateVimModel.areasToAdd P.intCodec.list (some [])
    |>.field "areas_to_del" UpdateVimModel.areasToDel P.intCodec.list (some []))
    fun ((((((((), name), networksToAdd), networksToDel), routersToAdd), routersToDel), areasToAdd), areasToDel) =>
      ⟨name, networksToAdd, networksToDel, routersToAdd, routersToDel, areasToAdd, areasToDel⟩

/-- `min_length=1`. -/
def nonEmpty (c : Codec Leaf α) : Codec Leaf (List α) := c.list.guarded fun as => !as.isEmpty

def topologyK8sModel : Codec Leaf TopologyK8sModel :=
  .record (Slots.nil
    |>.field "name" TopologyK8sModel.name P.strCodec none
    |>.field "provided_by" TopologyK8sModel.providedBy P.strCodec (some "NFVCL")
    |>.field "blueprint_ref" TopologyK8sModel.blueprintRef P.strCodec (some "")
    |>.field "deployed_blueprints" TopologyK8sModel.deployedBlueprints P.strCodec.list (some [])
    |>.field "credentials" TopologyK8sModel.credentials P.strCodec none
    |>.field "vim_name" TopologyK8sModel.vimName (optional P.strCodec) (some none)
    |>.field "k8s_version" TopologyK8sModel.k8sVersion k8sVersion (some .v1_24)
    |>.field "networks" TopologyK8sModel.networks (nonEmpty P.strCodec) none
    |>.field "areas" TopologyK8sModel.areas (nonEmpty P.intCodec) none
    |>.field "cni" TopologyK8sModel.cni (optional P.strCodec) (some none)
    |>.field "cadvisor_node_port" TopologyK8sModel.cadvisorNodePort (optional P.intCodec) (some none)
    |>.field "nfvo_status" TopologyK8sModel.nfvoStatus nfvoStatus (some .notOnboarded)
    |>.field "nfvo_onboard" TopologyK8sModel.nfvoOnboard P.boolCodec (some false)
    |>.field "anti_spoofing_enabled" TopologyK8sModel.antiSpoofingEnabled (optional P.boolCodec) (some (some false)))
    fun (((((((((((((((), name), providedBy), blueprintRef), deployedBlueprints), credentials), vimName), version), networks), areas), cni), port), status), nfvoOnboard), antiSpoofingEnabled) =>
      ⟨name, providedBy, blueprintRef, deployedBlueprints, credentials, vimName, version, networks, areas, cni, port, status,
        nfvoOnboard, antiSpoofingEnabled⟩

def prometheusTargetModel : Codec Leaf PrometheusTargetModel :=
  .record (Slots.nil
    |>.field "targets" PrometheusTargetModel.targets P.strCodec.list (some [])
    |>.field "labels" PrometheusTargetModel.labels P.dictCodec (some []))
    fun (((), targets), labels) => ⟨targets, labels⟩

def prometheusServerModel : Codec Leaf PrometheusServerModel :=
  .record (Slots.nil
    |>.field "id" PrometheusServerModel.id P.strCodec none
    |>.field "ip" PrometheusServerModel.ip P.strCodec (some "127.0.0.1")
    |>.field "port" PrometheusServerModel.port P.strCodec (some "9100")
    |>.field "user" PrometheusServerModel.user P.strCodec (some "ubuntu")
    |>.field "password" PrometheusServerModel.password P.strCodec (some "ubuntu")
    |>.field "ssh_port" PrometheusServerModel.sshPort P.intCodec (some 22)
    |>.field "targets" PrometheusServerModel.targets P.prometheusTargetModel.list (some [])
    |>.field "sd_file_location" PrometheusServerModel.sdFileLocation P.strCodec (some "sd_targets.yml"))
    fun (((((((((), id), ip), port), user), password), sshPort), targets), sdFileLocation) =>
      ⟨id, ip, port, user, password, sshPort, targets, sdFileLocation⟩

def topologyModel : Codec Leaf TopologyModel :=
  .record (Slots.nil
    |>.field "id" TopologyModel.id (optional P.strCodec) (some (some "topology"))
    |>.field "callback" TopologyModel.callback (optional P.urlCodec) (some none)
    |>.field "vims" TopologyModel.vims P.vimModel.list (some [])
    |>.field "kubernetes" TopologyModel.kubernetes P.topologyK8sModel.list (some [])
    |>.field "networks" TopologyModel.networks P.networkModel.list (some [])
    |>.field "routers" TopologyModel.routers P.routerModel.list (some [])
    |>.field "pdus" TopologyModel.pdus P.pduModel.list (some [])
    |>.field "prometheus_srv" TopologyModel.prometheusSrv P.prometheusServerModel.list (some []))
    fun (((((((((), id), callback), vims), kubernetes), networks), routers), pdus), prometheusSrv) =>
      ⟨id, callback, vims, kubernetes, networks, routers, pdus, prometheusSrv⟩

end Pydantic

section Models

variable (P : Pydantic) (json : Bool)

theorem roundTrips_optionStr (o : Option String) : RoundTrips (Leaf.carry json) (Pydantic.optional P.strCodec) o := by
  rw [roundTrips_option json (by simp [Pydantic.strCodec, ofLeaf, Leaf.read, P.str_none])]
  exact fun s _ => roundTrips_str P json s

theorem roundTrips_optionBool (o : Option Bool) : RoundTrips (Leaf.carry json) (Pydantic.optional P.boolCodec) o := by
  rw [roundTrips_option json (by simp [Pydantic.boolCodec, ofLeaf, Leaf.read, P.bool_none])]
  exact fun b _ => roundTrips_bool P json b

theorem roundTrips_optionInt (o : Option Int) :
    RoundTrips (Leaf.carry json) (Pydantic.optional P.intCodec) o ↔ ∀ n, o = some n → IntOk json n := by
  rw [roundTrips_option json (by simp [Pydantic.intCodec, ofLeaf, Leaf.read, P.int_none])]
  simp only [roundTrips_int]

theorem roundTrips_optionAddress (o : Option IPv4Address) :
    RoundTrips (Leaf.carry json) (Pydantic.optional addressTextCodec) o := by
  rw [roundTrips_option json rfl]
  exact fun a _ => roundTrips_addressText json a

theorem roundTrips_optionNetwork (o : Option IPv4Network) :
    RoundTrips (Leaf.carry json) (Pydantic.optional networkTextCodec) o := by
  rw [roundTrips_option json rfl]
  exact fun n _ => roundTrips_networkText json n

theorem roundTrips_optionStrs (o : Option (List String)) :
    RoundTrips (Leaf.carry json) (Pydantic.optional P.strCodec.list) o := by
  rw [roundTrips_option json rfl]
  exact fun names _ => roundTrips_list.2 fun s _ => roundTrips_str P json s

theorem roundTrips_strs (names : List String) : RoundTrips (Leaf.carry json) P.strCodec.list names :=
  roundTrips_list.2 fun s _ => roundTrips_str P json s

theorem roundTrips_ipv4Pool (p : IPv4Pool) : RoundTrips (Leaf.carry json) Pydantic.ipv4Pool p := by
  rw [Pydantic.ipv4Pool, roundTrips_record (by simp [Slots.field, Slots.nil]) (fun _ => rfl) (fun _ => rfl)]
  simp only [Slots.field, Slots.nil, roundTrips_addressText, and_self]

theorem roundTrips_ipv4ReservedRange (r : IPv4ReservedRange) : RoundTrips (Leaf.carry json) P.ipv4ReservedRange r := by
  rw [Pydantic.ipv4ReservedRange, roundTrips_record (by simp [Slots.field, Slots.nil]) (fun _ => rfl) (fun _ => rfl)]
  simp only [Slots.field, Slots.nil, roundTrips_addressText, roundTrips_str, and_self]

theorem roundTrips_networkModel (n : NetworkModel) :
    RoundTrips (Leaf.carry json) P.networkModel n ↔ (∀ vid, n.vid = some vid → IntOk json vid) ∧ ∀ d ∈ n.ids, DictOk json d := by
  have htype : RoundTrips (Leaf.carry json) Pydantic.networkTypeEnum n.type := by
    apply roundTrips_enum
    cases n.type <;> rfl
  rw [Pydantic.networkModel, roundTrips_record (by simp [Slots.field, Slots.nil]) (fun _ => rfl) (fun _ => rfl)]
  simp only [Slots.field, Slots.nil, roundTrips_str, roundTrips_bool, roundTrips_optionInt, roundTrips_list, roundTrips_dict,
    roundTrips_networkText, roundTrips_optionAddress, roundTrips_ipv4Pool, roundTrips_ipv4ReservedRange, roundTrips_addressText,
    htype, implies_true, and_true, true_and]

theorem roundTrips_routerPortModel (p : RouterPortModel) : RoundTrips (Leaf.carry json) P.routerPortModel p := by
  rw [Pydantic.routerPortModel, roundTrips_record (by simp [Slots.field, Slots.nil]) (fun _ => rfl) (fun _ => rfl)]
  simp only [Slots.field, Slots.nil, roundTrips_str, roundTrips_address, and_self]

theorem roundTrips_routerModel (r : RouterModel) :
    RoundTrips (Leaf.carry json) P.routerModel r ↔ ∃ d, r.externalGatewayInfo = some d ∧ DictOk json d := by
  rw [Pydantic.routerModel, roundTrips_record (by simp [Slots.field, Slots.nil]) (fun _ => rfl) (fun _ => rfl)]
  simp only [Slots.field, Slots.nil, roundTrips_str, roundTrips_list, roundTrips_routerPortModel, roundTrips_defaultNoneDict,
    implies_true, true_and]

theorem roundTrips_networkInterfaceModel (i : NetworkInterfaceModel) :
    RoundTrips (Leaf.carry json) P.networkInterfaceModel i := by
  rw [Pydantic.networkInterfaceModel, roundTrips_record (by simp [Slots.field, Slots.nil]) (fun _ => rfl) (fun _ => rfl)]
  simp only [Slots.field, Slots.nil, roundTrips_str, roundTrips_bool, roundTrips_optionStr, roundTrips_addressText,
    roundTrips_optionNetwork, roundTrips_optionAddress, and_self]

theorem roundTrips_pduModel (p : PduModel) :
    RoundTrips (Leaf.carry json) P.pduModel p ↔ IntOk json p.area ∧ DictOk json p.config := by
  have htype : RoundTrips (Leaf.carry json) Pydantic.pduType p.type := by
    apply roundTrips_enum
    cases p.type <;> rfl
  rw [Pydantic.pduModel, roundTrips_record (by simp [Slots.field, Slots.nil]) (fun _ => rfl) (fun _ => rfl)]
  simp only [Slots.field, Slots.nil, roundTrips_str, roundTrips_int, roundTrips_optionStr, roundTrips_list,
    roundTrips_networkInterfaceModel, roundTrips_dict, htype, implies_true, and_true, true_and]

theorem roundTrips_vimConfigModel (c : VimConfigModel) : RoundTrips (Leaf.carry json) P.vimConfigModel c := by
  rw [Pydantic.vimConfigModel, roundTrips_record (by simp [Slots.field, Slots.nil]) (fun _ => rfl) (fun _ => rfl)]
  simp only [Slots.field, Slots.nil, roundTrips_str, roundTrips_bool, and_self]

theorem roundTrips_vimModel (v : VimModel) (hname : v.name = normalizeVimName P.lower raw) :
    RoundTrips (Leaf.carry json) P.vimModel v ↔ ∀ a ∈ v.areas, IntOk json a := by
  have htype : RoundTrips (Leaf.carry json) Pydantic.vimTypeEnum v.vimType := by
    apply roundTrips_enum
    cases v.vimType <;> rfl
  have hnorm : RoundTrips (Leaf.carry json) P.vimName v.name := by
    apply roundTrips_adjusted _ (roundTrips_str P json v.name)
    rw [hname]
    exact P.lower_again raw
  rw [Pydantic.vimModel, roundTrips_record (by simp [Slots.field, Slots.nil]) (fun _ => rfl) (fun _ => rfl)]
  simp only [Slots.field, Slots.nil, roundTrips_str, roundTrips_list, roundTrips_int, roundTrips_optionStr, roundTrips_optionStrs,
    roundTrips_optionBool, roundTrips_vimConfigModel, htype, hnorm, implies_true, and_true, true_and]

theorem roundTrips_updateVimModel (u : UpdateVimModel) :
    RoundTrips (Leaf.carry json) P.updateVimModel u ↔
      (∀ a ∈ u.areasToAdd, IntOk json a) ∧ ∀ a ∈ u.areasToDel, IntOk json a := by
  rw [Pydantic.updateVimModel, roundTrips_record (by simp [Slots.field, Slots.nil]) (fun _ => rfl) (fun _ => rfl)]
  simp only [Slots.field, Slots.nil, roundTrips_str, roundTrips_list, roundTrips_int, implies_true, true_and]

theorem roundTrips_topologyK8sModel (k : TopologyK8sModel) (hnetworks : k.networks ≠ []) (hareas : k.areas ≠ []) :
    RoundTrips (Leaf.carry json) P.topologyK8sModel k ↔
      (∀ a ∈ k.areas, IntOk json a) ∧ ∀ port, k.cadvisorNodePort = some port → IntOk json port := by
  have hversion : RoundTrips (Leaf.carry json) Pydantic.k8sVersion k.k8sVersion := by
    apply roundTrips_enum
    cases k.k8sVersion <;> rfl
  have hstatus : RoundTrips (Leaf.carry json) Pydantic.nfvoStatus k.nfvoStatus := by
    apply roundTrips_enum
    cases k.nfvoStatus <;> rfl
  have hnets : RoundTrips (Leaf.carry json) (Pydantic.nonEmpty P.strCodec) k.networks :=
    roundTrips_guarded.2 ⟨roundTrips_strs P json k.networks, by simpa using hnetworks⟩
  have hints : RoundTrips (Leaf.carry json) (Pydantic.nonEmpty P.intCodec) k.areas ↔ ∀ a ∈ k.areas, IntOk json a := by
    rw [Pydantic.nonEmpty, roundTrips_guarded, roundTrips_list]
    simp [roundTrips_int, hareas]
  rw [Pydantic.topologyK8sModel, roundTrips_record (by simp [Slots.field, Slots.nil]) (fun _ => rfl) (fun _ => rfl)]
  simp only [Slots.field, Slots.nil, roundTrips_str, roundTrips_bool, roundTrips_list, roundTrips_optionStr, roundTrips_optionBool,
    roundTrips_optionInt, hversion, hstatus, hnets, hints, implies_true, and_true, true_and]

theorem roundTrips_prometheusTargetModel (t : PrometheusTargetModel) :
    RoundTrips (Leaf.carry json) P.prometheusTargetModel t ↔ DictOk json t.labels := by
  rw [Pydantic.prometheusTargetModel, roundTrips_record (by simp [Slots.field, Slots.nil]) (fun _ => rfl) (fun _ => rfl)]
  simp only [Slots.field, Slots.nil, roundTrips_strs, roundTrips_dict, true_and]

theorem roundTrips_prometheusServerModel (p : PrometheusServerModel) :
    RoundTrips (Leaf.carry json) P.prometheusServerModel p ↔ IntOk json p.sshPort ∧ ∀ t ∈ p.targets, DictOk json t.labels := by
  rw [Pydantic.prometheusServerModel, roundTrips_record (by simp [Slots.field, Slots.nil]) (fun _ => rfl) (fun _ => rfl)]
  simp only [Slots.field, Slots.nil, roundTrips_str, roundTrips_int, roundTrips_list, roundTrips_prometheusTargetModel, and_true,
    true_and]

end Models

/-! ### Validated topologies -/

/-- The name has gone through the validator. -/
def VimModel.Validated (P : Pydantic) (v : VimModel) : Prop := ∃ raw, v.name = normalizeVimName P.lower raw

structure TopologyK8sModel.Validated (k : TopologyK8sModel) : Prop where
  networks : k.networks ≠ []
  areas : k.areas ≠ []

/-- What the validators leave of a topology. -/
structure TopologyModel.Validated (P : Pydantic) (m : TopologyModel) : Prop where
  callback : ∀ text, m.callback = some text → ∃ raw, P.url raw = some text
  vims : ∀ v ∈ m.vims, v.Validated P
  kubernetes : ∀ k ∈ m.kubernetes, k.Validated

/-- The default `None` of `external_gateway_info` is no dictionary. -/
def RouterModel.HasGateway (r : RouterModel) : Prop := r.externalGatewayInfo ≠ none

/-- What the dumps of a topology need of it: every router has its gateway, and the URL is no longer
than its validator allows. -/
structure TopologyModel.Fits (m : TopologyModel) : Prop where
  callback : ∀ text, m.callback = some text → text.utf8ByteSize ≤ 2083
  routers : ∀ r ∈ m.routers, r.HasGateway

/-- What JSON needs of a topology: integers that are read again, and plain data where the models
have none of their own. -/
structure TopologyModel.JsonFits (m : TopologyModel) : Prop where
  vims : ∀ v ∈ m.vims, ∀ a ∈ v.areas, jsonInt a = true
  kubernetes : ∀ k ∈ m.kubernetes,
    (∀ a ∈ k.areas, jsonInt a = true) ∧ ∀ port, k.cadvisorNodePort = some port → jsonInt port = true
  networks : ∀ n ∈ m.networks,
    (∀ vid, n.vid = some vid → jsonInt vid = true) ∧ ∀ d ∈ n.ids, PyValue.plainDict d = true
  routers : ∀ r ∈ m.routers, ∀ d, r.externalGatewayInfo = some d → PyValue.plainDict d = true
  pdus : ∀ p ∈ m.pdus, jsonInt p.area = true ∧ PyValue.plainDict p.config = true
  prometheusSrv : ∀ p ∈ m.prometheusSrv, jsonInt p.sshPort = true ∧ ∀ t ∈ p.targets, PyValue.plainDict t.labels = true

section Topologies

variable (P : Pydantic) (json : Bool)

theorem roundTrips_callback (o : Option String) (h : ∀ text, o = some text → ∃ raw, P.url raw = some text) :
    RoundTrips (Leaf.carry json) (Pydantic.optional P.urlCodec) o ↔ ∀ text, o = some text → text.utf8ByteSize ≤ 2083 := by
  rw [roundTrips_option json rfl]
  apply forall_congr'
  intro text
  apply imp_congr_right
  intro htext
  obtain ⟨raw, hraw⟩ := h text htext
  exact roundTrips_url P json text hraw

theorem roundTrips_vims (vims : List VimModel) (h : ∀ v ∈ vims, v.Validated P) :
    RoundTrips (Leaf.carry json) P.vimModel.list vims ↔ ∀ v ∈ vims, ∀ a ∈ v.areas, IntOk json a := by
  rw [roundTrips_list]
  apply forall₂_congr
  intro v hv
  obtain ⟨raw, hraw⟩ := h v hv
  exact roundTrips_vimModel P json v hraw

theorem roundTrips_kubernetes (clusters : List TopologyK8sModel) (h : ∀ k ∈ clusters, k.Validated) :
    RoundTrips (Leaf.carry json) P.topologyK8sModel.list clusters ↔ ∀ k ∈ clusters,
      (∀ a ∈ k.areas, IntOk json a) ∧ ∀ port, k.cadvisorNodePort = some port → IntOk json port := by
  rw [roundTrips_list]
  apply forall₂_congr
  intro k hk
  exact roundTrips_topologyK8sModel P json k (h k hk).networks (h k hk).areas

theorem roundTrips_topologyModel {m : TopologyModel} (h : m.Validated P) :
    RoundTrips (Leaf.carry json) P.topologyModel m ↔ m.Fits ∧ (json = true → m.JsonFits) := by
  rw [Pydantic.topologyModel, roundTrips_record (by simp [Slots.field, Slots.nil]) (fun _ => rfl) (fun _ => rfl)]
  simp only [Slots.field, Slots.nil, roundTrips_optionStr, true_and]
  rw [roundTrips_callback P json _ h.callback, roundTrips_vims P json _ h.vims, roundTrips_kubernetes P json _ h.kubernetes]
  simp only [roundTrips_list, roundTrips_networkModel, roundTrips_routerModel, roundTrips_pduModel,
    roundTrips_prometheusServerModel]
  constructor
  · rintro ⟨⟨⟨⟨⟨⟨hcallback, hvims⟩, hclusters⟩, hnetworks⟩, hrouters⟩, hpdus⟩, hservers⟩
    refine ⟨⟨hcallback, fun r hr => ?_⟩, fun hjson => ?_⟩
    · obtain ⟨d, hd, -⟩ := hrouters r hr
      simp [RouterModel.HasGateway, hd]
    · subst hjson
      simp only [IntOk, DictOk, forall_const] at hvims hclusters hnetworks hrouters hpdus hservers
      refine ⟨hvims, hclusters, hnetworks, fun r hr d hd => ?_, hpdus, hservers⟩
      obtain ⟨d', hd', hplain⟩ := hrouters r hr
      rw [hd'] at hd
      cases hd
      exact hplain
  · rintro ⟨hfits, hjson⟩
    refine ⟨⟨⟨⟨⟨⟨hfits.callback, ?_⟩, ?_⟩, ?_⟩, ?_⟩, ?_⟩, ?_⟩
    · exact fun v hv a ha h => (hjson h).vims v hv a ha
    · exact fun k hk => ⟨fun a ha h => ((hjson h).kubernetes k hk).1 a ha, fun port hp h => ((hjson h).kubernetes k hk).2 port hp⟩
    · exact fun n hn => ⟨fun vid hv h => ((hjson h).networks n hn).1 vid hv, fun d hd h => ((hjson h).networks n hn).2 d hd⟩
    · intro r hr
      obtain ⟨d, hd⟩ := Option.ne_none_iff_exists'.1 (hfits.routers r hr)
      exact ⟨d, hd, fun h => (hjson h).routers r hr d hd⟩
    · exact fun p hp => ⟨fun h => ((hjson h).pdus p hp).1, fun h => ((hjson h).pdus p hp).2⟩
    · exact fun p hp => ⟨fun h => ((hjson h).prometheusSrv p hp).1, fun t ht h => ((hjson h).prometheusSrv p hp).2 t ht⟩

end Topologies

/-! ### The worker queue -/

/-- What the REST layer dumps for the topology worker. -/
inductive QueuedModel where
  | topology (m : TopologyModel)
  | vim (v : VimModel)
  | updateVim (u : UpdateVimModel)
  | network (n : NetworkModel)
  | router (r : RouterModel)
  | pdu (p : PduModel)
  | kubernetes (k : TopologyK8sModel)
  | prometheus (p : PrometheusServerModel)

namespace QueuedModel

def Validated (P : Pydantic) : QueuedModel → Prop
  | topology m => m.Validated P
  | vim v => v.Validated P
  | kubernetes k => k.Validated
  | _ => True

/-- The worker reads the model that was put. -/
def Accepted (P : Pydantic) : QueuedModel → Prop
  | topology m => RoundTrips (Leaf.carry false) P.topologyModel m
  | vim v => RoundTrips (Leaf.carry false) P.vimModel v
  | updateVim u => RoundTrips (Leaf.carry false) P.updateVimModel u
  | network n => RoundTrips (Leaf.carry false) P.networkModel n
  | router r => RoundTrips (Leaf.carry false) P.routerModel r
  | pdu p => RoundTrips (Leaf.carry false) P.pduModel p
  | kubernetes k => RoundTrips (Leaf.carry false) P.topologyK8sModel k
  | prometheus p => RoundTrips (Leaf.carry false) P.prometheusServerModel p

def Fits : QueuedModel → Prop
  | topology m => m.Fits
  | router r => r.HasGateway
  | _ => True

theorem intOk_dump (n : Int) : IntOk false n := fun h => by cases h

theorem dictOk_dump (d : PyDict) : DictOk false d := fun h => by cases h

theorem accepted_iff {P : Pydantic} {q : QueuedModel} (h : q.Validated P) : q.Accepted P ↔ q.Fits := by
  cases q with
  | topology m =>
    simp only [Accepted, Fits, roundTrips_topologyModel P false h, Bool.false_eq_true, false_implies, and_true]
  | vim v =>
    obtain ⟨raw, hraw⟩ := h
    simp only [Accepted, Fits, roundTrips_vimModel P false v hraw, intOk_dump, implies_true]
  | updateVim u => simp only [Accepted, Fits, roundTrips_updateVimModel, intOk_dump, implies_true, and_self]
  | network n => simp only [Accepted, Fits, roundTrips_networkModel, intOk_dump, dictOk_dump, implies_true, and_self]
  | router r =>
    simp only [Accepted, Fits, roundTrips_routerModel, dictOk_dump, and_true]
    exact Option.ne_none_iff_exists'.symm
  | pdu p => simp only [Accepted, Fits, roundTrips_pduModel, intOk_dump, dictOk_dump, and_self]
  | kubernetes k =>
    simp only [Accepted, Fits, roundTrips_topologyK8sModel P false k h.networks h.areas, intOk_dump, implies_true, and_self]
  | prometheus p =>
    simp only [Accepted, Fits, roundTrips_prometheusServerModel, intOk_dump, dictOk_dump, implies_true, and_self]

end QueuedModel

/-- A topology is read back from its JSON and from its dump, and a model on the queue by the worker,
exactly when no router is without gateway, the URL is not too long and the untyped data is plain. -/
theorem topology_codec_iff (P : Pydantic) (m : TopologyModel) (q : QueuedModel) (hm : m.Validated P) (hq : q.Validated P) :
    (RoundTrips (Leaf.carry true) P.topologyModel m ∧ RoundTrips (Leaf.carry false) P.topologyModel m ∧ q.Accepted P) ↔
      (m.Fits ∧ m.JsonFits) ∧ q.Fits := by
  rw [roundTrips_topologyModel P true hm, roundTrips_topologyModel P false hm, QueuedModel.accepted_iff hq]
  simp only [forall_const, Bool.false_eq_true, false_implies, and_true]
  constructor
  · rintro ⟨hfits, -, hqueue⟩
    exact ⟨hfits, hqueue⟩
  · rintro ⟨hfits, hqueue⟩
    exact ⟨hfits, hfits.1, hqueue⟩

theorem jsonInt_of_lt (h : n.natAbs < 10) : jsonInt n = true := by
  have hdigits : 10 ^ 1 ≤ 10 ^ PyInt.maxStrDigits := Nat.pow_le_pow_right (by decide) (by decide)
  exact decide_eq_true (by omega)

theorem normalizeVimName_again (s : String) :
    normalizeVimName String.toLower (normalizeVimName String.toLower s) = normalizeVimName String.toLower s := by
  unfold normalizeVimName String.toLower
  simp only [String.map_map]
  congr 1
  funext c
  simp only [Function.comp_apply]
  split
  · decide
  next h => rw [toLower_toLower, if_neg h]

/-- Validators that take what they write, and URLs without normalization. -/
def strictPydantic : Pydantic where
  lower := String.toLower
  str
    | .str s => some s
    | _ => none
  int
    | .int n => some n
    | _ => none
  bool
    | .bool b => some b
    | _ => none
  dict
    | .value (.dict d) => some d
    | _ => none
  url s := if s.utf8ByteSize ≤ 2083 then some s else none
  lower_again := normalizeVimName_again
  str_str _ := rfl
  str_none := rfl
  int_int _ := rfl
  int_none := rfl
  bool_bool _ := rfl
  bool_none := rfl
  dict_dict _ := rfl
  dict_none := rfl
  url_again s t h := by
    split at h
    next => cases h; simp [*]
    next => cases h

def gatewayRouter : RouterModel where
  name := "edge"
  externalGatewayInfo := some [(.str "network", .str "public")]

def labTopology : TopologyModel where
  callback := some "http://osm/"
  vims := [{ name := normalizeVimName String.toLower "OS-Lab", vimUrl := "http://os/", areas := [1] }]
  routers := [gatewayRouter]

theorem labTopology_validated : labTopology.Validated strictPydantic where
  callback text h := by
    cases h
    exact ⟨"http://osm/", by decide⟩
  vims v hv := by
    simp only [labTopology, List.mem_singleton] at hv
    subst hv
    exact ⟨"OS-Lab", rfl⟩
  kubernetes k hk := by cases hk

theorem topology_codec_lab :
    RoundTrips (Leaf.carry true) strictPydantic.topologyModel labTopology ∧
      RoundTrips (Leaf.carry false) strictPydantic.topologyModel labTopology ∧
      (QueuedModel.router gatewayRouter).Accepted strictPydantic := by
  apply (topology_codec_iff strictPydantic labTopology (.router gatewayRouter) labTopology_validated trivial).2
  have hgateway : gatewayRouter.HasGateway := by simp [RouterModel.HasGateway, gatewayRouter]
  have hplain : PyValue.plainDict [(.str "network", .str "public")] = true := by decide
  refine ⟨⟨⟨?_, ?_⟩, ?_, ?_, ?_, ?_, ?_, ?_⟩, hgateway⟩
  · intro text h
    cases h
    decide
  · intro r hr
    cases List.mem_singleton.1 hr
    exact hgateway
  · intro v hv a ha
    cases List.mem_singleton.1 hv
    cases List.mem_singleton.1 ha
    exact jsonInt_of_lt (by decide)
  · simp [labTopology]
  · simp [labTopology]
  · intro r hr d hd
    cases List.mem_singleton.1 hr
    cases hd
    exact hplain
  · simp [labTopology]
  · simp [labTopology]

/-- A topology with a router that has no gateway is refused. -/
theorem topology_codec_fails :
    ¬ ∀ (P : Pydantic) (m : TopologyModel) (q : QueuedModel), m.Validated P → q.Validated P →
      RoundTrips (Leaf.carry true) P.topologyModel m ∧ RoundTrips (Leaf.carry false) P.topologyModel m ∧ q.Accepted P := by
  intro h
  have hvalid : ({ routers := [{ name := "edge" }] } : TopologyModel).Validated strictPydantic := by
    constructor <;> simp
  obtain ⟨hjson, -, -⟩ := h strictPydantic { routers := [{ name := "edge" }] } (.router { name := "edge" }) hvalid trivial
  have hfits := ((roundTrips_topologyModel strictPydantic true hvalid).1 hjson).1
  exact hfits.routers { name := "edge" } (List.mem_singleton.2 rfl) rfl

end Nfvcl
