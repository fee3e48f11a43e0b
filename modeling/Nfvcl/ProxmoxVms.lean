import Mathlib.Data.List.Basic
import Nfvcl.Dicts
import Nfvcl.Maintained
import Nfvcl.PyValue

namespace Nfvcl
set_option autoImplicit true
open Effects

namespace ProxmoxVms

/-- An interface `net<i>`, by its number. -/
abbrev Interface := Nat

abbrev VmId := Nat

/-- What the configuration of a VM says about an interface. -/
structure NetDevice where
  mac : String
  bridge : String
  deriving DecidableEq, Repr

structure ProxmoxMac where
  mac : String
  netName : String
  hwInterfaceName : Interface
  interfaceName : String
  deriving DecidableEq, Repr

structure VirtualizationProviderDataProxmox where
  proxmoxDict : Dict String VmId := .empty
  proxmoxMacs : Dict VmId (List ProxmoxMac) := .empty
  /-- `proxmox_net_device.nets`. -/
  nets : Dict VmId (List Interface) := .empty
  deriving DecidableEq

/-- The data of the provider, the VMs it has on the cluster with the devices of their interfaces, and
the networks of the VM resources. -/
structure Provider where
  data : VirtualizationProviderDataProxmox := {}
  guests : Dict VmId (Dict Interface NetDevice) := .empty
  networks : Dict String (List String) := .empty
  deriving DecidableEq

structure VmResource where
  id : String
  managementNetwork : String
  additionalNetworks : List String := []
  deriving DecidableEq, Repr

def VmResource.getAllConnectedNetworkNames (vm : VmResource) : List String :=
  vm.managementNetwork :: vm.additionalNetworks

/-- What one call meets: the other VMs of the cluster, the MACs of new interfaces, and what the steps
before the first and after the last change of the tables raise. -/
structure Answers where
  others : List VmId := []
  mac : Interface → String
  before : Option PyError := none
  after : Option PyError := none

abbrev ProviderM := EStateM PyError Provider

def modifyData (f : VirtualizationProviderDataProxmox → VirtualizationProviderDataProxmox) : ProviderM Unit :=
  modify (fun s => { s with data := f s.data })

/-- The first of 10000 to 10999 that no VM has. -/
def freeVmid (a : Answers) (s : Provider) : Option VmId :=
  (List.range' 10000 1000).find? (fun vmid => decide (vmid ∉ a.others ++ s.guests.keys))

def getFreeVmid (a : Answers) : ProviderM VmId := do
  match freeVmid a (← get) with
  | none => throw (.indexError "list index out of range")
  | some vmid => return vmid

def getNextAvailableInterface (vmid : VmId) : ProviderM Interface := do
  let s ← get
  match s.data.nets.get? vmid with
  | none => return 0
  | some interfaces =>
    match interfaces.getLast? with
    | none => throw (.indexError "list index out of range")
    | some last => return last + 1

def addNetDevice (vmid : VmId) : ProviderM Interface := do
  let interfaceName ← getNextAvailableInterface vmid
  modifyData (fun data => { data with
    nets := data.nets.set vmid (((data.nets.get? vmid).getD []) ++ [interfaceName]) })
  return interfaceName

/-- `qm create` and `qm set` with an interface on a network. -/
def qmSet (a : Answers) (vmid : VmId) (interface : Interface) (net : String) : ProviderM Unit :=
  modify (fun s => { s with
    guests := s.guests.set vmid (((s.guests.get? vmid).getD .empty).set interface { mac := a.mac interface, bridge := net }) })

/-- What `__get_macs` reads for an interface. -/
def readMac (interface : Interface × NetDevice) : ProxmoxMac where
  mac := interface.2.mac.toLower
  netName := interface.2.bridge
  hwInterfaceName := interface.1
  interfaceName := "eth" ++ toString interface.1

def getMacs (vmid : VmId) : ProviderM Unit := do
  let s ← get
  match s.guests.get? vmid with
  | none => throw (.external "the VM does not exist")
  | some config =>
    config.items.forM fun interface =>
      modifyData (fun data =>
        let macs := (data.proxmoxMacs.get? vmid).getD []
        let read := if readMac interface ∈ macs then macs else macs ++ [readMac interface]
        { data with proxmoxMacs := data.proxmoxMacs.set vmid read })

def addInterface (a : Answers) (vmid : VmId) (net : String) : ProviderM Unit := do
  let interface ← addNetDevice vmid
  qmSet a vmid interface net

def createVm (a : Answers) (vm : VmResource) : ProviderM Unit := do
  outcome a.before
  let vmid ← getFreeVmid a
  vm.getAllConnectedNetworkNames.forM (addInterface a vmid)
  getMacs vmid
  modifyData (fun data => { data with proxmoxDict := data.proxmoxDict.set vm.id vmid })
  modify (fun s => { s with networks := s.networks.set vm.id vm.getAllConnectedNetworkNames })
  getMacs vmid
  outcome a.after

def attachNet (a : Answers) (vm : String) (vmid : VmId) (net : String) : ProviderM Unit := do
  modify (fun s => { s with networks := s.networks.set vm (((s.networks.get? vm).getD []) ++ [net]) })
  addInterface a vmid net

def attachNets (a : Answers) (vm : String) (netsName : List String) : ProviderM Unit := do
  let s ← get
  match s.data.proxmoxDict.get? vm with
  | none => throw (.keyError vm)
  | some vmid =>
    netsName.forM (attachNet a vm vmid)
    getMacs vmid
    outcome a.after

def destroyVm (vm : String) : ProviderM Unit := do
  let s ← get
  match s.data.proxmoxDict.get? vm with
  | none => throw (.keyError vm)
  | some vmid =>
    modify (fun s => { s with guests := s.guests.erase vmid })
    modifyData (fun data => { data with proxmoxDict := data.proxmoxDict.erase vm })

inductive Call where
  | createVm (vm : VmResource) (answers : Answers)
  | attachNets (vm : String) (netsName : List String) (answers : Answers)
  | destroyVm (vm : String)

def Call.run : Call → ProviderM Unit
  | .createVm vm a => ProxmoxVms.createVm a vm
  | .attachNets vm netsName a => ProxmoxVms.attachNets a vm netsName
  | .destroyVm vm => ProxmoxVms.destroyVm vm

/-- The records of a VM: one interface for each of its networks, and exactly their MACs. -/
def Described (s : Provider) (vm : String) (vmid : VmId) : Prop :=
  ∃ networks config macs, s.networks.get? vm = some networks ∧ s.guests.get? vmid = some config ∧
    s.data.nets.get? vmid = some (List.range networks.length) ∧ (∀ i, i ∈ config.keys ↔ i < networks.length) ∧
    s.data.proxmoxMacs.get? vmid = some macs ∧ ∀ mac, mac ∈ macs ↔ ∃ interface ∈ config.items, mac = readMac interface

/-- The tables have the vmids of the live VMs for keys, and describe each of them. -/
structure Booked (s : Provider) : Prop where
  nets : ∀ vmid, vmid ∈ s.data.nets.keys ↔ ∃ vm, s.data.proxmoxDict.get? vm = some vmid
  macs : ∀ vmid, vmid ∈ s.data.proxmoxMacs.keys ↔ ∃ vm, s.data.proxmoxDict.get? vm = some vmid
  described : ∀ vm vmid, s.data.proxmoxDict.get? vm = some vmid → Described s vm vmid

/-- No existing VM is destroyed or created once more. -/
def Call.Plain : Call → Provider → Prop
  | .createVm vm a, s => a.before = none → freeVmid a s ≠ none → s.data.proxmoxDict.get? vm.id = none
  | .attachNets _ _ _, _ => True
  | .destroyVm vm, s => s.data.proxmoxDict.get? vm = none

/-! ### One interface more -/

/-- What a step on one VM leaves. -/
structure Elsewhere (vm : String) (vmid : VmId) (s s' : Provider) : Prop where
  networks : ∀ other, other ≠ vm → s'.networks.get? other = s.networks.get? other
  nets : ∀ other, other ≠ vmid → s'.data.nets.get? other = s.data.nets.get? other
  macs : ∀ other, other ≠ vmid → s'.data.proxmoxMacs.get? other = s.data.proxmoxMacs.get? other
  guests : ∀ other, other ≠ vmid → s'.guests.get? other = s.guests.get? other

theorem Elsewhere.refl (vm : String) (vmid : VmId) (s : Provider) : Elsewhere vm vmid s s :=
  ⟨fun _ _ => rfl, fun _ _ => rfl, fun _ _ => rfl, fun _ _ => rfl⟩

theorem Elsewhere.trans (h : Elsewhere vm vmid s s') (h' : Elsewhere vm vmid s' s'') : Elsewhere vm vmid s s'' where
  networks := fun other hother => (h'.networks other hother).trans (h.networks other hother)
  nets := fun other hother => (h'.nets other hother).trans (h.nets other hother)
  macs := fun other hother => (h'.macs other hother).trans (h.macs other hother)
  guests := fun other hother => (h'.guests other hother).trans (h.guests other hother)

/-- The configuration of a VM on the cluster. -/
def config (s : Provider) (vmid : VmId) : Dict Interface NetDevice :=
  (s.guests.get? vmid).getD .empty

/-- A VM with `k` interfaces, of which only its own MACs are recorded. -/
structure Interfaces (vmid : VmId) (k : Nat) (s : Provider) : Prop where
  nets : s.data.nets.get? vmid = if k = 0 then none else some (List.range k)
  guest : s.guests.get? vmid = none ↔ k = 0
  keys : ∀ i, i ∈ (config s vmid).keys ↔ i < k
  recorded : ∀ mac ∈ (s.data.proxmoxMacs.get? vmid).getD [], ∃ interface ∈ (config s vmid).items, mac = readMac interface

/-- The state with one more interface. -/
def withInterface (a : Answers) (vmid : VmId) (k : Nat) (net : String) (s : Provider) : Provider :=
  { s with
    data := { s.data with nets := s.data.nets.set vmid (((s.data.nets.get? vmid).getD []) ++ [k]) }
    guests := s.guests.set vmid ((config s vmid).set k { mac := a.mac k, bridge := net }) }

theorem run_addInterface (a : Answers) (net : String) (h : Interfaces vmid k s) :
    (addInterface a vmid net).run s = .ok () (withInterface a vmid k net s) := by
  have hnext : (getNextAvailableInterface vmid).run s = .ok k s := by
    unfold getNextAvailableInterface
    simp only [EStateM.run_bind, EStateM.run_get, h.nets]
    cases k with
    | zero => rfl
    | succ k =>
      rw [if_neg (Nat.succ_ne_zero k)]
      dsimp only
      rw [List.range_succ, List.getLast?_concat]
      rfl
  unfold addInterface addNetDevice
  rw [bind_assoc, run_bind_ok _ _ hnext]
  rfl

theorem withInterface_elsewhere (a : Answers) (vm : String) (vmid : VmId) (k : Nat) (net : String) (s : Provider) :
    Elsewhere vm vmid s (withInterface a vmid k net s) where
  networks := fun _ _ => rfl
  nets := by
    intro other hother
    change (s.data.nets.set vmid _).get? other = _
    rw [Dict.get?_set, if_neg hother]
  macs := fun _ _ => rfl
  guests := by
    intro other hother
    change (s.guests.set vmid _).get? other = _
    rw [Dict.get?_set, if_neg hother]

theorem config_withInterface (a : Answers) (vmid : VmId) (k : Nat) (net : String) (s : Provider) :
    config (withInterface a vmid k net s) vmid = (config s vmid).set k { mac := a.mac k, bridge := net } := by
  change ((s.guests.set vmid _).get? vmid).getD .empty = _
  rw [Dict.get?_set, if_pos rfl, Option.getD_some]

theorem withInterface_interfaces (a : Answers) (net : String) (h : Interfaces vmid k s) :
    Interfaces vmid (k + 1) (withInterface a vmid k net s) where
  nets := by
    rw [if_neg (Nat.succ_ne_zero k)]
    change (s.data.nets.set vmid _).get? vmid = _
    rw [Dict.get?_set, if_pos rfl, h.nets, List.range_succ]
    by_cases hk : k = 0
    · rw [if_pos hk, hk]
      rfl
    · rw [if_neg hk, Option.getD_some]
  guest := by
    change (s.guests.set vmid _).get? vmid = none ↔ _
    rw [Dict.get?_set, if_pos rfl]
    exact iff_of_false (fun h => (nomatch h)) (Nat.succ_ne_zero k)
  keys := by
    intro i
    rw [config_withInterface, Dict.mem_keys_set, h.keys i, or_comm]
    exact Nat.lt_succ_iff_lt_or_eq.symm
  recorded := by
    intro mac hmac
    obtain ⟨interface, hinterface, rfl⟩ := h.recorded mac hmac
    refine ⟨interface, ?_, rfl⟩
    rw [config_withInterface]
    have hold : interface.1 < k := (h.keys interface.1).1 (List.mem_map_of_mem hinterface)
    apply Dict.mem_items
    rw [Dict.get?_set, if_neg (Nat.ne_of_lt hold)]
    exact Dict.get?_of_mem hinterface

theorem run_addInterfaces (a : Answers) (vm : String) (nets : List String) (h : Interfaces vmid k s) :
    ∃ s', (nets.forM (addInterface a vmid)).run s = .ok () s' ∧ Interfaces vmid (k + nets.length) s' ∧
      Elsewhere vm vmid s s' ∧ s'.data.proxmoxDict = s.data.proxmoxDict := by
  induction nets generalizing k s with
  | nil => exact ⟨s, rfl, h, .refl vm vmid s, rfl⟩
  | cons net nets ih =>
    obtain ⟨s', hrun, hinterfaces, helsewhere, hdict⟩ := ih (withInterface_interfaces a net h)
    refine ⟨s', ?_, ?_, (withInterface_elsewhere a vm vmid k net s).trans helsewhere, hdict⟩
    · exact (run_bind_ok _ (fun _ => nets.forM (addInterface a vmid)) (run_addInterface a net h)).trans hrun
    · rw [List.length_cons, Nat.add_comm nets.length 1, ← Nat.add_assoc]
      exact hinterfaces

/-- The same with the networks of the VM resource. -/
theorem run_attachNets (a : Answers) (vm : String) (nets : List String) (h : Interfaces vmid k s)
    (hnetworks : s.networks.get? vm = some networks) :
    ∃ s', (nets.forM (attachNet a vm vmid)).run s = .ok () s' ∧ Interfaces vmid (k + nets.length) s' ∧
      Elsewhere vm vmid s s' ∧ s'.data.proxmoxDict = s.data.proxmoxDict ∧
      s'.networks.get? vm = some (networks ++ nets) := by
  induction nets generalizing k s networks with
  | nil =>
    refine ⟨s, rfl, h, .refl vm vmid s, rfl, ?_⟩
    rw [List.append_nil]
    exact hnetworks
  | cons net nets ih =>
    have hlisted : Elsewhere vm vmid s { s with networks := s.networks.set vm (networks ++ [net]) } := by
      refine ⟨fun other hother => ?_, fun _ _ => rfl, fun _ _ => rfl, fun _ _ => rfl⟩
      change (s.networks.set vm _).get? other = _
      rw [Dict.get?_set, if_neg hother]
    have hinterfaces : Interfaces vmid k { s with networks := s.networks.set vm (networks ++ [net]) } :=
      ⟨h.nets, h.guest, h.keys, h.recorded⟩
    have hnext : (withInterface a vmid k net { s with networks := s.networks.set vm (networks ++ [net]) }).networks.get? vm =
        some (networks ++ [net]) := by
      change (s.networks.set vm _).get? vm = _
      rw [Dict.get?_set, if_pos rfl]
    obtain ⟨s', hrun, hafter, helsewhere, hdict, hnets⟩ := ih (withInterface_interfaces a net hinterfaces) hnext
    refine ⟨s', ?_, ?_, (hlisted.trans (withInterface_elsewhere a vm vmid k net _)).trans helsewhere, hdict, ?_⟩
    · have hone : (attachNet a vm vmid net).run s =
          .ok () (withInterface a vmid k net { s with networks := s.networks.set vm (networks ++ [net]) }) := by
        unfold attachNet
        rw [EStateM.run_bind, EStateM.run_modify, hnetworks, Option.getD_some]
        exact run_addInterface a net hinterfaces
      exact (run_bind_ok _ (fun _ => nets.forM (attachNet a vm vmid)) hone).trans hrun
    · rw [List.length_cons, Nat.add_comm nets.length 1, ← Nat.add_assoc]
      exact hafter
    · rw [hnets, List.append_assoc]
      rfl

/-! ### The MACs of a VM -/

/-- The state with the MAC of an interface recorded. -/
def recordMac (vmid : VmId) (s : Provider) (interface : Interface × NetDevice) : Provider :=
  let macs := (s.data.proxmoxMacs.get? vmid).getD []
  let read := if readMac interface ∈ macs then macs else macs ++ [readMac interface]
  { s with data := { s.data with proxmoxMacs := s.data.proxmoxMacs.set vmid read } }

theorem run_getMacs (hguest : s.guests.get? vmid = some devices) :
    (getMacs vmid).run s = .ok () (devices.items.foldl (recordMac vmid) s) := by
  have hloop : ∀ (items : List (Interface × NetDevice)) (t : Provider),
      (items.forM (fun interface => modify (fun t => recordMac vmid t interface)) : ProviderM Unit).run t =
        .ok () (items.foldl (recordMac vmid) t) := by
    intro items
    induction items with
    | nil => exact fun t => rfl
    | cons interface items ih => exact fun t => ih (recordMac vmid t interface)
  unfold getMacs
  simp only [EStateM.run_bind, EStateM.run_get, hguest]
  exact hloop devices.items s

/-- A step that changes no more than the MACs of one VM. -/
structure OnlyMacs (vmid : VmId) (s s' : Provider) : Prop where
  proxmoxDict : s'.data.proxmoxDict = s.data.proxmoxDict
  networks : s'.networks = s.networks
  nets : s'.data.nets = s.data.nets
  guests : s'.guests = s.guests
  macs : ∀ other, other ≠ vmid → s'.data.proxmoxMacs.get? other = s.data.proxmoxMacs.get? other

theorem OnlyMacs.elsewhere (h : OnlyMacs vmid s s') (vm : String) : Elsewhere vm vmid s s' where
  networks := fun other _ => by rw [h.networks]
  nets := fun other _ => by rw [h.nets]
  macs := h.macs
  guests := fun other _ => by rw [h.guests]

theorem get?_recordMac (vmid : VmId) (s : Provider) (interface : Interface × NetDevice) :
    ∃ macs, (recordMac vmid s interface).data.proxmoxMacs.get? vmid = some macs ∧
      ∀ mac, mac ∈ macs ↔ mac ∈ (s.data.proxmoxMacs.get? vmid).getD [] ∨ mac = readMac interface := by
  obtain ⟨macs, hmacs⟩ : ∃ macs, macs = (s.data.proxmoxMacs.get? vmid).getD [] := ⟨_, rfl⟩
  refine ⟨if readMac interface ∈ macs then macs else macs ++ [readMac interface], ?_, ?_⟩
  · rw [hmacs]
    change (s.data.proxmoxMacs.set vmid _).get? vmid = _
    rw [Dict.get?_set, if_pos rfl]
  · rw [← hmacs]
    intro mac
    split
    · rename_i hmem
      constructor
      · exact .inl
      · rintro (h | rfl)
        · exact h
        · exact hmem
    · rw [List.mem_append, List.mem_singleton]

theorem recordMac_onlyMacs (vmid : VmId) (s : Provider) (interface : Interface × NetDevice) :
    OnlyMacs vmid s (recordMac vmid s interface) := by
  refine ⟨rfl, rfl, rfl, rfl, fun other hother => ?_⟩
  change (s.data.proxmoxMacs.set vmid _).get? other = _
  rw [Dict.get?_set, if_neg hother]

theorem foldl_recordMac (vmid : VmId) (items : List (Interface × NetDevice)) (s : Provider) :
    OnlyMacs vmid s (items.foldl (recordMac vmid) s) ∧
      (items ≠ [] ∨ s.data.proxmoxMacs.get? vmid ≠ none → (items.foldl (recordMac vmid) s).data.proxmoxMacs.get? vmid ≠ none) ∧
      ∀ mac, mac ∈ ((items.foldl (recordMac vmid) s).data.proxmoxMacs.get? vmid).getD [] ↔
        mac ∈ (s.data.proxmoxMacs.get? vmid).getD [] ∨ ∃ interface ∈ items, mac = readMac interface := by
  induction items generalizing s with
  | nil =>
    refine ⟨⟨rfl, rfl, rfl, rfl, fun _ _ => rfl⟩, fun h => h.resolve_left (fun hne => hne rfl), fun mac => ?_⟩
    constructor
    · exact .inl
    · rintro (h | ⟨interface, hinterface, -⟩)
      · exact h
      · cases hinterface
  | cons interface items ih =>
    obtain ⟨honly, hsome, hmem⟩ := ih (recordMac vmid s interface)
    obtain ⟨macs, hget, hmacs⟩ := get?_recordMac vmid s interface
    have hfirst := recordMac_onlyMacs vmid s interface
    rw [List.foldl_cons]
    refine ⟨?_, fun _ => hsome (.inr (by rw [hget]; exact Option.some_ne_none _)), fun mac => ?_⟩
    · exact {
        proxmoxDict := honly.proxmoxDict
        networks := honly.networks
        nets := honly.nets
        guests := honly.guests
        macs := fun other hother => (honly.macs other hother).trans (hfirst.macs other hother) }
    · rw [hmem, hget, Option.getD_some, hmacs, or_assoc]
      apply or_congr_right
      constructor
      · rintro (rfl | ⟨other, hother, rfl⟩)
        · exact ⟨interface, List.mem_cons_self, rfl⟩
        · exact ⟨other, List.mem_cons_of_mem interface hother, rfl⟩
      · rintro ⟨other, hother, rfl⟩
        rcases List.mem_cons.1 hother with rfl | hother
        · exact .inl rfl
        · exact .inr ⟨other, hother, rfl⟩

/-- The recorded MACs of a VM are exactly its own. -/
def MacsRead (vmid : VmId) (s : Provider) : Prop :=
  ∃ macs, s.data.proxmoxMacs.get? vmid = some macs ∧
    ∀ mac, mac ∈ macs ↔ ∃ interface ∈ (config s vmid).items, mac = readMac interface

theorem run_getMacs_interfaces (h : Interfaces vmid k s) (hk : k ≠ 0) :
    ∃ s', (getMacs vmid).run s = .ok () s' ∧ Interfaces vmid k s' ∧ OnlyMacs vmid s s' ∧ MacsRead vmid s' := by
  obtain ⟨devices, hguest⟩ := Option.ne_none_iff_exists'.1 (fun hnone => hk (h.guest.1 hnone))
  have hconfig : config s vmid = devices := by
    rw [config, hguest, Option.getD_some]
  obtain ⟨honly, hsome, hmem⟩ := foldl_recordMac vmid devices.items s
  have hconfig' : config (devices.items.foldl (recordMac vmid) s) vmid = devices := by
    rw [config, honly.guests, hguest, Option.getD_some]
  have hkeys := h.keys
  have hrecorded := h.recorded
  rw [hconfig] at hkeys hrecorded
  have hne : devices.items ≠ [] := by
    have hzero := (hkeys 0).2 (Nat.pos_of_ne_zero hk)
    intro hnil
    rw [Dict.keys, hnil] at hzero
    cases hzero
  have hown : ∀ mac, mac ∈ ((devices.items.foldl (recordMac vmid) s).data.proxmoxMacs.get? vmid).getD [] ↔
      ∃ interface ∈ devices.items, mac = readMac interface := by
    intro mac
    rw [hmem]
    exact or_iff_right_of_imp (hrecorded mac)
  refine ⟨_, run_getMacs hguest, ?_, honly, ?_⟩
  · exact {
      nets := by rw [honly.nets]; exact h.nets
      guest := by rw [honly.guests]; exact h.guest
      keys := by rw [hconfig']; exact hkeys
      recorded := by rw [hconfig']; exact fun mac => (hown mac).1 }
  · obtain ⟨macs, hmacs⟩ := Option.ne_none_iff_exists'.1 (hsome (.inl hne))
    refine ⟨macs, hmacs, ?_⟩
    rw [hmacs, Option.getD_some] at hown
    rw [hconfig']
    exact hown

/-! ### One call -/

theorem Described.of_interfaces (h : Interfaces vmid k s) (hk : k ≠ 0) (hmacs : MacsRead vmid s)
    (hnetworks : s.networks.get? vm = some networks) (hlength : networks.length = k) : Described s vm vmid := by
  obtain ⟨devices, hguest⟩ := Option.ne_none_iff_exists'.1 (fun hnone => hk (h.guest.1 hnone))
  have hconfig : config s vmid = devices := by
    rw [config, hguest, Option.getD_some]
  obtain ⟨macs, hget, hown⟩ := hmacs
  have hkeys := h.keys
  have hnets := h.nets
  rw [if_neg hk] at hnets
  rw [hconfig] at hown hkeys
  refine ⟨networks, devices, macs, hnetworks, hguest, ?_, ?_, hget, hown⟩
  · rw [hlength]
    exact hnets
  · rw [hlength]
    exact hkeys

theorem Described.interfaces (h : Described s vm vmid) (hnetworks : s.networks.get? vm = some networks)
    (hne : networks ≠ []) : Interfaces vmid networks.length s := by
  obtain ⟨networks', devices, macs, hnetworks', hguest, hnets, hkeys, hget, hown⟩ := h
  rw [hnetworks] at hnetworks'
  cases hnetworks'
  have hpos : networks.length ≠ 0 := fun h => hne (List.length_eq_zero_iff.1 h)
  have hconfig : config s vmid = devices := by
    rw [config, hguest, Option.getD_some]
  exact {
    nets := by rw [if_neg hpos]; exact hnets
    guest := by
      rw [hguest]
      exact iff_of_false (fun h => (nomatch h)) hpos
    keys := by rw [hconfig]; exact hkeys
    recorded := by
      rw [hconfig, hget, Option.getD_some]
      exact fun mac => (hown mac).1 }

theorem Described.elsewhere (h : Described s vm vmid) (hvm : vm ≠ vm') (hvmid : vmid ≠ vmid')
    (helsewhere : Elsewhere vm' vmid' s s') : Described s' vm vmid := by
  obtain ⟨networks, devices, macs, hnetworks, hguest, hnets, hkeys, hget, hown⟩ := h
  refine ⟨networks, devices, macs, ?_, ?_, ?_, hkeys, ?_, hown⟩
  · rw [helsewhere.networks vm hvm]
    exact hnetworks
  · rw [helsewhere.guests vmid hvmid]
    exact hguest
  · rw [helsewhere.nets vmid hvmid]
    exact hnets
  · rw [helsewhere.macs vmid hvmid]
    exact hget

/-- What the calls keep. -/
structure Kept (s : Provider) : Prop extends Booked s where
  distinct : ∀ vm vm' vmid, s.data.proxmoxDict.get? vm = some vmid → s.data.proxmoxDict.get? vm' = some vmid → vm = vm'
  listed : ∀ vm vmid, s.data.proxmoxDict.get? vm = some vmid → s.networks.get? vm ≠ some []

theorem kept_empty : Kept {} where
  nets := fun _ => iff_of_false List.not_mem_nil (by rintro ⟨vm, h⟩; cases h)
  macs := fun _ => iff_of_false List.not_mem_nil (by rintro ⟨vm, h⟩; cases h)
  described := fun _ _ h => (nomatch h)
  distinct := fun _ _ _ h => (nomatch h)
  listed := fun _ _ h => (nomatch h)

/-- A step that leaves the records of one VM as they should be keeps the rest. -/
theorem Kept.changed (h : Kept s) (helsewhere : Elsewhere vm vmid s s')
    (hdict : ∀ other, s'.data.proxmoxDict.get? other = if other = vm then some vmid else s.data.proxmoxDict.get? other)
    (hold : ∀ old, s.data.proxmoxDict.get? vm = some old → old = vmid)
    (hown : ∀ other, s.data.proxmoxDict.get? other = some vmid → other = vm)
    (hdescribed : Described s' vm vmid) (hlisted : s'.networks.get? vm ≠ some []) : Kept s' := by
  have hself : s'.data.proxmoxDict.get? vm = some vmid := by
    rw [hdict, if_pos rfl]
  have hlive : ∀ other, other ≠ vmid →
      ((∃ vm', s'.data.proxmoxDict.get? vm' = some other) ↔ ∃ vm', s.data.proxmoxDict.get? vm' = some other) := by
    intro other hother
    constructor
    · rintro ⟨vm', hvm'⟩
      rw [hdict] at hvm'
      split at hvm'
      · cases hvm'
        exact absurd rfl hother
      · exact ⟨vm', hvm'⟩
    · rintro ⟨vm', hvm'⟩
      refine ⟨vm', ?_⟩
      rw [hdict, if_neg]
      · exact hvm'
      · rintro rfl
        exact hother (hold other hvm')
  have hkeys := hdescribed
  obtain ⟨networks, devices, macs, -, -, hnets, -, hmacs, -⟩ := hkeys
  exact {
    nets := by
      intro other
      by_cases hother : other = vmid
      · rw [hother]
        exact iff_of_true (Dict.mem_keys_iff.2 ⟨_, hnets⟩) ⟨vm, hself⟩
      · rw [hlive other hother, ← h.nets, Dict.mem_keys_iff, Dict.mem_keys_iff, helsewhere.nets other hother]
    macs := by
      intro other
      by_cases hother : other = vmid
      · rw [hother]
        exact iff_of_true (Dict.mem_keys_iff.2 ⟨_, hmacs⟩) ⟨vm, hself⟩
      · rw [hlive other hother, ← h.macs, Dict.mem_keys_iff, Dict.mem_keys_iff, helsewhere.macs other hother]
    described := by
      intro vm' vmid' hvm'
      rw [hdict] at hvm'
      split at hvm'
      · rename_i heq
        cases hvm'
        rw [heq]
        exact hdescribed
      · rename_i hne
        apply (h.described vm' vmid' hvm').elsewhere hne _ helsewhere
        rintro rfl
        exact hne (hown vm' hvm')
    distinct := by
      intro vm₁ vm₂ vmid' h₁ h₂
      rw [hdict] at h₁ h₂
      split at h₁
      · rename_i heq
        cases h₁
        split at h₂
        · rename_i heq'
          rw [heq, heq']
        · rw [heq, hown vm₂ h₂]
      · split at h₂
        · rename_i heq'
          cases h₂
          rw [heq', hown vm₁ h₁]
        · exact h.distinct vm₁ vm₂ vmid' h₁ h₂
    listed := by
      intro vm' vmid' hvm'
      by_cases heq : vm' = vm
      · rw [heq]
        exact hlisted
      · rw [hdict, if_neg heq] at hvm'
        rw [helsewhere.networks vm' heq]
        exact h.listed vm' vmid' hvm' }

theorem outcome_finalState (result : Option PyError) (s : Provider) : finalState ((outcome result).run s) = s := by
  cases result <;> rfl

/-- A vmid that is free on the cluster is in none of the tables. -/
theorem Kept.free (h : Kept s) (hfree : freeVmid a s = some vmid) :
    Interfaces vmid 0 s ∧ ∀ vm, s.data.proxmoxDict.get? vm ≠ some vmid := by
  have hnot : vmid ∉ s.guests.keys := by
    have hfound := of_decide_eq_true (List.find?_some (p := fun vmid => decide (vmid ∉ a.others ++ s.guests.keys)) hfree)
    exact fun hmem => hfound (List.mem_append_right _ hmem)
  have hguest : s.guests.get? vmid = none :=
    Option.eq_none_iff_forall_ne_some.2 (fun devices hget => hnot (Dict.mem_keys_iff.2 ⟨devices, hget⟩))
  have hlive : ∀ vm, s.data.proxmoxDict.get? vm ≠ some vmid := by
    intro vm hvm
    obtain ⟨networks, devices, macs, -, hdevices, -⟩ := h.described vm vmid hvm
    rw [hguest] at hdevices
    cases hdevices
  have hnets : s.data.nets.get? vmid = none :=
    Option.eq_none_iff_forall_ne_some.2 (fun interfaces hget =>
      (h.nets vmid).1 (Dict.mem_keys_iff.2 ⟨interfaces, hget⟩) |>.elim hlive)
  have hmacs : s.data.proxmoxMacs.get? vmid = none :=
    Option.eq_none_iff_forall_ne_some.2 (fun macs hget =>
      (h.macs vmid).1 (Dict.mem_keys_iff.2 ⟨macs, hget⟩) |>.elim hlive)
  refine ⟨?_, hlive⟩
  have hconfig : config s vmid = .empty := by
    rw [config, hguest, Option.getD_none]
  exact {
    nets := hnets
    guest := iff_of_true hguest rfl
    keys := by
      rw [hconfig]
      exact fun i => iff_of_false List.not_mem_nil (Nat.not_lt_zero i)
    recorded := by
      rw [hmacs, Option.getD_none]
      exact fun mac hmac => (nomatch hmac) }

/-- A creation that gets a vmid. -/
theorem createVm_run (h : Kept s) (vm : VmResource) (hbefore : a.before = none) (hfree : freeVmid a s = some vmid) :
    Elsewhere vm.id vmid s (finalState ((createVm a vm).run s)) ∧
      Described (finalState ((createVm a vm).run s)) vm.id vmid ∧
      (finalState ((createVm a vm).run s)).networks.get? vm.id = some vm.getAllConnectedNetworkNames ∧
      (finalState ((createVm a vm).run s)).data.proxmoxDict = s.data.proxmoxDict.set vm.id vmid := by
  have hstart : (outcome a.before : ProviderM Unit).run s = .ok () s := by
    rw [hbefore]
    rfl
  have hvmid : (getFreeVmid a).run s = .ok vmid s := by
    unfold getFreeVmid
    simp only [EStateM.run_bind, EStateM.run_get, hfree]
    rfl
  obtain ⟨s₁, hloop, hinterfaces₁, helsewhere₁, hdict₁⟩ :=
    run_addInterfaces a vm.id vm.getAllConnectedNetworkNames (h.free hfree).1
  have hne : 0 + vm.getAllConnectedNetworkNames.length ≠ 0 := by
    rw [Nat.zero_add]
    exact Nat.succ_ne_zero _
  obtain ⟨s₂, hmacs₂, hinterfaces₂, honly₂, -⟩ := run_getMacs_interfaces hinterfaces₁ hne
  have hinterfaces₃ : Interfaces vmid (0 + vm.getAllConnectedNetworkNames.length)
      { s₂ with
        data := { s₂.data with proxmoxDict := s₂.data.proxmoxDict.set vm.id vmid }
        networks := s₂.networks.set vm.id vm.getAllConnectedNetworkNames } :=
    ⟨hinterfaces₂.nets, hinterfaces₂.guest, hinterfaces₂.keys, hinterfaces₂.recorded⟩
  obtain ⟨s₄, hmacs₄, hinterfaces₄, honly₄, hread⟩ := run_getMacs_interfaces hinterfaces₃ hne
  have hfinal : finalState ((createVm a vm).run s) = s₄ := by
    unfold createVm
    rw [run_bind_ok _ _ hstart, run_bind_ok _ _ hvmid, run_bind_ok _ _ hloop, run_bind_ok _ _ hmacs₂]
    change finalState (EStateM.run (getMacs vmid >>= fun _ => outcome a.after) _) = _
    rw [run_bind_ok _ _ hmacs₄]
    exact outcome_finalState a.after s₄
  rw [hfinal]
  have hnetworks : s₄.networks.get? vm.id = some vm.getAllConnectedNetworkNames := by
    rw [honly₄.networks]
    change (s₂.networks.set vm.id _).get? vm.id = _
    rw [Dict.get?_set, if_pos rfl]
  refine ⟨?_, ?_, hnetworks, ?_⟩
  · have hset : Elsewhere vm.id vmid s₂ { s₂ with
        data := { s₂.data with proxmoxDict := s₂.data.proxmoxDict.set vm.id vmid }
        networks := s₂.networks.set vm.id vm.getAllConnectedNetworkNames } := by
      refine ⟨fun other hother => ?_, fun _ _ => rfl, fun _ _ => rfl, fun _ _ => rfl⟩
      change (s₂.networks.set vm.id _).get? other = _
      rw [Dict.get?_set, if_neg hother]
    exact ((helsewhere₁.trans (honly₂.elsewhere vm.id)).trans hset).trans (honly₄.elsewhere vm.id)
  · exact .of_interfaces hinterfaces₄ hne hread hnetworks (Nat.zero_add _).symm
  · rw [honly₄.proxmoxDict]
    change s₂.data.proxmoxDict.set vm.id vmid = _
    rw [honly₂.proxmoxDict, hdict₁]

theorem createVm_kept (h : Kept s) (vm : VmResource) (hbefore : a.before = none) (hfree : freeVmid a s = some vmid)
    (hnew : s.data.proxmoxDict.get? vm.id = none) : Kept (finalState ((createVm a vm).run s)) := by
  obtain ⟨helsewhere, hdescribed, hnetworks, hdict⟩ := createVm_run h vm hbefore hfree
  apply h.changed helsewhere _ _ _ hdescribed
  · rw [hnetworks]
    exact fun heq => (nomatch heq)
  · intro other
    rw [hdict, Dict.get?_set]
  · intro old hget
    rw [hnew] at hget
    cases hget
  · exact fun other hget => absurd hget ((h.free hfree).2 other)

/-- A VM that is created once more leaves its first vmid in the tables. -/
theorem createVm_not_booked (h : Kept s) (vm : VmResource) (hbefore : a.before = none) (hfree : freeVmid a s = some vmid)
    (hold : s.data.proxmoxDict.get? vm.id = some old) : ¬ Booked (finalState ((createVm a vm).run s)) := by
  obtain ⟨helsewhere, -, -, hdict⟩ := createVm_run h vm hbefore hfree
  have hne : old ≠ vmid := by
    rintro rfl
    exact (h.free hfree).2 vm.id hold
  intro hbooked
  have hkey : old ∈ (finalState ((createVm a vm).run s)).data.nets.keys := by
    rw [Dict.mem_keys_iff, helsewhere.nets old hne, ← Dict.mem_keys_iff, h.nets]
    exact ⟨vm.id, hold⟩
  obtain ⟨vm', hvm'⟩ := (hbooked.nets old).1 hkey
  rw [hdict, Dict.get?_set] at hvm'
  split at hvm'
  · cases hvm'
    exact hne rfl
  · rename_i hother
    exact hother (h.distinct vm' vm.id old hvm' hold)

theorem createVm_stuck (vm : VmResource) (hstuck : a.before = none → freeVmid a s = none) :
    finalState ((createVm a vm).run s) = s := by
  unfold createVm getFreeVmid
  cases hbefore : a.before with
  | some e => rfl
  | none =>
    simp only [EStateM.run_bind, EStateM.run_get, outcome, EStateM.run_pure, hstuck hbefore]
    rfl

theorem attachNets_kept (h : Kept s) (a : Answers) (vm : String) (netsName : List String) :
    Kept (finalState ((attachNets a vm netsName).run s)) := by
  unfold attachNets
  simp only [EStateM.run_bind, EStateM.run_get]
  cases hlive : s.data.proxmoxDict.get? vm with
  | none => exact h
  | some vmid =>
    have hdescribed := h.described vm vmid hlive
    obtain ⟨networks, -, -, hnetworks, -⟩ := h.described vm vmid hlive
    have hne : networks ≠ [] := by
      rintro rfl
      exact h.listed vm vmid hlive hnetworks
    have hpos : networks.length + netsName.length ≠ 0 := by
      have := List.length_pos_of_ne_nil hne
      omega
    obtain ⟨s₁, hloop, hinterfaces₁, helsewhere₁, hdict₁, hnetworks₁⟩ :=
      run_attachNets a vm netsName (hdescribed.interfaces hnetworks hne) hnetworks
    obtain ⟨s₂, hmacs, hinterfaces₂, honly, hread⟩ := run_getMacs_interfaces hinterfaces₁ hpos
    have hfinal : finalState (EStateM.run (do
        netsName.forM (attachNet a vm vmid)
        getMacs vmid
        outcome a.after) s) = s₂ := by
      rw [run_bind_ok _ _ hloop, run_bind_ok _ _ hmacs]
      exact outcome_finalState a.after s₂
    have hnetworks₂ : s₂.networks.get? vm = some (networks ++ netsName) := by
      rw [honly.networks]
      exact hnetworks₁
    have hdict : s₂.data.proxmoxDict = s.data.proxmoxDict := honly.proxmoxDict.trans hdict₁
    change Kept (finalState (EStateM.run (do
        netsName.forM (attachNet a vm vmid)
        getMacs vmid
        outcome a.after) s))
    rw [hfinal]
    apply h.changed (helsewhere₁.trans (honly.elsewhere vm))
    · intro other
      rw [hdict]
      split
      · rename_i heq
        rw [heq, hlive]
      · rfl
    · intro old hold
      exact Option.some.inj (hold.symm.trans hlive)
    · exact fun other hother => h.distinct other vm vmid hother hlive
    · exact .of_interfaces hinterfaces₂ hpos hread hnetworks₂ List.length_append
    · rw [hnetworks₂]
      exact fun heq => hne (List.append_eq_nil_iff.1 (Option.some.inj heq)).1

/-- A destroyed VM leaves its vmid in the tables. -/
theorem destroyVm_not_booked (h : Kept s) (hlive : s.data.proxmoxDict.get? vm = some vmid) :
    ¬ Booked (finalState ((destroyVm vm).run s)) := by
  unfold destroyVm
  simp only [EStateM.run_bind, EStateM.run_get, hlive]
  intro hbooked
  obtain ⟨vm', hvm'⟩ := (hbooked.nets vmid).1 ((h.nets vmid).2 ⟨vm, hlive⟩)
  change (s.data.proxmoxDict.erase vm).get? vm' = some vmid at hvm'
  rw [Dict.get?_erase] at hvm'
  split at hvm'
  · cases hvm'
  · rename_i hother
    exact hother (h.distinct vm' vm vmid hvm' hlive)

theorem call_kept (call : Call) (h : Kept s) :
    (call.Plain s → Kept (finalState (call.run.run s))) ∧ (¬ call.Plain s → ¬ Booked (finalState (call.run.run s))) := by
  cases call with
  | createVm vm a =>
    by_cases hstuck : a.before = none → freeVmid a s = none
    · have hsame : finalState ((Call.createVm vm a).run.run s) = s := createVm_stuck vm hstuck
      rw [hsame]
      exact ⟨fun _ => h, fun hplain => absurd (fun hbefore hfree => absurd (hstuck hbefore) hfree) hplain⟩
    · obtain ⟨hbefore, hsome⟩ := Classical.not_imp.1 hstuck
      obtain ⟨vmid, hfree⟩ := Option.ne_none_iff_exists'.1 hsome
      constructor
      · exact fun hplain => createVm_kept h vm hbefore hfree (hplain hbefore hsome)
      · intro hplain
        have hold : s.data.proxmoxDict.get? vm.id ≠ none := fun hnone => hplain (fun _ _ => hnone)
        obtain ⟨old, hold⟩ := Option.ne_none_iff_exists'.1 hold
        exact createVm_not_booked h vm hbefore hfree hold
  | attachNets vm netsName a => exact ⟨fun _ => attachNets_kept h a vm netsName, fun hplain => absurd trivial hplain⟩
  | destroyVm vm =>
    constructor
    · intro hplain
      have hgone : s.data.proxmoxDict.get? vm = none := hplain
      change Kept (finalState ((destroyVm vm).run s))
      unfold destroyVm
      simp only [EStateM.run_bind, EStateM.run_get, hgone]
      exact h
    · intro hplain
      obtain ⟨vmid, hlive⟩ := Option.ne_none_iff_exists'.1 hplain
      exact destroyVm_not_booked h hlive

/-! ### Runs -/

/-- At every moment between two calls the tables are as they should be. -/
def AlwaysBooked (calls : List Call) : Prop :=
  ∀ done rest, calls = done ++ rest → Booked (runAll Call.run {} done)

/-- The tables follow the VMs exactly when no existing VM is destroyed or created once more. -/
theorem booked_iff (calls : List Call) : AlwaysBooked calls ↔ AllSteps Call.run Call.Plain {} calls :=
  always_iff (fun call _ h => call_kept call h) (fun _ h => h.toBooked) kept_empty calls

/-- A VM is created and destroyed. -/
def createdAndDestroyed : List Call :=
  [.createVm { id := "vm1", managementNetwork := "mgmt" } { mac := fun _ => "BC:24:11:00:00:01" }, .destroyVm "vm1"]

/-- The first vmid stays in the tables. -/
theorem booked_fails : ¬ ∀ calls : List Call, AlwaysBooked calls := by
  intro h
  obtain ⟨vm, hvm⟩ := ((h createdAndDestroyed createdAndDestroyed [] rfl).nets 10000).1 (by decide +kernel)
  have hnone : (runAll Call.run {} createdAndDestroyed).data.proxmoxDict.keys = [] := by decide +kernel
  have hmem := Dict.mem_keys_iff.2 ⟨10000, hvm⟩
  rw [hnone] at hmem
  cases hmem

end ProxmoxVms

end Nfvcl
