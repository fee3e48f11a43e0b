import Mathlib.Data.List.Basic
import Nfvcl.OpenstackTracking

namespace Nfvcl
set_option autoImplicit true
open Effects

namespace Openstack

/-- An entry of the table gives an address. -/
def Gives (netInterface : VmResourceNetworkInterface) (address : Address) : Prop :=
  match address.type with
  | .fixed => netInterface.fixed.ip = address.addr ∧ netInterface.fixed.mac = address.mac
  | .floating => ∃ floating, netInterface.floating = some floating ∧ floating.ip = address.addr ∧ floating.mac = address.mac

/-- The table has an entry for every network of the server, with every address the VIM reports. -/
def Complete (vm : VmResource) (addresses : Dict String (List Address)) : Prop :=
  ∀ net reported, addresses.get? net = some reported →
    ∃ interfaces, vm.networkInterfaces.get? net = some interfaces ∧
      ∀ address ∈ reported, ∃ netInterface ∈ interfaces, Gives netInterface address

/-- No network has two different addresses of one type. -/
def OneOfEach (reported : List Address) : Prop :=
  ∀ x ∈ reported, ∀ y ∈ reported, x.type = y.type → x = y

/-! ### The table is a snapshot of the server -/

/-- Every network of the table is one of the given. -/
def Within (nets : List String) (s : Provider) : Prop :=
  ∀ net, s.vm.networkInterfaces.get? net ≠ none → net ∈ nets

theorem Within.set (h : Within nets s) (hnet : net ∈ nets) (interfaces : List VmResourceNetworkInterface) :
    Within nets { s with vm := { s.vm with networkInterfaces := s.vm.networkInterfaces.set net interfaces } } := by
  intro other hother
  change (s.vm.networkInterfaces.set net interfaces).get? other ≠ none at hother
  rw [Dict.get?_set] at hother
  split at hother
  · rename_i heq
    rw [heq]
    exact hnet
  · exact h other hother

theorem setInterfaces_within (hnet : net ∈ nets) (interfaces : List VmResourceNetworkInterface) :
    Maintains (Within nets) (setInterfaces net interfaces) :=
  Maintains.modify (fun _ h => h.set hnet interfaces)

theorem parseAddress_within (details : Dict String String) (hnet : net ∈ nets) (parsed : Parsed) (address : Address) :
    Maintains (Within nets) (parseAddress details net parsed address) := by
  unfold parseAddress
  split
  · exact Maintains.throw _
  · apply Maintains.get.bind
    intro s
    dsimp only
    apply Maintains.ite
    · apply (setInterfaces_within hnet []).bind
      intro _
      cases address.type with
      | _ => exact Maintains.pure _
    · cases address.type with
      | _ => exact Maintains.pure _

theorem parseOsAddresses_within (addresses : Dict String (List Address)) (details : Dict String String) :
    Maintains (Within addresses.keys) (parseOsAddresses addresses details) := by
  apply Maintains.forM
  intro network hnetwork
  have hnet : network.1 ∈ addresses.keys := List.mem_map_of_mem hnetwork
  apply (Maintains.foldlM (fun parsed address _ => parseAddress_within details hnet parsed address) _).bind
  intro parsed
  apply Maintains.get.bind
  intro s
  split
  · exact Maintains.throw _
  · exact Maintains.throw _
  · exact setInterfaces_within hnet _

theorem gatherInfoFromVm_within (a : Answers) (nets : List String) : Maintains (Within nets) (gatherInfoFromVm a) := by
  apply (Maintains.ofExcept _).bind
  intro text s hs
  apply Maintains.forM _ s hs
  intro entry hentry
  have hknown : s.vm.networkInterfaces.get? entry.1 ≠ none := by
    rw [Dict.get?_of_mem hentry]
    exact Option.some_ne_none _
  exact (setInterfaces_within (hs entry.1 hknown) _).bind (fun _ => outcome_maintains _)

theorem accessVm_within (a : Answers) (nets : List String) : Maintains (Within nets) (accessVm a) := by
  apply Maintains.get.bind
  intro s
  split
  · exact Maintains.throw _
  · exact Maintains.throw _
  · have haccess : ∀ access, Maintains (Within nets) (modifyVm (fun vm => { vm with accessIp := access })) :=
      fun access => Maintains.modify (fun s h => h)
    exact (haccess _).bind (fun _ => gatherInfoFromVm_within a nets)

/-- What follows the clearing of the table. -/
def fillTable (a : Answers) (addresses : Dict String (List Address)) : ProviderM Unit := do
  let s ← get
  let subnetDetailed ← getNetworkDetails a s.vm.getAllConnectedNetworkNames
  parseOsAddresses addresses subnetDetailed
  accessVm a

theorem run_updateNetInfoVm (a : Answers) (addresses : Dict String (List Address)) (s : Provider) :
    (updateNetInfoVm a addresses).run s =
      (fillTable a addresses).run { s with vm := { s.vm with networkInterfaces := .empty } } := rfl

theorem fillTable_within (a : Answers) (addresses : Dict String (List Address)) :
    Maintains (Within addresses.keys) (fillTable a addresses) := by
  apply Maintains.get.bind
  intro s
  apply (getNetworkDetails_maintains a _).bind
  intro details
  exact (parseOsAddresses_within addresses details).bind (fun _ => accessVm_within a _)

/-- After the update, whether it returns or raises, no other network is in the table. -/
theorem updateNetInfoVm_within (a : Answers) (addresses : Dict String (List Address)) (s : Provider) :
    Meets (updateNetInfoVm a addresses) s (fun _ => Within addresses.keys) (fun _ => Within addresses.keys) := by
  have hempty : Within addresses.keys { s with vm := { s.vm with networkInterfaces := .empty } } :=
    fun net hnet => absurd rfl hnet
  exact fillTable_within a addresses _ hempty

/-! ### The entry of one network -/

def VmResourceNetworkInterfaceAddress.address (type : AddressType) (a : VmResourceNetworkInterfaceAddress) : Address :=
  { type := type, addr := a.ip, mac := a.mac }

/-- The last address of a type. -/
def lastOf (type : AddressType) (reported : List Address) : Option Address :=
  (reported.filter (fun address => decide (address.type = type))).getLast?

theorem lastOf_cons (type : AddressType) (address : Address) (reported : List Address) :
    lastOf type (address :: reported) = (lastOf type reported).or (if address.type = type then some address else none) := by
  unfold lastOf
  by_cases htype : address.type = type
  · rw [if_pos htype, List.filter_cons, if_pos (decide_eq_true htype), List.getLast?_cons]
    cases (reported.filter (fun address => decide (address.type = type))).getLast? with
    | none => rfl
    | some last => rfl
  · rw [if_neg htype, List.filter_cons, if_neg (fun h => htype (of_decide_eq_true h)), Option.or_none]

theorem lastOf_singleton (type : AddressType) (address : Address) :
    lastOf type [address] = if address.type = type then some address else none := by
  rw [lastOf_cons]
  rfl

theorem lastOf_some (h : lastOf type reported = some address) : address ∈ reported ∧ address.type = type := by
  obtain ⟨hmem, htype⟩ := List.mem_filter.1 (List.mem_of_getLast? h)
  exact ⟨hmem, of_decide_eq_true htype⟩

theorem lastOf_of_mem (hmem : address ∈ reported) : ∃ last, lastOf address.type reported = some last := by
  have hne : reported.filter (fun other => decide (other.type = address.type)) ≠ [] :=
    List.ne_nil_of_mem (List.mem_filter.2 ⟨hmem, decide_eq_true rfl⟩)
  exact ⟨_, List.getLast?_eq_some_getLast hne⟩

/-- One entry, with the last addresses the VIM reports. -/
def Describes (interfaces : List VmResourceNetworkInterface) (reported : List Address) : Prop :=
  ∃ netInterface, interfaces = [netInterface] ∧ lastOf .fixed reported = some (netInterface.fixed.address .fixed) ∧
    lastOf .floating reported = netInterface.floating.map (VmResourceNetworkInterfaceAddress.address .floating)

theorem gives_iff_lastOf (hfixed : lastOf .fixed reported = some (netInterface.fixed.address .fixed))
    (hfloating : lastOf .floating reported =
      netInterface.floating.map (VmResourceNetworkInterfaceAddress.address .floating)) (address : Address) :
    Gives netInterface address ↔ lastOf address.type reported = some address := by
  obtain ⟨type, addr, mac⟩ := address
  cases type with
  | fixed =>
    change (netInterface.fixed.ip = addr ∧ netInterface.fixed.mac = mac) ↔ lastOf .fixed reported = _
    rw [hfixed, Option.some_inj, VmResourceNetworkInterfaceAddress.address, Address.mk.injEq]
    exact ⟨fun h => ⟨rfl, h⟩, fun h => h.2⟩
  | floating =>
    change (∃ floating, netInterface.floating = some floating ∧ floating.ip = addr ∧ floating.mac = mac) ↔
      lastOf .floating reported = _
    rw [hfloating, Option.map_eq_some_iff]
    apply exists_congr
    intro floating
    rw [VmResourceNetworkInterfaceAddress.address, Address.mk.injEq]
    exact and_congr_right (fun _ => ⟨fun h => ⟨rfl, h⟩, fun h => h.2⟩)

/-- The entry gives every address exactly when no type is reported twice. -/
theorem Describes.gives_iff (h : Describes interfaces reported) :
    (∀ address ∈ reported, ∃ netInterface ∈ interfaces, Gives netInterface address) ↔ OneOfEach reported := by
  obtain ⟨netInterface, rfl, hfixed, hfloating⟩ := h
  have hgives : (∀ address ∈ reported, ∃ other ∈ [netInterface], Gives other address) ↔
      ∀ address ∈ reported, lastOf address.type reported = some address := by
    apply forall₂_congr
    intro address _
    rw [← gives_iff_lastOf hfixed hfloating]
    constructor
    · rintro ⟨other, hother, hgives⟩
      rw [List.mem_singleton.1 hother] at hgives
      exact hgives
    · exact fun hgives => ⟨netInterface, List.mem_singleton.2 rfl, hgives⟩
  rw [hgives]
  constructor
  · intro hlast x hx y hy htype
    have hy' := hlast y hy
    rw [← htype, hlast x hx] at hy'
    exact Option.some.inj hy'
  · intro hone address hmem
    obtain ⟨last, hlast⟩ := lastOf_of_mem hmem
    obtain ⟨hlastmem, htype⟩ := lastOf_some hlast
    rw [hlast, hone last hlastmem address hmem htype]

/-! ### Building the table -/

/-- The entries of the other networks stay. -/
def SameOtherNets (net : String) (s s' : Provider) : Prop :=
  ∀ other, other ≠ net → s'.vm.networkInterfaces.get? other = s.vm.networkInterfaces.get? other

/-- The network has no interface in the table. -/
def Blank (net : String) (s : Provider) : Prop :=
  s.vm.networkInterfaces.get? net = none ∨ s.vm.networkInterfaces.get? net = some []

theorem setInterfaces_others (net : String) (interfaces : List VmResourceNetworkInterface) (s : Provider) :
    SameOtherNets net s { s with vm := { s.vm with networkInterfaces := s.vm.networkInterfaces.set net interfaces } } := by
  intro other hother
  change (s.vm.networkInterfaces.set net interfaces).get? other = _
  rw [Dict.get?_set, if_neg hother]

/-- What a parsed address adds to the ones before. -/
structure Parses (net : String) (reported : List Address) (parsed parsed' : Parsed) (s s' : Provider) : Prop where
  blank : Blank net s'
  others : SameOtherNets net s s'
  fixed : parsed'.1.map (VmResourceNetworkInterfaceAddress.address .fixed) =
    (lastOf .fixed reported).or (parsed.1.map (VmResourceNetworkInterfaceAddress.address .fixed))
  floating : parsed'.2.map (VmResourceNetworkInterfaceAddress.address .floating) =
    (lastOf .floating reported).or (parsed.2.map (VmResourceNetworkInterfaceAddress.address .floating))

theorem Parses.cons (h : Parses net [address] parsed parsed' s s') (h' : Parses net reported parsed' parsed'' s' s'') :
    Parses net (address :: reported) parsed parsed'' s s'' where
  blank := h'.blank
  others := fun other hother => (h'.others other hother).trans (h.others other hother)
  fixed := by
    rw [h'.fixed, h.fixed, lastOf_singleton, lastOf_cons, Option.or_assoc]
  floating := by
    rw [h'.floating, h.floating, lastOf_singleton, lastOf_cons, Option.or_assoc]

theorem run_parseAddress (h : (parseAddress details net parsed address).run s = .ok parsed' s') (hblank : Blank net s) :
    Parses net [address] parsed parsed' s s' := by
  unfold parseAddress at h
  split at h
  · cases h
  · rename_i cidr _
    obtain ⟨s₁, s₂, hget, h⟩ := bind_ok_inv h
    cases hget
    obtain ⟨type, addr, mac⟩ := address
    dsimp only at h
    by_cases hnone : s.vm.networkInterfaces.get? net = none
    · rw [if_pos hnone] at h
      obtain ⟨u, s₂, hset, h⟩ := bind_ok_inv h
      cases hset
      have hnew : (s.vm.networkInterfaces.set net []).get? net = some [] := by
        rw [Dict.get?_set, if_pos rfl]
      cases type with
      | _ =>
        cases h
        exact ⟨.inr hnew, setInterfaces_others net [] s, rfl, rfl⟩
    · rw [if_neg hnone] at h
      cases type with
      | _ =>
        cases h
        exact ⟨hblank, fun _ _ => rfl, rfl, rfl⟩

theorem run_parseAddresses (reported : List Address)
    (h : (reported.foldlM (parseAddress details net) parsed).run s = .ok parsed' s') (hblank : Blank net s) :
    Parses net reported parsed parsed' s s' := by
  induction reported generalizing parsed s with
  | nil =>
    cases h
    exact ⟨hblank, fun _ _ => rfl, rfl, rfl⟩
  | cons address reported ih =>
    rw [List.foldlM_cons] at h
    obtain ⟨parsed₁, s₁, hfirst, hrest⟩ := bind_ok_inv h
    have hone := run_parseAddress hfirst hblank
    exact hone.cons (ih hrest hone.blank)

theorem run_parseNetwork (h : (parseNetwork details entry).run s = .ok u s')
    (hnone : s.vm.networkInterfaces.get? entry.1 = none) :
    SameOtherNets entry.1 s s' ∧
      ∃ interfaces, s'.vm.networkInterfaces.get? entry.1 = some interfaces ∧ Describes interfaces entry.2 := by
  obtain ⟨parsed, s₁, hparsed, h⟩ := bind_ok_inv h
  have hparses := run_parseAddresses entry.2 hparsed (.inl hnone)
  obtain ⟨s₂, s₃, hget, h⟩ := bind_ok_inv h
  cases hget
  split at h
  · cases h
  · cases h
  · rename_i interfaces fixed hinterfaces hfixed
    cases h
    have hempty : interfaces = [] := by
      rcases hparses.blank with hblank | hblank
      · rw [hblank] at hinterfaces
        cases hinterfaces
      · rw [hblank] at hinterfaces
        cases hinterfaces
        rfl
    refine ⟨fun other hother => ?_, interfaces ++ [{ fixed := fixed, floating := parsed.2 }], ?_, ?_⟩
    · exact (setInterfaces_others entry.1 _ s₁ other hother).trans (hparses.others other hother)
    · change (s₁.vm.networkInterfaces.set entry.1 _).get? entry.1 = _
      rw [Dict.get?_set, if_pos rfl]
    · have hlast := hparses.fixed
      have hlastFloating := hparses.floating
      rw [hfixed] at hlast
      refine ⟨{ fixed := fixed, floating := parsed.2 }, by rw [hempty]; rfl, ?_, ?_⟩
      · rw [← hlast.trans (Option.or_none)]
        rfl
      · exact (hlastFloating.trans Option.or_none).symm

theorem run_parseNetworks (items : List (String × List Address)) (hnodup : (items.map Prod.fst).Nodup)
    (hnone : ∀ entry ∈ items, s.vm.networkInterfaces.get? entry.1 = none)
    (h : (items.forM (parseNetwork details)).run s = .ok u s') :
    (∀ entry ∈ items, ∃ interfaces, s'.vm.networkInterfaces.get? entry.1 = some interfaces ∧ Describes interfaces entry.2) ∧
      ∀ net, net ∉ items.map Prod.fst → s'.vm.networkInterfaces.get? net = s.vm.networkInterfaces.get? net := by
  induction items generalizing s with
  | nil =>
    cases h
    exact ⟨fun entry hentry => (nomatch hentry), fun _ _ => rfl⟩
  | cons entry items ih =>
    obtain ⟨u', s₁, hfirst, hrest⟩ := bind_ok_inv (f := fun _ => items.forM (parseNetwork details)) h
    obtain ⟨hnotin, hnodup⟩ := List.nodup_cons.1 hnodup
    obtain ⟨hothers, interfaces, hget, hdescribes⟩ := run_parseNetwork hfirst (hnone entry List.mem_cons_self)
    obtain ⟨hall, hsame⟩ := ih hnodup (by
      intro other hother
      rw [hothers other.1 (fun heq => hnotin (heq ▸ List.mem_map_of_mem hother))]
      exact hnone other (List.mem_cons_of_mem entry hother)) hrest
    constructor
    · intro other hother
      rcases List.mem_cons.1 hother with rfl | hother
      · exact ⟨interfaces, (hsame other.1 hnotin).trans hget, hdescribes⟩
      · exact hall other hother
    · intro net hnet
      rw [List.map_cons, List.mem_cons, not_or] at hnet
      exact (hsame net hnet.2).trans (hothers net hnet.1)

/-- Every network of the server is described by its entry. -/
def Described (addresses : Dict String (List Address)) (s : Provider) : Prop :=
  ∀ net reported, addresses.get? net = some reported →
    ∃ interfaces, s.vm.networkInterfaces.get? net = some interfaces ∧ Describes interfaces reported

/-- The entries give every address exactly when no network has two of a type. -/
theorem Described.complete_iff (h : Described addresses s) :
    Complete s.vm addresses ↔ ∀ net reported, addresses.get? net = some reported → OneOfEach reported := by
  constructor
  · intro hcomplete net reported hreported
    obtain ⟨interfaces, hget, hdescribes⟩ := h net reported hreported
    obtain ⟨interfaces', hget', hgives⟩ := hcomplete net reported hreported
    rw [hget] at hget'
    cases hget'
    exact hdescribes.gives_iff.1 hgives
  · intro hone net reported hreported
    obtain ⟨interfaces, hget, hdescribes⟩ := h net reported hreported
    exact ⟨interfaces, hget, hdescribes.gives_iff.2 (hone net reported hreported)⟩

theorem parseOsAddresses_described (hempty : ∀ net, s.vm.networkInterfaces.get? net = none)
    (h : (parseOsAddresses addresses details).run s = .ok u s') : Described addresses s' := by
  intro net reported hreported
  exact (run_parseNetworks addresses.items addresses.unique (fun entry _ => hempty entry.1) h).1 (net, reported)
    (Dict.mem_items hreported)

/-! ### The names of the interfaces -/

theorem nameAddress_address (h : nameAddress names value = .ok value') (type : AddressType) :
    value'.address type = value.address type := by
  unfold nameAddress at h
  split at h
  · cases h
  · cases h
    rfl

theorem nameInterface_describes (names : Dict String String) (h : Describes [value] reported) :
    Describes [(nameInterface names value).1] reported := by
  obtain ⟨netInterface, hvalue, hfixed, hfloating⟩ := h
  cases hvalue
  unfold nameInterface
  cases hnamed : nameAddress names value.fixed with
  | error e => exact ⟨value, rfl, hfixed, hfloating⟩
  | ok fixed =>
    rw [← nameAddress_address hnamed] at hfixed
    cases hall : value.floating.mapM (nameAddress names) with
    | error e => exact ⟨{ value with fixed := fixed }, rfl, hfixed, hfloating⟩
    | ok floating =>
      refine ⟨{ fixed := fixed, floating := floating }, rfl, hfixed, ?_⟩
      rw [hfloating]
      cases hold : value.floating with
      | none =>
        rw [hold] at hall
        cases hall
        rfl
      | some old =>
        have hmap : (some old).mapM (nameAddress names) = some <$> nameAddress names old := by
          rw [Option.mapM_some]
        rw [hold, hmap] at hall
        cases hone : nameAddress names old with
        | error e =>
          rw [hone] at hall
          cases hall
        | ok named =>
          rw [hone] at hall
          cases hall
          exact congrArg some (nameAddress_address hone .floating).symm

theorem nameInterfaces_describes (names : Dict String String) (h : Describes interfaces reported) :
    Describes (nameInterfaces names interfaces).1 reported := by
  have hnamed := h
  obtain ⟨netInterface, rfl, -, -⟩ := h
  have hone : (nameInterfaces names [netInterface]).1 = [(nameInterface names netInterface).1] := by
    unfold nameInterfaces
    cases hname : nameInterface names netInterface with
    | mk value result =>
      cases result with
      | none => rfl
      | some e => rfl
  rw [hone]
  exact nameInterface_describes names hnamed

theorem gatherInfoFromVm_described (a : Answers) (addresses : Dict String (List Address)) :
    Maintains (Described addresses) (gatherInfoFromVm a) := by
  apply (Maintains.ofExcept _).bind
  intro text s hs
  apply Maintains.forM _ s hs
  intro entry hentry
  apply Maintains.bind _ (fun _ => outcome_maintains _)
  apply Maintains.modify
  intro s' hs' net reported hreported
  change ∃ interfaces, (s'.vm.networkInterfaces.set entry.1 _).get? net = some interfaces ∧ _
  rw [Dict.get?_set]
  by_cases hnet : net = entry.1
  · rw [if_pos hnet]
    refine ⟨_, rfl, nameInterfaces_describes _ ?_⟩
    obtain ⟨interfaces, hget, hdescribes⟩ := hs net reported hreported
    rw [hnet, Dict.get?_of_mem hentry] at hget
    cases hget
    exact hdescribes
  · rw [if_neg hnet]
    exact hs' net reported hreported

theorem accessVm_described (a : Answers) (addresses : Dict String (List Address)) :
    Maintains (Described addresses) (accessVm a) := by
  apply Maintains.get.bind
  intro s
  split
  · exact Maintains.throw _
  · exact Maintains.throw _
  · have haccess : ∀ access, Maintains (Described addresses) (modifyVm (fun vm => { vm with accessIp := access })) :=
      fun access => Maintains.modify (fun s h => h)
    exact (haccess _).bind (fun _ => gatherInfoFromVm_described a addresses)

theorem updateNetInfoVm_described (h : (updateNetInfoVm a addresses).run s = .ok u s') : Described addresses s' := by
  rw [run_updateNetInfoVm] at h
  obtain ⟨s₁, s₂, hget, h⟩ := bind_ok_inv h
  cases hget
  obtain ⟨details, s₃, hdetails, h⟩ := bind_ok_inv h
  have hempty : ∀ net, s₃.vm.networkInterfaces.get? net = none :=
    (getNetworkDetails_maintains (I := fun s => ∀ net, s.vm.networkInterfaces.get? net = none) a _).of_ok hdetails
      (fun _ => rfl)
  obtain ⟨u', s₄, hparsed, h⟩ := bind_ok_inv h
  have hdescribed : Described addresses s₄ := parseOsAddresses_described hempty hparsed
  exact (accessVm_described a addresses).of_ok h hdescribed

/-! ### The server of the VM -/

def vmServer (s : Provider) : Option Server :=
  (s.data.osDict.get? s.vm.id).bind (findServer s)

theorem tableFree_vmServer (server : Option Server) : TableFree (fun s => vmServer s = server) :=
  fun _ _ _ h => h

theorem vmServer_registered (a : Answers) (hfresh : s.vim.nextId ∉ s.vim.serverIds) :
    vmServer (registered a s) = some { id := s.vim.nextId, addresses := a.addresses, ports := a.ports } := by
  have hget : (registered a s).data.osDict.get? s.vm.id = some s.vim.nextId := by
    rw [get?_registered, if_pos rfl]
  have hold : s.vim.servers.find? (fun server => decide (server.id = s.vim.nextId)) = none := by
    apply List.find?_eq_none.2
    intro server hserver heq
    exact hfresh (List.mem_map.2 ⟨server, hserver, of_decide_eq_true heq⟩)
  change ((registered a s).data.osDict.get? s.vm.id).bind (findServer (registered a s)) = _
  rw [hget]
  change (s.vim.servers ++ [_]).find? (fun server : Server => decide (server.id = s.vim.nextId)) = _
  rw [List.find?_append, hold, Option.none_or]
  exact List.find?_cons_of_pos (decide_eq_true rfl)

/-- The server of a VM that was created, and the entries of its networks. -/
structure Connects (addresses : Dict String (List Address)) (s : Provider) : Prop where
  server : ∃ server, vmServer s = some server ∧ server.addresses = addresses
  described : Described addresses s

theorem finishVm_connects (hfresh : s.vim.nextId ∉ s.vim.serverIds)
    (h : (finishVm a s.vim.nextId).run (registered a s) = .ok u s') : Connects a.addresses s' := by
  obtain ⟨u₁, s₁, hupdate, h⟩ := bind_ok_inv h
  obtain ⟨u₂, s₂, hports, h⟩ := bind_ok_inv h
  have hserver := vmServer_registered a hfresh
  have hafter := (updateNetInfoVm_maintains (tableFree_vmServer _) a a.addresses).of_ok hupdate hserver
  have hs₂ : s₂ = s₁ := (disablePortSecurityAllPorts_maintains (I := fun s => s = s₁) a _).of_ok hports rfl
  have hdescribed := updateNetInfoVm_described hupdate
  rw [hs₂] at h
  cases h
  exact ⟨⟨_, hafter, rfl⟩, hdescribed⟩

theorem placeServer_connects (hfresh : s.vim.nextId ∉ s.vim.serverIds)
    (h : (placeServer a s.vm.id).run s = .ok u s') : Connects a.addresses s' := by
  unfold placeServer createServer at h
  simp only [EStateM.run_bind, EStateM.run_get] at h
  cases hcreate : a.createServer with
  | refused e =>
    rw [hcreate] at h
    cases h
  | lost e =>
    rw [hcreate] at h
    cases h
  | done =>
    rw [hcreate] at h
    exact finishVm_connects hfresh h

theorem afterFlavor_connects (hfresh : s.vim.nextId ∉ s.vim.serverIds)
    (h : (afterFlavor a).run s = .ok u s') : Connects a.addresses s' := by
  unfold afterFlavor at h
  rcases checkFloatingNetwork_checks a s with ⟨-, hrun⟩ | ⟨-, e, hrun⟩
  · rw [run_bind_ok _ _ hrun] at h
    rcases networkNamesToIds_checks a s.vm.getAllConnectedNetworkNames s with ⟨-, hrun⟩ | ⟨-, e, hrun⟩
    · change EStateM.run (networkNamesToIds a s.vm.getAllConnectedNetworkNames >>= fun _ => placeServer a s.vm.id) s = _ at h
      rw [run_bind_ok _ _ hrun] at h
      exact placeServer_connects hfresh h
    · change EStateM.run (networkNamesToIds a s.vm.getAllConnectedNetworkNames >>= fun _ => placeServer a s.vm.id) s = _ at h
      rw [run_bind_error _ _ hrun] at h
      cases h
  · rw [run_bind_error _ _ hrun] at h
    cases h

theorem createVm_connects (hfresh : s.vim.nextId ∉ s.vim.serverIds) (h : (createVm a).run s = .ok u s') :
    Connects a.addresses s' := by
  rw [createVm_eq] at h
  obtain ⟨u₁, s₁, hchecks, h⟩ := bind_ok_inv h
  have hs₁ : s₁ = s := by
    rcases preCreationChecks_checks a s with ⟨-, hrun⟩ | ⟨-, e, hrun⟩
    · rw [hrun] at hchecks
      cases hchecks
      rfl
    · rw [hrun] at hchecks
      cases hchecks
  obtain ⟨u₂, s₂, himage, h⟩ := bind_ok_inv h
  have hs₂ : s₂ = s₁ := by
    rcases Checks.outcome a.prepareImage s₁ with ⟨-, hrun⟩ | ⟨-, e, hrun⟩
    · rw [hrun] at himage
      cases himage
      rfl
    · rw [hrun] at himage
      cases himage
  obtain ⟨u₃, s₃, hflavor, h⟩ := bind_ok_inv h
  rw [hs₂, hs₁] at hflavor
  rcases createGetFlavor_run a s with ⟨-, hrun | hrun⟩ | ⟨-, -, e, hrun⟩ | ⟨-, -, e, hrun⟩
  · rw [hrun] at hflavor
    cases hflavor
    exact afterFlavor_connects hfresh h
  · rw [hrun] at hflavor
    cases hflavor
    exact afterFlavor_connects (s := withFlavor s.vm.newFlavor s) hfresh h
  · rw [hrun] at hflavor
    cases hflavor
  · rw [hrun] at hflavor
    cases hflavor

/-! ### One request -/

/-- A request for networks, with what OpenStack answers meanwhile. -/
structure AttachCall where
  netsName : List String
  answers : Answers

def AttachCall.run (call : AttachCall) : ProviderM (List String) :=
  attachNets call.answers call.netsName

/-- The server is found, the networks exist, and their interfaces are made. -/
structure AttachCall.Succeeds (call : AttachCall) : Prop where
  getServer : call.answers.getServer = none
  networks : ∀ net ∈ call.netsName, call.answers.network net = .ok true
  interfaces : ∀ net ∈ call.netsName, call.answers.createServerInterface net = .done

/-- The requested networks the server is not on, each once, in the order of the request. -/
def newNets (server : Server) (netsName : List String) : List String :=
  (netsName.filter (fun net => decide (net ∉ server.addresses.keys))).eraseDups

/-- The server has one new interface on each of the networks, and the others as before. -/
structure Connected (a : Answers) (nets : List String) (server server' : Server) : Prop where
  ports : server'.ports = server.ports ++ nets.map (fun net => (a.newInterface net).1)
  addresses : ∀ net, server'.addresses.get? net =
    if net ∈ nets then some (a.newInterface net).2 else server.addresses.get? net

/-- The request returns one address for each new network, which is attached once and listed, and the
table has every address of the server. -/
def Attaches (call : AttachCall) (s : Provider) : Prop :=
  ∃ ips s' server server', call.run.run s = .ok ips s' ∧ vmServer s = some server ∧ vmServer s' = some server' ∧
    Connected call.answers (newNets server call.netsName) server server' ∧ Complete s'.vm server'.addresses ∧
    s'.vm.additionalNetworks = s.vm.additionalNetworks ++ newNets server call.netsName ∧
    List.Forall₂ (fun net ip => ∃ address ∈ (call.answers.newInterface net).2, address.type = .fixed ∧ address.addr = ip)
      (newNets server call.netsName) ips

/-- A network of the server is missing in the table. -/
def Lost (s : Provider) : Prop :=
  ∃ server, vmServer s = some server ∧ ∃ net ∈ server.addresses.keys, s.vm.networkInterfaces.get? net = none

theorem Lost.not_complete (h : Lost s) (hserver : vmServer s = some server) : ¬ Complete s.vm server.addresses := by
  obtain ⟨server', hserver', net, hnet, hnone⟩ := h
  rw [hserver] at hserver'
  cases hserver'
  intro hcomplete
  obtain ⟨reported, hreported⟩ := Dict.mem_keys_iff.1 hnet
  obtain ⟨interfaces, hget, -⟩ := hcomplete net reported hreported
  rw [hnone] at hget
  cases hget

theorem mem_foldl_toAttach (attached netsName nets : List String) (net : String) :
    net ∈ netsName.foldl (fun nets net => if net ∉ attached ∧ net ∉ nets then nets ++ [net] else nets) nets ↔
      net ∈ nets ∨ net ∉ attached ∧ net ∈ netsName := by
  induction netsName generalizing nets with
  | nil =>
    constructor
    · exact .inl
    · rintro (h | ⟨-, h⟩)
      · exact h
      · cases h
  | cons first netsName ih =>
    rw [List.foldl_cons, ih, List.mem_cons]
    by_cases hnew : first ∉ attached ∧ first ∉ nets
    · rw [if_pos hnew, List.mem_append, List.mem_singleton, or_assoc]
      apply or_congr_right
      constructor
      · rintro (rfl | ⟨hnot, hmem⟩)
        · exact ⟨hnew.1, .inl rfl⟩
        · exact ⟨hnot, .inr hmem⟩
      · rintro ⟨hnot, rfl | hmem⟩
        · exact .inl rfl
        · exact .inr ⟨hnot, hmem⟩
    · rw [if_neg hnew]
      constructor
      · rintro (h | ⟨hnot, hmem⟩)
        · exact .inl h
        · exact .inr ⟨hnot, .inr hmem⟩
      · rintro (h | ⟨hnot, rfl | hmem⟩)
        · exact .inl h
        · exact .inl (Classical.byContradiction (fun hnets => hnew ⟨hnot, hnets⟩))
        · exact .inr ⟨hnot, hmem⟩

theorem mem_toAttach : net ∈ toAttach attached netsName ↔ net ∉ attached ∧ net ∈ netsName := by
  rw [toAttach, mem_foldl_toAttach]
  exact or_iff_right List.not_mem_nil

theorem toAttach_eq_nil : toAttach attached netsName = [] ↔ ∀ net ∈ netsName, net ∈ attached := by
  rw [List.eq_nil_iff_forall_not_mem]
  apply forall_congr'
  intro net
  rw [mem_toAttach, not_and]
  exact not_imp_not

/-- What follows the choice of the networks. -/
def attachAll (a : Answers) (id : ResourceId) (addresses : Dict String (List Address)) (nets : List String) :
    ProviderM (List String) := do
  let newInterfaces ← nets.mapM (attachNet a id)
  updateNetInfoVm a addresses
  disablePortSecurityAllPorts a id
  let ips ← newInterfaces.mapM fixedIp
  outcome a.netplan
  return ips

theorem AttachCall.run_eq {call : AttachCall} (hserver : vmServer s = some server) (hcall : call.answers.getServer = none) :
    ∃ id, s.data.osDict.get? s.vm.id = some id ∧ findServer s id = some server ∧
      call.run.run s =
        if toAttach server.addresses.keys call.netsName = [] then .ok [] s
        else (attachAll call.answers id server.addresses (toAttach server.addresses.keys call.netsName)).run s := by
  obtain ⟨id, hid, hfind⟩ := Option.bind_eq_some_iff.1 hserver
  refine ⟨id, hid, hfind, ?_⟩
  unfold AttachCall.run attachNets
  simp only [EStateM.run_bind, EStateM.run_get, hid, hcall, hfind, outcome, attachedNetworks, EStateM.run_pure]
  rw [run_ite]
  rfl

/-- The provider after one network is attached. -/
def attachedTo (a : Answers) (id : ResourceId) (s : Provider) (net : String) : Provider :=
  { s with
    vim := { s.vim with servers := s.vim.servers.map (attachInterface id net (a.newInterface net)) }
    vm := { s.vm with additionalNetworks := s.vm.additionalNetworks ++ [net] } }

theorem run_attachNets (serverId : ResourceId) {nets : List String}
    (h : ∀ net ∈ nets, a.network net = .ok true ∧ a.createServerInterface net = .done) (s : Provider) :
    (nets.mapM (attachNet a serverId)).run s =
      .ok (nets.map (fun net => (a.newInterface net).1)) (nets.foldl (attachedTo a serverId) s) := by
  induction nets generalizing s with
  | nil => rfl
  | cons net nets ih =>
    obtain ⟨hnetwork, hdone⟩ := h net List.mem_cons_self
    have hone : (attachNet a serverId net).run s = .ok (a.newInterface net).1 (attachedTo a serverId s net) := by
      unfold attachNet
      rw [hnetwork, hdone]
      rfl
    rw [List.mapM_cons, run_bind_ok _ _ hone,
      run_bind_ok _ _ (ih (fun other hother => h other (List.mem_cons_of_mem net hother)) (attachedTo a serverId s net))]
    rfl

theorem attachInterface_id (id : ResourceId) (net : String) (interface : String × List Address) (server : Server) :
    (attachInterface id net interface server).id = server.id := by
  unfold attachInterface
  split
  · rfl
  · rfl

theorem findServer_attachedTo (a : Answers) (serverId other : ResourceId) (s : Provider) (net : String) :
    findServer (attachedTo a serverId s net) other = (findServer s other).map (attachInterface serverId net (a.newInterface net)) := by
  change (s.vim.servers.map _).find? _ = _
  rw [List.find?_map]
  have hsame : (fun server : Server => decide (server.id = other)) ∘ attachInterface serverId net (a.newInterface net) =
      fun server => decide (server.id = other) := by
    funext server
    rw [Function.comp, attachInterface_id]
  rw [hsame]
  rfl

/-- The server gets the network, and keeps those it has. -/
theorem vmServer_attachedTo (a : Answers) (hserver : findServer s serverId = some server) (net : String) :
    ∃ server', findServer (attachedTo a serverId s net) serverId = some server' ∧
      ∀ other, other = net ∨ other ∈ server.addresses.keys → other ∈ server'.addresses.keys := by
  refine ⟨attachInterface serverId net (a.newInterface net) server, ?_, ?_⟩
  · rw [findServer_attachedTo, hserver]
    rfl
  · have hfound : server.id = serverId :=
      of_decide_eq_true (List.find?_some (p := fun server : Server => decide (server.id = serverId)) hserver)
    intro other hother
    rw [attachInterface, if_pos hfound]
    exact Dict.mem_keys_set.2 hother

theorem vmServer_foldl (a : Answers) (nets : List String) (hid : s.data.osDict.get? s.vm.id = some serverId)
    (hserver : findServer s serverId = some server) :
    ∃ server', vmServer (nets.foldl (attachedTo a serverId) s) = some server' ∧
      ∀ net, net ∈ nets ∨ net ∈ server.addresses.keys → net ∈ server'.addresses.keys := by
  induction nets generalizing s server with
  | nil =>
    refine ⟨server, ?_, fun net hnet => hnet.resolve_left List.not_mem_nil⟩
    rw [List.foldl_nil, vmServer, hid]
    exact hserver
  | cons net nets ih =>
    obtain ⟨server₁, hserver₁, hkeys₁⟩ := vmServer_attachedTo a hserver net
    obtain ⟨server', hserver', hkeys⟩ := ih (s := attachedTo a serverId s net) hid hserver₁
    refine ⟨server', hserver', fun other hother => hkeys other ?_⟩
    rcases hother with hother | hother
    · rcases List.mem_cons.1 hother with rfl | hother
      · exact .inr (hkeys₁ other (.inl rfl))
      · exact .inl hother
    · exact .inr (hkeys₁ other (.inr hother))

theorem fixedIp_maintains {I : Provider → Prop} (mac : String) : Maintains I (fixedIp mac) := by
  apply Maintains.get.bind
  intro s
  split
  · exact Maintains.throw _
  · exact Maintains.pure _

/-- A network that is really attached is missing in the table afterwards. -/
theorem attachAll_lost (hid : s.data.osDict.get? s.vm.id = some serverId) (hserver : findServer s serverId = some server)
    (hnets : ∀ net ∈ nets, a.network net = .ok true ∧ a.createServerInterface net = .done)
    (hnew : net ∈ nets) (hnot : net ∉ server.addresses.keys) :
    Lost (finalState ((attachAll a serverId server.addresses nets).run s)) := by
  obtain ⟨server', hserver', hkeys⟩ := vmServer_foldl a nets hid hserver
  have hlost : ∀ s', Within server.addresses.keys s' ∧ vmServer s' = some server' → Lost s' := by
    rintro s' ⟨hwithin, hs'⟩
    refine ⟨server', hs', net, hkeys net (.inl hnew), ?_⟩
    exact Classical.byContradiction (fun hsome => hnot (hwithin net hsome))
  have hupdate : Meets (updateNetInfoVm a server.addresses) (nets.foldl (attachedTo a serverId) s) (fun _ => Lost) (fun _ => Lost) := by
    apply ((updateNetInfoVm_within a server.addresses _).and
      (updateNetInfoVm_maintains (tableFree_vmServer (some server')) a server.addresses _ hserver')).mono
    · exact fun _ s' => hlost s'
    · exact fun _ s' => hlost s'
  unfold attachAll
  rw [run_bind_ok _ _ (run_attachNets serverId hnets s)]
  apply Meets.finalState
  apply hupdate.bind
  intro _
  apply (disablePortSecurityAllPorts_maintains a serverId).bind
  intro _
  apply (Maintains.mapM (fun mac _ => fixedIp_maintains mac)).bind
  intro ips
  exact (outcome_maintains _).bind (fun _ => Maintains.pure _)

/-- A request for networks the server is on changes nothing, any other loses a network. -/
theorem AttachCall.keeps {call : AttachCall} (hserver : vmServer s = some server) (hcall : call.Succeeds) :
    (∀ net ∈ call.netsName, net ∈ server.addresses.keys) ∧ call.run.run s = .ok [] s ∨
      (¬ ∀ net ∈ call.netsName, net ∈ server.addresses.keys) ∧ Lost (finalState (call.run.run s)) := by
  obtain ⟨id, hid, hfind, hrun⟩ := AttachCall.run_eq hserver hcall.getServer
  by_cases hall : ∀ net ∈ call.netsName, net ∈ server.addresses.keys
  · rw [if_pos (toAttach_eq_nil.2 hall)] at hrun
    exact .inl ⟨hall, hrun⟩
  · have hne := mt toAttach_eq_nil.1 hall
    rw [if_neg hne] at hrun
    obtain ⟨net, hnet⟩ := List.exists_mem_of_ne_nil _ hne
    refine .inr ⟨hall, ?_⟩
    rw [hrun]
    apply attachAll_lost hid hfind _ hnet (mem_toAttach.1 hnet).1
    intro other hother
    exact ⟨hcall.networks other (mem_toAttach.1 hother).2, hcall.interfaces other (mem_toAttach.1 hother).2⟩

theorem attaches_call {call : AttachCall} (hserver : vmServer s = some server) (hcall : call.Succeeds) :
    Attaches call s ↔ (∀ net ∈ call.netsName, net ∈ server.addresses.keys) ∧ Complete s.vm server.addresses := by
  constructor
  · rintro ⟨ips, s', server₀, server', hrun, -, hserver', -, hcomplete, -⟩
    rcases AttachCall.keeps hserver hcall with ⟨hall, hsame⟩ | ⟨-, hlost⟩
    · rw [hrun] at hsame
      cases hsame
      rw [hserver] at hserver'
      cases hserver'
      exact ⟨hall, hcomplete⟩
    · rw [hrun] at hlost
      exact absurd hcomplete (hlost.not_complete hserver')
  · rintro ⟨hall, hcomplete⟩
    have hrun : call.run.run s = .ok [] s :=
      (AttachCall.keeps hserver hcall).elim (fun h => h.2) (fun h => absurd hall h.1)
    have hnone : newNets server call.netsName = [] := by
      rw [newNets, List.filter_eq_nil_iff.2]
      · rfl
      · intro net hnet hnot
        exact of_decide_eq_true hnot (hall net hnet)
    refine ⟨[], s, server, server, hrun, hserver, hserver, ?_, hcomplete, ?_, ?_⟩
    · rw [hnone]
      exact ⟨(List.append_nil _).symm, fun net => (if_neg List.not_mem_nil).symm⟩
    · rw [hnone, List.append_nil]
    · rw [hnone]
      exact .nil

/-! ### A VM over its requests -/

theorem Lost.call {call : AttachCall} (h : Lost s) (hcall : call.Succeeds) : Lost (finalState (call.run.run s)) := by
  have hlost := h
  obtain ⟨server, hserver, -⟩ := h
  rcases AttachCall.keeps hserver hcall with ⟨-, hrun⟩ | ⟨-, hafter⟩
  · rw [hrun]
    exact hlost
  · exact hafter

theorem Lost.not_attaches {call : AttachCall} (h : Lost s) (hcall : call.Succeeds) : ¬ Attaches call s := by
  have hlost := h
  obtain ⟨server, hserver, -⟩ := h
  exact fun hattaches => hlost.not_complete hserver ((attaches_call hserver hcall).1 hattaches).2

theorem attaches_run (earlier : List AttachCall) (hserver : vmServer s = some server)
    (hcalls : ∀ call ∈ earlier ++ [last], call.Succeeds) :
    Attaches last (runAll AttachCall.run s earlier) ↔
      (∀ call ∈ earlier ++ [last], ∀ net ∈ call.netsName, net ∈ server.addresses.keys) ∧
        Complete s.vm server.addresses := by
  induction earlier generalizing s with
  | nil =>
    rw [List.nil_append] at hcalls ⊢
    rw [List.forall_mem_singleton]
    exact attaches_call hserver (hcalls last (List.mem_singleton.2 rfl))
  | cons call earlier ih =>
    obtain ⟨hcall, hrest⟩ := List.forall_mem_cons.1 hcalls
    rw [runAll_cons, List.cons_append, List.forall_mem_cons, and_assoc]
    rcases AttachCall.keeps hserver hcall with ⟨hall, hrun⟩ | ⟨hnot, hlost⟩
    · rw [hrun, finalState_ok, ih hserver hrest]
      exact (and_iff_right hall).symm
    · apply iff_of_false
      · apply Lost.not_attaches _ (hrest last (List.mem_append_right _ (List.mem_singleton.2 rfl)))
        apply runAll_mem AttachCall.run earlier _ hlost
        intro other hother s' hs'
        exact hs'.call (hrest other (List.mem_append_left _ hother))
      · exact fun h => hnot h.1

/-- A request does its part exactly when neither it nor one before asks for a network the VM was not
created on, and no network of the VM has two addresses of a type. -/
theorem attaches_iff (s s₀ : Provider) (a : Answers) (hfresh : s.vim.nextId ∉ s.vim.serverIds)
    (hcreated : (createVm a).run s = .ok () s₀) (earlier : List AttachCall) (last : AttachCall)
    (hsucceed : ∀ call ∈ earlier ++ [last], call.Succeeds) :
    Attaches last (runAll AttachCall.run s₀ earlier) ↔
      (∀ call ∈ earlier ++ [last], ∀ net ∈ call.netsName, net ∈ a.addresses.keys) ∧
        ∀ net reported, a.addresses.get? net = some reported → OneOfEach reported := by
  have hconnects := createVm_connects hfresh hcreated
  obtain ⟨server, hserver, haddresses⟩ := hconnects.server
  rw [attaches_run earlier hserver hsucceed, haddresses, hconnects.described.complete_iff]

/-! ### One VM on one network -/

def mgmtVm : VmResource := { id := "vm1", name := "ubuntu", managementNetwork := "mgmt" }

def mgmtAnswers : Answers where
  availableNetworks := .ok ["mgmt"]
  networkDetails := fun _ => .ok (some ⟨[.ok "10.0.0.0/24"]⟩)
  addresses := Dict.empty.set "mgmt" [⟨.fixed, "10.0.0.5", "fa:16:3e:00:00:01"⟩]
  ports := ["fa:16:3e:00:00:01"]
  interfacesMac := .ok "ens3: fa:16:3e:00:00:01"

def createdVm : Provider :=
  finalState ((createVm mgmtAnswers).run (newProvider false mgmtVm))

theorem createVm_mgmt : (createVm mgmtAnswers).run (newProvider false mgmtVm) = .ok () createdVm :=
  eq_ok_of_not_raised (by decide +kernel)

theorem attaches_iff_mgmt : Attaches ⟨["mgmt", "mgmt"], {}⟩ createdVm := by
  apply (attaches_iff (newProvider false mgmtVm) createdVm mgmtAnswers List.not_mem_nil createVm_mgmt [] ⟨["mgmt", "mgmt"], {}⟩ ?_).2
  · constructor
    · intro call hcall net hnet
      cases List.mem_singleton.1 hcall
      revert net
      decide
    · intro net reported hreported
      change (Dict.empty.set "mgmt" [_]).get? net = _ at hreported
      rw [Dict.get?_set] at hreported
      split at hreported
      · cases hreported
        intro x hx y hy _
        rw [List.mem_singleton.1 hx, List.mem_singleton.1 hy]
      · cases hreported
  · intro call hcall
    cases List.mem_singleton.1 hcall
    exact ⟨rfl, fun _ _ => rfl, fun _ _ => rfl⟩

/-- A network the VM is not on. -/
def dataRequest : AttachCall where
  netsName := ["data"]
  answers := { mgmtAnswers with newInterface := fun _ => ("fa:16:3e:00:00:02", [⟨.fixed, "10.0.1.5", "fa:16:3e:00:00:02"⟩]) }

/-- It is attached, but its interface is not found. -/
theorem attaches_fails :
    ¬ ∀ (s s₀ : Provider) (a : Answers), s.vim.nextId ∉ s.vim.serverIds → (createVm a).run s = .ok () s₀ →
      ∀ (earlier : List AttachCall) (last : AttachCall), (∀ call ∈ earlier ++ [last], call.Succeeds) →
        Attaches last (runAll AttachCall.run s₀ earlier) := by
  intro h
  have hsucceed : ∀ call ∈ [] ++ [dataRequest], call.Succeeds := by
    intro call hcall
    cases List.mem_singleton.1 hcall
    exact ⟨rfl, fun _ _ => rfl, fun _ _ => rfl⟩
  obtain ⟨ips, s', -, -, hrun, -⟩ := h _ _ mgmtAnswers List.not_mem_nil createVm_mgmt [] dataRequest hsucceed
  have hraised : returned (dataRequest.run.run createdVm) = none := by decide +kernel
  rw [runAll_nil] at hrun
  rw [hrun] at hraised
  cases hraised

end Openstack

end Nfvcl
