import Mathlib.Data.List.Basic
import Nfvcl.Maintained
import Nfvcl.OpenstackProvider

namespace Nfvcl
set_option autoImplicit true
open Effects

namespace Openstack

inductive Call where
  | createVm (vm : VmResource) (answers : Answers)
  | createNet (net : NetResource) (answers : Answers)
  | attachNets (vm : VmResource) (netsName : List String) (answers : Answers)
  | destroyVm (vm : VmResource) (answers : Answers)

def onVm (vm : VmResource) (m : ProviderM Unit) : ProviderM Unit := do
  modifyVm (fun _ => vm)
  m

def Call.run : Call → ProviderM Unit
  | .createVm vm a => onVm vm (Openstack.createVm a)
  | .createNet net a => Openstack.createNet a net
  | .attachNets vm netsName a => onVm vm (do let _ ← Openstack.attachNets a netsName)
  | .destroyVm vm a => onVm vm (Openstack.destroyVm a)

namespace Vim

def serverIds (vim : Vim) : List ResourceId :=
  vim.servers.map Server.id

end Vim

/-- Everything the provider created and still exists is recorded in its data. -/
structure Tracked (s : Provider) : Prop where
  servers : ∀ id ∈ s.vim.serverIds, ∃ vm, s.data.osDict.get? vm = some id
  flavors : ∀ name ∈ s.vim.flavors, name ∈ s.data.flavors
  networks : ∀ id ∈ s.vim.networks, id ∈ s.data.networks
  subnets : ∀ id ∈ s.vim.subnets, id ∈ s.data.subnets

/-- Every registered VM is destroyed, and what is left is cleaned up, with requests that succeed. -/
def cleanUp (s : Provider) : Provider :=
  let s := runAll (fun id => onVm { s.vm with id := id } (destroyVm {})) s s.data.osDict.keys
  finalState ((finalCleanup {}).run s)

/-- Nothing the provider created exists. -/
def Cleared (s : Provider) : Prop :=
  s.vim.servers = [] ∧ s.vim.flavors = [] ∧ s.vim.networks = [] ∧ s.vim.subnets = []

/-- The identifiers the provider has recorded were given by the VIM, each server's once. -/
structure Consistent (s : Provider) : Prop where
  existing : ∀ id ∈ s.vim.serverIds, id < s.vim.nextId
  recorded : ∀ vm id, s.data.osDict.get? vm = some id → id < s.vim.nextId
  distinct : ∀ vm vm' id, s.data.osDict.get? vm = some id → s.data.osDict.get? vm' = some id → vm = vm'
  networks : ∀ id ∈ s.data.networks, id < s.vim.nextId
  subnets : ∀ id ∈ s.data.subnets, id < s.vim.nextId

/-! ### What leaves something behind -/

namespace VmResource

def newFlavor (vm : VmResource) : String :=
  "Flavor_" ++ vm.name

end VmResource

/-- The networks of the VM exist and its image is there. -/
def ChecksPass (a : Answers) (vm : VmResource) : Prop :=
  (∀ net ∈ vm.getAllConnectedNetworkNames, a.network net = .ok true) ∧ a.prepareImage = none

/-- A flavor is created for the VM. -/
def NewFlavor (vm : VmResource) (s : Provider) : Prop :=
  vm.flavorName = none ∧ vm.newFlavor ∉ s.data.flavors

/-- The VM gets its flavor. -/
def FlavorReady (a : Answers) (vm : VmResource) (s : Provider) : Prop :=
  match vm.flavorName with
  | some _ => a.getFlavor = .ok true ∨ a.getFlavor = .ok false ∧ a.createFlavor = .done
  | none =>
    if vm.newFlavor ∈ s.data.flavors then a.getFlavor = .ok true
    else a.createFlavor = .done ∧ a.getProject = none ∧ a.addFlavorAccess = none

/-- The new flavor exists, but a request after it raises. -/
def FlavorLeaks (a : Answers) (vm : VmResource) (s : Provider) : Prop :=
  NewFlavor vm s ∧ ((∃ e, a.createFlavor = .lost e) ∨
    a.createFlavor = .done ∧ ¬ (a.getProject = none ∧ a.addFlavorAccess = none))

def FloatingReady (a : Answers) (vm : VmResource) (s : Provider) : Prop :=
  (s.vimNeedFloatingIp || vm.requireFloatingIp) = true → ∃ net, a.floatingNetworks = .ok [net]

def IdsReady (a : Answers) (vm : VmResource) : Prop :=
  ∃ allNetworks, a.availableNetworks = .ok allNetworks ∧ ∀ net ∈ vm.getAllConnectedNetworkNames, net ∈ allNetworks

/-- The server exists, but its request raises, or it takes the place of one that still exists. -/
def ServerLeaks (a : Answers) (vm : VmResource) (s : Provider) : Prop :=
  (∃ e, a.createServer = .lost e) ∨
    a.createServer = .done ∧ ∃ id, s.data.osDict.get? vm.id = some id ∧ id ∈ s.vim.serverIds

/-- The network exists, but its request or the one for its subnet raises. -/
def NetLeaks (a : Answers) (net : NetResource) : Prop :=
  a.network net.name = .ok false ∧ a.listSubnets = .ok false ∧
    ((∃ e, a.createNetwork = .lost e) ∨ a.createNetwork = .done ∧ a.createSubnet ≠ .done)

def Call.Leaks : Call → Provider → Prop
  | .createVm vm a, s => ChecksPass a vm ∧ (FlavorLeaks a vm s ∨
      FlavorReady a vm s ∧ FloatingReady a vm s ∧ IdsReady a vm ∧ ServerLeaks a vm s)
  | .createNet net a, _ => NetLeaks a net
  | .attachNets _ _ _, _ => False
  | .destroyVm _ _, _ => False

/-! ### Steps that only read -/

/-- A program that changes nothing, and returns exactly when `P` holds. -/
def Checks (P : Provider → Prop) (m : ProviderM Unit) : Prop :=
  ∀ s, P s ∧ m.run s = .ok () s ∨ ¬ P s ∧ ∃ e, m.run s = .error e s

theorem Checks.congr (h : Checks P m) (hiff : ∀ s, P s ↔ Q s) : Checks Q m := by
  intro s
  rw [← hiff s]
  exact h s

theorem Checks.outcome (result : Option PyError) : Checks (fun _ => result = none) (Nfvcl.outcome result) := by
  intro s
  cases result with
  | none => exact .inl ⟨rfl, rfl⟩
  | some e => exact .inr ⟨fun h => (nomatch h), e, rfl⟩

theorem Checks.forM {f : α → ProviderM Unit} {P : α → Provider → Prop} (h : ∀ x, Checks (P x) (f x)) (xs : List α) :
    Checks (fun s => ∀ x ∈ xs, P x s) (xs.forM f) := by
  intro s
  induction xs with
  | nil => exact .inl ⟨fun x hx => (nomatch hx), rfl⟩
  | cons x xs ih =>
    have hcons : (List.forM (x :: xs) f).run s = (f x >>= fun _ => xs.forM f).run s := rfl
    have hall : (∀ y ∈ x :: xs, P y s) ↔ P x s ∧ ∀ y ∈ xs, P y s := List.forall_mem_cons
    rw [hcons]
    rcases h x s with ⟨hx, hrun⟩ | ⟨hx, e, hrun⟩
    · rw [run_bind_ok _ _ hrun]
      rcases ih with ⟨hxs, hrest⟩ | ⟨hxs, e, hrest⟩
      · exact .inl ⟨hall.2 ⟨hx, hxs⟩, hrest⟩
      · exact .inr ⟨fun h => hxs (hall.1 h).2, e, hrest⟩
    · exact .inr ⟨fun h => hx (hall.1 h).1, e, run_bind_error _ _ hrun⟩

theorem preCreationChecks_checks (a : Answers) :
    Checks (fun s => ∀ net ∈ s.vm.getAllConnectedNetworkNames, a.network net = .ok true) (preCreationChecks a) := by
  intro s
  have hone : ∀ net, Checks (fun _ => a.network net = .ok true) (do
      if !(← ofExcept (a.network net)) then throw (.exception ("Network >" ++ net ++ "< not found on vim"))) := by
    intro net s
    cases a.network net with
    | error e => exact .inr ⟨fun h => (nomatch h), e, rfl⟩
    | ok found =>
      cases found with
      | true => exact .inl ⟨rfl, rfl⟩
      | false => exact .inr ⟨fun h => (nomatch h), _, rfl⟩
  exact Checks.forM hone s.vm.getAllConnectedNetworkNames s

theorem checkFloatingNetwork_checks (a : Answers) :
    Checks (fun s => FloatingReady a s.vm s) (checkFloatingNetwork a) := by
  intro s
  unfold checkFloatingNetwork FloatingReady
  simp only [EStateM.run_bind, EStateM.run_get]
  cases s.vimNeedFloatingIp || s.vm.requireFloatingIp with
  | false => exact .inl ⟨fun h => (nomatch h), rfl⟩
  | true =>
    cases a.floatingNetworks with
    | error e => exact .inr ⟨fun h => (nomatch (h rfl).choose_spec), e, rfl⟩
    | ok nets =>
      by_cases hone : nets.length = 1
      · obtain ⟨net, rfl⟩ := List.length_eq_one_iff.1 hone
        exact .inl ⟨fun _ => ⟨net, rfl⟩, rfl⟩
      · refine .inr ⟨fun h => ?_, .exception "Multiple floating ip networks found", ?_⟩
        · obtain ⟨net, hnet⟩ := h rfl
          cases hnet
          exact hone rfl
        · change EStateM.run (if nets.length ≠ 1 then throw _ else pure () : ProviderM Unit) s = _
          rw [if_pos hone]
          rfl

theorem networkNamesToIds_checks (a : Answers) (names : List String) :
    Checks (fun _ => ∃ allNetworks, a.availableNetworks = .ok allNetworks ∧ ∀ net ∈ names, net ∈ allNetworks)
      (networkNamesToIds a names) := by
  intro s
  unfold networkNamesToIds
  cases a.availableNetworks with
  | error e => exact .inr ⟨fun ⟨_, h, _⟩ => (nomatch h), e, rfl⟩
  | ok allNetworks =>
    have hone : ∀ net, Checks (fun _ => net ∈ allNetworks)
        (if net ∈ allNetworks then pure () else throw (.keyError net)) := by
      intro net s
      by_cases hnet : net ∈ allNetworks
      · rw [if_pos hnet]
        exact .inl ⟨hnet, rfl⟩
      · rw [if_neg hnet]
        exact .inr ⟨hnet, _, rfl⟩
    apply (Checks.forM hone names).congr _ s
    intro _
    constructor
    · exact fun h => ⟨allNetworks, rfl, h⟩
    · rintro ⟨nets, hnets, h⟩
      cases hnets
      exact h

/-! ### Steps that keep the records -/

/-- The same data, and the same things on the VIM. -/
structure SameRecords (s s' : Provider) : Prop where
  data : s'.data = s.data
  servers : s'.vim.serverIds = s.vim.serverIds
  flavors : s'.vim.flavors = s.vim.flavors
  networks : s'.vim.networks = s.vim.networks
  subnets : s'.vim.subnets = s.vim.subnets
  nextId : s'.vim.nextId = s.vim.nextId

theorem SameRecords.refl (s : Provider) : SameRecords s s := ⟨rfl, rfl, rfl, rfl, rfl, rfl⟩

theorem SameRecords.tracked (h : SameRecords s s') : Tracked s' ↔ Tracked s := by
  constructor
  · intro ht
    exact {
      servers := h.servers ▸ h.data ▸ ht.servers
      flavors := h.flavors ▸ h.data ▸ ht.flavors
      networks := h.networks ▸ h.data ▸ ht.networks
      subnets := h.subnets ▸ h.data ▸ ht.subnets }
  · intro ht
    exact {
      servers := by rw [h.servers, h.data]; exact ht.servers
      flavors := by rw [h.flavors, h.data]; exact ht.flavors
      networks := by rw [h.networks, h.data]; exact ht.networks
      subnets := by rw [h.subnets, h.data]; exact ht.subnets }

theorem SameRecords.consistent (h : SameRecords s s') (hs : Consistent s) : Consistent s' where
  existing := by rw [h.servers, h.nextId]; exact hs.existing
  recorded := by rw [h.data, h.nextId]; exact hs.recorded
  distinct := by rw [h.data]; exact hs.distinct
  networks := by rw [h.data, h.nextId]; exact hs.networks
  subnets := by rw [h.data, h.nextId]; exact hs.subnets

/-- A program keeps the records of the state it is started from. -/
abbrev KeepsRecords (s₀ : Provider) (m : ProviderM α) : Prop :=
  Maintains (SameRecords s₀) m

/-- An invariant that says nothing about the interfaces and the access address of the VM. -/
def TableFree (I : Provider → Prop) : Prop :=
  ∀ s interfaces access, I s → I { s with vm := { s.vm with networkInterfaces := interfaces, accessIp := access } }

theorem tableFree_sameRecords (s₀ : Provider) : TableFree (SameRecords s₀) :=
  fun _ _ _ h => ⟨h.data, h.servers, h.flavors, h.networks, h.subnets, h.nextId⟩

theorem outcome_maintains {I : Provider → Prop} (result : Option PyError) : Maintains I (outcome result) := by
  cases result with
  | none => exact Maintains.pure _
  | some e => exact Maintains.throw e

theorem modifyVm_keeps (s₀ : Provider) (f : VmResource → VmResource) : KeepsRecords s₀ (modifyVm f) :=
  Maintains.modify (fun _ h => ⟨h.data, h.servers, h.flavors, h.networks, h.subnets, h.nextId⟩)

theorem getNetworkDetails_maintains {I : Provider → Prop} (a : Answers) (names : List String) :
    Maintains I (getNetworkDetails a names) := by
  apply Maintains.foldlM
  intro details net _
  apply (Maintains.ofExcept _).bind
  intro network
  cases network with
  | none => exact Maintains.throw _
  | some network =>
    obtain ⟨subnets⟩ := network
    cases subnets with
    | nil => exact Maintains.throw _
    | cons first rest => exact (Maintains.ofExcept _).bind (fun cidr => Maintains.pure _)

theorem disablePortSecurityAllPorts_maintains {I : Provider → Prop} (a : Answers) (id : ResourceId) :
    Maintains I (disablePortSecurityAllPorts a id) := by
  apply (outcome_maintains _).bind
  intro _
  apply Maintains.get.bind
  intro s
  dsimp only
  apply Maintains.ite
  · exact (Maintains.throw _).bind
      (fun _ => Maintains.ite (Maintains.forM (fun port _ => outcome_maintains _)) (Maintains.pure _))
  · exact Maintains.ite (Maintains.forM (fun port _ => outcome_maintains _)) (Maintains.pure _)

section

variable {I : Provider → Prop}

theorem setInterfaces_maintains (hI : TableFree I) (network : String) (interfaces : List VmResourceNetworkInterface) :
    Maintains I (setInterfaces network interfaces) :=
  Maintains.modify (fun s h => hI s _ s.vm.accessIp h)

theorem parseAddress_maintains (hI : TableFree I) (details : Dict String String) (network : String) (parsed : Parsed)
    (address : Address) : Maintains I (parseAddress details network parsed address) := by
  unfold parseAddress
  split
  · exact Maintains.throw _
  · apply Maintains.get.bind
    intro s
    dsimp only
    apply Maintains.ite
    · apply (setInterfaces_maintains hI _ _).bind
      intro _
      cases address.type with
      | _ => exact Maintains.pure _
    · cases address.type with
      | _ => exact Maintains.pure _

theorem parseOsAddresses_maintains (hI : TableFree I) (addresses : Dict String (List Address))
    (details : Dict String String) : Maintains I (parseOsAddresses addresses details) := by
  apply Maintains.forM
  intro network _
  apply (Maintains.foldlM (fun parsed address _ => parseAddress_maintains hI details network.1 parsed address) _).bind
  intro parsed
  apply Maintains.get.bind
  intro s
  split
  · exact Maintains.throw _
  · exact Maintains.throw _
  · exact setInterfaces_maintains hI _ _

theorem gatherInfoFromVm_maintains (hI : TableFree I) (a : Answers) : Maintains I (gatherInfoFromVm a) := by
  apply (Maintains.ofExcept _).bind
  intro text
  apply Maintains.get.bind
  intro s
  apply Maintains.forM
  intro entry _
  exact (setInterfaces_maintains hI _ _).bind (fun _ => outcome_maintains _)

theorem accessVm_maintains (hI : TableFree I) (a : Answers) : Maintains I (accessVm a) := by
  apply Maintains.get.bind
  intro s
  split
  · exact Maintains.throw _
  · exact Maintains.throw _
  · have haccess : ∀ access, Maintains I (modifyVm (fun vm => { vm with accessIp := access })) :=
      fun access => Maintains.modify (fun s h => hI s s.vm.networkInterfaces access h)
    exact (haccess _).bind (fun _ => gatherInfoFromVm_maintains hI a)

theorem updateNetInfoVm_maintains (hI : TableFree I) (a : Answers) (addresses : Dict String (List Address)) :
    Maintains I (updateNetInfoVm a addresses) := by
  have hclear : Maintains I (modifyVm (fun vm => { vm with networkInterfaces := .empty })) :=
    Maintains.modify (fun s h => hI s _ s.vm.accessIp h)
  apply hclear.bind
  intro _
  apply Maintains.get.bind
  intro s
  apply (getNetworkDetails_maintains a _).bind
  intro details
  exact (parseOsAddresses_maintains hI addresses details).bind (fun _ => accessVm_maintains hI a)

end

section

variable {s₀ : Provider}

theorem serverIds_attachInterface (servers : List Server) (id : ResourceId) (net : String)
    (interface : String × List Address) :
    (servers.map (attachInterface id net interface)).map Server.id = servers.map Server.id := by
  rw [List.map_map]
  apply List.map_congr_left
  intro server _
  unfold Function.comp attachInterface
  split
  · rfl
  · rfl

theorem attachNet_keeps (a : Answers) (id : ResourceId) (net : String) : KeepsRecords s₀ (attachNet a id net) := by
  have heffect : KeepsRecords s₀
      (modifyVim (fun vim => { vim with servers := vim.servers.map (attachInterface id net (a.newInterface net)) })) :=
    Maintains.modify (fun s h => ⟨h.data, (serverIds_attachInterface _ _ _ _).trans h.servers, h.flavors, h.networks,
      h.subnets, h.nextId⟩)
  have hrequest : KeepsRecords s₀ (request (a.createServerInterface net)
      (fun vim => { vim with servers := vim.servers.map (attachInterface id net (a.newInterface net)) })) := by
    unfold request
    split
    · exact heffect
    · exact Maintains.throw _
    · exact heffect.bind (fun _ => Maintains.throw _)
  apply (Maintains.ofExcept _).bind
  intro found
  dsimp only
  apply Maintains.ite
  · exact (Maintains.throw _).bind (fun _ => hrequest.bind (fun _ => (modifyVm_keeps _ _).bind (fun _ => Maintains.pure _)))
  · exact hrequest.bind (fun _ => (modifyVm_keeps _ _).bind (fun _ => Maintains.pure _))

theorem attachNets_keeps (a : Answers) (netsName : List String) : KeepsRecords s₀ (attachNets a netsName) := by
  apply Maintains.get.bind
  intro s
  split
  · exact Maintains.throw _
  · rename_i id _
    apply (outcome_maintains _).bind
    intro _
    apply Maintains.bind
    · unfold attachedNetworks
      split
      · exact Maintains.pure _
      · apply Maintains.ite
        · exact Maintains.pure _
        · exact Maintains.throw _
    · intro attached
      apply Maintains.ite
      · exact Maintains.pure _
      · apply (Maintains.mapM (fun net _ => attachNet_keeps a id net)).bind
        intro newInterfaces
        apply (updateNetInfoVm_maintains (tableFree_sameRecords s₀) a _).bind
        intro _
        apply (disablePortSecurityAllPorts_maintains a id).bind
        intro _
        apply Maintains.bind
        · apply Maintains.mapM
          intro mac _
          apply Maintains.get.bind
          intro s'
          split
          · exact Maintains.throw _
          · exact Maintains.pure _
        · intro ips
          exact (outcome_maintains _).bind (fun _ => Maintains.pure _)

end

/-! ### What a creation does to the records -/

/-- A flavor on the VIM that is not in the data. -/
def leakedFlavor (name : String) (s : Provider) : Provider :=
  { s with vim := { s.vim with flavors := s.vim.flavors ++ [name] } }

def withFlavor (name : String) (s : Provider) : Provider :=
  { leakedFlavor name s with data := { s.data with flavors := s.data.flavors ++ [name] } }

def withServer (a : Answers) (s : Provider) : Provider :=
  { s with vim := { s.vim with
      servers := s.vim.servers ++ [{ id := s.vim.nextId, addresses := a.addresses, ports := a.ports }]
      nextId := s.vim.nextId + 1 } }

def registered (a : Answers) (s : Provider) : Provider :=
  { withServer a s with data := { s.data with osDict := s.data.osDict.set s.vm.id s.vim.nextId } }

theorem leakedFlavor_untracked (h : name ∉ s.data.flavors) : ¬ Tracked (leakedFlavor name s) := by
  intro ht
  exact h (ht.flavors name (List.mem_append_right _ (List.mem_singleton.2 rfl)))

theorem leakedFlavor_consistent (h : Consistent s) (name : String) : Consistent (leakedFlavor name s) :=
  ⟨h.existing, h.recorded, h.distinct, h.networks, h.subnets⟩

theorem withFlavor_tracked (h : Tracked s) (name : String) : Tracked (withFlavor name s) where
  servers := h.servers
  flavors := by
    intro other hother
    rcases List.mem_append.1 hother with hother | hother
    · exact List.mem_append_left _ (h.flavors other hother)
    · exact List.mem_append_right _ hother
  networks := h.networks
  subnets := h.subnets

theorem withFlavor_consistent (h : Consistent s) (name : String) : Consistent (withFlavor name s) :=
  ⟨h.existing, h.recorded, h.distinct, h.networks, h.subnets⟩

theorem serverIds_withServer (a : Answers) (s : Provider) :
    (withServer a s).vim.serverIds = s.vim.serverIds ++ [s.vim.nextId] :=
  List.map_append

theorem withServer_untracked (h : Consistent s) (a : Answers) : ¬ Tracked (withServer a s) := by
  intro ht
  obtain ⟨vm, hvm⟩ := ht.servers s.vim.nextId (by
    rw [serverIds_withServer]
    exact List.mem_append_right _ (List.mem_singleton.2 rfl))
  exact Nat.lt_irrefl _ (h.recorded vm s.vim.nextId hvm)

theorem mem_serverIds_withServer (h : Consistent s) (a : Answers) :
    ∀ id ∈ (withServer a s).vim.serverIds, id < s.vim.nextId + 1 := by
  intro id hid
  rw [serverIds_withServer] at hid
  rcases List.mem_append.1 hid with hid | hid
  · exact Nat.lt_succ_of_lt (h.existing id hid)
  · rw [List.mem_singleton.1 hid]
    exact Nat.lt_succ_self _

theorem withServer_consistent (h : Consistent s) (a : Answers) : Consistent (withServer a s) where
  existing := mem_serverIds_withServer h a
  recorded := fun vm id hvm => Nat.lt_succ_of_lt (h.recorded vm id hvm)
  distinct := h.distinct
  networks := fun id hid => Nat.lt_succ_of_lt (h.networks id hid)
  subnets := fun id hid => Nat.lt_succ_of_lt (h.subnets id hid)

theorem get?_registered (a : Answers) (s : Provider) (vm : String) :
    (registered a s).data.osDict.get? vm = if vm = s.vm.id then some s.vim.nextId else s.data.osDict.get? vm :=
  Dict.get?_set _ _ _ _

theorem registered_consistent (h : Consistent s) (a : Answers) : Consistent (registered a s) where
  existing := mem_serverIds_withServer h a
  recorded := by
    intro vm id hvm
    rw [get?_registered] at hvm
    split at hvm
    · cases hvm
      exact Nat.lt_succ_self _
    · exact Nat.lt_succ_of_lt (h.recorded vm id hvm)
  distinct := by
    intro vm vm' id hvm hvm'
    rw [get?_registered] at hvm hvm'
    split at hvm
    · rename_i heq
      cases hvm
      split at hvm'
      · rename_i heq'
        rw [heq, heq']
      · exact absurd (h.recorded vm' _ hvm') (Nat.lt_irrefl _)
    · split at hvm'
      · cases hvm'
        exact absurd (h.recorded vm _ hvm) (Nat.lt_irrefl _)
      · exact h.distinct vm vm' id hvm hvm'
  networks := fun id hid => Nat.lt_succ_of_lt (h.networks id hid)
  subnets := fun id hid => Nat.lt_succ_of_lt (h.subnets id hid)

/-- The server the VM had before stays untracked if it still exists. -/
theorem registered_tracked_iff (ht : Tracked s) (h : Consistent s) (a : Answers) :
    Tracked (registered a s) ↔ ¬ ∃ id, s.data.osDict.get? s.vm.id = some id ∧ id ∈ s.vim.serverIds := by
  constructor
  · rintro hafter ⟨id, hget, hid⟩
    obtain ⟨vm, hvm⟩ := hafter.servers id (by
      change id ∈ (withServer a s).vim.serverIds
      rw [serverIds_withServer]
      exact List.mem_append_left _ hid)
    rw [get?_registered] at hvm
    split at hvm
    · cases hvm
      exact Nat.lt_irrefl _ (h.existing _ hid)
    · rename_i hne
      exact hne (h.distinct vm s.vm.id id hvm hget)
  · intro hnone
    exact {
      servers := by
        intro id hid
        change id ∈ (withServer a s).vim.serverIds at hid
        rw [serverIds_withServer] at hid
        rcases List.mem_append.1 hid with hid | hid
        · obtain ⟨vm, hvm⟩ := ht.servers id hid
          refine ⟨vm, ?_⟩
          rw [get?_registered, if_neg]
          · exact hvm
          · rintro rfl
            exact hnone ⟨id, hvm, hid⟩
        · refine ⟨s.vm.id, ?_⟩
          rw [get?_registered, if_pos rfl, List.mem_singleton.1 hid]
      flavors := ht.flavors
      networks := ht.networks
      subnets := ht.subnets }

/-! ### One call -/

theorem FlavorReady.not_leaks (h : FlavorReady a vm s) : ¬ FlavorLeaks a vm s := by
  rintro ⟨⟨hnone, hnew⟩, hleaks⟩
  rw [FlavorReady, hnone] at h
  have hdone : a.createFlavor = .done ∧ a.getProject = none ∧ a.addFlavorAccess = none := by
    change if vm.newFlavor ∈ s.data.flavors then _ else _ at h
    rw [if_neg hnew] at h
    exact h
  rcases hleaks with ⟨e, hlost⟩ | ⟨-, hraises⟩
  · rw [hdone.1] at hlost
    cases hlost
  · exact hraises hdone.2

/-- The requests after the one for the new flavor. -/
def recordFlavor (a : Answers) (name : String) : ProviderM Unit := do
  outcome a.getProject
  outcome a.addFlavorAccess
  modifyData (fun data => { data with flavors := data.flavors ++ [name] })

theorem recordFlavor_run (a : Answers) (name : String) (s : Provider) :
    (a.getProject = none ∧ a.addFlavorAccess = none ∧
      (recordFlavor a name).run (leakedFlavor name s) = .ok () (withFlavor name s)) ∨
    (¬ (a.getProject = none ∧ a.addFlavorAccess = none) ∧
      ∃ e, (recordFlavor a name).run (leakedFlavor name s) = .error e (leakedFlavor name s)) := by
  unfold recordFlavor
  cases a.getProject with
  | some e => exact .inr ⟨fun h => (nomatch h.1), e, rfl⟩
  | none =>
    cases a.addFlavorAccess with
    | some e => exact .inr ⟨fun h => (nomatch h.2), e, rfl⟩
    | none => exact .inl ⟨rfl, rfl, rfl⟩

theorem createGetFlavor_new (a : Answers) (h : NewFlavor s.vm s) :
    (createGetFlavor a).run s = EStateM.run (do
      request a.createFlavor (fun vim => { vim with flavors := vim.flavors ++ [s.vm.newFlavor] })
      recordFlavor a s.vm.newFlavor) s := by
  obtain ⟨hnone, hnew⟩ := h
  unfold createGetFlavor
  simp only [EStateM.run_bind, EStateM.run_get, hnone]
  change EStateM.run (if s.vm.newFlavor ∈ s.data.flavors then _ else _) s = _
  rw [if_neg hnew]
  rfl

/-- The three ways `create_get_flavor` ends. -/
theorem createGetFlavor_run (a : Answers) (s : Provider) :
    (FlavorReady a s.vm s ∧ ((createGetFlavor a).run s = .ok () s ∨
      (createGetFlavor a).run s = .ok () (withFlavor s.vm.newFlavor s))) ∨
    (s.vm.newFlavor ∉ s.data.flavors ∧ FlavorLeaks a s.vm s ∧
      ∃ e, (createGetFlavor a).run s = .error e (leakedFlavor s.vm.newFlavor s)) ∨
    (¬ FlavorReady a s.vm s ∧ ¬ FlavorLeaks a s.vm s ∧ ∃ e, (createGetFlavor a).run s = .error e s) := by
  by_cases hnew : NewFlavor s.vm s
  · have hready : FlavorReady a s.vm s ↔ a.createFlavor = .done ∧ a.getProject = none ∧ a.addFlavorAccess = none := by
      rw [FlavorReady, hnew.1]
      change (if s.vm.newFlavor ∈ s.data.flavors then _ else _) ↔ _
      rw [if_neg hnew.2]
    rw [createGetFlavor_new a hnew, hready]
    unfold FlavorLeaks
    cases a.createFlavor with
    | refused e => exact .inr (.inr ⟨(by rintro ⟨h, -⟩; cases h), (by rintro ⟨-, ⟨e, h⟩ | ⟨h, -⟩⟩ <;> cases h), e, rfl⟩)
    | lost e => exact .inr (.inl ⟨hnew.2, ⟨hnew, .inl ⟨e, rfl⟩⟩, e, rfl⟩)
    | done =>
      rcases recordFlavor_run a s.vm.newFlavor s with ⟨hproject, haccess, hrun⟩ | ⟨hraises, e, hrun⟩
      · exact .inl ⟨⟨rfl, hproject, haccess⟩, .inr hrun⟩
      · exact .inr (.inl ⟨hnew.2, ⟨hnew, .inr ⟨rfl, hraises⟩⟩, e, hrun⟩)
  · have hleaks : ¬ FlavorLeaks a s.vm s := fun h => hnew h.1
    have hstays : FlavorReady a s.vm s ∧ (createGetFlavor a).run s = .ok () s ∨
        ¬ FlavorReady a s.vm s ∧ ∃ e, (createGetFlavor a).run s = .error e s := by
      unfold createGetFlavor FlavorReady
      simp only [EStateM.run_bind, EStateM.run_get]
      cases hname : s.vm.flavorName with
      | some name =>
        cases a.getFlavor with
        | error e => exact .inr ⟨(by rintro (h | ⟨h, -⟩) <;> cases h), e, rfl⟩
        | ok found =>
          cases found with
          | true => exact .inl ⟨.inl rfl, rfl⟩
          | false =>
            cases a.createFlavor with
            | done => exact .inl ⟨.inr ⟨rfl, rfl⟩, rfl⟩
            | refused e => exact .inr ⟨(by rintro (h | ⟨-, h⟩) <;> cases h), e, rfl⟩
            | lost e => exact .inr ⟨(by rintro (h | ⟨-, h⟩) <;> cases h), e, rfl⟩
      | none =>
        have hmem : s.vm.newFlavor ∈ s.data.flavors := Classical.byContradiction (fun h => hnew ⟨hname, h⟩)
        have hmem' : "Flavor_" ++ s.vm.name ∈ s.data.flavors := hmem
        simp only [hmem, hmem', if_true]
        cases a.getFlavor with
        | error e => exact .inr ⟨(by intro h; cases h), e, rfl⟩
        | ok found =>
          cases found with
          | true => exact .inl ⟨rfl, rfl⟩
          | false => exact .inr ⟨(by intro h; cases h), _, rfl⟩
    rcases hstays with ⟨hready, hrun⟩ | ⟨hready, hrun⟩
    · exact .inl ⟨hready, .inl hrun⟩
    · exact .inr (.inr ⟨hready, hleaks, hrun⟩)

/-- What follows the server on the VIM. -/
def finishVm (a : Answers) (id : ResourceId) : ProviderM Unit := do
  updateNetInfoVm a a.addresses
  disablePortSecurityAllPorts a id
  modifyVm (fun vm => { vm with created := true })

theorem finishVm_keeps (s₀ : Provider) (a : Answers) (id : ResourceId) : KeepsRecords s₀ (finishVm a id) := by
  apply (updateNetInfoVm_maintains (tableFree_sameRecords s₀) a _).bind
  intro _
  exact (disablePortSecurityAllPorts_maintains a id).bind (fun _ => modifyVm_keeps _ _)

/-- The request for the server and what follows it. -/
def placeServer (a : Answers) (vmId : String) : ProviderM Unit := do
  let id ← createServer a
  modifyData (fun data => { data with osDict := data.osDict.set vmId id })
  finishVm a id

theorem placeServer_records (ht : Tracked s) (h : Consistent s) (a : Answers) :
    Consistent (finalState ((placeServer a s.vm.id).run s)) ∧
      (Tracked (finalState ((placeServer a s.vm.id).run s)) ↔ ¬ ServerLeaks a s.vm s) := by
  unfold placeServer createServer ServerLeaks
  simp only [EStateM.run_bind, EStateM.run_get]
  cases a.createServer with
  | refused e => exact ⟨h, iff_of_true ht (by rintro (⟨e, h⟩ | ⟨h, -⟩) <;> cases h)⟩
  | lost e =>
    exact ⟨withServer_consistent h a, iff_of_false (withServer_untracked h a) (fun hleaks => hleaks (.inl ⟨e, rfl⟩))⟩
  | done =>
    have hkeeps : SameRecords (registered a s) (finalState ((finishVm a s.vim.nextId).run (registered a s))) :=
      (finishVm_keeps _ a s.vim.nextId).finalState (.refl _)
    change Consistent (finalState ((finishVm a s.vim.nextId).run (registered a s))) ∧
      (Tracked (finalState ((finishVm a s.vim.nextId).run (registered a s))) ↔ _)
    rw [hkeeps.tracked, registered_tracked_iff ht h]
    refine ⟨hkeeps.consistent (registered_consistent h a), not_congr ?_⟩
    constructor
    · exact fun hid => .inr ⟨rfl, hid⟩
    · rintro (⟨e, h⟩ | ⟨-, hid⟩)
      · cases h
      · exact hid

/-- What follows the flavor. -/
def afterFlavor (a : Answers) : ProviderM Unit := do
  checkFloatingNetwork a
  let s ← get
  networkNamesToIds a s.vm.getAllConnectedNetworkNames
  placeServer a s.vm.id

theorem createVm_eq (a : Answers) :
    createVm a = (do
      preCreationChecks a
      outcome a.prepareImage
      createGetFlavor a
      afterFlavor a) := rfl

theorem afterFlavor_records (ht : Tracked s) (h : Consistent s) (a : Answers) :
    Consistent (finalState ((afterFlavor a).run s)) ∧ (Tracked (finalState ((afterFlavor a).run s)) ↔
      ¬ (FloatingReady a s.vm s ∧ IdsReady a s.vm ∧ ServerLeaks a s.vm s)) := by
  unfold afterFlavor
  rcases checkFloatingNetwork_checks a s with ⟨hfloating, hrun⟩ | ⟨hfloating, e, hrun⟩
  · rw [run_bind_ok _ _ hrun]
    change Consistent (finalState (EStateM.run (networkNamesToIds a s.vm.getAllConnectedNetworkNames >>= fun _ =>
      placeServer a s.vm.id) s)) ∧ (Tracked (finalState (EStateM.run
        (networkNamesToIds a s.vm.getAllConnectedNetworkNames >>= fun _ => placeServer a s.vm.id) s)) ↔ _)
    rcases networkNamesToIds_checks a s.vm.getAllConnectedNetworkNames s with ⟨hids, hrun⟩ | ⟨hids, e, hrun⟩
    · obtain ⟨hconsistent, hiff⟩ := placeServer_records ht h a
      rw [run_bind_ok _ _ hrun]
      refine ⟨hconsistent, hiff.trans (not_congr ?_)⟩
      exact ⟨fun hleaks => ⟨hfloating, hids, hleaks⟩, fun hall => hall.2.2⟩
    · rw [run_bind_error _ _ hrun]
      exact ⟨h, iff_of_true ht (fun hall => hids hall.2.1)⟩
  · rw [run_bind_error _ _ hrun]
    exact ⟨h, iff_of_true ht (fun hall => hfloating hall.1)⟩

theorem createVm_records (ht : Tracked s) (h : Consistent s) (a : Answers) :
    Consistent (finalState ((createVm a).run s)) ∧
      (Tracked (finalState ((createVm a).run s)) ↔ ¬ (Call.createVm s.vm a).Leaks s) := by
  rw [createVm_eq]
  rcases preCreationChecks_checks a s with ⟨hnets, hrun⟩ | ⟨hnets, e, hrun⟩
  · rw [run_bind_ok _ _ hrun]
    rcases Checks.outcome a.prepareImage s with ⟨himage, hrun⟩ | ⟨himage, e, hrun⟩
    · rw [run_bind_ok _ _ hrun]
      have hchecks : ChecksPass a s.vm := ⟨hnets, himage⟩
      rcases createGetFlavor_run a s with ⟨hready, hrun⟩ | ⟨hnew, hleaks, e, hrun⟩ | ⟨hready, hleaks, e, hrun⟩
      · have hiff : ¬ (Call.createVm s.vm a).Leaks s ↔
            ¬ (FloatingReady a s.vm s ∧ IdsReady a s.vm ∧ ServerLeaks a s.vm s) := by
          apply not_congr
          constructor
          · exact fun hall => (hall.2.resolve_left hready.not_leaks).2
          · exact fun hall => ⟨hchecks, .inr ⟨hready, hall⟩⟩
        rw [hiff]
        rcases hrun with hrun | hrun
        · rw [run_bind_ok _ _ hrun]
          exact afterFlavor_records ht h a
        · rw [run_bind_ok _ _ hrun]
          exact afterFlavor_records (withFlavor_tracked ht _) (withFlavor_consistent h _) a
      · rw [run_bind_error _ _ hrun]
        exact ⟨leakedFlavor_consistent h _,
          iff_of_false (leakedFlavor_untracked hnew) (fun hall => hall ⟨hchecks, .inl hleaks⟩)⟩
      · rw [run_bind_error _ _ hrun]
        refine ⟨h, iff_of_true ht ?_⟩
        rintro ⟨-, hflavor | ⟨hflavor, -⟩⟩
        · exact hleaks hflavor
        · exact hready hflavor
    · rw [run_bind_error _ _ hrun]
      exact ⟨h, iff_of_true ht (fun hall => himage hall.1.2)⟩
  · rw [run_bind_error _ _ hrun]
    exact ⟨h, iff_of_true ht (fun hall => hnets hall.1.1)⟩

/-! ### The other calls -/

def withNetwork (s : Provider) : Provider :=
  { s with vim := { s.vim with networks := s.vim.networks ++ [s.vim.nextId], nextId := s.vim.nextId + 1 } }

def withSubnet (s : Provider) : Provider :=
  { s with vim := { s.vim with subnets := s.vim.subnets ++ [s.vim.nextId], nextId := s.vim.nextId + 1 } }

def recordedNet (s : Provider) : Provider :=
  { withSubnet (withNetwork s) with data := { s.data with
      subnets := s.data.subnets ++ [s.vim.nextId + 1]
      networks := s.data.networks ++ [s.vim.nextId] } }

/-- Ids stay below the next one when that one moves on. -/
theorem Consistent.later {s : Provider} (h : Consistent s) (s' : Provider) (hdata : s'.data = s.data)
    (hservers : s'.vim.serverIds = s.vim.serverIds) (hnext : s.vim.nextId ≤ s'.vim.nextId) : Consistent s' where
  existing := by rw [hservers]; exact fun id hid => Nat.lt_of_lt_of_le (h.existing id hid) hnext
  recorded := by rw [hdata]; exact fun vm id hvm => Nat.lt_of_lt_of_le (h.recorded vm id hvm) hnext
  distinct := by rw [hdata]; exact h.distinct
  networks := by rw [hdata]; exact fun id hid => Nat.lt_of_lt_of_le (h.networks id hid) hnext
  subnets := by rw [hdata]; exact fun id hid => Nat.lt_of_lt_of_le (h.subnets id hid) hnext

theorem network_untracked (h : Consistent s) (s' : Provider) (hid : s.vim.nextId ∈ s'.vim.networks) (hdata : s'.data = s.data) : ¬ Tracked s' := by
  intro ht
  have hrecorded := ht.networks _ hid
  rw [hdata] at hrecorded
  exact Nat.lt_irrefl _ (h.networks _ hrecorded)

theorem recordedNet_tracked (ht : Tracked s) : Tracked (recordedNet s) where
  servers := ht.servers
  flavors := ht.flavors
  networks := by
    intro id hid
    rcases List.mem_append.1 hid with hid | hid
    · exact List.mem_append_left _ (ht.networks id hid)
    · exact List.mem_append_right _ hid
  subnets := by
    intro id hid
    rcases List.mem_append.1 hid with hid | hid
    · exact List.mem_append_left _ (ht.subnets id hid)
    · exact List.mem_append_right _ hid

theorem recordedNet_consistent (h : Consistent s) : Consistent (recordedNet s) := by
  have hlater : Consistent (withSubnet (withNetwork s)) := h.later _ rfl rfl (Nat.le_add_right _ 2)
  exact {
    existing := hlater.existing
    recorded := hlater.recorded
    distinct := hlater.distinct
    networks := by
      intro id hid
      rcases List.mem_append.1 hid with hid | hid
      · exact hlater.networks id hid
      · rw [List.mem_singleton.1 hid]
        exact Nat.lt_add_of_pos_right (Nat.succ_pos 1)
    subnets := by
      intro id hid
      rcases List.mem_append.1 hid with hid | hid
      · exact hlater.subnets id hid
      · rw [List.mem_singleton.1 hid]
        exact Nat.lt_succ_self _ }

theorem createNet_records (ht : Tracked s) (h : Consistent s) (a : Answers) (net : NetResource) :
    Consistent (finalState ((createNet a net).run s)) ∧
      (Tracked (finalState ((createNet a net).run s)) ↔ ¬ NetLeaks a net) := by
  have hmem : s.vim.nextId ∈ (withNetwork s).vim.networks := List.mem_append_right _ (List.mem_singleton.2 rfl)
  unfold createNet NetLeaks
  cases a.network net.name with
  | error e => exact ⟨h, iff_of_true ht (fun hall => (nomatch hall.1))⟩
  | ok found =>
    cases found with
    | true => exact ⟨h, iff_of_true ht (fun hall => (nomatch hall.1))⟩
    | false =>
      cases a.listSubnets with
      | error e => exact ⟨h, iff_of_true ht (fun hall => (nomatch hall.2.1))⟩
      | ok listed =>
        cases listed with
        | true => exact ⟨h, iff_of_true ht (fun hall => (nomatch hall.2.1))⟩
        | false =>
          cases a.createNetwork with
          | refused e => exact ⟨h, iff_of_true ht (by rintro ⟨-, -, ⟨e, h⟩ | ⟨h, -⟩⟩ <;> cases h)⟩
          | lost e =>
            refine ⟨h.later (withNetwork s) rfl rfl (Nat.le_succ _), iff_of_false ?_ ?_⟩
            · exact network_untracked h (withNetwork s) hmem rfl
            · exact fun hall => hall ⟨rfl, rfl, .inl ⟨e, rfl⟩⟩
          | done =>
            cases a.createSubnet with
            | refused e =>
              refine ⟨h.later (withNetwork s) rfl rfl (Nat.le_succ _), iff_of_false ?_ ?_⟩
              · exact network_untracked h (withNetwork s) hmem rfl
              · exact fun hall => hall ⟨rfl, rfl, .inr ⟨rfl, fun heq => (nomatch heq)⟩⟩
            | lost e =>
              refine ⟨h.later (withSubnet (withNetwork s)) rfl rfl (Nat.le_add_right _ 2), iff_of_false ?_ ?_⟩
              · exact network_untracked h (withSubnet (withNetwork s)) hmem rfl
              · exact fun hall => hall ⟨rfl, rfl, .inr ⟨rfl, fun heq => (nomatch heq)⟩⟩
            | done =>
              refine ⟨recordedNet_consistent h, iff_of_true (recordedNet_tracked ht) ?_⟩
              rintro ⟨-, -, ⟨e, h⟩ | ⟨-, hne⟩⟩
              · cases h
              · exact hne rfl

def withoutServer (id : ResourceId) (s : Provider) : Provider :=
  { s with vim := { s.vim with servers := s.vim.servers.filter (fun server => decide (server.id ≠ id)) } }

theorem mem_serverIds_withoutServer {s : Provider} {id other : ResourceId} :
    other ∈ (withoutServer id s).vim.serverIds ↔ other ∈ s.vim.serverIds ∧ other ≠ id := by
  constructor
  · intro h
    obtain ⟨server, hserver, rfl⟩ := List.mem_map.1 h
    obtain ⟨hmem, hne⟩ := List.mem_filter.1 hserver
    exact ⟨List.mem_map_of_mem hmem, of_decide_eq_true hne⟩
  · rintro ⟨h, hne⟩
    obtain ⟨server, hserver, rfl⟩ := List.mem_map.1 h
    exact List.mem_map_of_mem (List.mem_filter.2 ⟨hserver, decide_eq_true hne⟩)

theorem withoutServer_tracked (h : Tracked s) (id : ResourceId) : Tracked (withoutServer id s) where
  servers := fun other hother => h.servers other (mem_serverIds_withoutServer.1 hother).1
  flavors := h.flavors
  networks := h.networks
  subnets := h.subnets

theorem withoutServer_consistent (h : Consistent s) (id : ResourceId) : Consistent (withoutServer id s) where
  existing := fun other hother => h.existing other (mem_serverIds_withoutServer.1 hother).1
  recorded := h.recorded
  distinct := h.distinct
  networks := h.networks
  subnets := h.subnets

theorem destroyVm_records (ht : Tracked s) (h : Consistent s) (a : Answers) :
    Consistent (finalState ((destroyVm a).run s)) ∧ Tracked (finalState ((destroyVm a).run s)) := by
  unfold destroyVm
  simp only [EStateM.run_bind, EStateM.run_get]
  cases s.data.osDict.get? s.vm.id with
  | none => exact ⟨h, ht⟩
  | some id =>
    cases a.deleteServer with
    | refused e => exact ⟨h, ht⟩
    | _ => exact ⟨withoutServer_consistent h id, withoutServer_tracked ht id⟩

/-- The VM of a call is none of the records. -/
theorem sameRecords_vm (s : Provider) (vm : VmResource) : SameRecords s { s with vm := vm } := ⟨rfl, rfl, rfl, rfl, rfl, rfl⟩

theorem call_records (ht : Tracked s) (h : Consistent s) (call : Call) :
    Consistent (finalState (call.run.run s)) ∧ (Tracked (finalState (call.run.run s)) ↔ ¬ call.Leaks s) := by
  cases call with
  | createVm vm a =>
    have hsame := sameRecords_vm s vm
    exact createVm_records (hsame.tracked.2 ht) (hsame.consistent h) a
  | createNet net a => exact createNet_records ht h a net
  | attachNets vm netsName a =>
    have hvm := sameRecords_vm s vm
    have hsame : SameRecords s (finalState ((Call.attachNets vm netsName a).run.run s)) :=
      ((attachNets_keeps a netsName).bind (fun _ => Maintains.pure ())).finalState hvm
    exact ⟨hsame.consistent h, iff_of_true (hsame.tracked.2 ht) (fun hleaks => hleaks)⟩
  | destroyVm vm a =>
    have hsame := sameRecords_vm s vm
    obtain ⟨hconsistent, htracked⟩ := destroyVm_records (hsame.tracked.2 ht) (hsame.consistent h) a
    exact ⟨hconsistent, iff_of_true htracked (fun hleaks => hleaks)⟩

/-! ### The clean-up -/

/-- What is left on the VIM, apart from the servers. -/
structure SameOthers (s s' : Provider) : Prop where
  data : s'.data = s.data
  flavors : s'.vim.flavors = s.vim.flavors
  networks : s'.vim.networks = s.vim.networks
  subnets : s'.vim.subnets = s.vim.subnets

theorem destroy_registered (base : VmResource) (s : Provider) (vm : String) :
    SameOthers s (finalState ((onVm { base with id := vm } (destroyVm {})).run s)) ∧
      ∀ id ∈ (finalState ((onVm { base with id := vm } (destroyVm {})).run s)).vim.serverIds,
        id ∈ s.vim.serverIds ∧ s.data.osDict.get? vm ≠ some id := by
  have hrun : finalState ((onVm { base with id := vm } (destroyVm {})).run s) =
      finalState ((destroyVm {}).run { s with vm := { base with id := vm } }) := rfl
  rw [hrun]
  unfold destroyVm
  simp only [EStateM.run_bind, EStateM.run_get]
  cases hget : s.data.osDict.get? vm with
  | none => exact ⟨⟨rfl, rfl, rfl, rfl⟩, fun id hid => ⟨hid, fun h => (nomatch h)⟩⟩
  | some server =>
    refine ⟨⟨rfl, rfl, rfl, rfl⟩, fun id hid => ?_⟩
    obtain ⟨hmem, hne⟩ := mem_serverIds_withoutServer (s := { s with vm := { base with id := vm } }).1 hid
    exact ⟨hmem, fun heq => hne (Option.some.inj heq).symm⟩

theorem destroy_all (base : VmResource) (vms : List String) (s : Provider) :
    SameOthers s (runAll (fun vm => onVm { base with id := vm } (destroyVm {})) s vms) ∧
      ∀ id ∈ (runAll (fun vm => onVm { base with id := vm } (destroyVm {})) s vms).vim.serverIds,
        id ∈ s.vim.serverIds ∧ ∀ vm ∈ vms, s.data.osDict.get? vm ≠ some id := by
  induction vms generalizing s with
  | nil => exact ⟨⟨rfl, rfl, rfl, rfl⟩, fun id hid => ⟨hid, fun vm hvm => (nomatch hvm)⟩⟩
  | cons vm vms ih =>
    rw [runAll_cons]
    obtain ⟨hsame, hone⟩ := destroy_registered base s vm
    obtain ⟨hothers, hrest⟩ := ih (finalState ((onVm { base with id := vm } (destroyVm {})).run s))
    refine ⟨⟨hothers.data.trans hsame.data, hothers.flavors.trans hsame.flavors, hothers.networks.trans hsame.networks,
      hothers.subnets.trans hsame.subnets⟩, fun id hid => ?_⟩
    obtain ⟨hmem, hgone⟩ := hrest id hid
    obtain ⟨hstart, hne⟩ := hone id hmem
    refine ⟨hstart, fun other hother => ?_⟩
    rcases List.mem_cons.1 hother with rfl | hother
    · exact hne
    · rw [← hsame.data]
      exact hgone other hother

theorem run_deletions (f : α → Vim → Vim) (xs : List α) (s : Provider) :
    (xs.forM (fun x => delete none (f x))).run s = .ok () { s with vim := xs.foldl (fun vim x => f x vim) s.vim } := by
  induction xs generalizing s with
  | nil => rfl
  | cons x xs ih => exact ih { s with vim := f x s.vim }

theorem foldl_without [DecidableEq α] (xs ys : List α) (h : ∀ y ∈ ys, y ∈ xs) :
    xs.foldl (fun ys x => ys.filter (fun y => decide (y ≠ x))) ys = [] := by
  induction xs generalizing ys with
  | nil => exact List.eq_nil_iff_forall_not_mem.2 (fun y hy => (nomatch h y hy))
  | cons x xs ih =>
    apply ih
    intro y hy
    obtain ⟨hmem, hne⟩ := List.mem_filter.1 hy
    exact (List.mem_cons.1 (h y hmem)).resolve_left (of_decide_eq_true hne)

theorem finalCleanup_run (s : Provider) :
    (finalCleanup {}).run s = .ok () { s with vim := { s.vim with
      flavors := s.data.flavors.foldl (fun ys x => ys.filter (fun y => decide (y ≠ x))) s.vim.flavors
      subnets := s.data.subnets.foldl (fun ys x => ys.filter (fun y => decide (y ≠ x))) s.vim.subnets
      networks := s.data.networks.foldl (fun ys x => ys.filter (fun y => decide (y ≠ x))) s.vim.networks } } := by
  have hflavors : ∀ (names : List String) (vim : Vim), names.foldl (fun vim name =>
      { vim with flavors := vim.flavors.filter (fun n => decide (n ≠ name)) }) vim =
      { vim with flavors := names.foldl (fun ys x => ys.filter (fun y => decide (y ≠ x))) vim.flavors } := by
    intro names
    induction names with
    | nil => exact fun vim => rfl
    | cons name names ih => exact fun vim => ih _
  have hsubnets : ∀ (ids : List ResourceId) (vim : Vim), ids.foldl (fun vim id =>
      { vim with subnets := vim.subnets.filter (fun n => decide (n ≠ id)) }) vim =
      { vim with subnets := ids.foldl (fun ys x => ys.filter (fun y => decide (y ≠ x))) vim.subnets } := by
    intro ids
    induction ids with
    | nil => exact fun vim => rfl
    | cons id ids ih => exact fun vim => ih _
  have hnetworks : ∀ (ids : List ResourceId) (vim : Vim), ids.foldl (fun vim id =>
      { vim with networks := vim.networks.filter (fun n => decide (n ≠ id)) }) vim =
      { vim with networks := ids.foldl (fun ys x => ys.filter (fun y => decide (y ≠ x))) vim.networks } := by
    intro ids
    induction ids with
    | nil => exact fun vim => rfl
    | cons id ids ih => exact fun vim => ih _
  change EStateM.run (do
    s.data.flavors.forM (fun name => delete none
      (fun vim => { vim with flavors := vim.flavors.filter (fun n => decide (n ≠ name)) }))
    s.data.subnets.forM (fun id => delete none
      (fun vim => { vim with subnets := vim.subnets.filter (fun n => decide (n ≠ id)) }))
    s.data.networks.forM (fun id => delete none
      (fun vim => { vim with networks := vim.networks.filter (fun n => decide (n ≠ id)) }))) s = _
  rw [run_bind_ok _ _ (run_deletions _ _ _), hflavors, run_bind_ok _ _ (run_deletions _ _ _), hsubnets,
    run_deletions, hnetworks]

/-- What is recorded is removed. -/
theorem Tracked.cleared (h : Tracked s) : Cleared (cleanUp s) := by
  obtain ⟨hsame, hservers⟩ := destroy_all s.vm s.data.osDict.keys s
  have hnone : (runAll (fun vm => onVm { s.vm with id := vm } (destroyVm {})) s s.data.osDict.keys).vim.servers = [] := by
    rw [← List.map_eq_nil_iff (f := Server.id)]
    apply List.eq_nil_iff_forall_not_mem.2
    intro id hid
    obtain ⟨hmem, hgone⟩ := hservers id hid
    obtain ⟨vm, hvm⟩ := h.servers id hmem
    exact hgone vm (Dict.mem_keys_iff.2 ⟨id, hvm⟩) hvm
  unfold cleanUp
  dsimp only
  rw [finalCleanup_run, finalState_ok, hsame.data]
  refine ⟨hnone, ?_, ?_, ?_⟩
  · rw [hsame.flavors]
    exact foldl_without _ _ h.flavors
  · rw [hsame.networks]
    exact foldl_without _ _ h.networks
  · rw [hsame.subnets]
    exact foldl_without _ _ h.subnets

/-! ### Runs -/

/-- At every moment between two calls everything is recorded, and the clean-up would remove it. -/
def AlwaysTracked (s : Provider) (calls : List Call) : Prop :=
  ∀ done rest, calls = done ++ rest →
    Tracked (runAll Call.run s done) ∧ Cleared (cleanUp (runAll Call.run s done))

theorem alwaysTracked_iff (ht : Tracked s) (h : Consistent s) (calls : List Call) :
    AlwaysTracked s calls ↔ AllSteps Call.run (fun call s => ¬ call.Leaks s) s calls := by
  apply always_iff (I := fun s => Tracked s ∧ Consistent s) (P := fun s => Tracked s ∧ Cleared (cleanUp s)) _ _ ⟨ht, h⟩
  · intro call s hs
    obtain ⟨hconsistent, hiff⟩ := call_records hs.1 hs.2 call
    exact ⟨fun hcall => ⟨hiff.2 hcall, hconsistent⟩, fun hleaks hafter => hleaks (hiff.1 hafter.1)⟩
  · exact fun s hs => ⟨hs.1, hs.1.cleared⟩

/-- A provider that has created nothing. -/
def newProvider (vimNeedFloatingIp : Bool) (vm : VmResource) : Provider :=
  { vimNeedFloatingIp := vimNeedFloatingIp, vm := vm }

theorem newProvider_tracked (vimNeedFloatingIp : Bool) (vm : VmResource) : Tracked (newProvider vimNeedFloatingIp vm) where
  servers := fun _ h => (nomatch h)
  flavors := fun _ h => (nomatch h)
  networks := fun _ h => (nomatch h)
  subnets := fun _ h => (nomatch h)

theorem newProvider_consistent (vimNeedFloatingIp : Bool) (vm : VmResource) :
    Consistent (newProvider vimNeedFloatingIp vm) where
  existing := fun _ h => (nomatch h)
  recorded := fun _ _ h => (nomatch h)
  distinct := fun _ _ _ h => (nomatch h)
  networks := fun _ h => (nomatch h)
  subnets := fun _ h => (nomatch h)

/-- Nothing is left behind exactly when no call of the run leaks. -/
theorem tracked_iff (vimNeedFloatingIp : Bool) (vm : VmResource) (calls : List Call) :
    AlwaysTracked (newProvider vimNeedFloatingIp vm) calls ↔
      AllSteps Call.run (fun call s => ¬ call.Leaks s) (newProvider vimNeedFloatingIp vm) calls :=
  alwaysTracked_iff (newProvider_tracked vimNeedFloatingIp vm) (newProvider_consistent vimNeedFloatingIp vm) calls

/-- The subnet of the network is refused. -/
def refusedSubnet : Call :=
  .createNet { name := "net1", cidr := "10.0.0.0/24" }
    { network := fun _ => .ok false, createSubnet := .refused (.external "overlapping range") }

/-- The network exists then, and is recorded nowhere. -/
theorem tracked_fails : ¬ ∀ (vimNeedFloatingIp : Bool) (vm : VmResource) (calls : List Call),
    AlwaysTracked (newProvider vimNeedFloatingIp vm) calls := by
  intro h
  have hafter := (h false { id := "vm1", name := "ubuntu", managementNetwork := "mgmt" } [refusedSubnet]
    [refusedSubnet] [] rfl).1
  exact (nomatch hafter.networks 0 (List.mem_singleton.2 rfl))

end Openstack

end Nfvcl
