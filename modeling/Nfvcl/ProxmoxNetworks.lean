import Nfvcl.LowerNames
import Nfvcl.MutatedLoops
import Nfvcl.PyValue

namespace Nfvcl
set_option autoImplicit true
open Effects MutatedLoops

structure NetResource where
  area : Int
  name : String
  cidr : String
  deriving DecidableEq, Repr

namespace Proxmox

/-- A subnet as the cluster lists it. -/
structure Subnet where
  vnet : String
  id : String
  gateway : String
  dhcpRange : String
  deriving DecidableEq, Repr

structure Vnet where
  name : String
  zone : String
  subnets : List Subnet := []
  deriving DecidableEq, Repr

/-- What is not the provider's: how the cluster looks a vnet up by name and names a subnet, its zone
for NFVCL, the lower case of a text, the gateway and DHCP addresses of a network. -/
structure Surroundings where
  key : String → String
  subnetId : String → String → String
  zone : String
  lower : String → String
  ipsForSubnets : String → Except PyError (String × String × String)

/-- The list the provider keeps and the vnets of the cluster, with the deletions asked for. -/
structure Sdn where
  proxmoxVnet : List String := []
  vnets : List Vnet := []
  deletedVnets : List String := []
  deletedSubnets : List Subnet := []
  deriving DecidableEq, Repr

abbrev SdnM := EStateM PyError Sdn

variable (env : Surroundings)

def createSdnVnet (vnet : NetResource) : SdnM Unit :=
  modify fun s => { s with
    vnets := s.vnets ++ [{ name := vnet.name, zone := env.zone }]
    proxmoxVnet := s.proxmoxVnet ++ [env.lower vnet.name] }

def newSubnet (cidr gateway startDhcp endDhcp : String) (v : Vnet) : Subnet where
  vnet := v.name
  id := env.subnetId v.zone cidr
  gateway := gateway
  dhcpRange := "start-address=" ++ startDhcp ++ ",end-address=" ++ endDhcp

def postSubnet (vnet : NetResource) (gateway startDhcp endDhcp : String) (v : Vnet) : Vnet :=
  if env.key v.name = env.key vnet.name then
    { v with subnets := v.subnets ++ [newSubnet env vnet.cidr gateway startDhcp endDhcp v] }
  else v

def createSdnSubnet (vnet : NetResource) : SdnM Unit :=
  match env.ipsForSubnets vnet.cidr with
  | .error e => throw e
  | .ok (gateway, startDhcp, endDhcp) =>
    modify fun s => { s with vnets := s.vnets.map (postSubnet env vnet gateway startDhcp endDhcp) }

def createNet (net : NetResource) : SdnM Unit := do
  createSdnVnet env net
  createSdnSubnet env net

def deleteSdnSubnet (subnet : Subnet) : SdnM Unit :=
  modify fun s => { s with
    vnets := s.vnets.map fun v => { v with subnets := v.subnets.filter (fun x => decide (x ≠ subnet)) }
    deletedSubnets := s.deletedSubnets ++ [subnet] }

/-- The subnets the cluster lists for a vnet. -/
def listed (name : String) (vnets : List Vnet) : List Subnet :=
  (vnets.filter (fun v => decide (env.key v.name = env.key name))).flatMap Vnet.subnets

def deleteSdnVnet (vnet : String) : SdnM Unit := do
  let s ← get
  forM (listed env vnet s.vnets) deleteSdnSubnet
  modify fun s => { s with
    vnets := s.vnets.filter (fun v => decide (env.key v.name ≠ env.key vnet))
    deletedVnets := s.deletedVnets ++ [vnet] }
  let s ← get
  if env.lower vnet ∈ s.proxmoxVnet then
    set { s with proxmoxVnet := s.proxmoxVnet.erase (env.lower vnet) }
  else
    throw (.valueError "list.remove(x): x not in list")

def finalCleanup : SdnM Unit := do
  let s ← get
  MutatedLoops.iterate Sdn.proxmoxVnet (deleteSdnVnet env) s.proxmoxVnet.length 0

/-- Deleting subnets touches neither the list nor the deleted vnets. -/
theorem run_forM_deleteSdnSubnet (subnets : List Subnet) (s : Sdn) :
    ∃ vnets, (forM subnets deleteSdnSubnet).run s = .ok () { s with
      vnets := vnets, deletedSubnets := s.deletedSubnets ++ subnets } := by
  induction subnets generalizing s with
  | nil =>
    refine ⟨s.vnets, ?_⟩
    rw [List.append_nil]
    rfl
  | cons subnet subnets ih =>
    have hone : (deleteSdnSubnet subnet).run s = .ok () (finalState ((deleteSdnSubnet subnet).run s)) := rfl
    obtain ⟨vnets, hrest⟩ := ih (finalState ((deleteSdnSubnet subnet).run s))
    refine ⟨vnets, ?_⟩
    rw [List.forM_cons, run_bind_ok _ _ hone, hrest]
    simp only [deleteSdnSubnet, EStateM.run_modify, finalState_ok, List.append_assoc, List.singleton_append]

/-- A vnet is asked to be deleted after its subnets, and its lower-cased name leaves the list. -/
theorem run_deleteSdnVnet (vnet : String) (s : Sdn) :
    ∃ vnets, (deleteSdnVnet env vnet).run s =
      (let s' : Sdn := { s with
        vnets := vnets
        deletedVnets := s.deletedVnets ++ [vnet]
        deletedSubnets := s.deletedSubnets ++ listed env vnet s.vnets }
      if env.lower vnet ∈ s.proxmoxVnet then
        .ok () { s' with proxmoxVnet := s.proxmoxVnet.erase (env.lower vnet) }
      else .error (.valueError "list.remove(x): x not in list") s') := by
  obtain ⟨vnets, hsubnets⟩ := run_forM_deleteSdnSubnet (listed env vnet s.vnets) s
  refine ⟨vnets.filter (fun v => decide (env.key v.name ≠ env.key vnet)), ?_⟩
  simp only [deleteSdnVnet, EStateM.run_bind, EStateM.run_get, hsubnets, EStateM.run_modify]
  by_cases h : env.lower vnet ∈ s.proxmoxVnet
  · rw [if_pos h, if_pos h]
    rfl
  · rw [if_neg h, if_neg h]
    rfl

theorem length_deleteSdnVnet (h : (deleteSdnVnet env vnet).run s = .ok () s') :
    s.proxmoxVnet.length = s'.proxmoxVnet.length + 1 := by
  obtain ⟨vnets, hrun⟩ := run_deleteSdnVnet env vnet s
  rw [hrun] at h
  by_cases hmem : env.lower vnet ∈ s.proxmoxVnet
  · rw [if_pos hmem] at h
    cases h
    have hpos := List.length_pos_of_mem hmem
    rw [List.length_erase_of_mem hmem]
    omega
  · rw [if_neg hmem] at h
    cases h

/-- The rounds are bounded by the length of the list the loop starts from. -/
theorem finalCleanup_rounds (s : Sdn) (k : Nat) :
    (MutatedLoops.iterate Sdn.proxmoxVnet (deleteSdnVnet env) (s.proxmoxVnet.length + k) 0).run s = (finalCleanup env).run s := by
  apply run_iterate_rounds
  · intro vnet t t' h
    have hlen := length_deleteSdnVnet env h
    omega
  · exact Nat.le_refl _

/-- The provider's data and the cluster after a run of creations, on a cluster with other vnets. -/
def created (others : List Vnet) (nets : List NetResource) : Sdn :=
  runAll (createNet env) { vnets := others } nets

/-- Each created vnet is asked to be deleted once, with each of its subnets, and none is left in the list. -/
def CleansUp (others : List Vnet) (nets : List NetResource) : Prop :=
  ∃ s', (finalCleanup env).run (created env others nets) = .ok () s' ∧ s'.proxmoxVnet = [] ∧
    ∀ net ∈ nets, s'.deletedVnets.countP (fun v => decide (env.key v = env.key net.name)) = 1 ∧
      ∀ v ∈ (created env others nets).vnets, env.key v.name = env.key net.name →
        ∀ subnet ∈ v.subnets, s'.deletedSubnets.count subnet = 1

variable {env}

theorem proxmoxVnet_createNet (net : NetResource) (s : Sdn) :
    (finalState ((createNet env net).run s)).proxmoxVnet = s.proxmoxVnet ++ [env.lower net.name] := by
  simp only [createNet, createSdnVnet, createSdnSubnet, EStateM.run_bind, EStateM.run_modify]
  cases env.ipsForSubnets net.cidr with
  | error e => rfl
  | ok ips => rfl

theorem proxmoxVnet_runAll (nets : List NetResource) (s : Sdn) :
    (runAll (createNet env) s nets).proxmoxVnet = s.proxmoxVnet ++ nets.map (fun net => env.lower net.name) := by
  induction nets generalizing s with
  | nil => exact (List.append_nil _).symm
  | cons net nets ih =>
    rw [runAll_cons, ih, proxmoxVnet_createNet, List.append_assoc, List.map_cons, List.singleton_append]

theorem proxmoxVnet_created (others : List Vnet) (nets : List NetResource) :
    (created env others nets).proxmoxVnet = nets.map (fun net => env.lower net.name) :=
  proxmoxVnet_runAll nets _

/-- One creation: a vnet with its subnet, or without one where the network has no such addresses. -/
theorem created_one (hothers : ∀ v ∈ others, env.key v.name ≠ env.key net.name) :
    ∃ subnets, subnets.length ≤ 1 ∧ created env others [net] =
      { proxmoxVnet := [env.lower net.name]
        vnets := others ++ [{ name := net.name, zone := env.zone, subnets := subnets }] } := by
  simp only [created, runAll_cons, runAll_nil, createNet, createSdnVnet, createSdnSubnet, EStateM.run_bind,
    EStateM.run_modify]
  cases env.ipsForSubnets net.cidr with
  | error e => exact ⟨[], Nat.zero_le 1, rfl⟩
  | ok ips =>
    obtain ⟨gateway, startDhcp, endDhcp⟩ := ips
    refine ⟨[newSubnet env net.cidr gateway startDhcp endDhcp { name := net.name, zone := env.zone }], Nat.le_refl 1, ?_⟩
    have hsame : others.map (postSubnet env net gateway startDhcp endDhcp) = others := by
      rw [List.map_congr_left (g := id), List.map_id]
      intro v hv
      exact if_neg (hothers v hv)
    have hnew : postSubnet env net gateway startDhcp endDhcp { name := net.name, zone := env.zone } =
        { name := net.name, zone := env.zone,
          subnets := [newSubnet env net.cidr gateway startDhcp endDhcp { name := net.name, zone := env.zone }] } :=
      if_pos rfl
    simp only [EStateM.run_modify, finalState_ok, List.map_append, hsame, List.map_cons, hnew, List.map_nil,
      List.nil_append]

theorem listed_one {net : NetResource} {v : Vnet} (hothers : ∀ v ∈ others, env.key v.name ≠ env.key net.name)
    (hname : env.key name = env.key net.name) (hv : v.name = net.name) :
    listed env name (others ++ [v]) = v.subnets := by
  have hnone : others.filter (fun v => decide (env.key v.name = env.key name)) = [] := by
    rw [List.filter_eq_nil_iff]
    intro w hw hsame
    exact hothers w hw ((of_decide_eq_true hsame).trans hname)
  have hone : [v].filter (fun v => decide (env.key v.name = env.key name)) = [v] := by
    apply List.filter_eq_self.2
    intro w hw
    cases List.mem_singleton.1 hw
    rw [hv, hname]
    exact decide_eq_true rfl
  rw [listed, List.filter_append, hnone, hone, List.nil_append, List.flatMap_singleton]

theorem cleanup_one (hlower : ∀ text, env.lower (env.lower text) = env.lower text)
    (hothers : ∀ v ∈ others, env.key v.name ≠ env.key net.name) :
    CleansUp env others [net] ↔ env.key (env.lower net.name) = env.key net.name := by
  obtain ⟨subnets, hlen, hcreated⟩ := created_one hothers
  have hrun : ∃ vnets, (finalCleanup env).run (created env others [net]) = .ok () {
      proxmoxVnet := []
      vnets := vnets
      deletedVnets := [env.lower net.name]
      deletedSubnets := listed env (env.lower net.name) (created env others [net]).vnets } := by
    obtain ⟨vnets, hdelete⟩ := run_deleteSdnVnet env (env.lower net.name) (created env others [net])
    have hmem : env.lower (env.lower net.name) ∈ (created env others [net]).proxmoxVnet := by
      rw [hcreated, hlower]
      exact List.mem_singleton.2 rfl
    rw [if_pos hmem, hlower] at hdelete
    refine ⟨vnets, ?_⟩
    have hfound : (created env others [net]).proxmoxVnet[0]? = some (env.lower net.name) := by
      rw [hcreated]
      rfl
    have hone : (created env others [net]).proxmoxVnet.length = 1 := by
      rw [hcreated]
      rfl
    simp only [finalCleanup, EStateM.run_bind, EStateM.run_get, hone]
    rw [run_iterate_some hfound, run_bind_ok _ _ hdelete]
    rw [hcreated]
    simp only [List.erase_cons_head, List.nil_append]
    rfl
  obtain ⟨vnets, hrun⟩ := hrun
  have hcount : ([env.lower net.name].countP fun v => decide (env.key v = env.key net.name)) = 1 ↔
      env.key (env.lower net.name) = env.key net.name := by
    rw [List.countP_singleton]
    simp
  constructor
  · intro h
    obtain ⟨s', hok, -, hall⟩ := h
    cases hrun.symm.trans hok
    exact hcount.1 (hall net (List.mem_singleton.2 rfl)).1
  · intro hkey
    refine ⟨_, hrun, rfl, ?_⟩
    intro net' hnet'
    cases List.mem_singleton.1 hnet'
    refine ⟨hcount.2 hkey, ?_⟩
    rw [hcreated]
    intro v hv hsame subnet hsubnet
    rw [listed_one hothers hkey rfl]
    rcases List.mem_append.1 hv with hother | hnew
    · exact absurd hsame (hothers v hother)
    · cases List.mem_singleton.1 hnew
      obtain ⟨only, rfl⟩ := List.length_eq_one_iff.1 (Nat.le_antisymm hlen (List.length_pos_of_mem hsubnet))
      cases List.mem_singleton.1 hsubnet
      exact List.count_singleton_self

/-- The loop runs over the list each deletion shortens, so it skips every other vnet. -/
theorem cleansUp_iff (hlower : ∀ text, env.lower (env.lower text) = env.lower text)
    (hothers : ∀ net ∈ nets, ∀ v ∈ others, env.key v.name ≠ env.key net.name) :
    CleansUp env others nets ↔
      nets = [] ∨ ∃ net, nets = [net] ∧ env.key (env.lower net.name) = env.key net.name := by
  constructor
  · intro h
    obtain ⟨s', hok, hempty, -⟩ := id h
    simp only [finalCleanup, EStateM.run_bind, EStateM.run_get] at hok
    have hshort := iterate_empties (fun vnet t t' ht => Nat.le_of_eq (length_deleteSdnVnet env ht)) hok hempty
    rw [proxmoxVnet_created, List.length_map, List.map_eq_nil_iff] at hshort
    rcases hshort with hnil | ⟨-, hlen⟩
    · exact .inl hnil
    · obtain ⟨net, rfl⟩ := List.length_eq_one_iff.1 hlen
      exact .inr ⟨net, rfl, (cleanup_one hlower (hothers net (List.mem_singleton.2 rfl))).1 h⟩
  · intro h
    rcases h with rfl | ⟨net, rfl, hkey⟩
    · refine ⟨created env others [], rfl, rfl, ?_⟩
      intro net hnet
      cases hnet
    · exact (cleanup_one hlower (hothers net (List.mem_singleton.2 rfl))).2 hkey

/-- A cluster that looks vnets up by their exact name. -/
def plainCluster : Surroundings where
  key name := name
  subnetId zone cidr := zone ++ "-" ++ cidr
  zone := "nfvcl"
  lower := String.toLower
  ipsForSubnets _ := .ok ("10.0.0.254", "10.0.0.2", "10.0.0.253")

theorem cleansUp_single : CleansUp plainCluster [] [⟨0, "net1", "10.0.0.0/24"⟩] := by
  have hlower : ∀ text, plainCluster.lower (plainCluster.lower text) = plainCluster.lower text := Lower.toLower
  apply (cleansUp_iff hlower (fun _ _ v hv => absurd hv List.not_mem_nil)).2
  exact .inr ⟨_, rfl, by decide +kernel⟩

/-- The second of two vnets is left on the cluster and in the list. -/
theorem cleansUp_fails : ¬ CleansUp plainCluster [] [⟨0, "net1", "10.0.0.0/24"⟩, ⟨0, "net2", "10.0.0.0/24"⟩] := by
  intro h
  obtain ⟨s', hok, hempty, -⟩ := h
  simp only [finalCleanup, EStateM.run_bind, EStateM.run_get] at hok
  rcases iterate_empties (fun vnet t t' ht => Nat.le_of_eq (length_deleteSdnVnet plainCluster ht)) hok hempty with hnil | hone
  · rw [proxmoxVnet_created] at hnil
    cases hnil
  · rw [proxmoxVnet_created] at hone
    cases hone.2

end Proxmox
end Nfvcl
