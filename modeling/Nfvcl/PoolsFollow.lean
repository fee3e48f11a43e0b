import Mathlib.Data.List.Infix
import Nfvcl.DeletedWorkers
import Nfvcl.PoolNodes

namespace Nfvcl
set_option autoImplicit true
open Effects

namespace K8sPools

/-- An area for which the request gives addresses. -/
def HasAddresses (areas : List K8sPoolArea) (areaId : Int) : Prop :=
  ∃ area ∈ areas, area.areaId = areaId ∧ area.loadBalancerPoolsIps ≠ []

/-- The names of the nodes in an area, the master last. -/
def nodeNames (b : K8sBlueprintState) (areaId : Int) : List String :=
  (b.vmWorkers.filter (fun vm => decide (vm.area = areaId))).map NodeVm.name ++
    (b.vmMaster.toList.filter (fun vm => decide (vm.area = areaId))).map NodeVm.name

structure IsPoolOf (areas : List K8sPoolArea) (b : K8sBlueprintState) (areaId : Int) (pool : K8sLoadBalancerPoolArea) : Prop where
  addresses : ∀ ip, ip ∈ pool.ipList ↔ ∃ area ∈ areas, area.areaId = areaId ∧ ip ∈ area.loadBalancerPoolsIps
  hosts : (pool.hostNames.getD []).Perm (nodeNames b areaId)
  noHosts : pool.hostNames = none ↔ nodeNames b areaId = []

/-- One pool for each area with addresses, under a name of its own, with the addresses and the nodes of the area. -/
structure PoolsFollow (areas : List K8sPoolArea) (s : K8sPools) : Prop where
  names : (s.loadBalancerPools.map K8sLoadBalancerPoolArea.poolName).Nodup
  pools : ∃ areaIds : List Int, areaIds.Nodup ∧ (∀ areaId, areaId ∈ areaIds ↔ HasAddresses areas areaId) ∧
    List.Forall₂ (IsPoolOf areas s.blueprint) areaIds s.loadBalancerPools

def withAddresses (areas : List K8sPoolArea) : List K8sPoolArea :=
  areas.filter (fun area => decide (0 < area.loadBalancerPoolsIps.length))

/-- All the addresses of the request are those of one area, and its last entry has them all. -/
def OneLoadBalancer (areas : List K8sPoolArea) : Prop :=
  ∀ last, (withAddresses areas).getLast? = some last → ∀ area ∈ areas, area.loadBalancerPoolsIps ≠ [] →
    area.areaId = last.areaId ∧ ∀ ip ∈ area.loadBalancerPoolsIps, ip ∈ last.loadBalancerPoolsIps

/-- The call leaves the nodes of the areas with addresses as they are. -/
def LeavesPools (areas : List K8sPoolArea) (call : K8sNodeCall) (s : K8sPools) : Prop :=
  match call with
  | .addNode added => ∀ area ∈ added, HasAddresses areas area.areaId → area.workerReplicas = 0
  | .delWorkers names => s.blueprint.vmWorkers.length ≤ 1 ∨
      ∀ vm ∈ s.blueprint.vmWorkers, HasAddresses areas vm.area → vm.name ∉ names

/-! ### The addresses by area -/

section Addresses

variable {areas : List K8sPoolArea}

def indexed (areas : List K8sPoolArea) (d : Dict Int (List String)) : Dict Int (List String) :=
  areas.foldl
    (fun d area => if 0 < area.loadBalancerPoolsIps.length then d.set area.areaId area.loadBalancerPoolsIps else d) d

theorem mem_withAddresses {area : K8sPoolArea} :
    area ∈ withAddresses areas ↔ area ∈ areas ∧ area.loadBalancerPoolsIps ≠ [] := by
  rw [withAddresses, List.mem_filter, decide_eq_true_iff, List.length_pos_iff]

theorem indexed_eq (areas : List K8sPoolArea) (d : Dict Int (List String)) :
    indexed areas d = (withAddresses areas).foldl (fun d area => d.set area.areaId area.loadBalancerPoolsIps) d := by
  rw [withAddresses, List.foldl_filter, indexed]
  congr 1
  funext d area
  simp only [decide_eq_true_eq]

theorem mem_keys_foldl (xs : List K8sPoolArea) (d : Dict Int (List String)) (areaId : Int) :
    areaId ∈ (xs.foldl (fun d area => d.set area.areaId area.loadBalancerPoolsIps) d).keys ↔
      areaId ∈ d.keys ∨ ∃ area ∈ xs, area.areaId = areaId := by
  induction xs generalizing d with
  | nil => simp
  | cons x xs ih =>
    rw [List.foldl_cons, ih, Dict.mem_keys_set]
    simp only [List.mem_cons, exists_eq_or_imp]
    constructor
    · rintro ((he | hk) | hx)
      · exact .inr (.inl he.symm)
      · exact .inl hk
      · exact .inr (.inr hx)
    · rintro (hk | he | hx)
      · exact .inl (.inr hk)
      · exact .inl (.inl he.symm)
      · exact .inr hx

theorem mem_keys_indexed {areaId : Int} : areaId ∈ (indexed areas Dict.empty).keys ↔ HasAddresses areas areaId := by
  have hempty : areaId ∉ (Dict.empty : Dict Int (List String)).keys := fun h => (nomatch h)
  rw [indexed_eq, mem_keys_foldl, HasAddresses, or_iff_right hempty]
  constructor
  · rintro ⟨area, hmem, hid⟩
    exact ⟨area, (mem_withAddresses.1 hmem).1, hid, (mem_withAddresses.1 hmem).2⟩
  · rintro ⟨area, hmem, hid, hne⟩
    exact ⟨area, mem_withAddresses.2 ⟨hmem, hne⟩, hid⟩

/-- The last entry with addresses is the one that stays. -/
theorem indexed_last {last : K8sPoolArea} (h : (withAddresses areas).getLast? = some last) :
    (indexed areas Dict.empty).get? last.areaId = some last.loadBalancerPoolsIps := by
  obtain ⟨front, hfront⟩ := List.getLast?_eq_some_iff.1 h
  rw [indexed_eq, hfront, List.foldl_append, List.foldl_cons, List.foldl_nil, Dict.get?_set, if_pos rfl]

end Addresses

/-! ### Host names -/

section Hosts

/-- The nodes have the names that the blueprint gives them. -/
structure Named (id : String) (b : K8sBlueprintState) : Prop where
  workers : ∀ vm ∈ b.vmWorkers, ∃ n, vm.name = K8sBlueprint.workerName id.toLower n
  master : ∀ master, b.vmMaster = some master → master.name = K8sBlueprint.masterName id.toLower

theorem lower_workerName (id : String) (n : Nat) : Lower (K8sBlueprint.workerName id.toLower n) := by
  have hlit : Lower "-vm-w-" := lower_iff.2 (by decide)
  exact ((Lower.toLower id).append hlit).append (Lower.repr n)

theorem lower_masterName (id : String) : Lower (K8sBlueprint.masterName id.toLower) := by
  have hlit : Lower "-vm-k8s-c" := lower_iff.2 (by decide)
  exact (Lower.toLower id).append hlit

theorem workerName_ne_masterName (id : String) (n : Nat) : K8sBlueprint.workerName id n ≠ K8sBlueprint.masterName id := by
  intro h
  have hlist := congrArg String.toList h
  simp only [K8sBlueprint.workerName, K8sBlueprint.masterName, String.toList_append, List.append_assoc] at hlist
  have hrest := List.append_cancel_left hlist
  have hw : (toString "-vm-w-").toList = ['-', 'v', 'm', '-', 'w', '-'] := rfl
  have hk : (toString "-vm-k8s-c").toList = ['-', 'v', 'm', '-', 'k', '8', 's', '-', 'c'] := rfl
  rw [hw, hk] at hrest
  exact absurd (congrArg (fun chars => chars[4]?) hrest) (by simp)

theorem Named.hostNames {id : String} {b : K8sBlueprintState} {master : NodeVm} (h : Named id b) (hmaster : b.vmMaster = some master) (areaId : Int) :
    hostNames master b.vmWorkers areaId = nodeNames b areaId := by
  have hworkers : (b.vmWorkers.filter (fun vm => decide (vm.area = areaId))).map (fun vm => vm.name.toLower) =
      (b.vmWorkers.filter (fun vm => decide (vm.area = areaId))).map NodeVm.name := by
    refine List.map_congr_left (fun vm hvm => ?_)
    obtain ⟨n, hn⟩ := h.workers vm (List.mem_of_mem_filter hvm)
    rw [hn]
    exact lower_workerName id n
  have hlower : master.name.toLower = master.name := by
    rw [h.master master hmaster]
    exact lower_masterName id
  rw [K8sPools.hostNames, nodeNames, hworkers, hmaster, hlower]
  congr 1
  by_cases harea : master.area = areaId
  · simp [harea]
  · simp [harea]

theorem poolOf_ok {id : String} {b : K8sBlueprintState} (h : Named id b) (hpool : poolOf id b areaId value = .ok pool) :
    pool.poolName = s!"{id.toLower}-area1" ∧ pool.ipList = value ∧ pool.hostNames.getD [] = nodeNames b areaId ∧
      (pool.hostNames = none ↔ nodeNames b areaId = []) := by
  unfold poolOf at hpool
  cases hmaster : b.vmMaster with
  | none =>
    rw [hmaster] at hpool
    cases hpool
  | some master =>
    rw [hmaster] at hpool
    cases hpool
    refine ⟨rfl, rfl, ?_⟩
    dsimp only
    rw [h.hostNames hmaster]
    cases hnames : nodeNames b areaId with
    | nil => exact ⟨rfl, iff_of_true rfl rfl⟩
    | cons name names => exact ⟨rfl, iff_of_false (nomatch ·) (nomatch ·)⟩

end Hosts

/-! ### The creation -/

section Creation

variable {raises : Nat → Option PyError} {id : String} {s s' : K8sPools} {b b' : K8sBlueprintState}

theorem Named.same (h : Named id b) (hsame : K8sBlueprint.SameNodes b b') : Named id b' where
  workers := by
    rw [hsame.workers]
    exact h.workers
  master := by
    rw [hsame.master]
    exact h.master

theorem Named.adds (h : Named id b) (hadds : K8sBlueprint.AddsWorkers id.toLower areas b b' added) : Named id b' where
  workers := by
    intro vm hvm
    rw [hadds.workers, List.mem_append] at hvm
    exact hvm.elim (h.workers vm) (hadds.names vm)
  master := by
    rw [hadds.master]
    exact h.master

theorem onBlueprint_meets {m : K8sM α} {Q : α → K8sBlueprintState → Prop}
    (h : Meets m s.blueprint Q (fun _ _ => True)) :
    Meets (onBlueprint m) s
      (fun a s' => Q a s'.blueprint ∧ s'.loadBalancerIpsArea = s.loadBalancerIpsArea ∧ s'.loadBalancerPools = s.loadBalancerPools)
      (fun _ _ => True) := by
  rw [onBlueprint, meets_zoom]
  exact h.mono (fun _ _ hq => ⟨hq, rfl, rfl⟩) (fun _ _ h => h)

theorem createArea_meets (area : K8sPoolArea) (h : Named id s.blueprint) :
    Meets (createArea raises id area) s
      (fun _ s' => Named id s'.blueprint ∧ s'.loadBalancerIpsArea = indexed [area] s.loadBalancerIpsArea) (fun _ _ => True) := by
  have hrest : ∀ s₁ : K8sPools, Named id s₁.blueprint → s₁.loadBalancerIpsArea = s.loadBalancerIpsArea →
      Meets (do
        modify (fun s =>
          if 0 < area.loadBalancerPoolsIps.length then
            { s with loadBalancerIpsArea := s.loadBalancerIpsArea.set area.areaId area.loadBalancerPoolsIps }
          else s)
        onBlueprint (K8sBlueprint.deployArea raises id.toLower area.toK8sAreaDeployment)) s₁
      (fun _ s' => Named id s'.blueprint ∧ s'.loadBalancerIpsArea = indexed [area] s.loadBalancerIpsArea) (fun _ _ => True) := by
    intro s₁ hnamed hips
    rw [meets_bind, meets_modify]
    refine (onBlueprint_meets (K8sBlueprint.deployArea_nodes raises id.toLower area.toK8sAreaDeployment _)).mono ?_ (fun _ _ h => h)
    rintro _ s₂ ⟨⟨added, hadds⟩, hips₂, -⟩
    rw [indexed, List.foldl_cons, List.foldl_nil]
    by_cases hpos : 0 < area.loadBalancerPoolsIps.length
    · rw [if_pos hpos] at hadds hips₂
      rw [if_pos hpos]
      exact ⟨hnamed.adds hadds, hips₂.trans (by rw [hips])⟩
    · rw [if_neg hpos] at hadds hips₂
      rw [if_neg hpos]
      exact ⟨hnamed.adds hadds, hips₂.trans hips⟩
  unfold createArea
  by_cases hmaster : area.isMasterArea = true
  · rw [if_pos hmaster]
    refine Meets.bind (onBlueprint_meets (K8sBlueprint.deployMasterNode_nodes raises id.toLower area.toK8sAreaDeployment _)) ?_
    rintro _ s₁ ⟨⟨⟨vmId, hvm⟩, hworkers⟩, hips, -⟩
    refine hrest s₁ ⟨?_, ?_⟩ hips
    · rw [hworkers]
      exact h.workers
    · intro master hsome
      rw [hvm] at hsome
      rw [← Option.some.inj hsome]
  · rw [if_neg hmaster]
    exact hrest s h rfl

theorem createAreas_meets (areas : List K8sPoolArea) (h : Named id s.blueprint) :
    Meets (forM areas (createArea raises id)) s
      (fun _ s' => Named id s'.blueprint ∧ s'.loadBalancerIpsArea = indexed areas s.loadBalancerIpsArea) (fun _ _ => True) := by
  induction areas generalizing s with
  | nil => exact ⟨h, rfl⟩
  | cons area areas ih =>
    rw [List.forM_cons]
    refine Meets.bind (createArea_meets area h) ?_
    rintro _ s₁ ⟨hnamed, hips⟩
    refine (ih hnamed).mono ?_ (fun _ _ h => h)
    rintro _ s₂ ⟨hnamed₂, hips₂⟩
    exact ⟨hnamed₂, hips₂.trans (by rw [hips]; rfl)⟩

theorem poolOf_congr (h : K8sBlueprint.SameNodes b b') : poolOf id b = poolOf id b' := by
  funext areaId value
  rw [poolOf, poolOf, h.master, h.workers]

/-- The pools of a blueprint that was created. -/
theorem create_ok (h : (create raises id areas).run {} = .ok () s') :
    Named id s'.blueprint ∧
      List.Forall₂ (fun item pool => poolOf id s'.blueprint item.1 item.2 = .ok pool) (indexed areas Dict.empty).items
        s'.loadBalancerPools := by
  obtain ⟨_, s₁, hareas, h⟩ := bind_ok_inv h
  obtain ⟨_, s₂, hpools, h⟩ := bind_ok_inv h
  have hinit : Named id ({} : K8sPools).blueprint := ⟨fun _ hvm => (nomatch hvm), fun _ hm => (nomatch hm)⟩
  have hcreated : Meets (forM areas (createArea raises id)) _ _ _ := createAreas_meets areas hinit
  unfold Meets at hcreated
  rw [hareas] at hcreated
  obtain ⟨hnamed, hips⟩ := hcreated
  obtain ⟨hblueprint, hmap⟩ := setupLoadBalancerPool_ok hpools
  have hconf : Meets (do
      K8sBlueprint.attempt raises
      K8sBlueprint.day0conf raises true
      K8sBlueprint.attempt raises) s₂.blueprint (fun _ b => K8sBlueprint.SameNodes s₂.blueprint b) (fun _ _ => True) := by
    refine Meets.bind (K8sBlueprint.attempt_nodes raises _) (fun _ b₁ h₁ => ?_)
    refine Meets.bind (K8sBlueprint.day0conf_nodes raises true b₁) (fun _ b₂ h₂ => ?_)
    exact (K8sBlueprint.attempt_nodes raises b₂).mono (fun _ b₃ h₃ => h₁.trans (h₂.trans h₃)) (fun _ _ h => h)
  have hlast := onBlueprint_meets hconf
  unfold Meets at hlast
  rw [h] at hlast
  obtain ⟨hsame, -, hsamePools⟩ := hlast
  rw [hblueprint] at hsame
  refine ⟨hnamed.same hsame, ?_⟩
  have hall := mapM_ok_iff.1 hmap
  rw [hips] at hall
  rw [hsamePools, ← poolOf_congr hsame]
  exact hall

theorem forall₂_exists_left {R : α → β → Prop} {xs : List α} {ys : List β} (h : List.Forall₂ R xs ys) (hy : y ∈ ys) :
    ∃ x ∈ xs, R x y := by
  induction h with
  | nil => exact (nomatch hy)
  | cons hr hrest ih =>
    rcases List.mem_cons.1 hy with rfl | hy
    · exact ⟨_, List.mem_cons_self, hr⟩
    · obtain ⟨x, hx, hxy⟩ := ih hy
      exact ⟨x, List.mem_cons_of_mem _ hx, hxy⟩

theorem eq_singleton_of_length_le {xs : List α} (h : xs.length ≤ 1) (hx : x ∈ xs) : xs = [x] := by
  obtain ⟨only, rfl⟩ := List.length_eq_one_iff.1 (Nat.le_antisymm h (List.length_pos_of_mem hx))
  rw [List.mem_singleton.1 hx]

theorem names_nodup_iff {pools : List K8sLoadBalancerPoolArea} (h : ∀ pool ∈ pools, pool.poolName = name) :
    (pools.map K8sLoadBalancerPoolArea.poolName).Nodup ↔ pools.length ≤ 1 := by
  have hall : pools.map K8sLoadBalancerPoolArea.poolName = List.replicate pools.length name := by
    refine List.eq_replicate_iff.2 ⟨List.length_map _, fun other hother => ?_⟩
    obtain ⟨pool, hpool, rfl⟩ := List.mem_map.1 hother
    exact h pool hpool
  rw [hall, List.nodup_replicate]

theorem not_hasAddresses (h : withAddresses areas = []) (areaId : Int) : ¬ HasAddresses areas areaId := by
  rintro ⟨area, hmem, -, hne⟩
  have hin := mem_withAddresses.2 ⟨hmem, hne⟩
  rw [h] at hin
  exact (nomatch hin)

/-- The pool of the only area with addresses. -/
theorem isPoolOf_last {last : K8sPoolArea} (hnamed : Named id b)
    (hpool : poolOf id b last.areaId last.loadBalancerPoolsIps = .ok pool) (hmem : last ∈ areas)
    (hone : ∀ area ∈ areas, area.loadBalancerPoolsIps ≠ [] →
      area.areaId = last.areaId ∧ ∀ ip ∈ area.loadBalancerPoolsIps, ip ∈ last.loadBalancerPoolsIps) :
    IsPoolOf areas b last.areaId pool := by
  obtain ⟨-, hips, hhosts, hnone⟩ := poolOf_ok hnamed hpool
  refine ⟨fun ip => ?_, by rw [hhosts], hnone⟩
  rw [hips]
  constructor
  · intro hip
    exact ⟨last, hmem, rfl, hip⟩
  · rintro ⟨area, harea, -, hip⟩
    exact (hone area harea (List.ne_nil_of_mem hip)).2 ip hip

/-- Right after the creation the pools are right when one area has all the addresses. -/
theorem created_iff (h : (create raises id areas).run {} = .ok () s') : PoolsFollow areas s' ↔ OneLoadBalancer areas := by
  obtain ⟨hnamed, hpools⟩ := create_ok h
  cases hlast : (withAddresses areas).getLast? with
  | none =>
    have hnil : withAddresses areas = [] := List.getLast?_eq_none_iff.1 hlast
    have hitems : (indexed areas Dict.empty).items = [] := by
      rw [indexed_eq, hnil]
      rfl
    rw [hitems] at hpools
    have hnone := List.forall₂_nil_left_iff.1 hpools
    refine iff_of_true ⟨by rw [hnone]; exact List.nodup_nil, [], List.nodup_nil, fun areaId => ?_, by rw [hnone]; exact .nil⟩ ?_
    · exact iff_of_false List.not_mem_nil (not_hasAddresses hnil areaId)
    · intro last hsome
      rw [hlast] at hsome
      cases hsome
  | some last =>
    have hmem : last ∈ areas ∧ last.loadBalancerPoolsIps ≠ [] :=
      mem_withAddresses.1 (List.mem_of_getLast? hlast)
    have hget := indexed_last hlast
    constructor
    · intro hfollow last' hlast'
      obtain rfl := Option.some.inj (hlast.symm.trans hlast')
      have hnames : ∀ pool ∈ s'.loadBalancerPools, pool.poolName = s!"{id.toLower}-area1" := by
        intro pool hpool
        obtain ⟨item, -, hitem⟩ := forall₂_exists_left hpools hpool
        exact (poolOf_ok hnamed hitem).1
      have hlength := (names_nodup_iff hnames).1 hfollow.names
      rw [← hpools.length_eq] at hlength
      have hitem : (last.areaId, last.loadBalancerPoolsIps) ∈ (indexed areas Dict.empty).items := Dict.mem_items hget
      have hsingle := eq_singleton_of_length_le hlength hitem
      rw [hsingle] at hpools
      obtain ⟨pool, rest, hpool, hrest, heq⟩ := List.forall₂_cons_left_iff.1 hpools
      rw [List.forall₂_nil_left_iff.1 hrest] at heq
      obtain ⟨areaIds, -, hids, hall⟩ := hfollow.pools
      rw [heq] at hall
      obtain ⟨areaId, others, hpoolOf, hothers, rfl⟩ := List.forall₂_cons_right_iff.1 hall
      rw [List.forall₂_nil_right_iff.1 hothers] at hids
      have hlastId : last.areaId = areaId := List.mem_singleton.1 ((hids _).2 ⟨last, hmem.1, rfl, hmem.2⟩)
      intro area harea hne
      have hareaId : area.areaId = areaId := List.mem_singleton.1 ((hids _).2 ⟨area, harea, rfl, hne⟩)
      refine ⟨hareaId.trans hlastId.symm, fun ip hip => ?_⟩
      have hin := (hpoolOf.addresses ip).2 ⟨area, harea, hareaId, hip⟩
      rw [(poolOf_ok hnamed hpool).2.1] at hin
      exact hin
    · intro hone
      have hkeys : ∀ areaId ∈ (indexed areas Dict.empty).keys, areaId = last.areaId := by
        intro areaId hkey
        obtain ⟨area, harea, rfl, hne⟩ := mem_keys_indexed.1 hkey
        exact (hone last hlast area harea hne).1
      rw [Dict.items_singleton hget hkeys] at hpools
      obtain ⟨pool, rest, hpool, hrest, heq⟩ := List.forall₂_cons_left_iff.1 hpools
      rw [List.forall₂_nil_left_iff.1 hrest] at heq
      refine ⟨?_, [last.areaId], List.nodup_singleton _, fun areaId => ?_, ?_⟩
      · rw [heq]
        exact List.nodup_singleton _
      · rw [List.mem_singleton]
        constructor
        · rintro rfl
          exact ⟨last, hmem.1, rfl, hmem.2⟩
        · rintro ⟨area, harea, rfl, hne⟩
          exact (hone last hlast area harea hne).1
      · rw [heq]
        exact .cons (isPoolOf_last hnamed hpool hmem.1 (hone last hlast)) .nil

end Creation

/-! ### Day 2 calls -/

section Calls

variable {raises : Nat → Option PyError} {id : String} {s s' : K8sPools} {b b' : K8sBlueprintState}

theorem IsPoolOf.perm (h : IsPoolOf areas b areaId pool) (hperm : (nodeNames b' areaId).Perm (nodeNames b areaId)) :
    IsPoolOf areas b' areaId pool where
  addresses := h.addresses
  hosts := h.hosts.trans hperm.symm
  noHosts := by
    rw [h.noHosts, ← List.length_eq_zero_iff, ← List.length_eq_zero_iff, hperm.length_eq]

/-- With the pools as they were, the nodes have to be as they were. -/
theorem follow_iff (h : PoolsFollow areas s) (hone : s.loadBalancerPools.length ≤ 1)
    (hpools : s'.loadBalancerPools = s.loadBalancerPools) :
    PoolsFollow areas s' ↔
      ∀ areaId, HasAddresses areas areaId → (nodeNames s'.blueprint areaId).Perm (nodeNames s.blueprint areaId) := by
  obtain ⟨areaIds, hnodup, hids, hall⟩ := h.pools
  constructor
  · intro hfollow areaId haddresses
    obtain ⟨areaIds', -, hids', hall'⟩ := hfollow.pools
    have hlength := hall.length_eq.trans_le hone
    have hlength' := (hall'.length_eq.trans (congrArg List.length hpools)).trans_le hone
    rw [eq_singleton_of_length_le hlength ((hids areaId).2 haddresses)] at hall
    rw [eq_singleton_of_length_le hlength' ((hids' areaId).2 haddresses), hpools] at hall'
    obtain ⟨pool, rest, hpool, hrest, heq⟩ := List.forall₂_cons_left_iff.1 hall
    rw [heq] at hall'
    obtain ⟨hpool', -⟩ := List.forall₂_cons.1 hall'
    exact hpool'.hosts.symm.trans hpool.hosts
  · intro hnodes
    refine ⟨by rw [hpools]; exact h.names, areaIds, hnodup, hids, ?_⟩
    rw [hpools]
    have hmem : ∀ areaId ∈ areaIds, HasAddresses areas areaId := fun areaId hin => (hids areaId).1 hin
    clear hids hnodup
    generalize s.loadBalancerPools = pools at hall
    induction hall with
    | nil => exact .nil
    | cons hpool hrest ih =>
      refine .cons (hpool.perm (hnodes _ (hmem _ List.mem_cons_self))) (ih ?_)
      exact fun areaId hin => hmem areaId (List.mem_cons_of_mem _ hin)

theorem adds_perm_iff {areas : List K8sAreaDeployment} (h : K8sBlueprint.AddsWorkers id areas b b' added) (areaId : Int) :
    (nodeNames b' areaId).Perm (nodeNames b areaId) ↔ ¬ ∃ vm ∈ added, vm.area = areaId := by
  have hnodes : nodeNames b' areaId = (b.vmWorkers.filter (fun vm => decide (vm.area = areaId))).map NodeVm.name ++
      (added.filter (fun vm => decide (vm.area = areaId))).map NodeVm.name ++
        (b.vmMaster.toList.filter (fun vm => decide (vm.area = areaId))).map NodeVm.name := by
    rw [nodeNames, h.workers, h.master, List.filter_append, List.map_append]
  have hnone : added.filter (fun vm => decide (vm.area = areaId)) = [] ↔ ¬ ∃ vm ∈ added, vm.area = areaId := by
    rw [List.filter_eq_nil_iff]
    simp only [decide_eq_true_eq, not_exists, not_and]
  rw [← hnone, hnodes]
  constructor
  · intro hperm
    have hlength := hperm.length_eq
    simp only [nodeNames, List.length_append, List.length_map] at hlength
    exact List.length_eq_zero_iff.1 (by omega)
  · intro hnil
    rw [hnil, List.map_nil, List.append_nil]
    exact List.Perm.refl _

theorem drops_perm_iff (h : K8sBlueprint.DropsWorkers gone b b') (areaId : Int) :
    (nodeNames b' areaId).Perm (nodeNames b areaId) ↔ ∀ vm ∈ b.vmWorkers, vm.area = areaId → vm.name ∉ gone := by
  have hkept : (b.vmWorkers.filter (fun vm => decide (vm.area = areaId))).filter (fun vm => decide (vm.name ∉ gone)) =
      b'.vmWorkers.filter (fun vm => decide (vm.area = areaId)) := by
    rw [h.workers, List.filter_filter, List.filter_filter]
    congr 1
    funext vm
    exact Bool.and_comm _ _
  have hall : (∀ vm ∈ b.vmWorkers, vm.area = areaId → vm.name ∉ gone) ↔
      ∀ vm ∈ b.vmWorkers.filter (fun vm => decide (vm.area = areaId)), decide (vm.name ∉ gone) = true := by
    simp only [List.mem_filter, decide_eq_true_eq, and_imp]
  rw [hall, ← List.length_filter_eq_length_iff, hkept]
  constructor
  · intro hperm
    have hlength := hperm.length_eq
    simp only [nodeNames, h.master, List.length_append, List.length_map] at hlength
    omega
  · intro hlength
    rw [← hkept, List.length_filter_eq_length_iff, ← List.filter_eq_self, hkept] at hlength
    rw [nodeNames, nodeNames, h.master, hlength]

theorem delWorkers_nodes (raises : Nat → Option PyError) (names : List String) (b : K8sBlueprintState) :
    Meets (K8sBlueprint.delWorkers raises names) b
      (fun _ b' => (b.vmWorkers.length ≤ 1 ∧ b' = b) ∨ ¬ b.vmWorkers.length ≤ 1 ∧ ∃ master, b.vmMaster = some master ∧
        K8sBlueprint.DropsWorkers ((names.erase master.name).filter (fun node => decide (node ∈ b.vmWorkers.map NodeVm.name))) b b')
      (fun _ _ => True) := by
  unfold K8sBlueprint.delWorkers
  rw [meets_bind, meets_get]
  cases hmaster : b.vmMaster with
  | none => trivial
  | some master =>
    dsimp only
    by_cases hlen : b.vmWorkers.length ≤ 1
    · rw [if_pos hlen]
      exact .inl ⟨hlen, rfl⟩
    · rw [if_neg hlen]
      refine Meets.bind (K8sBlueprint.attempt_nodes raises b) (fun _ b₁ h₁ => ?_)
      refine (K8sBlueprint.destroyWorkers_nodes raises _ b₁).mono (fun _ b₂ h₂ => ?_) (fun _ _ h => h)
      rw [K8sBlueprint.toBeDestroyed_names] at h₂
      refine .inr ⟨hlen, master, rfl, h₂.master.trans h₁.master, ?_⟩
      rw [h₂.workers, h₁.workers]

/-- A day 2 call leaves the pools alone, so they are right afterwards when the call leaves their nodes alone. -/
theorem call_meets (call : K8sNodeCall) (hnamed : Named id s.blueprint) (h : PoolsFollow areas s)
    (hone : s.loadBalancerPools.length ≤ 1) :
    Meets (call.exec raises id) s
      (fun _ s' => Named id s'.blueprint ∧ s'.loadBalancerPools.length ≤ 1 ∧ (PoolsFollow areas s' ↔ LeavesPools areas call s))
      (fun _ _ => True) := by
  cases call with
  | addNode added =>
    refine (onBlueprint_meets (K8sBlueprint.addWorker_nodes raises id.toLower _ s.blueprint)).mono ?_ (fun _ _ h => h)
    rintro _ s' ⟨⟨vms, hadds⟩, -, hpools⟩
    refine ⟨hnamed.adds hadds, by rw [hpools]; exact hone, ?_⟩
    rw [follow_iff h hone hpools]
    simp only [adds_perm_iff hadds, hadds.areas, LeavesPools, List.mem_map]
    constructor
    · intro hall area harea haddresses
      by_contra hne
      exact hall _ haddresses ⟨_, ⟨area, harea, rfl⟩, rfl, Nat.pos_of_ne_zero hne⟩
    · rintro hall areaId haddresses ⟨_, ⟨area, harea, rfl⟩, rfl, hpos⟩
      exact absurd (hall area harea haddresses) (Nat.pos_iff_ne_zero.1 hpos)
  | delWorkers names =>
    refine (onBlueprint_meets (delWorkers_nodes raises names s.blueprint)).mono ?_ (fun _ _ h => h)
    rintro _ s' ⟨⟨hlen, hsame⟩ | ⟨hlen, master, hmaster, hdrops⟩, -, hpools⟩
    · rw [hsame]
      refine ⟨hnamed, by rw [hpools]; exact hone, ?_⟩
      rw [follow_iff h hone hpools, hsame]
      exact iff_of_true (fun _ _ => List.Perm.refl _) (.inl hlen)
    · have hworkers : ∀ vm ∈ s'.blueprint.vmWorkers, vm ∈ s.blueprint.vmWorkers := by
        intro vm hvm
        rw [hdrops.workers] at hvm
        exact List.mem_of_mem_filter hvm
      refine ⟨⟨fun vm hvm => hnamed.workers vm (hworkers vm hvm), by rw [hdrops.master]; exact hnamed.master⟩,
        by rw [hpools]; exact hone, ?_⟩
      have hgone : ∀ vm ∈ s.blueprint.vmWorkers,
          vm.name ∈ (names.erase master.name).filter (fun node => decide (node ∈ s.blueprint.vmWorkers.map NodeVm.name)) ↔
            vm.name ∈ names := by
        intro vm hvm
        obtain ⟨n, hn⟩ := hnamed.workers vm hvm
        have hne : vm.name ≠ master.name := by
          rw [hn, hnamed.master master hmaster]
          exact workerName_ne_masterName _ n
        rw [List.mem_filter, List.mem_erase_of_ne hne]
        exact and_iff_left (decide_eq_true (List.mem_map_of_mem hvm))
      rw [follow_iff h hone hpools]
      simp only [drops_perm_iff hdrops, LeavesPools, or_iff_right hlen]
      constructor
      · intro hall vm hvm haddresses hname
        exact hall vm.area haddresses vm hvm rfl ((hgone vm hvm).2 hname)
      · rintro hall areaId haddresses vm hvm rfl hname
        exact hall vm hvm haddresses ((hgone vm hvm).1 hname)

/-- Over a run of calls that return. -/
theorem run_iff (calls : List K8sNodeCall) (hnamed : Named id s.blueprint) (h : PoolsFollow areas s)
    (hone : s.loadBalancerPools.length ≤ 1)
    (hcalls : AllSteps (K8sNodeCall.exec raises id) (fun call s => ¬ Raised ((call.exec raises id).run s)) s calls) :
    (∀ done, done <+: calls → PoolsFollow areas (runAll (K8sNodeCall.exec raises id) s done)) ↔
      AllSteps (K8sNodeCall.exec raises id) (LeavesPools areas) s calls := by
  induction calls generalizing s with
  | nil =>
    refine iff_of_true (fun done hdone => ?_) trivial
    rw [List.prefix_nil.1 hdone]
    exact h
  | cons call calls ih =>
    obtain ⟨hok, hrest⟩ := hcalls
    have hrun := eq_ok_of_not_raised hok
    have hcall : Meets (call.exec raises id) _ _ _ := call_meets call hnamed h hone
    unfold Meets at hcall
    rw [hrun] at hcall
    obtain ⟨hnamed', hone', hiff⟩ := hcall
    constructor
    · intro hall
      have hfollow := hall [call] ⟨calls, rfl⟩
      refine ⟨hiff.1 hfollow, (ih hnamed' hfollow hone' hrest).1 (fun done hdone => ?_)⟩
      exact hall (call :: done) (List.cons_prefix_cons.2 ⟨rfl, hdone⟩)
    · rintro ⟨hleaves, hsteps⟩ done hdone
      cases done with
      | nil => exact h
      | cons first done =>
        obtain ⟨rfl, hprefix⟩ := List.cons_prefix_cons.1 hdone
        exact (ih hnamed' (hiff.2 hleaves) hone' hrest).2 hsteps done hprefix

theorem follow_runs_iff (areas : List K8sPoolArea) (calls : List K8sNodeCall) (hcreate : (create raises id areas).run {} = .ok () s)
    (hcalls : AllSteps (K8sNodeCall.exec raises id) (fun call s => ¬ Raised ((call.exec raises id).run s)) s calls) :
    (∀ done, done <+: calls → PoolsFollow areas (runAll (K8sNodeCall.exec raises id) s done)) ↔
      OneLoadBalancer areas ∧ AllSteps (K8sNodeCall.exec raises id) (LeavesPools areas) s calls := by
  obtain ⟨hnamed, hpools⟩ := create_ok hcreate
  have hnames : ∀ pool ∈ s.loadBalancerPools, pool.poolName = s!"{id.toLower}-area1" := by
    intro pool hpool
    obtain ⟨item, -, hitem⟩ := forall₂_exists_left hpools hpool
    exact (poolOf_ok hnamed hitem).1
  have hrun : PoolsFollow areas s → ((∀ done, done <+: calls → PoolsFollow areas (runAll (K8sNodeCall.exec raises id) s done)) ↔
      AllSteps (K8sNodeCall.exec raises id) (LeavesPools areas) s calls) :=
    fun hfollow => run_iff calls hnamed hfollow ((names_nodup_iff hnames).1 hfollow.names) hcalls
  rw [← created_iff hcreate]
  constructor
  · intro hall
    have hfollow := hall [] (List.nil_prefix)
    exact ⟨hfollow, (hrun hfollow).1 hall⟩
  · rintro ⟨hfollow, hsteps⟩
    exact (hrun hfollow).2 hsteps

/-- The pools are right in every state of a run exactly when one area has all the addresses and no call changes
its nodes. -/
theorem load_balancer_pools_follow_nodes_iff (raises : Nat → Option PyError) (id : String) (areas : List K8sPoolArea)
    (calls : List K8sNodeCall) (s : K8sPools) (hcreate : (create raises id areas).run {} = .ok () s)
    (hcalls : AllSteps (K8sNodeCall.exec raises id) (fun call s => ¬ Raised ((call.exec raises id).run s)) s calls) :
    (∀ done, done <+: calls → PoolsFollow areas (runAll (K8sNodeCall.exec raises id) s done)) ↔
      OneLoadBalancer areas ∧ AllSteps (K8sNodeCall.exec raises id) (LeavesPools areas) s calls :=
  follow_runs_iff areas calls hcreate hcalls

/-- Two areas, the first with addresses. -/
def pooledAreas : List K8sPoolArea :=
  [{ areaId := 1, isMasterArea := true, mgmtNet := "mgmt", loadBalancerPoolsIps := ["10.0.0.9"] },
    { areaId := 2, mgmtNet := "mgmt" }]

def created (areas : List K8sPoolArea) : K8sPools :=
  finalState ((create (fun _ => none) "K8S" areas).run {})

theorem load_balancer_pools_follow_nodes_one :
    (∀ done, done <+: [.addNode [{ areaId := 2, mgmtNet := "mgmt" }], .delWorkers ["k8s-vm-w-1"]] →
      PoolsFollow pooledAreas (runAll (K8sNodeCall.exec (fun _ => none) "K8S") (created pooledAreas) done)) ↔
    OneLoadBalancer pooledAreas ∧ AllSteps (K8sNodeCall.exec (fun _ => none) "K8S") (LeavesPools pooledAreas)
      (created pooledAreas) [.addNode [{ areaId := 2, mgmtNet := "mgmt" }], .delWorkers ["k8s-vm-w-1"]] :=
  load_balancer_pools_follow_nodes_iff (fun _ => none) "K8S" pooledAreas _ (created pooledAreas)
    (eq_ok_of_not_raised (by decide +kernel)) ⟨by decide +kernel, by decide +kernel, trivial⟩

/-- Two areas with addresses have pools of one name. -/
theorem load_balancer_pools_follow_nodes_fails :
    ¬ ∀ (raises : Nat → Option PyError) (id : String) (areas : List K8sPoolArea) (calls : List K8sNodeCall) (s : K8sPools),
      (create raises id areas).run {} = .ok () s →
      AllSteps (K8sNodeCall.exec raises id) (fun call s => ¬ Raised ((call.exec raises id).run s)) s calls →
      ∀ done, done <+: calls → PoolsFollow areas (runAll (K8sNodeCall.exec raises id) s done) := by
  intro h
  have hfollow := h (fun _ => none) "K8S"
    [{ areaId := 1, isMasterArea := true, mgmtNet := "mgmt", loadBalancerPoolsIps := ["10.0.0.9"] },
      { areaId := 2, mgmtNet := "mgmt", loadBalancerPoolsIps := ["10.0.1.9"] }] [] _
    (eq_ok_of_not_raised (by decide +kernel)) trivial [] List.nil_prefix
  have hnames := hfollow.names
  revert hnames
  decide +kernel

end Calls

end K8sPools

end Nfvcl
