import Nfvcl.DestroyRetry
import Nfvcl.RangeRelease

namespace Nfvcl
set_option autoImplicit true
open Effects

/-- A K8S blueprint with its document, and the document of the topology. -/
structure K8sDestroyWorld where
  topologyOnboarded : Bool
  topology : TopologyModel
  blueprint : DestroyWorld
  deriving DecidableEq

inductive K8sDestroyError where
  | topology (e : PyError)
  | destroy (e : DestroyError)
  deriving DecidableEq

abbrev K8sDestroyM := EStateM K8sDestroyError K8sDestroyWorld

namespace K8sDestroy

/-- `build_topology()` reads the document; what the call saves is the document afterwards. -/
def onTopology (m : EStateM PyError Topology α) : K8sDestroyM α := fun s =>
  match m.run (Topology.fromDb (some s.topology)) with
  | .ok a topo => .ok a { s with topology := topo.stored.getD s.topology }
  | .error e topo => .error (.topology e) { s with topology := topo.stored.getD s.topology }

def superDestroy (fault : Option DestroyFault) : K8sDestroyM Unit := fun s =>
  match (BlueprintNG.destroy fault).run s.blueprint with
  | .ok _ w => .ok () { s with blueprint := w }
  | .error e w => .error (.destroy e) { s with blueprint := w }

/-- A `ValueError` is logged, a cluster with blueprints is raised again, any other exception passes. -/
def delCluster (services : Services) (id : String) : K8sDestroyM Unit :=
  tryCatch (onTopology (Topology.delK8scluster services id)) fun e =>
    match e with
    | .topology error => if error.isValueError then pure () else throw e
    | .destroy _ => throw e

def destroy (services : Services) (fault : Option DestroyFault) (id : String) : K8sDestroyM Unit := do
  let s ← get
  if s.topologyOnboarded then delCluster services id
  superDestroy fault
  let _ ← onTopology (Topology.releaseRanges services id none none)

theorem run_onTopology_ok {m : EStateM PyError Topology α} {s : K8sDestroyWorld}
    (h : m.run (Topology.fromDb (some s.topology)) = .ok a topo) :
    (onTopology m).run s = .ok a { s with topology := topo.stored.getD s.topology } := by
  change onTopology m s = _
  rw [onTopology, h]

theorem run_onTopology_error {m : EStateM PyError Topology α} {s : K8sDestroyWorld}
    (h : m.run (Topology.fromDb (some s.topology)) = .error e topo) :
    (onTopology m).run s = .error (.topology e) { s with topology := topo.stored.getD s.topology } := by
  change onTopology m s = _
  rw [onTopology, h]

theorem run_superDestroy_ok {s : K8sDestroyWorld} (h : (BlueprintNG.destroy fault).run s.blueprint = .ok () w) :
    (superDestroy fault).run s = .ok () { s with blueprint := w } := by
  change superDestroy fault s = _
  rw [superDestroy, h]

/-- Some cluster of that name has blueprints. -/
def HasDeployed (t : TopologyModel) (id : String) : Prop :=
  ∃ cluster ∈ t.kubernetes, cluster.name = id ∧ cluster.deployedBlueprints ≠ []

/-- With blueprints on the cluster the call raises and changes nothing, else nothing is left. -/
def DestroysAll (services : Services) (fault : Option DestroyFault) (id : String) (s : K8sDestroyWorld) : Prop :=
  (HasDeployed s.topology id → ∃ e, (destroy services fault id).run s = .error e s) ∧
  (¬ HasDeployed s.topology id → ∃ s', (destroy services fault id).run s = .ok () s' ∧
    (∀ cluster ∈ s'.topology.kubernetes, cluster.name ≠ id) ∧
    (∀ network ∈ s'.topology.networks, ∀ range ∈ network.reservedRanges, range.owner ≠ id) ∧
    s'.blueprint.doc = none)

/-- How many ranges an owner has in all the networks. -/
def owned (networks : List NetworkModel) (owner : String) : Nat :=
  (networks.flatMap NetworkModel.reservedRanges).countP (fun range => decide (range.owner = owner))

/-- The cluster was onboarded, and of the clusters of its name the first has blueprints if one has. Without
blueprints: there is one such cluster if it was onboarded and none else, and the blueprint owns at most one range,
with no range in front of it that has an end in it. -/
def Clear (onboarded : Bool) (t : TopologyModel) (id : String) : Prop :=
  (HasDeployed t id → onboarded = true ∧
    ∃ cluster, KeyedList.toMap TopologyK8sModel.name t.kubernetes id = some cluster ∧ cluster.deployedBlueprints ≠ []) ∧
  (¬ HasDeployed t id →
    t.kubernetes.countP (fun cluster => decide (cluster.name = id)) = (if onboarded then 1 else 0) ∧
      owned t.networks id ≤ 1 ∧ ReleaseClear id none t.networks)

/-! ### The release of the ranges -/

section Ranges

variable {networks : List NetworkModel} {id : String}

theorem owned_eq_zero : owned networks id = 0 ↔
    ∀ network ∈ networks, ∀ range ∈ network.reservedRanges, range.owner ≠ id := by
  rw [owned, List.countP_eq_zero]
  simp only [List.mem_flatMap, decide_eq_true_eq]
  exact ⟨fun h network hn range hr => h range ⟨network, hn, hr⟩, fun h range ⟨network, hn, hr⟩ => h network hn range hr⟩

theorem owned_of_find_none (h : networks.find? (holds id none) = none) : owned networks id = 0 := by
  rw [owned_eq_zero]
  intro network hn range hr howner
  exact not_found_of_find_none h hn hr (asked_none.1 ⟨howner, fun q hq => (nomatch hq)⟩)

/-- Taking one range out of a network. -/
theorem owned_set (hi : networks[i]? = some n) (hn : n.reservedRanges = before ++ x :: after)
    (hn' : n'.reservedRanges = before ++ after) :
    owned (networks.set i n') id + (if x.owner = id then 1 else 0) = owned networks id := by
  have hlt := (List.getElem?_eq_some_iff.1 hi).1
  have hget : networks[i] = n := Option.some.inj ((List.getElem?_eq_getElem hlt).symm.trans hi)
  obtain ⟨front, back, hsplit, -, hset⟩ : ∃ front back, networks = front ++ networks[i] :: back ∧ front.length = i ∧
      networks.set i n' = front ++ n' :: back := List.exists_of_set hlt
  rw [hget] at hsplit
  rw [owned, owned, hset, hsplit]
  simp only [List.flatMap_append, List.flatMap_cons, List.countP_append, List.countP_cons, hn, hn', decide_eq_true_eq]
  omega

/-- The range that is taken out is the owner's when none in front of the owner's first has an end in it. -/
theorem removed_owner_iff (hn : networks.find? (holds id none) = some n) (hr : n.reservedRanges.find? (found id none) = some r)
    (hsplit : n.reservedRanges = before ++ x :: after) (hx : x = r ∨ x.overlaps r = true)
    (hbefore : ∀ y ∈ before, ¬ (y = r ∨ y.overlaps r = true)) : x.owner = id ↔ ReleaseClear id none networks := by
  obtain ⟨hfound, front, back, hfirst, hfront⟩ := List.find?_eq_some_iff_append.1 hr
  have howner : r.owner = id := of_decide_eq_true hfound
  have hother : ∀ y ∈ front, y.owner ≠ id := by
    intro y hy
    simpa [found] using hfront y hy
  have htake : n.reservedRanges.takeWhile (fun x => decide (x.owner ≠ id)) = front := by
    rw [hfirst, List.takeWhile_append_of_pos (fun y hy => by simpa using hother y hy),
      List.takeWhile_cons_of_neg (by simpa using howner), List.append_nil]
  have hclear : ReleaseClear id none networks ↔ ∀ y ∈ front, y.overlaps r = false := by
    simp only [ReleaseClear, hn, hr, htake, Option.mem_def, Option.some.injEq, forall_eq']
  rw [hclear]
  rw [hfirst] at hsplit
  rcases List.append_eq_append_iff.1 hsplit with ⟨l, rfl, hl⟩ | ⟨l, rfl, hl⟩
  · refine iff_of_true ?_ (fun y hy => Bool.eq_false_iff.2 (fun h => hbefore y (List.mem_append_left l hy) (.inr h)))
    cases l with
    | nil =>
      cases hl
      exact howner
    | cons z l =>
      cases hl
      exact absurd (.inl rfl) (hbefore r (List.mem_append_right front List.mem_cons_self))
  · cases l with
    | nil =>
      cases hl
      rw [List.append_nil]
      exact iff_of_true howner (fun y hy => Bool.eq_false_iff.2 (fun h => hbefore y hy (.inr h)))
    | cons z l =>
      cases hl
      have hin : x ∈ before ++ x :: l := List.mem_append_right before List.mem_cons_self
      refine iff_of_false (hother x hin) (fun hall => ?_)
      rcases hx with rfl | hov
      · exact hother x hin howner
      · rw [hall x hin] at hov
        cases hov

theorem releaseRanges_run (services : Services) (hpub : ∀ t', services.publish .deleteRangeRes (some t') = none) (t : TopologyModel)
    (id : String) :
    ((Topology.releaseRanges services id none none).run (Topology.fromDb (some t)) = .ok none ⟨some t, some t⟩ ∧
      t.networks.find? (holds id none) = none) ∨
    ∃ i n r, t.networks[i]? = some n ∧ t.networks.find? (holds id none) = some n ∧
      n.reservedRanges.find? (found id none) = some r ∧
      (Topology.releaseRanges services id none none).run (Topology.fromDb (some t)) =
        .ok (some r) ⟨some { t with networks := t.networks.set i (n.without r) },
          some { t with networks := t.networks.set i (n.without r) }⟩ := by
  have hown : OwnRange id none := fun q hq => (nomatch hq)
  rcases releaseInNetworks_eq hown t.networks with ⟨hnone, hfind⟩ | ⟨i, n, r, hi, hn, hr, hsome⟩
  · refine .inl ⟨?_, hfind⟩
    simp only [Topology.releaseRanges, Topology.fromDb, EStateM.run_bind, Topology.onModel_run, TopologyModel.releaseRanges,
      EStateM.run_get, hnone]
    rfl
  · refine .inr ⟨i, n, r, hi, hn, hr, ?_⟩
    simp only [Topology.releaseRanges, Topology.fromDb, EStateM.run_bind, Topology.onModel_run, TopologyModel.releaseRanges,
      EStateM.run_get, hsome, EStateM.run_set, EStateM.run_pure, Topology.saveTopologyFromModel_run,
      Topology.triggerRedisEvent_run, hpub]

/-- What is left of the owner's ranges. -/
theorem released (services : Services) (hpub : ∀ t', services.publish .deleteRangeRes (some t') = none) (t : TopologyModel) (id : String) :
    ∃ removed t', (Topology.releaseRanges services id none none).run (Topology.fromDb (some t)) = .ok removed ⟨some t', some t'⟩ ∧
      t'.kubernetes = t.kubernetes ∧
      (owned t'.networks id = 0 ↔ owned t.networks id ≤ 1 ∧ ReleaseClear id none t.networks) := by
  rcases releaseRanges_run services hpub t id with ⟨hrun, hfind⟩ | ⟨i, n, r, hi, hn, hr, hrun⟩
  · refine ⟨none, t, hrun, rfl, iff_of_true (owned_of_find_none hfind) ⟨?_, ?_⟩⟩
    · rw [owned_of_find_none hfind]
      exact Nat.zero_le 1
    · intro n hn
      rw [hfind] at hn
      exact (nomatch hn)
  · refine ⟨some r, _, hrun, rfl, ?_⟩
    obtain ⟨before, x, after, hsplit, hx, hbefore, hremove⟩ := removeOverlapping_mem (List.mem_of_find?_eq_some hr)
    have hcount : owned (t.networks.set i (n.without r)) id + (if x.owner = id then 1 else 0) = owned t.networks id :=
      owned_set hi hsplit hremove
    have hpos : owned t.networks id ≠ 0 := by
      intro hzero
      have hmem := List.mem_of_find?_eq_some hr
      have hfound := List.find?_some hr
      exact owned_eq_zero.1 hzero n (List.mem_of_find?_eq_some hn) r hmem (of_decide_eq_true hfound)
    rw [← removed_owner_iff hn hr hsplit hx hbefore]
    dsimp only
    split at hcount
    · rename_i howner
      rw [and_iff_left howner]
      omega
    · rename_i howner
      refine iff_of_false ?_ (fun h => howner h.2)
      omega

end Ranges

/-! ### The cluster in the topology -/

section Cluster

variable {services : Services} {fault : Option DestroyFault} {id : String} {s : K8sDestroyWorld}

theorem delK8scluster_run (hpub : ∀ t', services.publish .deleteK8s (some t') = none) (t : TopologyModel) (id : String) :
    (Topology.delK8scluster services id).run (Topology.fromDb (some t)) =
      match KeyedList.toMap TopologyK8sModel.name t.kubernetes id with
      | none => .error (.topoK8SNotFound s!"The K8s cluster ->{id}<- was not found in the topology.") ⟨some t, some t⟩
      | some cluster =>
        if cluster.deployedBlueprints.length > 0 then
          .error (.topoK8SHasBlueprint "The cluster has blueprints deployed in it.") ⟨some t, some t⟩
        else
          .ok () ⟨some { t with kubernetes := KeyedList.erase TopologyK8sModel.name t.kubernetes id },
            some { t with kubernetes := KeyedList.erase TopologyK8sModel.name t.kubernetes id }⟩ := by
  have hmodel : (TopologyModel.delK8sCluster id).run t = _ := TopologyModel.k8sColl.guarded_remove_run
    (fun n => .topoK8SNotFound s!"The K8s cluster ->{n}<- was not found in the topology.") t id
    (fun cluster => cluster.deployedBlueprints.length > 0) (.topoK8SHasBlueprint "The cluster has blueprints deployed in it.")
  rw [Topology.delK8scluster, Topology.fromDb, EStateM.run_bind, Topology.onModel_run]
  cases hcluster : KeyedList.toMap TopologyK8sModel.name t.kubernetes id with
  | none =>
    simp only [TopologyModel.k8sColl, hcluster] at hmodel
    rw [hmodel]
  | some cluster =>
    simp only [TopologyModel.k8sColl, hcluster] at hmodel
    rw [hmodel]
    dsimp only
    by_cases hdeployed : cluster.deployedBlueprints.length > 0
    · rw [if_pos hdeployed, if_pos hdeployed]
    · rw [if_neg hdeployed, if_neg hdeployed]
      simp only [EStateM.run_bind, Topology.saveTopologyFromModel_run, Topology.triggerRedisEvent_run, hpub]

theorem delCluster_run (id : String) (hpub : ∀ t', services.publish .deleteK8s (some t') = none) :
    (delCluster services id).run s =
      match KeyedList.toMap TopologyK8sModel.name s.topology.kubernetes id with
      | none => .error (.topology (.topoK8SNotFound s!"The K8s cluster ->{id}<- was not found in the topology.")) s
      | some cluster =>
        if cluster.deployedBlueprints.length > 0 then
          .error (.topology (.topoK8SHasBlueprint "The cluster has blueprints deployed in it.")) s
        else
          .ok () { s with topology :=
            { s.topology with kubernetes := KeyedList.erase TopologyK8sModel.name s.topology.kubernetes id } } := by
  have hdel := delK8scluster_run hpub s.topology id
  rw [delCluster, run_tryCatch]
  cases hcluster : KeyedList.toMap TopologyK8sModel.name s.topology.kubernetes id with
  | none =>
    rw [hcluster] at hdel
    rw [run_onTopology_error hdel]
    rfl
  | some cluster =>
    rw [hcluster] at hdel
    dsimp only at hdel ⊢
    by_cases hdeployed : cluster.deployedBlueprints.length > 0
    · rw [if_pos hdeployed] at hdel ⊢
      rw [run_onTopology_error hdel]
      rfl
    · rw [if_neg hdeployed] at hdel ⊢
      rw [run_onTopology_ok hdel]
      rfl

/-- What follows once the cluster is out of the topology. -/
def cleanup (services : Services) (fault : Option DestroyFault) (id : String) : K8sDestroyM Unit := do
  superDestroy fault
  let _ ← onTopology (Topology.releaseRanges services id none none)

theorem destroy_doc {w w' : DestroyWorld} (h : (BlueprintNG.destroy fault).run w = .ok () w') : w'.doc = none := by
  obtain ⟨_, s₀, -, h⟩ := bind_ok_inv h
  obtain ⟨_, s₁, -, h⟩ := bind_ok_inv h
  obtain ⟨_, s₂, -, h⟩ := bind_ok_inv h
  obtain ⟨_, s₃, -, h⟩ := bind_ok_inv h
  obtain ⟨_, s₄, -, h⟩ := bind_ok_inv h
  cases h
  rfl

theorem cleanup_run (id : String) (hpub : ∀ t', services.publish .deleteRangeRes (some t') = none)
    (hprovider : ¬ Raised ((BlueprintNG.destroy fault).run s.blueprint)) :
    ∃ s', (cleanup services fault id).run s = .ok () s' ∧ s'.topology.kubernetes = s.topology.kubernetes ∧ s'.blueprint.doc = none ∧
      (owned s'.topology.networks id = 0 ↔ owned s.topology.networks id ≤ 1 ∧ ReleaseClear id none s.topology.networks) := by
  have hdestroy := eq_ok_of_not_raised hprovider
  obtain ⟨removed, t', hrelease, hkubernetes, howned⟩ := released services hpub s.topology id
  have hrun : (onTopology (Topology.releaseRanges services id none none)).run
      { s with blueprint := finalState ((BlueprintNG.destroy fault).run s.blueprint) } = _ := run_onTopology_ok hrelease
  refine ⟨{ s with topology := t', blueprint := finalState ((BlueprintNG.destroy fault).run s.blueprint) }, ?_, hkubernetes,
    destroy_doc hdestroy, howned⟩
  rw [cleanup, run_bind_ok _ _ (run_superDestroy_ok hdestroy)]
  exact run_bind_ok _ _ hrun

theorem destroy_run (services : Services) (fault : Option DestroyFault) (id : String) (s : K8sDestroyWorld) :
    (destroy services fault id).run s =
      if s.topologyOnboarded then (delCluster services id >>= fun _ => cleanup services fault id).run s
      else (cleanup services fault id).run s := by
  rw [destroy, EStateM.run_bind, EStateM.run_get]
  dsimp only
  split
  · rfl
  · rfl

theorem countP_cluster_eq_zero {clusters : List TopologyK8sModel} :
    clusters.countP (fun cluster => decide (cluster.name = id)) = 0 ↔ ∀ cluster ∈ clusters, cluster.name ≠ id := by
  rw [List.countP_eq_zero]
  simp only [decide_eq_true_eq]

theorem countP_cluster_erase {clusters : List TopologyK8sModel} (h : KeyedList.toMap TopologyK8sModel.name clusters id = some cluster) :
    clusters.countP (fun cluster => decide (cluster.name = id)) =
      (KeyedList.erase TopologyK8sModel.name clusters id).countP (fun cluster => decide (cluster.name = id)) + 1 := by
  rw [(KeyedList.perm_cons_erase h).countP_eq, List.countP_cons_of_pos (by exact decide_eq_true (KeyedList.toMap_some_key h))]

variable (hpub : ∀ event t', services.publish event (some t') = none)
  (hprovider : ¬ Raised ((BlueprintNG.destroy fault).run s.blueprint))

include hpub hprovider

theorem notOnboarded_iff (hno : s.topologyOnboarded = false) : DestroysAll services fault id s ↔ Clear false s.topology id := by
  obtain ⟨s', hcleanup, hkubernetes, hdoc, howned⟩ := cleanup_run id (hpub .deleteRangeRes) hprovider
  have hrun : (destroy services fault id).run s = .ok () s' := by
    rw [destroy_run, hno, if_neg Bool.false_ne_true, hcleanup]
  refine and_congr (forall_congr' fun hdeployed => ?_) (forall_congr' fun hnone => ?_)
  · refine iff_of_false ?_ (fun h => Bool.false_ne_true h.1)
    rintro ⟨e, he⟩
    rw [hrun] at he
    cases he
  · rw [if_neg Bool.false_ne_true, countP_cluster_eq_zero, ← howned, owned_eq_zero, ← hkubernetes]
    constructor
    · rintro ⟨s'', hrun', hclusters, hranges, -⟩
      rw [hrun] at hrun'
      cases hrun'
      exact ⟨hclusters, hranges⟩
    · rintro ⟨hclusters, hranges⟩
      exact ⟨s', hrun, hclusters, hranges, hdoc⟩

theorem onboarded_iff (hyes : s.topologyOnboarded = true) : DestroysAll services fault id s ↔ Clear true s.topology id := by
  have hdel := delCluster_run (s := s) id (hpub .deleteK8s)
  have hrun : (destroy services fault id).run s = (delCluster services id >>= fun _ => cleanup services fault id).run s := by
    rw [destroy_run, if_pos hyes]
  cases hcluster : KeyedList.toMap TopologyK8sModel.name s.topology.kubernetes id with
  | none =>
    rw [hcluster] at hdel
    have habsent := KeyedList.toMap_eq_none.1 hcluster
    have hraised := hrun.trans (run_bind_error _ _ hdel)
    refine and_congr (forall_congr' ?_) (forall_congr' fun _ => ?_)
    · rintro ⟨cluster, hmem, hname, -⟩
      exact absurd hname (habsent cluster hmem)
    · refine iff_of_false ?_ ?_
      · rintro ⟨s', hok, -⟩
        rw [hraised] at hok
        cases hok
      · rintro ⟨hcount, -⟩
        rw [countP_cluster_eq_zero.2 habsent] at hcount
        cases hcount
  | some cluster =>
    rw [hcluster] at hdel
    dsimp only at hdel
    have hmem := KeyedList.toMap_some_mem hcluster
    have hname := KeyedList.toMap_some_key hcluster
    by_cases hdeployed : cluster.deployedBlueprints.length > 0
    · rw [if_pos hdeployed] at hdel
      have hraised := hrun.trans (run_bind_error _ _ hdel)
      have hne : cluster.deployedBlueprints ≠ [] := List.ne_nil_of_length_pos hdeployed
      refine and_congr (forall_congr' fun _ => ?_) (forall_congr' fun hnone => ?_)
      · exact iff_of_true ⟨_, hraised⟩ ⟨rfl, cluster, hcluster, hne⟩
      · exact absurd ⟨cluster, hmem, hname, hne⟩ hnone
    · rw [if_neg hdeployed] at hdel
      have hnil : cluster.deployedBlueprints = [] := List.eq_nil_of_length_eq_zero (Nat.eq_zero_of_not_pos hdeployed)
      obtain ⟨s', hcleanup, hkubernetes, hdoc, howned⟩ := cleanup_run id (hpub .deleteRangeRes)
        (s := { s with topology :=
          { s.topology with kubernetes := KeyedList.erase TopologyK8sModel.name s.topology.kubernetes id } }) hprovider
      have hok := hrun.trans ((run_bind_ok _ _ hdel).trans hcleanup)
      refine and_congr (forall_congr' fun _ => ?_) (forall_congr' fun _ => ?_)
      · refine iff_of_false ?_ ?_
        · rintro ⟨e, he⟩
          rw [hok] at he
          cases he
        · rintro ⟨-, other, hother, hne⟩
          rw [hcluster] at hother
          obtain rfl := Option.some.inj hother
          exact hne hnil
      · have hcount : s.topology.kubernetes.countP (fun cluster => decide (cluster.name = id)) = 1 ↔
            ∀ cluster ∈ s'.topology.kubernetes, cluster.name ≠ id := by
          rw [countP_cluster_erase hcluster, hkubernetes, ← countP_cluster_eq_zero]
          exact Nat.succ_inj
        rw [if_pos rfl, hcount, ← howned, owned_eq_zero]
        constructor
        · rintro ⟨s'', hok', hclusters, hranges, -⟩
          rw [hok] at hok'
          cases hok'
          exact ⟨hclusters, hranges⟩
        · rintro ⟨hclusters, hranges⟩
          exact ⟨s', hok, hclusters, hranges, hdoc⟩

theorem destroysAll_iff : DestroysAll services fault id s ↔ Clear s.topologyOnboarded s.topology id := by
  cases honboarded : s.topologyOnboarded with
  | false => exact notOnboarded_iff hpub hprovider honboarded
  | true => exact onboarded_iff hpub hprovider honboarded

end Cluster

/-- The destruction releases everything exactly when the cluster is in the topology as it was onboarded and the blueprint
owns at most one range. -/
theorem k8s_destroy_releases_iff (services : Services) (hpub : ∀ event t', services.publish event (some t') = none)
    (fault : Option DestroyFault) (id : String) (s : K8sDestroyWorld)
    (hprovider : ¬ Raised ((BlueprintNG.destroy fault).run s.blueprint)) :
    DestroysAll services fault id s ↔ Clear s.topologyOnboarded s.topology id :=
  destroysAll_iff hpub hprovider

/-- An onboarded blueprint without resources, in a topology without its cluster. -/
def removedCluster : K8sDestroyWorld :=
  { topologyOnboarded := true, topology := {}, blueprint := { blueprint := {}, doc := some {}, alive := [], children := [] } }

theorem k8s_destroy_releases_removed :
    DestroysAll {} none "K8S" removedCluster ↔ Clear removedCluster.topologyOnboarded removedCluster.topology "K8S" :=
  k8s_destroy_releases_iff {} (fun _ _ => rfl) none "K8S" removedCluster (by decide +kernel)

/-- The exception for a cluster that is not found is no `ValueError`. -/
theorem k8s_destroy_releases_fails :
    ¬ ∀ (services : Services), (∀ event t', services.publish event (some t') = none) →
      ∀ (fault : Option DestroyFault) (id : String) (s : K8sDestroyWorld),
        ¬ Raised ((BlueprintNG.destroy fault).run s.blueprint) → DestroysAll services fault id s := by
  intro h
  have hall := h {} (fun _ _ => rfl) none "K8S" removedCluster (by decide +kernel)
  have hclear := (destroysAll_iff (fun _ _ => rfl) (by decide +kernel)).1 hall
  have hnone : ¬ HasDeployed removedCluster.topology "K8S" := by
    rintro ⟨cluster, hmem, -⟩
    exact (nomatch hmem)
  exact absurd (hclear.2 hnone).1 (by decide)

end K8sDestroy

end Nfvcl
