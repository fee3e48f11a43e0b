import Mathlib.Data.List.Basic
import Nfvcl.Dicts
import Nfvcl.Maintained
import Nfvcl.TopologyModel

namespace Nfvcl
set_option autoImplicit true

open Effects

namespace K8sCharts

/-- The name and the namespace of a helm release, in lower case. -/
structure Release where
  name : String
  inNamespace : String
  deriving DecidableEq, Repr

/-- A chart that a blueprint has installed, with the credentials it was installed through. -/
structure InstalledChart where
  blueprintId : String
  credentials : String
  release : Release
  deriving DecidableEq, Repr

/-- The provider of a blueprint for an area; its helm client is known by its credential file. -/
structure K8SProviderNative where
  k8sCluster : TopologyK8sModel
  helmClient : String
  namespaces : List String
  deriving DecidableEq, Repr

/-- The topology, the helm clients of the process and their credential files, the providers and the charts that are
installed. -/
structure K8sWorld where
  topology : TopologyModel
  helmClientDict : Dict Int String
  credentialFiles : Dict String String
  providers : Dict (String × Int) K8SProviderNative
  charts : List InstalledChart

abbrev K8sCalls := EStateM PyError K8sWorld

def K8sWorld.clusterOf (s : K8sWorld) (area : Int) : Option TopologyK8sModel :=
  s.topology.kubernetes.find? (fun c => decide (area ∈ c.areas))

/-- What a credential file holds; a new file is empty. -/
def K8sWorld.contentOf (s : K8sWorld) (file : String) : String :=
  (s.credentialFiles.get? file).getD ""

/-- The `get_k8s_cluster_by_area` of the REST endpoints. -/
def getK8sClusterByArea (area : Int) : K8sCalls TopologyK8sModel := do
  match (← get).clusterOf area with
  | some cluster => return cluster
  | none => throw (.external s!"K8s cluster not found in area {area}")

def credentialFile (cluster : TopologyK8sModel) : String :=
  "k8s_credential_" ++ cluster.name

def createTmpFile (file : String) (s : K8sWorld) : K8sWorld :=
  { s with credentialFiles := if file ∈ s.credentialFiles.keys then s.credentialFiles else s.credentialFiles.set file "" }

def buildHelmClient (area : Int) (path content : String) (s : K8sWorld) : K8sWorld :=
  { s with credentialFiles := s.credentialFiles.set path content, helmClientDict := s.helmClientDict.set area path }

/-- The client of an area is built again when the cluster of the area has another name. -/
def getHelmClientByArea (area : Int) : K8sCalls String := do
  let cluster ← getK8sClusterByArea area
  let path := credentialFile cluster
  modify (createTmpFile path)
  if (← get).helmClientDict.get? area ≠ some path then
    modify (buildHelmClient area path cluster.credentials)
  return path

def getK8sProvider (blueprintId : String) (area : Int) : K8sCalls K8SProviderNative := do
  match (← get).providers.get? (blueprintId, area) with
  | some provider => return provider
  | none =>
    let cluster ← getK8sClusterByArea area
    let client ← getHelmClientByArea area
    let provider : K8SProviderNative := { k8sCluster := cluster, helmClient := client, namespaces := [] }
    modify fun s => { s with providers := s.providers.set (blueprintId, area) provider }
    return provider

def K8sWorld.withTopology (s : K8sWorld) (t : TopologyModel) : K8sWorld :=
  { s with topology := t }

def onTopology (m : EStateM PyError TopologyModel α) : K8sCalls α :=
  zoom K8sWorld.topology (fun t s => s.withTopology t) m

def raiseIf (e : Option PyError) : K8sCalls Unit :=
  match e with
  | some e => throw e
  | none => pure ()

/-- What the cluster and the database answer to a call: `helm` before the release is as asked for (a call that raises
leaves it as it was), `saved` once it is and before the topology is read, `services` after the topology is written. -/
structure Answers where
  helm : Option PyError := none
  saved : Option PyError := none
  services : Option PyError := none
  deriving DecidableEq, Repr

def addChart (chart : InstalledChart) (s : K8sWorld) : K8sWorld :=
  { s with charts := if chart ∈ s.charts then s.charts else s.charts ++ [chart] }

def removeCharts (credentials : String) (release : Release) (charts : List InstalledChart) : List InstalledChart :=
  charts.filter (fun chart => ¬ (chart.credentials = credentials ∧ chart.release = release))

def addNamespace (blueprintId : String) (area : Int) (provider : K8SProviderNative) (release : Release) (s : K8sWorld) : K8sWorld :=
  if release.inNamespace ∈ provider.namespaces then s
  else
    let listed := { provider with namespaces := provider.namespaces ++ [release.inNamespace] }
    { s with providers := s.providers.set (blueprintId, area) listed }

/-- `install_or_upgrade_release` and what follows it. -/
def installHelmChart (blueprintId : String) (area : Int) (release : Release) (a : Answers) : K8sCalls Unit := do
  let provider ← getK8sProvider blueprintId area
  raiseIf a.helm
  let s ← get
  set (addChart ⟨blueprintId, s.contentOf provider.helmClient, release⟩ s)
  modify (addNamespace blueprintId area provider release)
  raiseIf a.saved
  let cluster ← onTopology (TopologyModel.findK8sClusterByArea area)
  let _ ← onTopology (TopologyModel.updK8sCluster
    { cluster with deployedBlueprints := cluster.deployedBlueprints ++ [blueprintId] })
  raiseIf a.services

/-- The `ValueError` of a blueprint that is not listed is caught; nothing is saved then. -/
def uninstallHelmChart (blueprintId : String) (area : Int) (release : Release) (a : Answers) : K8sCalls Unit := do
  let provider ← getK8sProvider blueprintId area
  raiseIf a.helm
  let s ← get
  set { s with charts := removeCharts (s.contentOf provider.helmClient) release s.charts }
  raiseIf a.saved
  let cluster ← onTopology (TopologyModel.findK8sClusterByArea area)
  if blueprintId ∈ cluster.deployedBlueprints then
    let _ ← onTopology (TopologyModel.updK8sCluster
      { cluster with deployedBlueprints := cluster.deployedBlueprints.erase blueprintId })

inductive Op where
  | installHelmChart (blueprintId : String) (area : Int) (release : Release) (a : Answers)
  | uninstallHelmChart (blueprintId : String) (area : Int) (release : Release) (a : Answers)
  | addK8scluster (cluster : TopologyK8sModel)
  | delK8scluster (name : String)
  | updateK8scluster (cluster : TopologyK8sModel)

def Op.exec : Op → K8sCalls Unit
  | .installHelmChart blueprintId area release a => K8sCharts.installHelmChart blueprintId area release a
  | .uninstallHelmChart blueprintId area release a => K8sCharts.uninstallHelmChart blueprintId area release a
  | .addK8scluster cluster => onTopology (TopologyModel.addK8sCluster cluster)
  | .delK8scluster name => do
    let _ ← onTopology (TopologyModel.delK8sCluster name)
  | .updateK8scluster cluster => do
    let _ ← onTopology (TopologyModel.updK8sCluster cluster)

/-! ### The list of a cluster -/

/-- A blueprint has a chart installed through the credentials. -/
def HasChart (charts : List InstalledChart) (credentials blueprintId : String) : Prop :=
  ∃ chart ∈ charts, chart.blueprintId = blueprintId ∧ chart.credentials = credentials

instance (charts : List InstalledChart) (credentials blueprintId : String) : Decidable (HasChart charts credentials blueprintId) :=
  inferInstanceAs (Decidable (∃ chart ∈ charts, chart.blueprintId = blueprintId ∧ chart.credentials = credentials))

/-- The list has exactly the blueprints with a chart installed through the credentials. -/
def ListsCharts (charts : List InstalledChart) (credentials : String) (deployed : List String) : Prop :=
  ∀ b, b ∈ deployed ↔ HasChart charts credentials b

def Recorded (s : K8sWorld) : Prop :=
  ∀ c ∈ s.topology.kubernetes, ListsCharts s.charts c.credentials c.deployedBlueprints

theorem hasChart_add (chart : InstalledChart) (s : K8sWorld) (credentials b : String) :
    HasChart (addChart chart s).charts credentials b ↔
      HasChart s.charts credentials b ∨ chart.blueprintId = b ∧ chart.credentials = credentials := by
  unfold HasChart addChart
  constructor
  · rintro ⟨other, hother, hof⟩
    have hmem : other ∈ s.charts ∨ other = chart := by
      by_cases hchart : chart ∈ s.charts
      · exact .inl (by rwa [if_pos hchart] at hother)
      · rw [if_neg hchart, List.mem_append, List.mem_singleton] at hother
        exact hother
    rcases hmem with hmem | rfl
    · exact .inl ⟨other, hmem, hof⟩
    · exact .inr hof
  · have hall : ∀ other, other = chart ∨ other ∈ s.charts →
        other ∈ (if chart ∈ s.charts then s.charts else s.charts ++ [chart]) := by
      intro other hother
      split
      · rename_i hchart
        exact hother.elim (fun heq => by rw [heq]; exact hchart) id
      · exact List.mem_append.2 (hother.symm.imp id List.mem_singleton.2)
    rintro (⟨other, hother, hof⟩ | hof)
    · exact ⟨other, hall other (.inr hother), hof⟩
    · exact ⟨chart, hall chart (.inl rfl), hof⟩

theorem hasChart_of_remove (h : HasChart (removeCharts credentials' release charts) credentials b) : HasChart charts credentials b := by
  obtain ⟨chart, hchart, hof⟩ := h
  exact ⟨chart, List.mem_of_mem_filter hchart, hof⟩

/-- A list stays exact under one more chart if it gets the blueprint, unless it has it, exactly for its credentials. -/
theorem listsCharts_install (h : ListsCharts s.charts credentials deployed) (chart : InstalledChart) (listed : Prop) [Decidable listed] :
    ListsCharts (addChart chart s).charts credentials (if listed then deployed ++ [chart.blueprintId] else deployed) ↔
      (chart.blueprintId ∉ deployed → (listed ↔ credentials = chart.credentials)) := by
  have hmem : ∀ b, b ∈ (if listed then deployed ++ [chart.blueprintId] else deployed) ↔
      b ∈ deployed ∨ listed ∧ chart.blueprintId = b := by
    intro b
    split
    · rename_i hlisted
      rw [List.mem_append, List.mem_singleton]
      exact or_congr_right ⟨fun heq => ⟨hlisted, heq.symm⟩, fun hboth => hboth.2.symm⟩
    · rename_i hlisted
      exact ⟨.inl, fun hor => hor.resolve_right (fun hboth => hlisted hboth.1)⟩
  constructor
  · intro hafter hnot
    have hb := hafter chart.blueprintId
    rw [hmem, hasChart_add, ← h] at hb
    constructor
    · intro hlisted
      exact ((hb.1 (.inr ⟨hlisted, rfl⟩)).resolve_left hnot).2.symm
    · intro heq
      exact ((hb.2 (.inr ⟨rfl, heq.symm⟩)).resolve_left hnot).1
  · intro hiff b
    rw [hmem, hasChart_add, ← h]
    by_cases hb : b ∈ deployed
    · exact iff_of_true (.inl hb) (.inl hb)
    · rw [or_iff_right hb, or_iff_right hb]
      constructor
      · rintro ⟨hlisted, rfl⟩
        exact ⟨rfl, ((hiff hb).1 hlisted).symm⟩
      · rintro ⟨rfl, heq⟩
        exact ⟨(hiff hb).2 heq.symm, rfl⟩

/-- A list stays exact when charts go if the others it has keep a chart and the blueprint goes with its last one. -/
theorem listsCharts_uninstall (h : ListsCharts charts credentials deployed) (hsub : ∀ b, HasChart charts' credentials b → HasChart charts credentials b)
    (b : String) (listed : Prop) [Decidable listed] :
    ListsCharts charts' credentials (if listed then deployed.erase b else deployed) ↔
      (∀ other ∈ deployed, other ≠ b → HasChart charts' credentials other) ∧
      (b ∈ deployed → (listed ∧ deployed.count b = 1 ↔ ¬ HasChart charts' credentials b)) := by
  have hmem : ∀ other, other ∈ (if listed then deployed.erase b else deployed) ↔
      other ∈ deployed ∧ ¬ (other = b ∧ listed ∧ deployed.count b = 1) := by
    intro other
    split
    · rename_i hlisted
      by_cases hother : other = b
      · subst hother
        rw [← List.count_pos_iff, List.count_erase_self, ← List.count_pos_iff]
        constructor
        · intro hpos
          exact ⟨by omega, fun hone => by omega⟩
        · rintro ⟨hpos, hone⟩
          have hne : deployed.count other ≠ 1 := fun heq => hone ⟨rfl, hlisted, heq⟩
          omega
      · rw [List.mem_erase_of_ne hother]
        exact (and_iff_left (fun hboth => hother hboth.1)).symm
    · rename_i hlisted
      exact (and_iff_left (fun hboth => hlisted hboth.2.1)).symm
  constructor
  · intro hafter
    refine ⟨fun other hother hne => ?_, fun hb => ?_⟩
    · exact (hafter other).1 ((hmem other).2 ⟨hother, fun hboth => hne hboth.1⟩)
    · rw [← hafter b, hmem b, and_iff_right hb, not_not]
      exact (and_iff_right rfl).symm
  · rintro ⟨hothers, hone⟩ other
    rw [hmem other]
    by_cases hother : other ∈ deployed
    · rw [and_iff_right hother]
      by_cases hne : other = b
      · subst hne
        rw [and_iff_right rfl, hone hother, not_not]
      · exact iff_of_true (fun hboth => hne hboth.1) (hothers other hother hne)
    · exact iff_of_false (fun hboth => hother hboth.1) (fun hhas => hother ((h other).2 (hsub other hhas)))

/-! ### The clusters after a call -/

/-- The credentials that the helm client of a blueprint uses for an area, where it has one or can get one. -/
def K8sWorld.helmCredentials (s : K8sWorld) (blueprintId : String) (area : Int) : Option String :=
  match s.providers.get? (blueprintId, area) with
  | some provider => some (s.contentOf provider.helmClient)
  | none => (s.clusterOf area).map (fun c =>
    if s.helmClientDict.get? area = some (credentialFile c) then s.contentOf (credentialFile c) else c.credentials)

/-- Nothing that the lists of the clusters are compared with has changed. -/
def Same (s s' : K8sWorld) : Prop :=
  s'.topology = s.topology ∧ s'.charts = s.charts

theorem contentOf_createTmpFile (file path : String) (s : K8sWorld) :
    (createTmpFile path s).contentOf file = s.contentOf file := by
  unfold createTmpFile K8sWorld.contentOf
  split
  · rfl
  · rename_i hnot
    change ((s.credentialFiles.set path "").get? file).getD "" = _
    rw [Dict.get?_set]
    split
    · rename_i heq
      have hnone : s.credentialFiles.get? file = none := by
        cases hget : s.credentialFiles.get? file with
        | none => rfl
        | some content => exact absurd (Dict.mem_keys_iff.2 ⟨content, by rw [← heq]; exact hget⟩) hnot
      rw [hnone]
      rfl
    · rfl

theorem run_getK8sClusterByArea (h : s.clusterOf area = some c) : (getK8sClusterByArea area).run s = .ok c s := by
  unfold getK8sClusterByArea
  rw [run_bind_ok get _ rfl, h]
  rfl

theorem run_getK8sClusterByArea_none (h : s.clusterOf area = none) : ∃ e, (getK8sClusterByArea area).run s = .error e s := by
  unfold getK8sClusterByArea
  rw [run_bind_ok get _ rfl, h]
  exact ⟨_, rfl⟩

theorem run_getHelmClientByArea (h : s.clusterOf area = some c) :
    ∃ s', (getHelmClientByArea area).run s = .ok (credentialFile c) s' ∧ Same s s' ∧
      s'.contentOf (credentialFile c) =
        if s.helmClientDict.get? area = some (credentialFile c) then s.contentOf (credentialFile c) else c.credentials := by
  unfold getHelmClientByArea
  rw [run_bind_ok _ _ (run_getK8sClusterByArea h), EStateM.run_bind, EStateM.run_modify]
  have hdict : (createTmpFile (credentialFile c) s).helmClientDict = s.helmClientDict := rfl
  simp only [EStateM.run_bind, EStateM.run_get, hdict, run_ite]
  by_cases hsame : s.helmClientDict.get? area = some (credentialFile c)
  · refine ⟨createTmpFile (credentialFile c) s, ?_, ⟨rfl, rfl⟩, ?_⟩
    · rw [if_neg (not_not.2 hsame)]
      rfl
    · rw [if_pos hsame, contentOf_createTmpFile]
  · refine ⟨buildHelmClient area (credentialFile c) c.credentials (createTmpFile (credentialFile c) s), ?_, ⟨rfl, rfl⟩, ?_⟩
    · rw [if_pos hsame]
      rfl
    · rw [if_neg hsame]
      unfold K8sWorld.contentOf buildHelmClient
      rw [Dict.get?_set, if_pos rfl]
      rfl

theorem run_getK8sProvider_none (h : s.helmCredentials blueprintId area = none) :
    ∃ e, (getK8sProvider blueprintId area).run s = .error e s := by
  unfold K8sWorld.helmCredentials at h
  unfold getK8sProvider
  rw [run_bind_ok get _ rfl]
  cases hprovider : s.providers.get? (blueprintId, area) with
  | some provider =>
    rw [hprovider] at h
    cases h
  | none =>
    rw [hprovider] at h
    obtain ⟨e, he⟩ := run_getK8sClusterByArea_none (Option.map_eq_none_iff.1 h)
    exact ⟨e, run_bind_error _ _ he⟩

theorem run_getK8sProvider (h : s.helmCredentials blueprintId area = some credentials) :
    ∃ provider s', (getK8sProvider blueprintId area).run s = .ok provider s' ∧ Same s s' ∧
      s'.contentOf provider.helmClient = credentials := by
  unfold K8sWorld.helmCredentials at h
  unfold getK8sProvider
  rw [run_bind_ok get _ rfl]
  cases hprovider : s.providers.get? (blueprintId, area) with
  | some provider =>
    rw [hprovider] at h
    exact ⟨provider, s, rfl, ⟨rfl, rfl⟩, Option.some.inj h⟩
  | none =>
    rw [hprovider] at h
    obtain ⟨c, hcluster, hcredentials⟩ := Option.map_eq_some_iff.1 h
    obtain ⟨s', hrun, hsame, hcontent⟩ := run_getHelmClientByArea hcluster
    refine ⟨{ k8sCluster := c, helmClient := credentialFile c, namespaces := [] },
      { s' with providers := s'.providers.set (blueprintId, area) ⟨c, credentialFile c, []⟩ }, ?_, hsame, ?_⟩
    · exact (run_bind_ok _ _ (run_getK8sClusterByArea hcluster)).trans (run_bind_ok _ _ hrun)
    · exact hcontent.trans hcredentials

theorem run_findK8sClusterByArea (area : Int) (s : K8sWorld) :
    (onTopology (TopologyModel.findK8sClusterByArea area)).run s =
      (s.clusterOf area).elim
        (.error (.topoK8SNotFound s!"No K8S cluster has been found for area {area}") s) (fun c => .ok c s) := by
  have hmodel : (TopologyModel.findK8sClusterByArea area).run s.topology =
      (s.clusterOf area).elim (.error (.topoK8SNotFound s!"No K8S cluster has been found for area {area}") s.topology)
        (fun c => .ok c s.topology) := by
    unfold TopologyModel.findK8sClusterByArea TopologyModel.findK8sClusterIndexByArea K8sWorld.clusterOf
    rw [EStateM.run_bind, run_bind_ok get _ rfl]
    cases hfind : s.topology.kubernetes.findIdx? (fun c => decide (area ∈ c.areas)) with
    | none =>
      rw [List.find?_eq_none.2 (fun c hc => by
        have hnot := List.findIdx?_eq_none_iff.1 hfind c hc
        rw [hnot]
        exact Bool.false_ne_true)]
      rfl
    | some i =>
      obtain ⟨hlt, harea, hbefore⟩ := List.findIdx?_eq_some_iff_getElem.1 hfind
      have hget : s.topology.kubernetes.find? (fun c => decide (area ∈ c.areas)) = some s.topology.kubernetes[i] := by
        rw [List.find?_eq_some_iff_getElem]
        refine ⟨harea, i, hlt, rfl, ?_⟩
        intro j hj
        simpa using hbefore j hj
      have hitem : (TopologyModel.k8sColl.items s.topology)[i]? = some s.topology.kubernetes[i] := List.getElem?_eq_getElem hlt
      rw [hget]
      change (TopologyModel.k8sColl.getAt i).run s.topology = _
      rw [Collection.getAt_run, hitem]
      rfl
  rw [onTopology, run_zoom, hmodel]
  cases s.clusterOf area with
  | none => rfl
  | some c => rfl

/-- The clusters after one of them, if any, has got another list. -/
def relist (target : Option TopologyK8sModel) (change : List String → List String) (ks : List TopologyK8sModel) :
    List TopologyK8sModel :=
  match target with
  | some c => KeyedList.replace TopologyK8sModel.name ks { c with deployedBlueprints := change c.deployedBlueprints }
  | none => ks

/-- What is compared: the clusters and the installed charts. -/
def Leaves (s : K8sWorld) (ks : List TopologyK8sModel) (charts : List InstalledChart) : Prop :=
  s.topology.kubernetes = ks ∧ s.charts = charts

theorem run_updK8sCluster (h : KeyedList.toMap TopologyK8sModel.name s.topology.kubernetes c.name = some old) :
    (onTopology (TopologyModel.updK8sCluster c)).run s = .ok c (s.withTopology
      (TopologyModel.k8sColl.put (KeyedList.replace TopologyK8sModel.name s.topology.kubernetes c) s.topology)) := by
  have hmodel : (TopologyModel.updK8sCluster c).run s.topology = _ := TopologyModel.k8sColl.overwrite_run
    (fun n => .topoK8SNotFound s!"The K8s cluster ->{n}<- was not found in the topology.") s.topology c
  have hfound : KeyedList.toMap TopologyModel.k8sColl.key (TopologyModel.k8sColl.items s.topology)
      (TopologyModel.k8sColl.key c) = some old := h
  rw [hfound] at hmodel
  rw [onTopology, run_zoom, hmodel]
  rfl

theorem run_updK8sCluster_none (h : KeyedList.toMap TopologyK8sModel.name s.topology.kubernetes c.name = none) :
    ∃ e, (onTopology (TopologyModel.updK8sCluster c)).run s = .error e s := by
  have hmodel : (TopologyModel.updK8sCluster c).run s.topology = _ := TopologyModel.k8sColl.overwrite_run
    (fun n => .topoK8SNotFound s!"The K8s cluster ->{n}<- was not found in the topology.") s.topology c
  have hfound : KeyedList.toMap TopologyModel.k8sColl.key (TopologyModel.k8sColl.items s.topology)
      (TopologyModel.k8sColl.key c) = none := h
  rw [hfound] at hmodel
  refine ⟨.topoK8SNotFound s!"The K8s cluster ->{c.name}<- was not found in the topology.", ?_⟩
  rw [onTopology, run_zoom, hmodel]
  rfl

theorem clusterOf_mem {s : K8sWorld} (h : s.clusterOf area = some c) : c ∈ s.topology.kubernetes :=
  List.mem_of_find?_eq_some h

/-- The cluster that a call reads for its area, when it gets there. -/
def recordedAt (a : Answers) (area : Int) (s : K8sWorld) : Option TopologyK8sModel :=
  if a.saved = none then s.clusterOf area else none

theorem run_raiseIf (e : Option PyError) (s : K8sWorld) :
    (raiseIf e).run s = e.elim (.ok () s) (fun e => .error e s) := by
  cases e with
  | none => rfl
  | some e => rfl

/-- Writing the list of the cluster of an area. -/
theorem run_relist (hunique : KeyedList.Unique TopologyK8sModel.name s.topology.kubernetes) (h : s.clusterOf area = some c)
    (change : List String → List String) :
    ∃ s', (onTopology (TopologyModel.updK8sCluster { c with deployedBlueprints := change c.deployedBlueprints })).run s =
        .ok { c with deployedBlueprints := change c.deployedBlueprints } s' ∧
      Leaves s' (relist (some c) change s.topology.kubernetes) s.charts := by
  have hfound : KeyedList.toMap TopologyK8sModel.name s.topology.kubernetes c.name = some c := hunique.toMap_mem (clusterOf_mem h)
  exact ⟨_, run_updK8sCluster hfound, rfl, rfl⟩

theorem addNamespace_same (blueprintId : String) (area : Int) (provider : K8SProviderNative) (release : Release) (s : K8sWorld) :
    Same s (addNamespace blueprintId area provider release s) := by
  unfold addNamespace
  split
  · exact ⟨rfl, rfl⟩
  · exact ⟨rfl, rfl⟩

/-- A call that has no helm client, or whose helm command raises, leaves clusters and charts alone. -/
def Idle (blueprintId : String) (area : Int) (a : Answers) (s : K8sWorld) : Prop :=
  s.helmCredentials blueprintId area = none ∨ a.helm ≠ none

theorem run_idle (h : Idle blueprintId area a s) (rest : K8SProviderNative → K8sCalls Unit) :
    Same s (finalState ((do let provider ← getK8sProvider blueprintId area; raiseIf a.helm; rest provider : K8sCalls Unit).run s)) := by
  cases hcredentials : s.helmCredentials blueprintId area with
  | none =>
    obtain ⟨e, he⟩ := run_getK8sProvider_none hcredentials
    rw [run_bind_error _ _ he]
    exact ⟨rfl, rfl⟩
  | some credentials =>
    obtain ⟨provider, s', hrun, hsame, -⟩ := run_getK8sProvider hcredentials
    have hhelm : a.helm ≠ none := h.resolve_left (by rw [hcredentials]; exact Option.some_ne_none _)
    obtain ⟨e, he⟩ := Option.ne_none_iff_exists'.1 hhelm
    rw [run_bind_ok _ _ hrun, run_bind_error _ _ (show (raiseIf a.helm).run s' = .error e s' by rw [he]; rfl)]
    exact hsame

theorem installHelmChart_leaves (hunique : KeyedList.Unique TopologyK8sModel.name s.topology.kubernetes)
    (hcredentials : s.helmCredentials blueprintId area = some credentials) (hhelm : a.helm = none) (release : Release) :
    Leaves (finalState ((installHelmChart blueprintId area release a).run s))
      (relist (recordedAt a area s) (fun deployed => deployed ++ [blueprintId]) s.topology.kubernetes)
      (addChart ⟨blueprintId, credentials, release⟩ s).charts := by
  obtain ⟨provider, s₁, hrun, ⟨htopology, hcharts⟩, hcontent⟩ := run_getK8sProvider hcredentials
  unfold installHelmChart
  rw [run_bind_ok _ _ hrun, run_bind_ok _ _ (show (raiseIf a.helm).run s₁ = .ok () s₁ by rw [hhelm]; rfl),
    run_bind_ok get _ rfl, hcontent, run_bind_ok (set _) _ rfl, run_bind_ok (modify _) _ rfl]
  obtain ⟨htopology', hcharts'⟩ := addNamespace_same blueprintId area provider release
    (addChart ⟨blueprintId, credentials, release⟩ s₁)
  generalize addNamespace blueprintId area provider release (addChart ⟨blueprintId, credentials, release⟩ s₁) = s₂ at *
  have hsame : s₂.topology = s.topology := htopology'.trans htopology
  have hadded : s₂.charts = (addChart ⟨blueprintId, credentials, release⟩ s).charts := by
    rw [hcharts', addChart, hcharts]
    rfl
  have hcluster : s₂.clusterOf area = s.clusterOf area := by
    unfold K8sWorld.clusterOf
    rw [hsame]
  unfold recordedAt
  cases hsaved : a.saved with
  | some e =>
    rw [if_neg (Option.some_ne_none e)]
    exact ⟨congrArg TopologyModel.kubernetes hsame, hadded⟩
  | none =>
    rw [if_pos rfl]
    change Leaves (finalState (EStateM.run (onTopology (TopologyModel.findK8sClusterByArea area) >>= _) s₂)) _ _
    rw [EStateM.run_bind, run_findK8sClusterByArea, hcluster]
    cases hfound : s.clusterOf area with
    | none => exact ⟨congrArg TopologyModel.kubernetes hsame, hadded⟩
    | some c =>
      rw [hfound] at hcluster
      obtain ⟨s₃, hupdate, hks, hcharts₃⟩ := run_relist (by rw [hsame]; exact hunique) hcluster
        (fun deployed => deployed ++ [blueprintId])
      change Leaves (finalState (EStateM.run (onTopology (TopologyModel.updK8sCluster _) >>= fun _ => raiseIf a.services) s₂)) _ _
      rw [run_bind_ok _ _ hupdate, run_raiseIf]
      rw [hsame] at hks
      cases a.services with
      | none => exact ⟨hks, hcharts₃.trans hadded⟩
      | some e => exact ⟨hks, hcharts₃.trans hadded⟩

/-- Only a cluster that lists the blueprint is written. -/
def unlistedAt (blueprintId : String) (a : Answers) (area : Int) (s : K8sWorld) : Option TopologyK8sModel :=
  (recordedAt a area s).filter (fun c => decide (blueprintId ∈ c.deployedBlueprints))

theorem uninstallHelmChart_leaves (hunique : KeyedList.Unique TopologyK8sModel.name s.topology.kubernetes)
    (hcredentials : s.helmCredentials blueprintId area = some credentials) (hhelm : a.helm = none) (release : Release) :
    Leaves (finalState ((uninstallHelmChart blueprintId area release a).run s))
      (relist (unlistedAt blueprintId a area s) (fun deployed => deployed.erase blueprintId) s.topology.kubernetes)
      (removeCharts credentials release s.charts) := by
  obtain ⟨provider, s₁, hrun, ⟨htopology, hcharts⟩, hcontent⟩ := run_getK8sProvider hcredentials
  unfold uninstallHelmChart
  rw [run_bind_ok _ _ hrun, run_bind_ok _ _ (show (raiseIf a.helm).run s₁ = .ok () s₁ by rw [hhelm]; rfl),
    run_bind_ok get _ rfl, hcontent, run_bind_ok (set _) _ rfl, hcharts]
  have hcluster : ({ s₁ with charts := removeCharts credentials release s.charts } : K8sWorld).clusterOf area = s.clusterOf area := by
    unfold K8sWorld.clusterOf
    rw [htopology]
  have hks : ({ s₁ with charts := removeCharts credentials release s.charts } : K8sWorld).topology.kubernetes =
      s.topology.kubernetes := congrArg TopologyModel.kubernetes htopology
  unfold unlistedAt recordedAt
  cases hsaved : a.saved with
  | some e =>
    rw [if_neg (Option.some_ne_none e)]
    exact ⟨hks, rfl⟩
  | none =>
    rw [if_pos rfl]
    change Leaves (finalState (EStateM.run (onTopology (TopologyModel.findK8sClusterByArea area) >>= _) _)) _ _
    rw [EStateM.run_bind, run_findK8sClusterByArea, hcluster]
    cases hfound : s.clusterOf area with
    | none => exact ⟨hks, rfl⟩
    | some c =>
      rw [hfound] at hcluster
      simp only [Option.elim_some, run_ite]
      by_cases hlisted : blueprintId ∈ c.deployedBlueprints
      · rw [if_pos hlisted, Option.filter_some, if_pos (decide_eq_true hlisted)]
        obtain ⟨s₃, hupdate, hks₃, hcharts₃⟩ := run_relist (by rw [hks]; exact hunique) hcluster
          (fun deployed => deployed.erase blueprintId)
        rw [run_bind_ok _ _ hupdate]
        rw [hks] at hks₃
        exact ⟨hks₃, hcharts₃⟩
      · rw [if_neg hlisted, Option.filter_some, if_neg (by rw [decide_eq_true_iff]; exact hlisted)]
        exact ⟨hks, rfl⟩

/-! ### What a call may do -/

/-- What keeps every list exact: a chart that is installed is recorded on the clusters of its credentials that did not
list the blueprint and on no other, one that goes is struck off where it was the last, and a record that is written
from outside lists the charts of its credentials. -/
def Op.Lists (s : K8sWorld) : Op → Prop
  | .installHelmChart blueprintId area _ a => ∀ credentials, s.helmCredentials blueprintId area = some credentials → a.helm = none →
    ∀ c ∈ s.topology.kubernetes, blueprintId ∉ c.deployedBlueprints →
      (recordedAt a area s = some c ↔ c.credentials = credentials)
  | .uninstallHelmChart blueprintId area release a => ∀ credentials, s.helmCredentials blueprintId area = some credentials →
    a.helm = none → ∀ c ∈ s.topology.kubernetes,
      (∀ other ∈ c.deployedBlueprints, other ≠ blueprintId → HasChart (removeCharts credentials release s.charts) c.credentials other) ∧
      (blueprintId ∈ c.deployedBlueprints → (recordedAt a area s = some c ∧ c.deployedBlueprints.count blueprintId = 1 ↔
        ¬ HasChart (removeCharts credentials release s.charts) c.credentials blueprintId))
  | .addK8scluster c => KeyedList.toMap TopologyK8sModel.name s.topology.kubernetes c.name = none →
    ListsCharts s.charts c.credentials c.deployedBlueprints
  | .delK8scluster _ => True
  | .updateK8scluster c => KeyedList.toMap TopologyK8sModel.name s.topology.kubernetes c.name ≠ none →
    ListsCharts s.charts c.credentials c.deployedBlueprints

/-- An uninstallation strikes the blueprint off a cluster of the credentials of its chart. -/
def Op.StaysOnCluster (s : K8sWorld) : Op → Prop
  | .uninstallHelmChart blueprintId area _ a => ∀ credentials, s.helmCredentials blueprintId area = some credentials →
    a.helm = none → ∀ c, recordedAt a area s = some c → blueprintId ∈ c.deployedBlueprints → c.credentials = credentials
  | _ => True

/-- A cluster is deleted only without charts, and an uninstallation leaves the clusters of other credentials alone. -/
def Op.KeepsGuard (s : K8sWorld) : Op → Prop
  | .uninstallHelmChart blueprintId area release a => ∀ c ∈ s.topology.kubernetes, s.helmCredentials blueprintId area ≠ some c.credentials →
    c ∈ (finalState ((Op.uninstallHelmChart blueprintId area release a).exec.run s)).topology.kubernetes
  | .delK8scluster name => ∀ c, KeyedList.toMap TopologyK8sModel.name s.topology.kubernetes name = some c →
    ¬ Raised ((Op.delK8scluster name).exec.run s) → ∀ chart ∈ s.charts, chart.credentials ≠ c.credentials
  | _ => True

theorem mem_relist {ks : List TopologyK8sModel} (hunique : KeyedList.Unique TopologyK8sModel.name ks) (hc : c ∈ ks)
    (change : List String → List String) :
    k ∈ relist (some c) change ks ↔ k = { c with deployedBlueprints := change c.deployedBlueprints } ∨ k ∈ ks ∧ k ≠ c :=
  hunique.mem_replace_iff hc rfl

theorem recorded_relist {ks : List TopologyK8sModel} (hunique : KeyedList.Unique TopologyK8sModel.name ks)
    (htarget : ∀ c, target = some c → c ∈ ks) (change : List String → List String) (charts : List InstalledChart) :
    (∀ c ∈ relist target change ks, ListsCharts charts c.credentials c.deployedBlueprints) ↔
      ∀ c ∈ ks, ListsCharts charts c.credentials (if target = some c then change c.deployedBlueprints else c.deployedBlueprints) := by
  cases target with
  | none =>
    constructor
    · intro h c hc
      rw [if_neg (fun hnone => (nomatch hnone))]
      exact h c hc
    · intro h c hc
      have hlists := h c hc
      rwa [if_neg (fun hnone => (nomatch hnone))] at hlists
  | some c₀ =>
    have hc₀ := htarget c₀ rfl
    constructor
    · intro h c hc
      by_cases heq : c₀ = c
      · subst heq
        rw [if_pos rfl]
        exact h _ ((mem_relist hunique hc₀ change).2 (.inl rfl))
      · rw [if_neg (fun hsome => heq (Option.some.inj hsome))]
        exact h c ((mem_relist hunique hc₀ change).2 (.inr ⟨hc, Ne.symm heq⟩))
    · intro h c hc
      rcases (mem_relist hunique hc₀ change).1 hc with rfl | ⟨hc, hne⟩
      · have hlists := h c₀ hc₀
        rwa [if_pos rfl] at hlists
      · have hlists := h c hc
        rwa [if_neg (fun hsome => hne (Option.some.inj hsome).symm)] at hlists

theorem recordedAt_mem {s : K8sWorld} (h : recordedAt a area s = some c) : c ∈ s.topology.kubernetes := by
  unfold recordedAt at h
  split at h
  · exact clusterOf_mem h
  · cases h

theorem unlistedAt_some_iff {s : K8sWorld} :
    unlistedAt blueprintId a area s = some c ↔ recordedAt a area s = some c ∧ blueprintId ∈ c.deployedBlueprints := by
  unfold unlistedAt
  rw [Option.filter_eq_some_iff, decide_eq_true_iff]

theorem Leaves.recorded_iff (h : Leaves s ks charts) :
    Recorded s ↔ ∀ c ∈ ks, ListsCharts charts c.credentials c.deployedBlueprints := by
  rw [← h.1, ← h.2]
  exact Iff.rfl

theorem Same.recorded_iff (h : Same s s') : Recorded s' ↔ Recorded s := by
  unfold Recorded
  rw [h.1, h.2]

theorem install_recorded_iff (hunique : KeyedList.Unique TopologyK8sModel.name s.topology.kubernetes) (h : Recorded s)
    (blueprintId : String) (area : Int) (release : Release) (a : Answers) :
    Recorded (finalState ((installHelmChart blueprintId area release a).run s)) ↔
      (Op.installHelmChart blueprintId area release a).Lists s := by
  by_cases hidle : Idle blueprintId area a s
  · have hsame : Same s (finalState ((installHelmChart blueprintId area release a).run s)) := run_idle hidle _
    rw [hsame.recorded_iff]
    refine iff_of_true h ?_
    intro credentials hcredentials hhelm
    rcases hidle with hnone | hraises
    · rw [hnone] at hcredentials
      cases hcredentials
    · exact absurd hhelm hraises
  · obtain ⟨hclient, hhelm⟩ := not_or.1 hidle
    obtain ⟨credentials, hcredentials⟩ := Option.ne_none_iff_exists'.1 hclient
    have hhelm := not_not.1 hhelm
    rw [(installHelmChart_leaves hunique hcredentials hhelm release).recorded_iff,
      recorded_relist hunique (fun c hc => recordedAt_mem hc)]
    have hone : ∀ c ∈ s.topology.kubernetes,
        (ListsCharts (addChart ⟨blueprintId, credentials, release⟩ s).charts c.credentials
          (if recordedAt a area s = some c then c.deployedBlueprints ++ [blueprintId] else c.deployedBlueprints) ↔
        (blueprintId ∉ c.deployedBlueprints → (recordedAt a area s = some c ↔ c.credentials = credentials))) :=
      fun c hc => listsCharts_install (h c hc) ⟨blueprintId, credentials, release⟩ (recordedAt a area s = some c)
    constructor
    · intro hlists credentials' hcredentials' _ c hc
      rw [hcredentials] at hcredentials'
      cases hcredentials'
      exact (hone c hc).1 (hlists c hc)
    · intro hlists c hc
      exact (hone c hc).2 (hlists credentials hcredentials hhelm c hc)

theorem uninstall_recorded_iff (hunique : KeyedList.Unique TopologyK8sModel.name s.topology.kubernetes) (h : Recorded s)
    (blueprintId : String) (area : Int) (release : Release) (a : Answers) :
    Recorded (finalState ((uninstallHelmChart blueprintId area release a).run s)) ↔
      (Op.uninstallHelmChart blueprintId area release a).Lists s := by
  by_cases hidle : Idle blueprintId area a s
  · have hsame : Same s (finalState ((uninstallHelmChart blueprintId area release a).run s)) := run_idle hidle _
    rw [hsame.recorded_iff]
    refine iff_of_true h ?_
    intro credentials hcredentials hhelm
    rcases hidle with hnone | hraises
    · rw [hnone] at hcredentials
      cases hcredentials
    · exact absurd hhelm hraises
  · obtain ⟨hclient, hhelm⟩ := not_or.1 hidle
    obtain ⟨credentials, hcredentials⟩ := Option.ne_none_iff_exists'.1 hclient
    have hhelm := not_not.1 hhelm
    rw [(uninstallHelmChart_leaves hunique hcredentials hhelm release).recorded_iff,
      recorded_relist hunique (fun c hc => recordedAt_mem (unlistedAt_some_iff.1 hc).1)]
    have hone : ∀ c ∈ s.topology.kubernetes,
        (ListsCharts (removeCharts credentials release s.charts) c.credentials
          (if unlistedAt blueprintId a area s = some c then c.deployedBlueprints.erase blueprintId else c.deployedBlueprints) ↔
        (∀ other ∈ c.deployedBlueprints, other ≠ blueprintId →
          HasChart (removeCharts credentials release s.charts) c.credentials other) ∧
        (blueprintId ∈ c.deployedBlueprints → (recordedAt a area s = some c ∧ c.deployedBlueprints.count blueprintId = 1 ↔
          ¬ HasChart (removeCharts credentials release s.charts) c.credentials blueprintId))) := by
      intro c hc
      rw [listsCharts_uninstall (h c hc) (fun _ => hasChart_of_remove) blueprintId]
      refine and_congr_right (fun _ => forall_congr' (fun hlisted => ?_))
      rw [unlistedAt_some_iff, and_iff_left hlisted]
    constructor
    · intro hlists credentials' hcredentials' _ c hc
      rw [hcredentials] at hcredentials'
      cases hcredentials'
      exact (hone c hc).1 (hlists c hc)
    · intro hlists c hc
      exact (hone c hc).2 (hlists credentials hcredentials hhelm c hc)

theorem run_addK8sCluster (h : KeyedList.toMap TopologyK8sModel.name s.topology.kubernetes c.name = none) :
    (Op.addK8scluster c).exec.run s =
      .ok () (s.withTopology (TopologyModel.k8sColl.put (s.topology.kubernetes ++ [c]) s.topology)) := by
  have hmodel : (TopologyModel.k8sColl.add
      (fun n => .valueError s!"Kubernetes cluster with name >{n}< already exists in the topology") c).run s.topology = _ :=
    TopologyModel.k8sColl.add_run _ s.topology c
  have hnew : KeyedList.toMap TopologyModel.k8sColl.key (TopologyModel.k8sColl.items s.topology)
      (TopologyModel.k8sColl.key c) = none := h
  rw [hnew] at hmodel
  rw [Op.exec, onTopology, run_zoom, TopologyModel.addK8sCluster, run_bind_ok _ _ hmodel]
  rfl

theorem run_addK8sCluster_present (h : KeyedList.toMap TopologyK8sModel.name s.topology.kubernetes c.name = some old) :
    ∃ e, (Op.addK8scluster c).exec.run s = .error e s := by
  have hmodel : (TopologyModel.k8sColl.add
      (fun n => .valueError s!"Kubernetes cluster with name >{n}< already exists in the topology") c).run s.topology = _ :=
    TopologyModel.k8sColl.add_run _ s.topology c
  have hold : KeyedList.toMap TopologyModel.k8sColl.key (TopologyModel.k8sColl.items s.topology)
      (TopologyModel.k8sColl.key c) = some old := h
  rw [hold] at hmodel
  refine ⟨.valueError s!"Kubernetes cluster with name >{c.name}< already exists in the topology", ?_⟩
  rw [Op.exec, onTopology, run_zoom, TopologyModel.addK8sCluster, run_bind_error _ _ hmodel]
  rfl

/-- A deletion that returns has found the list of the cluster empty. -/
theorem run_delK8sCluster (name : String) (s : K8sWorld) :
    (∃ e, (Op.delK8scluster name).exec.run s = .error e s) ∨
      ∃ c, KeyedList.toMap TopologyK8sModel.name s.topology.kubernetes name = some c ∧ c.deployedBlueprints = [] ∧
        (Op.delK8scluster name).exec.run s = .ok () (s.withTopology
          (TopologyModel.k8sColl.put (KeyedList.erase TopologyK8sModel.name s.topology.kubernetes name) s.topology)) := by
  have hmodel : (TopologyModel.delK8sCluster name).run s.topology = _ := TopologyModel.k8sColl.guarded_remove_run
    (fun n => .topoK8SNotFound s!"The K8s cluster ->{n}<- was not found in the topology.") s.topology name
    (fun c => c.deployedBlueprints.length > 0) (.topoK8SHasBlueprint "The cluster has blueprints deployed in it.")
  cases hfound : KeyedList.toMap TopologyK8sModel.name s.topology.kubernetes name with
  | none =>
    have hnone : KeyedList.toMap TopologyModel.k8sColl.key (TopologyModel.k8sColl.items s.topology) name = none := hfound
    rw [hnone] at hmodel
    refine .inl ⟨.topoK8SNotFound s!"The K8s cluster ->{name}<- was not found in the topology.", ?_⟩
    rw [Op.exec, onTopology, EStateM.run_bind, run_zoom, hmodel]
    rfl
  | some c =>
    have hsome : KeyedList.toMap TopologyModel.k8sColl.key (TopologyModel.k8sColl.items s.topology) name = some c := hfound
    rw [hsome] at hmodel
    by_cases hlisted : c.deployedBlueprints.length > 0
    · simp only [if_pos hlisted] at hmodel
      refine .inl ⟨.topoK8SHasBlueprint "The cluster has blueprints deployed in it.", ?_⟩
      rw [Op.exec, onTopology, EStateM.run_bind, run_zoom, hmodel]
      rfl
    · simp only [if_neg hlisted] at hmodel
      refine .inr ⟨c, rfl, List.eq_nil_of_length_eq_zero (by omega), ?_⟩
      rw [Op.exec, onTopology, EStateM.run_bind, run_zoom, hmodel]
      rfl

theorem relist_unique {ks : List TopologyK8sModel} (h : KeyedList.Unique TopologyK8sModel.name ks)
    (target : Option TopologyK8sModel) (change : List String → List String) :
    KeyedList.Unique TopologyK8sModel.name (relist target change ks) := by
  cases target with
  | none => exact h
  | some c => exact h.replace _

/-- No call gives two clusters one name. -/
theorem exec_unique (op : Op) (h : KeyedList.Unique TopologyK8sModel.name s.topology.kubernetes) :
    KeyedList.Unique TopologyK8sModel.name (finalState (op.exec.run s)).topology.kubernetes := by
  cases op with
  | installHelmChart blueprintId area release a =>
    change KeyedList.Unique _ (finalState ((installHelmChart blueprintId area release a).run s)).topology.kubernetes
    by_cases hidle : Idle blueprintId area a s
    · have hsame : Same s (finalState ((installHelmChart blueprintId area release a).run s)) := run_idle hidle _
      rw [hsame.1]
      exact h
    · obtain ⟨hclient, hhelm⟩ := not_or.1 hidle
      obtain ⟨credentials, hcredentials⟩ := Option.ne_none_iff_exists'.1 hclient
      rw [(installHelmChart_leaves h hcredentials (not_not.1 hhelm) release).1]
      exact relist_unique h _ _
  | uninstallHelmChart blueprintId area release a =>
    change KeyedList.Unique _ (finalState ((uninstallHelmChart blueprintId area release a).run s)).topology.kubernetes
    by_cases hidle : Idle blueprintId area a s
    · have hsame : Same s (finalState ((uninstallHelmChart blueprintId area release a).run s)) := run_idle hidle _
      rw [hsame.1]
      exact h
    · obtain ⟨hclient, hhelm⟩ := not_or.1 hidle
      obtain ⟨credentials, hcredentials⟩ := Option.ne_none_iff_exists'.1 hclient
      rw [(uninstallHelmChart_leaves h hcredentials (not_not.1 hhelm) release).1]
      exact relist_unique h _ _
  | addK8scluster c =>
    cases hfound : KeyedList.toMap TopologyK8sModel.name s.topology.kubernetes c.name with
    | none =>
      rw [run_addK8sCluster hfound]
      exact h.append hfound
    | some old =>
      obtain ⟨e, he⟩ := run_addK8sCluster_present hfound
      rw [he]
      exact h
  | delK8scluster name =>
    rcases run_delK8sCluster name s with ⟨e, he⟩ | ⟨c, -, -, hrun⟩
    · rw [he]
      exact h
    · rw [hrun]
      exact h.erase name
  | updateK8scluster c =>
    cases hfound : KeyedList.toMap TopologyK8sModel.name s.topology.kubernetes c.name with
    | none =>
      obtain ⟨e, he⟩ := run_updK8sCluster_none hfound
      rw [Op.exec, run_bind_error _ _ he]
      exact h
    | some old =>
      rw [Op.exec, run_bind_ok _ _ (run_updK8sCluster hfound)]
      exact h.replace c

/-- A call keeps every list exact if and only if it does what it may. -/
theorem exec_recorded_iff (op : Op) (hunique : KeyedList.Unique TopologyK8sModel.name s.topology.kubernetes) (h : Recorded s) :
    Recorded (finalState (op.exec.run s)) ↔ op.Lists s := by
  cases op with
  | installHelmChart blueprintId area release a => exact install_recorded_iff hunique h blueprintId area release a
  | uninstallHelmChart blueprintId area release a => exact uninstall_recorded_iff hunique h blueprintId area release a
  | addK8scluster c =>
    cases hfound : KeyedList.toMap TopologyK8sModel.name s.topology.kubernetes c.name with
    | none =>
      rw [run_addK8sCluster hfound]
      constructor
      · intro hlists _
        exact hlists c (List.mem_append_right _ (List.mem_singleton.2 rfl))
      · intro hlists k hk
        rcases List.mem_append.1 hk with hk | hk
        · exact h k hk
        · rw [List.mem_singleton.1 hk]
          exact hlists hfound
    | some old =>
      obtain ⟨e, he⟩ := run_addK8sCluster_present hfound
      rw [he]
      refine iff_of_true h (fun hnone => ?_)
      rw [hfound] at hnone
      cases hnone
  | delK8scluster name =>
    refine iff_of_true ?_ trivial
    rcases run_delK8sCluster name s with ⟨e, he⟩ | ⟨c, -, -, hrun⟩
    · rw [he]
      exact h
    · rw [hrun]
      exact fun k hk => h k ((KeyedList.erase_sublist _ _ _).subset hk)
  | updateK8scluster c =>
    cases hfound : KeyedList.toMap TopologyK8sModel.name s.topology.kubernetes c.name with
    | none =>
      obtain ⟨e, he⟩ := run_updK8sCluster_none hfound
      rw [Op.exec, run_bind_error _ _ he]
      exact iff_of_true h (fun hpresent => absurd hfound hpresent)
    | some old =>
      have hmem : ∀ k, k ∈ KeyedList.replace TopologyK8sModel.name s.topology.kubernetes c ↔
          k = c ∨ k ∈ s.topology.kubernetes ∧ k ≠ old :=
        fun k => hunique.mem_replace_iff (KeyedList.toMap_some_mem hfound) (KeyedList.toMap_some_key hfound).symm
      rw [Op.exec, run_bind_ok _ _ (run_updK8sCluster hfound)]
      constructor
      · intro hlists _
        exact hlists c ((hmem c).2 (.inl rfl))
      · intro hlists k hk
        rcases (hmem k).1 hk with rfl | ⟨hk, -⟩
        · exact hlists (by rw [hfound]; exact Option.some_ne_none old)
        · exact h k hk

/-- While every list is exact, the guard of the deletion is sound, and only an uninstallation can change a list that
it should not. -/
theorem keepsGuard_iff (op : Op) (hunique : KeyedList.Unique TopologyK8sModel.name s.topology.kubernetes) (h : Recorded s) :
    op.KeepsGuard s ↔ op.StaysOnCluster s := by
  cases op with
  | installHelmChart blueprintId area release a => exact Iff.rfl
  | addK8scluster c => exact Iff.rfl
  | updateK8scluster c => exact Iff.rfl
  | delK8scluster name =>
    refine iff_of_true ?_ trivial
    intro c hfound hreturns chart hchart heq
    rcases run_delK8sCluster name s with ⟨e, he⟩ | ⟨c', hfound', hempty, -⟩
    · rw [he] at hreturns
      exact hreturns trivial
    · rw [hfound] at hfound'
      cases hfound'
      have hlisted := (h c (KeyedList.toMap_some_mem hfound) chart.blueprintId).2 ⟨chart, hchart, rfl, heq⟩
      rw [hempty] at hlisted
      cases hlisted
  | uninstallHelmChart blueprintId area release a =>
    constructor
    · intro hkeeps credentials hcredentials hhelm c hrecorded hlisted
      by_contra hother
      have hc := recordedAt_mem hrecorded
      have hafter := hkeeps c hc (by rw [hcredentials]; exact fun heq => hother (Option.some.inj heq).symm)
      change c ∈ (finalState ((uninstallHelmChart blueprintId area release a).run s)).topology.kubernetes at hafter
      rw [(uninstallHelmChart_leaves hunique hcredentials hhelm release).1, unlistedAt_some_iff.2 ⟨hrecorded, hlisted⟩] at hafter
      rcases (mem_relist hunique hc _).1 hafter with heq | ⟨-, hne⟩
      · have hlength := congrArg (fun k : TopologyK8sModel => k.deployedBlueprints.length) heq
        have hpos := List.length_pos_of_mem hlisted
        rw [List.length_erase_of_mem hlisted] at hlength
        omega
      · exact hne rfl
    · intro hstays c hc hother
      change c ∈ (finalState ((uninstallHelmChart blueprintId area release a).run s)).topology.kubernetes
      by_cases hidle : Idle blueprintId area a s
      · have hsame : Same s (finalState ((uninstallHelmChart blueprintId area release a).run s)) := run_idle hidle _
        rw [hsame.1]
        exact hc
      · obtain ⟨hclient, hhelm⟩ := not_or.1 hidle
        obtain ⟨credentials, hcredentials⟩ := Option.ne_none_iff_exists'.1 hclient
        have hhelm := not_not.1 hhelm
        rw [(uninstallHelmChart_leaves hunique hcredentials hhelm release).1]
        cases hunlisted : unlistedAt blueprintId a area s with
        | none => exact hc
        | some c₀ =>
          obtain ⟨hrecorded, hlisted⟩ := unlistedAt_some_iff.1 hunlisted
          have hsame := hstays credentials hcredentials hhelm c₀ hrecorded hlisted
          refine (mem_relist hunique (recordedAt_mem hrecorded) _).2 (.inr ⟨hc, ?_⟩)
          rintro rfl
          exact hother (by rw [hcredentials, hsame])

/-- Over any run of calls every list is exact at every moment and the guard is kept, if and only if every call records
its chart where it is installed. -/
theorem charts_guarded_iff (hunique : KeyedList.Unique TopologyK8sModel.name s.topology.kubernetes) (h : Recorded s) (ops : List Op) :
    ((∀ done later, ops = done ++ later → Recorded (runAll Op.exec s done)) ∧
      AllSteps Op.exec (fun op s => op.KeepsGuard s) s ops) ↔
    AllSteps Op.exec (fun op s => op.Lists s ∧ op.StaysOnCluster s) s ops := by
  have hkept : ∀ (op : Op) (s : K8sWorld), op.Lists s → KeyedList.Unique TopologyK8sModel.name s.topology.kubernetes ∧ Recorded s →
      KeyedList.Unique TopologyK8sModel.name (finalState (op.exec.run s)).topology.kubernetes ∧
        Recorded (finalState (op.exec.run s)) :=
    fun op s hop hs => ⟨exec_unique op hs.1, (exec_recorded_iff op hs.1 hs.2).2 hop⟩
  have halways : (∀ done later, ops = done ++ later → Recorded (runAll Op.exec s done)) ↔
      AllSteps Op.exec (fun op s => op.Lists s) s ops := by
    apply always_iff (I := fun s => KeyedList.Unique TopologyK8sModel.name s.topology.kubernetes ∧ Recorded s) _ _ ⟨hunique, h⟩
    · exact fun op s hs => ⟨fun hop => hkept op s hop hs, fun hop hafter => hop ((exec_recorded_iff op hs.1 hs.2).1 hafter)⟩
    · exact fun s hs => hs.2
  rw [halways]
  constructor
  · rintro ⟨hlists, hguard⟩
    exact (hlists.and Op.exec hguard).of_invariant Op.exec (fun op s hop hs =>
      ⟨⟨hop.1, (keepsGuard_iff op hs.1 hs.2).1 hop.2⟩, hkept op s hop.1 hs⟩) ops ⟨hunique, h⟩
  · intro hall
    refine ⟨?_, ?_⟩
    · exact hall.of_invariant Op.exec (fun op s hop hs => ⟨hop.1, hkept op s hop.1 hs⟩) ops ⟨hunique, h⟩
    · exact hall.of_invariant Op.exec (fun op s hop hs => ⟨(keepsGuard_iff op hs.1 hs.2).2 hop.2, hkept op s hop.1 hs⟩) ops
        ⟨hunique, h⟩

/-! ### Two clusters of one area -/

def campus : TopologyK8sModel where
  name := "campus"
  credentials := "campus-admin.conf"
  networks := ["mgmt"]
  areas := [1]

def edge : TopologyK8sModel where
  name := "edge"
  credentials := "edge-admin.conf"
  networks := ["mgmt"]
  areas := [1, 2]

def twoClusters : K8sWorld where
  topology := { kubernetes := [campus, edge] }
  helmClientDict := .empty
  credentialFiles := .empty
  providers := .empty
  charts := []

def core : Release := ⟨"core", "nfv1"⟩

def upf : Release := ⟨"upf", "nfv1"⟩

theorem twoClusters_unique : KeyedList.Unique TopologyK8sModel.name twoClusters.topology.kubernetes := by decide

theorem twoClusters_recorded : Recorded twoClusters := by
  have hempty : ∀ c ∈ twoClusters.topology.kubernetes, c.deployedBlueprints = [] := by decide
  intro c hc b
  rw [hempty c hc]
  refine iff_of_false List.not_mem_nil ?_
  rintro ⟨chart, hchart, -⟩
  exact absurd hchart List.not_mem_nil

theorem charts_guarded_iff_two_clusters :
    ((∀ done later, [Op.installHelmChart "nfv1" 1 core {}, .uninstallHelmChart "nfv1" 1 core {}, .delK8scluster "campus"] = done ++ later →
        Recorded (runAll Op.exec twoClusters done)) ∧
      AllSteps Op.exec (fun op s => op.KeepsGuard s) twoClusters
        [.installHelmChart "nfv1" 1 core {}, .uninstallHelmChart "nfv1" 1 core {}, .delK8scluster "campus"]) ↔
    AllSteps Op.exec (fun op s => op.Lists s ∧ op.StaysOnCluster s) twoClusters
      [.installHelmChart "nfv1" 1 core {}, .uninstallHelmChart "nfv1" 1 core {}, .delK8scluster "campus"] :=
  charts_guarded_iff twoClusters_unique twoClusters_recorded _

/-- The campus cluster leaves area 1 between two charts of one blueprint: the second chart goes to it all the same, and the
edge cluster lists the blueprint. -/
def moved : List Op :=
  [.installHelmChart "nfv1" 1 core {}, .updateK8scluster { campus with areas := [3], deployedBlueprints := ["nfv1"] },
    .installHelmChart "nfv1" 1 upf {}]

theorem charts_guarded_fails : ¬ ((∀ done later, moved = done ++ later → Recorded (runAll Op.exec twoClusters done)) ∧
    AllSteps Op.exec (fun op s => op.KeepsGuard s) twoClusters moved) := by
  rintro ⟨halways, -⟩
  have hend := halways moved [] (List.append_nil moved).symm
  have hedge : { edge with deployedBlueprints := ["nfv1"] } ∈ (runAll Op.exec twoClusters moved).topology.kubernetes := by decide
  have hchart := (hend _ hedge "nfv1").1 (by decide)
  exact absurd hchart (by decide)

end K8sCharts

end Nfvcl
