import Mathlib.Data.List.Count
import Nfvcl.Effects
import Nfvcl.PyValue

namespace Nfvcl
set_option autoImplicit true
open Effects

inductive K8sPluginName where
  | flannel | openEbs | metallb | calico | metricServer | multus | istio | cadvisor
  deriving DecidableEq, Repr

/-- One release handed to helm, with the value the manager computes for it. -/
structure PluginRelease where
  name : K8sPluginName
  chart : String
  version : String
  namesp : String
  podCidr : Option String
  deriving DecidableEq, Repr

namespace HelmPluginManager

/-- How the calls out of the manager end. -/
structure Cluster where
  /-- `get_chart` and `install_or_upgrade_release`. -/
  helm : K8sPluginName → Option PyError
  /-- Making the storage class of OpenEBS the default one. -/
  storageClass : Option PyError
  /-- Rendering and applying the pools of MetalLB. -/
  pools : Option PyError
  /-- `yaml.safe_load` of the path of the values of Calico. -/
  safeLoad : Option PyError

/-- The remote side answers; `safe_load` takes a text or an open file, not a path. -/
structure Cluster.Answers (cluster : Cluster) : Prop where
  helm : ∀ name, cluster.helm name = none
  storageClass : cluster.storageClass = none
  pools : cluster.pools = none
  safeLoad : ∃ e, cluster.safeLoad = some e

/-- The state is the log of the releases installed so far. -/
abbrev PluginM := EStateM PyError (List PluginRelease)

variable (cluster : Cluster) (podNetworkCidr : Option String)

def installPlugin (release : PluginRelease) : PluginM Unit := do
  outcome (cluster.helm release.name)
  modify fun releases => releases ++ [release]

/-- `plugin_data.pod_network_cidr`, or the default where it is absent or empty. -/
def podCidr : String :=
  match podNetworkCidr with
  | some cidr => if cidr = "" then "10.254.0.0/16" else cidr
  | none => "10.254.0.0/16"

def openebsRelease : PluginRelease :=
  ⟨.openEbs, "helm_charts/k8s_plugins/openebs-4.1.1.tgz", "4.1.1", "openebs", none⟩

def installOpenebs : PluginM Unit := do
  installPlugin cluster openebsRelease
  outcome cluster.storageClass

def flannelRelease : PluginRelease :=
  ⟨.flannel, "helm_charts/k8s_plugins/flannel-0.26.0.tgz", "0.26.0", "flannel", some (podCidr podNetworkCidr)⟩

def installFlannel : PluginM Unit :=
  installPlugin cluster (flannelRelease podNetworkCidr)

def metallbRelease : PluginRelease :=
  ⟨.metallb, "helm_charts/k8s_plugins/metallb-0.14.8.tgz", "0.26.0", "metallb", none⟩

def installMetallb : PluginM Unit := do
  installPlugin cluster metallbRelease
  outcome cluster.pools

def calicoRelease : PluginRelease :=
  ⟨.calico, "helm_charts/k8s_plugins/tigera-operator-v3.29.0.tgz", "3.29.0", "calico", some (podCidr podNetworkCidr)⟩

def installCalico : PluginM Unit := do
  outcome cluster.safeLoad
  installPlugin cluster (calicoRelease podNetworkCidr)

/-- The loop over the installed plugins: each takes one occurrence out of the copy. -/
def skipInstalled (installedPlugins pluginNames : List K8sPluginName) : List K8sPluginName :=
  installedPlugins.foldl
    (fun names installed => if installed ∈ names then names.erase installed else names) pluginNames

/-- A network plugin is installed and one occurrence of it taken out of the copy. -/
def installNetwork (name : K8sPluginName) (install : PluginM Unit) (names : List K8sPluginName) :
    PluginM (List K8sPluginName) := do
  if name ∈ names then
    install
    return names.erase name
  else
    return names

def installOther (name : K8sPluginName) : PluginM Unit :=
  match name with
  | .openEbs => installOpenebs cluster
  | .metallb => installMetallb cluster
  | _ => pure ()

def installPlugins (installedPlugins pluginNames : List K8sPluginName) : PluginM Unit := do
  let union := installedPlugins ++ pluginNames
  if .calico ∈ union ∧ .flannel ∈ union then
    throw (.exception "CALICO and FLANNEL cannot be installed at the same time")
  let names := skipInstalled installedPlugins pluginNames
  let names ← installNetwork .flannel (installFlannel cluster podNetworkCidr) names
  let names ← installNetwork .calico (installCalico cluster podNetworkCidr) names
  forM names (installOther cluster)

theorem skipInstalled_eq_diff (installedPlugins pluginNames : List K8sPluginName) :
    skipInstalled installedPlugins pluginNames = pluginNames.diff installedPlugins := by
  induction installedPlugins generalizing pluginNames with
  | nil => rfl
  | cons installed rest ih =>
    rw [List.diff_cons, ← ih]
    unfold skipInstalled
    rw [List.foldl_cons]
    by_cases h : installed ∈ pluginNames
    · rw [if_pos h]
    · rw [if_neg h, List.erase_of_not_mem h]

theorem count_skipInstalled (installedPlugins pluginNames : List K8sPluginName) (name : K8sPluginName) :
    (skipInstalled installedPlugins pluginNames).count name =
      pluginNames.count name - installedPlugins.count name := by
  rw [skipInstalled_eq_diff, List.count_diff]

theorem mem_skipInstalled :
    name ∈ skipInstalled installedPlugins pluginNames ↔
      installedPlugins.count name < pluginNames.count name := by
  rw [← List.count_pos_iff, count_skipInstalled]
  exact Nat.sub_pos_iff_lt

variable {cluster podNetworkCidr}

theorem run_installPlugin (h : cluster.Answers) (release : PluginRelease) (releases : List PluginRelease) :
    (installPlugin cluster release).run releases = .ok () (releases ++ [release]) := by
  rw [installPlugin, h.helm]
  rfl

/-- The release of a plugin the last loop installs. -/
def otherRelease : K8sPluginName → Option PluginRelease
  | .openEbs => some openebsRelease
  | .metallb => some metallbRelease
  | _ => none

theorem run_installOther (h : cluster.Answers) (name : K8sPluginName) (releases : List PluginRelease) :
    (installOther cluster name).run releases = .ok () (releases ++ (otherRelease name).toList) := by
  cases name with
  | openEbs =>
    rw [installOther, installOpenebs, run_bind_ok _ _ (run_installPlugin h _ _), h.storageClass]
    rfl
  | metallb =>
    rw [installOther, installMetallb, run_bind_ok _ _ (run_installPlugin h _ _), h.pools]
    rfl
  | _ =>
    simp only [installOther, otherRelease, Option.toList, List.append_nil]
    rfl

theorem run_forM_installOther (h : cluster.Answers) (names : List K8sPluginName) (releases : List PluginRelease) :
    (forM names (installOther cluster)).run releases = .ok () (releases ++ names.filterMap otherRelease) := by
  induction names generalizing releases with
  | nil =>
    rw [List.filterMap_nil, List.append_nil]
    rfl
  | cons name names ih =>
    rw [List.forM_cons, run_bind_ok _ _ (run_installOther h name releases), ih, List.append_assoc]
    cases hname : otherRelease name with
    | none => rw [List.filterMap_cons_none hname, Option.toList_none, List.nil_append]
    | some release => rw [List.filterMap_cons_some hname, Option.toList_some, List.singleton_append]

abbrev Conflict (installedPlugins pluginNames : List K8sPluginName) : Prop :=
  .calico ∈ installedPlugins ++ pluginNames ∧ .flannel ∈ installedPlugins ++ pluginNames

theorem run_conflict (h : Conflict installedPlugins pluginNames) (releases : List PluginRelease) :
    ∃ e, (installPlugins cluster podNetworkCidr installedPlugins pluginNames).run releases = .error e releases := by
  rw [installPlugins, if_pos h]
  exact ⟨_, rfl⟩

/-- What is installed where nothing raises. -/
def installed (podNetworkCidr : Option String) (names : List K8sPluginName) : List PluginRelease :=
  (if K8sPluginName.flannel ∈ names then [flannelRelease podNetworkCidr] else []) ++ names.filterMap otherRelease

theorem filterMap_erase_flannel (names : List K8sPluginName) :
    (names.erase .flannel).filterMap otherRelease = names.filterMap otherRelease := by
  induction names with
  | nil => rfl
  | cons name names ih =>
    by_cases hname : name = .flannel
    · subst hname
      rw [List.erase_cons_head]
      rfl
    · rw [List.erase_cons_tail (by simpa using hname), List.filterMap_cons, List.filterMap_cons, ih]

theorem run_installNetwork_absent {install : PluginM Unit} {names : List K8sPluginName} (h : name ∉ names)
    (releases : List PluginRelease) :
    (installNetwork name install names).run releases = .ok names releases := by
  rw [installNetwork, if_neg h]
  rfl

theorem run_completes (h : cluster.Answers) (podNetworkCidr : Option String)
    (hapart : ¬ Conflict installedPlugins pluginNames)
    (hcalico : .calico ∉ skipInstalled installedPlugins pluginNames) :
    (installPlugins cluster podNetworkCidr installedPlugins pluginNames).run [] =
      .ok () (installed podNetworkCidr (skipInstalled installedPlugins pluginNames)) := by
  rw [installPlugins, if_neg hapart]
  generalize skipInstalled installedPlugins pluginNames = names at hcalico ⊢
  by_cases hflannel : K8sPluginName.flannel ∈ names
  · have hrest : K8sPluginName.calico ∉ names.erase .flannel := fun hmem => hcalico (List.mem_of_mem_erase hmem)
    have hinstall : (installNetwork .flannel (installFlannel cluster podNetworkCidr) names).run [] =
        .ok (names.erase .flannel) [flannelRelease podNetworkCidr] := by
      rw [installNetwork, if_pos hflannel, installFlannel, run_bind_ok _ _ (run_installPlugin h _ _)]
      rfl
    rw [run_bind_ok _ _ hinstall, run_bind_ok _ _ (run_installNetwork_absent hrest _),
      run_forM_installOther h, filterMap_erase_flannel, installed, if_pos hflannel]
  · rw [run_bind_ok _ _ (run_installNetwork_absent hflannel _),
      run_bind_ok _ _ (run_installNetwork_absent hcalico _), run_forM_installOther h, installed, if_neg hflannel]

/-- Calico cannot be installed: its values are read from a path. -/
theorem run_calico (h : cluster.Answers) (podNetworkCidr : Option String)
    (hapart : ¬ Conflict installedPlugins pluginNames)
    (hcalico : .calico ∈ skipInstalled installedPlugins pluginNames) :
    ∃ e, (installPlugins cluster podNetworkCidr installedPlugins pluginNames).run [] = .error e [] := by
  have hrequested : K8sPluginName.calico ∈ pluginNames := by
    rw [mem_skipInstalled] at hcalico
    exact List.count_pos_iff.1 (Nat.zero_lt_of_lt hcalico)
  have hflannel : K8sPluginName.flannel ∉ skipInstalled installedPlugins pluginNames := by
    rw [mem_skipInstalled]
    intro hlt
    apply hapart
    exact ⟨List.mem_append_right _ hrequested,
      List.mem_append_right _ (List.count_pos_iff.1 (Nat.zero_lt_of_lt hlt))⟩
  obtain ⟨e, he⟩ := h.safeLoad
  rw [installPlugins, if_neg hapart, run_bind_ok _ _ (run_installNetwork_absent hflannel _)]
  refine ⟨e, run_bind_error _ _ ?_⟩
  rw [installNetwork, if_pos hcalico]
  apply run_bind_error
  rw [installCalico, he]
  rfl

/-- How often a plugin is among the releases. -/
def timesInstalled (name : K8sPluginName) (releases : List PluginRelease) : Nat :=
  (releases.map PluginRelease.name).count name

theorem timesInstalled_other (name : K8sPluginName) (names : List K8sPluginName) :
    timesInstalled name (names.filterMap otherRelease) =
      if name = .openEbs ∨ name = .metallb then names.count name else 0 := by
  induction names with
  | nil => simp [timesInstalled]
  | cons other names ih =>
    unfold timesInstalled at ih ⊢
    cases hother : otherRelease other with
    | none =>
      rw [List.filterMap_cons_none hother, ih]
      by_cases hname : name = .openEbs ∨ name = .metallb
      · have hne : other ≠ name := by
          rintro rfl
          rcases hname with rfl | rfl <;> cases hother
        rw [if_pos hname, if_pos hname, List.count_cons_of_ne hne]
      · rw [if_neg hname, if_neg hname]
    | some release =>
      have hrelease : release.name = other := by
        cases other <;> cases hother <;> rfl
      rw [List.filterMap_cons_some hother, List.map_cons, hrelease, List.count_cons, ih, List.count_cons]
      by_cases hname : name = .openEbs ∨ name = .metallb
      · rw [if_pos hname, if_pos hname]
      · have hne : ¬ other = name := by
          rintro rfl
          cases other <;> cases hother <;> simp at hname
        rw [if_neg hname, if_neg hname, if_neg (by simpa using hne)]

theorem timesInstalled_installed (name : K8sPluginName) (names : List K8sPluginName) :
    timesInstalled name (installed podNetworkCidr names) =
      if name = .flannel then min (names.count name) 1
      else if name = .openEbs ∨ name = .metallb then names.count name else 0 := by
  unfold installed
  rw [timesInstalled, List.map_append, List.count_append]
  change _ + timesInstalled name _ = _
  rw [timesInstalled_other]
  by_cases hname : name = .flannel
  · subst hname
    have hother : ¬ (K8sPluginName.flannel = .openEbs ∨ K8sPluginName.flannel = .metallb) := by decide
    rw [if_neg hother, Nat.add_zero]
    by_cases hmem : K8sPluginName.flannel ∈ names
    · simp only [if_pos hmem]
      exact (Nat.min_eq_right (List.count_pos_iff.2 hmem)).symm
    · simp only [if_neg hmem, List.count_eq_zero.2 hmem]
      rfl
  · rw [if_neg hname]
    have hnone : (List.map PluginRelease.name
        (if K8sPluginName.flannel ∈ names then [flannelRelease podNetworkCidr] else [])).count name = 0 := by
      rw [List.count_eq_zero]
      intro hmem
      split at hmem
      · exact hname (List.mem_singleton.1 hmem)
      · cases hmem
    rw [hnone, Nat.zero_add]

def isNetwork (name : K8sPluginName) : Prop :=
  name = .flannel ∨ name = .calico

/-- Each missing plugin once, none of the installed ones, the network plugin first. -/
structure InstallsMissing (installedPlugins pluginNames : List K8sPluginName) (releases : List PluginRelease) :
    Prop where
  once : ∀ name ∈ pluginNames, name ∉ installedPlugins → timesInstalled name releases = 1
  kept : ∀ name ∈ installedPlugins, timesInstalled name releases = 0
  networkFirst : ∀ release ∈ releases, isNetwork release.name → releases.head? = some release

/-- An installation raises before anything is installed exactly on a conflict, or installs what is missing. -/
structure Installs (cluster : Cluster) (podNetworkCidr : Option String)
    (installedPlugins pluginNames : List K8sPluginName) : Prop where
  refused : Conflict installedPlugins pluginNames →
    ∃ e, (installPlugins cluster podNetworkCidr installedPlugins pluginNames).run [] = .error e []
  completed : ¬ Conflict installedPlugins pluginNames → ∃ releases,
    (installPlugins cluster podNetworkCidr installedPlugins pluginNames).run [] = .ok () releases ∧
      InstallsMissing installedPlugins pluginNames releases

/-- What the requested and installed lists must be for the loops to do right by a requested plugin. -/
def Installable (installedPlugins pluginNames : List K8sPluginName) (name : K8sPluginName) : Prop :=
  match name with
  | .flannel => name ∈ installedPlugins → pluginNames.count name ≤ installedPlugins.count name
  | .openEbs | .metallb =>
    (name ∈ installedPlugins ∧ pluginNames.count name ≤ installedPlugins.count name) ∨
      (name ∉ installedPlugins ∧ pluginNames.count name = 1)
  | .calico => pluginNames.count name ≤ installedPlugins.count name
  | _ => name ∈ installedPlugins

theorem Installable.of_missing (hcalico : .calico ∉ skipInstalled installedPlugins pluginNames)
    (h : InstallsMissing installedPlugins pluginNames
      (installed podNetworkCidr (skipInstalled installedPlugins pluginNames)))
    (hname : name ∈ pluginNames) : Installable installedPlugins pluginNames name := by
  have honce := h.once name hname
  have hkept := h.kept name
  rw [timesInstalled_installed, count_skipInstalled] at honce hkept
  cases name with
  | flannel =>
    intro hinstalled
    have hzero : min (pluginNames.count .flannel - installedPlugins.count .flannel) 1 = 0 := hkept hinstalled
    omega
  | openEbs =>
    by_cases hinstalled : K8sPluginName.openEbs ∈ installedPlugins
    · exact .inl ⟨hinstalled, Nat.sub_eq_zero_iff_le.1 (hkept hinstalled)⟩
    · have hone : pluginNames.count .openEbs - installedPlugins.count .openEbs = 1 := honce hinstalled
      rw [List.count_eq_zero.2 hinstalled] at hone
      exact .inr ⟨hinstalled, hone⟩
  | metallb =>
    by_cases hinstalled : K8sPluginName.metallb ∈ installedPlugins
    · exact .inl ⟨hinstalled, Nat.sub_eq_zero_iff_le.1 (hkept hinstalled)⟩
    · have hone : pluginNames.count .metallb - installedPlugins.count .metallb = 1 := honce hinstalled
      rw [List.count_eq_zero.2 hinstalled] at hone
      exact .inr ⟨hinstalled, hone⟩
  | calico =>
    rw [mem_skipInstalled] at hcalico
    exact Nat.le_of_not_lt hcalico
  | _ =>
    -- the last loop has no branch for these
    by_contra hinstalled
    cases honce hinstalled

theorem installs_once (h : Installable installedPlugins pluginNames name) (hname : name ∈ pluginNames)
    (hmissing : name ∉ installedPlugins) :
    timesInstalled name (installed podNetworkCidr (skipInstalled installedPlugins pluginNames)) = 1 := by
  have hpos := List.count_pos_iff.2 hname
  have hzero := List.count_eq_zero.2 hmissing
  rw [timesInstalled_installed, count_skipInstalled, hzero]
  cases name with
  | flannel => exact Nat.min_eq_right hpos
  | openEbs =>
    rcases h with h | h
    · exact absurd h.1 hmissing
    · exact h.2
  | metallb =>
    rcases h with h | h
    · exact absurd h.1 hmissing
    · exact h.2
  | calico =>
    have hle : pluginNames.count .calico ≤ installedPlugins.count .calico := h
    omega
  | _ => exact absurd h hmissing

theorem installs_kept (h : name ∈ pluginNames → Installable installedPlugins pluginNames name)
    (hinstalled : name ∈ installedPlugins) :
    timesInstalled name (installed podNetworkCidr (skipInstalled installedPlugins pluginNames)) = 0 := by
  have hle : name = .flannel ∨ name = .openEbs ∨ name = .metallb →
      pluginNames.count name ≤ installedPlugins.count name := by
    intro hkind
    by_cases hname : name ∈ pluginNames
    · rcases hkind with rfl | rfl | rfl
      · exact h hname hinstalled
      · rcases h hname with hall | hnone
        · exact hall.2
        · exact absurd hinstalled hnone.1
      · rcases h hname with hall | hnone
        · exact hall.2
        · exact absurd hinstalled hnone.1
    · rw [List.count_eq_zero.2 hname]
      exact Nat.zero_le _
  rw [timesInstalled_installed, count_skipInstalled]
  by_cases hflannel : name = .flannel
  · rw [if_pos hflannel, Nat.sub_eq_zero_of_le (hle (.inl hflannel))]
    rfl
  · rw [if_neg hflannel]
    by_cases hother : name = .openEbs ∨ name = .metallb
    · rw [if_pos hother]
      exact Nat.sub_eq_zero_of_le (hle (.inr hother))
    · rw [if_neg hother]

theorem network_first {names : List K8sPluginName} (hmem : release ∈ installed podNetworkCidr names)
    (hnetwork : isNetwork release.name) : (installed podNetworkCidr names).head? = some release := by
  rcases List.mem_append.1 hmem with hflannel | hother
  · unfold installed
    split at hflannel
    · next hrequested =>
      cases List.mem_singleton.1 hflannel
      rw [if_pos hrequested]
      rfl
    · cases hflannel
  · obtain ⟨name, -, hrelease⟩ := List.mem_filterMap.1 hother
    cases name with
    | openEbs =>
      cases hrelease
      rcases hnetwork with h | h <;> cases h
    | metallb =>
      cases hrelease
      rcases hnetwork with h | h <;> cases h
    | _ => cases hrelease

/-- Repetitions, Calico and plugins without an installer are what goes wrong. -/
theorem installs_iff (h : cluster.Answers) (podNetworkCidr : Option String)
    (installedPlugins pluginNames : List K8sPluginName) :
    Installs cluster podNetworkCidr installedPlugins pluginNames ↔
      Conflict installedPlugins pluginNames ∨
        ∀ name ∈ pluginNames, Installable installedPlugins pluginNames name := by
  by_cases hconflict : Conflict installedPlugins pluginNames
  · constructor
    · intro _
      exact .inl hconflict
    · intro _
      exact ⟨fun _ => run_conflict hconflict [], fun hapart => absurd hconflict hapart⟩
  · by_cases hcalico : .calico ∈ skipInstalled installedPlugins pluginNames
    · obtain ⟨e, he⟩ := run_calico h podNetworkCidr hconflict hcalico
      rw [mem_skipInstalled] at hcalico
      constructor
      · intro hinstalls
        obtain ⟨releases, hok, -⟩ := hinstalls.completed hconflict
        cases he.symm.trans hok
      · intro hall
        have hrequested := List.count_pos_iff.1 (Nat.zero_lt_of_lt hcalico)
        exact absurd hcalico (Nat.not_lt_of_le ((hall.resolve_left hconflict) .calico hrequested))
    · have hrun := run_completes h podNetworkCidr hconflict hcalico
      constructor
      · intro hinstalls
        obtain ⟨releases, hok, hmissing⟩ := hinstalls.completed hconflict
        cases hrun.symm.trans hok
        exact .inr fun name hname => .of_missing hcalico hmissing hname
      · intro hall
        have hall := hall.resolve_left hconflict
        refine ⟨fun hboth => absurd hboth hconflict, fun _ => ⟨_, hrun, ?_⟩⟩
        constructor
        · intro name hname hmissing
          exact installs_once (hall name hname) hname hmissing
        · intro name hinstalled
          exact installs_kept (hall name) hinstalled
        · intro release hmem hnetwork
          exact network_first hmem hnetwork

def answering : Cluster where
  helm _ := none
  storageClass := none
  pools := none
  safeLoad := some (.attributeError "'PosixPath' object has no attribute 'read'")

theorem answering_answers : answering.Answers :=
  ⟨fun _ => rfl, rfl, rfl, _, rfl⟩

theorem installs_defaults :
    Installs answering none [.flannel] [.flannel, .metallb, .openEbs] := by
  apply (installs_iff answering_answers none _ _).2
  right
  intro name hname
  simp only [List.mem_cons, List.not_mem_nil, or_false] at hname
  rcases hname with rfl | rfl | rfl
  · intro _
    decide
  · exact .inr ⟨by decide, by decide⟩
  · exact .inr ⟨by decide, by decide⟩

/-- A plugin asked for twice is installed although it is there. -/
theorem installs_fails : ¬ Installs answering none [.metallb] [.metallb, .metallb] := by
  intro h
  obtain ⟨releases, hok, hmissing⟩ := h.completed (by decide)
  cases hok
  exact absurd (hmissing.kept .metallb (List.mem_singleton.2 rfl)) (by decide)

end HelmPluginManager
end Nfvcl
