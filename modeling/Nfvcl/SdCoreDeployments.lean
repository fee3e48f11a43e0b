import Mathlib.Data.List.Basic
import Mathlib.Data.List.Flatten
import Mathlib.Data.List.Nodup
import Mathlib.Data.List.Perm.Lattice
import Nfvcl.Loops
import Nfvcl.SdCoreRegistry
import Nfvcl.UpfSteps

namespace Nfvcl
set_option autoImplicit true
open Effects KeyedList

section References

theorem isRef_ref (id : String) : isRef (ref id) = true := by
  unfold isRef ref
  simp [toString, String.toList_append]

theorem refId_ref {id : String} (h : beforeRef id.toList = id.toList) : refId (ref id) = id := by
  have htext : (ref id).toList.drop 4 = id.toList := by
    unfold ref
    simp [toString, String.toList_append]
  unfold refId
  rw [htext, h, String.ofList_toList]

theorem isRef_of_plain (h : beforeRef text.toList = text.toList) : isRef text = false := by
  unfold isRef
  cases htext : text.toList with
  | nil => rfl
  | cons c cs =>
    rw [htext, beforeRef] at h
    split at h
    · cases h
    · rename_i hno
      exact Bool.eq_false_iff.2 hno

end References

namespace SdCoreUpfBlueprint

variable {host : UpfHost} {s : SdCoreUpfBlueprint}

theorem unattached_interface (host : UpfHost) (n : Nat) (network : String) (vm : VmResource) (h : network ∉ vm.getAllConnectedNetworkNames) :
    ({ vm with networkInterfaces := host.interfaces n vm } : VmResource).interface network = .error (.keyError network) := by
  simp only [VmResource.interface, host.unattached n vm network h]

/-- The machine that is asked for. -/
def newVm (host : UpfHost) (config : UPFBlueCreateModel) (name : String) (disabled : Bool) (u : UpfState SdCoreUpfOwn) : VmResource where
  id := host.uuid u.registered
  area := config.areaId
  name := name
  managementNetwork := config.networks.mgt
  additionalNetworks := [config.networks.n4, config.networks.n3, config.networks.n6].dedup.filter
    (fun network => decide (network ≠ config.networks.mgt))
  requirePortSecurityDisabled := disabled

/-- A new machine has interfaces on the networks it was asked for, and on no others. -/
theorem createVm_attached (config : UPFBlueCreateModel) (name : String) (disabled : Bool) (u : UpfState SdCoreUpfOwn) :
    Meets (UpfState.createVm host.toVmProvider config name disabled) u
      (fun vm u' => u' = { u with registered := u.registered + 1 } ∧ vm.id = host.uuid u.registered ∧ vm.area = config.areaId ∧
        ∀ network, vm.Connected network ↔ network ∈ config.networks.names)
      (fun _ _ => False) := by
  have hmeets : Meets (UpfState.createVm host.toVmProvider config name disabled) u _ _ :=
    UpfState.createVm_meets config name disabled
  unfold UpfState.createVm at hmeets ⊢
  refine ⟨rfl, rfl, rfl, ?_⟩
  intro network
  constructor
  · rintro ⟨address, h⟩
    by_contra hno
    have herror := unattached_interface host u.registered network (newVm host config name disabled u) ?_
    · cases h.symm.trans herror
    · intro hmem
      apply hno
      rcases List.mem_cons.1 hmem with rfl | hmem
      · exact List.mem_cons_self
      · exact List.mem_cons_of_mem _ (List.mem_dedup.1 (List.mem_of_mem_filter hmem))
  · exact hmeets.2.2 network

section Deploying

variable {config : UPFBlueCreateModel} {dnn : Option String}

theorem newConfiguration_deployable (h : SdCoreUPF.newConfiguration config vm dnn = .ok configuration) :
    dnn ≠ none ∧ config.start ≠ none ∧ ∃ pool, SdCoreUPF.getDnnIpPool config dnn = .ok pool := by
  obtain ⟨hname, hpool⟩ := SdCoreUPF.newConfiguration_spec h
  refine ⟨by rw [hname]; exact Option.some_ne_none _, ?_, _, hpool⟩
  unfold SdCoreUPF.newConfiguration at h
  obtain ⟨_, -, h⟩ := except_bind_ok.1 h
  obtain ⟨_, -, h⟩ := except_bind_ok.1 h
  obtain ⟨_, -, h⟩ := except_bind_ok.1 h
  obtain ⟨start, hstart, -⟩ := except_bind_ok.1 h
  intro hnone
  unfold SdCoreUPF.started at hstart
  rw [hnone] at hstart
  cases hstart

theorem deployedInfo_connected (h : UpfState.deployedInfo config slices networks vm configuratorId = .ok info) :
    vm.Connected networks.n4 ∧ vm.Connected networks.n3 ∧ vm.Connected networks.n6 := by
  unfold UpfState.deployedInfo at h
  obtain ⟨n4, hn4, h⟩ := except_bind_ok.1 h
  obtain ⟨n3, hn3, h⟩ := except_bind_ok.1 h
  obtain ⟨n6, hn6, -⟩ := except_bind_ok.1 h
  exact ⟨⟨n4, hn4⟩, ⟨n3, hn3⟩, ⟨n6, hn6⟩⟩

theorem createdWith_keeps {u : UpfState SdCoreUpfOwn} : Meets UpfState.createdWith u (fun _ u' => u' = u) (fun _ u' => u' = u) := by
  unfold UpfState.createdWith
  rw [meets_bind, meets_get]
  cases u.createConfig with
  | none => exact rfl
  | some config => exact rfl

/-- What the deployment of a DNN leaves, the DNN's entry apart. -/
def prepared (host : UpfHost) (s : SdCoreUpfBlueprint) (vm : VmResource) (configuration : SDCoreUPFConfiguration) : SdCoreUpfBlueprint where
  upf := { s.upf with
    registered := s.upf.registered + 2
    vmResources := s.upf.vmResources ++ [vm]
    configured := (vm.id, .sdcore configuration) :: s.upf.configured
    own := { s.upf.own with vmConfigurators := s.upf.own.vmConfigurators ++ [host.uuid (s.upf.registered + 1)] } }
  registeredResources := s.registeredResources ++ [(vm.id, .vm vm)] ++ [(host.uuid (s.upf.registered + 1), .configurator vm configuration)]

/-- A DNN is deployed exactly if its area has a VIM and its configuration can be made. -/
theorem deployUpfVm_meets (config : UPFBlueCreateModel) (dnn : Option String) (s : SdCoreUpfBlueprint) :
    Meets (deployUpfVm host config dnn) s
      (fun info s' => host.hasVim config.areaId = true ∧ SdCoreUPF.Deployable config s.upf dnn ∧ ∃ vm configuration,
        vm.id = host.uuid s.upf.registered ∧ vm.area = config.areaId ∧ some configuration.dnn = dnn ∧
        info.vmResourceId = vm.id ∧ info.vmConfiguratorId = host.uuid (s.upf.registered + 1) ∧ s' = prepared host s vm configuration)
      (fun _ s' => ¬ (host.hasVim config.areaId = true ∧ SdCoreUPF.Deployable config s.upf dnn) ∧
        s'.upf.own.currentlyDeployedDnns = s.upf.own.currentlyDeployedDnns ∧ s'.upf.currentConfig = s.upf.currentConfig) := by
  unfold deployUpfVm checkVim
  rw [meets_bind]
  by_cases hvim : host.hasVim config.areaId = true
  · rw [if_pos hvim, meets_pure, meets_bind, onUpf, meets_zoom]
    apply (createVm_attached config _ true s.upf).mono
    · rintro vm _ ⟨rfl, hid, harea, hconnected⟩
      unfold keep
      rw [meets_bind, meets_modify, meets_bind]
      apply (Generic5G.lift_meets _ _).mono
      · rintro configuration _ ⟨hconfiguration, rfl⟩
        show Meets (onUpf UpfState.createdWith >>= fun created => Generic5G.liftExcept (UpfState.deployedInfo config
          (SdCoreUPF.getSlicesForDnn config dnn) created.networks vm (host.uuid (s.upf.registered + 1)))) (prepared host s vm configuration) _ _
        rw [meets_bind, onUpf, meets_zoom]
        apply (UpfState.createdWith_meets.and createdWith_keeps).mono
        · rintro created _ ⟨⟨hcreated, rfl⟩, -⟩
          apply (Generic5G.lift_meets _ _).mono
          · rintro info _ ⟨hinfo, rfl⟩
            obtain ⟨hn4, hn3, hn6⟩ := deployedInfo_connected hinfo
            obtain ⟨hnamed, hstart, hpool⟩ := newConfiguration_deployable hconfiguration
            obtain ⟨-, hvm, hconf⟩ := UpfState.deployedInfo_spec hinfo
            refine ⟨hvim, ⟨hnamed, hstart, hpool, created, hcreated, (hconnected _).1 hn4, (hconnected _).1 hn3, (hconnected _).1 hn6⟩,
              vm, configuration, hid, harea, (SdCoreUPF.newConfiguration_spec hconfiguration).1.symm, hvm, hconf, rfl⟩
          · rintro _ _ ⟨herror, rfl⟩
            refine ⟨?_, rfl, rfl⟩
            rintro ⟨-, hdeployable⟩
            obtain ⟨created', hcreated', hn4, hn3, hn6⟩ := hdeployable.networks
            cases hcreated.symm.trans hcreated'
            obtain ⟨info, hinfo⟩ := UpfState.deployedInfo_ok config (SdCoreUPF.getSlicesForDnn config dnn)
              (host.uuid (s.upf.registered + 1)) ((hconnected _).2 hn4) ((hconnected _).2 hn3) ((hconnected _).2 hn6)
            rw [hinfo] at herror
            cases herror
        · rintro _ _ ⟨hnone, rfl⟩
          refine ⟨?_, rfl, rfl⟩
          rintro ⟨-, hdeployable⟩
          obtain ⟨created', hcreated', -⟩ := hdeployable.networks
          cases hnone.symm.trans hcreated'
      · rintro _ _ ⟨herror, rfl⟩
        refine ⟨?_, rfl, rfl⟩
        rintro ⟨-, hdeployable⟩
        obtain ⟨configuration, hok⟩ := SdCoreUPF.newConfiguration_ok hdeployable fun network hmem => (hconnected network).2 hmem
        rw [hok] at herror
        cases herror
    · exact fun _ _ h => h.elim
  · rw [if_neg hvim]
    exact ⟨fun h => hvim h.1, rfl, rfl⟩

end Deploying

/-! ### The deployments of a blueprint -/

/-- A DNN with what was made for it. -/
structure Deployment where
  dnn : String
  info : DeployedUPFInfo
  vm : VmResource
  configuration : SDCoreUPFConfiguration

namespace Deployment

def entry (d : Deployment) : Option String × DeployedUPFInfo := (some d.dnn, d.info)

def configuratorId (d : Deployment) : String := d.info.vmConfiguratorId

def ids (d : Deployment) : List String := [d.vm.id, d.configuratorId]

def resources (d : Deployment) : List (String × UpfResource) :=
  [(d.vm.id, .vm d.vm), (d.configuratorId, .configurator d.vm d.configuration)]

end Deployment

/-- The containers and the registry have what was made for the DNNs, and nothing else. -/
structure Holds (host : UpfHost) (ds : List Deployment) (s : SdCoreUpfBlueprint) : Prop where
  deployed : s.upf.own.currentlyDeployedDnns = ds.map Deployment.entry
  listed : s.upf.upfList = ds.map Deployment.info
  vms : s.upf.vmResources = ds.map Deployment.vm
  configurators : s.upf.own.vmConfigurators = ds.map Deployment.configuratorId
  registered : s.registeredResources.Perm (ds.flatMap Deployment.resources)
  own : ∀ d ∈ ds, d.info.vmResourceId = d.vm.id
  dnns : (ds.map Deployment.dnn).Nodup
  ids : (ds.flatMap Deployment.ids).Nodup
  known : ∀ id ∈ ds.flatMap Deployment.ids, ∃ n < s.upf.registered, id = host.uuid n
  areas : ∀ d ∈ ds, host.hasVim d.vm.area = true

variable {ds : List Deployment} {d : Deployment}

theorem Holds.keys (h : Holds host ds s) : (s.registeredResources.map Prod.fst).Perm (ds.flatMap Deployment.ids) := by
  have hmap := h.registered.map Prod.fst
  rw [List.map_flatMap] at hmap
  exact hmap

theorem Holds.unique (h : Holds host ds s) : Unique Prod.fst s.registeredResources :=
  h.keys.nodup_iff.2 h.ids

theorem Holds.toMap_deployed (h : Holds host ds s) (hd : d ∈ ds) :
    toMap Prod.fst s.upf.own.currentlyDeployedDnns (some d.dnn) = some d.entry := by
  rw [h.deployed]
  have hunique : Unique Prod.fst (ds.map Deployment.entry) := by
    unfold KeyedList.Unique
    rw [List.map_map]
    have hsome := h.dnns.map (f := some) fun a b he => Option.some.inj he
    rw [List.map_map] at hsome
    exact hsome
  exact hunique.toMap_mem (List.mem_map_of_mem hd)

theorem Holds.toMap_deployed_none (h : Holds host ds s) :
    toMap Prod.fst s.upf.own.currentlyDeployedDnns dnn = none ↔ ∀ d ∈ ds, some d.dnn ≠ dnn := by
  rw [h.deployed, toMap_eq_none, List.forall_mem_map]
  rfl

/-! ### Deploying a DNN -/

/-- The DNN's entry and its place in the list of UPFs. -/
def listing (dnn : Option String) (info : DeployedUPFInfo) (s : SdCoreUpfBlueprint) : SdCoreUpfBlueprint :=
  { s with upf := { s.upf with
    upfList := s.upf.upfList ++ [info]
    own := { s.upf.own with currentlyDeployedDnns := s.upf.own.currentlyDeployedDnns ++ [(dnn, info)] } } }

theorem Holds.deploy (h : Holds host ds s) (hnew : ∀ d ∈ ds, d.dnn ≠ configuration.dnn) (hid : vm.id = host.uuid s.upf.registered)
    (hvm : info.vmResourceId = vm.id) (hconfigurator : info.vmConfiguratorId = host.uuid (s.upf.registered + 1))
    (hvim : host.hasVim vm.area = true) : Holds host (ds ++ [⟨configuration.dnn, info, vm, configuration⟩])
      (listing configuration.dnn info (prepared host s vm configuration)) := by
  have hfresh : ∀ id ∈ ds.flatMap Deployment.ids, ∀ n, s.upf.registered ≤ n → id ≠ host.uuid n := by
    rintro id hmem n hn rfl
    obtain ⟨m, hm, he⟩ := h.known _ hmem
    have hsame := host.uuid_injective he
    omega
  constructor
  · show s.upf.own.currentlyDeployedDnns ++ _ = _
    rw [h.deployed, List.map_append]
    rfl
  · show s.upf.upfList ++ _ = _
    rw [h.listed, List.map_append]
    rfl
  · show s.upf.vmResources ++ _ = _
    rw [h.vms, List.map_append]
    rfl
  · show s.upf.own.vmConfigurators ++ _ = _
    rw [h.configurators, List.map_append, ← hconfigurator]
    rfl
  · show (s.registeredResources ++ _ ++ _).Perm _
    rw [List.flatMap_append, List.append_assoc, ← hconfigurator]
    exact h.registered.append_right _
  · intro d hd
    rcases List.mem_append.1 hd with hd | hd
    · exact h.own d hd
    · obtain rfl := List.mem_singleton.1 hd
      exact hvm
  · rw [List.map_append, List.map_singleton]
    refine List.Nodup.append h.dnns (List.nodup_singleton _) ?_
    intro name hname hself
    obtain ⟨d, hd, rfl⟩ := List.mem_map.1 hname
    exact hnew d hd (List.mem_singleton.1 hself)
  · rw [List.flatMap_append, List.flatMap_singleton]
    refine List.Nodup.append h.ids ?_ ?_
    · show [vm.id, info.vmConfiguratorId].Nodup
      rw [hid, hconfigurator]
      refine List.nodup_cons.2 ⟨?_, List.nodup_singleton _⟩
      intro hmem
      have hsame := host.uuid_injective (List.mem_singleton.1 hmem)
      omega
    · intro id hold hself
      rcases List.mem_cons.1 hself with rfl | hself
      · exact hfresh _ hold s.upf.registered (Nat.le_refl _) hid
      · exact hfresh _ hold (s.upf.registered + 1) (Nat.le_succ _) ((List.mem_singleton.1 hself).trans hconfigurator)
  · intro id hmem
    show ∃ n < s.upf.registered + 2, _
    rw [List.flatMap_append, List.mem_append] at hmem
    rcases hmem with hold | hself
    · obtain ⟨n, hn, he⟩ := h.known id hold
      exact ⟨n, Nat.lt_add_right 2 hn, he⟩
    · rw [List.flatMap_singleton] at hself
      rcases List.mem_cons.1 hself with rfl | hself
      · exact ⟨s.upf.registered, Nat.lt_add_of_pos_right Nat.zero_lt_two, hid⟩
      · exact ⟨s.upf.registered + 1, Nat.lt_succ_self _, (List.mem_singleton.1 hself).trans hconfigurator⟩
  · intro d hd
    rcases List.mem_append.1 hd with hd | hd
    · exact h.areas d hd
    · obtain rfl := List.mem_singleton.1 hd
      exact hvim

/-- The area of the configuration has a VIM, and the DNN can be configured. -/
def Ready (host : UpfHost) (config : UPFBlueCreateModel) (s : SdCoreUpfBlueprint) (dnn : Option String) : Prop :=
  host.hasVim config.areaId = true ∧ SdCoreUPF.Deployable config s.upf dnn

/-- The names of the deployed DNNs. -/
def names (s : SdCoreUpfBlueprint) : List (Option String) :=
  s.upf.own.currentlyDeployedDnns.map Prod.fst

theorem Holds.mem_names (h : Holds host ds s) : dnn ∈ names s ↔ ∃ d ∈ ds, some d.dnn = dnn := by
  unfold names
  rw [h.deployed, List.map_map, List.mem_map]
  rfl

/-- Only what the deployments hold may differ. -/
def SameConfigs (s s' : SdCoreUpfBlueprint) : Prop :=
  s'.upf.createConfig = s.upf.createConfig ∧ s'.upf.currentConfig = s.upf.currentConfig

theorem SameConfigs.trans (h : SameConfigs s s') (h' : SameConfigs s' s'') : SameConfigs s s'' :=
  ⟨h'.1.trans h.1, h'.2.trans h.2⟩

theorem SameConfigs.ready_iff {config : UPFBlueCreateModel} (h : SameConfigs s s') : Ready host config s' dnn ↔ Ready host config s dnn := by
  unfold Ready
  constructor
  · rintro ⟨hvim, hnamed, hstart, hpool, hnetworks⟩
    exact ⟨hvim, hnamed, hstart, hpool, h.1 ▸ hnetworks⟩
  · rintro ⟨hvim, hnamed, hstart, hpool, hnetworks⟩
    exact ⟨hvim, hnamed, hstart, hpool, h.1 ▸ hnetworks⟩

/-- DNNs that were not deployed were, and each could be. -/
structure Deploys (host : UpfHost) (config : UPFBlueCreateModel) (dnns : List (Option String)) (s s' : SdCoreUpfBlueprint) : Prop where
  holds : ∃ ds', Holds host ds' s'
  configs : SameConfigs s s'
  names : ∀ dnn, dnn ∈ names s' ↔ dnn ∈ names s ∨ dnn ∈ dnns
  ready : ∀ dnn ∈ dnns, dnn ∉ SdCoreUpfBlueprint.names s → Ready host config s dnn

/-- One of the DNNs could not be deployed. -/
def Refused (host : UpfHost) (config : UPFBlueCreateModel) (dnns : List (Option String)) (s s' : SdCoreUpfBlueprint) : Prop :=
  s'.upf.currentConfig = s.upf.currentConfig ∧ ∃ dnn ∈ dnns, dnn ∉ names s' ∧ dnn ∉ names s ∧ ¬ Ready host config s dnn

theorem deployDnn_meets (config : UPFBlueCreateModel) (dnn : Option String) (h : Holds host ds s) :
    Meets (deployDnn host config dnn) s (fun _ s' => Deploys host config [dnn] s s') (fun _ s' => Refused host config [dnn] s s') := by
  unfold deployDnn
  rw [meets_bind, meets_get]
  by_cases hnew : toMap Prod.fst s.upf.own.currentlyDeployedDnns dnn = none
  · have hnot : dnn ∉ names s := by
      rw [h.mem_names]
      rintro ⟨d, hd, he⟩
      exact h.toMap_deployed_none.1 hnew d hd he
    rw [if_pos (Option.isNone_iff_eq_none.2 hnew), meets_bind]
    apply (deployUpfVm_meets config dnn s).mono
    · rintro info _ ⟨hvim, hdeployable, vm, configuration, hid, harea, rfl, hvm, hconf, rfl⟩
      have hholds := h.deploy (fun d hd he => h.toMap_deployed_none.1 hnew d hd (congrArg some he)) hid hvm hconf (harea ▸ hvim)
      refine ⟨⟨_, hholds⟩, ⟨rfl, rfl⟩, ?_, ?_⟩
      · intro dnn
        show dnn ∈ (s.upf.own.currentlyDeployedDnns ++ [(some configuration.dnn, info)]).map Prod.fst ↔ _
        rw [List.map_append, List.mem_append]
        rfl
      · intro dnn hdnn _
        obtain rfl := List.mem_singleton.1 hdnn
        exact ⟨hvim, hdeployable⟩
    · rintro _ s' ⟨hnotReady, hkept, hcurrent⟩
      refine ⟨hcurrent, dnn, List.mem_singleton_self dnn, ?_, hnot, hnotReady⟩
      unfold names
      rw [hkept]
      exact hnot
  · have hold : dnn ∈ names s := by
      by_contra hno
      apply hnew
      apply h.toMap_deployed_none.2
      exact fun d hd he => hno (h.mem_names.2 ⟨d, hd, he⟩)
    rw [if_neg fun hnone => hnew (Option.isNone_iff_eq_none.1 hnone)]
    refine ⟨⟨ds, h⟩, ⟨rfl, rfl⟩, ?_, ?_⟩
    · intro other
      constructor
      · exact Or.inl
      · rintro (hmem | hmem)
        · exact hmem
        · rw [List.mem_singleton.1 hmem]
          exact hold
    · intro other hother hnot
      rw [List.mem_singleton.1 hother] at hnot
      exact absurd hold hnot

/-- The loop over the DNNs of the configuration. -/
theorem deployDnns_meets (config : UPFBlueCreateModel) (dnns : List (Option String)) (h : Holds host ds s) :
    Meets (forM dnns (deployDnn host config)) s (fun _ s' => Deploys host config dnns s s') (fun _ s' => Refused host config dnns s s') := by
  induction dnns generalizing ds s with
  | nil => exact ⟨⟨ds, h⟩, ⟨rfl, rfl⟩, fun dnn => ⟨Or.inl, fun h => h.resolve_right List.not_mem_nil⟩, fun dnn hdnn => (nomatch hdnn)⟩
  | cons dnn dnns ih =>
    rw [List.forM_cons, meets_bind]
    apply (deployDnn_meets config dnn h).mono
    · intro _ s₁ h₁
      obtain ⟨ds₁, hholds₁⟩ := h₁.holds
      apply (ih hholds₁).mono
      · intro _ s₂ h₂
        refine ⟨h₂.holds, h₁.configs.trans h₂.configs, ?_, ?_⟩
        · intro other
          rw [h₂.names, h₁.names, List.mem_singleton, List.mem_cons, or_assoc]
        · intro other hother hnot
          rcases List.mem_cons.1 hother with rfl | hother
          · exact h₁.ready other (List.mem_singleton_self other) hnot
          · by_cases hsame : other = dnn
            · rw [hsame] at hnot ⊢
              exact h₁.ready dnn (List.mem_singleton_self dnn) hnot
            · refine h₁.configs.ready_iff.1 (h₂.ready other hother ?_)
              rw [h₁.names, List.mem_singleton]
              exact fun hor => hor.elim hnot hsame
      · rintro _ s₂ ⟨hcurrent, other, hother, hnot₂, hnot₁, hready⟩
        refine ⟨hcurrent.trans h₁.configs.2, other, List.mem_cons_of_mem dnn hother, hnot₂, ?_, ?_⟩
        · exact fun hmem => hnot₁ ((h₁.names other).2 (.inl hmem))
        · exact fun hr => hready (h₁.configs.ready_iff.2 hr)
    · rintro _ s₁ ⟨hcurrent, other, hother, hrest⟩
      rw [List.mem_singleton] at hother
      exact ⟨hcurrent, other, hother ▸ List.mem_cons_self, hrest⟩

/-! ### Undeploying a DNN -/

def without (d : Deployment) (ds : List Deployment) : List Deployment :=
  ds.filter (fun other => decide (other.dnn ≠ d.dnn))

theorem map_sublist_flatMap {f : α → β} {g : α → List β} (h : ∀ x, [f x].Sublist (g x)) (xs : List α) : (xs.map f).Sublist (xs.flatMap g) := by
  induction xs with
  | nil => exact .slnil
  | cons x xs ih =>
    rw [List.map_cons, List.flatMap_cons]
    exact (h x).append ih

theorem Holds.vmIds (h : Holds host ds s) : Unique (fun d => d.vm.id) ds :=
  h.ids.sublist (map_sublist_flatMap (fun _ => .cons_cons _ (List.nil_sublist _)) ds)

theorem Holds.configuratorIds (h : Holds host ds s) : Unique Deployment.configuratorId ds :=
  h.ids.sublist (map_sublist_flatMap (fun _ => .cons _ (.refl _)) ds)

/-- The deployments with other machines, or other configurators, are the other deployments. -/
theorem Holds.filter_eq (h : Holds host ds s) (hd : d ∈ ds) [DecidableEq κ] {key : Deployment → κ} (hunique : Unique key ds) :
    ds.filter (fun other => decide (key other ≠ key d)) = without d ds := by
  apply List.filter_congr
  intro other hother
  refine decide_eq_decide.2 (not_congr ⟨fun he => ?_, fun he => ?_⟩)
  · rw [List.inj_on_of_nodup_map hunique hother hd he]
  · rw [List.inj_on_of_nodup_map h.dnns hother hd he]

theorem Holds.perm_cons (h : Holds host ds s) (hd : d ∈ ds) : ds.Perm (d :: without d ds) := by
  have hperm := perm_cons_erase (Unique.toMap_mem h.dnns hd)
  rw [Unique.erase_eq_filter h.dnns] at hperm
  exact hperm

theorem resources_keys (ds : List Deployment) : (ds.flatMap Deployment.resources).map Prod.fst = ds.flatMap Deployment.ids := by
  rw [List.map_flatMap]
  rfl

/-- What is registered for the other deployments. -/
theorem Holds.resources_without (h : Holds host ds s) (hd : d ∈ ds) :
    ((s.registeredResources.filter (fun x => decide (x.1 ≠ d.vm.id))).filter (fun x => decide (x.1 ≠ d.configuratorId))).Perm
      ((without d ds).flatMap Deployment.resources) := by
  have hperm := h.perm_cons hd
  have hids := ((hperm.flatMap_right Deployment.ids).nodup_iff).1 h.ids
  rw [List.flatMap_cons, List.nodup_append'] at hids
  have hothers : ∀ x ∈ (without d ds).flatMap Deployment.resources, x.1 ≠ d.vm.id ∧ x.1 ≠ d.configuratorId := by
    intro x hx
    have hmem : x.1 ∈ (without d ds).flatMap Deployment.ids := by
      rw [← resources_keys]
      exact List.mem_map_of_mem hx
    constructor
    · rintro he
      exact hids.2.2 List.mem_cons_self (he ▸ hmem)
    · rintro he
      exact hids.2.2 (List.mem_cons_of_mem _ List.mem_cons_self) (he ▸ hmem)
  refine (((h.registered.trans (hperm.flatMap_right Deployment.resources)).filter _).filter _).trans (List.Perm.of_eq ?_)
  have hself : (d.resources.filter (fun x => decide (x.1 ≠ d.vm.id))).filter (fun x => decide (x.1 ≠ d.configuratorId)) = [] := by
    rw [List.filter_filter, List.filter_eq_nil_iff]
    intro x hx
    rcases List.mem_cons.1 hx with rfl | hx
    · simp
    · rw [List.mem_singleton.1 hx]
      simp
  rw [List.flatMap_cons, List.filter_append, List.filter_append, hself, List.nil_append, List.filter_filter, List.filter_eq_self]
  intro x hx
  obtain ⟨hvm, hconf⟩ := hothers x hx
  simp [hvm, hconf]

theorem deregister_meets {id : String} (hunique : Unique Prod.fst s.registeredResources) (hmem : id ∈ s.registeredResources.map Prod.fst) :
    Meets (deregisterResourceById id) s
      (fun _ s' => s' = { s with registeredResources := s.registeredResources.filter (fun x => decide (x.1 ≠ id)) }) (fun _ _ => False) := by
  unfold deregisterResourceById
  rw [meets_bind, meets_get, if_pos hmem, meets_set, hunique.erase_eq_filter]

theorem Holds.toMap_vm (h : Holds host ds s) (hd : d ∈ ds) : toMap VmResource.id s.upf.vmResources d.vm.id = some d.vm := by
  have hunique : Unique VmResource.id s.upf.vmResources := by
    unfold KeyedList.Unique
    rw [h.vms, List.map_map]
    exact h.vmIds
  refine hunique.toMap_mem ?_
  rw [h.vms]
  exact List.mem_map_of_mem hd

/-- The state without a deployment. -/
def withdrawn (d : Deployment) (s : SdCoreUpfBlueprint) : SdCoreUpfBlueprint where
  upf := { s.upf with
    vmResources := KeyedList.erase VmResource.id s.upf.vmResources d.vm.id
    upfList := s.upf.upfList.erase d.info
    own := ⟨s.upf.own.vmConfigurators.erase d.configuratorId, KeyedList.erase Prod.fst s.upf.own.currentlyDeployedDnns (some d.dnn)⟩ }
  registeredResources := (s.registeredResources.filter (fun x => decide (x.1 ≠ d.vm.id))).filter (fun x => decide (x.1 ≠ d.configuratorId))

theorem undeployDnn_run (h : Holds host ds s) (hd : d ∈ ds) :
    Meets (undeployDnn (some d.dnn)) s (fun _ s' => s' = withdrawn d s) (fun _ _ => False) := by
  have hvm : ¬ (toMap VmResource.id s.upf.vmResources d.info.vmResourceId).isNone := by
    rw [h.own d hd, h.toMap_vm hd]
    exact Bool.false_ne_true
  have hconfigurator : ¬ d.info.vmConfiguratorId ∉ s.upf.own.vmConfigurators := by
    rw [h.configurators]
    exact fun hno => hno (List.mem_map_of_mem hd)
  have hlisted : ¬ d.info ∉ s.upf.upfList := by
    rw [h.listed]
    exact fun hno => hno (List.mem_map_of_mem hd)
  have hvmKey : d.vm.id ∈ s.registeredResources.map Prod.fst :=
    h.keys.mem_iff.2 (List.mem_flatMap.2 ⟨d, hd, List.mem_cons_self⟩)
  have hconfKey : d.configuratorId ∈ (s.registeredResources.filter (fun x => decide (x.1 ≠ d.vm.id))).map Prod.fst := by
    have hmem : d.configuratorId ∈ s.registeredResources.map Prod.fst :=
      h.keys.mem_iff.2 (List.mem_flatMap.2 ⟨d, hd, List.mem_cons_of_mem _ List.mem_cons_self⟩)
    obtain ⟨x, hx, he⟩ := List.mem_map.1 hmem
    refine List.mem_map.2 ⟨x, List.mem_filter.2 ⟨hx, decide_eq_true ?_⟩, he⟩
    rw [he]
    intro heq
    have hpair := (List.nodup_flatMap.1 h.ids).1 d hd
    exact (List.nodup_cons.1 hpair).1 (List.mem_singleton.2 heq.symm)
  unfold undeployDnn undeployUpfVm SdCoreUPF.deployedDnn
  rw [meets_bind, meets_bind, onUpf, meets_zoom, meets_bind, meets_get, h.toMap_deployed hd]
  dsimp only [Deployment.entry]
  rw [meets_pure, meets_bind, meets_get, if_neg hvm, meets_bind]
  have hown := h.own d hd
  rw [hown]
  apply (deregister_meets h.unique hvmKey).mono
  · rintro _ _ rfl
    rw [meets_bind]
    apply (deregister_meets (h.unique.filter _) hconfKey).mono
    · rintro _ _ rfl
      rw [meets_bind, onUpf, meets_zoom, meets_modify, if_neg hconfigurator, meets_bind, onUpf, meets_zoom, meets_modify, meets_pure,
        meets_bind, meets_get, if_neg hlisted, onUpf, meets_zoom, meets_modify]
      rfl
    · exact fun _ _ h => h
  · exact fun _ _ h => h

theorem Holds.withdraw (h : Holds host ds s) (hd : d ∈ ds) : Holds host (without d ds) (withdrawn d s) := by
  have hsub : (without d ds).Sublist ds := List.filter_sublist
  have hentries : Unique Prod.fst (ds.map Deployment.entry) := by
    unfold KeyedList.Unique
    rw [List.map_map]
    have hsome := h.dnns.map (f := some) fun a b he => Option.some.inj he
    rw [List.map_map] at hsome
    exact hsome
  constructor
  · show KeyedList.erase Prod.fst s.upf.own.currentlyDeployedDnns (some d.dnn) = _
    rw [h.deployed, hentries.erase_eq_filter, List.filter_map]
    congr 1
    apply List.filter_congr
    intro other _
    exact decide_eq_decide.2 (not_congr ⟨fun he => Option.some.inj he, fun he => congrArg some he⟩)
  · show s.upf.upfList.erase d.info = _
    have hinfos : Unique DeployedUPFInfo.vmConfiguratorId (ds.map Deployment.info) := by
      unfold KeyedList.Unique
      rw [List.map_map]
      exact h.configuratorIds
    rw [h.listed, hinfos.list_erase_eq_filter (List.mem_map_of_mem hd), List.filter_map]
    exact congrArg _ (h.filter_eq hd h.configuratorIds)
  · show KeyedList.erase VmResource.id s.upf.vmResources d.vm.id = _
    have hvms : Unique VmResource.id (ds.map Deployment.vm) := by
      unfold KeyedList.Unique
      rw [List.map_map]
      exact h.vmIds
    rw [h.vms, hvms.erase_eq_filter, List.filter_map]
    exact congrArg _ (h.filter_eq hd h.vmIds)
  · show s.upf.own.vmConfigurators.erase d.configuratorId = _
    have hids : Unique (fun id : String => id) (ds.map Deployment.configuratorId) := by
      unfold KeyedList.Unique
      rw [List.map_id']
      exact h.configuratorIds
    rw [h.configurators, hids.list_erase_eq_filter (List.mem_map_of_mem hd), List.filter_map]
    exact congrArg _ (h.filter_eq hd h.configuratorIds)
  · exact h.resources_without hd
  · exact fun other hother => h.own other (hsub.subset hother)
  · exact h.dnns.sublist (hsub.map _)
  · exact h.ids.sublist (hsub.flatMap _)
  · exact fun id hmem => h.known id ((hsub.flatMap _).subset hmem)
  · exact fun other hother => h.areas other (hsub.subset hother)

end SdCoreUpfBlueprint

end Nfvcl
