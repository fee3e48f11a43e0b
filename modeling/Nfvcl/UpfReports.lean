import Mathlib.Data.List.Basic
import Nfvcl.Runs
import Nfvcl.EdgeRecovery
import Nfvcl.UpfSteps

namespace Nfvcl
set_option autoImplicit true
open Effects KeyedList

/-- What `get_upfs_info` answers covers the slices of a model and nothing else. -/
structure Reports (infos : List DeployedUPFInfo) (model : UPFBlueCreateModel) : Prop where
  served : ∀ slice ∈ model.slices, ∀ dnn ∈ slice.dnnList, ∃ info ∈ infos, slice ∈ info.servedSlices
  known : ∀ info ∈ infos, ∀ slice ∈ info.servedSlices, slice ∈ model.slices

/-- The slices of one model serve another. -/
structure SameService (old new : UPFBlueCreateModel) : Prop where
  served : ∀ slice ∈ new.slices, slice.dnnList ≠ [] → slice ∈ old.slices
  known : ∀ slice ∈ old.slices, slice ∈ new.slices

theorem SameService.refl (model : UPFBlueCreateModel) : SameService model model :=
  ⟨fun _ h _ => h, fun _ h => h⟩

namespace UpfBlueprint

/-- A model a blueprint can be created with. -/
def Creatable : UpfKind → UPFBlueCreateModel → Prop
  | .oai, _ => True
  | .free5gc, _ => True
  | .sdcore, model => ∀ dnn ∈ SdCoreUPF.dnnsToDeploy model,
    dnn ≠ none ∧ model.start ≠ none ∧ ∃ pool, SdCoreUPF.getDnnIpPool model dnn = .ok pool

/-- A model that `update` accepts and that does not change what deployed UPFs serve, where this is not reported. -/
def Keeps (model : UPFBlueCreateModel) : UpfBlueprint → Prop
  | .oai s => OpenAirInterfaceUpf.Accepts model s
  | .free5gc s => Free5GCUpf.Accepts model s ∧ ∀ created, s.createConfig = some created → SameService created model
  | .sdcore s => ∀ dnn ∈ SdCoreUPF.dnnsToDeploy model,
    if toMap Prod.fst s.own.currentlyDeployedDnns dnn = none then SdCoreUPF.Deployable model s dnn
    else ∀ current, s.currentConfig = some current →
      ∀ slice, slice ∈ SdCoreUPF.getSlicesForDnn model dnn ↔ slice ∈ SdCoreUPF.getSlicesForDnn current dnn

/-- The state after a call with the model that returned. -/
def Current (provider : VmProvider) (model : UPFBlueCreateModel) : UpfBlueprint → Prop
  | .oai s => s.vmResources ≠ [] ∧ s.own.configuratorId ≠ none ∧ ∃ info, s.upfList = [info] ∧ info.servedSlices = model.slices
  | .free5gc s => Free5GCUpf.Placed s ∧ ∃ created info, s.createConfig = some created ∧ SameService created model ∧
    s.upfList = [info] ∧ info.servedSlices = created.slices
  | .sdcore s => SdCoreUPF.Sound provider s ∧ s.currentConfig = some model ∧
    (∀ dnn, (∃ info, (dnn, info) ∈ s.own.currentlyDeployedDnns) ↔ dnn ∈ SdCoreUPF.dnnsToDeploy model) ∧
    ∀ p ∈ s.own.currentlyDeployedDnns, ∀ slice,
      slice ∈ p.2.servedSlices ↔ slice ∈ SdCoreUPF.getSlicesForDnn model p.1

section Calls

variable {provider : VmProvider}

theorem leaves_of_meets {m : UpfM χ Unit} {wrap : UpfState χ → UpfBlueprint} {P : UpfBlueprint → Prop}
    (h : Meets m s (fun _ s' => P (wrap s')) (fun _ _ => False)) : P (UpfState.leaves wrap m s).1 := by
  unfold Meets at h
  unfold UpfState.leaves
  cases hrun : m.run s with
  | ok u s' =>
    rw [hrun] at h
    exact h
  | error e s' =>
    rw [hrun] at h
    exact h.elim

theorem mem_dnnsToDeploy {model : UPFBlueCreateModel} (hslice : slice ∈ model.slices) (hdnn : dnn ∈ slice.dnnList) :
    dnn.name ∈ SdCoreUPF.dnnsToDeploy model :=
  List.mem_map_of_mem (List.mem_flatMap.2 ⟨slice, hslice, hdnn⟩)

theorem Current.reports {blueprint : UpfBlueprint} (h : blueprint.Current provider model) :
    Reports blueprint.getUpfsInfo model := by
  cases blueprint with
  | oai s =>
    obtain ⟨-, -, info, hlist, hserved⟩ := h
    have hmem : info ∈ s.upfList := by
      rw [hlist]
      exact List.mem_cons_self
    constructor
    · intro slice hslice _ _
      exact ⟨info, hmem, hserved ▸ hslice⟩
    · intro info' hinfo' slice hslice
      rw [getUpfsInfo, hlist, List.mem_singleton] at hinfo'
      rw [hinfo', hserved] at hslice
      exact hslice
  | free5gc s =>
    obtain ⟨-, created, info, -, hsame, hlist, hserved⟩ := h
    have hmem : info ∈ s.upfList := by
      rw [hlist]
      exact List.mem_cons_self
    constructor
    · intro slice hslice dnn hdnn
      refine ⟨info, hmem, ?_⟩
      rw [hserved]
      exact hsame.served slice hslice (List.ne_nil_of_mem hdnn)
    · intro info' hinfo' slice hslice
      rw [getUpfsInfo, hlist, List.mem_singleton] at hinfo'
      rw [hinfo', hserved] at hslice
      exact hsame.known slice hslice
  | sdcore s =>
    obtain ⟨hsound, -, hkeys, hserved⟩ := h
    constructor
    · intro slice hslice dnn hdnn
      obtain ⟨info, hinfo⟩ := (hkeys dnn.name).2 (mem_dnnsToDeploy hslice hdnn)
      refine ⟨info, hsound.listed.mem_iff.2 (List.mem_map_of_mem hinfo), ?_⟩
      rw [hserved _ hinfo]
      exact List.mem_filter.2 ⟨hslice, decide_eq_true (List.mem_map_of_mem hdnn)⟩
    · intro info hinfo slice hslice
      obtain ⟨p, hp, rfl⟩ := List.mem_map.1 (hsound.listed.mem_iff.1 hinfo)
      rw [hserved p hp] at hslice
      exact (List.mem_filter.1 hslice).1

theorem create_current {kind : UpfKind} (h : Creatable kind model) :
    (create provider kind model).1.Current provider model := by
  cases kind with
  | oai =>
    apply leaves_of_meets (P := fun blueprint => blueprint.Current provider model)
    unfold UpfState.create
    rw [meets_bind, meets_modify]
    apply (UpfState.createSingle_meets _ _ model rfl).mono
    · rintro _ _ ⟨vm, info, -, -, -, hserved, -, rfl⟩
      exact ⟨List.cons_ne_nil vm [], Option.some_ne_none _, info, rfl, hserved⟩
    · exact fun _ _ h => h
  | free5gc =>
    apply leaves_of_meets (P := fun blueprint => blueprint.Current provider model)
    unfold UpfState.create
    rw [meets_bind, meets_modify]
    apply (UpfState.createSingle_meets _ _ model rfl).mono
    · rintro _ _ ⟨vm, info, hn4, hn3, -, hserved, -, rfl⟩
      exact ⟨⟨vm, model, rfl, rfl, hn4, hn3, Option.some_ne_none _⟩, model, info, rfl, .refl model, rfl, hserved⟩
    · exact fun _ _ h => h
  | sdcore =>
    apply leaves_of_meets (P := fun blueprint => blueprint.Current provider model)
    unfold UpfState.create
    rw [meets_bind, meets_modify]
    have hempty : SdCoreUPF.Sound provider { createConfig := some model, currentConfig := some model, own := {} } :=
      ⟨List.nodup_nil, .refl _, fun _ h => (nomatch h), fun _ h => (nomatch h), List.nodup_nil, List.nodup_nil,
        fun _ h => (nomatch h)⟩
    apply (SdCoreUPF.updateDeployments_meets hempty).mono
    · intro _ s' hs'
      refine ⟨hs'.sound, hs'.currentConfig, hs'.keys, ?_⟩
      intro p hp slice
      rcases hs'.entries p hp with ⟨hold, -⟩ | ⟨hserved, -⟩
      · cases hold
      · rw [hserved]
    · rintro _ _ ⟨dnn, hdnn, -, hno⟩
      obtain ⟨hnamed, hstart, hpool⟩ := h dnn hdnn
      exact hno ⟨hnamed, hstart, hpool, model, rfl, by simp [BlueCreateModelNetworks.names]⟩

theorem update_current {blueprint : UpfBlueprint} (h : blueprint.Current provider current) (hkeeps : blueprint.Keeps model) :
    (blueprint.update provider model).1.Current provider model := by
  cases blueprint with
  | oai s =>
    obtain ⟨hvms, hconfigurator, -⟩ := h
    apply leaves_of_meets (P := fun blueprint => blueprint.Current provider model)
    unfold UpfState.update
    rw [meets_bind, meets_modify]
    apply (OpenAirInterfaceUpf.updateUpf_meets model _).mono
    · rintro _ _ ⟨vm, conf, newConfig, info, hvm, -, -, hserved, -, rfl⟩
      exact ⟨hvms, hconfigurator, info, rfl, hserved⟩
    · rintro _ _ hno
      exact hno ⟨⟨hkeeps.connected, hkeeps.nrf, hkeeps.slices, hkeeps.dnns⟩, hconfigurator, hvms⟩
  | free5gc s =>
    obtain ⟨hplaced, created, info, hcreated, -, hlist, hserved⟩ := h
    obtain ⟨haccepts, hsame⟩ := hkeeps
    apply leaves_of_meets (P := fun blueprint => blueprint.Current provider model)
    unfold UpfState.update
    rw [meets_bind, meets_modify]
    apply (Free5GCUpf.updateUpf_meets model _).mono
    · rintro _ _ ⟨vm, created', conf, newConfig, hvm, -, -, rfl⟩
      exact ⟨hplaced, created, info, hcreated, hsame created hcreated, hlist, hserved⟩
    · rintro _ _ hno
      exact hno ⟨⟨haccepts.connected, haccepts.dnns⟩, hplaced⟩
  | sdcore s =>
    obtain ⟨hsound, hcurrent, hkeys, hserved⟩ := h
    apply leaves_of_meets (P := fun blueprint => blueprint.Current provider model)
    unfold UpfState.update
    rw [meets_bind, meets_modify]
    have hsound' : SdCoreUPF.Sound provider { s with currentConfig := some model } :=
      ⟨hsound.unique, hsound.listed, hsound.vms, hsound.configurators, hsound.vmIds, hsound.configuratorIds, hsound.known⟩
    apply (SdCoreUPF.updateDeployments_meets hsound').mono
    · intro _ s' hs'
      refine ⟨hs'.sound, hs'.currentConfig, hs'.keys, ?_⟩
      intro p hp slice
      rcases hs'.entries p hp with ⟨hold, -⟩ | ⟨hnew, -⟩
      · have hdnn := (hs'.keys p.1).1 ⟨p.2, hp⟩
        have hunchanged := hkeeps p.1 hdnn
        rw [if_neg (fun hnone => toMap_eq_none.1 hnone p hold rfl)] at hunchanged
        rw [hserved p hold, hunchanged current hcurrent]
      · rw [hnew]
    · rintro _ _ ⟨dnn, hdnn, hnone, hno⟩
      have hdeployable := hkeeps dnn hdnn
      rw [if_pos hnone] at hdeployable
      exact hno ⟨hdeployable.named, hdeployable.start, hdeployable.pool, hdeployable.networks⟩

end Calls

end UpfBlueprint

/-- `create`, and then a sequence of updates. -/
def upfRun (provider : VmProvider) (kind : UpfKind) (initial : UPFBlueCreateModel) (updates : List UPFBlueCreateModel) :
    UpfBlueprint :=
  updates.foldl (fun blueprint model => (blueprint.update provider model).1) (UpfBlueprint.create provider kind initial).1

theorem foldl_current {provider : VmProvider} (updates : List UPFBlueCreateModel) {blueprint : UpfBlueprint}
    (h : blueprint.Current provider current)
    (hkeeps : Runs.Along (fun blueprint model => (UpfBlueprint.update provider model blueprint).1)
      (fun model blueprint => blueprint.Keeps model) blueprint updates) :
    (updates.foldl (fun blueprint model => (blueprint.update provider model).1) blueprint).Current provider
      (updates.getLastD current) := by
  induction updates generalizing blueprint current with
  | nil => exact h
  | cons model updates ih =>
    rw [List.foldl_cons, List.getLastD_cons]
    exact ih (UpfBlueprint.update_current h hkeeps.1) hkeeps.2

/-- Through every sequence of updates with models that keep what deployed UPFs serve, the report is that of the last
model. -/
theorem upfs_report (provider : VmProvider) (kind : UpfKind) (initial : UPFBlueCreateModel)
    (updates : List UPFBlueCreateModel) (hcreate : UpfBlueprint.Creatable kind initial)
    (hkeeps : Runs.Along (fun blueprint model => (UpfBlueprint.update provider model blueprint).1)
      (fun model blueprint => blueprint.Keeps model) (UpfBlueprint.create provider kind initial).1 updates) :
    Reports (upfRun provider kind initial updates).getUpfsInfo (updates.getLastD initial) :=
  (foldl_current updates (UpfBlueprint.create_current hcreate) hkeeps).reports

/-- VMs with one address on every network. -/
def campusVims : VmProvider where
  interfaces := fun _ _ _ => some [{ mac := "fa:16:3e:00:00:01", ip := campusAddress 6, cidr := campusNetwork }]
  attached := fun _ _ _ _ => ⟨_, _, rfl⟩
  uuid := fun n => String.ofList (List.replicate n '0')
  uuid_injective := by
    intro a b h
    have hlength := congrArg String.length h
    simpa using hlength

def campusDnn (name : String) (cidr : String) : DnnModel where
  name := some name
  cidr := some cidr

def campusSlice : SliceModel where
  id := "000001"
  dnnList := [campusDnn "internet" "10.250.0.0/16"]

/-- A second slice with the same DNN. -/
def campusVoice : SliceModel where
  id := "000002"
  dnnList := [campusDnn "internet" "10.250.0.0/16"]

def campusUpf (slices : List SliceModel) : UPFBlueCreateModel where
  areaId := 1
  networks := { mgt := "mgt", n4 := "wan", n3 := "n3", n6 := "n6" }
  nrfIp := some (campusAddress 7)
  slices := slices
  n3GatewayIp := campusAddress 1
  n6GatewayIp := campusAddress 2
  gnbCidr := campusNetwork

/-- The OAI UPF serves a slice that is added. -/
theorem upfs_report_campus :
    Reports (upfRun campusVims .oai (campusUpf [campusSlice]) [campusUpf [campusSlice, campusVoice]]).getUpfsInfo
      (campusUpf [campusSlice, campusVoice]) := by
  apply upfs_report campusVims .oai (campusUpf [campusSlice]) [campusUpf [campusSlice, campusVoice]] trivial
  refine ⟨⟨?_, ?_, ?_, ?_⟩, trivial⟩
  · rintro vm ⟨⟩
    exact ⟨⟨_, rfl⟩, ⟨_, rfl⟩, ⟨_, rfl⟩⟩
  · exact Option.some_ne_none _
  · decide
  · unfold DnnModel.Complete
    decide

/-- The free5gc UPF is sent a slice that is added, and reports those of its creation. -/
theorem upfs_report_fails :
    ¬ ∀ (provider : VmProvider) (kind : UpfKind) (initial : UPFBlueCreateModel) (updates : List UPFBlueCreateModel),
      Reports (upfRun provider kind initial updates).getUpfsInfo (updates.getLastD initial) := by
  intro h
  have hreports := h campusVims .free5gc (campusUpf [campusSlice]) [campusUpf [campusSlice, campusVoice]]
  obtain ⟨info, hinfo, hserved⟩ := hreports.served campusVoice (by decide) (campusDnn "internet" "10.250.0.0/16") (by decide)
  have hnone : ∀ info ∈ (upfRun campusVims .free5gc (campusUpf [campusSlice])
      [campusUpf [campusSlice, campusVoice]]).getUpfsInfo, campusVoice ∉ info.servedSlices := by decide +kernel
  exact hnone info hinfo hserved

end Nfvcl
