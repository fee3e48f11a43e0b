import Mathlib.Data.List.Basic
import Nfvcl.EdgeRecords
import Nfvcl.EdgeConfigs
import Nfvcl.UpfReports

namespace Nfvcl
set_option autoImplicit true
open Effects KeyedList

/-! ### What a UPF was configured with -/

/-- A DNN with its pool is among those of some slices. -/
def ServedIn (slices : List SliceModel) (name cidr : String) : Prop :=
  ∃ dnn ∈ slices.flatMap SliceModel.dnnList, dnn.name = some name ∧ dnn.cidr = some cidr

namespace UpfConfiguration

def Serves (name cidr : String) : UpfConfiguration → Prop
  | .oai configurator => ⟨name, cidr⟩ ∈ configurator.upfConf.dnns
  | .free5gc configurator => ⟨name, cidr⟩ ∈ configurator.upfConf.dnnList
  | .sdcore configuration => configuration.dnn = name ∧ configuration.ueIpPoolCidr = cidr

/-- The slices and DNNs are those of a model. The VM of SD-Core has one of the DNNs. -/
def Carries (model : UPFBlueCreateModel) : UpfConfiguration → Prop
  | .oai configurator => configurator.upfConf.snssais = model.slices.map OpenAirInterfaceUpf.snssaiOf ∧
    ∀ dnn, dnn ∈ configurator.upfConf.dnns ↔ ServedIn model.slices dnn.dnn dnn.ipv4Subnet
  | .free5gc configurator => ∀ dnn, dnn ∈ configurator.upfConf.dnnList ↔ ServedIn model.slices dnn.dnn dnn.cidr
  | .sdcore configuration => ServedIn model.slices configuration.dnn configuration.ueIpPoolCidr

end UpfConfiguration

namespace UpfBlueprint

def configured : UpfBlueprint → List (String × UpfConfiguration)
  | .oai s => s.configured
  | .free5gc s => s.configured
  | .sdcore s => s.configured

/-- The last configuration `configure_vm` ran on a VM. -/
def lastConfiguration (blueprint : UpfBlueprint) (vmId : String) : Option UpfConfiguration :=
  (toMap Prod.fst blueprint.configured vmId).map Prod.snd

/-- The VMs listed were configured for a model, and have its DNNs. -/
structure Configured (model : UPFBlueCreateModel) (infos : List DeployedUPFInfo) (blueprint : UpfBlueprint) : Prop where
  ran : ∀ info ∈ infos, ∃ configuration, blueprint.lastConfiguration info.vmResourceId = some configuration ∧
    configuration.Carries model
  all : ∀ name cidr, ServedIn model.slices name cidr → ∃ info ∈ infos, ∃ configuration,
    blueprint.lastConfiguration info.vmResourceId = some configuration ∧ configuration.Serves name cidr

/-- The state of a blueprint that was sent a model last. The ones with one VM are configured by `update` only. -/
def Fits (provider : VmProvider) (model : UPFBlueCreateModel) : UpfBlueprint → Prop
  | .oai s => (UpfBlueprint.oai s).Configured model s.upfList ∨ model.nrfIp = none
  | .free5gc s => (∃ vm info, s.vmResources.head? = some vm ∧ s.upfList = [info] ∧ info.vmResourceId = vm.id) ∧
    ((UpfBlueprint.free5gc s).Configured model s.upfList ∨ model.nrfIp = none)
  | .sdcore s => SdCoreUPF.Sound provider s ∧
    (∀ dnn, (∃ info, (dnn, info) ∈ s.own.currentlyDeployedDnns) ↔ dnn ∈ SdCoreUPF.dnnsToDeploy model) ∧
    ∀ p ∈ s.own.currentlyDeployedDnns, ∃ name pool, p.1 = some name ∧ SdCoreUPF.Serves s p.1 p.2 pool ∧
      ServedIn model.slices name pool ∧ ∀ cidr, ServedIn model.slices name cidr → cidr = pool

end UpfBlueprint

theorem SdCoreUPF.foundIpPool_spec {cidrs : List (Option String)} {found found' : Option String}
    (h : cidrs.foldlM SdCoreUPF.foundIpPool found = .ok found') :
    (found' = found ∨ found' ∈ cidrs) ∧ (∀ pool, found = some pool → found' = some pool) ∧
      ∀ pool, some pool ∈ cidrs → found' = some pool := by
  refine foldlM_spec (R := fun cidrs found found' => (found' = found ∨ found' ∈ cidrs) ∧
    (∀ pool, found = some pool → found' = some pool) ∧ ∀ pool, some pool ∈ cidrs → found' = some pool) cidrs h ?_ ?_
  · exact fun found => ⟨.inl rfl, fun _ h => h, fun _ h => (nomatch h)⟩
  · rintro cidr cidrs found found₁ found₂ hstep ⟨hsource, hkept, hmem⟩
    have hnext : found₁ = cidr ∧ ∀ pool, found = some pool → found₁ = some pool := by
      cases found with
      | none =>
        cases hstep
        exact ⟨rfl, fun _ h => (nomatch h)⟩
      | some pool =>
        unfold SdCoreUPF.foundIpPool at hstep
        dsimp only at hstep
        split at hstep
        · cases hstep
        · rename_i hsame
          cases hstep
          exact ⟨not_not.1 hsame, fun _ h => h⟩
    obtain ⟨rfl, hfirst⟩ := hnext
    refine ⟨.inr ?_, fun pool hpool => hkept pool (hfirst pool hpool), ?_⟩
    · rcases hsource with rfl | hin
      · exact List.mem_cons_self
      · exact List.mem_cons_of_mem _ hin
    · intro pool hpool
      rcases List.mem_cons.1 hpool with heq | hin
      · exact hkept pool heq.symm
      · exact hmem pool hin

/-- The pool of a DNN is the only one the slices have for it. -/
theorem SdCoreUPF.getDnnIpPool_spec {name : String} (h : SdCoreUPF.getDnnIpPool config (some name) = .ok pool) :
    ServedIn config.slices name pool ∧ ∀ cidr, ServedIn config.slices name cidr → cidr = pool := by
  unfold SdCoreUPF.getDnnIpPool at h
  obtain ⟨found, hfold, h⟩ := except_bind_ok.1 h
  cases found with
  | none => cases h
  | some found =>
    cases h
    obtain ⟨hsource, -, hmem⟩ := SdCoreUPF.foundIpPool_spec hfold
    constructor
    · obtain ⟨dnn, hdnn, hcidr⟩ := List.mem_map.1 (hsource.resolve_left (Option.some_ne_none _))
      obtain ⟨hdnn, hname⟩ := List.mem_filter.1 hdnn
      exact ⟨dnn, hdnn, of_decide_eq_true hname, hcidr⟩
    · rintro cidr ⟨dnn, hdnn, hname, hcidr⟩
      have hfound := hmem cidr (List.mem_map.2 ⟨dnn, List.mem_filter.2 ⟨hdnn, decide_eq_true hname⟩, hcidr⟩)
      exact (Option.some.inj hfound).symm

theorem mem_dnnsToDeploy_of_served {model : UPFBlueCreateModel} (h : ServedIn model.slices name cidr) :
    some name ∈ SdCoreUPF.dnnsToDeploy model := by
  obtain ⟨dnn, hdnn, hname, -⟩ := h
  exact List.mem_map.2 ⟨dnn, hdnn, hname⟩

namespace UpfBlueprint

section Calls

variable {provider : VmProvider}

/-- One VM, configured with everything. -/
theorem Configured.single {blueprint : UpfBlueprint} {configuration : UpfConfiguration}
    (hlast : blueprint.lastConfiguration info.vmResourceId = some configuration) (hcarries : configuration.Carries model)
    (hserves : ∀ name cidr, ServedIn model.slices name cidr → configuration.Serves name cidr) :
    blueprint.Configured model [info] where
  ran := by
    intro info' hinfo'
    rw [List.mem_singleton.1 hinfo']
    exact ⟨configuration, hlast, hcarries⟩
  all := fun name cidr h => ⟨info, List.mem_singleton_self info, configuration, hlast, hserves name cidr h⟩

theorem Fits.configured {blueprint : UpfBlueprint} (h : blueprint.Fits provider model)
    (hnrf : model.nrfIp = none → ∃ s, blueprint = .sdcore s) : blueprint.Configured model blueprint.getUpfsInfo := by
  cases blueprint with
  | oai s =>
    apply h.resolve_right
    intro hnone
    obtain ⟨s', hs'⟩ := hnrf hnone
    cases hs'
  | free5gc s =>
    apply h.2.resolve_right
    intro hnone
    obtain ⟨s', hs'⟩ := hnrf hnone
    cases hs'
  | sdcore s =>
    obtain ⟨hsound, hkeys, hentries⟩ := h
    have hran : ∀ p ∈ s.own.currentlyDeployedDnns, ∃ name configuration, p.1 = some name ∧
        (UpfBlueprint.sdcore s).lastConfiguration p.2.vmResourceId = some (.sdcore configuration) ∧
        configuration.dnn = name ∧ ServedIn model.slices name configuration.ueIpPoolCidr ∧
        ∀ cidr, ServedIn model.slices name cidr → configuration.ueIpPoolCidr = cidr := by
      intro p hp
      obtain ⟨name, pool, hname, ⟨configuration, hlast, hdnn, rfl⟩, hserved, honly⟩ := hentries p hp
      refine ⟨name, configuration, hname, ?_, ?_, hserved, fun cidr hcidr => (honly cidr hcidr).symm⟩
      · unfold lastConfiguration UpfBlueprint.configured
        rw [hlast]
        rfl
      · rw [hname] at hdnn
        exact (Option.some.inj hdnn).symm
    constructor
    · intro info hinfo
      obtain ⟨p, hp, rfl⟩ := List.mem_map.1 (hsound.listed.mem_iff.1 hinfo)
      obtain ⟨name, configuration, -, hlast, rfl, hserved, -⟩ := hran p hp
      exact ⟨_, hlast, hserved⟩
    · intro name cidr hserved
      obtain ⟨info, hinfo⟩ := (hkeys (some name)).2 (mem_dnnsToDeploy_of_served hserved)
      obtain ⟨name', configuration, hname, hlast, hdnn, -, honly⟩ := hran _ hinfo
      cases hname
      exact ⟨info, hsound.listed.mem_iff.2 (List.mem_map_of_mem hinfo), _, hlast, hdnn, honly cidr hserved⟩

/-- The slices of an SD-Core UPF have one pool for a DNN. -/
theorem Fits.one_pool {s : UpfState SdCoreUpfOwn} (h : (UpfBlueprint.sdcore s).Fits provider model)
    (hcidr : ServedIn model.slices name cidr) (hcidr' : ServedIn model.slices name cidr') : cidr = cidr' := by
  obtain ⟨-, hkeys, hentries⟩ := h
  obtain ⟨info, hinfo⟩ := (hkeys (some name)).2 (mem_dnnsToDeploy_of_served hcidr)
  obtain ⟨name', pool, hname, -, -, honly⟩ := hentries _ hinfo
  cases hname
  exact (honly cidr hcidr).trans (honly cidr' hcidr').symm

theorem leaves_of_returned {m : UpfM χ Unit} {wrap : UpfState χ → UpfBlueprint} {P : UpfBlueprint → Prop}
    (h : Meets m s (fun _ s' => P (wrap s')) E) (hreturned : (UpfState.leaves wrap m s).2 = none) :
    P (UpfState.leaves wrap m s).1 := by
  unfold Meets at h
  unfold UpfState.leaves at hreturned ⊢
  cases hrun : m.run s with
  | ok u s' =>
    rw [hrun] at h
    exact h
  | error e s' =>
    rw [hrun] at hreturned
    cases hreturned

theorem create_fits {kind : UpfKind} (hreturned : (create provider kind model).2 = none)
    (hready : kind = .sdcore ∨ model.nrfIp = none) : (create provider kind model).1.Fits provider model := by
  cases kind with
  | oai => 
    apply leaves_of_returned (P := fun blueprint => blueprint.Fits provider model) (E := fun _ _ => False) _ hreturned
    unfold UpfState.create
    rw [meets_bind, meets_modify]
    apply (UpfState.createSingle_meets _ _ model rfl).mono
    · exact fun _ _ _ => .inr (hready.resolve_left (by decide))
    · exact fun _ _ h => h
  | free5gc =>
    apply leaves_of_returned (P := fun blueprint => blueprint.Fits provider model) (E := fun _ _ => False) _ hreturned
    unfold UpfState.create
    rw [meets_bind, meets_modify]
    apply (UpfState.createSingle_meets _ _ model rfl).mono
    · rintro _ _ ⟨vm, info, -, -, -, -, hid, rfl⟩
      exact ⟨⟨vm, info, rfl, rfl, hid⟩, .inr (hready.resolve_left (by decide))⟩
    · exact fun _ _ h => h
  | sdcore =>
    apply leaves_of_returned (P := fun blueprint => blueprint.Fits provider model) (E := fun _ _ => True) _ hreturned
    unfold UpfState.create
    rw [meets_bind, meets_modify]
    have hempty : SdCoreUPF.Sound provider { createConfig := some model, currentConfig := some model, own := {} } :=
      ⟨List.nodup_nil, .refl _, fun _ h => (nomatch h), fun _ h => (nomatch h), List.nodup_nil, List.nodup_nil,
        fun _ h => (nomatch h)⟩
    apply (SdCoreUPF.updateDeployments_meets hempty).mono
    · intro _ s' hs'
      refine ⟨hs'.sound, hs'.keys, ?_⟩
      intro p hp
      rcases hs'.entries p hp with ⟨hold, -⟩ | ⟨-, pool, hpool, hserves⟩
      · cases hold
      · obtain ⟨configuration, -, hname, -⟩ := id hserves
        rw [hname] at hpool
        obtain ⟨hserved, honly⟩ := SdCoreUPF.getDnnIpPool_spec hpool
        exact ⟨configuration.dnn, pool, hname, hserves, hserved, honly⟩
    · exact fun _ _ _ => trivial

/-- Two models have one pool for the DNNs they share. -/
def SamePools (slices slices' : List SliceModel) : Prop :=
  ∀ name cidr cidr', ServedIn slices name cidr → ServedIn slices' name cidr' → cidr = cidr'

/-- The model an `update` carries fits afterwards. SD-Core keeps the VMs of the DNNs it has. -/
theorem update_fits {blueprint : UpfBlueprint} (h : blueprint.Fits provider current)
    (hreturned : (blueprint.update provider model).2 = none)
    (hpools : ∀ s, blueprint = .sdcore s → SamePools current.slices model.slices)
    (hcidrs : ∀ dnn ∈ model.slices.flatMap SliceModel.dnnList, dnn.cidr ≠ none) :
    (blueprint.update provider model).1.Fits provider model := by
  cases blueprint with
  | oai s =>
    apply leaves_of_returned (P := fun blueprint => blueprint.Fits provider model) (E := fun _ _ => True) _ hreturned
    unfold UpfState.update
    rw [meets_bind, meets_modify]
    apply (OpenAirInterfaceUpf.updateUpf_meets model _).mono
    · rintro _ _ ⟨vm, conf, newConfig, info, -, hconf, hnew, -, hid, rfl⟩
      obtain ⟨base, hsnssais, hdnns, hadds⟩ := OpenAirInterfaceUpf.newUpfConf_adds hconf
      have hdnn : ∀ dnn, dnn ∈ conf.dnns ↔ ServedIn model.slices dnn.dnn dnn.ipv4Subnet := by
        intro dnn
        rw [hadds.dnns, hdnns]
        simp only [List.not_mem_nil, false_or]
        rfl
      have hconf' : newConfig.upfConf = conf := by
        unfold OpenAirInterfaceUpf.newConfigurator at hnew
        split at hnew
        · cases hnew
        · cases hnew
          rfl
      left
      apply Configured.single
      · unfold lastConfiguration UpfBlueprint.configured
        rw [toMap_cons, if_pos hid.symm]
        rfl
      · refine ⟨?_, ?_⟩
        · rw [hconf', hadds.snssais, hsnssais, List.nil_append]
        · rw [hconf']
          exact hdnn
      · intro name cidr hserved
        change (⟨name, cidr⟩ : OaiDnn) ∈ newConfig.upfConf.dnns
        rw [hconf', hdnn]
        exact hserved
    · exact fun _ _ _ => trivial
  | free5gc s =>
    obtain ⟨⟨vm, info, hvm, hlist, hid⟩, -⟩ := h
    apply leaves_of_returned (P := fun blueprint => blueprint.Fits provider model) (E := fun _ _ => True) _ hreturned
    unfold UpfState.update
    rw [meets_bind, meets_modify]
    apply (Free5GCUpf.updateUpf_meets model _).mono
    · rintro _ _ ⟨vm', created, conf, newConfig, hvm', hconf, hnew, rfl⟩
      cases hvm.symm.trans hvm'
      have hdnn : ∀ dnn, dnn ∈ conf.dnnList ↔ ServedIn model.slices dnn.dnn dnn.cidr := Free5GCUpf.newUpfConf_dnns hconf
      have hconf' : newConfig.upfConf = conf := by
        unfold Free5GCUpf.newConfigurator at hnew
        obtain ⟨n6, -, hnew⟩ := except_bind_ok.1 hnew
        cases hnew
        rfl
      refine ⟨⟨vm, info, hvm, hlist, hid⟩, .inl ?_⟩
      change Configured model s.upfList _
      rw [hlist]
      apply Configured.single
      · unfold lastConfiguration UpfBlueprint.configured
        rw [toMap_cons, if_pos hid.symm]
        rfl
      · intro dnn
        rw [hconf']
        exact hdnn dnn
      · intro name cidr hserved
        change (⟨name, cidr⟩ : DnnListItem) ∈ newConfig.upfConf.dnnList
        rw [hconf', hdnn]
        exact hserved
    · exact fun _ _ _ => trivial
  | sdcore s =>
    obtain ⟨hsound, hkeys, hentries⟩ := h
    apply leaves_of_returned (P := fun blueprint => blueprint.Fits provider model) (E := fun _ _ => True) _ hreturned
    unfold UpfState.update
    rw [meets_bind, meets_modify]
    have hsound' : SdCoreUPF.Sound provider { s with currentConfig := some model } :=
      ⟨hsound.unique, hsound.listed, hsound.vms, hsound.configurators, hsound.vmIds, hsound.configuratorIds, hsound.known⟩
    apply (SdCoreUPF.updateDeployments_meets hsound').mono
    · intro _ s' hs'
      refine ⟨hs'.sound, hs'.keys, ?_⟩
      intro p hp
      rcases hs'.entries p hp with ⟨hold, hkept⟩ | ⟨-, pool, hpool, hserves⟩
      · obtain ⟨name, pool, hname, hserves, hserved, -⟩ := hentries p hold
        have hdeployed := (hs'.keys p.1).1 ⟨p.2, hp⟩
        rw [hname] at hdeployed
        obtain ⟨dnn, hdnn, hdnnName⟩ := List.mem_map.1 hdeployed
        obtain ⟨cidr, hcidr⟩ := Option.ne_none_iff_exists'.1 (hcidrs dnn hdnn)
        have hsame := hpools s rfl
        have hnow : ServedIn model.slices name pool := by
          have hcidr' : ServedIn model.slices name cidr := ⟨dnn, hdnn, hdnnName, hcidr⟩
          rw [hsame name pool cidr hserved hcidr']
          exact hcidr'
        exact ⟨name, pool, hname, hkept pool hserves, hnow, fun cidr' hcidr' => (hsame name pool cidr' hserved hcidr').symm⟩
      · obtain ⟨configuration, -, hname, -⟩ := id hserves
        rw [hname] at hpool
        obtain ⟨hserved, honly⟩ := SdCoreUPF.getDnnIpPool_spec hpool
        exact ⟨configuration.dnn, pool, hname, hserves, hserved, honly⟩
    · exact fun _ _ _ => trivial

end Calls

end UpfBlueprint

end Nfvcl
