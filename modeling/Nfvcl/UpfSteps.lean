import Mathlib.Data.List.Basic
import Nfvcl.UpfBlueprints

namespace Nfvcl
set_option autoImplicit true
open Effects KeyedList

def VmResource.Connected (vm : VmResource) (network : String) : Prop :=
  ∃ address, vm.interface network = .ok address

def DnnModel.Complete (dnn : DnnModel) : Prop :=
  dnn.name ≠ none ∧ dnn.cidr ≠ none

def BlueCreateModelNetworks.names (networks : BlueCreateModelNetworks) : List String :=
  [networks.mgt, networks.n4, networks.n3, networks.n6]

theorem required_of_ne_none (field : String) (h : value ≠ none) : ∃ v, required field value = .ok v := by
  obtain ⟨v, rfl⟩ := Option.ne_none_iff_exists'.1 h
  exact ⟨v, rfl⟩

theorem required_eq_ok {field : String} (h : required field value = .ok v) : value = some v := by
  cases value with
  | none => cases h
  | some value =>
    cases h
    rfl

theorem configurator_ok {id : Option String} (h : id ≠ none) : ∃ found, configurator id = .ok found := by
  obtain ⟨found, rfl⟩ := Option.ne_none_iff_exists'.1 h
  exact ⟨found, rfl⟩

/-- A fold returns when each step does. -/
theorem foldlM_ok {f : β → α → Except ε β} {P : List α → β → Prop} (xs : List α) (b : β) (h : P xs b)
    (hstep : ∀ x xs b, P (x :: xs) b → ∃ b', f b x = .ok b' ∧ P xs b') : ∃ b', xs.foldlM f b = .ok b' := by
  induction xs generalizing b with
  | nil => exact ⟨b, rfl⟩
  | cons x xs ih =>
    obtain ⟨b₁, hb₁, h₁⟩ := hstep x xs b h
    obtain ⟨b₂, hb₂⟩ := ih b₁ h₁
    refine ⟨b₂, ?_⟩
    rw [List.foldlM_cons, hb₁]
    exact hb₂

/-- What holds of the steps of a fold holds of the fold. -/
theorem foldlM_spec {f : β → α → Except ε β} {R : List α → β → β → Prop} {b b' : β} (xs : List α) (h : xs.foldlM f b = .ok b')
    (hnil : ∀ b, R [] b b)
    (hstep : ∀ x xs b b₁ b₂, f b x = .ok b₁ → R xs b₁ b₂ → R (x :: xs) b b₂) : R xs b b' := by
  induction xs generalizing b with
  | nil =>
    cases h
    exact hnil _
  | cons x xs ih =>
    rw [List.foldlM_cons] at h
    obtain ⟨b₁, hb₁, h₁⟩ := except_bind_ok.1 h
    exact hstep x xs b b₁ b' hb₁ (ih h₁)

namespace UpfState

section Steps

variable {χ : Type} {provider : VmProvider} {s : UpfState χ}

/-- A new VM has an interface on every network it was asked for. -/
theorem createVm_meets (config : UPFBlueCreateModel) (name : String) (disabled : Bool) :
    Meets (createVm provider config name disabled) s
      (fun vm s' => s' = { s with registered := s.registered + 1 } ∧ vm.id = provider.uuid s.registered ∧
        ∀ network ∈ config.networks.names, vm.Connected network)
      (fun _ _ => False) := by
  have hconnected : ∀ n (vm : VmResource) network, network ∈ vm.getAllConnectedNetworkNames →
      ({ vm with networkInterfaces := provider.interfaces n vm } : VmResource).Connected network := by
    intro n vm network hmem
    obtain ⟨address, addresses, h⟩ := provider.attached n vm network hmem
    refine ⟨address, ?_⟩
    simp only [VmResource.interface, h]
  refine ⟨rfl, rfl, ?_⟩
  intro network hmem
  apply hconnected
  by_cases hmgt : network = config.networks.mgt
  · rw [hmgt]
    exact List.mem_cons_self
  · have hmem' := (List.mem_cons.1 hmem).resolve_left hmgt
    exact List.mem_cons_of_mem _ (List.mem_filter.2 ⟨List.mem_dedup.2 hmem', decide_eq_true hmgt⟩)

theorem registerResource_meets :
    Meets (registerResource provider) s
      (fun id s' => id = provider.uuid s.registered ∧ s' = { s with registered := s.registered + 1 })
      (fun _ _ => False) :=
  ⟨rfl, rfl⟩

theorem firstVm_meets :
    Meets firstVm s (fun vm s' => s.vmResources.head? = some vm ∧ s' = s) (fun _ _ => s.vmResources = []) := by
  unfold firstVm
  rw [meets_bind, meets_get]
  cases h : s.vmResources with
  | nil => exact rfl
  | cons vm vms => exact ⟨rfl, rfl⟩

theorem createdWith_meets :
    Meets createdWith s (fun config s' => s.createConfig = some config ∧ s' = s) (fun _ _ => s.createConfig = none) := by
  unfold createdWith
  rw [meets_bind, meets_get]
  cases h : s.createConfig with
  | none => exact rfl
  | some config => exact ⟨rfl, rfl⟩

theorem deployedInfo_ok (config : UPFBlueCreateModel) (slices : List SliceModel) (id : String) {vm : VmResource}
    (hn4 : vm.Connected networks.n4) (hn3 : vm.Connected networks.n3) (hn6 : vm.Connected networks.n6) :
    ∃ info, deployedInfo config slices networks vm id = .ok info := by
  obtain ⟨n4, hn4⟩ := hn4
  obtain ⟨n3, hn3⟩ := hn3
  obtain ⟨n6, hn6⟩ := hn6
  unfold deployedInfo
  rw [hn4, hn3, hn6]
  exact ⟨_, rfl⟩

theorem deployedInfo_spec {id : String} (h : deployedInfo config slices networks vm id = .ok info) :
    info.servedSlices = slices ∧ info.vmResourceId = vm.id ∧ info.vmConfiguratorId = id := by
  unfold deployedInfo at h
  obtain ⟨n4, -, h⟩ := except_bind_ok.1 h
  obtain ⟨n3, -, h⟩ := except_bind_ok.1 h
  obtain ⟨n6, -, h⟩ := except_bind_ok.1 h
  cases h
  exact ⟨rfl, rfl, rfl⟩

theorem updateUpfInfo_meets (configuratorId : Option String) (config : UPFBlueCreateModel) :
    Meets (updateUpfInfo configuratorId config) s
      (fun _ s' => ∃ vm info, s.vmResources.head? = some vm ∧ info.servedSlices = config.slices ∧
        info.vmResourceId = vm.id ∧ s' = { s with upfList := [info] })
      (fun _ _ => ¬ (configuratorId ≠ none ∧ ∃ vm, s.vmResources.head? = some vm ∧ vm.Connected config.networks.n4 ∧
        vm.Connected config.networks.n3 ∧ vm.Connected config.networks.n6)) := by
  unfold updateUpfInfo
  rw [meets_bind]
  apply firstVm_meets.mono
  · rintro vm _ ⟨hvm, rfl⟩
    rw [meets_bind]
    apply (Generic5G.lift_meets _ _).mono
    · rintro id _ ⟨hid, rfl⟩
      rw [meets_bind]
      apply (Generic5G.lift_meets _ _).mono
      · rintro info _ ⟨hinfo, rfl⟩
        obtain ⟨hserved, hid', -⟩ := deployedInfo_spec hinfo
        exact ⟨vm, info, hvm, hserved, hid', rfl⟩
      · rintro _ _ ⟨herror, -⟩ ⟨-, vm', hvm', hn4, hn3, hn6⟩
        cases hvm.symm.trans hvm'
        obtain ⟨info, hinfo⟩ := deployedInfo_ok config config.slices id hn4 hn3 hn6
        rw [hinfo] at herror
        cases herror
    · rintro _ _ ⟨herror, -⟩ ⟨hid, -⟩
      cases configuratorId with
      | none => exact hid rfl
      | some id => cases herror
  · rintro _ _ hnone ⟨-, vm, hvm, -⟩
    rw [hnone] at hvm
    cases hvm

theorem createSingle_meets (name : String) (setConfigurator : String → χ → χ) (config : UPFBlueCreateModel)
    (hnone : s.vmResources = []) :
    Meets (createSingle provider name setConfigurator config) s
      (fun _ s' => ∃ vm info, vm.Connected config.networks.n4 ∧ vm.Connected config.networks.n3 ∧
        vm.Connected config.networks.n6 ∧ info.servedSlices = config.slices ∧ info.vmResourceId = vm.id ∧
        s' = { s with registered := s.registered + 2, vmResources := [vm], upfList := [info], own := setConfigurator (provider.uuid (s.registered + 1)) s.own })
      (fun _ _ => False) := by
  unfold createSingle
  rw [meets_bind]
  apply (createVm_meets config name false).mono
  · rintro vm _ ⟨rfl, hid, hconnected⟩
    have hn4 : vm.Connected config.networks.n4 := hconnected _ (by simp [BlueCreateModelNetworks.names])
    have hn3 : vm.Connected config.networks.n3 := hconnected _ (by simp [BlueCreateModelNetworks.names])
    have hn6 : vm.Connected config.networks.n6 := hconnected _ (by simp [BlueCreateModelNetworks.names])
    unfold storeVm registerResource
    rw [meets_bind, meets_modify]
    apply (updateUpfInfo_meets _ config).mono
    · rintro _ _ ⟨vm', info, hvm', hserved, hid', rfl⟩
      rw [hnone] at hvm'
      cases hvm'
      refine ⟨vm, info, hn4, hn3, hn6, hserved, hid', ?_⟩
      rw [hnone]
      rfl
    · rintro _ _ hno
      apply hno
      refine ⟨Option.some_ne_none _, vm, ?_, hn4, hn3, hn6⟩
      rw [hnone]
      rfl
  · exact fun _ _ h => h

end Steps

end UpfState

/-! ### OpenAirInterfaceUpf -/

namespace OpenAirInterfaceUpf

/-- What `update` needs of a model. -/
structure Accepts (model : UPFBlueCreateModel) (s : UpfState OAIUpfOwn) : Prop where
  connected : ∀ vm, s.vmResources.head? = some vm →
    vm.Connected model.networks.n4 ∧ vm.Connected model.networks.n3 ∧ vm.Connected model.networks.n6
  nrf : model.nrfIp ≠ none
  slices : (model.slices.map snssaiOf).Nodup
  dnns : ∀ slice ∈ model.slices, ∀ dnn ∈ slice.dnnList, dnn.Complete

/-- Slices and DNNs were added to a configuration. -/
structure Adds (snssais : List Snssai) (dnns : List DnnModel) (conf conf' : Upfconfig) : Prop where
  snssais : conf'.snssais = conf.snssais ++ snssais
  dnns : ∀ x, x ∈ conf'.dnns ↔ x ∈ conf.dnns ∨ ∃ dnn ∈ dnns, dnn.name = some x.dnn ∧ dnn.cidr = some x.ipv4Subnet

theorem Adds.nil (conf : Upfconfig) : Adds [] [] conf conf :=
  ⟨(List.append_nil _).symm, fun x => by simp⟩

theorem Adds.trans {snssais snssais' : List Snssai} {dnns dnns' : List DnnModel} (h : Adds snssais dnns conf conf') (h' : Adds snssais' dnns' conf' conf'') :
    Adds (snssais ++ snssais') (dnns ++ dnns') conf conf'' where
  snssais := by rw [h'.snssais, h.snssais, List.append_assoc]
  dnns := by
    intro x
    rw [h'.dnns, h.dnns, or_assoc]
    simp only [List.mem_append, or_and_right, exists_or]

theorem addDnn_adds (h : addDnn snssai conf dnn = .ok conf') : Adds [] [dnn] conf conf' := by
  unfold addDnn at h
  obtain ⟨name, hname, h⟩ := except_bind_ok.1 h
  obtain ⟨cidr, hcidr, h⟩ := except_bind_ok.1 h
  cases h
  have hname := required_eq_ok hname
  have hcidr := required_eq_ok hcidr
  have hself : ∀ x : OaiDnn, (dnn.name = some x.dnn ∧ dnn.cidr = some x.ipv4Subnet) ↔ x = ⟨name, cidr⟩ := by
    rintro ⟨n, c⟩
    rw [hname, hcidr]
    simp only [Option.some.injEq, OaiDnn.mk.injEq, eq_comm]
  constructor
  · unfold addDnnDnns
    rw [List.append_nil]
    split <;> rfl
  · intro x
    simp only [List.mem_singleton, exists_eq_left, hself]
    unfold addDnnDnns
    split
    · rename_i hmem
      constructor
      · exact .inl
      · rintro (hx | rfl)
        · exact hx
        · exact hmem
    · simp only [List.mem_append, List.mem_singleton]

theorem addDnn_ok (snssai : Snssai) (conf : Upfconfig) (h : dnn.Complete) : ∃ conf', addDnn snssai conf dnn = .ok conf' := by
  obtain ⟨name, hname⟩ := required_of_ne_none "dnn" h.1
  obtain ⟨cidr, hcidr⟩ := required_of_ne_none "ipv4_subnet" h.2
  unfold addDnn
  rw [hname, hcidr]
  exact ⟨_, rfl⟩

theorem addSlice_adds (h : addSlice conf slice = .ok conf') : Adds [snssaiOf slice] slice.dnnList conf conf' := by
  unfold addSlice at h
  obtain ⟨conf₁, hadd, h⟩ := except_bind_ok.1 h
  have hfold := foldlM_spec (R := fun dnns => Adds [] dnns) slice.dnnList h Adds.nil
    (fun dnn dnns b b₁ b₂ hb hrest => (addDnn_adds hb).trans hrest)
  have hfirst : Adds [snssaiOf slice] [] conf conf₁ := by
    unfold addSnssai at hadd
    split at hadd
    · cases hadd
    · cases hadd
      exact ⟨rfl, fun x => by simp⟩
  exact hfirst.trans hfold

theorem addSlice_ok (hnew : snssaiOf slice ∉ conf.snssais) (hdnns : ∀ dnn ∈ slice.dnnList, dnn.Complete) :
    ∃ conf', addSlice conf slice = .ok conf' := by
  unfold addSlice addSnssai
  rw [if_neg hnew]
  apply foldlM_ok (P := fun dnns _ => ∀ dnn ∈ dnns, dnn.Complete) slice.dnnList _ hdnns
  intro dnn dnns conf₁ h
  obtain ⟨conf₂, hadd⟩ := addDnn_ok (snssaiOf slice) conf₁ (h dnn List.mem_cons_self)
  exact ⟨conf₂, hadd, fun dnn' hdnn' => h dnn' (List.mem_cons_of_mem dnn hdnn')⟩

theorem newUpfConf_adds (h : newUpfConf config vm = .ok conf) :
    ∃ base : Upfconfig, base.snssais = [] ∧ base.dnns = [] ∧
      Adds (config.slices.map snssaiOf) (config.slices.flatMap SliceModel.dnnList) base conf := by
  unfold newUpfConf at h
  obtain ⟨n4, -, h⟩ := except_bind_ok.1 h
  obtain ⟨n3, -, h⟩ := except_bind_ok.1 h
  obtain ⟨n6, -, h⟩ := except_bind_ok.1 h
  have hfold := foldlM_spec (R := fun slices => Adds (slices.map snssaiOf) (slices.flatMap SliceModel.dnnList))
    config.slices h Adds.nil (fun slice slices b b₁ b₂ hb hrest => (addSlice_adds hb).trans hrest)
  exact ⟨_, rfl, rfl, hfold⟩

theorem newUpfConf_ok {s : UpfState OAIUpfOwn} (h : Accepts model s) (hvm : s.vmResources.head? = some vm) :
    ∃ conf, newUpfConf model vm = .ok conf := by
  obtain ⟨⟨n4, hn4⟩, ⟨n3, hn3⟩, ⟨n6, hn6⟩⟩ := h.connected vm hvm
  unfold newUpfConf
  rw [hn4, hn3, hn6]
  apply foldlM_ok (P := fun slices conf => (conf.snssais ++ slices.map snssaiOf).Nodup ∧
    ∀ slice ∈ slices, ∀ dnn ∈ slice.dnnList, dnn.Complete) model.slices _ ⟨h.slices, h.dnns⟩
  rintro slice slices conf ⟨hnodup, hdnns⟩
  have hnew : snssaiOf slice ∉ conf.snssais := by
    intro hmem
    exact (List.nodup_append.1 hnodup).2.2 _ hmem _ List.mem_cons_self rfl
  obtain ⟨conf', hadd⟩ := addSlice_ok hnew (hdnns slice List.mem_cons_self)
  refine ⟨conf', hadd, ?_, fun slice' hslice' => hdnns slice' (List.mem_cons_of_mem slice hslice')⟩
  rw [(addSlice_adds hadd).snssais, List.append_assoc]
  exact hnodup

theorem updateUpf_meets (config : UPFBlueCreateModel) (s : UpfState OAIUpfOwn) :
    Meets (updateUpf config) s
      (fun _ s' => ∃ vm conf newConfig info, s.vmResources.head? = some vm ∧ newUpfConf config vm = .ok conf ∧
        newConfigurator config conf = .ok newConfig ∧ info.servedSlices = config.slices ∧ info.vmResourceId = vm.id ∧
        s' = { s with own := { s.own with upfConf := conf }, configured := (vm.id, .oai newConfig) :: s.configured, upfList := [info] })
      (fun _ _ => ¬ (Accepts config s ∧ s.own.configuratorId ≠ none ∧ s.vmResources ≠ [])) := by
  unfold updateUpf
  rw [meets_bind]
  apply UpfState.firstVm_meets.mono
  · rintro vm _ ⟨hvm, rfl⟩
    rw [meets_bind]
    apply (Generic5G.lift_meets _ _).mono
    · rintro conf _ ⟨hconf, rfl⟩
      rw [meets_bind, meets_modify, meets_bind, meets_get, meets_bind]
      apply (Generic5G.lift_meets _ _).mono
      · rintro id _ ⟨hid, rfl⟩
        rw [meets_bind]
        apply (Generic5G.lift_meets _ _).mono
        · rintro newConfig _ ⟨hnew, rfl⟩
          unfold UpfState.configureVm updateUpfInfo
          rw [meets_bind, meets_modify, meets_bind, meets_get]
          apply (UpfState.updateUpfInfo_meets _ config).mono
          · rintro _ _ ⟨vm', info, hvm', hserved, hid', rfl⟩
            cases hvm.symm.trans hvm'
            exact ⟨vm, conf, newConfig, info, hvm, hconf, hnew, hserved, hid', rfl⟩
          · rintro _ _ hno ⟨haccepts, hconfigurator, -⟩
            exact hno ⟨hconfigurator, vm, hvm, haccepts.connected vm hvm⟩
        · rintro _ _ ⟨herror, -⟩ ⟨haccepts, -⟩
          obtain ⟨nrfIp, hnrf⟩ := Option.ne_none_iff_exists'.1 haccepts.nrf
          rw [newConfigurator, hnrf] at herror
          cases herror
      · rintro _ _ ⟨herror, -⟩ ⟨-, hconfigurator, -⟩
        obtain ⟨id, hid⟩ := configurator_ok hconfigurator
        rw [hid] at herror
        cases herror
    · rintro _ _ ⟨herror, -⟩ ⟨haccepts, -⟩
      obtain ⟨conf, hconf⟩ := newUpfConf_ok haccepts hvm
      rw [hconf] at herror
      cases herror
  · exact fun _ _ hnone h => h.2.2 hnone

end OpenAirInterfaceUpf

/-! ### Free5GCUpf -/

namespace Free5GCUpf

/-- What `update` needs of a model. -/
structure Accepts (model : UPFBlueCreateModel) (s : UpfState Free5gcUpfOwn) : Prop where
  connected : ∀ vm, s.vmResources.head? = some vm → vm.Connected model.networks.n6
  dnns : ∀ slice ∈ model.slices, ∀ dnn ∈ slice.dnnList, dnn.Complete

theorem addDnn_mem (h : addDnn dnns dnn = .ok dnns') (x : DnnListItem) :
    x ∈ dnns' ↔ x ∈ dnns ∨ (dnn.name = some x.dnn ∧ dnn.cidr = some x.cidr) := by
  unfold addDnn at h
  obtain ⟨name, hname, h⟩ := except_bind_ok.1 h
  obtain ⟨cidr, hcidr, h⟩ := except_bind_ok.1 h
  cases h
  have hself : (dnn.name = some x.dnn ∧ dnn.cidr = some x.cidr) ↔ x = ⟨name, cidr⟩ := by
    obtain ⟨n, c⟩ := x
    rw [required_eq_ok hname, required_eq_ok hcidr]
    simp only [Option.some.injEq, DnnListItem.mk.injEq, eq_comm]
  rw [hself]
  split
  · rename_i hmem
    constructor
    · exact .inl
    · rintro (hx | rfl)
      · exact hx
      · exact hmem
  · simp only [List.mem_append, List.mem_singleton]

theorem addDnn_ok (dnns : List DnnListItem) (h : dnn.Complete) : ∃ dnns', addDnn dnns dnn = .ok dnns' := by
  obtain ⟨name, hname⟩ := required_of_ne_none "dnn" h.1
  obtain ⟨cidr, hcidr⟩ := required_of_ne_none "cidr" h.2
  unfold addDnn
  rw [hname, hcidr]
  exact ⟨_, rfl⟩

/-- The DNNs of the configuration are those of the model. -/
theorem newUpfConf_dnns (h : newUpfConf config created vm = .ok conf) (x : DnnListItem) :
    x ∈ conf.dnnList ↔ ∃ dnn ∈ config.slices.flatMap SliceModel.dnnList, dnn.name = some x.dnn ∧ dnn.cidr = some x.cidr := by
  unfold newUpfConf at h
  obtain ⟨n4, -, h⟩ := except_bind_ok.1 h
  obtain ⟨n3, -, h⟩ := except_bind_ok.1 h
  obtain ⟨dnnList, hfold, h⟩ := except_bind_ok.1 h
  cases h
  have hmem := foldlM_spec (R := fun dnns (b b' : List DnnListItem) =>
      x ∈ b' ↔ x ∈ b ∨ ∃ dnn ∈ dnns, dnn.name = some x.dnn ∧ dnn.cidr = some x.cidr) _ hfold (fun b => by simp) ?_
  · rw [hmem]
    simp only [List.not_mem_nil, false_or]
  · intro dnn dnns b b₁ b₂ hb hrest
    rw [hrest, addDnn_mem hb]
    simp only [List.mem_cons, exists_eq_or_imp, or_assoc]

theorem newUpfConf_ok {s : UpfState Free5gcUpfOwn} (h : Accepts model s) (hn4 : vm.Connected created.networks.n4)
    (hn3 : vm.Connected created.networks.n3) : ∃ conf, newUpfConf model created vm = .ok conf := by
  obtain ⟨n4, hn4⟩ := hn4
  obtain ⟨n3, hn3⟩ := hn3
  have hcomplete : ∀ dnn ∈ model.slices.flatMap SliceModel.dnnList, dnn.Complete := by
    intro dnn hdnn
    obtain ⟨slice, hslice, hdnn⟩ := List.mem_flatMap.1 hdnn
    exact h.dnns slice hslice dnn hdnn
  obtain ⟨dnnList, hfold⟩ := foldlM_ok (f := addDnn) (P := fun dnns _ => ∀ dnn ∈ dnns, dnn.Complete) _ [] hcomplete
    (fun dnn dnns b hdnns =>
      let ⟨b', hb'⟩ := addDnn_ok b (hdnns dnn List.mem_cons_self)
      ⟨b', hb', fun dnn' hdnn' => hdnns dnn' (List.mem_cons_of_mem dnn hdnn')⟩)
  unfold newUpfConf
  rw [hn4, hn3]
  change ∃ conf, (List.foldlM addDnn [] (model.slices.flatMap SliceModel.dnnList) >>= _) = Except.ok conf
  rw [hfold]
  exact ⟨_, rfl⟩

/-- The VM is on the networks of the creation. -/
def Placed (s : UpfState Free5gcUpfOwn) : Prop :=
  ∃ vm created, s.vmResources.head? = some vm ∧ s.createConfig = some created ∧
    vm.Connected created.networks.n4 ∧ vm.Connected created.networks.n3 ∧ s.own.configuratorId ≠ none

theorem updateUpf_meets (config : UPFBlueCreateModel) (s : UpfState Free5gcUpfOwn) :
    Meets (updateUpf config) s
      (fun _ s' => ∃ vm created conf newConfig, s.vmResources.head? = some vm ∧ newUpfConf config created vm = .ok conf ∧
        newConfigurator config vm conf = .ok newConfig ∧
        s' = { s with own := { s.own with upfConf := conf }, configured := (vm.id, .free5gc newConfig) :: s.configured })
      (fun _ _ => ¬ (Accepts config s ∧ Placed s)) := by
  unfold updateUpf
  rw [meets_bind]
  apply UpfState.firstVm_meets.mono
  · rintro vm _ ⟨hvm, rfl⟩
    rw [meets_bind]
    apply UpfState.createdWith_meets.mono
    · rintro created _ ⟨hcreated, rfl⟩
      rw [meets_bind]
      apply (Generic5G.lift_meets _ _).mono
      · rintro conf _ ⟨hconf, rfl⟩
        rw [meets_bind, meets_modify, meets_bind, meets_get, meets_bind]
        apply (Generic5G.lift_meets _ _).mono
        · rintro id _ ⟨hid, rfl⟩
          rw [meets_bind]
          apply (Generic5G.lift_meets _ _).mono
          · rintro newConfig _ ⟨hnew, rfl⟩
            exact ⟨vm, created, conf, newConfig, hvm, hconf, hnew, rfl⟩
          · rintro _ _ ⟨herror, -⟩ ⟨haccepts, -⟩
            obtain ⟨n6, hn6⟩ := haccepts.connected vm hvm
            rw [newConfigurator, hn6] at herror
            cases herror
        · rintro _ _ ⟨herror, -⟩ ⟨-, vm', created', -, -, -, -, hconfigurator⟩
          obtain ⟨id, hid⟩ := configurator_ok hconfigurator
          rw [hid] at herror
          cases herror
      · rintro _ _ ⟨herror, -⟩ ⟨haccepts, vm', created', hvm', hcreated', hn4, hn3, -⟩
        cases hvm.symm.trans hvm'
        cases hcreated.symm.trans hcreated'
        obtain ⟨conf, hconf⟩ := newUpfConf_ok haccepts hn4 hn3
        rw [hconf] at herror
        cases herror
    · rintro _ _ hnone ⟨-, vm', created', -, hcreated', -⟩
      rw [hnone] at hcreated'
      cases hcreated'
  · rintro _ _ hnone ⟨-, vm', created', hvm', -⟩
    rw [hnone] at hvm'
    cases hvm'

end Free5GCUpf

/-! ### SdCoreUPFBlueprintNG -/

namespace SdCoreUPF

/-- What the deployment of a DNN needs. -/
structure Deployable (model : UPFBlueCreateModel) (s : UpfState SdCoreUpfOwn) (dnn : Option String) : Prop where
  named : dnn ≠ none
  start : model.start ≠ none
  pool : ∃ pool, getDnnIpPool model dnn = .ok pool
  networks : ∃ created, s.createConfig = some created ∧ created.networks.n4 ∈ model.networks.names ∧
    created.networks.n3 ∈ model.networks.names ∧ created.networks.n6 ∈ model.networks.names

theorem newConfiguration_spec (h : newConfiguration config vm dnn = .ok configuration) :
    dnn = some configuration.dnn ∧ getDnnIpPool config dnn = .ok configuration.ueIpPoolCidr := by
  unfold newConfiguration at h
  obtain ⟨n3, -, h⟩ := except_bind_ok.1 h
  obtain ⟨n6, -, h⟩ := except_bind_ok.1 h
  obtain ⟨pool, hpool, h⟩ := except_bind_ok.1 h
  obtain ⟨start, -, h⟩ := except_bind_ok.1 h
  obtain ⟨name, hname, h⟩ := except_bind_ok.1 h
  cases h
  exact ⟨required_eq_ok hname, hpool⟩

theorem newConfiguration_ok {s : UpfState SdCoreUpfOwn} (h : Deployable config s dnn)
    (hconnected : ∀ network ∈ config.networks.names, vm.Connected network) :
    ∃ configuration, newConfiguration config vm dnn = .ok configuration := by
  obtain ⟨n3, hn3⟩ := hconnected config.networks.n3 (by simp [BlueCreateModelNetworks.names])
  obtain ⟨n6, hn6⟩ := hconnected config.networks.n6 (by simp [BlueCreateModelNetworks.names])
  obtain ⟨pool, hpool⟩ := h.pool
  obtain ⟨start, hstart⟩ := Option.ne_none_iff_exists'.1 h.start
  obtain ⟨name, hname⟩ := required_of_ne_none "dnn" h.named
  unfold newConfiguration started
  rw [hn3, hn6, hpool, hstart, hname]
  exact ⟨_, rfl⟩

theorem deployUpfVm_meets {provider : VmProvider} (config : UPFBlueCreateModel) (dnn : Option String)
    (s : UpfState SdCoreUpfOwn) :
    Meets (deployUpfVm provider config dnn) s
      (fun info s' => ∃ vm configuration, vm.id = provider.uuid s.registered ∧
        newConfiguration config vm dnn = .ok configuration ∧ info.servedSlices = getSlicesForDnn config dnn ∧
        info.vmResourceId = vm.id ∧ info.vmConfiguratorId = provider.uuid (s.registered + 1) ∧
        s' = { s with
          registered := s.registered + 2
          vmResources := s.vmResources ++ [vm]
          configured := (vm.id, .sdcore configuration) :: s.configured
          own := { s.own with vmConfigurators := s.own.vmConfigurators ++ [provider.uuid (s.registered + 1)] } })
      (fun _ _ => ¬ Deployable config s dnn) := by
  unfold deployUpfVm
  rw [meets_bind]
  apply (UpfState.createVm_meets config _ true).mono
  · rintro vm _ ⟨rfl, hid, hconnected⟩
    rw [meets_bind]
    apply (Generic5G.lift_meets _ _).mono
    · rintro configuration _ ⟨hconfiguration, rfl⟩
      rw [meets_bind]
      apply UpfState.registerResource_meets.mono
      · rintro _ _ ⟨rfl, rfl⟩
        unfold UpfState.configureVm UpfState.storeVm
        rw [meets_bind, meets_modify, meets_bind, meets_modify, meets_bind, meets_modify, meets_bind]
        apply UpfState.createdWith_meets.mono
        · rintro created _ ⟨hcreated, rfl⟩
          apply (Generic5G.lift_meets _ _).mono
          · rintro info _ ⟨hinfo, rfl⟩
            obtain ⟨hserved, hvm, hconf⟩ := UpfState.deployedInfo_spec hinfo
            exact ⟨vm, configuration, hid, hconfiguration, hserved, hvm, hconf, rfl⟩
          · rintro _ _ ⟨herror, -⟩ hdeployable
            obtain ⟨created', hcreated', hn4, hn3, hn6⟩ := hdeployable.networks
            cases hcreated.symm.trans hcreated'
            obtain ⟨info, hinfo⟩ := UpfState.deployedInfo_ok config (getSlicesForDnn config dnn)
              (provider.uuid (s.registered + 1)) (hconnected _ hn4) (hconnected _ hn3) (hconnected _ hn6)
            rw [hinfo] at herror
            cases herror
        · rintro _ _ hnone hdeployable
          obtain ⟨created', hcreated', -⟩ := hdeployable.networks
          rw [hnone] at hcreated'
          cases hcreated'
      · exact fun _ _ h => h.elim
    · rintro _ _ ⟨herror, -⟩ hdeployable
      obtain ⟨configuration, hok⟩ := newConfiguration_ok hdeployable hconnected
      rw [hok] at herror
      cases herror
  · exact fun _ _ h => h.elim

/-- The VM of a DNN was configured with its pool. -/
def Serves (s : UpfState SdCoreUpfOwn) (dnn : Option String) (info : DeployedUPFInfo) (pool : String) : Prop :=
  ∃ configuration, toMap Prod.fst s.configured info.vmResourceId = some (info.vmResourceId, .sdcore configuration) ∧
    dnn = some configuration.dnn ∧ configuration.ueIpPoolCidr = pool

/-- There is one VM for each DNN, and it is listed. -/
structure Sound (provider : VmProvider) (s : UpfState SdCoreUpfOwn) : Prop where
  unique : Unique Prod.fst s.own.currentlyDeployedDnns
  listed : s.upfList.Perm (s.own.currentlyDeployedDnns.map Prod.snd)
  vms : ∀ p ∈ s.own.currentlyDeployedDnns, toMap VmResource.id s.vmResources p.2.vmResourceId ≠ none
  configurators : ∀ p ∈ s.own.currentlyDeployedDnns, p.2.vmConfiguratorId ∈ s.own.vmConfigurators
  vmIds : Unique (fun p => p.2.vmResourceId) s.own.currentlyDeployedDnns
  configuratorIds : Unique (fun p => p.2.vmConfiguratorId) s.own.currentlyDeployedDnns
  known : ∀ p ∈ s.own.currentlyDeployedDnns, (∃ n < s.registered, p.2.vmResourceId = provider.uuid n) ∧
    ∃ n < s.registered, p.2.vmConfiguratorId = provider.uuid n

/-- DNNs were deployed where they were not. -/
structure Deploys (provider : VmProvider) (config : UPFBlueCreateModel) (dnns : List (Option String))
    (s s' : UpfState SdCoreUpfOwn) : Prop where
  sound : Sound provider s'
  createConfig : s'.createConfig = s.createConfig
  currentConfig : s'.currentConfig = s.currentConfig
  kept : ∀ p ∈ s.own.currentlyDeployedDnns, p ∈ s'.own.currentlyDeployedDnns
  serving : ∀ p ∈ s.own.currentlyDeployedDnns, ∀ pool, Serves s p.1 p.2 pool → Serves s' p.1 p.2 pool
  fresh : ∀ p ∈ s'.own.currentlyDeployedDnns, p ∈ s.own.currentlyDeployedDnns ∨
    (p.1 ∈ dnns ∧ p.2.servedSlices = getSlicesForDnn config p.1 ∧
      ∃ pool, getDnnIpPool config p.1 = .ok pool ∧ Serves s' p.1 p.2 pool)
  all : ∀ dnn ∈ dnns, ∃ info, (dnn, info) ∈ s'.own.currentlyDeployedDnns

section Deploying

variable {provider : VmProvider} {config : UPFBlueCreateModel} {s s' s'' : UpfState SdCoreUpfOwn}

theorem Deploys.refl (h : Sound provider s) : Deploys provider config [] s s :=
  ⟨h, rfl, rfl, fun _ h => h, fun _ _ _ h => h, fun _ h => .inl h, fun _ h => (nomatch h)⟩

theorem Deploys.trans (h : Deploys provider config dnns s s') (h' : Deploys provider config dnns' s' s'') :
    Deploys provider config (dnns ++ dnns') s s'' where
  sound := h'.sound
  createConfig := h'.createConfig.trans h.createConfig
  currentConfig := h'.currentConfig.trans h.currentConfig
  kept := fun p hp => h'.kept p (h.kept p hp)
  serving := fun p hp pool hs => h'.serving p (h.kept p hp) pool (h.serving p hp pool hs)
  fresh := by
    intro p hp
    rcases h'.fresh p hp with hold | ⟨hmem, hserved⟩
    · rcases h.fresh p hold with hfirst | ⟨hmem, hserved, pool, hpool, hserves⟩
      · exact .inl hfirst
      · exact .inr ⟨List.mem_append_left _ hmem, hserved, pool, hpool, h'.serving p hold pool hserves⟩
    · exact .inr ⟨List.mem_append_right _ hmem, hserved⟩
  all := by
    intro dnn hdnn
    rcases List.mem_append.1 hdnn with hfirst | hsecond
    · obtain ⟨info, hinfo⟩ := h.all dnn hfirst
      exact ⟨info, h'.kept _ hinfo⟩
    · exact h'.all dnn hsecond

/-- A DNN gets its VM. -/
theorem Sound.deploy (h : Sound provider s) (hnew : toMap Prod.fst s.own.currentlyDeployedDnns dnn = none)
    (hvm : vm.id = provider.uuid s.registered) (hconfiguration : newConfiguration config vm dnn = .ok configuration)
    (hserved : info.servedSlices = getSlicesForDnn config dnn) (hid : info.vmResourceId = vm.id)
    (hconfigurator : info.vmConfiguratorId = provider.uuid (s.registered + 1)) :
    Deploys provider config [dnn] s { s with
      registered := s.registered + 2
      vmResources := s.vmResources ++ [vm]
      configured := (vm.id, .sdcore configuration) :: s.configured
      upfList := s.upfList ++ [info]
      own := {
        vmConfigurators := s.own.vmConfigurators ++ [provider.uuid (s.registered + 1)]
        currentlyDeployedDnns := s.own.currentlyDeployedDnns ++ [(dnn, info)] } } := by
  have hfresh : ∀ p ∈ s.own.currentlyDeployedDnns, p.2.vmResourceId ≠ info.vmResourceId := by
    intro p hp heq
    obtain ⟨⟨n, hn, hpn⟩, -⟩ := h.known p hp
    rw [hpn, hid, hvm] at heq
    exact Nat.ne_of_lt hn (provider.uuid_injective heq)
  have hfresh' : ∀ p ∈ s.own.currentlyDeployedDnns, p.2.vmConfiguratorId ≠ info.vmConfiguratorId := by
    intro p hp heq
    obtain ⟨-, n, hn, hpn⟩ := h.known p hp
    rw [hpn, hconfigurator] at heq
    exact Nat.ne_of_lt (Nat.lt_succ_of_lt hn) (provider.uuid_injective heq)
  constructor
  · constructor
    · exact h.unique.append hnew
    · rw [List.map_append]
      exact h.listed.append_right _
    · intro p hp hnone
      have hall := toMap_eq_none.1 hnone
      rcases List.mem_append.1 hp with hold | hself
      · apply h.vms p hold
        apply toMap_eq_none.2
        exact fun vm' hvm' => hall vm' (List.mem_append_left _ hvm')
      · cases List.mem_singleton.1 hself
        exact hall vm (List.mem_append_right _ List.mem_cons_self) hid.symm
    · intro p hp
      rcases List.mem_append.1 hp with hold | hself
      · exact List.mem_append_left _ (h.configurators p hold)
      · cases List.mem_singleton.1 hself
        rw [hconfigurator]
        exact List.mem_append_right _ List.mem_cons_self
    · exact h.vmIds.append (toMap_eq_none.2 hfresh)
    · exact h.configuratorIds.append (toMap_eq_none.2 hfresh')
    · intro p hp
      rcases List.mem_append.1 hp with hold | hself
      · obtain ⟨⟨n, hn, hpn⟩, m, hm, hpm⟩ := h.known p hold
        exact ⟨⟨n, Nat.lt_add_right 2 hn, hpn⟩, m, Nat.lt_add_right 2 hm, hpm⟩
      · cases List.mem_singleton.1 hself
        exact ⟨⟨s.registered, Nat.lt_add_of_pos_right (Nat.zero_lt_two), hid.trans hvm⟩, s.registered + 1,
          Nat.lt_succ_self _, hconfigurator⟩
  · rfl
  · rfl
  · exact fun p hp => List.mem_append_left _ hp
  · rintro p hp pool ⟨configuration', hran, hdnn, hpool⟩
    refine ⟨configuration', ?_, hdnn, hpool⟩
    rw [toMap_cons, if_neg]
    · exact hran
    · rw [← hid]
      exact fun heq => hfresh p hp heq.symm
  · intro p hp
    rcases List.mem_append.1 hp with hold | hself
    · exact .inl hold
    · cases List.mem_singleton.1 hself
      obtain ⟨hdnn, hpool⟩ := newConfiguration_spec hconfiguration
      refine .inr ⟨List.mem_cons_self, hserved, _, hpool, configuration, ?_, hdnn, rfl⟩
      rw [toMap_cons, if_pos hid.symm, ← hid]
  · intro dnn' hdnn'
    cases List.mem_singleton.1 hdnn'
    exact ⟨info, List.mem_append_right _ List.mem_cons_self⟩

theorem deployDnn_meets (dnn : Option String) (h : Sound provider s) :
    Meets (deployDnn provider config dnn) s (fun _ s' => Deploys provider config [dnn] s s')
      (fun _ _ => toMap Prod.fst s.own.currentlyDeployedDnns dnn = none ∧ ¬ Deployable config s dnn) := by
  unfold deployDnn
  rw [meets_bind, meets_get]
  split
  · rename_i hnew
    have hnone := Option.isNone_iff_eq_none.1 hnew
    rw [meets_bind]
    apply (deployUpfVm_meets config dnn s).mono
    · rintro info _ ⟨vm, configuration, hvm, hconfiguration, hserved, hid, hconfigurator, rfl⟩
      exact h.deploy hnone hvm hconfiguration hserved hid hconfigurator
    · exact fun _ _ hno => ⟨hnone, hno⟩
  · rename_i hold
    obtain ⟨p, hp⟩ := Option.ne_none_iff_exists'.1 (fun hnone => hold (Option.isNone_iff_eq_none.2 hnone))
    refine ⟨h, rfl, rfl, fun _ h => h, fun _ _ _ h => h, fun _ h => .inl h, ?_⟩
    intro dnn' hdnn'
    cases List.mem_singleton.1 hdnn'
    have hkey : p.1 = dnn := toMap_some_key hp
    exact ⟨p.2, hkey ▸ toMap_some_mem hp⟩

/-- The loop over the DNNs of the configuration. -/
theorem deployDnns_meets (dnns : List (Option String)) (h : Sound provider s) :
    Meets (forM dnns (deployDnn provider config)) s (fun _ s' => Deploys provider config dnns s s')
      (fun _ _ => ∃ dnn ∈ dnns, toMap Prod.fst s.own.currentlyDeployedDnns dnn = none ∧ ¬ Deployable config s dnn) := by
  induction dnns generalizing s with
  | nil => exact .refl h
  | cons dnn dnns ih =>
    rw [List.forM_cons, meets_bind]
    apply (deployDnn_meets dnn h).mono
    · intro _ s₁ h₁
      apply (ih h₁.sound).mono
      · exact fun _ s₂ h₂ => h₁.trans h₂
      · rintro _ s₂ ⟨dnn', hdnn', hnone, hno⟩
        refine ⟨dnn', List.mem_cons_of_mem dnn hdnn', ?_, ?_⟩
        · apply toMap_eq_none.2
          exact fun p hp => toMap_eq_none.1 hnone p (h₁.kept p hp)
        · intro hdeployable
          apply hno
          obtain ⟨hnamed, hstart, hpool, hnetworks⟩ := hdeployable
          exact ⟨hnamed, hstart, hpool, h₁.createConfig ▸ hnetworks⟩
    · exact fun _ _ hno => ⟨dnn, List.mem_cons_self, hno⟩

/-- DNNs were taken out. -/
structure Undeploys (provider : VmProvider) (dnns : List (Option String)) (s s' : UpfState SdCoreUpfOwn) : Prop where
  sound : Sound provider s'
  createConfig : s'.createConfig = s.createConfig
  currentConfig : s'.currentConfig = s.currentConfig
  configured : s'.configured = s.configured
  deployed : ∀ p, p ∈ s'.own.currentlyDeployedDnns ↔ p ∈ s.own.currentlyDeployedDnns ∧ p.1 ∉ dnns

theorem Sound.undeploy (h : Sound provider s) (hp : toMap Prod.fst s.own.currentlyDeployedDnns dnn = some p) :
    Undeploys provider [dnn] s { s with
      vmResources := KeyedList.erase VmResource.id s.vmResources p.2.vmResourceId
      upfList := s.upfList.erase p.2
      own := {
        vmConfigurators := s.own.vmConfigurators.erase p.2.vmConfiguratorId
        currentlyDeployedDnns := KeyedList.erase Prod.fst s.own.currentlyDeployedDnns dnn } } := by
  have hsub := erase_sublist Prod.fst s.own.currentlyDeployedDnns dnn
  have hperm := perm_cons_erase hp
  have hkey : p.1 = dnn := toMap_some_key hp
  have hvms : Unique (fun p => p.2.vmResourceId) (p :: KeyedList.erase Prod.fst s.own.currentlyDeployedDnns dnn) :=
    (hperm.map _).nodup_iff.1 h.vmIds
  have hconfigurators : Unique (fun p => p.2.vmConfiguratorId) (p :: KeyedList.erase Prod.fst s.own.currentlyDeployedDnns dnn) :=
    (hperm.map _).nodup_iff.1 h.configuratorIds
  have hkeys : Unique Prod.fst (p :: KeyedList.erase Prod.fst s.own.currentlyDeployedDnns dnn) :=
    (hperm.map _).nodup_iff.1 h.unique
  have hother : ∀ q ∈ KeyedList.erase Prod.fst s.own.currentlyDeployedDnns dnn,
      q.2.vmResourceId ≠ p.2.vmResourceId ∧ q.2.vmConfiguratorId ≠ p.2.vmConfiguratorId ∧ q.1 ≠ p.1 := by
    intro q hq
    refine ⟨?_, ?_, ?_⟩
    · intro heq
      exact (List.nodup_cons.1 hvms).1 (List.mem_map.2 ⟨q, hq, heq⟩)
    · intro heq
      exact (List.nodup_cons.1 hconfigurators).1 (List.mem_map.2 ⟨q, hq, heq⟩)
    · intro heq
      exact (List.nodup_cons.1 hkeys).1 (List.mem_map.2 ⟨q, hq, heq⟩)
  constructor
  · constructor
    · exact h.unique.erase dnn
    · have hlisted := (h.listed.trans (hperm.map Prod.snd)).erase p.2
      rw [List.map_cons, List.erase_cons_head] at hlisted
      exact hlisted
    · intro q hq
      change toMap VmResource.id (KeyedList.erase VmResource.id s.vmResources p.2.vmResourceId) q.2.vmResourceId ≠ none
      rw [toMap_erase_of_ne (fun heq => (hother q hq).1 heq.symm)]
      exact h.vms q (hsub.subset hq)
    · intro q hq
      exact (List.mem_erase_of_ne (hother q hq).2.1).2 (h.configurators q (hsub.subset hq))
    · exact (List.nodup_cons.1 hvms).2
    · exact (List.nodup_cons.1 hconfigurators).2
    · exact fun q hq => h.known q (hsub.subset hq)
  · rfl
  · rfl
  · rfl
  · intro q
    constructor
    · intro hq
      refine ⟨hsub.subset hq, ?_⟩
      intro hmem
      exact (hother q hq).2.2 ((List.mem_singleton.1 hmem).trans hkey.symm)
    · rintro ⟨hq, hne⟩
      rcases List.mem_cons.1 (hperm.subset hq) with rfl | hrest
      · exact (hne (List.mem_singleton.2 hkey)).elim
      · exact hrest

theorem undeployDnn_meets (dnn : Option String) (h : Sound provider s)
    (hdeployed : toMap Prod.fst s.own.currentlyDeployedDnns dnn ≠ none) :
    Meets (undeployDnn dnn) s (fun _ s' => Undeploys provider [dnn] s s') (fun _ _ => False) := by
  obtain ⟨⟨key, info⟩, hp⟩ := Option.ne_none_iff_exists'.1 hdeployed
  have hmem := toMap_some_mem hp
  have hvm : ¬ (toMap VmResource.id s.vmResources info.vmResourceId).isNone :=
    fun hnone => h.vms _ hmem (Option.isNone_iff_eq_none.1 hnone)
  have hconfigurator : ¬ info.vmConfiguratorId ∉ s.own.vmConfigurators := fun hno => hno (h.configurators _ hmem)
  have hlisted : ¬ info ∉ s.upfList := fun hno => hno (h.listed.mem_iff.2 (List.mem_map_of_mem hmem))
  unfold undeployDnn undeployUpfVm deployedDnn
  rw [meets_bind, meets_bind, meets_bind, meets_get, hp]
  simp only [meets_pure]
  rw [meets_bind, meets_get, if_neg hvm, if_neg hconfigurator, meets_bind, meets_set, meets_pure, meets_bind, meets_get,
    if_neg hlisted, meets_set]
  exact h.undeploy hp

/-- The loop over the DNNs that left the configuration. -/
theorem undeployDnns_meets (dnns : List (Option String)) (hnodup : dnns.Nodup) (h : Sound provider s)
    (hdeployed : ∀ dnn ∈ dnns, toMap Prod.fst s.own.currentlyDeployedDnns dnn ≠ none) :
    Meets (forM dnns undeployDnn) s (fun _ s' => Undeploys provider dnns s s') (fun _ _ => False) := by
  induction dnns generalizing s with
  | nil => exact ⟨h, rfl, rfl, rfl, fun p => by simp⟩
  | cons dnn dnns ih =>
    rw [List.nodup_cons] at hnodup
    rw [List.forM_cons, meets_bind]
    apply (undeployDnn_meets dnn h (hdeployed dnn List.mem_cons_self)).mono
    · intro _ s₁ h₁
      have hrest : ∀ dnn' ∈ dnns, toMap Prod.fst s₁.own.currentlyDeployedDnns dnn' ≠ none := by
        intro dnn' hdnn'
        obtain ⟨p, hp⟩ := Option.ne_none_iff_exists'.1 (hdeployed dnn' (List.mem_cons_of_mem dnn hdnn'))
        have hkey : p.1 = dnn' := toMap_some_key hp
        have hmem : p ∈ s₁.own.currentlyDeployedDnns := by
          refine (h₁.deployed p).2 ⟨toMap_some_mem hp, ?_⟩
          intro hself
          rw [hkey, List.mem_singleton] at hself
          exact hnodup.1 (hself ▸ hdnn')
        exact fun hnone => toMap_eq_none.1 hnone p hmem hkey
      apply (ih hnodup.2 h₁.sound hrest).mono
      · intro _ s₂ h₂
        refine ⟨h₂.sound, h₂.createConfig.trans h₁.createConfig, h₂.currentConfig.trans h₁.currentConfig,
          h₂.configured.trans h₁.configured, ?_⟩
        intro p
        rw [h₂.deployed, h₁.deployed, List.mem_singleton, List.mem_cons, not_or, and_assoc]
      · exact fun _ _ h => h
    · exact fun _ _ h => h

/-- The DNNs of the configuration are deployed, those that were keep their VM. -/
structure Updates (provider : VmProvider) (config : UPFBlueCreateModel) (s s' : UpfState SdCoreUpfOwn) : Prop where
  sound : Sound provider s'
  createConfig : s'.createConfig = s.createConfig
  currentConfig : s'.currentConfig = s.currentConfig
  keys : ∀ dnn, (∃ info, (dnn, info) ∈ s'.own.currentlyDeployedDnns) ↔ dnn ∈ dnnsToDeploy config
  entries : ∀ p ∈ s'.own.currentlyDeployedDnns,
    (p ∈ s.own.currentlyDeployedDnns ∧ ∀ pool, Serves s p.1 p.2 pool → Serves s' p.1 p.2 pool) ∨
    (p.2.servedSlices = getSlicesForDnn config p.1 ∧
      ∃ pool, getDnnIpPool config p.1 = .ok pool ∧ Serves s' p.1 p.2 pool)

theorem updateDeployments_meets (h : Sound provider s) :
    Meets (updateDeployments provider config) s (fun _ s' => Updates provider config s s')
      (fun _ _ => ∃ dnn ∈ dnnsToDeploy config,
        toMap Prod.fst s.own.currentlyDeployedDnns dnn = none ∧ ¬ Deployable config s dnn) := by
  unfold updateDeployments
  rw [meets_bind]
  apply (deployDnns_meets _ h).mono
  · intro _ s₁ h₁
    rw [meets_bind, meets_get]
    have hdeployed : ∀ dnn ∈ provider.order ((s₁.own.currentlyDeployedDnns.map Prod.fst).filter
        (fun dnn => decide (dnn ∉ dnnsToDeploy config))), toMap Prod.fst s₁.own.currentlyDeployedDnns dnn ≠ none := by
      intro dnn hdnn
      rw [provider.order_mem] at hdnn
      obtain ⟨p, hp, hkey⟩ := List.mem_map.1 (List.mem_filter.1 hdnn).1
      exact fun hnone => toMap_eq_none.1 hnone p hp hkey
    apply (undeployDnns_meets _ (provider.order_nodup _) h₁.sound hdeployed).mono
    · intro _ s₂ h₂
      have hremains : ∀ p, p ∈ s₂.own.currentlyDeployedDnns ↔
          p ∈ s₁.own.currentlyDeployedDnns ∧ p.1 ∈ dnnsToDeploy config := by
        intro p
        rw [h₂.deployed, provider.order_mem, List.mem_filter, decide_eq_true_eq]
        constructor
        · rintro ⟨hp, hno⟩
          refine ⟨hp, ?_⟩
          by_contra hout
          exact hno ⟨List.mem_map_of_mem hp, hout⟩
        · rintro ⟨hp, hin⟩
          exact ⟨hp, fun hno => hno.2 hin⟩
      have hserves : ∀ dnn info pool, Serves s₁ dnn info pool → Serves s₂ dnn info pool := by
        intro dnn info pool hs
        unfold Serves
        rw [h₂.configured]
        exact hs
      constructor
      · exact h₂.sound
      · exact h₂.createConfig.trans h₁.createConfig
      · exact h₂.currentConfig.trans h₁.currentConfig
      · intro dnn
        constructor
        · rintro ⟨info, hinfo⟩
          exact ((hremains _).1 hinfo).2
        · intro hdnn
          obtain ⟨info, hinfo⟩ := h₁.all dnn ((provider.order_mem _ _).2 hdnn)
          exact ⟨info, (hremains _).2 ⟨hinfo, hdnn⟩⟩
      · intro p hp
        rcases h₁.fresh p ((hremains p).1 hp).1 with hold | ⟨-, hserved, pool, hpool, hs⟩
        · exact .inl ⟨hold, fun pool hs => hserves _ _ _ (h₁.serving p hold pool hs)⟩
        · exact .inr ⟨hserved, pool, hpool, hserves _ _ _ hs⟩
    · exact fun _ _ h => h.elim
  · rintro _ _ ⟨dnn, hdnn, hno⟩
    exact ⟨dnn, (provider.order_mem _ _).1 hdnn, hno⟩

end Deploying

end SdCoreUPF

end Nfvcl
