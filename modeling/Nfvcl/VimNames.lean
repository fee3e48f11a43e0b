import Nfvcl.VimLists

namespace Nfvcl
set_option autoImplicit true
open Effects

/-- The validator of `VimModel.name`: `lower` is `str.lower`, then hyphens are replaced. -/
def VimModel.validateLbPools (lower : String → String) (name : String) : String :=
  String.ofList ((lower name).toList.map fun c => if c = '-' then '_' else c)

/-- A VIM built with a raw name. -/
def VimModel.named (lower : String → String) (v : VimModel) (name : String) : VimModel :=
  { v with name := VimModel.validateLbPools lower name }

/-- The topology once the VIM is added. -/
def TopologyModel.withVim (t : TopologyModel) (v : VimModel) : TopologyModel :=
  { t with vims := t.vims ++ [v] }

def Topology.ListsNet (s : Topology) (vimName net : String) : Prop :=
  ∃ t v, s.model = some t ∧ KeyedList.toMap VimModel.name t.vims vimName = some v ∧ net ∈ v.networks

def Topology.LacksVim (s : Topology) (vimName : String) : Prop :=
  ∃ t, s.model = some t ∧ KeyedList.toMap VimModel.name t.vims vimName = none

/-- After adding a VIM built with the name, each operation given the name works on that VIM. -/
structure FoundAgain (services : Services) (lower : String → String) (t : TopologyModel) (v : VimModel)
    (name : String) : Prop where
  added : (Topology.addVim services (v.named lower name)).run (Topology.fromDb (some t)) =
    .ok () (Topology.fromDb (some (t.withVim (v.named lower name))))
  updateVim : ∀ msg : UpdateVimModel, msg.name = name →
    (Topology.updateVim services msg).run (Topology.fromDb (some (t.withVim (v.named lower name)))) =
      (Topology.updateVimAt services msg t.vims.length).run (Topology.fromDb (some (t.withVim (v.named lower name))))
  addNetwork : ∀ net : NetworkModel, net.name ≠ "" → KeyedList.toMap NetworkModel.name t.networks net.name = none →
    ∃ s, (Topology.addNetworkModel services net (some [name])).run
        (Topology.fromDb (some (t.withVim (v.named lower name)))) = .ok net s ∧
      s.ListsNet (v.named lower name).name net.name
  getNetwork : ∀ net ∈ t.networks, ∃ found,
    (Topology.getNetworkModel net.name (some name)).run (Topology.fromDb (some (t.withVim (v.named lower name)))) =
      .ok found (Topology.fromDb (some (t.withVim (v.named lower name)))) ∧ found.name = net.name
  delVim : ∃ s, (Topology.delVim services name).run (Topology.fromDb (some (t.withVim (v.named lower name)))) =
      .ok () s ∧ s.LacksVim (v.named lower name).name

section Added

variable {services : Services} {t : TopologyModel} {v : VimModel}
  (hnew : KeyedList.toMap VimModel.name t.vims v.name = none)

include hnew in
theorem withVim_vimAt : (t.withVim v).VimAt t.vims.length v where
  getElem? := by
    simp [TopologyModel.withVim]
  position := by
    obtain ⟨i, hi, hget⟩ := KeyedList.findIndex_of_toMap (k := v.name)
      (a := v) (by rw [KeyedList.toMap_append hnew, Function.update_self])
    obtain ⟨hlt, he⟩ := List.getElem?_eq_some_iff.1 hget
    rw [List.length_append, List.length_singleton] at hlt
    by_cases hold : i < t.vims.length
    · rw [List.getElem_append_left hold] at he
      exact absurd (he ▸ rfl) (KeyedList.toMap_eq_none.1 hnew _ (List.getElem_mem hold))
    · have : i = t.vims.length := by omega
      rw [← this]
      exact hi

include hnew in
theorem withVim_toMap (name : String) :
    KeyedList.toMap VimModel.name (t.withVim v).vims name =
      if name = v.name then some v else KeyedList.toMap VimModel.name t.vims name := by
  unfold TopologyModel.withVim
  rw [KeyedList.toMap_append hnew, Function.update_apply]

include hnew in
theorem withVim_erase :
    KeyedList.toMap VimModel.name (KeyedList.erase VimModel.name (t.withVim v).vims v.name) v.name = none := by
  have hperm : (t.withVim v).vims.Perm (v :: KeyedList.erase VimModel.name (t.withVim v).vims v.name) :=
    KeyedList.perm_cons_erase (by rw [withVim_toMap hnew, if_pos rfl])
  have hrest : t.vims.Perm (KeyedList.erase VimModel.name (t.withVim v).vims v.name) :=
    ((List.perm_append_singleton v t.vims).symm.trans hperm).cons_inv
  rw [KeyedList.toMap_eq_none] at hnew ⊢
  exact fun w hw => hnew w (hrest.mem_iff.2 hw)

include hnew in
theorem addVim_run_new (hpub : ∀ event t', services.publish event (some t') = none) :
    (Topology.addVim services v).run (Topology.fromDb (some t)) =
      .ok () (Topology.fromDb (some (t.withVim v))) := by
  simp only [Topology.addVim, Topology.fromDb, EStateM.run_bind, Topology.onModel_run, TopologyModel.addVim,
    Collection.add_run]
  simp only [TopologyModel.vimColl, hnew, Topology.saveTopologyFromModel_run, Topology.triggerRedisEvent_run,
    hpub]
  rfl

include hnew in
theorem addNetworkModel_withVim (hpub : ∀ event t', services.publish event (some t') = none)
    {net : NetworkModel} (hempty : net.name ≠ "")
    (hnet : KeyedList.toMap NetworkModel.name t.networks net.name = none) :
    ∃ s, (Topology.addNetworkModel services net (some [v.name])).run (Topology.fromDb (some (t.withVim v))) =
        .ok net s ∧ s.ListsNet v.name net.name := by
  have hat := withVim_vimAt hnew
  let t₁ : TopologyModel := { t.withVim v with networks := t.networks ++ [net] }
  have hat₁ : t₁.VimAt t.vims.length v := ⟨hat.getElem?, hat.position⟩
  have hadd : (TopologyModel.addNetwork net).run (t.withVim v) = .ok net t₁ := by
    have hitems : KeyedList.toMap TopologyModel.netColl.key (TopologyModel.netColl.items (t.withVim v))
        (TopologyModel.netColl.key net) = none := hnet
    rw [TopologyModel.addNetwork, Collection.add_run, hitems]
    rfl
  obtain ⟨found, hfound⟩ : ∃ found, KeyedList.toMap NetworkModel.name t₁.networks net.name = some found :=
    ⟨net, by rw [KeyedList.toMap_append hnet, Function.update_self]⟩
  have hat₂ := hat₁.setVim (v.setNetworks_name (addName net.name v.networks))
  refine ⟨⟨some (t₁.setVim t.vims.length (v.setNetworks (addName net.name v.networks))),
    some (t₁.setVim t.vims.length (v.setNetworks (addName net.name v.networks)))⟩, ?_, ?_⟩
  · simp only [Topology.addNetworkModel, Topology.fromDb, EStateM.run_bind, Topology.onModel_run, hadd,
      Option.getD_some, List.forM_cons, List.forM_nil, TopologyModel.findVimIndex_run, hat₁.position,
      Topology.addVimNet_run hat₁, hfound, EStateM.run_pure, Topology.saveTopologyFromModel_run,
      Topology.triggerRedisEvent_run, hpub]
  · refine ⟨_, _, rfl, hat₂.toMap_eq, ?_⟩
    rw [VimModel.setNetworks_networks, addName]
    split
    · next hc => exact hc.resolve_right hempty
    · exact List.mem_append_right _ List.mem_cons_self

include hnew in
theorem delVim_withVim (hpub : ∀ event t', services.publish event (some t') = none) :
    ∃ s, (Topology.delVim services v.name).run (Topology.fromDb (some (t.withVim v))) = .ok () s ∧
      s.LacksVim v.name := by
  have hmap : KeyedList.toMap VimModel.name (t.withVim v).vims v.name = some v := by
    rw [withVim_toMap hnew, if_pos rfl]
  simp only [Topology.delVim, Topology.fromDb, EStateM.run_bind, Topology.onModel_run, TopologyModel.getVim_run,
    TopologyModel.delVim_run, hmap, Topology.saveTopologyFromModel_run, Topology.triggerRedisEvent_run, hpub]
  exact ⟨_, rfl, _, rfl, withVim_erase hnew⟩

/-- Given any other name, `del_vim` leaves the VIM where it is. -/
theorem delVim_other (hne : name ≠ v.name) (hnew : KeyedList.toMap VimModel.name t.vims v.name = none)
    (h : (Topology.delVim services name).run (Topology.fromDb (some (t.withVim v))) = .ok () s) :
    ¬ s.LacksVim v.name := by
  have hmap : KeyedList.toMap VimModel.name (t.withVim v).vims v.name = some v := by
    rw [withVim_toMap hnew, if_pos rfl]
  unfold Topology.delVim at h
  obtain ⟨w, s₁, h₁, h⟩ := bind_ok_inv h
  simp only [Topology.fromDb, Topology.onModel_run, TopologyModel.getVim_run] at h₁
  cases hw : KeyedList.toMap VimModel.name (t.withVim v).vims name with
  | none =>
    rw [hw] at h₁
    cases h₁
  | some u =>
    rw [hw] at h₁
    cases h₁
    have hname : w.name = name := KeyedList.toMap_some_key hw
    rw [hname] at h
    obtain ⟨_, s₂, h₂, h⟩ := bind_ok_inv h
    simp only [Topology.onModel_run, TopologyModel.delVim_run, hw] at h₂
    cases h₂
    obtain ⟨_, s₃, h₃, h⟩ := bind_ok_inv h
    cases h₃
    rw [Topology.triggerRedisEvent_run] at h
    split at h
    · cases h
      rintro ⟨t', ht', hnone⟩
      cases ht'
      rw [KeyedList.toMap_erase_of_ne hne, hmap] at hnone
      cases hnone
    · cases h

end Added

theorem vim_names_found_again (services : Services)
    (hpub : ∀ event t', services.publish event (some t') = none) (lower : String → String) (t : TopologyModel)
    (v : VimModel) (name : String)
    (hnew : KeyedList.toMap VimModel.name t.vims (VimModel.validateLbPools lower name) = none) :
    FoundAgain services lower t v name ↔ VimModel.validateLbPools lower name = name := by
  have hnew' : KeyedList.toMap VimModel.name t.vims (v.named lower name).name = none := hnew
  constructor
  · intro h
    by_contra hne
    obtain ⟨s, hrun, hlacks⟩ := h.delVim
    exact delVim_other (fun he => hne he.symm) hnew' hrun hlacks
  · intro he
    have hname : (v.named lower name).name = name := he
    have hat := withVim_vimAt hnew'
    refine ⟨addVim_run_new hnew' hpub, ?_, ?_, ?_, ?_⟩
    · intro msg hmsg
      exact Topology.updateVim_run_found services msg hat (hname.trans hmsg.symm)
    · intro net hempty hnet
      have hadd := addNetworkModel_withVim hnew' hpub hempty hnet
      rw [hname] at hadd
      rw [hname]
      exact hadd
    · intro net hnet
      obtain ⟨found, hfound⟩ := Option.isSome_iff_exists.1
        (KeyedList.toMap_isSome.2 ⟨net, hnet, rfl⟩ :
          (KeyedList.toMap NetworkModel.name (t.withVim (v.named lower name)).networks net.name).isSome)
      refine ⟨found, ?_, KeyedList.toMap_some_key hfound⟩
      have hmap := hat.toMap_eq
      rw [hname] at hmap
      simp only [Topology.getNetworkModel, Topology.fromDb, EStateM.run_bind, Topology.onModel_run,
        TopologyModel.getNetwork_run, hfound]
      by_cases hempty : name = ""
      · simp only [hempty, ne_eq, not_true_eq_false, if_false]
        rfl
      · simp only [hempty, ne_eq, not_false_eq_true, if_true, EStateM.run_bind, Topology.onModel_run,
          TopologyModel.getVim_run, hmap]
        rfl
    · have hdel := delVim_withVim hnew' hpub
      rw [hname] at hdel
      rw [hname]
      exact hdel

/-- `str.lower` of ASCII text. -/
def asciiLower (s : String) : String := String.ofList (s.toList.map Char.toLower)

theorem vim_names_found_again_plain :
    FoundAgain {} asciiLower {} { name := "", vimUrl := "http://os" } "os_lab" :=
  (vim_names_found_again {} (fun _ _ => rfl) asciiLower {} _ "os_lab" rfl).2 (by decide)

/-- The VIM of the API test is not deleted by the name it was added with. -/
theorem vim_names_found_again_fails :
    ¬ ∀ (services : Services), (∀ event t', services.publish event (some t') = none) →
      ∀ (t : TopologyModel) (v : VimModel) (name : String),
        KeyedList.toMap VimModel.name t.vims (VimModel.validateLbPools asciiLower name) = none →
        FoundAgain services asciiLower t v name := by
  intro h
  obtain ⟨s, hrun, -⟩ := (h {} (fun _ _ => rfl) {} { name := "", vimUrl := "http://os" } "OS-Lab" rfl).delVim
  have hraised : Raised ((Topology.delVim {} "OS-Lab").run (Topology.fromDb (some (({} : TopologyModel).withVim
      (VimModel.named asciiLower { name := "", vimUrl := "http://os" } "OS-Lab"))))) := by decide +kernel
  rw [hrun] at hraised
  exact hraised

end Nfvcl
