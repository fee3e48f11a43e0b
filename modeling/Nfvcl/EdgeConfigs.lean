import Mathlib.Data.List.Basic
import Nfvcl.EdgeUpdates

namespace Nfvcl
set_option autoImplicit true
open Effects

/-- The area says what to deploy: a type of UPF, and the network or the router of the gNB. -/
structure SubArea.Complete (area : SubArea) : Prop where
  upf : area.upf ≠ none
  router : area.networks.externalRouter = none → area.networks.gnb ≠ none

namespace Create5gModel

/-- The slices of an area have profiles, and the data networks the profiles name have pools. -/
structure SlicesOk (c : Create5gModel) (area : SubArea) : Prop where
  listed : area.slices ≠ none
  profiles : ∀ slice ∈ area.slices.getD [], ∃ profile, c.getSliceProfile slice.sliceId = .ok (some profile) ∧
    ∀ net ∈ c.config.networkEndpoints.dataNets, net.dnn ∈ profile.dnnList → net.pools ≠ []

theorem exists_map_ok {m : Except ε α} {f : α → β} :
    (∃ b, (m >>= fun a => pure (f a)) = .ok b) ↔ ∃ a, m = .ok a := by
  constructor
  · rintro ⟨b, h⟩
    obtain ⟨a, ha, -⟩ := except_bind_ok.1 h
    exact ⟨a, ha⟩
  · rintro ⟨a, ha⟩
    exact ⟨f a, except_bind_ok.2 ⟨a, ha, rfl⟩⟩

theorem fromSliceProfile_ok_iff {nets : List SubDataNets} {profile : Option SubSliceProfiles} :
    (∃ slice, fromSliceProfile nets profile = .ok slice) ↔
      ∃ p, profile = some p ∧ ∀ net ∈ nets, net.dnn ∈ p.dnnList → net.pools ≠ [] := by
  cases profile with
  | none =>
    constructor
    · rintro ⟨slice, h⟩
      cases h
    · rintro ⟨p, h, -⟩
      cases h
  | some p =>
    rw [fromSliceProfile, exists_map_ok, exists_mapM_ok]
    constructor
    · intro h
      refine ⟨p, rfl, fun net hnet hlisted hempty => ?_⟩
      obtain ⟨dnn, hdnn⟩ := h net (List.mem_filter.2 ⟨hnet, decide_eq_true hlisted⟩)
      rw [hempty] at hdnn
      cases hdnn
    · rintro ⟨p', hp, hpools⟩ net hnet
      cases hp
      obtain ⟨hnet, hlisted⟩ := List.mem_filter.1 hnet
      obtain ⟨pool, pools, hcons⟩ := List.exists_cons_of_ne_nil (hpools net hnet (of_decide_eq_true hlisted))
      rw [hcons]
      exact ⟨_, rfl⟩

theorem slicesOk_of_upfSlices {c : Create5gModel} (h : c.upfSlices areaId = .ok slices) (harea : area ∈ c.areas)
    (hid : area.id = areaId) : c.SlicesOk area := by
  obtain ⟨profiles, hprofiles, hslices⟩ := except_bind_ok.1 h
  obtain ⟨perArea, hper, hflat⟩ := except_bind_ok.1 hprofiles
  cases hflat
  have hfiltered : area ∈ c.areas.filter (fun area => decide (area.id = areaId)) :=
    List.mem_filter.2 ⟨harea, decide_eq_true hid⟩
  obtain ⟨ofArea, hof⟩ := exists_mapM_ok.1 ⟨perArea, hper⟩ area hfiltered
  obtain ⟨listed, hlisted, hmap⟩ := except_bind_ok.1 hof
  cases hs : area.slices with
  | none =>
    rw [hs] at hlisted
    cases hlisted
  | some listed =>
    rw [hs] at hlisted
    cases hlisted
    refine ⟨by rw [hs]; exact Option.some_ne_none _, ?_⟩
    rw [hs]
    intro slice hslice
    obtain ⟨profile, hprofile⟩ := exists_mapM_ok.1 ⟨ofArea, hmap⟩ slice hslice
    have hmem : profile ∈ perArea.flatten := by
      apply List.mem_flatten.2
      exact ⟨ofArea, (mem_of_mapM_ok hper).2 ⟨area, hfiltered, hof⟩, (mem_of_mapM_ok hmap).2 ⟨slice, hslice, hprofile⟩⟩
    obtain ⟨p, rfl, hpools⟩ := fromSliceProfile_ok_iff.1 (exists_mapM_ok.1 ⟨slices, hslices⟩ profile hmem)
    exact ⟨p, hprofile, hpools⟩

theorem upfSlices_of_slicesOk {c : Create5gModel} (h : ∀ area ∈ c.areas, area.id = areaId → c.SlicesOk area) :
    ∃ slices, c.upfSlices areaId = .ok slices := by
  have harea : ∀ area ∈ c.areas.filter (fun area => decide (area.id = areaId)), c.SlicesOk area := by
    intro area harea
    obtain ⟨harea, hid⟩ := List.mem_filter.1 harea
    exact h area harea (of_decide_eq_true hid)
  obtain ⟨perArea, hper⟩ : ∃ perArea, (c.areas.filter (fun area => decide (area.id = areaId))).mapM (fun area => do
      let slices ← iterate area.slices
      slices.mapM (fun slice : SubSlices => c.getSliceProfile slice.sliceId)) = .ok perArea := by
    apply exists_mapM_ok.2
    intro area hmem
    obtain ⟨hlisted, hprofiles⟩ := harea area hmem
    obtain ⟨slices, hs⟩ := Option.ne_none_iff_exists'.1 hlisted
    rw [hs] at hprofiles ⊢
    apply exists_mapM_ok.2
    intro slice hslice
    obtain ⟨profile, hprofile, -⟩ := hprofiles slice hslice
    exact ⟨_, hprofile⟩
  obtain ⟨slices, hslices⟩ : ∃ slices,
      perArea.flatten.mapM (fromSliceProfile c.config.networkEndpoints.dataNets) = .ok slices := by
    apply exists_mapM_ok.2
    intro profile hprofile
    obtain ⟨ofArea, hof, hprofile⟩ := List.mem_flatten.1 hprofile
    obtain ⟨area, hmem, hrun⟩ := (mem_of_mapM_ok hper).1 hof
    obtain ⟨listed, hlisted, hmap⟩ := except_bind_ok.1 hrun
    obtain ⟨slice, hslice, hget⟩ := (mem_of_mapM_ok hmap).1 hprofile
    have hin : slice ∈ area.slices.getD [] := by
      cases hs : area.slices with
      | none =>
        rw [hs] at hlisted
        cases hlisted
      | some slices =>
        rw [hs] at hlisted
        cases hlisted
        exact hslice
    obtain ⟨p, hp, hpools⟩ := (harea area hmem).profiles slice hin
    rw [hp] at hget
    cases hget
    exact fromSliceProfile_ok_iff.2 ⟨p, rfl, hpools⟩
  exact ⟨slices, except_bind_ok.2 ⟨perArea.flatten, except_bind_ok.2 ⟨perArea, hper, rfl⟩, hslices⟩⟩

theorem upfSlices_ok_iff {c : Create5gModel} :
    (∃ slices, c.upfSlices areaId = .ok slices) ↔ ∀ area ∈ c.areas, area.id = areaId → c.SlicesOk area := by
  constructor
  · rintro ⟨slices, h⟩ area harea hid
    exact slicesOk_of_upfSlices h harea hid
  · exact upfSlices_of_slicesOk

theorem required_ok_iff {field : String} {value : Option String} : (∃ v, required field value = .ok v) ↔ value ≠ none := by
  cases value with
  | none =>
    constructor
    · rintro ⟨v, h⟩
      cases h
    · exact fun h => (h rfl).elim
  | some v => exact ⟨fun _ => Option.some_ne_none v, fun _ => ⟨v, rfl⟩⟩

/-- The networks a UPF of the area is attached to are given. -/
structure NetworksOk (c : Create5gModel) (area : SubArea) : Prop where
  mgt : c.config.networkEndpoints.mgt ≠ none
  wan : c.config.networkEndpoints.wan ≠ none
  n3 : area.networks.n3 ≠ none
  n6 : area.networks.n6 ≠ none

theorem upfNetworks_ok_iff {c : Create5gModel} :
    (∃ networks, c.upfNetworks areaId = .ok networks) ↔ ∃ area, c.getArea areaId = some area ∧ c.NetworksOk area := by
  unfold upfNetworks areaNetworks
  simp only [except_bind_ok]
  cases c.getArea areaId with
  | none =>
    constructor
    · rintro ⟨_, _, h, -⟩
      cases h
    · rintro ⟨_, h, -⟩
      cases h
  | some area =>
    constructor
    · rintro ⟨_, _, harea, _, hmgt, _, hn4, _, hn3, _, hn6, -⟩
      cases harea
      exact ⟨area, rfl, required_ok_iff.1 ⟨_, hmgt⟩, required_ok_iff.1 ⟨_, hn4⟩, required_ok_iff.1 ⟨_, hn3⟩,
        required_ok_iff.1 ⟨_, hn6⟩⟩
    · rintro ⟨_, harea, h⟩
      cases harea
      obtain ⟨mgt, hmgt⟩ := required_ok_iff.2 h.mgt
      obtain ⟨n4, hn4⟩ := required_ok_iff.2 h.wan
      obtain ⟨n3, hn3⟩ := required_ok_iff.2 h.n3
      obtain ⟨n6, hn6⟩ := required_ok_iff.2 h.n6
      exact ⟨_, _, rfl, mgt, hmgt, n4, hn4, n3, hn3, n6, hn6, rfl⟩

theorem routerModel_ok {c : Create5gModel} (harea : c.getArea areaId = some area) (h : c.NetworksOk area)
    (hgnb : area.networks.gnb ≠ none) : ∃ model, c.routerModel areaId = .ok model := by
  unfold routerModel areaNetworks
  simp only [except_bind_ok, harea]
  obtain ⟨mgt, hmgt⟩ := required_ok_iff.2 h.mgt
  obtain ⟨gnb, hgnb⟩ := required_ok_iff.2 hgnb
  obtain ⟨core, hcore⟩ := required_ok_iff.2 h.wan
  obtain ⟨n3, hn3⟩ := required_ok_iff.2 h.n3
  obtain ⟨n6, hn6⟩ := required_ok_iff.2 h.n6
  exact ⟨_, _, rfl, mgt, hmgt, gnb, hgnb, core, hcore, n3, hn3, n6, hn6, rfl⟩

theorem UpfConfigOk.canDeploy {c : Create5gModel} (h : c.UpfConfigOk areaId) (harea : c.getArea areaId = some area)
    (hcomplete : area.Complete) : c.CanDeploy area := by
  have hid := getArea_id harea
  subst hid
  refine ⟨h, hcomplete.upf, ?_⟩
  intro hexternal
  obtain ⟨area', harea', hnetworks⟩ := upfNetworks_ok_iff.1 h.networks
  cases harea.symm.trans harea'
  exact routerModel_ok harea hnetworks (hcomplete.router hexternal)

theorem mem_areaIds {c : Create5gModel} (h : c.getArea areaId = some area) : areaId ∈ c.areaIds := by
  rw [← getArea_id h]
  exact List.mem_map_of_mem (getArea_mem h)

theorem getArea_of_mem {c : Create5gModel} (h : area ∈ c.areas) : ∃ first, c.getArea area.id = some first := by
  apply Option.isSome_iff_exists.1
  unfold getArea
  rw [List.find?_isSome]
  exact ⟨area, h, decide_eq_true rfl⟩

theorem buildable_iff {c : Create5gModel} :
    c.Buildable ↔ (∀ area ∈ c.areas, c.SlicesOk area) ∧
      ∀ areaId area, c.getArea areaId = some area → c.NetworksOk area := by
  constructor
  · intro h
    constructor
    · intro area harea
      exact upfSlices_ok_iff.1 (h area harea).slices area harea rfl
    · intro areaId area harea
      have hok := h area (getArea_mem harea)
      rw [getArea_id harea] at hok
      obtain ⟨first, hfirst, hnetworks⟩ := upfNetworks_ok_iff.1 hok.networks
      cases harea.symm.trans hfirst
      exact hnetworks
  · rintro ⟨hslices, hnetworks⟩ area harea
    constructor
    · exact upfSlices_ok_iff.2 (fun a ha _ => hslices a ha)
    · obtain ⟨first, hfirst⟩ := getArea_of_mem harea
      exact upfNetworks_ok_iff.2 ⟨first, hfirst, hnetworks _ first hfirst⟩

/-- Some area offers a slice with the data network. -/
def Serves (c : Create5gModel) (dnn : String) : Prop :=
  ∃ area ∈ c.areas, ∃ slice ∈ area.slices.getD [], ∃ profile,
    c.getSliceProfile slice.sliceId = .ok (some profile) ∧ dnn ∈ profile.dnnList

theorem Buildable.setSubscribers {c : Create5gModel} (h : c.Buildable) (subscribers : List SubSubscribers) :
    (c.setSubscribers subscribers).Buildable :=
  fun area harea => ⟨(h area harea).slices, (h area harea).networks⟩

theorem Buildable.addDnn {c : Create5gModel} (h : c.Buildable) (hm : m.pools ≠ [] ∨ ¬ c.Serves m.dnn) :
    (c.setDataNets (c.config.networkEndpoints.dataNets ++ [m])).Buildable := by
  obtain ⟨hslices, hnetworks⟩ := buildable_iff.1 h
  apply buildable_iff.2
  constructor
  · intro area harea
    refine ⟨(hslices area harea).listed, ?_⟩
    intro slice hslice
    obtain ⟨profile, hprofile, hpools⟩ := (hslices area harea).profiles slice hslice
    refine ⟨profile, hprofile, ?_⟩
    intro net hnet hnamed
    rcases List.mem_append.1 hnet with hnet | hnet
    · exact hpools net hnet hnamed
    · rw [List.mem_singleton.1 hnet] at hnamed ⊢
      exact hm.resolve_right (fun hno => hno ⟨area, harea, slice, hslice, profile, hprofile, hnamed⟩)
  · intro areaId area harea
    have hok := hnetworks areaId area harea
    exact ⟨hok.mgt, hok.wan, hok.n3, hok.n6⟩

theorem Buildable.delDnn {c : Create5gModel} (h : c.Buildable) (p : SubDataNets → Bool) :
    (c.setDataNets (c.config.networkEndpoints.dataNets.filter p)).Buildable := by
  obtain ⟨hslices, hnetworks⟩ := buildable_iff.1 h
  apply buildable_iff.2
  constructor
  · intro area harea
    refine ⟨(hslices area harea).listed, ?_⟩
    intro slice hslice
    obtain ⟨profile, hprofile, hpools⟩ := (hslices area harea).profiles slice hslice
    exact ⟨profile, hprofile, fun net hnet => hpools net (List.mem_of_mem_filter hnet)⟩
  · intro areaId area harea
    have hok := hnetworks areaId area harea
    exact ⟨hok.mgt, hok.wan, hok.n3, hok.n6⟩

theorem getArea_delTac {c : Create5gModel}
    (h : (c.setAreas (c.areas.filter (fun x => decide (x.id ≠ deleted)))).getArea areaId = some area) :
    c.getArea areaId = some area := by
  have hne : areaId ≠ deleted := by
    have hmem := (List.mem_filter.1 (getArea_mem h)).2
    rw [getArea_id h] at hmem
    exact of_decide_eq_true hmem
  change List.find? _ (c.areas.filter _) = some area at h
  rw [List.find?_filter] at h
  rw [← h]
  unfold getArea
  congr 1
  funext x
  by_cases hx : x.id = areaId
  · simp [hx, hne]
  · simp [hx]

theorem Buildable.delTac {c : Create5gModel} (h : c.Buildable) (deleted : Int) :
    (c.setAreas (c.areas.filter (fun x => decide (x.id ≠ deleted)))).Buildable := by
  obtain ⟨hslices, hnetworks⟩ := buildable_iff.1 h
  apply buildable_iff.2
  constructor
  · intro area harea
    have hok := hslices area (List.mem_of_mem_filter harea)
    exact ⟨hok.listed, hok.profiles⟩
  · intro areaId area harea
    have hok := hnetworks areaId area (getArea_delTac harea)
    exact ⟨hok.mgt, hok.wan, hok.n3, hok.n6⟩

end Create5gModel

end Nfvcl
