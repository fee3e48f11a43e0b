import Mathlib.Data.List.Basic
import Mathlib.Data.List.Perm.Basic
import Nfvcl.EdgeAreas

namespace Nfvcl
set_option autoImplicit true
open Effects

namespace EdgeState

/-- The keys of `edge_areas`. -/
def areaIds (r : EdgeState) : List Int :=
  r.edgeAreas.map EdgeAreaInfo.area

theorem mem_areaIds {r : EdgeState} (h : KeyedList.toMap EdgeAreaInfo.area r.edgeAreas areaId = some info) :
    areaId ∈ r.areaIds := by
  rw [← KeyedList.toMap_some_key h]
  exact List.mem_map_of_mem (KeyedList.toMap_some_mem h)

theorem exists_of_mem_areaIds {r : EdgeState} (h : areaId ∈ r.areaIds) :
    ∃ info, KeyedList.toMap EdgeAreaInfo.area r.edgeAreas areaId = some info := by
  obtain ⟨info, hinfo, rfl⟩ := List.mem_map.1 h
  exact Option.isSome_iff_exists.1 (KeyedList.toMap_isSome.2 ⟨info, hinfo, rfl⟩)

theorem toMap_eq_none_iff {r : EdgeState} :
    KeyedList.toMap EdgeAreaInfo.area r.edgeAreas areaId = none ↔ areaId ∉ r.areaIds := by
  constructor
  · intro h hmem
    obtain ⟨info, hinfo⟩ := exists_of_mem_areaIds hmem
    rw [hinfo] at h
    cases h
  · intro h
    rw [KeyedList.toMap_eq_none]
    rintro info hinfo rfl
    exact h (List.mem_map_of_mem hinfo)

/-- The blueprints of one entry and those of the others. -/
theorem flatMap_perm {r : EdgeState} (hinfo : KeyedList.toMap EdgeAreaInfo.area r.edgeAreas areaId = some info) :
    (r.edgeAreas.flatMap EdgeAreaInfo.blueIds).Perm
      (info.blueIds ++ (KeyedList.erase EdgeAreaInfo.area r.edgeAreas areaId).flatMap EdgeAreaInfo.blueIds) :=
  (KeyedList.perm_cons_erase hinfo).flatMap_right EdgeAreaInfo.blueIds

/-- The blueprints of an entry are different. -/
theorem Sound.blueIds_nodup {r : EdgeState} (h : r.Sound)
    (hinfo : KeyedList.toMap EdgeAreaInfo.area r.edgeAreas areaId = some info) : info.blueIds.Nodup :=
  ((h.children.trans (flatMap_perm hinfo)).nodup_iff.1 h.nodup).sublist (List.sublist_append_left _ _)

/-- An entry is overwritten by one with the same blueprints. -/
theorem Sound.replace {r : EdgeState} (h : r.Sound)
    (hinfo : KeyedList.toMap EdgeAreaInfo.area r.edgeAreas info'.area = some info) (hwhole : info'.Whole)
    (hids : info'.blueIds = info.blueIds) :
    EdgeState.Sound { r with edgeAreas := KeyedList.replace EdgeAreaInfo.area r.edgeAreas info' } := by
  have hperm := KeyedList.replace_perm (Option.isSome_iff_exists.2 ⟨info, hinfo⟩)
  constructor
  · exact h.keys.replace info'
  · intro i hi
    rcases List.mem_cons.1 (hperm.mem_iff.1 hi) with rfl | hi
    · exact hwhole
    · exact h.whole i ((KeyedList.erase_sublist _ _ _).subset hi)
  · have hnew := hperm.flatMap_right EdgeAreaInfo.blueIds
    rw [List.flatMap_cons, hids] at hnew
    exact (h.children.trans (flatMap_perm hinfo)).trans hnew.symm
  · exact h.nodup
  · exact h.fresh

/-- An entry is removed together with its blueprints. -/
theorem Sound.erase {r : EdgeState} {children : List BlueId} (h : r.Sound)
    (hinfo : KeyedList.toMap EdgeAreaInfo.area r.edgeAreas areaId = some info)
    (hchildren : r.childrenBlueIds.Perm (info.blueIds ++ children)) :
    EdgeState.Sound { r with
      edgeAreas := KeyedList.erase EdgeAreaInfo.area r.edgeAreas areaId
      childrenBlueIds := children } := by
  constructor
  · exact h.keys.erase areaId
  · intro i hi
    exact h.whole i ((KeyedList.erase_sublist _ _ _).subset hi)
  · apply (List.perm_append_left_iff info.blueIds).1
    exact (hchildren.symm.trans h.children).trans (flatMap_perm hinfo)
  · exact ((hchildren.nodup_iff.1 h.nodup).sublist (List.sublist_append_right _ _))
  · intro b hb
    exact h.fresh b (hchildren.mem_iff.2 (List.mem_append_right _ hb))

/-- What an update of one area leaves as it was. -/
structure Updated (areaId : Int) (r r' : EdgeState) : Prop where
  sound : r'.Sound
  others : ∀ info ∈ r'.edgeAreas, info.area = areaId ∨ info ∈ r.edgeAreas
  kept : ∀ id ∈ r.areaIds, id ∈ r'.areaIds

theorem Updated.later {r r' r'' : EdgeState} (h : Updated areaId r r') (hl : r'.Later r'') : Updated areaId r r'' := by
  have hsound := h.sound.later hl
  obtain ⟨n, rfl⟩ := hl
  exact ⟨hsound, h.others, h.kept⟩

theorem Updated.refl {r : EdgeState} (areaId : Int) (h : r.Sound) : Updated areaId r r :=
  ⟨h, fun _ hinfo => .inr hinfo, fun _ hid => hid⟩

theorem Updated.replace {r r' : EdgeState} (h : Updated areaId r r')
    (hinfo : KeyedList.toMap EdgeAreaInfo.area r'.edgeAreas areaId = some info) (hwhole : info'.Whole)
    (hids : info'.blueIds = info.blueIds) (harea : info'.area = areaId) :
    Updated areaId r { r' with edgeAreas := KeyedList.replace EdgeAreaInfo.area r'.edgeAreas info' } := by
  subst harea
  constructor
  · exact h.sound.replace hinfo hwhole hids
  · intro i hi
    have hperm := KeyedList.replace_perm (Option.isSome_iff_exists.2 ⟨info, hinfo⟩)
    rcases List.mem_cons.1 (hperm.mem_iff.1 hi) with rfl | hi
    · exact .inl rfl
    · exact h.others i ((KeyedList.erase_sublist _ _ _).subset hi)
  · intro id hid
    unfold areaIds
    rw [KeyedList.map_replace_key]
    exact h.kept id hid

end EdgeState

namespace Create5gModel

def areaIds (c : Create5gModel) : List Int :=
  c.areas.map SubArea.id

/-- The UPF configurations of all areas can be built. -/
def Buildable (c : Create5gModel) : Prop :=
  ∀ area ∈ c.areas, c.UpfConfigOk area.id

theorem getArea_mem {c : Create5gModel} (h : c.getArea areaId = some area) : area ∈ c.areas :=
  List.mem_of_find?_eq_some h

theorem getArea_id {c : Create5gModel} (h : c.getArea areaId = some area) : area.id = areaId := by
  simpa using List.find?_some h

/-- The area that is found is the first with its id. -/
theorem getArea_first {c : Create5gModel} (h : c.areas = done ++ area :: rest) (hdone : ∀ a ∈ done, a.id ≠ area.id) :
    c.getArea area.id = some area := by
  unfold getArea
  rw [h, List.find?_append, List.find?_eq_none.2 (by simpa using hdone), Option.none_or,
    List.find?_cons_of_pos (by simp)]

end Create5gModel

/-- An update for `c` that starts in `r` gets through the steps that cannot be repeated: the
deployment of a new area and, once its router is gone, the removal of a UPF. -/
structure EdgeProvider.Ready (provider : EdgeProvider) (c : Create5gModel) (r : EdgeState) : Prop where
  deploys : ∀ areaId area, c.getArea areaId = some area → areaId ∉ r.areaIds →
    provider.Deploys areaId ∧ c.CanDeploy area
  removes : ∀ info ∈ r.edgeAreas, info.area ∉ c.areaIds → info.routerIds ≠ [] →
    ∀ upf n, provider.raises (.deleteUpf upf) info.area n = none

namespace Generic5G

open EdgeState (Later Updated)

section Update

variable {c : Create5gModel} {r : EdgeState} {provider : EdgeProvider}

theorem refreshArea_leads {areaId : Int} (hsound : r.Sound)
    (hinfo : KeyedList.toMap EdgeAreaInfo.area r.edgeAreas areaId = some info) (hroutable : provider.Routable) :
    Leads c (refreshArea provider areaId) r
      (fun _ r' => Updated areaId r r' ∧ areaId ∈ r'.areaIds ∧ c.UpfConfigOk areaId)
      (fun r' => Updated areaId r r' ∧ ¬ (provider.Succeeds ∧ c.UpfConfigOk areaId)) := by
  obtain ⟨⟨router, hrouter, hblue⟩, ⟨upf, hupf, hroutes⟩⟩ := hsound.whole info (KeyedList.toMap_some_mem hinfo)
  have harea := KeyedList.toMap_some_key hinfo
  have hmem := EdgeState.mem_areaIds hinfo
  apply Leads.seq
  apply (createUpfConfig_leads hinfo hrouter).mono
  · rintro config r₁ ⟨hlater, hok⟩
    have hupd := (Updated.refl areaId hsound).later hlater
    rw [← hlater.edgeAreas] at hinfo
    apply Leads.seq
    apply Leads.edgeUpf _ hinfo hupf
    by_cases hsame : upf.currentConfig = config
    · simp only [hsame, ne_eq, not_true, if_false]
      exact Leads.pure ⟨hupd, hupd.kept _ hmem, hok⟩
    · simp only [hsame, ne_eq, not_false_iff, if_true]
      apply Leads.seq
      apply Leads.call
      · intro _
        apply Leads.seq
        apply Leads.mono (getUpfsInfo_leads _ _ ?_ hrouter)
        · rintro upf' r₂ ⟨rfl, hid, hlist⟩
          have htick : KeyedList.toMap EdgeAreaInfo.area r₁.tick.tick.edgeAreas areaId = some info := hinfo
          apply Leads.assignEdgeArea htick
          have hwhole : EdgeAreaInfo.Whole { info with upf := some upf' } := by
            constructor
            · exact ⟨router, hrouter, hblue⟩
            · refine ⟨upf', rfl, ?_⟩
              rw [hlist]
              exact hroutable _
          have hids : EdgeAreaInfo.blueIds { info with upf := some upf' } = info.blueIds := by
            simp only [EdgeAreaInfo.blueIds, EdgeAreaInfo.routerIds, EdgeAreaInfo.upfIds, hupf, Option.toList_some,
              List.map_singleton, hid]
          have hupd' := hupd.later (Later.refl _).tick.tick
          have hnew := hupd'.replace htick hwhole hids harea
          exact ⟨hnew, hnew.kept _ hmem, hok⟩
        · rintro r₂ ⟨rfl, hraise⟩
          exact ⟨hupd.later (Later.refl _).tick.tick, fun h => hraise (h.1 _ _ _)⟩
        · exact hinfo
      · intro hraise
        exact ⟨hupd.later (Later.refl _).tick, fun h => hraise (h.1 _ _ _)⟩
  · rintro r' ⟨hlater, hno⟩
    exact ⟨(Updated.refl areaId hsound).later hlater, fun h => hno ⟨h.2, fun n => h.1 _ _ n⟩⟩

theorem addRoute_leads {areaId : Int} (hinfo : KeyedList.toMap EdgeAreaInfo.area r.edgeAreas areaId = some info)
    (hrouter : info.router = some router) (hcidr : cidr ≠ none) (nexthop : IPv4Address) :
    Leads c (addRouteToRouter provider areaId cidr nexthop) r (fun _ r' => r.Later r')
      (fun r' => r.Later r' ∧ ¬ provider.Succeeds) := by
  apply Leads.seq
  apply Leads.edgeRouter _ hinfo hrouter
  cases router.external with
  | true =>
    simp only [if_true]
    exact Leads.pure (.refl r)
  | false =>
    simp only [Bool.false_eq_true, if_false]
    apply Leads.seq
    apply Leads.lift
    · intro cidr _
      apply Leads.seq
      apply Leads.call
      · intro _
        exact Leads.pure (Later.refl r).tick
      · intro hraise
        exact ⟨(Later.refl r).tick, fun h => hraise (h _ _ _)⟩
    · intro hnone
      obtain ⟨value, rfl⟩ := Option.ne_none_iff_exists'.1 hcidr
      exact (hnone value rfl).elim

theorem routeUpf_leads {areaId : Int} (hinfo : KeyedList.toMap EdgeAreaInfo.area r.edgeAreas areaId = some info)
    (hrouter : info.router = some router) (hroutes : u.Routable) :
    Leads c (routeUpf provider areaId u) r (fun _ r' => r.Later r') (fun r' => r.Later r' ∧ ¬ provider.Succeeds) := by
  apply Leads.forM_mem (.refl r)
  intro dnn hdnn r' hlater
  obtain ⟨hnetwork, hcidr⟩ := hroutes dnn hdnn
  obtain ⟨network, hsome⟩ := Option.ne_none_iff_exists'.1 hnetwork
  rw [← hlater.edgeAreas] at hinfo
  simp only [hsome]
  apply (addRoute_leads hinfo hrouter hcidr network.n6Ip).mono
  · intro _ r'' hlater'
    exact hlater.trans hlater'
  · intro r'' h
    exact ⟨hlater.trans h.1, h.2⟩

/-- The routes of an area whose entry is whole. -/
theorem routeArea_leads {areaId : Int} (hsound : r.Sound) (hmem : areaId ∈ r.areaIds) :
    Leads c (do let upf ← edgeUpf "upf_list" areaId; forM upf.upfList (routeUpf provider areaId)) r
      (fun _ r' => r.Later r') (fun r' => r.Later r' ∧ ¬ provider.Succeeds) := by
  obtain ⟨info, hinfo⟩ := EdgeState.exists_of_mem_areaIds hmem
  obtain ⟨⟨router, hrouter, -⟩, ⟨upf, hupf, hroutes⟩⟩ := hsound.whole info (KeyedList.toMap_some_mem hinfo)
  apply Leads.seq
  apply Leads.edgeUpf _ hinfo hupf
  apply Leads.forM_mem (.refl r)
  intro u hu r' hlater
  rw [← hlater.edgeAreas] at hinfo
  apply (routeUpf_leads hinfo hrouter (hroutes u hu)).mono
  · intro _ r'' hlater'
    exact hlater.trans hlater'
  · intro r'' h
    exact ⟨hlater.trans h.1, h.2⟩

theorem updateArea_leads (area : SubArea) (hsound : r.Sound) (hroutable : provider.Routable) :
    Leads c (updateArea provider area) r
      (fun _ r' => Updated area.id r r' ∧ area.id ∈ r'.areaIds ∧ c.UpfConfigOk area.id)
      (fun r' => (area.id ∉ r.areaIds → provider.Deploys area.id ∧ c.CanDeploy area) →
        Updated area.id r r' ∧ ¬ (provider.Succeeds ∧ c.UpfConfigOk area.id)) := by
  have hroutes (r' : EdgeState) (hupd : Updated area.id r r') (hmem : area.id ∈ r'.areaIds) (hok : c.UpfConfigOk area.id) :
      Leads c (do let upf ← edgeUpf "upf_list" area.id; forM upf.upfList (routeUpf provider area.id)) r'
        (fun _ r'' => Updated area.id r r'' ∧ area.id ∈ r''.areaIds ∧ c.UpfConfigOk area.id)
        (fun r'' => (area.id ∉ r.areaIds → provider.Deploys area.id ∧ c.CanDeploy area) →
          Updated area.id r r'' ∧ ¬ (provider.Succeeds ∧ c.UpfConfigOk area.id)) := by
    apply (routeArea_leads hupd.sound hmem).mono
    · intro _ r'' hlater
      refine ⟨hupd.later hlater, ?_, hok⟩
      unfold EdgeState.areaIds
      rw [hlater.edgeAreas]
      exact hmem
    · intro r'' h _
      exact ⟨hupd.later h.1, fun hs => h.2 hs.1⟩
  apply Leads.seq
  apply Leads.seq
  apply Leads.get
  cases hentry : KeyedList.toMap EdgeAreaInfo.area r.edgeAreas area.id with
  | none =>
    simp only [Option.isNone_none, if_true]
    apply (deployArea_leads area hsound hentry hroutable).mono
    · rintro _ r' ⟨hsound', ⟨info, hareas, hid⟩, hcan⟩
      have hupd : Updated area.id r r' := by
        refine ⟨hsound', ?_, ?_⟩
        · intro i hi
          rw [hareas] at hi
          rcases List.mem_append.1 hi with hi | hi
          · exact .inr hi
          · rw [List.mem_singleton.1 hi]
            exact .inl hid
        · intro id hid'
          unfold EdgeState.areaIds
          rw [hareas, List.map_append]
          exact List.mem_append_left _ hid'
      apply hroutes r' hupd _ hcan.upfConfig
      unfold EdgeState.areaIds
      rw [hareas, List.map_append]
      exact List.mem_append_right _ (List.mem_singleton.2 hid.symm)
    · intro r' hno hdeploy
      exact (hno (hdeploy (EdgeState.toMap_eq_none_iff.1 hentry))).elim
  | some info =>
    simp only [Option.isNone_some, Bool.false_eq_true, if_false]
    apply (refreshArea_leads hsound hentry hroutable).mono
    · rintro _ r' ⟨hupd, hmem, hok⟩
      exact hroutes r' hupd hmem hok
    · exact fun r' h _ => h

/-- The state of the loop over the areas, those in `rest` still to come. -/
structure Updating (c : Create5gModel) (r : EdgeState) (rest : List SubArea) (r' : EdgeState) : Prop where
  sound : r'.Sound
  done : ∃ done, c.areas = done ++ rest ∧ ∀ area ∈ done, area.id ∈ r'.areaIds ∧ c.UpfConfigOk area.id
  others : ∀ info ∈ r'.edgeAreas, info.area ∈ c.areaIds ∨ info ∈ r.edgeAreas
  kept : ∀ id ∈ r.areaIds, id ∈ r'.areaIds

theorem Updating.step (h : Updating c r (area :: rest) r') (hupd : Updated area.id r' r'')
    (hmem : area.id ∈ r''.areaIds) (hok : c.UpfConfigOk area.id) : Updating c r rest r'' := by
  obtain ⟨done, hdone, hall⟩ := h.done
  refine ⟨hupd.sound, ⟨done ++ [area], ?_, ?_⟩, ?_, ?_⟩
  · rw [hdone, List.append_assoc]
    rfl
  · intro a ha
    rcases List.mem_append.1 ha with ha | ha
    · exact ⟨hupd.kept _ (hall a ha).1, (hall a ha).2⟩
    · rw [List.mem_singleton.1 ha]
      exact ⟨hmem, hok⟩
  · intro info hinfo
    rcases hupd.others info hinfo with hid | hinfo
    · rw [hid]
      refine .inl (List.mem_map_of_mem ?_)
      rw [hdone]
      exact List.mem_append_right _ List.mem_cons_self
    · exact h.others info hinfo
  · exact fun id hid => hupd.kept id (h.kept id hid)

theorem updateAreas_leads (hsound : r.Sound) (hroutable : provider.Routable) :
    Leads c (forM c.areas (updateArea provider)) r (fun _ r' => Updating c r [] r')
      (fun r' => provider.Ready c r → r'.Sound ∧ (∀ id ∈ r.areaIds, id ∈ r'.areaIds) ∧
        ¬ (provider.Succeeds ∧ c.Buildable)) := by
  apply Leads.forM (I := Updating c r)
  · exact ⟨hsound, ⟨[], rfl, fun _ h => (nomatch h)⟩, fun _ h => .inr h, fun _ h => h⟩
  · intro area rest r' h
    apply (updateArea_leads area h.sound hroutable).mono
    · rintro _ r'' ⟨hupd, hmem, hok⟩
      exact h.step hupd hmem hok
    · intro r'' hraise hready
      obtain ⟨done, hdone, hall⟩ := h.done
      have hfirst : area.id ∉ r'.areaIds → provider.Deploys area.id ∧ c.CanDeploy area := by
        intro hnew
        apply hready.deploys area.id area
        · apply Create5gModel.getArea_first hdone
          intro a ha hid
          exact hnew (hid ▸ (hall a ha).1)
        · exact fun hold => hnew (h.kept _ hold)
      obtain ⟨hupd, hno⟩ := hraise hfirst
      refine ⟨hupd.sound, fun id hid => hupd.kept id (h.kept id hid), fun hs => hno ⟨hs.1, hs.2 area ?_⟩⟩
      rw [hdone]
      exact List.mem_append_right _ List.mem_cons_self

/-- The blueprints of an entry are among the children. -/
theorem mem_children {areaId : Int} (hsound : r.Sound)
    (hinfo : KeyedList.toMap EdgeAreaInfo.area r.edgeAreas areaId = some info) (hb : b ∈ info.blueIds) :
    b ∈ r.childrenBlueIds :=
  hsound.children.mem_iff.2 (List.mem_flatMap.2 ⟨info, KeyedList.toMap_some_mem hinfo, hb⟩)

theorem undeployOwnRouter_leads {areaId : Int} (hsound : r.Sound)
    (hinfo : KeyedList.toMap EdgeAreaInfo.area r.edgeAreas areaId = some info) :
    Leads c (undeployOwnRouter provider areaId) r
      (fun _ r' => ∃ children n, r' = { r with childrenBlueIds := children, calls := r.calls + n } ∧
        r.childrenBlueIds.Perm (info.routerIds ++ children) ∧ (info.routerIds = [] → r' = r))
      (fun r' => r.Later r' ∧ ¬ provider.Succeeds) := by
  obtain ⟨⟨router, hrouter, hblue⟩, -⟩ := hsound.whole info (KeyedList.toMap_some_mem hinfo)
  apply Leads.seq
  apply Leads.edgeRouter _ hinfo hrouter
  cases hexternal : router.external with
  | true =>
    simp only [if_true]
    have hids : info.routerIds = [] := by
      simp only [EdgeAreaInfo.routerIds, hrouter, hexternal, if_true]
    rw [hids]
    exact Leads.pure ⟨r.childrenBlueIds, 0, rfl, .refl _, fun _ => rfl⟩
  | false =>
    simp only [Bool.false_eq_true, if_false]
    obtain ⟨b, hb⟩ := Option.ne_none_iff_exists'.1 (hblue hexternal)
    have hids : info.routerIds = [b] := by
      simp only [EdgeAreaInfo.routerIds, hrouter, hexternal, hb, Bool.false_eq_true, if_false, Option.toList_some]
    have hmem : b ∈ r.childrenBlueIds := by
      apply mem_children hsound hinfo
      rw [EdgeAreaInfo.blueIds, hids]
      exact List.mem_cons_self
    apply Leads.seq
    apply Leads.edgeRouter _ hinfo hrouter
    apply Leads.seq
    apply Leads.call
    · intro _
      simp only [hb]
      apply Leads.deregisterChildren
      · exact hmem
      · rw [hids]
        exact ⟨r.childrenBlueIds.erase b, 1, rfl, List.perm_cons_erase hmem, fun h => (nomatch h)⟩
    · intro hraise
      exact ⟨(Later.refl r).tick, fun h => hraise (h _ _ _)⟩

theorem deleteArea_leads {areaId : Int} (hsound : r.Sound)
    (hinfo : KeyedList.toMap EdgeAreaInfo.area r.edgeAreas areaId = some info) :
    Leads c (deleteArea provider areaId) r
      (fun _ r' => r'.Sound ∧ r'.edgeAreas = KeyedList.erase EdgeAreaInfo.area r.edgeAreas areaId)
      (fun r' => (info.routerIds ≠ [] → ∀ upf n, provider.raises (.deleteUpf upf) areaId n = none) →
        r'.Sound ∧ r'.edgeAreas = r.edgeAreas ∧ ¬ provider.Succeeds) := by
  obtain ⟨-, ⟨upf, hupf, -⟩⟩ := hsound.whole info (KeyedList.toMap_some_mem hinfo)
  have hupfIds : info.upfIds = [upf.blueId] := by
    rw [EdgeAreaInfo.upfIds, hupf]
    rfl
  apply Leads.seq
  apply (undeployOwnRouter_leads hsound hinfo).mono
  · rintro _ r₁ ⟨children, n, rfl, hperm, hsame⟩
    have hmem : upf.blueId ∈ children := by
      have hblue : upf.blueId ∈ info.blueIds := by
        rw [EdgeAreaInfo.blueIds, hupfIds]
        exact List.mem_append_right _ List.mem_cons_self
      rcases List.mem_append.1 (hperm.mem_iff.1 (mem_children hsound hinfo hblue)) with hrouter | hmem
      · exact (List.disjoint_of_nodup_append (hsound.blueIds_nodup hinfo) hrouter (by
          rw [hupfIds]
          exact List.mem_cons_self)).elim
      · exact hmem
    apply Leads.seq
    apply Leads.seq
    apply Leads.edgeUpf
    · exact hinfo
    · exact hupf
    · apply Leads.seq
      apply Leads.call
      · intro _
        apply Leads.deregisterChildren
        · exact hmem
        · apply Leads.seq
          apply Leads.get
          apply Leads.setEdgeAreas
          refine ⟨?_, rfl⟩
          have hall : r.childrenBlueIds.Perm (info.blueIds ++ children.erase upf.blueId) := by
            rw [EdgeAreaInfo.blueIds, hupfIds, List.append_assoc]
            exact hperm.trans ((List.perm_cons_erase hmem).append_left _)
          exact (hsound.erase hinfo hall).later ⟨n + 1, rfl⟩
      · intro hraise hremoves
        cases hids : info.routerIds with
        | nil =>
          have hr : _ = r := hsame hids
          rw [hr]
          exact ⟨hsound.later (Later.refl r).tick, rfl, fun h => hraise (h _ _ _)⟩
        | cons b bs =>
          exact (hraise (hremoves (by rw [hids]; exact List.cons_ne_nil b bs) _ _)).elim
  · rintro r' ⟨hlater, hno⟩ _
    exact ⟨hsound.later hlater, hlater.edgeAreas, hno⟩

/-- The state of the loop over the areas to delete, those in `ids` still to come. -/
structure Deleting (c : Create5gModel) (r : EdgeState) (ids : List Int) (r' : EdgeState) : Prop where
  sound : r'.Sound
  nodup : ids.Nodup
  left : ∀ id ∈ r'.areaIds, id ∈ ids ∨ id ∈ c.areaIds
  gone : ∀ id ∈ ids, id ∈ r'.areaIds ∧ id ∉ c.areaIds
  entries : ∀ info ∈ r'.edgeAreas, info ∈ r.edgeAreas
  kept : ∀ id ∈ r.areaIds, id ∈ c.areaIds → id ∈ r'.areaIds

theorem Deleting.step (h : Deleting c r (areaId :: ids) r') (hsound : r''.Sound)
    (hareas : r''.edgeAreas = KeyedList.erase EdgeAreaInfo.area r'.edgeAreas areaId) : Deleting c r ids r'' := by
  obtain ⟨hnotin, hnodup⟩ := List.nodup_cons.1 h.nodup
  have hgone := (h.gone areaId List.mem_cons_self).2
  have hmem (id : Int) : id ∈ r''.areaIds ↔ id ∈ r'.areaIds ∧ id ≠ areaId := by
    rw [← not_iff_not, ← EdgeState.toMap_eq_none_iff, hareas, KeyedList.toMap_erase h.sound.keys, Function.update_apply]
    by_cases hid : id = areaId
    · simp [hid]
    · rw [if_neg hid, EdgeState.toMap_eq_none_iff]
      simp [hid]
  refine ⟨hsound, hnodup, ?_, ?_, ?_, ?_⟩
  · intro id hid
    obtain ⟨hid, hne⟩ := (hmem id).1 hid
    exact (h.left id hid).imp_left (fun h => (List.mem_cons.1 h).resolve_left hne)
  · intro id hid
    obtain ⟨hin, hout⟩ := h.gone id (List.mem_cons_of_mem _ hid)
    refine ⟨(hmem id).2 ⟨hin, ?_⟩, hout⟩
    rintro rfl
    exact hnotin hid
  · intro info hinfo
    rw [hareas] at hinfo
    exact h.entries info ((KeyedList.erase_sublist _ _ _).subset hinfo)
  · intro id hid hc
    refine (hmem id).2 ⟨h.kept id hid hc, ?_⟩
    rintro rfl
    exact hgone hc

theorem deleteAreas_leads (h : Deleting c r ids r) :
    Leads c (forM ids (deleteArea provider)) r (fun _ r' => Deleting c r [] r')
      (fun r' => (∀ info ∈ r.edgeAreas, info.area ∉ c.areaIds → info.routerIds ≠ [] →
          ∀ upf n, provider.raises (.deleteUpf upf) info.area n = none) →
        r'.Sound ∧ (∀ id ∈ r.areaIds, id ∈ c.areaIds → id ∈ r'.areaIds) ∧ ¬ provider.Succeeds) := by
  apply Leads.forM (I := Deleting c r)
  · exact h
  · intro areaId ids r' h
    obtain ⟨hmem, hgone⟩ := h.gone areaId List.mem_cons_self
    obtain ⟨info, hinfo⟩ := EdgeState.exists_of_mem_areaIds hmem
    apply (deleteArea_leads h.sound hinfo).mono
    · rintro _ r'' ⟨hsound, hareas⟩
      exact h.step hsound hareas
    · intro r'' hraise hremoves
      have harea := KeyedList.toMap_some_key hinfo
      subst harea
      obtain ⟨hsound, hareas, hno⟩ := hraise (hremoves info (h.entries info (KeyedList.toMap_some_mem hinfo)) hgone)
      refine ⟨hsound, ?_, hno⟩
      intro id hid hc
      unfold EdgeState.areaIds
      rw [hareas]
      exact h.kept id hid hc

/-- Reading the areas. -/
theorem Leads.areas {Q : List SubArea → EdgeState → Prop} {E : EdgeState → Prop} (h : Q c.areas r) :
    Leads c (onConfig "areas" (do let c ← MonadState.get; return c.areas)) r Q E := by
  unfold Leads Meets
  rw [onConfig_run]
  exact ⟨rfl, h⟩

/-- An update that returns has deployed exactly the areas of the configuration; one that raises
has kept the entries whole, unless a step was cut that cannot be repeated. -/
theorem updateEdgeAreas_leads (hsound : r.Sound) (hroutable : provider.Routable) :
    Leads c (updateEdgeAreas provider) r
      (fun _ r' => r'.Sound ∧ (∀ id, id ∈ r'.areaIds ↔ id ∈ c.areaIds) ∧ c.Buildable)
      (fun r' => provider.Ready c r →
        r'.Sound ∧ (∀ id ∈ r.areaIds, id ∈ c.areaIds → id ∈ r'.areaIds) ∧ ¬ (provider.Succeeds ∧ c.Buildable)) := by
  apply Leads.seq
  apply Leads.areas
  apply Leads.seq
  apply (updateAreas_leads hsound hroutable).mono
  · intro _ r' hupd
    obtain ⟨done, hdone, hall⟩ := hupd.done
    rw [List.append_nil] at hdone
    subst hdone
    apply Leads.seq
    apply Leads.get
    have hmem (id : Int) : id ∈ provider.order (r'.areaIds.filter (fun id => decide (id ∉ c.areaIds))) ↔
        id ∈ r'.areaIds ∧ id ∉ c.areaIds := by
      rw [(provider.order_perm _).mem_iff, List.mem_filter, decide_eq_true_eq]
    have hstart : Deleting c r' (provider.order (r'.areaIds.filter (fun id => decide (id ∉ c.areaIds)))) r' := by
      refine ⟨hupd.sound, ?_, ?_, fun id hid => (hmem id).1 hid, fun _ h => h, fun _ h _ => h⟩
      · rw [(provider.order_perm _).nodup_iff]
        exact List.Nodup.filter _ hupd.sound.keys
      · intro id hid
        by_cases hc : id ∈ c.areaIds
        · exact .inr hc
        · exact .inl ((hmem id).2 ⟨hid, hc⟩)
    have hdeployed : ∀ id ∈ c.areaIds, id ∈ r'.areaIds := by
      intro id hid
      obtain ⟨area, harea, rfl⟩ := List.mem_map.1 hid
      exact (hall area harea).1
    apply (deleteAreas_leads hstart).mono
    · intro _ r'' hdel
      refine ⟨hdel.sound, ?_, fun area harea => (hall area harea).2⟩
      intro id
      constructor
      · intro hid
        exact (hdel.left id hid).resolve_left (fun h => (nomatch h))
      · intro hid
        exact hdel.kept id (hdeployed id hid) hid
    · intro r'' hraise hready
      have hremoves : ∀ info ∈ r'.edgeAreas, info.area ∉ c.areaIds → info.routerIds ≠ [] →
          ∀ upf n, provider.raises (.deleteUpf upf) info.area n = none := by
        intro info hinfo hout
        exact hready.removes info ((hupd.others info hinfo).resolve_left hout) hout
      obtain ⟨hsound', hkept, hno⟩ := hraise hremoves
      exact ⟨hsound', fun id hid hc => hkept id (hupd.kept id hid) hc, fun hs => hno hs.1⟩
  · intro r' hraise hready
    obtain ⟨hsound', hkept, hno⟩ := hraise hready
    exact ⟨hsound', fun id hid _ => hkept id hid, hno⟩

end Update

end Generic5G

end Nfvcl
