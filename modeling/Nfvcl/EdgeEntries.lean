import Mathlib.Data.List.Basic
import Nfvcl.EdgeChildren

namespace Nfvcl
set_option autoImplicit true
open Effects KeyedList

namespace Generic5G

/-- The configuration, and `edge_areas` as a dictionary. -/
structure Keyed (c : Create5gModel) (t : Generic5GState EdgeState) : Prop where
  config : t.currentConfig = some c
  unique : Unique EdgeAreaInfo.area t.rest.edgeAreas

theorem Keyed.same (h : Keyed c t) (hs : SameEdges t t') : Keyed c t' :=
  ⟨hs.config.trans h.config, by rw [hs.edgeAreas]; exact h.unique⟩

section Steps

variable {provider : EdgeProvider} {c : Create5gModel} {t : Generic5GState EdgeState}

theorem assignEdgeArea_keyed (h : Keyed c t) (areaId : Int) (f : EdgeAreaInfo → EdgeAreaInfo) :
    Meets (assignEdgeArea areaId f) t (fun _ => Keyed c) (fun _ _ => True) := by
  apply (assignEdgeArea_meets areaId f t).mono
  · rintro _ t' ⟨info, -, rfl⟩
    exact ⟨h.config, h.unique.replace _⟩
  · exact fun _ _ _ => trivial

theorem deployUpfBlueprint_keyed (h : Keyed c t) (areaId : Int) (upfType : String) :
    Meets (deployUpfBlueprint provider areaId upfType) t (fun _ => Keyed c) (fun _ _ => True) := by
  unfold deployUpfBlueprint
  rw [meets_bind]
  apply (createUpfConfig_meets provider areaId t).mono
  · rintro model t₁ ⟨-, h₁⟩
    rw [meets_bind]
    apply (call_meets provider _ areaId t₁).mono
    · rintro upfId t₂ ⟨-, h₂⟩
      rw [meets_bind]
      apply (registerChildren_meets upfId t₂).mono
      · rintro _ t₃ ⟨-, h₃⟩
        apply (getUpfsInfo_meets provider areaId upfId model t₃).mono
        · exact fun _ t₄ h₄ => (((h.same h₁).same h₂).same h₃).same h₄.2
        · exact fun _ _ _ => trivial
      · exact fun _ _ _ => trivial
    · exact fun _ _ _ => trivial
  · exact fun _ _ _ => trivial

theorem deployArea_keyed (h : Keyed c t) (area : SubArea) (hnew : toMap EdgeAreaInfo.area t.rest.edgeAreas area.id = none) :
    Meets (deployArea provider area) t (fun _ => Keyed c) (fun _ _ => True) := by
  unfold deployArea
  rw [meets_bind, meets_get, meets_bind]
  unfold setEdgeAreas
  rw [meets_modify, meets_bind]
  have hstored : Keyed c { t with rest := { t.rest with edgeAreas := t.rest.edgeAreas ++ [{ area := area.id }] } } :=
    ⟨h.config, h.unique.append hnew⟩
  apply (areaRouter_meets provider area _).mono
  · rintro router t₁ ⟨-, h₁⟩
    rw [meets_bind]
    apply (assignEdgeArea_keyed (hstored.same h₁) area.id _).mono
    · intro _ t₂ h₂
      cases area.upf with
      | none => exact trivial
      | some upf =>
        dsimp only
        rw [meets_bind]
        apply (deployUpfBlueprint_keyed h₂ area.id upf.type).mono
        · exact fun upfInfo t₃ h₃ => assignEdgeArea_keyed h₃ area.id _
        · exact fun _ _ _ => trivial
    · exact fun _ _ _ => trivial
  · exact fun _ _ _ => trivial

theorem refreshArea_keyed (h : Keyed c t) (areaId : Int) : Meets (refreshArea provider areaId) t (fun _ => Keyed c) (fun _ _ => True) := by
  unfold refreshArea
  rw [meets_bind]
  apply (createUpfConfig_meets provider areaId t).mono
  · rintro config t₁ ⟨-, h₁⟩
    rw [meets_bind]
    apply (edgeUpf_meets _ areaId t₁).mono
    · rintro upf t₂ ⟨-, rfl⟩
      split
      · rw [meets_bind]
        apply (call_meets provider _ areaId t₂).mono
        · rintro n t₃ ⟨-, h₃⟩
          rw [meets_bind]
          apply (getUpfsInfo_meets provider areaId _ _ t₃).mono
          · exact fun upfInfo t₄ h₄ => assignEdgeArea_keyed (((h.same h₁).same h₃).same h₄.2) areaId _
          · exact fun _ _ _ => trivial
        · exact fun _ _ _ => trivial
      · exact h.same h₁
    · exact fun _ _ _ => trivial
  · exact fun _ _ _ => trivial

theorem addRouteToRouter_keyed (h : Keyed c t) (areaId : Int) (cidr : Option String) (nexthop : IPv4Address) :
    Meets (addRouteToRouter provider areaId cidr nexthop) t (fun _ => Keyed c) (fun _ _ => True) := by
  unfold addRouteToRouter
  rw [meets_bind]
  apply (edgeRouter_meets _ areaId t).mono
  · rintro router t₁ ⟨-, rfl⟩
    split
    · exact h
    · rw [meets_bind]
      apply (lift_meets _ t₁).mono
      · rintro cidr t₂ ⟨-, rfl⟩
        rw [meets_bind]
        apply (call_meets provider _ areaId t₂).mono
        · exact fun n t₃ h₃ => h.same h₃.2
        · exact fun _ _ _ => trivial
      · exact fun _ _ _ => trivial
  · exact fun _ _ _ => trivial

theorem routeUpf_keyed (h : Keyed c t) (areaId : Int) (deployed : DeployedUPFInfo) :
    Meets (routeUpf provider areaId deployed) t (fun _ => Keyed c) (fun _ _ => True) := by
  unfold routeUpf
  apply Meets.forM _ h
  intro dnn _ t' h'
  cases deployed.networkInfo with
  | none => exact trivial
  | some info => exact addRouteToRouter_keyed h' areaId _ _

theorem updateArea_keyed (h : Keyed c t) (area : SubArea) : Meets (updateArea provider area) t (fun _ => Keyed c) (fun _ _ => True) := by
  unfold updateArea deployOrRefresh
  rw [meets_bind, meets_bind, meets_get]
  have hstep : Meets (if (toMap EdgeAreaInfo.area t.rest.edgeAreas area.id).isNone then deployArea provider area
      else refreshArea provider area.id) t (fun _ => Keyed c) (fun _ _ => True) := by
    split
    · rename_i hnone
      exact deployArea_keyed h area (Option.isNone_iff_eq_none.1 hnone)
    · exact refreshArea_keyed h area.id
  apply hstep.mono
  · intro _ t₁ h₁
    rw [meets_bind]
    apply (edgeUpf_meets _ area.id t₁).mono
    · rintro upf t₂ ⟨-, rfl⟩
      apply Meets.forM _ h₁
      exact fun deployed _ t₃ h₃ => routeUpf_keyed h₃ area.id deployed
    · exact fun _ _ _ => trivial
  · exact fun _ _ _ => trivial

theorem deleteArea_keyed (h : Keyed c t) (areaId : Int) : Meets (deleteArea provider areaId) t
    (fun _ t' => t'.currentConfig = some c ∧ t'.rest.edgeAreas = KeyedList.erase EdgeAreaInfo.area t.rest.edgeAreas areaId)
    (fun _ _ => True) := by
  unfold deleteArea
  have hrouter : Meets (undeployOwnRouter provider areaId) t
      (fun _ t' => t'.currentConfig = some c ∧ t'.rest.edgeAreas = t.rest.edgeAreas) (fun _ _ => True) := by
    unfold undeployOwnRouter
    rw [meets_bind]
    apply (edgeRouter_meets _ areaId t).mono
    · rintro router t₁ ⟨-, rfl⟩
      split
      · exact ⟨h.config, rfl⟩
      · apply (undeployRouterBlueprint_meets provider areaId t₁).mono
        · rintro _ t₂ ⟨t₃, info, router, id, -, -, -, h₃, rfl⟩
          exact ⟨h₃.config.trans h.config, h₃.edgeAreas⟩
        · exact fun _ _ _ => trivial
    · exact fun _ _ _ => trivial
  rw [meets_bind]
  apply hrouter.mono
  · rintro _ t₁ ⟨hconfig₁, hareas₁⟩
    unfold undeployUpfBlueprint
    rw [meets_bind, meets_bind]
    apply (edgeUpf_meets _ areaId t₁).mono
    · rintro upf t₂ ⟨-, rfl⟩
      rw [meets_bind]
      apply (call_meets provider _ areaId t₂).mono
      · rintro n t₃ ⟨-, h₃⟩
        apply (deregisterChildren_meets _ t₃).mono
        · rintro _ t₄ rfl
          rw [meets_bind, meets_get]
          unfold setEdgeAreas
          rw [meets_modify]
          refine ⟨h₃.config.trans hconfig₁, ?_⟩
          show KeyedList.erase EdgeAreaInfo.area t₃.rest.edgeAreas areaId = _
          rw [h₃.edgeAreas, hareas₁]
        · exact fun _ _ _ => trivial
      · exact fun _ _ _ => trivial
    · exact fun _ _ _ => trivial
  · exact fun _ _ _ => trivial

/-- The areas still to be deleted are the only ones that left the configuration. -/
structure Leaving (c : Create5gModel) (ids : List Int) (t : Generic5GState EdgeState) : Prop extends Keyed c t where
  known : ∀ info ∈ t.rest.edgeAreas, info.area ∈ c.areas.map SubArea.id ∨ info.area ∈ ids

theorem deleteAreas_leaving {ids : List Int} (h : Leaving c ids t) :
    Meets (forM ids (deleteArea provider)) t (fun _ => Leaving c []) (fun _ _ => True) := by
  induction ids generalizing t with
  | nil => exact h
  | cons areaId ids ih =>
    rw [List.forM_cons, meets_bind]
    apply (deleteArea_keyed h.toKeyed areaId).mono
    · rintro _ t₁ ⟨hconfig, hareas⟩
      apply ih
      refine ⟨⟨hconfig, by rw [hareas]; exact h.unique.erase areaId⟩, ?_⟩
      intro info hinfo
      rw [hareas] at hinfo
      have hold := (erase_sublist _ _ _).subset hinfo
      rcases h.known info hold with hin | hleft
      · exact .inl hin
      · rcases List.mem_cons.1 hleft with hid | hrest
        · have hfound := (h.unique.erase areaId).toMap_mem hinfo
          rw [hid, toMap_erase h.unique, Function.update_self] at hfound
          cases hfound
        · exact .inr hrest
    · exact fun _ _ _ => trivial

/-- An update that returns leaves an entry for areas of the configuration only. -/
theorem updateEdgeAreas_entries (provider : EdgeProvider) (h : Keyed c t) : Meets (updateEdgeAreas provider) t (fun _ => Leaving c []) (fun _ _ => True) := by
  unfold updateEdgeAreas
  rw [meets_bind]
  apply (areas_meets t).mono
  · rintro areas t₁ ⟨⟨c', hc', rfl⟩, rfl⟩
    obtain rfl : c = c' := Option.some.inj (h.config.symm.trans hc')
    rw [meets_bind]
    refine (Meets.forM (I := Keyed c) _ h fun area _ t' h' => updateArea_keyed h' area).mono ?_ fun _ _ _ => trivial
    intro _ t₂ h₂
    rw [meets_bind, meets_get]
    apply deleteAreas_leaving
    refine ⟨h₂, ?_⟩
    intro info hinfo
    by_cases hin : info.area ∈ c.areas.map SubArea.id
    · exact .inl hin
    · right
      rw [(provider.order_perm _).mem_iff, List.mem_filter]
      exact ⟨List.mem_map_of_mem hinfo, decide_eq_true hin⟩
  · exact fun _ _ _ => trivial

end Steps

end Generic5G

end Nfvcl
