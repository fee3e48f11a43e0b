import Mathlib.Data.List.Basic
import Nfvcl.EdgeChildren
import Nfvcl.Maintained

namespace Nfvcl
set_option autoImplicit true
open Effects KeyedList

namespace Generic5G

theorem liftExcept_maintains {I : σ → Prop} (m : Except PyError α) : Maintains I (liftExcept m) := by
  intro s hs
  cases m with
  | ok a => exact hs
  | error e => exact hs

/-- The configuration is the given one. -/
def At (config : Option Create5gModel) (s : Generic5GState ρ) : Prop :=
  s.currentConfig = config

/-- A part that only reads the configuration. -/
theorem onConfig_maintains {I : Generic5GState ρ → Prop} (attr : String) (f : Create5gModel → Except PyError α) :
    Maintains I (onConfig attr (do let c ← get; liftExcept (f c))) := by
  rintro ⟨config, r⟩ hs
  cases config with
  | none => exact hs
  | some c =>
    unfold Meets
    rw [onConfig_run]
    cases h : f c with
    | ok a =>
      simp only [EStateM.run_bind, EStateM.run_get, h]
      exact hs
    | error e =>
      simp only [EStateM.run_bind, EStateM.run_get, h]
      exact hs

section Edge

variable {config : Option Create5gModel} (provider : EdgeProvider)

theorem maintains_of_same {m : EdgeM α} (h : ∀ t, Meets m t (fun _ t' => SameEdges t t') (fun _ t' => SameEdges t t')) :
    Maintains (At config) m := by
  intro t ht
  apply (h t).mono
  · exact fun _ t' h' => h'.config.trans ht
  · exact fun _ t' h' => h'.config.trans ht

theorem call_maintains (c : EdgeCall) (areaId : Int) : Maintains (At config) (call provider c areaId) :=
  maintains_of_same (fun t => (call_meets provider c areaId t).mono (fun _ _ h => h.2) (fun _ _ h => h.2))

theorem edgeUpf_maintains (attr : String) (areaId : Int) : Maintains (At config) (edgeUpf attr areaId) := by
  intro t ht
  apply (edgeUpf_meets attr areaId t).mono
  · rintro _ _ ⟨-, rfl⟩
    exact ht
  · rintro _ _ rfl
    exact ht

theorem edgeRouter_maintains (attr : String) (areaId : Int) : Maintains (At config) (edgeRouter attr areaId) := by
  intro t ht
  apply (edgeRouter_meets attr areaId t).mono
  · rintro _ _ ⟨-, rfl⟩
    exact ht
  · rintro _ _ ⟨-, rfl⟩
    exact ht

theorem createUpfConfig_maintains (areaId : Int) : Maintains (At config) (createUpfConfig provider areaId) :=
  maintains_of_same (fun t => (createUpfConfig_meets provider areaId t).mono (fun _ _ h => h.2) (fun _ _ h => h))

theorem getUpfsInfo_maintains (areaId : Int) (upfId : BlueId) (model : UPFBlueCreateModel) :
    Maintains (At config) (getUpfsInfo provider areaId upfId model) :=
  maintains_of_same (fun t => (getUpfsInfo_meets provider areaId upfId model t).mono (fun _ _ h => h.2) (fun _ _ h => h.2))

theorem areaRouter_maintains (area : SubArea) : Maintains (At config) (areaRouter provider area) :=
  maintains_of_same (fun t => (areaRouter_meets provider area t).mono (fun _ _ h => h.2) (fun _ _ h => h))

theorem registerChildren_maintains (blueId : BlueId) : Maintains (At config) (registerChildren blueId) :=
  maintains_of_same (fun t => (registerChildren_meets blueId t).mono (fun _ _ h => h.2) (fun _ _ h => h))

theorem deregisterChildren_maintains (blueId : BlueId) : Maintains (At config) (deregisterChildren blueId) := by
  intro t ht
  apply (deregisterChildren_meets blueId t).mono
  · rintro _ _ rfl
    exact ht
  · rintro _ _ ⟨-, rfl⟩
    exact ht

theorem setEdgeAreas_maintains (edgeAreas : List EdgeAreaInfo) : Maintains (At config) (setEdgeAreas edgeAreas) :=
  Maintains.modify (fun _ ht => ht)

theorem assignEdgeArea_maintains (areaId : Int) (f : EdgeAreaInfo → EdgeAreaInfo) :
    Maintains (At config) (assignEdgeArea areaId f) := by
  intro t ht
  apply (assignEdgeArea_meets areaId f t).mono
  · rintro _ _ ⟨info, -, rfl⟩
    exact ht
  · rintro _ _ ⟨-, rfl⟩
    exact ht

theorem deployUpfBlueprint_maintains (areaId : Int) (upfType : String) :
    Maintains (At config) (deployUpfBlueprint provider areaId upfType) := by
  unfold deployUpfBlueprint
  apply (createUpfConfig_maintains provider areaId).bind
  intro model
  apply (call_maintains provider _ areaId).bind
  intro upfId
  apply (registerChildren_maintains upfId).bind
  exact fun _ => getUpfsInfo_maintains provider areaId upfId model

theorem deployArea_maintains (area : SubArea) : Maintains (At config) (deployArea provider area) := by
  unfold deployArea
  apply Maintains.get.bind
  intro t
  apply (setEdgeAreas_maintains _).bind
  intro _
  apply (areaRouter_maintains provider area).bind
  intro router
  apply (assignEdgeArea_maintains area.id _).bind
  intro _
  cases area.upf with
  | none => exact Maintains.throw _
  | some upf =>
    apply (deployUpfBlueprint_maintains provider area.id upf.type).bind
    exact fun upfInfo => assignEdgeArea_maintains area.id _

theorem refreshArea_maintains (areaId : Int) : Maintains (At config) (refreshArea provider areaId) := by
  unfold refreshArea
  apply (createUpfConfig_maintains provider areaId).bind
  intro updatedConfig
  apply (edgeUpf_maintains _ areaId).bind
  intro upf
  apply Maintains.ite
  · apply (call_maintains provider _ areaId).bind
    intro _
    apply (getUpfsInfo_maintains provider areaId _ updatedConfig).bind
    exact fun upfInfo => assignEdgeArea_maintains areaId _
  · exact Maintains.pure _

theorem deployOrRefresh_maintains (area : SubArea) : Maintains (At config) (deployOrRefresh provider area) := by
  unfold deployOrRefresh
  apply Maintains.get.bind
  intro t
  exact Maintains.ite (deployArea_maintains provider area) (refreshArea_maintains provider area.id)

theorem undeployRouterBlueprint_maintains (areaId : Int) : Maintains (At config) (undeployRouterBlueprint provider areaId) := by
  unfold undeployRouterBlueprint
  apply (edgeRouter_maintains _ areaId).bind
  intro router
  apply (call_maintains provider _ areaId).bind
  intro _
  cases router.blueId with
  | none => exact Maintains.throw _
  | some blueId => exact deregisterChildren_maintains blueId

theorem undeployUpfBlueprint_maintains (areaId : Int) : Maintains (At config) (undeployUpfBlueprint provider areaId) := by
  unfold undeployUpfBlueprint
  apply (edgeUpf_maintains _ areaId).bind
  intro upf
  apply (call_maintains provider _ areaId).bind
  exact fun _ => deregisterChildren_maintains upf.blueId

theorem deleteArea_maintains (areaId : Int) : Maintains (At config) (deleteArea provider areaId) := by
  unfold deleteArea undeployOwnRouter
  refine Maintains.bind ?_ (fun _ => ?_)
  · apply (edgeRouter_maintains _ areaId).bind
    intro router
    exact Maintains.ite (Maintains.pure _) (undeployRouterBlueprint_maintains provider areaId)
  · apply (undeployUpfBlueprint_maintains provider areaId).bind
    intro _
    apply Maintains.get.bind
    exact fun t => setEdgeAreas_maintains _

end Edge

end Generic5G

end Nfvcl
