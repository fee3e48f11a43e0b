import Mathlib.Data.List.Basic
import Mathlib.Logic.Function.Basic
import Nfvcl.Day2Transactions
import Nfvcl.Generic5GEdge

namespace Nfvcl
set_option autoImplicit true
open Effects KeyedList

/-- A Linux route. -/
structure Route where
  networkCidr : String
  nextHop : IPv4Address
  device : Option String := none
  deriving DecidableEq, Repr

/-- What UPF blueprints do in their own workers: the state `create` or `update` leaves and what it
raises there, for the call with a number; and what `get_upfs_info` reads. -/
structure UpfMachine (υ : Type) where
  create : Nat → String → UPFBlueCreateModel → υ × Option PyError
  update : Nat → UPFBlueCreateModel → υ → υ × Option PyError
  upfsInfo : υ → List DeployedUPFInfo

/-- A UPF blueprint, and the last configuration its `create` or `update` returned with. -/
structure UpfChild (υ : Type) where
  state : υ
  applied : Option UPFBlueCreateModel := none

/-- What the edge section keeps, the UPF blueprints, and the `additional_routes` of the routers. -/
structure EdgeNet (υ : Type) extends EdgeState where
  upfs : BlueId → Option (UpfChild υ) := fun _ => none
  routes : BlueId → Option (List Route) := fun _ => none

/-- The providers and the UPF blueprints during an update. The answers to `get_upfs_info` are
the blueprints' own. -/
structure EdgeWorld (υ : Type) where
  provider : EdgeProvider
  machine : UpfMachine υ

abbrev NetM (υ : Type) := EStateM PyError (Generic5GState (EdgeNet υ))

namespace EdgeNet

variable {υ : Type}

def parent (s : Generic5GState (EdgeNet υ)) : Generic5GState EdgeState :=
  ⟨s.currentConfig, s.rest.toEdgeState⟩

def setParent (t : Generic5GState EdgeState) (s : Generic5GState (EdgeNet υ)) : Generic5GState (EdgeNet υ) :=
  ⟨t.currentConfig, { s.rest with toEdgeState := t.rest }⟩

/-- A part of the edge section that calls no UPF blueprint. -/
def onParent (m : Generic5G.EdgeM α) : NetM υ α :=
  zoom parent setParent m

def setUpf (id : BlueId) (child : Option (UpfChild υ)) : NetM υ Unit :=
  modify (fun s => { s with rest := { s.rest with upfs := Function.update s.rest.upfs id child } })

def setRoutes (id : BlueId) (routes : Option (List Route)) : NetM υ Unit :=
  modify (fun s => { s with rest := { s.rest with routes := Function.update s.rest.routes id routes } })

/-- `get_worker`. -/
def upfChild (id : BlueId) : NetM υ (UpfChild υ) := do
  let s ← get
  match s.rest.upfs id with
  | some child => return child
  | none => throw (.external s!"Blueprint {id} not found")

section Operations

variable (w : EdgeWorld υ)

/-- The worker of a new UPF blueprint handles its creation; the caller is given the id in any case. -/
def createUpf (id : BlueId) (upfType : String) (model : UPFBlueCreateModel) : NetM υ Unit :=
  let (state, raised) := w.machine.create id upfType model
  setUpf id (some ⟨state, if raised.isNone then some model else none⟩)

/-- The worker of a UPF blueprint handles `update`; the status it answers with is not looked at. -/
def updateUpf (n : Nat) (id : BlueId) (model : UPFBlueCreateModel) : NetM υ Unit := do
  let child ← upfChild id
  let (state, raised) := w.machine.update n model child.state
  setUpf id (some ⟨state, if raised.isNone then some model else child.applied⟩)

/-- `Router5GBlueprintNG.add_routes`. -/
def addRoutes (id : Option BlueId) (route : Route) : NetM υ Unit := do
  let s ← get
  match id with
  | none => throw (.external "Blueprint None not found")
  | some id => setRoutes id ((s.rest.routes id).map (fun routes => routes ++ [route]))

def areaRouter (area : SubArea) : NetM υ Router5GInfo := do
  let routerInfo ← onParent (Generic5G.areaRouter w.provider area)
  match routerInfo.blueId with
  | some id => setRoutes id (some [])
  | none => pure ()
  return routerInfo

def addRouteToRouter (areaId : Int) (cidr : Option String) (nexthop : IPv4Address) : NetM υ Unit := do
  let router ← onParent (Generic5G.edgeRouter "external" areaId)
  if router.external then
    pure ()
  else do
    let cidr ← onParent (Generic5G.liftExcept (required "network_cidr" cidr))
    let _ ← onParent (Generic5G.call w.provider (.addRoutes router.blueId cidr nexthop) areaId)
    addRoutes router.blueId { networkCidr := cidr, nextHop := nexthop }

def getUpfsInfo (areaId : Int) (upfId : BlueId) (currentConfig : UPFBlueCreateModel) : NetM υ UPFInfo := do
  let child ← upfChild upfId
  onParent (Generic5G.getUpfsInfo { w.provider with upfsInfo := fun _ => w.machine.upfsInfo child.state }
    areaId upfId currentConfig)

def deployUpfBlueprint (areaId : Int) (upfType : String) : NetM υ UPFInfo := do
  let upfCreateModel ← onParent (Generic5G.createUpfConfig w.provider areaId)
  let upfId ← onParent (Generic5G.call w.provider (.createUpf upfType upfCreateModel) areaId)
  createUpf w upfId upfType upfCreateModel
  onParent (Generic5G.registerChildren upfId)
  getUpfsInfo w areaId upfId upfCreateModel

def undeployUpfBlueprint (areaId : Int) : NetM υ Unit := do
  let upf ← onParent (Generic5G.edgeUpf "blue_id" areaId)
  let _ ← onParent (Generic5G.call w.provider (.deleteUpf upf.blueId) areaId)
  setUpf upf.blueId none
  onParent (Generic5G.deregisterChildren upf.blueId)

def deployArea (area : SubArea) : NetM υ Unit := do
  onParent (do let s ← get; Generic5G.setEdgeAreas (s.rest.edgeAreas ++ [{ area := area.id }]))
  let routerInfo ← areaRouter w area
  onParent (Generic5G.assignEdgeArea area.id (fun info => { info with router := some routerInfo }))
  match area.upf with
  | none => throw (.attributeError "'list' object has no attribute 'type'")
  | some upf =>
    let upfInfo ← deployUpfBlueprint w area.id upf.type
    onParent (Generic5G.assignEdgeArea area.id (fun info => { info with upf := some upfInfo }))

def refreshArea (areaId : Int) : NetM υ Unit := do
  let updatedConfig ← onParent (Generic5G.createUpfConfig w.provider areaId)
  let upf ← onParent (Generic5G.edgeUpf "current_config" areaId)
  if upf.currentConfig ≠ updatedConfig then
    let n ← onParent (Generic5G.call w.provider (.updateUpf upf.blueId updatedConfig) areaId)
    updateUpf w n upf.blueId updatedConfig
    let upfInfo ← getUpfsInfo w areaId upf.blueId updatedConfig
    onParent (Generic5G.assignEdgeArea areaId (fun info => { info with upf := some upfInfo }))

def deployOrRefresh (area : SubArea) : NetM υ Unit := do
  let s ← get
  if (KeyedList.toMap EdgeAreaInfo.area s.rest.edgeAreas area.id).isNone then
    deployArea w area
  else
    refreshArea w area.id

def routeUpf (areaId : Int) (deployedUpf : DeployedUPFInfo) : NetM υ Unit :=
  forM (deployedUpf.servedSlices.flatMap SliceModel.dnnList) (fun dnn =>
    match deployedUpf.networkInfo with
    | some networkInfo => addRouteToRouter w areaId dnn.cidr networkInfo.n6Ip
    | none => throw (.attributeError "'NoneType' object has no attribute 'n6_ip'"))

/-- One iteration of the loop over the areas of the configuration. -/
def updateArea (area : SubArea) : NetM υ Unit := do
  deployOrRefresh w area
  let upf ← onParent (Generic5G.edgeUpf "upf_list" area.id)
  forM upf.upfList (routeUpf w area.id)

def undeployOwnRouter (areaId : Int) : NetM υ Unit := do
  let router ← onParent (Generic5G.edgeRouter "external" areaId)
  if router.external then
    pure ()
  else do
    onParent (Generic5G.undeployRouterBlueprint w.provider areaId)
    match router.blueId with
    | some id => setRoutes id none
    | none => pure ()

/-- One iteration of the loop over the areas that left the configuration. -/
def deleteArea (areaId : Int) : NetM υ Unit := do
  undeployOwnRouter w areaId
  undeployUpfBlueprint w areaId
  onParent (do let s ← get; Generic5G.setEdgeAreas (KeyedList.erase EdgeAreaInfo.area s.rest.edgeAreas areaId))

/-- `update_edge_areas`, with the blueprints it calls. -/
def updateEdgeAreas : NetM υ Unit := do
  let areas ← onParent (Generic5G.onConfig "areas" (do let c ← get; return c.areas))
  forM areas (updateArea w)
  let s ← get
  let toDelete := (s.rest.edgeAreas.map EdgeAreaInfo.area).filter (fun id => decide (id ∉ areas.map SubArea.id))
  forM (w.provider.order toDelete) (deleteArea w)

end Operations

end EdgeNet

/-- The steps of `create` and of the hooks of day2 operations, in whatever order a blueprint has them. -/
inductive HookStep (υ : Type) where
  | updateEdgeAreas (w : EdgeWorld υ)
  /-- The core is deployed (`update_k8s_network_functions`). -/
  | coreDeployed
  /-- A step that does not touch the edge areas and the configuration: `update_core`, `update_gnb_config`, ... -/
  | other (result : Option PyError)

namespace HookStep

variable {υ : Type}

def exec : HookStep υ → NetM υ Unit
  | .updateEdgeAreas w => EdgeNet.updateEdgeAreas w
  | .coreDeployed => EdgeNet.onParent (Generic5G.setCoreDeployed true)
  | .other result => outcome result

def execAll (steps : List (HookStep υ)) : NetM υ Unit :=
  forM steps exec

end HookStep

/-- `create`, or a day2 operation with its hook. -/
inductive EdgeOperation (υ : Type) where
  | create (createModel : Create5gModel) (steps : List (HookStep υ))
  | day2 (op : Day2Op) (hook : List (HookStep υ))

namespace EdgeOperation

variable {υ : Type}

def exec : EdgeOperation υ → NetM υ Unit
  | .create createModel steps => do
    modify (fun s => { s with currentConfig := some createModel })
    EdgeNet.onParent (Generic5G.liftExcept createModel.configurationFeasibilityCheck)
    HookStep.execAll steps
  | .day2 op hook => op.exec (HookStep.execAll hook)

def steps : EdgeOperation υ → List (HookStep υ)
  | .create _ steps => steps
  | .day2 _ hook => hook

/-- The providers and UPF blueprints the operation meets. -/
def worlds (operation : EdgeOperation υ) : List (EdgeWorld υ) :=
  operation.steps.filterMap (fun
    | .updateEdgeAreas w => some w
    | _ => none)

end EdgeOperation

/-! ### Rules -/

/-- An operation is refused, or its hook runs on the configuration requested. -/
theorem Day2Op.exec_meets {op : Day2Op} {hook : EStateM PyError (Generic5GState ρ) Unit} {s : Generic5GState ρ}
    (hrefused : ∀ e config, E e ⟨config, s.rest⟩)
    (hhook : ∀ c, s.currentConfig = some c → op.Accepted c →
      Meets hook ⟨some (op.requested c), s.rest⟩ Q (fun e s' => E e ⟨some c, s'.rest⟩)) : Meets (op.exec hook) s Q E := by
  obtain ⟨config, r⟩ := s
  unfold Meets at hhook ⊢
  cases config with
  | none =>
    cases op <;> exact hrefused _ none
  | some c =>
    rcases op.exec_cases c r with ⟨e, he⟩ | ⟨haccepted, he⟩ | ⟨-, sliceId, e, -, he⟩
    · rw [he]
      exact hrefused e _
    · rw [he, Generic5G.restoring_run]
      have h := hhook c rfl haccepted
      cases hrun : hook.run ⟨some (op.requested c), r⟩ with
      | ok u s' =>
        rw [hrun] at h
        exact h
      | error e s' =>
        rw [hrun] at h
        exact h
    · rw [he]
      exact hrefused e _

namespace Generic5G

/-- Calls were made, and the edge areas are as they were. -/
structure SameEdges (t t' : Generic5GState EdgeState) : Prop where
  config : t'.currentConfig = t.currentConfig
  edgeAreas : t'.rest.edgeAreas = t.rest.edgeAreas
  coreDeployed : t'.rest.coreDeployed = t.rest.coreDeployed
  children : t.rest.childrenBlueIds ⊆ t'.rest.childrenBlueIds
  calls : t.rest.calls ≤ t'.rest.calls

theorem SameEdges.refl (t : Generic5GState EdgeState) : SameEdges t t :=
  ⟨rfl, rfl, rfl, List.Subset.refl _, Nat.le_refl _⟩

theorem SameEdges.trans (h : SameEdges t t') (h' : SameEdges t' t'') : SameEdges t t'' :=
  ⟨h'.config.trans h.config, h'.edgeAreas.trans h.edgeAreas, h'.coreDeployed.trans h.coreDeployed,
    List.Subset.trans h.children h'.children, h.calls.trans h'.calls⟩

section Rules

/-- A call has the next number. -/
theorem call_meets (provider : EdgeProvider) (c : EdgeCall) (area : Int) (t : Generic5GState EdgeState) :
    Meets (call provider c area) t
      (fun n t' => (n = t.rest.calls ∧ t'.rest.calls = n + 1 ∧ provider.raises c area n = none) ∧ SameEdges t t')
      (fun _ t' => provider.raises c area t.rest.calls ≠ none ∧ SameEdges t t') := by
  unfold Meets EStateM.run Generic5G.call
  cases h : provider.raises c area t.rest.calls with
  | none => exact ⟨⟨rfl, rfl, h⟩, rfl, rfl, rfl, List.Subset.refl _, Nat.le_succ _⟩
  | some e => exact ⟨Option.some_ne_none e, rfl, rfl, rfl, List.Subset.refl _, Nat.le_succ _⟩

theorem registerChildren_meets (blueId : BlueId) (t : Generic5GState EdgeState) :
    Meets (registerChildren blueId) t
      (fun _ t' => (blueId ∈ t'.rest.childrenBlueIds ∧ t'.rest.calls = t.rest.calls) ∧ SameEdges t t')
      (fun _ t' => SameEdges t t') := by
  by_cases h : blueId ∈ t.rest.childrenBlueIds
  · unfold Meets
    simp only [Generic5G.registerChildren, EStateM.run_bind, EStateM.run_get, if_pos h]
    exact .refl t
  · unfold Meets
    simp only [Generic5G.registerChildren, EStateM.run_bind, EStateM.run_get, if_neg h]
    exact ⟨⟨List.mem_append_right _ List.mem_cons_self, rfl⟩, rfl, rfl, rfl, List.subset_append_left _ _, Nat.le_refl _⟩

theorem edgeArea_meets (areaId : Int) (t : Generic5GState EdgeState) :
    Meets (edgeArea areaId) t (fun info t' => toMap EdgeAreaInfo.area t.rest.edgeAreas areaId = some info ∧ t' = t)
      (fun _ t' => t' = t) := by
  unfold edgeArea
  rw [meets_bind, meets_get]
  cases toMap EdgeAreaInfo.area t.rest.edgeAreas areaId with
  | none => exact rfl
  | some info => exact ⟨rfl, rfl⟩

theorem edgeUpf_meets (attr : String) (areaId : Int) (t : Generic5GState EdgeState) :
    Meets (edgeUpf attr areaId) t
      (fun upf t' => (∃ info, toMap EdgeAreaInfo.area t.rest.edgeAreas areaId = some info ∧ info.upf = some upf) ∧ t' = t)
      (fun _ t' => t' = t) := by
  unfold edgeUpf
  rw [meets_bind]
  apply (edgeArea_meets areaId t).mono
  · rintro info t' ⟨hinfo, rfl⟩
    cases hupf : info.upf with
    | none => exact rfl
    | some upf => exact ⟨⟨info, hinfo, hupf⟩, rfl⟩
  · exact fun _ _ h => h

theorem edgeRouter_meets (attr : String) (areaId : Int) (t : Generic5GState EdgeState) :
    Meets (edgeRouter attr areaId) t
      (fun router t' =>
        (∃ info, toMap EdgeAreaInfo.area t.rest.edgeAreas areaId = some info ∧ info.router = some router) ∧ t' = t)
      (fun _ t' => (∀ info, toMap EdgeAreaInfo.area t.rest.edgeAreas areaId = some info → info.router = none) ∧ t' = t) := by
  unfold edgeRouter edgeArea
  rw [meets_bind, meets_bind, meets_get]
  cases hinfo : toMap EdgeAreaInfo.area t.rest.edgeAreas areaId with
  | none => exact ⟨fun info h => (nomatch h), rfl⟩
  | some info =>
    simp only [meets_pure]
    cases hrouter : info.router with
    | some router => exact ⟨⟨info, rfl, hrouter⟩, rfl⟩
    | none =>
      refine ⟨?_, rfl⟩
      rintro info' ⟨⟩
      exact hrouter

/-- `_create_upf_config` for a router and an NRF. -/
def UpfConfigOf (c : Create5gModel) (areaId : Int) (router : Router5GInfo) (nrfIp : Option IPv4Address)
    (config : UPFBlueCreateModel) : Prop :=
  ∃ slices networks, c.upfSlices areaId = .ok slices ∧ c.upfNetworks areaId = .ok networks ∧
    config = {
      areaId := areaId
      networks := networks
      nrfIp := nrfIp
      slices := slices
      n3GatewayIp := router.network.n3Ip
      n6GatewayIp := router.network.n6Ip
      gnbCidr := router.network.gnbCidr }

theorem config_meets (attr : String) (f : Create5gModel → Except PyError α) (t : Generic5GState EdgeState) :
    Meets (onConfig attr (do let c ← MonadState.get; liftExcept (f c))) t
      (fun a t' => (∃ c, t.currentConfig = some c ∧ f c = .ok a) ∧ t' = t) (fun _ t' => t' = t) := by
  obtain ⟨config, r⟩ := t
  cases config with
  | none => exact rfl
  | some c =>
    unfold Meets
    rw [onConfig_run]
    cases h : f c with
    | ok a =>
      simp only [EStateM.run_bind, EStateM.run_get, h]
      exact ⟨⟨c, rfl, h⟩, rfl⟩
    | error e =>
      simp only [EStateM.run_bind, EStateM.run_get, h]
      exact rfl

theorem areas_meets (t : Generic5GState EdgeState) :
    Meets (onConfig "areas" (do let c ← MonadState.get; return c.areas)) t
      (fun areas t' => (∃ c, t.currentConfig = some c ∧ c.areas = areas) ∧ t' = t)
      (fun _ t' => t.currentConfig = none ∧ t' = t) := by
  obtain ⟨config, r⟩ := t
  cases config with
  | none => exact ⟨rfl, rfl⟩
  | some c => exact ⟨⟨c, rfl, rfl⟩, rfl⟩

theorem createUpfConfig_meets (provider : EdgeProvider) (areaId : Int) (t : Generic5GState EdgeState) :
    Meets (createUpfConfig provider areaId) t
      (fun config t' => (∃ c info router nrfIp, t.currentConfig = some c ∧
        toMap EdgeAreaInfo.area t.rest.edgeAreas areaId = some info ∧ info.router = some router ∧
        (if t.rest.coreDeployed then ∃ n, nrfIp = some (provider.nrfIp n) else nrfIp = none) ∧
        UpfConfigOf c areaId router nrfIp config) ∧ SameEdges t t')
      (fun _ t' => SameEdges t t') := by
  unfold createUpfConfig
  rw [meets_bind]
  apply (config_meets _ _ t).mono
  · rintro slices t₁ ⟨⟨c, hc, hslices⟩, rfl⟩
    rw [meets_bind]
    apply (config_meets _ _ t₁).mono
    · rintro networks t₂ ⟨⟨c', hc', hnetworks⟩, rfl⟩
      cases hc.symm.trans hc'
      rw [meets_bind]
      apply (edgeRouter_meets _ _ t₂).mono
      · rintro router t₃ ⟨⟨info, hinfo, hrouter⟩, rfl⟩
        rw [meets_bind]
        unfold currentNrfIp
        rw [meets_bind, meets_get]
        by_cases hcore : t₃.rest.coreDeployed
        · rw [if_pos hcore, meets_bind]
          apply (call_meets provider _ _ t₃).mono
          · rintro n t₄ ⟨-, h₄⟩
            refine ⟨⟨c, info, router, _, hc, hinfo, hrouter, ?_, slices, networks, hslices, hnetworks, rfl⟩, h₄⟩
            rw [if_pos hcore]
            exact ⟨n, rfl⟩
          · exact fun _ t₄ h₄ => h₄.2
        · rw [if_neg hcore]
          refine ⟨⟨c, info, router, _, hc, hinfo, hrouter, ?_, slices, networks, hslices, hnetworks, rfl⟩, .refl _⟩
          rw [if_neg hcore]
      · rintro _ t₃ ⟨-, rfl⟩
        exact .refl _
    · rintro _ t₂ rfl
      exact .refl _
  · rintro _ t₁ rfl
    exact .refl _

theorem UpfConfigOf.areaId_eq {areaId : Int} (h : UpfConfigOf c areaId router nrfIp config) : config.areaId = areaId := by
  obtain ⟨slices, networks, -, -, rfl⟩ := h
  rfl

/-- The id of a new router is the number of its creation. -/
theorem areaRouter_meets (provider : EdgeProvider) (area : SubArea) (t : Generic5GState EdgeState) :
    Meets (areaRouter provider area) t
      (fun info t' => (info.external = info.blueId.isNone ∧
        ∀ id, info.blueId = some id → t.rest.calls ≤ id ∧ id < t'.rest.calls) ∧ SameEdges t t')
      (fun _ t' => SameEdges t t') := by
  unfold areaRouter
  cases area.networks.externalRouter with
  | some network => exact ⟨⟨rfl, fun id h => (nomatch h)⟩, .refl t⟩
  | none =>
    unfold deployRouterBlueprint
    rw [meets_bind]
    apply (config_meets _ _ t).mono
    · rintro model t₁ ⟨-, rfl⟩
      rw [meets_bind]
      apply (call_meets provider _ _ t₁).mono
      · rintro routerId t₂ ⟨⟨rfl, hcalls, -⟩, h₂⟩
        rw [meets_bind]
        apply (registerChildren_meets _ t₂).mono
        · rintro _ t₃ ⟨⟨-, hcalls₃⟩, h₃⟩
          rw [meets_bind]
          apply (call_meets provider _ _ t₃).mono
          · rintro n t₄ ⟨-, h₄⟩
            refine ⟨⟨rfl, ?_⟩, (h₂.trans h₃).trans h₄⟩
            intro id hid
            have hle := h₄.calls
            have hlt : t₁.rest.calls < t₄.rest.calls := by omega
            obtain rfl : t₁.rest.calls = id := Option.some.inj hid
            exact ⟨Nat.le_refl _, hlt⟩
          · exact fun _ t₄ h₄ => (h₂.trans h₃).trans h₄.2
        · exact fun _ t₃ h₃ => h₂.trans h₃
      · exact fun _ t₂ h₂ => h₂.2
    · rintro _ t₁ rfl
      exact .refl _

theorem getUpfsInfo_meets (provider : EdgeProvider) (areaId : Int) (upfId : BlueId) (config : UPFBlueCreateModel)
    (t : Generic5GState EdgeState) :
    Meets (getUpfsInfo provider areaId upfId config) t
      (fun upf t' => (upf.blueId = upfId ∧ upf.currentConfig = config ∧ ∃ n, upf.upfList = provider.upfsInfo n) ∧ SameEdges t t')
      (fun _ t' => (provider.raises (.getUpfsInfo upfId) areaId t.rest.calls = none →
        ∀ info, toMap EdgeAreaInfo.area t.rest.edgeAreas areaId = some info → info.router = none) ∧ SameEdges t t') := by
  unfold getUpfsInfo
  rw [meets_bind]
  apply (call_meets provider _ _ t).mono
  · rintro n t₁ ⟨⟨rfl, -, -⟩, h₁⟩
    rw [meets_bind]
    apply (edgeRouter_meets _ _ t₁).mono
    · rintro router t₂ ⟨-, rfl⟩
      exact ⟨⟨rfl, rfl, _, rfl⟩, h₁⟩
    · rintro _ t₂ ⟨hnone, rfl⟩
      exact ⟨fun _ info hinfo => hnone info (h₁.edgeAreas ▸ hinfo), h₁⟩
  · rintro _ t₁ ⟨hraises, h₁⟩
    exact ⟨fun hnone => absurd hnone hraises, h₁⟩

theorem assignEdgeArea_meets (areaId : Int) (f : EdgeAreaInfo → EdgeAreaInfo) (t : Generic5GState EdgeState) :
    Meets (assignEdgeArea areaId f) t
      (fun _ t' => ∃ info, toMap EdgeAreaInfo.area t.rest.edgeAreas areaId = some info ∧
        t' = { t with rest := { t.rest with edgeAreas := replace EdgeAreaInfo.area t.rest.edgeAreas (f info) } })
      (fun _ t' => toMap EdgeAreaInfo.area t.rest.edgeAreas areaId = none ∧ t' = t) := by
  unfold assignEdgeArea edgeArea
  rw [meets_bind, meets_bind, meets_get]
  cases toMap EdgeAreaInfo.area t.rest.edgeAreas areaId with
  | none => exact ⟨rfl, rfl⟩
  | some info => exact ⟨info, rfl, rfl⟩

theorem deregisterChildren_meets (blueId : BlueId) (t : Generic5GState EdgeState) :
    Meets (deregisterChildren blueId) t
      (fun _ t' => t' = { t with rest := { t.rest with childrenBlueIds := t.rest.childrenBlueIds.erase blueId } })
      (fun _ t' => blueId ∉ t.rest.childrenBlueIds ∧ t' = t) := by
  by_cases h : blueId ∉ t.rest.childrenBlueIds
  · unfold Meets
    simp only [Generic5G.deregisterChildren, EStateM.run_bind, EStateM.run_get, if_pos h]
    exact ⟨h, rfl⟩
  · unfold Meets
    simp only [Generic5G.deregisterChildren, EStateM.run_bind, EStateM.run_get, if_neg h]
    rfl

theorem undeployRouterBlueprint_meets (provider : EdgeProvider) (areaId : Int) (t : Generic5GState EdgeState) :
    Meets (undeployRouterBlueprint provider areaId) t
      (fun _ t' => ∃ t₁ info router id, toMap EdgeAreaInfo.area t.rest.edgeAreas areaId = some info ∧
        info.router = some router ∧ router.blueId = some id ∧ SameEdges t t₁ ∧
        t' = { t₁ with rest := { t₁.rest with childrenBlueIds := t₁.rest.childrenBlueIds.erase id } })
      (fun _ t' => SameEdges t t') := by
  unfold undeployRouterBlueprint
  rw [meets_bind]
  apply (edgeRouter_meets _ areaId t).mono
  · rintro router _ ⟨⟨info, hinfo, hrouter⟩, rfl⟩
    rw [meets_bind]
    apply (call_meets provider _ areaId _).mono
    · rintro n t₁ ⟨-, ht₁⟩
      cases hid : router.blueId with
      | none => exact ht₁
      | some id =>
        apply (deregisterChildren_meets id t₁).mono
        · exact fun _ t₂ ht₂ => ⟨t₁, info, router, id, hinfo, hrouter, hid, ht₁, ht₂⟩
        · rintro _ _ ⟨-, rfl⟩
          exact ht₁
    · exact fun _ t₁ ht₁ => ht₁.2
  · rintro _ _ ⟨-, rfl⟩
    exact .refl _

end Rules

end Generic5G

namespace EdgeNet

variable {υ : Type}

/-- `edge_areas[str(area_id)]`. -/
def entry (net : EdgeNet υ) (areaId : Int) : Option EdgeAreaInfo :=
  toMap EdgeAreaInfo.area net.edgeAreas areaId

/-- Nothing happened but calls of providers. -/
structure SameNet (s s' : Generic5GState (EdgeNet υ)) : Prop where
  edges : Generic5G.SameEdges (parent s) (parent s')
  upfs : s'.rest.upfs = s.rest.upfs
  routes : s'.rest.routes = s.rest.routes

theorem SameNet.refl (s : Generic5GState (EdgeNet υ)) : SameNet s s :=
  ⟨.refl _, rfl, rfl⟩

theorem SameNet.of_edges {s : Generic5GState (EdgeNet υ)} (h : Generic5G.SameEdges (parent s) t) :
    SameNet s (setParent t s) :=
  ⟨h, rfl, rfl⟩

theorem meets_onParent {m : Generic5G.EdgeM α} {s : Generic5GState (EdgeNet υ)} :
    Meets (onParent m) s Q E ↔
      Meets m (parent s) (fun a t => Q a (setParent t s)) (fun e t => E e (setParent t s)) :=
  meets_zoom

/-- A part that leaves the edge areas as they are, and what comes after it. -/
theorem meets_onParent_bind {m : Generic5G.EdgeM α} {f : α → NetM υ β} {s : Generic5GState (EdgeNet υ)}
    {P : α → Generic5GState EdgeState → Prop} {F : PyError → Generic5GState EdgeState → Prop}
    (hm : Meets m (parent s) (fun a t => P a t ∧ Generic5G.SameEdges (parent s) t) F)
    (hf : ∀ a s', P a (parent s') → SameNet s s' → Meets (f a) s' Q E)
    (he : ∀ e t, F e t → E e (setParent t s)) : Meets (onParent m >>= f) s Q E := by
  rw [meets_bind, meets_onParent]
  apply hm.mono
  · rintro a t ⟨hP, ht⟩
    exact hf a (setParent t s) hP (.of_edges ht)
  · exact he

theorem upfChild_meets (id : BlueId) (s : Generic5GState (EdgeNet υ)) :
    Meets (upfChild id) s (fun child s' => s.rest.upfs id = some child ∧ s' = s) (fun _ s' => s' = s) := by
  unfold upfChild
  rw [meets_bind, meets_get]
  cases s.rest.upfs id with
  | none => exact rfl
  | some child => exact ⟨rfl, rfl⟩

theorem entry_append {net net' : EdgeNet υ} (h : net'.edgeAreas = net.edgeAreas ++ [info]) (hnew : net.entry info.area = none) :
    net'.entry = Function.update net.entry info.area (some info) := by
  have hmap : toMap EdgeAreaInfo.area (net.edgeAreas ++ [info]) = _ := toMap_append hnew
  unfold entry
  rw [h, hmap]

theorem entry_replace {net net' : EdgeNet υ} (h : net'.edgeAreas = replace EdgeAreaInfo.area net.edgeAreas info)
    (hold : net.entry info.area ≠ none) : net'.entry = Function.update net.entry info.area (some info) := by
  have hmap : toMap EdgeAreaInfo.area (replace EdgeAreaInfo.area net.edgeAreas info) = _ :=
    toMap_replace (Option.isSome_iff_ne_none.2 hold)
  unfold entry
  rw [h, hmap]

theorem entry_erase {net net' : EdgeNet υ} (h : net'.edgeAreas = KeyedList.erase EdgeAreaInfo.area net.edgeAreas areaId)
    (hunique : Unique EdgeAreaInfo.area net.edgeAreas) : net'.entry = Function.update net.entry areaId none := by
  unfold entry
  rw [h, toMap_erase hunique]

theorem entry_eq {s s' : Generic5GState (EdgeNet υ)} (h : SameNet s s') (areaId : Int) : s'.rest.entry areaId = s.rest.entry areaId :=
  congrArg (fun areas => toMap EdgeAreaInfo.area areas areaId) h.edges.edgeAreas

/-- Only calls were made, and routes set. -/
structure SameUpfs (s s' : Generic5GState (EdgeNet υ)) : Prop where
  edges : Generic5G.SameEdges (parent s) (parent s')
  upfs : s'.rest.upfs = s.rest.upfs

theorem SameUpfs.of_net {s s' : Generic5GState (EdgeNet υ)} (h : SameNet s s') : SameUpfs s s' :=
  ⟨h.edges, h.upfs⟩

theorem getUpfsInfo_meets (w : EdgeWorld υ) (areaId : Int) (upfId : BlueId) (config : UPFBlueCreateModel)
    (s : Generic5GState (EdgeNet υ)) :
    Meets (getUpfsInfo w areaId upfId config) s
      (fun upf s' => (upf.blueId = upfId ∧ upf.currentConfig = config ∧
        ∀ child, s.rest.upfs upfId = some child → upf.upfList = w.machine.upfsInfo child.state) ∧ SameNet s s')
      (fun _ s' => (w.provider.raises (.getUpfsInfo upfId) areaId s.rest.calls = none → s.rest.upfs upfId ≠ none →
        ∀ info, s.rest.entry areaId = some info → info.router = none) ∧ SameNet s s') := by
  unfold getUpfsInfo upfChild
  rw [meets_bind, meets_bind, meets_get]
  cases hchild : s.rest.upfs upfId with
  | none => exact ⟨fun _ hne => (hne rfl).elim, .refl s⟩
  | some child =>
    simp only [meets_pure]
    rw [meets_onParent]
    apply (Generic5G.getUpfsInfo_meets _ areaId upfId config (parent s)).mono
    · rintro upf t ⟨⟨hid, hconfig, n, hlist⟩, ht⟩
      refine ⟨⟨hid, hconfig, ?_⟩, .of_edges ht⟩
      rintro _ ⟨⟩
      exact hlist
    · rintro _ t ⟨hraises, ht⟩
      exact ⟨fun hnone _ => hraises hnone, .of_edges ht⟩

end EdgeNet

end Nfvcl
