import Mathlib.Data.List.Basic
import Nfvcl.EdgeChildren
import Nfvcl.UpfRecords

namespace Nfvcl
set_option autoImplicit true
open Effects KeyedList

/-- The route to the pool of a DNN through a UPF. -/
def DeployedUPFInfo.routesTo (upf : DeployedUPFInfo) (dnn : DnnModel) : List Route :=
  match upf.networkInfo, dnn.cidr with
  | some network, some cidr => [{ networkCidr := cidr, nextHop := network.n6Ip }]
  | _, _ => []

/-- The routes an area needs, one for each DNN its UPFs serve. -/
def UPFInfo.servedRoutes (upf : UPFInfo) : List Route :=
  upf.upfList.flatMap (fun deployed => (deployed.servedSlices.flatMap SliceModel.dnnList).flatMap deployed.routesTo)

namespace EdgeNet

variable {υ : Type}

def RouterOf (net : EdgeNet υ) (areaId : Int) (id : BlueId) : Prop :=
  ∃ info router, net.entry areaId = some info ∧ info.router = some router ∧ router.blueId = some id

/-- The routes of a router are those of the DNNs served, each once. -/
def RoutesExact (net : EdgeNet υ) (router : Router5GInfo) (upf : UPFInfo) : Prop :=
  ∃ id routes, router.blueId = some id ∧ net.routes id = some routes ∧ routes.Nodup ∧
    ∀ route, route ∈ routes ↔ route ∈ upf.servedRoutes

/-- The area has no router yet, or one without routes. -/
def NoRoutesYet (net : EdgeNet υ) (areaId : Int) : Prop :=
  ∀ id, net.RouterOf areaId id → net.routes id = some []

/-- The routers of the areas are separate blueprints. -/
structure Routed (net : EdgeNet υ) : Prop where
  unique : Unique EdgeAreaInfo.area net.edgeAreas
  known : ∀ id routes, net.routes id = some routes → id < net.calls
  own : ∀ areaId info router, net.entry areaId = some info → info.router = some router →
    router.external = router.blueId.isNone
  present : ∀ areaId id, net.RouterOf areaId id → net.routes id ≠ none
  distinct : ∀ a b id, net.RouterOf a id → net.RouterOf b id → a = b

section Entries

variable {s s' : Generic5GState (EdgeNet υ)}

theorem routerOf_entry {net net' : EdgeNet υ} {id : BlueId} (h : net'.entry areaId = net.entry areaId) :
    net'.RouterOf areaId id ↔ net.RouterOf areaId id := by
  unfold RouterOf
  rw [h]

theorem routerOf_edges (h : Generic5G.SameEdges (parent s) (parent s')) (areaId : Int) (id : BlueId) :
    s'.rest.RouterOf areaId id ↔ s.rest.RouterOf areaId id :=
  routerOf_entry (congrArg (fun areas => toMap EdgeAreaInfo.area areas areaId) h.edgeAreas)

theorem RouterOf.unique {net : EdgeNet υ} {id id' : BlueId} (h : net.RouterOf areaId id) (h' : net.RouterOf areaId id') : id = id' := by
  obtain ⟨info, router, hinfo, hrouter, hid⟩ := h
  obtain ⟨info', router', hinfo', hrouter', hid'⟩ := h'
  rw [hinfo] at hinfo'
  cases hinfo'
  rw [hrouter] at hrouter'
  cases hrouter'
  rw [hid] at hid'
  exact Option.some.inj hid'

/-- Routes may be added to routers that are there. -/
theorem Routed.of_edges (h : s.rest.Routed) (hs : Generic5G.SameEdges (parent s) (parent s'))
    (hroutes : ∀ id, s'.rest.routes id = none ↔ s.rest.routes id = none) : s'.rest.Routed where
  unique := by
    have hareas : s'.rest.edgeAreas = s.rest.edgeAreas := hs.edgeAreas
    rw [hareas]
    exact h.unique
  known := by
    intro id routes hid
    obtain ⟨routes', hid'⟩ := Option.ne_none_iff_exists'.1 (fun hnone => Option.some_ne_none routes (hid ▸ (hroutes id).2 hnone))
    exact Nat.lt_of_lt_of_le (h.known id routes' hid') hs.calls
  own := by
    intro areaId info router hinfo
    have hareas : s'.rest.edgeAreas = s.rest.edgeAreas := hs.edgeAreas
    rw [entry, hareas] at hinfo
    exact h.own areaId info router hinfo
  present := by
    intro areaId id hid
    rw [routerOf_edges hs] at hid
    exact fun hnone => h.present areaId id hid ((hroutes id).1 hnone)
  distinct := by
    intro a b id ha hb
    rw [routerOf_edges hs] at ha hb
    exact h.distinct a b id ha hb

theorem Routed.same (h : s.rest.Routed) (hs : SameNet s s') : s'.rest.Routed :=
  h.of_edges hs.edges (fun id => by rw [hs.routes])

end Entries

/-! ### Sending routes -/

/-- Routes were added to the router of an area, if it has one of its own. -/
structure Sent (areaId : Int) (routes : List Route) (s s' : Generic5GState (EdgeNet υ)) : Prop where
  edges : Generic5G.SameEdges (parent s) (parent s')
  sent : ∀ id, s.rest.RouterOf areaId id → s'.rest.routes id = (s.rest.routes id).map (fun before => before ++ routes)
  others : ∀ id, ¬ s.rest.RouterOf areaId id → s'.rest.routes id = s.rest.routes id

section Sending

variable {w : EdgeWorld υ} {s s' s'' : Generic5GState (EdgeNet υ)}

theorem Sent.nil (areaId : Int) (s : Generic5GState (EdgeNet υ)) : Sent areaId [] s s where
  edges := .refl _
  sent := by
    intro id _
    cases s.rest.routes id with
    | none => rfl
    | some routes => rw [Option.map_some, List.append_nil]
  others := fun _ _ => rfl

theorem Sent.trans {areaId : Int} {routes routes' : List Route} (h : Sent areaId routes s s') (h' : Sent areaId routes' s' s'') :
    Sent areaId (routes ++ routes') s s'' where
  edges := h.edges.trans h'.edges
  sent := by
    intro id hid
    rw [h'.sent id ((routerOf_edges h.edges areaId id).2 hid), h.sent id hid, Option.map_map]
    congr 1
    funext before
    exact List.append_assoc before routes routes'
  others := by
    intro id hid
    rw [h'.others id (fun h' => hid ((routerOf_edges h.edges areaId id).1 h')), h.others id hid]

theorem Sent.routed {areaId : Int} {routes : List Route} (h : Sent areaId routes s s') (hs : s.rest.Routed) : s'.rest.Routed := by
  apply hs.of_edges h.edges
  intro id
  by_cases hid : s.rest.RouterOf areaId id
  · rw [h.sent id hid, Option.map_eq_none_iff]
  · rw [h.others id hid]

theorem Sent.forM {areaId : Int} {f : β → NetM υ PUnit} {g : β → List Route} (xs : List β) (hs : s.rest.Routed)
    (hf : ∀ x ∈ xs, ∀ s, s.rest.Routed → Meets (f x) s (fun _ s' => Sent areaId (g x) s s') (fun _ _ => True)) :
    Meets (forM xs f) s (fun _ s' => Sent areaId (xs.flatMap g) s s') (fun _ _ => True) := by
  induction xs generalizing s with
  | nil => exact .nil areaId s
  | cons x xs ih =>
    rw [List.forM_cons]
    apply Meets.bind (hf x List.mem_cons_self s hs)
    intro _ s₁ hs₁
    apply (ih (hs₁.routed hs) (fun y hy => hf y (List.mem_cons_of_mem x hy))).mono
    · intro _ s₂ hs₂
      rw [List.flatMap_cons]
      exact hs₁.trans hs₂
    · exact fun _ _ h => h

theorem addRouteToRouter_sends (areaId : Int) (cidr : Option String) (nexthop : IPv4Address) (hs : s.rest.Routed) :
    Meets (addRouteToRouter w areaId cidr nexthop) s
      (fun _ s' => ∀ routes, (∀ value, cidr = some value → routes = [{ networkCidr := value, nextHop := nexthop }]) →
        Sent areaId routes s s') (fun _ _ => True) := by
  unfold addRouteToRouter
  rw [meets_bind, meets_onParent]
  apply (Generic5G.edgeRouter_meets _ areaId (parent s)).mono
  · rintro router _ ⟨⟨info, hinfo, hrouter⟩, rfl⟩
    have hown := hs.own areaId info router hinfo hrouter
    change Meets _ s _ _
    split
    · rename_i hexternal
      have hnone : ∀ id, ¬ s.rest.RouterOf areaId id := by
        rintro id ⟨info', router', hinfo', hrouter', hid⟩
        cases hinfo.symm.trans hinfo'
        cases hrouter.symm.trans hrouter'
        rw [hexternal, hid] at hown
        cases hown
      exact fun routes _ => ⟨.refl _, fun id hid => (hnone id hid).elim, fun _ _ => rfl⟩
    · rw [meets_bind, meets_onParent]
      apply (Generic5G.lift_meets _ (parent s)).mono
      · rintro value _ ⟨hvalue, rfl⟩
        change Meets _ s _ _
        apply meets_onParent_bind (Generic5G.call_meets w.provider _ areaId (parent s))
        · rintro n s₁ - hs₁
          unfold addRoutes
          rw [meets_bind, meets_get]
          cases hid : router.blueId with
          | none => exact trivial
          | some id =>
            intro routes hroutes
            have hcidr : cidr = some value := by
              cases cidr with
              | none => cases hvalue
              | some v =>
                cases hvalue
                rfl
            have hself : s.rest.RouterOf areaId id := ⟨info, router, hinfo, hrouter, hid⟩
            obtain rfl := hroutes value hcidr
            refine ⟨hs₁.edges, ?_, ?_⟩
            · intro id' hid'
              cases hself.unique hid'
              change Function.update s₁.rest.routes id _ id = _
              rw [Function.update_self, hs₁.routes]
            · intro id' hid'
              have hne : id' ≠ id := by
                rintro rfl
                exact hid' hself
              change Function.update s₁.rest.routes id _ id' = _
              rw [Function.update_of_ne hne, hs₁.routes]
        · exact fun _ _ _ => trivial
      · exact fun _ _ _ => trivial
  · exact fun _ _ _ => trivial

theorem routeUpf_sends (areaId : Int) (upf : DeployedUPFInfo) (hs : s.rest.Routed) :
    Meets (routeUpf w areaId upf) s
      (fun _ s' => Sent areaId ((upf.servedSlices.flatMap SliceModel.dnnList).flatMap upf.routesTo) s s')
      (fun _ _ => True) := by
  apply Sent.forM _ hs
  intro dnn _ s₁ hs₁
  cases hnetwork : upf.networkInfo with
  | none => exact trivial
  | some network =>
    apply (addRouteToRouter_sends areaId dnn.cidr network.n6Ip hs₁).mono
    · intro _ s₂ h
      apply h
      intro value hvalue
      unfold DeployedUPFInfo.routesTo
      rw [hnetwork, hvalue]
    · exact fun _ _ h => h

end Sending

/-! ### The areas of the configuration -/

/-- The router of an area was there before, or is new. -/
def Inherits (areaId : Int) (id : BlueId) (s : Generic5GState (EdgeNet υ)) : Prop :=
  s.rest.RouterOf areaId id ∨ ((∀ id', ¬ s.rest.RouterOf areaId id') ∧ s.rest.routes id = none)

/-- An area has its entry, and its router the routes it had. -/
structure Visited (areaId : Int) (s s' : Generic5GState (EdgeNet υ)) : Prop where
  routed : s'.rest.Routed
  config : s'.currentConfig = s.currentConfig
  others : ∀ b, b ≠ areaId → s'.rest.entry b = s.rest.entry b
  routes : ∀ id, s.rest.routes id ≠ none → s'.rest.routes id = s.rest.routes id
  router : ∀ id, s'.rest.RouterOf areaId id →
    Inherits areaId id s ∧ s'.rest.routes id = some ((s.rest.routes id).getD [])

/-- Nothing happened but calls, and to UPFs. -/
structure SameRoutes (s s' : Generic5GState (EdgeNet υ)) : Prop where
  edges : Generic5G.SameEdges (parent s) (parent s')
  routes : s'.rest.routes = s.rest.routes

section Visiting

variable {w : EdgeWorld υ} {s s' : Generic5GState (EdgeNet υ)}

theorem SameRoutes.of_net (h : SameNet s s') : SameRoutes s s' :=
  ⟨h.edges, h.routes⟩

/-- The entry of an area is written. -/
theorem Routed.written {net net' : EdgeNet υ} (h : net.Routed) (hunique : Unique EdgeAreaInfo.area net'.edgeAreas)
    (hentry : net'.entry = Function.update net.entry areaId (some info))
    (hknown : ∀ id routes, net'.routes id = some routes → id < net'.calls)
    (hlasting : ∀ id, net.routes id ≠ none → net'.routes id ≠ none)
    (hown : ∀ router, info.router = some router → router.external = router.blueId.isNone)
    (hrouter : ∀ id, net'.RouterOf areaId id → net'.routes id ≠ none ∧ ∀ b, b ≠ areaId → ¬ net.RouterOf b id) :
    net'.Routed := by
  have hothers : ∀ b id, b ≠ areaId → (net'.RouterOf b id ↔ net.RouterOf b id) := by
    intro b id hb
    apply routerOf_entry
    rw [hentry, Function.update_of_ne hb]
  constructor
  · exact hunique
  · exact hknown
  · intro b found router hfound hr
    rw [hentry, Function.update_apply] at hfound
    split at hfound
    · cases hfound
      exact hown router hr
    · exact h.own b found router hfound hr
  · intro b id hid
    by_cases hb : b = areaId
    · exact (hrouter id (hb ▸ hid)).1
    · exact hlasting id (h.present b id ((hothers b id hb).1 hid))
  · intro a b id ha hb
    by_cases haa : a = areaId
    · by_cases hbb : b = areaId
      · rw [haa, hbb]
      · exact absurd ((hothers b id hbb).1 hb) ((hrouter id (haa ▸ ha)).2 b hbb)
    · by_cases hbb : b = areaId
      · exact absurd ((hothers a id haa).1 ha) ((hrouter id (hbb ▸ hb)).2 a haa)
      · exact h.distinct a b id ((hothers a id haa).1 ha) ((hothers b id hbb).1 hb)

theorem deployUpfBlueprint_routes (areaId : Int) (upfType : String) :
    Meets (deployUpfBlueprint w areaId upfType) s (fun _ s' => SameRoutes s s') (fun _ _ => True) := by
  unfold deployUpfBlueprint
  apply meets_onParent_bind (Generic5G.createUpfConfig_meets w.provider areaId (parent s))
  · rintro config s₁ - hs₁
    apply meets_onParent_bind (Generic5G.call_meets w.provider (.createUpf upfType config) areaId (parent s₁))
    · rintro n s₂ - hs₂
      unfold createUpf setUpf
      rw [meets_bind, meets_modify]
      apply meets_onParent_bind (Generic5G.registerChildren_meets n _)
      · rintro _ s₃ - hs₃
        apply (getUpfsInfo_meets w areaId n config s₃).mono
        · rintro upf s₄ ⟨-, hs₄⟩
          have hedges : Generic5G.SameEdges (parent s₂) (parent s₃) := hs₃.edges
          have hroutes : s₃.rest.routes = s₂.rest.routes := hs₃.routes
          exact ⟨((hs₁.edges.trans hs₂.edges).trans hedges).trans hs₄.edges,
            ((hs₄.routes.trans hroutes).trans hs₂.routes).trans hs₁.routes⟩
        · exact fun _ _ _ => trivial
      · exact fun _ _ _ => trivial
    · exact fun _ _ _ => trivial
  · exact fun _ _ _ => trivial

/-- What is different once an area is deployed: its entry, and a router without routes. -/
structure Deployed (areaId : Int) (s s' : Generic5GState (EdgeNet υ)) (router : Router5GInfo) : Prop where
  config : s'.currentConfig = s.currentConfig
  entry : ∃ upf, s'.rest.edgeAreas = s.rest.edgeAreas ++ [⟨areaId, upf, some router⟩]
  own : router.external = router.blueId.isNone
  fresh : ∀ id, router.blueId = some id → s.rest.calls ≤ id ∧ id < s'.rest.calls
  routes : s'.rest.routes = router.blueId.elim s.rest.routes (fun id => Function.update s.rest.routes id (some []))
  calls : s.rest.calls ≤ s'.rest.calls

theorem areaRouter_routes (area : SubArea) :
    Meets (areaRouter w area) s
      (fun router s' => router.external = router.blueId.isNone ∧
        (∀ id, router.blueId = some id → s.rest.calls ≤ id ∧ id < s'.rest.calls) ∧
        s'.rest.routes = router.blueId.elim s.rest.routes (fun id => Function.update s.rest.routes id (some [])) ∧
        Generic5G.SameEdges (parent s) (parent s'))
      (fun _ _ => True) := by
  unfold areaRouter
  apply meets_onParent_bind (Generic5G.areaRouter_meets w.provider area (parent s))
  · rintro router s₁ ⟨hown, hfresh⟩ hs₁
    cases hid : router.blueId with
    | none =>
      rw [hid] at hown
      exact ⟨by rw [hown, hid], fun id h => hfresh id h, by rw [hid]; exact hs₁.routes, hs₁.edges⟩
    | some id =>
      rw [hid] at hown
      refine ⟨by rw [hown, hid], fun id h => hfresh id h, ?_, hs₁.edges⟩
      rw [hid]
      change Function.update s₁.rest.routes id (some []) = _
      rw [hs₁.routes]
      rfl
  · exact fun _ _ _ => trivial

theorem deployArea_deploys (area : SubArea) (hnew : s.rest.entry area.id = none) :
    Meets (deployArea w area) s (fun _ s' => ∃ router, Deployed area.id s s' router) (fun _ _ => True) := by
  unfold deployArea
  rw [meets_bind, meets_onParent, meets_bind, meets_get]
  change Meets _ (⟨s.currentConfig, { s.rest with edgeAreas := s.rest.edgeAreas ++ [{ area := area.id }] }⟩ :
    Generic5GState (EdgeNet υ)) _ _
  rw [meets_bind]
  apply (areaRouter_routes area).mono
  · rintro router s₁ ⟨hown, hfresh, hroutes, hs₁⟩
    have hareas₁ : s₁.rest.edgeAreas = s.rest.edgeAreas ++ [{ area := area.id }] := hs₁.edgeAreas
    rw [meets_bind, meets_onParent]
    apply (Generic5G.assignEdgeArea_meets area.id _ (parent s₁)).mono
    · rintro _ _ ⟨info, hinfo, rfl⟩
      have hself : info = { area := area.id } := by
        change toMap EdgeAreaInfo.area s₁.rest.edgeAreas area.id = some info at hinfo
        rw [hareas₁, toMap_append (a := ({ area := area.id } : EdgeAreaInfo)) hnew, Function.update_self] at hinfo
        exact (Option.some.inj hinfo).symm
      subst hself
      have hareas₂ : replace EdgeAreaInfo.area s₁.rest.edgeAreas ⟨area.id, none, some router⟩ =
          s.rest.edgeAreas ++ [⟨area.id, none, some router⟩] := by
        rw [hareas₁]
        exact replace_append hnew rfl
      cases area.upf with
      | none => exact trivial
      | some upf =>
        rw [meets_bind]
        apply (deployUpfBlueprint_routes area.id upf.type).mono
        · rintro upfInfo s₃ hs₃
          have hareas₃ : s₃.rest.edgeAreas = s.rest.edgeAreas ++ [⟨area.id, none, some router⟩] :=
            hs₃.edges.edgeAreas.trans hareas₂
          rw [meets_onParent]
          apply (Generic5G.assignEdgeArea_meets area.id _ (parent s₃)).mono
          · rintro _ _ ⟨info', hinfo', rfl⟩
            have hself' : info' = ⟨area.id, none, some router⟩ := by
              change toMap EdgeAreaInfo.area s₃.rest.edgeAreas area.id = some info' at hinfo'
              rw [hareas₃, toMap_append (a := (⟨area.id, none, some router⟩ : EdgeAreaInfo)) hnew,
                Function.update_self] at hinfo'
              exact (Option.some.inj hinfo').symm
            subst hself'
            refine ⟨router, ?_, ⟨some upfInfo, ?_⟩, hown, ?_, ?_, ?_⟩
            · exact hs₃.edges.config.trans hs₁.config
            · change replace EdgeAreaInfo.area s₃.rest.edgeAreas _ = _
              rw [hareas₃]
              exact replace_append hnew rfl
            · intro id hid
              exact ⟨(hfresh id hid).1, Nat.lt_of_lt_of_le (hfresh id hid).2 hs₃.edges.calls⟩
            · exact hs₃.routes.trans hroutes
            · exact hs₁.calls.trans hs₃.edges.calls
          · exact fun _ _ _ => trivial
        · exact fun _ _ _ => trivial
    · exact fun _ _ _ => trivial
  · exact fun _ _ _ => trivial

theorem Deployed.visited (h : Deployed areaId s s' router) (hs : s.rest.Routed) (hnew : s.rest.entry areaId = none) :
    Visited areaId s s' := by
  obtain ⟨upf, hareas⟩ := h.entry
  have hentry : s'.rest.entry = Function.update s.rest.entry areaId (some ⟨areaId, upf, some router⟩) :=
    entry_append hareas hnew
  have hrouter : ∀ id, s'.rest.RouterOf areaId id → router.blueId = some id := by
    rintro id ⟨info, router', hinfo, hrouter', hid⟩
    rw [hentry, Function.update_self] at hinfo
    cases hinfo
    cases hrouter'
    exact hid
  have hfree : ∀ id, router.blueId = some id → s.rest.routes id = none := by
    intro id hid
    cases hroutes : s.rest.routes id with
    | none => rfl
    | some routes => exact absurd (hs.known id routes hroutes) (Nat.not_lt.2 (h.fresh id hid).1)
  have hgiven : ∀ id, router.blueId = some id → s'.rest.routes id = some [] := by
    intro id hid
    rw [h.routes, hid]
    exact Function.update_self _ _ _
  have hkept : ∀ id, router.blueId ≠ some id → s'.rest.routes id = s.rest.routes id := by
    intro id hid
    rw [h.routes]
    cases hrid : router.blueId with
    | none => rfl
    | some id' =>
      apply Function.update_of_ne
      rintro rfl
      exact hid hrid
  have hlasting : ∀ id, s.rest.routes id ≠ none → s'.rest.routes id = s.rest.routes id :=
    fun id hid => hkept id (fun hrid => hid (hfree id hrid))
  constructor
  · apply hs.written _ hentry
    · intro id routes hroutes
      by_cases hid : router.blueId = some id
      · exact (h.fresh id hid).2
      · rw [hkept id hid] at hroutes
        exact Nat.lt_of_lt_of_le (hs.known id routes hroutes) h.calls
    · intro id hid
      rw [hlasting id hid]
      exact hid
    · rintro _ ⟨⟩
      exact h.own
    · intro id hid
      refine ⟨?_, ?_⟩
      · rw [hgiven id (hrouter id hid)]
        exact Option.some_ne_none _
      · intro b _ hb
        exact hs.present b id hb (hfree id (hrouter id hid))
    · rw [hareas]
      exact hs.unique.append hnew
  · exact h.config
  · intro b hb
    rw [hentry, Function.update_of_ne hb]
  · exact hlasting
  · intro id hid
    have hrid := hrouter id hid
    refine ⟨.inr ⟨?_, hfree id hrid⟩, ?_⟩
    · rintro id' ⟨info, router', hinfo, -⟩
      rw [hnew] at hinfo
      cases hinfo
    · rw [hgiven id hrid, hfree id hrid]
      rfl

/-- An entry may be overwritten by one with the same router. -/
theorem Routed.visited (info' : EdgeAreaInfo) (hs : s.rest.Routed) (hedges : SameRoutes s s') (hinfo : s.rest.entry areaId = some info)
    (hrouter : info'.router = info.router) (harea : info'.area = areaId)
    (hareas : s''.rest.edgeAreas = replace EdgeAreaInfo.area s'.rest.edgeAreas info')
    (hconfig : s''.currentConfig = s'.currentConfig) (hroutes : s''.rest.routes = s'.rest.routes)
    (hcalls : s''.rest.calls = s'.rest.calls) : Visited areaId s s'' := by
  have hsame : s'.rest.edgeAreas = s.rest.edgeAreas := hedges.edges.edgeAreas
  rw [hsame] at hareas
  have hentry : s''.rest.entry = Function.update s.rest.entry areaId (some info') := by
    subst harea
    apply entry_replace hareas
    rw [hinfo]
    exact Option.some_ne_none info
  have hback : s''.rest.routes = s.rest.routes := hroutes.trans hedges.routes
  have hsame : ∀ b id, s''.rest.RouterOf b id ↔ s.rest.RouterOf b id := by
    intro b id
    by_cases hb : b = areaId
    · subst hb
      unfold RouterOf
      rw [hentry, Function.update_self, hinfo]
      constructor
      · rintro ⟨_, router, ⟨⟩, hr, hid⟩
        exact ⟨info, router, rfl, hrouter ▸ hr, hid⟩
      · rintro ⟨_, router, ⟨⟩, hr, hid⟩
        exact ⟨info', router, rfl, hrouter ▸ hr, hid⟩
    · apply routerOf_entry
      rw [hentry, Function.update_of_ne hb]
  constructor
  · apply hs.written _ hentry
    · intro id routes hid
      rw [hback] at hid
      rw [hcalls]
      exact Nat.lt_of_lt_of_le (hs.known id routes hid) hedges.edges.calls
    · intro id hid
      rw [hback]
      exact hid
    · intro router hr
      exact hs.own areaId info router hinfo (hrouter ▸ hr)
    · intro id hid
      rw [hsame] at hid
      refine ⟨?_, ?_⟩
      · rw [hback]
        exact hs.present areaId id hid
      · intro b hb hbid
        exact hb (hs.distinct b areaId id hbid hid)
    · rw [hareas]
      exact hs.unique.replace info'
  · exact hconfig.trans hedges.edges.config
  · intro b hb
    rw [hentry, Function.update_of_ne hb]
  · intro id _
    rw [hback]
  · intro id hid
    rw [hsame] at hid
    refine ⟨.inl hid, ?_⟩
    obtain ⟨routes, hid'⟩ := Option.ne_none_iff_exists'.1 (hs.present areaId id hid)
    rw [hback, hid']
    rfl

theorem Visited.same (hs : s.rest.Routed) (h : SameRoutes s s') : Visited areaId s s' where
  routed := hs.of_edges h.edges (fun id => by rw [h.routes])
  config := h.edges.config
  others := fun b _ => congrArg (fun areas => toMap EdgeAreaInfo.area areas b) h.edges.edgeAreas
  routes := fun id _ => by rw [h.routes]
  router := by
    intro id hid
    rw [routerOf_edges h.edges] at hid
    refine ⟨.inl hid, ?_⟩
    obtain ⟨routes, hid'⟩ := Option.ne_none_iff_exists'.1 (hs.present areaId id hid)
    rw [h.routes, hid']
    rfl

theorem refreshArea_visits (areaId : Int) (hs : s.rest.Routed) :
    Meets (refreshArea w areaId) s (fun _ s' => Visited areaId s s') (fun _ _ => True) := by
  unfold refreshArea
  apply meets_onParent_bind (Generic5G.createUpfConfig_meets w.provider areaId (parent s))
  · rintro config s₁ - hs₁
    rw [meets_bind, meets_onParent]
    apply (Generic5G.edgeUpf_meets _ areaId (parent s₁)).mono
    · rintro upf _ ⟨⟨info, hinfo, hupf⟩, rfl⟩
      change Meets _ s₁ _ _
      split
      · apply meets_onParent_bind (Generic5G.call_meets w.provider (.updateUpf upf.blueId config) areaId (parent s₁))
        · rintro n s₂ - hs₂
          unfold updateUpf
          rw [meets_bind, meets_bind]
          apply (upfChild_meets upf.blueId s₂).mono
          · rintro child s₃ ⟨-, h₃⟩
            rw [h₃]
            unfold setUpf
            rw [meets_modify, meets_bind]
            apply (getUpfsInfo_meets w areaId upf.blueId config _).mono
            · rintro upf' s₄ ⟨-, hs₄⟩
              rw [meets_onParent]
              apply (Generic5G.assignEdgeArea_meets areaId _ (parent s₄)).mono
              · rintro _ _ ⟨info', hinfo', rfl⟩
                have hs₃ : SameRoutes s₂ s₄ := ⟨hs₄.edges, hs₄.routes⟩
                have hsame : SameRoutes s s₄ :=
                  ⟨(hs₁.edges.trans hs₂.edges).trans hs₃.edges, (hs₃.routes.trans hs₂.routes).trans hs₁.routes⟩
                have hareas : s₄.rest.edgeAreas = s.rest.edgeAreas := hsame.edges.edgeAreas
                have hfound : s.rest.entry areaId = some info' := by
                  rw [entry, ← hareas]
                  exact hinfo'
                have hkey := toMap_some_key hinfo'
                exact Routed.visited { info' with upf := some upf' } hs hsame hfound rfl hkey rfl rfl rfl rfl
              · exact fun _ _ _ => trivial
            · exact fun _ _ _ => trivial
          · exact fun _ _ _ => trivial
        · exact fun _ _ _ => trivial
      · exact .same hs (.of_net hs₁)
    · exact fun _ _ _ => trivial
  · exact fun _ _ _ => trivial

theorem deployOrRefresh_visits (area : SubArea) (hs : s.rest.Routed) :
    Meets (deployOrRefresh w area) s (fun _ s' => Visited area.id s s') (fun _ _ => True) := by
  unfold deployOrRefresh
  rw [meets_bind, meets_get]
  split
  · rename_i hnew
    have hnone : s.rest.entry area.id = none := Option.isNone_iff_eq_none.1 hnew
    apply (deployArea_deploys area hnone).mono
    · rintro _ s' ⟨router, h⟩
      exact h.visited hs hnone
    · exact fun _ _ h => h
  · exact refreshArea_visits area.id hs

end Visiting

/-- The routes an area needs were added to those its router had. -/
structure Filled (areaId : Int) (s s' : Generic5GState (EdgeNet υ)) : Prop where
  router : ∀ id, s'.rest.RouterOf areaId id → Inherits areaId id s
  routes : ∀ id info upf, s'.rest.RouterOf areaId id → s'.rest.entry areaId = some info → info.upf = some upf →
    s'.rest.routes id = some ((s.rest.routes id).getD [] ++ upf.servedRoutes)

/-- One area was updated. -/
structure Routes (areaId : Int) (s s' : Generic5GState (EdgeNet υ)) : Prop where
  routed : s'.rest.Routed
  config : s'.currentConfig = s.currentConfig
  others : ∀ b, b ≠ areaId → s'.rest.entry b = s.rest.entry b
  filled : Filled areaId s s'
  kept : ∀ id, ¬ s'.rest.RouterOf areaId id → s.rest.routes id ≠ none → s'.rest.routes id = s.rest.routes id
  lasting : ∀ id, s.rest.routes id ≠ none → s'.rest.routes id ≠ none

section Updating

variable {w : EdgeWorld υ} {s s' : Generic5GState (EdgeNet υ)}

theorem updateArea_routes (area : SubArea) (hs : s.rest.Routed) :
    Meets (updateArea w area) s (fun _ s' => Routes area.id s s') (fun _ _ => True) := by
  unfold updateArea
  apply (deployOrRefresh_visits area hs).bind
  intro _ s₁ h₁
  rw [meets_bind, meets_onParent]
  apply (Generic5G.edgeUpf_meets _ area.id (parent s₁)).mono
  · rintro upf _ ⟨⟨info, hinfo, hupf⟩, rfl⟩
    have hsends : Meets (forM upf.upfList (routeUpf w area.id)) s₁
        (fun _ s' => Sent area.id upf.servedRoutes s₁ s') (fun _ _ => True) :=
      Sent.forM _ h₁.routed (fun deployed _ s₂ hs₂ => routeUpf_sends area.id deployed hs₂)
    apply hsends.mono
    · intro _ s₂ h₂
      have hareas : s₂.rest.edgeAreas = s₁.rest.edgeAreas := h₂.edges.edgeAreas
      have hentry : ∀ b, s₂.rest.entry b = s₁.rest.entry b := fun b => by rw [entry, hareas, entry]
      constructor
      · exact h₂.routed h₁.routed
      · exact h₂.edges.config.trans h₁.config
      · intro b hb
        rw [hentry, h₁.others b hb]
      · constructor
        · intro id hid
          rw [routerOf_edges h₂.edges] at hid
          exact (h₁.router id hid).1
        · intro id info' upf' hid hinfo' hupf'
          rw [hentry] at hinfo'
          cases hinfo.symm.trans hinfo'
          rw [hupf] at hupf'
          cases hupf'
          rw [routerOf_edges h₂.edges] at hid
          rw [h₂.sent id hid, (h₁.router id hid).2]
          rfl
      · intro id hid hsome
        rw [routerOf_edges h₂.edges] at hid
        rw [h₂.others id hid, h₁.routes id hsome]
      · intro id hsome hnone
        by_cases hid : s₁.rest.RouterOf area.id id
        · rw [h₂.sent id hid, Option.map_eq_none_iff, h₁.routes id hsome] at hnone
          exact hsome hnone
        · rw [h₂.others id hid, h₁.routes id hsome] at hnone
          exact hsome hnone
    · exact fun _ _ h => h
  · exact fun _ _ _ => trivial

/-- The loop over the areas of the configuration has passed some of them. -/
structure Passed (done : List Int) (s s' : Generic5GState (EdgeNet υ)) : Prop where
  routed : s'.rest.Routed
  config : s'.currentConfig = s.currentConfig
  filled : ∀ a ∈ done, Filled a s s'
  waiting : ∀ a, a ∉ done → s'.rest.entry a = s.rest.entry a ∧
    ∀ id, s.rest.RouterOf a id → s'.rest.routes id = s.rest.routes id
  lasting : ∀ id, s.rest.routes id ≠ none → s'.rest.routes id ≠ none

theorem Passed.start (hs : s.rest.Routed) : Passed [] s s :=
  ⟨hs, rfl, fun _ h => (nomatch h), fun _ _ => ⟨rfl, fun _ _ => rfl⟩, fun _ h => h⟩

theorem Passed.step {areaId : Int} (h : Passed done s s') (h' : Routes areaId s' s'')
    (hnew : areaId ∉ done) : Passed (areaId :: done) s s'' := by
  obtain ⟨hentry, hroutes⟩ := h.waiting areaId hnew
  constructor
  · exact h'.routed
  · exact h'.config.trans h.config
  · intro a ha
    by_cases haa : a = areaId
    · subst haa
      have hinherits : ∀ id, s''.rest.RouterOf a id → Inherits a id s ∧ s'.rest.routes id = s.rest.routes id := by
        intro id hid
        rcases h'.filled.router id hid with hold | ⟨hnone, hfree⟩
        · rw [routerOf_entry hentry] at hold
          exact ⟨.inl hold, hroutes id hold⟩
        · have hfree' : s.rest.routes id = none := by
            by_contra hsome
            exact h.lasting id hsome hfree
          refine ⟨.inr ⟨?_, hfree'⟩, hfree.trans hfree'.symm⟩
          intro id' hid'
          exact hnone id' ((routerOf_entry hentry).2 hid')
      constructor
      · exact fun id hid => (hinherits id hid).1
      · intro id info upf hid hinfo hupf
        rw [h'.filled.routes id info upf hid hinfo hupf, (hinherits id hid).2]
    · have hbefore := h.filled a ((List.mem_cons.1 ha).resolve_left haa)
      have hsame : s''.rest.entry a = s'.rest.entry a := h'.others a haa
      constructor
      · exact fun id hid => hbefore.router id ((routerOf_entry hsame).1 hid)
      · intro id info upf hid hinfo hupf
        have hother : ¬ s''.rest.RouterOf areaId id := fun hid' => haa (h'.routed.distinct a areaId id hid hid')
        rw [routerOf_entry hsame] at hid
        rw [hsame] at hinfo
        rw [h'.kept id hother (h.routed.present a id hid), hbefore.routes id info upf hid hinfo hupf]
  · intro a ha
    obtain ⟨haa, hdone⟩ := not_or.1 (fun hor => ha (List.mem_cons.2 hor))
    obtain ⟨hentry', hroutes'⟩ := h.waiting a hdone
    have hsame : s''.rest.entry a = s.rest.entry a := (h'.others a haa).trans hentry'
    refine ⟨hsame, ?_⟩
    intro id hid
    have hid'' : s''.rest.RouterOf a id := (routerOf_entry hsame).2 hid
    have hother : ¬ s''.rest.RouterOf areaId id := fun hid' => haa (h'.routed.distinct a areaId id hid'' hid')
    rw [h'.kept id hother (h.routed.present a id ((routerOf_entry hentry').2 hid)), hroutes' id hid]
  · exact fun id hid => h'.lasting id (h.lasting id hid)

theorem updateAreas_passes (areas : List SubArea) (h : Passed done s s') (hnodup : (areas.map SubArea.id).Nodup)
    (hnew : ∀ area ∈ areas, area.id ∉ done) :
    Meets (forM areas (updateArea w)) s'
      (fun _ s'' => ∃ passed, Passed passed s s'' ∧ ∀ id, id ∈ done ∨ id ∈ areas.map SubArea.id → id ∈ passed)
      (fun _ _ => True) := by
  induction areas generalizing done s' with
  | nil => exact ⟨done, h, fun id hid => hid.resolve_right List.not_mem_nil⟩
  | cons area areas ih =>
    rw [List.map_cons, List.nodup_cons] at hnodup
    rw [List.forM_cons]
    apply (updateArea_routes area h.routed).bind
    intro _ s₁ h₁
    have hstep := h.step h₁ (hnew area List.mem_cons_self)
    have hnew' : ∀ area' ∈ areas, area'.id ∉ area.id :: done := by
      intro area' harea' hmem
      rcases List.mem_cons.1 hmem with heq | hdone
      · exact hnodup.1 (heq ▸ List.mem_map_of_mem harea')
      · exact hnew area' (List.mem_cons_of_mem area harea') hdone
    apply (ih hstep hnodup.2 hnew').mono
    · rintro _ s₂ ⟨passed, hpassed, hall⟩
      refine ⟨passed, hpassed, ?_⟩
      intro id hid
      apply hall
      rcases hid with hdone | hmem
      · exact .inl (List.mem_cons_of_mem _ hdone)
      · rcases List.mem_cons.1 hmem with rfl | hrest
        · exact .inl List.mem_cons_self
        · exact .inr hrest
    · exact fun _ _ h => h

end Updating

/-! ### The areas that left the configuration -/

/-- Areas were deleted, and the others were not touched. -/
structure Removed (ids : List Int) (s s' : Generic5GState (EdgeNet υ)) : Prop where
  routed : s'.rest.Routed
  config : s'.currentConfig = s.currentConfig
  gone : ∀ b ∈ ids, s'.rest.entry b = none
  kept : ∀ a, a ∉ ids → s'.rest.entry a = s.rest.entry a ∧
    ∀ id, s.rest.RouterOf a id → s'.rest.routes id = s.rest.routes id

section Deleting

variable {w : EdgeWorld υ} {s s' : Generic5GState (EdgeNet υ)}

/-- The router of an area is given up. -/
structure Undeployed (areaId : Int) (s s' : Generic5GState (EdgeNet υ)) : Prop where
  config : s'.currentConfig = s.currentConfig
  edgeAreas : s'.rest.edgeAreas = s.rest.edgeAreas
  calls : s.rest.calls ≤ s'.rest.calls
  routes : ∀ id, ¬ s.rest.RouterOf areaId id → s'.rest.routes id = s.rest.routes id
  given : ∀ id, s.rest.RouterOf areaId id → s'.rest.routes id = none

theorem undeployOwnRouter_undeploys (areaId : Int) (hs : s.rest.Routed) :
    Meets (undeployOwnRouter w areaId) s (fun _ s' => Undeployed areaId s s') (fun _ _ => True) := by
  unfold undeployOwnRouter
  rw [meets_bind, meets_onParent]
  apply (Generic5G.edgeRouter_meets _ areaId (parent s)).mono
  · rintro router _ ⟨⟨info, hinfo, hrouter⟩, rfl⟩
    have hown := hs.own areaId info router hinfo hrouter
    change Meets _ s _ _
    split
    · rename_i hexternal
      refine ⟨rfl, rfl, Nat.le_refl _, fun _ _ => rfl, ?_⟩
      rintro id ⟨info', router', hinfo', hrouter', hid⟩
      cases hinfo.symm.trans hinfo'
      cases hrouter.symm.trans hrouter'
      rw [hexternal, hid] at hown
      cases hown
    · rw [meets_bind, meets_onParent]
      apply (Generic5G.undeployRouterBlueprint_meets w.provider areaId (parent s)).mono
      · rintro _ _ ⟨t, info', router', id, hinfo', hrouter', hid, ht, rfl⟩
        cases hinfo.symm.trans hinfo'
        cases hrouter.symm.trans hrouter'
        have hself : s.rest.RouterOf areaId id := ⟨info, router, hinfo, hrouter, hid⟩
        rw [hid]
        refine ⟨ht.config, ht.edgeAreas, ht.calls, ?_, ?_⟩
        · intro id' hid'
          apply Function.update_of_ne
          rintro rfl
          exact hid' hself
        · intro id' hid'
          cases hself.unique hid'
          exact Function.update_self _ _ _
      · exact fun _ _ _ => trivial
  · exact fun _ _ _ => trivial

theorem Undeployed.removed (h : Undeployed areaId s s') (hs : s.rest.Routed) (hconfig : s''.currentConfig = s'.currentConfig)
    (hareas : s''.rest.edgeAreas = KeyedList.erase EdgeAreaInfo.area s'.rest.edgeAreas areaId)
    (hcalls : s'.rest.calls ≤ s''.rest.calls) (hroutes : s''.rest.routes = s'.rest.routes) : Removed [areaId] s s'' := by
  rw [h.edgeAreas] at hareas
  have hentry : s''.rest.entry = Function.update s.rest.entry areaId none := entry_erase hareas hs.unique
  have hself : s''.rest.entry areaId = none := by rw [hentry, Function.update_self]
  have hothers : ∀ b, b ≠ areaId → s''.rest.entry b = s.rest.entry b :=
    fun b hb => by rw [hentry, Function.update_of_ne hb]
  have hnone : ∀ b, s''.rest.entry b ≠ none → b ≠ areaId := by
    rintro b hb rfl
    exact hb hself
  have hback : ∀ b id, s''.rest.RouterOf b id → b ≠ areaId ∧ s.rest.RouterOf b id := by
    intro b id hid
    obtain ⟨info, router, hinfo, hrouter⟩ := hid
    have hb := hnone b (by rw [hinfo]; exact Option.some_ne_none info)
    exact ⟨hb, info, router, (hothers b hb).symm.trans hinfo, hrouter⟩
  have hkept : ∀ b id, b ≠ areaId → s.rest.RouterOf b id → s''.rest.routes id = s.rest.routes id := by
    intro b id hb hid
    rw [hroutes]
    exact h.routes id (fun hid' => hb (hs.distinct b areaId id hid hid'))
  constructor
  · constructor
    · rw [hareas]
      exact hs.unique.erase areaId
    · intro id routes hid
      rw [hroutes] at hid
      by_cases hrouter : s.rest.RouterOf areaId id
      · rw [h.given id hrouter] at hid
        cases hid
      · rw [h.routes id hrouter] at hid
        exact Nat.lt_of_lt_of_le (hs.known id routes hid) (h.calls.trans hcalls)
    · intro b info router hinfo hrouter
      rw [hothers b (hnone b (by rw [hinfo]; exact Option.some_ne_none info))] at hinfo
      exact hs.own b info router hinfo hrouter
    · intro b id hid
      obtain ⟨hb, hid'⟩ := hback b id hid
      rw [hkept b id hb hid']
      exact hs.present b id hid'
    · intro a b id ha hb
      exact hs.distinct a b id (hback a id ha).2 (hback b id hb).2
  · exact hconfig.trans h.config
  · intro b hb
    rw [List.mem_singleton.1 hb]
    exact hself
  · intro a ha
    have haa : a ≠ areaId := fun heq => ha (List.mem_singleton.2 heq)
    exact ⟨hothers a haa, fun id hid => hkept a id haa hid⟩

theorem deleteArea_removes (areaId : Int) (hs : s.rest.Routed) :
    Meets (deleteArea w areaId) s (fun _ s' => Removed [areaId] s s') (fun _ _ => True) := by
  unfold deleteArea undeployUpfBlueprint
  apply (undeployOwnRouter_undeploys areaId hs).bind
  intro _ s₁ h₁
  rw [meets_bind, meets_bind, meets_onParent]
  apply (Generic5G.edgeUpf_meets _ areaId (parent s₁)).mono
  · rintro upf _ ⟨-, rfl⟩
    change Meets _ s₁ _ _
    apply meets_onParent_bind (Generic5G.call_meets w.provider (.deleteUpf upf.blueId) areaId (parent s₁))
    · rintro n s₂ - hs₂
      unfold setUpf
      rw [meets_bind, meets_modify, meets_onParent]
      apply (Generic5G.deregisterChildren_meets upf.blueId _).mono
      · rintro _ _ rfl
        have hareas : s₂.rest.edgeAreas = s₁.rest.edgeAreas := hs₂.edges.edgeAreas
        apply h₁.removed hs
        · exact hs₂.edges.config
        · change KeyedList.erase EdgeAreaInfo.area s₂.rest.edgeAreas areaId = _
          rw [hareas]
        · exact hs₂.edges.calls
        · exact hs₂.routes
      · exact fun _ _ _ => trivial
    · exact fun _ _ _ => trivial
  · exact fun _ _ _ => trivial

theorem deleteAreas_removes (ids : List Int) (hs : s.rest.Routed) :
    Meets (forM ids (deleteArea w)) s (fun _ s' => Removed ids s s') (fun _ _ => True) := by
  induction ids generalizing s with
  | nil => exact ⟨hs, rfl, fun _ h => (nomatch h), fun _ _ => ⟨rfl, fun _ _ => rfl⟩⟩
  | cons b ids ih =>
    rw [List.forM_cons]
    apply (deleteArea_removes b hs).bind
    intro _ s₁ h₁
    apply (ih h₁.routed).mono
    · intro _ s₂ h₂
      refine ⟨h₂.routed, h₂.config.trans h₁.config, ?_, ?_⟩
      · intro b' hb'
        by_cases hin : b' ∈ ids
        · exact h₂.gone b' hin
        · obtain rfl := (List.mem_cons.1 hb').resolve_right hin
          exact (h₂.kept b' hin).1.trans (h₁.gone b' List.mem_cons_self)
      · intro a ha
        obtain ⟨hab, hout⟩ := not_or.1 (fun hor => ha (List.mem_cons.2 hor))
        obtain ⟨hentry₁, hroutes₁⟩ := h₁.kept a (fun hmem => hab (List.mem_singleton.1 hmem))
        obtain ⟨hentry₂, hroutes₂⟩ := h₂.kept a hout
        refine ⟨hentry₂.trans hentry₁, ?_⟩
        intro id hid
        rw [hroutes₂ id ((routerOf_entry hentry₁).2 hid), hroutes₁ id hid]
    · exact fun _ _ h => h

/-- What an update does to the routes: an area that is still there had its routes added to those of its router. -/
theorem updateEdgeAreas_routes (hs : s.rest.Routed) (hc : s.currentConfig = some c)
    (hids : (c.areas.map SubArea.id).Nodup) :
    Meets (updateEdgeAreas w) s
      (fun _ s' => ∀ areaId, s'.rest.entry areaId ≠ none → Filled areaId s s') (fun _ _ => True) := by
  unfold updateEdgeAreas
  rw [meets_bind, meets_onParent]
  apply (Generic5G.areas_meets (parent s)).mono
  · rintro areas _ ⟨⟨c', hc', rfl⟩, rfl⟩
    cases hc.symm.trans hc'
    apply Meets.bind (s := s) (updateAreas_passes c.areas (.start hs) hids (fun _ _ h => (nomatch h)))
    rintro _ s₁ ⟨passed, hpassed, hall⟩
    rw [meets_bind, meets_get]
    apply (deleteAreas_removes (s := s₁) _ hpassed.routed).mono
    · intro _ s₂ h₂ areaId hsome
      have hout : areaId ∉ w.provider.order ((s₁.rest.edgeAreas.map EdgeAreaInfo.area).filter
          (fun id => decide (id ∉ c.areas.map SubArea.id))) := fun hin => hsome (h₂.gone areaId hin)
      obtain ⟨hentry, hroutes⟩ := h₂.kept areaId hout
      have hlisted : areaId ∈ c.areas.map SubArea.id := by
        by_contra hmissing
        apply hout
        rw [(w.provider.order_perm _).mem_iff, List.mem_filter]
        refine ⟨?_, decide_eq_true hmissing⟩
        rw [hentry] at hsome
        obtain ⟨info, hinfo⟩ := Option.ne_none_iff_exists'.1 hsome
        exact toMap_some_key hinfo ▸ List.mem_map_of_mem (toMap_some_mem hinfo)
      have hfilled := hpassed.filled areaId (hall areaId (.inr hlisted))
      constructor
      · exact fun id hid => hfilled.router id ((routerOf_entry hentry).1 hid)
      · intro id info upf hid hinfo hupf
        rw [routerOf_entry hentry] at hid
        rw [hentry] at hinfo
        rw [hroutes id hid, hfilled.routes id info upf hid hinfo hupf]
    · exact fun _ _ h => h
  · exact fun _ _ _ => trivial

theorem updateEdgeAreas_routed (hs : s.rest.Routed) :
    Meets (updateEdgeAreas w) s (fun _ s' => s'.rest.Routed) (fun _ _ => True) := by
  unfold updateEdgeAreas
  rw [meets_bind, meets_onParent]
  apply (Generic5G.areas_meets (parent s)).mono
  · rintro areas _ ⟨-, rfl⟩
    apply Meets.bind (R := fun _ s' => s'.rest.Routed)
    · apply Meets.forM (s := s) (I := fun s' => s'.rest.Routed) _ hs
      exact fun area _ s₁ h₁ => (updateArea_routes area h₁).mono (fun _ _ h => h.routed) (fun _ _ h => h)
    · intro _ s₁ h₁
      rw [meets_bind, meets_get]
      exact (deleteAreas_removes _ h₁).mono (fun _ _ h => h.routed) (fun _ _ h => h)
  · exact fun _ _ _ => trivial

end Deleting

end EdgeNet

section Runs

variable {s : Generic5GState (EdgeNet υ)}

theorem HookStep.execAll_routed (steps : List (HookStep υ)) (hs : s.rest.Routed) :
    Meets (HookStep.execAll steps) s (fun _ s' => s'.rest.Routed) (fun _ _ => True) := by
  apply Meets.forM (s := s) (I := fun s' => s'.rest.Routed) _ hs
  intro step _ s₁ h₁
  cases step with
  | updateEdgeAreas w => exact EdgeNet.updateEdgeAreas_routed h₁
  | coreDeployed => exact ⟨h₁.unique, h₁.known, h₁.own, h₁.present, h₁.distinct⟩
  | other result =>
    cases result with
    | none => exact h₁
    | some e => exact trivial

theorem EdgeOperation.exec_routed (operation : EdgeOperation υ) (hs : s.rest.Routed)
    (hreturns : ¬ Raised (operation.exec.run s)) : (finalState (operation.exec.run s)).rest.Routed := by
  have hmeets : Meets operation.exec s (fun _ s' => s'.rest.Routed) (fun _ _ => True) := by
    cases operation with
    | create model steps =>
      unfold EdgeOperation.exec
      rw [meets_bind, meets_modify, meets_bind, EdgeNet.meets_onParent]
      apply (Generic5G.lift_meets _ _).mono
      · rintro _ _ ⟨-, rfl⟩
        exact HookStep.execAll_routed steps hs
      · exact fun _ _ _ => trivial
    | day2 op hook =>
      apply Day2Op.exec_meets
      · exact fun _ _ => trivial
      · exact fun c _ _ => HookStep.execAll_routed hook hs
  unfold Meets at hmeets
  rw [eq_ok_of_not_raised hreturns] at hmeets
  exact hmeets

theorem append_exact_iff {xs ys : List α} :
    ((xs ++ ys).Nodup ∧ ∀ a, a ∈ xs ++ ys ↔ a ∈ ys) ↔ xs = [] ∧ ys.Nodup := by
  constructor
  · rintro ⟨hnodup, hmem⟩
    obtain ⟨-, hys, hdisjoint⟩ := List.nodup_append.1 hnodup
    refine ⟨?_, hys⟩
    apply List.eq_nil_iff_forall_not_mem.2
    intro a ha
    exact hdisjoint a ha a ((hmem a).1 (List.mem_append_left ys ha)) rfl
  · rintro ⟨rfl, hnodup⟩
    exact ⟨hnodup, fun a => Iff.rfl⟩

theorem EdgeNet.Inherits.noRoutesYet_iff {id : BlueId} (h : EdgeNet.Inherits areaId id s) (hs : s.rest.Routed) :
    s.rest.NoRoutesYet areaId ↔ (s.rest.routes id).getD [] = [] := by
  rcases h with hid | ⟨hnone, hfree⟩
  · obtain ⟨routes, hroutes⟩ := Option.ne_none_iff_exists'.1 (hs.present areaId id hid)
    rw [hroutes, Option.getD_some]
    constructor
    · intro hyet
      exact Option.some.inj (hroutes.symm.trans (hyet id hid))
    · rintro rfl id' hid'
      rw [← hid.unique hid', hroutes]
  · rw [hfree]
    exact iff_of_true (fun id' hid' => (hnone id' hid').elim) rfl

/-- After every update that returns, in every run of operations that return, the routes of the router of an area are
those of the DNNs served exactly when there were none before and the DNNs have routes of their own. -/
theorem routes_exact_iff (operations : List (EdgeOperation υ)) (w : EdgeWorld υ) (s' : Generic5GState (EdgeNet υ))
    (hreturned : AllSteps EdgeOperation.exec (fun operation s => ¬ Raised (operation.exec.run s)) ⟨none, {}⟩ operations)
    (hids : ∀ c, (runAll EdgeOperation.exec ⟨none, {}⟩ operations).currentConfig = some c →
      (c.areas.map SubArea.id).Nodup)
    (hupdate : (EdgeNet.updateEdgeAreas w).run (runAll EdgeOperation.exec ⟨none, {}⟩ operations) = .ok () s')
    (areaId : Int) (info : EdgeAreaInfo) (router : Router5GInfo) (upf : UPFInfo)
    (hinfo : s'.rest.entry areaId = some info) (hrouter : info.router = some router) (hown : router.external = false)
    (hupf : info.upf = some upf) :
    s'.rest.RoutesExact router upf ↔
      (runAll EdgeOperation.exec ⟨none, {}⟩ operations).rest.NoRoutesYet areaId ∧ upf.servedRoutes.Nodup := by
  have hs : (runAll EdgeOperation.exec (⟨none, {}⟩ : Generic5GState (EdgeNet υ)) operations).rest.Routed := by
    apply runAll_invariant (I := fun s : Generic5GState (EdgeNet υ) => s.rest.Routed) EdgeOperation.exec _ operations hreturned
    · exact ⟨List.nodup_nil, fun _ _ h => (nomatch h), fun _ _ _ h => (nomatch h),
        fun _ _ ⟨_, _, h, _⟩ => (nomatch h), fun _ _ _ ⟨_, _, h, _⟩ => (nomatch h)⟩
    · exact fun operation s hreturns hs => operation.exec_routed hs hreturns
  generalize runAll EdgeOperation.exec (⟨none, {}⟩ : Generic5GState (EdgeNet υ)) operations = s at hids hupdate hs ⊢
  obtain ⟨c, hc⟩ : ∃ c, s.currentConfig = some c := by
    obtain ⟨config, r⟩ := s
    cases config with
    | none => cases hupdate
    | some c => exact ⟨c, rfl⟩
  have hfilled := EdgeNet.updateEdgeAreas_routes (w := w) hs hc (hids c hc)
  have hs' := EdgeNet.updateEdgeAreas_routed (w := w) hs
  unfold Meets at hfilled hs'
  rw [hupdate] at hfilled hs'
  obtain ⟨id, hid⟩ : ∃ id, router.blueId = some id := by
    have hnone := hs'.own areaId info router hinfo hrouter
    rw [hown] at hnone
    cases hid : router.blueId with
    | none =>
      rw [hid] at hnone
      cases hnone
    | some id => exact ⟨id, rfl⟩
  have hself : s'.rest.RouterOf areaId id := ⟨info, router, hinfo, hrouter, hid⟩
  have hthere : s'.rest.entry areaId ≠ none := by
    rw [hinfo]
    exact Option.some_ne_none info
  have hfilled := hfilled areaId hthere
  rw [(hfilled.router id hself).noRoutesYet_iff hs, ← append_exact_iff]
  have hroutes := hfilled.routes id info upf hself hinfo hupf
  constructor
  · rintro ⟨id', routes, hid', hroutes', hexact⟩
    cases hid.symm.trans hid'
    cases hroutes.symm.trans hroutes'
    exact hexact
  · exact fun hexact => ⟨id, _, hid, hroutes, hexact⟩

end Runs

/-- The routes of an area: whether its router is external, the routes it has, and those of the DNNs served. -/
def EdgeNet.routesOf (net : EdgeNet υ) (areaId : Int) : Option (Bool × Option (List Route) × List Route) := do
  let info ← net.entry areaId
  let router ← info.router
  let upf ← info.upf
  return (router.external, router.blueId.bind net.routes, upf.servedRoutes)

theorem EdgeNet.routesOf_eq_some {net : EdgeNet υ} {routes : Option (List Route)}
    (h : net.routesOf areaId = some (external, routes, served)) :
    ∃ info router upf, net.entry areaId = some info ∧ info.router = some router ∧ info.upf = some upf ∧
      router.external = external ∧ router.blueId.bind net.routes = routes ∧ upf.servedRoutes = served := by
  obtain ⟨info, hinfo, h⟩ := Option.bind_eq_some_iff.1 h
  obtain ⟨router, hrouter, h⟩ := Option.bind_eq_some_iff.1 h
  obtain ⟨upf, hupf, h⟩ := Option.bind_eq_some_iff.1 h
  cases h
  exact ⟨info, router, upf, hinfo, hrouter, hupf, rfl, rfl, rfl⟩

def campusRoute : Route where
  networkCidr := "10.250.0.0/16"
  nextHop := campusAddress 6

/-- `create` up to the first update of the edge areas. -/
def campusRequested : EdgeOperation Unit :=
  .create (campusConfig [campusArea 1 campusSlices]) []

def campusUpdated (operation : EdgeOperation Unit) : EdgeNet Unit :=
  (finalState ((EdgeNet.updateEdgeAreas (campusWorld none)).run (runAll EdgeOperation.exec ⟨none, {}⟩ [operation]))).rest

/-- The first update of the campus. -/
theorem routes_exact_campus : ∃ info router upf, (campusUpdated campusRequested).entry 1 = some info ∧
    info.router = some router ∧ info.upf = some upf ∧ (campusUpdated campusRequested).RoutesExact router upf := by
  have hroutes : (campusUpdated campusRequested).routesOf 1 = some (false, some [campusRoute], [campusRoute]) := by
    decide +kernel
  obtain ⟨info, router, upf, hinfo, hrouter, hupf, hown, -, hserved⟩ := EdgeNet.routesOf_eq_some hroutes
  refine ⟨info, router, upf, hinfo, hrouter, hupf, ?_⟩
  have hexact := routes_exact_iff [campusRequested] (campusWorld none) _ ⟨by decide +kernel, trivial⟩
    (by rintro _ ⟨⟩; decide) (eq_ok_of_not_raised (by decide +kernel)) 1 info router upf hinfo hrouter hown hupf
  apply hexact.2
  rw [hserved]
  exact ⟨fun id ⟨_, _, h, _⟩ => (nomatch h), List.nodup_singleton _⟩

/-- The second update of `create` sends the route again. -/
theorem routes_exact_fails :
    ¬ ∀ (operations : List (EdgeOperation Unit)) (w : EdgeWorld Unit) (s' : Generic5GState (EdgeNet Unit)),
      AllSteps EdgeOperation.exec (fun operation s => ¬ Raised (operation.exec.run s)) ⟨none, {}⟩ operations →
      (EdgeNet.updateEdgeAreas w).run (runAll EdgeOperation.exec ⟨none, {}⟩ operations) = .ok () s' →
      ∀ areaId info router upf, s'.rest.entry areaId = some info → info.router = some router →
        router.external = false → info.upf = some upf → s'.rest.RoutesExact router upf := by
  intro h
  have hroutes : (campusUpdated campusDeployment).routesOf 1 =
      some (false, some [campusRoute, campusRoute], [campusRoute]) := by decide +kernel
  obtain ⟨info, router, upf, hinfo, hrouter, hupf, hown, htwice, -⟩ := EdgeNet.routesOf_eq_some hroutes
  have hexact : (campusUpdated campusDeployment).RoutesExact router upf :=
    h [campusDeployment] (campusWorld none) _ ⟨by decide +kernel, trivial⟩
      (eq_ok_of_not_raised (by decide +kernel)) 1 info router upf hinfo hrouter hown hupf
  obtain ⟨id, routes, hid, hroutes, hnodup, -⟩ := hexact
  rw [hid, Option.bind_some, hroutes, Option.some.injEq] at htwice
  rw [htwice] at hnodup
  exact absurd hnodup (by decide)

end Nfvcl
