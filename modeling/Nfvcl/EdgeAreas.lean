import Mathlib.Data.List.Basic
import Mathlib.Data.List.Perm.Basic
import Nfvcl.Generic5GEdge

namespace Nfvcl
set_option autoImplicit true
open Effects

def EdgeState.tick (r : EdgeState) : EdgeState :=
  { r with calls := r.calls + 1 }

namespace Generic5G

/-- A program of the edge section, started with configuration `c`, keeps it and ends in `Q` if
it returns and in `E` if it raises. -/
def Leads (c : Create5gModel) (m : EdgeM α) (r : EdgeState) (Q : α → EdgeState → Prop) (E : EdgeState → Prop) : Prop :=
  Meets m ⟨some c, r⟩ (fun a s => s.currentConfig = some c ∧ Q a s.rest) (fun _ s => s.currentConfig = some c ∧ E s.rest)

section Rules

variable {c : Create5gModel} {r : EdgeState} {E : EdgeState → Prop} {provider : EdgeProvider}

theorem Leads.mono {m : EdgeM α} {Q Q' : α → EdgeState → Prop} (h : Leads c m r Q E)
    (hQ : ∀ a r', Q a r' → Q' a r') (hE : ∀ r', E r' → E' r') : Leads c m r Q' E' :=
  Meets.mono h (fun _ _ hq => ⟨hq.1, hQ _ _ hq.2⟩) (fun _ _ he => ⟨he.1, hE _ he.2⟩)

theorem Leads.seq {m : EdgeM α} {f : α → EdgeM β} {Q : β → EdgeState → Prop}
    (h : Leads c m r (fun a r' => Leads c (f a) r' Q E) E) : Leads c (m >>= f) r Q E := by
  apply Meets.bind h
  rintro a ⟨config, r'⟩ ⟨rfl, hf⟩
  exact hf

theorem Leads.pure {a : α} {Q : α → EdgeState → Prop} (h : Q a r) : Leads c (pure a) r Q E :=
  ⟨rfl, h⟩

theorem Leads.throw {Q : α → EdgeState → Prop} (h : E r) : Leads c (throw e) r Q E :=
  ⟨rfl, h⟩

theorem Leads.get {Q : Generic5GState EdgeState → EdgeState → Prop} (h : Q ⟨some c, r⟩ r) :
    Leads c (MonadState.get : EdgeM _) r Q E :=
  ⟨rfl, h⟩

theorem Leads.call {Q : Nat → EdgeState → Prop}
    (hok : provider.raises k area r.calls = none → Q r.calls r.tick)
    (herror : provider.raises k area r.calls ≠ none → E r.tick) : Leads c (call provider k area) r Q E := by
  unfold Leads Meets EStateM.run Generic5G.call
  cases h : provider.raises k area r.calls with
  | none => exact ⟨rfl, hok h⟩
  | some e => exact ⟨rfl, herror (by rw [h]; exact Option.some_ne_none e)⟩

/-- A computation on the configuration. -/
theorem Leads.config {f : Create5gModel → Except PyError α} {Q : α → EdgeState → Prop} (attr : String)
    (hok : ∀ a, f c = .ok a → Q a r) (herror : (∀ a, f c ≠ .ok a) → E r) :
    Leads c (onConfig attr (do let c ← MonadState.get; liftExcept (f c))) r Q E := by
  unfold Leads Meets
  rw [onConfig_run]
  cases h : f c with
  | ok a =>
    simp only [EStateM.run_bind, EStateM.run_get, h]
    exact ⟨rfl, hok a h⟩
  | error e =>
    simp only [EStateM.run_bind, EStateM.run_get, h]
    exact ⟨rfl, herror (fun a ha => by rw [h] at ha; cases ha)⟩

theorem Leads.lift {m : Except PyError α} {Q : α → EdgeState → Prop} (hok : ∀ a, m = .ok a → Q a r)
    (herror : (∀ a, m ≠ .ok a) → E r) : Leads c (liftExcept m) r Q E := by
  cases m with
  | ok a => exact ⟨rfl, hok a rfl⟩
  | error e => exact ⟨rfl, herror (fun a ha => nomatch ha)⟩

theorem Leads.setEdgeAreas {Q : Unit → EdgeState → Prop} (h : Q () { r with edgeAreas := areas }) :
    Leads c (setEdgeAreas areas) r Q E :=
  ⟨rfl, h⟩

theorem Leads.edgeArea {Q : EdgeAreaInfo → EdgeState → Prop}
    (hinfo : KeyedList.toMap EdgeAreaInfo.area r.edgeAreas areaId = some info) (h : Q info r) :
    Leads c (edgeArea areaId) r Q E := by
  apply Leads.seq
  apply Leads.get
  simp only [hinfo]
  exact Leads.pure h

theorem Leads.edgeRouter {Q : Router5GInfo → EdgeState → Prop} (attr : String)
    (hinfo : KeyedList.toMap EdgeAreaInfo.area r.edgeAreas areaId = some info) (hrouter : info.router = some router)
    (h : Q router r) : Leads c (edgeRouter attr areaId) r Q E := by
  apply Leads.seq
  apply Leads.edgeArea hinfo
  simp only [hrouter]
  exact Leads.pure h

theorem Leads.edgeUpf {Q : UPFInfo → EdgeState → Prop} (attr : String)
    (hinfo : KeyedList.toMap EdgeAreaInfo.area r.edgeAreas areaId = some info) (hupf : info.upf = some upf)
    (h : Q upf r) : Leads c (edgeUpf attr areaId) r Q E := by
  apply Leads.seq
  apply Leads.edgeArea hinfo
  simp only [hupf]
  exact Leads.pure h

theorem Leads.assignEdgeArea {Q : Unit → EdgeState → Prop}
    (hinfo : KeyedList.toMap EdgeAreaInfo.area r.edgeAreas areaId = some info)
    (h : Q () { r with edgeAreas := KeyedList.replace EdgeAreaInfo.area r.edgeAreas (f info) }) :
    Leads c (assignEdgeArea areaId f) r Q E := by
  apply Leads.seq
  apply Leads.edgeArea hinfo
  apply Leads.seq
  apply Leads.get
  exact Leads.setEdgeAreas h

theorem Leads.registerChildren {Q : Unit → EdgeState → Prop} (hnew : blueId ∉ r.childrenBlueIds)
    (h : Q () { r with childrenBlueIds := r.childrenBlueIds ++ [blueId] }) :
    Leads c (registerChildren blueId) r Q E := by
  unfold Leads Meets
  simp only [Generic5G.registerChildren, EStateM.run_bind, EStateM.run_get, if_neg hnew]
  exact ⟨rfl, h⟩

theorem Leads.deregisterChildren {Q : Unit → EdgeState → Prop} (hold : blueId ∈ r.childrenBlueIds)
    (h : Q () { r with childrenBlueIds := r.childrenBlueIds.erase blueId }) :
    Leads c (deregisterChildren blueId) r Q E := by
  unfold Leads Meets
  simp only [Generic5G.deregisterChildren, EStateM.run_bind, EStateM.run_get, if_neg (not_not.2 hold)]
  exact ⟨rfl, h⟩

/-- The loop rule: what holds of the rest of the list is carried along. -/
theorem Leads.forM {f : β → EdgeM PUnit} {I : List β → EdgeState → Prop} {xs : List β} (h : I xs r)
    (hstep : ∀ x xs r', I (x :: xs) r' → Leads c (f x) r' (fun _ r'' => I xs r'') E) :
    Leads c (forM xs f) r (fun _ r' => I [] r') E := by
  induction xs generalizing r with
  | nil => exact ⟨rfl, h⟩
  | cons x xs ih =>
    rw [List.forM_cons]
    apply Leads.seq
    apply (hstep x xs r h).mono
    · intro _ r' h'
      exact ih h'
    · exact fun _ h' => h'

/-- The loop rule for an invariant that does not look at the list. -/
theorem Leads.forM_mem {f : β → EdgeM PUnit} {I : EdgeState → Prop} {xs : List β} (h : I r)
    (hstep : ∀ x ∈ xs, ∀ r', I r' → Leads c (f x) r' (fun _ => I) E) :
    Leads c (ForM.forM xs f) r (fun _ => I) E := by
  induction xs generalizing r with
  | nil => exact ⟨rfl, h⟩
  | cons x xs ih =>
    rw [List.forM_cons]
    apply Leads.seq
    apply (hstep x List.mem_cons_self r h).mono
    · intro _ r' h'
      exact ih h' (fun y hy => hstep y (List.mem_cons_of_mem x hy))
    · exact fun _ h' => h'

end Rules

end Generic5G

/-- The routes of a UPF can be written down. -/
def DeployedUPFInfo.Routable (upf : DeployedUPFInfo) : Prop :=
  ∀ dnn ∈ upf.servedSlices.flatMap SliceModel.dnnList, upf.networkInfo ≠ none ∧ dnn.cidr ≠ none

namespace EdgeAreaInfo

/-- The router blueprint of an area, unless the router is external. -/
def routerIds (info : EdgeAreaInfo) : List BlueId :=
  match info.router with
  | none => []
  | some router => if router.external then [] else router.blueId.toList

def upfIds (info : EdgeAreaInfo) : List BlueId :=
  info.upf.toList.map UPFInfo.blueId

def blueIds (info : EdgeAreaInfo) : List BlueId :=
  info.routerIds ++ info.upfIds

/-- The entry has its router and its UPF. -/
structure Whole (info : EdgeAreaInfo) : Prop where
  router : ∃ router, info.router = some router ∧ (router.external = false → router.blueId ≠ none)
  upf : ∃ upf, info.upf = some upf ∧ ∀ u ∈ upf.upfList, u.Routable

end EdgeAreaInfo

namespace EdgeState

/-- Every entry is whole and the children are the blueprints the entries record. -/
structure Sound (r : EdgeState) : Prop where
  keys : KeyedList.Unique EdgeAreaInfo.area r.edgeAreas
  whole : ∀ info ∈ r.edgeAreas, info.Whole
  children : r.childrenBlueIds.Perm (r.edgeAreas.flatMap EdgeAreaInfo.blueIds)
  nodup : r.childrenBlueIds.Nodup
  fresh : ∀ b ∈ r.childrenBlueIds, b < r.calls

/-- Only provider calls were made. -/
def Later (r r' : EdgeState) : Prop :=
  ∃ n, r' = { r with calls := r.calls + n }

theorem Later.refl (r : EdgeState) : r.Later r := ⟨0, rfl⟩

theorem Later.tick (h : EdgeState.Later r r') : r.Later r'.tick := by
  obtain ⟨n, rfl⟩ := h
  exact ⟨n + 1, rfl⟩

theorem Later.trans (h : EdgeState.Later r r') (h' : r'.Later r'') : r.Later r'' := by
  obtain ⟨n, rfl⟩ := h
  obtain ⟨m, rfl⟩ := h'
  exact ⟨n + m, by rw [← Nat.add_assoc]⟩

theorem Later.edgeAreas (h : EdgeState.Later r r') : r'.edgeAreas = r.edgeAreas := by
  obtain ⟨n, rfl⟩ := h
  rfl

theorem Sound.later (h : EdgeState.Sound r) (hl : r.Later r') : r'.Sound := by
  obtain ⟨n, rfl⟩ := hl
  exact ⟨h.keys, h.whole, h.children, h.nodup, fun b hb => Nat.lt_of_lt_of_le (h.fresh b hb) (Nat.le_add_right _ n)⟩

/-- A new area comes with blueprints that were not there before. -/
theorem Sound.append {n : Nat} (h : EdgeState.Sound r)
    (hnew : KeyedList.toMap EdgeAreaInfo.area r.edgeAreas info.area = none) (hwhole : info.Whole)
    (hids : ∀ b ∈ info.blueIds, r.calls ≤ b ∧ b < n) (hnodup : info.blueIds.Nodup) (hn : r.calls ≤ n) :
    EdgeState.Sound { r with
      edgeAreas := r.edgeAreas ++ [info]
      childrenBlueIds := r.childrenBlueIds ++ info.blueIds
      calls := n } where
  keys := h.keys.append hnew
  whole := by
    intro i hi
    rcases List.mem_append.1 hi with hi | hi
    · exact h.whole i hi
    · rw [List.mem_singleton.1 hi]
      exact hwhole
  children := by
    rw [List.flatMap_append, List.flatMap_singleton]
    exact h.children.append_right info.blueIds
  nodup := by
    apply List.Nodup.append h.nodup hnodup
    intro b hold hb
    exact Nat.lt_irrefl b (Nat.lt_of_lt_of_le (h.fresh b hold) (hids b hb).1)
  fresh := by
    intro b hb
    rcases List.mem_append.1 hb with hb | hb
    · exact Nat.lt_of_lt_of_le (h.fresh b hb) hn
    · exact (hids b hb).2

end EdgeState

/-- The calls made while an area is being deployed. -/
def EdgeCall.deploys : EdgeCall → Bool
  | .createRouter _ | .getRouterInfo _ | .createUpf _ _ | .getUpfsInfo _ | .getNrfIp => true
  | _ => false

namespace EdgeProvider

def Deploys (provider : EdgeProvider) (areaId : Int) : Prop :=
  ∀ k n, EdgeCall.deploys k = true → provider.raises k areaId n = none

/-- Every call returns. -/
def Succeeds (provider : EdgeProvider) : Prop :=
  ∀ k areaId n, provider.raises k areaId n = none

/-- The UPFs reported can be routed to. -/
def Routable (provider : EdgeProvider) : Prop :=
  ∀ n, ∀ u ∈ provider.upfsInfo n, u.Routable

end EdgeProvider

namespace Create5gModel

/-- The UPF configuration of an area can be built. -/
structure UpfConfigOk (c : Create5gModel) (areaId : Int) : Prop where
  slices : ∃ slices, c.upfSlices areaId = .ok slices
  networks : ∃ networks, c.upfNetworks areaId = .ok networks

/-- The area can be deployed. -/
structure CanDeploy (c : Create5gModel) (area : SubArea) : Prop where
  upfConfig : c.UpfConfigOk area.id
  upf : area.upf ≠ none
  router : area.networks.externalRouter = none → ∃ model, c.routerModel area.id = .ok model

end Create5gModel

namespace Generic5G

section Deployment

variable {c : Create5gModel} {r : EdgeState} {provider : EdgeProvider}

theorem currentNrfIp_leads (areaId : Int) :
    Leads c (currentNrfIp provider areaId) r (fun _ r' => r.Later r')
      (fun r' => r.Later r' ∧ ¬ ∀ n, provider.raises .getNrfIp areaId n = none) := by
  apply Leads.seq
  apply Leads.get
  by_cases hcore : r.coreDeployed
  · simp only [hcore, if_true]
    apply Leads.seq
    apply Leads.call
    · intro _
      exact Leads.pure (EdgeState.Later.refl r).tick
    · intro hraise
      exact ⟨(EdgeState.Later.refl r).tick, fun h => hraise (h _)⟩
  · simp only [hcore]
    exact Leads.pure (.refl r)

theorem createUpfConfig_leads {areaId : Int}
    (hinfo : KeyedList.toMap EdgeAreaInfo.area r.edgeAreas areaId = some info) (hrouter : info.router = some router) :
    Leads c (createUpfConfig provider areaId) r (fun _ r' => r.Later r' ∧ c.UpfConfigOk areaId)
      (fun r' => r.Later r' ∧ ¬ (c.UpfConfigOk areaId ∧ ∀ n, provider.raises .getNrfIp areaId n = none)) := by
  apply Leads.seq
  apply Leads.config
  · intro slices hslices
    apply Leads.seq
    apply Leads.config
    · intro networks hnetworks
      apply Leads.seq
      apply Leads.edgeRouter _ hinfo hrouter
      apply Leads.seq
      apply (currentNrfIp_leads areaId).mono
      · intro nrfIp r' hlater
        exact Leads.pure ⟨hlater, ⟨slices, hslices⟩, ⟨networks, hnetworks⟩⟩
      · rintro r' ⟨hlater, hraise⟩
        exact ⟨hlater, fun h => hraise h.2⟩
    · intro hnone
      refine ⟨.refl r, fun h => ?_⟩
      obtain ⟨networks, hnetworks⟩ := h.1.networks
      exact hnone networks hnetworks
  · intro hnone
    refine ⟨.refl r, fun h => ?_⟩
    obtain ⟨slices, hslices⟩ := h.1.slices
    exact hnone slices hslices

theorem deployRouter_leads (areaId : Int) (hfresh : ∀ b ∈ r.childrenBlueIds, b < r.calls) :
    Leads c (deployRouterBlueprint provider areaId) r
      (fun router r' => router.external = false ∧ router.blueId = some r.calls ∧
        r' = { r with childrenBlueIds := r.childrenBlueIds ++ [r.calls], calls := r.calls + 2 } ∧
        ∃ model, c.routerModel areaId = .ok model)
      (fun _ => ¬ (provider.Deploys areaId ∧ ∃ model, c.routerModel areaId = .ok model)) := by
  apply Leads.seq
  apply Leads.config
  · intro model hmodel
    apply Leads.seq
    apply Leads.call
    · intro _
      apply Leads.seq
      apply Leads.registerChildren
      · exact fun hmem => Nat.lt_irrefl _ (hfresh _ hmem)
      · apply Leads.seq
        apply Leads.call
        · intro _
          exact Leads.pure ⟨rfl, rfl, rfl, model, hmodel⟩
        · exact fun hraise h => hraise (h.1 _ _ rfl)
    · exact fun hraise h => hraise (h.1 _ _ rfl)
  · intro hnone h
    obtain ⟨model, hmodel⟩ := h.2
    exact hnone model hmodel

theorem getUpfsInfo_leads {areaId : Int} (upfId : BlueId) (config : UPFBlueCreateModel)
    (hinfo : KeyedList.toMap EdgeAreaInfo.area r.edgeAreas areaId = some info) (hrouter : info.router = some router) :
    Leads c (getUpfsInfo provider areaId upfId config) r
      (fun upf r' => r' = r.tick ∧ upf.blueId = upfId ∧ upf.upfList = provider.upfsInfo r.calls)
      (fun r' => r' = r.tick ∧ provider.raises (.getUpfsInfo upfId) areaId r.calls ≠ none) := by
  apply Leads.seq
  apply Leads.call
  · intro _
    apply Leads.seq
    apply Leads.edgeRouter
    · exact hinfo
    · exact hrouter
    · exact Leads.pure ⟨rfl, rfl, rfl⟩
  · exact fun hraise => ⟨rfl, hraise⟩

theorem deployUpf_leads {areaId : Int} (upfType : String)
    (hinfo : KeyedList.toMap EdgeAreaInfo.area r.edgeAreas areaId = some info) (hrouter : info.router = some router)
    (hfresh : ∀ b ∈ r.childrenBlueIds, b < r.calls) :
    Leads c (deployUpfBlueprint provider areaId upfType) r
      (fun upf r' => ∃ b n, r.calls ≤ b ∧ upf.blueId = b ∧ upf.upfList = provider.upfsInfo n ∧
        r' = { r with childrenBlueIds := r.childrenBlueIds ++ [b], calls := b + 2 } ∧ c.UpfConfigOk areaId)
      (fun _ => ¬ (provider.Deploys areaId ∧ c.UpfConfigOk areaId)) := by
  apply Leads.seq
  apply (createUpfConfig_leads hinfo hrouter).mono
  · rintro model r' ⟨⟨n, rfl⟩, hok⟩
    apply Leads.seq
    apply Leads.call
    · intro _
      apply Leads.seq
      apply Leads.registerChildren
      · intro hmem
        exact Nat.lt_irrefl _ (Nat.lt_of_lt_of_le (hfresh _ hmem) (Nat.le_add_right _ n))
      · apply Leads.mono (getUpfsInfo_leads _ _ ?_ hrouter)
        · rintro upf r' ⟨rfl, hid, hlist⟩
          exact ⟨r.calls + n, _, Nat.le_add_right _ n, hid, hlist, rfl, hok⟩
        · exact fun r' hraise h => hraise.2 (h.1 _ _ rfl)
        · exact hinfo
    · exact fun hraise h => hraise (h.1 _ _ rfl)
  · rintro r' ⟨-, hno⟩ h
    exact hno ⟨h.2, fun n => h.1 _ n rfl⟩

/-- The router of a new area, with the blueprint it may have created. -/
theorem areaRouter_leads (area : SubArea) (hfresh : ∀ b ∈ r.childrenBlueIds, b < r.calls) :
    Leads c (areaRouter provider area) r
      (fun router r' => ∃ ids n, ids = (if router.external then [] else router.blueId.toList) ∧
        (router.external = false → router.blueId ≠ none) ∧ ids.Nodup ∧
        (∀ b ∈ ids, r.calls ≤ b ∧ b < r.calls + n) ∧
        r' = { r with childrenBlueIds := r.childrenBlueIds ++ ids, calls := r.calls + n } ∧
        (area.networks.externalRouter = none → ∃ model, c.routerModel area.id = .ok model))
      (fun _ => ¬ (provider.Deploys area.id ∧
        (area.networks.externalRouter = none → ∃ model, c.routerModel area.id = .ok model))) := by
  unfold areaRouter
  cases area.networks.externalRouter with
  | some network =>
    apply Leads.pure
    refine ⟨[], 0, rfl, fun h => (nomatch h), List.nodup_nil, fun b hb => (nomatch hb), ?_, fun h => (nomatch h)⟩
    rw [List.append_nil]
    rfl
  | none =>
    apply (deployRouter_leads area.id hfresh).mono
    · rintro router r' ⟨hexternal, hid, rfl, hmodel⟩
      refine ⟨[r.calls], 2, ?_, ?_, List.nodup_singleton _, ?_, rfl, fun _ => hmodel⟩
      · rw [hexternal, hid]
        rfl
      · intro _
        rw [hid]
        exact Option.some_ne_none _
      · intro b hb
        rw [List.mem_singleton.1 hb]
        exact ⟨Nat.le_refl _, Nat.lt_add_of_pos_right (by decide)⟩
    · exact fun _ hno h => hno ⟨h.1, h.2 rfl⟩

theorem deployArea_leads (area : SubArea) (hsound : r.Sound)
    (hnew : KeyedList.toMap EdgeAreaInfo.area r.edgeAreas area.id = none) (hroutable : provider.Routable) :
    Leads c (deployArea provider area) r
      (fun _ r' => r'.Sound ∧ (∃ info, r'.edgeAreas = r.edgeAreas ++ [info] ∧ info.area = area.id) ∧ c.CanDeploy area)
      (fun _ => ¬ (provider.Deploys area.id ∧ c.CanDeploy area)) := by
  apply Leads.seq
  apply Leads.get
  apply Leads.seq
  apply Leads.setEdgeAreas
  apply Leads.seq
  apply Leads.mono (areaRouter_leads area ?_)
  · rintro router r₁ ⟨ids, n, hids, hblue, hnodup, hrange, rfl, hmodel⟩
    have hfound (info : EdgeAreaInfo) (hi : info.area = area.id) :
        KeyedList.toMap EdgeAreaInfo.area (r.edgeAreas ++ [info]) area.id = some info := by
      rw [← hi] at hnew ⊢
      rw [KeyedList.toMap_append hnew, Function.update_self]
    have hreplace (info info' : EdgeAreaInfo) (hi : info.area = area.id) (hi' : info'.area = area.id) :
        KeyedList.replace EdgeAreaInfo.area (r.edgeAreas ++ [info]) info' = r.edgeAreas ++ [info'] := by
      rw [← hi'] at hnew
      exact KeyedList.replace_append hnew (hi.trans hi'.symm)
    apply Leads.seq
    apply Leads.assignEdgeArea (hfound { area := area.id } rfl)
    simp only [hreplace { area := area.id } { area := area.id, router := some router } rfl rfl]
    cases hupf : area.upf with
    | none =>
      apply Leads.throw
      exact fun h => h.2.upf hupf
    | some upf =>
      apply Leads.seq
      apply Leads.mono (deployUpf_leads upf.type (hfound { area := area.id, router := some router } rfl) rfl ?_)
      · rintro upfInfo r₂ ⟨b, m, hle, hid, hlist, rfl, hok⟩
        apply Leads.assignEdgeArea (hfound { area := area.id, router := some router } rfl)
        simp only [hreplace { area := area.id, router := some router }
          { area := area.id, router := some router, upf := some upfInfo } rfl rfl]
        have hblueIds : EdgeAreaInfo.blueIds { area := area.id, router := some router, upf := some upfInfo } = ids ++ [b] := by
          rw [hids, ← hid]
          rfl
        have hall : ∀ b' ∈ ids ++ [b], r.calls ≤ b' ∧ b' < b + 2 := by
          intro b' hb'
          rcases List.mem_append.1 hb' with hb' | hb'
          · exact ⟨(hrange b' hb').1, Nat.lt_add_right 2 (Nat.lt_of_lt_of_le (hrange b' hb').2 hle)⟩
          · rw [List.mem_singleton.1 hb']
            exact ⟨Nat.le_trans (Nat.le_add_right _ n) hle, Nat.lt_add_of_pos_right (by decide)⟩
        have hdistinct : (ids ++ [b]).Nodup := by
          apply List.Nodup.append hnodup (List.nodup_singleton b)
          intro b' hb' hb
          rw [List.mem_singleton.1 hb] at hb'
          exact Nat.lt_irrefl b (Nat.lt_of_lt_of_le (hrange b hb').2 hle)
        have hwhole : EdgeAreaInfo.Whole { area := area.id, router := some router, upf := some upfInfo } := by
          constructor
          · exact ⟨router, rfl, hblue⟩
          · refine ⟨upfInfo, rfl, ?_⟩
            rw [hlist]
            exact hroutable m
        refine ⟨?_, ⟨_, rfl, rfl⟩, ⟨hok, ?_, hmodel⟩⟩
        · rw [← hblueIds] at hall hdistinct
          have hsound' := hsound.append hnew hwhole hall hdistinct
            (Nat.le_trans (Nat.le_add_right _ n) (Nat.le_add_right_of_le hle))
          rw [hblueIds, ← List.append_assoc] at hsound'
          exact hsound'
        · rw [hupf]
          exact Option.some_ne_none upf
      · exact fun _ hno h => hno ⟨h.1, h.2.upfConfig⟩
      · intro b hb
        rcases List.mem_append.1 hb with hb | hb
        · exact Nat.lt_of_lt_of_le (hsound.fresh b hb) (Nat.le_add_right _ n)
        · exact (hrange b hb).2
  · exact fun _ hno h => hno ⟨h.1, h.2.router⟩
  · exact hsound.fresh

end Deployment

end Generic5G

end Nfvcl
