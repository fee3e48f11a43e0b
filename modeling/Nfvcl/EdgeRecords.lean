import Mathlib.Data.List.Basic
import Nfvcl.EdgeChildren

namespace Nfvcl
set_option autoImplicit true
open Effects KeyedList

/-- A UPF blueprint after its `create`. -/
def UpfMachine.created (machine : UpfMachine υ) (n : Nat) (upfType : String) (model : UPFBlueCreateModel) : UpfChild υ where
  state := (machine.create n upfType model).1
  applied := if (machine.create n upfType model).2.isNone then some model else none

/-- A UPF blueprint after an `update`. -/
def UpfMachine.updated (machine : UpfMachine υ) (n : Nat) (model : UPFBlueCreateModel) (child : UpfChild υ) : UpfChild υ where
  state := (machine.update n model child.state).1
  applied := if (machine.update n model child.state).2.isNone then some model else child.applied

/-- What `_create_upf_config` answers for an area with a router. -/
def EdgeProvider.Computes (provider : EdgeProvider) (c : Create5gModel) (core : Bool) (areaId : Int) (router : Router5GInfo)
    (model : UPFBlueCreateModel) : Prop :=
  ∃ nrfIp, (if core then ∃ n, nrfIp = some (provider.nrfIp n) else nrfIp = none) ∧
    Generic5G.UpfConfigOf c areaId router nrfIp model

theorem EdgeProvider.Computes.areaId_eq {provider : EdgeProvider} {areaId : Int}
    (h : provider.Computes c core areaId router model) : model.areaId = areaId := by
  obtain ⟨nrfIp, -, hmodel⟩ := h
  exact hmodel.areaId_eq

/-- What the record of an area says of its UPF stays true while a configuration is brought to the edge. Only some areas
are deployed, and the first report of a new UPF (the call after its creation) may fail. -/
structure EdgeWorld.Maintains (w : EdgeWorld υ) (c : Create5gModel) (core : Bool) (deploys : SubArea → Prop)
    (rel : Int → UpfChild υ → UPFInfo → Prop) : Prop where
  distinct : ∀ a b child upf upf', rel a child upf → rel b child upf' → a = b
  created : ∀ area upfType router n info, deploys area → area.upf.map SubAreaUPF.type = some upfType →
    w.provider.Computes c core area.id router info.currentConfig →
    info.upfList = w.machine.upfsInfo (w.machine.created n upfType info.currentConfig).state →
    rel area.id (w.machine.created n upfType info.currentConfig) info
  updated : ∀ areaId router n child upf info, rel areaId child upf →
    w.provider.Computes c core areaId router info.currentConfig →
    info.upfList = w.machine.upfsInfo (w.machine.updated n info.currentConfig child).state →
    rel areaId (w.machine.updated n info.currentConfig child) info
  reported : ∀ upf area n, n ≠ upf + 1 → w.provider.raises (.getUpfsInfo upf) area n = none

namespace EdgeNet

variable {υ : Type} {rel : Int → UpfChild υ → UPFInfo → Prop}

/-- A UPF is known to its parent, and is as its record says. -/
def Kept (rel : Int → UpfChild υ → UPFInfo → Prop) (net : EdgeNet υ) (areaId : Int) (upf : UPFInfo) : Prop :=
  upf.blueId ∈ net.childrenBlueIds ∧ ∃ child, net.upfs upf.blueId = some child ∧ rel areaId child upf

/-- What the records of an area are good for. -/
structure Holds (rel : Int → UpfChild υ → UPFInfo → Prop) (net : EdgeNet υ) (areaId : Int) (info : EdgeAreaInfo) : Prop where
  router : ∀ router id, info.router = some router → router.blueId = some id → id < net.calls ∧ net.upfs id = none
  upf : ∀ upf, info.upf = some upf → net.Kept rel areaId upf

structure Recorded (rel : Int → UpfChild υ → UPFInfo → Prop) (net : EdgeNet υ) : Prop where
  unique : Unique EdgeAreaInfo.area net.edgeAreas
  known : ∀ id child, net.upfs id = some child → id < net.calls
  holds : ∀ areaId info, net.entry areaId = some info → net.Holds rel areaId info

theorem Recorded.empty : Recorded rel ({} : EdgeNet υ) :=
  ⟨List.nodup_nil, fun _ _ h => (nomatch h), fun _ _ h => (nomatch h)⟩

/-- What holds of the UPFs as their records say can be exchanged. -/
theorem Recorded.mono {net : EdgeNet υ} {rel' : Int → UpfChild υ → UPFInfo → Prop} (h : net.Recorded rel)
    (hrel : ∀ areaId info upf child, net.entry areaId = some info → info.upf = some upf →
      net.upfs upf.blueId = some child → rel areaId child upf → rel' areaId child upf) : net.Recorded rel' where
  unique := h.unique
  known := h.known
  holds := by
    intro areaId info hinfo
    have hold := h.holds areaId info hinfo
    refine ⟨hold.router, ?_⟩
    intro upf hupf
    obtain ⟨hmem, child, hchild, hkept⟩ := hold.upf upf hupf
    exact ⟨hmem, child, hchild, hrel areaId info upf child hinfo hupf hchild hkept⟩

/-- The records do not depend on whether the core is deployed. -/
theorem Recorded.core {net : EdgeNet υ} (h : net.Recorded rel) (core : Bool) :
    Recorded rel { net with coreDeployed := core } :=
  ⟨h.unique, h.known, fun areaId info hinfo => ⟨(h.holds areaId info hinfo).router, (h.holds areaId info hinfo).upf⟩⟩

section Steps

variable {s s' : Generic5GState (EdgeNet υ)}

theorem Holds.later (hs : SameUpfs s s') (h : s.rest.Holds rel areaId info) : s'.rest.Holds rel areaId info where
  router := by
    intro router id hrouter hid
    obtain ⟨hlt, hnone⟩ := h.router router id hrouter hid
    exact ⟨Nat.lt_of_lt_of_le hlt hs.edges.calls, by rw [hs.upfs]; exact hnone⟩
  upf := by
    intro upf hupf
    obtain ⟨hchild, hkept⟩ := h.upf upf hupf
    exact ⟨hs.edges.children hchild, by rw [hs.upfs]; exact hkept⟩

theorem Recorded.later (hs : SameUpfs s s') (h : s.rest.Recorded rel) : s'.rest.Recorded rel where
  unique := by
    have hedges : s'.rest.edgeAreas = s.rest.edgeAreas := hs.edges.edgeAreas
    rw [hedges]
    exact h.unique
  known := by
    intro id child hchild
    rw [hs.upfs] at hchild
    exact Nat.lt_of_lt_of_le (h.known id child hchild) hs.edges.calls
  holds := by
    intro areaId info hinfo
    have hedges : s'.rest.edgeAreas = s.rest.edgeAreas := hs.edges.edgeAreas
    rw [entry, hedges] at hinfo
    exact (h.holds areaId info hinfo).later hs

/-- An area gets its entry. -/
theorem Recorded.append {net : EdgeNet υ} (h : net.Recorded rel) (hnew : net.entry areaId = none) :
    Recorded rel { net with edgeAreas := net.edgeAreas ++ [{ area := areaId }] } where
  unique := h.unique.append hnew
  known := h.known
  holds := by
    intro id info hinfo
    rw [entry_append rfl hnew, Function.update_apply] at hinfo
    by_cases hid : id = areaId
    · rw [if_pos hid] at hinfo
      cases hinfo
      exact ⟨fun router id h => (nomatch h), fun upf h => (nomatch h)⟩
    · rw [if_neg hid] at hinfo
      have hold := h.holds id info hinfo
      exact ⟨hold.router, hold.upf⟩

/-- The entry of an area is overwritten. -/
theorem Recorded.assign {net : EdgeNet υ} (h : net.Recorded rel) (hinfo : net.entry areaId = some info)
    (harea : info'.area = areaId) (hholds : net.Holds rel areaId info') :
    Recorded rel { net with edgeAreas := replace EdgeAreaInfo.area net.edgeAreas info' } where
  unique := h.unique.replace info'
  known := h.known
  holds := by
    intro id found hfound
    subst harea
    rw [entry_replace rfl (by rw [hinfo]; exact Option.some_ne_none info), Function.update_apply] at hfound
    by_cases hid : id = info'.area
    · rw [if_pos hid] at hfound
      cases hfound
      rw [hid]
      exact ⟨hholds.router, hholds.upf⟩
    · rw [if_neg hid] at hfound
      have hold := h.holds id found hfound
      exact ⟨hold.router, hold.upf⟩

/-- Routers and UPFs of other areas are other blueprints. -/
theorem Recorded.router_ne {net : EdgeNet υ} {id : Int} (h : net.Recorded rel) (hkept : net.Kept rel areaId upf)
    (hfound : net.entry id = some found) (hrouter : found.router = some router) (hid : router.blueId = some routerId) :
    routerId ≠ upf.blueId := by
  rintro rfl
  obtain ⟨-, child, hchild, -⟩ := hkept
  have hnone := ((h.holds id found hfound).router router _ hrouter hid).2
  rw [hchild] at hnone
  cases hnone

/-- An entry does not see what happens to the UPF of another area. -/
theorem Holds.elsewhere {net net' : EdgeNet υ} {id : Int} {upf : UPFInfo}
    (hdistinct : ∀ a b child upf upf', rel a child upf → rel b child upf' → a = b) (h : net.Recorded rel)
    (hkept : net.Kept rel areaId upf)
    (hfound : net.entry id = some found) (hne : id ≠ areaId) (hcalls : net.calls ≤ net'.calls)
    (hchildren : ∀ b ∈ net.childrenBlueIds, b ≠ upf.blueId → b ∈ net'.childrenBlueIds)
    (hupfs : net'.upfs = Function.update net.upfs upf.blueId child) : net'.Holds rel id found where
  router := by
    intro router routerId hrouter hid
    obtain ⟨hlt, hnone⟩ := (h.holds id found hfound).router router routerId hrouter hid
    have hother := h.router_ne hkept hfound hrouter hid
    exact ⟨Nat.lt_of_lt_of_le hlt hcalls, by rw [hupfs, Function.update_of_ne hother]; exact hnone⟩
  upf := by
    intro upf' hupf'
    obtain ⟨hmem', child', hchild', hrel'⟩ := (h.holds id found hfound).upf upf' hupf'
    have hother : upf'.blueId ≠ upf.blueId := by
      intro heq
      obtain ⟨-, own, hown, hrel⟩ := hkept
      rw [heq, hown] at hchild'
      cases hchild'
      exact hne (hdistinct _ _ _ _ _ hrel' hrel)
    exact ⟨hchildren _ hmem' hother, child', by rw [hupfs, Function.update_of_ne hother]; exact hchild', hrel'⟩

/-- The UPF of an area took a new configuration, which its entry then records. -/
theorem Recorded.refreshed (hdistinct : ∀ a b child upf upf', rel a child upf → rel b child upf' → a = b)
    (h : s.rest.Recorded rel) (hinfo : s.rest.entry areaId = some info) (hupf : info.upf = some upf)
    (hedges : Generic5G.SameEdges (parent s) (parent s'))
    (hupfs : s'.rest.upfs = Function.update s.rest.upfs upf.blueId (some child))
    (hid : upf'.blueId = upf.blueId) (hrel : rel areaId child upf') :
    Recorded rel { s'.rest with edgeAreas := replace EdgeAreaInfo.area s'.rest.edgeAreas { info with upf := some upf' } } := by
  have hkept := (h.holds areaId info hinfo).upf upf hupf
  have hareas : s'.rest.edgeAreas = s.rest.edgeAreas := hedges.edgeAreas
  have hcalls : s.rest.calls ≤ s'.rest.calls := hedges.calls
  have hkey : info.area = areaId := toMap_some_key hinfo
  constructor
  · change Unique EdgeAreaInfo.area (replace EdgeAreaInfo.area s'.rest.edgeAreas _)
    rw [hareas]
    exact h.unique.replace _
  · intro id found hfound
    change s'.rest.upfs id = some found at hfound
    rw [hupfs, Function.update_apply] at hfound
    obtain ⟨-, old, hold, -⟩ := hkept
    by_cases hsame : id = upf.blueId
    · subst hsame
      exact Nat.lt_of_lt_of_le (h.known _ _ hold) hcalls
    · rw [if_neg hsame] at hfound
      exact Nat.lt_of_lt_of_le (h.known _ _ hfound) hcalls
  · intro id found hfound
    have hsome : s.rest.entry ({ info with upf := some upf' } : EdgeAreaInfo).area ≠ none := by
      change s.rest.entry info.area ≠ none
      rw [hkey, hinfo]
      exact Option.some_ne_none info
    have hreplace : replace EdgeAreaInfo.area s'.rest.edgeAreas { info with upf := some upf' } =
        replace EdgeAreaInfo.area s.rest.edgeAreas { info with upf := some upf' } := by rw [hareas]
    rw [entry_replace hreplace hsome, hkey, Function.update_apply] at hfound
    by_cases harea' : id = areaId
    · rw [if_pos harea'] at hfound
      cases hfound
      subst harea'
      constructor
      · intro router routerId hrouter hrouterId
        obtain ⟨hlt, hnone⟩ := (h.holds id info hinfo).router router routerId hrouter hrouterId
        have hother := h.router_ne hkept hinfo hrouter hrouterId
        refine ⟨Nat.lt_of_lt_of_le hlt hcalls, ?_⟩
        change s'.rest.upfs routerId = none
        rw [hupfs, Function.update_of_ne hother]
        exact hnone
      · rintro _ ⟨⟩
        refine ⟨?_, child, ?_, hrel⟩
        · rw [hid]
          exact hedges.children hkept.1
        · change s'.rest.upfs upf'.blueId = some child
          rw [hupfs, hid, Function.update_self]
    · rw [if_neg harea'] at hfound
      exact Holds.elsewhere hdistinct h hkept hfound harea' hcalls (fun b hb _ => hedges.children hb) hupfs

/-- An area is gone with its UPF. -/
theorem Recorded.removed {net : EdgeNet υ} (hdistinct : ∀ a b child upf upf', rel a child upf → rel b child upf' → a = b)
    (h : net.Recorded rel) (hinfo : net.entry areaId = some info) (hupf : info.upf = some upf) :
    Recorded rel { net with
      upfs := Function.update net.upfs upf.blueId none
      childrenBlueIds := net.childrenBlueIds.erase upf.blueId
      edgeAreas := KeyedList.erase EdgeAreaInfo.area net.edgeAreas areaId } := by
  have hkept := (h.holds areaId info hinfo).upf upf hupf
  constructor
  · exact h.unique.erase areaId
  · intro id child hchild
    change Function.update net.upfs upf.blueId none id = some child at hchild
    rw [Function.update_apply] at hchild
    split at hchild
    · cases hchild
    · exact h.known id child hchild
  · intro id found hfound
    rw [entry_erase rfl h.unique, Function.update_apply] at hfound
    split at hfound
    · cases hfound
    · rename_i hne
      exact Holds.elsewhere hdistinct h hkept hfound hne (Nat.le_refl _)
        (fun b hb hother => (List.mem_erase_of_ne hother).2 hb) rfl

/-- A router is gone. -/
theorem Recorded.dropped {net : EdgeNet υ} {id : BlueId} (h : net.Recorded rel) (hnone : net.upfs id = none) :
    Recorded rel { net with childrenBlueIds := net.childrenBlueIds.erase id } where
  unique := h.unique
  known := h.known
  holds := by
    intro areaId info hinfo
    have hold := h.holds areaId info hinfo
    refine ⟨hold.router, ?_⟩
    intro upf hupf
    obtain ⟨hmem, child, hchild, hrel⟩ := hold.upf upf hupf
    refine ⟨(List.mem_erase_of_ne ?_).2 hmem, child, hchild, hrel⟩
    rintro rfl
    rw [hnone] at hchild
    cases hchild

/-- A UPF blueprint is created, with the number of the call as its id. -/
theorem Recorded.created (h : s.rest.Recorded rel) (hedges : Generic5G.SameEdges (parent s) (parent s'))
    (hcalls : s.rest.calls < s'.rest.calls) (hupfs : s'.rest.upfs = Function.update s.rest.upfs s.rest.calls (some child)) :
    s'.rest.Recorded rel := by
  have hareas : s'.rest.edgeAreas = s.rest.edgeAreas := hedges.edgeAreas
  constructor
  · rw [hareas]
    exact h.unique
  · intro id found hfound
    rw [hupfs, Function.update_apply] at hfound
    split at hfound
    · rename_i heq
      rw [heq]
      exact hcalls
    · exact Nat.lt_trans (h.known id found hfound) hcalls
  · intro areaId info hinfo
    unfold entry at hinfo
    rw [hareas] at hinfo
    have hold := h.holds areaId info hinfo
    constructor
    · intro router id hrouter hid
      obtain ⟨hlt, hnone⟩ := hold.router router id hrouter hid
      refine ⟨Nat.lt_trans hlt hcalls, ?_⟩
      rw [hupfs, Function.update_of_ne (Nat.ne_of_lt hlt)]
      exact hnone
    · intro upf hupf
      obtain ⟨hmem, old, hold, hrel⟩ := hold.upf upf hupf
      refine ⟨hedges.children hmem, old, ?_, hrel⟩
      rw [hupfs, Function.update_of_ne (Nat.ne_of_lt (h.known _ _ hold))]
      exact hold

end Steps

/-- A configuration is being brought to the edge. -/
structure Standing (rel : Int → UpfChild υ → UPFInfo → Prop) (c : Create5gModel) (core : Bool)
    (s : Generic5GState (EdgeNet υ)) : Prop where
  config : s.currentConfig = some c
  core : s.rest.coreDeployed = core
  records : s.rest.Recorded rel

/-- The record of an area is the configuration `_create_upf_config` has for it. -/
def Settled (provider : EdgeProvider) (c : Create5gModel) (core : Bool) (areaId : Int) (net : EdgeNet υ) : Prop :=
  ∃ info router upf, net.entry areaId = some info ∧ info.router = some router ∧ info.upf = some upf ∧
    provider.Computes c core areaId router upf.currentConfig

/-- One area was brought up to date. -/
structure Refreshed (provider : EdgeProvider) (c : Create5gModel) (core : Bool) (areaId : Int)
    (s s' : Generic5GState (EdgeNet υ)) : Prop where
  settled : s'.rest.Settled provider c core areaId
  others : ∀ b, b ≠ areaId → s'.rest.entry b = s.rest.entry b

section Programs

variable {w : EdgeWorld υ} {c : Create5gModel} {core : Bool} {deploys : SubArea → Prop} {s s' : Generic5GState (EdgeNet υ)}

theorem Settled.of_entry {net net' : EdgeNet υ} (h : net.Settled provider c core areaId)
    (hentry : net'.entry areaId = net.entry areaId) : net'.Settled provider c core areaId := by
  obtain ⟨info, router, upf, hinfo, hrest⟩ := h
  exact ⟨info, router, upf, hentry.trans hinfo, hrest⟩

theorem Settled.ne_none {net : EdgeNet υ} (h : net.Settled provider c core areaId) : net.entry areaId ≠ none := by
  obtain ⟨info, -, -, hinfo, -⟩ := h
  rw [hinfo]
  exact Option.some_ne_none info

theorem entry_assign {net net' : EdgeNet υ} (h : net'.edgeAreas = replace EdgeAreaInfo.area net.edgeAreas info')
    (hinfo : net.entry areaId = some info) (hkey : info'.area = areaId) :
    net'.entry areaId = some info' ∧ ∀ b, b ≠ areaId → net'.entry b = net.entry b := by
  subst hkey
  have hentry := entry_replace h (by rw [hinfo]; exact Option.some_ne_none info)
  rw [hentry]
  exact ⟨Function.update_self _ _ _, fun b hb => Function.update_of_ne hb _ _⟩

theorem createUpf_eq (id : BlueId) (upfType : String) (model : UPFBlueCreateModel) :
    createUpf w id upfType model = setUpf id (some (w.machine.created id upfType model)) := rfl

theorem updateUpf_eq (n : Nat) (id : BlueId) (model : UPFBlueCreateModel) :
    updateUpf w n id model = (do let child ← upfChild id; setUpf id (some (w.machine.updated n model child))) := rfl

theorem Standing.later (hs : SameUpfs s s') (h : Standing rel c core s) : Standing rel c core s' :=
  ⟨hs.edges.config.trans h.config, hs.edges.coreDeployed.trans h.core, h.records.later hs⟩

theorem Standing.same (hs : SameNet s s') (h : Standing rel c core s) : Standing rel c core s' :=
  h.later (.of_net hs)

theorem Standing.edges (h : Standing rel c core s) (hs : Generic5G.SameEdges (parent s) t) :
    Standing rel c core (setParent t s) :=
  h.same (.of_edges hs)

/-- `_create_upf_config` answers for the router of the area. -/
theorem createUpfConfig_computes (areaId : Int) (h : Standing rel c core s) :
    Meets (Generic5G.createUpfConfig w.provider areaId) (parent s)
      (fun model t => (∃ info router, s.rest.entry areaId = some info ∧ info.router = some router ∧
        w.provider.Computes c core areaId router model) ∧ Generic5G.SameEdges (parent s) t)
      (fun _ t => Generic5G.SameEdges (parent s) t) := by
  apply (Generic5G.createUpfConfig_meets w.provider areaId (parent s)).mono
  · rintro model t ⟨⟨c', info, router, nrfIp, hc', hinfo, hrouter, hnrf, hmodel⟩, ht⟩
    have hconfig : (parent s).currentConfig = some c := h.config
    cases hc'.symm.trans hconfig
    have hcore : (parent s).rest.coreDeployed = core := h.core
    rw [hcore] at hnrf
    exact ⟨⟨info, router, hinfo, hrouter, nrfIp, hnrf, hmodel⟩, ht⟩
  · exact fun _ _ ht => ht

theorem deployUpfBlueprint_meets (areaId : Int) (upfType : String)
    (hcreated : ∀ router n info, w.provider.Computes c core areaId router info.currentConfig →
      info.upfList = w.machine.upfsInfo (w.machine.created n upfType info.currentConfig).state →
      rel areaId (w.machine.created n upfType info.currentConfig) info)
    (h : Standing rel c core s) :
    Meets (deployUpfBlueprint w areaId upfType) s
      (fun upf s' => Standing rel c core s' ∧ s'.rest.Kept rel areaId upf ∧ s'.rest.edgeAreas = s.rest.edgeAreas ∧
        ∃ info router, s.rest.entry areaId = some info ∧ info.router = some router ∧
          w.provider.Computes c core areaId router upf.currentConfig)
      (fun _ s' => Standing rel c core s') := by
  unfold deployUpfBlueprint
  apply meets_onParent_bind (createUpfConfig_computes areaId h)
  · rintro config s₁ ⟨info, router, hinfo, hrouter, hconfig⟩ hs₁
    have h₁ := h.same hs₁
    rw [meets_bind, meets_onParent]
    apply (Generic5G.call_meets w.provider (.createUpf upfType config) areaId (parent s₁)).mono
    · rintro n t₂ ⟨⟨rfl, hcalls, -⟩, ht₂⟩
      rw [meets_bind, createUpf_eq]
      unfold setUpf
      rw [meets_modify]
      have hgrows : ∀ t, Generic5G.SameEdges t₂ t → s₁.rest.calls < t.rest.calls := by
        intro t ht
        exact Nat.lt_of_lt_of_le (Nat.lt_of_lt_of_eq (Nat.lt_succ_self _) hcalls.symm) ht.calls
      apply meets_onParent_bind (Generic5G.registerChildren_meets _ _)
      · rintro _ s₃ ⟨hmem, -⟩ hs₃
        have hchild : s₃.rest.upfs s₁.rest.calls = some (w.machine.created s₁.rest.calls upfType config) := by
          rw [hs₃.upfs]
          exact Function.update_self _ _ _
        have hedges : Generic5G.SameEdges (parent s₁) (parent s₃) := ht₂.trans hs₃.edges
        have h₃ : Standing rel c core s₃ :=
          ⟨hedges.config.trans h₁.config, hedges.coreDeployed.trans h₁.core,
            h₁.records.created hedges (hgrows _ hs₃.edges) hs₃.upfs⟩
        apply (getUpfsInfo_meets w areaId _ config _).mono
        · rintro upf s₄ ⟨⟨hid, rfl, hlist⟩, hs₄⟩
          refine ⟨h₃.same hs₄, ⟨?_, ?_⟩, ?_, info, router, hinfo, hrouter, hconfig⟩
          · rw [hid]
            exact hs₄.edges.children hmem
          · rw [hid, hs₄.upfs]
            exact ⟨_, hchild, hcreated router _ upf hconfig (hlist _ hchild)⟩
          · exact (hs₄.edges.edgeAreas.trans hedges.edgeAreas).trans hs₁.edges.edgeAreas
        · rintro _ s₄ ⟨-, hs₄⟩
          exact h₃.same hs₄
      · intro _ t₃ ht₃
        exact ⟨(ht₂.trans ht₃).config.trans h₁.config, (ht₂.trans ht₃).coreDeployed.trans h₁.core,
          h₁.records.created (ht₂.trans ht₃) (hgrows t₃ ht₃) rfl⟩
    · rintro _ t₂ ⟨-, ht₂⟩
      exact h₁.edges ht₂
  · exact fun _ t ht => h.edges ht

/-- The configuration is recorded once the UPF has applied it. -/
theorem refreshArea_meets (hw : w.Maintains c core deploys rel) (areaId : Int) (h : Standing rel c core s) :
    Meets (refreshArea w areaId) s
      (fun _ s' => Standing rel c core s' ∧ Refreshed w.provider c core areaId s s') (fun _ s' => Standing rel c core s') := by
  unfold refreshArea
  apply meets_onParent_bind (createUpfConfig_computes areaId h)
  · rintro config s₁ ⟨info, router, hinfo, hrouter, hconfig⟩ hs₁
    have h₁ := h.same hs₁
    have hinfo₁ : s₁.rest.entry areaId = some info := (entry_eq hs₁ areaId).trans hinfo
    rw [meets_bind, meets_onParent]
    apply (Generic5G.edgeUpf_meets _ areaId (parent s₁)).mono
    · rintro upf _ ⟨⟨info', hinfo', hupf⟩, rfl⟩
      cases hinfo₁.symm.trans hinfo'
      change Meets _ s₁ _ _
      split
      · obtain ⟨-, child, hchild, hrel⟩ := (h₁.records.holds areaId info hinfo₁).upf upf hupf
        have hknown := h₁.records.known _ _ hchild
        apply meets_onParent_bind (Generic5G.call_meets w.provider (.updateUpf upf.blueId config) areaId (parent s₁))
        · rintro n s₂ ⟨rfl, hcalls, -⟩ hs₂
          rw [updateUpf_eq]
          unfold upfChild
          rw [meets_bind, meets_bind, meets_bind, meets_get, hs₂.upfs, hchild]
          simp only [meets_pure]
          unfold setUpf
          rw [meets_modify, meets_bind]
          apply (getUpfsInfo_meets w areaId upf.blueId config _).mono
          · rintro upf' s₃ ⟨⟨hid, rfl, hlist⟩, hs₃⟩
            have hedges : Generic5G.SameEdges (parent s₁) (parent s₃) := hs₂.edges.trans hs₃.edges
            have hinfo₃ : toMap EdgeAreaInfo.area (parent s₃).rest.edgeAreas areaId = some info := by
              rw [hedges.edgeAreas]
              exact hinfo₁
            rw [meets_onParent]
            apply (Generic5G.assignEdgeArea_meets areaId _ (parent s₃)).mono
            · rintro _ _ ⟨info', hinfo', rfl⟩
              cases hinfo₃.symm.trans hinfo'
              have hkey : info.area = areaId := toMap_some_key hinfo₃
              have hentry := entry_assign
                (show (setParent { parent s₃ with rest := { (parent s₃).rest with
                  edgeAreas := replace EdgeAreaInfo.area (parent s₃).rest.edgeAreas { info with upf := some upf' } } } s₃).rest.edgeAreas =
                  replace EdgeAreaInfo.area s₃.rest.edgeAreas { info with upf := some upf' } from rfl) hinfo₃ hkey
              refine ⟨⟨hedges.config.trans h₁.config, hedges.coreDeployed.trans h₁.core, ?_⟩, ?_, ?_⟩
              · apply h₁.records.refreshed hw.distinct hinfo₁ hupf hedges
                · rw [hs₃.upfs, hs₂.upfs]
                · exact hid
                · exact hw.updated areaId router _ child upf upf' hrel hconfig (hlist _ (Function.update_self _ _ _))
              · exact ⟨_, router, upf', hentry.1, hrouter, rfl, hconfig⟩
              · intro b hb
                have hsame : s₃.rest.entry b = s.rest.entry b :=
                  congrArg (fun areas => toMap EdgeAreaInfo.area areas b) (hedges.edgeAreas.trans hs₁.edges.edgeAreas)
                exact (hentry.2 b hb).trans hsame
            · rintro _ _ ⟨hnone, -⟩
              rw [hinfo₃] at hnone
              cases hnone
          · rintro _ s₃ ⟨hraises, -⟩
            have hlate : s₂.rest.calls ≠ upf.blueId + 1 := by
              have hcalls' : s₂.rest.calls = s₁.rest.calls + 1 := hcalls
              have hlt : (upf.blueId : Nat) < s₁.rest.calls := hknown
              rw [hcalls']
              exact fun heq => Nat.ne_of_gt hlt (Nat.succ.inj heq)
            have hnone := hraises (hw.reported upf.blueId areaId _ hlate)
              (ne_of_eq_of_ne (Function.update_self _ _ _) (Option.some_ne_none _)) info ((entry_eq hs₂ areaId).trans hinfo₁)
            rw [hrouter] at hnone
            cases hnone
        · exact fun _ t ht => h₁.edges ht.2
      · rename_i hsame
        refine ⟨h₁, ⟨info, router, upf, hinfo₁, hrouter, hupf, ?_⟩, fun b _ => entry_eq hs₁ b⟩
        rw [not_not.1 hsame]
        exact hconfig
    · rintro _ _ rfl
      exact h₁
  · exact fun _ t ht => h.edges ht

theorem areaRouter_meets (area : SubArea) :
    Meets (areaRouter w area) s
      (fun router s' => (∀ id, router.blueId = some id → s.rest.calls ≤ id ∧ id < s'.rest.calls) ∧ SameUpfs s s')
      (fun _ s' => SameUpfs s s') := by
  unfold areaRouter
  apply meets_onParent_bind (Generic5G.areaRouter_meets w.provider area _)
  · rintro router s₂ ⟨-, hrouter⟩ hs₂
    cases hid : router.blueId with
    | none => exact ⟨fun id h => hrouter id (hid ▸ h), .of_net hs₂⟩
    | some id => exact ⟨fun id' h => hrouter id' (hid ▸ h), hs₂.edges, hs₂.upfs⟩
  · exact fun _ t ht => ⟨ht, rfl⟩

theorem deployArea_meets (hw : w.Maintains c core deploys rel) (area : SubArea) (hdeploys : deploys area)
    (h : Standing rel c core s) (hnew : s.rest.entry area.id = none) :
    Meets (deployArea w area) s
      (fun _ s' => Standing rel c core s' ∧ Refreshed w.provider c core area.id s s') (fun _ s' => Standing rel c core s') := by
  unfold deployArea
  rw [meets_bind, meets_onParent, meets_bind, meets_get]
  have h₁ : Standing rel c core ⟨s.currentConfig, { s.rest with edgeAreas := s.rest.edgeAreas ++ [{ area := area.id }] }⟩ :=
    ⟨h.config, h.core, h.records.append hnew⟩
  have hentry₁ := entry_append
    (show ({ s.rest with edgeAreas := s.rest.edgeAreas ++ [{ area := area.id }] } : EdgeNet υ).edgeAreas =
      s.rest.edgeAreas ++ [{ area := area.id }] from rfl) hnew
  change Meets _ (⟨s.currentConfig, { s.rest with edgeAreas := s.rest.edgeAreas ++ [{ area := area.id }] }⟩ :
    Generic5GState (EdgeNet υ)) _ _
  rw [meets_bind]
  apply (areaRouter_meets area).mono
  · rintro router s₂ ⟨hrouter, hs₂⟩
    have h₂ := h₁.later hs₂
    have hentry₂ : s₂.rest.entry = Function.update s.rest.entry area.id (some { area := area.id }) := by
      rw [← hentry₁]
      exact congrArg (toMap EdgeAreaInfo.area) hs₂.edges.edgeAreas
    rw [meets_bind, meets_onParent]
    apply (Generic5G.assignEdgeArea_meets area.id _ (parent s₂)).mono
    · rintro _ _ ⟨info, hinfo, rfl⟩
      have hfirst := (congrFun hentry₂ area.id).trans (Function.update_self _ _ _)
      cases hfirst.symm.trans hinfo
      set s₃ := setParent _ s₂ with hs₃
      have hentry₃ := entry_assign (show s₃.rest.edgeAreas = replace EdgeAreaInfo.area s₂.rest.edgeAreas _ from rfl) hfirst rfl
      have h₃ : Standing rel c core s₃ := by
        refine ⟨h₂.config, h₂.core, ?_⟩
        apply h₂.records.assign hfirst
        · rfl
        constructor
        · rintro router' id ⟨⟩ hid
          obtain ⟨hle, hlt⟩ := hrouter id hid
          refine ⟨hlt, ?_⟩
          rw [hs₂.upfs]
          cases hchild : s.rest.upfs id with
          | none => rfl
          | some child => exact absurd (h.records.known id child hchild) (Nat.not_lt.2 hle)
        · rintro upf ⟨⟩
      cases hupf : area.upf with
      | none => exact h₃
      | some upf =>
        rw [meets_bind]
        apply (deployUpfBlueprint_meets area.id upf.type
          (fun router n info => hw.created area upf.type router n info hdeploys (by rw [hupf]; rfl)) h₃).mono
        · rintro upfInfo s₄ ⟨h₄, hkept, hareas, info', router', hinfo', hrouter', hcomputes⟩
          cases hentry₃.1.symm.trans hinfo'
          cases hrouter'
          have hfirst₄ := (congrArg (fun areas => toMap EdgeAreaInfo.area areas area.id) hareas).trans hentry₃.1
          rw [meets_onParent]
          apply (Generic5G.assignEdgeArea_meets area.id _ (parent s₄)).mono
          · rintro _ _ ⟨info₄, hinfo₄, rfl⟩
            cases hfirst₄.symm.trans hinfo₄
            set s₅ := setParent _ s₄ with hs₅
            have hentry₅ := entry_assign (show s₅.rest.edgeAreas = replace EdgeAreaInfo.area s₄.rest.edgeAreas _ from rfl) hfirst₄ rfl
            refine ⟨⟨h₄.config, h₄.core, ?_⟩, ⟨_, router, upfInfo, hentry₅.1, rfl, rfl, hcomputes⟩, ?_⟩
            · apply h₄.records.assign hfirst₄
              · rfl
              constructor
              · exact (h₄.records.holds area.id _ hfirst₄).router
              · rintro _ ⟨⟩
                exact hkept
            · intro b hb
              have hsame : s₄.rest.entry b = s₃.rest.entry b :=
                congrArg (fun areas => toMap EdgeAreaInfo.area areas b) hareas
              rw [hentry₅.2 b hb, hsame, hentry₃.2 b hb, hentry₂, Function.update_of_ne hb]
          · rintro _ _ ⟨-, rfl⟩
            exact h₄
        · exact fun _ _ h₄ => h₄
    · rintro _ _ ⟨-, rfl⟩
      exact h₂
  · exact fun _ _ hs₂ => h₁.later hs₂

theorem deployOrRefresh_meets (hw : w.Maintains c core deploys rel) (area : SubArea)
    (hdeploys : s.rest.entry area.id = none → deploys area) (h : Standing rel c core s) :
    Meets (deployOrRefresh w area) s
      (fun _ s' => Standing rel c core s' ∧ Refreshed w.provider c core area.id s s') (fun _ s' => Standing rel c core s') := by
  unfold deployOrRefresh
  rw [meets_bind, meets_get]
  split
  · rename_i hnew
    have hnone := Option.isNone_iff_eq_none.1 hnew
    exact deployArea_meets hw area (hdeploys hnone) h hnone
  · exact refreshArea_meets hw area.id h

theorem addRouteToRouter_meets (areaId : Int) (cidr : Option String) (nexthop : IPv4Address) :
    Meets (addRouteToRouter w areaId cidr nexthop) s (fun _ s' => SameUpfs s s') (fun _ s' => SameUpfs s s') := by
  unfold addRouteToRouter
  rw [meets_bind, meets_onParent]
  apply (Generic5G.edgeRouter_meets _ areaId (parent s)).mono
  · rintro router _ ⟨-, rfl⟩
    change Meets _ s _ _
    split
    · exact .of_net (.refl s)
    · rw [meets_bind, meets_onParent]
      apply (Generic5G.lift_meets _ (parent s)).mono
      · rintro cidr' _ ⟨-, rfl⟩
        change Meets _ s _ _
        apply meets_onParent_bind (Generic5G.call_meets w.provider _ areaId (parent s))
        · rintro n s₁ - hs₁
          unfold addRoutes
          rw [meets_bind, meets_get]
          cases router.blueId with
          | none => exact .of_net hs₁
          | some id => exact ⟨hs₁.edges, hs₁.upfs⟩
        · exact fun _ t ht => ⟨ht.2, rfl⟩
      · rintro _ _ ⟨-, rfl⟩
        exact .of_net (.refl s)
  · rintro _ _ ⟨-, rfl⟩
    exact .of_net (.refl s)

theorem SameUpfs.trans {s'' : Generic5GState (EdgeNet υ)} (h : SameUpfs s s') (h' : SameUpfs s' s'') : SameUpfs s s'' :=
  ⟨h.edges.trans h'.edges, h'.upfs.trans h.upfs⟩

theorem routeUpf_meets (areaId : Int) (upf : DeployedUPFInfo) :
    Meets (routeUpf w areaId upf) s (fun _ s' => SameUpfs s s') (fun _ s' => SameUpfs s s') := by
  apply Meets.forM (s := s) (I := fun s' => SameUpfs s s') _ (.of_net (.refl s))
  intro dnn _ s₁ h₁
  cases upf.networkInfo with
  | none => exact h₁
  | some network =>
    exact (addRouteToRouter_meets areaId dnn.cidr network.n6Ip).mono (fun _ _ hs => h₁.trans hs) (fun _ _ hs => h₁.trans hs)

theorem updateArea_meets (hw : w.Maintains c core deploys rel) (area : SubArea)
    (hdeploys : s.rest.entry area.id = none → deploys area) (h : Standing rel c core s) :
    Meets (updateArea w area) s
      (fun _ s' => Standing rel c core s' ∧ Refreshed w.provider c core area.id s s') (fun _ s' => Standing rel c core s') := by
  unfold updateArea
  apply (deployOrRefresh_meets hw area hdeploys h).bind
  rintro _ s₁ ⟨h₁, hrefreshed⟩
  rw [meets_bind, meets_onParent]
  apply (Generic5G.edgeUpf_meets _ area.id (parent s₁)).mono
  · rintro upf _ ⟨-, rfl⟩
    have hroutes : Meets (forM upf.upfList (routeUpf w area.id)) s₁ (fun _ s' => SameUpfs s₁ s') (fun _ s' => SameUpfs s₁ s') := by
      apply Meets.forM (s := s₁) (I := fun s' => SameUpfs s₁ s') _ (.of_net (.refl s₁))
      intro deployed _ s₂ h₂
      exact (routeUpf_meets area.id deployed).mono (fun _ _ hs => h₂.trans hs) (fun _ _ hs => h₂.trans hs)
    apply hroutes.mono
    · intro _ s₂ hs₂
      have hentry : ∀ b, s₂.rest.entry b = s₁.rest.entry b :=
        fun b => congrArg (fun areas => toMap EdgeAreaInfo.area areas b) hs₂.edges.edgeAreas
      refine ⟨h₁.later hs₂, hrefreshed.settled.of_entry (hentry area.id), ?_⟩
      exact fun b hb => (hentry b).trans (hrefreshed.others b hb)
    · exact fun _ s₂ hs₂ => h₁.later hs₂
  · rintro _ _ rfl
    exact h₁

/-- The loop over the areas of the configuration. -/
theorem updateAreas_meets (hw : w.Maintains c core deploys rel) (areas : List SubArea)
    (hdeploys : ∀ area ∈ areas, s.rest.entry area.id = none → deploys area) (h : Standing rel c core s) :
    Meets (forM areas (updateArea w)) s
      (fun _ s' => Standing rel c core s' ∧ (∀ a, s.rest.Settled w.provider c core a → s'.rest.Settled w.provider c core a) ∧
        ∀ area ∈ areas, s'.rest.Settled w.provider c core area.id)
      (fun _ s' => Standing rel c core s') := by
  induction areas generalizing s with
  | nil => exact ⟨h, fun _ hs => hs, fun _ harea => (nomatch harea)⟩
  | cons area areas ih =>
    rw [List.forM_cons]
    apply (updateArea_meets hw area (hdeploys area List.mem_cons_self) h).bind
    rintro _ s₁ ⟨h₁, hrefreshed⟩
    have hkept : ∀ a, s.rest.Settled w.provider c core a → s₁.rest.Settled w.provider c core a := by
      intro a ha
      by_cases haa : a = area.id
      · rw [haa]
        exact hrefreshed.settled
      · exact ha.of_entry (hrefreshed.others a haa)
    have hdeploys₁ : ∀ area' ∈ areas, s₁.rest.entry area'.id = none → deploys area' := by
      intro area' harea' hnone
      by_cases heq : area'.id = area.id
      · rw [heq] at hnone
        exact (hrefreshed.settled.ne_none hnone).elim
      · rw [hrefreshed.others _ heq] at hnone
        exact hdeploys area' (List.mem_cons_of_mem area harea') hnone
    apply (ih hdeploys₁ h₁).mono
    · rintro _ s₂ ⟨h₂, hlater, hall⟩
      refine ⟨h₂, fun a ha => hlater a (hkept a ha), ?_⟩
      intro area' harea'
      rcases List.mem_cons.1 harea' with rfl | hrest
      · exact hlater _ hrefreshed.settled
      · exact hall area' hrest
    · exact fun _ _ h₂ => h₂

theorem undeployOwnRouter_meets (areaId : Int) (h : Standing rel c core s) :
    Meets (undeployOwnRouter w areaId) s
      (fun _ s' => Standing rel c core s' ∧ s'.rest.edgeAreas = s.rest.edgeAreas) (fun _ s' => Standing rel c core s') := by
  unfold undeployOwnRouter
  rw [meets_bind, meets_onParent]
  apply (Generic5G.edgeRouter_meets _ areaId (parent s)).mono
  · rintro router _ ⟨-, rfl⟩
    change Meets _ s _ _
    split
    · exact ⟨h, rfl⟩
    · rw [meets_bind, meets_onParent]
      apply (Generic5G.undeployRouterBlueprint_meets w.provider areaId (parent s)).mono
      · rintro _ _ ⟨t, info, router', id, hinfo, hrouter, hid, ht, rfl⟩
        have h₁ := h.edges ht
        have hnone := ((h.records.holds areaId info hinfo).router router' id hrouter hid).2
        have h₂ : Recorded rel { (setParent t s).rest with childrenBlueIds := t.rest.childrenBlueIds.erase id } :=
          h₁.records.dropped hnone
        cases router.blueId with
        | none => exact ⟨⟨h₁.config, h₁.core, h₂⟩, ht.edgeAreas⟩
        | some id' =>
          refine ⟨⟨h₁.config, h₁.core, h₂.unique, h₂.known, ?_⟩, ht.edgeAreas⟩
          exact fun a i hi => ⟨(h₂.holds a i hi).router, (h₂.holds a i hi).upf⟩
      · exact fun _ t ht => h.edges ht
  · rintro _ _ ⟨-, rfl⟩
    exact h

theorem deleteArea_meets (hdistinct : ∀ a b child upf upf', rel a child upf → rel b child upf' → a = b) (areaId : Int)
    (h : Standing rel c core s) :
    Meets (deleteArea w areaId) s
      (fun _ s' => Standing rel c core s' ∧ s'.rest.entry = Function.update s.rest.entry areaId none)
      (fun _ s' => Standing rel c core s') := by
  unfold deleteArea undeployUpfBlueprint
  apply (undeployOwnRouter_meets areaId h).bind
  rintro _ s₁ ⟨h₁, hareas₁⟩
  rw [meets_bind, meets_bind, meets_onParent]
  apply (Generic5G.edgeUpf_meets _ areaId (parent s₁)).mono
  · rintro upf _ ⟨⟨info, hinfo, hupf⟩, rfl⟩
    change Meets _ s₁ _ _
    apply meets_onParent_bind (Generic5G.call_meets w.provider (.deleteUpf upf.blueId) areaId (parent s₁))
    · rintro n s₂ - hs₂
      have h₂ := h₁.same hs₂
      have hinfo₂ : s₂.rest.entry areaId = some info := (entry_eq hs₂ areaId).trans hinfo
      unfold setUpf
      rw [meets_bind, meets_modify, meets_onParent]
      apply (Generic5G.deregisterChildren_meets upf.blueId _).mono
      · rintro _ _ rfl
        refine ⟨⟨h₂.config, h₂.core, h₂.records.removed hdistinct hinfo₂ hupf⟩, ?_⟩
        have hentry : s₂.rest.entry = s.rest.entry :=
          congrArg (toMap EdgeAreaInfo.area) (hs₂.edges.edgeAreas.trans hareas₁)
        rw [← hentry]
        exact entry_erase rfl h₂.records.unique
      · rintro _ _ ⟨hout, -⟩
        exact (hout ((h₂.records.holds areaId info hinfo₂).upf upf hupf).1).elim
    · exact fun _ t ht => h₁.edges ht.2
  · rintro _ _ rfl
    exact h₁

/-- The loop over the areas that left the configuration. -/
theorem deleteAreas_meets (hdistinct : ∀ a b child upf upf', rel a child upf → rel b child upf' → a = b) (ids : List Int)
    (h : Standing rel c core s) :
    Meets (forM ids (deleteArea w)) s
      (fun _ s' => Standing rel c core s' ∧ ∀ a, s'.rest.entry a = if a ∈ ids then none else s.rest.entry a)
      (fun _ s' => Standing rel c core s') := by
  induction ids generalizing s with
  | nil => exact ⟨h, fun _ => rfl⟩
  | cons areaId ids ih =>
    rw [List.forM_cons]
    apply (deleteArea_meets hdistinct areaId h).bind
    rintro _ s₁ ⟨h₁, hentry⟩
    apply (ih h₁).mono
    · rintro _ s₂ ⟨h₂, hentries⟩
      refine ⟨h₂, ?_⟩
      intro a
      rw [hentries, hentry, Function.update_apply]
      simp only [List.mem_cons]
      by_cases ha : a = areaId
      · simp only [ha, if_true, true_or, ite_self]
      · simp only [ha, if_false, false_or]
    · exact fun _ _ h₂ => h₂

/-- Whether it returns or raises, `update_edge_areas` leaves records that are true of the UPFs. When it returns, the
areas with an entry are those of the configuration, and every record is up to date. -/
theorem updateEdgeAreas_meets (hw : w.Maintains c core deploys rel)
    (hdeploys : ∀ area ∈ c.areas, s.rest.entry area.id = none → deploys area) (h : Standing rel c core s) :
    Meets (updateEdgeAreas w) s
      (fun _ s' => Standing rel c core s' ∧ (∀ area ∈ c.areas, s'.rest.Settled w.provider c core area.id) ∧
        ∀ a, s'.rest.entry a ≠ none → a ∈ c.areas.map SubArea.id)
      (fun _ s' => Standing rel c core s') := by
  unfold updateEdgeAreas
  rw [meets_bind, meets_onParent]
  apply (Generic5G.areas_meets (parent s)).mono
  · rintro areas _ ⟨⟨c', hc', rfl⟩, rfl⟩
    have hconfig : (parent s).currentConfig = some c := h.config
    cases hc'.symm.trans hconfig
    apply (updateAreas_meets hw c.areas hdeploys h).bind
    rintro _ s₁ ⟨h₁, -, hsettled⟩
    rw [meets_bind, meets_get]
    apply (deleteAreas_meets hw.distinct _ h₁).mono
    · rintro _ s₂ ⟨h₂, hentries⟩
      simp only [(w.provider.order_perm _).mem_iff, List.mem_filter, decide_eq_true_eq] at hentries
      refine ⟨h₂, ?_, ?_⟩
      · intro area harea
        apply (hsettled area harea).of_entry
        rw [hentries, if_neg]
        exact fun hout => hout.2 (List.mem_map_of_mem harea)
      · intro a ha
        by_contra hout
        rw [hentries] at ha
        split at ha
        · exact ha rfl
        · rename_i hno
          obtain ⟨info, hinfo⟩ := Option.ne_none_iff_exists'.1 ha
          exact hno ⟨List.mem_map.2 ⟨info, toMap_some_mem hinfo, toMap_some_key hinfo⟩, hout⟩
    · exact fun _ _ h₂ => h₂
  · rintro _ _ ⟨-, rfl⟩
    exact h

end Programs

end EdgeNet

end Nfvcl
