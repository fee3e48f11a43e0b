import Mathlib.Data.List.Basic
import Nfvcl.Day2Transactions
import Nfvcl.EdgeConfigs

namespace Nfvcl
set_option autoImplicit true
open Effects

/-- A day2 operation, the answers of the providers during its `update_edge_areas`, and what
`update_gnb_config` and `update_core` raise afterwards. -/
structure EdgeStep where
  op : Day2Op
  provider : EdgeProvider
  result : Option PyError := none

/-- The operations on slices and areas update the edge areas before the core. -/
def EdgeStep.hook (step : EdgeStep) : Generic5G.EdgeM Unit :=
  match step.op with
  | .addUes _ | .delUes _ | .addDnn _ | .delDnn _ => outcome step.result
  | _ => do
    Generic5G.updateEdgeAreas step.provider
    outcome step.result

def EdgeStep.exec (step : EdgeStep) : Generic5G.EdgeM Unit :=
  step.op.exec step.hook

namespace Generic5G

/-- What `update_edge_areas` is for: the areas of the configuration are deployed, and nothing
else is. -/
structure Deployed (c : Create5gModel) (r : EdgeState) : Prop where
  keys : ∀ id, id ∈ r.areaIds ↔ id ∈ c.areaIds
  entries : ∀ info ∈ r.edgeAreas, info.router ≠ none ∧ info.upf ≠ none
  children : ∀ b, b ∈ r.childrenBlueIds ↔ ∃ info ∈ r.edgeAreas, b ∈ info.blueIds

/-- An update from `s` returns and brings the deployment in line with the configuration. -/
structure Recovers (provider : EdgeProvider) (s : Generic5GState EdgeState) : Prop where
  update : Meets (updateEdgeAreas provider) s
    (fun _ s' => ∃ c, s.currentConfig = some c ∧ s'.currentConfig = some c ∧ Deployed c s'.rest)
    (fun _ _ => False)

theorem Recovers.returns (h : Recovers provider s) : returned ((updateEdgeAreas provider).run s) = some () :=
  h.update.returns

/-- The state between operations. -/
structure Steady (c : Create5gModel) (r : EdgeState) : Prop where
  profiles : c.config.sliceProfiles ≠ none
  buildable : c.Buildable
  complete : ∀ areaId area, c.getArea areaId = some area → areaId ∉ r.areaIds → area.Complete
  sound : r.Sound

/-- When every area of the configuration has its entry. -/
theorem Steady.of_deployed (hprofiles : c.config.sliceProfiles ≠ none) (hbuildable : c.Buildable) (hsound : r.Sound)
    (hkeys : ∀ id, id ∈ r.areaIds ↔ id ∈ c.areaIds) : Steady c r := by
  refine ⟨hprofiles, hbuildable, ?_, hsound⟩
  intro areaId area harea hout
  exact (hout ((hkeys areaId).2 (Create5gModel.mem_areaIds harea))).elim

theorem Steady.ready (h : Steady c r) (hs : EdgeProvider.Succeeds provider) : provider.Ready c r := by
  constructor
  · intro areaId area harea hout
    have hok := h.buildable area (Create5gModel.getArea_mem harea)
    rw [Create5gModel.getArea_id harea] at hok
    exact ⟨fun k n _ => hs k areaId n, hok.canDeploy harea (h.complete areaId area harea hout)⟩
  · intro info _ _ _ upf n
    exact hs _ _ n

theorem Sound.deployed (h : EdgeState.Sound r) (hkeys : ∀ id, id ∈ r.areaIds ↔ id ∈ c.areaIds) : Deployed c r := by
  refine ⟨hkeys, ?_, ?_⟩
  · intro info hinfo
    obtain ⟨⟨router, hrouter, -⟩, ⟨upf, hupf, -⟩⟩ := h.whole info hinfo
    rw [hrouter, hupf]
    exact ⟨Option.some_ne_none router, Option.some_ne_none upf⟩
  · intro b
    rw [h.children.mem_iff, List.mem_flatMap]

theorem Steady.recovers (h : Steady c r) (hs : EdgeProvider.Succeeds provider) (hroutable : provider.Routable) :
    Recovers provider ⟨some c, r⟩ := by
  constructor
  apply Meets.mono (updateEdgeAreas_leads h.sound hroutable)
  · rintro _ s' ⟨hconfig, hsound, hkeys, -⟩
    exact ⟨c, rfl, hconfig, Sound.deployed hsound hkeys⟩
  · rintro _ s' ⟨-, hraise⟩
    exact (hraise (h.ready hs)).2.2 ⟨hs, h.buildable⟩

section Steps

variable {c c' : Create5gModel} {r : EdgeState} {provider : EdgeProvider}

theorem Leads.outcome {Q : Unit → EdgeState → Prop} {E : EdgeState → Prop} (hok : result = none → Q () r)
    (herror : result ≠ none → E r) : Leads c (Nfvcl.outcome result) r Q E := by
  cases result with
  | none => exact ⟨rfl, hok rfl⟩
  | some e => exact ⟨rfl, herror (Option.some_ne_none e)⟩

theorem Leads.setCoreDeployed {Q : Unit → EdgeState → Prop} {E : EdgeState → Prop}
    (h : Q () { r with coreDeployed := deployed }) : Leads c (setCoreDeployed deployed) r Q E :=
  ⟨rfl, h⟩

/-- A hook that updates the edge areas for the configuration `c'`, which replaces `c`. -/
theorem updating_leads (h : Steady c r) (hprofiles : c'.config.sliceProfiles ≠ none) (hroutable : provider.Routable)
    (hready : provider.Ready c' r)
    (hlost : ∀ areaId area, c.getArea areaId = some area → areaId ∉ c'.areaIds →
      area.Complete ∨ (provider.Succeeds ∧ c'.Buildable ∧ result = none)) :
    Leads c' (do updateEdgeAreas provider; Nfvcl.outcome result) r (fun _ r' => Steady c' r') (fun r' => Steady c r') := by
  -- the restored configuration may list areas whose entries are gone
  have hrestored (r' : EdgeState) (hsound : r'.Sound)
      (hkept : ∀ id ∈ r.areaIds, id ∈ c'.areaIds → id ∈ r'.areaIds)
      (hno : ¬ (provider.Succeeds ∧ c'.Buildable ∧ result = none)) : Steady c r' := by
    refine ⟨h.profiles, h.buildable, ?_, hsound⟩
    intro areaId area harea hout
    by_cases hin : areaId ∈ r.areaIds
    · exact (hlost areaId area harea (fun hc => hout (hkept areaId hin hc))).resolve_right hno
    · exact h.complete areaId area harea hin
  apply Leads.seq
  apply (updateEdgeAreas_leads h.sound hroutable).mono
  · rintro _ r' ⟨hsound, hkeys, hbuildable⟩
    apply Leads.outcome
    · intro _
      exact .of_deployed hprofiles hbuildable hsound hkeys
    · intro hraise
      exact hrestored r' hsound (fun id _ hc => (hkeys id).2 hc) (fun hs => hraise hs.2.2)
  · intro r' hraise
    obtain ⟨hsound, hkept, hno⟩ := hraise hready
    exact hrestored r' hsound hkept (fun hs => hno ⟨hs.1, hs.2.1⟩)

end Steps

end Generic5G

/-- The provider calls of an operation that is carried out do not break off where the deployment
cannot be picked up again, and the configuration it leaves behind can be deployed. -/
def EdgeStep.Contained (step : EdgeStep) (s : Generic5GState EdgeState) : Prop :=
  ∀ c, s.currentConfig = some c → step.op.Accepted c →
    match step.op with
    | .addUes _ | .delUes _ | .delDnn _ => True
    | .addDnn m => step.result = none → m.pools ≠ [] ∨ ¬ c.Serves m.dnn
    | .delTac areaId => step.provider.Routable ∧ step.provider.Ready (step.op.requested c) s.rest ∧
        ((∀ area, c.getArea areaId = some area → area.Complete) ∨ (step.provider.Succeeds ∧ step.result = none))
    | _ => step.provider.Routable ∧ step.provider.Ready (step.op.requested c) s.rest

section Steps

variable {c : Create5gModel} {r : EdgeState}

theorem Day2Op.requested_profiles (op : Day2Op) (h : c.config.sliceProfiles ≠ none) :
    (op.requested c).config.sliceProfiles ≠ none := by
  obtain ⟨profiles, hp⟩ := Option.ne_none_iff_exists'.1 h
  cases op <;>
    simp [Day2Op.requested, Core5GAddSliceModel.addTo, Create5gModel.setSliceProfiles, Create5gModel.setAreas,
      Create5gModel.setDataNets, Create5gModel.setSubscribers, hp]

theorem addTo_areaIds (m : Core5GAddSliceModel) (c : Create5gModel) : (m.addTo c).areaIds = c.areaIds := by
  change List.map SubArea.id (List.foldl _ c.areas _) = c.areas.map SubArea.id
  generalize (m.areaIds.getD []).filterMap (fun id => (PyInt.parse id).toOption) = ids
  generalize c.areas = areas
  induction ids generalizing areas with
  | nil => rfl
  | cons id ids ih => rw [List.foldl_cons, ih, addSliceIn_ids]

/-- Only `del_tac` takes an area out of the configuration. -/
theorem Day2Op.requested_areaIds (op : Day2Op) (hid : areaId ∈ c.areaIds) :
    areaId ∈ (op.requested c).areaIds ∨ op = .delTac areaId := by
  cases op with
  | addUes m => exact .inl hid
  | delUes imsi => exact .inl hid
  | addDnn m => exact .inl hid
  | delDnn dnn => exact .inl hid
  | addSliceOss m =>
    rw [Day2Op.requested, addTo_areaIds]
    exact .inl hid
  | addSliceOperator m =>
    rw [Day2Op.requested, addTo_areaIds]
    exact .inl hid
  | delSlice sliceId =>
    refine .inl ?_
    change areaId ∈ List.map SubArea.id (c.areas.map (SubArea.withoutSlice sliceId))
    rw [List.map_map]
    exact hid
  | addTac m =>
    refine .inl ?_
    change areaId ∈ List.map SubArea.id (c.areas ++ [m])
    rw [List.map_append]
    exact List.mem_append_left _ hid
  | delTac deleted =>
    by_cases hdel : areaId = deleted
    · exact .inr (by rw [hdel])
    · obtain ⟨area, harea, rfl⟩ := List.mem_map.1 hid
      refine .inl (List.mem_map_of_mem ?_)
      exact List.mem_filter.2 ⟨harea, decide_eq_true hdel⟩

/-- Only the operations on areas ask for other areas. -/
theorem requested_areaIds_of_ne {op : Day2Op} (hadd : ∀ m, op ≠ .addTac m) (hdel : ∀ areaId, op ≠ .delTac areaId) :
    (op.requested c).areaIds = c.areaIds := by
  cases op with
  | addUes m => rfl
  | delUes imsi => rfl
  | addDnn m => rfl
  | delDnn dnn => rfl
  | addSliceOss m => exact addTo_areaIds m c
  | addSliceOperator m => exact addTo_areaIds m c
  | delSlice sliceId =>
    change (c.areas.map (SubArea.withoutSlice sliceId)).map SubArea.id = c.areas.map SubArea.id
    rw [List.map_map]
    rfl
  | addTac m => exact absurd rfl (hadd m)
  | delTac areaId => exact absurd rfl (hdel areaId)

/-- A hook that only calls the core. -/
theorem core_leads {c' : Create5gModel} (h : Generic5G.Steady c r) (h' : result = none → Generic5G.Steady c' r) :
    Generic5G.Leads c' (outcome result) r (fun _ r' => Generic5G.Steady c' r') (fun r' => Generic5G.Steady c r') := by
  apply Generic5G.Leads.outcome h'
  exact fun _ => h

/-- A configuration with the same areas and profiles. -/
theorem Generic5G.Steady.of_same {c' : Create5gModel} (h : Generic5G.Steady c r) (hbuildable : c'.Buildable)
    (hareas : c'.areas = c.areas) (hprofiles : c'.config.sliceProfiles = c.config.sliceProfiles) :
    Generic5G.Steady c' r := by
  refine ⟨?_, hbuildable, ?_, h.sound⟩
  · rw [hprofiles]
    exact h.profiles
  · intro areaId area harea
    rw [Create5gModel.getArea, hareas] at harea
    exact h.complete areaId area harea

theorem EdgeStep.hook_leads (step : EdgeStep) (h : Generic5G.Steady c r) (hcontained : step.Contained ⟨some c, r⟩)
    (haccepted : step.op.Accepted c) :
    Generic5G.Leads (step.op.requested c) step.hook r (fun _ r' => Generic5G.Steady (step.op.requested c) r')
      (fun r' => Generic5G.Steady c r') := by
  obtain ⟨op, provider, result⟩ := step
  have hcond := hcontained c rfl haccepted
  have hprofiles := op.requested_profiles h.profiles
  have hkept (hop : ∀ areaId, op ≠ .delTac areaId) (areaId : Int) (area : SubArea) (harea : c.getArea areaId = some area)
      (hout : areaId ∉ (op.requested c).areaIds) :
      area.Complete ∨ (provider.Succeeds ∧ (op.requested c).Buildable ∧ result = none) := by
    have hin := op.requested_areaIds (Create5gModel.mem_areaIds harea)
    exact (hout (hin.resolve_right (hop areaId))).elim
  cases op with
  | addUes m => exact core_leads h (fun _ => h.of_same (h.buildable.setSubscribers _) rfl rfl)
  | delUes imsi => exact core_leads h (fun _ => h.of_same (h.buildable.setSubscribers _) rfl rfl)
  | addDnn m => exact core_leads h (fun hr => h.of_same (h.buildable.addDnn (hcond hr)) rfl rfl)
  | delDnn dnn => exact core_leads h (fun _ => h.of_same (h.buildable.delDnn _) rfl rfl)
  | addSliceOss m => exact Generic5G.updating_leads h hprofiles hcond.1 hcond.2 (hkept (fun _ h => (nomatch h)))
  | addSliceOperator m => exact Generic5G.updating_leads h hprofiles hcond.1 hcond.2 (hkept (fun _ h => (nomatch h)))
  | delSlice sliceId => exact Generic5G.updating_leads h hprofiles hcond.1 hcond.2 (hkept (fun _ h => (nomatch h)))
  | addTac m => exact Generic5G.updating_leads h hprofiles hcond.1 hcond.2 (hkept (fun _ h => (nomatch h)))
  | delTac deleted =>
    apply Generic5G.updating_leads h hprofiles hcond.1 hcond.2.1
    intro areaId area harea hout
    have hdel := ((Day2Op.delTac deleted).requested_areaIds (Create5gModel.mem_areaIds harea)).resolve_left hout
    cases hdel
    rcases hcond.2.2 with hcomplete | ⟨hs, hr⟩
    · exact .inl (hcomplete area harea)
    · exact .inr ⟨hs, h.buildable.delTac deleted, hr⟩

/-- Between operations the blueprint has a configuration in a steady state. -/
def Generic5GState.Steady (s : Generic5GState EdgeState) : Prop :=
  ∃ c, s.currentConfig = some c ∧ Generic5G.Steady c s.rest

theorem restoring_steady {c' : Create5gModel} {hook : Generic5G.EdgeM Unit}
    (h : Generic5G.Leads c' hook r (fun _ r' => Generic5G.Steady c' r') (fun r' => Generic5G.Steady c r')) :
    (finalState ((Generic5G.restoring (some c) hook).run ⟨some c', r⟩)).Steady := by
  unfold Generic5G.Leads Meets at h
  rw [Generic5G.restoring_run]
  cases hrun : hook.run ⟨some c', r⟩ with
  | ok u s' =>
    rw [hrun] at h
    exact ⟨c', h.1, h.2⟩
  | error e s' =>
    rw [hrun] at h
    exact ⟨c, rfl, h.2⟩

theorem EdgeStep.steady (step : EdgeStep) (s : Generic5GState EdgeState) (hcontained : step.Contained s)
    (h : s.Steady) : (finalState (step.exec.run s)).Steady := by
  obtain ⟨config, r⟩ := s
  obtain ⟨c, hconfig, hsteady⟩ := h
  cases hconfig
  unfold EdgeStep.exec
  have hcases : (∃ e, (step.op.exec step.hook).run ⟨some c, r⟩ = .error e ⟨some c, r⟩) ∨ _ := step.op.exec_cases c r
  rcases hcases with ⟨e, he⟩ | ⟨haccepted, he⟩ | ⟨hcut, -⟩
  · rw [he]
    exact ⟨c, rfl, hsteady⟩
  · rw [he]
    exact restoring_steady (step.hook_leads hsteady hcontained haccepted)
  · rcases hcut with ⟨area, harea, hnone⟩ | hnone
    · exact (((Create5gModel.buildable_iff.1 hsteady.buildable).1 area harea).listed hnone).elim
    · exact (hsteady.profiles hnone).elim

end Steps

section Creation

variable {c : Create5gModel} {r : EdgeState} {provider : EdgeProvider}

/-- Whether the core is up does not matter to the entries. -/
theorem EdgeState.Sound.core (h : r.Sound) (deployed : Bool) : EdgeState.Sound { r with coreDeployed := deployed } :=
  ⟨h.keys, h.whole, h.children, h.nodup, h.fresh⟩

theorem EdgeState.Sound.empty : EdgeState.Sound {} where
  keys := List.nodup_nil
  whole := fun _ h => nomatch h
  children := .refl []
  nodup := List.nodup_nil
  fresh := fun _ h => nomatch h

theorem profiles_of_feasible (h : c.configurationFeasibilityCheck = .ok u) : c.config.sliceProfiles ≠ none := by
  obtain ⟨profiles, hprofiles, -⟩ := except_bind_ok.1 h
  intro hnone
  rw [hnone] at hprofiles
  cases hprofiles

theorem Generic5G.createDeployment_leads (core : CoreOutcomes) (hroutable : provider.Routable) :
    Leads c (createDeployment provider core c) {} (fun _ r' => Steady c r') (fun _ => True) := by
  apply Leads.seq
  apply Leads.lift
  · intro _ hfeasible
    apply Leads.seq
    apply Leads.outcome
    · intro _
      apply Leads.seq
      apply (updateEdgeAreas_leads EdgeState.Sound.empty hroutable).mono
      · rintro _ r₁ ⟨hsound, -, -⟩
        apply Leads.seq
        apply Leads.outcome
        · intro _
          apply Leads.seq
          apply Leads.setCoreDeployed
          apply Leads.seq
          apply Leads.outcome
          · intro _
            apply Leads.seq
            apply (updateEdgeAreas_leads (hsound.core core.coreDeployed) hroutable).mono
            · rintro _ r₂ ⟨hsound, hkeys, hbuildable⟩
              apply Leads.outcome
              · intro _
                exact .of_deployed (profiles_of_feasible hfeasible) hbuildable hsound hkeys
              · exact fun _ => trivial
            · exact fun _ _ => trivial
          · exact fun _ => trivial
        · exact fun _ => trivial
      · exact fun _ _ => trivial
    · exact fun _ => trivial
  · exact fun _ => trivial

theorem Generic5G.create_steady {core : CoreOutcomes} (hroutable : provider.Routable)
    (h : ¬ Raised ((Generic5G.create provider core c).run ⟨none, {}⟩)) :
    (finalState ((Generic5G.create provider core c).run ⟨none, {}⟩)).Steady := by
  have hleads : Leads c (createDeployment provider core c) {} _ _ := createDeployment_leads core hroutable
  have hstart : (create provider core c).run ⟨none, {}⟩ = (createDeployment provider core c).run ⟨some c, {}⟩ := rfl
  rw [hstart] at h ⊢
  unfold Leads Meets at hleads
  cases hrun : (createDeployment provider core c).run ⟨some c, {}⟩ with
  | ok u s =>
    rw [hrun] at hleads
    exact ⟨c, hleads⟩
  | error e s =>
    rw [hrun] at h
    exact (h trivial).elim

end Creation

theorem edge_areas_recover {core : CoreOutcomes} {createModel : Create5gModel} {atCreation provider : EdgeProvider}
    {steps : List EdgeStep} (hcreate : ¬ Raised ((Generic5G.create atCreation core createModel).run ⟨none, {}⟩))
    (hroutable : atCreation.Routable)
    (hsteps : AllSteps EdgeStep.exec EdgeStep.Contained
      (finalState ((Generic5G.create atCreation core createModel).run ⟨none, {}⟩)) steps)
    (hs : provider.Succeeds) (hroutes : provider.Routable) :
    Generic5G.Recovers provider
      (runAll EdgeStep.exec (finalState ((Generic5G.create atCreation core createModel).run ⟨none, {}⟩)) steps) := by
  have hfinal := runAll_invariant EdgeStep.exec EdgeStep.steady steps hsteps (Generic5G.create_steady hroutable hcreate)
  generalize runAll EdgeStep.exec _ steps = s at hfinal
  obtain ⟨config, r⟩ := s
  obtain ⟨c, hconfig, hsteady⟩ := hfinal
  cases hconfig
  exact hsteady.recovers hs hroutes

/-! ### A campus with one area -/

def campusAddress (host : Fin 256) : IPv4Address :=
  ⟨10 * 2 ^ 24 + host, by omega⟩

theorem campus_prefixlen : 24 ≤ 32 := by decide
theorem campus_bits : 2 ^ (32 - 24) ∣ 10 * 2 ^ 24 := by decide
theorem campus_bound : 10 * 2 ^ 24 < 2 ^ 32 := by decide

def campusNetwork : IPv4Network :=
  ⟨10 * 2 ^ 24, 24, campus_prefixlen, campus_bits, campus_bound⟩

/-- Providers that answer the calls they do not refuse. -/
def campusProvider (raises : EdgeCall → Int → Nat → Option PyError) : EdgeProvider where
  raises := raises
  routerInfo := fun _ => {
    n3Ip := campusAddress 1
    n6Ip := campusAddress 2
    gnbIp := campusAddress 3
    gnbCidr := campusNetwork }
  upfsInfo := fun _ => [{
    area := 1
    servedSlices := [{ id := "000001", dnnList := [{ name := some "internet", cidr := some "10.250.0.0/16" }] }]
    networkInfo := some {
      n4Cidr := campusNetwork
      n3Cidr := campusNetwork
      n6Cidr := campusNetwork
      n4Ip := campusAddress 4
      n3Ip := campusAddress 5
      n6Ip := campusAddress 6 }
    vmResourceId := "vm"
    vmConfiguratorId := "configurator" }]
  nrfIp := fun _ => campusAddress 7

def campusSlices : Option (List SubSlices) :=
  some [⟨.embb, "000001"⟩]

/-- The blueprint after a `create` of area 1. -/
def campusCreated : Generic5GState EdgeState :=
  finalState ((Generic5G.create (campusProvider (fun _ _ _ => none)) {}
    (campusConfig [campusArea 1 campusSlices])).run ⟨none, {}⟩)

theorem campusProvider_routable (raises : EdgeCall → Int → Nat → Option PyError) : (campusProvider raises).Routable := by
  intro n u hu dnn hdnn
  rw [List.mem_singleton.1 hu] at hdnn ⊢
  rw [List.mem_singleton.1 hdnn]
  exact ⟨Option.some_ne_none _, Option.some_ne_none _⟩

theorem campusArea_canDeploy :
    ((Day2Op.addTac (campusArea 2 campusSlices)).requested (campusConfig [campusArea 1 campusSlices])).CanDeploy
      (campusArea 2 campusSlices) where
  upfConfig := ⟨⟨_, rfl⟩, ⟨_, rfl⟩⟩
  upf := Option.some_ne_none _
  router := fun _ => ⟨_, rfl⟩

/-- An `add_tac` of area 2. -/
def campusStep (raises : EdgeCall → Int → Nat → Option PyError) (result : Option PyError) : EdgeStep where
  op := .addTac (campusArea 2 campusSlices)
  provider := campusProvider raises
  result := result

theorem campusStep_contained (result : Option PyError) : (campusStep (fun _ _ _ => none) result).Contained campusCreated := by
  have hconfig : campusCreated.currentConfig = some (campusConfig [campusArea 1 campusSlices]) := by decide +kernel
  have hids : 1 ∈ campusCreated.rest.areaIds := by decide +kernel
  intro c hc _
  cases hconfig.symm.trans hc
  refine ⟨campusProvider_routable _, ?_, fun _ _ _ _ _ _ => rfl⟩
  intro areaId area harea hout
  refine ⟨fun _ _ _ => rfl, ?_⟩
  rcases List.mem_cons.1 (Create5gModel.getArea_mem harea) with hfirst | hmem
  · have hid : area.id = areaId := Create5gModel.getArea_id harea
    rw [hfirst] at hid
    rw [← hid] at hout
    exact (hout hids).elim
  · rw [List.mem_singleton.1 hmem]
    exact campusArea_canDeploy

/-- Area 2 is deployed before `update_core` raises; the next update removes it again. -/
theorem edge_areas_recover_campus :
    Generic5G.Recovers (campusProvider (fun _ _ _ => none))
      (runAll EdgeStep.exec campusCreated [campusStep (fun _ _ _ => none) (some (.blueprintNG "helm upgrade failed"))]) := by
  have hcreate : ¬ Raised ((Generic5G.create (campusProvider (fun _ _ _ => none)) {}
    (campusConfig [campusArea 1 campusSlices])).run ⟨none, {}⟩) := by decide +kernel
  have hcontained := campusStep_contained (some (.blueprintNG "helm upgrade failed"))
  unfold campusCreated at hcontained ⊢
  exact edge_areas_recover hcreate (campusProvider_routable _) ⟨hcontained, trivial⟩ (fun _ _ _ => rfl)
    (campusProvider_routable _)

def refusesUpf : EdgeCall → Int → Nat → Option PyError
  | .createUpf _ _, 2, _ => some (.blueprintNG "no image for the UPF")
  | _, _, _ => none

/-- The UPF of area 2 could not be created: the entry stays without a UPF when the configuration
is restored, and every later update raises. -/
theorem edge_areas_recover_fails :
    ¬ ∀ (core : CoreOutcomes) (createModel : Create5gModel) (atCreation provider : EdgeProvider) (steps : List EdgeStep),
      ¬ Raised ((Generic5G.create atCreation core createModel).run ⟨none, {}⟩) → atCreation.Routable →
      (∀ step ∈ steps, step.provider.Routable) → provider.Succeeds → provider.Routable →
      Generic5G.Recovers provider
        (runAll EdgeStep.exec (finalState ((Generic5G.create atCreation core createModel).run ⟨none, {}⟩)) steps) := by
  intro h
  have hcreate : ¬ Raised ((Generic5G.create (campusProvider (fun _ _ _ => none)) {}
    (campusConfig [campusArea 1 campusSlices])).run ⟨none, {}⟩) := by decide +kernel
  have hsteps : ∀ step ∈ [campusStep refusesUpf none], step.provider.Routable := by
    intro step hstep
    rw [List.mem_singleton.1 hstep]
    exact campusProvider_routable _
  have hraises : returned ((Generic5G.updateEdgeAreas (campusProvider (fun _ _ _ => none))).run
      (runAll EdgeStep.exec campusCreated [campusStep refusesUpf none])) = none := by decide +kernel
  have hrecovers := h _ _ _ (campusProvider (fun _ _ _ => none)) _ hcreate (campusProvider_routable _) hsteps
    (fun _ _ _ => rfl) (campusProvider_routable _)
  exact absurd (hraises.symm.trans hrecovers.returns) (Option.some_ne_none ()).symm

end Nfvcl
