import Mathlib.Data.List.Basic
import Nfvcl.EdgeRecords
import Nfvcl.UpfConfigured

namespace Nfvcl
set_option autoImplicit true
open Effects KeyedList

/-! ### The workers of the UPF blueprints -/

/-- The blueprint types of the UPFs. -/
def UpfKind.ofType (upfType : String) : Option UpfKind :=
  if upfType = "oai_upf" then some .oai
  else if upfType = "free5gc_upf" then some .free5gc
  else if upfType = "sdcore_upf" then some .sdcore
  else none

/-- A UPF blueprint in its worker, and the first error one of its calls raised. -/
structure UpfWorker where
  vims : VmProvider
  createModel : UPFBlueCreateModel
  blueprint : Option UpfBlueprint
  raised : Option PyError

def upfMachine (vims : Nat → VmProvider) : UpfMachine UpfWorker where
  create n upfType model :=
    match UpfKind.ofType upfType with
    | some kind =>
      let (blueprint, raised) := UpfBlueprint.create (vims n) kind model
      (⟨vims n, model, some blueprint, raised⟩, raised)
    | none =>
      let e := PyError.external s!"Blueprint type {upfType} not found"
      (⟨vims n, model, none, some e⟩, some e)
  update _ model worker :=
    match worker.blueprint with
    | some blueprint =>
      let (blueprint, raised) := blueprint.update worker.vims model
      ({ worker with blueprint := some blueprint, raised := worker.raised.or raised }, raised)
    | none => (worker, worker.raised)
  upfsInfo worker := (worker.blueprint.map UpfBlueprint.getUpfsInfo).getD []

/-- Provider calls succeed, and the NRF has one address. -/
structure EdgeProvider.Reliable (provider : EdgeProvider) (nrf : IPv4Address) : Prop where
  returns : provider.Succeeds
  nrfIp : ∀ n, provider.nrfIp n = nrf

structure EdgeWorld.Reliable (w : EdgeWorld UpfWorker) (vims : Nat → VmProvider) (nrf : IPv4Address) : Prop where
  provider : w.provider.Reliable nrf
  machine : w.machine = upfMachine vims

/-- The UPF of the area is configured by `update` only. -/
def SubArea.ConfiguredByUpdate (area : SubArea) : Prop :=
  area.upf.bind (fun upf => UpfKind.ofType upf.type) ∈ [some UpfKind.oai, some UpfKind.free5gc]

instance (area : SubArea) : Decidable area.ConfiguredByUpdate :=
  inferInstanceAs (Decidable (_ ∈ _))

/-- The DNNs that a recorded model shares with the slices of an area keep their pools. -/
def Create5gModel.KeepsPools (c : Create5gModel) (areaId : Int) (model : UPFBlueCreateModel) : Prop :=
  ∀ slices, c.upfSlices areaId = .ok slices → UpfBlueprint.SamePools model.slices slices

namespace UpfWorker

/-- The record of an area is what its UPF was sent last. -/
structure Fits (areaId : Int) (child : UpfChild UpfWorker) (upf : UPFInfo) : Prop where
  area : child.state.createModel.areaId = areaId
  listed : upf.upfList = (child.state.blueprint.map UpfBlueprint.getUpfsInfo).getD []
  fits : child.state.raised = none →
    ∃ blueprint, child.state.blueprint = some blueprint ∧ blueprint.Fits child.state.vims upf.currentConfig

/-- What an UPF needs of a configuration that is sent to it. -/
def Follows (core : Bool) (c : Create5gModel) (areaId : Int) (upf : UPFInfo) : UpfBlueprint → Prop
  | .sdcore _ => c.KeepsPools areaId upf.currentConfig
  | _ => core = true

/-- The records while a configuration is brought to the edge. -/
structure Brought (core : Bool) (c : Create5gModel) (areaId : Int) (child : UpfChild UpfWorker) (upf : UPFInfo) : Prop where
  fits : UpfWorker.Fits areaId child upf
  follows : child.state.raised = none → ∀ blueprint, child.state.blueprint = some blueprint →
    Follows core c areaId upf blueprint

end UpfWorker

theorem upfSlices_cidrs {c : Create5gModel} (h : c.upfSlices areaId = .ok slices) :
    ∀ dnn ∈ slices.flatMap SliceModel.dnnList, dnn.cidr ≠ none := by
  unfold Create5gModel.upfSlices at h
  obtain ⟨profiles, -, h⟩ := except_bind_ok.1 h
  intro dnn hdnn
  obtain ⟨slice, hslice, hdnn⟩ := List.mem_flatMap.1 hdnn
  obtain ⟨profile, -, hprofile⟩ := (mem_of_mapM_ok h).1 hslice
  cases profile with
  | none => cases hprofile
  | some profile =>
    obtain ⟨dnns, hdnns, hslice⟩ := except_bind_ok.1 hprofile
    cases hslice
    obtain ⟨net, -, hnet⟩ := (mem_of_mapM_ok hdnns).1 hdnn
    split at hnet
    · cases hnet
    · cases hnet
      exact Option.some_ne_none _

theorem EdgeProvider.Computes.slices {provider : EdgeProvider} {areaId : Int}
    (h : provider.Computes c core areaId router model) : c.upfSlices areaId = .ok model.slices := by
  obtain ⟨nrfIp, -, slices, networks, hslices, -, rfl⟩ := h
  exact hslices

theorem EdgeProvider.Computes.nrfIp_eq_none_iff {provider : EdgeProvider} {areaId : Int}
    (h : provider.Computes c core areaId router model) : model.nrfIp = none ↔ core = false := by
  obtain ⟨nrfIp, hnrf, slices, networks, -, -, rfl⟩ := h
  cases core with
  | false => exact iff_of_true hnrf rfl
  | true =>
    obtain ⟨n, rfl⟩ := hnrf
    exact iff_of_false (Option.some_ne_none _) Bool.noConfusion

section Machine

variable {vims : Nat → VmProvider}

/-- A UPF that was created without an error. -/
theorem upfMachine_created {n : Nat} {upfType : String}
    (h : ((upfMachine vims).created n upfType model).state.raised = none) :
    ∃ kind, UpfKind.ofType upfType = some kind ∧ (UpfBlueprint.create (vims n) kind model).2 = none ∧
      ((upfMachine vims).created n upfType model).state =
        ⟨vims n, model, some (UpfBlueprint.create (vims n) kind model).1, none⟩ := by
  unfold UpfMachine.created upfMachine at h ⊢
  dsimp only at h ⊢
  cases hkind : UpfKind.ofType upfType with
  | none =>
    rw [hkind] at h
    cases h
  | some kind =>
    rw [hkind] at h
    refine ⟨kind, rfl, h, ?_⟩
    change UpfWorker.mk (vims n) model _ (UpfBlueprint.create (vims n) kind model).2 = _
    rw [show (UpfBlueprint.create (vims n) kind model).2 = none from h]

theorem upfMachine_created_model (n : Nat) (upfType : String) (model : UPFBlueCreateModel) :
    ((upfMachine vims).created n upfType model).state.createModel = model := by
  unfold UpfMachine.created upfMachine
  dsimp only
  cases UpfKind.ofType upfType <;> rfl

/-- A UPF that was updated, and none of whose calls raised. -/
theorem upfMachine_updated {n : Nat} {child : UpfChild UpfWorker} (hblueprint : child.state.blueprint = some blueprint)
    (h : ((upfMachine vims).updated n model child).state.raised = none) :
    child.state.raised = none ∧ (blueprint.update child.state.vims model).2 = none ∧
      ((upfMachine vims).updated n model child).state =
        { child.state with blueprint := some (blueprint.update child.state.vims model).1 } := by
  unfold UpfMachine.updated upfMachine at h ⊢
  dsimp only at h ⊢
  rw [hblueprint] at h ⊢
  obtain ⟨hbefore, hreturned⟩ := Option.or_eq_none_iff.1 h
  refine ⟨hbefore, hreturned, ?_⟩
  change { child.state with
    blueprint := some (blueprint.update child.state.vims model).1
    raised := child.state.raised.or (blueprint.update child.state.vims model).2 } = _
  rw [hreturned, Option.or_none]

theorem upfMachine_updated_model (n : Nat) (model : UPFBlueCreateModel) (child : UpfChild UpfWorker) :
    ((upfMachine vims).updated n model child).state.createModel = child.state.createModel := by
  unfold UpfMachine.updated upfMachine
  dsimp only
  cases child.state.blueprint <;> rfl

theorem upfMachine_raised_of_updated {n : Nat} {child : UpfChild UpfWorker}
    (h : ((upfMachine vims).updated n model child).state.raised = none) : child.state.raised = none := by
  cases hblueprint : child.state.blueprint with
  | some blueprint => exact (upfMachine_updated hblueprint h).1
  | none =>
    unfold UpfMachine.updated upfMachine at h
    dsimp only at h
    rw [hblueprint] at h
    exact h

end Machine

namespace UpfWorker

/-- Areas are deployed whose UPF need not be updated after, or will be. -/
def Deploys (core promised : Bool) (area : SubArea) : Prop :=
  area.ConfiguredByUpdate → core = false ∧ promised = true

theorem follows_of_fits {blueprint : UpfBlueprint} (h : blueprint.Fits provider upf.currentConfig)
    (hslices : c.upfSlices areaId = .ok upf.currentConfig.slices)
    (hpromised : (∀ s, blueprint ≠ .sdcore s) → promised = true) : Follows promised c areaId upf blueprint := by
  cases blueprint with
  | oai s => exact hpromised (fun _ => UpfBlueprint.noConfusion)
  | free5gc s => exact hpromised (fun _ => UpfBlueprint.noConfusion)
  | sdcore s =>
    intro slices hslices' name cidr cidr' hcidr hcidr'
    cases hslices.symm.trans hslices'
    exact h.one_pool hcidr hcidr'

theorem leaves_wrap (wrap : UpfState χ → UpfBlueprint) (m : UpfM χ Unit) (s : UpfState χ) :
    ∃ s', (UpfState.leaves wrap m s).1 = wrap s' := by
  unfold UpfState.leaves
  cases m.run s with
  | ok u s' => exact ⟨s', rfl⟩
  | error e s' => exact ⟨s', rfl⟩

theorem create_sdcore {kind : UpfKind} (h : ∀ s, (UpfBlueprint.create provider kind model).1 ≠ .sdcore s) :
    kind ≠ .sdcore := by
  rintro rfl
  obtain ⟨s', hs'⟩ := leaves_wrap .sdcore (UpfState.create (SdCoreUPF.updateDeployments provider) model) { own := {} }
  exact h s' hs'

theorem update_sdcore {blueprint : UpfBlueprint} (h : ∀ s, (blueprint.update provider model).1 ≠ .sdcore s) :
    ∀ s, blueprint ≠ .sdcore s := by
  rintro s rfl
  obtain ⟨s', hs'⟩ := leaves_wrap .sdcore (UpfState.update (SdCoreUPF.updateDeployments provider) model) s
  exact h s' hs'

theorem Follows.samePools {blueprint : UpfBlueprint} (h : Follows promised c areaId upf blueprint)
    (hslices : c.upfSlices areaId = .ok slices) :
    ∀ s, blueprint = .sdcore s → UpfBlueprint.SamePools upf.currentConfig.slices slices := by
  rintro s rfl
  exact h slices hslices

theorem Follows.core_of_other {blueprint : UpfBlueprint} {promised : Bool} (h : Follows promised c areaId upf blueprint)
    (hother : ∀ s, blueprint ≠ .sdcore s) : promised = true := by
  cases blueprint with
  | oai s => exact h
  | free5gc s => exact h
  | sdcore s => exact (hother s rfl).elim

theorem configuredByUpdate_of_kind {area : SubArea} {kind : UpfKind} (htype : area.upf.map SubAreaUPF.type = some upfType)
    (hkind : UpfKind.ofType upfType = some kind) (hother : kind ≠ .sdcore) : area.ConfiguredByUpdate := by
  obtain ⟨upf, hupf, rfl⟩ := Option.map_eq_some_iff.1 htype
  unfold SubArea.ConfiguredByUpdate
  rw [hupf, Option.bind_some, hkind]
  cases kind with
  | oai => decide
  | free5gc => decide
  | sdcore => exact (hother rfl).elim

theorem maintains {w : EdgeWorld UpfWorker} {vims : Nat → VmProvider} (hw : w.Reliable vims nrf) (c : Create5gModel)
    (core promised : Bool) : w.Maintains c core (Deploys core promised) (Brought promised c) where
  distinct := fun a b child upf upf' h h' => h.fits.area.symm.trans h'.fits.area
  created := by
    intro area upfType router n info hdeploys htype hcomputes hlist
    rw [hw.machine] at hlist ⊢
    have hready : ((upfMachine vims).created n upfType info.currentConfig).state.raised = none → ∃ blueprint,
        ((upfMachine vims).created n upfType info.currentConfig).state.blueprint = some blueprint ∧
        blueprint.Fits ((upfMachine vims).created n upfType info.currentConfig).state.vims info.currentConfig ∧
        Follows promised c area.id info blueprint := by
      intro hraised
      obtain ⟨kind, hkind, hreturned, hstate⟩ := upfMachine_created hraised
      have hfits : (UpfBlueprint.create (vims n) kind info.currentConfig).1.Fits (vims n) info.currentConfig := by
        apply UpfBlueprint.create_fits hreturned
        by_cases hsdcore : kind = .sdcore
        · exact .inl hsdcore
        · exact .inr (hcomputes.nrfIp_eq_none_iff.2 (hdeploys (configuredByUpdate_of_kind htype hkind hsdcore)).1)
      rw [hstate]
      refine ⟨_, rfl, hfits, follows_of_fits hfits hcomputes.slices ?_⟩
      exact fun hother => (hdeploys (configuredByUpdate_of_kind htype hkind (create_sdcore hother))).2
    refine ⟨⟨?_, hlist, ?_⟩, ?_⟩
    · rw [upfMachine_created_model]
      exact hcomputes.areaId_eq
    · intro hraised
      obtain ⟨blueprint, hblueprint, hfits, -⟩ := hready hraised
      exact ⟨blueprint, hblueprint, hfits⟩
    · intro hraised blueprint hblueprint
      obtain ⟨blueprint', hblueprint', -, hfollows⟩ := hready hraised
      cases hblueprint.symm.trans hblueprint'
      exact hfollows
  updated := by
    intro areaId router n child upf info hrel hcomputes hlist
    rw [hw.machine] at hlist ⊢
    have hready : ((upfMachine vims).updated n info.currentConfig child).state.raised = none → ∃ blueprint,
        ((upfMachine vims).updated n info.currentConfig child).state.blueprint = some blueprint ∧
        blueprint.Fits ((upfMachine vims).updated n info.currentConfig child).state.vims info.currentConfig ∧
        Follows promised c areaId info blueprint := by
      intro hraised
      have hbefore := upfMachine_raised_of_updated hraised
      obtain ⟨blueprint, hblueprint, hold⟩ := hrel.fits.fits hbefore
      obtain ⟨-, hreturned, hstate⟩ := upfMachine_updated hblueprint hraised
      have hfollows := hrel.follows hbefore blueprint hblueprint
      have hfits := UpfBlueprint.update_fits hold hreturned (hfollows.samePools hcomputes.slices)
        (upfSlices_cidrs hcomputes.slices)
      rw [hstate]
      refine ⟨_, rfl, hfits, follows_of_fits hfits hcomputes.slices ?_⟩
      exact fun hother => hfollows.core_of_other (update_sdcore hother)
    refine ⟨⟨?_, hlist, ?_⟩, ?_⟩
    · rw [upfMachine_updated_model]
      exact hrel.fits.area
    · intro hraised
      obtain ⟨blueprint, hblueprint, hfits, -⟩ := hready hraised
      exact ⟨blueprint, hblueprint, hfits⟩
    · intro hraised blueprint hblueprint
      obtain ⟨blueprint', hblueprint', -, hfollows⟩ := hready hraised
      cases hblueprint.symm.trans hblueprint'
      exact hfollows
  reported := fun upf area n _ => hw.provider.returns _ _ _

end UpfWorker

/-! ### Operations -/

/-- `create`: the NRF is known after the core is deployed. -/
def createSteps (before after : EdgeWorld υ) (checks core wait gnb : Option PyError) : List (HookStep υ) :=
  [.other checks, .updateEdgeAreas before, .other core, .coreDeployed, .other wait, .updateEdgeAreas after, .other gnb]

/-- The hooks of the operations on slices and areas. -/
def genericHook (w : EdgeWorld υ) (gnb core : Option PyError) : List (HookStep υ) :=
  [.updateEdgeAreas w, .other gnb, .other core]

/-- The same in OpenAirInterface and free5gc, which deal with the subscribers of a deleted slice before. -/
def overriddenHook (before after : EdgeWorld υ) (subscribers values core gnb : Option PyError) : List (HookStep υ) :=
  [.other subscribers, .updateEdgeAreas before, .other values, .other core, .updateEdgeAreas after, .other gnb]

/-- The operation changes slices or areas. -/
def Day2Op.changesEdge : Day2Op → Bool
  | .addSliceOss _ => true
  | .addSliceOperator _ => true
  | .delSlice _ => true
  | .addTac _ => true
  | .delTac _ => true
  | _ => false

namespace EdgeOperation

/-- The steps are those of one of the blueprints. -/
def AsWritten : EdgeOperation υ → Prop
  | .create _ steps => ∃ before after checks core wait gnb, steps = createSteps before after checks core wait gnb
  | .day2 op hook =>
    if op.changesEdge then
      (∃ w gnb core, hook = genericHook w gnb core) ∨
        ∃ before after subscribers values core gnb, hook = overriddenHook before after subscribers values core gnb
    else ∀ step ∈ hook, ∃ result, step = .other result

/-- `create`, `add_slice` or `add_tac`. -/
def Adds : EdgeOperation υ → Prop
  | .create _ _ => True
  | .day2 (.addSliceOss _) _ => True
  | .day2 (.addSliceOperator _) _ => True
  | .day2 (.addTac _) _ => True
  | _ => False

/-- `create` is called on a new blueprint. A day2 operation that gets to the edge finds the UPFs that are configured by
`update` deployed and the NRF known, and leaves the pools of the DNNs that SD-Core UPFs serve. -/
def Follows : EdgeOperation UpfWorker → Generic5GState (EdgeNet UpfWorker) → Prop
  | .create _ _, s => s.rest.edgeAreas = [] ∧ s.rest.coreDeployed = false
  | .day2 op _, s => ∀ c, s.currentConfig = some c → op.Accepted c → op.changesEdge = true →
    (∀ area ∈ (op.requested c).areas, area.ConfiguredByUpdate → s.rest.entry area.id ≠ none) ∧
    ∀ info ∈ s.rest.edgeAreas, ∀ upf ∈ info.upf, ∀ child ∈ s.rest.upfs upf.blueId, ∀ blueprint ∈ child.state.blueprint,
      UpfWorker.Follows s.rest.coreDeployed (op.requested c) info.area upf blueprint

end EdgeOperation

/-- The configuration has been brought to the edge. -/
structure EdgeNet.Done (nrf : IPv4Address) (s : Generic5GState (EdgeNet UpfWorker)) (c : Create5gModel) (core : Bool) :
    Prop where
  standing : Standing (UpfWorker.Brought core c) c core s
  settled : ∀ area ∈ c.areas, ∃ provider : EdgeProvider, provider.Reliable nrf ∧ s.rest.Settled provider c core area.id
  known : ∀ a, s.rest.entry a ≠ none → a ∈ c.areas.map SubArea.id

section Hooks

open EdgeNet UpfWorker

variable {vims : Nat → VmProvider} {nrf : IPv4Address} {c : Create5gModel} {core : Bool}
  {s : Generic5GState (EdgeNet UpfWorker)}

theorem HookStep.other_meets (result : Option PyError) (s : Generic5GState (EdgeNet υ)) :
    Meets (HookStep.exec (.other result)) s (fun _ s' => s' = s) (fun _ s' => s' = s) := by
  cases result with
  | none => exact rfl
  | some e => exact rfl

theorem HookStep.others_meets (steps : List (HookStep υ)) (h : ∀ step ∈ steps, ∃ result, step = .other result)
    (s : Generic5GState (EdgeNet υ)) :
    Meets (HookStep.execAll steps) s (fun _ s' => s' = s) (fun _ s' => s' = s) := by
  apply Meets.forM (s := s) (I := fun s' => s' = s) _ rfl
  rintro step hstep _ rfl
  obtain ⟨result, rfl⟩ := h step hstep
  exact HookStep.other_meets result _

theorem standing_fits {promised : Bool} (h : Standing (Brought promised c) c core s) : s.rest.Recorded UpfWorker.Fits :=
  h.records.mono (fun _ _ _ _ _ _ _ hbrought => hbrought.fits)

/-- An update, and steps that do not touch the edge. -/
theorem updateLast_meets {w : EdgeWorld UpfWorker} (hw : w.Reliable vims nrf)
    (h : Standing (Brought core c) c core s) (hdeploys : ∀ area ∈ c.areas, s.rest.entry area.id = none → Deploys core core area)
    (after : List (HookStep UpfWorker)) (hafter : ∀ step ∈ after, ∃ result, step = .other result) :
    Meets (HookStep.execAll (.updateEdgeAreas w :: after)) s (fun _ s' => Done nrf s' c core)
      (fun _ s' => s'.rest.Recorded UpfWorker.Fits) := by
  unfold HookStep.execAll
  rw [List.forM_cons, meets_bind]
  apply (updateEdgeAreas_meets (maintains hw c core core) hdeploys h).mono
  · rintro _ s₁ ⟨h₁, hsettled, hknown⟩
    apply (HookStep.others_meets after hafter s₁).mono
    · rintro _ _ rfl
      exact ⟨h₁, fun area harea => ⟨w.provider, hw.provider, hsettled area harea⟩, hknown⟩
    · rintro _ _ rfl
      exact standing_fits h₁
  · exact fun _ _ h₁ => standing_fits h₁

theorem genericHook_meets {w : EdgeWorld UpfWorker} (hw : w.Reliable vims nrf) (h : Standing (Brought core c) c core s)
    (hdeploys : ∀ area ∈ c.areas, s.rest.entry area.id = none → Deploys core core area) (gnb core' : Option PyError) :
    Meets (HookStep.execAll (genericHook w gnb core')) s (fun _ s' => Done nrf s' c core)
      (fun _ s' => s'.rest.Recorded UpfWorker.Fits) := by
  apply updateLast_meets hw h hdeploys
  simp

/-- The areas have an entry once they were updated. -/
theorem deploys_of_settled {provider : EdgeProvider} {promised : Bool}
    (h : ∀ area ∈ c.areas, s.rest.Settled provider c core area.id) :
    ∀ area ∈ c.areas, s.rest.entry area.id = none → Deploys core promised area :=
  fun area harea hnone => ((h area harea).ne_none hnone).elim

theorem overriddenHook_meets {before after : EdgeWorld UpfWorker} (hbefore : before.Reliable vims nrf)
    (hafter : after.Reliable vims nrf) (h : Standing (Brought core c) c core s)
    (hdeploys : ∀ area ∈ c.areas, s.rest.entry area.id = none → Deploys core core area)
    (subscribers values core' gnb : Option PyError) :
    Meets (HookStep.execAll (overriddenHook before after subscribers values core' gnb)) s (fun _ s' => Done nrf s' c core)
      (fun _ s' => s'.rest.Recorded UpfWorker.Fits) := by
  unfold HookStep.execAll overriddenHook
  rw [List.forM_cons, meets_bind]
  apply (HookStep.other_meets subscribers s).mono
  · rintro _ _ rfl
    rw [List.forM_cons, meets_bind]
    apply (updateEdgeAreas_meets (maintains hbefore c core core) hdeploys h).mono
    · rintro _ s₁ ⟨h₁, hsettled, -⟩
      rw [List.forM_cons, meets_bind]
      apply (HookStep.other_meets values s₁).mono
      · rintro _ _ rfl
        rw [List.forM_cons, meets_bind]
        apply (HookStep.other_meets core' _).mono
        · rintro _ _ rfl
          apply updateLast_meets hafter h₁ (deploys_of_settled hsettled)
          simp
        · rintro _ _ rfl
          exact standing_fits h₁
      · rintro _ _ rfl
        exact standing_fits h₁
    · exact fun _ _ h₁ => standing_fits h₁
  · rintro _ _ rfl
    exact standing_fits h

def setCore (core : Bool) (s : Generic5GState (EdgeNet υ)) : Generic5GState (EdgeNet υ) :=
  ⟨s.currentConfig, { s.rest with coreDeployed := core }⟩

theorem standing_deployed {rel : Int → UpfChild υ → UPFInfo → Prop} {s : Generic5GState (EdgeNet υ)}
    (h : Standing rel c core s) : Standing rel c true (setCore true s) :=
  ⟨h.config, rfl, h.records.core true⟩

theorem createSteps_meets {before after : EdgeWorld UpfWorker} (hbefore : before.Reliable vims nrf)
    (hafter : after.Reliable vims nrf) (hc : s.currentConfig = some c) (h : s.rest.Recorded UpfWorker.Fits)
    (hnew : s.rest.edgeAreas = []) (hcore : s.rest.coreDeployed = false) (checks core wait gnb : Option PyError) :
    Meets (HookStep.execAll (createSteps before after checks core wait gnb)) s (fun _ s' => Done nrf s' c true)
      (fun _ s' => s'.rest.Recorded UpfWorker.Fits) := by
  have hempty : ∀ areaId, s.rest.entry areaId = none := by
    intro areaId
    unfold entry
    rw [hnew]
    rfl
  have hstanding : Standing (Brought true c) c false s := by
    refine ⟨hc, hcore, h.mono ?_⟩
    intro areaId info upf child hinfo
    rw [hempty areaId] at hinfo
    cases hinfo
  unfold HookStep.execAll createSteps
  rw [List.forM_cons, meets_bind]
  apply (HookStep.other_meets checks s).mono
  · rintro _ _ rfl
    rw [List.forM_cons, meets_bind]
    apply (updateEdgeAreas_meets (maintains hbefore c false true) (fun _ _ _ _ => ⟨rfl, rfl⟩) hstanding).mono
    · rintro _ s₁ ⟨h₁, hsettled, -⟩
      rw [List.forM_cons, meets_bind]
      apply (HookStep.other_meets core s₁).mono
      · rintro _ _ rfl
        rw [List.forM_cons, meets_bind]
        have h₂ := standing_deployed h₁
        change Meets (HookStep.execAll [.other wait, .updateEdgeAreas after, .other gnb]) (setCore true _) _ _
        unfold HookStep.execAll
        rw [List.forM_cons, meets_bind]
        apply (HookStep.other_meets wait _).mono
        · rintro _ _ rfl
          apply updateLast_meets hafter h₂
          · exact fun area harea hnone => ((hsettled area harea).ne_none hnone).elim
          · simp
        · rintro _ _ rfl
          exact standing_fits h₂
      · rintro _ _ rfl
        exact standing_fits h₁
    · exact fun _ _ h₁ => standing_fits h₁
  · rintro _ _ rfl
    exact h

/-- An operation whose condition is met keeps what the records say. One that adds something and returns has brought the
configuration to the edge. -/
theorem EdgeOperation.exec_fits (operation : EdgeOperation UpfWorker) (hwritten : operation.AsWritten)
    (hw : ∀ w ∈ operation.worlds, w.Reliable vims nrf) (hfollows : operation.Follows s)
    (h : s.rest.Recorded UpfWorker.Fits) :
    Meets operation.exec s
      (fun _ s' => s'.rest.Recorded UpfWorker.Fits ∧ (operation.Adds → ∃ c core, Done nrf s' c core))
      (fun _ s' => s'.rest.Recorded UpfWorker.Fits) := by
  have hw' : ∀ w, .updateEdgeAreas w ∈ operation.steps → w.Reliable vims nrf := by
    intro w hstep
    exact hw w (List.mem_filterMap.2 ⟨_, hstep, rfl⟩)
  cases operation with
  | create model steps =>
    obtain ⟨before, after, checks, core, wait, gnb, rfl⟩ := hwritten
    obtain ⟨hnew, hcore⟩ := hfollows
    unfold EdgeOperation.exec
    rw [meets_bind, meets_modify, meets_bind, meets_onParent]
    apply (Generic5G.lift_meets _ _).mono
    · rintro _ _ ⟨-, rfl⟩
      apply (createSteps_meets (c := model) (s := ⟨some model, s.rest⟩) (hw' before (by simp [steps, createSteps]))
        (hw' after (by simp [steps, createSteps])) rfl h hnew hcore checks core wait gnb).mono
      · exact fun _ _ hdone => ⟨standing_fits hdone.standing, fun _ => ⟨model, true, hdone⟩⟩
      · exact fun _ _ h' => h'
    · rintro _ _ ⟨-, rfl⟩
      exact h
  | day2 op hook =>
    apply Day2Op.exec_meets
    · exact fun _ _ => h
    · intro c hc haccepted
      unfold EdgeOperation.AsWritten at hwritten
      dsimp only at hwritten
      split at hwritten
      · rename_i hchanges
        obtain ⟨hdeployed, hpools⟩ := hfollows c hc haccepted hchanges
        have hdeploys : ∀ area ∈ (op.requested c).areas, s.rest.entry area.id = none →
            Deploys s.rest.coreDeployed s.rest.coreDeployed area :=
          fun area harea hnone hupdate => (hdeployed area harea hupdate hnone).elim
        have hstanding : Standing (Brought s.rest.coreDeployed (op.requested c)) (op.requested c) s.rest.coreDeployed
            ⟨some (op.requested c), s.rest⟩ := by
          refine ⟨rfl, rfl, h.mono ?_⟩
          intro areaId info upf child hinfo hupf hchild hfits
          have hkey : info.area = areaId := toMap_some_key hinfo
          refine ⟨hfits, ?_⟩
          intro _ blueprint hblueprint
          rw [← hkey]
          exact hpools info (toMap_some_mem hinfo) upf hupf child hchild blueprint hblueprint
        rcases hwritten with ⟨w, gnb, core, rfl⟩ | ⟨before, after, subscribers, values, core, gnb, rfl⟩
        · apply (genericHook_meets (hw' w (by simp [steps, genericHook])) hstanding hdeploys gnb core).mono
          · exact fun _ _ hdone => ⟨standing_fits hdone.standing, fun _ => ⟨_, _, hdone⟩⟩
          · exact fun _ _ h' => h'
        · apply (overriddenHook_meets (hw' before (by simp [steps, overriddenHook]))
            (hw' after (by simp [steps, overriddenHook])) hstanding hdeploys subscribers values core gnb).mono
          · exact fun _ _ hdone => ⟨standing_fits hdone.standing, fun _ => ⟨_, _, hdone⟩⟩
          · exact fun _ _ h' => h'
      · rename_i hchanges
        apply (HookStep.others_meets hook hwritten _).mono
        · rintro _ _ rfl
          refine ⟨h, fun hadds => ?_⟩
          cases op <;> first | exact (hchanges rfl).elim | exact hadds.elim
        · rintro _ _ rfl
          exact h

end Hooks

/-! ### Runs -/

/-- Every VM listed for an area has run `configure_vm` with what the area's record says, which is what
`_create_upf_config` answers. -/
structure UpfsConfigured (provider : EdgeProvider) (s : Generic5GState (EdgeNet UpfWorker)) : Prop where
  deployed : ∀ c, s.currentConfig = some c → ∀ area ∈ c.areas, ∃ info upf,
    s.rest.entry area.id = some info ∧ info.upf = some upf
  configured : ∀ areaId info upf, s.rest.entry areaId = some info → info.upf = some upf →
    ∃ child blueprint, s.rest.upfs upf.blueId = some child ∧ child.state.blueprint = some blueprint ∧
      blueprint.Configured upf.currentConfig upf.upfList ∧
      returned ((Generic5G.createUpfConfig provider areaId).run (EdgeNet.parent s)) = some upf.currentConfig

/-- No call of a UPF blueprint in use has raised. -/
def EdgeNet.NoneRaised (net : EdgeNet UpfWorker) : Prop :=
  ∀ info ∈ net.edgeAreas, ∀ upf ∈ info.upf, ∀ child ∈ net.upfs upf.blueId, child.state.raised = none

theorem createUpfConfig_returned {provider : EdgeProvider} {s : Generic5GState (EdgeNet υ)} (hprovider : provider.Reliable nrf)
    (hconfig : s.currentConfig = some c) (hcore : s.rest.coreDeployed = core) (hinfo : s.rest.entry areaId = some info)
    (hrouter : info.router = some router) (h : EdgeProvider.Computes provider' c core areaId router model)
    (hprovider' : provider'.Reliable nrf) :
    returned ((Generic5G.createUpfConfig provider areaId).run (EdgeNet.parent s)) = some model := by
  obtain ⟨config, r⟩ := s
  cases hconfig
  obtain ⟨nrfIp, hnrf, slices, networks, hslices, hnetworks, rfl⟩ := h
  have hleads : Generic5G.Leads c (Generic5G.createUpfConfig provider areaId) r.toEdgeState _ _ :=
    Generic5G.createUpfConfig_leads hinfo hrouter
  have hmeets := (Generic5G.createUpfConfig_meets provider areaId ⟨some c, r.toEdgeState⟩).and hleads
  unfold Meets at hmeets
  change returned ((Generic5G.createUpfConfig provider areaId).run ⟨some c, r.toEdgeState⟩) = _
  cases hrun : (Generic5G.createUpfConfig provider areaId).run ⟨some c, r.toEdgeState⟩ with
  | error e s' =>
    rw [hrun] at hmeets
    obtain ⟨-, -, -, hno⟩ := hmeets
    exact (hno ⟨⟨⟨slices, hslices⟩, networks, hnetworks⟩, fun n => hprovider.returns _ _ n⟩).elim
  | ok model s' =>
    rw [hrun] at hmeets
    obtain ⟨⟨⟨c', info', router', nrfIp', hc', hinfo', hrouter', hnrf', slices', networks', hslices', hnetworks', rfl⟩, -⟩, -⟩ :=
      hmeets
    cases hc'
    cases hinfo.symm.trans hinfo'
    cases hrouter.symm.trans hrouter'
    cases hslices.symm.trans hslices'
    cases hnetworks.symm.trans hnetworks'
    have hsame : nrfIp' = nrfIp := by
      change (if r.coreDeployed then _ else _) at hnrf'
      change r.coreDeployed = core at hcore
      rw [hcore] at hnrf'
      cases core with
      | false => exact hnrf'.trans hnrf.symm
      | true =>
        obtain ⟨n, rfl⟩ := hnrf
        obtain ⟨n', rfl⟩ := hnrf'
        rw [hprovider.nrfIp, hprovider'.nrfIp]
    rw [hsame]
    rfl

theorem EdgeNet.Done.configured {s : Generic5GState (EdgeNet UpfWorker)} (h : EdgeNet.Done nrf s c core)
    {provider : EdgeProvider} (hprovider : provider.Reliable nrf) (hraised : s.rest.NoneRaised) : UpfsConfigured provider s where
  deployed := by
    intro c' hc' area harea
    cases h.standing.config.symm.trans hc'
    obtain ⟨provider', -, info, router, upf, hinfo, -, hupf, -⟩ := h.settled area harea
    exact ⟨info, upf, hinfo, hupf⟩
  configured := by
    intro areaId info upf hinfo hupf
    have hknown := h.known areaId (by rw [hinfo]; exact Option.some_ne_none info)
    obtain ⟨area, harea, rfl⟩ := List.mem_map.1 hknown
    obtain ⟨provider', hprovider', info', router, upf', hinfo', hrouter, hupf', hcomputes⟩ := h.settled area harea
    cases hinfo.symm.trans hinfo'
    cases hupf.symm.trans hupf'
    obtain ⟨-, child, hchild, hbrought⟩ := (h.standing.records.holds area.id info hinfo).upf upf hupf
    have hnone := hraised info (toMap_some_mem hinfo) upf hupf child hchild
    obtain ⟨blueprint, hblueprint, hfits⟩ := hbrought.fits.fits hnone
    have hfollows := hbrought.follows hnone blueprint hblueprint
    have hlist : upf.upfList = blueprint.getUpfsInfo := by
      rw [hbrought.fits.listed, hblueprint]
      rfl
    refine ⟨child, blueprint, hchild, hblueprint, ?_, ?_⟩
    · rw [hlist]
      apply hfits.configured
      intro hnrf
      by_contra hother
      have hcore := hfollows.core_of_other (fun s hs => hother ⟨s, hs⟩)
      rw [hcomputes.nrfIp_eq_none_iff, hcore] at hnrf
      cases hnrf
    · exact createUpfConfig_returned hprovider h.standing.config h.standing.core hinfo hrouter hcomputes hprovider'

/-- In every run whose operations meet the condition, after every `create`, `add_slice` or `add_tac` that returns, every
deployed UPF is configured. -/
theorem upfs_configured (vims : Nat → VmProvider) (nrf : IPv4Address) (operations : List (EdgeOperation UpfWorker))
    (last : EdgeOperation UpfWorker) (hwritten : ∀ operation ∈ operations ++ [last], operation.AsWritten)
    (hworlds : ∀ operation ∈ operations ++ [last], ∀ w ∈ operation.worlds, w.Reliable vims nrf)
    (hfollows : AllSteps EdgeOperation.exec EdgeOperation.Follows ⟨none, {}⟩ (operations ++ [last]))
    (hadds : last.Adds) (s' : Generic5GState (EdgeNet UpfWorker))
    (h : last.exec.run (runAll EdgeOperation.exec ⟨none, {}⟩ operations) = .ok () s') (hraised : s'.rest.NoneRaised)
    (provider : EdgeProvider) (hprovider : provider.Reliable nrf) : UpfsConfigured provider s' := by
  have hsteps := (AllSteps.of_mem EdgeOperation.exec hwritten _).and EdgeOperation.exec
    ((AllSteps.of_mem EdgeOperation.exec hworlds _).and EdgeOperation.exec hfollows)
  obtain ⟨hbefore, hlast, -⟩ := (allSteps_append EdgeOperation.exec).1 hsteps
  have hempty : (⟨none, {}⟩ : Generic5GState (EdgeNet UpfWorker)).rest.Recorded UpfWorker.Fits := EdgeNet.Recorded.empty
  have hrun := runAll_invariant (I := fun s : Generic5GState (EdgeNet UpfWorker) => s.rest.Recorded UpfWorker.Fits)
    EdgeOperation.exec (fun operation s hC hs => Meets.finalState (I := fun s => s.rest.Recorded UpfWorker.Fits)
      ((operation.exec_fits hC.1 hC.2.1 hC.2.2 hs).mono (fun _ _ h' => h'.1) (fun _ _ h' => h'))) operations hbefore hempty
  have hmeets := last.exec_fits hlast.1 hlast.2.1 hlast.2.2 hrun
  unfold Meets at hmeets
  rw [h] at hmeets
  obtain ⟨c, core, hdone⟩ := hmeets.2 hadds
  exact hdone.configured hprovider hraised

/-! ### A campus with OAI UPFs -/

def oaiWorld : EdgeWorld UpfWorker where
  provider := campusProvider (fun _ _ _ => none)
  machine := upfMachine (fun _ => campusVims)

def oaiCreate : EdgeOperation UpfWorker :=
  .create (campusConfig [campusArea 1 campusSlices]) (createSteps oaiWorld oaiWorld none none none none)

/-- A day2 operation of OpenAirInterface whose other steps return. -/
def oaiDay2 (op : Day2Op) : EdgeOperation UpfWorker :=
  .day2 op (overriddenHook oaiWorld oaiWorld none none none none)

theorem oaiWorld_reliable : oaiWorld.Reliable (fun _ => campusVims) (campusAddress 7) :=
  ⟨⟨fun _ _ _ => rfl, fun _ => rfl⟩, rfl⟩

/-- The VMs listed for an area, and whether they were configured. -/
def EdgeNet.configuredVms (net : EdgeNet UpfWorker) (areaId : Int) : List (String × Bool) :=
  match (net.entry areaId).bind EdgeAreaInfo.upf with
  | none => []
  | some upf => upf.upfList.map (fun info =>
    (info.vmResourceId, ((((net.upfs upf.blueId).bind (fun child => child.state.blueprint)).bind
      (fun blueprint => blueprint.lastConfiguration info.vmResourceId)).isSome)))

def oaiSlice : Core5GAddSliceModel where
  toSubSliceProfiles := embbProfile "000002" []
  areaIds := some ["1"]

/-- The blueprint after `create`. -/
def oaiCreated : Generic5GState (EdgeNet UpfWorker) :=
  runAll EdgeOperation.exec ⟨none, {}⟩ [oaiCreate]

theorem oaiRun_written (op : Day2Op) (h : op.changesEdge = true) :
    ∀ operation ∈ [oaiCreate] ++ [oaiDay2 op], operation.AsWritten := by
  intro operation hoperation
  simp only [List.cons_append, List.nil_append, List.mem_cons, List.not_mem_nil, or_false] at hoperation
  rcases hoperation with rfl | rfl
  · exact ⟨oaiWorld, oaiWorld, none, none, none, none, rfl⟩
  · unfold oaiDay2 EdgeOperation.AsWritten
    dsimp only
    rw [if_pos h]
    exact .inr ⟨oaiWorld, oaiWorld, none, none, none, none, rfl⟩

theorem oaiRun_reliable (op : Day2Op) : ∀ operation ∈ [oaiCreate] ++ [oaiDay2 op], ∀ w ∈ operation.worlds,
    w.Reliable (fun _ => campusVims) (campusAddress 7) := by
  intro operation hoperation w hw
  simp only [List.cons_append, List.nil_append, List.mem_cons, List.not_mem_nil, or_false] at hoperation
  have hself : w = oaiWorld := by
    rcases hoperation with rfl | rfl
    · simpa [oaiCreate, EdgeOperation.worlds, EdgeOperation.steps, createSteps] using hw
    · simpa [oaiDay2, EdgeOperation.worlds, EdgeOperation.steps, overriddenHook] using hw
  rw [hself]
  exact oaiWorld_reliable

theorem oaiSlice_follows : (oaiDay2 (.addSliceOperator oaiSlice)).Follows oaiCreated := by
  have hconfig : oaiCreated.currentConfig = some (campusConfig [campusArea 1 campusSlices]) := by decide +kernel
  have hcore : oaiCreated.rest.coreDeployed = true := by decide +kernel
  intro c hc _ _
  cases hconfig.symm.trans hc
  refine ⟨by decide +kernel, ?_⟩
  have hkinds : ∀ info ∈ oaiCreated.rest.edgeAreas, ∀ upf ∈ info.upf, ∀ child ∈ oaiCreated.rest.upfs upf.blueId,
      ∀ blueprint ∈ child.state.blueprint, (match blueprint with | .sdcore _ => false | _ => true) = true := by
    decide +kernel
  intro info hinfo upf hupf child hchild blueprint hblueprint
  have hkind := hkinds info hinfo upf hupf child hchild blueprint hblueprint
  cases blueprint with
  | oai s => exact hcore
  | free5gc s => exact hcore
  | sdcore s => cases hkind

/-- A slice is added to area 1. -/
theorem upfs_configured_campus :
    UpfsConfigured oaiWorld.provider (runAll EdgeOperation.exec ⟨none, {}⟩ [oaiCreate, oaiDay2 (.addSliceOperator oaiSlice)]) := by
  apply upfs_configured (fun _ => campusVims) (campusAddress 7) [oaiCreate] (oaiDay2 (.addSliceOperator oaiSlice))
  · exact oaiRun_written _ rfl
  · exact oaiRun_reliable _
  · exact ⟨⟨rfl, rfl⟩, oaiSlice_follows, trivial⟩
  · trivial
  · exact eq_ok_of_not_raised (by decide +kernel)
  · unfold EdgeNet.NoneRaised
    decide +kernel
  · exact oaiWorld_reliable.provider

theorem UpfsConfigured.vms {provider : EdgeProvider} {s : Generic5GState (EdgeNet UpfWorker)} (h : UpfsConfigured provider s)
    (areaId : Int) : ∀ vm ∈ s.rest.configuredVms areaId, vm.2 = true := by
  unfold EdgeNet.configuredVms
  cases hupf : (s.rest.entry areaId).bind EdgeAreaInfo.upf with
  | none => exact fun vm hvm => (nomatch hvm)
  | some upf =>
    obtain ⟨info, hinfo, hupf⟩ := Option.bind_eq_some_iff.1 hupf
    obtain ⟨child, blueprint, hchild, hblueprint, hconfigured, -⟩ := h.configured areaId info upf hinfo hupf
    intro vm hvm
    obtain ⟨deployed, hdeployed, rfl⟩ := List.mem_map.1 hvm
    obtain ⟨configuration, hlast, -⟩ := hconfigured.ran deployed hdeployed
    rw [hchild, Option.bind_some, hblueprint, Option.bind_some, hlast]
    rfl

/-- An area is added once the core is deployed, and its UPF is never sent an update. -/
theorem upfs_configured_fails :
    ¬ ∀ (vims : Nat → VmProvider) (nrf : IPv4Address) (operations : List (EdgeOperation UpfWorker))
      (last : EdgeOperation UpfWorker) (s' : Generic5GState (EdgeNet UpfWorker)) (provider : EdgeProvider),
      (∀ operation ∈ operations ++ [last], operation.AsWritten) →
      (∀ operation ∈ operations ++ [last], ∀ w ∈ operation.worlds, w.Reliable vims nrf) → last.Adds →
      last.exec.run (runAll EdgeOperation.exec ⟨none, {}⟩ operations) = .ok () s' → s'.rest.NoneRaised →
      provider.Reliable nrf → UpfsConfigured provider s' := by
  intro h
  have hconfigured := h (fun _ => campusVims) (campusAddress 7) [oaiCreate] (oaiDay2 (.addTac (campusArea 2 campusSlices)))
    _ oaiWorld.provider ?_ ?_ trivial (eq_ok_of_not_raised (by decide +kernel)) (by unfold EdgeNet.NoneRaised; decide +kernel)
    oaiWorld_reliable.provider
  · exact absurd (hconfigured.vms 2) (by decide +kernel)
  · exact oaiRun_written _ rfl
  · exact oaiRun_reliable _

end Nfvcl
