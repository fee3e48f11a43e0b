import Mathlib.Data.List.Basic
import Nfvcl.EdgeRecords
import Nfvcl.EdgeRecovery

namespace Nfvcl
set_option autoImplicit true
open Effects KeyedList

/-- UPF blueprints that carry out what they are asked, and report afterwards. The first report of a new
one (the call after its creation) may fail. -/
structure EdgeWorld.Obeyed (w : EdgeWorld υ) : Prop where
  created : ∀ n upfType model, (w.machine.create n upfType model).2 = none
  updated : ∀ n model state, (w.machine.update n model state).2 = none
  reported : ∀ upf area n, n ≠ upf + 1 → w.provider.raises (.getUpfsInfo upf) area n = none

/-- A UPF has applied the configuration recorded. -/
def UpfChild.Applied (areaId : Int) (child : UpfChild υ) (upf : UPFInfo) : Prop :=
  upf.currentConfig.areaId = areaId ∧ child.applied = some upf.currentConfig

theorem EdgeWorld.Obeyed.maintains {w : EdgeWorld υ} (hw : w.Obeyed) (c : Create5gModel) (core : Bool) :
    w.Maintains c core (fun _ => True) UpfChild.Applied where
  distinct := by
    rintro a b child upf upf' ⟨ha, happlied⟩ ⟨hb, happlied'⟩
    rw [happlied, Option.some.injEq] at happlied'
    rw [← ha, ← hb, happlied']
  created := by
    intro area upfType router n info _ _ hcomputes _
    refine ⟨hcomputes.areaId_eq, ?_⟩
    unfold UpfMachine.created
    rw [hw.created]
    rfl
  updated := by
    intro areaId router n child upf info _ hcomputes _
    refine ⟨hcomputes.areaId_eq, ?_⟩
    unfold UpfMachine.updated
    rw [hw.updated]
    rfl
  reported := hw.reported

namespace EdgeNet

variable {υ : Type}

/-- The record of every UPF is the configuration it applied last. -/
def Agrees (net : EdgeNet υ) : Prop :=
  ∀ areaId info upf, net.entry areaId = some info → info.upf = some upf →
    ∃ child, net.upfs upf.blueId = some child ∧ child.applied = some upf.currentConfig

theorem Agrees.recordOf {net : EdgeNet υ} (h : net.Agrees) (areaId : Int) :
    ∀ upf ∈ (net.entry areaId).bind EdgeAreaInfo.upf,
      (net.upfs upf.blueId).bind UpfChild.applied = some upf.currentConfig := by
  intro upf hupf
  obtain ⟨info, hinfo, hupf⟩ := Option.bind_eq_some_iff.1 hupf
  obtain ⟨child, hchild, happlied⟩ := h areaId info upf hinfo hupf
  rw [hchild]
  exact happlied

theorem Recorded.agrees {net : EdgeNet υ} (h : net.Recorded UpfChild.Applied) : net.Agrees := by
  intro areaId info upf hinfo hupf
  obtain ⟨-, child, hchild, -, happlied⟩ := (h.holds areaId info hinfo).upf upf hupf
  exact ⟨child, hchild, happlied⟩

theorem updateEdgeAreas_records {w : EdgeWorld υ} {s : Generic5GState (EdgeNet υ)} (hw : w.Obeyed)
    (h : s.rest.Recorded UpfChild.Applied) :
    Meets (updateEdgeAreas w) s (fun _ s' => s'.rest.Recorded UpfChild.Applied)
      (fun _ s' => s'.rest.Recorded UpfChild.Applied) := by
  obtain ⟨config, r⟩ := s
  cases config with
  | none => exact h
  | some c =>
    apply (updateEdgeAreas_meets (hw.maintains c r.coreDeployed) (fun _ _ _ => trivial) ⟨rfl, rfl, h⟩).mono
    · exact fun _ _ h' => h'.1.records
    · exact fun _ _ h' => h'.records

end EdgeNet

section Runs

variable {s : Generic5GState (EdgeNet υ)}

theorem HookStep.execAll_records (steps : List (HookStep υ)) (hw : ∀ w, .updateEdgeAreas w ∈ steps → w.Obeyed)
    (h : s.rest.Recorded UpfChild.Applied) :
    Meets (HookStep.execAll steps) s (fun _ s' => s'.rest.Recorded UpfChild.Applied)
      (fun _ s' => s'.rest.Recorded UpfChild.Applied) := by
  apply Meets.forM (s := s) (I := fun s' => s'.rest.Recorded UpfChild.Applied) _ h
  intro step hstep s₁ h₁
  cases step with
  | updateEdgeAreas w => exact EdgeNet.updateEdgeAreas_records (hw w hstep) h₁
  | coreDeployed => exact h₁.core true
  | other result =>
    cases result with
    | none => exact h₁
    | some e => exact h₁

theorem EdgeOperation.exec_records (operation : EdgeOperation υ) (hw : ∀ w ∈ operation.worlds, w.Obeyed)
    (h : s.rest.Recorded UpfChild.Applied) : (finalState (operation.exec.run s)).rest.Recorded UpfChild.Applied := by
  have hw' : ∀ w, .updateEdgeAreas w ∈ operation.steps → w.Obeyed := by
    intro w hstep
    exact hw w (List.mem_filterMap.2 ⟨_, hstep, rfl⟩)
  apply Meets.finalState (I := fun s' : Generic5GState (EdgeNet υ) => s'.rest.Recorded UpfChild.Applied)
  cases operation with
  | create model steps =>
    unfold EdgeOperation.exec
    rw [meets_bind, meets_modify, meets_bind, EdgeNet.meets_onParent]
    apply (Generic5G.lift_meets _ _).mono
    · rintro _ _ ⟨-, rfl⟩
      exact HookStep.execAll_records steps hw' h
    · rintro _ _ ⟨-, rfl⟩
      exact h
  | day2 op hook =>
    apply Day2Op.exec_meets
    · exact fun _ _ => h
    · exact fun c _ _ => HookStep.execAll_records hook hw' h

/-- With UPFs that do what they are asked, an update that returns leaves the records in agreement with them.
The last operation of a run may end anywhere, so the update may be any one inside an operation. -/
theorem records_agree (operations : List (EdgeOperation υ)) (w : EdgeWorld υ)
    (hobeyed : ∀ operation ∈ operations, ∀ w ∈ operation.worlds, w.Obeyed) (hw : w.Obeyed)
    (s' : Generic5GState (EdgeNet υ))
    (h : (EdgeNet.updateEdgeAreas w).run (runAll EdgeOperation.exec ⟨none, {}⟩ operations) = .ok () s') :
    s'.rest.Agrees := by
  have hempty : (⟨none, {}⟩ : Generic5GState (EdgeNet υ)).rest.Recorded UpfChild.Applied := EdgeNet.Recorded.empty
  have hrun := runAll_mem (I := fun s : Generic5GState (EdgeNet υ) => s.rest.Recorded UpfChild.Applied) EdgeOperation.exec
    operations (fun operation hmem s hs => operation.exec_records (hobeyed operation hmem) hs) hempty
  have hupdate := EdgeNet.updateEdgeAreas_records hw hrun
  unfold Meets at hupdate
  rw [h] at hupdate
  exact hupdate.agrees

end Runs

/-- The UPFs of the campus. An `update` may raise in the UPF's worker, when it has to be configured again. -/
def campusWorld (updated : Option PyError) : EdgeWorld Unit where
  provider := campusProvider (fun _ _ _ => none)
  machine := {
    create := fun _ _ _ => ((), none)
    update := fun _ _ _ => ((), updated)
    upfsInfo := fun _ => (campusProvider (fun _ _ _ => none)).upfsInfo 0 }

/-- `create` up to the second update of the edge areas. -/
def campusDeployment : EdgeOperation Unit :=
  .create (campusConfig [campusArea 1 campusSlices]) [.updateEdgeAreas (campusWorld none), .coreDeployed]

theorem campusWorld_obeyed : (campusWorld none).Obeyed where
  created := fun _ _ _ => rfl
  updated := fun _ _ _ => rfl
  reported := fun _ _ _ _ => rfl

/-- The UPF of area 1 is sent the address of the NRF. -/
theorem records_agree_campus :
    (finalState ((EdgeNet.updateEdgeAreas (campusWorld none)).run
      (runAll EdgeOperation.exec ⟨none, {}⟩ [campusDeployment]))).rest.Agrees := by
  apply records_agree [campusDeployment] (campusWorld none) _ campusWorld_obeyed
  · exact eq_ok_of_not_raised (by decide +kernel)
  · intro operation hoperation w hw
    rw [List.mem_singleton.1 hoperation] at hw
    rw [List.mem_singleton.1 hw]
    exact campusWorld_obeyed

/-- The update raises in the worker of the UPF, and the parent records the configuration all the same. -/
theorem records_agree_fails :
    ¬ ∀ (operations : List (EdgeOperation Unit)) (w : EdgeWorld Unit) (s' : Generic5GState (EdgeNet Unit)),
      (EdgeNet.updateEdgeAreas w).run (runAll EdgeOperation.exec ⟨none, {}⟩ operations) = .ok () s' →
      s'.rest.Agrees := by
  intro h
  have hagrees := h [campusDeployment] (campusWorld (some (.external "ansible: host unreachable"))) _
    (eq_ok_of_not_raised (by decide +kernel))
  exact absurd (hagrees.recordOf 1) (by decide +kernel)

end Nfvcl
