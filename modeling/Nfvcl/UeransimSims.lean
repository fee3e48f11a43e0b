import Nfvcl.Maintained
import Nfvcl.Playbooks
import Nfvcl.Projections
import Nfvcl.UeransimRegistry

namespace Nfvcl
set_option autoImplicit true
open Effects Playbooks

/-! ### The playbook of a UE -/

inductive ServiceState where
  | started
  | stopped
  | restarted
  | reloaded
  deriving DecidableEq, Repr

/-- A task of the playbook. The names of files and services are those of the number of a SIM. -/
inductive UeTask where
  | service (imsi : String) (state : ServiceState) (enabled : Bool)
  | rm (imsi : String)
  | template (sim : UeransimSim) (gnbSearchList : List String)
  | copy (imsi : String)
  | replace (imsi regexp value : String)
  | daemonReload
  deriving DecidableEq, Repr

/-- What a VM has of the SIM with a number. -/
structure SimService where
  /-- `/opt/UERANSIM/ue-sim-<imsi>.conf`. -/
  conf : Option (UeransimSim × List String) := none
  /-- What was replaced in the copy of the image's unit file. -/
  unit : Option (List (String × String)) := none
  running : Bool := false
  enabled : Bool := false
  deriving DecidableEq, Repr

namespace UeransimUEConfigurator

def ueSimConfigPath (imsi : String) : String := s!"/opt/UERANSIM/ue-sim-{imsi}.conf"

def deleteTasks (sim : UeransimSim) : List UeTask :=
  [.service sim.imsi .stopped false, .rm sim.imsi]

def installTasks (gnbSearchList : List String) (sim : UeransimSim) : List UeTask :=
  [.template sim gnbSearchList, .copy sim.imsi, .replace sim.imsi "/opt/UERANSIM/ue.conf" (ueSimConfigPath sim.imsi),
    .replace sim.imsi "UERANSIM UE" s!"UERANSIM UE SIM {sim.imsi}", .daemonReload, .service sim.imsi .restarted true]

def dumpPlaybook (configurator : UeransimUEConfigurator) : List UeTask :=
  configurator.simsToDelete.flatMap deleteTasks ++ configurator.sims.flatMap (installTasks configurator.gnbSearchList)

/-- A SIM whose service runs. -/
def served (gnbSearchList : List String) (sim : UeransimSim) : SimService where
  conf := some (sim, gnbSearchList)
  unit := some [("/opt/UERANSIM/ue.conf", ueSimConfigPath sim.imsi), ("UERANSIM UE", s!"UERANSIM UE SIM {sim.imsi}")]
  running := true
  enabled := true

/-- Of the SIMs with a number the last is served. -/
def lastSim (sims : List UeransimSim) (imsi : String) : Option UeransimSim :=
  (sims.filter (fun sim => decide (sim.imsi = imsi))).getLast?

def imsis (sims : List UeransimSim) : List String :=
  sims.map UeransimSim.imsi

end UeransimUEConfigurator

open UeransimUEConfigurator

def UeTask.imsi : UeTask → Option String
  | .service imsi _ _ => some imsi
  | .rm imsi => some imsi
  | .template sim _ => some sim.imsi
  | .copy imsi => some imsi
  | .replace imsi _ _ => some imsi
  | .daemonReload => none

def UeTask.effect : UeTask → SimService → SimService
  | .service _ state enabled, part => { part with running := decide (state ≠ .stopped), enabled }
  | .rm _, part => { part with conf := none, unit := none }
  | .template sim gnbSearchList, part => { part with conf := some (sim, gnbSearchList) }
  | .copy _, part => { part with unit := some [] }
  | .replace _ regexp value, part => { part with unit := part.unit.map (· ++ [(regexp, value)]) }
  | .daemonReload, part => part

/-- The VM of a UE: its tasks, the numbers of SIMs and their services. -/
def ueMachine : Machine UeTask String SimService where
  key := UeTask.imsi
  effect := UeTask.effect

section Tasks

variable {imsi : String} {sim : UeransimSim} {gnbSearchList : List String}

theorem about_deleteTasks (imsi : String) (sim : UeransimSim) :
    ueMachine.about imsi (deleteTasks sim) = if sim.imsi = imsi then deleteTasks sim else [] := by
  simp only [deleteTasks, Machine.about_cons, ueMachine, UeTask.imsi, Option.some.injEq]
  split <;> rfl

theorem foldl_deleteTasks (sim : UeransimSim) (service : SimService) :
    (deleteTasks sim).foldl (fun part t => ueMachine.effect t part) service = {} := rfl

/-- The tasks about a SIM but for the reload of the services. -/
theorem about_installTasks (imsi : String) (gnbSearchList : List String) (sim : UeransimSim) (service : SimService) :
    (ueMachine.about imsi (installTasks gnbSearchList sim)).foldl (fun part t => ueMachine.effect t part) service =
      if sim.imsi = imsi then served gnbSearchList sim else service := by
  simp only [installTasks, Machine.about_cons, ueMachine, UeTask.imsi, Option.some.injEq, reduceCtorEq, if_false]
  split <;> rfl

theorem foldl_deletes (imsi : String) (sims : List UeransimSim) (service : SimService) :
    (ueMachine.about imsi (sims.flatMap deleteTasks)).foldl (fun part t => ueMachine.effect t part) service =
      if imsi ∈ imsis sims then {} else service := by
  induction sims generalizing service with
  | nil => rfl
  | cons sim sims ih =>
    rw [List.flatMap_cons, Machine.about_append, List.foldl_append, about_deleteTasks, ih]
    by_cases h : sim.imsi = imsi
    · rw [if_pos h, foldl_deleteTasks, ite_self, if_pos]
      rw [← h]
      exact List.mem_cons_self
    · have hiff : imsi ∈ imsis (sim :: sims) ↔ imsi ∈ imsis sims := by
        rw [imsis, List.map_cons, List.mem_cons]
        exact or_iff_right (fun he => h he.symm)
      rw [if_neg h, List.foldl_nil]
      exact if_congr hiff.symm rfl rfl

theorem foldl_installs (imsi : String) (gnbSearchList : List String) (sims : List UeransimSim) (service : SimService) :
    (ueMachine.about imsi (sims.flatMap (installTasks gnbSearchList))).foldl (fun part t => ueMachine.effect t part) service =
      ((lastSim sims imsi).map (served gnbSearchList)).getD service := by
  induction sims using List.reverseRecOn with
  | nil => rfl
  | append_singleton sims sim ih =>
    rw [List.flatMap_append, List.flatMap_singleton, Machine.about_append, List.foldl_append, about_installTasks, ih]
    simp only [lastSim, List.filter_append, List.filter_singleton]
    by_cases h : sim.imsi = imsi
    · rw [if_pos h, decide_eq_true h]
      simp only [cond_true, List.getLast?_append, List.getLast?_singleton, Option.some_or, Option.map_some, Option.getD_some]
    · rw [if_neg h, decide_eq_false h]
      simp only [cond_false, List.append_nil]

theorem lastSim_eq_none {sims : List UeransimSim} : lastSim sims imsi = none ↔ imsi ∉ imsis sims := by
  rw [lastSim, List.getLast?_eq_none_iff, List.filter_eq_nil_iff, imsis, List.mem_map]
  simp only [decide_eq_true_eq, not_exists, not_and]

end Tasks

/-- A run of the playbook of a UE's configurator. -/
structure SimPlaybook where
  configurator : UeransimUEConfigurator
  succeeded : Bool
  completed : Nat
  torn : SimService → SimService

namespace SimPlaybook

def attempt (r : SimPlaybook) : Attempt UeTask SimService :=
  ⟨r.configurator.dumpPlaybook, r.succeeded, r.completed, r.torn⟩

/-- The services of a VM after playbooks were run on it. -/
def services (playbooks : List SimPlaybook) : String → SimService :=
  ueMachine.afterAll (fun _ => {}) (playbooks.map attempt)

variable {r : SimPlaybook} {playbooks : List SimPlaybook} {imsi : String}

theorem services_concat (playbooks : List SimPlaybook) (r : SimPlaybook) :
    services (playbooks ++ [r]) = ueMachine.after (services playbooks) r.attempt := by
  rw [services, List.map_append]
  exact Machine.afterAll_concat _ _ _

theorem services_succeeded (h : r.succeeded = true) (playbooks : List SimPlaybook) (imsi : String) :
    services (playbooks ++ [r]) imsi =
      ((lastSim r.configurator.sims imsi).map (served r.configurator.gnbSearchList)).getD
        (if imsi ∈ imsis r.configurator.simsToDelete then {} else services playbooks imsi) := by
  rw [services_concat, Machine.after_succeeded h, attempt, dumpPlaybook, Machine.about_append, List.foldl_append, foldl_deletes,
    foldl_installs]

theorem imsi_mem_of_task {t : UeTask} (ht : t ∈ r.configurator.dumpPlaybook) (himsi : t.imsi = some imsi) :
    imsi ∈ imsis r.configurator.simsToDelete ∨ imsi ∈ imsis r.configurator.sims := by
  rcases List.mem_append.1 ht with ht | ht
  · obtain ⟨sim, hsim, ht⟩ := List.mem_flatMap.1 ht
    have hkey : sim.imsi = imsi := by
      simp only [deleteTasks, List.mem_cons, List.not_mem_nil, or_false] at ht
      rcases ht with rfl | rfl <;> exact Option.some.inj himsi
    exact .inl (List.mem_map.2 ⟨sim, hsim, hkey⟩)
  · obtain ⟨sim, hsim, ht⟩ := List.mem_flatMap.1 ht
    have hkey : sim.imsi = imsi := by
      simp only [installTasks, List.mem_cons, List.not_mem_nil, or_false] at ht
      rcases ht with rfl | rfl | rfl | rfl | rfl | rfl
      case inr.inr.inr.inr.inl => cases himsi
      all_goals exact Option.some.inj himsi
    exact .inr (List.mem_map.2 ⟨sim, hsim, hkey⟩)

/-- A playbook leaves the SIMs alone that it neither installs nor deletes, wherever it stops. -/
theorem services_other (hdelete : imsi ∉ imsis r.configurator.simsToDelete) (hsims : imsi ∉ imsis r.configurator.sims)
    (playbooks : List SimPlaybook) : services (playbooks ++ [r]) imsi = services playbooks imsi := by
  rw [services_concat]
  apply Machine.after_untouched
  intro t ht himsi
  exact (imsi_mem_of_task ht himsi).elim hdelete hsims

end SimPlaybook

end Nfvcl
