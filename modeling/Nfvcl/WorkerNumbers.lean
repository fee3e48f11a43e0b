import Mathlib.Data.List.Basic
import Mathlib.Data.List.Nodup
import Std.Data.String.ToNat
import Nfvcl.K8sBlueprint

namespace Nfvcl
set_option autoImplicit true
open Effects ListUpdates

namespace K8sBlueprint
open K8sBlueprintState

/-- A number is 1 while its worker is listed, so numbers run out with 18 workers and none is given twice. -/
structure Numbered (id : String) (s : K8sBlueprintState) : Prop where
  names : (s.vmWorkers.map NodeVm.name).Nodup
  numbers : ∀ n < 18, s.workerNumbers[n]? = some 1 ↔ ∃ vm ∈ s.vmWorkers, vm.name = workerName id n
  exhausted : Raised (reserveWorkerNumber.run s) → s.vmWorkers.length = 18
  fresh : ∀ n s', reserveWorkerNumber.run s = .ok n s' → n < 18 ∧ ∀ vm ∈ s.vmWorkers, vm.name ≠ workerName id n

/-- What holds in every state of a run. -/
structure Tracked (id : String) (s : K8sBlueprintState) : Prop where
  length : s.workerNumbers.length = 18
  binary : ∀ n ∈ s.workerNumbers, n = 0 ∨ n = 1
  names : (s.vmWorkers.map NodeVm.name).Nodup
  numbered : ∀ vm ∈ s.vmWorkers, ∃ n, vm.name = workerName id n ∧ s.workerNumbers[n]? = some 1
  configurators : (s.day0WorkersConfigurators.map (fun configurator => configurator.vmResource.name)).Nodup
  configured : ∀ configurator ∈ s.day0WorkersConfigurators,
    configurator.vmResource.name = workerName id configurator.vmNumber ∧ configurator.vmResource ∈ s.vmWorkers
  registered : s.registeredResources.Nodup
  given : ∀ resource ∈ s.registeredResources, resource < s.ids

/-- A number is taken that no worker has. -/
def Leaked (id : String) (s : K8sBlueprintState) : Prop :=
  ∃ n, s.workerNumbers[n]? = some 1 ∧ ∀ vm ∈ s.vmWorkers, vm.name ≠ workerName id n

def configuratorsOf (s : K8sBlueprintState) (vm : NodeVm) : List VmK8sDay0Configurator :=
  s.day0WorkersConfigurators.filter (fun configurator => decide (configurator.vmResource.name = vm.name))

/-- The lists without a worker and its configurators. -/
def unlisted (s : K8sBlueprintState) (vm : NodeVm) : K8sBlueprintState :=
  { s with
    vmWorkers := s.vmWorkers.filter (fun worker => decide (worker.name ≠ vm.name))
    day0WorkersConfigurators := s.day0WorkersConfigurators.filter
      (fun configurator => decide (configurator.vmResource.name ≠ vm.name))
    day0WorkersConfiguratorsTobeExec := s.day0WorkersConfiguratorsTobeExec.filter
      (fun configurator => decide (configurator.vmResource.name ≠ vm.name))
    workerNumbers := (configuratorsOf s vm).foldl (fun numbers configurator => numbers.set configurator.vmNumber 0)
      s.workerNumbers }

/-- The state after the deletion of a worker. -/
def without (s : K8sBlueprintState) (vm : NodeVm) : K8sBlueprintState :=
  { unlisted s vm with
    steps := s.steps + 1
    registeredResources := (configuratorsOf s vm).foldl
      (fun resources configurator => resources.erase configurator.id) (s.registeredResources.erase vm.id) }

section Calls

variable (raises : Nat → Option PyError)

/-- The deletion of the workers, before it raises, comes to one that is registered and has no configurator. -/
def RemovesUnconfigured : K8sBlueprintState → List NodeVm → Prop
  | _, [] => False
  | s, vm :: rest =>
    raises s.steps = none ∧ vm.id ∈ s.registeredResources ∧
      (configuratorsOf s vm = [] ∨
        (∀ configurator ∈ configuratorsOf s vm, configurator.id ∈ s.registeredResources.erase vm.id) ∧
          RemovesUnconfigured (without s vm) rest)

def LosesNumber (s : K8sBlueprintState) : K8sCall → Prop
  | .delWorkers nodeNames => ∃ master, s.vmMaster = some master ∧ 1 < s.vmWorkers.length ∧ raises s.steps = none ∧
      RemovesUnconfigured raises { s with steps := s.steps + 1 } (toBeDestroyed s (nodeNames.erase master.name))
  | _ => False

end Calls

theorem workerName_injective (id : String) : Function.Injective (workerName id) := by
  intro a b h
  have hlist := congrArg String.toList h
  simp only [workerName, String.toList_append] at hlist
  exact Nat.repr_inj.1 (String.toList_injective (List.append_cancel_left hlist))

/-! ### Numbers of a tracked state -/

section Numbers

variable {id : String} {s : K8sBlueprintState}

theorem Tracked.init : Tracked id {} where
  length := rfl
  binary := by decide
  names := List.nodup_nil
  numbered := fun _ h => (nomatch h)
  configurators := List.nodup_nil
  configured := fun _ h => (nomatch h)
  registered := List.nodup_nil
  given := fun _ h => (nomatch h)

theorem not_leaked_init : ¬ Leaked id {} := by
  rintro ⟨n, hn, -⟩
  have hmem := List.mem_of_getElem? hn
  rw [List.eq_of_mem_replicate hmem] at hn
  have h01 := List.eq_of_mem_replicate hmem
  exact absurd h01 (by decide)

theorem reserve_run_none (h : s.workerNumbers.findIdx? (fun val => decide (val = 0)) = none) :
    reserveWorkerNumber.run s =
      .error (.valueError "Cannot assign number to a worker, all numbers has been reserved.") s := by
  rw [reserveWorkerNumber, EStateM.run_bind, EStateM.run_get]
  simp only [h]
  rfl

theorem reserve_run_some (h : s.workerNumbers.findIdx? (fun val => decide (val = 0)) = some n) :
    reserveWorkerNumber.run s = .ok n { s with workerNumbers := s.workerNumbers.set n 1 } := by
  rw [reserveWorkerNumber, EStateM.run_bind, EStateM.run_get]
  simp only [h]
  rfl

theorem Tracked.value (h : Tracked id s) (hn : n < 18) (hne : s.workerNumbers[n]? ≠ some 0) : s.workerNumbers[n]? = some 1 := by
  have hlt : n < s.workerNumbers.length := by
    rw [h.length]
    exact hn
  have hget := List.getElem?_eq_getElem hlt
  rcases h.binary _ (List.getElem_mem hlt) with hz | ho
  · rw [hz] at hget
    exact absurd hget hne
  · rw [ho] at hget
    exact hget

theorem Tracked.lt (h : Tracked id s) (hn : s.workerNumbers[n]? = some k) : n < 18 := by
  rw [← h.length]
  exact (List.getElem?_eq_some_iff.1 hn).1

theorem Tracked.worker_taken (h : Tracked id s) (hvm : vm ∈ s.vmWorkers) (hname : vm.name = workerName id n) :
    s.workerNumbers[n]? = some 1 := by
  obtain ⟨m, hm, htaken⟩ := h.numbered vm hvm
  have hmn : m = n := workerName_injective id (hm.symm.trans hname)
  rw [← hmn]
  exact htaken

theorem findIdx?_zero (h : s.workerNumbers.findIdx? (fun val => decide (val = 0)) = some n) :
    s.workerNumbers[n]? = some 0 := by
  obtain ⟨hlt, hz, -⟩ := List.findIdx?_eq_some_iff_getElem.1 h
  rw [List.getElem?_eq_getElem hlt, of_decide_eq_true hz]

theorem Tracked.all_listed (h : Tracked id s) (hl : ¬ Leaked id s)
    (hf : s.workerNumbers.findIdx? (fun val => decide (val = 0)) = none) : s.vmWorkers.length = 18 := by
  have htaken : ∀ n < 18, s.workerNumbers[n]? = some 1 := by
    intro n hn
    refine h.value hn ?_
    intro hz
    have hne := List.findIdx?_eq_none_iff.1 hf 0 (List.mem_of_getElem? hz)
    exact absurd hne (by decide)
  have hperm : (s.vmWorkers.map NodeVm.name).Perm ((List.range 18).map (workerName id)) := by
    rw [List.perm_ext_iff_of_nodup h.names (List.nodup_range.map (workerName_injective id))]
    intro name
    rw [List.mem_map, List.mem_map]
    constructor
    · rintro ⟨vm, hvm, rfl⟩
      obtain ⟨n, hn, hone⟩ := h.numbered vm hvm
      exact ⟨n, List.mem_range.2 (h.lt hone), hn.symm⟩
    · rintro ⟨n, hn, rfl⟩
      by_contra hnone
      refine hl ⟨n, htaken n (List.mem_range.1 hn), ?_⟩
      intro vm hvm hname
      exact hnone ⟨vm, hvm, hname⟩
  have hlength := hperm.length_eq
  rw [List.length_map, List.length_map, List.length_range] at hlength
  exact hlength

theorem Tracked.numbered_iff (h : Tracked id s) : Numbered id s ↔ ¬ Leaked id s := by
  constructor
  · rintro hn ⟨n, hone, hnone⟩
    obtain ⟨vm, hvm, hname⟩ := (hn.numbers n (h.lt hone)).1 hone
    exact hnone vm hvm hname
  · intro hl
    refine ⟨h.names, ?_, ?_, ?_⟩
    · intro n _
      constructor
      · intro hone
        by_contra hnone
        refine hl ⟨n, hone, ?_⟩
        intro vm hvm hname
        exact hnone ⟨vm, hvm, hname⟩
      · rintro ⟨vm, hvm, hname⟩
        exact h.worker_taken hvm hname
    · intro hraised
      cases hf : s.workerNumbers.findIdx? (fun val => decide (val = 0)) with
      | none => exact h.all_listed hl hf
      | some n =>
        rw [reserve_run_some hf] at hraised
        exact hraised.elim
    · intro n s' hrun
      cases hf : s.workerNumbers.findIdx? (fun val => decide (val = 0)) with
      | none =>
        rw [reserve_run_none hf] at hrun
        cases hrun
      | some m =>
        rw [reserve_run_some hf] at hrun
        cases hrun
        have hz := findIdx?_zero hf
        refine ⟨h.lt hz, ?_⟩
        intro vm hvm hname
        have hone := h.worker_taken hvm hname
        rw [hz] at hone
        cases hone

end Numbers

/-! ### The steps -/

/-- A tracked state that has lost a number if `L` says so. -/
def Ledger (id : String) (L : Prop) (s : K8sBlueprintState) : Prop :=
  Tracked id s ∧ (Leaked id s ↔ L)

section Steps

variable {id : String} {L : Prop} {s : K8sBlueprintState}

/-- The other fields do not matter. -/
theorem Ledger.frame {s' : K8sBlueprintState} (h : Ledger id L s) (hnumbers : s'.workerNumbers = s.workerNumbers)
    (hworkers : s'.vmWorkers = s.vmWorkers) (hconfs : s'.day0WorkersConfigurators = s.day0WorkersConfigurators)
    (hregistered : s'.registeredResources = s.registeredResources) (hids : s.ids ≤ s'.ids) : Ledger id L s' := by
  obtain ⟨ht, hl⟩ := h
  refine ⟨?_, ?_⟩
  · constructor
    · rw [hnumbers]
      exact ht.length
    · rw [hnumbers]
      exact ht.binary
    · rw [hworkers]
      exact ht.names
    · rw [hnumbers, hworkers]
      exact ht.numbered
    · rw [hconfs]
      exact ht.configurators
    · rw [hconfs, hworkers]
      exact ht.configured
    · rw [hregistered]
      exact ht.registered
    · rw [hregistered]
      exact fun resource hr => Nat.lt_of_lt_of_le (ht.given resource hr) hids
  · unfold Leaked
    rw [hnumbers, hworkers]
    exact hl

theorem Ledger.register (h : Ledger id L s) (hnew : resource ∉ s.registeredResources) (hle : s.ids ≤ bound)
    (hgiven : resource < bound) :
    Ledger id L { s with ids := bound, registeredResources := s.registeredResources ++ [resource] } := by
  obtain ⟨ht, hl⟩ := h
  refine ⟨{ ht with registered := ?_, given := ?_ }, hl⟩
  · refine List.nodup_append.2 ⟨ht.registered, List.nodup_singleton _, ?_⟩
    intro a ha b hb he
    rw [he, List.mem_singleton.1 hb] at ha
    exact hnew ha
  · intro r hr
    rcases List.mem_append.1 hr with hr | hr
    · exact Nat.lt_of_lt_of_le (ht.given r hr) hle
    · rw [List.mem_singleton.1 hr]
      exact hgiven

/-- A worker takes the first free number. -/
theorem Ledger.listed (area : Int) (h : Ledger id L s) (hf : s.workerNumbers.findIdx? (fun val => decide (val = 0)) = some n) :
    Ledger id L
      { s with
        workerNumbers := s.workerNumbers.set n 1
        ids := s.ids + 1
        vmWorkers := s.vmWorkers ++ [⟨area, workerName id n, s.ids⟩] } := by
  obtain ⟨ht, hl⟩ := h
  have hz := findIdx?_zero hf
  have hlt : n < s.workerNumbers.length := (List.getElem?_eq_some_iff.1 hz).1
  have hfree : ∀ vm ∈ s.vmWorkers, vm.name ≠ workerName id n := by
    intro vm hvm hname
    have hone := ht.worker_taken hvm hname
    rw [hz] at hone
    cases hone
  have hset : ∀ m, (s.workerNumbers.set n 1)[m]? = if n = m then some 1 else s.workerNumbers[m]? := by
    intro m
    rw [List.getElem?_set]
    by_cases hnm : n = m
    · rw [if_pos hnm, if_pos hnm, if_pos hlt]
    · rw [if_neg hnm, if_neg hnm]
  refine ⟨{ length := ?_, binary := ?_, names := ?_, numbered := ?_, configurators := ht.configurators,
            configured := ?_, registered := ht.registered, given := ?_ }, ?_⟩
  · exact (List.length_set ..).trans ht.length
  · intro m hm
    rcases List.mem_or_eq_of_mem_set hm with hm | rfl
    · exact ht.binary m hm
    · exact .inr rfl
  · rw [List.map_append, List.nodup_append]
    refine ⟨ht.names, List.nodup_singleton _, ?_⟩
    intro name hname other hother he
    obtain ⟨vm, hvm, rfl⟩ := List.mem_map.1 hname
    rw [List.mem_singleton.1 hother] at he
    exact hfree vm hvm he
  · intro vm hvm
    rcases List.mem_append.1 hvm with hvm | hvm
    · obtain ⟨m, hm, hone⟩ := ht.numbered vm hvm
      refine ⟨m, hm, ?_⟩
      rw [hset]
      split
      · rfl
      · exact hone
    · rw [List.mem_singleton.1 hvm]
      exact ⟨n, rfl, by rw [hset, if_pos rfl]⟩
  · intro configurator hc
    exact ⟨(ht.configured configurator hc).1, List.mem_append_left _ (ht.configured configurator hc).2⟩
  · intro resource hr
    exact Nat.lt_succ_of_lt (ht.given resource hr)
  · rw [← hl]
    constructor
    · rintro ⟨m, hone, hnone⟩
      rw [hset] at hone
      have hnm : n ≠ m := by
        rintro rfl
        exact hnone _ (List.mem_append_right _ List.mem_cons_self) rfl
      rw [if_neg hnm] at hone
      exact ⟨m, hone, fun vm hvm => hnone vm (List.mem_append_left _ hvm)⟩
    · rintro ⟨m, hone, hnone⟩
      have hnm : n ≠ m := by
        rintro rfl
        rw [hz] at hone
        cases hone
      refine ⟨m, by rw [hset, if_neg hnm]; exact hone, ?_⟩
      intro vm hvm
      rcases List.mem_append.1 hvm with hvm | hvm
      · exact hnone vm hvm
      · rw [List.mem_singleton.1 hvm]
        exact fun he => hnm (workerName_injective id he)

/-- A listed worker without configurator gets one. -/
theorem Ledger.configured (configurator : VmK8sDay0Configurator) (h : Ledger id L s) (hvm : configurator.vmResource ∈ s.vmWorkers)
    (hname : configurator.vmResource.name = workerName id configurator.vmNumber)
    (hnew : ∀ other ∈ s.day0WorkersConfigurators, other.vmResource.name ≠ configurator.vmResource.name) :
    Ledger id L { s with day0WorkersConfigurators := s.day0WorkersConfigurators ++ [configurator] } := by
  obtain ⟨ht, hl⟩ := h
  refine ⟨{ ht with configurators := ?_, configured := ?_ }, hl⟩
  · rw [List.map_append, List.nodup_append]
    refine ⟨ht.configurators, List.nodup_singleton _, ?_⟩
    intro name hmem other hother he
    obtain ⟨known, hknown, rfl⟩ := List.mem_map.1 hmem
    rw [List.mem_singleton.1 hother] at he
    exact hnew known hknown he
  · intro known hknown
    rcases List.mem_append.1 hknown with hknown | hknown
    · exact ht.configured known hknown
    · rw [List.mem_singleton.1 hknown]
      exact ⟨hname, hvm⟩

variable (raises : Nat → Option PyError)

theorem attempt_meets {Q : Unit → K8sBlueprintState → Prop} {E : PyError → K8sBlueprintState → Prop}
    (hQ : raises s.steps = none → Q () { s with steps := s.steps + 1 })
    (hE : ∀ e, raises s.steps = some e → E e { s with steps := s.steps + 1 }) : Meets (attempt raises) s Q E := by
  unfold attempt
  rw [meets_bind, meets_get, meets_bind, meets_set]
  cases hr : raises s.steps with
  | none => exact hQ hr
  | some e => exact hE e hr

theorem registerResource_meets {Q : Unit → K8sBlueprintState → Prop} {E : PyError → K8sBlueprintState → Prop}
    (hQ : Q () { s with steps := s.steps + 1, registeredResources := s.registeredResources ++ [resource] })
    (hE : ∀ e, E e { s with steps := s.steps + 1 }) : Meets (registerResource raises resource) s Q E := by
  unfold registerResource
  rw [meets_bind]
  exact attempt_meets raises (fun _ => hQ) (fun e _ => hE e)

theorem fresh_not_mem (h : Tracked id s) (hle : s.ids ≤ resource) : resource ∉ s.registeredResources := by
  intro hmem
  exact absurd (h.given resource hmem) (Nat.not_lt_of_le hle)

theorem newId_meets {Q : Nat → K8sBlueprintState → Prop} {E : PyError → K8sBlueprintState → Prop} :
    Meets newId s Q E ↔ Q s.ids { s with ids := s.ids + 1 } := Iff.rfl

theorem deployWorker_meets (area : K8sAreaDeployment) (h : Ledger id L s) :
    Meets (deployWorker raises id area) s (fun _ => Ledger id L) (fun _ => Ledger id L) := by
  unfold deployWorker
  rw [meets_bind]
  cases hf : s.workerNumbers.findIdx? (fun val => decide (val = 0)) with
  | none =>
    unfold Meets
    rw [reserve_run_none hf]
    exact h
  | some n =>
    have hfree : ∀ configurator ∈ s.day0WorkersConfigurators, configurator.vmResource.name ≠ workerName id n := by
      intro configurator hc hname
      have hone := h.1.worker_taken (h.1.configured configurator hc).2 hname
      rw [findIdx?_zero hf] at hone
      cases hone
    have hlisted := h.listed area.areaId hf
    have hnew : s.ids ∉ s.registeredResources := fresh_not_mem h.1 (Nat.le_refl _)
    have hvm := hlisted.register hnew (Nat.le_refl _) (Nat.lt_succ_self s.ids)
    have hnext : s.ids + 1 ∉ s.registeredResources ++ [s.ids] := fresh_not_mem hvm.1 (Nat.le_refl _)
    have hconf := hvm.configured ⟨⟨area.areaId, workerName id n, s.ids⟩, n, s.ids + 1⟩
      (List.mem_append_right _ List.mem_cons_self) rfl hfree
    unfold Meets
    rw [reserve_run_some hf]
    change Meets (newId >>= _) _ _ _
    rw [meets_bind, newId_meets, meets_bind, meets_modify, meets_bind]
    refine registerResource_meets raises ?_ (fun e => hlisted.frame rfl rfl rfl rfl (Nat.le_refl _))
    rw [meets_bind]
    refine attempt_meets raises (fun _ => ?_) (fun e _ => hvm.frame rfl rfl rfl rfl (Nat.le_refl _))
    rw [meets_bind, newId_meets, meets_bind, meets_modify]
    refine registerResource_meets raises ?_ (fun e => hconf.frame rfl rfl rfl rfl (Nat.le_succ _))
    exact (hconf.register hnext (Nat.le_succ _) (Nat.lt_succ_self _)).frame rfl rfl rfl rfl (Nat.le_refl _)

theorem deployArea_meets (area : K8sAreaDeployment) (h : Ledger id L s) :
    Meets (deployArea raises id area) s (fun _ => Ledger id L) (fun _ => Ledger id L) := by
  unfold deployArea
  refine Meets.bind (Meets.forM _ h (fun area' _ s' hs' => deployWorker_meets raises area' hs')) ?_
  intro _ s' hs'
  rw [meets_bind, meets_modify, meets_modify]
  split
  · exact hs'.frame rfl rfl rfl rfl (Nat.le_refl _)
  · exact hs'.frame rfl rfl rfl rfl (Nat.le_refl _)

theorem deployMasterNode_meets (area : K8sAreaDeployment) (h : Ledger id L s) :
    Meets (deployMasterNode raises id area) s (fun _ => Ledger id L) (fun _ => Ledger id L) := by
  have hnew : s.ids ∉ s.registeredResources := fresh_not_mem h.1 (Nat.le_refl _)
  have hvm := h.register hnew (Nat.le_succ _) (Nat.lt_succ_self _)
  have hnew0 : s.ids + 1 ∉ s.registeredResources ++ [s.ids] := fresh_not_mem hvm.1 (Nat.le_refl _)
  have hday0 := hvm.register hnew0 (Nat.le_succ _) (Nat.lt_succ_self _)
  have hnew2 : s.ids + 2 ∉ s.registeredResources ++ [s.ids] ++ [s.ids + 1] := fresh_not_mem hday0.1 (Nat.le_refl _)
  have hday2 := hday0.register hnew2 (Nat.le_succ _) (Nat.lt_succ_self _)
  unfold deployMasterNode
  rw [meets_bind, newId_meets, meets_bind, meets_modify, meets_bind]
  refine registerResource_meets raises ?_ (fun e => h.frame rfl rfl rfl rfl (Nat.le_succ _))
  rw [meets_bind]
  refine attempt_meets raises (fun _ => ?_) (fun e _ => hvm.frame rfl rfl rfl rfl (Nat.le_refl _))
  rw [meets_bind, newId_meets, meets_bind, newId_meets, meets_bind]
  refine registerResource_meets raises ?_ (fun e => hvm.frame rfl rfl rfl rfl (Nat.le_add_right _ 2))
  refine registerResource_meets raises ?_ (fun e => hday0.frame rfl rfl rfl rfl (Nat.le_succ _))
  exact hday2.frame rfl rfl rfl rfl (Nat.le_refl _)

theorem attempt_keeps (h : Ledger id L s) : Meets (attempt raises) s (fun _ => Ledger id L) (fun _ => Ledger id L) :=
  attempt_meets raises (fun _ => h.frame rfl rfl rfl rfl (Nat.le_refl _)) (fun _ _ => h.frame rfl rfl rfl rfl (Nat.le_refl _))

theorem day0conf_meets (configureMaster : Bool) (h : Ledger id L s) :
    Meets (day0conf raises configureMaster) s (fun _ => Ledger id L) (fun _ => Ledger id L) := by
  have hworkers : ∀ s, Ledger id L s → Meets (do
      let s ← get
      forM s.day0WorkersConfiguratorsTobeExec (fun _ => attempt raises)
      modify (fun s => { s with day0WorkersConfiguratorsTobeExec := [] })) s
      (fun _ => Ledger id L) (fun _ => Ledger id L) := by
    intro s hs
    rw [meets_bind, meets_get]
    refine Meets.bind (Meets.forM _ hs (fun _ _ s' hs' => attempt_keeps raises hs')) ?_
    intro _ s' hs'
    exact hs'.frame rfl rfl rfl rfl (Nat.le_refl _)
  unfold day0conf
  cases configureMaster with
  | false => exact hworkers s h
  | true => exact Meets.bind (attempt_keeps raises h) (fun _ s' hs' => hworkers s' hs')

theorem create_meets (areas : List K8sAreaDeployment) (h : Ledger id L s) :
    Meets (create raises id areas) s (fun _ => Ledger id L) (fun _ => Ledger id L) := by
  unfold create
  refine Meets.bind (Meets.forM _ h ?_) ?_
  · intro area _ s' hs'
    unfold createArea
    split
    · exact Meets.bind (deployMasterNode_meets raises area hs') (fun _ s' hs' => deployArea_meets raises area hs')
    · exact deployArea_meets raises area hs'
  · intro _ s' hs'
    refine Meets.bind (attempt_keeps raises hs') ?_
    intro _ s' hs'
    exact Meets.bind (day0conf_meets raises true hs') (fun _ s' hs' => attempt_keeps raises hs')

theorem addWorker_meets (areas : List K8sAreaDeployment) (h : Ledger id L s) :
    Meets (addWorker raises id areas) s (fun _ => Ledger id L) (fun _ => Ledger id L) := by
  unfold addWorker
  refine Meets.bind (Meets.forM _ h (fun area _ s' hs' => deployArea_meets raises area hs')) ?_
  intro _ s' hs'
  exact day0conf_meets raises false hs'

/-! ### The deletion of a worker -/

theorem removeConfigurators_none {xs : List VmK8sDay0Configurator}
    (h : ∀ configurator ∈ xs, configurator.vmResource.name ≠ name) (s : K8sBlueprintState) :
    (removeConfigurators name xs).run s = .ok [] s := by
  fun_induction removeConfigurators name xs with
  | case1 => rfl
  | case2 configurator hname => exact absurd hname (h configurator List.mem_cons_self)
  | case3 configurator hname => rfl
  | case4 configurator next rest hname ih => exact absurd hname (h configurator List.mem_cons_self)
  | case5 configurator next rest hname ih => exact ih (fun c hc => h c (List.mem_cons_of_mem _ hc))

theorem releaseWorkerNumber_run (h : s.workerNumbers[n]? = some 1) :
    (releaseWorkerNumber n).run s = .ok () { s with workerNumbers := s.workerNumbers.set n 0 } := by
  rw [releaseWorkerNumber, EStateM.run_bind, EStateM.run_get]
  simp only [h]
  rfl

theorem removeConfigurators_one {configurator : VmK8sDay0Configurator} {before after : List VmK8sDay0Configurator}
    (hbefore : ∀ other ∈ before, other.vmResource.name ≠ name) (hafter : ∀ other ∈ after, other.vmResource.name ≠ name)
    (hname : configurator.vmResource.name = name) (hone : s.workerNumbers[configurator.vmNumber]? = some 1) :
    (removeConfigurators name (before ++ configurator :: after)).run s =
      .ok [configurator]
        { s with
          workerNumbers := s.workerNumbers.set configurator.vmNumber 0
          day0WorkersConfigurators := s.day0WorkersConfigurators.erase configurator } := by
  induction before with
  | nil =>
    cases after with
    | nil =>
      rw [List.nil_append, removeConfigurators, if_pos hname, run_bind_ok _ _ (releaseWorkerNumber_run hone)]
      rfl
    | cons next rest =>
      have hrest := removeConfigurators_none (fun c hc => hafter c (List.mem_cons_of_mem next hc))
        { s with
          workerNumbers := s.workerNumbers.set configurator.vmNumber 0
          day0WorkersConfigurators := s.day0WorkersConfigurators.erase configurator }
      rw [List.nil_append, removeConfigurators, if_pos hname, run_bind_ok _ _ (releaseWorkerNumber_run hone),
        EStateM.run_bind, EStateM.run_modify]
      exact run_bind_ok _ _ hrest
  | cons other before ih =>
    have hne := hbefore other List.mem_cons_self
    have hih := ih (fun c hc => hbefore c (List.mem_cons_of_mem other hc))
    cases before with
    | nil =>
      rw [List.cons_append, List.nil_append, removeConfigurators, if_neg hne]
      exact hih
    | cons second before =>
      rw [List.cons_append, List.cons_append, removeConfigurators, if_neg hne]
      exact hih

/-- A worker has no configurator or one. -/
theorem Tracked.configuratorsOf_cases (h : Tracked id s) (vm : NodeVm) :
    (configuratorsOf s vm = [] ∧ ∀ configurator ∈ s.day0WorkersConfigurators, configurator.vmResource.name ≠ vm.name) ∨
    ∃ before configurator after, s.day0WorkersConfigurators = before ++ configurator :: after ∧
      configurator.vmResource.name = vm.name ∧ configuratorsOf s vm = [configurator] ∧
      (∀ other ∈ before, other.vmResource.name ≠ vm.name) ∧ ∀ other ∈ after, other.vmResource.name ≠ vm.name := by
  by_cases hany : ∃ configurator ∈ s.day0WorkersConfigurators, configurator.vmResource.name = vm.name
  · obtain ⟨configurator, hmem, hname⟩ := hany
    obtain ⟨before, after, hsplit⟩ := List.append_of_mem hmem
    have hnodup := h.configurators
    rw [hsplit, List.map_append, List.map_cons, List.nodup_middle, List.nodup_cons, List.mem_append] at hnodup
    have hbefore : ∀ other ∈ before, other.vmResource.name ≠ vm.name := by
      intro other hother he
      exact hnodup.1 (.inl (List.mem_map.2 ⟨other, hother, he.trans hname.symm⟩))
    have hafter : ∀ other ∈ after, other.vmResource.name ≠ vm.name := by
      intro other hother he
      exact hnodup.1 (.inr (List.mem_map.2 ⟨other, hother, he.trans hname.symm⟩))
    refine .inr ⟨before, configurator, after, hsplit, hname, ?_, hbefore, hafter⟩
    have hnone : ∀ xs : List VmK8sDay0Configurator, (∀ other ∈ xs, other.vmResource.name ≠ vm.name) →
        xs.filter (fun other => decide (other.vmResource.name = vm.name)) = [] := by
      intro xs hxs
      rw [List.filter_eq_nil_iff]
      intro other hother he
      exact hxs other hother (of_decide_eq_true he)
    rw [configuratorsOf, hsplit, List.filter_append, List.filter_cons_of_pos (by simp [hname]),
      hnone before hbefore, hnone after hafter, List.nil_append]
  · have hne : ∀ configurator ∈ s.day0WorkersConfigurators, configurator.vmResource.name ≠ vm.name := by
      intro configurator hmem hname
      exact hany ⟨configurator, hmem, hname⟩
    refine .inl ⟨?_, hne⟩
    rw [configuratorsOf, List.filter_eq_nil_iff]
    intro configurator hmem he
    exact hne configurator hmem (of_decide_eq_true he)

theorem filter_all {xs : List VmK8sDay0Configurator} (h : ∀ other ∈ xs, other.vmResource.name ≠ name) :
    xs.filter (fun other => decide (other.vmResource.name ≠ name)) = xs := by
  rw [List.filter_eq_self]
  intro other hother
  exact decide_eq_true (h other hother)

theorem removeWorker_run (h : Tracked id s) (vm : NodeVm) :
    (removeWorker vm).run s = .ok (configuratorsOf s vm) (unlisted s vm) := by
  unfold removeWorker unlisted
  rw [EStateM.run_bind, EStateM.run_modify]
  change ((get : K8sM K8sBlueprintState) >>= _).run _ = _
  rw [EStateM.run_bind, EStateM.run_get]
  rcases h.configuratorsOf_cases vm with ⟨hnil, hnone⟩ | ⟨before, configurator, after, hsplit, hname, hone, hbefore, hafter⟩
  · change ((removeConfigurators vm.name s.day0WorkersConfigurators) >>= _).run _ = _
    rw [run_bind_ok _ _ (removeConfigurators_none hnone _), hnil, filter_all hnone]
    rfl
  · have hmem : configurator ∈ s.day0WorkersConfigurators := by
      rw [hsplit]
      exact List.mem_append_right _ List.mem_cons_self
    have htaken := h.worker_taken (h.configured configurator hmem).2 (h.configured configurator hmem).1
    have herase : s.day0WorkersConfigurators.erase configurator =
        s.day0WorkersConfigurators.filter (fun other => decide (other.vmResource.name ≠ vm.name)) := by
      have hnot : configurator ∉ before := fun hin => hbefore configurator hin hname
      rw [hsplit, List.erase_append_right _ hnot, List.erase_cons_head, List.filter_append,
        List.filter_cons_of_neg (by simp [hname]), filter_all hbefore, filter_all hafter]
    change ((removeConfigurators vm.name s.day0WorkersConfigurators) >>= _).run _ = _
    have hrun := removeConfigurators_one (s := { s with
      vmWorkers := s.vmWorkers.filter (fun worker => decide (worker.name ≠ vm.name)) }) hbefore hafter hname htaken
    rw [← hsplit] at hrun
    rw [run_bind_ok _ _ hrun, hone, ← herase]
    rfl

theorem mem_unlisted {worker : NodeVm} : worker ∈ (unlisted s vm).vmWorkers ↔ worker ∈ s.vmWorkers ∧ worker.name ≠ vm.name := by
  unfold unlisted
  rw [List.mem_filter, decide_eq_true_iff]

/-- The number of the configurator is free again; without one nothing is. -/
theorem Tracked.unlisted_numbers (h : Tracked id s) (vm : NodeVm) (n : Nat) :
    (unlisted s vm).workerNumbers[n]? =
      if configuratorsOf s vm ≠ [] ∧ vm.name = workerName id n then some 0 else s.workerNumbers[n]? := by
  unfold unlisted
  rcases h.configuratorsOf_cases vm with ⟨hnil, -⟩ | ⟨before, configurator, after, hsplit, hname, hone, -, -⟩
  · simp only [hnil, List.foldl_nil, ne_eq, not_true, false_and, if_false]
  · have hmem : configurator ∈ s.day0WorkersConfigurators := by
      rw [hsplit]
      exact List.mem_append_right _ List.mem_cons_self
    obtain ⟨hnumber, hlisted⟩ := h.configured configurator hmem
    have htaken := h.worker_taken hlisted hnumber
    have hlt := (List.getElem?_eq_some_iff.1 htaken).1
    have hiff : vm.name = workerName id n ↔ configurator.vmNumber = n := by
      rw [← hname, hnumber]
      exact (workerName_injective id).eq_iff
    simp only [hone, List.foldl_cons, List.foldl_nil, ne_eq, List.cons_ne_nil, not_false_iff, true_and, hiff,
      List.getElem?_set, hlt, if_true]

theorem Tracked.unlisted (h : Tracked id s) (vm : NodeVm) : Tracked id (unlisted s vm) where
  length := by
    rcases h.configuratorsOf_cases vm with ⟨hnil, -⟩ | ⟨_, _, _, _, _, hone, -, -⟩
    · simp only [K8sBlueprint.unlisted, hnil, List.foldl_nil, h.length]
    · simp only [K8sBlueprint.unlisted, hone, List.foldl_cons, List.foldl_nil, List.length_set, h.length]
  binary := by
    intro val hval
    obtain ⟨n, hn⟩ := List.mem_iff_getElem?.1 hval
    rw [h.unlisted_numbers vm n] at hn
    split at hn
    · cases hn
      exact .inl rfl
    · exact h.binary val (List.mem_of_getElem? hn)
  names := h.names.sublist (List.filter_sublist.map _)
  numbered := by
    intro worker hworker
    obtain ⟨hin, hne⟩ := mem_unlisted.1 hworker
    obtain ⟨n, hn, hone⟩ := h.numbered worker hin
    refine ⟨n, hn, ?_⟩
    rw [h.unlisted_numbers vm n, if_neg]
    · exact hone
    · rintro ⟨-, hvm⟩
      exact hne (hn.trans hvm.symm)
  configurators := h.configurators.sublist (List.filter_sublist.map _)
  configured := by
    intro configurator hc
    obtain ⟨hin, hne⟩ := List.mem_filter.1 hc
    exact ⟨(h.configured configurator hin).1,
      mem_unlisted.2 ⟨(h.configured configurator hin).2, of_decide_eq_true hne⟩⟩
  registered := h.registered
  given := h.given

/-- A number is lost with a worker that has no configurator. -/
theorem Tracked.unlisted_leaked (h : Tracked id s) (hvm : vm ∈ s.vmWorkers) :
    Leaked id (K8sBlueprint.unlisted s vm) ↔ Leaked id s ∨ configuratorsOf s vm = [] := by
  obtain ⟨k, hk, htaken⟩ := h.numbered vm hvm
  constructor
  · rintro ⟨n, hn, hnone⟩
    rw [h.unlisted_numbers vm n] at hn
    split at hn
    · cases hn
    · rename_i hcond
      by_cases hnil : configuratorsOf s vm = []
      · exact .inr hnil
      · refine .inl ⟨n, hn, ?_⟩
        intro worker hworker hname
        by_cases hsame : worker.name = vm.name
        · exact hcond ⟨hnil, hsame.symm.trans hname⟩
        · exact hnone worker (mem_unlisted.2 ⟨hworker, hsame⟩) hname
  · rintro (⟨n, hn, hnone⟩ | hnil)
    · refine ⟨n, ?_, fun worker hworker => hnone worker (mem_unlisted.1 hworker).1⟩
      rw [h.unlisted_numbers vm n, if_neg]
      · exact hn
      · rintro ⟨-, hname⟩
        exact hnone vm hvm hname
    · refine ⟨k, ?_, ?_⟩
      · rw [h.unlisted_numbers vm k, if_neg]
        · exact htaken
        · rintro ⟨hne, -⟩
          exact hne hnil
      · intro worker hworker hname
        exact (mem_unlisted.1 hworker).2 (hname.trans hk.symm)

theorem Ledger.unlisted (h : Ledger id L s) (hvm : vm ∈ s.vmWorkers) :
    Ledger id (L ∨ configuratorsOf s vm = []) (K8sBlueprint.unlisted s vm) := by
  refine ⟨h.1.unlisted vm, ?_⟩
  rw [h.1.unlisted_leaked hvm, h.2]

/-- Resources can be deregistered. -/
theorem Ledger.resources {resources : List Nat} (h : Ledger id L s) (hsub : resources.Sublist s.registeredResources) :
    Ledger id L { s with steps := n, registeredResources := resources } :=
  ⟨{ h.1 with
      registered := h.1.registered.sublist hsub
      given := fun resource hr => h.1.given resource (hsub.subset hr) }, h.2⟩

theorem deregisterResource_run_mem (h : resource ∈ s.registeredResources) :
    (deregisterResource resource).run s = .ok () { s with registeredResources := s.registeredResources.erase resource } := by
  rw [deregisterResource, EStateM.run_bind, EStateM.run_get]
  simp only [h, if_true]
  rfl

theorem deregisterResource_run_not_mem (h : resource ∉ s.registeredResources) :
    (deregisterResource resource).run s =
      .error (.blueprintNG "The resource to be deleted is not present in registered resources") s := by
  rw [deregisterResource, EStateM.run_bind, EStateM.run_get]
  simp only [h, if_false]
  rfl

theorem Ledger.congr {L' : Prop} (h : Ledger id L s) (hL : L ↔ L') : Ledger id L' s :=
  ⟨h.1, h.2.trans hL⟩

theorem erase_all_sublist (configurators : List VmK8sDay0Configurator) (resources : List Nat) :
    (configurators.foldl (fun resources configurator => resources.erase configurator.id) resources).Sublist resources := by
  induction configurators generalizing resources with
  | nil => exact List.Sublist.refl _
  | cons configurator configurators ih => exact (ih _).trans List.erase_sublist

theorem Ledger.without (h : Ledger id L s) (hvm : vm ∈ s.vmWorkers) :
    Ledger id (L ∨ configuratorsOf s vm = []) (K8sBlueprint.without s vm) :=
  (h.unlisted hvm).resources ((erase_all_sublist _ _).trans List.erase_sublist)

/-- The configurator of the worker is deregistered. -/
theorem deregisterConfigurators_meets (h : Tracked id s) (s₁ : K8sBlueprintState) :
    Meets (forM (configuratorsOf s vm) (fun configurator => deregisterResource configurator.id)) s₁
      (fun _ s' => s' = { s₁ with
          registeredResources := (configuratorsOf s vm).foldl
            (fun resources configurator => resources.erase configurator.id) s₁.registeredResources } ∧
        ∀ configurator ∈ configuratorsOf s vm, configurator.id ∈ s₁.registeredResources)
      (fun _ s' => s' = s₁ ∧ ∃ configurator ∈ configuratorsOf s vm, configurator.id ∉ s₁.registeredResources) := by
  rcases h.configuratorsOf_cases vm with ⟨hnil, -⟩ | ⟨_, configurator, _, -, -, hone, -, -⟩
  · rw [hnil]
    exact ⟨rfl, fun _ hc => absurd hc List.not_mem_nil⟩
  · rw [hone, List.forM_cons, meets_bind]
    by_cases hid : configurator.id ∈ s₁.registeredResources
    · refine meets_of_ok (deregisterResource_run_mem hid) ⟨rfl, ?_⟩
      intro other hother
      rw [List.mem_singleton.1 hother]
      exact hid
    · exact meets_of_error (deregisterResource_run_not_mem hid) ⟨rfl, configurator, List.mem_cons_self, hid⟩

theorem destroyWorker_meets (h : Ledger id L s) (hvm : vm ∈ s.vmWorkers ∨ vm.id ∉ s.registeredResources) (rest : List NodeVm) :
    Meets (destroyWorker raises vm) s
      (fun _ s' => s' = K8sBlueprint.without s vm ∧ vm ∈ s.vmWorkers ∧ raises s.steps = none ∧
        vm.id ∈ s.registeredResources ∧
        ∀ configurator ∈ configuratorsOf s vm, configurator.id ∈ s.registeredResources.erase vm.id)
      (fun _ s' => Ledger id (L ∨ RemovesUnconfigured raises s (vm :: rest)) s') := by
  have hstep : Ledger id L { s with steps := s.steps + 1 } := h.frame rfl rfl rfl rfl (Nat.le_refl _)
  unfold destroyWorker
  rw [meets_bind]
  refine attempt_meets raises ?_ ?_
  · intro hnone
    rw [meets_bind]
    by_cases hid : vm.id ∈ s.registeredResources
    · have hlisted := hvm.resolve_right (fun hnot => hnot hid)
      have hderegistered := hstep.resources (n := s.steps + 1) (List.erase_sublist (a := vm.id))
      refine meets_of_ok (deregisterResource_run_mem hid) ?_
      rw [meets_bind]
      refine meets_of_ok (removeWorker_run hderegistered.1 vm) ?_
      refine (deregisterConfigurators_meets h.1 _).mono ?_ ?_
      · rintro _ _ ⟨rfl, hall⟩
        exact ⟨rfl, hlisted, hnone, hid, hall⟩
      · rintro e _ ⟨rfl, configurator, hmem, hmissing⟩
        refine (hderegistered.unlisted hlisted).congr ?_
        have hne : configuratorsOf s vm ≠ [] := List.ne_nil_of_mem hmem
        have hno : ¬ RemovesUnconfigured raises s (vm :: rest) := by
          rintro ⟨-, -, hnil | ⟨hall, -⟩⟩
          · exact hne hnil
          · exact hmissing (hall configurator hmem)
        exact (or_iff_left hne).trans (or_iff_left hno).symm
    · refine meets_of_error (deregisterResource_run_not_mem hid) (hstep.congr ?_)
      exact (or_iff_left (fun hr => hid hr.2.1)).symm
  · intro e he
    refine hstep.congr (or_iff_left ?_).symm
    intro hr
    cases hr.1.symm.trans he

theorem without_listed (h : Tracked id s) (hvm : vm ∈ s.vmWorkers)
    (hother : other ∈ s.vmWorkers ∨ other.id ∉ s.registeredResources) :
    other ∈ (K8sBlueprint.without s vm).vmWorkers ∨ other.id ∉ (K8sBlueprint.without s vm).registeredResources := by
  have hsub : (K8sBlueprint.without s vm).registeredResources.Sublist (s.registeredResources.erase vm.id) :=
    erase_all_sublist _ _
  rcases hother with hother | hother
  · by_cases hname : other.name = vm.name
    · have hsame : other = vm := List.inj_on_of_nodup_map h.names hother hvm hname
      refine .inr (fun hmem => ?_)
      rw [hsame] at hmem
      exact (h.registered.not_mem_erase) (hsub.subset hmem)
    · exact .inl (mem_unlisted.2 ⟨hother, hname⟩)
  · exact .inr (fun hmem => hother (List.mem_of_mem_erase (hsub.subset hmem)))

theorem destroyWorkers_meets (targets : List NodeVm) (h : Ledger id L s)
    (htargets : ∀ vm ∈ targets, vm ∈ s.vmWorkers ∨ vm.id ∉ s.registeredResources) :
    Meets (forM targets (destroyWorker raises)) s
      (fun _ => Ledger id (L ∨ RemovesUnconfigured raises s targets))
      (fun _ => Ledger id (L ∨ RemovesUnconfigured raises s targets)) := by
  induction targets generalizing s L with
  | nil => exact h.congr (or_iff_left (fun hr => hr)).symm
  | cons vm rest ih =>
    rw [List.forM_cons]
    refine Meets.bind (destroyWorker_meets raises h (htargets vm List.mem_cons_self) rest) ?_
    rintro _ _ ⟨rfl, hvm, hnone, hid, hall⟩
    have hiff : (L ∨ configuratorsOf s vm = []) ∨ RemovesUnconfigured raises (K8sBlueprint.without s vm) rest ↔
        L ∨ RemovesUnconfigured raises s (vm :: rest) := by
      rw [or_assoc]
      refine or_congr_right ?_
      constructor
      · rintro (hnil | hrest)
        · exact ⟨hnone, hid, .inl hnil⟩
        · exact ⟨hnone, hid, .inr ⟨hall, hrest⟩⟩
      · rintro ⟨-, -, hnil | ⟨-, hrest⟩⟩
        · exact .inl hnil
        · exact .inr hrest
    have hrest := ih (h.without hvm)
      (fun other hother => without_listed h.1 hvm (htargets other (List.mem_cons_of_mem vm hother)))
    exact hrest.mono (fun _ _ hs => hs.congr hiff) (fun _ _ hs => hs.congr hiff)

theorem delWorkers_meets (nodeNames : List String) (h : Ledger id L s) :
    Meets (delWorkers raises nodeNames) s
      (fun _ => Ledger id (L ∨ LosesNumber raises s (.delWorkers nodeNames)))
      (fun _ => Ledger id (L ∨ LosesNumber raises s (.delWorkers nodeNames))) := by
  unfold delWorkers
  rw [meets_bind, meets_get]
  cases hm : s.vmMaster with
  | none =>
    refine h.congr (or_iff_left ?_).symm
    rintro ⟨master, hmaster, -⟩
    rw [hm] at hmaster
    cases hmaster
  | some master =>
    by_cases hlen : s.vmWorkers.length ≤ 1
    · simp only [hlen, if_true]
      refine h.congr (or_iff_left ?_).symm
      rintro ⟨_, -, hlt, -⟩
      omega
    · simp only [hlen, if_false]
      have hstep : Ledger id L { s with steps := s.steps + 1 } := h.frame rfl rfl rfl rfl (Nat.le_refl _)
      rw [meets_bind]
      refine attempt_meets raises ?_ ?_
      · intro hnone
        have hiff : L ∨ RemovesUnconfigured raises { s with steps := s.steps + 1 }
            (toBeDestroyed s (nodeNames.erase master.name)) ↔ L ∨ LosesNumber raises s (.delWorkers nodeNames) := by
          refine or_congr_right ?_
          constructor
          · intro hr
            exact ⟨master, hm, by omega, hnone, hr⟩
          · rintro ⟨master', hm', -, -, hr⟩
            rw [hm] at hm'
            cases hm'
            exact hr
        have hloop := destroyWorkers_meets raises (toBeDestroyed s (nodeNames.erase master.name)) hstep (by
          intro vm hvm
          obtain ⟨node, _, hfind⟩ := List.mem_filterMap.1 hvm
          exact .inl (List.mem_of_find?_eq_some hfind))
        exact hloop.mono (fun _ _ hs => hs.congr hiff) (fun _ _ hs => hs.congr hiff)
      · intro e he
        refine hstep.congr (or_iff_left ?_).symm
        rintro ⟨_, -, -, hnone, -⟩
        cases hnone.symm.trans he

theorem exec_ledger (call : K8sCall) (h : Ledger id L s) :
    Ledger id (L ∨ LosesNumber raises s call) (finalState ((call.exec raises id).run s)) := by
  have hother : ∀ {m : K8sM Unit}, Meets m s (fun _ => Ledger id L) (fun _ => Ledger id L) →
      ¬ LosesNumber raises s call → Ledger id (L ∨ LosesNumber raises s call) (finalState (m.run s)) := by
    intro m hm hno
    exact hm.finalState.congr (or_iff_left hno).symm
  cases call with
  | create areas => exact hother (create_meets raises areas h) (fun hl => hl)
  | addNode areas => exact hother (addWorker_meets raises areas h) (fun hl => hl)
  | delWorkers nodeNames => exact (delWorkers_meets raises nodeNames h).finalState

theorem runAll_ledger (calls : List K8sCall) (h : Ledger id L s) :
    Ledger id (L ∨ ¬ AllSteps (K8sCall.exec raises id) (fun call s => ¬ LosesNumber raises s call) s calls)
      (runAll (K8sCall.exec raises id) s calls) := by
  induction calls generalizing s L with
  | nil => exact h.congr (or_iff_left (fun hn => hn trivial)).symm
  | cons call calls ih =>
    refine (ih (exec_ledger raises call h)).congr ?_
    rw [or_assoc]
    refine or_congr_right ?_
    rw [AllSteps, not_and_or, not_not]

end Steps

/-- The numbers follow the workers in every run in which no deletion comes to a registered worker without
configurator, and in no other. -/
theorem worker_numbers_follow_workers (raises : Nat → Option PyError) (id : String) (calls : List K8sCall) :
    Numbered id (runAll (K8sCall.exec raises id) {} calls) ↔
      AllSteps (K8sCall.exec raises id) (fun call s => ¬ LosesNumber raises s call) {} calls := by
  have hinit : Ledger id False {} := ⟨Tracked.init, iff_false_intro not_leaked_init⟩
  have h := runAll_ledger raises calls hinit
  rw [h.1.numbered_iff, h.2, false_or, not_not]

/-- Two workers are asked for; the VM of the second is not created. -/
def halfDeployed : List K8sCall :=
  [.create [{ areaId := 1, isMasterArea := true, mgmtNet := "mgmt", workerReplicas := 2 }],
    .delWorkers ["k8s-vm-w-1"]]

/-- The worker that was not created is deleted, and its number stays taken. -/
theorem worker_numbers_follow_workers_fails :
    ¬ ∀ (raises : Nat → Option PyError) (id : String) (calls : List K8sCall),
      Numbered id (runAll (K8sCall.exec raises id) {} calls) := by
  intro h
  have hnumbers := (h (fun step => if step = 8 then some (.external "quota exceeded") else none) "k8s" halfDeployed).numbers 1
    (by decide)
  revert hnumbers
  decide +kernel

end K8sBlueprint

end Nfvcl
