import Mathlib.Data.List.Basic
import Nfvcl.Effects
import Nfvcl.ListUpdates
import Nfvcl.PyValue

namespace Nfvcl
set_option autoImplicit true
open Effects ListUpdates

/-- A job: addresses that are scraped with the same labels. -/
structure PrometheusServer.PrometheusTargetModel (L : Type) where
  targets : List String := []
  labels : L
  deriving DecidableEq, Repr

/-- The jobs of a server. -/
abbrev PrometheusTargets (L : Type) := List (PrometheusServer.PrometheusTargetModel L)

namespace PrometheusServer

variable {L : Type} [DecidableEq L]

/-- `next(indexes, None)`: where in the job the first address of the new target is. -/
def existingTargetIndex (newTarget currentTarget : PrometheusTargetModel L) : Option Nat :=
  currentTarget.targets.findIdx? (fun ip => decide (ip ∈ newTarget.targets))

/-- The labels are given to the job at the place that the address has inside its job. -/
def addTarget (newTarget : PrometheusTargetModel L) : EStateM PyError (PrometheusTargets L) Unit := do
  let jobs ← get
  match jobs.findSome? (existingTargetIndex newTarget) with
  | some index =>
    if index < jobs.length then set (jobs.modify index (fun job => { job with labels := newTarget.labels }))
    else throw (.indexError "list index out of range")
  | none => set (jobs ++ [newTarget])

def findTargetByIpaddress (ip : String) (jobs : PrometheusTargets L) : Option (PrometheusTargetModel L) :=
  jobs.find? (fun job => decide (ip ∈ job.targets))

def delTarget (targetIp : PrometheusTargetModel L) : EStateM PyError (PrometheusTargets L) (PrometheusTargetModel L) := do
  let jobs ← get
  match targetIp.targets.findSome? (fun ip => findTargetByIpaddress ip jobs) with
  | some targetToDel =>
    set (jobs.eraseIdx (jobs.idxOf targetToDel))
    return targetToDel
  | none => throw (.valueError "Target to be delete has not been found")

inductive Op (L : Type) where
  | add (target : PrometheusTargetModel L)
  | del (target : PrometheusTargetModel L)

def Op.target : Op L → PrometheusTargetModel L
  | .add target => target
  | .del target => target

def exec : Op L → EStateM PyError (PrometheusTargets L) Unit
  | .add target => addTarget target
  | .del target => do
    let _ ← delTarget target
    return ()

def step (jobs : PrometheusTargets L) (op : Op L) : PrometheusTargets L :=
  finalState ((exec op).run jobs)

omit [DecidableEq L] in
/-- No address is in two jobs. -/
def DisjointJobs (jobs : PrometheusTargets L) : Prop :=
  jobs.Pairwise (fun job job' => ∀ ip ∈ job.targets, ip ∉ job'.targets)

/-- The two have an address in common. -/
def Overlaps (job target : PrometheusTargetModel L) : Prop :=
  ∃ ip ∈ job.targets, ip ∈ target.targets

def labelsOf (ip : String) (jobs : PrometheusTargets L) : Option L :=
  (findTargetByIpaddress ip jobs).map PrometheusTargetModel.labels

/-- Addresses that are not in the target, nor in a job with one that is, keep their labels. -/
def KeepsOthers (jobs : PrometheusTargets L) (target : PrometheusTargetModel L) (jobs' : PrometheusTargets L) : Prop :=
  ∀ ip, ip ∉ target.targets → (∀ job ∈ jobs, ip ∈ job.targets → ¬ Overlaps job target) → labelsOf ip jobs' = labelsOf ip jobs

/-- What a call is to do. -/
def Law (jobs : PrometheusTargets L) : Op L → Prop
  | .add target => ¬ Raised ((exec (.add target)).run jobs) ∧ (∀ ip ∈ target.targets, labelsOf ip (step jobs (.add target)) = some target.labels) ∧
      DisjointJobs (step jobs (.add target)) ∧ KeepsOthers jobs target (step jobs (.add target))
  | .del target => (Raised ((exec (.del target)).run jobs) ↔ ∀ ip ∈ target.targets, findTargetByIpaddress ip jobs = none) ∧
      (∀ ip ∈ target.targets, findTargetByIpaddress ip (step jobs (.del target)) = none) ∧
      DisjointJobs (step jobs (.del target)) ∧ KeepsOthers jobs target (step jobs (.del target))

/-- A new target meets no job; or all its addresses are there already, the place of the first one inside
its job is that of the only job that has other labels, and that job has an address of the target too,
or none at all. A target to be deleted meets one job at most. -/
def Sound (jobs : PrometheusTargets L) : Op L → Prop
  | .add target => ∀ index, jobs.findSome? (existingTargetIndex target) = some index →
      (∀ ip ∈ target.targets, ∃ job ∈ jobs, ip ∈ job.targets) ∧
      (∀ k job, jobs[k]? = some job → Overlaps job target → k = index ∨ job.labels = target.labels) ∧
      ∃ job, jobs[index]? = some job ∧ (job.labels = target.labels ∨ job.targets = [] ∨ Overlaps job target)
  | .del target => ∀ job ∈ jobs, ∀ job' ∈ jobs, Overlaps job target → Overlaps job' target → job = job'

/-! ### Finding an address -/

section Finding

variable {jobs jobs' : PrometheusTargets L} {target job : PrometheusTargetModel L} {ip : String}

omit [DecidableEq L]

theorem find_eq_none_iff : findTargetByIpaddress ip jobs = none ↔ ∀ job ∈ jobs, ip ∉ job.targets := by
  rw [findTargetByIpaddress, List.find?_eq_none]
  exact forall₂_congr fun job _ => not_congr decide_eq_true_iff

theorem find_mem (h : findTargetByIpaddress ip jobs = some job) : job ∈ jobs ∧ ip ∈ job.targets := by
  have htest := List.find?_some h
  exact ⟨List.mem_of_find?_eq_some h, of_decide_eq_true htest⟩

/-- The job of an address is the only one that has it. -/
theorem DisjointJobs.find_eq (h : DisjointJobs jobs) (hjob : job ∈ jobs) (hip : ip ∈ job.targets) : findTargetByIpaddress ip jobs = some job := by
  induction jobs with
  | nil => cases hjob
  | cons first rest ih =>
    obtain ⟨hfirst, hrest⟩ := List.pairwise_cons.1 h
    unfold findTargetByIpaddress at ih ⊢
    rcases List.mem_cons.1 hjob with rfl | hjob
    · exact List.find?_cons_of_pos (decide_eq_true hip)
    · have hnot : ip ∉ first.targets := fun hmem => hfirst job hjob ip hmem hip
      rw [List.find?_cons_of_neg (by simpa using hnot)]
      exact ih hrest hjob

theorem DisjointJobs.eq_of_shared (h : DisjointJobs jobs) (hjob : job ∈ jobs) (hjob' : job' ∈ jobs) (hip : ip ∈ job.targets)
    (hip' : ip ∈ job'.targets) : job = job' :=
  Option.some.inj ((h.find_eq hjob hip).symm.trans (h.find_eq hjob' hip'))

theorem existingTargetIndex_eq_none_iff : existingTargetIndex target job = none ↔ ¬ Overlaps job target := by
  rw [existingTargetIndex, List.findIdx?_eq_none_iff]
  constructor
  · rintro h ⟨ip, hip, hmem⟩
    exact of_decide_eq_false (h ip hip) hmem
  · intro h ip hip
    exact decide_eq_false fun hmem => h ⟨ip, hip, hmem⟩

theorem findSome_eq_none_iff : jobs.findSome? (existingTargetIndex target) = none ↔ ∀ job ∈ jobs, ¬ Overlaps job target := by
  rw [List.findSome?_eq_none_iff]
  exact forall₂_congr fun job _ => existingTargetIndex_eq_none_iff

/-! ### Jobs with the same addresses -/

theorem disjointJobs_congr (h : jobs'.map PrometheusTargetModel.targets = jobs.map PrometheusTargetModel.targets) :
    DisjointJobs jobs' ↔ DisjointJobs jobs := by
  have hmap : ∀ js : PrometheusTargets L, DisjointJobs js ↔
      (js.map PrometheusTargetModel.targets).Pairwise (fun ips ips' => ∀ ip ∈ ips, ip ∉ ips') := by
    intro js
    rw [List.pairwise_map]
    exact Iff.rfl
  rw [hmap, hmap, h]

theorem map_modify_targets (index : Nat) (labels : L) :
    (jobs.modify index (fun job => { job with labels := labels })).map PrometheusTargetModel.targets = jobs.map PrometheusTargetModel.targets := by
  refine List.ext_getElem? fun k => ?_
  rw [List.getElem?_map, List.getElem?_map, List.getElem?_modify]
  cases jobs[k]? with
  | none => rfl
  | some job =>
    split
    · rfl
    · rfl

/-- The labels of an address are those of its job, or the new ones. -/
theorem labelsOf_modify (h : DisjointJobs jobs) (hk : jobs[k]? = some job) (hip : ip ∈ job.targets) (index : Nat) (labels : L) :
    labelsOf ip (jobs.modify index (fun job => { job with labels := labels })) = some (if index = k then labels else job.labels) := by
  have hdisjoint := (disjointJobs_congr (map_modify_targets index labels)).2 h
  have hget : (jobs.modify index (fun job => { job with labels := labels }))[k]? =
      some (if index = k then { job with labels := labels } else job) := by
    rw [List.getElem?_modify, hk]
    split
    · rfl
    · rfl
  have htargets : ip ∈ (if index = k then { job with labels := labels } else job).targets := by
    split
    · exact hip
    · exact hip
  rw [labelsOf, hdisjoint.find_eq (List.mem_of_getElem? hget) htargets]
  split
  · rfl
  · rfl

theorem labelsOf_eq_none (h : ∀ job ∈ jobs, ip ∉ job.targets) : labelsOf ip jobs = none := by
  rw [labelsOf, find_eq_none_iff.2 h]
  rfl

theorem labelsOf_eq (h : DisjointJobs jobs) (hjob : job ∈ jobs) (hip : ip ∈ job.targets) : labelsOf ip jobs = some job.labels := by
  rw [labelsOf, h.find_eq hjob hip]
  rfl

/-- An address that is in no job is in none after the change. -/
theorem not_mem_modify (h : ∀ job ∈ jobs, ip ∉ job.targets) (index : Nat) (labels : L) :
    ∀ job ∈ jobs.modify index (fun job => { job with labels := labels }), ip ∉ job.targets := by
  intro job hjob hip
  have hmem : job.targets ∈ jobs.map PrometheusTargetModel.targets := by
    rw [← map_modify_targets index labels]
    exact List.mem_map.2 ⟨job, hjob, rfl⟩
  obtain ⟨job', hjob', hsame⟩ := List.mem_map.1 hmem
  exact h job' hjob' (hsame ▸ hip)

end Finding

/-! ### One call -/

variable {jobs : PrometheusTargets L} {target : PrometheusTargetModel L}

theorem exec_add_none (h : jobs.findSome? (existingTargetIndex target) = none) : (exec (.add target)).run jobs = .ok () (jobs ++ [target]) := by
  unfold exec addTarget
  rw [run_bind_ok get _ rfl, h]
  rfl

theorem exec_add_some (h : jobs.findSome? (existingTargetIndex target) = some index) (hlt : index < jobs.length) :
    (exec (.add target)).run jobs = .ok () (jobs.modify index (fun job => { job with labels := target.labels })) := by
  unfold exec addTarget
  rw [run_bind_ok get _ rfl, h]
  simp only [if_pos hlt]
  rfl

theorem exec_add_raises (h : jobs.findSome? (existingTargetIndex target) = some index) (hle : ¬ index < jobs.length) :
    Raised ((exec (.add target)).run jobs) := by
  unfold exec addTarget
  rw [run_bind_ok get _ rfl, h]
  simp only [if_neg hle]
  trivial

theorem law_add_none (hjobs : DisjointJobs jobs) (h : jobs.findSome? (existingTargetIndex target) = none) : Law jobs (.add target) := by
  have hapart := findSome_eq_none_iff.1 h
  have hstep : step jobs (.add target) = jobs ++ [target] := by
    rw [step, exec_add_none h]
    rfl
  have hdisjoint : DisjointJobs (jobs ++ [target]) := by
    refine List.pairwise_append.2 ⟨hjobs, List.pairwise_singleton _ _, ?_⟩
    intro job hjob other hother ip hip hmem
    rw [List.mem_singleton.1 hother] at hmem
    exact hapart job hjob ⟨ip, hip, hmem⟩
  refine ⟨?_, ?_, ?_, ?_⟩
  · rw [exec_add_none h]
    exact fun hraised => hraised
  · intro ip hip
    rw [hstep, labelsOf_eq hdisjoint (List.mem_append_right _ List.mem_cons_self) hip]
  · rw [hstep]
    exact hdisjoint
  · intro ip hip _
    rw [hstep, labelsOf, labelsOf, findTargetByIpaddress, List.find?_append, List.find?_cons_of_neg (by simpa using hip)]
    simp [findTargetByIpaddress]

section Overlapping

variable {index : Nat} {job : PrometheusTargetModel L}
variable (hjobs : DisjointJobs jobs) (h : jobs.findSome? (existingTargetIndex target) = some index) (hjob : jobs[index]? = some job)

include h hjob in
theorem step_add_some : (exec (.add target)).run jobs = .ok () (step jobs (.add target)) ∧
    step jobs (.add target) = jobs.modify index (fun job => { job with labels := target.labels }) := by
  have hlt := (List.getElem?_eq_some_iff.1 hjob).1
  rw [step, exec_add_some h hlt]
  exact ⟨rfl, rfl⟩

include hjobs h hjob

theorem sound_of_law_add (hlaw : Law jobs (.add target)) : Sound jobs (.add target) := by
  obtain ⟨-, hlabels, -, hothers⟩ := hlaw
  intro index' hindex'
  cases h.symm.trans hindex'
  rw [(step_add_some h hjob).2] at hlabels hothers
  refine ⟨?_, ?_, job, hjob, ?_⟩
  · intro ip hip
    by_contra hnot
    have hnone := labelsOf_eq_none (not_mem_modify (fun job hjob hmem => hnot ⟨job, hjob, hmem⟩) index target.labels)
    rw [hlabels ip hip] at hnone
    cases hnone
  · rintro k other hk ⟨ip, hip, hmem⟩
    have hsame := hlabels ip hmem
    rw [labelsOf_modify hjobs hk hip] at hsame
    split at hsame
    · rename_i heq
      exact .inl heq.symm
    · exact .inr (Option.some.inj hsame)
  · by_cases hoverlaps : Overlaps job target
    · exact .inr (.inr hoverlaps)
    · cases htargets : job.targets with
      | nil => exact .inr (.inl rfl)
      | cons ip rest =>
        have hip : ip ∈ job.targets := htargets ▸ List.mem_cons_self
        have hkept := hothers ip (fun hmem => hoverlaps ⟨ip, hip, hmem⟩) ?_
        · rw [labelsOf_modify hjobs hjob hip, if_pos rfl, labelsOf_eq hjobs (List.mem_of_getElem? hjob) hip] at hkept
          exact .inl (Option.some.inj hkept).symm
        · intro other hother hmem
          rw [hjobs.eq_of_shared hother (List.mem_of_getElem? hjob) hmem hip]
          exact hoverlaps

theorem law_of_sound_add (hsound : Sound jobs (.add target)) : Law jobs (.add target) := by
  obtain ⟨hrun, hstep⟩ := step_add_some h hjob
  obtain ⟨hpresent, hlabels, job', hjob', hown⟩ := hsound index h
  cases hjob.symm.trans hjob'
  refine ⟨?_, ?_, ?_, ?_⟩
  · rw [hrun]
    exact fun hraised => hraised
  · intro ip hip
    obtain ⟨other, hother, hmem⟩ := hpresent ip hip
    obtain ⟨k, hk⟩ := List.mem_iff_getElem?.1 hother
    rw [hstep, labelsOf_modify hjobs hk hmem]
    rcases hlabels k other hk ⟨ip, hmem, hip⟩ with rfl | hsame
    · rw [if_pos rfl]
    · rw [hsame, ite_self]
  · rw [hstep]
    exact (disjointJobs_congr (map_modify_targets index target.labels)).2 hjobs
  · intro ip hip hapart
    rw [hstep]
    by_cases hin : ∃ other ∈ jobs, ip ∈ other.targets
    · obtain ⟨other, hother, hmem⟩ := hin
      obtain ⟨k, hk⟩ := List.mem_iff_getElem?.1 hother
      rw [labelsOf_modify hjobs hk hmem, labelsOf_eq hjobs hother hmem]
      by_cases hindex : index = k
      · subst hindex
        cases hjob.symm.trans hk
        rcases hown with hsame | hempty | hoverlaps
        · rw [if_pos rfl, hsame]
        · rw [hempty] at hmem
          cases hmem
        · exact absurd hoverlaps (hapart job hother hmem)
      · rw [if_neg hindex]
    · have hnone : ∀ other ∈ jobs, ip ∉ other.targets := fun other hother hmem => hin ⟨other, hother, hmem⟩
      rw [labelsOf_eq_none hnone, labelsOf_eq_none (not_mem_modify hnone index target.labels)]

end Overlapping

theorem law_add_iff (hjobs : DisjointJobs jobs) : Law jobs (.add target) ↔ Sound jobs (.add target) := by
  cases h : jobs.findSome? (existingTargetIndex target) with
  | none =>
    refine ⟨fun _ index hindex => ?_, fun _ => law_add_none hjobs h⟩
    rw [h] at hindex
    cases hindex
  | some index =>
    cases hjob : jobs[index]? with
    | some job => exact ⟨sound_of_law_add hjobs h hjob, law_of_sound_add hjobs h hjob⟩
    | none =>
      constructor
      · rintro ⟨hnot, -⟩
        exact absurd (exec_add_raises h (Nat.not_lt.2 (List.getElem?_eq_none_iff.1 hjob))) hnot
      · intro hsound
        obtain ⟨-, -, job, hjob', -⟩ := hsound index h
        rw [hjob] at hjob'
        cases hjob'

theorem exec_del_none (h : target.targets.findSome? (fun ip => findTargetByIpaddress ip jobs) = none) :
    (exec (.del target)).run jobs = .error (.valueError "Target to be delete has not been found") jobs := by
  have hrun : (delTarget target).run jobs = .error (.valueError "Target to be delete has not been found") jobs := by
    unfold delTarget
    rw [run_bind_ok get _ rfl, h]
    rfl
  exact run_bind_error _ _ hrun

theorem exec_del_some (h : target.targets.findSome? (fun ip => findTargetByIpaddress ip jobs) = some job) (hjob : job ∈ jobs) :
    (exec (.del target)).run jobs = .ok () (jobs.erase job) := by
  have hrun : (delTarget target).run jobs = .ok job (jobs.erase job) := by
    unfold delTarget
    rw [run_bind_ok get _ rfl, h, List.erase_eq_eraseIdx_of_idxOf rfl]
    rfl
  exact run_bind_ok _ _ hrun

omit [DecidableEq L] in
theorem overlaps_of_found (h : target.targets.findSome? (fun ip => findTargetByIpaddress ip jobs) = some job) :
    job ∈ jobs ∧ Overlaps job target := by
  obtain ⟨ip, hip, hfind⟩ := List.exists_of_findSome?_eq_some h
  exact ⟨(find_mem hfind).1, ip, (find_mem hfind).2, hip⟩

/-- The other jobs have no address of the one that goes. -/
theorem DisjointJobs.erase (h : DisjointJobs jobs) (hjob : job ∈ jobs) :
    DisjointJobs (jobs.erase job) ∧ ∀ other ∈ jobs.erase job, ∀ ip ∈ job.targets, ip ∉ other.targets := by
  have hsymm : Std.Symm (fun job job' : PrometheusTargetModel L => ∀ ip ∈ job.targets, ip ∉ job'.targets) :=
    ⟨fun _ _ hapart ip hip hip' => hapart ip hip' hip⟩
  have hcons : DisjointJobs (job :: jobs.erase job) := ((List.perm_cons_erase hjob).pairwise_iff fun hxy => hsymm.symm _ _ hxy).1 h
  obtain ⟨hfirst, hrest⟩ := List.pairwise_cons.1 hcons
  exact ⟨hrest, hfirst⟩

theorem keepsOthers_erase (hjobs : DisjointJobs jobs) (hjob : job ∈ jobs) (hoverlaps : Overlaps job target) :
    KeepsOthers jobs target (jobs.erase job) := by
  intro ip _ hapart
  by_cases hin : ∃ other ∈ jobs, ip ∈ other.targets
  · obtain ⟨other, hother, hmem⟩ := hin
    have hne : other ≠ job := by
      rintro rfl
      exact hapart other hother hmem hoverlaps
    rw [labelsOf_eq hjobs hother hmem, labelsOf_eq (hjobs.erase hjob).1 ((List.mem_erase_of_ne hne).2 hother) hmem]
  · have hnone : ∀ other ∈ jobs, ip ∉ other.targets := fun other hother hmem => hin ⟨other, hother, hmem⟩
    rw [labelsOf_eq_none hnone, labelsOf_eq_none fun other hother => hnone other (List.mem_of_mem_erase hother)]

theorem law_del_iff (hjobs : DisjointJobs jobs) : Law jobs (.del target) ↔ Sound jobs (.del target) := by
  cases h : target.targets.findSome? (fun ip => findTargetByIpaddress ip jobs) with
  | none =>
    have hnone := List.findSome?_eq_none_iff.1 h
    have hstep : step jobs (.del target) = jobs := by
      rw [step, exec_del_none h]
      rfl
    have habsent : ∀ job ∈ jobs, ¬ Overlaps job target := by
      rintro job hjob ⟨ip, hip, hmem⟩
      exact find_eq_none_iff.1 (hnone ip hmem) job hjob hip
    constructor
    · intro _ job hjob _ _ hoverlaps
      exact absurd hoverlaps (habsent job hjob)
    · intro _
      refine ⟨?_, ?_, hstep.symm ▸ hjobs, ?_⟩
      · rw [exec_del_none h]
        exact ⟨fun _ => hnone, fun _ => trivial⟩
      · rw [hstep]
        exact hnone
      · intro ip _ _
        rw [hstep]
  | some job =>
    obtain ⟨hjob, hoverlaps⟩ := overlaps_of_found h
    have hstep : step jobs (.del target) = jobs.erase job := by
      rw [step, exec_del_some h hjob]
      rfl
    obtain ⟨hdisjoint, hapart⟩ := hjobs.erase hjob
    constructor
    · rintro ⟨-, hgone, -⟩
      have hsame : ∀ other ∈ jobs, Overlaps other target → other = job := by
        rintro other hother ⟨ip, hip, hmem⟩
        by_contra hne
        have hnone := hgone ip hmem
        rw [hstep] at hnone
        exact find_eq_none_iff.1 hnone other ((List.mem_erase_of_ne hne).2 hother) hip
      intro first hfirst second hsecond hfirst' hsecond'
      rw [hsame first hfirst hfirst', hsame second hsecond hsecond']
    · intro hsound
      refine ⟨?_, ?_, hstep.symm ▸ hdisjoint, hstep.symm ▸ keepsOthers_erase hjobs hjob hoverlaps⟩
      · rw [exec_del_some h hjob]
        refine ⟨fun hraised => hraised.elim, fun hnone => ?_⟩
        obtain ⟨ip, hip, hmem⟩ := hoverlaps
        exact find_eq_none_iff.1 (hnone ip hmem) job hjob hip
      · intro ip hip
        rw [hstep, find_eq_none_iff]
        intro other hother hmem
        have hsame := hsound other (List.mem_of_mem_erase hother) job hjob ⟨ip, hmem, hip⟩ hoverlaps
        subst hsame
        exact hapart other hother ip hmem hmem

/-! ### Runs -/

theorem law_iff_sound (hjobs : DisjointJobs jobs) (op : Op L) : Law jobs op ↔ Sound jobs op := by
  cases op with
  | add target => exact law_add_iff hjobs
  | del target => exact law_del_iff hjobs

theorem Law.disjoint (h : Law jobs op) : DisjointJobs (step jobs op) := by
  cases op with
  | add target => exact h.2.2.1
  | del target => exact h.2.2.1

theorem target_runs_iff (hjobs : DisjointJobs jobs) (ops : List (Op L)) : Along Law step jobs ops ↔ Along Sound step jobs ops := by
  induction ops generalizing jobs with
  | nil => exact Iff.rfl
  | cons op ops ih =>
    have hstep := law_iff_sound hjobs op
    constructor
    · rintro ⟨hlaw, hrest⟩
      exact ⟨hstep.1 hlaw, (ih hlaw.disjoint).1 hrest⟩
    · rintro ⟨hsound, hrest⟩
      exact ⟨hstep.2 hsound, (ih (hstep.2 hsound).disjoint).2 hrest⟩

def twoNodes : PrometheusTargetModel String where
  targets := ["10.0.0.1:9100", "10.0.0.2:9100"]
  labels := "edge"

def firstNode : PrometheusTargetModel String where
  targets := ["10.0.0.1:9100"]
  labels := "core"

def secondNode : PrometheusTargetModel String where
  targets := ["10.0.0.2:9100"]
  labels := "core"

def newNode : PrometheusTargetModel String where
  targets := ["10.0.0.3:9100"]
  labels := "edge"

/-- The first address of the only job gives it new labels, and then a new job is added and deleted. -/
theorem target_runs_nodes : Along Law step [twoNodes] [.add firstNode, .add newNode, .del newNode] := by
  refine (target_runs_iff (List.pairwise_singleton _ _) _).2 ⟨?_, ?_, ?_, trivial⟩
  · intro index hindex
    have hzero : [twoNodes].findSome? (existingTargetIndex firstNode) = some 0 := by decide
    cases hzero.symm.trans hindex
    refine ⟨by decide, ?_, twoNodes, rfl, .inr (.inr ⟨"10.0.0.1:9100", by decide, by decide⟩)⟩
    intro k job hk _
    cases k with
    | zero => exact .inl rfl
    | succ k => cases hk
  · intro index hindex
    have hnone : (step [twoNodes] (.add firstNode)).findSome? (existingTargetIndex newNode) = none := by decide
    cases hnone.symm.trans hindex
  · have hjobs : step (step [twoNodes] (.add firstNode)) (.add newNode) = [{ twoNodes with labels := "core" }, newNode] := by decide
    rw [hjobs]
    have hnew : ∀ job ∈ [{ twoNodes with labels := "core" }, newNode], Overlaps job newNode → job = newNode := by
      unfold Overlaps
      decide
    intro job hjob job' hjob' hover hover'
    rw [hnew job hjob hover, hnew job' hjob' hover']

/-- The second address of the only job is to get new labels: its place is taken for that of a second job. -/
theorem target_runs_fail : ¬ ∀ (jobs : PrometheusTargets String) (ops : List (Op String)), DisjointJobs jobs → Along Law step jobs ops := by
  intro h
  have hlaw := (h [twoNodes] [.add secondNode] (List.pairwise_singleton _ _)).1
  exact hlaw.1 (by decide +kernel)

end PrometheusServer

end Nfvcl
