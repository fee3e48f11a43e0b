import Mathlib.Data.List.Basic
import Mathlib.Logic.Function.Basic

namespace Nfvcl.Playbooks
set_option autoImplicit true

variable {Task Key Part : Type} [DecidableEq Key]

/-- What the tasks of a playbook do to a machine, of which each task changes at most the part with its key. -/
structure Machine (Task Key Part : Type) where
  key : Task → Option Key
  effect : Task → Part → Part

namespace Machine

variable (M : Machine Task Key Part)

def changeAt (k : Option Key) (f : Part → Part) (m : Key → Part) : Key → Part :=
  match k with
  | some k => Function.update m k (f (m k))
  | none => m

def perform (m : Key → Part) (t : Task) : Key → Part :=
  changeAt (M.key t) (M.effect t) m

def performAll (m : Key → Part) (tasks : List Task) : Key → Part :=
  tasks.foldl M.perform m

/-- The tasks that change the part with the key. -/
def about (k : Key) (tasks : List Task) : List Task :=
  tasks.filter (fun t => decide (M.key t = some k))

theorem changeAt_other {k : Option Key} {l : Key} (h : k ≠ some l) (f : Part → Part) (m : Key → Part) : changeAt k f m l = m l := by
  cases k with
  | none => rfl
  | some k =>
    have hne : l ≠ k := fun he => h (congrArg some he.symm)
    exact Function.update_of_ne hne _ m

theorem about_cons (k : Key) (t : Task) (tasks : List Task) :
    M.about k (t :: tasks) = if M.key t = some k then t :: M.about k tasks else M.about k tasks := by
  rw [about, List.filter_cons]
  simp only [decide_eq_true_eq]
  rfl

variable {M}

/-- A part of the machine depends on the tasks about it alone. -/
theorem performAll_apply (m : Key → Part) (tasks : List Task) (k : Key) :
    M.performAll m tasks k = (M.about k tasks).foldl (fun part t => M.effect t part) (m k) := by
  induction tasks generalizing m with
  | nil => rfl
  | cons t tasks ih =>
    have htail : M.performAll m (t :: tasks) k = M.performAll (M.perform m t) tasks k := rfl
    rw [htail, ih]
    by_cases h : M.key t = some k
    · have hat : M.perform m t k = M.effect t (m k) := by
        rw [perform, h]
        exact Function.update_self k _ m
      rw [about_cons, if_pos h, List.foldl_cons, hat]
    · have hat : M.perform m t k = m k := changeAt_other h _ m
      rw [about_cons, if_neg h, hat]

theorem about_eq_nil {tasks : List Task} {k : Key} : M.about k tasks = [] ↔ ∀ t ∈ tasks, M.key t ≠ some k := by
  simp only [about, List.filter_eq_nil_iff, decide_eq_true_eq, ne_eq]

theorem about_append (k : Key) (tasks tasks' : List Task) : M.about k (tasks ++ tasks') = M.about k tasks ++ M.about k tasks' :=
  List.filter_append ..

end Machine

/-- One run of a playbook: its tasks, and where it stopped if it did not succeed. -/
structure Attempt (Task Part : Type) where
  tasks : List Task
  succeeded : Bool
  /-- How many tasks of a failed run were carried out. -/
  completed : Nat
  /-- What the failed task left of the part it is about. -/
  torn : Part → Part

namespace Machine

variable (M : Machine Task Key Part)

def after (m : Key → Part) (a : Attempt Task Part) : Key → Part :=
  if a.succeeded then M.performAll m a.tasks
  else
    let reached := M.performAll m (a.tasks.take a.completed)
    match a.tasks[a.completed]? with
    | some t => changeAt (M.key t) a.torn reached
    | none => reached

def afterAll (m : Key → Part) (attempts : List (Attempt Task Part)) : Key → Part :=
  attempts.foldl M.after m

variable {M}

theorem afterAll_concat (m : Key → Part) (attempts : List (Attempt Task Part)) (a : Attempt Task Part) :
    M.afterAll m (attempts ++ [a]) = M.after (M.afterAll m attempts) a := by
  rw [afterAll, List.foldl_append]
  rfl

theorem after_succeeded {a : Attempt Task Part} (h : a.succeeded = true) (m : Key → Part) (k : Key) :
    M.after m a k = (M.about k a.tasks).foldl (fun part t => M.effect t part) (m k) := by
  rw [after, if_pos h, performAll_apply]

/-- Wherever a run stops, it leaves the parts alone that no task is about. -/
theorem after_untouched {a : Attempt Task Part} {k : Key} (h : ∀ t ∈ a.tasks, M.key t ≠ some k) (m : Key → Part) :
    M.after m a k = m k := by
  have hperform {tasks : List Task} (hsub : ∀ t ∈ tasks, t ∈ a.tasks) : M.performAll m tasks k = m k := by
    rw [performAll_apply, about_eq_nil.2 (fun t ht => h t (hsub t ht))]
    rfl
  unfold after
  split
  · exact hperform (fun _ ht => ht)
  · cases hget : a.tasks[a.completed]? with
    | some t => exact (changeAt_other (h t (List.mem_of_getElem? hget)) _ _).trans (hperform (fun _ ht => List.mem_of_mem_take ht))
    | none => exact hperform (fun _ ht => List.mem_of_mem_take ht)

end Machine

end Nfvcl.Playbooks
