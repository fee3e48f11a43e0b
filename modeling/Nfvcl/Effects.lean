import Mathlib.Data.List.Basic
import Mathlib.Data.List.Forall2

namespace Nfvcl.Effects
set_option autoImplicit true

/-- The state a program leaves behind, whether it returned or raised. -/
def finalState : EStateM.Result ε σ α → σ
  | .ok _ s => s
  | .error _ s => s

@[simp] theorem finalState_ok (a : α) (s : σ) :
    finalState (.ok a s : EStateM.Result ε σ α) = s := rfl

@[simp] theorem finalState_error (e : ε) (s : σ) :
    finalState (.error e s : EStateM.Result ε σ α) = s := rfl

/-- The value a program returned, if it did. -/
def returned : EStateM.Result ε σ α → Option α
  | .ok a _ => some a
  | .error _ _ => none

@[simp] theorem returned_ok (a : α) (s : σ) :
    returned (.ok a s : EStateM.Result ε σ α) = some a := rfl

@[simp] theorem returned_error (e : ε) (s : σ) :
    returned (.error e s : EStateM.Result ε σ α) = none := rfl

/-- The program raised. -/
def Raised : EStateM.Result ε σ α → Prop
  | .ok _ _ => False
  | .error _ _ => True

@[simp] theorem raised_ok (a : α) (s : σ) :
    ¬ Raised (.ok a s : EStateM.Result ε σ α) := fun h => h

@[simp] theorem raised_error (e : ε) (s : σ) :
    Raised (.error e s : EStateM.Result ε σ α) := trivial

instance (r : EStateM.Result ε σ α) : Decidable (Raised r) :=
  match r with
  | .ok _ _ => .isFalse (fun h => h)
  | .error _ _ => .isTrue trivial

theorem eq_ok_of_not_raised {r : EStateM.Result ε σ Unit} (h : ¬ Raised r) : r = .ok () (finalState r) := by
  cases r with
  | ok u s => rfl
  | error e s => exact (h trivial).elim

@[simp] theorem run_raise (e : ε) (s : σ) :
    EStateM.run (throw e : EStateM ε σ α) s = .error e s := rfl

/-- An exception handler starts from the state in which the exception was raised. -/
@[simp] theorem run_tryCatch (m : EStateM ε σ α) (h : ε → EStateM ε σ α) (s : σ) :
    EStateM.run (tryCatch m h) s =
      match EStateM.run m s with
      | .ok a s' => .ok a s'
      | .error e s' => EStateM.run (h e) s' := by
  change EStateM.tryCatch m h s = _
  simp only [EStateM.tryCatch, EStateM.run]
  cases m s <;> rfl

@[simp] theorem run_ite (c : Prop) [Decidable c] (m n : EStateM ε σ α) (s : σ) :
    EStateM.run (if c then m else n) s = if c then EStateM.run m s else EStateM.run n s := by
  split <;> rfl

/-- A program raises exactly when its first half does, or its second half does afterwards. -/
theorem run_bind_error (m : EStateM ε σ α) (f : α → EStateM ε σ β) (h : m.run s = .error e s') :
    EStateM.run (m >>= f) s = .error e s' := by
  rw [EStateM.run_bind, h]

theorem run_bind_ok (m : EStateM ε σ α) (f : α → EStateM ε σ β) (h : m.run s = .ok a s') :
    EStateM.run (m >>= f) s = (f a).run s' := by
  rw [EStateM.run_bind, h]

theorem run_tryCatch_ok (m : EStateM ε σ α) (f : α → EStateM ε σ β) (handler : ε → EStateM ε σ β)
    (h : m.run s = .ok a s') : EStateM.run (tryCatch (m >>= f) handler) s = EStateM.run (tryCatch (f a) handler) s' := by
  rw [run_tryCatch, run_tryCatch, run_bind_ok m f h]

/-- A sequence that returns has returned at its first half. -/
theorem bind_ok_inv {m : EStateM ε σ α} {f : α → EStateM ε σ β}
    (h : EStateM.run (m >>= f) s = .ok b s'') :
    ∃ a s', m.run s = .ok a s' ∧ (f a).run s' = .ok b s'' := by
  rw [EStateM.run_bind] at h
  cases hm : m.run s with
  | ok a s' =>
    rw [hm] at h
    exact ⟨a, s', rfl, h⟩
  | error e s' =>
    rw [hm] at h
    cases h

/-- Run a program on one component of a larger state. -/
def zoom (get : σ → τ) (put : τ → σ → σ) (m : EStateM ε τ α) : EStateM ε σ α := fun s =>
  match m.run (get s) with
  | .ok a t => .ok a (put t s)
  | .error e t => .error e (put t s)

@[simp] theorem run_zoom (get : σ → τ) (put : τ → σ → σ) (m : EStateM ε τ α) (s : σ) :
    EStateM.run (zoom get put m) s =
      match m.run (get s) with
      | .ok a t => .ok a (put t s)
      | .error e t => .error e (put t s) := rfl

/-- Partial correctness with both exits: `Q` if the program returns, `E` if it raises. -/
def Meets (m : EStateM ε σ α) (s : σ) (Q : α → σ → Prop) (E : ε → σ → Prop) : Prop :=
  match m.run s with
  | .ok a s' => Q a s'
  | .error e s' => E e s'

theorem meets_of_ok {m : EStateM ε σ α} {s : σ} {Q : α → σ → Prop} {E : ε → σ → Prop} (h : m.run s = .ok a s')
    (hQ : Q a s') : Meets m s Q E := by
  unfold Meets
  rw [h]
  exact hQ

theorem meets_of_error {m : EStateM ε σ α} {s : σ} {Q : α → σ → Prop} {E : ε → σ → Prop} (h : m.run s = .error e s')
    (hE : E e s') : Meets m s Q E := by
  unfold Meets
  rw [h]
  exact hE

theorem Meets.mono (h : Meets m s Q E) (hQ : ∀ a s', Q a s' → Q' a s')
    (hE : ∀ e s', E e s' → E' e s') : Meets m s Q' E' := by
  unfold Meets at h ⊢
  cases hr : EStateM.run m s with
  | ok a s' =>
    rw [hr] at h
    exact hQ a s' h
  | error e s' =>
    rw [hr] at h
    exact hE e s' h

theorem Meets.and (h : Meets m s Q E) (h' : Meets m s Q' E') :
    Meets m s (fun a s' => Q a s' ∧ Q' a s') (fun e s' => E e s' ∧ E' e s') := by
  unfold Meets at h h' ⊢
  cases hr : EStateM.run m s with
  | ok a s' =>
    rw [hr] at h h'
    exact ⟨h, h'⟩
  | error e s' =>
    rw [hr] at h h'
    exact ⟨h, h'⟩

theorem Meets.bind {m : EStateM ε σ α} {f : α → EStateM ε σ β} {R : α → σ → Prop}
    (hm : Meets m s R E) (hf : ∀ a s', R a s' → Meets (f a) s' Q E) : Meets (m >>= f) s Q E := by
  unfold Meets at hm ⊢
  rw [EStateM.run_bind]
  cases hr : EStateM.run m s with
  | ok a s' =>
    rw [hr] at hm
    exact hf a s' hm
  | error e s' =>
    rw [hr] at hm
    exact hm

theorem meets_bind {m : EStateM ε σ α} {f : α → EStateM ε σ β} :
    Meets (m >>= f) s Q E ↔ Meets m s (fun a s' => Meets (f a) s' Q E) E := by
  unfold Meets
  rw [EStateM.run_bind]
  cases EStateM.run m s <;> rfl

theorem meets_pure : Meets (pure a) s Q E ↔ Q a s := Iff.rfl

theorem meets_get : Meets get s Q E ↔ Q s s := Iff.rfl

theorem meets_set {t : σ} {E : ε → σ → Prop} : Meets (set t) s Q E ↔ Q () t := Iff.rfl

theorem meets_modify : Meets (modify f) s Q E ↔ Q () (f s) := Iff.rfl

theorem meets_tryCatch {m : EStateM ε σ α} {h : ε → EStateM ε σ α} :
    Meets (MonadExcept.tryCatch m h) s Q E ↔ Meets m s Q (fun e s' => Meets (h e) s' Q E) := by
  unfold Meets
  rw [run_tryCatch]
  cases EStateM.run m s <;> rfl

theorem meets_zoom {get : σ → τ} {put : τ → σ → σ} {m : EStateM ε τ α} :
    Meets (zoom get put m) s Q E ↔ Meets m (get s) (fun a t => Q a (put t s)) (fun e t => E e (put t s)) := by
  unfold Meets
  rw [run_zoom]
  cases EStateM.run m (get s) <;> rfl

/-- A handler runs in the state the exception was raised in. -/
theorem Meets.tryCatch {m : EStateM ε σ α} {h : ε → EStateM ε σ α} (hm : Meets m s Q E')
    (hh : ∀ e s', E' e s' → Meets (h e) s' Q E) : Meets (tryCatch m h) s Q E := by
  unfold Meets at hm ⊢
  rw [run_tryCatch]
  cases hr : EStateM.run m s with
  | ok a s' =>
    rw [hr] at hm
    exact hm
  | error e s' =>
    rw [hr] at hm
    exact hh e s' hm

/-- The loop rule: an invariant kept by each iteration holds when the loop ends. -/
theorem Meets.forM {f : α → EStateM ε σ PUnit} {I : σ → Prop} {E : ε → σ → Prop} (xs : List α)
    (hI : I s) (hf : ∀ a ∈ xs, ∀ s', I s' → Meets (f a) s' (fun _ => I) E) :
    Meets (forM xs f) s (fun _ => I) E := by
  induction xs generalizing s with
  | nil => exact hI
  | cons x xs ih =>
    rw [List.forM_cons]
    refine Meets.bind (hf x List.mem_cons_self s hI) ?_
    intro _ s' hs'
    exact ih hs' (fun a ha => hf a (List.mem_cons_of_mem x ha))

theorem Meets.finalState {m : EStateM ε σ α} {I : σ → Prop} (h : Meets m s (fun _ => I) (fun _ => I)) :
    I (finalState (m.run s)) := by
  unfold Meets at h
  cases hr : EStateM.run m s with
  | ok a s' =>
    rw [hr] at h
    exact h
  | error e s' =>
    rw [hr] at h
    exact h

theorem except_ok_bind (a : α) (f : α → Except ε β) : (Except.ok a >>= f) = f a :=
  rfl

theorem except_bind_ok {m : Except ε α} {f : α → Except ε β} :
    (m >>= f) = .ok b ↔ ∃ a, m = .ok a ∧ f a = .ok b := by
  cases m with
  | error e =>
    constructor
    · intro h
      cases h
    · rintro ⟨a, h, -⟩
      cases h
  | ok a =>
    constructor
    · exact fun h => ⟨a, rfl, h⟩
    · rintro ⟨a', h, hf⟩
      cases h
      exact hf

/-- A traversal returns when every element does. -/
theorem mapM_ok_iff {f : α → Except ε β} {xs : List α} {ys : List β} :
    xs.mapM f = .ok ys ↔ List.Forall₂ (fun x y => f x = .ok y) xs ys := by
  induction xs generalizing ys with
  | nil =>
    rw [List.forall₂_nil_left_iff]
    constructor
    · intro h
      cases h
      rfl
    · rintro rfl
      rfl
  | cons x xs ih =>
    rw [List.mapM_cons, List.forall₂_cons_left_iff]
    cases hx : f x with
    | error e =>
      constructor
      · intro h
        cases h
      · rintro ⟨y, ys', hy, -⟩
        cases hy
    | ok y =>
      cases hxs : xs.mapM f with
      | error e =>
        constructor
        · intro h
          cases h
        · rintro ⟨y', ys', -, h, -⟩
          rw [ih.2 h] at hxs
          cases hxs
      | ok ys' =>
        constructor
        · intro h
          cases h
          exact ⟨y, ys', rfl, ih.1 hxs, rfl⟩
        · rintro ⟨y', ys'', hy, h, rfl⟩
          cases hy
          rw [ih.2 h] at hxs
          cases hxs
          rfl

theorem exists_mapM_ok {f : α → Except ε β} {xs : List α} :
    (∃ ys, xs.mapM f = .ok ys) ↔ ∀ x ∈ xs, ∃ y, f x = .ok y := by
  constructor
  · rintro ⟨ys, h⟩ x hx
    have hall := mapM_ok_iff.1 h
    clear h
    induction hall with
    | nil => cases hx
    | cons hy _ ih =>
      rcases List.mem_cons.1 hx with rfl | hx
      · exact ⟨_, hy⟩
      · exact ih hx
  · intro h
    induction xs with
    | nil => exact ⟨[], rfl⟩
    | cons x xs ih =>
      obtain ⟨y, hy⟩ := h x List.mem_cons_self
      obtain ⟨ys, hys⟩ := ih (fun z hz => h z (List.mem_cons_of_mem x hz))
      exact ⟨y :: ys, mapM_ok_iff.2 (.cons hy (mapM_ok_iff.1 hys))⟩

theorem mem_of_mapM_ok {f : α → Except ε β} {xs : List α} (h : xs.mapM f = .ok ys) :
    y ∈ ys ↔ ∃ x ∈ xs, f x = .ok y := by
  have hall := mapM_ok_iff.1 h
  clear h
  induction hall with
  | nil => simp
  | cons hx _ ih =>
    constructor
    · intro hy
      rcases List.mem_cons.1 hy with rfl | hy
      · exact ⟨_, List.mem_cons_self, hx⟩
      · obtain ⟨x, hx', hy⟩ := ih.1 hy
        exact ⟨x, List.mem_cons_of_mem _ hx', hy⟩
    · rintro ⟨x, hx', hy⟩
      rcases List.mem_cons.1 hx' with rfl | hx'
      · exact List.mem_cons.2 (.inl (Except.ok.inj (hy.symm.trans hx)))
      · exact List.mem_cons_of_mem _ (ih.2 ⟨x, hx', hy⟩)

theorem Meets.returns {m : EStateM ε σ Unit} (h : Meets m s Q (fun _ _ => False)) : returned (m.run s) = some () := by
  unfold Meets at h
  cases hr : EStateM.run m s with
  | ok a s' => rfl
  | error e s' =>
    rw [hr] at h
    exact h.elim

section Runs

variable {Op : Type} (exec : Op → EStateM ε σ α)

/-- A run of operations, each of which may return or raise. -/
def runAll (s : σ) : List Op → σ
  | [] => s
  | op :: ops => runAll (finalState ((exec op).run s)) ops

/-- Every operation of a run meets a condition in the state it is started from. -/
def AllSteps (C : Op → σ → Prop) (s : σ) : List Op → Prop
  | [] => True
  | op :: ops => C op s ∧ AllSteps C (finalState ((exec op).run s)) ops

@[simp] theorem runAll_nil (s : σ) : runAll exec s [] = s := rfl

@[simp] theorem runAll_cons (s : σ) (op : Op) (ops : List Op) :
    runAll exec s (op :: ops) = runAll exec (finalState ((exec op).run s)) ops := rfl

theorem runAll_append (s : σ) (ops ops' : List Op) :
    runAll exec s (ops ++ ops') = runAll exec (runAll exec s ops) ops' := by
  induction ops generalizing s with
  | nil => rfl
  | cons op ops ih => exact ih _

/-- An invariant preserved by each admissible operation holds after an admissible run. -/
theorem runAll_invariant {C : Op → σ → Prop} {I : σ → Prop}
    (hstep : ∀ op s, C op s → I s → I (finalState ((exec op).run s)))
    (ops : List Op) (hC : AllSteps exec C s ops) (hI : I s) : I (runAll exec s ops) := by
  induction ops generalizing s with
  | nil => exact hI
  | cons op ops ih => exact ih hC.2 (hstep op s hC.1 hI)

/-- A property of single steps that follows from an invariant holds at every step. -/
theorem AllSteps.of_invariant {C D : Op → σ → Prop} {I : σ → Prop}
    (hstep : ∀ op s, C op s → I s → D op s ∧ I (finalState ((exec op).run s)))
    (ops : List Op) (hC : AllSteps exec C s ops) (hI : I s) : AllSteps exec D s ops := by
  induction ops generalizing s with
  | nil => trivial
  | cons op ops ih =>
    obtain ⟨hD, hI'⟩ := hstep op s hC.1 hI
    exact ⟨hD, ih hC.2 hI'⟩

/-- The same where the condition is on the operations alone. -/
theorem runAll_mem {I : σ → Prop} (ops : List Op) (hstep : ∀ op ∈ ops, ∀ s, I s → I (finalState ((exec op).run s)))
    (hI : I s) : I (runAll exec s ops) := by
  induction ops generalizing s with
  | nil => exact hI
  | cons op ops ih =>
    exact ih (fun op' hop' => hstep op' (List.mem_cons_of_mem op hop')) (hstep op List.mem_cons_self s hI)

/-- A condition on the operations alone. -/
theorem AllSteps.of_mem {C : Op → Prop} {ops : List Op} (h : ∀ op ∈ ops, C op) (s : σ) :
    AllSteps exec (fun op _ => C op) s ops := by
  induction ops generalizing s with
  | nil => trivial
  | cons op ops ih =>
    exact ⟨h op List.mem_cons_self, ih (fun o ho => h o (List.mem_cons_of_mem op ho)) _⟩

theorem AllSteps.and {C D : Op → σ → Prop} {ops : List Op} (h : AllSteps exec C s ops) (h' : AllSteps exec D s ops) :
    AllSteps exec (fun op s => C op s ∧ D op s) s ops := by
  induction ops generalizing s with
  | nil => trivial
  | cons op ops ih => exact ⟨⟨h.1, h'.1⟩, ih h.2 h'.2⟩

theorem allSteps_append {C : Op → σ → Prop} {ops ops' : List Op} :
    AllSteps exec C s (ops ++ ops') ↔ AllSteps exec C s ops ∧ AllSteps exec C (runAll exec s ops) ops' := by
  induction ops generalizing s with
  | nil => exact ⟨fun h => ⟨trivial, h⟩, fun h => h.2⟩
  | cons op ops ih => exact (and_congr_right (fun _ => ih)).trans and_assoc.symm

end Runs

end Nfvcl.Effects
