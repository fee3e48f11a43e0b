import Mathlib.Logic.Relation

namespace Nfvcl.Durable
set_option autoImplicit true

/-- A run of a process: the states it stores, one after another, and what it returns or raises. -/
structure Run (ε σ α : Type) where
  stored : List σ
  result : Except ε α

/-- A process whose state survives it. -/
def DurableM (ε σ α : Type) := σ → Run ε σ α

namespace DurableM

def pure (a : α) : DurableM ε σ α := fun _ => ⟨[], .ok a⟩

def bind (m : DurableM ε σ α) (f : α → DurableM ε σ β) : DurableM ε σ β := fun s =>
  match (m s).result with
  | .ok a =>
    let rest := f a ((m s).stored.getLastD s)
    ⟨(m s).stored ++ rest.stored, rest.result⟩
  | .error e => ⟨(m s).stored, .error e⟩

instance : Monad (DurableM ε σ) where
  pure := DurableM.pure
  bind := DurableM.bind

def read : DurableM ε σ σ := fun s => ⟨[], .ok s⟩

def raise (e : ε) : DurableM ε σ α := fun _ => ⟨[], .error e⟩

/-- One write, which is done or not. -/
def store (f : σ → σ) : DurableM ε σ Unit := fun s => ⟨[f s], .ok ()⟩

end DurableM

variable {ε σ τ α β : Type} {m : DurableM ε σ α} {f : α → DurableM ε σ β} {s s' t : σ}

/-- The process returns a value and leaves a state. -/
def Completes (m : DurableM ε σ α) (s : σ) (a : α) (t : σ) : Prop := (m s).result = .ok a ∧ (m s).stored.getLastD s = t

/-- The process is interrupted, raises or returns, and leaves a state. -/
def Leaves (m : DurableM ε σ α) (s t : σ) : Prop := t ∈ s :: (m s).stored

theorem Leaves.refl (m : DurableM ε σ α) (s : σ) : Leaves m s s := List.mem_cons_self

theorem Completes.leaves (h : Completes m s a t) : Leaves m s t := by
  rw [← h.2]
  exact List.getLastD_mem_cons

theorem Completes.unique (h : Completes m s a t) (h' : Completes m s b t') : a = b ∧ t = t' :=
  ⟨Except.ok.inj (h.1.symm.trans h'.1), h.2.symm.trans h'.2⟩

section Monad

theorem getLastD_append (xs ys : List σ) (s : σ) : (xs ++ ys).getLastD s = ys.getLastD (xs.getLastD s) := by
  induction xs generalizing s with
  | nil => rfl
  | cons x xs ih => rw [List.cons_append, List.getLastD_cons, List.getLastD_cons, ih]

theorem completes_bind : Completes (m >>= f) s b t ↔ ∃ a s', Completes m s a s' ∧ Completes (f a) s' b t := by
  change Completes (DurableM.bind m f) s b t ↔ _
  unfold Completes DurableM.bind
  cases hm : (m s).result with
  | ok a =>
    simp only [getLastD_append]
    constructor
    · rintro ⟨hb, ht⟩
      exact ⟨a, _, ⟨rfl, rfl⟩, hb, ht⟩
    · rintro ⟨a', s', ⟨ha, rfl⟩, hb, ht⟩
      cases ha
      exact ⟨hb, ht⟩
  | error e =>
    constructor
    · rintro ⟨hno, -⟩
      cases hno
    · rintro ⟨a', s', ⟨hno, -⟩, -⟩
      cases hno

theorem leaves_bind : Leaves (m >>= f) s t ↔ Leaves m s t ∨ ∃ a s', Completes m s a s' ∧ Leaves (f a) s' t := by
  have hlast : (m s).stored.getLastD s ∈ s :: (m s).stored := List.getLastD_mem_cons
  change Leaves (DurableM.bind m f) s t ↔ _
  unfold Leaves Completes DurableM.bind
  cases hm : (m s).result with
  | ok a =>
    simp only [← List.cons_append, List.mem_append]
    constructor
    · rintro (hfirst | hsecond)
      · exact .inl hfirst
      · exact .inr ⟨a, _, ⟨rfl, rfl⟩, List.mem_cons_of_mem _ hsecond⟩
    · rintro (hfirst | ⟨a', s', ⟨ha, rfl⟩, hsecond⟩)
      · exact .inl hfirst
      · cases ha
        rcases List.mem_cons.1 hsecond with rfl | hsecond
        · exact .inl hlast
        · exact .inr hsecond
  | error e =>
    refine ⟨.inl, ?_⟩
    rintro (hfirst | ⟨a', s', ⟨hno, -⟩, -⟩)
    · exact hfirst
    · cases hno

theorem pure_bind (a : α) (f : α → DurableM ε σ β) : (pure a >>= f) = f a := rfl

theorem store_bind (g : σ → σ) (f : Unit → DurableM ε σ β) (s : σ) :
    (DurableM.store g >>= f) s = ⟨g s :: (f () (g s)).stored, (f () (g s)).result⟩ := rfl

@[simp] theorem completes_pure : Completes (pure a : DurableM ε σ α) s b t ↔ a = b ∧ s = t :=
  ⟨fun h => ⟨Except.ok.inj h.1, h.2⟩, fun h => ⟨congrArg _ h.1, h.2⟩⟩

@[simp] theorem leaves_pure : Leaves (pure a : DurableM ε σ α) s t ↔ t = s := List.mem_singleton

@[simp] theorem completes_read : Completes (DurableM.read : DurableM ε σ σ) s a t ↔ s = a ∧ s = t :=
  ⟨fun h => ⟨Except.ok.inj h.1, h.2⟩, fun h => ⟨congrArg _ h.1, h.2⟩⟩

@[simp] theorem leaves_read : Leaves (DurableM.read : DurableM ε σ σ) s t ↔ t = s := List.mem_singleton

@[simp] theorem completes_store {g : σ → σ} {u : Unit} : Completes (DurableM.store g : DurableM ε σ Unit) s u t ↔ g s = t :=
  ⟨fun h => h.2, fun h => ⟨rfl, h⟩⟩

@[simp] theorem leaves_store {g : σ → σ} : Leaves (DurableM.store g : DurableM ε σ Unit) s t ↔ t = s ∨ t = g s := by
  unfold Leaves DurableM.store
  rw [List.mem_cons, List.mem_singleton]

end Monad

/-! ### A part of the state -/

section Parts

/-- A process on a part of the state. -/
def onPart (get : σ → τ) (put : τ → σ → σ) (m : DurableM ε τ α) : DurableM ε σ α := fun s =>
  ⟨(m (get s)).stored.map (fun x => put x s), (m (get s)).result⟩

variable {get : σ → τ} {put : τ → σ → σ} {p : DurableM ε τ α}

theorem getLastD_map (g : σ → τ) (xs : List σ) (s : σ) : (xs.map g).getLastD (g s) = g (xs.getLastD s) := by
  induction xs generalizing s with
  | nil => rfl
  | cons x xs ih => rw [List.map_cons, List.getLastD_cons, List.getLastD_cons, ih]

theorem completes_onPart (hput : ∀ s, put (get s) s = s) :
    Completes (onPart get put p) s a t ↔ ∃ x, Completes p (get s) a x ∧ t = put x s := by
  unfold Completes onPart
  have hlast : ((p (get s)).stored.map (fun x => put x s)).getLastD s = put ((p (get s)).stored.getLastD (get s)) s := by
    rw [← getLastD_map (fun x => put x s), hput]
  rw [hlast]
  constructor
  · rintro ⟨ha, rfl⟩
    exact ⟨_, ⟨ha, rfl⟩, rfl⟩
  · rintro ⟨x, ⟨ha, rfl⟩, rfl⟩
    exact ⟨ha, rfl⟩

theorem leaves_onPart {s t : σ} (hput : ∀ s, put (get s) s = s) :
    Leaves (onPart get put p) s t ↔ ∃ x, Leaves p (get s) x ∧ t = put x s := by
  unfold Leaves onPart
  rw [List.mem_cons, List.mem_map]
  constructor
  · rintro (hs | ⟨x, hx, rfl⟩)
    · exact ⟨get s, List.mem_cons_self, by rw [hs, hput]⟩
    · exact ⟨x, List.mem_cons_of_mem _ hx, rfl⟩
  · rintro ⟨x, hx, rfl⟩
    rcases List.mem_cons.1 hx with rfl | hx
    · exact .inl (hput s)
    · exact .inr ⟨x, hx, rfl⟩

end Parts

/-! ### Running it again -/

section Restarts

/-- From every state in which a run of the process may be interrupted, however often, it still leads to the
same state. -/
structure Restartable (m : DurableM ε σ Unit) (Pending : σ → Prop) (t : σ) : Prop where
  completes : ∀ s, Pending s → Completes m s () t
  leaves : ∀ s s', Pending s → Leaves m s s' → Pending s'

theorem Restartable.restarts {m : DurableM ε σ Unit} {Pending : σ → Prop} (h : Restartable m Pending t) (hs : Pending s)
    (hruns : Relation.ReflTransGen (Leaves m) s s') : Completes m s' () t := by
  refine h.completes s' ?_
  induction hruns with
  | refl => exact hs
  | tail _ hrun ih => exact h.leaves _ _ ih hrun

end Restarts

end Nfvcl.Durable
