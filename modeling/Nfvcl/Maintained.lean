import Nfvcl.Effects

namespace Nfvcl.Effects
set_option autoImplicit true

/-- A program keeps an invariant, whether it returns or raises. -/
def Maintains (I : σ → Prop) (m : EStateM ε σ α) : Prop :=
  ∀ s, I s → Meets m s (fun _ => I) (fun _ => I)

namespace Maintains

variable {I : σ → Prop} {m : EStateM ε σ α}

theorem finalState (h : Maintains I m) (hs : I s) : I (finalState (m.run s)) :=
  (h s hs).finalState

/-- What is kept whatever a program ends in. -/
theorem of_final (h : ∀ s, I s → I (Effects.finalState (m.run s))) : Maintains I m := by
  intro s hs
  have hfinal := h s hs
  unfold Meets
  cases hrun : EStateM.run m s with
  | ok a s' =>
    rw [hrun] at hfinal
    exact hfinal
  | error e s' =>
    rw [hrun] at hfinal
    exact hfinal

theorem of_ok (h : Maintains I m) (hrun : m.run s = .ok a s') (hs : I s) : I s' := by
  have hmeets := h s hs
  unfold Meets at hmeets
  rw [hrun] at hmeets
  exact hmeets

protected theorem pure (a : α) : Maintains I (pure a : EStateM ε σ α) :=
  fun _ hs => hs

protected theorem throw (e : ε) : Maintains I (throw e : EStateM ε σ α) :=
  fun _ hs => hs

protected theorem get : Maintains I (get : EStateM ε σ σ) :=
  fun _ hs => hs

/-- What is read of the state is known of it. -/
theorem get_bind {f : σ → EStateM ε σ α} (h : ∀ s, I s → Meets (f s) s (fun _ => I) (fun _ => I)) : Maintains I (get >>= f) :=
  fun s hs => h s hs

protected theorem modify {f : σ → σ} (h : ∀ s, I s → I (f s)) : Maintains I (modify f : EStateM ε σ PUnit) :=
  fun s hs => h s hs

protected theorem bind {f : α → EStateM ε σ β} (hm : Maintains I m) (hf : ∀ a, Maintains I (f a)) : Maintains I (m >>= f) :=
  fun s hs => Meets.bind (hm s hs) (fun a s' hs' => hf a s' hs')

/-- What a program returns may be used after it. -/
theorem bind_of {f : α → EStateM ε σ β} {P : α → Prop} (hm : ∀ s, I s → Meets m s (fun a s' => P a ∧ I s') (fun _ => I))
    (hf : ∀ a, P a → Maintains I (f a)) : Maintains I (m >>= f) :=
  fun s hs => Meets.bind (hm s hs) (fun a s' hs' => hf a hs'.1 s' hs'.2)

protected theorem ite {c : Prop} [Decidable c] {m' : EStateM ε σ α} (hm : Maintains I m) (hm' : Maintains I m') :
    Maintains I (if c then m else m') := by
  split
  · exact hm
  · exact hm'

protected theorem forM {f : α → EStateM ε σ PUnit} {xs : List α} (hf : ∀ a ∈ xs, Maintains I (f a)) : Maintains I (forM xs f) :=
  fun _ hs => Meets.forM xs hs (fun a ha s' hs' => hf a ha s' hs')

protected theorem mapM {f : α → EStateM ε σ β} {xs : List α} (hf : ∀ a ∈ xs, Maintains I (f a)) : Maintains I (xs.mapM f) := by
  induction xs with
  | nil => exact Maintains.pure _
  | cons x xs ih =>
    rw [List.mapM_cons]
    apply (hf x List.mem_cons_self).bind
    intro y
    apply (ih (fun a ha => hf a (List.mem_cons_of_mem x ha))).bind
    exact fun ys => Maintains.pure _

protected theorem foldlM {f : β → α → EStateM ε σ β} {xs : List α} (hf : ∀ b, ∀ a ∈ xs, Maintains I (f b a)) (b : β) :
    Maintains I (xs.foldlM f b) := by
  induction xs generalizing b with
  | nil => exact Maintains.pure _
  | cons x xs ih =>
    rw [List.foldlM_cons]
    exact (hf b x List.mem_cons_self).bind (fun b' => ih (fun b a ha => hf b a (List.mem_cons_of_mem x ha)) b')

protected theorem ofExcept (result : Except ε α) : Maintains I (ofExcept result : EStateM ε σ α) := by
  cases result with
  | ok a => exact Maintains.pure a
  | error e => exact Maintains.throw e

/-- A program on a component keeps what its invariant there has to do with the whole. -/
protected theorem zoom {J : τ → Prop} {m : EStateM ε τ α} {get : σ → τ} {put : τ → σ → σ} (hm : Maintains J m)
    (hget : ∀ s, I s → J (get s)) (hput : ∀ s t, I s → J t → I (put t s)) : Maintains I (zoom get put m) := by
  intro s hs
  rw [meets_zoom]
  apply (hm (get s) (hget s hs)).mono
  · exact fun _ t ht => hput s t hs ht
  · exact fun _ t ht => hput s t hs ht

/-- A program on a component, where what it keeps there depends on the rest of the state. -/
theorem zoom_of {m : EStateM ε τ α} {get : σ → τ} {put : τ → σ → σ}
    (h : ∀ s, I s → ∃ J : τ → Prop, Maintains J m ∧ J (get s) ∧ ∀ t, J t → I (put t s)) : Maintains I (zoom get put m) := by
  intro s hs
  obtain ⟨J, hm, hget, hput⟩ := h s hs
  rw [meets_zoom]
  exact (hm (get s) hget).mono (fun _ t ht => hput t ht) (fun _ t ht => hput t ht)

end Maintains

section Moments

variable {exec : Op → EStateM ε σ α} {C : Op → σ → Prop} {I P : σ → Prop}

/-- What holds at every moment of a run is decided by its steps, if a step that meets the condition
keeps the invariant and any other breaks the property. -/
theorem always_iff (hstep : ∀ op s, I s → (C op s → I (finalState ((exec op).run s))) ∧
      (¬ C op s → ¬ P (finalState ((exec op).run s)))) (hP : ∀ s, I s → P s) (hs : I s) (ops : List Op) :
    (∀ done rest, ops = done ++ rest → P (runAll exec s done)) ↔ AllSteps exec C s ops := by
  induction ops generalizing s with
  | nil =>
    refine iff_of_true ?_ trivial
    intro done rest hops
    rw [(List.append_eq_nil_iff.1 hops.symm).1]
    exact hP s hs
  | cons op ops ih =>
    obtain ⟨hkeeps, hbreaks⟩ := hstep op s hs
    constructor
    · intro halways
      have hop : C op s := Classical.byContradiction (fun hnot => hbreaks hnot (halways [op] ops rfl))
      refine ⟨hop, (ih (hkeeps hop)).1 ?_⟩
      intro done rest hops
      exact halways (op :: done) rest (by rw [hops]; rfl)
    · rintro ⟨hop, hops⟩
      have hrest := (ih (hkeeps hop)).2 hops
      intro done rest heq
      cases done with
      | nil => exact hP s hs
      | cons first done =>
        obtain ⟨rfl, htail⟩ := List.cons.inj heq
        exact hrest done rest htail

end Moments

end Nfvcl.Effects
