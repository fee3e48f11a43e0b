import Mathlib.Data.List.Basic
import Mathlib.Data.List.Forall2
import Nfvcl.Effects
import Nfvcl.KeyedList

namespace Nfvcl.Loops
set_option autoImplicit true
open Effects

section Nested

variable {m : Type → Type} [Monad m] [LawfulMonad m]

theorem forM_filter {p : α → Prop} [DecidablePred p] (f : α → m PUnit) (xs : List α) :
    forM xs (fun x => if p x then f x else pure ⟨⟩) = forM (xs.filter (fun x => decide (p x))) f := by
  induction xs with
  | nil => rfl
  | cons x xs ih =>
    rw [List.forM_cons, ih]
    by_cases hx : p x
    · rw [if_pos hx, List.filter_cons_of_pos (by simp [hx]), List.forM_cons]
    · rw [if_neg hx, List.filter_cons_of_neg (by simp [hx]), pure_bind]

theorem forM_flatMap {g : α → List β} (f : β → m PUnit) (xs : List α) :
    forM xs (fun x => forM (g x) f) = forM (xs.flatMap g) f := by
  induction xs with
  | nil => rfl
  | cons x xs ih => rw [List.forM_cons, ih, List.flatMap_cons, List.forM_append]

theorem foldlM_flatMap {g : α → List β} (f : γ → β → m γ) (xs : List α) (init : γ) :
    xs.foldlM (fun acc x => (g x).foldlM f acc) init = (xs.flatMap g).foldlM f init := by
  induction xs generalizing init with
  | nil => rfl
  | cons x xs ih =>
    rw [List.foldlM_cons, List.flatMap_cons, List.foldlM_append]
    exact bind_congr fun acc => ih acc

end Nested

theorem filter_unique [DecidableEq κ] {key : α → κ} {xs : List α} (h : KeyedList.Unique key xs) (ha : a ∈ xs) :
    xs.filter (fun x => decide (key a = key x)) = [a] := by
  induction xs with
  | nil => cases ha
  | cons x xs ih =>
    obtain ⟨hx, hrest⟩ := List.nodup_cons.1 h
    rcases List.mem_cons.1 ha with rfl | ha
    · rw [List.filter_cons_of_pos (by simp), List.filter_eq_nil_iff.2]
      intro y hy he
      exact hx (List.mem_map.2 ⟨y, hy, (of_decide_eq_true he).symm⟩)
    · have hne : key a ≠ key x := fun he => hx (List.mem_map.2 ⟨a, ha, he⟩)
      rw [List.filter_cons_of_neg (by simp [hne]), ih hrest ha]

section Embedded

variable (emb : δ → σ) {I : List α → δ → Prop} {P : α → Prop} {f : α → EStateM ε σ PUnit} {xs done : List α} {d : δ}

/-- A loop that stays among the states of a kind; the invariant knows what is done. -/
theorem forM_embedded (hok : ∀ done d, ∀ x ∈ xs, I done d → P x → ∃ d', (f x).run (emb d) = .ok () (emb d') ∧ I (done ++ [x]) d')
    (hd : I done d) (h : ∀ x ∈ xs, P x) : ∃ d', (forM xs f).run (emb d) = .ok () (emb d') ∧ I (done ++ xs) d' := by
  induction xs generalizing d done with
  | nil => exact ⟨d, rfl, (List.append_nil done).symm ▸ hd⟩
  | cons x xs ih =>
    obtain ⟨d₁, hrun, hd₁⟩ := hok done d x List.mem_cons_self hd (h x List.mem_cons_self)
    obtain ⟨d', hruns, hd'⟩ := ih (fun done d y hy => hok done d y (List.mem_cons_of_mem x hy)) hd₁
      (fun y hy => h y (List.mem_cons_of_mem x hy))
    refine ⟨d', ?_, ?_⟩
    · rw [List.forM_cons, run_bind_ok _ _ hrun, hruns]
    · rw [List.append_cons]
      exact hd'

theorem forM_embedded_raises
    (hok : ∀ done d, ∀ x ∈ xs, I done d → P x → ∃ d', (f x).run (emb d) = .ok () (emb d') ∧ I (done ++ [x]) d')
    (hbad : ∀ d, ∀ x ∈ xs, ¬ P x → ∃ e s, (f x).run (emb d) = .error e s) (hd : I done d) (h : ∃ x ∈ xs, ¬ P x) :
    ∃ e s, (forM xs f).run (emb d) = .error e s := by
  induction xs generalizing d done with
  | nil =>
    obtain ⟨x, hx, -⟩ := h
    cases hx
  | cons x xs ih =>
    rw [List.forM_cons]
    by_cases hx : P x
    · obtain ⟨d₁, hrun, hd₁⟩ := hok done d x List.mem_cons_self hd hx
      rw [run_bind_ok _ _ hrun]
      apply ih (fun done d y hy => hok done d y (List.mem_cons_of_mem x hy)) (fun d y hy => hbad d y (List.mem_cons_of_mem x hy)) hd₁
      obtain ⟨y, hy, hnot⟩ := h
      rcases List.mem_cons.1 hy with rfl | hy
      · exact absurd hx hnot
      · exact ⟨y, hy, hnot⟩
    · obtain ⟨e, s, herror⟩ := hbad d x List.mem_cons_self hx
      exact ⟨e, s, run_bind_error _ _ herror⟩

end Embedded

theorem flatMap_unless {p : α → Prop} [DecidablePred p] (g : α → List β) (xs : List α) :
    xs.flatMap (fun x => if p x then [] else g x) = (xs.filter (fun x => decide (¬ p x))).flatMap g := by
  induction xs with
  | nil => rfl
  | cons x xs ih =>
    by_cases hx : p x
    · rw [List.flatMap_cons, if_pos hx, List.filter_cons_of_neg (by simp [hx]), List.nil_append, ih]
    · rw [List.flatMap_cons, if_neg hx, List.filter_cons_of_pos (by simp [hx]), List.flatMap_cons, ih]

section Planned

/-- Each element has been made into what is planned for it. -/
def Planned (plan : α → Option β) : List α → List β → Prop :=
  List.Forall₂ (fun x b => plan x = some b)

variable {plan : α → Option β} {xs : List α} {bs : List β}

theorem mapM_eq_some_iff : xs.mapM plan = some bs ↔ Planned plan xs bs := by
  induction xs generalizing bs with
  | nil =>
    constructor
    · intro h
      cases h
      exact .nil
    · intro h
      cases h
      rfl
  | cons x xs ih =>
    rw [List.mapM_cons]
    constructor
    · intro h
      obtain ⟨b, hb, hrest⟩ := Option.bind_eq_some_iff.1 h
      obtain ⟨bs', hbs', hsame⟩ := Option.bind_eq_some_iff.1 hrest
      cases hsame
      exact .cons hb (ih.1 hbs')
    · intro h
      cases h with
      | cons hb hrest =>
        refine Option.bind_eq_some_iff.2 ⟨_, hb, Option.bind_eq_some_iff.2 ⟨_, ih.2 hrest, rfl⟩⟩

theorem Planned.map_eq {f : α → γ} {g : β → γ} (h : Planned plan xs bs) (heq : ∀ x ∈ xs, ∀ b, plan x = some b → f x = g b) :
    xs.map f = bs.map g := by
  induction h with
  | nil => rfl
  | cons hb _ ih =>
    rw [List.map_cons, List.map_cons, heq _ List.mem_cons_self _ hb, ih (fun x hx => heq x (List.mem_cons_of_mem _ hx))]

theorem Planned.flatMap_eq {f : α → List γ} {g : β → List γ} (h : Planned plan xs bs) (heq : ∀ x ∈ xs, ∀ b, plan x = some b → f x = g b) :
    xs.flatMap f = bs.flatMap g := by
  rw [List.flatMap_def, List.flatMap_def, h.map_eq heq]

theorem Planned.filter {p : α → Bool} {q : β → Bool} (h : Planned plan xs bs) (heq : ∀ x ∈ xs, ∀ b, plan x = some b → p x = q b) :
    Planned plan (xs.filter p) (bs.filter q) := by
  induction h with
  | nil => exact .nil
  | @cons x b xs bs hb _ ih =>
    have htest := heq _ List.mem_cons_self _ hb
    have hrest := ih fun y hy => heq y (List.mem_cons_of_mem _ hy)
    by_cases hx : p x = true
    · rw [List.filter_cons_of_pos hx, List.filter_cons_of_pos (htest ▸ hx)]
      exact .cons hb hrest
    · rw [List.filter_cons_of_neg hx, List.filter_cons_of_neg (htest ▸ hx)]
      exact hrest

theorem Planned.congr {plan' : α → Option β} (h : Planned plan xs bs) (heq : ∀ x ∈ xs, plan x = plan' x) : Planned plan' xs bs := by
  induction h with
  | nil => exact .nil
  | cons hb _ ih => exact .cons ((heq _ List.mem_cons_self).symm.trans hb) (ih fun x hx => heq x (List.mem_cons_of_mem _ hx))

theorem Planned.exists_of_mem (h : Planned plan xs bs) (hx : x ∈ xs) : ∃ b ∈ bs, plan x = some b := by
  induction h with
  | nil => cases hx
  | cons hb _ ih =>
    rcases List.mem_cons.1 hx with rfl | hx
    · exact ⟨_, List.mem_cons_self, hb⟩
    · obtain ⟨b, hmem, hplan⟩ := ih hx
      exact ⟨b, List.mem_cons_of_mem _ hmem, hplan⟩

theorem Planned.exists_of_mem_right (h : Planned plan xs bs) (hb : b ∈ bs) : ∃ x ∈ xs, plan x = some b := by
  induction h with
  | nil => cases hb
  | cons hplan _ ih =>
    rcases List.mem_cons.1 hb with rfl | hb
    · exact ⟨_, List.mem_cons_self, hplan⟩
    · obtain ⟨x, hmem, hx⟩ := ih hb
      exact ⟨x, List.mem_cons_of_mem _ hmem, hx⟩

theorem exists_planned (h : ∀ x ∈ xs, ∃ b, plan x = some b) : ∃ bs, Planned plan xs bs := by
  induction xs with
  | nil => exact ⟨[], .nil⟩
  | cons x xs ih =>
    obtain ⟨b, hb⟩ := h x List.mem_cons_self
    obtain ⟨bs, hbs⟩ := ih fun y hy => h y (List.mem_cons_of_mem x hy)
    exact ⟨b :: bs, .cons hb hbs⟩

/-- What is planned for a list starts with what is planned for its first part. -/
theorem Planned.split (h : Planned plan xs bs) (hall : Planned plan (xs ++ x :: rest) bs') :
    ∃ b bs'', plan x = some b ∧ bs' = bs ++ b :: bs'' := by
  induction h generalizing bs' with
  | nil =>
    cases hall with
    | cons hb _ => exact ⟨_, _, hb, rfl⟩
  | cons hb _ ih =>
    cases hall with
    | cons hb' hrest =>
      obtain ⟨b, bs'', hx, rfl⟩ := ih hrest
      cases hb.symm.trans hb'
      exact ⟨b, bs'', hx, rfl⟩

variable {I : List β → σ → Prop} {Fits : List β → Prop} {f : α → EStateM ε σ PUnit} {s : σ}

/-- A loop that does what is planned, one element after the other: it goes through if there is a plan for
each of them and the plans fit together. -/
theorem meets_forM_planned (hfits : ∀ bs bs', Fits (bs ++ bs') → Fits bs)
    (hstep : ∀ done x rest bs s, xs = done ++ x :: rest → Planned plan done bs → I bs s →
      Meets (f x) s (fun _ s' => ∃ b, plan x = some b ∧ I (bs ++ [b]) s') (fun _ _ => ∀ b, plan x = some b → ¬ Fits (bs ++ [b])))
    (h : I [] s) : Meets (forM xs f) s (fun _ s' => ∃ bs, Planned plan xs bs ∧ I bs s') (fun _ _ => ∀ bs, Planned plan xs bs → ¬ Fits bs) := by
  have hrest : ∀ rest done bs s, xs = done ++ rest → Planned plan done bs → I bs s →
      Meets (forM rest f) s (fun _ s' => ∃ bs, Planned plan xs bs ∧ I bs s') (fun _ _ => ∀ bs, Planned plan xs bs → ¬ Fits bs) := by
    intro rest
    induction rest with
    | nil =>
      intro done bs s hxs hbs hs
      rw [List.append_nil] at hxs
      subst hxs
      exact ⟨bs, hbs, hs⟩
    | cons x rest ih =>
      intro done bs s hxs hbs hs
      rw [List.forM_cons, meets_bind]
      apply (hstep done x rest bs s hxs hbs hs).mono
      · rintro _ s' ⟨b, hb, hs'⟩
        refine ih (done ++ [x]) (bs ++ [b]) s' (by rw [hxs, List.append_assoc]; rfl) ?_ hs'
        exact List.rel_append hbs (.cons hb .nil)
      · intro _ _ hbad bs' hbs' hall
        subst hxs
        obtain ⟨b, bs'', hb, rfl⟩ := hbs.split hbs'
        refine hbad b hb (hfits _ bs'' ?_)
        rw [List.append_assoc]
        exact hall
  exact hrest xs [] [] s rfl .nil h

end Planned

end Nfvcl.Loops
