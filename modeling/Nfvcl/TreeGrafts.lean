import Nfvcl.KeyedTrees

namespace Nfvcl.KeyedTrees
set_option autoImplicit true

deriving instance DecidableEq for Tree, Forest

section Grafting

variable {κ τ σ ρ : Type}

mutual

/-- A node whose label stands for a tree is that tree, the others are relabelled. -/
def Tree.graft (sub : τ → Option (Tree κ σ)) (relabel : τ → σ) : Tree κ τ → Tree κ σ
  | .node l f => (sub l).getD (.node (relabel l) (f.graft sub relabel))

def Forest.graft (sub : τ → Option (Tree κ σ)) (relabel : τ → σ) : Forest κ τ → Forest κ σ
  | .nil => .nil
  | .cons k t rest => .cons k (t.graft sub relabel) (rest.graft sub relabel)

end

mutual

/-- The property holds of every label. -/
def Tree.All (P : τ → Prop) : Tree κ τ → Prop
  | .node l f => P l ∧ f.All P

def Forest.All (P : τ → Prop) : Forest κ τ → Prop
  | .nil => True
  | .cons _ t rest => t.All P ∧ rest.All P

end

mutual

/-- Nodes with the label of a leaf have no children. -/
def Tree.Leafy (leaf : τ → Bool) : Tree κ τ → Prop
  | .node l f => (leaf l = true → f = .nil) ∧ f.Leafy leaf

def Forest.Leafy (leaf : τ → Bool) : Forest κ τ → Prop
  | .nil => True
  | .cons _ t rest => t.Leafy leaf ∧ rest.Leafy leaf

end

theorem Tree.graft_some {sub : τ → Option (Tree κ σ)} {relabel : τ → σ} (h : sub l = some t) :
    (Tree.node l f).graft sub relabel = t := by
  rw [Tree.graft, h]
  rfl

theorem Tree.graft_none {sub : τ → Option (Tree κ σ)} {relabel : τ → σ} (h : sub l = none) :
    (Tree.node l f).graft sub relabel = .node (relabel l) (f.graft sub relabel) := by
  rw [Tree.graft, h]
  rfl

section Labels

variable {P Q : τ → Prop}

mutual

theorem Tree.All.mono (h : ∀ l, P l → Q l) (t : Tree κ τ) (hP : t.All P) : t.All Q := by
  cases t with
  | node l f => exact ⟨h l hP.1, Forest.All.mono h f hP.2⟩

theorem Forest.All.mono (h : ∀ l, P l → Q l) (f : Forest κ τ) (hP : f.All P) : f.All Q := by
  cases f with
  | nil => trivial
  | cons k t rest => exact ⟨Tree.All.mono h t hP.1, Forest.All.mono h rest hP.2⟩

end

mutual

theorem Tree.All.and (t : Tree κ τ) (hP : t.All P) (hQ : t.All Q) : t.All (fun l => P l ∧ Q l) := by
  cases t with
  | node l f => exact ⟨⟨hP.1, hQ.1⟩, Forest.All.and f hP.2 hQ.2⟩

theorem Forest.All.and (f : Forest κ τ) (hP : f.All P) (hQ : f.All Q) : f.All (fun l => P l ∧ Q l) := by
  cases f with
  | nil => trivial
  | cons k t rest => exact ⟨Tree.All.and t hP.1 hQ.1, Forest.All.and rest hP.2 hQ.2⟩

end

mutual

theorem Tree.All.found {wanted enter : τ → Bool} (t : Tree κ τ) (h : t.All P) (hr : r ∈ t.found wanted enter) : P r.label := by
  cases t with
  | node l f =>
    rw [Tree.found, List.mem_append] at hr
    rcases hr with hr | hr
    · split at hr
      · rw [List.mem_singleton.1 hr]
        exact h.1
      · cases hr
    · split at hr
      · exact Forest.All.found f h.2 hr
      · cases hr

theorem Forest.All.found {wanted enter : τ → Bool} (f : Forest κ τ) (h : f.All P) (hr : r ∈ f.found wanted enter) : P r.label := by
  cases f with
  | nil => cases hr
  | cons k t rest =>
    rcases List.mem_append.1 hr with hr | hr
    · exact Tree.All.found t h.1 hr
    · exact Forest.All.found rest h.2 hr

end

end Labels

mutual

theorem Tree.map_self (t : Tree κ τ) : t.map (fun l => l) = t := by
  cases t with
  | node l f => rw [Tree.map, Forest.map_self f]

theorem Forest.map_self (f : Forest κ τ) : f.map (fun l => l) = f := by
  cases f with
  | nil => rfl
  | cons k t rest => rw [Forest.map, Tree.map_self t, Forest.map_self rest]

end

mutual

theorem Tree.all_graft {sub : τ → Option (Tree κ σ)} {relabel : τ → σ} {R : σ → Prop} (t : Tree κ τ)
    (h : t.All (fun l => (∀ s, sub l = some s → s.All R) ∧ R (relabel l))) : (t.graft sub relabel).All R := by
  cases t with
  | node l f =>
    cases hsub : sub l with
    | some s =>
      rw [Tree.graft_some hsub]
      exact h.1.1 s hsub
    | none =>
      rw [Tree.graft_none hsub]
      exact ⟨h.1.2, Forest.all_graft f h.2⟩

theorem Forest.all_graft {sub : τ → Option (Tree κ σ)} {relabel : τ → σ} {R : σ → Prop} (f : Forest κ τ)
    (h : f.All (fun l => (∀ s, sub l = some s → s.All R) ∧ R (relabel l))) : (f.graft sub relabel).All R := by
  cases f with
  | nil => trivial
  | cons k t rest => exact ⟨Tree.all_graft t h.1, Forest.all_graft rest h.2⟩

end

mutual

theorem Tree.all_of_forall {P : τ → Prop} (h : ∀ l, P l) (t : Tree κ τ) : t.All P := by
  cases t with
  | node l f => exact ⟨h l, Forest.all_of_forall h f⟩

theorem Forest.all_of_forall {P : τ → Prop} (h : ∀ l, P l) (f : Forest κ τ) : f.All P := by
  cases f with
  | nil => trivial
  | cons k t rest => exact ⟨Tree.all_of_forall h t, Forest.all_of_forall h rest⟩

end

section Composition

variable {sub : τ → Option (Tree κ σ)} {relabel : τ → σ}

mutual

theorem Tree.graft_map (g : σ → σ) (t : Tree κ τ) :
    (t.graft sub relabel).map g = t.graft (fun l => (sub l).map (Tree.map g)) (fun l => g (relabel l)) := by
  cases t with
  | node l f =>
    cases hsub : sub l with
    | none =>
      rw [Tree.graft_none hsub, Tree.map, Forest.graft_map g f, Tree.graft_none]
      rw [hsub]
      rfl
    | some s =>
      rw [Tree.graft_some hsub, Tree.graft_some]
      rw [hsub]
      rfl

theorem Forest.graft_map (g : σ → σ) (f : Forest κ τ) :
    (f.graft sub relabel).map g = f.graft (fun l => (sub l).map (Tree.map g)) (fun l => g (relabel l)) := by
  cases f with
  | nil => rfl
  | cons k t rest => rw [Forest.graft, Forest.map, Tree.graft_map g t, Forest.graft_map g rest, Forest.graft]

end

mutual

theorem Tree.graft_graft {sub' : σ → Option (Tree κ ρ)} {relabel' : σ → ρ} (t : Tree κ τ)
    (h : t.All (fun l => sub l = none → sub' (relabel l) = none)) :
    (t.graft sub relabel).graft sub' relabel' =
      t.graft (fun l => (sub l).map (Tree.graft sub' relabel')) (fun l => relabel' (relabel l)) := by
  cases t with
  | node l f =>
    cases hsub : sub l with
    | none =>
      rw [Tree.graft_none hsub, Tree.graft_none (h.1 hsub), Forest.graft_graft f h.2, Tree.graft_none]
      rw [hsub]
      rfl
    | some s =>
      rw [Tree.graft_some hsub, Tree.graft_some]
      rw [hsub]
      rfl

theorem Forest.graft_graft {sub' : σ → Option (Tree κ ρ)} {relabel' : σ → ρ} (f : Forest κ τ)
    (h : f.All (fun l => sub l = none → sub' (relabel l) = none)) :
    (f.graft sub relabel).graft sub' relabel' =
      f.graft (fun l => (sub l).map (Tree.graft sub' relabel')) (fun l => relabel' (relabel l)) := by
  cases f with
  | nil => rfl
  | cons k t rest =>
    rw [Forest.graft, Forest.graft, Tree.graft_graft t h.1, Forest.graft_graft rest h.2, Forest.graft]

end

mutual

/-- Of a leaf only what becomes of it counts. -/
theorem Tree.graft_congr {sub' : τ → Option (Tree κ σ)} {relabel' : τ → σ} {leaf : τ → Bool} (t : Tree κ τ) (hleafy : t.Leafy leaf)
    (h : t.All (fun l => (sub l = none ∧ sub' l = none ∧ relabel l = relabel' l) ∨
      (leaf l = true ∧ (sub l).getD (.node (relabel l) .nil) = (sub' l).getD (.node (relabel' l) .nil)))) :
    t.graft sub relabel = t.graft sub' relabel' := by
  cases t with
  | node l f =>
    rcases h.1 with ⟨hsub, hsub', hl⟩ | ⟨hleaf, heq⟩
    · rw [Tree.graft_none hsub, Tree.graft_none hsub', hl, Forest.graft_congr f hleafy.2 h.2]
    · rw [hleafy.1 hleaf]
      exact heq

theorem Forest.graft_congr {sub' : τ → Option (Tree κ σ)} {relabel' : τ → σ} {leaf : τ → Bool} (f : Forest κ τ) (hleafy : f.Leafy leaf)
    (h : f.All (fun l => (sub l = none ∧ sub' l = none ∧ relabel l = relabel' l) ∨
      (leaf l = true ∧ (sub l).getD (.node (relabel l) .nil) = (sub' l).getD (.node (relabel' l) .nil)))) :
    f.graft sub relabel = f.graft sub' relabel' := by
  cases f with
  | nil => rfl
  | cons k t rest => rw [Forest.graft, Forest.graft, Tree.graft_congr t hleafy.1 h.1, Forest.graft_congr rest hleafy.2 h.2]

end

mutual

theorem Tree.map_eq_graft (g : τ → τ) (t : Tree κ τ) : t.map g = t.graft (fun _ => none) g := by
  cases t with
  | node l f => rw [Tree.map, Tree.graft_none rfl, Forest.map_eq_graft g f]

theorem Forest.map_eq_graft (g : τ → τ) (f : Forest κ τ) : f.map g = f.graft (fun _ => none) g := by
  cases f with
  | nil => rfl
  | cons k t rest => rw [Forest.map, Forest.graft, Tree.map_eq_graft g t, Forest.map_eq_graft g rest]

end

mutual

/-- When the grafted trees are what is replaced, and the walk enters the rest, they alone are marked. -/
theorem Tree.replaced_graft {wanted enter : σ → Bool} {dump : σ → σ} {mark : Tree κ σ → Tree κ σ} {leaf : τ → Bool} (t : Tree κ τ)
    (hleafy : t.Leafy leaf)
    (h : t.All (fun l => (∀ s, sub l = some s → wanted s.label = true) ∧
      (sub l = none → wanted (relabel l) = false ∧ (enter (relabel l) = true ∨ leaf l = true)))) :
    (t.graft sub relabel).replaced wanted enter dump mark =
      t.graft (fun l => (sub l).map mark) (fun l => dump (relabel l)) := by
  cases t with
  | node l f =>
    cases hsub : sub l with
    | some s =>
      rw [Tree.graft_some hsub, Tree.graft_some (t := mark s) (by rw [hsub]; rfl)]
      cases s with
      | node m g => rw [Tree.replaced, if_pos (show wanted m = true from h.1.1 _ hsub)]
    | none =>
      obtain ⟨hwanted, henter⟩ := h.1.2 hsub
      rw [Tree.graft_none hsub, Tree.graft_none (by rw [hsub]; rfl), Tree.replaced, if_neg (by rw [hwanted]; exact Bool.false_ne_true)]
      rcases henter with henter | hl
      · rw [if_pos henter, Forest.replaced_graft f hleafy.2 h.2]
      · rw [hleafy.1 hl]
        simp only [Forest.graft, Forest.replaced, Forest.map, ite_self]

theorem Forest.replaced_graft {wanted enter : σ → Bool} {dump : σ → σ} {mark : Tree κ σ → Tree κ σ} {leaf : τ → Bool} (f : Forest κ τ)
    (hleafy : f.Leafy leaf)
    (h : f.All (fun l => (∀ s, sub l = some s → wanted s.label = true) ∧
      (sub l = none → wanted (relabel l) = false ∧ (enter (relabel l) = true ∨ leaf l = true)))) :
    (f.graft sub relabel).replaced wanted enter dump mark =
      f.graft (fun l => (sub l).map mark) (fun l => dump (relabel l)) := by
  cases f with
  | nil => rfl
  | cons k t rest =>
    rw [Forest.graft, Forest.replaced, Tree.replaced_graft t hleafy.1 h.1, Forest.replaced_graft rest hleafy.2 h.2, Forest.graft]

end

mutual

/-- What is found in a grafted tree is found in a tree that was put in, or was there before. -/
theorem Tree.mem_found_graft {wanted enter : σ → Bool} {R : Tree κ σ → Prop} (t : Tree κ τ)
    (h : t.All (fun l => (∀ s, sub l = some s → ∀ r ∈ s.found wanted enter, R r) ∧ (sub l = none → wanted (relabel l) = false)))
    (hr : r ∈ (t.graft sub relabel).found wanted enter) : R r := by
  cases t with
  | node l f =>
    cases hsub : sub l with
    | some s =>
      rw [Tree.graft_some hsub] at hr
      exact h.1.1 s hsub r hr
    | none =>
      rw [Tree.graft_none hsub, Tree.found, List.mem_append] at hr
      rcases hr with hr | hr
      · rw [if_neg (by rw [h.1.2 hsub]; exact Bool.false_ne_true)] at hr
        cases hr
      · split at hr
        · exact Forest.mem_found_graft f h.2 hr
        · cases hr

theorem Forest.mem_found_graft {wanted enter : σ → Bool} {R : Tree κ σ → Prop} (f : Forest κ τ)
    (h : f.All (fun l => (∀ s, sub l = some s → ∀ r ∈ s.found wanted enter, R r) ∧ (sub l = none → wanted (relabel l) = false)))
    (hr : r ∈ (f.graft sub relabel).found wanted enter) : R r := by
  cases f with
  | nil => cases hr
  | cons k t rest =>
    rcases List.mem_append.1 hr with hr | hr
    · exact Tree.mem_found_graft t h.1 hr
    · exact Forest.mem_found_graft rest h.2 hr

end

end Composition

section Paths

variable [DecidableEq κ] {sub : τ → Option (Tree κ σ)} {relabel : τ → σ} {P : τ → Prop}

theorem Forest.get_graft (f : Forest κ τ) (k : κ) :
    (f.graft sub relabel).get k = (f.get k).map (Tree.graft sub relabel) := by
  cases f with
  | nil => rfl
  | cons key t rest =>
    rw [Forest.graft, Forest.get, Forest.get]
    by_cases hk : key = k
    · rw [if_pos hk, if_pos hk]
      rfl
    · rw [if_neg hk, if_neg hk]
      exact Forest.get_graft rest k

theorem Forest.get_map (f : Forest κ τ) (g : τ → τ) (k : κ) : (f.map g).get k = (f.get k).map (Tree.map g) := by
  cases f with
  | nil => rfl
  | cons key t rest =>
    rw [Forest.map, Forest.get, Forest.get]
    by_cases hk : key = k
    · rw [if_pos hk, if_pos hk]
      rfl
    · rw [if_neg hk, if_neg hk]
      exact Forest.get_map rest g k

theorem Forest.get_modify (f : Forest κ τ) (k k' : κ) (g : Tree κ τ → Tree κ τ) :
    (f.modify k g).get k' = if k' = k then (f.get k).map g else f.get k' := by
  cases f with
  | nil => rw [Forest.modify, Forest.get, Forest.get, Option.map_none, ite_self]
  | cons key t rest =>
    rw [Forest.modify]
    by_cases hk : key = k
    · subst hk
      rw [if_pos rfl, Forest.get, Forest.get, Forest.get, if_pos rfl]
      by_cases hk' : key = k'
      · rw [if_pos hk', if_pos hk'.symm]
        rfl
      · rw [if_neg hk', if_neg hk', if_neg (Ne.symm hk')]
    · rw [if_neg hk, Forest.get, Forest.get, Forest.get, if_neg hk, Forest.get_modify rest k k' g]
      by_cases hk' : key = k'
      · subst hk'
        rw [if_pos rfl, if_pos rfl, if_neg hk]
      · rw [if_neg hk', if_neg hk']

/-- To put what is there changes nothing. -/
theorem Forest.modify_self (f : Forest κ τ) (hget : f.get k = some t) : f.modify k (fun _ => t) = f := by
  cases f with
  | nil => rfl
  | cons key t' rest =>
    rw [Forest.get] at hget
    rw [Forest.modify]
    by_cases hk : key = k
    · rw [if_pos hk] at hget ⊢
      cases hget
      rfl
    · rw [if_neg hk] at hget ⊢
      rw [Forest.modify_self rest hget]

theorem Forest.All.get (f : Forest κ τ) (h : f.All P) (hget : f.get k = some c) : c.All P := by
  cases f with
  | nil => cases hget
  | cons key t rest =>
    rw [Forest.get] at hget
    by_cases hk : key = k
    · rw [if_pos hk] at hget
      cases hget
      exact h.1
    · rw [if_neg hk] at hget
      exact Forest.All.get rest h.2 hget

theorem Forest.Leafy.get {leaf : τ → Bool} (f : Forest κ τ) (h : f.Leafy leaf) (hget : f.get k = some c) : c.Leafy leaf := by
  cases f with
  | nil => cases hget
  | cons key t rest =>
    rw [Forest.get] at hget
    by_cases hk : key = k
    · rw [if_pos hk] at hget
      cases hget
      exact h.1
    · rw [if_neg hk] at hget
      exact Forest.Leafy.get rest h.2 hget

omit [DecidableEq κ] in
theorem Forest.all_ofList {entries : List (κ × Tree κ τ)} (h : ∀ e ∈ entries, e.2.All P) : (Forest.ofList entries).All P := by
  induction entries with
  | nil => trivial
  | cons e entries ih => exact ⟨h e List.mem_cons_self, ih (fun e' he' => h e' (List.mem_cons_of_mem e he'))⟩

theorem Forest.All.modify (f : Forest κ τ) {g : Tree κ τ → Tree κ τ} (h : f.All P) (hg : ∀ c, c.All P → (g c).All P) : (f.modify k g).All P := by
  cases f with
  | nil => trivial
  | cons key t rest =>
    rw [Forest.modify]
    split
    · exact ⟨hg t h.1, h.2⟩
    · exact ⟨h.1, Forest.All.modify rest h.2 hg⟩

theorem Tree.All.setAt {t v : Tree κ τ} (h : t.All P) (hv : v.All P) (p : List κ) : (t.setAt p v).All P := by
  induction p generalizing t with
  | nil =>
    cases t with
    | node l f => exact hv
  | cons k p ih =>
    cases t with
    | node l f => exact ⟨h.1, Forest.All.modify f h.2 (fun c hc => ih hc)⟩

mutual

/-- A property of the labels on all paths is one of all labels. -/
theorem Tree.all_of_getAt (t : Tree κ τ) (ht : t.Distinct) (h : ∀ p r, t.getAt p = some r → P r.label) : t.All P := by
  cases t with
  | node l f =>
    refine ⟨h [] _ rfl, Forest.all_of_getAt f ht ?_⟩
    intro k c hc p r hr
    refine h (k :: p) r ?_
    rw [Tree.getAt, hc]
    exact hr

theorem Forest.all_of_getAt (f : Forest κ τ) (hf : f.Distinct)
    (h : ∀ k c, f.get k = some c → ∀ p r, c.getAt p = some r → P r.label) : f.All P := by
  cases f with
  | nil => trivial
  | cons k t rest =>
    obtain ⟨hkey, ht, hrest⟩ := hf
    refine ⟨Tree.all_of_getAt t ht (h k t (by rw [Forest.get, if_pos rfl])), Forest.all_of_getAt rest hrest ?_⟩
    intro k' c hc
    refine h k' c ?_
    have hne : k ≠ k' := by
      rintro rfl
      rw [hkey] at hc
      cases hc
    rw [Forest.get, if_neg hne]
    exact hc

end

mutual

theorem Tree.graft_distinct (t : Tree κ τ) (ht : t.Distinct) (h : t.All (fun l => ∀ s, sub l = some s → s.Distinct)) :
    (t.graft sub relabel).Distinct := by
  cases t with
  | node l f =>
    cases hsub : sub l with
    | some s =>
      rw [Tree.graft_some hsub]
      exact h.1 s hsub
    | none =>
      rw [Tree.graft_none hsub]
      exact Forest.graft_distinct f ht h.2

theorem Forest.graft_distinct (f : Forest κ τ) (hf : f.Distinct) (h : f.All (fun l => ∀ s, sub l = some s → s.Distinct)) :
    (f.graft sub relabel).Distinct := by
  cases f with
  | nil => trivial
  | cons k t rest =>
    refine ⟨?_, Tree.graft_distinct t hf.2.1 h.1, Forest.graft_distinct rest hf.2.2 h.2⟩
    rw [Forest.get_graft, hf.1]
    rfl

end

/-- The way to a node is the same after grafting when only leaves are grafted. -/
theorem Tree.getAt_graft {leaf : τ → Bool} {t : Tree κ τ} (hleafy : t.Leafy leaf) (h : t.All (fun l => leaf l = true ∨ sub l = none))
    (hget : t.getAt p = some r) : (t.graft sub relabel).getAt p = some (r.graft sub relabel) := by
  induction p generalizing t with
  | nil =>
    cases hget
    rfl
  | cons k p ih =>
    cases t with
    | node l f =>
      obtain ⟨c, hc, hget⟩ := Option.bind_eq_some_iff.1 hget
      have hsub : sub l = none := by
        rcases h.1 with hl | hsub
        · rw [hleafy.1 hl] at hc
          cases hc
        · exact hsub
      rw [Tree.graft_none hsub, Tree.getAt, Forest.get_graft, hc]
      exact ih (Forest.Leafy.get f hleafy.2 hc) (Forest.All.get f h.2 hc) hget

end Paths

end Grafting

end Nfvcl.KeyedTrees
