import Mathlib.Data.List.Basic
import Mathlib.Data.List.Nodup
import Mathlib.Data.List.Infix
import Nfvcl.Effects

namespace Nfvcl.KeyedTrees
set_option autoImplicit true

mutual

/-- A tree whose children are told apart by keys. -/
inductive Tree (κ τ : Type) where
  | node (label : τ) (children : Forest κ τ)

inductive Forest (κ τ : Type) where
  | nil
  | cons (key : κ) (tree : Tree κ τ) (rest : Forest κ τ)

end

section Keys

variable {κ τ : Type}

def Tree.label : Tree κ τ → τ
  | .node l _ => l

mutual

def Tree.map (relabel : τ → τ) : Tree κ τ → Tree κ τ
  | .node l f => .node (relabel l) (f.map relabel)

def Forest.map (relabel : τ → τ) : Forest κ τ → Forest κ τ
  | .nil => .nil
  | .cons k t rest => .cons k (t.map relabel) (rest.map relabel)

end

section Walk

variable (wanted enter : τ → Bool)

mutual

/-- The paths of the wanted nodes that a walk into the nodes it enters comes to. -/
def Tree.occurrences : Tree κ τ → List (List κ)
  | .node l f => (if wanted l then [[]] else []) ++ if enter l then f.occurrences else []

def Forest.occurrences : Forest κ τ → List (List κ)
  | .nil => []
  | .cons k t rest => t.occurrences.map (List.cons k) ++ rest.occurrences

end

mutual

/-- The wanted nodes that the walk comes to. -/
def Tree.found : Tree κ τ → List (Tree κ τ)
  | .node l f => (if wanted l then [.node l f] else []) ++ if enter l then f.found else []

def Forest.found : Forest κ τ → List (Tree κ τ)
  | .nil => []
  | .cons _ t rest => t.found ++ rest.found

end

mutual

/-- How many wanted nodes the walk comes to that are in no other. -/
def Tree.outermost : Tree κ τ → Nat
  | .node l f => if wanted l then 1 else if enter l then f.outermost else 0

def Forest.outermost : Forest κ τ → Nat
  | .nil => 0
  | .cons _ t rest => t.outermost + rest.outermost

end

mutual

/-- No wanted node is left to the nodes that are not entered, those in another wanted node apart. -/
def Tree.Open : Tree κ τ → Prop
  | .node l f => wanted l = true ∨ if enter l then f.Open else f.found wanted (fun _ => true) = []

def Forest.Open : Forest κ τ → Prop
  | .nil => True
  | .cons _ t rest => t.Open ∧ rest.Open

end

mutual

/-- No wanted node is in another one or in a node that is not entered. -/
def Tree.Flat : Tree κ τ → Prop
  | .node l f =>
    if wanted l then f.found wanted (fun _ => true) = []
    else if enter l then f.Flat else f.found wanted (fun _ => true) = []

def Forest.Flat : Forest κ τ → Prop
  | .nil => True
  | .cons _ t rest => t.Flat ∧ rest.Flat

end

variable (relabel : τ → τ) (mark : Tree κ τ → Tree κ τ)

mutual

/-- Every node is relabelled; the outermost wanted nodes of the walk are marked instead. -/
def Tree.replaced : Tree κ τ → Tree κ τ
  | .node l f =>
    if wanted l then mark (.node l f)
    else .node (relabel l) (if enter l then f.replaced else f.map relabel)

def Forest.replaced : Forest κ τ → Forest κ τ
  | .nil => .nil
  | .cons k t rest => .cons k t.replaced rest.replaced

end

mutual

/-- Every node is relabelled; the nodes at the paths that are done are marked instead. -/
def Tree.render (done : List κ → Bool) : Tree κ τ → Tree κ τ
  | .node l f => if done [] then mark (.node l f) else .node (relabel l) (f.render done)

def Forest.render (done : List κ → Bool) : Forest κ τ → Forest κ τ
  | .nil => .nil
  | .cons k t rest => .cons k (t.render (fun p => done (k :: p))) (rest.render done)

end

end Walk

mutual

theorem Tree.render_none {relabel : τ → τ} {mark : Tree κ τ → Tree κ τ} (t : Tree κ τ) : t.render relabel mark (fun _ => false) = t.map relabel := by
  cases t with
  | node l f => rw [Tree.render, if_neg Bool.false_ne_true, Tree.map, Forest.render_none f]

theorem Forest.render_none {relabel : τ → τ} {mark : Tree κ τ → Tree κ τ} (f : Forest κ τ) : f.render relabel mark (fun _ => false) = f.map relabel := by
  cases f with
  | nil => rfl
  | cons key t rest => rw [Forest.render, Forest.map, Tree.render_none t, Forest.render_none rest]

end

section Counting

variable {wanted wanted' enter : τ → Bool}

mutual

theorem Tree.found_mono {t : Tree κ τ} (hw : ∀ l, wanted l = true → wanted' l = true) (h : r ∈ t.found wanted enter) :
    r ∈ t.found wanted' (fun _ => true) := by
  cases t with
  | node l f =>
    rw [Tree.found, List.mem_append] at h ⊢
    rcases h with h | h
    · split at h
      · rename_i hl
        rw [if_pos (hw l hl)]
        exact .inl h
      · cases h
    · split at h
      · exact .inr (Forest.found_mono hw h)
      · cases h

theorem Forest.found_mono {f : Forest κ τ} (hw : ∀ l, wanted l = true → wanted' l = true) (h : r ∈ f.found wanted enter) :
    r ∈ f.found wanted' (fun _ => true) := by
  cases f with
  | nil => cases h
  | cons key t rest =>
    rw [Forest.found, List.mem_append] at h ⊢
    exact h.imp (Tree.found_mono hw) (Forest.found_mono hw)

end

mutual

theorem Tree.outermost_le_length (wanted enter : τ → Bool) (t : Tree κ τ) : t.outermost wanted enter ≤ (t.found wanted (fun _ => true)).length := by
  cases t with
  | node l f =>
    have hf := Forest.outermost_le_length wanted enter f
    simp only [Tree.outermost, Tree.found, if_true, List.length_append]
    split
    · exact Nat.le_add_right 1 _
    · split
      · exact Nat.le_trans hf (Nat.le_add_left _ _)
      · exact Nat.zero_le _

theorem Forest.outermost_le_length (wanted enter : τ → Bool) (f : Forest κ τ) : f.outermost wanted enter ≤ (f.found wanted (fun _ => true)).length := by
  cases f with
  | nil => exact Nat.le_refl 0
  | cons key t rest =>
    rw [Forest.outermost, Forest.found, List.length_append]
    exact Nat.add_le_add (Tree.outermost_le_length wanted enter t) (Forest.outermost_le_length wanted enter rest)

end

mutual

theorem Tree.outermost_eq_length (t : Tree κ τ) :
    t.outermost wanted enter = (t.found wanted (fun _ => true)).length ↔ t.Flat wanted enter := by
  cases t with
  | node l f =>
    have hf := Forest.outermost_eq_length f
    simp only [Tree.outermost, Tree.found, Tree.Flat, if_true, List.length_append]
    split
    · rw [← List.length_eq_zero_iff, List.length_singleton]
      omega
    · split
      · rw [← hf, List.length_nil, Nat.zero_add]
      · rw [← List.length_eq_zero_iff, List.length_nil]
        omega

theorem Forest.outermost_eq_length (f : Forest κ τ) :
    f.outermost wanted enter = (f.found wanted (fun _ => true)).length ↔ f.Flat wanted enter := by
  cases f with
  | nil => exact ⟨fun _ => trivial, fun _ => rfl⟩
  | cons key t rest =>
    rw [Forest.outermost, Forest.found, Forest.Flat, List.length_append, ← Tree.outermost_eq_length t,
      ← Forest.outermost_eq_length rest]
    have ht := Tree.outermost_le_length wanted enter t
    have hrest := Forest.outermost_le_length wanted enter rest
    omega

end

mutual

theorem Tree.outermost_zero_iff (t : Tree κ τ) :
    t.outermost wanted (fun _ => true) = 0 ↔ t.found wanted (fun _ => true) = [] := by
  cases t with
  | node l f =>
    have hf := Forest.outermost_zero_iff f
    simp only [Tree.outermost, Tree.found, if_true]
    split
    · exact ⟨fun h => absurd h Nat.one_ne_zero, fun h => absurd h (List.cons_ne_nil _ _)⟩
    · rw [List.nil_append]
      exact hf

theorem Forest.outermost_zero_iff (f : Forest κ τ) :
    f.outermost wanted (fun _ => true) = 0 ↔ f.found wanted (fun _ => true) = [] := by
  cases f with
  | nil => exact ⟨fun _ => rfl, fun _ => rfl⟩
  | cons key t rest =>
    rw [Forest.outermost, Forest.found, Nat.add_eq_zero_iff, List.append_eq_nil_iff, Tree.outermost_zero_iff t,
      Forest.outermost_zero_iff rest]

end

mutual

theorem Tree.outermost_le (wanted enter : τ → Bool) (t : Tree κ τ) : t.outermost wanted enter ≤ t.outermost wanted (fun _ => true) := by
  cases t with
  | node l f =>
    have hf := Forest.outermost_le wanted enter f
    simp only [Tree.outermost, if_true]
    split
    · exact Nat.le_refl 1
    · split
      · exact hf
      · exact Nat.zero_le _

theorem Forest.outermost_le (wanted enter : τ → Bool) (f : Forest κ τ) : f.outermost wanted enter ≤ f.outermost wanted (fun _ => true) := by
  cases f with
  | nil => exact Nat.le_refl 0
  | cons key t rest => exact Nat.add_le_add (Tree.outermost_le wanted enter t) (Forest.outermost_le wanted enter rest)

end

mutual

theorem Tree.outermost_eq_iff (t : Tree κ τ) :
    t.outermost wanted enter = t.outermost wanted (fun _ => true) ↔ t.Open wanted enter := by
  cases t with
  | node l f =>
    have hf := Forest.outermost_eq_iff f
    simp only [Tree.outermost, Tree.Open, if_true]
    by_cases hw : wanted l = true
    · rw [if_pos hw, if_pos hw]
      exact ⟨fun _ => .inl hw, fun _ => rfl⟩
    · rw [if_neg hw, if_neg hw, or_iff_right hw]
      split
      · exact hf
      · rw [← Forest.outermost_zero_iff f]
        exact eq_comm

theorem Forest.outermost_eq_iff (f : Forest κ τ) :
    f.outermost wanted enter = f.outermost wanted (fun _ => true) ↔ f.Open wanted enter := by
  cases f with
  | nil => exact ⟨fun _ => trivial, fun _ => rfl⟩
  | cons key t rest =>
    rw [Forest.outermost, Forest.outermost, Forest.Open, ← Tree.outermost_eq_iff t, ← Forest.outermost_eq_iff rest]
    have ht := Tree.outermost_le wanted enter t
    have hrest := Forest.outermost_le wanted enter rest
    omega

end

end Counting

variable [DecidableEq κ]

def Forest.get (k : κ) : Forest κ τ → Option (Tree κ τ)
  | .nil => none
  | .cons key t rest => if key = k then some t else rest.get k

def Forest.modify (k : κ) (g : Tree κ τ → Tree κ τ) : Forest κ τ → Forest κ τ
  | .nil => .nil
  | .cons key t rest => if key = k then .cons key (g t) rest else .cons key t (rest.modify k g)

def Tree.getAt : List κ → Tree κ τ → Option (Tree κ τ)
  | [], t => some t
  | k :: p, .node _ f => (f.get k).bind (Tree.getAt p)

def Tree.setAt : Tree κ τ → List κ → Tree κ τ → Tree κ τ
  | _, [], v => v
  | .node l f, k :: p, v => .node l (f.modify k (fun c => c.setAt p v))

mutual

/-- No two children of a node have the same key. -/
def Tree.Distinct : Tree κ τ → Prop
  | .node _ f => f.Distinct

def Forest.Distinct : Forest κ τ → Prop
  | .nil => True
  | .cons k t rest => rest.get k = none ∧ t.Distinct ∧ rest.Distinct

end

section Lists

def Forest.ofList : List (κ × Tree κ τ) → Forest κ τ
  | [] => .nil
  | (k, t) :: rest => .cons k t (Forest.ofList rest)

omit [DecidableEq κ] in
theorem Forest.mem_found_ofList {wanted enter : τ → Bool} {entries : List (κ × Tree κ τ)} :
    r ∈ (Forest.ofList entries).found wanted enter ↔ ∃ p ∈ entries, r ∈ p.2.found wanted enter := by
  induction entries with
  | nil =>
    constructor
    · intro h
      cases h
    · rintro ⟨p, hp, -⟩
      cases hp
  | cons p entries ih => rw [Forest.ofList, Forest.found, List.mem_append, ih, List.exists_mem_cons_iff]

theorem Forest.get_ofList {entries : List (κ × Tree κ τ)} (h : k ∉ entries.map Prod.fst) :
    (Forest.ofList entries).get k = none := by
  induction entries with
  | nil => rfl
  | cons p entries ih =>
    rw [List.map_cons, List.mem_cons, not_or] at h
    rw [Forest.ofList, Forest.get, if_neg (fun he => h.1 he.symm), ih h.2]

theorem Forest.distinct_ofList {entries : List (κ × Tree κ τ)} (h : (entries.map Prod.fst).Nodup)
    (hall : ∀ p ∈ entries, p.2.Distinct) : (Forest.ofList entries).Distinct := by
  induction entries with
  | nil => trivial
  | cons p entries ih =>
    obtain ⟨hp, h⟩ := List.nodup_cons.1 h
    rw [List.forall_mem_cons] at hall
    exact ⟨Forest.get_ofList hp, hall.1, ih h hall.2⟩

end Lists

section Paths

variable {wanted enter : τ → Bool} {f : Forest κ τ} {t : Tree κ τ}

theorem Forest.get_distinct {f : Forest κ τ} (h : f.Distinct) (hget : f.get k = some t) : t.Distinct := by
  cases f with
  | nil => cases hget
  | cons key c rest =>
    rw [Forest.get] at hget
    split at hget
    · cases hget
      exact h.2.1
    · exact Forest.get_distinct h.2.2 hget

theorem Tree.getAt_append (t : Tree κ τ) (p q : List κ) : t.getAt (p ++ q) = (t.getAt p).bind (Tree.getAt q) := by
  induction p generalizing t with
  | nil => rfl
  | cons k p ih =>
    cases t with
    | node l f =>
      rw [List.cons_append, Tree.getAt, Tree.getAt]
      cases f.get k with
      | none => rfl
      | some c => exact ih c

theorem Forest.mem_occurrences {f : Forest κ τ} (h : f.Distinct) :
    q ∈ f.occurrences wanted enter ↔
      ∃ k p c, q = k :: p ∧ f.get k = some c ∧ p ∈ c.occurrences wanted enter := by
  cases f with
  | nil =>
    constructor
    · intro hq
      cases hq
    · rintro ⟨k, p, c, -, hget, -⟩
      cases hget
  | cons key t rest =>
    obtain ⟨hkey, -, hrest⟩ := h
    rw [Forest.occurrences, List.mem_append, List.mem_map, Forest.mem_occurrences hrest]
    constructor
    · rintro (⟨p, hp, rfl⟩ | ⟨k, p, c, rfl, hget, hp⟩)
      · exact ⟨key, p, t, rfl, by rw [Forest.get, if_pos rfl], hp⟩
      · have hne : key ≠ k := by
          rintro rfl
          rw [hkey] at hget
          cases hget
        exact ⟨k, p, c, rfl, by rw [Forest.get, if_neg hne]; exact hget, hp⟩
    · rintro ⟨k, p, c, rfl, hget, hp⟩
      rw [Forest.get] at hget
      split at hget
      · rename_i heq
        cases hget
        exact .inl ⟨p, hp, by rw [heq]⟩
      · exact .inr ⟨k, p, c, rfl, hget, hp⟩

theorem Tree.nil_mem_occurrences (h : t.Distinct) : [] ∈ t.occurrences wanted enter ↔ wanted t.label = true := by
  cases t with
  | node l f =>
    rw [Tree.occurrences, List.mem_append]
    constructor
    · rintro (hl | hf)
      · by_cases hw : wanted l = true
        · exact hw
        · rw [if_neg hw] at hl
          cases hl
      · split at hf
        · obtain ⟨k, p, c, hq, -⟩ := (Forest.mem_occurrences h).1 hf
          cases hq
        · cases hf
    · intro hw
      have hl : wanted l = true := hw
      exact .inl (by rw [if_pos hl]; exact List.mem_cons_self)

theorem Tree.cons_mem_occurrences (h : (Tree.node l f).Distinct) :
    k :: p ∈ (Tree.node l f).occurrences wanted enter ↔
      enter l = true ∧ ∃ c, f.get k = some c ∧ p ∈ c.occurrences wanted enter := by
  rw [Tree.occurrences, List.mem_append]
  have hroot : k :: p ∉ (if wanted l then [[]] else [] : List (List κ)) := by
    split
    · intro hmem
      cases List.mem_singleton.1 hmem
    · exact List.not_mem_nil
  rw [or_iff_right hroot]
  by_cases he : enter l = true
  · rw [if_pos he, Forest.mem_occurrences h]
    constructor
    · rintro ⟨k', p', c, hq, hget, hp⟩
      cases hq
      exact ⟨he, c, hget, hp⟩
    · rintro ⟨-, c, hget, hp⟩
      exact ⟨k, p, c, rfl, hget, hp⟩
  · rw [if_neg he]
    constructor
    · intro hmem
      cases hmem
    · rintro ⟨he', -⟩
      exact absurd he' he

theorem Tree.getAt_occurrence (h : t.Distinct) (hp : p ∈ t.occurrences wanted enter) :
    ∃ r, t.getAt p = some r ∧ wanted r.label = true := by
  induction p generalizing t with
  | nil => exact ⟨t, rfl, (Tree.nil_mem_occurrences h).1 hp⟩
  | cons k p ih =>
    cases t with
    | node l f =>
      obtain ⟨-, c, hget, hp⟩ := (Tree.cons_mem_occurrences h).1 hp
      obtain ⟨r, hr, hw⟩ := ih (Forest.get_distinct h hget) hp
      exact ⟨r, Option.bind_eq_some_iff.2 ⟨c, hget, hr⟩, hw⟩

mutual

theorem Tree.occurrences_nodup (t : Tree κ τ) (h : t.Distinct) : (t.occurrences wanted enter).Nodup := by
  cases t with
  | node l f =>
    rw [Tree.occurrences, List.nodup_append]
    refine ⟨?_, ?_, ?_⟩
    · split
      · exact List.nodup_singleton _
      · exact List.nodup_nil
    · split
      · exact Forest.occurrences_nodup f h
      · exact List.nodup_nil
    · intro p hp q hq he
      split at hp
      · cases List.mem_singleton.1 hp
        split at hq
        · obtain ⟨k, p, c, rfl, -⟩ := (Forest.mem_occurrences h).1 hq
          cases he
        · cases hq
      · cases hp

theorem Forest.occurrences_nodup (f : Forest κ τ) (h : f.Distinct) : (f.occurrences wanted enter).Nodup := by
  cases f with
  | nil => exact List.nodup_nil
  | cons key t rest =>
    obtain ⟨hkey, ht, hrest⟩ := h
    rw [Forest.occurrences, List.nodup_append]
    refine ⟨(Tree.occurrences_nodup t ht).map (List.cons_injective), Forest.occurrences_nodup rest hrest, ?_⟩
    intro p hp q hq he
    obtain ⟨p', _, rfl⟩ := List.mem_map.1 hp
    obtain ⟨k, q', c, rfl, hget, -⟩ := (Forest.mem_occurrences hrest).1 hq
    cases he
    rw [hkey] at hget
    cases hget

end

/-- The wanted nodes are those at the paths. -/
theorem Forest.mem_found_of_get {f : Forest κ τ} (hget : f.get k = some c) (hr : r ∈ c.found wanted enter) :
    r ∈ f.found wanted enter := by
  cases f with
  | nil => cases hget
  | cons key t rest =>
    rw [Forest.get] at hget
    rw [Forest.found, List.mem_append]
    split at hget
    · cases hget
      exact .inl hr
    · exact .inr (Forest.mem_found_of_get hget hr)

theorem Tree.mem_found_of_occurrence (h : t.Distinct) (hp : p ∈ t.occurrences wanted enter) (hget : t.getAt p = some r) :
    r ∈ t.found wanted enter := by
  induction p generalizing t with
  | nil =>
    cases hget
    have hw := (Tree.nil_mem_occurrences h).1 hp
    cases r with
    | node l f =>
      have hl : wanted l = true := hw
      rw [Tree.found, if_pos hl]
      exact List.mem_append_left _ List.mem_cons_self
  | cons k p ih =>
    cases t with
    | node l f =>
      obtain ⟨henter, c, hc, hp⟩ := (Tree.cons_mem_occurrences h).1 hp
      obtain ⟨c', hc', hget⟩ := Option.bind_eq_some_iff.1 hget
      rw [hc] at hc'
      cases hc'
      rw [Tree.found, if_pos henter]
      exact List.mem_append_right _ (Forest.mem_found_of_get hc (ih (Forest.get_distinct h hc) hp hget))

mutual

theorem Tree.occurrence_of_mem_found {t : Tree κ τ} (h : t.Distinct) (hr : r ∈ t.found wanted enter) :
    ∃ p ∈ t.occurrences wanted enter, t.getAt p = some r := by
  cases t with
  | node l f =>
    rw [Tree.found, List.mem_append] at hr
    rcases hr with hr | hr
    · split at hr
      · rename_i hw
        rw [List.mem_singleton.1 hr]
        exact ⟨[], (Tree.nil_mem_occurrences h).2 hw, rfl⟩
      · cases hr
    · split at hr
      · rename_i henter
        obtain ⟨k, c, p, hc, hp, hget⟩ := Forest.occurrence_of_mem_found h hr
        exact ⟨k :: p, (Tree.cons_mem_occurrences h).2 ⟨henter, c, hc, hp⟩, Option.bind_eq_some_iff.2 ⟨c, hc, hget⟩⟩
      · cases hr

theorem Forest.occurrence_of_mem_found {f : Forest κ τ} (h : f.Distinct) (hr : r ∈ f.found wanted enter) :
    ∃ k c, ∃ p, f.get k = some c ∧ p ∈ c.occurrences wanted enter ∧ c.getAt p = some r := by
  cases f with
  | nil => cases hr
  | cons key t rest =>
    obtain ⟨hkey, ht, hrest⟩ := h
    rw [Forest.found, List.mem_append] at hr
    rcases hr with hr | hr
    · obtain ⟨p, hp, hget⟩ := Tree.occurrence_of_mem_found ht hr
      exact ⟨key, t, p, by rw [Forest.get, if_pos rfl], hp, hget⟩
    · obtain ⟨k, c, p, hc, hp, hget⟩ := Forest.occurrence_of_mem_found hrest hr
      have hne : key ≠ k := by
        rintro rfl
        rw [hkey] at hc
        cases hc
      exact ⟨k, c, p, by rw [Forest.get, if_neg hne]; exact hc, hp, hget⟩

end

end Paths

section Rendering

variable {wanted enter : τ → Bool} {relabel : τ → τ} {mark : Tree κ τ → Tree κ τ}

theorem Forest.get_render (f : Forest κ τ) (done : List κ → Bool) (k : κ) :
    (f.render relabel mark done).get k = (f.get k).map (fun t => t.render relabel mark (fun p => done (k :: p))) := by
  cases f with
  | nil => rfl
  | cons key t rest =>
    rw [Forest.render, Forest.get, Forest.get]
    by_cases hk : key = k
    · rw [if_pos hk, if_pos hk, hk]
      rfl
    · rw [if_neg hk, if_neg hk]
      exact Forest.get_render rest done k

/-- A path that no path done leads to can still be followed. -/
theorem Tree.getAt_render {t : Tree κ τ} {done : List κ → Bool} (hget : t.getAt p = some r)
    (hdone : ∀ q, q <+: p → q ≠ p → done q = false) :
    (t.render relabel mark done).getAt p = some (r.render relabel mark (fun q => done (p ++ q))) := by
  induction p generalizing t done with
  | nil =>
    cases hget
    rfl
  | cons k p ih =>
    cases t with
    | node l f =>
      obtain ⟨c, hc, hget⟩ := Option.bind_eq_some_iff.1 hget
      have hroot : done [] = false := hdone [] List.nil_prefix (List.cons_ne_nil k p).symm
      rw [Tree.render, if_neg (by rw [hroot]; exact Bool.false_ne_true), Tree.getAt, Forest.get_render, hc]
      refine ih hget ?_
      intro q hq hne
      exact hdone (k :: q) (List.cons_prefix_cons.2 ⟨rfl, hq⟩) (fun he => hne (List.cons.inj he).2)

theorem Forest.render_congr (f : Forest κ τ) {done done' : List κ → Bool}
    (h : ∀ k, f.get k ≠ none → ∀ p, done (k :: p) = done' (k :: p)) :
    f.Distinct → f.render relabel mark done = f.render relabel mark done' := by
  intro hd
  cases f with
  | nil => rfl
  | cons key t rest =>
    obtain ⟨hkey, -, hrest⟩ := hd
    have hhead : (fun p => done (key :: p)) = (fun p => done' (key :: p)) := by
      funext p
      exact h key (by rw [Forest.get, if_pos rfl]; exact Option.some_ne_none t) p
    rw [Forest.render, Forest.render, hhead, Forest.render_congr rest _ hrest]
    intro k hk p
    refine h k ?_ p
    have hne : key ≠ k := by
      rintro rfl
      exact hk hkey
    rw [Forest.get, if_neg hne]
    exact hk

/-- One more path is done. -/
theorem Forest.modify_render (f : Forest κ τ) {done done' : List κ → Bool} {g : Tree κ τ → Tree κ τ} (hd : f.Distinct)
    (hother : ∀ k', k' ≠ k → ∀ p, done (k' :: p) = done' (k' :: p))
    (hchild : ∀ c, f.get k = some c →
      g (c.render relabel mark (fun p => done (k :: p))) = c.render relabel mark (fun p => done' (k :: p))) :
    (f.render relabel mark done).modify k g = f.render relabel mark done' := by
  cases f with
  | nil => rfl
  | cons key t rest =>
    obtain ⟨hkey, -, hrest⟩ := hd
    rw [Forest.render, Forest.modify, Forest.render]
    by_cases hk : key = k
    · subst hk
      rw [if_pos rfl, hchild t (by rw [Forest.get, if_pos rfl])]
      rw [Forest.render_congr rest _ hrest]
      intro k' hk' p
      refine hother k' ?_ p
      rintro rfl
      exact hk' hkey
    · rw [if_neg hk, Forest.modify_render rest hrest hother]
      · have hhead : (fun p => done (key :: p)) = (fun p => done' (key :: p)) := by
          funext p
          exact hother key hk p
        rw [hhead]
      · intro c hc
        exact hchild c (by rw [Forest.get, if_neg hk]; exact hc)

theorem Tree.setAt_render {t : Tree κ τ} {done : List κ → Bool} (h : t.Distinct) (hget : t.getAt p = some r)
    (hdone : ∀ q, q <+: p → q ≠ p → done q = false) :
    (t.render relabel mark done).setAt p (mark r) =
      t.render relabel mark (fun q => done q || decide (q = p)) := by
  induction p generalizing t done with
  | nil =>
    cases hget
    cases r with
    | node l f => rw [Tree.setAt, Tree.render, if_pos (by simp)]
  | cons k p ih =>
    cases t with
    | node l f =>
      obtain ⟨c, hc, hget⟩ := Option.bind_eq_some_iff.1 hget
      have hroot : done [] = false := hdone [] List.nil_prefix (List.cons_ne_nil k p).symm
      rw [Tree.render, if_neg (by rw [hroot]; exact Bool.false_ne_true), Tree.setAt, Tree.render,
        if_neg (by simp [hroot])]
      congr 1
      refine Forest.modify_render f h ?_ ?_
      · intro k' hk' q
        have hne : k' :: q ≠ k :: p := fun he => hk' (List.cons.inj he).1
        rw [decide_eq_false hne, Bool.or_false]
      · intro c' hc'
        rw [hc] at hc'
        cases hc'
        rw [ih (Forest.get_distinct h hc) hget]
        · congr 1
          funext q
          have hiff : (k :: q = k :: p) ↔ q = p := by
            rw [List.cons.injEq]
            exact and_iff_right rfl
          simp only [hiff]
        · intro q hq hne
          exact hdone (k :: q) (List.cons_prefix_cons.2 ⟨rfl, hq⟩) (fun he => hne (List.cons.inj he).2)

mutual

/-- With every occurrence done, the outermost ones are marked. -/
theorem Tree.render_occurrences (t : Tree κ τ) (h : t.Distinct) {done : List κ → Bool}
    (hdone : ∀ p, done p = true ↔ p ∈ t.occurrences wanted enter) :
    t.render relabel mark done = t.replaced wanted enter relabel mark := by
  cases t with
  | node l f =>
    have hroot : done [] = true ↔ wanted l = true := (hdone []).trans (Tree.nil_mem_occurrences h)
    rw [Tree.render, Tree.replaced]
    by_cases hw : wanted l = true
    · rw [if_pos hw, if_pos (hroot.2 hw)]
    · rw [if_neg hw, if_neg (fun hd => hw (hroot.1 hd))]
      by_cases henter : enter l = true
      · rw [if_pos henter, Forest.render_occurrences f h]
        intro k c hc p
        rw [hdone, Tree.cons_mem_occurrences h]
        constructor
        · rintro ⟨-, c', hc', hp⟩
          rw [hc] at hc'
          cases hc'
          exact hp
        · intro hp
          exact ⟨henter, c, hc, hp⟩
      · rw [if_neg henter, ← Forest.render_none f]
        congr 1
        refine Forest.render_congr f ?_ h
        intro k _ p
        rw [Bool.eq_false_iff]
        intro hd
        exact henter ((Tree.cons_mem_occurrences h).1 ((hdone _).1 hd)).1

theorem Forest.render_occurrences (f : Forest κ τ) (h : f.Distinct) {done : List κ → Bool}
    (hdone : ∀ k c, f.get k = some c → ∀ p, done (k :: p) = true ↔ p ∈ c.occurrences wanted enter) :
    f.render relabel mark done = f.replaced wanted enter relabel mark := by
  cases f with
  | nil => rfl
  | cons key t rest =>
    obtain ⟨hkey, ht, hrest⟩ := h
    rw [Forest.render, Forest.replaced, Tree.render_occurrences t ht (hdone key t (by rw [Forest.get, if_pos rfl])),
      Forest.render_occurrences rest hrest]
    intro k c hc
    refine hdone k c ?_
    have hne : key ≠ k := by
      rintro rfl
      rw [hkey] at hc
      cases hc
    rw [Forest.get, if_neg hne]
    exact hc

end

end Rendering

/-! ### Longest paths first -/

def longestFirst (paths : List (List κ)) : List (List κ) :=
  paths.mergeSort (fun p q => decide (q.length ≤ p.length))

omit [DecidableEq κ] in
theorem mem_longestFirst {paths : List (List κ)} : p ∈ longestFirst paths ↔ p ∈ paths :=
  (List.mergeSort_perm paths _).mem_iff

omit [DecidableEq κ] in
/-- No path comes before one that it leads to. -/
theorem longestFirst_pairwise {paths : List (List κ)} (h : paths.Nodup) :
    (longestFirst paths).Pairwise (fun p q => ¬ p <+: q) := by
  have htrans : ∀ a b c : List κ, decide (b.length ≤ a.length) = true → decide (c.length ≤ b.length) = true →
      decide (c.length ≤ a.length) = true := by
    intro a b c hab hbc
    rw [decide_eq_true_iff] at hab hbc ⊢
    omega
  have htotal : ∀ a b : List κ, (decide (b.length ≤ a.length) || decide (a.length ≤ b.length)) = true := by
    intro a b
    rw [Bool.or_eq_true, decide_eq_true_iff, decide_eq_true_iff]
    omega
  have hsorted : (longestFirst paths).Pairwise (fun p q => decide (q.length ≤ p.length) = true) :=
    @List.pairwise_mergeSort (List κ) (fun p q => decide (q.length ≤ p.length)) htrans htotal paths
  have hnodup : (longestFirst paths).Nodup := (List.mergeSort_perm paths _).nodup_iff.2 h
  refine (hsorted.and hnodup).imp ?_
  rintro p q ⟨hle, hne⟩ hbelow
  exact hne (hbelow.eq_of_length_le (of_decide_eq_true hle))

section Loop

variable {wanted enter : τ → Bool} {relabel : τ → τ} {mark : Tree κ τ → Tree κ τ} {t : Tree κ τ}
variable {step : List κ → EStateM ε (Tree κ τ) PUnit} {Good : Tree κ τ → Prop} {E : ε → Prop}

/-- A loop that marks the occurrences, longest path first, in a relabelled tree: it goes through if every
node it comes to is good. -/
theorem forM_longestFirst (h : t.Distinct)
    (hstep : ∀ p r done, p ∈ t.occurrences wanted enter → t.getAt p = some r →
      (∀ q, q <+: p → done q = false) → (∀ q, done q = true → q ∈ t.occurrences wanted enter) →
      Effects.Meets (step p) (t.render relabel mark done)
        (fun _ s => Good r ∧ s = (t.render relabel mark done).setAt p (mark r)) (fun e _ => ¬ Good r ∧ E e)) :
    Effects.Meets (forM (longestFirst (t.occurrences wanted enter)) step) (t.map relabel)
      (fun _ s => s = t.replaced wanted enter relabel mark ∧ ∀ r ∈ t.found wanted enter, Good r)
      (fun e _ => E e ∧ ∃ r ∈ t.found wanted enter, ¬ Good r) := by
  have hloop : ∀ todo had : List (List κ), (∀ p ∈ todo, p ∈ t.occurrences wanted enter) →
      (∀ p ∈ had, p ∈ t.occurrences wanted enter ∧ ∀ r, t.getAt p = some r → Good r) →
      todo.Pairwise (fun p q => ¬ p <+: q) → (∀ d ∈ had, ∀ p ∈ todo, ¬ d <+: p) →
      Effects.Meets (forM todo step) (t.render relabel mark (fun q => decide (q ∈ had)))
        (fun _ s => s = t.render relabel mark (fun q => decide (q ∈ had ++ todo)) ∧
          ∀ p ∈ had ++ todo, ∀ r, t.getAt p = some r → Good r)
        (fun e _ => E e ∧ ∃ r ∈ t.found wanted enter, ¬ Good r) := by
    intro todo
    induction todo with
    | nil =>
      intro had _ hhad _ _
      rw [List.append_nil]
      exact ⟨rfl, fun p hp => (hhad p hp).2⟩
    | cons p todo ih =>
      intro had htodo hhad hpair hclear
      obtain ⟨hfirst, hpair⟩ := List.pairwise_cons.1 hpair
      have hp := htodo p List.mem_cons_self
      obtain ⟨r, hget, -⟩ := Tree.getAt_occurrence h hp
      have hnone : ∀ q, q <+: p → (fun q => decide (q ∈ had)) q = false := by
        intro q hq
        refine decide_eq_false ?_
        intro hmem
        exact hclear q hmem p List.mem_cons_self hq
      have happ : had ++ p :: todo = (had ++ [p]) ++ todo := by
        rw [List.append_assoc]
        rfl
      rw [List.forM_cons, happ]
      refine Effects.Meets.bind ((hstep p r _ hp hget hnone (fun q hq => (hhad q (of_decide_eq_true hq)).1)).mono
        (fun _ _ hs => hs) ?_) ?_
      · rintro e _ ⟨hbad, he⟩
        exact ⟨he, r, Tree.mem_found_of_occurrence h hp hget, hbad⟩
      · rintro _ s ⟨hgood, rfl⟩
        rw [Tree.setAt_render h hget (fun q hq _ => hnone q hq)]
        have hdone : (fun q => decide (q ∈ had) || decide (q = p)) = (fun q => decide (q ∈ had ++ [p])) := by
          funext q
          rw [← Bool.decide_or]
          refine decide_eq_decide.2 ?_
          rw [List.mem_append, List.mem_singleton]
        rw [hdone]
        refine ih (had ++ [p]) (fun q hq => htodo q (List.mem_cons_of_mem p hq)) ?_ hpair ?_
        · intro q hq
          rcases List.mem_append.1 hq with hq | hq
          · exact hhad q hq
          · rw [List.mem_singleton.1 hq]
            refine ⟨hp, fun r' hr' => ?_⟩
            rw [hget] at hr'
            cases hr'
            exact hgood
        · intro d hd q hq
          rcases List.mem_append.1 hd with hd | hd
          · exact hclear d hd q (List.mem_cons_of_mem p hq)
          · rw [List.mem_singleton.1 hd]
            exact hfirst q hq
  have hall := hloop (longestFirst (t.occurrences wanted enter)) [] (fun p hp => mem_longestFirst.1 hp)
    (fun p hp => absurd hp List.not_mem_nil) (longestFirst_pairwise (Tree.occurrences_nodup t h))
    (fun d hd => absurd hd List.not_mem_nil)
  have hstart : (fun q => decide (q ∈ ([] : List (List κ)))) = (fun _ => false) := by
    funext q
    exact decide_eq_false List.not_mem_nil
  rw [hstart, Tree.render_none, List.nil_append] at hall
  refine hall.mono ?_ (fun _ _ hs => hs)
  rintro _ s ⟨rfl, hgood⟩
  refine ⟨Tree.render_occurrences t h (fun p => decide_eq_true_iff.trans mem_longestFirst), ?_⟩
  intro r hr
  obtain ⟨p, hp, hget⟩ := Tree.occurrence_of_mem_found h hr
  exact hgood p (mem_longestFirst.2 hp) r hget

end Loop

end Keys

end Nfvcl.KeyedTrees
