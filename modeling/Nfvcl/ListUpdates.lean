import Mathlib.Algebra.Order.Ring.Nat
import Mathlib.Data.List.Basic
import Mathlib.Data.List.Nodup
import Nfvcl.Effects

namespace Nfvcl.ListUpdates
set_option autoImplicit true

/-- `if a not in xs: xs.append(a)`. -/
def appendNew [DecidableEq α] (xs : List α) (a : α) : List α :=
  if a ∈ xs then xs else xs ++ [a]

/-- The first element that passes the test is changed; without one, a new element is added. -/
def growFirst (test : α → Bool) (grow : α → α) (new : α) : List α → List α
  | [] => [new]
  | x :: xs => if test x then grow x :: xs else x :: growFirst test grow new xs

theorem appendNew_of_not_mem [DecidableEq α] {xs : List α} (h : a ∉ xs) : appendNew xs a = xs ++ [a] :=
  if_neg h

theorem foldl_appendNew [DecidableEq α] {xs as : List α} (h : (xs ++ as).Nodup) :
    as.foldl appendNew xs = xs ++ as := by
  induction as generalizing xs with
  | nil => rw [List.foldl_nil, List.append_nil]
  | cons a as ih =>
    have ha : a ∉ xs := by
      intro hmem
      exact (List.nodup_append.1 h).2.2 a hmem a List.mem_cons_self rfl
    have happ : xs ++ a :: as = (xs ++ [a]) ++ as := by
      rw [List.append_assoc]
      rfl
    rw [List.foldl_cons, appendNew_of_not_mem ha, ih (happ ▸ h), happ]

theorem growFirst_of_none {xs : List α} (h : ∀ x ∈ xs, test x = false) :
    growFirst test grow new xs = xs ++ [new] := by
  induction xs with
  | nil => rfl
  | cons x xs ih =>
    rw [growFirst, if_neg (by rw [h x List.mem_cons_self]; exact Bool.false_ne_true),
      ih (fun y hy => h y (List.mem_cons_of_mem x hy)), List.cons_append]

theorem growFirst_append {xs ys : List α} (h : ∀ x ∈ xs, test x = false) (hy : test y = true) :
    growFirst test grow new (xs ++ y :: ys) = xs ++ grow y :: ys := by
  induction xs with
  | nil => rw [List.nil_append, growFirst, if_pos hy, List.nil_append]
  | cons x xs ih =>
    rw [List.cons_append, growFirst, if_neg (by rw [h x List.mem_cons_self]; exact Bool.false_ne_true),
      ih (fun z hz => h z (List.mem_cons_of_mem x hz)), List.cons_append]

/-- Keys stay distinct: growing keeps them and the new element has the key asked for. -/
theorem growFirst_keys {xs : List α} (key : α → κ) (hgrow : ∀ x, key (grow x) = key x)
    (htest : ∀ x, test x = true ↔ key x = key new) (h : (xs.map key).Nodup) :
    ((growFirst test grow new xs).map key).Nodup := by
  have hmap : (growFirst test grow new xs).map key = xs.map key ∨
      ((growFirst test grow new xs).map key = xs.map key ++ [key new] ∧ key new ∉ xs.map key) := by
    clear h
    induction xs with
    | nil => exact .inr ⟨rfl, by simp⟩
    | cons x xs ih =>
      rw [growFirst]
      by_cases hx : test x = true
      · rw [if_pos hx]
        exact .inl (by rw [List.map_cons, List.map_cons, hgrow])
      · rw [if_neg hx]
        rcases ih with ih | ⟨ih, hnot⟩
        · exact .inl (by rw [List.map_cons, List.map_cons, ih])
        · refine .inr ⟨by rw [List.map_cons, ih]; rfl, ?_⟩
          rw [List.map_cons, List.mem_cons]
          rintro (he | hmem)
          · exact hx ((htest x).2 he.symm)
          · exact hnot hmem
  rcases hmap with hm | ⟨hm, hnot⟩
  · rw [hm]
    exact h
  · rw [hm, List.nodup_append]
    refine ⟨h, List.nodup_singleton _, ?_⟩
    intro a ha b hb he
    rw [he, List.mem_singleton.1 hb] at ha
    exact hnot ha

/-- A key and the values listed under it are added one by one. -/
theorem foldl_growFirst_values [DecidableEq β] {items : List α} {test : α → Bool} {grow : β → α → α}
    {mk : List β → α} (htest : ∀ vs, test (mk vs) = true)
    (hgrow : ∀ v vs, grow v (mk vs) = mk (appendNew vs v))
    (hitems : ∀ item ∈ items, test item = false) {values : List β} (hvalues : values.Nodup) (hne : values ≠ []) :
    values.foldl (fun items v => growFirst test (grow v) (mk [v]) items) items = items ++ [mk values] := by
  obtain ⟨v, vs, rfl⟩ := List.exists_cons_of_ne_nil hne
  have hrest : ∀ (more had : List β), (had ++ more).Nodup →
      more.foldl (fun items v => growFirst test (grow v) (mk [v]) items) (items ++ [mk had]) =
        items ++ [mk (had ++ more)] := by
    intro more
    induction more with
    | nil =>
      intro had _
      rw [List.foldl_nil, List.append_nil]
    | cons w more ih =>
      intro had hnodup
      have hw : w ∉ had := by
        intro hmem
        exact (List.nodup_append.1 hnodup).2.2 w hmem w List.mem_cons_self rfl
      have happ : had ++ w :: more = (had ++ [w]) ++ more := by
        rw [List.append_assoc]
        rfl
      rw [List.foldl_cons, growFirst_append hitems (htest had), hgrow, appendNew_of_not_mem hw,
        ih (had ++ [w]) (happ ▸ hnodup), happ]
  rw [List.foldl_cons, growFirst_of_none hitems, hrest vs [v] hvalues]
  rfl

/-- Lists of values are added under keys that do not meet: each key that has a value gets an item. -/
theorem foldl_growFirst_groups [DecidableEq β] (test : κ → α → Bool) (grow : β → α → α) (mk : κ → List β → α)
    (hgrow : ∀ k v vs, grow v (mk k vs) = mk k (appendNew vs v))
    (htest : ∀ k vs, test k (mk k vs) = true)
    (groups : List (κ × List β)) (hvalues : ∀ g ∈ groups, g.2.Nodup) (items : List α)
    (hitems : ∀ item ∈ items, ∀ g ∈ groups, g.2 ≠ [] → test g.1 item = false)
    (hkeys : (groups.filter (fun g => decide (g.2 ≠ []))).Pairwise (fun g g' => ∀ vs, test g'.1 (mk g.1 vs) = false)) :
    (groups.flatMap (fun g => g.2.map (Prod.mk g.1))).foldl
        (fun items p => growFirst (test p.1) (grow p.2) (mk p.1 [p.2]) items) items =
      items ++ (groups.filter (fun g => decide (g.2 ≠ []))).map (fun g => mk g.1 g.2) := by
  induction groups generalizing items with
  | nil => rw [List.flatMap_nil, List.foldl_nil, List.filter_nil, List.map_nil, List.append_nil]
  | cons g groups ih =>
    have hvalues' : ∀ g' ∈ groups, g'.2.Nodup := fun g' hg' => hvalues g' (List.mem_cons_of_mem g hg')
    rw [List.flatMap_cons, List.foldl_append, List.foldl_map]
    by_cases hne : g.2 = []
    · rw [List.filter_cons_of_neg (by simp [hne])] at hkeys ⊢
      rw [hne, List.foldl_nil]
      exact ih hvalues' items (fun item hitem g' hg' => hitems item hitem g' (List.mem_cons_of_mem g hg')) hkeys
    · rw [List.filter_cons_of_pos (by simp [hne])] at hkeys ⊢
      obtain ⟨hfirst, hkeys'⟩ := List.pairwise_cons.1 hkeys
      rw [foldl_growFirst_values (htest g.1) (hgrow g.1)
        (fun item hitem => hitems item hitem g List.mem_cons_self hne) (hvalues g List.mem_cons_self) hne]
      rw [ih hvalues' _ _ hkeys', List.append_assoc, List.map_cons]
      · rfl
      · intro item hitem g' hg' hne'
        rcases List.mem_append.1 hitem with hitem | hitem
        · exact hitems item hitem g' (List.mem_cons_of_mem g hg') hne'
        · rw [List.mem_singleton.1 hitem]
          exact hfirst g' (List.mem_filter.2 ⟨hg', decide_eq_true hne'⟩) g.2

/-- One field of the state of a loop, when each round adds the round's own items to it. -/
theorem foldl_field (field : σ → τ) (round : σ → α → σ) {add : τ → β → τ} {items : α → List β}
    (h : ∀ s x, field (round s x) = (items x).foldl add (field s)) (xs : List α) (s : σ) :
    field (xs.foldl round s) = (xs.flatMap items).foldl add (field s) := by
  induction xs generalizing s with
  | nil => rfl
  | cons x xs ih => rw [List.foldl_cons, ih, h, List.flatMap_cons, List.foldl_append]

theorem foldl_keeps (field : σ → τ) (round : σ → α → σ) (h : ∀ s x, field (round s x) = field s) (xs : List α) (s : σ) :
    field (xs.foldl round s) = field s := by
  induction xs generalizing s with
  | nil => rfl
  | cons x xs ih => rw [List.foldl_cons, ih, h]

/-- One field of the state of a loop, when each round appends the round's own items to it. -/
theorem foldl_appends (field : σ → List β) (round : σ → α → σ) {items : α → List β}
    (h : ∀ s x, field (round s x) = field s ++ items x) (xs : List α) (s : σ) :
    field (xs.foldl round s) = field s ++ xs.flatMap items := by
  induction xs generalizing s with
  | nil => rw [List.foldl_nil, List.flatMap_nil, List.append_nil]
  | cons x xs ih => rw [List.foldl_cons, ih, h, List.flatMap_cons, List.append_assoc]

section First

/-- Change the first element that passes the test, if there is one. -/
def updateFirst (test : α → Bool) (change : α → α) : List α → Option (List α)
  | [] => none
  | x :: xs => if test x then some (change x :: xs) else (updateFirst test change xs).map (x :: ·)

variable {test : α → Bool} {change : α → α} {xs ys : List α}

theorem updateFirst_eq_none : updateFirst test change xs = none ↔ ∀ x ∈ xs, test x = false := by
  induction xs with
  | nil => exact ⟨fun _ x hx => absurd hx List.not_mem_nil, fun _ => rfl⟩
  | cons x xs ih =>
    rw [updateFirst, List.forall_mem_cons]
    by_cases hx : test x = true
    · rw [if_pos hx]
      exact ⟨fun h => (nomatch h), fun h => absurd hx (by rw [h.1]; exact Bool.false_ne_true)⟩
    · rw [if_neg hx, Option.map_eq_none_iff, ih]
      exact ⟨fun h => ⟨Bool.eq_false_iff.2 hx, h⟩, fun h => h.2⟩

theorem updateFirst_append (h : updateFirst test change xs = none) (hy : test y = true) :
    updateFirst test change (xs ++ [y]) = some (xs ++ [change y]) := by
  induction xs with
  | nil => rw [List.nil_append, updateFirst, if_pos hy, List.nil_append]
  | cons x xs ih =>
    rw [updateFirst] at h
    split at h
    · cases h
    · rename_i hx
      rw [List.cons_append, updateFirst, if_neg hx, ih (Option.map_eq_none_iff.1 h)]
      rfl

/-- The changed element passes the test again and stays as it is. -/
theorem updateFirst_again (hkeep : ∀ x, test x = true → test (change x) = true) (hsame : ∀ x, change (change x) = change x)
    (h : updateFirst test change xs = some ys) : updateFirst test change ys = some ys := by
  induction xs generalizing ys with
  | nil => cases h
  | cons x xs ih =>
    rw [updateFirst] at h
    split at h
    · rename_i hx
      cases h
      rw [updateFirst, if_pos (hkeep x hx), hsame]
    · rename_i hx
      obtain ⟨zs, hzs, rfl⟩ := Option.map_eq_some_iff.1 h
      rw [updateFirst, if_neg hx, ih hzs]
      rfl

theorem sum_updateFirst {size : α → Nat} (hsize : ∀ x, test x = true → size x < size (change x))
    (h : updateFirst test change xs = some ys) : (xs.map size).sum < (ys.map size).sum := by
  induction xs generalizing ys with
  | nil => cases h
  | cons x xs ih =>
    rw [updateFirst] at h
    split at h
    · rename_i hx
      cases h
      have hlt := hsize x hx
      simp only [List.map_cons, List.sum_cons]
      omega
    · obtain ⟨zs, hzs, rfl⟩ := Option.map_eq_some_iff.1 h
      have hlt := ih hzs
      simp only [List.map_cons, List.sum_cons]
      omega

theorem find?_updateFirst (hkeep : ∀ x, test x = true → test (change x) = true) (h : updateFirst test change xs = some ys) :
    ys.find? test = (xs.find? test).map change := by
  induction xs generalizing ys with
  | nil => cases h
  | cons x xs ih =>
    rw [updateFirst] at h
    split at h
    · rename_i hx
      cases h
      rw [List.find?_cons_of_pos (hkeep x hx), List.find?_cons_of_pos hx]
      rfl
    · rename_i hx
      obtain ⟨zs, hzs, rfl⟩ := Option.map_eq_some_iff.1 h
      rw [List.find?_cons_of_neg hx, List.find?_cons_of_neg hx]
      exact ih hzs

theorem exists_updateFirst (test : α → Bool) (change : α → α) (hx : x ∈ xs) (htest : test x = true) : ∃ ys, updateFirst test change xs = some ys := by
  cases h : updateFirst test change xs with
  | none => exact absurd htest (by rw [updateFirst_eq_none.1 h x hx]; exact Bool.false_ne_true)
  | some ys => exact ⟨ys, rfl⟩

theorem exists_updateFirst_of_find? (change : α → α) (h : xs.find? test = some x) : ∃ ys, updateFirst test change xs = some ys :=
  exists_updateFirst test change (List.mem_of_find?_eq_some h) (List.find?_some h)

theorem growFirst_of_some (h : updateFirst test change xs = some ys) : growFirst test change new xs = ys := by
  induction xs generalizing ys with
  | nil => cases h
  | cons x xs ih =>
    rw [updateFirst] at h
    rw [growFirst]
    split at h
    · rename_i hx
      cases h
      rw [if_pos hx]
    · rename_i hx
      obtain ⟨zs, hzs, rfl⟩ := Option.map_eq_some_iff.1 h
      rw [if_neg hx, ih hzs]

theorem appendNew_again [DecidableEq α] (xs : List α) (a : α) : appendNew (appendNew xs a) a = appendNew xs a := by
  have hmem : a ∈ appendNew xs a := by
    unfold appendNew
    split
    · assumption
    · exact List.mem_append_right _ List.mem_cons_self
  exact if_pos hmem

end First

section Loops

/-- The condition holds before each round of a loop. -/
def Along (P : σ → α → Prop) (g : σ → α → σ) (s : σ) : List α → Prop
  | [] => True
  | x :: xs => P s x ∧ Along P g (g s x) xs

theorem bind_ok_iff {m : EStateM ε σ α} {f : α → EStateM ε σ β} :
    (m >>= f).run s = .ok b s'' ↔ ∃ a s', m.run s = .ok a s' ∧ (f a).run s' = .ok b s'' := by
  constructor
  · exact Effects.bind_ok_inv
  · rintro ⟨a, s', hm, hf⟩
    rw [Effects.run_bind_ok _ _ hm]
    exact hf

theorem modify_ok_iff {f : σ → σ} {s s' : σ} : (modify f : EStateM ε σ PUnit).run s = .ok u s' ↔ s' = f s := by
  constructor
  · intro h
    cases h
    rfl
  · rintro rfl
    rfl

theorem forM_ok_iff {f : α → EStateM ε σ PUnit} {g : σ → α → σ} {P : σ → α → Prop}
    (h : ∀ s x s', (f x).run s = .ok () s' ↔ P s x ∧ s' = g s x) {xs : List α} :
    (forM xs f).run s = .ok () s' ↔ Along P g s xs ∧ s' = xs.foldl g s := by
  induction xs generalizing s with
  | nil =>
    constructor
    · intro hrun
      cases hrun
      exact ⟨trivial, rfl⟩
    · rintro ⟨-, rfl⟩
      rfl
  | cons x xs ih =>
    rw [List.forM_cons]
    constructor
    · intro hrun
      obtain ⟨_, s₁, hx, hxs⟩ := bind_ok_iff.1 hrun
      obtain ⟨hP, rfl⟩ := (h _ _ _).1 hx
      obtain ⟨halong, rfl⟩ := ih.1 hxs
      exact ⟨⟨hP, halong⟩, rfl⟩
    · rintro ⟨⟨hP, halong⟩, rfl⟩
      exact bind_ok_iff.2 ⟨_, _, (h _ _ _).2 ⟨hP, rfl⟩, ih.2 ⟨halong, rfl⟩⟩

/-- What each round keeps a loop keeps that goes through. -/
theorem forM_ok_keeps {f : α → EStateM ε σ PUnit} {I : σ → Prop} {xs : List α}
    (h : ∀ x ∈ xs, ∀ s s', I s → (f x).run s = .ok () s' → I s') (hs : I s) (hrun : (forM xs f).run s = .ok u s') : I s' := by
  induction xs generalizing s with
  | nil =>
    cases hrun
    exact hs
  | cons x xs ih =>
    rw [List.forM_cons] at hrun
    obtain ⟨_, s₁, hx, hrun⟩ := bind_ok_iff.1 hrun
    exact ih (fun y hy => h y (List.mem_cons_of_mem x hy)) (h x List.mem_cons_self s s₁ hs hx) hrun

theorem along_and_iff {P Q : σ → α → Prop} {g : σ → α → σ} {xs : List α} :
    Along (fun s x => P s x ∧ Q s x) g s xs ↔ Along P g s xs ∧ Along Q g s xs := by
  induction xs generalizing s with
  | nil => exact ⟨fun _ => ⟨trivial, trivial⟩, fun _ => trivial⟩
  | cons x xs ih =>
    constructor
    · rintro ⟨⟨hP, hQ⟩, hrest⟩
      exact ⟨⟨hP, (ih.1 hrest).1⟩, hQ, (ih.1 hrest).2⟩
    · rintro ⟨⟨hP, hrestP⟩, hQ, hrestQ⟩
      exact ⟨⟨hP, hQ⟩, ih.2 ⟨hrestP, hrestQ⟩⟩

theorem along_forall_iff {Q : α → Prop} {g : σ → α → σ} {xs : List α} :
    Along (fun _ x => Q x) g s xs ↔ ∀ x ∈ xs, Q x := by
  induction xs generalizing s with
  | nil => exact ⟨fun _ x hx => absurd hx List.not_mem_nil, fun _ => trivial⟩
  | cons x xs ih =>
    rw [List.forall_mem_cons, ← ih]
    exact Iff.rfl

/-- A loop whose rounds refuse a key that is listed already goes through when no key repeats. -/
theorem along_nodup_iff {P : σ → α → Prop} {Q : α → Prop} {g : σ → α → σ} {listed : σ → List κ} {keys : α → List κ}
    (hg : ∀ s x, listed (g s x) = listed s ++ keys x)
    (hP : ∀ s x, (listed s).Nodup → (P s x ↔ (listed s ++ keys x).Nodup ∧ Q x))
    {xs : List α} (hs : (listed s).Nodup) :
    Along P g s xs ↔ (listed s ++ xs.flatMap keys).Nodup ∧ ∀ x ∈ xs, Q x := by
  induction xs generalizing s with
  | nil =>
    rw [List.flatMap_nil, List.append_nil]
    exact ⟨fun _ => ⟨hs, fun x hx => absurd hx List.not_mem_nil⟩, fun _ => trivial⟩
  | cons x xs ih =>
    rw [List.flatMap_cons, ← List.append_assoc, List.forall_mem_cons]
    constructor
    · rintro ⟨hx, hrest⟩
      obtain ⟨hnodup, hQ⟩ := (hP s x hs).1 hx
      have hrest' := (ih (hg s x ▸ hnodup)).1 hrest
      rw [hg] at hrest'
      exact ⟨hrest'.1, hQ, hrest'.2⟩
    · rintro ⟨hnodup, hQ, hrest⟩
      have hx := (List.nodup_append.1 hnodup).1
      refine ⟨(hP s x hs).2 ⟨hx, hQ⟩, (ih (hg s x ▸ hx)).2 ⟨?_, hrest⟩⟩
      rw [hg]
      exact hnodup

end Loops

end Nfvcl.ListUpdates
