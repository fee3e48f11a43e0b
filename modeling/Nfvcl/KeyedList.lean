import Mathlib.Data.List.Basic
import Mathlib.Data.List.Perm.Basic
import Mathlib.Data.List.Nodup
import Mathlib.Logic.Function.Basic

namespace Nfvcl.KeyedList
set_option autoImplicit true

variable {α κ : Type} [DecidableEq κ] (key : α → κ)

/-- Position of the first element with the given key. -/
def findIndex (xs : List α) (k : κ) : Option Nat :=
  xs.findIdx? (fun a => decide (key a = k))

/-- The finite map a list denotes: the first element with a key is the value at that key. -/
def toMap (xs : List α) (k : κ) : Option α :=
  xs.find? (fun a => decide (key a = k))

/-- A list represents a finite map faithfully when no key occurs twice. -/
def Unique (xs : List α) : Prop :=
  (xs.map key).Nodup

variable {key}

instance (xs : List α) : Decidable (Unique key xs) :=
  inferInstanceAs (Decidable (xs.map key).Nodup)

@[simp] theorem toMap_nil (k : κ) : toMap key [] k = none := rfl

theorem toMap_cons (x : α) (xs : List α) (k : κ) :
    toMap key (x :: xs) k = if key x = k then some x else toMap key xs k := by
  by_cases h : key x = k
  · simp only [toMap, h, decide_true, List.find?_cons_of_pos, if_true]
  · simp only [toMap, List.find?_cons, decide_eq_false h, if_neg h]

theorem toMap_eq_none : toMap key xs k = none ↔ ∀ a ∈ xs, key a ≠ k := by
  simp only [toMap, List.find?_eq_none, decide_eq_true_eq, ne_eq]

theorem toMap_some_mem (h : toMap key xs k = some a) : a ∈ xs :=
  List.mem_of_find?_eq_some h

theorem toMap_some_key (h : toMap key xs k = some a) : key a = k := by
  simpa only [decide_eq_true_eq] using List.find?_some h

theorem toMap_isSome : (toMap key xs k).isSome ↔ ∃ a ∈ xs, key a = k := by
  simp only [toMap, List.find?_isSome, decide_eq_true_eq]

/-- With unique keys a member is the value at its own key. -/
theorem Unique.toMap_mem (h : Unique key xs) (ha : a ∈ xs) : toMap key xs (key a) = some a := by
  induction xs with
  | nil => cases ha
  | cons x xs ih =>
    obtain ⟨hx, hxs⟩ := List.nodup_cons.1 h
    rw [toMap_cons]
    rcases List.mem_cons.1 ha with rfl | ha
    · rw [if_pos rfl]
    · have hne : key x ≠ key a := fun he => hx (he ▸ List.mem_map_of_mem ha)
      rw [if_neg hne, ih hxs ha]

theorem findIndex_cons (x : α) (xs : List α) (k : κ) :
    findIndex key (x :: xs) k =
      if key x = k then some 0 else (findIndex key xs k).map (· + 1) := by
  by_cases h : key x = k
  · simp only [findIndex, List.findIdx?_cons, h, decide_true, if_true]
  · simp only [findIndex, List.findIdx?_cons, decide_eq_false h, if_neg h,
      Bool.false_eq_true, if_false]

theorem findIndex_eq_none : findIndex key xs k = none ↔ toMap key xs k = none := by
  rw [toMap_eq_none]
  simp only [findIndex, List.findIdx?_eq_none_iff, decide_eq_false_iff_not, ne_eq]

/-- The element at the position found is the value of the denoted map. -/
theorem getElem?_findIndex (h : findIndex key xs k = some i) : xs[i]? = toMap key xs k := by
  rw [toMap, List.find?_eq_bind_findIdx?_getElem?]
  have h' : List.findIdx? (fun a => decide (key a = k)) xs = some i := h
  rw [h']
  rfl

theorem findIndex_some (h : findIndex key xs k = some i) :
    ∃ a, xs[i]? = some a ∧ toMap key xs k = some a ∧ key a = k := by
  cases hm : toMap key xs k with
  | none =>
    rw [findIndex_eq_none.2 hm] at h
    cases h
  | some a => exact ⟨a, (getElem?_findIndex h).trans hm, rfl, toMap_some_key hm⟩

theorem findIndex_of_toMap (h : toMap key xs k = some a) :
    ∃ i, findIndex key xs k = some i ∧ xs[i]? = some a := by
  cases hi : findIndex key xs k with
  | none =>
    rw [findIndex_eq_none.1 hi] at h
    cases h
  | some i => exact ⟨i, rfl, (getElem?_findIndex hi).trans h⟩

/-- The first element with the key of another is not after it. -/
theorem findIndex_le (h : xs[j]? = some a) : ∃ i, findIndex key xs (key a) = some i ∧ i ≤ j := by
  induction xs generalizing j with
  | nil => cases h
  | cons x xs ih =>
    rw [findIndex_cons]
    by_cases hx : key x = key a
    · exact ⟨0, if_pos hx, Nat.zero_le j⟩
    · cases j with
      | zero =>
        cases h
        exact absurd rfl hx
      | succ j =>
        obtain ⟨i, hi, hle⟩ := ih h
        exact ⟨i + 1, by rw [if_neg hx, hi]; rfl, Nat.succ_le_succ hle⟩

/-- Appending an element with a fresh key adds exactly one binding. -/
theorem toMap_append (h : toMap key xs (key a) = none) :
    toMap key (xs ++ [a]) = Function.update (toMap key xs) (key a) (some a) := by
  funext k
  rw [toMap, List.find?_append, Function.update_apply]
  by_cases hk : k = key a
  · subst hk
    have h' : List.find? (fun b => decide (key b = key a)) xs = none := h
    rw [h', if_pos rfl]
    simp only [List.find?_singleton, decide_true, if_true, Option.none_or]
  · have hne : ¬ key a = k := fun he => hk he.symm
    rw [if_neg hk]
    simp only [List.find?_singleton, hne, decide_false, Bool.false_eq_true, if_false, Option.or_none]
    rfl

/-- Overwriting the first element with a key rebinds exactly that key. -/
theorem toMap_set (h : findIndex key xs (key a) = some i) :
    toMap key (xs.set i a) = Function.update (toMap key xs) (key a) (some a) := by
  induction xs generalizing i with
  | nil => cases h
  | cons x xs ih =>
    rw [findIndex_cons] at h
    funext k
    rw [Function.update_apply]
    by_cases hx : key x = key a
    · rw [if_pos hx] at h
      cases h
      simp only [List.set_cons_zero, toMap_cons]
      by_cases hk : k = key a
      · rw [if_pos hk, if_pos hk.symm]
      · have h₁ : ¬ key a = k := fun he => hk he.symm
        have h₂ : ¬ key x = k := fun he => h₁ (hx.symm.trans he)
        rw [if_neg h₁, if_neg hk, if_neg h₂]
    · rw [if_neg hx] at h
      obtain ⟨j, hj, rfl⟩ := Option.map_eq_some_iff.1 h
      simp only [List.set_cons_succ, toMap_cons, ih hj, Function.update_apply]
      by_cases hk : k = key a
      · have h₂ : ¬ key x = k := fun he => hx (he.trans hk)
        rw [if_neg h₂, if_pos hk, if_pos hk]
      · rw [if_neg hk, if_neg hk]

/-- Erasing the first element with a key unbinds exactly that key. -/
theorem toMap_eraseIdx (hu : Unique key xs) (h : findIndex key xs k = some i) :
    toMap key (xs.eraseIdx i) = Function.update (toMap key xs) k none := by
  induction xs generalizing i with
  | nil => cases h
  | cons x xs ih =>
    obtain ⟨hx, hxs⟩ := List.nodup_cons.1 hu
    rw [findIndex_cons] at h
    funext l
    rw [Function.update_apply]
    by_cases hk : key x = k
    · rw [if_pos hk] at h
      cases h
      simp only [List.eraseIdx_cons_zero, toMap_cons]
      by_cases hl : l = k
      · rw [if_pos hl, toMap_eq_none]
        intro a ha he
        exact hx (List.mem_map.2 ⟨a, ha, he.trans (hl.trans hk.symm)⟩)
      · have hxl : ¬ key x = l := fun he => hl (he.symm.trans hk)
        rw [if_neg hl, if_neg hxl]
    · rw [if_neg hk] at h
      obtain ⟨j, hj, rfl⟩ := Option.map_eq_some_iff.1 h
      simp only [List.eraseIdx_cons_succ, toMap_cons, ih hxs hj, Function.update_apply]
      by_cases hl : l = k
      · have hxl : ¬ key x = l := fun he => hk (he.trans hl)
        rw [if_neg hxl, if_pos hl, if_pos hl]
      · rw [if_neg hl, if_neg hl]

theorem Unique.append (hu : Unique key xs) (h : toMap key xs (key a) = none) :
    Unique key (xs ++ [a]) := by
  unfold Unique at hu ⊢
  rw [List.map_append, List.nodup_append]
  refine ⟨hu, List.nodup_singleton _, ?_⟩
  intro k hk l hl
  obtain ⟨b, hb, rfl⟩ := List.mem_map.1 hk
  rw [List.map_singleton, List.mem_singleton] at hl
  rw [hl]
  exact toMap_eq_none.1 h b hb

omit [DecidableEq κ] in
theorem Unique.eraseIdx (hu : Unique key xs) (i : Nat) : Unique key (xs.eraseIdx i) :=
  List.Nodup.sublist ((List.eraseIdx_sublist xs i).map key) hu

omit [DecidableEq κ] in
theorem Unique.filter (hu : Unique key xs) (p : α → Bool) : Unique key (xs.filter p) :=
  List.Nodup.sublist (List.filter_sublist.map key) hu

/-- A position depends only on the list of keys. -/
theorem findIndex_congr (h : xs.map key = ys.map key) (k : κ) : findIndex key xs k = findIndex key ys k := by
  have hmap (zs : List α) : findIndex key zs k = (zs.map key).findIdx? (fun l => decide (l = k)) := by
    rw [List.findIdx?_map]
    rfl
  rw [hmap, hmap, h]

/-- Overwriting an element by one with the same key leaves the key list alone. -/
theorem map_set_key (h : findIndex key xs (key a) = some i) : (xs.set i a).map key = xs.map key := by
  obtain ⟨b, hb, _, hk⟩ := findIndex_some h
  rw [List.map_set]
  apply List.ext_getElem?
  intro j
  rw [List.getElem?_set]
  split
  · next hij =>
    subst hij
    rw [List.getElem?_map, hb, Option.map_some, hk]
    simp only [List.length_map]
    rw [if_pos]
    exact (List.getElem?_eq_some_iff.1 hb).1
  · rfl

theorem Unique.set (hu : Unique key xs) (h : findIndex key xs (key a) = some i) :
    Unique key (xs.set i a) := by
  unfold Unique
  rw [map_set_key h]
  exact hu

/-- Remove the first element with a key, if there is one. -/
def erase (key : α → κ) (xs : List α) (k : κ) : List α :=
  match findIndex key xs k with
  | some i => xs.eraseIdx i
  | none => xs

/-- Overwrite the first element with the key of `a`, if there is one. -/
def replace (key : α → κ) (xs : List α) (a : α) : List α :=
  match findIndex key xs (key a) with
  | some i => xs.set i a
  | none => xs

theorem toMap_erase (hu : Unique key xs) (k : κ) :
    toMap key (erase key xs k) = Function.update (toMap key xs) k none := by
  unfold erase
  cases h : findIndex key xs k with
  | some i => exact toMap_eraseIdx hu h
  | none =>
    have hk := findIndex_eq_none.1 h
    rw [← hk, Function.update_eq_self]

theorem toMap_replace (h : (toMap key xs (key a)).isSome) :
    toMap key (replace key xs a) = Function.update (toMap key xs) (key a) (some a) := by
  obtain ⟨b, hb⟩ := Option.isSome_iff_exists.1 h
  obtain ⟨i, hi, _⟩ := findIndex_of_toMap hb
  rw [replace, hi]
  exact toMap_set hi

theorem Unique.erase (hu : Unique key xs) (k : κ) : Unique key (KeyedList.erase key xs k) := by
  unfold KeyedList.erase
  split
  · exact hu.eraseIdx _
  · exact hu

theorem map_replace_key (xs : List α) (a : α) : (replace key xs a).map key = xs.map key := by
  unfold replace
  split
  · next h => exact map_set_key h
  · rfl

theorem Unique.replace (hu : Unique key xs) (a : α) : Unique key (KeyedList.replace key xs a) := by
  unfold Unique
  rw [map_replace_key]
  exact hu

/-! ### Lookups of other keys -/

theorem toMap_append_of_ne (h : key a ≠ k) : toMap key (xs ++ [a]) k = toMap key xs k := by
  rw [toMap, List.find?_append, List.find?_cons_of_neg (by simpa using h), List.find?_nil,
    Option.or_none]
  rfl

theorem toMap_eraseIdx_of_ne {xs : List α} (hi : xs[i]? = some a) (h : key a ≠ k) :
    toMap key (xs.eraseIdx i) k = toMap key xs k := by
  induction xs generalizing i with
  | nil => cases hi
  | cons x xs ih =>
    cases i with
    | zero =>
      cases hi
      rw [List.eraseIdx_cons_zero, toMap_cons, if_neg h]
    | succ i => rw [List.eraseIdx_cons_succ, toMap_cons, toMap_cons, ih hi]

theorem toMap_erase_of_ne (h : l ≠ k) : toMap key (erase key xs l) k = toMap key xs k := by
  unfold erase
  cases hi : findIndex key xs l with
  | none => rfl
  | some i =>
    obtain ⟨a, ha, _, hk⟩ := findIndex_some hi
    exact toMap_eraseIdx_of_ne ha (by rw [hk]; exact h)

theorem toMap_set_of_ne (hi : findIndex key xs (key a) = some i) (h : key a ≠ k) :
    toMap key (xs.set i a) k = toMap key xs k := by
  rw [toMap_set hi, Function.update_of_ne (fun he => h he.symm)]

theorem toMap_replace_of_ne (h : key a ≠ k) : toMap key (replace key xs a) k = toMap key xs k := by
  unfold replace
  cases hi : findIndex key xs (key a) with
  | none => rfl
  | some i => exact toMap_set_of_ne hi h

/-- The element found, and the list without it. -/
theorem perm_cons_erase (h : toMap key xs k = some a) : xs.Perm (a :: erase key xs k) := by
  obtain ⟨i, hi, hget⟩ := findIndex_of_toMap h
  obtain ⟨hlt, rfl⟩ := List.getElem?_eq_some_iff.1 hget
  rw [erase, hi]
  exact (List.getElem_cons_eraseIdx_perm hlt).symm

theorem replace_perm (h : (toMap key xs (key a)).isSome) : (replace key xs a).Perm (a :: erase key xs (key a)) := by
  obtain ⟨b, hb⟩ := Option.isSome_iff_exists.1 h
  obtain ⟨i, hi, hget⟩ := findIndex_of_toMap hb
  obtain ⟨hlt, -⟩ := List.getElem?_eq_some_iff.1 hget
  rw [erase, replace, hi]
  exact List.set_perm_cons_eraseIdx hlt a

theorem replace_cons (x : α) (xs : List α) (a : α) :
    replace key (x :: xs) a = if key x = key a then a :: xs else x :: replace key xs a := by
  unfold replace
  rw [findIndex_cons]
  by_cases hx : key x = key a
  · rw [if_pos hx, if_pos hx]
    rfl
  · rw [if_neg hx, if_neg hx]
    cases findIndex key xs (key a) <;> rfl

/-- Overwriting the first element with a key. -/
theorem replace_middle (hnew : toMap key xs (key a) = none) (hkey : key b = key a) :
    replace key (xs ++ b :: ys) a = xs ++ a :: ys := by
  induction xs with
  | nil => rw [List.nil_append, replace_cons, if_pos hkey, List.nil_append]
  | cons x xs ih =>
    rw [toMap_cons] at hnew
    by_cases hx : key x = key a
    · rw [if_pos hx] at hnew
      cases hnew
    · rw [if_neg hx] at hnew
      rw [List.cons_append, replace_cons, if_neg hx, ih hnew, List.cons_append]

/-- Overwriting the element just appended. -/
theorem replace_append (hnew : toMap key xs (key b) = none) (hkey : key a = key b) :
    replace key (xs ++ [a]) b = xs ++ [b] :=
  replace_middle hnew hkey

/-- Overwriting an element that a filter leaves out with another such. -/
theorem filter_replace_of_neg {q : α → Bool} (h : toMap key xs (key a) = some b) (hb : q b = false) (ha : q a = false) :
    (replace key xs a).filter q = xs.filter q := by
  induction xs with
  | nil => cases h
  | cons x xs ih =>
    rw [toMap_cons] at h
    rw [replace_cons]
    by_cases hx : key x = key a
    · rw [if_pos hx] at h ⊢
      cases h
      rw [List.filter_cons_of_neg (by simp [ha]), List.filter_cons_of_neg (by simp [hb])]
    · rw [if_neg hx] at h ⊢
      rw [List.filter_cons, List.filter_cons, ih h]

/-- Overwriting the only element that a filter keeps. -/
theorem filter_replace_of_pos {q : α → Bool} (h : toMap key xs (key a) = some b) (ha : q a = true) (hxs : xs.filter q = [b]) :
    (replace key xs a).filter q = [a] := by
  induction xs with
  | nil => cases h
  | cons x xs ih =>
    rw [toMap_cons] at h
    rw [replace_cons]
    by_cases hx : key x = key a
    · rw [if_pos hx] at h ⊢
      cases h
      have hb : q b = true := (List.mem_filter.1 (hxs ▸ List.mem_cons_self)).2
      rw [List.filter_cons_of_pos hb] at hxs
      rw [List.filter_cons_of_pos ha, (List.cons.inj hxs).2]
    · rw [if_neg hx] at h ⊢
      cases hq : q x with
      | true =>
        rw [List.filter_cons_of_pos hq] at hxs
        obtain ⟨rfl, -⟩ := List.cons.inj hxs
        exact absurd (toMap_some_key h) hx
      | false =>
        rw [List.filter_cons_of_neg (by simp [hq])] at hxs ⊢
        exact ih h hxs

theorem erase_cons (x : α) (xs : List α) (k : κ) : erase key (x :: xs) k = if key x = k then xs else x :: erase key xs k := by
  unfold erase
  rw [findIndex_cons]
  by_cases hx : key x = k
  · rw [if_pos hx, if_pos hx]
    rfl
  · rw [if_neg hx, if_neg hx]
    cases findIndex key xs k <;> rfl

theorem Unique.erase_eq_filter (h : Unique key xs) (k : κ) : KeyedList.erase key xs k = xs.filter (fun x => decide (key x ≠ k)) := by
  induction xs with
  | nil => rfl
  | cons x xs ih =>
    obtain ⟨hx, hrest⟩ := List.nodup_cons.1 h
    rw [erase_cons]
    by_cases he : key x = k
    · have hkeep : ∀ y ∈ xs, key y ≠ k := fun y hy hyk => hx (List.mem_map.2 ⟨y, hy, hyk.trans he.symm⟩)
      rw [if_pos he, List.filter_cons_of_neg (by simp [he])]
      exact (List.filter_eq_self.2 fun y hy => by simpa using hkeep y hy).symm
    · rw [if_neg he, List.filter_cons_of_pos (by simpa using he), ih hrest]

/-- The elements after one of them is overwritten. -/
theorem Unique.mem_replace_iff (h : Unique key xs) (hb : b ∈ xs) (hkey : key a = key b) :
    c ∈ KeyedList.replace key xs a ↔ c = a ∨ c ∈ xs ∧ c ≠ b := by
  have hfound : toMap key xs (key a) = some b := by
    rw [hkey]
    exact h.toMap_mem hb
  have hother : ∀ x ∈ xs, key x ≠ key b ↔ x ≠ b := by
    intro x hx
    constructor
    · intro hne heq
      exact hne (congrArg key heq)
    · intro hne heq
      have hmap := h.toMap_mem hx
      rw [heq, h.toMap_mem hb] at hmap
      exact hne (Option.some.inj hmap).symm
  rw [(replace_perm (by rw [hfound]; rfl)).mem_iff, List.mem_cons, h.erase_eq_filter, List.mem_filter, decide_eq_true_iff, hkey]
  exact or_congr_right (and_congr_right (fun hc => hother c hc))

/-- An element of a list with unique keys is removed as its key is. -/
theorem Unique.list_erase_eq_filter [DecidableEq α] (h : Unique key xs) (ha : a ∈ xs) :
    xs.erase a = xs.filter (fun x => decide (key x ≠ key a)) := by
  induction xs with
  | nil => cases ha
  | cons x xs ih =>
    obtain ⟨hx, hrest⟩ := List.nodup_cons.1 h
    rcases List.mem_cons.1 ha with rfl | ha
    · have hkeep : ∀ y ∈ xs, key y ≠ key a := fun y hy he => hx (List.mem_map.2 ⟨y, hy, he⟩)
      rw [List.erase_cons_head, List.filter_cons_of_neg (by simp)]
      exact (List.filter_eq_self.2 fun y hy => by simpa using hkeep y hy).symm
    · have hne : key x ≠ key a := fun he => hx (List.mem_map.2 ⟨a, ha, he.symm⟩)
      rw [List.erase_cons_tail (by rw [beq_iff_eq]; exact fun he => hne (congrArg key he)),
        List.filter_cons_of_pos (by simpa using hne), ih hrest ha]

theorem erase_sublist (key : α → κ) (xs : List α) (k : κ) : (erase key xs k).Sublist xs := by
  unfold erase
  cases findIndex key xs k with
  | none => exact .refl xs
  | some i => exact List.eraseIdx_sublist xs i

/-- Overwriting an element by one that looks the same through `f`. -/
theorem toMap_set_map {xs : List α} {f : α → β} (hi : xs[i]? = some a) (hkey : key a' = key a)
    (hf : f a' = f a) : (toMap key (xs.set i a') k).map f = (toMap key xs k).map f := by
  induction xs generalizing i with
  | nil => cases hi
  | cons x xs ih =>
    cases i with
    | zero =>
      cases hi
      rw [List.set_cons_zero, toMap_cons, toMap_cons, hkey]
      split
      · rw [Option.map_some, Option.map_some, hf]
      · rfl
    | succ i =>
      rw [List.set_cons_succ, toMap_cons, toMap_cons]
      split
      · rfl
      · exact ih hi

end Nfvcl.KeyedList
