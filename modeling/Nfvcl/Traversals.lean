import Mathlib.Data.List.Forall2
import Nfvcl.Effects

/-! ### Rewriting the parts of a value in place -/

namespace Nfvcl
set_option autoImplicit true

/-- The parts of a kind inside of a value: rewriting them where that may fail, where it may not, and
listing them. A value that fits has the shape the rewriting expects. -/
structure Traversal (ε α β : Type) where
  edit : (β → Except ε β) → α → Except ε α
  update : (β → β) → α → α
  foci : α → List β
  Fits : α → Prop
  edit_ok : ∀ {f h a}, Fits a → (∀ b ∈ foci a, f b = .ok (h b)) → edit f a = .ok (update h a)
  edit_update : ∀ {f : β → Except ε β} {m : β → β} {a a'}, edit f a = .ok a' → (∀ b b', f b = .ok b' → m b' = m b) →
    update m a' = update m a
  update_update : ∀ g h a, update g (update h a) = update (fun b => g (h b)) a
  update_congr : ∀ {g h a}, (∀ b ∈ foci a, g b = h b) → update g a = update h a
  update_id : ∀ a, update (fun b => b) a = a
  foci_update : ∀ h a, foci (update h a) = (foci a).map h
  fits_update : ∀ {a} h, Fits a → Fits (update h a)

namespace Traversal

/-- A rewriting that leaves each part as it is leaves the value. -/
theorem update_self (t : Traversal ε α β) (h : ∀ b ∈ t.foci a, g b = b) : t.update g a = a := by
  rw [t.update_congr (h := fun b => b) h, t.update_id]

/-- The parts of the parts. -/
def comp (t : Traversal ε α β) (u : Traversal ε β γ) : Traversal ε α γ where
  edit f := t.edit (u.edit f)
  update h := t.update (u.update h)
  foci a := (t.foci a).flatMap u.foci
  Fits a := t.Fits a ∧ ∀ b ∈ t.foci a, u.Fits b
  edit_ok := by
    intro f h a hfits hf
    apply t.edit_ok hfits.1
    intro b hb
    apply u.edit_ok (hfits.2 b hb)
    intro c hc
    exact hf c (List.mem_flatMap.2 ⟨b, hb, hc⟩)
  edit_update := by
    intro f m a a' hedit hm
    exact t.edit_update hedit (fun b b' hb => u.edit_update hb hm)
  update_update := by
    intro g h a
    rw [t.update_update]
    simp only [u.update_update]
  update_congr := by
    intro g h a hgh
    apply t.update_congr
    intro b hb
    apply u.update_congr
    intro c hc
    exact hgh c (List.mem_flatMap.2 ⟨b, hb, hc⟩)
  update_id := by
    intro a
    have hid : u.update (fun c => c) = fun b => b := funext u.update_id
    rw [hid, t.update_id]
  foci_update := by
    intro h a
    rw [t.foci_update, List.flatMap_map, List.map_flatMap]
    simp only [u.foci_update]
  fits_update := by
    intro a h hfits
    refine ⟨t.fits_update _ hfits.1, ?_⟩
    rw [t.foci_update]
    intro b' hb'
    obtain ⟨b, hb, rfl⟩ := List.mem_map.1 hb'
    exact u.fits_update h (hfits.2 b hb)

/-- Whether a test answers yes. -/
def holds : Except ε Bool → Bool
  | .ok b => b
  | .error _ => false

/-- The parts, for the values a test picks that rewriting does not change. -/
def onlyIf (guard : α → Except ε Bool) (t : Traversal ε α β) (hguard : ∀ h a, guard (t.update h a) = guard a) :
    Traversal ε α β where
  edit f a := do
    if ← guard a then t.edit f a else .ok a
  update h a := if holds (guard a) then t.update h a else a
  foci a := if holds (guard a) then t.foci a else []
  Fits a := guard a = .ok true ∧ t.Fits a ∨ guard a = .ok false
  edit_ok := by
    intro f h a hfits hf
    rcases hfits with ⟨htrue, hfits⟩ | hfalse
    · rw [htrue] at hf ⊢
      exact t.edit_ok hfits hf
    · rw [hfalse]
      rfl
  edit_update := by
    intro f m a a' hedit hm
    cases hg : guard a with
    | error e =>
      rw [hg] at hedit
      cases hedit
    | ok b =>
      rw [hg] at hedit
      cases b with
      | false =>
        cases hedit
        rw [hg]
      | true =>
        have hover := t.edit_update hedit hm
        have hsame : guard a' = .ok true := by
          rw [← hguard m a', hover, hguard, hg]
        rw [hsame]
        exact hover
  update_update := by
    intro g h a
    by_cases hg : holds (guard a) = true
    · simp only [if_pos hg, hguard, t.update_update]
    · simp only [if_neg hg]
  update_congr := by
    intro g h a hgh
    by_cases hg : holds (guard a) = true
    · rw [if_pos hg] at hgh
      rw [if_pos hg, if_pos hg, t.update_congr hgh]
    · rw [if_neg hg, if_neg hg]
  update_id := by
    intro a
    rw [t.update_id, ite_self]
  foci_update := by
    intro h a
    by_cases hg : holds (guard a) = true
    · simp only [if_pos hg, hguard, t.foci_update]
    · simp only [if_neg hg, List.map_nil]
  fits_update := by
    intro a h hfits
    rcases hfits with ⟨htrue, hfits⟩ | hfalse
    · left
      rw [htrue]
      exact ⟨(hguard h a).trans htrue, t.fits_update h hfits⟩
    · right
      rw [hfalse]
      exact hfalse

section Entries

variable {κ ν : Type} [DecidableEq κ]

def editAt (missing : ε) (key : κ) (f : ν → Except ε ν) : List (κ × ν) → Except ε (List (κ × ν))
  | [] => .error missing
  | (k, v) :: d =>
    if k = key then (f v).map (fun v' => (k, v') :: d)
    else (editAt missing key f d).map (fun d' => (k, v) :: d')

def overAt (key : κ) (h : ν → ν) : List (κ × ν) → List (κ × ν)
  | [] => []
  | (k, v) :: d => if k = key then (k, h v) :: d else (k, v) :: overAt key h d

theorem lookup_overAt (key : κ) (h : ν → ν) (d : List (κ × ν)) :
    (overAt key h d).lookup key = (d.lookup key).map h := by
  induction d with
  | nil => rfl
  | cons e d ih =>
    obtain ⟨k, v⟩ := e
    unfold overAt
    by_cases hk : k = key
    · rw [if_pos hk, List.lookup_cons, List.lookup_cons, beq_iff_eq.2 hk.symm]
      rfl
    · have hne : (key == k) = false := beq_eq_false_iff_ne.2 (fun he => hk he.symm)
      rw [if_neg hk, List.lookup_cons, List.lookup_cons, hne]
      exact ih

theorem lookup_overAt_ne {key other : κ} (hne : other ≠ key) (h : ν → ν) (d : List (κ × ν)) :
    (overAt key h d).lookup other = d.lookup other := by
  induction d with
  | nil => rfl
  | cons e d ih =>
    obtain ⟨k, v⟩ := e
    unfold overAt
    by_cases hk : k = key
    · have hother : (other == k) = false := beq_eq_false_iff_ne.2 (fun he => hne (he.trans hk))
      rw [if_pos hk, List.lookup_cons, List.lookup_cons, hother]
    · rw [if_neg hk, List.lookup_cons, List.lookup_cons, ih]

/-- The value of a key, which has to be there. -/
def atKey (missing : ε) (key : κ) : Traversal ε (List (κ × ν)) ν where
  edit := editAt missing key
  update := overAt key
  foci d := (d.lookup key).toList
  Fits d := (d.lookup key).isSome
  edit_ok := by
    intro f h d hfits hf
    induction d with
    | nil => cases hfits
    | cons e d ih =>
      obtain ⟨k, v⟩ := e
      unfold editAt overAt
      rw [List.lookup_cons] at hfits hf
      by_cases hk : k = key
      · rw [if_pos hk, if_pos hk]
        rw [beq_iff_eq.2 hk.symm] at hf
        rw [hf v (List.mem_singleton.2 rfl)]
        rfl
      · have hne : (key == k) = false := beq_eq_false_iff_ne.2 (fun he => hk he.symm)
        rw [hne] at hfits hf
        rw [if_neg hk, if_neg hk, ih hfits hf]
        rfl
  edit_update := by
    intro f m d d' hedit hm
    induction d generalizing d' with
    | nil => cases hedit
    | cons e d ih =>
      obtain ⟨k, v⟩ := e
      unfold editAt at hedit
      by_cases hk : k = key
      · rw [if_pos hk] at hedit
        cases hv : f v with
        | error e =>
          rw [hv] at hedit
          cases hedit
        | ok v' =>
          rw [hv] at hedit
          cases hedit
          unfold overAt
          rw [if_pos hk, if_pos hk, hm v v' hv]
      · rw [if_neg hk] at hedit
        cases hrest : editAt missing key f d with
        | error e =>
          rw [hrest] at hedit
          cases hedit
        | ok rest =>
          rw [hrest] at hedit
          cases hedit
          unfold overAt
          rw [if_neg hk, if_neg hk, ih hrest]
  update_update := by
    intro g h d
    induction d with
    | nil => rfl
    | cons e d ih =>
      obtain ⟨k, v⟩ := e
      by_cases hk : k = key
      · simp only [overAt, if_pos hk]
      · simp only [overAt, if_neg hk, ih]
  update_congr := by
    intro g h d hgh
    induction d with
    | nil => rfl
    | cons e d ih =>
      obtain ⟨k, v⟩ := e
      rw [List.lookup_cons] at hgh
      unfold overAt
      by_cases hk : k = key
      · rw [beq_iff_eq.2 hk.symm] at hgh
        rw [if_pos hk, if_pos hk, hgh v (List.mem_singleton.2 rfl)]
      · have hne : (key == k) = false := beq_eq_false_iff_ne.2 (fun he => hk he.symm)
        rw [hne] at hgh
        rw [if_neg hk, if_neg hk, ih hgh]
  update_id := by
    intro d
    induction d with
    | nil => rfl
    | cons e d ih =>
      obtain ⟨k, v⟩ := e
      by_cases hk : k = key
      · simp only [overAt, if_pos hk]
      · simp only [overAt, if_neg hk, ih]
  foci_update := by
    intro h d
    rw [lookup_overAt]
    cases d.lookup key with
    | none => rfl
    | some v => rfl
  fits_update := by
    intro d h hfits
    rw [lookup_overAt, Option.isSome_map]
    exact hfits

def editValues (f : ν → Except ε ν) (d : List (κ × ν)) : Except ε (List (κ × ν)) :=
  d.mapM (fun e => (f e.2).map (fun v => (e.1, v)))

/-- All values of a dictionary. -/
def allValues : Traversal ε (List (κ × ν)) ν where
  edit := editValues
  update h d := d.map (fun e => (e.1, h e.2))
  foci d := d.map Prod.snd
  Fits _ := True
  edit_ok := by
    intro f h d _ hf
    rw [editValues, Effects.mapM_ok_iff, List.forall₂_map_right_iff, List.forall₂_same]
    intro e he
    rw [hf e.2 (List.mem_map_of_mem he)]
    rfl
  edit_update := by
    intro f m d d' hedit hm
    rw [editValues, Effects.mapM_ok_iff] at hedit
    induction hedit with
    | nil => rfl
    | cons he _ ih =>
      rw [List.map_cons, List.map_cons, ih]
      rename_i e e' _ _ _
      cases hv : f e.2 with
      | error err =>
        rw [hv] at he
        cases he
      | ok v =>
        rw [hv] at he
        cases he
        rw [hm e.2 v hv]
  update_update := by
    intro g h d
    rw [List.map_map]
    rfl
  update_congr := by
    intro g h d hgh
    apply List.map_congr_left
    intro e he
    rw [hgh e.2 (List.mem_map_of_mem he)]
  update_id := by
    intro d
    exact List.map_id d
  foci_update := by
    intro h d
    rw [List.map_map, List.map_map]
    rfl
  fits_update := by
    intro d h _
    trivial

end Entries

end Traversal
end Nfvcl
