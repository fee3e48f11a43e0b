import Mathlib.Algebra.Order.Ring.Nat
import Mathlib.Data.List.Basic
import Mathlib.Data.List.Induction

namespace Nfvcl.Numerals
set_option autoImplicit true

/-- The number that digits write in a base, the most significant digit first. -/
def value (b : Nat) (digits : List Nat) : Nat :=
  digits.foldl (fun n d => b * n + d) 0

/-- A text filled up with zeros on the left. -/
def padded (width : Nat) (text : List Char) : List Char :=
  List.replicate (width - text.length) '0' ++ text

theorem value_append (b : Nat) (digits : List Nat) (d : Nat) : value b (digits ++ [d]) = b * value b digits + d := by
  unfold value
  rw [List.foldl_append]
  rfl

/-- The digits after others count below the power of the base they leave room for. -/
theorem value_append_digits (b : Nat) (digits more : List Nat) :
    value b (digits ++ more) = value b digits * b ^ more.length + value b more := by
  induction more using List.reverseRecOn with
  | nil => rw [List.append_nil, List.length_nil, Nat.pow_zero, Nat.mul_one]; rfl
  | append_singleton more d ih =>
    rw [← List.append_assoc, value_append, ih, value_append, List.length_append, List.length_singleton, Nat.pow_succ',
      Nat.mul_add, ← Nat.mul_assoc, Nat.mul_comm b, Nat.mul_assoc, Nat.add_assoc]

theorem eq_zero_of_value (hb : 0 < b) {digits : List Nat} (h : value b digits = 0) : digits = List.replicate digits.length 0 := by
  induction digits using List.reverseRecOn with
  | nil => rfl
  | append_singleton digits d ih =>
    rw [value_append] at h
    have hd : d = 0 := by omega
    have hrest : value b digits = 0 := by
      rcases Nat.mul_eq_zero.1 (Nat.eq_zero_of_add_eq_zero_right h) with hb' | hrest
      · omega
      · exact hrest
    rw [List.length_append, List.length_singleton, List.replicate_succ', ← ih hrest, hd]

/-- The numeral of the number that digits write, filled up to as many places, is those digits. -/
theorem padded_toDigits (hb : 1 < b) {digits : List Nat} (hdigits : ∀ d ∈ digits, d < b) (hne : digits ≠ []) :
    padded digits.length (Nat.toDigits b (value b digits)) = digits.map Nat.digitChar := by
  induction digits using List.reverseRecOn with
  | nil => exact absurd rfl hne
  | append_singleton digits d ih =>
    have hd : d < b := hdigits d (List.mem_append_right _ List.mem_cons_self)
    rw [value_append, List.length_append, List.length_singleton, List.map_append, List.map_singleton]
    rcases Nat.eq_zero_or_pos (value b digits) with hzero | hpos
    · have hzeros := eq_zero_of_value (Nat.lt_of_succ_lt hb) hzero
      rw [hzero, Nat.mul_zero, Nat.zero_add, Nat.toDigits_of_lt_base hd, hzeros, List.map_replicate, List.length_replicate]
      rfl
    · have hrest : digits ≠ [] := by
        rintro rfl
        exact Nat.lt_irrefl 0 hpos
      have hpadded := ih (fun d hd => hdigits d (List.mem_append_left _ hd)) hrest
      rw [← Nat.toDigits_append_toDigits hb hpos hd, Nat.toDigits_of_lt_base hd, ← hpadded]
      unfold padded
      rw [List.length_append, List.length_singleton, Nat.add_sub_add_right, List.append_assoc]

theorem value_lt {b : Nat} {digits : List Nat} (hdigits : ∀ d ∈ digits, d < b) : value b digits < b ^ digits.length := by
  induction digits using List.reverseRecOn with
  | nil => exact Nat.one_pos
  | append_singleton digits d ih =>
    have hrest := ih fun d hd => hdigits d (List.mem_append_left _ hd)
    have hd : d < b := hdigits d (List.mem_append_right _ List.mem_cons_self)
    rw [value_append, List.length_append, List.length_singleton, Nat.pow_succ, Nat.mul_comm _ b]
    calc b * value b digits + d < b * value b digits + b := Nat.add_lt_add_left hd _
      _ = b * (value b digits + 1) := (Nat.mul_succ _ _).symm
      _ ≤ b * b ^ digits.length := Nat.mul_le_mul_left b hrest

theorem value_mono (h : b ≤ b') (digits : List Nat) : value b digits ≤ value b' digits := by
  induction digits using List.reverseRecOn with
  | nil => exact Nat.le_refl 0
  | append_singleton digits d ih =>
    rw [value_append, value_append]
    exact Nat.add_le_add_right (Nat.mul_le_mul h ih) d

theorem mem_toDigits (hb : 1 < b) {n : Nat} : ∀ ch ∈ Nat.toDigits b n, ∃ d, ch = Nat.digitChar d := by
  induction n using Nat.strongRecOn with
  | ind n ih =>
    rw [Nat.toDigits_eq_if hb]
    split
    · intro ch hch
      exact ⟨n, List.mem_singleton.1 hch⟩
    · intro ch hch
      rcases List.mem_append.1 hch with hch | hch
      · exact ih _ (Nat.div_lt_self (by omega) hb) ch hch
      · exact ⟨n % b, List.mem_singleton.1 hch⟩

/-- The digits of a numeral write its number. -/
theorem value_toDigits (hb : 1 < b) {read : Char → Nat} (hread : ∀ d < b, read d.digitChar = d) (n : Nat) :
    value b ((Nat.toDigits b n).map read) = n := by
  induction n using Nat.strongRecOn with
  | ind n ih =>
    rw [Nat.toDigits_eq_if hb]
    split
    · rename_i hlt
      rw [List.map_singleton, hread n hlt]
      unfold value
      rw [List.foldl_cons, Nat.mul_zero, Nat.zero_add]
      rfl
    · rename_i hle
      have hmod : n % b < b := Nat.mod_lt _ (Nat.lt_of_succ_lt hb)
      rw [List.map_append, List.map_singleton, value_append, ih _ (Nat.div_lt_self (by omega) hb), hread _ hmod]
      exact Nat.div_add_mod n b

end Nfvcl.Numerals
