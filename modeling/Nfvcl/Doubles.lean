import Mathlib.Algebra.Order.Ring.Nat
import Mathlib.Tactic.Linarith
import Mathlib.Tactic.Ring

/-! ### Non-negative doubles, as multiples of 2^-1074 -/

namespace Nfvcl.Doubles
set_option autoImplicit true

/-- The natural number nearest to `n / d`, the even one of two. -/
def roundHalfEven (n d : Nat) : Nat :=
  let q := n / d
  let r := n % d
  if 2 * r < d then q else if d < 2 * r then q + 1 else q + q % 2

/-- The distance of neighbouring doubles from `m` units on. -/
def step (m : Nat) : Nat :=
  2 ^ (m.log2 - 52)

/-- How many units make 1. -/
def unitsPerOne : Nat :=
  2 ^ 1074

/-- Everything from 2^1024 on. -/
def infinity : Nat :=
  2 ^ 2098

/-- The double nearest to `n / d`, in units of 2^-1074. -/
def nearest (n d : Nat) : Nat :=
  let scaled := n * unitsPerOne
  let gap := step (scaled / d)
  min (gap * roundHalfEven scaled (d * gap)) infinity

/-- A number is below the rounded quotient exactly if the half above it is. -/
theorem lt_roundHalfEven (hd : 0 < d) :
    k < roundHalfEven n d ↔ (2 * k + 1) * d < 2 * n ∨ (2 * k + 1) * d = 2 * n ∧ k % 2 = 1 := by
  have hdiv := Nat.div_add_mod n d
  have hmod := Nat.mod_lt n hd
  unfold roundHalfEven
  generalize n / d = q at hdiv ⊢
  generalize n % d = r at hdiv hmod ⊢
  subst hdiv
  have hcases : k + 1 ≤ q ∨ k = q ∨ q + 1 ≤ k := by omega
  rcases hcases with hlt | rfl | hgt
  · have hmul : (k + 1) * d ≤ q * d := Nat.mul_le_mul_right d hlt
    have hleft : (2 * k + 1) * d < 2 * (d * q + r) := by
      rw [Nat.mul_comm d q]
      nlinarith
    constructor
    · intro _
      exact .inl hleft
    · intro _
      dsimp only
      split
      · exact hlt
      · split <;> omega
  · have hsplit : (2 * k + 1) * d = 2 * (d * k) + d := by ring
    rw [hsplit, Nat.mul_add]
    dsimp only
    split
    · omega
    · split <;> omega
  · have hmul : (q + 1) * d ≤ k * d := Nat.mul_le_mul_right d hgt
    have hright : 2 * (d * q + r) < (2 * k + 1) * d := by
      rw [Nat.mul_comm d q]
      nlinarith
    constructor
    · intro h
      dsimp only at h
      split at h
      · omega
      · split at h <;> omega
    · intro h
      omega

theorem roundHalfEven_mono (hd : 0 < d) (hd' : 0 < d') (h : n * d' ≤ n' * d) :
    roundHalfEven n d ≤ roundHalfEven n' d' := by
  by_contra hlt
  have hlt := Nat.lt_of_not_le hlt
  -- the half above the smaller value is below both quotients
  have hleft := (lt_roundHalfEven hd).1 hlt
  have hright : ¬ ((2 * roundHalfEven n' d' + 1) * d' < 2 * n' ∨
      (2 * roundHalfEven n' d' + 1) * d' = 2 * n' ∧ roundHalfEven n' d' % 2 = 1) :=
    fun hk => Nat.lt_irrefl _ ((lt_roundHalfEven hd').2 hk)
  generalize roundHalfEven n' d' = k at hleft hright
  have hscaled : 2 * (n * d') ≤ 2 * (n' * d) := Nat.mul_le_mul_left 2 h
  rcases hleft with hstrict | ⟨heq, hodd⟩
  · apply hright
    left
    have hmul : (2 * k + 1) * d * d' < 2 * n * d' := Nat.mul_lt_mul_of_pos_right hstrict hd'
    apply Nat.lt_of_mul_lt_mul_right (a := d)
    calc (2 * k + 1) * d' * d = (2 * k + 1) * d * d' := by ring
      _ < 2 * n * d' := hmul
      _ = 2 * (n * d') := by ring
      _ ≤ 2 * (n' * d) := hscaled
      _ = 2 * n' * d := by ring
  · apply hright
    have hmul : (2 * k + 1) * d' * d ≤ 2 * n' * d := by
      calc (2 * k + 1) * d' * d = (2 * k + 1) * d * d' := by ring
        _ = 2 * n * d' := by rw [heq]
        _ = 2 * (n * d') := by ring
        _ ≤ 2 * (n' * d) := hscaled
        _ = 2 * n' * d := by ring
    rcases Nat.lt_or_eq_of_le (Nat.le_of_mul_le_mul_right hmul hd) with hlt' | heq'
    · exact .inl hlt'
    · exact .inr ⟨heq', hodd⟩

theorem step_pos (m : Nat) : 0 < step m :=
  Nat.two_pow_pos _

/-- A quotient below a multiple of the gap is rounded to at most that multiple. -/
theorem rounded_le (hd : 0 < d) (hg : 0 < gap) (h : n ≤ gap * j * d) : gap * roundHalfEven n (d * gap) ≤ gap * j := by
  apply Nat.mul_le_mul_left
  by_contra hlt
  rcases (lt_roundHalfEven (Nat.mul_pos hd hg)).1 (Nat.lt_of_not_le hlt) with hk | ⟨hk, -⟩
  · nlinarith [Nat.mul_pos hd hg]
  · nlinarith [Nat.mul_pos hd hg]

theorem le_rounded (hd : 0 < d) (hg : 0 < gap) (h : gap * j * d ≤ n) : gap * j ≤ gap * roundHalfEven n (d * gap) := by
  apply Nat.mul_le_mul_left
  cases j with
  | zero => exact Nat.zero_le _
  | succ k =>
    apply (lt_roundHalfEven (Nat.mul_pos hd hg)).2
    left
    nlinarith [Nat.mul_pos hd hg]

/-- A rounded quotient stays below the next power of two. -/
theorem rounded_le_binade (hd : 0 < d) :
    step (n / d) * roundHalfEven n (d * step (n / d)) ≤ 2 ^ ((n / d).log2 + 1) := by
  obtain ⟨j, hj⟩ : step (n / d) ∣ 2 ^ ((n / d).log2 + 1) := by
    apply Nat.pow_dvd_pow
    omega
  rw [hj]
  apply rounded_le hd (step_pos _)
  rw [← hj]
  have hlt : n / d < 2 ^ ((n / d).log2 + 1) := Nat.lt_log2_self
  exact (Nat.lt_mul_of_div_lt hlt hd).le

/-- It does not fall below the power of two it starts from. -/
theorem binade_le_rounded (hd : 0 < d) (hne : n / d ≠ 0) :
    2 ^ (n / d).log2 ≤ step (n / d) * roundHalfEven n (d * step (n / d)) := by
  obtain ⟨j, hj⟩ : step (n / d) ∣ 2 ^ (n / d).log2 := Nat.pow_dvd_pow 2 (Nat.sub_le _ _)
  rw [hj]
  apply le_rounded hd (step_pos _)
  rw [← hj]
  exact (Nat.mul_le_mul_right d (Nat.log2_self_le hne)).trans (Nat.div_mul_le_self n d)

theorem log2_mono {m m' : Nat} (h : m ≤ m') : m.log2 ≤ m'.log2 := by
  by_cases hm : m = 0
  · rw [hm, Nat.log2_zero]
    exact Nat.zero_le _
  · have hm' : m' ≠ 0 := by omega
    exact (Nat.le_log2 hm').2 ((Nat.log2_self_le hm).trans h)

/-- Rounding keeps the order of quotients. -/
theorem nearest_mono (hd : 0 < d) (hd' : 0 < d') (h : n * d' ≤ n' * d) : nearest n d ≤ nearest n' d' := by
  unfold nearest
  apply min_le_min_right
  have hscaled : n * unitsPerOne * d' ≤ n' * unitsPerOne * d := by
    calc n * unitsPerOne * d' = n * d' * unitsPerOne := by ring
      _ ≤ n' * d * unitsPerOne := Nat.mul_le_mul_right _ h
      _ = n' * unitsPerOne * d := by ring
  generalize n * unitsPerOne = a at hscaled ⊢
  generalize n' * unitsPerOne = b at hscaled ⊢
  have hfloor : a / d ≤ b / d' := by
    rw [Nat.le_div_iff_mul_le hd']
    apply Nat.le_of_mul_le_mul_right _ hd
    calc a / d * d' * d = a / d * d * d' := by ring
      _ ≤ a * d' := Nat.mul_le_mul_right _ (Nat.div_mul_le_self a d)
      _ ≤ b * d := hscaled
  rcases Nat.lt_or_eq_of_le (log2_mono hfloor) with hlt | heq
  · have hne : b / d' ≠ 0 := by
      intro hzero
      rw [hzero, Nat.log2_zero] at hlt
      exact Nat.not_lt_zero _ hlt
    calc step (a / d) * roundHalfEven a (d * step (a / d)) ≤ 2 ^ ((a / d).log2 + 1) := rounded_le_binade hd
      _ ≤ 2 ^ (b / d').log2 := Nat.pow_le_pow_right (by decide) hlt
      _ ≤ step (b / d') * roundHalfEven b (d' * step (b / d')) := binade_le_rounded hd' hne
  · have hstep : step (a / d) = step (b / d') := by
      unfold step
      rw [heq]
    rw [hstep]
    apply Nat.mul_le_mul_left
    apply roundHalfEven_mono (Nat.mul_pos hd (step_pos _)) (Nat.mul_pos hd' (step_pos _))
    calc a * (d' * step (b / d')) = a * d' * step (b / d') := by ring
      _ ≤ b * d * step (b / d') := Nat.mul_le_mul_right _ hscaled
      _ = b * (d * step (b / d')) := by ring

end Nfvcl.Doubles
