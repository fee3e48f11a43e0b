import Mathlib.Data.List.Basic
import Std.Data.String.ToNat

namespace Nfvcl
set_option autoImplicit true

/-! ### Names in lower case -/

theorem toLower_toLower (c : Char) : c.toLower.toLower = c.toLower := by
  have hlow : ¬ (c.toLower.val ≥ 'A'.val ∧ c.toLower.val ≤ 'Z'.val) := by
    unfold Char.toLower
    split
    next h =>
      intro h'
      have hmin : 65 ≤ c.val.toNat := h.1
      have hmax : c.val.toNat ≤ 90 := h.2
      have hupper : (c.val + 32).toNat ≤ 90 := h'.2
      rw [UInt32.toNat_add, show (32 : UInt32).toNat = 32 from rfl] at hupper
      omega
    next h => exact h
  generalize c.toLower = d at hlow ⊢
  unfold Char.toLower
  rw [dif_neg hlow]

theorem toLower_of_isDigit {c : Char} (h : c.isDigit = true) : c.toLower = c := by
  have hlow : ¬ (c.val ≥ 'A'.val ∧ c.val ≤ 'Z'.val) := by
    rintro ⟨hmin, -⟩
    have hmin : 65 ≤ c.val.toNat := hmin
    have hmax : c.val.toNat ≤ 57 := (by simpa [Char.isDigit] using h : 48 ≤ c.val ∧ c.val ≤ 57).2
    omega
  unfold Char.toLower
  rw [dif_neg hlow]

theorem toList_toLower (s : String) : s.toLower.toList = s.toList.map Char.toLower :=
  String.toList_map

/-- A text in lower case. -/
def Lower (s : String) : Prop :=
  s.toLower = s

theorem lower_iff : Lower s ↔ ∀ c ∈ s.toList, c.toLower = c := by
  rw [Lower, ← String.toList_inj, toList_toLower]
  constructor
  · intro h c hc
    have hall : ∀ c ∈ s.toList, c.toLower = id c := List.map_inj_left.1 (h.trans (List.map_id _).symm)
    exact hall c hc
  · intro h
    exact (List.map_inj_left.2 h).trans (List.map_id _)

theorem Lower.toLower (s : String) : Lower s.toLower := by
  rw [lower_iff, toList_toLower]
  intro c hc
  obtain ⟨d, -, rfl⟩ := List.mem_map.1 hc
  exact toLower_toLower d

theorem Lower.append (hs : Lower s) (ht : Lower t) : Lower (s ++ t) := by
  rw [lower_iff] at hs ht ⊢
  intro c hc
  rw [String.toList_append, List.mem_append] at hc
  exact hc.elim (hs c) (ht c)

theorem Lower.repr (n : Nat) : Lower (toString n) := by
  rw [lower_iff]
  intro c hc
  apply toLower_of_isDigit
  exact Nat.isDigit_of_mem_toDigits (b := 10) (n := n) (by decide) (by decide) (by simpa using hc)

end Nfvcl
