import Mathlib.Data.Set.Basic
import Nfvcl.NetworkModels

namespace Nfvcl
set_option autoImplicit true

/-- The addresses a reservation covers, both ends included. -/
def IPv4ReservedRange.addresses (r : IPv4ReservedRange) : Set IPv4Address :=
  {address | r.start.int ≤ address.int ∧ address.int ≤ r.stop.int}

def Shares (a b : IPv4ReservedRange) : Prop :=
  (a.addresses ∩ b.addresses).Nonempty

theorem Shares.symm (h : Shares a b) : Shares b a := by
  obtain ⟨address, ha, hb⟩ := h
  exact ⟨address, hb, ha⟩

theorem shares_iff (ha : a.start.int ≤ a.stop.int) (hb : b.start.int ≤ b.stop.int) :
    Shares a b ↔ a.start.int ≤ b.stop.int ∧ b.start.int ≤ a.stop.int := by
  constructor
  · intro h
    obtain ⟨address, ⟨hstart, hstop⟩, hstart', hstop'⟩ := h
    exact ⟨hstart.trans hstop', hstart'.trans hstop⟩
  · intro h
    -- the later of the two starts lies in both
    by_cases hle : a.start.int ≤ b.start.int
    · exact ⟨b.start, ⟨hle, h.2⟩, le_rfl, hb⟩
    · have hlt : b.start.int ≤ a.start.int := Nat.le_of_not_le hle
      exact ⟨a.start, ⟨le_rfl, ha⟩, hlt, h.1⟩

/-- `b` lies inside of `a`, with addresses of `a` left on both sides. -/
def Encloses (a b : IPv4ReservedRange) : Prop :=
  a.start.int < b.start.int ∧ b.stop.int < a.stop.int

theorem Encloses.shares (h : Encloses a b) (hb : b.start.int ≤ b.stop.int) : Shares a b := by
  obtain ⟨hstart, hstop⟩ := h
  exact ⟨b.start, ⟨hstart.le, hb.trans hstop.le⟩, le_rfl, hb⟩

theorem Encloses.asymm (h : Encloses a b) : ¬ Encloses b a := by
  intro hback
  exact absurd h.1 (Nat.lt_asymm hback.1)

/-- What the test sees: a shared address, unless the left range encloses the right one. -/
theorem overlaps_iff (ha : a.start.int ≤ a.stop.int) (hb : b.start.int ≤ b.stop.int) :
    a.overlaps b = true ↔ Shares a b ∧ ¬ Encloses a b := by
  rw [shares_iff ha hb]
  unfold IPv4ReservedRange.overlaps Encloses
  rw [decide_eq_true_iff]
  omega

theorem overlaps_shares_iff (ha : a.start.int ≤ a.stop.int) (hb : b.start.int ≤ b.stop.int) :
    (a.overlaps b = true ↔ Shares a b) ↔ ¬ Encloses a b := by
  rw [overlaps_iff ha hb]
  constructor
  · intro h hin
    exact (h.2 (hin.shares hb)).2 hin
  · intro hout
    exact ⟨fun h => h.1, fun h => ⟨h, hout⟩⟩

theorem overlaps_symm_iff (ha : a.start.int ≤ a.stop.int) (hb : b.start.int ≤ b.stop.int) :
    a.overlaps b = b.overlaps a ↔ ¬ Encloses a b ∧ ¬ Encloses b a := by
  rw [Bool.eq_iff_iff, overlaps_iff ha hb, overlaps_iff hb ha]
  constructor
  · intro h
    constructor
    · intro hin
      exact (h.2 ⟨(hin.shares hb).symm, hin.asymm⟩).2 hin
    · intro hin
      exact (h.1 ⟨(hin.shares ha).symm, hin.asymm⟩).2 hin
  · intro hout
    exact ⟨fun h => ⟨h.1.symm, hout.2⟩, fun h => ⟨h.1.symm, hout.1⟩⟩

/-- A reservation is refused for a shared address only, and recorded otherwise. -/
structure NetworkModel.Rejects (n : NetworkModel) (r : IPv4ReservedRange) : Prop where
  refused : (∃ x ∈ n.reservedRanges, Shares x r) →
    ∃ msg, (NetworkModel.addReservedRange r).run n = .error (.valueError msg) n
  appended : (¬ ∃ x ∈ n.reservedRanges, Shares x r) →
    (NetworkModel.addReservedRange r).run n =
      .ok () { n with reservedRanges := n.reservedRanges ++ [r] }

theorem NetworkModel.addReservedRange_refuses
    (h : ∃ x ∈ n.reservedRanges, x = r ∨ x.overlaps r = true) :
    ∃ msg, (NetworkModel.addReservedRange r).run n = .error (.valueError msg) n := by
  simp only [NetworkModel.addReservedRange, EStateM.run_bind, EStateM.run_get]
  rw [if_pos (by simpa [List.any_eq_true] using h)]
  exact ⟨_, rfl⟩

theorem NetworkModel.addReservedRange_appends
    (h : ¬ ∃ x ∈ n.reservedRanges, x = r ∨ x.overlaps r = true) :
    (NetworkModel.addReservedRange r).run n =
      .ok () { n with reservedRanges := n.reservedRanges ++ [r] } := by
  simp only [NetworkModel.addReservedRange, EStateM.run_bind, EStateM.run_get]
  rw [if_neg (by simpa [List.any_eq_true] using h)]
  rfl

theorem found_iff {ranges : List IPv4ReservedRange} (hn : ∀ x ∈ ranges, x.start.int ≤ x.stop.int) (hr : r.start.int ≤ r.stop.int) :
    (∃ x ∈ ranges, x = r ∨ x.overlaps r = true) ↔ ∃ x ∈ ranges, Shares x r ∧ ¬ Encloses x r := by
  constructor
  · intro h
    obtain ⟨x, hx, hfound⟩ := h
    refine ⟨x, hx, ?_⟩
    rcases hfound with rfl | hfound
    · exact ⟨⟨x.start, ⟨le_rfl, hr⟩, le_rfl, hr⟩, fun hin => hin.asymm hin⟩
    · exact (overlaps_iff (hn x hx) hr).1 hfound
  · intro h
    obtain ⟨x, hx, hfound⟩ := h
    exact ⟨x, hx, .inr ((overlaps_iff (hn x hx) hr).2 hfound)⟩

theorem NetworkModel.rejects_iff {n : NetworkModel}
    (hn : ∀ x ∈ n.reservedRanges, x.start.int ≤ x.stop.int) (hr : r.start.int ≤ r.stop.int) :
    n.Rejects r ↔
      ((∃ x ∈ n.reservedRanges, Encloses x r) → ∃ x ∈ n.reservedRanges, Shares x r ∧ ¬ Encloses x r) := by
  constructor
  · intro h hin
    obtain ⟨x, hx, hin⟩ := hin
    obtain ⟨msg, hrefused⟩ := h.refused ⟨x, hx, hin.shares hr⟩
    refine (found_iff hn hr).1 ?_
    by_contra hnone
    rw [NetworkModel.addReservedRange_appends hnone] at hrefused
    cases hrefused
  · intro h
    constructor
    · intro hshared
      obtain ⟨x, hx, hshared⟩ := hshared
      apply NetworkModel.addReservedRange_refuses
      rw [found_iff hn hr]
      by_cases hin : Encloses x r
      · exact h ⟨x, hx, hin⟩
      · exact ⟨x, hx, hshared, hin⟩
    · intro hapart
      apply NetworkModel.addReservedRange_appends
      rw [found_iff hn hr]
      intro hfound
      obtain ⟨x, hx, hshared, -⟩ := hfound
      exact hapart ⟨x, hx, hshared⟩

/-- The test misses exactly a right operand that lies inside of the left one. -/
theorem NetworkModel.overlap_rejected_iff (a b : IPv4ReservedRange) (ha : a.start.int ≤ a.stop.int)
    (hb : b.start.int ≤ b.stop.int) (n : NetworkModel) (r : IPv4ReservedRange)
    (hn : ∀ x ∈ n.reservedRanges, x.start.int ≤ x.stop.int) (hr : r.start.int ≤ r.stop.int) :
    ((a.overlaps b = true ↔ Shares a b) ↔ ¬ Encloses a b) ∧
      (a.overlaps b = b.overlaps a ↔ ¬ Encloses a b ∧ ¬ Encloses b a) ∧
      (n.Rejects r ↔ ((∃ x ∈ n.reservedRanges, Encloses x r) →
        ∃ x ∈ n.reservedRanges, Shares x r ∧ ¬ Encloses x r)) :=
  ⟨overlaps_shares_iff ha hb, overlaps_symm_iff ha hb, n.rejects_iff hn hr⟩

/-- 10.0.`i`.`j`. -/
def subnetHost (i j : Fin 256) : IPv4Address :=
  ⟨167772160 + 256 * i.val + j.val, by omega⟩

theorem subnet_bits : 2 ^ (32 - 16) ∣ 167772160 := by decide
theorem subnet_bound : 167772160 < 2 ^ 32 := by decide
theorem subnet_prefixlen : 16 ≤ 32 := by decide

def wideRange : IPv4ReservedRange := ⟨⟨subnetHost 3 0, subnetHost 3 255⟩, "blueA"⟩

def narrowRange : IPv4ReservedRange := ⟨⟨subnetHost 3 100, subnetHost 3 110⟩, "blueB"⟩

def apartRange : IPv4ReservedRange := ⟨⟨subnetHost 4 0, subnetHost 4 255⟩, "blueB"⟩

def subnet : NetworkModel where
  name := "subnet"
  type := .vlan
  cidr := ⟨167772160, 16, subnet_prefixlen, subnet_bits, subnet_bound⟩
  reservedRanges := [wideRange]

theorem NetworkModel.overlap_rejected_subnet :
    (apartRange.overlaps wideRange = true ↔ Shares apartRange wideRange) ∧
      apartRange.overlaps wideRange = wideRange.overlaps apartRange ∧ subnet.Rejects apartRange := by
  have hwide : wideRange.start.int ≤ wideRange.stop.int := by decide
  have hapart : apartRange.start.int ≤ apartRange.stop.int := by decide
  have hstored : ∀ x ∈ subnet.reservedRanges, x.start.int ≤ x.stop.int := by
    intro x hx
    cases List.mem_singleton.1 hx
    exact hwide
  obtain ⟨hequal, hsymm, hrejects⟩ :=
    NetworkModel.overlap_rejected_iff apartRange wideRange hapart hwide subnet apartRange hstored hapart
  have hout : ¬ Encloses apartRange wideRange := by
    unfold Encloses
    decide
  have hout' : ¬ Encloses wideRange apartRange := by
    unfold Encloses
    decide
  refine ⟨hequal.2 hout, hsymm.2 ⟨hout, hout'⟩, hrejects.2 ?_⟩
  rintro ⟨x, hx, hin⟩
  cases List.mem_singleton.1 hx
  exact absurd hin hout'

/-- A reservation of addresses another blueprint holds goes through. -/
theorem NetworkModel.overlap_rejected_fails :
    ¬ (wideRange.overlaps narrowRange = true ↔ Shares wideRange narrowRange) ∧
      wideRange.overlaps narrowRange ≠ narrowRange.overlaps wideRange ∧ ¬ subnet.Rejects narrowRange := by
  have hshared : Shares wideRange narrowRange := by
    refine ⟨subnetHost 3 100, ?_, ?_⟩
    · exact ⟨by decide, by decide⟩
    · exact ⟨by decide, by decide⟩
  refine ⟨?_, by decide, ?_⟩
  · intro h
    exact absurd (h.2 hshared) (by decide)
  · intro h
    obtain ⟨msg, hrefused⟩ := h.refused ⟨wideRange, List.mem_singleton.2 rfl, hshared⟩
    cases hrefused

end Nfvcl
