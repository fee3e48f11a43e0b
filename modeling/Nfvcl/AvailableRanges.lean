import Nfvcl.RangeReservation
import Nfvcl.SpanComplement

namespace Nfvcl
set_option autoImplicit true
open FreeSpans Effects

/-- A range with both ends in the network, in the right order. -/
def IPv4Pool.Within (cidr : IPv4Network) (r : IPv4Pool) : Prop :=
  r.start.int ≤ r.stop.int ∧ cidr.contains r.start = true ∧ cidr.contains r.stop = true

/-- There is an address below the range and one above it. -/
def IPv4Pool.Bordered (r : IPv4Pool) : Prop :=
  0 < r.start.int ∧ r.stop.int + 1 < 2 ^ 32

instance (cidr : IPv4Network) (r : IPv4Pool) : Decidable (r.Within cidr) :=
  inferInstanceAs (Decidable (r.start.int ≤ r.stop.int ∧ cidr.contains r.start = true ∧ cidr.contains r.stop = true))

instance (r : IPv4Pool) : Decidable r.Bordered :=
  inferInstanceAs (Decidable (0 < r.start.int ∧ r.stop.int + 1 < 2 ^ 32))

section Raises

theorem IPv4Address.add_total {a : IPv4Address} :
    (∃ b, a.add n = .ok b) ↔ 0 ≤ (a.int : Int) + n ∧ (a.int : Int) + n < 2 ^ 32 := by
  unfold IPv4Address.add
  simp only
  split
  · next h => exact ⟨fun _ => h, fun _ => ⟨_, rfl⟩⟩
  · next h =>
    refine ⟨fun hb => ?_, fun hb => absurd hb h⟩
    obtain ⟨b, hb⟩ := hb
    split at hb <;> cases hb

theorem IPv4Address.add_error {a : IPv4Address} (h : a.add n = .error e) : e.isValueError = true := by
  unfold IPv4Address.add at h
  simp only at h
  split at h
  · cases h
  · split at h <;> (cases h; rfl)

theorem cutAvailable_error (h : cutAvailable r visited rest = .error e) : e.isValueError = true := by
  induction rest generalizing visited with
  | nil => cases h
  | cons ava rest ih =>
    rw [cutAvailable] at h
    split at h
    · cases he : r.start.add (-1) with
      | error e' =>
        rw [he] at h
        cases h
        exact IPv4Address.add_error he
      | ok newEnd =>
        cases hs : r.stop.add 1 with
        | error e' =>
          rw [he, hs] at h
          cases h
          exact IPv4Address.add_error hs
        | ok newStart =>
          rw [he, hs] at h
          cases h
    · exact ih h

theorem reserveAvailable_error (h : reserveAvailable cidr available r = .error e) : e.isValueError = true := by
  unfold reserveAvailable at h
  by_cases h₁ : (r.stop.int : Int) - r.start.int < 0
  · rw [if_pos h₁] at h
    cases h
    rfl
  · by_cases h₂ : ¬ checkRangeInCidr r.start r.stop cidr
    · rw [if_neg h₁, if_pos h₂] at h
      cases h
      rfl
    · rw [if_neg h₁, if_neg h₂] at h
      exact cutAvailable_error h

theorem foldlM_reserveAvailable_error {rs : List IPv4Pool}
    (h : rs.foldlM (reserveAvailable cidr) available = .error e) : e.isValueError = true := by
  induction rs generalizing available with
  | nil => cases h
  | cons r rs ih =>
    rw [List.foldlM_cons] at h
    cases hstep : reserveAvailable cidr available r with
    | error e' =>
      rw [hstep] at h
      cases h
      exact reserveAvailable_error hstep
    | ok next =>
      rw [hstep] at h
      exact ih h

end Raises

section Total

variable {cidr : IPv4Network}

/-- Reservations starting at the top or above it leave the available ranges alone, the others need
the addresses around them. -/
theorem cutAvailable_total (hpieces : ∀ p ∈ pieces, p.stop.int ≤ r.start.int) :
    (∃ available, cutAvailable r [] (pieces ++ [tail]) = .ok available) ↔
      (r.start.int < tail.stop.int → r.Bordered) := by
  have hstart : (∃ b, r.start.add (-1) = .ok b) ↔ 0 < r.start.int := by
    have := r.start.bounded
    rw [IPv4Address.add_total]
    omega
  have hstop : (∃ b, r.stop.add 1 = .ok b) ↔ r.stop.int + 1 < 2 ^ 32 := by
    rw [IPv4Address.add_total]
    omega
  rw [cutAvailable_skip (fun p hp => by have := hpieces p hp; omega), cutAvailable]
  by_cases hlt : r.start.int < tail.stop.int
  · rw [if_pos hlt, IPv4Pool.Bordered, ← hstart, ← hstop]
    cases he : r.start.add (-1) with
    | error e =>
      constructor
      · rintro ⟨l, hl⟩
        cases hl
      · intro h
        obtain ⟨⟨b, hb⟩, -⟩ := h hlt
        cases hb
    | ok newEnd =>
      cases hs : r.stop.add 1 with
      | error e =>
        constructor
        · rintro ⟨l, hl⟩
          cases hl
        · intro h
          obtain ⟨-, ⟨b, hb⟩⟩ := h hlt
          cases hb
      | ok newStart => exact ⟨fun _ _ => ⟨⟨_, rfl⟩, ⟨_, rfl⟩⟩, fun _ => ⟨_, rfl⟩⟩
  · rw [if_neg hlt]
    exact ⟨fun _ h => absurd h hlt, fun _ => ⟨_, rfl⟩⟩

theorem reserveAvailable_within (h : r.Within cidr) (available : List IPv4Pool) :
    reserveAvailable cidr available r = cutAvailable r [] available := by
  obtain ⟨hle, hstart, hstop⟩ := h
  have hin : checkRangeInCidr r.start r.stop cidr = true := by
    rw [checkRangeInCidr, hstart, hstop]
    rfl
  unfold reserveAvailable
  rw [if_neg (by omega), if_neg (not_not.2 hin)]

theorem foldlM_reserveAvailable_total {rs pieces : List IPv4Pool} {tail : IPv4Pool}
    (hsorted : rs.Pairwise startsBefore) (hwithin : ∀ r ∈ rs, r.Within cidr) (hpieces : Finished rs pieces) :
    (∃ available, rs.foldlM (reserveAvailable cidr) (pieces ++ [tail]) = .ok available) ↔
      ∀ r ∈ rs, r.start.int < tail.stop.int → r.Bordered := by
  induction rs generalizing pieces tail with
  | nil =>
    constructor
    · intro _ r hr
      cases hr
    · intro _
      exact ⟨_, rfl⟩
  | cons r rs ih =>
    have htotal : (∃ available, cutAvailable r [] (pieces ++ [tail]) = .ok available) ↔ _ :=
      cutAvailable_total (fun p hp => (hpieces p hp).2 r List.mem_cons_self)
    rw [← reserveAvailable_within (hwithin r List.mem_cons_self)] at htotal
    rw [List.foldlM_cons, List.forall_mem_cons, ← htotal]
    cases hstep : reserveAvailable cidr (pieces ++ [tail]) r with
    | error e =>
      constructor
      · rintro ⟨l, hl⟩
        cases hl
      · rintro ⟨⟨l, hl⟩, -⟩
        cases hl
    | ok next =>
      obtain ⟨pieces', tail', rfl, htail, hfin, -⟩ := reserveAvailable_next hsorted hpieces hstep
      have ih : (∃ available, List.foldlM (reserveAvailable cidr) (pieces' ++ [tail']) rs = .ok available) ↔ _ :=
        ih (List.pairwise_cons.1 hsorted).2 (fun s hs => hwithin s (List.mem_cons_of_mem r hs)) hfin
      rw [htail] at ih
      rw [← ih]
      exact ⟨fun h => ⟨⟨_, rfl⟩, h⟩, fun h => h.2⟩

theorem getAvailableNetworkIp_eq (hsize : 5 ≤ cidr.numAddresses) (rs : List IPv4Pool) :
    ∃ tail : IPv4Pool, tail.span = cidr.usable ∧ getAvailableNetworkIp cidr rs =
      (rs.insertionSort startsBefore).foldlM (reserveAvailable cidr) ([] ++ [tail]) := by
  obtain ⟨first, hfirst⟩ : ∃ a, cidr.getItem 4 = .ok a := by
    unfold IPv4Network.getItem
    rw [dif_pos (by omega)]
    exact ⟨_, rfl⟩
  obtain ⟨last, hlast⟩ : ∃ a, cidr.getItemFromEnd 2 = .ok a := by
    unfold IPv4Network.getItemFromEnd
    rw [dif_pos (by omega)]
    exact ⟨_, rfl⟩
  refine ⟨⟨first, last⟩, ?_, ?_⟩
  · simp only [IPv4Pool.span, IPv4Network.usable, IPv4Network.getItem_int hfirst,
      IPv4Network.getItemFromEnd_int hlast]
  · unfold getAvailableNetworkIp
    rw [hfirst, hlast]
    rfl

/-- The available ranges can be computed unless a reservation that matters has no address below or
above it. -/
theorem getAvailableNetworkIp_total (hsize : 5 ≤ cidr.numAddresses) (hwithin : ∀ r ∈ rs, r.Within cidr) :
    (∃ available, getAvailableNetworkIp cidr rs = .ok available) ↔
      ∀ r ∈ rs, r.start.int < cidr.usable.stop → r.Bordered := by
  obtain ⟨tail, htail, heq⟩ := getAvailableNetworkIp_eq hsize rs
  have hmem {r : IPv4Pool} : r ∈ rs.insertionSort startsBefore ↔ r ∈ rs :=
    List.mem_insertionSort startsBefore
  rw [heq, foldlM_reserveAvailable_total (List.pairwise_insertionSort startsBefore rs)
    (fun r hr => hwithin r (hmem.1 hr)) (by simp [Finished]), ← htail]
  simp only [hmem, IPv4Pool.span_stop]

theorem getAvailableNetworkIp_error (hsize : 5 ≤ cidr.numAddresses)
    (h : getAvailableNetworkIp cidr rs = .error e) : e.isValueError = true := by
  obtain ⟨tail, -, heq⟩ := getAvailableNetworkIp_eq hsize rs
  rw [heq] at h
  exact foldlM_reserveAvailable_error h

end Total

/-- The ranges that hold an address. -/
def nonempty (ranges : List IPv4Pool) : List IPv4Pool :=
  ranges.filter (fun p => decide (p.start.int ≤ p.stop.int))

/-- The computed ranges are the usable addresses outside the reserved ranges, each once. -/
def ComputesComplement (cidr : IPv4Network) (reserved : List IPv4Pool) : Prop :=
  ∃ available, getAvailableNetworkIp cidr reserved = .ok available ∧
    (nonempty available).Pairwise NoCommonAddress ∧
    ∀ a : IPv4Address, (∃ p ∈ nonempty available, p.span.Covers a.int) ↔
      cidr.usable.Covers a.int ∧ ∀ r ∈ reserved, ¬ r.span.Covers a.int

section Complement

variable {cidr : IPv4Network} {reserved available : List IPv4Pool}

theorem inOrder_valid (hwithin : ∀ r ∈ reserved, r.Within cidr) :
    ∀ s ∈ inOrder (reserved.map IPv4Pool.span), s.start ≤ s.stop := by
  intro s hs
  obtain ⟨r, hr, rfl⟩ := List.mem_map.1 (mem_inOrder.1 hs)
  exact (hwithin r hr).1

theorem available_disjoint (hwithin : ∀ r ∈ reserved, r.Within cidr)
    (h : getAvailableNetworkIp cidr reserved = .ok available) :
    (nonempty available).Pairwise NoCommonAddress := by
  have hgaps : (gaps cidr.usable.stop cidr.usable.start (inOrder (reserved.map IPv4Pool.span))).Pairwise Span.Apart :=
    gaps_apart (inOrder_sorted (reserved.map IPv4Pool.span)) (inOrder_valid hwithin)
  have hspans : available.map IPv4Pool.span = gaps cidr.usable.stop cidr.usable.start
      (inOrder (reserved.map IPv4Pool.span)) := getAvailableNetworkIp_spans h
  rw [← hspans, List.pairwise_map] at hgaps
  exact (hgaps.imp noCommonAddress_of_apart).sublist List.filter_sublist

/-- Over addresses or over all numbers, the complement is the same. -/
theorem available_complement_iff (h : getAvailableNetworkIp cidr reserved = .ok available) :
    (∀ a : IPv4Address, (∃ p ∈ nonempty available, p.span.Covers a.int) ↔
        cidr.usable.Covers a.int ∧ ∀ r ∈ reserved, ¬ r.span.Covers a.int) ↔
      ∀ x, (∃ g ∈ gaps cidr.usable.stop cidr.usable.start (inOrder (reserved.map IPv4Pool.span)), g.Covers x) ↔
        Free cidr.usable.start cidr.usable.stop (reserved.map IPv4Pool.span) x := by
  have hspans : available.map IPv4Pool.span = gaps cidr.usable.stop cidr.usable.start
      (inOrder (reserved.map IPv4Pool.span)) := getAvailableNetworkIp_spans h
  have hleft : ∀ x, (∃ p ∈ nonempty available, p.span.Covers x) ↔
      ∃ g ∈ gaps cidr.usable.stop cidr.usable.start (inOrder (reserved.map IPv4Pool.span)), g.Covers x := by
    intro x
    rw [← hspans]
    constructor
    · rintro ⟨p, hp, hc⟩
      exact ⟨p.span, List.mem_map_of_mem (List.mem_filter.1 hp).1, hc⟩
    · rintro ⟨g, hg, hc⟩
      obtain ⟨p, hp, rfl⟩ := List.mem_map.1 hg
      have hle : p.start.int ≤ p.stop.int := Nat.le_trans hc.1 hc.2
      exact ⟨p, List.mem_filter.2 ⟨hp, decide_eq_true hle⟩, hc⟩
  have hright : ∀ x, Free cidr.usable.start cidr.usable.stop (reserved.map IPv4Pool.span) x ↔
      cidr.usable.Covers x ∧ ∀ r ∈ reserved, ¬ r.span.Covers x := by
    intro x
    simp only [Free, Span.Covers, List.forall_mem_map, and_assoc]
  simp only [← hleft, hright]
  constructor
  · intro hall x
    by_cases hx : x < 2 ^ 32
    · exact hall ⟨x, hx⟩
    · constructor
      · rintro ⟨p, -, hc⟩
        have hle : x ≤ p.stop.int := hc.2
        have := p.stop.bounded
        omega
      · rintro ⟨hc, -⟩
        have hle : x ≤ cidr.networkAddress + (cidr.numAddresses - 2) := hc.2
        have hend := cidr.end_bounded
        have hpos := cidr.numAddresses_pos
        omega
  · exact fun hall a => hall a.int

theorem available_ranges_are_complement (cidr : IPv4Network) (reserved : List IPv4Pool)
    (hsize : 8 ≤ cidr.numAddresses) (hwithin : ∀ r ∈ reserved, r.Within cidr) :
    ComputesComplement cidr reserved ↔
      (∀ r ∈ reserved, r.start.int < cidr.usable.stop → r.Bordered) ∧
        Exact cidr.usable.start cidr.usable.stop (reserved.map IPv4Pool.span) := by
  have hvalid : ∀ s ∈ reserved.map IPv4Pool.span, s.start ≤ s.stop := by
    intro s hs
    obtain ⟨r, hr, rfl⟩ := List.mem_map.1 hs
    exact (hwithin r hr).1
  rw [← getAvailableNetworkIp_total (by omega) hwithin, ← gaps_complement_iff hvalid]
  constructor
  · rintro ⟨available, hok, -, hcover⟩
    exact ⟨⟨available, hok⟩, (available_complement_iff hok).1 hcover⟩
  · rintro ⟨⟨available, hok⟩, hcover⟩
    exact ⟨available, hok, available_disjoint hwithin hok, (available_complement_iff hok).2 hcover⟩

end Complement

/-- Two ranges of a network, the second right after the first. -/
theorem available_ranges_are_complement_lan :
    ComputesComplement (lan []).cidr [⟨lanHost 10 (by decide), lanHost 19 (by decide)⟩,
      ⟨lanHost 20 (by decide), lanHost 100 (by decide)⟩] :=
  (available_ranges_are_complement _ _ (by decide) (by decide)).2 ⟨by decide, by decide⟩

/-- The single address between two ranges is lost. -/
theorem available_ranges_are_complement_fails :
    ¬ ∀ (cidr : IPv4Network) (reserved : List IPv4Pool), 8 ≤ cidr.numAddresses →
      (∀ r ∈ reserved, r.Within cidr) → ComputesComplement cidr reserved := by
  intro h
  obtain ⟨available, hok, -, hcover⟩ := h (lan []).cidr
    [⟨lanHost 4 (by decide), lanHost 10 (by decide)⟩, ⟨lanHost 12 (by decide), lanHost 100 (by decide)⟩]
    (by decide) (by decide)
  have hrun : getAvailableNetworkIp (lan []).cidr
      [⟨lanHost 4 (by decide), lanHost 10 (by decide)⟩, ⟨lanHost 12 (by decide), lanHost 100 (by decide)⟩] =
      .ok [⟨lanHost 101 (by decide), lanHost 254 (by decide)⟩] := by decide +kernel
  rw [hrun] at hok
  cases hok
  obtain ⟨p, hp, hc⟩ := (hcover (lanHost 11 (by decide))).2 (by decide)
  revert hc
  revert p
  decide

section Allocation

variable {cidr : IPv4Network} {reserved : List IPv4Pool} {n : Nat}

theorem getRangeInCidr_error (hsize : 4 < cidr.numAddresses) (h : getRangeInCidr cidr reserved n = .error e) :
    e.isValueError = true := by
  unfold getRangeInCidr at h
  cases ha : getAvailableNetworkIp cidr reserved with
  | error e' =>
    rw [ha] at h
    cases h
    exact getAvailableNetworkIp_error hsize ha
  | ok available =>
    rw [ha, except_ok_bind] at h
    cases hfind : available.find? (fun ava => decide ((n : Int) ≤ getRangeLength ava.start ava.stop)) with
    | none =>
      rw [hfind] at h
      cases h
      rfl
    | some ava =>
      rw [hfind] at h
      cases hs : ava.start.add n with
      | error e' =>
        simp only [hs] at h
        cases h
        exact IPv4Address.add_error hs
      | ok stop =>
        simp only [hs] at h
        cases h

/-- A range is found exactly when the computed gaps hold one of more than `n` addresses. -/
theorem getRangeInCidr_total (hsize : 4 < cidr.numAddresses) (hwithin : ∀ r ∈ reserved, r.Within cidr) :
    (∃ p, getRangeInCidr cidr reserved n = .ok p) ↔
      (∀ r ∈ reserved, r.start.int < cidr.usable.stop → r.Bordered) ∧
        ∃ g ∈ gaps cidr.usable.stop cidr.usable.start (inOrder (reserved.map IPv4Pool.span)), g.start + n ≤ g.stop := by
  rw [← getAvailableNetworkIp_total hsize hwithin]
  constructor
  · rintro ⟨p, hp⟩
    obtain ⟨g, hg, hlen, -⟩ := getRangeInCidr_gap hp
    refine ⟨?_, g, hg, by omega⟩
    cases ha : getAvailableNetworkIp cidr reserved with
    | error e =>
      rw [getRangeInCidr, ha] at hp
      cases hp
    | ok available => exact ⟨available, rfl⟩
  · rintro ⟨⟨available, ha⟩, g, hg, hlen⟩
    have hspans : available.map IPv4Pool.span = gaps cidr.usable.stop cidr.usable.start
        (inOrder (reserved.map IPv4Pool.span)) := getAvailableNetworkIp_spans ha
    rw [← hspans] at hg
    obtain ⟨ava, hava, rfl⟩ := List.mem_map.1 hg
    change ava.start.int + n ≤ ava.stop.int at hlen
    cases hfind : available.find? (fun ava => decide ((n : Int) ≤ getRangeLength ava.start ava.stop)) with
    | none =>
      have hnone : ¬ (n : Int) ≤ (ava.stop.int : Int) - ava.start.int :=
        fun hle => List.find?_eq_none.1 hfind ava hava (decide_eq_true hle)
      omega
    | some first =>
      have htrue := List.find?_some hfind
      have hfirst : (n : Int) ≤ (first.stop.int : Int) - first.start.int := of_decide_eq_true htrue
      have hbound := first.stop.bounded
      obtain ⟨stop, hstop⟩ := IPv4Address.add_total.2
        (⟨by omega, by omega⟩ : 0 ≤ (first.start.int : Int) + n ∧ (first.start.int : Int) + n < 2 ^ 32)
      refine ⟨⟨first.start, stop⟩, ?_⟩
      rw [getRangeInCidr, ha, except_ok_bind, hfind]
      dsimp only
      rw [hstop]
      rfl

theorem getRangeInCidr_small (hsize : ¬ 4 < cidr.numAddresses) :
    getRangeInCidr cidr reserved n = .error (.indexError "address out of range") := by
  unfold getRangeInCidr getAvailableNetworkIp IPv4Network.getItem
  rw [dif_neg hsize]
  rfl

/-- What is asked for: a free range of `n` addresses where there is one, and a `ValueError` where
there is none. -/
def AllocatesExactly (cidr : IPv4Network) (reserved : List IPv4Pool) (n : Nat) : Prop :=
  (FreeRun cidr.usable.start cidr.usable.stop (reserved.map IPv4Pool.span) n →
    ∃ p, getRangeInCidr cidr reserved n = .ok p ∧ p.stop.int + 1 = p.start.int + n ∧
      ∀ r ∈ reserved, NoCommonAddress p r) ∧
  (¬ FreeRun cidr.usable.start cidr.usable.stop (reserved.map IPv4Pool.span) n →
    ∃ e, getRangeInCidr cidr reserved n = .error e ∧ e.isValueError = true)

theorem apart_of_noCommonAddress {a b : IPv4Pool} (ha : a.start.int ≤ a.stop.int) (hb : b.start.int ≤ b.stop.int)
    (h : NoCommonAddress a b) : a.span.Apart b.span := by
  by_contra hnot
  simp only [Span.Apart, IPv4Pool.span_start, IPv4Pool.span_stop, not_or, Nat.not_lt] at hnot
  by_cases hle : a.start.int ≤ b.start.int
  · exact h b.start.int ⟨⟨hle, hnot.1⟩, ⟨Nat.le_refl _, hb⟩⟩
  · exact h a.start.int ⟨⟨Nat.le_refl _, ha⟩, ⟨by change b.start.int ≤ a.start.int; omega, hnot.2⟩⟩

/-- The range returned has one address too many, so only refusals can be right. -/
theorem allocatesExactly_iff :
    AllocatesExactly cidr reserved n ↔
      4 < cidr.numAddresses ∧ ¬ FreeRun cidr.usable.start cidr.usable.stop (reserved.map IPv4Pool.span) n ∧
        ¬ ∃ p, getRangeInCidr cidr reserved n = .ok p := by
  constructor
  · rintro ⟨hfree, hfull⟩
    have hnot : ¬ FreeRun cidr.usable.start cidr.usable.stop (reserved.map IPv4Pool.span) n := by
      intro hrun
      obtain ⟨p, hp, hlen, -⟩ := hfree hrun
      obtain ⟨g, -, -, hstart, hstop⟩ := getRangeInCidr_gap hp
      omega
    obtain ⟨e, he, hval⟩ := hfull hnot
    refine ⟨?_, hnot, ?_⟩
    · by_contra hsize
      rw [getRangeInCidr_small hsize] at he
      cases he
      cases hval
    · rintro ⟨p, hp⟩
      rw [he] at hp
      cases hp
  · rintro ⟨hsize, hnot, hraise⟩
    refine ⟨fun h => absurd h hnot, fun _ => ?_⟩
    cases h : getRangeInCidr cidr reserved n with
    | ok p => exact absurd ⟨p, h⟩ hraise
    | error e => exact ⟨e, rfl, getRangeInCidr_error hsize h⟩

end Allocation

theorem Topology.setReservedIpRange_returns {services : Services} {s s' : Topology} {r : IPv4ReservedRange}
    (h : (Topology.setReservedIpRange services p netName owner).run s = .ok r s') : r.toIPv4Pool = p := by
  unfold Topology.setReservedIpRange at h
  obtain ⟨i, s₁, -, h⟩ := bind_ok_inv h
  obtain ⟨external, s₂, -, h⟩ := bind_ok_inv h
  rw [run_ite] at h
  split at h
  · cases h
  · obtain ⟨_, s₃, -, h⟩ := bind_ok_inv h
    obtain ⟨_, s₄, -, h⟩ := bind_ok_inv h
    obtain ⟨_, s₅, -, h⟩ := bind_ok_inv h
    cases h
    rfl

theorem Topology.reserveRange_length {services : Services} {s s' : Topology} {r : IPv4ReservedRange}
    (h : (Topology.reserveRange services netName rangeLength owner vimName).run s = .ok r s') :
    (r.stop.int : Int) = r.start.int + rangeLength := by
  unfold Topology.reserveRange at h
  obtain ⟨net, s₁, -, h⟩ := bind_ok_inv h
  cases hp : getRangeInCidr net.cidr
    (net.allocationPool ++ net.reservedRanges.map IPv4ReservedRange.toIPv4Pool) rangeLength with
  | error e =>
    simp only [hp] at h
    cases h
  | ok p =>
    simp only [hp] at h
    obtain ⟨g, -, -, hstart, hstop⟩ := getRangeInCidr_gap hp
    rw [Topology.setReservedIpRange_returns h]
    omega

theorem Topology.reserveRangeLbPool_length {services : Services} {s s' : Topology} {r : IPv4ReservedRange}
    (h : (Topology.reserveRangeLbPool services lbPool owner).run s = .ok r s') :
    ∃ length, lbPool.rangeLength = some length ∧ (r.stop.int : Int) = r.start.int + length := by
  unfold Topology.reserveRangeLbPool at h
  cases hlen : lbPool.rangeLength with
  | some length =>
    rw [hlen] at h
    exact ⟨length, rfl, Topology.reserveRange_length h⟩
  | none =>
    rw [hlen] at h
    obtain ⟨net, s₁, -, h⟩ := bind_ok_inv h
    simp only at h
    split at h <;> cases h

/-- The range returned by `reserve_range_lb_pool` has one address more than its length. -/
theorem range_in_cidr_allocates (cidr : IPv4Network) (reserved : List IPv4Pool) (n : Nat) (hn : 1 ≤ n)
    (hwithin : ∀ r ∈ reserved, r.Within cidr) (hdisjoint : reserved.Pairwise NoCommonAddress) :
    (AllocatesExactly cidr reserved n ↔
      4 < cidr.numAddresses ∧ ¬ FreeRun cidr.usable.start cidr.usable.stop (reserved.map IPv4Pool.span) n ∧
        ((∃ r ∈ reserved, r.start.int < cidr.usable.stop ∧ ¬ r.Bordered) ∨
          ¬ OpensEarly cidr.usable.start cidr.usable.stop (reserved.map IPv4Pool.span) n)) ∧
      ∀ (services : Services) (lbPool : LBPool) (owner : String) (s s' : Topology) (r : IPv4ReservedRange),
        (Topology.reserveRangeLbPool services lbPool owner).run s = .ok r s' →
          ∃ length, lbPool.rangeLength = some length ∧ (r.stop.int : Int) + 1 = r.start.int + (length + 1) := by
  constructor
  · have hvalid : ∀ s ∈ reserved.map IPv4Pool.span, s.start ≤ s.stop := by
      intro s hs
      obtain ⟨r, hr, rfl⟩ := List.mem_map.1 hs
      exact (hwithin r hr).1
    have hapart : (reserved.map IPv4Pool.span).Pairwise Span.Apart := by
      rw [List.pairwise_map]
      refine List.Pairwise.imp_of_mem ?_ hdisjoint
      intro a b ha hb h
      exact apart_of_noCommonAddress (hwithin a ha).1 (hwithin b hb).1 h
    rw [allocatesExactly_iff]
    refine and_congr_right fun hsize => and_congr_right fun hfull => ?_
    rw [getRangeInCidr_total hsize hwithin, long_gap_iff hvalid hapart hn hfull]
    by_cases hborder : ∀ r ∈ reserved, r.start.int < cidr.usable.stop → r.Bordered
    · constructor
      · intro h
        exact .inr (fun hopen => h ⟨hborder, hopen⟩)
      · rintro (⟨r, hr, hlt, hnot⟩ | h) ⟨-, hopen⟩
        · exact hnot (hborder r hr hlt)
        · exact h hopen
    · constructor
      · intro _
        push Not at hborder
        exact .inl hborder
      · exact fun _ h => hborder h.1
  · intro services lbPool owner s s' r h
    obtain ⟨length, hlen, hr⟩ := Topology.reserveRangeLbPool_length h
    exact ⟨length, hlen, by omega⟩

/-- A network whose usable addresses are all reserved. -/
theorem range_in_cidr_allocates_lan :
    AllocatesExactly (lan []).cidr [⟨lanHost 4 (by decide), lanHost 255 (by decide)⟩] 10 := by
  refine ((range_in_cidr_allocates _ _ 10 (by decide) (by decide) (List.pairwise_singleton _ _)).1).2
    ⟨by decide, ?_, .inr (by decide)⟩
  rintro ⟨s, hs⟩
  obtain ⟨hlo, hhi, hout⟩ := hs s (Nat.le_refl s) (by omega)
  refine hout _ (List.mem_map_of_mem List.mem_cons_self) ⟨hlo, ?_⟩
  change s ≤ 167772160 + 254 at hhi
  change s ≤ 167772160 + 255
  omega

/-- Asked for ten addresses of an empty network, it gives eleven. -/
theorem range_in_cidr_allocates_fails :
    ¬ ∀ (cidr : IPv4Network) (reserved : List IPv4Pool) (n : Nat), 1 ≤ n → (∀ r ∈ reserved, r.Within cidr) →
      reserved.Pairwise NoCommonAddress → AllocatesExactly cidr reserved n := by
  intro h
  obtain ⟨hfree, -⟩ := h (lan []).cidr [] 10 (by decide) (by decide) .nil
  obtain ⟨p, hp, hlen, -⟩ := hfree ⟨167772160 + 4, fun x hx hxn => by
    refine ⟨hx, ?_, by simp⟩
    change x ≤ 167772160 + 254
    omega⟩
  have hrun : getRangeInCidr (lan []).cidr [] (10 : Nat) =
      .ok ⟨lanHost 4 (by decide), lanHost 14 (by decide)⟩ := by decide +kernel
  rw [hrun] at hp
  cases hp
  revert hlen
  decide

end Nfvcl
