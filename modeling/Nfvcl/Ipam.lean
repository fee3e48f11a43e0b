import Mathlib.Data.List.Sort
import Nfvcl.FreeSpans
import Nfvcl.NetworkModels

namespace Nfvcl
set_option autoImplicit true
open FreeSpans

def checkRangeInCidr (ipMin ipMax : IPv4Address) (cidr : IPv4Network) : Bool :=
  cidr.contains ipMin && cidr.contains ipMax

/-- The sort key `socket.inet_aton(start)` compares addresses as numbers. -/
def startsBefore (a b : IPv4Pool) : Prop :=
  a.start.int ≤ b.start.int

instance : DecidableRel startsBefore :=
  fun a b => inferInstanceAs (Decidable (a.start.int ≤ b.start.int))

instance : Std.Total startsBefore := ⟨fun a b => Nat.le_total a.start.int b.start.int⟩

instance : IsTrans IPv4Pool startsBefore := ⟨fun _ _ _ h₁ h₂ => Nat.le_trans h₁ h₂⟩

/-- The inner loop over the available ranges, those before the current one already visited:
the first range ending after the start of the reservation is cut. -/
def cutAvailable (reserved : IPv4Pool) (visited : List IPv4Pool) :
    List IPv4Pool → Except PyError (List IPv4Pool)
  | [] => .ok visited
  | ava :: rest =>
    if reserved.start.int < ava.stop.int then do
      let newEnd ← reserved.start.add (-1)
      let cut : IPv4Pool := ⟨ava.start, newEnd⟩
      let available := visited ++ cut :: rest
      let kept := if newEnd.int ≤ ava.start.int then available.erase cut else available
      let newStart ← reserved.stop.add 1
      return kept ++ [⟨newStart, ava.stop⟩]
    else cutAvailable reserved (visited ++ [ava]) rest

/-- One iteration of the outer loop. -/
def reserveAvailable (cidr : IPv4Network) (available : List IPv4Pool) (reserved : IPv4Pool) :
    Except PyError (List IPv4Pool) := do
  if (reserved.stop.int : Int) - reserved.start.int < 0 then
    throw (.valueError ("Reserved range [" ++ reserved.start.exploded ++ "-" ++ reserved.stop.exploded ++
      "] is not valid -> Starting address comes before ending address."))
  if ¬ checkRangeInCidr reserved.start reserved.stop cidr then
    throw (.valueError ("Range " ++ reserved.start.exploded ++ "-" ++ reserved.stop.exploded ++
      " not in cidr " ++ cidr.exploded))
  cutAvailable reserved [] available

def getAvailableNetworkIp (cidr : IPv4Network) (reservedRanges : List IPv4Pool) :
    Except PyError (List IPv4Pool) := do
  let first ← cidr.getItem 4
  let last ← cidr.getItemFromEnd 2
  (reservedRanges.insertionSort startsBefore).foldlM (reserveAvailable cidr) [⟨first, last⟩]

def getRangeLength (ipMin ipMax : IPv4Address) : Int :=
  (ipMax.int : Int) - ipMin.int

def getRangeInCidr (cidr : IPv4Network) (reservedRanges : List IPv4Pool) (rangeLength : Int) :
    Except PyError IPv4Pool := do
  let available ← getAvailableNetworkIp cidr reservedRanges
  match available.find? (fun ava => decide (rangeLength ≤ getRangeLength ava.start ava.stop)) with
  | some ava =>
    let stop ← ava.start.add rangeLength
    return ⟨ava.start, stop⟩
  | none => throw (.valueError "Not possible to get a range in the network cidr")

/-- The addresses of a pool, as numbers. -/
def IPv4Pool.span (p : IPv4Pool) : Span :=
  ⟨p.start.int, p.stop.int⟩

@[simp] theorem IPv4Pool.span_start (p : IPv4Pool) : p.span.start = p.start.int := rfl

@[simp] theorem IPv4Pool.span_stop (p : IPv4Pool) : p.span.stop = p.stop.int := rfl

theorem map_span_inOrder (pools : List IPv4Pool) :
    (pools.insertionSort startsBefore).map IPv4Pool.span = inOrder (pools.map IPv4Pool.span) :=
  List.map_insertionSort _ _ _ _ (fun _ _ _ _ => Iff.rfl)

theorem cutAvailable_skip (hpieces : ∀ p ∈ pieces, ¬ r.start.int < p.stop.int) (visited rest : List IPv4Pool) :
    cutAvailable r visited (pieces ++ rest) = cutAvailable r (visited ++ pieces) rest := by
  induction pieces generalizing visited with
  | nil => rw [List.nil_append, List.append_nil]
  | cons p pieces ih =>
    rw [List.cons_append, cutAvailable, if_neg (hpieces p List.mem_cons_self),
      ih (fun q hq => hpieces q (List.mem_cons_of_mem p hq)), List.append_assoc]
    rfl

/-- What the inner loop makes of finished ranges and the range up to the top. -/
theorem cutAvailable_tail (hpieces : ∀ p ∈ pieces, p.start.int < p.stop.int ∧ p.stop.int ≤ r.start.int)
    (h : cutAvailable r [] (pieces ++ [tail]) = .ok available) :
    (r.start.int < tail.stop.int ∧ ∃ newEnd newStart : IPv4Address,
        newEnd.int + 1 = r.start.int ∧ newStart.int = r.stop.int + 1 ∧
        available = pieces ++ (if tail.start.int < newEnd.int then [⟨tail.start, newEnd⟩] else []) ++
          [⟨newStart, tail.stop⟩]) ∨
      (¬ r.start.int < tail.stop.int ∧ available = pieces ++ [tail]) := by
  rw [cutAvailable_skip (fun p hp => by have := hpieces p hp; omega), List.nil_append, cutAvailable] at h
  split at h
  · next hlt =>
    refine .inl ⟨hlt, ?_⟩
    cases he : r.start.add (-1) with
    | error e =>
      rw [he] at h
      cases h
    | ok newEnd =>
      cases hs : r.stop.add 1 with
      | error e =>
        rw [he, hs] at h
        cases h
      | ok newStart =>
        rw [he, hs] at h
        have h₁ := IPv4Address.add_int he
        have h₂ := IPv4Address.add_int hs
        refine ⟨newEnd, newStart, by omega, by omega, ?_⟩
        cases h
        by_cases hk : newEnd.int ≤ tail.start.int
        · have hmem : (⟨tail.start, newEnd⟩ : IPv4Pool) ∉ pieces := by
            intro hm
            have hlt' : tail.start.int < newEnd.int := (hpieces _ hm).1
            omega
          rw [if_pos hk, if_neg (by omega), List.erase_append_right _ hmem, List.erase_cons_head]
        · rw [if_neg hk, if_pos (by omega)]
  · next hlt =>
    cases h
    exact .inr ⟨hlt, rfl⟩

theorem reserveAvailable_ok (h : reserveAvailable cidr available r = .ok result) :
    cutAvailable r [] available = .ok result := by
  unfold reserveAvailable at h
  by_cases h₁ : (r.stop.int : Int) - r.start.int < 0
  · rw [if_pos h₁] at h
    cases h
  · by_cases h₂ : ¬ checkRangeInCidr r.start r.stop cidr
    · rw [if_neg h₁, if_pos h₂] at h
      cases h
    · rw [if_neg h₁, if_neg h₂] at h
      exact h

/-- The ranges between two iterations of the outer loop: finished ones, none reaching past the
start of a reservation still to come, and the range up to the top. -/
def Finished (rs pieces : List IPv4Pool) : Prop :=
  ∀ p ∈ pieces, p.start.int < p.stop.int ∧ ∀ r ∈ rs, p.stop.int ≤ r.start.int

theorem Finished.of_cons (h : Finished (r :: rs) pieces) : Finished rs pieces :=
  fun p hp => ⟨(h p hp).1, fun q hq => (h p hp).2 q (List.mem_cons_of_mem r hq)⟩

/-- One iteration adds the gap in front of the reservation to the finished ranges. -/
theorem reserveAvailable_next {rs pieces : List IPv4Pool} {tail : IPv4Pool}
    (hsorted : (r :: rs).Pairwise startsBefore) (hpieces : Finished (r :: rs) pieces)
    (h : reserveAvailable cidr (pieces ++ [tail]) r = .ok next) :
    ∃ pieces' tail', next = pieces' ++ [tail'] ∧ tail'.stop = tail.stop ∧ Finished rs pieces' ∧
      pieces'.map IPv4Pool.span ++ gaps tail'.stop.int tail'.start.int (rs.map IPv4Pool.span) =
        pieces.map IPv4Pool.span ++ gaps tail.stop.int tail.start.int ((r :: rs).map IPv4Pool.span) := by
  rcases cutAvailable_tail (fun p hp => ⟨(hpieces p hp).1, (hpieces p hp).2 r List.mem_cons_self⟩)
    (reserveAvailable_ok h) with ⟨hlt, newEnd, newStart, he, hs, rfl⟩ | ⟨hlt, rfl⟩
  · rw [List.map_cons, gaps, IPv4Pool.span_start, if_pos hlt]
    refine ⟨_, ⟨newStart, tail.stop⟩, rfl, rfl, ?_, ?_⟩
    · intro p hp
      rcases List.mem_append.1 hp with hp | hp
      · exact hpieces.of_cons p hp
      · by_cases hcond : tail.start.int < newEnd.int
        · rw [if_pos hcond, List.mem_singleton] at hp
          subst hp
          refine ⟨hcond, fun q hq => ?_⟩
          have hrq : r.start.int ≤ q.start.int := (List.pairwise_cons.1 hsorted).1 q hq
          change newEnd.int ≤ q.start.int
          omega
        · rw [if_neg hcond] at hp
          cases hp
    · by_cases hcond : tail.start.int < newEnd.int
      · have hspan : IPv4Pool.span ⟨tail.start, newEnd⟩ = ⟨tail.start.int, r.start.int - 1⟩ := by
          have : newEnd.int = r.start.int - 1 := by omega
          simp only [IPv4Pool.span, this]
        rw [if_pos hcond, if_pos (show tail.start.int + 1 < r.start.int by omega), List.map_append,
          List.map_singleton, hspan, List.append_assoc, hs]
        rfl
      · rw [if_neg hcond, if_neg (show ¬ tail.start.int + 1 < r.start.int by omega), List.append_nil, hs]
        rfl
  · rw [List.map_cons, gaps, IPv4Pool.span_start, if_neg hlt]
    exact ⟨pieces, tail, rfl, rfl, hpieces.of_cons, rfl⟩

/-- The outer loop leaves the gaps between the reservations, after the ranges it has finished. -/
theorem foldlM_reserveAvailable {rs pieces : List IPv4Pool} {tail : IPv4Pool}
    (hsorted : rs.Pairwise startsBefore) (hpieces : Finished rs pieces)
    (h : rs.foldlM (reserveAvailable cidr) (pieces ++ [tail]) = .ok available) :
    available.map IPv4Pool.span =
      pieces.map IPv4Pool.span ++ gaps tail.stop.int tail.start.int (rs.map IPv4Pool.span) := by
  induction rs generalizing pieces tail with
  | nil =>
    cases h
    rw [List.map_append]
    rfl
  | cons r rs ih =>
    rw [List.foldlM_cons] at h
    cases hstep : reserveAvailable cidr (pieces ++ [tail]) r with
    | error e =>
      rw [hstep] at h
      cases h
    | ok next =>
      rw [hstep] at h
      obtain ⟨pieces', tail', rfl, -, hfin, hspans⟩ := reserveAvailable_next hsorted hpieces hstep
      rw [← hspans]
      exact ih (List.pairwise_cons.1 hsorted).2 hfin h

/-- The available ranges of a network are the gaps between its reserved ranges. -/
theorem getAvailableNetworkIp_spans (h : getAvailableNetworkIp cidr rs = .ok available) :
    available.map IPv4Pool.span =
      gaps (cidr.networkAddress + (cidr.numAddresses - 2)) (cidr.networkAddress + 4)
        (inOrder (rs.map IPv4Pool.span)) := by
  unfold getAvailableNetworkIp at h
  cases hf : cidr.getItem 4 with
  | error e =>
    rw [hf] at h
    cases h
  | ok first =>
    cases hl : cidr.getItemFromEnd 2 with
    | error e =>
      rw [hf, hl] at h
      cases h
    | ok last =>
      rw [hf, hl] at h
      change (rs.insertionSort startsBefore).foldlM (reserveAvailable cidr) ([] ++ [⟨first, last⟩]) =
        .ok available at h
      have hspans := foldlM_reserveAvailable (List.pairwise_insertionSort startsBefore rs) (by simp [Finished]) h
      rw [hspans, map_span_inOrder, List.map_nil, List.nil_append,
        IPv4Network.getItem_int hf, IPv4Network.getItemFromEnd_int hl]

/-- A range is taken from the bottom of a gap that is long enough. -/
theorem getRangeInCidr_gap (h : getRangeInCidr cidr rs n = .ok p) :
    ∃ g ∈ gaps (cidr.networkAddress + (cidr.numAddresses - 2)) (cidr.networkAddress + 4)
        (inOrder (rs.map IPv4Pool.span)),
      n ≤ (g.stop : Int) - g.start ∧ p.start.int = g.start ∧ (p.stop.int : Int) = g.start + n := by
  unfold getRangeInCidr at h
  cases ha : getAvailableNetworkIp cidr rs with
  | error e =>
    rw [ha] at h
    cases h
  | ok available =>
    rw [ha] at h
    change (match available.find? _ with | some ava => _ | none => _) = _ at h
    cases hfind : available.find? (fun ava => decide (n ≤ getRangeLength ava.start ava.stop)) with
    | none =>
      rw [hfind] at h
      cases h
    | some ava =>
      rw [hfind] at h
      cases hs : ava.start.add n with
      | error e =>
        simp only [hs] at h
        cases h
      | ok stop =>
        simp only [hs] at h
        cases h
        have hmem : ava.span ∈ available.map IPv4Pool.span :=
          List.mem_map_of_mem (List.mem_of_find?_eq_some hfind)
        rw [getAvailableNetworkIp_spans ha] at hmem
        have hlen : n ≤ getRangeLength ava.start ava.stop := by simpa using List.find?_some hfind
        exact ⟨ava.span, hmem, hlen, rfl, IPv4Address.add_int hs⟩

end Nfvcl
