import Nfvcl.RangeReservation

namespace Nfvcl
set_option autoImplicit true
open Effects

/-- The networks `release_ranges` looks through. -/
def TopologyModel.searched (t : TopologyModel) : Option String → List NetworkModel
  | none => t.networks
  | some name => (KeyedList.toMap NetworkModel.name t.networks name).toList

/-- The range a release asks for: one of the owner and, where a range is given, with its ends. -/
def Asked (owner : String) (ipRange : Option IPv4ReservedRange) (r : IPv4ReservedRange) : Prop :=
  r.owner = owner ∧ ∀ q ∈ ipRange, r.start = q.start ∧ r.stop = q.stop

instance (owner : String) (ipRange : Option IPv4ReservedRange) (r : IPv4ReservedRange) :
    Decidable (Asked owner ipRange r) :=
  inferInstanceAs (Decidable (_ ∧ _))

/-- The test of the search loop. -/
def found (owner : String) (ipRange : Option IPv4ReservedRange) (r : IPv4ReservedRange) : Bool :=
  match ipRange with
  | none => decide (r.owner = owner)
  | some q => r.overlaps q

/-- The owner in the given range is the one releasing it, as the assertion wants. -/
def OwnRange (owner : String) (ipRange : Option IPv4ReservedRange) : Prop :=
  ∀ q ∈ ipRange, owner = q.owner

def holds (owner : String) (ipRange : Option IPv4ReservedRange) (n : NetworkModel) : Bool :=
  n.reservedRanges.any (found owner ipRange)

def NetworkModel.without (n : NetworkModel) (r : IPv4ReservedRange) : NetworkModel :=
  { n with reservedRanges := removeOverlapping r n.reservedRanges }

section Search

variable {owner : String} {ipRange : Option IPv4ReservedRange}

theorem releaseSearch_eq (hown : OwnRange owner ipRange) (ranges : List IPv4ReservedRange) :
    releaseSearch owner ipRange ranges = .ok (ranges.find? (found owner ipRange)) := by
  induction ranges with
  | nil => rfl
  | cons r rs ih =>
    unfold releaseSearch
    cases ipRange with
    | none =>
      by_cases h : r.owner = owner
      · rw [List.find?_cons_of_pos (by simpa [found] using h)]
        simp only [h, if_true]
      · rw [List.find?_cons_of_neg (by simpa [found] using h)]
        simp only [h, if_false]
        exact ih
    | some q =>
      have hq : ¬ owner ≠ q.owner := not_not.2 (hown q rfl)
      simp only [if_neg hq]
      by_cases h : r.overlaps q = true
      · rw [List.find?_cons_of_pos (by simpa [found] using h)]
        simp only [h, if_true]
      · rw [List.find?_cons_of_neg (by simpa [found] using h)]
        simp only [h]
        exact ih

/-- Another owner in the given range stops the search at the first reserved range. -/
theorem releaseSearch_refused (hown : ¬ OwnRange owner ipRange) (ranges : List IPv4ReservedRange) :
    releaseSearch owner ipRange ranges = .ok none ∨ ∃ e, releaseSearch owner ipRange ranges = .error e := by
  cases ranges with
  | nil => exact .inl rfl
  | cons r rs =>
    cases ipRange with
    | none => exact absurd (fun q hq => by cases hq) hown
    | some q =>
      have hq : owner ≠ q.owner := fun he => hown (fun q' hq' => by cases hq'; exact he)
      refine .inr ⟨.assertionError, ?_⟩
      simp only [releaseSearch, if_pos hq]

theorem releaseRange_run (hown : OwnRange owner ipRange) (n : NetworkModel) :
    (NetworkModel.releaseRange owner ipRange).run n =
      match n.reservedRanges.find? (found owner ipRange) with
      | none => .ok none n
      | some r => .ok (some r) (n.without r) := by
  simp only [NetworkModel.releaseRange, EStateM.run_bind, EStateM.run_get, releaseSearch_eq hown]
  cases n.reservedRanges.find? (found owner ipRange) <;> rfl

theorem releaseRange_refused (hown : ¬ OwnRange owner ipRange) (n : NetworkModel) :
    (NetworkModel.releaseRange owner ipRange).run n = .ok none n ∨
      ∃ e, (NetworkModel.releaseRange owner ipRange).run n = .error e n := by
  simp only [NetworkModel.releaseRange, EStateM.run_bind, EStateM.run_get]
  rcases releaseSearch_refused hown n.reservedRanges with h | ⟨e, h⟩
  · rw [h]
    exact .inl rfl
  · rw [h]
    exact .inr ⟨e, rfl⟩

theorem releaseInNetworks_eq (hown : OwnRange owner ipRange) (networks : List NetworkModel) :
    (TopologyModel.releaseInNetworks owner ipRange networks = .ok none ∧
        networks.find? (holds owner ipRange) = none) ∨
      ∃ i n r, networks[i]? = some n ∧ networks.find? (holds owner ipRange) = some n ∧
        n.reservedRanges.find? (found owner ipRange) = some r ∧
        TopologyModel.releaseInNetworks owner ipRange networks = .ok (some (r, networks.set i (n.without r))) := by
  induction networks with
  | nil => exact .inl ⟨rfl, rfl⟩
  | cons n ns ih =>
    unfold TopologyModel.releaseInNetworks
    rw [releaseRange_run hown]
    cases hr : n.reservedRanges.find? (found owner ipRange) with
    | none =>
      have hno : ¬ holds owner ipRange n = true := by
        rw [holds, List.any_eq_true]
        rintro ⟨r, hmem, hf⟩
        exact List.find?_eq_none.1 hr r hmem hf
      rw [List.find?_cons_of_neg hno]
      rcases ih with ⟨hnone, hfind⟩ | ⟨i, m, r, hm, hfind, hfirst, hrel⟩
      · exact .inl ⟨by simp only [hnone], hfind⟩
      · exact .inr ⟨i + 1, m, r, hm, hfind, hfirst, by simp only [hrel]; rfl⟩
    | some r =>
      have hyes : holds owner ipRange n = true :=
        List.any_eq_true.2 ⟨r, List.mem_of_find?_eq_some hr, List.find?_some hr⟩
      rw [List.find?_cons_of_pos hyes]
      exact .inr ⟨0, n, r, rfl, rfl, hr, rfl⟩

theorem releaseInNetworks_refused (hown : ¬ OwnRange owner ipRange) (networks : List NetworkModel) :
    TopologyModel.releaseInNetworks owner ipRange networks = .ok none ∨
      ∃ e, TopologyModel.releaseInNetworks owner ipRange networks = .error e := by
  induction networks with
  | nil => exact .inl rfl
  | cons n ns ih =>
    unfold TopologyModel.releaseInNetworks
    rcases releaseRange_refused hown n with h | ⟨e, h⟩
    · rw [h]
      rcases ih with h' | ⟨e, h'⟩
      · exact .inl (by simp only [h'])
      · exact .inr ⟨e, by simp only [h']⟩
    · rw [h]
      exact .inr ⟨e, rfl⟩

end Search

/-- A release that finds nothing, or may not look, leaves the topology alone. -/
inductive ReleaseOutcome (owner : String) (ipRange : Option IPv4ReservedRange) (netName : Option String)
    (t : TopologyModel) : EStateM.Result PyError Topology (Option IPv4ReservedRange) → Prop
  | nothing (hnone : OwnRange owner ipRange → (t.searched netName).find? (holds owner ipRange) = none)
      (hnot : ∀ r, returned result ≠ some (some r)) (hsame : finalState result = ⟨some t, some t⟩) :
      ReleaseOutcome owner ipRange netName t result
  | removed (hown : OwnRange owner ipRange) (hi : t.networks[i]? = some n)
      (hn : (t.searched netName).find? (holds owner ipRange) = some n)
      (hr : n.reservedRanges.find? (found owner ipRange) = some r) :
      ReleaseOutcome owner ipRange netName t
        (.ok (some r) ⟨some { t with networks := t.networks.set i (n.without r) },
          some { t with networks := t.networks.set i (n.without r) }⟩)

section Outcome

variable {services : Services} {owner : String} {ipRange : Option IPv4ReservedRange} {t : TopologyModel}

theorem searched_some (hn : KeyedList.toMap NetworkModel.name t.networks name = some n) :
    t.searched (some name) = [n] := by
  simp only [TopologyModel.searched, hn, Option.toList]

theorem TopologyModel.releaseRanges_outcome (netName : Option String) :
    (finalState ((TopologyModel.releaseRanges owner ipRange netName).run t) = t ∧
        (OwnRange owner ipRange → (t.searched netName).find? (holds owner ipRange) = none) ∧
        ∀ r t', (TopologyModel.releaseRanges owner ipRange netName).run t ≠ .ok (some r) t') ∨
      ∃ i n r, OwnRange owner ipRange ∧ t.networks[i]? = some n ∧
        (t.searched netName).find? (holds owner ipRange) = some n ∧
        n.reservedRanges.find? (found owner ipRange) = some r ∧
        (TopologyModel.releaseRanges owner ipRange netName).run t =
          .ok (some r) { t with networks := t.networks.set i (n.without r) } := by
  cases netName with
  | none =>
    simp only [TopologyModel.releaseRanges, EStateM.run_bind, EStateM.run_get, TopologyModel.searched]
    by_cases hown : OwnRange owner ipRange
    · rcases releaseInNetworks_eq hown t.networks with ⟨h, hnone⟩ | ⟨i, n, r, hi, hn, hr, h⟩
      · rw [h]
        exact .inl ⟨rfl, fun _ => hnone, fun _ _ he => by cases he⟩
      · rw [h]
        exact .inr ⟨i, n, r, hown, hi, hn, hr, rfl⟩
    · refine .inl ?_
      rcases releaseInNetworks_refused hown t.networks with h | ⟨e, h⟩
      · rw [h]
        exact ⟨rfl, fun h => absurd h hown, fun _ _ he => by cases he⟩
      · rw [h]
        exact ⟨rfl, fun h => absurd h hown, fun _ _ he => by cases he⟩
  | some name =>
    simp only [TopologyModel.releaseRanges, EStateM.run_bind, TopologyModel.findNetIndex_run]
    cases hi : KeyedList.findIndex NetworkModel.name t.networks name with
    | none =>
      have hmap := KeyedList.findIndex_eq_none.1 hi
      refine .inl ⟨rfl, fun _ => ?_, fun _ _ he => by cases he⟩
      simp only [TopologyModel.searched, hmap, Option.toList, List.find?_nil]
    | some i =>
      obtain ⟨n, hnth, hmap, -⟩ := KeyedList.findIndex_some hi
      simp only [TopologyModel.onNetwork_run hnth, searched_some hmap]
      by_cases hown : OwnRange owner ipRange
      · rw [releaseRange_run hown]
        cases hr : n.reservedRanges.find? (found owner ipRange) with
        | none =>
          refine .inl ⟨TopologyModel.set_networks_self hnth, fun _ => ?_, fun _ _ he => by cases he⟩
          rw [List.find?_singleton, if_neg]
          rw [holds, List.any_eq_true]
          rintro ⟨r, hmem, hf⟩
          exact List.find?_eq_none.1 hr r hmem hf
        | some r =>
          refine .inr ⟨i, n, r, hown, hnth, ?_, hr, rfl⟩
          rw [List.find?_singleton, if_pos]
          exact List.any_eq_true.2 ⟨r, List.mem_of_find?_eq_some hr, List.find?_some hr⟩
      · refine .inl ?_
        rcases releaseRange_refused hown n with h | ⟨e, h⟩
        · rw [h]
          exact ⟨TopologyModel.set_networks_self hnth, fun h => absurd h hown, fun _ _ he => by cases he⟩
        · rw [h]
          exact ⟨TopologyModel.set_networks_self hnth, fun h => absurd h hown, fun _ _ he => by cases he⟩

theorem releaseRanges_outcome (hpub : ∀ t', services.publish .deleteRangeRes (some t') = none)
    (owner : String) (ipRange : Option IPv4ReservedRange) (netName : Option String) :
    ReleaseOutcome owner ipRange netName t
      ((Topology.releaseRanges services owner ipRange netName).run (Topology.fromDb (some t))) := by
  simp only [Topology.fromDb, Topology.releaseRanges, EStateM.run_bind, Topology.onModel_run]
  rcases TopologyModel.releaseRanges_outcome (t := t) netName
    with ⟨hsame, hnone, hnot⟩ | ⟨i, n, r, hown, hi, hn, hr, h⟩
  · cases h : (TopologyModel.releaseRanges owner ipRange netName).run t with
    | error e t' =>
      rw [h] at hsame
      cases hsame
      exact .nothing hnone (fun _ he => by cases he) rfl
    | ok removed t' =>
      rw [h] at hsame
      cases hsame
      cases removed with
      | none => exact .nothing hnone (fun _ he => by cases he) rfl
      | some r => exact absurd h (hnot r _)
  · rw [h]
    simp only [EStateM.run_bind, Topology.saveTopologyFromModel_run, Topology.triggerRedisEvent_run, hpub]
    exact .removed hown hi hn hr

end Outcome

/-- One range is removed and returned, one the call asked for, or nothing changes because there is
no such range. -/
def ReleasesAsked (services : Services) (t : TopologyModel) (owner : String) (ipRange : Option IPv4ReservedRange)
    (netName : Option String) : Prop :=
  let result := (Topology.releaseRanges services owner ipRange netName).run (Topology.fromDb (some t))
  (finalState result = ⟨some t, some t⟩ ∧
      ∀ n ∈ t.searched netName, ∀ r ∈ n.reservedRanges, ¬ Asked owner ipRange r) ∨
    ∃ i n before r after, t.networks[i]? = some n ∧ n ∈ t.searched netName ∧
      n.reservedRanges = before ++ r :: after ∧ Asked owner ipRange r ∧
      result = .ok (some r)
        ⟨some { t with networks := t.networks.set i { n with reservedRanges := before ++ after } },
          some { t with networks := t.networks.set i { n with reservedRanges := before ++ after } }⟩

/-- Without a range: no range in front of the first one of the owner has an end in it. With one of
the owner's: the first range with an end in it is that very range. With one of another owner: no
range of the releasing owner has its ends. -/
def ReleaseClear (owner : String) (ipRange : Option IPv4ReservedRange) (networks : List NetworkModel) : Prop :=
  match ipRange with
  | none =>
    ∀ n ∈ networks.find? (holds owner none), ∀ r ∈ n.reservedRanges.find? (found owner none),
      ∀ x ∈ n.reservedRanges.takeWhile (fun x => decide (x.owner ≠ owner)), x.overlaps r = false
  | some q =>
    if owner = q.owner then
      ∀ r ∈ (networks.flatMap NetworkModel.reservedRanges).find? (fun r => decide (r = q) || r.overlaps q),
        r = q ∧ q.start.int ≤ q.stop.int
    else ∀ n ∈ networks, ∀ r ∈ n.reservedRanges, ¬ Asked owner (some q) r

section Remove

theorem removeOverlapping_append {before after : List IPv4ReservedRange} (hr : x = r ∨ x.overlaps r = true)
    (hbefore : ∀ y ∈ before, ¬ (y = r ∨ y.overlaps r = true)) :
    removeOverlapping r (before ++ x :: after) = before ++ after := by
  induction before with
  | nil => rw [List.nil_append, removeOverlapping, if_pos hr, List.nil_append]
  | cons y before ih =>
    rw [List.cons_append, removeOverlapping, if_neg (hbefore y List.mem_cons_self),
      ih (fun z hz => hbefore z (List.mem_cons_of_mem y hz)), List.cons_append]

/-- The element `list.remove` takes out. -/
theorem removeOverlapping_mem {ranges : List IPv4ReservedRange} (hr : r ∈ ranges) :
    ∃ before x after, ranges = before ++ x :: after ∧ (x = r ∨ x.overlaps r = true) ∧
      (∀ y ∈ before, ¬ (y = r ∨ y.overlaps r = true)) ∧ removeOverlapping r ranges = before ++ after := by
  have hsome : (ranges.find? (fun x => decide (x = r ∨ x.overlaps r = true))).isSome := by
    rw [List.find?_isSome]
    exact ⟨r, hr, by simp⟩
  obtain ⟨x, hx⟩ := Option.isSome_iff_exists.1 hsome
  obtain ⟨hpx, before, after, rfl, hbefore⟩ := List.find?_eq_some_iff_append.1 hx
  have hpx := of_decide_eq_true hpx
  have hno : ∀ y ∈ before, ¬ (y = r ∨ y.overlaps r = true) := by
    intro y hy
    simpa using hbefore y hy
  exact ⟨before, x, after, rfl, hpx, hno, removeOverlapping_append hpx hno⟩

theorem without_ne {n : NetworkModel} (hr : r ∈ n.reservedRanges) : n.without r ≠ n := by
  obtain ⟨before, x, after, heq, -, -, hrem⟩ := removeOverlapping_mem hr
  intro h
  have hranges : removeOverlapping r n.reservedRanges = n.reservedRanges :=
    congrArg NetworkModel.reservedRanges h
  rw [hrem, heq] at hranges
  have hlen := congrArg List.length hranges
  simp only [List.length_append, List.length_cons] at hlen
  omega

theorem set_without_ne {networks : List NetworkModel} (hi : networks[i]? = some n) (hr : r ∈ n.reservedRanges) :
    networks.set i (n.without r) ≠ networks := by
  intro h
  have hget := congrArg (fun l => l[i]?) h
  simp only [List.getElem?_set_self (List.getElem?_eq_some_iff.1 hi).1, hi, Option.some.injEq] at hget
  exact without_ne hr hget

/-- Taking out the returned range itself is the only way to leave the networks without it. -/
theorem removed_of_set_eq {networks : List NetworkModel} {before after : List IPv4ReservedRange}
    (hi : networks[i]? = some n) (hr : r ∈ n.reservedRanges) (hj : networks[j]? = some m)
    (hm : m.reservedRanges = before ++ r :: after)
    (h : networks.set i (n.without r) = networks.set j { m with reservedRanges := before ++ after }) :
    (removeOverlapping r n.reservedRanges).count r + 1 = n.reservedRanges.count r := by
  have hget := congrArg (fun l => l[i]?) h
  simp only [List.getElem?_set_self (List.getElem?_eq_some_iff.1 hi).1] at hget
  by_cases hij : i = j
  · subst hij
    rw [hi] at hj
    cases hj
    rw [List.getElem?_set_self (List.getElem?_eq_some_iff.1 hi).1] at hget
    have hranges : removeOverlapping r n.reservedRanges = before ++ after :=
      congrArg NetworkModel.reservedRanges (Option.some.inj hget)
    rw [hranges, hm]
    simp only [List.count_append, List.count_cons_self]
    omega
  · rw [List.getElem?_set_ne (Ne.symm hij), hi] at hget
    exact absurd (Option.some.inj hget) (without_ne hr)

end Remove

section Exact

variable {services : Services} {t : TopologyModel} {owner : String} {netName : Option String}
  (hpub : ∀ t', services.publish .deleteRangeRes (some t') = none)

theorem asked_none : Asked owner none r ↔ found owner none r = true := by
  simp [Asked, found]

theorem asked_some {q : IPv4ReservedRange} (hq : owner = q.owner) : Asked owner (some q) r ↔ r = q := by
  obtain ⟨⟨rs, re⟩, ro⟩ := r
  obtain ⟨⟨qs, qe⟩, qo⟩ := q
  simp only at hq
  subst hq
  simp only [Asked, Option.mem_def, Option.some.injEq, forall_eq', IPv4ReservedRange.mk.injEq, IPv4Pool.mk.injEq]
  exact and_comm

theorem mem_searched_of_find (hn : (t.searched netName).find? (holds owner ipRange) = some n) :
    n ∈ t.searched netName :=
  List.mem_of_find?_eq_some hn

theorem not_found_of_find_none {networks : List NetworkModel}
    (h : networks.find? (holds owner ipRange) = none) (hn : n ∈ networks) (hr : r ∈ n.reservedRanges) :
    ¬ found owner ipRange r = true := by
  intro hf
  exact List.find?_eq_none.1 h n hn (List.any_eq_true.2 ⟨r, hr, hf⟩)

/-- Releasing is right when the range found is the one asked for and nothing in front of it goes instead. -/
theorem releasesAsked_of_removed (hi : t.networks[i]? = some n)
    (hn : (t.searched netName).find? (holds owner ipRange) = some n)
    (hsplit : n.reservedRanges = before ++ r :: after) (hbefore : ∀ y ∈ before, ¬ (y = r ∨ y.overlaps r = true))
    (hasked : Asked owner ipRange r)
    (hresult : (Topology.releaseRanges services owner ipRange netName).run (Topology.fromDb (some t)) =
      .ok (some r) ⟨some { t with networks := t.networks.set i (n.without r) },
        some { t with networks := t.networks.set i (n.without r) }⟩) :
    ReleasesAsked services t owner ipRange netName := by
  refine .inr ⟨i, n, before, r, after, hi, mem_searched_of_find hn, hsplit, hasked, ?_⟩
  rw [hresult]
  have hwithout : n.without r = { n with reservedRanges := before ++ after } := by
    rw [NetworkModel.without, hsplit, removeOverlapping_append (.inl rfl) hbefore]
  rw [hwithout]

/-- Nothing is removed, so nothing may be asked for. -/
theorem releasesAsked_of_nothing
    (hnot : ∀ r, returned ((Topology.releaseRanges services owner ipRange netName).run
      (Topology.fromDb (some t))) ≠ some (some r))
    (hsame : finalState ((Topology.releaseRanges services owner ipRange netName).run
      (Topology.fromDb (some t))) = ⟨some t, some t⟩) :
    ReleasesAsked services t owner ipRange netName ↔
      ∀ n ∈ t.searched netName, ∀ r ∈ n.reservedRanges, ¬ Asked owner ipRange r := by
  constructor
  · rintro (⟨-, h⟩ | ⟨i, n, before, r, after, -, -, -, -, hresult⟩)
    · exact h
    · rw [hresult] at hnot
      exact absurd rfl (hnot r)
  · exact fun h => .inl ⟨hsame, h⟩

include hpub in
theorem releasesAsked_owner :
    ReleasesAsked services t owner none netName ↔ ReleaseClear owner none (t.searched netName) := by
  have hout := releaseRanges_outcome (t := t) hpub owner none netName
  generalize hresult : (Topology.releaseRanges services owner none netName).run (Topology.fromDb (some t)) =
    result at hout
  cases hout with
  | nothing hnone hnot hsame =>
    subst hresult
    have hfind := hnone (fun q hq => by cases hq)
    rw [releasesAsked_of_nothing hnot hsame, ReleaseClear, hfind]
    constructor
    · intro _ n hn
      cases hn
    · intro _ n hn r hr ha
      exact not_found_of_find_none hfind hn hr (asked_none.1 ha)
  | @removed i n r hown hi hn hr =>
    obtain ⟨hfound, before, after, hsplit, hbefore⟩ := List.find?_eq_some_iff_append.1 hr
    have howner : r.owner = owner := of_decide_eq_true hfound
    have hother : ∀ y ∈ before, y.owner ≠ owner := by
      intro y hy
      simpa [found] using hbefore y hy
    have htake : n.reservedRanges.takeWhile (fun x => decide (x.owner ≠ owner)) = before := by
      rw [hsplit, List.takeWhile_append_of_pos (fun y hy => by simpa using hother y hy),
        List.takeWhile_cons_of_neg (by simpa using howner), List.append_nil]
    have hclear : ReleaseClear owner none (t.searched netName) ↔ ∀ x ∈ before, x.overlaps r = false := by
      simp only [ReleaseClear, hn, hr, htake, Option.mem_def, Option.some.injEq, forall_eq']
    rw [hclear]
    constructor
    · rintro (⟨-, h⟩ | ⟨j, m, front, r', back, hj, -, hm, -, hresult'⟩)
      · exact absurd (asked_none.2 hfound)
          (h n (mem_searched_of_find hn) r (List.mem_of_find?_eq_some hr))
      · rw [hresult] at hresult'
        obtain ⟨hr', hs⟩ := EStateM.Result.ok.inj hresult'
        cases Option.some.inj hr'
        have hset : t.networks.set i (n.without r) =
            t.networks.set j { m with reservedRanges := front ++ back } := by
          have := congrArg Topology.model hs
          exact congrArg TopologyModel.networks (Option.some.inj this)
        have hcount := removed_of_set_eq hi (List.mem_of_find?_eq_some hr) hj hm hset
        obtain ⟨early, y, late, heq, hy, hearly, hrem⟩ :=
          removeOverlapping_mem (List.mem_of_find?_eq_some hr)
        -- the element taken out is `r` itself, so everything in front of it is clear
        have hyr : y = r := by
          by_contra hne
          rw [hrem, heq] at hcount
          simp only [List.count_append, List.count_cons_of_ne hne] at hcount
          omega
        subst hyr
        intro x hx
        have hxe : x ∈ early := by
          rw [hsplit] at heq
          rcases List.append_eq_append_iff.1 heq with ⟨l, rfl, hl⟩ | ⟨l, rfl, hl⟩
          · exact List.mem_append_left l hx
          · cases l with
            | nil => simpa using hx
            | cons z l =>
              cases hl
              exact absurd howner (hother y (List.mem_append_right early List.mem_cons_self))
        exact Bool.eq_false_iff.2 (fun h => hearly x hxe (.inr h))
    · intro h
      apply releasesAsked_of_removed hi hn hsplit _ (asked_none.2 hfound) hresult
      rintro y hy (rfl | hov)
      · exact hother y hy howner
      · rw [h y hy] at hov
        cases hov

theorem overlaps_self {q : IPv4ReservedRange} : q.overlaps q = true ↔ q.start.int ≤ q.stop.int := by
  simp [IPv4ReservedRange.overlaps]

/-- The first range found in the searched networks, seen as one list. -/
theorem find_flatMap {networks : List NetworkModel} (hn : networks.find? (holds owner ipRange) = some n)
    (hr : n.reservedRanges.find? (found owner ipRange) = some r) :
    (networks.flatMap NetworkModel.reservedRanges).find? (found owner ipRange) = some r := by
  obtain ⟨-, before, after, rfl, hbefore⟩ := List.find?_eq_some_iff_append.1 hn
  have hnone : (before.flatMap NetworkModel.reservedRanges).find? (found owner ipRange) = none := by
    rw [List.find?_eq_none]
    intro x hx hf
    obtain ⟨m, hm, hxm⟩ := List.mem_flatMap.1 hx
    have hno := hbefore m hm
    rw [holds, List.any_eq_true.2 ⟨x, hxm, hf⟩] at hno
    cases hno
  rw [List.flatMap_append, List.find?_append, hnone, List.flatMap_cons, List.find?_append, hr]
  rfl

include hpub in
theorem releasesAsked_range {q : IPv4ReservedRange} (hq : owner = q.owner) :
    ReleasesAsked services t owner (some q) netName ↔ ReleaseClear owner (some q) (t.searched netName) := by
  have hown : OwnRange owner (some q) := by
    intro q' hq'
    cases hq'
    exact hq
  have hvalid : q.start.int ≤ q.stop.int →
      (fun r : IPv4ReservedRange => decide (r = q) || r.overlaps q) = found owner (some q) := by
    intro hle
    funext r
    by_cases hr : r = q
    · simp [hr, found, overlaps_self.2 hle]
    · simp [hr, found]
  have hout := releaseRanges_outcome (t := t) hpub owner (some q) netName
  generalize hresult : (Topology.releaseRanges services owner (some q) netName).run (Topology.fromDb (some t)) =
    result at hout
  rw [ReleaseClear]
  simp only [hq, if_true]
  rw [← hq]
  cases hout with
  | nothing hnone hnot hsame =>
    subst hresult
    rw [releasesAsked_of_nothing hnot hsame]
    have hno : ∀ x ∈ (t.searched netName).flatMap NetworkModel.reservedRanges, ¬ x.overlaps q = true := by
      intro x hx
      obtain ⟨n, hn, hxn⟩ := List.mem_flatMap.1 hx
      exact not_found_of_find_none (hnone hown) hn hxn
    constructor
    · intro h r hr
      have hmem := List.mem_of_find?_eq_some hr
      have htest := List.find?_some hr
      obtain ⟨n, hn, hrn⟩ := List.mem_flatMap.1 hmem
      have hne : r ≠ q := fun he => h n hn r hrn ((asked_some hq).2 he)
      simp [hne, hno r hmem] at htest
    · intro h n hn r hr ha
      have hmem : q ∈ (t.searched netName).flatMap NetworkModel.reservedRanges := by
        rw [← (asked_some hq).1 ha]
        exact List.mem_flatMap.2 ⟨n, hn, hr⟩
      have hsome : (((t.searched netName).flatMap NetworkModel.reservedRanges).find?
          (fun r => decide (r = q) || r.overlaps q)).isSome := by
        rw [List.find?_isSome]
        exact ⟨q, hmem, by simp⟩
      obtain ⟨c, hc⟩ := Option.isSome_iff_exists.1 hsome
      exact hno q hmem (overlaps_self.2 (h c hc).2)
  | @removed i n r hown' hi hn hr =>
    have hfirst := find_flatMap hn hr
    have hfound : found owner (some q) r = true := List.find?_some hr
    change r.overlaps q = true at hfound
    constructor
    · intro h
      have hrq : r = q := by
        rcases h with ⟨hsame, -⟩ | ⟨j, m, front, r', back, -, -, -, hasked, hresult'⟩
        · rw [hresult] at hsame
          have hnetworks := congrArg TopologyModel.networks
            (Option.some.inj (congrArg Topology.model hsame))
          exact absurd hnetworks (set_without_ne hi (List.mem_of_find?_eq_some hr))
        · rw [hresult] at hresult'
          obtain ⟨hr', -⟩ := EStateM.Result.ok.inj hresult'
          cases Option.some.inj hr'
          exact (asked_some hq).1 hasked
      have hle : q.start.int ≤ q.stop.int := by
        rw [← overlaps_self]
        rw [hrq] at hfound
        exact hfound
      intro c hc
      rw [hvalid hle, hfirst] at hc
      cases hc
      exact ⟨hrq, hle⟩
    · intro h
      have hrq : r = q := by
        have hsome : (((t.searched netName).flatMap NetworkModel.reservedRanges).find?
            (fun r => decide (r = q) || r.overlaps q)).isSome := by
          rw [List.find?_isSome]
          exact ⟨r, List.mem_of_find?_eq_some hfirst, by simp [hfound]⟩
        obtain ⟨c, hc⟩ := Option.isSome_iff_exists.1 hsome
        obtain ⟨hcq, hle⟩ := h c hc
        rw [hvalid hle, hfirst] at hc
        cases hc
        exact hcq
      obtain ⟨-, before, after, hsplit, hbefore⟩ := List.find?_eq_some_iff_append.1 hr
      apply releasesAsked_of_removed hi hn hsplit _ ((asked_some hq).2 hrq) hresult
      have hno : ∀ y ∈ before, ¬ y.overlaps q = true := by
        intro y hy
        simpa [found] using hbefore y hy
      rintro y hy (rfl | hov)
      · exact hno y hy hfound
      · rw [hrq] at hov
        exact hno y hy hov

include hpub in
theorem releasesAsked_other {q : IPv4ReservedRange} (hq : owner ≠ q.owner) :
    ReleasesAsked services t owner (some q) netName ↔ ReleaseClear owner (some q) (t.searched netName) := by
  have hout := releaseRanges_outcome (t := t) hpub owner (some q) netName
  generalize hresult : (Topology.releaseRanges services owner (some q) netName).run (Topology.fromDb (some t)) =
    result at hout
  simp only [ReleaseClear, hq, if_false]
  cases hout with
  | nothing hnone hnot hsame =>
    subst hresult
    exact releasesAsked_of_nothing hnot hsame
  | removed hown hi hn hr => exact absurd (hown q rfl) hq

end Exact

theorem release_ranges_frees_asked (services : Services)
    (hpub : ∀ t', services.publish .deleteRangeRes (some t') = none) (t : TopologyModel) (owner : String)
    (ipRange : Option IPv4ReservedRange) (netName : Option String) :
    ReleasesAsked services t owner ipRange netName ↔ ReleaseClear owner ipRange (t.searched netName) := by
  cases ipRange with
  | none => exact releasesAsked_owner hpub
  | some q =>
    by_cases hq : owner = q.owner
    · exact releasesAsked_range hpub hq
    · exact releasesAsked_other hpub hq

/-- A network with the ranges of two blueprints. -/
def sharedLan : NetworkModel :=
  { lan [] with
    reservedRanges := [⟨⟨lanHost 25 (by decide), lanHost 40 (by decide)⟩, "blueA"⟩,
      ⟨⟨lanHost 50 (by decide), lanHost 60 (by decide)⟩, "blueB"⟩] }

theorem release_ranges_frees_asked_lan :
    ReleasesAsked {} { networks := [sharedLan] } "blueB" none none := by
  rw [release_ranges_frees_asked {} (fun _ => rfl)]
  intro n hn r hr
  cases hn
  cases hr
  decide

/-- Asked for a range of its own that is not reserved, it frees the range of another blueprint. -/
theorem release_ranges_frees_asked_fails :
    ¬ ∀ (services : Services), (∀ t', services.publish .deleteRangeRes (some t') = none) →
      ∀ (t : TopologyModel) (owner : String) (ipRange : Option IPv4ReservedRange) (netName : Option String),
        ReleasesAsked services t owner ipRange netName := by
  intro h
  let q : IPv4ReservedRange := ⟨⟨lanHost 20 (by decide), lanHost 30 (by decide)⟩, "blueB"⟩
  let a : IPv4ReservedRange := ⟨⟨lanHost 25 (by decide), lanHost 40 (by decide)⟩, "blueA"⟩
  have hreturned : returned ((Topology.releaseRanges {} "blueB" (some q) none).run
      (Topology.fromDb (some { networks := [sharedLan] }))) = some (some a) := by decide +kernel
  rcases h {} (fun _ => rfl) { networks := [sharedLan] } "blueB" (some q) none with
    ⟨hsame, -⟩ | ⟨i, n, before, r, after, -, -, -, hasked, hresult⟩
  · revert hsame
    decide +kernel
  · rw [hresult] at hreturned
    cases hreturned
    exact absurd hasked.1 (by decide)

end Nfvcl
