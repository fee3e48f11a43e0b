import Mathlib.Data.List.Forall2
import Mathlib.Data.List.Pairwise
import Nfvcl.Topology

namespace Nfvcl
set_option autoImplicit true
open FreeSpans Effects

/-- What a call on the reserved ranges can do to one network. -/
inductive NetworkModel.Evolves : NetworkModel → NetworkModel → Prop
  | same (n : NetworkModel) : NetworkModel.Evolves n n
  | released (n : NetworkModel) (ranges : List IPv4ReservedRange)
      (h : ranges.Sublist n.reservedRanges) :
      NetworkModel.Evolves n { n with reservedRanges := ranges }
  | reserved (n : NetworkModel) (p : IPv4Pool) (rangeLength : Int) (owner : String)
      (hlen : 1 ≤ rangeLength)
      (h : getRangeInCidr n.cidr
        (n.allocationPool ++ n.reservedRanges.map IPv4ReservedRange.toIPv4Pool) rangeLength = .ok p) :
      NetworkModel.Evolves n { n with reservedRanges := n.reservedRanges ++ [⟨p, owner⟩] }

theorem NetworkModel.Evolves.name_eq (h : NetworkModel.Evolves n n') : n'.name = n.name := by
  cases h <;> rfl

/-- A call on the reserved ranges of a topology. -/
inductive RangeCall where
  | reserveRange (services : Services) (netName : String) (rangeLength : Int) (owner : String)
      (vimName : Option String)
  | releaseRanges (services : Services) (owner : String) (ipRange : Option IPv4ReservedRange)
      (netName : Option String)

def RangeCall.exec : RangeCall → EStateM PyError Topology (Option IPv4ReservedRange)
  | .reserveRange services netName rangeLength owner vimName => do
    let r ← Topology.reserveRange services netName rangeLength owner vimName
    return some r
  | .releaseRanges services owner ipRange netName =>
    Topology.releaseRanges services owner ipRange netName

/-- At least one address is asked for. -/
def RangeCall.Positive : RangeCall → Prop
  | .reserveRange _ _ rangeLength _ _ => 1 ≤ rangeLength
  | .releaseRanges _ _ _ _ => True

theorem removeOverlapping_sublist (r : IPv4ReservedRange) (ranges : List IPv4ReservedRange) :
    (removeOverlapping r ranges).Sublist ranges := by
  induction ranges with
  | nil => exact List.Sublist.refl _
  | cons x xs ih =>
    unfold removeOverlapping
    split
    · exact List.sublist_cons_self x xs
    · exact ih.cons_cons x

section Forall

theorem evolves_refl (networks : List NetworkModel) :
    List.Forall₂ NetworkModel.Evolves networks networks := by
  induction networks with
  | nil => exact .nil
  | cons n ns ih => exact .cons (.same n) ih

theorem evolves_set {networks : List NetworkModel} (hn : networks[i]? = some n)
    (h : NetworkModel.Evolves n n') :
    List.Forall₂ NetworkModel.Evolves networks (networks.set i n') := by
  induction networks generalizing i with
  | nil => cases hn
  | cons x xs ih =>
    cases i with
    | zero =>
      cases hn
      exact .cons h (evolves_refl xs)
    | succ i => exact .cons (.same x) (ih hn)

/-- The network found under a name is the evolution of the one found before. -/
theorem evolves_lookup {networks networks' : List NetworkModel}
    (h : List.Forall₂ NetworkModel.Evolves networks networks')
    (hn : KeyedList.toMap NetworkModel.name networks name = some n) :
    ∃ n', KeyedList.toMap NetworkModel.name networks' name = some n' ∧ NetworkModel.Evolves n n' := by
  induction h with
  | nil => cases hn
  | @cons x x' xs xs' hx _ ih =>
    rw [KeyedList.toMap_cons] at hn ⊢
    rw [hx.name_eq]
    split at hn
    · next he =>
      cases hn
      exact ⟨x', if_pos he, hx⟩
    · next he =>
      obtain ⟨n', hn', hev⟩ := ih hn
      exact ⟨n', by rw [if_neg he]; exact hn', hev⟩

end Forall

theorem releaseInNetworks_evolves {networks networks' : List NetworkModel}
    (h : TopologyModel.releaseInNetworks owner ipRange networks = .ok (some (r, networks'))) :
    List.Forall₂ NetworkModel.Evolves networks networks' := by
  induction networks generalizing networks' with
  | nil => cases h
  | cons n ns ih =>
    unfold TopologyModel.releaseInNetworks at h
    rcases NetworkModel.releaseRange_cases owner ipRange n with ⟨e, he⟩ | hnone | ⟨r', hr⟩
    · rw [he] at h
      cases h
    · rw [hnone] at h
      simp only at h
      cases hrest : TopologyModel.releaseInNetworks owner ipRange ns with
      | error e =>
        rw [hrest] at h
        cases h
      | ok found =>
        rw [hrest] at h
        cases found with
        | none => cases h
        | some p =>
          cases h
          exact .cons (.same n) (ih hrest)
    · rw [hr] at h
      cases h
      exact .cons (.released n _ (removeOverlapping_sublist r n.reservedRanges)) (evolves_refl ns)

/-- The networks of a topology object and of its document after a call. -/
def Topology.Evolved (t : TopologyModel) (s : Topology) : Prop :=
  ∃ t', s = ⟨some t', some t'⟩ ∧ List.Forall₂ NetworkModel.Evolves t.networks t'.networks

theorem Topology.Evolved.refl (t : TopologyModel) : Topology.Evolved t ⟨some t, some t⟩ :=
  ⟨t, rfl, evolves_refl t.networks⟩

/-- Saving after a change leaves the document equal to the model, whatever becomes of the event. -/
theorem Topology.Evolved.saved {t t' : TopologyModel} (services : Services) (event : TopologyEventType)
    (h : List.Forall₂ NetworkModel.Evolves t.networks t'.networks) (a : α) :
    Topology.Evolved t (finalState ((do
      Topology.saveTopologyFromModel
      Topology.triggerRedisEvent services event
      return a : EStateM PyError Topology α).run ⟨some t', some t⟩)) := by
  simp only [EStateM.run_bind, Topology.saveTopologyFromModel_run, Topology.triggerRedisEvent_run]
  cases services.publish event (some t') <;> exact ⟨t', rfl, h⟩

theorem Topology.getNetworkModel_cases (netName : String) (vimName : Option String) (t : TopologyModel)
    (d : Option TopologyModel) :
    (∃ e, (Topology.getNetworkModel netName vimName).run ⟨some t, d⟩ = .error e ⟨some t, d⟩) ∨
      ∃ n, (Topology.getNetworkModel netName vimName).run ⟨some t, d⟩ = .ok n ⟨some t, d⟩ ∧
        KeyedList.toMap NetworkModel.name t.networks netName = some n := by
  simp only [Topology.getNetworkModel, EStateM.run_bind, Topology.onModel_run,
    TopologyModel.getNetwork_run]
  cases hn : KeyedList.toMap NetworkModel.name t.networks netName with
  | none => exact .inl ⟨_, rfl⟩
  | some n =>
    cases vimName with
    | none => exact .inr ⟨n, rfl, rfl⟩
    | some name =>
      by_cases hname : name = ""
      · simp only [hname, ne_eq, not_true_eq_false, if_false]
        exact .inr ⟨n, rfl, rfl⟩
      · simp only [hname, ne_eq, not_false_eq_true, if_true, EStateM.run_bind, Topology.onModel_run,
          TopologyModel.getVim_run]
        cases KeyedList.toMap VimModel.name t.vims name with
        | none => exact .inl ⟨_, rfl⟩
        | some v => exact .inr ⟨n, rfl, rfl⟩

theorem Topology.setReservedIpRange_evolved (services : Services) (p : IPv4Pool) (netName owner : String)
    (hn : KeyedList.toMap NetworkModel.name t.networks netName = some n) (hlen : 1 ≤ rangeLength)
    (hp : getRangeInCidr n.cidr
      (n.allocationPool ++ n.reservedRanges.map IPv4ReservedRange.toIPv4Pool) rangeLength = .ok p) :
    Topology.Evolved t
      (finalState ((Topology.setReservedIpRange services p netName owner).run ⟨some t, some t⟩)) := by
  obtain ⟨i, hi, hnth⟩ := KeyedList.findIndex_of_toMap hn
  simp only [Topology.setReservedIpRange, EStateM.run_bind, Topology.onModel_run,
    TopologyModel.findNetIndex_run, hi, TopologyModel.onNetwork_read hnth, run_ite]
  cases n.external with
  | true => exact .refl t
  | false =>
    simp only [Bool.false_eq_true, if_false, TopologyModel.onNetwork_run hnth]
    rcases NetworkModel.addReservedRange_cases ⟨p, owner⟩ n with ⟨e, he⟩ | hok
    · simp only [he, TopologyModel.set_networks_self hnth]
      exact .refl t
    · rw [hok]
      exact Topology.Evolved.saved services .createRangeRes
        (evolves_set hnth (.reserved n p rangeLength owner hlen hp)) _

/-- A call leaves the model and its document equal, each network evolved in one step. -/
theorem RangeCall.evolved (call : RangeCall) (hcall : call.Positive) (t : TopologyModel) :
    Topology.Evolved t (finalState (call.exec.run ⟨some t, some t⟩)) := by
  cases call with
  | reserveRange services netName rangeLength owner vimName =>
    simp only [RangeCall.exec, Topology.reserveRange, EStateM.run_bind]
    rcases Topology.getNetworkModel_cases netName vimName t (some t) with ⟨e, he⟩ | ⟨n, hok, hn⟩
    · rw [he]
      exact .refl t
    · rw [hok]
      simp only
      cases hp : getRangeInCidr n.cidr
        (n.allocationPool ++ n.reservedRanges.map IPv4ReservedRange.toIPv4Pool) rangeLength with
      | error e => exact .refl t
      | ok p =>
        have h := Topology.setReservedIpRange_evolved services p netName owner hn hcall hp
        simp only
        cases hr : (Topology.setReservedIpRange services p netName owner).run ⟨some t, some t⟩ <;>
          (rw [hr] at h; exact h)
  | releaseRanges services owner ipRange netName =>
    simp only [RangeCall.exec, Topology.releaseRanges, EStateM.run_bind, Topology.onModel_run]
    cases netName with
    | none =>
      simp only [TopologyModel.releaseRanges, EStateM.run_bind, EStateM.run_get]
      cases hrel : TopologyModel.releaseInNetworks owner ipRange t.networks with
      | error e => exact .refl t
      | ok found =>
        cases found with
        | none => exact .refl t
        | some p =>
          have hnetworks : List.Forall₂ NetworkModel.Evolves t.networks
              (TopologyModel.networks { t with networks := p.2 }) :=
            releaseInNetworks_evolves hrel
          exact Topology.Evolved.saved services .deleteRangeRes hnetworks (some p.1)
    | some name =>
      simp only [TopologyModel.releaseRanges, EStateM.run_bind, TopologyModel.findNetIndex_run]
      cases hi : KeyedList.findIndex NetworkModel.name t.networks name with
      | none => exact .refl t
      | some i =>
        obtain ⟨n, hnth, -, -⟩ := KeyedList.findIndex_some hi
        simp only [TopologyModel.onNetwork_run hnth]
        rcases NetworkModel.releaseRange_cases owner ipRange n with ⟨e, he⟩ | hnone | ⟨r, hr⟩
        · simp only [he, TopologyModel.set_networks_self hnth]
          exact .refl t
        · simp only [hnone, TopologyModel.set_networks_self hnth]
          exact .refl t
        · rw [hr]
          exact Topology.Evolved.saved services .deleteRangeRes
            (evolves_set hnth (.released n _ (removeOverlapping_sublist r n.reservedRanges))) (some r)

/-- The addresses that can be reserved, `cidr[4]` to `cidr[-2]`. -/
def IPv4Network.usable (cidr : IPv4Network) : Span :=
  ⟨cidr.networkAddress + 4, cidr.networkAddress + (cidr.numAddresses - 2)⟩

/-- No address lies in both ranges. -/
def NoCommonAddress (a b : IPv4Pool) : Prop :=
  ∀ x, ¬ (a.span.Covers x ∧ b.span.Covers x)

theorem noCommonAddress_of_apart {a b : IPv4Pool} (h : a.span.Apart b.span) : NoCommonAddress a b := by
  rintro x ⟨ha, hb⟩
  unfold Span.Apart Span.Covers at *
  omega

structure NetworkModel.RangesSafe (n : NetworkModel) : Prop where
  disjoint : n.reservedRanges.Pairwise (fun a b => NoCommonAddress a.toIPv4Pool b.toIPv4Pool)
  outsidePools : ∀ r ∈ n.reservedRanges, ∀ p ∈ n.allocationPool, NoCommonAddress r.toIPv4Pool p
  usable : ∀ r ∈ n.reservedRanges,
    n.cidr.usable.start ≤ r.start.int ∧ r.stop.int ≤ n.cidr.usable.stop

/-- The networks a run starts from. -/
structure NetworkModel.Reservable (n : NetworkModel) : Prop where
  internal : n.external = false
  size : 8 ≤ n.cidr.numAddresses
  pools : ∀ p ∈ n.allocationPool,
    p.start.int ≤ p.stop.int ∧ n.cidr.contains p.start ∧ n.cidr.contains p.stop
  unreserved : n.reservedRanges = []

/-- The invariant of a run: reserved ranges have two addresses or more and keep apart. -/
structure NetworkModel.Kept (pools : List IPv4Pool) (cidr : IPv4Network) (n : NetworkModel) : Prop where
  pool_eq : n.allocationPool = pools
  cidr_eq : n.cidr = cidr
  apart : n.reservedRanges.Pairwise (fun a b => a.span.Apart b.span)
  poolsApart : ∀ r ∈ n.reservedRanges, ∀ p ∈ pools, r.span.Apart p.span
  bounds : ∀ r ∈ n.reservedRanges,
    cidr.usable.start ≤ r.start.int ∧ r.start.int < r.stop.int ∧ r.stop.int ≤ cidr.usable.stop

section Kept

variable {pools : List IPv4Pool} {cidr : IPv4Network}

theorem NetworkModel.Kept.safe (h : NetworkModel.Kept pools cidr n) : n.RangesSafe where
  disjoint := h.apart.imp noCommonAddress_of_apart
  outsidePools := by
    intro r hr p hp
    rw [h.pool_eq] at hp
    exact noCommonAddress_of_apart (h.poolsApart r hr p hp)
  usable := by
    intro r hr
    rw [h.cidr_eq]
    exact ⟨(h.bounds r hr).1, (h.bounds r hr).2.2⟩

theorem NetworkModel.Kept.of_reservable (h : n.Reservable) : NetworkModel.Kept n.allocationPool n.cidr n where
  pool_eq := rfl
  cidr_eq := rfl
  apart := by rw [h.unreserved]; exact .nil
  poolsApart := by simp [h.unreserved]
  bounds := by simp [h.unreserved]

/-- Reserving takes a range out of a gap of two addresses or more. -/
theorem NetworkModel.Kept.new_range (h : NetworkModel.Kept pools cidr n) (hpools : ∀ p ∈ pools, p.start.int ≤ p.stop.int)
    (hclear : Clear cidr.usable.start cidr.usable.stop (pools.map IPv4Pool.span)) (hlen : 1 ≤ rangeLength)
    (hp : getRangeInCidr n.cidr
      (n.allocationPool ++ n.reservedRanges.map IPv4ReservedRange.toIPv4Pool) rangeLength = .ok p) :
    (cidr.usable.start ≤ p.start.int ∧ p.start.int < p.stop.int ∧ p.stop.int ≤ cidr.usable.stop) ∧
      (∀ q ∈ pools, p.span.Apart q.span) ∧ ∀ r ∈ n.reservedRanges, p.span.Apart r.span := by
  rw [h.pool_eq, h.cidr_eq] at hp
  obtain ⟨g, hg, hfit, hstart, hstop⟩ := getRangeInCidr_gap hp
  rw [List.map_append, List.map_map] at hg
  have hspans : ∀ s ∈ pools.map IPv4Pool.span, s.start ≤ s.stop := by
    intro s hs
    obtain ⟨q, hq, rfl⟩ := List.mem_map.1 hs
    exact hpools q hq
  obtain ⟨hlo, hhi, hfree⟩ := gaps_safe hspans
    (by
      intro s hs
      obtain ⟨r, hr, rfl⟩ := List.mem_map.1 hs
      exact h.bounds r hr)
    (by
      intro a ha b hb hne
      obtain ⟨r, hr, rfl⟩ := List.mem_map.1 ha
      obtain ⟨q, hq, rfl⟩ := List.mem_map.1 hb
      have : Std.Symm (fun a b : IPv4ReservedRange => a.span.Apart b.span) := ⟨fun _ _ h => h.symm⟩
      exact h.apart.forall hr hq (fun he => hne (by rw [he])))
    (by
      intro a ha b hb
      obtain ⟨r, hr, rfl⟩ := List.mem_map.1 ha
      obtain ⟨q, hq, rfl⟩ := List.mem_map.1 hb
      exact h.poolsApart r hr q hq)
    hclear hg (by omega)
  have hapart : ∀ s, g.Apart s → p.span.Apart s := by
    intro s hs
    unfold Span.Apart at hs ⊢
    rw [IPv4Pool.span_start, IPv4Pool.span_stop]
    omega
  refine ⟨by omega, fun q hq => ?_, fun r hr => ?_⟩
  · exact hapart _ (hfree _ (.inl (List.mem_map_of_mem hq)))
  · exact hapart _ (hfree _ (.inr (List.mem_map_of_mem hr)))

theorem NetworkModel.Kept.evolves (h : NetworkModel.Kept pools cidr n) (hpools : ∀ p ∈ pools, p.start.int ≤ p.stop.int)
    (hclear : Clear cidr.usable.start cidr.usable.stop (pools.map IPv4Pool.span))
    (hev : NetworkModel.Evolves n n') : NetworkModel.Kept pools cidr n' := by
  cases hev with
  | same => exact h
  | released ranges hsub =>
    exact {
      pool_eq := h.pool_eq
      cidr_eq := h.cidr_eq
      apart := h.apart.sublist hsub
      poolsApart := fun r hr => h.poolsApart r (hsub.subset hr)
      bounds := fun r hr => h.bounds r (hsub.subset hr) }
  | reserved p rangeLength owner hlen hp =>
    obtain ⟨hbounds, hpool, hranges⟩ := h.new_range hpools hclear hlen hp
    refine ⟨h.pool_eq, h.cidr_eq, ?_, ?_, ?_⟩
    · rw [List.pairwise_append]
      refine ⟨h.apart, List.pairwise_singleton _ _, ?_⟩
      intro a ha b hb
      rw [List.mem_singleton.1 hb]
      exact (hranges a ha).symm
    · intro r hr q hq
      rcases List.mem_append.1 hr with hr | hr
      · exact h.poolsApart r hr q hq
      · rw [List.mem_singleton.1 hr]
        exact hpool q hq
    · intro r hr
      rcases List.mem_append.1 hr with hr | hr
      · exact h.bounds r hr
      · rw [List.mem_singleton.1 hr]
        exact hbounds

end Kept

/-- The pools of a network leave only clear gaps among its usable addresses. -/
def NetworkModel.PoolsClear (n : NetworkModel) : Prop :=
  Clear n.cidr.usable.start n.cidr.usable.stop (n.allocationPool.map IPv4Pool.span)

instance (n : NetworkModel) : Decidable n.PoolsClear :=
  inferInstanceAs (Decidable (Clear _ _ _))

/-- The network called `name` after a run of calls on a topology read from the database. -/
def NetworkSafeAfter (t : TopologyModel) (name : String) (calls : List RangeCall) : Prop :=
  ∃ t' n', runAll RangeCall.exec (Topology.fromDb (some t)) calls = ⟨some t', some t'⟩ ∧
    KeyedList.toMap NetworkModel.name t'.networks name = some n' ∧ n'.RangesSafe

theorem reserved_ranges_stay_safe (t : TopologyModel) (name : String) (n : NetworkModel)
    (hn : KeyedList.toMap NetworkModel.name t.networks name = some n) (hres : n.Reservable)
    (hclear : n.PoolsClear) (calls : List RangeCall) (hcalls : ∀ c ∈ calls, c.Positive) :
    NetworkSafeAfter t name calls := by
  have hpools : ∀ p ∈ n.allocationPool, p.start.int ≤ p.stop.int := fun p hp => (hres.pools p hp).1
  have hinv := runAll_invariant RangeCall.exec (C := fun c _ => c.Positive)
    (I := fun s => ∃ t' n', s = ⟨some t', some t'⟩ ∧
      KeyedList.toMap NetworkModel.name t'.networks name = some n' ∧
      NetworkModel.Kept n.allocationPool n.cidr n')
    (by
      rintro call s hcall ⟨t₁, n₁, rfl, hn₁, hk₁⟩
      obtain ⟨t₂, hs, hall⟩ := call.evolved hcall t₁
      obtain ⟨n₂, hn₂, hev⟩ := evolves_lookup hall hn₁
      exact ⟨t₂, n₂, hs, hn₂, hk₁.evolves hpools hclear hev⟩)
    calls (AllSteps.of_mem RangeCall.exec hcalls (Topology.fromDb (some t)))
    ⟨t, n, rfl, hn, .of_reservable hres⟩
  obtain ⟨t', n', hs, hn', hk⟩ := hinv
  exact ⟨t', n', hs, hn', hk.safe⟩

/-- The addresses of 10.0.0.0/24. -/
def lanHost (i : Nat) (h : i < 256) : IPv4Address := ⟨167772160 + i, by omega⟩

/-- An internal network 10.0.0.0/24 with the given pools. -/
def lan (pools : List IPv4Pool) : NetworkModel where
  name := "lan"
  type := .vlan
  cidr := .lan
  allocationPool := pools

theorem reserved_ranges_stay_safe_lan :
    NetworkSafeAfter { networks := [lan [⟨lanHost 10 (by decide), lanHost 100 (by decide)⟩]] } "lan"
      [.reserveRange {} "lan" 10 "blue" none, .releaseRanges {} "blue" none none] :=
  reserved_ranges_stay_safe _ _ (lan [⟨lanHost 10 (by decide), lanHost 100 (by decide)⟩]) rfl
    ⟨rfl, by decide, by decide, rfl⟩ (by decide) _ (by simp [RangeCall.Positive])

/-- A pool inside another pool gives addresses of the outer one back as free. -/
theorem reserved_ranges_stay_safe_fails :
    ¬ ∀ (t : TopologyModel) (name : String) (n : NetworkModel),
      KeyedList.toMap NetworkModel.name t.networks name = some n → n.Reservable →
      ∀ calls : List RangeCall, (∀ c ∈ calls, c.Positive) → NetworkSafeAfter t name calls := by
  intro h
  let n := lan [⟨lanHost 10 (by decide), lanHost 100 (by decide)⟩,
    ⟨lanHost 20 (by decide), lanHost 30 (by decide)⟩]
  obtain ⟨t', n', hs, hn, hsafe⟩ := h { networks := [n] } "lan" n rfl ⟨rfl, by decide, by decide, rfl⟩
    [.reserveRange {} "lan" 10 "blue" none] (by simp [RangeCall.Positive])
  let r : IPv4ReservedRange := ⟨⟨lanHost 31 (by decide), lanHost 41 (by decide)⟩, "blue"⟩
  have hrun : runAll RangeCall.exec (Topology.fromDb (some { networks := [n] }))
      [.reserveRange {} "lan" 10 "blue" none] =
      ⟨some { networks := [{ n with reservedRanges := [r] }] },
        some { networks := [{ n with reservedRanges := [r] }] }⟩ := by decide +kernel
  rw [hrun] at hs
  cases hs
  cases hn
  exact hsafe.outsidePools r List.mem_cons_self ⟨lanHost 10 (by decide), lanHost 100 (by decide)⟩
    List.mem_cons_self (lanHost 31 (by decide)).int (by decide)

end Nfvcl
