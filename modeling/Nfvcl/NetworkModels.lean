import Mathlib.Data.List.Basic
import Mathlib.Algebra.Order.Ring.Nat
import Nfvcl.PyValue

namespace Nfvcl
set_option autoImplicit true

/-- `ipaddress.IPv4Address`; `int` is `int(address)`. -/
structure IPv4Address where
  int : Nat
  bounded : int < 2 ^ 32
  deriving DecidableEq, Repr

/-- `address + n`, which raises outside of 0.0.0.0 .. 255.255.255.255. -/
def IPv4Address.add (a : IPv4Address) (n : Int) : Except PyError IPv4Address :=
  let address := (a.int : Int) + n
  if h : 0 ≤ address ∧ address < 2 ^ 32 then .ok ⟨address.toNat, by omega⟩
  else if address < 0 then
    .error (.addressValueError s!"{address} (< 0) is not permitted as an IPv4 address")
  else
    .error (.addressValueError s!"{address} (>= 2**32) is not permitted as an IPv4 address")

theorem IPv4Address.add_int {a b : IPv4Address} (h : a.add n = .ok b) : (b.int : Int) = a.int + n := by
  unfold IPv4Address.add at h
  simp only at h
  split at h
  · next hn =>
    cases h
    exact Int.toNat_of_nonneg hn.1
  · split at h <;> cases h

/-- `ipaddress.IPv4Network`, validated: the address part has no host bits. -/
structure IPv4Network where
  networkAddress : Nat
  prefixlen : Nat
  prefixlen_le : prefixlen ≤ 32
  no_host_bits : 2 ^ (32 - prefixlen) ∣ networkAddress
  bounded : networkAddress < 2 ^ 32
  deriving DecidableEq, Repr

def IPv4Network.numAddresses (n : IPv4Network) : Nat :=
  2 ^ (32 - n.prefixlen)

def IPv4Network.broadcastAddress (n : IPv4Network) : Nat :=
  n.networkAddress + n.numAddresses - 1

theorem IPv4Network.numAddresses_pos (n : IPv4Network) : 0 < n.numAddresses :=
  Nat.two_pow_pos _

/-- An aligned block never runs past the end of the address space. -/
theorem IPv4Network.end_bounded (n : IPv4Network) : n.networkAddress + n.numAddresses ≤ 2 ^ 32 := by
  obtain ⟨k, hk⟩ := n.no_host_bits
  have hb := n.bounded
  have hsplit : (2 : Nat) ^ 32 = 2 ^ (32 - n.prefixlen) * 2 ^ n.prefixlen := by
    rw [← pow_add]
    congr 1
    have := n.prefixlen_le
    omega
  rw [hk, hsplit] at hb
  have hlt : k < 2 ^ n.prefixlen := Nat.lt_of_mul_lt_mul_left hb
  rw [hk, hsplit]
  unfold IPv4Network.numAddresses
  calc 2 ^ (32 - n.prefixlen) * k + 2 ^ (32 - n.prefixlen)
      = 2 ^ (32 - n.prefixlen) * (k + 1) := (Nat.mul_succ _ _).symm
    _ ≤ 2 ^ (32 - n.prefixlen) * 2 ^ n.prefixlen := Nat.mul_le_mul_left _ hlt

/-- `network[n]` for an index counted from the network address. -/
def IPv4Network.getItem (n : IPv4Network) (i : Nat) : Except PyError IPv4Address :=
  if h : i < n.numAddresses then
    .ok ⟨n.networkAddress + i,
      Nat.lt_of_lt_of_le (Nat.add_lt_add_left h _) n.end_bounded⟩
  else .error (.indexError "address out of range")

/-- `network[-i]` for an index counted from the broadcast address. -/
def IPv4Network.getItemFromEnd (n : IPv4Network) (i : Nat) : Except PyError IPv4Address :=
  if h : 0 < i ∧ i ≤ n.numAddresses then
    .ok ⟨n.networkAddress + (n.numAddresses - i), by
      have := n.end_bounded
      omega⟩
  else .error (.indexError "address out of range")

theorem IPv4Network.getItem_int {n : IPv4Network} (h : n.getItem i = .ok a) :
    a.int = n.networkAddress + i := by
  unfold IPv4Network.getItem at h
  split at h <;> cases h
  rfl

theorem IPv4Network.getItemFromEnd_int {n : IPv4Network} (h : n.getItemFromEnd i = .ok a) :
    a.int = n.networkAddress + (n.numAddresses - i) := by
  unfold IPv4Network.getItemFromEnd at h
  split at h <;> cases h
  rfl

/-- `10.0.0.0/24`. -/
def IPv4Network.lan : IPv4Network := ⟨167772160, 24, by decide, by decide, by decide⟩

/-- The hosts of a `/24` are written as numerals. -/
instance hostNumerals : NeZero 256 := ⟨by decide⟩

/-- The dotted form of an address. -/
def IPv4Address.exploded (a : IPv4Address) : String :=
  let octet := fun (i : Nat) => toString (a.int / 256 ^ i % 256)
  octet 3 ++ "." ++ octet 2 ++ "." ++ octet 1 ++ "." ++ octet 0

/-- The `address/prefix` form of a network. -/
def IPv4Network.exploded (n : IPv4Network) : String :=
  (IPv4Address.mk n.networkAddress n.bounded).exploded ++ "/" ++ toString n.prefixlen

/-- `address in network`. -/
def IPv4Network.contains (n : IPv4Network) (a : IPv4Address) : Bool :=
  decide (n.networkAddress ≤ a.int ∧ a.int ≤ n.broadcastAddress)

inductive NetworkTypeEnum where
  | vlan | vxlan | gre | flat
  deriving DecidableEq, Repr

/-- `IPv4Pool`; `stop` is its field `end`. -/
structure IPv4Pool where
  start : IPv4Address
  stop : IPv4Address
  deriving DecidableEq, Repr

structure IPv4ReservedRange extends IPv4Pool where
  owner : String
  deriving DecidableEq, Repr

/-- `IPv4ReservedRange.__eq__`: an end of `self` lies in `other`. -/
def IPv4ReservedRange.overlaps (self other : IPv4ReservedRange) : Bool :=
  decide ((other.start.int ≤ self.start.int ∧ self.start.int ≤ other.stop.int) ∨
    (other.start.int ≤ self.stop.int ∧ self.stop.int ≤ other.stop.int))

structure NetworkModel where
  name : String
  external : Bool := false
  type : NetworkTypeEnum
  vid : Option Int := none
  dhcp : Bool := true
  ids : List PyDict := []
  cidr : IPv4Network
  gatewayIp : Option IPv4Address := none
  allocationPool : List IPv4Pool := []
  reservedRanges : List IPv4ReservedRange := []
  dnsNameservers : List IPv4Address := []
  deriving DecidableEq, Repr

/-- `list.remove` with the overridden `==`: the first range overlapping `r` goes. -/
def removeOverlapping (r : IPv4ReservedRange) : List IPv4ReservedRange → List IPv4ReservedRange
  | [] => []
  | x :: xs => if x = r ∨ x.overlaps r then xs else x :: removeOverlapping r xs

/-- The printed form of `reserved_range.model_dump()`. -/
def IPv4ReservedRange.dump (r : IPv4ReservedRange) : String :=
  "\x7b'start': '" ++ r.start.exploded ++ "', 'end': '" ++ r.stop.exploded ++
    "', 'owner': '" ++ r.owner ++ "'\x7d"

def NetworkModel.addReservedRange (reservedRange : IPv4ReservedRange) :
    EStateM PyError NetworkModel Unit := do
  let net ← get
  if net.reservedRanges.any (fun x => decide (x = reservedRange) || x.overlaps reservedRange) then
    throw (.valueError ("Reserved range >" ++ reservedRange.dump ++
      "< is already present in the topology. Or have overlapped IPs with an existing" ++
      "range. See IPv4ReservedRange for more info."))
  set { net with reservedRanges := net.reservedRanges ++ [reservedRange] }

theorem NetworkModel.addReservedRange_cases (r : IPv4ReservedRange) (n : NetworkModel) :
    (∃ e, (NetworkModel.addReservedRange r).run n = .error e n) ∨
      (NetworkModel.addReservedRange r).run n =
        .ok () { n with reservedRanges := n.reservedRanges ++ [r] } := by
  simp only [NetworkModel.addReservedRange, EStateM.run_bind, EStateM.run_get]
  by_cases h : n.reservedRanges.any (fun x => decide (x = r) || x.overlaps r) = true
  · rw [if_pos h]
    exact .inl ⟨_, rfl⟩
  · rw [if_neg h]
    exact .inr rfl

/-- The search loop of `release_range` over the reserved ranges not yet visited. -/
def releaseSearch (owner : String) (ipRange : Option IPv4ReservedRange) :
    List IPv4ReservedRange → Except PyError (Option IPv4ReservedRange)
  | [] => .ok none
  | r :: rs =>
    match ipRange with
    | none => if r.owner = owner then .ok (some r) else releaseSearch owner ipRange rs
    | some range =>
      if owner ≠ range.owner then .error .assertionError
      else if r.overlaps range then .ok (some r)
      else releaseSearch owner ipRange rs

def NetworkModel.releaseRange (owner : String) (ipRange : Option IPv4ReservedRange) :
    EStateM PyError NetworkModel (Option IPv4ReservedRange) := do
  let net ← get
  match releaseSearch owner ipRange net.reservedRanges with
  | .error e => throw e
  | .ok none => return none
  | .ok (some r) =>
    set { net with reservedRanges := removeOverlapping r net.reservedRanges }
    return some r

theorem NetworkModel.releaseRange_cases (owner : String) (ipRange : Option IPv4ReservedRange)
    (n : NetworkModel) :
    (∃ e, (NetworkModel.releaseRange owner ipRange).run n = .error e n) ∨
      (NetworkModel.releaseRange owner ipRange).run n = .ok none n ∨
      ∃ r, (NetworkModel.releaseRange owner ipRange).run n =
        .ok (some r) { n with reservedRanges := removeOverlapping r n.reservedRanges } := by
  simp only [NetworkModel.releaseRange, EStateM.run_bind, EStateM.run_get]
  cases releaseSearch owner ipRange n.reservedRanges with
  | error e => exact .inl ⟨e, rfl⟩
  | ok found =>
    cases found with
    | none => exact .inr (.inl rfl)
    | some r => exact .inr (.inr ⟨r, rfl⟩)

structure RouterPortModel where
  net : String
  ipAddr : IPv4Address
  deriving DecidableEq, Repr

structure RouterModel where
  name : String
  ports : List RouterPortModel := []
  internalNet : List RouterPortModel := []
  externalGatewayInfo : Option PyDict := none
  deriving DecidableEq, Repr

structure NetworkInterfaceModel where
  name : String
  mgmt : Bool := false
  interfaceName : Option String := none
  ip : IPv4Address
  network : Option IPv4Network := none
  gateway : Option IPv4Address := none
  deriving DecidableEq, Repr

inductive PduType where
  | linux | gnb | lwgateway | ru | cudu | core5g
  deriving DecidableEq, Repr

structure PduModel where
  name : String
  area : Int
  type : PduType
  instanceType : String
  description : Option String := none
  networkInterfaces : List NetworkInterfaceModel := []
  username : Option String := none
  password : Option String := none
  becomePassword : Option String := none
  config : PyDict := []
  lockedBy : Option String := none
  deriving DecidableEq, Repr

end Nfvcl
