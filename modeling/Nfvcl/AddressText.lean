import Mathlib.Data.List.Basic
import Nfvcl.NetworkModels

namespace Nfvcl
set_option autoImplicit true

/-- `str.split(sep)` with a separator of one character. -/
def splitChars (sep : Char) : List Char → List (List Char)
  | [] => [[]]
  | c :: cs =>
    if c = sep then [] :: splitChars sep cs
    else
      match splitChars sep cs with
      | [] => [[c]]
      | word :: words => (c :: word) :: words

theorem splitChars_of_not_mem (h : sep ∉ cs) : splitChars sep cs = [cs] := by
  induction cs with
  | nil => rfl
  | cons c cs ih =>
    obtain ⟨hc, hcs⟩ := not_or.1 (fun hor => h (List.mem_cons.2 hor))
    rw [splitChars, if_neg (Ne.symm hc), ih hcs]

theorem splitChars_append (h : sep ∉ cs) : splitChars sep (cs ++ sep :: rest) = cs :: splitChars sep rest := by
  induction cs with
  | nil => rw [List.nil_append, splitChars, if_pos rfl]
  | cons c cs ih =>
    obtain ⟨hc, hcs⟩ := not_or.1 (fun hor => h (List.mem_cons.2 hor))
    rw [List.cons_append, splitChars, if_neg (Ne.symm hc), ih hcs]

/-- `int(s, 10)` of ASCII digits. -/
def decimal (cs : List Char) : Nat := cs.foldl (fun n c => 10 * n + (c.toNat - '0'.toNat)) 0

/-- `_parse_octet`. -/
def parseOctet (cs : List Char) : Option Nat :=
  if cs ≠ [] ∧ cs.all Char.isDigit ∧ cs.length ≤ 3 ∧ (cs = ['0'] ∨ cs.head? ≠ some '0') ∧ decimal cs ≤ 255 then
    some (decimal cs)
  else none

/-- `ipaddress.IPv4Address(text)`. -/
def IPv4Address.ofChars (cs : List Char) : Option IPv4Address :=
  match (splitChars '.' cs).map parseOctet with
  | [some a, some b, some c, some d] =>
    if h : ((a * 256 + b) * 256 + c) * 256 + d < 2 ^ 32 then some ⟨((a * 256 + b) * 256 + c) * 256 + d, h⟩ else none
  | _ => none

/-- The length of a prefix whose ones are the given mask. -/
def prefixOfMask (mask : Nat) : Option Nat := (List.range 33).find? fun p => decide (mask = 2 ^ 32 - 2 ^ (32 - p))

/-- `_make_netmask`: a length, or a mask of the network or of the hosts. -/
def prefixOfChars (cs : List Char) : Option Nat :=
  if cs ≠ [] ∧ cs.all Char.isDigit ∧ decimal cs ≤ 32 then some (decimal cs)
  else
    match IPv4Address.ofChars cs with
    | none => none
    | some mask => (prefixOfMask mask.int).or (prefixOfMask (2 ^ 32 - 1 - mask.int))

/-- `ipaddress.IPv4Network(text)`, which refuses host bits. -/
def IPv4Network.ofChars (cs : List Char) : Option IPv4Network :=
  let network (address mask : List Char) : Option IPv4Network :=
    match IPv4Address.ofChars address, prefixOfChars mask with
    | some a, some p =>
      if h : p ≤ 32 ∧ 2 ^ (32 - p) ∣ a.int then some ⟨a.int, p, h.1, h.2, a.bounded⟩ else none
    | _, _ => none
  match splitChars '/' cs with
  | [address] => network address ['3', '2']
  | [address, mask] => network address mask
  | _ => none

def IPv4Address.ofString (s : String) : Option IPv4Address := IPv4Address.ofChars s.toList

def IPv4Network.ofString (s : String) : Option IPv4Network := IPv4Network.ofChars s.toList

section Printed

theorem toString_toList (n : Nat) : (toString n).toList = Nat.toDigits 10 n := by
  simp [toString, Nat.repr]

/-- The printed form of an octet. -/
theorem octet_printed :
    ∀ n < 256, parseOctet (Nat.toDigits 10 n) = some n ∧ '.' ∉ Nat.toDigits 10 n ∧ '/' ∉ Nat.toDigits 10 n := by
  decide +kernel

theorem prefix_printed :
    ∀ p < 33, prefixOfChars (Nat.toDigits 10 p) = some p ∧ '/' ∉ Nat.toDigits 10 p := by
  decide +kernel

variable (a : IPv4Address)

def IPv4Address.octet (i : Nat) : Nat := a.int / 256 ^ i % 256

theorem IPv4Address.octet_lt (i : Nat) : a.octet i < 256 := Nat.mod_lt _ (by omega)

theorem IPv4Address.exploded_toList :
    a.exploded.toList = Nat.toDigits 10 (a.octet 3) ++ '.' :: (Nat.toDigits 10 (a.octet 2) ++ '.' ::
      (Nat.toDigits 10 (a.octet 1) ++ '.' :: Nat.toDigits 10 (a.octet 0))) := by
  have hdot : (".").toList = ['.'] := rfl
  simp only [IPv4Address.exploded, String.toList_append, toString_toList, hdot, IPv4Address.octet, List.append_assoc,
    List.cons_append, List.nil_append]

theorem IPv4Address.ofString_exploded : IPv4Address.ofString a.exploded = some a := by
  have hoctet (i : Nat) := octet_printed (a.octet i) (a.octet_lt i)
  have hsum : ((a.octet 3 * 256 + a.octet 2) * 256 + a.octet 1) * 256 + a.octet 0 = a.int := by
    have hbound := a.bounded
    unfold IPv4Address.octet
    omega
  unfold IPv4Address.ofString IPv4Address.ofChars
  rw [a.exploded_toList, splitChars_append (hoctet 3).2.1, splitChars_append (hoctet 2).2.1, splitChars_append (hoctet 1).2.1,
    splitChars_of_not_mem (hoctet 0).2.1]
  simp only [List.map_cons, List.map_nil, (hoctet _).1, hsum, a.bounded, dite_true]

theorem IPv4Network.ofString_exploded (n : IPv4Network) : IPv4Network.ofString n.exploded = some n := by
  have haddress := IPv4Address.ofString_exploded ⟨n.networkAddress, n.bounded⟩
  have hprefix := prefix_printed n.prefixlen (Nat.lt_succ_of_le n.prefixlen_le)
  have hslash : '/' ∉ (IPv4Address.mk n.networkAddress n.bounded).exploded.toList := by
    have hoctet (i : Nat) := (octet_printed _ (IPv4Address.octet_lt ⟨n.networkAddress, n.bounded⟩ i)).2.2
    rw [IPv4Address.exploded_toList]
    simp [hoctet]
  have htext : n.exploded.toList = (IPv4Address.mk n.networkAddress n.bounded).exploded.toList ++ '/' :: Nat.toDigits 10 n.prefixlen := by
    have hsep : ("/").toList = ['/'] := rfl
    simp only [IPv4Network.exploded, String.toList_append, toString_toList, hsep, List.append_assoc, List.singleton_append]
  unfold IPv4Address.ofString at haddress
  unfold IPv4Network.ofString IPv4Network.ofChars
  rw [htext, splitChars_append hslash, splitChars_of_not_mem hprefix.2]
  simp only [haddress, hprefix.1, n.prefixlen_le, n.no_host_bits, and_self, dite_true]

end Printed

end Nfvcl
