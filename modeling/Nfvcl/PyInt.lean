import Mathlib.Data.List.Basic
import Nfvcl.PyValue

namespace Nfvcl.PyInt
set_option autoImplicit true

/-- The zeros of the decimal digits of Unicode; the nine characters after each are its other digits. -/
def decimalZeros : List Nat :=
  [0x30, 0x660, 0x6f0, 0x7c0, 0x966, 0x9e6, 0xa66, 0xae6, 0xb66, 0xbe6, 0xc66, 0xce6, 0xd66, 0xde6,
    0xe50, 0xed0, 0xf20, 0x1040, 0x1090, 0x17e0, 0x1810, 0x1946, 0x19d0, 0x1a80, 0x1a90, 0x1b50,
    0x1bb0, 0x1c40, 0x1c50, 0xa620, 0xa8d0, 0xa900, 0xa9d0, 0xa9f0, 0xaa50, 0xabf0, 0xff10, 0x104a0,
    0x10d30, 0x11066, 0x110f0, 0x11136, 0x111d0, 0x112f0, 0x11450, 0x114d0, 0x11650, 0x116c0,
    0x11730, 0x118e0, 0x11950, 0x11c50, 0x11d50, 0x11da0, 0x16a60, 0x16ac0, 0x16b50, 0x1d7ce,
    0x1d7d8, 0x1d7e2, 0x1d7ec, 0x1d7f6, 0x1e140, 0x1e2f0, 0x1e950, 0x1fbf0]

def digit? (c : Char) : Option Nat :=
  (decimalZeros.find? (fun z => decide (z ≤ c.toNat ∧ c.toNat < z + 10))).map (fun z => c.toNat - z)

def isSpace (c : Char) : Bool :=
  decide ((0x9 ≤ c.toNat ∧ c.toNat ≤ 0xd) ∨ (0x1c ≤ c.toNat ∧ c.toNat ≤ 0x20) ∨
    (0x2000 ≤ c.toNat ∧ c.toNat ≤ 0x200a) ∨
    c.toNat ∈ [0x85, 0xa0, 0x1680, 0x2028, 0x2029, 0x202f, 0x205f, 0x3000])

/-- Digits, with single underscores between them. -/
def digits : List Char → Option (List Nat)
  | [] => none
  | [c] => (digit? c).map (fun d => [d])
  | c :: '_' :: rest => do
    let d ← digit? c
    let ds ← digits rest
    return d :: ds
  | c :: rest => do
    let d ← digit? c
    let ds ← digits rest
    return d :: ds

/-- More digits than this are refused. -/
def maxStrDigits : Nat := 4300

def magnitude (cs : List Char) : Option Nat := do
  let ds ← digits cs
  if ds.length ≤ maxStrDigits then return ds.foldl (fun n d => 10 * n + d) 0 else none

/-- `int(s)`. -/
def parse (s : String) : Except PyError Int :=
  let stripped := ((s.toList.dropWhile isSpace).reverse.dropWhile isSpace).reverse
  let value : Option Int := match stripped with
    | '-' :: cs => (magnitude cs).map (fun n => -(n : Int))
    | '+' :: cs => (magnitude cs).map (fun n => (n : Int))
    | cs => (magnitude cs).map (fun n => (n : Int))
  match value with
  | some n => .ok n
  | none => .error (.valueError "invalid literal for int() with base 10")

end Nfvcl.PyInt
