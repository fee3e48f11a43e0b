import Mathlib.Data.List.Infix
import Mathlib.Data.Rat.Defs
import Nfvcl.PyValue
import Nfvcl.Handlers

namespace Nfvcl
set_option autoImplicit true

/-! ### The values a YAML document is read as -/

inductive YamlFloat where
  | finite (value : ℚ)
  | infinite (negative : Bool)
  | nan

inductive YamlValue where
  | null
  | bool (b : Bool)
  | int (n : Int)
  | float (x : YamlFloat)
  | str (text : String)
  | bytes (octets : List UInt8)
  | date (text : String)
  | datetime (text : String)
  | list (elements : List YamlValue)
  | tuple (elements : List YamlValue)
  | dict (entries : List (YamlValue × YamlValue))
  | set (elements : List YamlValue)

namespace YamlValue

def typeName : YamlValue → String
  | null => "NoneType"
  | bool _ => "bool"
  | int _ => "int"
  | float _ => "float"
  | str _ => "str"
  | bytes _ => "bytes"
  | date _ => "datetime.date"
  | datetime _ => "datetime.datetime"
  | list _ => "list"
  | tuple _ => "tuple"
  | dict _ => "dict"
  | set _ => "set"

/-- `v == n`: the booleans are the numbers 0 and 1. -/
def isInt (n : Int) : YamlValue → Bool
  | bool b => decide ((if b then 1 else 0) = n)
  | int m => decide (m = n)
  | float (.finite q) => decide (q = n)
  | _ => false

def isStr (text : String) : YamlValue → Bool
  | str s => decide (s = text)
  | _ => false

/-- The value of the key, in the entries of a dictionary. -/
def entry (key : YamlValue → Bool) (entries : List (YamlValue × YamlValue)) : Option YamlValue :=
  (entries.find? (fun e => key e.1)).map Prod.snd

/-- The elements of a sequence, by position. -/
def sequence : YamlValue → Option (List YamlValue)
  | str s => some (s.toList.map (fun c => str (String.singleton c)))
  | bytes octets => some (octets.map (fun b => int b.toNat))
  | list elements => some elements
  | tuple elements => some elements
  | _ => none

/-- What `for x in v` runs over. -/
def items : YamlValue → Option (List YamlValue)
  | dict entries => some (entries.map Prod.fst)
  | set elements => some elements
  | v => v.sequence

def notSubscriptable (v : YamlValue) : PyError :=
  .typeError s!"'{v.typeName}' object is not subscriptable"

/-- `v[0]`. -/
def first (v : YamlValue) : Except PyError YamlValue :=
  match v with
  | dict entries =>
    match entry (isInt 0) entries with
    | some value => .ok value
    | none => .error (.keyError "0")
  | v =>
    match v.sequence with
    | some (element :: _) => .ok element
    | some [] => .error (.indexError s!"{v.typeName} index out of range")
    | none => .error v.notSubscriptable

/-- `v[key]` with a text. -/
def atKey (key : String) : YamlValue → Except PyError YamlValue
  | dict entries =>
    match entry (isStr key) entries with
    | some value => .ok value
    | none => .error (.keyError key)
  | str _ => .error (.typeError "string indices must be integers, not 'str'")
  | bytes _ => .error (.typeError "byte indices must be integers or slices, not str")
  | list _ => .error (.typeError "list indices must be integers or slices, not str")
  | tuple _ => .error (.typeError "tuple indices must be integers or slices, not str")
  | v => .error v.notSubscriptable

def iterate (v : YamlValue) : Except PyError (List YamlValue) :=
  match v.items with
  | some elements => .ok elements
  | none => .error (.typeError s!"'{v.typeName}' object is not iterable")

/-- `text in v`. -/
def contains (text : String) : YamlValue → Except PyError Bool
  | str s => .ok (decide (text.toList <:+: s.toList))
  | bytes _ => .error (.typeError "a bytes-like object is required, not 'str'")
  | list elements => .ok (elements.any (isStr text))
  | tuple elements => .ok (elements.any (isStr text))
  | set elements => .ok (elements.any (isStr text))
  | dict entries => .ok (entry (isStr text) entries).isSome
  | v => .error (.typeError s!"argument of type '{v.typeName}' is not iterable")

/-! ### What a handler of type errors does not catch -/

open Handlers

def isTypeError : PyError → Bool
  | .typeError _ => true
  | _ => false

@[simp] theorem isTypeError_notSubscriptable (v : YamlValue) :
    isTypeError v.notSubscriptable = true := rfl

theorem first_escapes_iff {v : YamlValue} :
    Escapes isTypeError v.first ↔
      v.sequence = some [] ∨ ∃ entries, v = .dict entries ∧ entry (isInt 0) entries = none := by
  have hsequence : ∀ v : YamlValue, (∀ entries, v ≠ .dict entries) →
      v.first = match v.sequence with
        | some (element :: _) => .ok element
        | some [] => .error (.indexError s!"{v.typeName} index out of range")
        | none => .error v.notSubscriptable := by
    intro v hv
    cases v with
    | dict entries => exact (hv entries rfl).elim
    | _ => rfl
  by_cases hv : ∃ entries, v = .dict entries
  · obtain ⟨entries, rfl⟩ := hv
    cases he : entry (isInt 0) entries with
    | none => simp [first, he, isTypeError]
    | some value => simp [first, he, sequence]
  · push Not at hv
    rw [hsequence v hv]
    have hno : ¬ ∃ entries, v = .dict entries ∧ entry (isInt 0) entries = none := by
      rintro ⟨entries, h, -⟩
      exact hv entries h
    match v.sequence with
    | some (element :: elements) => simp [hno]
    | some [] => simp [isTypeError]
    | none => simp [hno]

theorem atKey_escapes_iff {v : YamlValue} :
    Escapes isTypeError (v.atKey key) ↔
      ∃ entries, v = .dict entries ∧ entry (isStr key) entries = none := by
  cases v with
  | dict entries =>
    cases he : entry (isStr key) entries with
    | none => simp [atKey, he, isTypeError]
    | some value => simp [atKey, he]
  | _ => simp [atKey, isTypeError, notSubscriptable]

theorem iterate_not_escapes (v : YamlValue) : ¬ Escapes isTypeError v.iterate := by
  unfold iterate
  split
  next => exact escapes_ok _
  next => simp [isTypeError]

theorem contains_not_escapes (text : String) (v : YamlValue) :
    ¬ Escapes isTypeError (v.contains text) := by
  cases v <;> simp [contains, isTypeError]

theorem atKey_ok_iff {v value : YamlValue} :
    v.atKey key = .ok value ↔ ∃ entries, v = .dict entries ∧ entry (isStr key) entries = some value := by
  cases v with
  | dict entries =>
    cases he : entry (isStr key) entries with
    | none => simp [atKey, he]
    | some value => simp [atKey, he]
  | _ => simp [atKey]

theorem iterate_ok_iff {v : YamlValue} : v.iterate = .ok elements ↔ v.items = some elements := by
  unfold iterate
  split
  next h => simp [h]
  next h => simp [h]

end YamlValue

end Nfvcl
