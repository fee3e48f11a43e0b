import Mathlib.Data.List.Basic

namespace Nfvcl
set_option autoImplicit true

/-- The exceptions the modelled code raises, with their messages. -/
inductive PyError where
  | valueError (msg : String)
  | typeError (msg : String)
  | attributeError (msg : String)
  | indexError (msg : String)
  | keyError (key : String)
  | assertionError
  | addressValueError (msg : String)
  /-- pydantic refuses the value of a field. -/
  | validationError (field : String)
  | topoK8SHasBlueprint (msg : String)
  | topoK8SNotFound (msg : String)
  | blueprintNG (msg : String)
  | pduProvider (msg : String)
  /-- A plain `Exception`. -/
  | exception (msg : String)
  | recursionError
  | runtimeError (msg : String)
  /-- An exception of a service or library outside the repository. -/
  | external (msg : String)
  deriving DecidableEq, Repr

/-- `except ValueError` also catches its subclasses. -/
def PyError.isValueError : PyError → Bool
  | .valueError _ => true
  | .addressValueError _ => true
  | .validationError _ => true
  | _ => false

/-- `str(e)`. -/
def PyError.str : PyError → String
  | .valueError msg | .typeError msg | .attributeError msg | .indexError msg | .addressValueError msg
  | .topoK8SHasBlueprint msg | .topoK8SNotFound msg | .blueprintNG msg | .pduProvider msg | .exception msg | .runtimeError msg
  | .external msg => msg
  | .recursionError => "maximum recursion depth exceeded"
  | .keyError key => s!"'{key}'"
  | .assertionError => ""
  | .validationError field => s!"1 validation error, field {field}"

/-- `raise` if the call failed. -/
def outcome (result : Option PyError) : EStateM PyError σ Unit :=
  match result with
  | none => pure ()
  | some e => throw e

/-- A key of a `dict`. -/
inductive PyKey where
  | str (s : String)
  /-- A key of another type, with what JSON writes for it. -/
  | other (text : String)
  deriving DecidableEq, Repr

/-- Data as held by an untyped `dict` or `list` field. -/
inductive PyValue where
  | none
  | bool (b : Bool)
  | int (n : Int)
  /-- The IEEE 754 representation. -/
  | float (bits : BitVec 64)
  | str (s : String)
  | list (items : List PyValue)
  | dict (entries : List (PyKey × PyValue))
  /-- An object of another type (a tuple, a set, bytes, a date), with what it reads as after JSON, if
  JSON can write it. -/
  | other (repr : String) (json : Option PyValue)
  deriving Repr

/-- An untyped `dict` field. -/
abbrev PyDict := List (PyKey × PyValue)

mutual

def PyValue.beq : PyValue → PyValue → Bool
  | .none, .none => true
  | .bool a, .bool b => decide (a = b)
  | .int a, .int b => decide (a = b)
  | .float a, .float b => decide (a = b)
  | .str a, .str b => decide (a = b)
  | .list as, .list bs => PyValue.beqList as bs
  | .dict as, .dict bs => PyValue.beqDict as bs
  | .other a as, .other b bs => decide (a = b) && PyValue.beqJson as bs
  | _, _ => false
termination_by structural v => v

def PyValue.beqList : List PyValue → List PyValue → Bool
  | [], [] => true
  | a :: as, b :: bs => PyValue.beq a b && PyValue.beqList as bs
  | _, _ => false
termination_by structural v => v

def PyValue.beqDict : List (PyKey × PyValue) → List (PyKey × PyValue) → Bool
  | [], [] => true
  | (k, a) :: as, (l, b) :: bs => decide (k = l) && (PyValue.beq a b && PyValue.beqDict as bs)
  | _, _ => false
termination_by structural v => v

def PyValue.beqJson : Option PyValue → Option PyValue → Bool
  | .none, .none => true
  | .some a, .some b => PyValue.beq a b
  | _, _ => false
termination_by structural v => v

end

mutual

theorem PyValue.beq_iff (a b : PyValue) : PyValue.beq a b = true ↔ a = b := by
  cases a <;> cases b <;>
    simp only [PyValue.beq, decide_eq_true_eq, PyValue.bool.injEq, PyValue.int.injEq, PyValue.float.injEq,
      PyValue.str.injEq, PyValue.list.injEq, PyValue.dict.injEq, PyValue.other.injEq, Bool.false_eq_true,
      Bool.and_eq_true, reduceCtorEq, PyValue.beqList_iff, PyValue.beqDict_iff, PyValue.beqJson_iff]
termination_by structural a

theorem PyValue.beqList_iff (as bs : List PyValue) : PyValue.beqList as bs = true ↔ as = bs := by
  cases as <;> cases bs <;>
    simp only [PyValue.beqList, Bool.and_eq_true, List.cons.injEq, Bool.false_eq_true,
      reduceCtorEq, PyValue.beq_iff, PyValue.beqList_iff]
termination_by structural as

theorem PyValue.beqDict_iff (as bs : List (PyKey × PyValue)) :
    PyValue.beqDict as bs = true ↔ as = bs := by
  cases as with
  | nil => cases bs <;> simp only [PyValue.beqDict, reduceCtorEq, Bool.false_eq_true]
  | cons x xs =>
    cases bs with
    | nil => simp only [PyValue.beqDict, reduceCtorEq, Bool.false_eq_true]
    | cons y ys =>
      obtain ⟨k, a⟩ := x
      obtain ⟨l, b⟩ := y
      simp only [PyValue.beqDict, Bool.and_eq_true, decide_eq_true_eq, PyValue.beq_iff a b,
        PyValue.beqDict_iff xs ys, List.cons.injEq, Prod.ext_iff, and_assoc]
termination_by structural as

theorem PyValue.beqJson_iff (as bs : Option PyValue) : PyValue.beqJson as bs = true ↔ as = bs := by
  cases as <;> cases bs <;>
    simp only [PyValue.beqJson, Bool.false_eq_true, reduceCtorEq, Option.some.injEq, PyValue.beq_iff]
termination_by structural as

end

instance : DecidableEq PyValue := fun a b => decidable_of_iff _ (PyValue.beq_iff a b)

/-- `d.get(key)`: a dictionary has one value for a key, the first recorded here. -/
def PyDict.get? (d : PyDict) (key : String) : Option PyValue :=
  d.lookup (.str key)

/-- `d[key]`. -/
def PyDict.getItem (d : PyDict) (key : String) : Except PyError PyValue :=
  match PyDict.get? d key with
  | some v => .ok v
  | none => .error (.keyError key)

end Nfvcl
