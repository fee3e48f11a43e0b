import Mathlib.Logic.Function.Basic
import Mathlib.Data.Option.Basic

namespace Nfvcl.FiniteMap
set_option autoImplicit true

/-- The requests a keyed collection answers. -/
inductive MapOp (α κ : Type) where
  | add (a : α)
  | upd (a : α)
  | del (k : κ) (force : Bool)
  | get (k : κ)
  | find (k : κ)

variable {α κ : Type} [DecidableEq κ]

/-- A collection as a mathematical object: the answer to a request (`none` when it is
refused, `some` of the value returned otherwise) and the map afterwards. `refuses` is the
guard a present element may put up against its removal. -/
def spec (key : α → κ) (refuses : Bool → α → Prop) [∀ b, DecidablePred (refuses b)]
    (m : κ → Option α) : MapOp α κ → Option (Option α) × (κ → Option α)
  | .add a =>
    match m (key a) with
    | some _ => (none, m)
    | none => (some none, Function.update m (key a) (some a))
  | .upd a =>
    match m (key a) with
    | some _ => (some (some a), Function.update m (key a) (some a))
    | none => (none, m)
  | .del k force =>
    match m k with
    | some a => if refuses force a then (none, m) else (some (some a), Function.update m k none)
    | none => (none, m)
  | .get k =>
    match m k with
    | some a => (some (some a), m)
    | none => (none, m)
  | .find k =>
    match m k with
    | some _ => (some none, m)
    | none => (none, m)

end Nfvcl.FiniteMap
