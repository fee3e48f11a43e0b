import Mathlib.Data.Nat.Notation

namespace Nfvcl.Handlers
set_option autoImplicit true

/-! ### Exceptions that pass a handler -/

/-- The program raises an exception that the handler does not catch. -/
def Escapes (caught : ε → Bool) : Except ε α → Prop
  | .ok _ => False
  | .error e => caught e = false

@[simp] theorem escapes_ok {caught : ε → Bool} (a : α) : ¬ Escapes caught (.ok a : Except ε α) := fun h => h

@[simp] theorem escapes_pure {caught : ε → Bool} (a : α) : ¬ Escapes caught (pure a : Except ε α) := fun h => h

@[simp] theorem escapes_error {caught : ε → Bool} (e : ε) :
    Escapes caught (.error e : Except ε α) ↔ caught e = false := Iff.rfl

/-- An exception passes when it does so in the first half, or in the second half after it. -/
theorem escapes_bind {caught : ε → Bool} {m : Except ε α} {f : α → Except ε β} :
    Escapes caught (m >>= f) ↔ Escapes caught m ∨ ∃ a, m = .ok a ∧ Escapes caught (f a) := by
  cases m with
  | ok a =>
    constructor
    · intro h
      exact .inr ⟨a, rfl, h⟩
    · rintro (h | ⟨b, hb, h⟩)
      · exact h.elim
      · cases hb
        exact h
  | error e =>
    constructor
    · intro h
      exact .inl h
    · rintro (h | ⟨b, hb, -⟩)
      · exact h
      · cases hb

theorem bind_ok_iff {m : Except ε α} {f : α → Except ε β} :
    (m >>= f) = .ok b ↔ ∃ a, m = .ok a ∧ f a = .ok b := by
  cases m with
  | ok a =>
    constructor
    · intro h
      exact ⟨a, rfl, h⟩
    · rintro ⟨a', ha, h⟩
      cases ha
      exact h
  | error e =>
    constructor
    · intro h
      cases h
    · rintro ⟨a, ha, -⟩
      cases ha

/-- The exceptions of one kind, as exceptions of another that has them. -/
def lift (g : ε → ε') (m : Except ε α) : Except ε' α :=
  m.mapError g

@[simp] theorem lift_ok (g : ε → ε') (a : α) : lift g (.ok a : Except ε α) = .ok a := rfl

@[simp] theorem lift_error (g : ε → ε') (e : ε) :
    lift g (.error e : Except ε α) = .error (g e) := rfl

@[simp] theorem lift_eq_ok {g : ε → ε'} {m : Except ε α} : lift g m = .ok a ↔ m = .ok a := by
  cases m with
  | ok b => simp
  | error e => simp

theorem escapes_lift {caught : ε' → Bool} {g : ε → ε'} {m : Except ε α} :
    Escapes caught (lift g m) ↔ Escapes (fun e => caught (g e)) m := by
  cases m with
  | ok a => exact Iff.rfl
  | error e => exact Iff.rfl

/-- `try: m except E as error: handler(error)`. -/
def excepting (caught : ε → Bool) (m : Except ε α) (handler : ε → Except ε' α) (g : ε → ε') :
    Except ε' α :=
  match m with
  | .ok a => .ok a
  | .error e => if caught e then handler e else .error (g e)

@[simp] theorem excepting_ok (caught : ε → Bool) (handler : ε → Except ε' α) (g : ε → ε') (a : α) :
    excepting caught (.ok a) handler g = .ok a := rfl

theorem excepting_caught {caught : ε → Bool} (h : caught e = true) (handler : ε → Except ε' α)
    (g : ε → ε') : excepting caught (.error e) handler g = handler e := if_pos h

theorem excepting_passed {caught : ε → Bool} (h : caught e = false) (handler : ε → Except ε' α)
    (g : ε → ε') : excepting caught (.error e) handler g = .error (g e) :=
  if_neg (by rw [h]; exact Bool.false_ne_true)

end Nfvcl.Handlers
