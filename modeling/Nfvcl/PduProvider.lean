import Mathlib.Data.List.Basic
import Mathlib.Logic.Function.Basic
import Nfvcl.Topology

namespace Nfvcl
set_option autoImplicit true
open Effects

/-- How an f-string prints a member of `PduType`. -/
def PduType.str : PduType → String
  | .linux => "PduType.LINUX"
  | .gnb => "PduType.GNB"
  | .lwgateway => "PduType.LWGATEWAY"
  | .ru => "PduType.RU"
  | .cudu => "PduType.CUDU"
  | .core5g => "PduType.CORE5G"

/-- A filter on an optional string, left out when the string is `None` or empty. -/
def filterIfGiven (field : PduModel → String) (value : Option String) (pdus : List PduModel) : List PduModel :=
  match value with
  | none => pdus
  | some v => if v = "" then pdus else pdus.filter (fun x => decide (field x = v))

/-- A `PDUProvider` and the blueprint it belongs to. -/
structure PDUProvider where
  blueprintId : String
  lockedPdus : List PduModel := []
  deriving DecidableEq, Repr

namespace PDUProvider

/-- `build_topology().get_pdus()`. -/
def getPdus (document : Option TopologyModel) : Except PyError (List PduModel) :=
  match document with
  | none => .error (.attributeError "'NoneType' object has no attribute 'get_pdus'")
  | some t => .ok t.pdus

def findPdu (document : Option TopologyModel) (area : Int) (pduType : PduType) (instanceType name : Option String) :
    Except PyError PduModel := do
  let allPdus ← getPdus document
  let filteredByArea := allPdus.filter (fun x => decide (x.area = area))
  let filteredByType := filteredByArea.filter (fun x => decide (x.type = pduType))
  let found := filterIfGiven PduModel.name name (filterIfGiven PduModel.instanceType instanceType filteredByType)
  match found with
  | [] =>
    let shown := name.getD "None"
    throw (.pduProvider s!"No PDU found with area {area} of type {pduType.str} and with name '{shown}' (None mean that the name was not used to find the PDU)")
  | [pdu] => return pdu
  | _ =>
    throw (.pduProvider s!"Found multiple PDUs with area {area} of type {pduType.str}, the name need to be used in this case to choose one")

def findByName (document : Option TopologyModel) (name : String) : Except PyError PduModel := do
  let allPdus ← getPdus document
  match allPdus.filter (fun x => decide (x.name = name)) with
  | [] => throw (.pduProvider s!"No PDU found with name '{name}'")
  | pdu :: _ => return pdu

/-- `lock_pdu` up to the topology: the test of the passed object, which is marked and listed. -/
def markLocked : EStateM PyError (PDUProvider × PduModel) Unit := do
  let (provider, pdu) ← get
  match pdu.lockedBy with
  | none =>
    let locked := { pdu with lockedBy := some provider.blueprintId }
    set ({ provider with lockedPdus := provider.lockedPdus ++ [locked] }, locked)
  | some owner => throw (.pduProvider s!"PDU {pdu.name} already locked by blueprint {owner}")

/-- `unlock_pdu` up to the topology. Two PDUs are equal when their names are, so
`locked_pdus.remove` takes out the first entry of that name. -/
def markUnlocked : EStateM PyError (PDUProvider × PduModel) Unit := do
  let (provider, pdu) ← get
  match pdu.lockedBy with
  | none => throw (.pduProvider s!"PDU {pdu.name} is not locked")
  | some owner =>
    if owner = provider.blueprintId then
      let unlocked := { pdu with lockedBy := none }
      set (provider, unlocked)
      if provider.lockedPdus.any (fun x => decide (x.name = pdu.name)) then
        set ({ provider with
          lockedPdus := provider.lockedPdus.eraseP (fun x => decide (x.name = pdu.name)) }, unlocked)
      else
        throw (.valueError "list.remove(x): x not in list")
    else
      throw (.pduProvider s!"The PDU is locked by another blueprint: {owner}")

section Runs

theorem markLocked_run (provider : PDUProvider) (pdu : PduModel) :
    markLocked.run (provider, pdu) =
      match pdu.lockedBy with
      | none =>
        .ok () ({ provider with
          lockedPdus := provider.lockedPdus ++ [{ pdu with lockedBy := some provider.blueprintId }] },
            { pdu with lockedBy := some provider.blueprintId })
      | some owner => .error (.pduProvider s!"PDU {pdu.name} already locked by blueprint {owner}") (provider, pdu) := by
  simp only [markLocked, EStateM.run_bind, EStateM.run_get]
  cases pdu.lockedBy <;> rfl

/-- A call of `unlock_pdu` that goes on has taken the PDU off the list. -/
theorem markUnlocked_ok (h : markUnlocked.run (provider, pdu) = .ok u s) :
    pdu.lockedBy = some provider.blueprintId ∧ pdu.name ∈ provider.lockedPdus.map PduModel.name ∧
      s = ({ provider with
        lockedPdus := provider.lockedPdus.eraseP (fun x => decide (x.name = pdu.name)) },
          { pdu with lockedBy := none }) := by
  simp only [markUnlocked, EStateM.run_bind, EStateM.run_get] at h
  cases hl : pdu.lockedBy with
  | none =>
    rw [hl] at h
    cases h
  | some owner =>
    rw [hl] at h
    by_cases ho : owner = provider.blueprintId
    · by_cases hany : provider.lockedPdus.any (fun x => decide (x.name = pdu.name))
      · simp only [if_pos ho, if_pos hany] at h
        cases h
        obtain ⟨x, hx, hname⟩ := List.any_eq_true.1 hany
        exact ⟨by rw [ho], List.mem_map.2 ⟨x, hx, of_decide_eq_true hname⟩, rfl⟩
      · simp only [if_pos ho, if_neg hany] at h
        cases h
    · simp only [if_neg ho] at h
      cases h

/-- A refused call leaves the list of locked PDUs as it was. -/
theorem markUnlocked_error (h : markUnlocked.run (provider, pdu) = .error e s) : s.1 = provider := by
  simp only [markUnlocked, EStateM.run_bind, EStateM.run_get] at h
  cases hl : pdu.lockedBy with
  | none =>
    rw [hl] at h
    cases h
    rfl
  | some owner =>
    rw [hl] at h
    by_cases ho : owner = provider.blueprintId
    · by_cases hany : provider.lockedPdus.any (fun x => decide (x.name = pdu.name))
      · simp only [if_pos ho, if_pos hany] at h
        cases h
      · simp only [if_pos ho, if_neg hany] at h
        cases h
        rfl
    · simp only [if_neg ho] at h
      cases h
      rfl

end Runs

end PDUProvider

end Nfvcl
