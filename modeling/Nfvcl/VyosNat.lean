import Nfvcl.Effects

namespace Nfvcl
set_option autoImplicit true
open Effects

structure VyOSSourceNATRule where
  outboundNetwork : String
  outboundInterface : Option String := none
  sourceAddress : String
  virtualIp : String := "masquerade"
  ruleNumber : Int := 1
  description : String
  deriving DecidableEq, Repr

structure VyOSDestNATRule where
  inboundNetwork : String
  inboundInterface : Option String := none
  virtualIp : String
  realDestinationIp : String
  ruleNumber : Int := 1
  description : String := ""
  deriving DecidableEq, Repr

structure VyOS1to1NATRule where
  inboundNetwork : String
  virtualIp : String
  realDestinationIp : String
  sourceAddress : String
  outboundNetwork : String
  ruleNumber : Int := 1
  description : String := ""
  outboundInterface : Option String
  inboundInterface : Option String
  deriving DecidableEq, Repr

/-- What the lists of applied rules hold. -/
inductive VyOSNATRule where
  | source (rule : VyOSSourceNATRule)
  | dest (rule : VyOSDestNATRule)
  deriving DecidableEq, Repr

def VyOSNATRule.ruleNumber : VyOSNATRule → Int
  | .source rule => rule.ruleNumber
  | .dest rule => rule.ruleNumber

structure AnsibleVyOSConfigTask where
  lines : List String := []
  save : String := "yes"
  deriving DecidableEq, Repr

/-- `AnsibleTaskDescription` with the VyOS task it carries. -/
structure VyOSTaskDescription where
  tasksName : String
  tasksModule : String
  task : AnsibleVyOSConfigTask
  deriving DecidableEq, Repr

inductive VyOSError where
  | ruleAlreadyPresent (msg : String)
  | ruleNotFound (msg : String)
  | attributeError (msg : String)
  | validationError (msg : String)
  deriving DecidableEq, Repr

structure VmVyOSNatConfigurator where
  taskList : List VyOSTaskDescription := []
  natRules : List Int := []
  appliedSnatRules : List VyOSNATRule := []
  appliedDnatRules : List VyOSNATRule := []
  deriving DecidableEq, Repr

namespace VmVyOSNatConfigurator

abbrev NatM := EStateM VyOSError VmVyOSNatConfigurator

/-- An optional text in an f-string. -/
def optionalText (text : Option String) : String :=
  text.getD "None"

def configTask (name : String) (lines : List String) : VyOSTaskDescription where
  tasksName := name
  tasksModule := "vyos.vyos.vyos_config"
  task := { lines := lines }

def dnatLines (rule : VyOSDestNATRule) : List String :=
  let number := toString rule.ruleNumber
  ["set nat destination rule " ++ number ++ " inbound-interface name " ++ optionalText rule.inboundInterface,
    "set nat destination rule " ++ number ++ " destination address " ++ rule.virtualIp,
    "set nat destination rule " ++ number ++ " translation address " ++ rule.realDestinationIp,
    "set nat destination rule " ++ number ++ " description '" ++ rule.description ++ "'"]

def setupDnatRule (rule : VyOSDestNATRule) : NatM Unit :=
  modify fun conf => { conf with
    natRules := conf.natRules ++ [rule.ruleNumber]
    appliedDnatRules := conf.appliedDnatRules ++ [.dest rule]
    taskList := conf.taskList ++
      [configTask ("DNAT rule " ++ toString rule.ruleNumber ++ " creation") (dnatLines rule)] }

def alreadyPresent (ruleNumber : Int) : VyOSError :=
  .ruleAlreadyPresent ("Rule " ++ toString ruleNumber ++ " is already present")

def addDnatRule (rule : VyOSDestNATRule) : NatM Unit := do
  let conf ← get
  if rule.ruleNumber ∈ conf.natRules then
    throw (alreadyPresent rule.ruleNumber)
  setupDnatRule rule

def snatLines (rule : VyOSSourceNATRule) : List String :=
  let number := toString rule.ruleNumber
  ["set nat source rule " ++ number ++ " outbound-interface name " ++ optionalText rule.outboundInterface,
    "set nat source rule " ++ number ++ " source address " ++ rule.sourceAddress,
    "set nat source rule " ++ number ++ " translation address " ++ rule.virtualIp]

def setupSnatRule (rule : VyOSSourceNATRule) : NatM Unit :=
  modify fun conf => { conf with
    natRules := conf.natRules ++ [rule.ruleNumber]
    appliedSnatRules := conf.appliedSnatRules ++ [.source rule]
    taskList := conf.taskList ++
      [configTask ("SNAT rule " ++ toString rule.ruleNumber ++ " creation") (snatLines rule)] }

def addSnatRule (rule : VyOSSourceNATRule) : NatM Unit := do
  let conf ← get
  if rule.ruleNumber ∈ conf.natRules then
    throw (alreadyPresent rule.ruleNumber)
  setupSnatRule rule

/-- Reading an attribute the model does not declare: `_nat_rules`, `_snat_rules`, `_dnat_rules`. -/
def undeclared (name : String) : NatM α :=
  throw (.attributeError ("'VmVyOSNatConfigurator' object has no attribute '" ++ name ++ "'"))

/-- `model_validate` of an object that is neither a dict nor an instance of the class. -/
def modelValidate (cls : String) (_rule : VyOS1to1NATRule) : NatM α :=
  throw (.validationError ("1 validation error for " ++ cls))

def add1to1Rule (rule : VyOS1to1NATRule) : NatM Unit := do
  let natRules : List Int ← undeclared "_nat_rules"
  if rule.ruleNumber ∈ natRules then
    throw (alreadyPresent rule.ruleNumber)
  let snatRule : VyOSSourceNATRule ← modelValidate "VyOSSourceNATRule" rule
  let dnatRule : VyOSDestNATRule ← modelValidate "VyOSDestNATRule" rule
  setupSnatRule snatRule
  setupDnatRule dnatRule

def snatDeletion (ruleNumber : Int) : VyOSTaskDescription :=
  configTask ("SNAT rule " ++ toString ruleNumber ++ " deletion") ["del nat source rule " ++ toString ruleNumber]

def dnatDeletion (ruleNumber : Int) : VyOSTaskDescription :=
  configTask ("DNAT rule " ++ toString ruleNumber ++ " deletion")
    ["del nat destination rule " ++ toString ruleNumber]

/-- `_delete_snat_rule`, which appends the rule to the applied ones once more. -/
def deleteSnatRule (rule : VyOSNATRule) : NatM Unit :=
  modify fun conf => { conf with
    appliedSnatRules := conf.appliedSnatRules ++ [rule]
    taskList := conf.taskList ++ [snatDeletion rule.ruleNumber] }

/-- `_delete_dnat_rule`, which appends to the applied source rules too. -/
def deleteDnatRule (rule : VyOSNATRule) : NatM Unit :=
  modify fun conf => { conf with
    appliedSnatRules := conf.appliedSnatRules ++ [rule]
    taskList := conf.taskList ++ [dnatDeletion rule.ruleNumber] }

def deleteNatRule (ruleNumber : Int) : NatM Unit := do
  let natRules : List Int ← undeclared "_nat_rules"
  if ruleNumber ∈ natRules then
    throw (.ruleNotFound ("Rule " ++ toString ruleNumber ++ " has not been found"))
  let snatRules : List VyOSNATRule ← undeclared "_snat_rules"
  snatRules.forM fun snatRule => do
    if snatRule.ruleNumber = ruleNumber then
      deleteSnatRule snatRule
      modify fun conf => { conf with appliedSnatRules := conf.appliedSnatRules.erase snatRule }
  let dnatRules : List VyOSNATRule ← undeclared "_dnat_rules"
  dnatRules.forM fun dnatRule => do
    if dnatRule.ruleNumber = ruleNumber then
      deleteDnatRule dnatRule
      modify fun conf => { conf with appliedDnatRules := conf.appliedDnatRules.erase dnatRule }

end VmVyOSNatConfigurator

inductive NatCall where
  | addSnat (rule : VyOSSourceNATRule)
  | addDnat (rule : VyOSDestNATRule)
  | add1to1 (rule : VyOS1to1NATRule)
  | delete (ruleNumber : Int)
  deriving DecidableEq, Repr

namespace NatCall
open VmVyOSNatConfigurator

def exec : NatCall → NatM Unit
  | .addSnat rule => addSnatRule rule
  | .addDnat rule => addDnatRule rule
  | .add1to1 rule => add1to1Rule rule
  | .delete ruleNumber => deleteNatRule ruleNumber

/-- The number a call asks to add. -/
def asked : NatCall → Option Int
  | .addSnat rule => some rule.ruleNumber
  | .addDnat rule => some rule.ruleNumber
  | .add1to1 rule => some rule.ruleNumber
  | .delete _ => none

/-- The commands that undo an addition. -/
def deletions : NatCall → List VyOSTaskDescription
  | .addSnat rule => [snatDeletion rule.ruleNumber]
  | .addDnat rule => [dnatDeletion rule.ruleNumber]
  | .add1to1 rule => [snatDeletion rule.ruleNumber, dnatDeletion rule.ruleNumber]
  | .delete _ => []

/-- The number a source or destination rule is added under. -/
def oneWay : NatCall → Option Int
  | .addSnat rule => some rule.ruleNumber
  | .addDnat rule => some rule.ruleNumber
  | _ => none

end NatCall

namespace VmVyOSNatConfigurator

def numbers (conf : VmVyOSNatConfigurator) : List Int :=
  (conf.appliedSnatRules ++ conf.appliedDnatRules).map VyOSNATRule.ruleNumber

def Synced (conf : VmVyOSNatConfigurator) : Prop :=
  ∀ n, n ∈ conf.natRules ↔ n ∈ conf.numbers

abbrev after (calls : List NatCall) : VmVyOSNatConfigurator :=
  runAll NatCall.exec {} calls

/-- The three lists and the task queue are kept in step along a run from empty lists. -/
structure Bookkeeps (calls : List NatCall) : Prop where
  synced : ∀ before later, calls = before ++ later → (after before).Synced
  duplicate : ∀ before call later n, calls = before ++ call :: later → call.asked = some n →
    n ∈ (after before).natRules →
    ∃ msg, call.exec.run (after before) = .error (.ruleAlreadyPresent msg) (after before)
  absent : ∀ before later n, calls = before ++ .delete n :: later → n ∉ (after before).natRules →
    ∃ msg, (NatCall.delete n).exec.run (after before) = .error (.ruleNotFound msg) (after before)
  undone : ∀ before call later n, calls = before ++ call :: .delete n :: later → call.asked = some n →
    call.exec.run (after before) = .ok () (after (before ++ [call])) →
    (NatCall.delete n).exec.run (after (before ++ [call])) = .ok () { after before with
      taskList := (after (before ++ [call])).taskList ++ call.deletions }

/-- A run without a 1-to-1 rule under a used number and without the deletion of an absent or a just added one. -/
structure Spared (calls : List NatCall) : Prop where
  fresh : ∀ before rule later, calls = before ++ .add1to1 rule :: later →
    rule.ruleNumber ∉ before.filterMap NatCall.oneWay
  known : ∀ before n later, calls = before ++ .delete n :: later → n ∈ before.filterMap NatCall.oneWay
  settled : ∀ before call n later, calls = before ++ call :: .delete n :: later → call.oneWay = some n →
    n ∈ before.filterMap NatCall.oneWay

theorem addSnatRule_present (h : rule.ruleNumber ∈ conf.natRules) :
    (addSnatRule rule).run conf = .error (alreadyPresent rule.ruleNumber) conf := by
  simp only [addSnatRule, EStateM.run_bind, EStateM.run_get]
  rw [if_pos h]
  rfl

theorem addSnatRule_absent (h : rule.ruleNumber ∉ conf.natRules) :
    (addSnatRule rule).run conf = (setupSnatRule rule).run conf := by
  simp only [addSnatRule, EStateM.run_bind, EStateM.run_get]
  rw [if_neg h]

theorem addDnatRule_present (h : rule.ruleNumber ∈ conf.natRules) :
    (addDnatRule rule).run conf = .error (alreadyPresent rule.ruleNumber) conf := by
  simp only [addDnatRule, EStateM.run_bind, EStateM.run_get]
  rw [if_pos h]
  rfl

theorem addDnatRule_absent (h : rule.ruleNumber ∉ conf.natRules) :
    (addDnatRule rule).run conf = (setupDnatRule rule).run conf := by
  simp only [addDnatRule, EStateM.run_bind, EStateM.run_get]
  rw [if_neg h]

/-- A call through an undeclared attribute raises and changes nothing. -/
theorem add1to1Rule_raises (rule : VyOS1to1NATRule) (conf : VmVyOSNatConfigurator) :
    ∃ msg, (add1to1Rule rule).run conf = .error (.attributeError msg) conf :=
  ⟨_, rfl⟩

theorem deleteNatRule_raises (n : Int) (conf : VmVyOSNatConfigurator) :
    ∃ msg, (deleteNatRule n).run conf = .error (.attributeError msg) conf :=
  ⟨_, rfl⟩

/-- The numbers after a call: the one it adds, if it is a new one. -/
theorem natRules_exec (call : NatCall) (conf : VmVyOSNatConfigurator) (n : Int) :
    n ∈ (finalState (call.exec.run conf)).natRules ↔ n ∈ conf.natRules ∨ call.oneWay = some n := by
  cases call with
  | addSnat rule =>
    by_cases h : rule.ruleNumber ∈ conf.natRules
    · rw [NatCall.exec, addSnatRule_present h]
      simp only [finalState_error, NatCall.oneWay, Option.some.injEq]
      exact ⟨.inl, fun hn => hn.elim id (fun hn => hn ▸ h)⟩
    · rw [NatCall.exec, addSnatRule_absent h]
      change n ∈ conf.natRules ++ [rule.ruleNumber] ↔ _
      simp [NatCall.oneWay, eq_comm]
  | addDnat rule =>
    by_cases h : rule.ruleNumber ∈ conf.natRules
    · rw [NatCall.exec, addDnatRule_present h]
      simp only [finalState_error, NatCall.oneWay, Option.some.injEq]
      exact ⟨.inl, fun hn => hn.elim id (fun hn => hn ▸ h)⟩
    · rw [NatCall.exec, addDnatRule_absent h]
      change n ∈ conf.natRules ++ [rule.ruleNumber] ↔ _
      simp [NatCall.oneWay, eq_comm]
  | add1to1 rule =>
    obtain ⟨msg, hraised⟩ := add1to1Rule_raises rule conf
    rw [NatCall.exec, hraised]
    simp [NatCall.oneWay]
  | delete m =>
    obtain ⟨msg, hraised⟩ := deleteNatRule_raises m conf
    rw [NatCall.exec, hraised]
    simp [NatCall.oneWay]

theorem natRules_runAll (calls : List NatCall) (conf : VmVyOSNatConfigurator) (n : Int) :
    n ∈ (runAll NatCall.exec conf calls).natRules ↔ n ∈ conf.natRules ∨ n ∈ calls.filterMap NatCall.oneWay := by
  induction calls generalizing conf with
  | nil => simp
  | cons call calls ih =>
    rw [runAll_cons, ih, natRules_exec, or_assoc]
    simp only [List.mem_filterMap, List.mem_cons, exists_eq_or_imp]

theorem natRules_after (calls : List NatCall) (n : Int) :
    n ∈ (after calls).natRules ↔ n ∈ calls.filterMap NatCall.oneWay := by
  rw [after, natRules_runAll]
  simp

theorem Synced.setupSnatRule (h : conf.Synced) (rule : VyOSSourceNATRule) :
    (finalState ((setupSnatRule rule).run conf)).Synced := by
  intro n
  change n ∈ conf.natRules ++ [rule.ruleNumber] ↔
    n ∈ (conf.appliedSnatRules ++ [VyOSNATRule.source rule] ++ conf.appliedDnatRules).map VyOSNATRule.ruleNumber
  have hn := h n
  simp only [numbers, List.map_append, List.mem_append] at hn ⊢
  rw [hn]
  simp only [List.map_cons, List.map_nil, VyOSNATRule.ruleNumber]
  exact or_right_comm

theorem Synced.setupDnatRule (h : conf.Synced) (rule : VyOSDestNATRule) :
    (finalState ((setupDnatRule rule).run conf)).Synced := by
  intro n
  change n ∈ conf.natRules ++ [rule.ruleNumber] ↔
    n ∈ (conf.appliedSnatRules ++ (conf.appliedDnatRules ++ [VyOSNATRule.dest rule])).map VyOSNATRule.ruleNumber
  have hn := h n
  simp only [numbers, List.map_append, List.mem_append] at hn ⊢
  rw [hn]
  simp only [List.map_cons, List.map_nil, VyOSNATRule.ruleNumber]
  exact or_assoc

theorem Synced.exec (h : conf.Synced) (call : NatCall) : (finalState (call.exec.run conf)).Synced := by
  cases call with
  | addSnat rule =>
    by_cases hn : rule.ruleNumber ∈ conf.natRules
    · rw [NatCall.exec, addSnatRule_present hn]
      exact h
    · rw [NatCall.exec, addSnatRule_absent hn]
      exact h.setupSnatRule rule
  | addDnat rule =>
    by_cases hn : rule.ruleNumber ∈ conf.natRules
    · rw [NatCall.exec, addDnatRule_present hn]
      exact h
    · rw [NatCall.exec, addDnatRule_absent hn]
      exact h.setupDnatRule rule
  | add1to1 rule => exact h
  | delete n => exact h

theorem synced_after (calls : List NatCall) : (after calls).Synced := by
  apply runAll_mem
  · intro call hcall conf hconf
    exact hconf.exec call
  · intro n
    exact Iff.rfl

theorem oneWay_asked {call : NatCall} (h : call.oneWay = some n) : call.asked = some n := by
  cases call with
  | addSnat rule => exact h
  | addDnat rule => exact h
  | add1to1 rule => cases h
  | delete m => cases h

/-- An addition that returns is one of a new number, in one direction. -/
theorem exec_added {call : NatCall} (hasked : call.asked = some n) :
    (∃ conf', call.exec.run conf = .ok () conf') ↔ call.oneWay = some n ∧ n ∉ conf.natRules := by
  cases call with
  | addSnat rule =>
    cases hasked
    by_cases h : rule.ruleNumber ∈ conf.natRules
    · rw [NatCall.exec, addSnatRule_present h]
      constructor
      · intro hok
        obtain ⟨conf', hok⟩ := hok
        cases hok
      · intro hnew
        exact absurd h hnew.2
    · rw [NatCall.exec, addSnatRule_absent h]
      exact ⟨fun _ => ⟨rfl, h⟩, fun _ => ⟨_, rfl⟩⟩
  | addDnat rule =>
    cases hasked
    by_cases h : rule.ruleNumber ∈ conf.natRules
    · rw [NatCall.exec, addDnatRule_present h]
      constructor
      · intro hok
        obtain ⟨conf', hok⟩ := hok
        cases hok
      · intro hnew
        exact absurd h hnew.2
    · rw [NatCall.exec, addDnatRule_absent h]
      exact ⟨fun _ => ⟨rfl, h⟩, fun _ => ⟨_, rfl⟩⟩
  | add1to1 rule =>
    constructor
    · intro hok
      obtain ⟨conf', hok⟩ := hok
      cases hok
    · intro hnew
      cases hnew.1
  | delete m => cases hasked

theorem Bookkeeps.spared (h : Bookkeeps calls) : Spared calls := by
  constructor
  · intro before rule later hcalls hused
    rw [← natRules_after] at hused
    obtain ⟨msg, hrefused⟩ := h.duplicate before (.add1to1 rule) later _ hcalls rfl hused
    obtain ⟨msg', hraised⟩ := add1to1Rule_raises rule (after before)
    cases hrefused.symm.trans hraised
  · intro before n later hcalls
    rw [← natRules_after]
    by_contra habsent
    obtain ⟨msg, hrefused⟩ := h.absent before later n hcalls habsent
    obtain ⟨msg', hraised⟩ := deleteNatRule_raises n (after before)
    cases hrefused.symm.trans hraised
  · intro before call n later hcalls hcall
    rw [← natRules_after]
    by_contra hnew
    obtain ⟨conf, hadded⟩ := (exec_added (oneWay_asked hcall)).2 ⟨hcall, hnew⟩
    have hafter : after (before ++ [call]) = conf := by
      rw [after, runAll_append, runAll_cons, runAll_nil, hadded, finalState_ok]
    have hundone := h.undone before call later n hcalls (oneWay_asked hcall) (hafter ▸ hadded)
    obtain ⟨msg, hraised⟩ := deleteNatRule_raises n (after (before ++ [call]))
    cases hundone.symm.trans hraised

theorem Spared.bookkeeps (h : Spared calls) : Bookkeeps calls := by
  constructor
  · intro before later hcalls
    exact synced_after before
  · intro before call later n hcalls hasked hused
    cases call with
    | addSnat rule =>
      cases hasked
      exact ⟨_, addSnatRule_present hused⟩
    | addDnat rule =>
      cases hasked
      exact ⟨_, addDnatRule_present hused⟩
    | add1to1 rule =>
      cases hasked
      exact absurd ((natRules_after _ _).1 hused) (h.fresh before rule later hcalls)
    | delete m => cases hasked
  · intro before later n hcalls habsent
    exact absurd ((natRules_after _ _).2 (h.known before n later hcalls)) habsent
  · intro before call later n hcalls hasked hadded
    obtain ⟨honeWay, hnew⟩ := (exec_added hasked).1 ⟨_, hadded⟩
    exact absurd ((natRules_after _ _).2 (h.settled before call n later hcalls honeWay)) hnew

/-- The books are in step along a run exactly if it never counts on `_nat_rules`. -/
theorem bookkeeps_iff (calls : List NatCall) : Bookkeeps calls ↔ Spared calls :=
  ⟨Bookkeeps.spared, Spared.bookkeeps⟩

def webRule : VyOSDestNATRule where
  inboundNetwork := "10.0.0.0/16"
  inboundInterface := some "eth1"
  virtualIp := "7.7.7.7"
  realDestinationIp := "192.168.0.45"
  ruleNumber := 10

/-- A rule that was just added is not deleted. -/
theorem bookkeeps_fails : ¬ Bookkeeps [.addDnat webRule, .delete 10] := by
  intro h
  exact absurd (h.spared.settled [] (.addDnat webRule) 10 [] rfl rfl) List.not_mem_nil

end VmVyOSNatConfigurator
end Nfvcl
