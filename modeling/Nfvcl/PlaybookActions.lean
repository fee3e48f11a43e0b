import Nfvcl.PyInt
import Nfvcl.YamlValues

namespace Nfvcl.Horse
set_option autoImplicit true
open Handlers

/-! ### Actions from the text of a playbook -/

/-- What the interpreter raises: an `OverflowError` or one of the other exceptions. -/
inductive BuiltinError where
  | overflowError (msg : String)
  | other (e : PyError)
  deriving DecidableEq, Repr

inductive HttpxError where
  | readTimeout
  | connectTimeout
  | connectError
  | other (name : String)
  deriving DecidableEq, Repr

inductive HorseError where
  | httpException (status_code : Nat) (detail : String)
  | yamlError (msg : String)
  | httpx (e : HttpxError)
  | builtin (e : BuiltinError)
  deriving DecidableEq, Repr

def BuiltinError.isTypeError : BuiltinError → Bool
  | .overflowError _ => false
  | .other e => YamlValue.isTypeError e

def py (m : Except PyError α) : Except BuiltinError α :=
  lift .other m

@[simp] theorem py_eq_ok {m : Except PyError α} : py m = .ok a ↔ m = .ok a := lift_eq_ok

@[simp] theorem escapes_py {m : Except PyError α} :
    Escapes BuiltinError.isTypeError (py m) ↔ Escapes YamlValue.isTypeError m := escapes_lift

inductive RTRActionType where
  | dnsRateLimit
  | dnsServDisable
  | dnsServEnable
  | test
  deriving DecidableEq, Repr

structure DOCActionDNSstatus where
  Zone : String
  Status : String
  deriving DecidableEq, Repr

structure DOCActionDNSLimit where
  Zone : String
  Rate : Int
  deriving DecidableEq, Repr

inductive DOCAction where
  | dnsLimit (action : DOCActionDNSLimit)
  | dnsStatus (action : DOCActionDNSstatus)
  deriving DecidableEq, Repr

/-- `int(octets)`: the text of the octets, where only ASCII white space may surround the digits. -/
def intOfBytes (octets : List UInt8) : Except PyError Int :=
  if octets.all (fun b => decide (b < 0x80 ∧ ¬ (0x1c ≤ b ∧ b ≤ 0x1f))) then
    PyInt.parse (String.ofList (octets.map (fun b => Char.ofNat b.toNat)))
  else .error (.valueError "invalid literal for int() with base 10")

/-- `int(limit)`. -/
def intOf : YamlValue → Except BuiltinError Int
  | .bool b => .ok (if b then 1 else 0)
  | .int n => .ok n
  | .float (.finite q) => .ok (q.num.tdiv q.den)
  | .float (.infinite _) => .error (.overflowError "cannot convert float infinity to integer")
  | .float .nan => .error (.other (.valueError "cannot convert float NaN to integer"))
  | .str text => py (PyInt.parse text)
  | .bytes octets => py (intOfBytes octets)
  | limit => .error (.other (.typeError
      s!"int() argument must be a string, a bytes-like object or a real number, not '{limit.typeName}'"))

/-- The part of the text that `[0-9]*` matches. -/
def leadingDigits (text : String) : String :=
  String.ofList (text.toList.takeWhile Char.isDigit)

/-- `re.match("[0-9]*", limit)`; the pattern matches every text. -/
def matchDigits : YamlValue → Except BuiltinError String
  | .str text => .ok (leadingDigits text)
  | .bytes _ => .error (.other (.typeError "cannot use a string pattern on a bytes-like object"))
  | limit => .error (.other (.typeError s!"expected string or bytes-like object, got '{limit.typeName}'"))

variable (safeLoad : Option String → Except String YamlValue) (readsInt : String → Option Int)

/-- `validate_limit`, and the check of its result against the type of the field. -/
def validateLimit (limit : YamlValue) : Except BuiltinError Int :=
  match intOf limit with
  | .ok n => .ok n
  | .error (.other (.valueError _)) => do
    let digits ← matchDigits limit
    match readsInt digits with
    | some n => .ok n
    | none => .error (.other (.validationError "Rate"))
  | .error e => .error e

def docActionDNSLimit (zone : String) (limit : YamlValue) : Except BuiltinError DOCActionDNSLimit := do
  let rate ← validateLimit readsInt limit
  return { Zone := zone, Rate := rate }

/-- The body of the loop at a task with an `iptables`. -/
def taskAction (task : YamlValue) : Except BuiltinError DOCActionDNSLimit := do
  let rule ← py (task.atKey "iptables")
  let limit ← py (rule.atKey "limit")
  docActionDNSLimit readsInt "0.0.0.0" limit

/-- The loop over the tasks, which returns at the first `iptables`. -/
def forTasks : List YamlValue → Except BuiltinError (Option DOCActionDNSLimit)
  | [] => .ok none
  | task :: tasks => do
    if ← py (task.contains "iptables") then
      let action ← taskAction readsInt task
      return some action
    else forTasks tasks

def searchLimit (data : YamlValue) : Except BuiltinError (Option DOCActionDNSLimit) := do
  let play ← py data.first
  let tasks ← py (play.atKey "tasks")
  let elements ← py tasks.iterate
  forTasks readsInt elements

def unprocessable (detail : String) : HorseError :=
  .httpException 422 detail

/-- `str(error)` of the type error in the detail of the answer. -/
def BuiltinError.text : BuiltinError → String
  | .other (.typeError msg) => msg
  | .overflowError msg => msg
  | .other _ => ""

def extractAction (actionType : RTRActionType) (playbook : Option String) : Except HorseError DOCAction := do
  let data ← lift .yamlError (safeLoad playbook)
  match actionType with
  | .dnsRateLimit =>
    let found ← excepting BuiltinError.isTypeError (searchLimit readsInt data)
      (fun error => .error (unprocessable s!"Cannot parse tasks in the playbook: {error.text}")) .builtin
    match found with
    | some action => return .dnsLimit action
    | none =>
      throw (unprocessable "Field >iptables< not present in the body of the playbook. Cannot parse data for DOC")
  | .dnsServDisable => return .dnsStatus { Zone := "", Status := "disabled" }
  | .dnsServEnable => return .dnsStatus { Zone := "", Status := "enabled" }
  | .test => return .dnsStatus { Zone := "TEST", Status := "TEST" }

/-! ### The limit of a playbook -/

open YamlValue

/-- The play at position 0. -/
inductive FirstPlay : YamlValue → YamlValue → Prop
  | list : FirstPlay (.list (play :: plays)) play
  | tuple : FirstPlay (.tuple (play :: plays)) play
  | dict : entry (isInt 0) entries = some play → FirstPlay (.dict entries) play

/-- A task with an entry under `iptables`. -/
def HasIptables (task : YamlValue) : Prop :=
  ∃ entries rule, task = .dict entries ∧ entry (isStr "iptables") entries = some rule

/-- The limit of the first task that has an `iptables` entry in the first play. -/
inductive FirstLimit : YamlValue → YamlValue → Prop
  | mk : FirstPlay data (.dict play) → entry (isStr "tasks") play = some tasks →
      tasks.items = some (before ++ .dict task :: after) → (∀ t ∈ before, ¬ HasIptables t) →
      entry (isStr "iptables") task = some (.dict rule) → entry (isStr "limit") rule = some limit →
      FirstLimit data limit

theorem FirstPlay.unique (h : FirstPlay data play) (h' : FirstPlay data play') : play = play' := by
  cases h with
  | list => cases h' with
    | list => rfl
  | tuple => cases h' with
    | tuple => rfl
  | dict h => cases h' with
    | dict h' => exact Option.some.inj (h.symm.trans h')

theorem first_unique {p : α → Prop} {before before' : List α} (h : before ++ a :: after = before' ++ a' :: after')
    (hbefore : ∀ x ∈ before, ¬ p x) (hbefore' : ∀ x ∈ before', ¬ p x) (ha : p a) (ha' : p a') : a = a' := by
  induction before generalizing before' with
  | nil =>
    cases before' with
    | nil => exact (List.cons.inj h).1
    | cons x before' =>
      obtain ⟨rfl, -⟩ := List.cons.inj h
      exact (hbefore' _ List.mem_cons_self ha).elim
  | cons x before ih =>
    cases before' with
    | nil =>
      obtain ⟨rfl, -⟩ := List.cons.inj h
      exact (hbefore _ List.mem_cons_self ha').elim
    | cons y before' =>
      exact ih (List.cons.inj h).2 (fun z hz => hbefore z (List.mem_cons_of_mem _ hz))
        (fun z hz => hbefore' z (List.mem_cons_of_mem _ hz))

/-- A playbook has at most one such limit. -/
theorem FirstLimit.unique (h : FirstLimit data limit) (h' : FirstLimit data limit') : limit = limit' := by
  obtain ⟨hplay, htasks, hitems, hbefore, hrule, hlimit⟩ := h
  obtain ⟨hplay', htasks', hitems', hbefore', hrule', hlimit'⟩ := h'
  cases hplay.unique hplay'
  cases Option.some.inj (htasks.symm.trans htasks')
  have htask := first_unique (Option.some.inj (hitems.symm.trans hitems')) hbefore hbefore'
    ⟨_, _, rfl, hrule⟩ ⟨_, _, rfl, hrule'⟩
  cases htask
  cases Option.some.inj (hrule.symm.trans hrule')
  exact Option.some.inj (hlimit.symm.trans hlimit')

/-- A limit that is not a number the field can take, and no type error. -/
inductive FaultyLimit : YamlValue → Prop
  | infinite : FaultyLimit (.float (.infinite negative))
  | unread : PyInt.parse text = .error e → readsInt (leadingDigits text) = none → FaultyLimit (.str text)

inductive FaultyTask : YamlValue → Prop
  | noLimit : entry (isStr "iptables") task = some (.dict rule) → entry (isStr "limit") rule = none →
      FaultyTask (.dict task)
  | limit : entry (isStr "iptables") task = some (.dict rule) → entry (isStr "limit") rule = some limit →
      FaultyLimit readsInt limit → FaultyTask (.dict task)

/-- The documents in which something other than a type error is met. -/
inductive Faulty : YamlValue → Prop
  | empty : data.sequence = some [] → Faulty data
  | noPlay : entry (isInt 0) entries = none → Faulty (.dict entries)
  | noTasks : FirstPlay data (.dict play) → entry (isStr "tasks") play = none → Faulty data
  | task : FirstPlay data (.dict play) → entry (isStr "tasks") play = some tasks →
      tasks.items = some (before ++ task :: after) → (∀ t ∈ before, t.contains "iptables" = .ok false) →
      FaultyTask readsInt task → Faulty data

theorem parse_error (h : PyInt.parse text = .error e) : ∃ msg, e = .valueError msg := by
  unfold PyInt.parse at h
  simp only at h
  split at h
  next => cases h
  next =>
    cases h
    exact ⟨_, rfl⟩

theorem intOfBytes_error (h : intOfBytes octets = .error e) : ∃ msg, e = .valueError msg := by
  unfold intOfBytes at h
  split at h
  next => exact parse_error h
  next =>
    cases h
    exact ⟨_, rfl⟩

theorem validateLimit_escapes_iff {limit : YamlValue} :
    Escapes BuiltinError.isTypeError (validateLimit readsInt limit) ↔ FaultyLimit readsInt limit := by
  have hother : ∀ msg, BuiltinError.isTypeError (.other (.typeError msg)) = true := fun _ => rfl
  cases limit with
  | float x =>
    cases x with
    | finite q =>
      constructor
      · intro h
        exact h.elim
      · rintro ⟨⟩
    | infinite negative =>
      constructor
      · intro h
        exact .infinite
      · intro h
        rfl
    | nan =>
      constructor
      · intro h
        cases h
      · rintro ⟨⟩
  | str text =>
    have hint : intOf (.str text) = py (PyInt.parse text) := rfl
    cases hparse : PyInt.parse text with
    | ok n =>
      constructor
      · intro h
        rw [validateLimit, hint, hparse] at h
        exact h.elim
      · rintro (_ | ⟨herror, -⟩)
        rw [hparse] at herror
        cases herror
    | error e =>
      obtain ⟨msg, rfl⟩ := parse_error hparse
      have hvalidate : validateLimit readsInt (.str text) = match readsInt (leadingDigits text) with
          | some n => .ok n
          | none => .error (.other (.validationError "Rate")) := by
        rw [validateLimit, hint, hparse]
        rfl
      rw [hvalidate]
      cases hread : readsInt (leadingDigits text) with
      | some n =>
        constructor
        · intro h
          exact h.elim
        · rintro (_ | ⟨-, hnone⟩)
          rw [hread] at hnone
          cases hnone
      | none =>
        constructor
        · intro h
          exact .unread hparse hread
        · intro h
          rfl
  | bytes octets =>
    have hint : intOf (.bytes octets) = py (intOfBytes octets) := rfl
    constructor
    · intro h
      rw [validateLimit, hint] at h
      cases hparse : intOfBytes octets with
      | ok n =>
        rw [hparse] at h
        exact h.elim
      | error e =>
        obtain ⟨msg, rfl⟩ := intOfBytes_error hparse
        rw [hparse] at h
        cases h
    · rintro ⟨⟩
  | bool b =>
    constructor
    · intro h
      exact h.elim
    · rintro ⟨⟩
  | int n =>
    constructor
    · intro h
      exact h.elim
    · rintro ⟨⟩
  | _ =>
    constructor
    · intro h
      cases h
    · rintro ⟨⟩

theorem docActionDNSLimit_escapes_iff {limit : YamlValue} :
    Escapes BuiltinError.isTypeError (docActionDNSLimit readsInt zone limit) ↔ FaultyLimit readsInt limit := by
  rw [docActionDNSLimit, escapes_bind, validateLimit_escapes_iff]
  constructor
  · rintro (h | ⟨rate, -, h⟩)
    · exact h
    · exact h.elim
  · exact .inl

theorem taskAction_escapes_iff {task : YamlValue} (h : task.contains "iptables" = .ok true) :
    Escapes BuiltinError.isTypeError (taskAction readsInt task) ↔ FaultyTask readsInt task := by
  rw [taskAction, escapes_bind, escapes_py, atKey_escapes_iff]
  constructor
  · rintro (⟨entries, rfl, hnone⟩ | ⟨rule, hrule, hescapes⟩)
    · simp [contains, hnone] at h
    · rw [py_eq_ok, atKey_ok_iff] at hrule
      obtain ⟨entries, rfl, hrule⟩ := hrule
      rw [escapes_bind, escapes_py, atKey_escapes_iff] at hescapes
      obtain ⟨limits, rfl, hnone⟩ | ⟨limit, hlimit, hescapes⟩ := hescapes
      · exact .noLimit hrule hnone
      · rw [py_eq_ok, atKey_ok_iff] at hlimit
        obtain ⟨limits, rfl, hlimit⟩ := hlimit
        exact .limit hrule hlimit ((docActionDNSLimit_escapes_iff readsInt).mp hescapes)
  · rintro (⟨hrule, hnone⟩ | ⟨hrule, hlimit, hfaulty⟩)
    · refine .inr ⟨_, py_eq_ok.mpr (atKey_ok_iff.mpr ⟨_, rfl, hrule⟩), ?_⟩
      rw [escapes_bind, escapes_py, atKey_escapes_iff]
      exact .inl ⟨_, rfl, hnone⟩
    · refine .inr ⟨_, py_eq_ok.mpr (atKey_ok_iff.mpr ⟨_, rfl, hrule⟩), ?_⟩
      rw [escapes_bind]
      exact .inr ⟨_, py_eq_ok.mpr (atKey_ok_iff.mpr ⟨_, rfl, hlimit⟩),
        (docActionDNSLimit_escapes_iff readsInt).mpr hfaulty⟩

theorem FaultyTask.contains {task : YamlValue} (h : FaultyTask readsInt task) :
    task.contains "iptables" = .ok true := by
  obtain ⟨hrule, -⟩ | ⟨hrule, -, -⟩ := h
  · simp [YamlValue.contains, hrule]
  · simp [YamlValue.contains, hrule]

theorem not_hasIptables {task : YamlValue} (h : task.contains "iptables" = .ok false) :
    ¬ HasIptables task := by
  rintro ⟨entries, rule, rfl, hrule⟩
  simp [YamlValue.contains, hrule] at h

theorem forTasks_cons (task : YamlValue) (tasks : List YamlValue) :
    forTasks readsInt (task :: tasks) = py (task.contains "iptables") >>= fun found =>
      if found = true then some <$> taskAction readsInt task else forTasks readsInt tasks := by
  rw [forTasks]
  rfl

/-- By induction on the tasks: the loop stops at the first task that contains the word. -/
theorem forTasks_escapes_iff {tasks : List YamlValue} :
    Escapes BuiltinError.isTypeError (forTasks readsInt tasks) ↔
      ∃ before task after, tasks = before ++ task :: after ∧
        (∀ t ∈ before, t.contains "iptables" = .ok false) ∧ FaultyTask readsInt task := by
  induction tasks with
  | nil =>
    constructor
    · intro h
      exact h.elim
    · rintro ⟨before, task, after, htasks, -⟩
      simp at htasks
  | cons task tasks ih =>
    rw [forTasks_cons, escapes_bind]
    constructor
    · rintro (h | ⟨found, hfound, h⟩)
      · exact (contains_not_escapes _ _ (escapes_py.mp h)).elim
      · rw [py_eq_ok] at hfound
        cases found with
        | true =>
          rw [if_pos rfl, map_eq_pure_bind, escapes_bind] at h
          obtain h | ⟨a, -, h⟩ := h
          · exact ⟨[], task, tasks, rfl, by simp, (taskAction_escapes_iff readsInt hfound).mp h⟩
          · exact h.elim
        | false =>
          rw [if_neg Bool.false_ne_true, ih] at h
          obtain ⟨before, faulty, after, rfl, hbefore, h⟩ := h
          refine ⟨task :: before, faulty, after, rfl, ?_, h⟩
          intro t ht
          obtain rfl | ht := List.mem_cons.mp ht
          · exact hfound
          · exact hbefore t ht
    · rintro ⟨before, faulty, after, htasks, hbefore, h⟩
      cases before with
      | nil =>
        obtain ⟨rfl, rfl⟩ := List.cons.inj htasks
        refine .inr ⟨true, py_eq_ok.mpr h.contains, ?_⟩
        rw [if_pos rfl, map_eq_pure_bind, escapes_bind]
        exact .inl ((taskAction_escapes_iff readsInt h.contains).mpr h)
      | cons first before =>
        obtain ⟨rfl, rfl⟩ := List.cons.inj htasks
        refine .inr ⟨false, py_eq_ok.mpr (hbefore _ List.mem_cons_self), ?_⟩
        rw [if_neg Bool.false_ne_true, ih]
        exact ⟨before, faulty, after, rfl, fun t ht => hbefore t (List.mem_cons_of_mem _ ht), h⟩

theorem first_dict_iff {data : YamlValue} : data.first = .ok (.dict play) ↔ FirstPlay data (.dict play) := by
  cases data with
  | dict entries =>
    cases he : entry (isInt 0) entries with
    | none =>
      constructor
      · intro h
        simp [YamlValue.first, he] at h
      · rintro ⟨⟩
        next h => simp [he] at h
    | some value =>
      constructor
      · intro h
        simp only [YamlValue.first, he, Except.ok.injEq] at h
        exact .dict (by rw [he, h])
      · rintro ⟨⟩
        next h => simpa [YamlValue.first, he] using h
  | list elements =>
    cases elements with
    | nil =>
      constructor
      · intro h
        cases h
      · rintro ⟨⟩
    | cons element elements =>
      constructor
      · intro h
        cases h
        exact .list
      · rintro ⟨⟩
        rfl
  | tuple elements =>
    cases elements with
    | nil =>
      constructor
      · intro h
        cases h
      · rintro ⟨⟩
    | cons element elements =>
      constructor
      · intro h
        cases h
        exact .tuple
      · rintro ⟨⟩
        rfl
  | str text =>
    constructor
    · intro h
      cases htext : text.toList <;> simp [YamlValue.first, YamlValue.sequence, htext] at h
    · rintro ⟨⟩
  | bytes octets =>
    constructor
    · intro h
      cases octets <;> simp [YamlValue.first, YamlValue.sequence] at h
    · rintro ⟨⟩
  | _ =>
    constructor
    · intro h
      cases h
    · rintro ⟨⟩

theorem searchLimit_escapes_iff {data : YamlValue} :
    Escapes BuiltinError.isTypeError (searchLimit readsInt data) ↔ Faulty readsInt data := by
  rw [searchLimit, escapes_bind, escapes_py, first_escapes_iff]
  constructor
  · rintro ((hempty | ⟨entries, rfl, hnone⟩) | ⟨play, hplay, h⟩)
    · exact .empty hempty
    · exact .noPlay hnone
    · rw [py_eq_ok] at hplay
      rw [escapes_bind, escapes_py, atKey_escapes_iff] at h
      obtain ⟨entries, rfl, hnone⟩ | ⟨tasks, htasks, h⟩ := h
      · exact .noTasks (first_dict_iff.mp hplay) hnone
      · rw [py_eq_ok, atKey_ok_iff] at htasks
        obtain ⟨entries, rfl, htasks⟩ := htasks
        rw [escapes_bind, escapes_py] at h
        obtain h | ⟨elements, helements, h⟩ := h
        · exact (iterate_not_escapes _ h).elim
        · rw [py_eq_ok, iterate_ok_iff] at helements
          obtain ⟨before, task, after, rfl, hbefore, h⟩ := (forTasks_escapes_iff readsInt).mp h
          exact .task (first_dict_iff.mp hplay) htasks helements hbefore h
  · rintro (hempty | hnone | ⟨hplay, hnone⟩ | ⟨hplay, htasks, hitems, hbefore, h⟩)
    · exact .inl (.inl hempty)
    · exact .inl (.inr ⟨_, rfl, hnone⟩)
    · refine .inr ⟨_, py_eq_ok.mpr (first_dict_iff.mpr hplay), ?_⟩
      rw [escapes_bind, escapes_py, atKey_escapes_iff]
      exact .inl ⟨_, rfl, hnone⟩
    · refine .inr ⟨_, py_eq_ok.mpr (first_dict_iff.mpr hplay), ?_⟩
      rw [escapes_bind]
      refine .inr ⟨_, py_eq_ok.mpr (atKey_ok_iff.mpr ⟨_, rfl, htasks⟩), ?_⟩
      rw [escapes_bind]
      refine .inr ⟨_, py_eq_ok.mpr (iterate_ok_iff.mpr hitems), ?_⟩
      exact (forTasks_escapes_iff readsInt).mpr ⟨_, _, _, rfl, hbefore, h⟩

/-! ### The documents an action is extracted from -/

/-- The limit of the first task with an `iptables` entry reads as a number, and no task before it is one
that cannot be searched. -/
inductive Readable : YamlValue → Prop
  | mk : FirstPlay data (.dict play) → entry (isStr "tasks") play = some tasks →
      tasks.items = some (before ++ .dict task :: after) →
      (∀ t ∈ before, t.contains "iptables" = .ok false) →
      entry (isStr "iptables") task = some (.dict rule) → entry (isStr "limit") rule = some limit →
      validateLimit readsInt limit = .ok rate → Readable data

theorem forTasks_found {tasks : List YamlValue} (h : forTasks readsInt tasks = .ok (some action)) :
    ∃ before task after, tasks = before ++ task :: after ∧
      (∀ t ∈ before, t.contains "iptables" = .ok false) ∧ taskAction readsInt task = .ok action := by
  induction tasks with
  | nil => cases h
  | cons task tasks ih =>
    rw [forTasks_cons, bind_ok_iff] at h
    obtain ⟨found, hfound, h⟩ := h
    rw [py_eq_ok] at hfound
    cases found with
    | true =>
      rw [if_pos rfl, map_eq_pure_bind, bind_ok_iff] at h
      obtain ⟨a, ha, h⟩ := h
      cases h
      exact ⟨[], task, tasks, rfl, by simp, ha⟩
    | false =>
      rw [if_neg Bool.false_ne_true] at h
      obtain ⟨before, t, after, rfl, hbefore, h⟩ := ih h
      refine ⟨task :: before, t, after, rfl, ?_, h⟩
      intro u hu
      obtain rfl | hu := List.mem_cons.mp hu
      · exact hfound
      · exact hbefore u hu

theorem forTasks_at {before : List YamlValue} (hbefore : ∀ t ∈ before, t.contains "iptables" = .ok false)
    (htask : task.contains "iptables" = .ok true) (h : taskAction readsInt task = .ok action) :
    forTasks readsInt (before ++ task :: after) = .ok (some action) := by
  induction before with
  | nil =>
    rw [List.nil_append, forTasks_cons, bind_ok_iff]
    refine ⟨true, py_eq_ok.mpr htask, ?_⟩
    rw [if_pos rfl, h]
    rfl
  | cons t before ih =>
    rw [List.cons_append, forTasks_cons, bind_ok_iff]
    refine ⟨false, py_eq_ok.mpr (hbefore t List.mem_cons_self), ?_⟩
    rw [if_neg Bool.false_ne_true]
    exact ih (fun u hu => hbefore u (List.mem_cons_of_mem _ hu))

theorem taskAction_ok_iff {task : YamlValue} :
    taskAction readsInt task = .ok action ↔ ∃ entries rule limit rate, task = .dict entries ∧
      entry (isStr "iptables") entries = some (.dict rule) ∧ entry (isStr "limit") rule = some limit ∧
      validateLimit readsInt limit = .ok rate ∧ action = { Zone := "0.0.0.0", Rate := rate } := by
  simp only [taskAction, docActionDNSLimit, bind_ok_iff, py_eq_ok, atKey_ok_iff]
  constructor
  · rintro ⟨rule, ⟨entries, rfl, hrule⟩, limit, ⟨ruleEntries, rfl, hlimit⟩, rate, hrate, h⟩
    cases h
    exact ⟨entries, ruleEntries, limit, rate, rfl, hrule, hlimit, hrate, rfl⟩
  · rintro ⟨entries, rule, limit, rate, rfl, hrule, hlimit, hrate, rfl⟩
    exact ⟨_, ⟨entries, rfl, hrule⟩, limit, ⟨rule, rfl, hlimit⟩, rate, hrate, rfl⟩

theorem searchLimit_some {data : YamlValue} (h : searchLimit readsInt data = .ok (some action)) :
    ∃ limit rate, FirstLimit data limit ∧ validateLimit readsInt limit = .ok rate ∧
      action = { Zone := "0.0.0.0", Rate := rate } := by
  simp only [searchLimit, bind_ok_iff] at h
  obtain ⟨play, hplay, tasks, htasks, elements, helements, hloop⟩ := h
  obtain ⟨before, task, after, rfl, hbefore, h⟩ := forTasks_found readsInt hloop
  obtain ⟨entries, rule, limit, rate, rfl, hrule, hlimit, hrate, rfl⟩ := (taskAction_ok_iff readsInt).mp h
  rw [py_eq_ok] at hplay helements
  rw [py_eq_ok, atKey_ok_iff] at htasks
  obtain ⟨playEntries, rfl, htasks⟩ := htasks
  exact ⟨limit, rate, .mk (first_dict_iff.mp hplay) htasks (iterate_ok_iff.mp helements)
    (fun t ht => not_hasIptables (hbefore t ht)) hrule hlimit, hrate, rfl⟩

theorem searchLimit_found_iff {data : YamlValue} :
    (∃ action, searchLimit readsInt data = .ok (some action)) ↔ Readable readsInt data := by
  constructor
  · rintro ⟨action, h⟩
    simp only [searchLimit, bind_ok_iff] at h
    obtain ⟨play, hplay, tasks, htasks, elements, helements, hloop⟩ := h
    obtain ⟨before, task, after, rfl, hbefore, h⟩ := forTasks_found readsInt hloop
    obtain ⟨entries, rule, limit, rate, rfl, hrule, hlimit, hrate, -⟩ := (taskAction_ok_iff readsInt).mp h
    rw [py_eq_ok] at hplay helements
    rw [py_eq_ok, atKey_ok_iff] at htasks
    obtain ⟨playEntries, rfl, htasks⟩ := htasks
    exact .mk (first_dict_iff.mp hplay) htasks (iterate_ok_iff.mp helements) hbefore hrule hlimit hrate
  · rintro ⟨hplay, htasks, hitems, hbefore, hrule, hlimit, hrate⟩
    obtain ⟨rate, hrate⟩ : ∃ rate, validateLimit readsInt _ = .ok rate := ⟨_, hrate⟩
    refine ⟨{ Zone := "0.0.0.0", Rate := rate }, ?_⟩
    simp only [searchLimit, bind_ok_iff, py_eq_ok]
    refine ⟨_, first_dict_iff.mpr hplay, _, atKey_ok_iff.mpr ⟨_, rfl, htasks⟩, _, iterate_ok_iff.mpr hitems,
      forTasks_at readsInt hbefore ?_ ((taskAction_ok_iff readsInt).mpr ⟨_, _, _, _, rfl, hrule, hlimit, hrate, rfl⟩)⟩
    simp [YamlValue.contains, hrule]

theorem extractAction_limit (h : safeLoad playbook = .ok data) :
    extractAction safeLoad readsInt .dnsRateLimit playbook =
      excepting BuiltinError.isTypeError (searchLimit readsInt data)
        (fun error => .error (unprocessable s!"Cannot parse tasks in the playbook: {error.text}")) .builtin >>=
      fun found => match found with
        | some action => .ok (.dnsLimit action)
        | none => .error (unprocessable
            "Field >iptables< not present in the body of the playbook. Cannot parse data for DOC") := by
  rw [extractAction, h]
  rfl

/-- A limit is wanted for one kind of action only. -/
theorem extractAction_ok_iff :
    (∃ action, extractAction safeLoad readsInt actionType playbook = .ok action) ↔
      ∃ data, safeLoad playbook = .ok data ∧ (actionType = .dnsRateLimit → Readable readsInt data) := by
  cases hload : safeLoad playbook with
  | error msg =>
    constructor
    · rintro ⟨action, h⟩
      rw [extractAction, hload] at h
      cases h
    · rintro ⟨data, hdata, -⟩
      cases hdata
  | ok data =>
    cases actionType with
    | dnsRateLimit =>
      have hextract : (∃ action, extractAction safeLoad readsInt .dnsRateLimit playbook = .ok action) ↔
          ∃ action, searchLimit readsInt data = .ok (some action) := by
        rw [extractAction_limit safeLoad readsInt hload]
        cases hsearch : searchLimit readsInt data with
        | ok found =>
          cases found with
          | none =>
            refine iff_of_false ?_ ?_
            · rintro ⟨action, h⟩
              cases h
            · rintro ⟨action, h⟩
              cases h
          | some action => exact iff_of_true ⟨_, rfl⟩ ⟨_, rfl⟩
        | error e =>
          refine iff_of_false ?_ ?_
          · rintro ⟨action, h⟩
            cases hcaught : e.isTypeError with
            | true =>
              rw [excepting_caught hcaught] at h
              cases h
            | false =>
              rw [excepting_passed hcaught] at h
              cases h
          · rintro ⟨action, h⟩
            cases h
      rw [hextract, searchLimit_found_iff]
      constructor
      · intro h
        exact ⟨data, rfl, fun _ => h⟩
      · rintro ⟨d, hd, h⟩
        cases hd
        exact h rfl
    | _ =>
      refine iff_of_true ?_ ⟨data, rfl, fun h => (nomatch h)⟩
      rw [extractAction, hload]
      exact ⟨_, rfl⟩

/-! ### The outcome of an extraction -/

/-- An action, which carries the limit of the playbook where the rate is limited, or the status 422. -/
def Handled (actionType : RTRActionType) (playbook : Option String) : Prop :=
  match extractAction safeLoad readsInt actionType playbook with
  | .ok action => actionType = .dnsRateLimit → ∃ data limit rate, safeLoad playbook = .ok data ∧
      FirstLimit data limit ∧ validateLimit readsInt limit = .ok rate ∧
      action = .dnsLimit { Zone := "0.0.0.0", Rate := rate }
  | .error (.httpException status_code _) => status_code = 422
  | .error _ => False

theorem extract_action_handled_iff (actionType : RTRActionType) (playbook : Option String) :
    Handled safeLoad readsInt actionType playbook ↔
      ∃ data, safeLoad playbook = .ok data ∧ (actionType = .dnsRateLimit → ¬ Faulty readsInt data) := by
  cases hload : safeLoad playbook with
  | error msg =>
    have hextract : extractAction safeLoad readsInt actionType playbook = .error (.yamlError msg) := by
      rw [extractAction, hload]
      rfl
    constructor
    · intro h
      rw [Handled, hextract] at h
      exact h.elim
    · rintro ⟨data, hdata, -⟩
      cases hdata
  | ok data =>
    cases actionType with
    | dnsRateLimit =>
      rw [Handled, extractAction_limit safeLoad readsInt hload]
      cases hsearch : searchLimit readsInt data with
      | ok found =>
        have hfaulty : ¬ Faulty readsInt data := by
          rw [← searchLimit_escapes_iff, hsearch]
          exact escapes_ok _
        cases found with
        | none => exact iff_of_true rfl ⟨data, rfl, fun _ => hfaulty⟩
        | some action =>
          refine iff_of_true (fun _ => ?_) ⟨data, rfl, fun _ => hfaulty⟩
          obtain ⟨limit, rate, hlimit, hrate, rfl⟩ := searchLimit_some readsInt hsearch
          exact ⟨data, limit, rate, hload, hlimit, hrate, rfl⟩
      | error e =>
        have hescapes : Faulty readsInt data ↔ e.isTypeError = false := by
          rw [← searchLimit_escapes_iff, hsearch]
          exact escapes_error e
        cases hcaught : e.isTypeError with
        | true =>
          rw [excepting_caught hcaught]
          refine iff_of_true rfl ⟨data, rfl, fun _ h => ?_⟩
          rw [hescapes, hcaught] at h
          cases h
        | false =>
          rw [excepting_passed hcaught]
          refine iff_of_false (fun h => h) ?_
          rintro ⟨d, hd, h⟩
          cases hd
          exact h rfl (hescapes.mpr hcaught)
    | dnsServDisable =>
      refine iff_of_true ?_ ⟨data, rfl, fun h => (nomatch h)⟩
      rw [Handled, extractAction, hload]
      exact fun h => (nomatch h)
    | dnsServEnable =>
      refine iff_of_true ?_ ⟨data, rfl, fun h => (nomatch h)⟩
      rw [Handled, extractAction, hload]
      exact fun h => (nomatch h)
    | test =>
      refine iff_of_true ?_ ⟨data, rfl, fun h => (nomatch h)⟩
      rw [Handled, extractAction, hload]
      exact fun h => (nomatch h)

/-- A playbook without plays. -/
theorem extract_action_handled_fails :
    extractAction (fun _ => .ok (.list [])) (fun _ => none) .dnsRateLimit (some "[]") =
        .error (.builtin (.other (.indexError "list index out of range"))) ∧
      ¬ ∀ (safeLoad : Option String → Except String YamlValue) (readsInt : String → Option Int)
        (actionType : RTRActionType) (playbook : Option String),
          Handled safeLoad readsInt actionType playbook := by
  refine ⟨rfl, ?_⟩
  intro h
  exact h (fun _ => .ok (.list [])) (fun _ => none) .dnsRateLimit (some "[]")

end Nfvcl.Horse
