import Mathlib.Data.List.Basic
import Nfvcl.PerformanceManager

namespace Nfvcl
set_option autoImplicit true
open Effects

/-- What the records say of an operation, its times left out. -/
structure OperationRecord where
  opName : String
  type : BlueprintPerformanceType
  ended : Bool
  calls : List (String × List (String × String))
  deriving DecidableEq, Repr

def OperationRecord.noting (record : OperationRecord) (methodName : String) (info : List (String × String)) :
    OperationRecord :=
  { record with calls := record.calls ++ [(methodName, info)] }

def BlueprintPerformanceOperation.summary (operation : BlueprintPerformanceOperation) : OperationRecord where
  opName := operation.opName
  type := operation.type
  ended := operation.finish.isSome
  calls := operation.providerCalls.map (fun call => (call.methodName, call.info))

theorem summary_ended (now : Moment) (operation : BlueprintPerformanceOperation) :
    (operation.ended now).summary = { operation.summary with ended := true } := rfl

theorem summary_record (call : BlueprintPerformanceProviderCall) (operation : BlueprintPerformanceOperation) :
    (operation.record call).summary = operation.summary.noting call.methodName call.info := by
  simp only [BlueprintPerformanceOperation.summary, BlueprintPerformanceOperation.record, OperationRecord.noting,
    List.map_append, List.map_cons, List.map_nil]

theorem summary_endCall (callId : ProviderCallId) (now : Moment) (operation : BlueprintPerformanceOperation) :
    (operation.endCall callId now).summary = operation.summary := by
  have hcall : ((fun call : BlueprintPerformanceProviderCall => (call.methodName, call.info)) ∘
      BlueprintPerformanceProviderCall.ended callId now) = fun call => (call.methodName, call.info) := by
    funext call
    unfold Function.comp BlueprintPerformanceProviderCall.ended
    split
    · rfl
    · rfl
  simp only [BlueprintPerformanceOperation.summary, BlueprintPerformanceOperation.endCall, List.map_map, hcall]

namespace PerformanceManager

def held (m : PerformanceManager) (blueprintId : BlueId) : List OperationId :=
  ((m.performanceDict.get? blueprintId).map BlueprintPerformance.operations).getD []

def summaryAt (m : PerformanceManager) (operationId : OperationId) : Option OperationRecord :=
  m.objects[operationId]?.map BlueprintPerformanceOperation.summary

/-- The records of a blueprint, in order. -/
def records (m : PerformanceManager) (blueprintId : BlueId) : List OperationRecord :=
  (m.held blueprintId).filterMap m.summaryAt

/-- The operation exists, and no other blueprint holds it. -/
def Owns (m : PerformanceManager) (blueprintId : BlueId) (operationId : OperationId) : Prop :=
  operationId < m.objects.length ∧ ∀ id, operationId ∈ m.held id → id = blueprintId

structure Consistent (m : PerformanceManager) : Prop where
  named : m.performanceDict.get? b = some performance → performance.blueprintId = b
  held : op ∈ m.held b → m.Owns b op
  pending : m.pendingOperations.get? b = some op → m.Owns b op

/-- A step on behalf of one blueprint, as the others see it. -/
structure Aside (id : BlueId) (m m' : PerformanceManager) : Prop where
  consistent : m'.Consistent
  owns : m.Owns owner op → m'.Owns owner op
  registered : op ∈ m.operations → op ∈ m'.operations
  performance : b ≠ id → m'.performanceDict.get? b = m.performanceDict.get? b
  pending : b ≠ id → m'.pendingOperations.get? b = m.pendingOperations.get? b
  summary : b ≠ id → op ∈ m.held b → m'.summaryAt op = m.summaryAt op

section

variable {id : BlueId} {m m' m'' : PerformanceManager}

theorem held_eq (h : m'.performanceDict.get? b = m.performanceDict.get? b) :
    m'.held b = m.held b := by
  rw [held, held, h]

theorem held_of_get? (h : m.performanceDict.get? b = some performance) :
    m.held b = performance.operations := by
  rw [held, h]
  rfl

theorem Aside.refl (h : m.Consistent) : Aside id m m where
  consistent := h
  owns := fun h => h
  registered := fun h => h
  performance := fun _ => rfl
  pending := fun _ => rfl
  summary := fun _ _ => rfl

theorem Aside.trans (h : Aside id m m') (h' : Aside id m' m'') : Aside id m m'' where
  consistent := h'.consistent
  owns := fun hop => h'.owns (h.owns hop)
  registered := fun hop => h'.registered (h.registered hop)
  performance := fun hb => (h'.performance hb).trans (h.performance hb)
  pending := fun hb => (h'.pending hb).trans (h.pending hb)
  summary := fun hb hop => (h'.summary hb ((held_eq (h.performance hb)).symm ▸ hop)).trans (h.summary hb hop)

/-- A step that keeps the tables and at most forgets what was pending. -/
theorem Aside.of_objects (m' : PerformanceManager) (hm : m.Consistent) (hdict : m'.performanceDict = m.performanceDict)
    (hlength : m'.objects.length = m.objects.length) (hregistered : m'.operations = m.operations ∨
      ∃ op, m'.operations = m.operations ++ [op])
    (hpending : ∀ b op, m'.pendingOperations.get? b = some op → m.pendingOperations.get? b = some op)
    (hothers : ∀ b, b ≠ id → m'.pendingOperations.get? b = m.pendingOperations.get? b)
    (hsummary : ∀ b op, b ≠ id → op ∈ m.held b → m'.summaryAt op = m.summaryAt op) : Aside id m m' := by
  have hheld : ∀ b, m'.held b = m.held b := fun b => held_eq (by rw [hdict])
  have howns : ∀ {owner op}, m.Owns owner op → m'.Owns owner op := fun h =>
    ⟨by rw [hlength]; exact h.1, fun id hid => h.2 id (hheld id ▸ hid)⟩
  exact {
    consistent := {
      named := fun h => hm.named (hdict ▸ h)
      held := fun h => howns (hm.held (hheld _ ▸ h))
      pending := fun h => howns (hm.pending (hpending _ _ h)) }
    owns := howns
    registered := by
      intro op hop
      rcases hregistered with heq | ⟨new, heq⟩
      · rw [heq]
        exact hop
      · rw [heq]
        exact List.mem_append_left _ hop
    performance := fun _ => by rw [hdict]
    pending := hothers _
    summary := hsummary _ _ }

theorem summaryAt_modify (m : PerformanceManager) (f : BlueprintPerformanceOperation → BlueprintPerformanceOperation)
    (op op' : OperationId) : ({ m with objects := m.objects.modify op f }).summaryAt op' =
      if op = op' then m.objects[op']?.map (fun o => (f o).summary) else m.summaryAt op' := by
  rw [summaryAt, List.getElem?_modify]
  split
  · exact Option.map_map _ _ _
  · exact congrArg (Option.map _) Option.map_id'

theorem not_mem_held (h : m.Owns id op) (hb : b ≠ id) (hop : op' ∈ m.held b) : op ≠ op' := by
  rintro rfl
  exact hb (h.2 b hop)

theorem addBlueprint_aside (hm : m.Consistent) (id : BlueId) (type : String) :
    Aside id m (finalState ((addBlueprint id type).run m)) := by
  let m' : PerformanceManager := { m with
    clock := m.clock + 1
    performanceDict := m.performanceDict.set id { blueprintId := id, blueprintType := type, start := m.clock } }
  have hget : ∀ b, m'.performanceDict.get? b = if b = id then some ⟨id, type, m.clock, []⟩ else m.performanceDict.get? b :=
    fun b => Dict.get?_set _ _ _ _
  have hheld : ∀ {b op}, op ∈ m'.held b → op ∈ m.held b := by
    intro b op hop
    by_cases hb : b = id
    · have hnew := hget b
      rw [if_pos hb] at hnew
      rw [held_of_get? hnew] at hop
      cases hop
    · rw [held_eq ((hget b).trans (if_neg hb))] at hop
      exact hop
  have howns : ∀ {owner op}, m.Owns owner op → m'.Owns owner op := fun h => ⟨h.1, fun id hid => h.2 id (hheld hid)⟩
  change Aside id m m'
  exact {
    consistent := {
      named := by
        intro b performance hp
        rw [hget] at hp
        split at hp
        · rename_i hb
          cases hp
          exact hb.symm
        · exact hm.named hp
      held := fun h => howns (hm.held (hheld h))
      pending := fun h => howns (hm.pending h) }
    owns := howns
    registered := fun h => h
    performance := fun hb => (hget _).trans (if_neg hb)
    pending := fun _ => rfl
    summary := fun _ _ => rfl }

/-! ### The start of an operation -/

theorem startOperation_unknown (h : m.performanceDict.get? id = none) (type : BlueprintPerformanceType) (opName : String) :
    (startOperation id type opName).run m = .ok none m := by
  simp [startOperation, h]

/-- The manager after the start of an operation of a blueprint it knows. -/
def started (m : PerformanceManager) (id : BlueId) (performance : BlueprintPerformance) (type : BlueprintPerformanceType)
    (opName : String) : PerformanceManager :=
  { m with
    clock := m.clock + 1
    objects := m.objects ++ [{ opName, type, start := m.clock }]
    performanceDict := m.performanceDict.set id { performance with operations := performance.operations ++ [m.objects.length] }
    operations := m.operations ++ [m.objects.length]
    pendingOperations := m.pendingOperations.set id m.objects.length }

theorem startOperation_known (h : m.performanceDict.get? id = some performance) (type : BlueprintPerformanceType)
    (opName : String) :
    (startOperation id type opName).run m = .ok (some m.objects.length) (m.started id performance type opName) := by
  simp [startOperation, h, utcnow, started, modifyGet, MonadStateOf.modifyGet, EStateM.run_bind]
  rfl

theorem summaryAt_started (m : PerformanceManager) (id : BlueId) (performance : BlueprintPerformance)
    (type : BlueprintPerformanceType) (opName : String) (hop : op < m.objects.length) :
    (m.started id performance type opName).summaryAt op = m.summaryAt op := by
  unfold summaryAt
  change (m.objects ++ [_])[op]?.map _ = _
  rw [List.getElem?_append_left hop]

theorem held_started (h : m.performanceDict.get? id = some performance) (type : BlueprintPerformanceType) (opName : String)
    (b : BlueId) : (m.started id performance type opName).held b =
      if b = id then m.held id ++ [m.objects.length] else m.held b := by
  have hget : (m.started id performance type opName).performanceDict.get? b = _ := Dict.get?_set _ _ _ _
  by_cases hb : b = id
  · rw [if_pos hb] at hget ⊢
    rw [held_of_get? hget, held_of_get? h]
  · rw [if_neg hb] at hget ⊢
    exact held_eq hget

theorem started_aside (hm : m.Consistent) (h : m.performanceDict.get? id = some performance)
    (type : BlueprintPerformanceType) (opName : String) : Aside id m (m.started id performance type opName) := by
  have hget := Dict.get?_set m.performanceDict id { performance with operations := performance.operations ++ [m.objects.length] }
  have hpending := Dict.get?_set m.pendingOperations id m.objects.length
  have hheld := held_started h type opName
  have hlength : (m.started id performance type opName).objects.length = m.objects.length + 1 := List.length_append
  have howns : ∀ {owner op}, m.Owns owner op → (m.started id performance type opName).Owns owner op := by
    intro owner op hop
    refine ⟨by rw [hlength]; exact Nat.lt_succ_of_lt hop.1, fun b hb => ?_⟩
    rw [hheld] at hb
    split at hb
    · rename_i hid
      rcases List.mem_append.1 hb with hb | hb
      · exact hid.trans (hop.2 id hb)
      · exact absurd hop.1 (by rw [List.mem_singleton.1 hb]; exact Nat.lt_irrefl _)
    · exact hop.2 b hb
  have hnew : (m.started id performance type opName).Owns id m.objects.length := by
    refine ⟨by rw [hlength]; exact Nat.lt_succ_self _, fun b hb => ?_⟩
    rw [hheld] at hb
    split at hb
    · rename_i hid
      exact hid
    · exact absurd (hm.held hb).1 (Nat.lt_irrefl _)
  exact {
    consistent := {
      named := by
        intro b performance' hp
        rw [show (m.started id performance type opName).performanceDict.get? b = _ from hget b] at hp
        split at hp
        · rename_i hb
          cases hp
          exact (hm.named h).trans hb.symm
        · exact hm.named hp
      held := by
        intro op b hop
        rw [hheld] at hop
        split at hop
        · rename_i hb
          rw [hb]
          rcases List.mem_append.1 hop with hop | hop
          · exact howns (hm.held hop)
          · rw [List.mem_singleton.1 hop]
            exact hnew
        · exact howns (hm.held hop)
      pending := by
        intro b op hop
        rw [show (m.started id performance type opName).pendingOperations.get? b = _ from hpending b] at hop
        split at hop
        · rename_i hb
          cases hop
          rw [hb]
          exact hnew
        · exact howns (hm.pending hop) }
    owns := howns
    registered := fun hop => List.mem_append_left _ hop
    performance := fun hb => (hget _).trans (if_neg hb)
    pending := fun hb => (hpending _).trans (if_neg hb)
    summary := fun _ hop => summaryAt_started m id performance type opName (hm.held hop).1 }

/-! ### Provider calls -/

/-- A call is noted under one operation, if there is one to note it under. -/
structure Notes (target : Option OperationId) (methodName : String) (info : List (String × String))
    (m m' : PerformanceManager) : Prop where
  performance : m'.performanceDict = m.performanceDict
  pending : m'.pendingOperations = m.pendingOperations
  operations : m'.operations = m.operations
  length : m'.objects.length = m.objects.length
  noted : target = some op → op ∈ m.operations → m'.summaryAt op = (m.summaryAt op).map (fun record => record.noting methodName info)
  others : target ≠ some op ∨ op ∉ m.operations → m'.summaryAt op = m.summaryAt op

theorem Notes.skipped (h : ∀ op, target = some op → op ∉ m.operations) : Notes target methodName info m m where
  performance := rfl
  pending := rfl
  operations := rfl
  length := rfl
  noted := fun htarget hop => absurd hop (h _ htarget)
  others := fun _ => rfl

theorem Notes.then_summaries (h : Notes target methodName info m m') (h' : Notes none methodName' info' m' m'') :
    Notes target methodName info m m'' where
  performance := h'.performance.trans h.performance
  pending := h'.pending.trans h.pending
  operations := h'.operations.trans h.operations
  length := h'.length.trans h.length
  noted := fun htarget hop => (h'.others (.inl (fun h => by cases h))).trans (h.noted htarget hop)
  others := fun hop => (h'.others (.inl (fun h => by cases h))).trans (h.others hop)

theorem startProviderCall_notes (target : Option OperationId) (methodName : String) (info : List (String × String))
    (m : PerformanceManager) :
    ∃ callId m', (startProviderCall target methodName info).run m = .ok callId m' ∧ Notes target methodName info m m' := by
  cases target with
  | none => exact ⟨none, m, rfl, .skipped (fun op h => by cases h)⟩
  | some op =>
    by_cases hop : op ∈ m.operations
    · let call : BlueprintPerformanceProviderCall := { id := m.nextCall, methodName, info, start := m.clock }
      let m' : PerformanceManager := { m with
        clock := m.clock + 1
        nextCall := m.nextCall + 1
        providerCalls := m.providerCalls ++ [m.nextCall]
        objects := m.objects.modify op (BlueprintPerformanceOperation.record call) }
      have hrun : (startProviderCall (some op) methodName info).run m = .ok (some m.nextCall) m' := by
        simp [startProviderCall, hop, utcnow, modifyGet, MonadStateOf.modifyGet, EStateM.run_bind]
        rfl
      have hsummary : ∀ op', m'.summaryAt op' = _ := summaryAt_modify m (BlueprintPerformanceOperation.record call) op
      refine ⟨some m.nextCall, m', hrun, rfl, rfl, rfl, List.length_modify _ _ _, ?_, ?_⟩
      · intro op' htarget _
        cases htarget
        rw [hsummary, if_pos rfl, summaryAt, Option.map_map]
        apply congrArg (fun f => Option.map f _)
        funext o
        exact summary_record call o
      · intro op' hop'
        rw [hsummary, if_neg]
        rintro rfl
        rcases hop' with h | h
        · exact h rfl
        · exact h hop
    · refine ⟨none, m, ?_, .skipped ?_⟩
      · simp [startProviderCall, hop]
      · intro op' htarget
        cases htarget
        exact hop

theorem endProviderCall_notes (callId : Option ProviderCallId) (methodName : String) (info : List (String × String))
    (m : PerformanceManager) :
    ∃ m', (endProviderCall callId).run m = .ok () m' ∧ Notes none methodName info m m' := by
  cases callId with
  | none => exact ⟨m, rfl, .skipped (fun op h => by cases h)⟩
  | some callId =>
    by_cases hcall : callId ∈ m.providerCalls
    · let m' : PerformanceManager := { m with
        clock := m.clock + 1
        objects := m.objects.map (BlueprintPerformanceOperation.endCall callId m.clock) }
      have hrun : (endProviderCall (some callId)).run m = .ok () m' := by
        simp [endProviderCall, hcall, utcnow, modifyGet, MonadStateOf.modifyGet, EStateM.run_bind]
        rfl
      have hsummary : ∀ op, m'.summaryAt op = m.summaryAt op := by
        intro op
        change (m.objects.map _)[op]?.map _ = _
        rw [List.getElem?_map, Option.map_map, summaryAt]
        apply congrArg (fun f => Option.map f _)
        funext o
        exact summary_endCall callId m.clock o
      exact ⟨m', hrun, rfl, rfl, rfl, List.length_map _, fun h => (nomatch h), fun _ => hsummary _⟩
    · refine ⟨m, ?_, .skipped (fun op h => by cases h)⟩
      simp [endProviderCall, hcall]

theorem registerPerformance_notes (id : BlueId) (call : ProviderCall) (m : PerformanceManager) :
    Notes (m.getPendingOperationId id) call.methodName call.info m (finalState ((registerPerformance id call).run m)) := by
  obtain ⟨callId, m', hstart, hnotes⟩ := startProviderCall_notes (m.getPendingOperationId id) call.methodName call.info m
  have hrun : (registerPerformance id call).run m = EStateM.run (do
      let res ← ofExcept call.result
      endProviderCall callId
      return res) m' := run_bind_ok _ _ hstart
  rw [hrun]
  cases hresult : call.result with
  | error e => exact hnotes
  | ok value =>
    obtain ⟨m'', hend, hsame⟩ := endProviderCall_notes callId call.methodName call.info m'
    have hlast : EStateM.run (do
        let res ← ofExcept (.ok value : Except PyError PyValue)
        endProviderCall callId
        return res) m' = .ok value m'' := by
      change EStateM.run (endProviderCall callId >>= fun _ => pure value) m' = _
      rw [run_bind_ok _ _ hend]
      rfl
    rw [hlast]
    exact hnotes.then_summaries hsame

theorem registerPerformance_aside (hm : m.Consistent) (id : BlueId) (call : ProviderCall) :
    Aside id m (finalState ((registerPerformance id call).run m)) := by
  have hnotes := registerPerformance_notes id call m
  apply Aside.of_objects _ hm hnotes.performance hnotes.length (.inl hnotes.operations)
  · intro b op hop
    exact hnotes.pending ▸ hop
  · intro b _
    rw [hnotes.pending]
  · intro b op hb hop
    apply hnotes.others
    apply Or.inl
    intro htarget
    exact not_mem_held (hm.pending htarget) hb hop rfl

/-! ### The end of an operation -/

theorem findOperation_held (hm : m.Consistent) (h : m.findOperation op = some id) : op ∈ m.held id := by
  obtain ⟨⟨b, performance⟩, hfind, hid⟩ := Option.map_eq_some_iff.1 h
  have hget : m.performanceDict.get? b = some performance := Dict.get?_of_mem (List.mem_of_find?_eq_some hfind)
  have hop : op ∈ performance.operations := by simpa using List.find?_some hfind
  have hb : b = id := (hm.named hget).symm.trans hid
  rw [← hb, held_of_get? hget]
  exact hop

theorem findOperation_of_held (hm : m.Consistent) (hop : op ∈ m.held id) : m.findOperation op = some id := by
  cases hfind : m.findOperation op with
  | some b => rw [(hm.held hop).2 b (findOperation_held hm hfind)]
  | none =>
    cases hget : m.performanceDict.get? id with
    | none =>
      rw [held, hget] at hop
      cases hop
    | some performance =>
      rw [held_of_get? hget] at hop
      have hnone := List.find?_eq_none.1 (Option.map_eq_none_iff.1 hfind) (id, performance) (Dict.mem_items hget)
      exact absurd (decide_eq_true hop) hnone

/-- The manager once an operation has its end. -/
def settled (m : PerformanceManager) (op : OperationId) : PerformanceManager :=
  { m with
    clock := m.clock + 1
    objects := m.objects.modify op (BlueprintPerformanceOperation.ended m.clock) }

theorem summaryAt_settled (m : PerformanceManager) (op op' : OperationId) : (m.settled op).summaryAt op' =
    if op = op' then (m.summaryAt op').map (fun record => { record with ended := true }) else m.summaryAt op' := by
  have hmodify : (m.settled op).summaryAt op' = _ := summaryAt_modify m (BlueprintPerformanceOperation.ended m.clock) op op'
  rw [hmodify]
  split
  · rw [summaryAt, Option.map_map]
    rfl
  · rfl

theorem settled_aside (hm : m.Consistent) (hop : m.Owns id op) : Aside id m (m.settled op) := by
  apply Aside.of_objects (m.settled op) hm rfl (List.length_modify _ _ _) (.inl rfl) (fun _ _ h => h) (fun _ _ => rfl)
  intro b op' hb hop'
  rw [summaryAt_settled, if_neg (not_mem_held hop hb hop')]

theorem erase_aside (hm : m.Consistent) (id : BlueId) :
    Aside id m { m with pendingOperations := m.pendingOperations.erase id } := by
  have hget := Dict.get?_erase m.pendingOperations id
  apply Aside.of_objects { m with pendingOperations := m.pendingOperations.erase id } hm rfl rfl (.inl rfl)
  · intro b op hop
    change (m.pendingOperations.erase id).get? b = _ at hop
    rw [hget] at hop
    split at hop
    · cases hop
    · exact hop
  · exact fun b hb => (hget b).trans (if_neg hb)
  · exact fun _ _ _ _ => rfl

theorem endOperation_found (h : m.findOperation op = some id) :
    (endOperation (some op)).run m = (delPending id).run (m.settled op) := by
  simp [endOperation, h, utcnow, modifyGet, MonadStateOf.modifyGet, EStateM.run_bind]
  rfl

theorem delPending_some (h : m.pendingOperations.get? id = some op) :
    (delPending id).run m = .ok () { m with pendingOperations := m.pendingOperations.erase id } := by
  simp [delPending, h]

theorem endOperation_aside (hm : m.Consistent) (op : OperationId) (hop : m.Owns id op) :
    Aside id m (finalState ((endOperation (some op)).run m)) := by
  cases hfind : m.findOperation op with
  | none =>
    have hrun : (endOperation (some op)).run m = .ok () m := by simp [endOperation, hfind]
    rw [hrun]
    exact .refl hm
  | some b =>
    have hb : b = id := hop.2 b (findOperation_held hm hfind)
    have hsettled := settled_aside hm hop
    rw [endOperation_found hfind, hb]
    cases hpending : m.pendingOperations.get? id with
    | none =>
      have hrun : (delPending id).run (m.settled op) = .error (.keyError (toString id)) (m.settled op) := by
        simp [delPending, show (m.settled op).pendingOperations.get? id = none from hpending]
      rw [hrun]
      exact hsettled
    | some pending =>
      rw [delPending_some (show (m.settled op).pendingOperations.get? id = some pending from hpending)]
      exact hsettled.trans (erase_aside hsettled.consistent id)

end

end PerformanceManager

end Nfvcl
