import Mathlib.Data.List.Basic
import Nfvcl.BlueprintWorker
import Nfvcl.Dicts

namespace Nfvcl
set_option autoImplicit true
open Effects

inductive BlueprintPerformanceType where
  | day0 | day2 | deletion
  deriving DecidableEq, Repr

/-- The place of an operation among all operations ever started. -/
abbrev OperationId := Nat

abbrev ProviderCallId := Nat

/-- A moment, as the number of times the clock was read before. -/
abbrev Moment := Nat

structure BlueprintPerformanceProviderCall where
  id : ProviderCallId
  methodName : String
  info : List (String × String)
  start : Moment
  finish : Option Moment := none
  deriving DecidableEq, Repr

structure BlueprintPerformanceOperation where
  opName : String
  type : BlueprintPerformanceType
  start : Moment
  finish : Option Moment := none
  providerCalls : List BlueprintPerformanceProviderCall := []
  deriving DecidableEq, Repr

structure BlueprintPerformance where
  blueprintId : BlueId
  blueprintType : String
  start : Moment
  operations : List OperationId := []
  deriving DecidableEq, Repr

def BlueprintPerformanceProviderCall.ended (callId : ProviderCallId) (now : Moment)
    (call : BlueprintPerformanceProviderCall) : BlueprintPerformanceProviderCall :=
  if call.id = callId then { call with finish := some now } else call

def BlueprintPerformanceOperation.ended (now : Moment) (operation : BlueprintPerformanceOperation) :
    BlueprintPerformanceOperation :=
  { operation with finish := some now }

def BlueprintPerformanceOperation.record (call : BlueprintPerformanceProviderCall)
    (operation : BlueprintPerformanceOperation) : BlueprintPerformanceOperation :=
  { operation with providerCalls := operation.providerCalls ++ [call] }

def BlueprintPerformanceOperation.endCall (callId : ProviderCallId) (now : Moment)
    (operation : BlueprintPerformanceOperation) : BlueprintPerformanceOperation :=
  { operation with providerCalls := operation.providerCalls.map (BlueprintPerformanceProviderCall.ended callId now) }

/-- The manager. Its tables share the operations they hold: `objects` is what an id stands for. -/
structure PerformanceManager where
  objects : List BlueprintPerformanceOperation := []
  performanceDict : Dict BlueId BlueprintPerformance := .empty
  pendingOperations : Dict BlueId OperationId := .empty
  operations : List OperationId := []
  providerCalls : List ProviderCallId := []
  nextCall : ProviderCallId := 0
  clock : Moment := 0

namespace PerformanceManager

abbrev PerformanceM := EStateM PyError PerformanceManager

def utcnow : PerformanceM Moment :=
  modifyGet (fun m => (m.clock, { m with clock := m.clock + 1 }))

def getPendingOperationId (m : PerformanceManager) (blueprintId : BlueId) : Option OperationId :=
  m.pendingOperations.get? blueprintId

def addBlueprint (blueprintId : BlueId) (blueprintType : String) : PerformanceM Unit := do
  let start ← utcnow
  modify (fun m => { m with performanceDict := m.performanceDict.set blueprintId { blueprintId, blueprintType, start } })

def startOperation (blueprintId : BlueId) (operationType : BlueprintPerformanceType) (opName : String) :
    PerformanceM (Option OperationId) := do
  let m ← get
  match m.performanceDict.get? blueprintId with
  | none => return none
  | some performance =>
    let start ← utcnow
    let opId := m.objects.length
    -- An operation that is still pending is replaced, with a line in the log.
    modify (fun m => { m with
      objects := m.objects ++ [{ opName, type := operationType, start }]
      performanceDict := m.performanceDict.set blueprintId
        { performance with operations := performance.operations ++ [opId] }
      operations := m.operations ++ [opId]
      pendingOperations := m.pendingOperations.set blueprintId opId })
    return some opId

/-- `_find_operation`: the id of the blueprint that holds the operation. -/
def findOperation (m : PerformanceManager) (operationId : OperationId) : Option BlueId :=
  (m.performanceDict.items.find? (fun entry => decide (operationId ∈ entry.2.operations))).map
    (fun entry => entry.2.blueprintId)

/-- `del self.pending_operations[blueprint_id]`. -/
def delPending (blueprintId : BlueId) : PerformanceM Unit := do
  let m ← get
  match m.pendingOperations.get? blueprintId with
  | none => throw (.keyError (toString blueprintId))
  | some _ => set { m with pendingOperations := m.pendingOperations.erase blueprintId }

def endOperation (operationId : Option OperationId) : PerformanceM Unit := do
  let m ← get
  match operationId with
  | none => pure ()
  | some opId =>
    match m.findOperation opId with
    | none => pure ()
    | some blueprintId =>
      let now ← utcnow
      modify (fun m => { m with objects := m.objects.modify opId (BlueprintPerformanceOperation.ended now) })
      delPending blueprintId

def startProviderCall (operationId : Option OperationId) (methodName : String) (info : List (String × String)) :
    PerformanceM (Option ProviderCallId) := do
  let m ← get
  match operationId with
  | none => return none
  | some opId =>
    if opId ∉ m.operations then return none
    else
      let start ← utcnow
      let call := { id := m.nextCall, methodName, info, start }
      modify (fun m => { m with
        nextCall := m.nextCall + 1
        providerCalls := m.providerCalls ++ [call.id]
        objects := m.objects.modify opId (BlueprintPerformanceOperation.record call) })
      return some call.id

def endProviderCall (providerCallId : Option ProviderCallId) : PerformanceM Unit := do
  let m ← get
  match providerCallId with
  | none => pure ()
  | some callId =>
    if callId ∉ m.providerCalls then pure ()
    else
      let now ← utcnow
      modify (fun m => { m with objects := m.objects.map (BlueprintPerformanceOperation.endCall callId now) })

/-- A call of a provider method: what is noted of it, and how it ends. -/
structure ProviderCall where
  methodName : String
  info : List (String × String) := []
  result : Except PyError PyValue := .ok .none
  deriving DecidableEq, Repr

/-- The wrapper `register_performance` puts around the methods of the provider aggregator. -/
def registerPerformance (blueprintId : BlueId) (call : ProviderCall) : PerformanceM PyValue := do
  let m ← get
  let providerCallId ← startProviderCall (m.getPendingOperationId blueprintId) call.methodName call.info
  let res ← ofExcept call.result
  endProviderCall providerCallId
  return res

/-! ### What the database holds at the start -/

structure StoredOperation where
  opName : String
  type : BlueprintPerformanceType
  start : Moment
  finish : Option Moment
  providerCalls : List BlueprintPerformanceProviderCall
  deriving DecidableEq, Repr

structure StoredPerformance where
  blueprintId : BlueId
  blueprintType : String
  start : Moment
  operations : List StoredOperation
  deriving DecidableEq, Repr

/-- Loaded calls keep ids of their own. -/
def loadOperation (m : PerformanceManager) (stored : StoredOperation) : PerformanceManager :=
  { m with
    objects := m.objects ++ [{
      opName := stored.opName
      type := stored.type
      start := stored.start
      finish := stored.finish
      providerCalls := (stored.providerCalls.zipIdx m.nextCall).map (fun call => { call.1 with id := call.2 }) }]
    nextCall := m.nextCall + stored.providerCalls.length }

def loadPerformance (m : PerformanceManager) (stored : StoredPerformance) : PerformanceManager :=
  { stored.operations.foldl loadOperation m with
    performanceDict := m.performanceDict.set stored.blueprintId {
      blueprintId := stored.blueprintId
      blueprintType := stored.blueprintType
      start := stored.start
      operations := List.range' m.objects.length stored.operations.length } }

/-- `_load_from_db`, on the documents found for the instantiated blueprints. -/
def loadFromDb (stored : List StoredPerformance) : PerformanceManager :=
  stored.foldl loadPerformance {}

end PerformanceManager

/-! ### The workers -/

/-- The manager, the variable `performance_operation_id` of every worker, and the exceptions
`end_operation` raised, with the blueprint of the worker that called it. -/
structure MeasuredWorkers where
  manager : PerformanceManager
  performanceOperationId : Dict BlueId (Option OperationId) := .empty
  raisedAtEnd : List (BlueId × PyError) := []

namespace MeasuredWorkers

open PerformanceManager

abbrev MeasuredM := EStateM PyError MeasuredWorkers

def onManager (m : PerformanceM α) : MeasuredM α :=
  zoom MeasuredWorkers.manager (fun manager w => { w with manager := manager }) m

def startOperation (blueprintId : BlueId) (type : BlueprintPerformanceType) (opName : String) : MeasuredM Unit := do
  let opId ← onManager (PerformanceManager.startOperation blueprintId type opName)
  modify (fun w => { w with performanceOperationId := w.performanceOperationId.set blueprintId opId })

def endOperation (blueprintId : BlueId) : MeasuredM Unit := do
  let w ← get
  match w.performanceOperationId.get? blueprintId with
  | none => pure ()
  | some opId =>
    tryCatch (onManager (PerformanceManager.endOperation opId)) (fun e => do
      modify (fun w => { w with raisedAtEnd := w.raisedAtEnd ++ [(blueprintId, e)] })
      throw e)

/-- What the blueprint manager and a worker do with the performance manager. -/
inductive Move where
  | addBlueprint (blueprintId : BlueId) (type : String)
  | startOperation (blueprintId : BlueId) (type : BlueprintPerformanceType) (opName : String)
  | endOperation (blueprintId : BlueId)
  | providerCall (blueprintId : BlueId) (call : ProviderCall)
  deriving DecidableEq, Repr

def Move.blueprintId : Move → BlueId
  | .addBlueprint id _ => id
  | .startOperation id _ _ => id
  | .endOperation id => id
  | .providerCall id _ => id

def Move.run : Move → MeasuredM Unit
  | .addBlueprint id type => onManager (PerformanceManager.addBlueprint id type)
  | .startOperation id type opName => MeasuredWorkers.startOperation id type opName
  | .endOperation id => MeasuredWorkers.endOperation id
  | .providerCall id call => do
    let _ ← onManager (registerPerformance id call)

/-- What another thread does: its exceptions stay there. -/
def Move.elsewhere (move : Move) : MeasuredM Unit :=
  tryCatch move.run (fun _ => pure ())

/-- A move for another blueprint than `b`. -/
structure ForeignMove (b : BlueId) where
  move : Move
  foreign : move.blueprintId ≠ b

/-- What happens while an operation of blueprint `b` is processed: it calls its provider, and
handles the exception if there is one, or another worker goes on. -/
inductive Activity (b : BlueId) where
  | providerCall (call : ProviderCall)
  | elsewhere (move : ForeignMove b)

def Activity.run : Activity b → MeasuredM Unit
  | .providerCall call => tryCatch (do let _ ← onManager (registerPerformance b call)) (fun _ => pure ())
  | .elsewhere move => move.move.elsewhere

/-- A message of the queue of blueprint `b`. -/
structure MeasuredMessage (b : BlueId) where
  message : WorkerMessage
  results : MessageOutcome := {}
  /-- The exception of recording the payload or of looking the path up, of a day2 call. -/
  lookup : Option PyError := none
  /-- What the other workers do while the message waits. -/
  before : List (ForeignMove b) := []
  during : List (Activity b) := []

namespace MeasuredMessage

/-- `received_message.path.split("/")[-1]`. -/
def function (q : MeasuredMessage b) : String :=
  String.ofList ((q.message.path.toList.splitOn '/').getLastD [])

/-- The call of `create`, of the day2 function or of `destroy`. -/
def operation (q : MeasuredMessage b) : MeasuredM Unit := do
  q.during.forM Activity.run
  let _ ← ofExcept q.results.operation

def measured (q : MeasuredMessage b) (type : BlueprintPerformanceType) (opName : String) : MeasuredM Unit := do
  startOperation b type opName
  q.operation
  endOperation b

def handleDay0 (q : MeasuredMessage b) : MeasuredM Unit := do
  outcome q.results.started
  tryCatch (do
    q.measured .day0 "create"
    outcome q.results.ended) (fun _ => outcome q.results.failed)

def handleDay2 (q : MeasuredMessage b) : MeasuredM Unit := do
  outcome q.results.started
  tryCatch (do
    if q.message.messageType = .day2 then outcome q.lookup
    q.measured .day2 q.function
    outcome q.results.ended) (fun _ => outcome q.results.failed)

def handleStop (q : MeasuredMessage b) : MeasuredM Unit := do
  outcome q.results.started
  q.measured .deletion "delete"
  outcome q.results.ended

/-- One iteration of `_listen`; `false` leaves the loop. -/
def handle (q : MeasuredMessage b) : MeasuredM Bool := do
  q.before.forM (fun move => move.move.elsewhere)
  match q.message.messageType with
  | .day0 => do
    q.handleDay0
    return true
  | .day2 | .day2ByName => do
    q.handleDay2
    return true
  | .stop => do
    q.handleStop
    return false

end MeasuredMessage

/-- `_listen` of the worker of blueprint `b`. -/
def listen : List (MeasuredMessage b) → MeasuredM Unit
  | [] => pure ()
  | q :: qs => do
    if ← q.handle then listen qs

end MeasuredWorkers

end Nfvcl
