import Mathlib.Data.List.Basic
import Nfvcl.Effects
import Nfvcl.PyValue

namespace Nfvcl
set_option autoImplicit true
open Effects

/-- The id of a blueprint; `create_blueprint` gives a new one every time. -/
abbrev BlueId := Nat

inductive CurrentOperation where
  | undefined | idle | deploying | runningDay2Op | destroying
  deriving DecidableEq, Repr

structure BlueprintNGStatus where
  error : Bool := false
  currentOperation : CurrentOperation := .idle
  detail : String := ""
  deriving DecidableEq, Repr

namespace BlueprintNGStatus

def ofDeploying (blueId : BlueId) : BlueprintNGStatus :=
  { currentOperation := .deploying, detail := s!"The blueprint {blueId} is being deployed..." }

def ofDestroying (blueId : BlueId) : BlueprintNGStatus :=
  { currentOperation := .destroying, detail := s!"The blueprint {blueId} is being destroyed..." }

end BlueprintNGStatus

/-- The two values the worker gives to `status`. -/
inductive CallbackStatus where
  | ok | error
  deriving DecidableEq, Repr

structure BlueprintOperationCallbackModel where
  id : BlueId
  operation : CurrentOperation
  status : CallbackStatus
  result : Option PyValue := none
  detailedStatus : Option String := none
  deriving DecidableEq, Repr

/-- What a callback is called with: a model, or the bare id of the blueprint. -/
inductive CallbackArg where
  | model (msg : BlueprintOperationCallbackModel)
  | blueprintId (id : BlueId)
  deriving DecidableEq, Repr

def CallbackArg.status? : CallbackArg → Option CallbackStatus
  | .model msg => some msg.status
  | .blueprintId _ => none

inductive WorkerMessageType where
  | day0 | day2 | day2ByName | stop
  deriving DecidableEq, Repr

structure WorkerMessage where
  messageType : WorkerMessageType
  path : String
  /-- The JSON text of the payload, if there is one. -/
  message : Option String := none
  deriving DecidableEq, Repr

/-- How the calls made for a message end. -/
structure MessageOutcome where
  /-- The event triggered before the operation. -/
  started : Option PyError := none
  /-- `create`, the day2 function (looked up or by name), or `destroy`. -/
  operation : Except PyError PyValue := .ok .none
  /-- The event triggered after an operation that returned. -/
  ended : Option PyError := none
  /-- The event `BLUE_ERROR`. -/
  failed : Option PyError := none
  deriving DecidableEq, Repr

structure QueuedMessage where
  message : WorkerMessage
  outcome : MessageOutcome := {}
  deriving DecidableEq, Repr

/-- A worker: the parts of its blueprint the loop writes, the copy in the database, and the
callbacks it has called, each with the position of its message in the queue. -/
structure BlueprintWorker where
  blueprintId : BlueId
  status : BlueprintNGStatus := {}
  day2CallHistory : List String := []
  saved : Option BlueprintNGStatus := none
  answers : List (Nat × CallbackArg) := []
  deriving DecidableEq, Repr

namespace BlueprintWorker

abbrev WorkerM := EStateM PyError BlueprintWorker

def setStatus (status : BlueprintNGStatus) : WorkerM Unit :=
  modify (fun w => { w with status := status })

def setError (e : PyError) : WorkerM Unit :=
  modify (fun w => { w with status := { w.status with error := true, detail := e.str } })

def toDb : WorkerM Unit :=
  modify (fun w => { w with saved := some w.status })

/-- `received_message.callback(...)`. -/
def callback (n : Nat) (arg : CallbackArg) : WorkerM Unit :=
  modify (fun w => { w with answers := w.answers ++ [(n, arg)] })

def answerOk (n : Nat) (result : Option PyValue) : WorkerM Unit := do
  let w ← get
  callback n (.model { id := w.blueprintId, operation := .idle, status := .ok, result := result })

def answerError (n : Nat) (e : PyError) : WorkerM Unit := do
  let w ← get
  callback n (.model { id := w.blueprintId, operation := .idle, status := .error, detailedStatus := some e.str })

/-- A call that returns a value or raises. -/
def perform (result : Except PyError PyValue) : WorkerM PyValue :=
  match result with
  | .ok value => pure value
  | .error e => throw e

/-- The `except` block of the creation and day2 cases. -/
def onError (n : Nat) (o : MessageOutcome) (e : PyError) : WorkerM Unit := do
  setError e
  answerError n e
  outcome o.failed

def handleDay0 (n : Nat) (o : MessageOutcome) : WorkerM Unit := do
  let w ← get
  setStatus (.ofDeploying w.blueprintId)
  outcome o.started
  toDb
  tryCatch (do
    let _ ← perform o.operation
    answerOk n none
    setStatus {}
    outcome o.ended) (onError n o)
  toDb

/-- A payload is recorded before the function is looked up. -/
def recordCall (m : WorkerMessage) : WorkerM Unit :=
  match m.messageType, m.message with
  | .day2, some payload => modify (fun w => { w with day2CallHistory := w.day2CallHistory ++ [payload] })
  | _, _ => pure ()

def handleDay2 (n : Nat) (m : WorkerMessage) (o : MessageOutcome) : WorkerM Unit := do
  let w ← get
  setStatus { currentOperation := .runningDay2Op
              detail := s!"Calling DAY2 function {m.path} on blueprint {w.blueprintId}" }
  outcome o.started
  toDb
  tryCatch (do
    recordCall m
    let result ← perform o.operation
    answerOk n (some result)
    setStatus {}
    outcome o.ended) (onError n o)
  toDb

/-- No `try`, and the callback gets the id. -/
def handleStop (n : Nat) (o : MessageOutcome) : WorkerM Unit := do
  let w ← get
  setStatus (.ofDestroying w.blueprintId)
  outcome o.started
  let _ ← perform o.operation
  callback n (.blueprintId w.blueprintId)
  outcome o.ended

/-- One iteration of `_listen`; `false` leaves the loop. -/
def handle (n : Nat) (q : QueuedMessage) : WorkerM Bool :=
  match q.message.messageType with
  | .day0 => do
    handleDay0 n q.outcome
    return true
  | .day2 | .day2ByName => do
    handleDay2 n q.message q.outcome
    return true
  | .stop => do
    handleStop n q.outcome
    return false

/-- `_listen` on the messages of the queue, the first of which is the `n`-th. -/
def listenFrom (n : Nat) : List QueuedMessage → WorkerM Unit
  | [] => pure ()
  | q :: qs => do
    if ← handle n q then listenFrom (n + 1) qs

def listen (queue : List QueuedMessage) : WorkerM Unit :=
  listenFrom 0 queue

/-- The answers message `n` got. -/
def answersTo (w : BlueprintWorker) (n : Nat) : List CallbackArg :=
  (w.answers.filter (fun answer => decide (answer.1 = n))).map Prod.snd

end BlueprintWorker

end Nfvcl
