import Mathlib.Data.List.Basic
import Mathlib.Logic.Function.Basic
import Nfvcl.BlueprintWorker

namespace Nfvcl
set_option autoImplicit true

/-- The fields of `BlueprintNGBaseModel` the life cycle reads and writes. -/
structure Blueprint where
  parentBlueId : Option BlueId := none
  childrenBlueIds : List BlueId := []
  /-- The data of its `BlueprintProvider`. -/
  deployedBlueprints : List BlueId := []
  isProtected : Bool := false
  deriving DecidableEq, Repr

/-- The collection `blue-inst-v2`, oldest document first. -/
abbrev BlueDocs := List (BlueId × Blueprint)

namespace BlueDocs

def get (docs : BlueDocs) (id : BlueId) : Option Blueprint :=
  List.lookup id docs

/-- `save_ng_blue`: the document is updated if there is one, else inserted. -/
def saveNgBlue (id : BlueId) (b : Blueprint) : BlueDocs → BlueDocs
  | [] => [(id, b)]
  | doc :: docs => if doc.1 = id then (id, b) :: docs else doc :: saveNgBlue id b docs

def destroyNgBlue (docs : BlueDocs) (id : BlueId) : BlueDocs :=
  docs.filter (fun doc => decide (doc.1 ≠ id))

theorem get_cons (doc : BlueId × Blueprint) (docs : BlueDocs) (id : BlueId) :
    get (doc :: docs) id = if doc.1 = id then some doc.2 else get docs id := by
  unfold get
  rw [List.lookup_cons]
  by_cases h : doc.1 = id
  · simp [h]
  · rw [if_neg h, beq_eq_false_iff_ne.2 (Ne.symm h)]

@[simp] theorem get_saveNgBlue (docs : BlueDocs) (id id' : BlueId) (b : Blueprint) :
    (docs.saveNgBlue id b).get id' = if id = id' then some b else docs.get id' := by
  induction docs with
  | nil => simp only [saveNgBlue, get_cons]
  | cons doc docs ih =>
    unfold saveNgBlue
    by_cases h : doc.1 = id
    · rw [if_pos h, get_cons, get_cons]
      by_cases h' : id = id'
      · rw [if_pos h', if_pos h']
      · rw [if_neg h', if_neg h', if_neg (h ▸ h')]
    · rw [if_neg h, get_cons, get_cons, ih]
      by_cases h' : doc.1 = id'
      · rw [if_pos h', if_pos h', if_neg (fun hid => h (h'.trans hid.symm))]
      · rw [if_neg h', if_neg h']

@[simp] theorem get_destroyNgBlue (docs : BlueDocs) (id id' : BlueId) :
    (docs.destroyNgBlue id).get id' = if id = id' then none else docs.get id' := by
  induction docs with
  | nil => simp [destroyNgBlue, get]
  | cons doc docs ih =>
    unfold destroyNgBlue at ih ⊢
    by_cases h : doc.1 = id
    · rw [List.filter_cons_of_neg (by simp [h]), ih, get_cons]
      by_cases h' : id = id'
      · rw [if_pos h', if_pos h']
      · rw [if_neg h', if_neg h', if_neg (h ▸ h')]
    · rw [List.filter_cons_of_pos (by simp [h]), get_cons, get_cons, ih]
      by_cases h' : doc.1 = id'
      · rw [if_pos h', if_pos h', if_neg (fun hid => h (h'.trans hid.symm))]
      · rw [if_neg h', if_neg h']

end BlueDocs

/-- The calls of the manager: `create_blueprint`, a day2 request (`get_worker` and a message),
`protect_blueprint` and `delete_blueprint`. -/
inductive Request where
  | create (id : BlueId) (wait : Bool)
  | call (id : BlueId) (wait : Bool)
  | protect (id : BlueId) (value : Bool)
  | delete (id : BlueId) (wait : Bool)
  deriving DecidableEq, Repr

inductive LcmError where
  | blueprintNotFound | blueprintAlreadyExisting | blueprintProtected | keyError
  deriving DecidableEq, Repr

/-- Where a thread stands in its call. A worker is named by its position. -/
inductive Pc where
  /-- `_load_blue_from_db` of the new id. -/
  | check
  /-- `to_db` of the new blueprint. -/
  | saveNew
  /-- `blueprint_id in self.worker_collection`. -/
  | test
  /-- `self.worker_collection[blueprint_id]`. -/
  | fetch
  | load
  /-- `BlueprintWorker(blueprint)` and `start_listening`. -/
  | start (blueprint : Blueprint)
  /-- `self.worker_collection[blueprint_id] = worker`. -/
  | insert (worker : Nat)
  /-- The worker is known: a message is put, the flag is set or tested. -/
  | use (worker : Nat)
  /-- The blueprint was not protected. -/
  | putStop (worker : Nat)
  | saveFlag (worker : Nat)
  /-- `event.wait()`. -/
  | await
  /-- `self.worker_collection.pop(blueprint_id)`. -/
  | pop
  | done
  | raised (e : LcmError)
  deriving DecidableEq, Repr

structure Thread where
  request : Request
  /-- The blueprint whose provider makes the call. -/
  owner : Option BlueId := none
  pc : Pc
  event : Bool := false
  deriving DecidableEq, Repr

namespace Request

def id : Request → BlueId
  | .create id _ | .call id _ | .protect id _ | .delete id _ => id

def entry : Request → Pc
  | .create _ _ => .check
  | _ => .test

def waits : Request → Bool
  | .create _ wait | .call _ wait | .delete _ wait => wait
  | .protect _ _ => false

end Request

/-- A message, and the thread that waits for its callback. -/
structure LcmMessage where
  messageType : WorkerMessageType
  caller : Option Nat := none
  deriving DecidableEq, Repr

/-- What the thread of a worker is doing. -/
inductive Phase where
  /-- `message_queue.get()`. -/
  | listening
  | running (m : LcmMessage)
  /-- The operation waits for a call it made on another blueprint. -/
  | calling (m : LcmMessage) (thread : Nat)
  /-- The callback was called, `to_db` is left. -/
  | closing
  /-- The first loop of `destroy`. -/
  | deletingChildren (m : LcmMessage) (rest : List BlueId) (thread : Option Nat)
  | deletingResources (m : LcmMessage)
  /-- The loop of `final_cleanup` of the blueprint provider. -/
  | cleaningUp (m : LcmMessage) (rest : List BlueId) (thread : Option Nat)
  /-- `destroy_ng_blue` is next. -/
  | removing (m : LcmMessage)
  | removed (m : LcmMessage)
  | ended
  deriving DecidableEq, Repr

structure LcmWorker where
  id : BlueId
  blueprint : Blueprint
  queue : List LcmMessage := []
  phase : Phase := .listening
  deriving DecidableEq, Repr

structure Lcm where
  docs : BlueDocs := []
  workers : List LcmWorker := []
  workerCollection : BlueId → Option Nat := fun _ => none
  threads : List Thread := []
  /-- The ids `destroy_ng_blue` was called with. -/
  destroyed : List BlueId := []
  /-- The ids `protect_blueprint(True)` returned for, and `protect_blueprint(False)` was not called since. -/
  guarded : List BlueId := []

/-- What a step of a thread does besides moving on. -/
inductive ThreadEffect where
  | quiet
  | save (b : Blueprint)
  | addWorker (b : Blueprint)
  | setEntry (entry : Option Nat)
  | put (worker : Nat) (m : LcmMessage)
  /-- The first statement of `protect_blueprint` of the worker. -/
  | setFlag (worker : Nat) (value : Bool)
  /-- Its `to_db`, and its return. -/
  | saveFlag (worker : Nat) (value : Bool)
  deriving DecidableEq, Repr

namespace Thread

/-- The message of a request, and where the thread goes when it is in the queue. -/
def send (th : Thread) (t : Nat) (worker : Nat) (messageType : WorkerMessageType) (next : Pc) : Pc × ThreadEffect :=
  if th.request.waits then (.await, .put worker ⟨messageType, some t⟩)
  else (next, .put worker ⟨messageType, none⟩)

/-- The first use of the worker that `get_worker` returned, or `create_blueprint` started. -/
def useWorker (th : Thread) (t : Nat) (s : Lcm) (worker : Nat) : Option (Pc × ThreadEffect) :=
  match th.request with
  | .create _ _ => some (th.send t worker .day0 .done)
  | .call _ _ => some (th.send t worker .day2 .done)
  | .protect _ value => some (.saveFlag worker, .setFlag worker value)
  | .delete _ _ =>
    match s.workers[worker]? with
    | none => none
    | some x => some (if x.blueprint.isProtected then .raised .blueprintProtected else .putStop worker, .quiet)

/-- The next statement of a call. -/
def act (th : Thread) (t : Nat) (s : Lcm) : Option (Pc × ThreadEffect) :=
  match th.pc with
  | .check =>
    match s.docs.get th.request.id with
    | none => some (.saveNew, .quiet)
    | some _ => some (.raised .blueprintAlreadyExisting, .quiet)
  | .saveNew => some (.start { parentBlueId := th.owner }, .save { parentBlueId := th.owner })
  | .test =>
    match s.workerCollection th.request.id with
    | none => some (.load, .quiet)
    | some _ => some (.fetch, .quiet)
  | .fetch =>
    match s.workerCollection th.request.id with
    | none => some (.raised .keyError, .quiet)
    | some w => some (.use w, .quiet)
  | .load =>
    match s.docs.get th.request.id with
    | none => some (.raised .blueprintNotFound, .quiet)
    | some b => some (.start b, .quiet)
  | .start b => some (.insert s.workers.length, .addWorker b)
  | .insert w => some (.use w, .setEntry (some w))
  | .use w => th.useWorker t s w
  | .putStop w => some (th.send t w .stop .pop)
  | .saveFlag w =>
    match th.request with
    | .protect _ value => some (.done, .saveFlag w value)
    | _ => none
  | .await =>
    match th.event, th.request with
    | false, _ => none
    | true, .delete _ _ => some (.pop, .quiet)
    | true, _ => some (.done, .quiet)
  | .pop =>
    match s.workerCollection th.request.id with
    | none => some (.raised .keyError, .quiet)
    | some _ => some (.done, .setEntry none)
  | .done | .raised _ => none

end Thread

/-- What the thread of a worker may do next, as far as the operations decide it. -/
inductive WorkerAction where
  /-- The next message of the queue. -/
  | take
  /-- `to_db`, by the loop or by a provider. -/
  | save
  /-- The callback of a creation or day2 message. -/
  | answer
  /-- `to_db` after it, and back to the queue. -/
  | finish
  /-- An exception leaves the loop. -/
  | crash
  /-- The operation calls its blueprint provider. -/
  | createChild (id : BlueId)
  | deleteChild (id : BlueId)
  | callChild (id : BlueId)
  | registerChildren (id : BlueId)
  | deregisterChildren (id : BlueId)
  /-- The call on another blueprint is over. -/
  | resume
  /-- The next statement of `destroy`. -/
  | next
  deriving DecidableEq, Repr

/-- What a step of a worker does besides changing the worker. -/
inductive WorkerEffect where
  | quiet
  | save (b : Blueprint)
  /-- A call of the manager, on the worker's own thread. -/
  | spawn (request : Request)
  /-- The callback of a message. -/
  | answer (m : LcmMessage)
  | destroyNgBlue
  deriving DecidableEq, Repr

namespace LcmWorker

def onMessage (x : LcmWorker) (m : LcmMessage) : Phase :=
  match m.messageType with
  | .stop => .deletingChildren m x.blueprint.childrenBlueIds none
  | _ => .running m

def withChildren (x : LcmWorker) (children : List BlueId) : LcmWorker :=
  { x with blueprint := { x.blueprint with childrenBlueIds := children } }

def withDeployed (x : LcmWorker) (deployed : List BlueId) : LcmWorker :=
  { x with blueprint := { x.blueprint with deployedBlueprints := deployed } }

/-- An operation calls the manager through its provider. -/
def callOut (x : LcmWorker) (threads : List Thread) (request : Request) : Option (LcmWorker × WorkerEffect) :=
  match x.phase with
  | .running m => some ({ x with phase := .calling m threads.length }, .spawn request)
  | _ => none

/-- The end of a call made by an operation: `deployed_blueprints` follows, and an exception is
the operation's to handle. -/
def resumeOperation (x : LcmWorker) (m : LcmMessage) (th : Thread) : Option (LcmWorker × WorkerEffect) :=
  match th.pc, th.request with
  | .done, .create id _ =>
    let x' := x.withDeployed (x.blueprint.deployedBlueprints ++ [id])
    some ({ x' with phase := .running m }, .save x'.blueprint)
  | .done, .delete id _ =>
    if id ∈ x.blueprint.deployedBlueprints then
      let x' := x.withDeployed (x.blueprint.deployedBlueprints.erase id)
      some ({ x' with phase := .running m }, .save x'.blueprint)
    else some ({ x with phase := .running m }, .quiet)
  | .done, _ => some ({ x with phase := .running m }, .quiet)
  | .raised _, _ => some ({ x with phase := .running m }, .quiet)
  | _, _ => none

/-- `deregister_children` in the loop of `destroy`. -/
def deregister (x : LcmWorker) (m : LcmMessage) (child : BlueId) (rest : List BlueId) : LcmWorker :=
  if child ∈ x.blueprint.childrenBlueIds then
    { x.withChildren (x.blueprint.childrenBlueIds.erase child) with phase := .deletingChildren m rest none }
  else { x with phase := .ended }

/-- The end of the deletion of a child in `destroy`: only `BlueprintNotFoundException` is caught. -/
def resumeDestroy (x : LcmWorker) (m : LcmMessage) (child : BlueId) (rest : List BlueId) (th : Thread) :
    Option (LcmWorker × WorkerEffect) :=
  match th.pc with
  | .done =>
    if child ∈ x.blueprint.deployedBlueprints then
      let x' := x.withDeployed (x.blueprint.deployedBlueprints.erase child)
      some (x'.deregister m child rest, .save x'.blueprint)
    else some ({ x with phase := .ended }, .quiet)
  | .raised .blueprintNotFound => some (x.deregister m child rest, .quiet)
  | .raised _ => some ({ x with phase := .ended }, .quiet)
  | _ => none

/-- In `final_cleanup` every exception is caught. -/
def resumeCleanup (x : LcmWorker) (m : LcmMessage) (rest : List BlueId) (th : Thread) :
    Option (LcmWorker × WorkerEffect) :=
  match th.pc with
  | .done => some ({ x with phase := .cleaningUp m rest none }, .quiet)
  | .raised _ => some ({ x with phase := .cleaningUp m rest none }, .quiet)
  | _ => none

def resume (x : LcmWorker) (threads : List Thread) : Option (LcmWorker × WorkerEffect) :=
  match x.phase with
  | .calling m t => threads[t]? >>= x.resumeOperation m
  | .deletingChildren m (child :: rest) (some t) => threads[t]? >>= x.resumeDestroy m child rest
  | .cleaningUp m (_ :: rest) (some t) => threads[t]? >>= x.resumeCleanup m rest
  | _ => none

/-- The statements of `destroy`. -/
def next (x : LcmWorker) (threads : List Thread) : Option (LcmWorker × WorkerEffect) :=
  match x.phase with
  | .deletingChildren m [] none => some ({ x with phase := .deletingResources m }, .quiet)
  | .deletingChildren m (child :: rest) none =>
    some ({ x with phase := .deletingChildren m (child :: rest) (some threads.length) }, .spawn (.delete child true))
  | .deletingResources m => some ({ x with phase := .cleaningUp m x.blueprint.deployedBlueprints none }, .quiet)
  | .cleaningUp m (child :: rest) none =>
    some ({ x with phase := .cleaningUp m (child :: rest) (some threads.length) }, .spawn (.delete child true))
  | .cleaningUp m [] none => some ({ x.withDeployed [] with phase := .removing m }, .save (x.withDeployed []).blueprint)
  | .removing m => some ({ x with phase := .removed m }, .destroyNgBlue)
  | .removed m => some ({ x with phase := .ended }, .answer m)
  | _ => none

/-- An exception leaves the loop, unless the thread waits. -/
def crash (x : LcmWorker) : Option (LcmWorker × WorkerEffect) :=
  match x.phase with
  | .running _ | .closing | .deletingChildren _ _ none | .deletingResources _ | .cleaningUp _ _ none | .removing _
  | .removed _ => some ({ x with phase := .ended }, .quiet)
  | _ => none

/-- The next statement of a worker; nothing happens where the action does not fit. -/
def act (x : LcmWorker) (threads : List Thread) (action : WorkerAction) : Option (LcmWorker × WorkerEffect) :=
  match action with
  | .take =>
    match x.phase, x.queue with
    | .listening, m :: queue => some ({ x with queue := queue, phase := x.onMessage m }, .quiet)
    | _, _ => none
  | .save =>
    match x.phase with
    | .running _ | .deletingResources _ => some (x, .save x.blueprint)
    | _ => none
  | .answer =>
    match x.phase with
    | .running m => some ({ x with phase := .closing }, .answer m)
    | _ => none
  | .finish =>
    match x.phase with
    | .closing => some ({ x with phase := .listening }, .save x.blueprint)
    | _ => none
  | .crash => x.crash
  | .createChild id => x.callOut threads (.create id true)
  | .deleteChild id => x.callOut threads (.delete id true)
  | .callChild id => x.callOut threads (.call id true)
  | .registerChildren id =>
    match x.phase with
    | .running _ =>
      if id ∈ x.blueprint.childrenBlueIds then none
      else some (x.withChildren (x.blueprint.childrenBlueIds ++ [id]), .quiet)
    | _ => none
  | .deregisterChildren id =>
    match x.phase with
    | .running _ => some (x.withChildren (x.blueprint.childrenBlueIds.erase id), .quiet)
    | _ => none
  | .resume => x.resume threads
  | .next => x.next threads

end LcmWorker

/-- A request comes in, or one of the threads takes a step. -/
inductive LcmStep where
  | request (r : Request)
  | thread (t : Nat)
  | work (w : Nat) (action : WorkerAction)
  deriving DecidableEq, Repr

namespace Lcm

def spawn (s : Lcm) (request : Request) (owner : Option BlueId) : Lcm :=
  { s with threads := s.threads ++ [{ request := request, owner := owner, pc := request.entry }] }

def setThread (s : Lcm) (t : Nat) (th : Thread) : Lcm :=
  { s with threads := s.threads.set t th }

def setWorker (s : Lcm) (w : Nat) (x : LcmWorker) : Lcm :=
  { s with workers := s.workers.set w x }

def save (s : Lcm) (id : BlueId) (b : Blueprint) : Lcm :=
  { s with docs := s.docs.saveNgBlue id b }

/-- A change of the worker at a position. -/
def onWorker (s : Lcm) (w : Nat) (f : LcmWorker → Lcm) : Lcm :=
  match s.workers[w]? with
  | none => s
  | some x => f x

def applyThread (s : Lcm) (id : BlueId) : ThreadEffect → Lcm
  | .quiet => s
  | .save b => s.save id b
  | .addWorker b => { s with workers := s.workers ++ [{ id := id, blueprint := b }] }
  | .setEntry entry => { s with workerCollection := Function.update s.workerCollection id entry }
  | .put w m => s.onWorker w (fun x => s.setWorker w { x with queue := x.queue ++ [m] })
  | .setFlag w value =>
    s.onWorker w (fun x =>
      { s.setWorker w { x with blueprint := { x.blueprint with isProtected := value } } with
        guarded := if value then s.guarded else s.guarded.filter (fun id => decide (id ≠ x.id)) })
  | .saveFlag w value =>
    s.onWorker w (fun x =>
      { s.save x.id x.blueprint with guarded := if value then x.id :: s.guarded else s.guarded })

def applyWorker (s : Lcm) (id : BlueId) : WorkerEffect → Lcm
  | .quiet => s
  | .save b => s.save id b
  | .spawn request => s.spawn request (some id)
  | .answer m =>
    match m.caller with
    | none => s
    | some t =>
      match s.threads[t]? with
      | none => s
      | some th => s.setThread t { th with event := true }
  | .destroyNgBlue => { s with docs := s.docs.destroyNgBlue id, destroyed := id :: s.destroyed }

def step (s : Lcm) : LcmStep → Lcm
  | .request r => s.spawn r none
  | .thread t =>
    match s.threads[t]? with
    | none => s
    | some th =>
      match th.act t s with
      | none => s
      | some (pc, effect) => (s.applyThread th.request.id effect).setThread t { th with pc := pc }
  | .work w action =>
    match s.workers[w]? with
    | none => s
    | some x =>
      match x.act s.threads action with
      | none => s
      | some (x', effect) => (s.applyWorker x.id effect).setWorker w x'

end Lcm

end Nfvcl
