import Mathlib.Data.List.Basic
import Nfvcl.Runs
import Nfvcl.TopologyAtomicity

namespace Nfvcl
set_option autoImplicit true
open Effects Runs

namespace Topology

/-! ### The operations with `terraform=True` -/

/-- `self._os_terraformer[vim.name]`: nothing fills the table that `__init__` sets to `{}`. -/
def osTerraformer (vim : Nat) : EStateM PyError Topology Unit := do
  let name ← onModel "vims" (TopologyModel.onVim vim (do let v ← get; return v.name))
  throw (.keyError name)

def addVimNetTerraformed (vimNetName : String) (vim : Nat) : EStateM PyError Topology Unit := do
  addVimNet vimNetName vim
  osTerraformer vim

def delVimNetTerraformed (vimNetName : String) (vim : Nat) : EStateM PyError Topology Unit := do
  let name ← onModel "vims" (TopologyModel.onVim vim (do let v ← get; return v.name))
  let vimModel ← onModel "get_vim" (TopologyModel.findVimIndex name)
  let _ ← onModel "vims" (TopologyModel.onVim vimModel (VimModel.delNet vimNetName))
  osTerraformer vim

def delVimRouterTerraformed (vimRouterName : String) (vim : Nat) : EStateM PyError Topology Unit := do
  delVimRouter vimRouterName vim
  osTerraformer vim

def addVimRouterTerraformed (vimRouterName : String) (vim : Nat) : EStateM PyError Topology Unit := do
  onModel "vims" (TopologyModel.onVim vim (VimModel.addRouter vimRouterName))
  onModel "get_router" (TopologyModel.visitRouter vimRouterName vim)
  osTerraformer vim

section Operations

variable (services : Services)

/-- The routers of the new VIM are added without terraforming, and saved one by one. -/
def addVimTerraformed (vimModel : VimModel) : EStateM PyError Topology Unit := do
  let _ ← onModel "add_vim" (TopologyModel.addVim vimModel)
  let vim ← onModel "vims" (do let t ← get; return t.vims.length - 1)
  forM vimModel.networks (fun vimNet => addVimNetTerraformed vimNet vim)
  forM vimModel.routers (fun vimRouter => addVimRouter vimRouter vim)
  saveTopologyFromModel
  triggerRedisEvent services .vimCreate

def createTerraformed (topo : TopologyModel) : EStateM PyError Topology Unit := do
  let s ← get
  if s.model.isSome then
    throw (.valueError "It is not possible to allocate a new topology, since another one is already declared")
  set { s with model := some { topo with vims := [] } }
  forM topo.vims (addVimTerraformed services)
  saveTopologyFromModel
  triggerRedisEvent services .create

/-- The VIM lists a router or a network of the topology. -/
def Terraformed (t : TopologyModel) (vim : VimModel) : Bool :=
  t.routers.any (fun r => decide (r.name ∈ vim.routers)) || t.networks.any (fun n => decide (n.name ∈ vim.networks))

def delVimTerraformed (vimName : String) : EStateM PyError Topology Unit := do
  let vimModel ← onModel "get_vim" (TopologyModel.getVim vimName)
  let t ← onModel "routers" get
  if Terraformed t vimModel then
    throw (.keyError vimModel.name)
  let _ ← onModel "del_vim" (TopologyModel.delVim vimModel.name)
  saveTopologyFromModel
  triggerRedisEvent services .vimDel

def deleteVimsTerraformed (index : Nat) : Nat → EStateM PyError Topology Unit
  | 0 => pure ()
  | fuel + 1 => do
    let vims ← onModel "vims" (do let t ← get; return t.vims)
    match vims[index]? with
    | none => pure ()
    | some vim =>
      delVimTerraformed services vim.name
      deleteVimsTerraformed (index + 1) fuel

def deleteTerraformed : EStateM PyError Topology Unit := do
  let s ← get
  match s.model with
  | none => throw (.valueError "Not possible to delete the topology. No topology is currently allocated")
  | some t =>
    deleteVimsTerraformed services 0 t.vims.length
    set (⟨none, none⟩ : Topology)
    throw (.attributeError "'NoneType' object has no attribute 'model_dump'")

def updateVimAtTerraformed (updateMsg : UpdateVimModel) (vim : Nat) : EStateM PyError Topology Unit := do
  forM updateMsg.networksToAdd (fun vimNet => addVimNetTerraformed vimNet vim)
  forM updateMsg.networksToDel (fun vimNet => delVimNetTerraformed vimNet vim)
  forM updateMsg.routersToAdd (fun vimRouter => addVimRouterTerraformed vimRouter vim)
  forM updateMsg.routersToDel (fun vimRouter => delVimRouterTerraformed vimRouter vim)
  forM updateMsg.areasToAdd (fun vimArea =>
    onModel "vims" (TopologyModel.onVim vim (VimModel.addArea vimArea)))
  forM updateMsg.areasToDel (fun vimArea => do
    let _ ← onModel "vims" (TopologyModel.onVim vim (VimModel.delArea vimArea)))
  saveTopologyFromModel
  triggerRedisEvent services .vimUpdate

def updateVimTerraformed (updateMsg : UpdateVimModel) : EStateM PyError Topology Unit := do
  let vim ← tryCatch (do
      let vim ← onModel "get_vim" (TopologyModel.findVimIndex updateMsg.name)
      return some vim)
    (fun e => if e.isValueError then pure none else throw e)
  match vim with
  | none => return
  | some vim => updateVimAtTerraformed services updateMsg vim

def delNetworkByNameTerraformed (networkName : String) : EStateM PyError Topology Unit := do
  let vims ← onModel "vims" (do let t ← get; return t.vims)
  forM (List.range vims.length) (fun vim => do
    let listed ← onModel "vims" (TopologyModel.onVim vim (do let v ← get; return decide (networkName ∈ v.networks)))
    if listed then
      delVimNetTerraformed networkName vim)
  let _ ← onModel "del_network" (TopologyModel.delNetwork networkName)
  saveTopologyFromModel
  triggerRedisEvent services .deleteNetwork

/-- `add_network` as the worker calls it: the flag is bound to `vim_names_list`, and `True` cannot be
iterated. -/
def addNetworkFlag (networkModel : NetworkModel) : Bool → EStateM PyError Topology Unit
  | false => (TopologyOp.addNetworkModel networkModel none).exec services
  | true => do
    let _ ← onModel "add_network" (TopologyModel.addNetwork networkModel)
    throw (.typeError "'bool' object is not iterable")

end Operations

end Topology

inductive TopologyWorkerOperation where
  | addTopology | delTopology
  | addVim | delVim | updateVim
  | addNet | delNet
  | addRouter | delRouter
  | addPdu | delPdu
  | addK8s | delK8s | updateK8s
  | addProm | delProm | updProm
  deriving DecidableEq, Repr

/-- A message of the REST layer; `terraform` is its `optional_data`. The worker parses the dump of a
message to the message. -/
structure TopologyWorkerMessage (α : Type) where
  opsType : TopologyWorkerOperation
  data : α
  terraform : Option Bool := none
  callback : Option String := none
  deriving DecidableEq, Repr

/-- What the worker reads from a payload: the string under a key (another value is the name of
nothing), and the models pydantic makes of it. -/
structure Payloads (α : Type) where
  item : α → String → Except PyError String
  topologyModel : α → Except PyError TopologyModel
  vimModel : α → Except PyError VimModel
  updateVimModel : α → Except PyError UpdateVimModel
  networkModel : α → Except PyError NetworkModel
  routerModel : α → Except PyError RouterModel
  pduModel : α → Except PyError PduModel
  topologyK8sModel : α → Except PyError TopologyK8sModel
  prometheusServerModel : α → Except PyError PrometheusServerModel

/-- An operation of the topology with the arguments of a message. -/
inductive TopologyCall where
  | create (topo : TopologyModel) (terraform : Bool)
  | delete (terraform : Bool)
  | addVim (vimModel : VimModel) (terraform : Bool)
  | updateVim (updateMsg : UpdateVimModel) (terraform : Bool)
  | delVim (vimName : String) (terraform : Bool)
  | addNetwork (network : NetworkModel) (terraform : Bool)
  | delNetworkByName (networkName : String) (terraform : Bool)
  | addRouter (router : RouterModel)
  | delRouter (routerName : String)
  | addPdu (pduInput : PduModel)
  | delPdu (pduName : String)
  | addK8scluster (data : TopologyK8sModel)
  | delK8scluster (clusterId : String)
  | updateK8scluster (cluster : TopologyK8sModel)
  | addPrometheusServer (promServer : PrometheusServerModel)
  | delPrometheusServer (promSrvId : String)
  | updatePrometheusServer (promServer : PrometheusServerModel)
  deriving DecidableEq, Repr

namespace TopologyWorkerMessage

variable (payloads : Payloads α) (m : TopologyWorkerMessage α)

/-- `optional_data['terraform']`. -/
def flag : Except PyError Bool :=
  match m.terraform with
  | none => .error (.typeError "'NoneType' object is not subscriptable")
  | some terraform => .ok terraform

def call : Except PyError TopologyCall :=
  match m.opsType with
  | .addTopology => do return .create (← payloads.topologyModel m.data) (← m.flag)
  | .delTopology => do return .delete (← m.flag)
  | .addVim => do return .addVim (← payloads.vimModel m.data) (← m.flag)
  | .updateVim => do return .updateVim (← payloads.updateVimModel m.data) (← m.flag)
  | .delVim => do return .delVim (← payloads.item m.data "vim_name") (← m.flag)
  | .addNet => do return .addNetwork (← payloads.networkModel m.data) (← m.flag)
  | .delNet => do return .delNetworkByName (← payloads.item m.data "network_id") (← m.flag)
  | .addRouter => do return .addRouter (← payloads.routerModel m.data)
  | .delRouter => do return .delRouter (← payloads.item m.data "router_id")
  | .addPdu => do return .addPdu (← payloads.pduModel m.data)
  | .delPdu => do return .delPdu (← payloads.item m.data "pdu_id")
  | .addK8s => do return .addK8scluster (← payloads.topologyK8sModel m.data)
  | .delK8s => do return .delK8scluster (← payloads.item m.data "cluster_name")
  | .updateK8s => do return .updateK8scluster (← payloads.topologyK8sModel m.data)
  | .addProm => do return .addPrometheusServer (← payloads.prometheusServerModel m.data)
  | .delProm => do return .delPrometheusServer (← payloads.item m.data "prom_srv_id")
  | .updProm => do return .updatePrometheusServer (← payloads.prometheusServerModel m.data)

end TopologyWorkerMessage

namespace TopologyCall

variable (services : Services)

/-- The operation, called directly. -/
def exec : TopologyCall → EStateM PyError Topology Unit
  | .create topo false => Topology.create services topo
  | .create topo true => Topology.createTerraformed services topo
  | .delete false => Topology.delete services
  | .delete true => Topology.deleteTerraformed services
  | .addVim vimModel false => (TopologyOp.addVim vimModel).exec services
  | .addVim vimModel true => Topology.addVimTerraformed services vimModel
  | .updateVim updateMsg false => (TopologyOp.updateVim updateMsg).exec services
  | .updateVim updateMsg true => Topology.updateVimTerraformed services updateMsg
  | .delVim vimName false => (TopologyOp.delVim vimName).exec services
  | .delVim vimName true => Topology.delVimTerraformed services vimName
  -- without a list of VIMs the flag has no effect
  | .addNetwork network _ => (TopologyOp.addNetworkModel network none).exec services
  | .delNetworkByName networkName false => (TopologyOp.delNetworkByName networkName).exec services
  | .delNetworkByName networkName true => Topology.delNetworkByNameTerraformed services networkName
  | .addRouter router => (TopologyOp.addRouter router).exec services
  | .delRouter routerName => (TopologyOp.delRouter routerName none).exec services
  | .addPdu pduInput => (TopologyOp.addPdu pduInput).exec services
  | .delPdu pduName => (TopologyOp.delPdu pduName).exec services
  | .addK8scluster data => (TopologyOp.addK8scluster data).exec services
  | .delK8scluster clusterId => (TopologyOp.delK8scluster clusterId).exec services
  | .updateK8scluster cluster => (TopologyOp.updateK8scluster cluster).exec services
  | .addPrometheusServer promServer => (TopologyOp.addPrometheusServer promServer).exec services
  | .delPrometheusServer promSrvId => (TopologyOp.delPrometheusServer promSrvId false).exec services
  | .updatePrometheusServer promServer => (TopologyOp.updatePrometheusServer promServer).exec services

/-- The operation as `start_operation` calls it. -/
def startOperation : TopologyCall → EStateM PyError Topology Unit
  | .addNetwork network terraform => Topology.addNetworkFlag services network terraform
  | call => call.exec services

end TopologyCall

/-- The persisted document, which pydantic may refuse. -/
inductive StoredTopology where
  | absent
  | unreadable
  | readable (t : TopologyModel)
  deriving DecidableEq, Repr

namespace StoredTopology

def ofModel : Option TopologyModel → StoredTopology
  | none => .absent
  | some t => .readable t

/-- `build_topology`. -/
def build : StoredTopology → Except PyError Topology
  | .absent => .ok (Topology.fromDb none)
  | .readable t => .ok (Topology.fromDb (some t))
  | .unreadable => .error (.validationError "topology")

end StoredTopology

namespace TopologyWorker

variable (services : Services) (payloads : Payloads α)

/-- `start_operation`: what it raises is logged. -/
def handle (m : TopologyWorkerMessage α) (topology : Topology) : StoredTopology :=
  match m.call payloads with
  | .error _ => .ofModel topology.stored
  | .ok call => .ofModel (finalState ((call.startOperation services).run topology)).stored

/-- The loop, with the messages it leaves in the queue when an exception escapes. -/
def listen (stored : StoredTopology) : List (TopologyWorkerMessage α) → StoredTopology × List (TopologyWorkerMessage α)
  | [] => (stored, [])
  | m :: ms =>
    match stored.build with
    | .error _ => (stored, m :: ms)
    | .ok topology => listen (handle services payloads m topology) ms

/-- The operation of the message, called directly; one that raises leaves the topology unchanged. -/
def direct (stored : StoredTopology) (m : TopologyWorkerMessage α) : StoredTopology :=
  match stored.build, m.call payloads with
  | .ok topology, .ok call =>
    match (call.exec services).run topology with
    | .ok _ topology' => .ofModel topology'.stored
    | .error _ _ => stored
  | _, _ => stored

end TopologyWorker

/-! ### When an operation that raises has saved nothing -/

namespace TopologyModel

def push (t : TopologyModel) (v : VimModel) : TopologyModel := { t with vims := t.vims ++ [v] }

/-- The routers of a new VIM that terraforming finds before the first it does not find. -/
def foundRouters (t : TopologyModel) (v : VimModel) : List String :=
  v.routers.takeWhile (Topology.routerFound (t.push v) v.name)

/-- `add_vim` of the VIM returns. -/
def Addable (t : TopologyModel) (terraform : Bool) (v : VimModel) : Prop :=
  KeyedList.toMap VimModel.name t.vims v.name = none ∧
    (terraform = true → v.networks = [] ∧ t.foundRouters v = v.routers)

/-- `add_vim` saves the new VIM with a router that is found, and raises at a later one. -/
def HalfAdded (t : TopologyModel) (terraform : Bool) (v : VimModel) : Prop :=
  terraform = true ∧ KeyedList.toMap VimModel.name t.vims v.name = none ∧ v.networks = [] ∧
    t.foundRouters v ≠ [] ∧ t.foundRouters v ≠ v.routers

/-- Every VIM can be added after those before it. -/
def AllAddable (t : TopologyModel) (terraform : Bool) : List VimModel → Prop
  | [] => True
  | v :: vs => t.Addable terraform v ∧ (t.push v).AllAddable terraform vs

variable {t : TopologyModel}

theorem vimAt_push (h : KeyedList.toMap VimModel.name t.vims v.name = none) : (t.push v).VimAt t.vims.length v where
  getElem? := by simp [push]
  position := by
    have hnone := KeyedList.findIndex_eq_none.2 h
    unfold KeyedList.findIndex at hnone ⊢
    simp [push, List.findIdx?_append, hnone, List.findIdx?_cons]

end TopologyModel

theorem addNames_of_subset (h : ∀ r ∈ names, r ∈ listed) : addNames names listed = listed := by
  induction names with
  | nil => rfl
  | cons r names ih =>
    change addNames names (addName r listed) = listed
    have hr : addName r listed = listed := if_pos (.inl (h r List.mem_cons_self))
    rw [hr]
    exact ih fun r' hr' => h r' (List.mem_cons_of_mem r hr')

/-- A program that always raises, and saves nothing. -/
def RaisesUnsaved (m : EStateM PyError Topology α) : Prop :=
  ∀ s, Meets m s (fun _ _ => False) (fun _ s' => s'.stored = s.stored)

theorem RaisesUnsaved.keeps {m : EStateM PyError Topology α} (h : RaisesUnsaved m) : KeepsStored m := fun s =>
  (h s).mono (fun _ _ h => h.elim) (fun _ _ h => h)

theorem RaisesUnsaved.bind {m : EStateM PyError Topology α} {f : α → EStateM PyError Topology β} (hm : KeepsStored m)
    (hf : ∀ a, RaisesUnsaved (f a)) : RaisesUnsaved (m >>= f) := fun s =>
  Meets.bind (hm s) fun a s' hs' => (hf a s').mono (fun _ _ h => h) (fun _ _ h => h.trans hs')

theorem RaisesUnsaved.bind_left {m : EStateM PyError Topology α} (hm : RaisesUnsaved m) (f : α → EStateM PyError Topology β) :
    RaisesUnsaved (m >>= f) := fun s => Meets.bind (hm s) fun _ _ h => h.elim

theorem RaisesUnsaved.raise (e : PyError) : RaisesUnsaved (throw e : EStateM PyError Topology α) := fun _ => rfl

theorem RaisesUnsaved.forM {f : α → EStateM PyError Topology PUnit} (hf : ∀ a, RaisesUnsaved (f a)) {xs : List α} (hxs : xs ≠ []) :
    RaisesUnsaved (ForM.forM xs f) := by
  cases xs with
  | nil => exact absurd rfl hxs
  | cons x xs =>
    rw [List.forM_cons]
    exact (hf x).bind_left _

section Terraforming

variable (services : Services)

theorem osTerraformer_raises (vim : Nat) : RaisesUnsaved (Topology.osTerraformer vim) :=
  .bind (.onModel _ _) fun _ => .raise _

theorem addVimNetTerraformed_raises (net : String) (vim : Nat) : RaisesUnsaved (Topology.addVimNetTerraformed net vim) :=
  .bind (.addVimNet net vim) fun _ => osTerraformer_raises vim

theorem delVimNetTerraformed_raises (net : String) (vim : Nat) : RaisesUnsaved (Topology.delVimNetTerraformed net vim) :=
  .bind (.onModel _ _) fun _ => .bind (.onModel _ _) fun _ => .bind (.onModel _ _) fun _ => osTerraformer_raises vim

theorem addVimRouterTerraformed_raises (router : String) (vim : Nat) :
    RaisesUnsaved (Topology.addVimRouterTerraformed router vim) :=
  .bind (.onModel _ _) fun _ => .bind (.onModel _ _) fun _ => osTerraformer_raises vim

theorem delVimRouterTerraformed_raises (router : String) (vim : Nat) :
    RaisesUnsaved (Topology.delVimRouterTerraformed router vim) :=
  .bind (.bind (.onModel _ _) fun _ => .pure _) fun _ => osTerraformer_raises vim

theorem KeepsStored.tryCatch {m : EStateM PyError Topology α} {handler : PyError → EStateM PyError Topology α} (hm : KeepsStored m)
    (hh : ∀ e, KeepsStored (handler e)) : KeepsStored (MonadExcept.tryCatch m handler) := fun s =>
  Meets.tryCatch (hm s) fun e s' hs' => (hh e s').mono (fun _ _ h => h.trans hs') (fun _ _ h => h.trans hs')

variable (hpub : ∀ event d, services.publish event d = none)
include hpub

theorem delVimTerraformed_atomic (vimName : String) (s : Topology) :
    AtomicAt (Topology.delVimTerraformed services vimName) s := by
  refine .bind_keeps (.onModel _ _) (fun vimModel => .bind_keeps (.onModel _ _) (fun t s' => ?_)) s
  by_cases h : Topology.Terraformed t vimModel = true
  · simp only [h, if_true]
    exact .of_keeps (RaisesUnsaved.bind_left (.raise _) _).keeps s'
  · simp only [h]
    exact .bind_keeps (.onModel _ _) (fun _ => .save_then_trigger services hpub _) s'

theorem updateVimTerraformed_atomic (msg : UpdateVimModel) (s : Topology) :
    AtomicAt (Topology.updateVimTerraformed services msg) s := by
  refine .bind_keeps (.tryCatch (.bind (.onModel _ _) fun _ => .pure _) fun e => ?_) (fun vim s' => ?_) s
  · split
    · exact .pure _
    · exact .raise e
  · cases vim with
    | none => exact trivial
    | some vim =>
      apply AtomicAt.bind_keeps (.forM _ fun net => (addVimNetTerraformed_raises net vim).keeps)
      intro _
      apply AtomicAt.bind_keeps (.forM _ fun net => (delVimNetTerraformed_raises net vim).keeps)
      intro _
      apply AtomicAt.bind_keeps (.forM _ fun router => (addVimRouterTerraformed_raises router vim).keeps)
      intro _
      apply AtomicAt.bind_keeps (.forM _ fun router => (delVimRouterTerraformed_raises router vim).keeps)
      intro _
      apply AtomicAt.bind_keeps (.forM _ fun _ => .onModel _ _)
      intro _
      apply AtomicAt.bind_keeps (.forM _ fun _ => .bind (.onModel _ _) fun _ => .pure _)
      exact fun _ => .save_then_trigger services hpub _

theorem delNetworkByNameTerraformed_atomic (networkName : String) (s : Topology) :
    AtomicAt (Topology.delNetworkByNameTerraformed services networkName) s := by
  apply AtomicAt.bind_keeps (.onModel _ _)
  intro vims
  apply AtomicAt.bind_keeps
  · apply KeepsStored.forM
    intro vim
    apply KeepsStored.bind (.onModel _ _)
    intro listed
    split
    · exact (delVimNetTerraformed_raises networkName vim).keeps
    · exact .pure _
  · exact fun _ => .bind_keeps (.onModel _ _) fun _ => .save_then_trigger services hpub _

omit hpub in
theorem addVim_fresh_run {t : TopologyModel} (h : KeyedList.toMap VimModel.name t.vims v.name = none) :
    (Topology.onModel "add_vim" (TopologyModel.addVim v)).run ⟨some t, d⟩ = .ok v ⟨some (t.push v), d⟩ := by
  have hadd := TopologyModel.vimColl.add_run (fun n => .valueError s!"The VIM >{n}< is already present in the topology.") t v
  have hadd' : (TopologyModel.addVim v).run t = .ok v (t.push v) := by
    unfold TopologyModel.addVim
    rw [hadd]
    simp only [TopologyModel.vimColl, h]
    rfl
  rw [Topology.onModel_run, hadd']

omit hpub in
theorem addVim_present_run {t : TopologyModel} (h : KeyedList.toMap VimModel.name t.vims v.name = some w) :
    (Topology.onModel "add_vim" (TopologyModel.addVim v)).run ⟨some t, d⟩ =
      .error (.valueError s!"The VIM >{v.name}< is already present in the topology.") ⟨some t, d⟩ := by
  have hadd := TopologyModel.vimColl.add_run (fun n => .valueError s!"The VIM >{n}< is already present in the topology.") t v
  have hadd' : (TopologyModel.addVim v).run t = .error (.valueError s!"The VIM >{v.name}< is already present in the topology.") t := by
    unfold TopologyModel.addVim
    rw [hadd]
    simp only [TopologyModel.vimColl, h]
  rw [Topology.onModel_run, hadd']

/-- The terraforming of a VIM without networks, up to its end. -/
theorem addVimTerraformed_run {t : TopologyModel} (h : KeyedList.toMap VimModel.name t.vims v.name = none) (hnets : v.networks = []) :
    (t.foundRouters v = v.routers ∧
        (Topology.addVimTerraformed services v).run ⟨some t, d⟩ = .ok () ⟨some (t.push v), some (t.push v)⟩) ∨
      (t.foundRouters v ≠ v.routers ∧ ∃ e m d', (Topology.addVimTerraformed services v).run ⟨some t, d⟩ = .error e ⟨m, d'⟩ ∧
        (t.foundRouters v = [] → d' = d)) := by
  have hat := TopologyModel.vimAt_push h
  have hread : (Topology.onModel "vims" (do let t ← get; return t.vims.length - 1)).run ⟨some (t.push v), d⟩ =
      .ok t.vims.length ⟨some (t.push v), d⟩ := by
    rw [Topology.onModel_run]
    simp only [EStateM.run_bind, EStateM.run_get, EStateM.run_pure, TopologyModel.push, List.length_append,
      List.length_singleton, Nat.add_sub_cancel]
  unfold Topology.addVimTerraformed
  rw [run_bind_ok _ _ (addVim_fresh_run h), run_bind_ok _ _ hread, hnets]
  simp only [List.forM_nil, pure_bind]
  have hloop := Topology.forM_addVimRouter_run (d := d) hat v.routers
  have hsame : addNames (t.foundRouters v) v.routers = v.routers :=
    addNames_of_subset fun r hr => (List.takeWhile_prefix _).subset hr
  change t.foundRouters v = v.routers ∧ _ ∨ t.foundRouters v ≠ v.routers ∧ _ at hloop
  rcases hloop with ⟨hall, hrun⟩ | ⟨hsome, e, m, hrun⟩
  · refine .inl ⟨hall, ?_⟩
    have hset : (t.push v).setVim t.vims.length (v.setRouters (addNames (t.foundRouters v) v.routers)) = t.push v := by
      rw [hsame]
      exact hat.setVim_self
    rw [run_bind_ok _ _ hrun]
    change EStateM.run _ (Topology.mk (some ((t.push v).setVim t.vims.length
      (v.setRouters (addNames (t.foundRouters v) v.routers)))) _) = _
    rw [hset]
    simp only [EStateM.run_bind, Topology.saveTopologyFromModel_run, Topology.triggerRedisEvent_run, hpub]
  · refine .inr ⟨hsome, e, m, _, run_bind_error _ _ hrun, ?_⟩
    intro hnil
    change (if t.foundRouters v = [] then d else _) = d
    rw [if_pos hnil]

theorem addVimTerraformed_meets (t : TopologyModel) (v : VimModel) (d : Option TopologyModel) :
    Meets (Topology.addVimTerraformed services v) ⟨some t, d⟩ (fun _ _ => t.Addable true v)
      (fun _ s' => ¬ t.HalfAdded true v → s'.stored = d) := by
  cases hmap : KeyedList.toMap VimModel.name t.vims v.name with
  | some w =>
    unfold Meets Topology.addVimTerraformed
    rw [run_bind_error _ _ (addVim_present_run hmap)]
    exact fun _ => rfl
  | none =>
    by_cases hnets : v.networks = []
    · rcases addVimTerraformed_run services hpub (d := d) hmap hnets with ⟨hall, hrun⟩ | ⟨hsome, e, m, d', hrun, hd⟩
      · unfold Meets
        rw [hrun]
        exact ⟨hmap, fun _ => ⟨hnets, hall⟩⟩
      · unfold Meets
        rw [hrun]
        intro h
        apply hd
        by_contra hfound
        exact h ⟨rfl, hmap, hnets, hfound, hsome⟩
    · have hraises : RaisesUnsaved (Topology.addVimTerraformed services v) := by
        apply RaisesUnsaved.bind (.onModel _ _)
        intro _
        apply RaisesUnsaved.bind (.onModel _ _)
        intro vim
        exact (RaisesUnsaved.forM (addVimNetTerraformed_raises · vim) hnets).bind_left _
      exact (hraises _).mono (fun _ _ h => h.elim) (fun _ _ h _ => h)

/-- `add_vim` with either flag. -/
def addVimWith (terraform : Bool) (v : VimModel) : EStateM PyError Topology Unit :=
  if terraform then Topology.addVimTerraformed services v else Topology.addVim services v

theorem addVimWith_run {t : TopologyModel} (h : t.Addable terraform v) (d : Option TopologyModel) :
    (addVimWith services terraform v).run ⟨some t, d⟩ = .ok () ⟨some (t.push v), some (t.push v)⟩ := by
  cases terraform with
  | false =>
    change (Topology.addVim services v).run ⟨some t, d⟩ = _
    unfold Topology.addVim
    rw [run_bind_ok _ _ (addVim_fresh_run h.1)]
    simp only [EStateM.run_bind, Topology.saveTopologyFromModel_run, Topology.triggerRedisEvent_run, hpub]
  | true =>
    obtain ⟨hnets, hfound⟩ := h.2 rfl
    rcases addVimTerraformed_run services hpub (d := d) h.1 hnets with ⟨-, hrun⟩ | ⟨hsome, -⟩
    · exact hrun
    · exact absurd hfound hsome

theorem addVimWith_meets (terraform : Bool) (t : TopologyModel) (v : VimModel) (d : Option TopologyModel) :
    Meets (addVimWith services terraform v) ⟨some t, d⟩ (fun _ _ => t.Addable terraform v)
      (fun _ s' => ¬ t.HalfAdded terraform v → s'.stored = d) := by
  cases terraform with
  | true => exact addVimTerraformed_meets services hpub t v d
  | false =>
    cases hmap : KeyedList.toMap VimModel.name t.vims v.name with
    | none =>
      have hadd : t.Addable false v := ⟨hmap, by nofun⟩
      unfold Meets
      rw [addVimWith_run services hpub hadd]
      exact hadd
    | some w =>
      change Meets (Topology.addVim services v) ⟨some t, d⟩ _ _
      unfold Meets Topology.addVim
      rw [run_bind_error _ _ (addVim_present_run hmap)]
      exact fun _ => rfl

theorem forM_addVimWith_run (vims : List VimModel) {t : TopologyModel} (h : t.AllAddable terraform vims) (d : Option TopologyModel) :
    ∃ s, (forM vims (addVimWith services terraform)).run ⟨some t, d⟩ = .ok () s ∧ s.model.isSome := by
  induction vims generalizing t d with
  | nil => exact ⟨_, rfl, rfl⟩
  | cons v vims ih =>
    rw [List.forM_cons, run_bind_ok _ _ (addVimWith_run services hpub h.1 d)]
    exact ih h.2 _

/-- `create` with either flag. -/
def createWith (terraform : Bool) (topo : TopologyModel) : EStateM PyError Topology Unit :=
  if terraform then Topology.createTerraformed services topo else Topology.create services topo

omit hpub in
theorem createWith_run (terraform : Bool) (topo : TopologyModel) (d : Option TopologyModel) :
    (createWith services terraform topo).run ⟨none, d⟩ =
      EStateM.run (do
        forM topo.vims (addVimWith services terraform)
        Topology.saveTopologyFromModel
        Topology.triggerRedisEvent services .create) ⟨some { topo with vims := [] }, d⟩ := by
  cases terraform <;> rfl

theorem createWith_atomic (terraform : Bool) (topo : TopologyModel)
    (h : ∀ v vs, topo.vims = v :: vs → (TopologyModel.Addable { topo with vims := [] } terraform v ∨
        TopologyModel.HalfAdded { topo with vims := [] } terraform v) →
      TopologyModel.AllAddable { topo with vims := [] } terraform topo.vims) :
    AtomicAt (createWith services terraform topo) ⟨none, none⟩ := by
  unfold AtomicAt Meets
  rw [createWith_run]
  by_cases hall : TopologyModel.AllAddable { topo with vims := [] } terraform topo.vims
  · obtain ⟨⟨model, d⟩, hrun, hmodel⟩ := forM_addVimWith_run services hpub topo.vims hall none
    obtain ⟨t, rfl⟩ := Option.isSome_iff_exists.1 hmodel
    rw [run_bind_ok _ _ hrun]
    simp only [EStateM.run_bind, Topology.saveTopologyFromModel_run, Topology.triggerRedisEvent_run, hpub]
  · cases hvims : topo.vims with
    | nil =>
      rw [hvims] at hall
      exact absurd trivial hall
    | cons v vs =>
      obtain ⟨hfails, hwhole⟩ := not_or.1 (mt (h v vs hvims) hall)
      have hmeets : Meets (do
          forM (v :: vs) (addVimWith services terraform)
          Topology.saveTopologyFromModel
          Topology.triggerRedisEvent services .create) ⟨some { topo with vims := [] }, none⟩ (fun _ _ => True)
            (fun _ s' => s'.stored = none) := by
        rw [meets_bind, List.forM_cons, meets_bind]
        apply (addVimWith_meets services hpub terraform _ v none).mono
        · exact fun _ _ hadd => absurd hadd hfails
        · exact fun _ s' hs' => hs' hwhole
      exact hmeets

omit hpub in
theorem deleteTerraformed_atomic {t : TopologyModel} (h : t.vims = v :: vs) (hv : Topology.Terraformed t v = true)
    (d : Option TopologyModel) : AtomicAt (Topology.deleteTerraformed services) ⟨some t, d⟩ := by
  have hget : (Topology.onModel "get_vim" (TopologyModel.getVim v.name)).run ⟨some t, d⟩ = .ok v ⟨some t, d⟩ := by
    rw [Topology.onModel_run, TopologyModel.getVim_run, h, KeyedList.toMap_cons, if_pos rfl]
  have hread : (Topology.onModel "routers" get).run ⟨some t, d⟩ = .ok t ⟨some t, d⟩ := rfl
  have hdel : (Topology.delVimTerraformed services v.name).run ⟨some t, d⟩ = .error (.keyError v.name) ⟨some t, d⟩ := by
    unfold Topology.delVimTerraformed
    rw [run_bind_ok _ _ hget, run_bind_ok _ _ hread]
    simp only [hv, if_true]
    rfl
  have hvims : (Topology.onModel "vims" (do let t ← get; return t.vims)).run ⟨some t, d⟩ = .ok t.vims ⟨some t, d⟩ := rfl
  have hloop : (Topology.deleteVimsTerraformed services 0 t.vims.length).run ⟨some t, d⟩ =
      .error (.keyError v.name) ⟨some t, d⟩ := by
    rw [h, List.length_cons, Topology.deleteVimsTerraformed, run_bind_ok _ _ hvims, h]
    exact run_bind_error _ _ hdel
  unfold AtomicAt Meets Topology.deleteTerraformed
  rw [EStateM.run_bind]
  simp only [EStateM.run_get]
  rw [run_bind_error _ _ hloop]

end Terraforming

namespace TopologyCall

/-- The operation raises after it has changed the document. -/
def SavesThenFails (stored : Option TopologyModel) : TopologyCall → Prop
  | .create topo terraform =>
    stored = none ∧ ∃ v vs, topo.vims = v :: vs ∧
      (TopologyModel.Addable { topo with vims := [] } terraform v ∨ TopologyModel.HalfAdded { topo with vims := [] } terraform v) ∧
      ¬ TopologyModel.AllAddable { topo with vims := [] } terraform topo.vims
  | .delete terraform =>
    ∃ t, stored = some t ∧ ¬ (terraform = true ∧ ∃ v vs, t.vims = v :: vs ∧ Topology.Terraformed t v = true)
  | .addVim vimModel terraform => ∃ t, stored = some t ∧ t.HalfAdded terraform vimModel
  | .updateVim updateMsg terraform =>
    ∃ t, stored = some t ∧ terraform = false ∧ (TopologyOp.updateVim updateMsg).SavesThenFails t
  | _ => False

section Atomic

variable (services : Services) (hpub : ∀ event d, services.publish event d = none)
include hpub

theorem create_atomic (topo : TopologyModel) (terraform : Bool) (stored : Option TopologyModel)
    (h : ¬ (TopologyCall.create topo terraform).SavesThenFails stored) :
    AtomicAt (createWith services terraform topo) (Topology.fromDb stored) := by
  cases stored with
  | some t => cases terraform <;> exact rfl
  | none =>
    apply createWith_atomic services hpub
    intro v vs hvims hfirst
    by_contra hall
    exact h ⟨rfl, v, vs, hvims, hfirst, hall⟩

theorem exec_atomic (call : TopologyCall) (stored : Option TopologyModel) (h : ¬ call.SavesThenFails stored) :
    AtomicAt (call.exec services) (Topology.fromDb stored) := by
  have once (op : TopologyOp) (hop : op.SavesOnce) : AtomicAt (op.exec services) (Topology.fromDb stored) :=
    op.atomic_of_savesOnce services hpub hop _
  cases call with
  | create topo terraform =>
    have hatomic := create_atomic services hpub topo terraform stored h
    cases terraform <;> exact hatomic
  | delete terraform =>
    cases stored with
    | none => cases terraform <;> exact rfl
    | some t =>
      obtain ⟨rfl, v, vs, hvims, hv⟩ := not_not.1 fun hnot => h ⟨t, rfl, hnot⟩
      exact deleteTerraformed_atomic services hvims hv _
  | addVim vimModel terraform =>
    cases terraform with
    | false =>
      rw [exec]
      exact once _ trivial
    | true =>
      cases stored with
      | none => exact rfl
      | some t =>
        apply (addVimTerraformed_meets services hpub t vimModel (some t)).mono
        · exact fun _ _ _ => trivial
        · exact fun _ s' hs' => hs' fun hhalf => h ⟨t, rfl, hhalf⟩
  | updateVim updateMsg terraform =>
    cases terraform with
    | true => exact updateVimTerraformed_atomic services hpub updateMsg _
    | false =>
      cases stored with
      | none => exact updateVim_atomic_none services updateMsg
      | some t => exact (updateVim_atomic_iff services hpub updateMsg t).2 fun hfails => h ⟨t, rfl, rfl, hfails⟩
  | delVim vimName terraform =>
    cases terraform with
    | false =>
      rw [exec]
      exact once _ trivial
    | true => exact delVimTerraformed_atomic services hpub vimName _
  | delNetworkByName networkName terraform =>
    cases terraform with
    | false =>
      rw [exec]
      exact once _ trivial
    | true => exact delNetworkByNameTerraformed_atomic services hpub networkName _
  | _ =>
    rw [exec]
    exact once _ trivial

end Atomic

/-- The worker's call differs from the operation: it raises where the network could be added. -/
def Misbound (stored : Option TopologyModel) : TopologyCall → Prop
  | .addNetwork network terraform => terraform = true ∧ ∃ t, stored = some t ∧ ¬ t.HasNetwork network.name
  | _ => False

end TopologyCall

namespace StoredTopology

def model : StoredTopology → Option TopologyModel
  | .readable t => some t
  | _ => none

theorem build_eq {stored : StoredTopology} (h : stored ≠ .unreadable) : stored.build = .ok (Topology.fromDb stored.model) := by
  cases stored with
  | unreadable => exact absurd rfl h
  | absent => rfl
  | readable t => rfl

theorem ofModel_model {stored : StoredTopology} (h : stored ≠ .unreadable) : ofModel stored.model = stored := by
  cases stored with
  | unreadable => exact absurd rfl h
  | absent => rfl
  | readable t => rfl

end StoredTopology

namespace TopologyWorker

section Steps

variable (services : Services) (payloads : Payloads α)

/-- The document can be read, and the operation of the message neither raises with a changed document
nor gets its flag as a list of VIMs. -/
def Faithful (m : TopologyWorkerMessage α) (stored : StoredTopology) : Prop :=
  stored ≠ .unreadable ∧
    ∀ call, m.call payloads = .ok call → ¬ call.SavesThenFails stored.model ∧ ¬ call.Misbound stored.model

/-- A call whose exceptions leave the document alone. -/
theorem final_eq_direct {m : EStateM PyError Topology Unit} (h : AtomicAt m (Topology.fromDb d)) :
    (finalState (m.run (Topology.fromDb d))).stored =
      match m.run (Topology.fromDb d) with
      | .ok _ s => s.stored
      | .error _ _ => d := by
  unfold AtomicAt Meets at h
  cases hrun : m.run (Topology.fromDb d) with
  | ok a s => rfl
  | error e s =>
    rw [hrun] at h
    exact h

theorem addNetworkFlag_true (network : NetworkModel) :
    RaisesUnsaved (Topology.addNetworkFlag services network true) :=
  .bind (.onModel _ _) fun _ => .raise _

/-- The network is there, or no topology is. -/
theorem addNetwork_raises {network : NetworkModel} (h : ∀ t, stored = some t → t.HasNetwork network.name) :
    Raised (((TopologyOp.addNetworkModel network none).exec services).run (Topology.fromDb stored)) := by
  cases stored with
  | none => exact trivial
  | some t =>
    obtain ⟨n, hn⟩ := Option.isSome_iff_exists.1 (h t rfl)
    have hadd := TopologyModel.netColl.add_run (fun n => .valueError s!"The network >{n}< is already present in the topology.") t network
    have hrun : (Topology.onModel "add_network" (TopologyModel.addNetwork network)).run (Topology.fromDb (some t)) =
        .error (.valueError s!"The network >{network.name}< is already present in the topology.") ⟨some t, some t⟩ := by
      have hadd' : (TopologyModel.addNetwork network).run t =
          .error (.valueError s!"The network >{network.name}< is already present in the topology.") t := by
        unfold TopologyModel.addNetwork
        rw [hadd]
        simp only [TopologyModel.netColl, hn]
      rw [Topology.fromDb, Topology.onModel_run, hadd']
    have hexec : ((TopologyOp.addNetworkModel network none).exec services).run (Topology.fromDb (some t)) =
        .error (.valueError s!"The network >{network.name}< is already present in the topology.") ⟨some t, some t⟩ := by
      apply run_bind_error
      exact run_bind_error _ _ hrun
    rw [hexec]
    trivial

variable (hpub : ∀ event d, services.publish event d = none)
include hpub

theorem startOperation_stored (call : TopologyCall) (stored : Option TopologyModel) (hfails : ¬ call.SavesThenFails stored)
    (hbound : ¬ call.Misbound stored) :
    (finalState ((call.startOperation services).run (Topology.fromDb stored))).stored =
      match (call.exec services).run (Topology.fromDb stored) with
      | .ok _ s => s.stored
      | .error _ _ => stored := by
  have hatomic := final_eq_direct (call.exec_atomic services hpub stored hfails)
  cases call with
  | addNetwork network terraform =>
    cases terraform with
    | false => exact hatomic
    | true =>
      have hraised : Raised (((TopologyCall.addNetwork network true).exec services).run (Topology.fromDb stored)) := by
        apply addNetwork_raises
        intro t ht
        by_contra hnot
        exact hbound ⟨rfl, t, ht, hnot⟩
      have hworker := addNetworkFlag_true services network (Topology.fromDb stored)
      have hkept : (finalState ((Topology.addNetworkFlag services network true).run (Topology.fromDb stored))).stored = stored := by
        unfold Meets at hworker
        cases hrun : (Topology.addNetworkFlag services network true).run (Topology.fromDb stored) with
        | ok a s =>
          rw [hrun] at hworker
          exact hworker.elim
        | error e s =>
          rw [hrun] at hworker
          exact hworker
      change (finalState ((Topology.addNetworkFlag services network true).run (Topology.fromDb stored))).stored = _
      rw [hkept]
      cases hrun : ((TopologyCall.addNetwork network true).exec services).run (Topology.fromDb stored) with
      | ok a s =>
        rw [hrun] at hraised
        exact hraised.elim
      | error e s => rfl
  | _ => exact hatomic

theorem handle_eq_direct (m : TopologyWorkerMessage α) {stored : StoredTopology} (h : Faithful payloads m stored) :
    handle services payloads m (Topology.fromDb stored.model) = direct services payloads stored m := by
  have hstored := StoredTopology.ofModel_model h.1
  unfold handle direct
  rw [StoredTopology.build_eq h.1]
  cases hcall : m.call payloads with
  | error e => exact hstored
  | ok call =>
    obtain ⟨hfails, hbound⟩ := h.2 call hcall
    simp only
    rw [startOperation_stored services hpub call stored.model hfails hbound]
    cases (call.exec services).run (Topology.fromDb stored.model) with
    | ok a s => rfl
    | error e s => exact hstored

end Steps

end TopologyWorker

/-- The loop handles every message, as the direct calls would. -/
theorem topology_worker_refines (services : Services) (payloads : Payloads α)
    (hpub : ∀ event d, services.publish event d = none) (stored : StoredTopology) (messages : List (TopologyWorkerMessage α))
    (h : Along (TopologyWorker.direct services payloads) (TopologyWorker.Faithful payloads) stored messages) :
    TopologyWorker.listen services payloads stored messages =
      (messages.foldl (TopologyWorker.direct services payloads) stored, []) := by
  induction messages generalizing stored with
  | nil => rfl
  | cons m messages ih =>
    obtain ⟨hm, hrest⟩ := h
    unfold TopologyWorker.listen
    rw [StoredTopology.build_eq hm.1]
    simp only
    rw [TopologyWorker.handle_eq_direct services payloads hpub m hm]
    exact ih _ hrest

/-- The network `{"name": "lan", "type": "vlan", "cidr": "10.0.0.0/24"}`. -/
def workerLan : NetworkModel := { name := "lan", type := .vlan, cidr := .lan }

def workerLanData : PyDict := [(.str "name", .str "lan"), (.str "type", .str "vlan"), (.str "cidr", .str "10.0.0.0/24")]

/-- What pydantic makes of this payload, and of the empty one. -/
def workerLanPayloads : Payloads PyDict where
  item data key :=
    match PyDict.getItem data key with
    | .ok (.str s) => .ok s
    | .ok _ => .error (.valueError "not found")
    | .error e => .error e
  topologyModel _ := .ok {}
  vimModel _ := .error (.validationError "name")
  updateVimModel _ := .error (.validationError "name")
  networkModel data := if data = workerLanData then .ok workerLan else .error (.validationError "name")
  routerModel _ := .error (.validationError "name")
  pduModel _ := .error (.validationError "name")
  topologyK8sModel _ := .error (.validationError "name")
  prometheusServerModel _ := .error (.validationError "id")

/-- A topology is created, a network is added and deleted again. -/
theorem topology_worker_refines_lan :
    TopologyWorker.listen {} workerLanPayloads .absent
        [⟨.addTopology, [], some false, none⟩, ⟨.addNet, workerLanData, some false, none⟩,
          ⟨.delNet, [(.str "network_id", .str "lan")], some true, none⟩, ⟨.addVim, [], some true, none⟩] =
      (.readable {}, []) := by
  rw [topology_worker_refines {} workerLanPayloads (fun _ _ => rfl) .absent]
  · decide +kernel
  · refine ⟨⟨nofun, ?_⟩, ⟨nofun, ?_⟩, ⟨nofun, ?_⟩, ⟨nofun, ?_⟩, trivial⟩
    · intro call hcall
      cases hcall
      refine ⟨?_, id⟩
      rintro ⟨-, v, vs, hvims, -⟩
      cases hvims
    · intro call hcall
      cases hcall
      exact ⟨id, fun h => absurd h.1 (by decide)⟩
    · intro call hcall
      cases hcall
      exact ⟨id, id⟩
    · intro call hcall
      cases hcall

/-- ADD_NET with `terraform=True`. -/
theorem topology_worker_refines_fails :
    ¬ ∀ (services : Services) (payloads : Payloads PyDict), (∀ event d, services.publish event d = none) →
      ∀ (stored : StoredTopology) (messages : List (TopologyWorkerMessage PyDict)),
        TopologyWorker.listen services payloads stored messages =
          (messages.foldl (TopologyWorker.direct services payloads) stored, []) := by
  intro h
  have heq := h {} workerLanPayloads (fun _ _ => rfl) (.readable {}) [⟨.addNet, workerLanData, some true, none⟩]
  exact absurd (congrArg Prod.fst heq) (by decide +kernel)

end Nfvcl
