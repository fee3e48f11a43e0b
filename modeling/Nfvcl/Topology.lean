import Mathlib.Data.List.Basic
import Nfvcl.Effects
import Nfvcl.TopologyModel
import Nfvcl.Ipam

namespace Nfvcl
set_option autoImplicit true

inductive TopologyEventType where
  | create | delete | vimCreate | vimDel | vimUpdate
  | createNetwork | deleteNetwork | createdRouter | deletedRouter
  | createRangeRes | deleteRangeRes | createPdu | deletePdu
  | createK8s | deleteK8s | updateK8s
  | createPromSrv | deletePromSrv | updatePromSrv
  deriving DecidableEq, Repr

/-- What the calls that leave the process do during an operation, `none` being a normal
return: publishing an event on redis, removing local files, copying the targets file. -/
structure Services where
  publish : TopologyEventType → Option TopologyModel → Option PyError := fun _ _ => none
  removeFiles : Option PyError := none
  updateRemoteSdFile : Option PyError := none

/-- A `Topology` object, and the persisted document it saves to. -/
structure Topology where
  model : Option TopologyModel
  stored : Option TopologyModel
  deriving DecidableEq, Repr

namespace TopologyModel

def setVim (t : TopologyModel) (i : Nat) (v : VimModel) : TopologyModel :=
  { t with vims := t.vims.set i v }

/-- A call on the VIM object at a position of the list. -/
def onVim (vim : Nat) (m : EStateM PyError VimModel α) : EStateM PyError TopologyModel α := fun t =>
  match t.vims[vim]? with
  | none => .error (.indexError "list index out of range") t
  | some v =>
    match m.run v with
    | .ok a v' => .ok a (t.setVim vim v')
    | .error e v' => .error e (t.setVim vim v')

/-- A call on the network object at a position of the list. -/
def onNetwork (net : Nat) (m : EStateM PyError NetworkModel α) : EStateM PyError TopologyModel α := fun t =>
  match t.networks[net]? with
  | none => .error (.indexError "list index out of range") t
  | some n =>
    match m.run n with
    | .ok a n' => .ok a { t with networks := t.networks.set net n' }
    | .error e n' => .error e { t with networks := t.networks.set net n' }

/-- The loop of `release_ranges` over all networks, left at the first removal. -/
def releaseInNetworks (owner : String) (ipRange : Option IPv4ReservedRange) :
    List NetworkModel → Except PyError (Option (IPv4ReservedRange × List NetworkModel))
  | [] => .ok none
  | network :: rest =>
    match (NetworkModel.releaseRange owner ipRange).run network with
    | .error e _ => .error e
    | .ok (some r) network' => .ok (some (r, network' :: rest))
    | .ok none _ =>
      match releaseInNetworks owner ipRange rest with
      | .error e => .error e
      | .ok none => .ok none
      | .ok (some (r, rest')) => .ok (some (r, network :: rest'))

/-- The search of `release_ranges`: in every network, or in the one named. -/
def releaseRanges (owner : String) (ipRange : Option IPv4ReservedRange)
    (netName : Option String) : EStateM PyError TopologyModel (Option IPv4ReservedRange) := do
  match netName with
  | none =>
    let t ← get
    match releaseInNetworks owner ipRange t.networks with
    | .error e => throw e
    | .ok none => return none
    | .ok (some (r, networks)) =>
      set { t with networks := networks }
      return some r
  | some name =>
    let network ← findNetIndex name
    onNetwork network (NetworkModel.releaseRange owner ipRange)

/-- One iteration of the loop of `add_vim_router` over the ports of the router. What it
writes goes to a copy that only terraforming uses; the dictionary and list accesses may raise. -/
def visitRouterPort (t : TopologyModel) (vimName : String) (port : RouterPortModel) :
    Except PyError Unit := do
  match t.networks.find? (fun n => decide (n.name = port.net) && n.external) with
  | none => return
  | some extNet =>
    let ids ← findIds extNet.ids
    match ids with
    | none => throw (.typeError "'NoneType' object is not subscriptable")
    | some ids =>
      let _ ← PyDict.getItem ids "l2net_id"
      match extNet.allocationPool with
      | [] => throw (.indexError "list index out of range")
      | _ :: _ =>
        let _ ← PyDict.getItem ids "l3net_id"
        return
where
  /-- `next((item for item in ext_net.ids if item['vim'] == vim.name), None)`. -/
  findIds : List PyDict → Except PyError (Option PyDict)
    | [] => .ok none
    | item :: rest => do
      let v ← PyDict.getItem item "vim"
      if v = .str vimName then return some item else findIds rest

/-- The lookups `add_vim_router` makes between listing the router and saving. -/
def visitRouter (vimRouterName : String) (vim : Nat) :
    EStateM PyError TopologyModel Unit := do
  let router ← getRouter vimRouterName
  let name ← onVim vim (do let v ← get; return v.name)
  let t ← get
  match router.ports.forM (visitRouterPort t name) with
  | .ok _ => return
  | .error e => throw e

/-- `vim.del_router(vim.get_router(name))`: a router the VIM does not list is looked up as
`None`, which `del_router` finds in no network list. -/
def delRouterFromVim (routerName : String) (vimName : String) : EStateM PyError TopologyModel Unit := do
  let vim ← findVimIndex vimName
  onVim vim (do
    let v ← get
    match v.getRouter routerName with
    | none => return
    | some vimRouter => let _ ← VimModel.delRouter vimRouter)

section Runs

variable {t : TopologyModel}

theorem onVim_run (hv : t.vims[i]? = some v) (m : EStateM PyError VimModel α) :
    (onVim i m).run t =
      match m.run v with
      | .ok a v' => .ok a (t.setVim i v')
      | .error e v' => .error e (t.setVim i v') := by
  change onVim i m t = _
  simp only [onVim, hv]

theorem onNetwork_run (hn : t.networks[i]? = some n) (m : EStateM PyError NetworkModel α) :
    (onNetwork i m).run t =
      match m.run n with
      | .ok a n' => .ok a { t with networks := t.networks.set i n' }
      | .error e n' => .error e { t with networks := t.networks.set i n' } := by
  change onNetwork i m t = _
  simp only [onNetwork, hn]

theorem setVim_self (hv : t.vims[i]? = some v) : t.setVim i v = t := by
  obtain ⟨hi, rfl⟩ := List.getElem?_eq_some_iff.1 hv
  rw [setVim, List.set_getElem_self]

theorem set_networks_self (hn : t.networks[i]? = some n) :
    { t with networks := t.networks.set i n } = t := by
  obtain ⟨hi, rfl⟩ := List.getElem?_eq_some_iff.1 hn
  rw [List.set_getElem_self]

theorem onVim_read (hv : t.vims[i]? = some v) (f : VimModel → α) :
    (onVim i (do let v ← get; return f v)).run t = .ok (f v) t := by
  rw [onVim_run hv]
  simp only [EStateM.run_bind, EStateM.run_get, EStateM.run_pure, setVim_self hv]

theorem onNetwork_read (hn : t.networks[i]? = some n) (f : NetworkModel → α) :
    (onNetwork i (do let n ← get; return f n)).run t = .ok (f n) t := by
  rw [onNetwork_run hn]
  simp only [EStateM.run_bind, EStateM.run_get, EStateM.run_pure, set_networks_self hn]

end Runs

end TopologyModel

namespace Topology

/-- `self._model.attr(...)`: without a model the attribute access raises. -/
def onModel (attr : String) (m : EStateM PyError TopologyModel α) : EStateM PyError Topology α := fun s =>
  match s.model with
  | none => .error (.attributeError s!"'NoneType' object has no attribute '{attr}'") s
  | some t =>
    match m.run t with
    | .ok a t' => .ok a { s with model := some t' }
    | .error e t' => .error e { s with model := some t' }

def saveTopologyFromModel : EStateM PyError Topology Unit := do
  let s ← get
  match s.model with
  | none => throw (.attributeError "'NoneType' object has no attribute 'model_dump'")
  | some t => set { s with stored := some t }

def triggerRedisEvent (services : Services) (event : TopologyEventType) :
    EStateM PyError Topology Unit := do
  let s ← get
  outcome (services.publish event s.stored)

section Runs

@[simp] theorem onModel_run (attr : String) (m : EStateM PyError TopologyModel α) (t : TopologyModel)
    (d : Option TopologyModel) :
    (onModel attr m).run ⟨some t, d⟩ =
      match m.run t with
      | .ok a t' => .ok a ⟨some t', d⟩
      | .error e t' => .error e ⟨some t', d⟩ := by
  change onModel attr m ⟨some t, d⟩ = _
  cases h : m.run t <;> simp only [onModel, h]

@[simp] theorem onModel_run_none (attr : String) (m : EStateM PyError TopologyModel α)
    (d : Option TopologyModel) :
    (onModel attr m).run ⟨none, d⟩ =
      .error (.attributeError s!"'NoneType' object has no attribute '{attr}'") ⟨none, d⟩ := rfl

@[simp] theorem saveTopologyFromModel_run (t : TopologyModel) (d : Option TopologyModel) :
    saveTopologyFromModel.run ⟨some t, d⟩ = .ok () ⟨some t, some t⟩ := rfl

theorem triggerRedisEvent_run (services : Services) (event : TopologyEventType) (s : Topology) :
    (triggerRedisEvent services event).run s =
      match services.publish event s.stored with
      | none => .ok () s
      | some e => .error e s := by
  simp only [triggerRedisEvent, EStateM.run_bind, EStateM.run_get, outcome]
  cases services.publish event s.stored <;> rfl

end Runs

/-- `Topology.from_db`; a stored model reads back as itself. -/
def fromDb (stored : Option TopologyModel) : Topology := ⟨stored, stored⟩

/-! ### VIM updating, without terraforming. A VIM is referred to by its position. -/

def addVimNet (vimNetName : String) (vim : Nat) : EStateM PyError Topology Unit := do
  onModel "vims" (TopologyModel.onVim vim (VimModel.addNet vimNetName))
  let _ ← onModel "get_network" (TopologyModel.getNetwork vimNetName)

def delVimNet (vimNetName : String) (vim : Nat) : EStateM PyError Topology (Option String) := do
  let name ← onModel "vims" (TopologyModel.onVim vim (do let v ← get; return v.name))
  let vimModel ← onModel "get_vim" (TopologyModel.findVimIndex name)
  let removedNet ← onModel "vims" (TopologyModel.onVim vimModel (VimModel.delNet vimNetName))
  saveTopologyFromModel
  return removedNet

def delVimRouter (vimRouterName : String) (vim : Nat) : EStateM PyError Topology Unit := do
  let _ ← onModel "vims" (TopologyModel.onVim vim (VimModel.delRouter vimRouterName))

def addVimRouter (vimRouterName : String) (vim : Nat) : EStateM PyError Topology Unit := do
  onModel "vims" (TopologyModel.onVim vim (VimModel.addRouter vimRouterName))
  onModel "get_router" (TopologyModel.visitRouter vimRouterName vim)
  saveTopologyFromModel

/-! ### Topology and VIMs -/

section Operations

variable (services : Services)

def addVim (vimModel : VimModel) : EStateM PyError Topology Unit := do
  let _ ← onModel "add_vim" (TopologyModel.addVim vimModel)
  saveTopologyFromModel
  triggerRedisEvent services .vimCreate

def create (topo : TopologyModel) : EStateM PyError Topology Unit := do
  let s ← get
  if s.model.isSome then
    throw (.valueError "It is not possible to allocate a new topology, since another one is already declared")
  set { s with model := some { topo with vims := [] } }
  forM topo.vims (addVim services)
  saveTopologyFromModel
  triggerRedisEvent services .create

def delVim (vimName : String) : EStateM PyError Topology Unit := do
  let vimModel ← onModel "get_vim" (TopologyModel.getVim vimName)
  let _ ← onModel "del_vim" (TopologyModel.delVim vimModel.name)
  saveTopologyFromModel
  triggerRedisEvent services .vimDel

/-- The loop of `delete`: `for vim in self._model.vims` counts positions in the list that
`del_vim` shortens. -/
def deleteVims (index : Nat) : Nat → EStateM PyError Topology Unit
  | 0 => pure ()
  | fuel + 1 => do
    let vims ← onModel "vims" (do let t ← get; return t.vims)
    match vims[index]? with
    | none => pure ()
    | some vim =>
      delVim services vim.name
      deleteVims (index + 1) fuel

/-- `delete` reads `model_dump` of the model it has just set to `None`. -/
def delete : EStateM PyError Topology Unit := do
  let s ← get
  match s.model with
  | none => throw (.valueError "Not possible to delete the topology. No topology is currently allocated")
  | some t =>
    deleteVims services 0 t.vims.length
    set (⟨none, none⟩ : Topology)
    throw (.attributeError "'NoneType' object has no attribute 'model_dump'")

/-- The loops of `update_vim` on the VIM it has found. -/
def updateVimAt (updateMsg : UpdateVimModel) (vim : Nat) : EStateM PyError Topology Unit := do
  forM updateMsg.networksToAdd (fun vimNet => addVimNet vimNet vim)
  forM updateMsg.networksToDel (fun vimNet => do let _ ← delVimNet vimNet vim)
  forM updateMsg.routersToAdd (fun vimRouter => addVimRouter vimRouter vim)
  forM updateMsg.routersToDel (fun vimRouter => delVimRouter vimRouter vim)
  forM updateMsg.areasToAdd (fun vimArea =>
    onModel "vims" (TopologyModel.onVim vim (VimModel.addArea vimArea)))
  forM updateMsg.areasToDel (fun vimArea => do
    let _ ← onModel "vims" (TopologyModel.onVim vim (VimModel.delArea vimArea)))
  saveTopologyFromModel
  triggerRedisEvent services .vimUpdate

/-- `update_vim`; an unknown VIM is only logged. -/
def updateVim (updateMsg : UpdateVimModel) : EStateM PyError Topology Unit := do
  let vim ← tryCatch (do
      let vim ← onModel "get_vim" (TopologyModel.findVimIndex updateMsg.name)
      return some vim)
    (fun e => if e.isValueError then pure none else throw e)
  match vim with
  | none => return
  | some vim => updateVimAt services updateMsg vim

/-! ### Networks -/

def getNetworkModel (netName : String) (vimName : Option String) :
    EStateM PyError Topology NetworkModel := do
  let netModel ← onModel "get_network" (TopologyModel.getNetwork netName)
  match vimName with
  | none => pure ()
  | some name =>
    -- the missing network of a VIM is only logged by `get_net`
    if name ≠ "" then
      let _ ← onModel "get_vim" (TopologyModel.getVim name)
  return netModel

def addNetworkModel (networkModel : NetworkModel) (vimNamesList : Option (List String)) :
    EStateM PyError Topology NetworkModel := do
  let addedNetwork ← onModel "add_network" (TopologyModel.addNetwork networkModel)
  forM (vimNamesList.getD []) (fun vimName => do
    let vim ← onModel "get_vim" (TopologyModel.findVimIndex vimName)
    addVimNet networkModel.name vim)
  saveTopologyFromModel
  triggerRedisEvent services .createNetwork
  return addedNetwork

def delNetwork (network : NetworkModel) (vimNamesList : Option (List String)) :
    EStateM PyError Topology Unit := do
  forM (vimNamesList.getD []) (fun vimName => do
    let vim ← onModel "get_vim" (TopologyModel.findVimIndex vimName)
    let _ ← delVimNet network.name vim)
  let _ ← onModel "del_network" (TopologyModel.delNetwork network.name)
  saveTopologyFromModel
  triggerRedisEvent services .deleteNetwork

def delNetworkByName (networkName : String) : EStateM PyError Topology Unit := do
  let _ ← onModel "del_network" (TopologyModel.delNetwork networkName)
  saveTopologyFromModel
  triggerRedisEvent services .deleteNetwork

/-! ### Routers -/

def addRouter (router : RouterModel) : EStateM PyError Topology Unit := do
  let _ ← onModel "add_router" (TopologyModel.addRouter router)
  saveTopologyFromModel
  triggerRedisEvent services .createdRouter

def delRouter (routerName : String) (vimNamesList : Option (List String)) :
    EStateM PyError Topology Unit := do
  let router ← onModel "del_router" (TopologyModel.delRouter routerName)
  forM (vimNamesList.getD []) (fun vimName => onModel "get_vim" (TopologyModel.delRouterFromVim router.name vimName))
  saveTopologyFromModel
  triggerRedisEvent services .deletedRouter

/-! ### Reserved ranges -/

def setReservedIpRange (ipRange : IPv4Pool) (netName : String) (owner : String) :
    EStateM PyError Topology IPv4ReservedRange := do
  let topoNet ← onModel "get_network" (TopologyModel.findNetIndex netName)
  let external ← onModel "networks" (TopologyModel.onNetwork topoNet (do let n ← get; return n.external))
  if external then
    throw (.valueError s!"Network {netName} is external. Not possible to reserve any IP ranges.")
  let reserved : IPv4ReservedRange := ⟨ipRange, owner⟩
  onModel "networks" (TopologyModel.onNetwork topoNet (NetworkModel.addReservedRange reserved))
  saveTopologyFromModel
  triggerRedisEvent services .createRangeRes
  return reserved

def reserveRange (netName : String) (rangeLength : Int) (owner : String) (vimName : Option String) :
    EStateM PyError Topology IPv4ReservedRange := do
  let net ← getNetworkModel netName vimName
  let reservedIps := net.allocationPool ++ net.reservedRanges.map IPv4ReservedRange.toIPv4Pool
  match getRangeInCidr net.cidr reservedIps rangeLength with
  | .error e => throw e
  | .ok ipRange => setReservedIpRange services ipRange netName owner

/-- `reserve_range_lb_pool`; without a length the comparison with the first available range raises. -/
def reserveRangeLbPool (lbPool : LBPool) (owner : String) : EStateM PyError Topology IPv4ReservedRange := do
  match lbPool.rangeLength with
  | some rangeLength => reserveRange services lbPool.netName rangeLength owner none
  | none =>
    let net ← getNetworkModel lbPool.netName none
    let reservedIps := net.allocationPool ++ net.reservedRanges.map IPv4ReservedRange.toIPv4Pool
    match getAvailableNetworkIp net.cidr reservedIps with
    | .error e => throw e
    | .ok [] => throw (.valueError "Not possible to get a range in the network cidr")
    | .ok (_ :: _) => throw (.typeError "'>=' not supported between instances of 'int' and 'NoneType'")

/-- `release_ranges`; when nothing is found this is only logged. -/
def releaseRanges (owner : String) (ipRange : Option IPv4ReservedRange) (netName : Option String) :
    EStateM PyError Topology (Option IPv4ReservedRange) := do
  match ← onModel "networks" (TopologyModel.releaseRanges owner ipRange netName) with
  | none => return none
  | some removedRange =>
    saveTopologyFromModel
    triggerRedisEvent services .deleteRangeRes
    return some removedRange

/-! ### PDUs -/

/-- `add_pdu` logs a `ValueError`, raised when the PDU already exists. -/
def addPdu (pduInput : PduModel) : EStateM PyError Topology Unit :=
  tryCatch (do
    let _ ← onModel "add_pdu" (TopologyModel.addPdu pduInput)
    saveTopologyFromModel
    triggerRedisEvent services .createPdu)
    (fun e => if e.isValueError then pure () else throw e)

def updPdu (pduInput : PduModel) : EStateM PyError Topology Unit := do
  let _ ← onModel "upd_pdu" (TopologyModel.updPdu pduInput)
  saveTopologyFromModel
  triggerRedisEvent services .createPdu

def delPdu (pduName : String) : EStateM PyError Topology Unit := do
  let _ ← onModel "get_pdu" (TopologyModel.getPdu pduName)
  let _ ← onModel "del_pdu" (TopologyModel.delPdu pduName)
  triggerRedisEvent services .deletePdu
  saveTopologyFromModel

/-! ### Kubernetes clusters -/

def addK8scluster (data : TopologyK8sModel) : EStateM PyError Topology Unit := do
  onModel "add_k8s_cluster" (TopologyModel.addK8sCluster data)
  saveTopologyFromModel
  triggerRedisEvent services .createK8s

def delK8scluster (clusterId : String) : EStateM PyError Topology Unit := do
  let _ ← onModel "del_k8s_cluster" (TopologyModel.delK8sCluster clusterId)
  saveTopologyFromModel
  triggerRedisEvent services .deleteK8s

def updateK8scluster (cluster : TopologyK8sModel) : EStateM PyError Topology Unit := do
  let _ ← onModel "upd_k8s_cluster" (TopologyModel.updK8sCluster cluster)
  saveTopologyFromModel
  triggerRedisEvent services .updateK8s

/-! ### Prometheus servers -/

def addPrometheusServer (promServer : PrometheusServerModel) : EStateM PyError Topology Unit := do
  onModel "add_prometheus_srv" (TopologyModel.addPrometheusSrv promServer)
  saveTopologyFromModel
  triggerRedisEvent services .createPromSrv

def delPrometheusServer (promSrvId : String) (force : Bool) :
    EStateM PyError Topology PrometheusServerModel := do
  let deletedPromInstance ← onModel "del_prometheus_srv" (TopologyModel.delPrometheusSrv promSrvId force)
  outcome services.removeFiles
  saveTopologyFromModel
  triggerRedisEvent services .deletePromSrv
  return deletedPromInstance

def updatePrometheusServer (promServer : PrometheusServerModel) : EStateM PyError Topology Unit := do
  let _ ← onModel "upd_prometheus_srv" (TopologyModel.updPrometheusSrv promServer)
  outcome services.updateRemoteSdFile
  saveTopologyFromModel
  triggerRedisEvent services .updatePromSrv

end Operations

end Topology

/-- The operations that change an existing topology, without terraforming. -/
inductive TopologyOp where
  | addVim (vimModel : VimModel)
  | delVim (vimName : String)
  | updateVim (updateMsg : UpdateVimModel)
  | addNetworkModel (networkModel : NetworkModel) (vimNamesList : Option (List String))
  | delNetwork (network : NetworkModel) (vimNamesList : Option (List String))
  | delNetworkByName (networkName : String)
  | addRouter (router : RouterModel)
  | delRouter (routerName : String) (vimNamesList : Option (List String))
  | reserveRange (netName : String) (rangeLength : Int) (owner : String) (vimName : Option String)
  | releaseRanges (owner : String) (ipRange : Option IPv4ReservedRange) (netName : Option String)
  | addPdu (pduInput : PduModel)
  | updPdu (pduInput : PduModel)
  | delPdu (pduName : String)
  | addK8scluster (data : TopologyK8sModel)
  | delK8scluster (clusterId : String)
  | updateK8scluster (cluster : TopologyK8sModel)
  | addPrometheusServer (promServer : PrometheusServerModel)
  | delPrometheusServer (promSrvId : String) (force : Bool)
  | updatePrometheusServer (promServer : PrometheusServerModel)
  deriving DecidableEq, Repr

def TopologyOp.exec (services : Services) : TopologyOp → EStateM PyError Topology Unit
  | .addVim vimModel => Topology.addVim services vimModel
  | .delVim vimName => Topology.delVim services vimName
  | .updateVim updateMsg => Topology.updateVim services updateMsg
  | .addNetworkModel networkModel vimNamesList => do
    let _ ← Topology.addNetworkModel services networkModel vimNamesList
  | .delNetwork network vimNamesList => Topology.delNetwork services network vimNamesList
  | .delNetworkByName networkName => Topology.delNetworkByName services networkName
  | .addRouter router => Topology.addRouter services router
  | .delRouter routerName vimNamesList => Topology.delRouter services routerName vimNamesList
  | .reserveRange netName rangeLength owner vimName => do
    let _ ← Topology.reserveRange services netName rangeLength owner vimName
  | .releaseRanges owner ipRange netName => do
    let _ ← Topology.releaseRanges services owner ipRange netName
  | .addPdu pduInput => Topology.addPdu services pduInput
  | .updPdu pduInput => Topology.updPdu services pduInput
  | .delPdu pduName => Topology.delPdu services pduName
  | .addK8scluster data => Topology.addK8scluster services data
  | .delK8scluster clusterId => Topology.delK8scluster services clusterId
  | .updateK8scluster cluster => Topology.updateK8scluster services cluster
  | .addPrometheusServer promServer => Topology.addPrometheusServer services promServer
  | .delPrometheusServer promSrvId force => do
    let _ ← Topology.delPrometheusServer services promSrvId force
  | .updatePrometheusServer promServer => Topology.updatePrometheusServer services promServer

end Nfvcl
