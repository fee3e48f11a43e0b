import Mathlib.Data.List.Basic
import Nfvcl.KeyedList
import Nfvcl.Effects
import Nfvcl.NetworkModels
import Nfvcl.VimModels
import Nfvcl.ClusterModels

namespace Nfvcl
set_option autoImplicit true

/-- The topology document; `callback` is the text of its URL. -/
structure TopologyModel where
  id : Option String := some "topology"
  callback : Option String := none
  vims : List VimModel := []
  kubernetes : List TopologyK8sModel := []
  networks : List NetworkModel := []
  routers : List RouterModel := []
  pdus : List PduModel := []
  prometheusSrv : List PrometheusServerModel := []
  deriving DecidableEq, Repr

/-- One of the lists of the topology, with the field its elements are compared on. -/
structure Collection (α : Type) where
  items : TopologyModel → List α
  put : List α → TopologyModel → TopologyModel
  key : α → String

namespace Collection

/-- `if x in self.xs: raise ...; self.xs.append(x)`. -/
def add (c : Collection α) (present : String → PyError) (a : α) :
    EStateM PyError TopologyModel α := do
  let t ← get
  if (c.items t).any (fun x => decide (c.key x = c.key a)) then
    throw (present (c.key a))
  set (c.put (c.items t ++ [a]) t)
  return a

/-- `next((index for index, item in enumerate(self.xs) if item.name == name), -1)` and
the exception raised at -1. -/
def findIndex (c : Collection α) (absent : String → PyError) (k : String) :
    EStateM PyError TopologyModel Nat := do
  let t ← get
  match KeyedList.findIndex c.key (c.items t) k with
  | some i => return i
  | none => throw (absent k)

/-- `self.xs[index]`. -/
def getAt (c : Collection α) (i : Nat) : EStateM PyError TopologyModel α := do
  let t ← get
  match (c.items t)[i]? with
  | some a => return a
  | none => throw (.indexError "list index out of range")

/-- `self.xs[index] = x`. -/
def setAt (c : Collection α) (i : Nat) (a : α) : EStateM PyError TopologyModel Unit := do
  let t ← get
  if i < (c.items t).length then
    set (c.put ((c.items t).set i a) t)
  else
    throw (.indexError "list assignment index out of range")

/-- `self.xs.pop(index)`. -/
def popAt (c : Collection α) (i : Nat) : EStateM PyError TopologyModel α := do
  let t ← get
  match (c.items t)[i]? with
  | some a =>
    set (c.put ((c.items t).eraseIdx i) t)
    return a
  | none => throw (.indexError "pop index out of range")

section Runs

variable (c : Collection α) (absent present : String → PyError) (t : TopologyModel)

theorem add_run (a : α) :
    (c.add present a).run t =
      match KeyedList.toMap c.key (c.items t) (c.key a) with
      | some _ => .error (present (c.key a)) t
      | none => .ok a (c.put (c.items t ++ [a]) t) := by
  have hany : (c.items t).any (fun x => decide (c.key x = c.key a)) =
      (KeyedList.toMap c.key (c.items t) (c.key a)).isSome :=
    List.isSome_find?.symm
  simp only [add, EStateM.run_bind, EStateM.run_get, Effects.run_ite, hany]
  cases KeyedList.toMap c.key (c.items t) (c.key a) <;> rfl

theorem findIndex_run (k : String) :
    (c.findIndex absent k).run t =
      match KeyedList.findIndex c.key (c.items t) k with
      | some i => .ok i t
      | none => .error (absent k) t := by
  simp only [findIndex, EStateM.run_bind, EStateM.run_get]
  cases KeyedList.findIndex c.key (c.items t) k <;> rfl

theorem getAt_run (i : Nat) :
    (c.getAt i).run t =
      match (c.items t)[i]? with
      | some a => .ok a t
      | none => .error (.indexError "list index out of range") t := by
  simp only [getAt, EStateM.run_bind, EStateM.run_get]
  cases (c.items t)[i]? <;> rfl

theorem popAt_run (i : Nat) :
    (c.popAt i).run t =
      match (c.items t)[i]? with
      | some a => .ok a (c.put ((c.items t).eraseIdx i) t)
      | none => .error (.indexError "pop index out of range") t := by
  simp only [popAt, EStateM.run_bind, EStateM.run_get]
  cases (c.items t)[i]? <;> rfl

theorem setAt_run (i : Nat) (a : α) :
    (c.setAt i a).run t =
      if i < (c.items t).length then .ok () (c.put ((c.items t).set i a) t)
      else .error (.indexError "list assignment index out of range") t := by
  simp only [setAt, EStateM.run_bind, EStateM.run_get, Effects.run_ite]
  rfl

/-- Looking an element up by key: the position found is always valid. -/
theorem lookup_run (k : String) :
    (do let i ← c.findIndex absent k; c.getAt i).run t =
      match KeyedList.toMap c.key (c.items t) k with
      | some a => .ok a t
      | none => .error (absent k) t := by
  rw [EStateM.run_bind, findIndex_run]
  cases h : KeyedList.findIndex c.key (c.items t) k with
  | none => rw [KeyedList.findIndex_eq_none.1 h]
  | some i =>
    obtain ⟨a, hi, hm, _⟩ := KeyedList.findIndex_some h
    simp only [getAt_run, hi, hm]

theorem remove_run (k : String) :
    (do let i ← c.findIndex absent k; c.popAt i).run t =
      match KeyedList.toMap c.key (c.items t) k with
      | some a => .ok a (c.put (KeyedList.erase c.key (c.items t) k) t)
      | none => .error (absent k) t := by
  rw [EStateM.run_bind, findIndex_run]
  cases h : KeyedList.findIndex c.key (c.items t) k with
  | none => rw [KeyedList.findIndex_eq_none.1 h]
  | some i =>
    obtain ⟨a, hi, hm, _⟩ := KeyedList.findIndex_some h
    simp only [popAt_run, hi, hm, KeyedList.erase, h]

/-- `del` with a guard on the element found. -/
theorem guarded_remove_run (k : String) (refused : α → Prop) [DecidablePred refused] (e : PyError) :
    (do
      let i ← c.findIndex absent k
      let a ← c.getAt i
      if refused a then throw e
      c.popAt i).run t =
      match KeyedList.toMap c.key (c.items t) k with
      | some a =>
        if refused a then .error e t
        else .ok a (c.put (KeyedList.erase c.key (c.items t) k) t)
      | none => .error (absent k) t := by
  rw [EStateM.run_bind, findIndex_run]
  cases h : KeyedList.findIndex c.key (c.items t) k with
  | none => rw [KeyedList.findIndex_eq_none.1 h]
  | some i =>
    obtain ⟨a, hi, hm, _⟩ := KeyedList.findIndex_some h
    simp only [EStateM.run_bind, getAt_run, hi, hm, Effects.run_ite, KeyedList.erase, h]
    by_cases hr : refused a
    · simp only [if_pos hr]
      rfl
    · simp only [if_neg hr, popAt_run, hi]

theorem overwrite_run (a : α) :
    (do let i ← c.findIndex absent (c.key a); c.setAt i a; return a).run t =
      match KeyedList.toMap c.key (c.items t) (c.key a) with
      | some _ => .ok a (c.put (KeyedList.replace c.key (c.items t) a) t)
      | none => .error (absent (c.key a)) t := by
  rw [EStateM.run_bind, findIndex_run]
  cases h : KeyedList.findIndex c.key (c.items t) (c.key a) with
  | none => rw [KeyedList.findIndex_eq_none.1 h]
  | some i =>
    obtain ⟨b, hi, hm, _⟩ := KeyedList.findIndex_some h
    have hlt : i < (c.items t).length := (List.getElem?_eq_some_iff.1 hi).1
    simp only [EStateM.run_bind, setAt_run, if_pos hlt, hm, KeyedList.replace, h,
      EStateM.run_pure]

end Runs

end Collection

namespace TopologyModel

def vimColl : Collection VimModel :=
  ⟨TopologyModel.vims, fun xs t => { t with vims := xs }, VimModel.name⟩

def k8sColl : Collection TopologyK8sModel :=
  ⟨TopologyModel.kubernetes, fun xs t => { t with kubernetes := xs }, TopologyK8sModel.name⟩

def netColl : Collection NetworkModel :=
  ⟨TopologyModel.networks, fun xs t => { t with networks := xs }, NetworkModel.name⟩

def routerColl : Collection RouterModel :=
  ⟨TopologyModel.routers, fun xs t => { t with routers := xs }, RouterModel.name⟩

def pduColl : Collection PduModel :=
  ⟨TopologyModel.pdus, fun xs t => { t with pdus := xs }, PduModel.name⟩

def promColl : Collection PrometheusServerModel :=
  ⟨TopologyModel.prometheusSrv, fun xs t => { t with prometheusSrv := xs }, PrometheusServerModel.id⟩

/-! ### Index searches -/

def networkNotFound (netName : String) : PyError :=
  .valueError s!"The network ->{netName}<- was not found in the topology."

def vimNotFound (vimName : String) : PyError :=
  .valueError s!"The VIM ->{vimName}<- was not found in the topology."

def routerNotFound (routerName : String) : PyError :=
  .valueError s!"The router ->{routerName}<- was not found in the topology."

def findPromSrvIndex (promSrvId : String) : EStateM PyError TopologyModel Nat :=
  promColl.findIndex
    (fun n => .valueError s!"The prometheus server ->{n}<- has not been found") promSrvId

def findK8sClusterIndex (clusterName : String) : EStateM PyError TopologyModel Nat :=
  k8sColl.findIndex
    (fun n => .topoK8SNotFound s!"The K8s cluster ->{n}<- was not found in the topology.") clusterName

def findNetIndex (netName : String) : EStateM PyError TopologyModel Nat :=
  netColl.findIndex networkNotFound netName

def findVimIndex (vimName : String) : EStateM PyError TopologyModel Nat :=
  vimColl.findIndex vimNotFound vimName

/-- The search for a router enumerates the VIMs. -/
def findRouterIndex (routerName : String) : EStateM PyError TopologyModel Nat :=
  vimColl.findIndex routerNotFound routerName

/-- The message prints the failed index, not the name. -/
def findPduIndex (pduName : String) : EStateM PyError TopologyModel Nat :=
  pduColl.findIndex
    (fun _ => .valueError "The PDU ->-1<- was not found in the topology.") pduName

/-! ### Prometheus servers -/

def addPrometheusSrv (promSrv : PrometheusServerModel) : EStateM PyError TopologyModel Unit := do
  let _ ← promColl.add
    (fun n => .valueError s!"In the topology is already present a Prometheus server with id ->{n}<-") promSrv

def delPrometheusSrv (promSrvId : String) (force : Bool) :
    EStateM PyError TopologyModel PrometheusServerModel := do
  let index ← findPromSrvIndex promSrvId
  let promSrvToDel ← promColl.getAt index
  if promSrvToDel.targets.length > 0 ∧ ¬ force then
    throw (.valueError ("The prometheus instance to be deleted has configured jobs. You have to remove active " ++
      "jobs or force the deletion in the request."))
  promColl.popAt index

def updPrometheusSrv (promServer : PrometheusServerModel) :
    EStateM PyError TopologyModel PrometheusServerModel := do
  let index ← findPromSrvIndex promServer.id
  promColl.setAt index promServer
  return promServer

def findPromSrv (promSrvId : String) : EStateM PyError TopologyModel PrometheusServerModel := do
  let index ← findPromSrvIndex promSrvId
  promColl.getAt index

/-! ### Kubernetes clusters -/

def addK8sCluster (cluster : TopologyK8sModel) : EStateM PyError TopologyModel Unit := do
  let _ ← k8sColl.add
    (fun n => .valueError s!"Kubernetes cluster with name >{n}< already exists in the topology") cluster

def delK8sCluster (clusterId : String) : EStateM PyError TopologyModel TopologyK8sModel := do
  let index ← findK8sClusterIndex clusterId
  let cluster ← k8sColl.getAt index
  if cluster.deployedBlueprints.length > 0 then
    throw (.topoK8SHasBlueprint "The cluster has blueprints deployed in it.")
  k8sColl.popAt index

def updK8sCluster (cluster : TopologyK8sModel) : EStateM PyError TopologyModel TopologyK8sModel := do
  let index ← findK8sClusterIndex cluster.name
  k8sColl.setAt index cluster
  return cluster

def findK8sCluster (clusterName : String) : EStateM PyError TopologyModel TopologyK8sModel := do
  let index ← findK8sClusterIndex clusterName
  k8sColl.getAt index

def findK8sClusterIndexByArea (areaId : Int) : EStateM PyError TopologyModel Nat := do
  let t ← get
  match t.kubernetes.findIdx? (fun c => decide (areaId ∈ c.areas)) with
  | some i => return i
  | none => throw (.topoK8SNotFound s!"No K8S cluster has been found for area {areaId}")

def findK8sClusterByArea (areaId : Int) : EStateM PyError TopologyModel TopologyK8sModel := do
  let index ← findK8sClusterIndexByArea areaId
  k8sColl.getAt index

/-! ### PDUs -/

def addPdu (pdu : PduModel) : EStateM PyError TopologyModel PduModel :=
  pduColl.add (fun n => .valueError s!"PDU with name >{n}< already exists in the topology") pdu

def delPdu (pduName : String) : EStateM PyError TopologyModel PduModel := do
  let index ← findPduIndex pduName
  pduColl.popAt index

def updPdu (pdu : PduModel) : EStateM PyError TopologyModel PduModel := do
  let index ← findPduIndex pdu.name
  pduColl.setAt index pdu
  return pdu

def getPdu (pduName : String) : EStateM PyError TopologyModel PduModel := do
  let index ← findPduIndex pduName
  pduColl.getAt index

/-! ### VIMs -/

def addVim (vim : VimModel) : EStateM PyError TopologyModel VimModel :=
  vimColl.add (fun n => .valueError s!"The VIM >{n}< is already present in the topology.") vim

def delVim (vimName : String) : EStateM PyError TopologyModel VimModel := do
  let index ← findVimIndex vimName
  vimColl.popAt index

def updVim (vim : VimModel) : EStateM PyError TopologyModel VimModel := do
  let index ← findVimIndex vim.name
  vimColl.setAt index vim
  return vim

def getVim (vimName : String) : EStateM PyError TopologyModel VimModel := do
  let index ← findVimIndex vimName
  vimColl.getAt index

def getVimByArea (areaId : Int) : EStateM PyError TopologyModel VimModel := do
  let t ← get
  match t.vims.find? (fun v => decide (areaId ∈ v.areas)) with
  | some v => return v
  | none => throw (.valueError s!"The VIM of area ->{areaId}<- was not found in the topology.")

def getVimListByArea (areaId : Int) : EStateM PyError TopologyModel (List VimModel) := do
  let t ← get
  let vimList := t.vims.filter (fun v => decide (areaId ∈ v.areas))
  if vimList.length ≤ 0 then
    throw (.valueError s!"The VIM of area ->{areaId}<- was not found in the topology.")
  return vimList

/-! ### Networks -/

def addNetwork (network : NetworkModel) : EStateM PyError TopologyModel NetworkModel :=
  netColl.add (fun n => .valueError s!"The network >{n}< is already present in the topology.") network

def delNetwork (networkName : String) : EStateM PyError TopologyModel NetworkModel := do
  let index ← findNetIndex networkName
  netColl.popAt index

def updNetwork (network : NetworkModel) : EStateM PyError TopologyModel NetworkModel := do
  let index ← findNetIndex network.name
  netColl.setAt index network
  return network

def getNetwork (networkName : String) : EStateM PyError TopologyModel NetworkModel := do
  let index ← findNetIndex networkName
  netColl.getAt index

/-! ### Routers -/

def addRouter (router : RouterModel) : EStateM PyError TopologyModel RouterModel :=
  routerColl.add (fun n => .valueError s!"Router >{n}< is already present in the topology.") router

def delRouter (routerName : String) : EStateM PyError TopologyModel RouterModel := do
  let index ← findRouterIndex routerName
  routerColl.popAt index

def updRouter (router : RouterModel) : EStateM PyError TopologyModel RouterModel := do
  let index ← findRouterIndex router.name
  routerColl.setAt index router
  return router

def getRouter (routerName : String) : EStateM PyError TopologyModel RouterModel := do
  let index ← findRouterIndex routerName
  routerColl.getAt index

section Runs

variable (t : TopologyModel)

theorem findNetIndex_run (netName : String) :
    (findNetIndex netName).run t =
      match KeyedList.findIndex NetworkModel.name t.networks netName with
      | some i => .ok i t
      | none => .error (networkNotFound netName) t :=
  netColl.findIndex_run _ t netName

theorem getNetwork_run (networkName : String) :
    (getNetwork networkName).run t =
      match KeyedList.toMap NetworkModel.name t.networks networkName with
      | some a => .ok a t
      | none => .error (networkNotFound networkName) t := by
  unfold getNetwork findNetIndex
  rw [netColl.lookup_run networkNotFound t networkName]
  cases h : KeyedList.toMap NetworkModel.name t.networks networkName <;>
    simp only [netColl, h]

theorem delNetwork_run (networkName : String) :
    (delNetwork networkName).run t =
      match KeyedList.toMap NetworkModel.name t.networks networkName with
      | some a => .ok a { t with networks := KeyedList.erase NetworkModel.name t.networks networkName }
      | none => .error (networkNotFound networkName) t := by
  unfold delNetwork findNetIndex
  rw [netColl.remove_run networkNotFound t networkName]
  cases h : KeyedList.toMap NetworkModel.name t.networks networkName <;>
    simp only [netColl, h]

theorem findVimIndex_run (vimName : String) :
    (findVimIndex vimName).run t =
      match KeyedList.findIndex VimModel.name t.vims vimName with
      | some i => .ok i t
      | none => .error (vimNotFound vimName) t :=
  vimColl.findIndex_run _ t vimName

theorem getVim_run (vimName : String) :
    (getVim vimName).run t =
      match KeyedList.toMap VimModel.name t.vims vimName with
      | some a => .ok a t
      | none => .error (vimNotFound vimName) t := by
  unfold getVim findVimIndex
  rw [vimColl.lookup_run vimNotFound t vimName]
  cases h : KeyedList.toMap VimModel.name t.vims vimName <;>
    simp only [vimColl, h]

theorem delVim_run (vimName : String) :
    (delVim vimName).run t =
      match KeyedList.toMap VimModel.name t.vims vimName with
      | some a => .ok a { t with vims := KeyedList.erase VimModel.name t.vims vimName }
      | none => .error (vimNotFound vimName) t := by
  unfold delVim findVimIndex
  rw [vimColl.remove_run vimNotFound t vimName]
  cases h : KeyedList.toMap VimModel.name t.vims vimName <;>
    simp only [vimColl, h]

end Runs

end TopologyModel

end Nfvcl
