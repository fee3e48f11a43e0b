import Mathlib.Data.List.Basic
import Nfvcl.FiniteMap
import Nfvcl.TopologyModel

namespace Nfvcl
set_option autoImplicit true
open FiniteMap

/-- What the six lists of the topology stand for. -/
structure TopologyMaps where
  vims : String → Option VimModel
  kubernetes : String → Option TopologyK8sModel
  networks : String → Option NetworkModel
  routers : String → Option RouterModel
  pdus : String → Option PduModel
  prometheusSrv : String → Option PrometheusServerModel

def TopologyModel.maps (t : TopologyModel) : TopologyMaps where
  vims := KeyedList.toMap VimModel.name t.vims
  kubernetes := KeyedList.toMap TopologyK8sModel.name t.kubernetes
  networks := KeyedList.toMap NetworkModel.name t.networks
  routers := KeyedList.toMap RouterModel.name t.routers
  pdus := KeyedList.toMap PduModel.name t.pdus
  prometheusSrv := KeyedList.toMap PrometheusServerModel.id t.prometheusSrv

structure TopologyModel.UniqueKeys (t : TopologyModel) : Prop where
  vims : KeyedList.Unique VimModel.name t.vims
  kubernetes : KeyedList.Unique TopologyK8sModel.name t.kubernetes
  networks : KeyedList.Unique NetworkModel.name t.networks
  routers : KeyedList.Unique RouterModel.name t.routers
  pdus : KeyedList.Unique PduModel.name t.pdus
  prometheusSrv : KeyedList.Unique PrometheusServerModel.id t.prometheusSrv

/-- An element of any of the collections, as a method returns it. -/
inductive Item where
  | vim (v : VimModel)
  | cluster (c : TopologyK8sModel)
  | network (n : NetworkModel)
  | router (r : RouterModel)
  | pdu (p : PduModel)
  | server (s : PrometheusServerModel)

/-- A call of one of the collection methods. -/
inductive ModelCall where
  | vims (op : MapOp VimModel String)
  | kubernetes (op : MapOp TopologyK8sModel String)
  | networks (op : MapOp NetworkModel String)
  | routers (op : MapOp RouterModel String)
  | pdus (op : MapOp PduModel String)
  | prometheusSrv (op : MapOp PrometheusServerModel String)
  | getVimByArea (areaId : Int)
  | getVimListByArea (areaId : Int)
  | findK8sClusterByArea (areaId : Int)

open TopologyModel in
def vimCall : MapOp VimModel String → EStateM PyError TopologyModel (Option VimModel)
  | .add v => do let _ ← addVim v; return none
  | .upd v => do let v ← updVim v; return some v
  | .del k _ => do let v ← delVim k; return some v
  | .get k => do let v ← getVim k; return some v
  | .find k => do let _ ← findVimIndex k; return none

open TopologyModel in
def k8sCall : MapOp TopologyK8sModel String → EStateM PyError TopologyModel (Option TopologyK8sModel)
  | .add c => do addK8sCluster c; return none
  | .upd c => do let c ← updK8sCluster c; return some c
  | .del k _ => do let c ← delK8sCluster k; return some c
  | .get k => do let c ← findK8sCluster k; return some c
  | .find k => do let _ ← findK8sClusterIndex k; return none

open TopologyModel in
def netCall : MapOp NetworkModel String → EStateM PyError TopologyModel (Option NetworkModel)
  | .add n => do let _ ← addNetwork n; return none
  | .upd n => do let n ← updNetwork n; return some n
  | .del k _ => do let n ← delNetwork k; return some n
  | .get k => do let n ← getNetwork k; return some n
  | .find k => do let _ ← findNetIndex k; return none

open TopologyModel in
def routerCall : MapOp RouterModel String → EStateM PyError TopologyModel (Option RouterModel)
  | .add r => do let _ ← addRouter r; return none
  | .upd r => do let r ← updRouter r; return some r
  | .del k _ => do let r ← delRouter k; return some r
  | .get k => do let r ← getRouter k; return some r
  | .find k => do let _ ← findRouterIndex k; return none

open TopologyModel in
def pduCall : MapOp PduModel String → EStateM PyError TopologyModel (Option PduModel)
  | .add p => do let _ ← addPdu p; return none
  | .upd p => do let p ← updPdu p; return some p
  | .del k _ => do let p ← delPdu k; return some p
  | .get k => do let p ← getPdu k; return some p
  | .find k => do let _ ← findPduIndex k; return none

open TopologyModel in
def promCall :
    MapOp PrometheusServerModel String → EStateM PyError TopologyModel (Option PrometheusServerModel)
  | .add s => do addPrometheusSrv s; return none
  | .upd s => do let s ← updPrometheusSrv s; return some s
  | .del k force => do let s ← delPrometheusSrv k force; return some s
  | .get k => do let s ← findPromSrv k; return some s
  | .find k => do let _ ← findPromSrvIndex k; return none

open TopologyModel in
def ModelCall.exec : ModelCall → EStateM PyError TopologyModel (Option Item)
  | .vims op => do let v ← vimCall op; return v.map .vim
  | .kubernetes op => do let c ← k8sCall op; return c.map .cluster
  | .networks op => do let n ← netCall op; return n.map .network
  | .routers op => do let r ← routerCall op; return r.map .router
  | .pdus op => do let p ← pduCall op; return p.map .pdu
  | .prometheusSrv op => do let s ← promCall op; return s.map .server
  | .getVimByArea a => do let v ← TopologyModel.getVimByArea a; return some (.vim v)
  | .getVimListByArea a => do let _ ← TopologyModel.getVimListByArea a; return none
  | .findK8sClusterByArea a => do let c ← TopologyModel.findK8sClusterByArea a; return some (.cluster c)

/-- What the methods of a collection compute, on the list that represents the map. -/
def Collection.answer (c : Collection α) (present absent : String → PyError)
    (refuses : Bool → α → Prop) [∀ b, DecidablePred (refuses b)] (refusal : PyError)
    (t : TopologyModel) : MapOp α String → EStateM.Result PyError TopologyModel (Option α)
  | .add a =>
    match KeyedList.toMap c.key (c.items t) (c.key a) with
    | some _ => .error (present (c.key a)) t
    | none => .ok none (c.put (c.items t ++ [a]) t)
  | .upd a =>
    match KeyedList.toMap c.key (c.items t) (c.key a) with
    | some _ => .ok (some a) (c.put (KeyedList.replace c.key (c.items t) a) t)
    | none => .error (absent (c.key a)) t
  | .del k force =>
    match KeyedList.toMap c.key (c.items t) k with
    | some a =>
      if refuses force a then .error refusal t
      else .ok (some a) (c.put (KeyedList.erase c.key (c.items t) k) t)
    | none => .error (absent k) t
  | .get k =>
    match KeyedList.toMap c.key (c.items t) k with
    | some a => .ok (some a) t
    | none => .error (absent k) t
  | .find k =>
    match KeyedList.toMap c.key (c.items t) k with
    | some _ => .ok none t
    | none => .error (absent k) t

/-- The result `r` of a request is the one the finite map gives, and only this
collection has changed. -/
def Collection.Implements (c : Collection α) (refuses : Bool → α → Prop)
    [∀ b, DecidablePred (refuses b)] (t : TopologyModel) (op : MapOp α String)
    (r : EStateM.Result PyError TopologyModel (Option α)) : Prop :=
  let s := spec c.key refuses (KeyedList.toMap c.key (c.items t)) op
  match r with
  | .ok v t' => s.1 = some v ∧
      ∃ xs, t' = c.put xs t ∧ KeyedList.toMap c.key xs = s.2 ∧ KeyedList.Unique c.key xs
  | .error _ t' => s.1 = none ∧ s.2 = KeyedList.toMap c.key (c.items t) ∧ t' = t

theorem Collection.answer_implements {c : Collection α} {refuses : Bool → α → Prop}
    [∀ b, DecidablePred (refuses b)] {t : TopologyModel} (hput : t = c.put (c.items t) t)
    (hu : KeyedList.Unique c.key (c.items t)) (present absent : String → PyError)
    (refusal : PyError) (op : MapOp α String) :
    c.Implements refuses t op (c.answer present absent refuses refusal t op) := by
  unfold Collection.Implements
  cases op with
  | add a =>
    cases h : KeyedList.toMap c.key (c.items t) (c.key a) with
    | some b => simp only [answer, spec, h, and_self]
    | none =>
      simp only [answer, spec, h, true_and]
      exact ⟨_, rfl, KeyedList.toMap_append h, hu.append h⟩
  | upd a =>
    cases h : KeyedList.toMap c.key (c.items t) (c.key a) with
    | some b =>
      simp only [answer, spec, h, true_and]
      exact ⟨_, rfl, KeyedList.toMap_replace (Option.isSome_of_eq_some h), hu.replace a⟩
    | none => simp only [answer, spec, h, and_self]
  | del k force =>
    cases h : KeyedList.toMap c.key (c.items t) k with
    | some a =>
      by_cases hr : refuses force a
      · simp only [answer, spec, h, if_pos hr, and_self]
      · simp only [answer, spec, h, if_neg hr, true_and]
        exact ⟨_, rfl, KeyedList.toMap_erase hu k, hu.erase k⟩
    | none => simp only [answer, spec, h, and_self]
  | get k =>
    cases h : KeyedList.toMap c.key (c.items t) k with
    | some a =>
      simp only [answer, spec, h, true_and]
      exact ⟨_, hput, rfl, hu⟩
    | none => simp only [answer, spec, h, and_self]
  | find k =>
    cases h : KeyedList.toMap c.key (c.items t) k with
    | some a =>
      simp only [answer, spec, h, true_and]
      exact ⟨_, hput, rfl, hu⟩
    | none => simp only [answer, spec, h, and_self]

section Calls

variable (c : Collection α) (present absent : String → PyError) (refuses : Bool → α → Prop)
  [∀ b, DecidablePred (refuses b)] (refusal : PyError) (t : TopologyModel)

theorem call_add_run (a : α) :
    (do let _ ← c.add present a; return none : EStateM PyError TopologyModel (Option α)).run t =
      c.answer present absent refuses refusal t (.add a) := by
  rw [EStateM.run_bind, Collection.add_run, Collection.answer]
  cases KeyedList.toMap c.key (c.items t) (c.key a) <;> rfl

theorem call_upd_run (a : α) :
    (do
      let b ← (do let i ← c.findIndex absent (c.key a); c.setAt i a; return a)
      return some b : EStateM PyError TopologyModel (Option α)).run t =
      c.answer present absent refuses refusal t (.upd a) := by
  rw [EStateM.run_bind, Collection.overwrite_run, Collection.answer]
  cases KeyedList.toMap c.key (c.items t) (c.key a) <;> rfl

theorem call_get_run (k : String) :
    (do
      let b ← (do let i ← c.findIndex absent k; c.getAt i)
      return some b : EStateM PyError TopologyModel (Option α)).run t =
      c.answer present absent refuses refusal t (.get k) := by
  rw [EStateM.run_bind, Collection.lookup_run, Collection.answer]
  cases KeyedList.toMap c.key (c.items t) k <;> rfl

theorem call_find_run (k : String) :
    (do let _ ← c.findIndex absent k; return none : EStateM PyError TopologyModel (Option α)).run t =
      c.answer present absent refuses refusal t (.find k) := by
  rw [EStateM.run_bind, Collection.findIndex_run, Collection.answer]
  cases h : KeyedList.findIndex c.key (c.items t) k with
  | none => rw [KeyedList.findIndex_eq_none.1 h]
  | some i =>
    obtain ⟨a, _, hm, _⟩ := KeyedList.findIndex_some h
    rw [hm]
    rfl

theorem call_del_run (k : String) (force : Bool) :
    (do
      let b ← (do let i ← c.findIndex absent k; c.popAt i)
      return some b : EStateM PyError TopologyModel (Option α)).run t =
      c.answer present absent (fun _ _ => False) refusal t (.del k force) := by
  rw [EStateM.run_bind, Collection.remove_run, Collection.answer]
  cases KeyedList.toMap c.key (c.items t) k with
  | none => rfl
  | some a => simp only [if_false, EStateM.run_pure]

theorem call_guarded_del_run (k : String) (force : Bool) :
    (do
      let b ← (do
        let i ← c.findIndex absent k
        let a ← c.getAt i
        if refuses force a then throw refusal
        c.popAt i)
      return some b : EStateM PyError TopologyModel (Option α)).run t =
      c.answer present absent refuses refusal t (.del k force) := by
  rw [EStateM.run_bind, Collection.guarded_remove_run, Collection.answer]
  cases KeyedList.toMap c.key (c.items t) k with
  | none => rfl
  | some a => by_cases hr : refuses force a <;> simp only [hr, if_true, if_false, EStateM.run_pure]

end Calls

section Implements

variable {c : Collection α} {refuses : Bool → α → Prop} [∀ b, DecidablePred (refuses b)]
  {t : TopologyModel} (hput : t = c.put (c.items t) t) (hu : KeyedList.Unique c.key (c.items t))

include hput hu

theorem implements_add (present : String → PyError) (a : α) :
    c.Implements refuses t (.add a)
      ((do let _ ← c.add present a; return none : EStateM PyError TopologyModel (Option α)).run t) := by
  rw [call_add_run c present (fun _ => .assertionError) refuses .assertionError t a]
  exact Collection.answer_implements hput hu _ _ _ _

theorem implements_upd (absent : String → PyError) (a : α) :
    c.Implements refuses t (.upd a)
      ((do
        let b ← (do let i ← c.findIndex absent (c.key a); c.setAt i a; return a)
        return some b : EStateM PyError TopologyModel (Option α)).run t) := by
  rw [call_upd_run c (fun _ => .assertionError) absent refuses .assertionError t a]
  exact Collection.answer_implements hput hu _ _ _ _

theorem implements_get (absent : String → PyError) (k : String) :
    c.Implements refuses t (.get k)
      ((do
        let b ← (do let i ← c.findIndex absent k; c.getAt i)
        return some b : EStateM PyError TopologyModel (Option α)).run t) := by
  rw [call_get_run c (fun _ => .assertionError) absent refuses .assertionError t k]
  exact Collection.answer_implements hput hu _ _ _ _

theorem implements_find (absent : String → PyError) (k : String) :
    c.Implements refuses t (.find k)
      ((do let _ ← c.findIndex absent k; return none :
        EStateM PyError TopologyModel (Option α)).run t) := by
  rw [call_find_run c (fun _ => .assertionError) absent refuses .assertionError t k]
  exact Collection.answer_implements hput hu _ _ _ _

theorem implements_del (absent : String → PyError) (k : String) (force : Bool) :
    c.Implements (fun _ _ => False) t (.del k force)
      ((do
        let b ← (do let i ← c.findIndex absent k; c.popAt i)
        return some b : EStateM PyError TopologyModel (Option α)).run t) := by
  rw [call_del_run c (fun _ => .assertionError) absent .assertionError t k force]
  exact Collection.answer_implements hput hu _ _ _ _

theorem implements_guarded_del (absent : String → PyError) (refusal : PyError) (k : String)
    (force : Bool) :
    c.Implements refuses t (.del k force)
      ((do
        let b ← (do
          let i ← c.findIndex absent k
          let a ← c.getAt i
          if refuses force a then throw refusal
          c.popAt i)
        return some b : EStateM PyError TopologyModel (Option α)).run t) := by
  rw [call_guarded_del_run c (fun _ => .assertionError) absent refuses refusal t k force]
  exact Collection.answer_implements hput hu _ _ _ _

end Implements

theorem vimCall_implements (hu : t.UniqueKeys) (op : MapOp VimModel String) :
    TopologyModel.vimColl.Implements (fun _ _ => False) t op ((vimCall op).run t) := by
  cases op with
  | add v => exact implements_add rfl hu.vims _ v
  | upd v => exact implements_upd rfl hu.vims _ v
  | del k force => exact implements_del rfl hu.vims _ k force
  | get k => exact implements_get rfl hu.vims _ k
  | find k => exact implements_find rfl hu.vims _ k

theorem netCall_implements (hu : t.UniqueKeys) (op : MapOp NetworkModel String) :
    TopologyModel.netColl.Implements (fun _ _ => False) t op ((netCall op).run t) := by
  cases op with
  | add n => exact implements_add rfl hu.networks _ n
  | upd n => exact implements_upd rfl hu.networks _ n
  | del k force => exact implements_del rfl hu.networks _ k force
  | get k => exact implements_get rfl hu.networks _ k
  | find k => exact implements_find rfl hu.networks _ k

theorem pduCall_implements (hu : t.UniqueKeys) (op : MapOp PduModel String) :
    TopologyModel.pduColl.Implements (fun _ _ => False) t op ((pduCall op).run t) := by
  cases op with
  | add p => exact implements_add rfl hu.pdus _ p
  | upd p => exact implements_upd rfl hu.pdus _ p
  | del k force => exact implements_del rfl hu.pdus _ k force
  | get k => exact implements_get rfl hu.pdus _ k
  | find k => exact implements_find rfl hu.pdus _ k

/-- The guard of `del_k8s_cluster`. -/
def clusterRefuses (_ : Bool) (c : TopologyK8sModel) : Prop :=
  c.deployedBlueprints.length > 0

/-- The guard of `del_prometheus_srv`. -/
def serverRefuses (force : Bool) (s : PrometheusServerModel) : Prop :=
  s.targets.length > 0 ∧ ¬ force

instance (force : Bool) : DecidablePred (clusterRefuses force) :=
  fun c => inferInstanceAs (Decidable (c.deployedBlueprints.length > 0))

instance (force : Bool) : DecidablePred (serverRefuses force) :=
  fun s => inferInstanceAs (Decidable (s.targets.length > 0 ∧ ¬ force))

theorem k8sCall_implements (hu : t.UniqueKeys) (op : MapOp TopologyK8sModel String) :
    TopologyModel.k8sColl.Implements clusterRefuses t op ((k8sCall op).run t) := by
  cases op with
  | add c =>
    simpa only [k8sCall, TopologyModel.addK8sCluster, bind_assoc, pure_bind] using
      implements_add (c := TopologyModel.k8sColl) rfl hu.kubernetes _ c
  | upd c => exact implements_upd rfl hu.kubernetes _ c
  | del k force => exact implements_guarded_del rfl hu.kubernetes _ _ k force
  | get k => exact implements_get rfl hu.kubernetes _ k
  | find k => exact implements_find rfl hu.kubernetes _ k

theorem promCall_implements (hu : t.UniqueKeys) (op : MapOp PrometheusServerModel String) :
    TopologyModel.promColl.Implements serverRefuses t op ((promCall op).run t) := by
  cases op with
  | add s =>
    simpa only [promCall, TopologyModel.addPrometheusSrv, bind_assoc, pure_bind] using
      implements_add (c := TopologyModel.promColl) rfl hu.prometheusSrv _ s
  | upd s => exact implements_upd rfl hu.prometheusSrv _ s
  | del k force => exact implements_guarded_del rfl hu.prometheusSrv _ _ k force
  | get k => exact implements_get rfl hu.prometheusSrv _ k
  | find k => exact implements_find rfl hu.prometheusSrv _ k

/-- Where the VIM list and the router list put a name. -/
def TopologyModel.vimPosition (t : TopologyModel) (name : String) : Option Nat :=
  KeyedList.findIndex VimModel.name t.vims name

def TopologyModel.routerPosition (t : TopologyModel) (name : String) : Option Nat :=
  KeyedList.findIndex RouterModel.name t.routers name

/-- The name has the same position in both lists, or no router has it and its position
among the VIMs is past the last router. -/
def TopologyModel.RouterSearchAgrees (t : TopologyModel) (name : String) : Prop :=
  (t.vimPosition name).filter (fun i => decide (i < t.routers.length)) = t.routerPosition name

/-- The router requests are answered rightly when the search over the VIMs agrees with
the position of the router. -/
def RouterCallAgrees (t : TopologyModel) : MapOp RouterModel String → Prop
  | .add _ => True
  | .upd r => t.RouterSearchAgrees r.name
  | .del k _ => t.RouterSearchAgrees k
  | .get k => t.RouterSearchAgrees k
  | .find k => (t.vimPosition k).isSome = (t.routerPosition k).isSome

theorem findRouterIndex_run (t : TopologyModel) (name : String) :
    (TopologyModel.findRouterIndex name).run t =
      match t.vimPosition name with
      | some i => .ok i t
      | none => .error (TopologyModel.routerNotFound name) t :=
  Collection.findIndex_run _ _ _ _

/-- When the searches agree, the position used is the router's, or out of range exactly
when no router has the name. -/
theorem TopologyModel.RouterSearchAgrees.cases {t : TopologyModel} (h : t.RouterSearchAgrees name) :
    (∃ i r, t.vimPosition name = some i ∧ t.routerPosition name = some i ∧
      t.routers[i]? = some r ∧ KeyedList.toMap RouterModel.name t.routers name = some r) ∨
    (t.vimPosition name = none ∧ KeyedList.toMap RouterModel.name t.routers name = none) ∨
    (∃ i, t.vimPosition name = some i ∧ t.routers[i]? = none ∧
      KeyedList.toMap RouterModel.name t.routers name = none) := by
  unfold RouterSearchAgrees at h
  cases hr : t.routerPosition name with
  | some j =>
    rw [hr, Option.filter_eq_some_iff] at h
    obtain ⟨r, hj, hm, _⟩ := KeyedList.findIndex_some hr
    exact .inl ⟨j, r, h.1, rfl, hj, hm⟩
  | none =>
    have hm := KeyedList.findIndex_eq_none.1 hr
    rw [hr] at h
    cases hv : t.vimPosition name with
    | none => exact .inr (.inl ⟨rfl, hm⟩)
    | some i =>
      rw [hv] at h
      have hge : ¬ i < t.routers.length := by
        intro hlt
        simp only [Option.filter_some, hlt, decide_true, if_true, reduceCtorEq] at h
      exact .inr (.inr ⟨i, rfl, List.getElem?_eq_none (Nat.le_of_not_lt hge), hm⟩)

theorem routerCall_implements (hu : t.UniqueKeys) (op : MapOp RouterModel String)
    (h : RouterCallAgrees t op) :
    TopologyModel.routerColl.Implements (fun _ _ => False) t op ((routerCall op).run t) := by
  cases op with
  | add r => exact implements_add rfl hu.routers _ r
  | upd r =>
    simp only [routerCall, TopologyModel.updRouter, EStateM.run_bind, findRouterIndex_run]
    rcases TopologyModel.RouterSearchAgrees.cases h with
      ⟨i, b, hv, hr, hi, hm⟩ | ⟨hv, hm⟩ | ⟨i, hv, hi, hm⟩
    · have hlt : i < t.routers.length := (List.getElem?_eq_some_iff.1 hi).1
      simp only [hv, Collection.setAt_run, TopologyModel.routerColl, if_pos hlt, EStateM.run_pure,
        Collection.Implements, spec, hm, true_and]
      exact ⟨_, rfl, KeyedList.toMap_set hr, hu.routers.set hr⟩
    · simp only [hv, Collection.Implements, spec, TopologyModel.routerColl, hm, and_self]
    · have hge : ¬ i < t.routers.length := Nat.not_lt_of_le (List.getElem?_eq_none_iff.1 hi)
      simp only [hv, Collection.setAt_run, TopologyModel.routerColl, if_neg hge,
        Collection.Implements, spec, hm, and_self]
  | del k force =>
    simp only [routerCall, TopologyModel.delRouter, EStateM.run_bind, findRouterIndex_run]
    rcases TopologyModel.RouterSearchAgrees.cases h with
      ⟨i, b, hv, hr, hi, hm⟩ | ⟨hv, hm⟩ | ⟨i, hv, hi, hm⟩
    · simp only [hv, Collection.popAt_run, TopologyModel.routerColl, hi, EStateM.run_pure,
        Collection.Implements, spec, hm, if_false, true_and]
      exact ⟨_, rfl, KeyedList.toMap_eraseIdx hu.routers hr, hu.routers.eraseIdx i⟩
    · simp only [hv, Collection.Implements, spec, TopologyModel.routerColl, hm, and_self]
    · simp only [hv, Collection.popAt_run, TopologyModel.routerColl, hi,
        Collection.Implements, spec, hm, and_self]
  | get k =>
    simp only [routerCall, TopologyModel.getRouter, EStateM.run_bind, findRouterIndex_run]
    rcases TopologyModel.RouterSearchAgrees.cases h with
      ⟨i, b, hv, hr, hi, hm⟩ | ⟨hv, hm⟩ | ⟨i, hv, hi, hm⟩
    · simp only [hv, Collection.getAt_run, TopologyModel.routerColl, hi, EStateM.run_pure,
        Collection.Implements, spec, hm, true_and]
      exact ⟨t.routers, rfl, rfl, hu.routers⟩
    · simp only [hv, Collection.Implements, spec, TopologyModel.routerColl, hm, and_self]
    · simp only [hv, Collection.getAt_run, TopologyModel.routerColl, hi,
        Collection.Implements, spec, hm, and_self]
  | find k =>
    simp only [routerCall, EStateM.run_bind, findRouterIndex_run]
    have h' : (t.vimPosition k).isSome = (t.routerPosition k).isSome := h
    cases hv : t.vimPosition k with
    | none =>
      rw [hv] at h'
      have hr : t.routerPosition k = none := Option.isSome_eq_false_iff.1 h'.symm |> Option.isNone_iff_eq_none.1
      have hm := KeyedList.findIndex_eq_none.1 hr
      simp only [Collection.Implements, spec, TopologyModel.routerColl, hm, and_self]
    | some i =>
      rw [hv] at h'
      obtain ⟨j, hr⟩ := Option.isSome_iff_exists.1 h'.symm
      obtain ⟨r, _, hm, _⟩ := KeyedList.findIndex_some hr
      simp only [EStateM.run_pure, Collection.Implements, spec, TopologyModel.routerColl, hm, true_and]
      exact ⟨t.routers, rfl, rfl, hu.routers⟩

/-- The answer to a call and the maps after it, as functions of the maps before it. A
search by area is not a request on a key: it only has to leave the topology alone. -/
def ModelCall.Answered (call : ModelCall) (t t' : TopologyModel) (answer : Option (Option Item)) :
    Prop :=
  match call with
  | .vims op =>
    let s := spec VimModel.name (fun _ _ => False) t.maps.vims op
    answer = s.1.map (Option.map .vim) ∧ t'.maps = { t.maps with vims := s.2 }
  | .kubernetes op =>
    let s := spec TopologyK8sModel.name clusterRefuses t.maps.kubernetes op
    answer = s.1.map (Option.map .cluster) ∧ t'.maps = { t.maps with kubernetes := s.2 }
  | .networks op =>
    let s := spec NetworkModel.name (fun _ _ => False) t.maps.networks op
    answer = s.1.map (Option.map .network) ∧ t'.maps = { t.maps with networks := s.2 }
  | .routers op =>
    let s := spec RouterModel.name (fun _ _ => False) t.maps.routers op
    answer = s.1.map (Option.map .router) ∧ t'.maps = { t.maps with routers := s.2 }
  | .pdus op =>
    let s := spec PduModel.name (fun _ _ => False) t.maps.pdus op
    answer = s.1.map (Option.map .pdu) ∧ t'.maps = { t.maps with pdus := s.2 }
  | .prometheusSrv op =>
    let s := spec PrometheusServerModel.id serverRefuses t.maps.prometheusSrv op
    answer = s.1.map (Option.map .server) ∧ t'.maps = { t.maps with prometheusSrv := s.2 }
  | .getVimByArea _ => t' = t
  | .getVimListByArea _ => t' = t
  | .findK8sClusterByArea _ => t' = t

/-- A call behaves as on six finite maps: it answers and changes what they say, changes
nothing when it raises, and keeps keys unique. -/
structure ModelCall.Lawful (call : ModelCall) (t : TopologyModel) : Prop where
  answered : call.Answered t (Effects.finalState (call.exec.run t)) (Effects.returned (call.exec.run t))
  atomic : Effects.Raised (call.exec.run t) → Effects.finalState (call.exec.run t) = t
  unique : (Effects.finalState (call.exec.run t)).UniqueKeys

/-- Every call of a sequence is lawful in the state it is made in. -/
def TopologyModel.RefinesMaps (t : TopologyModel) (calls : List ModelCall) : Prop :=
  Effects.AllSteps ModelCall.exec ModelCall.Lawful t calls

theorem Collection.Implements.result {c : Collection α} {refuses : Bool → α → Prop}
    [∀ b, DecidablePred (refuses b)] {m : EStateM PyError TopologyModel (Option α)}
    (hput : t = c.put (c.items t) t) (hu : KeyedList.Unique c.key (c.items t))
    (h : c.Implements refuses t op (m.run t)) (f : α → Item) :
    let r := (do let v ← m; return v.map f : EStateM PyError TopologyModel (Option Item)).run t
    let s := spec c.key refuses (KeyedList.toMap c.key (c.items t)) op
    Effects.returned r = s.1.map (Option.map f) ∧
      (∃ xs, Effects.finalState r = c.put xs t ∧ KeyedList.toMap c.key xs = s.2 ∧
        KeyedList.Unique c.key xs) ∧
      (Effects.Raised r → Effects.finalState r = t) := by
  unfold Collection.Implements at h
  simp only [EStateM.run_bind]
  cases hr : m.run t with
  | ok v t' =>
    rw [hr] at h
    refine ⟨?_, h.2, fun hf => hf.elim⟩
    rw [h.1]
    rfl
  | error e t' =>
    rw [hr] at h
    refine ⟨?_, ⟨c.items t, ?_, h.2.1.symm, hu⟩, fun _ => h.2.2⟩
    · rw [h.1]
      rfl
    · exact h.2.2.trans hput

/-- The calls the code answers rightly: all of them, the router requests where the search
over the VIMs agrees with the router list. -/
def ModelCall.SearchAgrees (call : ModelCall) (t : TopologyModel) : Prop :=
  match call with
  | .routers op => RouterCallAgrees t op
  | _ => True

theorem ModelCall.lawful (call : ModelCall) (t : TopologyModel) (hc : call.SearchAgrees t)
    (hu : t.UniqueKeys) : call.Lawful t := by
  cases call with
  | vims op =>
    obtain ⟨h₁, ⟨xs, hx, hm, hxs⟩, h₂⟩ := (vimCall_implements hu op).result rfl hu.vims Item.vim
    refine ⟨⟨h₁, ?_⟩, h₂, ?_⟩ <;> rw [ModelCall.exec, hx]
    · exact congrArg (fun s => { t.maps with vims := s }) hm
    · exact { hu with vims := hxs }
  | kubernetes op =>
    obtain ⟨h₁, ⟨xs, hx, hm, hxs⟩, h₂⟩ := (k8sCall_implements hu op).result rfl hu.kubernetes Item.cluster
    refine ⟨⟨h₁, ?_⟩, h₂, ?_⟩ <;> rw [ModelCall.exec, hx]
    · exact congrArg (fun s => { t.maps with kubernetes := s }) hm
    · exact { hu with kubernetes := hxs }
  | networks op =>
    obtain ⟨h₁, ⟨xs, hx, hm, hxs⟩, h₂⟩ := (netCall_implements hu op).result rfl hu.networks Item.network
    refine ⟨⟨h₁, ?_⟩, h₂, ?_⟩ <;> rw [ModelCall.exec, hx]
    · exact congrArg (fun s => { t.maps with networks := s }) hm
    · exact { hu with networks := hxs }
  | routers op =>
    obtain ⟨h₁, ⟨xs, hx, hm, hxs⟩, h₂⟩ :=
      (routerCall_implements hu op hc).result rfl hu.routers Item.router
    refine ⟨⟨h₁, ?_⟩, h₂, ?_⟩ <;> rw [ModelCall.exec, hx]
    · exact congrArg (fun s => { t.maps with routers := s }) hm
    · exact { hu with routers := hxs }
  | pdus op =>
    obtain ⟨h₁, ⟨xs, hx, hm, hxs⟩, h₂⟩ := (pduCall_implements hu op).result rfl hu.pdus Item.pdu
    refine ⟨⟨h₁, ?_⟩, h₂, ?_⟩ <;> rw [ModelCall.exec, hx]
    · exact congrArg (fun s => { t.maps with pdus := s }) hm
    · exact { hu with pdus := hxs }
  | prometheusSrv op =>
    obtain ⟨h₁, ⟨xs, hx, hm, hxs⟩, h₂⟩ :=
      (promCall_implements hu op).result rfl hu.prometheusSrv Item.server
    refine ⟨⟨h₁, ?_⟩, h₂, ?_⟩ <;> rw [ModelCall.exec, hx]
    · exact congrArg (fun s => { t.maps with prometheusSrv := s }) hm
    · exact { hu with prometheusSrv := hxs }
  | getVimByArea a =>
    have h : Effects.finalState ((ModelCall.getVimByArea a).exec.run t) = t := by
      simp only [exec, TopologyModel.getVimByArea, EStateM.run_bind, EStateM.run_get]
      cases t.vims.find? (fun v => decide (a ∈ v.areas)) <;> rfl
    exact ⟨h, fun _ => h, h.symm ▸ hu⟩
  | getVimListByArea a =>
    have h : Effects.finalState ((ModelCall.getVimListByArea a).exec.run t) = t := by
      simp only [exec, TopologyModel.getVimListByArea, EStateM.run_bind, EStateM.run_get,
        Effects.run_ite]
      by_cases hl : (t.vims.filter (fun v => decide (a ∈ v.areas))).length ≤ 0
      · simp only [if_pos hl]
        rfl
      · simp only [if_neg hl]
        rfl
    exact ⟨h, fun _ => h, h.symm ▸ hu⟩
  | findK8sClusterByArea a =>
    have h : Effects.finalState ((ModelCall.findK8sClusterByArea a).exec.run t) = t := by
      simp only [exec, TopologyModel.findK8sClusterByArea, TopologyModel.findK8sClusterIndexByArea,
        EStateM.run_bind, EStateM.run_get]
      cases t.kubernetes.findIdx? (fun c => decide (a ∈ c.areas)) with
      | none => rfl
      | some i =>
        simp only [EStateM.run_pure, Collection.getAt_run]
        cases (TopologyModel.k8sColl.items t)[i]? <;> rfl
    exact ⟨h, fun _ => h, h.symm ▸ hu⟩

end Nfvcl
