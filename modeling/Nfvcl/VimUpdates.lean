import Mathlib.Data.List.Basic
import Nfvcl.Topology

namespace Nfvcl
set_option autoImplicit true
open Effects

namespace TopologyModel

@[simp] theorem setVim_vims (t : TopologyModel) (i : Nat) (v : VimModel) :
    (t.setVim i v).vims = t.vims.set i v := rfl

@[simp] theorem setVim_networks (t : TopologyModel) (i : Nat) (v : VimModel) :
    (t.setVim i v).networks = t.networks := rfl

@[simp] theorem setVim_routers (t : TopologyModel) (i : Nat) (v : VimModel) :
    (t.setVim i v).routers = t.routers := rfl

@[simp] theorem setVim_setVim (t : TopologyModel) (i : Nat) (v w : VimModel) :
    (t.setVim i v).setVim i w = t.setVim i w := by
  simp only [setVim, List.set_set]

/-- `v` is the VIM that `get_vim` finds under its name, at position `i`. -/
structure VimAt (t : TopologyModel) (i : Nat) (v : VimModel) : Prop where
  getElem? : t.vims[i]? = some v
  position : KeyedList.findIndex VimModel.name t.vims v.name = some i

theorem VimAt.of_findIndex {t : TopologyModel}
    (h : KeyedList.findIndex VimModel.name t.vims name = some i) : ∃ v, t.VimAt i v ∧ v.name = name := by
  obtain ⟨v, hv, _, rfl⟩ := KeyedList.findIndex_some h
  exact ⟨v, ⟨hv, h⟩, rfl⟩

theorem VimAt.setVim {t : TopologyModel} (h : t.VimAt i v) (hname : v'.name = v.name) :
    (t.setVim i v').VimAt i v' where
  getElem? := by
    rw [setVim_vims, List.getElem?_set_self (List.getElem?_eq_some_iff.1 h.getElem?).1]
  position := by
    have hpos := h.position
    rw [← hname] at hpos
    rw [setVim_vims, KeyedList.findIndex_congr (KeyedList.map_set_key hpos), hpos]

theorem VimAt.setVim_self {t : TopologyModel} (h : t.VimAt i v) : t.setVim i v = t :=
  TopologyModel.setVim_self h.getElem?

/-- Two records written at the same place give the same topology only if they are equal. -/
theorem VimAt.setVim_eq_iff {t : TopologyModel} (h : t.VimAt i v) : t.setVim i v' = t ↔ v' = v := by
  constructor
  · intro he
    have hlt := (List.getElem?_eq_some_iff.1 h.getElem?).1
    have hget : (t.setVim i v').vims[i]? = some v' := List.getElem?_set_self hlt
    rw [he, h.getElem?] at hget
    exact (Option.some.inj hget).symm
  · rintro rfl
    exact h.setVim_self

end TopologyModel

namespace Topology

section Steps

variable {t : TopologyModel} {d : Option TopologyModel}

theorem addVimNet_run (h : t.VimAt i v) (net : String) :
    (addVimNet net i).run ⟨some t, d⟩ =
      match KeyedList.toMap NetworkModel.name t.networks net with
      | some _ => .ok () ⟨some (t.setVim i (v.setNetworks (addName net v.networks))), d⟩
      | none => .error (TopologyModel.networkNotFound net)
          ⟨some (t.setVim i (v.setNetworks (addName net v.networks))), d⟩ := by
  simp only [addVimNet, EStateM.run_bind, onModel_run, TopologyModel.onVim_run h.getElem?,
    VimModel.addNet_run, TopologyModel.getNetwork_run, TopologyModel.setVim_networks]
  cases KeyedList.toMap NetworkModel.name t.networks net <;> rfl

theorem delVimNet_run (h : t.VimAt i v) (net : String) :
    (delVimNet net i).run ⟨some t, d⟩ =
      .ok (if net ∈ v.networks then some net else none)
        ⟨some (t.setVim i (v.setNetworks (v.networks.erase net))),
          some (t.setVim i (v.setNetworks (v.networks.erase net)))⟩ := by
  simp only [delVimNet, EStateM.run_bind, onModel_run, TopologyModel.onVim_read h.getElem?,
    TopologyModel.findVimIndex_run, h.position, TopologyModel.onVim_run h.getElem?, VimModel.delNet_run,
    saveTopologyFromModel_run, EStateM.run_pure]

/-- What `add_vim_router` looks up: it depends on the VIM names, the routers and the networks. -/
def routerVisit (t : TopologyModel) (vimName : String) (router : String) : Except PyError Unit :=
  match KeyedList.findIndex VimModel.name t.vims router with
  | none => .error (TopologyModel.routerNotFound router)
  | some j =>
    match t.routers[j]? with
    | none => .error (.indexError "list index out of range")
    | some r => r.ports.forM (TopologyModel.visitRouterPort t vimName)

theorem routerVisit_setVim (h : t.VimAt i v) (hname : v'.name = v.name) (vimName router : String) :
    routerVisit (t.setVim i v') vimName router = routerVisit t vimName router := by
  have hpos := h.position
  rw [← hname] at hpos
  unfold routerVisit
  rw [TopologyModel.setVim_vims, KeyedList.findIndex_congr (KeyedList.map_set_key hpos)]
  rfl

theorem visitRouter_run (h : t.VimAt i v) (router : String) :
    (TopologyModel.visitRouter router i).run t =
      match routerVisit t v.name router with
      | .ok _ => .ok () t
      | .error e => .error e t := by
  unfold routerVisit
  simp only [TopologyModel.visitRouter, TopologyModel.getRouter, TopologyModel.findRouterIndex,
    EStateM.run_bind, Collection.findIndex_run, Collection.getAt_run, TopologyModel.vimColl,
    TopologyModel.routerColl]
  cases KeyedList.findIndex VimModel.name t.vims router with
  | none => rfl
  | some j =>
    simp only
    cases t.routers[j]? with
    | none => rfl
    | some r =>
      simp only [TopologyModel.onVim_read h.getElem?, EStateM.run_get]
      cases r.ports.forM (TopologyModel.visitRouterPort t v.name) <;> rfl

theorem addVimRouter_run (h : t.VimAt i v) (router : String) :
    (addVimRouter router i).run ⟨some t, d⟩ =
      match routerVisit t v.name router with
      | .ok _ => .ok () ⟨some (t.setVim i (v.setRouters (addName router v.routers))),
          some (t.setVim i (v.setRouters (addName router v.routers)))⟩
      | .error e => .error e ⟨some (t.setVim i (v.setRouters (addName router v.routers))), d⟩ := by
  have h' : (t.setVim i (v.setRouters (addName router v.routers))).VimAt i
      (v.setRouters (addName router v.routers)) := h.setVim rfl
  have hvisit := visitRouter_run h' router
  rw [routerVisit_setVim h (v.setRouters_name _), v.setRouters_name] at hvisit
  simp only [addVimRouter, EStateM.run_bind, onModel_run, TopologyModel.onVim_run h.getElem?,
    VimModel.addRouter_run, hvisit]
  cases routerVisit t v.name router <;> rfl

theorem delVimRouter_run (h : t.VimAt i v) (router : String) :
    (delVimRouter router i).run ⟨some t, d⟩ =
      if router ∈ v.networks ∧ router ∉ v.routers then
        .error (.valueError s!"'{router}' is not in list") ⟨some t, d⟩
      else
        .ok () ⟨some (t.setVim i (v.setRouters
          (if router ∈ v.networks then v.routers.erase router else v.routers))), d⟩ := by
  simp only [delVimRouter, EStateM.run_bind, onModel_run, TopologyModel.onVim_run h.getElem?,
    VimModel.delRouter_run]
  by_cases hc : router ∈ v.networks ∧ router ∉ v.routers
  · simp only [if_pos hc, TopologyModel.setVim_self h.getElem?]
  · simp only [if_neg hc]
    rfl

end Steps

end Topology

/-- Names added one after the other. -/
def addNames (names listed : List String) : List String :=
  names.foldl (fun acc name => addName name acc) listed

def eraseNames (names listed : List String) : List String :=
  names.foldl List.erase listed

/-- The routers left after deleting names in turn, `none` when a deletion raises. -/
def removeRouters (networks : List String) : List String → List String → Option (List String)
  | routers, [] => some routers
  | routers, r :: rs =>
    if r ∈ networks ∧ r ∉ routers then none
    else removeRouters networks (if r ∈ networks then routers.erase r else routers) rs

def addAreas (ids areas : List Int) : List Int :=
  ids.foldl (fun acc a => if a ∈ acc then acc else acc ++ [a]) areas

def eraseAreas (ids areas : List Int) : List Int :=
  ids.foldl List.erase areas

def TopologyModel.HasNetwork (t : TopologyModel) (name : String) : Prop :=
  (KeyedList.toMap NetworkModel.name t.networks name).isSome

instance (t : TopologyModel) (name : String) : Decidable (t.HasNetwork name) :=
  inferInstanceAs (Decidable (_ = true))

namespace Topology

/-- `add_vim_router` finds the router and the data of its external ports. -/
def routerFound (t : TopologyModel) (vimName : String) (router : String) : Bool :=
  match routerVisit t vimName router with
  | .ok _ => true
  | .error _ => false

section Loops

variable {t : TopologyModel} {d : Option TopologyModel}

theorem forM_addVimNet_run (h : t.VimAt i v) {nets : List String} (hnets : ∀ n ∈ nets, t.HasNetwork n) :
    (forM nets (fun n => addVimNet n i)).run ⟨some t, d⟩ =
      .ok () ⟨some (t.setVim i (v.setNetworks (addNames nets v.networks))), d⟩ := by
  induction nets generalizing t v with
  | nil =>
    rw [List.forM_nil, EStateM.run_pure]
    change _ = EStateM.Result.ok () (Topology.mk (some (t.setVim i v)) d)
    rw [h.setVim_self]
  | cons n nets ih =>
    obtain ⟨net, hnet⟩ := Option.isSome_iff_exists.1 (hnets n List.mem_cons_self)
    rw [List.forM_cons, run_bind_ok (a := ()) _ _ (by rw [addVimNet_run h, hnet])]
    rw [ih (h.setVim (v.setNetworks_name _)) (fun m hm => hnets m (List.mem_cons_of_mem n hm)),
      TopologyModel.setVim_setVim]
    rfl

theorem forM_addVimNet_raised (h : t.VimAt i v) {nets : List String} (hn : n ∈ nets)
    (hunknown : ¬ t.HasNetwork n) :
    ∃ e m, (forM nets (fun n => addVimNet n i)).run ⟨some t, d⟩ = .error e ⟨m, d⟩ := by
  induction nets generalizing t v with
  | nil => cases hn
  | cons m nets ih =>
    have hfirst := addVimNet_run (d := d) h m
    rw [List.forM_cons]
    cases hm : KeyedList.toMap NetworkModel.name t.networks m with
    | none =>
      rw [hm] at hfirst
      exact ⟨_, _, run_bind_error _ _ hfirst⟩
    | some net =>
      rw [hm] at hfirst
      rw [run_bind_ok _ _ hfirst]
      rcases List.mem_cons.1 hn with rfl | hn
      · exact absurd (by rw [TopologyModel.HasNetwork, hm]; rfl) hunknown
      · exact ih (h.setVim (v.setNetworks_name _)) hn hunknown

theorem forM_delVimNet_run (h : t.VimAt i v) (nets : List String) :
    (forM nets (fun n => do let _ ← delVimNet n i)).run ⟨some t, d⟩ =
      .ok () ⟨some (t.setVim i (v.setNetworks (eraseNames nets v.networks))),
        if nets = [] then d else some (t.setVim i (v.setNetworks (eraseNames nets v.networks)))⟩ := by
  induction nets generalizing t v d with
  | nil =>
    rw [List.forM_nil, EStateM.run_pure, if_pos rfl]
    change _ = EStateM.Result.ok () (Topology.mk (some (t.setVim i v)) d)
    rw [h.setVim_self]
  | cons n nets ih =>
    have h' := h.setVim (v.setNetworks_name (v.networks.erase n))
    rw [List.forM_cons, run_bind_ok (a := ()) _ _ (by
      rw [run_bind_ok _ _ (delVimNet_run h n)]
      rfl), ih h', if_neg (List.cons_ne_nil n nets), TopologyModel.setVim_setVim]
    by_cases hnil : nets = []
    · subst hnil
      rfl
    · rw [if_neg hnil]
      rfl

theorem routerFound_setVim (h : t.VimAt i v) (hname : v'.name = v.name) (vimName : String) :
    routerFound (t.setVim i v') vimName = routerFound t vimName := by
  funext r
  unfold routerFound
  rw [routerVisit_setVim h hname]

/-- The loop over the routers to add stops at the first one not found; those before it
have been saved. -/
theorem forM_addVimRouter_run (h : t.VimAt i v) (routers : List String) :
    let found := routers.takeWhile (routerFound t v.name)
    let t' := t.setVim i (v.setRouters (addNames found v.routers))
    let d' := if found = [] then d else some t'
    (found = routers ∧ (forM routers (fun r => addVimRouter r i)).run ⟨some t, d⟩ = .ok () ⟨some t', d'⟩) ∨
      (found ≠ routers ∧ ∃ e m,
        (forM routers (fun r => addVimRouter r i)).run ⟨some t, d⟩ = .error e ⟨m, d'⟩) := by
  induction routers generalizing t v d with
  | nil =>
    refine .inl ⟨rfl, ?_⟩
    change _ = EStateM.Result.ok () (Topology.mk (some (t.setVim i v)) d)
    rw [h.setVim_self]
    rfl
  | cons r routers ih =>
    cases hr : routerVisit t v.name r with
    | error e =>
      have hfound : routerFound t v.name r = false := by simp only [routerFound, hr]
      rw [List.takeWhile_cons_of_neg (by rw [hfound]; exact Bool.false_ne_true), List.forM_cons]
      have hfirst : (addVimRouter r i).run ⟨some t, d⟩ =
          .error e ⟨some (t.setVim i (v.setRouters (addName r v.routers))), d⟩ := by
        rw [addVimRouter_run h, hr]
      exact .inr ⟨(List.cons_ne_nil r routers).symm, _, _, run_bind_error _ _ hfirst⟩
    | ok u =>
      have hfound : routerFound t v.name r = true := by simp only [routerFound, hr]
      have h' := h.setVim (v.setRouters_name (addName r v.routers))
      have hfirst : (addVimRouter r i).run ⟨some t, d⟩ =
          .ok () ⟨some (t.setVim i (v.setRouters (addName r v.routers))),
            some (t.setVim i (v.setRouters (addName r v.routers)))⟩ := by
        rw [addVimRouter_run h, hr]
      have hrest := ih h' (d := some (t.setVim i (v.setRouters (addName r v.routers))))
      rw [v.setRouters_name, routerFound_setVim h (v.setRouters_name _)] at hrest
      simp only [TopologyModel.setVim_setVim] at hrest
      rw [List.takeWhile_cons_of_pos hfound, List.forM_cons, run_bind_ok _ _ hfirst]
      simp only [reduceCtorEq, if_false, List.cons.injEq, true_and, ne_eq]
      have hsaved : (if routers.takeWhile (routerFound t v.name) = [] then
            some (t.setVim i (v.setRouters (addName r v.routers)))
          else some (t.setVim i ((v.setRouters (addName r v.routers)).setRouters
            (addNames (routers.takeWhile (routerFound t v.name))
              (v.setRouters (addName r v.routers)).routers)))) =
          some (t.setVim i (v.setRouters
            (addNames (r :: routers.takeWhile (routerFound t v.name)) v.routers))) := by
        by_cases hnil : routers.takeWhile (routerFound t v.name) = []
        · rw [if_pos hnil, hnil]
          rfl
        · rw [if_neg hnil]
          rfl
      rw [hsaved] at hrest
      exact hrest

theorem forM_delVimRouter_run (h : t.VimAt i v) (routers : List String) :
    (∃ left, removeRouters v.networks v.routers routers = some left ∧
        (forM routers (fun r => delVimRouter r i)).run ⟨some t, d⟩ =
          .ok () ⟨some (t.setVim i (v.setRouters left)), d⟩) ∨
      (removeRouters v.networks v.routers routers = none ∧
        ∃ e m, (forM routers (fun r => delVimRouter r i)).run ⟨some t, d⟩ = .error e ⟨m, d⟩) := by
  induction routers generalizing t v with
  | nil =>
    refine .inl ⟨v.routers, rfl, ?_⟩
    change _ = EStateM.Result.ok () (Topology.mk (some (t.setVim i v)) d)
    rw [h.setVim_self]
    rfl
  | cons r routers ih =>
    rw [List.forM_cons]
    by_cases hc : r ∈ v.networks ∧ r ∉ v.routers
    · have hfirst : (delVimRouter r i).run ⟨some t, d⟩ =
          .error (.valueError s!"'{r}' is not in list") ⟨some t, d⟩ := by
        rw [delVimRouter_run h, if_pos hc]
      exact .inr ⟨by rw [removeRouters, if_pos hc], _, _, run_bind_error _ _ hfirst⟩
    · rw [removeRouters, if_neg hc, run_bind_ok (a := ()) _ _ (by rw [delVimRouter_run h, if_neg hc])]
      have hrest := ih (h.setVim (v.setRouters_name
        (if r ∈ v.networks then v.routers.erase r else v.routers)))
      simp only [TopologyModel.setVim_setVim] at hrest
      exact hrest

theorem forM_addArea_run (h : t.VimAt i v) (areas : List Int) :
    (forM areas (fun a => onModel "vims" (TopologyModel.onVim i (VimModel.addArea a)))).run ⟨some t, d⟩ =
      .ok () ⟨some (t.setVim i (v.setAreas (addAreas areas v.areas))), d⟩ := by
  induction areas generalizing t v with
  | nil =>
    change _ = EStateM.Result.ok () (Topology.mk (some (t.setVim i v)) d)
    rw [h.setVim_self]
    rfl
  | cons a areas ih =>
    have hfirst : (onModel "vims" (TopologyModel.onVim i (VimModel.addArea a))).run ⟨some t, d⟩ =
        .ok () ⟨some (t.setVim i (v.setAreas (if a ∈ v.areas then v.areas else v.areas ++ [a]))), d⟩ := by
      rw [onModel_run, TopologyModel.onVim_run h.getElem?]
      rfl
    rw [List.forM_cons, run_bind_ok _ _ hfirst, ih (h.setVim (v.setAreas_name _)),
      TopologyModel.setVim_setVim]
    rfl

theorem forM_delArea_run (h : t.VimAt i v) (areas : List Int) :
    (forM areas (fun a => do
      let _ ← onModel "vims" (TopologyModel.onVim i (VimModel.delArea a)))).run ⟨some t, d⟩ =
      .ok () ⟨some (t.setVim i (v.setAreas (eraseAreas areas v.areas))), d⟩ := by
  induction areas generalizing t v with
  | nil =>
    change _ = EStateM.Result.ok () (Topology.mk (some (t.setVim i v)) d)
    rw [h.setVim_self]
    rfl
  | cons a areas ih =>
    have hfirst : (do let _ ← onModel "vims" (TopologyModel.onVim i (VimModel.delArea a)) :
        EStateM PyError Topology Unit).run ⟨some t, d⟩ =
        .ok () ⟨some (t.setVim i (v.setAreas (v.areas.erase a))), d⟩ := by
      rw [EStateM.run_bind, onModel_run, TopologyModel.onVim_run h.getElem?, VimModel.delArea_run]
      rfl
    rw [List.forM_cons, run_bind_ok _ _ hfirst, ih (h.setVim (v.setAreas_name _)),
      TopologyModel.setVim_setVim]
    rfl

end Loops

end Topology

namespace UpdateVimModel

variable (msg : UpdateVimModel)

def NetworksKnown (t : TopologyModel) : Prop :=
  ∀ n ∈ msg.networksToAdd, t.HasNetwork n

/-- The networks of the VIM once the listed ones are added and deleted. -/
def networksAfter (v : VimModel) : List String :=
  eraseNames msg.networksToDel (addNames msg.networksToAdd v.networks)

/-- The routers to add before the first one that is not found. -/
def routersFound (t : TopologyModel) (v : VimModel) : List String :=
  msg.routersToAdd.takeWhile (Topology.routerFound t v.name)

def routersAdded (t : TopologyModel) (v : VimModel) : List String :=
  addNames (msg.routersFound t v) v.routers

/-- A router to add is not found, or one to delete is listed as a network only. -/
def RouterFails (t : TopologyModel) (v : VimModel) : Prop :=
  msg.routersFound t v ≠ msg.routersToAdd ∨
    removeRouters (msg.networksAfter v) (msg.routersAdded t v) msg.routersToDel = none

/-- The document as last saved by the loops over the networks to delete and the routers to add. -/
def savedBeforeEnd (t : TopologyModel) (i : Nat) (v : VimModel) (d : Option TopologyModel) :
    Option TopologyModel :=
  if msg.networksToDel = [] ∧ msg.routersFound t v = [] then d
  else some (t.setVim i ((v.setNetworks (msg.networksAfter v)).setRouters (msg.routersAdded t v)))

/-- The VIM record of a successful update. -/
def updated (v : VimModel) (routers : List String) : VimModel :=
  (((v.setNetworks (msg.networksAfter v)).setRouters routers).setAreas
    (eraseAreas msg.areasToDel (addAreas msg.areasToAdd v.areas)))

end UpdateVimModel

namespace Topology

section Update

variable {t : TopologyModel} {d : Option TopologyModel}

theorem updateVim_run_found (services : Services) (msg : UpdateVimModel) (h : t.VimAt i v)
    (hname : v.name = msg.name) :
    (updateVim services msg).run ⟨some t, d⟩ = (updateVimAt services msg i).run ⟨some t, d⟩ := by
  have hpos := h.position
  rw [hname] at hpos
  have hfind : (tryCatch (do
        let vim ← onModel "get_vim" (TopologyModel.findVimIndex msg.name)
        return some vim)
      (fun e => if e.isValueError then pure none else throw e) :
      EStateM PyError Topology (Option Nat)).run ⟨some t, d⟩ = .ok (some i) ⟨some t, d⟩ := by
    rw [run_tryCatch, EStateM.run_bind, onModel_run, TopologyModel.findVimIndex_run, hpos]
    rfl
  rw [updateVim, run_bind_ok _ _ hfind]

theorem updateVim_run_absent (services : Services) (msg : UpdateVimModel)
    (h : KeyedList.findIndex VimModel.name t.vims msg.name = none) :
    (updateVim services msg).run ⟨some t, d⟩ = .ok () ⟨some t, d⟩ := by
  have hfind : (tryCatch (do
        let vim ← onModel "get_vim" (TopologyModel.findVimIndex msg.name)
        return some vim)
      (fun e => if e.isValueError then pure none else throw e) :
      EStateM PyError Topology (Option Nat)).run ⟨some t, d⟩ = .ok none ⟨some t, d⟩ := by
    rw [run_tryCatch, EStateM.run_bind, onModel_run, TopologyModel.findVimIndex_run, h]
    rfl
  rw [updateVim, run_bind_ok _ _ hfind]
  rfl

theorem savedBeforeEnd_eq (msg : UpdateVimModel) (t : TopologyModel) (i : Nat) (v : VimModel)
    (d : Option TopologyModel) :
    (if msg.routersFound t v = [] then
        if msg.networksToDel = [] then d else some (t.setVim i (v.setNetworks (msg.networksAfter v)))
      else some (t.setVim i ((v.setNetworks (msg.networksAfter v)).setRouters (msg.routersAdded t v)))) =
      msg.savedBeforeEnd t i v d := by
  unfold UpdateVimModel.savedBeforeEnd UpdateVimModel.routersAdded
  by_cases hfound : msg.routersFound t v = []
  · by_cases hdel : msg.networksToDel = []
    · rw [if_pos hfound, if_pos hdel, if_pos ⟨hdel, hfound⟩]
    · rw [if_pos hfound, if_neg hdel, if_neg (fun h => hdel h.1), hfound]
      rfl
  · rw [if_neg hfound, if_neg (fun h => hfound h.2)]

/-- The loops after the routers to add: deletions of routers, then areas, then the save. -/
def updateVimRest (services : Services) (msg : UpdateVimModel) (i : Nat) : EStateM PyError Topology Unit := do
  forM msg.routersToDel (fun r => delVimRouter r i)
  forM msg.areasToAdd (fun a => onModel "vims" (TopologyModel.onVim i (VimModel.addArea a)))
  forM msg.areasToDel (fun a => do
    let _ ← onModel "vims" (TopologyModel.onVim i (VimModel.delArea a)))
  saveTopologyFromModel
  triggerRedisEvent services .vimUpdate

theorem updateVimRest_cases (services : Services) (msg : UpdateVimModel) (h : t.VimAt i v) :
    (∃ left, removeRouters v.networks v.routers msg.routersToDel = some left ∧
      (updateVimRest services msg i).run ⟨some t, d⟩ =
        let t' := t.setVim i ((v.setRouters left).setAreas
          (eraseAreas msg.areasToDel (addAreas msg.areasToAdd v.areas)))
        (triggerRedisEvent services .vimUpdate).run ⟨some t', some t'⟩) ∨
    (removeRouters v.networks v.routers msg.routersToDel = none ∧
      ∃ e m, (updateVimRest services msg i).run ⟨some t, d⟩ = .error e ⟨m, d⟩) := by
  unfold updateVimRest
  rcases forM_delVimRouter_run (d := d) h msg.routersToDel with ⟨left, hleft, hrun⟩ | ⟨hnone, e, m, hrun⟩
  · refine .inl ⟨left, hleft, ?_⟩
    have h₁ := h.setVim (v.setRouters_name left)
    have h₂ := h₁.setVim ((v.setRouters left).setAreas_name (addAreas msg.areasToAdd (v.setRouters left).areas))
    rw [run_bind_ok _ _ hrun, run_bind_ok _ _ (forM_addArea_run h₁ _),
      run_bind_ok _ _ (forM_delArea_run h₂ _), run_bind_ok _ _ (saveTopologyFromModel_run _ _)]
    simp only [TopologyModel.setVim_setVim]
    rfl
  · exact .inr ⟨hnone, e, m, run_bind_error _ _ hrun⟩

/-- The first two loops change the networks of the VIM and save them if any are deleted. -/
theorem updateVim_networks_run (msg : UpdateVimModel) (h : t.VimAt i v) (hnets : msg.NetworksKnown t) :
    (do
      forM msg.networksToAdd (fun n => addVimNet n i)
      forM msg.networksToDel (fun n => do let _ ← delVimNet n i) :
      EStateM PyError Topology Unit).run ⟨some t, d⟩ =
      .ok () ⟨some (t.setVim i (v.setNetworks (msg.networksAfter v))),
        if msg.networksToDel = [] then d
        else some (t.setVim i (v.setNetworks (msg.networksAfter v)))⟩ := by
  have h₁ := h.setVim (v.setNetworks_name (addNames msg.networksToAdd v.networks))
  rw [run_bind_ok _ _ (forM_addVimNet_run h hnets), forM_delVimNet_run h₁, TopologyModel.setVim_setVim]
  rfl

/-- The third loop, after the first two. -/
theorem updateVim_routers_run (msg : UpdateVimModel) (h : t.VimAt i v) :
    let s : Topology := ⟨some (t.setVim i (v.setNetworks (msg.networksAfter v))),
      if msg.networksToDel = [] then d else some (t.setVim i (v.setNetworks (msg.networksAfter v)))⟩
    let v' := (v.setNetworks (msg.networksAfter v)).setRouters (msg.routersAdded t v)
    (msg.routersFound t v = msg.routersToAdd ∧
        (forM msg.routersToAdd (fun r => addVimRouter r i)).run s =
          .ok () ⟨some (t.setVim i v'), msg.savedBeforeEnd t i v d⟩) ∨
      (msg.routersFound t v ≠ msg.routersToAdd ∧
        ∃ e m, (forM msg.routersToAdd (fun r => addVimRouter r i)).run s =
          .error e ⟨m, msg.savedBeforeEnd t i v d⟩) := by
  have h₂ := h.setVim (v.setNetworks_name (msg.networksAfter v))
  have hrun := forM_addVimRouter_run
    (d := if msg.networksToDel = [] then d else some (t.setVim i (v.setNetworks (msg.networksAfter v))))
    h₂ msg.routersToAdd
  rw [v.setNetworks_name, routerFound_setVim h (v.setNetworks_name _)] at hrun
  simp only [TopologyModel.setVim_setVim] at hrun
  rw [← savedBeforeEnd_eq]
  exact hrun

theorem updateVimAt_eq (services : Services) (msg : UpdateVimModel) (i : Nat) :
    updateVimAt services msg i = (do
      (do
        forM msg.networksToAdd (fun n => addVimNet n i)
        forM msg.networksToDel (fun n => do let _ ← delVimNet n i))
      forM msg.routersToAdd (fun r => addVimRouter r i)
      updateVimRest services msg i) := by
  simp only [updateVimAt, updateVimRest, bind_assoc]

/-- An update of an existing VIM either raises before any save, or raises after the saves of
the first three loops, or saves the updated record. -/
theorem updateVimAt_cases (services : Services) (msg : UpdateVimModel) (h : t.VimAt i v) :
    (¬ msg.NetworksKnown t ∧ ∃ e m, (updateVimAt services msg i).run ⟨some t, d⟩ = .error e ⟨m, d⟩) ∨
    (msg.NetworksKnown t ∧ msg.RouterFails t v ∧
      ∃ e m, (updateVimAt services msg i).run ⟨some t, d⟩ = .error e ⟨m, msg.savedBeforeEnd t i v d⟩) ∨
    (msg.NetworksKnown t ∧ msg.routersFound t v = msg.routersToAdd ∧
      ∃ routers, removeRouters (msg.networksAfter v) (msg.routersAdded t v) msg.routersToDel = some routers ∧
        (updateVimAt services msg i).run ⟨some t, d⟩ =
          (triggerRedisEvent services .vimUpdate).run
            ⟨some (t.setVim i (msg.updated v routers)), some (t.setVim i (msg.updated v routers))⟩) := by
  by_cases hnets : msg.NetworksKnown t
  · rw [updateVimAt_eq, run_bind_ok _ _ (updateVim_networks_run msg h hnets)]
    have hrouters := updateVim_routers_run (d := d) msg h
    rcases hrouters with ⟨hall, hrun⟩ | ⟨hsome, e, m, hrun⟩
    · rw [run_bind_ok _ _ hrun]
      have h₃ := h.setVim (show ((v.setNetworks (msg.networksAfter v)).setRouters (msg.routersAdded t v)).name = v.name
        from rfl)
      rcases updateVimRest_cases (d := msg.savedBeforeEnd t i v d) services msg h₃
        with ⟨left, hleft, hrest⟩ | ⟨hnone, e, m, hrest⟩
      · refine .inr (.inr ⟨hnets, hall, left, hleft, ?_⟩)
        rw [hrest]
        simp only [TopologyModel.setVim_setVim]
        rfl
      · exact .inr (.inl ⟨hnets, .inr hnone, e, m, hrest⟩)
    · exact .inr (.inl ⟨hnets, .inl hsome, e, m, run_bind_error _ _ hrun⟩)
  · refine .inl ⟨hnets, ?_⟩
    obtain ⟨n, hn, hunknown⟩ : ∃ n ∈ msg.networksToAdd, ¬ t.HasNetwork n := by
      simpa only [UpdateVimModel.NetworksKnown, not_forall, exists_prop] using hnets
    obtain ⟨e, m, hr⟩ := forM_addVimNet_raised (d := d) h hn hunknown
    exact ⟨e, m, run_bind_error _ _ hr⟩

end Update

end Topology

end Nfvcl
