import Mathlib.Data.List.Basic
import Nfvcl.Topology
import Nfvcl.VimLists

namespace Nfvcl
set_option autoImplicit true
open Effects

/-- The document is left alone, on both exits. -/
def KeepsStored (m : EStateM PyError Topology α) : Prop :=
  ∀ s, Meets m s (fun _ s' => s'.stored = s.stored) (fun _ s' => s'.stored = s.stored)

/-- The document is left alone if the program raises. -/
def AtomicAt (m : EStateM PyError Topology α) (s : Topology) : Prop :=
  Meets m s (fun _ _ => True) (fun _ s' => s'.stored = s.stored)

theorem atomicAt_iff (m : EStateM PyError Topology α) (s : Topology) :
    AtomicAt m s ↔ (Raised (m.run s) → (finalState (m.run s)).stored = s.stored) := by
  unfold AtomicAt Meets
  cases m.run s <;> simp

namespace KeepsStored

theorem pure (a : α) : KeepsStored (Pure.pure a) := fun _ => rfl

theorem raise (e : PyError) : KeepsStored (throw e : EStateM PyError Topology α) := fun _ => rfl

theorem bind {m : EStateM PyError Topology α} {f : α → EStateM PyError Topology β} (hm : KeepsStored m)
    (hf : ∀ a, KeepsStored (f a)) : KeepsStored (m >>= f) := fun s =>
  Meets.bind ((hm s).mono (fun _ _ h => h) (fun _ _ h => h)) (fun a s' hs' =>
    (hf a s').mono (fun _ _ h => h.trans hs') (fun _ _ h => h.trans hs'))

theorem forM {f : α → EStateM PyError Topology PUnit} (xs : List α) (hf : ∀ a, KeepsStored (f a)) :
    KeepsStored (ForM.forM xs f) := fun s =>
  Meets.forM xs (I := fun s' => s'.stored = s.stored) rfl (fun a _ s' hs' =>
    (hf a s').mono (fun _ _ h => h.trans hs') (fun _ _ h => h.trans hs'))

theorem onModel (attr : String) (m : EStateM PyError TopologyModel α) :
    KeepsStored (Topology.onModel attr m) := by
  rintro ⟨model, d⟩
  unfold Meets
  cases model with
  | none => rfl
  | some t =>
    rw [Topology.onModel_run]
    cases m.run t <;> rfl

theorem outcome (result : Option PyError) : KeepsStored (outcome result) := by
  cases result with
  | none => exact pure ()
  | some e => exact raise e

theorem getNetworkModel (netName : String) (vimName : Option String) :
    KeepsStored (Topology.getNetworkModel netName vimName) := by
  refine bind (onModel _ _) (fun n => ?_)
  cases vimName with
  | none => exact pure n
  | some name =>
    by_cases h : name ≠ ""
    · simp only [if_pos h]
      exact bind (onModel _ _) (fun _ => pure n)
    · simp only [if_neg h]
      exact pure n

theorem addVimNet (vimNetName : String) (vim : Nat) : KeepsStored (Topology.addVimNet vimNetName vim) :=
  bind (onModel _ _) (fun _ => bind (onModel _ _) (fun _ => pure _))

end KeepsStored

section Atomic

variable (services : Services) (hpub : ∀ event d, services.publish event d = none)

theorem AtomicAt.of_keeps {m : EStateM PyError Topology α} (hm : KeepsStored m) (s : Topology) :
    AtomicAt m s :=
  (hm s).mono (fun _ _ _ => trivial) (fun _ _ h => h)

theorem AtomicAt.bind_keeps {m : EStateM PyError Topology α} {f : α → EStateM PyError Topology β}
    (hm : KeepsStored m) (hf : ∀ a s, AtomicAt (f a) s) (s : Topology) : AtomicAt (m >>= f) s :=
  Meets.bind (hm s) (fun a s' hs' => (hf a s').mono (fun _ _ _ => trivial) (fun _ _ h => h.trans hs'))

theorem AtomicAt.discard {m : EStateM PyError Topology α} (hm : AtomicAt m s) :
    AtomicAt (do let _ ← m) s :=
  Meets.bind hm (fun _ _ _ => trivial)

include hpub in
/-- Writing the document is the last step that can raise. -/
theorem AtomicAt.save_then_trigger (event : TopologyEventType) (s : Topology) :
    AtomicAt (do
      Topology.saveTopologyFromModel
      Topology.triggerRedisEvent services event) s := by
  obtain ⟨model, d⟩ := s
  unfold AtomicAt Meets
  cases model with
  | none => rfl
  | some t =>
    simp only [EStateM.run_bind, Topology.saveTopologyFromModel_run, Topology.triggerRedisEvent_run, hpub]

include hpub in
theorem AtomicAt.save_then_return (event : TopologyEventType) (b : β) (s : Topology) :
    AtomicAt (do
      Topology.saveTopologyFromModel
      Topology.triggerRedisEvent services event
      return b) s := by
  obtain ⟨model, d⟩ := s
  unfold AtomicAt Meets
  cases model with
  | none => rfl
  | some t =>
    simp only [EStateM.run_bind, Topology.saveTopologyFromModel_run, Topology.triggerRedisEvent_run, hpub,
      EStateM.run_pure]

theorem AtomicAt.save (s : Topology) : AtomicAt Topology.saveTopologyFromModel s := by
  obtain ⟨model, d⟩ := s
  cases model with
  | none => exact rfl
  | some t => exact trivial

end Atomic

/-- Operations that write the document only once, at their end. -/
def TopologyOp.SavesOnce : TopologyOp → Prop
  | .updateVim _ => False
  | .delNetwork _ _ => False
  | _ => True

section SavesOnce

variable (services : Services) (hpub : ∀ event d, services.publish event d = none)
include hpub

theorem addPdu_atomic (pduInput : PduModel) (s : Topology) :
    AtomicAt (Topology.addPdu services pduInput) s := by
  refine Meets.tryCatch (AtomicAt.bind_keeps (.onModel _ _)
    (fun _ => .save_then_trigger services hpub .createPdu) s) (fun e s' hs' => ?_)
  cases he : e.isValueError with
  | true => exact trivial
  | false => exact hs'

theorem setReservedIpRange_atomic (p : IPv4Pool) (netName owner : String) (s : Topology) :
    AtomicAt (Topology.setReservedIpRange services p netName owner) s := by
  refine .bind_keeps (.onModel _ _) (fun i => .bind_keeps (.onModel _ _) (fun external s' => ?_)) s
  cases external with
  | true => exact .of_keeps (.raise _) s'
  | false => exact .bind_keeps (.onModel _ _) (fun _ => .save_then_return services hpub _ _) s'

theorem reserveRange_atomic (netName : String) (rangeLength : Int) (owner : String)
    (vimName : Option String) (s : Topology) :
    AtomicAt (Topology.reserveRange services netName rangeLength owner vimName) s := by
  refine .bind_keeps (.getNetworkModel _ _) (fun net s' => ?_) s
  simp only
  split
  · exact .of_keeps (.raise _) s'
  · exact setReservedIpRange_atomic services hpub _ _ _ s'

theorem TopologyOp.atomic_of_savesOnce (op : TopologyOp) (hop : op.SavesOnce) (s : Topology) :
    AtomicAt (op.exec services) s := by
  cases op with
  | updateVim => exact hop.elim
  | delNetwork => exact hop.elim
  | addVim => exact .bind_keeps (.onModel _ _) (fun _ => .save_then_trigger services hpub _) s
  | delVim =>
    exact .bind_keeps (.onModel _ _) (fun _ =>
      .bind_keeps (.onModel _ _) (fun _ => .save_then_trigger services hpub _)) s
  | addNetworkModel network vimNames =>
    refine .discard (.bind_keeps (.onModel _ _) (fun added => .bind_keeps (.forM _ (fun vimName => ?_))
      (fun _ => .save_then_return services hpub _ _)) s)
    exact .bind (.onModel _ _) (fun vim => .addVimNet _ vim)
  | delNetworkByName => exact .bind_keeps (.onModel _ _) (fun _ => .save_then_trigger services hpub _) s
  | addRouter => exact .bind_keeps (.onModel _ _) (fun _ => .save_then_trigger services hpub _) s
  | delRouter =>
    exact .bind_keeps (.onModel _ _) (fun _ => .bind_keeps (.forM _ (fun _ => .onModel _ _))
      (fun _ => .save_then_trigger services hpub _)) s
  | reserveRange netName rangeLength owner vimName =>
    exact .discard (reserveRange_atomic services hpub netName rangeLength owner vimName s)
  | releaseRanges =>
    refine .discard (.bind_keeps (.onModel _ _) (fun removed s' => ?_) s)
    cases removed with
    | none => exact .of_keeps (.pure none) s'
    | some r => exact .save_then_return services hpub _ _ s'
  | addPdu pduInput => exact addPdu_atomic services hpub pduInput s
  | updPdu => exact .bind_keeps (.onModel _ _) (fun _ => .save_then_trigger services hpub _) s
  | delPdu =>
    refine .bind_keeps (.onModel _ _) (fun _ => .bind_keeps (.onModel _ _) (fun _ =>
      .bind_keeps ?_ (fun _ => .save))) s
    intro s'
    unfold Meets
    rw [Topology.triggerRedisEvent_run, hpub]
  | addK8scluster => exact .bind_keeps (.onModel _ _) (fun _ => .save_then_trigger services hpub _) s
  | delK8scluster => exact .bind_keeps (.onModel _ _) (fun _ => .save_then_trigger services hpub _) s
  | updateK8scluster => exact .bind_keeps (.onModel _ _) (fun _ => .save_then_trigger services hpub _) s
  | addPrometheusServer => exact .bind_keeps (.onModel _ _) (fun _ => .save_then_trigger services hpub _) s
  | delPrometheusServer =>
    exact .discard (.bind_keeps (.onModel _ _) (fun _ => .bind_keeps (.outcome _)
      (fun _ => .save_then_return services hpub _ _)) s)
  | updatePrometheusServer =>
    exact .bind_keeps (.onModel _ _) (fun _ => .bind_keeps (.outcome _)
      (fun _ => .save_then_trigger services hpub _)) s

end SavesOnce

/-- The listed VIMs before the first one the topology does not have. -/
def TopologyModel.knownVims (t : TopologyModel) (names : List String) : List String :=
  names.takeWhile (fun name => decide (t.HasVim name))

/-- The operation saves a change of the document and raises afterwards: `del_network` with a VIM
that lists the network, followed by an unknown VIM or for an unknown network; `update_vim` with
a change of the networks or routers of the VIM that is saved, followed by a router that is not
found or not listed. -/
def TopologyOp.SavesThenFails (t : TopologyModel) : TopologyOp → Prop
  | .delNetwork network vimNamesList =>
    (t.knownVims (vimNamesList.getD []) ≠ vimNamesList.getD [] ∨ ¬ t.HasNetwork network.name) ∧
      ∃ name ∈ t.knownVims (vimNamesList.getD []), t.listed network.name name ≠ 0
  | .updateVim msg =>
    ∃ v, KeyedList.toMap VimModel.name t.vims msg.name = some v ∧ msg.NetworksKnown t ∧
      msg.RouterFails t v ∧ (msg.networksToDel ≠ [] ∨ msg.routersFound t v ≠ []) ∧
      (msg.networksAfter v ≠ v.networks ∨ msg.routersAdded t v ≠ v.routers)
  | _ => False

theorem TopologyOp.SavesOnce.not_savesThenFails {op : TopologyOp} (hop : op.SavesOnce) :
    ¬ op.SavesThenFails t := by
  intro h
  cases op with
  | delNetwork => exact hop
  | updateVim => exact hop
  | _ => exact h

section Exact

variable (services : Services) (hpub : ∀ event d, services.publish event d = none)
include hpub

theorem delNetwork_atomic_iff (network : NetworkModel) (vimNamesList : Option (List String))
    (t : TopologyModel) :
    AtomicAt (Topology.delNetwork services network vimNamesList) ⟨some t, some t⟩ ↔
      ¬ (TopologyOp.delNetwork network vimNamesList).SavesThenFails t := by
  have hchanged := TopologyModel.foldl_dropNet_eq_iff network.name (t.knownVims (vimNamesList.getD [])) t
  have hraise : (∃ name ∈ t.knownVims (vimNamesList.getD []), t.listed network.name name ≠ 0) ↔
      ¬ (t.knownVims (vimNamesList.getD [])).foldl (TopologyModel.dropNet network.name) t = t := by
    rw [hchanged]
    simp only [not_forall, ne_eq, exists_prop]
  unfold AtomicAt Meets TopologyOp.SavesThenFails
  simp only [hraise]
  rcases Topology.forM_delListed_run network.name (vimNamesList.getD []) t with
    ⟨hall, hloop⟩ | ⟨hsome, e, hloop⟩
  · rw [Topology.delNetwork, run_bind_ok _ _ hloop]
    have hall' : t.knownVims (vimNamesList.getD []) = vimNamesList.getD [] := hall
    simp only [EStateM.run_bind, Topology.onModel_run, TopologyModel.delNetwork_run,
      TopologyModel.dropNet, TopologyModel.foldl_editVim_networks, TopologyModel.HasNetwork]
    cases KeyedList.toMap NetworkModel.name t.networks network.name with
    | none =>
      change some _ = some t ↔ _
      rw [Option.some_inj]
      simp only [Option.isSome_none, Bool.false_eq_true, not_false_eq_true, or_true, true_and, not_not]
      rfl
    | some n =>
      simp only [Topology.saveTopologyFromModel_run, Topology.triggerRedisEvent_run, hpub, hall',
        Option.isSome_some, ne_eq, not_true_eq_false, or_self, false_and, not_false_eq_true]
  · rw [Topology.delNetwork, run_bind_error _ _ hloop]
    change some _ = some t ↔ _
    rw [Option.some_inj]
    have hne : t.knownVims (vimNamesList.getD []) ≠ vimNamesList.getD [] := hsome
    simp only [hne, ne_eq, not_false_eq_true, true_or, true_and, not_not]
    rfl

omit hpub in
/-- The document saved on the way is the original one exactly when nothing was saved or the
record of the VIM is as before. -/
theorem savedBeforeEnd_eq_iff (msg : UpdateVimModel) {t : TopologyModel} (h : t.VimAt i v) :
    msg.savedBeforeEnd t i v (some t) = some t ↔
      ¬ ((msg.networksToDel ≠ [] ∨ msg.routersFound t v ≠ []) ∧
        (msg.networksAfter v ≠ v.networks ∨ msg.routersAdded t v ≠ v.routers)) := by
  unfold UpdateVimModel.savedBeforeEnd
  by_cases hsave : msg.networksToDel = [] ∧ msg.routersFound t v = []
  · rw [if_pos hsave]
    simp only [hsave.1, hsave.2, ne_eq, not_true_eq_false, or_self, false_and, not_false_eq_true]
  · have hsaves : msg.networksToDel ≠ [] ∨ msg.routersFound t v ≠ [] := Classical.not_and_iff_not_or_not.1 hsave
    rw [if_neg hsave, Option.some_inj, h.setVim_eq_iff]
    simp only [hsaves, true_and, ne_eq, not_or, not_not]
    constructor
    · intro he
      exact ⟨congrArg VimModel.networks he, congrArg VimModel.routers he⟩
    · rintro ⟨hn, hr⟩
      rw [hn, hr]
      rfl

theorem updateVim_atomic_iff (msg : UpdateVimModel) (t : TopologyModel) :
    AtomicAt (Topology.updateVim services msg) ⟨some t, some t⟩ ↔
      ¬ (TopologyOp.updateVim msg).SavesThenFails t := by
  unfold TopologyOp.SavesThenFails
  cases hi : KeyedList.findIndex VimModel.name t.vims msg.name with
  | none =>
    have hnone := KeyedList.findIndex_eq_none.1 hi
    unfold AtomicAt Meets
    rw [Topology.updateVim_run_absent services msg hi]
    simp only [hnone, reduceCtorEq, false_and, exists_false, not_false_eq_true]
  | some i =>
    obtain ⟨v, hv, hname⟩ := TopologyModel.VimAt.of_findIndex hi
    have hmap : KeyedList.toMap VimModel.name t.vims msg.name = some v := by
      rw [← KeyedList.getElem?_findIndex hi, hv.getElem?]
    simp only [hmap, Option.some.injEq, exists_eq_left']
    unfold AtomicAt Meets
    rw [Topology.updateVim_run_found services msg hv hname]
    rcases Topology.updateVimAt_cases (d := some t) services msg hv with
      ⟨hnets, e, m, hrun⟩ | ⟨hnets, hfails, e, m, hrun⟩ | ⟨hnets, hfound, routers, hleft, hrun⟩
    · rw [hrun]
      simp only [hnets, false_and, not_false_eq_true]
    · rw [hrun]
      simp only [hnets, hfails, true_and]
      exact savedBeforeEnd_eq_iff msg hv
    · rw [hrun, Topology.triggerRedisEvent_run, hpub]
      have hok : ¬ msg.RouterFails t v := by
        rintro (h | h)
        · exact h hfound
        · rw [hleft] at h
          cases h
      simp only [hok, false_and, and_false, not_false_eq_true]

omit hpub in
theorem delNetwork_atomic_none (network : NetworkModel) (vimNamesList : Option (List String)) :
    AtomicAt (Topology.delNetwork services network vimNamesList) ⟨none, none⟩ := by
  unfold AtomicAt Meets Topology.delNetwork
  cases vimNamesList.getD [] with
  | nil => rfl
  | cons name names => rfl

omit hpub in
theorem updateVim_atomic_none (msg : UpdateVimModel) :
    AtomicAt (Topology.updateVim services msg) ⟨none, none⟩ := rfl

/-- Exactly these operations can raise with a changed document, and only in these cases. -/
theorem topology_ops_atomic_iff (op : TopologyOp) (stored : Option TopologyModel) :
    (Raised ((op.exec services).run (Topology.fromDb stored)) →
        (finalState ((op.exec services).run (Topology.fromDb stored))).stored = stored) ↔
      ∀ t, stored = some t → ¬ op.SavesThenFails t := by
  have hiff := atomicAt_iff (op.exec services) (Topology.fromDb stored)
  change _ ↔ (_ → _ = stored) at hiff
  rw [← hiff]
  by_cases hop : op.SavesOnce
  · exact iff_of_true (op.atomic_of_savesOnce services hpub hop _) (fun t _ => hop.not_savesThenFails)
  · cases stored with
    | none =>
      refine iff_of_true ?_ (fun t h => by cases h)
      cases op with
      | delNetwork network vimNamesList => exact delNetwork_atomic_none services network vimNamesList
      | updateVim msg => exact updateVim_atomic_none services msg
      | _ => exact (hop trivial).elim
    | some t =>
      simp only [Option.some.injEq, forall_eq']
      cases op with
      | delNetwork network vimNamesList => exact delNetwork_atomic_iff services hpub network vimNamesList t
      | updateVim msg => exact updateVim_atomic_iff services hpub msg t
      | _ => exact (hop trivial).elim

end Exact

theorem topology_ops_atomic_add_vim :
    Raised (((TopologyOp.addVim { name := "v", vimUrl := "" }).exec {}).run
        (Topology.fromDb (some { vims := [{ name := "v", vimUrl := "" }] }))) ∧
      (finalState (((TopologyOp.addVim { name := "v", vimUrl := "" }).exec {}).run
        (Topology.fromDb (some { vims := [{ name := "v", vimUrl := "" }] })))).stored =
        some { vims := [{ name := "v", vimUrl := "" }] } := by
  have hraised : Raised (((TopologyOp.addVim { name := "v", vimUrl := "" }).exec {}).run
      (Topology.fromDb (some { vims := [{ name := "v", vimUrl := "" }] }))) := by decide
  exact ⟨hraised, (topology_ops_atomic_iff {} (fun _ _ => rfl) (.addVim { name := "v", vimUrl := "" })
    (some { vims := [{ name := "v", vimUrl := "" }] })).2 (fun _ _ h => h) hraised⟩

/-- `del_network` with an unknown VIM after one that lists the network. -/
theorem topology_ops_atomic_fails :
    ¬ ∀ (services : Services), (∀ event d, services.publish event d = none) →
      ∀ (op : TopologyOp) (stored : Option TopologyModel),
        Raised ((op.exec services).run (Topology.fromDb stored)) →
          (finalState ((op.exec services).run (Topology.fromDb stored))).stored = stored := by
  intro h
  let cidr : IPv4Network := .lan
  let lan : NetworkModel := { name := "lan", type := .vlan, cidr := cidr }
  let t : TopologyModel := { networks := [lan], vims := [{ name := "v", vimUrl := "", networks := ["lan"] }] }
  have hatomic := h {} (fun _ _ => rfl) (.delNetwork lan (some ["v", "w"])) (some t) (by decide +kernel)
  exact absurd hatomic (by decide +kernel)

end Nfvcl
