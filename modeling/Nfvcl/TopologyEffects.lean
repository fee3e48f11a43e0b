import Mathlib.Data.List.Basic
import Mathlib.Data.List.TakeWhile
import Nfvcl.VimLists
import Nfvcl.RangeReservation

namespace Nfvcl
set_option autoImplicit true
open Effects

section Inversion

variable {c : Collection α} {present absent : String → PyError} {t t' : TopologyModel}

theorem Collection.add_ok {b : α} (h : (c.add present a).run t = .ok b t') :
    KeyedList.toMap c.key (c.items t) (c.key a) = none ∧ t' = c.put (c.items t ++ [a]) t := by
  rw [c.add_run] at h
  cases hm : KeyedList.toMap c.key (c.items t) (c.key a) with
  | some x =>
    rw [hm] at h
    cases h
  | none =>
    rw [hm] at h
    cases h
    exact ⟨rfl, rfl⟩

theorem Collection.remove_ok {b : α}
    (h : (do let i ← c.findIndex absent k; c.popAt i).run t = .ok b t') :
    KeyedList.toMap c.key (c.items t) k = some b ∧ t' = c.put (KeyedList.erase c.key (c.items t) k) t := by
  rw [c.remove_run] at h
  cases hm : KeyedList.toMap c.key (c.items t) k with
  | none =>
    rw [hm] at h
    cases h
  | some x =>
    rw [hm] at h
    cases h
    exact ⟨rfl, rfl⟩

theorem Collection.guarded_remove_ok {refused : α → Prop} [DecidablePred refused] {b : α}
    (h : (do
      let i ← c.findIndex absent k
      let a ← c.getAt i
      if refused a then throw e
      c.popAt i).run t = .ok b t') :
    KeyedList.toMap c.key (c.items t) k = some b ∧ ¬ refused b ∧
      t' = c.put (KeyedList.erase c.key (c.items t) k) t := by
  rw [c.guarded_remove_run] at h
  cases hm : KeyedList.toMap c.key (c.items t) k with
  | none =>
    rw [hm] at h
    cases h
  | some x =>
    rw [hm] at h
    by_cases hr : refused x
    · simp only [if_pos hr] at h
      cases h
    · simp only [if_neg hr] at h
      cases h
      exact ⟨rfl, hr, rfl⟩

theorem Collection.overwrite_ok {b : α}
    (h : (do let i ← c.findIndex absent (c.key a); c.setAt i a; return a).run t = .ok b t') :
    (KeyedList.toMap c.key (c.items t) (c.key a)).isSome ∧
      t' = c.put (KeyedList.replace c.key (c.items t) a) t := by
  rw [c.overwrite_run] at h
  cases hm : KeyedList.toMap c.key (c.items t) (c.key a) with
  | none =>
    rw [hm] at h
    cases h
  | some x =>
    rw [hm] at h
    cases h
    exact ⟨rfl, rfl⟩

end Inversion

/-- What an operation that returns has done to the model. -/
inductive TopologyOp.Effect (t : TopologyModel) : TopologyOp → TopologyModel → Prop
  | addVim (h : KeyedList.toMap VimModel.name t.vims v.name = none) :
      TopologyOp.Effect t (.addVim v) { t with vims := t.vims ++ [v] }
  | delVim (h : t.HasVim name) :
      TopologyOp.Effect t (.delVim name) { t with vims := KeyedList.erase VimModel.name t.vims name }
  | updateVimAbsent (h : ¬ t.HasVim msg.name) : TopologyOp.Effect t (.updateVim msg) t
  | updateVim (h : t.VimAt i v) (hname : v.name = msg.name) (hnets : msg.NetworksKnown t)
      (hfound : msg.routersFound t v = msg.routersToAdd)
      (hleft : removeRouters (msg.networksAfter v) (msg.routersAdded t v) msg.routersToDel = some routers) :
      TopologyOp.Effect t (.updateVim msg) (t.setVim i (msg.updated v routers))
  | addNetwork (h : KeyedList.toMap NetworkModel.name t.networks n.name = none)
      (hvims : ∀ name ∈ Option.getD names [], t.HasVim name) :
      TopologyOp.Effect t (.addNetworkModel n names)
        ((Option.getD names []).foldl (TopologyModel.listNet n.name) { t with networks := t.networks ++ [n] })
  | delNetwork (h : t.HasNetwork n.name) (hvims : ∀ name ∈ Option.getD names [], t.HasVim name) :
      TopologyOp.Effect t (.delNetwork n names)
        { (Option.getD names []).foldl (TopologyModel.dropNet n.name) t with
          networks := KeyedList.erase NetworkModel.name t.networks n.name }
  | delNetworkByName (h : t.HasNetwork name) :
      TopologyOp.Effect t (.delNetworkByName name)
        { t with networks := KeyedList.erase NetworkModel.name t.networks name }
  | addRouter (h : KeyedList.toMap RouterModel.name t.routers r.name = none) :
      TopologyOp.Effect t (.addRouter r) { t with routers := t.routers ++ [r] }
  | delRouter (hpos : KeyedList.findIndex VimModel.name t.vims name = some i) (hr : t.routers[i]? = some r)
      (hvims : ∀ name ∈ Option.getD names [], t.HasVim name) :
      TopologyOp.Effect t (.delRouter name names)
        ((Option.getD names []).foldl (TopologyModel.dropRouter r.name)
          { t with routers := t.routers.eraseIdx i })
  | reserveRange (hpos : KeyedList.findIndex NetworkModel.name t.networks netName = some i)
      (hn : t.networks[i]? = some n)
      (hrange : getRangeInCidr n.cidr
        (n.allocationPool ++ n.reservedRanges.map IPv4ReservedRange.toIPv4Pool) rangeLength = .ok p) :
      TopologyOp.Effect t (.reserveRange netName rangeLength owner vimName)
        { t with networks := t.networks.set i { n with reservedRanges := n.reservedRanges ++ [⟨p, owner⟩] } }
  | releaseNone : TopologyOp.Effect t (.releaseRanges owner ipRange netName) t
  | releaseRanges (hn : t.networks[i]? = some n) (r : IPv4ReservedRange) :
      TopologyOp.Effect t (.releaseRanges owner ipRange netName)
        { t with networks :=
            t.networks.set i { n with reservedRanges := removeOverlapping r n.reservedRanges } }
  | addPduPresent (h : (KeyedList.toMap PduModel.name t.pdus p.name).isSome) :
      TopologyOp.Effect t (.addPdu p) t
  | addPdu (h : KeyedList.toMap PduModel.name t.pdus p.name = none) :
      TopologyOp.Effect t (.addPdu p) { t with pdus := t.pdus ++ [p] }
  | updPdu (h : (KeyedList.toMap PduModel.name t.pdus p.name).isSome) :
      TopologyOp.Effect t (.updPdu p) { t with pdus := KeyedList.replace PduModel.name t.pdus p }
  | delPdu (h : (KeyedList.toMap PduModel.name t.pdus name).isSome) :
      TopologyOp.Effect t (.delPdu name) { t with pdus := KeyedList.erase PduModel.name t.pdus name }
  | addK8s (h : KeyedList.toMap TopologyK8sModel.name t.kubernetes k.name = none) :
      TopologyOp.Effect t (.addK8scluster k) { t with kubernetes := t.kubernetes ++ [k] }
  | delK8s (h : KeyedList.toMap TopologyK8sModel.name t.kubernetes name = some k)
      (hfree : ¬ k.deployedBlueprints.length > 0) :
      TopologyOp.Effect t (.delK8scluster name)
        { t with kubernetes := KeyedList.erase TopologyK8sModel.name t.kubernetes name }
  | updateK8s (h : (KeyedList.toMap TopologyK8sModel.name t.kubernetes k.name).isSome) :
      TopologyOp.Effect t (.updateK8scluster k)
        { t with kubernetes := KeyedList.replace TopologyK8sModel.name t.kubernetes k }
  | addProm (h : KeyedList.toMap PrometheusServerModel.id t.prometheusSrv p.id = none) :
      TopologyOp.Effect t (.addPrometheusServer p) { t with prometheusSrv := t.prometheusSrv ++ [p] }
  | delProm {force : Bool} (h : KeyedList.toMap PrometheusServerModel.id t.prometheusSrv srvId = some p)
      (hfree : ¬ (p.targets.length > 0 ∧ ¬ force)) :
      TopologyOp.Effect t (.delPrometheusServer srvId force)
        { t with prometheusSrv := KeyedList.erase PrometheusServerModel.id t.prometheusSrv srvId }
  | updateProm (h : (KeyedList.toMap PrometheusServerModel.id t.prometheusSrv p.id).isSome) :
      TopologyOp.Effect t (.updatePrometheusServer p)
        { t with prometheusSrv := KeyedList.replace PrometheusServerModel.id t.prometheusSrv p }

/-- The object and the document after an operation that returned: the changed model has been
saved, or nothing was changed. -/
def TopologyOp.Committed (op : TopologyOp) (t : TopologyModel) (d : Option TopologyModel) (s : Topology) : Prop :=
  ∃ t', op.Effect t t' ∧ s.model = some t' ∧ (s.stored = some t' ∨ t' = t ∧ s.stored = d)

section Commit

variable {t : TopologyModel} {d : Option TopologyModel} {services : Services}

theorem Topology.onModel_ok {m : EStateM PyError TopologyModel α}
    (h : (Topology.onModel attr m).run ⟨some t, d⟩ = .ok a s) :
    ∃ t', m.run t = .ok a t' ∧ s = ⟨some t', d⟩ := by
  rw [Topology.onModel_run] at h
  cases hm : m.run t with
  | ok b t' =>
    rw [hm] at h
    cases h
    exact ⟨t', rfl, rfl⟩
  | error e t' =>
    rw [hm] at h
    cases h

theorem Topology.triggerRedisEvent_ok (h : (Topology.triggerRedisEvent services event).run s = .ok u s') :
    s' = s := by
  rw [Topology.triggerRedisEvent_run] at h
  split at h
  · cases h
    rfl
  · cases h

theorem Topology.save_trigger_ok
    (h : (do
      Topology.saveTopologyFromModel
      Topology.triggerRedisEvent services event).run ⟨some t, d⟩ = .ok u s) :
    s = ⟨some t, some t⟩ := by
  rw [run_bind_ok _ _ (Topology.saveTopologyFromModel_run t d)] at h
  exact Topology.triggerRedisEvent_ok h

theorem Topology.commit_ok {m : EStateM PyError TopologyModel α}
    (h : (do
      let _ ← Topology.onModel attr m
      Topology.saveTopologyFromModel
      Topology.triggerRedisEvent services event).run ⟨some t, d⟩ = .ok u s) :
    ∃ a t', m.run t = .ok a t' ∧ s = ⟨some t', some t'⟩ := by
  obtain ⟨a, s₁, h₁, h₂⟩ := bind_ok_inv h
  obtain ⟨t', hm, rfl⟩ := Topology.onModel_ok h₁
  exact ⟨a, t', hm, Topology.save_trigger_ok h₂⟩

theorem TopologyOp.Committed.saved {op : TopologyOp} (h : op.Effect t t') (hs : s = ⟨some t', some t'⟩) :
    op.Committed t d s := by
  subst hs
  exact ⟨t', h, rfl, .inl rfl⟩

theorem TopologyOp.Committed.unchanged {op : TopologyOp} (h : op.Effect t t) : op.Committed t d ⟨some t, d⟩ :=
  ⟨t, h, rfl, .inr ⟨rfl, rfl⟩⟩

theorem addVim_committed (h : (Topology.addVim services v).run ⟨some t, d⟩ = .ok u s) :
    (TopologyOp.addVim v).Committed t d s := by
  obtain ⟨b, t', hm, hs⟩ := Topology.commit_ok h
  obtain ⟨hnone, rfl⟩ := Collection.add_ok hm
  exact .saved (.addVim hnone) hs

theorem delVim_committed (h : (Topology.delVim services name).run ⟨some t, d⟩ = .ok u s) :
    (TopologyOp.delVim name).Committed t d s := by
  obtain ⟨v, s₁, h₁, h₂⟩ := bind_ok_inv h
  obtain ⟨t₁, hget, rfl⟩ := Topology.onModel_ok h₁
  rw [TopologyModel.getVim_run] at hget
  cases hv : KeyedList.toMap VimModel.name t.vims name with
  | none =>
    rw [hv] at hget
    cases hget
  | some w =>
    rw [hv] at hget
    cases hget
    obtain rfl := KeyedList.toMap_some_key hv
    obtain ⟨b, t', hm, hs⟩ := Topology.commit_ok h₂
    obtain ⟨hsome, rfl⟩ := Collection.remove_ok hm
    exact .saved (.delVim (by rw [TopologyModel.HasVim, hv]; rfl)) hs

theorem updateVim_committed (h : (Topology.updateVim services msg).run ⟨some t, d⟩ = .ok u s) :
    (TopologyOp.updateVim msg).Committed t d s := by
  cases hi : KeyedList.findIndex VimModel.name t.vims msg.name with
  | none =>
    rw [Topology.updateVim_run_absent services msg hi] at h
    cases h
    refine .unchanged (.updateVimAbsent ?_)
    rw [TopologyModel.HasVim, KeyedList.findIndex_eq_none.1 hi]
    exact Bool.false_ne_true
  | some i =>
    obtain ⟨v, hv, hname⟩ := TopologyModel.VimAt.of_findIndex hi
    rw [Topology.updateVim_run_found services msg hv hname] at h
    rcases Topology.updateVimAt_cases (d := d) services msg hv with
      ⟨_, e, m, hrun⟩ | ⟨_, _, e, m, hrun⟩ | ⟨hnets, hfound, routers, hleft, hrun⟩
    · rw [hrun] at h
      cases h
    · rw [hrun] at h
      cases h
    · rw [hrun] at h
      exact .saved (.updateVim hv hname hnets hfound hleft) (Topology.triggerRedisEvent_ok h)

/-- A loop that edits the record of each listed VIM. -/
theorem forM_editVim_ok {p : String → EStateM PyError Topology Unit} {f : VimModel → VimModel}
    {I : TopologyModel → Prop} (hf : ∀ v, (f v).name = v.name) (hI : ∀ t name, I t → I (t.editVim f name))
    (hp : ∀ t name, I t → (p name).run ⟨some t, d⟩ =
      if t.HasVim name then .ok () ⟨some (t.editVim f name), d⟩
      else .error (TopologyModel.vimNotFound name) ⟨some t, d⟩)
    {names : List String} (ht : I t) (h : (forM names p).run ⟨some t, d⟩ = .ok u s) :
    (∀ name ∈ names, t.HasVim name) ∧ s = ⟨some (names.foldl (TopologyModel.editVim f) t), d⟩ := by
  induction names generalizing t with
  | nil =>
    cases h
    exact ⟨fun name hname => (by cases hname), rfl⟩
  | cons a names ih =>
    rw [List.forM_cons] at h
    obtain ⟨_, s₁, h₁, h₂⟩ := bind_ok_inv h
    rw [hp t a ht] at h₁
    by_cases ha : t.HasVim a
    · rw [if_pos ha] at h₁
      cases h₁
      obtain ⟨hrest, hs⟩ := ih (hI t a ht) h₂
      refine ⟨fun name hname => ?_, hs⟩
      rcases List.mem_cons.1 hname with rfl | hname
      · exact ha
      · exact (TopologyModel.hasVim_editVim hf t a name).1 (hrest name hname)
    · rw [if_neg ha] at h₁
      cases h₁

theorem listVim_run (hnet : t.HasNetwork net) (name : String) :
    (do
      let vim ← Topology.onModel "get_vim" (TopologyModel.findVimIndex name)
      Topology.addVimNet net vim).run ⟨some t, d⟩ =
      if t.HasVim name then .ok () ⟨some (t.listNet net name), d⟩
      else .error (TopologyModel.vimNotFound name) ⟨some t, d⟩ := by
  rw [EStateM.run_bind, Topology.onModel_run, TopologyModel.findVimIndex_run]
  obtain ⟨n, hn⟩ := Option.isSome_iff_exists.1 hnet
  cases hi : KeyedList.findIndex VimModel.name t.vims name with
  | none =>
    have hno : ¬ t.HasVim name := by
      rw [TopologyModel.HasVim, KeyedList.findIndex_eq_none.1 hi]
      exact Bool.false_ne_true
    rw [if_neg hno]
  | some i =>
    obtain ⟨v, hv, rfl⟩ := TopologyModel.VimAt.of_findIndex hi
    simp only [if_pos hv.hasVim, Topology.addVimNet_run hv, hn, TopologyModel.listNet,
      TopologyModel.editVim_of_vimAt (fun v => v.setNetworks_name _) hv]

theorem delRouterFromVim_run (router name : String) (t : TopologyModel) :
    (TopologyModel.delRouterFromVim router name).run t =
      if t.HasVim name then .ok () (t.dropRouter router name)
      else .error (TopologyModel.vimNotFound name) t := by
  rw [TopologyModel.delRouterFromVim, EStateM.run_bind, TopologyModel.findVimIndex_run]
  cases hi : KeyedList.findIndex VimModel.name t.vims name with
  | none =>
    have hno : ¬ t.HasVim name := by
      rw [TopologyModel.HasVim, KeyedList.findIndex_eq_none.1 hi]
      exact Bool.false_ne_true
    rw [if_neg hno]
  | some i =>
    obtain ⟨v, hv, rfl⟩ := TopologyModel.VimAt.of_findIndex hi
    simp only [if_pos hv.hasVim, TopologyModel.onVim_run hv.getElem?, TopologyModel.dropRouter,
      TopologyModel.editVim_of_vimAt (fun v => v.setRouters_name _) hv, EStateM.run_bind, EStateM.run_get,
      VimModel.getRouter]
    by_cases hr : router ∈ v.routers
    · have hkept : ¬ (router ∈ v.networks ∧ router ∉ v.routers) := fun h => h.2 hr
      simp only [if_pos hr, EStateM.run_bind, VimModel.delRouter_run, if_neg hkept, EStateM.run_pure]
    · have herase : (if router ∈ v.networks then v.routers.erase router else v.routers) = v.routers := by
        split
        · exact List.erase_of_not_mem hr
        · rfl
      simp only [if_neg hr, EStateM.run_pure, herase]
      rfl

theorem addNetworkModel_committed
    (h : (Topology.addNetworkModel services n names).run ⟨some t, d⟩ = .ok u s) :
    (TopologyOp.addNetworkModel n names).Committed t d s := by
  obtain ⟨added, s₁, h₁, h₂⟩ := bind_ok_inv h
  obtain ⟨t₁, hm, rfl⟩ := Topology.onModel_ok h₁
  obtain ⟨hnone, rfl⟩ := Collection.add_ok hm
  obtain ⟨_, s₂, hloop, hend⟩ := bind_ok_inv h₂
  have hhas : TopologyModel.HasNetwork { t with networks := t.networks ++ [n] } n.name := by
    rw [TopologyModel.HasNetwork, KeyedList.toMap_isSome]
    exact ⟨n, List.mem_append_right _ List.mem_cons_self, rfl⟩
  obtain ⟨hvims, rfl⟩ := forM_editVim_ok (I := fun t => t.HasNetwork n.name)
    (fun v => v.setNetworks_name _)
    (fun t name ht => by rw [TopologyModel.HasNetwork, TopologyModel.editVim_networks]; exact ht)
    (fun t name ht => listVim_run ht name) hhas hloop
  rw [run_bind_ok _ _ (Topology.saveTopologyFromModel_run _ _)] at hend
  obtain ⟨_, s₃, htrigger, hret⟩ := bind_ok_inv hend
  obtain rfl := Topology.triggerRedisEvent_ok htrigger
  cases hret
  exact .saved (.addNetwork hnone hvims) rfl

theorem delNetwork_committed (h : (Topology.delNetwork services n names).run ⟨some t, some t⟩ = .ok u s) :
    (TopologyOp.delNetwork n names).Committed t (some t) s := by
  obtain ⟨_, s₁, hloop, h₂⟩ := bind_ok_inv h
  rcases Topology.forM_delListed_run n.name (names.getD []) t with ⟨hall, hrun⟩ | ⟨_, e, hrun⟩
  · rw [hall] at hrun
    rw [hrun] at hloop
    cases hloop
    obtain ⟨b, t', hm, hs⟩ := Topology.commit_ok h₂
    obtain ⟨hsome, rfl⟩ := Collection.remove_ok hm
    have hnetworks : ((names.getD []).foldl (TopologyModel.dropNet n.name) t).networks = t.networks :=
      TopologyModel.foldl_editVim_networks _ _ t
    have hvims : ∀ name ∈ names.getD [], t.HasVim name := by
      intro name hname
      rw [← hall] at hname
      simpa using List.mem_takeWhile_imp hname
    change KeyedList.toMap NetworkModel.name
      ((names.getD []).foldl (TopologyModel.dropNet n.name) t).networks n.name = some b at hsome
    rw [hnetworks] at hsome
    have hlisted : t.HasNetwork n.name := by
      rw [TopologyModel.HasNetwork, hsome]
      rfl
    have heffect := TopologyOp.Effect.delNetwork hlisted hvims
    refine .saved heffect ?_
    rw [hs]
    simp only [TopologyModel.netColl, hnetworks]
  · rw [hrun] at hloop
    cases hloop

theorem delNetworkByName_committed (h : (Topology.delNetworkByName services name).run ⟨some t, d⟩ = .ok u s) :
    (TopologyOp.delNetworkByName name).Committed t d s := by
  obtain ⟨b, t', hm, hs⟩ := Topology.commit_ok h
  obtain ⟨hsome, rfl⟩ := Collection.remove_ok hm
  exact .saved (.delNetworkByName (by
    rw [TopologyModel.HasNetwork]
    exact Option.isSome_iff_exists.2 ⟨b, hsome⟩)) hs

theorem delRouter_committed (h : (Topology.delRouter services name names).run ⟨some t, d⟩ = .ok u s) :
    (TopologyOp.delRouter name names).Committed t d s := by
  obtain ⟨r, s₁, h₁, h₂⟩ := bind_ok_inv h
  obtain ⟨t₁, hdel, rfl⟩ := Topology.onModel_ok h₁
  obtain ⟨i, t₂, hpos, hpop⟩ := bind_ok_inv hdel
  rw [TopologyModel.findRouterIndex, Collection.findIndex_run] at hpos
  cases hi : KeyedList.findIndex VimModel.name t.vims name with
  | none =>
    simp only [TopologyModel.vimColl, hi] at hpos
    cases hpos
  | some j =>
    simp only [TopologyModel.vimColl, hi] at hpos
    cases hpos
    rw [Collection.popAt_run] at hpop
    cases hr : t.routers[i]? with
    | none =>
      simp only [TopologyModel.routerColl, hr] at hpop
      cases hpop
    | some router =>
      simp only [TopologyModel.routerColl, hr] at hpop
      cases hpop
      obtain ⟨_, s₂, hloop, hend⟩ := bind_ok_inv h₂
      obtain ⟨hvims, rfl⟩ := forM_editVim_ok (I := fun _ => True) (fun v => v.setRouters_name _)
        (fun _ _ _ => trivial)
        (fun t name _ => by
          rw [Topology.onModel_run, delRouterFromVim_run, TopologyModel.dropRouter]
          by_cases hv : t.HasVim name
          · rw [if_pos hv, if_pos hv]
          · rw [if_neg hv, if_neg hv]) trivial hloop
      exact .saved (.delRouter hi hr hvims) (Topology.save_trigger_ok hend)

/-- Saving, publishing and returning a value. -/
theorem Topology.save_return_ok
    (h : (do
      Topology.saveTopologyFromModel
      Topology.triggerRedisEvent services event
      return b).run ⟨some t, d⟩ = .ok u s) :
    s = ⟨some t, some t⟩ := by
  rw [run_bind_ok _ _ (Topology.saveTopologyFromModel_run t d)] at h
  obtain ⟨_, s₁, htrigger, hret⟩ := bind_ok_inv h
  obtain rfl := Topology.triggerRedisEvent_ok htrigger
  cases hret
  rfl

theorem setReservedIpRange_ok (hi : KeyedList.findIndex NetworkModel.name t.networks netName = some i)
    (hnth : t.networks[i]? = some n)
    (h : (Topology.setReservedIpRange services p netName owner).run ⟨some t, d⟩ = .ok u s) :
    let n' := { n with reservedRanges := n.reservedRanges ++ [⟨p, owner⟩] }
    let t' := { t with networks := t.networks.set i n' }
    s = ⟨some t', some t'⟩ := by
  have hfind : (Topology.onModel "get_network" (TopologyModel.findNetIndex netName)).run ⟨some t, d⟩ =
      .ok i ⟨some t, d⟩ := by
    rw [Topology.onModel_run, TopologyModel.findNetIndex_run, hi]
  have hread : (Topology.onModel "networks" (TopologyModel.onNetwork i (do let n ← get; return n.external))).run
      ⟨some t, d⟩ = .ok n.external ⟨some t, d⟩ := by
    rw [Topology.onModel_run, TopologyModel.onNetwork_read hnth]
  rw [Topology.setReservedIpRange, run_bind_ok _ _ hfind, run_bind_ok _ _ hread] at h
  rcases Bool.eq_false_or_eq_true n.external with hext | hext
  · rw [hext] at h
    cases h
  · rw [hext] at h
    obtain ⟨_, s₁, hadd, hend⟩ := bind_ok_inv h
    obtain ⟨t₁, hset, rfl⟩ := Topology.onModel_ok hadd
    rw [TopologyModel.onNetwork_run hnth] at hset
    rcases NetworkModel.addReservedRange_cases ⟨p, owner⟩ n with ⟨e, he⟩ | hok
    · rw [he] at hset
      cases hset
    · rw [hok] at hset
      cases hset
      exact Topology.save_return_ok hend

theorem reserveRange_committed
    (h : (Topology.reserveRange services netName rangeLength owner vimName).run ⟨some t, d⟩ = .ok u s) :
    (TopologyOp.reserveRange netName rangeLength owner vimName).Committed t d s := by
  obtain ⟨n, s₁, hget, h₂⟩ := bind_ok_inv h
  rcases Topology.getNetworkModel_cases netName vimName t d with ⟨e, he⟩ | ⟨n', hok, hn⟩
  · rw [he] at hget
    cases hget
  · rw [hok] at hget
    cases hget
    obtain ⟨i, hi, hnth⟩ := KeyedList.findIndex_of_toMap hn
    simp only at h₂
    cases hp : getRangeInCidr n.cidr
      (n.allocationPool ++ n.reservedRanges.map IPv4ReservedRange.toIPv4Pool) rangeLength with
    | error e =>
      rw [hp] at h₂
      cases h₂
    | ok p =>
      rw [hp] at h₂
      exact .saved (.reserveRange hi hnth hp) (setReservedIpRange_ok hi hnth h₂)

theorem releaseInNetworks_set {networks networks' : List NetworkModel}
    (h : TopologyModel.releaseInNetworks owner ipRange networks = .ok (some (r, networks'))) :
    ∃ i n, networks[i]? = some n ∧
      networks' = networks.set i { n with reservedRanges := removeOverlapping r n.reservedRanges } := by
  induction networks generalizing networks' with
  | nil => cases h
  | cons n ns ih =>
    unfold TopologyModel.releaseInNetworks at h
    rcases NetworkModel.releaseRange_cases owner ipRange n with ⟨e, he⟩ | hnone | ⟨r', hr⟩
    · rw [he] at h
      cases h
    · rw [hnone] at h
      simp only at h
      cases hrest : TopologyModel.releaseInNetworks owner ipRange ns with
      | error e =>
        rw [hrest] at h
        cases h
      | ok found =>
        rw [hrest] at h
        cases found with
        | none => cases h
        | some p =>
          cases h
          obtain ⟨i, m, hm, hset⟩ := ih hrest
          exact ⟨i + 1, m, hm, by rw [hset]; rfl⟩
    · rw [hr] at h
      cases h
      exact ⟨0, n, rfl, rfl⟩

theorem TopologyModel.releaseRanges_ok
    (h : (TopologyModel.releaseRanges owner ipRange netName).run t = .ok removed t') :
    (removed = none ∧ t' = t) ∨ ∃ i n r, removed = some r ∧ t.networks[i]? = some n ∧
      t' = { t with
        networks := t.networks.set i { n with reservedRanges := removeOverlapping r n.reservedRanges } } := by
  cases netName with
  | none =>
    simp only [TopologyModel.releaseRanges, EStateM.run_bind, EStateM.run_get] at h
    cases hrel : TopologyModel.releaseInNetworks owner ipRange t.networks with
    | error e =>
      rw [hrel] at h
      cases h
    | ok found =>
      rw [hrel] at h
      cases found with
      | none =>
        cases h
        exact .inl ⟨rfl, rfl⟩
      | some p =>
        cases h
        obtain ⟨i, n, hn, hset⟩ := releaseInNetworks_set hrel
        exact .inr ⟨i, n, p.1, rfl, hn, by rw [hset]⟩
  | some name =>
    simp only [TopologyModel.releaseRanges, EStateM.run_bind, TopologyModel.findNetIndex_run] at h
    cases hi : KeyedList.findIndex NetworkModel.name t.networks name with
    | none =>
      rw [hi] at h
      cases h
    | some i =>
      obtain ⟨n, hnth, _, _⟩ := KeyedList.findIndex_some hi
      rw [hi] at h
      simp only [TopologyModel.onNetwork_run hnth] at h
      rcases NetworkModel.releaseRange_cases owner ipRange n with ⟨e, he⟩ | hnone | ⟨r, hr⟩
      · rw [he] at h
        cases h
      · rw [hnone] at h
        cases h
        exact .inl ⟨rfl, TopologyModel.set_networks_self hnth⟩
      · rw [hr] at h
        cases h
        exact .inr ⟨i, n, r, rfl, hnth, rfl⟩

theorem releaseRanges_committed
    (h : (Topology.releaseRanges services owner ipRange netName).run ⟨some t, d⟩ = .ok u s) :
    (TopologyOp.releaseRanges owner ipRange netName).Committed t d s := by
  obtain ⟨removed, s₁, h₁, h₂⟩ := bind_ok_inv h
  obtain ⟨t₁, hrel, rfl⟩ := Topology.onModel_ok h₁
  rcases TopologyModel.releaseRanges_ok hrel with ⟨rfl, rfl⟩ | ⟨i, n, r, rfl, hn, rfl⟩
  · cases h₂
    exact .unchanged .releaseNone
  · exact .saved (.releaseRanges hn r) (Topology.save_return_ok h₂)

/-- `add_pdu` returns after the ordinary sequence, or after swallowing a `ValueError` of the
model or of the event. -/
theorem addPdu_committed (h : (Topology.addPdu services p).run ⟨some t, d⟩ = .ok u s) :
    (TopologyOp.addPdu p).Committed t d s := by
  rw [Topology.addPdu, run_tryCatch] at h
  have hadd := TopologyModel.pduColl.add_run
    (fun n => .valueError s!"PDU with name >{n}< already exists in the topology") t p
  cases hm : KeyedList.toMap PduModel.name t.pdus p.name with
  | some q =>
    have hraise : (TopologyModel.addPdu p).run t =
        .error (.valueError s!"PDU with name >{p.name}< already exists in the topology") t := by
      rw [TopologyModel.addPdu, hadd]
      simp only [TopologyModel.pduColl, hm]
    rw [run_bind_error _ _ (by rw [Topology.onModel_run, hraise])] at h
    cases h
    exact .unchanged (.addPduPresent (by rw [hm]; rfl))
  | none =>
    have hok : (TopologyModel.addPdu p).run t = .ok p { t with pdus := t.pdus ++ [p] } := by
      rw [TopologyModel.addPdu, hadd]
      simp only [TopologyModel.pduColl, hm]
    rw [run_bind_ok _ _ (by rw [Topology.onModel_run, hok]),
      run_bind_ok _ _ (Topology.saveTopologyFromModel_run _ _), Topology.triggerRedisEvent_run] at h
    refine .saved (.addPdu hm) ?_
    cases hp : services.publish .createPdu (some { t with pdus := t.pdus ++ [p] }) with
    | none =>
      simp only [hp] at h
      cases h
      rfl
    | some e =>
      simp only [hp] at h
      cases he : e.isValueError with
      | true =>
        rw [he] at h
        cases h
        rfl
      | false =>
        rw [he] at h
        cases h

theorem updPdu_committed (h : (Topology.updPdu services p).run ⟨some t, d⟩ = .ok u s) :
    (TopologyOp.updPdu p).Committed t d s := by
  obtain ⟨b, t', hm, hs⟩ := Topology.commit_ok h
  obtain ⟨hsome, rfl⟩ := Collection.overwrite_ok (c := TopologyModel.pduColl) hm
  exact .saved (.updPdu hsome) hs

theorem delPdu_committed (h : (Topology.delPdu services name).run ⟨some t, d⟩ = .ok u s) :
    (TopologyOp.delPdu name).Committed t d s := by
  obtain ⟨_, s₁, hget, h₂⟩ := bind_ok_inv h
  obtain ⟨t₁, hlookup, rfl⟩ := Topology.onModel_ok hget
  have hsame : t₁ = t := by
    unfold TopologyModel.getPdu TopologyModel.findPduIndex at hlookup
    rw [Collection.lookup_run] at hlookup
    split at hlookup
    · cases hlookup
      rfl
    · cases hlookup
  subst hsame
  obtain ⟨b, s₂, hdel, h₃⟩ := bind_ok_inv h₂
  obtain ⟨t', hm, rfl⟩ := Topology.onModel_ok hdel
  obtain ⟨hsome, rfl⟩ := Collection.remove_ok hm
  obtain ⟨_, s₃, htrigger, hsave⟩ := bind_ok_inv h₃
  obtain rfl := Topology.triggerRedisEvent_ok htrigger
  rw [Topology.saveTopologyFromModel_run] at hsave
  cases hsave
  exact .saved (.delPdu (Option.isSome_iff_exists.2 ⟨b, hsome⟩)) rfl

theorem outcome_ok {result : Option PyError} (h : (outcome result).run s = .ok u s') : s' = s := by
  cases result with
  | none =>
    cases h
    rfl
  | some e => cases h

/-- Every operation that returns, on an object as read from the database, has had one of the
listed effects, and the document is the changed model. -/
theorem TopologyOp.exec_effect (op : TopologyOp) (services : Services) (t : TopologyModel)
    (h : (op.exec services).run (Topology.fromDb (some t)) = .ok u s) :
    ∃ t', op.Effect t t' ∧ s = Topology.fromDb (some t') := by
  have hcommit : op.Committed t (some t) s := by
    cases op with
    | addVim => exact addVim_committed h
    | delVim => exact delVim_committed h
    | updateVim => exact updateVim_committed h
    | addNetworkModel =>
      obtain ⟨_, s₁, h₁, h₂⟩ := bind_ok_inv h
      cases h₂
      exact addNetworkModel_committed h₁
    | delNetwork => exact delNetwork_committed h
    | delNetworkByName => exact delNetworkByName_committed h
    | addRouter =>
      obtain ⟨b, t', hm, hs⟩ := Topology.commit_ok h
      obtain ⟨hnone, rfl⟩ := Collection.add_ok hm
      exact .saved (.addRouter hnone) hs
    | delRouter => exact delRouter_committed h
    | reserveRange =>
      obtain ⟨_, s₁, h₁, h₂⟩ := bind_ok_inv h
      cases h₂
      exact reserveRange_committed h₁
    | releaseRanges =>
      obtain ⟨_, s₁, h₁, h₂⟩ := bind_ok_inv h
      cases h₂
      exact releaseRanges_committed h₁
    | addPdu => exact addPdu_committed h
    | updPdu => exact updPdu_committed h
    | delPdu => exact delPdu_committed h
    | addK8scluster =>
      obtain ⟨b, t', hm, hs⟩ := Topology.commit_ok h
      obtain ⟨_, t₁, hadd, hret⟩ := bind_ok_inv hm
      cases hret
      obtain ⟨hnone, rfl⟩ := Collection.add_ok hadd
      exact .saved (.addK8s hnone) hs
    | delK8scluster =>
      obtain ⟨b, t', hm, hs⟩ := Topology.commit_ok h
      obtain ⟨hsome, hfree, rfl⟩ := Collection.guarded_remove_ok hm
      exact .saved (.delK8s hsome hfree) hs
    | updateK8scluster =>
      obtain ⟨b, t', hm, hs⟩ := Topology.commit_ok h
      obtain ⟨hsome, rfl⟩ := Collection.overwrite_ok (c := TopologyModel.k8sColl) hm
      exact .saved (.updateK8s hsome) hs
    | addPrometheusServer =>
      obtain ⟨b, t', hm, hs⟩ := Topology.commit_ok h
      obtain ⟨_, t₁, hadd, hret⟩ := bind_ok_inv hm
      cases hret
      obtain ⟨hnone, rfl⟩ := Collection.add_ok hadd
      exact .saved (.addProm hnone) hs
    | delPrometheusServer =>
      obtain ⟨_, s₁, h₁, h₂⟩ := bind_ok_inv h
      cases h₂
      obtain ⟨b, s₂, hdel, h₃⟩ := bind_ok_inv h₁
      obtain ⟨t', hm, rfl⟩ := Topology.onModel_ok hdel
      obtain ⟨hsome, hfree, rfl⟩ := Collection.guarded_remove_ok hm
      obtain ⟨_, s₃, hfiles, hend⟩ := bind_ok_inv h₃
      obtain rfl := outcome_ok hfiles
      exact .saved (.delProm hsome hfree) (Topology.save_return_ok hend)
    | updatePrometheusServer =>
      obtain ⟨b, s₂, hupd, h₃⟩ := bind_ok_inv h
      obtain ⟨t', hm, rfl⟩ := Topology.onModel_ok hupd
      obtain ⟨hsome, rfl⟩ := Collection.overwrite_ok (c := TopologyModel.promColl) hm
      obtain ⟨_, s₃, hfile, hend⟩ := bind_ok_inv h₃
      obtain rfl := outcome_ok hfile
      exact .saved (.updateProm hsome) (Topology.save_trigger_ok hend)
  obtain ⟨t', heffect, hmodel, hstored⟩ := hcommit
  refine ⟨t', heffect, ?_⟩
  obtain ⟨model, stored⟩ := s
  rcases hstored with hstored | ⟨rfl, hstored⟩
  · cases hmodel
    cases hstored
    rfl
  · cases hmodel
    cases hstored
    rfl

end Commit

end Nfvcl
