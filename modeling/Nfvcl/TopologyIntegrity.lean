import Mathlib.Data.List.Basic
import Nfvcl.TopologyEffects

namespace Nfvcl
set_option autoImplicit true
open Effects

namespace TopologyModel

def HasRouter (t : TopologyModel) (name : String) : Prop :=
  (KeyedList.toMap RouterModel.name t.routers name).isSome

instance (t : TopologyModel) (name : String) : Decidable (t.HasRouter name) :=
  inferInstanceAs (Decidable (_ = true))

/-- Every network and router a VIM lists is one of the topology. -/
def Resolves (t : TopologyModel) (v : VimModel) : Prop :=
  (∀ n ∈ v.networks, t.HasNetwork n) ∧ ∀ r ∈ v.routers, t.HasRouter r

def Closed (t : TopologyModel) : Prop :=
  ∀ v ∈ t.vims, t.Resolves v

instance (t : TopologyModel) (v : VimModel) : Decidable (t.Resolves v) :=
  inferInstanceAs (Decidable (_ ∧ _))

instance (t : TopologyModel) : Decidable t.Closed :=
  inferInstanceAs (Decidable (∀ v ∈ t.vims, t.Resolves v))

end TopologyModel

/-- The steps after which no VIM is left with a name the topology does not have: a new VIM
lists only existing items, routers are added to a VIM by the name of an existing router, a
network is deleted together with its last mention, a router only once no VIM lists it. -/
def TopologyOp.Admissible (t : TopologyModel) : TopologyOp → Prop
  | .addVim v => t.Resolves v
  | .updateVim msg => ∀ r ∈ msg.routersToAdd, t.HasRouter r
  | .delNetwork n names => ∀ v ∈ t.vims, v.networks.count n.name ≤ (names.getD []).count v.name
  | .delNetworkByName name => ∀ v ∈ t.vims, name ∉ v.networks
  | .delRouter name _ => ∀ i r, KeyedList.findIndex VimModel.name t.vims name = some i →
      t.routers[i]? = some r → ∀ v ∈ t.vims, r.name ∉ v.routers
  | _ => True

theorem mem_addName (h : x ∈ addName name names) : x ∈ names ∨ x = name := by
  unfold addName at h
  split at h
  · exact .inl h
  · exact (List.mem_append.1 h).imp_right List.mem_singleton.1

theorem mem_addNames {added names : List String} (h : x ∈ addNames added names) : x ∈ names ∨ x ∈ added := by
  induction added generalizing names with
  | nil => exact .inl h
  | cons a added ih =>
    rcases ih h with h | h
    · rcases mem_addName h with h | rfl
      · exact .inl h
      · exact .inr List.mem_cons_self
    · exact .inr (List.mem_cons_of_mem a h)

theorem mem_eraseNames {erased names : List String} (h : x ∈ eraseNames erased names) : x ∈ names := by
  induction erased generalizing names with
  | nil => exact h
  | cons a erased ih => exact List.mem_of_mem_erase (ih h)

theorem mem_removeRouters (h : removeRouters networks routers removed = some left) (hx : x ∈ left) :
    x ∈ routers := by
  induction removed generalizing routers with
  | nil =>
    cases h
    exact hx
  | cons r removed ih =>
    unfold removeRouters at h
    split at h
    · cases h
    · have hmem := ih h
      split at hmem
      · exact List.mem_of_mem_erase hmem
      · exact hmem

section Step

variable {t t' : TopologyModel}

theorem TopologyModel.Resolves.of_subset {v v' : VimModel} (h : t.Resolves v)
    (hn : ∀ n ∈ v'.networks, n ∈ v.networks) (hr : ∀ r ∈ v'.routers, r ∈ v.routers) : t.Resolves v' :=
  ⟨fun n hmem => h.1 n (hn n hmem), fun r hmem => h.2 r (hr r hmem)⟩

/-- Only the networks and the routers matter to what a VIM lists. -/
theorem TopologyModel.Resolves.congr (h : t.Resolves v) (hn : t'.networks = t.networks)
    (hr : t'.routers = t.routers) : t'.Resolves v := by
  unfold TopologyModel.Resolves TopologyModel.HasNetwork TopologyModel.HasRouter at *
  rw [hn, hr]
  exact h

theorem hasNetwork_append (n : NetworkModel) (h : t.HasNetwork name) :
    TopologyModel.HasNetwork { t with networks := t.networks ++ [n] } name := by
  obtain ⟨a, ha, hname⟩ := KeyedList.toMap_isSome.1 h
  exact KeyedList.toMap_isSome.2 ⟨a, List.mem_append_left _ ha, hname⟩

theorem hasNetwork_erase (h : t.HasNetwork name) (hne : removed ≠ name) :
    TopologyModel.HasNetwork
      { t with networks := KeyedList.erase NetworkModel.name t.networks removed } name := by
  unfold TopologyModel.HasNetwork
  rw [KeyedList.toMap_erase_of_ne hne]
  exact h

theorem hasNetwork_set (hn : t.networks[i]? = some n) (hname : n'.name = n.name) (h : t.HasNetwork name) :
    TopologyModel.HasNetwork { t with networks := t.networks.set i n' } name := by
  have hmap := KeyedList.toMap_set_map (f := NetworkModel.name) (k := name) hn
    (show NetworkModel.name n' = NetworkModel.name n from hname) hname
  unfold TopologyModel.HasNetwork at h ⊢
  rw [← Option.isSome_map (f := NetworkModel.name)] at h ⊢
  rw [hmap]
  exact h

/-- Under unique names, the network is gone from every VIM once it is taken off as often as it
was listed. -/
theorem dropNet_unlisted (hu : KeyedList.Unique VimModel.name t.vims) {names : List String}
    (h : ∀ v ∈ t.vims, v.networks.count net ≤ names.count v.name)
    (hv : v ∈ (names.foldl (TopologyModel.dropNet net) t).vims) : net ∉ v.networks := by
  have hu' : KeyedList.Unique VimModel.name (names.foldl (TopologyModel.dropNet net) t).vims :=
    TopologyModel.foldl_editVim_unique _ names hu
  have hafter : (names.foldl (TopologyModel.dropNet net) t).listed net v.name = v.networks.count net := by
    unfold TopologyModel.listed
    rw [hu'.toMap_mem hv]
  have hbefore : t.listed net v.name ≤ names.count v.name := by
    unfold TopologyModel.listed
    cases hm : KeyedList.toMap VimModel.name t.vims v.name with
    | none => exact Nat.zero_le _
    | some w =>
      have hw := h w (KeyedList.toMap_some_mem hm)
      rw [KeyedList.toMap_some_key hm] at hw
      exact hw
  have hlisted := TopologyModel.listed_foldl net names t v.name
  exact List.count_eq_zero.1 (by omega)

/-- What an admissible operation that returns keeps. -/
theorem TopologyOp.Effect.closed {op : TopologyOp} (h : op.Effect t t') (hop : op.Admissible t)
    (hu : KeyedList.Unique VimModel.name t.vims) (hc : t.Closed) : t'.Closed := by
  cases h with
  | @addVim v hnone =>
    intro v' hv'
    rcases List.mem_append.1 hv' with hv' | hv'
    · exact hc v' hv'
    · rw [List.mem_singleton.1 hv']
      exact hop
  | delVim hhas =>
    intro v' hv'
    refine hc v' ?_
    change v' ∈ KeyedList.erase _ _ _ at hv'
    unfold KeyedList.erase at hv'
    split at hv'
    · exact (List.eraseIdx_sublist _ _).subset hv'
    · exact hv'
  | updateVimAbsent => exact hc
  | @updateVim i v routers msg hat hname hnets hfound hleft =>
    intro v' hv'
    rcases List.mem_or_eq_of_mem_set hv' with hv' | rfl
    · exact hc v' hv'
    · have hold := hc v (List.mem_of_getElem? hat.getElem?)
      refine ⟨fun n hn => ?_, fun r hr => ?_⟩
      · rcases mem_addNames (mem_eraseNames (show n ∈ msg.networksAfter v from hn)) with hn | hn
        · exact hold.1 n hn
        · exact hnets n hn
      · rcases mem_addNames (mem_removeRouters hleft (show r ∈ routers from hr)) with hr | hr
        · exact hold.2 r hr
        · rw [hfound] at hr
          exact hop r hr
  | @addNetwork names n hnone hvims =>
    have hhas : TopologyModel.HasNetwork { t with networks := t.networks ++ [n] } n.name :=
      KeyedList.toMap_isSome.2 ⟨n, List.mem_append_right _ List.mem_cons_self, rfl⟩
    intro v hv
    refine TopologyModel.Resolves.congr (t := { t with networks := t.networks ++ [n] }) ?_
      (TopologyModel.foldl_editVim_networks _ _ _) (TopologyModel.foldl_editVim_routers _ _ _)
    have hstart : ∀ v ∈ t.vims, TopologyModel.Resolves { t with networks := t.networks ++ [n] } v :=
      fun v hv => ⟨fun m hm => hasNetwork_append n ((hc v hv).1 m hm), (hc v hv).2⟩
    have hlist : ∀ v, TopologyModel.Resolves { t with networks := t.networks ++ [n] } v →
        TopologyModel.Resolves { t with networks := t.networks ++ [n] }
          (v.setNetworks (addName n.name v.networks)) := by
      refine fun v hv => ⟨fun m hm => ?_, hv.2⟩
      rcases mem_addName hm with hm | rfl
      · exact hv.1 m hm
      · exact hhas
    exact TopologyModel.foldl_editVim_forall (t := { t with networks := t.networks ++ [n] }) hlist
      (names.getD []) hstart v hv
  | @delNetwork names n hhas hvims =>
    intro v hv
    have hgone := dropNet_unlisted hu hop hv
    have hkept := TopologyModel.foldl_editVim_forall (P := t.Resolves)
      (f := fun v => v.setNetworks (v.networks.erase n.name))
      (fun v hv => hv.of_subset (fun m hm => List.mem_of_mem_erase hm) (fun r hr => hr))
      (names.getD []) hc v hv
    refine ⟨fun m hm => ?_, fun r hr => ?_⟩
    · exact hasNetwork_erase (hkept.1 m hm) (fun he => hgone (by rw [he]; exact hm))
    · have hr' := hkept.2 r hr
      unfold TopologyModel.HasRouter at hr' ⊢
      change (KeyedList.toMap RouterModel.name
        ((names.getD []).foldl (TopologyModel.dropNet n.name) t).routers r).isSome
      rw [TopologyModel.dropNet, TopologyModel.foldl_editVim_routers]
      exact hr'
  | delNetworkByName hhas =>
    intro v hv
    exact ⟨fun m hm => hasNetwork_erase ((hc v hv).1 m hm) (fun he => hop v hv (by rw [he]; exact hm)),
      (hc v hv).2⟩
  | @addRouter r hnone =>
    intro v hv
    refine ⟨(hc v hv).1, fun m hm => ?_⟩
    obtain ⟨a, ha, hname⟩ := KeyedList.toMap_isSome.1 ((hc v hv).2 m hm)
    exact KeyedList.toMap_isSome.2 ⟨a, List.mem_append_left _ ha, hname⟩
  | @delRouter name i r names hpos hr hvims =>
    intro v hv
    have hunlisted := hop i r hpos hr
    have hkept := TopologyModel.foldl_editVim_forall
      (P := fun v => t.Resolves v ∧ r.name ∉ v.routers)
      (f := fun v => v.setRouters (if r.name ∈ v.networks then v.routers.erase r.name else v.routers))
      (fun v hv => by
        have hsub : ∀ m ∈ (if r.name ∈ v.networks then v.routers.erase r.name else v.routers),
            m ∈ v.routers := by
          intro m hm
          split at hm
          · exact List.mem_of_mem_erase hm
          · exact hm
        exact ⟨hv.1.of_subset (fun n hn => hn) hsub, fun hm => hv.2 (hsub _ hm)⟩)
      (t := { t with routers := t.routers.eraseIdx i }) (names.getD [])
      (fun v hv => ⟨hc v hv, hunlisted v hv⟩) v hv
    refine TopologyModel.Resolves.congr (t := { t with routers := t.routers.eraseIdx i }) ?_
      (TopologyModel.foldl_editVim_networks _ _ _) (TopologyModel.foldl_editVim_routers _ _ _)
    refine ⟨hkept.1.1, fun m hm => ?_⟩
    unfold TopologyModel.HasRouter
    rw [KeyedList.toMap_eraseIdx_of_ne hr (fun he => hkept.2 (by rw [he]; exact hm))]
    exact hkept.1.2 m hm
  | reserveRange hpos hn hrange =>
    intro v hv
    exact ⟨fun m hm => hasNetwork_set hn rfl ((hc v hv).1 m hm), (hc v hv).2⟩
  | releaseNone => exact hc
  | releaseRanges hn r =>
    intro v hv
    exact ⟨fun m hm => hasNetwork_set hn rfl ((hc v hv).1 m hm), (hc v hv).2⟩
  | addPduPresent => exact hc
  | addPdu => exact hc
  | updPdu => exact hc
  | delPdu => exact hc
  | addK8s => exact hc
  | delK8s => exact hc
  | updateK8s => exact hc
  | addProm => exact hc
  | delProm => exact hc
  | updateProm => exact hc

theorem TopologyOp.Effect.uniqueVims {op : TopologyOp} (h : op.Effect t t')
    (hu : KeyedList.Unique VimModel.name t.vims) : KeyedList.Unique VimModel.name t'.vims := by
  cases h with
  | addVim hnone => exact hu.append hnone
  | delVim => exact hu.erase _
  | @updateVim i v routers msg hat hname =>
    have hpos : KeyedList.findIndex VimModel.name t.vims (msg.updated v routers).name = some i := hat.position
    exact hu.set hpos
  | addNetwork => exact TopologyModel.foldl_editVim_unique _ _ hu
  | delNetwork => exact TopologyModel.foldl_editVim_unique _ _ hu
  | delRouter => exact TopologyModel.foldl_editVim_unique _ _ hu
  | _ => exact hu

end Step

section Create

variable {services : Services}

theorem forM_addVim_ok {vims : List VimModel} {t : TopologyModel} {d : Option TopologyModel}
    (hu : KeyedList.Unique VimModel.name t.vims)
    (h : (forM vims (Topology.addVim services)).run ⟨some t, d⟩ = .ok u s) :
    ∃ d', s = ⟨some { t with vims := t.vims ++ vims }, d'⟩ ∧
      KeyedList.Unique VimModel.name (t.vims ++ vims) := by
  induction vims generalizing t d with
  | nil =>
    cases h
    refine ⟨d, by rw [List.append_nil], ?_⟩
    rw [List.append_nil]
    exact hu
  | cons v vims ih =>
    rw [List.forM_cons] at h
    obtain ⟨_, s₁, h₁, h₂⟩ := bind_ok_inv h
    obtain ⟨b, t₁, hm, rfl⟩ := Topology.commit_ok h₁
    obtain ⟨hnone, rfl⟩ := Collection.add_ok hm
    obtain ⟨d', hs, hu'⟩ := ih (t := { t with vims := t.vims ++ [v] }) (hu.append hnone) h₂
    refine ⟨d', ?_, ?_⟩
    · rw [hs]
      simp only [List.append_assoc, List.cons_append, List.nil_append]
    · simpa only [List.append_assoc, List.cons_append, List.nil_append] using hu'

/-- `create` saves the topology it is given; its VIMs have different names. -/
theorem create_ok {topo : TopologyModel}
    (h : (Topology.create services topo).run ⟨none, d⟩ = .ok u s) :
    s = Topology.fromDb (some topo) ∧ KeyedList.Unique VimModel.name topo.vims := by
  have hrun : (do
      forM topo.vims (Topology.addVim services)
      Topology.saveTopologyFromModel
      Topology.triggerRedisEvent services .create).run ⟨some { topo with vims := [] }, d⟩ = .ok u s := h
  obtain ⟨_, s₁, h₁, h₂⟩ := bind_ok_inv hrun
  obtain ⟨d', rfl, hu⟩ := forM_addVim_ok (t := { topo with vims := [] }) List.nodup_nil h₁
  exact ⟨Topology.save_trigger_ok h₂, hu⟩

end Create

/-- The topologies a run starts from: an empty one, or one just created whose VIMs list only
its own networks and routers. -/
def CreatedClosed (s : Topology) : Prop :=
  s = Topology.fromDb (some {}) ∨
    ∃ services topo, topo.Closed ∧ (Topology.create services topo).run ⟨none, none⟩ = .ok () s

/-- A call of an operation returns. -/
def TopologyOp.Returns (services : Services) (op : TopologyOp) (s : Topology) : Prop :=
  ¬ Raised ((op.exec services).run s)

instance (services : Services) (op : TopologyOp) (s : Topology) : Decidable (op.Returns services s) :=
  inferInstanceAs (Decidable (¬ _))

/-- After every run of admissible operations that return, names listed by VIMs resolve. -/
theorem topology_references_resolve (s : Topology) (hs : CreatedClosed s)
    (calls : List (Services × TopologyOp))
    (hcalls : AllSteps (fun c => c.2.exec c.1)
      (fun c s => c.2.Returns c.1 s ∧ ∀ t, s.model = some t → c.2.Admissible t) s calls) :
    ∃ t, runAll (fun c => c.2.exec c.1) s calls = Topology.fromDb (some t) ∧ t.Closed := by
  have hstart : ∃ t, s = Topology.fromDb (some t) ∧ t.Closed ∧ KeyedList.Unique VimModel.name t.vims := by
    rcases hs with rfl | ⟨services, topo, hclosed, hcreate⟩
    · exact ⟨{}, rfl, (fun v hv => by cases hv), List.nodup_nil⟩
    · obtain ⟨hs, hu⟩ := create_ok hcreate
      exact ⟨topo, hs, hclosed, hu⟩
  have hrun := runAll_invariant (fun c : Services × TopologyOp => c.2.exec c.1)
    (I := fun s => ∃ t, s = Topology.fromDb (some t) ∧ t.Closed ∧ KeyedList.Unique VimModel.name t.vims)
    (by
      rintro ⟨services, op⟩ s ⟨hreturns, hop⟩ ⟨t, rfl, hclosed, hu⟩
      cases hres : (op.exec services).run (Topology.fromDb (some t)) with
      | error e s' =>
        refine (hreturns ?_).elim
        change Raised ((op.exec services).run (Topology.fromDb (some t)))
        rw [hres]
        trivial
      | ok u s' =>
        obtain ⟨t', heffect, rfl⟩ := op.exec_effect services t hres
        exact ⟨t', rfl, heffect.closed (hop t rfl) hu hclosed, heffect.uniqueVims hu⟩)
    calls hcalls hstart
  obtain ⟨t, hfinal, hclosed, _⟩ := hrun
  exact ⟨t, hfinal, hclosed⟩

def lanNetwork : NetworkModel where
  name := "lan"
  type := .vlan
  cidr := .lan

theorem topology_references_resolve_lan :
    ∃ t, runAll (fun c : Services × TopologyOp => c.2.exec c.1) (Topology.fromDb (some {}))
        [({}, .addNetworkModel lanNetwork none),
         ({}, .addVim { name := "v", vimUrl := "", networks := ["lan"] }),
         ({}, .delNetwork lanNetwork (some ["v"]))] = Topology.fromDb (some t) ∧ t.Closed :=
  topology_references_resolve _ (.inl rfl) _
    ⟨⟨by decide +kernel, fun _ _ => trivial⟩,
     ⟨by decide +kernel, fun t ht => by
        obtain rfl := Option.some.inj ht
        exact ⟨by decide, by decide⟩⟩,
     ⟨by decide +kernel, fun t ht => by
        obtain rfl := Option.some.inj ht
        intro v hv
        obtain rfl := List.mem_singleton.1 hv
        decide⟩,
     trivial⟩

/-- Deleting a network by name leaves it in the lists of the VIMs. -/
theorem topology_references_resolve_fails :
    ¬ ∀ (s : Topology), (s = Topology.fromDb (some {}) ∨
        ∃ services topo, (Topology.create services topo).run ⟨none, none⟩ = .ok () s) →
      ∀ calls : List (Services × TopologyOp),
        AllSteps (fun c => c.2.exec c.1) (fun c s => c.2.Returns c.1 s) s calls →
        ∃ t, runAll (fun c => c.2.exec c.1) s calls = Topology.fromDb (some t) ∧ t.Closed := by
  intro h
  obtain ⟨t, hrun, hclosed⟩ := h (Topology.fromDb (some {})) (.inl rfl)
    [({}, .addNetworkModel lanNetwork none),
     ({}, .addVim { name := "v", vimUrl := "", networks := ["lan"] }),
     ({}, .delNetworkByName "lan")]
    ⟨by decide +kernel, by decide +kernel, by decide +kernel, trivial⟩
  have hfinal : runAll (fun c : Services × TopologyOp => c.2.exec c.1) (Topology.fromDb (some {}))
      [({}, .addNetworkModel lanNetwork none),
       ({}, .addVim { name := "v", vimUrl := "", networks := ["lan"] }),
       ({}, .delNetworkByName "lan")] =
      Topology.fromDb (some { vims := [{ name := "v", vimUrl := "", networks := ["lan"] }] }) := by
    decide +kernel
  rw [hfinal] at hrun
  cases hrun
  exact absurd hclosed (by decide)

end Nfvcl
