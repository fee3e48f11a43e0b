import Mathlib.Data.List.Basic
import Nfvcl.CorePdu

namespace Nfvcl
set_option autoImplicit true
open Effects KeyedList

namespace AthonetCore

/-! ### The operations -/

/-- The loops over the edge areas leave the configuration as it is. -/
theorem updateAreas_maintains (config : Option Create5gModel) (provider : EdgeProvider) :
    Maintains (Generic5G.At config) (updateAreas provider) := by
  unfold updateAreas
  apply (Generic5G.onConfig_maintains "areas" (fun c => .ok c.areas)).bind
  intro areas
  refine Maintains.bind ?_ (fun _ => ?_)
  · exact Maintains.forM (fun area _ => Generic5G.deployOrRefresh_maintains provider area)
  · apply Maintains.get.bind
    intro t
    exact Maintains.forM (fun areaId _ => Generic5G.deleteArea_maintains provider areaId)

/-- The configuration is the given one, the core is held, and `find_pdu` has found nothing else. -/
structure Anchored (blueprintId : String) (core : PduModel) (c : Create5gModel) (s : Generic5GState (AthonetState ω)) : Prop where
  config : s.currentConfig = some c
  holds : HoldsCore blueprintId core s.rest.ran
  lookups : ∀ found ∈ s.rest.lookups, found = .ok core

/-- The first area, if there is one, is that of the core. -/
def Heads (core : PduModel) (c : Create5gModel) : Prop :=
  ∀ areaId ∈ c.areaIds.head?, areaId = core.area

section Operations

variable {ω : Type} {provider : AthonetProvider ω} {blueprintId : String} {core : PduModel} {c : Create5gModel}
  {s : Generic5GState (AthonetState ω)}

theorem Anchored.ran (h : Anchored blueprintId core c s) : RanHolds blueprintId core c (ranPart s) :=
  ⟨h.config, h.holds.document, h.holds.owner, h.holds.locked, h.holds.others⟩

theorem Anchored.setRan (h : Anchored blueprintId core c s) {t : Generic5GState RanState} (ht : RanHolds blueprintId core c t) :
    Anchored blueprintId core c (setRan t s) :=
  ⟨ht.config, ht.holds, h.lookups⟩

theorem onRan_anchored {m : Generic5G.RanM α} (hm : Maintains (RanHolds blueprintId core c) m) :
    Maintains (Anchored blueprintId core c) (onRan m : AthonetM ω α) :=
  hm.zoom (fun _ hs => hs.ran) (fun _ _ hs ht => hs.setRan ht)

theorem coreCall_anchored (k : CoreCall ω) : Maintains (Anchored blueprintId core c) (coreCall provider k) := by
  intro s h
  unfold Meets EStateM.run coreCall
  cases provider.raises k s.rest.ran.calls with
  | none => exact ⟨h.config, ⟨h.holds.document, h.holds.owner, h.holds.locked, h.holds.others⟩, h.lookups⟩
  | some e => exact ⟨h.config, ⟨h.holds.document, h.holds.owner, h.holds.locked, h.holds.others⟩, h.lookups⟩

theorem firstArea_meets (hconfig : s.currentConfig = some c) :
    Meets firstArea s (fun areaId s' => c.areaIds.head? = some areaId ∧ s' = s) (fun _ s' => s' = s) := by
  obtain ⟨config, r⟩ := s
  obtain rfl : config = some c := hconfig
  unfold firstArea Create5gModel.areaIds Meets
  rw [Generic5G.onConfig_run]
  cases hareas : c.areas with
  | nil =>
    simp only [EStateM.run_bind, EStateM.run_get, hareas]
    exact rfl
  | cons area areas =>
    simp only [EStateM.run_bind, EStateM.run_get, hareas]
    exact ⟨rfl, rfl⟩

theorem Anchored.findPdu (h : Anchored blueprintId core c s) :
    PDUProvider.findPdu s.rest.ran.document core.area .core5g (some "AthonetCore") none = .ok core := by
  obtain ⟨t, ht, -, hcore⟩ := h.holds.document
  rw [ht]
  exact findPdu_core_iff.2 hcore

/-- The look-ups of the operations find the core, unless there is no area. -/
theorem corePdu_anchored (hheads : Heads core c) (h : Anchored blueprintId core c s) :
    Meets (corePdu provider) s (fun _ s' => c.areas ≠ [] ∧ Anchored blueprintId core c s') (fun _ => Anchored blueprintId core c) := by
  unfold corePdu
  rw [meets_bind]
  apply (firstArea_meets h.config).mono
  · rintro areaId s₁ ⟨hfirst, rfl⟩
    obtain rfl := hheads areaId hfirst
    have hne : c.areas ≠ [] := by
      intro hnil
      rw [Create5gModel.areaIds, hnil] at hfirst
      cases hfirst
    rw [meets_bind, meets_get, meets_bind, meets_modify, h.findPdu, meets_bind]
    have hlogged : Anchored blueprintId core c
        { s₁ with rest := { s₁.rest with lookups := s₁.rest.lookups ++ [.ok core] } } := by
      refine ⟨h.config, h.holds, ?_⟩
      intro found hfound
      rcases List.mem_append.1 hfound with hold | hnew
      · exact h.lookups found hold
      · exact List.mem_singleton.1 hnew
    apply (Generic5G.lift_meets (.ok core) _).mono
    · rintro pdu s₂ ⟨-, rfl⟩
      rw [meets_bind]
      apply (onRan_anchored (getPduConfigurator_holds pdu) _ hlogged).mono
      · exact fun _ _ h₃ => ⟨hne, h₃⟩
      · exact fun _ _ h₃ => h₃
    · rintro e s₂ ⟨-, rfl⟩
      exact hlogged
  · rintro _ s₁ rfl
    exact h

theorem corePdu_maintains (hheads : Heads core c) : Maintains (Anchored blueprintId core c) (corePdu provider) :=
  fun _ h => (corePdu_anchored hheads h).mono (fun _ _ h' => h'.2) (fun _ _ h' => h')

theorem configure_anchored : Maintains (Anchored blueprintId core c) (configure provider) := by
  unfold configure
  apply (Generic5G.onConfig_maintains "config" .ok).bind
  intro c
  exact (coreCall_anchored _).bind (fun _ => Maintains.pure _)

/-- A hook that looks for the core returns in a configuration with areas only. -/
def Returns (blueprintId : String) (core : PduModel) (c : Create5gModel) (m : AthonetM ω α) : Prop :=
  ∀ s, Anchored blueprintId core c s →
    Meets m s (fun _ s' => c.areas ≠ [] ∧ Anchored blueprintId core c s') (fun _ => Anchored blueprintId core c)

theorem Returns.bind {m : AthonetM ω α} {f : α → AthonetM ω β} (hm : Returns blueprintId core c m)
    (hf : ∀ a, Maintains (Anchored blueprintId core c) (f a)) : Returns blueprintId core c (m >>= f) := by
  intro s h
  apply (hm s h).bind
  rintro a s₁ ⟨hne, h₁⟩
  exact (hf a s₁ h₁).mono (fun _ _ h₂ => ⟨hne, h₂⟩) (fun _ _ h₂ => h₂)

theorem Returns.after {m : AthonetM ω α} {f : α → AthonetM ω β} (hm : Maintains (Anchored blueprintId core c) m)
    (hf : ∀ a, Returns blueprintId core c (f a)) : Returns blueprintId core c (m >>= f) :=
  fun s h => (hm s h).bind (fun a s₁ h₁ => hf a s₁ h₁)

theorem Returns.maintains {m : AthonetM ω α} (hm : Returns blueprintId core c m) : Maintains (Anchored blueprintId core c) m :=
  fun s h => (hm s h).mono (fun _ _ h' => h'.2) (fun _ _ h' => h')

theorem updateCore_returns (hheads : Heads core c) : Returns blueprintId core c (updateCore provider) := by
  unfold updateCore
  exact Returns.bind (fun _ h => corePdu_anchored hheads h) (fun _ => configure_anchored)

theorem getAmfIp_anchored (hheads : Heads core c) : Maintains (Anchored blueprintId core c) (getAmfIp provider) := by
  unfold getAmfIp
  apply (corePdu_maintains hheads).bind
  intro _
  exact (coreCall_anchored _).bind (fun _ => Maintains.pure _)

theorem updateEdgeAreas_anchored : Maintains (Anchored blueprintId core c) (updateEdgeAreas provider) := by
  unfold updateEdgeAreas
  refine Maintains.bind (Maintains.modify ?_) (fun _ => ?_)
  · exact fun s h => ⟨h.config, h.holds.lockUpfs _, h.lookups⟩
  · apply (updateAreas_maintains (some c) provider.edge).zoom
    · exact fun s h => h.config
    · exact fun s t h ht => ⟨ht, h.holds, h.lookups⟩

theorem gnbRequest_anchored (hheads : Heads core c) (pdu : PduModel) : Maintains (Anchored blueprintId core c) (gnbRequest provider pdu) := by
  unfold gnbRequest
  apply (onRan_anchored (getPduConfigurator_holds pdu)).bind
  intro _
  apply (Generic5G.onConfig_maintains "areas" _).bind
  intro slices
  apply (Generic5G.onConfig_maintains "config" (fun c => .ok c.config.plmn)).bind
  intro plmn
  apply (getAmfIp_anchored hheads).bind
  intro amfIp
  apply Maintains.get.bind
  intro s
  apply (Generic5G.liftExcept_maintains _).bind
  intro upfIp
  apply (Generic5G.liftExcept_maintains _).bind
  exact fun routes => Maintains.pure _

theorem configureGnb_anchored (hheads : Heads core c) (pdu : PduModel) (hname : pdu.name ≠ core.name) :
    Maintains (Anchored blueprintId core c) (configureGnb provider pdu) := by
  unfold configureGnb
  apply (gnbRequest_anchored hheads pdu).bind
  intro request
  apply onRan_anchored
  apply Maintains.bind (Maintains.modify ?_)
  · intro _
    apply (ranCall_holds _).bind
    exact fun _ => recordPdu_holds pdu hname
  · exact fun s h => ⟨h.config, h.holds.document, h.holds.owner, h.holds.locked, h.holds.others⟩

theorem updateGnbConfig_anchored (hheads : Heads core c) : Maintains (Anchored blueprintId core c) (updateGnbConfig provider) := by
  unfold updateGnbConfig
  refine Maintains.bind_of (P := fun pdus => ∀ pdu ∈ pdus, pdu.name ≠ core.name) ?_ ?_
  · intro s h
    unfold onRan
    rw [meets_zoom]
    apply (getGnbPdus_holds h.ran).mono
    · exact fun pdus t ht => ⟨ht.1, h.setRan ht.2⟩
    · exact fun _ t ht => h.setRan ht
  · intro pdus hnames
    refine Maintains.bind (Maintains.forM ?_) (fun _ => onRan_anchored releaseRanAreas_holds)
    exact fun pdu hpdu => configureGnb_anchored hheads pdu (hnames pdu hpdu)

theorem changeArea_returns (hheads : Heads core c) : Returns blueprintId core c (changeArea provider) := by
  unfold changeArea
  apply Returns.after updateEdgeAreas_anchored
  intro _
  apply Returns.after (updateGnbConfig_anchored hheads)
  exact fun _ => updateCore_returns hheads

theorem changeSlice_returns (hheads : Heads core c) : Returns blueprintId core c (changeSlice provider) := by
  unfold changeSlice
  apply (changeArea_returns hheads).bind
  intro _
  exact (corePdu_maintains hheads).bind (fun _ => configure_anchored)

theorem changeDnn_returns (hheads : Heads core c) : Returns blueprintId core c (changeDnn provider) := by
  unfold changeDnn
  apply (updateCore_returns hheads).bind
  intro _
  apply (corePdu_maintains hheads).bind
  intro _
  exact configure_anchored.bind (fun _ => updateEdgeAreas_anchored)

theorem addUes_returns (hheads : Heads core c) (m : SubSubscribers) : Returns blueprintId core c (addUes provider m) := by
  unfold addUes
  refine Returns.bind (fun _ h => corePdu_anchored hheads h) (fun _ => ?_)
  apply (Generic5G.onConfig_maintains "config" _).bind
  intro infos
  apply (updateCore_returns hheads).maintains.bind
  intro _
  exact (coreCall_anchored _).bind (fun _ => Maintains.pure _)

theorem delUes_returns (hheads : Heads core c) (imsi : String) : Returns blueprintId core c (delUes provider imsi) := by
  unfold delUes
  refine Returns.bind (fun _ h => corePdu_anchored hheads h) (fun _ => ?_)
  apply (coreCall_anchored _).bind
  exact fun _ => (updateCore_returns hheads).maintains

theorem hook_returns (provider : AthonetProvider ω) (hheads : Heads core c) (op : Day2Op) : Returns blueprintId core c (hook provider op) := by
  cases op with
  | addUes m => exact addUes_returns hheads m
  | delUes imsi => exact delUes_returns hheads imsi
  | addDnn m => exact changeDnn_returns hheads
  | delDnn dnn => exact changeDnn_returns hheads
  | addSliceOss m => exact changeSlice_returns hheads
  | addSliceOperator m => exact changeSlice_returns hheads
  | delSlice sliceId => exact changeSlice_returns hheads
  | addTac m => exact changeArea_returns hheads
  | delTac areaId => exact changeArea_returns hheads

end Operations

/-! ### Creation -/

/-- Before the core is locked: nothing is recorded, and the names of the PDUs are distinct. -/
structure Ready (blueprintId : String) (c : Create5gModel) (s : Generic5GState RanState) : Prop where
  config : s.currentConfig = some c
  document : ∃ t, s.rest.document = some t ∧ Unique PduModel.name t.pdus
  owner : s.rest.pdus.blueprintId = blueprintId
  ranAreas : s.rest.ranAreas = []

structure Prepared (blueprintId : String) (c : Create5gModel) (s : Generic5GState (AthonetState ω)) : Prop where
  ready : Ready blueprintId c (ranPart s)
  lookups : s.rest.lookups = []

section Creation

variable {ω : Type} {provider : AthonetProvider ω} {blueprintId : String} {c : Create5gModel} {s : Generic5GState (AthonetState ω)}

theorem gnbPdu_ready {provider : RanProvider} (areaId : Int) : Maintains (Ready blueprintId c) (Generic5G.gnbPdu provider areaId) := by
  intro s h
  obtain ⟨t, ht, hunique⟩ := h.document
  unfold Generic5G.gnbPdu
  rw [meets_bind, meets_get, meets_bind, ht]
  apply (Generic5G.lift_meets _ s).mono
  · rintro pdu s' ⟨hfound, rfl⟩
    have hknown := hunique.toMap_mem (findPdu_gnb hfound).1
    have hstored : ∀ pdus changed, pdus.blueprintId = blueprintId → Ready blueprintId c (stored t pdus changed s') :=
      fun pdus changed howner => ⟨h.config, ⟨_, rfl, hunique.replace changed⟩, howner, h.ranAreas⟩
    split
    · exact h
    · apply (lockPdu_stores ht hknown).mono
      · rintro changed s'' ⟨-, rfl⟩
        exact hstored _ changed h.owner
      · rintro _ s'' (rfl | ⟨changed, -, rfl⟩)
        · exact h
        · exact hstored _ changed h.owner
  · rintro _ s' ⟨-, rfl⟩
    exact h

theorem getGnbPdus_ready {provider : RanProvider} : Maintains (Ready blueprintId c) (Generic5G.getGnbPdus provider) := by
  unfold Generic5G.getGnbPdus
  apply (Generic5G.onConfig_maintains "areas" (fun c => .ok (c.areas.map SubArea.id))).bind
  intro ids
  exact Maintains.mapM (fun areaId _ => gnbPdu_ready areaId)

theorem getGnbPdus_prepared : Maintains (Prepared blueprintId c) (onRan (Generic5G.getGnbPdus provider.ran) : AthonetM ω _) :=
  getGnbPdus_ready.zoom (fun _ h => h.ready)
    (fun _ _ h ht => ⟨⟨ht.config, ht.document, ht.owner, ht.ranAreas⟩, h.lookups⟩)

theorem updateEdgeAreas_prepared : Maintains (Prepared blueprintId c) (updateEdgeAreas provider) := by
  unfold updateEdgeAreas
  refine Maintains.bind (Maintains.modify ?_) (fun _ => ?_)
  · intro s h
    obtain ⟨t, ht, hunique⟩ := h.ready.document
    have hdocument : s.rest.ran.document = some t := ht
    refine ⟨⟨h.ready.config, ⟨t.lockUpfs (provider.upfLocks s.rest.ran.calls), ?_, ?_⟩, h.ready.owner, h.ready.ranAreas⟩, h.lookups⟩
    · show s.rest.ran.document.map _ = _
      rw [hdocument]
      rfl
    · unfold KeyedList.Unique
      rw [lockUpfs_names]
      exact hunique
  · apply (updateAreas_maintains (some c) provider.edge).zoom
    · exact fun s h => h.ready.config
    · exact fun s t h ht => ⟨⟨ht, h.ready.document, h.ready.owner, h.ready.ranAreas⟩, h.lookups⟩

theorem provisionCore_anchored {core : PduModel} (createModel : Create5gModel) :
    Maintains (Anchored blueprintId core c) (provisionCore provider createModel) := by
  unfold provisionCore
  apply (coreCall_anchored _).bind
  intro _
  apply (coreCall_anchored _).bind
  intro _
  apply (coreCall_anchored _).bind
  intro n
  refine Maintains.bind (Maintains.modify fun s h => ⟨h.config, h.holds, h.lookups⟩) (fun _ => ?_)
  apply configure_anchored.bind
  intro _
  apply Maintains.forM
  intro subscriber _
  unfold createSubscriber
  apply (Generic5G.onConfig_maintains "config" _).bind
  intro infos
  exact (coreCall_anchored _).bind (fun _ => Maintains.pure _)

theorem findCore_meets (h : Prepared blueprintId c s) :
    Meets findCore s (fun pdu s' => (∃ areaId t, c.areaIds.head? = some areaId ∧ s.rest.ran.document = some t ∧
      Unique PduModel.name t.pdus ∧ t.pdus.filter (PduModel.isCore areaId) = [pdu]) ∧ s' = s) (fun _ _ => True) := by
  obtain ⟨t, ht, hunique⟩ := h.ready.document
  have hdocument : s.rest.ran.document = some t := ht
  unfold findCore
  rw [meets_bind]
  apply (firstArea_meets h.ready.config).mono
  · rintro areaId s₁ ⟨hfirst, rfl⟩
    rw [meets_bind, meets_get]
    apply (Generic5G.lift_meets _ s₁).mono
    · rintro pdu s₂ ⟨hfound, rfl⟩
      rw [hdocument] at hfound
      exact ⟨⟨areaId, t, hfirst, hdocument, hunique, findPdu_core_iff.1 hfound⟩, rfl⟩
    · exact fun _ _ _ => trivial
  · exact fun _ _ _ => trivial

/-- The core found is locked, and is the only one of its area. -/
theorem Prepared.locked {t : TopologyModel} {pdu changed : PduModel} (h : Prepared blueprintId c s)
    (hunique : Unique PduModel.name t.pdus) (hfound : t.pdus.filter (PduModel.isCore areaId) = [pdu])
    (hchanged : changed = { pdu with lockedBy := some blueprintId }) :
    Anchored blueprintId changed c (setRan (stored t { (ranPart s).rest.pdus with
      lockedPdus := (ranPart s).rest.pdus.lockedPdus ++ [changed] } changed (ranPart s)) s) where
  config := h.ready.config
  holds := by
    obtain ⟨hmem, hcore⟩ := isCore_of_filter hfound
    have harea : pdu.area = areaId := by
      simp only [PduModel.isCore, Bool.and_eq_true, decide_eq_true_eq] at hcore
      exact hcore.1
    have hknown : toMap PduModel.name t.pdus changed.name = some pdu := by
      rw [hchanged]
      exact hunique.toMap_mem hmem
    have hkind : PduModel.isCore areaId changed = true := by
      rw [hchanged]
      exact hcore
    constructor
    · refine ⟨_, rfl, hunique.replace changed, ?_⟩
      have hplace : changed.area = areaId := by
        rw [hchanged]
        exact harea
      rw [hplace]
      exact filter_replace_of_pos hknown hkind hfound
    · exact h.ready.owner
    · exact List.mem_append_right _ (List.mem_singleton_self changed)
    · intro info hinfo
      have hnil : (stored t { (ranPart s).rest.pdus with
        lockedPdus := (ranPart s).rest.pdus.lockedPdus ++ [changed] } changed (ranPart s)).rest.ranAreas = [] := h.ready.ranAreas
      have hinfo' : info ∈ (stored t { (ranPart s).rest.pdus with
        lockedPdus := (ranPart s).rest.pdus.lockedPdus ++ [changed] } changed (ranPart s)).rest.ranAreas := hinfo
      rw [hnil] at hinfo'
      cases hinfo'
  lookups := by
    intro found hfound
    have hnil : s.rest.lookups = [] := h.lookups
    have hfound' : found ∈ s.rest.lookups := hfound
    rw [hnil] at hfound'
    cases hfound'

/-- What the creation locks for the core. -/
structure LockedCore (blueprintId : String) (c : Create5gModel) (core : PduModel) : Prop where
  areas : c.areaIds = [core.area]
  kind : PduModel.isCore core.area core = true
  lockedBy : core.lockedBy = some blueprintId

theorem LockedCore.heads {core : PduModel} (h : LockedCore blueprintId c core) : Heads core c := by
  intro areaId hareaId
  rw [h.areas] at hareaId
  exact (Option.some.inj hareaId).symm

theorem createCore_locks (h : Prepared blueprintId c s) (hone : c.areas.length ≤ 1) (createModel : Create5gModel) :
    Meets (createCore provider createModel) s
      (fun _ s' => ∃ core, LockedCore blueprintId c core ∧ Anchored blueprintId core c s') (fun _ _ => True) := by
  unfold createCore
  rw [meets_bind]
  apply (findCore_meets h).mono
  · rintro pdu s₁ ⟨⟨areaId, t, hfirst, hdocument, hunique, hfound⟩, rfl⟩
    obtain ⟨hmem, hkind⟩ := isCore_of_filter hfound
    have harea : pdu.area = areaId := by
      have hkind' := hkind
      simp only [PduModel.isCore, Bool.and_eq_true, decide_eq_true_eq] at hkind'
      exact hkind'.1
    have hareas : c.areaIds = [pdu.area] := by
      rw [harea]
      unfold Create5gModel.areaIds at hfirst ⊢
      cases hc : c.areas with
      | nil =>
        rw [hc] at hfirst
        cases hfirst
      | cons area rest =>
        rw [hc] at hfirst hone
        have hrest : rest = [] := List.eq_nil_of_length_eq_zero (Nat.le_zero.1 (Nat.le_of_succ_le_succ hone))
        rw [hrest]
        exact congrArg (fun id => [id]) (Option.some.inj hfirst)
    rw [meets_bind]
    unfold onRan
    rw [meets_zoom]
    have hdocument' : (ranPart s₁).rest.document = some t := hdocument
    apply (lockPdu_stores hdocument' (hunique.toMap_mem hmem)).mono
    · rintro changed s₂ ⟨hchanged, rfl⟩
      have howner : (ranPart s₁).rest.pdus.blueprintId = blueprintId := h.ready.owner
      rw [howner] at hchanged
      have hanchored := h.locked hunique hfound hchanged
      have hlocked : LockedCore blueprintId c changed := by
        rw [hchanged]
        refine ⟨hareas, ?_, rfl⟩
        rw [← harea] at hkind
        exact hkind
      have hrest : Maintains (Anchored blueprintId changed c) (do
          onRan (Generic5G.getPduConfigurator provider.ran changed)
          if provider.dnnVrf.length < createModel.config.networkEndpoints.dataNets.length then
            throw (.exception s!"Error, maximum number of supported dnn is {provider.dnnVrf.length}")
          else
            provisionCore provider createModel) := by
        apply (onRan_anchored (getPduConfigurator_holds changed)).bind
        exact fun _ => Maintains.ite (Maintains.throw _) (provisionCore_anchored createModel)
      apply (hrest _ hanchored).mono
      · exact fun _ s₃ h₃ => ⟨changed, hlocked, h₃⟩
      · exact fun _ _ _ => trivial
    · exact fun _ _ _ => trivial
  · exact fun _ _ _ => trivial

theorem create5g_locks (h : Prepared blueprintId c s) (createModel : Create5gModel) :
    Meets (create5g provider createModel) s
      (fun _ s' => ∃ core, LockedCore blueprintId c core ∧ Anchored blueprintId core c s') (fun _ _ => True) := by
  obtain ⟨config, r⟩ := s
  obtain rfl : config = some c := h.ready.config
  unfold create5g
  rw [meets_bind]
  apply (GnbUpfs.onConfig_meets "areas" (fun c => .ok c.areas) c r).mono
  · rintro areas s₁ ⟨hareas, rfl⟩
    cases hareas
    split
    · exact trivial
    · rename_i hone
      exact createCore_locks h (Nat.le_of_not_lt hone) createModel
  · exact fun _ _ _ => trivial

theorem create_locks (provider : AthonetProvider ω) (blueprintId : String) (t : TopologyModel) (hnames : Unique PduModel.name t.pdus) (createModel : Create5gModel) :
    Meets (create provider createModel) (initial blueprintId t)
      (fun _ s' => ∃ core, LockedCore blueprintId createModel core ∧ Anchored blueprintId core createModel s') (fun _ _ => True) := by
  unfold create
  rw [meets_bind, meets_modify, meets_bind]
  have hprepared : Prepared blueprintId createModel
      ({ initial blueprintId t with currentConfig := some createModel } : Generic5GState (AthonetState ω)) :=
    ⟨⟨rfl, ⟨t, rfl, hnames⟩, rfl, rfl⟩, rfl⟩
  apply (Generic5G.lift_meets _ _).mono
  · rintro _ s₁ ⟨-, rfl⟩
    rw [meets_bind]
    apply (getGnbPdus_prepared _ hprepared).mono
    · intro _ s₂ h₂
      rw [meets_bind]
      apply (updateEdgeAreas_prepared _ h₂).mono
      · intro _ s₃ h₃
        rw [meets_bind]
        apply (create5g_locks h₃ createModel).mono
        · rintro _ s₄ ⟨core, hcore, h₄⟩
          have hrest : Maintains (Anchored blueprintId core createModel) (do
              updateEdgeAreas provider
              updateGnbConfig provider) :=
            updateEdgeAreas_anchored.bind (fun _ => updateGnbConfig_anchored hcore.heads)
          apply (hrest s₄ h₄).mono
          · exact fun _ s₅ h₅ => ⟨core, hcore, h₅⟩
          · exact fun _ _ _ => trivial
        · exact fun _ _ _ => trivial
      · exact fun _ _ _ => trivial
    · exact fun _ _ _ => trivial
  · exact fun _ _ _ => trivial

end Creation

/-! ### Runs -/

/-- The configuration has one area, that of the locked PDU, which `find_pdu` finds and has always found. -/
structure OnCore (core : PduModel) (s : Generic5GState (AthonetState ω)) : Prop where
  areas : ∃ c, s.currentConfig = some c ∧ c.areaIds = [core.area]
  locked : core ∈ s.rest.ran.pdus.lockedPdus
  owner : core.lockedBy = some s.rest.ran.pdus.blueprintId
  found : findCore.run s = .ok core s
  lookups : ∀ found ∈ s.rest.lookups, found = .ok core

/-- The first of the areas stays the first, as long as there is one. -/
theorem requested_heads (op : Day2Op) (h : c.areaIds = [core.area]) : Heads core (op.requested c) := by
  intro areaId hareaId
  by_cases hadd : ∃ m, op = .addTac m
  · obtain ⟨m, rfl⟩ := hadd
    have hids : ((Day2Op.addTac m).requested c).areaIds = [core.area, m.id] := by
      show (c.areas ++ [m]).map SubArea.id = _
      rw [List.map_append, show c.areas.map SubArea.id = [core.area] from h]
      rfl
    rw [hids] at hareaId
    exact (Option.some.inj hareaId).symm
  · by_cases hdel : ∃ id, op = .delTac id
    · obtain ⟨id, rfl⟩ := hdel
      have hsub : ((Day2Op.delTac id).requested c).areaIds ⊆ [core.area] := by
        rw [← h]
        exact List.map_subset _ (List.filter_subset_self _)
      exact List.mem_singleton.1 (hsub (List.mem_of_mem_head? hareaId))
    · rw [requested_areaIds_of_ne (fun m he => hadd ⟨m, he⟩) (fun id he => hdel ⟨id, he⟩), h] at hareaId
      exact (Option.some.inj hareaId).symm

/-- No operation but `add_tac` leaves other areas, unless it leaves none. -/
theorem requested_areaIds_of_ne_nil {op : Day2Op} {core : PduModel} (h : c.areaIds = [core.area]) (hadd : ∀ m, op ≠ .addTac m)
    (hne : (op.requested c).areas ≠ []) : (op.requested c).areaIds = [core.area] := by
  by_cases hdel : ∃ id, op = .delTac id
  · obtain ⟨id, rfl⟩ := hdel
    obtain ⟨area, harea⟩ := List.map_eq_singleton_iff.1 h
    have hleft : ((Day2Op.delTac id).requested c).areas = [area].filter (fun x => decide (x.id ≠ id)) := by
      show c.areas.filter _ = _
      rw [harea.1]
    unfold Create5gModel.areaIds
    rw [hleft] at hne ⊢
    by_cases hid : area.id = id
    · exact absurd (List.filter_cons_of_neg (by simpa using hid)) hne
    · rw [List.filter_cons_of_pos (by simpa using hid)]
      exact congrArg (fun id => [id]) harea.2
  · rw [requested_areaIds_of_ne hadd (fun id he => hdel ⟨id, he⟩)]
    exact h

/-- What an operation starts from. -/
structure Settled (blueprintId : String) (core : PduModel) (s : Generic5GState (AthonetState ω)) : Prop where
  lockedBy : core.lockedBy = some blueprintId
  anchored : ∃ c, c.areaIds = [core.area] ∧ Anchored blueprintId core c s

theorem firstArea_returns {s : Generic5GState (AthonetState ω)} (hconfig : s.currentConfig = some c) (hareas : c.areaIds = [areaId]) :
    Meets firstArea s (fun id s' => id = areaId ∧ s' = s) (fun _ _ => False) := by
  obtain ⟨config, r⟩ := s
  obtain rfl : config = some c := hconfig
  unfold Create5gModel.areaIds at hareas
  unfold firstArea Meets
  rw [Generic5G.onConfig_run]
  simp only [EStateM.run_bind, EStateM.run_get, hareas]
  exact ⟨rfl, rfl⟩

theorem Settled.onCore {s : Generic5GState (AthonetState ω)} (h : Settled blueprintId core s) : OnCore core s where
  areas := by
    obtain ⟨c, hareas, hanchored⟩ := h.anchored
    exact ⟨c, hanchored.config, hareas⟩
  locked := by
    obtain ⟨c, -, hanchored⟩ := h.anchored
    exact hanchored.holds.locked
  owner := by
    obtain ⟨c, -, hanchored⟩ := h.anchored
    rw [h.lockedBy, hanchored.holds.owner]
  found := by
    obtain ⟨c, hareas, hanchored⟩ := h.anchored
    have hmeets : Meets findCore s (fun pdu s' => pdu = core ∧ s' = s) (fun _ _ => False) := by
      unfold findCore
      rw [meets_bind]
      apply (firstArea_returns hanchored.config hareas).mono
      · rintro areaId s₁ ⟨rfl, rfl⟩
        rw [meets_bind, meets_get, hanchored.findPdu]
        exact ⟨rfl, rfl⟩
      · exact fun _ _ h => h
    unfold Meets at hmeets
    cases hrun : findCore.run s with
    | ok pdu s' =>
      rw [hrun] at hmeets
      rw [hmeets.1, hmeets.2]
    | error e s' =>
      rw [hrun] at hmeets
      exact hmeets.elim
  lookups := by
    obtain ⟨c, -, hanchored⟩ := h.anchored
    exact hanchored.lookups

end AthonetCore

namespace AthonetCall

open AthonetCore

variable {ω : Type} {blueprintId : String} {core : PduModel}

/-- An `add_tac` that succeeds. -/
def AddsArea (call : AthonetCall ω) (s : Generic5GState (AthonetState ω)) : Prop :=
  (∃ m, call.op = .addTac m) ∧ ¬ Raised (call.exec.run s)

/-- After an operation the blueprint is where it was, or it has another area. -/
theorem exec_settled (call : AthonetCall ω) {s : Generic5GState (AthonetState ω)} (h : Settled blueprintId core s) :
    Meets call.exec s
      (fun _ s' => (∀ m, call.op ≠ .addTac m) ∧ Settled blueprintId core s' ∨
        ∃ m c, call.op = .addTac m ∧ s'.currentConfig = some c ∧ c.areaIds = [core.area, m.id])
      (fun _ s' => Settled blueprintId core s') := by
  obtain ⟨config, r⟩ := s
  obtain ⟨c, hareas, hanchored⟩ := h.anchored
  obtain rfl : config = some c := hanchored.config
  have hkept : ∀ c' : Create5gModel, c'.areaIds = [core.area] → Settled blueprintId core ⟨some c', r⟩ :=
    fun c' hc' => ⟨h.lockedBy, c', hc', rfl, hanchored.holds, hanchored.lookups⟩
  have hheads := requested_heads call.op hareas
  have hhook := hook_returns call.provider hheads call.op ⟨some (call.op.requested c), r⟩
    ⟨rfl, hanchored.holds, hanchored.lookups⟩
  unfold Meets exec at *
  rcases call.op.exec_cases c r with ⟨e, he⟩ | ⟨-, he⟩ | ⟨-, sliceId, e, -, he⟩
  · rw [he]
    exact h
  · rw [he, Generic5G.restoring_run]
    cases hrun : (hook call.provider call.op).run ⟨some (call.op.requested c), r⟩ with
    | ok u s' =>
      rw [hrun] at hhook
      obtain ⟨hne, hs'⟩ := hhook
      by_cases hadd : ∃ m, call.op = .addTac m
      · obtain ⟨m, hm⟩ := hadd
        refine .inr ⟨m, _, hm, hs'.config, ?_⟩
        rw [hm]
        show (c.areas ++ [m]).map SubArea.id = _
        rw [List.map_append, show c.areas.map SubArea.id = [core.area] from hareas]
        rfl
      · have hnot : ∀ m, call.op ≠ .addTac m := fun m hm => hadd ⟨m, hm⟩
        refine .inl ⟨hnot, h.lockedBy, _, ?_, hs'⟩
        exact requested_areaIds_of_ne_nil hareas hnot hne
    | error e s' =>
      rw [hrun] at hhook
      exact ⟨h.lockedBy, c, hareas, rfl, hhook.holds, hhook.lookups⟩
  · rw [he]
    apply hkept
    show (areasLeft sliceId c.areas).map SubArea.id = _
    rw [areasLeft_ids]
    exact hareas

theorem AddsArea.not_onCore {call : AthonetCall ω} {s : Generic5GState (AthonetState ω)} (h : Settled blueprintId core s)
    (hadds : call.AddsArea s) : ¬ OnCore core (finalState (call.exec.run s)) := by
  obtain ⟨⟨m, hm⟩, hreturned⟩ := hadds
  have hstep := call.exec_settled h
  unfold Meets at hstep
  cases hrun : call.exec.run s with
  | error e s' =>
    rw [hrun] at hreturned
    exact absurd trivial hreturned
  | ok u s' =>
    rw [hrun] at hstep
    rcases hstep with ⟨hnot, -⟩ | ⟨m', c, -, hconfig, hareas⟩
    · exact absurd hm (hnot m)
    · rintro ⟨⟨c', hconfig', hareas'⟩, -, -, -, -⟩
      obtain rfl : c = c' := Option.some.inj (hconfig.symm.trans hconfig')
      rw [hareas] at hareas'
      cases hareas'

theorem settled_of_not_addsArea {call : AthonetCall ω} {s : Generic5GState (AthonetState ω)} (h : Settled blueprintId core s)
    (hadds : ¬ call.AddsArea s) : Settled blueprintId core (finalState (call.exec.run s)) := by
  have hstep := call.exec_settled h
  unfold Meets at hstep
  unfold AddsArea at hadds
  cases hrun : call.exec.run s with
  | error e s' =>
    rw [hrun] at hstep
    exact hstep
  | ok u s' =>
    rw [hrun] at hstep hadds
    rcases hstep with ⟨-, hs'⟩ | ⟨m, c, hm, -, -⟩
    · exact hs'
    · exact absurd ⟨⟨m, hm⟩, raised_ok u s'⟩ hadds

theorem allSteps_onCore_iff (calls : List (AthonetCall ω)) {s : Generic5GState (AthonetState ω)} (h : Settled blueprintId core s) :
    AllSteps exec (fun call s => OnCore core (finalState (call.exec.run s))) s calls ↔
      AllSteps exec (fun call s => ¬ call.AddsArea s) s calls := by
  induction calls generalizing s with
  | nil => exact Iff.rfl
  | cons call calls ih =>
    constructor
    · rintro ⟨hon, hrest⟩
      have hadds : ¬ call.AddsArea s := fun hadds => hadds.not_onCore h hon
      exact ⟨hadds, (ih (settled_of_not_addsArea h hadds)).1 hrest⟩
    · rintro ⟨hadds, hrest⟩
      have hsettled := settled_of_not_addsArea h hadds
      exact ⟨hsettled.onCore, (ih hsettled).2 hrest⟩

end AthonetCall

namespace AthonetCore

/-- A blueprint that was created has locked the PDU of the core in its only area. It stays there, and
finds that PDU, exactly as long as no `add_tac` succeeds. -/
theorem single_area_iff (ω : Type) (atCreation : AthonetProvider ω) (blueprintId : String) (t : TopologyModel)
    (hnames : Unique PduModel.name t.pdus) (createModel : Create5gModel) (s : Generic5GState (AthonetState ω))
    (hcreate : (create atCreation createModel).run (initial blueprintId t) = .ok () s) (calls : List (AthonetCall ω)) :
    ∃ core, LockedCore blueprintId createModel core ∧
      (OnCore core s ∧ AllSteps AthonetCall.exec (fun call s => OnCore core (finalState (call.exec.run s))) s calls ↔
        AllSteps AthonetCall.exec (fun call s => ¬ call.AddsArea s) s calls) := by
  have hlocks := create_locks atCreation blueprintId t hnames createModel
  unfold Meets at hlocks
  rw [hcreate] at hlocks
  obtain ⟨core, hcore, hanchored⟩ := hlocks
  have hsettled : Settled blueprintId core s := ⟨hcore.lockedBy, createModel, hcore.areas, hanchored⟩
  refine ⟨core, hcore, ?_⟩
  rw [AthonetCall.allSteps_onCore_iff calls hsettled]
  exact and_iff_right hsettled.onCore

/-! ### A campus with an Athonet core -/

def campusAthonet : AthonetProvider Unit where
  edge := campusUpfs
  ran := campusRan
  dnnVrf := [⟨"internet", "vrf1", "10.250.0.0/16", "8.8.8.8"⟩]
  coreConfig := fun _ => ()
  amfIp := fun _ => "10.0.0.9"

/-- The gNBs of both areas, and a core in area 1. -/
def campusPdus : TopologyModel :=
  { campusGnbs with pdus := campusGnbs.pdus ++ [{ name := "core1", area := 1, type := .core5g, instanceType := "AthonetCore" }] }

def campusCore : Generic5GState (AthonetState Unit) :=
  finalState ((create campusAthonet (campusConfig campusOne)).run (initial "athonet" campusPdus))

theorem campusCore_created : (create campusAthonet (campusConfig campusOne)).run (initial "athonet" campusPdus) = .ok () campusCore := by
  have hreturned : ¬ Raised ((create campusAthonet (campusConfig campusOne)).run (initial "athonet" campusPdus)) := by decide +kernel
  exact eq_ok_of_not_raised hreturned

/-- The deletion of the only area raises and is undone. -/
theorem single_area_campus :
    ∃ core, LockedCore "athonet" (campusConfig campusOne) core ∧ OnCore core campusCore ∧
      AllSteps AthonetCall.exec (fun call s => OnCore core (finalState (call.exec.run s))) campusCore [⟨.delTac 1, campusAthonet⟩] := by
  obtain ⟨core, hcore, hiff⟩ := single_area_iff Unit campusAthonet "athonet" campusPdus (by decide) (campusConfig campusOne)
    campusCore campusCore_created [⟨.delTac 1, campusAthonet⟩]
  refine ⟨core, hcore, hiff.2 ⟨?_, trivial⟩⟩
  rintro ⟨⟨m, hm⟩, -⟩
  cases hm

/-- Area 2 is added: only the creation counts the areas. -/
theorem single_area_fails :
    ¬ ∀ (ω : Type) (atCreation : AthonetProvider ω) (blueprintId : String) (t : TopologyModel), Unique PduModel.name t.pdus →
      ∀ (createModel : Create5gModel) (s : Generic5GState (AthonetState ω)),
      (create atCreation createModel).run (initial blueprintId t) = .ok () s → ∀ calls : List (AthonetCall ω),
      ∃ core, LockedCore blueprintId createModel core ∧ OnCore core s ∧
        AllSteps AthonetCall.exec (fun call s => OnCore core (finalState (call.exec.run s))) s calls := by
  intro h
  obtain ⟨core, -, -, hon, -⟩ := h Unit campusAthonet "athonet" campusPdus (by decide) (campusConfig campusOne)
    campusCore campusCore_created [⟨.addTac (campusArea 2 campusSlices), campusAthonet⟩]
  obtain ⟨c, hconfig, hareas⟩ := hon.areas
  have htwo : (finalState ((AthonetCall.exec ⟨.addTac (campusArea 2 campusSlices), campusAthonet⟩).run campusCore)).currentConfig.map
      Create5gModel.areaIds = some [1, 2] := by decide +kernel
  rw [hconfig] at htwo
  have hids : c.areaIds = [1, 2] := Option.some.inj htwo
  rw [hids] at hareas
  exact absurd (congrArg List.length hareas) (show 2 ≠ 1 by decide)

end AthonetCore

end Nfvcl
