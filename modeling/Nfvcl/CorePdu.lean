import Mathlib.Data.List.Basic
import Nfvcl.AthonetCore
import Nfvcl.EdgeFrames
import Nfvcl.GnbUpfs
import Nfvcl.PduLocks

namespace Nfvcl
set_option autoImplicit true
open Effects KeyedList

/-! ### The PDU of the core -/

/-- The PDUs that `find_pdu` looks for in an area. -/
def PduModel.isCore (areaId : Int) (pdu : PduModel) : Bool :=
  decide (pdu.area = areaId) && (decide (pdu.type = .core5g) && decide (pdu.instanceType = "AthonetCore"))

theorem findPdu_core_iff {t : TopologyModel} {areaId : Int} {pdu : PduModel} :
    PDUProvider.findPdu (some t) areaId .core5g (some "AthonetCore") none = .ok pdu ↔ t.pdus.filter (PduModel.isCore areaId) = [pdu] := by
  have hfilter : ((t.pdus.filter (fun x => decide (x.area = areaId))).filter (fun x => decide (x.type = .core5g))).filter
      (fun x => decide (x.instanceType = "AthonetCore")) = t.pdus.filter (PduModel.isCore areaId) := by
    rw [List.filter_filter, List.filter_filter]
    apply List.filter_congr
    intro x _
    unfold PduModel.isCore
    cases decide (x.area = areaId) <;> cases decide (x.type = PduType.core5g) <;> cases decide (x.instanceType = "AthonetCore") <;> rfl
  have hgiven : filterIfGiven PduModel.instanceType (some "AthonetCore") = fun pdus =>
      pdus.filter (fun x => decide (x.instanceType = "AthonetCore")) := rfl
  have hpdus : PDUProvider.getPdus (some t) = .ok t.pdus := rfl
  have hany : ∀ pdus, filterIfGiven PduModel.name none pdus = pdus := fun _ => rfl
  rw [PDUProvider.findPdu, hpdus, except_ok_bind]
  dsimp only
  rw [hany, hgiven]
  dsimp only
  rw [hfilter]
  split
  · rename_i hnil
    rw [hnil]
    constructor
    · intro h
      cases h
    · intro h
      cases h
  · rename_i found hone
    rw [hone]
    constructor
    · intro h
      cases h
      rfl
    · intro h
      cases h
      rfl
  · rename_i hnone hmany
    constructor
    · intro h
      cases h
    · intro h
      exact absurd h (hmany pdu)

/-- The locks of UPF blueprints are on other PDUs. -/
theorem lockUpfs_cores (locks : String → Option String) (t : TopologyModel) (areaId : Int) :
    (t.lockUpfs locks).pdus.filter (PduModel.isCore areaId) = t.pdus.filter (PduModel.isCore areaId) := by
  unfold TopologyModel.lockUpfs
  induction t.pdus with
  | nil => rfl
  | cons pdu pdus ih =>
    rw [List.map_cons]
    by_cases hupf : pdu.instanceType = "AthonetUPF"
    · have hold : PduModel.isCore areaId pdu = false := by
        simp [PduModel.isCore, hupf]
      have hnew : PduModel.isCore areaId { pdu with lockedBy := locks pdu.name } = false := by
        simp [PduModel.isCore, hupf]
      rw [if_pos hupf, List.filter_cons_of_neg (by simp [hnew]), List.filter_cons_of_neg (by simp [hold])]
      exact ih
    · rw [if_neg hupf, List.filter_cons, List.filter_cons]
      rw [ih]

theorem lockUpfs_names (locks : String → Option String) (t : TopologyModel) :
    (t.lockUpfs locks).pdus.map PduModel.name = t.pdus.map PduModel.name := by
  unfold TopologyModel.lockUpfs
  rw [List.map_map]
  apply List.map_congr_left
  intro pdu _
  show (if pdu.instanceType = "AthonetUPF" then _ else _ : PduModel).name = pdu.name
  split <;> rfl

namespace AthonetCore

/-! ### Storing a PDU -/

/-- The state after `upd_pdu`. -/
def stored (t : TopologyModel) (pdus : PDUProvider) (pdu : PduModel) (s : Generic5GState RanState) : Generic5GState RanState :=
  { s with rest := { s.rest with
      pdus := pdus
      document := some { t with pdus := replace PduModel.name t.pdus pdu }
      calls := s.rest.calls + 1 } }

section Stores

variable {provider : RanProvider} {t : TopologyModel} {s : Generic5GState RanState} {pdu : PduModel}

theorem storePdu_ok {marked : EStateM PyError (PDUProvider × PduModel) Unit} (hdocument : s.rest.document = some t)
    (hmarked : marked.run (s.rest.pdus, pdu) = .ok u (pdus, changed)) (hknown : (toMap PduModel.name t.pdus changed.name).isSome) :
    Meets (Generic5G.storePdu provider marked pdu) s (fun pdu' s' => pdu' = changed ∧ s' = stored t pdus changed s)
      (fun _ s' => s' = stored t pdus changed s) := by
  have hstored := updPdu_stored (provider.services s.rest.calls) changed t s.rest.document
    (by rw [TopologyModel.lockOf, Option.isSome_map]; exact hknown)
  have hrun : (Generic5G.storePdu provider marked pdu).run s = Generic5G.storePdu provider marked pdu s := rfl
  unfold Meets
  rw [hrun]
  unfold Generic5G.storePdu
  rw [hmarked]
  dsimp only
  rw [← hdocument] at hstored
  cases hupd : (Topology.updPdu (provider.services s.rest.calls) changed).run ⟨s.rest.document, s.rest.document⟩ with
  | ok v saved =>
    rw [hupd] at hstored
    refine ⟨rfl, ?_⟩
    unfold stored
    rw [← hstored]
    rfl
  | error e saved =>
    rw [hupd] at hstored
    unfold stored
    rw [← hstored]
    rfl

theorem storePdu_error {marked : EStateM PyError (PDUProvider × PduModel) Unit}
    (hmarked : marked.run (s.rest.pdus, pdu) = .error e result) (hkept : result.1 = s.rest.pdus) :
    Meets (Generic5G.storePdu provider marked pdu) s (fun _ _ => False) (fun _ s' => s' = s) := by
  have hrun : (Generic5G.storePdu provider marked pdu).run s = Generic5G.storePdu provider marked pdu s := rfl
  unfold Meets
  rw [hrun]
  unfold Generic5G.storePdu
  rw [hmarked]
  obtain ⟨pdus, changed⟩ := result
  obtain rfl : pdus = s.rest.pdus := hkept
  rfl

/-- `lock_pdu` writes the lock, or refuses. -/
theorem lockPdu_stores (hdocument : s.rest.document = some t) (hpdu : toMap PduModel.name t.pdus pdu.name = some pdu') :
    Meets (Generic5G.lockPdu provider pdu) s
      (fun changed s' => changed = { pdu with lockedBy := some s.rest.pdus.blueprintId } ∧
        s' = stored t { s.rest.pdus with lockedPdus := s.rest.pdus.lockedPdus ++ [changed] } changed s)
      (fun _ s' => s' = s ∨ ∃ changed : PduModel, changed = { pdu with lockedBy := some s.rest.pdus.blueprintId } ∧
        s' = stored t { s.rest.pdus with lockedPdus := s.rest.pdus.lockedPdus ++ [changed] } changed s) := by
  have hrun := PDUProvider.markLocked_run s.rest.pdus pdu
  cases hlock : pdu.lockedBy with
  | none =>
    rw [hlock] at hrun
    apply (storePdu_ok hdocument hrun (by rw [hpdu]; rfl)).mono
    · rintro changed s' ⟨rfl, rfl⟩
      exact ⟨rfl, rfl⟩
    · rintro _ s' rfl
      exact .inr ⟨_, rfl, rfl⟩
  | some owner =>
    rw [hlock] at hrun
    apply (storePdu_error hrun rfl).mono
    · exact fun _ _ h => h.elim
    · exact fun _ _ h => .inl h

/-- `unlock_pdu` writes that the PDU is free, or refuses. -/
theorem unlockPdu_stores (hdocument : s.rest.document = some t) (hpdu : toMap PduModel.name t.pdus pdu.name = some pdu') :
    let after := stored t { s.rest.pdus with
      lockedPdus := s.rest.pdus.lockedPdus.eraseP (fun x => decide (x.name = pdu.name)) } { pdu with lockedBy := none } s
    Meets (Generic5G.unlockPdu provider pdu) s (fun _ s' => s' = after) (fun _ s' => s' = s ∨ s' = after) := by
  cases hrun : PDUProvider.markUnlocked.run (s.rest.pdus, pdu) with
  | ok u result =>
    obtain ⟨-, -, rfl⟩ := PDUProvider.markUnlocked_ok hrun
    apply (storePdu_ok hdocument hrun (by rw [hpdu]; rfl)).mono
    · exact fun _ _ h => h.2
    · exact fun _ _ h => .inr h
  | error e result =>
    apply (storePdu_error hrun (PDUProvider.markUnlocked_error hrun)).mono
    · exact fun _ _ h => h.elim
    · exact fun _ _ h => .inl h

end Stores

/-! ### The core stays locked -/

/-- The topology has one PDU for the core, which the blueprint has locked, and no gNB is recorded under its name. -/
structure HoldsCore (blueprintId : String) (core : PduModel) (r : RanState) : Prop where
  document : ∃ t, r.document = some t ∧ Unique PduModel.name t.pdus ∧ t.pdus.filter (PduModel.isCore core.area) = [core]
  owner : r.pdus.blueprintId = blueprintId
  locked : core ∈ r.pdus.lockedPdus
  others : ∀ info ∈ r.ranAreas, info.pduName ≠ core.name

theorem isCore_of_filter {t : TopologyModel} {core : PduModel} (h : t.pdus.filter (PduModel.isCore areaId) = [core]) :
    core ∈ t.pdus ∧ PduModel.isCore areaId core = true :=
  List.mem_filter.1 (h ▸ List.mem_cons_self)

/-- Another PDU is stored with the place and the type it had. -/
theorem HoldsCore.stored {s : Generic5GState RanState} {pdu : PduModel} {t : TopologyModel}
    (h : HoldsCore blueprintId core s.rest) (pdus : PDUProvider) (changed : PduModel) (hdocument : s.rest.document = some t)
    (hpdu : toMap PduModel.name t.pdus changed.name = some pdu) (hname : changed.name ≠ core.name)
    (hplace : PduModel.isCore core.area changed = PduModel.isCore core.area pdu)
    (howner : pdus.blueprintId = blueprintId) (hlocked : core ∈ pdus.lockedPdus) :
    HoldsCore blueprintId core (stored t pdus changed s).rest where
  document := by
    obtain ⟨t', ht', hunique, hcore⟩ := h.document
    obtain rfl : t' = t := Option.some.inj (ht'.symm.trans hdocument)
    have hother : PduModel.isCore core.area pdu = false := by
      cases hq : PduModel.isCore core.area pdu with
      | false => rfl
      | true =>
        have hmem : pdu ∈ t'.pdus.filter (PduModel.isCore core.area) := List.mem_filter.2 ⟨toMap_some_mem hpdu, hq⟩
        rw [hcore, List.mem_singleton] at hmem
        rw [hmem] at hpdu
        exact absurd (toMap_some_key hpdu).symm hname
    refine ⟨_, rfl, hunique.replace changed, ?_⟩
    rw [filter_replace_of_neg hpdu hother (hplace.trans hother)]
    exact hcore
  owner := howner
  locked := hlocked
  others := h.others

theorem HoldsCore.lockUpfs {r : RanState} (h : HoldsCore blueprintId core r) (locks : String → Option String) :
    HoldsCore blueprintId core { r with document := r.document.map (TopologyModel.lockUpfs locks) } where
  document := by
    obtain ⟨t, ht, hunique, hcore⟩ := h.document
    refine ⟨t.lockUpfs locks, by rw [ht]; rfl, ?_, ?_⟩
    · unfold KeyedList.Unique
      rw [lockUpfs_names]
      exact hunique
    · rw [lockUpfs_cores]
      exact hcore
  owner := h.owner
  locked := h.locked
  others := h.others

/-- The core is held, and the configuration is the given one. -/
structure RanHolds (blueprintId : String) (core : PduModel) (c : Create5gModel) (s : Generic5GState RanState) : Prop where
  config : s.currentConfig = some c
  holds : HoldsCore blueprintId core s.rest

section Ran

variable {provider : RanProvider} {blueprintId : String} {core : PduModel} {c : Create5gModel} {s : Generic5GState RanState}

theorem findPdu_gnb {t : TopologyModel} (h : PDUProvider.findPdu (some t) areaId .gnb none none = .ok pdu) :
    pdu ∈ t.pdus ∧ pdu.type = .gnb := by
  obtain ⟨pdus, hpdus, h⟩ := except_bind_ok.1 h
  cases hpdus
  dsimp only [filterIfGiven] at h
  split at h
  · cases h
  · rename_i found hfound
    cases h
    have hmem : pdu ∈ (t.pdus.filter (fun x => decide (x.area = areaId))).filter (fun x => decide (x.type = .gnb)) :=
      hfound ▸ List.mem_cons_self
    obtain ⟨harea, htype⟩ := List.mem_filter.1 hmem
    exact ⟨(List.mem_filter.1 harea).1, of_decide_eq_true htype⟩
  · cases h

theorem findByName_known {t : TopologyModel} (h : PDUProvider.findByName (some t) name = .ok pdu) :
    pdu ∈ t.pdus ∧ pdu.name = name := by
  obtain ⟨pdus, hpdus, h⟩ := except_bind_ok.1 h
  cases hpdus
  split at h
  · cases h
  · rename_i found rest hfound
    cases h
    have hmem : pdu ∈ t.pdus.filter (fun x => decide (x.name = name)) := hfound ▸ List.mem_cons_self
    obtain ⟨hpdu, hname⟩ := List.mem_filter.1 hmem
    exact ⟨hpdu, of_decide_eq_true hname⟩

/-- A gNB has another name than the core. -/
theorem name_ne_of_gnb {t : TopologyModel} (hunique : Unique PduModel.name t.pdus)
    (hcore : t.pdus.filter (PduModel.isCore core.area) = [core]) (hpdu : pdu ∈ t.pdus) (htype : pdu.type = .gnb) :
    pdu.name ≠ core.name := by
  intro hname
  obtain ⟨hmem, hkind⟩ := isCore_of_filter hcore
  have hsame : pdu = core := by
    have hfirst := hunique.toMap_mem hpdu
    have hsecond := hunique.toMap_mem hmem
    rw [hname] at hfirst
    exact Option.some.inj (hfirst.symm.trans hsecond)
  rw [← hsame] at hkind
  simp [PduModel.isCore, htype] at hkind

theorem gnbPdu_holds (areaId : Int) (h : RanHolds blueprintId core c s) :
    Meets (Generic5G.gnbPdu provider areaId) s (fun pdu s' => pdu.name ≠ core.name ∧ RanHolds blueprintId core c s')
      (fun _ => RanHolds blueprintId core c) := by
  obtain ⟨t, ht, hunique, hcore⟩ := h.holds.document
  unfold Generic5G.gnbPdu
  rw [meets_bind, meets_get, meets_bind, ht]
  apply (Generic5G.lift_meets _ s).mono
  · rintro pdu s' ⟨hfound, rfl⟩
    obtain ⟨hpdu, htype⟩ := findPdu_gnb hfound
    have hname := name_ne_of_gnb hunique hcore hpdu htype
    have hknown := hunique.toMap_mem hpdu
    have hstored : ∀ changed : PduModel, changed = { pdu with lockedBy := some s'.rest.pdus.blueprintId } →
        RanHolds blueprintId core c
          (stored t { s'.rest.pdus with lockedPdus := s'.rest.pdus.lockedPdus ++ [changed] } changed s') := by
      rintro changed rfl
      exact ⟨h.config, h.holds.stored _ _ ht hknown hname rfl h.holds.owner (List.mem_append_left _ h.holds.locked)⟩
    split
    · exact ⟨hname, h⟩
    · apply (lockPdu_stores ht hknown).mono
      · rintro changed s'' ⟨hchanged, rfl⟩
        refine ⟨?_, hstored changed hchanged⟩
        rw [hchanged]
        exact hname
      · rintro _ s'' (rfl | ⟨changed, hchanged, rfl⟩)
        · exact h
        · exact hstored changed hchanged
  · rintro _ s' ⟨-, rfl⟩
    exact h

theorem mapM_gnbPdu_holds (ids : List Int) (h : RanHolds blueprintId core c s) :
    Meets (ids.mapM (Generic5G.gnbPdu provider)) s
      (fun pdus s' => (∀ pdu ∈ pdus, pdu.name ≠ core.name) ∧ RanHolds blueprintId core c s')
      (fun _ => RanHolds blueprintId core c) := by
  induction ids generalizing s with
  | nil => exact ⟨fun _ hpdu => (nomatch hpdu), h⟩
  | cons id ids ih =>
    rw [List.mapM_cons]
    apply (gnbPdu_holds id h).bind
    rintro pdu s₁ ⟨hname, h₁⟩
    apply (ih h₁).bind
    rintro pdus s₂ ⟨hnames, h₂⟩
    exact ⟨List.forall_mem_cons.2 ⟨hname, hnames⟩, h₂⟩

theorem getGnbPdus_holds (h : RanHolds blueprintId core c s) :
    Meets (Generic5G.getGnbPdus provider) s (fun pdus s' => (∀ pdu ∈ pdus, pdu.name ≠ core.name) ∧ RanHolds blueprintId core c s')
      (fun _ => RanHolds blueprintId core c) := by
  unfold Generic5G.getGnbPdus
  apply (Generic5G.onConfig_maintains "areas" (fun c => .ok (c.areas.map SubArea.id)) s h).bind
  exact fun ids s₁ h₁ => mapM_gnbPdu_holds ids h₁

theorem ranCall_holds (k : RanCall) : Maintains (RanHolds blueprintId core c) (Generic5G.ranCall provider k) := by
  intro s h
  unfold Meets EStateM.run Generic5G.ranCall
  cases provider.raises k s.rest.calls with
  | none => exact ⟨h.config, h.holds.document, h.holds.owner, h.holds.locked, h.holds.others⟩
  | some e => exact ⟨h.config, h.holds.document, h.holds.owner, h.holds.locked, h.holds.others⟩

theorem getPduConfigurator_holds (pdu : PduModel) :
    Maintains (RanHolds blueprintId core c) (Generic5G.getPduConfigurator provider pdu) := by
  unfold Generic5G.getPduConfigurator
  apply Maintains.get.bind
  intro s
  apply Maintains.ite
  · exact (ranCall_holds _).bind (fun _ => Maintains.pure _)
  · exact Maintains.throw _

theorem mem_recordRanArea {ranAreas : List RANAreaInfo} (h : x ∈ Generic5G.recordRanArea info ranAreas) : x = info ∨ x ∈ ranAreas := by
  unfold Generic5G.recordRanArea at h
  split at h
  · unfold replace at h
    split at h
    · exact (List.mem_or_eq_of_mem_set h).symm
    · exact .inr h
  · rcases List.mem_append.1 h with hold | hnew
    · exact .inr hold
    · exact .inl (List.mem_singleton.1 hnew)

theorem recordPdu_holds (pdu : PduModel) (hname : pdu.name ≠ core.name) : Maintains (RanHolds blueprintId core c)
    (modify (fun s : Generic5GState RanState => { s with rest := { s.rest with
      ranAreas := Generic5G.recordRanArea { area := pdu.area, pduName := pdu.name } s.rest.ranAreas } }) : Generic5G.RanM Unit) := by
  apply Maintains.modify
  intro s h
  refine ⟨h.config, h.holds.document, h.holds.owner, h.holds.locked, ?_⟩
  intro info hinfo
  rcases mem_recordRanArea hinfo with rfl | hold
  · exact hname
  · exact h.holds.others info hold

theorem releaseRanArea_holds (areaId : Int) : Maintains (RanHolds blueprintId core c) (Generic5G.releaseRanArea provider areaId) := by
  intro s h
  obtain ⟨t, ht, hunique, hcore⟩ := h.holds.document
  unfold Generic5G.releaseRanArea
  rw [meets_bind, meets_get]
  cases hinfo : toMap RANAreaInfo.area s.rest.ranAreas areaId with
  | none => exact h
  | some info =>
    dsimp only
    rw [meets_bind, ht]
    apply (Generic5G.lift_meets _ s).mono
    · rintro pdu s₁ ⟨hfound, rfl⟩
      obtain ⟨hpdu, hname⟩ := findByName_known hfound
      have hother : pdu.name ≠ core.name := by
        rw [hname]
        exact h.holds.others info (toMap_some_mem hinfo)
      have hlocked : core ∈ s₁.rest.pdus.lockedPdus.eraseP (fun x => decide (x.name = pdu.name)) := by
        rw [List.mem_eraseP_of_neg (by simpa using fun he => hother he.symm)]
        exact h.holds.locked
      have hknown := hunique.toMap_mem hpdu
      have hstored := h.holds.stored { s₁.rest.pdus with
        lockedPdus := s₁.rest.pdus.lockedPdus.eraseP (fun x => decide (x.name = pdu.name)) }
        { pdu with lockedBy := none } ht hknown hother rfl h.holds.owner hlocked
      rw [meets_bind]
      apply (unlockPdu_stores ht hknown).mono
      · rintro _ s₂ rfl
        rw [meets_modify]
        refine ⟨h.config, hstored.document, hstored.owner, hstored.locked, ?_⟩
        exact fun info' hinfo' => h.holds.others info' ((erase_sublist _ _ _).subset hinfo')
      · rintro _ s₂ (rfl | rfl)
        · exact h
        · exact ⟨h.config, hstored⟩
    · rintro _ s₁ ⟨-, rfl⟩
      exact h

theorem releaseRanAreas_holds : Maintains (RanHolds blueprintId core c) (Generic5G.releaseRanAreas provider) := by
  unfold Generic5G.releaseRanAreas
  apply (Generic5G.onConfig_maintains "areas" (fun c => .ok (c.areas.map SubArea.id))).bind
  intro existing
  apply Maintains.get.bind
  intro s
  exact Maintains.forM (fun areaId _ => releaseRanArea_holds areaId)

end Ran

end AthonetCore

end Nfvcl
