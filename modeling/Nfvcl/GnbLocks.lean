import Mathlib.Data.List.Basic
import Nfvcl.CorePdu
import Nfvcl.EdgeRecovery
import Nfvcl.Maintained

namespace Nfvcl
set_option autoImplicit true
open Effects KeyedList

namespace GnbLocks

/-! ### What is locked and what is recorded -/

def gnbsOf (document : Option TopologyModel) : List PduModel :=
  match document with
  | some t => t.pdus.filter (fun pdu => decide (pdu.type = .gnb))
  | none => []

/-- The gNB PDUs that the blueprint has locked. -/
def heldBy (blueprintId : String) (document : Option TopologyModel) : List PduModel :=
  (gnbsOf document).filter (fun pdu => decide (pdu.lockedBy = some blueprintId))

def areaIds (config : Option Create5gModel) : Option (List Int) :=
  config.map Create5gModel.areaIds

/-- The gNB PDUs of the blueprint are one for each of the areas, and they are those of `ran_areas` and of the list of the
provider. -/
structure Follows (blueprintId : String) (ids : List Int) (r : RanState) : Prop where
  inArea : ∀ pdu ∈ heldBy blueprintId r.document, pdu.area ∈ ids
  perArea : ∀ areaId ∈ ids, ∃! pdu, pdu ∈ heldBy blueprintId r.document ∧ pdu.area = areaId
  recorded : (r.ranAreas.map (fun info => (info.area, info.pduName))).Perm
    ((heldBy blueprintId r.document).map (fun pdu => (pdu.area, pdu.name)))
  listed : (r.pdus.lockedPdus.map PduModel.name).Perm ((heldBy blueprintId r.document).map PduModel.name)

/-- The locks follow the areas of the configuration. -/
def FollowsAreas (blueprintId : String) (s : Generic5GState RanState) : Prop :=
  ∃ c, s.currentConfig = some c ∧ Follows blueprintId c.areaIds s.rest

/-- There is a topology, and its PDUs have different names. -/
def Named (document : Option TopologyModel) : Prop :=
  ∃ t, document = some t ∧ Unique PduModel.name t.pdus

/-- What holds of the locks and the records at every moment, also in the middle of an operation. -/
structure Books (blueprintId : String) (r : RanState) : Prop where
  owner : r.pdus.blueprintId = blueprintId
  named : Named r.document
  alone : ∀ pdu ∈ heldBy blueprintId r.document, ∀ other ∈ gnbsOf r.document, other.area = pdu.area → other = pdu
  listed : (r.pdus.lockedPdus.map PduModel.name).Perm ((heldBy blueprintId r.document).map PduModel.name)
  ranKeys : Unique RANAreaInfo.area r.ranAreas
  sites : ∀ info ∈ r.ranAreas, ∃ pdu ∈ gnbsOf r.document, pdu.area = info.area ∧ pdu.name = info.pduName

/-- Every gNB PDU of the blueprint is in one of the areas, or recorded. -/
def Owned (blueprintId : String) (ids : List Int) (r : RanState) : Prop :=
  ∀ pdu ∈ heldBy blueprintId r.document, pdu.area ∈ ids ∨ pdu.area ∈ r.ranAreas.map RANAreaInfo.area

section Sets

variable {t : TopologyModel} {blueprintId : String} {pdu q : PduModel}

theorem mem_gnbsOf : q ∈ gnbsOf (some t) ↔ q ∈ t.pdus ∧ q.type = .gnb := by
  unfold gnbsOf
  rw [List.mem_filter, decide_eq_true_iff]

theorem mem_heldBy {document : Option TopologyModel} : q ∈ heldBy blueprintId document ↔
    q ∈ gnbsOf document ∧ q.lockedBy = some blueprintId := by
  unfold heldBy
  rw [List.mem_filter, decide_eq_true_iff]

theorem gnbs_unique {document : Option TopologyModel} (h : Named document) : Unique PduModel.name (gnbsOf document) := by
  obtain ⟨t, rfl, hunique⟩ := h
  exact hunique.filter _

theorem held_unique {document : Option TopologyModel} (h : Named document) : Unique PduModel.name (heldBy blueprintId document) :=
  (gnbs_unique h).filter _

theorem eq_of_name {document : Option TopologyModel} (h : Named document) (hpdu : pdu ∈ gnbsOf document) (hq : q ∈ gnbsOf document)
    (hname : pdu.name = q.name) : pdu = q := by
  have hfirst := (gnbs_unique h).toMap_mem hpdu
  have hsecond := (gnbs_unique h).toMap_mem hq
  rw [hname] at hfirst
  exact Option.some.inj (hfirst.symm.trans hsecond)

/-- The topology after `upd_pdu` of a gNB. -/
theorem mem_gnbs_changed (hunique : Unique PduModel.name t.pdus) (hpdu : pdu ∈ gnbsOf (some t)) (lock : Option String) :
    q ∈ gnbsOf (some { t with pdus := replace PduModel.name t.pdus { pdu with lockedBy := lock } }) ↔
      q = { pdu with lockedBy := lock } ∨ q ∈ gnbsOf (some t) ∧ q ≠ pdu := by
  obtain ⟨hmem, hgnb⟩ := mem_gnbsOf.1 hpdu
  rw [mem_gnbsOf, mem_gnbsOf]
  change q ∈ replace PduModel.name t.pdus { pdu with lockedBy := lock } ∧ q.type = .gnb ↔ _
  have hkey : ({ pdu with lockedBy := lock } : PduModel).name = pdu.name := rfl
  rw [hunique.mem_replace_iff hmem hkey]
  constructor
  · rintro ⟨rfl | ⟨hq, hne⟩, htype⟩
    · exact .inl rfl
    · exact .inr ⟨⟨hq, htype⟩, hne⟩
  · rintro (rfl | ⟨⟨hq, htype⟩, hne⟩)
    · exact ⟨.inl rfl, hgnb⟩
    · exact ⟨.inr ⟨hq, hne⟩, htype⟩

theorem named_changed (hunique : Unique PduModel.name t.pdus) (changed : PduModel) :
    Named (some { t with pdus := replace PduModel.name t.pdus changed }) :=
  ⟨_, rfl, hunique.replace changed⟩

theorem held_locked (hunique : Unique PduModel.name t.pdus) (hpdu : pdu ∈ gnbsOf (some t)) (hfree : pdu ∉ heldBy blueprintId (some t)) :
    (heldBy blueprintId (some { t with pdus := replace PduModel.name t.pdus { pdu with lockedBy := some blueprintId } })).Perm
      ({ pdu with lockedBy := some blueprintId } :: heldBy blueprintId (some t)) := by
  have hnew : { pdu with lockedBy := some blueprintId } ∉ heldBy blueprintId (some t) := by
    intro hheld
    have hsame : pdu = { pdu with lockedBy := some blueprintId } :=
      eq_of_name ⟨t, rfl, hunique⟩ hpdu (mem_heldBy.1 hheld).1 rfl
    exact hfree (hsame ▸ hheld)
  have hheld : (heldBy blueprintId (some t)).Nodup := (held_unique ⟨t, rfl, hunique⟩).of_map _
  have hheld' : (heldBy blueprintId (some { t with
      pdus := replace PduModel.name t.pdus { pdu with lockedBy := some blueprintId } })).Nodup :=
    (held_unique (named_changed hunique _)).of_map _
  refine (List.perm_ext_iff_of_nodup hheld' (List.nodup_cons.2 ⟨hnew, hheld⟩)).2 ?_
  intro q
  rw [mem_heldBy, mem_gnbs_changed hunique hpdu, List.mem_cons, mem_heldBy]
  constructor
  · rintro ⟨rfl | ⟨hq, -⟩, hlock⟩
    · exact .inl rfl
    · exact .inr ⟨hq, hlock⟩
  · rintro (rfl | ⟨hq, hlock⟩)
    · exact ⟨.inl rfl, rfl⟩
    · exact ⟨.inr ⟨hq, fun heq => hfree (heq ▸ mem_heldBy.2 ⟨hq, hlock⟩)⟩, hlock⟩

theorem held_unlocked (hunique : Unique PduModel.name t.pdus) (hpdu : pdu ∈ heldBy blueprintId (some t)) :
    (pdu :: heldBy blueprintId (some { t with pdus := replace PduModel.name t.pdus { pdu with lockedBy := none } })).Perm
      (heldBy blueprintId (some t)) := by
  have hgnb := (mem_heldBy.1 hpdu).1
  have hmem : ∀ q, q ∈ heldBy blueprintId (some { t with pdus := replace PduModel.name t.pdus { pdu with lockedBy := none } }) ↔
      q ∈ heldBy blueprintId (some t) ∧ q ≠ pdu := by
    intro q
    rw [mem_heldBy, mem_gnbs_changed hunique hgnb, mem_heldBy]
    constructor
    · rintro ⟨rfl | ⟨hq, hne⟩, hlock⟩
      · cases hlock
      · exact ⟨⟨hq, hlock⟩, hne⟩
    · rintro ⟨⟨hq, hlock⟩, hne⟩
      exact ⟨.inr ⟨hq, hne⟩, hlock⟩
  have hheld : (heldBy blueprintId (some t)).Nodup := (held_unique ⟨t, rfl, hunique⟩).of_map _
  have hheld' : (heldBy blueprintId (some { t with
      pdus := replace PduModel.name t.pdus { pdu with lockedBy := none } })).Nodup :=
    (held_unique (named_changed hunique _)).of_map _
  have hgone : pdu ∉ heldBy blueprintId (some { t with pdus := replace PduModel.name t.pdus { pdu with lockedBy := none } }) :=
    fun h => ((hmem pdu).1 h).2 rfl
  refine (List.perm_ext_iff_of_nodup (List.nodup_cons.2 ⟨hgone, hheld'⟩) hheld).2 ?_
  intro q
  rw [List.mem_cons, hmem]
  constructor
  · rintro (rfl | ⟨hq, -⟩)
    · exact hpdu
    · exact hq
  · intro hq
    by_cases heq : q = pdu
    · exact .inl heq
    · exact .inr ⟨hq, heq⟩

end Sets

/-! ### Locking and unlocking -/

/-- Nothing is kept of a lock that the blueprint does not have a record or an area for. -/
structure Sound (blueprintId : String) (ids : List Int) (s : Generic5GState RanState) : Prop where
  config : areaIds s.currentConfig = some ids
  books : Books blueprintId s.rest
  owned : Owned blueprintId ids s.rest

section Steps

variable {provider : RanProvider} {blueprintId : String} {ids : List Int} {t : TopologyModel} {s : Generic5GState RanState} {pdu : PduModel}

theorem Sound.locked (h : Sound blueprintId ids s) (hdocument : s.rest.document = some t) (hpdu : pdu ∈ gnbsOf (some t))
    (hfree : pdu ∉ heldBy blueprintId (some t)) (halone : ∀ other ∈ gnbsOf (some t), other.area = pdu.area → other = pdu)
    (hid : pdu.area ∈ ids) {changed : PduModel} (hchanged : changed = { pdu with lockedBy := some blueprintId }) :
    let s' := AthonetCore.stored t { s.rest.pdus with lockedPdus := s.rest.pdus.lockedPdus ++ [changed] } changed s
    Sound blueprintId ids s' ∧ changed ∈ heldBy blueprintId s'.rest.document ∧
      ∀ other ∈ heldBy blueprintId s.rest.document, other ∈ heldBy blueprintId s'.rest.document := by
  subst hchanged
  obtain ⟨t', ht', hunique⟩ := h.books.named
  obtain rfl : t' = t := Option.some.inj (ht'.symm.trans hdocument)
  have hperm := held_locked hunique hpdu hfree
  have hmem : ∀ q, q ∈ heldBy blueprintId (some { t' with
      pdus := replace PduModel.name t'.pdus { pdu with lockedBy := some blueprintId } }) ↔
      q = { pdu with lockedBy := some blueprintId } ∨ q ∈ heldBy blueprintId (some t') := by
    intro q
    rw [hperm.mem_iff, List.mem_cons]
  have hlisted := h.books.listed
  rw [hdocument] at hlisted
  have halready := h.books.alone
  rw [hdocument] at halready
  refine ⟨⟨h.config, ⟨h.books.owner, named_changed hunique _, ?_, ?_, h.books.ranKeys, ?_⟩, ?_⟩, (hmem _).2 (.inl rfl), ?_⟩
  · intro q hq other hother harea
    rcases (hmem q).1 hq with rfl | hq
    · rcases (mem_gnbs_changed hunique hpdu _).1 hother with rfl | ⟨hother, hne⟩
      · rfl
      · exact absurd (halone other hother harea) hne
    · rcases (mem_gnbs_changed hunique hpdu _).1 hother with rfl | ⟨hother, hne⟩
      · exact absurd hq (halready q hq pdu hpdu harea ▸ hfree)
      · exact halready q hq other hother harea
  · change ((s.rest.pdus.lockedPdus ++ [{ pdu with lockedBy := some blueprintId }]).map PduModel.name).Perm _
    rw [List.map_append]
    exact (List.perm_append_singleton _ _).trans ((List.Perm.cons _ hlisted).trans (hperm.map PduModel.name).symm)
  · intro info hinfo
    obtain ⟨site, hsite, harea, hname⟩ := h.books.sites info hinfo
    rw [hdocument] at hsite
    by_cases heq : site = pdu
    · subst heq
      exact ⟨_, (mem_gnbs_changed hunique hpdu _).2 (.inl rfl), harea, hname⟩
    · exact ⟨site, (mem_gnbs_changed hunique hpdu _).2 (.inr ⟨hsite, heq⟩), harea, hname⟩
  · intro q hq
    rcases (hmem q).1 hq with rfl | hq
    · exact .inl hid
    · exact h.owned q (by rw [hdocument]; exact hq)
  · intro other hother
    rw [hdocument] at hother
    exact (hmem other).2 (.inr hother)

/-- The PDU of an area, and that there is no other. -/
theorem findPdu_alone (h : PDUProvider.findPdu (some t) areaId .gnb none none = .ok pdu) :
    pdu ∈ gnbsOf (some t) ∧ pdu.area = areaId ∧ ∀ other ∈ gnbsOf (some t), other.area = areaId → other = pdu := by
  obtain ⟨hpdu, htype⟩ := AthonetCore.findPdu_gnb h
  refine ⟨mem_gnbsOf.2 ⟨hpdu, htype⟩, GnbUpfs.findPdu_area h, ?_⟩
  intro other hother harea
  obtain ⟨hmem, hgnb⟩ := mem_gnbsOf.1 hother
  obtain ⟨pdus, hpdus, h⟩ := except_bind_ok.1 h
  cases hpdus
  dsimp only [filterIfGiven] at h
  split at h
  · cases h
  · rename_i found hfound
    cases h
    have hother : other ∈ (t.pdus.filter (fun x => decide (x.area = areaId))).filter (fun x => decide (x.type = .gnb)) :=
      List.mem_filter.2 ⟨List.mem_filter.2 ⟨hmem, decide_eq_true harea⟩, decide_eq_true hgnb⟩
    rw [hfound] at hother
    exact List.mem_singleton.1 hother
  · cases h

theorem gnbPdu_sound (h : Sound blueprintId ids s) (hid : areaId ∈ ids) :
    Meets (Generic5G.gnbPdu provider areaId) s
      (fun pdu s' => (Sound blueprintId ids s' ∧ s'.currentConfig = s.currentConfig) ∧
        (pdu ∈ heldBy blueprintId s'.rest.document ∧ pdu.area = areaId) ∧
        ∀ other ∈ heldBy blueprintId s.rest.document, other ∈ heldBy blueprintId s'.rest.document)
      (fun _ s' => Sound blueprintId ids s' ∧ s'.currentConfig = s.currentConfig) := by
  obtain ⟨t, ht, hunique⟩ := h.books.named
  unfold Generic5G.gnbPdu
  rw [meets_bind, meets_get, meets_bind]
  apply (Generic5G.lift_meets _ s).mono
  · rintro pdu s' ⟨hfound, rfl⟩
    rw [ht] at hfound
    obtain ⟨hpdu, harea, halone⟩ := findPdu_alone hfound
    rw [h.books.owner]
    split
    · rename_i hlocked
      rw [← ht] at hpdu
      exact ⟨⟨h, rfl⟩, ⟨mem_heldBy.2 ⟨hpdu, hlocked⟩, harea⟩, fun _ hother => hother⟩
    · rename_i hfree
      have hnot : pdu ∉ heldBy blueprintId (some t) := fun hheld => hfree (mem_heldBy.1 hheld).2
      have hothers : ∀ other ∈ gnbsOf (some t), other.area = pdu.area → other = pdu := by
        rw [harea]
        exact halone
      have hplace : pdu.area ∈ ids := by
        rw [harea]
        exact hid
      apply (AthonetCore.lockPdu_stores ht (hunique.toMap_mem (mem_gnbsOf.1 hpdu).1)).mono
      · rintro changed s'' ⟨hchanged, rfl⟩
        rw [h.books.owner] at hchanged
        obtain ⟨hsound, hheld, hmono⟩ := h.locked ht hpdu hnot hothers hplace hchanged
        refine ⟨⟨hsound, rfl⟩, ⟨hheld, ?_⟩, hmono⟩
        rw [hchanged]
        exact harea
      · rintro _ s'' (rfl | ⟨changed, hchanged, rfl⟩)
        · exact ⟨h, rfl⟩
        · rw [h.books.owner] at hchanged
          exact ⟨(h.locked ht hpdu hnot hothers hplace hchanged).1, rfl⟩
  · rintro _ s' ⟨-, rfl⟩
    exact ⟨h, rfl⟩

theorem gnbPdus_sound {areas : List Int} (h : Sound blueprintId ids s) (hall : ∀ areaId ∈ areas, areaId ∈ ids) :
    Meets (areas.mapM (Generic5G.gnbPdu provider)) s
      (fun pdus s' => (Sound blueprintId ids s' ∧ s'.currentConfig = s.currentConfig) ∧
        (pdus.map PduModel.area = areas ∧ ∀ pdu ∈ pdus, pdu ∈ heldBy blueprintId s'.rest.document) ∧
        ∀ other ∈ heldBy blueprintId s.rest.document, other ∈ heldBy blueprintId s'.rest.document)
      (fun _ s' => Sound blueprintId ids s' ∧ s'.currentConfig = s.currentConfig) := by
  induction areas generalizing s with
  | nil => exact ⟨⟨h, rfl⟩, ⟨rfl, fun _ hpdu => (nomatch hpdu)⟩, fun _ hother => hother⟩
  | cons areaId areas ih =>
    rw [List.mapM_cons, meets_bind]
    apply (gnbPdu_sound h (hall areaId List.mem_cons_self)).mono
    · rintro pdu s₁ ⟨⟨h₁, hconfig₁⟩, ⟨hheld, harea⟩, hmono⟩
      rw [meets_bind]
      apply (ih h₁ (fun id hid => hall id (List.mem_cons_of_mem _ hid))).mono
      · rintro pdus s₂ ⟨⟨h₂, hconfig₂⟩, ⟨hareas, hpdus⟩, hmono₂⟩
        refine ⟨⟨h₂, hconfig₂.trans hconfig₁⟩, ⟨by rw [List.map_cons, harea, hareas], ?_⟩, fun q hq => hmono₂ q (hmono q hq)⟩
        exact List.forall_mem_cons.2 ⟨hmono₂ pdu hheld, hpdus⟩
      · rintro _ s₂ ⟨h₂, hconfig₂⟩
        exact ⟨h₂, hconfig₂.trans hconfig₁⟩
    · exact fun _ _ hs' => hs'

/-- Reading the areas of the configuration. -/
theorem readAreas_meets (h : areaIds s.currentConfig = some ids) :
    Meets (Generic5G.onConfig "areas" (do let c ← get; return c.areas.map SubArea.id)) s
      (fun areas s' => areas = ids ∧ s' = s) (fun _ s' => s' = s) := by
  obtain ⟨config, r⟩ := s
  cases config with
  | none => cases h
  | some c => exact ⟨Option.some.inj h, rfl⟩

theorem getGnbPdus_sound (h : Sound blueprintId ids s) :
    Meets (Generic5G.getGnbPdus provider) s
      (fun pdus s' => (Sound blueprintId ids s' ∧ s'.currentConfig = s.currentConfig) ∧
        (pdus.map PduModel.area = ids ∧ ∀ pdu ∈ pdus, pdu ∈ heldBy blueprintId s'.rest.document))
      (fun _ s' => Sound blueprintId ids s' ∧ s'.currentConfig = s.currentConfig) := by
  unfold Generic5G.getGnbPdus
  rw [meets_bind]
  apply (readAreas_meets h.config).mono
  · rintro areas s₁ ⟨rfl, rfl⟩
    apply (gnbPdus_sound h (fun _ hid => hid)).mono
    · exact fun pdus s' hs' => ⟨hs'.1, hs'.2.1⟩
    · exact fun _ _ hs' => hs'
  · rintro _ s₁ rfl
    exact ⟨h, rfl⟩

/-! ### Configuring and recording -/

/-- What the locks and the records are read off. -/
def Same (s s' : Generic5GState RanState) : Prop :=
  s'.currentConfig = s.currentConfig ∧ s'.rest.document = s.rest.document ∧ s'.rest.pdus = s.rest.pdus ∧ s'.rest.ranAreas = s.rest.ranAreas

theorem Sound.same (h : Sound blueprintId ids s) (hsame : Same s s') : Sound blueprintId ids s' := by
  obtain ⟨hconfig, hdocument, hpdus, hran⟩ := hsame
  refine ⟨by rw [hconfig]; exact h.config, ⟨?_, ?_, ?_, ?_, ?_, ?_⟩, ?_⟩
  · rw [hpdus]
    exact h.books.owner
  · rw [hdocument]
    exact h.books.named
  · rw [hdocument]
    exact h.books.alone
  · rw [hdocument, hpdus]
    exact h.books.listed
  · rw [hran]
    exact h.books.ranKeys
  · rw [hdocument, hran]
    exact h.books.sites
  · unfold Owned
    rw [hdocument, hran]
    exact h.owned

theorem ranCall_same (s₀ : Generic5GState RanState) (k : RanCall) : Maintains (Same s₀) (Generic5G.ranCall provider k) := by
  intro s h
  unfold Meets EStateM.run Generic5G.ranCall
  cases provider.raises k s.rest.calls with
  | none => exact h
  | some e => exact h

theorem gnbRequest_same (s₀ : Generic5GState RanState) (pdu : PduModel) : Maintains (Same s₀) (Generic5G.gnbRequest provider pdu) := by
  unfold Generic5G.gnbRequest Generic5G.getPduConfigurator
  have hconfigurator : Maintains (Same s₀) (Generic5G.getPduConfigurator provider pdu) := by
    unfold Generic5G.getPduConfigurator
    apply Maintains.get.bind
    intro s
    apply Maintains.ite
    · exact (ranCall_same s₀ _).bind (fun _ => Maintains.pure _)
    · exact Maintains.throw _
  apply hconfigurator.bind
  intro _
  apply (Generic5G.onConfig_maintains "areas" (fun c => Generic5G.gnbSlices provider c pdu.area)).bind
  intro slices
  apply (Generic5G.onConfig_maintains "config" (fun c => .ok c.config.plmn)).bind
  intro plmn
  apply (ranCall_same s₀ _).bind
  intro n
  apply Maintains.get.bind
  intro s
  apply (Generic5G.liftExcept_maintains _).bind
  intro upfIp
  apply (Generic5G.liftExcept_maintains _).bind
  exact fun _ => Maintains.pure _

theorem mem_keys_record (info : RANAreaInfo) (ranAreas : List RANAreaInfo) :
    areaId ∈ (Generic5G.recordRanArea info ranAreas).map RANAreaInfo.area ↔ areaId = info.area ∨ areaId ∈ ranAreas.map RANAreaInfo.area := by
  unfold Generic5G.recordRanArea
  by_cases hknown : (toMap RANAreaInfo.area ranAreas info.area).isSome = true
  · rw [if_pos hknown, map_replace_key]
    constructor
    · exact .inr
    · rintro (rfl | hmem)
      · obtain ⟨old, hold, harea⟩ := toMap_isSome.1 hknown
        exact List.mem_map.2 ⟨old, hold, harea⟩
      · exact hmem
  · rw [if_neg hknown, List.map_append, List.mem_append, List.map_singleton, List.mem_singleton, or_comm]

theorem record_unique {ranAreas : List RANAreaInfo} (h : Unique RANAreaInfo.area ranAreas) (info : RANAreaInfo) :
    Unique RANAreaInfo.area (Generic5G.recordRanArea info ranAreas) := by
  unfold Generic5G.recordRanArea
  by_cases hknown : (toMap RANAreaInfo.area ranAreas info.area).isSome = true
  · rw [if_pos hknown]
    exact h.replace info
  · rw [if_neg hknown]
    exact h.append (Option.not_isSome_iff_eq_none.1 hknown)

theorem configureGnb_sound (h : Sound blueprintId ids s) (hpdu : pdu ∈ heldBy blueprintId s.rest.document) :
    Meets (Generic5G.configureGnb provider pdu) s
      (fun _ s' => (Sound blueprintId ids s' ∧ s'.currentConfig = s.currentConfig) ∧ s'.rest.document = s.rest.document ∧
        s'.rest.ranAreas = Generic5G.recordRanArea { area := pdu.area, pduName := pdu.name } s.rest.ranAreas)
      (fun _ s' => Sound blueprintId ids s' ∧ s'.currentConfig = s.currentConfig) := by
  unfold Generic5G.configureGnb
  have hself : Same s s := ⟨rfl, rfl, rfl, rfl⟩
  rw [meets_bind]
  apply (gnbRequest_same s pdu s hself).mono
  · intro request s₁ h₁
    rw [meets_bind, meets_modify, meets_bind]
    apply (ranCall_same s _ { s₁ with rest := { s₁.rest with sent := s₁.rest.sent ++ [(pdu, request)] } } h₁).mono
    · rintro _ s₂ h₂
      rw [meets_modify]
      obtain ⟨hconfig, hdocument, -, hran⟩ := id h₂
      have h₂ := h.same h₂
      refine ⟨⟨⟨h₂.config, ⟨h₂.books.owner, h₂.books.named, h₂.books.alone, h₂.books.listed, record_unique h₂.books.ranKeys _, ?_⟩, ?_⟩,
        hconfig⟩, hdocument, by rw [hran]⟩
      · intro info hinfo
        rcases AthonetCore.mem_recordRanArea hinfo with rfl | hold
        · exact ⟨pdu, by rw [hdocument]; exact (mem_heldBy.1 hpdu).1, rfl, rfl⟩
        · exact h₂.books.sites info hold
      · intro q hq
        rcases h₂.owned q hq with hin | hrecorded
        · exact .inl hin
        · exact .inr ((mem_keys_record _ _).2 (.inr hrecorded))
    · rintro _ s₂ h₂
      exact ⟨h.same h₂, h₂.1⟩
  · exact fun _ s₁ h₁ => ⟨h.same h₁, h₁.1⟩

theorem configureGnbs_sound {pdus : List PduModel} (h : Sound blueprintId ids s)
    (hpdus : ∀ pdu ∈ pdus, pdu ∈ heldBy blueprintId s.rest.document) :
    Meets (forM pdus (Generic5G.configureGnb provider)) s
      (fun _ s' => (Sound blueprintId ids s' ∧ s'.currentConfig = s.currentConfig) ∧ s'.rest.document = s.rest.document ∧
        ∀ areaId, areaId ∈ pdus.map PduModel.area ∨ areaId ∈ s.rest.ranAreas.map RANAreaInfo.area →
          areaId ∈ s'.rest.ranAreas.map RANAreaInfo.area)
      (fun _ s' => Sound blueprintId ids s' ∧ s'.currentConfig = s.currentConfig) := by
  induction pdus generalizing s with
  | nil =>
    refine ⟨⟨h, rfl⟩, rfl, ?_⟩
    rintro areaId (hmem | hmem)
    · cases hmem
    · exact hmem
  | cons pdu pdus ih =>
    rw [List.forM_cons, meets_bind]
    apply (configureGnb_sound h (hpdus pdu List.mem_cons_self)).mono
    · rintro _ s₁ ⟨⟨h₁, hconfig₁⟩, hdocument₁, hran₁⟩
      apply (ih h₁ (fun q hq => by rw [hdocument₁]; exact hpdus q (List.mem_cons_of_mem _ hq))).mono
      · rintro _ s₂ ⟨⟨h₂, hconfig₂⟩, hdocument₂, hran₂⟩
        refine ⟨⟨h₂, hconfig₂.trans hconfig₁⟩, hdocument₂.trans hdocument₁, ?_⟩
        rintro areaId (hmem | hmem)
        · rcases List.mem_cons.1 hmem with rfl | hmem
          · exact hran₂ _ (.inr (by rw [hran₁]; exact (mem_keys_record _ _).2 (.inl rfl)))
          · exact hran₂ _ (.inl hmem)
        · exact hran₂ _ (.inr (by rw [hran₁]; exact (mem_keys_record _ _).2 (.inr hmem)))
      · rintro _ s₂ ⟨h₂, hconfig₂⟩
        exact ⟨h₂, hconfig₂.trans hconfig₁⟩
    · exact fun _ _ hs' => hs'

/-! ### Releasing -/

theorem unlockPdu_refused (h : pdu.lockedBy ≠ some s.rest.pdus.blueprintId) :
    Meets (Generic5G.unlockPdu provider pdu) s (fun _ _ => False) (fun _ s' => s' = s) := by
  cases hrun : PDUProvider.markUnlocked.run (s.rest.pdus, pdu) with
  | ok u result => exact absurd (PDUProvider.markUnlocked_ok hrun).1 h
  | error e result => exact AthonetCore.storePdu_error hrun (PDUProvider.markUnlocked_error hrun)

theorem Sound.unlocked (h : Sound blueprintId ids s) (hdocument : s.rest.document = some t) (hpdu : pdu ∈ heldBy blueprintId (some t)) :
    let s' := AthonetCore.stored t { s.rest.pdus with
      lockedPdus := s.rest.pdus.lockedPdus.eraseP (fun x => decide (x.name = pdu.name)) } { pdu with lockedBy := none } s
    Sound blueprintId ids s' ∧ ∀ q, q ∈ heldBy blueprintId s'.rest.document ↔ q ∈ heldBy blueprintId s.rest.document ∧ q ≠ pdu := by
  obtain ⟨t', ht', hunique⟩ := h.books.named
  obtain rfl : t' = t := Option.some.inj (ht'.symm.trans hdocument)
  have hgnb := (mem_heldBy.1 hpdu).1
  have hperm := held_unlocked hunique hpdu
  have hmem : ∀ q, q ∈ heldBy blueprintId (some { t' with pdus := replace PduModel.name t'.pdus { pdu with lockedBy := none } }) ↔
      q ∈ heldBy blueprintId (some t') ∧ q ≠ pdu := by
    intro q
    rw [mem_heldBy, mem_gnbs_changed hunique hgnb, mem_heldBy]
    constructor
    · rintro ⟨rfl | ⟨hq, hne⟩, hlock⟩
      · cases hlock
      · exact ⟨⟨hq, hlock⟩, hne⟩
    · rintro ⟨⟨hq, hlock⟩, hne⟩
      exact ⟨.inr ⟨hq, hne⟩, hlock⟩
  have hlisted := h.books.listed
  rw [hdocument] at hlisted
  have halone := h.books.alone
  rw [hdocument] at halone
  refine ⟨⟨h.config, ⟨h.books.owner, named_changed hunique _, ?_, ?_, h.books.ranKeys, ?_⟩, ?_⟩, ?_⟩
  · intro q hq other hother harea
    obtain ⟨hq, hne⟩ := (hmem q).1 hq
    rcases (mem_gnbs_changed hunique hgnb _).1 hother with rfl | ⟨hother, -⟩
    · exact absurd (halone q hq pdu hgnb harea).symm hne
    · exact halone q hq other hother harea
  · have hname : pdu.name ∈ s.rest.pdus.lockedPdus.map PduModel.name :=
      hlisted.mem_iff.2 (List.mem_map_of_mem hpdu)
    exact ((names_eraseP_perm hname).trans (hlisted.trans (hperm.map PduModel.name).symm)).cons_inv
  · intro info hinfo
    obtain ⟨site, hsite, harea, hname⟩ := h.books.sites info hinfo
    rw [hdocument] at hsite
    by_cases heq : site = pdu
    · subst heq
      exact ⟨_, (mem_gnbs_changed hunique hgnb _).2 (.inl rfl), harea, hname⟩
    · exact ⟨site, (mem_gnbs_changed hunique hgnb _).2 (.inr ⟨hsite, heq⟩), harea, hname⟩
  · intro q hq
    exact h.owned q (by rw [hdocument]; exact ((hmem q).1 hq).1)
  · intro q
    rw [hdocument]
    exact hmem q

/-- An area that left the configuration. -/
theorem releaseRanArea_sound (h : Sound blueprintId ids s) (hout : areaId ∉ ids) :
    Meets (Generic5G.releaseRanArea provider areaId) s
      (fun _ s' => (Sound blueprintId ids s' ∧ s'.currentConfig = s.currentConfig) ∧
        (∀ id, id ∈ s'.rest.ranAreas.map RANAreaInfo.area ↔ id ∈ s.rest.ranAreas.map RANAreaInfo.area ∧ id ≠ areaId) ∧
        ∀ q ∈ heldBy blueprintId s.rest.document, q.area ≠ areaId → q ∈ heldBy blueprintId s'.rest.document)
      (fun _ s' => Sound blueprintId ids s' ∧ s'.currentConfig = s.currentConfig) := by
  obtain ⟨t, ht, hunique⟩ := h.books.named
  unfold Generic5G.releaseRanArea
  rw [meets_bind, meets_get]
  cases hinfo : toMap RANAreaInfo.area s.rest.ranAreas areaId with
  | none => exact ⟨h, rfl⟩
  | some info =>
    obtain rfl := toMap_some_key hinfo
    dsimp only
    rw [meets_bind]
    apply (Generic5G.lift_meets _ s).mono
    · rintro pdu s₁ ⟨hfound, rfl⟩
      rw [ht] at hfound
      obtain ⟨hpdu, hname⟩ := AthonetCore.findByName_known hfound
      obtain ⟨site, hsite, harea, hsiteName⟩ := h.books.sites info (toMap_some_mem hinfo)
      rw [ht] at hsite
      obtain rfl : site = pdu := by
        have hfirst := hunique.toMap_mem (mem_gnbsOf.1 hsite).1
        have hsecond := hunique.toMap_mem hpdu
        rw [hsiteName, ← hname] at hfirst
        exact Option.some.inj (hfirst.symm.trans hsecond)
      rw [meets_bind]
      by_cases hlock : site.lockedBy = some s₁.rest.pdus.blueprintId
      · have hheld : site ∈ heldBy blueprintId (some t) := mem_heldBy.2 ⟨hsite, by rw [hlock, h.books.owner]⟩
        obtain ⟨hunlocked, hmem⟩ := h.unlocked ht hheld
        apply (AthonetCore.unlockPdu_stores ht (hunique.toMap_mem hpdu)).mono
        · rintro _ s₂ rfl
          rw [meets_modify]
          have herase : KeyedList.erase RANAreaInfo.area s₁.rest.ranAreas info.area =
              s₁.rest.ranAreas.filter (fun x => decide (x.area ≠ info.area)) := h.books.ranKeys.erase_eq_filter _
          have hkeys : ∀ id, id ∈ (KeyedList.erase RANAreaInfo.area s₁.rest.ranAreas info.area).map RANAreaInfo.area ↔
              id ∈ s₁.rest.ranAreas.map RANAreaInfo.area ∧ id ≠ info.area := by
            intro id
            rw [herase, List.mem_map, List.mem_map]
            constructor
            · rintro ⟨other, hother, rfl⟩
              obtain ⟨hmem, hne⟩ := List.mem_filter.1 hother
              exact ⟨⟨other, hmem, rfl⟩, of_decide_eq_true hne⟩
            · rintro ⟨⟨other, hmem, rfl⟩, hne⟩
              exact ⟨other, List.mem_filter.2 ⟨hmem, decide_eq_true hne⟩, rfl⟩
          refine ⟨⟨⟨hunlocked.config, ⟨hunlocked.books.owner, hunlocked.books.named, hunlocked.books.alone, hunlocked.books.listed,
            h.books.ranKeys.erase _, ?_⟩, ?_⟩, rfl⟩, hkeys, ?_⟩
          · exact fun other hother => hunlocked.books.sites other ((erase_sublist _ _ _).subset hother)
          · intro q hq
            rcases hunlocked.owned q hq with hin | hrecorded
            · exact .inl hin
            · refine .inr ((hkeys q.area).2 ⟨hrecorded, ?_⟩)
              intro hsame
              obtain ⟨hq, hne⟩ := (hmem q).1 hq
              rw [ht] at hq
              have halone := h.books.alone
              rw [ht] at halone
              exact hne (halone site hheld q (mem_heldBy.1 hq).1 (hsame.trans harea.symm))
          · intro q hq hne
            refine (hmem q).2 ⟨hq, ?_⟩
            rintro rfl
            exact hne harea
        · rintro _ s₂ (rfl | rfl)
          · exact ⟨h, rfl⟩
          · exact ⟨hunlocked, rfl⟩
      · apply (unlockPdu_refused hlock).mono
        · exact fun _ _ hfalse => hfalse.elim
        · rintro _ s₂ rfl
          exact ⟨h, rfl⟩
    · rintro _ s₁ ⟨-, rfl⟩
      exact ⟨h, rfl⟩

theorem releases_sound {areas : List Int} (h : Sound blueprintId ids s) (hout : ∀ areaId ∈ areas, areaId ∉ ids) :
    Meets (forM areas (Generic5G.releaseRanArea provider)) s
      (fun _ s' => (Sound blueprintId ids s' ∧ s'.currentConfig = s.currentConfig) ∧
        (∀ id, id ∈ s'.rest.ranAreas.map RANAreaInfo.area ↔ id ∈ s.rest.ranAreas.map RANAreaInfo.area ∧ id ∉ areas) ∧
        ∀ q ∈ heldBy blueprintId s.rest.document, q.area ∈ ids → q ∈ heldBy blueprintId s'.rest.document)
      (fun _ s' => Sound blueprintId ids s' ∧ s'.currentConfig = s.currentConfig) := by
  induction areas generalizing s with
  | nil => exact ⟨⟨h, rfl⟩, fun id => ⟨fun hid => ⟨hid, List.not_mem_nil⟩, And.left⟩, fun _ hq _ => hq⟩
  | cons areaId areas ih =>
    have hfirst := hout areaId List.mem_cons_self
    rw [List.forM_cons, meets_bind]
    apply (releaseRanArea_sound h hfirst).mono
    · rintro _ s₁ ⟨⟨h₁, hconfig₁⟩, hkeys₁, hheld₁⟩
      apply (ih h₁ (fun id hid => hout id (List.mem_cons_of_mem _ hid))).mono
      · rintro _ s₂ ⟨⟨h₂, hconfig₂⟩, hkeys₂, hheld₂⟩
        refine ⟨⟨h₂, hconfig₂.trans hconfig₁⟩, ?_, ?_⟩
        · intro id
          rw [hkeys₂, hkeys₁, List.mem_cons, not_or, and_assoc]
        · intro q hq hin
          exact hheld₂ q (hheld₁ q hq (fun heq => hfirst (heq ▸ hin))) hin
      · rintro _ s₂ ⟨h₂, hconfig₂⟩
        exact ⟨h₂, hconfig₂.trans hconfig₁⟩
    · exact fun _ _ hs' => hs'

/-- A sound state where the areas of the configuration are locked and exactly they are recorded. -/
theorem Sound.follows (h : Sound blueprintId ids s) (hkeys : ∀ id, id ∈ s.rest.ranAreas.map RANAreaInfo.area ↔ id ∈ ids)
    (hheld : ∀ areaId ∈ ids, ∃ pdu ∈ heldBy blueprintId s.rest.document, pdu.area = areaId) : Follows blueprintId ids s.rest := by
  have hin : ∀ pdu ∈ heldBy blueprintId s.rest.document, pdu.area ∈ ids := by
    intro pdu hpdu
    rcases h.owned pdu hpdu with hin | hrecorded
    · exact hin
    · exact (hkeys _).1 hrecorded
  refine ⟨hin, ?_, ?_, h.books.listed⟩
  · intro areaId hid
    obtain ⟨pdu, hpdu, harea⟩ := hheld areaId hid
    refine ⟨pdu, ⟨hpdu, harea⟩, ?_⟩
    rintro other ⟨hother, hsame⟩
    exact h.books.alone pdu hpdu other (mem_heldBy.1 hother).1 (hsame.trans harea.symm)
  · have hran : (s.rest.ranAreas.map (fun info => (info.area, info.pduName))).Nodup := by
      apply List.Nodup.of_map Prod.fst
      rw [List.map_map]
      exact h.books.ranKeys
    have hlocks : ((heldBy blueprintId s.rest.document).map (fun pdu => (pdu.area, pdu.name))).Nodup := by
      apply List.Nodup.of_map Prod.snd
      rw [List.map_map]
      exact held_unique h.books.named
    have hsite : ∀ info ∈ s.rest.ranAreas, ∀ pdu ∈ heldBy blueprintId s.rest.document, pdu.area = info.area → pdu.name = info.pduName := by
      intro info hinfo pdu hpdu harea
      obtain ⟨site, hsite, hplace, hname⟩ := h.books.sites info hinfo
      rw [← h.books.alone pdu hpdu site hsite (hplace.trans harea.symm)]
      exact hname
    refine (List.perm_ext_iff_of_nodup hran hlocks).2 ?_
    rintro ⟨areaId, name⟩
    rw [List.mem_map, List.mem_map]
    constructor
    · rintro ⟨info, hinfo, hpair⟩
      cases hpair
      obtain ⟨pdu, hpdu, harea⟩ := hheld info.area ((hkeys _).1 (List.mem_map_of_mem hinfo))
      exact ⟨pdu, hpdu, by rw [harea, hsite info hinfo pdu hpdu harea]⟩
    · rintro ⟨pdu, hpdu, hpair⟩
      cases hpair
      obtain ⟨info, hinfo, harea⟩ := List.mem_map.1 ((hkeys _).2 (hin pdu hpdu))
      exact ⟨info, hinfo, by rw [harea, hsite info hinfo pdu hpdu harea.symm]⟩

theorem Sound.followsAreas (h : Sound blueprintId ids s) (hfollows : Follows blueprintId ids s.rest) : FollowsAreas blueprintId s := by
  obtain ⟨c, hc, rfl⟩ := Option.map_eq_some_iff.1 h.config
  exact ⟨c, hc, hfollows⟩

/-- `update_gnb_config` from a state where no lock is forgotten. -/
theorem updateGnbConfig_sound (h : Sound blueprintId ids s) :
    Meets (Generic5G.updateGnbConfig provider) s
      (fun _ s' => (Sound blueprintId ids s' ∧ s'.currentConfig = s.currentConfig) ∧ Follows blueprintId ids s'.rest)
      (fun _ s' => Sound blueprintId ids s' ∧ s'.currentConfig = s.currentConfig) := by
  unfold Generic5G.updateGnbConfig
  rw [meets_bind]
  apply (getGnbPdus_sound h).mono
  · rintro pdus s₁ ⟨⟨h₁, hconfig₁⟩, hareas, hpdus⟩
    rw [meets_bind]
    apply (configureGnbs_sound h₁ hpdus).mono
    · rintro _ s₂ ⟨⟨h₂, hconfig₂⟩, hdocument₂, hran₂⟩
      unfold Generic5G.releaseRanAreas
      rw [meets_bind]
      apply (readAreas_meets h₂.config).mono
      · rintro existing s₃ ⟨rfl, rfl⟩
        rw [meets_bind, meets_get]
        have hperm := provider.order_perm ((s₃.rest.ranAreas.map RANAreaInfo.area).filter (fun id => decide (id ∉ existing)))
        have hout : ∀ areaId ∈ provider.order ((s₃.rest.ranAreas.map RANAreaInfo.area).filter (fun id => decide (id ∉ existing))),
            areaId ∉ existing := fun areaId hid => of_decide_eq_true (List.mem_filter.1 (hperm.mem_iff.1 hid)).2
        apply (releases_sound h₂ hout).mono
        · rintro _ s₄ ⟨⟨h₄, hconfig₄⟩, hkeys₄, hheld₄⟩
          refine ⟨⟨h₄, hconfig₄.trans (hconfig₂.trans hconfig₁)⟩, h₄.follows ?_ ?_⟩
          · intro id
            rw [hkeys₄, hperm.mem_iff, List.mem_filter, decide_eq_true_iff]
            constructor
            · rintro ⟨hrecorded, hnot⟩
              by_contra hid
              exact hnot ⟨hrecorded, hid⟩
            · intro hid
              exact ⟨hran₂ id (.inl (by rw [hareas]; exact hid)), fun hnot => hnot.2 hid⟩
          · intro areaId hid
            rw [← hareas] at hid
            obtain ⟨pdu, hpdu, rfl⟩ := List.mem_map.1 hid
            have hlocked : pdu ∈ heldBy blueprintId s₃.rest.document := by
              rw [hdocument₂]
              exact hpdus pdu hpdu
            exact ⟨pdu, hheld₄ pdu hlocked (by rw [← hareas]; exact hid), rfl⟩
        · rintro _ s₄ ⟨h₄, hconfig₄⟩
          exact ⟨h₄, hconfig₄.trans (hconfig₂.trans hconfig₁)⟩
      · rintro _ s₃ rfl
        exact ⟨h₂, hconfig₂.trans hconfig₁⟩
    · rintro _ s₂ ⟨h₂, hconfig₂⟩
      exact ⟨h₂, hconfig₂.trans hconfig₁⟩
  · exact fun _ _ hs' => hs'

end Steps

/-! ### Runs -/

/-- The state of a run: with the blueprint, what each `update_gnb_config` that returned left. -/
structure GnbState extends RanState where
  returned : List (Generic5GState RanState) := []

abbrev GnbM := EStateM PyError (Generic5GState GnbState)

def onRan (m : Generic5G.RanM α) : GnbM α :=
  zoom (fun s => ⟨s.currentConfig, s.rest.toRanState⟩)
    (fun t s => ⟨t.currentConfig, { s.rest with toRanState := t.rest }⟩) m

/-- What the hooks of the blueprints are made of: steps outside the RAN section, and `update_gnb_config`. -/
inductive HookStep where
  | outside (step : Generic5G.RanM Unit)
  | updateGnbConfig

/-- The operations of a created blueprint, with the hook that the class has for each; `other` is one that does not put the
configuration back. -/
inductive GnbOp where
  | day2 (op : Day2Op) (hook : List HookStep)
  | other (hook : List HookStep)

def GnbOp.hook : GnbOp → List HookStep
  | .day2 _ hook => hook
  | .other hook => hook

section Blueprint

variable (provider : RanProvider)

def HookStep.exec : HookStep → GnbM Unit
  | .outside step => onRan step
  | .updateGnbConfig => do
    onRan (Generic5G.updateGnbConfig provider)
    modify (fun s => { s with rest := { s.rest with returned := s.rest.returned ++ [⟨s.currentConfig, s.rest.toRanState⟩] } })

def runHook (hook : List HookStep) : GnbM Unit :=
  forM hook (HookStep.exec provider)

/-- `create`, with what it does after `pre_creation_checks`. -/
def create (createModel : Create5gModel) (hook : List HookStep) : GnbM Unit := do
  modify (fun s => { s with currentConfig := some createModel })
  Generic5G.onConfig "config" (Create5gModel.checking Create5gModel.configurationFeasibilityCheck)
  let _ ← onRan (Generic5G.getGnbPdus provider)
  runHook provider hook

def GnbOp.exec : GnbOp → GnbM Unit
  | .day2 op hook => op.exec (runHook provider hook)
  | .other hook => runHook provider hook

end Blueprint

/-- A step outside leaves the areas, the gNB PDUs of the topology and their records alone, whether it returns or raises. -/
structure LeavesGnbs (step : Generic5G.RanM Unit) : Prop where
  areas : ∀ s, areaIds (finalState (step.run s)).currentConfig = areaIds s.currentConfig
  gnbs : ∀ s, gnbsOf (finalState (step.run s)).rest.document = gnbsOf s.rest.document
  named : ∀ s, Named s.rest.document → Named (finalState (step.run s)).rest.document
  pdus : ∀ s, (finalState (step.run s)).rest.pdus = s.rest.pdus
  ranAreas : ∀ s, (finalState (step.run s)).rest.ranAreas = s.rest.ranAreas

def HookStep.Leaves : HookStep → Prop
  | .outside step => LeavesGnbs step
  | .updateGnbConfig => True

/-- A gNB PDU of the area that the blueprint has locked is recorded. -/
def Recorded (blueprintId : String) (areaId : Int) (r : RanState) : Prop :=
  ∀ pdu ∈ heldBy blueprintId r.document, pdu.area = areaId → areaId ∈ r.ranAreas.map RANAreaInfo.area

/-- An area leaves the configuration, with `del_tac` or with what `add_tac` puts back, only with its lock recorded. -/
def GnbOp.Safe (provider : RanProvider) (blueprintId : String) : GnbOp → Generic5GState GnbState → Prop
  | .day2 op hook, s =>
    match op with
    | .addTac m => ∀ c, s.currentConfig = some c → c.checkAddTac m = .ok () → ∀ e s',
      (runHook provider hook).run ⟨some (c.setAreas (c.areas ++ [m])), s.rest⟩ = .error e s' → Recorded blueprintId m.id s'.rest.toRanState
    | .delTac areaId => ∀ c, s.currentConfig = some c → c.checkDelTac areaId = .ok () → Recorded blueprintId areaId s.rest.toRanState
    | _ => True
  | .other _, _ => True

/-- Every `update_gnb_config` that returned left the locks as they should be. -/
def AllFollow (blueprintId : String) (s : Generic5GState GnbState) : Prop :=
  ∀ s' ∈ s.rest.returned, FollowsAreas blueprintId s'

/-- No lock is forgotten, and none was by an `update_gnb_config` that returned. -/
structure Kept (blueprintId : String) (ids : List Int) (s : Generic5GState GnbState) : Prop where
  sound : Sound blueprintId ids ⟨s.currentConfig, s.rest.toRanState⟩
  returned : AllFollow blueprintId s

section Keeping

variable {provider : RanProvider} {blueprintId : String} {ids : List Int} {s : Generic5GState GnbState} {c : Create5gModel} {r : GnbState}

theorem HookStep.exec_kept {step : HookStep} (hleaves : step.Leaves) : Maintains (Kept blueprintId ids) (step.exec provider) := by
  cases step with
  | outside step =>
    have hstep : Maintains (Sound blueprintId ids) step := by
      apply Maintains.of_final
      intro s hs
      have hgnbs : heldBy blueprintId (finalState (step.run s)).rest.document = heldBy blueprintId s.rest.document := by
        unfold heldBy
        rw [hleaves.gnbs s]
      refine ⟨(hleaves.areas s).trans hs.config, ⟨?_, hleaves.named s hs.books.named, ?_, ?_, ?_, ?_⟩, ?_⟩
      · rw [hleaves.pdus s]
        exact hs.books.owner
      · rw [hgnbs, hleaves.gnbs s]
        exact hs.books.alone
      · rw [hgnbs, hleaves.pdus s]
        exact hs.books.listed
      · rw [hleaves.ranAreas s]
        exact hs.books.ranKeys
      · rw [hleaves.gnbs s, hleaves.ranAreas s]
        exact hs.books.sites
      · unfold Owned
        rw [hgnbs, hleaves.ranAreas s]
        exact hs.owned
    exact hstep.zoom (fun _ hs => hs.sound) (fun _ _ hs ht => ⟨ht, hs.returned⟩)
  | updateGnbConfig =>
    intro s hs
    change Meets (do
      onRan (Generic5G.updateGnbConfig provider)
      modify (fun s => { s with rest := { s.rest with returned := s.rest.returned ++ [⟨s.currentConfig, s.rest.toRanState⟩] } }) : GnbM Unit) s _ _
    unfold onRan
    rw [meets_bind, meets_zoom]
    apply (updateGnbConfig_sound hs.sound).mono
    · rintro _ t ⟨⟨ht, -⟩, hfollows⟩
      rw [meets_modify]
      refine ⟨ht, ?_⟩
      intro s' hs'
      rcases List.mem_append.1 hs' with hold | hnew
      · exact hs.returned s' hold
      · rw [List.mem_singleton.1 hnew]
        exact ht.followsAreas hfollows
    · rintro _ t ⟨ht, -⟩
      exact ⟨ht, hs.returned⟩

theorem runHook_kept {hook : List HookStep} (hleaves : ∀ step ∈ hook, step.Leaves) :
    Maintains (Kept blueprintId ids) (runHook provider hook) :=
  Maintains.forM (fun step hstep => HookStep.exec_kept (hleaves step hstep))

end Keeping

section Operations

variable {provider : RanProvider} {blueprintId : String} {s : Generic5GState GnbState} {c : Create5gModel} {r : GnbState}

/-- Between two operations. -/
def Steady (blueprintId : String) (s : Generic5GState GnbState) : Prop :=
  ∃ ids, Kept blueprintId ids s

theorem Owned.mono {ids ids' : List Int} {r : RanState} (h : Owned blueprintId ids r)
    (hids : ∀ areaId ∈ ids, areaId ∈ ids' ∨ Recorded blueprintId areaId r) : Owned blueprintId ids' r := by
  intro pdu hpdu
  rcases h pdu hpdu with hin | hrecorded
  · rcases hids pdu.area hin with hin | hrecorded
    · exact .inl hin
    · exact .inr (hrecorded pdu hpdu rfl)
  · exact .inr hrecorded

theorem Kept.config (h : Kept blueprintId c.areaIds ⟨some c, r⟩) (c' : Create5gModel) (howned : Owned blueprintId c'.areaIds r.toRanState) :
    Kept blueprintId c'.areaIds ⟨some c', r⟩ :=
  ⟨⟨rfl, h.sound.books, howned⟩, h.returned⟩

/-- The areas of the configuration requested, and of the one that is put back. -/
theorem requested_owned {op : Day2Op} {hook : List HookStep} (haccepted : op.Accepted c)
    (hsafe : (GnbOp.day2 op hook).Safe provider blueprintId ⟨some c, r⟩) (h : Owned blueprintId c.areaIds r.toRanState) :
    Owned blueprintId (op.requested c).areaIds r.toRanState ∧
      ∀ e s', (runHook provider hook).run ⟨some (op.requested c), r⟩ = .error e s' →
        Owned blueprintId (op.requested c).areaIds s'.rest.toRanState → Owned blueprintId c.areaIds s'.rest.toRanState := by
  by_cases hadd : ∃ m, op = .addTac m
  · obtain ⟨m, rfl⟩ := hadd
    have hids : ((Day2Op.addTac m).requested c).areaIds = c.areaIds ++ [m.id] := by
      change (c.areas ++ [m]).map SubArea.id = _
      rw [List.map_append]
      rfl
    rw [hids]
    refine ⟨h.mono (fun areaId hid => .inl (List.mem_append_left _ hid)), ?_⟩
    intro e s' hrun howned
    apply howned.mono
    intro areaId hid
    rcases List.mem_append.1 hid with hid | hid
    · exact .inl hid
    · rw [List.mem_singleton.1 hid]
      exact .inr (hsafe c rfl haccepted e s' hrun)
  · by_cases hdel : ∃ areaId, op = .delTac areaId
    · obtain ⟨gone, rfl⟩ := hdel
      have hids : ∀ areaId, areaId ∈ ((Day2Op.delTac gone).requested c).areaIds ↔ areaId ∈ c.areaIds ∧ areaId ≠ gone := by
        intro areaId
        change areaId ∈ (c.areas.filter (fun x => decide (x.id ≠ gone))).map SubArea.id ↔ areaId ∈ c.areas.map SubArea.id ∧ _
        rw [List.mem_map, List.mem_map]
        constructor
        · rintro ⟨area, harea, rfl⟩
          obtain ⟨hmem, hne⟩ := List.mem_filter.1 harea
          exact ⟨⟨area, hmem, rfl⟩, of_decide_eq_true hne⟩
        · rintro ⟨⟨area, hmem, rfl⟩, hne⟩
          exact ⟨area, List.mem_filter.2 ⟨hmem, decide_eq_true hne⟩, rfl⟩
      refine ⟨h.mono ?_, fun e s' _ howned => howned.mono (fun areaId hid => .inl ((hids areaId).1 hid).1)⟩
      intro areaId hid
      by_cases hgone : areaId = gone
      · rw [hgone]
        exact .inr (hsafe c rfl haccepted)
      · exact .inl ((hids areaId).2 ⟨hid, hgone⟩)
    · rw [requested_areaIds_of_ne (fun m he => hadd ⟨m, he⟩) (fun areaId he => hdel ⟨areaId, he⟩)]
      exact ⟨h, fun _ _ _ howned => howned⟩

theorem exec_steady {op : GnbOp} (hleaves : ∀ step ∈ op.hook, step.Leaves) (h : Steady blueprintId s)
    (hsafe : op.Safe provider blueprintId s) : Steady blueprintId (finalState ((op.exec provider).run s)) := by
  obtain ⟨ids, hkept⟩ := h
  cases op with
  | other hook => exact ⟨ids, (runHook_kept hleaves).finalState hkept⟩
  | day2 op hook =>
    obtain ⟨config, r⟩ := s
    obtain ⟨c, hc, rfl⟩ := Option.map_eq_some_iff.1 hkept.sound.config
    obtain rfl : config = some c := hc
    change Steady blueprintId (finalState ((op.exec (runHook provider hook)).run ⟨some c, r⟩))
    rcases op.exec_cases c r with ⟨e, he⟩ | ⟨haccepted, he⟩ | ⟨-, sliceId, e, -, he⟩
    · rw [he]
      exact ⟨_, hkept⟩
    · obtain ⟨hrequested, hback⟩ := requested_owned haccepted hsafe hkept.sound.owned
      have hhook : Meets (runHook provider hook) _ _ _ := runHook_kept hleaves _ (hkept.config (op.requested c) hrequested)
      unfold Meets at hhook
      rw [he, Generic5G.restoring_run]
      cases hrun : (runHook provider hook).run ⟨some (op.requested c), r⟩ with
      | ok u s' =>
        rw [hrun] at hhook
        exact ⟨_, hhook⟩
      | error e s' =>
        rw [hrun] at hhook
        exact ⟨c.areaIds, ⟨rfl, hhook.sound.books, hback e s' hrun hhook.sound.owned⟩, hhook.returned⟩
    · rw [he]
      refine ⟨_, hkept.config (c.setAreas (areasLeft sliceId c.areas)) ?_⟩
      have hids : (c.setAreas (areasLeft sliceId c.areas)).areaIds = c.areaIds := areasLeft_ids sliceId c.areas
      rw [hids]
      exact hkept.sound.owned

end Operations

/-- A blueprint that has not been created, with an id that no gNB PDU is locked by. -/
structure Fresh (blueprintId : String) (s : Generic5GState GnbState) : Prop where
  named : Named s.rest.document
  pdus : s.rest.pdus = { blueprintId := blueprintId, lockedPdus := [] }
  free : heldBy blueprintId s.rest.document = []
  ranAreas : s.rest.ranAreas = []
  returned : s.rest.returned = []

section Creation

variable {provider : RanProvider} {blueprintId : String} {ids : List Int} {s : Generic5GState GnbState}

theorem Fresh.kept (h : Fresh blueprintId s) (createModel : Create5gModel) :
    Kept blueprintId createModel.areaIds { s with currentConfig := some createModel } := by
  refine ⟨⟨rfl, ⟨?_, h.named, ?_, ?_, ?_, ?_⟩, ?_⟩, ?_⟩
  · change s.rest.pdus.blueprintId = blueprintId
    rw [h.pdus]
  · intro pdu hpdu
    rw [h.free] at hpdu
    cases hpdu
  · change (s.rest.pdus.lockedPdus.map PduModel.name).Perm ((heldBy blueprintId s.rest.document).map PduModel.name)
    rw [h.pdus, h.free]
  · change Unique RANAreaInfo.area s.rest.ranAreas
    rw [h.ranAreas]
    exact List.nodup_nil
  · intro info hinfo
    rw [h.ranAreas] at hinfo
    cases hinfo
  · intro pdu hpdu
    rw [h.free] at hpdu
    cases hpdu
  · intro s' hs'
    rw [h.returned] at hs'
    cases hs'

theorem create_steady {createModel : Create5gModel} {hook : List HookStep} (hleaves : ∀ step ∈ hook, step.Leaves) (h : Fresh blueprintId s) :
    Steady blueprintId (finalState ((create provider createModel hook).run s)) := by
  have hcheck : Maintains (Kept blueprintId createModel.areaIds) (Generic5G.onConfig "config"
      (Create5gModel.checking Create5gModel.configurationFeasibilityCheck)) := by
    rintro ⟨config, r⟩ hs
    cases config with
    | none => exact hs
    | some c =>
      unfold Meets
      rw [Generic5G.onConfig_run, Create5gModel.checking_run]
      cases c.configurationFeasibilityCheck with
      | ok u => exact hs
      | error e => exact hs
  have hlocks : Maintains (Kept blueprintId createModel.areaIds) (onRan (Generic5G.getGnbPdus provider)) := by
    have hsound : Maintains (Sound blueprintId createModel.areaIds) (Generic5G.getGnbPdus provider) := by
      intro s hs
      apply (getGnbPdus_sound hs).mono
      · exact fun _ _ hs' => hs'.1.1
      · exact fun _ _ hs' => hs'.1
    exact hsound.zoom (fun _ hs => hs.sound) (fun _ _ hs ht => ⟨ht, hs.returned⟩)
  have hrest : Maintains (Kept blueprintId createModel.areaIds) (do
      Generic5G.onConfig "config" (Create5gModel.checking Create5gModel.configurationFeasibilityCheck)
      let _ ← onRan (Generic5G.getGnbPdus provider)
      runHook provider hook) :=
    hcheck.bind (fun _ => hlocks.bind (fun _ => runHook_kept hleaves))
  exact ⟨createModel.areaIds, hrest.finalState (h.kept createModel)⟩

end Creation

/-- The campus before its core is created. -/
def campusFresh : Generic5GState GnbState :=
  ⟨none, { campusRadio campusTwo with }⟩

theorem campusFresh_fresh : Fresh "core" campusFresh where
  named := ⟨campusGnbs, rfl, by decide⟩
  pdus := rfl
  free := by decide
  ranAreas := rfl
  returned := rfl

theorem gnbHook_leaves : ∀ step ∈ [HookStep.updateGnbConfig], step.Leaves := by
  intro step hstep
  obtain rfl := List.mem_singleton.1 hstep
  exact trivial

/-- The gNB of area 2 cannot be configured. -/
def campusDeaf : RanProvider :=
  { campusRan with
    raises := fun call _ => if call = .configure "gnb2" then some (.runtimeError "Unable to connect to port 22") else none }

end GnbLocks

end Nfvcl
