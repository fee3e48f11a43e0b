import Mathlib.Data.List.Basic
import Mathlib.Data.List.Dedup
import Mathlib.Data.List.Nodup
import Nfvcl.SdCoreRebuild
import Nfvcl.SubscriberRecords

namespace Nfvcl
set_option autoImplicit true
open Effects Loops KeyedList SdCore

namespace Create5gModel

def withSubscriber (c : Create5gModel) (subscriber : SubSubscribers) : Create5gModel :=
  { c with config := { c.config with subscribers := c.config.subscribers ++ [subscriber] } }

def withoutSubscriber (c : Create5gModel) (imsi : String) : Create5gModel :=
  { c with config := { c.config with subscribers := c.config.subscribers.filter (fun s => decide (s.imsi ≠ imsi)) } }

end Create5gModel

def SubSubscribers.withoutSlice (sliceId : String) (subscriber : SubSubscribers) : SubSubscribers :=
  { subscriber with snssai := subscriber.snssai.filter (fun snssai => decide (snssai.sliceId ≠ sliceId)) }

namespace Create5gModel

/-- Neither the slice nor a reference to it. -/
def withoutSlice (c : Create5gModel) (sliceId : String) : Create5gModel :=
  { c with
    config := { c.config with
      sliceProfiles := c.config.sliceProfiles.map (fun profiles => profiles.filter (fun profile => decide (profile.sliceId ≠ sliceId)))
      subscribers := c.config.subscribers.map (SubSubscribers.withoutSlice sliceId) }
    areas := c.areas.map (SubArea.withoutSlice sliceId) }

end Create5gModel

namespace SimAppYamlConfiguration

section Updates

variable (lower : String → String)

/-- An integer and a unit. -/
def WellFormedAmbr (ambr : Option String) : Prop :=
  ∃ text amount unit rest n, ambr = some text ∧ (splitChars ' ' text.toList).map String.ofList = amount :: unit :: rest ∧
    PyInt.parse amount = .ok n ∧ lower unit ∈ ["mbps", "gbps", "kbps"]

/-- Every slice has one DNN, whose AMBR strings are well formed. -/
structure OneDnn (c : Create5gModel) : Prop where
  dnns : ∀ profile ∈ c.profiles, profile.dnnList.length = 1
  ambrs : ∀ profile ∈ c.profiles, ∀ net ∈ c.config.networkEndpoints.dataNets, net.dnn ∈ profile.dnnList →
    WellFormedAmbr lower net.uplinkAmbr ∧ WellFormedAmbr lower net.downlinkAmbr

/-- There are slice profiles; the areas have lists of slices where they are looked up; the DNNs in use
have a pool and one unit; no subscriber names a slice twice. -/
structure Convertible (c : Create5gModel) : Prop where
  profiles : c.config.sliceProfiles ≠ none
  areas : c.profiles ≠ [] → ∀ area ∈ c.areas, area.slices ≠ none
  nets : ∀ profile ∈ c.profiles, ∀ net ∈ c.config.networkEndpoints.dataNets, net.dnn ∈ profile.dnnList →
    net.pools ≠ [] ∧ ambrUnit lower net.downlinkAmbr = ambrUnit lower net.uplinkAmbr
  subscribers : ∀ subscriber ∈ c.config.subscribers, (subscriber.snssai.map SubSnssai.sliceId).Nodup

/-- `from_generic_5g_model` returns with the values, whatever there was before. -/
def Rebuilds (c : Create5gModel) (v : SimAppYamlConfiguration) : Prop :=
  ∀ v₀, (fromGeneric5gModel lower c).run v₀ = .ok () v

def SameLists (v w : SimAppYamlConfiguration) : Prop :=
  v.subscribers = w.subscribers ∧ v.deviceGroups = w.deviceGroups ∧ v.networkSlices = w.networkSlices

/-- The call leads to what a rebuild from the configuration gives. -/
def Leads (op : ValuesM Unit) (v : SimAppYamlConfiguration) (c : Create5gModel) : Prop :=
  ∃ v' w, op.run v = .ok () v' ∧ Rebuilds lower c w ∧ SameLists v' w

structure Agrees (c : Create5gModel) (v : SimAppYamlConfiguration) : Prop where
  built : Rebuilds lower c v
  slices : v.networkSlices.map (fun slice => slice.sliceId.sd) = c.profiles.map SubSliceProfiles.sliceId
  sites : ∀ slice : NetworkSlice, slice ∈ v.networkSlices → slice.siteDeviceGroup = [deviceGroupName slice.sliceId.sd]
  groups : v.deviceGroups.map DeviceGroup.name = c.profiles.map (fun profile => deviceGroupName profile.sliceId)
  imsis : ∀ profile ∈ c.profiles, ∀ group ∈ v.deviceGroups, group.name = deviceGroupName profile.sliceId →
    group.imsis.Perm ((c.config.subscribers.filter (fun s => decide (∃ x ∈ s.snssai, x.sliceId = profile.sliceId))).map SubSubscribers.imsi)
  added : ∀ subscriber, (c.withSubscriber subscriber).Closed → (c.withSubscriber subscriber).KeysUnique →
    Leads lower (addSubscriberFromGenericModel subscriber) v (c.withSubscriber subscriber)
  subscriberDeleted : ∀ subscriber ∈ c.config.subscribers,
    Leads lower (deleteSubscriber subscriber.imsi) v (c.withoutSubscriber subscriber.imsi)
  sliceDeleted : ∀ profile ∈ c.profiles, Leads lower (deleteSlice profile.sliceId) v (c.withoutSlice profile.sliceId)

variable {lower} {c : Create5gModel} {profile : SubSliceProfiles}

/-! ### Which profiles can be planned -/

theorem exists_bind_ok {m : Except ε α} {f : α → Except ε β} : (∃ b, m >>= f = .ok b) ↔ ∃ a, m = .ok a ∧ ∃ b, f a = .ok b := by
  constructor
  · rintro ⟨b, h⟩
    obtain ⟨a, ha, hb⟩ := except_bind_ok.1 h
    exact ⟨a, ha, b, hb⟩
  · rintro ⟨a, ha, b, hb⟩
    exact ⟨b, except_bind_ok.2 ⟨a, ha, hb⟩⟩

theorem areasWithSlice_ok_iff : (∃ areas, areasWithSlice c profile = .ok areas) ↔ ∀ area ∈ c.areas, area.slices ≠ none := by
  constructor
  · intro h area harea
    obtain ⟨ids, hids, -⟩ := exists_bind_ok.1 h
    obtain ⟨_, harea⟩ := exists_mapM_ok.1 ⟨ids, hids⟩ area harea
    obtain ⟨slices, hslices, -⟩ := except_bind_ok.1 harea
    rw [OpenAirInterface.iterate_ok_iff.1 hslices]
    exact Option.some_ne_none _
  · intro h
    refine exists_bind_ok.2 ((exists_mapM_ok.2 ?_).imp fun ids hids => ⟨hids, _, rfl⟩)
    intro area harea
    obtain ⟨slices, hslices⟩ := Option.ne_none_iff_exists'.1 (h area harea)
    exact exists_bind_ok.2 ⟨slices, OpenAirInterface.iterate_ok_iff.2 hslices, _, rfl⟩

theorem WellFormedAmbr.parsed (h : WellFormedAmbr lower ambr) :
    ∃ unit n, ambrUnit lower ambr = .ok unit ∧ unit ∈ ["mbps", "gbps", "kbps"] ∧ ambrAmount ambr = .ok n := by
  obtain ⟨text, amount, unit, rest, n, rfl, hparts, hn, hunit⟩ := h
  refine ⟨lower unit, n, ?_, hunit, ?_⟩
  · refine except_bind_ok.2 ⟨_, congrArg Except.ok hparts, ?_⟩
    rfl
  · refine except_bind_ok.2 ⟨_, congrArg Except.ok hparts, ?_⟩
    exact hn

theorem sliceValues_ok_iff {nets : List SubDataNets} (hnets : Unique SubDataNets.dnn nets) (hnet : net ∈ nets)
    (hdnn : profile.dnnList = [net.dnn]) (hup : WellFormedAmbr lower net.uplinkAmbr) (hdown : WellFormedAmbr lower net.downlinkAmbr) :
    (∃ planned, sliceValues lower (some plmn) (some nets) profile areaId = .ok planned) ↔
      net.pools ≠ [] ∧ ambrUnit lower net.downlinkAmbr = ambrUnit lower net.uplinkAmbr := by
  obtain ⟨up, upAmount, hupUnit, -, hupAmount⟩ := hup.parsed
  obtain ⟨down, downAmount, hdownUnit, hdownMem, hdownAmount⟩ := hdown.parsed
  have hfirst : Generic5G.first (nets.filter (fun x => decide (x.dnn = net.dnn))) = .ok net := first_filter_unique hnets hnet
  unfold sliceValues
  rw [hdnn]
  dsimp only [iterate]
  constructor
  · rintro ⟨planned, h⟩
    obtain ⟨_, h₁, h⟩ := except_bind_ok.1 h
    cases h₁
    obtain ⟨_, h₁, h⟩ := except_bind_ok.1 h
    cases hfirst.symm.trans h₁
    obtain ⟨_, h₁, h⟩ := except_bind_ok.1 h
    cases hdownUnit.symm.trans h₁
    obtain ⟨_, h₁, h⟩ := except_bind_ok.1 h
    cases hupUnit.symm.trans h₁
    by_cases hsame : down = up
    · rw [if_neg (not_not.2 hsame), if_neg (not_not.2 hdownMem)] at h
      obtain ⟨pool, hpool, -⟩ := except_bind_ok.1 h
      refine ⟨?_, by rw [hupUnit, hdownUnit, hsame]⟩
      intro hnil
      rw [hnil] at hpool
      cases hpool
    · rw [if_pos hsame] at h
      cases h
  · rintro ⟨hpools, hunits⟩
    obtain ⟨pool, pools, hpool⟩ := List.exists_cons_of_ne_nil hpools
    rw [hupUnit, hdownUnit] at hunits
    cases hunits
    refine exists_bind_ok.2 ⟨_, rfl, exists_bind_ok.2 ⟨_, hfirst, exists_bind_ok.2 ⟨_, hdownUnit, exists_bind_ok.2 ⟨_, hupUnit, ?_⟩⟩⟩⟩
    rw [if_neg (not_not.2 rfl), if_neg (not_not.2 hdownMem), hpool]
    exact exists_bind_ok.2 ⟨_, rfl, exists_bind_ok.2 ⟨_, hdownAmount, exists_bind_ok.2 ⟨_, hupAmount, _, rfl⟩⟩⟩

theorem exists_planOf_iff (hclosed : c.Closed) (hkeys : c.KeysUnique) (hone : OneDnn lower c) (hprofile : profile ∈ c.profiles) :
    (∃ planned, planOf lower c profile = some planned) ↔ (∀ area ∈ c.areas, area.slices ≠ none) ∧
      ∀ net ∈ c.config.networkEndpoints.dataNets, net.dnn ∈ profile.dnnList →
        net.pools ≠ [] ∧ ambrUnit lower net.downlinkAmbr = ambrUnit lower net.uplinkAmbr := by
  obtain ⟨dnn, hdnn⟩ := List.length_eq_one_iff.1 (hone.dnns profile hprofile)
  obtain ⟨net, hnet, rfl⟩ := hclosed.profiles profile hprofile dnn (by rw [hdnn]; exact List.mem_singleton_self dnn)
  have hmem : net.dnn ∈ profile.dnnList := by
    rw [hdnn]
    exact List.mem_singleton_self _
  obtain ⟨hup, hdown⟩ := hone.ambrs profile hprofile net hnet hmem
  have honly : (∀ other ∈ c.config.networkEndpoints.dataNets, other.dnn ∈ profile.dnnList →
      other.pools ≠ [] ∧ ambrUnit lower other.downlinkAmbr = ambrUnit lower other.uplinkAmbr) ↔
      net.pools ≠ [] ∧ ambrUnit lower net.downlinkAmbr = ambrUnit lower net.uplinkAmbr := by
    constructor
    · exact fun h => h net hnet hmem
    · intro h other hother hotherMem
      rw [hdnn, List.mem_singleton] at hotherMem
      cases List.inj_on_of_nodup_map hkeys.dataNets hother hnet hotherMem
      exact h
  rw [honly, ← areasWithSlice_ok_iff]
  constructor
  · rintro ⟨planned, h⟩
    obtain ⟨areas, hareas, hvalues⟩ := planOf_eq_some_iff.1 h
    exact ⟨⟨areas, hareas⟩, (sliceValues_ok_iff hkeys.dataNets hnet hdnn hup hdown).1 ⟨planned, hvalues⟩⟩
  · rintro ⟨⟨areas, hareas⟩, hpools⟩
    obtain ⟨planned, hvalues⟩ := (sliceValues_ok_iff
      hkeys.dataNets hnet hdnn hup hdown).2 hpools
    exact ⟨planned, planOf_eq_some_iff.2 ⟨areas, hareas, hvalues⟩⟩

/-! ### Configurations that can be rebuilt -/

/-- The plans of the profiles, for a configuration that the values can be built from. -/
structure Plans (lower : String → String) (c : Create5gModel) (planned : List (NetworkSlice × DeviceGroup)) : Prop where
  planned : Planned (planOf lower c) c.profiles planned
  profiles : c.config.sliceProfiles ≠ none
  closed : c.Closed
  sliceIds : Unique SubSliceProfiles.sliceId c.profiles

variable {planned : List (NetworkSlice × DeviceGroup)} {subscriber : SubSubscribers} {sliceId : String}

theorem Plans.rebuilds (h : Plans lower c planned) : Rebuilds lower c (rebuilt c planned) :=
  fromGeneric5gModel_ok h.planned h.profiles h.closed h.sliceIds

theorem Plans.distinct (h : Plans lower c planned) : Distinct planned :=
  Planned.distinct h.planned h.sliceIds

theorem Plans.exists_plan (h : Plans lower c planned) (hid : c.HasProfile sliceId) : ∃ p ∈ planned, p.1.sliceId.sd = sliceId := by
  obtain ⟨profile, hprofile, rfl⟩ := hid
  obtain ⟨p, hp, hplan⟩ := h.planned.exists_of_mem hprofile
  exact ⟨p, hp, (planOf_ofSlice hplan).sd⟩

theorem sameLists_refl (v : SimAppYamlConfiguration) : SameLists v v := ⟨rfl, rfl, rfl⟩

theorem Plans.leads {c' : Create5gModel} (h : Plans lower c' planned) {op : ValuesM Unit} :
    Leads lower op v c' ↔ ∃ v', op.run v = .ok () v' ∧ SameLists v' (rebuilt c' planned) := by
  constructor
  · rintro ⟨v', w, hrun, hw, hsame⟩
    cases (hw v).symm.trans (h.rebuilds v)
    exact ⟨v', hrun, hsame⟩
  · rintro ⟨v', hrun, hsame⟩
    exact ⟨v', _, hrun, h.rebuilds, hsame⟩

/-! ### Adding a subscriber -/

theorem Plans.withSubscriber (h : Plans lower c planned) (hclosed : (c.withSubscriber subscriber).Closed) :
    Plans lower (c.withSubscriber subscriber) planned :=
  ⟨h.planned, h.profiles, hclosed, h.sliceIds⟩

theorem added_leads (h : Plans lower c planned) (hclosed : (c.withSubscriber subscriber).Closed) :
    Leads lower (addSubscriberFromGenericModel subscriber) (rebuilt c planned) (c.withSubscriber subscriber) := by
  refine (h.withSubscriber hclosed).leads.2 ⟨_, addSubscriber_ok h.distinct ?_ c.config.subscribers, sameLists_refl _⟩
  intro snssai hsnssai
  exact h.exists_plan (hclosed.subscribers subscriber (List.mem_append_right _ (List.mem_singleton_self _)) snssai hsnssai)

/-! ### Deleting a subscriber -/

theorem Plans.withoutSubscriber (h : Plans lower c planned) (imsi : String) : Plans lower (c.withoutSubscriber imsi) planned where
  planned := h.planned
  profiles := h.profiles
  closed := ⟨h.closed.areas, h.closed.profiles, fun s hs => h.closed.subscribers s (List.mem_of_mem_filter hs)⟩
  sliceIds := h.sliceIds

theorem sameGroups_iff {imsis imsis' : String → List String} :
    planned.map (withImsis imsis) = planned.map (withImsis imsis') ↔ ∀ p ∈ planned, imsis p.1.sliceId.sd = imsis' p.1.sliceId.sd := by
  rw [List.map_inj_left]
  apply forall₂_congr
  intro p _
  exact ⟨fun h => congrArg DeviceGroup.imsis h, withImsis_congr⟩

theorem imsisOf_append (pre post : List SubSubscribers) (sd : String) : imsisOf (pre ++ post) sd = imsisOf pre sd ++ imsisOf post sd :=
  List.flatMap_append

/-- The imsis of a subscriber that a deletion leaves. -/
def leftImsis (pre post : List SubSubscribers) (subscriber : SubSubscribers) (sd : String) : List String :=
  imsisOf pre sd ++ List.replicate (timesNamed subscriber sd / 2) subscriber.imsi ++ imsisOf post sd

theorem imsisOf_once {generics : List SubSubscribers} (h : ∀ s ∈ generics, (s.snssai.map SubSnssai.sliceId).Nodup) :
    imsisOf generics sliceId = (generics.filter (fun s => decide (∃ x ∈ s.snssai, x.sliceId = sliceId))).map SubSubscribers.imsi := by
  induction generics with
  | nil => rfl
  | cons s generics ih =>
    have hrest := ih fun g hg => h g (List.mem_cons_of_mem s hg)
    unfold imsisOf at hrest ⊢
    rw [List.flatMap_cons, hrest]
    by_cases hnamed : ∃ x ∈ s.snssai, x.sliceId = sliceId
    · have hone : timesNamed s sliceId = 1 := List.count_eq_one_of_mem (h s List.mem_cons_self) (List.mem_map.2 hnamed)
      rw [List.filter_cons_of_pos (by exact decide_eq_true hnamed), hone]
      rfl
    · have hzero : timesNamed s sliceId = 0 := List.count_eq_zero_of_not_mem fun hmem => hnamed (List.mem_map.1 hmem)
      rw [List.filter_cons_of_neg (by simpa using hnamed), hzero]
      rfl

theorem leftImsis_eq_iff {pre post : List SubSubscribers} {sd : String} :
    leftImsis pre post subscriber sd = imsisOf (pre ++ post) sd ↔ timesNamed subscriber sd / 2 = 0 := by
  unfold leftImsis
  rw [imsisOf_append, List.append_assoc, List.append_cancel_left_eq, List.append_left_eq_self, List.replicate_eq_nil_iff]

theorem namedOnce_iff (h : Plans lower c planned) (hmem : subscriber ∈ c.config.subscribers) :
    (∀ p ∈ planned, timesNamed subscriber p.1.sliceId.sd / 2 = 0) ↔ (subscriber.snssai.map SubSnssai.sliceId).Nodup := by
  rw [List.nodup_iff_count_le_one]
  constructor
  · intro hall sd
    by_cases hsd : sd ∈ subscriber.snssai.map SubSnssai.sliceId
    · obtain ⟨snssai, hsnssai, rfl⟩ := List.mem_map.1 hsd
      obtain ⟨p, hp, he⟩ := h.exists_plan (h.closed.subscribers subscriber hmem snssai hsnssai)
      have hhalf := hall p hp
      rw [he, timesNamed] at hhalf
      omega
    · rw [List.count_eq_zero_of_not_mem hsd]
      exact Nat.zero_le 1
  · intro hall p _
    have hle : timesNamed subscriber p.1.sliceId.sd ≤ 1 := hall p.1.sliceId.sd
    omega

theorem subscriberDeleted_leads_iff (h : Plans lower c planned) (hunique : Unique SubSubscribers.imsi c.config.subscribers)
    (hmem : subscriber ∈ c.config.subscribers) :
    Leads lower (deleteSubscriber subscriber.imsi) (rebuilt c planned) (c.withoutSubscriber subscriber.imsi) ↔
      (subscriber.snssai.map SubSnssai.sliceId).Nodup := by
  obtain ⟨pre, post, hsubscribers⟩ := List.append_of_mem hmem
  have hothers : ∀ g ∈ pre ++ post, g.imsi ≠ subscriber.imsi := by
    unfold KeyedList.Unique at hunique
    rw [hsubscribers, List.map_append, List.map_cons, List.nodup_middle, List.nodup_cons, ← List.map_append] at hunique
    exact fun g hg he => hunique.1 (List.mem_map.2 ⟨g, hg, he⟩)
  have hwithout : (c.withoutSubscriber subscriber.imsi).config.subscribers = pre ++ post := by
    show c.config.subscribers.filter _ = _
    rw [hsubscribers, List.filter_append, List.filter_cons_of_neg (by simp), ← List.filter_append, List.filter_eq_self]
    intro g hg
    simpa using hothers g hg
  have hrun : (deleteSubscriber subscriber.imsi).run (rebuilt c planned) = _ := deleteSubscriber_ok pre post hsubscribers
    (fun g hg => hothers g (List.mem_append_left _ hg)) (fun g hg => hothers g (List.mem_append_right _ hg))
  have hgroups : planned.map (withImsis (leftImsis pre post subscriber)) = planned.map (withImsis (imsisOf (pre ++ post))) ↔
      (subscriber.snssai.map SubSnssai.sliceId).Nodup := by
    rw [sameGroups_iff, ← namedOnce_iff h hmem]
    exact forall₂_congr fun _ _ => leftImsis_eq_iff
  rw [(h.withoutSubscriber subscriber.imsi).leads, ← hgroups]
  unfold rebuilt at hrun ⊢
  rw [hwithout]
  constructor
  · rintro ⟨v', hrun', hsame⟩
    cases hrun'.symm.trans hrun
    exact hsame.2.1
  · exact fun hsame => ⟨_, hrun, rfl, hsame, rfl⟩

/-! ### Deleting a slice -/

theorem planOf_withoutSlice (hne : profile.sliceId ≠ sliceId) : planOf lower (c.withoutSlice sliceId) profile = planOf lower c profile := by
  have hareas : areasWithSlice (c.withoutSlice sliceId) profile = areasWithSlice c profile := by
    unfold areasWithSlice
    show ((c.areas.map (SubArea.withoutSlice sliceId)).mapM _ >>= _) = _
    rw [List.mapM_map]
    congr 2
    funext area
    rw [Function.comp_apply]
    unfold SubArea.withoutSlice
    cases area.slices with
    | none => rfl
    | some slices =>
      have hfilter : (slices.filter (fun slice => decide (slice.sliceId ≠ sliceId))).filter (fun slice => decide (slice.sliceId = profile.sliceId)) =
          slices.filter (fun slice => decide (slice.sliceId = profile.sliceId)) := by
        rw [List.filter_filter]
        apply List.filter_congr
        intro slice _
        by_cases he : slice.sliceId = profile.sliceId
        · rw [decide_eq_true he, he, decide_eq_true hne]
          rfl
        · rw [decide_eq_false he]
          rfl
      show Except.ok (((slices.filter _).filter _).map _) = Except.ok ((slices.filter _).map _)
      rw [hfilter]
  unfold planOf
  rw [hareas]
  rfl

theorem profiles_withoutSlice (c : Create5gModel) (sliceId : String) :
    (c.withoutSlice sliceId).profiles = c.profiles.filter (fun profile => decide (profile.sliceId ≠ sliceId)) := by
  unfold Create5gModel.profiles Create5gModel.withoutSlice
  cases c.config.sliceProfiles with
  | none => rfl
  | some profiles => rfl

theorem hasProfile_withoutSlice {other : String} (h : c.HasProfile other) (hne : other ≠ sliceId) : (c.withoutSlice sliceId).HasProfile other := by
  obtain ⟨profile, hprofile, rfl⟩ := h
  refine ⟨profile, ?_, rfl⟩
  show profile ∈ (c.withoutSlice sliceId).profiles
  rw [profiles_withoutSlice]
  exact List.mem_filter.2 ⟨hprofile, decide_eq_true hne⟩

theorem Plans.withoutSlice (h : Plans lower c planned) (sliceId : String) :
    Plans lower (c.withoutSlice sliceId) (planned.filter (fun p => decide (p.1.sliceId.sd ≠ sliceId))) where
  planned := by
    rw [profiles_withoutSlice]
    refine (h.planned.filter ?_).congr ?_
    · intro profile _ p hp
      rw [(planOf_ofSlice hp).sd]
    · intro profile hprofile
      exact (planOf_withoutSlice (of_decide_eq_true (List.mem_filter.1 hprofile).2)).symm
  profiles := fun hnone => h.profiles (Option.map_eq_none_iff.1 hnone)
  closed := by
    refine ⟨?_, ?_, ?_⟩
    · intro area harea slice hslice
      obtain ⟨old, hold, rfl⟩ := List.mem_map.1 harea
      obtain ⟨hslice, hne⟩ := mem_withoutSlice hslice
      exact hasProfile_withoutSlice (h.closed.areas old hold slice hslice) hne
    · intro profile hprofile
      have hmem : profile ∈ (c.withoutSlice sliceId).profiles := hprofile
      rw [profiles_withoutSlice] at hmem
      exact h.closed.profiles profile (List.mem_of_mem_filter hmem)
    · intro s hs snssai hsnssai
      obtain ⟨old, hold, rfl⟩ := List.mem_map.1 hs
      obtain ⟨hsnssai, hne⟩ := List.mem_filter.1 hsnssai
      exact hasProfile_withoutSlice (h.closed.subscribers old hold snssai hsnssai) (of_decide_eq_true hne)
  sliceIds := by
    rw [profiles_withoutSlice]
    exact h.sliceIds.sublist (List.filter_sublist.map _)

theorem timesNamed_withoutSlice (hne : sd ≠ sliceId) : timesNamed (SubSubscribers.withoutSlice sliceId subscriber) sd = timesNamed subscriber sd := by
  unfold timesNamed SubSubscribers.withoutSlice
  have hmap : (subscriber.snssai.filter (fun snssai => decide (snssai.sliceId ≠ sliceId))).map SubSnssai.sliceId =
      (subscriber.snssai.map SubSnssai.sliceId).filter (fun id => decide (id ≠ sliceId)) := by
    rw [List.filter_map]
    rfl
  rw [hmap, List.count_filter (by simpa using hne)]

theorem sliceDeleted_leads (h : Plans lower c planned) (hprofile : profile ∈ c.profiles) :
    Leads lower (deleteSlice profile.sliceId) (rebuilt c planned) (c.withoutSlice profile.sliceId) := by
  obtain ⟨p, hp, hsd⟩ := h.exists_plan ⟨profile, hprofile, rfl⟩
  rw [← hsd]
  refine (h.withoutSlice p.1.sliceId.sd).leads.2 ⟨_, deleteSlice_ok h.distinct hp, ?_, ?_, rfl⟩
  · show _ = (c.config.subscribers.map (SubSubscribers.withoutSlice p.1.sliceId.sd)).map (subscriberOf c.config.plmn)
    rw [List.map_map]
    rfl
  · refine sameGroups_iff.2 fun q hq => ?_
    show imsisOf c.config.subscribers q.1.sliceId.sd =
      imsisOf (c.config.subscribers.map (SubSubscribers.withoutSlice p.1.sliceId.sd)) q.1.sliceId.sd
    unfold imsisOf
    rw [List.flatMap_map]
    apply List.flatMap_congr
    intro s _
    rw [timesNamed_withoutSlice (of_decide_eq_true (List.mem_filter.1 hq).2)]
    rfl

/-! ### Incremental values -/

theorem Plans.agrees (h : Plans lower c planned) (hkeys : c.KeysUnique)
    (honce : ∀ subscriber ∈ c.config.subscribers, (subscriber.snssai.map SubSnssai.sliceId).Nodup) : Agrees lower c (rebuilt c planned) where
  built := h.rebuilds
  slices := by
    show (planned.map Prod.fst).map _ = _
    rw [List.map_map, Planned.sds h.planned]
    rfl
  sites := by
    intro slice hslice
    obtain ⟨p, hp, rfl⟩ := List.mem_map.1 hslice
    exact (h.distinct.ofSlice p hp).siteDeviceGroup
  groups := by
    show (planned.map (withImsis _)).map DeviceGroup.name = _
    rw [List.map_map]
    exact (h.planned.map_eq fun _ _ _ hp => (planOf_ofSlice hp).groupName.symm).symm
  imsis := by
    intro profile _ group hgroup hname
    obtain ⟨p, hp, rfl⟩ := List.mem_map.1 hgroup
    have hsd : p.1.sliceId.sd = profile.sliceId :=
      deviceGroupName_injective ((h.distinct.ofSlice p hp).groupName.symm.trans hname)
    show (imsisOf c.config.subscribers p.1.sliceId.sd).Perm _
    rw [hsd]
    apply List.Perm.of_eq
    rw [imsisOf_once honce]
  added := fun _ hclosed _ => added_leads h hclosed
  subscriberDeleted := fun subscriber hmem => (subscriberDeleted_leads_iff h hkeys.subscribers hmem).2 (honce subscriber hmem)
  sliceDeleted := fun _ hprofile => sliceDeleted_leads h hprofile

theorem Agrees.convertible (hv : Agrees lower c v) (hclosed : c.Closed) (hkeys : c.KeysUnique) (hone : OneDnn lower c) : Convertible lower c := by
  obtain ⟨planned, hplanned, hprofiles⟩ := fromGeneric5gModel_ok_planned (hv.built v)
  have hplans : Plans lower c planned := ⟨hplanned, hprofiles, hclosed, hkeys.profiles⟩
  cases (hv.built v).symm.trans (hplans.rebuilds v)
  have hplan : ∀ profile ∈ c.profiles, ∃ p, planOf lower c profile = some p := by
    intro profile hprofile
    obtain ⟨p, -, hp⟩ := hplanned.exists_of_mem hprofile
    exact ⟨p, hp⟩
  refine ⟨hprofiles, ?_, ?_, ?_⟩
  · intro hne
    obtain ⟨profile, hprofile⟩ := List.exists_mem_of_ne_nil _ hne
    exact ((exists_planOf_iff hclosed hkeys hone hprofile).1 (hplan profile hprofile)).1
  · exact fun profile hprofile => ((exists_planOf_iff hclosed hkeys hone hprofile).1 (hplan profile hprofile)).2
  · exact fun subscriber hmem => (subscriberDeleted_leads_iff hplans hkeys.subscribers hmem).1 (hv.subscriberDeleted subscriber hmem)

theorem Convertible.exists_plans (h : Convertible lower c) (hclosed : c.Closed) (hkeys : c.KeysUnique) (hone : OneDnn lower c) :
    ∃ planned, Plans lower c planned := by
  obtain ⟨planned, hplanned⟩ := exists_planned fun profile hprofile =>
    (exists_planOf_iff hclosed hkeys hone hprofile).2 ⟨h.areas (List.ne_nil_of_mem hprofile), h.nets profile hprofile⟩
  exact ⟨planned, hplanned, h.profiles, hclosed, hkeys.profiles⟩

theorem incremental_iff (lower : String → String) (c : Create5gModel) (hclosed : c.Closed) (hkeys : c.KeysUnique) (hone : OneDnn lower c) :
    (∃ v, Agrees lower c v) ↔ Convertible lower c := by
  constructor
  · rintro ⟨v, hv⟩
    exact hv.convertible hclosed hkeys hone
  · intro h
    obtain ⟨planned, hplans⟩ := h.exists_plans hclosed hkeys hone
    exact ⟨_, hplans.agrees hkeys h.subscribers⟩

end Updates

/-! ### A subscriber of one slice -/

open Free5gcSubScriber (internetProfile internetSubscriber)

def simSnssai : SubSnssai where
  sliceId := "000001"
  sliceType := .embb
  pduSessionIds := []

def simNet : SubDataNets where
  netName := "internet"
  dnn := "internet"
  dns := "8.8.8.8"
  pools := [⟨"10.250.0.0/16"⟩]
  uplinkAmbr := some "100 Mbps"
  downlinkAmbr := some "200 Mbps"

def simConfig (snssai : List SubSnssai) : Create5gModel where
  config :=
    { networkEndpoints := { dataNets := [simNet] }
      plmn := "00101"
      sliceProfiles := some [internetProfile none]
      subscribers := [{ internetSubscriber with snssai := snssai }] }
  areas := []

def asciiLower (s : String) : String := String.ofList (s.toList.map Char.toLower)

theorem simConfig_closed {snssais : List SubSnssai} (h : ∀ snssai ∈ snssais, snssai = simSnssai) : (simConfig snssais).Closed := by
  refine ⟨fun area harea => absurd harea List.not_mem_nil, ?_, ?_⟩
  · intro profile hprofile dnn hdnn
    obtain rfl := List.mem_singleton.1 hprofile
    obtain rfl := List.mem_singleton.1 hdnn
    exact ⟨_, List.mem_cons_self, rfl⟩
  · intro subscriber hsub snssai hsnssai
    obtain rfl := List.mem_singleton.1 hsub
    rw [h snssai hsnssai]
    exact ⟨_, List.mem_cons_self, rfl⟩

theorem simConfig_keys (snssais : List SubSnssai) : (simConfig snssais).KeysUnique := by
  refine ⟨⟨?_, ?_, ?_, List.nodup_nil, fun area harea => absurd harea List.not_mem_nil⟩, ?_⟩
  · exact List.nodup_singleton _
  · exact List.nodup_singleton _
  · exact List.nodup_singleton _
  · exact List.nodup_singleton _

theorem simConfig_oneDnn (snssais : List SubSnssai) : OneDnn asciiLower (simConfig snssais) where
  dnns := by
    intro profile hprofile
    obtain rfl := List.mem_singleton.1 hprofile
    rfl
  ambrs := by
    intro profile _ net hnet _
    obtain rfl := List.mem_singleton.1 hnet
    exact ⟨⟨"100 Mbps", "100", "Mbps", [], 100, rfl, by decide +kernel, by decide +kernel, by decide +kernel⟩,
      ⟨"200 Mbps", "200", "Mbps", [], 200, rfl, by decide +kernel, by decide +kernel, by decide +kernel⟩⟩

theorem incremental_sim : ∃ v, Agrees asciiLower (simConfig [simSnssai]) v := by
  have hclosed : (simConfig [simSnssai]).Closed := simConfig_closed fun snssai h => List.mem_singleton.1 h
  refine (incremental_iff asciiLower (simConfig [simSnssai]) hclosed (simConfig_keys _) (simConfig_oneDnn _)).2 ⟨?_, ?_, ?_, ?_⟩
  · exact Option.some_ne_none _
  · exact fun _ area harea => absurd harea List.not_mem_nil
  · intro profile _ net hnet _
    obtain rfl := List.mem_singleton.1 hnet
    exact ⟨List.cons_ne_nil _ _, by decide +kernel⟩
  · intro subscriber hmem
    obtain rfl := List.mem_singleton.1 hmem
    exact List.nodup_singleton _

/-- A subscriber that names its slice twice: one of the two imsis is left. -/
theorem incremental_fails : ¬ ∀ (lower : String → String) (c : Create5gModel), c.Closed → c.KeysUnique → OneDnn lower c → ∃ v, Agrees lower c v := by
  intro hall
  have hclosed : (simConfig [simSnssai, simSnssai]).Closed := by
    apply simConfig_closed
    intro snssai h
    rcases List.mem_cons.1 h with rfl | h
    · rfl
    · exact List.mem_singleton.1 h
  obtain ⟨v, hv⟩ := hall asciiLower (simConfig [simSnssai, simSnssai]) hclosed (simConfig_keys _) (simConfig_oneDnn _)
  obtain ⟨w, u, hrun, hrebuilds, hsame⟩ := hv.subscriberDeleted _ List.mem_cons_self
  have hbuilt := hv.built {}
  have hleft : ((finalState ((deleteSubscriber internetSubscriber.imsi).run
      (finalState ((fromGeneric5gModel asciiLower (simConfig [simSnssai, simSnssai])).run {})))).deviceGroups).map DeviceGroup.imsis =
      [[internetSubscriber.imsi]] := by
    decide +kernel
  have hnone : ((finalState ((fromGeneric5gModel asciiLower ((simConfig [simSnssai, simSnssai]).withoutSubscriber
      internetSubscriber.imsi)).run {})).deviceGroups).map DeviceGroup.imsis = [[]] := by
    decide +kernel
  have hrebuilt := hrebuilds {}
  rw [hbuilt, finalState_ok, hrun, finalState_ok, hsame.2.1] at hleft
  rw [hrebuilt, finalState_ok, hleft] at hnone
  cases hnone

end SimAppYamlConfiguration

end Nfvcl
