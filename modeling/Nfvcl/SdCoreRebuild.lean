import Mathlib.Data.List.Basic
import Mathlib.Data.List.Dedup
import Mathlib.Data.List.Nodup
import Nfvcl.Day2Uniqueness
import Nfvcl.Loops
import Nfvcl.OaiCoreValues
import Nfvcl.SdCoreValues

namespace Nfvcl
set_option autoImplicit true
open Effects ListUpdates Loops KeyedList SdCore

namespace SimAppYamlConfiguration

/-! ### Removing while iterating -/

/-- Of a block of equal elements every second one is passed over. -/
theorem removeIterating_block (hpre : a ∉ pre) (hpost : a ∉ post) (hn : (pre ++ List.replicate j a ++ post).length ≤ n + i) :
    removeIterating a n i (pre ++ List.replicate j a ++ post) =
      pre ++ List.replicate (j - (j - (i - pre.length) + 1) / 2) a ++ post := by
  have hlength : ∀ m, (pre ++ List.replicate m a ++ post).length = pre.length + m + post.length := by
    intro m
    rw [List.length_append, List.length_append, List.length_replicate]
  rw [hlength] at hn
  induction n generalizing i j with
  | zero =>
    have hkeep : j - (j - (i - pre.length) + 1) / 2 = j := by omega
    rw [hkeep]
    rfl
  | succ n ih =>
    rw [removeIterating]
    cases hfound : (pre ++ List.replicate j a ++ post)[i]? with
    | none =>
      have hend := List.getElem?_eq_none_iff.1 hfound
      rw [hlength] at hend
      have hkeep : j - (j - (i - pre.length) + 1) / 2 = j := by omega
      rw [hkeep]
    | some found =>
      obtain hlt | hge := Nat.lt_or_ge i pre.length
      · have hne : found ≠ a := by
          rintro rfl
          rw [List.append_assoc, List.getElem?_append_left hlt] at hfound
          exact hpre (List.mem_of_getElem? hfound)
        have hsame : j - (j - (i + 1 - pre.length) + 1) / 2 = j - (j - (i - pre.length) + 1) / 2 := by omega
        dsimp only
        rw [if_neg hne, ih (by omega), hsame]
      · obtain hin | hout := Nat.lt_or_ge (i - pre.length) j
        · rw [List.append_assoc, List.getElem?_append_right hge, List.getElem?_append_left (by rw [List.length_replicate]; exact hin),
            List.getElem?_replicate_of_lt hin] at hfound
          cases hfound
          obtain ⟨k, rfl⟩ : ∃ k, j = k + 1 := ⟨j - 1, by omega⟩
          have herase : (pre ++ List.replicate (k + 1) a ++ post).erase a = pre ++ List.replicate k a ++ post := by
            rw [List.append_assoc, List.erase_append_right _ hpre, List.replicate_succ, List.cons_append, List.erase_cons_head, List.append_assoc]
          have hhalf : k - (k - (i + 1 - pre.length) + 1) / 2 = k + 1 - (k + 1 - (i - pre.length) + 1) / 2 := by omega
          dsimp only
          rw [if_pos rfl, herase, ih (by omega), hhalf]
        · have hne : found ≠ a := by
            rintro rfl
            rw [List.append_assoc, List.getElem?_append_right hge,
              List.getElem?_append_right (by rw [List.length_replicate]; exact hout)] at hfound
            exact hpost (List.mem_of_getElem? hfound)
          have hsame : j - (j - (i + 1 - pre.length) + 1) / 2 = j - (j - (i - pre.length) + 1) / 2 := by omega
          dsimp only
          rw [if_neg hne, ih (by omega), hsame]

theorem removeIterating_eq (hpre : a ∉ pre) (hpost : a ∉ post) :
    removeIterating a (pre ++ List.replicate j a ++ post).length 0 (pre ++ List.replicate j a ++ post) =
      pre ++ List.replicate (j / 2) a ++ post := by
  have hhalf : j - (j - (0 - pre.length) + 1) / 2 = j / 2 := by omega
  rw [removeIterating_block hpre hpost (Nat.le_refl _), hhalf]

/-! ### The values of a configuration -/

section Rebuild

variable (lower : String → String) (c : Create5gModel)

/-- The network slice and the device group of a profile of the configuration. -/
def planOf (profile : SubSliceProfiles) : Option (NetworkSlice × DeviceGroup) :=
  (areasWithSlice c profile).toOption.bind (fun areas =>
    (sliceValues lower (some c.config.plmn) (some c.config.networkEndpoints.dataNets) profile (onlyArea areas)).toOption)

/-- How often a subscriber names a slice. -/
def timesNamed (subscriber : SubSubscribers) (sliceId : String) : Nat :=
  (subscriber.snssai.map SubSnssai.sliceId).count sliceId

/-- The imsis of a device group. -/
def imsisOf (subscribers : List SubSubscribers) (sliceId : String) : List String :=
  subscribers.flatMap (fun subscriber => List.replicate (timesNamed subscriber sliceId) subscriber.imsi)

def withImsis (imsis : String → List String) (planned : NetworkSlice × DeviceGroup) : DeviceGroup :=
  { planned.2 with imsis := imsis planned.1.sliceId.sd }

def valuesOf (planned : List (NetworkSlice × DeviceGroup)) (subscribers : List SdCore.Subscriber) (imsis : String → List String) :
    SimAppYamlConfiguration where
  subscribers := subscribers
  deviceGroups := planned.map (withImsis imsis)
  networkSlices := planned.map Prod.fst
  extPlmn := some c.config.plmn
  extDataNets := some c.config.networkEndpoints.dataNets

/-- What a rebuild makes of a configuration whose profiles are planned. -/
def rebuilt (planned : List (NetworkSlice × DeviceGroup)) : SimAppYamlConfiguration :=
  valuesOf c planned (c.config.subscribers.map (subscriberOf c.config.plmn)) (imsisOf c.config.subscribers)

/-- What every plan has in common: names and ids come from the id of the slice. -/
structure OfSlice (sliceId : String) (planned : NetworkSlice × DeviceGroup) : Prop where
  sd : planned.1.sliceId.sd = sliceId
  sliceName : planned.1.name = sliceName sliceId
  siteDeviceGroup : planned.1.siteDeviceGroup = [deviceGroupName sliceId]
  groupName : planned.2.name = deviceGroupName sliceId
  imsis : planned.2.imsis = []

variable {lower c}

theorem sliceName_injective (h : sliceName sliceId = sliceName sliceId') : sliceId = sliceId' :=
  (String.append_right_inj "slice_").1 (by simpa [sliceName, toString] using h)

theorem deviceGroupName_injective (h : deviceGroupName sliceId = deviceGroupName sliceId') : sliceId = sliceId' :=
  sliceName_injective ((String.append_right_inj "device-group-").1 (by simpa [deviceGroupName, toString] using h))

theorem sliceValues_ofSlice (h : sliceValues lower plmn nets profile areaId = .ok planned) : OfSlice profile.sliceId planned := by
  unfold sliceValues at h
  split at h
  · obtain ⟨_, _, h⟩ := except_bind_ok.1 h
    obtain ⟨_, _, h⟩ := except_bind_ok.1 h
    obtain ⟨_, _, h⟩ := except_bind_ok.1 h
    obtain ⟨_, _, h⟩ := except_bind_ok.1 h
    split at h
    · cases h
    · split at h
      · cases h
      · split at h
        · cases h
        · obtain ⟨_, _, h⟩ := except_bind_ok.1 h
          obtain ⟨_, _, h⟩ := except_bind_ok.1 h
          obtain ⟨_, _, h⟩ := except_bind_ok.1 h
          cases h
          exact ⟨rfl, rfl, rfl, rfl, rfl⟩
  · cases h

theorem planOf_eq_some_iff : planOf lower c profile = some planned ↔
    ∃ areas, areasWithSlice c profile = .ok areas ∧
      sliceValues lower (some c.config.plmn) (some c.config.networkEndpoints.dataNets) profile (onlyArea areas) = .ok planned := by
  unfold planOf
  cases areasWithSlice c profile with
  | error e =>
    constructor
    · intro h
      cases h
    · rintro ⟨_, h, -⟩
      cases h
  | ok areas =>
    constructor
    · intro h
      refine ⟨areas, rfl, ?_⟩
      cases hvalues : sliceValues lower (some c.config.plmn) (some c.config.networkEndpoints.dataNets) profile (onlyArea areas) with
      | error e =>
        rw [Except.toOption, Option.bind_some, hvalues] at h
        cases h
      | ok values =>
        rw [Except.toOption, Option.bind_some, hvalues] at h
        cases h
        rfl
    · rintro ⟨_, h, hvalues⟩
      cases h
      rw [Except.toOption, Option.bind_some, hvalues]
      rfl

theorem planOf_ofSlice (h : planOf lower c profile = some planned) : OfSlice profile.sliceId planned := by
  obtain ⟨areas, -, hvalues⟩ := planOf_eq_some_iff.1 h
  exact sliceValues_ofSlice hvalues

/-! ### The loops -/

theorem updateFirst_unique [DecidableEq κ] {key : α → κ} {xs : List α} (h : Unique key xs) (ha : a ∈ xs) (test : α → Bool)
    (htest : ∀ x ∈ xs, test x = decide (key x = key a)) (change : α → α) :
    updateFirst test change xs = some (xs.map (fun x => if key x = key a then change x else x)) := by
  induction xs with
  | nil => cases ha
  | cons x xs ih =>
    obtain ⟨hx, hrest⟩ := List.nodup_cons.1 h
    rw [updateFirst, htest x List.mem_cons_self, List.map_cons]
    by_cases he : key x = key a
    · have hkeep : xs.map (fun y => if key y = key a then change y else y) = xs := by
        rw [List.map_congr_left (g := id)]
        · exact List.map_id xs
        · intro y hy
          exact if_neg fun hya => hx (List.mem_map.2 ⟨y, hy, hya.trans he.symm⟩)
      rw [if_pos (decide_eq_true he), if_pos he, hkeep]
    · rcases List.mem_cons.1 ha with rfl | ha
      · exact absurd rfl he
      · rw [if_neg (by simp [he]), if_neg he, ih hrest ha fun y hy => htest y (List.mem_cons_of_mem x hy)]
        rfl

theorem first_filter_unique [DecidableEq κ] {key : α → κ} {xs : List α} (h : Unique key xs) (ha : a ∈ xs) :
    Generic5G.first (xs.filter (fun x => decide (key x = key a))) = .ok a := by
  have hsame : (fun x => decide (key x = key a)) = fun x => decide (key a = key x) := by
    funext x
    exact decide_eq_decide.2 eq_comm
  rw [hsame, filter_unique h ha]
  rfl

/-- The plans of distinct slices. -/
structure Distinct (planned : List (NetworkSlice × DeviceGroup)) : Prop where
  ofSlice : ∀ p ∈ planned, OfSlice p.1.sliceId.sd p
  unique : Unique (fun p => p.1.sliceId.sd) planned

theorem Planned.sds (h : Planned (planOf lower c) profiles planned) :
    profiles.map SubSliceProfiles.sliceId = planned.map (fun p => p.1.sliceId.sd) :=
  h.map_eq fun _ _ _ hp => (planOf_ofSlice hp).sd.symm

theorem Planned.distinct (h : Planned (planOf lower c) profiles planned) (hunique : Unique SubSliceProfiles.sliceId profiles) : Distinct planned where
  ofSlice := by
    intro p hp
    obtain ⟨profile, -, hplan⟩ := h.exists_of_mem_right hp
    have hof := planOf_ofSlice hplan
    rw [hof.sd]
    exact hof
  unique := by
    unfold KeyedList.Unique at hunique ⊢
    rw [← Planned.sds h]
    exact hunique

variable {planned : List (NetworkSlice × DeviceGroup)} {subs : List SdCore.Subscriber} {imsis : String → List String}
  {generic : SubSubscribers} {snssai : SubSnssai} {snssais : List SubSnssai} {imsi : String}

theorem withImsis_congr {imsis' : String → List String} {q : NetworkSlice × DeviceGroup}
    (h : imsis q.1.sliceId.sd = imsis' q.1.sliceId.sd) : withImsis imsis q = withImsis imsis' q := by
  unfold withImsis
  rw [h]

theorem unique_groups (h : Distinct planned) : Unique DeviceGroup.name (planned.map (withImsis imsis)) := by
  unfold KeyedList.Unique
  rw [List.map_map]
  refine List.Nodup.map_on ?_ (List.Nodup.of_map _ h.unique)
  intro a ha b hb he
  have hsds : deviceGroupName a.1.sliceId.sd = deviceGroupName b.1.sliceId.sd := by
    rw [← (h.ofSlice a ha).groupName, ← (h.ofSlice b hb).groupName]
    exact he
  exact List.inj_on_of_nodup_map h.unique ha hb (deviceGroupName_injective hsds)

theorem addImsi_ok (h : Distinct planned) (hp : p ∈ planned) (hsd : p.1.sliceId.sd = snssai.sliceId) :
    (addImsi imsi snssai).run (valuesOf c planned subs imsis) =
      .ok () (valuesOf c planned subs (fun sd => imsis sd ++ List.replicate ([snssai.sliceId].count sd) imsi)) := by
  have hslices : Unique (fun slice : NetworkSlice => slice.sliceId.sd) (planned.map Prod.fst) := by
    unfold KeyedList.Unique
    rw [List.map_map]
    exact h.unique
  have hslice : Generic5G.first ((planned.map Prod.fst).filter (fun slice => decide (slice.sliceId.sd = snssai.sliceId))) = .ok p.1 := by
    rw [← hsd]
    exact first_filter_unique hslices (List.mem_map_of_mem hp)
  have hname : Generic5G.first p.1.siteDeviceGroup = .ok (deviceGroupName p.1.sliceId.sd) := by
    rw [(h.ofSlice p hp).siteDeviceGroup]
    rfl
  have hgroups : updateFirst (fun group : DeviceGroup => decide (group.name = deviceGroupName p.1.sliceId.sd))
      (fun group => { group with imsis := group.imsis ++ [imsi] }) (planned.map (withImsis imsis)) =
      some (planned.map (withImsis (fun sd => imsis sd ++ List.replicate ([snssai.sliceId].count sd) imsi))) := by
    have hnames : Unique DeviceGroup.name (planned.map (withImsis imsis)) := unique_groups h
    have hpname : (withImsis imsis p).name = deviceGroupName p.1.sliceId.sd := (h.ofSlice p hp).groupName
    rw [← hpname, updateFirst_unique hnames (List.mem_map_of_mem hp) _ (fun _ _ => rfl), List.map_map]
    congr 1
    apply List.map_congr_left
    intro q hq
    have hqname : (withImsis imsis q).name = deviceGroupName q.1.sliceId.sd := (h.ofSlice q hq).groupName
    rw [Function.comp_apply]
    by_cases hsame : q.1.sliceId.sd = snssai.sliceId
    · rw [if_pos (by rw [hqname, hpname, hsame, hsd])]
      change withImsis (fun sd => imsis sd ++ [imsi]) q = _
      apply withImsis_congr
      rw [hsame, List.count_singleton_self]
      rfl
    · rw [if_neg fun he => hsame ((deviceGroupName_injective (hqname.symm.trans (he.trans hpname))).trans hsd)]
      apply withImsis_congr
      rw [List.count_eq_zero_of_not_mem (by rw [List.mem_singleton]; exact hsame), List.replicate_zero, List.append_nil]
  unfold addImsi
  rw [run_bind_ok _ _ (show EStateM.run get _ = .ok _ _ from rfl)]
  refine (run_bind_ok _ _ (OpenAirInterface.liftExcept_run_ok.2 ⟨hslice, rfl⟩)).trans ?_
  refine (run_bind_ok _ _ (OpenAirInterface.liftExcept_run_ok.2 ⟨hname, rfl⟩)).trans ?_
  dsimp only [valuesOf]
  rw [hgroups]
  rfl

theorem addImsis_ok (h : Distinct planned) (hall : ∀ snssai ∈ snssais, ∃ p ∈ planned, p.1.sliceId.sd = snssai.sliceId) :
    (forM snssais (addImsi imsi)).run (valuesOf c planned subs imsis) =
      .ok () (valuesOf c planned subs (fun sd => imsis sd ++ List.replicate ((snssais.map SubSnssai.sliceId).count sd) imsi)) := by
  induction snssais generalizing imsis with
  | nil =>
    have hsame : (fun sd => imsis sd ++ List.replicate ((([] : List SubSnssai).map SubSnssai.sliceId).count sd) imsi) = imsis := by
      funext sd
      exact List.append_nil _
    rw [hsame]
    rfl
  | cons snssai snssais ih =>
    obtain ⟨p, hp, hsd⟩ := hall snssai List.mem_cons_self
    rw [List.forM_cons, run_bind_ok _ _ (addImsi_ok h hp hsd), ih fun s hs => hall s (List.mem_cons_of_mem _ hs)]
    congr 2
    funext sd
    rw [List.append_assoc, List.replicate_append_replicate, ← List.count_append, List.singleton_append, List.map_cons]

theorem addSubscriber_ok (h : Distinct planned) (hall : ∀ snssai ∈ generic.snssai, ∃ p ∈ planned, p.1.sliceId.sd = snssai.sliceId)
    (done : List SubSubscribers) :
    (addSubscriberFromGenericModel generic).run
        (valuesOf c planned (done.map (subscriberOf c.config.plmn)) (imsisOf done)) =
      .ok () (valuesOf c planned ((done ++ [generic]).map (subscriberOf c.config.plmn)) (imsisOf (done ++ [generic]))) := by
  unfold addSubscriberFromGenericModel
  rw [run_bind_ok _ _ (show EStateM.run get _ = .ok _ _ from rfl)]
  dsimp only [valuesOf]
  rw [run_bind_ok _ _ (show EStateM.run (modify _) _ = .ok _ _ from rfl)]
  refine (addImsis_ok h hall).trans ?_
  have himsis : imsisOf (done ++ [generic]) =
      fun sd => imsisOf done sd ++ List.replicate ((generic.snssai.map SubSnssai.sliceId).count sd) generic.imsi := by
    funext sd
    unfold imsisOf
    rw [List.flatMap_append, List.flatMap_singleton]
    rfl
  rw [himsis, List.map_append]
  rfl

theorem addSubscribers_ok (h : Distinct planned) {rest : List SubSubscribers}
    (hall : ∀ generic ∈ rest, ∀ snssai ∈ generic.snssai, ∃ p ∈ planned, p.1.sliceId.sd = snssai.sliceId) (done : List SubSubscribers) :
    (forM rest addSubscriberFromGenericModel).run (valuesOf c planned (done.map (subscriberOf c.config.plmn)) (imsisOf done)) =
      .ok () (valuesOf c planned ((done ++ rest).map (subscriberOf c.config.plmn)) (imsisOf (done ++ rest))) := by
  induction rest generalizing done with
  | nil =>
    rw [List.append_nil]
    rfl
  | cons generic rest ih =>
    rw [List.forM_cons, run_bind_ok _ _ (addSubscriber_ok h (hall generic List.mem_cons_self) done),
      ih (fun g hg => hall g (List.mem_cons_of_mem _ hg)) (done ++ [generic]), ← List.append_cons]

/-- The state after the slices and before the subscribers. -/
theorem addSlices_meets (lower : String → String) (c : Create5gModel) (profiles : List SubSliceProfiles) :
    Meets (forM profiles (fun profile => do
        let areas ← Generic5G.liftExcept (areasWithSlice c profile)
        let _ ← addSliceFromGenericModel lower profile (onlyArea areas)
        return ()))
      { extDataNets := some c.config.networkEndpoints.dataNets, extPlmn := some c.config.plmn }
      (fun _ s' => ∃ planned, Planned (planOf lower c) profiles planned ∧ s' = valuesOf c planned [] (imsisOf []))
      (fun _ _ => ∀ planned, ¬ Planned (planOf lower c) profiles planned) := by
  refine (meets_forM_planned (I := fun planned s => s = valuesOf c planned [] (imsisOf []))
    (fun _ _ _ => trivial) ?_ rfl).mono (fun _ _ h => h) (fun _ _ h planned hplanned => h planned hplanned trivial)
  rintro done profile rest planned s - hdone rfl
  rw [meets_bind]
  apply (Generic5G.lift_meets _ _).mono
  · rintro areas s' ⟨hareas, rfl⟩
    unfold addSliceFromGenericModel
    rw [meets_bind, meets_bind, meets_get, meets_bind]
    apply (Generic5G.lift_meets _ _).mono
    · rintro values s' ⟨hvalues, rfl⟩
      have hplan : planOf lower c profile = some values := planOf_eq_some_iff.2 ⟨areas, hareas, hvalues⟩
      refine ⟨values, hplan, ?_⟩
      have hfilled : withImsis (imsisOf []) values = values.2 := by
        unfold withImsis
        rw [show imsisOf [] values.1.sliceId.sd = values.2.imsis from (planOf_ofSlice hplan).imsis.symm]
      unfold valuesOf
      rw [List.map_append, List.map_append, List.map_singleton, List.map_singleton, hfilled]
    · rintro e s' ⟨hvalues, -⟩ values hplan
      obtain ⟨areas', hareas', hvalues'⟩ := planOf_eq_some_iff.1 hplan
      cases hareas.symm.trans hareas'
      cases hvalues.symm.trans hvalues'
  · rintro e s' ⟨hareas, -⟩ values hplan
    obtain ⟨areas', hareas', -⟩ := planOf_eq_some_iff.1 hplan
    cases hareas.symm.trans hareas'

/-- A closed configuration can be rebuilt exactly if its profiles can be planned, whatever there was before. -/
theorem fromGeneric5gModel_ok (hplanned : Planned (planOf lower c) c.profiles planned) (hprofiles : c.config.sliceProfiles ≠ none)
    (hclosed : c.Closed) (hunique : Unique SubSliceProfiles.sliceId c.profiles) (v₀ : SimAppYamlConfiguration) :
    (fromGeneric5gModel lower c).run v₀ = .ok () (rebuilt c planned) := by
  have hiterate : iterate c.config.sliceProfiles = .ok c.profiles := by
    obtain ⟨profiles, h⟩ := Option.ne_none_iff_exists'.1 hprofiles
    unfold Create5gModel.profiles
    rw [h]
    rfl
  have hnamed : ∀ generic ∈ c.config.subscribers, ∀ snssai ∈ generic.snssai, ∃ p ∈ planned, p.1.sliceId.sd = snssai.sliceId := by
    intro generic hgeneric snssai hsnssai
    obtain ⟨profile, hprofile, hid⟩ := hclosed.subscribers generic hgeneric snssai hsnssai
    obtain ⟨p, hp, hplan⟩ := hplanned.exists_of_mem hprofile
    exact ⟨p, hp, (planOf_ofSlice hplan).sd.trans hid⟩
  have hslices := addSlices_meets lower c c.profiles
  unfold fromGeneric5gModel
  rw [run_bind_ok _ _ (show EStateM.run (set _) _ = .ok _ _ from rfl),
    run_bind_ok _ _ (OpenAirInterface.liftExcept_run_ok.2 ⟨hiterate, rfl⟩)]
  unfold Meets at hslices
  split at hslices
  · rename_i hrun
    obtain ⟨planned', hplanned', rfl⟩ := hslices
    cases (mapM_eq_some_iff.2 hplanned').symm.trans (mapM_eq_some_iff.2 hplanned)
    rw [run_bind_ok _ _ hrun]
    exact addSubscribers_ok (Planned.distinct hplanned hunique) hnamed []
  · exact absurd hplanned (hslices planned)

theorem fromGeneric5gModel_ok_planned (h : (fromGeneric5gModel lower c).run v₀ = .ok () v) :
    ∃ planned, Planned (planOf lower c) c.profiles planned ∧ c.config.sliceProfiles ≠ none := by
  unfold fromGeneric5gModel at h
  rw [run_bind_ok _ _ (show EStateM.run (set _) _ = .ok _ _ from rfl)] at h
  obtain ⟨profiles, s, hlift, h⟩ := bind_ok_inv h
  obtain ⟨hiterate, rfl⟩ := OpenAirInterface.liftExcept_run_ok.1 hlift
  have hsome := OpenAirInterface.iterate_ok_iff.1 hiterate
  obtain ⟨_, s, hslices, -⟩ := bind_ok_inv h
  have hmeets := addSlices_meets lower c profiles
  unfold Meets at hmeets
  rw [hslices] at hmeets
  obtain ⟨planned, hplanned, -⟩ := hmeets
  refine ⟨planned, ?_, by rw [hsome]; exact Option.some_ne_none _⟩
  unfold Create5gModel.profiles
  rw [hsome]
  exact hplanned

/-! ### Deleting -/

theorem not_mem_imsisOf {generics : List SubSubscribers} (h : ∀ generic ∈ generics, generic.imsi ≠ imsi) (sd : String) :
    imsi ∉ imsisOf generics sd := by
  intro hmem
  obtain ⟨generic, hgeneric, hin⟩ := List.mem_flatMap.1 hmem
  exact h generic hgeneric (List.eq_of_mem_replicate hin).symm

theorem imsisOf_middle (pre post : List SubSubscribers) (generic : SubSubscribers) (sd : String) :
    imsisOf (pre ++ generic :: post) sd = imsisOf pre sd ++ List.replicate (timesNamed generic sd) generic.imsi ++ imsisOf post sd := by
  unfold imsisOf
  rw [List.flatMap_append, List.flatMap_cons, List.append_assoc]

/-- Every second of the imsis of a subscriber who names a slice more than once is left. -/
theorem deleteSubscriber_ok (pre post : List SubSubscribers) (hsubscribers : c.config.subscribers = pre ++ generic :: post)
    (hpre : ∀ g ∈ pre, g.imsi ≠ generic.imsi) (hpost : ∀ g ∈ post, g.imsi ≠ generic.imsi) :
    (deleteSubscriber generic.imsi).run (rebuilt c planned) =
      .ok () (valuesOf c planned ((pre ++ post).map (subscriberOf c.config.plmn))
        (fun sd => imsisOf pre sd ++ List.replicate (timesNamed generic sd / 2) generic.imsi ++ imsisOf post sd)) := by
  have hne : ∀ s ∈ pre.map (subscriberOf c.config.plmn), s ≠ subscriberOf c.config.plmn generic := by
    intro s hs he
    obtain ⟨g, hg, rfl⟩ := List.mem_map.1 hs
    exact hpre g hg (congrArg SdCore.Subscriber.ueIdStart he)
  have hfound : (rebuilt c planned).subscribers.find? (fun subscriber => decide (subscriber.ueIdStart = generic.imsi)) =
      some (subscriberOf c.config.plmn generic) := by
    unfold rebuilt valuesOf
    dsimp only
    rw [hsubscribers, List.map_append, List.find?_append, List.find?_eq_none.2, List.map_cons, List.find?_cons_of_pos (by exact decide_eq_true rfl)]
    · rfl
    · intro s hs
      obtain ⟨g, hg, rfl⟩ := List.mem_map.1 hs
      exact fun he => hpre g hg (of_decide_eq_true he)
  have herased : (rebuilt c planned).subscribers.erase (subscriberOf c.config.plmn generic) = (pre ++ post).map (subscriberOf c.config.plmn) := by
    unfold rebuilt valuesOf
    dsimp only
    rw [hsubscribers, List.map_append, List.map_cons, List.erase_append_right _ fun hmem => hne _ hmem rfl, List.erase_cons_head,
      List.map_append]
  have hgroups : (rebuilt c planned).deviceGroups.map (fun group =>
      { group with imsis := removeIterating generic.imsi group.imsis.length 0 group.imsis }) =
      planned.map (withImsis (fun sd =>
        imsisOf pre sd ++ List.replicate (timesNamed generic sd / 2) generic.imsi ++ imsisOf post sd)) := by
    unfold rebuilt valuesOf
    dsimp only
    rw [List.map_map]
    apply List.map_congr_left
    intro p _
    change withImsis (fun sd => removeIterating generic.imsi (imsisOf c.config.subscribers sd).length 0
      (imsisOf c.config.subscribers sd)) p = _
    apply withImsis_congr
    rw [hsubscribers, imsisOf_middle]
    exact removeIterating_eq (not_mem_imsisOf hpre _) (not_mem_imsisOf hpost _)
  unfold deleteSubscriber
  rw [run_bind_ok _ _ (show EStateM.run get _ = .ok _ _ from rfl), hfound]
  dsimp only [subscriberOf] at hgroups herased ⊢
  rw [hgroups, herased]
  rfl

theorem deleteSlice_ok (h : Distinct planned) (hp : p ∈ planned) :
    (deleteSlice p.1.sliceId.sd).run (valuesOf c planned subs imsis) =
      .ok () (valuesOf c (planned.filter (fun q => decide (q.1.sliceId.sd ≠ p.1.sliceId.sd))) subs imsis) := by
  have hslices : Unique NetworkSlice.name (planned.map Prod.fst) := by
    unfold KeyedList.Unique
    rw [List.map_map]
    refine List.Nodup.map_on ?_ (List.Nodup.of_map _ h.unique)
    intro a ha b hb he
    have hsds : sliceName a.1.sliceId.sd = sliceName b.1.sliceId.sd := by
      rw [← (h.ofSlice a ha).sliceName, ← (h.ofSlice b hb).sliceName]
      exact he
    exact List.inj_on_of_nodup_map h.unique ha hb (sliceName_injective hsds)
  have hgroups : Unique DeviceGroup.name (planned.map (withImsis imsis)) := unique_groups h
  have hsliceName : p.1.name = sliceName p.1.sliceId.sd := (h.ofSlice p hp).sliceName
  have hgroupName : (withImsis imsis p).name = deviceGroupName p.1.sliceId.sd := (h.ofSlice p hp).groupName
  have hslice := hslices.toMap_mem (List.mem_map_of_mem hp)
  have hgroup := hgroups.toMap_mem (List.mem_map_of_mem hp)
  have hsliceErased := hslices.list_erase_eq_filter (List.mem_map_of_mem hp)
  have hgroupErased := hgroups.list_erase_eq_filter (List.mem_map_of_mem hp)
  unfold toMap at hslice hgroup
  rw [hsliceName] at hslice hsliceErased
  rw [hgroupName] at hgroup hgroupErased
  have hkeptSlices : (planned.map Prod.fst).filter (fun slice => decide (slice.name ≠ sliceName p.1.sliceId.sd)) =
      (planned.filter (fun q => decide (q.1.sliceId.sd ≠ p.1.sliceId.sd))).map Prod.fst := by
    rw [List.filter_map]
    congr 1
    apply List.filter_congr
    intro q hq
    rw [Function.comp_apply, (h.ofSlice q hq).sliceName]
    exact decide_eq_decide.2 (not_congr ⟨sliceName_injective, fun he => he ▸ rfl⟩)
  have hkeptGroups : (planned.map (withImsis imsis)).filter (fun group => decide (group.name ≠ deviceGroupName p.1.sliceId.sd)) =
      (planned.filter (fun q => decide (q.1.sliceId.sd ≠ p.1.sliceId.sd))).map (withImsis imsis) := by
    rw [List.filter_map]
    congr 1
    apply List.filter_congr
    intro q hq
    rw [Function.comp_apply, show (withImsis imsis q).name = deviceGroupName q.1.sliceId.sd from (h.ofSlice q hq).groupName]
    exact decide_eq_decide.2 (not_congr ⟨deviceGroupName_injective, fun he => he ▸ rfl⟩)
  unfold deleteSlice
  rw [run_bind_ok _ _ (show EStateM.run get _ = .ok _ _ from rfl)]
  dsimp only [valuesOf]
  rw [hslice, hgroup]
  dsimp only
  rw [hsliceErased, hgroupErased, hkeptSlices, hkeptGroups]
  rfl

end Rebuild

end SimAppYamlConfiguration

end Nfvcl
