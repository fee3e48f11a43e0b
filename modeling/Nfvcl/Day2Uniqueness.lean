import Mathlib.Data.List.Basic
import Mathlib.Data.List.Dedup
import Mathlib.Data.List.Flatten
import Mathlib.Data.List.Nodup
import Nfvcl.KeyedList
import Nfvcl.Day2References

namespace Nfvcl
set_option autoImplicit true
open Effects KeyedList

namespace Create5gModel

def profiles (c : Create5gModel) : List SubSliceProfiles :=
  c.config.sliceProfiles.getD []

/-- No list of the configuration has the same key twice, the DNNs of the profiles apart. -/
structure ListsUnique (c : Create5gModel) : Prop where
  profiles : Unique SubSliceProfiles.sliceId c.profiles
  subscribers : Unique SubSubscribers.imsi c.config.subscribers
  dataNets : Unique SubDataNets.dnn c.config.networkEndpoints.dataNets
  areas : Unique SubArea.id c.areas
  slices : ∀ area ∈ c.areas, Unique SubSlices.sliceId (area.slices.getD [])

/-- Every key is unique; a DNN belongs to one profile, once. -/
structure KeysUnique (c : Create5gModel) : Prop extends c.ListsUnique where
  dnns : (c.profiles.flatMap SubSliceProfiles.dnnList).Nodup

end Create5gModel

namespace Core5GAddSliceModel

/-- The numbers `area_ids` stand for. -/
def areaNumbers (m : Core5GAddSliceModel) : List Int :=
  (m.areaIds.getD []).filterMap (fun id => (PyInt.parse id).toOption)

/-- The slice is put into an area twice, or into one that lists it already. -/
def RepeatsSlice (m : Core5GAddSliceModel) (c : Create5gModel) : Prop :=
  ¬ m.areaNumbers.Nodup ∨ ∃ area ∈ c.areas, area.id ∈ m.areaNumbers ∧ area.Lists m.sliceId

end Core5GAddSliceModel

/-- The request makes an area list a slice twice. -/
def Day2Op.RepeatsSlice : Day2Op → Create5gModel → Prop
  | .addSliceOss m, c => m.RepeatsSlice c
  | .addSliceOperator m, c => m.RepeatsSlice c
  | .addTac m, _ => ¬ Unique SubSlices.sliceId (m.slices.getD [])
  | _, _ => False

namespace Day2Call

/-- The call returns with a slice listed twice. -/
def Repeating (call : Day2Call) (c : Create5gModel) : Prop :=
  call.result = none ∧ call.op.Accepted c ∧ call.op.RepeatsSlice c

def KeepsKeys (call : Day2Call) (s : Generic5GState Unit) : Prop :=
  ∀ c, s.currentConfig = some c → ¬ call.Repeating c

end Day2Call

theorem nodup_of_dedup_length [DecidableEq α] {xs : List α} (h : ¬ xs.dedup.length < xs.length) : xs.Nodup := by
  have heq := (List.dedup_sublist xs).eq_of_length_le (Nat.le_of_not_lt h)
  rw [← heq]
  exact List.nodup_dedup xs

section Checks

variable {c : Create5gModel}

theorem configurationFeasibilityCheck_nodup (h : c.configurationFeasibilityCheck = .ok ()) :
    (c.profiles.flatMap SubSliceProfiles.dnnList).Nodup := by
  unfold Create5gModel.configurationFeasibilityCheck at h
  obtain ⟨profiles, hprofiles, hcheck⟩ := except_bind_ok.1 h
  have hp : c.profiles = profiles := by
    unfold Create5gModel.profiles
    cases hs : c.config.sliceProfiles with
    | none =>
      rw [hs] at hprofiles
      cases hprofiles
    | some _ =>
      rw [hs] at hprofiles
      cases hprofiles
      rfl
  rw [hp]
  apply nodup_of_dedup_length
  intro hlt
  rw [if_pos hlt] at hcheck
  cases hcheck

/-- What the checks of an added slice leave: no DNN and no id that is in use. -/
theorem checkAddSlice_fresh {m : Core5GAddSliceModel} (h : Create5gModel.checkAddSlice m oss c = .ok ()) :
    ((c.profiles ++ [m.toSubSliceProfiles]).flatMap SubSliceProfiles.dnnList).Nodup ∧
      ∀ profile ∈ c.profiles, profile.sliceId ≠ m.sliceId := by
  cases hp : c.config.sliceProfiles with
  | none =>
    unfold Create5gModel.checkAddSlice at h
    rw [hp] at h
    cases h
  | some profiles =>
    have hprofiles : c.profiles = profiles := by rw [Create5gModel.profiles, hp]; rfl
    unfold Create5gModel.checkAddSlice at h
    rw [hp] at h
    obtain ⟨_, hpure, hrest⟩ := except_bind_ok.1 h
    cases hpure
    obtain ⟨_, hfeasible, hrest⟩ := except_bind_ok.1 hrest
    rw [hprofiles]
    refine ⟨configurationFeasibilityCheck_nodup hfeasible, ?_⟩
    intro profile hprofile hid
    have hany : profiles.any (fun subSlice => decide (subSlice.sliceId = m.sliceId)) = true :=
      List.any_eq_true.2 ⟨profile, hprofile, decide_eq_true hid⟩
    rw [if_pos hany] at hrest
    cases hrest

theorem checkAddUes_fresh {m : SubSubscribers} (h : Create5gModel.checkAddUes m c = .ok ()) :
    ∀ subscriber ∈ c.config.subscribers, subscriber.imsi ≠ m.imsi := by
  intro subscriber hsub himsi
  unfold Create5gModel.checkAddUes at h
  have hany : c.config.subscribers.any (fun subscriber => decide (subscriber.imsi = m.imsi)) = true :=
    List.any_eq_true.2 ⟨subscriber, hsub, decide_eq_true himsi⟩
  rw [if_pos hany] at h
  cases h

theorem checkAddDnn_fresh {m : SubDataNets} (h : Create5gModel.checkAddDnn m c = .ok ()) :
    ∀ net ∈ c.config.networkEndpoints.dataNets, net.dnn ≠ m.dnn := by
  intro net hnet hdnn
  unfold Create5gModel.checkAddDnn at h
  have hany : c.config.networkEndpoints.dataNets.any (fun dnn => decide (dnn.dnn = m.dnn)) = true :=
    List.any_eq_true.2 ⟨net, hnet, decide_eq_true hdnn⟩
  rw [if_pos hany] at h
  cases h

theorem checkAddTac_fresh {m : SubArea} (h : Create5gModel.checkAddTac m c = .ok ()) :
    ∀ area ∈ c.areas, area.id ≠ m.id := by
  intro area harea hid
  unfold Create5gModel.checkAddTac at h
  have hfound : (c.getArea m.id).isSome :=
    List.find?_isSome.2 ⟨area, harea, decide_eq_true hid⟩
  rw [if_pos hfound] at h
  cases h

end Checks

section Areas

open Create5gModel (addSliceIn)

/-- An area after `addSliceIn` is an old one, or the area named with the slice appended. -/
theorem mem_addSliceIn_cases {item : SubSlices} {areas : List SubArea} (h : area ∈ addSliceIn item areaId areas) :
    area ∈ areas ∨ ∃ old ∈ areas, old.id = areaId ∧ area.id = areaId ∧
      area.slices = old.slices.map (fun slices => slices ++ [item]) := by
  induction areas with
  | nil => cases h
  | cons a areas ih =>
    by_cases ha : a.id = areaId
    · rw [addSliceIn, if_pos ha, List.mem_cons] at h
      rcases h with rfl | h
      · exact .inr ⟨a, List.mem_cons_self, ha, ha, rfl⟩
      · exact .inl (List.mem_cons_of_mem a h)
    · rw [addSliceIn, if_neg ha, List.mem_cons] at h
      rcases h with rfl | h
      · exact .inl List.mem_cons_self
      · rcases ih h with hold | ⟨old, hold, hid⟩
        · exact .inl (List.mem_cons_of_mem a hold)
        · exact .inr ⟨old, List.mem_cons_of_mem a hold, hid⟩

/-- Each number of a list without repetitions names an area that does not list the slice yet. -/
theorem nodup_foldl_addSliceIn (item : SubSlices) {numbers : List Int} (hnumbers : numbers.Nodup) {areas : List SubArea}
    (hslices : ∀ area ∈ areas, Unique SubSlices.sliceId (area.slices.getD []))
    (hfresh : ∀ area ∈ areas, area.id ∈ numbers → ¬ area.Lists item.sliceId) :
    (∀ area ∈ numbers.foldl (fun areas id => addSliceIn item id areas) areas,
        Unique SubSlices.sliceId (area.slices.getD [])) ∧
      (numbers.foldl (fun areas id => addSliceIn item id areas) areas).map SubArea.id = areas.map SubArea.id := by
  induction numbers generalizing areas with
  | nil => exact ⟨hslices, rfl⟩
  | cons number numbers ih =>
    obtain ⟨hnotin, hnumbers⟩ := List.nodup_cons.1 hnumbers
    rw [List.foldl_cons, ← addSliceIn_ids item number areas]
    apply ih hnumbers
    · intro area harea
      rcases mem_addSliceIn_cases harea with hold | ⟨old, hold, hid, -, hadded⟩
      · exact hslices area hold
      · rw [hadded]
        cases hs : old.slices with
        | none => exact List.nodup_nil
        | some slices =>
          have hold' := hslices old hold
          rw [hs] at hold'
          apply hold'.append
          rw [toMap_eq_none]
          intro slice hslice heq
          apply hfresh old hold (hid ▸ List.mem_cons_self)
          exact ⟨slice, by rw [hs]; exact hslice, heq⟩
    · intro area harea hmem
      rcases mem_addSliceIn_cases harea with hold | ⟨old, -, -, hid, -⟩
      · exact hfresh area hold (List.mem_cons_of_mem number hmem)
      · exact absurd (hid ▸ hmem) hnotin

theorem nodup_withoutSlice (sliceId : String) (h : Unique SubSlices.sliceId (area.slices.getD [])) :
    Unique SubSlices.sliceId ((SubArea.withoutSlice sliceId area).slices.getD []) := by
  unfold SubArea.withoutSlice
  cases hs : area.slices with
  | none => exact List.nodup_nil
  | some slices =>
    rw [hs] at h
    exact h.filter _

end Areas

section Unique

variable {c : Create5gModel}

/-- Other areas with the ids of some of the old ones, in order. -/
theorem Create5gModel.KeysUnique.setAreas (h : c.KeysUnique) {areas : List SubArea}
    (hids : Unique SubArea.id areas)
    (hslices : ∀ area ∈ areas, Unique SubSlices.sliceId (area.slices.getD [])) :
    (c.setAreas areas).KeysUnique where
  profiles := h.profiles
  subscribers := h.subscribers
  dataNets := h.dataNets
  areas := hids
  slices := hslices
  dnns := h.dnns

theorem keysUnique_areasLeft (h : c.KeysUnique) (sliceId : String) :
    (c.setAreas (areasLeft sliceId c.areas)).KeysUnique := by
  apply h.setAreas
  · have hnodup : ((areasLeft sliceId c.areas).map SubArea.id).Nodup := (areasLeft_ids sliceId c.areas).symm ▸ h.areas
    exact hnodup
  · intro area harea
    rcases List.mem_append.1 harea with hdone | hleft
    · obtain ⟨old, hold, rfl⟩ := List.mem_map.1 hdone
      exact nodup_withoutSlice sliceId (h.slices old ((List.takeWhile_sublist _).subset hold))
    · exact h.slices area ((List.dropWhile_sublist _).subset hleft)

theorem keysUnique_addTo (h : c.KeysUnique) {m : Core5GAddSliceModel} (hcheck : Create5gModel.checkAddSlice m oss c = .ok ())
    (honce : ¬ m.RepeatsSlice c) : (m.addTo c).KeysUnique := by
  obtain ⟨hdnns, hids⟩ := checkAddSlice_fresh hcheck
  have hnumbers : m.areaNumbers.Nodup := by_contra fun hn => honce (.inl hn)
  obtain ⟨hslices, hareas⟩ := nodup_foldl_addSliceIn ⟨m.sliceType, m.sliceId⟩ hnumbers h.slices
    (fun area harea hmem hlists => honce (.inr ⟨area, harea, hmem, hlists⟩))
  have hprofiles : (m.addTo c).profiles = c.profiles ++ [m.toSubSliceProfiles] := by
    change (c.config.sliceProfiles.map _).getD [] = c.config.sliceProfiles.getD [] ++ _
    cases hp : c.config.sliceProfiles with
    | none =>
      unfold Create5gModel.checkAddSlice at hcheck
      rw [hp] at hcheck
      cases hcheck
    | some profiles => rfl
  constructor
  · constructor
    · rw [hprofiles]
      exact h.profiles.append (toMap_eq_none.2 hids)
    · exact h.subscribers
    · exact h.dataNets
    · have hids : ((m.addTo c).areas.map SubArea.id).Nodup := hareas.symm ▸ h.areas
      exact hids
    · exact hslices
  · rw [hprofiles]
    exact hdnns

theorem keysUnique_delSlice (h : c.KeysUnique) (sliceId : String) : ((Day2Op.delSlice sliceId).requested c).KeysUnique := by
  have hprofiles : ((Day2Op.delSlice sliceId).requested c).profiles =
      c.profiles.filter (fun x => decide (x.sliceId ≠ sliceId)) := by
    change (c.config.sliceProfiles.map _).getD [] = (c.config.sliceProfiles.getD []).filter _
    cases c.config.sliceProfiles <;> rfl
  constructor
  · constructor
    · rw [hprofiles]
      exact h.profiles.filter _
    · exact h.subscribers
    · exact h.dataNets
    · change ((c.areas.map (SubArea.withoutSlice sliceId)).map SubArea.id).Nodup
      rw [List.map_map]
      exact h.areas
    · intro area harea
      obtain ⟨old, hold, rfl⟩ := List.mem_map.1 harea
      exact nodup_withoutSlice sliceId (h.slices old hold)
  · rw [hprofiles]
    exact h.dnns.sublist (List.filter_sublist.flatMap _)

/-- An accepted request that repeats no slice keeps every key unique. -/
theorem Day2Op.requested_keysUnique (op : Day2Op) (h : c.KeysUnique) (haccepted : op.Accepted c)
    (honce : ¬ op.RepeatsSlice c) : (op.requested c).KeysUnique := by
  cases op with
  | addUes m =>
    exact ⟨⟨h.profiles, h.subscribers.append (toMap_eq_none.2 (checkAddUes_fresh haccepted)), h.dataNets, h.areas, h.slices⟩,
      h.dnns⟩
  | delUes imsi => exact ⟨⟨h.profiles, h.subscribers.filter _, h.dataNets, h.areas, h.slices⟩, h.dnns⟩
  | addDnn m =>
    exact ⟨⟨h.profiles, h.subscribers, h.dataNets.append (toMap_eq_none.2 (checkAddDnn_fresh haccepted)), h.areas, h.slices⟩,
      h.dnns⟩
  | delDnn dnn => exact ⟨⟨h.profiles, h.subscribers, h.dataNets.filter _, h.areas, h.slices⟩, h.dnns⟩
  | addSliceOss m => exact keysUnique_addTo h haccepted.1 honce
  | addSliceOperator m => exact keysUnique_addTo h haccepted.1 honce
  | delSlice sliceId => exact keysUnique_delSlice h sliceId
  | addTac m =>
    apply h.setAreas (h.areas.append (toMap_eq_none.2 (checkAddTac_fresh haccepted)))
    intro area harea
    rcases List.mem_append.1 harea with hold | hnew
    · exact h.slices area hold
    · cases List.mem_singleton.1 hnew
      exact by_contra honce
  | delTac areaId =>
    apply h.setAreas (h.areas.filter _)
    exact fun area harea => h.slices area (List.mem_filter.1 harea).1

theorem Day2Call.exec_keysUnique (call : Day2Call) (h : c.KeysUnique) (honce : ¬ call.Repeating c) :
    ∃ c', (finalState (call.exec.run ⟨some c, ()⟩)).currentConfig = some c' ∧ c'.KeysUnique := by
  rcases call.exec_config c with he | ⟨hreturns, haccepted, he⟩ | ⟨sliceId, he⟩
  · exact ⟨c, he, h⟩
  · have hkeeps : ¬ call.op.RepeatsSlice c := fun hr => honce ⟨hreturns, haccepted, hr⟩
    exact ⟨_, he, call.op.requested_keysUnique h haccepted hkeeps⟩
  · exact ⟨_, he, keysUnique_areasLeft h sliceId⟩

end Unique

/-- Through every run of day2 calls, none of which returns with a slice listed twice in an area, all
keys of the configuration stay unique. -/
theorem day2_keys_unique (c : Create5gModel) (hcheck : c.configurationFeasibilityCheck = .ok ()) (hlists : c.ListsUnique)
    (calls : List Day2Call) (honce : AllSteps Day2Call.exec Day2Call.KeepsKeys ⟨some c, ()⟩ calls) :
    ∃ c', (runAll Day2Call.exec ⟨some c, ()⟩ calls).currentConfig = some c' ∧ c'.KeysUnique := by
  apply runAll_invariant (I := fun s => ∃ c', s.currentConfig = some c' ∧ c'.KeysUnique) Day2Call.exec _ calls honce
  · exact ⟨c, rfl, ⟨hlists, configurationFeasibilityCheck_nodup hcheck⟩⟩
  · rintro call ⟨config, u⟩ hcall ⟨c', rfl, hc'⟩
    exact call.exec_keysUnique hc' (hcall c' rfl)

theorem campusArea1_listsUnique : campusArea1.ListsUnique where
  profiles := by decide
  subscribers := by decide
  dataNets := by decide
  areas := by decide
  slices := by decide

def newSlice (areaIds : List String) : Core5GAddSliceModel :=
  { embbProfile "0000AB" ["ims"] with areaIds := some areaIds }

/-- A slice for area 1, and a second area that offers it. -/
theorem day2_keys_unique_campus :
    ∃ c', (runAll Day2Call.exec ⟨some campusArea1, ()⟩
      [⟨.addSliceOss (newSlice ["1"]), none⟩,
        ⟨.addTac (campusArea 2 (some [⟨.embb, "0000AB"⟩])), none⟩]).currentConfig = some c' ∧ c'.KeysUnique := by
  apply day2_keys_unique campusArea1 (by decide +kernel) campusArea1_listsUnique
  refine ⟨?_, ?_, trivial⟩
  · rintro c hc ⟨-, -, hrepeats⟩
    cases hc
    rcases hrepeats with hnumbers | ⟨area, harea, -, hlists⟩
    · exact hnumbers (by decide +kernel)
    · cases List.mem_singleton.1 harea
      exact absurd hlists (by decide)
  · rintro c - ⟨-, -, hrepeats⟩
    exact hrepeats (by decide)

/-- `area_ids` may name an area twice. -/
theorem day2_keys_unique_fails :
    ¬ ∀ c : Create5gModel, c.configurationFeasibilityCheck = .ok () → c.ListsUnique → ∀ calls : List Day2Call,
      ∃ c', (runAll Day2Call.exec ⟨some c, ()⟩ calls).currentConfig = some c' ∧ c'.KeysUnique := by
  intro h
  obtain ⟨c', hc', hunique⟩ := h campusArea1 (by decide +kernel) campusArea1_listsUnique
    [⟨.addSliceOss (newSlice ["1", "1"]), none⟩]
  cases hc'
  exact absurd hunique.slices (by decide +kernel)

end Nfvcl
