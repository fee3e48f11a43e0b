import Mathlib.Data.List.Basic
import Nfvcl.Day2Transactions

namespace Nfvcl
set_option autoImplicit true
open Effects

namespace Create5gModel

def HasProfile (c : Create5gModel) (sliceId : String) : Prop :=
  ∃ profile ∈ c.config.sliceProfiles.getD [], profile.sliceId = sliceId

def HasDnn (c : Create5gModel) (dnn : String) : Prop :=
  ∃ net ∈ c.config.networkEndpoints.dataNets, net.dnn = dnn

instance (c : Create5gModel) (sliceId : String) : Decidable (c.HasProfile sliceId) :=
  inferInstanceAs (Decidable (∃ profile ∈ c.config.sliceProfiles.getD [], profile.sliceId = sliceId))

instance (c : Create5gModel) (dnn : String) : Decidable (c.HasDnn dnn) :=
  inferInstanceAs (Decidable (∃ net ∈ c.config.networkEndpoints.dataNets, net.dnn = dnn))

/-- Every reference of the configuration resolves. -/
structure Closed (c : Create5gModel) : Prop where
  areas : ∀ area ∈ c.areas, ∀ slice ∈ area.slices.getD [], c.HasProfile slice.sliceId
  profiles : ∀ profile ∈ c.config.sliceProfiles.getD [], ∀ dnn ∈ profile.dnnList, c.HasDnn dnn
  subscribers : ∀ subscriber ∈ c.config.subscribers, ∀ snssai ∈ subscriber.snssai, c.HasProfile snssai.sliceId

end Create5gModel

/-- The request names, or takes away, what the configuration must have. -/
def Day2Op.BreaksReference : Day2Op → Create5gModel → Prop
  | .addUes m, c => ∃ snssai ∈ m.snssai, ¬ c.HasProfile snssai.sliceId
  | .addSliceOss m, c => ∃ dnn ∈ m.dnnList, ¬ c.HasDnn dnn
  | .addSliceOperator m, c => ∃ dnn ∈ m.dnnList, ¬ c.HasDnn dnn
  | .delSlice sliceId, c => ∃ subscriber ∈ c.config.subscribers, ∃ snssai ∈ subscriber.snssai, snssai.sliceId = sliceId
  | .addTac m, c => ∃ slice ∈ m.slices.getD [], ¬ c.HasProfile slice.sliceId
  | _, _ => False

/-- A day2 call and what its hook, which does not touch the configuration, does. -/
structure Day2Call where
  op : Day2Op
  result : Option PyError := none
  deriving DecidableEq, Repr

namespace Day2Call

def exec (call : Day2Call) : EStateM PyError (Generic5GState Unit) Unit :=
  call.op.exec (outcome call.result)

/-- The call returns with a reference broken. -/
def Dangling (call : Day2Call) (c : Create5gModel) : Prop :=
  call.result = none ∧ call.op.Accepted c ∧ call.op.BreaksReference c

def Safe (call : Day2Call) (s : Generic5GState Unit) : Prop :=
  ∀ c, s.currentConfig = some c → ¬ call.Dangling c

end Day2Call

section Outcomes

/-- What a hook that leaves the configuration alone makes of it. -/
theorem restoring_outcome (result : Option PyError) (c c' : Create5gModel) :
    (finalState ((Generic5G.restoring (some c) (outcome result)).run ⟨some c', ()⟩)).currentConfig =
      match result with
      | none => some c'
      | some _ => some c := by
  rw [Generic5G.restoring_run]
  cases result <;> rfl

/-- The configuration after a call: as it was, as requested, or with the loop of `del_slice` cut. -/
theorem Day2Call.exec_config (call : Day2Call) (c : Create5gModel) :
    (finalState (call.exec.run ⟨some c, ()⟩)).currentConfig = some c ∨
    (call.result = none ∧ call.op.Accepted c ∧
      (finalState (call.exec.run ⟨some c, ()⟩)).currentConfig = some (call.op.requested c)) ∨
    ∃ sliceId, (finalState (call.exec.run ⟨some c, ()⟩)).currentConfig =
      some (c.setAreas (areasLeft sliceId c.areas)) := by
  obtain ⟨op, result⟩ := call
  rw [Day2Call.exec]
  rcases op.exec_cases c () with ⟨e, he⟩ | ⟨haccepted, he⟩ | ⟨-, sliceId, e, -, he⟩
  · rw [he]
    exact .inl rfl
  · rw [he, restoring_outcome]
    cases result with
    | none => exact .inr (.inl ⟨rfl, haccepted, rfl⟩)
    | some e => exact .inl rfl
  · rw [he]
    exact .inr (.inr ⟨sliceId, rfl⟩)

end Outcomes

section Closed

variable {c : Create5gModel}

open Create5gModel (addSliceIn)

/-- Areas that list only slices listed before. -/
theorem Create5gModel.Closed.of_slices (h : c.Closed) {areas : List SubArea}
    (hsub : ∀ area ∈ areas, ∀ slice ∈ area.slices.getD [], ∃ old ∈ c.areas, slice ∈ old.slices.getD []) :
    (c.setAreas areas).Closed where
  areas := by
    intro area harea slice hslice
    obtain ⟨old, hold, hmem⟩ := hsub area harea slice hslice
    exact h.areas old hold slice hmem
  profiles := h.profiles
  subscribers := h.subscribers

theorem mem_withoutSlice (h : slice ∈ (SubArea.withoutSlice sliceId area).slices.getD []) :
    slice ∈ area.slices.getD [] ∧ slice.sliceId ≠ sliceId := by
  unfold SubArea.withoutSlice at h
  cases hs : area.slices with
  | none =>
    rw [hs] at h
    cases h
  | some slices =>
    rw [hs] at h
    obtain ⟨hmem, hne⟩ := List.mem_filter.1 h
    exact ⟨hmem, of_decide_eq_true hne⟩

theorem closed_areasLeft (h : c.Closed) (sliceId : String) : (c.setAreas (areasLeft sliceId c.areas)).Closed := by
  apply h.of_slices
  intro area harea slice hslice
  rcases List.mem_append.1 harea with hdone | hleft
  · obtain ⟨old, hold, rfl⟩ := List.mem_map.1 hdone
    exact ⟨old, (List.takeWhile_sublist _).subset hold, (mem_withoutSlice hslice).1⟩
  · exact ⟨area, (List.dropWhile_sublist _).subset hleft, hslice⟩

theorem mem_addSliceIn {item : SubSlices} {areas : List SubArea}
    (harea : area ∈ addSliceIn item areaId areas) (hslice : slice ∈ area.slices.getD []) :
    slice = item ∨ ∃ old ∈ areas, slice ∈ old.slices.getD [] := by
  induction areas with
  | nil => cases harea
  | cons a areas ih =>
    by_cases ha : a.id = areaId
    · rw [addSliceIn, if_pos ha, List.mem_cons] at harea
      rcases harea with rfl | harea
      · cases hs : a.slices with
        | none =>
          rw [hs] at hslice
          cases hslice
        | some slices =>
          rw [hs] at hslice
          rcases List.mem_append.1 hslice with hold | hnew
          · exact .inr ⟨a, List.mem_cons_self, by rw [hs]; exact hold⟩
          · exact .inl (List.mem_singleton.1 hnew)
      · exact .inr ⟨area, List.mem_cons_of_mem a harea, hslice⟩
    · rw [addSliceIn, if_neg ha, List.mem_cons] at harea
      rcases harea with rfl | harea
      · exact .inr ⟨area, List.mem_cons_self, hslice⟩
      · obtain hitem | ⟨old, hold, hmem⟩ := ih harea
        · exact .inl hitem
        · exact .inr ⟨old, List.mem_cons_of_mem a hold, hmem⟩

theorem mem_foldl_addSliceIn {item : SubSlices} {ids : List Int} {areas : List SubArea}
    (harea : area ∈ ids.foldl (fun areas id => addSliceIn item id areas) areas)
    (hslice : slice ∈ area.slices.getD []) :
    slice = item ∨ ∃ old ∈ areas, slice ∈ old.slices.getD [] := by
  induction ids generalizing areas with
  | nil => exact .inr ⟨area, harea, hslice⟩
  | cons id ids ih =>
    obtain hitem | ⟨mid, hmid, hmem⟩ := ih harea
    · exact .inl hitem
    · exact mem_addSliceIn hmid hmem

theorem hasProfile_addTo (m : Core5GAddSliceModel) (h : c.HasProfile sliceId) : (m.addTo c).HasProfile sliceId := by
  obtain ⟨profile, hmem, hid⟩ := h
  refine ⟨profile, ?_, hid⟩
  change profile ∈ (c.config.sliceProfiles.map (fun profiles => profiles ++ [m.toSubSliceProfiles])).getD []
  cases hp : c.config.sliceProfiles with
  | none =>
    rw [hp] at hmem
    cases hmem
  | some profiles =>
    rw [hp] at hmem
    exact List.mem_append_left _ hmem

/-- A slice profile that was appended is there, because the check found a list to append to. -/
theorem hasProfile_addTo_self {m : Core5GAddSliceModel}
    (h : Create5gModel.checkAddSlice m oss c = .ok ()) : (m.addTo c).HasProfile m.sliceId := by
  refine ⟨m.toSubSliceProfiles, ?_, rfl⟩
  change m.toSubSliceProfiles ∈ (c.config.sliceProfiles.map (fun profiles => profiles ++ [m.toSubSliceProfiles])).getD []
  cases hp : c.config.sliceProfiles with
  | none =>
    unfold Create5gModel.checkAddSlice at h
    rw [hp] at h
    cases h
  | some profiles => exact List.mem_append_right _ List.mem_cons_self

theorem closed_addTo (h : c.Closed) {m : Core5GAddSliceModel} (hcheck : Create5gModel.checkAddSlice m oss c = .ok ())
    (hdnns : ∀ dnn ∈ m.dnnList, c.HasDnn dnn) : (m.addTo c).Closed where
  areas := by
    intro area harea slice hslice
    rcases mem_foldl_addSliceIn harea hslice with rfl | ⟨old, hold, hmem⟩
    · exact hasProfile_addTo_self hcheck
    · exact hasProfile_addTo m (h.areas old hold slice hmem)
  profiles := by
    intro profile hprofile
    change profile ∈ (c.config.sliceProfiles.map (fun profiles => profiles ++ [m.toSubSliceProfiles])).getD [] at hprofile
    cases hp : c.config.sliceProfiles with
    | none =>
      rw [hp] at hprofile
      cases hprofile
    | some profiles =>
      rw [hp] at hprofile
      rcases List.mem_append.1 hprofile with hold | hnew
      · exact h.profiles profile (by rw [hp]; exact hold)
      · cases List.mem_singleton.1 hnew
        exact hdnns
  subscribers := fun subscriber hsub snssai hmem => hasProfile_addTo m (h.subscribers subscriber hsub snssai hmem)

theorem closed_delSlice (h : c.Closed)
    (hunused : ∀ subscriber ∈ c.config.subscribers, ∀ snssai ∈ subscriber.snssai, snssai.sliceId ≠ sliceId) :
    ((Day2Op.delSlice sliceId).requested c).Closed := by
  have hprofiles : ((Day2Op.delSlice sliceId).requested c).config.sliceProfiles.getD [] =
      (c.config.sliceProfiles.getD []).filter (fun x => decide (x.sliceId ≠ sliceId)) := by
    change (c.config.sliceProfiles.map _).getD [] = _
    cases c.config.sliceProfiles <;> rfl
  have hkept : ∀ id, c.HasProfile id → id ≠ sliceId → ((Day2Op.delSlice sliceId).requested c).HasProfile id := by
    rintro id ⟨profile, hmem, rfl⟩ hne
    refine ⟨profile, ?_, rfl⟩
    rw [hprofiles]
    exact List.mem_filter.2 ⟨hmem, decide_eq_true hne⟩
  constructor
  · intro area harea slice hslice
    obtain ⟨old, hold, rfl⟩ := List.mem_map.1 harea
    obtain ⟨hmem, hne⟩ := mem_withoutSlice hslice
    exact hkept _ (h.areas old hold slice hmem) hne
  · intro profile hprofile
    rw [hprofiles] at hprofile
    exact h.profiles profile (List.mem_filter.1 hprofile).1
  · intro subscriber hsub snssai hmem
    exact hkept _ (h.subscribers subscriber hsub snssai hmem) (hunused subscriber hsub snssai hmem)

/-- `day2_del_dnn` looks for the DNN in every profile. -/
theorem checkDelDnn_unused (h : Create5gModel.checkDelDnn dnn c = .ok ()) :
    ∀ profile ∈ c.config.sliceProfiles.getD [], dnn ∉ profile.dnnList := by
  unfold Create5gModel.checkDelDnn at h
  by_cases hfound : c.config.networkEndpoints.dataNets.any (fun d => decide (d.dnn = dnn))
  · rw [hfound] at h
    cases hp : c.config.sliceProfiles with
    | none =>
      rw [hp] at h
      cases h
    | some profiles =>
      rw [hp] at h
      cases hused : profiles.find? (fun slice => decide (dnn ∈ slice.dnnList)) with
      | some slice =>
        rw [Bool.not_true, if_neg Bool.false_ne_true, iterate, except_ok_bind, hused] at h
        cases h
      | none =>
        intro profile hprofile hdnn
        exact List.find?_eq_none.1 hused profile hprofile (decide_eq_true hdnn)
  · rw [Bool.eq_false_iff.2 hfound] at h
    cases h

theorem closed_delDnn (h : c.Closed) (hcheck : Create5gModel.checkDelDnn dnn c = .ok ()) :
    ((Day2Op.delDnn dnn).requested c).Closed where
  areas := h.areas
  profiles := by
    intro profile hprofile name hname
    obtain ⟨net, hnet, rfl⟩ := h.profiles profile hprofile name hname
    have hne : net.dnn ≠ dnn := by
      rintro rfl
      exact checkDelDnn_unused hcheck profile hprofile hname
    exact ⟨net, List.mem_filter.2 ⟨hnet, decide_eq_true hne⟩, rfl⟩
  subscribers := h.subscribers

/-- A request that breaks no reference leads to a closed configuration. -/
theorem Day2Op.requested_closed (op : Day2Op) (h : c.Closed) (haccepted : op.Accepted c)
    (hkeeps : ¬ op.BreaksReference c) : (op.requested c).Closed := by
  cases op with
  | addUes m =>
    refine ⟨h.areas, h.profiles, ?_⟩
    intro subscriber hsub snssai hmem
    rcases List.mem_append.1 hsub with hold | hnew
    · exact h.subscribers subscriber hold snssai hmem
    · cases List.mem_singleton.1 hnew
      by_contra hmissing
      exact hkeeps ⟨snssai, hmem, hmissing⟩
  | delUes imsi =>
    exact ⟨h.areas, h.profiles, fun subscriber hsub => h.subscribers subscriber (List.mem_filter.1 hsub).1⟩
  | addDnn m =>
    refine ⟨h.areas, ?_, h.subscribers⟩
    intro profile hprofile dnn hdnn
    obtain ⟨net, hnet, hname⟩ := h.profiles profile hprofile dnn hdnn
    exact ⟨net, List.mem_append_left _ hnet, hname⟩
  | delDnn dnn => exact closed_delDnn h haccepted
  | addSliceOss m => exact closed_addTo h haccepted.1 (fun dnn hdnn => by_contra fun hn => hkeeps ⟨dnn, hdnn, hn⟩)
  | addSliceOperator m => exact closed_addTo h haccepted.1 (fun dnn hdnn => by_contra fun hn => hkeeps ⟨dnn, hdnn, hn⟩)
  | delSlice sliceId =>
    apply closed_delSlice h
    intro subscriber hsub snssai hmem hid
    exact hkeeps ⟨subscriber, hsub, snssai, hmem, hid⟩
  | addTac m =>
    refine ⟨?_, h.profiles, h.subscribers⟩
    intro area harea slice hslice
    rcases List.mem_append.1 harea with hold | hnew
    · exact h.areas area hold slice hslice
    · cases List.mem_singleton.1 hnew
      by_contra hmissing
      exact hkeeps ⟨slice, hslice, hmissing⟩
  | delTac areaId =>
    apply h.of_slices
    intro area harea slice hslice
    exact ⟨area, (List.mem_filter.1 harea).1, hslice⟩

theorem Day2Call.exec_closed (call : Day2Call) (h : c.Closed) (hsafe : ¬ call.Dangling c) :
    ∃ c', (finalState (call.exec.run ⟨some c, ()⟩)).currentConfig = some c' ∧ c'.Closed := by
  rcases call.exec_config c with he | ⟨hreturns, haccepted, he⟩ | ⟨sliceId, he⟩
  · exact ⟨c, he, h⟩
  · have hkeeps : ¬ call.op.BreaksReference c := fun hb => hsafe ⟨hreturns, haccepted, hb⟩
    exact ⟨_, he, call.op.requested_closed h haccepted hkeeps⟩
  · exact ⟨_, he, closed_areasLeft h sliceId⟩

end Closed

/-- Through every run of day2 calls, none of which returns with a reference broken, the
configuration stays closed. -/
theorem day2_references_closed (c : Create5gModel) (hclosed : c.Closed) (calls : List Day2Call)
    (hsafe : AllSteps Day2Call.exec Day2Call.Safe ⟨some c, ()⟩ calls) :
    ∃ c', (runAll Day2Call.exec ⟨some c, ()⟩ calls).currentConfig = some c' ∧ c'.Closed := by
  apply runAll_invariant (I := fun s => ∃ c', s.currentConfig = some c' ∧ c'.Closed) Day2Call.exec _ calls hsafe
  · exact ⟨c, rfl, hclosed⟩
  · rintro call ⟨config, u⟩ hcall ⟨c', rfl, hc'⟩
    exact call.exec_closed hc' (hcall c' rfl)

def campusSubscriber (sliceIds : List String) : SubSubscribers where
  imsi := "001010000000001"
  k := "00112233445566778899AABBCCDDEEFF"
  opc := "63BFA50EE6523365FF14C1F45F88737D"
  snssai := sliceIds.map (fun id => { sliceId := id, sliceType := .embb, pduSessionIds := [] })

/-- The slice is offered in one area. -/
def campusArea1 : Create5gModel := campusConfig [campusArea 1 (some [⟨.embb, "000001"⟩])]

theorem campusArea1_closed : campusArea1.Closed where
  areas := by decide
  profiles := by decide
  subscribers := by decide

/-- A subscriber on a known slice, and a deletion of the slice that fails in its hook. -/
theorem day2_references_closed_campus :
    ∃ c', (runAll Day2Call.exec ⟨some campusArea1, ()⟩
      [⟨.addUes (campusSubscriber ["000001"]), none⟩,
        ⟨.delSlice "000001", some (.external "refused")⟩]).currentConfig = some c' ∧ c'.Closed := by
  apply day2_references_closed campusArea1 campusArea1_closed
  refine ⟨?_, ?_, trivial⟩
  · rintro c hc ⟨-, -, snssai, hmem, hmissing⟩
    cases hc
    obtain rfl := List.mem_singleton.1 hmem
    exact hmissing (by decide)
  · rintro c - ⟨h, -⟩
    cases h

/-- `add_ues` asks for one known slice only. -/
theorem day2_references_closed_fails :
    ¬ ∀ c : Create5gModel, c.configurationFeasibilityCheck = .ok () → c.Closed → ∀ calls : List Day2Call,
      ∃ c', (runAll Day2Call.exec ⟨some c, ()⟩ calls).currentConfig = some c' ∧ c'.Closed := by
  intro h
  obtain ⟨c', hc', hclosed⟩ := h campusArea1 (by decide +kernel) campusArea1_closed
    [⟨.addUes (campusSubscriber ["000001", "000002"]), none⟩]
  cases hc'
  exact absurd hclosed.subscribers (by decide +kernel)

end Nfvcl
