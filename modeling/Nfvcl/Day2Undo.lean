import Mathlib.Data.List.Basic
import Nfvcl.PyValue
import Nfvcl.Day2Uniqueness

namespace Nfvcl
set_option autoImplicit true
open Effects

/-- `^([a-fA-F0-9]{6})$`. -/
def matchesSliceId (s : String) : Bool :=
  decide (s.toList.length = 6) && s.toList.all (fun c =>
    ('a' ≤ c && c ≤ 'f') || ('A' ≤ c && c ≤ 'F') || ('0' ≤ c && c ≤ '9'))

/-- `str.upper` on the characters of slice ids. -/
def upper (s : String) : String :=
  String.ofList (s.toList.map Char.toUpper)

/-- `constr(to_upper=True)` with the pattern of slice ids. -/
def validSliceId (field s : String) : Except PyError String :=
  if matchesSliceId s then .ok (upper s) else .error (.validationError field)

/-- What a client sends to add an item, with the text of its key as sent. -/
inductive AddPayload where
  | ues (imsi : String) (subscriber : SubSubscribers)
  | dnn (dnn : String) (dataNet : SubDataNets)
  | slice (oss : Bool) (sliceId : String) (m : Core5GAddSliceModel)
  | tac (id : PyValue) (area : SubArea)

namespace AddPayload

section Validation

-- what pydantic makes of a value for an `int` field, in the models of both requests
variable (validInt : PyValue → Except PyError Int)

/-- The request after `model_validate` of the class of the add operation; the rest of the payload
is taken as it is validated. -/
def addOp : AddPayload → Except PyError Day2Op
  | .ues imsi subscriber => .ok (.addUes { subscriber with imsi := imsi })
  | .dnn name dataNet => .ok (.addDnn { dataNet with dnn := name })
  | .slice oss sliceId m => do
    let id ← validSliceId "sliceId" sliceId
    return if oss then .addSliceOss { m with sliceId := id } else .addSliceOperator { m with sliceId := id }
  | .tac id area => do
    let areaId ← validInt id
    return .addTac { area with id := areaId }

/-- The matching delete request from the same key: `Core5GDelSliceModel` has a plain `str`. -/
def delOp : AddPayload → Except PyError Day2Op
  | .ues imsi _ => .ok (.delUes imsi)
  | .dnn name _ => .ok (.delDnn name)
  | .slice _ sliceId _ => .ok (.delSlice sliceId)
  | .tac id _ => do
    let areaId ← validInt id
    return .delTac areaId

end Validation

/-- A slice id is sent in upper case, and no area lists it without a profile. -/
def Undoable : AddPayload → Create5gModel → Prop
  | .slice _ sliceId _, c => upper sliceId = sliceId ∧ ∀ area ∈ c.areas, ¬ area.Lists sliceId
  | _, _ => True

end AddPayload

/-- The hook leaves the configuration alone. -/
def KeepsConfig (hook : EStateM PyError (Generic5GState ρ) Unit) : Prop :=
  ∀ s s', hook.run s = .ok () s' → s'.currentConfig = s.currentConfig

theorem Day2Op.exec_returned {op : Day2Op} {hook : EStateM PyError (Generic5GState ρ) Unit} (hkeeps : KeepsConfig hook)
    {s s' : Generic5GState ρ} (hc : s.currentConfig = some c) (h : (op.exec hook).run s = .ok () s') :
    op.Accepted c ∧ s'.currentConfig = some (op.requested c) := by
  obtain ⟨config, r⟩ := s
  cases hc
  rcases op.exec_cases c r with ⟨e, he⟩ | ⟨haccepted, he⟩ | ⟨-, sliceId, e, -, he⟩
  · rw [he] at h
    cases h
  · rw [he, Generic5G.restoring_run] at h
    cases hrun : hook.run ⟨some (op.requested c), r⟩ with
    | error e s₁ =>
      rw [hrun] at h
      cases h
    | ok u s₁ =>
      rw [hrun] at h
      cases h
      exact ⟨haccepted, hkeeps _ _ hrun⟩
  · rw [he] at h
    cases h

section Undoing

open Create5gModel (addSliceIn)

variable {c : Create5gModel}

theorem filter_append_ne {key : α → κ} [DecidableEq κ] {xs : List α} (h : ∀ y ∈ xs, key y ≠ key x) :
    (xs ++ [x]).filter (fun y => decide (key y ≠ key x)) = xs := by
  rw [List.filter_append, List.filter_eq_self.2 (fun y hy => decide_eq_true (h y hy))]
  simp

theorem delUes_addUes {m : SubSubscribers} (h : Create5gModel.checkAddUes m c = .ok ()) :
    (Day2Op.delUes m.imsi).requested ((Day2Op.addUes m).requested c) = c := by
  have hsame := filter_append_ne (checkAddUes_fresh h)
  change c.setSubscribers ((c.config.subscribers ++ [m]).filter _) = c
  rw [hsame]
  rfl

theorem delDnn_addDnn {m : SubDataNets} (h : Create5gModel.checkAddDnn m c = .ok ()) :
    (Day2Op.delDnn m.dnn).requested ((Day2Op.addDnn m).requested c) = c := by
  have hsame := filter_append_ne (checkAddDnn_fresh h)
  change c.setDataNets ((c.config.networkEndpoints.dataNets ++ [m]).filter _) = c
  rw [hsame]
  rfl

theorem delTac_addTac {m : SubArea} (h : Create5gModel.checkAddTac m c = .ok ()) :
    (Day2Op.delTac m.id).requested ((Day2Op.addTac m).requested c) = c := by
  have hsame := filter_append_ne (checkAddTac_fresh h)
  change c.setAreas ((c.areas ++ [m]).filter _) = c
  rw [hsame]
  rfl

theorem withoutSlice_addSliceIn (item : SubSlices) (areaId : Int) (areas : List SubArea) :
    (addSliceIn item areaId areas).map (SubArea.withoutSlice item.sliceId) =
      areas.map (SubArea.withoutSlice item.sliceId) := by
  induction areas with
  | nil => rfl
  | cons area areas ih =>
    by_cases ha : area.id = areaId
    · rw [addSliceIn, if_pos ha, List.map_cons, List.map_cons]
      congr 1
      unfold SubArea.withoutSlice
      cases area.slices with
      | none => rfl
      | some slices =>
        simp only [Option.map_some, List.filter_append, List.filter_singleton, ne_eq, not_true_eq_false, decide_false,
          cond_false, List.append_nil]
    · rw [addSliceIn, if_neg ha, List.map_cons, List.map_cons, ih]

theorem withoutSlice_foldl_addSliceIn (item : SubSlices) (numbers : List Int) (areas : List SubArea) :
    (numbers.foldl (fun areas id => addSliceIn item id areas) areas).map (SubArea.withoutSlice item.sliceId) =
      areas.map (SubArea.withoutSlice item.sliceId) := by
  induction numbers generalizing areas with
  | nil => rfl
  | cons number numbers ih => rw [List.foldl_cons, ih, withoutSlice_addSliceIn]

theorem map_withoutSlice_eq_iff (sliceId : String) (areas : List SubArea) :
    areas.map (SubArea.withoutSlice sliceId) = areas ↔ ∀ area ∈ areas, ¬ area.Lists sliceId := by
  have hid : areas.map (SubArea.withoutSlice sliceId) = areas ↔ ∀ area ∈ areas, area.withoutSlice sliceId = area := by
    rw [← List.map_inj_left, List.map_id']
  rw [hid]
  exact forall₂_congr (fun area _ => area.withoutSlice_eq_iff sliceId)

/-- Deleting by the id that was stored restores the profiles, and takes the id out of every area. -/
theorem delSlice_addTo {m : Core5GAddSliceModel} (h : Create5gModel.checkAddSlice m oss c = .ok ()) :
    (Day2Op.delSlice m.sliceId).requested (m.addTo c) = c.setAreas (c.areas.map (SubArea.withoutSlice m.sliceId)) := by
  have hareas : (m.addTo c).areas.map (SubArea.withoutSlice m.sliceId) = c.areas.map (SubArea.withoutSlice m.sliceId) :=
    withoutSlice_foldl_addSliceIn ⟨m.sliceType, m.sliceId⟩ m.areaNumbers c.areas
  have hprofiles : (m.addTo c).config.sliceProfiles.map (fun profiles => profiles.filter (fun x => decide (x.sliceId ≠ m.sliceId))) =
      c.config.sliceProfiles := by
    have hfresh := (checkAddSlice_fresh h).2
    change (c.config.sliceProfiles.map (fun profiles => profiles ++ [m.toSubSliceProfiles])).map _ = c.config.sliceProfiles
    unfold Create5gModel.profiles at hfresh
    cases hp : c.config.sliceProfiles with
    | none => rfl
    | some profiles =>
      rw [hp, Option.getD_some] at hfresh
      rw [Option.map_some, Option.map_some, filter_append_ne (x := m.toSubSliceProfiles) hfresh]
  change ((m.addTo c).setAreas ((m.addTo c).areas.map _)).setSliceProfiles ((m.addTo c).config.sliceProfiles.map _) = _
  rw [hareas, hprofiles]
  rfl

/-- Deleting by another text leaves the profile that was added. -/
theorem delSlice_addTo_ne {m : Core5GAddSliceModel} (h : Create5gModel.checkAddSlice m oss c = .ok ())
    (hne : m.sliceId ≠ sliceId) : (Day2Op.delSlice sliceId).requested (m.addTo c) ≠ c := by
  intro heq
  have hadded : m.toSubSliceProfiles ∈ ((Day2Op.delSlice sliceId).requested (m.addTo c)).profiles := by
    obtain ⟨profile, hmem, -⟩ := hasProfile_addTo_self h
    change m.toSubSliceProfiles ∈ (((m.addTo c).config.sliceProfiles).map _).getD []
    change profile ∈ ((c.config.sliceProfiles.map (fun profiles => profiles ++ [m.toSubSliceProfiles]))).getD [] at hmem
    change m.toSubSliceProfiles ∈
      (((c.config.sliceProfiles.map (fun profiles => profiles ++ [m.toSubSliceProfiles]))).map _).getD []
    cases hp : c.config.sliceProfiles with
    | none =>
      rw [hp] at hmem
      cases hmem
    | some profiles =>
      exact List.mem_filter.2 ⟨List.mem_append_right _ List.mem_cons_self, decide_eq_true hne⟩
  rw [heq] at hadded
  exact (checkAddSlice_fresh h).2 _ hadded rfl

theorem delSlice_addTo_iff {m : Core5GAddSliceModel} (h : Create5gModel.checkAddSlice m oss c = .ok ()) (sliceId : String) :
    (Day2Op.delSlice sliceId).requested (m.addTo c) = c ↔
      m.sliceId = sliceId ∧ ∀ area ∈ c.areas, ¬ area.Lists sliceId := by
  by_cases hid : m.sliceId = sliceId
  · subst hid
    have hareas : c.setAreas (c.areas.map (SubArea.withoutSlice m.sliceId)) = c ↔
        c.areas.map (SubArea.withoutSlice m.sliceId) = c.areas := by
      constructor
      · exact congrArg Create5gModel.areas
      · intro heq
        rw [heq]
        rfl
    rw [delSlice_addTo h, hareas, map_withoutSlice_eq_iff]
    exact ⟨fun hall => ⟨rfl, hall⟩, fun hall => hall.2⟩
  · constructor
    · exact fun heq => absurd heq (delSlice_addTo_ne h hid)
    · exact fun hall => absurd hall.1 hid

end Undoing

/-- An added item is taken back by a deletion with the key the client sent, but for slices: theirs is
stored in upper case and looked for as it was sent. -/
theorem delete_undoes_add_iff (validInt : PyValue → Except PyError Int) (payload : AddPayload)
    (hadd : payload.addOp validInt = .ok addOp) (hdel : payload.delOp validInt = .ok delOp)
    {addHook delHook : EStateM PyError (Generic5GState ρ) Unit} (hkeeps : KeepsConfig addHook) (hkeeps' : KeepsConfig delHook)
    {s s₁ s₂ : Generic5GState ρ} {c : Create5gModel} (hc : s.currentConfig = some c)
    (h₁ : (addOp.exec addHook).run s = .ok () s₁) (h₂ : (delOp.exec delHook).run s₁ = .ok () s₂) :
    s₂.currentConfig = s.currentConfig ↔ payload.Undoable c := by
  obtain ⟨haccepted, hs₁⟩ := Day2Op.exec_returned hkeeps hc h₁
  obtain ⟨-, hs₂⟩ := Day2Op.exec_returned hkeeps' hs₁ h₂
  rw [hs₂, hc, Option.some.injEq]
  cases payload with
  | ues imsi subscriber =>
    cases hadd
    cases hdel
    exact iff_of_true (delUes_addUes haccepted) trivial
  | dnn name dataNet =>
    cases hadd
    cases hdel
    exact iff_of_true (delDnn_addDnn haccepted) trivial
  | tac id area =>
    obtain ⟨areaId, hvalid, hop⟩ := except_bind_ok.1 hadd
    obtain ⟨areaId', hvalid', hop'⟩ := except_bind_ok.1 hdel
    cases hvalid.symm.trans hvalid'
    cases hop
    cases hop'
    exact iff_of_true (delTac_addTac haccepted) trivial
  | slice oss sliceId m =>
    obtain ⟨id, hvalid, hop⟩ := except_bind_ok.1 hadd
    unfold validSliceId at hvalid
    by_cases hmatch : matchesSliceId sliceId
    · rw [if_pos hmatch] at hvalid
      cases hvalid
      cases hdel
      cases oss with
      | false =>
        cases hop
        exact delSlice_addTo_iff haccepted.1 sliceId
      | true =>
        cases hop
        exact delSlice_addTo_iff haccepted.1 sliceId
    · rw [if_neg hmatch] at hvalid
      cases hvalid

/-- An `int` field that takes integers only. -/
def plainInt : PyValue → Except PyError Int
  | .int n => .ok n
  | _ => .error (.validationError "id")

def slicePayload (sliceId : String) : AddPayload :=
  .slice true sliceId (newSlice ["1"])

theorem campusArea1_keysUnique : campusArea1.KeysUnique :=
  ⟨campusArea1_listsUnique, by decide⟩

/-- The configuration with the slice. -/
def campusWithSlice : Create5gModel :=
  (Day2Op.addSliceOss (newSlice ["1"])).requested campusArea1

/-- A slice sent as it is stored. -/
theorem delete_undoes_add_upper :
    (finalState (((Day2Op.delSlice "0000AB").exec (pure ())).run
      (⟨some campusWithSlice, ()⟩ : Generic5GState Unit))).currentConfig = some campusArea1 := by
  have hpure : KeepsConfig (pure () : EStateM PyError (Generic5GState Unit) Unit) := by
    rintro s s' ⟨⟩
    rfl
  have hvalid : (slicePayload "0000AB").addOp plainInt = .ok (.addSliceOss (newSlice ["1"])) := rfl
  have hadded : ((Day2Op.addSliceOss (newSlice ["1"])).exec (pure ())).run (⟨some campusArea1, ()⟩ : Generic5GState Unit) =
      .ok () ⟨some campusWithSlice, ()⟩ := rfl
  have hupper : (slicePayload "0000AB").Undoable campusArea1 := ⟨by decide +kernel, by decide⟩
  exact (delete_undoes_add_iff plainInt (slicePayload "0000AB") hvalid rfl hpure hpure rfl hadded rfl).2 hupper

/-- The same slice sent in lower case. -/
theorem delete_undoes_add_fails :
    ¬ ∀ (payload : AddPayload) (addOp delOp : Day2Op) (c : Create5gModel) (s₁ s₂ : Generic5GState Unit),
      payload.addOp plainInt = .ok addOp → payload.delOp plainInt = .ok delOp → c.KeysUnique →
      (addOp.exec (pure ())).run ⟨some c, ()⟩ = .ok () s₁ → (delOp.exec (pure ())).run s₁ = .ok () s₂ →
      s₂.currentConfig = some c := by
  intro h
  have hconfig := h (slicePayload "0000ab") (.addSliceOss (newSlice ["1"])) (.delSlice "0000ab") campusArea1
    ⟨some campusWithSlice, ()⟩ _ rfl rfl campusArea1_keysUnique rfl rfl
  exact absurd hconfig (by decide +kernel)

end Nfvcl
