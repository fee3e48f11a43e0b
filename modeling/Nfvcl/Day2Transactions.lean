import Mathlib.Data.List.Basic
import Mathlib.Data.List.TakeWhile
import Nfvcl.Generic5GDay2

namespace Nfvcl
set_option autoImplicit true
open Effects

namespace SubArea

def withoutSlice (sliceId : String) (area : SubArea) : SubArea :=
  { area with slices := area.slices.map (fun slices => slices.filter (fun x => decide (x.sliceId ≠ sliceId))) }

def Lists (area : SubArea) (sliceId : String) : Prop :=
  ∃ x ∈ area.slices.getD [], x.sliceId = sliceId

instance (area : SubArea) (sliceId : String) : Decidable (area.Lists sliceId) :=
  inferInstanceAs (Decidable (∃ x ∈ area.slices.getD [], x.sliceId = sliceId))

theorem withoutSlice_eq_iff (area : SubArea) (sliceId : String) :
    area.withoutSlice sliceId = area ↔ ¬ area.Lists sliceId := by
  obtain ⟨id, nci, idLength, core, upf, networks, slices⟩ := area
  cases slices with
  | none => simp [withoutSlice, Lists]
  | some slices =>
    simp only [withoutSlice, Lists, Option.map_some, SubArea.mk.injEq, Option.some.injEq, true_and,
      List.filter_eq_self, Option.getD_some, not_exists, not_and, decide_eq_true_eq]

end SubArea

open Create5gModel (addSliceIn)

/-- The slice added to the areas listed and to the profiles. -/
def Core5GAddSliceModel.addTo (m : Core5GAddSliceModel) (c : Create5gModel) : Create5gModel :=
  let areaIds := (m.areaIds.getD []).filterMap (fun id => (PyInt.parse id).toOption)
  (c.setAreas (areaIds.foldl (fun areas id => addSliceIn ⟨m.sliceType, m.sliceId⟩ id areas) c.areas)).setSliceProfiles
    (c.config.sliceProfiles.map (fun profiles => profiles ++ [m.toSubSliceProfiles]))

/-- The configuration a day2 request asks for. -/
def Day2Op.requested : Day2Op → Create5gModel → Create5gModel
  | .addUes m, c => c.setSubscribers (c.config.subscribers ++ [m])
  | .delUes imsi, c => c.setSubscribers (c.config.subscribers.filter (fun x => decide (x.imsi ≠ imsi)))
  | .addDnn m, c => c.setDataNets (c.config.networkEndpoints.dataNets ++ [m])
  | .delDnn dnn, c => c.setDataNets (c.config.networkEndpoints.dataNets.filter (fun x => decide (x.dnn ≠ dnn)))
  | .addSliceOss m, c => m.addTo c
  | .addSliceOperator m, c => m.addTo c
  | .delSlice sliceId, c =>
    (c.setAreas (c.areas.map (SubArea.withoutSlice sliceId))).setSliceProfiles
      (c.config.sliceProfiles.map (fun profiles => profiles.filter (fun x => decide (x.sliceId ≠ sliceId))))
  | .addTac m, c => c.setAreas (c.areas ++ [m])
  | .delTac areaId, c => c.setAreas (c.areas.filter (fun x => decide (x.id ≠ areaId)))

/-- A call that raises leaves the configuration as it was; one that returns, with a hook that
left the configuration alone, has made the requested change and no other. -/
structure Day2Op.Transactional (op : Day2Op) (hook : EStateM PyError (Generic5GState ρ) Unit)
    (s : Generic5GState ρ) : Prop where
  raised : Raised ((op.exec hook).run s) → (finalState ((op.exec hook).run s)).currentConfig = s.currentConfig
  returned : ∀ c, s.currentConfig = some c → ¬ Raised ((op.exec hook).run s) →
    (finalState (hook.run ⟨some (op.requested c), s.rest⟩)).currentConfig = some (op.requested c) →
    (finalState ((op.exec hook).run s)).currentConfig = some (op.requested c)

/-- `day2_del_slice` meets an area or a profile list that is `None` after it has taken the
slice out of an area. -/
def Day2Op.CutShort : Day2Op → Option Create5gModel → Prop
  | .delSlice sliceId, some c =>
    ((∃ area ∈ c.areas, area.slices = none) ∨ c.config.sliceProfiles = none) ∧
      ∃ area ∈ c.areas.takeWhile (fun area => area.slices.isSome), area.Lists sliceId
  | _, _ => False

section Slices

/-- The areas as the loop of `day2_del_slice` leaves them: those before the first one without a
list of slices are done. -/
def areasLeft (sliceId : String) (areas : List SubArea) : List SubArea :=
  (areas.takeWhile (fun area => area.slices.isSome)).map (SubArea.withoutSlice sliceId) ++
    areas.dropWhile (fun area => area.slices.isSome)

theorem areasLeft_ids (sliceId : String) (areas : List SubArea) : (areasLeft sliceId areas).map SubArea.id = areas.map SubArea.id := by
  unfold areasLeft
  rw [List.map_append, List.map_map]
  change (areas.takeWhile _).map SubArea.id ++ _ = _
  rw [← List.map_append, List.takeWhile_append_dropWhile]

theorem delSliceFromAreas_areas (sliceId : String) (areas : List SubArea) :
    (Create5gModel.delSliceFromAreas sliceId areas).2 = areasLeft sliceId areas := by
  unfold areasLeft
  induction areas with
  | nil => rfl
  | cons area areas ih =>
    cases hs : area.slices with
    | none =>
      rw [List.takeWhile_cons_of_neg (by rw [hs]; exact Bool.false_ne_true),
        List.dropWhile_cons_of_neg (by rw [hs]; exact Bool.false_ne_true)]
      simp only [Create5gModel.delSliceFromAreas, hs, iterate]
      rfl
    | some slices =>
      rw [List.takeWhile_cons_of_pos (by rw [hs]; rfl), List.dropWhile_cons_of_pos (by rw [hs]; rfl)]
      simp only [Create5gModel.delSliceFromAreas, hs, iterate, List.map_cons, List.cons_append, ih,
        SubArea.withoutSlice, Option.map_some]

theorem delSliceFromAreas_ok (sliceId : String) (areas : List SubArea) (h : ∀ area ∈ areas, area.slices ≠ none) :
    Create5gModel.delSliceFromAreas sliceId areas = (.ok (), areas.map (SubArea.withoutSlice sliceId)) := by
  induction areas with
  | nil => rfl
  | cons area areas ih =>
    obtain ⟨slices, hs⟩ := Option.ne_none_iff_exists'.1 (h area List.mem_cons_self)
    simp only [Create5gModel.delSliceFromAreas, hs, iterate,
      ih (fun a ha => h a (List.mem_cons_of_mem area ha)), List.map_cons, SubArea.withoutSlice, Option.map_some]

theorem delSliceFromAreas_error (sliceId : String) (areas : List SubArea) (h : ∃ area ∈ areas, area.slices = none) :
    ∃ e, (Create5gModel.delSliceFromAreas sliceId areas).1 = .error e := by
  induction areas with
  | nil => exact absurd h (by simp)
  | cons area areas ih =>
    cases hs : area.slices with
    | none =>
      simp only [Create5gModel.delSliceFromAreas, hs, iterate]
      exact ⟨_, rfl⟩
    | some slices =>
      obtain ⟨a, ha, hnone⟩ := h
      have hrest : ∃ a ∈ areas, a.slices = none := by
        rcases List.mem_cons.1 ha with rfl | ha
        · rw [hs] at hnone
          cases hnone
        · exact ⟨a, ha, hnone⟩
      simp only [Create5gModel.delSliceFromAreas, hs, iterate]
      exact ih hrest

theorem removeSlice_ok (hareas : ∀ area ∈ c.areas, area.slices ≠ none)
    (hprofiles : c.config.sliceProfiles ≠ none) (sliceId : String) :
    (Create5gModel.removeSlice sliceId).run c = .ok () ((Day2Op.delSlice sliceId).requested c) := by
  obtain ⟨profiles, hp⟩ := Option.ne_none_iff_exists'.1 hprofiles
  have hdel := delSliceFromAreas_ok sliceId c.areas hareas
  simp only [Create5gModel.removeSlice, EStateM.run_bind, EStateM.run_get, hdel, EStateM.run_set, hp, iterate,
    Day2Op.requested, Option.map_some]
  rfl

theorem removeSlice_error (h : (∃ area ∈ c.areas, area.slices = none) ∨ c.config.sliceProfiles = none)
    (sliceId : String) :
    ∃ e, (Create5gModel.removeSlice sliceId).run c =
      .error e (c.setAreas (areasLeft sliceId c.areas)) := by
  rw [← delSliceFromAreas_areas]
  by_cases hareas : ∃ area ∈ c.areas, area.slices = none
  · obtain ⟨e, he⟩ := delSliceFromAreas_error sliceId c.areas hareas
    refine ⟨e, ?_⟩
    simp only [Create5gModel.removeSlice, EStateM.run_bind, EStateM.run_get, EStateM.run_set, he]
    rfl
  · have hok : (Create5gModel.delSliceFromAreas sliceId c.areas).1 = .ok () := by
      rw [delSliceFromAreas_ok sliceId c.areas (fun a ha hn => hareas ⟨a, ha, hn⟩)]
    refine ⟨.typeError "'NoneType' object is not iterable", ?_⟩
    simp only [Create5gModel.removeSlice, EStateM.run_bind, EStateM.run_get, EStateM.run_set, hok,
      h.resolve_left hareas, iterate]
    rfl

/-- What is left when `day2_del_slice` is cut short is the old configuration exactly when no
area before the cut lists the slice. -/
theorem areasLeft_eq_iff (sliceId : String) (areas : List SubArea) :
    areasLeft sliceId areas = areas ↔
      ∀ area ∈ areas.takeWhile (fun area => area.slices.isSome), ¬ area.Lists sliceId := by
  have hsplit := List.takeWhile_append_dropWhile (p := fun area : SubArea => area.slices.isSome) (l := areas)
  constructor
  · intro h area harea
    have hmap : (areas.takeWhile (fun area => area.slices.isSome)).map (SubArea.withoutSlice sliceId) =
        areas.takeWhile (fun area => area.slices.isSome) := by
      apply List.append_cancel_right
      exact h.trans hsplit.symm
    rw [← SubArea.withoutSlice_eq_iff]
    exact (List.map_inj_left (f := SubArea.withoutSlice sliceId) (g := id)).1 (by rw [List.map_id, hmap]) area harea
  · intro h
    have hmap : (areas.takeWhile (fun area => area.slices.isSome)).map (SubArea.withoutSlice sliceId) =
        areas.takeWhile (fun area => area.slices.isSome) := by
      have hid : ∀ area ∈ areas.takeWhile (fun area => area.slices.isSome), area.withoutSlice sliceId = id area :=
        fun area harea => (area.withoutSlice_eq_iff sliceId).2 (h area harea)
      rw [List.map_congr_left hid, List.map_id]
    rw [areasLeft, hmap]
    exact hsplit

theorem appendSlice_ok (h : (Create5gModel.appendSlice item areaId).run c = .ok u c') :
    (∀ area, c.getArea areaId = some area → area.slices ≠ none) ∧
      c' = c.setAreas (addSliceIn item areaId c.areas) := by
  simp only [Create5gModel.appendSlice, EStateM.run_bind, EStateM.run_get] at h
  cases harea : c.getArea areaId with
  | none =>
    rw [harea] at h
    cases h
  | some area =>
    simp only [harea] at h
    cases hs : area.slices with
    | none =>
      rw [hs] at h
      cases h
    | some slices =>
      rw [hs] at h
      cases h
      refine ⟨?_, rfl⟩
      intro a ha
      cases ha
      rw [hs]
      exact Option.some_ne_none slices

theorem appendSliceTo_ok {id : String} (h : (Create5gModel.appendSliceTo item id).run c = .ok u c') :
    ∃ areaId, PyInt.parse id = .ok areaId ∧ (∀ area, c.getArea areaId = some area → area.slices ≠ none) ∧
      c' = c.setAreas (addSliceIn item areaId c.areas) := by
  unfold Create5gModel.appendSliceTo at h
  cases hp : PyInt.parse id with
  | error e =>
    rw [hp] at h
    cases h
  | ok areaId =>
    rw [hp] at h
    exact ⟨areaId, rfl, appendSlice_ok h⟩

theorem addSliceIn_ids (item : SubSlices) (areaId : Int) (areas : List SubArea) :
    (addSliceIn item areaId areas).map SubArea.id = areas.map SubArea.id := by
  induction areas with
  | nil => rfl
  | cons area areas ih =>
    by_cases harea : area.id = areaId
    · rw [addSliceIn, if_pos harea]
      rfl
    · rw [addSliceIn, if_neg harea, List.map_cons, List.map_cons, ih]

/-- Adding a slice changes neither which areas there are nor which of them have a list. -/
theorem getArea_addSliceIn (item : SubSlices) (id areaId : Int) (areas : List SubArea) :
    (addSliceIn item id areas).find? (fun area => decide (area.id = areaId)) =
      (areas.find? (fun area => decide (area.id = areaId))).map (fun area =>
        if area.id = id then { area with slices := area.slices.map (fun slices => slices ++ [item]) } else area) := by
  induction areas with
  | nil => rfl
  | cons area areas ih =>
    by_cases hid : area.id = id
    · rw [addSliceIn, if_pos hid]
      by_cases ha : area.id = areaId
      · rw [List.find?_cons_of_pos (by simpa using ha), List.find?_cons_of_pos (by simpa using ha), Option.map_some,
          if_pos hid]
      · rw [List.find?_cons_of_neg (by simpa using ha), List.find?_cons_of_neg (by simpa using ha)]
        cases hrest : areas.find? (fun area => decide (area.id = areaId)) with
        | none => rfl
        | some found =>
          have hfound : found.id = areaId := by simpa using List.find?_some hrest
          rw [Option.map_some, if_neg]
          rw [hfound, ← hid]
          exact fun h => ha h.symm
    · rw [addSliceIn, if_neg hid]
      by_cases ha : area.id = areaId
      · rw [List.find?_cons_of_pos (by simpa using ha), List.find?_cons_of_pos (by simpa using ha), Option.map_some,
          if_neg hid]
      · rw [List.find?_cons_of_neg (by simpa using ha), List.find?_cons_of_neg (by simpa using ha), ih]

theorem slices_ne_none_of_addSliceIn {c : Create5gModel} {id : Int}
    (h : ∀ area, (c.setAreas (addSliceIn item id c.areas)).getArea areaId = some area → area.slices ≠ none)
    (area : SubArea) (harea : c.getArea areaId = some area) : area.slices ≠ none := by
  have hadded := getArea_addSliceIn item id areaId c.areas
  change (c.setAreas (addSliceIn item id c.areas)).getArea areaId = (c.getArea areaId).map _ at hadded
  rw [harea, Option.map_some] at hadded
  have hne := h _ hadded
  by_cases hid : area.id = id
  · rw [if_pos hid] at hne
    intro hnone
    rw [hnone] at hne
    exact hne rfl
  · rw [if_neg hid] at hne
    exact hne

theorem forM_appendSliceTo_ok {ids : List String}
    (h : (forM ids (Create5gModel.appendSliceTo item)).run c = .ok u c') :
    (∀ id ∈ ids, ∀ areaId, PyInt.parse id = .ok areaId →
      ∀ area, c.getArea areaId = some area → area.slices ≠ none) ∧
    c' = c.setAreas ((ids.filterMap (fun id => (PyInt.parse id).toOption)).foldl
      (fun areas id => addSliceIn item id areas) c.areas) := by
  induction ids generalizing c with
  | nil =>
    cases h
    exact ⟨fun id hid => (nomatch hid), rfl⟩
  | cons id ids ih =>
    rw [List.forM_cons] at h
    obtain ⟨_, c₁, h₁, h₂⟩ := bind_ok_inv h
    obtain ⟨areaId, hparse, hlisted, rfl⟩ := appendSliceTo_ok h₁
    obtain ⟨hrest, hfinal⟩ := ih h₂
    constructor
    · intro id' hid' areaId' hparse'
      rcases List.mem_cons.1 hid' with rfl | hid'
      · cases hparse.symm.trans hparse'
        exact hlisted
      · exact slices_ne_none_of_addSliceIn (hrest id' hid' areaId' hparse')
    · rw [hfinal, List.filterMap_cons_some (by rw [hparse]; rfl), List.foldl_cons]
      rfl

/-- The areas an `add_slice` request names have lists of slices to append to. -/
def Core5GAddSliceModel.AreasListSlices (m : Core5GAddSliceModel) (c : Create5gModel) : Prop :=
  ∀ id ∈ m.areaIds.getD [], ∀ areaId, PyInt.parse id = .ok areaId →
    ∀ area, c.getArea areaId = some area → area.slices ≠ none

theorem day2AddSliceGeneric_ok (h : (Create5gModel.day2AddSliceGeneric m oss).run c = .ok u c') :
    (Create5gModel.checkAddSlice m oss c = .ok () ∧ m.AreasListSlices c) ∧ c' = m.addTo c := by
  obtain ⟨_, c₁, h₁, h₂⟩ := bind_ok_inv h
  rw [Create5gModel.checking_run] at h₁
  cases hcheck : Create5gModel.checkAddSlice m oss c with
  | error e =>
    rw [hcheck] at h₁
    cases h₁
  | ok v =>
    rw [hcheck] at h₁
    cases h₁
    obtain ⟨_, c₂, h₃, h₄⟩ := bind_ok_inv h₂
    obtain ⟨hlisted, hareas⟩ := forM_appendSliceTo_ok h₃
    rw [hareas] at h₄
    cases h₄
    exact ⟨⟨rfl, hlisted⟩, rfl⟩

end Slices

section Transactions

variable {hook : EStateM PyError (Generic5GState ρ) Unit}

/-- A hook that raises is followed by the restored configuration. -/
theorem restoring_raised (backup : Option Create5gModel) (s : Generic5GState ρ)
    (h : Raised ((Generic5G.restoring backup hook).run s)) :
    (finalState ((Generic5G.restoring backup hook).run s)).currentConfig = backup := by
  rw [Generic5G.restoring_run] at h ⊢
  cases hr : hook.run s with
  | ok u s' =>
    rw [hr] at h
    exact h.elim
  | error e s' => rfl

theorem restoring_returned (backup : Option Create5gModel) (s : Generic5GState ρ)
    (h : ¬ Raised ((Generic5G.restoring backup hook).run s)) :
    finalState ((Generic5G.restoring backup hook).run s) = finalState (hook.run s) := by
  rw [Generic5G.restoring_run] at h ⊢
  cases hr : hook.run s with
  | ok u s' => rfl
  | error e s' =>
    rw [hr] at h
    exact (h trivial).elim

theorem changeConfig_cases (attr : String) (check : Create5gModel → Except PyError Unit)
    (change : Create5gModel → Create5gModel) (c : Create5gModel) (r : ρ) :
    (∃ e, (Generic5G.changeConfig attr check change hook).run ⟨some c, r⟩ = .error e ⟨some c, r⟩) ∨
      check c = .ok () ∧ (Generic5G.changeConfig attr check change hook).run ⟨some c, r⟩ =
        (Generic5G.restoring (some c) hook).run ⟨some (change c), r⟩ := by
  rw [Generic5G.changeConfig_run]
  cases check c with
  | error e => exact .inl ⟨e, rfl⟩
  | ok u => exact .inr ⟨rfl, rfl⟩

theorem day2AddSlice_cases (m : Core5GAddSliceModel) (oss : Bool) (c : Create5gModel) (r : ρ) :
    (∃ e, (Generic5G.day2AddSlice hook m oss).run ⟨some c, r⟩ = .error e ⟨some c, r⟩) ∨
      (Create5gModel.checkAddSlice m oss c = .ok () ∧ m.AreasListSlices c) ∧
        (Generic5G.day2AddSlice hook m oss).run ⟨some c, r⟩ =
          (Generic5G.restoring (some c) hook).run ⟨some (m.addTo c), r⟩ := by
  rw [Generic5G.day2AddSlice_run]
  cases h : (Create5gModel.day2AddSliceGeneric m oss).run c with
  | error e c' => exact .inl ⟨e, rfl⟩
  | ok u c' =>
    obtain ⟨hcheck, rfl⟩ := day2AddSliceGeneric_ok h
    exact .inr ⟨hcheck, rfl⟩

/-- The request gets as far as the hook. -/
def Day2Op.Accepted : Day2Op → Create5gModel → Prop
  | .addUes m, c => Create5gModel.checkAddUes m c = .ok ()
  | .delUes imsi, c => Create5gModel.checkDelUes imsi c = .ok ()
  | .addDnn m, c => Create5gModel.checkAddDnn m c = .ok ()
  | .delDnn dnn, c => Create5gModel.checkDelDnn dnn c = .ok ()
  | .addSliceOss m, c => Create5gModel.checkAddSlice m true c = .ok () ∧ m.AreasListSlices c
  | .addSliceOperator m, c => Create5gModel.checkAddSlice m false c = .ok () ∧ m.AreasListSlices c
  | .delSlice _, c => ¬ ((∃ area ∈ c.areas, area.slices = none) ∨ c.config.sliceProfiles = none)
  | .addTac m, c => Create5gModel.checkAddTac m c = .ok ()
  | .delTac areaId, c => Create5gModel.checkDelTac areaId c = .ok ()

theorem day2DelSlice_accepted {sliceId : String} {c : Create5gModel}
    (h : ¬ ((∃ area ∈ c.areas, area.slices = none) ∨ c.config.sliceProfiles = none)) (r : ρ) :
    (Generic5G.day2DelSlice hook sliceId).run ⟨some c, r⟩ =
      (Generic5G.restoring (some c) hook).run ⟨some ((Day2Op.delSlice sliceId).requested c), r⟩ := by
  rw [Generic5G.day2DelSlice_run, removeSlice_ok (fun a ha hn => h (.inl ⟨a, ha, hn⟩)) (fun hn => h (.inr hn))]

theorem day2DelSlice_cut {c : Create5gModel}
    (h : (∃ area ∈ c.areas, area.slices = none) ∨ c.config.sliceProfiles = none) (sliceId : String) (r : ρ) :
    ∃ e, (Generic5G.day2DelSlice hook sliceId).run ⟨some c, r⟩ =
      .error e ⟨some (c.setAreas (areasLeft sliceId c.areas)), r⟩ := by
  obtain ⟨e, he⟩ := removeSlice_error h sliceId
  refine ⟨e, ?_⟩
  rw [Generic5G.day2DelSlice_run, he]

/-- What an operation does: it is refused, it hands the requested configuration to the hook, or
it is a `del_slice` whose loop was cut. -/
theorem Day2Op.exec_cases (op : Day2Op) (c : Create5gModel) (r : ρ) :
    (∃ e, (op.exec hook).run ⟨some c, r⟩ = .error e ⟨some c, r⟩) ∨
    (op.Accepted c ∧
      (op.exec hook).run ⟨some c, r⟩ = (Generic5G.restoring (some c) hook).run ⟨some (op.requested c), r⟩) ∨
    (((∃ area ∈ c.areas, area.slices = none) ∨ c.config.sliceProfiles = none) ∧
      ∃ sliceId e, op = .delSlice sliceId ∧
        (op.exec hook).run ⟨some c, r⟩ = .error e ⟨some (c.setAreas (areasLeft sliceId c.areas)), r⟩) := by
  cases op with
  | delSlice sliceId =>
    by_cases h : (∃ area ∈ c.areas, area.slices = none) ∨ c.config.sliceProfiles = none
    · obtain ⟨e, he⟩ := day2DelSlice_cut h sliceId r
      exact .inr (.inr ⟨h, sliceId, e, rfl, he⟩)
    · exact .inr (.inl ⟨h, day2DelSlice_accepted h r⟩)
  | addSliceOss m => exact (day2AddSlice_cases m true c r).imp_right .inl
  | addSliceOperator m => exact (day2AddSlice_cases m false c r).imp_right .inl
  | addUes m => exact (changeConfig_cases _ _ _ c r).imp_right .inl
  | delUes imsi => exact (changeConfig_cases _ _ _ c r).imp_right .inl
  | addDnn m => exact (changeConfig_cases _ _ _ c r).imp_right .inl
  | delDnn dnn => exact (changeConfig_cases _ _ _ c r).imp_right .inl
  | addTac m => exact (changeConfig_cases _ _ _ c r).imp_right .inl
  | delTac areaId => exact (changeConfig_cases _ _ _ c r).imp_right .inl

theorem Day2Op.Transactional.of_refused {op : Day2Op} (he : (op.exec hook).run ⟨some c, r⟩ = .error e ⟨some c, r⟩) :
    op.Transactional hook ⟨some c, r⟩ where
  raised := by
    intro _
    rw [he]
    rfl
  returned := by
    intro c' _ hreturns
    rw [he] at hreturns
    exact (hreturns trivial).elim

theorem Day2Op.Transactional.of_requested {op : Day2Op} {c : Create5gModel} (he : (op.exec hook).run ⟨some c, r⟩ =
      (Generic5G.restoring (some c) hook).run ⟨some (op.requested c), r⟩) :
    op.Transactional hook ⟨some c, r⟩ where
  raised := by
    intro hraised
    rw [he] at hraised ⊢
    exact restoring_raised _ _ hraised
  returned := by
    intro c' hc hreturns hhook
    cases hc
    rw [he] at hreturns ⊢
    rw [restoring_returned _ _ hreturns]
    exact hhook

theorem delSlice_transactional_iff (sliceId : String) (c : Create5gModel) (r : ρ) :
    (Day2Op.delSlice sliceId).Transactional hook ⟨some c, r⟩ ↔ ¬ (Day2Op.delSlice sliceId).CutShort (some c) := by
  by_cases hcut : (∃ area ∈ c.areas, area.slices = none) ∨ c.config.sliceProfiles = none
  · obtain ⟨e, hrun⟩ : ∃ e, (Generic5G.day2DelSlice hook sliceId).run ⟨some c, r⟩ =
        .error e ⟨some (c.setAreas (areasLeft sliceId c.areas)), r⟩ := day2DelSlice_cut hcut sliceId r
    have hsame := areasLeft_eq_iff sliceId c.areas
    constructor
    · rintro h ⟨-, area, harea, hlists⟩
      have hconfig := h.raised (by rw [Day2Op.exec, hrun]; trivial)
      rw [Day2Op.exec, hrun] at hconfig
      have hareas := congrArg Create5gModel.areas (Option.some.inj hconfig)
      exact hsame.1 hareas area harea hlists
    · intro h
      have hareas := hsame.2 (fun area harea hlists => h ⟨hcut, area, harea, hlists⟩)
      rw [hareas] at hrun
      exact .of_refused hrun
  · constructor
    · rintro - ⟨h, -⟩
      exact hcut h
    · intro _
      exact .of_requested (day2DelSlice_accepted hcut r)

/-- Without a configuration every operation raises and changes nothing. -/
theorem Day2Op.transactional_none (op : Day2Op) (r : ρ) : op.Transactional hook ⟨none, r⟩ where
  raised := by
    intro _
    cases op <;> rfl
  returned := fun c hc => nomatch hc

end Transactions

/-- Every operation with every hook is transactional, but for a `del_slice` that is cut short. -/
theorem day2_transactional_iff (op : Day2Op) (hook : EStateM PyError (Generic5GState ρ) Unit)
    (s : Generic5GState ρ) : op.Transactional hook s ↔ ¬ op.CutShort s.currentConfig := by
  obtain ⟨config, r⟩ := s
  cases config with
  | none =>
    have hnever : ¬ op.CutShort none := by cases op <;> exact id
    exact ⟨fun _ => hnever, fun _ => op.transactional_none r⟩
  | some c =>
    by_cases hdel : ∃ sliceId, op = .delSlice sliceId
    · obtain ⟨sliceId, rfl⟩ := hdel
      exact delSlice_transactional_iff sliceId c r
    · have hnever : ¬ op.CutShort (some c) := by
        cases op with
        | delSlice sliceId => exact (hdel ⟨sliceId, rfl⟩).elim
        | _ => exact id
      refine ⟨fun _ => hnever, fun _ => ?_⟩
      rcases op.exec_cases c r with ⟨e, he⟩ | ⟨-, he⟩ | ⟨-, sliceId, e, hop, -⟩
      · exact .of_refused he
      · exact .of_requested he
      · exact (hdel ⟨sliceId, hop⟩).elim

def embbProfile (sliceId : String) (dnnList : List String) : SubSliceProfiles where
  sliceId := sliceId
  sliceType := .embb
  dnnList := dnnList
  profileParams := { isolationLevel := .noIsolation, pduSessions := [] }
  locationConstraints := []
  enabledUEList := []

def campusArea (id : Int) (slices : Option (List SubSlices)) : SubArea where
  id := id
  nci := "0x0"
  idLength := 32
  upf := some { type := "oai_upf" }
  networks := { n3 := some "n3", n6 := some "n6", gnb := some "gnb" }
  slices := slices

/-- One slice with one data network, offered in the given areas. -/
def campusConfig (areas : List SubArea) : Create5gModel where
  config := {
    networkEndpoints := {
      mgt := some "mgt"
      wan := some "wan"
      dataNets := [{ netName := "dn", dnn := "internet", dns := "8.8.8.8", pools := [⟨"10.250.0.0/16"⟩] }] }
    plmn := "00101"
    sliceProfiles := some [embbProfile "000001" ["internet"]]
    subscribers := [] }
  areas := areas

/-- Area 2 was requested with `slices: null`: deleting a slice of area 1 raises half way. -/
theorem day2_transactional_fails :
    ¬ ∀ (op : Day2Op) (hook : EStateM PyError (Generic5GState Unit) Unit) (s : Generic5GState Unit),
      op.Transactional hook s := by
  intro h
  have hconfig := (h (.delSlice "000001") (pure ())
    ⟨some (campusConfig [campusArea 1 (some [⟨.embb, "000001"⟩]), campusArea 2 none]), ()⟩).raised trivial
  exact absurd hconfig (by decide +kernel)

end Nfvcl
