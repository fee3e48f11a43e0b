import Mathlib.Data.List.Basic
import Mathlib.Data.List.Count
import Mathlib.Data.List.Nodup
import Nfvcl.Day2Uniqueness

namespace Nfvcl
set_option autoImplicit true
open Effects
open Create5gModel (addSliceIn)

/-! ### What a request to add a slice asks for -/

def SubArea.withSlice (item : SubSlices) (area : SubArea) : SubArea :=
  { area with slices := some (area.slices.getD [] ++ [item]) }

namespace Core5GAddSliceModel

variable (m : Core5GAddSliceModel) (c : Create5gModel)

def ids : List String :=
  m.areaIds.getD []

def item : SubSlices :=
  ⟨m.sliceType, m.sliceId⟩

def Wildcard : Prop :=
  m.areaIds = some ["*"]

instance : Decidable m.Wildcard :=
  inferInstanceAs (Decidable (_ = _))

def NamesArea (area : SubArea) : Prop :=
  m.Wildcard ∨ area.id ∈ m.areaNumbers

instance (area : SubArea) : Decidable (m.NamesArea area) :=
  inferInstanceAs (Decidable (_ ∨ _))

/-- The id is the number of an area. -/
def Known (c : Create5gModel) (id : String) : Prop :=
  ∃ n, PyInt.parse id = .ok n ∧ ∃ area ∈ c.areas, area.id = n

def Missing : Prop :=
  ¬ m.Wildcard ∧ ∃ id ∈ m.ids, ¬ Known c id

/-- The profile and the areas named, once each. -/
def associated : Create5gModel :=
  (c.setAreas (c.areas.map (fun area => if m.NamesArea area then area.withSlice m.item else area))).setSliceProfiles
    (some (c.profiles ++ [m.toSubSliceProfiles]))

/-- The slice goes to the areas named and no other, or the request is refused for an area that does not exist. -/
def Associates (oss : Bool) : Prop :=
  (m.Missing c → ∃ msg, (Create5gModel.day2AddSliceGeneric m oss).run c = .error (.blueprintNG msg) c) ∧
    (¬ m.Missing c → (Create5gModel.day2AddSliceGeneric m oss).run c = .ok () (m.associated c))

/-- No DNN twice. -/
def Feasible : Prop :=
  ((c.profiles ++ [m.toSubSliceProfiles]).flatMap SubSliceProfiles.dnnList).Nodup

/-- The first id that is not that of an area is a number. -/
def FirstMissingIsNumber : Prop :=
  ∃ before id after n, m.ids = before ++ id :: after ∧ (∀ x ∈ before, Known c x) ∧ PyInt.parse id = .ok n ∧ ¬ Known c id

/-- The areas named have distinct ids, which are named once, and lists to append to. -/
structure Placeable : Prop where
  named_once : m.areaNumbers.Nodup
  unique : ((c.areas.filter (fun area => decide (area.id ∈ m.areaNumbers))).map SubArea.id).Nodup
  listed : ∀ area ∈ c.areas, area.id ∈ m.areaNumbers → area.slices.isSome

def Sound (oss : Bool) : Prop :=
  c.config.sliceProfiles.isSome ∧ ¬ m.Wildcard ∧ (m.Missing c → ¬ m.Feasible c ∨ m.FirstMissingIsNumber c) ∧
    (¬ m.Missing c → m.Feasible c ∧ (oss = true → m.ids ≠ []) ∧ m.Placeable c)

end Core5GAddSliceModel

namespace SliceAreas

variable {item : SubSlices} {areas : List SubArea} {numbers seen : List Int}

def SubArea.append (item : SubSlices) (n : Nat) (area : SubArea) : SubArea :=
  { area with slices := area.slices.map (fun slices => slices ++ List.replicate n item) }

/-- The areas with the item appended to the first one with each number, as often as it is listed. -/
def placed (item : SubSlices) (numbers : List Int) (seen : List Int) : List SubArea → List SubArea
  | [] => []
  | area :: areas =>
    (if area.id ∈ seen then area else SubArea.append item (numbers.count area.id) area) :: placed item numbers (area.id :: seen) areas

theorem append_zero (area : SubArea) : SubArea.append item 0 area = area := by
  obtain ⟨id, nci, idLength, core, upf, networks, slices⟩ := area
  cases slices with
  | none => rfl
  | some slices => simp [SubArea.append]

theorem append_succ (n : Nat) (area : SubArea) :
    { SubArea.append item n area with slices := (SubArea.append item n area).slices.map (fun slices => slices ++ [item]) } =
      SubArea.append item (n + 1) area := by
  obtain ⟨id, nci, idLength, core, upf, networks, slices⟩ := area
  cases slices with
  | none => rfl
  | some slices => simp [SubArea.append, List.replicate_succ']

theorem placed_nil (seen : List Int) (areas : List SubArea) : placed item [] seen areas = areas := by
  induction areas generalizing seen with
  | nil => rfl
  | cons area areas ih =>
    rw [placed, ih, List.count_nil, append_zero]
    split
    · rfl
    · rfl

theorem placed_congr {numbers' : List Int} (h : ∀ n, n ∉ seen → numbers'.count n = numbers.count n) :
    placed item numbers' seen areas = placed item numbers seen areas := by
  induction areas generalizing seen with
  | nil => rfl
  | cons area areas ih =>
    rw [placed, placed, ih fun n hn => h n fun hmem => hn (List.mem_cons_of_mem _ hmem)]
    by_cases hseen : area.id ∈ seen
    · rw [if_pos hseen, if_pos hseen]
    · rw [if_neg hseen, if_neg hseen, h area.id hseen]

theorem addSliceIn_placed (hn : n ∉ seen) : addSliceIn item n (placed item numbers seen areas) = placed item (numbers ++ [n]) seen areas := by
  induction areas generalizing seen with
  | nil => rfl
  | cons area areas ih =>
    have hid : (if area.id ∈ seen then area else SubArea.append item (numbers.count area.id) area).id = area.id := by
      split
      · rfl
      · rfl
    rw [placed, placed, addSliceIn, hid]
    by_cases heq : area.id = n
    · have hseen : area.id ∉ seen := heq ▸ hn
      have hrest : placed item (numbers ++ [n]) (area.id :: seen) areas = placed item numbers (area.id :: seen) areas := by
        refine placed_congr fun k hk => ?_
        have hne : n ≠ k := fun he => hk (heq ▸ he ▸ List.mem_cons_self)
        rw [List.count_append, List.count_singleton, if_neg (by simpa using hne), Nat.add_zero]
      have hcount : (numbers ++ [n]).count area.id = numbers.count area.id + 1 := by
        rw [heq, List.count_append, List.count_singleton_self]
      rw [if_pos heq, if_neg hseen, if_neg hseen, hrest, hcount]
      exact congrArg (· :: _) (append_succ _ area)
    · have hcount : (numbers ++ [n]).count area.id = numbers.count area.id := by
        rw [List.count_append, List.count_singleton, if_neg (by simpa using fun he => heq he.symm), Nat.add_zero]
      rw [if_neg heq, hcount, ih]
      rw [List.mem_cons]
      rintro (he | hmem)
      · exact heq he.symm
      · exact hn hmem

theorem foldl_addSliceIn (item : SubSlices) (numbers : List Int) (areas : List SubArea) :
    numbers.foldl (fun areas id => addSliceIn item id areas) areas = placed item numbers [] areas := by
  have hfrom : ∀ done : List Int, numbers.foldl (fun areas id => addSliceIn item id areas) (placed item done [] areas) =
      placed item (done ++ numbers) [] areas := by
    induction numbers with
    | nil =>
      intro done
      rw [List.foldl_nil, List.append_nil]
    | cons n numbers ih =>
      intro done
      rw [List.foldl_cons, addSliceIn_placed List.not_mem_nil, ih, List.append_assoc]
      rfl
  have hall := hfrom []
  rw [placed_nil, List.nil_append] at hall
  exact hall

theorem append_length {area : SubArea} (hsome : area.slices.isSome) (n : Nat) :
    ((SubArea.append item n area).slices.getD []).length = (area.slices.getD []).length + n := by
  obtain ⟨slices, hslices⟩ := Option.isSome_iff_exists.1 hsome
  simp [SubArea.append, hslices]

theorem withSlice_length (area : SubArea) : ((area.withSlice item).slices.getD []).length = (area.slices.getD []).length + 1 := by
  simp [SubArea.withSlice]

theorem append_one {area : SubArea} (hsome : area.slices.isSome) : SubArea.append item 1 area = area.withSlice item := by
  obtain ⟨slices, hslices⟩ := Option.isSome_iff_exists.1 hsome
  unfold SubArea.append SubArea.withSlice
  rw [hslices]
  rfl

theorem listed_of_placed (h : placed item numbers seen areas = areas.map (fun area => if area.id ∈ numbers then area.withSlice item else area)) :
    ∀ area ∈ areas, area.id ∈ numbers → area.slices.isSome := by
  induction areas generalizing seen with
  | nil =>
    intro area harea
    cases harea
  | cons first areas ih =>
    rw [placed, List.map_cons, List.cons.injEq] at h
    intro area harea hnum
    rcases List.mem_cons.1 harea with rfl | harea
    · have hslices := congrArg (fun area : SubArea => area.slices.isSome) h.1
      rw [if_pos hnum] at hslices
      split at hslices
      · exact hslices
      · simpa [SubArea.append, SubArea.withSlice] using hslices
    · exact ih h.2 area harea hnum

/-- When the loop does what was asked for. -/
theorem placed_eq_map_iff (hlisted : ∀ area ∈ areas, area.id ∈ numbers → area.id ∉ seen → area.slices.isSome) :
    placed item numbers seen areas = areas.map (fun area => if area.id ∈ numbers then area.withSlice item else area) ↔
      (∀ area ∈ areas, area.id ∈ numbers → area.id ∉ seen ∧ numbers.count area.id = 1) ∧
        ((areas.filter (fun area => decide (area.id ∈ numbers))).map SubArea.id).Nodup := by
  induction areas generalizing seen with
  | nil => exact ⟨fun _ => ⟨fun area harea => absurd harea List.not_mem_nil, List.nodup_nil⟩, fun _ => rfl⟩
  | cons area areas ih =>
    have hhead : (if area.id ∈ seen then area else SubArea.append item (numbers.count area.id) area) =
        (if area.id ∈ numbers then area.withSlice item else area) ↔ (area.id ∈ numbers → area.id ∉ seen ∧ numbers.count area.id = 1) := by
      by_cases hnum : area.id ∈ numbers
      · rw [if_pos hnum]
        by_cases hseen : area.id ∈ seen
        · rw [if_pos hseen]
          constructor
          · intro heq
            have hlength := congrArg (fun area : SubArea => (area.slices.getD []).length) heq
            simp only [withSlice_length] at hlength
            omega
          · exact fun h => absurd hseen (h hnum).1
        · have hsome := hlisted area List.mem_cons_self hnum hseen
          rw [if_neg hseen]
          constructor
          · intro heq _
            have hlength := congrArg (fun area : SubArea => (area.slices.getD []).length) heq
            simp only [withSlice_length, append_length hsome] at hlength
            exact ⟨hseen, by omega⟩
          · intro h
            rw [(h hnum).2, append_one hsome]
      · rw [if_neg hnum, List.count_eq_zero_of_not_mem hnum, append_zero]
        exact ⟨fun _ hbad => absurd hbad hnum, fun _ => by split <;> rfl⟩
    rw [placed, List.map_cons, List.cons.injEq, hhead, ih fun area' harea' hnum hseen =>
      hlisted area' (List.mem_cons_of_mem _ harea') hnum fun hmem => hseen (List.mem_cons_of_mem _ hmem)]
    rw [List.forall_mem_cons]
    by_cases hnum : area.id ∈ numbers
    · rw [List.filter_cons_of_pos (by simp [hnum]), List.map_cons, List.nodup_cons]
      constructor
      · rintro ⟨hfirst, hrest, hnodup⟩
        refine ⟨⟨hfirst, fun a ha hn => ⟨fun hmem => (hrest a ha hn).1 (List.mem_cons_of_mem _ hmem), (hrest a ha hn).2⟩⟩, ?_, hnodup⟩
        intro hmem
        obtain ⟨a, ha, hid⟩ := List.mem_map.1 hmem
        obtain ⟨ha, hn⟩ := List.mem_filter.1 ha
        exact (hrest a ha (of_decide_eq_true hn)).1 (hid ▸ List.mem_cons_self)
      · rintro ⟨⟨hfirst, hrest⟩, hnot, hnodup⟩
        refine ⟨hfirst, fun a ha hn => ⟨?_, (hrest a ha hn).2⟩, hnodup⟩
        rw [List.mem_cons]
        rintro (heq | hmem)
        · exact hnot (List.mem_map.2 ⟨a, List.mem_filter.2 ⟨ha, decide_eq_true hn⟩, heq⟩)
        · exact (hrest a ha hn).1 hmem
    · rw [List.filter_cons_of_neg (by simp [hnum])]
      constructor
      · rintro ⟨hfirst, hrest, hnodup⟩
        exact ⟨⟨hfirst, fun a ha hn => ⟨fun hmem => (hrest a ha hn).1 (List.mem_cons_of_mem _ hmem), (hrest a ha hn).2⟩⟩, hnodup⟩
      · rintro ⟨⟨hfirst, hrest⟩, hnodup⟩
        refine ⟨hfirst, fun a ha hn => ⟨?_, (hrest a ha hn).2⟩, hnodup⟩
        rw [List.mem_cons]
        rintro (heq | hmem)
        · exact hnum (heq ▸ hn)
        · exact (hrest a ha hn).1 hmem

end SliceAreas

namespace Core5GAddSliceModel
open Create5gModel SliceAreas

variable {m : Core5GAddSliceModel} {c : Create5gModel} {oss : Bool} {id : String}

/-! ### The checks -/

theorem checkAreaId_known (h : Known c id) : c.checkAreaId id = .ok () := by
  obtain ⟨n, hn, area, harea, hid⟩ := h
  have hsome : (c.getArea n).isSome := List.find?_isSome.2 ⟨area, harea, decide_eq_true hid⟩
  unfold checkAreaId
  rw [hn]
  show (if (c.getArea n).isNone = true then _ else _) = _
  rw [if_neg (by rw [Option.isNone_iff_eq_none]; exact Option.isSome_iff_ne_none.1 hsome)]
  rfl

theorem checkAreaId_unknown (h : ¬ Known c id) (hn : PyInt.parse id = .ok n) :
    c.checkAreaId id = .error (.blueprintNG s!"Unable to add slice: area '{id}' does not exist") := by
  have hnone : c.getArea n = none := by
    refine List.find?_eq_none.2 fun area harea hid => h ⟨n, hn, area, harea, of_decide_eq_true hid⟩
  unfold checkAreaId
  rw [hn]
  show (if (c.getArea n).isNone = true then _ else _) = _
  rw [if_pos (by rw [hnone]; rfl)]
  rfl

theorem checkAreaId_noNumber (hn : PyInt.parse id = .error e) : c.checkAreaId id = .error e := by
  unfold checkAreaId
  rw [hn]
  rfl

/-- The ids are checked one after the other. -/
theorem forM_checkAreaId_first {before after : List String} (hbefore : ∀ x ∈ before, Known c x) (hid : c.checkAreaId id = .error e) :
    (before ++ id :: after).forM c.checkAreaId = .error e := by
  induction before with
  | nil =>
    show (c.checkAreaId id >>= fun _ => _) = _
    rw [hid]
    rfl
  | cons x before ih =>
    show (c.checkAreaId x >>= fun _ => (before ++ id :: after).forM c.checkAreaId) = _
    rw [checkAreaId_known (hbefore x List.mem_cons_self), ih fun y hy => hbefore y (List.mem_cons_of_mem _ hy)]
    rfl

theorem forM_checkAreaId_known {ids : List String} (h : ∀ x ∈ ids, Known c x) : ids.forM c.checkAreaId = .ok () := by
  induction ids with
  | nil => rfl
  | cons x ids ih =>
    show (c.checkAreaId x >>= fun _ => ids.forM c.checkAreaId) = _
    rw [checkAreaId_known (h x List.mem_cons_self), ih fun y hy => h y (List.mem_cons_of_mem _ hy)]
    rfl

theorem exists_first {P : α → Prop} {xs : List α} (h : ∃ x ∈ xs, ¬ P x) :
    ∃ before x after, xs = before ++ x :: after ∧ (∀ y ∈ before, P y) ∧ ¬ P x := by
  induction xs with
  | nil =>
    obtain ⟨x, hx, -⟩ := h
    cases hx
  | cons x xs ih =>
    by_cases hx : P x
    · have hrest : ∃ x ∈ xs, ¬ P x := by
        obtain ⟨y, hy, hnot⟩ := h
        rcases List.mem_cons.1 hy with rfl | hy
        · exact absurd hx hnot
        · exact ⟨y, hy, hnot⟩
      obtain ⟨before, y, after, hxs, hbefore, hnot⟩ := ih hrest
      refine ⟨x :: before, y, after, by rw [hxs]; rfl, ?_, hnot⟩
      intro z hz
      rcases List.mem_cons.1 hz with rfl | hz
      · exact hx
      · exact hbefore z hz
    · exact ⟨[], x, xs, rfl, fun y hy => absurd hy List.not_mem_nil, hx⟩

theorem checkAddSlice_none (m : Core5GAddSliceModel) (oss : Bool) (hnone : c.config.sliceProfiles = none) : ∃ msg, checkAddSlice m oss c = .error (.attributeError msg) := by
  unfold checkAddSlice
  rw [hnone]
  exact ⟨_, rfl⟩

theorem feasible_ok {profiles : List SubSliceProfiles} (hsome : c.config.sliceProfiles = some profiles) (h : m.Feasible c) :
    (c.setSliceProfiles (some (profiles ++ [m.toSubSliceProfiles]))).configurationFeasibilityCheck = .ok () := by
  have hprofiles : c.profiles = profiles := by
    rw [Create5gModel.profiles, hsome]
    rfl
  have hnodup : ((profiles ++ [m.toSubSliceProfiles]).flatMap SubSliceProfiles.dnnList).Nodup := hprofiles ▸ h
  show (if _ < _ then _ else _) = _
  rw [hnodup.dedup, if_neg (Nat.lt_irrefl _)]
  rfl

theorem not_feasible_raises {profiles : List SubSliceProfiles} (hsome : c.config.sliceProfiles = some profiles) (h : ¬ m.Feasible c) :
    (c.setSliceProfiles (some (profiles ++ [m.toSubSliceProfiles]))).configurationFeasibilityCheck =
      .error (.blueprintNG "Cannot have multiple slices with the same DNN") := by
  have hprofiles : c.profiles = profiles := by
    rw [Create5gModel.profiles, hsome]
    rfl
  have hlt : ((profiles ++ [m.toSubSliceProfiles]).flatMap SubSliceProfiles.dnnList).dedup.length <
      ((profiles ++ [m.toSubSliceProfiles]).flatMap SubSliceProfiles.dnnList).length := by
    by_contra hle
    refine h ?_
    unfold Feasible
    rw [hprofiles]
    exact nodup_of_dedup_length hle
  show (if _ < _ then _ else _) = _
  rw [if_pos hlt]
  rfl

theorem checkAddSlice_not_feasible (oss : Bool) (hsome : c.config.sliceProfiles.isSome) (h : ¬ m.Feasible c) :
    ∃ msg, checkAddSlice m oss c = .error (.blueprintNG msg) := by
  obtain ⟨profiles, hprofiles⟩ := Option.isSome_iff_exists.1 hsome
  refine ⟨"Cannot have multiple slices with the same DNN", ?_⟩
  unfold checkAddSlice
  rw [hprofiles]
  show (Create5gModel.configurationFeasibilityCheck _ >>= fun _ => _) = _
  rw [not_feasible_raises hprofiles h]
  rfl

/-- The checks after the one for the DNNs. -/
theorem checkAddSlice_feasible (hsome : c.config.sliceProfiles.isSome) (h : m.Feasible c)
    (hfresh : ∀ profile ∈ c.profiles, profile.sliceId ≠ m.sliceId) : checkAddSlice m oss c =
      if oss ∧ m.ids = [] then .error (.blueprintNG "In OSS mode 'area_ids' need to be specified") else m.ids.forM c.checkAreaId := by
  obtain ⟨profiles, hprofiles⟩ := Option.isSome_iff_exists.1 hsome
  have hany : profiles.any (fun subSlice => decide (subSlice.sliceId = m.sliceId)) = false := by
    rw [List.any_eq_false]
    intro profile hprofile hid
    refine hfresh profile ?_ (of_decide_eq_true hid)
    rw [Create5gModel.profiles, hprofiles]
    exact hprofile
  unfold checkAddSlice
  rw [hprofiles]
  show (Create5gModel.configurationFeasibilityCheck _ >>= fun _ => _) = _
  rw [feasible_ok hprofiles h]
  show (if profiles.any _ = true then _ else _) = _
  rw [hany, if_neg Bool.false_ne_true]
  show (if oss = true ∧ m.ids = [] then _ else _) = _
  split
  · rfl
  · rfl

/-! ### The loop over the areas -/

theorem run_of_check_error (h : checkAddSlice m oss c = .error e) : (day2AddSliceGeneric m oss).run c = .error e c := by
  unfold day2AddSliceGeneric
  refine run_bind_error _ _ ?_
  rw [checking_run, h]

theorem appendSliceTo_run (hn : PyInt.parse id = .ok n) (hsome : (c.getArea n).isSome)
    (hlisted : ∀ area, c.getArea n = some area → area.slices ≠ none) (item : SubSlices) :
    (appendSliceTo item id).run c = .ok () (c.setAreas (addSliceIn item n c.areas)) := by
  obtain ⟨area, harea⟩ := Option.isSome_iff_exists.1 hsome
  obtain ⟨slices, hslices⟩ := Option.ne_none_iff_exists'.1 (hlisted area harea)
  unfold appendSliceTo
  rw [hn]
  unfold appendSlice
  simp only [EStateM.run_bind, EStateM.run_get, harea, hslices]
  rfl

theorem getArea_setAreas (item : SubSlices) (n k : Int) (c : Create5gModel) : (c.setAreas (addSliceIn item n c.areas)).getArea k =
    (c.getArea k).map (fun area => if area.id = n then { area with slices := area.slices.map (fun slices => slices ++ [item]) } else area) :=
  getArea_addSliceIn item n k c.areas

theorem forM_appendSliceTo_run (item : SubSlices) {ids : List String} (hknown : ∀ id ∈ ids, Known c id)
    (hlisted : ∀ id ∈ ids, ∀ n, PyInt.parse id = .ok n → ∀ area, c.getArea n = some area → area.slices ≠ none) :
    (forM ids (appendSliceTo item)).run c = .ok () (c.setAreas
      ((ids.filterMap (fun id => (PyInt.parse id).toOption)).foldl (fun areas id => addSliceIn item id areas) c.areas)) := by
  induction ids generalizing c with
  | nil => rfl
  | cons id ids ih =>
    obtain ⟨n, hn, area, harea, hid⟩ := hknown id List.mem_cons_self
    have hsome : (c.getArea n).isSome := List.find?_isSome.2 ⟨area, harea, decide_eq_true hid⟩
    rw [List.forM_cons, run_bind_ok _ _ (appendSliceTo_run hn hsome (hlisted id List.mem_cons_self n hn) item),
      List.filterMap_cons_some (by rw [hn]; rfl), List.foldl_cons, ih]
    · rfl
    · intro x hx
      obtain ⟨k, hk, a, ha, hak⟩ := hknown x (List.mem_cons_of_mem _ hx)
      have hfound : (c.getArea k).isSome := List.find?_isSome.2 ⟨a, ha, decide_eq_true hak⟩
      obtain ⟨b, hb⟩ := Option.isSome_iff_exists.1 hfound
      have hadded := getArea_setAreas item n k c
      rw [hb, Option.map_some] at hadded
      refine ⟨k, hk, _, List.mem_of_find?_eq_some hadded, ?_⟩
      have htest := List.find?_some hadded
      exact of_decide_eq_true htest
    · intro x hx k hk a ha hnone
      rw [getArea_setAreas] at ha
      obtain ⟨b, hb, rfl⟩ := Option.map_eq_some_iff.1 ha
      have hne := hlisted x (List.mem_cons_of_mem _ hx) k hk b hb
      split at hnone
      · exact hne (Option.map_eq_none_iff.1 hnone)
      · exact hne hnone

theorem day2AddSliceGeneric_run (hcheck : checkAddSlice m oss c = .ok ()) (hknown : ∀ id ∈ m.ids, Known c id) (hlisted : m.AreasListSlices c) :
    (day2AddSliceGeneric m oss).run c = .ok () (m.addTo c) := by
  unfold day2AddSliceGeneric
  have hchecked : (checking (checkAddSlice m oss)).run c = .ok () c := by
    rw [checking_run, hcheck]
  have hloop : (forM (m.areaIds.getD []) (appendSliceTo ⟨m.sliceType, m.sliceId⟩)).run c = .ok () _ :=
    forM_appendSliceTo_run m.item hknown hlisted
  rw [run_bind_ok _ _ hchecked, run_bind_ok _ _ hloop]
  rfl

theorem parse_error (h : PyInt.parse id = .error e) : ∃ msg, e = .valueError msg := by
  simp only [PyInt.parse] at h
  split at h
  · cases h
  · injection h with h
    exact ⟨_, h.symm⟩

theorem checkAddSlice_ok_inv (hfresh : ∀ profile ∈ c.profiles, profile.sliceId ≠ m.sliceId) (h : checkAddSlice m oss c = .ok ()) :
    c.config.sliceProfiles.isSome ∧ m.Feasible c ∧ (oss = true → m.ids ≠ []) ∧ ∀ id ∈ m.ids, Known c id := by
  have hsome : c.config.sliceProfiles.isSome := by
    rw [Option.isSome_iff_ne_none]
    intro hnone
    obtain ⟨msg, hraised⟩ := checkAddSlice_none m oss hnone
    rw [h] at hraised
    cases hraised
  have hfeasible : m.Feasible c := by
    by_contra hnot
    obtain ⟨msg, hraised⟩ := checkAddSlice_not_feasible oss hsome hnot
    rw [h] at hraised
    cases hraised
  rw [checkAddSlice_feasible hsome hfeasible hfresh] at h
  split at h
  · cases h
  · rename_i hids
    refine ⟨hsome, hfeasible, fun hoss hnil => hids ⟨hoss, hnil⟩, ?_⟩
    by_contra hunknown
    push Not at hunknown
    obtain ⟨before, id, after, hsplit, hbefore, hid⟩ := exists_first hunknown
    rw [hsplit] at h
    cases hn : PyInt.parse id with
    | ok n =>
      rw [forM_checkAreaId_first hbefore (checkAreaId_unknown hid hn)] at h
      cases h
    | error e =>
      rw [forM_checkAreaId_first hbefore (checkAreaId_noNumber hn)] at h
      cases h

theorem not_missing (h : ∀ id ∈ m.ids, Known c id) : ¬ m.Missing c := by
  rintro ⟨-, id, hid, hnot⟩
  exact hnot (h id hid)

theorem known_of_not_missing (hwild : ¬ m.Wildcard) (h : ¬ m.Missing c) : ∀ id ∈ m.ids, Known c id := by
  intro id hid
  by_contra hnot
  exact h ⟨hwild, id, hid, hnot⟩

theorem associated_areas (hwild : ¬ m.Wildcard) :
    (m.associated c).areas = c.areas.map (fun area => if area.id ∈ m.areaNumbers then area.withSlice m.item else area) := by
  refine List.map_congr_left fun area _ => ?_
  have hiff : m.NamesArea area ↔ area.id ∈ m.areaNumbers := ⟨fun h => h.resolve_left hwild, .inr⟩
  by_cases hnum : area.id ∈ m.areaNumbers
  · rw [if_pos hnum, if_pos (hiff.2 hnum)]
  · rw [if_neg hnum, if_neg fun h => hnum (hiff.1 h)]

theorem addTo_areas : (m.addTo c).areas = placed m.item m.areaNumbers [] c.areas :=
  foldl_addSliceIn _ _ _

theorem mem_areaNumbers (hknown : ∀ id ∈ m.ids, Known c id) (hn : n ∈ m.areaNumbers) : ∃ area ∈ c.areas, area.id = n := by
  obtain ⟨id, hid, hparse⟩ := List.mem_filterMap.1 hn
  obtain ⟨k, hk, area, harea, heq⟩ := hknown id hid
  rw [hk] at hparse
  exact ⟨area, harea, heq.trans (Option.some.inj hparse)⟩

theorem placeable_iff (hwild : ¬ m.Wildcard) (hknown : ∀ id ∈ m.ids, Known c id) :
    (m.addTo c).areas = (m.associated c).areas ↔ m.Placeable c := by
  rw [addTo_areas, associated_areas hwild]
  constructor
  · intro heq
    have hlisted := listed_of_placed heq
    obtain ⟨hcount, hunique⟩ := (placed_eq_map_iff fun area harea hnum _ => hlisted area harea hnum).1 heq
    refine ⟨?_, hunique, hlisted⟩
    rw [List.nodup_iff_count_eq_one]
    intro n hn
    obtain ⟨area, harea, rfl⟩ := mem_areaNumbers hknown hn
    exact (hcount area harea hn).2
  · intro h
    refine (placed_eq_map_iff fun area harea hnum _ => h.listed area harea hnum).2 ⟨?_, h.unique⟩
    intro area harea hnum
    exact ⟨List.not_mem_nil, List.count_eq_one_of_mem h.named_once hnum⟩

theorem addTo_profiles (hsome : c.config.sliceProfiles.isSome) :
    c.config.sliceProfiles.map (fun profiles => profiles ++ [m.toSubSliceProfiles]) = some (c.profiles ++ [m.toSubSliceProfiles]) := by
  obtain ⟨profiles, hprofiles⟩ := Option.isSome_iff_exists.1 hsome
  rw [Create5gModel.profiles, hprofiles]
  rfl

theorem addTo_eq_associated (hsome : c.config.sliceProfiles.isSome) (h : (m.addTo c).areas = (m.associated c).areas) :
    m.addTo c = m.associated c := by
  have hareas : (m.areaNumbers.foldl (fun areas id => addSliceIn m.item id areas) c.areas) = _ := h
  show (c.setAreas (m.areaNumbers.foldl (fun areas id => addSliceIn m.item id areas) c.areas)).setSliceProfiles _ = _
  rw [hareas, addTo_profiles hsome]
  rfl

theorem areasListSlices (h : m.Placeable c) : m.AreasListSlices c := by
  intro id hid n hn area harea hnone
  have hnum : area.id ∈ m.areaNumbers := by
    refine List.mem_filterMap.2 ⟨id, hid, ?_⟩
    have htest := List.find?_some harea
    rw [hn, of_decide_eq_true htest]
    rfl
  have hsome := h.listed area (List.mem_of_find?_eq_some harea) hnum
  rw [hnone] at hsome
  cases hsome

/-! ### When the slice goes where it was asked for -/

theorem run_first_missing {before after : List String} (hsome : c.config.sliceProfiles.isSome)
    (hfresh : ∀ profile ∈ c.profiles, profile.sliceId ≠ m.sliceId) (hfeasible : m.Feasible c) (hsplit : m.ids = before ++ id :: after)
    (hbefore : ∀ x ∈ before, Known c x) (hid : c.checkAreaId id = .error e) (oss : Bool) :
    (day2AddSliceGeneric m oss).run c = .error e c := by
  refine run_of_check_error ?_
  rw [checkAddSlice_feasible hsome hfeasible hfresh, if_neg, hsplit, forM_checkAreaId_first hbefore hid]
  rintro ⟨-, hnil⟩
  rw [hsplit] at hnil
  exact List.append_ne_nil_of_right_ne_nil _ (List.cons_ne_nil _ _) hnil

theorem sound_of_associates (hfresh : ∀ profile ∈ c.profiles, profile.sliceId ≠ m.sliceId) (h : m.Associates c oss) : m.Sound c oss := by
  obtain ⟨hrefused, hadded⟩ := h
  have hinv : ¬ m.Missing c → (checkAddSlice m oss c = .ok () ∧ m.AreasListSlices c) ∧ m.associated c = m.addTo c :=
    fun hmissing => day2AddSliceGeneric_ok (hadded hmissing)
  have hsome : c.config.sliceProfiles.isSome := by
    rw [Option.isSome_iff_ne_none]
    intro hnone
    obtain ⟨msg, hraised⟩ := checkAddSlice_none m oss hnone
    by_cases hmissing : m.Missing c
    · obtain ⟨text, hrun⟩ := hrefused hmissing
      rw [run_of_check_error hraised] at hrun
      cases hrun
    · rw [(hinv hmissing).1.1] at hraised
      cases hraised
  have hwild : ¬ m.Wildcard := by
    intro hwild
    have hmissing : ¬ m.Missing c := fun hmissing => hmissing.1 hwild
    obtain ⟨-, -, -, hknown⟩ := checkAddSlice_ok_inv hfresh (hinv hmissing).1.1
    obtain ⟨n, hn, -⟩ := hknown "*" (by rw [ids, hwild]; exact List.mem_cons_self)
    have hstar : (PyInt.parse "*").toOption = none := by decide
    rw [hn] at hstar
    cases hstar
  refine ⟨hsome, hwild, ?_, ?_⟩
  · intro hmissing
    by_cases hfeasible : m.Feasible c
    · right
      obtain ⟨before, id, after, hsplit, hbefore, hid⟩ := exists_first hmissing.2
      cases hn : PyInt.parse id with
      | ok n => exact ⟨before, id, after, n, hsplit, hbefore, hn, hid⟩
      | error e =>
        obtain ⟨text, htext⟩ := hrefused hmissing
        obtain ⟨msg, rfl⟩ := parse_error hn
        rw [run_first_missing hsome hfresh hfeasible hsplit hbefore (checkAreaId_noNumber hn)] at htext
        cases htext
    · exact .inl hfeasible
  · intro hmissing
    obtain ⟨⟨hcheck, -⟩, heq⟩ := hinv hmissing
    obtain ⟨-, hfeasible, hoss, hknown⟩ := checkAddSlice_ok_inv hfresh hcheck
    exact ⟨hfeasible, hoss, (placeable_iff hwild hknown).1 (congrArg Create5gModel.areas heq.symm)⟩

theorem associates_of_sound (hfresh : ∀ profile ∈ c.profiles, profile.sliceId ≠ m.sliceId) (h : m.Sound c oss) : m.Associates c oss := by
  obtain ⟨hsome, hwild, hrefused, hadded⟩ := h
  constructor
  · intro hmissing
    by_cases hfeasible : m.Feasible c
    · obtain ⟨before, id, after, n, hsplit, hbefore, hn, hid⟩ := (hrefused hmissing).resolve_left (absurd hfeasible)
      exact ⟨_, run_first_missing hsome hfresh hfeasible hsplit hbefore (checkAreaId_unknown hid hn) oss⟩
    · obtain ⟨msg, hraised⟩ := checkAddSlice_not_feasible oss hsome hfeasible
      exact ⟨msg, run_of_check_error hraised⟩
  · intro hmissing
    obtain ⟨hfeasible, hoss, hplaceable⟩ := hadded hmissing
    have hknown := known_of_not_missing hwild hmissing
    have hcheck : checkAddSlice m oss c = .ok () := by
      rw [checkAddSlice_feasible hsome hfeasible hfresh, if_neg fun hnil => hoss hnil.1 hnil.2, forM_checkAreaId_known hknown]
    rw [day2AddSliceGeneric_run hcheck hknown (areasListSlices hplaceable),
      addTo_eq_associated hsome ((placeable_iff hwild hknown).2 hplaceable)]

theorem associates_iff_sound (m : Core5GAddSliceModel) (c : Create5gModel) (oss : Bool)
    (hfresh : ∀ profile ∈ c.profiles, profile.sliceId ≠ m.sliceId) : m.Associates c oss ↔ m.Sound c oss :=
  ⟨sound_of_associates hfresh, associates_of_sound hfresh⟩

/-- A slice for the given areas of the campus. -/
def imsSlice (areaIds : List String) : Core5GAddSliceModel :=
  { embbProfile "000002" ["ims"] with areaIds := some areaIds }

theorem associates_campus :
    (imsSlice ["2"]).Associates (campusConfig [campusArea 1 (some []), campusArea 2 (some [])]) true := by
  refine (associates_iff_sound _ _ true (by decide)).2 ⟨rfl, by decide, ?_, ?_⟩
  · intro hmissing
    refine absurd hmissing (not_missing fun id hid => ?_)
    obtain rfl := List.mem_singleton.1 hid
    exact ⟨2, rfl, campusArea 2 (some []), List.mem_cons_of_mem _ List.mem_cons_self, rfl⟩
  · intro _
    exact ⟨by unfold Feasible; decide, by decide, by decide, by decide, by decide⟩

/-- `int("*")` raises. -/
theorem associates_fails :
    ¬ ∀ (m : Core5GAddSliceModel) (c : Create5gModel) (oss : Bool), (∀ profile ∈ c.profiles, profile.sliceId ≠ m.sliceId) →
      (∀ profile ∈ c.profiles, ∀ dnn ∈ m.dnnList, dnn ∉ profile.dnnList) → m.Associates c oss := by
  intro h
  have hwild : (imsSlice ["*"]).Wildcard := rfl
  have hsound := sound_of_associates (by decide) (h (imsSlice ["*"]) (campusConfig [campusArea 1 (some [])]) true (by decide) (by decide))
  exact hsound.2.1 hwild

end Core5GAddSliceModel

end Nfvcl
