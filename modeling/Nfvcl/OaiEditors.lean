import Nfvcl.GroupedLists
import Nfvcl.OaiCore
import Nfvcl.UpfConfigured

namespace Nfvcl.OaiUtils
set_option autoImplicit true
open ListUpdates GroupedLists

/-! ### The lists with lists in them -/

def plmnGrouping : Grouping PlmnSupportListItem (String × String × Int) Snssai where
  key item := (item.mcc, item.mnc, item.tac)
  values item := item.nssai
  withValues item nssai := { item with nssai }
  key_withValues _ _ := rfl
  values_withValues _ _ := rfl
  withValues_withValues _ _ _ := rfl

/-- Items are told apart by their `sd` alone. -/
def smfGrouping : Grouping SNssaiSmfInfoListItem String String where
  key item := item.sNssai.sd
  values item := item.dnnSmfInfoList
  withValues item dnnSmfInfoList := { item with dnnSmfInfoList }
  key_withValues _ _ := rfl
  values_withValues _ _ := rfl
  withValues_withValues _ _ _ := rfl

def upfGrouping : Grouping SNssaiUpfInfoListItem String String where
  key item := item.sNssai.sd
  values item := item.dnnUpfInfoList
  withValues item dnnUpfInfoList := { item with dnnUpfInfoList }
  key_withValues _ _ := rfl
  values_withValues _ _ := rfl
  withValues_withValues _ _ _ := rfl

section Editors

variable (mcc mnc : String) (areaId : Int) (values : OaiCoreValues)

def createPlmnList : OaiCoreValues :=
  { values with plmnSupportList := create plmnGrouping ⟨mcc, mnc, areaId, []⟩ values.plmnSupportList }

def destroyPlmnList : OaiCoreValues × Bool :=
  let (plmnSupportList, removed) := destroy plmnGrouping (mcc, mnc, areaId) values.plmnSupportList
  ({ values with plmnSupportList }, removed)

/-- `add_plmn_item`, which creates the item and calls itself when there is none. -/
def addPlmnItemLoop (depth : Nat) (nssai : Snssai) : Option (OaiCoreValues × Bool) :=
  (add plmnGrouping ⟨mcc, mnc, areaId, []⟩ nssai depth values.plmnSupportList).map (fun r => ({ values with plmnSupportList := r.1 }, r.2))

def delPlmnItem (nssai : Snssai) : OaiCoreValues × Bool :=
  let (plmnSupportList, removed) := remove plmnGrouping (mcc, mnc, areaId) nssai values.plmnSupportList
  ({ values with plmnSupportList }, removed)

def createSnssaiSmfInfoList (nssai : Snssai) : OaiCoreValues :=
  { values with sNssaiSmfInfoList := create smfGrouping ⟨nssai, []⟩ values.sNssaiSmfInfoList }

def destroySnssaiSmfInfoListItem (sliceId : String) : OaiCoreValues × Bool :=
  let (sNssaiSmfInfoList, removed) := destroy smfGrouping sliceId values.sNssaiSmfInfoList
  ({ values with sNssaiSmfInfoList }, removed)

/-- `add_dnn_snssai_smf_info_list_item`. -/
def addDnnSnssaiSmfLoop (depth : Nat) (nssai : Snssai) (dnn : String) : Option (OaiCoreValues × Bool) :=
  (add smfGrouping ⟨nssai, []⟩ dnn depth values.sNssaiSmfInfoList).map (fun r => ({ values with sNssaiSmfInfoList := r.1 }, r.2))

end Editors

/-! ### Runs of the editors -/

inductive Edit where
  | addPlmnItem (mcc mnc : String) (areaId : Int) (nssai : Snssai)
  | delPlmnItem (mcc mnc : String) (areaId : Int) (nssai : Snssai)
  | destroyPlmnList (mcc mnc : String) (areaId : Int)
  | addDnnSnssaiSmf (nssai : Snssai) (dnn : String)
  | destroySnssaiSmf (sliceId : String)

/-- The edit on the values, and what it returns: `None` counts as false. -/
def Edit.exec (depth : Nat) (values : OaiCoreValues) : Edit → Option (OaiCoreValues × Bool)
  | .addPlmnItem mcc mnc areaId nssai => addPlmnItemLoop mcc mnc areaId values depth nssai
  | .delPlmnItem mcc mnc areaId nssai => some (OaiUtils.delPlmnItem mcc mnc areaId values nssai)
  | .destroyPlmnList mcc mnc areaId => some (OaiUtils.destroyPlmnList mcc mnc areaId values)
  | .addDnnSnssaiSmf nssai dnn => addDnnSnssaiSmfLoop values depth nssai dnn
  | .destroySnssaiSmf sliceId => some (destroySnssaiSmfInfoListItem values sliceId)

/-- What the core offers: the slices of each PLMN in each area, and the DNNs of each slice. -/
structure Offer where
  plmns : Set ((String × String × Int) × Snssai)
  dnns : Set (String × String)

def offerOf (values : OaiCoreValues) : Offer where
  plmns := content plmnGrouping values.plmnSupportList
  dnns := content smfGrouping values.sNssaiSmfInfoList

namespace Edit

def effect : Edit → Offer → Offer
  | .addPlmnItem mcc mnc areaId nssai, offer => { offer with plmns := insert ((mcc, mnc, areaId), nssai) offer.plmns }
  | .delPlmnItem mcc mnc areaId nssai, offer => { offer with plmns := offer.plmns \ {((mcc, mnc, areaId), nssai)} }
  | .destroyPlmnList mcc mnc areaId, offer => { offer with plmns := {p ∈ offer.plmns | p.1 ≠ (mcc, mnc, areaId)} }
  | .addDnnSnssaiSmf nssai dnn, offer => { offer with dnns := insert (nssai.sd, dnn) offer.dnns }
  | .destroySnssaiSmf sliceId, offer => { offer with dnns := {p ∈ offer.dnns | p.1 ≠ sliceId} }

/-- The edit finds what it looks for. -/
def Finds : Edit → Offer → Prop
  | .addPlmnItem mcc mnc areaId _, offer => ∃ nssai, ((mcc, mnc, areaId), nssai) ∈ offer.plmns
  | .delPlmnItem mcc mnc areaId nssai, offer => ((mcc, mnc, areaId), nssai) ∈ offer.plmns
  | .destroyPlmnList mcc mnc areaId, offer => ∃ nssai, ((mcc, mnc, areaId), nssai) ∈ offer.plmns
  | .addDnnSnssaiSmf nssai _, offer => ∃ dnn, (nssai.sd, dnn) ∈ offer.dnns
  | .destroySnssaiSmf sliceId, offer => ∃ dnn, (sliceId, dnn) ∈ offer.dnns

end Edit

structure Tidy (values : OaiCoreValues) : Prop where
  plmns : WellFormed plmnGrouping values.plmnSupportList
  dnns : WellFormed smfGrouping values.sNssaiSmfInfoList

def runEdits (depth : Nat) : List Edit → OaiCoreValues → Option (OaiCoreValues × List Bool)
  | [], values => some (values, [])
  | edit :: edits, values => do
    let (values', answer) ← edit.exec depth values
    let (values'', answers) ← runEdits depth edits values'
    return (values'', answer :: answers)

/-- What the edits find, one after another. -/
def findings : List Edit → Offer → List Prop
  | [], _ => []
  | edit :: edits, offer => edit.Finds offer :: findings edits (edit.effect offer)

section Refinement

variable {values : OaiCoreValues}

theorem exec_tidy (h : Tidy values) (depth : Nat) (edit : Edit) : ∃ values' answer, edit.exec (depth + 2) values = some (values', answer) ∧
    (answer = true ↔ edit.Finds (offerOf values)) ∧ Tidy values' ∧ offerOf values' = edit.effect (offerOf values) := by
  cases edit with
  | addPlmnItem mcc mnc areaId nssai =>
    obtain ⟨items, had, hrun, hanswer, hwell, hcontent⟩ := add_spec h.plmns ⟨mcc, mnc, areaId, []⟩ nssai depth
    refine ⟨{ values with plmnSupportList := items }, had, ?_, hanswer, ⟨hwell, h.dnns⟩, ?_⟩
    · rw [Edit.exec, addPlmnItemLoop, hrun]
      rfl
    · rw [offerOf, hcontent]
      rfl
  | delPlmnItem mcc mnc areaId nssai =>
    obtain ⟨hanswer, hwell, hcontent⟩ := remove_spec h.plmns (mcc, mnc, areaId) nssai
    refine ⟨_, _, rfl, hanswer, ⟨hwell, h.dnns⟩, ?_⟩
    exact congrArg (fun plmns => (⟨plmns, _⟩ : Offer)) hcontent
  | destroyPlmnList mcc mnc areaId =>
    obtain ⟨hanswer, hwell, hcontent⟩ := destroy_spec h.plmns (mcc, mnc, areaId)
    exact ⟨_, _, rfl, hanswer, ⟨hwell, h.dnns⟩, congrArg (fun plmns => (⟨plmns, _⟩ : Offer)) hcontent⟩
  | addDnnSnssaiSmf nssai dnn =>
    obtain ⟨items, had, hrun, hanswer, hwell, hcontent⟩ := add_spec h.dnns ⟨nssai, []⟩ dnn depth
    refine ⟨{ values with sNssaiSmfInfoList := items }, had, ?_, hanswer, ⟨h.plmns, hwell⟩, ?_⟩
    · rw [Edit.exec, addDnnSnssaiSmfLoop, hrun]
      rfl
    · rw [offerOf, hcontent]
      rfl
  | destroySnssaiSmf sliceId =>
    obtain ⟨hanswer, hwell, hcontent⟩ := destroy_spec h.dnns sliceId
    exact ⟨_, _, rfl, hanswer, ⟨h.plmns, hwell⟩, congrArg (fun dnns => (⟨_, dnns⟩ : Offer)) hcontent⟩

end Refinement

/-! ### The editors of a rebuild -/

section Rebuild

/-- The loop of `add_plmn_item` ends after one call more. -/
theorem addPlmnItemLoop_eq (mcc mnc : String) (areaId : Int) (values : OaiCoreValues) (depth : Nat) (nssai : Snssai) :
    (addPlmnItemLoop mcc mnc areaId values (depth + 2) nssai).map Prod.fst = some (addPlmnItem mcc mnc areaId nssai values) := by
  have htest : (fun a => decide (plmnGrouping.key a = plmnGrouping.key ⟨mcc, mnc, areaId, []⟩)) =
      fun item : PlmnSupportListItem => decide (item.mcc = mcc ∧ item.mnc = mnc ∧ item.tac = areaId) := by
    funext item
    simp only [plmnGrouping, Prod.mk.injEq]
  rw [addPlmnItemLoop, add_eq, htest]
  rfl

theorem addDnnSnssaiSmfLoop_eq (values : OaiCoreValues) (depth : Nat) (nssai : Snssai) (dnn : String) :
    (addDnnSnssaiSmfLoop values (depth + 2) nssai dnn).map Prod.fst = some (addDnnSnssaiSmfInfoListItem nssai dnn values) := by
  rw [addDnnSnssaiSmfLoop, add_eq]
  rfl

theorem clearedValues_tidy (mcc mnc : String) : Tidy (OpenAirInterface.clearedValues mcc mnc) := ⟨wellFormed_nil, wellFormed_nil⟩

/-- A slice that is offered in two areas, and withdrawn from one of them. -/
def campusEdits : List Edit :=
  [.addPlmnItem "001" "01" 1 ⟨1, "000001"⟩, .addDnnSnssaiSmf ⟨1, "000001"⟩ "internet", .addPlmnItem "001" "01" 2 ⟨1, "000001"⟩,
    .delPlmnItem "001" "01" 1 ⟨1, "000001"⟩, .delPlmnItem "001" "01" 1 ⟨1, "000001"⟩]

end Rebuild

end Nfvcl.OaiUtils

/-! ### The UPF -/

namespace Nfvcl.OpenAirInterfaceUpf
set_option autoImplicit true
open Effects ListUpdates GroupedLists OaiUtils

section Upf

variable {conf conf' : Upfconfig} {snssai : Snssai}

theorem addDnnSnssaiUpf_eq (items : List SNssaiUpfInfoListItem) (snssai : Snssai) (dnn : String) :
    addDnnSnssaiUpfInfoListItem items snssai dnn = growFirst (fun item => decide (upfGrouping.key item = upfGrouping.key ⟨snssai, []⟩))
      (addValue upfGrouping dnn) (upfGrouping.withValues ⟨snssai, []⟩ [dnn]) items := by
  induction items with
  | nil => rfl
  | cons item items ih =>
    rw [addDnnSnssaiUpfInfoListItem, growFirst]
    by_cases hsd : item.sNssai.sd = snssai.sd
    · have hkey : decide (upfGrouping.key item = upfGrouping.key ⟨snssai, []⟩) = true := decide_eq_true hsd
      rw [if_pos hsd, if_pos hkey, addValue]
      refine congrArg (· :: items) ?_
      change _ = { item with dnnUpfInfoList := appendNew item.dnnUpfInfoList dnn }
      unfold appendNew
      split
      · rfl
      · rfl
    · have hkey : ¬ decide (upfGrouping.key item = upfGrouping.key ⟨snssai, []⟩) = true := fun h => hsd (of_decide_eq_true h)
      rw [if_neg hsd, if_neg hkey, ih]

/-- The items are in order, and pairs are added to them. -/
def Gains (pairs : Set (String × String)) (conf conf' : Upfconfig) : Prop :=
  WellFormed upfGrouping conf.sNssaiUpfInfoList → WellFormed upfGrouping conf'.sNssaiUpfInfoList ∧
    content upfGrouping conf'.sNssaiUpfInfoList = content upfGrouping conf.sNssaiUpfInfoList ∪ pairs

theorem Gains.nil (conf : Upfconfig) : Gains ∅ conf conf := fun h => ⟨h, (Set.union_empty _).symm⟩

theorem Gains.trans {pairs pairs' : Set (String × String)} {conf'' : Upfconfig} (h : Gains pairs conf conf') (h' : Gains pairs' conf' conf'') :
    Gains (pairs ∪ pairs') conf conf'' := by
  intro hwell
  obtain ⟨hwell', hcontent⟩ := h hwell
  obtain ⟨hwell'', hcontent'⟩ := h' hwell'
  exact ⟨hwell'', by rw [hcontent', hcontent, Set.union_assoc]⟩

/-- The DNNs of a slice, by its `sd`. -/
def dnnPairs (sd : String) (dnns : List DnnModel) : Set (String × String) := {p | p.1 = sd ∧ ∃ dnn ∈ dnns, dnn.name = some p.2}

theorem dnnPairs_cons (sd : String) (dnn : DnnModel) (dnns : List DnnModel) : dnnPairs sd (dnn :: dnns) = dnnPairs sd [dnn] ∪ dnnPairs sd dnns := by
  ext p
  simp only [dnnPairs, Set.mem_union, Set.mem_ofPred_eq, List.mem_cons, List.not_mem_nil, or_false, exists_eq_or_imp, exists_eq_left]
  tauto

theorem addDnn_gains {dnn : DnnModel} (h : addDnn snssai conf dnn = .ok conf') : Gains (dnnPairs snssai.sd [dnn]) conf conf' := by
  unfold addDnn at h
  obtain ⟨name, hname, h⟩ := except_bind_ok.1 h
  obtain ⟨cidr, -, h⟩ := except_bind_ok.1 h
  cases h
  intro hwell
  have hsame : (OpenAirInterfaceUpf.addDnnDnns conf ⟨name, cidr⟩).sNssaiUpfInfoList = conf.sNssaiUpfInfoList := by
    unfold OpenAirInterfaceUpf.addDnnDnns
    split
    · rfl
    · rfl
  rw [hsame, addDnnSnssaiUpf_eq]
  obtain ⟨hwell', hcontent⟩ := growFirst_spec hwell ⟨snssai, []⟩ name
  refine ⟨hwell', hcontent.trans ?_⟩
  rw [Set.insert_eq, Set.union_comm]
  congr 1
  ext p
  rw [Set.mem_singleton_iff, dnnPairs, Set.mem_ofPred_eq, Prod.ext_iff]
  simp only [List.mem_singleton, exists_eq_left, required_eq_ok hname, Option.some.injEq]
  rw [eq_comm (b := p.2)]
  rfl

theorem addSlice_gains {slice : SliceModel} (h : addSlice conf slice = .ok conf') :
    Gains (dnnPairs (OpenAirInterfaceUpf.snssaiOf slice).sd slice.dnnList) conf conf' := by
  unfold addSlice at h
  obtain ⟨conf₁, hadd, h⟩ := except_bind_ok.1 h
  have hfold := foldlM_spec (R := fun dnns => Gains (dnnPairs (OpenAirInterfaceUpf.snssaiOf slice).sd dnns)) slice.dnnList h
    (fun conf => by
      have hnone : dnnPairs (OpenAirInterfaceUpf.snssaiOf slice).sd [] = ∅ := Set.eq_empty_of_forall_notMem (fun _ ⟨_, _, h, _⟩ => nomatch h)
      rw [hnone]
      exact Gains.nil conf)
    (fun dnn dnns b b₁ b₂ hb hrest => by
      rw [dnnPairs_cons]
      exact (addDnn_gains hb).trans hrest)
  unfold OpenAirInterfaceUpf.addSnssai at hadd
  split at hadd
  · cases hadd
  · cases hadd
    exact hfold

/-- Each slice of the model with its DNNs. -/
def servedPairs (slices : List SliceModel) : Set (String × String) :=
  {p | ∃ slice ∈ slices, p ∈ dnnPairs (OpenAirInterfaceUpf.snssaiOf slice).sd slice.dnnList}

theorem newUpfConf_gains {config : UPFBlueCreateModel} {vm : VmResource} (h : newUpfConf config vm = .ok conf) :
    WellFormed upfGrouping conf.sNssaiUpfInfoList ∧ content upfGrouping conf.sNssaiUpfInfoList = servedPairs config.slices := by
  unfold newUpfConf at h
  obtain ⟨n4, -, h⟩ := except_bind_ok.1 h
  obtain ⟨n3, -, h⟩ := except_bind_ok.1 h
  obtain ⟨n6, -, h⟩ := except_bind_ok.1 h
  have hfold := foldlM_spec (R := fun slices => Gains (servedPairs slices)) config.slices h
    (fun conf => by
      have hnone : servedPairs [] = ∅ := Set.eq_empty_of_forall_notMem (fun _ ⟨_, h, _⟩ => nomatch h)
      rw [hnone]
      exact Gains.nil conf)
    (fun slice slices b b₁ b₂ hb hrest => by
      have hcons : servedPairs (slice :: slices) = dnnPairs (OpenAirInterfaceUpf.snssaiOf slice).sd slice.dnnList ∪ servedPairs slices := by
        ext p
        simp only [servedPairs, Set.mem_union, Set.mem_ofPred_eq, List.mem_cons, exists_eq_or_imp]
      rw [hcons]
      exact (addSlice_gains hb).trans hrest)
  obtain ⟨hwell, hcontent⟩ := hfold wellFormed_nil
  refine ⟨hwell, hcontent.trans ?_⟩
  rw [content_nil, Set.empty_union]

def createdUpf : UpfState OAIUpfOwn :=
  finalState ((UpfState.create (createUpf campusVims) (campusUpf [campusSlice])).run { own := {} })

end Upf

end Nfvcl.OpenAirInterfaceUpf
