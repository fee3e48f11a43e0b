import Mathlib.Data.List.Basic
import Mathlib.Data.List.Dedup
import Mathlib.Data.List.Flatten
import Mathlib.Data.List.Nodup
import Mathlib.Data.List.Pairwise
import Std.Data.String.ToInt
import Nfvcl.OaiCore
import Nfvcl.Day2Uniqueness
import Nfvcl.UpfReports

namespace Nfvcl
set_option autoImplicit true
open Effects ListUpdates OaiUtils

namespace OpenAirInterface

def areaSlices (area : SubArea) : List SubSlices :=
  area.slices.getD []

/-- The slices offered in some area. -/
def offered (c : Create5gModel) : List SubSlices :=
  c.areas.flatMap areaSlices

def dnnsOf (c : Create5gModel) (slice : SubSlices) : List String :=
  match c.profiles.find? (fun profile => decide (profile.sliceId = slice.sliceId)) with
  | some profile => profile.dnnList
  | none => []

/-- The values list the offered slices, their DNNs and the areas, each once. -/
structure Represents (c : Create5gModel) (values : OaiCoreValues) : Prop where
  snssais : values.snssais.Perm ((offered c).dedup.map snssaiOf)
  plmnSupportList : (values.plmnSupportList.map (fun item => (item.tac, item.nssai))).Perm
    ((c.areas.filter (fun area => decide (areaSlices area ≠ []))).map
      (fun area => (area.id, (areaSlices area).map snssaiOf)))
  dnns_once : (values.dnns.map OaiDnn.dnn).Nodup
  dnns : ∀ dnn, dnn ∈ values.dnns.map OaiDnn.dnn ↔ ∃ slice ∈ offered c, dnn ∈ dnnsOf c slice
  sNssaiSmfInfoList : values.sNssaiSmfInfoList.Perm
    (((offered c).dedup.filter (fun slice => decide (dnnsOf c slice ≠ []))).map
      (fun slice => ⟨snssaiOf slice, dnnsOf c slice⟩))
  localSubscriptionInfos : (values.localSubscriptionInfos.map (fun info => (info.singleNssai, info.dnn))).Perm
    ((offered c).dedup.flatMap (fun slice => (dnnsOf c slice).map (Prod.mk (snssaiOf slice))))
  upfs : (values.upfs.map UpfAvailable.host).Perm (c.areas.map (fun area => upfHost area.id))
  hostAliases : (values.hostAliases.map HostAliase.hostnames).Perm (c.areas.map (fun area => upfHost area.id))

section Values

variable (validateInt : String → Option Int)

/-- `update_core_values` returns with the values of the configuration, and again with the same. -/
def Rebuilds (c : Create5gModel) (r : OaiState) : Prop :=
  ∃ values, Represents c values ∧
    (updateCoreValues validateInt).run ⟨some c, r⟩ = .ok () ⟨some c, { r with oaiConfigValues := values }⟩ ∧
    (updateCoreValues validateInt).run ⟨some c, { r with oaiConfigValues := values }⟩ =
      .ok () ⟨some c, { r with oaiConfigValues := values }⟩

/-- Every area has a list of slices, no slice is offered twice, no two slices with DNNs have one `sd`,
and every DNN that is offered has a pool and a 5qi that is a number. -/
structure Representable (c : Create5gModel) : Prop where
  slices : ∀ area ∈ c.areas, area.slices ≠ none
  snssais : ((offered c).map snssaiOf).Nodup
  sds : (((offered c).filter (fun slice => decide (dnnsOf c slice ≠ []))).map (fun slice => (snssaiOf slice).sd)).Nodup
  dnns : ∀ slice ∈ offered c, ∀ net ∈ c.config.networkEndpoints.dataNets, net.dnn ∈ dnnsOf c slice →
    net.pools ≠ [] ∧ (net.default5qi.bind validateInt).isSome

/-- Every area has a deployed UPF and every DNN the values that are read of it. -/
structure Provided (c : Create5gModel) (r : OaiState) : Prop where
  upfs : ∀ area ∈ c.areas, ∃ ip, deployedUpfIp r.edgeAreas area.id = .ok ip
  dnns : ∀ net ∈ c.config.networkEndpoints.dataNets,
    net.uplinkAmbr.isSome ∧ net.downlinkAmbr.isSome ∧ net.default5qi.isSome

/-! ### The rounds of the loops -/

variable (c : Create5gModel) (mcc mnc : String) (edgeAreas : List EdgeAreaInfo)

def dnnEntries (snssai : Snssai) (dnn : String) : List (LocalSubscriptionInfo × OaiDnn) :=
  (dnnData validateInt c snssai dnn).toOption.toList

def dnnRound (snssai : Snssai) (values : OaiCoreValues) (dnn : String) : OaiCoreValues :=
  addDnnSnssaiSmfInfoListItem snssai dnn
    { values with
      localSubscriptionInfos := ((dnnEntries validateInt c snssai dnn).map Prod.fst).foldl appendNew values.localSubscriptionInfos
      dnns := ((dnnEntries validateInt c snssai dnn).map Prod.snd).foldl appendNew values.dnns }

def sliceRound (areaId : Int) (values : OaiCoreValues) (slice : SubSlices) : OaiCoreValues :=
  (dnnsOf c slice).foldl (dnnRound validateInt c (snssaiOf slice))
    (addPlmnItem mcc mnc areaId (snssaiOf slice) { values with snssais := values.snssais ++ [snssaiOf slice] })

def areaAliases (areaId : Int) : List HostAliase :=
  (deployedUpfIp edgeAreas areaId).toOption.toList.map (fun ip => ⟨ip.exploded, upfHost areaId⟩)

def areaRound (values : OaiCoreValues) (area : SubArea) : OaiCoreValues :=
  (areaSlices area).foldl (sliceRound validateInt c mcc mnc area.id)
    (addAvailableUpf area.id { values with hostAliases := values.hostAliases ++ areaAliases edgeAreas area.id })

def DnnReady (snssai : Snssai) (dnn : String) : Prop :=
  ∃ data, dnnData validateInt c snssai dnn = .ok data

def SliceReady (slice : SubSlices) : Prop :=
  (∃ profile, getSlice c slice.sliceId = .ok profile) ∧ ∀ dnn ∈ dnnsOf c slice, DnnReady validateInt c (snssaiOf slice) dnn

theorem liftExcept_run_ok {m : Except PyError α} {s : σ} :
    (Generic5G.liftExcept m).run s = .ok a s' ↔ m = .ok a ∧ s' = s := by
  cases m with
  | ok b =>
    constructor
    · intro h
      cases h
      exact ⟨rfl, rfl⟩
    · rintro ⟨h, rfl⟩
      cases h
      rfl
  | error e =>
    constructor
    · intro h
      cases h
    · rintro ⟨h, -⟩
      cases h

theorem addSliceDnn_ok_iff :
    (addSliceDnn validateInt c snssai dnn).run values = .ok () values' ↔
      DnnReady validateInt c snssai dnn ∧ values' = dnnRound validateInt c snssai values dnn := by
  unfold addSliceDnn
  constructor
  · intro h
    obtain ⟨⟨info, entry⟩, s, hdata, hrest⟩ := bind_ok_inv h
    obtain ⟨hready, rfl⟩ := liftExcept_run_ok.1 hdata
    refine ⟨⟨_, hready⟩, ?_⟩
    cases hrest
    rw [dnnRound, dnnEntries, hready]
    rfl
  · rintro ⟨⟨⟨info, entry⟩, hdata⟩, rfl⟩
    rw [run_bind_ok _ _ (liftExcept_run_ok.2 ⟨hdata, rfl⟩), dnnRound, dnnEntries, hdata]
    rfl

theorem dnnsOf_eq (h : getSlice c slice.sliceId = .ok profile) : dnnsOf c slice = profile.dnnList := by
  unfold getSlice at h
  unfold dnnsOf Create5gModel.profiles
  cases hp : c.config.sliceProfiles with
  | none =>
    rw [hp] at h
    cases h
  | some profiles =>
    rw [hp] at h
    change (match profiles.find? _ with | some slice => Except.ok slice | none => Except.error _) = _ at h
    rw [Option.getD_some]
    cases hf : profiles.find? (fun profile => decide (profile.sliceId = slice.sliceId)) with
    | none =>
      rw [hf] at h
      cases h
    | some found =>
      rw [hf] at h
      cases h
      rfl

theorem addSnssai_ok_iff :
    (addSnssai slice).run values = .ok snssai values' ↔
      snssaiOf slice ∉ values.snssais ∧ snssai = snssaiOf slice ∧
        values' = { values with snssais := values.snssais ++ [snssaiOf slice] } := by
  unfold addSnssai
  rw [EStateM.run_bind, EStateM.run_get]
  by_cases hmem : snssaiOf slice ∈ values.snssais
  · simp only [hmem, if_true, not_true, false_and, iff_false]
    intro h
    cases h
  · simp only [hmem, if_false, not_false_iff, true_and]
    constructor
    · intro h
      cases h
      exact ⟨rfl, rfl⟩
    · rintro ⟨rfl, rfl⟩
      rfl

theorem addHostAliases_ok_iff :
    (addHostAliases areaId ip).run values = .ok u values' ↔
      (⟨ip, upfHost areaId⟩ : HostAliase) ∉ values.hostAliases ∧
        values' = { values with hostAliases := values.hostAliases ++ [(⟨ip, upfHost areaId⟩ : HostAliase)] } := by
  unfold addHostAliases
  rw [EStateM.run_bind, EStateM.run_get]
  by_cases hmem : (⟨ip, upfHost areaId⟩ : HostAliase) ∈ values.hostAliases
  · simp only [hmem, if_true, not_true, false_and, iff_false]
    intro h
    cases h
  · simp only [hmem, if_false, not_false_iff, true_and]
    constructor
    · intro h
      cases h
      rfl
    · rintro rfl
      rfl

theorem addAreaSlice_ok_iff :
    (addAreaSlice validateInt c mcc mnc areaId slice).run values = .ok () values' ↔
      (snssaiOf slice ∉ values.snssais ∧ SliceReady validateInt c slice) ∧
        values' = sliceRound validateInt c mcc mnc areaId values slice := by
  unfold addAreaSlice
  simp only [bind_ok_iff, addSnssai_ok_iff, modify_ok_iff, liftExcept_run_ok,
    forM_ok_iff (fun _ _ _ => addSliceDnn_ok_iff validateInt c), along_forall_iff]
  constructor
  · rintro ⟨_, _, ⟨hnew, rfl, rfl⟩, _, _, rfl, profile, _, ⟨hget, rfl⟩, hready, rfl⟩
    rw [← dnnsOf_eq c hget] at hready ⊢
    exact ⟨⟨hnew, ⟨profile, hget⟩, hready⟩, rfl⟩
  · rintro ⟨⟨hnew, ⟨profile, hget⟩, hready⟩, rfl⟩
    refine ⟨_, _, ⟨hnew, rfl, rfl⟩, (), _, rfl, profile, _, ⟨hget, rfl⟩, ?_⟩
    rw [← dnnsOf_eq c hget]
    exact ⟨hready, rfl⟩

theorem iterate_ok_iff {xs : Option (List α)} : iterate xs = .ok ys ↔ xs = some ys := by
  cases xs with
  | none =>
    constructor
    · intro h
      cases h
    · intro h
      cases h
  | some xs =>
    constructor
    · intro h
      cases h
      rfl
    · intro h
      cases h
      rfl

def AreaSlicesReady (values : OaiCoreValues) (area : SubArea) : Prop :=
  Along (fun values slice => snssaiOf slice ∉ values.snssais ∧ SliceReady validateInt c slice)
    (sliceRound validateInt c mcc mnc area.id)
    (addAvailableUpf area.id { values with hostAliases := values.hostAliases ++ areaAliases edgeAreas area.id })
    (areaSlices area)

theorem addArea_ok_iff :
    (addArea validateInt c edgeAreas mcc mnc area).run values = .ok () values' ↔
      ((∃ ip, deployedUpfIp edgeAreas area.id = .ok ip ∧
          (⟨ip.exploded, upfHost area.id⟩ : HostAliase) ∉ values.hostAliases) ∧
        (area.slices ≠ none ∧ AreaSlicesReady validateInt c mcc mnc edgeAreas values area)) ∧
        values' = areaRound validateInt c mcc mnc edgeAreas values area := by
  unfold addArea
  simp only [bind_ok_iff, addHostAliases_ok_iff, modify_ok_iff, liftExcept_run_ok, iterate_ok_iff,
    forM_ok_iff (fun _ _ _ => addAreaSlice_ok_iff validateInt c mcc mnc)]
  constructor
  · rintro ⟨ip, _, ⟨hip, rfl⟩, _, _, ⟨hnew, rfl⟩, _, _, rfl, slices, _, ⟨hslices, rfl⟩, hready, rfl⟩
    have haliases : areaAliases edgeAreas area.id = [⟨ip.exploded, upfHost area.id⟩] := by
      rw [areaAliases, hip]
      rfl
    have hlist : areaSlices area = slices := by
      rw [areaSlices, hslices]
      rfl
    refine ⟨⟨⟨ip, hip, hnew⟩, by rw [hslices]; exact Option.some_ne_none slices, ?_⟩, ?_⟩
    · rw [AreaSlicesReady, haliases, hlist]
      exact hready
    · rw [areaRound, haliases, hlist]
  · rintro ⟨⟨⟨ip, hip, hnew⟩, hslices, hready⟩, rfl⟩
    obtain ⟨slices, hslices⟩ := Option.ne_none_iff_exists'.1 hslices
    have haliases : areaAliases edgeAreas area.id = [⟨ip.exploded, upfHost area.id⟩] := by
      rw [areaAliases, hip]
      rfl
    have hlist : areaSlices area = slices := by
      rw [areaSlices, hslices]
      rfl
    rw [AreaSlicesReady, haliases, hlist] at hready
    rw [areaRound, haliases, hlist]
    exact ⟨ip, _, ⟨hip, rfl⟩, (), _, ⟨hnew, rfl⟩, (), _, rfl, slices, _, ⟨hslices, rfl⟩, hready, rfl⟩

/-! ### The lists after the loops -/

def smfAdd (items : List SNssaiSmfInfoListItem) (p : Snssai × String) : List SNssaiSmfInfoListItem :=
  growFirst (fun item => decide (item.sNssai.sd = p.1.sd))
    (fun item => { item with dnnSmfInfoList := appendNew item.dnnSmfInfoList p.2 })
    { sNssai := p.1, dnnSmfInfoList := [p.2] } items

def plmnAdd (items : List PlmnSupportListItem) (p : Int × Snssai) : List PlmnSupportListItem :=
  growFirst (fun item => decide (item.mcc = mcc ∧ item.mnc = mnc ∧ item.tac = p.1))
    (fun item => { item with nssai := appendNew item.nssai p.2 })
    { mcc := mcc, mnc := mnc, tac := p.1, nssai := [p.2] } items

def sliceEntries (slice : SubSlices) : List (LocalSubscriptionInfo × OaiDnn) :=
  (dnnsOf c slice).flatMap (dnnEntries validateInt c (snssaiOf slice))

section Round

variable (areaId : Int) (values : OaiCoreValues) (slice : SubSlices)

theorem sliceRound_snssais :
    (sliceRound validateInt c mcc mnc areaId values slice).snssais = values.snssais ++ [snssaiOf slice] :=
  foldl_keeps OaiCoreValues.snssais (dnnRound validateInt c (snssaiOf slice)) (fun _ _ => rfl) _ _

theorem sliceRound_hostAliases :
    (sliceRound validateInt c mcc mnc areaId values slice).hostAliases = values.hostAliases :=
  foldl_keeps OaiCoreValues.hostAliases (dnnRound validateInt c (snssaiOf slice)) (fun _ _ => rfl) _ _

theorem sliceRound_upfs :
    (sliceRound validateInt c mcc mnc areaId values slice).upfs = values.upfs :=
  foldl_keeps OaiCoreValues.upfs (dnnRound validateInt c (snssaiOf slice)) (fun _ _ => rfl) _ _

theorem sliceRound_plmn :
    (sliceRound validateInt c mcc mnc areaId values slice).plmnSupportList =
      [(areaId, snssaiOf slice)].foldl (plmnAdd mcc mnc) values.plmnSupportList :=
  foldl_keeps OaiCoreValues.plmnSupportList (dnnRound validateInt c (snssaiOf slice)) (fun _ _ => rfl) _ _

theorem sliceRound_infos :
    (sliceRound validateInt c mcc mnc areaId values slice).localSubscriptionInfos =
      ((sliceEntries validateInt c slice).map Prod.fst).foldl appendNew values.localSubscriptionInfos := by
  rw [sliceEntries, List.map_flatMap]
  exact foldl_field OaiCoreValues.localSubscriptionInfos (dnnRound validateInt c (snssaiOf slice)) (fun _ _ => rfl) _ _

theorem sliceRound_dnns :
    (sliceRound validateInt c mcc mnc areaId values slice).dnns =
      ((sliceEntries validateInt c slice).map Prod.snd).foldl appendNew values.dnns := by
  rw [sliceEntries, List.map_flatMap]
  exact foldl_field OaiCoreValues.dnns (dnnRound validateInt c (snssaiOf slice)) (fun _ _ => rfl) _ _

theorem sliceRound_smf :
    (sliceRound validateInt c mcc mnc areaId values slice).sNssaiSmfInfoList =
      ((dnnsOf c slice).map (Prod.mk (snssaiOf slice))).foldl smfAdd values.sNssaiSmfInfoList := by
  rw [List.map_eq_flatMap]
  exact foldl_field OaiCoreValues.sNssaiSmfInfoList (dnnRound validateInt c (snssaiOf slice)) (fun _ _ => rfl) _ _

end Round

section Final

variable (values : OaiCoreValues) (area : SubArea)

theorem areaRound_snssais :
    (areaRound validateInt c mcc mnc edgeAreas values area).snssais =
      values.snssais ++ (areaSlices area).map snssaiOf := by
  rw [List.map_eq_flatMap]
  exact foldl_appends OaiCoreValues.snssais (sliceRound validateInt c mcc mnc area.id)
    (sliceRound_snssais validateInt c mcc mnc area.id) _ _

theorem areaRound_hostAliases :
    (areaRound validateInt c mcc mnc edgeAreas values area).hostAliases =
      values.hostAliases ++ areaAliases edgeAreas area.id :=
  foldl_keeps OaiCoreValues.hostAliases (sliceRound validateInt c mcc mnc area.id)
    (sliceRound_hostAliases validateInt c mcc mnc area.id) _ _

theorem areaRound_upfs :
    (areaRound validateInt c mcc mnc edgeAreas values area).upfs =
      [(⟨upfHost area.id⟩ : UpfAvailable)].foldl appendNew values.upfs :=
  foldl_keeps OaiCoreValues.upfs (sliceRound validateInt c mcc mnc area.id)
    (sliceRound_upfs validateInt c mcc mnc area.id) _ _

theorem areaRound_plmn :
    (areaRound validateInt c mcc mnc edgeAreas values area).plmnSupportList =
      (((areaSlices area).map snssaiOf).map (Prod.mk area.id)).foldl (plmnAdd mcc mnc) values.plmnSupportList := by
  rw [List.map_map, List.map_eq_flatMap]
  exact foldl_field OaiCoreValues.plmnSupportList (sliceRound validateInt c mcc mnc area.id)
    (sliceRound_plmn validateInt c mcc mnc area.id) _ _

theorem areaRound_infos :
    (areaRound validateInt c mcc mnc edgeAreas values area).localSubscriptionInfos =
      (((areaSlices area).flatMap (sliceEntries validateInt c)).map Prod.fst).foldl appendNew
        values.localSubscriptionInfos := by
  rw [List.map_flatMap]
  exact foldl_field OaiCoreValues.localSubscriptionInfos (sliceRound validateInt c mcc mnc area.id)
    (sliceRound_infos validateInt c mcc mnc area.id) _ _

theorem areaRound_dnns :
    (areaRound validateInt c mcc mnc edgeAreas values area).dnns =
      (((areaSlices area).flatMap (sliceEntries validateInt c)).map Prod.snd).foldl appendNew values.dnns := by
  rw [List.map_flatMap]
  exact foldl_field OaiCoreValues.dnns (sliceRound validateInt c mcc mnc area.id)
    (sliceRound_dnns validateInt c mcc mnc area.id) _ _

theorem areaRound_smf :
    (areaRound validateInt c mcc mnc edgeAreas values area).sNssaiSmfInfoList =
      ((areaSlices area).flatMap (fun slice => (dnnsOf c slice).map (Prod.mk (snssaiOf slice)))).foldl smfAdd
        values.sNssaiSmfInfoList :=
  foldl_field OaiCoreValues.sNssaiSmfInfoList (sliceRound validateInt c mcc mnc area.id)
    (sliceRound_smf validateInt c mcc mnc area.id) _ _

end Final

def finalValues : OaiCoreValues :=
  c.areas.foldl (areaRound validateInt c mcc mnc edgeAreas) (clearedValues mcc mnc)

theorem finalValues_snssais :
    (finalValues validateInt c mcc mnc edgeAreas).snssais = (offered c).map snssaiOf := by
  rw [offered, List.map_flatMap]
  exact foldl_appends OaiCoreValues.snssais (areaRound validateInt c mcc mnc edgeAreas)
    (areaRound_snssais validateInt c mcc mnc edgeAreas) c.areas (clearedValues mcc mnc)

theorem finalValues_hostAliases :
    (finalValues validateInt c mcc mnc edgeAreas).hostAliases =
      c.areas.flatMap (fun area => areaAliases edgeAreas area.id) :=
  foldl_appends OaiCoreValues.hostAliases (areaRound validateInt c mcc mnc edgeAreas)
    (areaRound_hostAliases validateInt c mcc mnc edgeAreas) c.areas (clearedValues mcc mnc)

theorem finalValues_upfs :
    (finalValues validateInt c mcc mnc edgeAreas).upfs =
      (c.areas.map (fun area => (⟨upfHost area.id⟩ : UpfAvailable))).foldl appendNew [] := by
  rw [List.map_eq_flatMap]
  exact foldl_field OaiCoreValues.upfs (areaRound validateInt c mcc mnc edgeAreas)
    (areaRound_upfs validateInt c mcc mnc edgeAreas) c.areas (clearedValues mcc mnc)

theorem finalValues_plmn :
    (finalValues validateInt c mcc mnc edgeAreas).plmnSupportList =
      (c.areas.flatMap (fun area => ((areaSlices area).map snssaiOf).map (Prod.mk area.id))).foldl (plmnAdd mcc mnc) [] :=
  foldl_field OaiCoreValues.plmnSupportList (areaRound validateInt c mcc mnc edgeAreas)
    (areaRound_plmn validateInt c mcc mnc edgeAreas) c.areas (clearedValues mcc mnc)

theorem finalValues_infos :
    (finalValues validateInt c mcc mnc edgeAreas).localSubscriptionInfos =
      (((offered c).flatMap (sliceEntries validateInt c)).map Prod.fst).foldl appendNew [] := by
  rw [offered, List.flatMap_assoc, List.map_flatMap]
  exact foldl_field OaiCoreValues.localSubscriptionInfos (areaRound validateInt c mcc mnc edgeAreas)
    (areaRound_infos validateInt c mcc mnc edgeAreas) c.areas (clearedValues mcc mnc)

theorem finalValues_dnns :
    (finalValues validateInt c mcc mnc edgeAreas).dnns =
      (((offered c).flatMap (sliceEntries validateInt c)).map Prod.snd).foldl appendNew [] := by
  rw [offered, List.flatMap_assoc, List.map_flatMap]
  exact foldl_field OaiCoreValues.dnns (areaRound validateInt c mcc mnc edgeAreas)
    (areaRound_dnns validateInt c mcc mnc edgeAreas) c.areas (clearedValues mcc mnc)

theorem finalValues_smf :
    (finalValues validateInt c mcc mnc edgeAreas).sNssaiSmfInfoList =
      ((offered c).flatMap (fun slice => (dnnsOf c slice).map (Prod.mk (snssaiOf slice)))).foldl smfAdd [] := by
  rw [offered, List.flatMap_assoc]
  exact foldl_field OaiCoreValues.sNssaiSmfInfoList (areaRound validateInt c mcc mnc edgeAreas)
    (areaRound_smf validateInt c mcc mnc edgeAreas) c.areas (clearedValues mcc mnc)

/-! ### When the loops return -/

theorem nodup_append_singleton_iff {xs : List α} (h : xs.Nodup) : (xs ++ [a]).Nodup ↔ a ∉ xs := by
  rw [List.nodup_append]
  constructor
  · rintro ⟨-, -, hne⟩ hmem
    exact hne a hmem a List.mem_cons_self rfl
  · intro hmem
    refine ⟨h, List.nodup_singleton a, ?_⟩
    intro x hx y hy he
    rw [he, List.mem_singleton.1 hy] at hx
    exact hmem hx

theorem aliases_along_iff (hs : values.hostAliases = []) :
    Along (fun values area => ∃ ip, deployedUpfIp edgeAreas area.id = .ok ip ∧
        (⟨ip.exploded, upfHost area.id⟩ : HostAliase) ∉ values.hostAliases)
      (areaRound validateInt c mcc mnc edgeAreas) values areas ↔
      (areas.flatMap (fun area => areaAliases edgeAreas area.id)).Nodup ∧
        ∀ area ∈ areas, ∃ ip, deployedUpfIp edgeAreas area.id = .ok ip := by
  have hnil : values.hostAliases.Nodup := by
    rw [hs]
    exact List.nodup_nil
  rw [along_nodup_iff (Q := fun area => ∃ ip, deployedUpfIp edgeAreas area.id = .ok ip)
    (areaRound_hostAliases validateInt c mcc mnc edgeAreas) _ hnil, hs, List.nil_append]
  intro values area hnodup
  constructor
  · rintro ⟨ip, hip, hnew⟩
    rw [areaAliases, hip]
    exact ⟨(nodup_append_singleton_iff hnodup).2 hnew, ip, rfl⟩
  · rintro ⟨hnew, ip, hip⟩
    rw [areaAliases, hip] at hnew
    exact ⟨ip, hip, (nodup_append_singleton_iff hnodup).1 hnew⟩

theorem areaSlicesReady_iff (h : values.snssais.Nodup) :
    AreaSlicesReady validateInt c mcc mnc edgeAreas values area ↔
      (values.snssais ++ (areaSlices area).map snssaiOf).Nodup ∧
        ∀ slice ∈ areaSlices area, SliceReady validateInt c slice := by
  unfold AreaSlicesReady
  rw [List.map_eq_flatMap]
  apply along_nodup_iff (sliceRound_snssais validateInt c mcc mnc area.id)
  · intro values slice hnodup
    rw [nodup_append_singleton_iff hnodup]
  · exact h

theorem slices_along_iff (hs : values.snssais = []) :
    Along (fun values area => area.slices ≠ none ∧ AreaSlicesReady validateInt c mcc mnc edgeAreas values area)
      (areaRound validateInt c mcc mnc edgeAreas) values areas ↔
      (areas.flatMap (fun area => (areaSlices area).map snssaiOf)).Nodup ∧
        ∀ area ∈ areas, area.slices ≠ none ∧ ∀ slice ∈ areaSlices area, SliceReady validateInt c slice := by
  have hnil : values.snssais.Nodup := by
    rw [hs]
    exact List.nodup_nil
  rw [along_nodup_iff
    (Q := fun area => area.slices ≠ none ∧ ∀ slice ∈ areaSlices area, SliceReady validateInt c slice)
    (areaRound_snssais validateInt c mcc mnc edgeAreas) _ hnil, hs, List.nil_append]
  intro values area hnodup
  rw [areaSlicesReady_iff validateInt c mcc mnc edgeAreas hnodup]
  exact and_left_comm

theorem onValues_run (m : OaiValuesM α) (s : Generic5GState OaiState) :
    (onValues m).run s = match m.run s.rest.oaiConfigValues with
      | .ok a values => .ok a { s with rest := { s.rest with oaiConfigValues := values } }
      | .error e values => .error e { s with rest := { s.rest with oaiConfigValues := values } } := rfl

theorem onValues_ok_iff {m : OaiValuesM Unit} :
    (onValues m).run s = .ok u s' ↔
      ∃ values, m.run s.rest.oaiConfigValues = .ok () values ∧
        s' = { s with rest := { s.rest with oaiConfigValues := values } } := by
  rw [onValues_run]
  cases m.run s.rest.oaiConfigValues with
  | ok a values =>
    constructor
    · intro h
      cases h
      exact ⟨values, rfl, rfl⟩
    · rintro ⟨values', h, rfl⟩
      cases h
      rfl
  | error e values =>
    constructor
    · intro h
      cases h
    · rintro ⟨values', h, -⟩
      cases h

/-- What the loops need to return. -/
structure Returning : Prop where
  aliases : (c.areas.flatMap (fun area => areaAliases edgeAreas area.id)).Nodup
  upfs : ∀ area ∈ c.areas, ∃ ip, deployedUpfIp edgeAreas area.id = .ok ip
  snssais : ((offered c).map snssaiOf).Nodup
  slices : ∀ area ∈ c.areas, area.slices ≠ none
  ready : ∀ slice ∈ offered c, SliceReady validateInt c slice

theorem updateCoreValues_ok_iff (r : OaiState) :
    (updateCoreValues validateInt).run ⟨some c, r⟩ = .ok () s' ↔
      Returning validateInt c r.edgeAreas ∧
        s' = ⟨some c, { r with oaiConfigValues := finalValues validateInt c r.mcc r.mnc r.edgeAreas }⟩ := by
  have hloop : ∀ values, (forM c.areas (addArea validateInt c r.edgeAreas r.mcc r.mnc)).run (clearedValues r.mcc r.mnc) =
        .ok () values ↔
      Returning validateInt c r.edgeAreas ∧ values = finalValues validateInt c r.mcc r.mnc r.edgeAreas := by
    intro values
    rw [forM_ok_iff (fun _ _ _ => addArea_ok_iff validateInt c r.mcc r.mnc r.edgeAreas), along_and_iff,
      aliases_along_iff validateInt c r.mcc r.mnc r.edgeAreas rfl,
      slices_along_iff validateInt c r.mcc r.mnc r.edgeAreas rfl, ← List.map_flatMap]
    constructor
    · rintro ⟨⟨⟨haliases, hupfs⟩, hsnssais, hslices⟩, rfl⟩
      refine ⟨⟨haliases, hupfs, hsnssais, fun area harea => (hslices area harea).1, ?_⟩, rfl⟩
      intro slice hslice
      obtain ⟨area, harea, hslice⟩ := List.mem_flatMap.1 hslice
      exact (hslices area harea).2 slice hslice
    · rintro ⟨⟨haliases, hupfs, hsnssais, hslices, hready⟩, rfl⟩
      refine ⟨⟨⟨haliases, hupfs⟩, hsnssais, fun area harea => ⟨hslices area harea, ?_⟩⟩, rfl⟩
      intro slice hslice
      exact hready slice (List.mem_flatMap.2 ⟨area, harea, hslice⟩)
  have hrun : (updateCoreValues validateInt).run ⟨some c, r⟩ =
      (onValues (forM c.areas (addArea validateInt c r.edgeAreas r.mcc r.mnc))).run
        ⟨some c, { r with oaiConfigValues := clearedValues r.mcc r.mnc }⟩ := rfl
  rw [hrun, onValues_ok_iff]
  constructor
  · rintro ⟨values, hvalues, rfl⟩
    obtain ⟨hreturning, rfl⟩ := (hloop values).1 hvalues
    exact ⟨hreturning, rfl⟩
  · rintro ⟨hreturning, rfl⟩
    exact ⟨_, (hloop _).2 ⟨hreturning, rfl⟩, rfl⟩

/-! ### The data of the DNNs -/

theorem getDnn_some (h : getDnn c dnn = .ok net) : net ∈ c.config.networkEndpoints.dataNets ∧ net.dnn = dnn := by
  unfold getDnn at h
  cases hf : c.config.networkEndpoints.dataNets.find? (fun net => decide (net.dnn = dnn)) with
  | none =>
    rw [hf] at h
    cases h
  | some found =>
    rw [hf] at h
    cases h
    have hmap : KeyedList.toMap SubDataNets.dnn c.config.networkEndpoints.dataNets dnn = some net := hf
    exact ⟨KeyedList.toMap_some_mem hmap, KeyedList.toMap_some_key hmap⟩

theorem getDnn_mem (hu : KeyedList.Unique SubDataNets.dnn c.config.networkEndpoints.dataNets)
    (hnet : net ∈ c.config.networkEndpoints.dataNets) : getDnn c net.dnn = .ok net := by
  have hfind : c.config.networkEndpoints.dataNets.find? (fun x => decide (x.dnn = net.dnn)) = some net := hu.toMap_mem hnet
  rw [getDnn, hfind]

theorem dnnData_names (h : dnnData validateInt c snssai dnn = .ok (info, entry)) :
    (info.singleNssai, info.dnn) = (snssai, dnn) ∧ entry.dnn = dnn := by
  obtain ⟨net, hget, h⟩ := except_bind_ok.1 h
  obtain ⟨cidr, _, h⟩ := except_bind_ok.1 h
  obtain ⟨info', hinfo, h⟩ := except_bind_ok.1 h
  obtain ⟨ul, _, hinfo⟩ := except_bind_ok.1 hinfo
  obtain ⟨dl, _, hinfo⟩ := except_bind_ok.1 hinfo
  obtain ⟨qi, _, hinfo⟩ := except_bind_ok.1 hinfo
  cases hinfo
  cases h
  exact ⟨congrArg (Prod.mk snssai) (getDnn_some c hget).2, (getDnn_some c hget).2⟩

theorem dnnReady_iff (hget : getDnn c dnn = .ok net)
    (hnet : net.uplinkAmbr.isSome ∧ net.downlinkAmbr.isSome ∧ net.default5qi.isSome) :
    DnnReady validateInt c snssai dnn ↔ net.pools ≠ [] ∧ (net.default5qi.bind validateInt).isSome := by
  obtain ⟨hul, hdl, -⟩ := hnet
  obtain ⟨ul, hul⟩ := Option.isSome_iff_exists.1 hul
  obtain ⟨dl, hdl⟩ := Option.isSome_iff_exists.1 hdl
  constructor
  · rintro ⟨data, h⟩
    obtain ⟨net', hget', h⟩ := except_bind_ok.1 h
    cases hget.symm.trans hget'
    obtain ⟨cidr, hcidr, h⟩ := except_bind_ok.1 h
    obtain ⟨info, hinfo, h⟩ := except_bind_ok.1 h
    obtain ⟨_, _, hinfo⟩ := except_bind_ok.1 hinfo
    obtain ⟨_, _, hinfo⟩ := except_bind_ok.1 hinfo
    obtain ⟨qi, hqi, hinfo⟩ := except_bind_ok.1 hinfo
    constructor
    · intro hnil
      rw [firstCidr, hnil] at hcidr
      cases hcidr
    · rw [field5qi] at hqi
      cases hb : net.default5qi.bind validateInt with
      | none =>
        rw [hb] at hqi
        cases hqi
      | some n => rfl
  · rintro ⟨hpools, hqi⟩
    obtain ⟨pool, pools, hpools⟩ := List.exists_cons_of_ne_nil hpools
    obtain ⟨qi, hqi⟩ := Option.isSome_iff_exists.1 hqi
    have hcidr : firstCidr net = .ok pool.cidr := by
      rw [firstCidr, hpools]
    have hfield : field5qi validateInt net.default5qi = .ok qi := by
      rw [field5qi, hqi]
    have hinfo : ∃ info, subscriptionInfo validateInt snssai net = .ok info :=
      ⟨_, except_bind_ok.2 ⟨_, congrArg ambr hul, except_bind_ok.2 ⟨_, congrArg ambr hdl, except_bind_ok.2 ⟨_, hfield, rfl⟩⟩⟩⟩
    obtain ⟨info, hinfo⟩ := hinfo
    exact ⟨(info, ⟨net.dnn, pool.cidr⟩),
      except_bind_ok.2 ⟨net, hget, except_bind_ok.2 ⟨_, hcidr, except_bind_ok.2 ⟨_, hinfo, rfl⟩⟩⟩⟩

theorem getSlice_of_hasProfile (h : c.HasProfile sliceId) : ∃ profile, getSlice c sliceId = .ok profile := by
  obtain ⟨profile, hprofile, hid⟩ := h
  cases hp : c.config.sliceProfiles with
  | none =>
    rw [hp] at hprofile
    cases hprofile
  | some profiles =>
    rw [hp, Option.getD_some] at hprofile
    cases hf : profiles.find? (fun slice => decide (slice.sliceId = sliceId)) with
    | none => exact absurd (decide_eq_true hid) (List.find?_eq_none.1 hf profile hprofile)
    | some found =>
      refine ⟨found, except_bind_ok.2 ⟨profiles, iterate_ok_iff.2 hp, ?_⟩⟩
      simp only [hf]
      rfl

theorem dnnsOf_profile (h : dnn ∈ dnnsOf c slice) :
    ∃ profile ∈ c.profiles, profile.sliceId = slice.sliceId ∧ dnnsOf c slice = profile.dnnList := by
  unfold dnnsOf at h ⊢
  cases hf : c.profiles.find? (fun profile => decide (profile.sliceId = slice.sliceId)) with
  | none =>
    rw [hf] at h
    cases h
  | some profile =>
    have hmap : KeyedList.toMap SubSliceProfiles.sliceId c.profiles slice.sliceId = some profile := hf
    exact ⟨profile, KeyedList.toMap_some_mem hmap, KeyedList.toMap_some_key hmap, rfl⟩

section Configuration

variable (hclosed : c.Closed) (hkeys : c.KeysUnique)
include hclosed hkeys

theorem sliceReady_iff (hslice : slice ∈ offered c)
    (hnets : ∀ net ∈ c.config.networkEndpoints.dataNets,
      net.uplinkAmbr.isSome ∧ net.downlinkAmbr.isSome ∧ net.default5qi.isSome) :
    SliceReady validateInt c slice ↔ ∀ net ∈ c.config.networkEndpoints.dataNets, net.dnn ∈ dnnsOf c slice →
      net.pools ≠ [] ∧ (net.default5qi.bind validateInt).isSome := by
  constructor
  · rintro ⟨-, hready⟩ net hnet hdnn
    exact (dnnReady_iff validateInt c (getDnn_mem c hkeys.dataNets hnet) (hnets net hnet)).1 (hready net.dnn hdnn)
  · intro hall
    obtain ⟨area, harea, hin⟩ := List.mem_flatMap.1 hslice
    refine ⟨getSlice_of_hasProfile c (hclosed.areas area harea slice hin), ?_⟩
    intro dnn hdnn
    obtain ⟨profile, hprofile, -, hlist⟩ := dnnsOf_profile c hdnn
    obtain ⟨net, hnet, rfl⟩ := hclosed.profiles profile hprofile dnn (hlist ▸ hdnn)
    exact (dnnReady_iff validateInt c (getDnn_mem c hkeys.dataNets hnet) (hnets net hnet)).2 (hall net hnet hdnn)

omit hclosed

theorem dnnsOf_nodup (slice : SubSlices) : (dnnsOf c slice).Nodup := by
  cases hd : dnnsOf c slice with
  | nil => exact List.nodup_nil
  | cons dnn dnns =>
    have hmem : dnn ∈ dnnsOf c slice := by
      rw [hd]
      exact List.mem_cons_self
    obtain ⟨profile, hprofile, -, hlist⟩ := dnnsOf_profile c hmem
    rw [← hd, hlist]
    exact (List.nodup_flatMap.1 hkeys.dnns).1 profile hprofile

/-- A DNN belongs to the slices of one id. -/
theorem sliceId_of_shared_dnn (h : dnn ∈ dnnsOf c slice) (h' : dnn ∈ dnnsOf c slice') :
    slice.sliceId = slice'.sliceId := by
  obtain ⟨profile, hprofile, hid, hlist⟩ := dnnsOf_profile c h
  obtain ⟨profile', hprofile', hid', hlist'⟩ := dnnsOf_profile c h'
  rw [hlist] at h
  rw [hlist'] at h'
  have hsame : profile = profile' := by
    by_contra hne
    have hsymm : Std.Symm (Function.onFun List.Disjoint SubSliceProfiles.dnnList) :=
      ⟨fun _ _ hd => List.Disjoint.symm hd⟩
    exact ((List.nodup_flatMap.1 hkeys.dnns).2.forall hprofile hprofile' hne) h h'
  rw [← hid, ← hid', hsame]

/-! ### The values of a representable configuration -/

theorem pairs_nodup (h : ((offered c).map snssaiOf).Nodup) :
    ((offered c).flatMap (fun slice => (dnnsOf c slice).map (Prod.mk (snssaiOf slice)))).Nodup := by
  rw [List.nodup_flatMap]
  constructor
  · intro slice _
    exact (dnnsOf_nodup c hkeys slice).map (Prod.mk_right_injective _)
  · refine (List.pairwise_map.1 h).imp ?_
    intro slice slice' hne p hp hp'
    obtain ⟨_, _, rfl⟩ := List.mem_map.1 hp
    obtain ⟨_, _, he⟩ := List.mem_map.1 hp'
    exact hne (congrArg Prod.fst he).symm

theorem offered_dnns_nodup
    (h : (((offered c).filter (fun slice => decide (dnnsOf c slice ≠ []))).map (fun slice => (snssaiOf slice).sd)).Nodup) :
    ((offered c).flatMap (dnnsOf c)).Nodup := by
  rw [List.nodup_flatMap]
  refine ⟨fun slice _ => dnnsOf_nodup c hkeys slice, ?_⟩
  have hpair := List.pairwise_filter.1 (List.pairwise_map.1 h)
  refine hpair.imp ?_
  intro slice slice' hne dnn hdnn hdnn'
  have hid := sliceId_of_shared_dnn c hkeys hdnn hdnn'
  refine hne (decide_eq_true (List.ne_nil_of_mem hdnn)) (decide_eq_true (List.ne_nil_of_mem hdnn')) ?_
  rw [snssaiOf, snssaiOf, hid]

end Configuration

theorem sliceEntries_names (hready : ∀ dnn ∈ dnnsOf c slice, DnnReady validateInt c (snssaiOf slice) dnn) :
    (sliceEntries validateInt c slice).map (fun p => ((p.1.singleNssai, p.1.dnn), p.2.dnn)) =
      (dnnsOf c slice).map (fun dnn => ((snssaiOf slice, dnn), dnn)) := by
  rw [sliceEntries, List.map_flatMap, List.map_eq_flatMap]
  refine List.flatMap_congr ?_
  intro dnn hdnn
  obtain ⟨⟨info, entry⟩, hdata⟩ := hready dnn hdnn
  obtain ⟨hinfo, hentry⟩ := dnnData_names validateInt c hdata
  rw [dnnEntries, hdata]
  change [((info.singleNssai, info.dnn), entry.dnn)] = [((snssaiOf slice, dnn), dnn)]
  rw [hinfo, hentry]

theorem offered_entries_names (hready : ∀ slice ∈ offered c, SliceReady validateInt c slice) :
    ((offered c).flatMap (sliceEntries validateInt c)).map (fun p => ((p.1.singleNssai, p.1.dnn), p.2.dnn)) =
      (offered c).flatMap (fun slice => (dnnsOf c slice).map (fun dnn => ((snssaiOf slice, dnn), dnn))) := by
  rw [List.map_flatMap]
  exact List.flatMap_congr (fun slice hslice => sliceEntries_names validateInt c (hready slice hslice).2)

/-- A list without duplicates under a renaming is rebuilt as it is. -/
theorem foldl_appendNew_of_map [DecidableEq α] {xs : List α} (f : α → β) (h : (xs.map f).Nodup) :
    xs.foldl appendNew [] = xs :=
  foldl_appendNew h.of_map

theorem finalValues_infos_names (hkeys : c.KeysUnique) (hreturning : Returning validateInt c edgeAreas) :
    (finalValues validateInt c mcc mnc edgeAreas).localSubscriptionInfos.map (fun info => (info.singleNssai, info.dnn)) =
      (offered c).flatMap (fun slice => (dnnsOf c slice).map (Prod.mk (snssaiOf slice))) := by
  have hnames : (((offered c).flatMap (sliceEntries validateInt c)).map Prod.fst).map
      (fun info => (info.singleNssai, info.dnn)) =
      (offered c).flatMap (fun slice => (dnnsOf c slice).map (Prod.mk (snssaiOf slice))) := by
    have h := congrArg (List.map Prod.fst) (offered_entries_names validateInt c hreturning.ready)
    simp only [List.map_flatMap, List.map_map] at h ⊢
    exact h
  rw [finalValues_infos, foldl_appendNew_of_map (fun info => (info.singleNssai, info.dnn)), hnames]
  rw [hnames]
  exact pairs_nodup c hkeys hreturning.snssais

theorem finalValues_dnns_names (hkeys : c.KeysUnique) (hreturning : Returning validateInt c edgeAreas)
    (hsds : (((offered c).filter (fun slice => decide (dnnsOf c slice ≠ []))).map (fun slice => (snssaiOf slice).sd)).Nodup) :
    (finalValues validateInt c mcc mnc edgeAreas).dnns.map OaiDnn.dnn = (offered c).flatMap (dnnsOf c) := by
  have hnames : (((offered c).flatMap (sliceEntries validateInt c)).map Prod.snd).map OaiDnn.dnn =
      (offered c).flatMap (dnnsOf c) := by
    have h := congrArg (List.map Prod.snd) (offered_entries_names validateInt c hreturning.ready)
    simp only [List.map_flatMap, List.map_map] at h ⊢
    exact h.trans (List.flatMap_congr (fun slice _ => List.map_id _))
  rw [finalValues_dnns, foldl_appendNew_of_map OaiDnn.dnn, hnames]
  rw [hnames]
  exact offered_dnns_nodup c hkeys hsds

theorem finalValues_smf_eq (hkeys : c.KeysUnique)
    (hsds : (((offered c).filter (fun slice => decide (dnnsOf c slice ≠ []))).map (fun slice => (snssaiOf slice).sd)).Nodup) :
    (finalValues validateInt c mcc mnc edgeAreas).sNssaiSmfInfoList =
      ((offered c).filter (fun slice => decide (dnnsOf c slice ≠ []))).map (fun slice => ⟨snssaiOf slice, dnnsOf c slice⟩) := by
  have hgroups := foldl_growFirst_groups
    (fun (k : Snssai) (item : SNssaiSmfInfoListItem) => decide (item.sNssai.sd = k.sd))
    (fun dnn item => { item with dnnSmfInfoList := appendNew item.dnnSmfInfoList dnn })
    (fun k dnns => { sNssai := k, dnnSmfInfoList := dnns })
    (fun _ _ _ => rfl) (fun _ _ => decide_eq_true rfl)
    ((offered c).map (fun slice => (snssaiOf slice, dnnsOf c slice)))
    (by
      intro g hg
      obtain ⟨slice, _, rfl⟩ := List.mem_map.1 hg
      exact dnnsOf_nodup c hkeys slice)
    [] (fun item hitem => absurd hitem List.not_mem_nil)
    (by
      rw [List.filter_map, List.pairwise_map]
      refine (List.pairwise_map.1 hsds).imp ?_
      intro slice slice' hne dnns
      exact decide_eq_false hne)
  rw [List.flatMap_map, List.filter_map, List.map_map, List.nil_append] at hgroups
  rw [finalValues_smf]
  exact hgroups

theorem finalValues_plmn_eq (hareas : KeyedList.Unique SubArea.id c.areas) (hsnssais : ((offered c).map snssaiOf).Nodup) :
    (finalValues validateInt c mcc mnc edgeAreas).plmnSupportList =
      (c.areas.filter (fun area => decide (areaSlices area ≠ []))).map
        (fun area => ⟨mcc, mnc, area.id, (areaSlices area).map snssaiOf⟩) := by
  have hempty : (c.areas.filter (fun area => decide ((areaSlices area).map snssaiOf ≠ []))) =
      c.areas.filter (fun area => decide (areaSlices area ≠ [])) := by
    refine List.filter_congr ?_
    intro area _
    simp only [ne_eq, List.map_eq_nil_iff]
  have hgroups := foldl_growFirst_groups
    (fun (k : Int) (item : PlmnSupportListItem) => decide (item.mcc = mcc ∧ item.mnc = mnc ∧ item.tac = k))
    (fun nssai item => { item with nssai := appendNew item.nssai nssai })
    (fun k nssais => { mcc := mcc, mnc := mnc, tac := k, nssai := nssais })
    (fun _ _ _ => rfl) (fun _ _ => decide_eq_true ⟨rfl, rfl, rfl⟩)
    (c.areas.map (fun area => (area.id, (areaSlices area).map snssaiOf)))
    (by
      intro g hg
      obtain ⟨area, harea, rfl⟩ := List.mem_map.1 hg
      rw [offered, List.map_flatMap] at hsnssais
      exact (List.nodup_flatMap.1 hsnssais).1 area harea)
    [] (fun item hitem => absurd hitem List.not_mem_nil)
    (by
      rw [List.filter_map, List.pairwise_map]
      refine List.Pairwise.filter _ ((List.pairwise_map.1 hareas).imp ?_)
      intro area area' hne nssais
      exact decide_eq_false (fun h => hne h.2.2))
  rw [List.flatMap_map, List.filter_map, List.map_map, List.nil_append] at hgroups
  rw [finalValues_plmn, ← hempty]
  exact hgroups

theorem upfHost_injective : Function.Injective upfHost := by
  intro a b h
  have hlist := congrArg String.toList h
  simp only [upfHost, String.toList_append] at hlist
  exact Int.repr_injective (String.toList_injective (List.append_cancel_left hlist))

theorem hosts_nodup (hareas : KeyedList.Unique SubArea.id c.areas) :
    (c.areas.map (fun area => upfHost area.id)).Nodup := by
  have h := List.Nodup.map upfHost_injective hareas
  rw [List.map_map] at h
  exact h

theorem finalValues_upfs_hosts (hareas : KeyedList.Unique SubArea.id c.areas) :
    (finalValues validateInt c mcc mnc edgeAreas).upfs.map UpfAvailable.host = c.areas.map (fun area => upfHost area.id) := by
  have hnames : (c.areas.map (fun area => (⟨upfHost area.id⟩ : UpfAvailable))).map UpfAvailable.host =
      c.areas.map (fun area => upfHost area.id) := by
    rw [List.map_map]
    rfl
  rw [finalValues_upfs, foldl_appendNew_of_map UpfAvailable.host, hnames]
  rw [hnames]
  exact hosts_nodup c hareas

theorem aliases_hosts (hupfs : ∀ area ∈ c.areas, ∃ ip, deployedUpfIp edgeAreas area.id = .ok ip) :
    (c.areas.flatMap (fun area => areaAliases edgeAreas area.id)).map HostAliase.hostnames =
      c.areas.map (fun area => upfHost area.id) := by
  rw [List.map_flatMap, List.map_eq_flatMap]
  refine List.flatMap_congr ?_
  intro area harea
  obtain ⟨ip, hip⟩ := hupfs area harea
  rw [areaAliases, hip]
  rfl

theorem offered_dedup (h : ((offered c).map snssaiOf).Nodup) : (offered c).dedup = offered c :=
  List.Nodup.dedup h.of_map

theorem finalValues_represents (hkeys : c.KeysUnique) (hreturning : Returning validateInt c edgeAreas)
    (hsds : (((offered c).filter (fun slice => decide (dnnsOf c slice ≠ []))).map (fun slice => (snssaiOf slice).sd)).Nodup) :
    Represents c (finalValues validateInt c mcc mnc edgeAreas) where
  snssais := by
    rw [finalValues_snssais, offered_dedup c hreturning.snssais]
  plmnSupportList := by
    rw [finalValues_plmn_eq validateInt c mcc mnc edgeAreas hkeys.areas hreturning.snssais, List.map_map]
    rfl
  dnns_once := by
    rw [finalValues_dnns_names validateInt c mcc mnc edgeAreas hkeys hreturning hsds]
    exact offered_dnns_nodup c hkeys hsds
  dnns := by
    intro dnn
    rw [finalValues_dnns_names validateInt c mcc mnc edgeAreas hkeys hreturning hsds, List.mem_flatMap]
  sNssaiSmfInfoList := by
    rw [finalValues_smf_eq validateInt c mcc mnc edgeAreas hkeys hsds, offered_dedup c hreturning.snssais]
  localSubscriptionInfos := by
    rw [finalValues_infos_names validateInt c mcc mnc edgeAreas hkeys hreturning, offered_dedup c hreturning.snssais]
  upfs := by
    rw [finalValues_upfs_hosts validateInt c mcc mnc edgeAreas hkeys.areas]
  hostAliases := by
    rw [finalValues_hostAliases, aliases_hosts c edgeAreas hreturning.upfs]

theorem finalValues_smf_sds :
    ((finalValues validateInt c mcc mnc edgeAreas).sNssaiSmfInfoList.map (fun item => item.sNssai.sd)).Nodup := by
  rw [finalValues_smf]
  have hfold : ∀ (ps : List (Snssai × String)) (items : List SNssaiSmfInfoListItem),
      (items.map (fun item => item.sNssai.sd)).Nodup → ((ps.foldl smfAdd items).map (fun item => item.sNssai.sd)).Nodup := by
    intro ps
    induction ps with
    | nil =>
      intro items h
      exact h
    | cons p ps ih =>
      intro items h
      exact ih _ (growFirst_keys (fun item : SNssaiSmfInfoListItem => item.sNssai.sd) (fun _ => rfl)
        (fun _ => decide_eq_true_iff) h)
  exact hfold _ [] List.nodup_nil

/-- Slices with DNNs that have one `sd` would share an item. -/
theorem Represents.sds (h : Represents c (finalValues validateInt c mcc mnc edgeAreas))
    (hsnssais : ((offered c).map snssaiOf).Nodup) :
    (((offered c).filter (fun slice => decide (dnnsOf c slice ≠ []))).map (fun slice => (snssaiOf slice).sd)).Nodup := by
  have hperm := h.sNssaiSmfInfoList.map (fun item => item.sNssai.sd)
  have hnodup := hperm.nodup_iff.1 (finalValues_smf_sds validateInt c mcc mnc edgeAreas)
  rw [offered_dedup c hsnssais, List.map_map] at hnodup
  exact hnodup

theorem update_core_values_represents (r : OaiState) (hclosed : c.Closed) (hkeys : c.KeysUnique) (hprovided : Provided c r) :
    Rebuilds validateInt c r ↔ Representable validateInt c := by
  constructor
  · rintro ⟨values, hrepresents, hrun, -⟩
    obtain ⟨hreturning, hs⟩ := (updateCoreValues_ok_iff validateInt c r).1 hrun
    cases hs
    refine ⟨hreturning.slices, hreturning.snssais, hrepresents.sds validateInt c r.mcc r.mnc r.edgeAreas hreturning.snssais, ?_⟩
    intro slice hslice
    exact (sliceReady_iff validateInt c hclosed hkeys hslice hprovided.dnns).1 (hreturning.ready slice hslice)
  · intro h
    have haliases : (c.areas.flatMap (fun area => areaAliases r.edgeAreas area.id)).Nodup := by
      refine List.Nodup.of_map HostAliase.hostnames ?_
      rw [aliases_hosts c r.edgeAreas hprovided.upfs]
      exact hosts_nodup c hkeys.areas
    have hreturning : Returning validateInt c r.edgeAreas :=
      { aliases := haliases
        upfs := hprovided.upfs
        snssais := h.snssais
        slices := h.slices
        ready := fun slice hslice =>
          (sliceReady_iff validateInt c hclosed hkeys hslice hprovided.dnns).2 (h.dnns slice hslice) }
    exact ⟨_, finalValues_represents validateInt c r.mcc r.mnc r.edgeAreas hkeys hreturning h.sds,
      (updateCoreValues_ok_iff validateInt c r).2 ⟨hreturning, rfl⟩,
      (updateCoreValues_ok_iff validateInt c _).2 ⟨hreturning, rfl⟩⟩

end Values

/-- The campus configuration with the AMBR and 5qi values of its DNN. -/
def campusCore (areas : List SubArea) : Create5gModel :=
  (campusConfig areas).setDataNets
    [{ netName := "dn", dnn := "internet", dns := "8.8.8.8", pools := [⟨"10.250.0.0/16"⟩],
       uplinkAmbr := some "100 Mbps", downlinkAmbr := some "100 Mbps", default5qi := some "9" }]

def campusEdge (areaId : Int) : EdgeAreaInfo where
  area := areaId
  upf := some {
    blueId := 0
    external := false
    routerGnbIp := campusAddress 3
    upfList := [{
      area := areaId
      networkInfo := some {
        n4Cidr := campusNetwork
        n3Cidr := campusNetwork
        n6Cidr := campusNetwork
        n4Ip := campusAddress 4
        n3Ip := campusAddress 5
        n6Ip := campusAddress 6 }
      vmResourceId := "vm"
      vmConfiguratorId := "conf" }]
    currentConfig := campusUpf [campusSlice] }

def campusOai : OaiState where
  edgeAreas := [campusEdge 1, campusEdge 2]
  mcc := "001"
  mnc := "01"

def campusOffer (id : Int) : SubArea := campusArea id (some [⟨.embb, "000001"⟩])

theorem campusCore_closed : (campusCore [campusOffer 1, campusOffer 2]).Closed :=
  ⟨by decide, by decide, by decide⟩

theorem campusCore_keys : (campusCore [campusOffer 1, campusOffer 2]).KeysUnique :=
  ⟨⟨by decide, by decide, by decide, by decide, by decide⟩, by decide⟩

theorem campusCore_provided : Provided (campusCore [campusOffer 1, campusOffer 2]) campusOai := by
  refine ⟨?_, by decide⟩
  intro area harea
  rcases List.mem_cons.1 harea with rfl | harea
  · exact ⟨campusAddress 4, rfl⟩
  · obtain rfl := List.mem_singleton.1 harea
    exact ⟨campusAddress 4, rfl⟩

/-- The slice is offered in one area; the other offers none. -/
theorem update_core_values_represents_campus :
    Rebuilds (fun _ => some 9) (campusCore [campusOffer 1, campusArea 2 (some [])]) campusOai := by
  refine (update_core_values_represents (fun _ => some 9) _ campusOai ⟨by decide, by decide, by decide⟩
    ⟨⟨by decide, by decide, by decide, by decide, by decide⟩, by decide⟩ ⟨?_, by decide⟩).2
    ⟨by decide, by decide +kernel, by decide +kernel, by decide +kernel⟩
  intro area harea
  rcases List.mem_cons.1 harea with rfl | harea
  · exact ⟨campusAddress 4, rfl⟩
  · obtain rfl := List.mem_singleton.1 harea
    exact ⟨campusAddress 4, rfl⟩

/-- The slice is offered in two areas: `add_snssai` refuses it the second time. -/
theorem update_core_values_represents_fails :
    ¬ ∀ (c : Create5gModel) (r : OaiState), c.Closed → c.KeysUnique → Provided c r → Rebuilds (fun _ => some 9) c r := by
  intro h
  obtain ⟨values, _, hrun, _⟩ := h _ campusOai campusCore_closed campusCore_keys campusCore_provided
  have hraised : Raised ((updateCoreValues (fun _ => some 9)).run
      ⟨some (campusCore [campusOffer 1, campusOffer 2]), campusOai⟩) := by
    decide +kernel
  rw [hrun] at hraised
  exact hraised

end OpenAirInterface

end Nfvcl
