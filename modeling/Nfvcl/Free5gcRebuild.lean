import Mathlib.Data.List.Basic
import Mathlib.Data.List.Dedup
import Mathlib.Data.List.Nodup
import Nfvcl.Free5gcAreas

namespace Nfvcl
set_option autoImplicit true
open Effects ListUpdates Loops Free5gc
open OpenAirInterface (areaSlices offered dnnsOf)

/-- What tells a slice from another. -/
def SubSlices.key (slice : SubSlices) : Int × String :=
  (slice.sliceType.toInt, slice.sliceId)

def Free5gc.Snssai.key (x : Free5gc.Snssai) : Int × String :=
  (x.sst, x.sd.text)

/-- The slices that a UPF lists, with their DNNs; a gNB has none. -/
def Free5gc.Node.slices : Node → Option (List ((Int × String) × List String))
  | .gnb => none
  | .upf node => some (node.sNssaiUpfInfos.map (fun info => (info.sNssai.key, info.dnnUpfInfoList.map DnnUpfInfoListItem.dnn)))

namespace Free5gcCore

section Configuration

variable (c : Create5gModel)

def servedSlices (area : SubArea) : List SubSlices :=
  (areaSlices area).filter (fun slice => decide (dnnsOf c slice ≠ []))

/-- The areas that offer a slice with a DNN. -/
def servedAreas : List SubArea :=
  c.areas.filter (fun area => decide (servedSlices c area ≠ []))

/-- The values list the offered slices, their DNNs and the areas, each once. -/
structure Represents (v : Free5gcCoreConfig) : Prop where
  plmnSupportList : ((v.plmnSupportList.flatMap PlmnItem.snssaiList).map Free5gc.Snssai.key).Perm ((offered c).dedup.map SubSlices.key)
  supportedNssaiInPlmnList : ((v.supportedNssaiInPlmnList.flatMap PlmnItem.snssaiList).map Free5gc.Snssai.key).Perm
    ((offered c).dedup.map SubSlices.key)
  nsiList : (v.nsiList.map (fun item => item.snssai.key)).Perm ((offered c).dedup.map SubSlices.key)
  nsiIds : (v.nsiList.map NsiListItem.nsiId).Nodup
  snssaiInfos : (v.snssaiInfos.map (fun info => (info.sNssai.key, info.dnnInfos.map DnnInfo.dnn))).Perm
    (((offered c).dedup.filter (fun slice => decide (dnnsOf c slice ≠ []))).map (fun slice => (slice.key, dnnsOf c slice)))
  supportTaiList : (v.supportTaiList.map (fun tai => tai.tac.text)).Perm (c.areas.map (fun area => tacOf area.id))
  taList : (v.taList.map (fun el => (el.tai.tac.text, el.supportedSnssaiList.map Free5gc.Snssai.key))).Perm
    ((c.areas.filter (fun area => decide (areaSlices area ≠ []))).map (fun area => (tacOf area.id, (areaSlices area).map SubSlices.key)))
  upNodes : (v.upNodes.map (fun p => (p.1, p.2.slices))).Perm ((servedAreas c).flatMap (fun area =>
    [(upfName area.id, some ((servedSlices c area).map (fun slice => (slice.key, dnnsOf c slice)))), (gnbName area.id, none)]))
  links : v.links.Perm ((servedAreas c).map (fun area => ⟨gnbName area.id, upfName area.id⟩))

/-- The states that differ from a state in the contents of the values only. The chart's settings are no
contents, and neither is the address of the SMF where the blueprint has none. -/
structure SameSettings (r r₀ : Free5gcState) : Prop where
  edgeAreas : r₀.edgeAreas = r.edgeAreas
  plmn : r₀.mcc = r.mcc ∧ r₀.mnc = r.mnc
  smfIp : r₀.smfIp = r.smfIp
  chart : r₀.values.scheme = r.values.scheme ∧ r₀.values.nrfServiceName = r.values.nrfServiceName ∧
    r₀.values.nrfServicePort = r.values.nrfServicePort
  address : r.smfIp.getD "" = "" → r₀.values.smfIp = r.values.smfIp

/-- `update_core_values` returns with the values of the configuration, whatever values there were. -/
def Rebuilds (r : Free5gcState) : Prop :=
  ∃ n, ∀ depth, n ≤ depth → ∃ r', Represents c r'.values ∧
    ∀ r₀, SameSettings r r₀ → (updateCoreValues depth).run ⟨some c, r₀⟩ = .ok () ⟨some c, r'⟩

/-- Every area has a list of slices and a number of at most six digits, no slice is offered twice, and
every DNN that is offered has a pool. -/
structure Rebuildable : Prop where
  slices : ∀ area ∈ c.areas, area.slices ≠ none
  ids : ∀ area ∈ c.areas, 0 ≤ area.id ∧ area.id < 10 ^ 6
  snssais : ((offered c).map SubSlices.key).Nodup
  pools : ∀ slice ∈ offered c, ∀ net ∈ c.config.networkEndpoints.dataNets, net.dnn ∈ dnnsOf c slice → net.pools ≠ []

/-- Every area has a deployed UPF. -/
def Deployed (edge : List EdgeAreaInfo) : Prop :=
  ∀ area ∈ c.areas, ∃ upf info, deployedUpf edge area.id = .ok upf ∧ upf.networkInfo = some info

variable {c}

/-! ### The plan of a configuration -/

theorem sliceIds_codes (hclosed : c.Closed) (hids : c.ValidSliceIds) :
    ∀ area ∈ c.areas, ∀ slice ∈ area.slices.getD [], IsCode slice.sliceId := by
  intro area harea slice hslice
  obtain ⟨profile, hprofile, hid⟩ := hclosed.areas area harea slice hslice
  exact hid ▸ hids profile hprofile

theorem getSlice_mem (h : OpenAirInterface.getSlice c sliceId = .ok profile) : profile ∈ c.profiles := by
  obtain ⟨profiles, hiterate, h⟩ := except_bind_ok.1 h
  have hprofiles := OpenAirInterface.iterate_ok_iff.1 hiterate
  cases hf : profiles.find? (fun slice => decide (slice.sliceId = sliceId)) with
  | none =>
    rw [hf] at h
    cases h
  | some found =>
    rw [hf] at h
    cases h
    rw [Create5gModel.profiles, hprofiles]
    exact List.mem_of_find?_eq_some hf

theorem plannable (hclosed : c.Closed) (hkeys : c.KeysUnique) (hids : c.ValidSliceIds) (hupfs : Deployed c edge) : Plannable c edge where
  upfs := hupfs
  sliceIds := sliceIds_codes hclosed hids
  dnns := fun _ profile h => (List.nodup_flatMap.1 hkeys.dnns).1 profile (getSlice_mem h)
  areas := hkeys.areas

theorem planSlice_key (h : planSlice c slice = some p) (hcode : IsCode slice.sliceId) :
    slice.key = p.snssai.key ∧ dnnsOf c slice = p.dnns.map PlannedDnn.name := by
  obtain ⟨sd, profile, dnns, hsd, hprofile, hdnns, rfl⟩ := planSlice_eq_some_iff.1 h
  cases (check_text ⟨slice.sliceId, hcode⟩).symm.trans hsd
  refine ⟨rfl, ?_⟩
  rw [OpenAirInterface.dnnsOf_eq c hprofile, ← hdnns.map_eq (f := fun dnn => dnn), List.map_id']
  intro dnn _ d hd
  obtain ⟨net, cidr, -, -, rfl⟩ := planDnn_eq_some_iff.1 hd
  rfl

theorem exists_planDnn_iff (hkeys : c.KeysUnique) (hnet : net ∈ c.config.networkEndpoints.dataNets) :
    (∃ d, planDnn c net.dnn = some d) ↔ net.pools ≠ [] := by
  have hget := OpenAirInterface.getDnn_mem c hkeys.dataNets hnet
  constructor
  · rintro ⟨d, hd⟩ hnil
    obtain ⟨net', cidr, hnet', hcidr, -⟩ := planDnn_eq_some_iff.1 hd
    cases hget.symm.trans hnet'
    rw [OpenAirInterface.firstCidr, hnil] at hcidr
    cases hcidr
  · intro hne
    obtain ⟨pool, pools, hpools⟩ := List.exists_cons_of_ne_nil hne
    refine ⟨_, planDnn_eq_some_iff.2 ⟨net, pool.cidr, hget, ?_, rfl⟩⟩
    rw [OpenAirInterface.firstCidr, hpools]

theorem exists_planSlice_iff (hclosed : c.Closed) (hkeys : c.KeysUnique) (hprofile : c.HasProfile slice.sliceId) (hcode : IsCode slice.sliceId) :
    (∃ p, planSlice c slice = some p) ↔ ∀ net ∈ c.config.networkEndpoints.dataNets, net.dnn ∈ dnnsOf c slice → net.pools ≠ [] := by
  have hcheck := check_text ⟨slice.sliceId, hcode⟩
  obtain ⟨profile, hget⟩ := OpenAirInterface.getSlice_of_hasProfile c hprofile
  have hdnns := OpenAirInterface.dnnsOf_eq c hget
  constructor
  · rintro ⟨p, hp⟩ net hnet hdnn
    obtain ⟨sd, profile', ds, hsd, hget', hds, -⟩ := planSlice_eq_some_iff.1 hp
    cases hcheck.symm.trans hsd
    cases hget.symm.trans hget'
    obtain ⟨d, -, hd⟩ := hds.exists_of_mem (hdnns ▸ hdnn)
    exact (exists_planDnn_iff hkeys hnet).1 ⟨d, hd⟩
  · intro hpools
    have hall : ∀ dnn ∈ profile.dnnList, ∃ d, planDnn c dnn = some d := by
      intro dnn hdnn
      obtain ⟨net, hnet, rfl⟩ := hclosed.profiles profile (getSlice_mem hget) dnn hdnn
      exact (exists_planDnn_iff hkeys hnet).2 (hpools net hnet (hdnns ▸ hdnn))
    obtain ⟨ds, hds⟩ := exists_planned hall
    exact ⟨_, planSlice_eq_some_iff.2 ⟨_, profile, ds, hcheck, hget, hds, rfl⟩⟩

theorem planned_slices (hclosed : c.Closed) (hids : c.ValidSliceIds) (harea : area ∈ c.areas) (ha : planArea c edge area = some a) :
    Planned (planSlice c) (areaSlices area) a.slices ∧ ∀ slice ∈ areaSlices area, ∀ p, planSlice c slice = some p →
      slice.key = p.snssai.key ∧ dnnsOf c slice = p.dnns.map PlannedDnn.name := by
  obtain ⟨upf, info, tac, slices, planned, -, -, -, hslices, hplanned, rfl⟩ := planArea_eq_some_iff.1 ha
  have hlist : areaSlices area = slices := by
    rw [areaSlices, hslices]
    rfl
  refine ⟨hlist ▸ hplanned, ?_⟩
  intro slice hslice p hp
  exact planSlice_key hp (sliceIds_codes hclosed hids area harea slice hslice)

theorem planned_keys (hclosed : c.Closed) (hids : c.ValidSliceIds) (h : Planned (planArea c edge) c.areas plan) :
    (offered c).map SubSlices.key = (snssais plan).map Free5gc.Snssai.key := by
  rw [offered, snssais, slicesOf, List.map_flatMap, List.map_map, List.map_flatMap]
  refine h.flatMap_eq ?_
  intro area harea a ha
  obtain ⟨hplanned, hkeys⟩ := planned_slices hclosed hids harea ha
  exact hplanned.map_eq fun slice hslice p hp => (hkeys slice hslice p hp).1

theorem snssai_key_injective : Function.Injective Free5gc.Snssai.key := by
  rintro ⟨sst, sd, hsd⟩ ⟨sst', sd', hsd'⟩ h
  cases h
  rfl

/-- A configuration has a plan without repeated slices exactly if it is rebuildable. -/
theorem rebuildable_iff (hclosed : c.Closed) (hkeys : c.KeysUnique) (hids : c.ValidSliceIds) (hupfs : Deployed c edge) :
    Rebuildable c ↔ ∃ plan, Planned (planArea c edge) c.areas plan ∧ (snssais plan).Nodup := by
  constructor
  · intro h
    have hall : ∀ area ∈ c.areas, ∃ a, planArea c edge area = some a := by
      intro area harea
      obtain ⟨upf, info, hupf, hinfo⟩ := hupfs area harea
      obtain ⟨slices, hslices⟩ := Option.ne_none_iff_exists'.1 (h.slices area harea)
      obtain ⟨tac, htac⟩ := check_accepted ((accepted_tacOf_iff area.id).2 (h.ids area harea))
      have hslice : ∀ slice ∈ slices, ∃ p, planSlice c slice = some p := by
        intro slice hslice
        have hin : slice ∈ area.slices.getD [] := by
          rw [hslices]
          exact hslice
        exact (exists_planSlice_iff hclosed hkeys (hclosed.areas area harea slice hin) (sliceIds_codes hclosed hids area harea slice hin)).2
          (h.pools slice (List.mem_flatMap.2 ⟨area, harea, hin⟩))
      obtain ⟨planned, hplanned⟩ := exists_planned hslice
      exact ⟨_, planArea_eq_some_iff.2 ⟨upf, info, tac, slices, planned, hupf, hinfo, htac, hslices, hplanned, rfl⟩⟩
    obtain ⟨plan, hplan⟩ := exists_planned hall
    refine ⟨plan, hplan, List.Nodup.of_map Free5gc.Snssai.key ?_⟩
    rw [← planned_keys hclosed hids hplan]
    exact h.snssais
  · rintro ⟨plan, hplan, hnodup⟩
    refine ⟨?_, ?_, ?_, ?_⟩
    · intro area harea hnone
      obtain ⟨a, -, ha⟩ := hplan.exists_of_mem harea
      obtain ⟨_, _, _, slices, _, -, -, -, hslices, -⟩ := planArea_eq_some_iff.1 ha
      rw [hnone] at hslices
      cases hslices
    · intro area harea
      obtain ⟨a, -, ha⟩ := hplan.exists_of_mem harea
      obtain ⟨_, _, tac, _, _, -, -, htac, -⟩ := planArea_eq_some_iff.1 ha
      rw [← accepted_tacOf_iff]
      by_contra hnot
      rw [check_refused hnot] at htac
      cases htac
    · rw [planned_keys hclosed hids hplan]
      exact hnodup.map snssai_key_injective
    · intro slice hslice
      obtain ⟨area, harea, hin⟩ := List.mem_flatMap.1 hslice
      obtain ⟨a, -, ha⟩ := hplan.exists_of_mem harea
      obtain ⟨p, -, hp⟩ := (planned_slices hclosed hids harea ha).1.exists_of_mem hin
      exact (exists_planSlice_iff hclosed hkeys (hclosed.areas area harea slice hin) (sliceIds_codes hclosed hids area harea slice hin)).1 ⟨p, hp⟩

/-! ### The values that are listed -/

theorem flatMap_plmnItems (plmn : PlmnId) (xs : List Free5gc.Snssai) : (plmnItems plmn xs).flatMap PlmnItem.snssaiList = xs := by
  unfold plmnItems
  split
  · rename_i hnil
    rw [hnil]
    rfl
  · simp

theorem dnns_empty_iff {p : PlannedSlice} (h : dnnsOf c slice = p.dnns.map PlannedDnn.name) :
    decide (dnnsOf c slice ≠ []) = decide (p.dnns ≠ []) := by
  rw [h]
  simp

theorem served_planned (hclosed : c.Closed) (hids : c.ValidSliceIds) (harea : area ∈ c.areas) (ha : planArea c edge area = some a) :
    Planned (planSlice c) (servedSlices c area) (withDnns a.slices) := by
  obtain ⟨hplanned, hkeys⟩ := planned_slices hclosed hids harea ha
  exact hplanned.filter fun slice hslice p hp => dnns_empty_iff (hkeys slice hslice p hp).2

theorem served_eq (hclosed : c.Closed) (hids : c.ValidSliceIds) (harea : area ∈ c.areas) (ha : planArea c edge area = some a)
    (g : PlannedSlice → (Int × String) × List String) (hg : ∀ p, g p = (p.snssai.key, p.dnns.map PlannedDnn.name)) :
    (servedSlices c area).map (fun slice => (slice.key, dnnsOf c slice)) = (withDnns a.slices).map g := by
  refine (served_planned hclosed hids harea ha).map_eq ?_
  intro slice hslice p hp
  obtain ⟨hkey, hdnns⟩ := (planned_slices hclosed hids harea ha).2 slice (List.mem_filter.1 hslice).1 p hp
  rw [hg, hkey, hdnns]

theorem planned_nil_iff {xs : List α} {bs : List β} {f : α → Option β} (h : Planned f xs bs) : xs = [] ↔ bs = [] := by
  cases h with
  | nil => exact ⟨fun _ => rfl, fun _ => rfl⟩
  | cons => exact ⟨fun hbad => (nomatch hbad), fun hbad => (nomatch hbad)⟩

theorem flatMap_tas (plmn : PlmnId) (plan : List PlannedArea) : plan.flatMap (PlannedArea.tas plmn) =
    (plan.filter (fun a => decide (¬ a.slices = []))).flatMap (fun a => [⟨⟨plmn, a.tac⟩, a.slices.map PlannedSlice.snssai⟩]) :=
  flatMap_unless _ plan

theorem flatMap_nodes (plan : List PlannedArea) : plan.flatMap PlannedArea.nodes =
    (plan.filter (fun a => decide (¬ withDnns a.slices = []))).flatMap (fun a => [(upfName a.id, a.upf), (gnbName a.id, .gnb)]) :=
  flatMap_unless _ plan

theorem flatMap_links (plan : List PlannedArea) : plan.flatMap PlannedArea.links =
    (plan.filter (fun a => decide (¬ withDnns a.slices = []))).flatMap (fun a => [⟨gnbName a.id, upfName a.id⟩]) :=
  flatMap_unless _ plan

theorem Listed.represents (hclosed : c.Closed) (hids : c.ValidSliceIds) (hplan : Planned (planArea c edge) c.areas plan)
    (h : Listed plmn k j plan v) : Represents c v := by
  have hkeys := planned_keys hclosed hids hplan
  have hdedup : (offered c).dedup = offered c := by
    refine List.Nodup.dedup (List.Nodup.of_map SubSlices.key ?_)
    rw [hkeys]
    exact h.distinct.map snssai_key_injective
  have harea : ∀ area ∈ c.areas, ∀ a, planArea c edge area = some a → area.id = a.id ∧ tacOf area.id = a.tac.text := by
    intro area _ a ha
    obtain ⟨_, _, tac, _, _, -, -, htac, -, -, rfl⟩ := planArea_eq_some_iff.1 ha
    exact ⟨rfl, (check_tacOf htac).symm⟩
  have hoffering : Planned (planArea c edge) (c.areas.filter (fun area => decide (areaSlices area ≠ [])))
      (plan.filter (fun a => decide (¬ a.slices = []))) := by
    refine hplan.filter fun area hin a ha => decide_eq_decide.2 (not_congr ?_)
    exact planned_nil_iff (planned_slices hclosed hids hin ha).1
  have hserved : Planned (planArea c edge) (servedAreas c) (plan.filter (fun a => decide (¬ withDnns a.slices = []))) := by
    refine hplan.filter fun area hin a ha => decide_eq_decide.2 (not_congr ?_)
    exact planned_nil_iff (served_planned hclosed hids hin ha)
  exact
    { plmnSupportList := by
        rw [h.plmnSupportList, flatMap_plmnItems, hdedup, hkeys]
      supportedNssaiInPlmnList := by
        rw [h.supportedNssaiInPlmnList, flatMap_plmnItems, hdedup, hkeys]
      nsiList := by
        rw [hdedup, hkeys, ← h.nsiList, List.map_map]
        rfl
      nsiIds := h.nsiIds
      snssaiInfos := by
        rw [hdedup, h.snssaiInfos, List.map_map, offered, List.filter_flatMap, List.map_flatMap, withDnns, slicesOf, List.filter_flatMap,
          List.map_flatMap]
        refine List.Perm.of_eq (hplan.flatMap_eq ?_).symm
        intro area hin a ha
        refine served_eq hclosed hids hin ha _ fun p => ?_
        simp [PlannedSlice.info]
      supportTaiList := by
        rw [h.supportTaiList, List.map_map, hplan.map_eq (g := fun a => a.tac.text) fun area hin a ha => (harea area hin a ha).2]
        rfl
      taList := by
        rw [h.taList, flatMap_tas, List.map_flatMap, List.map_eq_flatMap]
        refine List.Perm.of_eq (hoffering.flatMap_eq ?_).symm
        intro area hin a ha
        have hmem := (List.mem_filter.1 hin).1
        obtain ⟨hplanned, hslices⟩ := planned_slices hclosed hids hmem ha
        have hsame : (areaSlices area).map SubSlices.key = (a.slices.map PlannedSlice.snssai).map Free5gc.Snssai.key := by
          rw [List.map_map]
          exact hplanned.map_eq fun slice hslice p hp => (hslices slice hslice p hp).1
        rw [List.map_singleton, (harea area hmem a ha).2, hsame]
      upNodes := by
        rw [h.upNodes, flatMap_nodes, List.map_flatMap]
        refine List.Perm.of_eq (hserved.flatMap_eq ?_).symm
        intro area hin a ha
        have hmem := (List.mem_filter.1 hin).1
        have hsame := served_eq hclosed hids hmem ha (fun p => (p.upfInfo.sNssai.key, p.upfInfo.dnnUpfInfoList.map DnnUpfInfoListItem.dnn))
          (fun p => by simp [PlannedSlice.upfInfo])
        have hupf : a.upf.slices = some ((withDnns a.slices).map
            (fun p => (p.upfInfo.sNssai.key, p.upfInfo.dnnUpfInfoList.map DnnUpfInfoListItem.dnn))) := by
          show some (((withDnns a.slices).map PlannedSlice.upfInfo).map _) = _
          rw [List.map_map]
          rfl
        rw [List.map_cons, List.map_singleton, (harea area hmem a ha).1, hsame, hupf]
        rfl
      links := by
        rw [h.links, flatMap_links, List.map_eq_flatMap]
        refine List.Perm.of_eq (hserved.flatMap_eq ?_).symm
        intro area hin a ha
        rw [(harea area (List.mem_filter.1 hin).1 a ha).1] }

/-! ### The whole method -/

def start (r : Free5gcState) : Free5gcState :=
  setPlmn (setSmfIp (clearCoreValues r))

theorem start_same (h : SameSettings r r₀) : start r₀ = start r := by
  obtain ⟨v, edge, mcc, mnc, smfIp, k, j⟩ := r
  obtain ⟨v₀, edge₀, mcc₀, mnc₀, smfIp₀, k₀, j₀⟩ := r₀
  obtain ⟨hedge, ⟨hmcc, hmnc⟩, hip, ⟨hscheme, hname, hport⟩, haddress⟩ := h
  dsimp only at hedge hmcc hmnc hip hscheme hname hport haddress
  subst hedge hmcc hmnc hip
  have hcleared : ∀ ip : String, Free5gcCoreConfig.setDefaultNrfPlmnd mcc₀ mnc₀ (v₀.clearCoreValues.setSmfIp ip) =
      Free5gcCoreConfig.setDefaultNrfPlmnd mcc₀ mnc₀ (v.clearCoreValues.setSmfIp ip) := by
    intro ip
    simp only [Free5gcCoreConfig.setDefaultNrfPlmnd, Free5gcCoreConfig.setSmfIp, Free5gcCoreConfig.clearCoreValues, hscheme, hname, hport]
  have hkept : ∀ w : Free5gcCoreConfig, w.clearCoreValues = w.clearCoreValues.setSmfIp w.smfIp := fun _ => rfl
  cases hsmf : smfIp₀ with
  | none =>
    have hsame := haddress (by rw [hsmf]; rfl)
    simp only [start, setPlmn, setSmfIp, clearCoreValues]
    rw [hkept v₀, hkept v, hsame, hcleared]
  | some ip =>
    by_cases hempty : ip = ""
    · have hsame := haddress (by rw [hsmf]; exact hempty)
      simp only [start, setPlmn, setSmfIp, clearCoreValues, if_pos hempty]
      rw [hkept v₀, hkept v, hsame, hcleared]
    · simp only [start, setPlmn, setSmfIp, clearCoreValues, if_neg hempty]
      rw [hcleared]

theorem setSmfIp_values (r : Free5gcState) : ∃ ip, setSmfIp (clearCoreValues r) =
    { clearCoreValues r with values := r.values.clearCoreValues.setSmfIp ip } := by
  unfold setSmfIp
  split
  · split
    · exact ⟨r.values.smfIp, rfl⟩
    · exact ⟨_, rfl⟩
  · exact ⟨r.values.smfIp, rfl⟩

theorem start_matches (r : Free5gcState) : Matches r.edgeAreas r.mcc r.mnc [] (start r) := by
  obtain ⟨ip, hip⟩ := setSmfIp_values r
  rw [start, hip]
  refine ⟨rfl, ⟨rfl, rfl⟩, ?_⟩
  exact
    { supportTaiList := rfl
      plmnSupportList := rfl
      supportedNssaiInPlmnList := rfl
      nsiList := rfl
      nsiIds := List.nodup_nil
      nsiBound := fun _ hitem => absurd hitem List.not_mem_nil
      amfSetBound := fun _ hitem => absurd hitem List.not_mem_nil
      taList := rfl
      snssaiInfos := rfl
      upNodes := rfl
      links := rfl
      distinct := List.nodup_nil
      ids := List.nodup_nil
      tacs := List.nodup_nil }

theorem updateCoreValues_run (r : Free5gcState) (depth : Nat) : (updateCoreValues depth).run ⟨some c, r⟩ =
    match (addAreas depth c).run (start r) with
    | .ok _ r' => .ok () ⟨some c, r'⟩
    | .error e r' => .error e ⟨some c, r'⟩ := by
  unfold updateCoreValues
  rw [run_bind_ok (modify _) _ rfl]
  have hconfig : (Generic5G.onConfig "areas" get).run (⟨some c, start r⟩ : Generic5GState Free5gcState) = .ok c ⟨some c, start r⟩ := by
    rw [Generic5G.onConfig_run]
    rfl
  refine (run_bind_ok _ _ hconfig).trans ?_
  rw [run_zoom]
  cases (addAreas depth c).run (start r) with
  | ok => rfl
  | error => rfl

theorem Rebuilds.rebuildable {r : Free5gcState} (h : Rebuilds c r) (hclosed : c.Closed) (hkeys : c.KeysUnique) (hids : c.ValidSliceIds)
    (hupfs : Deployed c r.edgeAreas) : Rebuildable c := by
  obtain ⟨n, hn⟩ := h
  obtain ⟨r', -, hrun⟩ := hn (n + 3) (by omega)
  have hself := hrun r ⟨rfl, ⟨rfl, rfl⟩, rfl, ⟨rfl, rfl, rfl⟩, fun _ => rfl⟩
  have hmeets := addAreas_meets (n := n) (plannable hclosed hkeys hids hupfs) (start_matches r)
  unfold Meets at hmeets
  rw [updateCoreValues_run] at hself
  cases hr : (addAreas (n + 3) c).run (start r) with
  | ok u s' =>
    rw [hr] at hmeets
    obtain ⟨plan, hplan, hmatches⟩ := hmeets
    exact (rebuildable_iff hclosed hkeys hids hupfs).2 ⟨plan, hplan, hmatches.listed.distinct⟩
  | error e s' =>
    rw [hr] at hself
    cases hself

theorem Rebuildable.rebuilds (h : Rebuildable c) (r : Free5gcState) (hclosed : c.Closed) (hkeys : c.KeysUnique) (hids : c.ValidSliceIds)
    (hupfs : Deployed c r.edgeAreas) : Rebuilds c r := by
  obtain ⟨plan, hplan, hnodup⟩ := (rebuildable_iff hclosed hkeys hids hupfs).1 h
  refine ⟨3, fun depth hdepth => ?_⟩
  obtain ⟨n, rfl⟩ : ∃ n, depth = n + 3 := ⟨depth - 3, by omega⟩
  have hmeets := addAreas_meets (n := n) (plannable hclosed hkeys hids hupfs) (start_matches r)
  unfold Meets at hmeets
  cases hr : (addAreas (n + 3) c).run (start r) with
  | ok u s' =>
    rw [hr] at hmeets
    obtain ⟨plan', hplan', hmatches⟩ := hmeets
    refine ⟨s', hmatches.listed.represents hclosed hids hplan', ?_⟩
    intro r₀ hsame
    rw [updateCoreValues_run, start_same hsame, hr]
  | error e s' =>
    rw [hr] at hmeets
    exact absurd hnodup (hmeets plan hplan)

theorem update_core_values_rebuilds (r : Free5gcState) (hclosed : c.Closed) (hkeys : c.KeysUnique) (hids : c.ValidSliceIds)
    (hupfs : Deployed c r.edgeAreas) : Rebuilds c r ↔ Rebuildable c :=
  ⟨fun h => h.rebuildable hclosed hkeys hids hupfs, fun h => h.rebuilds r hclosed hkeys hids hupfs⟩

end Configuration

open OpenAirInterface (campusCore campusOffer campusEdge campusCore_closed campusCore_keys)

def campusState : Free5gcState where
  values := { smfIp := "10.0.0.4", scheme := "http", nrfServiceName := "nrf-nnrf", nrfServicePort := 8000, defaultPlmnId := ⟨"001", "01"⟩ }
  edgeAreas := [campusEdge 1, campusEdge 2]
  mcc := "001"
  mnc := "01"

theorem campus_sliceIds (areas : List SubArea) : (campusCore areas).ValidSliceIds := by
  intro profile hprofile
  have hprofiles : (campusCore areas).profiles = (campusCore []).profiles := rfl
  have hall : ∀ profile ∈ (campusCore []).profiles, profile.sliceId = "000001" := by decide
  rw [hall profile (hprofiles ▸ hprofile)]
  decide

theorem campus_deployed (areas : List SubArea) (h : ∀ area ∈ areas, area.id = 1 ∨ area.id = 2) :
    Deployed (campusCore areas) campusState.edgeAreas := by
  intro area harea
  rcases h area harea with hid | hid
  · rw [hid]
    exact ⟨_, _, rfl, rfl⟩
  · rw [hid]
    exact ⟨_, _, rfl, rfl⟩

/-- The slice is offered in one area; the other offers none. -/
theorem update_core_values_rebuilds_campus : Rebuilds (campusCore [campusOffer 1, campusArea 2 (some [])]) campusState :=
  (update_core_values_rebuilds (c := campusCore [campusOffer 1, campusArea 2 (some [])]) campusState ⟨by decide, by decide, by decide⟩
    ⟨⟨by decide, by decide, by decide, by decide, by decide⟩, by decide⟩ (campus_sliceIds _) (campus_deployed _ (by decide))).2
    ⟨by decide, by decide, by decide +kernel, by decide +kernel⟩

/-- The slice is offered in two areas: the search for its place in the list of the NSSF does not end. -/
theorem update_core_values_rebuilds_fails : ¬ ∀ (c : Create5gModel) (r : Free5gcState),
    c.Closed → c.KeysUnique → c.ValidSliceIds → Deployed c r.edgeAreas → Rebuilds c r := by
  intro h
  have hids := campus_sliceIds [campusOffer 1, campusOffer 2]
  have hdeployed := campus_deployed [campusOffer 1, campusOffer 2] (by decide)
  have hrebuilds := h _ campusState campusCore_closed campusCore_keys hids hdeployed
  have hrebuildable := hrebuilds.rebuildable campusCore_closed campusCore_keys hids hdeployed
  exact absurd hrebuildable.snssais (by decide +kernel)

end Free5gcCore

end Nfvcl
