import Mathlib.Data.List.Basic
import Mathlib.Data.List.Nodup
import Nfvcl.Free5gcPlans
import Nfvcl.Loops
import Nfvcl.SliceIdText
import Nfvcl.SubscriberRecords

namespace Nfvcl
set_option autoImplicit true
open Effects ListUpdates Loops Free5gc

namespace Free5gcCore

/-! ### The codes of the tracking areas -/

theorem toString_toList (m : Nat) : (toString (m : Int)).toList = Nat.toDigits 10 m :=
  Nat.toList_repr

theorem tacOf_ofNat (m : Nat) : (tacOf m).toList = Numerals.padded 6 (Nat.toDigits 10 m) := by
  unfold tacOf
  rw [OpenAirInterface.zfill_eq_padded, toString_toList, String.toList_ofList]
  rw [toString_toList]
  intro ch hch hsign
  have hdigit := Nat.isDigit_of_mem_toDigits (by decide) (by decide) hch
  rcases hsign with rfl | rfl
  · exact absurd hdigit (by decide)
  · exact absurd hdigit (by decide)

theorem isHexDigit_of_isDigit {ch : Char} (h : ch.isDigit = true) : isHexDigit ch = true := by
  unfold isHexDigit
  have hrange := h
  simp only [Char.isDigit, Bool.and_eq_true, decide_eq_true_eq] at hrange
  simp only [Bool.or_eq_true, Bool.and_eq_true, decide_eq_true_eq, Char.le_def]
  exact .inl (.inl hrange)

theorem isCode_tacOf {m : Nat} (h : m < 10 ^ 6) : IsCode (tacOf m) := by
  have hlength : (Nat.toDigits 10 m).length ≤ 6 := (Nat.length_toDigits_le_iff (by decide) (by decide)).2 h
  constructor
  · rw [← String.length_toList, tacOf_ofNat, Numerals.padded, List.length_append, List.length_replicate]
    omega
  · intro ch hch
    rw [tacOf_ofNat, Numerals.padded, List.mem_append] at hch
    rcases hch with hch | hch
    · rw [List.eq_of_mem_replicate hch]
      decide
    · exact isHexDigit_of_isDigit (Nat.isDigit_of_mem_toDigits (by decide) (by decide) hch)

theorem mem_zfill {text : String} (width : Nat) (h : ch ∈ text.toList) : ch ∈ (zfill width text).toList := by
  unfold zfill
  dsimp only
  split
  · rename_i hnil
    rw [hnil] at h
    cases h
  · rename_i first rest hcons
    rw [hcons] at h
    split
    · rw [String.toList_ofList]
      rcases List.mem_cons.1 h with rfl | h
      · exact List.mem_cons_self
      · exact List.mem_cons_of_mem _ (List.mem_append_right _ h)
    · rw [String.toList_ofList]
      exact List.mem_append_right _ h

theorem minus_mem (m : Nat) : '-' ∈ (toString (Int.negSucc m)).toList := by
  show '-' ∈ ("-" ++ (m + 1).repr).toList
  rw [String.toList_append]
  exact List.mem_append_left _ List.mem_cons_self

/-- The number of an area has a code if it has at most six digits. -/
theorem accepted_tacOf_iff (areaId : Int) : Accepted (tacOf areaId) ↔ 0 ≤ areaId ∧ areaId < 10 ^ 6 := by
  cases areaId with
  | ofNat m =>
    constructor
    · intro h
      refine ⟨Int.natCast_nonneg m, ?_⟩
      have hlength := h.1
      rw [← String.length_toList] at hlength
      change (tacOf (m : Int)).toList.length ≤ 6 at hlength
      rw [tacOf_ofNat, Numerals.padded, List.length_append] at hlength
      have hlt := (Nat.length_toDigits_le_iff (b := 10) (n := m) (k := 6) (by decide) (by decide)).1 (by omega)
      show (m : Int) < 10 ^ 6
      exact_mod_cast hlt
    · rintro ⟨-, hlt⟩
      have hlt' : m < 10 ^ 6 := by
        change (m : Int) < 10 ^ 6 at hlt
        exact_mod_cast hlt
      have hcode : IsCode (tacOf (m : Int)) := isCode_tacOf hlt'
      exact ⟨Nat.le_of_eq hcode.1, by
        show IsCode (zfill 6 (tacOf (m : Int)))
        rw [zfill_six hcode.1]
        exact hcode⟩
  | negSucc m =>
    constructor
    · intro h
      exact absurd (h.2.2 '-' (mem_zfill 6 (mem_zfill 6 (minus_mem m)))) (by decide)
    · rintro ⟨hnonneg, -⟩
      exact absurd hnonneg (by omega)

theorem value_replicate (k : Nat) (digits : List Nat) : Numerals.value 10 (List.replicate k 0 ++ digits) = Numerals.value 10 digits := by
  unfold Numerals.value
  rw [List.foldl_append]
  congr 1
  induction k with
  | zero => rfl
  | succ k ih => rw [List.replicate_succ, List.foldl_cons, Nat.mul_zero, Nat.zero_add, ih]

/-- The digits of a code tell the area. -/
theorem value_tacOf (m : Nat) : Numerals.value 10 ((tacOf m).toList.map (fun ch => ch.toNat - 48)) = m := by
  rw [tacOf_ofNat, Numerals.padded, List.map_append, List.map_replicate]
  refine (value_replicate _ _).trans (Numerals.value_toDigits (by decide) ?_ m)
  decide

theorem tacOf_inj {a b : Int} (ha : Accepted (tacOf a)) (hb : Accepted (tacOf b)) (h : tacOf a = tacOf b) : a = b := by
  obtain ⟨m, rfl⟩ := Int.eq_ofNat_of_zero_le ((accepted_tacOf_iff a).1 ha).1
  obtain ⟨m', rfl⟩ := Int.eq_ofNat_of_zero_le ((accepted_tacOf_iff b).1 hb).1
  have hvalue := value_tacOf m
  rw [h, value_tacOf] at hvalue
  rw [hvalue]

/-- A code that is accepted is stored as it is. -/
theorem check_tacOf {code : Code} (h : Code.check (tacOf areaId) = .ok code) : code.text = tacOf areaId := by
  have haccepted : Accepted (tacOf areaId) := by
    by_contra hnot
    rw [check_refused hnot] at h
    cases h
  obtain ⟨hnonneg, hlt⟩ := (accepted_tacOf_iff areaId).1 haccepted
  obtain ⟨m, rfl⟩ := Int.eq_ofNat_of_zero_le hnonneg
  have hcode := isCode_tacOf (m := m) (by exact_mod_cast hlt)
  rw [Code.check, dif_pos haccepted] at h
  cases h
  exact zfill_six hcode.1

/-! ### The plan of a configuration -/

section Planning

variable (c : Create5gModel)

def planDnn (dnn : String) : Option PlannedDnn := do
  let net ← (OpenAirInterface.getDnn c dnn).toOption
  let cidr ← (OpenAirInterface.firstCidr net).toOption
  return ⟨dnn, net.dns, cidr⟩

def planSlice (slice : SubSlices) : Option PlannedSlice := do
  let sd ← (Code.check slice.sliceId).toOption
  let profile ← (OpenAirInterface.getSlice c sd.text).toOption
  let dnns ← profile.dnnList.mapM (planDnn c)
  return ⟨⟨slice.sliceType.toInt, sd⟩, dnns⟩

def planArea (edge : List EdgeAreaInfo) (area : SubArea) : Option PlannedArea := do
  let upf ← (deployedUpf edge area.id).toOption
  let info ← upf.networkInfo
  let tac ← (Code.check (tacOf area.id)).toOption
  let slices ← area.slices
  let planned ← slices.mapM (planSlice c)
  return ⟨area.id, tac, info.n4Ip.exploded, info.n3Ip.exploded, planned⟩

variable {c}

theorem toOption_eq_some_iff {m : Except PyError α} : m.toOption = some a ↔ m = .ok a := by
  cases m with
  | ok b => simp [Except.toOption]
  | error e => simp [Except.toOption]

theorem planDnn_eq_some_iff : planDnn c dnn = some d ↔ ∃ net cidr, OpenAirInterface.getDnn c dnn = .ok net ∧
    OpenAirInterface.firstCidr net = .ok cidr ∧ d = ⟨dnn, net.dns, cidr⟩ := by
  simp only [planDnn, Option.bind_eq_bind, Option.bind_eq_some_iff, toOption_eq_some_iff]
  constructor
  · rintro ⟨net, hnet, cidr, hcidr, hd⟩
    cases hd
    exact ⟨net, cidr, hnet, hcidr, rfl⟩
  · rintro ⟨net, cidr, hnet, hcidr, rfl⟩
    exact ⟨net, hnet, cidr, hcidr, rfl⟩

theorem planSlice_eq_some_iff : planSlice c slice = some p ↔ ∃ sd profile dnns, Code.check slice.sliceId = .ok sd ∧
    OpenAirInterface.getSlice c sd.text = .ok profile ∧ Planned (planDnn c) profile.dnnList dnns ∧ p = ⟨⟨slice.sliceType.toInt, sd⟩, dnns⟩ := by
  simp only [planSlice, Option.bind_eq_bind, Option.bind_eq_some_iff, toOption_eq_some_iff, mapM_eq_some_iff]
  constructor
  · rintro ⟨sd, hsd, profile, hprofile, dnns, hdnns, hp⟩
    cases hp
    exact ⟨sd, profile, dnns, hsd, hprofile, hdnns, rfl⟩
  · rintro ⟨sd, profile, dnns, hsd, hprofile, hdnns, rfl⟩
    exact ⟨sd, hsd, profile, hprofile, dnns, hdnns, rfl⟩

theorem planArea_eq_some_iff : planArea c edge area = some a ↔ ∃ upf info tac slices planned, deployedUpf edge area.id = .ok upf ∧
    upf.networkInfo = some info ∧ Code.check (tacOf area.id) = .ok tac ∧ area.slices = some slices ∧ Planned (planSlice c) slices planned ∧
    a = ⟨area.id, tac, info.n4Ip.exploded, info.n3Ip.exploded, planned⟩ := by
  simp only [planArea, Option.bind_eq_bind, Option.bind_eq_some_iff, toOption_eq_some_iff, mapM_eq_some_iff]
  constructor
  · rintro ⟨upf, hupf, info, hinfo, tac, htac, slices, hslices, planned, hplanned, ha⟩
    cases ha
    exact ⟨upf, info, tac, slices, planned, hupf, hinfo, htac, hslices, hplanned, rfl⟩
  · rintro ⟨upf, info, tac, slices, planned, hupf, hinfo, htac, hslices, hplanned, rfl⟩
    exact ⟨upf, hupf, info, hinfo, tac, htac, slices, hslices, planned, hplanned, rfl⟩

end Planning

/-! ### The loops -/

section Rounds

variable {c : Create5gModel} {done : List PlannedArea} {a : PlannedArea} {sl : List PlannedSlice} {x : Free5gc.Snssai} {ds : List PlannedDnn}
  {mcc mnc : String} {k j n : Nat} {v : Free5gcCoreConfig} {s : Free5gcState} {upf : DeployedUPFInfo} {slice : SubSlices} {edge : List EdgeAreaInfo}

theorem Listed.addDnn (h : Listed plmn k j (upTo done a (sl ++ [⟨x, ds⟩])) v) (hd : d.name ∉ ds.map PlannedDnn.name)
    (hre : Free5gcCoreConfig.Replanned (Free5gcCoreConfig.withDnnInfo x ⟨d.name, d.dns, none⟩ (Free5gcCoreConfig.addDnnAmfItem d.name v))
      ((upTo done a (sl ++ [⟨x, ds ++ [d]⟩])).flatMap PlannedArea.nodes) ((upTo done a (sl ++ [⟨x, ds ++ [d]⟩])).flatMap PlannedArea.links) v') :
    Listed plmn k j (upTo done a (sl ++ [⟨x, ds ++ [d]⟩])) v' := by
  obtain ⟨_, rfl⟩ := hre
  have hsnssais : snssais (upTo done a (sl ++ [⟨x, ds ++ [d]⟩])) = snssais (upTo done a (sl ++ [⟨x, ds⟩])) := by
    rw [snssais_upTo, snssais_upTo, List.map_append, List.map_append]
    rfl
  have htas : (upTo done a (sl ++ [⟨x, ds ++ [d]⟩])).flatMap (PlannedArea.tas plmn) =
      (upTo done a (sl ++ [⟨x, ds⟩])).flatMap (PlannedArea.tas plmn) := by
    rw [flatMap_upTo, flatMap_upTo]
    simp [PlannedArea.tas]
  exact
    { supportTaiList := h.supportTaiList.trans (map_upTo _ (fun _ _ => rfl))
      plmnSupportList := by
        rw [hsnssais]
        exact h.plmnSupportList
      supportedNssaiInPlmnList := by
        rw [hsnssais]
        exact h.supportedNssaiInPlmnList
      nsiList := by
        rw [hsnssais]
        exact h.nsiList
      nsiIds := h.nsiIds
      nsiBound := h.nsiBound
      amfSetBound := h.amfSetBound
      taList := by
        rw [htas]
        exact h.taList
      snssaiInfos := by
        have hinfos := h.snssaiInfos
        rw [slicesOf_upTo, ← List.append_assoc] at hinfos
        rw [slicesOf_upTo, ← List.append_assoc, ← infos_growFirst h.not_before hd, ← hinfos]
        rfl
      upNodes := rfl
      links := rfl
      distinct := by
        rw [hsnssais]
        exact h.distinct
      ids := by
        rw [map_upTo PlannedArea.id (fun _ _ => rfl)]
        exact h.ids
      tacs := by
        rw [map_upTo PlannedArea.tac (fun _ _ => rfl)]
        exact h.tacs }

theorem addSliceDnn_meets (h : Listed plmn k j (upTo done a (sl ++ [⟨x, ds⟩])) v) (hinfo : upf.networkInfo = some info)
    (hn4 : info.n4Ip.exploded = a.n4) (hn3 : info.n3Ip.exploded = a.n3) (hsst : (slice.sliceType.toInt : Int) = x.sst)
    (hsd : slice.sliceId = x.sd.text) (hd : dnn ∉ ds.map PlannedDnn.name) :
    Meets (addSliceDnn (n + 3) c a.id upf slice x dnn) v
      (fun _ v' => ∃ d, planDnn c dnn = some d ∧ Listed plmn k j (upTo done a (sl ++ [⟨x, ds ++ [d]⟩])) v')
      (fun _ _ => ∀ d, planDnn c dnn ≠ some d) := by
  have hnetwork : Generic5G.networkInfoOf "n4_ip" upf = .ok info := by
    rw [Generic5G.networkInfoOf, hinfo]
  unfold addSliceDnn
  rw [hsst, hsd, hnetwork, meets_bind]
  apply (Generic5G.lift_meets _ _).mono
  · rintro net v ⟨hnet, rfl⟩
    rw [meets_bind, meets_modify, meets_bind]
    apply meets_of_ok Free5gcCoreConfig.addDnnInfoSmfItem_run
    rw [meets_bind]
    apply meets_of_ok (Free5gcCoreConfig.lift_ok rfl)
    rw [meets_bind, hn4, hn3]
    apply (Generic5G.lift_meets _ _).mono
    · rintro cidr _ ⟨hcidr, rfl⟩
      obtain ⟨v', hrun, hre⟩ := addDnnUpfInfoListSmf_planned (n := n) (d := ⟨dnn, net.dns, cidr⟩)
        (Free5gcCoreConfig.withDnnInfo x ⟨dnn, net.dns, none⟩ (Free5gcCoreConfig.addDnnAmfItem dnn v)) h hd rfl rfl
      refine meets_of_ok hrun ⟨⟨dnn, net.dns, cidr⟩, planDnn_eq_some_iff.2 ⟨net, cidr, hnet, hcidr, rfl⟩, h.addDnn hd hre⟩
    · rintro e _ ⟨herror, -⟩ d hplan
      obtain ⟨net', cidr, hnet', hcidr, -⟩ := planDnn_eq_some_iff.1 hplan
      cases hnet.symm.trans hnet'
      rw [herror] at hcidr
      cases hcidr
  · rintro e _ ⟨herror, -⟩ d hplan
    obtain ⟨net, cidr, hnet, -, -⟩ := planDnn_eq_some_iff.1 hplan
    rw [herror] at hnet
    cases hnet

theorem sliceDnns_meets (h : Listed plmn k j (upTo done a (sl ++ [⟨x, []⟩])) v) (hinfo : upf.networkInfo = some info)
    (hn4 : info.n4Ip.exploded = a.n4) (hn3 : info.n3Ip.exploded = a.n3) (hsst : (slice.sliceType.toInt : Int) = x.sst)
    (hsd : slice.sliceId = x.sd.text) (hdnns : dnns.Nodup) :
    Meets (forM dnns (addSliceDnn (n + 3) c a.id upf slice x)) v
      (fun _ v' => ∃ ds, Planned (planDnn c) dnns ds ∧ Listed plmn k j (upTo done a (sl ++ [⟨x, ds⟩])) v')
      (fun _ _ => ∀ ds, Planned (planDnn c) dnns ds → ¬ True) := by
  refine meets_forM_planned (I := fun ds v => Listed plmn k j (upTo done a (sl ++ [⟨x, ds⟩])) v) (fun _ _ _ => trivial) ?_ h
  rintro had dnn rest ds v rfl hplanned hlisted
  have hnames : had = ds.map PlannedDnn.name := by
    rw [← hplanned.map_eq (f := fun dnn => dnn), List.map_id']
    intro dnn _ d hd
    obtain ⟨net, cidr, -, -, rfl⟩ := planDnn_eq_some_iff.1 hd
    rfl
  have hnew : dnn ∉ ds.map PlannedDnn.name := by
    rw [← hnames]
    intro hmem
    exact (List.nodup_append.1 hdnns).2.2 dnn hmem dnn List.mem_cons_self rfl
  apply (addSliceDnn_meets hlisted hinfo hn4 hn3 hsst hsd hnew).mono
  · exact fun _ _ hok => hok
  · exact fun _ _ hnone d hd => absurd hd (hnone d)

theorem addAreaSlice_meets (h : Matches edge mcc mnc (upTo done a sl) s) (hinfo : upf.networkInfo = some info)
    (hn4 : info.n4Ip.exploded = a.n4) (hn3 : info.n3Ip.exploded = a.n3) (htac : tacOf a.id = a.tac.text) (hcode : IsCode slice.sliceId)
    (hdnns : ∀ profile, OpenAirInterface.getSlice c slice.sliceId = .ok profile → profile.dnnList.Nodup) :
    Meets (addAreaSlice (n + 3) c a.id upf slice) s
      (fun _ s' => ∃ p, planSlice c slice = some p ∧ Matches edge mcc mnc (upTo done a (sl ++ [p])) s')
      (fun _ _ => ∀ p, planSlice c slice = some p → ¬ (snssais (upTo done a (sl ++ [p]))).Nodup) := by
  have hmake : Free5gc.Snssai.make slice.sliceType.toInt slice.sliceId = .ok ⟨slice.sliceType.toInt, slice.sliceId, hcode⟩ :=
    make_snssai ⟨slice.sliceType.toInt, slice.sliceId, hcode⟩
  have hcheck : Code.check slice.sliceId = .ok ⟨slice.sliceId, hcode⟩ := check_text ⟨slice.sliceId, hcode⟩
  unfold addAreaSlice
  rw [meets_bind]
  apply meets_of_ok (OpenAirInterface.liftExcept_run_ok.2 ⟨hmake, rfl⟩)
  rw [meets_bind]
  apply (addSliceItems_meets h rfl rfl htac).mono
  · rintro _ s₁ ⟨-, h₁⟩
    rw [meets_bind]
    apply (Generic5G.lift_meets _ _).mono
    · rintro profile _ ⟨hprofile, rfl⟩
      rw [onValues, meets_zoom]
      apply (sliceDnns_meets h₁.listed hinfo hn4 hn3 rfl rfl (hdnns profile hprofile)).mono
      · rintro _ v ⟨ds, hds, hlisted⟩
        exact ⟨_, planSlice_eq_some_iff.2 ⟨_, profile, ds, hcheck, hprofile, hds, rfl⟩, h₁.edgeAreas, h₁.plmn, hlisted⟩
      · intro _ _ hnone p hp
        obtain ⟨sd, profile', ds, hsd, hprofile', hds, -⟩ := planSlice_eq_some_iff.1 hp
        cases hcheck.symm.trans hsd
        cases hprofile.symm.trans hprofile'
        exact absurd trivial (hnone ds hds)
    · rintro e _ ⟨herror, -⟩ p hp
      obtain ⟨sd, profile, ds, hsd, hprofile, -, -⟩ := planSlice_eq_some_iff.1 hp
      cases hcheck.symm.trans hsd
      rw [herror] at hprofile
      cases hprofile
  · intro _ _ hmem p hp hnodup
    obtain ⟨sd, profile, ds, hsd, -, -, rfl⟩ := planSlice_eq_some_iff.1 hp
    cases hcheck.symm.trans hsd
    rw [snssais_upTo] at hmem
    rw [snssais_upTo, List.map_append, ← List.append_assoc] at hnodup
    exact (List.nodup_append.1 hnodup).2.2 _ hmem _ (List.mem_singleton_self _) rfl

theorem areaSlices_meets (h : Matches edge mcc mnc (upTo done a []) s) (hinfo : upf.networkInfo = some info)
    (hn4 : info.n4Ip.exploded = a.n4) (hn3 : info.n3Ip.exploded = a.n3) (htac : tacOf a.id = a.tac.text)
    (hcodes : ∀ slice ∈ slices, IsCode slice.sliceId)
    (hdnns : ∀ sliceId profile, OpenAirInterface.getSlice c sliceId = .ok profile → profile.dnnList.Nodup) :
    Meets (forM slices (addAreaSlice (n + 3) c a.id upf)) s
      (fun _ s' => ∃ planned, Planned (planSlice c) slices planned ∧ Matches edge mcc mnc (upTo done a planned) s')
      (fun _ _ => ∀ planned, Planned (planSlice c) slices planned → ¬ (snssais (upTo done a planned)).Nodup) := by
  refine meets_forM_planned (I := fun sl s => Matches edge mcc mnc (upTo done a sl) s) ?_ ?_ h
  · intro sl sl' hnodup
    rw [snssais_upTo, List.map_append, ← List.append_assoc] at hnodup
    rw [snssais_upTo]
    exact (List.nodup_append.1 hnodup).1
  · rintro had slice rest sl s' rfl - hmatches
    have hcode := hcodes slice (List.mem_append_right _ List.mem_cons_self)
    exact addAreaSlice_meets hmatches hinfo hn4 hn3 htac hcode (hdnns slice.sliceId)

/-- What the loop over the areas asks of a configuration. -/
structure Plannable (c : Create5gModel) (edge : List EdgeAreaInfo) : Prop where
  upfs : ∀ area ∈ c.areas, ∃ upf info, deployedUpf edge area.id = .ok upf ∧ upf.networkInfo = some info
  sliceIds : ∀ area ∈ c.areas, ∀ slice ∈ area.slices.getD [], IsCode slice.sliceId
  dnns : ∀ sliceId profile, OpenAirInterface.getSlice c sliceId = .ok profile → profile.dnnList.Nodup
  areas : KeyedList.Unique SubArea.id c.areas

theorem addArea_meets {plan : List PlannedArea} (hc : Plannable c edge) (h : Matches edge mcc mnc plan s) (harea : area ∈ c.areas)
    (hid : area.id ∉ plan.map PlannedArea.id) (htacs : ∀ b ∈ plan, tacOf b.id = b.tac.text) :
    Meets (addArea (n + 3) c area) s (fun _ s' => ∃ a, planArea c edge area = some a ∧ Matches edge mcc mnc (plan ++ [a]) s')
      (fun _ _ => ∀ a, planArea c edge area = some a → ¬ (snssais (plan ++ [a])).Nodup) := by
  obtain ⟨upf, info, hupf, hinfo⟩ := hc.upfs area harea
  obtain ⟨hedge, ⟨hmcc, hmnc⟩, hlisted⟩ := h
  unfold addArea
  rw [meets_bind, meets_get, meets_bind, hedge, hmcc, hmnc]
  apply meets_of_ok (OpenAirInterface.liftExcept_run_ok.2 ⟨hupf, rfl⟩)
  rw [meets_bind]
  cases hcheck : Code.check (tacOf area.id) with
  | error e =>
    have hrun : (Free5gcCoreConfig.addItemAmfSupportTaiList mcc mnc (tacOf area.id)).run s.values = .error e s.values := by
      unfold Free5gcCoreConfig.addItemAmfSupportTaiList
      rw [Tai.make, hcheck]
      rfl
    refine meets_of_error (onValues_run_error hrun) ?_
    intro a ha
    obtain ⟨_, _, tac, _, _, -, -, htac, -⟩ := planArea_eq_some_iff.1 ha
    rw [hcheck] at htac
    cases htac
  | ok tac =>
    have htac := check_tacOf hcheck
    have hnew : tac ∉ plan.map PlannedArea.tac := by
      intro hmem
      obtain ⟨b, hb, rfl⟩ := List.mem_map.1 hmem
      have hsame : tacOf b.id = tacOf area.id := (htacs b hb).trans htac
      have haccepted : Accepted (tacOf area.id) := htac ▸ accepted_code b.tac
      exact hid (List.mem_map.2 ⟨b, hb, tacOf_inj (hsame ▸ haccepted) haccepted hsame⟩)
    obtain ⟨v, hrun, hadded⟩ := hlisted.addArea (a := ⟨area.id, tac, info.n4Ip.exploded, info.n3Ip.exploded, []⟩) hid hnew rfl
    rw [← htac]
    apply meets_of_ok (onValues_run_ok hrun)
    rw [meets_bind]
    apply (Generic5G.lift_meets _ _).mono
    · rintro slices _ ⟨hslices, rfl⟩
      have hslices := OpenAirInterface.iterate_ok_iff.1 hslices
      have hcodes : ∀ slice ∈ slices, IsCode slice.sliceId := by
        intro slice hslice
        refine hc.sliceIds area harea slice ?_
        rw [hslices]
        exact hslice
      have hmatches : Matches edge mcc mnc (upTo plan ⟨area.id, tac, info.n4Ip.exploded, info.n3Ip.exploded, []⟩ []) (setValues v s) :=
        ⟨hedge, ⟨hmcc, hmnc⟩, hadded⟩
      apply (areaSlices_meets hmatches hinfo rfl rfl htac.symm hcodes hc.dnns).mono
      · rintro _ s' ⟨planned, hplanned, hmatches'⟩
        exact ⟨_, planArea_eq_some_iff.2 ⟨upf, info, tac, slices, planned, hupf, hinfo, hcheck, hslices, hplanned, rfl⟩, hmatches'⟩
      · intro _ _ hnone a ha
        obtain ⟨upf', info', tac', slices', planned, hupf', hinfo', htac', hslices', hplanned, rfl⟩ := planArea_eq_some_iff.1 ha
        cases hupf.symm.trans hupf'
        cases hinfo.symm.trans hinfo'
        cases hcheck.symm.trans htac'
        cases hslices.symm.trans hslices'
        exact hnone planned hplanned
    · rintro e _ ⟨herror, -⟩ a ha
      obtain ⟨_, _, _, slices, _, -, -, -, hslices, -⟩ := planArea_eq_some_iff.1 ha
      rw [hslices] at herror
      cases herror

/-- The loop goes through if there is a plan that has no slice twice, and lists that plan. -/
theorem addAreas_meets (hc : Plannable c edge) (h : Matches edge mcc mnc [] s) :
    Meets (addAreas (n + 3) c) s (fun _ s' => ∃ plan, Planned (planArea c edge) c.areas plan ∧ Matches edge mcc mnc plan s')
      (fun _ _ => ∀ plan, Planned (planArea c edge) c.areas plan → ¬ (snssais plan).Nodup) := by
  unfold addAreas
  refine meets_forM_planned (I := fun plan s => Matches edge mcc mnc plan s) ?_ ?_ h
  · intro plan plan' hnodup
    rw [snssais, slicesOf, List.flatMap_append, List.map_append] at hnodup
    exact (List.nodup_append.1 hnodup).1
  · rintro had area rest plan s hxs hplanned hmatches
    have hids : had.map SubArea.id = plan.map PlannedArea.id := by
      refine hplanned.map_eq ?_
      intro area _ a ha
      obtain ⟨_, _, _, _, _, -, -, -, -, -, rfl⟩ := planArea_eq_some_iff.1 ha
      rfl
    have htacs : ∀ b ∈ plan, tacOf b.id = b.tac.text := by
      intro b hb
      obtain ⟨area, -, ha⟩ := hplanned.exists_of_mem_right hb
      obtain ⟨_, _, tac, _, _, -, -, htac, -, -, rfl⟩ := planArea_eq_some_iff.1 ha
      exact (check_tacOf htac).symm
    have hnodup := hc.areas
    unfold KeyedList.Unique at hnodup
    rw [hxs, List.map_append, List.map_cons] at hnodup
    refine addArea_meets hc hmatches (hxs ▸ List.mem_append_right _ List.mem_cons_self) ?_ htacs
    rw [← hids]
    intro hmem
    exact (List.nodup_append.1 hnodup).2.2 area.id hmem area.id List.mem_cons_self rfl

end Rounds

end Free5gcCore

end Nfvcl
