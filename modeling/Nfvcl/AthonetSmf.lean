import Mathlib.Data.List.Basic
import Mathlib.Data.List.Perm.Basic
import Mathlib.Algebra.BigOperators.Group.List.Basic
import Mathlib.Algebra.Order.BigOperators.Group.List
import Nfvcl.Day2Uniqueness
import Nfvcl.Loops
import Nfvcl.OaiCore

namespace Nfvcl
set_option autoImplicit true
open Effects

namespace Athonet

structure DnnVrf where
  dnn : String
  vrf : String
  cidr : String
  dns : String
  deriving DecidableEq, Repr

structure SNssai where
  sst : Nat
  sd : Option String := none
  deriving DecidableEq, Repr

/-- The addresses of `ip_allocation.dns`; its other fields have their defaults. -/
structure Dnn where
  dnn : String
  sNssai : SNssai
  ipv4Addrs : List String
  deriving DecidableEq, Repr

/-- The name of a UPF is its default. -/
structure Upf where
  ip : String
  networkInstance : String
  deriving DecidableEq, Repr

structure UpfProfile where
  dnn : String
  sNssai : SNssai
  upfs : List Upf
  deriving DecidableEq, Repr

structure ProvisionedDataInfo where
  slice : SubSliceProfiles
  dnn : SubDataNets
  deriving DecidableEq, Repr

end Athonet

open Athonet

/-- The two lists of the configuration of the SMF that are written. -/
structure AthonetApplicationSmfConfig where
  dnns : Option (List Athonet.Dnn) := none
  upfProfiles : Option (List UpfProfile) := none
  deriving DecidableEq, Repr

namespace AthonetApplicationSmfConfig

abbrev SmfM := EStateM PyError AthonetApplicationSmfConfig

def onDnns (attr : String) (f : List Athonet.Dnn → List Athonet.Dnn) : SmfM Unit := fun s =>
  match s.dnns with
  | some dnns => .ok () { s with dnns := some (f dnns) }
  | none => .error (.attributeError s!"'NoneType' object has no attribute '{attr}'") s

def onUpfProfiles (attr : String) (f : List UpfProfile → List UpfProfile) : SmfM Unit := fun s =>
  match s.upfProfiles with
  | some profiles => .ok () { s with upfProfiles := some (f profiles) }
  | none => .error (.attributeError s!"'NoneType' object has no attribute '{attr}'") s

def sNssaiOf (slice : SubSliceProfiles) : SNssai where
  sst := slice.sliceType.toInt
  sd := some slice.sliceId

/-- `_slice.dnnList[0]`. -/
def firstDnn (slice : SubSliceProfiles) : Except PyError String :=
  match slice.dnnList with
  | [] => .error (.indexError "list index out of range")
  | dnn :: _ => .ok dnn

def serve (upfIp : String) (slice : SubSliceProfiles) (dnn : SubDataNets) (supported : DnnVrf) : SmfM Unit := do
  onDnns "append" (fun dnns => dnns ++ [⟨dnn.dnn, sNssaiOf slice, [supported.dns]⟩])
  onUpfProfiles "append" (fun profiles => profiles ++ [⟨dnn.dnn, sNssaiOf slice, [⟨upfIp, s!"NI_{supported.vrf}"⟩]⟩])

def serveNet (dnnVrf : List DnnVrf) (upfIp : String) (slice : SubSliceProfiles) (dnn : SubDataNets) : SmfM Unit :=
  forM dnnVrf (fun supported => do
    let cidr ← Generic5G.liftExcept (OpenAirInterface.firstCidr dnn)
    if supported.cidr = cidr then serve upfIp slice dnn supported else pure ())

def serveSlice (dnnVrf : List DnnVrf) (upfIp : String) (c : Create5gModel) (slice : SubSliceProfiles) : SmfM Unit :=
  forM c.config.networkEndpoints.dataNets (fun dnn => do
    let first ← Generic5G.liftExcept (firstDnn slice)
    if first = dnn.dnn then serveNet dnnVrf upfIp slice dnn else pure ())

def configure (dnnVrf : List DnnVrf) (upfIp : String) (c : Create5gModel) : SmfM Unit := do
  onDnns "clear" (fun _ => [])
  onUpfProfiles "clear" (fun _ => [])
  let slices ← Generic5G.liftExcept (iterate c.config.sliceProfiles)
  forM slices (serveSlice dnnVrf upfIp c)

end AthonetApplicationSmfConfig

namespace AthonetCore

/-- `get_slice` and `get_dnn` are those of the other cores. -/
def uesAdditionalInfos (c : Create5gModel) (snssai : List SubSnssai) : Except PyError (List ProvisionedDataInfo) := do
  let infos ← snssai.mapM (fun slice => do
    let tmpSlice ← OpenAirInterface.getSlice c slice.sliceId
    tmpSlice.dnnList.mapM (fun dnn => do
      let tmpDnn ← OpenAirInterface.getDnn c dnn
      return ⟨tmpSlice, tmpDnn⟩))
  return infos.flatten

end AthonetCore

/-- A slice and a DNN. -/
abbrev SliceDnnPair := SNssai × String

namespace AthonetApplicationSmfConfig

/-- The slices and the DNNs they have. -/
def pairs (c : Create5gModel) : List SliceDnnPair :=
  c.profiles.flatMap (fun slice => slice.dnnList.map (fun dnn => (sNssaiOf slice, dnn)))

def dnnPair (dnn : Athonet.Dnn) : SliceDnnPair := (dnn.sNssai, dnn.dnn)

def upfPair (profile : UpfProfile) : SliceDnnPair := (profile.sNssai, profile.dnn)

/-- The first pool of each data network is that of one entry of the mapping. -/
def Mapped (dnnVrf : List DnnVrf) (c : Create5gModel) : Prop :=
  ∀ net ∈ c.config.networkEndpoints.dataNets, ∃ pool pools supported, net.pools = pool :: pools ∧
    dnnVrf.filter (fun supported => decide (supported.cidr = pool.cidr)) = [supported]

/-- The configuration serves each pair once, whatever it had before, and so whatever a subscriber is
provisioned with. -/
def Serves (s : AthonetApplicationSmfConfig) (dnnVrf : List DnnVrf) (upfIp : String) (c : Create5gModel) : Prop :=
  ∃ dnns profiles, (configure dnnVrf upfIp c).run s = .ok () ⟨some dnns, some profiles⟩ ∧
    (dnns.map dnnPair).Perm (pairs c) ∧ (profiles.map upfPair).Perm (pairs c) ∧
    (∀ dnns' profiles', (configure dnnVrf upfIp c).run ⟨some dnns', some profiles'⟩ = .ok () ⟨some dnns, some profiles⟩) ∧
    ∀ subscriber ∈ c.config.subscribers, ∀ infos, AthonetCore.uesAdditionalInfos c subscriber.snssai = .ok infos →
      ∀ info ∈ infos, (sNssaiOf info.slice, info.dnn.dnn) ∈ dnns.map dnnPair ∧ (sNssaiOf info.slice, info.dnn.dnn) ∈ profiles.map upfPair

/-- The pair of the slice's first DNN. -/
def firstPair (slice : SubSliceProfiles) : SliceDnnPair :=
  (sNssaiOf slice, slice.dnnList.headD "")

variable {dnnVrf : List DnnVrf} {upfIp : String} {c : Create5gModel} {slice : SubSliceProfiles}

def lists (d : List Athonet.Dnn × List UpfProfile) : AthonetApplicationSmfConfig where
  dnns := some d.1
  upfProfiles := some d.2

/-- One item of each list for a data network that has its entry. -/
theorem serveNet_run (upfIp : String) (slice : SubSliceProfiles) (hmapped : Mapped dnnVrf c) (hnet : net ∈ c.config.networkEndpoints.dataNets)
    (d : List Athonet.Dnn × List UpfProfile) : ∃ dnn profile, dnnPair dnn = (sNssaiOf slice, net.dnn) ∧ upfPair profile = (sNssaiOf slice, net.dnn) ∧
      (serveNet dnnVrf upfIp slice net).run (lists d) = .ok () (lists (d.1 ++ [dnn], d.2 ++ [profile])) := by
  obtain ⟨pool, pools, supported, hpools, hfilter⟩ := hmapped net hnet
  refine ⟨⟨net.dnn, sNssaiOf slice, [supported.dns]⟩, ⟨net.dnn, sNssaiOf slice, [⟨upfIp, s!"NI_{supported.vrf}"⟩]⟩, rfl, rfl, ?_⟩
  have hcidr : OpenAirInterface.firstCidr net = .ok pool.cidr := by
    rw [OpenAirInterface.firstCidr, hpools]
  have hloop : serveNet dnnVrf upfIp slice net =
      forM dnnVrf (fun supported => if supported.cidr = pool.cidr then serve upfIp slice net supported else pure ()) := by
    unfold serveNet
    rw [hcidr]
    rfl
  rw [hloop, Loops.forM_filter, hfilter, List.forM_cons, List.forM_nil, bind_pure_unit]
  rfl

theorem serveSlice_loop {rest : List String} (hfirst : slice.dnnList = dnn :: rest) : serveSlice dnnVrf upfIp c slice =
    forM (c.config.networkEndpoints.dataNets.filter (fun net => decide (dnn = net.dnn))) (serveNet dnnVrf upfIp slice) := by
  rw [← Loops.forM_filter]
  unfold serveSlice firstDnn
  rw [hfirst]
  rfl

theorem serveSlice_raises (hnil : slice.dnnList = []) (hnets : c.config.networkEndpoints.dataNets ≠ []) (s : AthonetApplicationSmfConfig) :
    ∃ e s', (serveSlice dnnVrf upfIp c slice).run s = .error e s' := by
  obtain ⟨net, nets, hcons⟩ := List.exists_cons_of_ne_nil hnets
  refine ⟨.indexError "list index out of range", s, ?_⟩
  unfold serveSlice firstDnn
  rw [hcons, hnil]
  rfl

section Loop

variable (upfIp) (hclosed : c.Closed) (hkeys : c.KeysUnique) (hmapped : Mapped dnnVrf c)

include hclosed hkeys hmapped

theorem serveSlices_step (done : List SubSliceProfiles) (d : List Athonet.Dnn × List UpfProfile) (slice : SubSliceProfiles)
    (hslice : slice ∈ c.profiles) (hI : d.1.map dnnPair = done.map firstPair ∧ d.2.map upfPair = done.map firstPair)
    (hne : slice.dnnList ≠ []) : ∃ d', (serveSlice dnnVrf upfIp c slice).run (lists d) = .ok () (lists d') ∧
      d'.1.map dnnPair = (done ++ [slice]).map firstPair ∧ d'.2.map upfPair = (done ++ [slice]).map firstPair := by
  obtain ⟨dnn, rest, hfirst⟩ := List.exists_cons_of_ne_nil hne
  obtain ⟨net, hnet, rfl⟩ := hclosed.profiles slice hslice dnn (hfirst ▸ List.mem_cons_self)
  obtain ⟨item, profile, hitem, hprofile, hrun⟩ := serveNet_run upfIp slice hmapped hnet d
  have hpair : firstPair slice = (sNssaiOf slice, net.dnn) := by
    rw [firstPair, hfirst]
    rfl
  refine ⟨(d.1 ++ [item], d.2 ++ [profile]), ?_, ?_, ?_⟩
  · rw [serveSlice_loop hfirst, Loops.filter_unique hkeys.dataNets hnet, List.forM_cons, List.forM_nil, bind_pure_unit]
    exact hrun
  · rw [List.map_append, List.map_append, hI.1, List.map_singleton, List.map_singleton, hitem, hpair]
  · rw [List.map_append, List.map_append, hI.2, List.map_singleton, List.map_singleton, hprofile, hpair]

/-- Each slice is served with its first DNN. -/
theorem serveSlices_ok (hne : ∀ slice ∈ c.profiles, slice.dnnList ≠ []) : ∃ d,
    (forM c.profiles (serveSlice dnnVrf upfIp c)).run (lists ([], [])) = .ok () (lists d) ∧
      d.1.map dnnPair = c.profiles.map firstPair ∧ d.2.map upfPair = c.profiles.map firstPair := by
  have hstart : (([], []) : List Athonet.Dnn × List UpfProfile).1.map dnnPair = ([] : List SubSliceProfiles).map firstPair ∧
      (([], []) : List Athonet.Dnn × List UpfProfile).2.map upfPair = ([] : List SubSliceProfiles).map firstPair := ⟨rfl, rfl⟩
  exact Loops.forM_embedded lists (P := fun slice => slice.dnnList ≠ [])
    (I := fun done d => d.1.map dnnPair = done.map firstPair ∧ d.2.map upfPair = done.map firstPair)
    (serveSlices_step upfIp hclosed hkeys hmapped) hstart hne

theorem serveSlices_raises (hnets : c.config.networkEndpoints.dataNets ≠ []) (h : ∃ slice ∈ c.profiles, slice.dnnList = []) :
    ∃ e s, (forM c.profiles (serveSlice dnnVrf upfIp c)).run (lists ([], [])) = .error e s := by
  obtain ⟨slice, hslice, hnil⟩ := h
  have hstart : (([], []) : List Athonet.Dnn × List UpfProfile).1.map dnnPair = ([] : List SubSliceProfiles).map firstPair ∧
      (([], []) : List Athonet.Dnn × List UpfProfile).2.map upfPair = ([] : List SubSliceProfiles).map firstPair := ⟨rfl, rfl⟩
  refine Loops.forM_embedded_raises lists (P := fun slice => slice.dnnList ≠ [])
    (I := fun done d => d.1.map dnnPair = done.map firstPair ∧ d.2.map upfPair = done.map firstPair)
    (serveSlices_step upfIp hclosed hkeys hmapped) ?_ hstart ⟨slice, hslice, fun hne => hne hnil⟩
  intro d slice _ hnil
  exact serveSlice_raises (not_not.1 hnil) hnets (lists d)

end Loop

theorem serveSlices_nil (hnets : c.config.networkEndpoints.dataNets = []) (slices : List SubSliceProfiles) (s : AthonetApplicationSmfConfig) :
    (forM slices (serveSlice dnnVrf upfIp c)).run s = .ok () s := by
  induction slices with
  | nil => rfl
  | cons slice slices ih =>
    have hone : (serveSlice dnnVrf upfIp c slice).run s = .ok () s := by
      rw [serveSlice, hnets]
      rfl
    rw [List.forM_cons, run_bind_ok _ _ hone, ih]

theorem configure_run (hprofiles : c.config.sliceProfiles.isSome) (d : List Athonet.Dnn × List UpfProfile) :
    (configure dnnVrf upfIp c).run (lists d) = (forM c.profiles (serveSlice dnnVrf upfIp c)).run (lists ([], [])) := by
  obtain ⟨profiles, hprofiles⟩ := Option.isSome_iff_exists.1 hprofiles
  unfold configure Create5gModel.profiles
  rw [hprofiles]
  rfl

/-- `configure` reads both lists and the profiles. -/
theorem configure_reads {s : AthonetApplicationSmfConfig} (h : (configure dnnVrf upfIp c).run s = .ok u s') :
    ∃ d, s = lists d ∧ c.config.sliceProfiles.isSome := by
  obtain ⟨dnns, profiles⟩ := s
  cases dnns with
  | none => cases h
  | some dnns =>
    cases profiles with
    | none => cases h
    | some profiles =>
      refine ⟨(dnns, profiles), rfl, ?_⟩
      cases hprofiles : c.config.sliceProfiles with
      | some slices => rfl
      | none =>
        unfold configure at h
        rw [hprofiles] at h
        cases h

theorem pairs_length (c : Create5gModel) : (pairs c).length = (c.profiles.map (fun slice => slice.dnnList.length)).sum := by
  unfold pairs
  rw [List.length_flatMap]
  simp only [List.length_map]

theorem one_of_sum {slices : List SubSliceProfiles} (hne : ∀ slice ∈ slices, slice.dnnList ≠ [])
    (hsum : (slices.map (fun slice => slice.dnnList.length)).sum ≤ slices.length) : ∀ slice ∈ slices, ∃ dnn, slice.dnnList = [dnn] := by
  have hlower : ∀ slices : List SubSliceProfiles, (∀ slice ∈ slices, slice.dnnList ≠ []) →
      slices.length ≤ (slices.map (fun slice => slice.dnnList.length)).sum := by
    intro slices
    induction slices with
    | nil => exact fun _ => Nat.le_refl _
    | cons slice slices ih =>
      intro hne
      have hpos := List.length_pos_iff.2 (hne slice List.mem_cons_self)
      have hrest := ih fun slice hslice => hne slice (List.mem_cons_of_mem _ hslice)
      rw [List.map_cons, List.sum_cons, List.length_cons]
      omega
  induction slices with
  | nil => exact fun slice hslice => absurd hslice List.not_mem_nil
  | cons slice slices ih =>
    have hpos := List.length_pos_iff.2 (hne slice List.mem_cons_self)
    have hrest := hlower slices fun slice hslice => hne slice (List.mem_cons_of_mem _ hslice)
    rw [List.map_cons, List.sum_cons, List.length_cons] at hsum
    rw [List.forall_mem_cons]
    refine ⟨List.length_eq_one_iff.1 (by omega), ih (fun slice hslice => hne slice (List.mem_cons_of_mem _ hslice)) (by omega)⟩

theorem pairs_of_one (hone : ∀ slice ∈ c.profiles, ∃ dnn, slice.dnnList = [dnn]) : c.profiles.map firstPair = pairs c := by
  unfold pairs
  rw [List.map_eq_flatMap]
  refine List.flatMap_congr fun slice hslice => ?_
  obtain ⟨dnn, hdnn⟩ := hone slice hslice
  rw [firstPair, hdnn]
  rfl

theorem getSlice_mem (h : OpenAirInterface.getSlice c sliceId = .ok slice) : slice ∈ c.profiles := by
  unfold OpenAirInterface.getSlice at h
  obtain ⟨profiles, hprofiles, h⟩ := except_bind_ok.1 h
  unfold Create5gModel.profiles
  cases hsome : c.config.sliceProfiles with
  | none =>
    rw [hsome] at hprofiles
    cases hprofiles
  | some all =>
    rw [hsome] at hprofiles
    cases hprofiles
    split at h
    · rename_i found hfound
      cases h
      exact List.mem_of_find?_eq_some hfound
    · cases h

theorem getDnn_dnn (h : OpenAirInterface.getDnn c name = .ok net) : net.dnn = name := by
  unfold OpenAirInterface.getDnn at h
  split at h
  · rename_i found hfound
    cases h
    have htest := List.find?_some hfound
    exact of_decide_eq_true htest
  · cases h

/-- What a subscriber is provisioned with are pairs of the configuration. -/
theorem provisioned_mem_pairs {snssai : List SubSnssai} (h : AthonetCore.uesAdditionalInfos c snssai = .ok infos) :
    ∀ info ∈ infos, (sNssaiOf info.slice, info.dnn.dnn) ∈ pairs c := by
  obtain ⟨infoss, hinfoss, hret⟩ := except_bind_ok.1 h
  cases hret
  intro info hinfo
  obtain ⟨sliceInfos, hsliceInfos, hinfo⟩ := List.mem_flatten.1 hinfo
  obtain ⟨slice, -, hslice⟩ := (mem_of_mapM_ok hinfoss).1 hsliceInfos
  obtain ⟨tmpSlice, hget, hdnns⟩ := except_bind_ok.1 hslice
  obtain ⟨dnn, hdnn, hnet⟩ := (mem_of_mapM_ok hdnns).1 hinfo
  obtain ⟨tmpDnn, hgetDnn, hret⟩ := except_bind_ok.1 hnet
  cases hret
  refine List.mem_flatMap.2 ⟨tmpSlice, getSlice_mem hget, List.mem_map.2 ⟨dnn, hdnn, ?_⟩⟩
  rw [getDnn_dnn hgetDnn]

/-- Each slice that can be served has one DNN, and there is nothing missing that is read. -/
def OneDnnEach (s : AthonetApplicationSmfConfig) (c : Create5gModel) : Prop :=
  s.dnns.isSome ∧ s.upfProfiles.isSome ∧ c.config.sliceProfiles.isSome ∧
    (c.config.networkEndpoints.dataNets = [] ∨ ∀ slice ∈ c.profiles, ∃ dnn, slice.dnnList = [dnn])

theorem no_dnns (hclosed : c.Closed) (hnets : c.config.networkEndpoints.dataNets = []) : pairs c = [] := by
  unfold pairs
  rw [List.flatMap_eq_nil_iff]
  intro slice hslice
  rw [List.map_eq_nil_iff, List.eq_nil_iff_forall_not_mem]
  intro dnn hdnn
  obtain ⟨net, hnet, -⟩ := hclosed.profiles slice hslice dnn hdnn
  rw [hnets] at hnet
  cases hnet

/-- The result of `configure` when it has what it reads. -/
theorem serves_of_run (hrun : (forM c.profiles (serveSlice dnnVrf upfIp c)).run (lists ([], [])) = .ok () (lists d))
    (hprofiles : c.config.sliceProfiles.isSome) (hdnns : d.1.map dnnPair = pairs c) (hupfs : d.2.map upfPair = pairs c)
    (d₀ : List Athonet.Dnn × List UpfProfile) : (lists d₀).Serves dnnVrf upfIp c := by
  have hall : ∀ d', (configure dnnVrf upfIp c).run (lists d') = .ok () (lists d) := fun d' => (configure_run hprofiles d').trans hrun
  refine ⟨d.1, d.2, hall d₀, hdnns ▸ List.Perm.refl _, hupfs ▸ List.Perm.refl _, fun dnns' profiles' => hall (dnns', profiles'), ?_⟩
  intro subscriber _ infos hinfos info hinfo
  rw [hdnns, hupfs]
  exact ⟨provisioned_mem_pairs hinfos info hinfo, provisioned_mem_pairs hinfos info hinfo⟩

/-- The SMF serves what subscribers are provisioned with exactly when each slice has one DNN. -/
theorem serves_iff_oneDnnEach (s : AthonetApplicationSmfConfig) (dnnVrf : List DnnVrf) (upfIp : String) (c : Create5gModel)
    (hclosed : c.Closed) (hkeys : c.KeysUnique) (hmapped : Mapped dnnVrf c) : s.Serves dnnVrf upfIp c ↔ s.OneDnnEach c := by
  constructor
  · rintro ⟨dnns, profiles, hrun, hperm, -⟩
    obtain ⟨d₀, rfl, hprofiles⟩ := configure_reads hrun
    refine ⟨rfl, rfl, hprofiles, ?_⟩
    by_cases hnets : c.config.networkEndpoints.dataNets = []
    · exact .inl hnets
    rw [configure_run hprofiles] at hrun
    have hne : ∀ slice ∈ c.profiles, slice.dnnList ≠ [] := by
      intro slice hslice hnil
      obtain ⟨e, s', hraise⟩ := serveSlices_raises upfIp hclosed hkeys hmapped hnets ⟨slice, hslice, hnil⟩
      rw [hraise] at hrun
      cases hrun
    obtain ⟨d, hok, hdnns, -⟩ := serveSlices_ok upfIp hclosed hkeys hmapped hne
    rw [hok] at hrun
    have heq : d.1 = dnns := by
      cases hrun
      rfl
    have hlength := hperm.length_eq
    rw [← heq, hdnns, List.length_map, pairs_length] at hlength
    exact .inr (one_of_sum hne (Nat.le_of_eq hlength.symm))
  · rintro ⟨hdnns, hupfs, hprofiles, hcase⟩
    obtain ⟨dnns, upfs⟩ := s
    obtain ⟨dnns, rfl⟩ := Option.isSome_iff_exists.1 hdnns
    obtain ⟨upfs, rfl⟩ := Option.isSome_iff_exists.1 hupfs
    rcases hcase with hnets | hone
    · exact serves_of_run (serveSlices_nil hnets c.profiles _) hprofiles (no_dnns hclosed hnets).symm (no_dnns hclosed hnets).symm (dnns, upfs)
    · have hne : ∀ slice ∈ c.profiles, slice.dnnList ≠ [] := by
        intro slice hslice hnil
        obtain ⟨dnn, hdnn⟩ := hone slice hslice
        rw [hnil] at hdnn
        cases hdnn
      obtain ⟨d, hok, hdnns, hupfs⟩ := serveSlices_ok upfIp hclosed hkeys hmapped hne
      rw [pairs_of_one hone] at hdnns hupfs
      exact serves_of_run hok hprofiles hdnns hupfs (dnns, upfs)

/-- A profile with the given DNNs, and a data network for each of the two there are. -/
def twoNets (dnnList : List String) : Create5gModel where
  config :=
    { networkEndpoints :=
        { dataNets :=
            [{ netName := "internet", dnn := "internet", dns := "8.8.8.8", pools := [⟨"10.250.0.0/16"⟩] },
             { netName := "ims", dnn := "ims", dns := "8.8.8.8", pools := [⟨"10.251.0.0/16"⟩] }] }
      plmn := "00101"
      sliceProfiles := some [{
        sliceId := "000001"
        sliceType := .embb
        dnnList
        profileParams := { isolationLevel := .noIsolation, pduSessions := [] }
        locationConstraints := []
        enabledUEList := [] }]
      subscribers := [] }
  areas := []

def twoVrfs : List DnnVrf :=
  [⟨"internet", "VRF1", "10.250.0.0/16", "8.8.8.8"⟩, ⟨"ims", "VRF2", "10.251.0.0/16", "8.8.8.8"⟩]

theorem twoNets_closed {dnnList : List String} (h : ∀ dnn ∈ dnnList, dnn = "internet" ∨ dnn = "ims") : (twoNets dnnList).Closed := by
  refine ⟨fun area harea => absurd harea List.not_mem_nil, ?_, fun subscriber hsub => absurd hsub List.not_mem_nil⟩
  intro profile hprofile dnn hdnn
  obtain rfl := List.mem_singleton.1 hprofile
  rcases h dnn hdnn with rfl | rfl
  · exact ⟨_, List.mem_cons_self, rfl⟩
  · exact ⟨_, List.mem_cons_of_mem _ List.mem_cons_self, rfl⟩

theorem twoNets_keys {dnnList : List String} (h : dnnList.Nodup) : (twoNets dnnList).KeysUnique := by
  have hnets : ["internet", "ims"].Nodup := by decide
  refine ⟨⟨List.nodup_singleton _, List.nodup_nil, hnets, List.nodup_nil, fun area harea => absurd harea List.not_mem_nil⟩, ?_⟩
  show (dnnList ++ []).Nodup
  rw [List.append_nil]
  exact h

theorem twoNets_mapped (dnnList : List String) : Mapped twoVrfs (twoNets dnnList) := by
  intro net hnet
  rcases List.mem_cons.1 hnet with rfl | hnet
  · exact ⟨_, _, _, rfl, rfl⟩
  · obtain rfl := List.mem_singleton.1 hnet
    exact ⟨_, _, _, rfl, rfl⟩

theorem serves_internet : Serves ⟨some [], some []⟩ twoVrfs "10.0.0.9" (twoNets ["internet"]) := by
  refine (serves_iff_oneDnnEach _ twoVrfs "10.0.0.9" _ (twoNets_closed (by decide)) (twoNets_keys (by decide)) (twoNets_mapped _)).2
    ⟨rfl, rfl, rfl, .inr ?_⟩
  intro slice hslice
  obtain rfl := List.mem_singleton.1 hslice
  exact ⟨"internet", rfl⟩

/-- A slice with two DNNs is served with one. -/
theorem serves_fails : ¬ ∀ (s : AthonetApplicationSmfConfig) (dnnVrf : List DnnVrf) (upfIp : String) (c : Create5gModel),
    c.Closed → c.KeysUnique → Mapped dnnVrf c → s.Serves dnnVrf upfIp c := by
  intro h
  obtain ⟨dnns, profiles, hrun, hperm, -⟩ := h ⟨some [], some []⟩ twoVrfs "10.0.0.9" (twoNets ["internet", "ims"])
    (twoNets_closed (by decide)) (twoNets_keys (by decide)) (twoNets_mapped _)
  have hlength : dnns.length = 1 := by
    cases hrun
    rfl
  have hpairs := hperm.length_eq
  rw [List.length_map, hlength] at hpairs
  cases hpairs

end AthonetApplicationSmfConfig

end Nfvcl
