import Mathlib.Data.List.Basic
import Nfvcl.Day2Uniqueness
import Nfvcl.Free5gcBuilders
import Nfvcl.Free5gcSubscriber
import Nfvcl.Loops

namespace Nfvcl
set_option autoImplicit true
open Effects Free5gc

namespace Create5gModel

/-- The slice ids have the pattern that the fields ask for. -/
def ValidSliceIds (c : Create5gModel) : Prop :=
  ∀ profile ∈ c.profiles, IsCode profile.sliceId

/-- The profile is that of a slice of the subscriber, with its id and type. -/
def Subscribed (c : Create5gModel) (subscriber : SubSubscribers) (profile : SubSliceProfiles) : Prop :=
  profile ∈ c.profiles ∧ ∃ slice ∈ subscriber.snssai, profile.sliceId = slice.sliceId ∧ profile.sliceType = slice.sliceType

end Create5gModel

/-- The slice of a profile. -/
def Free5gc.Snssai.Is (snssai : Free5gc.Snssai) (profile : SubSliceProfiles) : Prop :=
  snssai.sst = profile.sliceType.toInt ∧ snssai.sd.text = profile.sliceId

/-- What the record of a subscriber says of slices. -/
structure SliceData where
  nssais : List Free5gc.Snssai
  sessions : List SessionManagementSubscriptionDatum
  infos : Dict String SliceDnn
  policies : Dict String SlicePolicy

namespace SliceData
open Free5gcSubScriber

/-- The four structures have the slices of the same profiles, and the last three the DNNs of these. -/
structure Holds (d : SliceData) (Q : SubSliceProfiles → Prop) : Prop where
  nssais : ∀ snssai, snssai ∈ d.nssais ↔ ∃ profile, Q profile ∧ snssai.Is profile
  sessions : ∀ snssai, snssai ∈ d.sessions.map SessionManagementSubscriptionDatum.singleNssai ↔ ∃ profile, Q profile ∧ snssai.Is profile
  infos : ∀ key, key ∈ d.infos.keys ↔ ∃ profile, Q profile ∧ key = sliceKey profile
  policies : ∀ key, key ∈ d.policies.keys ↔ ∃ profile, Q profile ∧ key = sliceKey profile
  sessionDnns : ∀ datum ∈ d.sessions, ∀ profile, Q profile → datum.singleNssai.Is profile →
    ∀ dnn, dnn ∈ datum.dnnConfigurations.keys ↔ dnn ∈ profile.dnnList
  infoDnns : ∀ profile, Q profile → ∃ slice, d.infos.get? (sliceKey profile) = some slice ∧
    ∀ dnn, ⟨dnn⟩ ∈ slice.dnnInfos ↔ dnn ∈ profile.dnnList
  policyDnns : ∀ profile, Q profile → ∃ policy, d.policies.get? (sliceKey profile) = some policy ∧ policy.snssai.Is profile ∧
    ∀ dnn, dnn ∈ policy.smPolicyDnnData.keys ↔ dnn ∈ profile.dnnList

end SliceData

namespace Free5gcSubScriber

/-- What `clear_value` needs. -/
structure HasParts (s : Free5gcSubScriber) : Prop where
  access : s.accessAndMobilitySubscriptionData.isSome
  sessions : s.sessionManagementSubscriptionData.isSome
  infos : s.subscribedSnssaiInfos.isSome
  policies : s.smPolicySnssaiData.isSome
  flowRules : s.flowRules.isSome
  qosFlows : s.qosFlows.isSome
  chargingDatas : s.chargingDatas.isSome

def Complete (s : Free5gcSubScriber) : Prop :=
  s.HasParts ∧ s.authenticationSubscription.isSome

def sliceData (s : Free5gcSubScriber) : Option SliceData := do
  let access ← s.accessAndMobilitySubscriptionData
  let sessions ← s.sessionManagementSubscriptionData
  let infos ← s.subscribedSnssaiInfos
  let policies ← s.smPolicySnssaiData
  return ⟨access.nssai.defaultSingleNssais, sessions, infos, policies⟩

/-- The record without its slices, flows and charges. -/
def withoutSlices (s : Free5gcSubScriber) : Free5gcSubScriber where
  plmnId := s.plmnId
  ueId := s.ueId
  authenticationSubscription := s.authenticationSubscription
  accessAndMobilitySubscriptionData := s.accessAndMobilitySubscriptionData.map (fun access => { access with nssai := ⟨[], []⟩ })
  sessionManagementSubscriptionData := s.sessionManagementSubscriptionData.map (fun _ => [])
  subscribedSnssaiInfos := s.subscribedSnssaiInfos.map (fun _ => .empty)
  smPolicySnssaiData := s.smPolicySnssaiData.map (fun _ => .empty)
  flowRules := s.flowRules.map (fun _ => [])
  qosFlows := s.qosFlows.map (fun _ => [])
  chargingDatas := s.chargingDatas.map (fun _ => [])

/-- The update returns with the slices of the subscriber in the record, whatever slices were in it before, and
a second one changes nothing. -/
def Records (s : Free5gcSubScriber) (c : Create5gModel) (subscriber : SubSubscribers) (gpsi : Option String) : Prop :=
  ∃ r d, (updateSubscriberConfig subscriber.imsi c gpsi).run s = .ok () r ∧ r.sliceData = some d ∧ d.Holds (c.Subscribed subscriber) ∧
    (∀ t : Free5gcSubScriber, t.withoutSlices = s.withoutSlices → (updateSubscriberConfig subscriber.imsi c gpsi).run t = .ok () r) ∧
    (updateSubscriberConfig subscriber.imsi c gpsi).run r = .ok () r

end Free5gcSubScriber

/-- What is read of the parameters of a profile: the first flow of the first session, and the AMBR. -/
def SubProfileParams.Readable (params : SubProfileParams) : Prop :=
  (∃ session sessions flow flows n, params.pduSessions = session :: sessions ∧ session.flows = flow :: flows ∧
    PyInt.parse flow.qi = .ok n) ∧ params.sliceAmbr.isSome

namespace Free5gcSubScriber

theorem readable_iff {params : SubProfileParams} : params.Readable ↔ ∃ root, dnnInfoRoot params = .ok root := by
  unfold SubProfileParams.Readable dnnInfoRoot firstQi sessionAmbr
  constructor
  · rintro ⟨⟨session, sessions, flow, flows, n, hsessions, hflows, hn⟩, hambr⟩
    obtain ⟨ambr, hambr⟩ := Option.isSome_iff_exists.1 hambr
    refine ⟨⟨n, ⟨ambr, ambr⟩⟩, ?_⟩
    simp only [hsessions, hflows, hambr]
    show (PyInt.parse flow.qi >>= fun n => _) = _
    rw [hn]
    rfl
  · rintro ⟨root, h⟩
    obtain ⟨qi, hqi, h⟩ := except_bind_ok.1 h
    obtain ⟨n, hn, h⟩ := except_bind_ok.1 h
    obtain ⟨ambr, hambr, -⟩ := except_bind_ok.1 h
    constructor
    · split at hqi
      · cases hqi
      · rename_i session sessions hsessions
        split at hqi
        · cases hqi
        · rename_i flow flows hflows
          cases hqi
          exact ⟨session, sessions, flow, flows, n, hsessions, hflows, hn⟩
    · split at hambr
      · rename_i ambr' hsome
        rw [hsome]
        rfl
      · cases hambr

/-! ### Runs on records that have their parts -/

/-- The part of a record that is not about slices. -/
structure Header where
  plmnId : Option String
  ueId : Option String
  authentication : Option AuthenticationSubscription
  gpsis : List String

/-- A record that was cleared, with the slices added since. -/
def record (h : Header) (d : SliceData) : Free5gcSubScriber where
  plmnId := h.plmnId
  ueId := h.ueId
  authenticationSubscription := h.authentication
  accessAndMobilitySubscriptionData := some ⟨h.gpsis, ⟨d.nssais, []⟩⟩
  sessionManagementSubscriptionData := some d.sessions
  subscribedSnssaiInfos := some d.infos
  smPolicySnssaiData := some d.policies
  flowRules := some []
  qosFlows := some []
  chargingDatas := some []

def header (s : Free5gcSubScriber) : Header where
  plmnId := s.plmnId
  ueId := s.ueId
  authentication := s.authenticationSubscription
  gpsis := (s.accessAndMobilitySubscriptionData.map AccessAndMobilitySubscriptionData.gpsis).getD []

theorem withoutSlices_eq {s : Free5gcSubScriber} (h : s.HasParts) : s.withoutSlices = record s.header ⟨[], [], .empty, .empty⟩ := by
  obtain ⟨plmnId, ueId, auth, access, sessions, infos, policies, flowRules, qosFlows, chargingDatas⟩ := s
  obtain ⟨haccess, hsessions, hinfos, hpolicies, hflow, hqos, hcharging⟩ := h
  obtain ⟨access, rfl⟩ := Option.isSome_iff_exists.1 haccess
  obtain ⟨sessions, rfl⟩ := Option.isSome_iff_exists.1 hsessions
  obtain ⟨infos, rfl⟩ := Option.isSome_iff_exists.1 hinfos
  obtain ⟨policies, rfl⟩ := Option.isSome_iff_exists.1 hpolicies
  obtain ⟨flowRules, rfl⟩ := Option.isSome_iff_exists.1 hflow
  obtain ⟨qosFlows, rfl⟩ := Option.isSome_iff_exists.1 hqos
  obtain ⟨chargingDatas, rfl⟩ := Option.isSome_iff_exists.1 hcharging
  rfl

theorem HasParts.congr {s t : Free5gcSubScriber} (h : s.HasParts) (heq : t.withoutSlices = s.withoutSlices) : t.HasParts := by
  have hpart : ∀ {α : Type} (look : Free5gcSubScriber → Option α), (∀ s, (look s.withoutSlices).isSome = (look s).isSome) →
      (look s).isSome → (look t).isSome := by
    intro α look hlook hs
    rw [← hlook, heq, hlook]
    exact hs
  exact ⟨hpart _ (fun _ => Option.isSome_map) h.access, hpart _ (fun _ => Option.isSome_map) h.sessions,
    hpart _ (fun _ => Option.isSome_map) h.infos, hpart _ (fun _ => Option.isSome_map) h.policies,
    hpart _ (fun _ => Option.isSome_map) h.flowRules, hpart _ (fun _ => Option.isSome_map) h.qosFlows,
    hpart _ (fun _ => Option.isSome_map) h.chargingDatas⟩

theorem clearValue_ok {s : Free5gcSubScriber} (h : s.HasParts) : clearValue.run s = .ok () s.withoutSlices := by
  obtain ⟨plmnId, ueId, auth, access, sessions, infos, policies, flowRules, qosFlows, chargingDatas⟩ := s
  obtain ⟨haccess, hsessions, hinfos, hpolicies, hflow, hqos, hcharging⟩ := h
  obtain ⟨access, rfl⟩ := Option.isSome_iff_exists.1 haccess
  obtain ⟨sessions, rfl⟩ := Option.isSome_iff_exists.1 hsessions
  obtain ⟨infos, rfl⟩ := Option.isSome_iff_exists.1 hinfos
  obtain ⟨policies, rfl⟩ := Option.isSome_iff_exists.1 hpolicies
  obtain ⟨flowRules, rfl⟩ := Option.isSome_iff_exists.1 hflow
  obtain ⟨qosFlows, rfl⟩ := Option.isSome_iff_exists.1 hqos
  obtain ⟨chargingDatas, rfl⟩ := Option.isSome_iff_exists.1 hcharging
  rfl

section Parts

variable {look : Free5gcSubScriber → Option α} {put : α → Free5gcSubScriber → Free5gcSubScriber} {f : α → Except PyError α}
  {s s' : Free5gcSubScriber}

theorem onPart_ok (h : (onPart look put attr f).run s = .ok u s') :
    ∃ part part', look s = some part ∧ f part = .ok part' ∧ s' = put part' s := by
  unfold onPart at h
  cases hpart : look s with
  | none =>
    simp only [EStateM.run, hpart] at h
    cases h
  | some part =>
    cases hf : f part with
    | error e =>
      simp only [EStateM.run, hpart, hf] at h
      cases h
    | ok part' =>
      simp only [EStateM.run, hpart, hf] at h
      cases h
      exact ⟨part, part', rfl, hf, rfl⟩

end Parts

/-- `clear_value` reads all the parts. -/
theorem hasParts_of_clearValue {s : Free5gcSubScriber} (h : clearValue.run s = .ok u s') : s.HasParts := by
  obtain ⟨_, s₁, h₁, h⟩ := bind_ok_inv h
  obtain ⟨access, _, haccess, -, rfl⟩ := onPart_ok h₁
  obtain ⟨_, s₂, h₂, h⟩ := bind_ok_inv h
  obtain ⟨_, _, -, -, rfl⟩ := onPart_ok h₂
  obtain ⟨_, s₃, h₃, h⟩ := bind_ok_inv h
  obtain ⟨sessions, _, hsessions, -, rfl⟩ := onPart_ok h₃
  obtain ⟨_, s₄, h₄, h⟩ := bind_ok_inv h
  obtain ⟨infos, _, hinfos, -, rfl⟩ := onPart_ok h₄
  obtain ⟨_, s₅, h₅, h⟩ := bind_ok_inv h
  obtain ⟨policies, _, hpolicies, -, rfl⟩ := onPart_ok h₅
  obtain ⟨_, s₆, h₆, h⟩ := bind_ok_inv h
  obtain ⟨flows, _, hflows, -, rfl⟩ := onPart_ok h₆
  obtain ⟨_, s₇, h₇, h⟩ := bind_ok_inv h
  obtain ⟨qos, _, hqos, -, rfl⟩ := onPart_ok h₇
  obtain ⟨charging, _, hcharging, -, rfl⟩ := onPart_ok h
  exact ⟨Option.isSome_iff_exists.2 ⟨access, haccess⟩, Option.isSome_iff_exists.2 ⟨sessions, hsessions⟩,
    Option.isSome_iff_exists.2 ⟨infos, hinfos⟩, Option.isSome_iff_exists.2 ⟨policies, hpolicies⟩,
    Option.isSome_iff_exists.2 ⟨flows, hflows⟩, Option.isSome_iff_exists.2 ⟨qos, hqos⟩,
    Option.isSome_iff_exists.2 ⟨charging, hcharging⟩⟩

end Free5gcSubScriber

namespace SliceData
open Free5gcSubScriber

variable {d : SliceData} {profile : SubSliceProfiles}

/-- A data network is added to a slice that is in the dictionaries. -/
def addNet (profile : SubSliceProfiles) (slice : SliceDnn) (policy : SlicePolicy) (net : SubDataNets) (d : SliceData) : SliceData :=
  { d with
    infos := d.infos.set (sliceKey profile) ⟨slice.dnnInfos ++ [⟨net.dnn⟩]⟩
    policies := d.policies.set (sliceKey profile) { policy with smPolicyDnnData := policy.smPolicyDnnData.set net.dnn ⟨net.dnn⟩ } }

/-- The slice of the profile, with these DNNs, came to the dictionaries. -/
structure Opened (profile : SubSliceProfiles) (snssai : Free5gc.Snssai) (names : List String) (d d' : SliceData) : Prop where
  nssais : d'.nssais = d.nssais
  sessions : d'.sessions = d.sessions
  info : d'.infos.get? (sliceKey profile) = some ⟨names.map DnnInfoApi.mk⟩
  policy : ∃ policy, d'.policies.get? (sliceKey profile) = some policy ∧ policy.snssai = snssai ∧
    ∀ dnn, dnn ∈ policy.smPolicyDnnData.keys ↔ dnn ∈ names
  infos_other : ∀ key, key ≠ sliceKey profile → d'.infos.get? key = d.infos.get? key
  policies_other : ∀ key, key ≠ sliceKey profile → d'.policies.get? key = d.policies.get? key

end SliceData

namespace Free5gcSubScriber

variable {h : Header} {d d' : SliceData} {profile : SubSliceProfiles} {net : SubDataNets} {nets : List SubDataNets}
  {configurations : Dict String DnnInfoRoot}

theorem addDnn_run (h : Header) (configurations : Dict String DnnInfoRoot) (net : SubDataNets)
    (hroot : dnnInfoRoot profile.profileParams = .ok root) (hopen : SliceData.Opened profile snssai names d d') :
    ∃ d'', (addDnn profile configurations net).run (record h d') = .ok (configurations.set net.dnn root) (record h d'') ∧
      SliceData.Opened profile snssai (names ++ [net.dnn]) d d'' := by
  obtain ⟨policy, hpolicy, hsnssai, hkeys⟩ := hopen.policy
  refine ⟨d'.addNet profile ⟨names.map DnnInfoApi.mk⟩ policy net, ?_, ?_⟩
  · have hinfos : (onInfos (appendDnnInfo (sliceKey profile) net.dnn)).run (record h d') =
        .ok () (record h { d' with infos := d'.infos.set (sliceKey profile) ⟨names.map DnnInfoApi.mk ++ [⟨net.dnn⟩]⟩ }) := by
      unfold onInfos onPart appendDnnInfo
      simp only [EStateM.run, record, hopen.info]
    have hpolicies : ∀ infos, (onPolicies (setPolicyDnn (sliceKey profile) net.dnn)).run (record h { d' with infos := infos }) =
        .ok () (record h { d' with
          infos := infos
          policies := d'.policies.set (sliceKey profile) { policy with smPolicyDnnData := policy.smPolicyDnnData.set net.dnn ⟨net.dnn⟩ } }) := by
      intro infos
      unfold onPolicies onPart setPolicyDnn
      simp only [EStateM.run, record, hpolicy]
    unfold addDnn
    rw [hroot]
    show EStateM.run (onInfos _ >>= _) _ = _
    rw [run_bind_ok _ _ hinfos, run_bind_ok _ _ (hpolicies _)]
    rfl
  · refine ⟨hopen.nssais, hopen.sessions, ?_,
      ⟨{ policy with smPolicyDnnData := policy.smPolicyDnnData.set net.dnn ⟨net.dnn⟩ }, ?_, hsnssai, ?_⟩, ?_, ?_⟩
    · rw [SliceData.addNet, Dict.get?_set, if_pos rfl, List.map_append]
      rfl
    · rw [SliceData.addNet, Dict.get?_set, if_pos rfl]
    · intro dnn
      rw [Dict.mem_keys_set, hkeys, List.mem_append, List.mem_singleton, or_comm]
    · intro key hkey
      rw [SliceData.addNet, Dict.get?_set, if_neg hkey, hopen.infos_other key hkey]
    · intro key hkey
      rw [SliceData.addNet, Dict.get?_set, if_neg hkey, hopen.policies_other key hkey]

/-- The loop over the data networks of a slice. -/
theorem addDnns_run (configurations : Dict String DnnInfoRoot) (hroot : dnnInfoRoot profile.profileParams = .ok root) (hopen : SliceData.Opened profile snssai names d d') :
    ∃ configurations' d'', (nets.foldlM (addDnn profile) configurations).run (record h d') = .ok configurations' (record h d'') ∧
      (∀ dnn, dnn ∈ configurations'.keys ↔ dnn ∈ configurations.keys ∨ dnn ∈ nets.map SubDataNets.dnn) ∧
      SliceData.Opened profile snssai (names ++ nets.map SubDataNets.dnn) d d'' := by
  induction nets generalizing configurations names d' with
  | nil =>
    refine ⟨configurations, d', rfl, ?_, ?_⟩
    · simp
    · simpa using hopen
  | cons net nets ih =>
    obtain ⟨d₁, hrun, hopen₁⟩ := addDnn_run h configurations net hroot hopen
    obtain ⟨configurations', d'', hruns, hkeys, hopen'⟩ := ih (configurations.set net.dnn root) hopen₁
    refine ⟨configurations', d'', ?_, ?_, ?_⟩
    · rw [List.foldlM_cons, run_bind_ok _ _ hrun, hruns]
    · intro dnn
      rw [hkeys, Dict.mem_keys_set, List.map_cons, List.mem_cons]
      tauto
    · rw [List.map_cons, List.append_cons]
      exact hopen'

theorem addDnns_raises (hroot : ∀ root, dnnInfoRoot profile.profileParams ≠ .ok root) (hnets : nets ≠ []) :
    ∃ e s, (nets.foldlM (addDnn profile) configurations).run s' = .error e s := by
  obtain ⟨net, nets, rfl⟩ := List.exists_cons_of_ne_nil hnets
  cases hcase : dnnInfoRoot profile.profileParams with
  | ok root => exact absurd hcase (hroot root)
  | error e =>
    refine ⟨e, s', ?_⟩
    have hraise : (addDnn profile configurations net).run s' = .error e s' := by
      unfold addDnn
      rw [hcase]
      rfl
    rw [List.foldlM_cons, run_bind_error _ _ hraise]

/-- The data networks the loops over a slice's DNNs come to. -/
def netsOf (c : Create5gModel) (profile : SubSliceProfiles) : List SubDataNets :=
  profile.dnnList.flatMap (fun dnnSlice => c.config.networkEndpoints.dataNets.filter (fun net => decide (dnnSlice = net.dnn)))

theorem netsOf_eq (c : Create5gModel) (profile : SubSliceProfiles) :
    profile.dnnList.foldlM (fun configurations dnnSlice =>
      c.config.networkEndpoints.dataNets.foldlM (fun configurations net =>
        if dnnSlice = net.dnn then addDnn profile configurations net else pure configurations) configurations) Dict.empty =
      (netsOf c profile).foldlM (addDnn profile) Dict.empty := by
  rw [netsOf, ← Loops.foldlM_flatMap]
  simp only [List.foldlM_filter, decide_eq_true_eq]

theorem mem_netsOf {c : Create5gModel} (hclosed : c.Closed) (hprofile : profile ∈ c.profiles) (dnn : String) :
    dnn ∈ (netsOf c profile).map SubDataNets.dnn ↔ dnn ∈ profile.dnnList := by
  unfold netsOf
  constructor
  · intro hmem
    obtain ⟨net, hnet, rfl⟩ := List.mem_map.1 hmem
    obtain ⟨dnnSlice, hslice, hfilter⟩ := List.mem_flatMap.1 hnet
    exact of_decide_eq_true (List.mem_filter.1 hfilter).2 ▸ hslice
  · intro hmem
    obtain ⟨net, hnet, hdnn⟩ := hclosed.profiles profile hprofile dnn hmem
    exact List.mem_map.2 ⟨net, List.mem_flatMap.2 ⟨dnn, hmem, List.mem_filter.2 ⟨hnet, decide_eq_true hdnn.symm⟩⟩, hdnn⟩

theorem netsOf_ne_nil {c : Create5gModel} (hclosed : c.Closed) (hprofile : profile ∈ c.profiles) :
    netsOf c profile ≠ [] ↔ profile.dnnList ≠ [] := by
  have hmem := mem_netsOf hclosed hprofile
  constructor
  · rintro hnets hnil
    obtain ⟨net, hnet⟩ := List.exists_mem_of_ne_nil _ hnets
    have hbad := (hmem net.dnn).1 (List.mem_map_of_mem hnet)
    rw [hnil] at hbad
    cases hbad
  · intro hdnns hnil
    obtain ⟨dnn, hdnn⟩ := List.exists_mem_of_ne_nil _ hdnns
    have hbad := (hmem dnn).2 hdnn
    rw [hnil] at hbad
    cases hbad

/-- The state of the dictionaries when the loop over the DNNs starts. -/
theorem opened (snssai : Free5gc.Snssai) (d : SliceData) : SliceData.Opened profile snssai []
    { d with nssais := d.nssais ++ [snssai] }
    { d with
      nssais := d.nssais ++ [snssai]
      policies := d.policies.set (sliceKey profile) ⟨snssai, .empty⟩
      infos := d.infos.set (sliceKey profile) ⟨[]⟩ } := by
  refine ⟨rfl, rfl, ?_, ⟨⟨snssai, .empty⟩, ?_, rfl, fun dnn => Iff.rfl⟩, ?_, ?_⟩
  · rw [Dict.get?_set, if_pos rfl]
    rfl
  · rw [Dict.get?_set, if_pos rfl]
  · intro key hkey
    rw [Dict.get?_set, if_neg hkey]
  · intro key hkey
    rw [Dict.get?_set, if_neg hkey]

theorem sliceKey_id {profile' : SubSliceProfiles} (hkey : sliceKey profile = sliceKey profile') : profile.sliceId = profile'.sliceId := by
  have hdigit : ∀ t : SliceType, ∃ ch, (toString t.toInt).toList = [ch] := by
    intro t
    cases t with
    | embb => exact ⟨'1', by decide⟩
    | urllc => exact ⟨'2', by decide⟩
    | mmtc => exact ⟨'3', by decide⟩
  have hlist : ∀ profile : SubSliceProfiles, ∃ ch, (sliceKey profile).toList = '0' :: ch :: profile.sliceId.toList := by
    intro profile
    obtain ⟨ch, hch⟩ := hdigit profile.sliceType
    refine ⟨ch, ?_⟩
    have htext : sliceKey profile = "0" ++ toString profile.sliceType.toInt ++ profile.sliceId := rfl
    rw [htext, String.toList_append, String.toList_append, hch]
    rfl
  obtain ⟨ch, hch⟩ := hlist profile
  obtain ⟨ch', hch'⟩ := hlist profile'
  rw [hkey, hch'] at hch
  exact (String.toList_inj.1 (List.cons.inj (List.cons.inj hch).2).2).symm

theorem addDnns_returns (h : Header) (hroot : nets ≠ [] → ∃ root, dnnInfoRoot profile.profileParams = .ok root)
    (hopen : SliceData.Opened profile snssai [] d d') : ∃ configurations d'',
      (nets.foldlM (addDnn profile) Dict.empty).run (record h d') = .ok configurations (record h d'') ∧
      (∀ dnn, dnn ∈ configurations.keys ↔ dnn ∈ nets.map SubDataNets.dnn) ∧
      SliceData.Opened profile snssai (nets.map SubDataNets.dnn) d d'' := by
  by_cases hnets : nets = []
  · subst hnets
    exact ⟨Dict.empty, d', rfl, fun _ => Iff.rfl, hopen⟩
  · obtain ⟨root, hroot⟩ := hroot hnets
    obtain ⟨configurations, d'', hrun, hkeys, hopen'⟩ := addDnns_run Dict.empty hroot hopen
    refine ⟨configurations, d'', hrun, ?_, hopen'⟩
    intro dnn
    rw [hkeys]
    exact ⟨fun hmem => hmem.resolve_left List.not_mem_nil, .inr⟩

theorem addSlice_ok (c : Create5gModel) (h : Header) (d : SliceData) (hid : IsCode profile.sliceId)
    (hroot : netsOf c profile ≠ [] → ∃ root, dnnInfoRoot profile.profileParams = .ok root) : ∃ snssai configurations d₁,
      snssai.Is profile ∧ (∀ dnn, dnn ∈ configurations.keys ↔ dnn ∈ (netsOf c profile).map SubDataNets.dnn) ∧
      SliceData.Opened profile snssai ((netsOf c profile).map SubDataNets.dnn) { d with nssais := d.nssais ++ [snssai] } d₁ ∧
      (addSlice c profile).run (record h d) = .ok () (record h { d₁ with sessions := d₁.sessions ++ [⟨snssai, configurations⟩] }) := by
  obtain ⟨code, hcode, htext⟩ := check_code ⟨Nat.le_of_eq hid.1, (zfill_six hid.1).symm ▸ hid⟩ (fun hpadded => hpadded.2 hid.1)
  obtain ⟨configurations, d₁, hrun, hkeys, hopen⟩ := addDnns_returns h hroot (opened ⟨profile.sliceType.toInt, code⟩ d)
  refine ⟨⟨profile.sliceType.toInt, code⟩, configurations, d₁, ⟨rfl, htext⟩, hkeys, hopen, ?_⟩
  unfold addSlice
  rw [netsOf_eq]
  simp only [Free5gc.Snssai.make, hcode]
  show EStateM.run ((netsOf c profile).foldlM (addDnn profile) Dict.empty >>= _) _ = _
  exact run_bind_ok _ _ hrun

theorem addSlice_raises (c : Create5gModel) (h : Header) (d : SliceData) (hid : IsCode profile.sliceId)
    (hnets : netsOf c profile ≠ []) (hroot : ∀ root, dnnInfoRoot profile.profileParams ≠ .ok root) :
    ∃ e s, (addSlice c profile).run (record h d) = .error e s := by
  obtain ⟨code, hcode, htext⟩ := check_code ⟨Nat.le_of_eq hid.1, (zfill_six hid.1).symm ▸ hid⟩ (fun hpadded => hpadded.2 hid.1)
  unfold addSlice
  rw [netsOf_eq]
  simp only [Free5gc.Snssai.make, hcode]
  obtain ⟨e, s, hraise⟩ := addDnns_raises hroot hnets
  refine ⟨e, s, ?_⟩
  show EStateM.run ((netsOf c profile).foldlM (addDnn profile) Dict.empty >>= _) _ = _
  exact run_bind_error _ _ hraise

end Free5gcSubScriber

namespace SliceData
open Free5gcSubScriber

variable {d d₁ : SliceData} {profile : SubSliceProfiles} {Q : SubSliceProfiles → Prop} {snssai : Free5gc.Snssai}

theorem Is.id {profile' : SubSliceProfiles} (h : snssai.Is profile) (h' : snssai.Is profile') : profile.sliceId = profile'.sliceId :=
  h.2.symm.trans h'.2

theorem Is.unique {snssai' : Free5gc.Snssai} (h : snssai.Is profile) (h' : snssai'.Is profile) : snssai = snssai' := by
  obtain ⟨sst, ⟨sd, hsd⟩⟩ := snssai
  obtain ⟨sst', ⟨sd', hsd'⟩⟩ := snssai'
  obtain ⟨rfl, rfl⟩ := h
  obtain ⟨rfl, rfl⟩ := h'
  rfl

theorem mem_keys_opened {α : Type} {before after : Dict String α} {key : String} (hsome : ∃ v, after.get? key = some v)
    (hother : ∀ k, k ≠ key → after.get? k = before.get? k) (k : String) : k ∈ after.keys ↔ k ∈ before.keys ∨ k = key := by
  rw [Dict.mem_keys_iff, Dict.mem_keys_iff]
  by_cases hk : k = key
  · subst hk
    exact ⟨fun _ => .inr rfl, fun _ => hsome⟩
  · rw [hother k hk]
    exact ⟨.inl, fun h => h.resolve_right hk⟩

/-- The step of the loop over the slices. -/
theorem Holds.add (hd : d.Holds Q) (hids : ∀ p, Q p → p.sliceId = profile.sliceId → p = profile) (hsnssai : snssai.Is profile)
    (hnames : ∀ dnn, dnn ∈ names ↔ dnn ∈ profile.dnnList) (hkeys : ∀ dnn, dnn ∈ configurations.keys ↔ dnn ∈ names)
    (hopen : Opened profile snssai names { d with nssais := d.nssais ++ [snssai] } d₁) :
    ({ d₁ with sessions := d₁.sessions ++ [⟨snssai, configurations⟩] } : SliceData).Holds (fun p => Q p ∨ p = profile) := by
  have hor : ∀ {R : SubSliceProfiles → Prop}, (∃ p, (Q p ∨ p = profile) ∧ R p) ↔ (∃ p, Q p ∧ R p) ∨ R profile := by
    intro R
    constructor
    · rintro ⟨p, hp | rfl, hR⟩
      · exact .inl ⟨p, hp, hR⟩
      · exact .inr hR
    · rintro (⟨p, hp, hR⟩ | hR)
      · exact ⟨p, .inl hp, hR⟩
      · exact ⟨profile, .inr rfl, hR⟩
  have hmem : ∀ n : Free5gc.Snssai, n = snssai ↔ n.Is profile := by
    intro n
    constructor
    · rintro rfl
      exact hsnssai
    · exact fun hn => Is.unique hn hsnssai
  have hne : ∀ p, Q p → p ≠ profile → sliceKey p ≠ sliceKey profile := fun p hp hpne hkey => hpne (hids p hp (sliceKey_id hkey))
  obtain ⟨policy, hpolicy, hpsnssai, hpkeys⟩ := hopen.policy
  constructor
  · intro n
    rw [hor, ← hd.nssais, ← hmem]
    show n ∈ d₁.nssais ↔ _
    rw [hopen.nssais, List.mem_append, List.mem_singleton]
  · intro n
    rw [hor, ← hd.sessions, ← hmem, hopen.sessions, List.map_append, List.mem_append]
    simp
  · intro key
    rw [hor, ← hd.infos]
    exact mem_keys_opened ⟨_, hopen.info⟩ hopen.infos_other key
  · intro key
    rw [hor, ← hd.policies]
    exact mem_keys_opened ⟨_, hpolicy⟩ hopen.policies_other key
  · intro datum hdatum p hp his dnn
    have hdatum' : datum ∈ d.sessions ++ [⟨snssai, configurations⟩] := hopen.sessions ▸ hdatum
    rcases List.mem_append.1 hdatum' with hold | hnew
    · rcases hp with hp | rfl
      · exact hd.sessionDnns datum hold p hp his dnn
      · obtain ⟨q, hq, hqis⟩ := (hd.sessions datum.singleNssai).1 (List.mem_map_of_mem hold)
        rw [← hids q hq (Is.id hqis his)]
        exact hd.sessionDnns datum hold q hq hqis dnn
    · rw [List.mem_singleton.1 hnew] at his ⊢
      have heq : p = profile := by
        rcases hp with hp | rfl
        · exact hids p hp (Is.id his hsnssai)
        · rfl
      rw [heq, ← hnames]
      exact hkeys dnn
  · intro p hp
    by_cases hpp : p = profile
    · subst hpp
      refine ⟨_, hopen.info, fun dnn => ?_⟩
      rw [← hnames]
      simp
    · have hQ := hp.resolve_right hpp
      obtain ⟨slice, hslice, hdnns⟩ := hd.infoDnns p hQ
      exact ⟨slice, (hopen.infos_other _ (hne p hQ hpp)).trans hslice, hdnns⟩
  · intro p hp
    by_cases hpp : p = profile
    · subst hpp
      refine ⟨policy, hpolicy, hpsnssai ▸ hsnssai, fun dnn => ?_⟩
      rw [← hnames]
      exact hpkeys dnn
    · have hQ := hp.resolve_right hpp
      obtain ⟨policy', hpolicy', his, hdnns⟩ := hd.policyDnns p hQ
      exact ⟨policy', (hopen.policies_other _ (hne p hQ hpp)).trans hpolicy', his, hdnns⟩

end SliceData

namespace Free5gcSubScriber

/-! ### The update -/

variable {c : Create5gModel} {subscriber : SubSubscribers} {gpsi : Option String} {s : Free5gcSubScriber}

/-- The profiles the loops over the subscriber's slices come to. -/
def matched (c : Create5gModel) (subscriber : SubSubscribers) : List SubSliceProfiles :=
  subscriber.snssai.flatMap (fun slice =>
    c.profiles.filter (fun profile => decide (profile.sliceId = slice.sliceId ∧ profile.sliceType = slice.sliceType)))

theorem mem_matched : profile ∈ matched c subscriber ↔ c.Subscribed subscriber profile := by
  unfold matched Create5gModel.Subscribed
  simp only [List.mem_flatMap, List.mem_filter, decide_eq_true_eq]
  constructor
  · rintro ⟨slice, hslice, hprofile, heq⟩
    exact ⟨hprofile, slice, hslice, heq⟩
  · rintro ⟨hprofile, slice, hslice, heq⟩
    exact ⟨slice, hslice, hprofile, heq⟩

theorem matched_eq (hclosed : c.Closed) (hsub : subscriber ∈ c.config.subscribers) :
    forM subscriber.snssai (fun slice => do
      let profiles ← Generic5G.liftExcept (iterate c.config.sliceProfiles)
      forM profiles (fun profile =>
        if profile.sliceId = slice.sliceId ∧ profile.sliceType = slice.sliceType then addSlice c profile else pure ())) =
      forM (matched c subscriber) (addSlice c) := by
  cases hprofiles : c.config.sliceProfiles with
  | none =>
    have hnil : subscriber.snssai = [] := by
      cases hsnssai : subscriber.snssai with
      | nil => rfl
      | cons slice slices =>
        obtain ⟨profile, hprofile, -⟩ := hclosed.subscribers subscriber hsub slice (hsnssai ▸ List.mem_cons_self)
        rw [hprofiles] at hprofile
        cases hprofile
    rw [matched, hnil]
    rfl
  | some profiles =>
    have hc : c.profiles = profiles := by
      rw [Create5gModel.profiles, hprofiles]
      rfl
    rw [matched, ← Loops.forM_flatMap, hc]
    refine congrArg (forM subscriber.snssai) (funext fun slice => ?_)
    rw [← Loops.forM_filter]
    rfl

/-- The header after the update. -/
def Header.identify (c : Create5gModel) (gpsi : Option String) (subscriber : SubSubscribers) (h : Header) : Header where
  plmnId := some c.config.plmn
  ueId := some s!"imsi-{subscriber.imsi}"
  authentication := h.authentication.map (fun _ => ⟨subscriber.authenticationMethod, subscriber.k, subscriber.opc⟩)
  gpsis := match gpsi with
    | some gpsi => if gpsi ≠ "" then [s!"msisdn-{gpsi}"] else h.gpsis
    | none => h.gpsis

theorem Header.identify_again (c : Create5gModel) (gpsi : Option String) (subscriber : SubSubscribers) (h : Header) :
    (h.identify c gpsi subscriber).identify c gpsi subscriber = h.identify c gpsi subscriber := by
  obtain ⟨plmnId, ueId, authentication, gpsis⟩ := h
  unfold Header.identify
  cases authentication with
  | none =>
    cases gpsi with
    | none => rfl
    | some gpsi =>
      simp only [Option.map_none]
      split
      · rfl
      · rfl
  | some auth =>
    cases gpsi with
    | none => rfl
    | some gpsi =>
      simp only [Option.map_some]
      split
      · rfl
      · rfl

/-- What follows `clear_value`, on a record that has its key material. -/
theorem addSubscriber_run (gpsi : Option String) (hclosed : c.Closed) (hsub : subscriber ∈ c.config.subscribers) {h : Header} (d : SliceData)
    (hauth : h.authentication.isSome) (hplmn : h.plmnId = some c.config.plmn) :
    (addSubscriber c gpsi subscriber).run (record h d) =
      (forM (matched c subscriber) (addSlice c)).run (record (h.identify c gpsi subscriber) d) := by
  obtain ⟨plmnId, ueId, authentication, gpsis⟩ := h
  obtain ⟨auth, rfl⟩ := Option.isSome_iff_exists.1 hauth
  have hplmn : plmnId = some c.config.plmn := hplmn
  subst hplmn
  unfold addSubscriber
  rw [matched_eq hclosed hsub]
  cases gpsi with
  | none => rfl
  | some gpsi =>
    by_cases hgpsi : gpsi = ""
    · subst hgpsi
      rfl
    · simp only [Header.identify, ne_eq, hgpsi, not_false_eq_true, if_true]
      rfl

theorem addSubscriber_raises {h : Header} (d : SliceData) (hauth : h.authentication = none) :
    ∃ e s', (addSubscriber c gpsi subscriber).run (record h d) = .error e s' := by
  obtain ⟨plmnId, ueId, authentication, gpsis⟩ := h
  subst hauth
  unfold addSubscriber
  cases gpsi with
  | none => exact ⟨_, _, rfl⟩
  | some gpsi =>
    by_cases hgpsi : gpsi = ""
    · subst hgpsi
      exact ⟨_, _, rfl⟩
    · simp only [ne_eq, hgpsi, not_false_eq_true, if_true]
      exact ⟨_, _, rfl⟩

theorem update_run (hkeys : c.KeysUnique) (hsub : subscriber ∈ c.config.subscribers) (hparts : s.HasParts) :
    (updateSubscriberConfig subscriber.imsi c gpsi).run s =
      (addSubscriber c gpsi subscriber).run { s.withoutSlices with plmnId := some c.config.plmn } := by
  have hone : forM c.config.subscribers (fun sub => if subscriber.imsi = sub.imsi then addSubscriber c gpsi sub else pure ()) =
      addSubscriber c gpsi subscriber := by
    rw [Loops.forM_filter, Loops.filter_unique hkeys.subscribers hsub, List.forM_cons, List.forM_nil, bind_pure_unit]
  unfold updateSubscriberConfig
  rw [hone, run_bind_ok _ _ (clearValue_ok hparts)]
  rfl

theorem holds_empty : (⟨[], [], .empty, .empty⟩ : SliceData).Holds (fun profile => profile ∈ ([] : List SubSliceProfiles)) := by
  constructor
  · exact fun _ => ⟨fun hmem => (nomatch hmem), fun ⟨_, hmem, _⟩ => (nomatch hmem)⟩
  · exact fun _ => ⟨fun hmem => (nomatch hmem), fun ⟨_, hmem, _⟩ => (nomatch hmem)⟩
  · exact fun _ => ⟨fun hmem => (nomatch hmem), fun ⟨_, hmem, _⟩ => (nomatch hmem)⟩
  · exact fun _ => ⟨fun hmem => (nomatch hmem), fun ⟨_, hmem, _⟩ => (nomatch hmem)⟩
  · exact fun _ hmem => (nomatch hmem)
  · exact fun _ hmem => (nomatch hmem)
  · exact fun _ hmem => (nomatch hmem)

theorem eq_of_sliceId (hkeys : c.KeysUnique) (hp : profile ∈ c.profiles) (hq : profile' ∈ c.profiles)
    (hid : profile.sliceId = profile'.sliceId) : profile = profile' :=
  Option.some.inj ((hkeys.profiles.toMap_mem hp).symm.trans (hid ▸ hkeys.profiles.toMap_mem hq))

section Slices

variable (hclosed : c.Closed) (hkeys : c.KeysUnique) (hids : c.ValidSliceIds) (h : Header)

include hclosed hkeys hids

/-- One slice more. -/
theorem addSlice_holds (done : List SubSliceProfiles) (d : SliceData) (x : SubSliceProfiles) (hx : x ∈ matched c subscriber)
    (hI : (∀ p ∈ done, p ∈ c.profiles) ∧ d.Holds (fun p => p ∈ done)) (hread : x.dnnList ≠ [] → x.profileParams.Readable) :
    ∃ d', (addSlice c x).run (record h d) = .ok () (record h d') ∧
      (∀ p ∈ done ++ [x], p ∈ c.profiles) ∧ d'.Holds (fun p => p ∈ done ++ [x]) := by
  obtain ⟨hdone, hholds⟩ := hI
  have hprofile := (mem_matched.1 hx).1
  have hroot : netsOf c x ≠ [] → ∃ root, dnnInfoRoot x.profileParams = .ok root :=
    fun hnets => readable_iff.1 (hread ((netsOf_ne_nil hclosed hprofile).1 hnets))
  obtain ⟨snssai, configurations, d₁, his, hconf, hopen, hrun⟩ := addSlice_ok c h d (hids x hprofile) hroot
  have hadd := hholds.add (fun p hp hid => eq_of_sliceId hkeys (hdone p hp) hprofile hid) his (mem_netsOf hclosed hprofile) hconf hopen
  have hQ : (fun p => p ∈ done ∨ p = x) = (fun p => p ∈ done ++ [x]) := by
    funext p
    rw [List.mem_append, List.mem_singleton]
  rw [hQ] at hadd
  refine ⟨_, hrun, ?_, hadd⟩
  intro p hp
  rcases List.mem_append.1 hp with hp | hp
  · exact hdone p hp
  · exact List.mem_singleton.1 hp ▸ hprofile

/-- The loop over the slices. -/
theorem addSlices_ok (hread : ∀ profile, c.Subscribed subscriber profile → profile.dnnList ≠ [] → profile.profileParams.Readable) :
    ∃ d, (forM (matched c subscriber) (addSlice c)).run (record h ⟨[], [], .empty, .empty⟩) = .ok () (record h d) ∧
      d.Holds (c.Subscribed subscriber) := by
  obtain ⟨d, hrun, -, hholds⟩ := Loops.forM_embedded (record h) (P := fun x => x.dnnList ≠ [] → x.profileParams.Readable)
    (I := fun done d => (∀ p ∈ done, p ∈ c.profiles) ∧ d.Holds (fun p => p ∈ done))
    (addSlice_holds hclosed hkeys hids h) ⟨fun p hp => absurd hp List.not_mem_nil, holds_empty⟩ (fun x hx => hread x (mem_matched.1 hx))
  refine ⟨d, hrun, ?_⟩
  have hQ : (fun p => p ∈ [] ++ matched c subscriber) = c.Subscribed subscriber := by
    funext p
    rw [List.nil_append, mem_matched]
  exact hQ ▸ hholds

theorem addSlices_raises (hread : ¬ ∀ profile, c.Subscribed subscriber profile → profile.dnnList ≠ [] → profile.profileParams.Readable) :
    ∃ e s', (forM (matched c subscriber) (addSlice c)).run (record h ⟨[], [], .empty, .empty⟩) = .error e s' := by
  push Not at hread
  obtain ⟨profile, hsubscribed, hdnns, hnot⟩ := hread
  refine Loops.forM_embedded_raises (record h) (P := fun x => x.dnnList ≠ [] → x.profileParams.Readable)
    (I := fun done d => (∀ p ∈ done, p ∈ c.profiles) ∧ d.Holds (fun p => p ∈ done))
    (addSlice_holds hclosed hkeys hids h) ?_ ⟨fun p hp => absurd hp List.not_mem_nil, holds_empty⟩
    ⟨profile, mem_matched.2 hsubscribed, fun hbad => hnot (hbad hdnns)⟩
  intro d x hx hbad
  have hprofile := (mem_matched.1 hx).1
  rw [Classical.not_imp] at hbad
  refine addSlice_raises c h d (hids x hprofile) ((netsOf_ne_nil hclosed hprofile).2 hbad.1) ?_
  exact fun root hroot => hbad.2 (readable_iff.2 ⟨root, hroot⟩)

end Slices

/-- The record follows the profiles and the subscriber exactly when it has all its parts and the parameters of
each profile in use can be read. -/
theorem records_iff (s : Free5gcSubScriber) (c : Create5gModel) (subscriber : SubSubscribers) (gpsi : Option String)
    (hclosed : c.Closed) (hkeys : c.KeysUnique) (hids : c.ValidSliceIds) (hsub : subscriber ∈ c.config.subscribers) :
    s.Records c subscriber gpsi ↔ s.Complete ∧
      ∀ profile, c.Subscribed subscriber profile → profile.dnnList ≠ [] → profile.profileParams.Readable := by
  have hstart : s.HasParts → ({ s.withoutSlices with plmnId := some c.config.plmn } : Free5gcSubScriber) =
      record { s.header with plmnId := some c.config.plmn } ⟨[], [], .empty, .empty⟩ := by
    intro hparts
    rw [withoutSlices_eq hparts]
    rfl
  constructor
  · rintro ⟨r, d, hrun, -⟩
    have hparts : s.HasParts := by
      obtain ⟨_, s₁, hclear, -⟩ := bind_ok_inv hrun
      exact hasParts_of_clearValue hclear
    rw [update_run hkeys hsub hparts, hstart hparts] at hrun
    have hauth : s.authenticationSubscription.isSome := by
      by_contra hnone
      rw [Option.not_isSome_iff_eq_none] at hnone
      obtain ⟨e, s', hraise⟩ := addSubscriber_raises (h := { s.header with plmnId := some c.config.plmn }) _ hnone
      rw [hraise] at hrun
      cases hrun
    refine ⟨⟨hparts, hauth⟩, ?_⟩
    by_contra hread
    obtain ⟨e, s', hraise⟩ := addSlices_raises hclosed hkeys hids
      (Header.identify c gpsi subscriber { s.header with plmnId := some c.config.plmn }) hread
    rw [addSubscriber_run gpsi hclosed hsub _ hauth rfl, hraise] at hrun
    cases hrun
  · rintro ⟨⟨hparts, hauth⟩, hread⟩
    obtain ⟨d, hrun, hholds⟩ := addSlices_ok hclosed hkeys hids
      (Header.identify c gpsi subscriber { s.header with plmnId := some c.config.plmn }) hread
    have hfrom : ∀ t : Free5gcSubScriber, t.withoutSlices = s.withoutSlices →
        (updateSubscriberConfig subscriber.imsi c gpsi).run t =
          .ok () (record (Header.identify c gpsi subscriber { s.header with plmnId := some c.config.plmn }) d) := by
      intro t ht
      rw [update_run hkeys hsub (hparts.congr ht), ht, hstart hparts, addSubscriber_run gpsi hclosed hsub _ hauth rfl, hrun]
    refine ⟨_, d, hfrom s rfl, rfl, hholds, hfrom, ?_⟩
    have hparts' : (record (Header.identify c gpsi subscriber { s.header with plmnId := some c.config.plmn }) d).HasParts :=
      ⟨rfl, rfl, rfl, rfl, rfl, rfl, rfl⟩
    have hauth' : (Header.identify c gpsi subscriber { s.header with plmnId := some c.config.plmn }).authentication.isSome :=
      Option.isSome_map.trans hauth
    rw [update_run hkeys hsub hparts']
    have hagain := addSubscriber_run gpsi hclosed hsub ⟨[], [], .empty, .empty⟩ hauth' rfl
    rw [Header.identify_again, hrun] at hagain
    exact hagain

/-! ### A network with one slice -/

/-- The template that `add_ues` copies. -/
def subscriberConfig : Free5gcSubScriber where
  plmnId := some "20893"
  ueId := some "imsi-208930000000005"
  authenticationSubscription := some ⟨some "5G_AKA", "8baf473f2f8fd09487cccbd7097c6862", "8e27b6af0e692e750f32667a3b14605d"⟩
  accessAndMobilitySubscriptionData := some ⟨["msisdn-"], ⟨[], []⟩⟩
  sessionManagementSubscriptionData := some []
  subscribedSnssaiInfos := some .empty
  smPolicySnssaiData := some .empty
  flowRules := some []
  qosFlows := some []
  chargingDatas := some []

def internetProfile (ambr : Option String) : SubSliceProfiles where
  sliceId := "000001"
  sliceType := .embb
  dnnList := ["internet"]
  profileParams :=
    { isolationLevel := .noIsolation, sliceAmbr := ambr, pduSessions := [⟨"p0", none, [{ flowId := "f0", qi := "9" }]⟩] }
  locationConstraints := []
  enabledUEList := []

def internetSubscriber : SubSubscribers where
  imsi := "001010000000001"
  k := "8baf473f2f8fd09487cccbd7097c6862"
  opc := "8e27b6af0e692e750f32667a3b14605d"
  snssai := [{ sliceId := "000001", sliceType := .embb, pduSessionIds := ["p0"] }]

def internetConfig (ambr : Option String) : Create5gModel where
  config :=
    { networkEndpoints := { dataNets := [{ netName := "internet", dnn := "internet", dns := "8.8.8.8", pools := [⟨"10.250.0.0/16"⟩] }] }
      plmn := "00101"
      sliceProfiles := some [internetProfile ambr]
      subscribers := [internetSubscriber] }
  areas := []

theorem internetConfig_closed (ambr : Option String) : (internetConfig ambr).Closed := by
  refine ⟨fun area harea => absurd harea List.not_mem_nil, ?_, ?_⟩
  · intro profile hprofile dnn hdnn
    obtain rfl := List.mem_singleton.1 hprofile
    obtain rfl := List.mem_singleton.1 hdnn
    exact ⟨_, List.mem_cons_self, rfl⟩
  · intro subscriber hsub snssai hsnssai
    obtain rfl := List.mem_singleton.1 hsub
    obtain rfl := List.mem_singleton.1 hsnssai
    exact ⟨_, List.mem_cons_self, rfl⟩

theorem internetConfig_keys (ambr : Option String) : (internetConfig ambr).KeysUnique := by
  refine ⟨⟨?_, ?_, ?_, List.nodup_nil, fun area harea => absurd harea List.not_mem_nil⟩, ?_⟩
  · exact List.nodup_singleton _
  · exact List.nodup_singleton _
  · exact List.nodup_singleton _
  · exact List.nodup_singleton _

theorem internetConfig_ids (ambr : Option String) : (internetConfig ambr).ValidSliceIds := by
  intro profile hprofile
  obtain rfl := List.mem_singleton.1 hprofile
  exact (by decide : IsCode "000001")

theorem records_iff_internet : subscriberConfig.Records (internetConfig (some "1000Mbps")) internetSubscriber none := by
  refine (records_iff subscriberConfig _ internetSubscriber none (internetConfig_closed _) (internetConfig_keys _) (internetConfig_ids _)
    List.mem_cons_self).2 ⟨⟨⟨rfl, rfl, rfl, rfl, rfl, rfl, rfl⟩, rfl⟩, ?_⟩
  intro profile hprofile _
  obtain rfl := List.mem_singleton.1 hprofile.1
  exact ⟨⟨_, _, _, _, 9, rfl, rfl, by decide +kernel⟩, rfl⟩

/-- Every profile has a session with a flow with a decimal qi. -/
def HasFlows (c : Create5gModel) : Prop :=
  ∀ profile ∈ c.profiles, ∃ session ∈ profile.profileParams.pduSessions, ∃ flow ∈ session.flows, ∃ n, PyInt.parse flow.qi = .ok n

/-- A profile without a slice AMBR. -/
theorem records_fails : ¬ ∀ (s : Free5gcSubScriber) (c : Create5gModel) (subscriber : SubSubscribers) (gpsi : Option String),
    c.Closed → c.KeysUnique → c.ValidSliceIds → HasFlows c → subscriber ∈ c.config.subscribers → s.Records c subscriber gpsi := by
  intro hall
  have hflows : HasFlows (internetConfig none) := by
    intro profile hprofile
    obtain rfl := List.mem_singleton.1 hprofile
    exact ⟨_, List.mem_cons_self, _, List.mem_cons_self, 9, by decide +kernel⟩
  obtain ⟨r, d, hrun, -⟩ := hall subscriberConfig _ internetSubscriber none (internetConfig_closed _) (internetConfig_keys _)
    (internetConfig_ids _) hflows List.mem_cons_self
  have hraise : returned ((updateSubscriberConfig internetSubscriber.imsi (internetConfig none) none).run subscriberConfig) = none := by
    decide +kernel
  rw [hrun] at hraise
  cases hraise

end Free5gcSubScriber

end Nfvcl
