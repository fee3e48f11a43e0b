import Mathlib.Data.List.Basic
import Nfvcl.OaiCoreValues
import Nfvcl.SliceIdText

namespace Nfvcl
set_option autoImplicit true
open Effects KeyedList
open Free5gc (IsCode)

namespace OpenAirInterface

/-! ### Subscribers and `ue_dict` -/

/-- What `ue_dict` keeps of a slice. -/
def nssaiOf (first : SubSnssai) : Snssai :=
  ⟨first.sliceType.toInt, toString (idValue first.sliceId)⟩

/-- `ue_dict` records every subscriber, and no other, with the first of its slices. -/
structure Coupled (c : Create5gModel) (ueDict : List (String × List Snssai)) : Prop where
  keys : Unique Prod.fst ueDict
  imsis : (c.config.subscribers.map SubSubscribers.imsi).Nodup
  recorded : ∀ subscriber ∈ c.config.subscribers, ∃ first, subscriber.snssai.head? = some first ∧ StoredId first.sliceId ∧
    toMap Prod.fst ueDict subscriber.imsi = some (subscriber.imsi, [nssaiOf first])
  known : ∀ imsi ∈ ueDict.map Prod.fst, ∃ subscriber ∈ c.config.subscribers, subscriber.imsi = imsi

/-- The subscribers whose first slice it is. -/
def affected (c : Create5gModel) (sliceId : String) : List SubSubscribers :=
  c.config.subscribers.filter (fun subscriber => decide (subscriber.snssai.head?.map SubSnssai.sliceId = some sliceId))

/-- The puts for the DNNs of a slice. -/
def sessionPuts (c : Create5gModel) (imsi : String) (snssai : Snssai) (configurations : List DnnConfiguration) :
    List String → List UdrRequest
  | [] => []
  | dnn :: dnns =>
    match dnnConfiguration c dnn with
    | .ok configuration =>
      .putSession imsi c.config.plmn snssai (addConfiguration configurations configuration) ::
        sessionPuts c imsi snssai (addConfiguration configurations configuration) dnns
    | .error _ => []

/-- The requests that associate a subscriber anew with the DNNs of the slice. -/
def reassociation (c : Create5gModel) (dnns : List String) (subscriber : SubSubscribers) : List UdrRequest :=
  match subscriber.snssai.head? with
  | some first =>
    .deleteSession subscriber.imsi c.config.plmn (nssaiOf first) :: sessionPuts c subscriber.imsi (nssaiOf first) [] dnns
  | none => []

/-- The DNNs have what is sent of them. -/
def Writable (c : Create5gModel) (dnns : List String) : Prop :=
  ∀ dnn ∈ dnns, ∃ configuration, dnnConfiguration c dnn = .ok configuration

/-- The UDR carries out what it is asked. -/
structure Obeys (udr : Udr) : Prop where
  deletes : ∀ imsi plmn snssai n, udr (.deleteSession imsi plmn snssai) n = .ok 204
  puts : ∀ imsi plmn snssai configurations n, ∃ status, udr (.putSession imsi plmn snssai configurations) n = .ok status

/-- The state of a run, as far as the subscribers and the values of the chart depend on it. -/
structure At (c : Create5gModel) (ueDict : List (String × List Snssai)) (ips : Int → Except PyError IPv4Address)
    (requests : List UdrRequest) (s : Generic5GState UdrState) : Prop where
  config : s.currentConfig = some c
  ueDict : s.rest.ueDict = ueDict
  ips : deployedUpfIp s.rest.edgeAreas = ips
  requests : s.rest.requests = requests

/-- A step outside that returns, and leaves the subscribers and the addresses of the UPFs as they are. -/
def Quiet (step : OaiM Unit) : Prop :=
  ∀ s, ∃ s', step.run s = .ok () s' ∧ s'.currentConfig = s.currentConfig ∧ s'.rest.ueDict = s.rest.ueDict ∧
    deployedUpfIp s'.rest.edgeAreas = deployedUpfIp s.rest.edgeAreas

structure Steps.AllQuiet (steps : Steps) : Prop where
  updateCore : Quiet steps.updateCore
  updateEdgeAreas : Quiet steps.updateEdgeAreas
  updateGnbConfig : Quiet steps.updateGnbConfig

section Runs

variable {udr : Udr} {validateInt : String → Option Int} {steps : Steps} {c : Create5gModel} {s : Generic5GState UdrState}
  {ueDict : List (String × List Snssai)} {ips : Int → Except PyError IPv4Address} {requests : List UdrRequest} {imsi : String}

theorem returning_congr {edgeAreas edgeAreas' : List EdgeAreaInfo} (h : deployedUpfIp edgeAreas' = deployedUpfIp edgeAreas)
    (hreturning : Returning validateInt c edgeAreas) : Returning validateInt c edgeAreas' where
  aliases := by
    have haliases := hreturning.aliases
    unfold areaAliases at haliases ⊢
    rw [h]
    exact haliases
  upfs := by
    rw [h]
    exact hreturning.upfs
  snssais := hreturning.snssais
  slices := hreturning.slices
  ready := hreturning.ready

theorem onOai_step {step : OaiM Unit} (hquiet : Quiet step) (h : At c ueDict ips requests s) :
    Meets (onOai step) s (fun _ s' => At c ueDict ips requests s') (fun _ _ => False) := by
  unfold onOai
  rw [meets_zoom]
  obtain ⟨s', hrun, hconfig, hdict, hips⟩ := hquiet ⟨s.currentConfig, s.rest.toOaiState⟩
  exact meets_of_ok hrun ⟨hconfig.trans h.config, hdict.trans h.ueDict, hips.trans h.ips, h.requests⟩

theorem onOai_values {edgeAreas : List EdgeAreaInfo} (h : At c ueDict (deployedUpfIp edgeAreas) requests s) :
    Meets (onOai (updateCoreValues validateInt)) s
      (fun _ s' => Returning validateInt c edgeAreas ∧ At c ueDict (deployedUpfIp edgeAreas) requests s')
      (fun _ _ => ¬ Returning validateInt c edgeAreas) := by
  unfold onOai
  rw [meets_zoom]
  obtain ⟨config, r⟩ := s
  obtain rfl : config = some c := h.config
  unfold Meets
  cases hrun : (updateCoreValues validateInt).run ⟨some c, r.toOaiState⟩ with
  | ok u s' =>
    obtain ⟨hreturning, rfl⟩ := (updateCoreValues_ok_iff validateInt c r.toOaiState).1 hrun
    exact ⟨returning_congr h.ips.symm hreturning, rfl, h.ueDict, h.ips, h.requests⟩
  | error e s' =>
    intro hreturning
    have hok := (updateCoreValues_ok_iff validateInt c r.toOaiState).2 ⟨returning_congr h.ips hreturning, rfl⟩
    rw [hrun] at hok
    cases hok

theorem request_meets {req : UdrRequest} (hanswer : ∀ n, ∃ status, udr req n = .ok status) (h : At c ueDict ips requests s) :
    Meets (request udr req) s (fun status s' => (∃ n, udr req n = .ok status) ∧ At c ueDict ips (requests ++ [req]) s')
      (fun _ _ => False) := by
  obtain ⟨status, hstatus⟩ := hanswer s.rest.requests.length
  unfold Meets EStateM.run request
  rw [hstatus]
  exact ⟨⟨_, hstatus⟩, h.config, h.ueDict, h.ips, by rw [← h.requests]⟩

theorem onConfig_at {f : Create5gModel → Except PyError α} (attr : String) (h : At c ueDict ips requests s) :
    Meets (Generic5G.onConfig attr (do let c ← get; Generic5G.liftExcept (f c))) s
      (fun a s' => f c = .ok a ∧ s' = s) (fun e s' => f c = .error e ∧ s' = s) := by
  obtain ⟨config, r⟩ := s
  obtain rfl : config = some c := h.config
  unfold Meets
  rw [Generic5G.onConfig_run]
  cases hf : f c with
  | ok a =>
    simp only [EStateM.run_bind, EStateM.run_get, hf]
    exact ⟨rfl, rfl⟩
  | error e =>
    simp only [EStateM.run_bind, EStateM.run_get, hf]
    exact ⟨rfl, rfl⟩

theorem updateUes_at (f : List (String × List Snssai) → List (String × List Snssai)) (h : At c ueDict ips requests s) :
    Meets (updateUes f) s (fun _ s' => At c (f ueDict) ips requests s') (fun _ _ => False) :=
  ⟨h.config, congrArg f h.ueDict, h.ips, h.requests⟩

theorem putSessions_meets (hudr : Obeys udr) {snssai : Snssai} {configurations : List DnnConfiguration} {dnns : List String}
    (h : At c ueDict ips requests s) :
    Meets (putSessions udr imsi c.config.plmn snssai configurations dnns) s
      (fun _ s' => Writable c dnns ∧ At c ueDict ips (requests ++ sessionPuts c imsi snssai configurations dnns) s')
      (fun _ _ => ¬ Writable c dnns) := by
  induction dnns generalizing s configurations requests with
  | nil =>
    refine ⟨fun _ hdnn => (nomatch hdnn), h.config, h.ueDict, h.ips, ?_⟩
    rw [sessionPuts, List.append_nil]
    exact h.requests
  | cons dnn dnns ih =>
    unfold putSessions
    rw [meets_bind]
    apply (onConfig_at "config" h).mono
    · rintro configuration s₁ ⟨hconf, rfl⟩
      rw [meets_bind]
      apply (request_meets (hudr.puts _ _ _ _) h).mono
      · rintro status s₂ ⟨-, h₂⟩
        apply (ih h₂).mono
        · rintro _ s₃ ⟨hwritable, h₃⟩
          refine ⟨List.forall_mem_cons.2 ⟨⟨configuration, hconf⟩, hwritable⟩, ?_⟩
          rw [sessionPuts, hconf]
          rw [List.append_assoc] at h₃
          exact h₃
        · exact fun _ _ hnot hall => hnot fun dnn hdnn => hall dnn (List.mem_cons_of_mem _ hdnn)
      · exact fun _ _ hfalse => hfalse.elim
    · rintro e s₁ ⟨hconf, rfl⟩ hall
      obtain ⟨configuration, hok⟩ := hall dnn List.mem_cons_self
      rw [hok] at hconf
      cases hconf

theorem associating_meets (hudr : Obeys udr) (h : At c ueDict ips requests s) (hnew : imsi ∉ ueDict.map Prod.fst)
    (hsubscriber : getSubscriber c imsi = .ok subscriber) (hfirst : subscriber.snssai.head? = some first)
    (hslice : getSlice c first.sliceId = .ok profile) (hcode : IsCode first.sliceId) :
    Meets (associatingSubscriberWithSlice udr imsi) s
      (fun _ s' => Writable c profile.dnnList ∧ At c (ueDict ++ [(imsi, [nssaiOf first])]) ips
        (requests ++ sessionPuts c imsi (nssaiOf first) [] profile.dnnList) s')
      (fun _ _ => ¬ Writable c profile.dnnList) := by
  have hlookup : (do
      let subscriber ← getSubscriber c imsi
      let first ← firstSnssai subscriber
      let subSlice ← getSlice c first.sliceId
      let snssai ← singleNssai first
      return (subSlice, snssai, c.config.plmn)) = Except.ok (profile, nssaiOf first, c.config.plmn) := by
    rw [except_bind_ok]
    refine ⟨subscriber, hsubscriber, except_bind_ok.2 ⟨first, ?_, ?_⟩⟩
    · unfold firstSnssai
      cases hlist : subscriber.snssai with
      | nil =>
        rw [hlist] at hfirst
        cases hfirst
      | cons x xs =>
        rw [hlist] at hfirst
        exact congrArg Except.ok (Option.some.inj hfirst)
    · exact except_bind_ok.2 ⟨profile, hslice, except_bind_ok.2 ⟨nssaiOf first, singleNssai_eq hcode, rfl⟩⟩
  have hstore : storeUe imsi [nssaiOf first] ueDict = ueDict ++ [(imsi, [nssaiOf first])] := by
    unfold storeUe
    rw [if_neg]
    rw [Option.not_isSome_iff_eq_none, toMap_eq_none]
    exact fun p hp hkey => hnew (hkey ▸ List.mem_map_of_mem hp)
  unfold associatingSubscriberWithSlice
  rw [meets_bind, meets_get, if_neg (by rw [h.ueDict]; exact hnew)]
  rw [meets_bind]
  apply (onConfig_at "config" h).mono
  · rintro found s₁ ⟨hfound, rfl⟩
    rw [hlookup] at hfound
    cases hfound
    dsimp only
    rw [meets_bind]
    apply (updateUes_at _ h).mono
    · intro _ s₂ h₂
      rw [hstore] at h₂
      exact putSessions_meets hudr h₂
    · exact fun _ _ hfalse => hfalse.elim
  · rintro e s₁ ⟨hfound, -⟩
    rw [hlookup] at hfound
    cases hfound

theorem removeSms_single {sms : Snssai} (hentry : toMap Prod.fst ueDict imsi = some (imsi, [sms])) :
    removeSms imsi sms ueDict = KeyedList.erase Prod.fst ueDict imsi := by
  unfold removeSms
  rw [hentry]
  dsimp only
  rw [List.erase_cons_head, if_pos rfl]

theorem disassociating_meets (hudr : Obeys udr) (hsteps : steps.AllQuiet) {edgeAreas : List EdgeAreaInfo}
    (h : At c ueDict (deployedUpfIp edgeAreas) requests s) {sms : Snssai} (hentry : toMap Prod.fst ueDict imsi = some (imsi, [sms])) :
    Meets (disassociatingSubscriberFromSlice udr validateInt steps imsi) s
      (fun _ s' => Returning validateInt c edgeAreas ∧ At c (KeyedList.erase Prod.fst ueDict imsi) (deployedUpfIp edgeAreas)
        (requests ++ [.deleteSession imsi c.config.plmn sms]) s')
      (fun _ _ => ¬ Returning validateInt c edgeAreas) := by
  have hloop : Meets (disassociateFrom udr imsi c.config.plmn [sms].length 0) s
      (fun _ s' => At c (KeyedList.erase Prod.fst ueDict imsi) (deployedUpfIp edgeAreas)
        (requests ++ [.deleteSession imsi c.config.plmn sms]) s') (fun _ _ => False) := by
    show Meets (disassociateFrom udr imsi c.config.plmn (0 + 1) 0) _ _ _
    unfold disassociateFrom
    rw [meets_bind, meets_get, h.ueDict, hentry]
    dsimp only [Option.map_some, Option.getD_some, List.getElem?_cons_zero]
    rw [meets_bind]
    apply (request_meets (fun n => ⟨204, hudr.deletes _ _ _ n⟩) h).mono
    · rintro status s₁ ⟨⟨n, hstatus⟩, h₁⟩
      obtain rfl : 204 = status := Except.ok.inj ((hudr.deletes _ _ _ n).symm.trans hstatus)
      rw [if_pos rfl, meets_bind]
      apply (updateUes_at _ h₁).mono
      · intro _ s₂ h₂
        rw [removeSms_single hentry] at h₂
        exact h₂
      · exact fun _ _ hfalse => hfalse
    · exact fun _ _ hfalse => hfalse
  unfold disassociatingSubscriberFromSlice
  rw [meets_bind, meets_get, h.ueDict, hentry]
  dsimp only
  rw [meets_bind]
  apply (onConfig_at (f := fun c => .ok c.config.plmn) "config" h).mono
  · rintro plmn s₁ ⟨hplmn, rfl⟩
    cases hplmn
    rw [meets_bind]
    apply hloop.mono
    · intro _ s₂ h₂
      rw [meets_bind]
      apply (onOai_values h₂).mono
      · rintro _ s₃ ⟨hreturning, h₃⟩
        rw [meets_bind]
        apply (onOai_step hsteps.updateCore h₃).mono
        · intro _ s₄ h₄
          apply (onOai_step hsteps.updateGnbConfig h₄).mono
          · exact fun _ s₅ h₅ => ⟨hreturning, h₅⟩
          · exact fun _ _ hfalse => hfalse.elim
        · exact fun _ _ hfalse => hfalse.elim
      · exact fun _ _ hno => hno
    · exact fun _ _ hfalse => hfalse.elim
  · rintro e s₁ ⟨hplmn, -⟩
    cases hplmn

/-! ### `update_slice` -/

theorem Coupled.getSubscriber (h : Coupled c ueDict) (hsubscriber : subscriber ∈ c.config.subscribers) :
    OpenAirInterface.getSubscriber c subscriber.imsi = .ok subscriber := by
  have hfound : toMap SubSubscribers.imsi c.config.subscribers subscriber.imsi = some subscriber :=
    Unique.toMap_mem h.imsis hsubscriber
  unfold OpenAirInterface.getSubscriber
  unfold toMap at hfound
  rw [hfound]

/-- Deleting the entry of a subscriber and recording it again. -/
theorem Coupled.renewed (h : Coupled c ueDict) (hsubscriber : subscriber ∈ c.config.subscribers)
    (hfirst : subscriber.snssai.head? = some first) (hid : StoredId first.sliceId) :
    Coupled c (KeyedList.erase Prod.fst ueDict subscriber.imsi ++ [(subscriber.imsi, [nssaiOf first])]) ∧
      subscriber.imsi ∉ (KeyedList.erase Prod.fst ueDict subscriber.imsi).map Prod.fst := by
  have hgone : toMap Prod.fst (KeyedList.erase Prod.fst ueDict subscriber.imsi) subscriber.imsi = none := by
    rw [toMap_erase h.keys, Function.update_self]
  have hnew : subscriber.imsi ∉ (KeyedList.erase Prod.fst ueDict subscriber.imsi).map Prod.fst := by
    intro hmem
    obtain ⟨p, hp, hkey⟩ := List.mem_map.1 hmem
    exact toMap_eq_none.1 hgone p hp hkey
  refine ⟨⟨(h.keys.erase _).append hgone, h.imsis, ?_, ?_⟩, hnew⟩
  · intro other hother
    obtain ⟨first', hfirst', hid', hentry⟩ := h.recorded other hother
    by_cases heq : other.imsi = subscriber.imsi
    · have hsame : other = subscriber := by
        have hfound := Unique.toMap_mem h.imsis hother
        rw [heq, Unique.toMap_mem h.imsis hsubscriber] at hfound
        exact (Option.some.inj hfound).symm
      subst hsame
      refine ⟨first, hfirst, hid, ?_⟩
      have happend := @toMap_append _ _ _ Prod.fst (KeyedList.erase Prod.fst ueDict other.imsi) (other.imsi, [nssaiOf first]) hgone
      rw [happend]
      exact Function.update_self _ _ _
    · refine ⟨first', hfirst', hid', ?_⟩
      have hne : subscriber.imsi ≠ other.imsi := fun h => heq h.symm
      rw [toMap_append_of_ne (a := (subscriber.imsi, [nssaiOf first])) hne, toMap_erase_of_ne hne]
      exact hentry
  · intro imsi himsi
    rw [List.map_append] at himsi
    rcases List.mem_append.1 himsi with hold | hadded
    · exact h.known imsi (((erase_sublist _ _ _).map _).subset hold)
    · exact ⟨subscriber, hsubscriber, (List.mem_singleton.1 hadded).symm⟩

theorem reassociate_meets (hudr : Obeys udr) (hsteps : steps.AllQuiet) {edgeAreas : List EdgeAreaInfo} (hcoupled : Coupled c ueDict)
    (h : At c ueDict (deployedUpfIp edgeAreas) requests s) (hsubscriber : subscriber ∈ c.config.subscribers)
    (hslice : ∀ first, subscriber.snssai.head? = some first → getSlice c first.sliceId = .ok profile) :
    Meets (reassociate udr validateInt steps subscriber) s
      (fun _ s' => (Returning validateInt c edgeAreas ∧ Writable c profile.dnnList) ∧ ∃ ueDict', Coupled c ueDict' ∧
        At c ueDict' (deployedUpfIp edgeAreas) (requests ++ reassociation c profile.dnnList subscriber) s')
      (fun _ _ => ¬ (Returning validateInt c edgeAreas ∧ Writable c profile.dnnList)) := by
  obtain ⟨first, hfirst, hid, hentry⟩ := hcoupled.recorded subscriber hsubscriber
  obtain ⟨hrenewed, hnew⟩ := hcoupled.renewed hsubscriber hfirst hid
  unfold reassociate
  rw [meets_bind]
  apply (disassociating_meets hudr hsteps h hentry).mono
  · rintro _ s₁ ⟨hreturning, h₁⟩
    apply (associating_meets hudr h₁ hnew (hcoupled.getSubscriber hsubscriber) hfirst (hslice first hfirst) hid.1).mono
    · rintro _ s₂ ⟨hwritable, h₂⟩
      refine ⟨⟨hreturning, hwritable⟩, _, hrenewed, ?_⟩
      rw [List.append_assoc] at h₂
      unfold reassociation
      rw [hfirst]
      exact h₂
    · exact fun _ _ hnot hall => hnot hall.2
  · exact fun _ _ hnot hall => hnot hall.1

theorem reassociates_meets (hudr : Obeys udr) (hsteps : steps.AllQuiet) {edgeAreas : List EdgeAreaInfo} (hcoupled : Coupled c ueDict)
    (h : At c ueDict (deployedUpfIp edgeAreas) requests s) {subscribers : List SubSubscribers}
    (hsubscribers : ∀ subscriber ∈ subscribers, subscriber ∈ c.config.subscribers)
    (hslice : ∀ subscriber ∈ subscribers, ∀ first, subscriber.snssai.head? = some first → getSlice c first.sliceId = .ok profile) :
    Meets (forM subscribers (reassociate udr validateInt steps)) s
      (fun _ s' => (subscribers ≠ [] → Returning validateInt c edgeAreas ∧ Writable c profile.dnnList) ∧ ∃ ueDict', Coupled c ueDict' ∧
        At c ueDict' (deployedUpfIp edgeAreas) (requests ++ subscribers.flatMap (reassociation c profile.dnnList)) s')
      (fun _ _ => ¬ (Returning validateInt c edgeAreas ∧ (subscribers ≠ [] → Writable c profile.dnnList))) := by
  induction subscribers generalizing s ueDict requests with
  | nil =>
    refine ⟨fun hne => absurd rfl hne, ueDict, hcoupled, ?_⟩
    rw [List.flatMap_nil, List.append_nil]
    exact h
  | cons subscriber subscribers ih =>
    rw [List.forM_cons, meets_bind]
    apply (reassociate_meets hudr hsteps hcoupled h (hsubscribers _ List.mem_cons_self) (hslice _ List.mem_cons_self)).mono
    · rintro _ s₁ ⟨hgood, ueDict₁, hcoupled₁, h₁⟩
      apply (ih hcoupled₁ h₁ (fun x hx => hsubscribers x (List.mem_cons_of_mem _ hx))
        fun x hx => hslice x (List.mem_cons_of_mem _ hx)).mono
      · rintro _ s₂ ⟨-, ueDict₂, hcoupled₂, h₂⟩
        refine ⟨fun _ => hgood, ueDict₂, hcoupled₂, ?_⟩
        rw [List.append_assoc, ← List.flatMap_cons] at h₂
        exact h₂
      · exact fun _ _ hnot _ => hnot ⟨hgood.1, fun _ => hgood.2⟩
    · exact fun _ _ hnot hall => hnot ⟨hall.1, hall.2 (List.cons_ne_nil _ _)⟩

/-- The subscribers that `update_slice` decodes the slice for. -/
def decoded (c : Create5gModel) (sliceId : String) : List SubSubscribers :=
  c.config.subscribers.filter (fun subscriber =>
    decide (subscriber.snssai.head?.map (fun first => loweredId first.sliceId) = some sliceId))

theorem decoded_eq (hcoupled : Coupled c ueDict) {sliceId : String} (hid : StoredId sliceId) :
    decoded c sliceId = if DecimalId sliceId then affected c sliceId else [] := by
  have hiff : ∀ subscriber ∈ c.config.subscribers, subscriber.snssai.head?.map (fun first => loweredId first.sliceId) = some sliceId ↔
      subscriber.snssai.head?.map SubSnssai.sliceId = some sliceId ∧ DecimalId sliceId := by
    intro subscriber hsubscriber
    obtain ⟨first, hfirst, hstored, -⟩ := hcoupled.recorded subscriber hsubscriber
    rw [hfirst, Option.map_some, Option.map_some, Option.some.injEq, Option.some.injEq]
    exact loweredId_eq_iff hstored hid
  unfold decoded
  split
  · rename_i hdecimal
    refine List.filter_congr fun subscriber hsubscriber => ?_
    rw [decide_eq_decide, hiff subscriber hsubscriber]
    exact and_iff_left hdecimal
  · rename_i hdecimal
    rw [List.filter_eq_nil_iff]
    intro subscriber hsubscriber hbad
    exact hdecimal ((hiff subscriber hsubscriber).1 (of_decide_eq_true hbad)).2

theorem subscribersOf_eq (hcoupled : Coupled c ueDict) (hsubscriber : subscriber ∈ c.config.subscribers) (sliceId : String) :
    subscribersOf ueDict sliceId subscriber = .ok
      (if subscriber.snssai.head?.map (fun first => loweredId first.sliceId) = some sliceId then [subscriber] else []) := by
  obtain ⟨first, hfirst, hstored, hentry⟩ := hcoupled.recorded subscriber hsubscriber
  have hids : [nssaiOf first].mapM (fun snssai => recoveredSliceId snssai.sd) = .ok [loweredId first.sliceId] := by
    rw [mapM_ok_iff]
    exact .cons (recoveredSliceId_eq hstored.1) .nil
  unfold subscribersOf
  rw [hentry]
  dsimp only
  rw [hids, hfirst]
  simp only [Option.map_some, Option.some.injEq]
  show Except.ok (([loweredId first.sliceId].filter (fun id => decide (id = sliceId))).map (fun _ => subscriber)) = _
  by_cases heq : loweredId first.sliceId = sliceId
  · rw [if_pos heq, List.filter_cons_of_pos (by simpa using heq)]
    rfl
  · rw [if_neg heq, List.filter_cons_of_neg (by simpa using heq)]
    rfl

theorem flatten_ite (p : α → Prop) [DecidablePred p] (xs : List α) :
    (xs.map (fun x => if p x then [x] else [])).flatten = xs.filter (fun x => decide (p x)) := by
  induction xs with
  | nil => rfl
  | cons x xs ih =>
    rw [List.map_cons, List.flatten_cons, ih]
    by_cases hx : p x
    · rw [if_pos hx, List.filter_cons_of_pos (by simpa using hx)]
      rfl
    · rw [if_neg hx, List.filter_cons_of_neg (by simpa using hx)]
      rfl

theorem mapM_subscribersOf (hcoupled : Coupled c ueDict) (sliceId : String) :
    ∃ lists, c.config.subscribers.mapM (subscribersOf ueDict sliceId) = .ok lists ∧ lists.flatten = decoded c sliceId := by
  refine ⟨c.config.subscribers.map (fun subscriber =>
    if subscriber.snssai.head?.map (fun first => loweredId first.sliceId) = some sliceId then [subscriber] else []), ?_, flatten_ite _ _⟩
  rw [mapM_ok_iff, List.forall₂_map_right_iff, List.forall₂_same]
  exact fun subscriber hsubscriber => subscribersOf_eq hcoupled hsubscriber sliceId

theorem getSlice_ok_iff {sliceId : String} : getSlice c sliceId = .ok profile ↔
    ∃ profiles, c.config.sliceProfiles = some profiles ∧ toMap SubSliceProfiles.sliceId profiles sliceId = some profile := by
  unfold getSlice toMap
  cases c.config.sliceProfiles with
  | none =>
    constructor
    · intro h
      cases h
    · rintro ⟨profiles, h, -⟩
      cases h
  | some profiles =>
    rw [except_bind_ok]
    constructor
    · rintro ⟨_, hprofiles, h⟩
      cases hprofiles
      refine ⟨profiles, rfl, ?_⟩
      split at h
      · rename_i found hfound
        rw [hfound]
        exact congrArg some (Except.ok.inj h)
      · cases h
    · rintro ⟨_, hprofiles, h⟩
      cases hprofiles
      refine ⟨profiles, rfl, ?_⟩
      rw [h]
      rfl

/-- The slice is found with its new profile. -/
theorem getSlice_replaceProfile {m old : SubSliceProfiles} (hold : getSlice c m.sliceId = .ok old)
    (hunique : (c.profiles.map SubSliceProfiles.sliceId).Nodup) : getSlice (replaceProfile old m c) m.sliceId = .ok m := by
  obtain ⟨profiles, hprofiles, hfind⟩ := getSlice_ok_iff.1 hold
  have hnodup : (profiles.map SubSliceProfiles.sliceId).Nodup := by
    rw [Create5gModel.profiles, hprofiles] at hunique
    exact hunique
  have hrest : toMap SubSliceProfiles.sliceId (profiles.erase old) m.sliceId = none := by
    rw [toMap_eq_none]
    intro other hother heq
    have hsame : other = old := List.inj_on_of_nodup_map hnodup (List.mem_of_mem_erase hother) (toMap_some_mem hfind)
      (heq.trans (toMap_some_key hfind).symm)
    rw [hsame, (List.Nodup.of_map _ hnodup).mem_erase_iff] at hother
    exact hother.1 rfl
  refine getSlice_ok_iff.2 ⟨profiles.erase old ++ [m], ?_, ?_⟩
  · show c.config.sliceProfiles.map _ = _
    rw [hprofiles]
    rfl
  · rw [toMap_append hrest]
    exact Function.update_self _ _ _

theorem replaceProfile_at {m old : SubSliceProfiles} (h : At c ueDict ips requests s) :
    Meets (Generic5G.onConfig "config" (modify (replaceProfile old m))) s
      (fun _ s' => At (replaceProfile old m c) ueDict ips requests s') (fun _ _ => False) := by
  obtain ⟨config, r⟩ := s
  obtain rfl : config = some c := h.config
  exact ⟨rfl, h.ueDict, h.ips, h.requests⟩

theorem updateSlice_meets (validateInt : String → Option Int) (hudr : Obeys udr) (hsteps : steps.AllQuiet) {edgeAreas : List EdgeAreaInfo} (hcoupled : Coupled c ueDict)
    (h : At c ueDict (deployedUpfIp edgeAreas) requests s) {m old : SubSliceProfiles} (hid : StoredId m.sliceId)
    (hold : getSlice c m.sliceId = .ok old) (hunique : (c.profiles.map SubSliceProfiles.sliceId).Nodup)
    (hdnns : ∀ dnn ∈ m.dnnList, ∃ net, getDnn c dnn = .ok net) :
    Meets (updateSlice udr validateInt steps m) s
      (fun _ s' => (Returning validateInt (replaceProfile old m c) edgeAreas ∧
          (decoded c m.sliceId ≠ [] → Writable (replaceProfile old m c) m.dnnList)) ∧
        ∃ ueDict', Coupled (replaceProfile old m c) ueDict' ∧ At (replaceProfile old m c) ueDict' (deployedUpfIp edgeAreas)
          (requests ++ (decoded c m.sliceId).flatMap (reassociation (replaceProfile old m c) m.dnnList)) s')
      (fun _ _ => ¬ (Returning validateInt (replaceProfile old m c) edgeAreas ∧
        (decoded c m.sliceId ≠ [] → Writable (replaceProfile old m c) m.dnnList))) := by
  obtain ⟨lists, hlists, hflatten⟩ := mapM_subscribersOf hcoupled m.sliceId
  obtain ⟨nets, hnets⟩ := exists_mapM_ok.2 hdnns
  have hlookup : (do
      let oldSlice ← getSlice c m.sliceId
      let _ ← m.dnnList.mapM (getDnn c)
      let subscribers ← c.config.subscribers.mapM (subscribersOf s.rest.ueDict m.sliceId)
      return (oldSlice, subscribers.flatten)) = Except.ok (old, decoded c m.sliceId) := by
    rw [except_bind_ok]
    refine ⟨old, hold, except_bind_ok.2 ⟨nets, hnets, except_bind_ok.2 ⟨lists, ?_, ?_⟩⟩⟩
    · rw [h.ueDict]
      exact hlists
    · rw [hflatten]
      rfl
  have hsubscribers : ∀ subscriber ∈ decoded c m.sliceId, subscriber ∈ (replaceProfile old m c).config.subscribers :=
    fun subscriber hsubscriber => List.mem_of_mem_filter hsubscriber
  have hslice : ∀ subscriber ∈ decoded c m.sliceId, ∀ first, subscriber.snssai.head? = some first →
      getSlice (replaceProfile old m c) first.sliceId = .ok m := by
    intro subscriber hsubscriber first hfirst
    obtain ⟨hmem, hdecoded⟩ := List.mem_filter.1 hsubscriber
    obtain ⟨first', hfirst', hstored, -⟩ := hcoupled.recorded subscriber hmem
    rw [hfirst] at hfirst'
    cases hfirst'
    have heq := of_decide_eq_true hdecoded
    rw [hfirst, Option.map_some] at heq
    rw [((loweredId_eq_iff hstored hid).1 (Option.some.inj heq)).1]
    exact getSlice_replaceProfile hold hunique
  have hcoupled' : Coupled (replaceProfile old m c) ueDict := ⟨hcoupled.keys, hcoupled.imsis, hcoupled.recorded, hcoupled.known⟩
  unfold updateSlice
  rw [meets_bind, meets_get, meets_bind]
  apply (onConfig_at "config" h).mono
  · rintro found s₁ ⟨hfound, rfl⟩
    rw [hlookup] at hfound
    cases hfound
    dsimp only
    rw [meets_bind]
    apply (replaceProfile_at h).mono
    · intro _ s₂ h₂
      rw [meets_bind]
      apply (reassociates_meets hudr hsteps hcoupled' h₂ hsubscribers hslice).mono
      · rintro _ s₃ ⟨hgood, ueDict₃, hcoupled₃, h₃⟩
        rw [meets_bind]
        apply (onOai_values h₃).mono
        · rintro _ s₄ ⟨hreturning, h₄⟩
          rw [meets_bind]
          apply (onOai_step hsteps.updateCore h₄).mono
          · intro _ s₅ h₅
            rw [meets_bind]
            apply (onOai_step hsteps.updateEdgeAreas h₅).mono
            · intro _ s₆ h₆
              apply (onOai_step hsteps.updateGnbConfig h₆).mono
              · exact fun _ s₇ h₇ => ⟨⟨hreturning, fun hne => (hgood hne).2⟩, ueDict₃, hcoupled₃, h₇⟩
              · exact fun _ _ hfalse => hfalse.elim
            · exact fun _ _ hfalse => hfalse.elim
          · exact fun _ _ hfalse => hfalse.elim
        · exact fun _ _ hnot hall => hnot hall.1
      · exact fun _ _ hnot => hnot
    · exact fun _ _ hfalse => hfalse.elim
  · rintro e s₁ ⟨hfound, -⟩
    rw [hlookup] at hfound
    cases hfound

/-! ### `del_slice` -/

/-- The sd of the subscriber's first slice reads like the slice id. -/
def Mistaken (c : Create5gModel) (sliceId imsi : String) : Prop :=
  ∃ subscriber ∈ c.config.subscribers, subscriber.imsi = imsi ∧
    ∃ first, subscriber.snssai.head? = some first ∧ toString (idValue first.sliceId) = sliceId

theorem Coupled.entry (h : Coupled c ueDict) (himsi : imsi ∈ ueDict.map Prod.fst) :
    ∃ subscriber ∈ c.config.subscribers, subscriber.imsi = imsi ∧ ∃ first, subscriber.snssai.head? = some first ∧
      toMap Prod.fst ueDict imsi = some (imsi, [nssaiOf first]) := by
  obtain ⟨subscriber, hsubscriber, rfl⟩ := h.known imsi himsi
  obtain ⟨first, hfirst, -, hentry⟩ := h.recorded subscriber hsubscriber
  exact ⟨subscriber, hsubscriber, rfl, first, hfirst, hentry⟩

/-- A key whose item is another slice's is passed over. -/
theorem delSliceOf_skips (hcoupled : Coupled c ueDict) (h : At c ueDict ips requests s) (himsi : imsi ∈ ueDict.map Prod.fst)
    (hno : ¬ Mistaken c sliceId imsi) :
    Meets (delSliceOf udr validateInt steps sliceId imsi) s (fun _ s' => s' = s) (fun _ _ => False) := by
  obtain ⟨subscriber, hsubscriber, himsi', first, hfirst, hentry⟩ := hcoupled.entry himsi
  have hne : ¬ sliceId = (nssaiOf first).sd := fun heq => hno ⟨subscriber, hsubscriber, himsi', first, hfirst, heq.symm⟩
  unfold delSliceOf
  rw [meets_bind, meets_get, h.ueDict, hentry]
  dsimp only
  rw [List.filter_cons_of_neg (by simpa using hne)]
  exact rfl

theorem sameSize_at (h : At c ueDict ips requests s) (hsize : ueDict.length = size) :
    Meets (sameSize size) s (fun _ s' => s' = s) (fun _ _ => False) := by
  unfold sameSize
  rw [meets_bind, meets_get, h.ueDict, if_neg (not_not.2 hsize)]
  exact rfl

theorem sameSize_raises (h : At c ueDict ips requests s) (hsize : ueDict.length ≠ size) :
    Meets (sameSize size) s (fun _ _ => False) (fun _ _ => True) := by
  unfold sameSize
  rw [meets_bind, meets_get, h.ueDict, if_pos hsize]
  exact trivial

/-- A key that is taken for the slice's is deleted under the iterator, which then refuses to go on. -/
theorem delSliceFrom_raises (hudr : Obeys udr) (hsteps : steps.AllQuiet) {edgeAreas : List EdgeAreaInfo} (hcoupled : Coupled c ueDict)
    (h : At c ueDict (deployedUpfIp edgeAreas) requests s) {imsis : List String} (himsis : ∀ imsi ∈ imsis, imsi ∈ ueDict.map Prod.fst)
    (hmistaken : ∃ imsi ∈ imsis, Mistaken c sliceId imsi) :
    Meets (delSliceFrom udr validateInt steps sliceId ueDict.length imsis) s (fun _ _ => False) (fun _ _ => True) := by
  induction imsis with
  | nil =>
    obtain ⟨imsi, himsi, -⟩ := hmistaken
    cases himsi
  | cons imsi imsis ih =>
    have himsi := himsis imsi List.mem_cons_self
    unfold delSliceFrom
    rw [meets_bind]
    apply (sameSize_at h rfl).mono
    · rintro _ s₁ rfl
      rw [meets_bind]
      by_cases hthis : Mistaken c sliceId imsi
      · obtain ⟨subscriber, hsubscriber, himsi', first, hfirst, hentry⟩ := hcoupled.entry himsi
        have hsd : sliceId = (nssaiOf first).sd := by
          obtain ⟨other, hother, himsi'', first', hfirst', heq⟩ := hthis
          obtain rfl : other = subscriber := List.inj_on_of_nodup_map hcoupled.imsis hother hsubscriber (himsi''.trans himsi'.symm)
          rw [hfirst] at hfirst'
          cases hfirst'
          exact heq.symm
        unfold delSliceOf
        rw [meets_bind, meets_get, h.ueDict, hentry]
        dsimp only
        rw [List.filter_cons_of_pos (by simpa using hsd), List.filter_nil, List.forM_cons, meets_bind]
        apply (disassociating_meets hudr hsteps h hentry).mono
        · rintro _ s₂ ⟨-, h₂⟩
          rw [List.forM_nil, meets_pure]
          have hshorter : (KeyedList.erase Prod.fst ueDict imsi).length ≠ ueDict.length := by
            have hperm := (perm_cons_erase hentry).length_eq
            rw [List.length_cons] at hperm
            omega
          cases imsis with
          | nil => exact sameSize_raises h₂ hshorter
          | cons next imsis =>
            unfold delSliceFrom
            rw [meets_bind]
            apply (sameSize_raises h₂ hshorter).mono
            · exact fun _ _ hfalse => hfalse.elim
            · exact fun _ _ _ => trivial
        · exact fun _ _ _ => trivial
      · apply (delSliceOf_skips hcoupled h himsi hthis).mono
        · rintro _ s₂ rfl
          apply ih (fun imsi himsi => himsis imsi (List.mem_cons_of_mem _ himsi))
          obtain ⟨other, hother, hmistaken⟩ := hmistaken
          rcases List.mem_cons.1 hother with rfl | hother
          · exact absurd hmistaken hthis
          · exact ⟨other, hother, hmistaken⟩
        · exact fun _ _ _ => trivial
    · exact fun _ _ _ => trivial

theorem delSliceFrom_skips (hcoupled : Coupled c ueDict) (h : At c ueDict ips requests s) {imsis : List String}
    (himsis : ∀ imsi ∈ imsis, imsi ∈ ueDict.map Prod.fst) (hno : ∀ imsi ∈ imsis, ¬ Mistaken c sliceId imsi) :
    Meets (delSliceFrom udr validateInt steps sliceId ueDict.length imsis) s (fun _ s' => s' = s) (fun _ _ => False) := by
  induction imsis with
  | nil => exact sameSize_at h rfl
  | cons imsi imsis ih =>
    unfold delSliceFrom
    rw [meets_bind]
    apply (sameSize_at h rfl).mono
    · rintro _ s₁ rfl
      rw [meets_bind]
      apply (delSliceOf_skips hcoupled h (himsis imsi List.mem_cons_self) (hno imsi List.mem_cons_self)).mono
      · rintro _ s₂ rfl
        exact ih (fun imsi himsi => himsis imsi (List.mem_cons_of_mem _ himsi)) fun imsi himsi => hno imsi (List.mem_cons_of_mem _ himsi)
      · exact fun _ _ hfalse => hfalse
    · exact fun _ _ hfalse => hfalse

theorem mistaken_key (hcoupled : Coupled c ueDict) (h : Mistaken c sliceId imsi) : imsi ∈ ueDict.map Prod.fst := by
  obtain ⟨subscriber, hsubscriber, rfl, -⟩ := h
  obtain ⟨first, -, -, hentry⟩ := hcoupled.recorded subscriber hsubscriber
  exact List.mem_map.2 ⟨_, toMap_some_mem hentry, rfl⟩

theorem delSlice_meets (validateInt : String → Option Int) (hudr : Obeys udr) (hsteps : steps.AllQuiet) {edgeAreas : List EdgeAreaInfo} (hcoupled : Coupled c ueDict)
    (h : At c ueDict (deployedUpfIp edgeAreas) requests s) (sliceId : String) :
    Meets (delSlice udr validateInt steps sliceId) s
      (fun _ s' => (Returning validateInt c edgeAreas ∧ ∀ imsi, ¬ Mistaken c sliceId imsi) ∧ At c ueDict (deployedUpfIp edgeAreas) requests s')
      (fun _ _ => ¬ (Returning validateInt c edgeAreas ∧ ∀ imsi, ¬ Mistaken c sliceId imsi)) := by
  unfold delSlice
  rw [meets_bind, meets_get, meets_bind, h.ueDict]
  by_cases hmistaken : ∃ imsi, Mistaken c sliceId imsi
  · obtain ⟨imsi, himsi⟩ := hmistaken
    apply (delSliceFrom_raises hudr hsteps hcoupled h (fun _ hmem => hmem) ⟨imsi, mistaken_key hcoupled himsi, himsi⟩).mono
    · exact fun _ _ hfalse => hfalse.elim
    · exact fun _ _ _ hall => hall.2 imsi himsi
  · have hno : ∀ imsi, ¬ Mistaken c sliceId imsi := fun imsi himsi => hmistaken ⟨imsi, himsi⟩
    apply (delSliceFrom_skips hcoupled h (fun _ hmem => hmem) fun imsi _ => hno imsi).mono
    · rintro _ s₁ rfl
      rw [meets_bind]
      apply (onOai_step hsteps.updateEdgeAreas h).mono
      · intro _ s₂ h₂
        rw [meets_bind]
        apply (onOai_values h₂).mono
        · rintro _ s₃ ⟨hreturning, h₃⟩
          rw [meets_bind]
          apply (onOai_step hsteps.updateCore h₃).mono
          · intro _ s₄ h₄
            rw [meets_bind]
            apply (onOai_step hsteps.updateEdgeAreas h₄).mono
            · intro _ s₅ h₅
              apply (onOai_step hsteps.updateGnbConfig h₅).mono
              · exact fun _ s₆ h₆ => ⟨⟨hreturning, hno⟩, h₆⟩
              · exact fun _ _ hfalse => hfalse.elim
            · exact fun _ _ hfalse => hfalse.elim
          · exact fun _ _ hfalse => hfalse.elim
        · exact fun _ _ hnot hall => hnot hall.1
      · exact fun _ _ hfalse => hfalse.elim
    · exact fun _ _ hfalse => hfalse.elim

end Runs

/-! ### When the ids survive -/

/-- The id in `ue_dict` decodes to the slice id. -/
def Recovers (first : SubSnssai) : Prop :=
  (singleNssai first >>= fun snssai => recoveredSliceId snssai.sd) = .ok first.sliceId

theorem recovers_iff {first : SubSnssai} (hid : StoredId first.sliceId) : Recovers first ↔ DecimalId first.sliceId := by
  unfold Recovers
  rw [singleNssai_eq hid.1]
  show recoveredSliceId (toString (idValue first.sliceId)) = _ ↔ _
  rw [recoveredSliceId_eq hid.1, Except.ok.injEq, loweredId_eq_iff hid hid]
  exact and_iff_right rfl

section Survival

variable (udr : Udr) (validateInt : String → Option Int) (steps : Steps) (c : Create5gModel) (r : UdrState)

/-- `update_slice` returns, and has associated exactly the subscribers of the slice anew. -/
def Reassociates (old m : SubSliceProfiles) : Prop :=
  ∃ s', (updateSlice udr validateInt steps m).run ⟨some c, r⟩ = .ok () s' ∧
    s'.rest.requests = r.requests ++ (affected c m.sliceId).flatMap (reassociation (replaceProfile old m c) m.dnnList) ∧
    Coupled (replaceProfile old m c) s'.rest.ueDict

/-- The request that takes the slice from a subscriber. -/
def disassociation (subscriber : SubSubscribers) : List UdrRequest :=
  subscriber.snssai.head?.toList.map (fun first => .deleteSession subscriber.imsi c.config.plmn (nssaiOf first))

/-- `del_slice` returns, and has taken the slice from exactly its subscribers. -/
def Disassociates (sliceId : String) : Prop :=
  ∃ s' sent, (delSlice udr validateInt steps sliceId).run ⟨some c, r⟩ = .ok () s' ∧ s'.rest.requests = r.requests ++ sent ∧
    sent.Perm ((affected c sliceId).flatMap (disassociation c)) ∧
    ∀ subscriber ∈ c.config.subscribers, subscriber.imsi ∈ s'.rest.ueDict.map Prod.fst ↔ subscriber ∉ affected c sliceId

variable {udr validateInt steps c r} (hudr : Obeys udr) (hsteps : steps.AllQuiet) (hcoupled : Coupled c r.ueDict)

theorem affected_first (hcoupled : Coupled c r.ueDict) (hsubscriber : subscriber ∈ affected c sliceId) :
    ∃ first, subscriber.snssai.head? = some first := by
  obtain ⟨first, hfirst, -⟩ := hcoupled.recorded subscriber (List.mem_of_mem_filter hsubscriber)
  exact ⟨first, hfirst⟩

theorem reassociation_ne_nil {dnns : List String} (h : subscriber.snssai.head? = some first) : reassociation c dnns subscriber ≠ [] := by
  unfold reassociation
  rw [h]
  exact List.cons_ne_nil _ _

include hudr hsteps hcoupled

theorem reassociates_iff {old m : SubSliceProfiles} (hid : StoredId m.sliceId) (hold : getSlice c m.sliceId = .ok old)
    (hunique : (c.profiles.map SubSliceProfiles.sliceId).Nodup) (hdnns : ∀ dnn ∈ m.dnnList, ∃ net, getDnn c dnn = .ok net) :
    Reassociates udr validateInt steps c r old m ↔ Returning validateInt (replaceProfile old m c) r.edgeAreas ∧
      (affected c m.sliceId ≠ [] → DecimalId m.sliceId ∧ Writable (replaceProfile old m c) m.dnnList) := by
  have hat : At c r.ueDict (deployedUpfIp r.edgeAreas) r.requests ⟨some c, r⟩ := ⟨rfl, rfl, rfl, rfl⟩
  have hmeets := updateSlice_meets validateInt hudr hsteps hcoupled hat hid hold hunique hdnns
  have hdecoded := decoded_eq hcoupled hid
  unfold Meets at hmeets
  constructor
  · rintro ⟨s', hrun, hsent, -⟩
    rw [hrun] at hmeets
    obtain ⟨⟨hreturning, hwritable⟩, ueDict', _, h'⟩ := hmeets
    refine ⟨hreturning, fun hne => ?_⟩
    have hsame := List.append_cancel_left (h'.requests.symm.trans hsent)
    by_cases hdecimal : DecimalId m.sliceId
    · rw [hdecoded, if_pos hdecimal] at hwritable
      exact ⟨hdecimal, hwritable hne⟩
    · rw [hdecoded, if_neg hdecimal, List.flatMap_nil] at hsame
      obtain ⟨subscriber, hsubscriber⟩ := List.exists_mem_of_ne_nil _ hne
      obtain ⟨first, hfirst⟩ := affected_first hcoupled hsubscriber
      exact absurd (List.flatMap_eq_nil_iff.1 hsame.symm subscriber hsubscriber) (reassociation_ne_nil hfirst)
  · rintro ⟨hreturning, hgood⟩
    have hall : decoded c m.sliceId = affected c m.sliceId := by
      rw [hdecoded]
      split
      · rfl
      · rename_i hdecimal
        by_contra hne
        exact hdecimal (hgood fun hnil => hne hnil.symm).1
    rw [hall] at hmeets
    cases hrun : (updateSlice udr validateInt steps m).run ⟨some c, r⟩ with
    | error e s' =>
      rw [hrun] at hmeets
      exact absurd ⟨hreturning, fun hne => (hgood hne).2⟩ hmeets
    | ok u s' =>
      rw [hrun] at hmeets
      obtain ⟨-, ueDict', hcoupled', h'⟩ := hmeets
      refine ⟨s', hrun, h'.requests, ?_⟩
      rw [h'.ueDict]
      exact hcoupled'

theorem disassociates_iff (sliceId : String) : Disassociates udr validateInt steps c r sliceId ↔
    Returning validateInt c r.edgeAreas ∧ affected c sliceId = [] ∧ ∀ imsi, ¬ Mistaken c sliceId imsi := by
  have hat : At c r.ueDict (deployedUpfIp r.edgeAreas) r.requests ⟨some c, r⟩ := ⟨rfl, rfl, rfl, rfl⟩
  have hmeets := delSlice_meets validateInt hudr hsteps hcoupled hat sliceId
  unfold Meets at hmeets
  constructor
  · rintro ⟨s', sent, hrun, hsent, hperm, -⟩
    rw [hrun] at hmeets
    obtain ⟨⟨hreturning, hno⟩, h'⟩ := hmeets
    have hnil : sent = [] := List.append_right_eq_self.1 (hsent.symm.trans h'.requests)
    rw [hnil] at hperm
    refine ⟨hreturning, ?_, hno⟩
    by_contra hne
    obtain ⟨subscriber, hsubscriber⟩ := List.exists_mem_of_ne_nil _ hne
    obtain ⟨first, hfirst⟩ := affected_first hcoupled hsubscriber
    have hempty := List.flatMap_eq_nil_iff.1 hperm.nil_eq.symm subscriber hsubscriber
    unfold disassociation at hempty
    rw [hfirst] at hempty
    cases hempty
  · rintro ⟨hreturning, hnil, hno⟩
    cases hrun : (delSlice udr validateInt steps sliceId).run ⟨some c, r⟩ with
    | error e s' =>
      rw [hrun] at hmeets
      exact absurd ⟨hreturning, hno⟩ hmeets
    | ok u s' =>
      rw [hrun] at hmeets
      obtain ⟨-, h'⟩ := hmeets
      refine ⟨s', [], hrun, by rw [List.append_nil]; exact h'.requests, by rw [hnil]; exact .nil, ?_⟩
      intro subscriber hsubscriber
      rw [hnil, h'.ueDict]
      obtain ⟨first, -, -, hentry⟩ := hcoupled.recorded subscriber hsubscriber
      exact ⟨fun _ => List.not_mem_nil, fun _ => List.mem_map.2 ⟨_, toMap_some_mem hentry, rfl⟩⟩

end Survival

/-- A campus with a subscriber on a slice. -/
def campusUes (sliceId : String) : Create5gModel :=
  ((campusCore [campusArea 1 (some [⟨.embb, sliceId⟩])]).setSliceProfiles (some [embbProfile sliceId ["internet"]])).setSubscribers
    [campusSubscriber [sliceId]]

def campusUdr (sliceId : String) : UdrState :=
  { campusOai with ueDict := [((campusSubscriber [sliceId]).imsi, [⟨1, toString (idValue sliceId)⟩])] }

theorem campusUes_coupled {sliceId : String} (hid : StoredId sliceId) : Coupled (campusUes sliceId) (campusUdr sliceId).ueDict where
  keys := List.nodup_singleton _
  imsis := List.nodup_singleton _
  recorded := by
    intro subscriber hsubscriber
    obtain rfl := List.mem_singleton.1 hsubscriber
    exact ⟨_, rfl, hid, rfl⟩
  known := by
    intro imsi himsi
    obtain rfl := List.mem_singleton.1 himsi
    exact ⟨_, List.mem_cons_self, rfl⟩

theorem campusUes_dnns (sliceId : String) :
    ∀ dnn ∈ (embbProfile sliceId ["internet"]).dnnList, ∃ net, getDnn (campusUes sliceId) dnn = .ok net := by
  intro dnn hdnn
  obtain rfl := List.mem_singleton.1 hdnn
  exact ⟨_, rfl⟩

def obedientUdr : Udr := fun _ _ => .ok 204

theorem obedientUdr_obeys : Obeys obedientUdr :=
  ⟨fun _ _ _ _ => rfl, fun _ _ _ _ _ => ⟨204, rfl⟩⟩

theorem steps_quiet : Steps.AllQuiet {} :=
  ⟨fun s => ⟨s, rfl, rfl, rfl, rfl⟩, fun s => ⟨s, rfl, rfl, rfl, rfl⟩, fun s => ⟨s, rfl, rfl, rfl, rfl⟩⟩

end OpenAirInterface

end Nfvcl
