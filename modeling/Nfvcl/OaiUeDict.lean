import Mathlib.Data.List.Basic
import Nfvcl.Maintained
import Nfvcl.OaiSliceIds
import Nfvcl.PlmnParts

namespace Nfvcl
set_option autoImplicit true
open Effects KeyedList

namespace OpenAirInterface

/-! ### The blueprint -/

/-- The steps of `create` that leave the blueprint. -/
structure CreateSteps extends Steps where
  preCreationChecks : OaiM Unit := pure ()
  /-- The installation of the chart, and the addresses of its services. -/
  installHelmChart : OaiM Unit := pure ()

section Blueprint

variable (udr : Udr) (validateInt : String → Option Int)

/-- `create_5g` before the subscribers. -/
def prepareCore (createModel : Create5gModel) (steps : CreateSteps) : OaiM Unit := do
  if createModel.areas.filter SubArea.core = [] then
    throw (.indexError "list index out of range")
  modify (fun s => { s with rest := { s.rest with
    oaiConfigValues := {}
    mcc := (PlmnUse.oai.parts createModel.config.plmn).1
    mnc := (PlmnUse.oai.parts createModel.config.plmn).2 } })
  updateCoreValues validateInt
  steps.installHelmChart

/-- What `create` does before the subscribers of the request are added. -/
def deploy (createModel : Create5gModel) (steps : CreateSteps) : OaiM Unit := do
  Generic5G.onConfig "config" (Create5gModel.checking Create5gModel.configurationFeasibilityCheck)
  steps.preCreationChecks
  steps.updateEdgeAreas
  prepareCore validateInt createModel steps

def create (createModel : Create5gModel) (steps : CreateSteps) : UeM Unit := do
  modify (fun s => { s with currentConfig := some createModel })
  onOai (deploy validateInt createModel steps)
  forM createModel.config.subscribers (addUes udr)
  onOai steps.updateEdgeAreas
  onOai steps.updateGnbConfig

/-- The hooks `add_slice`, `add_tac` and `del_tac`. -/
def redeploy (steps : Steps) : OaiM Unit := do
  steps.updateEdgeAreas
  updateCoreValues validateInt
  steps.updateCore
  steps.updateEdgeAreas
  steps.updateGnbConfig

/-- The hook that a day2 operation of the generic blueprint calls. -/
def hook (steps : Steps) : Day2Op → UeM Unit
  | .addUes m => addUes udr m
  | .delUes imsi => delUes udr validateInt steps imsi
  | .addDnn m => onOai (addDnnToConf validateInt steps m)
  | .delDnn dnn => onOai (delDnnFromConf validateInt steps dnn)
  | .addSliceOss _ => onOai (redeploy validateInt steps)
  | .addSliceOperator _ => onOai (redeploy validateInt steps)
  | .delSlice sliceId => delSlice udr validateInt steps sliceId
  | .addTac _ => onOai (redeploy validateInt steps)
  | .delTac _ => onOai (redeploy validateInt steps)

/-- The operations on a created blueprint, with what the steps outside do in each. -/
inductive UeOp where
  | day2 (steps : Steps) (op : Day2Op)
  | updateSlice (steps : Steps) (m : SubSliceProfiles)

def UeOp.steps : UeOp → Steps
  | .day2 steps _ => steps
  | .updateSlice steps _ => steps

def UeOp.exec : UeOp → UeM Unit
  | .day2 steps op => op.exec (hook udr validateInt steps op)
  | .updateSlice steps m => OpenAirInterface.updateSlice udr validateInt steps m

end Blueprint

/-! ### `ue_dict` -/

/-- The keys of `ue_dict` are the IMSIs of the subscribers, and the one item of each has the first slice of its subscriber
in decimal. -/
structure Tracks (subscribers : List SubSubscribers) (ueDict : List (String × List Snssai)) : Prop where
  keys : Unique Prod.fst ueDict
  known : ∀ imsi ∈ ueDict.map Prod.fst, ∃ subscriber ∈ subscribers, subscriber.imsi = imsi
  recorded : ∀ subscriber ∈ subscribers, ∃ first n sms, subscriber.snssai.head? = some first ∧ hexInt first.sliceId = .ok n ∧
    toMap Prod.fst ueDict subscriber.imsi = some (subscriber.imsi, [sms]) ∧ sms.sd = toString n

def Tracked (s : Generic5GState UdrState) : Prop :=
  ∃ c, s.currentConfig = some c ∧ Tracks c.config.subscribers s.rest.ueDict

namespace Tracks

variable {subscribers : List SubSubscribers} {ueDict : List (String × List Snssai)}

theorem mem_keys (h : Tracks subscribers ueDict) (hsubscriber : subscriber ∈ subscribers) : subscriber.imsi ∈ ueDict.map Prod.fst := by
  obtain ⟨first, n, sms, -, -, hentry, -⟩ := h.recorded subscriber hsubscriber
  exact List.mem_map.2 ⟨_, toMap_some_mem hentry, rfl⟩

/-- The entry of a subscriber. -/
theorem entry (h : Tracks subscribers ueDict) (himsi : imsi ∈ ueDict.map Prod.fst) :
    ∃ sms, toMap Prod.fst ueDict imsi = some (imsi, [sms]) := by
  obtain ⟨subscriber, hsubscriber, rfl⟩ := h.known imsi himsi
  obtain ⟨first, n, sms, -, -, hentry, -⟩ := h.recorded subscriber hsubscriber
  exact ⟨sms, hentry⟩

/-- One more subscriber, with its entry. -/
theorem added (h : Tracks subscribers ueDict) (hnew : subscriber.imsi ∉ ueDict.map Prod.fst)
    (hfirst : subscriber.snssai.head? = some first) (hn : hexInt first.sliceId = .ok n) (hsd : sms.sd = toString n) :
    Tracks (subscribers ++ [subscriber]) (ueDict ++ [(subscriber.imsi, [sms])]) := by
  have hnone : toMap Prod.fst ueDict subscriber.imsi = none :=
    toMap_eq_none.2 (fun p hp hkey => hnew (hkey ▸ List.mem_map_of_mem hp))
  refine ⟨h.keys.append hnone, ?_, ?_⟩
  · intro imsi himsi
    rw [List.map_append] at himsi
    rcases List.mem_append.1 himsi with himsi | himsi
    · obtain ⟨other, hother, heq⟩ := h.known imsi himsi
      exact ⟨other, List.mem_append_left _ hother, heq⟩
    · exact ⟨subscriber, List.mem_append_right _ (List.mem_singleton.2 rfl), (List.mem_singleton.1 himsi).symm⟩
  · intro other hother
    rcases List.mem_append.1 hother with hother | hother
    · obtain ⟨first', n', sms', hfirst', hn', hentry, hsd'⟩ := h.recorded other hother
      have hne : subscriber.imsi ≠ other.imsi := fun heq => hnew (heq ▸ h.mem_keys hother)
      exact ⟨first', n', sms', hfirst', hn', by rw [toMap_append_of_ne (a := (subscriber.imsi, [sms])) hne]; exact hentry, hsd'⟩
    · rw [List.mem_singleton.1 hother]
      refine ⟨first, n, sms, hfirst, hn, ?_, hsd⟩
      have happend := @toMap_append _ _ _ Prod.fst ueDict (subscriber.imsi, [sms]) hnone
      rw [happend]
      exact Function.update_self _ _ _

/-- A subscriber gone, with its entry. -/
theorem removed (h : Tracks subscribers ueDict) (imsi : String) :
    Tracks (subscribers.filter (fun x => decide (x.imsi ≠ imsi))) (KeyedList.erase Prod.fst ueDict imsi) := by
  refine ⟨h.keys.erase imsi, ?_, ?_⟩
  · intro other hother
    obtain ⟨p, hp, rfl⟩ := List.mem_map.1 hother
    rw [h.keys.erase_eq_filter, List.mem_filter, decide_eq_true_iff] at hp
    obtain ⟨subscriber, hsubscriber, heq⟩ := h.known p.1 (List.mem_map_of_mem hp.1)
    exact ⟨subscriber, List.mem_filter.2 ⟨hsubscriber, decide_eq_true (by rw [heq]; exact hp.2)⟩, heq⟩
  · intro subscriber hsubscriber
    obtain ⟨hmem, hne⟩ := List.mem_filter.1 hsubscriber
    obtain ⟨first, n, sms, hfirst, hn, hentry, hsd⟩ := h.recorded subscriber hmem
    refine ⟨first, n, sms, hfirst, hn, ?_, hsd⟩
    rw [toMap_erase_of_ne (Ne.symm (of_decide_eq_true hne)), hentry]

/-- A subscriber whose entry has been written anew. -/
theorem renewed (h : Tracks subscribers ueDict) (hentry : toMap Prod.fst ueDict imsi = some (imsi, [sms])) (hsd : sms'.sd = sms.sd) :
    imsi ∉ (KeyedList.erase Prod.fst ueDict imsi).map Prod.fst ∧
      Tracks subscribers (KeyedList.erase Prod.fst ueDict imsi ++ [(imsi, [sms'])]) := by
  have hgone : toMap Prod.fst (KeyedList.erase Prod.fst ueDict imsi) imsi = none := by
    rw [toMap_erase h.keys, Function.update_self]
  have hnew : imsi ∉ (KeyedList.erase Prod.fst ueDict imsi).map Prod.fst := by
    intro hmem
    obtain ⟨p, hp, hkey⟩ := List.mem_map.1 hmem
    exact toMap_eq_none.1 hgone p hp hkey
  refine ⟨hnew, (h.keys.erase imsi).append hgone, ?_, ?_⟩
  · intro other hother
    rw [List.map_append] at hother
    rcases List.mem_append.1 hother with hother | hother
    · exact h.known other (((erase_sublist _ _ _).map _).subset hother)
    · rw [List.mem_singleton.1 hother]
      exact h.known imsi (List.mem_map.2 ⟨_, toMap_some_mem hentry, rfl⟩)
  · intro subscriber hsubscriber
    obtain ⟨first, n, old, hfirst, hn, hold, holdSd⟩ := h.recorded subscriber hsubscriber
    by_cases heq : subscriber.imsi = imsi
    · subst heq
      rw [hentry] at hold
      cases hold
      refine ⟨first, n, sms', hfirst, hn, ?_, hsd.trans holdSd⟩
      have happend := @toMap_append _ _ _ Prod.fst (KeyedList.erase Prod.fst ueDict subscriber.imsi) (subscriber.imsi, [sms']) hgone
      rw [happend]
      exact Function.update_self _ _ _
    · refine ⟨first, n, old, hfirst, hn, ?_, holdSd⟩
      have hne : imsi ≠ subscriber.imsi := fun h => heq h.symm
      rw [toMap_append_of_ne (a := (imsi, [sms'])) hne, toMap_erase_of_ne hne]
      exact hold

end Tracks

/-! ### What leaves the subscribers alone -/

/-- A condition on the configuration, and a fixed `ue_dict`. -/
def OaiKeep (p : Option Create5gModel → Prop) (d : List (String × List Snssai)) (s : Generic5GState OaiState) : Prop :=
  p s.currentConfig ∧ s.rest.ueDict = d

def UeKeep (p : Option Create5gModel → Prop) (d : List (String × List Snssai)) (s : Generic5GState UdrState) : Prop :=
  p s.currentConfig ∧ s.rest.ueDict = d

/-- A step outside leaves the configuration and `ue_dict` alone, whether it returns or raises. -/
def LeavesUes (step : OaiM Unit) : Prop :=
  ∀ s, (finalState (step.run s)).currentConfig = s.currentConfig ∧ (finalState (step.run s)).rest.ueDict = s.rest.ueDict

structure Steps.LeaveUes (steps : Steps) : Prop where
  updateCore : LeavesUes steps.updateCore
  updateEdgeAreas : LeavesUes steps.updateEdgeAreas
  updateGnbConfig : LeavesUes steps.updateGnbConfig

structure CreateSteps.LeaveUes (steps : CreateSteps) : Prop extends Steps.LeaveUes steps.toSteps where
  preCreationChecks : LeavesUes steps.preCreationChecks
  installHelmChart : LeavesUes steps.installHelmChart

section Frames

variable {p : Option Create5gModel → Prop} {d : List (String × List Snssai)} {validateInt : String → Option Int} {steps : Steps}

theorem LeavesUes.maintains (h : LeavesUes step) : Maintains (OaiKeep p d) step := by
  apply Maintains.of_final
  intro s hs
  obtain ⟨hconfig, hdict⟩ := h s
  exact ⟨by rw [hconfig]; exact hs.1, hdict.trans hs.2⟩

theorem onOai_maintains (h : Maintains (OaiKeep p d) m) : Maintains (UeKeep p d) (onOai m) :=
  h.zoom (fun _ hs => hs) (fun _ _ _ ht => ht)

theorem onValues_maintains (m : OaiValuesM α) : Maintains (OaiKeep p d) (onValues m) := by
  apply Maintains.of_final
  intro s hs
  change OaiKeep p d (finalState (onValues m s))
  unfold onValues
  cases m.run s.rest.oaiConfigValues with
  | ok a values => exact hs
  | error e values => exact hs

/-- Reading the configuration, and changing it within the condition. -/
theorem onConfig_keeps (attr : String) (m : EStateM PyError Create5gModel α)
    (h : ∀ c, p (some c) → p (some (finalState (m.run c)))) : Maintains (OaiKeep p d) (Generic5G.onConfig attr m) := by
  apply Maintains.of_final
  rintro ⟨config, r⟩ hs
  cases config with
  | none => exact hs
  | some c =>
    have hc := h c hs.1
    rw [Generic5G.onConfig_run]
    cases hrun : m.run c with
    | ok a c' =>
      rw [hrun] at hc
      exact ⟨hc, hs.2⟩
    | error e c' =>
      rw [hrun] at hc
      exact ⟨hc, hs.2⟩

theorem updateCoreValues_maintains : Maintains (OaiKeep p d) (updateCoreValues validateInt) := by
  unfold updateCoreValues
  apply Maintains.get.bind
  intro s
  apply (onValues_maintains _).bind
  intro _
  apply (onConfig_keeps "areas" get (fun _ hc => hc)).bind
  exact fun c => onValues_maintains _

theorem redeploy_maintains (h : steps.LeaveUes) : Maintains (OaiKeep p d) (redeploy validateInt steps) := by
  unfold redeploy
  apply h.updateEdgeAreas.maintains.bind
  intro _
  apply updateCoreValues_maintains.bind
  intro _
  apply h.updateCore.maintains.bind
  intro _
  apply h.updateEdgeAreas.maintains.bind
  exact fun _ => h.updateGnbConfig.maintains

theorem request_maintains (udr : Udr) (req : UdrRequest) : Maintains (UeKeep p d) (request udr req) := by
  apply Maintains.of_final
  intro s hs
  change UeKeep p d (finalState (request udr req s))
  unfold request
  cases udr req s.rest.requests.length with
  | ok status => exact hs
  | error e => exact hs

end Frames

/-! ### Adding a subscriber -/

/-- What `associating_subscriber_with_slice` looks up. -/
def association (c : Create5gModel) (imsi : String) : Except PyError (SubSliceProfiles × Snssai × String) := do
  let subscriber ← getSubscriber c imsi
  let first ← firstSnssai subscriber
  let subSlice ← getSlice c first.sliceId
  let snssai ← singleNssai first
  return (subSlice, snssai, c.config.plmn)

/-- The DNNs of the slice have what is sent of them, and none of their requests, from the `n`-th on, raises. -/
def PutsAnswered (udr : Udr) (c : Create5gModel) (imsi : String) (snssai : Snssai) : List DnnConfiguration → List String → Nat → Prop
  | _, [], _ => True
  | configurations, dnn :: dnns, n => ∃ configuration status, dnnConfiguration c dnn = .ok configuration ∧
    udr (.putSession imsi c.config.plmn snssai (addConfiguration configurations configuration)) n = .ok status ∧
    PutsAnswered udr c imsi snssai (addConfiguration configurations configuration) dnns (n + 1)

theorem association_ok (h : association c imsi = .ok (profile, snssai, plmn)) :
    ∃ subscriber first n, getSubscriber c imsi = .ok subscriber ∧ subscriber.snssai.head? = some first ∧
      hexInt first.sliceId = .ok n ∧ snssai.sd = toString n ∧ plmn = c.config.plmn := by
  unfold association at h
  obtain ⟨subscriber, hsubscriber, h⟩ := except_bind_ok.1 h
  obtain ⟨first, hfirst, h⟩ := except_bind_ok.1 h
  obtain ⟨subSlice, -, h⟩ := except_bind_ok.1 h
  obtain ⟨single, hsingle, h⟩ := except_bind_ok.1 h
  unfold singleNssai at hsingle
  obtain ⟨n, hn, hsingle⟩ := except_bind_ok.1 hsingle
  cases hsingle
  cases h
  refine ⟨subscriber, first, n, hsubscriber, ?_, hn, rfl, rfl⟩
  unfold firstSnssai at hfirst
  cases hlist : subscriber.snssai with
  | nil =>
    rw [hlist] at hfirst
    cases hfirst
  | cons x xs =>
    rw [hlist] at hfirst
    cases hfirst
    rfl

section Adding

variable {udr : Udr} {c : Create5gModel} {d : List (String × List Snssai)} {s : Generic5GState UdrState} {imsi : String}

/-- The state with one more request sent. -/
def sent (req : UdrRequest) (s : Generic5GState UdrState) : Generic5GState UdrState :=
  { s with rest := { s.rest with requests := s.rest.requests ++ [req] } }

theorem request_run_ok (h : udr req s.rest.requests.length = .ok status) : (request udr req).run s = .ok status (sent req s) := by
  change request udr req s = _
  unfold request
  rw [h]
  rfl

theorem request_run_error (h : udr req s.rest.requests.length = .error e) : (request udr req).run s = .error e (sent req s) := by
  change request udr req s = _
  unfold request
  rw [h]
  rfl

theorem length_sent (req : UdrRequest) (s : Generic5GState UdrState) :
    (sent req s).rest.requests.length = s.rest.requests.length + 1 :=
  List.length_append

/-- Reading the configuration that is there. -/
theorem reading_meets (attr : String) (f : Create5gModel → Except PyError α) (h : s.currentConfig = some c) :
    Meets (Generic5G.onConfig attr (do let c ← get; Generic5G.liftExcept (f c))) s
      (fun a s' => f c = .ok a ∧ s' = s) (fun e s' => f c = .error e ∧ s' = s) :=
  onConfig_at attr ⟨h, rfl, rfl, rfl⟩

theorem putSessions_keeps {snssai : Snssai} {configurations : List DnnConfiguration} {dnns : List String}
    (h : UeKeep (fun config => config = some c) d s) :
    Meets (putSessions udr imsi c.config.plmn snssai configurations dnns) s
      (fun _ s' => UeKeep (fun config => config = some c) d s')
      (fun _ s' => ¬ PutsAnswered udr c imsi snssai configurations dnns s.rest.requests.length ∧
        UeKeep (fun config => config = some c) d s') := by
  induction dnns generalizing s configurations with
  | nil => exact h
  | cons dnn dnns ih =>
    unfold putSessions
    rw [meets_bind]
    apply (reading_meets "config" (fun c => dnnConfiguration c dnn) h.1).mono
    · rintro configuration s₁ ⟨hconfiguration, rfl⟩
      rw [meets_bind]
      cases hanswer : udr (.putSession imsi c.config.plmn snssai (addConfiguration configurations configuration)) s₁.rest.requests.length with
      | ok status =>
        apply meets_of_ok (request_run_ok hanswer)
        have hasked : UeKeep (fun config => config = some c) d
            (sent (.putSession imsi c.config.plmn snssai (addConfiguration configurations configuration)) s₁) := h
        apply (ih hasked).mono
        · exact fun _ _ hkeep => hkeep
        · rintro _ s₂ ⟨hnot, hkeep⟩
          refine ⟨?_, hkeep⟩
          rintro ⟨configuration', status', hconfiguration', -, hlater⟩
          rw [hconfiguration] at hconfiguration'
          cases hconfiguration'
          rw [length_sent] at hnot
          exact hnot hlater
      | error e =>
        apply meets_of_error (request_run_error hanswer)
        refine ⟨?_, h⟩
        rintro ⟨configuration', status', hconfiguration', hanswer', -⟩
        rw [hconfiguration] at hconfiguration'
        cases hconfiguration'
        rw [hanswer] at hanswer'
        cases hanswer'
    · rintro e s₁ ⟨hconfiguration, rfl⟩
      refine ⟨?_, h⟩
      rintro ⟨configuration', status', hconfiguration', -, -⟩
      rw [hconfiguration] at hconfiguration'
      cases hconfiguration'

/-- An association that raises has changed nothing, or has stored the entry and not sent everything. -/
theorem associating_keeps (h : UeKeep (fun config => config = some c) d s) (hnew : imsi ∉ d.map Prod.fst) :
    Meets (associatingSubscriberWithSlice udr imsi) s
      (fun _ s' => ∃ profile snssai, association c imsi = .ok (profile, snssai, c.config.plmn) ∧
        UeKeep (fun config => config = some c) (d ++ [(imsi, [snssai])]) s')
      (fun _ s' => (∃ e, association c imsi = .error e) ∧ UeKeep (fun config => config = some c) d s' ∨
        ∃ profile snssai, association c imsi = .ok (profile, snssai, c.config.plmn) ∧
          ¬ PutsAnswered udr c imsi snssai [] profile.dnnList s.rest.requests.length ∧
          UeKeep (fun config => config = some c) (d ++ [(imsi, [snssai])]) s') := by
  have hnone : ¬ (toMap Prod.fst d imsi).isSome := by
    rw [Option.not_isSome_iff_eq_none, toMap_eq_none]
    exact fun p hp hkey => hnew (hkey ▸ List.mem_map_of_mem hp)
  unfold associatingSubscriberWithSlice
  rw [meets_bind, meets_get, if_neg (by rw [h.2]; exact hnew), meets_bind]
  apply (reading_meets "config" (fun c => association c imsi) h.1).mono
  · rintro ⟨profile, snssai, plmn⟩ s₁ ⟨hfound, rfl⟩
    obtain ⟨-, -, -, -, -, -, -, rfl⟩ := association_ok hfound
    dsimp only
    rw [meets_bind]
    have hstored : UeKeep (fun config => config = some c) (d ++ [(imsi, [snssai])])
        { s₁ with rest := { s₁.rest with ueDict := storeUe imsi [snssai] s₁.rest.ueDict } } := by
      refine ⟨h.1, ?_⟩
      change storeUe imsi [snssai] s₁.rest.ueDict = _
      rw [h.2, storeUe, if_neg hnone]
    apply (putSessions_keeps hstored).mono
    · exact fun _ s₂ hkeep => ⟨profile, snssai, hfound, hkeep⟩
    · rintro _ s₂ ⟨hnot, hkeep⟩
      exact .inr ⟨profile, snssai, hfound, hnot, hkeep⟩
  · rintro e s₁ ⟨hfound, rfl⟩
    exact .inl ⟨⟨e, hfound⟩, h⟩

theorem getSubscriber_ok (h : getSubscriber c imsi = .ok subscriber) : subscriber ∈ c.config.subscribers ∧ subscriber.imsi = imsi := by
  unfold getSubscriber at h
  split at h
  · rename_i found hfound
    cases h
    have himsi := List.find?_some hfound
    exact ⟨List.mem_of_find?_eq_some hfound, of_decide_eq_true himsi⟩
  · cases h

end Adding

/-! ### The generic operations -/

section Generic

variable {c : Create5gModel} {r : UdrState} {h : UeM Unit}

/-- A hook inside the rollback: what it leaves of `ue_dict` has to fit the configuration that is left. -/
theorem restoring_tracked {c' : Create5gModel}
    (hhook : Meets h ⟨some c', r⟩ (fun _ s' => Tracked s') (fun _ s' => Tracks c.config.subscribers s'.rest.ueDict)) :
    Tracked (finalState ((Generic5G.restoring (some c) h).run ⟨some c', r⟩)) := by
  unfold Meets at hhook
  rw [Generic5G.restoring_run]
  cases hrun : EStateM.run h ⟨some c', r⟩ with
  | ok u s' =>
    rw [hrun] at hhook
    exact hhook
  | error e s' =>
    rw [hrun] at hhook
    exact ⟨c, rfl, hhook⟩

theorem changeConfig_tracked (htracks : Tracks c.config.subscribers r.ueDict) {attr : String} {check : Create5gModel → Except PyError Unit}
    {change : Create5gModel → Create5gModel} (hhook : check c = .ok () → Meets h ⟨some (change c), r⟩ (fun _ s' => Tracked s')
      (fun _ s' => Tracks c.config.subscribers s'.rest.ueDict)) :
    Tracked (finalState ((Generic5G.changeConfig attr check change h).run ⟨some c, r⟩)) := by
  rw [Generic5G.changeConfig_run]
  cases hcheck : check c with
  | error e => exact ⟨c, rfl, htracks⟩
  | ok u => exact restoring_tracked (hhook hcheck)

/-- A hook that leaves the subscribers alone. -/
theorem keeping_tracked {c' : Create5gModel} (htracks : Tracks c.config.subscribers r.ueDict)
    (hsame : c'.config.subscribers = c.config.subscribers)
    (hhook : Maintains (UeKeep (fun config => ∃ k, config = some k ∧ k.config.subscribers = c.config.subscribers) r.ueDict) h) :
    Meets h ⟨some c', r⟩ (fun _ s' => Tracked s') (fun _ s' => Tracks c.config.subscribers s'.rest.ueDict) := by
  apply (hhook ⟨some c', r⟩ ⟨⟨c', rfl, hsame⟩, rfl⟩).mono
  · rintro _ s' ⟨⟨k, hk, hsubscribers⟩, hdict⟩
    exact ⟨k, hk, by rw [hsubscribers, hdict]; exact htracks⟩
  · rintro _ s' ⟨-, hdict⟩
    rw [hdict]
    exact htracks

end Generic

def withUe (c : Create5gModel) (m : SubSubscribers) : Create5gModel :=
  c.setSubscribers (c.config.subscribers ++ [m])

/-- Once the entry of the new subscriber is stored, nothing raises. -/
def AddsSafely (udr : Udr) (m : SubSubscribers) (s : Generic5GState UdrState) : Prop :=
  ∀ c, s.currentConfig = some c → c.checkAddUes m = .ok () → (∃ status, udr (.putUe m) s.rest.requests.length = .ok status) →
    ∀ profile snssai plmn, association (withUe c m) m.imsi = .ok (profile, snssai, plmn) →
      PutsAnswered udr (withUe c m) m.imsi snssai [] profile.dnnList (s.rest.requests.length + 1)

theorem addUes_keeps {udr : Udr} {c : Create5gModel} {d : List (String × List Snssai)} {s : Generic5GState UdrState} (m : SubSubscribers)
    (h : UeKeep (fun config => config = some c) d s) (hnew : m.imsi ∉ d.map Prod.fst) :
    Meets (addUes udr m) s
      (fun _ s' => ∃ profile snssai, association c m.imsi = .ok (profile, snssai, c.config.plmn) ∧
        UeKeep (fun config => config = some c) (d ++ [(m.imsi, [snssai])]) s')
      (fun _ s' => ((∃ e, udr (.putUe m) s.rest.requests.length = .error e) ∨ ∃ e, association c m.imsi = .error e) ∧
          UeKeep (fun config => config = some c) d s' ∨
        (∃ status, udr (.putUe m) s.rest.requests.length = .ok status) ∧
        ∃ profile snssai, association c m.imsi = .ok (profile, snssai, c.config.plmn) ∧
          ¬ PutsAnswered udr c m.imsi snssai [] profile.dnnList (s.rest.requests.length + 1) ∧
          UeKeep (fun config => config = some c) (d ++ [(m.imsi, [snssai])]) s') := by
  unfold addUes addSubscriberToConf
  rw [meets_bind, meets_bind]
  cases hanswer : udr (.putUe m) s.rest.requests.length with
  | ok status =>
    apply meets_of_ok (request_run_ok hanswer)
    apply (associating_keeps (s := sent (.putUe m) s) h hnew).mono
    · exact fun _ _ hstored => hstored
    · rintro _ s' (⟨herror, hkeep⟩ | ⟨profile, snssai, hfound, hnot, hkeep⟩)
      · exact .inl ⟨.inr herror, hkeep⟩
      · rw [length_sent] at hnot
        exact .inr ⟨⟨status, rfl⟩, profile, snssai, hfound, hnot, hkeep⟩
  | error e =>
    apply meets_of_error (request_run_error hanswer)
    exact .inl ⟨.inl ⟨e, rfl⟩, h⟩

theorem day2AddUes_tracked {udr : Udr} {s : Generic5GState UdrState} (m : SubSubscribers) (h : Tracked s) (hsafe : AddsSafely udr m s) :
    Tracked (finalState ((Generic5G.day2AddUes (addUes udr m) m).run s)) := by
  obtain ⟨config, r⟩ := s
  obtain ⟨c, hc, htracks⟩ := h
  obtain rfl : config = some c := hc
  apply changeConfig_tracked htracks
  intro hcheck
  have habsent : ∀ subscriber ∈ c.config.subscribers, subscriber.imsi ≠ m.imsi := by
    intro subscriber hsubscriber heq
    unfold Create5gModel.checkAddUes at hcheck
    rw [if_pos (List.any_eq_true.2 ⟨subscriber, hsubscriber, decide_eq_true heq⟩)] at hcheck
    cases hcheck
  have hnew : m.imsi ∉ r.ueDict.map Prod.fst := by
    intro hmem
    obtain ⟨subscriber, hsubscriber, heq⟩ := htracks.known m.imsi hmem
    exact habsent subscriber hsubscriber heq
  apply (addUes_keeps (c := withUe c m) (d := r.ueDict) (s := ⟨some (withUe c m), r⟩) m ⟨rfl, rfl⟩ hnew).mono
  · rintro _ s' ⟨profile, snssai, hfound, hconfig, hdict⟩
    obtain ⟨subscriber, first, n, hsubscriber, hfirst, hn, hsd, -⟩ := association_ok hfound
    obtain ⟨hmem, himsi⟩ := getSubscriber_ok hsubscriber
    obtain rfl : subscriber = m := by
      rcases List.mem_append.1 hmem with hmem | hmem
      · exact absurd himsi (habsent subscriber hmem)
      · exact List.mem_singleton.1 hmem
    refine ⟨withUe c subscriber, hconfig, ?_⟩
    rw [hdict]
    exact htracks.added hnew hfirst hn hsd
  · rintro _ s' (⟨-, -, hdict⟩ | ⟨hanswered, profile, snssai, hfound, hnot, -⟩)
    · rw [hdict]
      exact htracks
    · exact absurd (hsafe c rfl hcheck hanswered profile snssai _ hfound) hnot

/-! ### Taking a slice from a subscriber -/

section Taking

variable (udr : Udr) (validateInt : String → Option Int) (steps : Steps)

/-- What `disassociating_subscriber_from_slice` does after the loop. -/
def refresh : UeM Unit := do
  onOai (updateCoreValues validateInt)
  onOai steps.updateCore
  onOai steps.updateGnbConfig

/-- What `del_ues` does after the loop. -/
def leaving (imsi : String) : UeM Unit := do
  refresh validateInt steps
  delSubscriberToConf udr imsi

/-- The state after the loop over the one item of a subscriber. -/
def afterDelete (imsi plmn : String) (sms : Snssai) (status : Nat) (s : Generic5GState UdrState) : Generic5GState UdrState :=
  let asked := sent (.deleteSession imsi plmn sms) s
  if status = 204 then { asked with rest := { asked.rest with ueDict := removeSms imsi sms asked.rest.ueDict } } else asked

variable {udr validateInt steps} {p : Option Create5gModel → Prop} {d : List (String × List Snssai)} {s : Generic5GState UdrState}
  {c : Create5gModel} {imsi : String} {sms : Snssai}

theorem refresh_maintains (hsteps : steps.LeaveUes) : Maintains (UeKeep p d) (refresh validateInt steps) := by
  unfold refresh
  apply (onOai_maintains updateCoreValues_maintains).bind
  intro _
  apply (onOai_maintains hsteps.updateCore.maintains).bind
  exact fun _ => onOai_maintains hsteps.updateGnbConfig.maintains

theorem delSubscriberToConf_maintains : Maintains (UeKeep p d) (delSubscriberToConf udr imsi) := by
  unfold delSubscriberToConf
  apply (request_maintains udr _).bind
  intro status
  split
  · exact Maintains.throw _
  · exact Maintains.pure _

theorem leaving_maintains (hsteps : steps.LeaveUes) : Maintains (UeKeep p d) (leaving udr validateInt steps imsi) :=
  (refresh_maintains hsteps).bind (fun _ => delSubscriberToConf_maintains)

theorem afterDelete_keeps (h : UeKeep p d s) (hentry : toMap Prod.fst d imsi = some (imsi, [sms])) (plmn : String) (status : Nat) :
    UeKeep p (if status = 204 then KeyedList.erase Prod.fst d imsi else d) (afterDelete imsi plmn sms status s) := by
  unfold afterDelete
  dsimp only
  split
  · refine ⟨h.1, ?_⟩
    change removeSms imsi sms s.rest.ueDict = _
    rw [h.2, removeSms_single hentry]
  · exact h

theorem disassociateFrom_run_error (hentry : toMap Prod.fst s.rest.ueDict imsi = some (imsi, [sms]))
    (hanswer : udr (.deleteSession imsi plmn sms) s.rest.requests.length = .error e) :
    (disassociateFrom udr imsi plmn [sms].length 0).run s = .error e (sent (.deleteSession imsi plmn sms) s) := by
  change (disassociateFrom udr imsi plmn (0 + 1) 0).run s = _
  unfold disassociateFrom
  rw [run_bind_ok get _ rfl, hentry]
  exact run_bind_error _ _ (request_run_error hanswer)

theorem disassociateFrom_run_ok (hentry : toMap Prod.fst s.rest.ueDict imsi = some (imsi, [sms]))
    (hanswer : udr (.deleteSession imsi plmn sms) s.rest.requests.length = .ok status) :
    (disassociateFrom udr imsi plmn [sms].length 0).run s = .ok () (afterDelete imsi plmn sms status s) := by
  change (disassociateFrom udr imsi plmn (0 + 1) 0).run s = _
  unfold disassociateFrom
  rw [run_bind_ok get _ rfl, hentry]
  refine (run_bind_ok _ _ (request_run_ok hanswer)).trans ?_
  unfold afterDelete
  by_cases hstatus : status = 204
  · rw [if_pos hstatus, if_pos hstatus]
    rfl
  · rw [if_neg hstatus, if_neg hstatus]
    rfl

theorem reading_plmn (hconfig : s.currentConfig = some c) :
    (Generic5G.onConfig "config" (do let c ← get; return c.config.plmn) : UeM String).run s = .ok c.config.plmn s := by
  obtain ⟨config, r⟩ := s
  obtain rfl : config = some c := hconfig
  rfl

theorem disassociating_run_error (hconfig : s.currentConfig = some c) (hentry : toMap Prod.fst s.rest.ueDict imsi = some (imsi, [sms]))
    (hanswer : udr (.deleteSession imsi c.config.plmn sms) s.rest.requests.length = .error e) :
    (disassociatingSubscriberFromSlice udr validateInt steps imsi).run s = .error e (sent (.deleteSession imsi c.config.plmn sms) s) := by
  unfold disassociatingSubscriberFromSlice
  rw [run_bind_ok get _ rfl, hentry]
  dsimp only
  rw [run_bind_ok _ _ (reading_plmn hconfig), run_bind_error _ _ (disassociateFrom_run_error hentry hanswer)]

theorem disassociating_run_ok (hconfig : s.currentConfig = some c) (hentry : toMap Prod.fst s.rest.ueDict imsi = some (imsi, [sms]))
    (hanswer : udr (.deleteSession imsi c.config.plmn sms) s.rest.requests.length = .ok status) :
    (disassociatingSubscriberFromSlice udr validateInt steps imsi).run s =
      (refresh validateInt steps).run (afterDelete imsi c.config.plmn sms status s) := by
  unfold disassociatingSubscriberFromSlice
  rw [run_bind_ok get _ rfl, hentry]
  dsimp only
  rw [run_bind_ok _ _ (reading_plmn hconfig), run_bind_ok _ _ (disassociateFrom_run_ok hentry hanswer)]
  rfl

end Taking

def withoutUe (c : Create5gModel) (imsi : String) : Create5gModel :=
  c.setSubscribers (c.config.subscribers.filter (fun x => decide (x.imsi ≠ imsi)))

/-- The UDR deletes the session of the subscriber if and only if nothing of the operation raises after it. -/
def DeletesSafely (udr : Udr) (validateInt : String → Option Int) (steps : Steps) (imsi : String) (s : Generic5GState UdrState) : Prop :=
  ∀ c, s.currentConfig = some c → ∀ sms, toMap Prod.fst s.rest.ueDict imsi = some (imsi, [sms]) →
    ∀ status, udr (.deleteSession imsi c.config.plmn sms) s.rest.requests.length = .ok status →
      (status = 204 ↔
        ¬ Raised ((leaving udr validateInt steps imsi).run (afterDelete imsi c.config.plmn sms status ⟨some (withoutUe c imsi), s.rest⟩)))

theorem day2DelUes_tracked {udr : Udr} {validateInt : String → Option Int} {steps : Steps} {s : Generic5GState UdrState}
    (hsteps : steps.LeaveUes) (imsi : String) (h : Tracked s) (hsafe : DeletesSafely udr validateInt steps imsi s) :
    Tracked (finalState ((Generic5G.day2DelUes (delUes udr validateInt steps imsi) imsi).run s)) := by
  obtain ⟨config, r⟩ := s
  obtain ⟨c, hc, htracks⟩ := h
  obtain rfl : config = some c := hc
  apply changeConfig_tracked htracks
  intro hcheck
  have hpresent : ∃ subscriber ∈ c.config.subscribers, subscriber.imsi = imsi := by
    unfold Create5gModel.checkDelUes at hcheck
    by_cases hany : c.config.subscribers.any (fun subscriber => decide (subscriber.imsi = imsi)) = true
    · obtain ⟨subscriber, hsubscriber, heq⟩ := List.any_eq_true.1 hany
      exact ⟨subscriber, hsubscriber, of_decide_eq_true heq⟩
    · rw [if_neg hany] at hcheck
      cases hcheck
  obtain ⟨subscriber, hsubscriber, rfl⟩ := hpresent
  obtain ⟨sms, hentry⟩ := htracks.entry (htracks.mem_keys hsubscriber)
  change Meets (delUes udr validateInt steps subscriber.imsi) ⟨some (withoutUe c subscriber.imsi), r⟩ _ _
  unfold delUes
  cases hanswer : udr (.deleteSession subscriber.imsi c.config.plmn sms) r.requests.length with
  | error e =>
    have hrun : (disassociatingSubscriberFromSlice udr validateInt steps subscriber.imsi).run ⟨some (withoutUe c subscriber.imsi), r⟩ =
        .error e (sent (.deleteSession subscriber.imsi c.config.plmn sms) ⟨some (withoutUe c subscriber.imsi), r⟩) :=
      disassociating_run_error (c := withoutUe c subscriber.imsi) rfl hentry hanswer
    exact meets_of_error (run_bind_error _ _ hrun) htracks
  | ok status =>
    have hrun : (disassociatingSubscriberFromSlice udr validateInt steps subscriber.imsi).run ⟨some (withoutUe c subscriber.imsi), r⟩ =
        (refresh validateInt steps).run
          (afterDelete subscriber.imsi c.config.plmn sms status ⟨some (withoutUe c subscriber.imsi), r⟩) :=
      disassociating_run_ok (c := withoutUe c subscriber.imsi) rfl hentry hanswer
    have hkeeps := afterDelete_keeps (p := fun config => config = some (withoutUe c subscriber.imsi)) (d := r.ueDict)
      (s := ⟨some (withoutUe c subscriber.imsi), r⟩) ⟨rfl, rfl⟩ hentry c.config.plmn status
    have hiff := hsafe c rfl sms hentry status hanswer
    have hafter : Meets (leaving udr validateInt steps subscriber.imsi) _ _ _ := leaving_maintains hsteps _ hkeeps
    have hleaving : (do disassociatingSubscriberFromSlice udr validateInt steps subscriber.imsi
                        delSubscriberToConf udr subscriber.imsi : UeM Unit).run ⟨some (withoutUe c subscriber.imsi), r⟩ =
        (leaving udr validateInt steps subscriber.imsi).run
          (afterDelete subscriber.imsi c.config.plmn sms status ⟨some (withoutUe c subscriber.imsi), r⟩) := by
      unfold leaving
      rw [EStateM.run_bind, EStateM.run_bind, hrun]
    unfold Meets at hafter ⊢
    rw [hleaving]
    cases hreturn : (leaving udr validateInt steps subscriber.imsi).run
        (afterDelete subscriber.imsi c.config.plmn sms status ⟨some (withoutUe c subscriber.imsi), r⟩) with
    | ok u s' =>
      rw [hreturn] at hafter hiff
      rw [if_pos (hiff.2 (fun hraised => hraised))] at hafter
      refine ⟨withoutUe c subscriber.imsi, hafter.1, ?_⟩
      rw [hafter.2]
      exact htracks.removed subscriber.imsi
    | error e s' =>
      rw [hreturn] at hafter hiff
      rw [if_neg (fun hstatus => hiff.1 hstatus trivial)] at hafter
      change Tracks c.config.subscribers s'.rest.ueDict
      rw [hafter.2]
      exact htracks

/-! ### Deleting a slice -/

/-- The UDR deletes no session of a subscriber whose sd reads like the slice id, from the first key on. -/
def KeepsSessions (udr : Udr) (validateInt : String → Option Int) (steps : Steps) (sliceId : String) :
    List String → Generic5GState UdrState → Prop
  | [], _ => True
  | imsi :: imsis, s =>
    (∀ c, s.currentConfig = some c → ∀ sms, toMap Prod.fst s.rest.ueDict imsi = some (imsi, [sms]) → sliceId = sms.sd →
      udr (.deleteSession imsi c.config.plmn sms) s.rest.requests.length ≠ .ok 204) ∧
    ∀ s', (delSliceOf udr validateInt steps sliceId imsi).run s = .ok () s' → KeepsSessions udr validateInt steps sliceId imsis s'

/-- Where the slice leaves the configuration, no session goes with it. -/
def DeletesSliceSafely (udr : Udr) (validateInt : String → Option Int) (steps : Steps) (sliceId : String)
    (s : Generic5GState UdrState) : Prop :=
  ∀ c, s.currentConfig = some c → ∀ c', (Create5gModel.removeSlice sliceId).run c = .ok () c' →
    KeepsSessions udr validateInt steps sliceId (s.rest.ueDict.map Prod.fst) ⟨some c', s.rest⟩

section Deleting

variable {udr : Udr} {validateInt : String → Option Int} {steps : Steps} {c : Create5gModel} {d : List (String × List Snssai)}
  {s : Generic5GState UdrState} {sliceId : String}

theorem sameSize_run (h : UeKeep p d s) : (sameSize d.length).run s = .ok () s := by
  unfold sameSize
  rw [run_bind_ok get _ rfl, if_neg (by rw [h.2]; exact fun hne => hne rfl)]
  rfl

/-- An item of the slice, where the UDR does not delete its session. -/
theorem disassociating_kept (hsteps : steps.LeaveUes) (h : UeKeep (fun config => config = some c) d s)
    (hentry : toMap Prod.fst d imsi = some (imsi, [sms]))
    (hkept : udr (.deleteSession imsi c.config.plmn sms) s.rest.requests.length ≠ .ok 204) :
    Meets (disassociatingSubscriberFromSlice udr validateInt steps imsi) s
      (fun _ => UeKeep (fun config => config = some c) d) (fun _ => UeKeep (fun config => config = some c) d) := by
  have hentry' : toMap Prod.fst s.rest.ueDict imsi = some (imsi, [sms]) := by
    rw [h.2]
    exact hentry
  cases hanswer : udr (.deleteSession imsi c.config.plmn sms) s.rest.requests.length with
  | error e => exact meets_of_error (disassociating_run_error h.1 hentry' hanswer) h
  | ok status =>
    have hstatus : status ≠ 204 := fun heq => hkept (by rw [hanswer, heq])
    have hafter : UeKeep (fun config => config = some c) d (afterDelete imsi c.config.plmn sms status s) := by
      have hkeeps := afterDelete_keeps h hentry c.config.plmn status
      rw [if_neg hstatus] at hkeeps
      exact hkeeps
    unfold Meets
    rw [disassociating_run_ok h.1 hentry' hanswer]
    exact refresh_maintains hsteps _ hafter

theorem delSliceOf_kept (hsteps : steps.LeaveUes) (h : UeKeep (fun config => config = some c) d s)
    (hentry : toMap Prod.fst d imsi = some (imsi, [sms]))
    (hkept : sliceId = sms.sd → udr (.deleteSession imsi c.config.plmn sms) s.rest.requests.length ≠ .ok 204) :
    Meets (delSliceOf udr validateInt steps sliceId imsi) s
      (fun _ => UeKeep (fun config => config = some c) d) (fun _ => UeKeep (fun config => config = some c) d) := by
  unfold delSliceOf
  rw [meets_bind, meets_get, h.2, hentry]
  dsimp only
  by_cases hsd : sliceId = sms.sd
  · have hfilter : [sms].filter (fun snssai => decide (sliceId = snssai.sd)) = [sms] := by
      rw [List.filter_cons_of_pos (by simpa using hsd), List.filter_nil]
    rw [hfilter, List.forM_cons, meets_bind]
    apply (disassociating_kept hsteps h hentry (hkept hsd)).mono
    · exact fun _ _ hs' => hs'
    · exact fun _ _ hs' => hs'
  · have hfilter : [sms].filter (fun snssai => decide (sliceId = snssai.sd)) = [] := by
      rw [List.filter_cons_of_neg (by simpa using hsd), List.filter_nil]
    rw [hfilter]
    exact h

theorem delSliceFrom_kept (hsteps : steps.LeaveUes) {imsis : List String} (h : UeKeep (fun config => config = some c) d s)
    (himsis : ∀ imsi ∈ imsis, ∃ sms, toMap Prod.fst d imsi = some (imsi, [sms]))
    (hkept : KeepsSessions udr validateInt steps sliceId imsis s) :
    Meets (delSliceFrom udr validateInt steps sliceId d.length imsis) s
      (fun _ => UeKeep (fun config => config = some c) d) (fun _ => UeKeep (fun config => config = some c) d) := by
  induction imsis generalizing s with
  | nil => exact meets_of_ok (sameSize_run h) h
  | cons imsi imsis ih =>
    obtain ⟨sms, hentry⟩ := himsis imsi List.mem_cons_self
    obtain ⟨hfirst, hlater⟩ := hkept
    rw [delSliceFrom, meets_bind]
    apply meets_of_ok (sameSize_run h)
    rw [meets_bind]
    have hentry' : toMap Prod.fst s.rest.ueDict imsi = some (imsi, [sms]) := by
      rw [h.2]
      exact hentry
    have hof : Meets (delSliceOf udr validateInt steps sliceId imsi) s (fun _ => UeKeep (fun config => config = some c) d)
        (fun _ => UeKeep (fun config => config = some c) d) :=
      delSliceOf_kept hsteps h hentry (hfirst c h.1 sms hentry')
    unfold Meets at hof ⊢
    cases hrun : (delSliceOf udr validateInt steps sliceId imsi).run s with
    | ok u s' =>
      rw [hrun] at hof
      exact ih hof (fun other hother => himsis other (List.mem_cons_of_mem _ hother)) (hlater s' hrun)
    | error e s' =>
      rw [hrun] at hof
      exact hof

theorem delSlice_kept (hsteps : steps.LeaveUes) (h : UeKeep (fun config => config = some c) d s)
    (himsis : ∀ imsi ∈ d.map Prod.fst, ∃ sms, toMap Prod.fst d imsi = some (imsi, [sms]))
    (hkept : KeepsSessions udr validateInt steps sliceId (d.map Prod.fst) s) :
    Meets (delSlice udr validateInt steps sliceId) s
      (fun _ => UeKeep (fun config => config = some c) d) (fun _ => UeKeep (fun config => config = some c) d) := by
  unfold delSlice
  rw [meets_bind, meets_get, h.2, meets_bind]
  apply (delSliceFrom_kept hsteps h himsis hkept).mono
  · intro _ s' hs'
    have hrest : Maintains (UeKeep (fun config => config = some c) d) (do
        onOai steps.updateEdgeAreas
        onOai (updateCoreValues validateInt)
        onOai steps.updateCore
        onOai steps.updateEdgeAreas
        onOai steps.updateGnbConfig : UeM Unit) := by
      apply (onOai_maintains hsteps.updateEdgeAreas.maintains).bind
      intro _
      apply (onOai_maintains updateCoreValues_maintains).bind
      intro _
      apply (onOai_maintains hsteps.updateCore.maintains).bind
      intro _
      apply (onOai_maintains hsteps.updateEdgeAreas.maintains).bind
      exact fun _ => onOai_maintains hsteps.updateGnbConfig.maintains
    exact hrest s' hs'
  · exact fun _ _ hs' => hs'

end Deleting

/-! ### Updating a slice -/

/-- The configuration, with its subscribers tracked. -/
def TracksOf (c : Create5gModel) (s : Generic5GState UdrState) : Prop :=
  s.currentConfig = some c ∧ Tracks c.config.subscribers s.rest.ueDict

/-- When the UDR deletes the session of the subscriber, the steps up to the new entry return. -/
def RenewsSafely (udr : Udr) (validateInt : String → Option Int) (steps : Steps) (imsi : String) (s : Generic5GState UdrState) : Prop :=
  ∀ c, s.currentConfig = some c → ∀ sms, toMap Prod.fst s.rest.ueDict imsi = some (imsi, [sms]) →
    udr (.deleteSession imsi c.config.plmn sms) s.rest.requests.length = .ok 204 →
      ¬ Raised ((refresh validateInt steps).run (afterDelete imsi c.config.plmn sms 204 s)) ∧ ∃ found, association c imsi = .ok found

/-- The subscribers of the slice, one after the other. -/
def RenewsAll (udr : Udr) (validateInt : String → Option Int) (steps : Steps) :
    List SubSubscribers → Generic5GState UdrState → Prop
  | [], _ => True
  | subscriber :: subscribers, s => RenewsSafely udr validateInt steps subscriber.imsi s ∧
    ∀ s', (reassociate udr validateInt steps subscriber).run s = .ok () s' → RenewsAll udr validateInt steps subscribers s'

/-- What `update_slice` looks up before it changes anything. -/
def sliceLookup (m : SubSliceProfiles) (ueDict : List (String × List Snssai)) (c : Create5gModel) :
    Except PyError (SubSliceProfiles × List SubSubscribers) := do
  let oldSlice ← getSlice c m.sliceId
  let _ ← m.dnnList.mapM (getDnn c)
  let subscribers ← c.config.subscribers.mapM (subscribersOf ueDict m.sliceId)
  return (oldSlice, subscribers.flatten)

def UpdatesSafely (udr : Udr) (validateInt : String → Option Int) (steps : Steps) (m : SubSliceProfiles)
    (s : Generic5GState UdrState) : Prop :=
  ∀ c, s.currentConfig = some c → ∀ old subscribers, sliceLookup m s.rest.ueDict c = .ok (old, subscribers) →
    RenewsAll udr validateInt steps subscribers ⟨some (replaceProfile old m c), s.rest⟩

section Updating

variable {udr : Udr} {validateInt : String → Option Int} {steps : Steps} {c : Create5gModel} {s : Generic5GState UdrState}

theorem associating_again (h : imsi ∈ s.rest.ueDict.map Prod.fst) :
    (associatingSubscriberWithSlice udr imsi).run s =
      .error (.blueprintNG s!"Subscriber with imsi: {imsi} already associated to a slice") s := by
  unfold associatingSubscriberWithSlice
  rw [run_bind_ok get _ rfl, if_pos h]
  rfl

theorem TracksOf.of_keep {d : List (String × List Snssai)} (htracks : Tracks c.config.subscribers d)
    (h : UeKeep (fun config => config = some c) d s) : TracksOf c s :=
  ⟨h.1, by rw [h.2]; exact htracks⟩

/-- A session that is not deleted keeps the entry, and the association is refused. -/
theorem reassociate_refused (hsteps : steps.LeaveUes) {d : List (String × List Snssai)} (h : UeKeep (fun config => config = some c) d s)
    (hmem : imsi ∈ d.map Prod.fst) :
    Meets (do refresh validateInt steps
              associatingSubscriberWithSlice udr imsi : UeM Unit) s
      (fun _ s' => UeKeep (fun config => config = some c) d s') (fun _ s' => UeKeep (fun config => config = some c) d s') := by
  rw [meets_bind]
  apply (refresh_maintains hsteps s h).mono
  · intro _ s' hs'
    refine meets_of_error (associating_again ?_) hs'
    rw [hs'.2]
    exact hmem
  · exact fun _ _ hs' => hs'

theorem reassociate_keeps (hsteps : steps.LeaveUes) (h : TracksOf c s) {subscriber : SubSubscribers}
    (hsubscriber : subscriber ∈ c.config.subscribers) (hsafe : RenewsSafely udr validateInt steps subscriber.imsi s) :
    Meets (reassociate udr validateInt steps subscriber) s (fun _ => TracksOf c) (fun _ => TracksOf c) := by
  obtain ⟨hconfig, htracks⟩ := h
  have hmem := htracks.mem_keys hsubscriber
  obtain ⟨sms, hentry⟩ := htracks.entry hmem
  have hkeep : UeKeep (fun config => config = some c) s.rest.ueDict s := ⟨hconfig, rfl⟩
  unfold reassociate
  cases hanswer : udr (.deleteSession subscriber.imsi c.config.plmn sms) s.rest.requests.length with
  | error e => exact meets_of_error (run_bind_error _ _ (disassociating_run_error hconfig hentry hanswer)) ⟨hconfig, htracks⟩
  | ok status =>
    have hrun : (do disassociatingSubscriberFromSlice udr validateInt steps subscriber.imsi
                    associatingSubscriberWithSlice udr subscriber.imsi : UeM Unit).run s =
        (do refresh validateInt steps
            associatingSubscriberWithSlice udr subscriber.imsi : UeM Unit).run
          (afterDelete subscriber.imsi c.config.plmn sms status s) := by
      rw [EStateM.run_bind, EStateM.run_bind, disassociating_run_ok hconfig hentry hanswer]
    have hafter := afterDelete_keeps hkeep hentry c.config.plmn status
    unfold Meets
    rw [hrun]
    by_cases hstatus : status = 204
    · subst hstatus
      obtain ⟨hreturns, ⟨profile, snssai, plmn⟩, hfound⟩ := hsafe c hconfig sms hentry hanswer
      rw [if_pos rfl] at hafter
      obtain ⟨found, first, n, hget, hfirst, hn, hsd, rfl⟩ := association_ok hfound
      obtain ⟨hfoundMem, himsi⟩ := getSubscriber_ok hget
      obtain ⟨first', n', sms', hfirst', hn', hentry', hsd'⟩ := htracks.recorded found hfoundMem
      rw [himsi, hentry] at hentry'
      cases hentry'
      rw [hfirst] at hfirst'
      cases hfirst'
      rw [hn] at hn'
      cases hn'
      obtain ⟨hnew, hrenewed⟩ := htracks.renewed hentry (hsd.trans hsd'.symm)
      have hrest : Meets (do refresh validateInt steps
                             associatingSubscriberWithSlice udr subscriber.imsi : UeM Unit)
          (afterDelete subscriber.imsi c.config.plmn sms 204 s) (fun _ => TracksOf c) (fun _ => TracksOf c) := by
        rw [meets_bind]
        have hrefresh : Meets (refresh validateInt steps) _ _ _ := refresh_maintains hsteps _ hafter
        unfold Meets at hrefresh ⊢
        cases hreturn : (refresh validateInt steps).run (afterDelete subscriber.imsi c.config.plmn sms 204 s) with
        | error e s' =>
          rw [hreturn] at hreturns
          exact absurd trivial hreturns
        | ok u s' =>
          rw [hreturn] at hrefresh
          apply (associating_keeps hrefresh hnew).mono
          · rintro _ s'' ⟨profile', snssai', hfound', hstored⟩
            rw [hfound] at hfound'
            cases hfound'
            exact TracksOf.of_keep hrenewed hstored
          · rintro _ s'' (⟨⟨e, herror⟩, -⟩ | ⟨profile', snssai', hfound', -, hstored⟩)
            · rw [hfound] at herror
              cases herror
            · rw [hfound] at hfound'
              cases hfound'
              exact TracksOf.of_keep hrenewed hstored
      exact hrest
    · rw [if_neg hstatus] at hafter
      apply (reassociate_refused hsteps hafter hmem).mono
      · exact fun _ _ hs' => TracksOf.of_keep htracks hs'
      · exact fun _ _ hs' => TracksOf.of_keep htracks hs'

theorem reassociates_keeps (hsteps : steps.LeaveUes) {subscribers : List SubSubscribers} (h : TracksOf c s)
    (hsubscribers : ∀ subscriber ∈ subscribers, subscriber ∈ c.config.subscribers)
    (hsafe : RenewsAll udr validateInt steps subscribers s) :
    Meets (forM subscribers (reassociate udr validateInt steps)) s (fun _ => TracksOf c) (fun _ => TracksOf c) := by
  induction subscribers generalizing s with
  | nil => exact h
  | cons subscriber subscribers ih =>
    rw [List.forM_cons, meets_bind]
    have hfirst := reassociate_keeps hsteps h (hsubscribers subscriber List.mem_cons_self) hsafe.1
    unfold Meets at hfirst ⊢
    cases hrun : (reassociate udr validateInt steps subscriber).run s with
    | ok u s' =>
      rw [hrun] at hfirst
      exact ih hfirst (fun other hother => hsubscribers other (List.mem_cons_of_mem _ hother)) (hsafe.2 s' hrun)
    | error e s' =>
      rw [hrun] at hfirst
      exact hfirst

theorem subscribersOf_all {found : List SubSubscribers} {ueDict : List (String × List Snssai)} (h : subscribersOf ueDict sliceId subscriber = .ok found) :
    ∀ other ∈ found, other = subscriber := by
  unfold subscribersOf at h
  split at h
  · cases h
  · obtain ⟨ids, -, h⟩ := except_bind_ok.1 h
    cases h
    intro other hother
    obtain ⟨-, -, rfl⟩ := List.mem_map.1 hother
    rfl

theorem sliceLookup_subscribers {m : SubSliceProfiles} {ueDict : List (String × List Snssai)}
    (h : sliceLookup m ueDict c = .ok (old, subscribers)) : ∀ subscriber ∈ subscribers, subscriber ∈ c.config.subscribers := by
  unfold sliceLookup at h
  obtain ⟨oldSlice, -, h⟩ := except_bind_ok.1 h
  obtain ⟨nets, -, h⟩ := except_bind_ok.1 h
  obtain ⟨lists, hlists, h⟩ := except_bind_ok.1 h
  cases h
  intro subscriber hsubscriber
  obtain ⟨found, hfound, hmem⟩ := List.mem_flatten.1 hsubscriber
  obtain ⟨other, hother, hof⟩ := (mem_of_mapM_ok hlists).1 hfound
  rw [subscribersOf_all hof subscriber hmem]
  exact hother

theorem updateSlice_tracked (hsteps : steps.LeaveUes) (m : SubSliceProfiles) (h : Tracked s)
    (hsafe : UpdatesSafely udr validateInt steps m s) :
    Tracked (finalState ((updateSlice udr validateInt steps m).run s)) := by
  obtain ⟨c, hconfig, htracks⟩ := h
  have hmeets : Meets (updateSlice udr validateInt steps m) s (fun _ => Tracked) (fun _ => Tracked) := by
    unfold updateSlice
    rw [meets_bind, meets_get, meets_bind]
    apply (reading_meets "config" (sliceLookup m s.rest.ueDict) hconfig).mono
    · rintro ⟨old, subscribers⟩ s₁ ⟨hfound, rfl⟩
      dsimp only
      have hchange : (Generic5G.onConfig "config" (modify (replaceProfile old m)) : UeM Unit).run s₁ =
          .ok () ⟨some (replaceProfile old m c), s₁.rest⟩ := by
        obtain ⟨config, r⟩ := s₁
        obtain rfl : config = some c := hconfig
        rfl
      rw [meets_bind]
      apply meets_of_ok hchange
      rw [meets_bind]
      have htracks' : TracksOf (replaceProfile old m c) ⟨some (replaceProfile old m c), s₁.rest⟩ := ⟨rfl, htracks⟩
      have hsubscribers : ∀ subscriber ∈ subscribers, subscriber ∈ c.config.subscribers := sliceLookup_subscribers hfound
      apply (reassociates_keeps hsteps htracks' hsubscribers (hsafe c hconfig old subscribers hfound)).mono
      · rintro _ s₂ ⟨hconfig₂, htracks₂⟩
        have hrest : Maintains (UeKeep (fun config => config = some (replaceProfile old m c)) s₂.rest.ueDict) (do
            onOai (updateCoreValues validateInt)
            onOai steps.updateCore
            onOai steps.updateEdgeAreas
            onOai steps.updateGnbConfig : UeM Unit) := by
          apply (onOai_maintains updateCoreValues_maintains).bind
          intro _
          apply (onOai_maintains hsteps.updateCore.maintains).bind
          intro _
          apply (onOai_maintains hsteps.updateEdgeAreas.maintains).bind
          exact fun _ => onOai_maintains hsteps.updateGnbConfig.maintains
        apply (hrest s₂ ⟨hconfig₂, rfl⟩).mono
        · exact fun _ _ hs' => ⟨_, TracksOf.of_keep htracks₂ hs'⟩
        · exact fun _ _ hs' => ⟨_, TracksOf.of_keep htracks₂ hs'⟩
      · exact fun _ _ hs' => ⟨_, hs'⟩
    · rintro e s₁ ⟨-, rfl⟩
      exact ⟨c, hconfig, htracks⟩
  unfold Meets at hmeets
  cases hrun : (updateSlice udr validateInt steps m).run s with
  | ok u s' =>
    rw [hrun] at hmeets
    exact hmeets
  | error e s' =>
    rw [hrun] at hmeets
    exact hmeets

end Updating

/-! ### The other operations -/

/-- A configuration with these subscribers. -/
def Subscribed (subscribers : List SubSubscribers) (config : Option Create5gModel) : Prop :=
  ∃ c, config = some c ∧ c.config.subscribers = subscribers

section Others

variable {subscribers : List SubSubscribers} {d : List (String × List Snssai)} {validateInt : String → Option Int} {steps : Steps}

theorem get_subscribed : ∀ c : Create5gModel, c.config.subscribers = subscribers →
    Meets (get : EStateM PyError Create5gModel Create5gModel) c
      (fun a s' => a.config.subscribers = subscribers ∧ s'.config.subscribers = subscribers)
      (fun _ s' => s'.config.subscribers = subscribers) :=
  fun _ hc => ⟨hc, hc⟩

theorem appendSliceTo_maintains (item : SubSlices) (id : String) :
    Maintains (fun c => c.config.subscribers = subscribers) (Create5gModel.appendSliceTo item id) := by
  unfold Create5gModel.appendSliceTo
  split
  · exact Maintains.throw _
  · unfold Create5gModel.appendSlice
    apply Maintains.bind_of get_subscribed
    intro c hc
    split
    · exact Maintains.throw _
    · split
      · exact Maintains.throw _
      · exact fun _ _ => hc

theorem checking_maintains {I : Create5gModel → Prop} (check : Create5gModel → Except PyError Unit) :
    Maintains I (Create5gModel.checking check) := by
  unfold Create5gModel.checking
  apply Maintains.get.bind
  intro c
  split
  · exact Maintains.pure _
  · exact Maintains.throw _

theorem day2AddSliceGeneric_maintains (m : Core5GAddSliceModel) (oss : Bool) :
    Maintains (fun c => c.config.subscribers = subscribers) (Create5gModel.day2AddSliceGeneric m oss) := by
  unfold Create5gModel.day2AddSliceGeneric
  apply (checking_maintains _).bind
  intro _
  apply (Maintains.forM (fun id _ => appendSliceTo_maintains _ id)).bind
  intro _
  exact Maintains.modify (fun _ hc => hc)

theorem removeSlice_maintains (sliceId : String) :
    Maintains (fun c => c.config.subscribers = subscribers) (Create5gModel.removeSlice sliceId) := by
  unfold Create5gModel.removeSlice
  apply Maintains.bind_of get_subscribed
  intro c hc
  have hset : Maintains (fun c => c.config.subscribers = subscribers)
      (set (c.setAreas (Create5gModel.delSliceFromAreas sliceId c.areas).2) : EStateM PyError Create5gModel Unit) :=
    fun _ _ => hc
  apply hset.bind
  intro _
  split
  · exact Maintains.throw _
  · split
    · exact Maintains.throw _
    · exact Maintains.modify (fun _ hc => hc)

theorem addDnnToConf_maintains (hsteps : steps.LeaveUes) (m : SubDataNets) :
    Maintains (OaiKeep (Subscribed subscribers) d) (addDnnToConf validateInt steps m) := by
  unfold addDnnToConf
  apply (onConfig_keeps "config" _ ?_).bind
  · intro _
    apply (onConfig_keeps "config" _ ?_).bind
    · intro _
      apply updateCoreValues_maintains.bind
      intro _
      apply hsteps.updateCore.maintains.bind
      intro _
      apply hsteps.updateEdgeAreas.maintains.bind
      exact fun _ => hsteps.updateGnbConfig.maintains
    · rintro c ⟨_, hsome, hc⟩
      cases hsome
      exact ⟨_, rfl, hc⟩
  · intro c hc
    exact (checking_maintains (I := fun c => Subscribed subscribers (some c)) _).finalState hc

theorem delDnnFromConf_maintains (hsteps : steps.LeaveUes) (dnn : String) :
    Maintains (OaiKeep (Subscribed subscribers) d) (delDnnFromConf validateInt steps dnn) := by
  unfold delDnnFromConf
  apply (onConfig_keeps "config" _ ?_).bind
  · intro found
    apply (onConfig_keeps "config" _ ?_).bind
    · intro _
      apply (onConfig_keeps "config" _ ?_).bind
      · intro _
        apply updateCoreValues_maintains.bind
        intro _
        apply hsteps.updateCore.maintains.bind
        intro _
        apply hsteps.updateEdgeAreas.maintains.bind
        exact fun _ => hsteps.updateGnbConfig.maintains
      · rintro c ⟨_, hsome, hc⟩
        cases hsome
        exact ⟨_, rfl, hc⟩
    · intro c hc
      exact (checking_maintains (I := fun c => Subscribed subscribers (some c)) _).finalState hc
  · intro c hc
    have hread : Maintains (fun c => Subscribed subscribers (some c)) (do
        let c ← get
        Generic5G.liftExcept (getDnn c dnn) : EStateM PyError Create5gModel SubDataNets) := by
      apply Maintains.get.bind
      intro c
      unfold Generic5G.liftExcept
      split
      · exact Maintains.pure _
      · exact Maintains.throw _
    exact hread.finalState hc

end Others

section Operations

variable {udr : Udr} {validateInt : String → Option Int} {steps : Steps} {s : Generic5GState UdrState} {c : Create5gModel} {r : UdrState}

theorem day2AddSlice_tracked (hsteps : steps.LeaveUes) (m : Core5GAddSliceModel) (oss : Bool) (h : Tracked s) :
    Tracked (finalState ((Generic5G.day2AddSlice (onOai (redeploy validateInt steps)) m oss).run s)) := by
  obtain ⟨config, r⟩ := s
  obtain ⟨c, hc, htracks⟩ := h
  obtain rfl : config = some c := hc
  rw [Generic5G.day2AddSlice_run]
  have hchange : Meets (Create5gModel.day2AddSliceGeneric m oss) c (fun _ c' => c'.config.subscribers = c.config.subscribers)
      (fun _ c' => c'.config.subscribers = c.config.subscribers) := day2AddSliceGeneric_maintains m oss c rfl
  unfold Meets at hchange
  cases hrun : (Create5gModel.day2AddSliceGeneric m oss).run c with
  | error e c' => exact ⟨c, rfl, htracks⟩
  | ok u c' =>
    rw [hrun] at hchange
    exact restoring_tracked (keeping_tracked htracks hchange (onOai_maintains (redeploy_maintains hsteps)))

theorem day2DelSlice_tracked (hsteps : steps.LeaveUes) (sliceId : String) (h : Tracked s)
    (hsafe : DeletesSliceSafely udr validateInt steps sliceId s) :
    Tracked (finalState ((Generic5G.day2DelSlice (delSlice udr validateInt steps sliceId) sliceId).run s)) := by
  obtain ⟨config, r⟩ := s
  obtain ⟨c, hc, htracks⟩ := h
  obtain rfl : config = some c := hc
  rw [Generic5G.day2DelSlice_run]
  have hremove : Meets (Create5gModel.removeSlice sliceId) c (fun _ c' => c'.config.subscribers = c.config.subscribers)
      (fun _ c' => c'.config.subscribers = c.config.subscribers) := removeSlice_maintains sliceId c rfl
  unfold Meets at hremove
  cases hrun : (Create5gModel.removeSlice sliceId).run c with
  | error e c' =>
    rw [hrun] at hremove
    exact ⟨c', rfl, by rw [hremove]; exact htracks⟩
  | ok u c' =>
    rw [hrun] at hremove
    apply restoring_tracked
    have hkeep : UeKeep (fun config => config = some c') r.ueDict ⟨some c', r⟩ := ⟨rfl, rfl⟩
    apply (delSlice_kept hsteps hkeep (fun imsi himsi => htracks.entry himsi) (hsafe c rfl c' hrun)).mono
    · rintro _ s' ⟨hconfig, hdict⟩
      exact ⟨c', hconfig, by rw [hremove, hdict]; exact htracks⟩
    · rintro _ s' ⟨-, hdict⟩
      rw [hdict]
      exact htracks

/-- An operation whose hook leaves the subscribers alone. -/
theorem keepingOp_tracked {attr : String} {check : Create5gModel → Except PyError Unit} {change : Create5gModel → Create5gModel} {m : OaiM Unit}
    (hchange : ∀ c : Create5gModel, (change c).config.subscribers = c.config.subscribers)
    (hm : ∀ subscribers d, Maintains (OaiKeep (Subscribed subscribers) d) m) (h : Tracked s) :
    Tracked (finalState ((Generic5G.changeConfig attr check change (onOai m)).run s)) := by
  obtain ⟨config, r⟩ := s
  obtain ⟨c, hc, htracks⟩ := h
  obtain rfl : config = some c := hc
  apply changeConfig_tracked htracks
  exact fun _ => keeping_tracked htracks (hchange c) (onOai_maintains (hm _ _))

/-- What an operation asks of the state it starts in. -/
def UeOp.Safe (udr : Udr) (validateInt : String → Option Int) : UeOp → Generic5GState UdrState → Prop
  | .day2 steps op, s =>
    match op with
    | .addUes m => AddsSafely udr m s
    | .delUes imsi => DeletesSafely udr validateInt steps imsi s
    | .delSlice sliceId => DeletesSliceSafely udr validateInt steps sliceId s
    | _ => True
  | .updateSlice steps m, s => UpdatesSafely udr validateInt steps m s

theorem exec_tracked {op : UeOp} (hsteps : op.steps.LeaveUes) (h : Tracked s) (hsafe : op.Safe udr validateInt s) :
    Tracked (finalState ((op.exec udr validateInt).run s)) := by
  cases op with
  | updateSlice steps m => exact updateSlice_tracked hsteps m h hsafe
  | day2 steps op =>
    have hredeploy : ∀ subscribers d, Maintains (OaiKeep (Subscribed subscribers) d) (redeploy validateInt steps) :=
      fun _ _ => redeploy_maintains hsteps
    cases op with
    | addUes m => exact day2AddUes_tracked m h hsafe
    | delUes imsi => exact day2DelUes_tracked hsteps imsi h hsafe
    | addDnn m => exact keepingOp_tracked (fun _ => rfl) (fun _ _ => addDnnToConf_maintains hsteps m) h
    | delDnn dnn => exact keepingOp_tracked (fun _ => rfl) (fun _ _ => delDnnFromConf_maintains hsteps dnn) h
    | addSliceOss m => exact day2AddSlice_tracked hsteps m true h
    | addSliceOperator m => exact day2AddSlice_tracked hsteps m false h
    | delSlice sliceId => exact day2DelSlice_tracked hsteps sliceId h hsafe
    | addTac m => exact keepingOp_tracked (fun _ => rfl) hredeploy h
    | delTac areaId => exact keepingOp_tracked (fun _ => rfl) hredeploy h

end Operations

/-! ### Creating the blueprint -/

/-- Each of the subscribers gets its entry, and nothing raises between two of them. -/
def AddsAll (udr : Udr) : List SubSubscribers → Generic5GState UdrState → Prop
  | [], _ => True
  | m :: later, s =>
    m.imsi ∉ s.rest.ueDict.map Prod.fst ∧ (∃ status, udr (.putUe m) s.rest.requests.length = .ok status) ∧
    (∀ c, s.currentConfig = some c → ∃ profile snssai plmn, association c m.imsi = .ok (profile, snssai, plmn) ∧
      (later = [] ∨ PutsAnswered udr c m.imsi snssai [] profile.dnnList (s.rest.requests.length + 1))) ∧
    ∀ s', (addUes udr m).run s = .ok () s' → AddsAll udr later s'

/-- Without subscribers nothing is asked; with some, what comes before them returns. -/
def CreatesSafely (udr : Udr) (validateInt : String → Option Int) (createModel : Create5gModel) (steps : CreateSteps)
    (r : UdrState) : Prop :=
  createModel.config.subscribers = [] ∨
    ∃ s, (onOai (deploy validateInt createModel steps)).run ⟨some createModel, r⟩ = .ok () s ∧ AddsAll udr createModel.config.subscribers s

section Creating

variable {udr : Udr} {validateInt : String → Option Int} {steps : CreateSteps} {createModel c : Create5gModel}
  {p : Option Create5gModel → Prop} {d : List (String × List Snssai)} {s : Generic5GState UdrState}

theorem deploy_maintains (hsteps : steps.LeaveUes) : Maintains (OaiKeep p d) (deploy validateInt createModel steps) := by
  unfold deploy prepareCore
  apply (onConfig_keeps "config" _ ?_).bind
  · intro _
    apply hsteps.preCreationChecks.maintains.bind
    intro _
    apply hsteps.updateEdgeAreas.maintains.bind
    intro _
    split
    · exact Maintains.throw _
    · have hvalues : Maintains (OaiKeep p d) (modify (fun s => { s with rest := { s.rest with
          oaiConfigValues := {}
          mcc := (PlmnUse.oai.parts createModel.config.plmn).1
          mnc := (PlmnUse.oai.parts createModel.config.plmn).2 } }) : OaiM Unit) := Maintains.modify (fun _ hs => hs)
      refine hvalues.bind (fun _ => ?_)
      apply updateCoreValues_maintains.bind
      exact fun _ => hsteps.installHelmChart.maintains
  · intro c hc
    exact (checking_maintains (I := fun c => p (some c)) _).finalState hc

theorem getSubscriber_new {subscribers later : List SubSubscribers} {m found : SubSubscribers}
    (hlist : c.config.subscribers = subscribers ++ m :: later) (hnew : ∀ subscriber ∈ subscribers, subscriber.imsi ≠ m.imsi)
    (h : getSubscriber c m.imsi = .ok found) : found = m := by
  have hfind : c.config.subscribers.find? (fun subscriber => decide (subscriber.imsi = m.imsi)) = some m := by
    have hnone : subscribers.find? (fun subscriber => decide (subscriber.imsi = m.imsi)) = none := by
      rw [List.find?_eq_none]
      intro subscriber hsubscriber
      rw [decide_eq_true_iff]
      exact hnew subscriber hsubscriber
    rw [hlist, List.find?_append, hnone, Option.none_or]
    exact List.find?_cons_of_pos (by simp)
  unfold getSubscriber at h
  rw [hfind] at h
  cases h
  rfl

theorem addsAll_tracks {subscribers todo : List SubSubscribers} (hconfig : s.currentConfig = some c)
    (hlist : c.config.subscribers = subscribers ++ todo) (htracks : Tracks subscribers s.rest.ueDict) (hsafe : AddsAll udr todo s) :
    Meets (forM todo (addUes udr)) s (fun _ => TracksOf c) (fun _ => TracksOf c) := by
  induction todo generalizing s subscribers with
  | nil =>
    rw [List.append_nil] at hlist
    exact ⟨hconfig, by rw [hlist]; exact htracks⟩
  | cons m later ih =>
    obtain ⟨hnew, hanswered, hassociation, hlater⟩ := hsafe
    obtain ⟨profile, snssai, plmn, hfound, hputs⟩ := hassociation c hconfig
    obtain ⟨found, first, n, hget, hfirst, hn, hsd, rfl⟩ := association_ok hfound
    have habsent : ∀ subscriber ∈ subscribers, subscriber.imsi ≠ m.imsi :=
      fun subscriber hsubscriber heq => hnew (heq ▸ htracks.mem_keys hsubscriber)
    obtain rfl := getSubscriber_new hlist habsent hget
    have hadded := htracks.added hnew hfirst hn hsd
    have hadd : Meets (addUes udr found) s _ _ := addUes_keeps found (d := s.rest.ueDict) ⟨hconfig, rfl⟩ hnew
    rw [List.forM_cons, meets_bind]
    unfold Meets at hadd ⊢
    cases hrun : (addUes udr found).run s with
    | ok u s' =>
      rw [hrun] at hadd
      obtain ⟨profile', snssai', hfound', hconfig', hdict'⟩ := hadd
      rw [hfound] at hfound'
      cases hfound'
      have hsplit : c.config.subscribers = (subscribers ++ [found]) ++ later := by
        rw [hlist, List.append_assoc]
        rfl
      exact ih hconfig' hsplit (by rw [hdict']; exact hadded) (hlater s' hrun)
    | error e s' =>
      rw [hrun] at hadd
      obtain ⟨status, hstatus⟩ := hanswered
      rcases hadd with ⟨⟨e', herror⟩ | ⟨e', herror⟩, -⟩ | ⟨-, profile', snssai', hfound', hnot, hconfig', hdict'⟩
      · rw [hstatus] at herror
        cases herror
      · rw [hfound] at herror
        cases herror
      · rw [hfound] at hfound'
        cases hfound'
        obtain rfl := hputs.resolve_right hnot
        refine ⟨hconfig', ?_⟩
        rw [hlist, hdict']
        exact hadded

theorem create_tracked (hsteps : steps.LeaveUes) (hnew : s.rest.ueDict = []) (hsafe : CreatesSafely udr validateInt createModel steps s.rest) :
    Tracked (finalState ((create udr validateInt createModel steps).run s)) := by
  have hlast : ∀ s', TracksOf createModel s' → Meets (do onOai steps.updateEdgeAreas; onOai steps.updateGnbConfig : UeM Unit) s'
      (fun _ => Tracked) (fun _ => Tracked) := by
    rintro s' ⟨hconfig, htracks⟩
    have hrest : Maintains (UeKeep (fun config => config = some createModel) s'.rest.ueDict)
        (do onOai steps.updateEdgeAreas; onOai steps.updateGnbConfig : UeM Unit) :=
      (onOai_maintains hsteps.updateEdgeAreas.maintains).bind (fun _ => onOai_maintains hsteps.updateGnbConfig.maintains)
    apply (hrest s' ⟨hconfig, rfl⟩).mono
    · exact fun _ _ hs' => ⟨_, TracksOf.of_keep htracks hs'⟩
    · exact fun _ _ hs' => ⟨_, TracksOf.of_keep htracks hs'⟩
  have hstart : UeKeep (fun config => config = some createModel) [] ⟨some createModel, s.rest⟩ := ⟨rfl, hnew⟩
  have hdeploy : Meets (onOai (deploy validateInt createModel steps)) _ _ _ := onOai_maintains (deploy_maintains hsteps) _ hstart
  have hempty : Tracks [] [] := ⟨List.nodup_nil, by simp, by simp⟩
  have hrun : Meets (create udr validateInt createModel steps) s (fun _ => Tracked) (fun _ => Tracked) := by
    unfold create
    rw [meets_bind, meets_modify, meets_bind]
    rcases hsafe with hnobody | ⟨s', hreturns, hall⟩
    · have hall : ∀ s', UeKeep (fun config => config = some createModel) [] s' → TracksOf createModel s' := by
        intro s' hs'
        exact TracksOf.of_keep (by rw [hnobody]; exact hempty) hs'
      apply hdeploy.mono
      · intro _ s' hs'
        rw [hnobody, List.forM_nil]
        exact hlast s' (hall s' hs')
      · exact fun _ s' hs' => ⟨_, hall s' hs'⟩
    · unfold Meets at hdeploy
      rw [hreturns] at hdeploy
      apply meets_of_ok hreturns
      rw [meets_bind]
      have htracks : Tracks [] s'.rest.ueDict := by
        rw [hdeploy.2]
        exact hempty
      have hlist : createModel.config.subscribers = [] ++ createModel.config.subscribers := rfl
      apply (addsAll_tracks hdeploy.1 hlist htracks hall).mono
      · exact fun _ s'' hs'' => hlast s'' hs''
      · exact fun _ s'' hs'' => ⟨_, hs''⟩
  exact hrun.finalState

end Creating

/-- The deployment of the areas, as the campus ends up with them. -/
def campusSteps : CreateSteps where
  updateEdgeAreas := modify (fun s => { s with rest := { s.rest with edgeAreas := campusOai.edgeAreas } })

theorem campusSteps_leave : campusSteps.LeaveUes where
  updateCore := fun _ => ⟨rfl, rfl⟩
  updateEdgeAreas := fun _ => ⟨rfl, rfl⟩
  updateGnbConfig := fun _ => ⟨rfl, rfl⟩
  preCreationChecks := fun _ => ⟨rfl, rfl⟩
  installHelmChart := fun _ => ⟨rfl, rfl⟩

theorem steps_leave : Steps.LeaveUes {} :=
  ⟨fun _ => ⟨rfl, rfl⟩, fun _ => ⟨rfl, rfl⟩, fun _ => ⟨rfl, rfl⟩⟩

def fresh : Generic5GState UdrState := ⟨none, { mcc := "", mnc := "" }⟩

/-- The campus once it is created. -/
def campusCreated (udr : Udr) (c : Create5gModel) : Generic5GState UdrState :=
  finalState ((create udr (fun _ => some 9) c campusSteps).run fresh)

/-- The second request, with the session of the subscriber, gets no answer. -/
def silentUdr : Udr := fun req _ =>
  match req with
  | .putSession _ _ _ _ => .error (.runtimeError "The read operation timed out")
  | _ => .ok 204

end OpenAirInterface

end Nfvcl
