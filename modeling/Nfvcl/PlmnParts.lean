import Mathlib.Data.List.Basic
import Nfvcl.SubscriberRecords

namespace Nfvcl
set_option autoImplicit true
open Effects

/-! ### The parts of a PLMN -/

/-- `text[:n]`, which is also `text[0:n]`. -/
def upTo (n : Nat) (text : String) : String :=
  String.ofList (text.toList.take n)

/-- `text[n:]`. -/
def startingAt (n : Nat) (text : String) : String :=
  String.ofList (text.toList.drop n)

/-- `text[-n:]`. -/
def lastOf (n : Nat) (text : String) : String :=
  String.ofList (text.toList.drop (text.toList.length - n))

/-- The places where a core takes a PLMN apart. Athonet does so for its AMF, its home PLMNs and its UDR. -/
inductive PlmnUse where
  | oai | free5gc | sdCore | athonetAmf | athonetHplmn | athonetUdr
  deriving DecidableEq, Repr

/-- The mcc and the mnc. -/
def PlmnUse.parts (plmn : String) : PlmnUse → String × String
  | .oai => (upTo 3 plmn, lastOf 2 plmn)
  | .free5gc => (upTo 3 plmn, lastOf 2 plmn)
  | .sdCore => (upTo 3 plmn, startingAt 3 plmn)
  | .athonetAmf => (upTo 3 plmn, lastOf 2 plmn)
  | .athonetHplmn => (upTo 3 plmn, lastOf 2 plmn)
  | .athonetUdr => (upTo 3 plmn, lastOf 2 plmn)

/-- What `SubConfig` asks of a PLMN. -/
def ValidPlmn (plmn : String) : Prop :=
  (∀ ch ∈ plmn.toList, '0' ≤ ch ∧ ch ≤ '9') ∧ 5 ≤ plmn.toList.length ∧ plmn.toList.length ≤ 6

instance (plmn : String) : Decidable (ValidPlmn plmn) :=
  inferInstanceAs (Decidable (_ ∧ _ ∧ _))

/-- Every core has the same parts, and they make up the PLMN. -/
def PlmnAgrees (plmn : String) : Prop :=
  ∀ use : PlmnUse, use.parts plmn = PlmnUse.parts plmn .oai ∧ (use.parts plmn).1 ++ (use.parts plmn).2 = plmn

/-! ### The URLs of a subscriber -/

namespace Free5gcCore

def noneText : Option String → String
  | some text => text
  | none => "None"

/-- The record `add_ues` has when the update ends. -/
def newSubscriber (c : Create5gModel) (gpsi : Option String) (imsi : String) : Free5gcSubScriber :=
  finalState ((Free5gcSubScriber.updateSubscriberConfig imsi c gpsi).run Free5gcSubScriber.subscriberConfig)

def addUesUrl (subscriber : Free5gcSubScriber) : String :=
  s!"/subscriber/{noneText subscriber.ueId}/{noneText subscriber.plmnId}"

def delUesUrl (imsi : String) : String :=
  s!"/subscriber/imsi-{imsi}/{upTo 5 imsi}"

def delSliceUrl (imsi : String) : String :=
  s!"/subscriber/imsi-{imsi}/{upTo 5 imsi}"

end Free5gcCore

theorem ofList_append_parts (n : Nat) (text : String) : upTo n text ++ startingAt n text = text := by
  unfold upTo startingAt
  rw [← String.ofList_append, List.take_append_drop, String.ofList_toList]

theorem plmnAgrees_iff {plmn : String} (h : ValidPlmn plmn) : PlmnAgrees plmn ↔ plmn.toList.length = 5 := by
  obtain ⟨-, hlow, hhigh⟩ := h
  constructor
  · intro hagrees
    have hmnc : startingAt 3 plmn = lastOf 2 plmn := congrArg Prod.snd (hagrees .sdCore).1
    have hlength := congrArg (fun text => text.toList.length) hmnc
    simp only [startingAt, lastOf, String.toList_ofList, List.length_drop] at hlength
    omega
  · intro hfive
    have hmnc : lastOf 2 plmn = startingAt 3 plmn := by
      rw [lastOf, hfive]
      rfl
    intro use
    cases use with
    | sdCore => exact ⟨by rw [PlmnUse.parts, PlmnUse.parts, hmnc], ofList_append_parts 3 plmn⟩
    | oai => exact ⟨rfl, by rw [PlmnUse.parts, hmnc]; exact ofList_append_parts 3 plmn⟩
    | free5gc => exact ⟨rfl, by rw [PlmnUse.parts, hmnc]; exact ofList_append_parts 3 plmn⟩
    | athonetAmf => exact ⟨rfl, by rw [PlmnUse.parts, hmnc]; exact ofList_append_parts 3 plmn⟩
    | athonetHplmn => exact ⟨rfl, by rw [PlmnUse.parts, hmnc]; exact ofList_append_parts 3 plmn⟩
    | athonetUdr => exact ⟨rfl, by rw [PlmnUse.parts, hmnc]; exact ofList_append_parts 3 plmn⟩

namespace Free5gcSubScriber

/-! ### What the update leaves in the names of a record -/

def Named (c : Create5gModel) (imsi : String) (s : Free5gcSubScriber) : Prop :=
  s.ueId = some s!"imsi-{imsi}" ∧ s.plmnId = some c.config.plmn

/-- The step keeps the names, whether or not it raises. -/
def KeepsNames (m : SubscriberM α) : Prop :=
  ∀ (c : Create5gModel) (imsi : String) (s : Free5gcSubScriber), Named c imsi s → Meets m s (fun _ => Named c imsi) (fun _ => Named c imsi)

theorem keepsNames_bind {m : SubscriberM α} {f : α → SubscriberM β} (hm : KeepsNames m) (hf : ∀ a, KeepsNames (f a)) : KeepsNames (m >>= f) :=
  fun c imsi s hs => Meets.bind (hm c imsi s hs) (fun a s' hs' => hf a c imsi s' hs')

theorem keepsNames_pure (a : α) : KeepsNames (pure a) :=
  fun _ _ _ hs => hs

theorem keepsNames_lift (m : Except PyError α) : KeepsNames (Generic5G.liftExcept m) := by
  intro c imsi s hs
  cases m with
  | ok a => exact hs
  | error e => exact hs

theorem keepsNames_onPart {look : Free5gcSubScriber → Option α} {put : α → Free5gcSubScriber → Free5gcSubScriber} {f : α → Except PyError α}
    (hput : ∀ part s, (put part s).ueId = s.ueId ∧ (put part s).plmnId = s.plmnId) : KeepsNames (onPart look put attr f) := by
  intro c imsi s hs
  unfold onPart Meets EStateM.run
  dsimp only
  cases look s with
  | none => exact hs
  | some part =>
    dsimp only
    cases f part with
    | error e => exact hs
    | ok part' => exact ⟨(hput part' s).1.trans hs.1, (hput part' s).2.trans hs.2⟩

theorem keepsNames_forM {f : α → SubscriberM PUnit} {xs : List α} (h : ∀ x ∈ xs, KeepsNames (f x)) : KeepsNames (forM xs f) :=
  fun c imsi _ hs => Meets.forM xs hs (fun a ha s' hs' => h a ha c imsi s' hs')

theorem keepsNames_foldlM {f : β → α → SubscriberM β} {xs : List α} (h : ∀ b x, KeepsNames (f b x)) (b : β) : KeepsNames (xs.foldlM f b) := by
  induction xs generalizing b with
  | nil => exact keepsNames_pure b
  | cons x xs ih =>
    rw [List.foldlM_cons]
    exact keepsNames_bind (h b x) ih

theorem keepsNames_addDnn (profile : SubSliceProfiles) (configurations : Dict String Free5gc.DnnInfoRoot) (net : SubDataNets) :
    KeepsNames (addDnn profile configurations net) := by
  refine keepsNames_bind (keepsNames_lift _) fun root => ?_
  refine keepsNames_bind (keepsNames_onPart fun _ _ => ⟨rfl, rfl⟩) fun _ => ?_
  exact keepsNames_bind (keepsNames_onPart fun _ _ => ⟨rfl, rfl⟩) fun _ => keepsNames_pure _

theorem keepsNames_addSlice (c : Create5gModel) (profile : SubSliceProfiles) : KeepsNames (addSlice c profile) := by
  refine keepsNames_bind (keepsNames_lift _) fun snssai => ?_
  refine keepsNames_bind (keepsNames_onPart fun _ _ => ⟨rfl, rfl⟩) fun _ => ?_
  refine keepsNames_bind (keepsNames_onPart fun _ _ => ⟨rfl, rfl⟩) fun _ => ?_
  refine keepsNames_bind (keepsNames_onPart fun _ _ => ⟨rfl, rfl⟩) fun _ => ?_
  refine keepsNames_bind ?_ fun _ => keepsNames_onPart fun _ _ => ⟨rfl, rfl⟩
  rw [netsOf_eq]
  exact keepsNames_foldlM (keepsNames_addDnn profile) _

/-- The loop over the slices. -/
theorem keepsNames_slices (c : Create5gModel) (slices : List SubSnssai) : KeepsNames (forM slices (fun slice => do
    let profiles ← Generic5G.liftExcept (iterate c.config.sliceProfiles)
    forM profiles (fun profile =>
      if profile.sliceId = slice.sliceId ∧ profile.sliceType = slice.sliceType then addSlice c profile else pure ()))) := by
  refine keepsNames_forM fun slice _ => ?_
  refine keepsNames_bind (keepsNames_lift _) fun profiles => ?_
  refine keepsNames_forM fun profile _ => ?_
  split
  · exact keepsNames_addSlice c profile
  · exact keepsNames_pure _

/-- What follows the assignment of `ue_id`. -/
theorem named_of_modify {c : Create5gModel} (subscriber : SubSubscribers) {s : Free5gcSubScriber} (hs : s.plmnId = some c.config.plmn) {m : SubscriberM α}
    (hm : KeepsNames m) : Meets (do modify (fun s => { s with ueId := some s!"imsi-{subscriber.imsi}" }); m) s
      (fun _ => Named c subscriber.imsi) (fun _ => Named c subscriber.imsi) :=
  hm c subscriber.imsi _ ⟨rfl, hs⟩

theorem keepsNames_authentication (c : Create5gModel) (subscriber : SubSubscribers) : KeepsNames (do
    onAuthentication "authentication_method" (fun auth => { auth with authenticationMethod := subscriber.authenticationMethod })
    onAuthentication "opc" (fun auth => { auth with opcValue := subscriber.opc })
    onAuthentication "permanent_key" (fun auth => { auth with permanentKeyValue := subscriber.k })
    forM subscriber.snssai (fun slice => do
      let profiles ← Generic5G.liftExcept (iterate c.config.sliceProfiles)
      forM profiles (fun profile =>
        if profile.sliceId = slice.sliceId ∧ profile.sliceType = slice.sliceType then addSlice c profile else pure ()))) := by
  refine keepsNames_bind (keepsNames_onPart fun _ _ => ⟨rfl, rfl⟩) fun _ => ?_
  refine keepsNames_bind (keepsNames_onPart fun _ _ => ⟨rfl, rfl⟩) fun _ => ?_
  exact keepsNames_bind (keepsNames_onPart fun _ _ => ⟨rfl, rfl⟩) fun _ => keepsNames_slices c subscriber.snssai

theorem addSubscriber_names {c : Create5gModel} {h : Header} (hplmn : h.plmnId = some c.config.plmn) (gpsi : Option String)
    (subscriber : SubSubscribers) (d : SliceData) : Meets (addSubscriber c gpsi subscriber) (record h d)
      (fun _ => Named c subscriber.imsi) (fun _ => Named c subscriber.imsi) := by
  have hrest : ∀ s : Free5gcSubScriber, s.plmnId = some c.config.plmn → Meets _ s _ _ := fun s hs =>
    named_of_modify subscriber hs (keepsNames_authentication c subscriber)
  unfold addSubscriber
  cases gpsi with
  | none => exact hrest _ hplmn
  | some gpsi =>
    by_cases hgpsi : gpsi = ""
    · subst hgpsi
      exact hrest _ hplmn
    · simp only [ne_eq, hgpsi, not_false_eq_true, if_true]
      exact hrest (record { h with gpsis := _ } d) hplmn

theorem addSubscriber_keeps (c : Create5gModel) (gpsi : Option String) (subscriber : SubSubscribers) {s : Free5gcSubScriber}
    (hs : Named c subscriber.imsi s) : Meets (addSubscriber c gpsi subscriber) s
      (fun _ => Named c subscriber.imsi) (fun _ => Named c subscriber.imsi) := by
  have hrest : ∀ s : Free5gcSubScriber, Named c subscriber.imsi s → Meets _ s _ _ := fun s hs =>
    named_of_modify subscriber hs.2 (keepsNames_authentication c subscriber)
  unfold addSubscriber
  cases gpsi with
  | none => exact hrest s hs
  | some gpsi =>
    by_cases hgpsi : gpsi = ""
    · subst hgpsi
      exact hrest s hs
    · simp only [ne_eq, hgpsi, not_false_eq_true, if_true]
      have hkeeps : KeepsNames (onAccess "gpsis" (fun access => { access with gpsis := [s!"msisdn-{gpsi}"] })) :=
        keepsNames_onPart fun _ _ => ⟨rfl, rfl⟩
      exact Meets.bind (hkeeps c subscriber.imsi s hs) fun _ s' hs' => hrest s' hs'

/-- The loop over the subscribers, the imsi among them. -/
theorem subscribers_names {c : Create5gModel} {h : Header} (hplmn : h.plmnId = some c.config.plmn) (gpsi : Option String) (imsi : String)
    (d : SliceData) {subscribers : List SubSubscribers} (hmem : imsi ∈ subscribers.map SubSubscribers.imsi) :
    Meets (forM subscribers (fun subscriber => if imsi = subscriber.imsi then addSubscriber c gpsi subscriber else pure ()))
      (record h d) (fun _ => Named c imsi) (fun _ => Named c imsi) := by
  induction subscribers with
  | nil => cases hmem
  | cons subscriber subscribers ih =>
    rw [List.forM_cons]
    by_cases himsi : imsi = subscriber.imsi
    · subst himsi
      rw [if_pos rfl]
      refine Meets.bind (addSubscriber_names hplmn gpsi subscriber d) fun _ s' hs' => Meets.forM _ hs' ?_
      intro other _ s hs
      split
      · rename_i heq
        rw [heq] at hs ⊢
        exact addSubscriber_keeps c gpsi other hs
      · exact hs
    · rw [if_neg himsi, pure_bind]
      exact ih ((List.mem_cons.1 hmem).resolve_left himsi)

end Free5gcSubScriber

namespace Free5gcCore
open Free5gcSubScriber

theorem newSubscriber_named {c : Create5gModel} {subscriber : SubSubscribers} (hsub : subscriber ∈ c.config.subscribers) (gpsi : Option String) :
    Named c subscriber.imsi (newSubscriber c gpsi subscriber.imsi) := by
  have hparts : subscriberConfig.HasParts := ⟨rfl, rfl, rfl, rfl, rfl, rfl, rfl⟩
  refine Meets.finalState ?_
  unfold updateSubscriberConfig
  rw [meets_bind]
  refine meets_of_ok (clearValue_ok hparts) ?_
  rw [withoutSlices_eq hparts]
  exact subscribers_names (h := { subscriberConfig.header with plmnId := some c.config.plmn }) rfl gpsi subscriber.imsi _
    (List.mem_map_of_mem hsub)

theorem addUesUrl_eq_iff {c : Create5gModel} {subscriber : SubSubscribers} (hsub : subscriber ∈ c.config.subscribers) (gpsi : Option String) :
    addUesUrl (newSubscriber c gpsi subscriber.imsi) = delUesUrl subscriber.imsi ↔ upTo 5 subscriber.imsi = c.config.plmn := by
  obtain ⟨hue, hplmn⟩ := newSubscriber_named hsub gpsi
  have hadd : addUesUrl (newSubscriber c gpsi subscriber.imsi) = s!"/subscriber/imsi-{subscriber.imsi}/" ++ c.config.plmn := by
    rw [addUesUrl, hue, hplmn]
    simp only [noneText, String.append_assoc]
    rfl
  have hdel : delUesUrl subscriber.imsi = s!"/subscriber/imsi-{subscriber.imsi}/" ++ upTo 5 subscriber.imsi := rfl
  rw [hadd, hdel, String.append_right_inj]
  exact eq_comm

end Free5gcCore

open Free5gcCore

/-- The cores agree on the PLMN, and the requests of free5gc on the URL of each subscriber, exactly when the PLMN
has five digits and every imsi starts with it. -/
theorem plmn_and_urls_agree_iff (c : Create5gModel) (gpsi : Option String) (hplmn : ValidPlmn c.config.plmn) :
    (PlmnAgrees c.config.plmn ∧ ∀ subscriber ∈ c.config.subscribers,
      addUesUrl (newSubscriber c gpsi subscriber.imsi) = delSliceUrl subscriber.imsi ∧
      addUesUrl (newSubscriber c gpsi subscriber.imsi) = delUesUrl subscriber.imsi) ↔
    c.config.plmn.toList.length = 5 ∧ ∀ subscriber ∈ c.config.subscribers, upTo 5 subscriber.imsi = c.config.plmn := by
  rw [plmnAgrees_iff hplmn]
  refine and_congr_right fun _ => forall₂_congr fun subscriber hsub => ?_
  rw [← addUesUrl_eq_iff hsub gpsi]
  exact and_iff_right_of_imp id

theorem plmn_and_urls_agree_internet : ValidPlmn "00101" ∧ PlmnAgrees "00101" := by
  have hplmn : ValidPlmn (Free5gcSubScriber.internetConfig none).config.plmn := by decide
  refine ⟨hplmn, ((plmn_and_urls_agree_iff (Free5gcSubScriber.internetConfig none) none hplmn).2 ⟨by decide, ?_⟩).1⟩
  intro subscriber hsub
  obtain rfl := List.mem_singleton.1 hsub
  decide

/-- A PLMN with three digits of network code. -/
theorem plmn_and_urls_agree_fails : ¬ ∀ (c : Create5gModel) (gpsi : Option String), ValidPlmn c.config.plmn →
    PlmnAgrees c.config.plmn ∧ ∀ subscriber ∈ c.config.subscribers,
      addUesUrl (newSubscriber c gpsi subscriber.imsi) = delSliceUrl subscriber.imsi ∧
      addUesUrl (newSubscriber c gpsi subscriber.imsi) = delUesUrl subscriber.imsi := by
  intro h
  have hplmn : ValidPlmn "310410" := by decide
  obtain ⟨hagrees, -⟩ := h { config := { networkEndpoints := { dataNets := [] }, plmn := "310410", subscribers := [] }, areas := [] } none hplmn
  exact absurd ((plmnAgrees_iff hplmn).1 hagrees) (by decide)

end Nfvcl
