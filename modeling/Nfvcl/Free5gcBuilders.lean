import Mathlib.Algebra.BigOperators.Group.List.Basic
import Mathlib.Algebra.Order.Group.Nat
import Mathlib.Data.List.Basic
import Nfvcl.Free5gcValues

namespace Nfvcl
set_option autoImplicit true
open Effects ListUpdates Retries Free5gc

/-! ### Texts that are padded -/

namespace Free5gc

theorem zfill_six {text : String} (h : text.length = 6) : zfill 6 text = text := by
  have hlist : text = String.ofList text.toList := String.ofList_toList.symm
  unfold zfill
  rw [h]
  simp only [Nat.sub_self, List.replicate_zero, List.nil_append]
  split
  · rename_i hnil
    rw [hnil] at hlist
    exact hlist.symm
  · rename_i ch chs hcons
    rw [hcons] at hlist
    split
    · exact hlist.symm
    · exact hlist.symm

/-- The text of a field is accepted, but not as it is. -/
def Padded (text : String) : Prop :=
  Accepted text ∧ text.length ≠ 6

theorem accepted_code (code : Code) : Accepted code.text := by
  refine ⟨Nat.le_of_eq code.isCode.1, ?_⟩
  rw [zfill_six code.isCode.1]
  exact code.isCode

theorem Padded.ne (h : Padded text) (code : Code) : code.text ≠ text := by
  rintro rfl
  exact h.2 code.isCode.1

theorem check_refused (h : ¬ Accepted text) : Code.check text = .error (.exception "Slice must be in range 000000~FFFFFF") := by
  rw [Code.check, dif_neg h]

/-- A text that is accepted as it is. -/
theorem check_code (h : Accepted text) (hnot : ¬ Padded text) : ∃ code, Code.check text = .ok code ∧ code.text = text := by
  have hlength : text.length = 6 := by
    by_contra hne
    exact hnot ⟨h, hne⟩
  refine ⟨⟨zfill 6 text, h.2⟩, ?_, zfill_six hlength⟩
  rw [Code.check, dif_pos h]

theorem check_accepted (h : Accepted text) : ∃ code, Code.check text = .ok code :=
  ⟨⟨zfill 6 text, h.2⟩, by rw [Code.check, dif_pos h]⟩

end Free5gc

namespace Free5gcCoreConfig

variable {c c' : Free5gcCoreConfig} {get : Free5gcCoreConfig → List α} {put : List α → Free5gcCoreConfig → Free5gcCoreConfig}
variable {test : α → Bool} {f : α → α}

theorem change_some (h : updateFirst test f (get c) = some xs) : (change get put test f).run c = .ok true (put xs c) := by
  change change get put test f c = _
  rw [change, h]

theorem change_none (h : updateFirst test f (get c) = none) : (change get put test f).run c = .ok false c := by
  change change get put test f c = _
  rw [change, h]

theorem lift_ok {m : Except PyError α} (h : m = .ok a) : (lift m).run c = .ok a c := by
  rw [h]
  rfl

theorem lift_error {m : Except PyError α} (h : m = .error e) : (lift m).run c = .error e c := by
  rw [h]
  rfl

theorem unless_run {cond : Free5gcCoreConfig → Bool} {g : Free5gcCoreConfig → Free5gcCoreConfig} (h : cond c = false) :
    (modify (fun c => if cond c then c else g c) : ConfigM Unit).run c = .ok () (g c) := by
  refine congrArg (EStateM.Result.ok ()) (if_neg ?_)
  rw [h]
  exact Bool.false_ne_true

theorem any_false (h : updateFirst test f xs = none) : xs.any test = false := by
  rw [List.any_eq_false]
  intro x hx
  rw [updateFirst_eq_none.1 h x hx]
  exact Bool.false_ne_true

end Free5gcCoreConfig

/-- What the builder asks of the configuration: the nested call keeps the ipv6 address, the text of a `sd`
or `tac` is compared as it is stored, and the slice is not in the list that is searched for a place for it. -/
def Free5gcBuilder.Sound (c : Free5gcCoreConfig) : Free5gcBuilder → Prop
  | .addPlmnAmfItem .. => True
  | .addDnnInfoSmfItem _ _ snssai ipv6 => ipv6 = none ∨ ∃ info ∈ c.snssaiInfos, info.sNssai = snssai
  | .addSnssaiUpfInfosSmf _ upfName _ _ _ sd => Padded sd → c.node upfName = some .gnb
  | .addDnnUpfInfoListSmf _ upfName _ _ _ sd _ _ => Padded sd → c.node upfName = some .gnb
  | .addSupportedSnssaiListItemNssf .. => False
  | .addSupportedNssaiAvailabilityDatumNssf _ _ _ tac => ¬ Padded tac
  | .addSupportedNssaiNssf _ _ _ tac _ => ¬ Accepted tac
  | .addTaiSupportedSnssaiListNssfItem _ _ tac _ => ¬ Accepted tac

namespace Free5gcBuilder
open Free5gcCoreConfig

/-- The builder ends and a second call with the same arguments changes nothing. -/
def Settles (b : Free5gcBuilder) (c : Free5gcCoreConfig) : Prop :=
  Retries.Settles .recursionError Free5gcBuilder.exec b c

end Free5gcBuilder

namespace Free5gcCoreConfig

variable {c : Free5gcCoreConfig}

/-! ### Lists that are searched for the place only -/

/-- The first element with a key is changed, after one was appended if there is none. -/
theorem settles_change {b : Free5gcBuilder} {get : Free5gcCoreConfig → List α} {put : List α → Free5gcCoreConfig → Free5gcCoreConfig}
    {test : α → Bool} {f : α → α} {create : Nat → ConfigM Unit} (new : α)
    (hexec : ∀ m, b.exec m = retrying .recursionError (change get put test f) create m)
    (hget : ∀ xs c, get (put xs c) = xs) (hput : ∀ xs ys c, put xs (put ys c) = put xs c)
    (hkeep : ∀ x, test x = true → test (f x) = true) (hsame : ∀ x, f (f x) = f x) (hnew : test new = true)
    (hcreate : ∀ n, updateFirst test f (get c) = none → (create n).run c = .ok () (put (get c ++ [new]) c)) : b.Settles c := by
  cases hfirst : updateFirst test f (get c) with
  | some xs =>
    have hagain : updateFirst test f (get (put xs c)) = some xs := by
      rw [hget]
      exact updateFirst_again hkeep hsame hfirst
    have hsecond : (change get put test f).run _ = _ := change_some hagain
    rw [hput] at hsecond
    exact settles_of_finishes hexec (finishes_found (change_some hfirst)) (finishes_found hsecond)
  | none =>
    have hfound : updateFirst test f (get (put (get c ++ [new]) c)) = some (get c ++ [f new]) := by
      rw [hget]
      exact updateFirst_append hfirst hnew
    have hchange : (change get put test f).run _ = _ := change_some hfound
    have hagain : updateFirst test f (get (put (get c ++ [f new]) c)) = some (get c ++ [f new]) := by
      rw [hget]
      rw [hget] at hfound
      exact updateFirst_again hkeep hsame hfound
    have hsecond : (change get put test f).run _ = _ := change_some hagain
    rw [hput] at hchange hsecond
    exact settles_of_finishes hexec
      (finishes_creates 0 (change_none hfirst) (fun n _ => hcreate n hfirst) (finishes_found hchange)) (finishes_found hsecond)

theorem addPlmnAmfItem_settles (mcc mnc : String) (areaId : Int) (nssai : Free5gc.Snssai) :
    (Free5gcBuilder.addPlmnAmfItem mcc mnc areaId nssai).Settles c := by
  refine settles_change ⟨⟨mcc, mnc⟩, []⟩ (fun _ => rfl) (fun _ _ => rfl) (fun _ _ _ => rfl) (fun _ h => h) ?_ (decide_eq_true rfl) ?_
  · intro item
    rw [appendNew_again]
  · intro n hnone
    exact unless_run (any_false hnone)

theorem createSsnsaiSmfItem_run {info : DnnInfo} (h : updateFirst (fun item => decide (item.sNssai = snssai))
      (fun item => { item with dnnInfos := appendNew item.dnnInfos info }) c.snssaiInfos = none) :
    (createSsnsaiSmfItem snssai).run c = .ok () { c with snssaiInfos := c.snssaiInfos ++ [⟨snssai, []⟩] } :=
  unless_run (any_false h)

/-- Without an ipv6 address the nested call is the same one. -/
theorem addDnnInfoSmfItem_none (dnn ipv4 : String) (snssai : Free5gc.Snssai) (m : Nat) :
    addDnnInfoSmfItem dnn ipv4 snssai none m =
      retrying .recursionError (findSnssaiInfo snssai ⟨dnn, ipv4, none⟩) (fun _ => createSsnsaiSmfItem snssai) m := by
  cases m with
  | zero => rfl
  | succ n => rfl

theorem addDnnInfoSmfItem_found (hinfo : info ∈ c.snssaiInfos) (hsnssai : info.sNssai = snssai) :
    (Free5gcBuilder.addDnnInfoSmfItem dnn ipv4 snssai ipv6).Settles c := by
  have hkeep : ∀ item : SnssaiInfo, decide (item.sNssai = snssai) = true →
      decide (SnssaiInfo.sNssai { item with dnnInfos := appendNew item.dnnInfos ⟨dnn, ipv4, ipv6⟩ } = snssai) = true := fun _ h => h
  obtain ⟨xs, hxs⟩ := exists_updateFirst (fun item : SnssaiInfo => decide (item.sNssai = snssai))
    (fun item => { item with dnnInfos := appendNew item.dnnInfos ⟨dnn, ipv4, ipv6⟩ }) hinfo (decide_eq_true hsnssai)
  have hagain := updateFirst_again hkeep (fun item => by rw [appendNew_again]) hxs
  have hfirst : (findSnssaiInfo snssai ⟨dnn, ipv4, ipv6⟩).run c = .ok true { c with snssaiInfos := xs } := change_some hxs
  have hsecond : (findSnssaiInfo snssai ⟨dnn, ipv4, ipv6⟩).run { c with snssaiInfos := xs } = .ok true { c with snssaiInfos := xs } :=
    change_some hagain
  have hfinishes : ∀ c', (findSnssaiInfo snssai ⟨dnn, ipv4, ipv6⟩).run c' = .ok true { c with snssaiInfos := xs } →
      Finishes .recursionError (addDnnInfoSmfItem dnn ipv4 snssai ipv6) 1 c' { c with snssaiInfos := xs } := by
    intro c' hrun m hm
    obtain ⟨m, rfl⟩ : ∃ l, m = l + 1 := ⟨m - 1, by omega⟩
    refine .inl ?_
    show ((findSnssaiInfo snssai ⟨dnn, ipv4, ipv6⟩) >>= _).run c' = _
    rw [run_bind_ok _ _ hrun]
    rfl
  exact settles_of_finishes (fun _ => rfl) (hfinishes c hfirst) (hfinishes _ hsecond)

theorem addDnnInfoSmfItem_settles :
    (Free5gcBuilder.addDnnInfoSmfItem dnn ipv4 snssai none).Settles c := by
  refine settles_change ⟨snssai, []⟩ (addDnnInfoSmfItem_none dnn ipv4 snssai) (fun _ _ => rfl) (fun _ _ _ => rfl) (fun _ h => h) ?_
    (decide_eq_true rfl) ?_
  · intro item
    rw [appendNew_again]
  · intro n hnone
    exact createSsnsaiSmfItem_run hnone

/-- The address is lost in the nested call and added by the second one. -/
theorem addDnnInfoSmfItem_not_settles (hinfo : ∀ info ∈ c.snssaiInfos, info.sNssai ≠ snssai) :
    ¬ (Free5gcBuilder.addDnnInfoSmfItem dnn ipv4 snssai (some ipv6)).Settles c := by
  have hnone : ∀ info, updateFirst (fun item => decide (item.sNssai = snssai))
      (fun item : SnssaiInfo => { item with dnnInfos := appendNew item.dnnInfos info }) c.snssaiInfos = none := by
    intro info
    rw [updateFirst_eq_none]
    intro item hitem
    exact decide_eq_false (hinfo item hitem)
  have hfound : ∀ (info : DnnInfo) (item : SnssaiInfo), item.sNssai = snssai →
      (findSnssaiInfo snssai info).run { c with snssaiInfos := c.snssaiInfos ++ [item] } =
        .ok true { c with snssaiInfos := c.snssaiInfos ++ [{ item with dnnInfos := appendNew item.dnnInfos info }] } := by
    intro info item hitem
    exact change_some (updateFirst_append (hnone info) (decide_eq_true hitem))
  have hfirst : ∀ m, (addDnnInfoSmfItem dnn ipv4 snssai (some ipv6) (m + 2)).run c =
      .ok () { c with snssaiInfos := c.snssaiInfos ++ [⟨snssai, [⟨dnn, ipv4, none⟩]⟩] } := by
    intro m
    have hnot : (findSnssaiInfo snssai ⟨dnn, ipv4, some ipv6⟩).run c = .ok false c := change_none (hnone _)
    show ((findSnssaiInfo snssai ⟨dnn, ipv4, some ipv6⟩) >>= _).run c = _
    rw [run_bind_ok _ _ hnot]
    simp only [Bool.false_eq_true, if_false]
    rw [run_bind_ok _ _ (createSsnsaiSmfItem_run (hnone ⟨dnn, ipv4, none⟩)),
      retrying_found (hfound ⟨dnn, ipv4, none⟩ ⟨snssai, []⟩ rfl)]
    rfl
  rintro ⟨n, hn⟩
  obtain ⟨-, -, hsame⟩ := hn (n + 2) (by omega)
  have hsecond : (addDnnInfoSmfItem dnn ipv4 snssai (some ipv6) (n + 2)).run
      { c with snssaiInfos := c.snssaiInfos ++ [⟨snssai, [⟨dnn, ipv4, none⟩]⟩] } =
      .ok () { c with snssaiInfos := c.snssaiInfos ++ [⟨snssai, [⟨dnn, ipv4, none⟩, ⟨dnn, ipv4, some ipv6⟩]⟩] } := by
    show ((findSnssaiInfo snssai ⟨dnn, ipv4, some ipv6⟩) >>= _).run _ = _
    rw [run_bind_ok _ _ (hfound ⟨dnn, ipv4, some ipv6⟩ ⟨snssai, [⟨dnn, ipv4, none⟩]⟩ rfl)]
    simp [appendNew]
  have hexec : ∀ c, (Free5gcBuilder.exec (n + 2) (.addDnnInfoSmfItem dnn ipv4 snssai (some ipv6))).run c =
      (addDnnInfoSmfItem dnn ipv4 snssai (some ipv6) (n + 2)).run c := fun _ => rfl
  rw [hexec, hexec, hfirst n, finalState_ok, hsecond, finalState_ok] at hsame
  have hinfos := congrArg Free5gcCoreConfig.snssaiInfos hsame
  have hlast := (List.append_right_inj _).1 hinfos
  cases hlast

theorem attributeError_ne (msg : String) : PyError.attributeError msg ≠ .recursionError := fun he => (nomatch he)

theorem exception_ne (msg : String) : PyError.exception msg ≠ .recursionError := fun he => (nomatch he)

theorem indexError_ne (msg : String) : PyError.indexError msg ≠ .recursionError := fun he => (nomatch he)

/-! ### The nodes of the user plane -/

theorem node_eq_none : c.node name = none ↔ KeyedList.toMap Prod.fst c.upNodes name = none :=
  Option.map_eq_none_iff

theorem node_addNode (name : String) (nd : Node) (k : String) :
    (addNodeSmfTopology name nd c).node k = if k = name ∧ c.node name = none then some nd else c.node k := by
  unfold addNodeSmfTopology
  split
  · rename_i hnone
    show (KeyedList.toMap Prod.fst (c.upNodes ++ [(name, nd)]) k).map Prod.snd = _
    by_cases hk : k = name
    · subst hk
      have happend : KeyedList.toMap Prod.fst (c.upNodes ++ [(k, nd)]) = Function.update _ k (some (k, nd)) := KeyedList.toMap_append hnone
      rw [if_pos ⟨rfl, node_eq_none.2 hnone⟩, happend]
      simp
    · rw [KeyedList.toMap_append_of_ne (Ne.symm hk), if_neg (fun h => hk h.1)]
      rfl
  · rename_i hsome
    rw [if_neg (fun h => hsome (node_eq_none.1 h.2))]

theorem node_setNode (h : c.node name = some old) (nd : Node) : (c.setNode name nd).node name = some nd := by
  have hsome : (KeyedList.toMap Prod.fst c.upNodes (name, nd).1).isSome := by
    obtain ⟨p, hp, -⟩ := Option.map_eq_some_iff.1 h
    rw [hp]
    rfl
  show (KeyedList.toMap Prod.fst (KeyedList.replace Prod.fst c.upNodes (name, nd)) name).map Prod.snd = _
  rw [KeyedList.toMap_replace hsome]
  simp

section UserPlane

variable {gnbName upfName upfIp upfN3Ip sd dnnName ipPool : String} {sst : Int} {upf : Upf}

theorem findSnssaiUpfInfo_none (h : c.node upfName = none) : (findSnssaiUpfInfo upfName sst sd).run c = .ok false c := by
  unfold findSnssaiUpfInfo
  rw [run_bind_ok get _ rfl, h]
  rfl

theorem findSnssaiUpfInfo_gnb (h : c.node upfName = some .gnb) :
    (findSnssaiUpfInfo upfName sst sd).run c = .error (.attributeError "'GNb' object has no attribute 's_nssai_upf_infos'") c := by
  unfold findSnssaiUpfInfo
  rw [run_bind_ok get _ rfl, h]
  rfl

theorem findSnssaiUpfInfo_listed (h : c.node upfName = some (.upf upf)) (hany : upf.sNssaiUpfInfos.any (isSlice sst sd) = true) :
    (findSnssaiUpfInfo upfName sst sd).run c = .ok true c := by
  unfold findSnssaiUpfInfo
  rw [run_bind_ok get _ rfl, h]
  simp only [hany, if_true]
  rfl

theorem findSnssaiUpfInfo_refused (h : c.node upfName = some (.upf upf)) (hsd : ¬ Accepted sd) :
    (findSnssaiUpfInfo upfName sst sd).run c = .error (.exception "Slice must be in range 000000~FFFFFF") c := by
  have hany : upf.sNssaiUpfInfos.any (isSlice sst sd) = false := by
    rw [List.any_eq_false]
    intro info _ hslice
    exact hsd ((of_decide_eq_true hslice).2 ▸ accepted_code info.sNssai.sd)
  unfold findSnssaiUpfInfo
  rw [run_bind_ok get _ rfl, h]
  simp only [hany, Bool.false_eq_true, if_false, Free5gc.Snssai.make, check_refused hsd]
  rfl

theorem findSnssaiUpfInfo_new (h : c.node upfName = some (.upf upf)) (hany : upf.sNssaiUpfInfos.any (isSlice sst sd) = false)
    (hcode : Code.check sd = .ok code) : (findSnssaiUpfInfo upfName sst sd).run c =
      .ok true (c.setNode upfName (.upf { upf with sNssaiUpfInfos := upf.sNssaiUpfInfos ++ [⟨⟨sst, code⟩, []⟩] })) := by
  unfold findSnssaiUpfInfo
  rw [run_bind_ok get _ rfl, h]
  simp only [hany, Bool.false_eq_true, if_false, Free5gc.Snssai.make, hcode]
  rfl

/-- A slice whose text is accepted as it is. -/
theorem findSnssaiUpfInfo_lists (h : c.node upfName = some (.upf upf)) (hsd : Accepted sd) (hnot : ¬ Padded sd) :
    ∃ c' upf', (findSnssaiUpfInfo upfName sst sd).run c = .ok true c' ∧ c'.node upfName = some (.upf upf') ∧
      upf'.sNssaiUpfInfos.any (isSlice sst sd) = true := by
  cases hany : upf.sNssaiUpfInfos.any (isSlice sst sd) with
  | true => exact ⟨c, upf, findSnssaiUpfInfo_listed h hany, h, hany⟩
  | false =>
    obtain ⟨code, hcode, htext⟩ := check_code hsd hnot
    refine ⟨_, _, findSnssaiUpfInfo_new h hany hcode, node_setNode h _, ?_⟩
    rw [List.any_append, List.any_cons, isSlice, decide_eq_true ⟨rfl, htext⟩]
    simp

theorem addNodes_run : (modify (fun c => addLinkSmf upfName gnbName (addGnbSmf gnbName (addUpfSmf upfName upfIp upfN3Ip c))) : ConfigM Unit).run c =
    .ok () (addLinkSmf upfName gnbName (addGnbSmf gnbName (addUpfSmf upfName upfIp upfN3Ip c))) := rfl

theorem node_addLinkSmf (c : Free5gcCoreConfig) (upfName gnbName name : String) :
    (addLinkSmf upfName gnbName c).node name = c.node name := by
  unfold addLinkSmf
  split
  · rfl
  · rfl

theorem node_addNodes (h : c.node upfName ≠ none) :
    (addLinkSmf upfName gnbName (addGnbSmf gnbName (addUpfSmf upfName upfIp upfN3Ip c))).node upfName = c.node upfName := by
  have hupf : (addUpfSmf upfName upfIp upfN3Ip c).node upfName = c.node upfName := by
    rw [addUpfSmf, node_addNode, if_neg (fun hbad => h hbad.2)]
  rw [node_addLinkSmf, addGnbSmf, node_addNode, hupf, if_neg ?_]
  rintro ⟨rfl, hbad⟩
  exact h (hupf ▸ hbad)

theorem node_addNodes_new (h : c.node upfName = none) :
    (addLinkSmf upfName gnbName (addGnbSmf gnbName (addUpfSmf upfName upfIp upfN3Ip c))).node upfName =
      some (.upf ⟨upfIp, upfIp, [], [⟨"N3", [upfN3Ip], []⟩]⟩) := by
  have hupf : (addUpfSmf upfName upfIp upfN3Ip c).node upfName = some (.upf ⟨upfIp, upfIp, [], [⟨"N3", [upfN3Ip], []⟩]⟩) := by
    rw [addUpfSmf, node_addNode, if_pos ⟨rfl, h⟩]
  rw [node_addLinkSmf, addGnbSmf, node_addNode, hupf, if_neg ?_]
  rintro ⟨rfl, hbad⟩
  rw [hupf] at hbad
  cases hbad

/-- The call comes to look for the slice in a UPF, if there is no gNB with its name. -/
theorem addSnssaiUpfInfosSmf_reaches (h : c.node upfName ≠ some .gnb) : ∃ c₁ upf, c₁.node upfName = some (.upf upf) ∧
    (∀ c', (findSnssaiUpfInfo upfName sst sd).run c₁ = .ok true c' →
      ∀ n, 2 ≤ n → (addSnssaiUpfInfosSmf gnbName upfName upfIp upfN3Ip sst sd n).run c = .ok () c') ∧
    (∀ e c', (findSnssaiUpfInfo upfName sst sd).run c₁ = .error e c' →
      ∀ n, 2 ≤ n → (addSnssaiUpfInfosSmf gnbName upfName upfIp upfN3Ip sst sd n).run c = .error e c') := by
  cases hnode : c.node upfName with
  | none =>
    refine ⟨addLinkSmf upfName gnbName (addGnbSmf gnbName (addUpfSmf upfName upfIp upfN3Ip c)), _, node_addNodes_new hnode, ?_, ?_⟩
    · intro c' hrun n hn
      obtain ⟨n, rfl⟩ : ∃ l, n = l + 2 := ⟨n - 2, by omega⟩
      rw [addSnssaiUpfInfosSmf, retrying_creates (findSnssaiUpfInfo_none hnode) addNodes_run]
      exact retrying_found hrun
    · intro e c' hrun n hn
      obtain ⟨n, rfl⟩ : ∃ l, n = l + 2 := ⟨n - 2, by omega⟩
      rw [addSnssaiUpfInfosSmf, retrying_creates (findSnssaiUpfInfo_none hnode) addNodes_run]
      exact retrying_raises hrun
  | some nd =>
    cases nd with
    | gnb => exact absurd hnode h
    | upf upf =>
      refine ⟨c, upf, hnode, ?_, ?_⟩
      · intro c' hrun n hn
        obtain ⟨n, rfl⟩ : ∃ l, n = l + 1 := ⟨n - 1, by omega⟩
        exact retrying_found hrun
      · intro e c' hrun n hn
        obtain ⟨n, rfl⟩ : ∃ l, n = l + 1 := ⟨n - 1, by omega⟩
        exact retrying_raises hrun

theorem addSnssaiUpfInfosSmf_gnb (h : c.node upfName = some .gnb) :
    (Free5gcBuilder.addSnssaiUpfInfosSmf gnbName upfName upfIp upfN3Ip sst sd).Settles c := by
  exact settles_of_finishes (fun _ => rfl) (finishes_raises (findSnssaiUpfInfo_gnb h) (attributeError_ne _))
    (finishes_raises (findSnssaiUpfInfo_gnb h) (attributeError_ne _))

theorem addSnssaiUpfInfosSmf_refused (h : c.node upfName ≠ some .gnb) (hsd : ¬ Accepted sd) : ∃ c₁ upf,
    c₁.node upfName = some (.upf upf) ∧ ∀ n, 2 ≤ n → (addSnssaiUpfInfosSmf gnbName upfName upfIp upfN3Ip sst sd n).run c =
      .error (.exception "Slice must be in range 000000~FFFFFF") c₁ := by
  obtain ⟨c₁, upf, hnode, -, herror⟩ := addSnssaiUpfInfosSmf_reaches h
  exact ⟨c₁, upf, hnode, herror _ _ (findSnssaiUpfInfo_refused hnode hsd)⟩

theorem addSnssaiUpfInfosSmf_lists (h : c.node upfName ≠ some .gnb) (hsd : Accepted sd) (hnot : ¬ Padded sd) : ∃ c₁ upf,
    c₁.node upfName = some (.upf upf) ∧ upf.sNssaiUpfInfos.any (isSlice sst sd) = true ∧
      ∀ n, 2 ≤ n → (addSnssaiUpfInfosSmf gnbName upfName upfIp upfN3Ip sst sd n).run c = .ok () c₁ := by
  obtain ⟨c₁, upf, hnode, hok, -⟩ := addSnssaiUpfInfosSmf_reaches h
  obtain ⟨c₂, upf₂, hrun, hnode₂, hany⟩ := findSnssaiUpfInfo_lists hnode hsd hnot
  exact ⟨c₂, upf₂, hnode₂, hany, hok _ hrun⟩

theorem addSnssaiUpfInfosSmf_settles (h : ¬ Padded sd) :
    (Free5gcBuilder.addSnssaiUpfInfosSmf gnbName upfName upfIp upfN3Ip sst sd).Settles c := by
  by_cases hgnb : c.node upfName = some .gnb
  · exact addSnssaiUpfInfosSmf_gnb hgnb
  by_cases hsd : Accepted sd
  · obtain ⟨c₁, upf, hnode, hany, hrun⟩ := addSnssaiUpfInfosSmf_lists hgnb hsd h
    exact settles_of_finishes (fun _ => rfl) (fun m hm => .inl (hrun m hm)) (finishes_found (findSnssaiUpfInfo_listed hnode hany))
  · obtain ⟨c₁, upf, hnode, hrun⟩ := addSnssaiUpfInfosSmf_refused hgnb hsd
    exact settles_of_finishes (fun _ => rfl) (fun m hm => .inr ⟨_, exception_ne _, hrun m hm⟩)
      (finishes_raises (findSnssaiUpfInfo_refused hnode hsd) (exception_ne _))

/-- The number of the slices a UPF lists. -/
def upfSlices (upfName : String) (c : Free5gcCoreConfig) : Nat :=
  match c.node upfName with
  | some (.upf upf) => upf.sNssaiUpfInfos.length
  | _ => 0

theorem upfSlices_upf (h : c.node upfName = some (.upf upf)) : c.upfSlices upfName = upf.sNssaiUpfInfos.length := by
  unfold upfSlices
  rw [h]

/-- Where the text is padded each call lists the slice once more. -/
theorem addSnssaiUpfInfosSmf_grows (hsd : Padded sd) (n : Nat) (c : Free5gcCoreConfig) (h : c.node upfName ≠ some .gnb) :
    (∃ c', (addSnssaiUpfInfosSmf gnbName upfName upfIp upfN3Ip sst sd n).run c = .error .recursionError c') ∨
      ∃ c', (addSnssaiUpfInfosSmf gnbName upfName upfIp upfN3Ip sst sd n).run c = .ok () c' ∧ c'.node upfName ≠ some .gnb ∧
        c.upfSlices upfName + 1 ≤ c'.upfSlices upfName := by
  refine retrying_grows (I := fun c => c.node upfName ≠ some .gnb) ?_ ?_ n c h
  · intro c h
    cases hnode : c.node upfName with
    | none => exact ⟨false, c, findSnssaiUpfInfo_none hnode, h, Nat.le_refl _⟩
    | some nd =>
      cases nd with
      | gnb => exact absurd hnode h
      | upf upf =>
        have hany : upf.sNssaiUpfInfos.any (isSlice sst sd) = false := by
          rw [List.any_eq_false]
          intro info _ hslice
          exact hsd.ne info.sNssai.sd (of_decide_eq_true hslice).2
        obtain ⟨code, hcode⟩ := check_accepted hsd.1
        refine ⟨true, _, findSnssaiUpfInfo_new hnode hany hcode, ?_, ?_⟩
        · rw [node_setNode hnode]
          exact fun hbad => (nomatch hbad)
        · rw [upfSlices_upf hnode, upfSlices_upf (node_setNode hnode _), if_pos rfl, List.length_append, List.length_singleton]
  · intro n c h
    refine .inr ⟨_, addNodes_run, ?_⟩
    cases hnode : c.node upfName with
    | none =>
      refine ⟨fun hbad => ?_, ?_⟩
      · rw [node_addNodes_new hnode] at hbad
        cases hbad
      · unfold upfSlices
        rw [hnode]
        exact Nat.zero_le _
    | some nd =>
      have hsame : (addLinkSmf upfName gnbName (addGnbSmf gnbName (addUpfSmf upfName upfIp upfN3Ip c))).node upfName = c.node upfName :=
        node_addNodes (by rw [hnode]; exact Option.some_ne_none nd)
      refine ⟨hsame ▸ h, ?_⟩
      unfold upfSlices
      rw [hsame]

theorem addSnssaiUpfInfosSmf_not_settles (hsd : Padded sd) (h : c.node upfName ≠ some .gnb) :
    ¬ (Free5gcBuilder.addSnssaiUpfInfosSmf gnbName upfName upfIp upfN3Ip sst sd).Settles c :=
  not_settles_of_grows (upfSlices upfName) (addSnssaiUpfInfosSmf_grows hsd) h

theorem findDnnUpfInfo_none (h : c.node upfName = none) : (findDnnUpfInfo upfName sst sd dnnName ipPool).run c = .ok false c := by
  unfold findDnnUpfInfo
  rw [run_bind_ok get _ rfl, h]
  rfl

theorem findDnnUpfInfo_gnb (h : c.node upfName = some .gnb) : (findDnnUpfInfo upfName sst sd dnnName ipPool).run c =
    .error (.attributeError "'GNb' object has no attribute 's_nssai_upf_infos'") c := by
  unfold findDnnUpfInfo
  rw [run_bind_ok get _ rfl, h]
  rfl

theorem findDnnUpfInfo_upf (h : c.node upfName = some (.upf upf)) :
    (findDnnUpfInfo upfName sst sd dnnName ipPool).run c = (addDnnToUpf upfName sst sd dnnName ipPool upf).run c := by
  unfold findDnnUpfInfo
  rw [run_bind_ok get _ rfl, h]

theorem findDnnUpfInfo_unlisted (h : c.node upfName ≠ some .gnb)
    (hnone : ∀ upf, c.node upfName = some (.upf upf) → ∀ info ∈ upf.sNssaiUpfInfos, isSlice sst sd info = false) :
    (findDnnUpfInfo upfName sst sd dnnName ipPool).run c = .ok false c := by
  cases hnode : c.node upfName with
  | none => exact findDnnUpfInfo_none hnode
  | some nd =>
    cases nd with
    | gnb => exact absurd hnode h
    | upf upf =>
      have hfind : upf.sNssaiUpfInfos.find? (isSlice sst sd) = none := by
        rw [List.find?_eq_none]
        intro info hinfo
        rw [hnone upf hnode info hinfo]
        exact Bool.false_ne_true
      rw [findDnnUpfInfo_upf hnode]
      unfold addDnnToUpf
      rw [hfind]
      rfl

/-- A DNN that the slice has. -/
theorem findDnnUpfInfo_has (h : c.node upfName = some (.upf upf)) (hinfo : upf.sNssaiUpfInfos.find? (isSlice sst sd) = some info)
    (hdnn : info.dnnUpfInfoList.any (fun dnn => decide (dnn.dnn = dnnName)) = true) :
    (findDnnUpfInfo upfName sst sd dnnName ipPool).run c = .ok true c := by
  rw [findDnnUpfInfo_upf h]
  unfold addDnnToUpf
  rw [hinfo]
  simp only [hdnn, if_true]
  rfl

/-- Once the slice is listed, the DNN is there after the call, whether or not it raises. -/
theorem findDnnUpfInfo_listed (h : c.node upfName = some (.upf upf)) (hany : upf.sNssaiUpfInfos.any (isSlice sst sd) = true) :
    ∃ c', ((findDnnUpfInfo upfName sst sd dnnName ipPool).run c = .ok true c' ∨
        (findDnnUpfInfo upfName sst sd dnnName ipPool).run c = .error (.indexError "list index out of range") c') ∧
      (findDnnUpfInfo upfName sst sd dnnName ipPool).run c' = .ok true c' := by
  obtain ⟨info, hmem, hslice⟩ := List.any_eq_true.1 hany
  obtain ⟨info, hinfo⟩ : ∃ info, upf.sNssaiUpfInfos.find? (isSlice sst sd) = some info :=
    Option.isSome_iff_exists.1 (List.find?_isSome.2 ⟨info, hmem, hslice⟩)
  cases hdnn : info.dnnUpfInfoList.any (fun dnn => decide (dnn.dnn = dnnName)) with
  | true => exact ⟨c, .inl (findDnnUpfInfo_has h hinfo hdnn), findDnnUpfInfo_has h hinfo hdnn⟩
  | false =>
    obtain ⟨infos, hinfos⟩ := exists_updateFirst (isSlice sst sd)
      (fun info => { info with dnnUpfInfoList := info.dnnUpfInfoList ++ [⟨dnnName, [⟨ipPool⟩]⟩] }) hmem hslice
    have hfind : infos.find? (isSlice sst sd) =
        some { info with dnnUpfInfoList := info.dnnUpfInfoList ++ [⟨dnnName, [⟨ipPool⟩]⟩] } := by
      rw [find?_updateFirst ?_ hinfos, hinfo]
      · rfl
      · exact fun _ hslice => hslice
    have hhas : (info.dnnUpfInfoList ++ [(⟨dnnName, [⟨ipPool⟩]⟩ : DnnUpfInfoListItem)]).any (fun dnn => decide (dnn.dnn = dnnName)) = true := by
      simp
    cases hinterfaces : upf.interfaces with
    | nil =>
      refine ⟨c.setNode upfName (.upf { upf with sNssaiUpfInfos := infos }), .inr ?_,
        findDnnUpfInfo_has (node_setNode h _) hfind hhas⟩
      rw [findDnnUpfInfo_upf h]
      unfold addDnnToUpf
      rw [hinfo, hinterfaces]
      simp only [hdnn, Bool.false_eq_true, if_false, hinfos]
      rfl
    | cons first others =>
      refine ⟨c.setNode upfName (.upf { upf with
          sNssaiUpfInfos := infos
          interfaces := { first with networkInstances := first.networkInstances ++ [dnnName] } :: others }), .inl ?_,
        findDnnUpfInfo_has (node_setNode h _) hfind hhas⟩
      rw [findDnnUpfInfo_upf h]
      unfold addDnnToUpf
      rw [hinfo, hinterfaces]
      simp only [hdnn, Bool.false_eq_true, if_false, hinfos]
      rfl

theorem addDnnUpfInfoListSmf_gnb (h : c.node upfName = some .gnb) :
    (Free5gcBuilder.addDnnUpfInfoListSmf gnbName upfName upfIp upfN3Ip sst sd dnnName ipPool).Settles c :=
  settles_of_finishes (fun _ => rfl) (finishes_raises (findDnnUpfInfo_gnb h) (attributeError_ne _))
    (finishes_raises (findDnnUpfInfo_gnb h) (attributeError_ne _))

theorem addDnnUpfInfoListSmf_refused (h : c.node upfName ≠ some .gnb) (hsd : ¬ Accepted sd) :
    (Free5gcBuilder.addDnnUpfInfoListSmf gnbName upfName upfIp upfN3Ip sst sd dnnName ipPool).Settles c := by
  have hunlisted : ∀ c' : Free5gcCoreConfig, c'.node upfName ≠ some .gnb →
      (findDnnUpfInfo upfName sst sd dnnName ipPool).run c' = .ok false c' := by
    intro c' hc'
    refine findDnnUpfInfo_unlisted hc' ?_
    intro upf _ info _
    exact decide_eq_false fun hslice => hsd (hslice.2 ▸ accepted_code info.sNssai.sd)
  obtain ⟨c₁, upf, hnode, hrun⟩ := addSnssaiUpfInfosSmf_refused h hsd
  have hgnb : c₁.node upfName ≠ some .gnb := by
    rw [hnode]
    exact fun hbad => (nomatch hbad)
  have hraise : ∀ n, 1 ≤ n → (addSnssaiUpfInfosSmf gnbName upfName upfIp upfN3Ip sst sd n).run c₁ =
      .error (.exception "Slice must be in range 000000~FFFFFF") c₁ := by
    intro n hn
    obtain ⟨n, rfl⟩ : ∃ l, n = l + 1 := ⟨n - 1, by omega⟩
    exact retrying_raises (findSnssaiUpfInfo_refused hnode hsd)
  exact settles_of_finishes (fun _ => rfl) (finishes_create_raises 2 (hunlisted c h) hrun (exception_ne _))
    (finishes_create_raises 1 (hunlisted c₁ hgnb) hraise (exception_ne _))

theorem addDnnUpfInfoListSmf_settles (h : ¬ Padded sd) :
    (Free5gcBuilder.addDnnUpfInfoListSmf gnbName upfName upfIp upfN3Ip sst sd dnnName ipPool).Settles c := by
  by_cases hgnb : c.node upfName = some .gnb
  · exact addDnnUpfInfoListSmf_gnb hgnb
  by_cases hsd : Accepted sd
  swap
  · exact addDnnUpfInfoListSmf_refused hgnb hsd
  have hlisted : ∀ (c₁ : Free5gcCoreConfig) (upf : Upf), c₁.node upfName = some (.upf upf) →
      upf.sNssaiUpfInfos.any (isSlice sst sd) = true → ∃ c',
        Finishes .recursionError (addDnnUpfInfoListSmf gnbName upfName upfIp upfN3Ip sst sd dnnName ipPool) 1 c₁ c' ∧
        Finishes .recursionError (addDnnUpfInfoListSmf gnbName upfName upfIp upfN3Ip sst sd dnnName ipPool) 1 c' c' := by
    intro c₁ upf hnode hany
    obtain ⟨c', hfirst | hfirst, hsecond⟩ := findDnnUpfInfo_listed hnode hany
    · exact ⟨c', finishes_found hfirst, finishes_found hsecond⟩
    · exact ⟨c', finishes_raises hfirst (indexError_ne _), finishes_found hsecond⟩
  by_cases hnone : ∀ upf, c.node upfName = some (.upf upf) → ∀ info ∈ upf.sNssaiUpfInfos, isSlice sst sd info = false
  · obtain ⟨c₁, upf, hnode, hany, hrun⟩ := addSnssaiUpfInfosSmf_lists hgnb hsd h
    obtain ⟨c', hfirst, hsecond⟩ := hlisted c₁ upf hnode hany
    exact settles_of_finishes (fun _ => rfl) (finishes_creates 2 (findDnnUpfInfo_unlisted hgnb hnone) hrun hfirst) hsecond
  · push Not at hnone
    obtain ⟨upf, hnode, info, hinfo, hslice⟩ := hnone
    obtain ⟨c', hfirst, hsecond⟩ := hlisted c upf hnode (List.any_eq_true.2 ⟨info, hinfo, Bool.eq_true_of_not_eq_false hslice⟩)
    exact settles_of_finishes (fun _ => rfl) hfirst hsecond

theorem addDnnUpfInfoListSmf_not_settles (hsd : Padded sd) (h : c.node upfName ≠ some .gnb) :
    ¬ (Free5gcBuilder.addDnnUpfInfoListSmf gnbName upfName upfIp upfN3Ip sst sd dnnName ipPool).Settles c := by
  refine not_settles_of_grows (I := fun c => c.node upfName ≠ some .gnb) (upfSlices upfName) (retrying_grows ?_ ?_) h
  · intro c h
    refine ⟨false, c, findDnnUpfInfo_unlisted h ?_, h, Nat.le_refl _⟩
    intro upf _ info _
    exact decide_eq_false fun hslice => hsd.ne info.sNssai.sd hslice.2
  · intro n c h
    rcases addSnssaiUpfInfosSmf_grows hsd n c h with hend | ⟨c', hrun, hc', hsize⟩
    · exact .inl hend
    · exact .inr ⟨c', hrun, hc', by omega⟩

end UserPlane

/-! ### The lists of the NSSF -/

section Nssf

variable {mcc mnc tac : String} {id : Nat} {snssai : Free5gc.Snssai} {item : AmfSetListItem} {look : Free5gcCoreConfig → List α}
  {put : List α → Free5gcCoreConfig → Free5gcCoreConfig} {test : α → Bool} {f : α → α}

/-- The total of the sizes of the elements grows when one is changed. -/
theorem change_grows (size : α → Nat) (hlook : ∀ xs c, look (put xs c) = xs) (hsize : ∀ x, test x = true → size x + 1 ≤ size (f x))
    (c : Free5gcCoreConfig) : ∃ found c', (change look put test f).run c = .ok found c' ∧ True ∧
      (if found then ((look c).map size).sum + 1 ≤ ((look c').map size).sum else ((look c).map size).sum ≤ ((look c').map size).sum) := by
  cases hfirst : updateFirst test f (look c) with
  | none => exact ⟨false, c, change_none hfirst, trivial, Nat.le_refl _⟩
  | some xs =>
    refine ⟨true, put xs c, change_some hfirst, trivial, ?_⟩
    rw [if_pos rfl, hlook]
    exact sum_updateFirst hsize hfirst

theorem unless_grows (size : Free5gcCoreConfig → Nat) {cond : Free5gcCoreConfig → Bool} {g : Free5gcCoreConfig → Free5gcCoreConfig}
    (h : ∀ c, size c ≤ size (g c)) (c : Free5gcCoreConfig) :
    ∃ c', (modify (fun c => if cond c then c else g c) : ConfigM Unit).run c = .ok () c' ∧ True ∧ size c ≤ size c' := by
  refine ⟨if cond c then c else g c, rfl, trivial, ?_⟩
  split
  · exact Nat.le_refl _
  · exact h c

def plmnSlices (c : Free5gcCoreConfig) : Nat :=
  (c.supportedNssaiInPlmnList.map (fun item => item.snssaiList.length)).sum

theorem addSupportedSnssaiListItemNssf_not_settles : ¬ (Free5gcBuilder.addSupportedSnssaiListItemNssf mcc mnc snssai).Settles c := by
  refine not_settles_of_grows (I := fun _ => True) plmnSlices
    (retrying_grows ?_ ?_) trivial
  · intro c _
    refine change_grows (fun item : PlmnItem => item.snssaiList.length) ?_ ?_ c
    · exact fun _ _ => rfl
    · intro item _
      rw [List.length_append, List.length_singleton]
  · intro n c _
    refine .inr (unless_grows plmnSlices ?_ c)
    intro c
    unfold plmnSlices
    rw [List.map_append, List.sum_append]
    exact Nat.le_add_right _ _

/-- The tracking areas and slices of a set of AMFs, counted. -/
def amfSetSize (item : AmfSetListItem) : Nat :=
  (item.supportedNssaiAvailabilityData.map (fun el => el.supportedSnssaiList.length + 1)).sum

def amfSetsSize (c : Free5gcCoreConfig) : Nat :=
  (c.amfSetList.map amfSetSize).sum

theorem createAmfSetListNssf_run (h : c.amfSetList.find? (fun item => decide (item.amfSetId = id)) = none) :
    (createAmfSetListNssf id).run c = .ok () { c with amfSetList := c.amfSetList ++ [⟨id, c.nrfInstances, []⟩] } := by
  refine unless_run ?_
  rw [List.any_eq_false]
  exact List.find?_eq_none.1 h

theorem findAvailabilityDatum_none (h : c.amfSetList.find? (fun item => decide (item.amfSetId = id)) = none) :
    (findAvailabilityDatum id mcc mnc tac).run c = .ok false c := by
  unfold findAvailabilityDatum
  rw [run_bind_ok get _ rfl, h]
  rfl

theorem findAvailabilityDatum_listed (h : c.amfSetList.find? (fun item => decide (item.amfSetId = id)) = some item)
    (hany : item.supportedNssaiAvailabilityData.any (isTai mcc mnc tac) = true) :
    (findAvailabilityDatum id mcc mnc tac).run c = .ok true c := by
  unfold findAvailabilityDatum
  rw [run_bind_ok get _ rfl, h]
  simp only [hany, if_true]
  rfl

theorem not_isTai (h : ¬ Accepted tac) (el : TaiItem) : isTai mcc mnc tac el = false :=
  decide_eq_false fun htai => h (htai.1 ▸ accepted_code el.tai.tac)

theorem findAvailabilityDatum_refused (h : c.amfSetList.find? (fun item => decide (item.amfSetId = id)) = some item)
    (htac : ¬ Accepted tac) :
    (findAvailabilityDatum id mcc mnc tac).run c = .error (.exception "Slice must be in range 000000~FFFFFF") c := by
  have hany : item.supportedNssaiAvailabilityData.any (isTai mcc mnc tac) = false := by
    rw [List.any_eq_false]
    intro el _
    rw [not_isTai htac]
    exact Bool.false_ne_true
  unfold findAvailabilityDatum
  rw [run_bind_ok get _ rfl, h]
  simp only [hany, Bool.false_eq_true, if_false, Tai.make, check_refused htac]
  rfl

theorem findAvailabilityDatum_new (h : c.amfSetList.find? (fun item => decide (item.amfSetId = id)) = some item)
    (hany : item.supportedNssaiAvailabilityData.any (isTai mcc mnc tac) = false) (hcode : Code.check tac = .ok code)
    (hxs : updateFirst (fun item => decide (item.amfSetId = id)) (fun item => { item with
      supportedNssaiAvailabilityData := item.supportedNssaiAvailabilityData ++ [⟨⟨⟨mcc, mnc⟩, code⟩, []⟩] }) c.amfSetList = some xs) :
    (findAvailabilityDatum id mcc mnc tac).run c = .ok true { c with amfSetList := xs } := by
  unfold findAvailabilityDatum
  rw [run_bind_ok get _ rfl, h]
  simp only [hany, Bool.false_eq_true, if_false, Tai.make, hcode]
  exact change_some hxs

/-- With a text that is accepted as it is the tracking area is listed once. -/
theorem findAvailabilityDatum_lists (mcc mnc : String) (h : c.amfSetList.find? (fun item => decide (item.amfSetId = id)) = some item)
    (htac : Accepted tac) (hnot : ¬ Padded tac) : ∃ c', (findAvailabilityDatum id mcc mnc tac).run c = .ok true c' ∧
      (findAvailabilityDatum id mcc mnc tac).run c' = .ok true c' := by
  cases hany : item.supportedNssaiAvailabilityData.any (isTai mcc mnc tac) with
  | true => exact ⟨c, findAvailabilityDatum_listed h hany, findAvailabilityDatum_listed h hany⟩
  | false =>
    obtain ⟨code, hcode, htext⟩ := check_code htac hnot
    obtain ⟨xs, hxs⟩ := exists_updateFirst_of_find? (fun item : AmfSetListItem => { item with
      supportedNssaiAvailabilityData := item.supportedNssaiAvailabilityData ++ [⟨⟨⟨mcc, mnc⟩, code⟩, []⟩] }) h
    refine ⟨_, findAvailabilityDatum_new h hany hcode hxs, ?_⟩
    have hfind : xs.find? (fun item => decide (item.amfSetId = id)) = some { item with
        supportedNssaiAvailabilityData := item.supportedNssaiAvailabilityData ++ [⟨⟨⟨mcc, mnc⟩, code⟩, []⟩] } := by
      rw [find?_updateFirst ?_ hxs, h]
      · rfl
      · exact fun _ hid => hid
    refine findAvailabilityDatum_listed hfind ?_
    rw [List.any_append, List.any_cons, isTai, decide_eq_true ⟨htext, rfl⟩]
    simp

/-- There is a set with the id after the first look. -/
theorem exists_amfSet (mcc mnc tac : String) (id : Nat) (c : Free5gcCoreConfig) : ∃ c₁ item,
    c₁.amfSetList.find? (fun item => decide (item.amfSetId = id)) = some item ∧
      (c₁ = c ∨ ((findAvailabilityDatum id mcc mnc tac).run c = .ok false c ∧ (createAmfSetListNssf id).run c = .ok () c₁)) := by
  cases hfind : c.amfSetList.find? (fun item => decide (item.amfSetId = id)) with
  | some item => exact ⟨c, item, hfind, .inl rfl⟩
  | none =>
    refine ⟨{ c with amfSetList := c.amfSetList ++ [⟨id, c.nrfInstances, []⟩] }, ⟨id, c.nrfInstances, []⟩, ?_,
      .inr ⟨findAvailabilityDatum_none hfind, createAmfSetListNssf_run hfind⟩⟩
    rw [List.find?_append, hfind, Option.none_or]
    simp

theorem addSupportedNssaiAvailabilityDatumNssf_refused (id : Nat) (c : Free5gcCoreConfig) (htac : ¬ Accepted tac) : ∃ c₁,
    (∀ n, 2 ≤ n → (addSupportedNssaiAvailabilityDatumNssf id mcc mnc tac n).run c =
      .error (.exception "Slice must be in range 000000~FFFFFF") c₁) ∧
    (∀ n, 1 ≤ n → (addSupportedNssaiAvailabilityDatumNssf id mcc mnc tac n).run c₁ =
      .error (.exception "Slice must be in range 000000~FFFFFF") c₁) := by
  obtain ⟨c₁, item, hfind, hreach⟩ := exists_amfSet mcc mnc tac id c
  have hagain : ∀ n, 1 ≤ n → (addSupportedNssaiAvailabilityDatumNssf id mcc mnc tac n).run c₁ =
      .error (.exception "Slice must be in range 000000~FFFFFF") c₁ := by
    intro n hn
    obtain ⟨n, rfl⟩ : ∃ l, n = l + 1 := ⟨n - 1, by omega⟩
    exact retrying_raises (findAvailabilityDatum_refused hfind htac)
  refine ⟨c₁, ?_, hagain⟩
  rcases hreach with rfl | ⟨hnot, hcreate⟩
  · exact fun n hn => hagain n (by omega)
  · intro n hn
    obtain ⟨n, rfl⟩ : ∃ l, n = l + 1 := ⟨n - 1, by omega⟩
    refine (retrying_creates hnot ?_).trans (hagain n (by omega))
    exact hcreate

theorem addSupportedNssaiAvailabilityDatumNssf_settles (h : ¬ Padded tac) :
    (Free5gcBuilder.addSupportedNssaiAvailabilityDatumNssf id mcc mnc tac).Settles c := by
  by_cases htac : Accepted tac
  · obtain ⟨c₁, item, hfind, hreach⟩ := exists_amfSet mcc mnc tac id c
    obtain ⟨c', hfirst, hsecond⟩ := findAvailabilityDatum_lists mcc mnc hfind htac h
    rcases hreach with hsame | ⟨hnot, hcreate⟩
    · rw [hsame] at hfirst
      exact settles_of_finishes (fun _ => rfl) (finishes_found hfirst) (finishes_found hsecond)
    · exact settles_of_finishes (fun _ => rfl) (finishes_creates 0 hnot (fun _ _ => hcreate) (finishes_found hfirst))
        (finishes_found hsecond)
  · obtain ⟨c₁, hfirst, hsecond⟩ := addSupportedNssaiAvailabilityDatumNssf_refused id c htac
    exact settles_of_finishes (fun _ => rfl) (fun m hm => .inr ⟨_, exception_ne _, hfirst m hm⟩)
      (fun m hm => .inr ⟨_, exception_ne _, hsecond m hm⟩)

/-- The call lists the tracking area, and once more where the text is padded. -/
theorem addSupportedNssaiAvailabilityDatumNssf_grows (htac : Accepted tac) (hd : d = 0 ∨ (d = 1 ∧ Padded tac)) (n : Nat)
    (c : Free5gcCoreConfig) (_ : True) :
    (∃ c', (addSupportedNssaiAvailabilityDatumNssf id mcc mnc tac n).run c = .error .recursionError c') ∨
      ∃ c', (addSupportedNssaiAvailabilityDatumNssf id mcc mnc tac n).run c = .ok () c' ∧ True ∧ c.amfSetsSize + d ≤ c'.amfSetsSize := by
  refine retrying_grows (I := fun _ => True) ?_ ?_ n c trivial
  · intro c _
    cases hfind : c.amfSetList.find? (fun item => decide (item.amfSetId = id)) with
    | none => exact ⟨false, c, findAvailabilityDatum_none hfind, trivial, Nat.le_refl _⟩
    | some item =>
      cases hany : item.supportedNssaiAvailabilityData.any (isTai mcc mnc tac) with
      | true =>
        refine ⟨true, c, findAvailabilityDatum_listed hfind hany, trivial, ?_⟩
        rcases hd with rfl | ⟨-, hpadded⟩
        · exact Nat.le_refl _
        · obtain ⟨el, -, htai⟩ := List.any_eq_true.1 hany
          exact absurd (of_decide_eq_true htai).1 (hpadded.ne el.tai.tac)
      | false =>
        obtain ⟨code, hcode⟩ := check_accepted htac
        obtain ⟨xs, hxs⟩ := exists_updateFirst_of_find? (fun item : AmfSetListItem => { item with
          supportedNssaiAvailabilityData := item.supportedNssaiAvailabilityData ++ [⟨⟨⟨mcc, mnc⟩, code⟩, []⟩] }) hfind
        refine ⟨true, _, findAvailabilityDatum_new hfind hany hcode hxs, trivial, ?_⟩
        have hsum : c.amfSetsSize + 1 ≤ (xs.map amfSetSize).sum := by
          refine sum_updateFirst ?_ hxs
          intro item _
          simp [amfSetSize]
        rw [if_pos rfl]
        exact Nat.le_trans (by omega) hsum
  · intro n c _
    refine .inr (unless_grows amfSetsSize ?_ c)
    intro c
    unfold amfSetsSize
    rw [List.map_append, List.sum_append]
    exact Nat.le_add_right _ _

theorem addSupportedNssaiAvailabilityDatumNssf_not_settles (h : Padded tac) :
    ¬ (Free5gcBuilder.addSupportedNssaiAvailabilityDatumNssf id mcc mnc tac).Settles c :=
  not_settles_of_grows amfSetsSize (addSupportedNssaiAvailabilityDatumNssf_grows h.1 (.inr ⟨rfl, h⟩)) trivial

theorem addSupportedNssaiNssf_not_settles (htac : Accepted tac) : ¬ (Free5gcBuilder.addSupportedNssaiNssf id mcc mnc tac snssai).Settles c := by
  refine not_settles_of_grows (I := fun _ => True) amfSetsSize (retrying_grows ?_ ?_) trivial
  · intro c _
    refine change_grows amfSetSize ?_ ?_ c
    · exact fun _ _ => rfl
    · intro item htest
      obtain ⟨-, hany⟩ := Bool.and_eq_true_iff.1 htest
      obtain ⟨el, hel, hlacks⟩ := List.any_eq_true.1 hany
      obtain ⟨xs, hxs⟩ := exists_updateFirst _ (TaiItem.addSnssai snssai) hel hlacks
      rw [hxs]
      refine sum_updateFirst ?_ hxs
      intro el _
      simp [TaiItem.addSnssai]
  · exact addSupportedNssaiAvailabilityDatumNssf_grows htac (.inl rfl)

theorem addSupportedNssaiNssf_settles (htac : ¬ Accepted tac) : (Free5gcBuilder.addSupportedNssaiNssf id mcc mnc tac snssai).Settles c := by
  have hnone : ∀ c : Free5gcCoreConfig, ∀ item ∈ c.amfSetList, (fun item : AmfSetListItem => decide (item.amfSetId = id) &&
      item.supportedNssaiAvailabilityData.any (lacksSnssai mcc mnc tac snssai)) item = false := by
    intro c item _
    have hany : item.supportedNssaiAvailabilityData.any (lacksSnssai mcc mnc tac snssai) = false := by
      rw [List.any_eq_false]
      intro el _
      rw [lacksSnssai, not_isTai htac, Bool.false_and]
      exact Bool.false_ne_true
    simp only [hany, Bool.and_false]
  obtain ⟨c₁, hfirst, hsecond⟩ := addSupportedNssaiAvailabilityDatumNssf_refused id c htac
  exact settles_of_finishes (fun _ => rfl)
    (finishes_create_raises 2 (change_none (updateFirst_eq_none.2 (hnone c))) hfirst (exception_ne _))
    (finishes_create_raises 1 (change_none (updateFirst_eq_none.2 (hnone c₁))) hsecond (exception_ne _))

def taSlices (c : Free5gcCoreConfig) : Nat :=
  (c.taList.map (fun el => el.supportedSnssaiList.length)).sum

theorem addTaiSupportedSnssaiListNssfItem_not_settles (htac : Accepted tac) :
    ¬ (Free5gcBuilder.addTaiSupportedSnssaiListNssfItem mcc mnc tac snssai).Settles c := by
  obtain ⟨code, hcode⟩ := check_accepted htac
  refine not_settles_of_grows (I := fun _ => True) taSlices (retrying_grows ?_ ?_) trivial
  · intro c _
    refine change_grows (fun el : TaiItem => el.supportedSnssaiList.length) ?_ ?_ c
    · exact fun _ _ => rfl
    · intro el _
      simp [TaiItem.addSnssai]
  · intro n c _
    refine .inr ?_
    unfold createTaListItemNssf
    cases hany : c.taList.any (fun el => decide (el.tai.tac.text = tac)) with
    | true =>
      refine ⟨c, ?_, trivial, Nat.le_refl _⟩
      rw [run_bind_ok get _ rfl, hany]
      rfl
    | false =>
      refine ⟨{ c with taList := c.taList ++ [⟨⟨⟨mcc, mnc⟩, code⟩, []⟩] }, ?_, trivial, ?_⟩
      · rw [run_bind_ok get _ rfl, hany, Tai.make, hcode]
        rfl
      · unfold taSlices
        rw [List.map_append, List.sum_append]
        exact Nat.le_add_right _ _

theorem addTaiSupportedSnssaiListNssfItem_settles (htac : ¬ Accepted tac) :
    (Free5gcBuilder.addTaiSupportedSnssaiListNssfItem mcc mnc tac snssai).Settles c := by
  have hne : ∀ el : TaiItem, el.tai.tac.text ≠ tac := fun el htext => htac (htext ▸ accepted_code el.tai.tac)
  have hnone : updateFirst (fun el : TaiItem => decide (el.tai.tac.text = tac ∧ snssai ∉ el.supportedSnssaiList))
      (TaiItem.addSnssai snssai) c.taList = none :=
    updateFirst_eq_none.2 fun el _ => decide_eq_false fun htest => hne el htest.1
  have hany : c.taList.any (fun el => decide (el.tai.tac.text = tac)) = false := by
    rw [List.any_eq_false]
    exact fun el _ htext => hne el (of_decide_eq_true htext)
  have hcreate : (createTaListItemNssf mcc mnc tac).run c = .error (.exception "Slice must be in range 000000~FFFFFF") c := by
    unfold createTaListItemNssf
    rw [run_bind_ok get _ rfl, hany, Tai.make, check_refused htac]
    rfl
  exact settles_of_finishes (fun _ => rfl)
    (finishes_create_raises 0 (change_none hnone) (fun _ _ => hcreate) (exception_ne _))
    (finishes_create_raises 0 (change_none hnone) (fun _ _ => hcreate) (exception_ne _))

end Nssf

end Free5gcCoreConfig

namespace Free5gcBuilder
open Free5gcCoreConfig

theorem settles_iff_sound (b : Free5gcBuilder) (c : Free5gcCoreConfig) : b.Settles c ↔ b.Sound c := by
  cases b with
  | addPlmnAmfItem mcc mnc areaId nssai =>
    exact ⟨fun _ => trivial, fun _ => addPlmnAmfItem_settles mcc mnc areaId nssai⟩
  | addDnnInfoSmfItem dnn ipv4 snssai ipv6 =>
    constructor
    · intro h
      cases ipv6 with
      | none => exact .inl rfl
      | some ipv6 =>
        by_contra hnot
        refine addDnnInfoSmfItem_not_settles ?_ h
        exact fun info hinfo hsnssai => hnot (.inr ⟨info, hinfo, hsnssai⟩)
    · rintro (rfl | ⟨info, hinfo, hsnssai⟩)
      · exact addDnnInfoSmfItem_settles
      · exact addDnnInfoSmfItem_found hinfo hsnssai
  | addSnssaiUpfInfosSmf gnbName upfName upfIp upfN3Ip sst sd =>
    constructor
    · intro h hsd
      by_contra hgnb
      exact addSnssaiUpfInfosSmf_not_settles hsd hgnb h
    · intro h
      by_cases hsd : Padded sd
      · exact addSnssaiUpfInfosSmf_gnb (h hsd)
      · exact addSnssaiUpfInfosSmf_settles hsd
  | addDnnUpfInfoListSmf gnbName upfName upfIp upfN3Ip sst sd dnnName ipPool =>
    constructor
    · intro h hsd
      by_contra hgnb
      exact addDnnUpfInfoListSmf_not_settles hsd hgnb h
    · intro h
      by_cases hsd : Padded sd
      · exact addDnnUpfInfoListSmf_gnb (h hsd)
      · exact addDnnUpfInfoListSmf_settles hsd
  | addSupportedSnssaiListItemNssf mcc mnc snssai =>
    exact ⟨addSupportedSnssaiListItemNssf_not_settles, False.elim⟩
  | addSupportedNssaiAvailabilityDatumNssf id mcc mnc tac =>
    exact ⟨fun h hpadded => addSupportedNssaiAvailabilityDatumNssf_not_settles hpadded h, addSupportedNssaiAvailabilityDatumNssf_settles⟩
  | addSupportedNssaiNssf id mcc mnc tac snssai =>
    exact ⟨fun h htac => addSupportedNssaiNssf_not_settles htac h, addSupportedNssaiNssf_settles⟩
  | addTaiSupportedSnssaiListNssfItem mcc mnc tac snssai =>
    exact ⟨fun h htac => addTaiSupportedSnssaiListNssfItem_not_settles htac h, addTaiSupportedSnssaiListNssfItem_settles⟩

/-- The second call for a slice does not come back. -/
theorem not_every_call_settles : ¬ ∀ (b : Free5gcBuilder) (c : Free5gcCoreConfig), b.Settles c := by
  intro h
  have hcall := h (.addSupportedSnssaiListItemNssf "001" "01" ⟨1, ⟨"000001", by decide⟩⟩)
    { smfIp := "10.0.0.4", scheme := "http", nrfServiceName := "nrf-nnrf", nrfServicePort := 8000, defaultPlmnId := ⟨"001", "01"⟩ }
  exact addSupportedSnssaiListItemNssf_not_settles hcall

end Free5gcBuilder

end Nfvcl
