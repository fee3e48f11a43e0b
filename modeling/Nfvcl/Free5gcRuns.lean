import Mathlib.Data.List.Basic
import Nfvcl.Free5gcBuilders
import Nfvcl.Free5gcCore

namespace Nfvcl
set_option autoImplicit true
open Effects ListUpdates Retries Free5gc

namespace Free5gc

theorem check_text (code : Code) : Code.check code.text = .ok code := by
  rw [Code.check, dif_pos (accepted_code code)]
  have htext : zfill 6 code.text = code.text := zfill_six code.isCode.1
  cases code
  simp only [Except.ok.injEq, Code.mk.injEq]
  exact htext

theorem make_snssai (x : Free5gc.Snssai) : Free5gc.Snssai.make x.sst x.sd.text = .ok x := by
  rw [Free5gc.Snssai.make, check_text]
  rfl

theorem make_tai (plmnId : PlmnId) (tac : Code) : Tai.make plmnId tac.text = .ok ⟨plmnId, tac⟩ := by
  rw [Tai.make, check_text]
  rfl

end Free5gc

namespace Free5gcCoreConfig

variable {c : Free5gcCoreConfig} {n : Nat}

/-! ### Lists that grow -/

theorem grows_run {look : Free5gcCoreConfig → List α} {put : List α → Free5gcCoreConfig → Free5gcCoreConfig} {test : α → Bool} {f : α → α}
    {create : Nat → ConfigM Unit} {m : ConfigM Unit} {c' : Free5gcCoreConfig} (new : α)
    (hm : m = retrying .recursionError (change look put test f) create (n + 2)) (hc' : c' = put (growFirst test f (f new) (look c)) c)
    (hlook : ∀ xs c, look (put xs c) = xs) (hput : ∀ xs ys c, put xs (put ys c) = put xs c)
    (hnew : test new = true)
    (hcreate : updateFirst test f (look c) = none → (create (n + 1)).run c = .ok () (put (look c ++ [new]) c)) :
    m.run c = .ok () c' := by
  rw [hm, hc']
  cases hfirst : updateFirst test f (look c) with
  | some xs =>
    rw [retrying_found (change_some hfirst), growFirst_of_some hfirst]
  | none =>
    have hfound : updateFirst test f (look (put (look c ++ [new]) c)) = some (look c ++ [f new]) := by
      rw [hlook]
      exact updateFirst_append hfirst hnew
    rw [retrying_creates (change_none hfirst) (hcreate hfirst), retrying_found (change_some hfound), hput,
      growFirst_of_none (updateFirst_eq_none.1 hfirst)]

section Slices

variable (mcc mnc : String) (x : Free5gc.Snssai) (tac : Code)

def withPlmnSlice (c : Free5gcCoreConfig) : Free5gcCoreConfig :=
  { c with
    plmnSupportList := growFirst (fun item => decide (item.plmnId = ⟨mcc, mnc⟩))
      (fun item => { item with snssaiList := appendNew item.snssaiList x }) ⟨⟨mcc, mnc⟩, [x]⟩ c.plmnSupportList }

def withSupportedSlice (c : Free5gcCoreConfig) : Free5gcCoreConfig :=
  { c with
    supportedNssaiInPlmnList := growFirst (fun item => decide (item.plmnId = ⟨mcc, mnc⟩ ∧ x ∉ item.snssaiList))
      (fun item => { item with snssaiList := item.snssaiList ++ [x] }) ⟨⟨mcc, mnc⟩, [x]⟩ c.supportedNssaiInPlmnList }

def withNsi (nsiId : Nat) (c : Free5gcCoreConfig) : Free5gcCoreConfig :=
  { c with nsiList := c.nsiList ++ [⟨x, c.nrfInstances, nsiId⟩] }

def withAmfSet (id : Nat) (c : Free5gcCoreConfig) : Free5gcCoreConfig :=
  { c with amfSetList := c.amfSetList ++ [⟨id, c.nrfInstances, [⟨⟨⟨mcc, mnc⟩, tac⟩, [x]⟩]⟩] }

def withTaSlice (c : Free5gcCoreConfig) : Free5gcCoreConfig :=
  { c with
    taList := growFirst (fun el => decide (el.tai.tac.text = tac.text ∧ x ∉ el.supportedSnssaiList)) (TaiItem.addSnssai x)
      ⟨⟨⟨mcc, mnc⟩, tac⟩, [x]⟩ c.taList }

def withDnnInfo (info : DnnInfo) (c : Free5gcCoreConfig) : Free5gcCoreConfig :=
  { c with
    snssaiInfos := growFirst (fun item => decide (item.sNssai = x))
      (fun item => { item with dnnInfos := appendNew item.dnnInfos info }) ⟨x, [info]⟩ c.snssaiInfos }

variable {mcc mnc x tac} {id : Nat}

theorem addPlmnAmfItem_run : (addPlmnAmfItem mcc mnc x (n + 2)).run c = .ok () (withPlmnSlice mcc mnc x c) := by
  refine grows_run ⟨⟨mcc, mnc⟩, []⟩ rfl rfl (fun _ _ => rfl) (fun _ _ _ => rfl) (decide_eq_true rfl) ?_
  intro hnone
  exact unless_run (any_false hnone)

/-- There is a place for the slice in the item of the PLMN, if there is one. -/
theorem addSupportedSnssaiListItemNssf_run (h : ∀ item ∈ c.supportedNssaiInPlmnList, item.plmnId = ⟨mcc, mnc⟩ → x ∉ item.snssaiList) :
    (addSupportedSnssaiListItemNssf mcc mnc x (n + 2)).run c = .ok () (withSupportedSlice mcc mnc x c) := by
  refine grows_run ⟨⟨mcc, mnc⟩, []⟩ rfl rfl (fun _ _ => rfl) (fun _ _ _ => rfl) (decide_eq_true ⟨rfl, List.not_mem_nil⟩) ?_
  intro hnone
  refine unless_run ?_
  rw [List.any_eq_false]
  intro item hitem hplmn
  have htest := updateFirst_eq_none.1 hnone item hitem
  exact of_decide_eq_false htest ⟨of_decide_eq_true hplmn, h item hitem (of_decide_eq_true hplmn)⟩

/-- The slice is in the one item of the PLMN. -/
theorem addSupportedSnssaiListItemNssf_stuck (h : c.supportedNssaiInPlmnList = [⟨⟨mcc, mnc⟩, xs⟩]) (hx : x ∈ xs) (n : Nat) :
    (addSupportedSnssaiListItemNssf mcc mnc x n).run c = .error .recursionError c := by
  refine retrying_stuck (change_none ?_) ?_ n
  · rw [updateFirst_eq_none, h]
    intro item hitem
    rw [List.mem_singleton.1 hitem]
    exact decide_eq_false fun htest => htest.2 hx
  · intro n
    refine congrArg (EStateM.Result.ok ()) (if_pos ?_)
    rw [h]
    exact List.any_eq_true.2 ⟨_, List.mem_singleton_self _, decide_eq_true rfl⟩

theorem addNsiListItemNssf_run (h : x ∉ c.nsiList.map NsiListItem.snssai) (nsiId : Nat) :
    (addNsiListItemNssf x.sst x.sd.text nsiId).run c = .ok () (withNsi x nsiId c) := by
  have hany : c.nsiList.any (fun item => decide (item.snssai.sst = x.sst ∧ item.snssai.sd.text = x.sd.text)) = false := by
    rw [List.any_eq_false]
    intro item hitem htest
    obtain ⟨hsst, hsd⟩ := of_decide_eq_true htest
    refine h (List.mem_map.2 ⟨item, hitem, ?_⟩)
    obtain ⟨⟨sst, sd, hcode⟩, nrfId, id⟩ := item
    cases hsst
    cases hsd
    rfl
  unfold addNsiListItemNssf
  rw [run_bind_ok get _ rfl]
  simp only [hany, Bool.false_eq_true, if_false, make_snssai]
  rfl

/-- With an id that is not in use the call makes the set and its only tracking area. -/
theorem addSupportedNssaiNssf_run (h : ∀ item ∈ c.amfSetList, item.amfSetId ≠ id) :
    (addSupportedNssaiNssf id mcc mnc tac.text x (n + 3)).run c = .ok () (withAmfSet mcc mnc x tac id c) := by
  have hfind : c.amfSetList.find? (fun item => decide (item.amfSetId = id)) = none := by
    rw [List.find?_eq_none]
    exact fun item hitem hid => h item hitem (of_decide_eq_true hid)
  have hids : ∀ f : AmfSetListItem → AmfSetListItem, updateFirst (fun item => decide (item.amfSetId = id)) f c.amfSetList = none := by
    intro f
    rw [updateFirst_eq_none]
    exact fun item hitem => decide_eq_false (h item hitem)
  have hnew : ({ c with amfSetList := c.amfSetList ++ [⟨id, c.nrfInstances, []⟩] } : Free5gcCoreConfig).amfSetList.find?
      (fun item => decide (item.amfSetId = id)) = some ⟨id, c.nrfInstances, []⟩ := by
    rw [List.find?_append, hfind, Option.none_or]
    simp
  have hdatum : (addSupportedNssaiAvailabilityDatumNssf id mcc mnc tac.text (n + 2)).run c = .ok () { c with
      amfSetList := c.amfSetList ++ [⟨id, c.nrfInstances, [⟨⟨⟨mcc, mnc⟩, tac⟩, []⟩]⟩] } := by
    have hcreates : (retrying .recursionError (findAvailabilityDatum id mcc mnc tac.text) (fun _ => createAmfSetListNssf id) (n + 2)).run c = _ :=
      retrying_creates (findAvailabilityDatum_none hfind) (createAmfSetListNssf_run hfind)
    refine hcreates.trans ?_
    refine retrying_found (findAvailabilityDatum_new hnew rfl (check_text tac) ?_)
    exact updateFirst_append (hids _) (decide_eq_true rfl)
  have hlacks : lacksSnssai mcc mnc tac.text x ⟨⟨⟨mcc, mnc⟩, tac⟩, []⟩ = true := by
    simp [lacksSnssai, isTai]
  have hnone : updateFirst (fun item : AmfSetListItem => decide (item.amfSetId = id) &&
      item.supportedNssaiAvailabilityData.any (lacksSnssai mcc mnc tac.text x))
      (fun item => { item with
        supportedNssaiAvailabilityData := (updateFirst (lacksSnssai mcc mnc tac.text x) (TaiItem.addSnssai x)
          item.supportedNssaiAvailabilityData).getD [] }) c.amfSetList = none := by
    rw [updateFirst_eq_none]
    intro item hitem
    rw [decide_eq_false (h item hitem), Bool.false_and]
  refine (retrying_creates (change_none hnone) hdatum).trans ?_
  refine retrying_found (change_some ?_)
  refine (updateFirst_append hnone ?_).trans ?_
  · simp [hlacks]
  · simp [updateFirst, hlacks, TaiItem.addSnssai]

theorem createTaListItemNssf_run (h : ∀ el ∈ c.taList, el.tai.tac.text ≠ tac.text) :
    (createTaListItemNssf mcc mnc tac.text).run c = .ok () { c with taList := c.taList ++ [⟨⟨⟨mcc, mnc⟩, tac⟩, []⟩] } := by
  have hany : c.taList.any (fun el => decide (el.tai.tac.text = tac.text)) = false := by
    rw [List.any_eq_false]
    exact fun el hel htext => h el hel (of_decide_eq_true htext)
  unfold createTaListItemNssf
  rw [run_bind_ok get _ rfl]
  simp only [hany, Bool.false_eq_true, if_false, make_tai]
  rfl

theorem addTaiSupportedSnssaiListNssfItem_run (h : ∀ el ∈ c.taList, x ∉ el.supportedSnssaiList) :
    (addTaiSupportedSnssaiListNssfItem mcc mnc tac.text x (n + 2)).run c = .ok () (withTaSlice mcc mnc x tac c) := by
  refine grows_run ⟨⟨⟨mcc, mnc⟩, tac⟩, []⟩ rfl rfl (fun _ _ => rfl) (fun _ _ _ => rfl) (decide_eq_true ⟨rfl, List.not_mem_nil⟩) ?_
  intro hnone
  refine createTaListItemNssf_run ?_
  intro el hel htext
  exact of_decide_eq_false (updateFirst_eq_none.1 hnone el hel) ⟨htext, h el hel⟩

theorem addDnnInfoSmfItem_run {dnn dns : String} : (addDnnInfoSmfItem dnn dns x none (n + 2)).run c = .ok () (withDnnInfo x ⟨dnn, dns, none⟩ c) := by
  rw [addDnnInfoSmfItem_none]
  refine grows_run ⟨x, []⟩ rfl rfl (fun _ _ => rfl) (fun _ _ _ => rfl) (decide_eq_true rfl) ?_
  intro hnone
  exact createSsnsaiSmfItem_run hnone

end Slices

/-! ### The user plane -/

section UserPlane

variable {gnbName upfName upfIp upfN3Ip dnn cidr : String} {x : Free5gc.Snssai} {infos : List SNssaiUpfInfo} {had : List DnnUpfInfoListItem}
  {instances : List String} {before after : List (String × Node)}

/-- The node of an area's UPF. -/
def upfNode (upfIp upfN3Ip : String) (infos : List SNssaiUpfInfo) (instances : List String) : Node :=
  .upf ⟨upfIp, upfIp, infos, [⟨"N3", [upfN3Ip], instances⟩]⟩

theorem isSlice_self (x : Free5gc.Snssai) (l : List DnnUpfInfoListItem) : isSlice x.sst x.sd.text ⟨x, l⟩ = true :=
  decide_eq_true ⟨rfl, rfl⟩

theorem not_isSlice {info : SNssaiUpfInfo} (h : info.sNssai ≠ x) : isSlice x.sst x.sd.text info = false := by
  refine decide_eq_false ?_
  rintro ⟨hsst, hsd⟩
  apply h
  obtain ⟨⟨sst, sd, hcode⟩, l⟩ := info
  cases hsst
  cases hsd
  rfl

theorem any_isSlice (h : x ∉ infos.map SNssaiUpfInfo.sNssai) : infos.any (isSlice x.sst x.sd.text) = false := by
  rw [List.any_eq_false]
  intro info hinfo
  rw [not_isSlice (fun he => h (List.mem_map.2 ⟨info, hinfo, he⟩))]
  exact Bool.false_ne_true

theorem node_middle (h : c.upNodes = before ++ (upfName, nd) :: after) :
    c.node upfName = some nd := by
  have hkey : KeyedList.toMap Prod.fst c.upNodes (upfName, nd).1 = some (upfName, nd) :=
    c.nodes_unique.toMap_mem (by rw [h]; simp)
  unfold node
  rw [hkey]
  rfl

theorem setNode_middle (hbefore : upfName ∉ before.map Prod.fst) (h : c.upNodes = before ++ (upfName, old) :: after) (nd : Node) :
    (c.setNode upfName nd).upNodes = before ++ (upfName, nd) :: after := by
  have hnone : KeyedList.toMap Prod.fst before (upfName, nd).1 = none := by
    rw [KeyedList.toMap_eq_none]
    exact fun p hp he => hbefore (List.mem_map.2 ⟨p, hp, he⟩)
  show KeyedList.replace Prod.fst c.upNodes (upfName, nd) = _
  rw [h]
  exact KeyedList.replace_middle hnone rfl

/-- The configuration with other nodes and links. -/
structure Replanned (c : Free5gcCoreConfig) (nodes : List (String × Node)) (links : List Link) (c' : Free5gcCoreConfig) : Prop where
  unique : KeyedList.Unique Prod.fst nodes
  same : c' = { c with upNodes := nodes, links := links, nodes_unique := unique }

theorem Replanned.nodes {c' : Free5gcCoreConfig} (h : Replanned c ns ls c') : c'.upNodes = ns := by
  rw [h.same]

theorem Replanned.linked {c' : Free5gcCoreConfig} (h : Replanned c ns ls c') : c'.links = ls := by
  rw [h.same]

theorem Replanned.trans {c' c'' : Free5gcCoreConfig} (h : Replanned c ns ls c') (h' : Replanned c' ns' ls' c'') : Replanned c ns' ls' c'' := by
  obtain ⟨_, rfl⟩ := h
  obtain ⟨hunique, rfl⟩ := h'
  exact ⟨hunique, rfl⟩

theorem replanned_setNode (hbefore : upfName ∉ before.map Prod.fst) (h : c.upNodes = before ++ (upfName, old) :: after) (nd : Node) :
    Replanned c (before ++ (upfName, nd) :: after) c.links (c.setNode upfName nd) := by
  have hnodes := setNode_middle hbefore h nd
  refine ⟨hnodes ▸ (c.setNode upfName nd).nodes_unique, ?_⟩
  show ({ c with upNodes := _, nodes_unique := _ } : Free5gcCoreConfig) = _
  congr

/-- The slice is the last one that the UPF lists. -/
theorem addDnnUpfInfoListSmf_listed (gnbName cidr : String) (hbefore : upfName ∉ before.map Prod.fst)
    (h : c.upNodes = before ++ (upfName, upfNode upfIp upfN3Ip (infos ++ [⟨x, had⟩]) instances) :: after)
    (hx : x ∉ infos.map SNssaiUpfInfo.sNssai) (hdnn : dnn ∉ had.map DnnUpfInfoListItem.dnn) : ∃ c',
    (addDnnUpfInfoListSmf gnbName upfName upfIp upfN3Ip x.sst x.sd.text dnn cidr (n + 1)).run c = .ok () c' ∧
      Replanned c (before ++ (upfName, upfNode upfIp upfN3Ip (infos ++ [⟨x, had ++ [⟨dnn, [⟨cidr⟩]⟩]⟩]) (instances ++ [dnn])) :: after)
        c.links c' := by
  have hany := any_isSlice hx
  have hfind : (infos ++ [(⟨x, had⟩ : SNssaiUpfInfo)]).find? (isSlice x.sst x.sd.text) = some ⟨x, had⟩ := by
    rw [List.find?_append, List.find?_eq_none.2 (List.any_eq_false.1 hany), Option.none_or]
    exact List.find?_cons_of_pos (isSlice_self x had)
  have hhad : had.any (fun item => decide (item.dnn = dnn)) = false := by
    rw [List.any_eq_false]
    exact fun item hitem he => hdnn (List.mem_map.2 ⟨item, hitem, of_decide_eq_true he⟩)
  have hupdate : updateFirst (isSlice x.sst x.sd.text)
      (fun info => { info with dnnUpfInfoList := info.dnnUpfInfoList ++ [⟨dnn, [⟨cidr⟩]⟩] }) (infos ++ [⟨x, had⟩]) =
      some (infos ++ [⟨x, had ++ [⟨dnn, [⟨cidr⟩]⟩]⟩]) := by
    refine updateFirst_append ?_ (isSlice_self x had)
    rw [updateFirst_eq_none]
    exact fun info hinfo => Bool.eq_false_iff.2 (List.any_eq_false.1 hany info hinfo)
  refine ⟨_, retrying_found ?_, replanned_setNode hbefore h _⟩
  rw [findDnnUpfInfo_upf (node_middle h)]
  unfold addDnnToUpf
  rw [hfind]
  simp only [hhad, Bool.false_eq_true, if_false, hupdate]
  rfl

/-- The UPF is there and does not list the slice. -/
theorem addDnnUpfInfoListSmf_unlisted (hbefore : upfName ∉ before.map Prod.fst)
    (h : c.upNodes = before ++ (upfName, upfNode upfIp upfN3Ip infos instances) :: after) (hx : x ∉ infos.map SNssaiUpfInfo.sNssai) : ∃ c',
    (addDnnUpfInfoListSmf gnbName upfName upfIp upfN3Ip x.sst x.sd.text dnn cidr (n + 2)).run c = .ok () c' ∧
      Replanned c (before ++ (upfName, upfNode upfIp upfN3Ip (infos ++ [⟨x, [⟨dnn, [⟨cidr⟩]⟩]⟩]) (instances ++ [dnn])) :: after) c.links c' := by
  have hnode := node_middle h
  have hslice : (addSnssaiUpfInfosSmf gnbName upfName upfIp upfN3Ip x.sst x.sd.text (n + 1)).run c =
      .ok () (c.setNode upfName (upfNode upfIp upfN3Ip (infos ++ [⟨x, []⟩]) instances)) :=
    retrying_found (findSnssaiUpfInfo_new hnode (any_isSlice hx) (check_text x.sd))
  have hnot : (findDnnUpfInfo upfName x.sst x.sd.text dnn cidr).run c = .ok false c := by
    refine findDnnUpfInfo_unlisted (by rw [hnode]; exact fun hbad => (nomatch hbad)) ?_
    intro upf hupf info hinfo
    cases hnode.symm.trans hupf
    exact Bool.eq_false_iff.2 (List.any_eq_false.1 (any_isSlice hx) info hinfo)
  have hset := replanned_setNode hbefore h (upfNode upfIp upfN3Ip (infos ++ [⟨x, []⟩]) instances)
  obtain ⟨c', hrun, hlast⟩ := addDnnUpfInfoListSmf_listed (n := n) gnbName cidr hbefore
    hset.nodes hx (List.not_mem_nil (a := dnn))
  refine ⟨c', (retrying_creates hnot hslice).trans hrun, ?_⟩
  have hall := hset.trans hlast
  rw [hset.linked] at hall
  exact hall

theorem toMap_nodes_none {name : String} (h : name ∉ c.upNodes.map Prod.fst) : KeyedList.toMap Prod.fst c.upNodes name = none := by
  rw [KeyedList.toMap_eq_none]
  exact fun p hp he => h (List.mem_map.2 ⟨p, hp, he⟩)

theorem replanned_addNode {name : String} (h : name ∉ c.upNodes.map Prod.fst) (nd : Node) :
    Replanned c (c.upNodes ++ [(name, nd)]) c.links (addNodeSmfTopology name nd c) := by
  refine ⟨c.nodes_unique.append (toMap_nodes_none h), ?_⟩
  unfold addNodeSmfTopology
  rw [dif_pos (toMap_nodes_none h)]

theorem replanned_addLink {upfName : String} (gnbName : String) (h : ∀ link ∈ c.links, link.a ≠ upfName) :
    Replanned c c.upNodes (c.links ++ [⟨gnbName, upfName⟩]) (addLinkSmf upfName gnbName c) := by
  refine ⟨c.nodes_unique, ?_⟩
  have hany : c.links.any (fun link => decide (link.a = upfName ∧ link.b = gnbName)) = false := by
    rw [List.any_eq_false]
    exact fun link hlink htest => h link hlink (of_decide_eq_true htest).1
  unfold addLinkSmf
  rw [hany]
  rfl

theorem addNodes_new (upfIp upfN3Ip : String) (hupf : upfName ∉ c.upNodes.map Prod.fst) (hgnb : gnbName ∉ c.upNodes.map Prod.fst) (hne : gnbName ≠ upfName)
    (hlink : ∀ link ∈ c.links, link.a ≠ upfName) :
    Replanned c (c.upNodes ++ (upfName, upfNode upfIp upfN3Ip [] []) :: [(gnbName, .gnb)]) (c.links ++ [⟨gnbName, upfName⟩])
      (addLinkSmf upfName gnbName (addGnbSmf gnbName (addUpfSmf upfName upfIp upfN3Ip c))) := by
  have hfirst : Replanned c _ _ (addUpfSmf upfName upfIp upfN3Ip c) := replanned_addNode hupf (upfNode upfIp upfN3Ip [] [])
  have hgnb' : gnbName ∉ (addUpfSmf upfName upfIp upfN3Ip c).upNodes.map Prod.fst := by
    rw [hfirst.nodes, List.map_append, List.mem_append, not_or]
    exact ⟨hgnb, by simpa using hne⟩
  have hsecond := hfirst.trans (replanned_addNode hgnb' .gnb)
  have hlink' : ∀ link ∈ (addGnbSmf gnbName (addUpfSmf upfName upfIp upfN3Ip c)).links, link.a ≠ upfName := by
    intro link hin
    refine hlink link ?_
    rw [hfirst.linked, ← hsecond.linked] at *
    exact hin
  have hall := hsecond.trans (replanned_addLink gnbName hlink')
  rw [hsecond.nodes, hsecond.linked, hfirst.nodes, hfirst.linked, List.append_assoc] at hall
  exact hall

/-- The area has no UPF yet. -/
theorem addDnnUpfInfoListSmf_new (hupf : upfName ∉ c.upNodes.map Prod.fst) (hgnb : gnbName ∉ c.upNodes.map Prod.fst) (hne : gnbName ≠ upfName)
    (hlink : ∀ link ∈ c.links, link.a ≠ upfName) : ∃ c',
    (addDnnUpfInfoListSmf gnbName upfName upfIp upfN3Ip x.sst x.sd.text dnn cidr (n + 3)).run c = .ok () c' ∧
      Replanned c (c.upNodes ++ [(upfName, upfNode upfIp upfN3Ip [⟨x, [⟨dnn, [⟨cidr⟩]⟩]⟩] [dnn]), (gnbName, .gnb)])
        (c.links ++ [⟨gnbName, upfName⟩]) c' := by
  have hnone := node_eq_none.2 (toMap_nodes_none hupf)
  have hadded := addNodes_new upfIp upfN3Ip hupf hgnb hne hlink
  have hnode := node_middle hadded.nodes
  have hslice : (addSnssaiUpfInfosSmf gnbName upfName upfIp upfN3Ip x.sst x.sd.text (n + 2)).run c = .ok () _ :=
    (retrying_creates (findSnssaiUpfInfo_none hnone) addNodes_run).trans
      (retrying_found (findSnssaiUpfInfo_new hnode (any_isSlice List.not_mem_nil) (check_text x.sd)))
  have hset := replanned_setNode hupf hadded.nodes (upfNode upfIp upfN3Ip ([] ++ [⟨x, []⟩]) [])
  obtain ⟨c', hrun, hlast⟩ := addDnnUpfInfoListSmf_listed (n := n + 1) gnbName cidr hupf
    hset.nodes List.not_mem_nil (List.not_mem_nil (a := dnn))
  refine ⟨c', (retrying_creates (findDnnUpfInfo_none hnone) hslice).trans hrun, ?_⟩
  have hall := (hadded.trans hset).trans hlast
  rw [hset.linked, hadded.linked] at hall
  exact hall

end UserPlane

end Free5gcCoreConfig

end Nfvcl
