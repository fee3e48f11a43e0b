import Mathlib.Data.List.Basic
import Mathlib.Data.List.Nodup
import Std.Data.String.ToInt
import Nfvcl.Free5gcRuns
import Nfvcl.OaiCoreValues

namespace Nfvcl
set_option autoImplicit true
open Effects ListUpdates Free5gc

namespace Free5gcCore
open Free5gcCoreConfig (upfNode)

/-! ### What the loops are to list -/

structure PlannedDnn where
  name : String
  dns : String
  cidr : String
  deriving DecidableEq

structure PlannedSlice where
  snssai : Free5gc.Snssai
  dnns : List PlannedDnn
  deriving DecidableEq

/-- An area with the addresses of its UPF. -/
structure PlannedArea where
  id : Int
  tac : Code
  n4 : String
  n3 : String
  slices : List PlannedSlice
  deriving DecidableEq

def PlannedSlice.info (p : PlannedSlice) : SnssaiInfo :=
  ⟨p.snssai, p.dnns.map (fun d => ⟨d.name, d.dns, none⟩)⟩

def PlannedSlice.upfInfo (p : PlannedSlice) : SNssaiUpfInfo :=
  ⟨p.snssai, p.dnns.map (fun d => ⟨d.name, [⟨d.cidr⟩]⟩)⟩

def withDnns (slices : List PlannedSlice) : List PlannedSlice :=
  slices.filter (fun p => decide (p.dnns ≠ []))

namespace PlannedArea

def upf (a : PlannedArea) : Node :=
  upfNode a.n4 a.n3 ((withDnns a.slices).map PlannedSlice.upfInfo) (a.slices.flatMap (fun p => p.dnns.map PlannedDnn.name))

def nodes (a : PlannedArea) : List (String × Node) :=
  if withDnns a.slices = [] then [] else [(upfName a.id, a.upf), (gnbName a.id, .gnb)]

def links (a : PlannedArea) : List Link :=
  if withDnns a.slices = [] then [] else [⟨gnbName a.id, upfName a.id⟩]

def tas (plmn : PlmnId) (a : PlannedArea) : List TaiItem :=
  if a.slices = [] then [] else [⟨⟨plmn, a.tac⟩, a.slices.map PlannedSlice.snssai⟩]

end PlannedArea

def slicesOf (plan : List PlannedArea) : List PlannedSlice :=
  plan.flatMap PlannedArea.slices

def snssais (plan : List PlannedArea) : List Free5gc.Snssai :=
  (slicesOf plan).map PlannedSlice.snssai

def plmnItems (plmn : PlmnId) (xs : List Free5gc.Snssai) : List PlmnItem :=
  if xs = [] then [] else [⟨plmn, xs⟩]

/-- The values list what is planned; the numbers are the next ids. -/
structure Listed (plmn : PlmnId) (nsi amfSet : Nat) (plan : List PlannedArea) (v : Free5gcCoreConfig) : Prop where
  supportTaiList : v.supportTaiList = plan.map (fun a => ⟨plmn, a.tac⟩)
  plmnSupportList : v.plmnSupportList = plmnItems plmn (snssais plan)
  supportedNssaiInPlmnList : v.supportedNssaiInPlmnList = plmnItems plmn (snssais plan)
  nsiList : v.nsiList.map NsiListItem.snssai = snssais plan
  nsiIds : (v.nsiList.map NsiListItem.nsiId).Nodup
  nsiBound : ∀ item ∈ v.nsiList, item.nsiId < nsi
  amfSetBound : ∀ item ∈ v.amfSetList, item.amfSetId < amfSet
  taList : v.taList = plan.flatMap (PlannedArea.tas plmn)
  snssaiInfos : v.snssaiInfos = (withDnns (slicesOf plan)).map PlannedSlice.info
  upNodes : v.upNodes = plan.flatMap PlannedArea.nodes
  links : v.links = plan.flatMap PlannedArea.links
  distinct : (snssais plan).Nodup
  ids : (plan.map PlannedArea.id).Nodup
  tacs : (plan.map PlannedArea.tac).Nodup

/-- The plan while the slices of an area are listed. -/
def upTo (done : List PlannedArea) (a : PlannedArea) (sl : List PlannedSlice) : List PlannedArea :=
  done ++ [{ a with slices := sl }]

section Parts

variable {plan done : List PlannedArea} {a : PlannedArea} {sl : List PlannedSlice} {p : PlannedSlice} {plmn : PlmnId}

theorem slicesOf_upTo : slicesOf (upTo done a sl) = slicesOf done ++ sl := by
  simp [slicesOf, upTo]

theorem snssais_upTo : snssais (upTo done a sl) = snssais done ++ sl.map PlannedSlice.snssai := by
  rw [snssais, slicesOf_upTo, List.map_append, snssais]

theorem withDnns_append (xs : List PlannedSlice) (p : PlannedSlice) :
    withDnns (xs ++ [p]) = withDnns xs ++ if p.dnns = [] then [] else [p] := by
  unfold withDnns
  rw [List.filter_append]
  by_cases h : p.dnns = []
  · simp [h]
  · simp [h]

theorem map_upTo (f : PlannedArea → β) (h : ∀ sl sl', f { a with slices := sl } = f { a with slices := sl' }) :
    (upTo done a sl).map f = (upTo done a sl').map f := by
  rw [upTo, upTo, List.map_append, List.map_append, List.map_singleton, List.map_singleton, h]

theorem flatMap_upTo (f : PlannedArea → List β) :
    (upTo done a sl).flatMap f = done.flatMap f ++ f { a with slices := sl } := by
  simp [upTo]

theorem plmnItems_append (h : x ∉ xs) : growFirst (fun item : PlmnItem => decide (item.plmnId = plmn))
    (fun item => { item with snssaiList := appendNew item.snssaiList x }) ⟨plmn, [x]⟩ (plmnItems plmn xs) = plmnItems plmn (xs ++ [x]) := by
  unfold plmnItems
  rw [if_neg (List.append_ne_nil_of_right_ne_nil _ (List.cons_ne_nil _ _))]
  split
  · rename_i hnil
    rw [hnil]
    rfl
  · rw [growFirst, if_pos (decide_eq_true rfl), appendNew_of_not_mem h]

theorem plmnItems_lacking (h : x ∉ xs) : growFirst (fun item : PlmnItem => decide (item.plmnId = plmn ∧ x ∉ item.snssaiList))
    (fun item => { item with snssaiList := item.snssaiList ++ [x] }) ⟨plmn, [x]⟩ (plmnItems plmn xs) = plmnItems plmn (xs ++ [x]) := by
  unfold plmnItems
  rw [if_neg (List.append_ne_nil_of_right_ne_nil _ (List.cons_ne_nil _ _))]
  split
  · rename_i hnil
    rw [hnil]
    rfl
  · rw [growFirst, if_pos (decide_eq_true ⟨rfl, h⟩)]

theorem mem_plmnItems {item : PlmnItem} (h : item ∈ plmnItems plmn xs) : item.snssaiList = xs := by
  unfold plmnItems at h
  split at h
  · cases h
  · rw [List.mem_singleton.1 h]

end Parts

/-! ### One more area, slice or DNN -/

section Steps

variable {plan done : List PlannedArea} {a : PlannedArea} {sl : List PlannedSlice} {mcc mnc : String} {k j n : Nat}
  {x : Free5gc.Snssai} {v : Free5gcCoreConfig}

theorem Listed.addArea (h : Listed ⟨mcc, mnc⟩ k j plan v) (hid : a.id ∉ plan.map PlannedArea.id) (htac : a.tac ∉ plan.map PlannedArea.tac)
    (hslices : a.slices = []) : ∃ v', (Free5gcCoreConfig.addItemAmfSupportTaiList mcc mnc a.tac.text).run v = .ok () v' ∧
      Listed ⟨mcc, mnc⟩ k j (plan ++ [a]) v' := by
  have hnew : (⟨⟨mcc, mnc⟩, a.tac⟩ : Tai) ∉ v.supportTaiList := by
    rw [h.supportTaiList]
    intro hmem
    obtain ⟨b, hb, he⟩ := List.mem_map.1 hmem
    exact htac (List.mem_map.2 ⟨b, hb, congrArg Tai.tac he⟩)
  have hsnssais : snssais (plan ++ [a]) = snssais plan := by
    simp [snssais, slicesOf, hslices]
  have hnodes : a.nodes = [] := by simp [PlannedArea.nodes, hslices, withDnns]
  have hlinks : a.links = [] := by simp [PlannedArea.links, hslices, withDnns]
  have htas : a.tas ⟨mcc, mnc⟩ = [] := by simp [PlannedArea.tas, hslices]
  refine ⟨{ v with supportTaiList := appendNew v.supportTaiList ⟨⟨mcc, mnc⟩, a.tac⟩ }, ?_, ?_⟩
  · unfold Free5gcCoreConfig.addItemAmfSupportTaiList
    rw [run_bind_ok _ _ (Free5gcCoreConfig.lift_ok (make_tai _ _))]
    rfl
  · exact
      { supportTaiList := by rw [appendNew_of_not_mem hnew, h.supportTaiList, List.map_append]; rfl
        plmnSupportList := by rw [hsnssais]; exact h.plmnSupportList
        supportedNssaiInPlmnList := by rw [hsnssais]; exact h.supportedNssaiInPlmnList
        nsiList := by rw [hsnssais]; exact h.nsiList
        nsiIds := h.nsiIds
        nsiBound := h.nsiBound
        amfSetBound := h.amfSetBound
        taList := by rw [List.flatMap_append, List.flatMap_singleton, htas, List.append_nil]; exact h.taList
        snssaiInfos := by rw [slicesOf, List.flatMap_append, List.flatMap_singleton, hslices, List.append_nil]; exact h.snssaiInfos
        upNodes := by rw [List.flatMap_append, List.flatMap_singleton, hnodes, List.append_nil]; exact h.upNodes
        links := by rw [List.flatMap_append, List.flatMap_singleton, hlinks, List.append_nil]; exact h.links
        distinct := by rw [hsnssais]; exact h.distinct
        ids := by
          rw [List.map_append]
          exact (OpenAirInterface.nodup_append_singleton_iff h.ids).2 hid
        tacs := by
          rw [List.map_append]
          exact (OpenAirInterface.nodup_append_singleton_iff h.tacs).2 htac }

/-- The tracking areas listed before are other ones. -/
theorem Listed.not_tac (h : Listed plmn k j (upTo done a sl) v) : ∀ el ∈ done.flatMap (PlannedArea.tas plmn), el.tai.tac ≠ a.tac := by
  intro el hel he
  obtain ⟨b, hb, hin⟩ := List.mem_flatMap.1 hel
  have htac : el.tai.tac = b.tac := by
    unfold PlannedArea.tas at hin
    split at hin
    · cases hin
    · rw [List.mem_singleton.1 hin]
  have hnodup := h.tacs
  rw [upTo, List.map_append] at hnodup
  exact (List.nodup_append.1 hnodup).2.2 b.tac (List.mem_map.2 ⟨b, hb, rfl⟩) a.tac (List.mem_singleton_self _) (htac ▸ he)

theorem taList_growFirst (hbefore : ∀ el ∈ before, el.tai.tac ≠ a.tac) (hx : x ∉ sl.map PlannedSlice.snssai) :
    growFirst (fun el : TaiItem => decide (el.tai.tac.text = a.tac.text ∧ x ∉ el.supportedSnssaiList)) (Free5gcCoreConfig.TaiItem.addSnssai x)
      ⟨⟨plmn, a.tac⟩, [x]⟩ (before ++ PlannedArea.tas plmn { a with slices := sl }) =
      before ++ PlannedArea.tas plmn { a with slices := sl ++ [⟨x, []⟩] } := by
  have hnot : ∀ el ∈ before, (fun el : TaiItem => decide (el.tai.tac.text = a.tac.text ∧ x ∉ el.supportedSnssaiList)) el = false := by
    intro el hel
    refine decide_eq_false fun htest => hbefore el hel ?_
    obtain ⟨⟨p, tac, hcode⟩, l⟩ := el
    obtain ⟨id, ⟨text, hcode'⟩, n4, n3, slices⟩ := a
    obtain rfl : tac = text := htest.1
    rfl
  unfold PlannedArea.tas
  rw [if_neg (List.append_ne_nil_of_right_ne_nil sl (List.cons_ne_nil _ _))]
  split
  · rename_i hnil
    change sl = [] at hnil
    rw [List.append_nil, growFirst_of_none hnot, hnil]
    rfl
  · rw [growFirst_append hnot (decide_eq_true ⟨rfl, hx⟩)]
    simp [Free5gcCoreConfig.TaiItem.addSnssai]

theorem nodes_addSlice (a : PlannedArea) (sl : List PlannedSlice) (x : Free5gc.Snssai) :
    PlannedArea.nodes { a with slices := sl ++ [⟨x, []⟩] } = PlannedArea.nodes { a with slices := sl } := by
  simp [PlannedArea.nodes, PlannedArea.upf, withDnns]

theorem links_addSlice (a : PlannedArea) (sl : List PlannedSlice) (x : Free5gc.Snssai) :
    PlannedArea.links { a with slices := sl ++ [⟨x, []⟩] } = PlannedArea.links { a with slices := sl } := by
  simp [PlannedArea.links, withDnns]

/-- The values with a slice in each of the lists of slices. -/
def withSlice (mcc mnc : String) (tac : Code) (x : Free5gc.Snssai) (k j : Nat) (v : Free5gcCoreConfig) : Free5gcCoreConfig :=
  Free5gcCoreConfig.withTaSlice mcc mnc x tac (Free5gcCoreConfig.withAmfSet mcc mnc x tac j (Free5gcCoreConfig.withNsi x k
    (Free5gcCoreConfig.withSupportedSlice mcc mnc x (Free5gcCoreConfig.withPlmnSlice mcc mnc x v))))

theorem Listed.addSlice (h : Listed ⟨mcc, mnc⟩ k j (upTo done a sl) v) (hx : x ∉ snssais (upTo done a sl)) :
    Listed ⟨mcc, mnc⟩ (k + 1) (j + 1) (upTo done a (sl ++ [⟨x, []⟩])) (withSlice mcc mnc a.tac x k j v) := by
  have hsnssais : snssais (upTo done a (sl ++ [⟨x, []⟩])) = snssais (upTo done a sl) ++ [x] := by
    rw [snssais_upTo, snssais_upTo, List.map_append, List.append_assoc, List.map_singleton]
  have hx' : x ∉ sl.map PlannedSlice.snssai := by
    rw [snssais_upTo, List.mem_append, not_or] at hx
    exact hx.2
  have hnext : k ∉ v.nsiList.map NsiListItem.nsiId := by
    intro hmem
    obtain ⟨item, hitem, he⟩ := List.mem_map.1 hmem
    exact Nat.lt_irrefl k (he ▸ h.nsiBound item hitem)
  exact
    { supportTaiList := h.supportTaiList.trans (map_upTo _ (fun _ _ => rfl))
      plmnSupportList := by
        rw [hsnssais, ← plmnItems_append hx, ← h.plmnSupportList]
        rfl
      supportedNssaiInPlmnList := by
        rw [hsnssais, ← plmnItems_lacking hx, ← h.supportedNssaiInPlmnList]
        rfl
      nsiList := by
        rw [hsnssais, ← h.nsiList]
        exact List.map_append
      nsiIds := by
        show ((v.nsiList ++ [_]).map NsiListItem.nsiId).Nodup
        rw [List.map_append]
        exact (OpenAirInterface.nodup_append_singleton_iff h.nsiIds).2 hnext
      nsiBound := by
        intro item hitem
        rcases List.mem_append.1 hitem with hitem | hitem
        · exact Nat.lt_succ_of_lt (h.nsiBound item hitem)
        · rw [List.mem_singleton.1 hitem]
          exact Nat.lt_succ_self k
      amfSetBound := by
        intro item hitem
        rcases List.mem_append.1 hitem with hitem | hitem
        · exact Nat.lt_succ_of_lt (h.amfSetBound item hitem)
        · rw [List.mem_singleton.1 hitem]
          exact Nat.lt_succ_self j
      taList := by
        rw [flatMap_upTo, ← taList_growFirst h.not_tac hx', ← flatMap_upTo, ← h.taList]
        rfl
      snssaiInfos := by
        rw [slicesOf_upTo, ← List.append_assoc, withDnns_append, if_pos rfl, List.append_nil, ← slicesOf_upTo (a := a)]
        exact h.snssaiInfos
      upNodes := by
        rw [flatMap_upTo, nodes_addSlice, ← flatMap_upTo]
        exact h.upNodes
      links := by
        rw [flatMap_upTo, links_addSlice, ← flatMap_upTo]
        exact h.links
      distinct := by
        rw [hsnssais]
        exact (OpenAirInterface.nodup_append_singleton_iff h.distinct).2 hx
      ids := by
        rw [map_upTo PlannedArea.id (fun _ _ => rfl)]
        exact h.ids
      tacs := by
        rw [map_upTo PlannedArea.tac (fun _ _ => rfl)]
        exact h.tacs }

/-- The loop has listed what is planned. -/
structure Matches (edge : List EdgeAreaInfo) (mcc mnc : String) (plan : List PlannedArea) (s : Free5gcState) : Prop where
  edgeAreas : s.edgeAreas = edge
  plmn : s.mcc = mcc ∧ s.mnc = mnc
  listed : Listed ⟨mcc, mnc⟩ s.nsiNssfId s.supportedNssaiAvailabilityNssfId plan s.values

def setValues (v : Free5gcCoreConfig) (s : Free5gcState) : Free5gcState :=
  { s with values := v }

theorem onValues_run_ok {m : Free5gcCoreConfig.ConfigM α} {s : Free5gcState} (h : m.run s.values = .ok r v) :
    (onValues m).run s = .ok r (setValues v s) := by
  rw [onValues, run_zoom, h]
  rfl

theorem onValues_run_error {m : Free5gcCoreConfig.ConfigM α} {s : Free5gcState} (h : m.run s.values = .error e v) :
    (onValues m).run s = .error e (setValues v s) := by
  rw [onValues, run_zoom, h]
  rfl

theorem not_mem_tas (h : Listed ⟨mcc, mnc⟩ k j plan v) (hx : x ∉ snssais plan) : ∀ el ∈ v.taList, x ∉ el.supportedSnssaiList := by
  intro el hel hmem
  rw [h.taList] at hel
  obtain ⟨b, hb, hin⟩ := List.mem_flatMap.1 hel
  unfold PlannedArea.tas at hin
  split at hin
  · cases hin
  · rw [List.mem_singleton.1 hin] at hmem
    obtain ⟨p, hp, hsame⟩ := List.mem_map.1 hmem
    exact hx (List.mem_map.2 ⟨p, List.mem_flatMap.2 ⟨b, hb, hp⟩, hsame⟩)

/-- The slice goes into the lists if it is not in them. -/
theorem addSliceItems_meets {s : Free5gcState} (h : Matches edge mcc mnc (upTo done a sl) s) (hsst : (slice.sliceType.toInt : Int) = x.sst)
    (hsd : slice.sliceId = x.sd.text) (htac : tacOf a.id = a.tac.text) :
    Meets (addSliceItems (n + 3) a.id slice x) s
      (fun _ s' => x ∉ snssais (upTo done a sl) ∧ Matches edge mcc mnc (upTo done a (sl ++ [⟨x, []⟩])) s')
      (fun _ _ => x ∈ snssais (upTo done a sl)) := by
  obtain ⟨hedge, ⟨rfl, rfl⟩, hlisted⟩ := h
  unfold addSliceItems
  rw [hsst, hsd, htac, meets_bind, meets_get, meets_bind]
  apply meets_of_ok (onValues_run_ok Free5gcCoreConfig.addPlmnAmfItem_run)
  rw [meets_bind]
  by_cases hx : x ∈ snssais (upTo done a sl)
  · have hitems : s.values.supportedNssaiInPlmnList = [⟨⟨s.mcc, s.mnc⟩, snssais (upTo done a sl)⟩] := by
      rw [hlisted.supportedNssaiInPlmnList, plmnItems, if_neg (List.ne_nil_of_mem hx)]
    refine meets_of_error (onValues_run_error (Free5gcCoreConfig.addSupportedSnssaiListItemNssf_stuck ?_ hx _)) hx
    exact hitems
  · have hlacks : ∀ item ∈ s.values.supportedNssaiInPlmnList, item.plmnId = ⟨s.mcc, s.mnc⟩ → x ∉ item.snssaiList := by
      intro item hitem _
      rw [mem_plmnItems (hlisted.supportedNssaiInPlmnList ▸ hitem)]
      exact hx
    have hnsi : x ∉ s.values.nsiList.map NsiListItem.snssai := by
      rw [hlisted.nsiList]
      exact hx
    have hset : ∀ item ∈ s.values.amfSetList, item.amfSetId ≠ s.supportedNssaiAvailabilityNssfId :=
      fun item hitem => Nat.ne_of_lt (hlisted.amfSetBound item hitem)
    have htas := not_mem_tas hlisted hx
    have hadded := hlisted.addSlice hx
    refine meets_of_ok (onValues_run_ok (Free5gcCoreConfig.addSupportedSnssaiListItemNssf_run ?_)) ?_
    · exact hlacks
    rw [meets_bind]
    refine meets_of_ok (onValues_run_ok (Free5gcCoreConfig.addNsiListItemNssf_run ?_ _)) ?_
    · exact hnsi
    rw [meets_bind, meets_modify, meets_bind]
    refine meets_of_ok (onValues_run_ok (Free5gcCoreConfig.addSupportedNssaiNssf_run ?_)) ?_
    · exact hset
    rw [meets_bind, meets_modify]
    refine meets_of_ok (onValues_run_ok (Free5gcCoreConfig.addTaiSupportedSnssaiListNssfItem_run ?_)) ?_
    · exact htas
    exact ⟨hx, hedge, ⟨rfl, rfl⟩, hadded⟩

/-! ### The names of the nodes -/

theorem gnbName_injective : Function.Injective gnbName := by
  intro a b h
  have hlist := congrArg String.toList h
  simp only [gnbName, String.toList_append] at hlist
  exact Int.repr_injective (String.toList_injective (List.append_cancel_left hlist))

theorem upfName_injective : Function.Injective upfName := by
  intro a b h
  have hlist := congrArg String.toList h
  simp only [upfName, String.toList_append] at hlist
  exact Int.repr_injective (String.toList_injective (List.append_cancel_left hlist))

theorem gnbName_ne_upfName (a b : Int) : gnbName a ≠ upfName b := by
  intro h
  have hlist := congrArg (fun text => text.toList.head?) h
  simp only [gnbName, upfName, String.toList_append, List.head?_append] at hlist
  have hchar : some 'g' = some 'U' := hlist
  exact absurd hchar (by decide)

theorem Listed.other_ids (h : Listed plmn k j (upTo done a sl) v) : ∀ b ∈ done, b.id ≠ a.id := by
  intro b hb he
  have hnodup := h.ids
  rw [upTo, List.map_append] at hnodup
  exact (List.nodup_append.1 hnodup).2.2 b.id (List.mem_map.2 ⟨b, hb, rfl⟩) a.id (List.mem_singleton_self _) he

theorem mem_nodes (h : name ∈ (plan.flatMap PlannedArea.nodes).map Prod.fst) : ∃ b ∈ plan, name = upfName b.id ∨ name = gnbName b.id := by
  obtain ⟨p, hp, rfl⟩ := List.mem_map.1 h
  obtain ⟨b, hb, hin⟩ := List.mem_flatMap.1 hp
  unfold PlannedArea.nodes at hin
  split at hin
  · cases hin
  · refine ⟨b, hb, ?_⟩
    rcases List.mem_cons.1 hin with rfl | hin
    · exact .inl rfl
    · rw [List.mem_singleton.1 hin]
      exact .inr rfl

theorem upfName_not_mem (hother : ∀ b ∈ done, b.id ≠ a.id) : upfName a.id ∉ (done.flatMap PlannedArea.nodes).map Prod.fst := by
  intro h
  obtain ⟨b, hb, he | he⟩ := mem_nodes h
  · exact hother b hb (upfName_injective he).symm
  · exact gnbName_ne_upfName b.id a.id he.symm

theorem gnbName_not_mem (hother : ∀ b ∈ done, b.id ≠ a.id) : gnbName a.id ∉ (done.flatMap PlannedArea.nodes).map Prod.fst := by
  intro h
  obtain ⟨b, hb, he | he⟩ := mem_nodes h
  · exact gnbName_ne_upfName a.id b.id he
  · exact hother b hb (gnbName_injective he).symm

theorem links_not_upf : ∀ link ∈ plan.flatMap PlannedArea.links, link.a ≠ upfName areaId := by
  intro link hlink he
  obtain ⟨b, -, hin⟩ := List.mem_flatMap.1 hlink
  unfold PlannedArea.links at hin
  split at hin
  · cases hin
  · rw [List.mem_singleton.1 hin] at he
    exact gnbName_ne_upfName _ _ he

/-! ### A DNN of the last slice -/

variable {ds : List PlannedDnn} {d : PlannedDnn}

theorem Listed.not_before (h : Listed plmn k j (upTo done a (sl ++ [⟨x, ds⟩])) v) : x ∉ (slicesOf done ++ sl).map PlannedSlice.snssai := by
  have hnodup := h.distinct
  rw [snssais, slicesOf_upTo, ← List.append_assoc, List.map_append] at hnodup
  intro hmem
  exact (List.nodup_append.1 hnodup).2.2 x hmem x (List.mem_singleton_self _) rfl

theorem infos_growFirst {before : List PlannedSlice} (hx : x ∉ before.map PlannedSlice.snssai) (hd : d.name ∉ ds.map PlannedDnn.name) :
    growFirst (fun item : SnssaiInfo => decide (item.sNssai = x))
      (fun item => { item with dnnInfos := appendNew item.dnnInfos ⟨d.name, d.dns, none⟩ }) ⟨x, [⟨d.name, d.dns, none⟩]⟩
      ((withDnns (before ++ [⟨x, ds⟩])).map PlannedSlice.info) = (withDnns (before ++ [⟨x, ds ++ [d]⟩])).map PlannedSlice.info := by
  have hnot : ∀ item ∈ (withDnns before).map PlannedSlice.info, (fun item : SnssaiInfo => decide (item.sNssai = x)) item = false := by
    intro item hitem
    obtain ⟨p, hp, rfl⟩ := List.mem_map.1 hitem
    exact decide_eq_false fun he => hx (List.mem_map.2 ⟨p, (List.mem_filter.1 hp).1, he⟩)
  have hnew : (⟨d.name, d.dns, none⟩ : DnnInfo) ∉ ds.map (fun d => ⟨d.name, d.dns, none⟩) := by
    intro hmem
    obtain ⟨d', hd', he⟩ := List.mem_map.1 hmem
    exact hd (List.mem_map.2 ⟨d', hd', congrArg DnnInfo.dnn he⟩)
  rw [withDnns_append, withDnns_append, if_neg (List.append_ne_nil_of_right_ne_nil ds (List.cons_ne_nil _ _)), List.map_append, List.map_append]
  by_cases hds : ds = []
  · rw [if_pos hds, List.map_nil, List.append_nil, growFirst_of_none hnot, hds]
    rfl
  · rw [if_neg hds, List.map_singleton, growFirst_append hnot (decide_eq_true rfl), List.map_singleton]
    simp only [PlannedSlice.info, appendNew_of_not_mem hnew, List.map_append, List.map_singleton]

theorem withDnns_eq_nil {slices : List PlannedSlice} (h : withDnns slices = []) : slices.flatMap (fun p => p.dnns.map PlannedDnn.name) = [] := by
  rw [List.flatMap_eq_nil_iff]
  intro p hp
  have hempty := List.filter_eq_nil_iff.1 h p hp
  rw [List.map_eq_nil_iff]
  by_contra hne
  exact hempty (decide_eq_true hne)

theorem nodes_served (h : withDnns sl ≠ []) : PlannedArea.nodes { a with slices := sl } =
    [(upfName a.id, PlannedArea.upf { a with slices := sl }), (gnbName a.id, .gnb)] :=
  if_neg h

theorem links_served (h : withDnns sl ≠ []) : PlannedArea.links { a with slices := sl } = [⟨gnbName a.id, upfName a.id⟩] :=
  if_neg h

theorem withDnns_added : withDnns (sl ++ [⟨x, ds ++ [d]⟩]) = withDnns sl ++ [⟨x, ds ++ [d]⟩] := by
  rw [withDnns_append, if_neg (List.append_ne_nil_of_right_ne_nil ds (List.cons_ne_nil _ _))]

theorem upf_added : PlannedArea.upf { a with slices := sl ++ [⟨x, ds ++ [d]⟩] } =
    upfNode a.n4 a.n3 ((withDnns sl).map PlannedSlice.upfInfo ++ [⟨x, ds.map (fun d => ⟨d.name, [⟨d.cidr⟩]⟩) ++ [⟨d.name, [⟨d.cidr⟩]⟩]⟩])
      ((sl.flatMap (fun p => p.dnns.map PlannedDnn.name) ++ ds.map PlannedDnn.name) ++ [d.name]) := by
  unfold PlannedArea.upf
  rw [withDnns_added]
  simp [PlannedSlice.upfInfo]

/-- The user plane after a DNN of the last slice. -/
theorem addDnnUpfInfoListSmf_planned (v' : Free5gcCoreConfig) (h : Listed plmn k j (upTo done a (sl ++ [⟨x, ds⟩])) v) (hd : d.name ∉ ds.map PlannedDnn.name)
    (hnodes : v'.upNodes = v.upNodes) (hlinks : v'.links = v.links) : ∃ v'',
    (Free5gcCoreConfig.addDnnUpfInfoListSmf (gnbName a.id) (upfName a.id) a.n4 a.n3 x.sst x.sd.text d.name d.cidr (n + 3)).run v' = .ok () v'' ∧
      Free5gcCoreConfig.Replanned v' ((upTo done a (sl ++ [⟨x, ds ++ [d]⟩])).flatMap PlannedArea.nodes)
        ((upTo done a (sl ++ [⟨x, ds ++ [d]⟩])).flatMap PlannedArea.links) v'' := by
  have hupf := upfName_not_mem h.other_ids
  have hadded : withDnns (sl ++ [⟨x, ds ++ [d]⟩]) ≠ [] := by
    rw [withDnns_added]
    exact List.append_ne_nil_of_right_ne_nil _ (List.cons_ne_nil _ _)
  have hx : x ∉ ((withDnns sl).map PlannedSlice.upfInfo).map SNssaiUpfInfo.sNssai := by
    intro hmem
    obtain ⟨info, hinfo, he⟩ := List.mem_map.1 hmem
    obtain ⟨p, hp, rfl⟩ := List.mem_map.1 hinfo
    exact h.not_before (List.mem_map.2 ⟨p, List.mem_append_right _ (List.mem_filter.1 hp).1, he⟩)
  have hv := hnodes.trans h.upNodes
  have hl := hlinks.trans h.links
  rw [flatMap_upTo] at hv hl
  rw [flatMap_upTo, flatMap_upTo, nodes_served hadded, links_served hadded, upf_added]
  by_cases hds : ds = []
  · subst hds
    by_cases hserved : withDnns sl = []
    · have hempty : withDnns (sl ++ [⟨x, []⟩]) = [] := by
        rw [withDnns_append, hserved]
        rfl
      rw [PlannedArea.nodes, if_pos hempty, List.append_nil] at hv
      rw [PlannedArea.links, if_pos hempty, List.append_nil] at hl
      rw [hserved, withDnns_eq_nil hserved, ← hv, ← hl]
      exact Free5gcCoreConfig.addDnnUpfInfoListSmf_new (hv ▸ hupf) (hv ▸ gnbName_not_mem h.other_ids) (gnbName_ne_upfName _ _)
        (hl ▸ links_not_upf)
    · have hsame : withDnns (sl ++ [⟨x, []⟩]) = withDnns sl := by
        rw [withDnns_append, if_pos rfl, List.append_nil]
      have hne : withDnns (sl ++ [⟨x, []⟩]) ≠ [] := hsame ▸ hserved
      rw [nodes_served hne, PlannedArea.upf, hsame, List.flatMap_append, List.flatMap_singleton] at hv
      rw [links_served hne] at hl
      rw [← hl]
      exact Free5gcCoreConfig.addDnnUpfInfoListSmf_unlisted hupf hv hx
  · have hlisted : withDnns (sl ++ [⟨x, ds⟩]) = withDnns sl ++ [⟨x, ds⟩] := by
      rw [withDnns_append, if_neg hds]
    have hne : withDnns (sl ++ [⟨x, ds⟩]) ≠ [] := by
      rw [hlisted]
      exact List.append_ne_nil_of_right_ne_nil _ (List.cons_ne_nil _ _)
    have hhad : d.name ∉ (ds.map (fun d => (⟨d.name, [⟨d.cidr⟩]⟩ : DnnUpfInfoListItem))).map DnnUpfInfoListItem.dnn := by
      rw [List.map_map]
      exact hd
    rw [nodes_served hne, PlannedArea.upf, hlisted, List.flatMap_append, List.flatMap_singleton, List.map_append] at hv
    rw [links_served hne] at hl
    rw [← hl]
    exact Free5gcCoreConfig.addDnnUpfInfoListSmf_listed _ _ hupf hv hx hhad

end Steps

end Free5gcCore

end Nfvcl
