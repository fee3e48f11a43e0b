import Mathlib.Data.List.Basic
import Mathlib.Data.List.Forall2
import Nfvcl.AddressText
import Nfvcl.EdgeEntries
import Nfvcl.EdgeRecovery
import Nfvcl.Free5gcValues
import Nfvcl.GnbConfigs

namespace Nfvcl
set_option autoImplicit true
open Effects KeyedList
open Free5gc (IsCode)

/-! ### The UPFs of an area -/

def EdgeAreaInfo.upfs (info : EdgeAreaInfo) : List DeployedUPFInfo :=
  (info.upf.map UPFInfo.upfList).getD []

def DeployedUPFInfo.n3 (upf : DeployedUPFInfo) : Option IPv4Address :=
  upf.networkInfo.map UPFNetworkInfo.n3Ip

/-- The UPFs recorded for an area. -/
def upfsOf (edgeAreas : List EdgeAreaInfo) (areaId : Int) : List DeployedUPFInfo :=
  ((toMap EdgeAreaInfo.area edgeAreas areaId).map EdgeAreaInfo.upfs).getD []

/-- The UPFs of the areas that were recorded before it. -/
def upfsBefore (edgeAreas : List EdgeAreaInfo) (areaId : Int) : List DeployedUPFInfo :=
  (edgeAreas.takeWhile (fun info => !decide (info.area = areaId))).flatMap EdgeAreaInfo.upfs

def Create5gModel.slicesOf (c : Create5gModel) (areaId : Int) : List SubSlices :=
  ((c.getArea areaId).bind SubArea.slices).getD []

/-- The N3 address of a UPF of the area, which serves the first of the slices. -/
def OwnUpf (edgeAreas : List EdgeAreaInfo) (areaId : Int) (slices : List SubSlices) (ip : IPv4Address) : Prop :=
  ∃ upf ∈ upfsOf edgeAreas areaId, (∀ slice ∈ slices.head?, upf.serves slice.sliceId = true) ∧ upf.n3 = some ip

/-- The area has UPFs, whose addresses are known, and one for each of its slices. -/
structure AreaServed (c : Create5gModel) (edgeAreas : List EdgeAreaInfo) (areaId : Int) : Prop where
  upfs : upfsOf edgeAreas areaId ≠ []
  addresses : ∀ upf ∈ upfsOf edgeAreas areaId, upf.networkInfo.isSome
  slices : ∀ slice ∈ c.slicesOf areaId, ∃ upf ∈ upfsOf edgeAreas areaId, upf.serves slice.sliceId = true

/-- The digits of a slice id are decimal. -/
def DecimalId (sliceId : String) : Prop :=
  ∀ ch ∈ sliceId.toList, ch.isDigit = true

instance (sliceId : String) : Decidable (DecimalId sliceId) :=
  inferInstanceAs (Decidable (∀ _ ∈ _, _))

/-- The area has slices, whose ids are decimal, and no area recorded before it serves the first of them
from another address. -/
def Selected (c : Create5gModel) (edgeAreas : List EdgeAreaInfo) (areaId : Int) : Prop :=
  ∃ slice slices, c.slicesOf areaId = slice :: slices ∧ (∀ s ∈ slice :: slices, DecimalId s.sliceId) ∧
    ∀ upf, (upfsBefore edgeAreas areaId).find? (DeployedUPFInfo.serves slice.sliceId) = some upf →
      ∃ ip, upf.n3 = some ip ∧ OwnUpf edgeAreas areaId [slice] ip

/-- The integers pydantic reads off six hexadecimal digits. -/
structure ReadsIntegers (validateInt : String → Option Int) : Prop where
  decimal : ∀ text, IsCode text → DecimalId text →
    validateInt text = some (Numerals.value 10 (text.toList.map (fun ch => ch.toNat - 48)))
  letters : ∀ text, IsCode text → ¬ DecimalId text → validateInt text = none

namespace GnbUpfs

variable {c : Create5gModel} {edgeAreas : List EdgeAreaInfo} {areaId : Int}

/-! ### The id that is looked for -/

theorem digitChar_of_isDigit {ch : Char} (h : ch.isDigit = true) : (ch.toNat - 48).digitChar = ch ∧ ch.toNat - 48 < 10 := by
  have hrange : 48 ≤ ch.toNat ∧ ch.toNat ≤ 57 := by
    simpa [Char.isDigit, UInt32.le_iff_toNat_le] using h
  have hlt : ch.toNat - 48 < 10 := by omega
  refine ⟨?_, hlt⟩
  have hback := Nat.toNat_digitChar_of_lt_ten hlt
  apply Char.ext
  apply UInt32.toNat_inj.1
  show (ch.toNat - 48).digitChar.toNat = ch.toNat
  omega

/-- The number of a slice id, written with six digits, is the slice id. -/
theorem rjustZeros_decimal {text : String} (hcode : IsCode text) (hdecimal : DecimalId text) :
    rjustZeros 6 (toString (Numerals.value 10 (text.toList.map (fun ch => ch.toNat - 48)) : Int)) = text := by
  have hlength : (text.toList.map (fun ch => ch.toNat - 48)).length = 6 := by
    rw [List.length_map, String.length_toList]
    exact hcode.1
  have hdigits : ∀ d ∈ text.toList.map (fun ch => ch.toNat - 48), d < 10 := by
    intro d hd
    obtain ⟨ch, hch, rfl⟩ := List.mem_map.1 hd
    exact (digitChar_of_isDigit (hdecimal ch hch)).2
  have hne : text.toList.map (fun ch => ch.toNat - 48) ≠ [] := by
    intro hnil
    rw [hnil] at hlength
    cases hlength
  have hpadded := Numerals.padded_toDigits (by decide : 1 < 10) hdigits hne
  have hback : (text.toList.map (fun ch => ch.toNat - 48)).map Nat.digitChar = text.toList := by
    have heach : ∀ ch ∈ text.toList, (Nat.digitChar ∘ fun ch : Char => ch.toNat - 48) ch = id ch :=
      fun ch hch => (digitChar_of_isDigit (hdecimal ch hch)).1
    rw [List.map_map, List.map_congr_left heach, List.map_id]
  rw [hlength, hback] at hpadded
  unfold rjustZeros
  have htext : (toString (Numerals.value 10 (text.toList.map (fun ch => ch.toNat - 48)) : Int)).toList =
      Nat.toDigits 10 (Numerals.value 10 (text.toList.map (fun ch => ch.toNat - 48))) := toString_toList _
  rw [htext, hpadded, String.ofList_toList]

/-- A slice of a request. -/
def sliceItem (slice : SubSlices) : GNBPDUSlice where
  sst := slice.sliceType.toInt
  sd := Numerals.value 10 (slice.sliceId.toList.map (fun ch => ch.toNat - 48))

theorem sliceItem_id {slice : SubSlices} (hcode : IsCode slice.sliceId) (hdecimal : DecimalId slice.sliceId) :
    rjustZeros 6 (toString (sliceItem slice).sd) = slice.sliceId :=
  rjustZeros_decimal hcode hdecimal

/-! ### The UPF that is selected -/

theorem getUpfsForSlice_eq (hupfs : ∀ info ∈ edgeAreas, info.upf.isSome) (sliceId : String) :
    Generic5G.getUpfsForSlice edgeAreas sliceId =
      .ok ((edgeAreas.flatMap EdgeAreaInfo.upfs).filter (DeployedUPFInfo.serves (rjustZeros 6 sliceId))) := by
  unfold Generic5G.getUpfsForSlice
  rw [except_bind_ok]
  refine ⟨edgeAreas.map (fun info => info.upfs.filter (DeployedUPFInfo.serves (rjustZeros 6 sliceId))), ?_, ?_⟩
  · rw [mapM_ok_iff, List.forall₂_map_right_iff, List.forall₂_same]
    intro info hinfo
    obtain ⟨upf, hupf⟩ := Option.isSome_iff_exists.1 (hupfs info hinfo)
    rw [EdgeAreaInfo.upfs, hupf]
    rfl
  · rw [List.filter_flatMap]
    rfl

theorem split_at (hkey : toMap EdgeAreaInfo.area edgeAreas areaId = some info) :
    ∃ after, edgeAreas = edgeAreas.takeWhile (fun info => !decide (info.area = areaId)) ++ info :: after := by
  induction edgeAreas with
  | nil => cases hkey
  | cons x xs ih =>
    rw [toMap_cons] at hkey
    by_cases hx : x.area = areaId
    · rw [if_pos hx] at hkey
      cases hkey
      refine ⟨xs, ?_⟩
      rw [List.takeWhile_cons_of_neg (by simp [hx])]
      rfl
    · rw [if_neg hx] at hkey
      obtain ⟨after, hafter⟩ := ih hkey
      refine ⟨after, ?_⟩
      rw [List.takeWhile_cons_of_pos (by simp [hx]), List.cons_append, ← hafter]

theorem flatMap_upfs (hne : upfsOf edgeAreas areaId ≠ []) :
    ∃ after, edgeAreas.flatMap EdgeAreaInfo.upfs = upfsBefore edgeAreas areaId ++ (upfsOf edgeAreas areaId ++ after) := by
  unfold upfsOf at hne ⊢
  cases hkey : toMap EdgeAreaInfo.area edgeAreas areaId with
  | none =>
    rw [hkey] at hne
    exact absurd rfl hne
  | some info =>
    obtain ⟨after, hafter⟩ := split_at hkey
    refine ⟨after.flatMap EdgeAreaInfo.upfs, ?_⟩
    conv_lhs => rw [hafter]
    rw [List.flatMap_append, List.flatMap_cons]
    rfl

/-- The first UPF in the order of the areas that serves a slice. -/
def selected (edgeAreas : List EdgeAreaInfo) (areaId : Int) (sliceId : String) : Option DeployedUPFInfo :=
  ((upfsBefore edgeAreas areaId).find? (DeployedUPFInfo.serves sliceId)).or
    ((upfsOf edgeAreas areaId).find? (DeployedUPFInfo.serves sliceId))

theorem find?_flatMap (hserved : ∃ upf ∈ upfsOf edgeAreas areaId, upf.serves sliceId = true) :
    (edgeAreas.flatMap EdgeAreaInfo.upfs).find? (DeployedUPFInfo.serves sliceId) = selected edgeAreas areaId sliceId := by
  obtain ⟨upf, hupf, hserves⟩ := hserved
  obtain ⟨after, hafter⟩ := flatMap_upfs (List.ne_nil_of_mem hupf)
  have hown : ((upfsOf edgeAreas areaId).find? (DeployedUPFInfo.serves sliceId)).isSome :=
    List.find?_isSome.2 ⟨upf, hupf, hserves⟩
  obtain ⟨own, hown⟩ := Option.isSome_iff_exists.1 hown
  rw [hafter, List.find?_append, List.find?_append, hown]
  unfold selected
  rw [hown]
  rfl

theorem first_filter (p : α → Bool) (xs : List α) : Generic5G.first (xs.filter p) =
    match xs.find? p with
    | some x => .ok x
    | none => .error (.indexError "list index out of range") := by
  rw [← List.head?_filter]
  cases xs.filter p <;> rfl

/-- The address that goes into the request for the gNB of an area. -/
def Sends (provider : RanProvider) (c : Create5gModel) (edgeAreas : List EdgeAreaInfo) (areaId : Int) (ip : IPv4Address) : Prop :=
  ∃ slices routes, Generic5G.gnbSlices provider c areaId = .ok slices ∧ Generic5G.gnbUpfIp edgeAreas slices = .ok ip ∧
    Generic5G.additionalRoutesForGnb edgeAreas areaId = .ok routes

section Selection

variable {provider : RanProvider} (hread : ReadsIntegers provider.validateInt) (hupfs : ∀ info ∈ edgeAreas, info.upf.isSome)
  (hserved : AreaServed c edgeAreas areaId) (hcodes : ∀ slice ∈ c.slicesOf areaId, IsCode slice.sliceId)

theorem first_area (c : Create5gModel) (areaId : Int) :
    Generic5G.first (c.areas.filter (fun area => decide (area.id = areaId))) =
      match c.getArea areaId with
      | some area => .ok area
      | none => .error (.indexError "list index out of range") := by
  rw [first_filter, Create5gModel.getArea]
  cases c.areas.find? (fun area => decide (area.id = areaId)) with
  | none => rfl
  | some area => rfl

theorem gnbSlices_ok_iff : Generic5G.gnbSlices provider c areaId = .ok items ↔
    ∃ area slices, c.getArea areaId = some area ∧ area.slices = some slices ∧
      List.Forall₂ (fun slice item => Generic5G.gnbSlice provider slice = .ok item) slices items := by
  unfold Generic5G.gnbSlices
  rw [first_area]
  cases hget : c.getArea areaId with
  | none =>
    constructor
    · intro h
      cases h
    · rintro ⟨area, slices, harea, -⟩
      cases harea
  | some area =>
    rw [except_bind_ok]
    constructor
    · rintro ⟨_, harea, h⟩
      cases harea
      obtain ⟨slices, hslices, hmap⟩ := except_bind_ok.1 h
      refine ⟨area, slices, rfl, ?_, mapM_ok_iff.1 hmap⟩
      unfold iterate at hslices
      cases hs : area.slices with
      | none =>
        rw [hs] at hslices
        cases hslices
      | some list =>
        rw [hs] at hslices
        exact congrArg some (Except.ok.inj hslices)
    · rintro ⟨area', slices, harea, hslices, hmap⟩
      cases harea
      refine ⟨area, rfl, ?_⟩
      rw [hslices]
      exact mapM_ok_iff.2 hmap

include hread in
theorem gnbSlice_ok_iff {slice : SubSlices} (hcode : IsCode slice.sliceId) :
    Generic5G.gnbSlice provider slice = .ok item ↔ DecimalId slice.sliceId ∧
      item = sliceItem slice := by
  unfold Generic5G.gnbSlice
  by_cases hdecimal : DecimalId slice.sliceId
  · rw [hread.decimal _ hcode hdecimal]
    constructor
    · intro h
      exact ⟨hdecimal, (Except.ok.inj h).symm⟩
    · rintro ⟨-, rfl⟩
      rfl
  · rw [hread.letters _ hcode hdecimal]
    constructor
    · intro h
      cases h
    · exact fun h => absurd h.1 hdecimal

theorem networkInfoOf_ok_iff {upf : DeployedUPFInfo} : Generic5G.networkInfoOf attr upf = .ok info ↔ upf.networkInfo = some info := by
  unfold Generic5G.networkInfoOf
  cases upf.networkInfo with
  | none =>
    constructor
    · intro h
      cases h
    · intro h
      cases h
  | some info' =>
    constructor
    · intro h
      exact congrArg some (Except.ok.inj h)
    · intro h
      cases h
      rfl

include hupfs in
theorem gnbUpfIp_ok_iff {item : GNBPDUSlice} {items : List GNBPDUSlice} {sliceId : String}
    (hid : rjustZeros 6 (toString item.sd) = sliceId) (hown : ∃ upf ∈ upfsOf edgeAreas areaId, upf.serves sliceId = true) :
    Generic5G.gnbUpfIp edgeAreas (item :: items) = .ok ip ↔
      ∃ upf, selected edgeAreas areaId sliceId = some upf ∧ upf.n3 = some ip := by
  have hstart : Generic5G.gnbUpfIp edgeAreas (item :: items) = (do
      let upfs ← Generic5G.getUpfsForSlice edgeAreas (toString item.sd)
      let upf ← Generic5G.first upfs
      let info ← Generic5G.networkInfoOf "n3_ip" upf
      return info.n3Ip) := rfl
  rw [hstart, getUpfsForSlice_eq hupfs, hid]
  show (Generic5G.first _ >>= fun upf => _) = _ ↔ _
  rw [first_filter, find?_flatMap hown]
  cases hselected : selected edgeAreas areaId sliceId with
  | none =>
    constructor
    · intro h
      cases h
    · rintro ⟨upf, hupf, -⟩
      cases hupf
  | some upf =>
    show (Generic5G.networkInfoOf "n3_ip" upf >>= fun info => _) = _ ↔ _
    rw [except_bind_ok]
    constructor
    · rintro ⟨info, hinfo, hip⟩
      refine ⟨upf, rfl, ?_⟩
      rw [DeployedUPFInfo.n3, networkInfoOf_ok_iff.1 hinfo]
      exact congrArg some (Except.ok.inj hip)
    · rintro ⟨_, hupf, hip⟩
      cases hupf
      obtain ⟨info, hinfo, rfl⟩ := Option.map_eq_some_iff.1 hip
      exact ⟨info, networkInfoOf_ok_iff.2 hinfo, rfl⟩

include hserved in
theorem additionalRoutesForGnb_ok : ∃ routes, Generic5G.additionalRoutesForGnb edgeAreas areaId = .ok routes := by
  have hne := hserved.upfs
  have haddresses := hserved.addresses
  unfold upfsOf at hne haddresses
  unfold Generic5G.additionalRoutesForGnb
  cases hkey : toMap EdgeAreaInfo.area edgeAreas areaId with
  | none =>
    rw [hkey] at hne
    exact absurd rfl hne
  | some entry =>
    rw [hkey] at hne haddresses
    simp only [Option.map_some, Option.getD_some, EdgeAreaInfo.upfs] at hne haddresses
    cases hupf : entry.upf with
    | none =>
      rw [hupf] at hne
      exact absurd rfl hne
    | some upf =>
      rw [hupf] at hne haddresses
      simp only [Option.map_some, Option.getD_some] at hne haddresses
      obtain ⟨deployed, rest, hlist⟩ := List.exists_cons_of_ne_nil hne
      obtain ⟨info, hinfo⟩ := Option.isSome_iff_exists.1 (haddresses deployed (hlist ▸ List.mem_cons_self))
      refine ⟨[{ networkCidr := info.n3Cidr.exploded, nextHop := upf.routerGnbIp }], ?_⟩
      simp only [hupf]
      rw [except_bind_ok]
      refine ⟨deployed, by rw [hlist]; rfl, ?_⟩
      rw [except_bind_ok]
      exact ⟨info, networkInfoOf_ok_iff.2 hinfo, rfl⟩

include hread hupfs hserved hcodes

theorem sends_iff : Sends provider c edgeAreas areaId ip ↔
    ∃ slice slices, c.slicesOf areaId = slice :: slices ∧ (∀ s ∈ slice :: slices, DecimalId s.sliceId) ∧
      ∃ upf, selected edgeAreas areaId slice.sliceId = some upf ∧ upf.n3 = some ip := by
  constructor
  · rintro ⟨items, routes, hitems, hip, -⟩
    obtain ⟨area, slices, harea, hslices, hall⟩ := gnbSlices_ok_iff.1 hitems
    have hof : c.slicesOf areaId = slices := by
      rw [Create5gModel.slicesOf, harea, Option.bind_some, hslices]
      rfl
    cases hall with
    | nil => cases hip
    | @cons slice item rest items' hfirst hrest =>
      have hcode := hcodes slice (hof ▸ List.mem_cons_self)
      obtain ⟨hdecimal, rfl⟩ := (gnbSlice_ok_iff hread hcode).1 hfirst
      have hown := hserved.slices slice (hof ▸ List.mem_cons_self)
      refine ⟨slice, rest, hof, ?_, (gnbUpfIp_ok_iff hupfs (sliceItem_id hcode hdecimal) hown).1 hip⟩
      intro s hs
      obtain ⟨y, hy⟩ := exists_mapM_ok.1 ⟨_, mapM_ok_iff.2 (.cons hfirst hrest)⟩ s hs
      exact ((gnbSlice_ok_iff hread (hcodes s (hof ▸ hs))).1 hy).1
  · rintro ⟨slice, slices, hof, hdecimal, hselected⟩
    obtain ⟨routes, hroutes⟩ := additionalRoutesForGnb_ok hserved
    have hall : ∀ s ∈ slice :: slices, ∃ item, Generic5G.gnbSlice provider s = .ok item :=
      fun s hs => ⟨_, (gnbSlice_ok_iff hread (hcodes s (hof ▸ hs))).2 ⟨hdecimal s hs, rfl⟩⟩
    obtain ⟨items, hitems⟩ := exists_mapM_ok.2 hall
    have hforall := mapM_ok_iff.1 hitems
    refine ⟨items, routes, ?_, ?_, hroutes⟩
    · rw [gnbSlices_ok_iff]
      unfold Create5gModel.slicesOf at hof
      cases harea : c.getArea areaId with
      | none =>
        rw [harea] at hof
        cases hof
      | some area =>
        cases hs : area.slices with
        | none =>
          rw [harea, Option.bind_some, hs] at hof
          cases hof
        | some list =>
          rw [harea, Option.bind_some, hs] at hof
          obtain rfl : list = slice :: slices := hof
          exact ⟨area, _, rfl, hs, hforall⟩
    · have hmem : slice ∈ c.slicesOf areaId := hof ▸ List.mem_cons_self
      cases hforall with
      | @cons _ item _ items' hfirst hrest =>
        obtain ⟨-, rfl⟩ := (gnbSlice_ok_iff hread (hcodes slice hmem)).1 hfirst
        exact (gnbUpfIp_ok_iff hupfs (sliceItem_id (hcodes slice hmem) (hdecimal slice List.mem_cons_self))
          (hserved.slices slice hmem)).2 hselected

/-- The gNB of an area is pointed at a UPF of its own. -/
theorem sends_own_iff : (∃ ip, Sends provider c edgeAreas areaId ip ∧ OwnUpf edgeAreas areaId (c.slicesOf areaId) ip) ↔
    Selected c edgeAreas areaId := by
  constructor
  · rintro ⟨ip, hsends, hown⟩
    obtain ⟨slice, slices, hof, hdecimal, upf, hselected, hip⟩ := (sends_iff hread hupfs hserved hcodes).1 hsends
    refine ⟨slice, slices, hof, hdecimal, ?_⟩
    intro upf' hbefore
    rw [selected, hbefore, Option.some_or] at hselected
    cases hselected
    rw [hof] at hown
    exact ⟨ip, hip, hown⟩
  · rintro ⟨slice, slices, hof, hdecimal, hbefore⟩
    have hmem : slice ∈ c.slicesOf areaId := hof ▸ List.mem_cons_self
    have hchoice : ∃ upf ip, selected edgeAreas areaId slice.sliceId = some upf ∧ upf.n3 = some ip ∧ OwnUpf edgeAreas areaId [slice] ip := by
      cases hfind : (upfsBefore edgeAreas areaId).find? (DeployedUPFInfo.serves slice.sliceId) with
      | some upf =>
        obtain ⟨ip, hip, hown⟩ := hbefore upf hfind
        exact ⟨upf, ip, by rw [selected, hfind, Option.some_or], hip, hown⟩
      | none =>
        obtain ⟨upf, hupf⟩ := Option.isSome_iff_exists.1 (List.find?_isSome.2 (hserved.slices slice hmem))
        have hupfmem := List.mem_of_find?_eq_some hupf
        have hserves := List.find?_some hupf
        obtain ⟨info, hinfo⟩ := Option.isSome_iff_exists.1 (hserved.addresses upf hupfmem)
        have hip : upf.n3 = some info.n3Ip := by
          rw [DeployedUPFInfo.n3, hinfo]
          rfl
        refine ⟨upf, info.n3Ip, by rw [selected, hfind, Option.none_or, hupf], hip, upf, hupfmem, ?_, hip⟩
        intro s hs
        cases hs
        exact hserves
    obtain ⟨upf, ip, hselected, hip, hown⟩ := hchoice
    refine ⟨ip, (sends_iff hread hupfs hserved hcodes).2 ⟨slice, slices, hof, hdecimal, upf, hselected, hip⟩, ?_⟩
    rw [hof]
    exact hown

end Selection

/-! ### The PDUs -/

/-- What the RAN section works on is as it was. -/
structure SameRan (s s' : Generic5GState RanState) : Prop where
  config : s'.currentConfig = s.currentConfig
  edgeAreas : s'.rest.edgeAreas = s.rest.edgeAreas
  sent : s'.rest.sent = s.rest.sent
  blueprintId : s'.rest.pdus.blueprintId = s.rest.pdus.blueprintId

theorem SameRan.refl (s : Generic5GState RanState) : SameRan s s :=
  ⟨rfl, rfl, rfl, rfl⟩

theorem SameRan.trans (h : SameRan s s') (h' : SameRan s' s'') : SameRan s s'' :=
  ⟨h'.config.trans h.config, h'.edgeAreas.trans h.edgeAreas, h'.sent.trans h.sent, h'.blueprintId.trans h.blueprintId⟩

section Locks

variable {provider : RanProvider}

theorem findPdu_area {document : Option TopologyModel} (h : PDUProvider.findPdu document areaId pduType none none = .ok pdu) :
    pdu.area = areaId := by
  obtain ⟨pdus, -, h⟩ := except_bind_ok.1 h
  dsimp only [filterIfGiven] at h
  split at h
  · cases h
  · rename_i found hfound
    cases h
    have hmem : pdu ∈ (pdus.filter (fun x => decide (x.area = areaId))).filter (fun x => decide (x.type = pduType)) :=
      hfound ▸ List.mem_cons_self
    exact of_decide_eq_true (List.mem_filter.1 (List.mem_filter.1 hmem).1).2
  · cases h

theorem storePdu_meets (marked : EStateM PyError (PDUProvider × PduModel) Unit) (pdu : PduModel) (s : Generic5GState RanState)
    (hmarked : (finalState (marked.run (s.rest.pdus, pdu))).1.blueprintId = s.rest.pdus.blueprintId) :
    Meets (Generic5G.storePdu provider marked pdu) s
      (fun changed s' => ∃ pdus, marked.run (s.rest.pdus, pdu) = .ok () (pdus, changed) ∧ SameRan s s') (fun _ s' => SameRan s s') := by
  have hrun : (Generic5G.storePdu provider marked pdu).run s = Generic5G.storePdu provider marked pdu s := rfl
  unfold Meets
  rw [hrun]
  unfold Generic5G.storePdu
  cases hm : marked.run (s.rest.pdus, pdu) with
  | error e result =>
    rw [hm] at hmarked
    exact ⟨rfl, rfl, rfl, hmarked⟩
  | ok u result =>
    rw [hm] at hmarked
    dsimp only
    cases (Topology.updPdu (provider.services s.rest.calls) result.2).run ⟨s.rest.document, s.rest.document⟩ with
    | ok v saved => exact ⟨result.1, rfl, rfl, rfl, rfl, hmarked⟩
    | error e saved => exact ⟨rfl, rfl, rfl, hmarked⟩

theorem lockPdu_meets (pdu : PduModel) (s : Generic5GState RanState) :
    Meets (Generic5G.lockPdu provider pdu) s
      (fun changed s' => changed = { pdu with lockedBy := some s.rest.pdus.blueprintId } ∧ SameRan s s') (fun _ s' => SameRan s s') := by
  have hblueprint : (finalState (PDUProvider.markLocked.run (s.rest.pdus, pdu))).1.blueprintId = s.rest.pdus.blueprintId := by
    rw [PDUProvider.markLocked_run]
    cases pdu.lockedBy <;> rfl
  apply (storePdu_meets _ pdu s hblueprint).mono
  · rintro changed s' ⟨pdus, hmarked, hsame⟩
    rw [PDUProvider.markLocked_run] at hmarked
    cases hlock : pdu.lockedBy with
    | none =>
      rw [hlock] at hmarked
      cases hmarked
      exact ⟨rfl, hsame⟩
    | some owner =>
      rw [hlock] at hmarked
      cases hmarked
  · exact fun _ _ h => h

theorem gnbPdu_meets (areaId : Int) (s : Generic5GState RanState) :
    Meets (Generic5G.gnbPdu provider areaId) s
      (fun pdu s' => (pdu.area = areaId ∧ pdu.lockedBy = some s.rest.pdus.blueprintId) ∧ SameRan s s') (fun _ s' => SameRan s s') := by
  unfold Generic5G.gnbPdu
  rw [meets_bind, meets_get, meets_bind]
  apply (Generic5G.lift_meets _ s).mono
  · rintro pdu s' ⟨hfound, rfl⟩
    have harea := findPdu_area hfound
    split
    · rename_i hlocked
      exact ⟨⟨harea, hlocked⟩, .refl s'⟩
    · apply (lockPdu_meets pdu s').mono
      · rintro changed s'' ⟨rfl, hsame⟩
        exact ⟨⟨harea, rfl⟩, hsame⟩
      · exact fun _ _ h => h
  · rintro e s' ⟨-, rfl⟩
    exact .refl s'

theorem mapM_gnbPdu_meets (ids : List Int) (s : Generic5GState RanState) :
    Meets (ids.mapM (Generic5G.gnbPdu provider)) s
      (fun pdus s' => (pdus.map PduModel.area = ids ∧ ∀ pdu ∈ pdus, pdu.lockedBy = some s.rest.pdus.blueprintId) ∧ SameRan s s')
      (fun _ s' => SameRan s s') := by
  induction ids generalizing s with
  | nil => exact ⟨⟨rfl, fun _ h => (nomatch h)⟩, .refl s⟩
  | cons id ids ih =>
    rw [List.mapM_cons, meets_bind]
    apply (gnbPdu_meets id s).mono
    · rintro pdu s₁ ⟨⟨harea, hlocked⟩, h₁⟩
      rw [meets_bind]
      apply (ih s₁).mono
      · rintro pdus s₂ ⟨⟨hareas, hall⟩, h₂⟩
        rw [h₁.blueprintId] at hall
        refine ⟨⟨by rw [List.map_cons, harea, hareas], ?_⟩, h₁.trans h₂⟩
        exact List.forall_mem_cons.2 ⟨hlocked, hall⟩
      · exact fun _ s₂ h₂ => h₁.trans h₂
    · exact fun _ s₁ h₁ => h₁

theorem getGnbPdus_meets (provider : RanProvider) (c : Create5gModel) (r : RanState) :
    Meets (Generic5G.getGnbPdus provider) ⟨some c, r⟩
      (fun pdus s' => (pdus.map PduModel.area = c.areas.map SubArea.id ∧ ∀ pdu ∈ pdus, pdu.lockedBy = some r.pdus.blueprintId) ∧
        SameRan ⟨some c, r⟩ s') (fun _ s' => SameRan ⟨some c, r⟩ s') :=
  mapM_gnbPdu_meets (c.areas.map SubArea.id) ⟨some c, r⟩

end Locks

/-! ### The requests -/

section Requests

variable {provider : RanProvider}

theorem ranCall_meets (hraises : ∀ k n, provider.raises k n = none) (k : RanCall) (s : Generic5GState RanState) :
    Meets (Generic5G.ranCall provider k) s (fun _ s' => SameRan s s') (fun _ _ => False) := by
  unfold Meets EStateM.run Generic5G.ranCall
  rw [hraises]
  exact ⟨rfl, rfl, rfl, rfl⟩

theorem onConfig_meets {ρ : Type} (attr : String) (f : Create5gModel → Except PyError α) (c : Create5gModel) (r : ρ) :
    Meets (Generic5G.onConfig attr (do let c ← get; Generic5G.liftExcept (f c))) ⟨some c, r⟩
      (fun a s' => f c = .ok a ∧ s' = ⟨some c, r⟩) (fun e s' => f c = .error e ∧ s' = ⟨some c, r⟩) := by
  unfold Meets
  rw [Generic5G.onConfig_run]
  cases h : f c with
  | ok a =>
    simp only [EStateM.run_bind, EStateM.run_get, h]
    exact ⟨rfl, rfl⟩
  | error e =>
    simp only [EStateM.run_bind, EStateM.run_get, h]
    exact ⟨rfl, rfl⟩

/-- The request goes out with the address that was selected, or there is none. -/
theorem gnbRequest_meets (hraises : ∀ k n, provider.raises k n = none) {pdu : PduModel} {c : Create5gModel} {r : RanState}
    (hlocked : pdu.lockedBy = some r.pdus.blueprintId) :
    Meets (Generic5G.gnbRequest provider pdu) ⟨some c, r⟩
      (fun request s' => (request.area = pdu.area ∧ Sends provider c r.edgeAreas pdu.area request.upfIp) ∧ SameRan ⟨some c, r⟩ s')
      (fun _ s' => (∀ ip, ¬ Sends provider c r.edgeAreas pdu.area ip) ∧ SameRan ⟨some c, r⟩ s') := by
  unfold Generic5G.gnbRequest Generic5G.getPduConfigurator
  rw [meets_bind, meets_bind, meets_get, if_pos hlocked, meets_bind]
  apply (ranCall_meets hraises _ _).mono
  · rintro n ⟨config, r₁⟩ h₁
    obtain rfl : config = some c := h₁.config
    rw [meets_pure, meets_bind]
    apply (onConfig_meets "areas" _ c r₁).mono
    · rintro slices s₂ ⟨hslices, rfl⟩
      rw [meets_bind]
      apply (onConfig_meets "config" (fun c => .ok c.config.plmn) c r₁).mono
      · rintro plmn s₃ ⟨-, rfl⟩
        rw [meets_bind]
        apply (ranCall_meets hraises _ _).mono
        · rintro m s₄ h₄
          have hsame := h₁.trans h₄
          rw [meets_bind, meets_get, meets_bind]
          apply (Generic5G.lift_meets _ s₄).mono
          · rintro upfIp s₅ ⟨hip, rfl⟩
            rw [meets_bind]
            apply (Generic5G.lift_meets _ s₅).mono
            · rintro routes s₆ ⟨hroutes, rfl⟩
              rw [hsame.edgeAreas] at hip hroutes
              exact ⟨⟨rfl, slices, routes, hslices, hip, hroutes⟩, hsame⟩
            · rintro e s₆ ⟨hroutes, rfl⟩
              rw [hsame.edgeAreas] at hroutes
              refine ⟨?_, hsame⟩
              rintro ip ⟨slices', routes, -, -, hroutes'⟩
              rw [hroutes] at hroutes'
              cases hroutes'
          · rintro e s₅ ⟨hip, rfl⟩
            rw [hsame.edgeAreas] at hip
            refine ⟨?_, hsame⟩
            rintro ip ⟨slices', routes, hslices', hip', -⟩
            rw [hslices] at hslices'
            cases hslices'
            rw [hip] at hip'
            cases hip'
        · exact fun _ _ h => h.elim
      · rintro e s₃ ⟨h, -⟩
        cases h
    · rintro e s₂ ⟨hslices, rfl⟩
      refine ⟨?_, h₁⟩
      rintro ip ⟨slices', routes, hslices', -, -⟩
      rw [hslices] at hslices'
      cases hslices'
  · exact fun _ _ h => h.elim

/-- Apart from the requests sent. -/
structure SameBut (s s' : Generic5GState RanState) : Prop where
  config : s'.currentConfig = s.currentConfig
  edgeAreas : s'.rest.edgeAreas = s.rest.edgeAreas
  blueprintId : s'.rest.pdus.blueprintId = s.rest.pdus.blueprintId

theorem configureGnb_meets (hraises : ∀ k n, provider.raises k n = none) {pdu : PduModel} {c : Create5gModel} {r : RanState}
    (hlocked : pdu.lockedBy = some r.pdus.blueprintId) :
    Meets (Generic5G.configureGnb provider pdu) ⟨some c, r⟩
      (fun _ s' => ∃ request : GNBPDUConfigure, (request.area = pdu.area ∧ Sends provider c r.edgeAreas pdu.area request.upfIp) ∧
        s'.rest.sent = r.sent ++ [(pdu, request)] ∧ SameBut ⟨some c, r⟩ s')
      (fun _ s' => (∀ ip, ¬ Sends provider c r.edgeAreas pdu.area ip) ∧ s'.rest.sent = r.sent) := by
  unfold Generic5G.configureGnb
  rw [meets_bind]
  apply (gnbRequest_meets hraises hlocked).mono
  · rintro request s₁ ⟨hrequest, h₁⟩
    rw [meets_bind, meets_modify, meets_bind]
    apply (ranCall_meets hraises _ _).mono
    · rintro n s₂ h₂
      rw [meets_modify]
      refine ⟨request, hrequest, ?_, h₂.config.trans h₁.config, h₂.edgeAreas.trans h₁.edgeAreas, h₂.blueprintId.trans h₁.blueprintId⟩
      rw [h₂.sent, h₁.sent]
    · exact fun _ _ h => h.elim
  · rintro e s₁ ⟨hno, h₁⟩
    exact ⟨hno, h₁.sent⟩

theorem configureGnbs_meets (hraises : ∀ k n, provider.raises k n = none) {pdus : List PduModel} {c : Create5gModel} {r : RanState}
    (hlocked : ∀ pdu ∈ pdus, pdu.lockedBy = some r.pdus.blueprintId) :
    Meets (forM pdus (Generic5G.configureGnb provider)) ⟨some c, r⟩
      (fun _ s' => ∃ requests, s'.rest.sent = r.sent ++ requests ∧
        List.Forall₂ (fun id (p : PduModel × GNBPDUConfigure) => (p.1.area = id ∧ p.2.area = id) ∧ Sends provider c r.edgeAreas id p.2.upfIp)
          (pdus.map PduModel.area) requests)
      (fun _ s' => ∃ requests, s'.rest.sent = r.sent ++ requests ∧ requests.length < (pdus.map PduModel.area).length ∧
        ∃ id ∈ pdus.map PduModel.area, ∀ ip, ¬ Sends provider c r.edgeAreas id ip) := by
  induction pdus generalizing r with
  | nil => exact ⟨[], (List.append_nil _).symm, .nil⟩
  | cons pdu pdus ih =>
    rw [List.forM_cons, meets_bind]
    apply (configureGnb_meets hraises (hlocked pdu List.mem_cons_self)).mono
    · rintro _ ⟨config, r₁⟩ ⟨request, ⟨harea, hsends⟩, hsent, hsame⟩
      obtain rfl : config = some c := hsame.config
      have hedges : r₁.edgeAreas = r.edgeAreas := hsame.edgeAreas
      have hblueprint : r₁.pdus.blueprintId = r.pdus.blueprintId := hsame.blueprintId
      have hrest : ∀ pdu ∈ pdus, pdu.lockedBy = some r₁.pdus.blueprintId := by
        rw [hblueprint]
        exact fun pdu hpdu => hlocked pdu (List.mem_cons_of_mem _ hpdu)
      apply (ih hrest).mono
      · rintro _ s₂ ⟨requests, hsent₂, hall⟩
        rw [hedges] at hall
        refine ⟨(pdu, request) :: requests, ?_, .cons ⟨⟨rfl, harea⟩, hsends⟩ hall⟩
        rw [hsent₂, hsent, List.append_assoc]
        rfl
      · rintro e s₂ ⟨requests, hsent₂, hlength, id, hid, hno⟩
        rw [hedges] at hno
        refine ⟨(pdu, request) :: requests, ?_, Nat.succ_lt_succ hlength, id, List.mem_cons_of_mem _ hid, hno⟩
        rw [hsent₂, hsent, List.append_assoc]
        rfl
    · rintro e s₁ ⟨hno, hsent⟩
      exact ⟨[], by rw [hsent, List.append_nil], Nat.succ_pos _, pdu.area, List.mem_cons_self, hno⟩

theorem markUnlocked_blueprintId (pdus : PDUProvider) (pdu : PduModel) :
    (finalState (PDUProvider.markUnlocked.run (pdus, pdu))).1.blueprintId = pdus.blueprintId := by
  cases hrun : PDUProvider.markUnlocked.run (pdus, pdu) with
  | ok u result =>
    obtain ⟨-, -, rfl⟩ := PDUProvider.markUnlocked_ok hrun
    rfl
  | error e result =>
    rw [finalState_error, PDUProvider.markUnlocked_error hrun]

theorem releaseRanArea_meets (areaId : Int) (s : Generic5GState RanState) :
    Meets (Generic5G.releaseRanArea provider areaId) s (fun _ s' => s'.rest.sent = s.rest.sent) (fun _ s' => s'.rest.sent = s.rest.sent) := by
  unfold Generic5G.releaseRanArea
  rw [meets_bind, meets_get]
  cases toMap RANAreaInfo.area s.rest.ranAreas areaId with
  | none => exact rfl
  | some info =>
    dsimp only
    rw [meets_bind]
    apply (Generic5G.lift_meets _ s).mono
    · rintro pdu s₁ ⟨-, rfl⟩
      rw [meets_bind]
      apply (storePdu_meets _ pdu s₁ (markUnlocked_blueprintId _ pdu)).mono
      · rintro changed s₂ ⟨-, -, h₂⟩
        rw [meets_modify]
        exact h₂.sent
      · exact fun _ _ h₂ => h₂.sent
    · rintro e s₁ ⟨-, rfl⟩
      rfl

theorem releaseRanAreas_meets (s : Generic5GState RanState) :
    Meets (Generic5G.releaseRanAreas provider) s (fun _ s' => s'.rest.sent = s.rest.sent) (fun _ s' => s'.rest.sent = s.rest.sent) := by
  obtain ⟨config, r⟩ := s
  unfold Generic5G.releaseRanAreas
  rw [meets_bind]
  cases config with
  | none => exact rfl
  | some c =>
    apply (onConfig_meets "areas" (fun c => .ok (c.areas.map SubArea.id)) c r).mono
    · rintro existing s₁ ⟨-, rfl⟩
      rw [meets_bind, meets_get]
      apply Meets.forM
      · rfl
      · intro areaId _ s' hs'
        apply (releaseRanArea_meets areaId s').mono
        · exact fun _ _ h => h.trans hs'
        · exact fun _ _ h => h.trans hs'
    · rintro e s₁ ⟨h, -⟩
      cases h

end Requests

end GnbUpfs

open GnbUpfs

/-- The gNB of every area is sent the address of a UPF of its own area, which serves its first slice. -/
def PointsAtOwn (provider : RanProvider) (c : Create5gModel) (r : RanState) : Prop :=
  ∃ requests, (finalState ((Generic5G.updateGnbConfig provider).run ⟨some c, r⟩)).rest.sent = r.sent ++ requests ∧
    List.Forall₂ (fun id (p : PduModel × GNBPDUConfigure) => (p.1.area = id ∧ p.2.area = id) ∧
      OwnUpf r.edgeAreas id (c.slicesOf id) p.2.upfIp) (c.areas.map SubArea.id) requests

namespace GnbUpfs

variable {provider : RanProvider} {c : Create5gModel} {r : RanState}

/-- The requests are those of all areas, or some area has none. -/
def Requested (provider : RanProvider) (c : Create5gModel) (edgeAreas : List EdgeAreaInfo) (ids : List Int)
    (requests : List (PduModel × GNBPDUConfigure)) : Prop :=
  List.Forall₂ (fun id p => (p.1.area = id ∧ p.2.area = id) ∧ Sends provider c edgeAreas id p.2.upfIp) ids requests ∨
    requests.length < ids.length ∧ ∃ id ∈ ids, ∀ ip, ¬ Sends provider c edgeAreas id ip

theorem updateGnbConfig_sent (hraises : ∀ k n, provider.raises k n = none)
    (hpdus : (Generic5G.getGnbPdus provider).run ⟨some c, r⟩ = .ok pdus s₁) :
    ∃ requests, (finalState ((Generic5G.updateGnbConfig provider).run ⟨some c, r⟩)).rest.sent = r.sent ++ requests ∧
      Requested provider c r.edgeAreas (c.areas.map SubArea.id) requests := by
  have hgot := getGnbPdus_meets provider c r
  unfold Meets at hgot
  rw [hpdus] at hgot
  obtain ⟨⟨hareas, hlocked⟩, hsame⟩ := hgot
  obtain ⟨config, r₁⟩ := s₁
  obtain rfl : config = some c := hsame.config
  have hedges : r₁.edgeAreas = r.edgeAreas := hsame.edgeAreas
  have hsent : r₁.sent = r.sent := hsame.sent
  have hblueprint : r₁.pdus.blueprintId = r.pdus.blueprintId := hsame.blueprintId
  rw [← hblueprint] at hlocked
  unfold Generic5G.updateGnbConfig
  rw [run_bind_ok _ _ hpdus, ← hedges, ← hsent, ← hareas]
  apply Meets.finalState (I := fun s' : Generic5GState RanState => ∃ requests, s'.rest.sent = r₁.sent ++ requests ∧
    Requested provider c r₁.edgeAreas (pdus.map PduModel.area) requests)
  rw [meets_bind]
  apply (configureGnbs_meets hraises hlocked).mono
  · rintro _ s₂ ⟨requests, hsent₂, hall⟩
    apply (releaseRanAreas_meets s₂).mono
    · exact fun _ s₃ h₃ => ⟨requests, h₃.trans hsent₂, .inl hall⟩
    · exact fun _ s₃ h₃ => ⟨requests, h₃.trans hsent₂, .inl hall⟩
  · rintro e s₂ ⟨requests, hsent₂, hnone⟩
    exact ⟨requests, hsent₂, .inr hnone⟩

theorem forall₂_exists {R : α → β → Prop} {xs : List α} {ys : List β} (h : List.Forall₂ R xs ys) : ∀ x ∈ xs, ∃ y, R x y := by
  induction h with
  | nil => exact fun _ hx => (nomatch hx)
  | cons hxy _ ih => exact List.forall_mem_cons.2 ⟨⟨_, hxy⟩, ih⟩

theorem Sends.unique (h : Sends provider c edgeAreas areaId ip) (h' : Sends provider c edgeAreas areaId ip') : ip = ip' := by
  obtain ⟨slices, routes, hslices, hip, -⟩ := h
  obtain ⟨slices', routes', hslices', hip', -⟩ := h'
  rw [hslices] at hslices'
  cases hslices'
  rw [hip] at hip'
  exact Except.ok.inj hip'

/-- Every gNB is pointed at a UPF of its own when its area's address is selected so. -/
theorem pointsAtOwn_iff_sends (hraises : ∀ k n, provider.raises k n = none)
    (hpdus : (Generic5G.getGnbPdus provider).run ⟨some c, r⟩ = .ok pdus s₁) :
    PointsAtOwn provider c r ↔ ∀ id ∈ c.areas.map SubArea.id, ∃ ip, Sends provider c r.edgeAreas id ip ∧
      OwnUpf r.edgeAreas id (c.slicesOf id) ip := by
  obtain ⟨requests, hsent, hrequested⟩ := updateGnbConfig_sent hraises hpdus
  constructor
  · rintro ⟨requests', hsent', hown⟩
    obtain rfl : requests = requests' := List.append_cancel_left (hsent.symm.trans hsent')
    rcases hrequested with hall | ⟨hlength, -⟩
    · intro id hid
      obtain ⟨p, hp⟩ := forall₂_exists (List.Forall₂.mp (fun _ _ h h' => And.intro h h') hall hown) id hid
      exact ⟨p.2.upfIp, hp.1.2, hp.2.2⟩
    · exact absurd hown.length_eq (Nat.ne_of_gt hlength)
  · intro hsends
    refine ⟨requests, hsent, ?_⟩
    rcases hrequested with hall | ⟨-, id, hid, hno⟩
    · rw [List.forall₂_iff_zip] at hall ⊢
      refine ⟨hall.1, fun {id p} hmem => ?_⟩
      obtain ⟨hareas, hip⟩ := hall.2 hmem
      obtain ⟨ip, hip', hown⟩ := hsends id (List.of_mem_zip hmem).1
      exact ⟨hareas, hip.unique hip' ▸ hown⟩
    · obtain ⟨ip, hip, -⟩ := hsends id hid
      exact absurd hip (hno ip)

/-- Every recorded area is one of the configuration, so it has its UPFs. -/
theorem upf_of_served (hleaving : Generic5G.Leaving c [] s) (hserved : ∀ area ∈ c.areas, AreaServed c s.rest.edgeAreas area.id) :
    ∀ info ∈ s.rest.edgeAreas, info.upf.isSome := by
  intro info hinfo
  obtain ⟨area, harea, hid⟩ := List.mem_map.1 ((hleaving.known info hinfo).resolve_right List.not_mem_nil)
  have hne := (hserved area harea).upfs
  rw [hid, upfsOf, hleaving.unique.toMap_mem hinfo, Option.map_some, Option.getD_some, EdgeAreaInfo.upfs] at hne
  cases hupf : info.upf with
  | none =>
    rw [hupf] at hne
    exact absurd rfl hne
  | some upf => rfl

theorem slicesOf_codes (hcodes : ∀ area ∈ c.areas, ∀ slice ∈ area.slices.getD [], IsCode slice.sliceId) (areaId : Int) :
    ∀ slice ∈ c.slicesOf areaId, IsCode slice.sliceId := by
  intro slice hslice
  unfold Create5gModel.slicesOf at hslice
  cases harea : c.getArea areaId with
  | none =>
    rw [harea] at hslice
    cases hslice
  | some area =>
    rw [harea] at hslice
    exact hcodes area (List.mem_of_find?_eq_some harea) slice hslice

theorem pointsAtOwn_iff_selected {edgeProvider : EdgeProvider} {e₀ : EdgeState} {s : Generic5GState EdgeState}
    (hkeys : Unique EdgeAreaInfo.area e₀.edgeAreas)
    (hedges : (Generic5G.updateEdgeAreas edgeProvider).run ⟨some c, e₀⟩ = .ok () s) (hr : r.edgeAreas = s.rest.edgeAreas)
    (hserved : ∀ area ∈ c.areas, AreaServed c r.edgeAreas area.id)
    (hcodes : ∀ area ∈ c.areas, ∀ slice ∈ area.slices.getD [], IsCode slice.sliceId)
    (hread : ReadsIntegers provider.validateInt) (hraises : ∀ k n, provider.raises k n = none)
    (hpdus : (Generic5G.getGnbPdus provider).run ⟨some c, r⟩ = .ok pdus s₁) :
    PointsAtOwn provider c r ↔ ∀ area ∈ c.areas, Selected c r.edgeAreas area.id := by
  have hstart : Generic5G.Keyed c ⟨some c, e₀⟩ := ⟨rfl, hkeys⟩
  have hentries := Generic5G.updateEdgeAreas_entries edgeProvider hstart
  unfold Meets at hentries
  rw [hedges] at hentries
  have hupfs : ∀ info ∈ r.edgeAreas, info.upf.isSome := by
    rw [hr] at hserved ⊢
    exact upf_of_served hentries hserved
  rw [pointsAtOwn_iff_sends hraises hpdus, List.forall_mem_map]
  refine forall₂_congr fun area harea => ?_
  exact sends_own_iff hread hupfs (hserved area harea) (slicesOf_codes hcodes area.id)

end GnbUpfs

/-- After an update of the edge areas that returned, with PDUs that could be locked and calls that
return: the gNBs are pointed at their own UPFs exactly when each area has slices with decimal ids and
no area recorded before it serves its first slice from another address. -/
theorem gnbs_point_at_own_iff (edgeProvider : EdgeProvider) (provider : RanProvider) (c : Create5gModel) (e₀ : EdgeState)
    (s : Generic5GState EdgeState) (r : RanState) (pdus : List PduModel) (s₁ : Generic5GState RanState)
    (hkeys : Unique EdgeAreaInfo.area e₀.edgeAreas)
    (hedges : (Generic5G.updateEdgeAreas edgeProvider).run ⟨some c, e₀⟩ = .ok () s) (hr : r.edgeAreas = s.rest.edgeAreas)
    (hserved : ∀ area ∈ c.areas, AreaServed c r.edgeAreas area.id)
    (hcodes : ∀ area ∈ c.areas, ∀ slice ∈ area.slices.getD [], IsCode slice.sliceId)
    (hread : ReadsIntegers provider.validateInt) (hraises : ∀ k n, provider.raises k n = none)
    (hpdus : (Generic5G.getGnbPdus provider).run ⟨some c, r⟩ = .ok pdus s₁) :
    PointsAtOwn provider c r ↔ ∀ area ∈ c.areas, Selected c r.edgeAreas area.id :=
  pointsAtOwn_iff_selected hkeys hedges hr hserved hcodes hread hraises hpdus

/-! ### A campus with gNBs -/

/-- Each UPF has an N3 address of its own. -/
def campusUpfs : EdgeProvider :=
  { campusProvider (fun _ _ _ => none) with
    upfsInfo := fun n => [{
      area := 1
      servedSlices := [{ id := "000001", dnnList := [{ name := some "internet", cidr := some "10.250.0.0/16" }] }]
      networkInfo := some {
        n4Cidr := campusNetwork
        n3Cidr := campusNetwork
        n6Cidr := campusNetwork
        n4Ip := campusAddress 4
        n3Ip := campusAddress (Fin.ofNat 256 (100 + n))
        n6Ip := campusAddress 6 }
      vmResourceId := "vm"
      vmConfiguratorId := "configurator" }] }

def readDigits (text : String) : Option Int :=
  if text ≠ "" ∧ DecimalId text then some (Numerals.value 10 (text.toList.map (fun ch => ch.toNat - 48))) else none

def campusRan : RanProvider where
  amfIp := fun _ => "10.0.0.9"
  validateInt := readDigits

theorem campusRan_reads : ReadsIntegers campusRan.validateInt where
  decimal := by
    intro text hcode hdecimal
    refine if_pos ⟨?_, hdecimal⟩
    rintro rfl
    exact absurd hcode.1 (by decide)
  letters := fun text _ hletters => if_neg fun h => hletters h.2

def campusGnbs : TopologyModel where
  pdus := [{ name := "gnb1", area := 1, type := .gnb, instanceType := "liteon" },
    { name := "gnb2", area := 2, type := .gnb, instanceType := "liteon" }]

/-- The edge section after an update with the areas. -/
def campusEdges (areas : List SubArea) : Generic5GState EdgeState :=
  finalState ((Generic5G.updateEdgeAreas campusUpfs).run ⟨some (campusConfig areas), {}⟩)

def campusRadio (areas : List SubArea) : RanState where
  edgeAreas := (campusEdges areas).rest.edgeAreas
  document := some campusGnbs
  pdus := { blueprintId := "core" }

theorem exists_ok_of_not_raised {result : EStateM.Result ε σ α} (h : ¬ Raised result) : ∃ a s, result = .ok a s := by
  cases result with
  | ok a s => exact ⟨a, s, rfl⟩
  | error e s => exact (h trivial).elim

theorem campusEdges_run {areas : List SubArea} (h : ¬ Raised ((Generic5G.updateEdgeAreas campusUpfs).run ⟨some (campusConfig areas), {}⟩)) :
    (Generic5G.updateEdgeAreas campusUpfs).run ⟨some (campusConfig areas), {}⟩ = .ok () (campusEdges areas) :=
  eq_ok_of_not_raised h

theorem campusRadio_edgeAreas (areas : List SubArea) : (campusRadio areas).edgeAreas = (campusEdges areas).rest.edgeAreas := rfl

def campusOne : List SubArea := [campusArea 1 campusSlices]

theorem gnbs_point_at_own_campus : PointsAtOwn campusRan (campusConfig campusOne) (campusRadio campusOne) := by
  have hedges := @campusEdges_run campusOne (by decide +kernel)
  have hcodes : ∀ area ∈ (campusConfig campusOne).areas, ∀ slice ∈ area.slices.getD [], IsCode slice.sliceId := by decide +kernel
  obtain ⟨pdus, s₁, hpdus⟩ := exists_ok_of_not_raised
    (show ¬ Raised ((Generic5G.getGnbPdus campusRan).run ⟨some (campusConfig campusOne), campusRadio campusOne⟩) by decide +kernel)
  have hserved : ∀ area ∈ (campusConfig campusOne).areas, AreaServed (campusConfig campusOne) (campusRadio campusOne).edgeAreas area.id := by
    intro area harea
    obtain rfl := List.mem_singleton.1 harea
    exact ⟨by decide +kernel, by decide +kernel, by decide +kernel⟩
  refine (gnbs_point_at_own_iff campusUpfs campusRan (campusConfig campusOne) {} (campusEdges campusOne) (campusRadio campusOne) pdus s₁
    List.nodup_nil hedges (campusRadio_edgeAreas campusOne) hserved hcodes campusRan_reads (fun _ _ => rfl) hpdus).2 ?_
  intro area harea
  obtain rfl := List.mem_singleton.1 harea
  refine ⟨⟨.embb, "000001"⟩, [], by decide +kernel, by decide +kernel, ?_⟩
  have hbefore : upfsBefore (campusRadio campusOne).edgeAreas (campusArea 1 campusSlices).id = [] := by decide +kernel
  intro upf hupf
  rw [hbefore] at hupf
  cases hupf

def campusTwo : List SubArea := [campusArea 1 campusSlices, campusArea 2 campusSlices]

/-- Both areas offer the slice: the gNB of area 2 is pointed at the UPF of area 1. -/
theorem gnbs_point_at_own_fails :
    ¬ ∀ (edgeProvider : EdgeProvider) (provider : RanProvider) (c : Create5gModel) (e₀ : EdgeState)
      (s : Generic5GState EdgeState) (r : RanState) (pdus : List PduModel) (s₁ : Generic5GState RanState),
      Unique EdgeAreaInfo.area e₀.edgeAreas → (Generic5G.updateEdgeAreas edgeProvider).run ⟨some c, e₀⟩ = .ok () s →
      r.edgeAreas = s.rest.edgeAreas → (∀ area ∈ c.areas, AreaServed c r.edgeAreas area.id) →
      (∀ area ∈ c.areas, ∀ slice ∈ area.slices.getD [], IsCode slice.sliceId) → ReadsIntegers provider.validateInt →
      (∀ k n, provider.raises k n = none) → (Generic5G.getGnbPdus provider).run ⟨some c, r⟩ = .ok pdus s₁ →
      PointsAtOwn provider c r := by
  intro h
  have hedges := @campusEdges_run campusTwo (by decide +kernel)
  have hcodes : ∀ area ∈ (campusConfig campusTwo).areas, ∀ slice ∈ area.slices.getD [], IsCode slice.sliceId := by decide +kernel
  obtain ⟨pdus, s₁, hpdus⟩ := exists_ok_of_not_raised
    (show ¬ Raised ((Generic5G.getGnbPdus campusRan).run ⟨some (campusConfig campusTwo), campusRadio campusTwo⟩) by decide +kernel)
  have hserved : ∀ area ∈ (campusConfig campusTwo).areas, AreaServed (campusConfig campusTwo) (campusRadio campusTwo).edgeAreas area.id := by
    intro area harea
    rcases List.mem_cons.1 harea with rfl | harea
    · exact ⟨by decide +kernel, by decide +kernel, by decide +kernel⟩
    · obtain rfl := List.mem_singleton.1 harea
      exact ⟨by decide +kernel, by decide +kernel, by decide +kernel⟩
  have hpoints := h campusUpfs campusRan (campusConfig campusTwo) {} (campusEdges campusTwo) (campusRadio campusTwo) pdus s₁
    List.nodup_nil hedges (campusRadio_edgeAreas campusTwo) hserved hcodes campusRan_reads (fun _ _ => rfl) hpdus
  have hkeys : Unique EdgeAreaInfo.area ({} : EdgeState).edgeAreas := List.nodup_nil
  have hselected := (pointsAtOwn_iff_selected hkeys hedges (campusRadio_edgeAreas campusTwo) hserved hcodes campusRan_reads
    (fun _ _ => rfl) hpdus).1 hpoints (campusArea 2 campusSlices) (List.mem_cons_of_mem _ List.mem_cons_self)
  obtain ⟨slice, slices, hof, -, hbefore⟩ := hselected
  have hslices : (campusConfig campusTwo).slicesOf (campusArea 2 campusSlices).id = [⟨.embb, "000001"⟩] := by decide +kernel
  obtain ⟨rfl, rfl⟩ := List.cons.inj (hslices.symm.trans hof)
  have hfirst : ((upfsBefore (campusRadio campusTwo).edgeAreas (campusArea 2 campusSlices).id).find?
      (DeployedUPFInfo.serves "000001")).bind DeployedUPFInfo.n3 = some (campusAddress 103) := by decide +kernel
  have hown : ∀ upf ∈ upfsOf (campusRadio campusTwo).edgeAreas (campusArea 2 campusSlices).id,
      upf.n3 = some (campusAddress 108) := by decide +kernel
  obtain ⟨upf, hupf, hn3⟩ := Option.bind_eq_some_iff.1 hfirst
  obtain ⟨ip, hip, own, hmem, -, hn3'⟩ := hbefore upf hupf
  have hsame : campusAddress 103 = campusAddress 108 :=
    Option.some.inj (hn3.symm.trans (hip.trans (hn3'.symm.trans (hown own hmem))))
  exact absurd hsame (by decide)

end Nfvcl
