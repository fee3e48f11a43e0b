import Mathlib.Data.List.Basic
import Nfvcl.GnbUpfs
import Nfvcl.OaiSubscribers

namespace Nfvcl
set_option autoImplicit true
open Effects KeyedList
open Free5gc (IsCode)

/-! ### `int(str(n))` -/

namespace PyInt

theorem digit?_of_isDigit {ch : Char} (h : ch.isDigit = true) : digit? ch = some (ch.toNat - 48) := by
  have hrange : 48 ≤ ch.toNat ∧ ch.toNat ≤ 57 := by
    simpa [Char.isDigit, UInt32.le_iff_toNat_le] using h
  have hfind : decimalZeros.find? (fun z => decide (z ≤ ch.toNat ∧ ch.toNat < z + 10)) = some 48 := by
    refine List.find?_cons_of_pos ?_
    exact decide_eq_true ⟨hrange.1, by omega⟩
  unfold digit?
  rw [hfind]
  rfl

theorem digits_of_isDigit {cs : List Char} (hne : cs ≠ []) (h : ∀ ch ∈ cs, ch.isDigit = true) :
    digits cs = some (cs.map (fun ch => ch.toNat - 48)) := by
  induction cs with
  | nil => exact absurd rfl hne
  | cons ch cs ih =>
    have hch := digit?_of_isDigit (h ch List.mem_cons_self)
    cases cs with
    | nil =>
      rw [digits, hch]
      rfl
    | cons next cs =>
      have hnext : next ≠ '_' := by
        rintro rfl
        exact absurd (h '_' (List.mem_cons_of_mem _ List.mem_cons_self)) (by decide)
      have hrest := ih (List.cons_ne_nil _ _) (fun x hx => h x (List.mem_cons_of_mem _ hx))
      rw [digits, hch, hrest]
      · rfl
      · exact List.cons_ne_nil _ _
      · exact fun rest hbad => hnext (List.cons.inj hbad).1

theorem not_isSpace_of_isDigit {ch : Char} (h : ch.isDigit = true) : isSpace ch = false := by
  have hrange : 48 ≤ ch.toNat ∧ ch.toNat ≤ 57 := by
    simpa [Char.isDigit, UInt32.le_iff_toNat_le] using h
  refine decide_eq_false ?_
  simp only [List.mem_cons, List.not_mem_nil, or_false]
  omega

theorem dropWhile_of_isDigit {cs : List Char} (h : ∀ ch ∈ cs, ch.isDigit = true) : cs.dropWhile isSpace = cs := by
  cases cs with
  | nil => rfl
  | cons ch cs => exact List.dropWhile_cons_of_neg (by rw [not_isSpace_of_isDigit (h ch List.mem_cons_self)]; decide)

theorem parse_digits {text : String} (hne : text.toList ≠ []) (h : ∀ ch ∈ text.toList, ch.isDigit = true)
    (hlength : text.toList.length ≤ maxStrDigits) :
    parse text = .ok (Numerals.value 10 (text.toList.map (fun ch => ch.toNat - 48))) := by
  have hstripped : ((text.toList.dropWhile isSpace).reverse.dropWhile isSpace).reverse = text.toList := by
    rw [dropWhile_of_isDigit h, dropWhile_of_isDigit fun ch hch => h ch (List.mem_reverse.1 hch), List.reverse_reverse]
  have hmagnitude : magnitude text.toList = some (Numerals.value 10 (text.toList.map (fun ch => ch.toNat - 48))) := by
    unfold magnitude
    rw [digits_of_isDigit hne h]
    show (if (text.toList.map (fun ch => ch.toNat - 48)).length ≤ maxStrDigits then _ else _) = _
    rw [if_pos (by rw [List.length_map]; exact hlength)]
    rfl
  unfold parse
  rw [hstripped]
  cases hcs : text.toList with
  | nil => exact absurd hcs hne
  | cons ch cs =>
    rw [hcs] at hmagnitude h
    have hdigit := h ch List.mem_cons_self
    have hminus : ch ≠ '-' := by
      rintro rfl
      exact absurd hdigit (by decide)
    have hplus : ch ≠ '+' := by
      rintro rfl
      exact absurd hdigit (by decide)
    dsimp only
    split
    · rename_i n hvalue
      split at hvalue
      · rename_i heq
        exact absurd (List.cons.inj heq).1 hminus
      · rename_i heq
        exact absurd (List.cons.inj heq).1 hplus
      · rw [hmagnitude] at hvalue
        exact congrArg Except.ok (Option.some.inj hvalue).symm
    · rename_i hvalue
      split at hvalue
      · rename_i heq
        exact absurd (List.cons.inj heq).1 hminus
      · rename_i heq
        exact absurd (List.cons.inj heq).1 hplus
      · rw [hmagnitude] at hvalue
        cases hvalue

theorem parse_toString {n : Nat} (hn : n < 10 ^ maxStrDigits) : parse (toString n) = .ok (n : Int) := by
  have htext := toString_toList n
  have hdigits : ∀ ch ∈ (toString n).toList, ch.isDigit = true := by
    rw [htext]
    exact fun ch hch => Nat.isDigit_of_mem_toDigits (by decide) (by decide) hch
  rw [parse_digits (by rw [htext]; exact Nat.toDigits_ne_nil) hdigits, htext,
    Numerals.value_toDigits (by decide) fun d hd => Nat.toNat_digitChar_sub_48_of_lt_ten hd]
  rw [htext]
  exact (Nat.length_toDigits_le_iff (by decide) (by decide)).2 hn

end PyInt

/-! ### The slice id in `ue_dict` -/

namespace OpenAirInterface

/-- A slice id as it is accepted and stored: six hexadecimal digits, in upper case. -/
def StoredId (text : String) : Prop :=
  IsCode text ∧ ∀ ch ∈ text.toList, ¬ ('a' ≤ ch ∧ ch ≤ 'f')

instance (text : String) : Decidable (StoredId text) :=
  inferInstanceAs (Decidable (_ ∧ _))

/-- The number of a slice id. -/
def idValue (sliceId : String) : Nat :=
  Numerals.value 16 (sliceId.toList.map hexValue)

/-- The id with its letters in lower case. -/
def loweredId (sliceId : String) : String :=
  String.ofList (sliceId.toList.map (fun ch => (hexValue ch).digitChar))

theorem char_le_iff {a b : Char} : a ≤ b ↔ a.toNat ≤ b.toNat := by
  rw [Char.le_def, UInt32.le_iff_toNat_le]
  rfl

theorem isHexDigit_range {ch : Char} (h : Free5gc.isHexDigit ch = true) :
    (48 ≤ ch.toNat ∧ ch.toNat ≤ 57) ∨ (97 ≤ ch.toNat ∧ ch.toNat ≤ 102) ∨ (65 ≤ ch.toNat ∧ ch.toNat ≤ 70) := by
  simp only [Free5gc.isHexDigit, Bool.or_eq_true, Bool.and_eq_true, decide_eq_true_eq, char_le_iff] at h
  exact or_assoc.1 h

theorem hexValue_eq (ch : Char) :
    hexValue ch = if ch.toNat ≤ 57 then ch.toNat - 48 else if ch.toNat ≤ 70 then ch.toNat - 55 else ch.toNat - 87 := by
  unfold hexValue
  simp only [char_le_iff]
  rfl

theorem hexValue_lt {ch : Char} (h : Free5gc.isHexDigit ch = true) : hexValue ch < 16 := by
  have hrange := isHexDigit_range h
  rw [hexValue_eq]
  split
  · omega
  · split
    · omega
    · omega

theorem zfill_eq_padded {text : String} (width : Nat) (h : ∀ ch ∈ text.toList, ¬ (ch = '+' ∨ ch = '-')) :
    zfill width text = String.ofList (Numerals.padded width text.toList) := by
  unfold zfill Numerals.padded
  rw [String.length_toList]
  dsimp only
  cases htext : text.toList with
  | nil => rw [List.append_nil]
  | cons ch cs =>
    dsimp only
    rw [if_neg (h ch (htext ▸ List.mem_cons_self))]

theorem code_digits {sliceId : String} (h : IsCode sliceId) :
    (sliceId.toList.map hexValue).length = 6 ∧ ∀ d ∈ sliceId.toList.map hexValue, d < 16 := by
  constructor
  · rw [List.length_map, String.length_toList]
    exact h.1
  · intro d hd
    obtain ⟨ch, hch, rfl⟩ := List.mem_map.1 hd
    exact hexValue_lt (h.2 ch hch)

theorem idValue_lt {sliceId : String} (h : IsCode sliceId) : idValue sliceId < 16 ^ 6 := by
  obtain ⟨hlength, hdigits⟩ := code_digits h
  rw [← hlength]
  exact Numerals.value_lt hdigits

theorem zfill_hexTail {sliceId : String} (h : IsCode sliceId) : zfill 6 (hexTail (idValue sliceId)) = loweredId sliceId := by
  obtain ⟨hlength, hdigits⟩ := code_digits h
  have hne : sliceId.toList.map hexValue ≠ [] := by
    intro hnil
    rw [hnil] at hlength
    cases hlength
  have hpadded := Numerals.padded_toDigits (by decide : 1 < 16) hdigits hne
  rw [hlength, List.map_map] at hpadded
  have htail : (hexTail (idValue sliceId)).toList = Nat.toDigits 16 (idValue sliceId) := String.toList_ofList
  rw [zfill_eq_padded, htail]
  · exact congrArg String.ofList hpadded
  · rw [htail]
    intro ch hch
    obtain ⟨d, rfl⟩ := Numerals.mem_toDigits (by decide) ch hch
    rintro (hplus | hminus)
    · exact Nat.digitChar_ne '+' (by decide) hplus
    · exact Nat.digitChar_ne '-' (by decide) hminus

/-- The id that is decoded is the one that was encoded, in lower case. -/
theorem recoveredSliceId_eq {sliceId : String} (h : IsCode sliceId) :
    recoveredSliceId (toString (idValue sliceId)) = .ok (loweredId sliceId) := by
  have hlt : idValue sliceId < 10 ^ PyInt.maxStrDigits :=
    calc idValue sliceId < 16 ^ 6 := idValue_lt h
      _ ≤ 10 ^ 8 := by decide
      _ ≤ 10 ^ PyInt.maxStrDigits := Nat.pow_le_pow_right (by decide) (by decide)
  unfold recoveredSliceId
  rw [PyInt.parse_toString hlt]
  exact congrArg Except.ok (zfill_hexTail h)

theorem singleNssai_eq {snssai : SubSnssai} (h : IsCode snssai.sliceId) :
    singleNssai snssai = .ok ⟨snssai.sliceType.toInt, toString (idValue snssai.sliceId)⟩ := by
  have hne : snssai.sliceId ≠ "" := by
    intro hnil
    rw [hnil] at h
    exact absurd h.1 (by decide)
  unfold singleNssai hexInt
  rw [if_pos ⟨hne, h.2⟩]
  rfl

/-- A digit is kept, a letter comes back in lower case. -/
theorem digitChar_hexValue {ch : Char} (hhex : Free5gc.isHexDigit ch = true) (hupper : ¬ ('a' ≤ ch ∧ ch ≤ 'f')) :
    if ch.isDigit then (hexValue ch).digitChar = ch else 'a' ≤ (hexValue ch).digitChar ∧ (hexValue ch).digitChar ≤ 'f' := by
  have hrange := isHexDigit_range hhex
  have hlower : ¬ (97 ≤ ch.toNat ∧ ch.toNat ≤ 102) := by
    intro h
    exact hupper ⟨char_le_iff.2 h.1, char_le_iff.2 h.2⟩
  split
  · rename_i hdigit
    have hdigits : 48 ≤ ch.toNat ∧ ch.toNat ≤ 57 := by
      simpa [Char.isDigit, UInt32.le_iff_toNat_le] using hdigit
    rw [hexValue_eq, if_pos hdigits.2]
    exact (GnbUpfs.digitChar_of_isDigit hdigit).1
  · rename_i hdigit
    have hdigits : ¬ (48 ≤ ch.toNat ∧ ch.toNat ≤ 57) := by
      simpa [Char.isDigit, UInt32.le_iff_toNat_le] using hdigit
    have hletter : 10 ≤ hexValue ch ∧ hexValue ch < 16 := by
      rw [hexValue_eq, if_neg (by omega), if_pos (by omega)]
      omega
    have hletters : ∀ d : Fin 16, 10 ≤ d.val → 'a' ≤ d.val.digitChar ∧ d.val.digitChar ≤ 'f' := by decide
    exact hletters ⟨hexValue ch, hletter.2⟩ hletter.1

theorem loweredId_decimal {sliceId : String} (h : StoredId sliceId) (hdecimal : DecimalId sliceId) : loweredId sliceId = sliceId := by
  have heach : ∀ ch ∈ sliceId.toList, (hexValue ch).digitChar = id ch := by
    intro ch hch
    have hchar := digitChar_hexValue (h.1.2 ch hch) (h.2 ch hch)
    rw [if_pos (hdecimal ch hch)] at hchar
    exact hchar
  unfold loweredId
  rw [List.map_congr_left heach, List.map_id, String.ofList_toList]

/-- The id that is decoded is a stored id only if it has no letters. -/
theorem loweredId_eq_iff {first sliceId : String} (hfirst : StoredId first) (h : StoredId sliceId) :
    loweredId first = sliceId ↔ first = sliceId ∧ DecimalId sliceId := by
  constructor
  · intro heq
    have hdecimal : DecimalId first := by
      intro ch hch
      by_contra hdigit
      have hchar := digitChar_hexValue (hfirst.1.2 ch hch) (hfirst.2 ch hch)
      rw [if_neg hdigit] at hchar
      have hmem : (hexValue ch).digitChar ∈ sliceId.toList := by
        rw [← heq, loweredId, String.toList_ofList]
        exact List.mem_map_of_mem hch
      exact h.2 _ hmem hchar
    have hsame := (loweredId_decimal hfirst hdecimal).symm.trans heq
    exact ⟨hsame, hsame ▸ hdecimal⟩
  · rintro ⟨rfl, hdecimal⟩
    exact loweredId_decimal h hdecimal

/-- No slice id is its own decimal form. -/
theorem toString_idValue_ne {sliceId : String} (h : IsCode sliceId) : toString (idValue sliceId) ≠ sliceId := by
  intro heq
  have htext : sliceId.toList = Nat.toDigits 10 (idValue sliceId) := by
    rw [← toString_toList, heq]
  have hdigit : ∀ ch ∈ sliceId.toList, ch.isDigit = true := by
    rw [htext]
    exact fun ch hch => Nat.isDigit_of_mem_toDigits (by decide) (by decide) hch
  have hvalues : sliceId.toList.map hexValue = sliceId.toList.map (fun ch => ch.toNat - 48) := by
    refine List.map_congr_left fun ch hch => ?_
    have hrange : 48 ≤ ch.toNat ∧ ch.toNat ≤ 57 := by
      simpa [Char.isDigit, UInt32.le_iff_toNat_le] using hdigit ch hch
    rw [hexValue_eq, if_pos hrange.2]
  have hten : Numerals.value 10 (sliceId.toList.map hexValue) = idValue sliceId := by
    rw [hvalues, htext]
    exact Numerals.value_toDigits (by decide) (fun d hd => Nat.toNat_digitChar_sub_48_of_lt_ten hd) _
  have hlarge : 10 ^ 5 ≤ idValue sliceId := by
    by_contra hlt
    have hshort := (Nat.length_toDigits_le_iff (b := 10) (by decide) (by decide : 0 < 5)).2 (Nat.lt_of_not_le hlt)
    rw [← htext, String.length_toList, h.1] at hshort
    exact absurd hshort (by decide)
  obtain ⟨hlength, hlt⟩ := code_digits h
  rcases List.eq_nil_or_concat (sliceId.toList.map hexValue) with hnil | ⟨digits, d, hdigits⟩
  · rw [hnil] at hlength
    cases hlength
  · have hmono := Numerals.value_mono (by decide : 10 ≤ 16) digits
    have hsixteen : Numerals.value 16 (sliceId.toList.map hexValue) = idValue sliceId := rfl
    have hd : d < 16 := hlt d (by rw [hdigits, List.concat_eq_append]; exact List.mem_append_right _ List.mem_cons_self)
    rw [hdigits, List.concat_eq_append, Numerals.value_append] at hten hsixteen
    omega

end OpenAirInterface

end Nfvcl
