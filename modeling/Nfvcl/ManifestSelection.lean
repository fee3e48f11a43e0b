import Mathlib.Data.List.Dedup
import Mathlib.Data.List.Perm.Basic
import Mathlib.Data.List.ReduceOption
import Nfvcl.PluginManifests

namespace Nfvcl.PluginManifests
set_option autoImplicit true
open Effects Doubles

/-! ### Versions -/

theorem isDigit_of_isNumber {text : List Char} (h : isNumber text = true) : ∀ c ∈ text, c.isDigit = true := by
  unfold isNumber at h
  rw [Bool.and_eq_true, List.all_eq_true] at h
  exact h.2

theorem number_lt {digits : List Char} (h : isNumber digits = true) : number digits < 10 ^ digits.length := by
  unfold number
  rw [← List.length_map (f := fun c : Char => c.toNat - 48)]
  apply Numerals.value_lt
  intro d hd
  obtain ⟨c, hc, rfl⟩ := List.mem_map.1 hd
  have hrange := isDigit_of_isNumber h c hc
  simp only [Char.isDigit, Bool.and_eq_true, decide_eq_true_eq, UInt32.le_iff_toNat_le] at hrange
  have hmin : 48 ≤ c.toNat := hrange.1
  have hmax : c.toNat ≤ 57 := hrange.2
  omega

theorem number_append (whole places : List Char) :
    number (whole ++ places) = number whole * 10 ^ places.length + number places := by
  unfold number
  rw [List.map_append, Numerals.value_append_digits, List.length_map]

/-- `A.B`, with the digits as they are written. -/
structure Version where
  major : List Char
  minor : List Char
  majorNumber : isNumber major = true
  minorNumber : isNumber minor = true

namespace Version

def text (v : Version) : List Char :=
  v.major ++ '.' :: v.minor

/-- The numeric order of (major, minor). -/
def Le (v w : Version) : Prop :=
  number v.major < number w.major ∨ number v.major = number w.major ∧ number v.minor ≤ number w.minor

instance (v w : Version) : Decidable (v.Le w) :=
  inferInstanceAs (Decidable (_ ∨ _))

/-- The order of the decimals the texts read as. -/
def DecimalLe (v w : Version) : Prop :=
  number v.major < number w.major ∨ number v.major = number w.major ∧
    number v.minor * 10 ^ w.minor.length ≤ number w.minor * 10 ^ v.minor.length

def double (v : Version) : Nat :=
  decimal v.major v.minor

/-- The order in which the code compares versions. -/
def ReadsLe (v w : Version) : Prop :=
  v.DecimalLe w ∨ v.double = w.double

theorem decimalLe_iff (v w : Version) :
    v.DecimalLe w ↔ number (v.major ++ v.minor) * 10 ^ w.minor.length ≤ number (w.major ++ w.minor) * 10 ^ v.minor.length := by
  have hv := number_lt v.minorNumber
  have hw := number_lt w.minorNumber
  rw [number_append, number_append]
  unfold DecimalLe
  have hp : 0 < 10 ^ v.minor.length := Nat.pow_pos (by decide)
  have hq : 0 < 10 ^ w.minor.length := Nat.pow_pos (by decide)
  generalize 10 ^ v.minor.length = p at hv hp ⊢
  generalize 10 ^ w.minor.length = q at hw hq ⊢
  generalize number v.major = a
  generalize number w.major = b
  generalize number v.minor = c at hv ⊢
  generalize number w.minor = d at hw ⊢
  have hc : c * q < p * q := Nat.mul_lt_mul_of_pos_right hv hq
  have hd : d * p < q * p := Nat.mul_lt_mul_of_pos_right hw hp
  rcases Nat.lt_trichotomy a b with hlt | rfl | hgt
  · have hmul : (a + 1) * (p * q) ≤ b * (p * q) := Nat.mul_le_mul_right _ hlt
    constructor
    · intro _
      nlinarith
    · intro _
      exact .inl hlt
  · constructor
    · intro h
      rcases h with h | h
      · exact absurd h (Nat.lt_irrefl a)
      · nlinarith [h.2]
    · intro h
      right
      refine ⟨rfl, ?_⟩
      nlinarith
  · have hmul : (b + 1) * (p * q) ≤ a * (p * q) := Nat.mul_le_mul_right _ hgt
    constructor
    · intro h
      omega
    · intro h
      exfalso
      nlinarith

theorem double_le_iff (v w : Version) : v.double ≤ w.double ↔ v.ReadsLe w := by
  have hp : 0 < 10 ^ v.minor.length := Nat.pow_pos (by decide)
  have hq : 0 < 10 ^ w.minor.length := Nat.pow_pos (by decide)
  constructor
  · intro h
    by_cases hdecimal : v.DecimalLe w
    · exact .inl hdecimal
    · right
      rw [decimalLe_iff] at hdecimal
      exact Nat.le_antisymm h (nearest_mono hq hp (Nat.le_of_not_le hdecimal))
  · intro h
    rcases h with h | h
    · exact nearest_mono hp hq ((decimalLe_iff v w).1 h)
    · exact Nat.le_of_eq h

theorem not_mem_text {c : Char} (hc : c.isDigit = false) (hdot : c ≠ '.') (v : Version) : c ∉ v.text := by
  intro hmem
  rcases List.mem_append.1 hmem with hmajor | hrest
  · rw [isDigit_of_isNumber v.majorNumber c hmajor] at hc
    cases hc
  · rcases List.mem_cons.1 hrest with hpoint | hminor
    · exact hdot hpoint
    · rw [isDigit_of_isNumber v.minorNumber c hminor] at hc
      cases hc

theorem float_text (other : List Char → Except PyError (Option Nat)) (v : Version) :
    float other v.text = .ok (some v.double) := by
  have hnone {digits : List Char} (h : isNumber digits = true) : '.' ∉ digits := by
    intro hmem
    cases isDigit_of_isNumber h '.' hmem
  have hsplit : v.text.splitOn '.' = [v.major, v.minor] := by
    rw [text, List.splitOn_append_cons_self_of_not_mem (hnone v.majorNumber), List.splitOn_eq_singleton (hnone v.minorNumber)]
  simp only [float, hsplit, v.majorNumber, v.minorNumber, Bool.and_self, if_true]
  rfl

end Version

/-! ### File names -/

/-- `vA.B+_module.ext` or `vA.B-vC.D_module.ext`. -/
structure Manifest where
  lower : Version
  upper : Option Version
  moduleName : List Char
  ext : List Char
  oneWord : '_' ∉ moduleName ∧ '.' ∉ moduleName

namespace Manifest

def interval (m : Manifest) : List Char :=
  match m.upper with
  | none => 'v' :: (m.lower.text ++ ['+'])
  | some upper => ('v' :: m.lower.text) ++ '-' :: ('v' :: upper.text)

def fileName (m : Manifest) : String :=
  String.ofList (m.interval ++ '_' :: (m.moduleName ++ '.' :: m.ext))

def Covers (m : Manifest) (cluster : Version) : Prop :=
  m.lower.Le cluster ∧ ∀ upper ∈ m.upper, cluster.Le upper

instance (m : Manifest) (cluster : Version) : Decidable (m.Covers cluster) :=
  inferInstanceAs (Decidable (_ ∧ _))

/-- The interval holds the cluster version in the order of the code. -/
def Reads (m : Manifest) (cluster : Version) : Prop :=
  m.lower.ReadsLe cluster ∧ ∀ upper ∈ m.upper, cluster.ReadsLe upper

def bounds (m : Manifest) : Bounds :=
  match m.upper with
  | none => ⟨some m.lower.double, some 0, true⟩
  | some upper => ⟨some m.lower.double, some upper.double, false⟩

theorem readBounds_interval (other : List Char → Except PyError (Option Nat)) (path : String) (m : Manifest) :
    readBounds other path m.interval = .ok m.bounds := by
  have hdash : '-' ∉ 'v' :: m.lower.text := by
    intro h
    rcases List.mem_cons.1 h with h | h
    · cases h
    · exact Version.not_mem_text (by decide) (by decide) m.lower h
  unfold interval bounds
  cases m.upper with
  | none =>
    have hone : '-' ∉ 'v' :: (m.lower.text ++ ['+']) := by
      rw [← List.cons_append, List.mem_append]
      intro h
      rcases h with h | h
      · exact hdash h
      · cases List.mem_singleton.1 h
    have hlast : ('v' :: (m.lower.text ++ ['+'])).getLast? = some '+' := by
      rw [← List.cons_append]
      exact List.getLast?_concat
    have hcut : ('v' :: (m.lower.text ++ ['+'])).dropLast.drop 1 = m.lower.text := by
      rw [← List.cons_append, List.dropLast_concat]
      rfl
    simp only [readBounds, List.splitOn_eq_singleton hone, hlast, hcut, Version.float_text, if_true]
    rfl
  | some upper =>
    have hupper : '-' ∉ 'v' :: upper.text := by
      intro h
      rcases List.mem_cons.1 h with h | h
      · cases h
      · exact Version.not_mem_text (by decide) (by decide) upper h
    simp only [readBounds, List.splitOn_append_cons_self_of_not_mem hdash, List.splitOn_eq_singleton hupper,
      List.drop_one, List.tail_cons, Version.float_text]
    rfl

theorem not_mem_interval (m : Manifest) : '_' ∉ m.interval := by
  have hlower := Version.not_mem_text (c := '_') (by decide) (by decide) m.lower
  unfold interval
  cases m.upper with
  | none => simp [hlower]
  | some upper =>
    have hupper := Version.not_mem_text (c := '_') (by decide) (by decide) upper
    simp [hlower, hupper]

/-- The second part of a name starts with the module, up to its point. -/
theorem moduleName_part (m : Manifest) :
    ∃ part parts, (m.moduleName ++ '.' :: m.ext).splitOn '_' = part :: parts ∧
      (part.splitOn '.').headD [] = m.moduleName := by
  obtain ⟨hword, hpoint⟩ := m.oneWord
  by_cases hmem : '_' ∈ m.ext
  · obtain ⟨before, after, hext, hbefore⟩ := List.eq_append_cons_of_mem hmem
    have hfirst : '_' ∉ m.moduleName ++ '.' :: before := by simp [hword, hbefore]
    refine ⟨m.moduleName ++ '.' :: before, after.splitOn '_', ?_, ?_⟩
    · rw [hext, ← List.cons_append, ← List.append_assoc, List.splitOn_append_cons_self_of_not_mem hfirst]
    · rw [List.splitOn_append_cons_self_of_not_mem hpoint]
      rfl
  · have hall : '_' ∉ m.moduleName ++ '.' :: m.ext := by simp [hword, hmem]
    refine ⟨m.moduleName ++ '.' :: m.ext, [], List.splitOn_eq_singleton hall, ?_⟩
    rw [List.splitOn_append_cons_self_of_not_mem hpoint]
    rfl

/-- What the loop appends for a manifest. -/
def entry (folder : String) (m : Manifest) : String × String :=
  (folder ++ "/" ++ m.fileName, String.ofList m.moduleName)

def inside (m : Manifest) (cluster : Version) : Bool :=
  floatLe m.bounds.lowerVersion (some cluster.double) &&
    (floatLe (some cluster.double) m.bounds.upperVersion || m.bounds.noUpperLimit)

theorem inside_iff (m : Manifest) (cluster : Version) : m.inside cluster = true ↔ m.Reads cluster := by
  unfold inside bounds Reads
  cases m.upper with
  | none => simp [floatLe, Version.double_le_iff]
  | some upper => simp [floatLe, Version.double_le_iff]

end Manifest

/-- `vX.Y`. -/
def clusterText (cluster : Version) : String :=
  String.ofList ('v' :: cluster.text)

variable {other : List Char → Except PyError (Option Nat)} {folder : String} {cluster : Version}

theorem targetModule_fileName (m : Manifest) :
    targetModule other (clusterText cluster) folder m.fileName =
      .ok (if m.inside cluster then some (m.entry folder) else none) := by
  obtain ⟨part, parts, hparts, hmodule⟩ := m.moduleName_part
  have hname : m.fileName.toList.splitOn '_' = m.interval :: part :: parts := by
    rw [Manifest.fileName, String.toList_ofList, List.splitOn_append_cons_self_of_not_mem m.not_mem_interval, hparts]
  have hcluster : (clusterText cluster).toList.drop 1 = cluster.text := by
    rw [clusterText, String.toList_ofList]
    rfl
  unfold targetModule
  rw [hname]
  simp only [m.readBounds_interval, hcluster, Version.float_text, hmodule]
  change (if m.inside cluster = true then _ else _) = _
  by_cases hinside : m.inside cluster = true
  · rw [if_pos hinside, if_pos hinside]
    rfl
  · rw [if_neg hinside, if_neg hinside]
    rfl

/-- The files the loop collects. -/
def collected (cluster : Version) (files : List Manifest) : List Manifest :=
  files.filter (fun m => m.inside cluster)

theorem targets_ok (files : List Manifest) :
    (files.map Manifest.fileName).mapM (targetModule other (clusterText cluster) folder) =
      .ok (files.map (fun m => if m.inside cluster then some (m.entry folder) else none)) := by
  rw [mapM_ok_iff, List.forall₂_map_left_iff, List.forall₂_map_right_iff, List.forall₂_same]
  intro m _
  exact targetModule_fileName m

theorem reduceOption_collected (files : List Manifest) :
    (files.map (fun m => if m.inside cluster then some (m.entry folder) else none)).reduceOption =
      (collected cluster files).map (Manifest.entry folder) := by
  induction files with
  | nil => rfl
  | cons m files ih =>
    rw [List.map_cons, collected, List.filter_cons]
    by_cases hinside : m.inside cluster = true
    · rw [if_pos hinside, if_pos hinside, List.reduceOption_cons_of_some, ih, List.map_cons, collected]
    · rw [if_neg hinside, if_neg hinside, List.reduceOption_cons_of_none, ih, collected]

theorem getPluginConfigFiles_ok (other : List Char → Except PyError (Option Nat)) (folder : String)
    {files : List Manifest} (h : collected cluster files ≠ []) :
    getPluginConfigFiles other (clusterText cluster) folder (files.map Manifest.fileName) =
      .ok ((collected cluster files).map (Manifest.entry folder)) := by
  have hne : (collected cluster files).map (Manifest.entry folder) ≠ [] := fun he => h (List.map_eq_nil_iff.1 he)
  rw [getPluginConfigFiles, targets_ok]
  change (if _ = [] then _ else _) = _
  rw [reduceOption_collected, if_neg hne]
  rfl

theorem getPluginConfigFiles_none (other : List Char → Except PyError (Option Nat)) (folder : String)
    {files : List Manifest} (h : collected cluster files = []) :
    ∃ msg, getPluginConfigFiles other (clusterText cluster) folder (files.map Manifest.fileName) =
      .error (.valueError msg) := by
  rw [getPluginConfigFiles, targets_ok]
  change ∃ msg, (if _ = [] then _ else _) = _
  rw [reduceOption_collected, h, if_pos List.map_nil]
  exact ⟨_, rfl⟩

/-! ### The order of the modules -/

def moduleText (m : Manifest) : String :=
  String.ofList m.moduleName

def filePath (folder : String) (m : Manifest) : String :=
  folder ++ "/" ++ m.fileName

theorem idxOf?_module {chosen : List Manifest} (hnodup : (chosen.map moduleText).Nodup) (hm : m ∈ chosen) :
    ∃ i, (chosen.map moduleText).idxOf? (moduleText m) = some i ∧ chosen[i]? = some m := by
  induction chosen with
  | nil => cases hm
  | cons first chosen ih =>
    rw [List.map_cons, List.nodup_cons] at hnodup
    rw [List.map_cons, List.idxOf?_cons]
    rcases List.mem_cons.1 hm with rfl | hrest
    · exact ⟨0, by rw [beq_self_eq_true, if_pos rfl], rfl⟩
    · have hne : (moduleText first == moduleText m) = false := by
        rw [beq_eq_false_iff_ne]
        intro he
        exact hnodup.1 (he ▸ List.mem_map_of_mem hrest)
      obtain ⟨i, hi, hget⟩ := ih hnodup.2 hrest
      rw [hne, hi]
      exact ⟨i + 1, rfl, hget⟩

theorem lookup_module {chosen : List Manifest} (hnodup : (chosen.map moduleText).Nodup) (hm : m ∈ chosen) :
    (indexOf (moduleText m) (chosen.map moduleText) >>= atIndex (chosen.map (filePath folder))) =
      .ok (filePath folder m) := by
  obtain ⟨i, hi, hget⟩ := idxOf?_module hnodup hm
  have hpath : (chosen.map (filePath folder))[i]? = some (filePath folder m) := by
    rw [List.getElem?_map, hget]
    rfl
  simp only [indexOf, hi]
  change atIndex _ i = _
  rw [atIndex, hpath]

theorem checkOrder_ok {chosen ordered : List Manifest} (hperm : ordered.Perm chosen)
    (hnodup : (ordered.map moduleText).Nodup) :
    checkOrderFilesForPlugin (ordered.map moduleText) (chosen.map moduleText) (chosen.map (filePath folder)) =
      .ok (ordered.map (filePath folder)) := by
  have hlen := hperm.length_eq
  unfold checkOrderFilesForPlugin
  rw [if_neg (by rw [List.length_map, List.length_map, hlen]; exact fun h => h rfl), List.length_map]
  by_cases hshort : ordered.length ≤ 1
  · rw [if_pos hshort]
    have hsame : ordered = chosen := by
      cases chosen with
      | nil => exact List.perm_nil.1 hperm
      | cons m rest =>
        rw [List.length_cons] at hlen
        have hrest : rest = [] := List.eq_nil_of_length_eq_zero (by omega)
        subst hrest
        exact List.perm_singleton.1 hperm
    rw [hsame]
  · rw [if_neg hshort, mapM_ok_iff, List.forall₂_map_left_iff, List.forall₂_map_right_iff, List.forall₂_same]
    intro m hm
    have hchosen : (chosen.map moduleText).Nodup := (hperm.map moduleText).nodup_iff.1 hnodup
    exact lookup_module hchosen (hperm.subset hm)

/-- `index` of a module that is not there raises. -/
theorem lookups_missing {required : List String} {chosen : List Manifest} (hr : r ∈ required)
    (hmissing : r ∉ chosen.map moduleText) :
    ∃ msg, required.mapM (fun r => indexOf r (chosen.map moduleText) >>= atIndex (chosen.map (filePath folder))) =
      .error (.valueError msg) := by
  induction required with
  | nil => cases hr
  | cons first required ih =>
    rw [List.mapM_cons]
    cases hfirst : (chosen.map moduleText).idxOf? first with
    | none =>
      simp only [indexOf, hfirst]
      exact ⟨_, rfl⟩
    | some i =>
      have hmem : first ∈ chosen.map moduleText := by
        by_contra habsent
        rw [List.idxOf?_eq_none_iff.2 habsent] at hfirst
        cases hfirst
      have hlt : i < (chosen.map (filePath folder)).length := by
        rw [List.length_map, ← List.length_map (f := moduleText)]
        exact (List.findIdx?_eq_some_iff_getElem.1 hfirst).1
      rcases List.mem_cons.1 hr with rfl | hrest
      · exact absurd hmem hmissing
      · obtain ⟨msg, hmsg⟩ := ih hrest
        refine ⟨msg, ?_⟩
        rw [hmsg]
        simp only [indexOf, hfirst]
        change (atIndex _ i >>= _) = _
        rw [atIndex, List.getElem?_eq_getElem hlt]
        rfl

/-! ### Both functions together -/

/-- The files whose interval holds the cluster version. -/
def selected (cluster : Version) (files : List Manifest) : List Manifest :=
  files.filter (fun m => decide (m.Covers cluster))

structure SelectsFiles (other : List Char → Except PyError (Option Nat)) (folder : String) (cluster : Version)
    (files : List Manifest) : Prop where
  found : selected cluster files ≠ [] →
    getPluginConfigFiles other (clusterText cluster) folder (files.map Manifest.fileName) =
      .ok ((selected cluster files).map (Manifest.entry folder))
  none : selected cluster files = [] → ∃ msg,
    getPluginConfigFiles other (clusterText cluster) folder (files.map Manifest.fileName) = .error (.valueError msg)

structure OrdersFiles (result : Except PyError (List String)) (folder : String) (cluster : Version)
    (files : List Manifest) (required : List String) : Prop where
  ordered : ∀ ordered : List Manifest, ordered.Perm (selected cluster files) → ordered.map moduleText = required →
    result = .ok (ordered.map (filePath folder))
  refused : (¬ ∃ ordered : List Manifest, ordered.Perm (selected cluster files) ∧ ordered.map moduleText = required) →
    ∃ msg, result = .error (.valueError msg)

theorem exists_ordered {chosen : List Manifest} {required : List String} (h : required.Perm (chosen.map moduleText)) :
    ∃ ordered : List Manifest, ordered.Perm chosen ∧ ordered.map moduleText = required := by
  have hcomp : Relation.Comp (fun l u => l = List.map moduleText u) List.Perm required chosen := by
    rw [List.eq_map_comp_perm]
    exact h
  obtain ⟨ordered, hmodules, hperm⟩ := hcomp
  exact ⟨ordered, hperm, hmodules.symm⟩

section Checks

variable {chosen ordered : List Manifest} {required : List String} {k8sVersion shown : String}

theorem found_modules (folder : String) (chosen : List Manifest) :
    (chosen.map (Manifest.entry folder)).map Prod.snd = chosen.map moduleText := by
  rw [List.map_map]
  rfl

theorem found_paths (folder : String) (chosen : List Manifest) :
    (chosen.map (Manifest.entry folder)).map Prod.fst = chosen.map (filePath folder) := by
  rw [List.map_map]
  rfl

theorem checkModules_ok (hperm : ordered.Perm chosen) (hmodules : ordered.map moduleText = required)
    (hnodup : required.Nodup) :
    checkModules required k8sVersion shown (chosen.map (Manifest.entry folder)) = .ok (ordered.map (filePath folder)) := by
  subst hmodules
  unfold checkModules
  simp only [found_modules, found_paths]
  have hlen : (chosen.map moduleText).length = (ordered.map moduleText).length := by
    rw [List.length_map, List.length_map, hperm.length_eq]
  have hnone : (chosen.map moduleText).dedup.filter (fun m => decide (m ∉ ordered.map moduleText)) = [] := by
    rw [List.filter_eq_nil_iff]
    intro m hm hout
    exact of_decide_eq_true hout ((hperm.map moduleText).symm.subset (List.mem_dedup.1 hm))
  rw [if_pos hlen, hnone, if_neg (fun h => h rfl)]
  exact checkOrder_ok hperm hnodup

theorem checkModules_refused (hnone : ¬ ∃ ordered : List Manifest, ordered.Perm chosen ∧ ordered.map moduleText = required)
    (hnodup : required.Nodup) :
    ∃ msg, checkModules required k8sVersion shown (chosen.map (Manifest.entry folder)) = .error (.valueError msg) := by
  unfold checkModules
  simp only [found_modules, found_paths]
  by_cases hlen : (chosen.map moduleText).length = required.length
  · rw [if_pos hlen]
    by_cases hdiffering : (chosen.map moduleText).dedup.filter (fun m => decide (m ∉ required)) = []
    · rw [if_neg (fun h => h hdiffering)]
      -- the modules found are required ones, so a required one is missing
      have hsubset : ∀ m ∈ chosen.map moduleText, m ∈ required := by
        intro m hm
        have hnot := List.filter_eq_nil_iff.1 hdiffering m (List.mem_dedup.2 hm)
        exact Decidable.of_not_not (fun hout => hnot (decide_eq_true hout))
      have hmissing : ∃ r ∈ required, r ∉ chosen.map moduleText := by
        by_contra hall
        apply hnone
        apply exists_ordered
        have hsub : required ⊆ chosen.map moduleText := by
          intro r hr
          by_contra hout
          exact hall ⟨r, hr, hout⟩
        exact (List.subperm_of_subset hnodup hsub).perm_of_length_le hlen.le
      obtain ⟨r, hr, hout⟩ := hmissing
      have hlong : ¬ required.length ≤ 1 := by
        intro hshort
        have hpos := List.length_pos_of_mem hr
        obtain ⟨only, hrequired⟩ := List.length_eq_one_iff.1 (Nat.le_antisymm hshort hpos)
        obtain ⟨found, hfound⟩ := List.length_eq_one_iff.1 (hlen.trans (Nat.le_antisymm hshort hpos))
        have hsame := hsubset found (hfound ▸ List.mem_singleton.2 rfl)
        rw [hrequired] at hsame hr
        cases List.mem_singleton.1 hsame
        cases List.mem_singleton.1 hr
        exact hout (hfound ▸ List.mem_singleton.2 rfl)
      unfold checkOrderFilesForPlugin
      rw [if_neg (fun h => h hlen.symm), if_neg hlong]
      exact lookups_missing hr hout
    · rw [if_pos hdiffering]
      exact ⟨_, rfl⟩
  · rw [if_neg hlen]
    exact ⟨_, rfl⟩

end Checks

theorem entry_fst_injective {m m' : Manifest} (h : m.entry folder = m'.entry folder) : m.fileName = m'.fileName := by
  have hpath : folder ++ "/" ++ m.fileName = folder ++ "/" ++ m'.fileName := congrArg Prod.fst h
  rw [← String.toList_inj] at hpath
  simp only [String.toList_append] at hpath
  exact String.toList_inj.1 (List.append_cancel_left hpath)

theorem mem_collected_iff : m ∈ collected cluster files ↔ m ∈ files ∧ m.Reads cluster := by
  rw [collected, List.mem_filter, m.inside_iff]

theorem mem_selected_iff : m ∈ selected cluster files ↔ m ∈ files ∧ m.Covers cluster := by
  rw [selected, List.mem_filter, decide_eq_true_iff]

theorem collected_eq (h : ∀ m ∈ files, m.Reads cluster ↔ m.Covers cluster) :
    collected cluster files = selected cluster files := by
  apply List.filter_congr
  intro m hm
  rw [Bool.eq_iff_iff, m.inside_iff, decide_eq_true_iff]
  exact h m hm

theorem SelectsFiles.reads_iff (h : SelectsFiles other folder cluster files)
    (hlisting : (files.map Manifest.fileName).Nodup) : ∀ m ∈ files, m.Reads cluster ↔ m.Covers cluster := by
  intro m hm
  have hsame : m ∈ collected cluster files ↔ m ∈ selected cluster files := by
    by_cases hcollected : collected cluster files = []
    · obtain ⟨msg, hnone⟩ := getPluginConfigFiles_none other folder hcollected
      have hselected : selected cluster files = [] := by
        by_contra hne
        cases hnone.symm.trans (h.found hne)
      rw [hcollected, hselected]
    · have hrun := getPluginConfigFiles_ok other folder hcollected
      have hselected : selected cluster files ≠ [] := by
        intro hnil
        obtain ⟨msg, hnone⟩ := h.none hnil
        cases hrun.symm.trans hnone
      have hentries : (collected cluster files).map (Manifest.entry folder) =
          (selected cluster files).map (Manifest.entry folder) := by
        injection hrun.symm.trans (h.found hselected)
      have hinj := List.inj_on_of_nodup_map hlisting
      constructor
      · intro hmem
        have hentry := List.mem_map_of_mem (f := Manifest.entry folder) hmem
        rw [hentries] at hentry
        obtain ⟨m', hm', he⟩ := List.mem_map.1 hentry
        rw [← hinj (mem_selected_iff.1 hm').1 hm (entry_fst_injective he)]
        exact hm'
      · intro hmem
        have hentry := List.mem_map_of_mem (f := Manifest.entry folder) hmem
        rw [← hentries] at hentry
        obtain ⟨m', hm', he⟩ := List.mem_map.1 hentry
        rw [← hinj (mem_collected_iff.1 hm').1 hm (entry_fst_injective he)]
        exact hm'
  rw [mem_collected_iff, mem_selected_iff] at hsame
  exact ⟨fun hr => (hsame.1 ⟨hm, hr⟩).2, fun hc => (hsame.2 ⟨hm, hc⟩).2⟩

section Whole

variable {enabled rest : List K8sPlugin} {listdir : String → List String} {plugin shown : String}
  {required : List String} {files : List Manifest}

theorem getYaml_eq (hplugin : enabled.filter (fun p => decide (p.name = plugin)) = ⟨plugin, required⟩ :: rest)
    (hdir : listdir (pluginBasePath ++ plugin) = files.map Manifest.fileName) :
    getYamlFilesForPlugin other enabled listdir (clusterText cluster) plugin shown =
      (getPluginConfigFiles other (clusterText cluster) (pluginBasePath ++ plugin) (files.map Manifest.fileName) >>=
        checkModules required (clusterText cluster) shown) := by
  unfold getYamlFilesForPlugin
  rw [hplugin, ← hdir]

/-- The order of the versions as the code reads them has to be the numeric one, as far as the files
of the folder are concerned; and a folder without a fitting file has to be of a plugin with modules. -/
theorem selection_iff (hplugin : enabled.filter (fun p => decide (p.name = plugin)) = ⟨plugin, required⟩ :: rest)
    (hdir : listdir (pluginBasePath ++ plugin) = files.map Manifest.fileName)
    (hlisting : (files.map Manifest.fileName).Nodup) (hrequired : required.Nodup) :
    SelectsFiles other (pluginBasePath ++ plugin) cluster files ∧
      OrdersFiles (getYamlFilesForPlugin other enabled listdir (clusterText cluster) plugin shown)
        (pluginBasePath ++ plugin) cluster files required ↔
      (∀ m ∈ files, m.Reads cluster ↔ m.Covers cluster) ∧ (required = [] → ∃ m ∈ files, m.Covers cluster) := by
  rw [getYaml_eq hplugin hdir]
  constructor
  · intro h
    obtain ⟨hselects, horders⟩ := h
    have hreads := hselects.reads_iff hlisting
    refine ⟨hreads, ?_⟩
    intro hnothing
    by_contra huncovered
    have hselected : selected cluster files = [] := by
      rw [List.eq_nil_iff_forall_not_mem]
      intro m hm
      exact huncovered ⟨m, mem_selected_iff.1 hm⟩
    obtain ⟨msg, hnone⟩ := hselects.none hselected
    have hrun := horders.ordered [] (hselected ▸ List.Perm.refl []) hnothing.symm
    rw [hnone] at hrun
    cases hrun
  · intro h
    obtain ⟨hreads, hcovered⟩ := h
    have hsame := collected_eq hreads
    have hselects : SelectsFiles other (pluginBasePath ++ plugin) cluster files := by
      constructor
      · intro hne
        rw [← hsame] at hne ⊢
        exact getPluginConfigFiles_ok _ _ hne
      · intro hnil
        exact getPluginConfigFiles_none _ _ (hsame.trans hnil)
    refine ⟨hselects, ?_⟩
    by_cases hnil : selected cluster files = []
    · obtain ⟨msg, hnone⟩ := hselects.none hnil
      constructor
      · intro ordered hperm hmodules
        rw [hnil] at hperm
        rw [List.perm_nil.1 hperm] at hmodules
        obtain ⟨m, hm, hcovers⟩ := hcovered hmodules.symm
        have hmem := mem_selected_iff.2 ⟨hm, hcovers⟩
        rw [hnil] at hmem
        cases hmem
      · intro _
        rw [hnone]
        exact ⟨msg, rfl⟩
    · rw [hselects.found hnil]
      constructor
      · intro ordered hperm hmodules
        exact checkModules_ok hperm hmodules hrequired
      · intro hnone
        exact checkModules_refused hnone hrequired

end Whole

/-! ### A folder with two versions of a module -/

/-- A version from its numbers. -/
def version (major minor : String) (h : isNumber major.toList = true ∧ isNumber minor.toList = true) : Version where
  major := major.toList
  minor := minor.toList
  majorNumber := h.1
  minorNumber := h.2

theorem calico_word : '_' ∉ "calico".toList ∧ '.' ∉ "calico".toList := by decide

def manifest (lower : Version) (upper : Option Version) : Manifest where
  lower := lower
  upper := upper
  moduleName := "calico".toList
  ext := "yaml".toList
  oneWord := calico_word

theorem numbers_1_9 : isNumber "1".toList = true ∧ isNumber "9".toList = true := by decide
theorem numbers_1_17 : isNumber "1".toList = true ∧ isNumber "17".toList = true := by decide
theorem numbers_1_27 : isNumber "1".toList = true ∧ isNumber "27".toList = true := by decide

def v1_9 : Version := version "1" "9" numbers_1_9

def v1_17 : Version := version "1" "17" numbers_1_17

def v1_27 : Version := version "1" "27" numbers_1_27

/-- `float` for the texts that are not digits around a point. -/
def refuse (text : List Char) : Except PyError (Option Nat) :=
  .error (.valueError ("could not convert string to float: '" ++ String.ofList text ++ "'"))

def calico : K8sPlugin := ⟨"calico", ["calico"]⟩

def spanning : Manifest := manifest v1_17 (some v1_27)

def openEnded : Manifest := manifest v1_9 none

/-- A folder with one file. -/
def folderWith (m : Manifest) (_ : String) : List String :=
  [m.fileName]

theorem selection_spanning :
    SelectsFiles refuse (pluginBasePath ++ "calico") v1_17 [spanning] ∧
      OrdersFiles (getYamlFilesForPlugin refuse [calico] (folderWith spanning) (clusterText v1_17) "calico" "calico")
        (pluginBasePath ++ "calico") v1_17 [spanning] ["calico"] := by
  have hplugin : [calico].filter (fun p => decide (p.name = "calico")) = ⟨"calico", ["calico"]⟩ :: [] := by decide
  have hdir : folderWith spanning (pluginBasePath ++ "calico") = [spanning].map Manifest.fileName := rfl
  have hlisting : ([spanning].map Manifest.fileName).Nodup := List.nodup_singleton _
  apply (selection_iff hplugin hdir hlisting (List.nodup_singleton _)).2
  refine ⟨?_, fun h => nomatch h⟩
  intro m hm
  cases List.mem_singleton.1 hm
  have hcovers : spanning.Covers v1_17 := by decide
  refine ⟨fun _ => hcovers, fun _ => ?_⟩
  refine ⟨.inl (.inr ⟨rfl, by decide⟩), ?_⟩
  intro upper hupper
  cases hupper
  exact .inl (.inr ⟨rfl, by decide⟩)

/-- A file for v1.9 and later is not selected for v1.17. -/
theorem selection_fails :
    ¬ (SelectsFiles refuse (pluginBasePath ++ "calico") v1_17 [openEnded] ∧
      OrdersFiles (getYamlFilesForPlugin refuse [calico] (folderWith openEnded) (clusterText v1_17) "calico" "calico")
        (pluginBasePath ++ "calico") v1_17 [openEnded] ["calico"]) := by
  intro h
  have hreads := h.1.reads_iff (List.nodup_singleton _) openEnded (List.mem_singleton.2 rfl)
  have hcovers : openEnded.Covers v1_17 := by decide
  rcases (hreads.2 hcovers).1 with hdecimal | hsame
  · unfold Version.DecimalLe at hdecimal
    exact absurd hdecimal (by decide)
  · exact absurd hsame (by decide +kernel)

end Nfvcl.PluginManifests
