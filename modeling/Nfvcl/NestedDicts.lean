import Mathlib.Data.List.Basic
import Mathlib.Data.List.Infix
import Nfvcl.Migration001

namespace Nfvcl
set_option autoImplicit true

/-- `d[key] = value`: in its place, or at the end. -/
def PyDict.set : PyDict → String → PyValue → PyDict
  | [], key, value => [(.str key, value)]
  | entry :: entries, key, value =>
    if entry.1 = .str key then (entry.1, value) :: entries else entry :: PyDict.set entries key value

theorem PyDict.get?_set (d : PyDict) (key : String) (value : PyValue) (other : String) :
    PyDict.get? (PyDict.set d key value) other = if other = key then some value else PyDict.get? d other := by
  have hlookup : ∀ (e : PyKey × PyValue) (es : PyDict),
      PyDict.get? (e :: es) other = if e.1 = .str other then some e.2 else PyDict.get? es other := by
    intro e es
    unfold PyDict.get?
    rw [List.lookup_cons]
    by_cases he : e.1 = .str other
    · rw [if_pos he, he, beq_self_eq_true]
    · rw [if_neg he, beq_eq_false_iff_ne.2 (Ne.symm he)]
  have hkey : ∀ (e : PyKey × PyValue) (es : PyDict), e.1 = .str key → PyDict.get? (e :: es) other =
      if other = key then some e.2 else PyDict.get? es other := by
    intro e es he
    rw [hlookup, he]
    by_cases h : other = key
    · rw [if_pos h, if_pos (by rw [h])]
    · rw [if_neg h, if_neg (fun heq => h (PyKey.str.inj heq).symm)]
  induction d with
  | nil => exact hkey (.str key, value) [] rfl
  | cons entry entries ih =>
    rw [PyDict.set]
    by_cases hentry : entry.1 = .str key
    · rw [if_pos hentry, hkey (entry.1, value) entries hentry, hkey entry entries hentry]
      split
      · rfl
      · rfl
    · rw [if_neg hentry, hlookup, hlookup, ih]
      by_cases h : other = key
      · rw [if_pos h, if_pos h, if_neg (by rw [h]; exact hentry)]
      · rw [if_neg h, if_neg h]

namespace NestedDicts

open Migration001 (typeName badSubscript)

/-- `v[key]`. -/
def getItem (v : PyValue) (key : String) : Except PyError PyValue :=
  match v with
  | .dict d => PyDict.getItem d key
  | v => .error (badSubscript v)

/-- `key in v`. -/
def contains (v : PyValue) (key : String) : Except PyError Bool :=
  match v with
  | .dict d => .ok (PyDict.get? d key).isSome
  | .list items => .ok (items.any (PyValue.beq (.str key)))
  | .str s => .ok (decide (key.toList <:+: s.toList))
  | v => .error (.typeError ("argument of type '" ++ typeName v ++ "' is not iterable"))

/-- `v[key] = item`. -/
def setItem (v : PyValue) (key : String) (item : PyValue) : Except PyError PyValue :=
  match v with
  | .dict d => .ok (.dict (PyDict.set d key item))
  | .list _ => .error (.typeError "list indices must be integers or slices, not str")
  | v => .error (.typeError ("'" ++ typeName v ++ "' object does not support item assignment"))

/-- `keys.split(".", 1)` of a text with a point. -/
def splitFirst : List Char → Option (List Char × List Char)
  | [] => none
  | c :: keys => if c = '.' then some ([], keys) else (splitFirst keys).map (fun parts => (c :: parts.1, parts.2))

theorem splitFirst_none : splitFirst keys = none ↔ '.' ∉ keys := by
  induction keys with
  | nil => exact iff_of_true rfl List.not_mem_nil
  | cons c keys ih =>
    rw [splitFirst]
    by_cases hc : c = '.'
    · rw [if_pos hc, hc]
      exact iff_of_false (fun h => (nomatch h)) (fun h => h List.mem_cons_self)
    · rw [if_neg hc, Option.map_eq_none_iff, ih, List.mem_cons, not_or]
      exact (and_iff_right (Ne.symm hc)).symm

theorem splitFirst_some (h : splitFirst keys = some (key, rest)) : keys = key ++ '.' :: rest ∧ '.' ∉ key := by
  induction keys generalizing key with
  | nil => cases h
  | cons c keys ih =>
    rw [splitFirst] at h
    by_cases hc : c = '.'
    · rw [if_pos hc] at h
      cases h
      exact ⟨by rw [hc]; rfl, List.not_mem_nil⟩
    · rw [if_neg hc] at h
      obtain ⟨⟨first, later⟩, hparts, heq⟩ := Option.map_eq_some_iff.1 h
      cases heq
      obtain ⟨hkeys, hfirst⟩ := ih hparts
      exact ⟨by rw [hkeys]; rfl, fun hmem => (List.mem_cons.1 hmem).elim (fun h => hc h.symm) hfirst⟩

theorem length_splitFirst (h : splitFirst keys = some (key, rest)) : rest.length < keys.length := by
  rw [(splitFirst_some h).1, List.length_append, List.length_cons]
  omega

def getFrom (d : PyValue) (keys : List Char) : Except PyError PyValue :=
  match h : splitFirst keys with
  | some (key, rest) => do
    have := length_splitFirst h
    getFrom (← getItem d (String.ofList key)) rest
  | none => getItem d (String.ofList keys)
termination_by keys.length

/-- The dictionary as the call leaves it. A call that raises has changed nothing: it only adds
levels under a level it adds. -/
def putIn (d : PyValue) (keys : List Char) (item : PyValue) : Except PyError PyValue :=
  match h : splitFirst keys with
  | some (key, rest) => do
    have := length_splitFirst h
    let d ← if ← contains d (String.ofList key) then pure d else setItem d (String.ofList key) (.dict [])
    setItem d (String.ofList key) (← putIn (← getItem d (String.ofList key)) rest item)
  | none => setItem d (String.ofList keys) item
termination_by keys.length

def getFromNestedDict (d : PyValue) (keys : String) : Except PyError PyValue :=
  getFrom d keys.toList

def putInNestedDict (d : PyValue) (keys : String) (item : PyValue) : Except PyError PyValue :=
  putIn d keys.toList item

/-! ### Along the segments of a key -/

def segments (keys : List Char) : List String :=
  (keys.splitOn '.').map String.ofList

theorem segments_first (h : splitFirst keys = some (key, rest)) : segments keys = String.ofList key :: segments rest := by
  obtain ⟨hkeys, hkey⟩ := splitFirst_some h
  rw [segments, hkeys, List.splitOn_append_cons_self_of_not_mem hkey]
  rfl

theorem segments_last (h : splitFirst keys = none) : segments keys = [String.ofList keys] := by
  rw [segments, List.splitOn_eq_singleton (splitFirst_none.1 h)]
  rfl

theorem segments_ne_nil (keys : List Char) : segments keys ≠ [] := by
  cases h : splitFirst keys with
  | none =>
    rw [segments_last h]
    exact List.cons_ne_nil _ _
  | some parts =>
    obtain ⟨key, rest⟩ := parts
    rw [segments_first h]
    exact List.cons_ne_nil _ _

def getPath (d : PyValue) : List String → Except PyError PyValue
  | [] => .ok d
  | key :: path => getItem d key >>= fun v => getPath v path

def putPath (d : PyValue) (item : PyValue) : List String → Except PyError PyValue
  | [] => .ok item
  | [key] => setItem d key item
  | key :: path => do
    let d ← if ← contains d key then pure d else setItem d key (.dict [])
    setItem d key (← putPath (← getItem d key) item path)

theorem getFrom_eq (d : PyValue) (keys : List Char) : getFrom d keys = getPath d (segments keys) := by
  induction hlen : keys.length using Nat.strongRecOn generalizing d keys with
  | ind n ih =>
    rw [getFrom]
    split
    · rename_i key rest hsplit
      rw [segments_first hsplit, getPath]
      apply bind_congr
      intro v
      exact ih rest.length (hlen ▸ length_splitFirst hsplit) v rest rfl
    · rename_i hsplit
      rw [segments_last hsplit, getPath]
      exact (bind_pure _).symm

theorem putPath_cons (d item : PyValue) (key : String) (hpath : path ≠ []) : putPath d item (key :: path) = (do
    let d ← if ← contains d key then pure d else setItem d key (.dict [])
    setItem d key (← putPath (← getItem d key) item path)) := by
  cases path with
  | nil => exact absurd rfl hpath
  | cons next path => rfl

theorem putIn_eq (d : PyValue) (keys : List Char) (item : PyValue) : putIn d keys item = putPath d item (segments keys) := by
  induction hlen : keys.length using Nat.strongRecOn generalizing d keys with
  | ind n ih =>
    rw [putIn]
    split
    · rename_i key rest hsplit
      rw [segments_first hsplit, putPath_cons _ _ _ (segments_ne_nil rest)]
      simp only [ih rest.length (hlen ▸ length_splitFirst hsplit) _ rest rfl]
    · rename_i hsplit
      rw [segments_last hsplit]
      rfl

/-! ### A write and the reads after it -/

/-- What a read gives: of a `KeyError`, only that it is one. -/
inductive Reading where
  | value (v : PyValue)
  | keyError
  | raised (e : PyError)

def reading : Except PyError PyValue → Reading
  | .ok v => .value v
  | .error (.keyError _) => .keyError
  | .error e => .raised e

/-- No key that ends before this one leads to anything but a dictionary. -/
def Open (d : PyValue) (path : List String) : Prop :=
  ∀ before, before <+: path → before ≠ path → ∀ v, getPath d before = .ok v → ∃ entries, v = .dict entries

/-- Neither key starts with the segments of the other. -/
def Apart (path path' : List String) : Prop :=
  ¬ path <+: path' ∧ ¬ path' <+: path

theorem getPath_dict (entries : PyDict) (key : String) (path : List String) : getPath (.dict entries) (key :: path) =
    (PyDict.get? entries key).elim (.error (.keyError key)) (fun v => getPath v path) := by
  rw [getPath, getItem, PyDict.getItem]
  cases PyDict.get? entries key <;> rfl

theorem getPath_found (h : PyDict.get? entries key = some v) (path : List String) :
    getPath (.dict entries) (key :: path) = getPath v path := by
  rw [getPath_dict, h, Option.elim_some]

theorem getPath_missing (h : PyDict.get? entries key = none) (path : List String) :
    getPath (.dict entries) (key :: path) = .error (.keyError key) := by
  rw [getPath_dict, h, Option.elim_none]

theorem getPath_congr {entries entries' : PyDict} (h : PyDict.get? entries' key = PyDict.get? entries key) (path : List String) :
    getPath (.dict entries') (key :: path) = getPath (.dict entries) (key :: path) := by
  rw [getPath_dict, getPath_dict, h]

/-- A write to a dictionary, with the sub-dictionary it goes on in: the one that is there, or a new one. -/
theorem putPath_dict (entries : PyDict) (item : PyValue) (key : String) (hpath : path ≠ []) :
    ∃ entries' sub, (PyDict.get? entries key = some sub ∨ PyDict.get? entries key = none ∧ sub = .dict []) ∧
      (∀ other, other ≠ key → PyDict.get? entries' other = PyDict.get? entries other) ∧
      putPath (.dict entries) item (key :: path) = putPath sub item path >>= fun v => .ok (.dict (PyDict.set entries' key v)) := by
  rw [putPath_cons _ _ _ hpath]
  have hitem : ∀ {d : PyDict} {sub : PyValue}, PyDict.get? d key = some sub → getItem (.dict d) key = .ok sub := by
    intro d sub h
    rw [getItem, PyDict.getItem, h]
  cases hget : PyDict.get? entries key with
  | some sub =>
    have hin : contains (.dict entries) key = .ok true := by
      rw [contains, hget, Option.isSome_some]
    refine ⟨entries, sub, .inl rfl, fun _ _ => rfl, ?_⟩
    rw [hin]
    change (getItem (.dict entries) key >>= fun d => putPath d item path >>= fun v => setItem (.dict entries) key v) = _
    rw [hitem hget]
    rfl
  | none =>
    have hin : contains (.dict entries) key = .ok false := by
      rw [contains, hget, Option.isSome_none]
    have hnew : PyDict.get? (PyDict.set entries key (.dict [])) key = some (.dict []) := by
      rw [PyDict.get?_set, if_pos rfl]
    refine ⟨PyDict.set entries key (.dict []), .dict [], .inr ⟨rfl, rfl⟩, ?_, ?_⟩
    · intro other hother
      rw [PyDict.get?_set, if_neg hother]
    · rw [hin]
      change (getItem (.dict (PyDict.set entries key (.dict []))) key >>= fun d => putPath d item path >>= fun v =>
        setItem (.dict (PyDict.set entries key (.dict []))) key v) = _
      rw [hitem hnew]
      rfl

theorem put_then_get (entries : PyDict) (path : List String) (hpath : path ≠ []) (hopen : Open (.dict entries) path)
    (v : PyValue) :
    ∃ entries', putPath (.dict entries) v path = .ok (.dict entries') ∧ getPath (.dict entries') path = .ok v ∧
      ∀ other, other ≠ [] → Apart path other →
        reading (getPath (.dict entries') other) = reading (getPath (.dict entries) other) := by
  induction path generalizing entries with
  | nil => exact absurd rfl hpath
  | cons key path ih =>
    have hheads : ∀ {entries' : PyDict}, (∀ other, other ≠ key → PyDict.get? entries' other = PyDict.get? entries other) →
        ∀ next later, next ≠ key →
          reading (getPath (.dict entries') (next :: later)) = reading (getPath (.dict entries) (next :: later)) :=
      fun hsame next later hnext => congrArg reading (getPath_congr (hsame next hnext) later)
    by_cases hlast : path = []
    · subst hlast
      have hsame : ∀ other, other ≠ key → PyDict.get? (PyDict.set entries key v) other = PyDict.get? entries other := by
        intro other hother
        rw [PyDict.get?_set, if_neg hother]
      refine ⟨PyDict.set entries key v, rfl, ?_, ?_⟩
      · rw [getPath_found (v := v) (by rw [PyDict.get?_set, if_pos rfl])]
        rfl
      · intro other hother hapart
        obtain ⟨next, later, rfl⟩ := List.exists_cons_of_ne_nil hother
        apply hheads hsame
        rintro rfl
        exact hapart.1 ⟨later, rfl⟩
    · obtain ⟨entries₁, sub, hsub, hsame, hput⟩ := putPath_dict entries v key hlast
      have hdict : ∃ inner, sub = .dict inner := by
        rcases hsub with hget | ⟨-, hsub⟩
        · have hbefore : [key] <+: key :: path := ⟨path, rfl⟩
          apply hopen [key] hbefore
          · intro heq
            exact hlast (List.cons.inj heq).2.symm
          · exact getPath_found hget []
        · exact ⟨[], hsub⟩
      obtain ⟨inner, rfl⟩ := hdict
      have hinner : Open (.dict inner) path := by
        intro before hbefore hne w hw
        rcases hsub with hget | ⟨-, hempty⟩
        · apply hopen (key :: before) (List.cons_prefix_cons.2 ⟨rfl, hbefore⟩)
          · intro heq
            exact hne (List.cons.inj heq).2
          · rw [getPath_found hget]
            exact hw
        · cases hempty
          cases before with
          | nil =>
            cases hw
            exact ⟨[], rfl⟩
          | cons first before =>
            rw [getPath_missing rfl] at hw
            cases hw
      obtain ⟨inner', hrun, hget, hothers⟩ := ih inner hlast hinner
      have hset : ∀ other, other ≠ key →
          PyDict.get? (PyDict.set entries₁ key (.dict inner')) other = PyDict.get? entries other := by
        intro other hother
        rw [PyDict.get?_set, if_neg hother, hsame other hother]
      have hnew : PyDict.get? (PyDict.set entries₁ key (.dict inner')) key = some (.dict inner') := by
        rw [PyDict.get?_set, if_pos rfl]
      refine ⟨PyDict.set entries₁ key (.dict inner'), ?_, ?_, ?_⟩
      · rw [hput, hrun]
        rfl
      · rw [getPath_found hnew]
        exact hget
      · intro other hother hapart
        obtain ⟨next, later, rfl⟩ := List.exists_cons_of_ne_nil hother
        by_cases hnext : next = key
        · subst hnext
          have hlater : later ≠ [] := by
            rintro rfl
            exact hapart.2 ⟨path, rfl⟩
          have hdeeper : Apart path later :=
            ⟨fun h => hapart.1 (List.cons_prefix_cons.2 ⟨rfl, h⟩), fun h => hapart.2 (List.cons_prefix_cons.2 ⟨rfl, h⟩)⟩
          rw [getPath_found hnew, hothers later hlater hdeeper]
          rcases hsub with hget | ⟨hmissing, hempty⟩
          · rw [getPath_found hget]
          · cases hempty
            obtain ⟨first, rest, rfl⟩ := List.exists_cons_of_ne_nil hlater
            rw [getPath_missing hmissing, getPath_missing rfl]
            rfl
        · exact hheads hset next later hnext

/-- The first segments of a key are a key. -/
theorem segments_prefix (keys : List Char) (hne : before ≠ []) (h : before <+: segments keys) :
    ∃ text, segments text = before := by
  induction hlen : keys.length using Nat.strongRecOn generalizing keys before with
  | ind n ih =>
    obtain ⟨first, later, rfl⟩ := List.exists_cons_of_ne_nil hne
    cases hsplit : splitFirst keys with
    | none =>
      rw [segments_last hsplit, List.cons_prefix_cons] at h
      refine ⟨keys, ?_⟩
      rw [segments_last hsplit, List.prefix_nil.1 h.2, h.1]
    | some parts =>
      obtain ⟨key, rest⟩ := parts
      have hkey := (splitFirst_some hsplit).2
      rw [segments_first hsplit, List.cons_prefix_cons] at h
      obtain ⟨rfl, hlater⟩ := h
      by_cases hlast : later = []
      · refine ⟨key, ?_⟩
        rw [hlast, segments_last (splitFirst_none.2 hkey)]
      · obtain ⟨text, rfl⟩ := ih rest.length (hlen ▸ length_splitFirst hsplit) rest hlast hlater rfl
        refine ⟨key ++ '.' :: text, ?_⟩
        rw [segments, List.splitOn_append_cons_self_of_not_mem hkey]
        rfl

/-- No proper prefix of the key leads to anything but a dictionary. -/
def Fits (d : PyDict) (k : String) : Prop :=
  ∀ before : String, segments before.toList <+: segments k.toList → segments before.toList ≠ segments k.toList →
    ∀ v, getFromNestedDict (.dict d) before = .ok v → ∃ entries, v = .dict entries

theorem Fits.open (h : Fits d k) : Open (.dict d) (segments k.toList) := by
  intro before hbefore hne v hv
  by_cases hnil : before = []
  · subst hnil
    cases hv
    exact ⟨d, rfl⟩
  · obtain ⟨text, rfl⟩ := segments_prefix k.toList hnil hbefore
    have htext : (String.ofList text).toList = text := String.toList_ofList
    apply h (String.ofList text)
    · rw [htext]
      exact hbefore
    · rw [htext]
      exact hne
    · rw [getFromNestedDict, htext, getFrom_eq]
      exact hv

theorem fits_sibling : Fits [(.str "a", .dict [(.str "b", .int 1)])] "a.c" := by
  intro before hbefore hne v hv
  have hsegments : segments "a.c".toList = ["a", "c"] := by decide
  rw [hsegments] at hbefore hne
  rw [getFromNestedDict, getFrom_eq] at hv
  obtain ⟨first, later, heq⟩ := List.exists_cons_of_ne_nil (segments_ne_nil before.toList)
  rw [heq] at hbefore hne hv
  obtain ⟨rfl, hlater⟩ := List.cons_prefix_cons.1 hbefore
  cases later with
  | nil =>
    cases hv
    exact ⟨_, rfl⟩
  | cons second later =>
    obtain ⟨rfl, hend⟩ := List.cons_prefix_cons.1 hlater
    rw [List.prefix_nil.1 hend] at hne
    exact absurd rfl hne

end NestedDicts

end Nfvcl
