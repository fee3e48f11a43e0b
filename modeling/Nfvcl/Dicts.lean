import Mathlib.Data.List.Basic
import Nfvcl.KeyedList

namespace Nfvcl
set_option autoImplicit true

/-- A dictionary, in the order of insertion. -/
structure Dict (κ ν : Type) [DecidableEq κ] where
  items : List (κ × ν)
  unique : KeyedList.Unique Prod.fst items

namespace Dict

variable {κ ν : Type} [DecidableEq κ]

instance [DecidableEq ν] : DecidableEq (Dict κ ν) := fun d d' =>
  decidable_of_iff (d.items = d'.items) ⟨fun h => by cases d; cases d'; cases h; rfl, congrArg Dict.items⟩

def empty : Dict κ ν where
  items := []
  unique := List.nodup_nil

def get? (d : Dict κ ν) (k : κ) : Option ν :=
  (KeyedList.toMap Prod.fst d.items k).map Prod.snd

def keys (d : Dict κ ν) : List κ :=
  d.items.map Prod.fst

/-- `d[k] = v`. -/
def set (d : Dict κ ν) (k : κ) (v : ν) : Dict κ ν :=
  if h : KeyedList.toMap Prod.fst d.items k = none then
    { items := d.items ++ [(k, v)]
      unique := d.unique.append h }
  else
    { items := KeyedList.replace Prod.fst d.items (k, v)
      unique := d.unique.replace (k, v) }

/-- `del d[k]`. -/
def erase (d : Dict κ ν) (k : κ) : Dict κ ν where
  items := KeyedList.erase Prod.fst d.items k
  unique := d.unique.erase k

/-- The same keys with other values. -/
def mapValues {ν' : Type} (d : Dict κ ν) (f : κ → ν → ν') : Dict κ ν' where
  items := d.items.map (fun p => (p.1, f p.1 p.2))
  unique := by
    have h : (d.items.map Prod.fst).Nodup := d.unique
    rw [KeyedList.Unique, List.map_map]
    exact h

@[simp] theorem get?_empty (k : κ) : (empty : Dict κ ν).get? k = none := rfl

theorem get?_set (d : Dict κ ν) (k : κ) (v : ν) (k' : κ) : (d.set k v).get? k' = if k' = k then some v else d.get? k' := by
  unfold set get?
  split
  · rename_i h
    have happend : KeyedList.toMap Prod.fst (d.items ++ [(k, v)]) = Function.update _ k (some (k, v)) := KeyedList.toMap_append h
    rw [happend, Function.update_apply]
    split
    · rfl
    · rfl
  · rename_i h
    have hreplace : KeyedList.toMap Prod.fst (KeyedList.replace Prod.fst d.items (k, v)) = Function.update _ k (some (k, v)) :=
      KeyedList.toMap_replace (Option.isSome_iff_ne_none.2 h)
    rw [hreplace, Function.update_apply]
    split
    · rfl
    · rfl

theorem get?_erase (d : Dict κ ν) (k k' : κ) : (d.erase k).get? k' = if k' = k then none else d.get? k' := by
  have herase : KeyedList.toMap Prod.fst (KeyedList.erase Prod.fst d.items k) = Function.update _ k none :=
    KeyedList.toMap_erase d.unique k
  unfold get?
  rw [erase, herase, Function.update_apply]
  split
  · rfl
  · rfl

theorem mem_keys_iff {d : Dict κ ν} : k ∈ d.keys ↔ ∃ v, d.get? k = some v := by
  constructor
  · intro h
    obtain ⟨p, hp, rfl⟩ := List.mem_map.1 h
    exact ⟨p.2, by rw [get?, d.unique.toMap_mem hp]; rfl⟩
  · rintro ⟨v, hv⟩
    obtain ⟨p, hp, -⟩ := Option.map_eq_some_iff.1 hv
    exact List.mem_map.2 ⟨p, KeyedList.toMap_some_mem hp, KeyedList.toMap_some_key hp⟩

theorem mem_keys_set {d : Dict κ ν} : k' ∈ (d.set k v).keys ↔ k' = k ∨ k' ∈ d.keys := by
  rw [mem_keys_iff, get?_set]
  split
  · rename_i h
    exact ⟨fun _ => .inl h, fun _ => ⟨v, rfl⟩⟩
  · rename_i h
    rw [mem_keys_iff]
    exact ⟨.inr, fun hk => hk.resolve_left h⟩

theorem mem_items {d : Dict κ ν} (hget : d.get? k = some v) : (k, v) ∈ d.items := by
  obtain ⟨item, hitem, rfl⟩ := Option.map_eq_some_iff.1 hget
  rw [← KeyedList.toMap_some_key hitem]
  exact KeyedList.toMap_some_mem hitem

theorem get?_of_mem {d : Dict κ ν} (h : (k, v) ∈ d.items) : d.get? k = some v := by
  have hmap : KeyedList.toMap Prod.fst d.items k = some (k, v) := d.unique.toMap_mem h
  rw [get?, hmap]
  rfl

theorem mapValues_congr {ν' : Type} {d : Dict κ ν} {f g : κ → ν → ν'} (h : ∀ p ∈ d.items, f p.1 p.2 = g p.1 p.2) :
    d.mapValues f = d.mapValues g := by
  have hitems : d.items.map (fun p => (p.1, f p.1 p.2)) = d.items.map (fun p => (p.1, g p.1 p.2)) :=
    List.map_congr_left (fun p hp => by rw [h p hp])
  simp only [mapValues, hitems]

theorem items_singleton {d : Dict κ ν} (hget : d.get? k = some v) (hkeys : ∀ k' ∈ d.keys, k' = k) :
    d.items = [(k, v)] := by
  have hmem := mem_items hget
  have hunique : (d.items.map Prod.fst).Nodup := d.unique
  have hall : d.items.map Prod.fst = List.replicate d.items.length k :=
    List.eq_replicate_iff.2 ⟨List.length_map _, hkeys⟩
  rw [hall, List.nodup_replicate] at hunique
  have hlength : d.items.length = 1 := Nat.le_antisymm hunique (List.length_pos_of_mem hmem)
  obtain ⟨only, honly⟩ := List.length_eq_one_iff.1 hlength
  rw [honly, List.mem_singleton] at hmem
  rw [honly, ← hmem]

end Dict

end Nfvcl
