import Mathlib.Data.List.Nodup

namespace Nfvcl.Codec
set_option autoImplicit true

/-- What models are dumped to, over the leaves `ι`. -/
inductive Tree (ι : Type) where
  | leaf (x : ι)
  | list (items : List (Tree ι))
  | record (fields : List (String × Tree ι))

namespace Tree

mutual

/-- The same tree with other leaves. -/
def map (f : ι → ι) : Tree ι → Tree ι
  | .leaf x => .leaf (f x)
  | .list items => .list (mapItems f items)
  | .record fields => .record (mapFields f fields)

def mapItems (f : ι → ι) : List (Tree ι) → List (Tree ι)
  | [] => []
  | t :: ts => map f t :: mapItems f ts

def mapFields (f : ι → ι) : List (String × Tree ι) → List (String × Tree ι)
  | [] => []
  | (key, t) :: fields => (key, map f t) :: mapFields f fields

end

theorem mapItems_eq (f : ι → ι) (ts : List (Tree ι)) : mapItems f ts = ts.map (map f) := by
  induction ts with
  | nil => rfl
  | cons t ts ih => rw [mapItems, ih, List.map_cons]

theorem lookup_mapFields (f : ι → ι) (fields : List (String × Tree ι)) (key : String) :
    (mapFields f fields).lookup key = (fields.lookup key).map (map f) := by
  induction fields with
  | nil => rfl
  | cons field fields ih =>
    obtain ⟨k, t⟩ := field
    rw [mapFields, List.lookup_cons, List.lookup_cons, ih]
    split <;> rfl

end Tree

end Nfvcl.Codec

namespace Nfvcl
set_option autoImplicit true
open Codec

/-- How values of a type are written and read back. -/
structure Codec (ι α : Type) where
  dump : α → Codec.Tree ι
  load : Codec.Tree ι → Option α

namespace Codec

/-- The value is read back from its dump, after a change of the leaves on the way. -/
def RoundTrips (f : ι → ι) (c : Codec ι α) (a : α) : Prop := c.load ((c.dump a).map f) = some a

/-- A value that is one leaf. -/
def ofLeaf (put : α → ι) (get : ι → Option α) : Codec ι α where
  dump a := .leaf (put a)
  load
    | .leaf x => get x
    | _ => none

theorem roundTrips_ofLeaf {put : α → ι} {get : ι → Option α} :
    RoundTrips f (ofLeaf put get) a ↔ get (f (put a)) = some a := by
  unfold RoundTrips ofLeaf
  simp only [Codec.Tree.map]

def list (c : Codec ι α) : Codec ι (List α) where
  dump as := .list (as.map c.dump)
  load
    | .list items => items.mapM c.load
    | _ => none

theorem mapM_eq_some_iff {g : α → Option β} {as : List α} {bs : List β} :
    as.mapM g = some bs ↔ List.Forall₂ (fun a b => g a = some b) as bs := by
  induction as generalizing bs with
  | nil =>
    rw [List.forall₂_nil_left_iff]
    constructor
    · intro h
      cases h
      rfl
    · rintro rfl
      rfl
  | cons a as ih =>
    rw [List.mapM_cons, List.forall₂_cons_left_iff]
    simp only [Option.bind_eq_bind, Option.bind_eq_some_iff, Option.pure_def, Option.some.injEq, ih]
    constructor
    · rintro ⟨b, hb, bs', hbs, rfl⟩
      exact ⟨b, bs', hb, hbs, rfl⟩
    · rintro ⟨b, bs', hb, hbs, rfl⟩
      exact ⟨b, hb, bs', hbs, rfl⟩

theorem roundTrips_list {c : Codec ι α} {as : List α} :
    RoundTrips f (list c) as ↔ ∀ a ∈ as, RoundTrips f c a := by
  unfold RoundTrips list
  simp only [Codec.Tree.map, Codec.Tree.mapItems_eq, List.map_map, mapM_eq_some_iff]
  rw [List.forall₂_map_left_iff, List.forall₂_same]
  rfl

/-- `None` or a value. -/
def optional (null : ι) [DecidableEq ι] (c : Codec ι α) : Codec ι (Option α) where
  dump
    | none => .leaf null
    | some a => c.dump a
  load
    | .leaf x => if x = null then some none else (c.load (.leaf x)).map some
    | t => (c.load t).map some

section Optional

variable [DecidableEq ι] {null : ι} {c : Codec ι α}

theorem roundTrips_optional_none (hf : f null = null) : RoundTrips f (optional null c) none := by
  unfold RoundTrips optional
  simp only [Codec.Tree.map, hf, if_true]

theorem roundTrips_optional_some (hnull : c.load (.leaf null) = none) :
    RoundTrips f (optional null c) (some a) ↔ RoundTrips f c a := by
  unfold RoundTrips optional
  simp only
  split
  next x hx =>
    rw [hx]
    split
    next hxnull =>
      rw [hxnull, hnull]
      simp
    next => simp
  next => simp

/-- An optional field, whatever it holds. -/
theorem roundTrips_optional (hf : f null = null) (hnull : c.load (.leaf null) = none) {o : Option α} :
    RoundTrips f (optional null c) o ↔ ∀ a, o = some a → RoundTrips f c a := by
  cases o with
  | none =>
    refine ⟨fun _ a h => ?_, fun _ => roundTrips_optional_none hf⟩
    cases h
  | some a =>
    rw [roundTrips_optional_some hnull]
    simp only [Option.some.injEq, forall_eq']

end Optional

/-- The fields of a record over `σ`, in order; what they hold together is a tuple `α`. -/
structure Slots (ι σ α : Type) where
  keys : List String
  dump : σ → List (String × Codec.Tree ι)
  tuple : σ → α
  load : (String → Option (Codec.Tree ι)) → Option α
  /-- Every field of the value is read back. -/
  ok : (ι → ι) → σ → Prop
  dump_keys : ∀ s, (dump s).map Prod.fst = keys
  load_iff : ∀ (f : ι → ι) s find, (∀ field ∈ dump s, find field.1 = some (field.2.map f)) →
    (load find = some (tuple s) ↔ ok f s)

namespace Slots

def nil : Slots ι σ Unit where
  keys := []
  dump _ := []
  tuple _ := ()
  load _ := some ()
  ok _ _ := True
  dump_keys _ := rfl
  load_iff _ _ _ _ := ⟨fun _ => trivial, fun _ => rfl⟩

/-- One more field, with the default of a missing key. -/
def field (S : Slots ι σ α) (key : String) (get : σ → β) (c : Codec ι β) (missing : Option β) : Slots ι σ (α × β) where
  keys := S.keys ++ [key]
  dump s := S.dump s ++ [(key, c.dump (get s))]
  tuple s := (S.tuple s, get s)
  load find := (S.load find).bind fun a =>
    (match find key with
      | some t => c.load t
      | none => missing).map fun b => (a, b)
  ok f s := S.ok f s ∧ c.RoundTrips f (get s)
  dump_keys s := by rw [List.map_append, S.dump_keys, List.map_singleton]
  load_iff f s find hfind := by
    have hold := S.load_iff f s find fun field hfield => hfind field (List.mem_append_left _ hfield)
    have hnew := hfind (key, c.dump (get s)) (List.mem_append_right _ List.mem_cons_self)
    simp only [RoundTrips, hnew, ← hold, Option.bind_eq_some_iff, Option.map_eq_some_iff, Prod.mk.injEq]
    constructor
    · rintro ⟨a, ha, b, hb, rfl, rfl⟩
      exact ⟨ha, hb⟩
    · rintro ⟨ha, hb⟩
      exact ⟨_, ha, _, hb, rfl, rfl⟩

end Slots

/-- A record whose values are the tuples of its fields. -/
def record (S : Slots ι σ α) (make : α → σ) : Codec ι σ where
  dump s := .record (S.dump s)
  load
    | .record fields => (S.load fun key => fields.lookup key).map make
    | _ => none

theorem lookup_of_nodup {fields : List (String × β)} (hnodup : (fields.map Prod.fst).Nodup) (h : (key, b) ∈ fields) :
    fields.lookup key = some b := by
  induction fields with
  | nil => cases h
  | cons field fields ih =>
    obtain ⟨hfresh, hnodup⟩ := List.nodup_cons.1 hnodup
    rw [List.lookup_cons]
    rcases List.mem_cons.1 h with rfl | h
    · simp
    · have hne : (key == field.1) = false := by
        rw [beq_eq_false_iff_ne]
        rintro rfl
        exact hfresh (List.mem_map.2 ⟨(field.1, b), h, rfl⟩)
      rw [hne]
      exact ih hnodup h

theorem roundTrips_record {S : Slots ι σ α} {make : α → σ} (hkeys : S.keys.Nodup) (htuple : ∀ a, S.tuple (make a) = a) (hmake : ∀ s, make (S.tuple s) = s) :
    RoundTrips f (record S make) s ↔ S.ok f s := by
  have hfind : ∀ field ∈ S.dump s, (Codec.Tree.mapFields f (S.dump s)).lookup field.1 = some (field.2.map f) := by
    intro field hfield
    rw [Codec.Tree.lookup_mapFields, lookup_of_nodup (by rw [S.dump_keys]; exact hkeys) hfield]
    rfl
  rw [← S.load_iff f s (fun key => (Codec.Tree.mapFields f (S.dump s)).lookup key) hfind]
  unfold RoundTrips record
  simp only [Codec.Tree.map, Option.map_eq_some_iff]
  constructor
  · rintro ⟨a, ha, rfl⟩
    rw [ha, htuple]
  · intro h
    exact ⟨_, h, hmake s⟩

/-- A validator that refuses some of the values. -/
def guarded (c : Codec ι α) (p : α → Bool) : Codec ι α where
  dump := c.dump
  load t := (c.load t).filter p

theorem roundTrips_guarded {c : Codec ι α} : RoundTrips f (guarded c p) a ↔ RoundTrips f c a ∧ p a = true := by
  unfold RoundTrips guarded
  simp only [Option.filter_eq_some_iff]

/-- A validator that changes the value. -/
def adjusted (c : Codec ι α) (g : α → α) : Codec ι α where
  dump := c.dump
  load t := (c.load t).map g

theorem roundTrips_adjusted {c : Codec ι α} (hg : g a = a) (h : RoundTrips f c a) : RoundTrips f (adjusted c g) a := by
  unfold RoundTrips at h
  unfold RoundTrips adjusted
  simp only [h, Option.map_some, hg]

end Codec

end Nfvcl
