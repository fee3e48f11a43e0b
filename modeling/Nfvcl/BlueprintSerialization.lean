import Mathlib.Algebra.Order.BigOperators.Group.List
import Mathlib.Algebra.Order.Group.Nat
import Mathlib.Algebra.Order.Ring.Nat
import Mathlib.Data.List.Basic
import Nfvcl.KeyedTrees
import Nfvcl.PyValue

namespace Nfvcl
set_option autoImplicit true
open Effects KeyedTrees

inductive ResourceClass where
  | resource
  | deployable
  | configuration
  deriving DecidableEq, Repr

/-- What a Python object is, its parts apart. -/
inductive PyLabel where
  | none
  | str (text : String)
  /-- A number, a date, a member of an enumeration or another value without parts. -/
  | other (repr : String)
  | dict
  | list
  | tuple
  /-- A model that is not a `Resource`. -/
  | model
  | resource (cls : ResourceClass)
  deriving DecidableEq, Repr

/-- A key of a dictionary, the name of an attribute among them, or a position in a list. -/
inductive PyStep where
  | key (k : PyKey)
  | index (n : Nat)
  deriving DecidableEq, Repr

abbrev PyObj := KeyedTrees.Tree PyStep PyLabel

abbrev PyParts := Forest PyStep PyLabel

def PyStep.attr (name : String) : PyStep := .key (.str name)

namespace PyLabel

def isResource : PyLabel → Bool
  | .resource _ => true
  | _ => false

def isDeployable : PyLabel → Bool
  | .resource .deployable => true
  | _ => false

def isConfiguration : PyLabel → Bool
  | .resource .configuration => true
  | _ => false

/-- What `__find_field_occurrences` looks into: dictionaries, lists and what has a `__dict__`. -/
def isWalked : PyLabel → Bool
  | .dict => true
  | .list => true
  | .model => true
  | .resource _ => true
  | _ => false

/-- `model_dump` makes a dictionary of a model. -/
def dumped : PyLabel → PyLabel
  | .model => .dict
  | .resource _ => .dict
  | l => l

def isRef : PyLabel → Bool
  | .str text => "REF=".toList.isPrefixOf text.toList
  | _ => false

end PyLabel

namespace PyObj

def str (text : String) : PyObj := .node (.str text) .nil

def none : PyObj := .node .none .nil

def modelDump (obj : PyObj) : PyObj := obj.map PyLabel.dumped

def findFieldOccurrences (obj : PyObj) (typeToFind : PyLabel → Bool) : List (List PyStep) :=
  obj.occurrences typeToFind PyLabel.isWalked

/-- A text or `None`. -/
def optionalText : PyObj → Option (Option String)
  | .node (.str text) _ => some (some text)
  | .node .none _ => some Option.none
  | _ => Option.none

/-- `obj["id"]` or `obj.id`. -/
def id : PyObj → Option (Option String)
  | .node _ f => (f.get (.attr "id")).bind optionalText

/-- Every part of the object that is of the type, wherever it is. -/
def parts (obj : PyObj) (type : PyLabel → Bool) : List PyObj :=
  obj.found type (fun _ => true)

/-- A Python object: an attribute or a key stands for one part, and a `Resource` has an id. -/
structure WellFormed (obj : PyObj) : Prop where
  distinct : obj.Distinct
  ids : ∀ r ∈ obj.parts PyLabel.isResource, PyObj.id r ≠ Option.none

def int (n : Int) : PyObj := .node (.other (toString n)) .nil

def optional (f : α → PyObj) : Option α → PyObj
  | some a => f a
  | Option.none => .none

def object (label : PyLabel) (attrs : List (String × PyObj)) : PyObj :=
  .node label (Forest.ofList (attrs.map (fun p => (.attr p.1, p.2))))

def resource (cls : ResourceClass) (id : String) (attrs : List (String × PyObj)) : PyObj :=
  .object (.resource cls) (("id", .str id) :: attrs)

def list (items : List PyObj) : PyObj :=
  .node .list (Forest.ofList (items.zipIdx.map (fun p => (.index p.2, p.1))))

/-- An attribute or a key stands for one part, and the property holds of every `Resource`. -/
structure Shaped (P : PyObj → Prop) (obj : PyObj) : Prop where
  distinct : obj.Distinct
  every : ∀ r ∈ obj.parts PyLabel.isResource, P r

section Shapes

variable {P Q : PyObj → Prop} {attrs : List (String × PyObj)} {items : List PyObj}

theorem Shaped.wellFormed (h : Shaped (fun r => PyObj.id r ≠ Option.none) obj) : WellFormed obj :=
  ⟨h.distinct, h.every⟩

theorem shaped_leaf (h : l.isResource = false) : Shaped P (.node l .nil) := by
  refine ⟨trivial, ?_⟩
  intro r hr
  rw [parts, KeyedTrees.Tree.found, h] at hr
  cases hr

@[simp] theorem shaped_str (text : String) : Shaped P (.str text) := shaped_leaf rfl

@[simp] theorem shaped_int (n : Int) : Shaped P (.int n) := shaped_leaf rfl

@[simp] theorem shaped_none : Shaped P .none := shaped_leaf rfl

theorem shaped_optional {f : α → PyObj} {value : Option α} (h : ∀ a, value = some a → Shaped P (f a)) : Shaped P (optional f value) := by
  cases value with
  | none => exact shaped_none
  | some a => exact h a rfl

theorem shaped_object (hkeys : (attrs.map Prod.fst).Nodup) (hself : label.isResource = true → P (object label attrs))
    (h : ∀ a ∈ attrs, Shaped P a.2) : Shaped P (object label attrs) := by
  constructor
  · refine Forest.distinct_ofList ?_ ?_
    · rw [List.map_map]
      have hinj : Function.Injective PyStep.attr := by
        intro a b he
        cases he
        rfl
      have hmap := hkeys.map hinj
      rw [List.map_map] at hmap
      exact hmap
    · intro p hp
      obtain ⟨a, ha, rfl⟩ := List.mem_map.1 hp
      exact (h a ha).distinct
  · intro r hr
    rw [parts, object, KeyedTrees.Tree.found, List.mem_append, if_pos rfl, Forest.mem_found_ofList] at hr
    rcases hr with hr | ⟨p, hp, hr⟩
    · split at hr
      · rename_i hl
        rw [List.mem_singleton.1 hr]
        exact hself hl
      · cases hr
    · obtain ⟨a, ha, rfl⟩ := List.mem_map.1 hp
      exact (h a ha).every r hr

theorem shaped_list (h : ∀ x ∈ items, Shaped P x) : Shaped P (list items) := by
  constructor
  · refine Forest.distinct_ofList ?_ ?_
    · rw [List.map_map]
      have hinj : Function.Injective PyStep.index := by
        intro a b he
        cases he
        rfl
      have hidx : (items.zipIdx.map Prod.snd).Nodup := by
        rw [List.zipIdx_map_snd]
        exact List.nodup_range'
      have hmap := hidx.map hinj
      rw [List.map_map] at hmap
      exact hmap
    · intro p hp
      obtain ⟨a, ha, rfl⟩ := List.mem_map.1 hp
      exact (h a.1 (List.fst_mem_of_mem_zipIdx ha)).distinct
  · intro r hr
    rw [parts, list, KeyedTrees.Tree.found, List.mem_append, if_pos rfl, Forest.mem_found_ofList] at hr
    rcases hr with hr | ⟨p, hp, hr⟩
    · cases hr
    · obtain ⟨a, ha, rfl⟩ := List.mem_map.1 hp
      exact (h a.1 (List.fst_mem_of_mem_zipIdx ha)).every r hr

end Shapes

mutual

/-- How many dictionaries of the first object are a reference in the second. -/
def introduced : PyObj → PyObj → Nat
  | .node l f, .node l' f' => if l = .dict ∧ l'.isRef = true then 1 else introducedParts f f'

def introducedParts : PyParts → PyParts → Nat
  | .cons _ t rest, .cons _ t' rest' => introduced t t' + introducedParts rest rest'
  | _, _ => 0

end

mutual

/-- A `Resource` of the first object is a dictionary in the second. -/
def Embeds : PyObj → PyObj → Prop
  | .node l f, .node l' f' => (l.isResource = true ∧ l' = .dict) ∨ EmbedsPart f f'

def EmbedsPart : PyParts → PyParts → Prop
  | .cons _ t rest, .cons _ t' rest' => Embeds t t' ∨ EmbedsPart rest rest'
  | _, _ => False

end

end PyObj

/-- The part of a blueprint that `__serialize_content` rewrites: its state and the registered resources
under their ids. -/
structure BlueprintContent where
  state : PyObj
  registeredResources : List (String × PyObj)
  state_model : state.label = .model
  state_ok : state.WellFormed
  resources_ok : ∀ p ∈ registeredResources, p.2.label.isResource = true ∧ p.2.WellFormed

structure SerializedContent where
  state : PyObj
  registeredResources : List (String × PyObj)
  corrupted : Bool

namespace BlueprintNG

def ref (id : String) : PyObj := .str s!"REF={id}"

section Override

variable (registered : List String)

/-- One round of the loop in `__override_variables_in_dict`. -/
def overrideVariable (path : List PyStep) : EStateM PyError PyObj Unit := do
  if path = [] then throw (.indexError "tuple index out of range")
  let objDict ← get
  match objDict.getAt path with
  | none => throw (.keyError s!"{repr path}")
  | some current =>
    match PyObj.id current with
    | none => throw (.keyError "id")
    | some none => throw (.blueprintNG "Resource None not registered")
    | some (some currentId) =>
      if currentId ∈ registered then set (objDict.setAt path (ref currentId))
      else throw (.blueprintNG s!"Resource {currentId} not registered")

def overrideVariablesInDict (obj : PyObj) (tipo : PyLabel → Bool) : EStateM PyError PyObj Unit :=
  forM (longestFirst (obj.findFieldOccurrences tipo)) (overrideVariable registered)

/-- The dump of an object after the overriding, and the exception that ended it. -/
def overridden (obj : PyObj) (tipo : PyLabel → Bool) : PyObj × Option PyError :=
  match (overrideVariablesInDict registered obj tipo).run obj.modelDump with
  | .ok _ objDict => (objDict, none)
  | .error e objDict => (objDict, some e)

def dumpedResources (resources : List (String × PyObj)) : List (String × PyObj) :=
  resources.map (fun p => (p.1, p.2.modelDump))

/-- The registered resources one by one; an exception leaves the rest as they were dumped. -/
def overriddenResources : List (String × PyObj) → List (String × PyObj) × Option PyError
  | [] => ([], none)
  | (key, value) :: rest =>
    if value.label.isConfiguration then
      match overridden registered value PyLabel.isDeployable with
      | (objDict, some e) => ((key, objDict) :: dumpedResources rest, some e)
      | (objDict, none) => ((key, objDict) :: (overriddenResources rest).1, (overriddenResources rest).2)
    else ((key, value.modelDump) :: (overriddenResources rest).1, (overriddenResources rest).2)

end Override

/-- `except BlueprintNGException`. -/
def caught (e : PyError) (serialized : SerializedContent) : Except PyError SerializedContent :=
  match e with
  | .blueprintNG _ => .ok serialized
  | e => .error e

def serializeContent (b : BlueprintContent) : Except PyError SerializedContent :=
  let registered := b.registeredResources.map Prod.fst
  match overridden registered b.state PyLabel.isResource with
  | (state, some e) => caught e ⟨state, dumpedResources b.registeredResources, true⟩
  | (state, none) =>
    match overriddenResources registered b.registeredResources with
    | (resources, some e) => caught e ⟨state, resources, true⟩
    | (resources, none) => .ok ⟨state, resources, false⟩

/-! ### When a blueprint is marked as corrupted -/

section Marking

variable (registered : List String)

/-- The id of the resource is registered. -/
def Registered (r : PyObj) : Prop :=
  ∃ id, PyObj.id r = some (some id) ∧ id ∈ registered

def refTo (r : PyObj) : PyObj :=
  match PyObj.id r with
  | some (some id) => ref id
  | _ => r

variable {registered : List String} {obj : PyObj} {tipo : PyLabel → Bool}

/-- The dump of a resource has its id, whatever was overridden inside. -/
theorem id_render {f : PyParts} {done : List PyStep → Bool}
    (hdone : ∀ q, done q = true → ∃ c, (KeyedTrees.Tree.node l f).getAt q = some c ∧ c.label.isResource = true)
    (hid : PyObj.id (.node l f) ≠ none) :
    PyObj.id (.node l' (f.render PyLabel.dumped refTo done)) = PyObj.id (.node l f) := by
  rw [PyObj.id] at hid
  rw [PyObj.id, PyObj.id, Forest.get_render]
  cases hc : f.get (.attr "id") with
  | none => rfl
  | some c =>
    rw [hc] at hid
    have hclear : c.label.isResource = false → done [.attr "id"] = false := by
      intro hlabel
      rw [Bool.eq_false_iff]
      intro htrue
      obtain ⟨c', hc', hres⟩ := hdone _ htrue
      have hget : (KeyedTrees.Tree.node l f).getAt [.attr "id"] = some c := by
        rw [KeyedTrees.Tree.getAt, hc]
        rfl
      rw [hget] at hc'
      cases hc'
      rw [hlabel] at hres
      cases hres
    cases c with
    | node label g =>
      cases label with
      | str text => simp only [Option.map_some, KeyedTrees.Tree.render, hclear rfl, Bool.false_eq_true, if_false, Option.bind_some,
          PyObj.optionalText, PyLabel.dumped]
      | none => simp only [Option.map_some, KeyedTrees.Tree.render, hclear rfl, Bool.false_eq_true, if_false, Option.bind_some,
          PyObj.optionalText, PyLabel.dumped]
      | _ => exact absurd rfl hid

theorem overrideVariable_run (registered : List String) (hpath : path ≠ []) (hget : objDict.getAt path = some current) (hid : PyObj.id current = some found) :
    (overrideVariable registered path).run objDict =
      match found with
      | none => .error (.blueprintNG "Resource None not registered") objDict
      | some currentId =>
        if currentId ∈ registered then .ok () (objDict.setAt path (ref currentId))
        else .error (.blueprintNG s!"Resource {currentId} not registered") objDict := by
  rw [overrideVariable]
  simp only [hpath, if_false]
  rw [EStateM.run_bind, EStateM.run_get]
  simp only [hget, hid]
  cases found with
  | none => rfl
  | some currentId =>
    by_cases hmem : currentId ∈ registered
    · simp only [hmem, if_true]
      rfl
    · simp only [hmem, if_false]
      rfl

theorem overrideVariablesInDict_meets (registered : List String) (hobj : obj.WellFormed) (htipo : ∀ l, tipo l = true → l.isResource = true)
    (hroot : tipo obj.label = false) :
    Meets (overrideVariablesInDict registered obj tipo) obj.modelDump
      (fun _ s => s = obj.replaced tipo PyLabel.isWalked PyLabel.dumped refTo ∧
        ∀ r ∈ obj.found tipo PyLabel.isWalked, Registered registered r)
      (fun e _ => (∃ msg, e = .blueprintNG msg) ∧
        ∃ r ∈ obj.found tipo PyLabel.isWalked, ¬ Registered registered r) := by
  refine forM_longestFirst hobj.distinct ?_
  intro p r done hp hget hclear hdone
  have hpath : p ≠ [] := by
    rintro rfl
    have hw := (KeyedTrees.Tree.nil_mem_occurrences hobj.distinct).1 hp
    rw [hroot] at hw
    cases hw
  have hid : PyObj.id r ≠ none :=
    hobj.ids r (KeyedTrees.Tree.found_mono htipo (KeyedTrees.Tree.mem_found_of_occurrence hobj.distinct hp hget))
  cases r with
  | node l f =>
    have hrender : (obj.render PyLabel.dumped refTo done).getAt p =
        some ((KeyedTrees.Tree.node l f).render PyLabel.dumped refTo (fun q => done (p ++ q))) :=
      KeyedTrees.Tree.getAt_render hget (fun q hq _ => hclear q hq)
    have hdict : (KeyedTrees.Tree.node l f).render PyLabel.dumped refTo (fun q => done (p ++ q)) =
        .node (PyLabel.dumped l) (f.render PyLabel.dumped refTo (fun q => done (p ++ q))) := by
      rw [KeyedTrees.Tree.render, List.append_nil, hclear p (List.prefix_refl p), if_neg Bool.false_ne_true]
    rw [hdict] at hrender
    have hsame : PyObj.id (.node (PyLabel.dumped l) (f.render PyLabel.dumped refTo (fun q => done (p ++ q)))) =
        PyObj.id (.node l f) := by
      refine id_render ?_ hid
      intro q hq
      obtain ⟨c, hc, hw⟩ := KeyedTrees.Tree.getAt_occurrence hobj.distinct (hdone _ hq)
      rw [KeyedTrees.Tree.getAt_append, hget] at hc
      exact ⟨c, hc, htipo _ hw⟩
    obtain ⟨found, hfound⟩ := Option.ne_none_iff_exists'.1 hid
    have hrun := overrideVariable_run registered hpath hrender (hsame.trans hfound)
    cases found with
    | none =>
      refine meets_of_error hrun ⟨?_, _, rfl⟩
      rintro ⟨id, hid', -⟩
      rw [hfound] at hid'
      cases hid'
    | some id =>
      by_cases hmem : id ∈ registered
      · simp only [hmem, if_true] at hrun
        refine meets_of_ok hrun ⟨⟨id, hfound, hmem⟩, ?_⟩
        rw [refTo, hfound]
      · simp only [hmem, if_false] at hrun
        refine meets_of_error hrun ⟨?_, _, rfl⟩
        rintro ⟨id', hid', hmem'⟩
        rw [hfound] at hid'
        cases hid'
        exact hmem hmem'

/-- All that the walk finds is registered. -/
def AllRegistered (registered : List String) (obj : PyObj) (tipo : PyLabel → Bool) : Prop :=
  ∀ r ∈ obj.found tipo PyLabel.isWalked, Registered registered r

def overriddenDump (obj : PyObj) (tipo : PyLabel → Bool) : PyObj :=
  obj.replaced tipo PyLabel.isWalked PyLabel.dumped refTo

theorem overridden_cases (registered : List String) (hobj : obj.WellFormed) (htipo : ∀ l, tipo l = true → l.isResource = true)
    (hroot : tipo obj.label = false) :
    (AllRegistered registered obj tipo ∧ overridden registered obj tipo = (overriddenDump obj tipo, none)) ∨
    (¬ AllRegistered registered obj tipo ∧
      ∃ objDict msg, overridden registered obj tipo = (objDict, some (.blueprintNG msg))) := by
  have h := overrideVariablesInDict_meets registered hobj htipo hroot
  unfold Meets at h
  unfold overridden
  cases hrun : (overrideVariablesInDict registered obj tipo).run obj.modelDump with
  | ok u s =>
    rw [hrun] at h
    obtain ⟨rfl, hall⟩ := h
    exact .inl ⟨hall, rfl⟩
  | error e s =>
    rw [hrun] at h
    obtain ⟨⟨msg, rfl⟩, r, hr, hbad⟩ := h
    exact .inr ⟨fun hall => hbad (hall r hr), s, msg, rfl⟩

theorem overriddenResources_cases (registered : List String) {resources : List (String × PyObj)} (h : ∀ p ∈ resources, p.2.WellFormed) :
    ((∀ p ∈ resources, p.2.label.isConfiguration = true → AllRegistered registered p.2 PyLabel.isDeployable) ∧
      overriddenResources registered resources =
        (resources.map (fun p => (p.1, if p.2.label.isConfiguration then overriddenDump p.2 PyLabel.isDeployable
          else p.2.modelDump)), none)) ∨
    (¬ (∀ p ∈ resources, p.2.label.isConfiguration = true → AllRegistered registered p.2 PyLabel.isDeployable) ∧
      ∃ ds msg, overriddenResources registered resources = (ds, some (.blueprintNG msg))) := by
  induction resources with
  | nil => exact .inl ⟨fun p hp => absurd hp List.not_mem_nil, rfl⟩
  | cons p resources ih =>
    obtain ⟨key, value⟩ := p
    have hrest := ih (fun p hp => h p (List.mem_cons_of_mem _ hp))
    simp only [List.forall_mem_cons]
    by_cases hconf : value.label.isConfiguration = true
    · have hroot : PyLabel.isDeployable value.label = false := by
        cases hl : value.label with
        | resource cls =>
          rw [hl] at hconf
          cases cls with
          | configuration => rfl
          | _ => cases hconf
        | _ =>
          rw [hl] at hconf
          cases hconf
      have htipo : ∀ l, PyLabel.isDeployable l = true → l.isResource = true := by
        intro l hl
        cases l with
        | resource cls => rfl
        | _ => cases hl
      rcases overridden_cases registered (h _ List.mem_cons_self) htipo hroot with ⟨hall, heq⟩ | ⟨hnot, d, msg, heq⟩
      · rcases hrest with ⟨hall', heq'⟩ | ⟨hnot', ds, msg, heq'⟩
        · refine .inl ⟨⟨fun _ => hall, hall'⟩, ?_⟩
          simp only [overriddenResources, hconf, if_true, heq, heq', List.map_cons]
        · refine .inr ⟨fun hboth => hnot' hboth.2, ?_⟩
          refine ⟨(key, overriddenDump value PyLabel.isDeployable) :: ds, msg, ?_⟩
          simp only [overriddenResources, hconf, if_true, heq, heq']
      · refine .inr ⟨fun hboth => hnot (hboth.1 hconf), ?_⟩
        refine ⟨(key, d) :: dumpedResources resources, msg, ?_⟩
        simp only [overriddenResources, hconf, if_true, heq]
    · rcases hrest with ⟨hall', heq'⟩ | ⟨hnot', ds, msg, heq'⟩
      · refine .inl ⟨⟨fun hc => absurd hc hconf, hall'⟩, ?_⟩
        simp only [overriddenResources, hconf, heq', List.map_cons, Bool.false_eq_true, if_false]
      · refine .inr ⟨fun hboth => hnot' hboth.2, ?_⟩
        refine ⟨(key, value.modelDump) :: ds, msg, ?_⟩
        simp only [overriddenResources, hconf, heq', Bool.false_eq_true, if_false]

end Marking

/-! ### What a serialised blueprint refers to -/

section References

variable {registered : List String} {tipo : PyLabel → Bool}

theorem ref_isRef (id : String) : PyLabel.isRef (.str s!"REF={id}") = true := by
  rw [PyLabel.isRef, List.isPrefixOf_iff_prefix]
  refine ⟨id.toList, ?_⟩
  simp only [String.toList_append]
  rfl

theorem refTo_of_registered (h : Registered registered r) : ∃ id : String, refTo r = .node (.str s!"REF={id}") .nil := by
  obtain ⟨id, hid, -⟩ := h
  exact ⟨id, by rw [refTo, hid]; rfl⟩

mutual

theorem introduced_dump (t : PyObj) : PyObj.introduced (t.map PyLabel.dumped) (t.map PyLabel.dumped) = 0 := by
  cases t with
  | node l f =>
    rw [KeyedTrees.Tree.map, PyObj.introduced, if_neg, introducedParts_dump f]
    rintro ⟨hdict, href⟩
    rw [hdict] at href
    cases href

theorem introducedParts_dump (f : PyParts) : PyObj.introducedParts (f.map PyLabel.dumped) (f.map PyLabel.dumped) = 0 := by
  cases f with
  | nil => rfl
  | cons key t rest => rw [Forest.map, PyObj.introducedParts, introduced_dump t, introducedParts_dump rest]

end

theorem dumped_of_isResource (h : PyLabel.isResource l = true) : l.dumped = .dict := by
  cases l with
  | resource cls => rfl
  | _ => cases h

mutual

theorem introduced_replaced (htipo : ∀ l, tipo l = true → l.isResource = true) (t : PyObj)
    (h : ∀ r ∈ t.found tipo PyLabel.isWalked, Registered registered r) :
    PyObj.introduced (t.map PyLabel.dumped) (t.replaced tipo PyLabel.isWalked PyLabel.dumped refTo) =
      t.outermost tipo PyLabel.isWalked := by
  cases t with
  | node l f =>
    rw [KeyedTrees.Tree.map, KeyedTrees.Tree.replaced, KeyedTrees.Tree.outermost]
    by_cases hl : tipo l = true
    · have hr : Registered registered (.node l f) := by
        refine h _ ?_
        rw [KeyedTrees.Tree.found, if_pos hl]
        exact List.mem_append_left _ List.mem_cons_self
      obtain ⟨id, href⟩ := refTo_of_registered hr
      rw [if_pos hl, if_pos hl, href, PyObj.introduced, if_pos ⟨dumped_of_isResource (htipo l hl), ref_isRef id⟩]
    · have hlabel : ¬ (l.dumped = .dict ∧ l.dumped.isRef = true) := by
        rintro ⟨hdict, hisref⟩
        rw [hdict] at hisref
        cases hisref
      rw [if_neg hl, if_neg hl, PyObj.introduced, if_neg hlabel]
      by_cases hwalked : l.isWalked = true
      · rw [if_pos hwalked, if_pos hwalked]
        refine introducedParts_replaced htipo f ?_
        intro r hr
        refine h r ?_
        rw [KeyedTrees.Tree.found, if_pos hwalked]
        exact List.mem_append_right _ hr
      · rw [if_neg hwalked, if_neg hwalked]
        exact introducedParts_dump f

theorem introducedParts_replaced (htipo : ∀ l, tipo l = true → l.isResource = true) (f : PyParts)
    (h : ∀ r ∈ f.found tipo PyLabel.isWalked, Registered registered r) :
    PyObj.introducedParts (f.map PyLabel.dumped) (f.replaced tipo PyLabel.isWalked PyLabel.dumped refTo) =
      f.outermost tipo PyLabel.isWalked := by
  cases f with
  | nil => rfl
  | cons key t rest =>
    rw [Forest.map, Forest.replaced, PyObj.introducedParts, Forest.outermost,
      introduced_replaced htipo t (fun r hr => h r (List.mem_append_left _ hr)),
      introducedParts_replaced htipo rest (fun r hr => h r (List.mem_append_right _ hr))]

end

mutual

theorem not_embeds_dump (t : PyObj) (h : t.found PyLabel.isResource (fun _ => true) = []) :
    ¬ PyObj.Embeds t (t.map PyLabel.dumped) := by
  cases t with
  | node l f =>
    rw [KeyedTrees.Tree.found, if_pos rfl, List.append_eq_nil_iff] at h
    rw [KeyedTrees.Tree.map, PyObj.Embeds]
    rintro (⟨hres, -⟩ | hpart)
    · rw [if_pos hres] at h
      cases h.1
    · exact not_embedsPart_dump f h.2 hpart

theorem not_embedsPart_dump (f : PyParts) (h : f.found PyLabel.isResource (fun _ => true) = []) :
    ¬ PyObj.EmbedsPart f (f.map PyLabel.dumped) := by
  cases f with
  | nil => exact fun hf => hf
  | cons key t rest =>
    rw [Forest.found, List.append_eq_nil_iff] at h
    rintro (hpart | hpart)
    · exact not_embeds_dump t h.1 hpart
    · exact not_embedsPart_dump rest h.2 hpart

end

mutual

theorem not_embeds_replaced (t : PyObj) (hopen : t.Open PyLabel.isResource PyLabel.isWalked)
    (h : ∀ r ∈ t.found PyLabel.isResource PyLabel.isWalked, Registered registered r) :
    ¬ PyObj.Embeds t (t.replaced PyLabel.isResource PyLabel.isWalked PyLabel.dumped refTo) := by
  cases t with
  | node l f =>
    rw [KeyedTrees.Tree.replaced]
    rw [KeyedTrees.Tree.found] at h
    rw [KeyedTrees.Tree.Open] at hopen
    by_cases hl : l.isResource = true
    · rw [if_pos hl] at h ⊢
      obtain ⟨id, href⟩ := refTo_of_registered (h _ (List.mem_append_left _ List.mem_cons_self))
      rw [href]
      rintro (⟨-, hdict⟩ | hpart)
      · cases hdict
      · cases f with
        | nil => exact hpart
        | cons key c rest => exact hpart
    · rw [if_neg hl, PyObj.Embeds]
      replace hopen := hopen.resolve_left hl
      rintro (⟨hres, -⟩ | hpart)
      · exact hl hres
      · by_cases hwalked : l.isWalked = true
        · rw [if_pos hwalked] at hpart hopen h
          exact not_embedsPart_replaced f hopen (fun r hr => h r (List.mem_append_right _ hr)) hpart
        · rw [if_neg hwalked] at hpart hopen
          exact not_embedsPart_dump f hopen hpart

theorem not_embedsPart_replaced (f : PyParts) (hopen : f.Open PyLabel.isResource PyLabel.isWalked)
    (h : ∀ r ∈ f.found PyLabel.isResource PyLabel.isWalked, Registered registered r) :
    ¬ PyObj.EmbedsPart f (f.replaced PyLabel.isResource PyLabel.isWalked PyLabel.dumped refTo) := by
  cases f with
  | nil => exact fun hf => hf
  | cons key t rest =>
    rintro (hpart | hpart)
    · exact not_embeds_replaced t hopen.1 (fun r hr => h r (List.mem_append_left _ hr)) hpart
    · exact not_embedsPart_replaced rest hopen.2 (fun r hr => h r (List.mem_append_right _ hr)) hpart

end

end References

/-! ### The content of a blueprint -/

end BlueprintNG

namespace BlueprintContent
open BlueprintNG

variable (b : BlueprintContent)

def ids : List String := b.registeredResources.map Prod.fst

def configurations : List (String × PyObj) :=
  b.registeredResources.filter (fun p => p.2.label.isConfiguration)

/-- A `Resource` of the state, or a deployable of a registered configuration, is not registered. -/
def Dangling : Prop :=
  (∃ r ∈ b.state.parts PyLabel.isResource, ¬ Registered b.ids r) ∨
    ∃ p ∈ b.configurations, ∃ r ∈ p.2.parts PyLabel.isDeployable, ¬ Registered b.ids r

/-- One of them that is in no tuple is not registered. -/
def DanglingOutside : Prop :=
  ¬ AllRegistered b.ids b.state PyLabel.isResource ∨
    ∃ p ∈ b.configurations, ¬ AllRegistered b.ids p.2 PyLabel.isDeployable

/-- How many references the serialisation has introduced. -/
def introduced (s : SerializedContent) : Nat :=
  PyObj.introduced b.state.modelDump s.state +
    ((b.registeredResources.zip s.registeredResources).map (fun p => PyObj.introduced p.1.2.modelDump p.2.2)).sum

/-- The `Resource`s of the state that are in no other, and the deployables of the configurations. -/
def referable : Nat :=
  b.state.outermost PyLabel.isResource (fun _ => true) +
    (b.configurations.map (fun p => (p.2.parts PyLabel.isDeployable).length)).sum

/-- The dangling content is marked, and other content has a reference for each resource. -/
def MarksDangling : Prop :=
  ∃ s, serializeContent b = .ok s ∧ (s.corrupted = true ↔ b.Dangling) ∧
    (s.corrupted = false → ¬ PyObj.Embeds b.state s.state ∧ b.introduced s = b.referable)

/-- A resource outside the tuples is not registered; or every resource is, no tuple has one of the state
(inside another one apart), and no deployable of a configuration is in a tuple or in another deployable. -/
def Referable : Prop :=
  b.DanglingOutside ∨
    (¬ b.Dangling ∧ b.state.Open PyLabel.isResource PyLabel.isWalked ∧
      ∀ p ∈ b.configurations, p.2.Flat PyLabel.isDeployable PyLabel.isWalked)

variable {b}

theorem isResource_of_isDeployable (h : PyLabel.isDeployable l = true) : l.isResource = true := by
  cases l with
  | resource cls => rfl
  | _ => cases h

theorem DanglingOutside.dangling (h : b.DanglingOutside) : b.Dangling := by
  have hfound : ∀ obj tipo, ¬ AllRegistered b.ids obj tipo → ∃ r ∈ obj.parts tipo, ¬ Registered b.ids r := by
    intro obj tipo hnot
    by_contra hnone
    refine hnot (fun r hr => ?_)
    by_contra hbad
    exact hnone ⟨r, KeyedTrees.Tree.found_mono (fun _ hl => hl) hr, hbad⟩
  rcases h with h | ⟨p, hp, h⟩
  · exact .inl (hfound _ _ h)
  · exact .inr ⟨p, hp, hfound _ _ h⟩

/-- The serialisation of content that refers to registered resources only, tuples apart. -/
def serialized (b : BlueprintContent) : SerializedContent where
  state := overriddenDump b.state PyLabel.isResource
  registeredResources := b.registeredResources.map (fun p =>
    (p.1, if p.2.label.isConfiguration then overriddenDump p.2 PyLabel.isDeployable else p.2.modelDump))
  corrupted := false

theorem serializeContent_cases (b : BlueprintContent) :
    (¬ b.DanglingOutside ∧ serializeContent b = .ok b.serialized) ∨
    (b.DanglingOutside ∧ ∃ s, serializeContent b = .ok s ∧ s.corrupted = true) := by
  have hroot : PyLabel.isResource b.state.label = false := by
    rw [b.state_model]
    rfl
  have hconf : (∀ p ∈ b.registeredResources, p.2.label.isConfiguration = true →
      AllRegistered b.ids p.2 PyLabel.isDeployable) ↔ ∀ p ∈ b.configurations, AllRegistered b.ids p.2 PyLabel.isDeployable := by
    unfold configurations
    simp only [List.mem_filter, and_imp]
  unfold serializeContent
  rcases overridden_cases b.ids b.state_ok (fun l hl => hl) hroot with ⟨hall, heq⟩ | ⟨hnot, d, msg, heq⟩
  · rcases overriddenResources_cases b.ids (fun p hp => (b.resources_ok p hp).2) with ⟨hall', heq'⟩ | ⟨hnot', ds, msg, heq'⟩
    · refine .inl ⟨?_, ?_⟩
      · rintro (hbad | ⟨p, hp, hbad⟩)
        · exact hbad hall
        · exact hbad (hconf.1 hall' p hp)
      · unfold ids at heq heq'
        simp only [heq, heq']
        rfl
    · refine .inr ⟨.inr ?_, ?_⟩
      · rw [hconf] at hnot'
        simp only [not_forall] at hnot'
        obtain ⟨p, hp, hbad⟩ := hnot'
        exact ⟨p, hp, hbad⟩
      · unfold ids at heq heq'
        simp only [heq, heq']
        exact ⟨_, rfl, rfl⟩
  · refine .inr ⟨.inl hnot, ?_⟩
    unfold ids at heq
    simp only [heq]
    exact ⟨_, rfl, rfl⟩

/-- Outside the tuples everything is registered. -/
theorem introduced_serialized (h : ¬ b.DanglingOutside) :
    b.introduced b.serialized = b.state.outermost PyLabel.isResource PyLabel.isWalked +
      (b.configurations.map (fun p => p.2.outermost PyLabel.isDeployable PyLabel.isWalked)).sum := by
  have hstate : AllRegistered b.ids b.state PyLabel.isResource := by
    by_contra hbad
    exact h (.inl hbad)
  have hconf : ∀ p ∈ b.configurations, AllRegistered b.ids p.2 PyLabel.isDeployable := by
    intro p hp
    by_contra hbad
    exact h (.inr ⟨p, hp, hbad⟩)
  unfold introduced
  congr 1
  · exact introduced_replaced (fun _ hl => hl) b.state hstate
  · unfold configurations at hconf ⊢
    simp only [serialized]
    generalize b.registeredResources = resources at hconf ⊢
    induction resources with
    | nil => rfl
    | cons p resources ih =>
      rw [List.map_cons, List.zip_cons_cons, List.map_cons, List.sum_cons]
      by_cases hp : p.2.label.isConfiguration = true
      · rw [List.filter_cons_of_pos (by simp [hp])] at hconf ⊢
        rw [List.map_cons, List.sum_cons, ih (fun q hq => hconf q (List.mem_cons_of_mem p hq))]
        congr 1
        simp only [hp, if_true]
        exact introduced_replaced (fun _ hl => isResource_of_isDeployable hl) p.2 (hconf p List.mem_cons_self)
      · rw [List.filter_cons_of_neg (by simp [hp])] at hconf ⊢
        rw [ih hconf]
        simp only [hp, Bool.false_eq_true, if_false]
        rw [PyObj.modelDump, introduced_dump, Nat.zero_add]

theorem sum_eq_iff {xs : List α} {f g : α → Nat} (h : ∀ x ∈ xs, f x ≤ g x) :
    (xs.map f).sum = (xs.map g).sum ↔ ∀ x ∈ xs, f x = g x := by
  induction xs with
  | nil => exact ⟨fun _ x hx => absurd hx List.not_mem_nil, fun _ => rfl⟩
  | cons x xs ih =>
    have hle : (xs.map f).sum ≤ (xs.map g).sum :=
      List.sum_le_sum (fun y hy => h y (List.mem_cons_of_mem x hy))
    have hx := h x List.mem_cons_self
    rw [List.map_cons, List.map_cons, List.sum_cons, List.sum_cons, List.forall_mem_cons,
      ← ih (fun y hy => h y (List.mem_cons_of_mem x hy))]
    omega

theorem introduced_eq_referable_iff (h : ¬ b.DanglingOutside) :
    b.introduced b.serialized = b.referable ↔
      b.state.Open PyLabel.isResource PyLabel.isWalked ∧
        ∀ p ∈ b.configurations, p.2.Flat PyLabel.isDeployable PyLabel.isWalked := by
  have hstate := KeyedTrees.Tree.outermost_le PyLabel.isResource PyLabel.isWalked b.state
  have hconf : ∀ p ∈ b.configurations, p.2.outermost PyLabel.isDeployable PyLabel.isWalked ≤
      (p.2.parts PyLabel.isDeployable).length := fun p _ => KeyedTrees.Tree.outermost_le_length _ _ p.2
  have hsum := List.sum_le_sum hconf
  have hiff : (∀ p ∈ b.configurations, p.2.Flat PyLabel.isDeployable PyLabel.isWalked) ↔
      (b.configurations.map (fun p => p.2.outermost PyLabel.isDeployable PyLabel.isWalked)).sum =
        (b.configurations.map (fun p => (p.2.parts PyLabel.isDeployable).length)).sum := by
    rw [sum_eq_iff hconf]
    exact forall₂_congr (fun p _ => (KeyedTrees.Tree.outermost_eq_length p.2).symm)
  rw [introduced_serialized h, referable, hiff, ← KeyedTrees.Tree.outermost_eq_iff]
  omega

theorem serialization_marks_dangling (b : BlueprintContent) : b.MarksDangling ↔ b.Referable := by
  rcases b.serializeContent_cases with ⟨hout, heq⟩ | ⟨hout, s, heq, hcorrupted⟩
  · have hiff := introduced_eq_referable_iff hout
    constructor
    · rintro ⟨s, hs, hmark, hrefs⟩
      rw [heq] at hs
      cases hs
      have hnot : ¬ b.Dangling := fun hd => (nomatch hmark.2 hd)
      exact .inr ⟨hnot, hiff.1 (hrefs rfl).2⟩
    · rintro (hbad | ⟨hnot, hshape⟩)
      · exact absurd hbad hout
      · refine ⟨_, heq, ⟨fun hc => (nomatch hc), fun hd => absurd hd hnot⟩, fun _ => ⟨?_, hiff.2 hshape⟩⟩
        have hall : AllRegistered b.ids b.state PyLabel.isResource := by
          by_contra hbad
          exact hout (.inl hbad)
        exact not_embeds_replaced b.state hshape.1 hall
  · constructor
    · exact fun _ => .inl hout
    · intro _
      refine ⟨s, heq, ⟨fun _ => hout.dangling, fun _ => hcorrupted⟩, fun hc => ?_⟩
      rw [hcorrupted] at hc
      cases hc

/-- A VM of the state stands in a tuple and is not registered. -/
def tupleVm : BlueprintContent where
  state := .node .model (.cons (.attr "vms")
    (.node .tuple (.cons (.index 0) (.node (.resource .deployable) (.cons (.attr "id") (PyObj.str "vm") .nil)) .nil)) .nil)
  registeredResources := []
  state_model := rfl
  state_ok := by
    refine ⟨⟨rfl, ⟨rfl, ⟨rfl, trivial, trivial⟩, trivial⟩, trivial⟩, ?_⟩
    intro r hr
    obtain rfl := List.mem_singleton.1 hr
    exact Option.some_ne_none _
  resources_ok := fun p hp => absurd hp List.not_mem_nil

/-- The walk does not look into the tuple. -/
theorem serialization_marks_dangling_fails : ¬ ∀ b : BlueprintContent, b.MarksDangling := by
  intro h
  obtain ⟨s, hs, hmark, -⟩ := h tupleVm
  have hdangling : tupleVm.Dangling := by
    refine .inl ⟨_, List.mem_singleton.2 rfl, ?_⟩
    rintro ⟨id, -, hid⟩
    cases hid
  have hnot : serializeContent tupleVm = .ok tupleVm.serialized := by
    rcases tupleVm.serializeContent_cases with ⟨-, heq⟩ | ⟨hbad | ⟨p, hp, -⟩, -⟩
    · exact heq
    · exact absurd (fun r hr => absurd hr List.not_mem_nil) hbad
    · cases hp
  rw [hnot] at hs
  cases hs
  exact nomatch hmark.2 hdangling

end BlueprintContent

end Nfvcl
