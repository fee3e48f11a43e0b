import Nfvcl.BlueprintLoading

namespace Nfvcl.Persistence
set_option autoImplicit true
open Effects KeyedTrees

namespace LiveLabel

def isResource : LiveLabel → Bool
  | .plain l => l.isResource
  | .vmResource => true
  | .object _ => false

def isConfiguration : LiveLabel → Bool
  | .plain l => l.isConfiguration
  | _ => false

/-- What has no parts. -/
def isLeaf : LiveLabel → Bool
  | .plain .none => true
  | .plain (.str _) => true
  | .plain (.other _) => true
  | .object _ => true
  | _ => false

/-- The field `type` of a resource. -/
def typeText : LiveLabel → String
  | .plain (.resource .resource) => "Resource"
  | .plain (.resource .configuration) => "ResourceConfiguration"
  | _ => "ResourceDeployable"

end LiveLabel

/-- An object of models, dictionaries and lists, each part under a key or an attribute of its own. -/
structure Proper (obj : LiveObj) : Prop where
  distinct : obj.Distinct
  leafy : obj.Leafy LiveLabel.isLeaf
  untupled : obj.All (fun l => l ≠ .plain .tuple)

/-- The networks of a VM. -/
structure HasNetworks (vm : LiveObj) (managementNetwork : String) (additionalNetworks : List String) : Prop where
  management : vm.attr? "management_network" = some (LiveObj.text managementNetwork)
  additional : vm.attr? "additional_networks" = some (LiveObj.ofTexts additionalNetworks)

def parts : LiveObj → LiveParts
  | .node _ f => f

/-- A resource as `register_resource` leaves it. A deployable holds no other resource, and what another one
holds are registered deployables. -/
structure SoundResource (py : Process) (registered : Dict String RegisteredResource) (id : String) (r : RegisteredResource) : Prop where
  proper : Proper r.value
  resource : r.value.label.isResource = true
  id_text : r.value.attr? "id" = some (LiveObj.text id)
  id_ne : id ≠ ""
  /-- Ids are made by `uuid4`. -/
  id_uuid : ¬ refPrefix <:+: id.toList
  type_text : r.value.attr? "type" = some (LiveObj.text r.value.label.typeText)
  alone : (parts r.value).All (fun l => l.isResource = false)
  deployable : isDeployable r.value.label = true → (parts r.value).All (fun l => ∀ held, l ≠ .object held) ∧ hasVim py r.value = true
  holds : (parts r.value).All (fun l => ∀ held, l = .object held →
    ∃ r', registered.get? held = some r' ∧ isDeployable r'.value.label = true)
  networks : r.value.label = .vmResource → ∃ managementNetwork additionalNetworks,
    HasNetworks r.value managementNetwork additionalNetworks
  instance_of : py.pydantic.IsInstance r.type r.value
  resource_class : py.pydantic.IsResource r.type

/-- The data of a provider, without resources in it. -/
structure SoundProvider (p : ProviderModel) : Prop where
  proper : Proper p.providerData
  alone : p.providerData.All (fun l => ∀ held, l ≠ .object held)

/-- A blueprint whose resources are all registered, with the state its class has. -/
structure Blueprint (py : Process) (cls : BlueprintClass) extends BlueprintModel where
  state_proper : Proper state
  state_model : state.label = .plain .model
  state_registered : state.All (fun l => l.isResource = false ∧ ∀ held, l = .object held → held ∈ registeredResources.keys)
  state_instance : py.pydantic.IsInstance cls.stateType state
  resources_sound : ∀ p ∈ registeredResources.items, SoundResource py registeredResources p.1 p.2
  virt_sound : ∀ p ∈ virtProviders.items, SoundProvider p.2
  k8s_sound : ∀ p ∈ k8sProviders.items, SoundProvider p.2
  pdu_sound : ∀ p ∈ pduProvider, SoundProvider p
  blueprint_sound : ∀ p ∈ blueprintProvider, SoundProvider p
  uncorrupted : corrupted = false

/-! ### What is saved -/

section Saving

/-- An object by value: the registered objects in it are copied. -/
def valueOf (held : String → Option PyObj) (obj : LiveObj) : PyObj :=
  obj.graft (fun
    | .object id => held id
    | _ => none) LiveLabel.forget

variable (registered : Dict String RegisteredResource)

/-- A deployable, which holds no other object. -/
def deployedValue (id : String) : Option PyObj :=
  (registered.get? id).map (fun r => valueOf (fun _ => none) r.value)

def registeredValue (id : String) : Option PyObj :=
  (registered.get? id).map (fun r => valueOf (deployedValue registered) r.value)

end Saving

/-! ### Labels -/

theorem forget_isResource (l : LiveLabel) : l.forget.isResource = l.isResource := by
  cases l <;> rfl

theorem forget_isDeployable (l : LiveLabel) : l.forget.isDeployable = isDeployable l := by
  cases l <;> rfl

theorem isResource_of_isDeployable {l : LiveLabel} (h : isDeployable l = true) : l.isResource = true := by
  cases l with
  | plain l => exact BlueprintContent.isResource_of_isDeployable h
  | vmResource => rfl
  | object id => cases h

theorem isLeaf_of_isResource {l : LiveLabel} (h : l.isResource = true) : l.isLeaf = false := by
  cases l with
  | plain l =>
    cases l with
    | resource cls => rfl
    | _ => cases h
  | vmResource => rfl
  | object id => cases h

/-- Everything but a tuple is walked into or has no parts. -/
theorem isWalked_or_isLeaf {l : LiveLabel} (h : l ≠ .plain .tuple) : l.forget.isWalked = true ∨ l.isLeaf = true := by
  cases l with
  | plain l =>
    cases l with
    | tuple => exact absurd rfl h
    | none => exact .inr rfl
    | str text => exact .inr rfl
    | other repr => exact .inr rfl
    | dict => exact .inl rfl
    | list => exact .inl rfl
    | model => exact .inl rfl
    | resource cls => exact .inl rfl
  | vmResource => exact .inl rfl
  | object id => exact .inr rfl

theorem not_object_of_isResource {l : LiveLabel} (h : l.isResource = true) : ∀ held, l ≠ .object held := by
  rintro held rfl
  cases h

theorem valueOf_node {held : String → Option PyObj} {l : LiveLabel} (h : ∀ id, l ≠ .object id) (f : LiveParts) :
    ∃ f', valueOf held (.node l f) = .node l.forget f' ∧ ∀ k, f'.get k = (f.get k).map (valueOf held) := by
  refine ⟨_, Tree.graft_none ?_, fun k => Forest.get_graft f k⟩
  cases l with
  | object id => exact absurd rfl (h id)
  | _ => rfl

section Resources

variable {py : Process} {registered : Dict String RegisteredResource} {r : RegisteredResource} {held : String → Option PyObj}
variable {id : String} {ids : List String}

theorem SoundResource.label_valueOf (h : SoundResource py registered id r) : (valueOf held r.value).label = r.value.label.forget := by
  have hres := h.resource
  cases hv : r.value with
  | node l f =>
    rw [hv] at hres
    obtain ⟨f', hval, -⟩ := valueOf_node (l := l) (not_object_of_isResource hres) f
    rw [hval]
    rfl

theorem SoundResource.id_valueOf (h : SoundResource py registered id r) : PyObj.id (valueOf held r.value) = some (some id) := by
  have hres := h.resource
  have hid := h.id_text
  cases hv : r.value with
  | node l f =>
    rw [hv] at hres hid
    obtain ⟨f', hval, hget⟩ := valueOf_node (l := l) (not_object_of_isResource hres) f
    have htext : f'.get (.attr "id") = some (PyObj.str id) := by
      rw [hget]
      exact congrArg (Option.map (valueOf held)) hid
    rw [hval, PyObj.id, htext]
    rfl

theorem SoundResource.isRegistered (h : SoundResource py registered id r) (hmem : id ∈ ids) :
    BlueprintNG.Registered ids (valueOf held r.value) := ⟨id, h.id_valueOf, hmem⟩

/-- What is found in a resource by value is the resource, or found in what it holds. -/
theorem SoundResource.found {wanted enter : PyLabel → Bool} {R : PyObj → Prop} (h : SoundResource py registered id r)
    (hwanted : ∀ l, wanted l = true → l.isResource = true) (hself : R (valueOf held r.value))
    (hheld : (parts r.value).All (fun l => ∀ i, l = .object i → ∀ s, held i = some s → ∀ x ∈ s.found wanted enter, R x))
    (hx : x ∈ (valueOf held r.value).found wanted enter) : R x := by
  have hres := h.resource
  have halone := h.alone
  cases hv : r.value with
  | node l f =>
    rw [hv] at hres halone hheld hself hx
    have hnode : valueOf held (.node l f) = .node l.forget (f.graft (fun
        | .object id => held id
        | _ => none) LiveLabel.forget) := by
      refine Tree.graft_none ?_
      cases l with
      | object id => cases hres
      | _ => rfl
    rw [hnode] at hself hx
    rw [Tree.found, List.mem_append] at hx
    rcases hx with hx | hx
    · split at hx
      · rw [List.mem_singleton.1 hx]
        exact hself
      · cases hx
    · split at hx
      · refine Forest.mem_found_graft f ?_ hx
        refine Forest.All.mono ?_ f (Forest.All.and f halone hheld)
        rintro l ⟨hl, hheld⟩
        constructor
        · intro s hs
          cases l with
          | object i => exact hheld i rfl s hs
          | _ => cases hs
        · intro _
          rw [Bool.eq_false_iff]
          intro hw
          have hr := hwanted _ hw
          rw [forget_isResource, hl] at hr
          cases hr
      · cases hx

end Resources

section Held

variable {py : Process} {registered : Dict String RegisteredResource} {R : PyObj → Prop} {wanted enter : PyLabel → Bool}
variable (hsound : ∀ id r, registered.get? id = some r → SoundResource py registered id r)
variable (hwanted : ∀ l, wanted l = true → l.isResource = true)
variable (hR : ∀ id r held, registered.get? id = some r → R (valueOf held r.value))

include hsound hwanted hR

theorem found_deployedValue (hs : deployedValue registered i = some s) (hx : x ∈ s.found wanted enter) : R x := by
  obtain ⟨r, hr, rfl⟩ := Option.map_eq_some_iff.1 hs
  refine (hsound i r hr).found hwanted (hR i r _ hr) ?_ hx
  exact Forest.All.mono (fun l hl held he s hs => nomatch hs) _ (hsound i r hr).alone

theorem found_registeredValue (hs : registeredValue registered i = some s) (hx : x ∈ s.found wanted enter) : R x := by
  obtain ⟨r, hr, rfl⟩ := Option.map_eq_some_iff.1 hs
  refine (hsound i r hr).found hwanted (hR i r _ hr) ?_ hx
  exact Forest.All.mono (fun l _ held _ s hs x hx => found_deployedValue hsound hwanted hR hs hx) _ (hsound i r hr).alone

theorem found_resource (hr : registered.get? i = some r) (hx : x ∈ (valueOf (deployedValue registered) r.value).found wanted enter) : R x :=
  found_registeredValue (s := valueOf (deployedValue registered) r.value) hsound hwanted hR (by rw [registeredValue, hr]; rfl) hx

theorem found_state {state : LiveObj} (hstate : state.All (fun l => l.isResource = false))
    (hx : x ∈ (valueOf (registeredValue registered) state).found wanted enter) : R x := by
  refine Tree.mem_found_graft state ?_ hx
  refine Tree.All.mono ?_ state hstate
  intro l hl
  constructor
  · intro s hs
    cases l with
    | object i => exact fun x hx => found_registeredValue hsound hwanted hR hs hx
    | _ => cases hs
  · intro _
    rw [Bool.eq_false_iff]
    intro hw
    have hr := hwanted _ hw
    rw [forget_isResource, hl] at hr
    cases hr

end Held

/-! ### The dictionary that is saved -/

/-- A registered object is saved as a reference to it. -/
def savedRef : LiveLabel → Option PyObj
  | .object id => some (BlueprintNG.ref id)
  | _ => none

def saved (obj : LiveObj) : PyObj := obj.graft savedRef (fun l => l.forget.dumped)

section Shapes

variable {registered : Dict String RegisteredResource} {held : String → Option PyObj} {obj : LiveObj} {tipo : PyLabel → Bool}

theorem valueOf_distinct (h : obj.Distinct) (hheld : ∀ id s, held id = some s → s.Distinct) : (valueOf held obj).Distinct := by
  refine Tree.graft_distinct obj h ?_
  have hall : obj.All (fun _ => True) := Tree.all_of_forall (fun _ => trivial) obj
  refine Tree.All.mono ?_ obj hall
  intro l _ s hs
  cases l with
  | object id => exact hheld id s hs
  | _ => cases hs

/-- The overriding of an object in which what is of the type are the registered objects. -/
theorem overriddenDump_valueOf (hproper : Proper obj)
    (h : obj.All (fun l => (tipo l.forget = false ∨ ∃ id, l = .object id) ∧ ∀ id, l = .object id →
      ∃ s, held id = some s ∧ tipo s.label = true ∧ BlueprintNG.refTo s = BlueprintNG.ref id)) :
    BlueprintNG.overriddenDump (valueOf held obj) tipo = saved obj := by
  rw [BlueprintNG.overriddenDump, valueOf, Tree.replaced_graft obj hproper.leafy]
  · refine Tree.graft_congr obj hproper.leafy ?_
    refine Tree.All.mono ?_ obj h
    rintro l ⟨-, hl⟩
    cases l with
    | object id =>
      obtain ⟨s, hs, -, href⟩ := hl id rfl
      refine .inr ⟨rfl, ?_⟩
      simp only [hs, Option.map_some, Option.getD_some, savedRef, href]
    | _ => exact .inl ⟨rfl, rfl, rfl⟩
  · refine Tree.All.mono ?_ obj (Tree.All.and obj h hproper.untupled)
    rintro l ⟨⟨hl, hobject⟩, htuple⟩
    constructor
    · intro s hs
      cases l with
      | object id =>
        obtain ⟨s', hs', htipo, -⟩ := hobject id rfl
        cases hs'.symm.trans hs
        exact htipo
      | _ => cases hs
    · intro hnone
      refine ⟨?_, isWalked_or_isLeaf htuple⟩
      rcases hl with hl | ⟨id, rfl⟩
      · exact hl
      · obtain ⟨s, hs, -⟩ := hobject id rfl
        exact nomatch hs.symm.trans hnone

theorem modelDump_valueOf (hproper : Proper obj) (h : obj.All (fun l => ∀ id, l ≠ .object id)) : (valueOf held obj).modelDump = saved obj := by
  rw [PyObj.modelDump, valueOf, Tree.graft_map, saved]
  refine Tree.graft_congr obj hproper.leafy ?_
  refine Tree.All.mono ?_ obj h
  intro l hl
  cases l with
  | object id => exact absurd rfl (hl id)
  | _ => exact .inl ⟨rfl, rfl, rfl⟩

end Shapes

section Documents

variable {py : Process} {cls : BlueprintClass} (b : Blueprint py cls)

namespace Blueprint

theorem sound {id : String} (h : b.registeredResources.get? id = some r) : SoundResource py b.registeredResources id r :=
  b.resources_sound (id, r) (Dict.mem_items h)

variable {b} in
theorem deployedValue_distinct {id : String} (h : deployedValue b.registeredResources id = some s) : s.Distinct := by
  obtain ⟨r, hr, rfl⟩ := Option.map_eq_some_iff.1 h
  exact valueOf_distinct (b.sound hr).proper.distinct (fun _ _ hn => nomatch hn)

variable {b} in
theorem registeredValue_distinct {id : String} (h : registeredValue b.registeredResources id = some s) : s.Distinct := by
  obtain ⟨r, hr, rfl⟩ := Option.map_eq_some_iff.1 h
  exact valueOf_distinct (b.sound hr).proper.distinct (fun _ _ => deployedValue_distinct)

theorem id_of_registered : ∀ id r held, b.registeredResources.get? id = some r → PyObj.id (valueOf held r.value) ≠ none := by
  intro id r held hr
  rw [(b.sound hr).id_valueOf]
  exact Option.some_ne_none _

theorem registered_of_registered : ∀ id r held, b.registeredResources.get? id = some r →
    BlueprintNG.Registered b.registeredResources.keys (valueOf held r.value) := by
  intro id r held hr
  exact (b.sound hr).isRegistered (Dict.mem_keys_iff.2 ⟨r, hr⟩)

theorem state_unregistered : b.state.All (fun l => l.isResource = false) :=
  Tree.All.mono (fun _ h => h.1) b.state b.state_registered

/-- The part of the blueprint that is rewritten when it is saved, by value. -/
def content : BlueprintContent where
  state := valueOf (registeredValue b.registeredResources) b.state
  registeredResources := b.registeredResources.items.map (fun p => (p.1, valueOf (deployedValue b.registeredResources) p.2.value))
  state_model := by
    have hmodel := b.state_model
    cases hs : b.state with
    | node l f =>
      rw [hs] at hmodel
      obtain ⟨f', hval, -⟩ := valueOf_node (l := l) (by
        rintro id rfl
        cases hmodel) f
      rw [hval]
      exact congrArg LiveLabel.forget hmodel
  state_ok := by
    refine ⟨valueOf_distinct b.state_proper.distinct (fun _ _ => registeredValue_distinct), ?_⟩
    intro x hx
    exact found_state (R := fun x => PyObj.id x ≠ none) (fun _ _ => b.sound) (fun _ h => h) b.id_of_registered b.state_unregistered hx
  resources_ok := by
    intro q hq
    obtain ⟨p, hp, rfl⟩ := List.mem_map.1 hq
    have hr := Dict.get?_of_mem hp
    refine ⟨?_, valueOf_distinct (b.sound hr).proper.distinct (fun _ _ => deployedValue_distinct), ?_⟩
    · rw [(b.sound hr).label_valueOf, forget_isResource]
      exact (b.sound hr).resource
    · intro x hx
      exact found_resource (R := fun x => PyObj.id x ≠ none) (fun _ _ => b.sound) (fun _ h => h) b.id_of_registered hr hx

theorem content_ids : b.content.ids = b.registeredResources.keys := by
  rw [BlueprintContent.ids, content, List.map_map]
  rfl

/-- Everything that can be reached is registered. -/
theorem not_danglingOutside : ¬ b.content.DanglingOutside := by
  rintro (hstate | ⟨q, hq, hconf⟩)
  · refine hstate ?_
    intro x hx
    rw [content_ids]
    exact found_state (fun _ _ => b.sound) (fun _ h => h) b.registered_of_registered b.state_unregistered hx
  · refine hconf ?_
    intro x hx
    obtain ⟨p, hp, rfl⟩ := List.mem_map.1 (List.mem_filter.1 hq).1
    rw [content_ids]
    exact found_resource (fun _ _ => b.sound) (fun _ h => BlueprintContent.isResource_of_isDeployable h) b.registered_of_registered
      (Dict.get?_of_mem hp) hx

theorem serializeContent_eq : BlueprintNG.serializeContent b.content = .ok b.content.serialized := by
  rcases b.content.serializeContent_cases with ⟨-, h⟩ | ⟨h, -⟩
  · exact h
  · exact absurd h b.not_danglingOutside

theorem refTo_registered {id : String} (h : b.registeredResources.get? id = some r) (held : String → Option PyObj) :
    BlueprintNG.refTo (valueOf held r.value) = BlueprintNG.ref id := by
  rw [BlueprintNG.refTo, (b.sound h).id_valueOf]

theorem saved_state : BlueprintNG.overriddenDump b.content.state PyLabel.isResource = saved b.state := by
  refine overriddenDump_valueOf b.state_proper ?_
  refine Tree.All.mono ?_ b.state b.state_registered
  rintro l ⟨hl, hheld⟩
  constructor
  · rw [forget_isResource]
    exact .inl hl
  · rintro id rfl
    obtain ⟨r, hr⟩ := Dict.mem_keys_iff.1 (hheld id rfl)
    refine ⟨valueOf (deployedValue b.registeredResources) r.value, by rw [registeredValue, hr]; rfl, ?_, b.refTo_registered hr _⟩
    rw [(b.sound hr).label_valueOf, forget_isResource]
    exact (b.sound hr).resource

theorem saved_configuration {id : String} (h : b.registeredResources.get? id = some r) (hconf : r.value.label.isConfiguration = true) :
    BlueprintNG.overriddenDump (valueOf (deployedValue b.registeredResources) r.value) PyLabel.isDeployable = saved r.value := by
  have hsound := b.sound h
  refine overriddenDump_valueOf hsound.proper ?_
  have halone := hsound.alone
  have hholds := hsound.holds
  cases hv : r.value with
  | node l f =>
    rw [hv] at hconf halone hholds
    refine ⟨⟨.inl ?_, ?_⟩, ?_⟩
    · cases l with
      | plain l =>
        cases l with
        | resource cls =>
          cases cls with
          | configuration => rfl
          | _ => cases hconf
        | _ => cases hconf
      | _ => cases hconf
    · rintro id rfl
      cases hconf
    · refine Forest.All.mono ?_ f (Forest.All.and f halone hholds)
      rintro l ⟨hl, hheld⟩
      constructor
      · refine .inl ?_
        rw [Bool.eq_false_iff, forget_isDeployable]
        intro hd
        rw [isResource_of_isDeployable hd] at hl
        cases hl
      · rintro id rfl
        obtain ⟨r', hr', hd⟩ := hheld id rfl
        refine ⟨valueOf (fun _ => none) r'.value, by rw [deployedValue, hr']; rfl, ?_, b.refTo_registered hr' _⟩
        rw [(b.sound hr').label_valueOf, forget_isDeployable]
        exact hd

theorem saved_deployable {id : String} (h : b.registeredResources.get? id = some r) (hd : isDeployable r.value.label = true)
    (held : String → Option PyObj) : (valueOf held r.value).modelDump = saved r.value := by
  have hsound := b.sound h
  refine modelDump_valueOf hsound.proper ?_
  have hparts := (hsound.deployable hd).1
  have hroot := not_object_of_isResource hsound.resource
  cases hv : r.value with
  | node l f =>
    rw [hv] at hparts hroot
    exact ⟨hroot, hparts⟩

/-- What a registered resource is saved as. -/
def savedResource (r : RegisteredResource) : PyObj :=
  if r.value.label.isConfiguration ∨ isDeployable r.value.label then saved r.value
  else (valueOf (deployedValue b.registeredResources) r.value).modelDump

theorem serialized_resources : b.content.serialized.registeredResources =
    b.registeredResources.items.map (fun p => (p.1, b.savedResource p.2)) := by
  rw [BlueprintContent.serialized, content, List.map_map]
  refine List.map_congr_left ?_
  intro p hp
  have hr := Dict.get?_of_mem hp
  have hconf : (valueOf (deployedValue b.registeredResources) p.2.value).label.isConfiguration = p.2.value.label.isConfiguration := by
    rw [(b.sound hr).label_valueOf]
    cases p.2.value.label <;> rfl
  simp only [Function.comp_apply, hconf, savedResource]
  by_cases hc : p.2.value.label.isConfiguration = true
  · rw [if_pos hc, if_pos (.inl hc), b.saved_configuration hr hc]
  · by_cases hd : isDeployable p.2.value.label = true
    · rw [if_neg hc, if_pos (.inr hd), b.saved_deployable hr hd]
    · rw [if_neg hc, if_neg (fun h => h.elim hc hd)]

end Blueprint

def ProviderModel.dump (p : ProviderModel) : TypedDump := ⟨p.providerDataType, (valueOf (fun _ => none) p.providerData).modelDump⟩

namespace Blueprint

/-- The dictionary around what `__serialize_content` has rewritten. -/
def documentOf (s : SerializedContent) : BlueprintDocument where
  registeredResources := b.registeredResources.mapValues (fun id r =>
    ⟨r.type, ((KeyedList.toMap Prod.fst s.registeredResources id).map Prod.snd).getD PyObj.none⟩)
  state := s.state
  virtProviders := b.virtProviders.mapValues (fun _ p => p.dump)
  k8sProviders := b.k8sProviders.mapValues (fun _ p => p.dump)
  pduProvider := b.pduProvider.map ProviderModel.dump
  blueprintProvider := b.blueprintProvider.map ProviderModel.dump
  corrupted := b.corrupted || s.corrupted

/-- The dictionary that `to_db` stores. -/
def toDb : Except PyError BlueprintDocument := do
  let s ← BlueprintNG.serializeContent b.content
  return b.documentOf s

def document : BlueprintDocument where
  registeredResources := b.registeredResources.mapValues (fun _ r => ⟨r.type, b.savedResource r⟩)
  state := saved b.state
  virtProviders := b.virtProviders.mapValues (fun _ p => p.dump)
  k8sProviders := b.k8sProviders.mapValues (fun _ p => p.dump)
  pduProvider := b.pduProvider.map ProviderModel.dump
  blueprintProvider := b.blueprintProvider.map ProviderModel.dump
  corrupted := false

theorem toDb_eq : b.toDb = .ok b.document := by
  rw [toDb, b.serializeContent_eq, except_ok_bind]
  refine congrArg Except.ok ?_
  have hstate : b.content.serialized.state = saved b.state := b.saved_state
  have hflag : (b.corrupted || b.content.serialized.corrupted) = false := by
    rw [b.uncorrupted]
    rfl
  have hresources : b.registeredResources.mapValues (fun id r =>
      (⟨r.type, ((KeyedList.toMap Prod.fst b.content.serialized.registeredResources id).map Prod.snd).getD PyObj.none⟩ : TypedDump)) =
      b.registeredResources.mapValues (fun _ r => ⟨r.type, b.savedResource r⟩) := by
    refine Dict.mapValues_congr ?_
    intro p hp
    have hkeys : KeyedList.Unique Prod.fst (b.registeredResources.mapValues (fun _ r => b.savedResource r)).items :=
      (b.registeredResources.mapValues (fun _ r => b.savedResource r)).unique
    have hlookup : KeyedList.toMap Prod.fst b.content.serialized.registeredResources p.1 = some (p.1, b.savedResource p.2) := by
      rw [b.serialized_resources]
      exact hkeys.toMap_mem (a := (p.1, b.savedResource p.2)) (List.mem_map.2 ⟨p, hp, rfl⟩)
    rw [hlookup]
    rfl
  rw [documentOf, document, hstate, hflag, hresources]

end Blueprint

end Documents

end Nfvcl.Persistence
