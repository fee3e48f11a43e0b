import Nfvcl.BlueprintSerialization
import Nfvcl.Dicts
import Nfvcl.TextPieces
import Nfvcl.TreeGrafts
import Nfvcl.VimModels

namespace Nfvcl.Persistence
set_option autoImplicit true
open Effects KeyedTrees

/-- What an object in memory is, or the registered object that it is. -/
inductive LiveLabel where
  | plain (l : PyLabel)
  | vmResource
  /-- The object that is registered under the id. -/
  | object (id : String)
  deriving DecidableEq

/-- An object in memory; the registered objects in it are shared, not copied. -/
abbrev LiveObj := KeyedTrees.Tree PyStep LiveLabel

abbrev LiveParts := Forest PyStep LiveLabel

namespace LiveLabel

def forget : LiveLabel → PyLabel
  | .plain l => l
  | .vmResource => .resource .deployable
  | .object _ => .none

/-- `model_dump`, the registered objects apart. -/
def dumped : LiveLabel → LiveLabel
  | .plain l => .plain l.dumped
  | .vmResource => .plain .dict
  | .object id => .object id

def isRef : LiveLabel → Bool
  | .plain l => l.isRef
  | _ => false

/-- What the walk looks into in a document, which has no objects. -/
def isWalked : LiveLabel → Bool
  | .plain l => l.isWalked
  | _ => false

end LiveLabel

namespace LiveObj

def text (s : String) : LiveObj := .node (.plain (.str s)) .nil

def object (id : String) : LiveObj := .node (.object id) .nil

/-- A document before anything in it is an object. -/
def ofDocument (doc : PyObj) : LiveObj := doc.graft (fun _ => none) .plain

def attr? (obj : LiveObj) (name : String) : Option LiveObj :=
  match obj with
  | .node _ f => f.get (.attr name)

def text? : LiveObj → Option String
  | .node (.plain (.str s)) _ => some s
  | _ => none

def attrText (obj : LiveObj) (name : String) : Option String := (obj.attr? name).bind text?

/-- The items of a list of texts. -/
def texts : LiveObj → Option (List String)
  | .node (.plain .list) f => go f
  | _ => none
where
  go : LiveParts → Option (List String)
    | .nil => some []
    | .cons _ t rest => do return (← text? t) :: (← go rest)

def ofTexts (items : List String) : LiveObj :=
  .node (.plain .list) (Forest.ofList (items.zipIdx.map (fun p => (.index p.2, text p.1))))

end LiveObj

/-! ### Validation -/

/-- `model_validate` without the hooks of the classes, by the path of the class. -/
structure Pydantic where
  build : String → LiveObj → Option LiveObj
  /-- The object is an instance of the class. -/
  IsInstance : String → LiveObj → Prop
  /-- Validation undoes `model_dump`. -/
  build_dump : ∀ cls obj, IsInstance cls obj → build cls (obj.map LiveLabel.dumped) = some obj
  /-- An object in the input is kept, or the input is refused. -/
  build_object : ∀ cls doc obj p id f, build cls doc = some obj → doc.getAt p = some (.node (.object id) f) →
    ∀ r, obj.getAt p = some r → r.label = .object id
  /-- Every object comes from the input. -/
  object_build : ∀ cls doc obj (S : String → Prop), build cls doc = some obj → doc.All (fun l => ∀ id, l = .object id → S id) →
    obj.All (fun l => ∀ id, l = .object id → S id)
  /-- The class is a subclass of `Resource`. -/
  IsResource : String → Prop
  /-- Resources have a field `id`, and a text in it stays. -/
  build_id : ∀ cls doc obj id, IsResource cls → build cls doc = some obj → doc.attrText "id" = some id → obj.attrText "id" = some id

/-- What a process has beyond the document: pydantic, the order in which it lists a set of texts, `uuid4`
beside the ids in use, the VIMs of the topology and the areas with a cluster. -/
structure Process where
  pydantic : Pydantic
  listOfSet : List String → List String
  uuid4 : List String → String
  uuid4_ne : ∀ ids, uuid4 ids ≠ ""
  vims : List VimModel
  hasCluster : Int → Bool

section Hooks

variable (listOfSet : List String → List String)

/-- `VmResource.model_post_init`, on the networks. -/
def cleanNetworks (managementNetwork : String) (additionalNetworks : List String) : List String :=
  (listOfSet additionalNetworks).erase managementNetwork

def vmNetworks (f : LiveParts) : Option (String × List String) := do
  let managementNetwork ← (f.get (.attr "management_network")).bind LiveObj.text?
  let additionalNetworks ← (f.get (.attr "additional_networks")).bind LiveObj.texts
  return (managementNetwork, additionalNetworks)

def modelPostInit (f : LiveParts) : LiveParts :=
  match vmNetworks f with
  | some (managementNetwork, additionalNetworks) =>
    f.modify (.attr "additional_networks") (fun _ => LiveObj.ofTexts (cleanNetworks listOfSet managementNetwork additionalNetworks))
  | none => f

mutual

/-- The hooks of an object that is built, those of its parts first. -/
def postInit : LiveObj → LiveObj
  | .node l f => .node l (if l = .vmResource then modelPostInit listOfSet (postInitParts f) else postInitParts f)

def postInitParts : LiveParts → LiveParts
  | .nil => .nil
  | .cons k t rest => .cons k (postInit t) (postInitParts rest)

end

end Hooks

def Process.modelValidate (py : Process) (cls : String) (doc : LiveObj) : Except PyError LiveObj :=
  match py.pydantic.build cls doc with
  | some obj => .ok (postInit py.listOfSet obj)
  | none => .error (.validationError cls)

/-! ### The blueprint in memory and in the database -/

structure RegisteredResource where
  type : String
  value : LiveObj

structure ProviderModel where
  providerDataType : String
  providerData : LiveObj

/-- The class of a blueprint: the class of its state and the state it starts with. -/
structure BlueprintClass where
  stateType : String
  initialState : LiveObj
  initial_alone : initialState.All (fun l => ∀ id, l ≠ .object id)

structure BlueprintModel where
  registeredResources : Dict String RegisteredResource
  state : LiveObj
  virtProviders : Dict Int ProviderModel
  k8sProviders : Dict Int ProviderModel
  pduProvider : Option ProviderModel
  blueprintProvider : Option ProviderModel
  corrupted : Bool

/-- The dump of a class instance with the path of the class. -/
structure TypedDump where
  type : String
  value : PyObj

structure BlueprintDocument where
  registeredResources : Dict String TypedDump
  state : PyObj
  virtProviders : Dict Int TypedDump
  k8sProviders : Dict Int TypedDump
  pduProvider : Option TypedDump
  blueprintProvider : Option TypedDump
  corrupted : Bool

/-! ### Loading -/

section References

variable (registered : List String)

def refPrefix : List Char := "REF=".toList

/-- `text.split("REF=")[1]`. -/
def referredId (text : String) : Option String :=
  ((TextPieces.split refPrefix text.toList)[1]?).map String.ofList

/-- One round of the loop in `__override_variables_in_dict_ref`. -/
def overrideVariableRef (path : List PyStep) : EStateM PyError LiveObj Unit := do
  if path = [] then throw (.indexError "tuple index out of range")
  let objDict ← get
  match (objDict.getAt path).bind LiveObj.text? with
  | none => throw (.attributeError "split")
  | some text =>
    match referredId text with
    | none => throw (.indexError "list index out of range")
    | some id => if id ∈ registered then set (objDict.setAt path (LiveObj.object id)) else throw (.keyError id)

def overrideVariablesInDictRef (obj : LiveObj) : EStateM PyError LiveObj Unit :=
  forM (longestFirst (obj.occurrences LiveLabel.isRef LiveLabel.isWalked)) (overrideVariableRef registered)

def resolved (doc : PyObj) : Except PyError LiveObj :=
  match (overrideVariablesInDictRef registered (LiveObj.ofDocument doc)).run (LiveObj.ofDocument doc) with
  | .ok _ objDict => .ok objDict
  | .error e _ => .error e

end References

section Registering

variable (py : Process)

def isDeployable : LiveLabel → Bool
  | .plain l => l.isDeployable
  | .vmResource => true
  | .object _ => false

/-- `get_vim_from_area_id_model` finds a VIM for the area of the resource. -/
def hasVim (resource : LiveObj) : Bool :=
  match resource.attr? "area" with
  | some (.node (.plain (.other area)) _) => py.vims.any (fun vim => vim.areas.any (fun a => decide (toString a = area)))
  | _ => false

def setId (resource : LiveObj) (id : String) : LiveObj :=
  match resource with
  | .node l f => .node l (f.modify (.attr "id") (fun _ => LiveObj.text id))

def registerResource (registered : Dict String RegisteredResource) (type : String) (resource : LiveObj) :
    Except PyError (Dict String RegisteredResource) :=
  match resource.attr? "id" with
  | none => .error (.attributeError "id")
  | some stored =>
    let id := stored.text?.getD ""
    if id ≠ "" ∧ id ∈ registered.keys then .error (.blueprintNG "Already registered")
    else
      let newId := if id = "" then py.uuid4 registered.keys else id
      let resource := if id = "" then setId resource newId else resource
      if isDeployable resource.label ∧ ¬ hasVim py resource then
        .error (.blueprintNG "Unable to register resource, the area has no associated VIM")
      else .ok (registered.set newId ⟨type, resource⟩)

/-- `resource["value"]["type"]`, if it is a text. -/
def declaredType (value : PyObj) : Except PyError (Option String) :=
  match (LiveObj.ofDocument value).attr? "type" with
  | none => .error (.keyError "type")
  | some declared => .ok declared.text?

/-- One round of the first loop in `__from_db`. -/
def loadDeployable (registered : Dict String RegisteredResource) (resource : String × TypedDump) :
    Except PyError (Dict String RegisteredResource) := do
  if (← declaredType resource.2.value) = some "ResourceDeployable" then
    let value ← py.modelValidate resource.2.type (LiveObj.ofDocument resource.2.value)
    registerResource py registered resource.2.type value
  else return registered

/-- One round of the second loop. -/
def loadConfiguration (registered : Dict String RegisteredResource) (resource : String × TypedDump) :
    Except PyError (Dict String RegisteredResource) := do
  if (← declaredType resource.2.value) = some "ResourceConfiguration" then
    let doc ← resolved registered.keys resource.2.value
    let value ← py.modelValidate resource.2.type doc
    registerResource py registered resource.2.type value
  else return registered

def loadResources (resources : Dict String TypedDump) : Except PyError (Dict String RegisteredResource) := do
  let deployables ← resources.items.foldlM (loadDeployable py) Dict.empty
  resources.items.foldlM (loadConfiguration py) deployables

/-- The state, and whether it is the one of the document. -/
def loadState (cls : BlueprintClass) (registered : Dict String RegisteredResource) (state : PyObj) :
    Except PyError (LiveObj × Bool) := do
  let doc ← resolved registered.keys state
  match py.modelValidate cls.stateType doc with
  | .ok state => return (state, true)
  | .error _ => return (cls.initialState, false)

end Registering

section Providers

variable (py : Process)

def virtProviderDataType : VimTypeEnum → String
  | .openstack => "nfvcl.blueprints_ng.providers.virtualization.virtualization_provider_openstack.VirtualizationProviderDataOpenstack"
  | .proxmox => "nfvcl.blueprints_ng.providers.virtualization.proxmox.virtualization_provider_proxmox.VirtualizationProviderDataProxmox"

def k8sProviderDataType : String := "nfvcl.blueprints_ng.providers.kubernetes.k8s_provider_native.K8SProviderDataNative"

def pduProviderDataType : String := "nfvcl.blueprints_ng.providers.pdu.pdu_provider.PDUProviderData"

def blueprintProviderDataType : String := "nfvcl.blueprints_ng.providers.blueprint.blueprint_provider.BlueprintProviderData"

/-- The class of the data of the provider that the process has for an area. -/
def virtDataClass (area : Int) : Except PyError String :=
  match py.vims.find? (fun vim => decide (area ∈ vim.areas)) with
  | some vim => .ok (virtProviderDataType vim.vimType)
  | none => .error (.valueError s!"The VIM of area ->{area}<- was not found in the topology.")

def k8sDataClass (area : Int) : Except PyError String :=
  if py.hasCluster area then .ok k8sProviderDataType
  else .error (.external s!"K8s cluster not found in area {area}")

/-- The data of one provider, read as what a new provider has. -/
def loadProvider (dataClass : Except PyError String) (saved : TypedDump) : Except PyError ProviderModel := do
  let data ← py.modelValidate (← dataClass) (LiveObj.ofDocument saved.value)
  return ⟨saved.type, data⟩

def loadProviders (dataClass : Int → Except PyError String) (saved : Dict Int TypedDump) : Except PyError (Dict Int ProviderModel) :=
  saved.items.foldlM (fun loaded p => do return loaded.set p.1 (← loadProvider py (dataClass p.1) p.2)) Dict.empty

def loadOptional (dataClass : String) : Option TypedDump → Except PyError (Option ProviderModel)
  | none => .ok none
  | some saved => do return some (← loadProvider py (.ok dataClass) saved)

def fromDb (cls : BlueprintClass) (doc : BlueprintDocument) : Except PyError BlueprintModel := do
  let registered ← loadResources py doc.registeredResources
  let (state, valid) ← loadState py cls registered doc.state
  let virtProviders ← loadProviders py (virtDataClass py) doc.virtProviders
  let k8sProviders ← loadProviders py (k8sDataClass py) doc.k8sProviders
  let pduProvider ← loadOptional py pduProviderDataType doc.pduProvider
  let blueprintProvider ← loadOptional py blueprintProviderDataType doc.blueprintProvider
  return ⟨registered, state, virtProviders, k8sProviders, pduProvider, blueprintProvider, doc.corrupted || !valid⟩

end Providers

/-! ### What the references are resolved to -/

section Resolving

variable {registered : List String} {doc : PyObj}

theorem referredId_ref (id : String) : referredId s!"REF={id}" = some id ↔ ¬ refPrefix <:+: id.toList := by
  have hsep : refPrefix ≠ [] := fun he => nomatch he
  have hchars : (s!"REF={id}").toList = refPrefix ++ id.toList := by
    simp only [String.toList_append]
    rfl
  rw [referredId, hchars, ← TextPieces.split_second_iff hsep]
  constructor
  · intro h
    obtain ⟨cs, hcs, heq⟩ := Option.map_eq_some_iff.1 h
    rw [hcs, ← heq, String.toList_ofList]
  · intro h
    rw [h, Option.map_some, String.ofList_toList]

theorem referredId_isSome {text : String} (h : PyLabel.isRef (.str text) = true) : ∃ id, referredId text = some id := by
  obtain ⟨rest, hrest⟩ := List.isPrefixOf_iff_prefix.1 h
  have hsep : refPrefix ≠ [] := fun he => nomatch he
  obtain ⟨piece, hpiece⟩ := TextPieces.split_second hsep rest
  refine ⟨String.ofList piece, ?_⟩
  have hchars : text.toList = refPrefix ++ rest := hrest.symm
  rw [referredId, hchars, hpiece]
  rfl

/-- The id that a reference refers to. -/
def referred (r : LiveObj) : Option String := r.text?.bind referredId

def dereferenced (r : LiveObj) : LiveObj :=
  match referred r with
  | some id => LiveObj.object id
  | none => r

theorem referred_of_isRef {r : LiveObj} (h : r.label.isRef = true) : ∃ id, referred r = some id := by
  cases r with
  | node l f =>
    cases l with
    | plain l =>
      cases l with
      | str text => exact referredId_isSome h
      | _ => cases h
    | vmResource => cases h
    | object id => cases h

/-- Only the label counts. -/
theorem referred_node (l : LiveLabel) (f g : LiveParts) : referred (.node l f) = referred (.node l g) := by
  cases l with
  | plain l => cases l <;> rfl
  | vmResource => rfl
  | object id => rfl

theorem overrideVariableRef_run (registered : List String) {id : String} (hpath : path ≠ []) {objDict r : LiveObj} (hget : objDict.getAt path = some r) (hid : referred r = some id) :
    (overrideVariableRef registered path).run objDict =
      if id ∈ registered then .ok () (objDict.setAt path (LiveObj.object id)) else .error (.keyError id) objDict := by
  obtain ⟨text, htext, hid⟩ := Option.bind_eq_some_iff.1 hid
  rw [overrideVariableRef]
  simp only [hpath, if_false]
  rw [EStateM.run_bind, EStateM.run_get]
  simp only [hget, Option.bind_some, htext, hid]
  split
  · rfl
  · rfl

/-- The object that a reference refers to is registered. -/
def Resolvable (registered : List String) (r : LiveObj) : Prop := ∃ id, referred r = some id ∧ id ∈ registered

theorem overrideVariablesInDictRef_meets (registered : List String) {obj : LiveObj} (hobj : obj.Distinct) (hroot : obj.label.isRef = false) :
    Meets (overrideVariablesInDictRef registered obj) obj
      (fun _ s => s = obj.replaced LiveLabel.isRef LiveLabel.isWalked (fun l => l) dereferenced ∧
        ∀ r ∈ obj.found LiveLabel.isRef LiveLabel.isWalked, Resolvable registered r)
      (fun _ _ => ∃ r ∈ obj.found LiveLabel.isRef LiveLabel.isWalked, ¬ Resolvable registered r) := by
  have hstart : obj.map (fun l => l) = obj := Tree.map_self obj
  have hloop : Meets (overrideVariablesInDictRef registered obj) (obj.map (fun l => l))
      (fun _ s => s = obj.replaced LiveLabel.isRef LiveLabel.isWalked (fun l => l) dereferenced ∧
        ∀ r ∈ obj.found LiveLabel.isRef LiveLabel.isWalked, Resolvable registered r)
      (fun _ _ => True ∧ ∃ r ∈ obj.found LiveLabel.isRef LiveLabel.isWalked, ¬ Resolvable registered r) := by
    refine forM_longestFirst hobj ?_
    intro p r done hp hget hclear _
    have hpath : p ≠ [] := by
      rintro rfl
      have hw := (Tree.nil_mem_occurrences hobj).1 hp
      rw [hroot] at hw
      cases hw
    obtain ⟨r', hr', hw⟩ := Tree.getAt_occurrence hobj hp
    rw [hget] at hr'
    cases hr'
    obtain ⟨id, hid⟩ := referred_of_isRef hw
    have hrender : (obj.render (fun l => l) dereferenced done).getAt p =
        some (r.render (fun l => l) dereferenced (fun q => done (p ++ q))) := Tree.getAt_render hget (fun q hq _ => hclear q hq)
    have hsame : referred (r.render (fun l => l) dereferenced (fun q => done (p ++ q))) = some id := by
      cases r with
      | node l f =>
        rw [Tree.render, List.append_nil, hclear p (List.prefix_refl p), if_neg Bool.false_ne_true]
        exact (referred_node l _ f).trans hid
    have hrun := overrideVariableRef_run registered hpath hrender hsame
    by_cases hmem : id ∈ registered
    · rw [if_pos hmem] at hrun
      refine meets_of_ok hrun ⟨⟨id, hid, hmem⟩, ?_⟩
      rw [dereferenced, hid]
    · rw [if_neg hmem] at hrun
      refine meets_of_error hrun ⟨?_, trivial⟩
      rintro ⟨id', hid', hmem'⟩
      rw [hid] at hid'
      cases hid'
      exact hmem hmem'
  rw [hstart] at hloop
  exact hloop.mono (fun _ _ h => h) (fun _ _ h => h.2)

theorem resolved_cases (registered : List String) (hdoc : (LiveObj.ofDocument doc).Distinct) (hroot : (LiveObj.ofDocument doc).label.isRef = false) :
    (resolved registered doc = .ok ((LiveObj.ofDocument doc).replaced LiveLabel.isRef LiveLabel.isWalked (fun l => l) dereferenced) ∧
      ∀ r ∈ (LiveObj.ofDocument doc).found LiveLabel.isRef LiveLabel.isWalked, Resolvable registered r) ∨
    ((∃ e, resolved registered doc = .error e) ∧
      ∃ r ∈ (LiveObj.ofDocument doc).found LiveLabel.isRef LiveLabel.isWalked, ¬ Resolvable registered r) := by
  have h := overrideVariablesInDictRef_meets registered hdoc hroot
  unfold Meets at h
  unfold resolved
  cases hrun : (overrideVariablesInDictRef registered (LiveObj.ofDocument doc)).run (LiveObj.ofDocument doc) with
  | ok u s =>
    rw [hrun] at h
    rw [h.1]
    exact .inl ⟨rfl, h.2⟩
  | error e s =>
    rw [hrun] at h
    exact .inr ⟨⟨e, rfl⟩, h⟩

end Resolving

end Nfvcl.Persistence
