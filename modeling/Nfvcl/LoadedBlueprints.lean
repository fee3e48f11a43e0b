import Nfvcl.BlueprintRoundTrip
import Nfvcl.DictLoops

namespace Nfvcl.Persistence
set_option autoImplicit true
open Effects KeyedTrees

/-! ### Objects that are held -/

/-- Every object in it is registered. -/
def HoldsOnly (registered : List String) (obj : LiveObj) : Prop := obj.All (fun l => ∀ id, l = .object id → id ∈ registered)

section Holding

variable {registered : List String} {obj : LiveObj}

theorem HoldsOnly.mono (h : HoldsOnly registered obj) {more : List String} (hsub : ∀ id ∈ registered, id ∈ more) : HoldsOnly more obj :=
  Tree.All.mono (fun _ hl id he => hsub id (hl id he)) obj h

theorem holdsOnly_text (s : String) : HoldsOnly registered (LiveObj.text s) := ⟨fun _ he => (nomatch he), trivial⟩

theorem holdsOnly_ofDocument (doc : PyObj) : HoldsOnly registered (LiveObj.ofDocument doc) := by
  refine Tree.all_graft doc (Tree.all_of_forall (fun l => ?_) doc)
  exact ⟨fun _ hs => (nomatch hs), fun _ he => (nomatch he)⟩

theorem holdsOnly_ofTexts (items : List String) : HoldsOnly registered (LiveObj.ofTexts items) := by
  refine ⟨fun _ he => (nomatch he), Forest.all_ofList ?_⟩
  intro e he
  obtain ⟨p, -, rfl⟩ := List.mem_map.1 he
  exact holdsOnly_text p.1

mutual

theorem HoldsOnly.postInit {listOfSet : List String → List String} (t : LiveObj) (h : HoldsOnly registered t) :
    HoldsOnly registered (postInit listOfSet t) := by
  cases t with
  | node l f =>
    have hparts : (Persistence.postInitParts listOfSet f).All (fun l => ∀ id, l = .object id → id ∈ registered) :=
      HoldsOnly.postInitParts f h.2
    refine ⟨h.1, ?_⟩
    split
    · unfold modelPostInit
      split
      · exact Forest.All.modify _ hparts (fun _ _ => holdsOnly_ofTexts _)
      · exact hparts
    · exact hparts

theorem HoldsOnly.postInitParts {listOfSet : List String → List String} (f : LiveParts)
    (h : f.All (fun l => ∀ id, l = .object id → id ∈ registered)) :
    (postInitParts listOfSet f).All (fun l => ∀ id, l = .object id → id ∈ registered) := by
  cases f with
  | nil => trivial
  | cons k t rest => exact ⟨HoldsOnly.postInit t h.1, HoldsOnly.postInitParts rest h.2⟩

end

theorem HoldsOnly.setId (t : LiveObj) (h : HoldsOnly registered t) (id : String) : HoldsOnly registered (setId t id) := by
  cases t with
  | node l f => exact ⟨h.1, Forest.All.modify f h.2 (fun _ _ => holdsOnly_text id)⟩

theorem holdsOnly_overrideVariableRef {s s' : LiveObj} {path : List PyStep} (hs : HoldsOnly registered s)
    (hrun : (overrideVariableRef registered path).run s = .ok u s') : HoldsOnly registered s' := by
  unfold overrideVariableRef at hrun
  by_cases hpath : path = []
  · rw [if_pos hpath] at hrun
    cases hrun
  · rw [if_neg hpath] at hrun
    obtain ⟨objDict, s₁, hget, hrun⟩ := bind_ok_inv hrun
    cases hget
    split at hrun
    · cases hrun
    · split at hrun
      · cases hrun
      · rename_i id _
        rw [run_ite] at hrun
        split at hrun
        · rename_i hmem
          cases hrun
          have hobject : HoldsOnly registered (LiveObj.object id) := by
            refine ⟨fun id' he => ?_, trivial⟩
            cases he
            exact hmem
          exact Tree.All.setAt hs hobject path
        · cases hrun

/-- The references of a document are resolved to registered objects only. -/
theorem holdsOnly_resolved {doc : PyObj} (h : resolved registered doc = .ok obj) : HoldsOnly registered obj := by
  have hloop : Meets (overrideVariablesInDictRef registered (LiveObj.ofDocument doc)) (LiveObj.ofDocument doc)
      (fun _ s => HoldsOnly registered s) (fun _ _ => True) := by
    refine Meets.forM _ (holdsOnly_ofDocument doc) ?_
    intro path _ s hs
    unfold Meets
    cases hrun : (overrideVariableRef registered path).run s with
    | error e s' => trivial
    | ok u s' => exact holdsOnly_overrideVariableRef hs hrun
  unfold resolved at h
  unfold Meets at hloop
  split at h
  · rename_i u objDict hrun
    rw [hrun] at hloop
    cases h
    exact hloop
  · cases h

end Holding

/-! ### What is loaded from any document -/

section Loaded

variable {py : Process} {registered registered' : Dict String RegisteredResource}

/-- A registered resource: it has the id it is registered under, a deployable is in an area with a VIM, and
what it holds is registered. -/
structure LoadedResource (py : Process) (registered : Dict String RegisteredResource) (id : String) (r : RegisteredResource) : Prop where
  id_text : r.value.attrText "id" = some id
  id_ne : id ≠ ""
  area : isDeployable r.value.label = true → hasVim py r.value = true
  holds : HoldsOnly registered.keys r.value

def LoadedRegistry (py : Process) (registered : Dict String RegisteredResource) : Prop :=
  ∀ id r, registered.get? id = some r → LoadedResource py registered id r

theorem LoadedRegistry.set {id : String} (h : LoadedRegistry py registered) (hr : LoadedResource py (registered.set id r) id r) :
    LoadedRegistry py (registered.set id r) := by
  have hsub : ∀ i ∈ registered.keys, i ∈ (registered.set id r).keys := fun i hi => Dict.mem_keys_set.2 (.inr hi)
  intro i r' hr'
  rw [Dict.get?_set] at hr'
  split at hr'
  · rename_i heq
    cases hr'
    rw [heq]
    exact hr
  · have hold := h i r' hr'
    exact ⟨hold.id_text, hold.id_ne, hold.area, hold.holds.mono hsub⟩

theorem attrText_setId {resource : LiveObj} {stored : LiveObj} (h : resource.attr? "id" = some stored) (id : String) :
    (setId resource id).attrText "id" = some id := by
  cases resource with
  | node l f =>
    have hget : f.get (.attr "id") = some stored := h
    rw [LiveObj.attrText, setId, LiveObj.attr?, Forest.get_modify, if_pos rfl, hget]
    rfl

/-- What is registered: the resource as it is under the id it has, or with a new id. -/
theorem registerResource_inv {type : String} {resource : LiveObj} (hrun : registerResource py registered type resource = .ok registered') :
    ∃ id value, registered' = registered.set id ⟨type, value⟩ ∧ value.attrText "id" = some id ∧ id ≠ "" ∧
      (value = resource ∨ value = setId resource id) ∧ (isDeployable value.label = true → hasVim py value = true) := by
  unfold registerResource at hrun
  split at hrun
  · cases hrun
  · rename_i stored hstored
    rw [ite_eq_iff] at hrun
    obtain ⟨-, hno⟩ | ⟨-, hrun⟩ := hrun
    · cases hno
    · by_cases hempty : stored.text?.getD "" = ""
      · simp only [hempty, if_true] at hrun
        rw [ite_eq_iff] at hrun
        obtain ⟨-, hno⟩ | ⟨hvim, hrun⟩ := hrun
        · cases hno
        · cases hrun
          refine ⟨_, _, rfl, attrText_setId hstored _, py.uuid4_ne _, .inr rfl, fun hd => ?_⟩
          by_contra hno
          exact hvim ⟨hd, hno⟩
      · simp only [hempty, if_false] at hrun
        rw [ite_eq_iff] at hrun
        obtain ⟨-, hno⟩ | ⟨hvim, hrun⟩ := hrun
        · cases hno
        · cases hrun
          refine ⟨_, _, rfl, ?_, hempty, .inl rfl, fun hd => ?_⟩
          · rw [LiveObj.attrText, hstored, Option.bind_some]
            cases htext : stored.text? with
            | none =>
              rw [htext] at hempty
              exact absurd rfl hempty
            | some text => rfl
          · by_contra hno
            exact hvim ⟨hd, hno⟩

theorem LoadedRegistry.registerResource {type : String} {resource : LiveObj} (h : LoadedRegistry py registered)
    (hholds : HoldsOnly registered.keys resource) (hrun : registerResource py registered type resource = .ok registered') :
    LoadedRegistry py registered' := by
  obtain ⟨id, value, rfl, htext, hne, hvalue, hvim⟩ := registerResource_inv hrun
  refine h.set ⟨htext, hne, hvim, ?_⟩
  have hsub : ∀ i ∈ registered.keys, i ∈ (registered.set id ⟨type, value⟩).keys := fun i hi => Dict.mem_keys_set.2 (.inr hi)
  obtain rfl | rfl := hvalue
  · exact hholds.mono hsub
  · exact (HoldsOnly.setId resource hholds id).mono hsub

theorem holdsOnly_modelValidate {cls : String} {ids : List String} {doc obj : LiveObj} (hdoc : HoldsOnly ids doc)
    (h : py.modelValidate cls doc = .ok obj) : HoldsOnly ids obj := by
  unfold Process.modelValidate at h
  split at h
  · rename_i o ho
    cases h
    exact HoldsOnly.postInit o (py.pydantic.object_build cls doc o (fun id => id ∈ ids) ho hdoc)
  · cases h

theorem LoadedRegistry.loadDeployable (h : LoadedRegistry py registered) (resource : String × TypedDump)
    (hrun : loadDeployable py registered resource = .ok registered') : LoadedRegistry py registered' := by
  unfold Persistence.loadDeployable at hrun
  obtain ⟨declared, -, hrun⟩ := except_bind_ok.1 hrun
  split at hrun
  · obtain ⟨value, hvalue, hrun⟩ := except_bind_ok.1 hrun
    exact h.registerResource (holdsOnly_modelValidate (holdsOnly_ofDocument _) hvalue) hrun
  · cases hrun
    exact h

theorem LoadedRegistry.loadConfiguration (h : LoadedRegistry py registered) (resource : String × TypedDump)
    (hrun : loadConfiguration py registered resource = .ok registered') : LoadedRegistry py registered' := by
  unfold Persistence.loadConfiguration at hrun
  obtain ⟨declared, -, hrun⟩ := except_bind_ok.1 hrun
  split at hrun
  · obtain ⟨doc, hdoc, hrun⟩ := except_bind_ok.1 hrun
    obtain ⟨value, hvalue, hrun⟩ := except_bind_ok.1 hrun
    exact h.registerResource (holdsOnly_modelValidate (holdsOnly_resolved hdoc) hvalue) hrun
  · cases hrun
    exact h

theorem loadedRegistry_loadResources {resources : Dict String TypedDump} (hrun : loadResources py resources = .ok registered) :
    LoadedRegistry py registered := by
  obtain ⟨deployables, hfirst, hsecond⟩ := except_bind_ok.1 hrun
  have hempty : LoadedRegistry py Dict.empty := fun id r hr => (nomatch hr)
  have hdeployables := Dict.foldlM_invariant (fun s s' x _ hs => LoadedRegistry.loadDeployable hs x) hempty hfirst
  exact Dict.foldlM_invariant (fun s s' x _ hs => LoadedRegistry.loadConfiguration hs x) hdeployables hsecond

/-- The state that is loaded holds registered objects only, also when it is the one the blueprint starts with. -/
theorem holdsOnly_loadState {cls : BlueprintClass} {doc : PyObj} (hrun : loadState py cls registered doc = .ok (state, valid)) :
    HoldsOnly registered.keys state := by
  obtain ⟨d, hd, hrun⟩ := except_bind_ok.1 hrun
  split at hrun
  · rename_i s hs
    cases hrun
    exact holdsOnly_modelValidate (holdsOnly_resolved hd) hs
  · cases hrun
    exact Tree.All.mono (fun _ hl id he => absurd he (hl id)) cls.initialState cls.initial_alone

/-- A blueprint without references to objects that are not registered. -/
structure LoadedBlueprint (py : Process) (b : BlueprintModel) : Prop where
  resources : LoadedRegistry py b.registeredResources
  state : HoldsOnly b.registeredResources.keys b.state

end Loaded

/-! ### A validation that knows its instances -/

section Instances

variable (instances : List (String × LiveObj))

def buildInstance (cls : String) (doc : LiveObj) : Option LiveObj :=
  (instances.find? (fun p => decide (p.1 = cls ∧ p.2.map LiveLabel.dumped = doc))).map Prod.snd

variable {instances}

theorem buildInstance_dump (h : buildInstance instances cls doc = some obj) : doc = obj.map LiveLabel.dumped := by
  obtain ⟨p, hp, rfl⟩ := Option.map_eq_some_iff.1 h
  have hfound := List.find?_some hp
  exact (of_decide_eq_true hfound).2.symm

theorem dumped_object (l : LiveLabel) (id : String) : l.dumped = .object id ↔ l = .object id := by
  cases l with
  | plain l => exact ⟨fun h => (nomatch h), fun h => (nomatch h)⟩
  | vmResource => exact ⟨fun h => (nomatch h), fun h => (nomatch h)⟩
  | object id' => exact Iff.rfl

theorem label_map (t : LiveObj) (relabel : LiveLabel → LiveLabel) : (t.map relabel).label = relabel t.label := by
  cases t with
  | node l f => rfl

theorem getAt_map (t : LiveObj) (relabel : LiveLabel → LiveLabel) (p : List PyStep) :
    (t.map relabel).getAt p = (t.getAt p).map (KeyedTrees.Tree.map relabel) := by
  induction p generalizing t with
  | nil => rfl
  | cons k p ih =>
    cases t with
    | node l f =>
      rw [KeyedTrees.Tree.map, Tree.getAt, Tree.getAt, Forest.get_map]
      cases f.get k with
      | none => rfl
      | some c => exact ih c

mutual

theorem holds_of_dumped {S : String → Prop} (t : LiveObj) (h : (t.map LiveLabel.dumped).All (fun l => ∀ id, l = .object id → S id)) :
    t.All (fun l => ∀ id, l = .object id → S id) := by
  cases t with
  | node l f => exact ⟨fun id he => h.1 id ((dumped_object l id).2 he), holds_of_dumpedParts f h.2⟩

theorem holds_of_dumpedParts {S : String → Prop} (f : LiveParts) (h : (f.map LiveLabel.dumped).All (fun l => ∀ id, l = .object id → S id)) :
    f.All (fun l => ∀ id, l = .object id → S id) := by
  cases f with
  | nil => trivial
  | cons k t rest => exact ⟨holds_of_dumped t h.1, holds_of_dumpedParts rest h.2⟩

end

theorem attrText_dumped (t : LiveObj) (name : String) : LiveObj.attrText (t.map LiveLabel.dumped) name = t.attrText name := by
  cases t with
  | node l f =>
    simp only [LiveObj.attrText, KeyedTrees.Tree.map, LiveObj.attr?, Forest.get_map]
    cases f.get (.attr name) with
    | none => rfl
    | some part =>
      cases part with
      | node l f =>
        cases l with
        | plain l => cases l <;> rfl
        | vmResource => rfl
        | object id => rfl

def ofInstances (instances : List (String × LiveObj)) : Pydantic where
  build := buildInstance instances
  IsInstance cls obj := buildInstance instances cls (obj.map LiveLabel.dumped) = some obj
  build_dump _ _ h := h
  build_object := by
    intro cls doc obj p id f h hdoc r hr
    rw [buildInstance_dump h, getAt_map, hr] at hdoc
    have hlabel := congrArg Tree.label (Option.some.inj hdoc)
    rw [label_map] at hlabel
    exact (dumped_object r.label id).1 hlabel
  object_build := by
    intro cls doc obj S h hdoc
    rw [buildInstance_dump h] at hdoc
    exact holds_of_dumped obj hdoc
  IsResource _ := True
  build_id := by
    intro cls doc obj id _ h hid
    rw [buildInstance_dump h, attrText_dumped] at hid
    exact hid

end Instances

def coreVm : LiveObj :=
  .node .vmResource (Forest.ofList
    [(.attr "id", LiveObj.text "5f0c"), (.attr "type", LiveObj.text "ResourceDeployable"), (.attr "name", LiveObj.text "core_vm"),
      (.attr "area", .node (.plain (.other "0")) .nil), (.attr "management_network", LiveObj.text "mgmt"),
      (.attr "additional_networks", LiveObj.ofTexts ["data"])])

def coreConfigurator : LiveObj :=
  .node (.plain (.resource .configuration)) (Forest.ofList
    [(.attr "id", LiveObj.text "7a21"), (.attr "type", LiveObj.text "ResourceConfiguration"), (.attr "vm_resource", LiveObj.object "5f0c")])

def coreState : LiveObj :=
  .node (.plain .model) (Forest.ofList [(.attr "vm", LiveObj.object "5f0c"), (.attr "vm_configurator", LiveObj.object "7a21")])

def emptyState : LiveObj :=
  .node (.plain .model) (Forest.ofList [(.attr "vm", .node (.plain .none) .nil), (.attr "vm_configurator", .node (.plain .none) .nil)])

def coreProcess : Process where
  pydantic := ofInstances [("VmResource", coreVm), ("CoreConfigurator", coreConfigurator), ("CoreState", coreState)]
  listOfSet items := items
  uuid4 _ := "c3d4"
  uuid4_ne _ := by decide
  vims := [{ name := "openstack", vimUrl := "http://10.0.0.1:5000", areas := [0] }]
  hasCluster _ := false

def coreClass : BlueprintClass where
  stateType := "CoreState"
  initialState := emptyState
  initial_alone := by simp [emptyState, Tree.All, Forest.All, Forest.ofList]

def coreModel : BlueprintModel where
  registeredResources := ⟨[("5f0c", ⟨"VmResource", coreVm⟩), ("7a21", ⟨"CoreConfigurator", coreConfigurator⟩)], by decide⟩
  state := coreState
  virtProviders := Dict.empty
  k8sProviders := Dict.empty
  pduProvider := none
  blueprintProvider := none
  corrupted := false

theorem proper_coreVm : Proper coreVm where
  distinct := by simp [coreVm, Forest.ofList, Tree.Distinct, Forest.Distinct, Forest.get, LiveObj.text, LiveObj.ofTexts, PyStep.attr]
  leafy := by simp [coreVm, Forest.ofList, Tree.Leafy, Forest.Leafy, LiveObj.text, LiveObj.ofTexts, LiveLabel.isLeaf]
  untupled := by simp [coreVm, Forest.ofList, Tree.All, Forest.All, LiveObj.text, LiveObj.ofTexts]

theorem proper_coreConfigurator : Proper coreConfigurator where
  distinct := by simp [coreConfigurator, Forest.ofList, Tree.Distinct, Forest.Distinct, Forest.get, LiveObj.text, LiveObj.object, PyStep.attr]
  leafy := by simp [coreConfigurator, Forest.ofList, Tree.Leafy, Forest.Leafy, LiveObj.text, LiveObj.object, LiveLabel.isLeaf]
  untupled := by simp [coreConfigurator, Forest.ofList, Tree.All, Forest.All, LiveObj.text, LiveObj.object]

theorem proper_coreState : Proper coreState where
  distinct := by simp [coreState, Forest.ofList, Tree.Distinct, Forest.Distinct, Forest.get, LiveObj.object, PyStep.attr]
  leafy := by simp [coreState, Forest.ofList, Tree.Leafy, Forest.Leafy, LiveObj.object, LiveLabel.isLeaf]
  untupled := by simp [coreState, Forest.ofList, Tree.All, Forest.All, LiveObj.object]

theorem sound_coreVm : SoundResource coreProcess coreModel.registeredResources "5f0c" ⟨"VmResource", coreVm⟩ where
  proper := proper_coreVm
  resource := rfl
  id_text := rfl
  id_ne := by decide
  id_uuid := by decide
  type_text := rfl
  alone := by simp [coreVm, parts, Forest.ofList, Forest.All, Tree.All, LiveObj.text, LiveObj.ofTexts, LiveLabel.isResource, PyLabel.isResource]
  deployable _ := ⟨by simp [coreVm, parts, Forest.ofList, Forest.All, Tree.All, LiveObj.text, LiveObj.ofTexts], by decide⟩
  holds := by simp [coreVm, parts, Forest.ofList, Forest.All, Tree.All, LiveObj.text, LiveObj.ofTexts]
  networks _ := ⟨"mgmt", ["data"], rfl, rfl⟩
  instance_of := by
    show buildInstance _ _ _ = _
    decide
  resource_class := trivial

theorem sound_coreConfigurator : SoundResource coreProcess coreModel.registeredResources "7a21" ⟨"CoreConfigurator", coreConfigurator⟩ where
  proper := proper_coreConfigurator
  resource := rfl
  id_text := rfl
  id_ne := by decide
  id_uuid := by decide
  type_text := rfl
  alone := by simp [coreConfigurator, parts, Forest.ofList, Forest.All, Tree.All, LiveObj.text, LiveObj.object, LiveLabel.isResource, PyLabel.isResource]
  deployable h := nomatch h
  holds := by
    simp only [coreConfigurator, parts, Forest.ofList, Forest.All, Tree.All, LiveObj.text, LiveObj.object, LiveLabel.object.injEq,
      forall_eq', reduceCtorEq, false_imp_iff, implies_true, and_true, true_and]
    exact ⟨⟨"VmResource", coreVm⟩, rfl, rfl⟩
  networks h := nomatch h
  instance_of := by
    show buildInstance _ _ _ = _
    decide
  resource_class := trivial

theorem readable_coreConfigurator : Readable coreConfigurator := by
  simp [coreConfigurator, Readable, Forest.ofList, Tree.All, Forest.All, LiveObj.text, LiveObj.object, LiveLabel.isRef, PyLabel.isRef]
  decide

theorem settled_coreVm : Settled coreProcess.listOfSet coreVm := by
  intro _ managementNetwork additionalNetworks h
  have hmanagement : LiveObj.text "mgmt" = LiveObj.text managementNetwork := Option.some.inj h.management
  have hadditional : LiveObj.ofTexts ["data"] = LiveObj.ofTexts additionalNetworks := Option.some.inj h.additional
  cases hmanagement
  rw [← ofTexts_injective hadditional]
  rfl

def coreBlueprint : Blueprint coreProcess coreClass where
  toBlueprintModel := coreModel
  state_proper := proper_coreState
  state_model := rfl
  state_registered := by
    simp [coreModel, coreState, Forest.ofList, Tree.All, Forest.All, LiveObj.object, LiveLabel.isResource, PyLabel.isResource, Dict.keys]
  state_instance := by
    show buildInstance _ _ _ = _
    decide
  resources_sound := by
    intro p hp
    simp only [coreModel, List.mem_cons, List.not_mem_nil, or_false] at hp
    obtain rfl | rfl := hp
    · exact sound_coreVm
    · exact sound_coreConfigurator
  virt_sound := fun p hp => nomatch hp
  k8s_sound := fun p hp => nomatch hp
  pdu_sound := fun p hp => nomatch hp
  blueprint_sound := fun p hp => nomatch hp
  uncorrupted := rfl

theorem coreBlueprint_registered {id : String} {r : RegisteredResource} (h : coreBlueprint.registeredResources.get? id = some r) :
    r = ⟨"VmResource", coreVm⟩ ∨ r = ⟨"CoreConfigurator", coreConfigurator⟩ := by
  have hitem := Dict.mem_items h
  simp only [coreBlueprint, coreModel, List.mem_cons, List.not_mem_nil, or_false, Prod.mk.injEq] at hitem
  obtain ⟨-, hr⟩ | ⟨-, hr⟩ := hitem
  · exact .inl hr
  · exact .inr hr

/-- A virtual machine, its configurator and a state that holds both. -/
theorem coreBlueprint_reloadable : coreBlueprint.Reloadable where
  state := by simp [coreBlueprint, coreModel, coreState, Readable, Forest.ofList, Tree.All, Forest.All, LiveObj.object, LiveLabel.isRef, PyLabel.isRef]
  configurations := by
    intro id r h hc
    obtain rfl | rfl := coreBlueprint_registered h
    · cases hc
    · exact readable_coreConfigurator
  kinds := by
    intro id r h
    obtain rfl | rfl := coreBlueprint_registered h
    · decide
    · decide
  networks := by
    intro id r h
    obtain rfl | rfl := coreBlueprint_registered h
    · exact settled_coreVm
    · intro hvm
      cases hvm
  virtProviders := by
    intro area p h
    cases h
  k8sProviders := by
    intro area p h
    cases h
  pduProvider := by
    intro p h
    cases h
  blueprintProvider := by
    intro p h
    cases h

end Nfvcl.Persistence
