import Nfvcl.BlueprintReading
import Nfvcl.DictLoops

namespace Nfvcl.Persistence
set_option autoImplicit true
open Effects KeyedTrees

/-! ### Attributes of saved objects -/

theorem attr?_graft {sub : LiveLabel → Option LiveObj} {relabel : LiveLabel → LiveLabel} {v : LiveObj} (h : sub v.label = none) (name : String) :
    LiveObj.attr? (v.graft sub relabel) name = (v.attr? name).map (Tree.graft sub relabel) := by
  cases v with
  | node l f =>
    have hl : sub l = none := h
    rw [Tree.graft_none hl]
    exact Forest.get_graft f _

theorem readRef_of_not_leaf {l : LiveLabel} (h : l.isLeaf = false) : readRef l = none := by
  cases l with
  | object id => cases h
  | vmResource => rfl
  | plain l =>
    cases l with
    | str text => cases h
    | _ => rfl

theorem readRef_text {s : String} (h : PyLabel.isRef (.str s) = false) : readRef (.plain (.str s)) = none := by
  rw [readRef, if_neg (by rw [h]; exact Bool.false_ne_true)]

theorem typeText_cases (l : LiveLabel) :
    l.typeText = "Resource" ∨ l.typeText = "ResourceConfiguration" ∨ l.typeText = "ResourceDeployable" := by
  cases l with
  | plain l =>
    cases l with
    | resource cls =>
      cases cls with
      | resource => exact .inl rfl
      | deployable => exact .inr (.inr rfl)
      | configuration => exact .inr (.inl rfl)
    | _ => exact .inr (.inr rfl)
  | vmResource => exact .inr (.inr rfl)
  | object id => exact .inr (.inr rfl)

theorem isRef_typeText (l : LiveLabel) : PyLabel.isRef (.str l.typeText) = false := by
  rcases typeText_cases l with h | h | h
  · rw [h]
    rfl
  · rw [h]
    rfl
  · rw [h]
    rfl

theorem isRef_uuid {id : String} (h : ¬ refPrefix <:+: id.toList) : PyLabel.isRef (.str id) = false := by
  rw [Bool.eq_false_iff]
  intro href
  exact h (List.isPrefixOf_iff_prefix.1 href).isInfix

section Registering

variable {py : Process} {registered : Dict String RegisteredResource} {resource : LiveObj} {type id : String}

theorem registerResource_eq (hid : resource.attrText "id" = some id) (hne : id ≠ "") :
    registerResource py registered type resource =
      if id ∈ registered.keys then .error (.blueprintNG "Already registered")
      else if isDeployable resource.label ∧ ¬ hasVim py resource then
        .error (.blueprintNG "Unable to register resource, the area has no associated VIM")
      else .ok (registered.set id ⟨type, resource⟩) := by
  obtain ⟨stored, hstored, htext⟩ := Option.bind_eq_some_iff.1 hid
  unfold registerResource
  simp only [hstored, htext, Option.getD_some, hne, ne_eq, not_false_eq_true, true_and, if_false]

theorem registerResource_set (hid : resource.attrText "id" = some id) (hne : id ≠ "") {registered' : Dict String RegisteredResource}
    (hrun : registerResource py registered type resource = .ok registered') : registered' = registered.set id ⟨type, resource⟩ := by
  rw [registerResource_eq hid hne] at hrun
  split at hrun
  · cases hrun
  · split at hrun
    · cases hrun
    · cases hrun
      rfl

theorem hasVim_postInit (v : LiveObj) : hasVim py (postInit py.listOfSet v) = hasVim py v := by
  have hname : "area" ≠ "additional_networks" := by decide
  unfold hasVim
  rw [attr?_postInit v hname]
  cases v.attr? "area" with
  | none => rfl
  | some t =>
    cases t with
    | node l f =>
      cases l with
      | plain l => cases l <;> rfl
      | vmResource => rfl
      | object i => rfl

theorem modelValidate_ok {obj : LiveObj} (h : py.modelValidate type resource = .ok obj) :
    ∃ o, py.pydantic.build type resource = some o ∧ obj = postInit py.listOfSet o := by
  unfold Process.modelValidate at h
  split at h
  · rename_i o ho
    cases h
    exact ⟨o, ho, rfl⟩
  · cases h

theorem modelValidate_dumped {obj : LiveObj} (h : py.pydantic.IsInstance type obj) :
    py.modelValidate type (obj.map LiveLabel.dumped) = .ok (postInit py.listOfSet obj) := by
  unfold Process.modelValidate
  rw [py.pydantic.build_dump type obj h]

end Registering

section Sound

variable {py : Process} {registered : Dict String RegisteredResource} {id : String} {r : RegisteredResource}

theorem SoundResource.root (h : SoundResource py registered id r) : r.value.label.isLeaf = false := isLeaf_of_isResource h.resource

theorem SoundResource.attrText_id (h : SoundResource py registered id r) : r.value.attrText "id" = some id := by
  rw [LiveObj.attrText, h.id_text]
  rfl

theorem SoundResource.declaredType_saved (h : SoundResource py registered id r) :
    declaredType (saved r.value) = .ok (some r.value.label.typeText) := by
  rw [declaredType, ofDocument_saved h.proper, attr?_graft (readRef_of_not_leaf h.root), h.type_text, Option.map_some,
    LiveObj.text, Tree.graft_none (readRef_text (isRef_typeText _))]
  rfl

theorem SoundResource.declaredType_valueOf (h : SoundResource py registered id r) (held : String → Option PyObj) :
    declaredType (valueOf held r.value).modelDump = .ok (some r.value.label.typeText) := by
  have hres := h.resource
  have htype := h.type_text
  cases hv : r.value with
  | node l f =>
    rw [hv] at hres htype
    obtain ⟨f', hval, hget⟩ := valueOf_node (l := l) (not_object_of_isResource hres) f
    have hattr : LiveObj.attr? (LiveObj.ofDocument (valueOf held (.node l f)).modelDump) "type" =
        some (LiveObj.text (LiveLabel.typeText l)) := by
      rw [hval, PyObj.modelDump, KeyedTrees.Tree.map, LiveObj.ofDocument, Tree.graft_none rfl, LiveObj.attr?]
      rw [Forest.get_graft, Forest.get_map, hget, show f.get (.attr "type") = _ from htype]
      rfl
    rw [declaredType, hattr]
    rfl

theorem typeText_deployable {l : LiveLabel} (h : l.isResource = true) : l.typeText = "ResourceDeployable" ↔ isDeployable l = true := by
  cases l with
  | plain l =>
    cases l with
    | resource cls => cases cls <;> decide
    | _ => cases h
  | vmResource => decide
  | object id => cases h

theorem typeText_configuration {l : LiveLabel} (h : l.isResource = true) : l.typeText = "ResourceConfiguration" ↔ l.isConfiguration = true := by
  cases l with
  | plain l =>
    cases l with
    | resource cls => cases cls <;> decide
    | _ => cases h
  | vmResource => decide
  | object id => cases h

/-- The document of a configuration keeps the id. -/
theorem SoundResource.attrText_dereference (h : SoundResource py registered id r) : (dereference r.value).attrText "id" = some id := by
  have hroot : readObject r.value.label = none := by rw [readObject, readRef_of_not_leaf h.root]; rfl
  have hid : readObject (.plain (.str id)) = none := by rw [readObject, readRef_text (isRef_uuid h.id_uuid)]; rfl
  rw [LiveObj.attrText, dereference, attr?_graft hroot, h.id_text, Option.map_some, LiveObj.text, Tree.graft_none hid]
  rfl

end Sound

/-! ### Loading the resources of a saved blueprint -/

section Resources

variable {py : Process} {cls : BlueprintClass} (b : Blueprint py cls)

namespace Blueprint

theorem declaredType_savedResource {id : String} (h : b.registeredResources.get? id = some r) :
    declaredType (b.savedResource r) = .ok (some r.value.label.typeText) := by
  rw [savedResource]
  split
  · exact (b.sound h).declaredType_saved
  · exact (b.sound h).declaredType_valueOf _

theorem savedResource_deployable (hd : isDeployable r.value.label = true) : b.savedResource r = saved r.value := if_pos (.inr hd)

theorem savedResource_configuration (hc : r.value.label.isConfiguration = true) : b.savedResource r = saved r.value := if_pos (.inl hc)

theorem alone_of_deployable {id : String} (h : b.registeredResources.get? id = some r) (hd : isDeployable r.value.label = true) :
    r.value.All (fun l => ∀ held, l ≠ .object held) := by
  have hparts := ((b.sound h).deployable hd).1
  have hroot := not_object_of_isResource (b.sound h).resource
  cases hv : r.value with
  | node l f =>
    rw [hv] at hparts hroot
    exact ⟨hroot, hparts⟩

theorem mem_document {q : String × TypedDump} (hq : q ∈ b.document.registeredResources.items) :
    ∃ r, b.registeredResources.get? q.1 = some r ∧ q = (q.1, ⟨r.type, b.savedResource r⟩) := by
  obtain ⟨p, hp, rfl⟩ := List.mem_map.1 hq
  exact ⟨p.2, Dict.get?_of_mem hp, rfl⟩

theorem mem_document_of_get? {id : String} (h : b.registeredResources.get? id = some r) :
    (id, ⟨r.type, b.savedResource r⟩) ∈ b.document.registeredResources.items :=
  List.mem_map.2 ⟨(id, r), Dict.mem_items h, rfl⟩

variable {registered : Dict String RegisteredResource}

theorem loadDeployable_skip {id : String} (h : b.registeredResources.get? id = some r) (hd : isDeployable r.value.label = false) :
    loadDeployable py registered (id, ⟨r.type, b.savedResource r⟩) = .ok registered := by
  have hne : ¬ some r.value.label.typeText = some "ResourceDeployable" := by
    intro he
    rw [(typeText_deployable (b.sound h).resource).1 (Option.some.inj he)] at hd
    cases hd
  rw [loadDeployable, b.declaredType_savedResource h, except_ok_bind, if_neg hne]
  rfl

theorem loadDeployable_eq {id : String} (h : b.registeredResources.get? id = some r) (hd : isDeployable r.value.label = true) :
    loadDeployable py registered (id, ⟨r.type, b.savedResource r⟩) =
      registerResource py registered r.type (postInit py.listOfSet r.value) := by
  rw [loadDeployable, b.declaredType_savedResource h, except_ok_bind,
    if_pos (congrArg some ((typeText_deployable (b.sound h).resource).2 hd)), b.savedResource_deployable hd,
    ofDocument_alone (b.sound h).proper (b.alone_of_deployable h hd), modelValidate_dumped (b.sound h).instance_of, except_ok_bind]

theorem attrText_loaded {id : String} (h : b.registeredResources.get? id = some r) :
    (postInit py.listOfSet r.value).attrText "id" = some id := by
  rw [attrText_postInit _ (by decide), (b.sound h).attrText_id]

theorem loadDeployables_spec (hrun : b.document.registeredResources.items.foldlM (loadDeployable py) Dict.empty = .ok registered) :
    (∀ id r, b.registeredResources.get? id = some r → isDeployable r.value.label = true →
      registered.get? id = some ⟨r.type, postInit py.listOfSet r.value⟩) ∧
    ∀ id, (∀ r, b.registeredResources.get? id = some r → isDeployable r.value.label = false) → registered.get? id = none := by
  have hspec := Dict.foldlM_set
    (P := fun q : String × TypedDump => ∃ r, b.registeredResources.get? q.1 = some r ∧ isDeployable r.value.label = true)
    (Q := fun q v => ∀ r, b.registeredResources.get? q.1 = some r → v = ⟨r.type, postInit py.listOfSet r.value⟩)
    ?_ ?_ b.document.registeredResources.unique hrun
  · constructor
    · intro id r hr hd
      obtain ⟨v, hv, hget⟩ := hspec.1 _ (b.mem_document_of_get? hr) ⟨r, hr, hd⟩
      rw [hv r hr] at hget
      exact hget
    · intro id hid
      rw [hspec.2 id]
      · exact Dict.get?_empty id
      · rintro q - ⟨r, hr, hd⟩ rfl
        rw [hid r hr] at hd
        cases hd
  · intro d q hq hw
    obtain ⟨r, hr, heq⟩ := b.mem_document hq
    rw [heq]
    refine b.loadDeployable_skip hr ?_
    rw [Bool.eq_false_iff]
    exact fun hd => hw ⟨r, hr, hd⟩
  · rintro d d' q hq ⟨r, hr, hd⟩ hstep
    obtain ⟨r', hr', heq⟩ := b.mem_document hq
    cases hr.symm.trans hr'
    rw [heq, b.loadDeployable_eq hr hd] at hstep
    refine ⟨⟨r.type, postInit py.listOfSet r.value⟩, ?_, registerResource_set (b.attrText_loaded hr) (b.sound hr).id_ne hstep⟩
    intro r'' hr''
    cases hr.symm.trans hr''
    rfl

theorem exists_loadDeployables : ∃ registered, b.document.registeredResources.items.foldlM (loadDeployable py) Dict.empty = .ok registered := by
  have hstep : ∀ d : Dict String RegisteredResource, ∀ q ∈ b.document.registeredResources.items, True → q.1 ∉ d.keys →
      ∃ d', loadDeployable py d q = .ok d' ∧ True ∧ ∀ k ∈ d'.keys, k = q.1 ∨ k ∈ d.keys := by
    intro d q hq _ hnew
    obtain ⟨r, hr, heq⟩ := b.mem_document hq
    by_cases hd : isDeployable r.value.label = true
    · refine ⟨d.set q.1 ⟨r.type, postInit py.listOfSet r.value⟩, ?_, trivial, fun k hk => Dict.mem_keys_set.1 hk⟩
      have hvim : ¬ (isDeployable (postInit py.listOfSet r.value).label = true ∧ ¬ hasVim py (postInit py.listOfSet r.value) = true) := by
        rintro ⟨-, hno⟩
        rw [hasVim_postInit] at hno
        exact hno ((b.sound hr).deployable hd).2
      rw [heq, b.loadDeployable_eq hr hd, registerResource_eq (b.attrText_loaded hr) (b.sound hr).id_ne, if_neg hnew, if_neg hvim]
    · refine ⟨d, ?_, trivial, fun k hk => .inr hk⟩
      rw [heq]
      exact b.loadDeployable_skip hr (Bool.eq_false_iff.2 hd)
  obtain ⟨registered, hrun, -⟩ := Dict.exists_foldlM b.document.registeredResources.unique hstep (d := Dict.empty) trivial
    (fun _ _ hmem => absurd hmem List.not_mem_nil)
  exact ⟨registered, hrun⟩

theorem loadConfiguration_skip {id : String} (h : b.registeredResources.get? id = some r) (hc : r.value.label.isConfiguration = false) :
    loadConfiguration py registered (id, ⟨r.type, b.savedResource r⟩) = .ok registered := by
  have hne : ¬ some r.value.label.typeText = some "ResourceConfiguration" := by
    intro he
    rw [(typeText_configuration (b.sound h).resource).1 (Option.some.inj he)] at hc
    cases hc
  rw [loadConfiguration, b.declaredType_savedResource h, except_ok_bind, if_neg hne]
  rfl

theorem loadConfiguration_eq {id : String} (h : b.registeredResources.get? id = some r) (hc : r.value.label.isConfiguration = true) :
    loadConfiguration py registered (id, ⟨r.type, b.savedResource r⟩) = (do
      let doc ← resolved registered.keys (saved r.value)
      let value ← py.modelValidate r.type doc
      registerResource py registered r.type value) := by
  rw [loadConfiguration, b.declaredType_savedResource h, except_ok_bind,
    if_pos (congrArg some ((typeText_configuration (b.sound h).resource).2 hc)), b.savedResource_configuration hc]

/-- A configuration that is loaded is built from its document, and registered under its id. -/
theorem loadConfiguration_set {id : String} (h : b.registeredResources.get? id = some r) (hc : r.value.label.isConfiguration = true)
    {registered' : Dict String RegisteredResource} (hrun : loadConfiguration py registered (id, ⟨r.type, b.savedResource r⟩) = .ok registered') :
    ∃ o, py.pydantic.build r.type (dereference r.value) = some o ∧ registered' = registered.set id ⟨r.type, postInit py.listOfSet o⟩ := by
  rw [b.loadConfiguration_eq h hc] at hrun
  obtain ⟨doc, hdoc, hrun⟩ := except_bind_ok.1 hrun
  obtain ⟨value, hvalue, hrun⟩ := except_bind_ok.1 hrun
  obtain ⟨o, hbuild, rfl⟩ := modelValidate_ok hvalue
  have hsound := b.sound h
  rw [resolved_saved hsound.proper hsound.root hdoc] at hbuild
  have hid := py.pydantic.build_id r.type _ o id hsound.resource_class hbuild hsound.attrText_dereference
  refine ⟨o, hbuild, registerResource_set ?_ hsound.id_ne hrun⟩
  rw [attrText_postInit _ (by decide), hid]

theorem loadConfigurations_spec {deployables : Dict String RegisteredResource}
    (hrun : b.document.registeredResources.items.foldlM (loadConfiguration py) deployables = .ok registered) :
    (∀ id r, b.registeredResources.get? id = some r → r.value.label.isConfiguration = true →
      ∃ o, py.pydantic.build r.type (dereference r.value) = some o ∧ registered.get? id = some ⟨r.type, postInit py.listOfSet o⟩) ∧
    ∀ id, (∀ r, b.registeredResources.get? id = some r → r.value.label.isConfiguration = false) → registered.get? id = deployables.get? id := by
  have hspec := Dict.foldlM_set
    (P := fun q : String × TypedDump => ∃ r, b.registeredResources.get? q.1 = some r ∧ r.value.label.isConfiguration = true)
    (Q := fun q v => ∀ r, b.registeredResources.get? q.1 = some r →
      ∃ o, py.pydantic.build r.type (dereference r.value) = some o ∧ v = ⟨r.type, postInit py.listOfSet o⟩)
    ?_ ?_ b.document.registeredResources.unique hrun
  · constructor
    · intro id r hr hc
      obtain ⟨v, hv, hget⟩ := hspec.1 _ (b.mem_document_of_get? hr) ⟨r, hr, hc⟩
      obtain ⟨o, hbuild, rfl⟩ := hv r hr
      exact ⟨o, hbuild, hget⟩
    · intro id hid
      refine hspec.2 id ?_
      rintro q - ⟨r, hr, hc⟩ rfl
      rw [hid r hr] at hc
      cases hc
  · intro d q hq hw
    obtain ⟨r, hr, heq⟩ := b.mem_document hq
    rw [heq]
    refine b.loadConfiguration_skip hr ?_
    rw [Bool.eq_false_iff]
    exact fun hc => hw ⟨r, hr, hc⟩
  · rintro d d' q hq ⟨r, hr, hc⟩ hstep
    obtain ⟨r', hr', heq⟩ := b.mem_document hq
    cases hr.symm.trans hr'
    rw [heq] at hstep
    obtain ⟨o, hbuild, rfl⟩ := b.loadConfiguration_set hr hc hstep
    refine ⟨_, ?_, rfl⟩
    intro r'' hr''
    cases hr.symm.trans hr''
    exact ⟨o, hbuild, rfl⟩

theorem heldIds_resource {id : String} (h : b.registeredResources.get? id = some r)
    (hdeployables : ∀ id r, b.registeredResources.get? id = some r → isDeployable r.value.label = true → id ∈ registered.keys) :
    HeldIds registered.keys r.value := by
  have hroot := not_object_of_isResource (b.sound h).resource
  have hholds := (b.sound h).holds
  cases hv : r.value with
  | node l f =>
    rw [hv] at hroot hholds
    refine ⟨fun held he => absurd he (hroot held), Forest.All.mono ?_ f hholds⟩
    intro l hl held he
    obtain ⟨r', hr', hd⟩ := hl held he
    exact ⟨hdeployables held r' hr' hd, (b.sound hr').id_uuid⟩

theorem loadConfiguration_readable {id : String} (h : b.registeredResources.get? id = some r) (hc : r.value.label.isConfiguration = true)
    (hread : Readable r.value)
    (hdeployables : ∀ id r, b.registeredResources.get? id = some r → isDeployable r.value.label = true → id ∈ registered.keys)
    (hnew : id ∉ registered.keys) :
    loadConfiguration py registered (id, ⟨r.type, b.savedResource r⟩) = .ok (registered.set id ⟨r.type, r.value⟩) := by
  have hsound := b.sound h
  have hlabel : r.value.label ≠ .vmResource := by
    intro he
    rw [he] at hc
    cases hc
  have hnot : ¬ (isDeployable r.value.label = true ∧ ¬ hasVim py r.value = true) := by
    rintro ⟨hd, -⟩
    have ht := (typeText_deployable hsound.resource).2 hd
    rw [(typeText_configuration hsound.resource).2 hc] at ht
    exact absurd ht (by decide)
  rw [b.loadConfiguration_eq h hc, resolved_readable hsound.proper hsound.root hread (b.heldIds_resource h hdeployables), except_ok_bind,
    modelValidate_dumped hsound.instance_of, except_ok_bind, hsound.postInit_of_not_vm hlabel,
    registerResource_eq hsound.attrText_id hsound.id_ne, if_neg hnew, if_neg hnot]

theorem exists_loadConfigurations {deployables : Dict String RegisteredResource}
    (hread : ∀ id r, b.registeredResources.get? id = some r → r.value.label.isConfiguration = true → Readable r.value)
    (hdeployables : ∀ id r, b.registeredResources.get? id = some r → isDeployable r.value.label = true → id ∈ deployables.keys)
    (hothers : ∀ id r, b.registeredResources.get? id = some r → r.value.label.isConfiguration = true → id ∉ deployables.keys) :
    ∃ registered, b.document.registeredResources.items.foldlM (loadConfiguration py) deployables = .ok registered := by
  have hstep : ∀ d : Dict String RegisteredResource, ∀ q ∈ b.document.registeredResources.items.filter
      (fun q => (b.registeredResources.get? q.1).any (fun r => r.value.label.isConfiguration)),
      (∀ id r, b.registeredResources.get? id = some r → isDeployable r.value.label = true → id ∈ d.keys) → q.1 ∉ d.keys →
      ∃ d', loadConfiguration py d q = .ok d' ∧
        (∀ id r, b.registeredResources.get? id = some r → isDeployable r.value.label = true → id ∈ d'.keys) ∧
        ∀ k ∈ d'.keys, k = q.1 ∨ k ∈ d.keys := by
    intro d q hq hI hnew
    obtain ⟨hq, hany⟩ := List.mem_filter.1 hq
    obtain ⟨r, hr, heq⟩ := b.mem_document hq
    rw [hr, Option.any_some] at hany
    refine ⟨d.set q.1 ⟨r.type, r.value⟩, ?_, ?_, fun k hk => Dict.mem_keys_set.1 hk⟩
    · rw [heq]
      exact b.loadConfiguration_readable hr hany (hread q.1 r hr hany) hI hnew
    · intro id r' hr' hd
      exact Dict.mem_keys_set.2 (.inr (hI id r' hr' hd))
  have hskip : ∀ d : Dict String RegisteredResource, ∀ q ∈ b.document.registeredResources.items,
      ¬ (b.registeredResources.get? q.1).any (fun r => r.value.label.isConfiguration) = true → loadConfiguration py d q = .ok d := by
    intro d q hq hany
    obtain ⟨r, hr, heq⟩ := b.mem_document hq
    rw [hr, Option.any_some] at hany
    rw [heq]
    exact b.loadConfiguration_skip hr (Bool.eq_false_iff.2 hany)
  rw [Dict.foldlM_filter hskip]
  have hkeys : (b.document.registeredResources.items.map Prod.fst).Nodup := b.document.registeredResources.unique
  obtain ⟨registered, hrun, -⟩ := Dict.exists_foldlM (hkeys.sublist ((List.filter_sublist).map Prod.fst)) hstep hdeployables (by
    intro q hq
    obtain ⟨hq, hany⟩ := List.mem_filter.1 hq
    obtain ⟨r, hr, -⟩ := b.mem_document hq
    rw [hr, Option.any_some] at hany
    exact hothers q.1 r hr hany)
  exact ⟨registered, hrun⟩

end Blueprint

end Resources

/-! ### The whole blueprint -/

section RoundTrip

variable {py : Process} {cls : BlueprintClass} (b : Blueprint py cls)

/-- The blueprint that was saved: the same values under the same ids, the same state, in which each resource is
the registered object, and the same data of the providers. -/
structure Restored (saved loaded : BlueprintModel) : Prop where
  resources : ∀ id, loaded.registeredResources.get? id = saved.registeredResources.get? id
  state : loaded.state = saved.state
  virtProviders : ∀ area, loaded.virtProviders.get? area = saved.virtProviders.get? area
  k8sProviders : ∀ area, loaded.k8sProviders.get? area = saved.k8sProviders.get? area
  pduProvider : loaded.pduProvider = saved.pduProvider
  blueprintProvider : loaded.blueprintProvider = saved.blueprintProvider
  uncorrupted : loaded.corrupted = false

namespace Blueprint

def RoundTrips : Prop := ∃ loaded, (do fromDb py cls (← b.toDb)) = .ok loaded ∧ Restored b.toBlueprintModel loaded

/-- No text of the state or of a configuration starts with `REF=`, the resources are deployables and
configurations, their networks are as the hook of `VmResource` leaves them, and every provider reads its own
data back. -/
structure Reloadable : Prop where
  state : Readable b.state
  configurations : ∀ id r, b.registeredResources.get? id = some r → r.value.label.isConfiguration = true → Readable r.value
  kinds : ∀ id r, b.registeredResources.get? id = some r → r.value.label ≠ .plain (.resource .resource)
  networks : ∀ id r, b.registeredResources.get? id = some r → Settled py.listOfSet r.value
  virtProviders : ∀ area p, b.virtProviders.get? area = some p → loadProvider py (virtDataClass py area) p.dump = .ok p
  k8sProviders : ∀ area p, b.k8sProviders.get? area = some p → loadProvider py (k8sDataClass py area) p.dump = .ok p
  pduProvider : ∀ p, b.pduProvider = some p → loadProvider py (.ok pduProviderDataType) p.dump = .ok p
  blueprintProvider : ∀ p, b.blueprintProvider = some p → loadProvider py (.ok blueprintProviderDataType) p.dump = .ok p

end Blueprint

theorem loadProviders_iff (dataClass : Int → Except PyError String) (providers : Dict Int ProviderModel) :
    (∃ loaded, loadProviders py dataClass (providers.mapValues (fun _ p => p.dump)) = .ok loaded ∧
      ∀ area, loaded.get? area = providers.get? area) ↔
    ∀ area p, providers.get? area = some p → loadProvider py (dataClass area) p.dump = .ok p := by
  have hkeys : ((providers.mapValues (fun _ p => p.dump)).items.map Prod.fst).Nodup := (providers.mapValues (fun _ p => p.dump)).unique
  have hmem : ∀ area p, providers.get? area = some p → (area, p.dump) ∈ (providers.mapValues (fun _ p => p.dump)).items :=
    fun area p hp => List.mem_map.2 ⟨(area, p), Dict.mem_items hp, rfl⟩
  have hof : ∀ q ∈ (providers.mapValues (fun _ p => p.dump)).items, ∃ p, providers.get? q.1 = some p ∧ q = (q.1, p.dump) := by
    intro q hq
    obtain ⟨p, hp, rfl⟩ := List.mem_map.1 hq
    exact ⟨p.2, Dict.get?_of_mem hp, rfl⟩
  constructor
  · rintro ⟨loaded, hrun, heq⟩ area p hp
    obtain ⟨v, hv, hget⟩ := (Dict.foldlM_setAll (f := fun q => loadProvider py (dataClass q.1) q.2) hkeys hrun).1 _ (hmem area p hp)
    rw [heq, hp] at hget
    cases hget
    exact hv
  · intro h
    obtain ⟨loaded, hrun⟩ := Dict.exists_foldlM_setAll (f := fun q => loadProvider py (dataClass q.1) q.2) hkeys (by
      intro q hq
      obtain ⟨p, hp, heq⟩ := hof q hq
      rw [heq]
      exact ⟨p, h q.1 p hp⟩)
    refine ⟨loaded, hrun, ?_⟩
    obtain ⟨hset, hnone⟩ := Dict.foldlM_setAll (f := fun q => loadProvider py (dataClass q.1) q.2) hkeys hrun
    intro area
    cases hp : providers.get? area with
    | some p =>
      obtain ⟨v, hv, hget⟩ := hset _ (hmem area p hp)
      rw [hget]
      exact congrArg some (Except.ok.inj (hv.symm.trans (h area p hp)))
    | none =>
      refine hnone area ?_
      rintro q hq rfl
      obtain ⟨p, hp', -⟩ := hof q hq
      rw [hp] at hp'
      cases hp'

theorem loadOptional_iff (dataClass : String) (provider : Option ProviderModel) :
    loadOptional py dataClass (provider.map ProviderModel.dump) = .ok provider ↔
      ∀ p, provider = some p → loadProvider py (.ok dataClass) p.dump = .ok p := by
  cases provider with
  | none => exact ⟨fun _ p hp => (nomatch hp), fun _ => rfl⟩
  | some p =>
    rw [Option.map_some, loadOptional]
    constructor
    · intro h p' hp'
      cases hp'
      obtain ⟨v, hv, heq⟩ := except_bind_ok.1 h
      cases heq
      exact hv
    · intro h
      rw [h p rfl, except_ok_bind]
      rfl

namespace Blueprint

theorem loadResources_iff :
    (∃ loaded, loadResources py b.document.registeredResources = .ok loaded ∧ ∀ id, loaded.get? id = b.registeredResources.get? id) ↔
    (∀ id r, b.registeredResources.get? id = some r → r.value.label.isConfiguration = true → Readable r.value) ∧
      (∀ id r, b.registeredResources.get? id = some r → r.value.label ≠ .plain (.resource .resource)) ∧
      ∀ id r, b.registeredResources.get? id = some r → Settled py.listOfSet r.value := by
  have hexclusive : ∀ l : LiveLabel, l.isConfiguration = true → isDeployable l = false := by
    intro l hc
    cases l with
    | plain l =>
      cases l with
      | resource cls =>
        cases cls with
        | configuration => rfl
        | _ => cases hc
      | _ => cases hc
    | _ => cases hc
  have hkinds : ∀ l : LiveLabel, l.isResource = true → isDeployable l = true ∨ l.isConfiguration = true ∨ l = .plain (.resource .resource) := by
    intro l hl
    cases l with
    | plain l =>
      cases l with
      | resource cls =>
        cases cls with
        | resource => exact .inr (.inr rfl)
        | deployable => exact .inl rfl
        | configuration => exact .inr (.inl rfl)
      | _ => cases hl
    | vmResource => exact .inl rfl
    | object id => cases hl
  constructor
  · rintro ⟨loaded, hrun, heq⟩
    obtain ⟨deployables, hfirst, hsecond⟩ := except_bind_ok.1 hrun
    obtain ⟨hdep, hnone⟩ := b.loadDeployables_spec hfirst
    obtain ⟨hconf, hother⟩ := b.loadConfigurations_spec hsecond
    refine ⟨?_, ?_, ?_⟩
    · intro id r hr hc
      obtain ⟨o, hbuild, hget⟩ := hconf id r hr hc
      rw [heq, hr] at hget
      have hvalue : r.value = postInit py.listOfSet o := congrArg RegisteredResource.value (Option.some.inj hget)
      have hlabels : r.value.All (fun l => l ≠ .vmResource) := by
        have halone := (b.sound hr).alone
        cases hv : r.value with
        | node l f =>
          rw [hv] at hc halone
          refine ⟨?_, Forest.All.mono ?_ f halone⟩
          · rintro rfl
            cases hc
          · rintro l hl rfl
            cases hl
      have hsame : postInit py.listOfSet o = o := eq_of_postInit o (hvalue ▸ hlabels)
      rw [← hsame, ← hvalue] at hbuild
      exact readable_of_build py.pydantic (b.sound hr).proper hbuild
    · intro id r hr hl
      have hloaded : loaded.get? id = none := by
        rw [hother id, hnone id]
        · intro r' hr'
          cases hr.symm.trans hr'
          rw [hl]
          rfl
        · intro r' hr'
          cases hr.symm.trans hr'
          rw [hl]
          rfl
      rw [heq, hr] at hloaded
      cases hloaded
    · intro id r hr
      by_cases hd : isDeployable r.value.label = true
      · have hloaded : loaded.get? id = some ⟨r.type, postInit py.listOfSet r.value⟩ := by
          rw [hother id, hdep id r hr hd]
          intro r' hr'
          cases hr.symm.trans hr'
          rw [Bool.eq_false_iff]
          intro hc
          rw [hexclusive _ hc] at hd
          cases hd
        rw [heq, hr] at hloaded
        exact (b.sound hr).postInit_eq_iff.1 (congrArg RegisteredResource.value (Option.some.inj hloaded)).symm
      · intro hvm
        rw [hvm] at hd
        exact absurd rfl hd
  · rintro ⟨hread, hnoplain, hsettled⟩
    obtain ⟨deployables, hfirst⟩ := b.exists_loadDeployables
    obtain ⟨hdep, hnone⟩ := b.loadDeployables_spec hfirst
    obtain ⟨loaded, hsecond⟩ := b.exists_loadConfigurations hread
      (fun id r hr hd => Dict.mem_keys_iff.2 ⟨_, hdep id r hr hd⟩) (by
        intro id r hr hc hmem
        obtain ⟨v, hv⟩ := Dict.mem_keys_iff.1 hmem
        rw [hnone id] at hv
        · cases hv
        · intro r' hr'
          cases hr.symm.trans hr'
          exact hexclusive _ hc)
    obtain ⟨hconf, hother⟩ := b.loadConfigurations_spec hsecond
    refine ⟨loaded, by rw [loadResources, hfirst, except_ok_bind, hsecond], ?_⟩
    intro id
    cases hr : b.registeredResources.get? id with
    | none =>
      rw [hother id (fun r hr' => nomatch hr.symm.trans hr'), hnone id (fun r hr' => nomatch hr.symm.trans hr')]
    | some r =>
      rcases hkinds _ (b.sound hr).resource with hd | hc | hplain
      · rw [hother id, hdep id r hr hd, (b.sound hr).postInit_eq_iff.2 (hsettled id r hr)]
        intro r' hr'
        cases hr.symm.trans hr'
        rw [Bool.eq_false_iff]
        intro hc
        rw [hexclusive _ hc] at hd
        cases hd
      · obtain ⟨o, hbuild, hget⟩ := hconf id r hr hc
        have hlabel : r.value.label ≠ .vmResource := by
          intro he
          rw [he] at hc
          cases hc
        have hheld := b.heldIds_resource hr (fun id r hr _ => Dict.mem_keys_iff.2 ⟨r, hr⟩)
        rw [dereference_readable (b.sound hr).proper (hread id r hr hc) hheld.uuid,
          py.pydantic.build_dump r.type r.value (b.sound hr).instance_of] at hbuild
        cases hbuild
        rw [hget, (b.sound hr).postInit_of_not_vm hlabel]
      · exact absurd hplain (hnoplain id r hr)

theorem loadState_iff {registered : Dict String RegisteredResource} (hkeys : ∀ id, registered.get? id = b.registeredResources.get? id) :
    loadState py cls registered (saved b.state) = .ok (b.state, true) ↔ Readable b.state := by
  have hroot : b.state.label.isLeaf = false := by
    rw [b.state_model]
    rfl
  have hlabels : b.state.All (fun l => l ≠ .vmResource) := by
    refine Tree.All.mono ?_ b.state b.state_unregistered
    rintro l hl rfl
    cases hl
  constructor
  · intro h
    obtain ⟨doc, hdoc, h⟩ := except_bind_ok.1 h
    cases hvalid : py.modelValidate cls.stateType doc with
    | error e =>
      rw [hvalid] at h
      exact nomatch congrArg Prod.snd (Except.ok.inj h)
    | ok state =>
      rw [hvalid] at h
      have hstate : b.state = state := (congrArg Prod.fst (Except.ok.inj h)).symm
      obtain ⟨o, hbuild, ho⟩ := modelValidate_ok hvalid
      rw [← hstate] at ho
      have hsame : postInit py.listOfSet o = o := eq_of_postInit o (ho ▸ hlabels)
      rw [resolved_saved b.state_proper hroot hdoc, ← hsame, ← ho] at hbuild
      exact readable_of_build py.pydantic b.state_proper hbuild
  · intro hread
    have hheld : HeldIds registered.keys b.state := by
      refine Tree.All.mono ?_ b.state b.state_registered
      rintro l ⟨-, hl⟩ id he
      obtain ⟨r, hr⟩ := Dict.mem_keys_iff.1 (hl id he)
      exact ⟨Dict.mem_keys_iff.2 ⟨r, (hkeys id).trans hr⟩, (b.sound hr).id_uuid⟩
    rw [loadState, resolved_readable b.state_proper hroot hread hheld, except_ok_bind, modelValidate_dumped b.state_instance,
      postInit_self b.state hlabels]
    rfl

theorem fromDb_ok {doc : BlueprintDocument} {loaded : BlueprintModel} : fromDb py cls doc = .ok loaded ↔
    ∃ valid, loadResources py doc.registeredResources = .ok loaded.registeredResources ∧
      loadState py cls loaded.registeredResources doc.state = .ok (loaded.state, valid) ∧
      loadProviders py (virtDataClass py) doc.virtProviders = .ok loaded.virtProviders ∧
      loadProviders py (k8sDataClass py) doc.k8sProviders = .ok loaded.k8sProviders ∧
      loadOptional py pduProviderDataType doc.pduProvider = .ok loaded.pduProvider ∧
      loadOptional py blueprintProviderDataType doc.blueprintProvider = .ok loaded.blueprintProvider ∧
      loaded.corrupted = (doc.corrupted || !valid) := by
  constructor
  · intro h
    obtain ⟨registered, hreg, h⟩ := except_bind_ok.1 h
    obtain ⟨⟨state, valid⟩, hstate, h⟩ := except_bind_ok.1 h
    obtain ⟨virt, hvirt, h⟩ := except_bind_ok.1 h
    obtain ⟨k8s, hk8s, h⟩ := except_bind_ok.1 h
    obtain ⟨pdu, hpdu, h⟩ := except_bind_ok.1 h
    obtain ⟨blueprint, hblue, h⟩ := except_bind_ok.1 h
    cases h
    exact ⟨valid, hreg, hstate, hvirt, hk8s, hpdu, hblue, rfl⟩
  · rintro ⟨valid, hreg, hstate, hvirt, hk8s, hpdu, hblue, hcorrupted⟩
    rw [fromDb, hreg, except_ok_bind, hstate, except_ok_bind]
    simp only [hvirt, hk8s, hpdu, hblue, except_ok_bind, ← hcorrupted]
    rfl

variable {b} in
theorem Reloadable.exists_fromDb (h : b.Reloadable) : ∃ loaded, fromDb py cls b.document = .ok loaded ∧ Restored b.toBlueprintModel loaded := by
  obtain ⟨registered, hreg, hregistered⟩ := b.loadResources_iff.2 ⟨h.configurations, h.kinds, h.networks⟩
  obtain ⟨virt, hvirt, hvirtual⟩ := (loadProviders_iff _ _).2 h.virtProviders
  obtain ⟨k8s, hk8s, hclusters⟩ := (loadProviders_iff _ _).2 h.k8sProviders
  refine ⟨⟨registered, b.state, virt, k8s, b.pduProvider, b.blueprintProvider, false⟩, fromDb_ok.2 ⟨true, hreg,
    (b.loadState_iff hregistered).2 h.state, hvirt, hk8s, (loadOptional_iff _ _).2 h.pduProvider,
    (loadOptional_iff _ _).2 h.blueprintProvider, rfl⟩, ?_⟩
  exact ⟨hregistered, rfl, hvirtual, hclusters, rfl, rfl, rfl⟩

/-- A saved blueprint comes back as it was exactly when it is reloadable. -/
theorem round_trips_iff : b.RoundTrips ↔ b.Reloadable := by
  rw [RoundTrips, b.toDb_eq, except_ok_bind]
  refine ⟨?_, Reloadable.exists_fromDb⟩
  rintro ⟨loaded, hrun, hsame⟩
  obtain ⟨valid, hreg, hstate, hvirt, hk8s, hpdu, hblue, hcorrupted⟩ := fromDb_ok.1 hrun
  have hvalid : valid = true := by
    rw [hsame.uncorrupted] at hcorrupted
    cases valid with
    | true => rfl
    | false => cases hcorrupted
  rw [hvalid, hsame.state] at hstate
  rw [hsame.pduProvider] at hpdu
  rw [hsame.blueprintProvider] at hblue
  obtain ⟨hread, hkinds, hsettled⟩ := b.loadResources_iff.1 ⟨_, hreg, hsame.resources⟩
  exact {
    state := (b.loadState_iff hsame.resources).1 hstate
    configurations := hread
    kinds := hkinds
    networks := hsettled
    virtProviders := (loadProviders_iff _ _).1 ⟨_, hvirt, hsame.virtProviders⟩
    k8sProviders := (loadProviders_iff _ _).1 ⟨_, hk8s, hsame.k8sProviders⟩
    pduProvider := (loadOptional_iff _ _).1 hpdu
    blueprintProvider := (loadOptional_iff _ _).1 hblue }

end Blueprint

end RoundTrip

end Nfvcl.Persistence
