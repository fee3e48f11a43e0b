import Nfvcl.BlueprintPersistence

namespace Nfvcl.Persistence
set_option autoImplicit true
open Effects KeyedTrees

/-! ### Reading a saved object -/

/-- No text of the object looks like a reference. -/
def Readable (obj : LiveObj) : Prop := obj.All (fun l => l.isRef = false)

/-- Where a saved object has a text that looks like a reference. -/
def readRef : LiveLabel → Option LiveObj
  | .object id => some (LiveObj.text s!"REF={id}")
  | .plain (.str s) => if PyLabel.isRef (.str s) then some (LiveObj.text s) else none
  | _ => none

section Reading

variable {obj : LiveObj} {registered : List String}

theorem ofDocument_saved (h : Proper obj) : LiveObj.ofDocument (saved obj) = obj.graft readRef LiveLabel.dumped := by
  have hall : obj.All (fun _ => True) := Tree.all_of_forall (fun _ => trivial) obj
  rw [LiveObj.ofDocument, saved, Tree.graft_graft obj (Tree.All.mono (fun _ _ _ => rfl) obj hall)]
  refine Tree.graft_congr obj h.leafy (Tree.All.mono ?_ obj hall)
  intro l _
  cases l with
  | object id => exact .inr ⟨rfl, rfl⟩
  | vmResource => exact .inl ⟨rfl, rfl, rfl⟩
  | plain l =>
    cases l with
    | str s =>
      refine .inr ⟨rfl, ?_⟩
      rw [readRef]
      split
      · rfl
      · rfl
    | _ => exact .inl ⟨rfl, rfl, rfl⟩

/-- An object in which nothing is held is read as it was dumped. -/
theorem ofDocument_alone (h : Proper obj) (halone : obj.All (fun l => ∀ id, l ≠ .object id)) :
    LiveObj.ofDocument (saved obj) = obj.map LiveLabel.dumped := by
  rw [ofDocument_saved h, Tree.map_eq_graft]
  refine Tree.graft_congr obj h.leafy (Tree.All.mono ?_ obj halone)
  intro l hl
  cases l with
  | object id => exact absurd rfl (hl id)
  | vmResource => exact .inl ⟨rfl, rfl, rfl⟩
  | plain l =>
    cases l with
    | str s =>
      refine .inr ⟨rfl, ?_⟩
      rw [readRef]
      split
      · rfl
      · rfl
    | _ => exact .inl ⟨rfl, rfl, rfl⟩

theorem readRef_cases {l : LiveLabel} (h : readRef l = some s) :
    (∃ id, l = .object id ∧ s = LiveObj.text s!"REF={id}") ∨
      ∃ text, l = .plain (.str text) ∧ PyLabel.isRef (.str text) = true ∧ s = LiveObj.text text := by
  cases l with
  | object id =>
    cases h
    exact .inl ⟨id, rfl, rfl⟩
  | vmResource => cases h
  | plain l =>
    cases l with
    | str text =>
      rw [readRef] at h
      split at h
      · rename_i href
        cases h
        exact .inr ⟨text, rfl, href, rfl⟩
      · cases h
    | _ => cases h

theorem readRef_isRef {l : LiveLabel} (h : readRef l = some s) : ∃ text, s = LiveObj.text text ∧ PyLabel.isRef (.str text) = true := by
  rcases readRef_cases h with ⟨id, -, rfl⟩ | ⟨text, -, href, rfl⟩
  · exact ⟨_, rfl, BlueprintNG.ref_isRef id⟩
  · exact ⟨text, rfl, href⟩

theorem readRef_none {l : LiveLabel} (h : readRef l = none) : l.dumped.isRef = false := by
  cases l with
  | object id => cases h
  | vmResource => rfl
  | plain l =>
    cases l with
    | str text =>
      rw [readRef] at h
      split at h
      · cases h
      · rename_i href
        exact Bool.eq_false_iff.2 href
    | _ => rfl

theorem dumped_isWalked {l : LiveLabel} (h : l ≠ .plain .tuple) : l.dumped.isWalked = true ∨ l.isLeaf = true := by
  cases l with
  | plain l =>
    cases l with
    | tuple => exact absurd rfl h
    | none => exact .inr rfl
    | str text => exact .inr rfl
    | other repr => exact .inr rfl
    | dict => exact .inl rfl
    | list => exact .inl rfl
    | model => exact .inl rfl
    | resource cls => exact .inl rfl
  | vmResource => exact .inl rfl
  | object id => exact .inr rfl

def readObject (l : LiveLabel) : Option LiveObj := (readRef l).map dereferenced

/-- The object with what the references of its document refer to. -/
def dereference (obj : LiveObj) : LiveObj := obj.graft readObject LiveLabel.dumped

theorem replaced_ofDocument (h : Proper obj) :
    (LiveObj.ofDocument (saved obj)).replaced LiveLabel.isRef LiveLabel.isWalked (fun l => l) dereferenced = dereference obj := by
  rw [ofDocument_saved h]
  refine Tree.replaced_graft obj h.leafy (Tree.All.mono ?_ obj h.untupled)
  intro l hl
  constructor
  · intro s hs
    obtain ⟨text, rfl, href⟩ := readRef_isRef hs
    exact href
  · exact fun hnone => ⟨readRef_none hnone, dumped_isWalked hl⟩

theorem distinct_ofDocument (h : Proper obj) : (LiveObj.ofDocument (saved obj)).Distinct := by
  rw [ofDocument_saved h]
  refine Tree.graft_distinct obj h.distinct (Tree.All.mono ?_ obj h.untupled)
  intro l _ s hs
  obtain ⟨text, rfl, -⟩ := readRef_isRef hs
  trivial

theorem label_ofDocument (h : Proper obj) (hroot : obj.label.isLeaf = false) :
    (LiveObj.ofDocument (saved obj)).label.isRef = false := by
  rw [ofDocument_saved h]
  cases obj with
  | node l f =>
    have hnone : readRef l = none := by
      cases l with
      | object id => cases hroot
      | vmResource => rfl
      | plain l =>
        cases l with
        | str text => cases hroot
        | _ => rfl
    rw [Tree.graft_none hnone]
    exact readRef_none hnone

theorem resolved_saved (h : Proper obj) (hroot : obj.label.isLeaf = false) (hrun : resolved registered (saved obj) = .ok d) :
    d = dereference obj := by
  rcases resolved_cases registered (distinct_ofDocument h) (label_ofDocument h hroot) with ⟨heq, -⟩ | ⟨⟨e, heq⟩, -⟩
  · rw [heq, replaced_ofDocument h] at hrun
    cases hrun
    rfl
  · rw [heq] at hrun
    cases hrun

theorem referred_text {id : String} (h : ¬ refPrefix <:+: id.toList) : referred (LiveObj.text s!"REF={id}") = some id :=
  (referredId_ref id).2 h

theorem dereferenced_text {id : String} (h : ¬ refPrefix <:+: id.toList) :
    dereferenced (LiveObj.text s!"REF={id}") = LiveObj.object id := by
  rw [dereferenced, referred_text h]

/-- The objects that are held have ids that `uuid4` made. -/
def HeldIds (registered : List String) (obj : LiveObj) : Prop :=
  obj.All (fun l => ∀ id, l = .object id → id ∈ registered ∧ ¬ refPrefix <:+: id.toList)

/-- What is read at a label of a readable object. -/
theorem readRef_readable {l : LiveLabel} (h : l.isRef = false) :
    readRef l = none ∨ ∃ id, l = .object id ∧ readRef l = some (LiveObj.text s!"REF={id}") := by
  cases hr : readRef l with
  | none => exact .inl rfl
  | some s =>
    rcases readRef_cases hr with ⟨id, rfl, rfl⟩ | ⟨text, rfl, htext, -⟩
    · exact .inr ⟨id, rfl, rfl⟩
    · exact nomatch htext.symm.trans h

theorem dereference_readable (h : Proper obj) (hread : Readable obj)
    (huuid : obj.All (fun l => ∀ id, l = .object id → ¬ refPrefix <:+: id.toList)) : dereference obj = obj.map LiveLabel.dumped := by
  rw [dereference, Tree.map_eq_graft]
  refine Tree.graft_congr obj h.leafy (Tree.All.mono ?_ obj (Tree.All.and obj hread huuid))
  rintro l ⟨href, hid⟩
  rcases readRef_readable href with hr | ⟨id, rfl, hr⟩
  · exact .inl ⟨by rw [readObject, hr]; rfl, rfl, rfl⟩
  · refine .inr ⟨rfl, ?_⟩
    rw [readObject, hr, Option.map_some, Option.getD_some, Option.getD_none, dereferenced_text (hid id rfl)]
    rfl

theorem HeldIds.uuid (h : HeldIds registered obj) : obj.All (fun l => ∀ id, l = .object id → ¬ refPrefix <:+: id.toList) :=
  Tree.All.mono (fun _ hl id he => (hl id he).2) obj h

theorem resolved_readable (h : Proper obj) (hroot : obj.label.isLeaf = false) (hread : Readable obj) (hheld : HeldIds registered obj) :
    resolved registered (saved obj) = .ok (obj.map LiveLabel.dumped) := by
  rcases resolved_cases registered (distinct_ofDocument h) (label_ofDocument h hroot) with ⟨heq, -⟩ | ⟨-, r, hr, hbad⟩
  · rw [heq, replaced_ofDocument h, dereference_readable h hread hheld.uuid]
  · refine absurd ?_ hbad
    rw [ofDocument_saved h] at hr
    refine Tree.mem_found_graft obj (Tree.All.mono ?_ obj (Tree.All.and obj hread hheld)) hr
    rintro l ⟨href, hid⟩
    refine ⟨?_, readRef_none⟩
    intro s hs x hx
    rcases readRef_readable href with hnone | ⟨id, rfl, hsome⟩
    · exact nomatch hnone.symm.trans hs
    · cases hsome.symm.trans hs
      rw [LiveObj.text, Tree.found, Forest.found, ite_self, List.append_nil] at hx
      split at hx
      · rw [List.mem_singleton.1 hx]
        exact ⟨id, referred_text (hid id rfl).2, (hid id rfl).1⟩
      · cases hx

/-- An object that is built from its own saved text as it was has no text that looks like a reference. -/
theorem readable_of_build (pydantic : Pydantic) (h : Proper obj) (hbuild : pydantic.build cls (dereference obj) = some obj) :
    Readable obj := by
  have hall : obj.All (fun _ => True) := Tree.all_of_forall (fun _ => trivial) obj
  refine Tree.all_of_getAt obj h.distinct ?_
  intro p r hget
  rw [Bool.eq_false_iff]
  intro href
  have hleaves : obj.All (fun l => l.isLeaf = true ∨ readObject l = none) := by
    refine Tree.All.mono ?_ obj hall
    intro l _
    cases hr : readRef l with
    | none => exact .inr (by rw [readObject, hr]; rfl)
    | some s =>
      rcases readRef_cases hr with ⟨id, rfl, -⟩ | ⟨text, rfl, -⟩
      · exact .inl rfl
      · exact .inl rfl
  have hdoc : (obj.graft readObject LiveLabel.dumped).getAt p = some (r.graft readObject LiveLabel.dumped) :=
    Tree.getAt_graft h.leafy hleaves hget
  cases r with
  | node l f =>
    cases l with
    | object id => cases href
    | vmResource => cases href
    | plain l =>
      cases l with
      | str text =>
        obtain ⟨id, hid⟩ := referred_of_isRef (r := LiveObj.text text) href
        have htext : PyLabel.isRef (.str text) = true := href
        have hsub : readObject (.plain (.str text)) = some (LiveObj.object id) := by
          rw [readObject, readRef, if_pos htext, Option.map_some, dereferenced, hid]
        rw [Tree.graft_some hsub] at hdoc
        have hlabel := pydantic.build_object cls _ obj p id .nil hbuild hdoc _ hget
        cases hlabel
      | _ => cases href

end Reading

/-! ### Hooks -/

section Hooks

variable {listOfSet : List String → List String}

mutual

theorem postInit_self (t : LiveObj) (h : t.All (fun l => l ≠ .vmResource)) : postInit listOfSet t = t := by
  cases t with
  | node l f => rw [postInit, if_neg h.1, postInitParts_self f h.2]

theorem postInitParts_self (f : LiveParts) (h : f.All (fun l => l ≠ .vmResource)) : postInitParts listOfSet f = f := by
  cases f with
  | nil => rfl
  | cons k t rest => rw [postInitParts, postInit_self t h.1, postInitParts_self rest h.2]

end

mutual

/-- No hook runs where no VM comes out. -/
theorem eq_of_postInit (t : LiveObj) (h : (postInit listOfSet t).All (fun l => l ≠ .vmResource)) : postInit listOfSet t = t := by
  cases t with
  | node l f =>
    rw [postInit] at h ⊢
    rw [if_neg h.1] at h ⊢
    rw [eq_of_postInitParts f h.2]

theorem eq_of_postInitParts (f : LiveParts) (h : (postInitParts listOfSet f).All (fun l => l ≠ .vmResource)) :
    postInitParts listOfSet f = f := by
  cases f with
  | nil => rfl
  | cons k t rest => rw [postInitParts, eq_of_postInit t h.1, eq_of_postInitParts rest h.2]

end

theorem get_postInitParts (f : LiveParts) (k : PyStep) : (postInitParts listOfSet f).get k = (f.get k).map (postInit listOfSet) := by
  cases f with
  | nil => rfl
  | cons key t rest =>
    rw [postInitParts, Forest.get, Forest.get]
    by_cases hk : key = k
    · rw [if_pos hk, if_pos hk]
      rfl
    · rw [if_neg hk, if_neg hk]
      exact get_postInitParts rest k

/-- The hook of a VM changes its networks only. -/
theorem get_modelPostInit (f : LiveParts) (h : k ≠ PyStep.attr "additional_networks") : (modelPostInit listOfSet f).get k = f.get k := by
  unfold modelPostInit
  split
  · rw [Forest.get_modify, if_neg h]
  · rfl

theorem attr?_postInit (t : LiveObj) (h : name ≠ "additional_networks") :
    (postInit listOfSet t).attr? name = (t.attr? name).map (postInit listOfSet) := by
  have hkey : PyStep.attr name ≠ PyStep.attr "additional_networks" := by
    intro he
    cases he
    exact h rfl
  cases t with
  | node l f =>
    rw [postInit, LiveObj.attr?, LiveObj.attr?]
    split
    · rw [get_modelPostInit _ hkey, get_postInitParts]
    · rw [get_postInitParts]

theorem text?_postInit (t : LiveObj) : (postInit listOfSet t).text? = t.text? := by
  cases t with
  | node l f =>
    rw [postInit]
    cases l with
    | plain l => cases l <;> rfl
    | vmResource => rfl
    | object id => rfl

theorem attrText_postInit (t : LiveObj) (h : name ≠ "additional_networks") :
    (postInit listOfSet t).attrText name = t.attrText name := by
  rw [LiveObj.attrText, LiveObj.attrText, attr?_postInit t h]
  cases t.attr? name with
  | none => rfl
  | some s => exact text?_postInit s

theorem texts_ofTexts (items : List String) : (LiveObj.ofTexts items).texts = some items := by
  have hgo : ∀ entries : List (String × Nat),
      LiveObj.texts.go (Forest.ofList (entries.map (fun p => (PyStep.index p.2, LiveObj.text p.1)))) = some (entries.map Prod.fst) := by
    intro entries
    induction entries with
    | nil => rfl
    | cons e entries ih =>
      rw [List.map_cons, Forest.ofList, LiveObj.texts.go, ih]
      rfl
  rw [LiveObj.ofTexts, LiveObj.texts, hgo, List.zipIdx_map_fst]

theorem ofTexts_injective (h : LiveObj.ofTexts xs = LiveObj.ofTexts ys) : xs = ys := by
  have htexts := congrArg LiveObj.texts h
  rw [texts_ofTexts, texts_ofTexts] at htexts
  exact Option.some.inj htexts

/-- The VM has its networks as `model_post_init` leaves them. -/
def Settled (listOfSet : List String → List String) (resource : LiveObj) : Prop :=
  resource.label = .vmResource → ∀ managementNetwork additionalNetworks,
    HasNetworks resource managementNetwork additionalNetworks →
      cleanNetworks listOfSet managementNetwork additionalNetworks = additionalNetworks

section Sound

variable {py : Process} {registered : Dict String RegisteredResource} {id : String} {r : RegisteredResource}

theorem SoundResource.parts_postInit (h : SoundResource py registered id r) (listOfSet : List String → List String) :
    postInitParts listOfSet (parts r.value) = parts r.value := by
  refine postInitParts_self _ (Forest.All.mono ?_ _ h.alone)
  rintro l hl rfl
  cases hl

theorem SoundResource.postInit_of_not_vm (h : SoundResource py registered id r) (hvm : r.value.label ≠ .vmResource) :
    postInit listOfSet r.value = r.value := by
  have hparts := h.parts_postInit listOfSet
  cases hv : r.value with
  | node l f =>
    rw [hv] at hparts hvm
    have hl : l ≠ .vmResource := hvm
    rw [postInit, if_neg hl]
    exact congrArg _ hparts

theorem SoundResource.postInit_eq_iff (h : SoundResource py registered id r) : postInit listOfSet r.value = r.value ↔ Settled listOfSet r.value := by
  by_cases hvm : r.value.label = .vmResource
  · have hparts := h.parts_postInit listOfSet
    obtain ⟨m, ns, hnets⟩ := h.networks hvm
    cases hv : r.value with
    | node l f =>
      rw [hv] at hparts hvm hnets
      obtain rfl : l = .vmResource := hvm
      have hget : f.get (.attr "additional_networks") = some (LiveObj.ofTexts ns) := hnets.additional
      have hmanagement : f.get (.attr "management_network") = some (LiveObj.text m) := hnets.management
      have hvmnets : vmNetworks f = some (m, ns) := by
        rw [vmNetworks, hmanagement, hget]
        simp only [Option.bind_some, texts_ofTexts]
        rfl
      have hrun : postInit listOfSet (.node .vmResource f) =
          .node .vmResource (f.modify (.attr "additional_networks") (fun _ => LiveObj.ofTexts (cleanNetworks listOfSet m ns))) := by
        rw [postInit, if_pos rfl]
        rw [show postInitParts listOfSet f = f from hparts, modelPostInit, hvmnets]
      rw [hrun]
      constructor
      · intro heq _ m' ns' hnets'
        have hm : m' = m := by
          cases hmanagement.symm.trans hnets'.management
          rfl
        have hns : ns' = ns := ofTexts_injective (Option.some.inj (hnets'.additional.symm.trans hget))
        have hmodify : f.modify (.attr "additional_networks") (fun _ => LiveObj.ofTexts (cleanNetworks listOfSet m ns)) = f :=
          congrArg parts heq
        have hlookup := congrArg (Forest.get (.attr "additional_networks")) hmodify
        rw [Forest.get_modify, if_pos rfl, hget, Option.map_some] at hlookup
        rw [hm, hns]
        exact ofTexts_injective (Option.some.inj hlookup)
      · intro hsettled
        rw [hsettled rfl m ns hnets, Forest.modify_self f hget]
  · exact ⟨fun _ hl => absurd hl hvm, fun _ => h.postInit_of_not_vm hvm⟩

end Sound

end Hooks

end Nfvcl.Persistence
