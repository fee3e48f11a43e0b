import Nfvcl.PyValue
import Nfvcl.Traversals

namespace Nfvcl.Migration001
set_option autoImplicit true
open Effects Traversal

def typeName : PyValue → String
  | .none => "NoneType"
  | .bool _ => "bool"
  | .int _ => "int"
  | .float _ => "float"
  | .str _ => "str"
  | .list _ => "list"
  | .dict _ => "dict"
  | .other _ _ => "object"

/-- `v.name` of a value that has no such attribute. -/
def noAttribute (name : String) (v : PyValue) : PyError :=
  .attributeError ("'" ++ typeName v ++ "' object has no attribute '" ++ name ++ "'")

/-- `v[key]` of a value that takes no text as a key. -/
def badSubscript : PyValue → PyError
  | .str _ => .typeError "string indices must be integers, not 'str'"
  | .list _ => .typeError "list indices must be integers or slices, not str"
  | v => .typeError ("'" ++ typeName v ++ "' object is not subscriptable")

def entriesOf : PyValue → Option PyDict
  | .dict d => some d
  | _ => none

/-- A value as a dictionary. -/
def asDict (wrong : PyValue → PyError) : Traversal PyError PyValue PyDict where
  edit f v :=
    match entriesOf v with
    | some d => (f d).map .dict
    | none => .error (wrong v)
  update h v := (entriesOf v).elim v (fun d => .dict (h d))
  foci v := (entriesOf v).toList
  Fits v := (entriesOf v).isSome
  edit_ok := by
    intro f h v hfits hf
    cases v with
    | dict d =>
      simp only [entriesOf, hf d (List.mem_singleton.2 rfl)]
      rfl
    | _ => cases hfits
  edit_update := by
    intro f m v v' hedit hm
    cases v with
    | dict d =>
      cases hd : f d with
      | error e =>
        simp only [entriesOf, hd] at hedit
        cases hedit
      | ok d' =>
        simp only [entriesOf, hd] at hedit
        cases hedit
        simp only [entriesOf, Option.elim_some, hm d d' hd]
    | _ => cases hedit
  update_update := by
    intro g h v
    cases v <;> rfl
  update_congr := by
    intro g h v hgh
    cases v with
    | dict d => simp only [entriesOf, Option.elim_some, hgh d (List.mem_singleton.2 rfl)]
    | _ => rfl
  update_id := by
    intro v
    cases v <;> rfl
  foci_update := by
    intro h v
    cases v <;> rfl
  fits_update := by
    intro v h hfits
    cases v with
    | dict d => rfl
    | _ => cases hfits

/-- `d[key]` of a dictionary. -/
def item (key : String) : Traversal PyError PyDict PyValue :=
  atKey (.keyError key) (.str key)

/-- The values of `resource["value"]["network_interfaces"].items()`. -/
def networkInterfaces : Traversal PyError PyDict PyValue :=
  (item "value").comp ((asDict badSubscript).comp
    ((item "network_interfaces").comp ((asDict (noAttribute "items")).comp allValues)))

/-- `resource["type"] == path`. -/
def hasType (path : String) (resource : PyDict) : Except PyError Bool := do
  let type ← PyDict.getItem resource "type"
  return decide (type = .str path)

theorem hasType_update (path : String) (h : PyValue → PyValue) (resource : PyDict) :
    hasType path (networkInterfaces.update h resource) = hasType path resource := by
  unfold hasType PyDict.getItem PyDict.get?
  have hlookup : (networkInterfaces.update h resource).lookup (.str "type") = resource.lookup (.str "type") :=
    lookup_overAt_ne (by decide) _ resource
  rw [hlookup]

def vmInterfaces (path : String) : Traversal PyError PyDict PyValue :=
  onlyIf (hasType path) networkInterfaces (hasType_update path)

/-- The resources of `blueprint_instance["registered_resources"].values()`. -/
def resources : Traversal PyError PyDict PyDict :=
  (item "registered_resources").comp ((asDict (noAttribute "values")).comp
    (allValues.comp (asDict badSubscript)))

def documentInterfaces (path : String) : Traversal PyError PyDict PyValue :=
  resources.comp (vmInterfaces path)

/-- The type the migration looks for. -/
def vmResourcePath : String := "blueprints_ng.resources.VmResource"

def upgradeValue (blueprintInstance : PyDict) (netRes : PyValue) : Except PyError PyValue :=
  match netRes with
  | .dict _ => do
    let _id ← PyDict.getItem blueprintInstance "id"
    return .list [netRes]
  | _ => .ok netRes

def downgradeValue (blueprintInstance : PyDict) (netRes : PyValue) : Except PyError PyValue :=
  match netRes with
  | .list items => do
    let _id ← PyDict.getItem blueprintInstance "id"
    match items with
    | [] => .error (.indexError "list index out of range")
    | first :: _ => .ok first
  | _ => .ok netRes

def migrateDocument (edit : PyDict → PyValue → Except PyError PyValue) (blueprintInstance : PyDict) :
    Except PyError PyDict := do
  let edited ← (documentInterfaces vmResourcePath).edit (edit blueprintInstance) blueprintInstance
  let _id ← PyDict.getItem edited "_id"
  return edited

/-- The loop over the collection, which replaces each document in its place. -/
def migrateFrom (edit : PyDict → PyValue → Except PyError PyValue) :
    List PyDict → EStateM.Result PyError (List PyDict) Unit
  | [] => .ok () []
  | doc :: docs =>
    match migrateDocument edit doc with
    | .error e => .error e (doc :: docs)
    | .ok edited =>
      match migrateFrom edit docs with
      | .error e rest => .error e (edited :: rest)
      | .ok _ rest => .ok () (edited :: rest)

def upgrade : EStateM PyError (List PyDict) Unit := migrateFrom upgradeValue

def downgrade : EStateM PyError (List PyDict) Unit := migrateFrom downgradeValue

/-! ### Documents of blueprints -/

/-- The class path of `VmResource`, in whatever module. -/
def VmPath (path : String) : Prop :=
  ∃ module, path = module ++ ".VmResource"

def IsDict (v : PyValue) : Prop :=
  ∃ d, v = .dict d

def IsList (v : PyValue) : Prop :=
  ∃ items, v = .list items

/-- A registered resource; that of a VM has its interfaces, by network. -/
structure Registered (resource : PyDict) : Prop where
  typed : ∃ path, PyDict.get? resource "type" = some (.str path)
  interfaces : ∀ path, VmPath path → PyDict.get? resource "type" = some (.str path) →
    networkInterfaces.Fits resource ∧ ∀ v ∈ networkInterfaces.foci resource, IsDict v ∨ IsList v

structure Blueprint (doc : PyDict) : Prop where
  mongoId : (PyDict.get? doc "_id").isSome
  id : (PyDict.get? doc "id").isSome
  fits : resources.Fits doc
  registered : ∀ resource ∈ resources.foci doc, Registered resource

/-- The values in `network_interfaces` of the resources recorded under a class path. -/
def interfaces (path : String) (doc : PyDict) : List PyValue :=
  (documentInterfaces path).foci doc

/-- A document without the values the migration is about. -/
def masked (doc : PyDict) : PyDict :=
  (documentInterfaces vmResourcePath).update (fun _ => .none) doc

structure Migrates (docs : List PyDict) : Prop where
  idempotent : ∀ docs', upgrade.run docs = .ok () docs' → upgrade.run docs' = .ok () docs'
  listed : ∃ docs', upgrade.run docs = .ok () docs' ∧
    ∀ doc ∈ docs', ∀ path, VmPath path → ∀ v ∈ interfaces path doc, IsList v
  restored : (∀ doc ∈ docs, ∀ path, VmPath path → ∀ v ∈ interfaces path doc, IsDict v) →
    ∀ docs', upgrade.run docs = .ok () docs' → downgrade.run docs' = .ok () docs
  framed : (finalState (upgrade.run docs)).map masked = docs.map masked ∧
    (finalState (downgrade.run docs)).map masked = docs.map masked

theorem get?_update (hne : key ≠ "registered_resources") (path : String) (h : PyValue → PyValue) (doc : PyDict) :
    PyDict.get? ((documentInterfaces path).update h doc) key = PyDict.get? doc key :=
  lookup_overAt_ne (fun he => hne (PyKey.str.inj he)) _ doc

theorem holds_hasType {resource : PyDict} :
    holds (hasType path resource) = true ↔ PyDict.get? resource "type" = some (.str path) := by
  unfold hasType PyDict.getItem
  cases PyDict.get? resource "type" with
  | none =>
    constructor
    · intro h
      cases h
    · intro h
      cases h
  | some type =>
    constructor
    · intro h
      exact congrArg some (of_decide_eq_true h)
    · intro h
      exact decide_eq_true (Option.some.inj h)

theorem mem_interfaces (hv : v ∈ interfaces path doc) :
    ∃ resource ∈ resources.foci doc, PyDict.get? resource "type" = some (.str path) ∧
      v ∈ networkInterfaces.foci resource := by
  obtain ⟨resource, hresource, hv⟩ := List.mem_flatMap.1 hv
  refine ⟨resource, hresource, ?_⟩
  change v ∈ (if holds (hasType path resource) = true then networkInterfaces.foci resource else []) at hv
  by_cases hpath : holds (hasType path resource) = true
  · rw [if_pos hpath] at hv
    exact ⟨holds_hasType.1 hpath, hv⟩
  · rw [if_neg hpath] at hv
    cases hv

theorem Blueprint.kind (h : Blueprint doc) (hpath : VmPath path) (hv : v ∈ interfaces path doc) :
    IsDict v ∨ IsList v := by
  obtain ⟨resource, hresource, htype, hv⟩ := mem_interfaces hv
  exact ((h.registered resource hresource).interfaces path hpath htype).2 v hv

theorem Blueprint.fits_interfaces (h : Blueprint doc) (hpath : VmPath path) : (documentInterfaces path).Fits doc := by
  refine ⟨h.fits, ?_⟩
  intro resource hresource
  obtain ⟨type, htype⟩ := (h.registered resource hresource).typed
  have hguard : hasType path resource = .ok (decide (PyValue.str type = .str path)) := by
    unfold hasType PyDict.getItem
    rw [htype]
    rfl
  by_cases hsame : PyValue.str type = .str path
  · left
    rw [decide_eq_true hsame] at hguard
    rw [hsame] at htype
    exact ⟨hguard, ((h.registered resource hresource).interfaces path hpath htype).1⟩
  · right
    rw [decide_eq_false hsame] at hguard
    exact hguard

/-- A value under another class path is not touched. -/
theorem interfaces_update (hne : path ≠ other) (h : PyValue → PyValue) (doc : PyDict) :
    interfaces path ((documentInterfaces other).update h doc) = interfaces path doc := by
  have hresource : ∀ resource, (vmInterfaces path).foci ((vmInterfaces other).update h resource) =
      (vmInterfaces path).foci resource := by
    intro resource
    change (vmInterfaces path).foci (if holds (hasType other resource) = true then networkInterfaces.update h resource
      else resource) = _
    by_cases hother : holds (hasType other resource) = true
    · have hpath : ¬ holds (hasType path resource) = true := by
        intro hpath
        have hsame := (holds_hasType.1 hpath).symm.trans (holds_hasType.1 hother)
        exact hne (PyValue.str.inj (Option.some.inj hsame))
      rw [if_pos hother]
      change (if holds (hasType path (networkInterfaces.update h resource)) = true then _ else []) =
        (if holds (hasType path resource) = true then _ else [])
      rw [hasType_update, if_neg hpath, if_neg hpath]
    · rw [if_neg hother]
  change (resources.foci (resources.update ((vmInterfaces other).update h) doc)).flatMap (vmInterfaces path).foci =
    (resources.foci doc).flatMap (vmInterfaces path).foci
  rw [resources.foci_update, List.flatMap_map]
  exact List.flatMap_congr (fun resource _ => hresource resource)

/-- The value after the migration up, and the one after the migration down of a list with elements. -/
def listOf (v : PyValue) : PyValue :=
  (entriesOf v).elim v (fun _ => .list [v])

def firstOf : PyValue → PyValue
  | .list (first :: _) => first
  | v => v

theorem listOf_listOf (v : PyValue) : listOf (listOf v) = listOf v := by
  cases v <;> rfl

theorem upgradeValue_ok (hid : (PyDict.get? doc "id").isSome) (v : PyValue) :
    upgradeValue doc v = .ok (listOf v) := by
  obtain ⟨id, hid⟩ := Option.isSome_iff_exists.1 hid
  cases v with
  | dict d =>
    rw [upgradeValue, PyDict.getItem, hid]
    rfl
  | _ => rfl

theorem downgradeValue_listOf (hid : (PyDict.get? doc "id").isSome) (hv : IsDict v) :
    downgradeValue doc (listOf v) = .ok (firstOf (listOf v)) := by
  obtain ⟨id, hid⟩ := Option.isSome_iff_exists.1 hid
  obtain ⟨d, rfl⟩ := hv
  change downgradeValue doc (.list [.dict d]) = _
  rw [downgradeValue, PyDict.getItem, hid]
  rfl

theorem migrateDocument_ok {edit : PyDict → PyValue → Except PyError PyValue} 
    (hid : (PyDict.get? doc "_id").isSome)
    (hfits : (documentInterfaces vmResourcePath).Fits doc)
    (hedit : ∀ v ∈ interfaces vmResourcePath doc, edit doc v = .ok (h v)) :
    migrateDocument edit doc = .ok ((documentInterfaces vmResourcePath).update h doc) := by
  rw [migrateDocument, (documentInterfaces vmResourcePath).edit_ok hfits hedit]
  rw [← get?_update (by decide) vmResourcePath h doc] at hid
  obtain ⟨id, hid⟩ := Option.isSome_iff_exists.1 hid
  change (PyDict.getItem _ "_id" >>= fun _ => _) = _
  rw [PyDict.getItem, hid]
  rfl

theorem migrateFrom_ok {edit : PyDict → PyValue → Except PyError PyValue} 
    (h : ∀ doc ∈ docs, migrateDocument edit doc = .ok (u doc)) :
    migrateFrom edit docs = .ok () (docs.map u) := by
  induction docs with
  | nil => rfl
  | cons doc docs ih =>
    have hrest := ih (fun d hd => h d (List.mem_cons_of_mem doc hd))
    rw [migrateFrom, h doc List.mem_cons_self, hrest]
    rfl

theorem masked_migrateDocument {edit : PyDict → PyValue → Except PyError PyValue} 
    (h : migrateDocument edit doc = .ok doc') : masked doc' = masked doc := by
  obtain ⟨edited, hedited, hrest⟩ := except_bind_ok.1 h
  obtain ⟨id, -, hdone⟩ := except_bind_ok.1 hrest
  cases hdone
  exact (documentInterfaces vmResourcePath).edit_update hedited (fun _ _ _ => rfl)

/-- Whether it returns or raises, a migration changes nothing else. -/
theorem masked_migrateFrom (edit : PyDict → PyValue → Except PyError PyValue) (docs : List PyDict) :
    (finalState (migrateFrom edit docs)).map masked = docs.map masked := by
  induction docs with
  | nil => rfl
  | cons doc docs ih =>
    rw [migrateFrom]
    cases hdoc : migrateDocument edit doc with
    | error e => rfl
    | ok edited =>
      cases hrest : migrateFrom edit docs with
      | error e rest =>
        rw [hrest] at ih
        simp only [finalState_error, List.map_cons, masked_migrateDocument hdoc] at ih ⊢
        rw [ih]
      | ok u rest =>
        rw [hrest] at ih
        simp only [finalState_ok, List.map_cons, masked_migrateDocument hdoc] at ih ⊢
        rw [ih]

theorem vmPath_vmResourcePath : VmPath vmResourcePath :=
  ⟨"blueprints_ng.resources", by decide⟩

def upgraded (doc : PyDict) : PyDict :=
  (documentInterfaces vmResourcePath).update listOf doc

theorem upgrade_ok {docs : List PyDict} (h : ∀ doc ∈ docs, Blueprint doc) : upgrade.run docs = .ok () (docs.map upgraded) := by
  apply migrateFrom_ok
  intro doc hdoc
  apply migrateDocument_ok (h doc hdoc).mongoId ((h doc hdoc).fits_interfaces vmPath_vmResourcePath)
  intro v hv
  exact upgradeValue_ok (h doc hdoc).id v

theorem upgrade_upgraded {docs : List PyDict} (h : ∀ doc ∈ docs, Blueprint doc) :
    upgrade.run (docs.map upgraded) = .ok () (docs.map upgraded) := by
  have hagain : ∀ doc ∈ docs.map upgraded, migrateDocument upgradeValue doc = .ok (upgraded doc) := by
    intro doc' hdoc'
    obtain ⟨doc, hdoc, rfl⟩ := List.mem_map.1 hdoc'
    have hid : (PyDict.get? (upgraded doc) "id").isSome := by
      rw [upgraded, get?_update (by decide)]
      exact (h doc hdoc).id
    have hmongo : (PyDict.get? (upgraded doc) "_id").isSome := by
      rw [upgraded, get?_update (by decide)]
      exact (h doc hdoc).mongoId
    apply migrateDocument_ok hmongo
    · exact (documentInterfaces vmResourcePath).fits_update _ ((h doc hdoc).fits_interfaces vmPath_vmResourcePath)
    · intro v hv
      exact upgradeValue_ok hid v
  have hsame : (docs.map upgraded).map upgraded = docs.map upgraded := by
    rw [List.map_map]
    apply List.map_congr_left
    intro doc hdoc
    change (documentInterfaces vmResourcePath).update listOf ((documentInterfaces vmResourcePath).update listOf doc) = _
    rw [Traversal.update_update, upgraded]
    exact (documentInterfaces vmResourcePath).update_congr (fun v _ => listOf_listOf v)
  exact (migrateFrom_ok hagain).trans (congrArg _ hsame)

theorem downgrade_upgraded {docs : List PyDict} (h : ∀ doc ∈ docs, Blueprint doc)
    (hdicts : ∀ doc ∈ docs, ∀ v ∈ interfaces vmResourcePath doc, IsDict v) :
    downgrade.run (docs.map upgraded) = .ok () docs := by
  have hback : ∀ doc ∈ docs.map upgraded, migrateDocument downgradeValue doc =
      .ok ((documentInterfaces vmResourcePath).update firstOf doc) := by
    intro doc' hdoc'
    obtain ⟨doc, hdoc, rfl⟩ := List.mem_map.1 hdoc'
    have hid : (PyDict.get? (upgraded doc) "id").isSome := by
      rw [upgraded, get?_update (by decide)]
      exact (h doc hdoc).id
    have hmongo : (PyDict.get? (upgraded doc) "_id").isSome := by
      rw [upgraded, get?_update (by decide)]
      exact (h doc hdoc).mongoId
    apply migrateDocument_ok hmongo
    · exact (documentInterfaces vmResourcePath).fits_update _ ((h doc hdoc).fits_interfaces vmPath_vmResourcePath)
    · intro v' hv'
      rw [interfaces, upgraded, Traversal.foci_update] at hv'
      obtain ⟨v, hv, rfl⟩ := List.mem_map.1 hv'
      exact downgradeValue_listOf hid (hdicts doc hdoc v hv)
  have hsame : (docs.map upgraded).map ((documentInterfaces vmResourcePath).update firstOf) = docs := by
    rw [List.map_map]
    apply (List.map_congr_left _).trans (List.map_id docs)
    intro doc hdoc
    change (documentInterfaces vmResourcePath).update firstOf ((documentInterfaces vmResourcePath).update listOf doc) = doc
    rw [Traversal.update_update]
    apply Traversal.update_self
    intro v hv
    obtain ⟨d, rfl⟩ := hdicts doc hdoc v hv
    rfl
  exact (migrateFrom_ok hback).trans (congrArg _ hsame)

theorem listed_upgraded (h : Blueprint doc) (hpath : VmPath path) (hv : v ∈ interfaces path (upgraded doc)) :
    IsList v ∨ path ≠ vmResourcePath ∧ v ∈ interfaces path doc := by
  by_cases hsame : path = vmResourcePath
  · left
    subst hsame
    rw [interfaces, upgraded, Traversal.foci_update] at hv
    obtain ⟨w, hw, rfl⟩ := List.mem_map.1 hv
    rcases h.kind hpath hw with ⟨d, rfl⟩ | ⟨items, rfl⟩
    · exact ⟨[.dict d], rfl⟩
    · exact ⟨items, rfl⟩
  · right
    rw [upgraded, interfaces_update hsame] at hv
    exact ⟨hsame, hv⟩

/-- Only the resources recorded under the old module path are migrated. -/
theorem migrates_iff (h : ∀ doc ∈ docs, Blueprint doc) :
    Migrates docs ↔
      ∀ doc ∈ docs, ∀ path, VmPath path → path ≠ vmResourcePath → ∀ v ∈ interfaces path doc, IsList v := by
  constructor
  · intro hmigrates doc hdoc path hpath hne v hv
    obtain ⟨docs', hrun, hlisted⟩ := hmigrates.listed
    cases (upgrade_ok h).symm.trans hrun
    apply hlisted (upgraded doc) (List.mem_map_of_mem hdoc) path hpath
    rw [upgraded, interfaces_update hne]
    exact hv
  · intro hothers
    constructor
    · intro docs' hrun
      cases (upgrade_ok h).symm.trans hrun
      exact upgrade_upgraded h
    · refine ⟨docs.map upgraded, upgrade_ok h, ?_⟩
      intro doc' hdoc' path hpath v hv
      obtain ⟨doc, hdoc, rfl⟩ := List.mem_map.1 hdoc'
      rcases listed_upgraded (h doc hdoc) hpath hv with hlist | ⟨hne, hv⟩
      · exact hlist
      · exact hothers doc hdoc path hpath hne v hv
    · intro hdicts docs' hrun
      cases (upgrade_ok h).symm.trans hrun
      exact downgrade_upgraded h (fun doc hdoc => hdicts doc hdoc vmResourcePath vmPath_vmResourcePath)
    · exact ⟨masked_migrateFrom _ docs, masked_migrateFrom _ docs⟩

/-- A blueprint with one VM on one network. -/
def oneVm (path : String) (netRes : PyValue) : PyDict :=
  [(.str "_id", .str "6630f1"), (.str "id", .str "ABCDEF"),
    (.str "registered_resources", .dict [(.str "vm", .dict [(.str "type", .str path),
      (.str "value", .dict [(.str "network_interfaces", .dict [(.str "mgmt", netRes)])])])])]

def mgmtInterface : PyValue :=
  .dict [(.str "fixed", .dict [(.str "ip", .str "10.0.0.7")]), (.str "floating", .none)]

theorem resources_oneVm (path : String) (netRes : PyValue) :
    resources.foci (oneVm path netRes) = [[(.str "type", .str path),
      (.str "value", .dict [(.str "network_interfaces", .dict [(.str "mgmt", netRes)])])]] := rfl

theorem blueprint_oneVm (path : String) (hv : IsDict netRes ∨ IsList netRes) : Blueprint (oneVm path netRes) := by
  refine ⟨rfl, rfl, ⟨rfl, ?_⟩, ?_⟩
  · intro v hv
    cases List.mem_singleton.1 hv
    refine ⟨rfl, ?_⟩
    intro d hd
    cases List.mem_singleton.1 hd
    refine ⟨trivial, ?_⟩
    intro resource hresource
    cases List.mem_singleton.1 hresource
    rfl
  · rw [resources_oneVm]
    intro resource hresource
    cases List.mem_singleton.1 hresource
    refine ⟨⟨path, rfl⟩, ?_⟩
    intro path' hpath htype
    refine ⟨⟨rfl, ?_⟩, ?_⟩
    · intro v hvalue
      cases List.mem_singleton.1 hvalue
      refine ⟨rfl, ?_⟩
      intro d hd
      cases List.mem_singleton.1 hd
      refine ⟨rfl, ?_⟩
      intro nets hnets
      cases List.mem_singleton.1 hnets
      refine ⟨rfl, ?_⟩
      intro d' hd'
      trivial
    · intro v hvalue
      cases List.mem_singleton.1 hvalue
      exact hv

theorem migrates_oneVm : Migrates [oneVm vmResourcePath mgmtInterface] := by
  refine (migrates_iff ?_).2 ?_
  · intro doc hdoc
    cases List.mem_singleton.1 hdoc
    exact blueprint_oneVm _ (.inl ⟨_, rfl⟩)
  · intro doc hdoc path hpath hne v hv
    cases List.mem_singleton.1 hdoc
    obtain ⟨resource, hresource, htype, -⟩ := mem_interfaces hv
    rw [resources_oneVm] at hresource
    cases List.mem_singleton.1 hresource
    cases htype
    exact absurd rfl hne

/-- The interfaces of a VM recorded under the module path of today stay single dictionaries. -/
theorem migrates_fails : ¬ Migrates [oneVm "nfvcl.blueprints_ng.resources.VmResource" mgmtInterface] := by
  intro h
  have hblueprint : ∀ doc ∈ [oneVm "nfvcl.blueprints_ng.resources.VmResource" mgmtInterface], Blueprint doc := by
    intro doc hdoc
    cases List.mem_singleton.1 hdoc
    exact blueprint_oneVm _ (.inl ⟨_, rfl⟩)
  obtain ⟨docs', hrun, hlisted⟩ := h.listed
  cases (upgrade_ok hblueprint).symm.trans hrun
  have hlist := hlisted _ (List.mem_singleton.2 rfl) "nfvcl.blueprints_ng.resources.VmResource"
    ⟨"nfvcl.blueprints_ng.resources", by decide⟩ mgmtInterface (by
      rw [upgraded, interfaces_update (by decide)]
      exact List.mem_singleton.2 rfl)
  obtain ⟨items, hitems⟩ := hlist
  cases hitems

end Nfvcl.Migration001
