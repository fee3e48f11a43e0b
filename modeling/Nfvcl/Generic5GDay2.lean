import Mathlib.Data.List.Basic
import Nfvcl.Effects
import Nfvcl.PyInt
import Nfvcl.Core5GModels

namespace Nfvcl
set_option autoImplicit true
open Effects

/-- The state of a 5G blueprint: the configuration, and whatever else the blueprint keeps. -/
structure Generic5GState (ρ : Type) where
  currentConfig : Option Create5gModel
  rest : ρ
  deriving DecidableEq, Repr

/-- The requests of the generic day2 operations. -/
inductive Day2Op where
  | addUes (subscriberModel : SubSubscribers)
  | delUes (imsi : String)
  | addDnn (dnnModel : SubDataNets)
  | delDnn (dnn : String)
  | addSliceOss (addSliceModel : Core5GAddSliceModel)
  | addSliceOperator (addSliceModel : Core5GAddSliceModel)
  | delSlice (sliceId : String)
  | addTac (addAreaModel : SubArea)
  | delTac (areaId : Int)
  deriving DecidableEq, Repr

namespace Create5gModel

def setSubscribers (c : Create5gModel) (subscribers : List SubSubscribers) : Create5gModel :=
  { c with config := { c.config with subscribers := subscribers } }

def setDataNets (c : Create5gModel) (dataNets : List SubDataNets) : Create5gModel :=
  { c with config := { c.config with
      networkEndpoints := { c.config.networkEndpoints with dataNets := dataNets } } }

def setSliceProfiles (c : Create5gModel) (profiles : Option (List SubSliceProfiles)) : Create5gModel :=
  { c with config := { c.config with sliceProfiles := profiles } }

def setAreas (c : Create5gModel) (areas : List SubArea) : Create5gModel :=
  { c with areas := areas }

/-! ### What the operations ask of the configuration before they change it -/

/-- One known slice is enough. -/
def checkAddUes (m : SubSubscribers) (c : Create5gModel) : Except PyError Unit := do
  if c.config.subscribers.any (fun subscriber => decide (subscriber.imsi = m.imsi)) then
    throw (.blueprintNG s!"Subscriber with {m.imsi} already exist")
  let subscriberSliceIdds := m.snssai.map SubSnssai.sliceId
  let profiles ← iterate c.config.sliceProfiles
  if (profiles.filter (fun x => decide (x.sliceId ∈ subscriberSliceIdds))).length = 0 then
    throw (.blueprintNG s!"One or more slices of Subscriber with {m.imsi} does not exist")

def checkDelUes (imsi : String) (c : Create5gModel) : Except PyError Unit :=
  if c.config.subscribers.any (fun subscriber => decide (subscriber.imsi = imsi)) then .ok ()
  else .error (.blueprintNG s!"Subscriber {imsi} not found")

def checkAddDnn (m : SubDataNets) (c : Create5gModel) : Except PyError Unit :=
  if c.config.networkEndpoints.dataNets.any (fun dnn => decide (dnn.dnn = m.dnn)) then
    .error (.blueprintNG s!"DNN {m.dnn} already exist")
  else .ok ()

def checkDelDnn (dnn : String) (c : Create5gModel) : Except PyError Unit := do
  if !c.config.networkEndpoints.dataNets.any (fun d => decide (d.dnn = dnn)) then
    throw (.blueprintNG s!"DNN {dnn} not found")
  let profiles ← iterate c.config.sliceProfiles
  match profiles.find? (fun slice => decide (dnn ∈ slice.dnnList)) with
  | some slice => throw (.blueprintNG s!"DNN {dnn} present in slice {slice.sliceId}")
  | none => return

def checkAddTac (m : SubArea) (c : Create5gModel) : Except PyError Unit :=
  if (c.getArea m.id).isSome then .error (.blueprintNG s!"Area {m.id} already exist") else .ok ()

def checkDelTac (areaId : Int) (c : Create5gModel) : Except PyError Unit :=
  if (c.getArea areaId).isSome then .ok () else .error (.blueprintNG s!"Area {areaId} not found")

/-! ### Slices -/

/-- A check that only reads the configuration. -/
def checking (check : Create5gModel → Except PyError Unit) : EStateM PyError Create5gModel Unit := do
  match check (← get) with
  | .ok _ => pure ()
  | .error e => throw e

theorem checking_run (check : Create5gModel → Except PyError Unit) (c : Create5gModel) :
    (checking check).run c =
      match check c with
      | .ok _ => .ok () c
      | .error e => .error e c := by
  simp only [checking, EStateM.run_bind, EStateM.run_get]
  cases check c <;> rfl

/-- The areas with a slice added to the one that `get_area` finds. -/
def addSliceIn (item : SubSlices) (areaId : Int) : List SubArea → List SubArea
  | [] => []
  | area :: areas =>
    if area.id = areaId then { area with slices := area.slices.map (fun slices => slices ++ [item]) } :: areas
    else area :: addSliceIn item areaId areas

/-- `get_area(...).slices.append(...)`. -/
def appendSlice (item : SubSlices) (areaId : Int) : EStateM PyError Create5gModel Unit := do
  let c ← get
  match c.getArea areaId with
  | none => throw (.attributeError "'NoneType' object has no attribute 'slices'")
  | some area =>
    match area.slices with
    | none => throw (.attributeError "'NoneType' object has no attribute 'append'")
    | some _ => set (c.setAreas (addSliceIn item areaId c.areas))

def appendSliceTo (item : SubSlices) (id : String) : EStateM PyError Create5gModel Unit :=
  match PyInt.parse id with
  | .error e => throw e
  | .ok areaId => appendSlice item areaId

/-- The first loop over `area_ids`: every area has to exist. -/
def checkAreaId (c : Create5gModel) (id : String) : Except PyError Unit := do
  let areaId ← PyInt.parse id
  if (c.getArea areaId).isNone then
    throw (.blueprintNG s!"Unable to add slice: area '{id}' does not exist")

def checkAddSlice (m : Core5GAddSliceModel) (oss : Bool) (c : Create5gModel) : Except PyError Unit := do
  let profiles ← match c.config.sliceProfiles with
    | some profiles => pure profiles
    | none => throw (.attributeError "'NoneType' object has no attribute 'append'")
  (c.setSliceProfiles (some (profiles ++ [m.toSubSliceProfiles]))).configurationFeasibilityCheck
  if profiles.any (fun subSlice => decide (subSlice.sliceId = m.sliceId)) then
    throw (.blueprintNG s!"Slice {m.sliceId} already exist")
  if oss ∧ m.areaIds.getD [] = [] then
    throw (.blueprintNG "In OSS mode 'area_ids' need to be specified")
  (m.areaIds.getD []).forM c.checkAreaId

def day2AddSliceGeneric (m : Core5GAddSliceModel) (oss : Bool) : EStateM PyError Create5gModel Unit := do
  checking (checkAddSlice m oss)
  -- `area_ids == "*"` compares a list with a string and never holds, so there is one branch
  forM (m.areaIds.getD []) (appendSliceTo ⟨m.sliceType, m.sliceId⟩)
  modify (fun c => c.setSliceProfiles
    (c.config.sliceProfiles.map (fun profiles => profiles ++ [m.toSubSliceProfiles])))

/-- The loop of `day2_del_slice` over the areas. -/
def delSliceFromAreas (sliceId : String) : List SubArea → Except PyError Unit × List SubArea
  | [] => (.ok (), [])
  | area :: areas =>
    match iterate area.slices with
    | .error e => (.error e, area :: areas)
    | .ok slices =>
      let (result, rest) := delSliceFromAreas sliceId areas
      (result, { area with slices := some (slices.filter (fun x => decide (x.sliceId ≠ sliceId))) } :: rest)

def removeSlice (sliceId : String) : EStateM PyError Create5gModel Unit := do
  let c ← get
  let (result, areas) := delSliceFromAreas sliceId c.areas
  set (c.setAreas areas)
  match result with
  | .error e => throw e
  | .ok _ =>
    match iterate c.config.sliceProfiles with
    | .error e => throw e
    | .ok profiles =>
      modify (fun c => c.setSliceProfiles (some (profiles.filter (fun x => decide (x.sliceId ≠ sliceId)))))

end Create5gModel

namespace Generic5G

variable {ρ : Type}

/-- `self.state.current_config.attr`: without a configuration the attribute access raises. -/
def onConfig (attr : String) (m : EStateM PyError Create5gModel α) : EStateM PyError (Generic5GState ρ) α := fun s =>
  match s.currentConfig with
  | none => .error (.attributeError s!"'NoneType' object has no attribute '{attr}'") s
  | some c =>
    match m.run c with
    | .ok a c' => .ok a { s with currentConfig := some c' }
    | .error e c' => .error e { s with currentConfig := some c' }

/-- `except Exception as e: self.state.current_config = backup_config; raise e`. -/
def restoring (backup : Option Create5gModel) (m : EStateM PyError (Generic5GState ρ) Unit) :
    EStateM PyError (Generic5GState ρ) Unit :=
  tryCatch m (fun e => do
    modify (fun s => { s with currentConfig := backup })
    throw e)

/-- The checks, the copy of the configuration, the change and the hook, in the order most
operations have them. -/
def changeConfig (attr : String) (check : Create5gModel → Except PyError Unit)
    (change : Create5gModel → Create5gModel) (hook : EStateM PyError (Generic5GState ρ) Unit) :
    EStateM PyError (Generic5GState ρ) Unit := do
  onConfig attr (Create5gModel.checking check)
  let backup := (← get).currentConfig
  onConfig attr (modify change)
  restoring backup hook

section Operations

variable (hook : EStateM PyError (Generic5GState ρ) Unit)

def day2AddUes (m : SubSubscribers) : EStateM PyError (Generic5GState ρ) Unit :=
  changeConfig "config" (Create5gModel.checkAddUes m)
    (fun c => c.setSubscribers (c.config.subscribers ++ [m])) hook

def day2DelUes (imsi : String) : EStateM PyError (Generic5GState ρ) Unit :=
  changeConfig "config" (Create5gModel.checkDelUes imsi)
    (fun c => c.setSubscribers (c.config.subscribers.filter (fun x => decide (x.imsi ≠ imsi)))) hook

def day2AddDnn (m : SubDataNets) : EStateM PyError (Generic5GState ρ) Unit :=
  changeConfig "config" (Create5gModel.checkAddDnn m)
    (fun c => c.setDataNets (c.config.networkEndpoints.dataNets ++ [m])) hook

def day2DelDnn (dnn : String) : EStateM PyError (Generic5GState ρ) Unit :=
  changeConfig "config" (Create5gModel.checkDelDnn dnn)
    (fun c => c.setDataNets (c.config.networkEndpoints.dataNets.filter (fun x => decide (x.dnn ≠ dnn)))) hook

/-- `day2_add_slice_oss` and `day2_add_slice_operator`: everything is inside the `try`. -/
def day2AddSlice (m : Core5GAddSliceModel) (oss : Bool) : EStateM PyError (Generic5GState ρ) Unit := do
  let backup := (← get).currentConfig
  restoring backup (do
    onConfig "config" (Create5gModel.day2AddSliceGeneric m oss)
    hook)

def day2AddSliceOss (m : Core5GAddSliceModel) : EStateM PyError (Generic5GState ρ) Unit :=
  day2AddSlice hook m true

def day2AddSliceOperator (m : Core5GAddSliceModel) : EStateM PyError (Generic5GState ρ) Unit :=
  day2AddSlice hook m false

/-- The configuration is changed before the `try`. -/
def day2DelSlice (sliceId : String) : EStateM PyError (Generic5GState ρ) Unit := do
  let backup := (← get).currentConfig
  onConfig "areas" (Create5gModel.removeSlice sliceId)
  restoring backup hook

def day2AddTac (m : SubArea) : EStateM PyError (Generic5GState ρ) Unit :=
  changeConfig "get_area" (Create5gModel.checkAddTac m) (fun c => c.setAreas (c.areas ++ [m])) hook

def day2DelTac (areaId : Int) : EStateM PyError (Generic5GState ρ) Unit :=
  changeConfig "get_area" (Create5gModel.checkDelTac areaId)
    (fun c => c.setAreas (c.areas.filter (fun x => decide (x.id ≠ areaId)))) hook

end Operations

section Runs

variable {hook : EStateM PyError (Generic5GState ρ) Unit}

@[simp] theorem onConfig_run (attr : String) (m : EStateM PyError Create5gModel α) (c : Create5gModel) (r : ρ) :
    (onConfig attr m).run ⟨some c, r⟩ =
      match m.run c with
      | .ok a c' => .ok a ⟨some c', r⟩
      | .error e c' => .error e ⟨some c', r⟩ := by
  change onConfig attr m ⟨some c, r⟩ = _
  cases h : m.run c <;> simp only [onConfig, h]

theorem restoring_run (backup : Option Create5gModel) (s : Generic5GState ρ) :
    (restoring backup hook).run s =
      match hook.run s with
      | .ok u s' => .ok u s'
      | .error e s' => .error e ⟨backup, s'.rest⟩ := by
  rw [restoring, run_tryCatch]
  cases hook.run s <;> rfl

theorem changeConfig_run (attr : String) (check : Create5gModel → Except PyError Unit)
    (change : Create5gModel → Create5gModel) (c : Create5gModel) (r : ρ) :
    (changeConfig attr check change hook).run ⟨some c, r⟩ =
      match check c with
      | .error e => .error e ⟨some c, r⟩
      | .ok _ => (restoring (some c) hook).run ⟨some (change c), r⟩ := by
  rw [changeConfig, EStateM.run_bind, onConfig_run, Create5gModel.checking_run]
  cases check c <;> rfl

theorem changeConfig_run_none (attr : String) (check : Create5gModel → Except PyError Unit)
    (change : Create5gModel → Create5gModel) (r : ρ) :
    (changeConfig attr check change hook).run ⟨none, r⟩ =
      .error (.attributeError s!"'NoneType' object has no attribute '{attr}'") ⟨none, r⟩ := rfl

theorem day2AddSlice_run (m : Core5GAddSliceModel) (oss : Bool) (c : Create5gModel) (r : ρ) :
    (day2AddSlice hook m oss).run ⟨some c, r⟩ =
      match (Create5gModel.day2AddSliceGeneric m oss).run c with
      | .error e _ => .error e ⟨some c, r⟩
      | .ok _ c' => (restoring (some c) hook).run ⟨some c', r⟩ := by
  change (restoring (some c) (onConfig "config" (Create5gModel.day2AddSliceGeneric m oss) >>= fun _ => hook)).run
    ⟨some c, r⟩ = _
  rw [restoring_run, EStateM.run_bind, onConfig_run]
  cases (Create5gModel.day2AddSliceGeneric m oss).run c with
  | error e c' => rfl
  | ok u c' =>
    change _ = (restoring (some c) hook).run ⟨some c', r⟩
    rw [restoring_run]

theorem day2DelSlice_run (sliceId : String) (c : Create5gModel) (r : ρ) :
    (day2DelSlice hook sliceId).run ⟨some c, r⟩ =
      match (Create5gModel.removeSlice sliceId).run c with
      | .error e c' => .error e ⟨some c', r⟩
      | .ok _ c' => (restoring (some c) hook).run ⟨some c', r⟩ := by
  change (onConfig "areas" (Create5gModel.removeSlice sliceId) >>= fun _ => restoring (some c) hook).run
    ⟨some c, r⟩ = _
  rw [EStateM.run_bind, onConfig_run]
  cases (Create5gModel.removeSlice sliceId).run c <;> rfl

end Runs

end Generic5G

/-- An operation with the hook it calls, which subclasses override. -/
def Day2Op.exec (hook : EStateM PyError (Generic5GState ρ) Unit) : Day2Op → EStateM PyError (Generic5GState ρ) Unit
  | .addUes m => Generic5G.day2AddUes hook m
  | .delUes imsi => Generic5G.day2DelUes hook imsi
  | .addDnn m => Generic5G.day2AddDnn hook m
  | .delDnn dnn => Generic5G.day2DelDnn hook dnn
  | .addSliceOss m => Generic5G.day2AddSliceOss hook m
  | .addSliceOperator m => Generic5G.day2AddSliceOperator hook m
  | .delSlice sliceId => Generic5G.day2DelSlice hook sliceId
  | .addTac m => Generic5G.day2AddTac hook m
  | .delTac areaId => Generic5G.day2DelTac hook areaId

end Nfvcl
