import Nfvcl.UeransimSims

namespace Nfvcl
set_option autoImplicit true
open Effects Playbooks UeransimUEConfigurator

/-- What becomes of playbooks that do not succeed, by the number of the step. -/
structure UePlaybooks where
  completed : Nat → Nat
  torn : Nat → SimService → SimService

/-- A UERANSIM blueprint and the playbooks that were run on the VMs of its UEs. -/
structure UeransimWorld where
  blueprint : UeransimBlueprint := {}
  playbooks : List SimPlaybook := []

abbrev UeransimWorldM := EStateM PyError UeransimWorld

namespace UeransimWorld

def playbooksOf (s : UeransimWorld) (configurator : Nat) : List SimPlaybook :=
  s.playbooks.filter (fun r => decide (r.configurator.id = configurator))

/-- The services of the VM of a UE. -/
def services (s : UeransimWorld) (configurator : Nat) : String → SimService :=
  SimPlaybook.services (s.playbooksOf configurator)

def onBlueprint (m : UeransimM α) : UeransimWorldM α :=
  zoom UeransimWorld.blueprint (fun b s => { s with blueprint := b }) m

section Calls

variable (w : UeransimServices) (v : UePlaybooks) (id : String)

def configureUe (configurator : UeransimUEConfigurator) : UeransimWorldM Unit := do
  modify (fun s => { s with playbooks := s.playbooks ++
    [⟨configurator, (w.raises s.blueprint.steps).isNone, v.completed s.blueprint.steps, v.torn s.blueprint.steps⟩] })
  onBlueprint (UeransimBlueprint.configureUe w configurator)

def createUe (areaId : String) (ue : UeransimUe) : UeransimWorldM Unit := do
  match (← onBlueprint get).area areaId with
  | none => throw (.blueprintNG s!"Gnb in area {areaId} not found")
  | some blueUeransimArea =>
    let areaNumber ← onBlueprint (UeransimBlueprint.parsedArea areaId)
    let vmId ← onBlueprint UeransimBlueprint.newId
    let vmUe : UeransimVm := ⟨areaNumber, s!"{id}_{areaId}_UE_{UeransimBlueprint.ueText ue.id}", vmId⟩
    onBlueprint (UeransimBlueprint.registerResource w (.vm vmUe))
    onBlueprint (UeransimBlueprint.attempt w)
    let address ← onBlueprint (UeransimBlueprint.interfaceAddress w blueUeransimArea.vmGnb (UeransimBlueprint.radioNetworkName id areaId))
    match ue.sims with
    | none => throw (.typeError "'NoneType' object is not iterable")
    | some sims =>
      let configuratorId ← onBlueprint UeransimBlueprint.newId
      let configurator : UeransimUEConfigurator := { vmResource := vmUe, sims, gnbSearchList := [address.ip], id := configuratorId }
      onBlueprint (UeransimBlueprint.registerResource w (.ueConfigurator configurator))
      configureUe w v configurator
      onBlueprint (modify (fun s => s.putArea areaId { blueUeransimArea with
        ues := blueUeransimArea.ues ++ [⟨UeransimBlueprint.ueText ue.id, vmUe, configurator⟩] }))

def createArea (area : UeransimArea) : UeransimWorldM Unit := do
  onBlueprint (UeransimBlueprint.createGnb w id (toString area.id))
  forM area.ues (createUe w v id (toString area.id))

/-- The configurator changes, and its playbook is run. -/
def reconfigureUe (configurator : UeransimUEConfigurator) : UeransimWorldM Unit := do
  onBlueprint (modify (fun s => s.write configurator))
  configureUe w v configurator

def addSimToUe (ueId : Int) (newSim : UeransimSim) (ue : BlueUeransimUe) : UeransimWorldM Unit := do
  if ue.ueId = toString ueId then
    if ue.vmUeConfigurator.sims.any (fun sim => decide (sim.imsi = newSim.imsi)) then
      throw (.blueprintNG s!"Sim {newSim.imsi} already exists")
    reconfigureUe w v { ue.vmUeConfigurator with sims := ue.vmUeConfigurator.sims ++ [newSim] }

def addSim (areaId : String) (ueId : Int) (newSim : UeransimSim) : UeransimWorldM Unit := do
  match (← onBlueprint get).area areaId with
  | none => throw (.keyError areaId)
  | some area => forM area.ues (addSimToUe w v ueId newSim)

def delSim (areaId : String) (ueId : Int) (imsi : String) : UeransimWorldM Unit := do
  match (← onBlueprint get).area areaId with
  | none => throw (.keyError areaId)
  | some area =>
    match area.ues.find? (fun ue => decide (ue.ueId = toString ueId)) with
    | none => pure ()
    | some ue =>
      match ue.vmUeConfigurator.sims.find? (fun sim => decide (sim.imsi = imsi)) with
      | none => throw (.blueprintNG s!"Sim with imsi {imsi} does not exist")
      | some sim =>
        reconfigureUe w v { ue.vmUeConfigurator with
          simsToDelete := ue.vmUeConfigurator.simsToDelete ++ [sim]
          sims := ue.vmUeConfigurator.sims.erase sim }

variable (endpoints : UeransimNetworkEndpoints)

def exec : UeransimCall → UeransimWorldM Unit
  | .create areas => forM areas (createArea w v id)
  | .addUe areaId ue => createUe w v id areaId ue
  | .addSim areaId ueId sim => addSim w v areaId ueId sim
  | .delSim areaId ueId imsi => delSim w v areaId ueId imsi
  | call => onBlueprint (call.exec w id endpoints)

end Calls

/-! ### The blueprint takes no notice of the VMs -/

section Projected

variable {w : UeransimServices} {v : UePlaybooks} {id : String}

theorem projects_onBlueprint (m : UeransimM α) : Projects UeransimWorld.blueprint (onBlueprint m) m :=
  Projects.zoom (fun _ _ => rfl) m

theorem projects_throw (e : PyError) : Projects UeransimWorld.blueprint (throw e : UeransimWorldM α) (throw e) :=
  fun _ => rfl

theorem configureUe_projects (configurator : UeransimUEConfigurator) :
    Projects UeransimWorld.blueprint (configureUe w v configurator) (UeransimBlueprint.configureUe w configurator) :=
  Projects.modify_bind (fun _ => rfl) (projects_onBlueprint _)

theorem createUe_projects (areaId : String) (ue : UeransimUe) :
    Projects UeransimWorld.blueprint (createUe w v id areaId ue) (UeransimBlueprint.createUe w id areaId ue) := by
  apply (projects_onBlueprint _).bind
  intro b
  cases b.area areaId with
  | none => exact projects_throw _
  | some area =>
    apply (projects_onBlueprint _).bind
    intro areaNumber
    apply (projects_onBlueprint _).bind
    intro vmId
    apply (projects_onBlueprint _).bind
    intro _
    apply (projects_onBlueprint _).bind
    intro _
    apply (projects_onBlueprint _).bind
    intro address
    cases ue.sims with
    | none => exact projects_throw _
    | some sims =>
      apply (projects_onBlueprint _).bind
      intro configuratorId
      apply (projects_onBlueprint _).bind
      intro _
      apply (configureUe_projects _).bind
      intro _
      exact projects_onBlueprint _

theorem reconfigureUe_projects (configurator : UeransimUEConfigurator) :
    Projects UeransimWorld.blueprint (reconfigureUe w v configurator)
      (do modify (fun s => s.write configurator); UeransimBlueprint.configureUe w configurator) :=
  (projects_onBlueprint _).bind (fun _ => configureUe_projects configurator)

theorem addSim_projects (areaId : String) (ueId : Int) (newSim : UeransimSim) :
    Projects UeransimWorld.blueprint (addSim w v areaId ueId newSim) (UeransimBlueprint.addSim w areaId ueId newSim) := by
  apply (projects_onBlueprint _).bind
  intro b
  cases b.area areaId with
  | none => exact projects_throw _
  | some area =>
    refine Projects.forM ?_ area.ues
    intro ue
    apply Projects.ite
    · apply Projects.ite
      · exact projects_throw _
      · exact reconfigureUe_projects _
    · exact Projects.pure ()

theorem delSim_projects (areaId : String) (ueId : Int) (imsi : String) :
    Projects UeransimWorld.blueprint (delSim w v areaId ueId imsi) (UeransimBlueprint.delSim w areaId ueId imsi) := by
  apply (projects_onBlueprint _).bind
  intro b
  cases b.area areaId with
  | none => exact projects_throw _
  | some area =>
    dsimp only
    cases area.ues.find? (fun ue => decide (ue.ueId = toString ueId)) with
    | none => exact Projects.pure ()
    | some ue =>
      dsimp only
      cases ue.vmUeConfigurator.sims.find? (fun sim => decide (sim.imsi = imsi)) with
      | none => exact projects_throw _
      | some sim => exact reconfigureUe_projects _

/-- The requests do to the blueprint what they do without the VMs. -/
theorem exec_projects (endpoints : UeransimNetworkEndpoints) (call : UeransimCall) :
    Projects UeransimWorld.blueprint (exec w v id endpoints call) (call.exec w id endpoints) := by
  cases call with
  | create areas =>
    apply Projects.forM
    intro area
    exact (projects_onBlueprint _).bind (fun _ => Projects.forM (createUe_projects _) area.ues)
  | addUe areaId ue => exact createUe_projects areaId ue
  | addSim areaId ueId sim => exact addSim_projects areaId ueId sim
  | delSim areaId ueId imsi => exact delSim_projects areaId ueId imsi
  | _ => exact projects_onBlueprint _

end Projected

end UeransimWorld

end Nfvcl
