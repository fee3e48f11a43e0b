import Nfvcl.Projections
import Nfvcl.UeransimRegistry

namespace Nfvcl
set_option autoImplicit true
open Effects ListUpdates

/-- A UERANSIM blueprint and the VMs that its provider was asked to destroy. -/
structure UeransimDeployment where
  blueprint : UeransimBlueprint
  destroyed : List UeransimVm := []
  deriving DecidableEq

abbrev UeransimDeploymentM := EStateM PyError UeransimDeployment

namespace UeransimDeployment
open UeransimBlueprint

def onBlueprint (m : UeransimM α) : UeransimDeploymentM α :=
  zoom UeransimDeployment.blueprint (fun b s => { s with blueprint := b }) m

section Calls

variable (w : UeransimServices)

def deregisterUe (ue : BlueUeransimUe) : UeransimDeploymentM Unit := do
  modify (fun s => { s with destroyed := s.destroyed ++ [ue.vmUe] })
  onBlueprint (UeransimBlueprint.deregisterUe w ue)

def deleteListedUe (areaId : String) (ueId : Int) (ue : BlueUeransimUe) : UeransimDeploymentM Unit := do
  if ue.ueId = toString ueId then
    deregisterUe w ue
    match (← get).blueprint.area areaId with
    | none => throw (.keyError areaId)
    | some area => onBlueprint (modify (fun s => s.putArea areaId { area with ues := area.ues.erase ue }))
  else throw (.blueprintNG s!"No UE found in area {areaId} with id {ueId}")

def deleteUe (areaId : String) (ueId : Int) : UeransimDeploymentM Unit := do
  match (← get).blueprint.area areaId with
  | none => throw (.blueprintNG s!"No Gnb found in area {areaId}")
  | some area => forM area.ues (deleteListedUe w areaId ueId)

/-! ### The blueprint under the record of destroyed VMs -/

theorem projects_onBlueprint (m : UeransimM α) : Projects UeransimDeployment.blueprint (onBlueprint m) m :=
  Projects.zoom (fun _ _ => rfl) m

theorem deregisterUe_projects (ue : BlueUeransimUe) :
    Projects UeransimDeployment.blueprint (deregisterUe w ue) (UeransimBlueprint.deregisterUe w ue) :=
  Projects.modify_bind (fun _ => rfl) (projects_onBlueprint _)

theorem deleteListedUe_projects (areaId : String) (ueId : Int) (ue : BlueUeransimUe) :
    Projects UeransimDeployment.blueprint (deleteListedUe w areaId ueId ue) (UeransimBlueprint.deleteListedUe w areaId ueId ue) := by
  have hremove : Projects UeransimDeployment.blueprint
      (do
        match (← get).blueprint.area areaId with
        | none => throw (.keyError areaId)
        | some area => onBlueprint (modify (fun s => s.putArea areaId { area with ues := area.ues.erase ue })))
      (do
        match (← get).area areaId with
        | none => throw (.keyError areaId)
        | some area => modify (fun s => s.putArea areaId { area with ues := area.ues.erase ue })) := by
    intro s
    rw [EStateM.run_bind, EStateM.run_bind, EStateM.run_get, EStateM.run_get]
    dsimp only
    cases s.blueprint.area areaId with
    | none => rfl
    | some area =>
      exact projects_onBlueprint (modify (fun s : UeransimBlueprint => s.putArea areaId { area with ues := area.ues.erase ue })) s
  unfold deleteListedUe UeransimBlueprint.deleteListedUe
  apply Projects.ite
  · exact (deregisterUe_projects w ue).bind (fun _ => hremove)
  · exact fun _ => rfl

/-- The record of the destroyed VMs changes nothing else. -/
theorem deleteUe_projects (areaId : String) (ueId : Int) :
    Projects UeransimDeployment.blueprint (deleteUe w areaId ueId) (UeransimBlueprint.deleteUe w areaId ueId) := by
  intro s
  unfold deleteUe UeransimBlueprint.deleteUe
  rw [EStateM.run_bind, EStateM.run_bind, EStateM.run_get, EStateM.run_get]
  dsimp only
  cases s.blueprint.area areaId with
  | none => rfl
  | some area => exact Projects.forM (deleteListedUe_projects w areaId ueId) _ s

end Calls

/-! ### One round of the loop -/

/-- The resources of a UE. -/
def resourceIds (ue : BlueUeransimUe) : List Nat :=
  [ue.vmUe.id, ue.vmUeConfigurator.id]

def registeredIds (s : UeransimBlueprint) : List Nat :=
  s.registeredResources.map UeransimResource.id

/-- The round of a UE returns. -/
structure Removable (w : UeransimServices) (areaId : String) (ueId : Int) (s : UeransimBlueprint) (ue : BlueUeransimUe) : Prop where
  area : (s.area areaId).isSome
  listed : ue.ueId = toString ueId
  provided : w.raises s.steps = none
  vm : ue.vmUe.id ∈ registeredIds s
  configurator : ue.vmUeConfigurator.id ∈ registeredIds s
  distinct : ue.vmUe.id ≠ ue.vmUeConfigurator.id

def deregistered (s : UeransimBlueprint) (ue : BlueUeransimUe) : UeransimBlueprint :=
  { s with
    steps := s.steps + 1
    registeredResources := s.registeredResources.filter (fun r => decide (r.id ∉ resourceIds ue)) }

/-- The blueprint without a UE. -/
def without (areaId : String) (s : UeransimBlueprint) (ue : BlueUeransimUe) : UeransimBlueprint :=
  match s.area areaId with
  | none => deregistered s ue
  | some area => (deregistered s ue).putArea areaId { area with ues := area.ues.erase ue }

def removed (areaId : String) (s : UeransimDeployment) (ue : BlueUeransimUe) : UeransimDeployment :=
  ⟨without areaId s.blueprint ue, s.destroyed ++ [ue.vmUe]⟩

section Rounds

variable {w : UeransimServices} {s s' : UeransimDeployment} {b b' : UeransimBlueprint}

theorem attempt_ok_iff {u : Unit} : (attempt w).run b = .ok u b' ↔ w.raises b.steps = none ∧ b' = { b with steps := b.steps + 1 } := by
  have hrun : (attempt w).run b = (outcome (w.raises b.steps)).run { b with steps := b.steps + 1 } := rfl
  rw [hrun]
  cases w.raises b.steps with
  | none =>
    constructor
    · intro h
      cases h
      exact ⟨rfl, rfl⟩
    · rintro ⟨-, rfl⟩
      rfl
  | some e =>
    constructor
    · intro h
      cases h
    · rintro ⟨h, -⟩
      cases h

theorem deregisterResource_ok_iff {resource : Nat} {u : Unit} : (deregisterResource resource).run b = .ok u b' ↔
    resource ∈ registeredIds b ∧
      b' = { b with registeredResources := b.registeredResources.filter (fun r => decide (r.id ≠ resource)) } := by
  unfold deregisterResource
  rw [EStateM.run_bind, EStateM.run_get]
  dsimp only
  by_cases h : resource ∈ b.registeredResources.map UeransimResource.id
  · rw [if_pos h]
    constructor
    · intro hrun
      cases hrun
      exact ⟨h, rfl⟩
    · rintro ⟨-, rfl⟩
      rfl
  · rw [if_neg h]
    constructor
    · intro hrun
      cases hrun
    · rintro ⟨hin, -⟩
      exact absurd hin h

theorem mem_registeredIds_filter {p : Nat → Bool} {resource : Nat} :
    resource ∈ (b.registeredResources.filter (fun r => p r.id)).map UeransimResource.id ↔ resource ∈ registeredIds b ∧ p resource = true := by
  rw [registeredIds]
  simp only [List.mem_map, List.mem_filter]
  constructor
  · rintro ⟨r, ⟨hr, hp⟩, rfl⟩
    exact ⟨⟨r, hr, rfl⟩, hp⟩
  · rintro ⟨⟨r, hr, rfl⟩, hp⟩
    exact ⟨r, ⟨hr, hp⟩, rfl⟩

theorem deregisterUe_ok_iff {ue : BlueUeransimUe} {u : Unit} : (UeransimBlueprint.deregisterUe w ue).run b = .ok u b' ↔
    (w.raises b.steps = none ∧ ue.vmUe.id ∈ registeredIds b ∧ ue.vmUeConfigurator.id ∈ registeredIds b ∧
      ue.vmUe.id ≠ ue.vmUeConfigurator.id) ∧
      b' = deregistered b ue := by
  have hfilter : (b.registeredResources.filter (fun r => decide (r.id ≠ ue.vmUe.id))).filter
      (fun r => decide (r.id ≠ ue.vmUeConfigurator.id)) = b.registeredResources.filter (fun r => decide (r.id ∉ resourceIds ue)) := by
    rw [List.filter_filter]
    congr 1
    funext r
    simp only [resourceIds, List.mem_cons, List.not_mem_nil, or_false, not_or, Bool.decide_and]
    exact Bool.and_comm _ _
  have hmem : ue.vmUeConfigurator.id ∈ (b.registeredResources.filter (fun r => decide (r.id ≠ ue.vmUe.id))).map UeransimResource.id ↔
      ue.vmUeConfigurator.id ∈ registeredIds b ∧ ue.vmUe.id ≠ ue.vmUeConfigurator.id := by
    rw [mem_registeredIds_filter (p := fun n => decide (n ≠ ue.vmUe.id)), decide_eq_true_iff]
    exact and_congr_right (fun _ => ⟨Ne.symm, Ne.symm⟩)
  unfold UeransimBlueprint.deregisterUe
  simp only [bind_ok_iff, attempt_ok_iff, deregisterResource_ok_iff]
  constructor
  · rintro ⟨_, _, ⟨hprovided, rfl⟩, _, _, ⟨hvm, rfl⟩, hconfigurator, rfl⟩
    obtain ⟨hin, hne⟩ := hmem.1 hconfigurator
    refine ⟨⟨hprovided, hvm, hin, hne⟩, ?_⟩
    rw [deregistered, ← hfilter]
  · rintro ⟨⟨hprovided, hvm, hin, hne⟩, rfl⟩
    refine ⟨(), _, ⟨hprovided, rfl⟩, (), _, ⟨hvm, rfl⟩, hmem.2 ⟨hin, hne⟩, ?_⟩
    rw [deregistered, ← hfilter]

theorem onBlueprint_ok_iff {m : UeransimM α} {a : α} : (onBlueprint m).run s = .ok a s' ↔
    ∃ b, m.run s.blueprint = .ok a b ∧ s' = { s with blueprint := b } := by
  rw [onBlueprint, run_zoom]
  cases m.run s.blueprint with
  | ok a' b =>
    constructor
    · intro h
      cases h
      exact ⟨b, rfl, rfl⟩
    · rintro ⟨b', hb, rfl⟩
      cases hb
      rfl
  | error e b =>
    constructor
    · intro h
      cases h
    · rintro ⟨b', hb, -⟩
      cases hb

theorem deregisterUe_logged_iff {ue : BlueUeransimUe} {u : Unit} : (deregisterUe w ue).run s = .ok u s' ↔
    (w.raises s.blueprint.steps = none ∧ ue.vmUe.id ∈ registeredIds s.blueprint ∧
      ue.vmUeConfigurator.id ∈ registeredIds s.blueprint ∧ ue.vmUe.id ≠ ue.vmUeConfigurator.id) ∧
      s' = ⟨deregistered s.blueprint ue, s.destroyed ++ [ue.vmUe]⟩ := by
  have hrun : (deregisterUe w ue).run s = (onBlueprint (UeransimBlueprint.deregisterUe w ue)).run
      { s with destroyed := s.destroyed ++ [ue.vmUe] } := rfl
  rw [hrun, onBlueprint_ok_iff]
  simp only [deregisterUe_ok_iff]
  constructor
  · rintro ⟨b, ⟨hready, rfl⟩, rfl⟩
    exact ⟨hready, rfl⟩
  · rintro ⟨hready, rfl⟩
    exact ⟨_, ⟨hready, rfl⟩, rfl⟩

theorem deleteListedUe_ok_iff {areaId : String} {ueId : Int} {ue : BlueUeransimUe} {u : PUnit} :
    (deleteListedUe w areaId ueId ue).run s = .ok u s' ↔ Removable w areaId ueId s.blueprint ue ∧ s' = removed areaId s ue := by
  unfold deleteListedUe removed without
  by_cases hlisted : ue.ueId = toString ueId
  · rw [if_pos hlisted, bind_ok_iff]
    simp only [deregisterUe_logged_iff]
    cases harea : s.blueprint.area areaId with
    | none =>
      constructor
      · rintro ⟨_, _, ⟨-, rfl⟩, hget⟩
        rw [EStateM.run_bind, EStateM.run_get] at hget
        change (match s.blueprint.area areaId with
          | none => throw (.keyError areaId)
          | some area => onBlueprint (modify (fun s => s.putArea areaId { area with ues := area.ues.erase ue })) :
            UeransimDeploymentM Unit).run _ = _ at hget
        rw [harea] at hget
        cases hget
      · rintro ⟨hr, -⟩
        have hsome := hr.area
        rw [harea] at hsome
        cases hsome
    | some area =>
      have hrun : ∀ t : UeransimDeployment, t.blueprint = deregistered s.blueprint ue →
          EStateM.run (do
            match (← get).blueprint.area areaId with
            | none => throw (.keyError areaId)
            | some area => onBlueprint (modify (fun s => s.putArea areaId { area with ues := area.ues.erase ue })) :
            UeransimDeploymentM Unit) t =
          .ok () { t with blueprint := (deregistered s.blueprint ue).putArea areaId { area with ues := area.ues.erase ue } } := by
        intro t ht
        have hsame : t.blueprint.area areaId = some area := by
          rw [ht]
          exact harea
        rw [EStateM.run_bind, EStateM.run_get]
        dsimp only
        rw [hsame, ← ht]
        rfl
      constructor
      · rintro ⟨_, _, ⟨⟨hprovided, hvm, hconfigurator, hne⟩, rfl⟩, hrest⟩
        rw [hrun _ rfl] at hrest
        cases hrest
        exact ⟨⟨by rw [harea]; rfl, hlisted, hprovided, hvm, hconfigurator, hne⟩, rfl⟩
      · rintro ⟨hr, rfl⟩
        exact ⟨(), _, ⟨⟨hr.provided, hr.vm, hr.configurator, hr.distinct⟩, rfl⟩, hrun _ rfl⟩
  · rw [if_neg hlisted]
    constructor
    · intro h
      cases h
    · rintro ⟨hr, -⟩
      exact absurd hr.listed hlisted

end Rounds

/-! ### The loop -/

/-- All the UEs can be removed: they have the id, no call for them raises, and their resources are registered, each for
one of them. -/
structure Ready (w : UeransimServices) (ueId : Int) (s : UeransimBlueprint) (ues : List BlueUeransimUe) : Prop where
  listed : ∀ ue ∈ ues, ue.ueId = toString ueId
  provided : ∀ k < ues.length, w.raises (s.steps + k) = none
  distinct : (ues.flatMap resourceIds).Nodup
  registered : ∀ resource ∈ ues.flatMap resourceIds, resource ∈ registeredIds s

section Loop

variable {w : UeransimServices} {s s' : UeransimDeployment} {areaId : String} {ueId : Int} {area : BlueUeransimArea}

theorem area_putArea_update (b : UeransimBlueprint) (areaId : String) (a : BlueUeransimArea) :
    (b.putArea areaId a).area = Function.update b.area areaId (some a) := by
  funext other
  rw [Function.update_apply]
  split
  · rename_i he
    rw [he]
    exact UeransimBlueprint.area_putArea b areaId a
  · rename_i hne
    unfold putArea UeransimBlueprint.area
    split
    · exact congrArg (Option.map Prod.snd) (KeyedList.toMap_replace_of_ne (fun he : areaId = other => hne he.symm))
    · exact congrArg (Option.map Prod.snd) (KeyedList.toMap_append_of_ne (fun he : areaId = other => hne he.symm))

theorem without_first {b : UeransimBlueprint} (harea : b.area areaId = some { area with ues := ue :: rest }) :
    (without areaId b ue).area = Function.update b.area areaId (some { area with ues := rest }) ∧
      (without areaId b ue).registeredResources = b.registeredResources.filter (fun r => decide (r.id ∉ resourceIds ue)) ∧
      (without areaId b ue).steps = b.steps + 1 := by
  unfold without
  rw [harea]
  dsimp only
  rw [List.erase_cons_head]
  refine ⟨area_putArea_update _ _ _, UeransimBlueprint.putArea_registeredResources _ _ _, ?_⟩
  unfold putArea
  split <;> rfl

theorem mem_registeredIds_without {b : UeransimBlueprint} (harea : b.area areaId = some { area with ues := ue :: rest })
    {resource : Nat} : resource ∈ registeredIds (without areaId b ue) ↔ resource ∈ registeredIds b ∧ resource ∉ resourceIds ue := by
  rw [registeredIds, (without_first harea).2.1, mem_registeredIds_filter (p := fun n => decide (n ∉ resourceIds ue)),
    decide_eq_true_iff]

theorem ready_cons_iff {b : UeransimBlueprint} (harea : b.area areaId = some { area with ues := ue :: rest }) :
    Ready w ueId b (ue :: rest) ↔ Removable w areaId ueId b ue ∧ Ready w ueId (without areaId b ue) rest := by
  have hsteps := (without_first harea).2.2
  constructor
  · intro h
    have hnodup := h.distinct
    rw [List.flatMap_cons, List.nodup_append] at hnodup
    have hregistered : ∀ resource ∈ resourceIds ue ++ rest.flatMap resourceIds, resource ∈ registeredIds b := h.registered
    refine ⟨⟨by rw [harea]; rfl, h.listed ue List.mem_cons_self, h.provided 0 (Nat.succ_pos _),
      hregistered _ (by simp [resourceIds]), hregistered _ (by simp [resourceIds]), ?_⟩, ?_⟩
    · have hpair : [ue.vmUe.id, ue.vmUeConfigurator.id].Nodup := hnodup.1
      exact fun he => (List.nodup_cons.1 hpair).1 (by rw [he]; exact List.mem_cons_self)
    · refine ⟨fun other hother => h.listed other (List.mem_cons_of_mem ue hother), fun k hk => ?_, hnodup.2.1, ?_⟩
      · rw [hsteps, Nat.add_assoc, Nat.add_comm 1 k]
        exact h.provided (k + 1) (Nat.succ_lt_succ hk)
      · intro resource hresource
        rw [mem_registeredIds_without harea]
        refine ⟨hregistered resource (List.mem_append_right _ hresource), fun hin => ?_⟩
        exact hnodup.2.2 resource hin resource hresource rfl
  · rintro ⟨hue, hrest⟩
    have hmem : ∀ resource ∈ resourceIds ue, resource ∈ registeredIds b := by
      intro resource hresource
      simp only [resourceIds, List.mem_cons, List.not_mem_nil, or_false] at hresource
      rcases hresource with rfl | rfl
      · exact hue.vm
      · exact hue.configurator
    refine ⟨?_, ?_, ?_, ?_⟩
    · intro other hother
      rcases List.mem_cons.1 hother with rfl | hother
      · exact hue.listed
      · exact hrest.listed other hother
    · intro k hk
      cases k with
      | zero => exact hue.provided
      | succ k =>
        have hprovided := hrest.provided k (Nat.lt_of_succ_lt_succ hk)
        rw [hsteps, Nat.add_assoc, Nat.add_comm 1 k] at hprovided
        exact hprovided
    · rw [List.flatMap_cons, List.nodup_append]
      refine ⟨?_, hrest.distinct, ?_⟩
      · refine List.nodup_cons.2 ⟨fun hin => hue.distinct (List.mem_singleton.1 hin), List.nodup_singleton _⟩
      · rintro resource hin _ hresource rfl
        exact ((mem_registeredIds_without harea).1 (hrest.registered _ hresource)).2 hin
    · intro resource hresource
      rcases List.mem_append.1 hresource with hin | hin
      · exact hmem resource hin
      · exact ((mem_registeredIds_without harea).1 (hrest.registered resource hin)).1

theorem along_iff (ues : List BlueUeransimUe) (harea : s.blueprint.area areaId = some { area with ues := ues }) :
    Along (fun s ue => Removable w areaId ueId s.blueprint ue) (removed areaId) s ues ↔ Ready w ueId s.blueprint ues := by
  induction ues generalizing s with
  | nil =>
    refine iff_of_true trivial ⟨fun _ h => (nomatch h), fun k hk => absurd hk (Nat.not_lt_zero k), List.nodup_nil, fun _ h => (nomatch h)⟩
  | cons ue rest ih =>
    have harea' : (removed areaId s ue).blueprint.area areaId = some { area with ues := rest } := by
      rw [removed, (without_first harea).1, Function.update_self]
    rw [ready_cons_iff harea]
    exact and_congr_right (fun _ => ih harea')

theorem foldl_removed (ues : List BlueUeransimUe) (harea : s.blueprint.area areaId = some { area with ues := ues }) :
    (ues.foldl (removed areaId) s).blueprint.area = Function.update s.blueprint.area areaId (some { area with ues := [] }) ∧
      (ues.foldl (removed areaId) s).blueprint.registeredResources =
        s.blueprint.registeredResources.filter (fun r => decide (r.id ∉ ues.flatMap resourceIds)) ∧
      (ues.foldl (removed areaId) s).destroyed = s.destroyed ++ ues.map BlueUeransimUe.vmUe := by
  induction ues generalizing s with
  | nil =>
    refine ⟨?_, ?_, (List.append_nil _).symm⟩
    · rw [← harea, Function.update_eq_self]
      rfl
    · rw [List.flatMap_nil, List.foldl_nil, List.filter_eq_self.2]
      intro r _
      exact decide_eq_true List.not_mem_nil
  | cons ue rest ih =>
    obtain ⟨hupdate, hregistered, -⟩ := without_first harea
    have harea' : (removed areaId s ue).blueprint.area areaId = some { area with ues := rest } := by
      rw [removed, hupdate, Function.update_self]
    obtain ⟨harea₂, hregistered₂, hdestroyed₂⟩ := ih harea'
    rw [List.foldl_cons]
    refine ⟨?_, ?_, ?_⟩
    · rw [harea₂, removed, hupdate, Function.update_idem]
    · rw [hregistered₂, removed, hregistered, List.filter_filter]
      congr 1
      funext r
      simp only [List.flatMap_cons, List.mem_append, not_or, Bool.decide_and]
      exact Bool.and_comm _ _
    · rw [hdestroyed₂, removed, List.append_assoc]
      rfl

end Loop

/-! ### The deletion of a UE -/

/-- The UEs with the id are gone from the list of the area, with their VMs and configurators. -/
structure UesDeleted (areaId : String) (ueId : Int) (area : BlueUeransimArea) (s s' : UeransimDeployment) : Prop where
  areas : s'.blueprint.area = Function.update s.blueprint.area areaId
    (some { area with ues := area.ues.filter (fun ue => decide (ue.ueId ≠ toString ueId)) })
  registered : s'.blueprint.registeredResources = s.blueprint.registeredResources.filter
    (fun r => decide (r.id ∉ (area.ues.filter (fun ue => decide (ue.ueId = toString ueId))).flatMap resourceIds))
  destroyed : s'.destroyed =
    s.destroyed ++ (area.ues.filter (fun ue => decide (ue.ueId = toString ueId))).map BlueUeransimUe.vmUe

/-- An area has a UE with the id. -/
def HasUe (s : UeransimDeployment) (areaId : String) (ueId : Int) : Prop :=
  ∃ area, s.blueprint.area areaId = some area ∧ ∃ ue ∈ area.ues, ue.ueId = toString ueId

/-- The UEs with the id are deleted if there are any, else the call raises and changes nothing. -/
def DeletesUes (w : UeransimServices) (areaId : String) (ueId : Int) (s : UeransimDeployment) : Prop :=
  (HasUe s areaId ueId → ∃ area s', s.blueprint.area areaId = some area ∧ (deleteUe w areaId ueId).run s = .ok () s' ∧
    UesDeleted areaId ueId area s s') ∧
  (¬ HasUe s areaId ueId → ∃ message, (deleteUe w areaId ueId).run s = .error (.blueprintNG message) s)

/-- An area with the UE has no other one, an area without it has some UE. -/
def OnlyUes (w : UeransimServices) (areaId : String) (ueId : Int) (s : UeransimDeployment) : Prop :=
  ∀ area, s.blueprint.area areaId = some area →
    ((∃ ue ∈ area.ues, ue.ueId = toString ueId) → Ready w ueId s.blueprint area.ues) ∧
    ((∀ ue ∈ area.ues, ue.ueId ≠ toString ueId) → area.ues ≠ [])

section Claim

variable {w : UeransimServices} {s s' : UeransimDeployment} {areaId : String} {ueId : Int} {area : BlueUeransimArea}

theorem deleteUe_run (harea : s.blueprint.area areaId = some area) :
    (deleteUe w areaId ueId).run s = (forM area.ues (deleteListedUe w areaId ueId)).run s := by
  rw [deleteUe, EStateM.run_bind, EStateM.run_get]
  dsimp only
  rw [harea]

theorem deleteUe_ok_iff (harea : s.blueprint.area areaId = some area) :
    (deleteUe w areaId ueId).run s = .ok () s' ↔ Ready w ueId s.blueprint area.ues ∧ s' = area.ues.foldl (removed areaId) s := by
  rw [deleteUe_run harea, forM_ok_iff (fun _ _ _ => deleteListedUe_ok_iff), along_iff area.ues harea]

theorem uesDeleted (harea : s.blueprint.area areaId = some area) (hlisted : ∀ ue ∈ area.ues, ue.ueId = toString ueId) :
    UesDeleted areaId ueId area s (area.ues.foldl (removed areaId) s) := by
  have hall : area.ues.filter (fun ue => decide (ue.ueId = toString ueId)) = area.ues :=
    List.filter_eq_self.2 (fun ue hue => decide_eq_true (hlisted ue hue))
  have hnone : area.ues.filter (fun ue => decide (ue.ueId ≠ toString ueId)) = [] := by
    rw [List.filter_eq_nil_iff]
    intro ue hue hne
    exact of_decide_eq_true hne (hlisted ue hue)
  obtain ⟨hupdate, hregistered, hdestroyed⟩ := foldl_removed area.ues harea
  refine ⟨?_, ?_, ?_⟩
  · rw [hnone]
    exact hupdate
  · rw [hall]
    exact hregistered
  · rw [hall]
    exact hdestroyed

/-- The error is raised at the first UE. -/
theorem deleteUe_other (harea : s.blueprint.area areaId = some area) (hues : area.ues = ue :: rest)
    (hother : ue.ueId ≠ toString ueId) :
    (deleteUe w areaId ueId).run s = .error (.blueprintNG s!"No UE found in area {areaId} with id {ueId}") s := by
  have hround : (deleteListedUe w areaId ueId ue).run s =
      .error (.blueprintNG s!"No UE found in area {areaId} with id {ueId}") s := by
    rw [deleteListedUe, if_neg hother]
    rfl
  rw [deleteUe_run harea, hues, List.forM_cons, run_bind_error _ _ hround]

theorem deletesUes_iff : DeletesUes w areaId ueId s ↔ OnlyUes w areaId ueId s := by
  cases harea : s.blueprint.area areaId with
  | none =>
    have hnot : ¬ HasUe s areaId ueId := by
      rintro ⟨area, hsome, -⟩
      rw [harea] at hsome
      cases hsome
    refine iff_of_true ⟨fun h => absurd h hnot, fun _ => ⟨s!"No Gnb found in area {areaId}", ?_⟩⟩ ?_
    · rw [deleteUe, EStateM.run_bind, EStateM.run_get]
      dsimp only
      rw [harea]
      rfl
    · intro area hsome
      rw [harea] at hsome
      cases hsome
  | some area =>
    have hunique : ∀ other, s.blueprint.area areaId = some other → other = area :=
      fun other hother => Option.some.inj (hother.symm.trans harea)
    have hhas : HasUe s areaId ueId ↔ ∃ ue ∈ area.ues, ue.ueId = toString ueId := by
      constructor
      · rintro ⟨other, hother, hue⟩
        rw [hunique other hother] at hue
        exact hue
      · exact fun hue => ⟨area, harea, hue⟩
    have hnone : ¬ HasUe s areaId ueId ↔ ∀ ue ∈ area.ues, ue.ueId ≠ toString ueId := by
      rw [hhas]
      simp only [not_exists, not_and, ne_eq]
    constructor
    · rintro ⟨hdeletes, hraises⟩ other hother
      rw [hunique other hother]
      constructor
      · intro hue
        obtain ⟨_, s', -, hrun, -⟩ := hdeletes (hhas.2 hue)
        exact ((deleteUe_ok_iff harea).1 hrun).1
      · intro hother hnil
        obtain ⟨message, herror⟩ := hraises (hnone.2 hother)
        rw [deleteUe_run harea, hnil] at herror
        cases herror
    · intro honly
      obtain ⟨hready, hsome⟩ := honly area harea
      constructor
      · intro hue
        have hr := hready (hhas.1 hue)
        exact ⟨area, _, harea, (deleteUe_ok_iff harea).2 ⟨hr, rfl⟩, uesDeleted harea hr.listed⟩
      · intro hno
        have hother := hnone.1 hno
        obtain ⟨ue, rest, hues⟩ := List.exists_cons_of_ne_nil (hsome hother)
        refine ⟨_, deleteUe_other harea hues (hother ue ?_)⟩
        rw [hues]
        exact List.mem_cons_self

end Claim

/-- The deletion is right exactly when an area with the UE has no other, and an area without it has some. -/
theorem ueransim_delete_ue_iff (w : UeransimServices) (areaId : String) (ueId : Int) (s : UeransimDeployment) :
    DeletesUes w areaId ueId s ↔ OnlyUes w areaId ueId s :=
  deletesUes_iff

/-- An area with the UEs 1 and 2. -/
def twoUes : UeransimDeployment :=
  ⟨UeransimBlueprint.putArea
    { registeredResources := [.vm ⟨1, "U_1_UE_1", 2⟩, .ueConfigurator ⟨⟨1, "U_1_UE_1", 2⟩, [], [], [], 3⟩,
        .vm ⟨1, "U_1_UE_2", 4⟩, .ueConfigurator ⟨⟨1, "U_1_UE_2", 4⟩, [], [], [], 5⟩] }
    "1"
    { vmGnb := ⟨1, "U_1_GNB", 1⟩
      ues := [⟨"1", ⟨1, "U_1_UE_1", 2⟩, ⟨⟨1, "U_1_UE_1", 2⟩, [], [], [], 3⟩⟩,
        ⟨"2", ⟨1, "U_1_UE_2", 4⟩, ⟨⟨1, "U_1_UE_2", 4⟩, [], [], [], 5⟩⟩]
      radioNet := ⟨1, "radio_U_1", "10.168.1.0/24", 0⟩ }, []⟩

/-- The UE 2 is not deleted, as the UE 1 stands in front of it. -/
theorem ueransim_delete_ue_fails :
    ¬ ∀ (w : UeransimServices) (areaId : String) (ueId : Int) (s : UeransimDeployment), DeletesUes w areaId ueId s := by
  intro h
  have honly := deletesUes_iff.1 (h ⟨fun _ => none, fun _ _ => true, fun _ => []⟩ "1" 2 twoUes) _
    (UeransimBlueprint.area_putArea _ _ _)
  have hlisted := (honly.1 ⟨_, List.mem_cons_of_mem _ List.mem_cons_self, by decide⟩).listed _ List.mem_cons_self
  exact absurd hlisted (by decide)

end UeransimDeployment

end Nfvcl
