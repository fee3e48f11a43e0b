import Mathlib.Data.List.Flatten
import Nfvcl.UeransimVms

namespace Nfvcl
set_option autoImplicit true
open Effects Playbooks UeransimUEConfigurator

/-! ### The UEs of a blueprint -/

def BlueUeransimUe.withConfigurator (configurator : UeransimUEConfigurator) (ue : BlueUeransimUe) : BlueUeransimUe :=
  { ue with vmUeConfigurator := if ue.vmUeConfigurator.id = configurator.id then configurator else ue.vmUeConfigurator }

namespace BlueUeransimUe

variable {c d : UeransimUEConfigurator} {ue : BlueUeransimUe}

theorem withConfigurator_other (h : ue.vmUeConfigurator.id ≠ c.id) : ue.withConfigurator c = ue := by
  rw [withConfigurator, if_neg h]

theorem withConfigurator_own (h : ue.vmUeConfigurator.id = c.id) : ue.withConfigurator c = { ue with vmUeConfigurator := c } := by
  rw [withConfigurator, if_pos h]

theorem withConfigurator_id (c : UeransimUEConfigurator) (ue : BlueUeransimUe) :
    (ue.withConfigurator c).vmUeConfigurator.id = ue.vmUeConfigurator.id := by
  by_cases h : ue.vmUeConfigurator.id = c.id
  · rw [withConfigurator_own h]
    exact h.symm
  · rw [withConfigurator_other h]

theorem withConfigurator_twice (h : d.id = c.id) (ue : BlueUeransimUe) :
    (ue.withConfigurator c).withConfigurator d = ue.withConfigurator d := by
  by_cases hue : ue.vmUeConfigurator.id = c.id
  · rw [withConfigurator_own hue, withConfigurator_own (hue.trans h.symm)]
    exact withConfigurator_own h.symm
  · rw [withConfigurator_other hue]

end BlueUeransimUe

namespace UeransimBlueprint

def ues (areas : List (String × BlueUeransimArea)) : List BlueUeransimUe :=
  areas.flatMap (fun p => p.2.ues)

theorem mem_ues {areas : List (String × BlueUeransimArea)} (hp : p ∈ areas) (hue : ue ∈ p.2.ues) : ue ∈ ues areas :=
  List.mem_flatMap.2 ⟨p, hp, hue⟩

theorem ues_write (s : UeransimBlueprint) (configurator : UeransimUEConfigurator) :
    ues (s.write configurator).areas = (ues s.areas).map (BlueUeransimUe.withConfigurator configurator) := by
  rw [write, ues, ues, List.flatMap_map, List.map_flatMap]
  rfl

/-- An area is put in the place of the one with its id, if there is one. -/
theorem ues_putArea (s : UeransimBlueprint) (areaId : String) (a : BlueUeransimArea) :
    ∃ rest, (ues s.areas).Perm (((s.area areaId).map BlueUeransimArea.ues).getD [] ++ rest) ∧
      (ues (s.putArea areaId a).areas).Perm (a.ues ++ rest) := by
  cases harea : s.area areaId with
  | none =>
    refine ⟨ues s.areas, List.Perm.refl _, ?_⟩
    rw [putArea_new harea, ues, List.flatMap_append, List.flatMap_singleton]
    exact List.perm_append_comm
  | some old =>
    obtain ⟨rest, hbefore, hafter⟩ := putArea_known harea a
    exact ⟨ues rest, hbefore.flatMap_right _, hafter.flatMap_right _⟩

/-- A program that leaves the areas alone and gives no id back. -/
def Quiet (m : UeransimM α) : Prop :=
  ∀ areas n, Maintains (fun t => t.areas = areas ∧ n ≤ t.ids) m

section QuietCalls

variable {w : UeransimServices} {areaId : String}

theorem Quiet.meets {m : UeransimM α} (h : Quiet m) (s : UeransimBlueprint) :
    Meets m s (fun _ t => t.areas = s.areas ∧ s.ids ≤ t.ids) (fun _ t => t.areas = s.areas ∧ s.ids ≤ t.ids) :=
  h s.areas s.ids s ⟨rfl, Nat.le_refl _⟩

theorem quiet_newId : Quiet newId := by
  rintro areas n s ⟨hareas, hids⟩
  exact ⟨hareas, Nat.le_succ_of_le hids⟩

theorem quiet_outcome (result : Option PyError) : Quiet (outcome result) := by
  intro areas n
  cases result with
  | none => exact Maintains.pure _
  | some e => exact Maintains.throw e

theorem quiet_attempt : Quiet (attempt w) := by
  intro areas n
  apply Maintains.get_bind
  intro s hs
  exact quiet_outcome _ areas n { s with steps := s.steps + 1 } hs

theorem quiet_parsedArea : Quiet (parsedArea areaId) := by
  intro areas n
  unfold parsedArea
  split
  · exact Maintains.pure _
  · exact Maintains.throw _

theorem quiet_interfaceAddress {vm : UeransimVm} {network : String} : Quiet (interfaceAddress w vm network) := by
  intro areas n
  unfold interfaceAddress
  split
  · exact Maintains.throw _
  · exact Maintains.throw _
  · exact Maintains.pure _

theorem quiet_checkVim {t : UeransimBlueprint} {number : Int} : Quiet (registerResource.checkVim w t number) := by
  intro areas n
  exact Maintains.ite (Maintains.pure _) (Maintains.throw _)

theorem quiet_registerResource {r : UeransimResource} : Quiet (registerResource w r) := by
  intro areas n
  unfold registerResource
  apply Maintains.get.bind
  intro t
  have hregister : Maintains (fun t : UeransimBlueprint => t.areas = areas ∧ n ≤ t.ids)
      (modify (fun s => { s with registeredResources := s.registeredResources ++ [r] }) : UeransimM Unit) :=
    Maintains.modify (fun _ hs => hs)
  have hchecked {number : Int} : Maintains (fun t : UeransimBlueprint => t.areas = areas ∧ n ≤ t.ids)
      (do registerResource.checkVim w t number; modify (fun s => { s with registeredResources := s.registeredResources ++ [r] }) : UeransimM Unit) :=
    (quiet_checkVim areas n).bind (fun _ => hregister)
  cases r with
  | net network => exact Maintains.ite ((Maintains.throw _).bind (fun _ => hchecked)) hchecked
  | vm machine => exact Maintains.ite ((Maintains.throw _).bind (fun _ => hchecked)) hchecked
  | gnbConfigurator configurator => exact Maintains.ite ((Maintains.throw _).bind (fun _ => hregister)) hregister
  | ueConfigurator configurator => exact Maintains.ite ((Maintains.throw _).bind (fun _ => hregister)) hregister

theorem quiet_deregisterResource {resource : Nat} : Quiet (deregisterResource resource) := by
  intro areas n
  apply Maintains.get_bind
  intro s hs
  split
  · exact hs
  · exact hs

theorem quiet_deregisterUe {ue : BlueUeransimUe} : Quiet (deregisterUe w ue) := by
  intro areas n
  apply (quiet_attempt areas n).bind
  intro _
  exact (quiet_deregisterResource areas n).bind (fun _ => quiet_deregisterResource areas n)

end QuietCalls

/-! ### What holds of the configurators of all UEs -/

/-- Every UE has a configurator of its own, and all configurators are good. -/
structure Holding (first : Nat) (Good : UeransimUEConfigurator → Prop) (s : UeransimBlueprint) : Prop where
  first_le : first ≤ s.ids
  given : ∀ ue ∈ ues s.areas, ue.vmUeConfigurator.id < s.ids
  distinct : ((ues s.areas).map (fun ue => ue.vmUeConfigurator.id)).Nodup
  good : ∀ ue ∈ ues s.areas, Good ue.vmUeConfigurator

section Kept

variable {first : Nat} {Good : UeransimUEConfigurator → Prop} {s t : UeransimBlueprint} {w : UeransimServices} {areaId : String}

/-- No UE is new. -/
theorem Holding.of_subperm (h : Holding first Good s) (hues : (ues t.areas).Subperm (ues s.areas)) (hids : s.ids ≤ t.ids) :
    Holding first Good t := by
  obtain ⟨l, hperm, hsublist⟩ := hues
  have hmem : ∀ ue ∈ ues t.areas, ue ∈ ues s.areas := fun ue hue => hsublist.subset (hperm.mem_iff.2 hue)
  refine ⟨Nat.le_trans h.first_le hids, ?_, ?_, ?_⟩
  · intro ue hue
    exact Nat.lt_of_lt_of_le (h.given ue (hmem ue hue)) hids
  · exact ((hperm.map _).nodup_iff).1 (h.distinct.sublist (hsublist.map _))
  · intro ue hue
    exact h.good ue (hmem ue hue)

theorem Holding.of_areas (h : Holding first Good s) (hareas : t.areas = s.areas) (hids : s.ids ≤ t.ids) : Holding first Good t := by
  apply h.of_subperm _ hids
  rw [hareas]

theorem Quiet.holding {m : UeransimM α} (hm : Quiet m) : Maintains (Holding first Good) m := by
  intro s hs
  exact (hm.meets s).mono (fun _ t ht => hs.of_areas ht.1 ht.2) (fun _ t ht => hs.of_areas ht.1 ht.2)

/-- An area is put into the state whose UEs are some of those it had. -/
theorem Holding.putArea (h : Holding first Good s) {a : BlueUeransimArea}
    (ha : a.ues.Subperm (((s.area areaId).map BlueUeransimArea.ues).getD [])) : Holding first Good (s.putArea areaId a) := by
  obtain ⟨rest, hbefore, hafter⟩ := ues_putArea s areaId a
  apply h.of_subperm _ (by rw [putArea_ids])
  exact hafter.subperm.trans ((ha.append (List.Subperm.refl rest)).trans hbefore.symm.subperm)

/-- An area gets a UE with a configurator of its own. -/
theorem Holding.putNew (h : Holding first Good s) {a : BlueUeransimArea} {new : BlueUeransimUe} (ha : s.area areaId = some a)
    (hnew : ∀ ue ∈ ues s.areas, ue.vmUeConfigurator.id ≠ new.vmUeConfigurator.id) (hlt : new.vmUeConfigurator.id < s.ids)
    (hgood : Good new.vmUeConfigurator) : Holding first Good (s.putArea areaId { a with ues := a.ues ++ [new] }) := by
  have hperm : (ues (s.putArea areaId { a with ues := a.ues ++ [new] }).areas).Perm (new :: ues s.areas) := by
    obtain ⟨rest, hbefore, hafter⟩ := ues_putArea s areaId { a with ues := a.ues ++ [new] }
    rw [ha, Option.map_some, Option.getD_some] at hbefore
    refine hafter.trans ?_
    rw [List.append_assoc]
    exact List.perm_middle.trans (hbefore.symm.cons new)
  refine ⟨by rw [putArea_ids]; exact h.first_le, ?_, ?_, ?_⟩
  · rw [putArea_ids]
    intro ue hue
    rcases List.mem_cons.1 (hperm.mem_iff.1 hue) with rfl | hue
    · exact hlt
    · exact h.given ue hue
  · rw [(hperm.map _).nodup_iff, List.map_cons, List.nodup_cons]
    refine ⟨?_, h.distinct⟩
    intro hmem
    obtain ⟨ue, hue, heq⟩ := List.mem_map.1 hmem
    exact hnew ue hue heq
  · intro ue hue
    rcases List.mem_cons.1 (hperm.mem_iff.1 hue) with rfl | hue
    · exact hgood
    · exact h.good ue hue

theorem createGnb_holding {id : String} : Maintains (Holding first Good) (createGnb w id areaId) := by
  apply Maintains.get.bind
  intro b
  split
  · exact Maintains.throw _
  · apply quiet_parsedArea.holding.bind
    intro areaNumber
    apply quiet_newId.holding.bind
    intro netId
    apply quiet_registerResource.holding.bind
    intro _
    apply quiet_attempt.holding.bind
    intro _
    apply quiet_newId.holding.bind
    intro vmId
    apply quiet_registerResource.holding.bind
    intro _
    apply quiet_attempt.holding.bind
    intro _
    refine (Maintains.modify ?_).bind (fun _ => quiet_attempt.holding)
    intro s hs
    exact hs.putArea (List.nil_subperm)

theorem deleteGnb_holding : Maintains (Holding first Good) (deleteGnb w areaId) := by
  apply Maintains.get.bind
  intro b
  split
  · exact Maintains.throw _
  · refine (Maintains.forM (fun ue _ => quiet_deregisterUe.holding)).bind (fun _ => ?_)
    apply quiet_attempt.holding.bind
    intro _
    apply quiet_deregisterResource.holding.bind
    intro _
    have hrest : Maintains (Holding first Good) (do modify (fun s => s.delArea areaId); let _ ← parsedArea areaId : UeransimM Unit) := by
      refine (Maintains.modify ?_).bind (fun _ => quiet_parsedArea.holding.bind (fun _ => Maintains.pure _))
      intro s hs
      exact hs.of_subperm (((KeyedList.erase_sublist Prod.fst _ _).flatMap _).subperm) (Nat.le_refl _)
    split
    · exact quiet_deregisterResource.holding.bind (fun _ => hrest)
    · exact hrest

theorem deleteUe_holding {ueId : Int} : Maintains (Holding first Good) (deleteUe w areaId ueId) := by
  apply Maintains.get.bind
  intro b
  split
  · exact Maintains.throw _
  · apply Maintains.forM
    intro ue _
    apply Maintains.ite
    · apply quiet_deregisterUe.holding.bind
      intro _
      apply Maintains.get_bind
      intro s hs
      cases harea : s.area areaId with
      | none => exact hs
      | some area =>
        refine hs.putArea ?_
        rw [harea]
        exact (List.erase_sublist ..).subperm
    · exact Maintains.throw _

theorem configureGnb_holding {endpoints : UeransimNetworkEndpoints} {model : Ueransim.GNBPDUConfigure} :
    Maintains (Holding first Good) (configureGnb w endpoints model) := by
  apply Maintains.get_bind
  intro s hs
  dsimp only
  cases harea : s.area (toString model.area) with
  | none => exact hs
  | some area =>
    have hput {c : UeransimGNBConfigurator} {t : UeransimBlueprint} (ht : t.areas = s.areas ∧ s.ids ≤ t.ids) :
        Holding first Good (t.putArea (toString model.area) { area with vmGnbConfigurator := some c }) := by
      refine (hs.of_areas ht.1 ht.2).putArea ?_
      have hsame : t.area (toString model.area) = some area := by
        rw [UeransimBlueprint.area, ht.1]
        exact harea
      rw [hsame]
      exact List.Subperm.refl _
    have hareas {t : UeransimBlueprint} (ht : t.areas = s.areas ∧ s.ids ≤ t.ids) : Holding first Good t := hs.of_areas ht.1 ht.2
    refine Meets.bind ((quiet_interfaceAddress.meets s).mono (fun _ _ h => h) (fun _ _ h => hareas h)) (fun radio s₁ h₁ => ?_)
    refine Meets.bind ((quiet_interfaceAddress s.areas s.ids s₁ h₁).mono (fun _ _ h => h) (fun _ _ h => hareas h)) (fun ngap s₂ h₂ => ?_)
    refine Meets.bind ((quiet_interfaceAddress s.areas s.ids s₂ h₂).mono (fun _ _ h => h) (fun _ _ h => hareas h)) (fun gtp s₃ h₃ => ?_)
    refine Meets.bind ((quiet_newId s.areas s.ids s₃ h₃).mono (fun _ _ h => h) (fun _ _ h => hareas h)) (fun configuratorId s₄ h₄ => ?_)
    refine Meets.bind (R := fun _ => Holding first Good) (hput h₄) (fun _ s₅ h₅ => ?_)
    exact quiet_registerResource.holding.bind (fun _ => quiet_attempt.holding) s₅ h₅

end Kept

end UeransimBlueprint

/-! ### The playbooks of a configurator -/

/-- What a request makes of the configurator of a UE. -/
inductive UeransimUEConfigurator.Reconfigured (Added : UeransimSim → Prop) (c : UeransimUEConfigurator) : UeransimUEConfigurator → Prop where
  | added (sim : UeransimSim) (hsim : Added sim) : Reconfigured Added c { c with sims := c.sims ++ [sim] }
  | deleted (sim : UeransimSim) (hsim : sim ∈ c.sims) :
    Reconfigured Added c { c with sims := c.sims.erase sim, simsToDelete := c.simsToDelete ++ [sim] }

/-- The configurator once its playbook was dumped. -/
def UeransimUEConfigurator.dumped (c : UeransimUEConfigurator) : UeransimUEConfigurator :=
  { c with simsToDelete := [] }

theorem UeransimUEConfigurator.Reconfigured.id_eq (h : Reconfigured Added c d) : d.id = c.id := by
  cases h <;> rfl

/-- A property of configurators and their playbooks that requests keep. -/
structure UeransimUEConfigurator.Closed (Added : UeransimSim → Prop) (first : Nat)
    (P : UeransimUEConfigurator → List SimPlaybook → Prop) : Prop where
  created : ∀ r : SimPlaybook, first ≤ r.configurator.id → r.configurator.simsToDelete = [] → P r.configurator [r]
  reconfigured : ∀ (c : UeransimUEConfigurator) (playbooks : List SimPlaybook) (r : SimPlaybook), c.simsToDelete = [] → P c playbooks →
    Reconfigured Added c r.configurator → P r.configurator.dumped (playbooks ++ [r])

namespace UeransimWorld
open UeransimBlueprint

/-- The configurator has nothing left to delete, and its playbooks have the property. -/
def Good (P : UeransimUEConfigurator → List SimPlaybook → Prop) (s : UeransimWorld) (c : UeransimUEConfigurator) : Prop :=
  c.simsToDelete = [] ∧ P c (s.playbooksOf c.id)

/-- What holds in every state of a run. -/
structure Follows (first : Nat) (P : UeransimUEConfigurator → List SimPlaybook → Prop) (s : UeransimWorld) : Prop where
  holding : Holding first (Good P s) s.blueprint
  played : ∀ r ∈ s.playbooks, r.configurator.id < s.blueprint.ids

variable {first : Nat} {P : UeransimUEConfigurator → List SimPlaybook → Prop} {Added : UeransimSim → Prop}
variable {w : UeransimServices} {v : UePlaybooks} {id areaId : String} {s t : UeransimWorld}

theorem playbooksOf_append (h : t.playbooks = s.playbooks ++ [r]) (n : Nat) :
    t.playbooksOf n = s.playbooksOf n ++ if r.configurator.id = n then [r] else [] := by
  rw [playbooksOf, h, List.filter_append, List.filter_singleton]
  split
  · rename_i heq
    rw [decide_eq_true heq]
    rfl
  · rename_i hne
    rw [decide_eq_false hne]
    rfl

theorem Follows.playbooksOf_new (h : Follows first P s) (hn : s.blueprint.ids ≤ n) : s.playbooksOf n = [] := by
  refine List.filter_eq_nil_iff.2 ?_
  intro r hr
  have hlt := h.played r hr
  simp only [decide_eq_true_eq]
  omega

theorem onBlueprint_follows {m : UeransimM α} (hm : ∀ first Good, Maintains (Holding first Good) m) :
    Maintains (Follows first P) (onBlueprint m) := by
  apply Maintains.zoom_of
  intro s hs
  refine ⟨Holding s.blueprint.ids (Good P s), hm _ _, { hs.holding with first_le := Nat.le_refl _ }, ?_⟩
  intro b hb
  refine ⟨{ hb with first_le := Nat.le_trans hs.holding.first_le hb.first_le }, ?_⟩
  intro r hr
  exact Nat.lt_of_lt_of_le (hs.played r hr) hb.first_le

/-- A quiet step of a request, in a state that the request has not changed yet. -/
theorem onBlueprint_quiet {m : UeransimM α} (hm : Quiet m) (ht : t.playbooks = s.playbooks ∧ t.blueprint.areas = s.blueprint.areas ∧ n ≤ t.blueprint.ids) :
    Meets (onBlueprint m) t (fun _ u => u.playbooks = s.playbooks ∧ u.blueprint.areas = s.blueprint.areas ∧ n ≤ u.blueprint.ids)
      (fun _ u => u.playbooks = s.playbooks ∧ u.blueprint.areas = s.blueprint.areas ∧ n ≤ u.blueprint.ids) := by
  unfold onBlueprint
  rw [meets_zoom]
  exact (hm _ _ t.blueprint ht.2).mono (fun _ _ hb => ⟨ht.1, hb⟩) (fun _ _ hb => ⟨ht.1, hb⟩)

theorem Follows.of_same (h : Follows first P s) (ht : t.playbooks = s.playbooks ∧ t.blueprint.areas = s.blueprint.areas ∧ s.blueprint.ids ≤ t.blueprint.ids) :
    Follows first P t := by
  obtain ⟨hplaybooks, hareas, hids⟩ := ht
  have hgood : Good P t = Good P s := by
    funext c
    rw [Good, Good, playbooksOf, playbooksOf, hplaybooks]
  refine ⟨?_, ?_⟩
  · rw [hgood]
    exact h.holding.of_areas hareas hids
  · rw [hplaybooks]
    intro r hr
    exact Nat.lt_of_lt_of_le (h.played r hr) hids

/-- What a run of a playbook leaves behind, whether it succeeds or not. -/
structure Configured (c : UeransimUEConfigurator) (s t : UeransimWorld) : Prop where
  playbook : ∃ r : SimPlaybook, r.configurator = c ∧ t.playbooks = s.playbooks ++ [r]
  areas : t.blueprint.areas = (s.blueprint.write c.dumped).areas
  ids : s.blueprint.ids ≤ t.blueprint.ids

theorem configureUe_meets (c : UeransimUEConfigurator) (s : UeransimWorld) :
    Meets (configureUe w v c) s (fun _ => Configured c s) (fun _ => Configured c s) := by
  unfold configureUe
  rw [meets_bind, meets_modify]
  unfold onBlueprint
  rw [meets_zoom]
  unfold UeransimBlueprint.configureUe
  rw [meets_bind, meets_modify]
  exact (quiet_attempt.meets _).mono (fun _ _ h => ⟨⟨_, rfl, rfl⟩, h.1, h.2⟩) (fun _ _ h => ⟨⟨_, rfl, rfl⟩, h.1, h.2⟩)

/-- The playbooks of other configurators are as before. -/
theorem Good.append {c : UeransimUEConfigurator} (h : Good P s c) (ht : t.playbooks = s.playbooks ++ [r]) (hne : r.configurator.id ≠ c.id) :
    Good P t c := by
  refine ⟨h.1, ?_⟩
  rw [playbooksOf_append ht, if_neg hne, List.append_nil]
  exact h.2

/-- The playbook of a configurator that no UE has yet. -/
theorem Follows.fresh (h : Follows first P s) (hareas : t.blueprint.areas = s.blueprint.areas) (ht : t.playbooks = s.playbooks ++ [r])
    (hnew : s.blueprint.ids ≤ r.configurator.id) (hlt : r.configurator.id < t.blueprint.ids) : Follows first P t := by
  have hids : s.blueprint.ids ≤ t.blueprint.ids := by omega
  have hheld := h.holding.of_areas hareas hids
  refine ⟨{ hheld with good := ?_ }, ?_⟩
  · rw [hareas]
    intro ue hue
    have hold := h.holding.given ue hue
    exact (h.holding.good ue hue).append ht (by omega)
  · rw [ht]
    intro r' hr'
    rcases List.mem_append.1 hr' with hr' | hr'
    · exact Nat.lt_of_lt_of_le (h.played r' hr') hids
    · rw [List.mem_singleton.1 hr']
      exact hlt

theorem newId_meets (ht : t.playbooks = s.playbooks ∧ t.blueprint.areas = s.blueprint.areas ∧ n ≤ t.blueprint.ids) (E : PyError → UeransimWorld → Prop) :
    Meets (onBlueprint newId) t (fun configuratorId u => n ≤ configuratorId ∧
      u.playbooks = s.playbooks ∧ u.blueprint.areas = s.blueprint.areas ∧ configuratorId + 1 ≤ u.blueprint.ids) E :=
  ⟨ht.2.2, ht.1, ht.2.1, Nat.le_refl _⟩

theorem createUe_follows (hP : Closed Added first P) {ue : UeransimUe} : Maintains (Follows first P) (createUe w v id areaId ue) := by
  intro s hs
  refine Meets.bind (R := fun b t => b = s.blueprint ∧ t = s) ⟨rfl, rfl⟩ ?_
  rintro b t ⟨rfl, rfl⟩
  cases harea : t.blueprint.area areaId with
  | none => exact hs
  | some area =>
    dsimp only
    have hsame {u : UeransimWorld} (hu : u.playbooks = t.playbooks ∧ u.blueprint.areas = t.blueprint.areas ∧ t.blueprint.ids ≤ u.blueprint.ids) :
        Follows first P u := hs.of_same hu
    refine Meets.bind ((onBlueprint_quiet quiet_parsedArea ⟨rfl, rfl, Nat.le_refl _⟩).mono (fun _ _ h => h) (fun _ _ h => hsame h))
      (fun areaNumber s₁ h₁ => ?_)
    refine Meets.bind ((onBlueprint_quiet quiet_newId h₁).mono (fun _ _ h => h) (fun _ _ h => hsame h)) (fun vmId s₂ h₂ => ?_)
    refine Meets.bind ((onBlueprint_quiet quiet_registerResource h₂).mono (fun _ _ h => h) (fun _ _ h => hsame h)) (fun _ s₃ h₃ => ?_)
    refine Meets.bind ((onBlueprint_quiet quiet_attempt h₃).mono (fun _ _ h => h) (fun _ _ h => hsame h)) (fun _ s₄ h₄ => ?_)
    refine Meets.bind ((onBlueprint_quiet quiet_interfaceAddress h₄).mono (fun _ _ h => h) (fun _ _ h => hsame h)) (fun address s₅ h₅ => ?_)
    cases ue.sims with
    | none => exact hsame h₅
    | some sims =>
      refine Meets.bind (newId_meets h₅ _) (fun configuratorId s₆ h₆ => ?_)
      obtain ⟨hnew, h₆⟩ := h₆
      have hlater {u : UeransimWorld} (hu : u.playbooks = t.playbooks ∧ u.blueprint.areas = t.blueprint.areas ∧ configuratorId + 1 ≤ u.blueprint.ids) :
          Follows first P u := hsame ⟨hu.1, hu.2.1, by omega⟩
      refine Meets.bind ((onBlueprint_quiet quiet_registerResource h₆).mono (fun _ _ h => h) (fun _ _ h => hlater h)) (fun _ s₇ h₇ => ?_)
      generalize hc : ({ vmResource := _, sims, gnbSearchList := [address.ip], id := configuratorId } : UeransimUEConfigurator) = c
      have hid : c.id = configuratorId := by rw [← hc]
      have hdelete : c.simsToDelete = [] := by rw [← hc]
      have hconfigured {u : UeransimWorld} (hu : Configured c s₇ u) : ∃ r : SimPlaybook, r.configurator = c ∧
          u.playbooks = t.playbooks ++ [r] ∧ u.blueprint.areas = t.blueprint.areas ∧ c.id < u.blueprint.ids ∧ Follows first P u := by
        obtain ⟨r, hr, hplaybooks⟩ := hu.playbook
        rw [h₇.1] at hplaybooks
        have hareas : u.blueprint.areas = t.blueprint.areas := by
          rw [hu.areas, ← h₇.2.1]
          refine write_fresh ?_
          intro p hp other hother
          rw [h₇.2.1] at hp
          have hlt := hs.holding.given other (mem_ues hp hother)
          show other.vmUeConfigurator.id ≠ c.id
          omega
        have hids := hu.ids
        have hlt : c.id < u.blueprint.ids := by omega
        refine ⟨r, hr, hplaybooks, hareas, hlt, ?_⟩
        rw [← hr] at hlt
        exact hs.fresh hareas hplaybooks (by rw [hr, hid]; exact hnew) hlt
      refine Meets.bind ((configureUe_meets c s₇).mono (fun _ _ h => h) ?_) (fun _ s₈ h₈ => ?_)
      · intro e u hu
        obtain ⟨r, -, -, -, -, hfollows⟩ := hconfigured hu
        exact hfollows
      obtain ⟨r, hr, hplaybooks, hareas, hlt, hfollows⟩ := hconfigured h₈
      refine ⟨?_, ?_⟩
      · refine hfollows.holding.putNew ?_ ?_ hlt ?_
        · rw [UeransimBlueprint.area, hareas]
          exact harea
        · intro other hother
          rw [hareas] at hother
          have hold := hs.holding.given other hother
          show other.vmUeConfigurator.id ≠ c.id
          omega
        · refine ⟨hdelete, ?_⟩
          have hown : s₈.playbooksOf c.id = [r] := by
            rw [playbooksOf_append hplaybooks, hr, if_pos rfl, hs.playbooksOf_new (by omega), List.nil_append]
          show P c (s₈.playbooksOf c.id)
          rw [hown, ← hr]
          refine hP.created r ?_ ?_
          · have hfirst := hs.holding.first_le
            rw [hr]
            omega
          · rw [hr]
            exact hdelete
      · exact fun r' hr' => Nat.lt_of_lt_of_le (hfollows.played r' hr') (by rw [putArea_ids])

/-- The configurator of one UE changes, and its playbook is run. -/
theorem reconfigureUe_meets (hP : Closed Added first P) (hs : Follows first P s) {ue : BlueUeransimUe} (hue : ue ∈ ues s.blueprint.areas)
    {c : UeransimUEConfigurator} (hc : Reconfigured Added ue.vmUeConfigurator c) :
    Meets (reconfigureUe w v c) s
      (fun _ t => Follows first P t ∧ ∀ other ∈ ues s.blueprint.areas, other.vmUeConfigurator.id ≠ ue.vmUeConfigurator.id → other ∈ ues t.blueprint.areas)
      (fun _ t => Follows first P t) := by
  have hafter {t : UeransimWorld} (ht : Configured c { s with blueprint := s.blueprint.write c } t) :
      Follows first P t ∧ ∀ other ∈ ues s.blueprint.areas, other.vmUeConfigurator.id ≠ ue.vmUeConfigurator.id → other ∈ ues t.blueprint.areas := by
    obtain ⟨r, rfl, hplaybooks⟩ := ht.playbook
    have hids : s.blueprint.ids ≤ t.blueprint.ids := ht.ids
    have hid := hc.id_eq
    have hues : ues t.blueprint.areas = (ues s.blueprint.areas).map (BlueUeransimUe.withConfigurator r.configurator.dumped) := by
      rw [ht.areas, ues_write]
      show ((ues (s.blueprint.write r.configurator).areas).map _) = _
      rw [ues_write, List.map_map]
      exact List.map_congr_left (fun other _ => BlueUeransimUe.withConfigurator_twice (c := r.configurator) (d := r.configurator.dumped) rfl other)
    have hother : ∀ other ∈ ues s.blueprint.areas, other.vmUeConfigurator.id ≠ ue.vmUeConfigurator.id → other ∈ ues t.blueprint.areas := by
      intro other hmem hne
      rw [hues, List.mem_map]
      refine ⟨other, hmem, BlueUeransimUe.withConfigurator_other ?_⟩
      exact fun heq => hne (heq.trans hid)
    refine ⟨⟨⟨Nat.le_trans hs.holding.first_le hids, ?_, ?_, ?_⟩, ?_⟩, hother⟩
    · rw [hues]
      intro other hmem
      obtain ⟨old, hold, rfl⟩ := List.mem_map.1 hmem
      rw [BlueUeransimUe.withConfigurator_id]
      exact Nat.lt_of_lt_of_le (hs.holding.given old hold) hids
    · rw [hues, List.map_map]
      have hmap : (fun ue : BlueUeransimUe => ue.vmUeConfigurator.id) ∘ BlueUeransimUe.withConfigurator r.configurator.dumped =
          fun ue => ue.vmUeConfigurator.id := funext (BlueUeransimUe.withConfigurator_id _)
      rw [hmap]
      exact hs.holding.distinct
    · rw [hues]
      intro other hmem
      obtain ⟨old, hold, rfl⟩ := List.mem_map.1 hmem
      by_cases hsame : old.vmUeConfigurator.id = r.configurator.id
      · have holdue : old = ue := List.inj_on_of_nodup_map hs.holding.distinct hold hue (hsame.trans hid)
        obtain ⟨hdelete, hholds⟩ := hs.holding.good ue hue
        have hnew : (old.withConfigurator r.configurator.dumped).vmUeConfigurator = r.configurator.dumped := by
          rw [BlueUeransimUe.withConfigurator_own (c := r.configurator.dumped) hsame]
        rw [hnew]
        refine ⟨rfl, ?_⟩
        have hlog : t.playbooksOf r.configurator.id = s.playbooksOf ue.vmUeConfigurator.id ++ [r] := by
          rw [playbooksOf_append hplaybooks, if_pos rfl, hid]
          rfl
        show P _ (t.playbooksOf r.configurator.id)
        rw [hlog]
        exact hP.reconfigured _ _ r hdelete hholds hc
      · have hkept : old.withConfigurator r.configurator.dumped = old := BlueUeransimUe.withConfigurator_other hsame
        rw [hkept]
        have hgood : Good P { s with blueprint := s.blueprint.write r.configurator } old.vmUeConfigurator := hs.holding.good old hold
        exact hgood.append hplaybooks (fun he => hsame he.symm)
    · intro r' hr'
      rw [hplaybooks] at hr'
      rcases List.mem_append.1 hr' with hr' | hr'
      · exact Nat.lt_of_lt_of_le (hs.played r' hr') hids
      · rw [List.mem_singleton.1 hr', hid]
        exact Nat.lt_of_lt_of_le (hs.holding.given ue hue) hids
  refine Meets.bind (R := fun _ t => t = { s with blueprint := s.blueprint.write c }) rfl ?_
  rintro _ t rfl
  exact (configureUe_meets c _).mono (fun _ _ h => hafter h) (fun _ _ h => (hafter h).1)

theorem addSims_follow {newSim : UeransimSim} (hP : Closed Added first P) (hsim : Added newSim) {ueId : Int} (xs : List BlueUeransimUe)
    (hdistinct : (xs.map (fun ue => ue.vmUeConfigurator.id)).Nodup) (hs : Follows first P s) (hmem : ∀ ue ∈ xs, ue ∈ ues s.blueprint.areas) :
    Meets (forM xs (addSimToUe w v ueId newSim)) s (fun _ => Follows first P) (fun _ => Follows first P) := by
  induction xs generalizing s with
  | nil => exact hs
  | cons ue xs ih =>
    rw [List.map_cons, List.nodup_cons] at hdistinct
    rw [List.forM_cons]
    have hrest := fun ue' hue' => hmem ue' (List.mem_cons_of_mem ue hue')
    by_cases hid : ue.ueId = toString ueId
    · have hloop : addSimToUe w v ueId newSim ue =
          (if ue.vmUeConfigurator.sims.any (fun sim => decide (sim.imsi = newSim.imsi)) then
            (do throw (.blueprintNG s!"Sim {newSim.imsi} already exists")
                reconfigureUe w v { ue.vmUeConfigurator with sims := ue.vmUeConfigurator.sims ++ [newSim] })
          else reconfigureUe w v { ue.vmUeConfigurator with sims := ue.vmUeConfigurator.sims ++ [newSim] }) :=
        if_pos hid
      rw [hloop]
      split
      · exact hs
      · refine Meets.bind (reconfigureUe_meets hP hs (hmem ue List.mem_cons_self) (.added newSim hsim)) ?_
        rintro _ t ⟨ht, hkept⟩
        refine ih hdistinct.2 ht ?_
        intro ue' hue'
        refine hkept ue' (hrest ue' hue') ?_
        intro heq
        exact hdistinct.1 (heq ▸ List.mem_map_of_mem (f := fun ue => ue.vmUeConfigurator.id) hue')
    · have hskip : addSimToUe w v ueId newSim ue = pure () := if_neg hid
      rw [hskip]
      exact ih hdistinct.2 hs hrest

theorem addSim_follows {newSim : UeransimSim} (hP : Closed Added first P) (hsim : Added newSim) {ueId : Int} :
    Maintains (Follows first P) (addSim w v areaId ueId newSim) := by
  intro s hs
  refine Meets.bind (R := fun b t => b = s.blueprint ∧ t = s) ⟨rfl, rfl⟩ ?_
  rintro b t ⟨rfl, rfl⟩
  cases harea : t.blueprint.area areaId with
  | none => exact hs
  | some area =>
    have hmem := area_mem harea
    refine addSims_follow hP hsim area.ues ?_ hs (fun ue hue => mem_ues hmem hue)
    obtain ⟨rest, hbefore, -⟩ := ues_putArea t.blueprint areaId area
    rw [harea, Option.map_some, Option.getD_some] at hbefore
    have hall := ((hbefore.map _).nodup_iff).1 hs.holding.distinct
    rw [List.map_append] at hall
    exact hall.of_append_left

theorem delSim_follows {imsi : String} (hP : Closed Added first P) {ueId : Int} : Maintains (Follows first P) (delSim w v areaId ueId imsi) := by
  intro s hs
  refine Meets.bind (R := fun b t => b = s.blueprint ∧ t = s) ⟨rfl, rfl⟩ ?_
  rintro b t ⟨rfl, rfl⟩
  cases harea : t.blueprint.area areaId with
  | none => exact hs
  | some area =>
    dsimp only
    cases hfind : area.ues.find? (fun ue => decide (ue.ueId = toString ueId)) with
    | none => exact hs
    | some ue =>
      dsimp only
      cases hsim : ue.vmUeConfigurator.sims.find? (fun sim => decide (sim.imsi = imsi)) with
      | none => exact hs
      | some sim =>
        have hue := mem_ues (area_mem harea) (List.mem_of_find?_eq_some hfind)
        exact (reconfigureUe_meets hP hs hue (.deleted sim (List.mem_of_find?_eq_some hsim))).mono (fun _ _ h => h.1) (fun _ _ h => h)

/-- The SIMs that a request adds to UEs. -/
def Adds (call : UeransimCall) (sim : UeransimSim) : Prop :=
  ∃ areaId ueId, call = .addSim areaId ueId sim

theorem exec_follows {endpoints : UeransimNetworkEndpoints} {call : UeransimCall} (hP : Closed Added first P) (hcall : ∀ sim, Adds call sim → Added sim) :
    Maintains (Follows first P) (exec w v id endpoints call) := by
  cases call with
  | create areas =>
    apply Maintains.forM
    intro area _
    apply (onBlueprint_follows (fun _ _ => createGnb_holding)).bind
    intro _
    exact Maintains.forM (fun ue _ => createUe_follows hP)
  | addGnb areaId => exact onBlueprint_follows (fun _ _ => createGnb_holding)
  | configureGnb model => exact onBlueprint_follows (fun _ _ => configureGnb_holding)
  | delGnb areaId => exact onBlueprint_follows (fun _ _ => deleteGnb_holding)
  | addUe areaId ue => exact createUe_follows hP
  | delUe areaId ueId => exact onBlueprint_follows (fun _ _ => deleteUe_holding)
  | addSim areaId ueId sim => exact addSim_follows hP (hcall sim ⟨areaId, ueId, rfl⟩)
  | delSim areaId ueId imsi => exact delSim_follows hP

theorem run_follows {endpoints : UeransimNetworkEndpoints} (hP : Closed Added first P) (calls : List UeransimCall)
    (hcalls : ∀ call ∈ calls, ∀ sim, Adds call sim → Added sim) (hs : Follows first P s) :
    Follows first P (runAll (exec w v id endpoints) s calls) :=
  runAll_mem _ calls (fun call hcall _ hs => (exec_follows hP (hcalls call hcall)).finalState hs) hs

/-! ### What the VMs serve -/

/-- The VM of a UE against its configurator. The last playbook was that of the SIMs which are configured now; if it
succeeded they are all served. Any other SIM that is still there was deleted by a playbook that did not succeed. -/
structure InStep (c : UeransimUEConfigurator) (playbooks : List SimPlaybook) : Prop where
  current : ∃ r, playbooks.getLast? = some r ∧ r.configurator.sims = c.sims ∧
    (r.succeeded = true → ∀ imsi ∈ imsis c.sims, SimPlaybook.services playbooks imsi = ((lastSim c.sims imsi).map (served c.gnbSearchList)).getD {})
  others : ∀ imsi, imsi ∉ imsis c.sims → (∀ r ∈ playbooks, r.succeeded = false → imsi ∉ imsis r.configurator.simsToDelete) →
    SimPlaybook.services playbooks imsi = {}

/-- A playbook that succeeds serves all SIMs of its configurator. -/
theorem services_current {r : SimPlaybook} (h : r.succeeded = true) (himsi : imsi ∈ imsis r.configurator.sims) (playbooks : List SimPlaybook) :
    SimPlaybook.services (playbooks ++ [r]) imsi = ((lastSim r.configurator.sims imsi).map (served r.configurator.gnbSearchList)).getD {} := by
  rw [SimPlaybook.services_succeeded h]
  cases hlast : lastSim r.configurator.sims imsi with
  | none => exact absurd himsi (lastSim_eq_none.1 hlast)
  | some sim => rfl

theorem mem_imsis_erase {sims : List UeransimSim} {sim : UeransimSim} (h : imsi ∈ imsis sims) (hne : sim.imsi ≠ imsi) :
    imsi ∈ imsis (sims.erase sim) := by
  obtain ⟨other, hother, rfl⟩ := List.mem_map.1 h
  have hkept : other ≠ sim := fun he => hne (congrArg UeransimSim.imsi he.symm)
  exact List.mem_map_of_mem ((List.mem_erase_of_ne hkept).2 hother)

theorem closed_inStep : Closed (fun _ => True) 0 InStep := by
  refine ⟨?_, ?_⟩
  · intro r _ hdelete
    refine ⟨⟨r, rfl, rfl, fun hsucceeded imsi himsi => services_current hsucceeded himsi []⟩, ?_⟩
    intro imsi hsims _
    refine SimPlaybook.services_other ?_ hsims []
    rw [hdelete]
    exact List.not_mem_nil
  · intro c playbooks r hdelete hstep hreconfigured
    refine ⟨⟨r, List.getLast?_concat, rfl, fun hsucceeded imsi himsi => services_current hsucceeded himsi playbooks⟩, ?_⟩
    intro imsi hsims hfailed
    have hsims' : imsi ∉ imsis r.configurator.sims := hsims
    have hold := hstep.others imsi
    have hbefore : ∀ r' ∈ playbooks, r'.succeeded = false → imsi ∉ imsis r'.configurator.simsToDelete :=
      fun r' hr' => hfailed r' (List.mem_append_left _ hr')
    have hlast := hfailed r (List.mem_append_right _ List.mem_cons_self)
    clear hsims hfailed
    by_cases himsi : imsi ∈ imsis r.configurator.simsToDelete
    · -- the playbook that deletes the SIM succeeded
      have hsucceeded : r.succeeded = true := by
        cases hr : r.succeeded with
        | true => rfl
        | false => exact absurd himsi (hlast hr)
      rw [SimPlaybook.services_succeeded hsucceeded, if_pos himsi, lastSim_eq_none.2 hsims']
      rfl
    · rw [SimPlaybook.services_other himsi hsims']
      refine hold ?_ hbefore
      intro hmem
      generalize r.configurator = d at hreconfigured hsims' himsi
      cases hreconfigured with
      | added sim _ =>
        refine hsims' ?_
        rw [imsis, List.map_append]
        exact List.mem_append_left _ hmem
      | deleted sim hsim =>
        refine hsims' (mem_imsis_erase hmem ?_)
        intro heq
        refine himsi (List.mem_map.2 ⟨sim, ?_, heq⟩)
        exact List.mem_append_right _ List.mem_cons_self

theorem follows_start : Follows 0 P {} :=
  ⟨⟨Nat.le_refl _, fun _ h => absurd h List.not_mem_nil, List.nodup_nil, fun _ h => absurd h List.not_mem_nil⟩,
    fun _ h => absurd h List.not_mem_nil⟩

/-- The playbook that deletes the only SIM of a UE fails at its first task. -/
def unreachable : UeransimServices where
  raises step := if step = 5 then some (.blueprintNG "Error running ansible configurator") else none
  hasVim _ _ := true
  networkInterfaces _ := [("radio_B_1", [⟨"10.168.1.2", "ens5"⟩])]

def unstarted : UePlaybooks := ⟨fun _ => 0, fun _ service => service⟩

def testSim : UeransimSim := ⟨"001010000000001", "00101", "4a61", "e8ed", none⟩

def deletedSim : List UeransimCall := [.create [⟨1, [⟨some 1, some [testSim]⟩]⟩], .delSim "1" 1 testSim.imsi]

def emptiedUe : BlueUeransimUe :=
  ⟨"1", ⟨1, "B_1_UE_1", 2⟩, { vmResource := ⟨1, "B_1_UE_1", 2⟩, sims := [], gnbSearchList := ["10.168.1.2"], id := 3 }⟩

/-- A SIM that the configurator with the id does not have, whose service on the VM is in some state. -/
def Leftover (configurator : Nat) (imsi : String) (service : SimService) (c : UeransimUEConfigurator) (playbooks : List SimPlaybook) : Prop :=
  c.id = configurator → imsi ∉ imsis c.sims ∧ SimPlaybook.services playbooks imsi = service

theorem closed_leftover {configurator : Nat} {imsi : String} {service : SimService} (hfirst : configurator < first) :
    Closed (fun sim => sim.imsi ≠ imsi) first (Leftover configurator imsi service) := by
  refine ⟨?_, ?_⟩
  · intro r hr _ hid
    omega
  · intro c playbooks r hdelete hleftover hreconfigured hid
    obtain ⟨hsims, hservice⟩ := hleftover (hreconfigured.id_eq.symm.trans hid)
    have hkept : imsi ∉ imsis r.configurator.sims ∧ imsi ∉ imsis r.configurator.simsToDelete := by
      generalize r.configurator = d at hreconfigured
      cases hreconfigured with
      | added sim hsim =>
        refine ⟨?_, by rw [hdelete]; exact List.not_mem_nil⟩
        rw [imsis, List.map_append, List.mem_append]
        rintro (hmem | hmem)
        · exact hsims hmem
        · exact hsim (List.mem_singleton.1 hmem).symm
      | deleted sim hsim =>
        refine ⟨fun hmem => hsims (List.map_subset UeransimSim.imsi List.erase_subset hmem), ?_⟩
        rw [hdelete]
        intro hmem
        rw [List.mem_singleton.1 hmem] at hsims
        exact hsims (List.mem_map_of_mem hsim)
    exact ⟨hkept.1, (SimPlaybook.services_other hkept.2 hkept.1 playbooks).trans hservice⟩

/-- The service of the deleted SIM still runs. -/
example : (runAll (exec unreachable unstarted "B" ⟨"mgt", "n2", "n3"⟩) {} deletedSim).services 3 testSim.imsi = served ["10.168.1.2"] testSim := by
  decide +kernel

end UeransimWorld
end Nfvcl
