import Mathlib.Algebra.Order.Group.Multiset
import Mathlib.Data.List.Basic
import Mathlib.Data.List.Perm.Basic
import Mathlib.Tactic.Abel
import Nfvcl.ListUpdates
import Nfvcl.UeransimBlueprint

namespace Nfvcl
set_option autoImplicit true
open Effects ListUpdates

/-! ### What the parts of a request do -/

namespace UeransimBlueprint

variable {s s' : UeransimBlueprint} {w : UeransimServices}

theorem newId_ok (h : newId.run s = .ok n s') : n = s.ids ∧ s' = { s with ids := s.ids + 1 } := by
  cases h
  exact ⟨rfl, rfl⟩

theorem attempt_ok (h : (attempt w).run s = .ok u s') : s' = { s with steps := s.steps + 1 } := by
  unfold attempt at h
  obtain ⟨_, _, hget, h⟩ := bind_ok_iff.1 h
  cases hget
  obtain ⟨_, _, hset, h⟩ := bind_ok_iff.1 h
  cases hset
  unfold outcome at h
  split at h
  · cases h
    rfl
  · cases h

theorem parsedArea_ok (h : (parsedArea areaId).run s = .ok n s') : PyInt.parse areaId = .ok n ∧ s' = s := by
  unfold parsedArea at h
  split at h
  · rename_i m hm
    cases h
    exact ⟨hm, rfl⟩
  · cases h

theorem interfaceAddress_ok (h : (interfaceAddress w vm network).run s = .ok address s') : s' = s := by
  unfold interfaceAddress at h
  split at h
  · cases h
  · cases h
  · cases h
    rfl

theorem checkVim_ok {number : Int} (h : (registerResource.checkVim w t number).run s = .ok u s') : s' = s := by
  unfold registerResource.checkVim at h
  split at h
  · cases h
    rfl
  · cases h

theorem registerResource_ok (h : (registerResource w r).run s = .ok u s') :
    s' = { s with registeredResources := s.registeredResources ++ [r] } := by
  unfold registerResource at h
  obtain ⟨_, _, hget, h⟩ := bind_ok_iff.1 h
  cases hget
  dsimp only at h
  split at h
  · cases h
  · cases r with
    | net network =>
      obtain ⟨_, s₁, hvim, h⟩ := bind_ok_iff.1 h
      rw [checkVim_ok hvim] at h
      exact modify_ok_iff.1 h
    | vm machine =>
      obtain ⟨_, s₁, hvim, h⟩ := bind_ok_iff.1 h
      rw [checkVim_ok hvim] at h
      exact modify_ok_iff.1 h
    | gnbConfigurator configurator => exact modify_ok_iff.1 h
    | ueConfigurator configurator => exact modify_ok_iff.1 h

theorem deregisterResource_ok {n : Nat} (h : (deregisterResource n).run s = .ok u s') :
    s' = { s with registeredResources := s.registeredResources.filter (fun r => decide (r.id ≠ n)) } := by
  unfold deregisterResource at h
  obtain ⟨_, _, hget, h⟩ := bind_ok_iff.1 h
  cases hget
  split at h
  · cases h
    rfl
  · cases h

theorem configureUe_ok (h : (configureUe w configurator).run s = .ok u s') :
    s' = { s.write { configurator with simsToDelete := [] } with steps := s.steps + 1 } := by
  unfold configureUe at h
  obtain ⟨_, s₁, hwrite, h⟩ := bind_ok_iff.1 h
  rw [modify_ok_iff.1 hwrite] at h
  exact attempt_ok h

theorem deregisterUe_ok (h : (deregisterUe w ue).run s = .ok u s') :
    s' = { s with
      steps := s.steps + 1
      registeredResources := (s.registeredResources.filter (fun r => decide (r.id ≠ ue.vmUe.id))).filter
        (fun r => decide (r.id ≠ ue.vmUeConfigurator.id)) } := by
  unfold deregisterUe at h
  obtain ⟨_, s₁, h₁, h⟩ := bind_ok_iff.1 h
  rw [attempt_ok h₁] at h
  obtain ⟨_, s₂, h₂, h⟩ := bind_ok_iff.1 h
  rw [deregisterResource_ok h₂] at h
  exact deregisterResource_ok h

/-! ### The areas of the state -/

variable {areaId : String} {a a' : BlueUeransimArea}

@[simp] theorem putArea_registeredResources (s : UeransimBlueprint) (areaId : String) (a : BlueUeransimArea) :
    (s.putArea areaId a).registeredResources = s.registeredResources := by
  unfold putArea
  split <;> rfl

@[simp] theorem putArea_ids (s : UeransimBlueprint) (areaId : String) (a : BlueUeransimArea) :
    (s.putArea areaId a).ids = s.ids := by
  unfold putArea
  split <;> rfl

theorem area_eq_some (h : s.area areaId = some a) : KeyedList.toMap Prod.fst s.areas areaId = some (areaId, a) := by
  obtain ⟨⟨key, b⟩, hp, ha⟩ := Option.map_eq_some_iff.1 h
  have hkey := KeyedList.toMap_some_key hp
  cases hkey
  cases ha
  exact hp

theorem area_mem (h : s.area areaId = some a) : (areaId, a) ∈ s.areas :=
  KeyedList.toMap_some_mem (area_eq_some h)

theorem putArea_new (h : s.area areaId = none) (a : BlueUeransimArea) :
    (s.putArea areaId a).areas = s.areas ++ [(areaId, a)] := by
  have hnone : KeyedList.toMap Prod.fst s.areas areaId = none := Option.map_eq_none_iff.1 h
  unfold putArea
  split
  · rename_i p hp
    rw [hnone] at hp
    cases hp
  · rfl

/-- The other areas stay. -/
theorem putArea_known (h : s.area areaId = some a) (a' : BlueUeransimArea) :
    ∃ rest, s.areas.Perm ((areaId, a) :: rest) ∧ (s.putArea areaId a').areas.Perm ((areaId, a') :: rest) := by
  have hsome := area_eq_some h
  refine ⟨KeyedList.erase Prod.fst s.areas areaId, KeyedList.perm_cons_erase hsome, ?_⟩
  have hisSome : (KeyedList.toMap Prod.fst s.areas (areaId, a').1).isSome := by
    rw [hsome]
    rfl
  unfold putArea
  split
  · exact KeyedList.replace_perm hisSome
  · rename_i hnone
    rw [hsome] at hnone
    cases hnone

theorem area_putArea (s : UeransimBlueprint) (areaId : String) (a : BlueUeransimArea) :
    (s.putArea areaId a).area areaId = some a := by
  unfold putArea UeransimBlueprint.area
  split
  · rename_i p hp
    have hisSome : (KeyedList.toMap Prod.fst s.areas (areaId, a).1).isSome := by
      rw [hp]
      rfl
    simp only [KeyedList.toMap_replace hisSome, Function.update_self, Option.map_some]
  · rename_i hnone
    have happ := @KeyedList.toMap_append (String × BlueUeransimArea) String _ Prod.fst s.areas (areaId, a) hnone
    simp only [happ, Function.update_self, Option.map_some]

end UeransimBlueprint

/-! ### The resources that the state holds -/

def BlueUeransimUe.held (ue : BlueUeransimUe) : List UeransimResource :=
  [.vm ue.vmUe, .ueConfigurator ue.vmUeConfigurator]

def BlueUeransimArea.held (area : BlueUeransimArea) : List UeransimResource :=
  [.net area.radioNet, .vm area.vmGnb] ++ area.vmGnbConfigurator.toList.map .gnbConfigurator ++
    area.ues.flatMap BlueUeransimUe.held

/-- The radio network is in the area, and the configurators are those of its VMs. -/
structure BlueUeransimArea.Matched (areaId : String) (area : BlueUeransimArea) : Prop where
  net : PyInt.parse areaId = .ok area.radioNet.area
  gnb : ∀ c, area.vmGnbConfigurator = some c → c.vmResource = area.vmGnb
  ues : ∀ ue ∈ area.ues, ue.vmUeConfigurator.vmResource = ue.vmUe

namespace UeransimBlueprint

def held (areas : List (String × BlueUeransimArea)) : List UeransimResource :=
  areas.flatMap (fun p => p.2.held)

/-- What holds in every state of a run without a deletion of a gNB: registered are the resources that the
state holds and the configurators that were replaced. -/
structure Tracked (stale : List UeransimGNBConfigurator) (configured : List String) (s : UeransimBlueprint) : Prop where
  given : ∀ r ∈ s.registeredResources, r.id < s.ids
  distinct : (s.registeredResources.map UeransimResource.id).Nodup
  registered : s.registeredResources.Perm (held s.areas ++ stale.map .gnbConfigurator)
  replaced : ∀ c ∈ stale, ∃ p ∈ s.areas, p.2.vmGnb = c.vmResource
  matched : ∀ p ∈ s.areas, p.2.Matched p.1
  configured_iff : ∀ k, k ∈ configured ↔ ∃ p ∈ s.areas, p.1 = k ∧ p.2.vmGnbConfigurator ≠ none

variable {stale : List UeransimGNBConfigurator} {configured : List String}
variable {s s' : UeransimBlueprint} {w : UeransimServices} {areaId : String} {a a' : BlueUeransimArea}

theorem held_perm {xs ys : List (String × BlueUeransimArea)} (h : xs.Perm ys) : (held xs).Perm (held ys) :=
  h.flatMap_right _

theorem Tracked.of_eq (h : Tracked stale configured s) (hareas : s'.areas = s.areas)
    (hregistered : s'.registeredResources = s.registeredResources) (hids : s.ids ≤ s'.ids) : Tracked stale configured s' := by
  refine ⟨?_, ?_, ?_, ?_, ?_, ?_⟩
  · rw [hregistered]
    intro r hr
    exact Nat.lt_of_lt_of_le (h.given r hr) hids
  · rw [hregistered]
    exact h.distinct
  · rw [hregistered, hareas]
    exact h.registered
  · rw [hareas]
    exact h.replaced
  · rw [hareas]
    exact h.matched
  · rw [hareas]
    exact h.configured_iff

theorem Tracked.mem_of_held (h : Tracked stale configured s) (hp : p ∈ s.areas) (hr : r ∈ p.2.held) : r ∈ s.registeredResources :=
  h.registered.mem_iff.2 (List.mem_append_left _ (List.mem_flatMap.2 ⟨p, hp, hr⟩))

/-- Two registered resources with the same id are the same. -/
theorem Tracked.eq_of_id (h : Tracked stale configured s) (hr : r ∈ s.registeredResources) (hr' : r' ∈ s.registeredResources)
    (hid : r.id = r'.id) : r = r' :=
  List.inj_on_of_nodup_map h.distinct hr hr' hid

/-- Resources with new ids are registered for an area that is put into the state. -/
theorem Tracked.added (h : Tracked stale configured s) (hareas : (held s'.areas).Perm (held s.areas ++ new))
    (hregistered : s'.registeredResources = s.registeredResources ++ new) (hnew : new.map UeransimResource.id = List.range' s.ids new.length)
    (hids : s'.ids = s.ids + new.length) (hkeep : ∀ p ∈ s.areas, ∃ p' ∈ s'.areas, p'.2.vmGnb = p.2.vmGnb)
    (hmatched : ∀ p ∈ s'.areas, p.2.Matched p.1)
    (hconfigured : ∀ k, (∃ p ∈ s'.areas, p.1 = k ∧ p.2.vmGnbConfigurator ≠ none) ↔
      ∃ p ∈ s.areas, p.1 = k ∧ p.2.vmGnbConfigurator ≠ none) : Tracked stale configured s' := by
  refine ⟨?_, ?_, ?_, ?_, hmatched, ?_⟩
  · rw [hregistered, hids]
    intro r hr
    rcases List.mem_append.1 hr with hr | hr
    · exact Nat.lt_of_lt_of_le (h.given r hr) (Nat.le_add_right _ _)
    · have hmem := List.mem_map_of_mem hr (f := UeransimResource.id)
      rw [hnew, List.mem_range'_1] at hmem
      exact hmem.2
  · rw [hregistered, List.map_append, hnew]
    refine List.nodup_append.2 ⟨h.distinct, List.nodup_range', ?_⟩
    intro n hn m hm he
    obtain ⟨r, hr, rfl⟩ := List.mem_map.1 hn
    have hlt := h.given r hr
    have hle := (List.mem_range'_1.1 hm).1
    omega
  · rw [hregistered]
    calc (s.registeredResources ++ new).Perm ((held s.areas ++ stale.map .gnbConfigurator) ++ new) := h.registered.append_right new
      _ |>.Perm ((held s.areas ++ new) ++ stale.map .gnbConfigurator) := by
        rw [List.append_assoc, List.append_assoc]
        exact List.perm_append_comm.append_left _
      _ |>.Perm (held s'.areas ++ stale.map .gnbConfigurator) := hareas.symm.append_right _
  · intro c hc
    obtain ⟨p, hp, hgnb⟩ := h.replaced c hc
    obtain ⟨p', hp', hgnb'⟩ := hkeep p hp
    exact ⟨p', hp', hgnb'.trans hgnb⟩
  · intro k
    rw [h.configured_iff k, hconfigured k]

/-! ### Requests that register resources -/

theorem createGnb_ok {id : String} (h : (createGnb w id areaId).run s = .ok u s') :
    ∃ net vm, s.area areaId = none ∧ PyInt.parse areaId = .ok net.area ∧ net.id = s.ids ∧ vm.id = s.ids + 1 ∧
      s'.areas = s.areas ++ [(areaId, { vmGnb := vm, radioNet := net })] ∧
      s'.registeredResources = s.registeredResources ++ [.net net, .vm vm] ∧ s'.ids = s.ids + 2 := by
  unfold createGnb at h
  obtain ⟨_, _, hget, h⟩ := bind_ok_iff.1 h
  cases hget
  split at h
  · cases h
  · rename_i hnone
    obtain ⟨n, s₁, hparse, h⟩ := bind_ok_iff.1 h
    obtain ⟨hparse, hs₁⟩ := parsedArea_ok hparse
    rw [hs₁] at h
    obtain ⟨netId, _, hid, h⟩ := bind_ok_iff.1 h
    obtain ⟨rfl, rfl⟩ := newId_ok hid
    obtain ⟨_, _, hregister, h⟩ := bind_ok_iff.1 h
    cases registerResource_ok hregister
    obtain ⟨_, _, hattempt, h⟩ := bind_ok_iff.1 h
    cases attempt_ok hattempt
    obtain ⟨vmId, _, hid, h⟩ := bind_ok_iff.1 h
    obtain ⟨rfl, rfl⟩ := newId_ok hid
    obtain ⟨_, _, hregister, h⟩ := bind_ok_iff.1 h
    cases registerResource_ok hregister
    obtain ⟨_, _, hattempt, h⟩ := bind_ok_iff.1 h
    cases attempt_ok hattempt
    obtain ⟨_, _, hput, h⟩ := bind_ok_iff.1 h
    cases modify_ok_iff.1 hput
    cases attempt_ok h
    refine ⟨⟨n, radioNetworkName id areaId, s!"10.168.{areaId}.0/24", s.ids⟩, ⟨n, s!"{id}_{areaId}_GNB", s.ids + 1⟩,
      hnone, hparse, rfl, rfl, ?_, ?_, ?_⟩
    · refine putArea_new ?_ _
      exact hnone
    · rw [putArea_registeredResources]
      exact List.append_assoc _ _ _
    · exact putArea_ids _ _ _

theorem Tracked.createGnb {id : String} (h : Tracked stale configured s) (hrun : (createGnb w id areaId).run s = .ok u s') :
    Tracked stale configured s' := by
  obtain ⟨net, vm, hnone, hparse, hnet, hvm, hareas, hregistered, hids⟩ := createGnb_ok hrun
  refine h.added ?_ hregistered ?_ hids ?_ ?_ ?_
  · rw [hareas, held, List.flatMap_append]
    exact .refl _
  · simp only [List.map_cons, List.map_nil, UeransimResource.id, hnet, hvm]
    rfl
  · intro p hp
    rw [hareas]
    exact ⟨p, List.mem_append_left _ hp, rfl⟩
  · rw [hareas]
    intro p hp
    rcases List.mem_append.1 hp with hp | hp
    · exact h.matched p hp
    · rw [List.mem_singleton.1 hp]
      exact ⟨hparse, fun c hc => (nomatch hc), fun ue hue => absurd hue List.not_mem_nil⟩
  · intro k
    rw [hareas]
    constructor
    · rintro ⟨p, hp, hk, hsome⟩
      rcases List.mem_append.1 hp with hp | hp
      · exact ⟨p, hp, hk, hsome⟩
      · rw [List.mem_singleton.1 hp] at hsome
        exact absurd rfl hsome
    · rintro ⟨p, hp, hk, hsome⟩
      exact ⟨p, List.mem_append_left _ hp, hk, hsome⟩

/-- A configurator that neither the state nor the registered resources have is written nowhere. -/
theorem write_fresh {c : UeransimUEConfigurator} (hareas : ∀ p ∈ s.areas, ∀ ue ∈ p.2.ues, ue.vmUeConfigurator.id ≠ c.id) :
    (s.write c).areas = s.areas := by
  refine List.map_congr_left (g := fun p => p) ?_ |>.trans (List.map_id' _)
  intro p hp
  have hues : p.2.ues.map (fun ue => { ue with vmUeConfigurator := if ue.vmUeConfigurator.id = c.id then c else ue.vmUeConfigurator }) =
      p.2.ues := by
    refine List.map_congr_left (g := fun ue => ue) ?_ |>.trans (List.map_id' _)
    intro ue hue
    rw [if_neg (hareas p hp ue hue)]
  rw [BlueUeransimArea.write, hues]

theorem write_registered {c : UeransimUEConfigurator} (h : ∀ old, .ueConfigurator old ∈ s.registeredResources → old.id = c.id → old = c) :
    (s.write c).registeredResources = s.registeredResources := by
  refine List.map_congr_left (g := fun r => r) ?_ |>.trans (List.map_id' _)
  intro r hr
  cases r with
  | ueConfigurator old =>
    rw [UeransimResource.write]
    split
    · rename_i heq
      rw [h old hr heq]
    · rfl
  | _ => rfl

theorem Tracked.ue_lt (h : Tracked stale configured s) (hp : p ∈ s.areas) (hue : ue ∈ p.2.ues) : ue.vmUeConfigurator.id < s.ids := by
  refine h.given (.ueConfigurator ue.vmUeConfigurator) (h.mem_of_held hp ?_)
  exact List.mem_append_right _ (List.mem_flatMap.2 ⟨ue, hue, List.mem_cons_of_mem _ List.mem_cons_self⟩)

theorem createUe_ok {id : String} {ue : UeransimUe} (h : Tracked stale configured s) (hrun : (createUe w id areaId ue).run s = .ok u s') :
    ∃ area, ∃ new : BlueUeransimUe, s.area areaId = some area ∧ new.vmUe.id = s.ids ∧ new.vmUeConfigurator.id = s.ids + 1 ∧
      new.vmUeConfigurator.vmResource = new.vmUe ∧
      (∃ t : UeransimBlueprint, t.areas = s.areas ∧ s'.areas = (t.putArea areaId { area with ues := area.ues ++ [new] }).areas) ∧
      s'.registeredResources = s.registeredResources ++ new.held ∧ s'.ids = s.ids + 2 := by
  unfold createUe at hrun
  obtain ⟨_, _, hget, hrun⟩ := bind_ok_iff.1 hrun
  cases hget
  split at hrun
  · cases hrun
  · rename_i area hsome
    obtain ⟨n, s₁, hparse, hrun⟩ := bind_ok_iff.1 hrun
    rw [(parsedArea_ok hparse).2] at hrun
    obtain ⟨vmId, _, hid, hrun⟩ := bind_ok_iff.1 hrun
    obtain ⟨rfl, rfl⟩ := newId_ok hid
    obtain ⟨_, _, hregister, hrun⟩ := bind_ok_iff.1 hrun
    cases registerResource_ok hregister
    obtain ⟨_, _, hattempt, hrun⟩ := bind_ok_iff.1 hrun
    cases attempt_ok hattempt
    obtain ⟨address, s₂, haddress, hrun⟩ := bind_ok_iff.1 hrun
    rw [interfaceAddress_ok haddress] at hrun
    split at hrun
    · cases hrun
    · obtain ⟨configuratorId, _, hid, hrun⟩ := bind_ok_iff.1 hrun
      obtain ⟨rfl, rfl⟩ := newId_ok hid
      obtain ⟨_, _, hregister, hrun⟩ := bind_ok_iff.1 hrun
      cases registerResource_ok hregister
      obtain ⟨_, _, hconfigure, hrun⟩ := bind_ok_iff.1 hrun
      cases configureUe_ok hconfigure
      cases modify_ok_iff.1 hrun
      refine ⟨area, ⟨_, _, _⟩, hsome, rfl, rfl, rfl, ⟨_, ?_, rfl⟩, ?_, ?_⟩
      · refine write_fresh ?_
        intro p hp other hother
        have hlt := h.ue_lt hp hother
        show other.vmUeConfigurator.id ≠ s.ids + 1
        omega
      · rw [putArea_registeredResources]
        refine (write_registered ?_).trans (List.append_assoc _ _ _)
        intro old hold hid
        have hnew : old.id = s.ids + 1 := hid
        rcases List.mem_append.1 hold with hold | hold
        · rcases List.mem_append.1 hold with hold | hold
          · have hlt : old.id < s.ids := h.given _ hold
            omega
          · cases List.mem_singleton.1 hold
        · cases List.mem_singleton.1 hold
          rfl
      · exact putArea_ids _ _ _

/-- An area of the state is replaced by one with the same gNB. -/
structure Replaces (areaId : String) (a a' : BlueUeransimArea) (rest areas areas' : List (String × BlueUeransimArea)) : Prop where
  before : areas.Perm ((areaId, a) :: rest)
  after : areas'.Perm ((areaId, a') :: rest)
  gnb : a'.vmGnb = a.vmGnb

section Replaced

variable {rest areas areas' : List (String × BlueUeransimArea)}

theorem Replaces.of_put {t : UeransimBlueprint} (hsome : s.area areaId = some a) (ht : t.areas = s.areas)
    (hareas : s'.areas = (t.putArea areaId a').areas) (hgnb : a'.vmGnb = a.vmGnb) : ∃ rest, Replaces areaId a a' rest s.areas s'.areas := by
  have htsome : t.area areaId = some a := by
    unfold UeransimBlueprint.area at hsome ⊢
    rw [ht]
    exact hsome
  obtain ⟨rest, hbefore, hafter⟩ := putArea_known htsome a'
  rw [ht] at hbefore
  rw [← hareas] at hafter
  exact ⟨rest, hbefore, hafter, hgnb⟩

theorem Replaces.held_before (h : Replaces areaId a a' rest areas areas') : (held areas).Perm (a.held ++ held rest) :=
  held_perm h.before

theorem Replaces.held_after (h : Replaces areaId a a' rest areas areas') : (held areas').Perm (a'.held ++ held rest) :=
  held_perm h.after

theorem Replaces.keep (h : Replaces areaId a a' rest areas areas') (hp : p ∈ areas) : ∃ p' ∈ areas', p'.2.vmGnb = p.2.vmGnb := by
  rcases List.mem_cons.1 (h.before.mem_iff.1 hp) with rfl | hp
  · exact ⟨_, h.after.mem_iff.2 List.mem_cons_self, h.gnb⟩
  · exact ⟨p, h.after.mem_iff.2 (List.mem_cons_of_mem _ hp), rfl⟩

theorem Replaces.all {Q : String → BlueUeransimArea → Prop} (h : Replaces areaId a a' rest areas areas') (hall : ∀ p ∈ areas, Q p.1 p.2)
    (hnew : Q areaId a → Q areaId a') : ∀ p ∈ areas', Q p.1 p.2 := by
  intro p hp
  rcases List.mem_cons.1 (h.after.mem_iff.1 hp) with rfl | hp
  · exact hnew (hall _ (h.before.mem_iff.2 List.mem_cons_self))
  · exact hall p (h.before.mem_iff.2 (List.mem_cons_of_mem _ hp))

theorem Replaces.exists_iff {Q : String → BlueUeransimArea → Prop} (h : Replaces areaId a a' rest areas areas')
    (hiff : Q areaId a' ↔ Q areaId a) : (∃ p ∈ areas', Q p.1 p.2) ↔ ∃ p ∈ areas, Q p.1 p.2 := by
  simp only [h.before.mem_iff, h.after.mem_iff, List.exists_mem_cons_iff, hiff]

end Replaced

theorem Tracked.createUe {id : String} {ue : UeransimUe} (h : Tracked stale configured s)
    (hrun : (createUe w id areaId ue).run s = .ok u s') : Tracked stale configured s' := by
  obtain ⟨area, new, hsome, hvm, hconfigurator, hmatch, ⟨t, ht, hareas⟩, hregistered, hids⟩ := createUe_ok h hrun
  obtain ⟨rest, hrep⟩ := Replaces.of_put hsome ht hareas rfl
  refine h.added ?_ hregistered ?_ hids (fun p hp => hrep.keep hp) ?_ ?_
  · have hheld : BlueUeransimArea.held { area with ues := area.ues ++ [new] } = area.held ++ new.held := by
      simp only [BlueUeransimArea.held, List.flatMap_append, List.flatMap_singleton, List.append_assoc]
    have hafter := hrep.held_after
    have hbefore := hrep.held_before
    rw [hheld] at hafter
    rw [← Multiset.coe_eq_coe, ← Multiset.coe_add] at hafter hbefore ⊢
    rw [hafter, hbefore, ← Multiset.coe_add]
    abel
  · simp only [BlueUeransimUe.held, List.map_cons, List.map_nil, UeransimResource.id, hvm, hconfigurator]
    rfl
  · refine hrep.all h.matched ?_
    intro hold
    refine ⟨hold.net, hold.gnb, ?_⟩
    intro other hother
    rcases List.mem_append.1 hother with hother | hother
    · exact hold.ues other hother
    · rw [List.mem_singleton.1 hother]
      exact hmatch
  · intro k
    exact hrep.exists_iff (Q := fun key area => key = k ∧ area.vmGnbConfigurator ≠ none) Iff.rfl

theorem configureGnb_ok {endpoints : UeransimNetworkEndpoints} {model : Ueransim.GNBPDUConfigure}
    (hrun : (configureGnb w endpoints model).run s = .ok u s') :
    ∃ area c, s.area (toString model.area) = some area ∧ c.vmResource = area.vmGnb ∧ c.id = s.ids ∧
      s'.areas = (UeransimBlueprint.putArea { s with ids := s.ids + 1 } (toString model.area) { area with vmGnbConfigurator := some c }).areas ∧
      s'.registeredResources = s.registeredResources ++ [.gnbConfigurator c] ∧ s'.ids = s.ids + 1 := by
  unfold configureGnb at hrun
  obtain ⟨_, _, hget, hrun⟩ := bind_ok_iff.1 hrun
  cases hget
  split at hrun
  · cases hrun
  · rename_i area hsome
    obtain ⟨radio, s₁, hradio, hrun⟩ := bind_ok_iff.1 hrun
    rw [interfaceAddress_ok hradio] at hrun
    obtain ⟨ngap, s₂, hngap, hrun⟩ := bind_ok_iff.1 hrun
    rw [interfaceAddress_ok hngap] at hrun
    obtain ⟨gtp, s₃, hgtp, hrun⟩ := bind_ok_iff.1 hrun
    rw [interfaceAddress_ok hgtp] at hrun
    obtain ⟨configuratorId, _, hid, hrun⟩ := bind_ok_iff.1 hrun
    obtain ⟨rfl, rfl⟩ := newId_ok hid
    obtain ⟨_, _, hput, hrun⟩ := bind_ok_iff.1 hrun
    cases modify_ok_iff.1 hput
    obtain ⟨_, _, hregister, hrun⟩ := bind_ok_iff.1 hrun
    cases registerResource_ok hregister
    cases attempt_ok hrun
    refine ⟨area, ⟨area.vmGnb, model, radio.ip, ngap.ip, gtp.ip, gtp.interfaceName, model.additionalRoutes, s.ids⟩,
      hsome, rfl, rfl, rfl, ?_, ?_⟩
    · exact congrArg (· ++ _) (putArea_registeredResources _ _ _)
    · exact putArea_ids _ _ _

/-- The configurator that the gNB had stays registered. -/
theorem Tracked.configureGnb {endpoints : UeransimNetworkEndpoints} {model : Ueransim.GNBPDUConfigure} (h : Tracked stale configured s)
    (hrun : (configureGnb w endpoints model).run s = .ok u s') :
    ∃ area, s.area (toString model.area) = some area ∧
      Tracked (area.vmGnbConfigurator.toList ++ stale) (toString model.area :: configured) s' := by
  obtain ⟨area, c, hsome, hvm, hid, hareas, hregistered, hids⟩ := configureGnb_ok hrun
  obtain ⟨rest, hrep⟩ := Replaces.of_put (t := { s with ids := s.ids + 1 }) hsome rfl hareas rfl
  have hmem := area_mem hsome
  refine ⟨area, hsome, ?_, ?_, ?_, ?_, ?_, ?_⟩
  · rw [hregistered, hids]
    intro r hr
    rcases List.mem_append.1 hr with hr | hr
    · exact Nat.lt_succ_of_lt (h.given r hr)
    · rw [List.mem_singleton.1 hr]
      show c.id < s.ids + 1
      omega
  · rw [hregistered, List.map_append]
    refine List.nodup_append.2 ⟨h.distinct, List.nodup_singleton _, ?_⟩
    intro n hn m hm he
    obtain ⟨r, hr, rfl⟩ := List.mem_map.1 hn
    have hlt := h.given r hr
    have hm' : m = c.id := List.mem_singleton.1 hm
    omega
  · have hold := h.registered
    have hbefore := hrep.held_before
    have hafter := hrep.held_after
    rw [hregistered]
    rw [← Multiset.coe_eq_coe] at hold hbefore hafter ⊢
    simp only [BlueUeransimArea.held, Option.toList_some, List.map_cons, List.map_nil, List.map_append, ← Multiset.coe_add] at hold hbefore hafter ⊢
    rw [hold, hafter, hbefore]
    abel
  · intro c' hc'
    rcases List.mem_append.1 hc' with hc' | hc'
    · obtain ⟨p', hp', hgnb⟩ := hrep.keep hmem
      refine ⟨p', hp', hgnb.trans ?_⟩
      exact ((h.matched _ hmem).gnb c' (Option.mem_toList.1 hc')).symm
    · obtain ⟨p, hp, hgnb⟩ := h.replaced c' hc'
      obtain ⟨p', hp', hgnb'⟩ := hrep.keep hp
      exact ⟨p', hp', hgnb'.trans hgnb⟩
  · refine hrep.all h.matched ?_
    intro hold
    refine ⟨hold.net, ?_, hold.ues⟩
    intro c' hc'
    cases hc'
    exact hvm
  · intro k
    rw [List.mem_cons, h.configured_iff k]
    simp only [hrep.before.mem_iff, hrep.after.mem_iff, List.exists_mem_cons_iff]
    constructor
    · rintro (rfl | ⟨hk, -⟩ | hrest)
      · exact .inl ⟨rfl, Option.some_ne_none c⟩
      · exact .inl ⟨hk, Option.some_ne_none c⟩
      · exact .inr hrest
    · rintro (⟨hk, -⟩ | hrest)
      · exact .inl hk.symm
      · exact .inr (.inr hrest)

theorem Tracked.create {id : String} {areas : List UeransimArea} (h : Tracked stale configured s)
    (hrun : (create w id areas).run s = .ok u s') : Tracked stale configured s' := by
  refine forM_ok_keeps ?_ h hrun
  intro area _ s₁ s₂ h₁ harea
  unfold createArea at harea
  obtain ⟨_, s₃, hgnb, hues⟩ := bind_ok_iff.1 harea
  exact forM_ok_keeps (fun ue _ _ _ h₃ hue => h₃.createUe hue) (h₁.createGnb hgnb) hues

/-! ### Requests that change the UEs -/

theorem deregistered_perm {registered others : List UeransimResource} (h : registered.Perm (r :: others))
    (hdistinct : (registered.map UeransimResource.id).Nodup) :
    (registered.filter (fun r' => decide (r'.id ≠ r.id))).Perm others := by
  have hnodup := (h.map UeransimResource.id).nodup_iff.1 hdistinct
  rw [List.map_cons, List.nodup_cons] at hnodup
  have hfilter := h.filter (fun r' => decide (r'.id ≠ r.id))
  rw [List.filter_cons_of_neg (by simp)] at hfilter
  refine hfilter.trans ?_
  rw [List.filter_eq_self.2]
  intro r' hr'
  refine decide_eq_true ?_
  intro hid
  exact hnodup.1 (hid ▸ List.mem_map_of_mem hr')

theorem deleteListedUe_ok {ueId : Int} {ue : BlueUeransimUe} (hsome : s.area areaId = some a)
    (hrun : (deleteListedUe w areaId ueId ue).run s = .ok u s') :
    ∃ t : UeransimBlueprint, t.areas = s.areas ∧ t.ids = s.ids ∧ s' = t.putArea areaId { a with ues := a.ues.erase ue } ∧
      t.registeredResources = (s.registeredResources.filter (fun r => decide (r.id ≠ ue.vmUe.id))).filter
        (fun r => decide (r.id ≠ ue.vmUeConfigurator.id)) := by
  unfold deleteListedUe at hrun
  rw [run_ite] at hrun
  split at hrun
  · obtain ⟨_, _, hderegister, hrun⟩ := bind_ok_iff.1 hrun
    cases deregisterUe_ok hderegister
    obtain ⟨_, _, hget, hrun⟩ := bind_ok_iff.1 hrun
    cases hget
    split at hrun
    · cases hrun
    · rename_i b hb
      have hab : b = a := Option.some.inj (hb.symm.trans hsome)
      rw [hab] at hrun
      refine ⟨_, ?_, ?_, modify_ok_iff.1 hrun, ?_⟩
      · rfl
      · rfl
      · rfl
  · cases hrun

theorem Tracked.deleteListedUe {ueId : Int} {ue : BlueUeransimUe} (h : Tracked stale configured s) (hsome : s.area areaId = some a)
    (hues : a.ues = ue :: rest) (hrun : (deleteListedUe w areaId ueId ue).run s = .ok u s') :
    Tracked stale configured s' ∧ s'.area areaId = some { a with ues := rest } := by
  obtain ⟨t, ht, htids, rfl, hregistered⟩ := deleteListedUe_ok hsome hrun
  have herase : a.ues.erase ue = rest := by
    rw [hues, List.erase_cons_head]
  rw [herase]
  obtain ⟨others, hrep⟩ : ∃ others, Replaces areaId a { a with ues := rest } others s.areas
      (t.putArea areaId { a with ues := rest }).areas := Replaces.of_put hsome ht rfl rfl
  have hperm : s.registeredResources.Perm
      (.vm ue.vmUe :: .ueConfigurator ue.vmUeConfigurator :: (held (t.putArea areaId { a with ues := rest }).areas ++ stale.map .gnbConfigurator)) := by
    have hold := h.registered
    have hbefore := hrep.held_before
    have hafter := hrep.held_after
    rw [← Multiset.coe_eq_coe] at hold hbefore hafter ⊢
    simp only [BlueUeransimArea.held, hues, List.flatMap_cons, BlueUeransimUe.held, ← Multiset.coe_add, ← Multiset.cons_coe,
      Multiset.coe_nil, ← Multiset.singleton_add] at hold hbefore hafter ⊢
    rw [hold, hbefore, hafter]
    abel
  have hvm := deregistered_perm hperm h.distinct
  have hdistinct : ((s.registeredResources.filter (fun r => decide (r.id ≠ ue.vmUe.id))).map UeransimResource.id).Nodup :=
    h.distinct.sublist (List.filter_sublist.map _)
  have hboth := deregistered_perm hvm hdistinct
  refine ⟨⟨?_, ?_, ?_, ?_, ?_, ?_⟩, area_putArea _ _ _⟩
  · rw [putArea_registeredResources, hregistered, putArea_ids, htids]
    intro r hr
    exact h.given r (List.mem_of_mem_filter (List.mem_of_mem_filter hr))
  · rw [putArea_registeredResources, hregistered]
    exact hdistinct.sublist (List.filter_sublist.map _)
  · rw [putArea_registeredResources, hregistered]
    exact hboth
  · intro c hc
    obtain ⟨p, hp, hgnb⟩ := h.replaced c hc
    obtain ⟨p', hp', hgnb'⟩ := hrep.keep hp
    exact ⟨p', hp', hgnb'.trans hgnb⟩
  · refine hrep.all h.matched ?_
    intro hold
    refine ⟨hold.net, hold.gnb, ?_⟩
    intro other hother
    exact hold.ues other (by rw [hues]; exact List.mem_cons_of_mem ue hother)
  · intro k
    rw [h.configured_iff k]
    exact (hrep.exists_iff (Q := fun key area => key = k ∧ area.vmGnbConfigurator ≠ none) Iff.rfl).symm

theorem Tracked.deleteUe {ueId : Int} (h : Tracked stale configured s) (hrun : (deleteUe w areaId ueId).run s = .ok u s') :
    Tracked stale configured s' := by
  have hloop : ∀ ues s a, Tracked stale configured s → s.area areaId = some a → a.ues = ues →
      (forM ues (UeransimBlueprint.deleteListedUe w areaId ueId)).run s = .ok u s' → Tracked stale configured s' := by
    intro ues
    induction ues with
    | nil =>
      intro s a h _ _ hrun
      cases hrun
      exact h
    | cons ue ues ih =>
      intro s a h hsome hues hrun
      rw [List.forM_cons] at hrun
      obtain ⟨_, s₁, hue, hrun⟩ := bind_ok_iff.1 hrun
      obtain ⟨h₁, hsome₁⟩ := h.deleteListedUe hsome hues hue
      exact ih s₁ _ h₁ hsome₁ rfl hrun
  unfold UeransimBlueprint.deleteUe at hrun
  obtain ⟨_, _, hget, hrun⟩ := bind_ok_iff.1 hrun
  cases hget
  split at hrun
  · cases hrun
  · rename_i area hsome
    exact hloop area.ues s area h hsome rfl hrun

/-- A registered configurator with the id has the same VM. -/
def Agrees (c : UeransimUEConfigurator) (s : UeransimBlueprint) : Prop :=
  ∀ old, .ueConfigurator old ∈ s.registeredResources → old.id = c.id → old.vmResource = c.vmResource

theorem id_write (c : UeransimUEConfigurator) (r : UeransimResource) : (r.write c).id = r.id := by
  cases r with
  | ueConfigurator old =>
    rw [UeransimResource.write]
    split
    · rename_i hid
      exact hid.symm
    · rfl
  | _ => rfl

theorem Agrees.write {c d : UeransimUEConfigurator} (h : Agrees c s) (hd : Agrees d s) : Agrees c (s.write d) := by
  intro old hold hid
  obtain ⟨r, hr, hrold⟩ := List.mem_map.1 hold
  cases r with
  | ueConfigurator before =>
    rw [UeransimResource.write, UeransimResource.ueConfigurator.injEq] at hrold
    split at hrold
    · rename_i hbefore
      rw [← hrold] at hid ⊢
      rw [← hd before hr hbefore]
      exact h before hr (hbefore.trans hid)
    · rw [← hrold] at hid ⊢
      exact h before hr hid
  | _ => cases hrold

theorem held_write (c : UeransimUEConfigurator) (areas : List (String × BlueUeransimArea)) :
    held (areas.map (fun p => (p.1, p.2.write c))) = (held areas).map (UeransimResource.write c) := by
  simp only [held, List.flatMap_map, List.map_flatMap]
  congr 1
  funext p
  simp only [BlueUeransimArea.held, BlueUeransimArea.write, List.map_append, List.map_cons, List.map_nil, UeransimResource.write,
    List.map_map, List.flatMap_map, List.map_flatMap, BlueUeransimUe.held]
  rfl

theorem Tracked.write {c : UeransimUEConfigurator} (h : Tracked stale configured s) (hc : Agrees c s) :
    Tracked stale configured (s.write c) := by
  have hids : (s.registeredResources.map (UeransimResource.write c)).map UeransimResource.id =
      s.registeredResources.map UeransimResource.id := by
    rw [List.map_map]
    exact List.map_congr_left (fun r _ => id_write c r)
  refine ⟨?_, ?_, ?_, ?_, ?_, ?_⟩
  · intro r hr
    obtain ⟨r', hr', rfl⟩ := List.mem_map.1 hr
    rw [id_write]
    exact h.given r' hr'
  · exact hids ▸ h.distinct
  · have hmap := h.registered.map (UeransimResource.write c)
    rw [List.map_append, ← held_write, List.map_map] at hmap
    exact hmap
  · intro d hd
    obtain ⟨p, hp, hgnb⟩ := h.replaced d hd
    exact ⟨_, List.mem_map_of_mem hp, hgnb⟩
  · intro p' hp'
    obtain ⟨p, hp, rfl⟩ := List.mem_map.1 hp'
    have hold := h.matched p hp
    refine ⟨hold.net, hold.gnb, ?_⟩
    intro ue' hue'
    obtain ⟨ue, hue, rfl⟩ := List.mem_map.1 hue'
    have hmatch := hold.ues ue hue
    have hmem : UeransimResource.ueConfigurator ue.vmUeConfigurator ∈ s.registeredResources :=
      h.mem_of_held hp (List.mem_append_right _ (List.mem_flatMap.2 ⟨ue, hue, List.mem_cons_of_mem _ List.mem_cons_self⟩))
    dsimp only
    split
    · rename_i hid
      exact (hc _ hmem hid).symm.trans hmatch
    · exact hmatch
  · intro k
    rw [h.configured_iff k]
    constructor
    · rintro ⟨p, hp, hk⟩
      exact ⟨_, List.mem_map_of_mem hp, hk⟩
    · rintro ⟨p', hp', hk⟩
      obtain ⟨p, hp, rfl⟩ := List.mem_map.1 hp'
      exact ⟨p, hp, hk⟩

/-- The configurator changes, and its playbook is run. -/
theorem Tracked.reconfigured {c : UeransimUEConfigurator} (h : Tracked stale configured s) (hc : Agrees c s)
    (hrun : (configureUe w c).run (s.write c) = .ok u s') : Tracked stale configured s' ∧ ∀ d, Agrees d s → Agrees d s' := by
  have hcleared : Agrees { c with simsToDelete := [] } (s.write c) := hc.write hc
  rw [configureUe_ok hrun]
  constructor
  · exact ((h.write hc).write hcleared).of_eq rfl rfl (Nat.le_refl _)
  · intro d hd
    exact (hd.write hc).write hcleared

theorem Tracked.agrees (h : Tracked stale configured s) (hp : p ∈ s.areas) (hue : ue ∈ p.2.ues) : Agrees ue.vmUeConfigurator s := by
  intro old hold hid
  have hmem : UeransimResource.ueConfigurator ue.vmUeConfigurator ∈ s.registeredResources :=
    h.mem_of_held hp (List.mem_append_right _ (List.mem_flatMap.2 ⟨ue, hue, List.mem_cons_of_mem _ List.mem_cons_self⟩))
  cases h.eq_of_id hold hmem hid
  rfl

theorem Tracked.addSim {ueId : Int} {sim : UeransimSim} (h : Tracked stale configured s)
    (hrun : (addSim w areaId ueId sim).run s = .ok u s') : Tracked stale configured s' := by
  unfold UeransimBlueprint.addSim at hrun
  obtain ⟨_, _, hget, hrun⟩ := bind_ok_iff.1 hrun
  cases hget
  split at hrun
  · cases hrun
  · rename_i area hsome
    have hagree : ∀ ue ∈ area.ues, Agrees ue.vmUeConfigurator s := fun ue hue => h.agrees (area_mem hsome) hue
    refine (forM_ok_keeps (I := fun s => Tracked stale configured s ∧ ∀ ue ∈ area.ues, Agrees ue.vmUeConfigurator s) ?_
      ⟨h, hagree⟩ hrun).1
    rintro ue hue s₁ s₂ ⟨h₁, hagree₁⟩ hue₁
    unfold addSimToUe at hue₁
    rw [run_ite] at hue₁
    split at hue₁
    · dsimp only at hue₁
      rw [run_ite] at hue₁
      split at hue₁
      · cases hue₁
      · obtain ⟨_, s₃, hwrite, hconfigure⟩ := bind_ok_iff.1 hue₁
        rw [modify_ok_iff.1 hwrite] at hconfigure
        obtain ⟨h₂, hkeep⟩ := h₁.reconfigured (by exact hagree₁ ue hue) hconfigure
        exact ⟨h₂, fun other hother => hkeep _ (hagree₁ other hother)⟩
    · cases hue₁
      exact ⟨h₁, hagree₁⟩

theorem Tracked.delSim {ueId : Int} {imsi : String} (h : Tracked stale configured s)
    (hrun : (delSim w areaId ueId imsi).run s = .ok u s') : Tracked stale configured s' := by
  unfold UeransimBlueprint.delSim at hrun
  obtain ⟨_, _, hget, hrun⟩ := bind_ok_iff.1 hrun
  cases hget
  split at hrun
  · cases hrun
  · rename_i area hsome
    split at hrun
    · cases hrun
      exact h
    · rename_i ue hue
      have hagree := h.agrees (area_mem hsome) (List.mem_of_find?_eq_some hue)
      split at hrun
      · cases hrun
      · obtain ⟨_, s₁, hwrite, hconfigure⟩ := bind_ok_iff.1 hrun
        rw [modify_ok_iff.1 hwrite] at hconfigure
        exact (h.reconfigured (by exact hagree) hconfigure).1

/-! ### A run without a deletion of a gNB -/

end UeransimBlueprint

namespace UeransimCall

def isDelGnb : UeransimCall → Bool
  | .delGnb _ => true
  | _ => false

/-- The area whose gNB the request configures. -/
def configures : UeransimCall → Option String
  | .configureGnb model => some (toString model.area)
  | _ => none

/-- The configurator that the request replaces. -/
def replaced (s : UeransimBlueprint) (call : UeransimCall) : List UeransimGNBConfigurator :=
  ((call.configures.bind s.area).bind BlueUeransimArea.vmGnbConfigurator).toList

end UeransimCall

namespace UeransimBlueprint

variable {stale : List UeransimGNBConfigurator} {configured : List String}
variable {s s' : UeransimBlueprint} {w : UeransimServices} {id : String} {endpoints : UeransimNetworkEndpoints}
variable {call : UeransimCall} {calls : List UeransimCall}

theorem Tracked.exec (h : Tracked stale configured s) (hcall : call.isDelGnb = false)
    (hrun : (call.exec w id endpoints).run s = .ok u s') :
    Tracked (call.replaced s ++ stale) (call.configures.toList ++ configured) s' := by
  cases call with
  | create areas => exact h.create hrun
  | addGnb areaId => exact h.createGnb hrun
  | configureGnb model =>
    obtain ⟨area, hsome, h'⟩ := h.configureGnb hrun
    have hreplaced : (UeransimCall.configureGnb model).replaced s = area.vmGnbConfigurator.toList := by
      rw [UeransimCall.replaced, UeransimCall.configures, Option.bind_some, hsome, Option.bind_some]
    rw [hreplaced]
    exact h'
  | delGnb areaId => cases hcall
  | addUe areaId ue => exact h.createUe hrun
  | delUe areaId ueId => exact h.deleteUe hrun
  | addSim areaId ueId sim => exact h.addSim hrun
  | delSim areaId ueId imsi => exact h.delSim hrun

/-- A gNB or a UE of the state has the VM. -/
def HasVm (s : UeransimBlueprint) (vm : UeransimVm) : Prop :=
  ∃ p ∈ s.areas, p.2.vmGnb = vm ∨ ∃ ue ∈ p.2.ues, ue.vmUe = vm

/-- A gNB or a UE of the state has the configurator. -/
def HasConfigurator (s : UeransimBlueprint) (r : UeransimResource) : Prop :=
  ∃ p ∈ s.areas, (∃ c, p.2.vmGnbConfigurator = some c ∧ r = .gnbConfigurator c) ∨
    ∃ ue ∈ p.2.ues, r = .ueConfigurator ue.vmUeConfigurator

/-- The blueprint is not marked as corrupted, and every registered VM and configurator is of a gNB or a UE. -/
structure Consistent (s : UeransimBlueprint) : Prop where
  serialized : ∃ c, BlueprintNG.serializeContent s.content = .ok c ∧ c.corrupted = false
  vms : ∀ vm, .vm vm ∈ s.registeredResources → s.HasVm vm
  configurators : ∀ r ∈ s.registeredResources, ∀ vm, r.vmResource = some vm → s.HasVm vm

/-- Every registered configurator is still the one that its gNB or UE has. -/
def Current (s : UeransimBlueprint) : Prop :=
  ∀ r ∈ s.registeredResources, r.vmResource ≠ none → s.HasConfigurator r

/-- No registered resource is in the area. -/
def Cleared (s : UeransimBlueprint) (areaId : String) : Prop :=
  ∀ r ∈ s.registeredResources, PyInt.parse areaId ≠ .ok r.area

theorem mem_held_cases {areas : List (String × BlueUeransimArea)} (h : r ∈ held areas) :
    ∃ p ∈ areas, r = .net p.2.radioNet ∨ r = .vm p.2.vmGnb ∨ (∃ c, p.2.vmGnbConfigurator = some c ∧ r = .gnbConfigurator c) ∨
      ∃ ue ∈ p.2.ues, r = .vm ue.vmUe ∨ r = .ueConfigurator ue.vmUeConfigurator := by
  obtain ⟨p, hp, hr⟩ := List.mem_flatMap.1 h
  refine ⟨p, hp, ?_⟩
  rw [BlueUeransimArea.held, List.mem_append, List.mem_append] at hr
  rcases hr with (hr | hr) | hr
  · simp only [List.mem_cons, List.not_mem_nil, or_false] at hr
    rcases hr with hr | hr
    · exact .inl hr
    · exact .inr (.inl hr)
  · obtain ⟨c, hc, hr⟩ := List.mem_map.1 hr
    exact .inr (.inr (.inl ⟨c, Option.mem_toList.1 hc, hr.symm⟩))
  · obtain ⟨ue, hue, hr⟩ := List.mem_flatMap.1 hr
    simp only [BlueUeransimUe.held, List.mem_cons, List.not_mem_nil, or_false] at hr
    exact .inr (.inr (.inr ⟨ue, hue, hr⟩))

theorem Tracked.hasVm (h : Tracked stale configured s) (hr : r ∈ s.registeredResources)
    (hvm : r = .vm vm ∨ r.vmResource = some vm) : s.HasVm vm := by
  rcases List.mem_append.1 (h.registered.mem_iff.1 hr) with hr | hr
  · obtain ⟨p, hp, hr⟩ := mem_held_cases hr
    have hmatched := h.matched p hp
    refine ⟨p, hp, ?_⟩
    rcases hr with rfl | rfl | ⟨c, hc, rfl⟩ | ⟨ue, hue, rfl | rfl⟩
    · rcases hvm with hvm | hvm
      · cases hvm
      · cases hvm
    · rcases hvm with hvm | hvm
      · cases hvm
        exact .inl rfl
      · cases hvm
    · rcases hvm with hvm | hvm
      · cases hvm
      · cases hvm
        exact .inl (hmatched.gnb c hc).symm
    · rcases hvm with hvm | hvm
      · cases hvm
        exact .inr ⟨ue, hue, rfl⟩
      · cases hvm
    · rcases hvm with hvm | hvm
      · cases hvm
      · cases hvm
        exact .inr ⟨ue, hue, (hmatched.ues ue hue).symm⟩
  · obtain ⟨c, hc, rfl⟩ := List.mem_map.1 hr
    obtain ⟨p, hp, hgnb⟩ := h.replaced c hc
    rcases hvm with hvm | hvm
    · cases hvm
    · cases hvm
      exact ⟨p, hp, .inl hgnb⟩

theorem Tracked.registered_vm (h : Tracked stale configured s) (hvm : s.HasVm vm) : .vm vm ∈ s.registeredResources := by
  obtain ⟨p, hp, rfl | ⟨ue, hue, rfl⟩⟩ := hvm
  · exact h.mem_of_held hp (List.mem_append_left _ (List.mem_append_left _ (List.mem_cons_of_mem _ List.mem_cons_self)))
  · exact h.mem_of_held hp (List.mem_append_right _ (List.mem_flatMap.2 ⟨ue, hue, List.mem_cons_self⟩))

theorem registered_toPy (hr : r ∈ s.registeredResources) : BlueprintNG.Registered s.content.ids r.toPy := by
  refine ⟨toString r.id, r.id_toPy, ?_⟩
  rw [BlueprintContent.ids, content, List.map_map]
  exact List.mem_map.2 ⟨r, hr, rfl⟩

theorem Tracked.allOf (h : Tracked stale configured s) (hp : p ∈ s.areas) : p.2.AllOf (fun r => BlueprintNG.Registered s.content.ids r.toPy) := by
  have hmatched := h.matched p hp
  have hgnb := h.registered_vm ⟨p, hp, .inl rfl⟩
  refine ⟨registered_toPy hgnb, registered_toPy (h.mem_of_held hp List.mem_cons_self), ?_, ?_⟩
  · intro c hc
    constructor
    · refine registered_toPy (h.mem_of_held hp (List.mem_append_left _ (List.mem_append_right _ ?_)))
      exact List.mem_map.2 ⟨c, Option.mem_toList.2 hc, rfl⟩
    · rw [hmatched.gnb c hc]
      exact registered_toPy hgnb
  · intro ue hue
    have hvm := h.registered_vm ⟨p, hp, .inr ⟨ue, hue, rfl⟩⟩
    refine ⟨registered_toPy hvm, ?_, ?_⟩
    · refine registered_toPy (h.mem_of_held hp (List.mem_append_right _ ?_))
      exact List.mem_flatMap.2 ⟨ue, hue, List.mem_cons_of_mem _ List.mem_cons_self⟩
    · rw [hmatched.ues ue hue]
      exact registered_toPy hvm

theorem Tracked.consistent (h : Tracked stale configured s) : s.Consistent := by
  have hstate : BlueprintNG.AllRegistered s.content.ids s.content.state PyLabel.isResource := by
    intro r hr
    exact (UeransimBlueprint.shaped (fun p hp => h.allOf hp)).every r (KeyedTrees.Tree.found_mono (fun _ hl => hl) hr)
  have hresources : ∀ p ∈ s.content.configurations, BlueprintNG.AllRegistered s.content.ids p.2 PyLabel.isDeployable := by
    intro p hp r hr
    obtain ⟨r', hr', rfl⟩ := List.mem_map.1 (List.mem_of_mem_filter hp)
    have hshaped : PyObj.Shaped (BlueprintNG.Registered s.content.ids) r'.toPy := by
      refine UeransimResource.shaped (registered_toPy hr') ?_
      intro vm hvm
      exact registered_toPy (h.registered_vm (h.hasVm hr' (.inr hvm)))
    exact hshaped.every r (KeyedTrees.Tree.found_mono (fun _ hl => BlueprintContent.isResource_of_isDeployable hl) hr)
  refine ⟨?_, ?_, ?_⟩
  · rcases s.content.serializeContent_cases with ⟨-, heq⟩ | ⟨hout, -⟩
    · exact ⟨_, heq, rfl⟩
    · rcases hout with hbad | ⟨p, hp, hbad⟩
      · exact absurd hstate hbad
      · exact absurd (hresources p hp) hbad
  · intro vm hvm
    exact h.hasVm hvm (.inl rfl)
  · intro r hr vm hvm
    exact h.hasVm hr (.inr hvm)

/-- Only a replaced configurator is not the one that its gNB has. -/
theorem Tracked.current_iff (h : Tracked stale configured s) : s.Current ↔ stale = [] := by
  constructor
  · intro hcurrent
    rw [List.eq_nil_iff_forall_not_mem]
    intro c hc
    have hmem : UeransimResource.gnbConfigurator c ∈ s.registeredResources :=
      h.registered.mem_iff.2 (List.mem_append_right _ (List.mem_map_of_mem hc))
    obtain ⟨p, hp, ⟨c', hc', heq⟩ | ⟨ue, hue, heq⟩⟩ := hcurrent _ hmem (Option.some_ne_none _)
    · have hheld : UeransimResource.gnbConfigurator c ∈ held s.areas := by
        refine List.mem_flatMap.2 ⟨p, hp, List.mem_append_left _ (List.mem_append_right _ ?_)⟩
        exact List.mem_map.2 ⟨c', Option.mem_toList.2 hc', heq.symm⟩
      have hnodup := (h.registered.map UeransimResource.id).nodup_iff.1 h.distinct
      rw [List.map_append, List.nodup_append] at hnodup
      exact hnodup.2.2 _ (List.mem_map_of_mem hheld) _ (List.mem_map_of_mem (List.mem_map_of_mem hc)) rfl
    · cases heq
  · rintro rfl r hr hvm
    rw [h.registered.mem_iff, List.map_nil, List.append_nil] at hr
    obtain ⟨p, hp, rfl | rfl | hc | ⟨ue, hue, rfl | rfl⟩⟩ := mem_held_cases hr
    · exact absurd rfl hvm
    · exact absurd rfl hvm
    · exact ⟨p, hp, .inl hc⟩
    · exact absurd rfl hvm
    · exact ⟨p, hp, .inr ⟨ue, hue, rfl⟩⟩

/-! ### The deletion of a gNB -/

theorem mem_deregistered {n : Nat} {registered : List UeransimResource} (hr : r ∈ registered) (hid : r.id ≠ n) :
    r ∈ registered.filter (fun r' => decide (r'.id ≠ n)) :=
  List.mem_filter.2 ⟨hr, decide_eq_true hid⟩

theorem deleteGnb_keeps_net {areaId : String} (h : Tracked stale configured s) (hrun : (deleteGnb w areaId).run s = .ok u s') :
    ¬ s'.Cleared areaId := by
  unfold deleteGnb at hrun
  obtain ⟨_, _, hget, hrun⟩ := bind_ok_iff.1 hrun
  cases hget
  split at hrun
  · cases hrun
  · rename_i area hsome
    have hp := area_mem hsome
    have hnet : UeransimResource.net area.radioNet ∈ s.registeredResources := h.mem_of_held hp List.mem_cons_self
    have hne : ∀ r, r ∈ area.held → r ≠ .net area.radioNet → (UeransimResource.net area.radioNet).id ≠ r.id := by
      intro r hr hr' hid
      exact hr' (h.eq_of_id (h.mem_of_held hp hr) hnet hid.symm)
    obtain ⟨_, s₁, hues, hrun⟩ := bind_ok_iff.1 hrun
    have h₁ : UeransimResource.net area.radioNet ∈ s₁.registeredResources := by
      refine forM_ok_keeps (I := fun t => UeransimResource.net area.radioNet ∈ t.registeredResources) ?_ hnet hues
      intro ue hue t t' ht hrun
      have hheld : ∀ r ∈ ue.held, r ∈ area.held :=
        fun r hr => List.mem_append_right _ (List.mem_flatMap.2 ⟨ue, hue, hr⟩)
      rw [deregisterUe_ok hrun]
      refine mem_deregistered (mem_deregistered ht ?_) ?_
      · exact hne (.vm ue.vmUe) (hheld _ List.mem_cons_self) (fun he => (nomatch he))
      · exact hne (.ueConfigurator ue.vmUeConfigurator) (hheld _ (List.mem_cons_of_mem _ List.mem_cons_self)) (fun he => (nomatch he))
    obtain ⟨_, s₂, hattempt, hrun⟩ := bind_ok_iff.1 hrun
    have h₂ : UeransimResource.net area.radioNet ∈ s₂.registeredResources := by
      rw [attempt_ok hattempt]
      exact h₁
    obtain ⟨_, s₃, hgnb, hrun⟩ := bind_ok_iff.1 hrun
    have h₃ : UeransimResource.net area.radioNet ∈ s₃.registeredResources := by
      rw [deregisterResource_ok hgnb]
      exact mem_deregistered h₂ (hne (.vm area.vmGnb) (List.mem_cons_of_mem _ List.mem_cons_self) (fun he => (nomatch he)))
    have hrest : ∀ t, UeransimResource.net area.radioNet ∈ t.registeredResources →
        (do modify (fun s => s.delArea areaId); let _ ← parsedArea areaId : UeransimM Unit).run t = .ok u s' →
        UeransimResource.net area.radioNet ∈ s'.registeredResources := by
      intro t ht hrun
      obtain ⟨_, s₅, hdel, hrun⟩ := bind_ok_iff.1 hrun
      rw [modify_ok_iff.1 hdel] at hrun
      obtain ⟨n, s₆, hparse, hrun⟩ := bind_ok_iff.1 hrun
      rw [(parsedArea_ok hparse).2] at hrun
      cases hrun
      exact ht
    have h' : UeransimResource.net area.radioNet ∈ s'.registeredResources := by
      cases hc : area.vmGnbConfigurator with
      | none =>
        rw [hc] at hrun
        exact hrest s₃ h₃ hrun
      | some c =>
        rw [hc] at hrun
        obtain ⟨_, s₄, hconfigurator, hrun⟩ := bind_ok_iff.1 hrun
        refine hrest s₄ ?_ hrun
        rw [deregisterResource_ok hconfigurator]
        refine mem_deregistered h₃ (hne (.gnbConfigurator c) ?_ (fun he => (nomatch he)))
        refine List.mem_append_left _ (List.mem_append_right _ ?_)
        rw [hc]
        exact List.mem_cons_self
    intro hcleared
    exact hcleared _ h' (h.matched _ hp).net

/-! ### Runs -/

section Runs

variable (w : UeransimServices) (id : String) (endpoints : UeransimNetworkEndpoints)

/-- The request goes through. -/
def Succeeds (call : UeransimCall) (s : UeransimBlueprint) : Prop :=
  ¬ Raised ((call.exec w id endpoints).run s)

/-- The state after the request is consistent, and after the deletion of a gNB its area is cleared. -/
def LeavesConsistent (call : UeransimCall) (s : UeransimBlueprint) : Prop :=
  (finalState ((call.exec w id endpoints).run s)).Consistent ∧
    ∀ areaId, call = .delGnb areaId → (finalState ((call.exec w id endpoints).run s)).Cleared areaId

/-- The same, and every registered configurator is current. -/
def LeavesCurrent (call : UeransimCall) (s : UeransimBlueprint) : Prop :=
  LeavesConsistent w id endpoints call s ∧ (finalState ((call.exec w id endpoints).run s)).Current

variable {w id endpoints}

theorem Tracked.succeeds (h : Tracked stale configured s) (hcall : call.isDelGnb = false) (hok : Succeeds w id endpoints call s) :
    Tracked (call.replaced s ++ stale) (call.configures.toList ++ configured) (finalState ((call.exec w id endpoints).run s)) :=
  h.exec hcall (eq_ok_of_not_raised hok)

theorem Tracked.leavesConsistent_iff (h : Tracked stale configured s) (hok : Succeeds w id endpoints call s) :
    LeavesConsistent w id endpoints call s ↔ call.isDelGnb = false := by
  constructor
  · rintro ⟨-, hcleared⟩
    cases call with
    | delGnb areaId => exact absurd (hcleared areaId rfl) (deleteGnb_keeps_net h (eq_ok_of_not_raised hok))
    | _ => rfl
  · intro hcall
    refine ⟨(h.succeeds hcall hok).consistent, ?_⟩
    rintro areaId rfl
    cases hcall

theorem Tracked.consistent_iff (h : Tracked stale configured s) (hok : AllSteps (UeransimCall.exec w id endpoints) (Succeeds w id endpoints) s calls) :
    AllSteps (UeransimCall.exec w id endpoints) (LeavesConsistent w id endpoints) s calls ↔ ∀ call ∈ calls, call.isDelGnb = false := by
  induction calls generalizing stale configured s with
  | nil => exact ⟨fun _ call hcall => absurd hcall List.not_mem_nil, fun _ => trivial⟩
  | cons call calls ih =>
    rw [List.forall_mem_cons]
    refine (and_congr_left' (h.leavesConsistent_iff hok.1)).trans (and_congr_right ?_)
    intro hcall
    exact ih (h.succeeds hcall hok.1) hok.2

/-- A gNB is configured for the first time exactly if its request replaces nothing. -/
theorem Tracked.replaced_eq_nil (h : Tracked stale configured s) (call : UeransimCall) :
    call.replaced s = [] ↔ ∀ k ∈ call.configures, k ∉ configured := by
  rw [UeransimCall.replaced, Option.toList_eq_nil_iff]
  cases call.configures with
  | none => exact ⟨fun _ k hk => (nomatch hk), fun _ => rfl⟩
  | some areaId =>
    have hiff : (s.area areaId).bind BlueUeransimArea.vmGnbConfigurator = none ↔ areaId ∉ configured := by
      rw [h.configured_iff areaId]
      constructor
      · rintro hnone ⟨p, hp, rfl, hsome⟩
        refine hsome ?_
        have hget := KeyedList.Unique.toMap_mem s.unique hp
        rw [UeransimBlueprint.area, hget] at hnone
        exact hnone
      · intro hnone
        cases hget : s.area areaId with
        | none => rfl
        | some area =>
          by_contra hsome
          exact hnone ⟨_, area_mem hget, rfl, hsome⟩
    rw [Option.bind_some, hiff]
    exact ⟨fun hk k hk' => (Option.some.inj hk') ▸ hk, fun hk => hk areaId rfl⟩

theorem Tracked.current_run_iff (h : Tracked [] configured s) (hok : AllSteps (UeransimCall.exec w id endpoints) (Succeeds w id endpoints) s calls) :
    AllSteps (UeransimCall.exec w id endpoints) (LeavesCurrent w id endpoints) s calls ↔
      (∀ call ∈ calls, call.isDelGnb = false) ∧ (calls.filterMap UeransimCall.configures).Nodup ∧
        ∀ k ∈ calls.filterMap UeransimCall.configures, k ∉ configured := by
  induction calls generalizing configured s with
  | nil =>
    refine ⟨fun _ => ⟨?_, List.nodup_nil, ?_⟩, fun _ => trivial⟩
    · intro call hcall
      cases hcall
    · intro k hk
      cases hk
  | cons call calls ih =>
    rw [List.forall_mem_cons]
    have hfirst : LeavesCurrent w id endpoints call s ↔ call.isDelGnb = false ∧ ∀ k ∈ call.configures, k ∉ configured := by
      refine (and_congr_left' (h.leavesConsistent_iff hok.1)).trans (and_congr_right ?_)
      intro hcall
      rw [(h.succeeds hcall hok.1).current_iff, List.append_nil]
      exact h.replaced_eq_nil call
    show LeavesCurrent w id endpoints call s ∧ _ ↔ _
    rw [hfirst]
    constructor
    · rintro ⟨⟨hcall, hnew⟩, hrest⟩
      have h' := h.succeeds hcall hok.1
      rw [(h.replaced_eq_nil call).2 hnew, List.append_nil] at h'
      obtain ⟨hdel, hnodup, hfresh⟩ := (ih h' hok.2).1 hrest
      refine ⟨⟨hcall, hdel⟩, ?_⟩
      cases hconf : call.configures with
      | none =>
        rw [List.filterMap_cons_none hconf]
        rw [hconf] at hfresh
        exact ⟨hnodup, hfresh⟩
      | some areaId =>
        rw [List.filterMap_cons_some hconf, List.nodup_cons, List.forall_mem_cons]
        rw [hconf] at hfresh hnew
        refine ⟨⟨fun hmem => hfresh areaId hmem List.mem_cons_self, hnodup⟩, hnew areaId rfl, ?_⟩
        intro k hk hmem
        exact hfresh k hk (List.mem_cons_of_mem _ hmem)
    · rintro ⟨⟨hcall, hdel⟩, hnodup, hfresh⟩
      have hnew : ∀ k ∈ call.configures, k ∉ configured := by
        intro k hk
        rw [List.filterMap_cons_some hk] at hfresh
        exact hfresh k List.mem_cons_self
      refine ⟨⟨hcall, hnew⟩, ?_⟩
      have h' := h.succeeds hcall hok.1
      rw [(h.replaced_eq_nil call).2 hnew, List.append_nil] at h'
      refine (ih h' hok.2).2 ⟨hdel, ?_⟩
      cases hconf : call.configures with
      | none =>
        rw [List.filterMap_cons_none hconf] at hnodup hfresh
        exact ⟨hnodup, hfresh⟩
      | some areaId =>
        rw [List.filterMap_cons_some hconf] at hnodup hfresh
        obtain ⟨hnot, hnodup⟩ := List.nodup_cons.1 hnodup
        refine ⟨hnodup, ?_⟩
        intro k hk hmem
        rcases List.mem_cons.1 hmem with rfl | hmem
        · exact hnot hk
        · exact hfresh k (List.mem_cons_of_mem _ hk) hmem

theorem tracked_empty : Tracked [] [] {} := by
  refine ⟨?_, List.nodup_nil, .refl _, ?_, ?_, ?_⟩
  · intro r hr
    cases hr
  · intro c hc
    cases hc
  · intro p hp
    cases hp
  · intro k
    constructor
    · intro hk
      cases hk
    · rintro ⟨p, hp, -⟩
      cases hp

end Runs

/-- The registry follows the state in a run without a deletion of a gNB, and it has only current
configurators if besides no gNB is configured twice. -/
theorem registry_follows_state (w : UeransimServices) (id : String) (endpoints : UeransimNetworkEndpoints) (calls : List UeransimCall)
    (hok : AllSteps (UeransimCall.exec w id endpoints) (Succeeds w id endpoints) {} calls) :
    (UeransimBlueprint.Consistent {} ∧ AllSteps (UeransimCall.exec w id endpoints) (LeavesConsistent w id endpoints) {} calls ↔
        ∀ call ∈ calls, call.isDelGnb = false) ∧
      (UeransimBlueprint.Consistent {} ∧ AllSteps (UeransimCall.exec w id endpoints) (LeavesCurrent w id endpoints) {} calls ↔
        (∀ call ∈ calls, call.isDelGnb = false) ∧ (calls.filterMap UeransimCall.configures).Nodup) := by
  have hstart : UeransimBlueprint.Consistent {} := tracked_empty.consistent
  rw [and_iff_right hstart, and_iff_right hstart]
  refine ⟨tracked_empty.consistent_iff hok, (tracked_empty.current_run_iff hok).trans ?_⟩
  refine and_congr_right (fun _ => and_iff_left ?_)
  intro k _ hk
  cases hk

/-- Every call goes through, and every VM has one address on each network. -/
def quietServices : UeransimServices where
  raises _ := none
  hasVim _ _ := true
  networkInterfaces _ := [("radio_ran_1", [⟨"10.168.1.5", "ens5"⟩]), ("n2", [⟨"10.2.0.5", "ens3"⟩]), ("n3", [⟨"10.3.0.5", "ens4"⟩])]

def gnbModel : Ueransim.GNBPDUConfigure := ⟨1, "00101", 1, "10.2.0.1", "10.3.0.1", 38412, [], some []⟩

def ranCalls : List UeransimCall :=
  [.create [⟨1, [⟨some 1, some []⟩]⟩], .configureGnb gnbModel, .addSim "1" 1 ⟨"001010000000001", "00101", "k", "o", none⟩,
    .configureGnb gnbModel, .delUe "1" 1]

theorem ranCalls_succeed :
    AllSteps (UeransimCall.exec quietServices "ran" ⟨"mgt", "n2", "n3"⟩) (Succeeds quietServices "ran" ⟨"mgt", "n2", "n3"⟩) {} ranCalls := by
  refine ⟨?_, ?_, ?_, ?_, ?_, trivial⟩
  all_goals
    show ¬ Raised _
    decide +kernel

theorem registry_follows_state_ran :
    AllSteps (UeransimCall.exec quietServices "ran" ⟨"mgt", "n2", "n3"⟩) (Succeeds quietServices "ran" ⟨"mgt", "n2", "n3"⟩) {} ranCalls ∧
      AllSteps (UeransimCall.exec quietServices "ran" ⟨"mgt", "n2", "n3"⟩) (LeavesConsistent quietServices "ran" ⟨"mgt", "n2", "n3"⟩) {} ranCalls :=
  ⟨ranCalls_succeed, ((registry_follows_state quietServices "ran" ⟨"mgt", "n2", "n3"⟩ ranCalls ranCalls_succeed).1.2 (by decide)).2⟩

/-- The radio network of the gNB stays registered. -/
theorem registry_follows_state_fails :
    ¬ ∀ w id endpoints calls, AllSteps (UeransimCall.exec w id endpoints) (Succeeds w id endpoints) {} calls →
      UeransimBlueprint.Consistent {} ∧ AllSteps (UeransimCall.exec w id endpoints) (LeavesConsistent w id endpoints) {} calls := by
  intro h
  have hok : AllSteps (UeransimCall.exec quietServices "ran" ⟨"mgt", "n2", "n3"⟩) (Succeeds quietServices "ran" ⟨"mgt", "n2", "n3"⟩) {}
      [.addGnb "1", .delGnb "1"] := by
    refine ⟨?_, ?_, trivial⟩
    all_goals
      show ¬ Raised _
      decide +kernel
  have hall := (tracked_empty.consistent_iff hok).1 (h quietServices "ran" ⟨"mgt", "n2", "n3"⟩ _ hok).2
  exact nomatch hall (.delGnb "1") (List.mem_cons_of_mem _ List.mem_cons_self)

end UeransimBlueprint

end Nfvcl
