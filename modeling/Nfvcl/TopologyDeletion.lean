import Mathlib.Data.List.Basic
import Nfvcl.Effects
import Nfvcl.Topology

namespace Nfvcl
set_option autoImplicit true
open Effects

/-- Every other element, the first one included. -/
def everyOther : List α → List α
  | [] => []
  | [a] => [a]
  | a :: _ :: rest => a :: everyOther rest

@[simp] theorem length_everyOther : (xs : List α) → (everyOther xs).length = (xs.length + 1) / 2
  | [] => by simp only [everyOther, List.length_nil]
  | [_] => by simp only [everyOther, List.length_cons, List.length_nil]
  | _ :: _ :: rest => by
    simp only [everyOther, List.length_cons, length_everyOther rest]
    omega

theorem everyOther_perm {xs : List α} : (everyOther xs).Perm xs ↔ xs.length ≤ 1 := by
  constructor
  · intro h
    have hlen := h.length_eq
    rw [length_everyOther] at hlen
    omega
  · intro h
    match xs with
    | [] => exact List.Perm.refl _
    | [_] => exact List.Perm.refl _

namespace Topology

section Loop

variable (services : Services)

/-- The names the loop of `delete` calls `del_vim` with. -/
def deleteCalls (index : Nat) : Nat → Topology → List String
  | 0, _ => []
  | fuel + 1, s =>
    match s.model.bind (fun t => t.vims[index]?) with
    | none => []
    | some vim =>
      match (delVim services vim.name).run s with
      | .error _ _ => [vim.name]
      | .ok _ s' => vim.name :: deleteCalls (index + 1) fuel s'

theorem delVim_model (hrun : (delVim services vimName).run s = .ok () s') : s'.model.isSome := by
  obtain ⟨v, s₁, -, hrest⟩ := bind_ok_inv hrun
  obtain ⟨_, s₂, -, hrest⟩ := bind_ok_inv hrest
  obtain ⟨_, s₃, hsave, htrigger⟩ := bind_ok_inv hrest
  have hmodel : s₃.model.isSome := by
    obtain ⟨model, stored⟩ := s₂
    cases model with
    | none => cases hsave
    | some t =>
      rw [saveTopologyFromModel_run] at hsave
      cases hsave
      rfl
  rw [triggerRedisEvent_run] at htrigger
  cases hpub : services.publish .vimDel s₃.stored with
  | none =>
    rw [hpub] at htrigger
    cases htrigger
    exact hmodel
  | some e =>
    rw [hpub] at htrigger
    cases htrigger

/-- The loop is the sequence of these calls. -/
theorem deleteVims_run (fuel : Nat) (hs : s.model.isSome) :
    (deleteVims services index fuel).run s =
      (forM (deleteCalls services index fuel s) (delVim services)).run s := by
  induction fuel generalizing index s with
  | zero => rfl
  | succ fuel ih =>
    obtain ⟨model, stored⟩ := s
    obtain ⟨t, rfl⟩ := Option.isSome_iff_exists.1 hs
    have hread : (onModel "vims" (do let t ← get; return t.vims)).run ⟨some t, stored⟩ =
        .ok t.vims ⟨some t, stored⟩ := rfl
    rw [deleteVims, run_bind_ok _ _ hread]
    simp only [deleteCalls, Option.bind_some]
    cases hvim : t.vims[index]? with
    | none => rfl
    | some vim =>
      simp only []
      cases hdel : (delVim services vim.name).run ⟨some t, stored⟩ with
      | error e s' =>
        simp only [List.forM_cons, List.forM_nil]
        rw [run_bind_error _ _ hdel, run_bind_error _ _ hdel]
      | ok _ s' =>
        simp only [List.forM_cons]
        rw [run_bind_ok _ _ hdel, run_bind_ok _ _ hdel]
        exact ih (delVim_model services hdel)

end Loop

section Deletion

variable (services : Services) (hpub : ∀ event d, services.publish event d = none)
include hpub

/-- Deleting the VIM at a position takes out the first one of its name, which is not after it. -/
theorem delVim_at {t : TopologyModel} (hvim : t.vims[index]? = some vim) (d : Option TopologyModel) :
    ∃ t', (delVim services vim.name).run ⟨some t, d⟩ = .ok () ⟨some t', some t'⟩ ∧
      t'.vims.drop (index + 1) = t.vims.drop (index + 2) ∧ t'.vims.length + 1 = t.vims.length := by
  have hfirst : ∃ i, KeyedList.findIndex VimModel.name t.vims vim.name = some i ∧ i ≤ index :=
    KeyedList.findIndex_le hvim
  obtain ⟨i, hi, hle⟩ := hfirst
  obtain ⟨v, hv, hmap, hname⟩ := KeyedList.findIndex_some hi
  have hget : (onModel "get_vim" (TopologyModel.getVim vim.name)).run ⟨some t, d⟩ = .ok v ⟨some t, d⟩ := by
    rw [onModel_run, TopologyModel.getVim_run, hmap]
  have hdel : (onModel "del_vim" (TopologyModel.delVim v.name)).run ⟨some t, d⟩ =
      .ok v ⟨some { t with vims := t.vims.eraseIdx i }, d⟩ := by
    rw [onModel_run, TopologyModel.delVim_run, hname, hmap]
    simp only [KeyedList.erase, hi]
  have hlt : i < t.vims.length := (List.getElem?_eq_some_iff.1 hv).1
  refine ⟨{ t with vims := t.vims.eraseIdx i }, ?_, ?_, ?_⟩
  · rw [delVim, run_bind_ok _ _ hget, run_bind_ok _ _ hdel]
    simp only [EStateM.run_bind, saveTopologyFromModel_run, triggerRedisEvent_run, hpub]
  · apply List.ext_getElem?
    intro n
    rw [List.getElem?_drop, List.getElem?_drop, List.getElem?_eraseIdx_of_ge (by omega)]
    congr 1
    omega
  · rw [List.length_eraseIdx_of_lt hlt]
    omega

/-- What is left of the list from a position on is visited every other element. -/
theorem deleteCalls_eq (fuel : Nat) {t : TopologyModel} (hfuel : t.vims.length ≤ index + fuel)
    (d : Option TopologyModel) :
    deleteCalls services index fuel ⟨some t, d⟩ = everyOther ((t.vims.drop index).map VimModel.name) := by
  induction fuel generalizing index t d with
  | zero =>
    have hnil : t.vims.drop index = [] := List.drop_eq_nil_of_le hfuel
    rw [hnil]
    rfl
  | succ fuel ih =>
    simp only [deleteCalls, Option.bind_some]
    cases hvim : t.vims[index]? with
    | none =>
      rw [List.drop_eq_nil_of_le (List.getElem?_eq_none_iff.1 hvim)]
      rfl
    | some vim =>
      obtain ⟨t', hrun, hdrop, hlen⟩ := delVim_at services hpub hvim d
      obtain ⟨hlt, hval⟩ := List.getElem?_eq_some_iff.1 hvim
      simp only [hrun]
      have htail : t.vims.drop (index + 2) = (t.vims.drop (index + 1)).tail := List.tail_drop.symm
      rw [ih (by omega), hdrop, htail, List.drop_eq_getElem_cons hlt, hval, List.map_cons]
      cases t.vims.drop (index + 1) <;> rfl

theorem forM_delVim_ok (index fuel : Nat) (t : TopologyModel) (d : Option TopologyModel) :
    ∃ s', (forM (deleteCalls services index fuel ⟨some t, d⟩) (delVim services)).run ⟨some t, d⟩ = .ok () s' := by
  induction fuel generalizing index t d with
  | zero => exact ⟨_, rfl⟩
  | succ fuel ih =>
    simp only [deleteCalls, Option.bind_some]
    cases hvim : t.vims[index]? with
    | none => exact ⟨_, rfl⟩
    | some vim =>
      obtain ⟨t', hrun, -, -⟩ := delVim_at services hpub hvim d
      simp only [hrun, List.forM_cons, run_bind_ok _ _ hrun]
      exact ih (index + 1) t' (some t')

/-- All of the work is done, and then the event is asked for the model that is gone. -/
theorem delete_run (t : TopologyModel) (d : Option TopologyModel) :
    (delete services).run ⟨some t, d⟩ =
      .error (.attributeError "'NoneType' object has no attribute 'model_dump'") ⟨none, none⟩ := by
  obtain ⟨s', hs'⟩ := forM_delVim_ok services hpub 0 t.vims.length t d
  have hloop := (deleteVims_run services t.vims.length rfl).trans hs'
  rw [delete, EStateM.run_bind]
  simp only [EStateM.run_get]
  rw [run_bind_ok _ _ hloop]
  rfl

end Deletion

/-- `delete` returns, has called `del_vim` once for each VIM, and has left no model and no document. -/
def Completes (services : Services) (t : TopologyModel) (d : Option TopologyModel) : Prop :=
  (delete services).run ⟨some t, d⟩ = .ok () ⟨none, none⟩ ∧
    (deleteCalls services 0 t.vims.length ⟨some t, d⟩).Perm (t.vims.map VimModel.name)

theorem delete_raises (services : Services) (t : TopologyModel) (d : Option TopologyModel) :
    Raised ((delete services).run ⟨some t, d⟩) := by
  rw [delete, EStateM.run_bind]
  simp only [EStateM.run_get]
  cases hloop : (deleteVims services 0 t.vims.length).run ⟨some t, d⟩ with
  | error e s' =>
    rw [run_bind_error _ _ hloop]
    trivial
  | ok _ s' =>
    rw [run_bind_ok _ _ hloop]
    trivial

/-- No deletion completes: it raises also where nothing else does, having called `del_vim` for every
other VIM, which is each of them only when there is at most one. -/
theorem delete_never_completes (services : Services) (t : TopologyModel) (d : Option TopologyModel) :
    ¬ Completes services t d ∧
      ((∀ event data, services.publish event data = none) →
        (delete services).run ⟨some t, d⟩ =
          .error (.attributeError "'NoneType' object has no attribute 'model_dump'") ⟨none, none⟩ ∧
        deleteCalls services 0 t.vims.length ⟨some t, d⟩ = everyOther (t.vims.map VimModel.name) ∧
        ((deleteCalls services 0 t.vims.length ⟨some t, d⟩).Perm (t.vims.map VimModel.name) ↔ t.vims.length ≤ 1)) := by
  constructor
  · intro h
    have hraises := delete_raises services t d
    rw [h.1] at hraises
    exact hraises
  · intro hpub
    have hcalls : deleteCalls services 0 t.vims.length ⟨some t, d⟩ = everyOther (t.vims.map VimModel.name) :=
      deleteCalls_eq services hpub t.vims.length (Nat.le_add_left _ 0) d
    refine ⟨delete_run services hpub t d, hcalls, ?_⟩
    rw [hcalls, everyOther_perm, List.length_map]

/-- Two VIMs, and events that are published. -/
def twoVims : TopologyModel :=
  { vims := [{ name := "os-1", vimUrl := "http://os-1:5000/v3" }, { name := "os-2", vimUrl := "http://os-2:5000/v3" }] }

theorem delete_two_vims :
    (delete {}).run ⟨some twoVims, some twoVims⟩ =
        .error (.attributeError "'NoneType' object has no attribute 'model_dump'") ⟨none, none⟩ ∧
      deleteCalls {} 0 twoVims.vims.length ⟨some twoVims, some twoVims⟩ = ["os-1"] :=
  have h := (delete_never_completes {} twoVims (some twoVims)).2 (fun _ _ => rfl)
  ⟨h.1, h.2.1⟩

theorem delete_fails : ¬ Completes {} twoVims (some twoVims) := by
  intro h
  have hcalls := h.2.length_eq
  revert hcalls
  decide

end Topology

end Nfvcl
