import Mathlib.Data.List.Basic
import Nfvcl.VimUpdates

namespace Nfvcl
set_option autoImplicit true
open Effects

namespace TopologyModel

/-- The topology with the record of one VIM edited. -/
def editVim (f : VimModel → VimModel) (t : TopologyModel) (vimName : String) : TopologyModel :=
  match KeyedList.toMap VimModel.name t.vims vimName with
  | some v => { t with vims := KeyedList.replace VimModel.name t.vims (f v) }
  | none => t

/-- The topology with a network taken off the list of one VIM. -/
def dropNet (net : String) : TopologyModel → String → TopologyModel :=
  editVim (fun v => v.setNetworks (v.networks.erase net))

/-- The topology with a network put on the list of one VIM. -/
def listNet (net : String) : TopologyModel → String → TopologyModel :=
  editVim (fun v => v.setNetworks (addName net v.networks))

/-- The topology with a router taken off the list of one VIM, if it is also listed as a network. -/
def dropRouter (router : String) : TopologyModel → String → TopologyModel :=
  editVim (fun v => v.setRouters (if router ∈ v.networks then v.routers.erase router else v.routers))

def HasVim (t : TopologyModel) (name : String) : Prop :=
  (KeyedList.toMap VimModel.name t.vims name).isSome

instance (t : TopologyModel) (name : String) : Decidable (t.HasVim name) :=
  inferInstanceAs (Decidable (_ = true))

/-- How often a VIM lists a network. -/
def listed (net : String) (t : TopologyModel) (vimName : String) : Nat :=
  match KeyedList.toMap VimModel.name t.vims vimName with
  | some v => v.networks.count net
  | none => 0

theorem VimAt.toMap_eq {t : TopologyModel} (h : t.VimAt i v) :
    KeyedList.toMap VimModel.name t.vims v.name = some v :=
  (KeyedList.getElem?_findIndex h.position).symm.trans h.getElem?

theorem VimAt.hasVim {t : TopologyModel} (h : t.VimAt i v) : t.HasVim v.name := by
  rw [HasVim, h.toMap_eq]
  rfl

section Edit

variable {t : TopologyModel} {f : VimModel → VimModel} (hf : ∀ v, (f v).name = v.name)

include hf in
theorem editVim_of_vimAt (h : t.VimAt i v) : t.editVim f v.name = t.setVim i (f v) := by
  simp only [editVim, h.toMap_eq, KeyedList.replace, hf, h.position]
  rfl

@[simp] theorem editVim_networks (f : VimModel → VimModel) (t : TopologyModel) (vimName : String) :
    (t.editVim f vimName).networks = t.networks := by
  unfold editVim
  split <;> rfl

@[simp] theorem editVim_routers (f : VimModel → VimModel) (t : TopologyModel) (vimName : String) :
    (t.editVim f vimName).routers = t.routers := by
  unfold editVim
  split <;> rfl

include hf in
theorem editVim_toMap (t : TopologyModel) (vimName name : String) :
    KeyedList.toMap VimModel.name (t.editVim f vimName).vims name =
      if name = vimName then (KeyedList.toMap VimModel.name t.vims vimName).map f
      else KeyedList.toMap VimModel.name t.vims name := by
  unfold editVim
  cases hv : KeyedList.toMap VimModel.name t.vims vimName with
  | none =>
    by_cases he : name = vimName
    · rw [if_pos he, he]
      exact hv
    · rw [if_neg he]
  | some v =>
    obtain rfl := KeyedList.toMap_some_key hv
    have hsome : (KeyedList.toMap VimModel.name t.vims (f v).name).isSome := by
      rw [hf, hv]
      rfl
    change KeyedList.toMap VimModel.name (KeyedList.replace _ _ _) name = _
    rw [KeyedList.toMap_replace hsome, hf, Function.update_apply]
    rfl

include hf in
theorem hasVim_editVim (t : TopologyModel) (vimName name : String) :
    (t.editVim f vimName).HasVim name ↔ t.HasVim name := by
  unfold HasVim
  rw [editVim_toMap hf]
  split
  · next he => rw [he, Option.isSome_map]
  · rfl

theorem mem_editVim {v' : VimModel} (h : v' ∈ (t.editVim f vimName).vims) :
    v' ∈ t.vims ∨ ∃ v ∈ t.vims, v' = f v := by
  unfold editVim at h
  cases hv : KeyedList.toMap VimModel.name t.vims vimName with
  | none =>
    rw [hv] at h
    exact .inl h
  | some v =>
    rw [hv] at h
    change v' ∈ KeyedList.replace VimModel.name t.vims (f v) at h
    unfold KeyedList.replace at h
    split at h
    · rcases List.mem_or_eq_of_mem_set h with h | h
      · exact .inl h
      · exact .inr ⟨v, KeyedList.toMap_some_mem hv, h⟩
    · exact .inl h

/-- A property of VIM records kept by the edit is kept by the loop over the listed VIMs. -/
theorem foldl_editVim_forall {P : VimModel → Prop} (hP : ∀ v, P v → P (f v)) (names : List String)
    (h : ∀ v ∈ t.vims, P v) : ∀ v ∈ (names.foldl (editVim f) t).vims, P v := by
  induction names generalizing t with
  | nil => exact h
  | cons a names ih =>
    refine ih (fun v' hv' => ?_)
    rcases mem_editVim hv' with hv' | ⟨v, hv, rfl⟩
    · exact h v' hv'
    · exact hP v (h v hv)

theorem editVim_unique (f : VimModel → VimModel) (hu : KeyedList.Unique VimModel.name t.vims)
    (vimName : String) : KeyedList.Unique VimModel.name (t.editVim f vimName).vims := by
  unfold editVim
  split
  · exact hu.replace _
  · exact hu

theorem foldl_editVim_unique (f : VimModel → VimModel) (names : List String)
    (hu : KeyedList.Unique VimModel.name t.vims) :
    KeyedList.Unique VimModel.name (names.foldl (editVim f) t).vims := by
  induction names generalizing t with
  | nil => exact hu
  | cons a names ih => exact ih (editVim_unique f hu a)

theorem foldl_editVim_networks (f : VimModel → VimModel) (names : List String) (t : TopologyModel) :
    (names.foldl (editVim f) t).networks = t.networks := by
  induction names generalizing t with
  | nil => rfl
  | cons a names ih => rw [List.foldl_cons, ih, editVim_networks]

theorem foldl_editVim_routers (f : VimModel → VimModel) (names : List String) (t : TopologyModel) :
    (names.foldl (editVim f) t).routers = t.routers := by
  induction names generalizing t with
  | nil => rfl
  | cons a names ih => rw [List.foldl_cons, ih, editVim_routers]

end Edit

variable {t : TopologyModel}

theorem hasVim_dropNet (net : String) (t : TopologyModel) (vimName name : String) :
    (t.dropNet net vimName).HasVim name ↔ t.HasVim name :=
  hasVim_editVim (fun v => v.setNetworks_name _) t vimName name

theorem listed_dropNet (net : String) (t : TopologyModel) (vimName name : String) :
    (t.dropNet net vimName).listed net name =
      if name = vimName then t.listed net name - 1 else t.listed net name := by
  unfold listed dropNet
  rw [editVim_toMap (fun v => v.setNetworks_name _)]
  by_cases he : name = vimName
  · subst he
    rw [if_pos rfl, if_pos rfl]
    cases KeyedList.toMap VimModel.name t.vims name with
    | none => rfl
    | some v => exact List.count_erase_self
  · rw [if_neg he, if_neg he]

theorem dropNet_of_unlisted (h : t.listed net vimName = 0) : t.dropNet net vimName = t := by
  unfold dropNet editVim
  unfold listed at h
  cases hv : KeyedList.toMap VimModel.name t.vims vimName with
  | none => rfl
  | some v =>
    rw [hv] at h
    obtain rfl := KeyedList.toMap_some_key hv
    obtain ⟨i, hi, hnth⟩ := KeyedList.findIndex_of_toMap hv
    have hnot : net ∉ v.networks := List.count_eq_zero.1 h
    have hreplace : KeyedList.replace VimModel.name t.vims v = t.vims := by
      rw [KeyedList.replace, hi]
      exact congrArg TopologyModel.vims (setVim_self hnth)
    dsimp only
    rw [List.erase_of_not_mem hnot]
    exact congrArg (fun vims => { t with vims := vims }) hreplace

/-- Each mention of a VIM takes the network off its list once. -/
theorem listed_foldl (net : String) (names : List String) (t : TopologyModel) (name : String) :
    (names.foldl (dropNet net) t).listed net name = t.listed net name - names.count name := by
  induction names generalizing t with
  | nil => rfl
  | cons a names ih =>
    rw [List.foldl_cons, ih, listed_dropNet, List.count_cons]
    by_cases he : name = a
    · subst he
      simp only [if_true, beq_self_eq_true]
      omega
    · have hne : (a == name) = false := by simpa using fun h : a = name => he h.symm
      simp only [if_neg he, hne, Bool.false_eq_true, if_false]
      omega

/-- Taking a network off the lists of some VIMs changes nothing exactly when none lists it. -/
theorem foldl_dropNet_eq_iff (net : String) (names : List String) (t : TopologyModel) :
    names.foldl (dropNet net) t = t ↔ ∀ name ∈ names, t.listed net name = 0 := by
  constructor
  · intro he name hname
    have hcount := listed_foldl net names t name
    have hpos := List.count_pos_iff.2 hname
    rw [he] at hcount
    omega
  · intro hall
    induction names with
    | nil => rfl
    | cons a names ih =>
      rw [List.foldl_cons, dropNet_of_unlisted (hall a List.mem_cons_self)]
      exact ih (fun name hname => hall name (List.mem_cons_of_mem a hname))

end TopologyModel

namespace Topology

section DelNetwork

variable {t : TopologyModel}

/-- One listed VIM: its record is changed and saved. -/
theorem delListed_run (net : String) (vimName : String) (t : TopologyModel) :
    (do
      let vim ← onModel "get_vim" (TopologyModel.findVimIndex vimName)
      let _ ← delVimNet net vim : EStateM PyError Topology Unit).run ⟨some t, some t⟩ =
      if t.HasVim vimName then .ok () ⟨some (t.dropNet net vimName), some (t.dropNet net vimName)⟩
      else .error (TopologyModel.vimNotFound vimName) ⟨some t, some t⟩ := by
  rw [EStateM.run_bind, onModel_run, TopologyModel.findVimIndex_run]
  cases hi : KeyedList.findIndex VimModel.name t.vims vimName with
  | none =>
    have hno : ¬ t.HasVim vimName := by
      rw [TopologyModel.HasVim, KeyedList.findIndex_eq_none.1 hi]
      exact Bool.false_ne_true
    rw [if_neg hno]
  | some i =>
    obtain ⟨v, hv, rfl⟩ := TopologyModel.VimAt.of_findIndex hi
    simp only [if_pos hv.hasVim, EStateM.run_bind, delVimNet_run hv, EStateM.run_pure, TopologyModel.dropNet,
      TopologyModel.editVim_of_vimAt (fun v => v.setNetworks_name _) hv]

/-- The loop of `del_network` stops at the first unknown VIM; every VIM before it is saved. -/
theorem forM_delListed_run (net : String) (names : List String) (t : TopologyModel) :
    let known := names.takeWhile (fun name => decide (t.HasVim name))
    let t' := known.foldl (TopologyModel.dropNet net) t
    let loop : EStateM PyError Topology Unit := forM names (fun vimName => do
      let vim ← onModel "get_vim" (TopologyModel.findVimIndex vimName)
      let _ ← delVimNet net vim)
    (known = names ∧ loop.run ⟨some t, some t⟩ = .ok () ⟨some t', some t'⟩) ∨
      (known ≠ names ∧ ∃ e, loop.run ⟨some t, some t⟩ = .error e ⟨some t', some t'⟩) := by
  induction names generalizing t with
  | nil => exact .inl ⟨rfl, rfl⟩
  | cons a names ih =>
    have hfirst := delListed_run net a t
    simp only [List.forM_cons]
    by_cases ha : t.HasVim a
    · rw [if_pos ha] at hfirst
      rw [List.takeWhile_cons_of_pos (by simpa using ha), run_bind_ok _ _ hfirst, List.foldl_cons]
      have hrest := ih (t.dropNet net a)
      simp only [TopologyModel.hasVim_dropNet] at hrest
      simpa only [List.cons.injEq, true_and, ne_eq] using hrest
    · rw [if_neg ha] at hfirst
      rw [List.takeWhile_cons_of_neg (by simpa using ha)]
      exact .inr ⟨(List.cons_ne_nil a names).symm, _, run_bind_error _ _ hfirst⟩

end DelNetwork

end Topology

end Nfvcl
