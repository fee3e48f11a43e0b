import Mathlib.Data.List.Basic
import Mathlib.Data.List.Perm.Basic
import Nfvcl.Runs
import Nfvcl.SdCoreDeployments
import Nfvcl.UpfReports

namespace Nfvcl
set_option autoImplicit true
open Effects KeyedList Runs

namespace SdCoreUpfBlueprint

variable {host : UpfHost} {s s' s'' : SdCoreUpfBlueprint} {ds : List Deployment}

/-! ### Updates -/

/-- Some deployed DNNs were taken out. -/
structure Undeploys (host : UpfHost) (dnns : List (Option String)) (s s' : SdCoreUpfBlueprint) : Prop where
  holds : ∃ ds', Holds host ds' s'
  configs : SameConfigs s s'
  names : ∀ dnn, dnn ∈ names s' ↔ dnn ∈ names s ∧ dnn ∉ dnns

theorem undeployDnn_meets (h : Holds host ds s) (hdnn : dnn ∈ names s) :
    Meets (undeployDnn dnn) s (fun _ s' => Undeploys host [dnn] s s') (fun _ _ => False) := by
  obtain ⟨d, hd, rfl⟩ := h.mem_names.1 hdnn
  apply (undeployDnn_run h hd).mono
  · rintro _ _ rfl
    refine ⟨⟨_, h.withdraw hd⟩, ⟨rfl, rfl⟩, ?_⟩
    intro dnn
    rw [(h.withdraw hd).mem_names, h.mem_names, List.mem_singleton]
    constructor
    · rintro ⟨other, hother, rfl⟩
      obtain ⟨hmem, hne⟩ := List.mem_filter.1 hother
      exact ⟨⟨other, hmem, rfl⟩, fun he => of_decide_eq_true hne (Option.some.inj he)⟩
    · rintro ⟨⟨other, hother, rfl⟩, hne⟩
      exact ⟨other, List.mem_filter.2 ⟨hother, decide_eq_true fun he => hne (congrArg some he)⟩, rfl⟩
  · exact fun _ _ h => h

/-- The loop over the DNNs that left the configuration. -/
theorem undeployDnns_meets (dnns : List (Option String)) (hnodup : dnns.Nodup) (h : Holds host ds s) (hdnns : ∀ dnn ∈ dnns, dnn ∈ names s) :
    Meets (forM dnns undeployDnn) s (fun _ s' => Undeploys host dnns s s') (fun _ _ => False) := by
  induction dnns generalizing ds s with
  | nil => exact ⟨⟨ds, h⟩, ⟨rfl, rfl⟩, fun dnn => ⟨fun hmem => ⟨hmem, List.not_mem_nil⟩, And.left⟩⟩
  | cons dnn dnns ih =>
    obtain ⟨hnot, hrest⟩ := List.nodup_cons.1 hnodup
    rw [List.forM_cons, meets_bind]
    apply (undeployDnn_meets h (hdnns dnn List.mem_cons_self)).mono
    · intro _ s₁ h₁
      obtain ⟨ds₁, hholds₁⟩ := h₁.holds
      apply (ih hrest hholds₁ ?_).mono
      · intro _ s₂ h₂
        refine ⟨h₂.holds, h₁.configs.trans h₂.configs, ?_⟩
        intro other
        rw [h₂.names, h₁.names, List.mem_singleton, List.mem_cons, not_or, and_assoc]
      · exact fun _ _ h => h
      · intro other hother
        refine (h₁.names other).2 ⟨hdnns other (List.mem_cons_of_mem dnn hother), ?_⟩
        intro hsame
        exact hnot (List.mem_singleton.1 hsame ▸ hother)
    · exact fun _ _ h => h

/-- Exactly the DNNs of the configuration are deployed, each new one could be. -/
structure Updates (host : UpfHost) (config : UPFBlueCreateModel) (s s' : SdCoreUpfBlueprint) : Prop where
  holds : ∃ ds', Holds host ds' s'
  configs : SameConfigs s s'
  names : ∀ dnn, dnn ∈ names s' ↔ dnn ∈ SdCoreUPF.dnnsToDeploy config
  ready : ∀ dnn ∈ SdCoreUPF.dnnsToDeploy config, dnn ∉ SdCoreUpfBlueprint.names s → Ready host config s dnn

theorem updateDeployments_meets (config : UPFBlueCreateModel) (h : Holds host ds s) :
    Meets (updateDeployments host config) s (fun _ s' => Updates host config s s')
      (fun _ s' => Refused host config (SdCoreUPF.dnnsToDeploy config) s s') := by
  unfold updateDeployments
  rw [meets_bind]
  apply (deployDnns_meets config (host.order (SdCoreUPF.dnnsToDeploy config)) h).mono
  · intro _ s₁ h₁
    obtain ⟨ds₁, hholds₁⟩ := h₁.holds
    rw [meets_bind, meets_get]
    apply (undeployDnns_meets _ (host.order_nodup _) hholds₁ ?_).mono
    · intro _ s₂ h₂
      refine ⟨h₂.holds, h₁.configs.trans h₂.configs, ?_, ?_⟩
      · intro dnn
        rw [h₂.names, host.order_mem, List.mem_filter, decide_eq_true_eq]
        constructor
        · rintro ⟨hmem, hno⟩
          by_contra hout
          exact hno ⟨hmem, hout⟩
        · intro hmem
          exact ⟨(h₁.names dnn).2 (.inr ((host.order_mem _ _).2 hmem)), fun hno => hno.2 hmem⟩
      · exact fun dnn hdnn hnot => h₁.ready dnn ((host.order_mem _ _).2 hdnn) hnot
    · exact fun _ _ h => h.elim
    · intro dnn hdnn
      rw [host.order_mem] at hdnn
      exact List.mem_of_mem_filter hdnn
  · rintro _ s₁ ⟨hcurrent, dnn, hdnn, hrest⟩
    exact ⟨hcurrent, dnn, (host.order_mem _ _).1 hdnn, hrest⟩

/-! ### Saving and reading back -/

theorem mapM_ok_map {f : α → Except ε β} {g : α → β} {xs : List α} (h : ∀ x ∈ xs, f x = .ok (g x)) : xs.mapM f = .ok (xs.map g) := by
  rw [mapM_ok_iff]
  induction xs with
  | nil => exact .nil
  | cons x xs ih => exact .cons (h x List.mem_cons_self) (ih fun y hy => h y (List.mem_cons_of_mem x hy))

def savedResource : String × UpfResource → String × SavedResource
  | (id, .vm vm) => (id, .vm vm)
  | (id, .configurator vm configuration) => (id, .configurator (ref vm.id) configuration)

/-- What is saved if every resource of the state is registered. -/
def saved (s : SdCoreUpfBlueprint) : SavedUpf where
  createConfig := s.upf.createConfig
  currentConfig := s.upf.currentConfig
  upfList := s.upf.upfList
  currentlyDeployedDnns := s.upf.own.currentlyDeployedDnns
  vmResources := s.upf.vmResources.map (fun vm => (vm.id, ref vm.id))
  vmConfigurators := s.upf.own.vmConfigurators.map (fun id => (id, ref id))
  registeredResources := s.registeredResources.map savedResource

theorem Holds.mem_registered (h : Holds host ds s) : x ∈ s.registeredResources ↔
    ∃ d ∈ ds, x = (d.vm.id, .vm d.vm) ∨ x = (d.configuratorId, .configurator d.vm d.configuration) := by
  rw [h.registered.mem_iff, List.mem_flatMap]
  apply exists_congr
  intro d
  unfold Deployment.resources
  rw [List.mem_cons, List.mem_singleton]

theorem Holds.vm_registered (h : Holds host ds s) (hd : d ∈ ds) : d.vm.id ∈ s.registeredResources.map Prod.fst :=
  h.keys.mem_iff.2 (List.mem_flatMap.2 ⟨d, hd, List.mem_cons_self⟩)

theorem Holds.configurator_registered (h : Holds host ds s) (hd : d ∈ ds) : d.configuratorId ∈ s.registeredResources.map Prod.fst :=
  h.keys.mem_iff.2 (List.mem_flatMap.2 ⟨d, hd, List.mem_cons_of_mem _ List.mem_cons_self⟩)

theorem Holds.plain {id : String} (h : Holds host ds s) (hmem : id ∈ ds.flatMap Deployment.ids) : beforeRef id.toList = id.toList := by
  obtain ⟨n, -, rfl⟩ := h.known id hmem
  exact host.uuid_plain n

theorem Holds.serializeContent (h : Holds host ds s) : serializeContent s = .ok (saved s) := by
  have hvms : s.upf.vmResources.mapM (fun vm => do return (vm.id, ← reference (s.registeredResources.map Prod.fst) vm.id)) =
      .ok (s.upf.vmResources.map (fun vm => (vm.id, ref vm.id))) := by
    apply mapM_ok_map
    intro vm hvm
    rw [h.vms] at hvm
    obtain ⟨d, hd, rfl⟩ := List.mem_map.1 hvm
    rw [reference, if_pos (h.vm_registered hd)]
    rfl
  have hconfigurators : s.upf.own.vmConfigurators.mapM (fun id => do return (id, ← reference (s.registeredResources.map Prod.fst) id)) =
      .ok (s.upf.own.vmConfigurators.map (fun id => (id, ref id))) := by
    apply mapM_ok_map
    intro id hid
    rw [h.configurators] at hid
    obtain ⟨d, hd, rfl⟩ := List.mem_map.1 hid
    rw [reference, if_pos (h.configurator_registered hd)]
    rfl
  have hresources : s.registeredResources.mapM (saveResource (s.registeredResources.map Prod.fst)) =
      .ok (s.registeredResources.map savedResource) := by
    apply mapM_ok_map
    intro x hx
    obtain ⟨d, hd, rfl | rfl⟩ := h.mem_registered.1 hx
    · rfl
    · rw [saveResource, reference, if_pos (h.vm_registered hd)]
      rfl
  unfold SdCoreUpfBlueprint.serializeContent
  dsimp only
  rw [hvms, hconfigurators, hresources]
  rfl

/-! The two passes over the registered resources. -/

section Passes

def deployableOf (host : UpfHost) : String × UpfResource → Option (String × UpfResource)
  | (id, .vm vm) => some (id, .vm (reloadedVm host vm))
  | (_, .configurator _ _) => none

def configurationOf (host : UpfHost) : String × UpfResource → Option (String × UpfResource)
  | (_, .vm _) => none
  | (id, .configurator vm configuration) => some (id, .configurator (reloadedVm host vm) configuration)

/-- The new blueprint with some resources registered. -/
def loading (s : SdCoreUpfBlueprint) (resources : List (String × UpfResource)) : SdCoreUpfBlueprint where
  upf := { createConfig := s.upf.createConfig, registered := s.upf.registered, configured := s.upf.configured, own := {} }
  registeredResources := resources

theorem registerDeployables_meets {R : List (String × UpfResource)} (done : List (String × UpfResource))
    (hnew : (done.map Prod.fst ++ R.map Prod.fst).Nodup) (hvims : ∀ x ∈ R, ∀ vm, x.2 = .vm vm → host.hasVim vm.area = true) :
    Meets (forM (R.map savedResource) (registerDeployable host)) (loading s done)
      (fun _ s' => s' = loading s (done ++ R.filterMap (deployableOf host))) (fun _ _ => False) := by
  induction R generalizing done with
  | nil =>
    rw [List.filterMap_nil, List.append_nil]
    exact rfl
  | cons x R ih =>
    obtain ⟨id, resource⟩ := x
    rw [List.map_cons, List.forM_cons, meets_bind]
    have hrest : ∀ x ∈ R, ∀ vm, x.2 = .vm vm → host.hasVim vm.area = true := fun x hx => hvims x (List.mem_cons_of_mem _ hx)
    cases resource with
    | vm vm =>
      have hid : id ∉ (loading s done).registeredResources.map Prod.fst := by
        intro hmem
        exact (List.nodup_append'.1 hnew).2.2 hmem List.mem_cons_self
      unfold savedResource registerDeployable checkVim
      rw [meets_bind, meets_get, if_neg hid, meets_bind, if_pos (hvims _ List.mem_cons_self vm rfl), meets_pure, keep, meets_modify]
      show Meets _ (loading s (done ++ [(id, .vm (reloadedVm host vm))])) _ _
      have hwhole : done ++ ((id, UpfResource.vm vm) :: R).filterMap (deployableOf host) =
          done ++ [(id, .vm (reloadedVm host vm))] ++ R.filterMap (deployableOf host) := by
        rw [List.append_assoc]
        rfl
      rw [hwhole]
      apply ih
      · rw [List.map_append, List.append_assoc]
        exact hnew
      · exact hrest
    | configurator vm configuration =>
      exact ih done (hnew.sublist (List.Sublist.append_left (.cons _ (.refl _)) _)) hrest

theorem resolve_meets (text : String) (s : SdCoreUpfBlueprint) :
    Meets (resolve text) s (fun resource s' => s' = s ∧ ∃ id, toMap Prod.fst s.registeredResources (refId text) = some (id, resource))
      (fun _ _ => toMap Prod.fst s.registeredResources (refId text) = none) := by
  unfold resolve
  rw [meets_bind, meets_get]
  cases hfound : toMap Prod.fst s.registeredResources (refId text) with
  | none => exact rfl
  | some found => exact ⟨rfl, found.1, rfl⟩

theorem resolveTexts_meets (texts : List String) (s : SdCoreUpfBlueprint) :
    Meets (resolveTexts texts) s (fun _ s' => s' = s ∧ ((∃ text ∈ texts, isRef text = true) → s.registeredResources ≠ []))
      (fun _ _ => ∃ text ∈ texts, isRef text = true) := by
  have hloop : ∀ refs : List String, Meets (forM refs (fun text => do let _ ← resolve text; return ())) s
      (fun _ s' => s' = s ∧ (refs ≠ [] → s.registeredResources ≠ [])) (fun _ _ => refs ≠ []) := by
    intro refs
    induction refs with
    | nil => exact ⟨rfl, fun hne => absurd rfl hne⟩
    | cons text refs ih =>
      rw [List.forM_cons, meets_bind, meets_bind]
      apply (resolve_meets text s).mono
      · rintro resource _ ⟨rfl, id, hfound⟩
        rw [meets_pure]
        apply ih.mono
        · rintro _ _ ⟨rfl, -⟩
          refine ⟨rfl, ?_⟩
          intro _ hnil
          rw [hnil] at hfound
          cases hfound
        · exact fun _ _ _ => List.cons_ne_nil _ _
      · exact fun _ _ _ => List.cons_ne_nil _ _
  have hrefs : texts.filter isRef ≠ [] ↔ ∃ text ∈ texts, isRef text = true := by
    constructor
    · intro hne
      obtain ⟨text, hmem⟩ := List.exists_mem_of_ne_nil _ hne
      exact ⟨text, List.mem_filter.1 hmem⟩
    · rintro ⟨text, hmem, href⟩
      exact List.ne_nil_of_mem (List.mem_filter.2 ⟨hmem, href⟩)
  rw [← hrefs]
  exact hloop (texts.filter isRef)

/-- None of its texts looks like a reference. -/
def PlainResource : UpfResource → Prop
  | .vm _ => True
  | .configurator _ configuration => ∀ text ∈ SdCoreUPF.configurationTexts configuration, isRef text = false

theorem registerConfiguration_meets {done : List (String × UpfResource)} {id : String} {vm : VmResource} (c : SDCoreUPFConfiguration)
    (hunique : Unique Prod.fst done) (hid : id ∉ done.map Prod.fst) (hplain : beforeRef vm.id.toList = vm.id.toList)
    (hvm : (vm.id, .vm (reloadedVm host vm)) ∈ done) :
    Meets (registerConfiguration (id, .configurator (ref vm.id) c)) (loading s done)
      (fun _ s' => PlainResource (.configurator vm c) ∧ s' = loading s (done ++ [(id, .configurator (reloadedVm host vm) c)]))
      (fun _ _ => ¬ PlainResource (.configurator vm c)) := by
  have hfound : toMap Prod.fst (loading s done).registeredResources (refId (ref vm.id)) = some (vm.id, .vm (reloadedVm host vm)) := by
    rw [refId_ref hplain]
    exact hunique.toMap_mem hvm
  have hid' : id ∉ (loading s done).registeredResources.map Prod.fst := hid
  unfold registerConfiguration
  rw [meets_bind]
  apply (resolveTexts_meets (SdCoreUPF.configurationTexts c) (loading s done)).mono
  · rintro _ _ ⟨rfl, -⟩
    rw [meets_bind]
    apply (resolve_meets (ref vm.id) (loading s done)).mono
    · rintro found _ ⟨rfl, id', he⟩
      cases hfound.symm.trans he
      dsimp only
      by_cases hany : (SdCoreUPF.configurationTexts c).any isRef = true
      · rw [if_pos hany]
        obtain ⟨text, hmem, href⟩ := List.any_eq_true.1 hany
        intro hall
        cases href.symm.trans (hall text hmem)
      · rw [if_neg hany, register, meets_bind, meets_get, if_neg hid', keep, meets_modify]
        exact ⟨fun text hmem => Bool.eq_false_iff.2 fun href => hany (List.any_eq_true.2 ⟨text, hmem, href⟩), rfl⟩
    · intro _ _ hnone
      cases hfound.symm.trans hnone
  · rintro _ _ ⟨text, hmem, href⟩ hall
    cases href.symm.trans (hall text hmem)

theorem registerConfigurations_meets {R : List (String × UpfResource)} (done : List (String × UpfResource))
    (hnew : (done.map Prod.fst ++ (R.filterMap (configurationOf host)).map Prod.fst).Nodup)
    (hvms : ∀ x ∈ R, ∀ vm c, x.2 = .configurator vm c → beforeRef vm.id.toList = vm.id.toList ∧ (vm.id, .vm (reloadedVm host vm)) ∈ done) :
    Meets (forM (R.map savedResource) registerConfiguration) (loading s done)
      (fun _ s' => (∀ x ∈ R, PlainResource x.2) ∧ s' = loading s (done ++ R.filterMap (configurationOf host)))
      (fun _ _ => ∃ x ∈ R, ¬ PlainResource x.2) := by
  induction R generalizing done with
  | nil =>
    rw [List.filterMap_nil, List.append_nil]
    exact ⟨fun x hx => (nomatch hx), rfl⟩
  | cons x R ih =>
    obtain ⟨id, resource⟩ := x
    have hrest : ∀ x ∈ R, ∀ vm c, x.2 = .configurator vm c →
        beforeRef vm.id.toList = vm.id.toList ∧ (vm.id, .vm (reloadedVm host vm)) ∈ done := fun x hx => hvms x (List.mem_cons_of_mem _ hx)
    rw [List.map_cons, List.forM_cons, meets_bind]
    cases resource with
    | vm vm =>
      apply (ih done hnew hrest).mono
      · rintro _ s' ⟨hall, rfl⟩
        exact ⟨List.forall_mem_cons.2 ⟨trivial, hall⟩, rfl⟩
      · rintro _ _ ⟨x, hx, hbad⟩
        exact ⟨x, List.mem_cons_of_mem _ hx, hbad⟩
    | configurator vm c =>
      obtain ⟨hplain, hvm⟩ := hvms _ List.mem_cons_self vm c rfl
      have hid : id ∉ done.map Prod.fst := fun hmem => (List.nodup_append'.1 hnew).2.2 hmem List.mem_cons_self
      apply (registerConfiguration_meets c (List.nodup_append'.1 hnew).1 hid hplain hvm).mono
      · rintro _ _ ⟨hself, rfl⟩
        have hwhole : done ++ ((id, UpfResource.configurator vm c) :: R).filterMap (configurationOf host) =
            done ++ [(id, .configurator (reloadedVm host vm) c)] ++ R.filterMap (configurationOf host) := by
          rw [List.append_assoc]
          rfl
        rw [hwhole]
        apply (ih _ ?_ ?_).mono
        · rintro _ s' ⟨hall, rfl⟩
          exact ⟨List.forall_mem_cons.2 ⟨hself, hall⟩, rfl⟩
        · rintro _ _ ⟨x, hx, hbad⟩
          exact ⟨x, List.mem_cons_of_mem _ hx, hbad⟩
        · rw [List.map_append, List.append_assoc]
          exact hnew
        · intro x hx vm' c' he
          obtain ⟨hplain', hmem⟩ := hrest x hx vm' c' he
          exact ⟨hplain', List.mem_append_left _ hmem⟩
      · exact fun _ _ hbad => ⟨_, List.mem_cons_self, hbad⟩

end Passes

/-! The state. -/

section State

def reloadedDeployment (host : UpfHost) (d : Deployment) : Deployment :=
  { d with vm := reloadedVm host d.vm }

theorem mapM_resolve_meets {α : Type} (xs : List α) (text : α → String) (resource : α → UpfResource) (s : SdCoreUpfBlueprint)
    (h : ∀ x ∈ xs, ∃ id, toMap Prod.fst s.registeredResources (refId (text x)) = some (id, resource x)) :
    Meets (xs.mapM (fun x => resolve (text x))) s (fun found s' => found = xs.map resource ∧ s' = s) (fun _ _ => False) := by
  induction xs with
  | nil => exact ⟨rfl, rfl⟩
  | cons x xs ih =>
    rw [List.mapM_cons, meets_bind]
    apply (resolve_meets (text x) s).mono
    · rintro found _ ⟨rfl, id, hfound⟩
      obtain ⟨id', hx⟩ := h x List.mem_cons_self
      cases hfound.symm.trans hx
      rw [meets_bind]
      apply (ih fun y hy => h y (List.mem_cons_of_mem x hy)).mono
      · rintro _ _ ⟨rfl, rfl⟩
        exact ⟨rfl, rfl⟩
      · exact fun _ _ h => h
    · intro _ _ hnone
      obtain ⟨id, hx⟩ := h x List.mem_cons_self
      cases hx.symm.trans hnone

theorem machines_map (vms : List VmResource) : machines (vms.map UpfResource.vm) = some vms := by
  induction vms with
  | nil => rfl
  | cons vm vms ih =>
    rw [List.map_cons, machines, ih]
    rfl

theorem areConfigurators_map (f : α → VmResource) (g : α → SDCoreUPFConfiguration) (xs : List α) :
    areConfigurators (xs.map (fun x => UpfResource.configurator (f x) (g x))) = true := by
  induction xs with
  | nil => rfl
  | cons x xs ih =>
    rw [List.map_cons, areConfigurators]
    exact ih

/-- What is registered for the deployments, machines first. -/
def reregistered (host : UpfHost) (s : SdCoreUpfBlueprint) : List (String × UpfResource) :=
  s.registeredResources.filterMap (deployableOf host) ++ s.registeredResources.filterMap (configurationOf host)

theorem Holds.reregistered_perm (h : Holds host ds s) :
    (reregistered host s).Perm ((ds.map (reloadedDeployment host)).flatMap Deployment.resources) := by
  have hvms : (s.registeredResources.filterMap (deployableOf host)).Perm
      (ds.flatMap (fun d => [(d.vm.id, .vm (reloadedVm host d.vm))])) := by
    refine (h.registered.filterMap (deployableOf host)).trans (List.Perm.of_eq ?_)
    rw [List.filterMap_flatMap]
    rfl
  have hconfigurators : (s.registeredResources.filterMap (configurationOf host)).Perm
      (ds.flatMap (fun d => [(d.configuratorId, .configurator (reloadedVm host d.vm) d.configuration)])) := by
    refine (h.registered.filterMap (configurationOf host)).trans (List.Perm.of_eq ?_)
    rw [List.filterMap_flatMap]
    rfl
  rw [List.flatMap_map]
  exact (hvms.append hconfigurators).trans (List.flatMap_append_perm ds _ _)

/-- A blueprint read back: the networks of its machines and its registered resources have another order. -/
def reloaded (host : UpfHost) (s : SdCoreUpfBlueprint) : SdCoreUpfBlueprint where
  upf := { s.upf with vmResources := s.upf.vmResources.map (reloadedVm host) }
  registeredResources := reregistered host s

theorem reloaded_ids (host : UpfHost) (ds : List Deployment) :
    (ds.map (reloadedDeployment host)).flatMap Deployment.ids = ds.flatMap Deployment.ids := by
  rw [List.flatMap_map]
  rfl

theorem Holds.reloaded (h : Holds host ds s) : Holds host (ds.map (reloadedDeployment host)) (reloaded host s) where
  deployed := by
    rw [List.map_map]
    exact h.deployed
  listed := by
    rw [List.map_map]
    exact h.listed
  vms := by
    show s.upf.vmResources.map (reloadedVm host) = _
    rw [h.vms, List.map_map, List.map_map]
    rfl
  configurators := by
    rw [List.map_map]
    exact h.configurators
  registered := h.reregistered_perm
  own := by
    intro d hd
    obtain ⟨old, hold, rfl⟩ := List.mem_map.1 hd
    exact h.own old hold
  dnns := by
    rw [List.map_map]
    exact h.dnns
  ids := by
    rw [reloaded_ids]
    exact h.ids
  known := by
    rw [reloaded_ids]
    exact h.known
  areas := by
    intro d hd
    obtain ⟨old, hold, rfl⟩ := List.mem_map.1 hd
    exact h.areas old hold

theorem Holds.found_vm (h : Holds host ds s) (hd : d ∈ ds) :
    toMap Prod.fst (reregistered host s) (refId (ref d.vm.id)) = some (d.vm.id, .vm (reloadedVm host d.vm)) := by
  rw [refId_ref (h.plain (List.mem_flatMap.2 ⟨d, hd, List.mem_cons_self⟩))]
  exact h.reloaded.unique.toMap_mem (h.reloaded.mem_registered.2 ⟨_, List.mem_map_of_mem hd, .inl rfl⟩)

theorem Holds.found_configurator (h : Holds host ds s) (hd : d ∈ ds) :
    toMap Prod.fst (reregistered host s) (refId (ref d.configuratorId)) =
      some (d.configuratorId, .configurator (reloadedVm host d.vm) d.configuration) := by
  rw [refId_ref (h.plain (List.mem_flatMap.2 ⟨d, hd, List.mem_cons_of_mem _ List.mem_cons_self⟩))]
  exact h.reloaded.unique.toMap_mem (h.reloaded.mem_registered.2 ⟨_, List.mem_map_of_mem hd, .inr rfl⟩)

/-- The texts of the state that the blueprint is saved with. -/
def texts (s : SdCoreUpfBlueprint) : List String :=
  SdCoreUPF.stateTexts s.upf.currentConfig.toList (s.upf.upfList ++ s.upf.own.currentlyDeployedDnns.map Prod.snd)

theorem loadState_meets (h : Holds host ds s) :
    Meets (loadState (saved s)) (loading s (reregistered host s))
      (fun _ s' => (∀ text ∈ texts s, isRef text = false) ∧ s' = SdCoreUpfBlueprint.reloaded host s ∨
        (∃ text ∈ texts s, isRef text = true) ∧ reregistered host s ≠ [] ∧ s' = loading s (reregistered host s))
      (fun _ _ => ∃ text ∈ texts s, isRef text = true) := by
  have hvms : (saved s).vmResources = ds.map (fun d => (d.vm.id, ref d.vm.id)) := by
    unfold saved
    dsimp only
    rw [h.vms, List.map_map]
    rfl
  have hconfigurators : (saved s).vmConfigurators = ds.map (fun d => (d.configuratorId, ref d.configuratorId)) := by
    unfold saved
    dsimp only
    rw [h.configurators, List.map_map]
    rfl
  unfold loadState
  rw [meets_bind]
  apply (resolveTexts_meets (saved s).stateTexts (loading s (reregistered host s))).mono
  · rintro _ _ ⟨rfl, hne⟩
    rw [hvms, hconfigurators, List.mapM_map, List.mapM_map, meets_bind]
    apply (mapM_resolve_meets ds (fun d => ref d.vm.id) (fun d => .vm (reloadedVm host d.vm)) _ fun d hd => ⟨_, h.found_vm hd⟩).mono
    · rintro _ _ ⟨rfl, rfl⟩
      rw [meets_bind]
      apply (mapM_resolve_meets ds (fun d => ref d.configuratorId) (fun d => .configurator (reloadedVm host d.vm) d.configuration) _
        fun d hd => ⟨_, h.found_configurator hd⟩).mono
      · rintro _ _ ⟨rfl, rfl⟩
        have hmachines : machines (ds.map (fun d => UpfResource.vm (reloadedVm host d.vm))) = some (s.upf.vmResources.map (reloadedVm host)) := by
          rw [h.vms, List.map_map, ← machines_map, List.map_map]
          rfl
        rw [hmachines, areConfigurators_map]
        dsimp only
        by_cases hany : (saved s).stateTexts.any isRef = true
        · rw [if_pos (.inl hany)]
          obtain ⟨text, hmem, href⟩ := List.any_eq_true.1 hany
          exact .inr ⟨⟨text, hmem, href⟩, hne ⟨text, hmem, href⟩, rfl⟩
        · rw [if_neg fun hor => hor.elim hany fun h => (nomatch h), onUpf, meets_zoom, meets_modify]
          refine .inl ⟨fun text hmem => Bool.eq_false_iff.2 fun href => hany (List.any_eq_true.2 ⟨text, hmem, href⟩), ?_⟩
          have hown : (ds.map (fun d => (d.configuratorId, ref d.configuratorId))).map Prod.fst = s.upf.own.vmConfigurators := by
            rw [h.configurators, List.map_map]
            rfl
          rw [hown]
          rfl
      · exact fun _ _ h => h.elim
    · exact fun _ _ h => h.elim
  · rintro _ _ ⟨text, hmem, href⟩
    exact ⟨text, hmem, href⟩

/-- No text in the state or in a configurator looks like a reference. -/
structure Plain (s : SdCoreUpfBlueprint) : Prop where
  texts : ∀ text ∈ texts s, isRef text = false
  configurators : ∀ x ∈ s.registeredResources, PlainResource x.2

theorem reload_meets (h : Holds host ds s) :
    Meets (reload host) s
      (fun _ s' => Plain s ∧ s' = SdCoreUpfBlueprint.reloaded host s ∨
        ¬ Plain s ∧ reregistered host s ≠ [] ∧ s' = loading s (reregistered host s))
      (fun _ _ => ¬ Plain s) := by
  have hkeys : (s.registeredResources.filterMap (deployableOf host)).map Prod.fst ++
      (s.registeredResources.filterMap (configurationOf host)).map Prod.fst = (reregistered host s).map Prod.fst := List.map_append.symm
  have hunique : ((reregistered host s).map Prod.fst).Nodup := h.reloaded.unique
  unfold reload
  rw [meets_bind, meets_get, meets_bind]
  apply (Generic5G.lift_meets _ _).mono
  · rintro _ _ ⟨hsaved, hsame⟩
    obtain rfl := hsame.symm
    cases h.serializeContent.symm.trans hsaved
    rw [meets_bind, meets_set]
    show Meets _ (loading s []) _ _
    rw [meets_bind]
    apply (registerDeployables_meets [] h.unique ?_).mono
    · rintro _ _ rfl
      rw [List.nil_append, meets_bind]
      apply (registerConfigurations_meets _ (by rw [hkeys]; exact hunique) ?_).mono
      · rintro _ _ ⟨hplain, rfl⟩
        apply (loadState_meets h).mono
        · rintro _ s' (⟨htexts, rfl⟩ | ⟨⟨text, hmem, href⟩, hne, rfl⟩)
          · exact .inl ⟨⟨htexts, hplain⟩, rfl⟩
          · refine .inr ⟨fun hp => ?_, hne, rfl⟩
            cases href.symm.trans (hp.texts text hmem)
        · rintro _ _ ⟨text, hmem, href⟩ hp
          cases href.symm.trans (hp.texts text hmem)
      · rintro _ _ ⟨x, hx, hbad⟩ hp
        exact hbad (hp.configurators x hx)
      · intro x hx vm c he
        obtain ⟨d, hd, rfl | rfl⟩ := h.mem_registered.1 hx
        · cases he
        · cases he
          refine ⟨h.plain (List.mem_flatMap.2 ⟨d, hd, List.mem_cons_self⟩), List.mem_filterMap.2 ⟨(d.vm.id, .vm d.vm), ?_, rfl⟩⟩
          exact h.mem_registered.2 ⟨d, hd, .inl rfl⟩
    · exact fun _ _ h => h.elim
    · intro x hx vm he
      obtain ⟨d, hd, rfl | rfl⟩ := h.mem_registered.1 hx
      · cases he
        exact h.areas d hd
      · cases he
  · rintro _ _ ⟨hsaved, -⟩
    cases h.serializeContent.symm.trans hsaved

end State

/-! ### Containers in step -/

/-- The DNNs of the current configuration. -/
def configured (s : SdCoreUpfBlueprint) : List (Option String) :=
  s.upf.currentConfig.toList.flatMap SdCoreUPF.dnnsToDeploy

/-- The DNNs of the configuration are deployed, and the containers and the registry have what is recorded for them. -/
structure InStep (s : SdCoreUpfBlueprint) : Prop where
  unique : (names s).Nodup
  names : ∀ dnn, dnn ∈ names s ↔ dnn ∈ configured s
  listed : s.upf.upfList.Perm (s.upf.own.currentlyDeployedDnns.map Prod.snd)
  vms : (s.upf.vmResources.map VmResource.id).Perm (s.upf.own.currentlyDeployedDnns.map (fun p => p.2.vmResourceId))
  configurators : s.upf.own.vmConfigurators.Perm (s.upf.own.currentlyDeployedDnns.map (fun p => p.2.vmConfiguratorId))
  registered : ∀ p ∈ s.upf.own.currentlyDeployedDnns, (∃ vm, (p.2.vmResourceId, .vm vm) ∈ s.registeredResources) ∧
    ∃ vm configuration, (p.2.vmConfiguratorId, .configurator vm configuration) ∈ s.registeredResources
  only : (s.registeredResources.map Prod.fst).Perm
    (s.upf.own.currentlyDeployedDnns.flatMap (fun p => [p.2.vmResourceId, p.2.vmConfiguratorId]))

theorem Holds.inStep (h : Holds host ds s) (hnames : ∀ dnn, dnn ∈ SdCoreUpfBlueprint.names s ↔ dnn ∈ configured s) : InStep s where
  unique := by
    unfold SdCoreUpfBlueprint.names
    rw [h.deployed, List.map_map]
    have hsome := h.dnns.map (f := some) fun a b he => Option.some.inj he
    rw [List.map_map] at hsome
    exact hsome
  names := hnames
  listed := by
    rw [h.listed, h.deployed, List.map_map]
    exact .refl _
  vms := by
    rw [h.vms, h.deployed, List.map_map, List.map_map]
    exact .of_eq (List.map_congr_left fun d hd => (h.own d hd).symm)
  configurators := by
    rw [h.configurators, h.deployed, List.map_map]
    exact .refl _
  registered := by
    intro p hp
    rw [h.deployed] at hp
    obtain ⟨d, hd, rfl⟩ := List.mem_map.1 hp
    refine ⟨⟨d.vm, h.mem_registered.2 ⟨d, hd, .inl ?_⟩⟩, d.vm, d.configuration, h.mem_registered.2 ⟨d, hd, .inr rfl⟩⟩
    rw [← h.own d hd]
    rfl
  only := by
    rw [h.deployed, List.flatMap_map]
    refine h.keys.trans (.of_eq (List.flatMap_congr fun d hd => ?_))
    rw [Deployment.ids, ← h.own d hd]
    rfl

def withConfigs (create current : Option UPFBlueCreateModel) (s : SdCoreUpfBlueprint) : SdCoreUpfBlueprint :=
  { s with upf := { s.upf with createConfig := create, currentConfig := current } }

theorem Holds.withConfigs (h : Holds host ds s) (create current : Option UPFBlueCreateModel) : Holds host ds (withConfigs create current s) :=
  ⟨h.deployed, h.listed, h.vms, h.configurators, h.registered, h.own, h.dnns, h.ids, h.known, h.areas⟩

/-- A state that calls can go on from. -/
def Working (host : UpfHost) (s : SdCoreUpfBlueprint) : Prop :=
  (∃ ds, Holds host ds s) ∧ ∀ dnn, dnn ∈ names s ↔ dnn ∈ configured s

theorem Working.inStep (h : Working host s) : InStep s := by
  obtain ⟨⟨ds, hds⟩, hnames⟩ := h
  exact hds.inStep hnames

theorem deployments_meets {config : UPFBlueCreateModel} (h : Holds host ds s) (hcurrent : s.upf.currentConfig = some config) :
    Meets (updateDeployments host config) s
      (fun _ s' => Working host s' ∧ ∀ dnn ∈ SdCoreUPF.dnnsToDeploy config, dnn ∉ names s → Ready host config s dnn)
      (fun _ s' => ¬ InStep s' ∧ ¬ ∀ dnn ∈ SdCoreUPF.dnnsToDeploy config, dnn ∉ names s → Ready host config s dnn) := by
  have hconfigured : ∀ s', s'.upf.currentConfig = s.upf.currentConfig → configured s' = SdCoreUPF.dnnsToDeploy config := by
    intro s' he
    unfold configured
    rw [he, hcurrent]
    exact List.flatMap_singleton _ _
  apply (updateDeployments_meets config h).mono
  · intro _ s' hs'
    refine ⟨⟨hs'.holds, ?_⟩, hs'.ready⟩
    rw [hconfigured s' hs'.configs.2]
    exact hs'.names
  · rintro _ s' ⟨he, dnn, hdnn, hnot', hnot, hready⟩
    refine ⟨fun hin => hnot' ((hin.names dnn).2 ?_), fun hall => hready (hall dnn hdnn hnot)⟩
    rw [hconfigured s' he]
    exact hdnn

end SdCoreUpfBlueprint

namespace SdCoreUpfStep

variable (host : UpfHost)

open SdCoreUpfBlueprint (InStep Plain Ready Working names withConfigs)

/-- Each new DNN can be deployed; a blueprint that is read back has no text like a reference. -/
def Accepts (step : SdCoreUpfStep) (s : SdCoreUpfBlueprint) : Prop :=
  match step with
  | .create model => ∀ dnn ∈ SdCoreUPF.dnnsToDeploy model, dnn ∉ names s → Ready host model (withConfigs (some model) (some model) s) dnn
  | .update model => ∀ dnn ∈ SdCoreUPF.dnnsToDeploy model, dnn ∉ names s →
    Ready host model (withConfigs s.upf.createConfig (some model) s) dnn
  | .reload => Plain s

/-- The call leaves the containers in step; a blueprint that was saved can be read back. -/
def StaysInStep (step : SdCoreUpfStep) (s : SdCoreUpfBlueprint) : Prop :=
  (step = .reload → ¬ Raised ((step.exec host).run s)) ∧ InStep (finalState ((step.exec host).run s))

variable {host}

theorem of_meets {step : SdCoreUpfStep} {s : SdCoreUpfBlueprint} {P : Prop}
    (h : Meets (step.exec host) s (fun _ s' => Working host s' ∧ P ∨ ¬ InStep s' ∧ ¬ P) (fun _ s' => (step = .reload ∨ ¬ InStep s') ∧ ¬ P)) :
    (step.StaysInStep host s ↔ P) ∧ (P → Working host (finalState ((step.exec host).run s))) := by
  unfold StaysInStep
  unfold Meets at h
  split at h
  · rename_i hrun
    rw [hrun]
    rcases h with ⟨hworking, hp⟩ | ⟨hin, hp⟩
    · exact ⟨⟨fun _ => hp, fun _ => ⟨fun _ => id, hworking.inStep⟩⟩, fun _ => hworking⟩
    · exact ⟨⟨fun hs => absurd hs.2 hin, fun hp' => absurd hp' hp⟩, fun hp' => absurd hp' hp⟩
  · rename_i hrun
    obtain ⟨hbad, hp⟩ := h
    rw [hrun]
    refine ⟨⟨fun hs => ?_, fun hp' => absurd hp' hp⟩, fun hp' => absurd hp' hp⟩
    rcases hbad with hreload | hin
    · exact absurd trivial (hs.1 hreload)
    · exact absurd hs.2 hin

theorem exec_iff {s : SdCoreUpfBlueprint} (h : Working host s) (step : SdCoreUpfStep) :
    (step.StaysInStep host s ↔ step.Accepts host s) ∧ (step.Accepts host s → Working host (finalState ((step.exec host).run s))) := by
  obtain ⟨⟨ds, hds⟩, hnames⟩ := h
  apply of_meets
  cases step with
  | create model =>
    unfold exec SdCoreUpfBlueprint.create
    rw [meets_bind, SdCoreUpfBlueprint.onUpf, meets_zoom, meets_modify]
    apply (SdCoreUpfBlueprint.deployments_meets (hds.withConfigs (some model) (some model)) rfl).mono
    · exact fun _ _ h => .inl h
    · exact fun _ _ h => ⟨.inr h.1, h.2⟩
  | update model =>
    unfold exec SdCoreUpfBlueprint.update
    rw [meets_bind, SdCoreUpfBlueprint.onUpf, meets_zoom, meets_modify]
    apply (SdCoreUpfBlueprint.deployments_meets (hds.withConfigs s.upf.createConfig (some model)) rfl).mono
    · exact fun _ _ h => .inl h
    · exact fun _ _ h => ⟨.inr h.1, h.2⟩
  | reload =>
    apply (SdCoreUpfBlueprint.reload_meets hds).mono
    · rintro _ _ (⟨hplain, rfl⟩ | ⟨hplain, hne, rfl⟩)
      · exact .inl ⟨⟨⟨_, hds.reloaded⟩, hnames⟩, hplain⟩
      · refine .inr ⟨fun hin => hne ?_, hplain⟩
        exact List.map_eq_nil_iff.1 hin.only.eq_nil
    · exact fun _ _ hplain => ⟨.inl rfl, hplain⟩

end SdCoreUpfStep

theorem sdcore_upfs_in_step_iff (host : UpfHost) (steps : List SdCoreUpfStep) :
    AllSteps (SdCoreUpfStep.exec host) (SdCoreUpfStep.StaysInStep host) {} steps ↔
      AllSteps (SdCoreUpfStep.exec host) (SdCoreUpfStep.Accepts host) {} steps := by
  have hrun : ∀ (steps : List SdCoreUpfStep) (s : SdCoreUpfBlueprint), SdCoreUpfBlueprint.Working host s →
      (AllSteps (SdCoreUpfStep.exec host) (SdCoreUpfStep.StaysInStep host) s steps ↔
        AllSteps (SdCoreUpfStep.exec host) (SdCoreUpfStep.Accepts host) s steps) := by
    intro steps
    induction steps with
    | nil => exact fun _ _ => Iff.rfl
    | cons step steps ih =>
      intro s hs
      obtain ⟨hiff, hworking⟩ := SdCoreUpfStep.exec_iff hs step
      constructor
      · rintro ⟨hstep, hrest⟩
        have haccepts := hiff.1 hstep
        exact ⟨haccepts, (ih _ (hworking haccepts)).1 hrest⟩
      · rintro ⟨haccepts, hrest⟩
        exact ⟨hiff.2 haccepts, (ih _ (hworking haccepts)).2 hrest⟩
  apply hrun
  refine ⟨⟨[], ?_⟩, fun dnn => Iff.rfl⟩
  exact ⟨rfl, rfl, rfl, rfl, .refl _, fun d hd => (nomatch hd), List.nodup_nil, List.nodup_nil, fun id hid => (nomatch hid), fun d hd => (nomatch hd)⟩

/-! ### One campus, one DNN with two pools -/

def sdcoreHost : UpfHost where
  interfaces := fun _ vm network =>
    if network ∈ vm.getAllConnectedNetworkNames then some [{ mac := "fa:16:3e:00:00:01", ip := campusAddress 6, cidr := campusNetwork }]
    else none
  attached := fun _ _ _ h => ⟨_, _, if_pos h⟩
  uuid := fun n => String.ofList (List.replicate n '0')
  uuid_injective := campusVims.uuid_injective
  order_nodup := campusVims.order_nodup
  order_mem := campusVims.order_mem
  hasVim := fun _ => true
  unattached := fun _ _ _ h => if_neg h
  uuid_plain := by
    intro n
    rw [String.toList_ofList]
    induction n with
    | zero => rfl
    | succ n ih =>
      rw [List.replicate_succ, beforeRef, ih]
      rfl

/-- The second slice has another pool for the DNN. -/
def otherPool : SliceModel where
  id := "000002"
  dnnList := [campusDnn "internet" "10.251.0.0/16"]

/-- The machine is registered before the pools are compared. -/
theorem sdcore_upfs_in_step_fails :
    ¬ ∀ (host : UpfHost) (steps : List SdCoreUpfStep), AllSteps (SdCoreUpfStep.exec host) (SdCoreUpfStep.StaysInStep host) {} steps := by
  intro h
  obtain ⟨⟨-, hin⟩, -⟩ := h sdcoreHost [.create (campusUpf [campusSlice, otherPool])]
  have hregistered : (finalState ((SdCoreUpfStep.exec sdcoreHost (.create (campusUpf [campusSlice, otherPool]))).run {})).registeredResources.map
      Prod.fst = [""] := by
    decide +kernel
  have hdeployed : (finalState ((SdCoreUpfStep.exec sdcoreHost (.create (campusUpf [campusSlice, otherPool]))).run
      {})).upf.own.currentlyDeployedDnns = [] := by
    decide +kernel
  have honly := hin.only
  rw [hregistered, hdeployed] at honly
  exact absurd honly.length_eq (by decide)

end Nfvcl
