import Mathlib.Data.List.TakeWhile
import Nfvcl.VimLists

namespace Nfvcl
set_option autoImplicit true
open Effects

section Folds

theorem nodup_foldl_erase [DecidableEq α] {listed : List α} (names : List α) (h : listed.Nodup) :
    (names.foldl List.erase listed).Nodup := by
  induction names generalizing listed with
  | nil => exact h
  | cons a names ih => exact ih (h.erase a)

theorem mem_foldl_erase [DecidableEq α] {names listed : List α} (h : listed.Nodup) :
    x ∈ names.foldl List.erase listed ↔ x ∈ listed ∧ x ∉ names := by
  induction names generalizing listed with
  | nil => simp
  | cons a names ih =>
    rw [List.foldl_cons, ih (h.erase a), h.mem_erase_iff, List.mem_cons]
    constructor
    · rintro ⟨⟨hne, hx⟩, hnot⟩
      exact ⟨hx, fun hor => hor.elim hne hnot⟩
    · rintro ⟨hx, hnot⟩
      exact ⟨⟨fun he => hnot (.inl he), hx⟩, fun hmem => hnot (.inr hmem)⟩

/-- An element already listed is not added again. -/
theorem nodup_addNew {listed : List α} (h : listed.Nodup) (ha : a ∉ listed) : (listed ++ [a]).Nodup := by
  rw [List.nodup_append]
  refine ⟨h, List.nodup_singleton a, ?_⟩
  intro x hx y hy he
  rw [he, List.mem_singleton.1 hy] at hx
  exact ha hx

theorem nodup_addName (h : listed.Nodup) : (addName name listed).Nodup := by
  unfold addName
  split
  · exact h
  · next hnot => exact nodup_addNew h (fun hmem => hnot (.inl hmem))

theorem mem_addName_iff : x ∈ addName name listed ↔ x ∈ listed ∨ (x = name ∧ x ≠ "") := by
  unfold addName
  split
  · next hc =>
    constructor
    · exact .inl
    · rintro (hx | ⟨rfl, hne⟩)
      · exact hx
      · exact hc.resolve_right hne
  · next hc =>
    rw [List.mem_append, List.mem_singleton]
    constructor
    · rintro (hx | rfl)
      · exact .inl hx
      · exact .inr ⟨rfl, fun he => hc (.inr he)⟩
    · exact fun h => h.imp_right And.left

theorem nodup_addNames (names : List String) (h : listed.Nodup) : (addNames names listed).Nodup := by
  induction names generalizing listed with
  | nil => exact h
  | cons a names ih => exact ih (nodup_addName h)

theorem mem_addNames_iff {names listed : List String} :
    x ∈ addNames names listed ↔ x ∈ listed ∨ (x ∈ names ∧ x ≠ "") := by
  induction names generalizing listed with
  | nil => simp [addNames]
  | cons a names ih =>
    change x ∈ addNames names (addName a listed) ↔ _
    rw [ih, mem_addName_iff, List.mem_cons]
    constructor
    · rintro ((hx | ⟨rfl, hne⟩) | ⟨hx, hne⟩)
      · exact .inl hx
      · exact .inr ⟨.inl rfl, hne⟩
      · exact .inr ⟨.inr hx, hne⟩
    · rintro (hx | ⟨rfl | hx, hne⟩)
      · exact .inl (.inl hx)
      · exact .inl (.inr ⟨rfl, hne⟩)
      · exact .inr ⟨hx, hne⟩

theorem nodup_addAreas (ids : List Int) {areas : List Int} (h : areas.Nodup) : (addAreas ids areas).Nodup := by
  induction ids generalizing areas with
  | nil => exact h
  | cons a ids ih =>
    apply ih
    by_cases ha : a ∈ areas
    · simp only [if_pos ha]
      exact h
    · simp only [if_neg ha]
      exact nodup_addNew h ha

theorem mem_addAreas {ids areas : List Int} : x ∈ addAreas ids areas ↔ x ∈ areas ∨ x ∈ ids := by
  induction ids generalizing areas with
  | nil => simp [addAreas]
  | cons a ids ih =>
    change x ∈ addAreas ids (if a ∈ areas then areas else areas ++ [a]) ↔ _
    rw [ih, List.mem_cons]
    by_cases ha : a ∈ areas
    · rw [if_pos ha]
      constructor
      · exact fun h => h.imp_right .inr
      · rintro (hx | rfl | hx)
        · exact .inl hx
        · exact .inl ha
        · exact .inr hx
    · rw [if_neg ha, List.mem_append, List.mem_singleton, or_assoc]

end Folds

section Routers

variable {networks : List String}

/-- The names `del_router` takes for routers of the VIM. -/
def seen (networks del : List String) : List String := del.filter (fun r => decide (r ∈ networks))

/-- Deleting routers raises exactly when a name listed as a network is missing among the routers, also
because it was deleted just before. -/
theorem removeRouters_total {routers : List String} (h : routers.Nodup) :
    (∃ left, removeRouters networks routers del = some left) ↔
      (seen networks del).Nodup ∧ ∀ r ∈ seen networks del, r ∈ routers := by
  induction del generalizing routers with
  | nil => exact ⟨fun _ => ⟨.nil, by simp [seen]⟩, fun _ => ⟨routers, rfl⟩⟩
  | cons r del ih =>
    rw [removeRouters]
    by_cases hn : r ∈ networks
    · have hseen : seen networks (r :: del) = r :: seen networks del :=
        List.filter_cons_of_pos (by simpa using hn)
      rw [hseen, List.nodup_cons, List.forall_mem_cons]
      by_cases hr : r ∈ routers
      · rw [if_neg (fun hc => hc.2 hr), if_pos hn, ih (h.erase r)]
        constructor
        · rintro ⟨hnd, hall⟩
          refine ⟨⟨fun hmem => (h.mem_erase_iff.1 (hall r hmem)).1 rfl, hnd⟩, hr, ?_⟩
          exact fun s hs => List.mem_of_mem_erase (hall s hs)
        · rintro ⟨⟨hnot, hnd⟩, -, hall⟩
          refine ⟨hnd, fun s hs => h.mem_erase_iff.2 ⟨?_, hall s hs⟩⟩
          rintro rfl
          exact hnot hs
      · rw [if_pos ⟨hn, hr⟩]
        constructor
        · rintro ⟨left, hleft⟩
          cases hleft
        · exact fun hc => absurd hc.2.1 hr
    · have hseen : seen networks (r :: del) = seen networks del :=
        List.filter_cons_of_neg (by simpa using hn)
      rw [hseen, if_neg (fun hc => hn hc.1), if_neg hn, ih h]

theorem removeRouters_left {routers : List String} (h : removeRouters networks routers del = some left) :
    left = (seen networks del).foldl List.erase routers := by
  induction del generalizing routers with
  | nil =>
    cases h
    rfl
  | cons r del ih =>
    rw [removeRouters] at h
    split at h
    · cases h
    · by_cases hn : r ∈ networks
      · rw [if_pos hn] at h
        have hseen : seen networks (r :: del) = r :: seen networks del :=
          List.filter_cons_of_pos (by simpa using hn)
        rw [hseen, List.foldl_cons]
        exact ih h
      · rw [if_neg hn] at h
        have hseen : seen networks (r :: del) = seen networks del :=
          List.filter_cons_of_neg (by simpa using hn)
        rw [hseen]
        exact ih h

end Routers

/-- A list without duplicates holds what was there or is added, less what is deleted. -/
def Combined (old add del new : List α) : Prop :=
  new.Nodup ∧ ∀ x, x ∈ new ↔ (x ∈ old ∨ x ∈ add) ∧ x ∉ del

structure VimModel.NoDuplicates (v : VimModel) : Prop where
  networks : v.networks.Nodup
  routers : v.routers.Nodup
  areas : v.areas.Nodup

/-- The update returns, the lists of the VIM are combined with those of the message, and nothing
else of the topology changes. -/
def UpdatesAsSets (services : Services) (t : TopologyModel) (v : VimModel) (msg : UpdateVimModel) : Prop :=
  ∃ v' t' : _, t' = { t with vims := KeyedList.replace VimModel.name t.vims v' } ∧
    (Topology.updateVim services msg).run (Topology.fromDb (some t)) = .ok () ⟨some t', some t'⟩ ∧
    v' = { v with networks := v'.networks, routers := v'.routers, areas := v'.areas } ∧
    Combined v.networks msg.networksToAdd msg.networksToDel v'.networks ∧
    Combined v.routers msg.routersToAdd msg.routersToDel v'.routers ∧
    Combined v.areas msg.areasToAdd msg.areasToDel v'.areas

namespace UpdateVimModel

variable (msg : UpdateVimModel)

/-- The VIM lists the name as a network once the networks of the message are added and deleted. -/
def ListsNetwork (v : VimModel) (name : String) : Prop :=
  (name ∈ v.networks ∨ name ∈ msg.networksToAdd) ∧ name ∉ msg.networksToDel

/-- The VIM lists the name as a router once those of the message are added; an empty name is not. -/
def ListsRouter (v : VimModel) (name : String) : Prop :=
  name ∈ v.routers ∨ (name ∈ msg.routersToAdd ∧ name ≠ "")

instance (v : VimModel) (name : String) : Decidable (msg.ListsNetwork v name) :=
  inferInstanceAs (Decidable (_ ∧ _))

instance (v : VimModel) (name : String) : Decidable (msg.ListsRouter v name) :=
  inferInstanceAs (Decidable (_ ∨ _))

instance (t : TopologyModel) : Decidable (msg.NetworksKnown t) :=
  inferInstanceAs (Decidable (∀ n ∈ msg.networksToAdd, t.HasNetwork n))

/-- What the update needs beyond its networks being known. -/
structure Clean (t : TopologyModel) (v : VimModel) : Prop where
  routersFound : ∀ r ∈ msg.routersToAdd, Topology.routerFound t v.name r = true
  emptyNetwork : "" ∈ msg.networksToAdd → "" ∈ v.networks ∨ "" ∈ msg.networksToDel
  emptyRouter : "" ∈ msg.routersToAdd → "" ∈ v.routers ∨ "" ∈ msg.routersToDel
  sameNames : ∀ r ∈ msg.routersToDel, msg.ListsNetwork v r ↔ msg.ListsRouter v r
  once : (msg.routersToDel.filter (fun r => decide (msg.ListsNetwork v r))).Nodup

end UpdateVimModel

section Lists

variable {msg : UpdateVimModel} {v : VimModel}

theorem mem_networksAfter (h : v.networks.Nodup) :
    x ∈ msg.networksAfter v ↔ (x ∈ v.networks ∨ (x ∈ msg.networksToAdd ∧ x ≠ "")) ∧ x ∉ msg.networksToDel := by
  unfold UpdateVimModel.networksAfter eraseNames
  rw [mem_foldl_erase (nodup_addNames _ h), mem_addNames_iff]

theorem networksAfter_nodup (h : v.networks.Nodup) : (msg.networksAfter v).Nodup :=
  nodup_foldl_erase _ (nodup_addNames _ h)

/-- Only an empty name can be left out. -/
theorem networks_combined_iff (h : v.networks.Nodup) :
    Combined v.networks msg.networksToAdd msg.networksToDel (msg.networksAfter v) ↔
      ("" ∈ msg.networksToAdd → "" ∈ v.networks ∨ "" ∈ msg.networksToDel) := by
  constructor
  · rintro ⟨-, hmem⟩ hadd
    by_cases hdel : "" ∈ msg.networksToDel
    · exact .inr hdel
    · have hin := (hmem "").2 ⟨.inr hadd, hdel⟩
      rw [mem_networksAfter h] at hin
      exact .inl (hin.1.resolve_right (fun hc => hc.2 rfl))
  · intro hempty
    refine ⟨networksAfter_nodup h, fun x => ?_⟩
    rw [mem_networksAfter h]
    refine and_congr_left (fun hdel => ?_)
    constructor
    · exact fun hor => hor.imp_right And.left
    · rintro (hx | hx)
      · exact .inl hx
      · by_cases he : x = ""
        · subst he
          exact .inl ((hempty hx).resolve_right hdel)
        · exact .inr ⟨hx, he⟩

theorem areas_combined (h : v.areas.Nodup) :
    Combined v.areas msg.areasToAdd msg.areasToDel (eraseAreas msg.areasToDel (addAreas msg.areasToAdd v.areas)) := by
  refine ⟨nodup_foldl_erase _ (nodup_addAreas _ h), fun x => ?_⟩
  unfold eraseAreas
  rw [mem_foldl_erase (nodup_addAreas _ h), mem_addAreas]

theorem listsNetwork_iff (h : v.networks.Nodup)
    (hempty : "" ∈ msg.networksToAdd → "" ∈ v.networks ∨ "" ∈ msg.networksToDel) :
    x ∈ msg.networksAfter v ↔ msg.ListsNetwork v x :=
  ((networks_combined_iff h).2 hempty).2 x

/-- The routers after the update are right exactly when the names deleted are those listed as a
network and as a router, and no empty name goes missing. -/
theorem routers_combined_iff {networks routers : List String} (h : v.routers.Nodup)
    (hrouters : routers = (seen networks msg.routersToDel).foldl List.erase (addNames msg.routersToAdd v.routers)) :
    Combined v.routers msg.routersToAdd msg.routersToDel routers ↔
      ("" ∈ msg.routersToAdd → "" ∈ v.routers ∨ "" ∈ msg.routersToDel) ∧
        ∀ r ∈ msg.routersToDel, msg.ListsRouter v r → r ∈ networks := by
  have hmem : ∀ x, x ∈ routers ↔ msg.ListsRouter v x ∧ ¬ (x ∈ msg.routersToDel ∧ x ∈ networks) := by
    intro x
    rw [hrouters, mem_foldl_erase (nodup_addNames _ h), mem_addNames_iff, seen, List.mem_filter, decide_eq_true_eq]
    exact Iff.rfl
  constructor
  · rintro ⟨-, hcomb⟩
    constructor
    · intro hadd
      by_cases hdel : "" ∈ msg.routersToDel
      · exact .inr hdel
      · have hin := (hmem "").1 ((hcomb "").2 ⟨.inr hadd, hdel⟩)
        exact .inl (hin.1.resolve_right (fun hc => hc.2 rfl))
    · intro r hr hlists
      by_contra hnet
      have hin := (hmem r).2 ⟨hlists, fun hc => hnet hc.2⟩
      exact ((hcomb r).1 hin).2 hr
  · rintro ⟨hempty, hdel⟩
    refine ⟨hrouters ▸ nodup_foldl_erase _ (nodup_addNames _ h), fun x => ?_⟩
    rw [hmem]
    constructor
    · rintro ⟨hlists, hnot⟩
      refine ⟨hlists.imp_right And.left, fun hx => hnot ⟨hx, hdel x hx hlists⟩⟩
    · rintro ⟨hor, hx⟩
      refine ⟨?_, fun hc => hx hc.1⟩
      rcases hor with hold | hadd
      · exact .inl hold
      · by_cases he : x = ""
        · subst he
          exact .inl ((hempty hadd).resolve_right hx)
        · exact .inr ⟨hadd, he⟩

end Lists

section Update

variable {services : Services} {t : TopologyModel} {v : VimModel} {msg : UpdateVimModel}

theorem replace_eq_setVim (h : t.VimAt i v) (hname : v'.name = v.name) :
    { t with vims := KeyedList.replace VimModel.name t.vims v' } = t.setVim i v' := by
  simp only [KeyedList.replace, hname, h.position]
  rfl

theorem setVim_inj (h : t.VimAt i v) (he : t.setVim i a = t.setVim i b) : a = b := by
  have hlt := (List.getElem?_eq_some_iff.1 h.getElem?).1
  have hget := congrArg (fun t : TopologyModel => t.vims[i]?) he
  simp only [TopologyModel.setVim_vims, List.getElem?_set_self hlt, Option.some.injEq] at hget
  exact hget

/-- After an update that returns, the three lists decide. -/
theorem updatesAsSets_of_run (h : t.VimAt i v)
    (hrun : (Topology.updateVim services msg).run (Topology.fromDb (some t)) =
      .ok () ⟨some (t.setVim i (msg.updated v routers)), some (t.setVim i (msg.updated v routers))⟩) :
    UpdatesAsSets services t v msg ↔
      Combined v.networks msg.networksToAdd msg.networksToDel (msg.networksAfter v) ∧
        Combined v.routers msg.routersToAdd msg.routersToDel routers ∧
        Combined v.areas msg.areasToAdd msg.areasToDel (msg.updated v routers).areas := by
  constructor
  · rintro ⟨v', t', rfl, hrun', hv', hnets, hrouters, hareas⟩
    have hname : v'.name = v.name := by
      rw [hv']
    rw [hrun, replace_eq_setVim h hname] at hrun'
    have hsame : v' = msg.updated v routers := by
      obtain ⟨-, hs⟩ := EStateM.Result.ok.inj hrun'
      exact (setVim_inj h (Option.some.inj (congrArg Topology.model hs))).symm
    subst hsame
    exact ⟨hnets, hrouters, hareas⟩
  · rintro ⟨hnets, hrouters, hareas⟩
    refine ⟨msg.updated v routers, t.setVim i (msg.updated v routers), ?_, hrun, rfl, hnets, hrouters, hareas⟩
    exact (replace_eq_setVim h (show (msg.updated v routers).name = v.name from rfl)).symm

/-- Deleting the routers goes through exactly when each name the VIM lists as a network is a router
of it and named once. -/
theorem removeRouters_total_iff (hnd : v.NoDuplicates)
    (hempty : "" ∈ msg.networksToAdd → "" ∈ v.networks ∨ "" ∈ msg.networksToDel)
    (hfound : msg.routersFound t v = msg.routersToAdd) :
    (∃ routers, removeRouters (msg.networksAfter v) (msg.routersAdded t v) msg.routersToDel = some routers) ↔
      (msg.routersToDel.filter (fun r => decide (msg.ListsNetwork v r))).Nodup ∧
        ∀ r ∈ msg.routersToDel, msg.ListsNetwork v r → msg.ListsRouter v r := by
  have hseen : seen (msg.networksAfter v) msg.routersToDel =
      msg.routersToDel.filter (fun r => decide (msg.ListsNetwork v r)) := by
    apply List.filter_congr
    intro r _
    exact decide_eq_decide.2 (listsNetwork_iff hnd.networks hempty)
  rw [UpdateVimModel.routersAdded, hfound, removeRouters_total (nodup_addNames _ hnd.routers), hseen]
  refine and_congr_right (fun _ => ?_)
  constructor
  · intro hall r hr hnet
    exact mem_addNames_iff.1 (hall r (List.mem_filter.2 ⟨hr, decide_eq_true hnet⟩))
  · intro hall r hr
    obtain ⟨hdel, hnet⟩ := List.mem_filter.1 hr
    exact mem_addNames_iff.2 (hall r hdel (of_decide_eq_true hnet))

theorem update_vim_is_set_arithmetic (services : Services)
    (hpub : ∀ t', services.publish .vimUpdate (some t') = none) (t : TopologyModel) (v : VimModel)
    (msg : UpdateVimModel) (hv : KeyedList.toMap VimModel.name t.vims msg.name = some v)
    (hnd : v.NoDuplicates) (hnets : msg.NetworksKnown t) :
    UpdatesAsSets services t v msg ↔ msg.Clean t v := by
  obtain ⟨i, hpos, hget⟩ := KeyedList.findIndex_of_toMap hv
  have hname : v.name = msg.name := KeyedList.toMap_some_key hv
  have h : t.VimAt i v := ⟨hget, by rw [hname]; exact hpos⟩
  have hat := Topology.updateVim_run_found (d := some t) services msg h hname
  rcases Topology.updateVimAt_cases (d := some t) services msg h with
    ⟨hno, -⟩ | ⟨-, hfails, e, m, herror⟩ | ⟨-, hfound, routers, hrouters, hrun⟩
  · exact absurd hnets hno
  · constructor
    · rintro ⟨v', t', -, hok, -⟩
      rw [Topology.fromDb, hat, herror] at hok
      cases hok
    · intro hclean
      have hfound : msg.routersFound t v = msg.routersToAdd :=
        List.takeWhile_eq_self_iff.2 hclean.routersFound
      obtain ⟨routers, hrouters⟩ := (removeRouters_total_iff hnd hclean.emptyNetwork hfound).2
        ⟨hclean.once, fun r hr hnet => (hclean.sameNames r hr).1 hnet⟩
      rcases hfails with hne | hnone
      · exact absurd hfound hne
      · rw [hnone] at hrouters
        cases hrouters
  · rw [Topology.triggerRedisEvent_run] at hrun
    simp only [hpub] at hrun
    rw [hrun] at hat
    have hleft := removeRouters_left hrouters
    rw [UpdateVimModel.routersAdded, hfound] at hleft
    rw [updatesAsSets_of_run h hat, networks_combined_iff hnd.networks, routers_combined_iff hnd.routers hleft]
    have hareas : Combined v.areas msg.areasToAdd msg.areasToDel (msg.updated v routers).areas :=
      areas_combined hnd.areas
    constructor
    · rintro ⟨hempty, ⟨hemptyRouter, hdel⟩, -⟩
      obtain ⟨honce, hlisted⟩ := (removeRouters_total_iff hnd hempty hfound).1 ⟨routers, hrouters⟩
      refine ⟨List.takeWhile_eq_self_iff.1 hfound, hempty, hemptyRouter, fun r hr => ⟨hlisted r hr, ?_⟩, honce⟩
      exact fun hlists => (listsNetwork_iff hnd.networks hempty).1 (hdel r hr hlists)
    · intro hclean
      refine ⟨hclean.emptyNetwork, ⟨hclean.emptyRouter, fun r hr hlists => ?_⟩, hareas⟩
      exact (listsNetwork_iff hnd.networks hclean.emptyNetwork).2 ((hclean.sameNames r hr).2 hlists)

end Update

/-- A topology with one VIM that has the router `edge`. -/
def edgeTopology : TopologyModel where
  vims := [{ name := "core", vimUrl := "http://core", networks := ["mgmt"], routers := ["edge"], areas := [1] }]
  networks := [lanNamed "mgmt", lanNamed "data"]
  routers := [{ name := "edge" }]
where
  lanNamed (name : String) : NetworkModel :=
    { name := name, type := .vlan, cidr := .lan }

theorem update_vim_is_set_arithmetic_edge :
    ∃ v, KeyedList.toMap VimModel.name edgeTopology.vims "core" = some v ∧
      UpdatesAsSets {} edgeTopology v
        { name := "core", networksToAdd := ["data"], networksToDel := ["mgmt"], areasToAdd := [2, 2], areasToDel := [1] } := by
  refine ⟨_, rfl, (update_vim_is_set_arithmetic {} (fun _ => rfl) edgeTopology _ _ rfl
    ⟨by decide, by decide, by decide⟩ (by decide)).2 ⟨by decide, by decide, by decide, by decide, by decide⟩⟩

/-- A router listed by the VIM stays although it is to be deleted. -/
theorem update_vim_is_set_arithmetic_fails :
    ¬ ∀ (services : Services), (∀ t', services.publish .vimUpdate (some t') = none) →
      ∀ (t : TopologyModel) (v : VimModel) (msg : UpdateVimModel), (∀ w ∈ t.vims, w.NoDuplicates) →
        KeyedList.toMap VimModel.name t.vims msg.name = some v → msg.NetworksKnown t →
        (∀ r ∈ msg.routersToAdd, ∃ router ∈ t.routers, router.name = r ∧
          ∀ p ∈ router.ports, ∀ n ∈ t.networks, n.name = p.net → n.external = false) →
        UpdatesAsSets services t v msg := by
  intro h
  let msg : UpdateVimModel := { name := "core", routersToDel := ["edge"] }
  obtain ⟨v', t', rfl, hrun, hv', -, hrouters, -⟩ := h {} (fun _ => rfl) edgeTopology _ msg
    (fun w hw => by cases List.mem_singleton.1 hw; exact ⟨by decide, by decide, by decide⟩) rfl (by decide) (by decide)
  have hkept : finalState ((Topology.updateVim {} msg).run (Topology.fromDb (some edgeTopology))) =
      ⟨some edgeTopology, some edgeTopology⟩ := by decide +kernel
  rw [hrun] at hkept
  have hvims := congrArg TopologyModel.vims (Option.some.inj (congrArg Topology.model hkept))
  have hname : v'.name = "core" := by rw [hv']
  have hhead : KeyedList.replace VimModel.name edgeTopology.vims v' = [v'] := by
    simp [KeyedList.replace, KeyedList.findIndex, edgeTopology, hname]
  have hsame : [v'] = edgeTopology.vims := hhead.symm.trans hvims
  cases hsame
  exact ((hrouters.2 "edge").1 (by decide)).2 (by decide)

end Nfvcl
