import Mathlib.Data.List.Basic
import Nfvcl.TopologyEffects

namespace Nfvcl
set_option autoImplicit true

/-- An item of the topology document. -/
inductive ItemKey where
  | vim (name : String)
  | network (name : String)
  | router (name : String)
  | pdu (name : String)
  | cluster (name : String)
  | server (id : String)
  | range (netName : String) (range : IPv4ReservedRange)
  deriving DecidableEq, Repr

/-- What the document says about an item. The reserved ranges of a network are items of their own. -/
inductive ItemValue where
  | vim (v : VimModel)
  | network (n : NetworkModel)
  | router (r : RouterModel)
  | pdu (p : PduModel)
  | cluster (c : TopologyK8sModel)
  | server (s : PrometheusServerModel)
  | range
  deriving DecidableEq, Repr

namespace TopologyModel

def item (t : TopologyModel) : ItemKey → Option ItemValue
  | .vim name => (KeyedList.toMap VimModel.name t.vims name).map .vim
  | .network name =>
    (KeyedList.toMap NetworkModel.name t.networks name).map (fun n => .network { n with reservedRanges := [] })
  | .router name => (KeyedList.toMap RouterModel.name t.routers name).map .router
  | .pdu name => (KeyedList.toMap PduModel.name t.pdus name).map .pdu
  | .cluster name => (KeyedList.toMap TopologyK8sModel.name t.kubernetes name).map .cluster
  | .server id => (KeyedList.toMap PrometheusServerModel.id t.prometheusSrv id).map .server
  | .range netName r =>
    match KeyedList.toMap NetworkModel.name t.networks netName with
    | some n => if r ∈ n.reservedRanges then some .range else none
    | none => none

end TopologyModel

/-- The items an operation is about: those it names, and the ranges it reserves or releases.
`del_router` is also about the router it really removes. -/
def TopologyOp.Concerns (t t' : TopologyModel) : TopologyOp → ItemKey → Prop
  | .addVim v, k => k = .vim v.name
  | .delVim name, k => k = .vim name
  | .updateVim msg, k => k = .vim msg.name
  | .addNetworkModel n names, k =>
    k = .network n.name ∨ (∃ r, k = .range n.name r) ∨ ∃ name ∈ names.getD [], k = .vim name
  | .delNetwork n names, k =>
    k = .network n.name ∨ (∃ r, k = .range n.name r) ∨ ∃ name ∈ names.getD [], k = .vim name
  | .delNetworkByName name, k => k = .network name ∨ ∃ r, k = .range name r
  | .addRouter r, k => k = .router r.name
  | .delRouter name names, k =>
    k = .router name ∨ (∃ removed, k = .router removed ∧ t'.item k ≠ t.item k) ∨
      ∃ name ∈ names.getD [], k = .vim name
  | .reserveRange _ _ _ _, k => ∃ netName r, k = .range netName r ∧ t'.item k ≠ t.item k
  | .releaseRanges _ _ _, k => ∃ netName r, k = .range netName r ∧ t'.item k ≠ t.item k
  | .addPdu p, k => k = .pdu p.name
  | .updPdu p, k => k = .pdu p.name
  | .delPdu name, k => k = .pdu name
  | .addK8scluster c, k => k = .cluster c.name
  | .delK8scluster name, k => k = .cluster name
  | .updateK8scluster c, k => k = .cluster c.name
  | .addPrometheusServer s, k => k = .server s.id
  | .delPrometheusServer id _, k => k = .server id
  | .updatePrometheusServer s, k => k = .server s.id

section Frame

variable {t t' : TopologyModel}

/-- Models with the same VIMs, networks and so on agree on the items of that kind. -/
structure SameExceptVims (t t' : TopologyModel) : Prop where
  networks : t'.networks = t.networks
  routers : t'.routers = t.routers
  pdus : t'.pdus = t.pdus
  kubernetes : t'.kubernetes = t.kubernetes
  prometheusSrv : t'.prometheusSrv = t.prometheusSrv

theorem SameExceptVims.item_eq (h : SameExceptVims t t')
    (hvim : ∀ name, k = .vim name →
      KeyedList.toMap VimModel.name t'.vims name = KeyedList.toMap VimModel.name t.vims name) :
    t'.item k = t.item k := by
  cases k with
  | vim name => simp only [TopologyModel.item, hvim name rfl]
  | network name => simp only [TopologyModel.item, h.networks]
  | router name => simp only [TopologyModel.item, h.routers]
  | pdu name => simp only [TopologyModel.item, h.pdus]
  | cluster name => simp only [TopologyModel.item, h.kubernetes]
  | server id => simp only [TopologyModel.item, h.prometheusSrv]
  | range netName r => simp only [TopologyModel.item, h.networks]

theorem editVim_same (f : VimModel → VimModel) (t : TopologyModel) (name : String) :
    SameExceptVims t (t.editVim f name) := by
  unfold TopologyModel.editVim
  split <;> exact ⟨rfl, rfl, rfl, rfl, rfl⟩

theorem foldl_editVim_same (f : VimModel → VimModel) (names : List String) (t : TopologyModel) :
    SameExceptVims t (names.foldl (TopologyModel.editVim f) t) := by
  induction names generalizing t with
  | nil => exact ⟨rfl, rfl, rfl, rfl, rfl⟩
  | cons a names ih =>
    have h₁ := editVim_same f t a
    have h₂ := ih (t.editVim f a)
    exact ⟨h₂.networks.trans h₁.networks, h₂.routers.trans h₁.routers, h₂.pdus.trans h₁.pdus,
      h₂.kubernetes.trans h₁.kubernetes, h₂.prometheusSrv.trans h₁.prometheusSrv⟩

theorem foldl_editVim_toMap {f : VimModel → VimModel} (hf : ∀ v, (f v).name = v.name) {names : List String}
    (t : TopologyModel) (h : name ∉ names) :
    KeyedList.toMap VimModel.name (names.foldl (TopologyModel.editVim f) t).vims name =
      KeyedList.toMap VimModel.name t.vims name := by
  induction names generalizing t with
  | nil => rfl
  | cons a names ih =>
    rw [List.foldl_cons, ih (t.editVim f a) (fun hn => h (List.mem_cons_of_mem a hn)),
      TopologyModel.editVim_toMap hf, if_neg (fun he => h (by rw [he]; exact List.mem_cons_self))]

/-- Editing the listed VIMs leaves every other item alone. -/
theorem foldl_editVim_item {f : VimModel → VimModel} (hf : ∀ v, (f v).name = v.name) {names : List String}
    (t : TopologyModel) (h : ¬ ∃ name ∈ names, k = .vim name) :
    (names.foldl (TopologyModel.editVim f) t).item k = t.item k :=
  (foldl_editVim_same f names t).item_eq (fun name hk =>
    foldl_editVim_toMap hf t (fun hn => h ⟨name, hn, hk⟩))

theorem item_networks (h : ∀ name, k = .network name ∨ (∃ r, k = .range name r) →
      KeyedList.toMap NetworkModel.name networks name = KeyedList.toMap NetworkModel.name t.networks name) :
    TopologyModel.item { t with networks := networks } k = t.item k := by
  cases k with
  | network name => simp only [TopologyModel.item, h name (.inl rfl)]
  | range netName r => simp only [TopologyModel.item, h netName (.inr ⟨r, rfl⟩)]
  | _ => rfl

/-- A change of the reserved ranges of one network leaves every other item alone. -/
theorem item_ranges (hn : t.networks[i]? = some n) (ranges : List IPv4ReservedRange)
    (hk : ¬ ∃ netName r, k = .range netName r) :
    TopologyModel.item { t with networks := t.networks.set i { n with reservedRanges := ranges } } k =
      t.item k := by
  cases k with
  | network name =>
    have hkey : NetworkModel.name { n with reservedRanges := ranges } = n.name := rfl
    exact KeyedList.toMap_set_map (f := fun n => ItemValue.network { n with reservedRanges := [] }) hn hkey rfl
  | range netName r => exact (hk ⟨netName, r, rfl⟩).elim
  | _ => rfl

/-- An operation changes only the items it concerns. -/
theorem TopologyOp.Effect.item_eq {op : TopologyOp} (h : op.Effect t t') (hk : ¬ op.Concerns t t' k) :
    t'.item k = t.item k := by
  cases h with
  | addVim hnone =>
    refine SameExceptVims.item_eq ⟨rfl, rfl, rfl, rfl, rfl⟩ (fun name he => ?_)
    subst he
    exact KeyedList.toMap_append_of_ne (fun hn => hk (by rw [← hn]; rfl))
  | delVim hhas =>
    refine SameExceptVims.item_eq ⟨rfl, rfl, rfl, rfl, rfl⟩ (fun name he => ?_)
    subst he
    exact KeyedList.toMap_erase_of_ne (fun hn => hk (by rw [← hn]; rfl))
  | updateVimAbsent => rfl
  | @updateVim i v routers msg hat hname =>
    refine SameExceptVims.item_eq ⟨rfl, rfl, rfl, rfl, rfl⟩ (fun name he => ?_)
    subst he
    have hpos : KeyedList.findIndex VimModel.name t.vims (msg.updated v routers).name = some i := hat.position
    exact KeyedList.toMap_set_of_ne hpos (fun hn => hk (by rw [← hn]; exact congrArg ItemKey.vim hname))
  | @addNetwork n names hnone hvims =>
    rw [TopologyModel.listNet, foldl_editVim_item (fun v => v.setNetworks_name _) _ (fun he => hk (.inr (.inr he)))]
    refine item_networks (fun name he => KeyedList.toMap_append_of_ne (fun hn => hk ?_))
    rcases he with he | ⟨r, he⟩
    · exact .inl (by rw [he, hn])
    · exact .inr (.inl ⟨r, by rw [he, hn]⟩)
  | @delNetwork names n hhas hvims =>
    have hfold := foldl_editVim_item (k := k) (f := fun v => v.setNetworks (v.networks.erase n.name))
      (fun v => v.setNetworks_name _) t (fun he => hk (.inr (.inr he)))
    rw [← hfold]
    refine item_networks (fun name he => ?_)
    rw [TopologyModel.dropNet, TopologyModel.foldl_editVim_networks]
    refine KeyedList.toMap_erase_of_ne (fun hn => hk ?_)
    rcases he with he | ⟨r, he⟩
    · exact .inl (by rw [he, hn])
    · exact .inr (.inl ⟨r, by rw [he, hn]⟩)
  | delNetworkByName hhas =>
    refine item_networks (fun name he => KeyedList.toMap_erase_of_ne (fun hn => hk ?_))
    rcases he with he | ⟨r, he⟩
    · exact .inl (by rw [he, hn])
    · exact .inr ⟨r, by rw [he, hn]⟩
  | addRouter hnone =>
    cases k with
    | router name =>
      exact congrArg (Option.map ItemValue.router)
        (KeyedList.toMap_append_of_ne (fun hn => hk (by rw [← hn]; rfl)))
    | _ => rfl
  | @delRouter name i r names hpos hr hvims =>
    by_cases hrouter : ∃ removed, k = .router removed
    · obtain ⟨removed, rfl⟩ := hrouter
      by_contra hne
      exact hk (.inr (.inl ⟨removed, rfl, hne⟩))
    · rw [TopologyModel.dropRouter, foldl_editVim_item (fun v => v.setRouters_name _) _ (fun he => hk (.inr (.inr he)))]
      cases k with
      | router name => exact (hrouter ⟨name, rfl⟩).elim
      | _ => rfl
  | reserveRange hpos hn hrange =>
    by_cases hrange : ∃ netName r, k = .range netName r
    · obtain ⟨netName, r, rfl⟩ := hrange
      by_contra hne
      exact hk ⟨netName, r, rfl, hne⟩
    · exact item_ranges hn _ hrange
  | releaseNone => rfl
  | releaseRanges hn r =>
    by_cases hrange : ∃ netName r, k = .range netName r
    · obtain ⟨netName, r, rfl⟩ := hrange
      by_contra hne
      exact hk ⟨netName, r, rfl, hne⟩
    · exact item_ranges hn _ hrange
  | addPduPresent => rfl
  | addPdu hnone =>
    cases k with
    | pdu name =>
      exact congrArg (Option.map ItemValue.pdu)
        (KeyedList.toMap_append_of_ne (fun hn => hk (by rw [← hn]; rfl)))
    | _ => rfl
  | updPdu hsome =>
    cases k with
    | pdu name =>
      exact congrArg (Option.map ItemValue.pdu)
        (KeyedList.toMap_replace_of_ne (fun hn => hk (by rw [← hn]; rfl)))
    | _ => rfl
  | delPdu hsome =>
    cases k with
    | pdu name =>
      exact congrArg (Option.map ItemValue.pdu)
        (KeyedList.toMap_erase_of_ne (fun hn => hk (by rw [← hn]; rfl)))
    | _ => rfl
  | addK8s hnone =>
    cases k with
    | cluster name =>
      exact congrArg (Option.map ItemValue.cluster)
        (KeyedList.toMap_append_of_ne (fun hn => hk (by rw [← hn]; rfl)))
    | _ => rfl
  | delK8s hsome =>
    cases k with
    | cluster name =>
      exact congrArg (Option.map ItemValue.cluster)
        (KeyedList.toMap_erase_of_ne (fun hn => hk (by rw [← hn]; rfl)))
    | _ => rfl
  | updateK8s hsome =>
    cases k with
    | cluster name =>
      exact congrArg (Option.map ItemValue.cluster)
        (KeyedList.toMap_replace_of_ne (fun hn => hk (by rw [← hn]; rfl)))
    | _ => rfl
  | addProm hnone =>
    cases k with
    | server name =>
      exact congrArg (Option.map ItemValue.server)
        (KeyedList.toMap_append_of_ne (fun hn => hk (by rw [← hn]; rfl)))
    | _ => rfl
  | delProm hsome =>
    cases k with
    | server name =>
      exact congrArg (Option.map ItemValue.server)
        (KeyedList.toMap_erase_of_ne (fun hn => hk (by rw [← hn]; rfl)))
    | _ => rfl
  | updateProm hsome =>
    cases k with
    | server name =>
      exact congrArg (Option.map ItemValue.server)
        (KeyedList.toMap_replace_of_ne (fun hn => hk (by rw [← hn]; rfl)))
    | _ => rfl

end Frame

end Nfvcl
