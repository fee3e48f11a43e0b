import Mathlib.Data.List.Basic
import Mathlib.Logic.Function.Basic
import Nfvcl.TopologyItems

namespace Nfvcl
set_option autoImplicit true
open Effects

/-- A client of the topology: the operation it runs, and what its external calls do. -/
structure Client where
  op : TopologyOp
  services : Services := {}

inductive ClientStep where
  /-- `build_topology()`: the client reads the document. -/
  | buildTopology (client : Nat)
  /-- The operation, under the topology lock, on the object built before. -/
  | operate (client : Nat)
  deriving DecidableEq, Repr

/-- An operation as it was run: the model the object held, the document it found when it got
the lock, and its outcome. -/
structure Write where
  op : TopologyOp
  snapshot : Option TopologyModel
  found : Option TopologyModel
  result : EStateM.Result PyError Topology Unit

/-- A client runs its operation on its object. -/
def Client.write (client : Client) (snapshot document : Option TopologyModel) : Write where
  op := client.op
  snapshot := snapshot
  found := document
  result := (client.op.exec client.services).run ⟨snapshot, document⟩

/-- The persisted document, the objects built and not yet used, and the operations run so far. -/
structure ClientSystem where
  document : Option TopologyModel
  objects : Nat → Option (Option TopologyModel) := fun _ => none
  writes : List Write := []

namespace ClientSystem

variable (clients : Nat → Client)

def step (s : ClientSystem) : ClientStep → ClientSystem
  | .buildTopology c => { s with objects := Function.update s.objects c (some s.document) }
  | .operate c =>
    match s.objects c with
    | none => s
    | some snapshot =>
      let w := (clients c).write snapshot s.document
      { document := (finalState w.result).stored
        objects := Function.update s.objects c none
        writes := s.writes ++ [w] }

def run (document : Option TopologyModel) (steps : List ClientStep) : ClientSystem :=
  steps.foldl (step clients) { document := document }

variable {clients}

theorem step_operate_none {s : ClientSystem} (h : s.objects c = none) : s.step clients (.operate c) = s := by
  simp only [step, h]

theorem step_operate_some {s : ClientSystem} (h : s.objects c = some snapshot) :
    s.step clients (.operate c) =
      { document := (finalState ((clients c).write snapshot s.document).result).stored
        objects := Function.update s.objects c none
        writes := s.writes ++ [(clients c).write snapshot s.document] } := by
  simp only [step, h]

end ClientSystem

namespace Write

def Concerns (w : Write) (k : ItemKey) : Prop :=
  ∃ t t', w.snapshot = some t ∧ (finalState w.result).model = some t' ∧ w.op.Concerns t t' k

/-- No other client has saved since the client read the document. -/
def Fresh (w : Write) : Prop :=
  w.snapshot = w.found

instance (w : Write) : Decidable w.Fresh :=
  inferInstanceAs (Decidable (w.snapshot = w.found))

/-- The document holds what the operation made of every item it concerns. -/
def EffectIn (w : Write) (document : Option TopologyModel) : Prop :=
  ∃ t t' final, w.snapshot = some t ∧ (finalState w.result).model = some t' ∧ w.op.Effect t t' ∧
    document = some final ∧ ∀ k, w.op.Concerns t t' k → final.item k = t'.item k

end Write

/-- Without a topology every operation raises. -/
theorem TopologyOp.exec_none_raised (op : TopologyOp) (services : Services) (d : Option TopologyModel) :
    Raised ((op.exec services).run ⟨none, d⟩) := by
  cases op with
  | delNetwork network vimNamesList =>
    change Raised ((Topology.delNetwork services network vimNamesList).run ⟨none, d⟩)
    unfold Topology.delNetwork
    cases vimNamesList.getD [] with
    | nil => exact trivial
    | cons name names => exact trivial
  | _ => exact trivial

/-- The invariant: every operation so far has its effect in the document. -/
def ClientSystem.AllRecorded (s : ClientSystem) : Prop :=
  (∀ w ∈ s.writes, ¬ Raised w.result) → (∀ w ∈ s.writes, w.Fresh) →
    s.writes.Pairwise (fun a b => ∀ k, ¬ (a.Concerns k ∧ b.Concerns k)) →
    ∀ w ∈ s.writes, w.EffectIn s.document

/-- A fresh operation that returns has its effect on the document and leaves the rest of it alone. -/
theorem Client.write_effect (client : Client) (document : Option TopologyModel)
    (h : ¬ Raised (client.write document document).result) :
    ∃ t t', document = some t ∧ client.op.Effect t t' ∧
      finalState (client.write document document).result = Topology.fromDb (some t') := by
  cases document with
  | none => exact (h (client.op.exec_none_raised client.services none)).elim
  | some t =>
    cases hres : (client.op.exec client.services).run (Topology.fromDb (some t)) with
    | error e s =>
      refine (h ?_).elim
      change Raised ((client.op.exec client.services).run (Topology.fromDb (some t)))
      rw [hres]
      trivial
    | ok u s =>
      obtain ⟨t', heffect, rfl⟩ := client.op.exec_effect client.services t hres
      refine ⟨t, t', rfl, heffect, ?_⟩
      change finalState ((client.op.exec client.services).run (Topology.fromDb (some t))) = _
      rw [hres]
      rfl

theorem ClientSystem.step_allRecorded (clients : Nat → Client) (s : ClientSystem) (st : ClientStep)
    (h : s.AllRecorded) : (s.step clients st).AllRecorded := by
  cases st with
  | buildTopology c => exact h
  | operate c =>
    cases hobj : s.objects c with
    | none =>
      rw [ClientSystem.step_operate_none hobj]
      exact h
    | some snapshot =>
      rw [ClientSystem.step_operate_some hobj]
      intro hreturns hfresh hdifferent
      simp only [List.mem_append, List.mem_singleton] at hreturns hfresh
      obtain ⟨hold, -, hnew⟩ := List.pairwise_append.1 hdifferent
      have hprevious := h (fun w hw => hreturns w (.inl hw)) (fun w hw => hfresh w (.inl hw)) hold
      obtain rfl : snapshot = s.document := hfresh _ (.inr rfl)
      obtain ⟨t, t', hdoc, heffect, hfinal⟩ := (clients c).write_effect s.document (hreturns _ (.inr rfl))
      intro w hw
      simp only [List.mem_append, List.mem_singleton] at hw
      rcases hw with hw | rfl
      · obtain ⟨t₀, t₁, final, hsnap, hmodel, heff, hdocument, hitems⟩ := hprevious w hw
        obtain rfl : t = final := Option.some.inj (hdoc.symm.trans hdocument)
        refine ⟨t₀, t₁, t', hsnap, hmodel, heff, by rw [hfinal]; rfl, fun k hk => ?_⟩
        have hother : ¬ (clients c).op.Concerns t t' k := by
          intro hc
          exact hnew w hw _ List.mem_cons_self k
            ⟨⟨t₀, t₁, hsnap, hmodel, hk⟩, ⟨t, t', hdoc, by rw [hfinal]; rfl, hc⟩⟩
        rw [heffect.item_eq hother, hitems k hk]
      · exact ⟨t, t', t', hdoc, by rw [hfinal]; rfl, heffect, by rw [hfinal]; rfl, fun _ _ => rfl⟩

/-- In every interleaving in which each operation starts from the current document, no
operation is lost. -/
theorem topology_updates_kept (clients : Nat → Client) (document : Option TopologyModel)
    (steps : List ClientStep) :
    let s := ClientSystem.run clients document steps
    (∀ w ∈ s.writes, ¬ Raised w.result) →
    s.writes.Pairwise (fun a b => ∀ k, ¬ (a.Concerns k ∧ b.Concerns k)) →
    (∀ w ∈ s.writes, w.Fresh) →
    ∀ w ∈ s.writes, w.EffectIn s.document := by
  intro s hreturns hdifferent hfresh
  have hinv : s.AllRecorded := by
    have hinit : ClientSystem.AllRecorded { document := document } := fun _ _ _ w hw => by cases hw
    exact List.foldlRecOn steps (ClientSystem.step clients) hinit
      (fun s hs st _ => s.step_allRecorded clients st hs)
  exact hinv hreturns hfresh hdifferent

def gnbPdu (name : String) : PduModel where
  name := name
  area := 1
  type := .gnb
  instanceType := "UERANSIM"

/-- Two clients, each adding its own PDU. -/
def pduClients : Nat → Client
  | 0 => { op := .addPdu (gnbPdu "a") }
  | _ => { op := .addPdu (gnbPdu "b") }

theorem pduClients_concerns (ha : ((pduClients 0).write s d).Concerns k)
    (hb : ((pduClients 1).write s' d').Concerns k) : False := by
  obtain ⟨_, _, _, _, ha⟩ := ha
  obtain ⟨_, _, _, _, hb⟩ := hb
  have ha' : k = .pdu "a" := ha
  have hb' : k = .pdu "b" := hb
  rw [ha'] at hb'
  exact absurd hb' (by decide)

theorem topology_updates_kept_in_turn :
    let s := ClientSystem.run pduClients (some {})
      [.buildTopology 0, .operate 0, .buildTopology 1, .operate 1]
    ∀ w ∈ s.writes, w.EffectIn s.document :=
  topology_updates_kept pduClients (some {})
    [.buildTopology 0, .operate 0, .buildTopology 1, .operate 1] (by decide +kernel)
    (List.pairwise_pair.2 (fun _ h => pduClients_concerns h.1 h.2)) (by decide +kernel)

/-- Both clients read before either writes: the second save drops the PDU of the first. -/
theorem topology_updates_kept_fails :
    ¬ ∀ (clients : Nat → Client) (document : Option TopologyModel) (steps : List ClientStep),
      let s := ClientSystem.run clients document steps
      (∀ w ∈ s.writes, ¬ Raised w.result) →
      s.writes.Pairwise (fun a b => ∀ k, ¬ (a.Concerns k ∧ b.Concerns k)) →
      ∀ w ∈ s.writes, w.EffectIn s.document := by
  intro h
  have hall := h pduClients (some {}) [.buildTopology 0, .buildTopology 1, .operate 0, .operate 1]
    (by decide +kernel) (List.pairwise_pair.2 (fun _ h => pduClients_concerns h.1 h.2))
  obtain ⟨t, t', final, _, hmodel, _, hdocument, hitems⟩ := hall _ List.mem_cons_self
  have hitem := hitems (.pdu "a") rfl
  cases hmodel
  cases hdocument
  exact absurd hitem (by decide)

end Nfvcl
