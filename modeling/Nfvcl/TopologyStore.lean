import Mathlib.Data.List.Basic
import Nfvcl.Runs
import Nfvcl.TopologyModel

namespace Nfvcl
set_option autoImplicit true
open Runs

/-- The id `save_topology` and `delete_topology` look for. -/
def topologyId : Option String := some "topology"

/-- The collection `topology`, oldest document first; a stored model reads back as itself. -/
abbrev TopologyDocs := List TopologyModel

namespace TopologyDocs

/-- `find_one({})`. -/
def fromDb (docs : TopologyDocs) : Option TopologyModel :=
  docs.head?

/-- `update_one` with `$set`: the first document that matches takes over every field. -/
def updateOne (model : TopologyModel) : TopologyDocs → TopologyDocs
  | [] => []
  | doc :: docs => if doc.id = topologyId then model :: docs else doc :: updateOne model docs

def saveTopology (docs : TopologyDocs) (model : TopologyModel) : TopologyDocs :=
  if docs.any (fun doc => decide (doc.id = topologyId)) then updateOne model docs else docs ++ [model]

/-- `delete_many`. -/
def deleteTopology (docs : TopologyDocs) : TopologyDocs :=
  docs.filter (fun doc => decide (doc.id ≠ topologyId))

end TopologyDocs

/-- The calls of topology lifecycles. An operation may save several times, and may raise after
any of its saves; it never assigns the id. -/
inductive StoreCall where
  /-- `create`, cut after some of its saves. -/
  | create (topo : TopologyModel) (saves : Nat)
  /-- A mutating operation, with the models it saves. -/
  | operate (saved : List TopologyModel)
  /-- `delete`, with the saves of its `del_vim` calls, and whether it gets to `delete_topology`. -/
  | delete (saved : List TopologyModel) (finished : Bool)
  deriving DecidableEq, Repr

/-- The store, and the model that was saved last and not deleted since. -/
structure TopologyStore where
  docs : TopologyDocs := []
  last : Option TopologyModel := none
  deriving DecidableEq, Repr

namespace TopologyStore

def save (s : TopologyStore) (model : TopologyModel) : TopologyStore :=
  ⟨s.docs.saveTopology model, some model⟩

def delete (s : TopologyStore) : TopologyStore :=
  ⟨s.docs.deleteTopology, none⟩

/-- The models `create` saves: after each VIM, and at the end. -/
def createSaves (topo : TopologyModel) : List TopologyModel :=
  (List.range topo.vims.length).map (fun i => { topo with vims := topo.vims.take (i + 1) }) ++ [topo]

def withId (id : Option String) (saved : List TopologyModel) : List TopologyModel :=
  saved.map (fun model => { model with id := id })

/-- A call on the object `from_db` returns; it raises at once when a topology is there and
should not be, or is not there and should. -/
def exec (s : TopologyStore) (call : StoreCall) : TopologyStore :=
  match call, s.docs.fromDb with
  | .create topo saves, none => ((createSaves topo).take saves).foldl save s
  | .create _ _, some _ => s
  | .operate saved, some t => (withId t.id saved).foldl save s
  | .operate _, none => s
  | .delete saved finished, some t =>
    let s := (withId t.id saved).foldl save s
    if finished then s.delete else s
  | .delete _ _, none => s

/-- What is read is what was saved last, and nothing after a deletion. -/
def ReadsLast (s : TopologyStore) : Prop :=
  s.docs.fromDb = s.last

/-- Nothing is saved or deleted over a stored topology with another id: one that is created
with another id has no VIM, and is neither changed nor deleted. -/
def Selectable (call : StoreCall) (s : TopologyStore) : Prop :=
  match call, s.docs.fromDb with
  | .create topo saves, none => topo.id = topologyId ∨ ((createSaves topo).take saves).length ≤ 1
  | .operate saved, some t => t.id = topologyId ∨ saved = []
  | .delete saved finished, some t => t.id = topologyId ∨ (saved = [] ∧ finished = false)
  | _, _ => True

/-- At most one document, the one saved last. -/
def Single (s : TopologyStore) : Prop :=
  s.docs = s.last.toList

section Runs

variable {s : TopologyStore}

theorem Single.readsLast (h : Single s) : s.ReadsLast := by
  unfold ReadsLast TopologyDocs.fromDb
  rw [h]
  cases s.last <;> rfl

theorem Single.save_first (hdocs : s.docs = []) (model : TopologyModel) : Single (s.save model) := by
  unfold Single save
  rw [hdocs]
  rfl

theorem Single.save (h : Single s) (hid : ∀ t, s.last = some t → t.id = topologyId) (model : TopologyModel) :
    Single (s.save model) := by
  cases hlast : s.last with
  | none =>
    apply Single.save_first
    rw [h, hlast]
    rfl
  | some t =>
    have hdocs : s.docs = [t] := by rw [h, hlast]; rfl
    unfold Single TopologyStore.save TopologyDocs.saveTopology
    rw [hdocs]
    simp [hid t hlast, TopologyDocs.updateOne]

/-- Saves of models with the id that is looked for. -/
theorem Single.foldl_save (h : Single s) (hid : ∀ t, s.last = some t → t.id = topologyId) (models : List TopologyModel)
    (hmodels : ∀ m ∈ models, m.id = topologyId) :
    Single (models.foldl TopologyStore.save s) ∧
      ∀ t, (models.foldl TopologyStore.save s).last = some t → t.id = topologyId := by
  induction models generalizing s with
  | nil => exact ⟨h, hid⟩
  | cons m models ih =>
    apply ih
    · exact h.save hid m
    · intro t ht
      cases ht
      exact hmodels _ List.mem_cons_self
    · exact fun m' hm' => hmodels m' (List.mem_cons_of_mem m hm')

theorem createSaves_id (topo : TopologyModel) (hm : m ∈ createSaves topo) : m.id = topo.id := by
  rcases List.mem_append.1 hm with hm | hm
  · obtain ⟨i, -, rfl⟩ := List.mem_map.1 hm
    rfl
  · rw [List.mem_singleton.1 hm]

theorem Single.delete (h : Single s) (hid : ∀ t, s.last = some t → t.id = topologyId) : Single s.delete := by
  unfold Single TopologyStore.delete TopologyDocs.deleteTopology
  rw [h, List.filter_eq_nil_iff.2]
  · rfl
  · intro t ht
    have hlast : s.last = some t := Option.mem_toList.1 ht
    simp [hid t hlast]

theorem withId_id {id : Option String} (hid : id = topologyId) (saved : List TopologyModel) :
    ∀ m ∈ withId id saved, m.id = topologyId := by
  intro m hm
  obtain ⟨m', -, rfl⟩ := List.mem_map.1 hm
  exact hid

theorem exec_single (call : StoreCall) (s : TopologyStore) (hcall : Selectable call s) (h : Single s) :
    Single (s.exec call) := by
  have hfirst : s.docs.fromDb = s.last := h.readsLast
  unfold Selectable at hcall
  unfold exec
  cases hlast : s.last with
  | none =>
    rw [hlast] at hfirst
    rw [hfirst] at hcall ⊢
    have hnone : ∀ t, s.last = some t → t.id = topologyId := by
      intro t ht
      rw [hlast] at ht
      cases ht
    cases call with
    | create topo saves =>
      rcases hcall with hid | hshort
      · apply (h.foldl_save hnone _ _).1
        intro m hm
        rw [createSaves_id topo (List.mem_of_mem_take hm), hid]
      · have hdocs : s.docs = [] := by rw [h, hlast]; rfl
        change Single (((createSaves topo).take saves).foldl TopologyStore.save s)
        generalize (createSaves topo).take saves = models at hshort ⊢
        match models, hshort with
        | [], _ => exact h
        | [model], _ => exact .save_first hdocs model
    | operate saved => exact h
    | delete saved finished => exact h
  | some t =>
    rw [hlast] at hfirst
    rw [hfirst] at hcall ⊢
    have hsaves (saved : List TopologyModel) (hid : t.id = topologyId) :=
      h.foldl_save (fun t' ht' => by rw [hlast] at ht'; cases ht'; exact hid) (withId t.id saved) (withId_id hid saved)
    cases call with
    | create topo saves => exact h
    | operate saved =>
      rcases hcall with hid | rfl
      · exact (hsaves saved hid).1
      · exact h
    | delete saved finished =>
      rcases hcall with hid | ⟨rfl, rfl⟩
      · obtain ⟨hsingle, hids⟩ := hsaves saved hid
        cases finished with
        | false => exact hsingle
        | true => exact hsingle.delete hids
      · exact h

end Runs

end TopologyStore

end Nfvcl
