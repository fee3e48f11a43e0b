import Mathlib.Data.List.Basic
import Mathlib.Data.List.Perm.Basic
import Mathlib.Logic.Function.Basic
import Nfvcl.PduProvider

namespace Nfvcl
set_option autoImplicit true
open Effects

inductive PduCallKind where
  | lock | unlock
  deriving DecidableEq, Repr

/-- A call of `lock_pdu` or `unlock_pdu` past its test: the PDU it will save, and the topology
object it has built for that. -/
structure PduCall where
  kind : PduCallKind
  pdu : PduModel
  topology : Option (Option TopologyModel) := none
  deriving DecidableEq, Repr

/-- A blueprint's side: its provider, the PDU objects it was handed, the call it is in. -/
structure PduWorker where
  provider : PDUProvider
  objects : List PduModel := []
  call : Option PduCall := none
  deriving DecidableEq, Repr

/-- The persisted topology and the blueprints, by id. -/
structure PduSystem where
  document : Option TopologyModel
  workers : String → PduWorker := fun b => { provider := { blueprintId := b } }

inductive PduStep where
  | findPdu (blueprint : String) (area : Int) (pduType : PduType) (instanceType name : Option String)
  | findByName (blueprint name : String)
  /-- `lock_pdu` on one of the objects, up to the list of locked PDUs. -/
  | lockPdu (blueprint : String) (object : Nat)
  | unlockPdu (blueprint : String) (object : Nat)
  /-- The call in progress reads the topology. -/
  | buildTopology (blueprint : String)
  /-- The call in progress saves the PDU and ends. -/
  | updPdu (blueprint : String) (services : Services)

namespace PduWorker

/-- `find_pdu` and `find_by_name` hand out a new object. -/
def receive (found : Except PyError PduModel) : EStateM PyError PduWorker Unit := fun w =>
  match found with
  | .ok pdu => .ok () { w with objects := w.objects ++ [pdu] }
  | .error e => .error e w

/-- A call starts on one of the objects, which it changes in place. -/
def begin (kind : PduCallKind) (object : Nat) : EStateM PyError PduWorker Unit := fun w =>
  match w.call, w.objects[object]? with
  | none, some pdu =>
    let marked := match kind with
      | .lock => PDUProvider.markLocked.run (w.provider, pdu)
      | .unlock => PDUProvider.markUnlocked.run (w.provider, pdu)
    match marked with
    | .ok _ (provider, pdu') =>
      .ok () { provider := provider, objects := w.objects.set object pdu', call := some ⟨kind, pdu', none⟩ }
    | .error e (provider, pdu') => .error e { w with provider := provider, objects := w.objects.set object pdu' }
  | _, _ => .ok () w

def build (document : Option TopologyModel) : EStateM PyError PduWorker Unit := fun w =>
  match w.call with
  | some call => .ok () { w with call := some { call with topology := some document } }
  | none => .ok () w

/-- The names of the PDUs the blueprint holds: from the return of `lock_pdu` to that of the
`unlock_pdu` that gives it up. A PDU that is being locked is the last of `locked_pdus`. -/
def held (w : PduWorker) : List String :=
  match w.call with
  | none => w.provider.lockedPdus.map PduModel.name
  | some ⟨.lock, _, _⟩ => (w.provider.lockedPdus.map PduModel.name).dropLast
  | some ⟨.unlock, pdu, _⟩ => pdu.name :: w.provider.lockedPdus.map PduModel.name

end PduWorker

namespace PduSystem

def setWorker (s : PduSystem) (b : String) (w : PduWorker) : PduSystem :=
  { s with workers := Function.update s.workers b w }

@[simp] theorem setWorker_self (s : PduSystem) (b : String) (w : PduWorker) :
    (s.setWorker b w).workers b = w := by
  simp only [setWorker, Function.update_self]

theorem setWorker_of_ne (s : PduSystem) (w : PduWorker) (h : b' ≠ b) :
    (s.setWorker b w).workers b' = s.workers b' := by
  simp only [setWorker, Function.update_of_ne h]

def onWorker (b : String) (m : EStateM PyError PduWorker Unit) : EStateM PyError PduSystem Unit :=
  zoom (fun s => s.workers b) (fun w s => s.setWorker b w) m

/-- `upd_pdu`, under the topology lock, on the object the call has built; then the call ends. -/
def save (b : String) (services : Services) : EStateM PyError PduSystem Unit := fun s =>
  match (s.workers b).call with
  | some ⟨_, pdu, some topology⟩ =>
    let ended := s.setWorker b { s.workers b with call := none }
    match (Topology.updPdu services pdu).run ⟨topology, s.document⟩ with
    | .ok _ saved => .ok () { ended with document := saved.stored }
    | .error e saved => .error e { ended with document := saved.stored }
  | _ => .ok () s

end PduSystem

def PduStep.exec : PduStep → EStateM PyError PduSystem Unit
  | .findPdu b area pduType instanceType name => fun s =>
    PduSystem.onWorker b (PduWorker.receive (PDUProvider.findPdu s.document area pduType instanceType name)) s
  | .findByName b name => fun s =>
    PduSystem.onWorker b (PduWorker.receive (PDUProvider.findByName s.document name)) s
  | .lockPdu b object => PduSystem.onWorker b (PduWorker.begin .lock object)
  | .unlockPdu b object => PduSystem.onWorker b (PduWorker.begin .unlock object)
  | .buildTopology b => fun s => PduSystem.onWorker b (PduWorker.build s.document) s
  | .updPdu b services => PduSystem.save b services

/-- The `locked_by` of a PDU, for the PDUs the topology has. -/
def TopologyModel.lockOf (t : TopologyModel) (name : String) : Option (Option String) :=
  (KeyedList.toMap PduModel.name t.pdus name).map PduModel.lockedBy

def PduSystem.lockOf (s : PduSystem) (name : String) : Option (Option String) :=
  s.document.bind (fun t => t.lockOf name)

/-- Each PDU of the topology is held by one blueprint at most, which is the one it names. -/
structure PduSystem.Exclusive (s : PduSystem) : Prop where
  unique : s.lockOf name = some lock → name ∈ (s.workers b).held → name ∈ (s.workers b').held → b = b'
  owner : s.lockOf name = some lock → name ∈ (s.workers b).held → lock = some b
  free : s.lockOf name = some lock → (∀ b, name ∉ (s.workers b).held) → lock = none

/-- What the test of a call has seen in the object it was passed. -/
def PduCallKind.expects (b : String) : PduCallKind → Option String
  | .lock => none
  | .unlock => some b

/-- At the save, the persisted PDU is still locked as the test saw it, and the topology that is
written over the persisted one has the same lock for every other PDU. -/
def PduCall.Current (call : PduCall) (b : String) (s : PduSystem) : Prop :=
  s.lockOf call.pdu.name = some (call.kind.expects b) ∧
    ∃ t, call.topology = some (some t) ∧ (t.lockOf call.pdu.name).isSome ∧
      ∀ name, name ≠ call.pdu.name → t.lockOf name = s.lockOf name

/-- The condition on a step: a save finds the locks its call relied on. -/
def PduStep.Current : PduStep → PduSystem → Prop
  | .updPdu b _, s => ∀ call, (s.workers b).call = some call → call.topology.isSome → call.Current b s
  | _, _ => True

/-- What a call leaves in the object it was passed. -/
def PduCallKind.leaves (b : String) : PduCallKind → Option String
  | .lock => some b
  | .unlock => none

structure PduWorker.Sound (w : PduWorker) (b : String) : Prop where
  id : w.provider.blueprintId = b
  nodup : w.held.Nodup
  locking : w.call = some ⟨.lock, pdu, t⟩ → ∃ l, w.provider.lockedPdus = l ++ [pdu]
  marked : w.call = some c → c.pdu.lockedBy = c.kind.leaves b

/-- The invariant: the persisted `locked_by` of a PDU names exactly the blueprint that holds it. -/
structure PduSystem.Consistent (s : PduSystem) : Prop where
  sound : ∀ b, (s.workers b).Sound b
  owner : s.lockOf name = some lock → (name ∈ (s.workers b).held ↔ lock = some b)

theorem PduSystem.Consistent.exclusive (h : s.Consistent) : PduSystem.Exclusive s where
  unique := by
    intro name lock b b' hlock hb hb'
    have hown := (h.owner hlock).1 hb
    have hown' := (h.owner hlock).1 hb'
    exact Option.some.inj (hown.symm.trans hown')
  owner := fun hlock hb => (h.owner hlock).1 hb
  free := by
    intro name lock hlock hfree
    cases lock with
    | none => rfl
    | some b => exact (hfree b ((h.owner hlock).2 rfl)).elim

section Local

/-- A step inside one blueprint that keeps what it holds. -/
def PduWorker.Keeps (b : String) (w w' : PduWorker) : Prop :=
  w'.Sound b ∧ ∀ name, name ∈ w'.held ↔ name ∈ w.held

theorem PduWorker.receive_keeps (hw : PduWorker.Sound w b) (found : Except PyError PduModel) :
    w.Keeps b (finalState ((PduWorker.receive found).run w)) := by
  cases found with
  | error e => exact ⟨hw, fun _ => Iff.rfl⟩
  | ok pdu => exact ⟨⟨hw.id, hw.nodup, hw.locking, hw.marked⟩, fun _ => Iff.rfl⟩

theorem PduWorker.build_keeps (hw : PduWorker.Sound w b) (document : Option TopologyModel) :
    w.Keeps b (finalState ((PduWorker.build document).run w)) := by
  obtain ⟨provider, objects, call⟩ := w
  cases call with
  | none => exact ⟨hw, fun _ => Iff.rfl⟩
  | some call =>
    obtain ⟨kind, pdu, topology⟩ := call
    constructor
    · constructor
      · exact hw.id
      · cases kind with
        | lock => exact hw.nodup
        | unlock => exact hw.nodup
      · intro pdu' t h
        cases h
        exact hw.locking rfl
      · intro call h
        cases h
        exact hw.marked (c := ⟨kind, pdu, topology⟩) rfl
    · intro name
      cases kind with
      | lock => exact Iff.rfl
      | unlock => exact Iff.rfl

theorem PduWorker.begin_lock_keeps (hw : PduWorker.Sound w b) (object : Nat) :
    w.Keeps b (finalState ((PduWorker.begin .lock object).run w)) := by
  obtain ⟨provider, objects, call⟩ := w
  obtain rfl : provider.blueprintId = b := hw.id
  cases call with
  | some call => exact ⟨hw, fun _ => Iff.rfl⟩
  | none =>
    change PduWorker.Keeps _ _ (finalState (PduWorker.begin .lock object ⟨provider, objects, none⟩))
    simp only [PduWorker.begin]
    cases objects[object]? with
    | none => exact ⟨hw, fun _ => Iff.rfl⟩
    | some pdu =>
      simp only [PDUProvider.markLocked_run]
      cases pdu.lockedBy with
      | some owner => exact ⟨⟨rfl, hw.nodup, fun h => (nomatch h), fun h => (nomatch h)⟩, fun _ => Iff.rfl⟩
      | none =>
        have hheld : ((provider.lockedPdus ++ [{ pdu with lockedBy := some provider.blueprintId }]).map
            PduModel.name).dropLast = provider.lockedPdus.map PduModel.name := by
          rw [List.map_append]
          exact List.dropLast_concat
        constructor
        · constructor
          · rfl
          · exact (congrArg List.Nodup hheld).mpr hw.nodup
          · intro p t h
            cases h
            exact ⟨provider.lockedPdus, rfl⟩
          · intro c h
            cases h
            rfl
        · intro name
          exact iff_of_eq (congrArg (name ∈ ·) hheld)

/-- Taking the first entry of a name off the list and holding the name on the side. -/
theorem names_eraseP_perm {pdus : List PduModel} (h : name ∈ pdus.map PduModel.name) :
    List.Perm (name :: (pdus.eraseP (fun x => decide (x.name = name))).map PduModel.name)
      (pdus.map PduModel.name) := by
  induction pdus with
  | nil => cases h
  | cons p pdus ih =>
    by_cases hp : p.name = name
    · rw [List.eraseP_cons_of_pos (by simpa using hp), List.map_cons, hp]
    · rw [List.eraseP_cons_of_neg (by simpa using hp), List.map_cons, List.map_cons]
      rw [List.map_cons, List.mem_cons] at h
      have hrest := h.resolve_left (fun he => hp he.symm)
      exact (List.Perm.swap p.name name _).trans ((ih hrest).cons p.name)

theorem PduWorker.begin_unlock_keeps (hw : PduWorker.Sound w b) (object : Nat) :
    w.Keeps b (finalState ((PduWorker.begin .unlock object).run w)) := by
  obtain ⟨provider, objects, call⟩ := w
  obtain rfl : provider.blueprintId = b := hw.id
  cases call with
  | some call => exact ⟨hw, fun _ => Iff.rfl⟩
  | none =>
    change PduWorker.Keeps _ _ (finalState (PduWorker.begin .unlock object ⟨provider, objects, none⟩))
    simp only [PduWorker.begin]
    cases objects[object]? with
    | none => exact ⟨hw, fun _ => Iff.rfl⟩
    | some pdu =>
      cases hrun : PDUProvider.markUnlocked.run (provider, pdu) with
      | error e s =>
        simp only [hrun]
        obtain ⟨provider', pdu'⟩ := s
        obtain rfl : provider' = provider := PDUProvider.markUnlocked_error hrun
        exact ⟨⟨rfl, hw.nodup, fun h => (nomatch h), fun h => (nomatch h)⟩, fun _ => Iff.rfl⟩
      | ok u s =>
        simp only [hrun]
        obtain ⟨-, hmem, rfl⟩ := PDUProvider.markUnlocked_ok hrun
        have hperm := names_eraseP_perm hmem
        constructor
        · constructor
          · rfl
          · exact hperm.nodup_iff.2 hw.nodup
          · intro p t h
            cases h
          · intro c h
            cases h
            rfl
        · intro name
          exact hperm.mem_iff

end Local

theorem PduSystem.onWorker_consistent (h : s.Consistent) (m : EStateM PyError PduWorker Unit)
    (hm : (s.workers b).Keeps b (finalState (m.run (s.workers b)))) :
    PduSystem.Consistent (finalState ((PduSystem.onWorker b m).run s)) := by
  have hfinal : finalState ((PduSystem.onWorker b m).run s) =
      s.setWorker b (finalState (m.run (s.workers b))) := by
    simp only [PduSystem.onWorker, run_zoom]
    cases m.run (s.workers b) <;> rfl
  rw [hfinal]
  constructor
  · intro b'
    by_cases hb : b' = b
    · subst hb
      rw [PduSystem.setWorker_self]
      exact hm.1
    · rw [PduSystem.setWorker_of_ne s _ hb]
      exact h.sound b'
  · intro name lock b' hlock
    by_cases hb : b' = b
    · subst hb
      rw [PduSystem.setWorker_self, hm.2 name]
      exact h.owner hlock
    · rw [PduSystem.setWorker_of_ne s _ hb]
      exact h.owner hlock

/-- `upd_pdu` writes the topology object with the PDU replaced over the persisted one. -/
theorem updPdu_stored (services : Services) (pdu : PduModel) (t : TopologyModel) (d : Option TopologyModel)
    (h : (t.lockOf pdu.name).isSome) :
    (finalState ((Topology.updPdu services pdu).run ⟨some t, d⟩)).stored =
      some { t with pdus := KeyedList.replace PduModel.name t.pdus pdu } := by
  obtain ⟨old, hold⟩ : ∃ old, KeyedList.toMap PduModel.name t.pdus pdu.name = some old := by
    rw [TopologyModel.lockOf, Option.isSome_map] at h
    exact Option.isSome_iff_exists.1 h
  have hrun : (TopologyModel.updPdu pdu).run t =
      .ok pdu { t with pdus := KeyedList.replace PduModel.name t.pdus pdu } := by
    have hwrite := TopologyModel.pduColl.overwrite_run
      (fun _ => .valueError "The PDU ->-1<- was not found in the topology.") t pdu
    simp only [TopologyModel.pduColl, hold] at hwrite
    exact hwrite
  simp only [Topology.updPdu, EStateM.run_bind, Topology.onModel_run, hrun, Topology.saveTopologyFromModel_run,
    Topology.triggerRedisEvent_run]
  cases services.publish _ _ <;> rfl

/-- The locks after a save are those before it, but for the PDU saved. -/
theorem lockOf_replace (h : (TopologyModel.lockOf t pdu.name).isSome) (name : String) :
    TopologyModel.lockOf { t with pdus := KeyedList.replace PduModel.name t.pdus pdu } name =
      if name = pdu.name then some pdu.lockedBy else t.lockOf name := by
  have hsome : (KeyedList.toMap PduModel.name t.pdus pdu.name).isSome := by
    rwa [TopologyModel.lockOf, Option.isSome_map] at h
  unfold TopologyModel.lockOf
  rw [KeyedList.toMap_replace hsome]
  by_cases hn : name = pdu.name
  · subst hn
    rw [if_pos rfl, Function.update_self]
    rfl
  · rw [if_neg hn, Function.update_of_ne hn]

/-- What a blueprint holds once its call has ended. -/
theorem PduWorker.Sound.ended (hw : PduWorker.Sound w b) (hcall : w.call = some ⟨kind, pdu, topology⟩)
    (hnew : kind = .lock → pdu.name ∉ w.held) :
    PduWorker.Sound { w with call := none } b ∧
      ∀ name, name ∈ PduWorker.held { w with call := none } ↔
        (if name = pdu.name then kind = .lock else name ∈ w.held) := by
  obtain ⟨provider, objects, call⟩ := w
  obtain rfl : call = some ⟨kind, pdu, topology⟩ := hcall
  cases kind with
  | lock =>
    obtain ⟨l, hl⟩ := hw.locking rfl
    have hfull : provider.lockedPdus.map PduModel.name = l.map PduModel.name ++ [pdu.name] := by
      rw [hl, List.map_append]
      rfl
    have hheld : PduWorker.held ⟨provider, objects, some ⟨.lock, pdu, topology⟩⟩ = l.map PduModel.name := by
      change (provider.lockedPdus.map PduModel.name).dropLast = _
      rw [hfull, List.dropLast_concat]
    have hnodup := hw.nodup
    have hfresh := hnew rfl
    rw [hheld] at hnodup hfresh
    constructor
    · refine ⟨hw.id, ?_, fun h => (nomatch h), fun h => (nomatch h)⟩
      change (provider.lockedPdus.map PduModel.name).Nodup
      rw [hfull]
      exact List.nodup_append.2 ⟨hnodup, List.nodup_singleton _, by
        intro a ha b hb he
        rw [List.mem_singleton] at hb
        exact hfresh (hb ▸ he ▸ ha)⟩
    · intro name
      change name ∈ provider.lockedPdus.map PduModel.name ↔ _
      rw [hheld, hfull, List.mem_append, List.mem_singleton]
      by_cases hn : name = pdu.name
      · simp [hn]
      · simp [hn]
  | unlock =>
    have hnodup : (pdu.name :: provider.lockedPdus.map PduModel.name).Nodup := hw.nodup
    obtain ⟨hgone, hrest⟩ := List.nodup_cons.1 hnodup
    constructor
    · exact ⟨hw.id, hrest, fun h => (nomatch h), fun h => (nomatch h)⟩
    · intro name
      change name ∈ provider.lockedPdus.map PduModel.name ↔
        if name = pdu.name then _ else name ∈ pdu.name :: provider.lockedPdus.map PduModel.name
      by_cases hn : name = pdu.name
      · subst hn
        simp [hgone]
      · simp [hn]

theorem PduSystem.save_final {s : PduSystem} (services : Services)
    (hcall : (s.workers b).call = some ⟨kind, pdu, some (some t)⟩) (h : (t.lockOf pdu.name).isSome) :
    finalState ((PduSystem.save b services).run s) =
      { s.setWorker b { s.workers b with call := none } with
        document := some { t with pdus := KeyedList.replace PduModel.name t.pdus pdu } } := by
  have hstored := updPdu_stored services pdu t s.document h
  change finalState (PduSystem.save b services s) = _
  simp only [PduSystem.save, hcall]
  cases hrun : (Topology.updPdu services pdu).run ⟨some t, s.document⟩ with
  | ok u saved =>
    rw [hrun] at hstored
    simp only [finalState_ok] at hstored ⊢
    rw [hstored]
  | error e saved =>
    rw [hrun] at hstored
    simp only [finalState_error] at hstored ⊢
    rw [hstored]

/-- A save that finds the locks its call relied on moves exactly one PDU. -/
theorem PduSystem.save_consistent (h : s.Consistent) (services : Services)
    (hcall : (s.workers b).call = some ⟨kind, pdu, some (some t)⟩)
    (hsome : (t.lockOf pdu.name).isSome) (hlock : s.lockOf pdu.name = some (kind.expects b))
    (hother : ∀ name, name ≠ pdu.name → t.lockOf name = s.lockOf name) :
    PduSystem.Consistent (finalState ((PduSystem.save b services).run s)) := by
  rw [PduSystem.save_final services hcall hsome]
  have hfree : kind = .lock → pdu.name ∉ (s.workers b).held := by
    rintro rfl hheld
    exact nomatch (h.owner hlock).1 hheld
  obtain ⟨hsound, hheld⟩ := (h.sound b).ended hcall hfree
  have hleaves : pdu.lockedBy = kind.leaves b := (h.sound b).marked hcall
  have hnewLock : ∀ name, PduSystem.lockOf { s.setWorker b { s.workers b with call := none } with
        document := some { t with pdus := KeyedList.replace PduModel.name t.pdus pdu } } name =
      if name = pdu.name then some (kind.leaves b) else s.lockOf name := by
    intro name
    change TopologyModel.lockOf _ name = _
    rw [lockOf_replace hsome, hleaves]
    by_cases hn : name = pdu.name
    · rw [if_pos hn, if_pos hn]
    · rw [if_neg hn, if_neg hn, hother name hn]
  constructor
  · intro b'
    by_cases hb : b' = b
    · subst hb
      change PduWorker.Sound ((s.setWorker b' _).workers b') b'
      rw [PduSystem.setWorker_self]
      exact hsound
    · change PduWorker.Sound ((s.setWorker b _).workers b') b'
      rw [PduSystem.setWorker_of_ne s _ hb]
      exact h.sound b'
  · intro name lock b' hnew
    rw [hnewLock] at hnew
    by_cases hb : b' = b
    · subst hb
      change name ∈ ((s.setWorker b' _).workers b').held ↔ _
      rw [PduSystem.setWorker_self, hheld name]
      by_cases hn : name = pdu.name
      · rw [if_pos hn] at hnew ⊢
        cases hnew
        cases kind <;> simp [PduCallKind.leaves]
      · rw [if_neg hn] at hnew ⊢
        exact h.owner hnew
    · change name ∈ ((s.setWorker b _).workers b').held ↔ _
      rw [PduSystem.setWorker_of_ne s _ hb]
      by_cases hn : name = pdu.name
      · subst hn
        rw [if_pos rfl] at hnew
        cases hnew
        rw [h.owner hlock]
        cases kind <;> simp [PduCallKind.leaves, PduCallKind.expects, Ne.symm hb]
      · rw [if_neg hn] at hnew
        exact h.owner hnew

theorem PduStep.exec_consistent (step : PduStep) (s : PduSystem) (hcurrent : step.Current s) (h : s.Consistent) :
    PduSystem.Consistent (finalState (step.exec.run s)) := by
  cases step with
  | findPdu b => exact PduSystem.onWorker_consistent h _ (PduWorker.receive_keeps (h.sound b) _)
  | findByName b => exact PduSystem.onWorker_consistent h _ (PduWorker.receive_keeps (h.sound b) _)
  | lockPdu b object => exact PduSystem.onWorker_consistent h _ (PduWorker.begin_lock_keeps (h.sound b) object)
  | unlockPdu b object => exact PduSystem.onWorker_consistent h _ (PduWorker.begin_unlock_keeps (h.sound b) object)
  | buildTopology b => exact PduSystem.onWorker_consistent h _ (PduWorker.build_keeps (h.sound b) _)
  | updPdu b services =>
    cases hcall : (s.workers b).call with
    | none =>
      change PduSystem.Consistent (finalState (PduSystem.save b services s))
      simp only [PduSystem.save, hcall]
      exact h
    | some call =>
      obtain ⟨kind, pdu, topology⟩ := call
      cases topology with
      | none =>
        change PduSystem.Consistent (finalState (PduSystem.save b services s))
        simp only [PduSystem.save, hcall]
        exact h
      | some topology =>
        obtain ⟨hlock, t, htop, hsome, hother⟩ := hcurrent _ hcall rfl
        obtain rfl : topology = some t := Option.some.inj htop
        exact PduSystem.save_consistent h services hcall hsome hlock hother

/-- Nothing is locked when a run starts. -/
theorem PduSystem.consistent_initial (document : Option TopologyModel)
    (hfree : ∀ t, document = some t → ∀ pdu ∈ t.pdus, pdu.lockedBy = none) :
    PduSystem.Consistent { document := document } where
  sound := fun b => ⟨rfl, List.nodup_nil, fun h => (nomatch h), fun h => (nomatch h)⟩
  owner := by
    intro name lock b hlock
    obtain ⟨t, ht, hname⟩ := Option.bind_eq_some_iff.1 hlock
    obtain ⟨pdu, hpdu, rfl⟩ := Option.map_eq_some_iff.1 hname
    rw [hfree t ht pdu (KeyedList.toMap_some_mem hpdu)]
    exact ⟨fun h => (nomatch h), fun h => (nomatch h)⟩

/-- A topology with one radio unit. -/
def radioTopology : TopologyModel where
  pdus := [{ name := "ru", area := 1, type := .ru, instanceType := "benetel" }]

theorem radioTopology_free (t : TopologyModel) (h : some radioTopology = some t) (pdu : PduModel)
    (hpdu : pdu ∈ t.pdus) : pdu.lockedBy = none := by
  cases h
  obtain rfl := List.mem_singleton.1 hpdu
  rfl

end Nfvcl
