import Mathlib.Data.List.Basic

namespace Nfvcl
set_option autoImplicit true

/-- An item of the list of SUPIs. Its `authentication_subscription` is always there. -/
structure AvailableSupisDatum where
  supi : String
  profileUuid : String
  deriving DecidableEq, Repr

/-- The requests to the core, with the status of the answer. An existing SUPI or profile is deleted with status 204;
the deletion of an absent one has another status, and leaves it absent. -/
structure AthonetUdr (σ : Type) where
  hasSupi : σ → String → Prop
  hasProfile : σ → String → Prop
  deleteSupi : String → σ → Nat × σ
  deleteProfile : String → σ → Nat × σ
  addProfile : σ → String × σ
  addSupi : String → String → σ → Nat × σ
  listSupis : σ → List AvailableSupisDatum
  connectedSupis : σ → List String
  removeUe : String → σ → σ
  supi_existing : hasSupi s supi → (deleteSupi supi s).1 = 204
  supi_absent : ¬ hasSupi s supi → (deleteSupi supi s).1 ≠ 204 ∧ ¬ hasSupi (deleteSupi supi s).2 supi
  profile_existing : hasProfile s uuid → (deleteProfile uuid s).1 = 204
  profile_absent : ¬ hasProfile s uuid → (deleteProfile uuid s).1 ≠ 204 ∧ ¬ hasProfile (deleteProfile uuid s).2 uuid

namespace AthonetCorePDUConfigurator

variable {σ : Type}

/-- `while code != 204`, for at most so many requests. -/
def requestUntil204 (request : σ → Nat × σ) : Nat → σ → Option σ
  | 0, _ => none
  | n + 1, s => if (request s).1 ≠ 204 then requestUntil204 request n (request s).2 else some (request s).2

section Requests

variable (udr : AthonetUdr σ) (n : Nat)

def deleteProvisionedDataProfile (uuid : String) (s : σ) : Option σ :=
  requestUntil204 (udr.deleteProfile uuid) n s

/-- The status of neither request is read. -/
def addUser (imsi : String) (s : σ) : String × σ :=
  let (uuid, s) := udr.addProfile s
  (uuid, (udr.addSupi s!"imsi-{imsi}" uuid s).2)

def delUser (supi : String) (uuid : Option String) (s : σ) : Option σ := do
  let s ← requestUntil204 (udr.deleteSupi supi) n s
  match uuid with
  | some uuid => if uuid ≠ "" then deleteProvisionedDataProfile udr n uuid s else return s
  | none => return s

def detachAllUes (s : σ) : σ :=
  (udr.connectedSupis s).foldl (fun s ue => udr.removeUe ue s) s

def deleteAllSupis (s : σ) : Option σ :=
  (udr.listSupis (detachAllUes udr s)).foldlM (fun s supi => delUser udr n supi.supi (some supi.profileUuid) s) (detachAllUes udr s)

end Requests

end AthonetCorePDUConfigurator

/-- The calls that delete users; `del_ues` is that of the blueprint. -/
inductive AthonetDeletion where
  | delUser (supi : String) (uuid : Option String)
  | deleteProvisionedDataProfile (uuid : String)
  | deleteAllSupis
  | delUes (imsi : String)
  deriving DecidableEq, Repr

namespace AthonetDeletion
open AthonetCorePDUConfigurator

variable {σ : Type} (udr : AthonetUdr σ)

def exec (n : Nat) (s : σ) : AthonetDeletion → Option σ
  | delUser supi uuid => AthonetCorePDUConfigurator.delUser udr n supi uuid s
  | deleteProvisionedDataProfile uuid => AthonetCorePDUConfigurator.deleteProvisionedDataProfile udr n uuid s
  | deleteAllSupis => AthonetCorePDUConfigurator.deleteAllSupis udr n s
  | delUes imsi => AthonetCorePDUConfigurator.delUser udr n s!"imsi-{imsi}" none s

/-- Finitely many requests are made. -/
def Ends (op : AthonetDeletion) (s : σ) : Prop :=
  ∃ n s', op.exec udr n s = some s'

/-- The SUPI is there, and the profile when the SUPI is gone. -/
def UserPresent (supi : String) (uuid : Option String) (s : σ) : Prop :=
  udr.hasSupi s supi ∧ ∀ id, uuid = some id → id ≠ "" → udr.hasProfile (udr.deleteSupi supi s).2 id

/-- The state when a user is gone. -/
def withoutUser (supi : String) (uuid : Option String) (s : σ) : σ :=
  match uuid with
  | some uuid => if uuid ≠ "" then (udr.deleteProfile uuid (udr.deleteSupi supi s).2).2 else (udr.deleteSupi supi s).2
  | none => (udr.deleteSupi supi s).2

/-- Each user is there when its turn comes. -/
def UsersPresent (s : σ) : List AvailableSupisDatum → Prop
  | [] => True
  | supi :: supis => UserPresent udr supi.supi (some supi.profileUuid) s ∧
      UsersPresent (withoutUser udr supi.supi (some supi.profileUuid) s) supis

/-- What is deleted is there. -/
def Present (s : σ) : AthonetDeletion → Prop
  | delUser supi uuid => UserPresent udr supi uuid s
  | deleteProvisionedDataProfile uuid => udr.hasProfile s uuid
  | deleteAllSupis => UsersPresent udr (detachAllUes udr s) (udr.listSupis (detachAllUes udr s))
  | delUes imsi => udr.hasSupi s s!"imsi-{imsi}"

end AthonetDeletion

namespace AthonetCorePDUConfigurator
open AthonetDeletion

variable {σ : Type} {request : σ → Nat × σ} {P : σ → Prop} {udr : AthonetUdr σ}

theorem requestUntil204_none (habsent : ∀ s, ¬ P s → (request s).1 ≠ 204 ∧ ¬ P (request s).2) (n : Nat) (s : σ) (h : ¬ P s) :
    requestUntil204 request n s = none := by
  induction n generalizing s with
  | zero => rfl
  | succ n ih =>
    obtain ⟨hcode, hstill⟩ := habsent s h
    rw [requestUntil204, if_pos hcode, ih _ hstill]

theorem requestUntil204_some (hexisting : ∀ s, P s → (request s).1 = 204) (n : Nat) (s : σ) (h : P s) :
    requestUntil204 request (n + 1) s = some (request s).2 := by
  rw [requestUntil204, if_neg (not_not.2 (hexisting s h))]

theorem deleteProvisionedDataProfile_eq (n : Nat) (s : σ) (uuid : String) [Decidable (udr.hasProfile s uuid)] :
    deleteProvisionedDataProfile udr (n + 1) uuid s = if udr.hasProfile s uuid then some (udr.deleteProfile uuid s).2 else none := by
  split
  · rename_i h
    exact requestUntil204_some (P := fun s => udr.hasProfile s uuid) (fun _ => udr.profile_existing) n s h
  · rename_i h
    exact requestUntil204_none (P := fun s => udr.hasProfile s uuid) (fun _ => udr.profile_absent) (n + 1) s h

theorem deleteSupi_eq (n : Nat) (s : σ) (supi : String) [Decidable (udr.hasSupi s supi)] :
    requestUntil204 (udr.deleteSupi supi) (n + 1) s = if udr.hasSupi s supi then some (udr.deleteSupi supi s).2 else none := by
  split
  · rename_i h
    exact requestUntil204_some (P := fun s => udr.hasSupi s supi) (fun _ => udr.supi_existing) n s h
  · rename_i h
    exact requestUntil204_none (P := fun s => udr.hasSupi s supi) (fun _ => udr.supi_absent) (n + 1) s h

open Classical in
/-- A user that is there is deleted with one request each; otherwise no number of requests is enough. -/
theorem delUser_eq (n : Nat) (s : σ) (supi : String) (uuid : Option String) :
    delUser udr (n + 1) supi uuid s = if UserPresent udr supi uuid s then some (withoutUser udr supi uuid s) else none := by
  unfold delUser UserPresent withoutUser
  rw [deleteSupi_eq]
  by_cases hsupi : udr.hasSupi s supi
  · rw [if_pos hsupi, Option.bind_eq_bind, Option.bind_some]
    cases uuid with
    | none => simp [hsupi]
    | some uuid =>
      by_cases huuid : uuid = ""
      · simp [hsupi, huuid]
      · simp [hsupi, huuid, deleteProvisionedDataProfile_eq]
  · rw [if_neg hsupi]
    simp [hsupi]

open Classical in
theorem delUsers_eq (n : Nat) (s : σ) (supis : List AvailableSupisDatum) :
    (∃ s', supis.foldlM (fun s supi => delUser udr (n + 1) supi.supi (some supi.profileUuid) s) s = some s') ↔ UsersPresent udr s supis := by
  induction supis generalizing s with
  | nil => exact ⟨fun _ => trivial, fun _ => ⟨s, rfl⟩⟩
  | cons supi supis ih =>
    rw [List.foldlM_cons, delUser_eq, UsersPresent]
    by_cases hpresent : UserPresent udr supi.supi (some supi.profileUuid) s
    · rw [if_pos hpresent, Option.bind_eq_bind, Option.bind_some, ih]
      exact ⟨fun h => ⟨hpresent, h⟩, fun h => h.2⟩
    · rw [if_neg hpresent]
      exact ⟨fun ⟨_, h⟩ => (nomatch h), fun h => absurd h.1 hpresent⟩

end AthonetCorePDUConfigurator

namespace AthonetDeletion
open AthonetCorePDUConfigurator

variable {σ : Type}

theorem exec_zero (udr : AthonetUdr σ) (op : AthonetDeletion) (s : σ) (h : op.exec udr 0 s = some s') : op.exec udr 1 s = some s' := by
  cases op with
  | delUser supi uuid => cases h
  | deleteProvisionedDataProfile uuid => cases h
  | delUes imsi => cases h
  | deleteAllSupis =>
    unfold exec AthonetCorePDUConfigurator.deleteAllSupis at h ⊢
    cases hlist : udr.listSupis (detachAllUes udr s) with
    | nil =>
      rw [hlist] at h
      exact h
    | cons supi supis =>
      rw [hlist] at h
      cases h

theorem ends_iff_succ {udr : AthonetUdr σ} {op : AthonetDeletion} {s : σ} : op.Ends udr s ↔ ∃ n s', op.exec udr (n + 1) s = some s' := by
  constructor
  · rintro ⟨n, s', h⟩
    cases n with
    | zero => exact ⟨0, s', exec_zero udr op s h⟩
    | succ n => exact ⟨n, s', h⟩
  · rintro ⟨n, s', h⟩
    exact ⟨n + 1, s', h⟩

open Classical in
theorem delUser_ends {udr : AthonetUdr σ} {s : σ} : (delUser supi uuid).Ends udr s ↔ UserPresent udr supi uuid s := by
  simp only [ends_iff_succ, exec, delUser_eq, Option.ite_none_right_eq_some]
  exact ⟨fun ⟨_, _, h, _⟩ => h, fun h => ⟨0, _, h, rfl⟩⟩

theorem delUes_ends {udr : AthonetUdr σ} {s : σ} : (delUes imsi).Ends udr s ↔ udr.hasSupi s s!"imsi-{imsi}" := by
  have hsame : (delUes imsi).Ends udr s ↔ (delUser s!"imsi-{imsi}" none).Ends udr s := Iff.rfl
  rw [hsame, delUser_ends]
  exact ⟨fun h => h.1, fun h => ⟨h, fun _ hid => (nomatch hid)⟩⟩

open Classical in
/-- A deletion ends exactly when what it deletes is there. -/
theorem ends_iff_present (udr : AthonetUdr σ) (op : AthonetDeletion) (s : σ) : op.Ends udr s ↔ op.Present udr s := by
  cases op with
  | delUser supi uuid => exact delUser_ends
  | deleteProvisionedDataProfile uuid =>
    simp only [ends_iff_succ, exec, deleteProvisionedDataProfile_eq, Present, Option.ite_none_right_eq_some]
    exact ⟨fun ⟨_, _, h, _⟩ => h, fun h => ⟨0, _, h, rfl⟩⟩
  | deleteAllSupis =>
    simp only [ends_iff_succ, exec, AthonetCorePDUConfigurator.deleteAllSupis, delUsers_eq, Present]
    exact ⟨fun ⟨_, h⟩ => h, fun h => ⟨0, h⟩⟩
  | delUes imsi => exact delUes_ends

/-! ### A UDR that keeps lists -/

structure UdrLists where
  supis : List AvailableSupisDatum := []
  profiles : List String := []
  refused : List String := []

/-- SUPIs are refused that are listed as such. -/
def listUdr : AthonetUdr UdrLists where
  hasSupi s supi := supi ∈ s.supis.map AvailableSupisDatum.supi
  hasProfile s uuid := uuid ∈ s.profiles
  deleteSupi supi s :=
    if supi ∈ s.supis.map AvailableSupisDatum.supi then
      (204, { s with supis := s.supis.filter (fun datum => decide (datum.supi ≠ supi)) })
    else (404, s)
  deleteProfile uuid s :=
    if uuid ∈ s.profiles then (204, { s with profiles := s.profiles.filter (fun id => decide (id ≠ uuid)) }) else (404, s)
  addProfile s := (s!"uuid-{s.profiles.length}", { s with profiles := s.profiles ++ [s!"uuid-{s.profiles.length}"] })
  addSupi supi uuid s := if supi ∈ s.refused then (400, s) else (201, { s with supis := s.supis ++ [⟨supi, uuid⟩] })
  listSupis s := s.supis
  connectedSupis _ := []
  removeUe _ s := s
  supi_existing h := by rw [if_pos h]
  supi_absent h := by
    rw [if_neg h]
    exact ⟨(by decide : 404 ≠ 204), h⟩
  profile_existing h := by rw [if_pos h]
  profile_absent h := by
    rw [if_neg h]
    exact ⟨(by decide : 404 ≠ 204), h⟩

/-- A subscriber that the UDR refused is deleted. -/
theorem refused_never_ends : ¬ ∀ (σ : Type) (udr : AthonetUdr σ) (op : AthonetDeletion) (s : σ), op.Ends udr s := by
  intro h
  have hends := h UdrLists listUdr (.delUes "001010000000001")
    (addUser listUdr "001010000000001" { refused := ["imsi-001010000000001"] }).2
  have hmem : "imsi-001010000000001" ∈
      (addUser listUdr "001010000000001" { refused := ["imsi-001010000000001"] }).2.supis.map AvailableSupisDatum.supi := delUes_ends.1 hends
  exact absurd hmem (by decide)

end AthonetDeletion

end Nfvcl
