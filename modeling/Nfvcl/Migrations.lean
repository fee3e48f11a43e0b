import Nfvcl.DurableRuns
import Nfvcl.Migration001
import Nfvcl.TextPieces

namespace Nfvcl.Migrations
set_option autoImplicit true
open Durable

/-- The database: what the migrations change, and the names in the collection `migrations`. -/
structure MigrationDb (σ : Type) where
  data : σ
  migrations : List String

/-- The directory of the migrations, and what its modules have as `upgrade`. -/
structure Release (σ : Type) where
  listdir : List String
  importModule : String → Except PyError (DurableM PyError σ Unit)

def migrationFiles (listdir : List String) : List String :=
  (listdir.filter (fun f => "migration_".toList.isPrefixOf f.toList && ".py".toList.isSuffixOf f.toList)).mergeSort (fun f g => decide (f ≤ g))

/-- `migration_file.split(".")[0]`. -/
def migrationName (migrationFile : String) : String :=
  String.ofList ((TextPieces.split ['.'] migrationFile.toList).headD [])

section Programs

variable {σ : Type}

def getAppliedMigrations : DurableM PyError (MigrationDb σ) (List String) := do
  return (← DurableM.read).migrations

def onData (m : DurableM PyError σ α) : DurableM PyError (MigrationDb σ) α :=
  onPart MigrationDb.data (fun data db => { db with data }) m

def insertOne (migrationName : String) : DurableM PyError (MigrationDb σ) Unit :=
  DurableM.store (fun db => { db with migrations := db.migrations ++ [migrationName] })

def applyMigration (migrationName : String) (upgrade : DurableM PyError σ Unit) : DurableM PyError (MigrationDb σ) Unit := do
  onData upgrade
  insertOne migrationName

/-- One round of the loop in `start_migrations`. -/
def startMigration (release : Release σ) (appliedMigrations : List String) (migrationFile : String) :
    DurableM PyError (MigrationDb σ) Unit :=
  if migrationName migrationFile ∉ appliedMigrations then
    match release.importModule (migrationName migrationFile) with
    | .ok upgrade => applyMigration (migrationName migrationFile) upgrade
    | .error e => DurableM.raise e
  else pure ()

def startMigrations (release : Release σ) : DurableM PyError (MigrationDb σ) Unit := do
  let appliedMigrations ← getAppliedMigrations
  forM (migrationFiles release.listdir) (startMigration release appliedMigrations)

end Programs

def Release.names (release : Release σ) : List String := (migrationFiles release.listdir).map migrationName

/-- The migrations lead from one content to another, each of them also when it is interrupted and run again. -/
def Leads (importModule : String → Except PyError (DurableM PyError σ Unit)) : List String → σ → σ → Prop
  | [], data, result => data = result
  | name :: names, data, result => ∃ upgrade Pending next, importModule name = .ok upgrade ∧ Restartable upgrade Pending next ∧
      Pending data ∧ Leads importModule names next result

/-- The first migrations are recorded, and the others lead to the result. -/
def Underway (release : Release σ) (result : σ) (db : MigrationDb σ) : Prop :=
  ∃ todo, release.names = db.migrations ++ todo ∧ Leads release.importModule todo db.data result

/-- The release has the migrations of the other one, and may have more after them. -/
structure Extends (later earlier : Release σ) : Prop where
  names : earlier.names <+: later.names
  modules : ∀ name ∈ earlier.names, earlier.importModule name = later.importModule name

section Loops

variable {σ : Type} {release later : Release σ} {applied : List String} {db db' : MigrationDb σ} {result : σ}

theorem startMigration_applied (h : migrationName file ∈ applied) : startMigration release applied file = pure () :=
  if_neg (not_not_intro h)

theorem startMigration_new (h : migrationName file ∉ applied) (hmodule : release.importModule (migrationName file) = .ok upgrade) :
    startMigration release applied file = applyMigration (migrationName file) upgrade := by
  rw [startMigration, if_pos h, hmodule]

theorem forM_cons_eq (f : String → DurableM PyError (MigrationDb σ) Unit) (file : String) (files : List String) :
    forM (file :: files) f = (do f file; forM files f) := rfl

/-- Migrations that are recorded are not applied again. -/
theorem loop_applied (files rest : List String) (h : ∀ file ∈ files, migrationName file ∈ applied) :
    forM (files ++ rest) (startMigration release applied) = forM rest (startMigration release applied) := by
  induction files with
  | nil => rfl
  | cons file files ih =>
    rw [List.cons_append, forM_cons_eq, startMigration_applied (h file List.mem_cons_self), pure_bind]
    exact ih (fun f hf => h f (List.mem_cons_of_mem _ hf))

theorem put_data (db : MigrationDb σ) : { db with data := db.data } = db := rfl

theorem completes_applyMigration : Completes (applyMigration name upgrade) db () db' ↔
    ∃ next, Completes upgrade db.data () next ∧ db' = ⟨next, db.migrations ++ [name]⟩ := by
  unfold applyMigration onData insertOne
  rw [completes_bind]
  constructor
  · rintro ⟨_, s', hs', hstore⟩
    obtain ⟨next, hnext, rfl⟩ := (completes_onPart put_data).1 hs'
    exact ⟨next, hnext, (completes_store.1 hstore).symm⟩
  · rintro ⟨next, hnext, rfl⟩
    exact ⟨(), _, (completes_onPart put_data).2 ⟨next, hnext, rfl⟩, completes_store.2 rfl⟩

/-- A migration that is interrupted is recorded only when it is done. -/
theorem leaves_applyMigration (h : Leaves (applyMigration name upgrade) db db') :
    (∃ data, Leaves upgrade db.data data ∧ db' = { db with data }) ∨ Completes (applyMigration name upgrade) db () db' := by
  rcases leaves_bind.1 h with hfirst | ⟨_, s', hs', hstore⟩
  · exact .inl ((leaves_onPart put_data).1 hfirst)
  · obtain ⟨next, hnext, rfl⟩ := (completes_onPart put_data).1 hs'
    rcases leaves_store.1 hstore with rfl | rfl
    · exact .inl ⟨next, hnext.leaves, rfl⟩
    · exact .inr (completes_applyMigration.2 ⟨next, hnext, rfl⟩)

/-- Migrations that are not recorded are applied in their order, and recorded. -/
theorem loop_new (files : List String) (hnew : ∀ file ∈ files, migrationName file ∉ applied)
    (hleads : Leads release.importModule (files.map migrationName ++ todo) db.data result) :
    (∃ next, Leads release.importModule todo next result ∧
      Completes (forM files (startMigration release applied)) db () ⟨next, db.migrations ++ files.map migrationName⟩) ∧
    ∀ db', Leaves (forM files (startMigration release applied)) db db' → ∃ done rest, files.map migrationName = done ++ rest ∧
      db'.migrations = db.migrations ++ done ∧ Leads release.importModule (rest ++ todo) db'.data result := by
  induction files generalizing db with
  | nil =>
    refine ⟨⟨db.data, hleads, completes_pure.2 ⟨rfl, ?_⟩⟩, ?_⟩
    · rw [List.map_nil, List.append_nil]
    · intro db' h
      rw [leaves_pure.1 h]
      exact ⟨[], [], rfl, (List.append_nil _).symm, hleads⟩
  | cons file files ih =>
    obtain ⟨upgrade, Pending, next, hmodule, hrestartable, hpending, hrest⟩ := hleads
    have hnext : Completes (applyMigration (migrationName file) upgrade) db () ⟨next, db.migrations ++ [migrationName file]⟩ :=
      completes_applyMigration.2 ⟨next, hrestartable.completes _ hpending, rfl⟩
    have hleft : Leads release.importModule (files.map migrationName ++ todo)
        (⟨next, db.migrations ++ [migrationName file]⟩ : MigrationDb σ).data result := hrest
    obtain ⟨⟨data, hdata, hcompletes⟩, hleaves⟩ := ih (fun f hf => hnew f (List.mem_cons_of_mem _ hf)) hleft
    rw [forM_cons_eq, startMigration_new (hnew file List.mem_cons_self) hmodule]
    refine ⟨⟨data, hdata, completes_bind.2 ⟨(), _, hnext, ?_⟩⟩, ?_⟩
    · rw [List.append_assoc] at hcompletes
      exact hcompletes
    · intro db' h
      rcases leaves_bind.1 h with hfirst | ⟨_, s', hs', hsecond⟩
      · rcases leaves_applyMigration hfirst with ⟨data', hdata', rfl⟩ | hdone
        · exact ⟨[], _, rfl, (List.append_nil _).symm, upgrade, Pending, next, hmodule, hrestartable,
            hrestartable.leaves _ _ hpending hdata', hrest⟩
        · rw [(hdone.unique hnext).2]
          exact ⟨[migrationName file], files.map migrationName, rfl, rfl, hrest⟩
      · rw [(hs'.unique hnext).2] at hsecond
        obtain ⟨done, rest, hsplit, hrecorded, hlead⟩ := hleaves db' hsecond
        refine ⟨migrationName file :: done, rest, ?_, ?_, hlead⟩
        · rw [List.map_cons, hsplit]
          rfl
        · rw [hrecorded, List.append_assoc]
          rfl

end Loops

section Startups

variable {σ : Type} {release later : Release σ} {db db' : MigrationDb σ} {result : σ}

theorem completes_startMigrations (h : Completes (forM (migrationFiles release.listdir) (startMigration release db.migrations)) db () db') :
    Completes (startMigrations release) db () db' :=
  completes_bind.2 ⟨db.migrations, db, ⟨rfl, rfl⟩, h⟩

theorem leaves_startMigrations (h : Leaves (startMigrations release) db db') :
    Leaves (forM (migrationFiles release.listdir) (startMigration release db.migrations)) db db' := by
  rcases leaves_bind.1 h with hfirst | ⟨applied, s', ⟨happlied, hs'⟩, hrest⟩
  · rw [List.mem_singleton.1 hfirst]
    exact Leaves.refl _ db
  · cases happlied
    cases hs'
    exact hrest

theorem Leads.congr {f g : String → Except PyError (DurableM PyError σ Unit)} {names : List String} {data : σ} (h : Leads f names data result)
    (hsame : ∀ name ∈ names, f name = g name) : Leads g names data result := by
  induction names generalizing data with
  | nil => exact h
  | cons name names ih =>
    obtain ⟨upgrade, Pending, next, hmodule, hrestartable, hpending, hrest⟩ := h
    exact ⟨upgrade, Pending, next, (hsame name List.mem_cons_self).symm.trans hmodule, hrestartable, hpending,
      ih hrest (fun n hn => hsame n (List.mem_cons_of_mem _ hn))⟩

theorem Leads.append {f : String → Except PyError (DurableM PyError σ Unit)} {names more : List String} {data : σ}
    (h : Leads f (names ++ more) data result) : ∃ next, Leads f names data next ∧ Leads f more next result := by
  induction names generalizing data with
  | nil => exact ⟨data, rfl, h⟩
  | cons name names ih =>
    obtain ⟨upgrade, Pending, next, hmodule, hrestartable, hpending, hrest⟩ := h
    obtain ⟨last, hnames, hmore⟩ := ih hrest
    exact ⟨last, ⟨upgrade, Pending, next, hmodule, hrestartable, hpending, hnames⟩, hmore⟩

theorem Leads.trans {f : String → Except PyError (DurableM PyError σ Unit)} {names more : List String} {data next : σ}
    (h : Leads f names data next) (hmore : Leads f more next result) : Leads f (names ++ more) data result := by
  induction names generalizing data with
  | nil =>
    cases h
    exact hmore
  | cons name names ih =>
    obtain ⟨upgrade, Pending, middle, hmodule, hrestartable, hpending, hrest⟩ := h
    exact ⟨upgrade, Pending, middle, hmodule, hrestartable, hpending, ih hrest⟩

/-- The startup applies what is missing after the recorded migrations. -/
theorem startMigrations_missing (hnames : release.names.Nodup) (hmissing : release.names = db.migrations ++ missing) :
    ∃ new : List String, new.map migrationName = missing ∧ (∀ file ∈ new, migrationName file ∉ db.migrations) ∧
      forM (migrationFiles release.listdir) (startMigration release db.migrations) = forM new (startMigration release db.migrations) := by
  obtain ⟨recorded, new, hfiles, hrecorded, hnew⟩ := List.map_eq_append_iff.1 hmissing
  refine ⟨new, hnew, ?_, ?_⟩
  · intro file hfile hmem
    rw [hmissing, ← hnew] at hnames
    exact (List.nodup_append.1 hnames).2.2 _ hmem _ (List.mem_map_of_mem hfile) rfl
  · rw [hfiles]
    apply loop_applied
    intro file hfile
    rw [← hrecorded]
    exact List.mem_map_of_mem hfile

theorem leads_of_extends {release : Release σ} (hext : Extends later release) {names : List String} {data : σ} (hsub : ∀ name ∈ names, name ∈ release.names) :
    Leads release.importModule names data result ↔ Leads later.importModule names data result :=
  ⟨fun h => h.congr (fun name hname => hext.modules name (hsub name hname)),
    fun h => h.congr (fun name hname => (hext.modules name (hsub name hname)).symm)⟩

/-- However a startup ends, the migrations of the last release are underway. -/
theorem Underway.startup (h : Underway later result db) (hnames : later.names.Nodup) (hext : Extends later release)
    (hrun : Leaves (startMigrations release) db db') : Underway later result db' := by
  obtain ⟨more, hmore⟩ := hext.names
  obtain ⟨todo, htodo, hleads⟩ := h
  have hleft := leaves_startMigrations hrun
  have hnodup : release.names.Nodup := hnames.sublist hext.names.sublist
  rcases List.append_eq_append_iff.1 (hmore.trans htodo) with ⟨surplus, hsurplus, -⟩ | ⟨missing, hmissing, hrest⟩
  · -- every migration of the release is recorded
    have happlied : ∀ file ∈ migrationFiles release.listdir, migrationName file ∈ db.migrations := by
      intro file hfile
      rw [hsurplus]
      exact List.mem_append_left _ (List.mem_map_of_mem hfile)
    have hloop : forM (migrationFiles release.listdir ++ []) (startMigration release db.migrations) =
        forM [] (startMigration release db.migrations) := loop_applied _ [] happlied
    rw [List.append_nil] at hloop
    rw [hloop] at hleft
    rw [leaves_pure.1 hleft]
    exact ⟨todo, htodo, hleads⟩
  · obtain ⟨new, hnew, hfresh, hloop⟩ := startMigrations_missing hnodup hmissing
    rw [hloop] at hleft
    rw [hrest] at hleads
    obtain ⟨next, hfirst, hsecond⟩ := hleads.append
    have hsub : ∀ name ∈ missing, name ∈ release.names := by
      intro name hname
      rw [hmissing]
      exact List.mem_append_right _ hname
    have hfirst' : Leads release.importModule (new.map migrationName ++ []) db.data next := by
      rw [List.append_nil, hnew]
      exact (leads_of_extends hext hsub).2 hfirst
    obtain ⟨-, hleaves⟩ := loop_new new hfresh hfirst'
    obtain ⟨done, rest, hsplit, hrecorded, hlead⟩ := hleaves db' hleft
    rw [hnew] at hsplit
    rw [List.append_nil] at hlead
    have hlater : Leads later.importModule rest db'.data next :=
      (leads_of_extends hext (fun name hname => hsub name (by rw [hsplit]; exact List.mem_append_right _ hname))).1 hlead
    refine ⟨rest ++ more, ?_, hlater.trans hsecond⟩
    rw [htodo, hrest, hrecorded, hsplit]
    simp only [List.append_assoc]

/-- A startup that is not interrupted finishes what is underway. -/
theorem Underway.finishes (h : Underway later result db) (hnames : later.names.Nodup) :
    Completes (startMigrations later) db () ⟨result, later.names⟩ := by
  obtain ⟨todo, htodo, hleads⟩ := h
  obtain ⟨new, hnew, hfresh, hloop⟩ := startMigrations_missing hnames htodo
  rw [← List.append_nil todo, ← hnew] at hleads
  obtain ⟨⟨data, hdata, hcompletes⟩, -⟩ := loop_new new hfresh hleads
  rw [← hloop, hnew, ← htodo] at hcompletes
  cases hdata
  exact completes_startMigrations hcompletes

/-- Startups of earlier releases, each of which may be interrupted anywhere. -/
def Startup (later : Release σ) (db db' : MigrationDb σ) : Prop :=
  ∃ release, Extends later release ∧ Leaves (startMigrations release) db db'

theorem Underway.startups (h : Underway later result db) (hnames : later.names.Nodup)
    (hstartups : Relation.ReflTransGen (Startup later) db db') : Underway later result db' := by
  induction hstartups with
  | refl => exact h
  | tail _ hstartup ih =>
    obtain ⟨release, hext, hrun⟩ := hstartup
    exact ih.startup hnames hext hrun

/-- After any number of startups that were interrupted anywhere or raised, one that is not interrupted leaves what a
single startup of the last release would have left, each migration recorded once. -/
theorem startups_recover {data : σ} (hnames : later.names.Nodup) (hleads : Leads later.importModule later.names data result)
    (hstartups : Relation.ReflTransGen (Startup later) ⟨data, []⟩ db) :
    Completes (startMigrations later) db () ⟨result, later.names⟩ := by
  have hnew : Underway later result ⟨data, []⟩ := ⟨later.names, rfl, hleads⟩
  exact (hnew.startups hnames hstartups).finishes hnames

end Startups

/-! ### The migrations of the repository -/

section Repository

open Migration001 Effects

/-- The loop of a migration, which stores every document it has replaced. -/
def migrateWrites (edit : PyDict → PyValue → Except PyError PyValue) : List PyDict → List PyDict → DurableM PyError (List PyDict) Unit
  | _, [] => pure ()
  | before, doc :: docs =>
    match migrateDocument edit doc with
    | .ok edited => do
      DurableM.store (fun _ => before ++ edited :: docs)
      migrateWrites edit (before ++ [edited]) docs
    | .error e => DurableM.raise e

def upgradeWrites : DurableM PyError (List PyDict) Unit := do
  migrateWrites upgradeValue [] (← DurableM.read)

def repository : Release (List PyDict) where
  listdir := ["__init__.py", "migration_001_initial.py"]
  importModule name :=
    if name = "migration_001_initial" then .ok upgradeWrites else .error (.external s!"No module named 'nfvcl.utils.migrations.{name}'")

/-- The writes end where the migration ends, whether it returns or raises. -/
theorem migrateWrites_stored (edit : PyDict → PyValue → Except PyError PyValue) (before docs : List PyDict) :
    (migrateWrites edit before docs (before ++ docs)).stored.getLastD (before ++ docs) = before ++ finalState (migrateFrom edit docs) := by
  induction docs generalizing before with
  | nil => rfl
  | cons doc docs ih =>
    rw [migrateWrites, migrateFrom]
    cases migrateDocument edit doc with
    | error e => rfl
    | ok edited =>
      have hrest := ih (before ++ [edited])
      rw [List.append_assoc, List.singleton_append] at hrest
      simp only [store_bind, List.getLastD_cons]
      rw [hrest]
      cases migrateFrom edit docs with
      | ok u rest => simp only [finalState_ok, List.append_assoc, List.singleton_append]
      | error e rest => simp only [finalState_error, List.append_assoc, List.singleton_append]

/-- The writes raise what the migration raises. -/
theorem migrateWrites_error (edit : PyDict → PyValue → Except PyError PyValue) (before docs : List PyDict) (e : PyError) :
    (migrateWrites edit before docs (before ++ docs)).result = .error e ↔ ∃ rest, migrateFrom edit docs = .error e rest := by
  induction docs generalizing before with
  | nil =>
    constructor
    · intro h
      cases h
    · rintro ⟨_, h⟩
      cases h
  | cons doc docs ih =>
    rw [migrateWrites, migrateFrom]
    cases migrateDocument edit doc with
    | error e' =>
      constructor
      · intro h
        cases h
        exact ⟨_, rfl⟩
      · rintro ⟨rest, h⟩
        cases h
        rfl
    | ok edited =>
      have hrest := ih (before ++ [edited])
      rw [List.append_assoc, List.singleton_append] at hrest
      simp only [store_bind]
      rw [hrest]
      cases migrateFrom edit docs with
      | ok u rest =>
        constructor
        · rintro ⟨_, h⟩
          cases h
        · rintro ⟨_, h⟩
          cases h
      | error e' rest =>
        constructor
        · rintro ⟨_, h⟩
          cases h
          exact ⟨_, rfl⟩
        · rintro ⟨_, h⟩
          cases h
          exact ⟨_, rfl⟩

/-- Each document is as it was, or upgraded. -/
def PartlyUpgraded (docs docs' : List PyDict) : Prop :=
  List.Forall₂ (fun doc doc' => doc' = doc ∨ doc' = upgraded doc) docs docs'

theorem migrateDocument_of_run (h : upgrade.run [doc] = .ok () [doc']) : migrateDocument upgradeValue doc = .ok doc' := by
  change migrateFrom upgradeValue [doc] = .ok () [doc'] at h
  rw [migrateFrom] at h
  cases hdoc : migrateDocument upgradeValue doc with
  | error e =>
    rw [hdoc] at h
    cases h
  | ok edited =>
    rw [hdoc] at h
    cases h
    rfl

/-- A document that is upgraded again stays. -/
theorem migrateDocument_upgraded (h : Migration001.Blueprint doc) (hdoc : doc' = doc ∨ doc' = upgraded doc) :
    migrateDocument upgradeValue doc' = .ok (upgraded doc) := by
  have hone : ∀ d ∈ [doc], Migration001.Blueprint d := by
    intro d hd
    rw [List.mem_singleton.1 hd]
    exact h
  rcases hdoc with rfl | rfl
  · exact migrateDocument_of_run (upgrade_ok hone)
  · exact migrateDocument_of_run (upgrade_upgraded hone)

theorem migrateWrites_partly {docs docs' : List PyDict} (h : ∀ doc ∈ docs, Migration001.Blueprint doc) (hpartly : PartlyUpgraded docs docs')
    (before : List PyDict) : Completes (migrateWrites upgradeValue before docs') (before ++ docs') () (before ++ docs.map upgraded) ∧
      ∀ s, Leaves (migrateWrites upgradeValue before docs') (before ++ docs') s → ∃ docs'', s = before ++ docs'' ∧ PartlyUpgraded docs docs'' := by
  induction hpartly generalizing before with
  | nil => exact ⟨completes_pure.2 ⟨rfl, rfl⟩, fun s hs => ⟨[], leaves_pure.1 hs, .nil⟩⟩
  | @cons doc doc' docs docs' hdoc hpartly ih =>
    obtain ⟨hcompletes, hleaves⟩ := ih (fun d hd => h d (List.mem_cons_of_mem _ hd)) (before ++ [upgraded doc])
    rw [List.append_assoc, List.singleton_append] at hcompletes hleaves
    rw [migrateWrites, migrateDocument_upgraded (h doc List.mem_cons_self) hdoc]
    constructor
    · rw [List.append_assoc] at hcompletes
      exact completes_bind.2 ⟨(), _, completes_store.2 rfl, hcompletes⟩
    · intro s hs
      rcases leaves_bind.1 hs with hfirst | ⟨_, s', hs', hrest⟩
      · rcases leaves_store.1 hfirst with rfl | rfl
        · exact ⟨_, rfl, .cons hdoc hpartly⟩
        · exact ⟨_, rfl, .cons (.inr rfl) hpartly⟩
      · rw [← completes_store.1 hs'] at hrest
        obtain ⟨docs'', rfl, hpartly''⟩ := hleaves s hrest
        exact ⟨upgraded doc :: docs'', by rw [List.append_assoc]; rfl, .cons (.inr rfl) hpartly''⟩

theorem restartable_upgradeWrites {docs : List PyDict} (h : ∀ doc ∈ docs, Migration001.Blueprint doc) :
    Restartable upgradeWrites (PartlyUpgraded docs) (docs.map upgraded) where
  completes docs' hpartly := completes_bind.2 ⟨docs', docs', completes_read.2 ⟨rfl, rfl⟩, (migrateWrites_partly h hpartly []).1⟩
  leaves docs' s hpartly hs := by
    rcases leaves_bind.1 hs with hfirst | ⟨_, s', hs', hrest⟩
    · rw [leaves_read.1 hfirst]
      exact hpartly
    · obtain ⟨rfl, rfl⟩ := completes_read.1 hs'
      obtain ⟨docs'', rfl, hpartly''⟩ := (migrateWrites_partly h hpartly []).2 s hrest
      exact hpartly''

theorem migrationFiles_repository : migrationFiles repository.listdir = ["migration_001_initial.py"] := by
  rw [migrationFiles, show repository.listdir.filter _ = ["migration_001_initial.py"] from by decide, List.mergeSort_singleton]

theorem repository_names : repository.names = ["migration_001_initial"] := by
  rw [Release.names, migrationFiles_repository]
  decide

theorem repository_nodup : repository.names.Nodup := by
  rw [repository_names]
  decide

theorem leads_repository {docs : List PyDict} (h : ∀ doc ∈ docs, Migration001.Blueprint doc) :
    Leads repository.importModule repository.names docs (docs.map upgraded) := by
  rw [repository_names]
  refine ⟨upgradeWrites, _, _, rfl, restartable_upgradeWrites h, ?_, rfl⟩
  exact List.forall₂_same.2 (fun doc _ => .inl rfl)

/-- Startups of the repository that are interrupted anywhere, also between two documents, never upgrade a document
twice or lose one. -/
theorem repository_startups_recover {docs : List PyDict} (h : ∀ doc ∈ docs, Migration001.Blueprint doc) {db : MigrationDb (List PyDict)}
    (hstartups : Relation.ReflTransGen (Leaves (startMigrations repository)) ⟨docs, []⟩ db) :
    Completes (startMigrations repository) db () ⟨docs.map upgraded, ["migration_001_initial"]⟩ := by
  have hnew : Underway repository (docs.map upgraded) ⟨docs, []⟩ := ⟨repository.names, rfl, leads_repository h⟩
  have hself : Extends repository repository := ⟨List.prefix_refl _, fun _ _ => rfl⟩
  have hstartups' : Relation.ReflTransGen (Startup repository) ⟨docs, []⟩ db :=
    Relation.ReflTransGen.mono (fun _ _ hrun => ⟨repository, hself, hrun⟩) _ _ hstartups
  rw [← repository_names]
  exact (hnew.startups repository_nodup hstartups').finishes repository_nodup

/-- A startup that is interrupted after its documents are upgraded, before the migration is recorded. -/
theorem leaves_repository {docs : List PyDict} (h : ∀ doc ∈ docs, Migration001.Blueprint doc) :
    Leaves (startMigrations repository) ⟨docs, []⟩ ⟨docs.map upgraded, []⟩ := by
  have hupgrade := (restartable_upgradeWrites h).completes docs (List.forall₂_same.2 (fun doc _ => .inl rfl))
  have hdata : Leaves (applyMigration "migration_001_initial" upgradeWrites) ⟨docs, []⟩ ⟨docs.map upgraded, []⟩ :=
    leaves_bind.2 (.inl ((leaves_onPart put_data).2 ⟨_, hupgrade.leaves, rfl⟩))
  refine leaves_bind.2 (.inr ⟨[], _, ⟨rfl, rfl⟩, ?_⟩)
  rw [migrationFiles_repository, forM_cons_eq]
  exact leaves_bind.2 (.inl hdata)

def oldVm : PyDict := oneVm vmResourcePath mgmtInterface

theorem blueprint_oldVm : ∀ doc ∈ [oldVm], Migration001.Blueprint doc := by
  intro doc hdoc
  rw [List.mem_singleton.1 hdoc]
  exact blueprint_oneVm _ (.inl ⟨_, rfl⟩)

theorem startups_recover_oldVm : Completes (startMigrations repository) ⟨[upgraded oldVm], []⟩ () ⟨[upgraded oldVm], repository.names⟩ :=
  startups_recover repository_nodup (leads_repository blueprint_oldVm)
    (.single ⟨repository, ⟨List.prefix_refl _, fun _ _ => rfl⟩, leaves_repository blueprint_oldVm⟩)

theorem repository_startups_recover_oldVm :
    Completes (startMigrations repository) ⟨[upgraded oldVm], []⟩ () ⟨[upgraded oldVm], ["migration_001_initial"]⟩ :=
  repository_startups_recover blueprint_oldVm (.single (leaves_repository blueprint_oldVm))

end Repository

end Nfvcl.Migrations
