import CempMobile.Core.Error
import CempMobile.Lib.Results
import Mathlib.Data.List.Nodup

/-! Schema migrations. -/

open Except

namespace cemp.database

structure Migration where
  version : Int
  description : String
  statements : List String

/-- Schema v1. -/
def SCHEMA_V1_STATEMENTS : List String :=
  ["CREATE TABLE wallets (
     id INTEGER PRIMARY KEY,
     name TEXT NOT NULL,
     created_at_ms INTEGER NOT NULL
   )",
    "CREATE TABLE wallet_balances (
     wallet_id INTEGER PRIMARY KEY REFERENCES wallets(id),
     total_shannon TEXT NOT NULL,
     available_shannon TEXT NOT NULL,
     reserved_shannon TEXT NOT NULL,
     reclaimable_shannon TEXT NOT NULL,
     pending_shannon TEXT NOT NULL,
     updated_at_ms INTEGER NOT NULL
   )",
    "CREATE TABLE accounts (
     id INTEGER PRIMARY KEY,
     wallet_id INTEGER NOT NULL REFERENCES wallets(id),
     label TEXT NOT NULL,
     network TEXT NOT NULL,
     created_at_ms INTEGER NOT NULL
   )",
    "CREATE TABLE profiles (
     id INTEGER PRIMARY KEY,
     account_id INTEGER NOT NULL REFERENCES accounts(id),
     profile_id_hex TEXT NOT NULL UNIQUE,
     type_id_hex TEXT,
     outpoint_tx_hash TEXT,
     outpoint_index INTEGER,
     state TEXT NOT NULL,
     created_at_ms INTEGER NOT NULL,
     updated_at_ms INTEGER NOT NULL
   )",
    "CREATE TABLE contacts (
     id INTEGER PRIMARY KEY,
     display_name TEXT NOT NULL,
     notes TEXT NOT NULL DEFAULT '',
     avatar BLOB,
     profile_id_hex TEXT UNIQUE,
     created_at_ms INTEGER NOT NULL,
     updated_at_ms INTEGER NOT NULL
   )",
    "CREATE TABLE conversations (
     id INTEGER PRIMARY KEY,
     contact_id INTEGER NOT NULL UNIQUE REFERENCES contacts(id),
     created_at_ms INTEGER NOT NULL,
     last_activity_at_ms INTEGER NOT NULL
   )",
    "CREATE TABLE messages (
     id INTEGER PRIMARY KEY,
     conversation_id INTEGER NOT NULL REFERENCES conversations(id),
     direction TEXT NOT NULL CHECK (direction IN ('outgoing', 'incoming')),
     state TEXT NOT NULL,
     body TEXT,
     logical_message_id TEXT NOT NULL UNIQUE,
     created_at_ms INTEGER NOT NULL,
     updated_at_ms INTEGER NOT NULL
   )",
    "CREATE INDEX messages_conversation_id_id ON messages(conversation_id, id)",
    "CREATE INDEX messages_state ON messages(state)",
    "CREATE TABLE message_chain_refs (
     id INTEGER PRIMARY KEY,
     message_id INTEGER NOT NULL UNIQUE REFERENCES messages(id),
     tx_hash TEXT,
     outpoint_index INTEGER,
     reply_to_tx_hash TEXT,
     reply_to_outpoint_index INTEGER
   )",
    "CREATE TABLE attachments (
     id INTEGER PRIMARY KEY,
     message_id INTEGER NOT NULL REFERENCES messages(id),
     kind TEXT NOT NULL,
     byte_length INTEGER NOT NULL,
     state TEXT NOT NULL,
     manifest BLOB,
     created_at_ms INTEGER NOT NULL
   )",
    "CREATE TABLE attachment_chunks (
     id INTEGER PRIMARY KEY,
     attachment_id INTEGER NOT NULL REFERENCES attachments(id),
     chunk_index INTEGER NOT NULL,
     outpoint_tx_hash TEXT,
     outpoint_index INTEGER,
     state TEXT NOT NULL,
     UNIQUE (attachment_id, chunk_index)
   )",
    "CREATE TABLE receipts (
     id INTEGER PRIMARY KEY,
     message_id INTEGER NOT NULL REFERENCES messages(id),
     receipt_type INTEGER NOT NULL,
     tx_hash TEXT,
     state TEXT NOT NULL,
     created_at_ms INTEGER NOT NULL
   )",
    "CREATE TABLE outgoing_transactions (
     id INTEGER PRIMARY KEY,
     tx_hash TEXT NOT NULL UNIQUE,
     purpose TEXT NOT NULL,
     state TEXT NOT NULL,
     fee_shannon TEXT,
     submitted_at_ms INTEGER,
     committed_at_ms INTEGER,
     block_hash TEXT
   )",
    "CREATE TABLE reclaim_groups (
     id INTEGER PRIMARY KEY,
     state TEXT NOT NULL,
     created_at_ms INTEGER NOT NULL
   )",
    "CREATE TABLE watched_outpoints (
     id INTEGER PRIMARY KEY,
     tx_hash TEXT NOT NULL,
     outpoint_index INTEGER NOT NULL,
     purpose TEXT NOT NULL,
     status TEXT NOT NULL DEFAULT 'watching',
     spent_by_tx_hash TEXT,
     reclaim_group_id INTEGER REFERENCES reclaim_groups(id),
     created_at_ms INTEGER NOT NULL,
     spent_at_ms INTEGER,
     UNIQUE (tx_hash, outpoint_index)
   )",
    "CREATE TABLE sync_cursors (
     worker TEXT PRIMARY KEY,
     cursor TEXT NOT NULL,
     updated_at_ms INTEGER NOT NULL
   )",
    "CREATE TABLE network_endpoints (
     id INTEGER PRIMARY KEY,
     network TEXT NOT NULL,
     kind TEXT NOT NULL,
     url TEXT NOT NULL,
     is_active INTEGER NOT NULL DEFAULT 1
   )",
    "CREATE TABLE security_events (
     id INTEGER PRIMARY KEY,
     kind TEXT NOT NULL,
     detail TEXT NOT NULL,
     created_at_ms INTEGER NOT NULL
   )",
    "CREATE TABLE settings (
     key TEXT PRIMARY KEY,
     value TEXT NOT NULL
   )"]

/-- The list is append-only. -/
def MIGRATIONS : List Migration :=
  [{ version := 1, description := "initial schema (spec §11)",
      statements := SCHEMA_V1_STATEMENTS },
    { version := 2, description := "profile security: rotation lineage + contact trust material (Phase 5)",
      statements := ["ALTER TABLE profiles ADD COLUMN previous_profile_id_hex TEXT",
        "ALTER TABLE contacts ADD COLUMN profile_type_id_hex TEXT",
        "ALTER TABLE contacts ADD COLUMN ml_dsa_public_key BLOB",
        "ALTER TABLE contacts ADD COLUMN ml_kem_public_key BLOB",
        "ALTER TABLE contacts ADD COLUMN fingerprint TEXT",
        "ALTER TABLE contacts ADD COLUMN trust_verdict TEXT"] },
    { version := 3, description := "response/reclaim lifecycle: envelope message ids + reclaim capacity (Phase 8)",
      statements := ["ALTER TABLE messages ADD COLUMN envelope_message_id_hex TEXT",
        "CREATE INDEX messages_envelope_message_id ON messages(envelope_message_id_hex)",
        "ALTER TABLE outgoing_transactions ADD COLUMN capacity_shannon TEXT"] },
    { version := 4, description := "background operation: worker leases + sync cursors (Phase 9 tasks 4, 9, 10)",
      statements := ["CREATE TABLE worker_leases (
         resource TEXT PRIMARY KEY,
         owner TEXT NOT NULL,
         acquired_at_ms INTEGER NOT NULL,
         expires_at_ms INTEGER NOT NULL
       )"] },
    { version := 5, description := "hardening: rate-limit buckets + contact block flag (Phase 11 tasks 9–10)",
      statements := ["ALTER TABLE contacts ADD COLUMN blocked INTEGER NOT NULL DEFAULT 0",
        "CREATE TABLE rate_limits (
         bucket TEXT PRIMARY KEY,
         tokens REAL NOT NULL,
         updated_at_ms INTEGER NOT NULL
       )"] },
    { version := 6, description := "crash-safe journals: signed tx bytes for rebroadcast resume (review E1)",
      statements := ["ALTER TABLE outgoing_transactions ADD COLUMN tx_hex TEXT"] },
    { version := 7, description := "attachments: one row per message — UNIQUE(message_id) (review follow-up)",
      statements := ["CREATE UNIQUE INDEX attachments_message_id ON attachments(message_id)"] },
    { version := 8, description := "attachments: persist the incoming attachment key (sender-reclaim griefing fix)",
      statements := ["ALTER TABLE attachments ADD COLUMN attachment_key BLOB"] },
    { version := 9, description := "attachments: recipient-confirmed download gates chunk reclaim (spec §8 0x05)",
      statements := ["ALTER TABLE attachments ADD COLUMN remote_downloaded INTEGER NOT NULL DEFAULT 0"] }]

/-- A row of `cemp_schema_migrations`. -/
structure SchemaMigration where
  version : Int
  description : String
  appliedAtMs : Nat

/-- The database: what the schema's statements have made of it, and the bookkeeping table, which a
    fresh database has without a row. The version is its primary key. -/
structure Database (σ : Type) where
  schema : σ
  records : List SchemaMigration
  distinct : (records.map (·.version)).Nodup

/-- The statements of `migrate` itself. -/
inductive Command where
  | bookkeepingDdl
  | selectVersions
  | BEGIN
  | INSERT (row : SchemaMigration)
  | COMMIT

/-- SQLite, every statement of which may throw. A statement of a migration that does not throw
    changes the schema. -/
structure Sqlite (σ : Type) where
  exec : String → σ → Except Error σ
  throws : Command → Database σ → Option Error

/-- What `migrate` throws, and where it was thrown. -/
inductive MigrateFailure where
  | bookkeeping (error : Error)
  | refused (error : Error)
  | migration (version : Int) (error : Error)

/-- No migration was begun. -/
def MigrateFailure.Refusal : MigrateFailure → Prop
  | bookkeeping _ | refused _ => True
  | migration _ _ => False

variable {σ : Type}

def Database.versions (db : Database σ) : List Int := db.records.map (·.version)

def Sqlite.command (sqlite : Sqlite σ) (c : Command) (db : Database σ) : Except Error Unit :=
  match sqlite.throws c db with
  | some thrown => error thrown
  | none => ok ()

theorem nodup_versions {records : List SchemaMigration} {row : SchemaMigration}
    (hdistinct : (records.map (·.version)).Nodup) (hfresh : row.version ∉ records.map (·.version)) :
    ((records ++ [row]).map (·.version)).Nodup := by
  rw [List.map_append, List.map_singleton, ← List.concat_eq_append]
  exact hdistinct.concat hfresh

/-- The `INSERT` of a row, which the primary key may forbid. -/
def Sqlite.record (sqlite : Sqlite σ) (row : SchemaMigration) (db : Database σ) :
    Except Error (Database σ) := do
  sqlite.command (.INSERT row) db
  if hfresh : row.version ∉ db.versions then
    ok ⟨db.schema, db.records ++ [row], nodup_versions db.distinct hfresh⟩
  else
    error (.other "UNIQUE constraint failed: cemp_schema_migrations.version")

/-- The transaction of one migration. Where it throws, `ROLLBACK` leaves the database as it was. -/
def Sqlite.apply (sqlite : Sqlite σ) (now : Migration → Nat) (migration : Migration)
    (db : Database σ) : Except Error (Database σ) := do
  sqlite.command .BEGIN db
  let schema ← migration.statements.foldlM (fun schema statement => sqlite.exec statement schema)
    db.schema
  let db ← sqlite.record ⟨migration.version, migration.description, now migration⟩
    { db with schema := schema }
  sqlite.command .COMMIT db
  return db

/-- The loop over the migrations, behind the `SELECT` that told which are applied. -/
def Sqlite.applyPending (sqlite : Sqlite σ) (now : Migration → Nat) (applied : List Int) :
    List Migration → Database σ → Except MigrateFailure Unit × Database σ
  | [], db => (ok (), db)
  | migration :: rest, db =>
    if migration.version ∈ applied then sqlite.applyPending now applied rest db
    else
      match sqlite.apply now migration db with
      | .error thrown => (error (.migration migration.version thrown), db)
      | .ok db => sqlite.applyPending now applied rest db

def known : List Int := MIGRATIONS.map (·.version)

def migrate (sqlite : Sqlite σ) (now : Migration → Nat) (db : Database σ) :
    Except MigrateFailure Unit × Database σ :=
  match sqlite.command .bookkeepingDdl db >>= fun _ => sqlite.command .selectVersions db with
  | .error thrown => (error (.bookkeeping thrown), db)
  | .ok _ =>
    let applied := db.versions.mergeSort
    match applied.find? (fun version => version ∉ known) with
    | some version =>
      (error (.refused (.database .migration_error
        ("database is stamped with unknown schema version " ++ toString version))), db)
    | none => sqlite.applyPending now applied MIGRATIONS db

/-- The known migrations that are not recorded, in the order of the list. -/
def pending (db : Database σ) : List Migration :=
  MIGRATIONS.filter fun migration => migration.version ∉ db.versions

/-- What a sequence of migrations makes of a database, each applied once. -/
inductive Applied (sqlite : Sqlite σ) (now : Migration → Nat) :
    Database σ → List Migration → Database σ → Prop where
  | nil (db : Database σ) : Applied sqlite now db [] db
  | cons {db next last : Database σ} {migration : Migration} {rest : List Migration}
    (hschema : migration.statements.foldlM (fun schema statement => sqlite.exec statement schema)
      db.schema = ok next.schema)
    (hrecords : next.records =
      db.records ++ [⟨migration.version, migration.description, now migration⟩])
    (hrest : Applied sqlite now next rest last) : Applied sqlite now db (migration :: rest) last

/-- The recorded versions are the first of the known ones. -/
def Prefix (db : Database σ) : Prop :=
  ∃ count, ∀ version, version ∈ db.versions ↔ version ∈ known.take count

/-- No statement throws. -/
structure Sqlite.Succeeds (sqlite : Sqlite σ) : Prop where
  exec : ∀ statement schema, ∃ schema', sqlite.exec statement schema = ok schema'
  command : ∀ c db, sqlite.throws c db = none

/-- What a migration is for. It ends with the known versions recorded or throws, and what it has
    done by then are whole migrations in their order. It begins none where the recorded versions are
    not the first ones. -/
structure Migrates (sqlite : Sqlite σ) (now : Migration → Nat) (db : Database σ) : Prop where
  completes : (migrate sqlite now db).1 = ok () →
    Applied sqlite now db (pending db) (migrate sqlite now db).2 ∧
      ∀ version, version ∈ (migrate sqlite now db).2.versions ↔ version ∈ known
  fails : ∀ failure, (migrate sqlite now db).1 = error failure →
    failure.Refusal ∧ (migrate sqlite now db).2 = db ∨
      ∃ done migration rest thrown, failure = .migration migration.version thrown ∧
        pending db = done ++ migration :: rest ∧ Applied sqlite now db done (migrate sqlite now db).2
  ascending : ((pending db).map (·.version)).Pairwise (· < ·)
  succeeds : sqlite.Succeeds → Prefix db → (migrate sqlite now db).1 = ok ()
  refuses : ¬ Prefix db → ∃ failure, (migrate sqlite now db).1 = error failure ∧ failure.Refusal ∧
    (migrate sqlite now db).2 = db

variable {sqlite : Sqlite σ} {now : Migration → Nat} {db : Database σ}

theorem Sqlite.record_eq_ok {row : SchemaMigration} {db db' : Database σ}
    (h : sqlite.record row db = ok db') :
    db'.schema = db.schema ∧ db'.records = db.records ++ [row] := by
  obtain ⟨-, -, h⟩ := bind_eq_ok_iff.1 h
  split at h
  · cases h
    exact ⟨rfl, rfl⟩
  · cases h

theorem Sqlite.apply_eq_ok {migration : Migration} {db db' : Database σ}
    (h : sqlite.apply now migration db = ok db') :
    migration.statements.foldlM (fun schema statement => sqlite.exec statement schema) db.schema =
        ok db'.schema ∧
      db'.records = db.records ++ [⟨migration.version, migration.description, now migration⟩] := by
  obtain ⟨-, -, h⟩ := bind_eq_ok_iff.1 h
  obtain ⟨schema, hschema, h⟩ := bind_eq_ok_iff.1 h
  obtain ⟨recorded, hrecorded, h⟩ := bind_eq_ok_iff.1 h
  obtain ⟨-, -, h⟩ := bind_eq_ok_iff.1 h
  cases h
  obtain ⟨hkept, hrecords⟩ := record_eq_ok hrecorded
  exact ⟨hschema.trans (congrArg ok hkept.symm), hrecords⟩

theorem Applied.versions {migrations : List Migration} {db db' : Database σ}
    (h : Applied sqlite now db migrations db') :
    db'.versions = db.versions ++ migrations.map (·.version) := by
  induction h with
  | nil => exact (List.append_nil _).symm
  | cons hschema hrecords hrest ih =>
    rw [ih, Database.versions, hrecords, List.map_append, List.append_assoc]
    rfl

/-- The loop applies what is not applied, or stops at a migration that leaves nothing. By induction
    on the list, with any database reached so far. -/
theorem Sqlite.applyPending_spec (sqlite : Sqlite σ) (now : Migration → Nat) (applied : List Int)
    (migrations : List Migration) (db : Database σ) :
    (sqlite.applyPending now applied migrations db).1 = ok () ∧
        Applied sqlite now db (migrations.filter fun migration => migration.version ∉ applied)
          (sqlite.applyPending now applied migrations db).2 ∨
      ∃ done migration rest thrown,
        (sqlite.applyPending now applied migrations db).1 =
            error (.migration migration.version thrown) ∧
          (migrations.filter fun migration => migration.version ∉ applied) =
            done ++ migration :: rest ∧
          Applied sqlite now db done (sqlite.applyPending now applied migrations db).2 := by
  induction migrations generalizing db with
  | nil => exact .inl ⟨rfl, .nil db⟩
  | cons migration rest ih =>
    unfold applyPending
    by_cases happlied : migration.version ∈ applied
    · rw [if_pos happlied, List.filter_cons_of_neg (by simpa using happlied)]
      exact ih db
    · rw [if_neg happlied, List.filter_cons_of_pos (by simpa using happlied)]
      cases happly : sqlite.apply now migration db with
      | error thrown => exact .inr ⟨[], migration, _, thrown, rfl, rfl, .nil db⟩
      | ok next =>
        obtain ⟨hschema, hrecords⟩ := apply_eq_ok happly
        rcases ih next with ⟨hok, hrest⟩ | ⟨done, failing, after, thrown, hresult, htodo, hdone⟩
        · exact .inl ⟨hok, .cons hschema hrecords hrest⟩
        · exact .inr ⟨migration :: done, failing, after, thrown, hresult,
            congrArg (migration :: ·) htodo, .cons hschema hrecords hdone⟩

theorem Sqlite.Succeeds.foldlM (h : sqlite.Succeeds) (statements : List String) (schema : σ) :
    ∃ schema', statements.foldlM (fun schema statement => sqlite.exec statement schema) schema =
      ok schema' := by
  induction statements generalizing schema with
  | nil => exact ⟨schema, rfl⟩
  | cons statement rest ih =>
    obtain ⟨next, hnext⟩ := h.exec statement schema
    rw [List.foldlM_cons, hnext]
    exact ih next

theorem Sqlite.Succeeds.command_eq_ok (h : sqlite.Succeeds) (c : Command) (db : Database σ) :
    sqlite.command c db = ok () := by
  rw [Sqlite.command, h.command]

theorem Sqlite.Succeeds.apply_eq_ok (h : sqlite.Succeeds) {migration : Migration} {db : Database σ}
    (hfresh : migration.version ∉ db.versions) : ∃ db', sqlite.apply now migration db = ok db' := by
  obtain ⟨schema, hschema⟩ := h.foldlM migration.statements db.schema
  let row : SchemaMigration := ⟨migration.version, migration.description, now migration⟩
  refine ⟨⟨schema, db.records ++ [row], nodup_versions db.distinct hfresh⟩, ?_⟩
  have hrecord : sqlite.record row { db with schema := schema } =
      ok ⟨schema, db.records ++ [row], nodup_versions db.distinct hfresh⟩ := by
    rw [Sqlite.record, h.command_eq_ok]
    exact dif_pos hfresh
  refine bind_eq_ok_iff.2 ⟨(), h.command_eq_ok _ _, ?_⟩
  refine bind_eq_ok_iff.2 ⟨schema, hschema, ?_⟩
  refine bind_eq_ok_iff.2 ⟨_, hrecord, ?_⟩
  exact bind_eq_ok_iff.2 ⟨(), h.command_eq_ok _ _, rfl⟩

/-- Where no statement throws, neither does the loop. The versions that it has recorded are none of
    those that follow. -/
theorem Sqlite.Succeeds.applyPending (h : sqlite.Succeeds) {applied : List Int}
    {migrations : List Migration} {db : Database σ}
    (hdistinct : (migrations.map (·.version)).Nodup)
    (hfresh : ∀ migration ∈ migrations, migration.version ∉ applied →
      migration.version ∉ db.versions) :
    (sqlite.applyPending now applied migrations db).1 = ok () := by
  induction migrations generalizing db with
  | nil => rfl
  | cons migration rest ih =>
    obtain ⟨hnot, hrest⟩ := List.nodup_cons.1 hdistinct
    unfold Sqlite.applyPending
    by_cases happlied : migration.version ∈ applied
    · rw [if_pos happlied]
      exact ih hrest fun later hlater => hfresh later (List.mem_cons_of_mem _ hlater)
    · obtain ⟨next, hnext⟩ := @apply_eq_ok _ _ now h _ db
        (hfresh migration List.mem_cons_self happlied)
      rw [if_neg happlied, hnext]
      refine ih hrest fun later hlater hnew => ?_
      rw [Database.versions, (Sqlite.apply_eq_ok hnext).2, List.map_append, List.mem_append]
      rintro (hold | hsame)
      · exact hfresh later (List.mem_cons_of_mem _ hlater) hnew hold
      · have heq : later.version = migration.version := List.mem_singleton.1 hsame
        have hmem := List.mem_map_of_mem (f := (·.version)) hlater
        rw [heq] at hmem
        exact hnot hmem

/-- What `migrate` does, by the first thing that throws. -/
theorem migrate_cases (sqlite : Sqlite σ) (now : Migration → Nat) (db : Database σ) :
    (∃ c thrown, (c = .bookkeepingDdl ∨ c = .selectVersions) ∧ sqlite.throws c db = some thrown ∧
      migrate sqlite now db = (error (.bookkeeping thrown), db)) ∨
    (∃ version ∈ db.versions, version ∉ known ∧
      ∃ thrown, migrate sqlite now db = (error (.refused thrown), db)) ∨
    sqlite.throws .bookkeepingDdl db = none ∧ sqlite.throws .selectVersions db = none ∧
      (∀ version ∈ db.versions, version ∈ known) ∧
      migrate sqlite now db = sqlite.applyPending now db.versions.mergeSort MIGRATIONS db := by
  unfold migrate Sqlite.command
  cases hddl : sqlite.throws .bookkeepingDdl db with
  | some thrown => exact .inl ⟨_, thrown, .inl rfl, hddl, rfl⟩
  | none =>
    cases hselect : sqlite.throws .selectVersions db with
    | some thrown => exact .inl ⟨_, thrown, .inr rfl, hselect, rfl⟩
    | none =>
      dsimp only [Bind.bind, Except.bind]
      cases hfind : db.versions.mergeSort.find? (fun version => version ∉ known) with
      | some version =>
        have hmem := List.mem_mergeSort.1 (List.mem_of_find?_eq_some hfind)
        have hunknown := List.find?_some hfind
        exact .inr (.inl ⟨version, hmem, of_decide_eq_true hunknown, _, rfl⟩)
      | none =>
        refine .inr (.inr ⟨rfl, rfl, fun version hversion => ?_, rfl⟩)
        have hknown := List.find?_eq_none.1 hfind version (List.mem_mergeSort.2 hversion)
        simpa using hknown

theorem pending_eq (db : Database σ) :
    (MIGRATIONS.filter fun migration => migration.version ∉ db.versions.mergeSort) = pending db := by
  simp only [pending, List.mem_mergeSort]

theorem mem_pending_versions {db : Database σ} {version : Int} :
    version ∈ (pending db).map (·.version) ↔ version ∈ known ∧ version ∉ db.versions := by
  simp only [pending, known, List.mem_map, List.mem_filter, decide_eq_true_eq]
  constructor
  · rintro ⟨migration, ⟨hmem, hnew⟩, rfl⟩
    exact ⟨⟨migration, hmem, rfl⟩, hnew⟩
  · rintro ⟨⟨migration, hmem, rfl⟩, hnew⟩
    exact ⟨migration, ⟨hmem, hnew⟩, rfl⟩

theorem nodup_known : known.Nodup := by
  decide

theorem known_of_prefix {db : Database σ} (hungapped : Prefix db) {version : Int}
    (hversion : version ∈ db.versions) : version ∈ known := by
  obtain ⟨count, hcount⟩ := hungapped
  exact List.mem_of_mem_take ((hcount version).1 hversion)

theorem ascending_pending (db : Database σ) :
    ((pending db).map (·.version)).Pairwise (· < ·) := by
  have hknown : known.Pairwise (· < ·) := by decide
  exact hknown.sublist (List.filter_sublist.map _)

/-- Where no statement throws, what stops a migration is a version that is unknown. -/
theorem Sqlite.Succeeds.migrate (h : sqlite.Succeeds) {db : Database σ}
    (hknown : ∀ version ∈ db.versions, version ∈ known) :
    (migrate sqlite now db).1 = ok () := by
  rcases migrate_cases sqlite now db with ⟨c, thrown, -, hthrows, -⟩ |
    ⟨version, hversion, hunknown, -⟩ | ⟨-, -, -, heq⟩
  · rw [h.command] at hthrows
    cases hthrows
  · exact absurd (hknown version hversion) hunknown
  · rw [heq]
    refine h.applyPending nodup_known fun migration _ hnew => ?_
    rwa [List.mem_mergeSort] at hnew

/-- The versions, or the statements, that keep `migrate` from filling a gap. -/
def Ungapped (sqlite : Sqlite σ) (db : Database σ) : Prop :=
  Prefix db ∨ (∃ version ∈ db.versions, version ∉ known) ∨
    (sqlite.throws .bookkeepingDdl db).isSome ∨ (sqlite.throws .selectVersions db).isSome

theorem completes_migrate (h : (migrate sqlite now db).1 = ok ()) :
    Applied sqlite now db (pending db) (migrate sqlite now db).2 ∧
      ∀ version, version ∈ (migrate sqlite now db).2.versions ↔ version ∈ known := by
  rcases migrate_cases sqlite now db with ⟨c, thrown, -, -, heq⟩ | ⟨version, -, -, thrown, heq⟩ |
    ⟨-, -, hknown, heq⟩
  · rw [heq] at h
    cases h
  · rw [heq] at h
    cases h
  · have hspec := sqlite.applyPending_spec now db.versions.mergeSort MIGRATIONS db
    rw [pending_eq] at hspec
    rcases hspec with ⟨-, happlied⟩ | ⟨done, failing, rest, thrown, herror, -, -⟩
    · rw [heq]
      refine ⟨happlied, fun version => ?_⟩
      rw [happlied.versions, List.mem_append, mem_pending_versions]
      constructor
      · rintro (hold | ⟨hnew, -⟩)
        · exact hknown version hold
        · exact hnew
      · intro hversion
        by_cases hold : version ∈ db.versions
        · exact .inl hold
        · exact .inr ⟨hversion, hold⟩
    · rw [heq, herror] at h
      cases h

theorem fails_migrate {failure : MigrateFailure} (h : (migrate sqlite now db).1 = error failure) :
    failure.Refusal ∧ (migrate sqlite now db).2 = db ∨
      ∃ done migration rest thrown, failure = .migration migration.version thrown ∧
        pending db = done ++ migration :: rest ∧
        Applied sqlite now db done (migrate sqlite now db).2 := by
  rcases migrate_cases sqlite now db with ⟨c, thrown, -, -, heq⟩ | ⟨version, -, -, thrown, heq⟩ |
    ⟨-, -, -, heq⟩
  · rw [heq] at h ⊢
    cases h
    exact .inl ⟨trivial, rfl⟩
  · rw [heq] at h ⊢
    cases h
    exact .inl ⟨trivial, rfl⟩
  · have hspec := sqlite.applyPending_spec now db.versions.mergeSort MIGRATIONS db
    rw [pending_eq] at hspec
    rw [heq] at h ⊢
    rcases hspec with ⟨hok, -⟩ | ⟨done, migration, rest, thrown, herror, hpending, happlied⟩
    · rw [hok] at h
      cases h
    · rw [herror] at h
      cases h
      exact .inr ⟨done, migration, rest, thrown, rfl, hpending, happlied⟩

/-- A migration is begun exactly where the versions are known and the bookkeeping succeeds. -/
theorem refusal_iff :
    (∃ failure, (migrate sqlite now db).1 = error failure ∧ failure.Refusal ∧
        (migrate sqlite now db).2 = db) ↔
      (∃ version ∈ db.versions, version ∉ known) ∨
        (sqlite.throws .bookkeepingDdl db).isSome ∨ (sqlite.throws .selectVersions db).isSome := by
  rcases migrate_cases sqlite now db with ⟨c, thrown, hc, hthrows, heq⟩ |
    ⟨version, hversion, hunknown, thrown, heq⟩ | ⟨hddl, hselect, hknown, heq⟩
  · rw [heq]
    refine iff_of_true ⟨_, rfl, trivial, rfl⟩ (.inr ?_)
    rcases hc with rfl | rfl
    · exact .inl (hthrows ▸ rfl)
    · exact .inr (hthrows ▸ rfl)
  · rw [heq]
    exact iff_of_true ⟨_, rfl, trivial, rfl⟩ (.inl ⟨version, hversion, hunknown⟩)
  · refine iff_of_false ?_ ?_
    · rintro ⟨failure, herror, hrefusal, -⟩
      have hspec := sqlite.applyPending_spec now db.versions.mergeSort MIGRATIONS db
      rw [heq] at herror
      rcases hspec with ⟨hok, -⟩ | ⟨done, migration, rest, thrown, hfailed, -, -⟩
      · rw [hok] at herror
        cases herror
      · rw [hfailed] at herror
        cases herror
        exact hrefusal
    · rintro (⟨version, hversion, hunknown⟩ | hthrows | hthrows)
      · exact hunknown (hknown version hversion)
      · rw [hddl] at hthrows
        cases hthrows
      · rw [hselect] at hthrows
        cases hthrows

/-- A migration does what it is for where the recorded versions have no gap, or something stops it
    before it begins. -/
theorem migrates_iff_ungapped (sqlite : Sqlite σ) (now : Migration → Nat) (db : Database σ) :
    Migrates sqlite now db ↔ Ungapped sqlite db := by
  constructor
  · intro h
    by_cases hungapped : Prefix db
    · exact .inl hungapped
    · exact .inr (refusal_iff.1 (h.refuses hungapped))
  · intro h
    refine ⟨completes_migrate, fun _ => fails_migrate, ascending_pending db, ?_, fun hgap => ?_⟩
    · intro hsucceeds hungapped
      exact hsucceeds.migrate fun version => known_of_prefix hungapped
    · exact refusal_iff.2 (h.resolve_left hgap)

/-- SQLite with a schema that is the list of the statements executed. -/
def journalingSqlite : Sqlite (List String) where
  exec statement schema := ok (schema ++ [statement])
  throws _ _ := none

/-- A database that lacks the second migration. -/
def gapped : Database (List String) where
  schema := []
  records := [⟨1, "initial schema (spec §11)", 1769904000000⟩,
    ⟨3, "response/reclaim lifecycle: envelope message ids + reclaim capacity (Phase 8)",
      1769904000000⟩]
  distinct := by decide

/-- The second migration is applied behind the third. -/
theorem gap_filled : ¬ ∀ (sqlite : Sqlite (List String)) now db, Migrates sqlite now db := by
  intro h
  have hgap : ¬ Prefix gapped := by
    rintro ⟨count, hcount⟩
    have hthree := (hcount 3).1 (by decide)
    have htwo : (2 : Int) ∈ known.take count := by
      rcases count with - | - | - | count
      · exact absurd hthree (by decide)
      · exact absurd hthree (by decide)
      · exact absurd hthree (by decide)
      · exact List.mem_cons_of_mem _ List.mem_cons_self
    exact absurd ((hcount 2).2 htwo) (by decide)
  have hsucceeds : journalingSqlite.Succeeds := ⟨fun _ _ => ⟨_, rfl⟩, fun _ _ => rfl⟩
  obtain ⟨failure, herror, -, -⟩ := (h journalingSqlite (fun _ => 1769904000000) gapped).refuses hgap
  rw [hsucceeds.migrate (by decide)] at herror
  cases herror

end cemp.database
