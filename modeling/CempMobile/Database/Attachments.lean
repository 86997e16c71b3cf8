import CempMobile.Database.Schema

open cemp.core

namespace cemp.database

namespace AttachmentRepository

/-- What a re-created attachment keeps of the stored one: its state and its download flag. -/
def replaced (input old : Attachment) : Attachment :=
  { old with
    kind := input.kind, byteLength := input.byteLength, manifest := input.manifest,
    attachmentKey := input.attachmentKey }

theorem key_replaced (input old : Attachment) : (replaced input old).key = old.key := rfl

def remotelyDownloaded (a : Attachment) : Attachment := { a with remoteDownloaded := true }

theorem key_remotelyDownloaded (a : Attachment) : (remotelyDownloaded a).key = a.key := rfl

theorem remotelyDownloaded_remotelyDownloaded (a : Attachment) :
    remotelyDownloaded (remotelyDownloaded a) = remotelyDownloaded a := rfl

/-- `ON CONFLICT (message_id) DO UPDATE`: a second attachment of a message replaces what the
    first one holds, except its state and its download flag. -/
def create (input : Attachment) : Method Unit := fun db =>
  (.ok (), { db with
    attachments := db.attachments.upsert input replaced (key_replaced input) })

def ofMessage (db : Db) (messageId : Nat) : List (Nat × Attachment) :=
  db.attachments.select fun a => a.messageId == messageId

def listForMessage (messageId : Nat) : Method (List (Nat × Attachment)) :=
  .read fun db => ofMessage db messageId

/-- The manifests stored for a message. -/
def manifestsOf (db : Db) (messageId : Nat) : List (Option AttachmentManifestV1) :=
  (ofMessage db messageId).map (·.2.manifest)

/-- What an attachment row holds of its image: its size, its manifest and its key. -/
structure AttachmentRecord where
  byteLength : Nat
  manifest : Option AttachmentManifestV1
  attachmentKey : Option Bytes
  deriving DecidableEq, Repr

def recordOf (a : Attachment) : AttachmentRecord := ⟨a.byteLength, a.manifest, a.attachmentKey⟩

/-- The records stored for a message. -/
def recordsOf (db : Db) (messageId : Nat) : List AttachmentRecord :=
  (ofMessage db messageId).map fun r => recordOf r.2

theorem manifestsOf_eq (db : Db) (messageId : Nat) :
    manifestsOf db messageId = (recordsOf db messageId).map (·.manifest) := by
  simp only [manifestsOf, recordsOf, List.map_map, Function.comp_def, recordOf]

/-- The key of the table allows a message one attachment. -/
theorem recordsOf_length (db : Db) (messageId : Nat) : (recordsOf db messageId).length ≤ 1 := by
  rw [recordsOf, List.length_map]
  have hunique := db.attachments.unique.filter fun r => r.2.messageId == messageId
  match hrows : db.attachments.rows.filter fun r => r.2.messageId == messageId with
  | [] => simp [ofMessage, Table.select, hrows]
  | [r] => simp [ofMessage, Table.select, hrows]
  | r :: r' :: rest =>
    rw [hrows, List.pairwise_cons] at hunique
    have hfirst : r ∈ db.attachments.rows.filter fun r => r.2.messageId == messageId := by
      simp [hrows]
    have hsecond : r' ∈ db.attachments.rows.filter fun r => r.2.messageId == messageId := by
      simp [hrows]
    have hmessage := (List.mem_filter.1 hfirst).2
    have hmessage' := (List.mem_filter.1 hsecond).2
    rw [beq_iff_eq] at hmessage hmessage'
    have hnone := hunique.1 r' List.mem_cons_self (by simp [Attachment.key, hmessage, hmessage'])
    cases hnone

/-- A message has one attachment: the one created last. -/
theorem recordsOf_create (input : Attachment) (db : Db) :
    recordsOf (create input db).2 input.messageId = [recordOf input] := by
  have hselect : ∀ b : Attachment, (b.messageId == input.messageId) = true → b.key = input.key := by
    intro b hb
    simpa [Attachment.key] using hb
  have hkey : input.key ≠ none := by simp [Attachment.key]
  obtain ⟨r, hr, hrkey, hcases⟩ := Table.exists_mem_upsert db.attachments input (key_replaced input)
  have hmessage : r.2.messageId = input.messageId := by simpa [Attachment.key] using hrkey
  have hrecord : recordOf r.2 = recordOf input := by
    rcases hcases with h | ⟨old, h⟩ <;> rw [h]
    rfl
  unfold recordsOf ofMessage
  simp only [create]
  rw [Table.select_of_key hselect hkey hr (by simp [hmessage]), List.map_singleton, hrecord]

theorem manifestsOf_create (input : Attachment) (db : Db) :
    ∃ attachments, create input db = (.ok (), { db with attachments := attachments }) ∧
      manifestsOf { db with attachments := attachments } input.messageId = [input.manifest] := by
  refine ⟨_, rfl, ?_⟩
  rw [manifestsOf_eq]
  exact congrArg (List.map (·.manifest)) (recordsOf_create input db)

theorem recordsOf_create_of_ne {input : Attachment} {messageId : Nat}
    (hne : input.messageId ≠ messageId) (db : Db) :
    recordsOf (create input db).2 messageId = recordsOf db messageId := by
  unfold recordsOf ofMessage create
  rw [Table.select_upsert_of_ne]
  intro b hkey
  have hmessage : b.messageId = input.messageId := by simpa [Attachment.key] using hkey
  simp [hmessage, hne]

/-- A message without an attachment is left alone. -/
def markRemoteDownloaded (messageId : Nat) : Method Unit := fun db =>
  (.ok (), { db with
    attachments := db.attachments.update (fun _ a => a.messageId == messageId)
      remotelyDownloaded key_remotelyDownloaded })

/-- Flagging a download keeps the records. -/
theorem recordsOf_markRemoteDownloaded (db : Db) (messageId rowId : Nat) :
    recordsOf (markRemoteDownloaded messageId db).2 rowId = recordsOf db rowId := by
  unfold recordsOf ofMessage markRemoteDownloaded
  rw [Table.select_update (by simp [remotelyDownloaded]), List.map_map]
  refine List.map_congr_left fun r _ => ?_
  simp only [Function.comp_apply]
  split <;> rfl

theorem manifestsOf_markRemoteDownloaded (db : Db) (messageId rowId : Nat) :
    manifestsOf (markRemoteDownloaded messageId db).2 rowId = manifestsOf db rowId := by
  rw [manifestsOf_eq, manifestsOf_eq, recordsOf_markRemoteDownloaded]

/-- Whether an attachment of a message is flagged as downloaded by its recipient. -/
def Downloaded (db : Db) (messageId : Nat) : Prop :=
  ∃ r ∈ db.attachments.rows, r.2.messageId = messageId ∧ r.2.remoteDownloaded = true

/-- A stored attachment keeps its flag, a new one has the input's. -/
theorem downloaded_create {input : Attachment} (hnew : input.remoteDownloaded = false) {db : Db}
    {messageId : Nat} (h : Downloaded (create input db).2 messageId) : Downloaded db messageId := by
  obtain ⟨r, hmem, hmessage, hflag⟩ := h
  simp only [create, Table.upsert] at hmem
  split at hmem
  · obtain hold | rfl := Table.mem_insert.1 hmem
    · exact ⟨r, hold, hmessage, hflag⟩
    · rw [hnew] at hflag
      cases hflag
  · obtain ⟨old, hold, hval⟩ := Table.mem_update.1 hmem
    refine ⟨(r.1, old), hold, ?_⟩
    split at hval
    · rw [hval] at hmessage hflag
      exact ⟨hmessage, hflag⟩
    · rw [← hval]
      exact ⟨hmessage, hflag⟩

/-- Flagging a row flags no other one. -/
theorem downloaded_markRemoteDownloaded {db : Db} {rowId messageId : Nat}
    (h : Downloaded (markRemoteDownloaded rowId db).2 messageId) :
    messageId = rowId ∨ Downloaded db messageId := by
  obtain ⟨r, hmem, hmessage, hflag⟩ := h
  obtain ⟨old, hold, hval⟩ := Table.mem_update.1 hmem
  split at hval
  next hrow =>
    left
    rw [hval] at hmessage
    exact hmessage.symm.trans (beq_iff_eq.1 hrow)
  next =>
    right
    rw [hval] at hmessage hflag
    exact ⟨(r.1, old), hold, hmessage, hflag⟩

end AttachmentRepository

namespace WatchedOutpointRepository

/-- `ON CONFLICT (tx_hash, outpoint_index) DO NOTHING`. -/
def register (outPoint : OutPoint) (purpose : WatchPurpose) : Method Unit := fun db =>
  if fresh : db.watchedOutpoints.Fresh ⟨outPoint, purpose, .watching, none⟩ then
    (.ok (), { db with
      watchedOutpoints :=
        db.watchedOutpoints.insert ⟨outPoint, purpose, .watching, none⟩ fresh })
  else (.ok (), db)

def listActive : Method (List WatchedOutpoint) := .read fun db =>
  (db.watchedOutpoints.select fun w => w.status == .watching).map (·.2)

def spentWatch (spentBy : Spender) (w : WatchedOutpoint) : WatchedOutpoint :=
  { w with status := .spent, spentByTxHash := some spentBy }

theorem key_spentWatch (spentBy : Spender) (w : WatchedOutpoint) :
    (spentWatch spentBy w).key = w.key := rfl

/-- Marking again by the same spender does nothing, by another one throws. -/
def markSpent (outPoint : OutPoint) (spentBy : Spender) : Method Unit := fun db =>
  match db.watchedOutpoints.first? fun w => w.outPoint == outPoint with
  | none => (.error (.database .not_found ("outpoint " ++ toString outPoint.txHash ++ ":" ++
      toString outPoint.index ++ " is not watched")), db)
  | some (_, current) =>
    if current.status = .spent then
      if current.spentByTxHash = some spentBy then (.ok (), db)
      else (.error (.database .constraint_violation
        "outpoint already recorded spent by a different transaction"), db)
    else
      (.ok (), { db with
        watchedOutpoints := db.watchedOutpoints.update (fun _ w => w.outPoint == outPoint)
          (spentWatch spentBy) (key_spentWatch spentBy) })

/-- Deletes the spent watches and counts them. -/
def pruneSpent : Method Nat := fun db =>
  (.ok (db.watchedOutpoints.select fun w => w.status == .spent).length, { db with
    watchedOutpoints := db.watchedOutpoints.delete fun w => w.status == .spent })

end WatchedOutpointRepository

end cemp.database
