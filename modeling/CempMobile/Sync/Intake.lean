import CempMobile.Database.Journal
import CempMobile.Ckb.Local
import CempMobile.Sync.Ingest

open cemp.core cemp.database cemp.database.MessageRepository cemp.ckb cemp.images

namespace cemp.sync

/-- The tokens a bucket has at a time. -/
def tokensAt (db : Db) (bucket : BucketName) (perHour : ℚ) (nowMs : Nat) : ℚ :=
  match RateLimitRepository.byBucket db bucket with
  | none => perHour
  | some state =>
    min perHour (state.tokens + (((nowMs - state.updatedAtMs : Nat) : ℚ) / HOUR_MS) * perHour)

/-- Whether the limiter admits one more incoming message of a sender. -/
def WithinRateLimit (config : RateLimiterConfig) (db : Db) (senderProfileId : ProfileId)
    (nowMs : Nat) : Prop :=
  1 ≤ tokensAt db ⟨.incoming, some senderProfileId⟩ config.perContactPerHour nowMs ∧
    1 ≤ tokensAt db ⟨.incoming, none⟩ config.globalPerHour nowMs

section RateLimit

/-- Reading a bucket touches no table but the limiter's, and no other bucket. -/
theorem refill_run (db : Db) (bucket : BucketName) (perHour : ℚ) (nowMs : Nat) :
    ∃ rateLimits, runLocal (refill bucket perHour nowMs) db =
        (.ok (tokensAt db bucket perHour nowMs), { db with rateLimits := rateLimits }) ∧
      ∀ other ≠ bucket, RateLimitRepository.byBucket { db with rateLimits := rateLimits } other =
        RateLimitRepository.byBucket db other := by
  have hread := runLocal_store (.getRateLimit bucket) db
  simp only [StoreOp.exec, RateLimitRepository.get, Method.read] at hread
  unfold refill tokensAt
  rw [Program.bind_eq_bind, runLocal_bind_ok hread]
  cases RateLimitRepository.byBucket db bucket with
  | some state => exact ⟨db.rateLimits, rfl, fun _ _ => rfl⟩
  | none =>
    have hset := runLocal_store (.setRateLimit ⟨bucket, perHour, nowMs⟩) db
    exact ⟨_, runLocal_bind_ok hset,
      fun other hne => RateLimitRepository.byBucket_withBucket_of_ne hne.symm⟩

/-- The limiter admits a message exactly when it is within the rate limit. -/
theorem consumeAt_run (config : RateLimiterConfig) (db : Db) (senderProfileId : ProfileId)
    (nowMs : Nat) :
    ∃ admitted rateLimits, runLocal (consumeAt config .incoming senderProfileId nowMs) db =
        (.ok admitted, { db with rateLimits := rateLimits }) ∧
      (admitted = true ↔ WithinRateLimit config db senderProfileId nowMs) := by
  obtain ⟨global, hglobal, hother⟩ :=
    refill_run db ⟨.incoming, none⟩ config.globalPerHour nowMs
  obtain ⟨contact, hcontact, -⟩ := refill_run { db with rateLimits := global }
    ⟨.incoming, some senderProfileId⟩ config.perContactPerHour nowMs
  have hsame : tokensAt { db with rateLimits := global } ⟨.incoming, some senderProfileId⟩
      config.perContactPerHour nowMs =
        tokensAt db ⟨.incoming, some senderProfileId⟩ config.perContactPerHour nowMs := by
    unfold tokensAt
    rw [hother _ (by simp)]
  rw [hsame] at hcontact
  unfold consumeAt
  rw [Program.bind_eq_bind, runLocal_bind_ok hglobal, Program.bind_eq_bind,
    runLocal_bind_ok hcontact]
  by_cases hlimit : WithinRateLimit config db senderProfileId nowMs
  · have hadmit : ¬(tokensAt db ⟨.incoming, some senderProfileId⟩ config.perContactPerHour nowMs < 1 ∨
        tokensAt db ⟨.incoming, none⟩ config.globalPerHour nowMs < 1) := by
      rintro (h | h)
      · exact absurd hlimit.1 (not_le.2 h)
      · exact absurd hlimit.2 (not_le.2 h)
    rw [if_neg hadmit, Program.bind_eq_bind, runLocal_bind_ok (runLocal_store _ _),
      Program.bind_eq_bind, runLocal_bind_ok (runLocal_store _ _)]
    exact ⟨true, _, rfl, by simp [hlimit]⟩
  · have hrefuse : tokensAt db ⟨.incoming, some senderProfileId⟩ config.perContactPerHour nowMs < 1 ∨
        tokensAt db ⟨.incoming, none⟩ config.globalPerHour nowMs < 1 := by
      by_contra h
      rw [not_or, not_lt, not_lt] at h
      exact hlimit h
    rw [if_pos hrefuse]
    exact ⟨false, contact, rfl, by simp [hlimit]⟩

end RateLimit

/-- The contact of a sender has the sender's profile id. -/
theorem contactOf_run (db : Db) (senderProfileId : ProfileId) :
    ∃ id contact contacts,
      runLocal (contactOf senderProfileId) db = (.ok id, { db with contacts := contacts }) ∧
      db.Grows { db with contacts := contacts } ∧
      contacts.get? id = some contact ∧ contact.profileIdHex = some senderProfileId := by
  have hread := runLocal_store (.getContactByProfileId senderProfileId) db
  simp only [StoreOp.exec, ContactRepository.getByProfileId, Method.read] at hread
  unfold contactOf
  rw [Program.bind_eq_bind, runLocal_bind_ok hread]
  cases hrow : ContactRepository.byProfileId db senderProfileId with
  | some row =>
    have hmem := Table.mem_of_first? hrow
    exact ⟨row.1, row.2, db.contacts, rfl, .refl db, Table.get?_eq_some.2 hmem.1,
      by simpa using hmem.2⟩
  | none =>
    let contact : Contact :=
      ⟨"unknown-" ++ bytesToHex (senderProfileId.take 4), some senderProfileId, false⟩
    have hfresh : db.contacts.Fresh contact := by
      intro r hr heq
      have hother := Table.first?_eq_none.1 hrow r hr
      simp only [Contact.key] at heq
      simp [heq, contact] at hother
    have hcreate : runLocal (store (.createContact contact)) db =
        (.ok db.contacts.nextId, { db with contacts := db.contacts.insert contact hfresh }) := by
      rw [runLocal_store]
      simp [StoreOp.exec, ContactRepository.create, hfresh]
    exact ⟨_, contact, _, hcreate,
      ⟨fun _ _ h => Table.get?_insert_of_some hfresh h, fun _ _ h => h⟩,
      Table.get?_insert_self hfresh, rfl⟩

/-- The conversation of a sender is with the sender. -/
theorem conversationOf_run (db : Db) (senderProfileId : ProfileId) :
    ∃ id contacts conversations,
      runLocal (conversationOf senderProfileId) db =
        (.ok id, { db with contacts := contacts, conversations := conversations }) ∧
      db.Grows { db with contacts := contacts, conversations := conversations } ∧
      conversationProfile { db with contacts := contacts, conversations := conversations } id =
        some senderProfileId := by
  obtain ⟨contactId, contact, contacts, hcontact, hgrows, hget, hprofile⟩ :=
    contactOf_run db senderProfileId
  unfold conversationOf
  rw [Program.bind_eq_bind, runLocal_bind_ok hcontact, runLocal_store]
  simp only [StoreOp.exec, ConversationRepository.getOrCreateForContact]
  cases hrow : ConversationRepository.byContact { db with contacts := contacts } contactId with
  | some row =>
    have hmem := Table.mem_of_first? hrow
    refine ⟨row.1, contacts, db.conversations, rfl, hgrows, ?_⟩
    have hcontactId : row.2.contactId = contactId := by simpa using hmem.2
    simp [conversationProfile, Table.get?_eq_some.2 hmem.1, hcontactId, hget, hprofile]
  | none =>
    have hfresh : db.conversations.Fresh ⟨contactId⟩ := by
      intro r hr heq
      have hother := Table.first?_eq_none.1 hrow r hr
      simp only [Conversation.key, Option.some.injEq] at heq
      simp [heq] at hother
    refine ⟨db.conversations.nextId, contacts, db.conversations.insert ⟨contactId⟩ hfresh, ?_, ?_, ?_⟩
    · simp [hfresh]
    · exact hgrows.trans ⟨fun _ _ h => h, fun _ _ h => Table.get?_insert_of_some hfresh h⟩
    · simp [conversationProfile, hget, hprofile]

/-- The manifests of a message that pass their check. -/
def acceptedManifests (incoming : IncomingTextMessage) : List AttachmentManifestV1 :=
  incoming.attachmentManifests.filter acceptsManifest

/-- What the row of a manifest holds of it. -/
def manifestRecord (attachmentKey : Bytes) (manifest : AttachmentManifestV1) :
    AttachmentRepository.AttachmentRecord :=
  ⟨manifest.plaintext_size, some manifest, some attachmentKey⟩

/-- The loop over the manifests leaves the record of the last accepted one. -/
theorem createManifests_run (db : Db) (rowId : Nat) (attachmentKey : Bytes)
    (manifests : List AttachmentManifestV1) :
    ∃ attachments,
      runLocal (Program.forEach
        (fun manifest =>
          if acceptsManifest manifest then
            store (.createAttachment (attachmentOf rowId attachmentKey manifest))
          else pure ()) manifests) db = (.ok (), { db with attachments := attachments }) ∧
      AttachmentRepository.recordsOf { db with attachments := attachments } rowId =
        match (manifests.filter acceptsManifest).getLast? with
        | none => AttachmentRepository.recordsOf db rowId
        | some manifest => [manifestRecord attachmentKey manifest] := by
  induction manifests generalizing db with
  | nil => exact ⟨db.attachments, rfl, rfl⟩
  | cons manifest manifests ih =>
    rw [Program.forEach_cons]
    by_cases hok : acceptsManifest manifest
    · have hrecords :=
        AttachmentRepository.recordsOf_create (attachmentOf rowId attachmentKey manifest) db
      obtain ⟨attachments, hrest, hlast⟩ :=
        ih (AttachmentRepository.create (attachmentOf rowId attachmentKey manifest) db).2
      have hstep := runLocal_store (.createAttachment (attachmentOf rowId attachmentKey manifest)) db
      refine ⟨attachments, ?_, ?_⟩
      · rw [if_pos hok]
        exact (runLocal_bind_ok hstep).trans hrest
      · refine Eq.trans hlast ?_
        rw [List.filter_cons_of_pos hok, List.getLast?_cons]
        cases (manifests.filter acceptsManifest).getLast? with
        | none => exact hrecords
        | some last => rfl
    · obtain ⟨attachments, hrest, hlast⟩ := ih db
      refine ⟨attachments, ?_, ?_⟩
      · rw [if_neg hok]
        exact hrest
      · rw [hlast, List.filter_cons_of_neg hok]

/-- What the records of a message are after its manifests are stored: those that were there, or the
    record of the last accepted manifest. -/
def keptRecords (incoming : IncomingTextMessage) :
    List AttachmentRepository.AttachmentRecord → List AttachmentRepository.AttachmentRecord
  | [] => (acceptedManifests incoming).getLast?.toList.map (manifestRecord incoming.attachmentKey)
  | stored => stored

/-- Storing the manifests of a message leaves its first attachment alone, and otherwise keeps
    the last accepted manifest. -/
theorem storeManifests_run (db : Db) (rowId : Nat) (incoming : IncomingTextMessage) :
    ∃ attachments,
      runLocal (storeManifests rowId incoming) db = (.ok (), { db with attachments := attachments }) ∧
      AttachmentRepository.recordsOf { db with attachments := attachments } rowId =
        keptRecords incoming (AttachmentRepository.recordsOf db rowId) := by
  unfold storeManifests
  by_cases hnone : incoming.attachmentManifests = []
  · refine ⟨db.attachments, by rw [if_pos hnone]; rfl, ?_⟩
    cases AttachmentRepository.recordsOf db rowId with
    | nil => simp [keptRecords, acceptedManifests, hnone]
    | cons record rest => rfl
  · have hread := runLocal_store (.listAttachments rowId) db
    simp only [StoreOp.exec, AttachmentRepository.listForMessage, Method.read] at hread
    rw [if_neg hnone, Program.bind_eq_bind, runLocal_bind_ok hread]
    cases hstored : AttachmentRepository.ofMessage db rowId with
    | cons a rest =>
      refine ⟨db.attachments, rfl, ?_⟩
      simp [AttachmentRepository.recordsOf, hstored, keptRecords]
    | nil =>
      obtain ⟨attachments, hrun, hlast⟩ :=
        createManifests_run db rowId incoming.attachmentKey incoming.attachmentManifests
      refine ⟨attachments, hrun, ?_⟩
      have hempty : AttachmentRepository.recordsOf db rowId = [] := by
        simp [AttachmentRepository.recordsOf, hstored]
      rw [hlast, hempty, keptRecords, acceptedManifests]
      cases (incoming.attachmentManifests.filter acceptsManifest).getLast? <;> rfl

/-- The manifests among the records. -/
theorem manifestsOf_of_records {db db' : Db} {rowId : Nat} {incoming : IncomingTextMessage}
    (h : AttachmentRepository.recordsOf db' rowId =
      keptRecords incoming (AttachmentRepository.recordsOf db rowId)) :
    AttachmentRepository.manifestsOf db' rowId =
      match AttachmentRepository.manifestsOf db rowId with
      | [] => (acceptedManifests incoming).getLast?.toList.map some
      | stored => stored := by
  rw [AttachmentRepository.manifestsOf_eq, AttachmentRepository.manifestsOf_eq, h]
  cases AttachmentRepository.recordsOf db rowId with
  | nil => simp [keptRecords, manifestRecord]
  | cons record rest => rfl

/-- What storing the row of a message leaves. A row under the message's logical id is kept as
    it is, whoever it is from; otherwise the message gets a new row in its sender's
    conversation. -/
structure RowStored (db : Db) (incoming : IncomingTextMessage) (conversationId rowId : Nat)
    (m : Message) (db' : Db) : Prop where
  grows : db.Grows db'
  profile : conversationProfile db' conversationId = some incoming.senderProfileId
  found : byLogicalId db' (incomingLogicalMessageId incoming.messageId) = some (rowId, m)
  others : ∀ other ≠ incomingLogicalMessageId incoming.messageId,
    byLogicalId db' other = byLogicalId db other
  kept : match byLogicalId db (incomingLogicalMessageId incoming.messageId) with
    | some row => (rowId, m) = row
    | none => rowId = db.messages.nextId ∧ m = (incomingRow incoming conversationId).row
  manifests : AttachmentRepository.manifestsOf db' rowId =
    match AttachmentRepository.manifestsOf db rowId with
    | [] => (acceptedManifests incoming).getLast?.toList.map some
    | stored => stored

/-- Ownership of a message does not depend on the rate limits. -/
theorem RowStored.of_rateLimits {db : Db} {incoming : IncomingTextMessage}
    {rateLimits : Table RateLimitBucket.key} {conversationId rowId : Nat} {m : Message} {db' : Db}
    (h : RowStored { db with rateLimits := rateLimits } incoming conversationId rowId m db') :
    RowStored db incoming conversationId rowId m db' :=
  ⟨⟨h.grows.contacts, h.grows.conversations⟩, h.profile, h.found, h.others, h.kept, h.manifests⟩

theorem storeRow_run (db : Db) (incoming : IncomingTextMessage) :
    ∃ conversationId rowId m db',
      runLocal (storeRow incoming) db = (.ok (conversationId, rowId, m), db') ∧
        RowStored db incoming conversationId rowId m db' ∧
        AttachmentRepository.recordsOf db' rowId =
          keptRecords incoming (AttachmentRepository.recordsOf db rowId) := by
  obtain ⟨conversationId, contacts, conversations, hconversation, hgrows, hprofile⟩ :=
    conversationOf_run db incoming.senderProfileId
  have hinsert := runLocal_store (.insertMessage (incomingRow incoming conversationId))
    { db with contacts := contacts, conversations := conversations }
  simp only [StoreOp.exec] at hinsert
  unfold storeRow
  rw [Program.bind_eq_bind, runLocal_bind_ok hconversation, Program.bind_eq_bind]
  cases hrow : byLogicalId db (incomingLogicalMessageId incoming.messageId) with
  | some row =>
    obtain ⟨rowId, m⟩ := row
    obtain ⟨attachments, hmanifests, hstored⟩ := storeManifests_run
      { db with contacts := contacts, conversations := conversations } rowId incoming
    rw [insert_existing hrow] at hinsert
    refine ⟨conversationId, rowId, m, _, ?_,
      ⟨?_, ?_, ?_, ?_, by rw [hrow], manifestsOf_of_records hstored⟩, hstored⟩
    · rw [runLocal_bind_ok hinsert, Program.bind_eq_bind, runLocal_bind_ok hmanifests]
      rfl
    · exact ⟨hgrows.contacts, hgrows.conversations⟩
    · exact hprofile
    · exact hrow
    · exact fun _ _ => rfl
  | none =>
    have hfresh : db.messages.Fresh (incomingRow incoming conversationId).row := fresh_iff.2 hrow
    obtain ⟨attachments, hmanifests, hstored⟩ := storeManifests_run
      { db with
        contacts := contacts, conversations := conversations
        messages := db.messages.insert (incomingRow incoming conversationId).row hfresh }
      db.messages.nextId incoming
    rw [insert_new hrow] at hinsert
    refine ⟨conversationId, db.messages.nextId, (incomingRow incoming conversationId).row, _,
      ?_, ⟨?_, ?_, ?_, ?_, by rw [hrow]; exact ⟨rfl, rfl⟩, manifestsOf_of_records hstored⟩, hstored⟩
    · rw [runLocal_bind_ok hinsert, Program.bind_eq_bind, runLocal_bind_ok hmanifests]
      rfl
    · exact ⟨hgrows.contacts, hgrows.conversations⟩
    · exact hprofile
    · exact (byLogicalId_insert hfresh _).trans (if_pos rfl)
    · exact fun other hother => (byLogicalId_insert hfresh other).trans (if_neg hother)

/-- What a later step must leave of a database: under every incoming logical id the same row
    with the same conversation and body, and everyone's manifests, contacts, conversations. -/
structure SameContent (db db' : Db) : Prop where
  row : ∀ messageId, (byLogicalId db' (.incoming messageId)).map
      (fun r => (r.1, r.2.direction, r.2.conversationId, r.2.body)) =
    (byLogicalId db (.incoming messageId)).map
      fun r => (r.1, r.2.direction, r.2.conversationId, r.2.body)
  manifests : ∀ rowId, AttachmentRepository.manifestsOf db' rowId =
    AttachmentRepository.manifestsOf db rowId
  contacts : db'.contacts = db.contacts
  conversations : db'.conversations = db.conversations

theorem SameContent.refl (db : Db) : SameContent db db :=
  ⟨fun _ => rfl, fun _ => rfl, rfl, rfl⟩

theorem SameContent.trans {db db' db'' : Db} (h : SameContent db db') (h' : SameContent db' db'') :
    SameContent db db'' :=
  ⟨fun id => (h'.row id).trans (h.row id), fun id => (h'.manifests id).trans (h.manifests id),
    h'.contacts.trans h.contacts, h'.conversations.trans h.conversations⟩

/-- The steps before and after the storing of a row: the block check, its advance, the
    receipts, the response. -/
def FollowsContent : (β : Type) → Op β → Prop
  | _, .store (.isBlockedByProfileId ..) => True
  | _, .store (.setEnvelopeMessageId ..) => True
  | _, .store (.setMessageChainRef ..) => True
  | _, .store (.setChainRef ..) => True
  | _, .store (.transitionMessage ..) => True
  | _, .store (.getMessageByLogicalId ..) => True
  | _, .store (.insertMessage input) => ∀ messageId, input.logicalMessageId ≠ .incoming messageId
  | _, .store (.findOutgoingByEnvelopeMessageId ..) => True
  | _, .store (.markAttachmentRemoteDownloaded ..) => True
  | _, .store (.getMessageJournalInfo ..) => True
  | _, .store (.markCapacityReclaimable ..) => True
  | _, .notify _ => True
  | _, _ => False

/-- A change of one row in place that keeps its identity and its content. -/
theorem sameContent_update {db : Db} {p : Nat → Message → Bool} {f : Message → Message}
    {keeps : ∀ m, (f m).key = m.key}
    (hsame : ∀ m, (f m).direction = m.direction ∧ (f m).conversationId = m.conversationId ∧
      (f m).body = m.body) :
    SameContent db { db with messages := db.messages.update p f keeps } := by
  refine ⟨fun messageId => ?_, fun _ => rfl, rfl, rfl⟩
  have hkey : ∀ m, (f m).logicalMessageId = m.logicalMessageId := fun m =>
    Option.some.inj (keeps m)
  unfold byLogicalId
  rw [Table.first?_update (by simp [hkey]), Option.map_map]
  refine congrFun (congrArg Option.map (funext fun r => ?_)) _
  simp only [Function.comp_apply]
  split <;> simp [hsame]

theorem sameContent_setMessageState (db : Db) (rowId : Nat) (target : MessageState) :
    SameContent db (setMessageState db rowId target) :=
  sameContent_update fun _ => ⟨withState_direction, withState_conversationId, withState_body⟩

/-- The response row of a message is under another logical id than any incoming one. -/
theorem sameContent_insert {db : Db} {input : NewMessage}
    (hother : ∀ messageId, input.logicalMessageId ≠ .incoming messageId) :
    SameContent db (MessageRepository.insert input db).2 := by
  cases hrow : byLogicalId db input.logicalMessageId with
  | some row =>
    rw [insert_existing hrow]
    exact .refl db
  | none =>
    rw [insert_new hrow]
    refine ⟨fun messageId => ?_, fun _ => rfl, rfl, rfl⟩
    rw [byLogicalId_insert (fresh_iff.2 hrow), if_neg fun h => hother messageId h.symm]

/-- Each such step keeps the content there is. -/
theorem FollowsContent.sameContent {β : Type} {op : Op β} {nowMs : Nat} {db db' : Db}
    {answer : Except Error β} (hop : FollowsContent β op)
    (heffect : localEffect nowMs β op db answer db') : SameContent db db' := by
  cases op with
  | store access =>
    have hdb' : db' = (access.exec db).2 := by
      simp only [localEffect] at heffect
      rw [heffect]
    subst hdb'
    cases access with
    | transitionMessage rowId target =>
      simp only [StoreOp.exec]
      rcases transitionState_frame rowId target db with h | h
      · rw [h]
        exact .refl db
      · rw [h]
        exact sameContent_setMessageState db rowId target
    | setEnvelopeMessageId rowId id =>
      simp only [StoreOp.exec, MessageRepository.setEnvelopeMessageId]
      split
      · exact sameContent_update fun _ => ⟨rfl, rfl, rfl⟩
      · exact .refl db
    | insertMessage input => exact sameContent_insert hop
    | markAttachmentRemoteDownloaded rowId =>
      exact ⟨fun _ => rfl, AttachmentRepository.manifestsOf_markRemoteDownloaded db rowId, rfl, rfl⟩
    | markCapacityReclaimable amount =>
      obtain ⟨balance, h⟩ := BalanceRepository.move_frame .reserved_shannon .reclaimable_shannon
        amount db
      simp only [StoreOp.exec, BalanceRepository.markReclaimable]
      rw [h]
      exact ⟨fun _ => rfl, fun _ => rfl, rfl, rfl⟩
    | setMessageChainRef rowId ref => exact ⟨fun _ => rfl, fun _ => rfl, rfl, rfl⟩
    | setChainRef ref => exact ⟨fun _ => rfl, fun _ => rfl, rfl, rfl⟩
    | isBlockedByProfileId id => exact .refl db
    | getMessageByLogicalId id => exact .refl db
    | findOutgoingByEnvelopeMessageId id => exact .refl db
    | getMessageJournalInfo rowId => exact .refl db
    | _ => exact absurd hop id
  | notify rowId =>
    obtain rfl : db' = db := heffect
    exact .refl db'
  | _ => exact absurd hop id

/-- Each such step keeps the records of the attachments. -/
theorem FollowsContent.records {β : Type} {op : Op β} {nowMs : Nat} {db db' : Db}
    {answer : Except Error β} (hop : FollowsContent β op)
    (heffect : localEffect nowMs β op db answer db') (messageId : Nat) :
    AttachmentRepository.recordsOf db' messageId = AttachmentRepository.recordsOf db messageId := by
  cases op with
  | store access =>
    have hdb' : db' = (access.exec db).2 := by
      simp only [localEffect] at heffect
      rw [heffect]
    subst hdb'
    refine recordsOf_exec (fun input hattach => ?_) db
    cases access with
    | createAttachment input => exact hop.elim
    | _ => cases hattach
  | notify rowId =>
    obtain rfl : db' = db := heffect
    rfl
  | _ => exact hop.elim

/-- The steps that advance a stored row. -/
def AdvancesRow : (β : Type) → Op β → Prop
  | _, .store (.setEnvelopeMessageId ..) => True
  | _, .store (.setMessageChainRef ..) => True
  | _, .store (.setChainRef ..) => True
  | _, .store (.transitionMessage ..) => True
  | _, .store (.getMessageByLogicalId ..) => True
  | _, .store (.insertMessage input) => ∀ messageId, input.logicalMessageId ≠ .incoming messageId
  | _, .notify _ => True
  | _, _ => False

theorem AdvancesRow.follows {β : Type} {op : Op β} (h : AdvancesRow β op) : FollowsContent β op := by
  cases op with
  | store access =>
    cases access with
    | insertMessage input => exact h
    | _ => first | exact h.elim | trivial
  | notify rowId => trivial
  | _ => exact h.elim

theorem queueAcknowledgement_advances (conversationId : Nat) (original : LogicalMessageId)
    (cell : OutPoint) : Program.Uses AdvancesRow (queueAcknowledgement conversationId original cell) := by
  refine (Program.uses_perform.2 trivial).bind fun existing => ?_
  cases existing with
  | some _ => trivial
  | none =>
    refine Program.Uses.bind (Program.uses_perform.2 ?_) fun row => Program.uses_perform.2 trivial
    intro messageId h
    cases h

theorem advanceIncomingToReceived_advances (messageId : Nat) (source : MessageState)
    (context : AdvanceContext) :
    Program.Uses AdvancesRow (advanceIncomingToReceived messageId source context) := by
  unfold advanceIncomingToReceived
  split
  · trivial
  · refine Program.Uses.bind (Program.Uses.forEach fun _ _ => Program.uses_perform.2 trivial) fun _ =>
      Program.Uses.bind (Program.uses_perform.2 trivial) fun _ => ?_
    split
    · trivial
    · exact queueAcknowledgement_advances _ _ _

theorem advanceInserted_advances (incoming : IncomingTextMessage) (source : Option OutPoint)
    (conversationId : Nat) (inserted : Nat × Message) :
    Program.Uses AdvancesRow (advanceInserted incoming source conversationId inserted) := by
  unfold advanceInserted
  split
  · refine (Program.uses_perform.2 trivial).bind fun _ => ?_
    cases source with
    | none => exact advanceIncomingToReceived_advances _ _ _
    | some cell =>
      exact (Program.uses_perform.2 trivial).bind fun _ => advanceIncomingToReceived_advances _ _ _
  · trivial

theorem advanceInserted_follows (incoming : IncomingTextMessage) (source : Option OutPoint)
    (conversationId : Nat) (inserted : Nat × Message) :
    Program.Uses FollowsContent (advanceInserted incoming source conversationId inserted) :=
  (advanceInserted_advances incoming source conversationId inserted).mono fun _ _ h => h.follows

/-- The steps of applying a receipt. -/
def AppliesReceipt : (β : Type) → Op β → Prop
  | _, .store (.findOutgoingByEnvelopeMessageId ..) => True
  | _, .store (.transitionMessage ..) => True
  | _, .store (.markAttachmentRemoteDownloaded ..) => True
  | _, .store (.getMessageJournalInfo ..) => True
  | _, .store (.markCapacityReclaimable ..) => True
  | _, _ => False

theorem AppliesReceipt.access {β : Type} {op : Op β} (h : AppliesReceipt β op) : IsAccess β op := by
  cases op with
  | store access => trivial
  | _ => exact h

theorem AppliesReceipt.follows {β : Type} {op : Op β} (h : AppliesReceipt β op) :
    FollowsContent β op := by
  cases op with
  | store access =>
    cases access <;> first | exact h.elim | trivial
  | _ => exact h.elim

theorem queueForReclaim_applies (rowId : Nat) (state : MessageState) :
    Program.Uses AppliesReceipt (queueForReclaim rowId state) := by
  have access : ∀ target, Program.Uses AppliesReceipt (store (.transitionMessage rowId target)) :=
    fun _ => Program.uses_perform.2 trivial
  unfold queueForReclaim
  have last : Program.Uses AppliesReceipt
      (if state ≠ .acknowledged then
        (store (.transitionMessage rowId .acknowledged)).bind
          fun _ => store (.transitionMessage rowId .reclaim_queued)
      else store (.transitionMessage rowId .reclaim_queued)) := by
    split
    · exact (access _).bind fun _ => access _
    · exact access _
  by_cases havailable : state = .available_on_chain
  · rw [if_pos havailable]
    exact (access _).bind fun _ => last
  · rw [if_neg havailable]
    exact last

theorem applyReceipt_applies (receipt : Receipt) :
    Program.Uses AppliesReceipt (applyReceipt receipt) := by
  unfold applyReceipt
  split
  · refine (Program.uses_perform.2 trivial).bind fun target => ?_
    cases target with
    | none => trivial
    | some row => exact (Program.uses_perform.2 trivial).bind fun _ => trivial
  · split
    · trivial
    · refine (Program.uses_perform.2 trivial).bind fun found => ?_
      cases found with
      | none => trivial
      | some row =>
        simp only
        split
        · trivial
        · refine Program.Uses.bind (queueForReclaim_applies _ _) fun _ =>
            (Program.uses_perform.2 trivial).bind fun journal => ?_
          split
          · exact (Program.uses_perform.2 trivial).bind fun _ => trivial
          · trivial

theorem processAcknowledgements_applies (receipts : List Receipt) :
    Program.Uses AppliesReceipt (processAcknowledgements receipts) := by
  induction receipts with
  | nil => trivial
  | cons receipt receipts ih =>
    exact (applyReceipt_applies receipt).bind fun _ => ih.bind fun _ => trivial

theorem processAcknowledgements_follows (receipts : List Receipt) :
    Program.Uses FollowsContent (processAcknowledgements receipts) :=
  (processAcknowledgements_applies receipts).mono fun _ _ h => h.follows

section Access

theorem refill_access (bucket : BucketName) (perHour : ℚ) (nowMs : Nat) :
    Program.Uses IsAccess (refill bucket perHour nowMs) := by
  refine (Program.uses_perform.2 trivial).bind fun existing => ?_
  cases existing with
  | none => exact (Program.uses_perform.2 trivial).bind fun _ => trivial
  | some _ => trivial

theorem consumeAt_access (config : RateLimiterConfig) (senderProfileId : ProfileId) (nowMs : Nat) :
    Program.Uses IsAccess (consumeAt config .incoming senderProfileId nowMs) := by
  refine (refill_access _ _ _).bind fun global => (refill_access _ _ _).bind fun contact => ?_
  split
  · trivial
  · exact (Program.uses_perform.2 trivial).bind fun _ =>
      (Program.uses_perform.2 trivial).bind fun _ => trivial

theorem conversationOf_access (senderProfileId : ProfileId) :
    Program.Uses IsAccess (conversationOf senderProfileId) := by
  refine Program.Uses.bind ?_ fun _ => Program.uses_perform.2 trivial
  refine (Program.uses_perform.2 trivial).bind fun contact => ?_
  cases contact with
  | none => exact Program.uses_perform.2 trivial
  | some _ => trivial

theorem storeManifests_access (rowId : Nat) (incoming : IncomingTextMessage) :
    Program.Uses IsAccess (storeManifests rowId incoming) := by
  unfold storeManifests
  split
  · trivial
  · refine (Program.uses_perform.2 trivial).bind fun existing => ?_
    split
    · refine Program.Uses.forEach fun manifest _ => ?_
      split
      · exact Program.uses_perform.2 trivial
      · trivial
    · trivial

theorem processAcknowledgements_access (receipts : List Receipt) :
    Program.Uses IsAccess (processAcknowledgements receipts) :=
  (processAcknowledgements_applies receipts).mono fun _ _ h => h.access

theorem storeRow_access (incoming : IncomingTextMessage) :
    Program.Uses IsAccess (storeRow incoming) :=
  (conversationOf_access _).bind fun _ => (Program.uses_perform.2 trivial).bind fun _ =>
    (storeManifests_access _ _).bind fun _ => trivial

end Access

section Content

variable {config : RateLimiterConfig} {incoming : IncomingTextMessage} {source : Option OutPoint}
  {nowMs : Nat} {db db' : Db} {out : Except Error Unit}

/-- What follows the storing of a row: its advance, and the receipts of the message. -/
def afterRow (incoming : IncomingTextMessage) (source : Option OutPoint) (conversationId : Nat)
    (inserted : Nat × Message) : Prog Unit :=
  (advanceInserted incoming source conversationId inserted).bind fun _ =>
    if 0 < incoming.receipts.length then
      (processAcknowledgements incoming.receipts).bind fun _ => Program.ret ()
    else Program.ret ()

theorem afterRow_follows {conversationId : Nat} {inserted : Nat × Message} :
    Program.Uses FollowsContent (afterRow incoming source conversationId inserted) := by
  refine (advanceInserted_follows _ _ _ _).bind fun _ => ?_
  split
  · exact (processAcknowledgements_follows _).bind fun _ => trivial
  · trivial

/-- It keeps the content, however far it gets. -/
theorem afterRow_sameContent {conversationId : Nat} {inserted : Nat × Message}
    (hrun : Program.Runs (localEffect nowMs) (afterRow incoming source conversationId inserted) db
      out db') : SameContent db db' := by
  refine hrun.preserves afterRow_follows ?_ (.refl db)
  intro β op s r s' hop heffect hs
  exact hs.trans (hop.sameContent heffect)

/-- And it keeps the records of all attachments. -/
theorem afterRow_records {conversationId messageId : Nat} {inserted : Nat × Message}
    (hrun : Program.Runs (localEffect nowMs) (afterRow incoming source conversationId inserted) db
      out db') :
    AttachmentRepository.recordsOf db' messageId = AttachmentRepository.recordsOf db messageId := by
  refine @Program.Runs.preserves _ _ _ _ _ _ _ _
    (fun s => AttachmentRepository.recordsOf s messageId = AttachmentRepository.recordsOf db messageId)
    _ _ hrun afterRow_follows ?_ rfl
  intro β op s r s' hop heffect hs
  exact (hop.records heffect messageId).trans hs

/-- A content message of an unblocked sender within the rate limit has its row stored first. -/
theorem ingestMessage_stored
    (hunblocked : ContactRepository.blockedProfile db incoming.senderProfileId = false)
    (hlimit : WithinRateLimit config db incoming.senderProfileId nowMs)
    (hcontent : isPureAcknowledgement incoming = false)
    (hrun : Program.Runs (localEffect nowMs) (ingestMessage config incoming source) db out db') :
    ∃ conversationId rowId m stored, RowStored db incoming conversationId rowId m stored ∧
      AttachmentRepository.recordsOf stored rowId =
        keptRecords incoming (AttachmentRepository.recordsOf db rowId) ∧
      Program.Runs (localEffect nowMs) (afterRow incoming source conversationId (rowId, m)) stored
        out db' := by
  have hblocked : runLocal (store (.isBlockedByProfileId incoming.senderProfileId)) db =
      (.ok false, db) := by
    rw [runLocal_store, ← hunblocked]
    rfl
  obtain ⟨admitted, rateLimits, hconsume, hadmitted⟩ :=
    consumeAt_run config db incoming.senderProfileId nowMs
  obtain rfl := hadmitted.2 hlimit
  obtain ⟨conversationId, rowId, m, stored, hstore, hstored, hrecords⟩ :=
    storeRow_run { db with rateLimits := rateLimits } incoming
  unfold ingestMessage at hrun
  rw [Program.bind_eq_bind, runs_localEffect_bind (uses_store _) hblocked] at hrun
  simp only [hcontent, Bool.false_eq_true, if_false, consume, Program.bind_eq_bind,
    Program.bind_assoc] at hrun
  rw [runs_localEffect_now, runs_localEffect_bind (consumeAt_access _ _ _) hconsume] at hrun
  simp only [not_true_eq_false, if_false, storeContent, Program.bind_eq_bind,
    Program.bind_assoc] at hrun
  rw [runs_localEffect_bind (storeRow_access _) hstore] at hrun
  exact ⟨conversationId, rowId, m, stored, hstored.of_rateLimits, hrecords, hrun⟩

/-- Everything after that keeps the row. -/
theorem ingestMessage_content
    (hunblocked : ContactRepository.blockedProfile db incoming.senderProfileId = false)
    (hlimit : WithinRateLimit config db incoming.senderProfileId nowMs)
    (hcontent : isPureAcknowledgement incoming = false)
    (hrun : Program.Runs (localEffect nowMs) (ingestMessage config incoming source) db out db') :
    ∃ conversationId rowId m stored, RowStored db incoming conversationId rowId m stored ∧
      SameContent stored db' := by
  obtain ⟨conversationId, rowId, m, stored, hstored, -, hafter⟩ :=
    ingestMessage_stored hunblocked hlimit hcontent hrun
  exact ⟨conversationId, rowId, m, stored, hstored, afterRow_sameContent hafter⟩

/-- The steps of the ingest: accesses, readings of the clock and notifications. -/
def IsLocal : (β : Type) → Op β → Prop
  | _, .store _ => True
  | _, .now => True
  | _, .notify _ => True
  | _, _ => False

theorem ingestMessage_local (config : RateLimiterConfig) (incoming : IncomingTextMessage)
    (source : Option OutPoint) : Program.Uses IsLocal (ingestMessage config incoming source) := by
  have access : ∀ (β : Type) (op : Op β), IsAccess β op → IsLocal β op := by
    intro β op h
    cases op <;> trivial
  have follows : ∀ (β : Type) (op : Op β), FollowsContent β op → IsLocal β op := by
    intro β op h
    cases op <;> trivial
  have receipts : Program.Uses IsLocal (processAcknowledgements incoming.receipts) :=
    (processAcknowledgements_follows _).mono follows
  refine (Program.uses_perform.2 trivial).bind fun blocked => ?_
  split
  · trivial
  · split
    · exact receipts.bind fun _ => trivial
    · refine Program.Uses.bind ?_ fun admitted => ?_
      · exact (Program.uses_perform.2 trivial).bind fun nowMs =>
          (consumeAt_access _ _ nowMs).mono access
      · split
        · trivial
        · refine Program.Uses.bind ?_ fun _ => ?_
          · exact ((storeRow_access _).mono access).bind fun stored =>
              (advanceInserted_follows _ _ _ _).mono follows
          · split
            · exact receipts.bind fun _ => trivial
            · trivial

/-- A message consumed as an acknowledgement stores nothing. -/
theorem ingestMessage_acknowledgement
    (hpure : isPureAcknowledgement incoming = true)
    (hrun : Program.Runs (localEffect nowMs) (ingestMessage config incoming source) db out db') :
    SameContent db db' := by
  have huses : Program.Uses FollowsContent (ingestMessage config incoming source) := by
    refine (Program.uses_perform.2 trivial).bind fun blocked => ?_
    split
    · trivial
    · exact (processAcknowledgements_follows _).bind fun _ => trivial
  refine hrun.preserves huses ?_ (.refl db)
  intro β op s r s' hop heffect hs
  exact hs.trans (hop.sameContent heffect)

end Content

end cemp.sync
