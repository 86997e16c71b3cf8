import CempMobile.Sync.Intake

open cemp.core cemp.database cemp.database.MessageRepository cemp.ckb cemp.images

namespace cemp.sync

/-- Whether a message carries content: a text, or at least one manifest. -/
def CarriesContent (incoming : IncomingTextMessage) : Prop :=
  incoming.text ≠ "" ∨ incoming.attachmentManifests ≠ []

/-- A message was not taken for a mere acknowledgement, and it has an incoming row, in its
    sender's conversation, with its text where the row is new, and with every manifest that
    was accepted. -/
structure ContentKept (db : Db) (incoming : IncomingTextMessage) (db' : Db) : Prop where
  classified : isPureAcknowledgement incoming = false
  row : ∃ rowId m, byLogicalId db' (incomingLogicalMessageId incoming.messageId) = some (rowId, m) ∧
    m.direction = .incoming ∧
    conversationProfile db' m.conversationId = some incoming.senderProfileId ∧
    (byLogicalId db (incomingLogicalMessageId incoming.messageId) = none →
      m.body = some incoming.text) ∧
    ∀ manifest ∈ acceptedManifests incoming,
      some manifest ∈ AttachmentRepository.manifestsOf db' rowId

/-- All accepted manifests of the message are the same one. -/
def OneManifest (incoming : IncomingTextMessage) : Prop :=
  ∀ manifest ∈ acceptedManifests incoming, ∀ other ∈ acceptedManifests incoming, manifest = other

instance (incoming : IncomingTextMessage) : Decidable (OneManifest incoming) :=
  inferInstanceAs (Decidable (∀ manifest ∈ _, ∀ other ∈ _, manifest = other))

/-- When the content of a message is kept: it has text or no receipts, and a row that is
    already stored under its id is the same sender's. The row keeps one manifest, the one
    stored before or the only accepted one. -/
def KeepsContent (db : Db) (incoming : IncomingTextMessage) : Prop :=
  (incoming.text ≠ "" ∨ incoming.receipts = []) ∧
    match byLogicalId db (incomingLogicalMessageId incoming.messageId) with
    | none => OneManifest incoming
    | some (rowId, m) =>
      m.direction = .incoming ∧
        conversationProfile db m.conversationId = some incoming.senderProfileId ∧
        match AttachmentRepository.manifestsOf db rowId with
        | [] => OneManifest incoming
        | stored => ∀ manifest ∈ acceptedManifests incoming, some manifest ∈ stored

theorem isPureAcknowledgement_eq_false {incoming : IncomingTextMessage} :
    isPureAcknowledgement incoming = false ↔ incoming.text ≠ "" ∨ incoming.receipts = [] := by
  unfold isPureAcknowledgement
  rw [Bool.and_eq_false_iff]
  simp

/-- The last of some manifests is all of them only when they are all the same. -/
theorem last_covers_iff {manifests : List AttachmentManifestV1} :
    (∀ manifest ∈ manifests, some manifest ∈ manifests.getLast?.toList.map some) ↔
      ∀ manifest ∈ manifests, ∀ other ∈ manifests, manifest = other := by
  cases hlast : manifests.getLast? with
  | none => simp [List.getLast?_eq_none_iff.1 hlast]
  | some last =>
    have hmem := List.mem_of_getLast? hlast
    constructor
    · intro h manifest hmanifest other hother
      have hfirst : manifest = last := by simpa using h manifest hmanifest
      have hsecond : other = last := by simpa using h other hother
      rw [hfirst, hsecond]
    · intro h manifest hmanifest
      simp [h manifest hmanifest last hmem]

/-- A message of the database keeps its conversation partner while contacts are added. -/
theorem conversationProfile_grows {db db' : Db} (hrefs : db.References) (h : db.Grows db')
    {rowId : Nat} {m : Message} (hget : db.messages.get? rowId = some m) :
    conversationProfile db' m.conversationId = conversationProfile db m.conversationId := by
  obtain ⟨conversation, hconversation⟩ :=
    Option.isSome_iff_exists.1 (hrefs.conversation _ (Table.get?_eq_some.1 hget))
  obtain ⟨contact, hcontact⟩ :=
    Option.isSome_iff_exists.1 (hrefs.contact _ (Table.get?_eq_some.1 hconversation))
  simp only [conversationProfile, hconversation, Option.bind_some, hcontact,
    h.conversations _ _ hconversation, h.contacts _ _ hcontact]

section Kept

variable {config : RateLimiterConfig} {ownProfileId : ProfileId} {incoming : IncomingTextMessage}
  {db stored db' : Db} {conversationId rowId : Nat} {m : Message}

/-- The row of a stored message, as it is at the end of the ingest. -/
theorem ContentKept.row_iff (hstored : RowStored db incoming conversationId rowId m stored)
    (hsame : SameContent stored db') (hpure : isPureAcknowledgement incoming = false) :
    ContentKept db incoming db' ↔
      m.direction = .incoming ∧
        conversationProfile stored m.conversationId = some incoming.senderProfileId ∧
        (byLogicalId db (incomingLogicalMessageId incoming.messageId) = none →
          m.body = some incoming.text) ∧
        ∀ manifest ∈ acceptedManifests incoming,
          some manifest ∈ AttachmentRepository.manifestsOf stored rowId := by
  have hrow := hsame.row incoming.messageId
  rw [show byLogicalId stored (.incoming incoming.messageId) = some (rowId, m) from hstored.found,
    Option.map_some, Option.map_eq_some_iff] at hrow
  obtain ⟨⟨rowId', m'⟩, hfound, heq⟩ := hrow
  simp only [Prod.mk.injEq] at heq
  obtain ⟨rfl, hdirection, hconversation, hbody⟩ := heq
  have hprofile : ∀ id, conversationProfile db' id = conversationProfile stored id := by
    intro id
    simp only [conversationProfile, hsame.contacts, hsame.conversations]
  constructor
  · rintro ⟨-, rowId, m'', hfound', hrest⟩
    rw [incomingLogicalMessageId, hfound, Option.some.injEq, Prod.mk.injEq] at hfound'
    obtain ⟨rfl, rfl⟩ := hfound'
    simpa only [hdirection, hconversation, hbody, hprofile, hsame.manifests] using hrest
  · intro hrest
    refine ⟨hpure, rowId', m', hfound, ?_⟩
    simpa only [hdirection, hconversation, hbody, hprofile, hsame.manifests] using hrest

/-- Of a stored message, the content is kept exactly when the condition holds. -/
theorem ContentKept.iff_of_stored (hrefs : db.References)
    (hstored : RowStored db incoming conversationId rowId m stored)
    (hsame : SameContent stored db') (hpure : isPureAcknowledgement incoming = false) :
    ContentKept db incoming db' ↔ KeepsContent db incoming := by
  have hkept := hstored.kept
  rw [ContentKept.row_iff hstored hsame hpure, KeepsContent, hstored.manifests,
    and_iff_right (isPureAcknowledgement_eq_false.1 hpure)]
  cases hrow : byLogicalId db (incomingLogicalMessageId incoming.messageId) with
  | none =>
    simp only [hrow] at hkept
    obtain ⟨rfl, rfl⟩ := hkept
    have hnone : AttachmentRepository.manifestsOf db db.messages.nextId = [] := by
      simp only [AttachmentRepository.manifestsOf, List.map_eq_nil_iff]
      exact List.filter_eq_nil_iff.2 fun r hr hmessage =>
        absurd (hrefs.attachment r hr) (by simp [beq_iff_eq.1 hmessage, Table.get?_nextId])
    have hprofile := hstored.profile
    simp only [hnone, last_covers_iff, OneManifest]
    constructor
    · exact fun h => h.2.2.2
    · exact fun h => ⟨rfl, hprofile, fun _ => rfl, h⟩
  | some row =>
    simp only [hrow] at hkept
    subst hkept
    have hget := (byLogicalId_eq_some.1 hrow).1
    rw [conversationProfile_grows hrefs hstored.grows hget]
    simp only [reduceCtorEq, false_imp_iff, true_and]
    cases AttachmentRepository.manifestsOf db rowId with
    | nil => simp only [last_covers_iff, OneManifest]
    | cons a rest => rfl

end Kept

/-- A message from an unblocked sender within the rate limit keeps its content exactly when it
    has text or no receipts, no row of another sender under its id, and one accepted manifest
    at most, the stored one if there is one. -/
theorem ingestIncomingCellData_content_iff {config : RateLimiterConfig} {ownProfileId : ProfileId}
    {decrypted : DecryptedEnvelope} {incoming : IncomingTextMessage} {source : Option OutPoint}
    {nowMs : Nat} {db db' : Db} {out : Except Error Unit} (hrefs : db.References)
    (hvalid : processIncomingText (.ok decrypted) ownProfileId = .ok incoming)
    (hunblocked : ContactRepository.blockedProfile db incoming.senderProfileId = false)
    (hlimit : WithinRateLimit config db incoming.senderProfileId nowMs)
    (hrun : Program.Runs (localEffect nowMs)
      (ingestIncomingCellData config ownProfileId (.ok decrypted) source) db out db') :
    (CarriesContent incoming → ContentKept db incoming db') ↔
      (CarriesContent incoming → KeepsContent db incoming) := by
  refine imp_congr_right fun _ => ?_
  rw [ingestIncomingCellData, hvalid] at hrun
  by_cases hpure : isPureAcknowledgement incoming = false
  · obtain ⟨conversationId, rowId, m, stored, hstored, hsame⟩ :=
      ingestMessage_content hunblocked hlimit hpure hrun
    exact ContentKept.iff_of_stored hrefs hstored hsame hpure
  · constructor
    · exact fun h => absurd h.classified hpure
    · exact fun h => absurd (isPureAcknowledgement_eq_false.2 h.1) hpure

/-- A manifest that passes its check. -/
def sampleManifest : AttachmentManifestV1 where
  attachment_id := List.replicate 16 1
  ckbfs_root := ⟨1, 0⟩
  chunk_outpoints := [⟨1, 0⟩]
  encrypted_size := 116
  plaintext_size := 100
  mime_type := "image/png"
  width := 8
  height := 8
  thumbnail := none
  content_hash := List.replicate 32 1
  cipher_hash := List.replicate 32 2
  encryption_nonce := List.replicate 12 3
  encryption_algorithm := ⟨3, 1⟩
  reclaim_group_id := List.replicate 16 4

/-- An image without a caption that answers a message. -/
def imageReply : DecryptedEnvelope :=
  plainEnvelope (sampleProfile 1) (sampleProfile 3) (sampleMessageId 8) none [sampleManifest]
    [⟨sampleMessageId 7, receiptDownloaded⟩]

/-- The same image without the receipt. -/
def plainImage : DecryptedEnvelope :=
  plainEnvelope (sampleProfile 1) (sampleProfile 3) (sampleMessageId 8) none [sampleManifest] []

/-- The database after an envelope is ingested into an empty one. -/
def ingested (decrypted : DecryptedEnvelope) : Db :=
  (Program.run (clockedHandler 0) (ingestIncomingCellData DEFAULT_RATE_LIMITS (sampleProfile 3)
    (.ok decrypted) (some ⟨5, 0⟩)) Db.empty).2

theorem withinRateLimit_empty (senderProfileId : ProfileId) :
    WithinRateLimit DEFAULT_RATE_LIMITS Db.empty senderProfileId 0 := by
  constructor <;> simp [tokensAt, RateLimitRepository.byBucket, Table.first?, Db.empty,
    DEFAULT_RATE_LIMITS]

/-- The image that carries a receipt is consumed as an acknowledgement and leaves no row. -/
theorem uncaptioned_image_dropped :
    ∃ incoming, processIncomingText (.ok imageReply) (sampleProfile 3) = .ok incoming ∧
      CarriesContent incoming ∧
      byLogicalId (ingested imageReply) (incomingLogicalMessageId incoming.messageId) = none ∧
      ¬ContentKept Db.empty incoming (ingested imageReply) := by
  refine ⟨_, rfl, .inr (by decide), by decide, fun h => ?_⟩
  exact absurd h.classified (by decide)

/-- Without the receipt it is kept. -/
theorem plain_image_kept :
    ∃ incoming, processIncomingText (.ok plainImage) (sampleProfile 3) = .ok incoming ∧
      ContentKept Db.empty incoming (ingested plainImage) := by
  refine ⟨_, rfl, (ingestIncomingCellData_content_iff .empty rfl (by decide)
    (withinRateLimit_empty _) (runs_clockedHandler 0 _ _)).2 ?_ (.inr (by decide))⟩
  intro _
  refine ⟨.inr rfl, ?_⟩
  change OneManifest _
  decide

/-- Every accepted manifest of a message has its record in a database. -/
def ManifestsKept (db : Db) (incoming : IncomingTextMessage) : Prop :=
  ∀ row, byLogicalId db (incomingLogicalMessageId incoming.messageId) = some row →
    ∀ manifest ∈ acceptedManifests incoming,
      manifestRecord incoming.attachmentKey manifest ∈ AttachmentRepository.recordsOf db row.1

/-- A message that is ingested for its content has one attachment record at most. It keeps the one
    that it had; if it had none it has that of the last manifest that passes its check, with the
    manifest's bytes and the message's key. -/
theorem ingestIncomingCellData_records {config : RateLimiterConfig} {ownProfileId : ProfileId}
    {decrypted : DecryptedEnvelope} {incoming : IncomingTextMessage} {source : Option OutPoint}
    {nowMs : Nat} {db db' : Db} {out : Except Error Unit}
    (hvalid : processIncomingText (.ok decrypted) ownProfileId = .ok incoming)
    (hunblocked : ContactRepository.blockedProfile db incoming.senderProfileId = false)
    (hlimit : WithinRateLimit config db incoming.senderProfileId nowMs)
    (hcontent : isPureAcknowledgement incoming = false)
    (hrun : Program.Runs (localEffect nowMs)
      (ingestIncomingCellData config ownProfileId (.ok decrypted) source) db out db') :
    ∃ row, byLogicalId db' (incomingLogicalMessageId incoming.messageId) = some row ∧
      (AttachmentRepository.recordsOf db' row.1).length ≤ 1 ∧
      AttachmentRepository.recordsOf db' row.1 =
        match AttachmentRepository.recordsOf db row.1 with
        | [] => (acceptedManifests incoming).getLast?.toList.map
            (manifestRecord incoming.attachmentKey)
        | stored => stored := by
  rw [ingestIncomingCellData, hvalid] at hrun
  obtain ⟨conversationId, rowId, m, stored, hstored, hrecords, hafter⟩ :=
    ingestMessage_stored hunblocked hlimit hcontent hrun
  have hkept : AttachmentRepository.recordsOf db' rowId =
      AttachmentRepository.recordsOf stored rowId := afterRow_records hafter
  have hrow := (afterRow_sameContent hafter).row incoming.messageId
  rw [show byLogicalId stored (.incoming incoming.messageId) = some (rowId, m) from hstored.found,
    Option.map_some, Option.map_eq_some_iff] at hrow
  obtain ⟨⟨found, m'⟩, hfound, heq⟩ := hrow
  obtain ⟨rfl, -⟩ := Prod.mk.inj heq
  refine ⟨(found, m'), hfound, AttachmentRepository.recordsOf_length _ _, ?_⟩
  rw [hkept, hrecords]
  cases AttachmentRepository.recordsOf db found <;> rfl

/-- Two pictures in one message. -/
def twoImages : DecryptedEnvelope :=
  plainEnvelope (sampleProfile 1) (sampleProfile 3) (sampleMessageId 8) none
    [sampleManifest, { sampleManifest with attachment_id := List.replicate 16 2 }] []

/-- The second one is the one that is kept. -/
theorem twoImages_records :
    ∃ incoming row, processIncomingText (.ok twoImages) (sampleProfile 3) = .ok incoming ∧
      byLogicalId (ingested twoImages) (incomingLogicalMessageId incoming.messageId) = some row ∧
      (acceptedManifests incoming).length = 2 ∧
      AttachmentRepository.recordsOf (ingested twoImages) row.1 =
        (acceptedManifests incoming).getLast?.toList.map
          (manifestRecord incoming.attachmentKey) := by
  have hvalid : processIncomingText (.ok twoImages) (sampleProfile 3) = .ok _ := rfl
  obtain ⟨row, hfound, -, hrecords⟩ := ingestIncomingCellData_records hvalid rfl
    (withinRateLimit_empty _) rfl (runs_clockedHandler 0 _ _)
  exact ⟨_, row, hvalid, hfound, by decide, hrecords⟩

/-- The first one is lost: both pass their check, and only the second has a record. -/
theorem twoImages_not_kept :
    ∃ incoming, processIncomingText (.ok twoImages) (sampleProfile 3) = .ok incoming ∧
      ¬ ManifestsKept (ingested twoImages) incoming := by
  refine ⟨_, rfl, fun kept => ?_⟩
  have hfirst := kept _ rfl sampleManifest (by decide)
  exact absurd hfirst (by decide)

end cemp.sync
