import CempMobile.Ckb.Op

open cemp.core cemp.database

namespace cemp.ckb

/-- What `decryptEnvelope` opens a message cell to. -/
structure DecryptedEnvelope where
  header : CempEnvelopeHeaderV1
  payload : CempPayloadV1
  payloadBytes : Nat
  attachmentKey : Bytes

/-- A profile id, and a message id, of one repeated byte. -/
def sampleProfile (byte : UInt8) : ProfileId := List.replicate 32 byte
def sampleMessageId (byte : UInt8) : MessageId := List.replicate 16 byte

/-- An envelope with the given contents and nothing optional. -/
def plainEnvelope (sender recipient : ProfileId) (messageId : MessageId) (text : Option String)
    (manifests : List AttachmentManifestV1) (receipts : List Receipt) : DecryptedEnvelope :=
  let contentType := if manifests = [] then CONTENT_TYPE.text else CONTENT_TYPE.attachmentManifest
  ⟨⟨1, 1, contentType, messageId, List.replicate 16 0, sender, 0, none, 0⟩,
    ⟨messageId, contentType, recipient, text, manifests, none, none, receipts, 0, 0,
      List.replicate 16 0, []⟩,
    1024, List.replicate 32 0⟩

/-- A decrypted, fully validated incoming message. -/
structure IncomingTextMessage where
  contentType : Nat
  messageId : MessageId
  conversationId : Bytes
  senderProfileId : ProfileId
  text : String
  attachmentManifests : List AttachmentManifestV1
  replyToMessageId : Option MessageId
  replyToOutpoint : Option OutPoint
  receipts : List Receipt
  clientTimestamp : Nat
  senderDeviceId : Bytes
  attachmentKey : Bytes

/-- Decrypts and validates one message cell. `decryptEnvelope` is the opened cell, or the error
    it failed with. -/
def processIncomingText (decryptEnvelope : Except Error DecryptedEnvelope)
    (ownProfileId : ProfileId) : Except Error IncomingTextMessage :=
  match decryptEnvelope with
  | .error e => .error e
  | .ok ⟨header, payload, payloadBytes, attachmentKey⟩ =>
    match validatePayloadFields payload (some payloadBytes) with
    | .fail reason =>
      .error (.ckb "processIncomingText" ("payload failed validation: " ++ reason))
    | .ok =>
      match validateSemanticConsistency header payload ownProfileId with
      | .fail reason => .error (.ckb "processIncomingText" ("header/payload mismatch: " ++ reason))
      | .ok =>
        if payload.body_type ≠ CONTENT_TYPE.text ∧
            payload.body_type ≠ CONTENT_TYPE.attachmentManifest then
          .error (.ckb "processIncomingText"
            ("unsupported payload body_type " ++ toString payload.body_type))
        else
          .ok
            { contentType := payload.body_type
              messageId := payload.message_id
              conversationId := header.conversation_id
              senderProfileId := header.sender_profile_id
              text := payload.text.getD ""
              attachmentManifests := payload.attachment_manifests
              replyToMessageId := payload.reply_to_message_id
              replyToOutpoint := payload.reply_to_outpoint
              receipts := payload.receipts
              clientTimestamp := payload.client_timestamp
              senderDeviceId := payload.sender_device_id
              attachmentKey := attachmentKey }

/-- The idempotency key of an incoming message: its envelope message id, and nothing else. -/
def incomingLogicalMessageId (messageId : MessageId) : LogicalMessageId := .incoming messageId

structure RateLimiterConfig where
  perContactPerHour : ℚ
  globalPerHour : ℚ

def DEFAULT_RATE_LIMITS : RateLimiterConfig := ⟨60, 600⟩

def HOUR_MS : ℚ := 3600000

/-- The tokens of a bucket now. A bucket seen for the first time is full, and stored so. -/
def refill (bucket : BucketName) (perHour : ℚ) (now : Nat) : Prog ℚ := do
  let existing ← store (.getRateLimit bucket)
  match existing with
  | none =>
    store (.setRateLimit ⟨bucket, perHour, now⟩)
    return perHour
  | some state =>
    let elapsed := now - state.updatedAtMs
    return min perHour (state.tokens + ((elapsed : ℚ) / HOUR_MS) * perHour)

/-- Charges the bucket of a contact and the global one, or neither. -/
def consumeAt (config : RateLimiterConfig) (scope : RateLimitScope) (profileId : ProfileId)
    (now : Nat) : Prog Bool := do
  let global ← refill ⟨scope, none⟩ config.globalPerHour now
  let contact ← refill ⟨scope, some profileId⟩ config.perContactPerHour now
  if contact < 1 ∨ global < 1 then
    return false
  else
    store (.setRateLimit ⟨⟨scope, some profileId⟩, contact - 1, now⟩)
    store (.setRateLimit ⟨⟨scope, none⟩, global - 1, now⟩)
    return true

def consume (config : RateLimiterConfig) (scope : RateLimitScope) (profileId : ProfileId) :
    Prog Bool := do
  let now ← call .now
  consumeAt config scope profileId now

end cemp.ckb
