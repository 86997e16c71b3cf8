import CempMobile.Images.Send

open cemp.core cemp.database cemp.ckb

namespace cemp.images

structure PublishImageMessageInput where
  messageRowId : Nat
  logicalMessageId : LogicalMessageId
  recipientProfileIdHex : ProfileId
  recipientKemPublicKey : Bytes
  recipientProfileId : ProfileId
  sourceBytes : Bytes
  preparedImage : Option PreparedImage
  caption : Option String
  format : Option ImageEncodeFormat
  timeoutMs : Option Nat

structure PublishImageMessageResult where
  chunksTxHash : Hash
  messageTxHash : Hash
  manifest : AttachmentManifestV1
  chunkCount : Nat
  plaintextSize : Nat
  deriving DecidableEq, Repr

/-- What the publish of an image shares with the other pipelines, and its crypto. -/
structure ImageDeps where
  pipeline : PipelineDeps
  crypto : AttachmentCrypto
  senderProfileId : ProfileId

/-- The publish of the message of an image, which carries its manifest. -/
def imageText (input : PublishImageMessageInput) (manifest : AttachmentManifestV1)
    (kemMessage nonce : Bytes) : PublishTextInput where
  messageRowId := input.messageRowId
  logicalMessageId := input.logicalMessageId
  text := input.caption.getD ""
  recipientProfileIdHex := input.recipientProfileIdHex
  replyTo := none
  receipts := []
  receiptRequest := some 1
  contentType := some 0x03
  attachmentManifests := [manifest]
  attachmentEnvelope := some (kemMessage, nonce)
  timeoutMs := input.timeoutMs

/-- Sends an image: its chunks, then its message. One fresh KEM message keys both. -/
def publishImageMessage (deps : ImageDeps) (input : PublishImageMessageInput) :
    Prog PublishImageMessageResult := do
  let kemMessage ← call (.randomBytes 32)
  let nonce ← call (.randomBytes 12)
  let attachmentKey := deps.crypto.deriveSendAttachmentKey input.recipientKemPublicKey kemMessage
    nonce deps.senderProfileId input.recipientProfileId
  let prepared ←
    match input.preparedImage with
    | none =>
      prepareAttachmentChunks deps.crypto input.sourceBytes attachmentKey input.format none
    | some image => encryptPreparedChunks deps.crypto image attachmentKey none
  let published ← publishAttachmentChunks deps.pipeline prepared input.timeoutMs
  let reclaimGroupId ← call (.randomBytes 16)
  let manifest ← Program.ofExcept
    (buildManifestForCommittedChunks prepared published.chunksTxHash reclaimGroupId)
  let messageResult ← publishText deps.pipeline (imageText input manifest kemMessage nonce)
  return ⟨published.chunksTxHash, messageResult.txHash, manifest, published.chunkCount,
    prepared.prepared.bytes.length⟩

end cemp.images
