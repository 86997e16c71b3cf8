import CempMobile.App.ImageSend

open cemp.core cemp.database cemp.ckb cemp.images

namespace cemp.app

/-- What a `MessagingService` is built with, as far as sending an image reads it. -/
structure MessagingDeps where
  pipeline : PipelineDeps
  crypto : AttachmentCrypto
  /-- Whether the platform configured an image codec. -/
  createImageCodec : Bool

structure PublishImageInput where
  messageRowId : Nat
  logicalMessageId : LogicalMessageId
  recipientProfileIdHex : ProfileId
  sourceBytes : Bytes
  caption : Option String
  format : Option ImageEncodeFormat
  timeoutMs : Option Nat

/-- What the desync guard asks the publisher for: the message, without its content type, its
    manifests and its timeout. -/
def PublishImageInput.guardText (input : PublishImageInput) : PublishTextInput where
  messageRowId := input.messageRowId
  logicalMessageId := input.logicalMessageId
  text := input.caption.getD ""
  recipientProfileIdHex := input.recipientProfileIdHex
  replyTo := none
  receipts := []
  receiptRequest := some 1
  contentType := none
  attachmentManifests := []
  attachmentEnvelope := none
  timeoutMs := none

def PublishImageInput.message (input : PublishImageInput) (recipientKemPublicKey : Bytes) :
    PublishImageMessageInput where
  messageRowId := input.messageRowId
  logicalMessageId := input.logicalMessageId
  recipientProfileIdHex := input.recipientProfileIdHex
  recipientKemPublicKey := recipientKemPublicKey
  recipientProfileId := input.recipientProfileIdHex
  sourceBytes := input.sourceBytes
  preparedImage := none
  caption := input.caption
  format := input.format
  timeoutMs := input.timeoutMs

/-- Whether a journaled transaction may still be, or is, on chain. -/
def inFlight (tx : OutgoingTransaction) : Bool :=
  tx.state == .submitted || tx.state == .committed

/-- Sends an image whose message has no transaction in flight. -/
def sendNewImage (deps : MessagingDeps) (input : PublishImageInput) : Prog Hash :=
  if ¬deps.createImageCodec then
    throw (.other "publishImage: no image codec configured for this platform")
  else do
    let recipientKemPublicKey ← call (.resolveLiveProfile input.recipientProfileIdHex)
    let balance ← store .getBalance
    let senderProfileId ← call .senderProfileId
    let result ← runImageSend ⟨deps.pipeline, deps.crypto, senderProfileId⟩
      balance.availableShannon (input.message recipientKemPublicKey)
    return result.messageTxHash

/-- `MessagingService.publishImage`: publishes a queued image message, or resumes the transaction
    that is in flight for it. -/
def publishImage (deps : MessagingDeps) (input : PublishImageInput) : Prog Hash := do
  let journaled ← store (.findOutgoingTxByPurpose (.message input.logicalMessageId))
  match journaled.filter inFlight with
  | some _ =>
    let resumed ← publishText deps.pipeline input.guardText
    return resumed.txHash
  | none => sendNewImage deps input

end cemp.app
