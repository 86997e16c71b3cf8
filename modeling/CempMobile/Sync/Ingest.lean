import CempMobile.Ckb.Incoming
import CempMobile.Ckb.Lifecycle
import CempMobile.Images.Manifest

open cemp.core cemp.database cemp.ckb cemp.images

namespace cemp.sync

/-- The states from which an incoming message can still be advanced to `received`. -/
def STRANDABLE_INCOMING_STATES : List MessageState := [.discovered, .downloading, .decrypting]

def INCOMING_ADVANCE_ORDER : List MessageState :=
  [.discovered, .downloading, .decrypting, .received]

/-- Queues a receipt-only response for a received message, once. Its chain reference names the
    cell it answers. -/
def queueAcknowledgement (conversationId : Nat) (originalLogicalId : LogicalMessageId)
    (originalCell : OutPoint) : Prog Unit := do
  let existing ← store (.getMessageByLogicalId (.response originalLogicalId))
  match existing with
  | some _ => return ()
  | none =>
    let row ← store (.insertMessage
      { conversationId := conversationId
        direction := .outgoing
        body := some ""
        logicalMessageId := .response originalLogicalId
        state := .queued
        fits := by decide })
    store (.setChainRef
      ⟨row.1, none, none, some originalCell.txHash, some originalCell.index⟩)

/-- The message an incoming advance is about. -/
structure AdvanceContext where
  conversationId : Nat
  logicalMessageId : LogicalMessageId
  cell : Option OutPoint

/-- Drives an incoming message from where it is up to `received`, then notifies and queues the
    acknowledgement, unless no cell is known for it to name. -/
def advanceIncomingToReceived (messageId : Nat) (fromState : MessageState)
    (context : AdvanceContext) : Prog Unit :=
  match INCOMING_ADVANCE_ORDER.idxOf? fromState with
  | none => return ()
  | some startIndex => do
    Program.forEach (fun next => store (.transitionMessage messageId next))
      (INCOMING_ADVANCE_ORDER.drop (startIndex + 1))
    call (.notify messageId)
    match context.cell with
    | none => return ()
    | some cell => queueAcknowledgement context.conversationId context.logicalMessageId cell

/-- The contact of a sender, created as a stub when the sender is unknown. -/
def contactOf (senderProfileId : ProfileId) : Prog Nat := do
  let contact ← store (.getContactByProfileId senderProfileId)
  match contact with
  | some (id, _) => return id
  | none =>
    store (.createContact
      ⟨"unknown-" ++ bytesToHex (senderProfileId.take 4), some senderProfileId, false⟩)

/-- The attachment row of a manifest. -/
def attachmentOf (messageId : Nat) (attachmentKey : Bytes) (manifest : AttachmentManifestV1) :
    Attachment :=
  ⟨messageId, "image", manifest.plaintext_size, "pending", some manifest, some attachmentKey,
    false⟩

def acceptsManifest (manifest : AttachmentManifestV1) : Bool :=
  (checkManifest manifest DEFAULT_IMAGE_LIMITS).isOk

/-- Stores the manifests that pass their check, unless the message already has an attachment. -/
def storeManifests (messageId : Nat) (incoming : IncomingTextMessage) : Prog Unit :=
  if incoming.attachmentManifests = [] then return ()
  else do
    let existing ← store (.listAttachments messageId)
    if existing.isEmpty then
      Program.forEach
        (fun manifest =>
          if acceptsManifest manifest then
            store (.createAttachment (attachmentOf messageId incoming.attachmentKey manifest))
          else pure ())
        incoming.attachmentManifests

/-- The conversation of a sender, created when there is none. -/
def conversationOf (senderProfileId : ProfileId) : Prog Nat := do
  let contactId ← contactOf senderProfileId
  store (.getOrCreateConversation contactId)

/-- The row an incoming message is stored as. -/
def incomingRow (incoming : IncomingTextMessage) (conversationId : Nat) : NewMessage where
  conversationId := conversationId
  direction := .incoming
  body := some incoming.text
  logicalMessageId := incomingLogicalMessageId incoming.messageId
  state := .discovered
  fits := by decide

/-- Records where the row came from and advances it, unless it is received already. -/
def advanceInserted (incoming : IncomingTextMessage) (source : Option OutPoint)
    (conversationId : Nat) (inserted : Nat × Message) : Prog Unit := do
  if inserted.2.state ∈ STRANDABLE_INCOMING_STATES then
    store (.setEnvelopeMessageId inserted.1 incoming.messageId)
    match source with
    | none => pure ()
    | some cell => store (.setMessageChainRef inserted.1 cell)
    advanceIncomingToReceived inserted.1 inserted.2.state
      ⟨conversationId, inserted.2.logicalMessageId, source⟩

/-- The row of a content message: contact, conversation, idempotent insert, manifests. Answers
    the conversation and the row. -/
def storeRow (incoming : IncomingTextMessage) : Prog (Nat × Nat × Message) := do
  let conversationId ← conversationOf incoming.senderProfileId
  let inserted ← store (.insertMessage (incomingRow incoming conversationId))
  storeManifests inserted.1 incoming
  return (conversationId, inserted)

/-- Stores a content message and advances its row. -/
def storeContent (incoming : IncomingTextMessage) (source : Option OutPoint) : Prog Unit := do
  let stored ← storeRow incoming
  advanceInserted incoming source stored.1 stored.2

/-- A message without text that carries receipts is consumed as an acknowledgement. -/
def isPureAcknowledgement (incoming : IncomingTextMessage) : Bool :=
  incoming.text.length == 0 && 0 < incoming.receipts.length

/-- The tail of the incoming pipeline, on a decrypted message. -/
def ingestMessage (config : RateLimiterConfig) (incoming : IncomingTextMessage)
    (source : Option OutPoint) : Prog Unit := do
  let blocked ← store (.isBlockedByProfileId incoming.senderProfileId)
  if blocked then return ()
  else if isPureAcknowledgement incoming then
    let _ ← processAcknowledgements incoming.receipts
    return ()
  else
    let admitted ← consume config .incoming incoming.senderProfileId
    if ¬admitted then return ()
    else
      storeContent incoming source
      if 0 < incoming.receipts.length then
        let _ ← processAcknowledgements incoming.receipts
        return ()

/-- Ingests the data of one message cell from any source: decrypt, block check, receipts, rate
    limit, store. -/
def ingestIncomingCellData (config : RateLimiterConfig) (ownProfileId : ProfileId)
    (decryptEnvelope : Except Error DecryptedEnvelope) (source : Option OutPoint) : Prog Unit :=
  match processIncomingText decryptEnvelope ownProfileId with
  | .error e => throw e
  | .ok incoming => ingestMessage config incoming source

end cemp.sync
