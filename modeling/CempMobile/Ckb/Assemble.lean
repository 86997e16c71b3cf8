import CempMobile.Ckb.Op

open cemp.core cemp.database

namespace cemp.ckb

/-- The message cell's type script reference. -/
structure CempMessageTypeRef where
  codeHash : Hash
  hashType : HashType
  deriving DecidableEq, Repr

/-- What the pipelines share: the signer's lock, the message type script, the device id, and
    functions of packages below this one (two derived tags, the serialized size of a payload,
    and the capacity CCC computes for a cell of a given shape). -/
structure PipelineDeps where
  lock : Script
  messageType : CempMessageTypeRef
  senderDeviceId : Bytes
  deriveConversationId : ProfileId → ProfileId → Bytes
  deriveRouteTag : ProfileId → Nat → Bytes
  payloadSize : CempPayloadV1 → Nat
  occupiedCapacity : CellOutput → Nat

/-- A wallet with fixed tags and sizes. -/
def samplePipeline : PipelineDeps where
  lock := ⟨1, .type, []⟩
  messageType := ⟨2, .type⟩
  senderDeviceId := List.replicate 16 0
  deriveConversationId := fun _ _ => List.replicate 32 4
  deriveRouteTag := fun _ _ => List.replicate 32 5
  payloadSize := fun _ => 256
  occupiedCapacity := fun _ => 20000000000

/-- 30 days. -/
def ROUTING_EPOCH_SECONDS : Nat := 2592000

def currentRoutingEpoch (nowMs : Nat) : Nat := nowMs / 1000 / ROUTING_EPOCH_SECONDS

structure AssembleTextMessageParams where
  text : String
  senderProfileId : ProfileId
  recipientProfileId : ProfileId
  recipientKemPublicKey : Bytes
  senderDeviceId : Bytes
  replyTo : Option (MessageId × OutPoint)
  receipts : List Receipt
  receiptRequest : Nat
  attachmentManifests : List AttachmentManifestV1
  contentType : Option Nat
  /-- A fixed message id; a random one is drawn otherwise. -/
  messageId : Option MessageId
  attachmentEnvelope : Option (Bytes × Bytes)

structure AssembledMessage where
  messageId : MessageId
  routeTag : Bytes
  conversationTag : Bytes
  messageNonce : Bytes
  envelope : CempEnvelopeV1

/-- The payload of a text message. An attachment message without a caption has no text. -/
def textPayload (params : AssembleTextMessageParams) (messageId : MessageId)
    (clientTimestamp : Nat) (padding : Bytes) : CempPayloadV1 where
  message_id := messageId
  body_type := params.contentType.getD CONTENT_TYPE.text
  recipient_profile_id := params.recipientProfileId
  text :=
    if params.contentType.getD CONTENT_TYPE.text = CONTENT_TYPE.attachmentManifest ∧
        params.text.length = 0 then none
    else some params.text
  attachment_manifests := params.attachmentManifests
  reply_to_message_id := params.replyTo.map (·.1)
  reply_to_outpoint := params.replyTo.map (·.2)
  receipts := params.receipts
  receipt_request := params.receiptRequest
  client_timestamp := clientTimestamp
  sender_device_id := params.senderDeviceId
  padding := padding

def envelopeHeader (params : AssembleTextMessageParams) (messageId : MessageId)
    (conversationId : Bytes) (clientTimestamp : Nat) : CempEnvelopeHeaderV1 where
  protocol_version := 1
  network := 0x01
  content_type := params.contentType.getD CONTENT_TYPE.text
  message_id := messageId
  conversation_id := conversationId
  sender_profile_id := params.senderProfileId
  created_at_client := clientTimestamp
  reply_to_message_id := params.replyTo.map (·.1)
  expiry_hint := 0

/-- Builds and encrypts a message: payload, header, envelope. -/
def assembleTextMessage (deps : PipelineDeps) (params : AssembleTextMessageParams) :
    Prog AssembledMessage := do
  let messageId ←
    match params.messageId with
    | some id => pure id
    | none => call (.randomBytes 16)
  let conversationId := deps.deriveConversationId params.senderProfileId params.recipientProfileId
  let nowMs ← call .now
  let routeTag := deps.deriveRouteTag params.recipientProfileId (currentRoutingEpoch nowMs)
  let messageNonce ← call (.randomBytes 16)
  let padding ← call .randomPadding
  let payload := textPayload params messageId (nowMs / 1000) padding
  match validatePayloadFields payload (some (deps.payloadSize payload)) with
  | .fail reason =>
    throw (.ckb "assembleTextMessage" ("assembled payload failed validation: " ++ reason))
  | .ok =>
    let header := envelopeHeader params messageId conversationId (nowMs / 1000)
    call (.encryptEnvelope ⟨header, payload⟩ params.recipientKemPublicKey
      params.attachmentEnvelope)
    return ⟨messageId, routeTag, conversationId.take 16, messageNonce, ⟨header, payload⟩⟩

/-- A transaction before signing, with the fee completion left. -/
structure BuiltTransaction where
  tx : RawTransaction
  estimatedFee : Nat
  deriving DecidableEq, Repr

/-- 1 CKB on top of the occupied minimum. -/
def CAPACITY_MARGIN : Nat := 100000000

/-- `version ‖ routeTag ‖ conversationTag ‖ messageNonce ‖ reserved`. -/
def messageTypeArgs (assembled : AssembledMessage) : Bytes :=
  1 :: assembled.routeTag ++ assembled.conversationTag ++ assembled.messageNonce ++
    List.replicate 16 0

/-- The message cell: locked by the sender, its capacity the occupied minimum and a margin. -/
def messageOutput (deps : PipelineDeps) (assembled : AssembledMessage) : CellOutput :=
  let shape : CellOutput :=
    ⟨0, deps.lock, some ⟨deps.messageType.codeHash, deps.messageType.hashType,
      messageTypeArgs assembled⟩, .envelope assembled.envelope⟩
  { shape with capacity := deps.occupiedCapacity shape + CAPACITY_MARGIN }

/-- The change cell of a completed transaction: it is locked by the signer and carries nothing. -/
def changeOutput (deps : PipelineDeps) (capacity : Nat) : CellOutput :=
  ⟨capacity, deps.lock, none, .bytes []⟩

/-- Completes a transaction with selected inputs and change, and refuses a fee of zero. -/
def completeAndFinalize (deps : PipelineDeps) (context : String) (tx : RawTransaction) :
    Prog BuiltTransaction := do
  let completion ← call (.completeTransaction tx)
  if completion.estimatedFee = 0 then
    throw (.ckb context "fee completion left a non-positive fee (0)")
  else
    return ⟨⟨tx.inputs ++ completion.inputs, tx.outputs ++ (completion.change.map (changeOutput deps)).toList⟩,
      completion.estimatedFee⟩

def buildSendMessageTx (deps : PipelineDeps) (assembled : AssembledMessage) :
    Prog BuiltTransaction :=
  completeAndFinalize deps "builders" ⟨[], [messageOutput deps assembled]⟩

/-- The checks of one reclaimed cell against its outpoint and the signer's lock. -/
def reclaimInputError (deps : PipelineDeps) (index : Nat) (outPoint : OutPoint) (cell : Cell) :
    Option Error :=
  if cell.outPoint ≠ outPoint then
    some (.ckb "buildReclaimTx" ("resolved cell " ++ toString index ++
      " does not match out point " ++ toString outPoint.txHash ++ ":" ++ toString outPoint.index))
  else if cell.output.lock ≠ deps.lock then
    some (.ckb "buildReclaimTx" ("cell " ++ toString index ++ " (" ++ toString outPoint.txHash ++
      ":" ++ toString outPoint.index ++ ") is not locked by the sender's lock — " ++
      "reclaim authority stays with the sender (AGENTS.md rule 9)"))
  else none

/-- The first cell that fails its checks. -/
def reclaimInputsError (deps : PipelineDeps) : Nat → List OutPoint → List Cell → Option Error
  | index, outPoint :: outpoints, cell :: cells =>
    match reclaimInputError deps index outPoint cell with
    | some e => some e
    | none => reclaimInputsError deps (index + 1) outpoints cells
  | _, _, _ => none

/-- Spends the given cells into one change output. The wallet may add inputs for the fee. -/
def buildReclaimTx (deps : PipelineDeps) (outpoints : List OutPoint) (resolvedCells : List Cell) :
    Prog BuiltTransaction :=
  if outpoints = [] then throw (.ckb "buildReclaimTx" "no out points given")
  else if outpoints.length ≠ resolvedCells.length then
    throw (.ckb "buildReclaimTx" (toString outpoints.length ++ " out points but " ++
      toString resolvedCells.length ++ " resolved cells"))
  else match reclaimInputsError deps 0 outpoints resolvedCells with
  | some e => throw e
  | none => completeAndFinalize deps "buildReclaimTx" ⟨outpoints, []⟩

/-- One data cell for each chunk, locked by the signer. -/
def buildDataCellsTx (deps : PipelineDeps) (datasets : List Bytes) : Prog BuiltTransaction :=
  if datasets = [] then throw (.ckb "buildDataCellsTx" "no datasets given")
  else if datasets.any (·.isEmpty) then
    throw (.ckb "buildDataCellsTx" "refusing an empty data cell payload")
  else completeAndFinalize deps "builders" ⟨[], datasets.map fun content =>
    let shape : CellOutput := ⟨0, deps.lock, none, .bytes content⟩
    { shape with capacity := deps.occupiedCapacity shape + CAPACITY_MARGIN }⟩

end cemp.ckb
