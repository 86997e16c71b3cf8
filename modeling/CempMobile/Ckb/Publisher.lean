import CempMobile.Ckb.Assemble
import CempMobile.Ckb.Monitor

open cemp.core cemp.database

namespace cemp.ckb

/-- Maps a pipeline failure to the error the user sees, by the text of its message. -/
def classifyPublishError (error : Error) (broadcast : Bool) : Error :=
  let message := error.message
  match error with
  | .publication .. => error
  | _ =>
    if includes message "no live profile cell" || includes message "failed validation" then
      .publication .profile_not_found
        "This contact's profile could not be found. Ask them to check their profile is still active."
        broadcast
    else if includes message "capacity" || includes message "Insufficient" then
      .publication .insufficient_capacity
        "Not enough balance to cover this message. Top up your messaging capacity and try again."
        broadcast
    else if includes message "timed out" then
      .publication .commit_timeout
        "Still waiting for network confirmation. The message is saved — check back shortly."
        broadcast
    else if includes message "fetch" || includes message "network" ||
        includes message "ECONNREFUSED" || includes message "timed" then
      .publication .network_unavailable
        "Can't reach the network right now. The message is saved and can be retried." broadcast
    else if includes message "rejected" then
      .publication .rejected_by_node
        "The network rejected this message. It has been saved — try again in a moment." broadcast
    else
      .publication .internal "Something went wrong while sending. The message is saved." broadcast

structure PublishTextInput where
  messageRowId : Nat
  logicalMessageId : LogicalMessageId
  text : String
  recipientProfileIdHex : ProfileId
  replyTo : Option (MessageId × OutPoint)
  receipts : List Receipt
  receiptRequest : Option Nat
  contentType : Option Nat
  attachmentManifests : List AttachmentManifestV1
  /-- The KEM message and the nonce of an attachment message's envelope. -/
  attachmentEnvelope : Option (Bytes × Bytes)
  timeoutMs : Option Nat

/-- The journal purpose of the message. -/
def PublishTextInput.purpose (input : PublishTextInput) : TxPurpose :=
  .message input.logicalMessageId

structure PublishResult where
  txHash : Hash
  outPoint : OutPoint
  committed : Bool
  resumed : Bool
  deriving DecidableEq, Repr

/-- The states the publisher drives a message through. -/
def OUTGOING_PUBLISH_PATH : List MessageState :=
  [.draft, .queued, .encrypting, .building_transaction, .awaiting_signature, .submitting,
    .pending, .committed, .available_on_chain]

/-- The steps from a state to `target` along the path. From the target or past it on the path
    there are none; from a state off the path the walk starts at `queued`. -/
def walkSteps (current : Option MessageState) (target : MessageState) : List MessageState :=
  match OUTGOING_PUBLISH_PATH.idxOf? target with
  | none => []
  | some toIndex =>
    match current.bind OUTGOING_PUBLISH_PATH.idxOf? with
    | some fromIndex =>
      if toIndex ≤ fromIndex then []
      else (OUTGOING_PUBLISH_PATH.take (toIndex + 1)).drop (fromIndex + 1)
    | none => (OUTGOING_PUBLISH_PATH.take (toIndex + 1)).drop 1

def walkToState (messageRowId : Nat) (target : MessageState) : Prog Unit := do
  let current ← store (.getMessageState messageRowId)
  Program.forEach (fun state => store (.transitionMessage messageRowId state))
    (walkSteps current target)

/-- Records a broadcast transaction's inputs as spent in the signer's client cache. -/
def trackBroadcastSpend (tx : Transaction) : Prog Unit :=
  call (.markTransactions tx)

/-- Drives a journaled transaction to commit and lands the message in `available_on_chain`. -/
def monitor (messageRowId : Nat) (txHash : Hash) (resumed : Bool) (timeoutMs : Option Nat)
    (reserveAmountShannon : Option Nat) : Prog PublishResult := do
  waitForTransactionCommit txHash timeoutMs
  store (.markOutgoingTxState txHash .committed)
  store (.setMessageChainRef messageRowId ⟨txHash, 0⟩)
  walkToState messageRowId .available_on_chain
  match reserveAmountShannon with
  | some amount =>
    if amount ≠ 0 then store (.reserveCapacity amount (some messageRowId))
  | none => pure ()
  return ⟨txHash, ⟨txHash, 0⟩, true, resumed⟩

/-- Resumes the journaled transaction, or marks it abandoned and hands back nothing. -/
def resumeOrAbandon (record : OutgoingTransaction) (timeoutMs : Option Nat) :
    Prog (Option OutgoingTransaction) :=
  let resume : Prog (Option OutgoingTransaction) := do
    let outcome ← resumeJournaledBroadcast (.ofRecord record) timeoutMs
    match outcome, record.txHex with
    | .rebroadcast, some tx => trackBroadcastSpend tx
    | _, _ => pure ()
    return some record
  resume.catchError fun error =>
    match error with
    | .journaledAbandoned .. => do
      store (.markOutgoingTxState record.txHash .abandoned)
      return none
    | _ => throw error

/-- What the first stage of a publish hands to the second: the transaction that is out. -/
structure BroadcastTx where
  txHash : Hash
  resumed : Bool
  /-- The freshly broadcast transaction, whose spend is not tracked yet. -/
  fresh : Option Transaction
  capacityShannon : Option Nat

/-- Builds, signs, journals and broadcasts a new transaction. The journal record, the chain
    reference and the envelope message id are written before the broadcast. -/
def buildAndBroadcast (deps : PipelineDeps) (input : PublishTextInput) : Prog BroadcastTx := do
  store (.transitionMessage input.messageRowId .encrypting)
  let senderProfileId ← call .senderProfileId
  let recipientKemPublicKey ← call (.resolveLiveProfile input.recipientProfileIdHex)
  let assembled ← assembleTextMessage deps
    { text := input.text
      senderProfileId := senderProfileId
      recipientProfileId := input.recipientProfileIdHex
      recipientKemPublicKey := recipientKemPublicKey
      senderDeviceId := deps.senderDeviceId
      replyTo := input.replyTo
      receipts := input.receipts
      receiptRequest := input.receiptRequest.getD 1
      contentType := input.contentType
      attachmentManifests := input.attachmentManifests
      messageId := none
      attachmentEnvelope := input.attachmentEnvelope }
  store (.transitionMessage input.messageRowId .building_transaction)
  let built ← buildSendMessageTx deps assembled
  store (.transitionMessage input.messageRowId .awaiting_signature)
  let signed ← call (.signTransaction built.tx)
  store (.transitionMessage input.messageRowId .submitting)
  let messageCellCapacity := ((built.tx.outputs.head?).map (·.capacity)).getD 0
  store (.recordOutgoingTx
    { txHash := signed.hash
      purpose := input.purpose
      state := .submitted
      feeShannon := some built.estimatedFee
      capacityShannon := some messageCellCapacity
      txHex := some signed })
  store (.setMessageChainRef input.messageRowId ⟨signed.hash, 0⟩)
  store (.setEnvelopeMessageId input.messageRowId assembled.messageId)
  let accepted ← call (.sendTransaction signed)
  if accepted ≠ signed.hash then
    throw (.ckb "publisher" "node returned a tx hash different from the signed transaction")
  else
    return ⟨signed.hash, false, some signed, some messageCellCapacity⟩

/-- The first stage of a publish, up to the point where the source sets `broadcast`: resume
    the latest journaled transaction of the message, or build one. -/
def publishUntilBroadcast (deps : PipelineDeps) (input : PublishTextInput) : Prog BroadcastTx := do
  let existing ← store (.findOutgoingTxByPurpose input.purpose)
  let resumable ←
    match existing with
    | none => pure none
    | some record => resumeOrAbandon record input.timeoutMs
  match resumable with
  | some record => return ⟨record.txHash, true, none, record.capacityShannon⟩
  | none => buildAndBroadcast deps input

/-- The second stage: the transaction is out, and a failure no longer fails the message. -/
def publishAfterBroadcast (input : PublishTextInput) (tx : BroadcastTx) : Prog PublishResult := do
  match tx.fresh with
  | none => walkToState input.messageRowId .pending
  | some signed =>
    trackBroadcastSpend signed
    store (.transitionMessage input.messageRowId .pending)
  monitor input.messageRowId tx.txHash tx.resumed input.timeoutMs tx.capacityShannon

/-- Publishes, or resumes publishing, one queued message. The source runs both stages under
    one `catch` that reads the flag `broadcast`; here each stage has the branch it reaches. -/
def publishText (deps : PipelineDeps) (input : PublishTextInput) : Prog PublishResult := do
  let broadcast ← (publishUntilBroadcast deps input).catchError fun error => do
    let _ ← Program.attempt (store (.transitionMessage input.messageRowId .failed))
    throw (classifyPublishError error false)
  (publishAfterBroadcast input broadcast).catchError fun error =>
    throw (classifyPublishError error true)

end cemp.ckb
