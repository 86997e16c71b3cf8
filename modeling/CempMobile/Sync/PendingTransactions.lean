import CempMobile.Sync.Ingest

open cemp.core cemp.database cemp.ckb

namespace cemp.sync

/-- A committed message transaction moves its message, if that is still pending. -/
def advanceCommittedMessage (logicalId : LogicalMessageId) : Prog Unit := do
  let message ← store (.getMessageByLogicalId logicalId)
  match message with
  | some (id, row) =>
    if row.state = .pending then
      store (.transitionMessage id .committed)
      store (.transitionMessage id .available_on_chain)
      reserveCommittedCapacity id
  | none => pure ()

/-- One submitted transaction of the scan. A reclaim is left to the lifecycle to finalize. -/
def scanSubmitted (deps : PipelineDeps) (tx : OutgoingTransaction) : Prog Unit := do
  let status ← call (.getTransaction tx.txHash)
  match status with
  | .committed =>
    match tx.purpose with
    | .reclaim _ =>
      let _ ← executeReclaimBatch deps none
      return ()
    | .message logicalId =>
      store (.markOutgoingTxState tx.txHash .committed)
      advanceCommittedMessage logicalId
    | _ => store (.markOutgoingTxState tx.txHash .committed)
  | .rejected _ => store (.markOutgoingTxState tx.txHash .rejected)
  | _ => return ()

/-- One row of the heal: a message whose latest transaction is already marked committed. -/
def healStrandedOutgoing (message : Nat × Message) : Prog Unit := do
  let journal ← store (.findOutgoingTxByPurpose (.message message.2.logicalMessageId))
  if (journal.map (·.state)) ≠ some .committed then
    return ()
  else
    if message.2.state = .pending then
      store (.transitionMessage message.1 .committed)
    store (.transitionMessage message.1 .available_on_chain)
    reserveCommittedCapacity message.1

/-- One row of the incoming heal. Its failure does not stop the rows behind it. -/
def healStrandedMessage (message : Nat × Message) : Prog Unit :=
  let heal : Prog Unit := do
    let ref ← store (.getChainRef message.1)
    let cell : Option OutPoint :=
      match ref with
      | some ⟨_, some txHash, some outpointIndex, _, _⟩ => some ⟨txHash, outpointIndex⟩
      | _ => none
    advanceIncomingToReceived message.1 message.2.state
      ⟨message.2.conversationId, message.2.logicalMessageId, cell⟩
  heal.catchError fun _ => return ()

def healStrandedIncoming : Prog Unit := do
  let rows ← store (.listMessagesByState [.downloading, .decrypting])
  Program.forEach healStrandedMessage (rows.filter fun row => row.2.direction == .incoming)

/-- The pending-transaction worker: the submitted transactions, then the messages stranded
    behind a committed one, then the incoming messages stranded in their advance. -/
def runPendingTransactions (deps : PipelineDeps) : Prog Unit := do
  let submitted ← store (.listOutgoingTxByState .submitted)
  Program.forEach (scanSubmitted deps) submitted
  let stranded ← store (.listMessagesByState [.pending, .committed])
  Program.forEach healStrandedOutgoing stranded
  healStrandedIncoming

end cemp.sync
