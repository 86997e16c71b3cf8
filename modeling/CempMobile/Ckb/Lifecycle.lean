import CempMobile.Ckb.Assemble
import CempMobile.Ckb.Monitor

open cemp.core cemp.database

namespace cemp.ckb

/-- The states from which an acknowledgement moves an outgoing message. -/
def ACKABLE_STATES : List MessageState :=
  [.available_on_chain, .downloaded_by_recipient, .acknowledged]

/-- `0x01`: the envelope was received and decrypted. -/
def receiptDownloaded : Nat := 0x01

/-- `0x05`: the attachment's bytes were fetched. -/
def receiptAttachmentDownloaded : Nat := 0x05

@[simp] theorem receiptDownloaded_ne : receiptDownloaded ≠ receiptAttachmentDownloaded := by decide

/-- Moves a row from an ackable state along the legal path into the reclaim queue. -/
def queueForReclaim (rowId : Nat) (state : MessageState) : Prog Unit := do
  if state = .available_on_chain then
    store (.transitionMessage rowId .downloaded_by_recipient)
  if state ≠ .acknowledged then
    store (.transitionMessage rowId .acknowledged)
  store (.transitionMessage rowId .reclaim_queued)

/-- Applies one receipt. The row is whichever has the named envelope message id: neither its
    direction nor the sender of the receipt is looked at. Answers the row it acknowledged. -/
def applyReceipt (receipt : Receipt) : Prog (Option Nat) := do
  if receipt.status = receiptAttachmentDownloaded then
    let target ← store (.findOutgoingByEnvelopeMessageId receipt.messageId)
    match target with
    | some (rowId, _) => store (.markAttachmentRemoteDownloaded rowId)
    | none => pure ()
    return none
  else if receipt.status ≠ receiptDownloaded then
    return none
  else
    let found ← store (.findOutgoingByEnvelopeMessageId receipt.messageId)
    match found with
    | none => return none
    | some (rowId, state) =>
      if state ∉ ACKABLE_STATES then
        return none
      else
        queueForReclaim rowId state
        let journal ← store (.getMessageJournalInfo rowId)
        match journal with
        | some (_, some capacityShannon) => store (.markCapacityReclaimable capacityShannon)
        | _ => pure ()
        return some rowId

/-- Applies the receipts of a decrypted reply in order and answers the acknowledged rows. -/
def processAcknowledgements : List Receipt → Prog (List Nat)
  | [] => return []
  | receipt :: receipts => do
    let acked ← applyReceipt receipt
    let rest ← processAcknowledgements receipts
    return acked.toList ++ rest

/-- Reserves a committed message cell's capacity when a worker, not the publish monitor,
    finalizes the commit. -/
def reserveCommittedCapacity (rowId : Nat) : Prog Unit := do
  let journal ← store (.getMessageJournalInfo rowId)
  match journal with
  | some (_, some capacityShannon) =>
    if capacityShannon ≠ 0 then store (.reserveCapacity capacityShannon (some rowId))
  | _ => pure ()

structure ReclaimBatchResult where
  txHash : Hash
  reclaimedRowIds : List Nat
  releasedShannon : Nat
  resumed : Bool
  abandoned : Bool
  deriving DecidableEq, Repr

/-- The covered row ids of a reclaim purpose. -/
def parseReclaimPurpose : TxPurpose → List Nat
  | .reclaim rowIds => rowIds
  | _ => []

/-- Finalizes a resumed batch whose transaction committed. Only the caller that wins the
    journal's move to `committed` releases capacity. -/
def finishResumedReclaim (journaled : OutgoingTransaction) : Prog ReclaimBatchResult := do
  let ids := parseReclaimPurpose journaled.purpose
  let won ← store (.markOutgoingTxStateIf journaled.txHash .submitted .committed)
  if won = 0 then
    return ⟨journaled.txHash, ids, 0, true, false⟩
  else
    let fee := journaled.feeShannon.getD 0
    let released := journaled.capacityShannon.getD 0 - fee
    Program.forEach (fun rowId => store (.transitionMessage rowId .reclaimed)) ids
    if released ≠ 0 then store (.releaseReclaimedCapacity released)
    if 0 < fee then store (.recordFeeBurn fee)
    return ⟨journaled.txHash, ids, released, true, false⟩

/-- Resumes a journaled batch: `none` when the caller goes on to finalize it, the result when
    it was abandoned and its rows were queued again. -/
def resumeReclaim (journaled : OutgoingTransaction) (timeoutMs : Option Nat) :
    Prog (Option ReclaimBatchResult) :=
  let resume : Prog (Option ReclaimBatchResult) := do
    let outcome ← resumeJournaledBroadcast (.ofRecord journaled) timeoutMs
    match outcome, journaled.txHex with
    | .rebroadcast, some tx => call (.markTransactions tx)
    | _, _ => pure ()
    return none
  resume.catchError fun error =>
    match error with
    | .journaledAbandoned .. => do
      store (.markOutgoingTxState journaled.txHash .abandoned)
      Program.forEach (fun rowId => store (.transitionMessage rowId .reclaim_queued))
        (parseReclaimPurpose journaled.purpose)
      return some ⟨journaled.txHash, [], 0, false, true⟩
    | _ => throw error

/-- Resolves the live cells of the candidates. A dead cell's row is walked to `reclaimed`, a
    cell the node knows nothing about stays queued. -/
def resolveCandidates : List (Nat × OutPoint) → Prog (List ((Nat × OutPoint) × Cell))
  | [] => return []
  | candidate :: candidates => do
    let status ← call (.getLiveCell candidate.2)
    match status with
    | .live cell =>
      let rest ← resolveCandidates candidates
      return (candidate, cell) :: rest
    | .dead =>
      store (.transitionMessage candidate.1 .reclaim_pending)
      store (.transitionMessage candidate.1 .reclaimed)
      resolveCandidates candidates
    | .unknown => resolveCandidates candidates

/-- The rows with a complete chain reference. -/
def withChainRef (messages : List LifecycleMessage) : List (Nat × OutPoint) :=
  messages.filterMap fun m => m.chainRef.map fun ref => (m.rowId, ref)

/-- Marks a covered row reclaimed, and its cell's watch, if there is one, as spent. -/
def settleReclaimedRow (txHash : Hash) (covered : Nat × OutPoint) : Prog Unit := do
  store (.transitionMessage covered.1 .reclaimed)
  let watches ← store .listActiveWatches
  match watches.find? fun w => w.outPoint == covered.2 with
  | some _ => store (.markWatchSpent covered.2 (.tx txHash))
  | none => pure ()

/-- Builds, signs, journals and broadcasts a batch over the given live cells, and settles it
    when it commits. -/
def broadcastReclaim (deps : PipelineDeps) (covered : List (Nat × OutPoint)) (cells : List Cell)
    (timeoutMs : Option Nat) : Prog ReclaimBatchResult := do
  let releasedTotal := (cells.map (·.output.capacity)).sum
  Program.forEach (fun row => store (.transitionMessage row.1 .reclaim_pending)) covered
  let built ← buildReclaimTx deps (covered.map (·.2)) cells
  let signed ← call (.signTransaction built.tx)
  let ids := covered.map (·.1)
  store (.recordOutgoingTx
    { txHash := signed.hash
      purpose := .reclaim ids
      state := .submitted
      feeShannon := some built.estimatedFee
      capacityShannon := some releasedTotal
      txHex := some signed })
  let accepted ← call (.sendTransaction signed)
  if accepted ≠ signed.hash then
    throw (.ckb "lifecycle" "node returned a tx hash different from the signed reclaim")
  else
    call (.markTransactions signed)
    waitForTransactionCommit signed.hash timeoutMs
    let wonCommit ← store (.markOutgoingTxStateIf signed.hash .submitted .committed)
    if wonCommit = 0 then
      return ⟨signed.hash, ids, 0, false, false⟩
    else
      Program.forEach (settleReclaimedRow signed.hash) covered
      let releasedNet := releasedTotal - built.estimatedFee
      if 0 < releasedNet then store (.releaseReclaimedCapacity releasedNet)
      if 0 < built.estimatedFee then store (.recordFeeBurn built.estimatedFee)
      let _ ← store .pruneSpentWatches
      return ⟨signed.hash, ids, releasedNet, false, false⟩

/-- Executes one reclaim batch, or resumes the latest journaled one that is still submitted. -/
def executeReclaimBatch (deps : PipelineDeps) (timeoutMs : Option Nat) :
    Prog (Option ReclaimBatchResult) := do
  let journaled ← store (.findLatestOutgoingTxByPurposePrefix .reclaim)
  match journaled.filter fun tx => tx.state == .submitted with
  | some tx =>
    let abandoned ← resumeReclaim tx timeoutMs
    match abandoned with
    | some result => return some result
    | none =>
      let result ← finishResumedReclaim tx
      return some result
  | none =>
    let queued ← store (.listOutgoingByState .reclaim_queued)
    let waiting ← store (.listOutgoingByState .reclaim_pending)
    let resolved ← resolveCandidates (withChainRef (queued ++ waiting))
    if resolved.isEmpty then
      return none
    else
      let result ← broadcastReclaim deps (resolved.map (·.1)) (resolved.map (·.2)) timeoutMs
      return some result

end cemp.ckb
