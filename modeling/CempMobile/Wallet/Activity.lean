import CempMobile.Wallet.World

open cemp.core cemp.database cemp.ckb

namespace cemp.wallet

/-- Where a call of `publishText` stands. -/
inductive Phase where
  | consulting
  | resuming (record : OutgoingTransaction)
  | rebroadcasting (record : OutgoingTransaction) (wire : Transaction)
  /-- Polling for a resumed transaction, with `wire` when it was broadcast again. -/
  | waiting (record : OutgoingTransaction) (wire : Option Transaction) (sleeps : Nat)
  /-- Between a poll and the look at the clock. -/
  | polled (record : OutgoingTransaction) (wire : Option Transaction) (sleeps : Nat)
  | marking (record : OutgoingTransaction) (wire : Transaction)
  | abandoning (record : OutgoingTransaction)
  /-- There is nothing to resume: a new transaction is built. -/
  | clear
  | building
  | signed (raw : RawTransaction) (tx : Transaction)
  | journaled (raw : RawTransaction) (tx : Transaction) (record : OutgoingTransaction)
  /-- The row has the envelope message id: all that is left is the broadcast. -/
  | named (raw : RawTransaction) (tx : Transaction) (record : OutgoingTransaction)
  | failing
  /-- The transaction is out, from here on a failure leaves the message alone. -/
  | out (txHash : Hash) (reserve : Option Nat)
  | confirmed (txHash : Hash) (reserve : Option Nat)
  | walking (reserve : Option Nat) (steps : List MessageState)
  | ended

/-- The number of sleeps of a wait. -/
def sleepsOf (timeoutMs : Option Nat) : Nat := timeoutMs.getD 180000 / 4000 + 1

/-- Where a resumed transaction that has committed leaves a publish. -/
def resumed (record : OutgoingTransaction) : Option Transaction → Phase
  | none => .out record.txHash record.capacityShannon
  | some wire => .marking record wire

/-- Where an error of a resume leaves a publish. -/
def resumeFailed (record : OutgoingTransaction) : Error → Phase
  | .journaledAbandoned .. => .abandoning record
  | _ => .failing

/-- Where the answer about a journaled transaction leaves a publish. -/
def resumeStatus (input : PublishTextInput) (record : OutgoingTransaction) :
    TransactionStatus → Phase
  | .committed => resumed record none
  | .rejected _ => .abandoning record
  | .pending | .proposed => .waiting record none (sleepsOf input.timeoutMs)
  | .sent | .unknown =>
    match record.txHex with
    | none => .abandoning record
    | some wire => .rebroadcasting record wire

/-- Where a poll for a resumed transaction leaves a publish. -/
def resumePolled (record : OutgoingTransaction) (wire : Option Transaction) (sleeps : Nat)
    (status : TransactionStatus) : Phase :=
  match commitOutcome status, sleeps with
  | some (.ok _), _ => resumed record wire
  | some (.error _), _ => .failing
  | none, 0 => .failing
  | none, sleeps + 1 => .polled record wire sleeps

/-- Where a call stands after an operation was answered. -/
def Phase.next (input : PublishTextInput) (phase : Phase) {β : Type} (op : Op β)
    (answer : Except Error β) : Phase :=
  match phase with
  | consulting =>
    match op, answer with
    | .store (.findOutgoingTxByPurpose _), .ok none => clear
    | .store (.findOutgoingTxByPurpose _), .ok (some record) => resuming record
    | _, _ => failing
  | resuming record =>
    match op, answer with
    | .getTransaction _, .ok status => resumeStatus input record status
    | _, .error e => resumeFailed record e
    | _, _ => failing
  | rebroadcasting record wire =>
    match op, answer with
    | .sendTransaction _, .ok hash =>
      if hash ≠ record.txHash then failing
      else waiting record (some wire) (sleepsOf input.timeoutMs)
    | _, .error e =>
      if spentElsewherePattern e.message then abandoning record else resumeFailed record e
    | _, _ => failing
  | waiting record wire sleeps =>
    match op, answer with
    | .getTransaction _, .ok status => resumePolled record wire sleeps status
    | _, .error e => resumeFailed record e
    | _, _ => failing
  | polled record wire sleeps =>
    match op, answer with
    | .deadlinePassed, .ok false => waiting record wire sleeps
    | _, .error e => resumeFailed record e
    | _, _ => failing
  | marking record _ =>
    match answer with
    | .ok _ => resumed record none
    | .error e => resumeFailed record e
  | abandoning _ => if answer.isOk then clear else failing
  | clear => if answer.isOk then building else failing
  | building =>
    match op, answer with
    | .store (.transitionMessage _ .failed), _ => ended
    | .signTransaction raw, .ok tx => signed raw tx
    | _, .ok _ => building
    | _, .error _ => failing
  | signed raw tx =>
    match op, answer with
    | .store (.recordOutgoingTx record), .ok _ => journaled raw tx record
    | _, .ok _ => signed raw tx
    | _, .error _ => failing
  | journaled raw tx record =>
    match op, answer with
    | .store (.setEnvelopeMessageId ..), .ok _ => named raw tx record
    | _, .ok _ => journaled raw tx record
    | _, .error _ => failing
  | named _ tx record =>
    match op, answer with
    | .sendTransaction _, .ok hash =>
      if hash ≠ tx.hash then failing else out tx.hash record.capacityShannon
    | _, _ => failing
  | out txHash reserve =>
    match op, answer with
    | .getTransaction _, .ok .committed => confirmed txHash reserve
    | _, .ok _ => out txHash reserve
    | _, .error _ => ended
  | confirmed txHash reserve =>
    match op, answer with
    | .store (.getMessageState _), .ok state => walking reserve (walkSteps state .available_on_chain)
    | _, .ok _ => confirmed txHash reserve
    | _, .error _ => ended
  | walking reserve (_ :: steps) => if answer.isOk then walking reserve steps else ended
  | _ => ended

/-- The record a fresh transaction is journaled under. -/
def JournalsFresh (input : PublishTextInput) (tx : Transaction) (record : OutgoingTransaction) :
    Prop :=
  record.txHash = tx.hash ∧ record.purpose = input.purpose ∧ record.state = .submitted ∧
    record.txHex = some tx ∧ ∃ capacity, 0 < capacity ∧ record.capacityShannon = some capacity

/-- The operations a call performs next. -/
def Phase.Allows (input : PublishTextInput) (phase : Phase) {β : Type} (op : Op β) : Prop :=
  match phase, op with
  | consulting, .store (.findOutgoingTxByPurpose purpose) => purpose = input.purpose
  | resuming record, .getTransaction txHash => txHash = record.txHash
  | rebroadcasting _ wire, .sendTransaction tx => tx = wire
  | waiting record .., .getTransaction txHash => txHash = record.txHash
  | polled .., .deadlinePassed => True
  | marking _ wire, .markTransactions tx => tx = wire
  | abandoning record, .store (.markOutgoingTxState txHash state) =>
    txHash = record.txHash ∧ state = .abandoned
  | clear, .store (.transitionMessage rowId target) =>
    rowId = input.messageRowId ∧ target = .encrypting
  | building, .store (.transitionMessage rowId target) =>
    rowId = input.messageRowId ∧
      (target = .building_transaction ∨ target = .awaiting_signature ∨ target = .failed)
  | building, .signTransaction raw => raw.envelope?.isSome
  | building, .completeTransaction _ | building, .now | building, .randomBytes _
  | building, .randomPadding | building, .senderProfileId | building, .resolveLiveProfile _
  | building, .encryptEnvelope .. => True
  | signed .., .store (.transitionMessage rowId target) =>
    rowId = input.messageRowId ∧ target = .submitting
  | signed _ tx, .store (.recordOutgoingTx record) => JournalsFresh input tx record
  | journaled _ tx _, .store (.setMessageChainRef rowId ref) =>
    rowId = input.messageRowId ∧ ref = ⟨tx.hash, 0⟩
  | journaled raw .., .store (.setEnvelopeMessageId rowId id) =>
    rowId = input.messageRowId ∧ (raw.envelope?.map (·.header.message_id)) = some id
  | named _ tx _, .sendTransaction wire => wire = tx
  | failing, .store (.transitionMessage rowId target) =>
    rowId = input.messageRowId ∧ target = .failed
  | out .., .store (.transitionMessage rowId target) =>
    rowId = input.messageRowId ∧ target ≠ .failed ∧ target ≠ .committed ∧ target.Landed = false
  | out .., .store (.getMessageState rowId) => rowId = input.messageRowId
  | out txHash _, .getTransaction hash => hash = txHash
  | out .., .markTransactions _ | out .., .deadlinePassed => True
  | confirmed txHash _, .store (.markOutgoingTxState hash state) => hash = txHash ∧ state = .committed
  | confirmed .., .store (.setMessageChainRef rowId _) => rowId = input.messageRowId
  | confirmed .., .store (.getMessageState rowId) => rowId = input.messageRowId
  | walking _ (step :: _), .store (.transitionMessage rowId target) =>
    rowId = input.messageRowId ∧ target = step
  | walking reserve [], .store (.reserveCapacity amount cell) =>
    reserve = some amount ∧ cell = some input.messageRowId
  | _, _ => False

/-- Where a pass of the pending-transaction worker stands: the reclaim records it read, the
    transactions it signed, the last status it was answered, and the row it has just landed,
    then with the amount it has to reserve for it. -/
structure Worker where
  batch : List OutgoingTransaction
  signed : List Transaction
  seen : Option (Hash × TransactionStatus)
  owed : Option (Nat × Option Nat)

def Worker.start : Worker := ⟨[], [], none, none⟩

def Worker.next (worker : Worker) {β : Type} (op : Op β) (answer : Except Error β) : Worker :=
  match op, answer with
  | .getTransaction txHash, .ok status => { worker with seen := some (txHash, status) }
  | .signTransaction _, .ok tx => { worker with signed := tx :: worker.signed }
  | .store (.findLatestOutgoingTxByPurposePrefix _), .ok (some record) =>
    { worker with batch := record :: worker.batch }
  | .store (.transitionMessage rowId .available_on_chain), .ok _ =>
    { worker with owed := some (rowId, none) }
  | .store (.getMessageJournalInfo rowId), .ok (some (_, some capacity)) =>
    { worker with owed := if capacity = 0 then none else some (rowId, some capacity) }
  | .store (.getMessageJournalInfo _), _ => { worker with owed := none }
  | .store (.reserveCapacity ..), _ => { worker with owed := none }
  | _, _ => worker

/-- A transaction hash of the reclaim batches the pass deals with. -/
def Worker.Handles (worker : Worker) (txHash : Hash) : Prop :=
  (∃ record ∈ worker.batch, record.txHash = txHash) ∨ ∃ tx ∈ worker.signed, tx.hash = txHash

def Worker.Allows (worker : Worker) {β : Type} (op : Op β) : Prop :=
  match op with
  | .store (.getMessageJournalInfo rowId) => worker.owed = some (rowId, none)
  | .store (.reserveCapacity amount cell) =>
    ∃ rowId, worker.owed = some (rowId, some amount) ∧ cell = some rowId
  | .store (.transitionMessage _ target) => worker.owed = none ∧ target ≠ .failed
  | .store (.recordOutgoingTx record) =>
    worker.owed = none ∧ (∃ rowIds, record.purpose = .reclaim rowIds) ∧
      ∃ tx ∈ worker.signed, record.txHash = tx.hash ∧ record.txHex = some tx
  | .store (.markOutgoingTxState txHash state) =>
    worker.owed = none ∧
      ((state = .committed ∧ worker.seen = some (txHash, .committed)) ∨
        (state = .rejected ∧ ∃ reason, worker.seen = some (txHash, .rejected reason)) ∨
        (state = .abandoned ∧ worker.Handles txHash))
  | .store (.markOutgoingTxStateIf txHash ..) => worker.owed = none ∧ worker.Handles txHash
  | .store (.findLatestOutgoingTxByPurposePrefix start) => worker.owed = none ∧ start = .reclaim
  | .store (.setEnvelopeMessageId ..) => False
  | .store (.insertMessage input) => worker.owed = none ∧ input.state = .queued
  | .sendTransaction tx =>
    worker.owed = none ∧ ((∃ record ∈ worker.batch, record.txHex = some tx) ∨ tx ∈ worker.signed)
  | .signTransaction raw => worker.owed = none ∧ raw.envelope? = none
  | _ => worker.owed = none

/-- What a thread of the wallet is at. -/
inductive Activity where
  | publishing (input : PublishTextInput) (phase : Phase)
  | working (worker : Worker)
  | retrying (rowId : Nat)
  | rested

def Activity.start : Job → Activity
  | .publishText input => publishing input .consulting
  | .runPendingTransactions => working .start
  | .retryMessage rowId => retrying rowId

/-- The automaton that watches the calls of the app. -/
def watch : Automaton Op Error Activity where
  allowed _ activity op :=
    match activity, op with
    | .publishing input phase, op => phase.Allows input op
    | .working worker, op => worker.Allows op
    | .retrying rowId, .store (.transitionMessage id target) => id = rowId ∧ target = .queued
    | _, _ => False
  next _ activity op answer :=
    match activity with
    | .publishing input phase => .publishing input (phase.next input op answer)
    | .working worker => .working (worker.next op answer)
    | _ => .rested

/-- A thread may end anywhere but between landing a message and reserving for its cell. -/
def Activity.MayEnd : Activity → Prop
  | publishing _ (.walking (some amount) []) => amount = 0
  | working worker => worker.owed = none
  | _ => True

end cemp.wallet
