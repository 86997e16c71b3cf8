import CempMobile.Ckb.PublisherSteps
import CempMobile.Ckb.ReclaimSteps
import CempMobile.Ckb.Responder
import CempMobile.Sync.Advance
import CempMobile.Sync.Discovery

open cemp.core cemp.database cemp.ckb

namespace cemp.database

/-- The watch an access would register. -/
def StoreOp.registers : {β : Type} → StoreOp β → Option (OutPoint × WatchPurpose)
  | _, registerWatch outPoint purpose => some (outPoint, purpose)
  | _, _ => none

/-- The outpoint whose watch an access would mark spent. -/
def StoreOp.spends : {β : Type} → StoreOp β → Option OutPoint
  | _, markWatchSpent outPoint _ => some outPoint
  | _, _ => none

end cemp.database

namespace cemp.sync

/-- The states the workers move messages to, other than by a publish or after a response. -/
def WORKER_STATES : List MessageState :=
  [.committed, .available_on_chain, .downloaded_by_recipient, .acknowledged, .reclaim_queued,
    .reclaim_pending, .reclaimed, .downloading, .decrypting, .received, .remote_reclaimed]

/-- What an access of a worker may write, other than in a publish or after a response. -/
structure WorkerAccess {β : Type} (access : StoreOp β) : Prop where
  moves : ∀ rowId target, access.moves = some (rowId, target) → target ∈ WORKER_STATES
  records : ∀ tx, access.records = some tx → tx.state = .submitted
  registers : access.registers = none

/-- The steps of the workers. -/
def WorkerStep : (β : Type) → Op β → Prop
  | _, .store access => WorkerAccess access
  | _, _ => True

/-- The steps of an ingest: beside the database it reads the clock and posts notifications. -/
def IngestStep : (β : Type) → Op β → Prop
  | _, .store access => WorkerAccess access
  | _, .now => True
  | _, .notify _ => True
  | _, _ => False

/-- The row whose chain reference an operation would write. -/
def refers : {β : Type} → Op β → Option Nat
  | _, .store access => access.refers
  | _, _ => none

/-- A step that writes no chain reference. -/
def Unreferring (ok : ∀ β : Type, Op β → Prop) (β : Type) (op : Op β) : Prop :=
  ok β op ∧ refers op = none

section Steps

variable {β : Type} {access : StoreOp β} {ok : ∀ β : Type, Op β → Prop}

theorem IngestStep.worker {op : Op β} (h : IngestStep β op) : WorkerStep β op := by
  cases op with
  | store access => exact h
  | _ => trivial

theorem Unreferring.mono {ok' : ∀ β : Type, Op β → Prop} {op : Op β} (h : Unreferring ok β op)
    (hsub : ok β op → ok' β op) : Unreferring ok' β op := ⟨hsub h.1, h.2⟩

theorem workerAccess_of_none (hmoves : access.moves = none) (hrecords : access.records = none)
    (hregisters : access.registers = none) : WorkerAccess access where
  moves rowId target h := by
    rw [hmoves] at h
    cases h
  records tx h := by
    rw [hrecords] at h
    cases h
  registers := hregisters

theorem workerAccess_transition (rowId : Nat) {target : MessageState} (h : target ∈ WORKER_STATES) :
    WorkerAccess (.transitionMessage rowId target) where
  moves rowId target' hmove := by
    cases hmove
    exact h
  records _ h := by cases h
  registers := rfl

variable (hok : ∀ {β : Type} {access : StoreOp β}, WorkerAccess access → ok β (.store access))
include hok

theorem uses_access (hmoves : access.moves = none) (hrecords : access.records = none)
    (hregisters : access.registers = none) (hrefers : access.refers = none) :
    Program.Uses (Unreferring ok) (store access) :=
  Program.uses_perform.2 ⟨hok (workerAccess_of_none hmoves hrecords hregisters), hrefers⟩

theorem uses_transition (rowId : Nat) {target : MessageState} (h : target ∈ WORKER_STATES) :
    Program.Uses (Unreferring ok) (store (.transitionMessage rowId target)) :=
  Program.uses_perform.2 ⟨hok (workerAccess_transition rowId h), rfl⟩

theorem queueForReclaim_uses (rowId : Nat) (state : MessageState) :
    Program.Uses (Unreferring ok) (queueForReclaim rowId state) := by
  have downloaded := uses_transition hok rowId
    (show MessageState.downloaded_by_recipient ∈ WORKER_STATES by decide)
  have acknowledged := uses_transition hok rowId
    (show MessageState.acknowledged ∈ WORKER_STATES by decide)
  have queued := uses_transition hok rowId (show MessageState.reclaim_queued ∈ WORKER_STATES by decide)
  unfold queueForReclaim
  split_ifs
  · exact downloaded.bind fun _ => acknowledged.bind fun _ => queued
  · exact acknowledged.bind fun _ => queued
  · exact downloaded.bind fun _ => queued
  · exact queued

theorem applyReceipt_uses (receipt : Receipt) :
    Program.Uses (Unreferring ok) (applyReceipt receipt) := by
  unfold applyReceipt
  split
  · refine (uses_access hok rfl rfl rfl rfl).bind fun target => ?_
    cases target with
    | none => trivial
    | some row => exact (uses_access hok rfl rfl rfl rfl).bind fun _ => trivial
  · split
    · trivial
    · refine (uses_access hok rfl rfl rfl rfl).bind fun found => ?_
      split
      · trivial
      · split
        · trivial
        · refine (queueForReclaim_uses hok _ _).bind fun _ => ?_
          refine (uses_access hok rfl rfl rfl rfl).bind fun journal => ?_
          split
          · exact (uses_access hok rfl rfl rfl rfl).bind fun _ => trivial
          · trivial

theorem processAcknowledgements_uses (receipts : List Receipt) :
    Program.Uses (Unreferring ok) (processAcknowledgements receipts) := by
  induction receipts with
  | nil => trivial
  | cons receipt receipts ih =>
    exact (applyReceipt_uses hok receipt).bind fun _ => Program.Uses.bind ih fun _ => trivial

theorem reserveCommittedCapacity_uses (rowId : Nat) :
    Program.Uses (Unreferring ok) (reserveCommittedCapacity rowId) := by
  refine (uses_access hok rfl rfl rfl rfl).bind fun journal => ?_
  split
  · split
    · exact uses_access hok rfl rfl rfl rfl
    · trivial
  · trivial

omit hok

theorem Prepares.ingest {inserted : Option LogicalMessageId} {op : Op β}
    (h : Prepares inserted β op) : Unreferring IngestStep β op := by
  cases op with
  | store access =>
    cases access with
    | _ => first | exact h.elim | exact ⟨workerAccess_of_none rfl rfl rfl, rfl⟩
  | now => exact ⟨trivial, rfl⟩
  | _ => exact h.elim

end Steps

section Ingest

variable {ok : ∀ β : Type, Op β → Prop}
  (hok : ∀ {β : Type} {access : StoreOp β}, WorkerAccess access → ok β (.store access))
include hok

theorem queueAcknowledgement_uses (conversationId : Nat) (original : LogicalMessageId)
    (originalCell : OutPoint) :
    Program.Uses ok (queueAcknowledgement conversationId original originalCell) := by
  have access : ∀ {β : Type} {access : StoreOp β}, access.moves = none → access.records = none →
      access.registers = none → Program.Uses ok (store access) :=
    fun hmoves hrecords hregisters =>
      Program.uses_perform.2 (hok (workerAccess_of_none hmoves hrecords hregisters))
  refine (access rfl rfl rfl).bind fun existing => ?_
  cases existing with
  | some _ => trivial
  | none => exact (access rfl rfl rfl).bind fun row => access rfl rfl rfl

theorem advanceIncomingToReceived_uses (hnotify : ∀ rowId, ok Unit (.notify rowId)) (messageId : Nat)
    (state : MessageState) (context : AdvanceContext) :
    Program.Uses ok (advanceIncomingToReceived messageId state context) := by
  unfold advanceIncomingToReceived
  split
  · trivial
  next startIndex _ =>
    have hwalk : ∀ target ∈ INCOMING_ADVANCE_ORDER.drop (startIndex + 1), target ∈ WORKER_STATES := by
      intro target h
      have hall : ∀ state ∈ INCOMING_ADVANCE_ORDER.drop 1, state ∈ WORKER_STATES := by decide
      rw [Nat.add_comm, ← List.drop_drop] at h
      exact hall target (List.mem_of_mem_drop h)
    refine Program.Uses.bind (Program.Uses.forEach fun target h => ?_) fun _ => ?_
    · exact Program.uses_perform.2 (hok (workerAccess_transition messageId (hwalk target h)))
    · refine Program.Uses.bind (Program.uses_perform.2 (hnotify _)) fun _ => ?_
      cases context.cell with
      | none => trivial
      | some cell => exact queueAcknowledgement_uses hok _ _ _

omit hok

theorem ingestMessage_uses (config : RateLimiterConfig) (incoming : IncomingTextMessage)
    (source : Option OutPoint) : Program.Uses IngestStep (ingestMessage config incoming source) := by
  have access : ∀ {β : Type} {access : StoreOp β}, access.moves = none → access.records = none →
      access.registers = none → Program.Uses IngestStep (store access) :=
    fun hmoves hrecords hregisters =>
      Program.uses_perform.2 (workerAccess_of_none hmoves hrecords hregisters)
  have prepares : ∀ {α : Type} {inserted : Option LogicalMessageId} {p : Prog α},
      Program.Uses (Prepares inserted) p → Program.Uses IngestStep p :=
    fun h => h.mono fun _ _ h => h.ingest.1
  have receipts : Program.Uses IngestStep (processAcknowledgements incoming.receipts) :=
    (processAcknowledgements_uses (fun h => h) _).mono fun _ _ h => h.1
  have advance : ∀ conversationId inserted,
      Program.Uses IngestStep (advanceInserted incoming source conversationId inserted) := by
    intro conversationId inserted
    have advanced : Program.Uses IngestStep (advanceIncomingToReceived inserted.1 inserted.2.state
        ⟨conversationId, inserted.2.logicalMessageId, source⟩) :=
      advanceIncomingToReceived_uses (fun h => h) (fun _ => trivial) _ _ _
    unfold advanceInserted
    split
    · refine (access rfl rfl rfl).bind fun _ => ?_
      cases source with
      | none => exact advanced
      | some cell => exact (access rfl rfl rfl).bind fun _ => advanced
    · trivial
  unfold ingestMessage
  refine (access rfl rfl rfl).bind fun blocked => ?_
  split
  · trivial
  · split
    · exact receipts.bind fun _ => trivial
    · refine (prepares (consume_prepares config incoming.senderProfileId)).bind fun admitted => ?_
      split
      · trivial
      · refine Program.Uses.bind ((prepares (storeRow_prepares incoming)).bind fun stored =>
          advance stored.1 stored.2) fun _ => ?_
        split
        · exact receipts.bind fun _ => trivial
        · trivial

theorem ingestIncomingCellData_uses (config : RateLimiterConfig) (ownProfileId : ProfileId)
    (decryptEnvelope : Except Error DecryptedEnvelope) (source : Option OutPoint) :
    Program.Uses IngestStep (ingestIncomingCellData config ownProfileId decryptEnvelope source) := by
  unfold ingestIncomingCellData
  split
  · trivial
  · exact ingestMessage_uses _ _ _

end Ingest

/-- A worker step that writes no chain reference. -/
abbrev PlainWork : (β : Type) → Op β → Prop := Unreferring WorkerStep

section Access

variable {β : Type} {access : StoreOp β} {α : Type}

theorem plain_access (hmoves : access.moves = none) (hrecords : access.records = none)
    (hregisters : access.registers = none) (hrefers : access.refers = none) :
    Program.Uses PlainWork (store access) :=
  uses_access (fun h => h) hmoves hrecords hregisters hrefers

theorem plain_transition (rowId : Nat) {target : MessageState} (h : target ∈ WORKER_STATES) :
    Program.Uses PlainWork (store (.transitionMessage rowId target)) :=
  uses_transition (fun h => h) rowId h

theorem plain_call {op : Op β} (h : PlainWork β op) : Program.Uses PlainWork (call op) :=
  Program.uses_perform.2 h

theorem work_of_plain {p : Prog α} (h : Program.Uses PlainWork p) : Program.Uses WorkerStep p :=
  h.mono fun _ _ h => h.1

end Access

section Reclaim

variable (deps : PipelineDeps)

/-- The steps of a reclaim are worker steps. -/
theorem ReclaimStep.plain {covers : TxPurpose → Prop} {β : Type} {op : Op β}
    (h : ReclaimStep covers β op) : PlainWork β op := by
  have htargets : ∀ target ∈ RECLAIM_STATES, target ∈ WORKER_STATES := by decide
  cases op with
  | store access =>
    cases access with
    | transitionMessage rowId target => exact ⟨workerAccess_transition rowId (htargets target h), rfl⟩
    | recordOutgoingTx tx =>
      refine ⟨⟨fun _ _ hmove => (by cases hmove), fun tx' hrecord => ?_, rfl⟩, rfl⟩
      obtain rfl : tx = tx' := Option.some.inj hrecord
      exact h.1
    | _ => first | exact h.elim | exact ⟨workerAccess_of_none rfl rfl rfl, rfl⟩
  | _ => first | exact h.elim | exact ⟨trivial, rfl⟩

theorem executeReclaimBatch_uses (timeoutMs : Option Nat) :
    Program.Uses PlainWork (executeReclaimBatch deps timeoutMs) :=
  (executeReclaimBatch_steps timeoutMs).mono fun _ _ h => ReclaimStep.plain h

end Reclaim

section Passes

variable (deps : PipelineDeps)

theorem advanceCommittedMessage_uses (logicalId : LogicalMessageId) :
    Program.Uses PlainWork (advanceCommittedMessage logicalId) := by
  refine (plain_access rfl rfl rfl rfl).bind fun message => ?_
  split
  · split
    · refine Program.Uses.bind (plain_transition _ (by decide)) fun _ => ?_
      refine Program.Uses.bind (plain_transition _ (by decide)) fun _ => ?_
      exact reserveCommittedCapacity_uses (fun h => h) _
    · trivial
  · trivial

theorem scanSubmitted_uses (tx : OutgoingTransaction) :
    Program.Uses PlainWork (scanSubmitted deps tx) := by
  refine Program.Uses.bind (plain_call ⟨trivial, rfl⟩) fun status => ?_
  cases status with
  | committed =>
    simp only
    split
    · exact (executeReclaimBatch_uses deps none).bind fun _ => trivial
    · exact (plain_access rfl rfl rfl rfl).bind fun _ => advanceCommittedMessage_uses _
    · exact plain_access rfl rfl rfl rfl
  | rejected reason => exact plain_access rfl rfl rfl rfl
  | _ => trivial

theorem healStrandedOutgoing_uses (message : Nat × Message) :
    Program.Uses PlainWork (healStrandedOutgoing message) := by
  have available := (plain_transition message.1
    (show MessageState.available_on_chain ∈ WORKER_STATES by decide)).bind fun _ =>
      reserveCommittedCapacity_uses (fun h => h) message.1
  refine (plain_access rfl rfl rfl rfl).bind fun journal => ?_
  split
  · trivial
  · split
    · exact Program.Uses.bind (plain_transition _ (by decide)) fun _ => available
    · exact available

theorem healStrandedIncoming_uses : Program.Uses WorkerStep healStrandedIncoming := by
  refine (work_of_plain (plain_access rfl rfl rfl rfl)).bind fun rows => ?_
  refine Program.Uses.forEach fun message _ => Program.Uses.catchError ?_ fun _ => trivial
  refine (work_of_plain (plain_access rfl rfl rfl rfl)).bind fun ref => ?_
  exact advanceIncomingToReceived_uses (fun h => h) (fun _ => trivial) _ _ _

theorem runPendingTransactions_uses : Program.Uses WorkerStep (runPendingTransactions deps) := by
  refine (work_of_plain (plain_access rfl rfl rfl rfl)).bind fun submitted => ?_
  refine Program.Uses.bind (Program.Uses.forEach fun tx _ =>
    work_of_plain (scanSubmitted_uses deps tx)) fun _ => ?_
  refine (work_of_plain (plain_access rfl rfl rfl rfl)).bind fun stranded => ?_
  exact Program.Uses.bind (Program.Uses.forEach fun message _ =>
    work_of_plain (healStrandedOutgoing_uses message)) fun _ => healStrandedIncoming_uses

theorem pollWatch_uses (watch : WatchedOutpoint) : Program.Uses PlainWork (pollWatch watch) := by
  refine Program.Uses.bind (plain_call ⟨trivial, rfl⟩) fun status => ?_
  cases status with
  | dead =>
    refine (plain_access rfl rfl rfl rfl).bind fun _ => ?_
    split
    · exact Program.Uses.bind (plain_transition _ (by decide)) fun _ => trivial
    · trivial
  | _ => trivial

theorem pollWatches_uses (watches : List WatchedOutpoint) :
    Program.Uses PlainWork (pollWatches watches) := by
  induction watches with
  | nil => trivial
  | cons watch watches ih =>
    exact (pollWatch_uses watch).bind fun _ => Program.Uses.bind ih fun _ => trivial

theorem pollWatchesOnce_uses : Program.Uses PlainWork pollWatchesOnce := by
  refine (plain_access rfl rfl rfl rfl).bind fun watches => ?_
  refine (pollWatches_uses watches).bind fun spent => ?_
  split
  · exact (plain_access rfl rfl rfl rfl).bind fun _ => trivial
  · trivial

theorem discoverCell_uses (deps : SyncWorkerDeps) (ownProfileId : ProfileId) (cell : IndexedCell) :
    Program.Uses WorkerStep (discoverCell deps ownProfileId cell) := by
  have ingest : Program.Uses WorkerStep (processDiscoveredCell deps ownProfileId cell) :=
    (Program.uses_perform.2 trivial).bind fun _ =>
      (ingestIncomingCellData_uses _ _ _ _).mono fun _ _ h => h.worker
  refine (Program.uses_perform.2 trivial).bind fun leased => ?_
  split
  · refine Program.Uses.bind (Program.Uses.catchError (ingest.bind fun _ => trivial) fun _ => trivial)
      fun _ => ?_
    exact Program.uses_perform.2 trivial
  · trivial

theorem scanPages_uses {γ : Type} {ok : ∀ β : Type, Op β → Prop} (messageType : CempMessageTypeRef)
    (routeTag : Bytes) {body : γ → CellPage → Prog γ}
    (hfind : ∀ codeHash hashType args after, ok CellPage (.findCells codeHash hashType args after))
    (hbody : ∀ seen page, Program.Uses ok (body seen page)) (pages : Nat) (cursor : Option String)
    (seen : γ) : Program.Uses ok (scanPages messageType routeTag body pages cursor seen) := by
  have find : ∀ cursor, Program.Uses ok (findMessageCells messageType routeTag cursor) := by
    intro cursor
    refine Program.Uses.bind ?_ fun start =>
      (Program.uses_perform.2 (hfind _ _ _ _)).bind fun _ => trivial
    cases buildRouteTagPrefix routeTag <;> trivial
  induction pages generalizing cursor seen with
  | zero => trivial
  | succ pages ih =>
    refine (find cursor).bind fun page => (hbody seen page).bind fun seen => ?_
    split
    · trivial
    · exact ih _ _

theorem runIncomingDiscovery_uses (deps : SyncWorkerDeps) (pages : Nat) :
    Program.Uses WorkerStep (runIncomingDiscovery deps pages) := by
  refine (Program.uses_perform.2 trivial).bind fun own => ?_
  cases own with
  | none => trivial
  | some id =>
    refine (Program.uses_perform.2 trivial).bind fun nowMs => Program.Uses.forEach fun epoch _ => ?_
    refine scanPages_uses _ _ (fun _ _ _ _ => trivial) (fun _ page => ?_) _ _ _
    exact Program.Uses.forEach fun cell _ => discoverCell_uses deps id cell

end Passes

end cemp.sync
