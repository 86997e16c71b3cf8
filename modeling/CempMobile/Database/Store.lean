import CempMobile.Database.Attachments
import CempMobile.Database.Balances
import CempMobile.Database.Contacts
import CempMobile.Database.Messages
import CempMobile.Database.OutgoingTransactions

open cemp.core

namespace cemp.database

/-- A message as the lifecycle sees it. -/
structure LifecycleMessage where
  rowId : Nat
  state : MessageState
  chainRef : Option OutPoint
  deriving DecidableEq, Repr

/-- The accesses of the pipelines and the workers to the database: the publication and
    lifecycle stores, then the repositories the workers use directly. Each is one step. -/
inductive StoreOp : Type → Type where
  | transitionMessage (rowId : Nat) (target : MessageState) : StoreOp Unit
  | getMessageState (rowId : Nat) : StoreOp (Option MessageState)
  | setMessageChainRef (rowId : Nat) (ref : OutPoint) : StoreOp Unit
  | setEnvelopeMessageId (rowId : Nat) (envelopeMessageIdHex : MessageId) : StoreOp Unit
  | recordOutgoingTx (tx : OutgoingTransaction) : StoreOp Unit
  | markOutgoingTxState (txHash : Hash) (state : TxState) : StoreOp Unit
  | markOutgoingTxStateIf (txHash : Hash) (expectedFromState state : TxState) : StoreOp Nat
  | findOutgoingTxByPurpose (purpose : TxPurpose) : StoreOp (Option OutgoingTransaction)
  | findLatestOutgoingTxByPurposePrefix (start : PurposePrefix) :
      StoreOp (Option OutgoingTransaction)
  | findOutgoingByEnvelopeMessageId (envelopeMessageIdHex : MessageId) :
      StoreOp (Option (Nat × MessageState))
  | listOutgoingByState (state : MessageState) : StoreOp (List LifecycleMessage)
  /-- `cell` names the message row whose cell is reserved, if it is a message's. It is here
      for the specifications: the ledger only sees the amount. -/
  | reserveCapacity (amountShannon : Nat) (cell : Option Nat) : StoreOp Unit
  | markCapacityReclaimable (amountShannon : Nat) : StoreOp Unit
  | releaseReclaimedCapacity (amountShannon : Nat) : StoreOp Unit
  | recordFeeBurn (amountShannon : Nat) : StoreOp Unit
  | getBalance : StoreOp WalletBalance
  | getMessageJournalInfo (rowId : Nat) : StoreOp (Option (LogicalMessageId × Option Nat))
  | registerWatch (outPoint : OutPoint) (purpose : WatchPurpose) : StoreOp Unit
  | listActiveWatches : StoreOp (List WatchedOutpoint)
  | markWatchSpent (outPoint : OutPoint) (spentBy : Spender) : StoreOp Unit
  | pruneSpentWatches : StoreOp Nat
  | markAttachmentRemoteDownloaded (rowId : Nat) : StoreOp Unit
  | getMessage (id : Nat) : StoreOp (Option Message)
  | getMessageByLogicalId (id : LogicalMessageId) : StoreOp (Option (Nat × Message))
  | insertMessage (input : NewMessage) : StoreOp (Nat × Message)
  | listMessagesByState (states : List MessageState) : StoreOp (List (Nat × Message))
  | getChainRef (messageId : Nat) : StoreOp (Option MessageChainRef)
  | setChainRef (ref : MessageChainRef) : StoreOp Unit
  | listOutgoingTxByState (state : TxState) : StoreOp (List OutgoingTransaction)
  | isBlockedByProfileId (profileIdHex : ProfileId) : StoreOp Bool
  | getContactByProfileId (profileIdHex : ProfileId) : StoreOp (Option (Nat × Contact))
  | createContact (contact : Contact) : StoreOp Nat
  | getContact (id : Nat) : StoreOp (Option Contact)
  | getOrCreateConversation (contactId : Nat) : StoreOp Nat
  | getConversation (id : Nat) : StoreOp (Option Conversation)
  | listAttachments (messageId : Nat) : StoreOp (List (Nat × Attachment))
  | createAttachment (input : Attachment) : StoreOp Unit
  | getRateLimit (bucket : BucketName) : StoreOp (Option RateLimitBucket)
  | setRateLimit (bucket : RateLimitBucket) : StoreOp Unit
  | getActiveProfileByAccount (accountId : Nat) : StoreOp (Option StoredProfile)
  | createProfile (input : StoredProfile) : StoreOp Unit

/-- The chain reference of a message, when it is complete. -/
def lifecycleChainRef (db : Db) (rowId : Nat) : Option OutPoint :=
  match MessageRepository.chainRef? db rowId with
  | some ⟨_, some txHash, some outpointIndex, _, _⟩ => some ⟨txHash, outpointIndex⟩
  | _ => none

/-- The logical id of a message row and the capacity its latest journal record carries. -/
def messageJournalInfo (db : Db) (rowId : Nat) : Option (LogicalMessageId × Option Nat) :=
  (db.messages.get? rowId).map fun m =>
    (m.logicalMessageId,
      (OutgoingTransactionRepository.latestByPurpose db (.message m.logicalMessageId)).bind
        (·.capacityShannon))

/-- What each access does: `DatabasePublicationStore` over the repositories. -/
def StoreOp.exec : {β : Type} → StoreOp β → Method β
  | _, transitionMessage rowId target => MessageRepository.transitionState rowId target
  | _, getMessageState rowId => .read fun db => (db.messages.get? rowId).map (·.state)
  | _, setMessageChainRef rowId ref =>
    MessageRepository.setChainRef ⟨rowId, some ref.txHash, some ref.index, none, none⟩
  | _, setEnvelopeMessageId rowId id => MessageRepository.setEnvelopeMessageId rowId id
  | _, recordOutgoingTx tx => OutgoingTransactionRepository.record tx
  | _, markOutgoingTxState txHash state => OutgoingTransactionRepository.markState txHash state
  | _, markOutgoingTxStateIf txHash expected state =>
    OutgoingTransactionRepository.markStateIf txHash expected state
  | _, findOutgoingTxByPurpose purpose =>
    OutgoingTransactionRepository.findLatestByPurpose purpose
  | _, findLatestOutgoingTxByPurposePrefix start =>
    OutgoingTransactionRepository.findLatestByPurposePrefix start
  | _, findOutgoingByEnvelopeMessageId id => .read fun db =>
    (MessageRepository.byEnvelopeMessageId db id).map fun row => (row.1, row.2.state)
  | _, listOutgoingByState state => .read fun db =>
    (MessageRepository.selectByState db [state] 500).map fun row =>
      ⟨row.1, row.2.state, lifecycleChainRef db row.1⟩
  | _, reserveCapacity amount _ => BalanceRepository.reserveCapacity amount
  | _, markCapacityReclaimable amount => BalanceRepository.markReclaimable amount
  | _, releaseReclaimedCapacity amount => BalanceRepository.releaseReclaimedCapacity amount
  | _, recordFeeBurn amount => BalanceRepository.recordFeeBurn amount
  | _, getBalance => .read (·.balance)
  | _, getMessageJournalInfo rowId => .read fun db => messageJournalInfo db rowId
  | _, registerWatch outPoint purpose => WatchedOutpointRepository.register outPoint purpose
  | _, listActiveWatches => WatchedOutpointRepository.listActive
  | _, markWatchSpent outPoint spentBy => WatchedOutpointRepository.markSpent outPoint spentBy
  | _, pruneSpentWatches => WatchedOutpointRepository.pruneSpent
  | _, markAttachmentRemoteDownloaded rowId => AttachmentRepository.markRemoteDownloaded rowId
  | _, getMessage id => MessageRepository.getById id
  | _, getMessageByLogicalId id => MessageRepository.getByLogicalId id
  | _, insertMessage input => MessageRepository.insert input
  | _, listMessagesByState states => MessageRepository.listByState states
  | _, getChainRef messageId => MessageRepository.getChainRef messageId
  | _, setChainRef ref => MessageRepository.setChainRef ref
  | _, listOutgoingTxByState state => OutgoingTransactionRepository.listByState state
  | _, isBlockedByProfileId profileId => ContactRepository.isBlockedByProfileId profileId
  | _, getContactByProfileId profileId => ContactRepository.getByProfileId profileId
  | _, createContact contact => ContactRepository.create contact
  | _, getContact id => ContactRepository.getById id
  | _, getOrCreateConversation contactId => ConversationRepository.getOrCreateForContact contactId
  | _, getConversation id => ConversationRepository.getById id
  | _, listAttachments messageId => AttachmentRepository.listForMessage messageId
  | _, createAttachment input => AttachmentRepository.create input
  | _, getRateLimit bucket => RateLimitRepository.get bucket
  | _, setRateLimit bucket => RateLimitRepository.set bucket
  | _, getActiveProfileByAccount accountId => ProfileRepository.getActiveByAccount accountId
  | _, createProfile input => ProfileRepository.create input

end cemp.database
