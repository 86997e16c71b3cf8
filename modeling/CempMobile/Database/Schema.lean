import CempMobile.Ckb.Types
import CempMobile.Database.MessageStates
import CempMobile.Lib.Table
import Mathlib.Algebra.BigOperators.Group.List.Basic
import Mathlib.Algebra.Order.Field.Rat

open cemp.core cemp.ckb

namespace cemp.database

/-- The idempotency key of a message row. The source writes these as strings: a generated id
    for a composed message, and `incoming:`, `response:` and `ack-attachment:` in front of
    what they are about. -/
inductive LogicalMessageId where
  | composed (id : Nat)
  | incoming (messageId : MessageId)
  | response (original : LogicalMessageId)
  | ackAttachment (original : LogicalMessageId)
  deriving DecidableEq, Repr

/-- The purpose a journaled transaction is recorded under: `message:`, `reclaim:`,
    `attachment-chunks:` and `reclaim-attachment:` in front of what it covers, and
    `profile:create`. -/
inductive TxPurpose where
  | message (id : LogicalMessageId)
  | reclaim (rowIds : List Nat)
  | attachmentChunks (attachmentId : Bytes)
  | reclaimAttachment (groupId : Bytes)
  | profileCreate
  deriving DecidableEq, Repr

inductive TxState where
  | submitted | committed | rejected | abandoned
  deriving DecidableEq, Repr

/-- A row of `messages`. Its state is one of its direction's states. -/
structure Message where
  conversationId : Nat
  direction : MessageDirection
  state : MessageState
  body : Option String
  logicalMessageId : LogicalMessageId
  envelopeMessageIdHex : Option MessageId
  fits : state.Fits direction

/-- A row of `message_chain_refs`. -/
structure MessageChainRef where
  messageId : Nat
  txHash : Option Hash
  outpointIndex : Option Nat
  replyToTxHash : Option Hash
  replyToOutpointIndex : Option Nat
  deriving DecidableEq, Repr

/-- A row of `outgoing_transactions`, the journal. `txHex` holds the signed transaction. -/
structure OutgoingTransaction where
  txHash : Hash
  purpose : TxPurpose
  state : TxState
  feeShannon : Option Nat
  capacityShannon : Option Nat
  txHex : Option Transaction
  deriving DecidableEq, Repr

/-- A row of `attachments`. -/
@[ext] structure Attachment where
  messageId : Nat
  kind : String
  byteLength : Nat
  state : String
  manifest : Option AttachmentManifestV1
  attachmentKey : Option Bytes
  remoteDownloaded : Bool
  deriving DecidableEq, Repr

/-- A row of `contacts`. -/
structure Contact where
  displayName : String
  profileIdHex : Option ProfileId
  blocked : Bool
  deriving DecidableEq, Repr

/-- A row of `conversations`. -/
structure Conversation where
  contactId : Nat
  deriving DecidableEq, Repr

inductive WatchedOutpointStatus where
  | watching | spent
  deriving DecidableEq, Repr

/-- What a watch is for: `response:` with a row id, or another text. -/
inductive WatchPurpose where
  | response (rowId : Nat)
  | other (text : String)
  deriving DecidableEq, Repr

/-- Who spent a watched outpoint; `unknown-spender` is the sentinel of the watch poll. -/
inductive Spender where
  | tx (hash : Hash)
  | unknown_spender
  deriving DecidableEq, Repr

/-- A row of `watched_outpoints`. -/
structure WatchedOutpoint where
  outPoint : OutPoint
  purpose : WatchPurpose
  status : WatchedOutpointStatus
  spentByTxHash : Option Spender
  deriving DecidableEq, Repr

inductive ProfileState where
  | active | rotated | revoked
  deriving DecidableEq, Repr

/-- A row of `profiles`: a profile cell of an account of this device. -/
structure StoredProfile where
  accountId : Nat
  profileIdHex : ProfileId
  typeIdHex : Option Bytes
  outpointTxHash : Option Hash
  outpointIndex : Option Nat
  state : ProfileState
  previousProfileIdHex : Option ProfileId
  deriving DecidableEq, Repr

inductive RateLimitScope where
  | outgoing | incoming
  deriving DecidableEq, Repr

/-- A rate-limit bucket: a scope's global one, or the one of a contact. -/
structure BucketName where
  scope : RateLimitScope
  profileId : Option ProfileId
  deriving DecidableEq, Repr

/-- A row of `rate_limits`. -/
structure RateLimitBucket where
  bucket : BucketName
  tokens : ℚ
  updatedAtMs : Nat
  deriving DecidableEq

/-- The wallet's row of `wallet_balances`. -/
structure WalletBalance where
  totalShannon : Nat
  availableShannon : Nat
  reservedShannon : Nat
  reclaimableShannon : Nat
  pendingShannon : Nat
  deriving DecidableEq, Repr

def Message.key (m : Message) : Option LogicalMessageId := some m.logicalMessageId
def MessageChainRef.key (ref : MessageChainRef) : Option Nat := some ref.messageId
def OutgoingTransaction.key (tx : OutgoingTransaction) : Option Hash := some tx.txHash
def Attachment.key (a : Attachment) : Option Nat := some a.messageId
def Contact.key (c : Contact) : Option ProfileId := c.profileIdHex
def Conversation.key (c : Conversation) : Option Nat := some c.contactId
def WatchedOutpoint.key (w : WatchedOutpoint) : Option OutPoint := some w.outPoint
def StoredProfile.key (p : StoredProfile) : Option ProfileId := some p.profileIdHex
def RateLimitBucket.key (b : RateLimitBucket) : Option BucketName := some b.bucket

/-- The local database of one wallet. Every table enforces its UNIQUE column. -/
structure Db where
  messages : Table Message.key
  chainRefs : Table MessageChainRef.key
  outgoingTransactions : Table OutgoingTransaction.key
  balance : WalletBalance
  attachments : Table Attachment.key
  contacts : Table Contact.key
  conversations : Table Conversation.key
  watchedOutpoints : Table WatchedOutpoint.key
  rateLimits : Table RateLimitBucket.key
  profiles : Table StoredProfile.key

/-- A freshly migrated database with a zeroed balance. -/
def Db.empty : Db :=
  ⟨.empty, .empty, .empty, ⟨0, 0, 0, 0, 0⟩, .empty, .empty, .empty, .empty, .empty, .empty⟩

/-- The foreign keys the schema declares and the connection enforces, as far as ownership of a
    message depends on them. -/
structure Db.References (db : Db) : Prop where
  conversation : ∀ r ∈ db.messages.rows, (db.conversations.get? r.2.conversationId).isSome
  contact : ∀ r ∈ db.conversations.rows, (db.contacts.get? r.2.contactId).isSome
  attachment : ∀ r ∈ db.attachments.rows, (db.messages.get? r.2.messageId).isSome

theorem Db.References.empty : Db.empty.References :=
  ⟨fun _ h => absurd h (by simp [Db.empty]), fun _ h => absurd h (by simp [Db.empty]),
    fun _ h => absurd h (by simp [Db.empty])⟩

/-- A repository method: it answers or throws, and leaves a database. -/
abbrev Method (β : Type) : Type := Db → Except Error β × Db

/-- A method that only reads. -/
def Method.read {β : Type} (f : Db → β) : Method β := fun db => (.ok (f db), db)

end cemp.database
