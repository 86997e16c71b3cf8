import CempMobile.Core.Json
import CempMobile.Database.Store
import CempMobile.Images.Manifest
import CempMobile.Lib.Program

open cemp.core cemp.database cemp.images

namespace cemp.ckb

/-- What fee and input completion added to a transaction: the inputs coin selection chose, the
    capacity of the change cell, when there is one, and the fee that is left. -/
structure Completion where
  inputs : List OutPoint
  change : Option Nat
  estimatedFee : Nat
  deriving DecidableEq, Repr

/-- The steps of the pipelines and workers: an access to the database, or a call to something
    outside it. What lies between two steps happens at once. -/
inductive Op : Type → Type 1 where
  | store {β : Type} (op : StoreOp β) : Op β
  /-- The calls of `CempClient`. -/
  | getTransaction (txHash : Hash) : Op TransactionStatus
  | sendTransaction (tx : Transaction) : Op Hash
  | getLiveCell (outPoint : OutPoint) : Op LiveCellStatus
  /-- `completeInputsByCapacity` and `completeFeeBy` of the signer's CCC client. -/
  | completeTransaction (tx : RawTransaction) : Op Completion
  | signTransaction (tx : RawTransaction) : Op Transaction
  /-- `cache.markTransactions` of the signer's CCC client. -/
  | markTransactions (tx : Transaction) : Op Unit
  /-- Whether the deadline of a wait has passed, after a poll. -/
  | deadlinePassed : Op Bool
  | now : Op Nat
  | randomBytes (length : Nat) : Op Bytes
  | randomPadding : Op Bytes
  /-- The publisher's `senderProfileId` callback. -/
  | senderProfileId : Op ProfileId
  /-- `resolveLiveProfile` and `checkResolvedProfileBinding`: the recipient's KEM key. -/
  | resolveLiveProfile (profileId : ProfileId) : Op Bytes
  /-- `encryptEnvelope`: it seals the payload under the header, or fails. A fixed KEM message
      and nonce may be given. -/
  | encryptEnvelope (envelope : CempEnvelopeV1) (recipientKemPublicKey : Bytes)
      (fixed : Option (Bytes × Bytes)) : Op Unit
  /-- `notifier.post` for a message row. -/
  | notify (rowId : Nat) : Op Unit
  /-- A prefix search of the indexer over the args of a type script. -/
  | findCells (codeHash : Hash) (hashType : HashType) (args : Bytes) (after : Option String) :
      Op CellPage
  /-- Whether the lease of an outpoint was free. -/
  | acquireLease (outPoint : OutPoint) : Op Bool
  | releaseLease (outPoint : OutPoint) : Op Unit
  /-- The worker's `ownProfileId` callback: nothing before a profile is published. -/
  | ownProfileId : Op (Option ProfileId)
  /-- `localSettings.get`. -/
  | getSetting (key : String) : Op (Option String)
  /-- `cursors.get` and `cursors.set`: the persisted cursor of a worker. -/
  | getCursor (worker : String) : Op (Option String)
  | setCursor (worker cursor : String) : Op Unit
  /-- A `fetch` of `/cemp/objects` from the LoRa gateway, for a route tag and past a cursor. -/
  | fetchObjects (baseUrl : String) (routeTag : Bytes) (since : Option String) : Op HttpResponse
  /-- `prepareImage`: it decodes, resizes and compresses an image with the platform's codec. -/
  | prepareImage (sourceBytes : Bytes) (format : Option ImageEncodeFormat) : Op PreparedImage
  /-- The entry of `processDiscoveredCell`. It does nothing: it is here for the specifications. -/
  | processing (cell : IndexedCell) : Op Unit
  /-- The call of `reclaimAttachmentGroup` for a message row. It does nothing either. -/
  | reclaiming (rowId : Nat) (outpoints : List OutPoint) : Op Unit

/-- The programs of this repository. -/
abbrev Prog (α : Type) : Type 1 := Program Op Error α

/-- One step as a program. -/
abbrev call {β : Type} (op : Op β) : Prog β := Program.perform op

/-- One database access as a program. -/
abbrev store {β : Type} (op : StoreOp β) : Prog β := Program.perform (.store op)

end cemp.ckb
