import CempMobile.Ckb.MessageRoundTrip
import CempMobile.Ckb.MessageTypeArgs
import CempMobile.Ckb.Signing
import CempMobile.Images.Send
import CempMobile.Lib.Chunks
import CempMobile.Lib.MolSize

open Except Molecule mol cemp.core.codec cemp.crypto
open cemp.ckb.cighash cemp.ckb.signing

namespace cemp.images.footprint

/-! The two transactions of an image as they are built: the cells that carry its ciphertext, and
    the message cell with the envelope of its manifest. -/

inductive SendError where
  | plain (error : Error)
  | envelope (error : EnvelopeError)
  | message (error : ckb.wire.MessageError)
  deriving DecidableEq, Repr

def lift {ε α : Type} (wrap : ε → SendError) : Except ε α → Except SendError α
  | .ok value => .ok value
  | .error failure => .error (wrap failure)

/-! ### Encryption and chunks -/

def encryptAttachment (suite : Suite) (ckbHash : Buffer → Buffer)
    (plaintext attachmentKey attachmentId nonce : Buffer) : Except SendError EncryptedAttachment :=
  if attachmentKey.length ≠ 32 then
    .error (.plain (.other ("encryptAttachment: key is " ++ toString attachmentKey.length ++
      " bytes, expected 32")))
  else if attachmentId.length ≠ 16 then
    .error (.plain (.other ("encryptAttachment: attachment id is " ++
      toString attachmentId.length ++ " bytes, expected 16")))
  else do
    let ciphertext ← lift .envelope
      (aes256GcmEncrypt suite attachmentKey nonce plaintext (aadFor attachmentId))
    return ⟨attachmentId, nonce, ciphertext, ckbHash ciphertext⟩

def encryptPreparedChunks (suite : Suite) (ckbHash : Buffer → Buffer) (prepared : PreparedImage)
    (attachmentKey attachmentId nonce : Buffer) : Except SendError PreparedChunks := do
  let encrypted ← encryptAttachment suite ckbHash prepared.bytes attachmentKey attachmentId nonce
  let chunks ← lift .plain (splitIntoChunks encrypted.ciphertext ATTACHMENT_CHUNK_BYTES)
  return ⟨prepared, encrypted, chunks⟩

/-! ### The manifest -/

structure ChunkOutpoint where
  txHash : String
  index : Nat
  deriving DecidableEq, Repr

structure BuildManifestInput where
  attachmentId : Buffer
  chunkOutpoints : List ChunkOutpoint
  encryptedSize : Nat
  plaintextSize : Nat
  mimeType : String
  width : Nat
  height : Nat
  thumbnail : Option Buffer
  contentHash : Buffer
  cipherHash : Buffer
  encryptionNonce : Buffer
  reclaimGroupId : Buffer

/-- Strict: nothing is truncated or coerced. -/
def hexToBytes (hex : String) : Except Error Buffer :=
  match ckb.wire.hexPairs? (ckb.wire.strip0x hex) with
  | some bytes => .ok bytes
  | none => .error (.other "hexToBytes: expected even-length lowercase hex")

def manifestOutpoints : List ChunkOutpoint → Except Error (List OutPointV1)
  | [] => .ok []
  | outpoint :: rest => do
    let tx_hash ← hexToBytes outpoint.txHash
    let outpoints ← manifestOutpoints rest
    return ⟨tx_hash, outpoint.index⟩ :: outpoints

/-- The manifest of cells, the first of which doubles as the root. -/
def manifestOf (input : BuildManifestInput) (root : OutPointV1) (outpoints : List OutPointV1) :
    AttachmentManifestV1 where
  attachment_id := input.attachmentId
  ckbfs_root := root
  chunk_outpoints := outpoints
  encrypted_size := input.encryptedSize
  plaintext_size := input.plaintextSize
  mime_type := Utf8.encode input.mimeType.toList
  width := input.width
  height := input.height
  thumbnail := input.thumbnail
  content_hash := input.contentHash
  cipher_hash := input.cipherHash
  encryption_nonce := input.encryptionNonce
  encryption_algorithm := ⟨0x03, 1⟩
  reclaim_group_id := input.reclaimGroupId

def buildAttachmentManifest (input : BuildManifestInput) : Except Error AttachmentManifestV1 :=
  match manifestOutpoints input.chunkOutpoints with
  | .error failure => .error failure
  | .ok [] => .error (.other "buildAttachmentManifest: at least one chunk outpoint is required")
  | .ok (root :: rest) => .ok (manifestOf input root (root :: rest))

/-- Chunk `i` is output `i` of the chunk transaction. -/
def buildManifestForCommittedChunks (chunks : PreparedChunks) (chunksTxHash : String)
    (reclaimGroupId : Buffer) : Except Error AttachmentManifestV1 :=
  buildAttachmentManifest
    { attachmentId := chunks.encrypted.attachmentId
      chunkOutpoints := (List.range chunks.chunks.length).map fun index => ⟨chunksTxHash, index⟩
      encryptedSize := chunks.encrypted.ciphertext.length
      plaintextSize := chunks.prepared.bytes.length
      mimeType := chunks.prepared.mimeType
      width := chunks.prepared.width
      height := chunks.prepared.height
      thumbnail := some chunks.prepared.thumbnail
      contentHash := chunks.prepared.contentHash
      cipherHash := chunks.encrypted.cipherHash
      encryptionNonce := chunks.encrypted.nonce
      reclaimGroupId := reclaimGroupId }

/-! ### Transactions -/

def SHANNON_PER_CKB : Nat := 100000000
def DEFAULT_FEE_RATE : Nat := 1200
def CAPACITY_MARGIN : Nat := 100000000

structure CempMessageTypeRef where
  codeHash : Buffer
  hashType : HashType
  cellDep : CellDep
  deriving DecidableEq, Repr

/-- The signer's lock and the deployed scripts, which are two. -/
structure Wallet where
  lock : Script
  lockCellDep : CellDep
  messageType : CempMessageTypeRef
  lock_args : lock.args.length = 37
  deployments : messageType.cellDep ≠ lockCellDep

/-- What completes a transaction: selected cells, the capacity of a change cell unless nothing is
    left for one, and the fee that remains. -/
structure Completion where
  inputs : List CellInput
  change : Option Nat
  fee : Nat
  deriving DecidableEq, Repr

/-- What the builders leave to CCC: the capacity that an output with its data occupies, and the
    completion of a transaction at a fee rate. -/
structure Ccc where
  occupied : CellOutput → Buffer → Nat
  complete : Wallet → RawTransaction → Nat → Except Error Completion

structure BuiltTransaction where
  tx : RawTransaction
  estimatedFee : Nat
  deriving DecidableEq, Repr

/-- The transaction with its completion: change goes to the signer. -/
def completed (wallet : Wallet) (tx : RawTransaction) (completion : Completion) : RawTransaction :=
  { (Transaction.addCellDeps ⟨tx, []⟩ wallet.lockCellDep).raw with
    inputs := tx.inputs ++ completion.inputs
    outputs := tx.outputs ++ (completion.change.map fun capacity => ⟨capacity, wallet.lock, none⟩).toList
    outputsData := tx.outputsData ++ (completion.change.map fun _ => []).toList }

section Builders

variable (ccc : Ccc) (wallet : Wallet)

/-- An output without a capacity is given the one it occupies, and the margin on top. -/
def sized (lock : Script) (type : Option Script) (data : Buffer) : CellOutput :=
  ⟨ccc.occupied ⟨0, lock, type⟩ data + CAPACITY_MARGIN, lock, type⟩

def completeAndFinalize (tx : RawTransaction) : Except Error BuiltTransaction := do
  let completion ← ccc.complete wallet tx DEFAULT_FEE_RATE
  if completion.fee = 0 then
    .error (.ckb "builders" "fee completion left a non-positive fee (0)")
  else return ⟨completed wallet tx completion, completion.fee⟩

def buildDataCellsTx (datasets : List Buffer) : Except Error BuiltTransaction :=
  if datasets = [] then .error (.ckb "buildDataCellsTx" "no datasets given")
  else if datasets.any List.isEmpty then
    .error (.ckb "buildDataCellsTx" "refusing an empty data cell payload")
  else completeAndFinalize ccc wallet
    ⟨0, [], [], [], datasets.map (sized ccc wallet.lock none), datasets⟩

variable (reader : Reader) (libraryText : String)

def buildSendMessageTx (assembled : ckb.wire.AssembledMessage) : Except Error BuiltTransaction :=
  let envelopeBytes := assembled.envelopeBytes
  if envelopeBytes.length = 0 then .error (.ckb "buildSendMessageTx" "envelope is empty")
  else if core.V1_LIMITS.maxEnvelopeBytes < envelopeBytes.length then
    .error (.ckb "buildSendMessageTx" ("envelope is " ++ toString envelopeBytes.length ++
      " bytes, exceeds the " ++ toString core.V1_LIMITS.maxEnvelopeBytes ++
      "-byte limit (spec §11)"))
  else match validateEnvelope reader libraryText envelopeBytes with
  | .fail reason => .error (.ckb "buildSendMessageTx" ("envelope rejected: " ++ reason))
  | .ok => do
    let typeArgs ← ckb.buildMessageTypeArgs assembled.routeTag assembled.conversationTag
      assembled.messageNonce
    let type : Script := ⟨wallet.messageType.codeHash, wallet.messageType.hashType, typeArgs⟩
    completeAndFinalize ccc wallet
      ⟨0, [wallet.messageType.cellDep], [], [], [sized ccc wallet.lock (some type) envelopeBytes],
        [envelopeBytes]⟩

end Builders

/-! ### The send -/

/-- Who sends to whom. -/
structure Parties where
  senderProfileId : Buffer
  senderDeviceId : Buffer
  recipientProfileId : Buffer
  recipientKemPublicKey : Buffer

/-- What a send draws, and the clock. -/
structure Drawn where
  kemMessage : Buffer
  nonce : Buffer
  attachmentId : Buffer
  attachmentNonce : Buffer
  reclaimGroupId : Buffer
  ambient : ckb.wire.Ambient

/-- How the message of an image is assembled. -/
def imageParams (parties : Parties) (drawn : Drawn) (caption : String)
    (manifest : AttachmentManifestV1) : ckb.wire.AssembleTextMessageParams where
  text := caption
  senderProfileId := parties.senderProfileId
  recipientProfileId := parties.recipientProfileId
  recipientKemPublicKey := parties.recipientKemPublicKey
  senderDeviceId := parties.senderDeviceId
  replyTo := none
  receipts := none
  receiptRequest := some 1
  attachmentManifests := some [manifest]
  contentType := some .AttachmentManifest
  messageId := none
  nowMs := none
  attachmentEnvelope := some ⟨drawn.kemMessage, drawn.nonce⟩

/-- What CCC, the cryptography and the wire library do for a send. -/
structure Libraries where
  ccc : Ccc
  suite : Suite
  ckbHash : Buffer → Buffer
  reader : Reader
  libraryText : String

structure ImageTransactions where
  chunks : PreparedChunks
  assembled : ckb.wire.AssembledMessage
  chunksTx : BuiltTransaction
  messageTx : BuiltTransaction

/-- The transactions that the publish of a prepared image builds. Between them the first one is
    committed, under the hash that is given. -/
def imageTransactions (lib : Libraries) (wallet : Wallet) (parties : Parties) (drawn : Drawn)
    (prepared : PreparedImage) (caption chunksTxHash : String) :
    Except SendError ImageTransactions := do
  let attachmentKey ← lift .envelope (deriveSendAttachmentKey lib.suite
    ⟨parties.recipientKemPublicKey, drawn.kemMessage, drawn.nonce, parties.senderProfileId,
      parties.recipientProfileId⟩)
  let chunks ← encryptPreparedChunks lib.suite lib.ckbHash prepared attachmentKey
    drawn.attachmentId drawn.attachmentNonce
  let chunksTx ← lift .plain (buildDataCellsTx lib.ccc wallet chunks.chunks)
  let manifest ← lift .plain
    (buildManifestForCommittedChunks chunks chunksTxHash drawn.reclaimGroupId)
  let assembled ← lift .message (ckb.wire.assembleTextMessage lib.ckbHash lib.suite lib.reader
    lib.libraryText drawn.ambient (imageParams parties drawn caption manifest))
  let messageTx ← lift .plain
    (buildSendMessageTx lib.ccc wallet lib.reader lib.libraryText assembled)
  return ⟨chunks, assembled, chunksTx, messageTx⟩

/-- What the first cells of a transaction lock. -/
def BuiltTransaction.locked (built : BuiltTransaction) (count : Nat) : Nat :=
  ((built.tx.outputs.take count).map CellOutput.capacity).sum

/-- What a send takes from the wallet: the capacity of the chunk cells and of the message cell,
    and the fees of both transactions. -/
def ImageTransactions.total (transactions : ImageTransactions) : Nat :=
  transactions.chunksTx.locked transactions.chunks.chunks.length + transactions.messageTx.locked 1 +
    transactions.chunksTx.estimatedFee + transactions.messageTx.estimatedFee

/-! ### What CCC promises -/

/-- The bytes of a script that count for capacity. -/
def scriptOccupied (script : Script) : Nat := 33 + script.args.length

/-- The bytes of a cell: its capacity, its scripts and its data. -/
def occupiedSize (output : CellOutput) (data : Buffer) : Nat :=
  8 + scriptOccupied output.lock + (output.type.map scriptOccupied).getD 0 + data.length

/-- What the serialization of a script comes to, whose code hash has 32 bytes. -/
def scriptBytes (script : Script) : Nat := headerSize 3 + 32 + 1 + (4 + script.args.length)

def outputBytes (output : CellOutput) : Nat :=
  headerSize 3 + 8 + scriptBytes output.lock + (output.type.map scriptBytes).getD 0

def vectorBytes (sizes : List Nat) : Nat := headerSize sizes.length + sizes.sum

def rawBytes (tx : RawTransaction) : Nat :=
  headerSize 6 + 4 + (4 + 37 * tx.cellDeps.length) + (4 + 32 * tx.headerDeps.length) +
    (4 + 44 * tx.inputs.length) + vectorBytes (tx.outputs.map outputBytes) +
    vectorBytes (tx.outputsData.map fun data => 4 + data.length)

/-- What the serialization of a transaction comes to. -/
def serializedBytes (tx : ckb.signing.Transaction) : Nat :=
  headerSize 2 + rawBytes tx.raw + vectorBytes (tx.witnesses.map fun witness => 4 + witness.length)

/-- The fee for so many bytes, and the four with which a block refers to them, at a rate for 1000
    bytes, rounded up. -/
def estimateFee (bytes rate : Nat) : Nat := ((bytes + 4) * rate + 999) / 1000

/-- Every byte a cell occupies takes one CKB, and a completed transaction pays the rate for its
    serialization, with the witnesses that the signer prepares. -/
structure Ccc.Documented (ccc : Ccc) (reader : Reader) : Prop where
  occupied : ∀ output data, ccc.occupied output data = occupiedSize output data * SHANNON_PER_CKB
  fee : ∀ {wallet tx rate completion}, ccc.complete wallet tx rate = .ok completion →
    ∃ prepared, ensurePlaceholderWitnesses reader ⟨completed wallet tx completion, []⟩ =
        (none, prepared) ∧
      completion.fee = estimateFee (serializedBytes prepared) rate

end cemp.images.footprint
