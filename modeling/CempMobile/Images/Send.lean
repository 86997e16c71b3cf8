import CempMobile.Ckb.Publisher
import CempMobile.Images.Manifest

open cemp.core cemp.database cemp.ckb

namespace cemp.images

/-- The functions of the crypto packages that an image is sealed with. -/
structure AttachmentCrypto where
  /-- The recipient's KEM key, the KEM message, the nonce, the sender's and the recipient's id. -/
  deriveSendAttachmentKey : Bytes → Bytes → Bytes → ProfileId → ProfileId → Bytes
  /-- The key, the nonce, the plaintext and the additional data. -/
  aes256GcmEncrypt : Bytes → Bytes → Bytes → Bytes → Bytes
  ckbHash : Bytes → Bytes

structure EncryptedAttachment where
  attachmentId : Bytes
  nonce : Bytes
  ciphertext : Bytes
  cipherHash : Bytes
  deriving DecidableEq, Repr

def AAD_PREFIX : Bytes := "CEMP/ATTACHMENT/v1".toUTF8.toList

def aadFor (attachmentId : Bytes) : Bytes := AAD_PREFIX ++ attachmentId

/-- Encrypts a prepared image under the attachment key. An id that is not given is drawn. -/
def encryptAttachment (crypto : AttachmentCrypto) (plaintext attachmentKey : Bytes)
    (attachmentId : Option Bytes) : Prog EncryptedAttachment := do
  let attachmentId ←
    match attachmentId with
    | some id => pure id
    | none => call (.randomBytes 16)
  if attachmentKey.length ≠ 32 then
    throw (.other ("encryptAttachment: key is " ++ toString attachmentKey.length ++
      " bytes, expected 32"))
  else if attachmentId.length ≠ 16 then
    throw (.other ("encryptAttachment: attachment id is " ++ toString attachmentId.length ++
      " bytes, expected 16"))
  else
    let nonce ← call (.randomBytes 12)
    let ciphertext := crypto.aes256GcmEncrypt attachmentKey nonce plaintext (aadFor attachmentId)
    return ⟨attachmentId, nonce, ciphertext, crypto.ckbHash ciphertext⟩

/-- Splits data into slices of a fixed size; the last one carries the remainder. -/
def splitIntoChunks (data : Bytes) (chunkBytes : Nat) : Except Error (List Bytes) :=
  if chunkBytes = 0 then
    .error (.other ("splitIntoChunks: invalid chunk size " ++ toString chunkBytes))
  else if data = [] then .error (.other "splitIntoChunks: refusing to chunk empty data")
  else .ok (data.toChunks chunkBytes)

structure PreparedChunks where
  prepared : PreparedImage
  encrypted : EncryptedAttachment
  chunks : List Bytes
  deriving DecidableEq, Repr

def encryptPreparedChunks (crypto : AttachmentCrypto) (prepared : PreparedImage)
    (attachmentKey : Bytes) (attachmentId : Option Bytes) : Prog PreparedChunks := do
  let encrypted ← encryptAttachment crypto prepared.bytes attachmentKey attachmentId
  let chunks ← Program.ofExcept (splitIntoChunks encrypted.ciphertext ATTACHMENT_CHUNK_BYTES)
  return ⟨prepared, encrypted, chunks⟩

/-- Prepares an image, then encrypts and splits it. -/
def prepareAttachmentChunks (crypto : AttachmentCrypto) (sourceBytes attachmentKey : Bytes)
    (format : Option ImageEncodeFormat) (attachmentId : Option Bytes) : Prog PreparedChunks := do
  let prepared ← call (.prepareImage sourceBytes format)
  encryptPreparedChunks crypto prepared attachmentKey attachmentId

structure PublishChunksResult where
  chunksTxHash : Hash
  chunkCount : Nat
  resumed : Bool
  deriving DecidableEq, Repr

/-- The journal purpose of a chunk transaction. -/
def PreparedChunks.purpose (chunks : PreparedChunks) : TxPurpose :=
  .attachmentChunks chunks.encrypted.attachmentId

/-- Resumes a journaled chunk transaction to its commit and reserves what the journal says, or
    marks it abandoned and hands back nothing. -/
def resumeChunks (chunks : PreparedChunks) (journaled : OutgoingTransaction)
    (timeoutMs : Option Nat) : Prog (Option PublishChunksResult) :=
  let resume : Prog (Option PublishChunksResult) := do
    let outcome ← resumeJournaledBroadcast (.ofRecord journaled) timeoutMs
    match outcome, journaled.txHex with
    | .rebroadcast, some tx => trackBroadcastSpend tx
    | _, _ => pure ()
    store (.markOutgoingTxState journaled.txHash .committed)
    match journaled.capacityShannon with
    | some capacity => if capacity ≠ 0 then store (.reserveCapacity capacity none)
    | none => pure ()
    return some ⟨journaled.txHash, chunks.chunks.length, true⟩
  resume.catchError fun error =>
    match error with
    | .journaledAbandoned .. => do
      store (.markOutgoingTxState journaled.txHash .abandoned)
      return none
    | _ => throw error

/-- What a resume does once the journaled transaction is committed. -/
def settleChunks (chunks : PreparedChunks) (journaled : OutgoingTransaction) :
    Prog (Option PublishChunksResult) := do
  store (.markOutgoingTxState journaled.txHash .committed)
  match journaled.capacityShannon with
  | some capacity => if capacity ≠ 0 then store (.reserveCapacity capacity none)
  | none => pure ()
  return some ⟨journaled.txHash, chunks.chunks.length, true⟩

/-- Builds, signs, journals and broadcasts a new chunk transaction, and reserves the capacity of
    its outputs when it commits. -/
def uploadChunks (deps : PipelineDeps) (chunks : PreparedChunks) (timeoutMs : Option Nat) :
    Prog PublishChunksResult := do
  let built ← buildDataCellsTx deps chunks.chunks
  let signed ← call (.signTransaction built.tx)
  let totalCapacity := (built.tx.outputs.map (·.capacity)).sum
  store (.recordOutgoingTx
    { txHash := signed.hash
      purpose := chunks.purpose
      state := .submitted
      feeShannon := some built.estimatedFee
      capacityShannon := some totalCapacity
      txHex := some signed })
  let accepted ← call (.sendTransaction signed)
  if accepted ≠ signed.hash then
    throw (.other "publishAttachmentChunks: node returned a different tx hash")
  else
    trackBroadcastSpend signed
    waitForTransactionCommit signed.hash timeoutMs
    store (.markOutgoingTxState signed.hash .committed)
    if 0 < totalCapacity then store (.reserveCapacity totalCapacity none)
    return ⟨signed.hash, chunks.chunks.length, false⟩

/-- Publishes the chunk cells in one transaction, or resumes the journaled one that is still
    submitted. -/
def publishAttachmentChunks (deps : PipelineDeps) (chunks : PreparedChunks)
    (timeoutMs : Option Nat) : Prog PublishChunksResult := do
  let journaled ← store (.findLatestOutgoingTxByPurposePrefix (.exactly chunks.purpose))
  let resumed ←
    match journaled.filter fun tx => tx.state == .submitted with
    | some tx => resumeChunks chunks tx timeoutMs
    | none => pure none
  match resumed with
  | some result => return result
  | none => uploadChunks deps chunks timeoutMs

/-- The manifest of an image, field for field. Chunk `i` is output `i` of the chunk transaction,
    and the first one doubles as the root. -/
def buildManifestForCommittedChunks (chunks : PreparedChunks) (chunksTxHash : Hash)
    (reclaimGroupId : Bytes) : Except Error AttachmentManifestV1 :=
  match (List.range chunks.chunks.length).map fun index => (⟨chunksTxHash, index⟩ : OutPoint) with
  | [] => .error (.other "buildAttachmentManifest: at least one chunk outpoint is required")
  | root :: rest => .ok
    { attachment_id := chunks.encrypted.attachmentId
      ckbfs_root := root
      chunk_outpoints := root :: rest
      encrypted_size := chunks.encrypted.ciphertext.length
      plaintext_size := chunks.prepared.bytes.length
      mime_type := chunks.prepared.mimeType
      width := chunks.prepared.width
      height := chunks.prepared.height
      thumbnail := some chunks.prepared.thumbnail
      content_hash := chunks.prepared.contentHash
      cipher_hash := chunks.encrypted.cipherHash
      encryption_nonce := chunks.encrypted.nonce
      encryption_algorithm := ⟨0x03, 1⟩
      reclaim_group_id := reclaimGroupId }

end cemp.images
