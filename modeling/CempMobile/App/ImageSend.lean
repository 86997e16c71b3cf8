import CempMobile.Images.SendMessage

open cemp.core cemp.database cemp.ckb cemp.images

namespace cemp.app

def SHANNON_PER_CKB : Nat := 100000000

def SEND_FEE_RESERVE_SHANNONS : Nat := 1 * SHANNON_PER_CKB

def CONSERVATIVE_PER_CHUNK_SHANNON : Nat := (ATTACHMENT_CHUNK_BYTES + 256) * SHANNON_PER_CKB

def CONSERVATIVE_MESSAGE_CELL_SHANNON : Nat := (32768 + 4096) * SHANNON_PER_CKB

/-- The chunks a prepared image takes: its ciphertext is 16 bytes longer. -/
def estimateAttachmentCapacity (prepared : PreparedImage) (chunkBytes : Nat) : Nat :=
  (prepared.bytes.length + 16 + (chunkBytes - 1)) / chunkBytes

def estimateImageSendShannon (chunkCount perChunkShannon messageCellShannon feeReserveShannon : Nat) :
    Nat :=
  chunkCount * perChunkShannon + messageCellShannon + feeReserveShannon

def hasSufficientCapacity (availableShannon requiredShannon : Nat) : Bool :=
  requiredShannon ≤ availableShannon

/-- `toLocaleString("en-US")`: commas between the thousands. -/
def toLocaleString (n : Nat) : String :=
  String.ofList ([','].intercalate ((toString n).toList.reverse.toChunks 3)).reverse

structure RunImageSendResult where
  messageTxHash : Hash
  chunksTxHash : Hash
  deriving DecidableEq, Repr

/-- Prepares an image once, refuses it when the balance cannot cover it, publishes it and stores
    its attachment. -/
def runImageSend (deps : ImageDeps) (availableShannon : Nat) (input : PublishImageMessageInput) :
    Prog RunImageSendResult := do
  let prepared ← (call (.prepareImage input.sourceBytes input.format)).catchError fun error =>
    match error with
    | .imageTooLarge .. => throw (.other "This photo's too large to send. Try a smaller one.")
    | _ => throw error
  let required := estimateImageSendShannon
    (estimateAttachmentCapacity prepared ATTACHMENT_CHUNK_BYTES) CONSERVATIVE_PER_CHUNK_SHANNON
    CONSERVATIVE_MESSAGE_CELL_SHANNON SEND_FEE_RESERVE_SHANNONS
  if ¬hasSufficientCapacity availableShannon required then
    throw (.other ("Not enough balance to send this image: requires ~" ++
      toLocaleString (required / SHANNON_PER_CKB) ++ " CKB, but only " ++
      toLocaleString (availableShannon / SHANNON_PER_CKB) ++ " CKB is available."))
  else
    let result ← publishImageMessage deps { input with preparedImage := some prepared }
    store (.createAttachment
      { messageId := input.messageRowId
        kind := "image"
        byteLength := result.plaintextSize
        state := "pending"
        manifest := some result.manifest
        attachmentKey := none
        remoteDownloaded := false })
    return ⟨result.messageTxHash, result.chunksTxHash⟩

end cemp.app
