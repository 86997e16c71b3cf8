import CempMobile.App.ImageSend
import CempMobile.Images.FootprintBuilds
import Mathlib.Tactic.NormNum

open Except Molecule mol cemp.core.codec cemp.crypto cemp.images cemp.images.footprint

namespace cemp.app

/-! The estimate of the pre-flight, and what the transactions of the send take. -/

/-- What the pre-flight asks of the wallet. -/
def requiredShannon (prepared : PreparedImage) : Nat :=
  estimateImageSendShannon (estimateAttachmentCapacity prepared ATTACHMENT_CHUNK_BYTES)
    CONSERVATIVE_PER_CHUNK_SHANNON CONSERVATIVE_MESSAGE_CELL_SHANNON SEND_FEE_RESERVE_SHANNONS

/-- The bytes of a send whose number is not fixed by that of the chunks: the compressed image with
    its tag, the mime type, the thumbnail, the caption, and the padding. -/
def variableBytes (prepared : PreparedImage) (caption : String) (padding : Nat) : Nat :=
  prepared.bytes.length + 16 + (Utf8.encode prepared.mimeType.toList).length +
    prepared.thumbnail.length + captionBytes caption + padding

/-- The bytes of the envelope of a send. -/
def envelopeBytes (prepared : PreparedImage) (caption : String) (padding : Nat) : Nat :=
  1675 + 52 * estimateAttachmentCapacity prepared ATTACHMENT_CHUNK_BYTES +
    (Utf8.encode prepared.mimeType.toList).length + prepared.thumbnail.length +
    captionBytes caption + padding

/-- The fees of two transactions, with the inputs and outputs they were completed to. -/
def fees (prepared : PreparedImage) (caption : String) (padding : Nat)
    (transactions : ImageTransactions) : Nat :=
  estimateFee (chunksTxBytes transactions.chunksTx.tx.inputs.length
      transactions.chunksTx.tx.outputs.length (prepared.bytes.length + 16)) DEFAULT_FEE_RATE +
    estimateFee (messageTxBytes transactions.messageTx.tx.inputs.length
      transactions.messageTx.tx.outputs.length (envelopeBytes prepared caption padding))
      DEFAULT_FEE_RATE

section Send

variable {lib : Libraries} {wallet : Wallet} {parties : Parties} {drawn : Drawn}
  {prepared : PreparedImage} {caption chunksTxHash : String} {transactions : ImageTransactions}

/-- What a send takes, by the sizes of its parts. -/
theorem imageTransactions_total (hreads : lib.reader.Reads) (hsuite : lib.suite.Correct)
    (hccc : lib.ccc.Documented lib.reader)
    (h : imageTransactions lib wallet parties drawn prepared caption chunksTxHash =
      .ok transactions) :
    transactions.total =
      (131 * estimateAttachmentCapacity prepared ATTACHMENT_CHUNK_BYTES + 1868 +
          variableBytes prepared caption drawn.ambient.padding.length) *
        images.footprint.SHANNON_PER_CKB +
      fees prepared caption drawn.ambient.padding.length transactions := by
  obtain ⟨attachmentKey, -, h1⟩ := bind_eq_ok_iff.1 h
  obtain ⟨chunks, hchunks, h2⟩ := bind_eq_ok_iff.1 h1
  obtain ⟨chunksTx, hchunksTx, h3⟩ := bind_eq_ok_iff.1 h2
  obtain ⟨manifest, hmanifest, h4⟩ := bind_eq_ok_iff.1 h3
  obtain ⟨assembled, hassembled, h5⟩ := bind_eq_ok_iff.1 h4
  obtain ⟨messageTx, hmessageTx, h6⟩ := bind_eq_ok_iff.1 h5
  obtain rfl := ok.inj h6
  obtain ⟨hprepared, hflatten, hcount⟩ :=
    encryptPreparedChunks_eq_ok hsuite hchunks
  obtain ⟨hchunksLocked, hchunksFee⟩ := buildDataCellsTx_eq_ok hccc (lift_eq_ok_iff.1 hchunksTx)
  obtain ⟨hmessageLocked, hmessageFee⟩ :=
    buildSendMessageTx_eq_ok hccc (lift_eq_ok_iff.1 hmessageTx)
  obtain ⟨houtpoints, hmime, hthumbnail⟩ := buildManifest_eq_ok (lift_eq_ok_iff.1 hmanifest)
  have henvelope := envelopeBytes_length hreads hsuite (lift_eq_ok_iff.1 hassembled)
  have hchunkCount : chunks.chunks.length =
      estimateAttachmentCapacity prepared ATTACHMENT_CHUNK_BYTES := hcount
  have hsize : assembled.envelopeBytes.length =
      envelopeBytes prepared caption drawn.ambient.padding.length := by
    rw [henvelope, houtpoints, hmime, hthumbnail, hprepared, hchunkCount, envelopeBytes]
    simp only [optionBytes]
    omega
  have hbytes : 79 * estimateAttachmentCapacity prepared ATTACHMENT_CHUNK_BYTES +
        (prepared.bytes.length + 16) +
        (193 + envelopeBytes prepared caption drawn.ambient.padding.length) =
      131 * estimateAttachmentCapacity prepared ATTACHMENT_CHUNK_BYTES + 1868 +
        variableBytes prepared caption drawn.ambient.padding.length := by
    simp only [envelopeBytes, variableBytes]
    omega
  unfold ImageTransactions.total fees
  rw [hchunksLocked, hmessageLocked, hchunksFee, hmessageFee, hflatten, hchunkCount, hsize,
    ← Nat.add_mul, hbytes, Nat.add_assoc]

/-- What a send takes stays within the estimate exactly when its variable bytes and its fees do not
    exceed 32893 CKB for each chunk and 34997 more. -/
theorem estimate_covers_iff (hreads : lib.reader.Reads) (hsuite : lib.suite.Correct)
    (hccc : lib.ccc.Documented lib.reader)
    (h : imageTransactions lib wallet parties drawn prepared caption chunksTxHash =
      .ok transactions) :
    transactions.total ≤ requiredShannon prepared ↔
      variableBytes prepared caption drawn.ambient.padding.length * SHANNON_PER_CKB +
          fees prepared caption drawn.ambient.padding.length transactions ≤
        (32893 * estimateAttachmentCapacity prepared ATTACHMENT_CHUNK_BYTES + 34997) *
          SHANNON_PER_CKB := by
  rw [imageTransactions_total hreads hsuite hccc h]
  have hchunk : CONSERVATIVE_PER_CHUNK_SHANNON = 33024 * SHANNON_PER_CKB := rfl
  unfold requiredShannon estimateImageSendShannon
  rw [hchunk]
  generalize estimateAttachmentCapacity prepared ATTACHMENT_CHUNK_BYTES = count
  simp only [CONSERVATIVE_MESSAGE_CELL_SHANNON, SEND_FEE_RESERVE_SHANNONS, SHANNON_PER_CKB,
    images.footprint.SHANNON_PER_CKB]
  omega

end Send

theorem sampleImage_chunks (bytes thumbnail : Nat) :
    estimateAttachmentCapacity (sampleImage bytes thumbnail) ATTACHMENT_CHUNK_BYTES =
      (bytes + 16 + 32767) / 32768 := by
  simp only [estimateAttachmentCapacity, footprint.sampleImage, List.length_replicate,
    ATTACHMENT_CHUNK_BYTES]

theorem estimate_covers_sample : ∃ transactions,
    imageTransactions sampleLibraries sampleWallet sampleParties sampleDrawn (sampleImage 1000 500)
        (sampleCaption 20) sampleTxHash = .ok transactions ∧
      (transactions.total ≤ requiredShannon (sampleImage 1000 500) ↔
        variableBytes (sampleImage 1000 500) (sampleCaption 20) 1 * SHANNON_PER_CKB +
            fees (sampleImage 1000 500) (sampleCaption 20) 1 transactions ≤
          (32893 * 1 + 34997) * SHANNON_PER_CKB) := by
  obtain ⟨transactions, hbuilt⟩ := (@sample_sendable 1000 500 20 (by decide) (by decide)
    (by decide)).builds offsetReader_reads sampleSuite_correct sampleCcc_documented
  have hcovers :=
    estimate_covers_iff offsetReader_reads sampleSuite_correct sampleCcc_documented hbuilt
  have hone : (1000 + 16 + 32767) / 32768 = 1 := by norm_num
  have hpadding : sampleDrawn.ambient.padding.length = 1 := rfl
  rw [sampleImage_chunks, hone, hpadding] at hcovers
  exact ⟨transactions, hbuilt, hcovers⟩

theorem captionBytes_sampleCaption (length : Nat) :
    captionBytes (sampleCaption (length + 1)) = 4 + (length + 1) := by
  have hlength := length_encode_sampleCaption (length + 1)
  unfold captionBytes
  rw [if_neg, hlength]
  intro hempty
  rw [hempty] at hlength
  cases hlength

/-- What a sample asks of the wallet, and what it takes without its fees. -/
theorem sample_shannons {bytes thumbnail length : Nat} (hone : (bytes + 16 + 32767) / 32768 = 1) :
    requiredShannon (sampleImage bytes thumbnail) = 69889 * SHANNON_PER_CKB ∧
      bytes + thumbnail + length ≤ variableBytes (sampleImage bytes thumbnail)
        (sampleCaption (length + 1)) sampleDrawn.ambient.padding.length := by
  constructor
  · have hchunk : CONSERVATIVE_PER_CHUNK_SHANNON = 33024 * SHANNON_PER_CKB := rfl
    unfold requiredShannon estimateImageSendShannon
    rw [sampleImage_chunks, hone, hchunk]
    simp only [CONSERVATIVE_MESSAGE_CELL_SHANNON, SEND_FEE_RESERVE_SHANNONS, SHANNON_PER_CKB]
  · unfold variableBytes
    rw [captionBytes_sampleCaption]
    simp only [footprint.sampleImage, List.length_replicate]
    omega

/-- Large parts that fill a single chunk take more than the estimate. -/
theorem sample_exceeds {bytes thumbnail length : Nat} {transactions : ImageTransactions}
    (hone : (bytes + 16 + 32767) / 32768 = 1) (hlarge : 67890 < bytes + thumbnail + length)
    (hbuilt : imageTransactions sampleLibraries sampleWallet sampleParties sampleDrawn
      (sampleImage bytes thumbnail) (sampleCaption (length + 1)) sampleTxHash =
        .ok transactions) :
    requiredShannon (sampleImage bytes thumbnail) < transactions.total := by
  have htotal := imageTransactions_total offsetReader_reads sampleSuite_correct
    sampleCcc_documented hbuilt
  obtain ⟨hrequired, hvariable⟩ := @sample_shannons bytes thumbnail length hone
  rw [hrequired, htotal, sampleImage_chunks, hone]
  simp only [SHANNON_PER_CKB, images.footprint.SHANNON_PER_CKB]
  omega

/-- One full chunk with the largest thumbnail and the longest caption takes more than the estimate. -/
theorem estimate_not_upper_bound :
    ¬ ∀ (lib : Libraries) (wallet : Wallet) (parties : Parties) (drawn : Drawn)
        (prepared : PreparedImage) (caption chunksTxHash : String)
        (transactions : ImageTransactions),
      lib.reader.Reads → lib.suite.Correct → lib.ccc.Documented lib.reader →
      imageTransactions lib wallet parties drawn prepared caption chunksTxHash =
        .ok transactions →
      prepared.thumbnail.length ≤ 32768 →
      (Utf8.encode caption.toList).length ≤ core.V1_LIMITS.maxTextBytes →
      transactions.total ≤ requiredShannon prepared := by
  intro hclaim
  obtain ⟨length, hlength⟩ : ∃ length, length + 1 = 16384 := ⟨16383, rfl⟩
  have hsendable := @sample_sendable 32752 32768 (length + 1) (by decide) le_rfl hlength.le
  obtain ⟨transactions, hbuilt⟩ :=
    hsendable.builds offsetReader_reads sampleSuite_correct sampleCcc_documented
  have hle := hclaim _ _ _ _ _ _ _ _ offsetReader_reads sampleSuite_correct sampleCcc_documented
    hbuilt hsendable.thumbnail hsendable.caption
  have hexceeds := sample_exceeds (by norm_num) (by omega) hbuilt
  exact absurd hle hexceeds.not_ge

end cemp.app
