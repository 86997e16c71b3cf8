import CempMobile.Images.Prepare
import CempMobile.Images.Send
import CempMobile.Lib.Chunks

open cemp.core cemp.ckb

namespace cemp.images

/-- The crypto of an attachment with its opening side. -/
structure AttachmentCipher extends AttachmentCrypto where
  /-- The key, the nonce, the ciphertext with its tag and the additional data. -/
  aes256GcmDecrypt : Bytes → Bytes → Bytes → Bytes → Except Error Bytes

/-- AES-256-GCM: a 16-byte tag is appended, and what was sealed opens again. -/
structure AttachmentCipher.Lawful (crypto : AttachmentCipher) : Prop where
  encrypt_length : ∀ key nonce plaintext aad, key.length = 32 → nonce.length = 12 →
    (crypto.aes256GcmEncrypt key nonce plaintext aad).length = plaintext.length + 16
  decrypt_encrypt : ∀ key nonce plaintext aad, key.length = 32 → nonce.length = 12 →
    crypto.aes256GcmDecrypt key nonce (crypto.aes256GcmEncrypt key nonce plaintext aad) aad =
      .ok plaintext

def decryptAttachment (crypto : AttachmentCipher) (ciphertext nonce attachmentKey
    attachmentId : Bytes) : Except Error Bytes :=
  if nonce.length ≠ 12 then
    .error (.other ("decryptAttachment: nonce is " ++ toString nonce.length ++
      " bytes, expected 12"))
  else crypto.aes256GcmDecrypt attachmentKey nonce ciphertext (aadFor attachmentId)

/-- Joins chunks by their position. -/
def joinChunks (chunks : List Bytes) : Bytes := chunks.flatten

/-- What a receiver opens images with. `encodeEnvelope` is the data of a message cell, for a
    manifest that names one as its chunk. -/
structure ReceiveDeps where
  crypto : AttachmentCipher
  encodeEnvelope : CempEnvelopeV1 → Bytes

def ReceiveDeps.cellData (deps : ReceiveDeps) : CellData → Bytes
  | .bytes content => content
  | .envelope content => deps.encodeEnvelope content

structure DownloadedAttachment where
  bytes : Bytes
  mimeType : String
  width : Nat
  height : Nat
  thumbnail : Option Bytes
  deriving DecidableEq, Repr

/-- Fetches the cells of a chunk list from position `i` on. A cell that is gone cannot be retried,
    and one that is too large is refused before it is joined. -/
def downloadChunks (deps : ReceiveDeps) : Nat → List OutPoint → Prog (List Bytes)
  | _, [] => return []
  | i, outpoint :: outpoints => do
    match ← call (.getLiveCell outpoint) with
    | .live cell =>
      let chunkData := deps.cellData cell.output.data
      if ATTACHMENT_CHUNK_BYTES < chunkData.length then
        throw (.other ("attachment chunk " ++ toString i ++ " carries " ++
          toString chunkData.length ++ " bytes, above the " ++ toString ATTACHMENT_CHUNK_BYTES ++
          "-byte chunk limit"))
      else
        let chunks ← downloadChunks deps (i + 1) outpoints
        return chunkData :: chunks
    | _ => throw (.attachmentUnavailable ("attachment chunk " ++ toString i ++
        " is not live (reclaimed or pruned)"))

/-- The checks of a reassembled ciphertext, its decryption, and the checks of the plaintext. -/
def openAttachment (crypto : AttachmentCipher) (manifest : AttachmentManifestV1)
    (attachmentKey ciphertext : Bytes) : Except Error DownloadedAttachment := do
  if ciphertext.length ≠ manifest.encrypted_size then
    throw (.other ("reassembled ciphertext is " ++ toString ciphertext.length ++
      " bytes, manifest declares " ++ toString manifest.encrypted_size))
  else if crypto.ckbHash ciphertext ≠ manifest.cipher_hash then
    throw (.other "ciphertext hash mismatch — chunks are corrupt or hostile")
  else
    let plaintext ← decryptAttachment crypto ciphertext manifest.encryption_nonce attachmentKey
      manifest.attachment_id
    if plaintext.length ≠ manifest.plaintext_size then
      throw (.other "decrypted size does not match the manifest")
    else if crypto.ckbHash plaintext ≠ manifest.content_hash then
      throw (.other "plaintext content hash mismatch")
    else
      let sniffed := sniffImageFormat plaintext
      let sniffedMime := if sniffed = .unknown then "unknown" else "image/" ++ sniffed.text
      if sniffedMime ≠ manifest.mime_type then
        throw (.other ("plaintext is " ++ sniffedMime ++ ", manifest declares " ++
          manifest.mime_type))
      else
        return {
          bytes := plaintext
          mimeType := manifest.mime_type
          width := manifest.width
          height := manifest.height
          thumbnail := manifest.thumbnail }

/-- Downloads an attachment: the manifest is checked before anything is fetched, and nothing that
    fails a check reaches the caller. -/
def downloadAttachment (deps : ReceiveDeps) (manifest : AttachmentManifestV1)
    (attachmentKey : Bytes) : Prog DownloadedAttachment := do
  match checkManifest manifest DEFAULT_IMAGE_LIMITS with
  | .fail reason => throw (.other ("attachment manifest rejected: " ++ reason))
  | .ok =>
    let chunks ← downloadChunks deps 0 manifest.chunk_outpoints
    Program.ofExcept (openAttachment deps.crypto manifest attachmentKey (joinChunks chunks))

/-! ### What a sealed image satisfies -/

/-- Random bytes come in the number that was asked for. -/
def DrawsLength {σ : Type} (send : Program.Handler Op Error σ) : Prop :=
  ∀ length s bytes s', send _ (.randomBytes length) s = (.ok bytes, s') → bytes.length = length

/-- What a receiver gets of a prepared image. -/
def PreparedImage.downloaded (prepared : PreparedImage) : DownloadedAttachment where
  bytes := prepared.bytes
  mimeType := prepared.mimeType
  width := prepared.width
  height := prepared.height
  thumbnail := some prepared.thumbnail

variable {σ τ : Type} {send : Program.Handler Op Error σ} {receive : Program.Handler Op Error τ}
  {deps : ReceiveDeps} {crypto : AttachmentCipher} {prepared : PreparedImage}
  {attachmentKey : Bytes} {attachmentId : Option Bytes} {chunks : PreparedChunks}
  {chunksTxHash : Hash} {reclaimGroupId : Bytes} {manifest : AttachmentManifestV1}

theorem splitIntoChunks_ok {data : Bytes} {pieces : List Bytes}
    (h : splitIntoChunks data ATTACHMENT_CHUNK_BYTES = .ok pieces) :
    pieces = data.toChunks ATTACHMENT_CHUNK_BYTES := by
  unfold splitIntoChunks at h
  split at h
  · cases h
  · split at h
    · cases h
    · exact (Except.ok.inj h).symm

/-- What encryption answers: the plaintext sealed under the key with a drawn nonce. -/
structure EncryptedAttachment.Sealed (encrypted : EncryptedAttachment) (crypto : AttachmentCipher)
    (attachmentKey plaintext : Bytes) : Prop where
  key : attachmentKey.length = 32
  nonce : encrypted.nonce.length = 12
  ciphertext : encrypted.ciphertext = crypto.aes256GcmEncrypt attachmentKey encrypted.nonce
    plaintext (aadFor encrypted.attachmentId)
  cipherHash : encrypted.cipherHash = crypto.ckbHash encrypted.ciphertext

theorem encryptAttachment_some_sealed {s s' : σ} {plaintext id : Bytes}
    {encrypted : EncryptedAttachment} (hdraws : DrawsLength send)
    (hrun : Program.Runs (fun β op s answer s' => send β op s = (answer, s'))
      (encryptAttachment crypto.toAttachmentCrypto plaintext attachmentKey (some id)) s
      (.ok encrypted) s') :
    encrypted.Sealed crypto attachmentKey plaintext := by
  simp only [encryptAttachment, Program.pure_eq_ret, Program.bind_eq_bind, Program.ret_bind]
    at hrun
  split at hrun
  · cases hrun.1
  next hkey =>
  split at hrun
  · cases hrun.1
  obtain ⟨nonce, mid, hnonce, hout, -⟩ := Program.runs_bind_ok.mp hrun
  obtain rfl := Except.ok.inj hout
  have hdrawn := hdraws _ _ _ _ (Program.runs_perform.mp hnonce)
  exact ⟨not_not.mp hkey, hdrawn, rfl, rfl⟩

theorem encryptAttachment_sealed {s s' : σ} {plaintext : Bytes} {encrypted : EncryptedAttachment}
    (hdraws : DrawsLength send)
    (hrun : Program.Runs (fun β op s answer s' => send β op s = (answer, s'))
      (encryptAttachment crypto.toAttachmentCrypto plaintext attachmentKey attachmentId) s
      (.ok encrypted) s') :
    encrypted.Sealed crypto attachmentKey plaintext := by
  cases attachmentId with
  | some id => exact encryptAttachment_some_sealed hdraws hrun
  | none =>
    -- The id is drawn first, and then it is the given one.
    obtain ⟨id, mid, -, hrest⟩ := Program.runs_bind_ok.mp hrun
    exact encryptAttachment_some_sealed hdraws hrest

theorem encryptPreparedChunks_sealed {s s' : σ} (hdraws : DrawsLength send)
    (hrun : Program.run send (encryptPreparedChunks crypto.toAttachmentCrypto prepared
      attachmentKey attachmentId) s = (.ok chunks, s')) :
    chunks.prepared = prepared ∧ chunks.encrypted.Sealed crypto attachmentKey prepared.bytes ∧
      chunks.chunks = chunks.encrypted.ciphertext.toChunks ATTACHMENT_CHUNK_BYTES := by
  rw [← Program.runs_handler] at hrun
  obtain ⟨encrypted, mid, hencrypt, hrest⟩ := Program.runs_bind_ok.mp hrun
  obtain ⟨pieces, mid', hsplit, hout, -⟩ := Program.runs_bind_ok.mp hrest
  obtain rfl := Except.ok.inj hout
  obtain ⟨hpieces, -⟩ := Program.runs_ofExcept.mp hsplit
  exact ⟨rfl, encryptAttachment_sealed hdraws hencrypt, splitIntoChunks_ok hpieces.symm⟩

/-! ### What the receiver makes of it -/

theorem buildManifest_eq
    (h : buildManifestForCommittedChunks chunks chunksTxHash reclaimGroupId = .ok manifest) :
    manifest.chunk_outpoints =
        (List.range chunks.chunks.length).map (fun index => ⟨chunksTxHash, index⟩) ∧
      manifest = {
        attachment_id := chunks.encrypted.attachmentId
        ckbfs_root := manifest.ckbfs_root
        chunk_outpoints := manifest.chunk_outpoints
        encrypted_size := chunks.encrypted.ciphertext.length
        plaintext_size := chunks.prepared.bytes.length
        mime_type := chunks.prepared.mimeType
        width := chunks.prepared.width
        height := chunks.prepared.height
        thumbnail := some chunks.prepared.thumbnail
        content_hash := chunks.prepared.contentHash
        cipher_hash := chunks.encrypted.cipherHash
        encryption_nonce := chunks.encrypted.nonce
        encryption_algorithm := ⟨0x03, 1⟩
        reclaim_group_id := reclaimGroupId } := by
  unfold buildManifestForCommittedChunks at h
  split at h
  · cases h
  · next root rest houtpoints =>
    obtain rfl := Except.ok.inj h
    exact ⟨houtpoints.symm, rfl⟩

theorem sniffImageFormat_pos {bytes : Bytes} {format : ImageEncodeFormat}
    (h : sniffImageFormat bytes = format.sniffed) : 0 < bytes.length := by
  cases bytes with
  | nil => cases format <;> simp [sniffImageFormat, ImageEncodeFormat.sniffed] at h
  | cons byte bytes => simp

theorem image_text_sniffed (format : ImageEncodeFormat) :
    "image/" ++ format.sniffed.text = FORMAT_TO_MIME format := by
  cases format <;> rfl

theorem sniffed_ne_unknown (format : ImageEncodeFormat) : format.sniffed ≠ .unknown := by
  cases format <;> simp [ImageEncodeFormat.sniffed]

theorem FORMAT_TO_MIME_accepted (format : ImageEncodeFormat) :
    (FORMAT_TO_MIME format).utf8ByteSize = 10 ∧
      FORMAT_TO_MIME format ∈ ["image/webp", "image/jpeg", "image/png"] := by
  cases format <;> decide

/-- The manifest of a sealed image passes every check of a receiver, except that of the
    thumbnail's size. -/
theorem checkManifest_sealed_iff {format : ImageEncodeFormat} {limits : ImageLimits}
    (lawful : crypto.Lawful) (within : limits.Within DEFAULT_IMAGE_LIMITS)
    (hsound : chunks.prepared.Sound format limits crypto.ckbHash)
    (hsealed : chunks.encrypted.Sealed crypto attachmentKey chunks.prepared.bytes)
    (hchunks : chunks.chunks = chunks.encrypted.ciphertext.toChunks ATTACHMENT_CHUNK_BYTES)
    (hmanifest : buildManifestForCommittedChunks chunks chunksTxHash reclaimGroupId =
      .ok manifest) :
    checkManifest manifest DEFAULT_IMAGE_LIMITS = .ok ↔
      chunks.prepared.thumbnail.length ≤ 32768 := by
  obtain ⟨houtpoints, hmanifest⟩ := buildManifest_eq hmanifest
  have hplain : 0 < chunks.prepared.bytes.length := sniffImageFormat_pos hsound.encoded.sniffed
  have hsize : chunks.prepared.bytes.length ≤ DEFAULT_IMAGE_LIMITS.maxAttachmentBytes := by
    rcases hsound.size with hpreferred | hmax
    · exact hpreferred.trans within.preferred
    · exact hmax.trans within.max
  have hcipher : chunks.encrypted.ciphertext.length = chunks.prepared.bytes.length + 16 := by
    rw [hsealed.ciphertext]
    exact lawful.encrypt_length _ _ _ _ hsealed.key hsealed.nonce
  have hcount : manifest.chunk_outpoints.length =
      (chunks.encrypted.ciphertext.length + (ATTACHMENT_CHUNK_BYTES - 1)) /
        ATTACHMENT_CHUNK_BYTES := by
    rw [houtpoints, List.length_map, List.length_range, hchunks,
      List.length_toChunks (by decide)]
  have hnonempty : manifest.chunk_outpoints.length ≠ 0 := by
    rw [hcount]
    simp only [ATTACHMENT_CHUNK_BYTES]
    omega
  obtain ⟨hwidth, hheight, hwidth_le, hheight_le⟩ := hsound.encoded.fit
  have hedge : max chunks.prepared.width chunks.prepared.height ≤
      DEFAULT_IMAGE_LIMITS.maxLongestEdgePx := by
    have := within.edge
    simp only at hwidth_le hheight_le
    omega
  obtain ⟨hmimeSize, hmime⟩ := FORMAT_TO_MIME_accepted format
  rw [hmanifest] at hcount hnonempty ⊢
  unfold checkManifest
  simp only at hcount hnonempty ⊢
  rw [if_neg hnonempty, if_neg (by omega), if_neg (by omega), if_neg (by omega),
    if_neg (not_not.mpr hcount), if_neg (by simp only at hwidth hheight; omega),
    if_neg (by omega)]
  by_cases hthumbnail : chunks.prepared.thumbnail.length ≤ 32768
  · rw [if_neg (by simpa using hthumbnail), hsound.mimeType,
      if_neg (by omega), if_neg (not_not.mpr hmime), if_neg (by simp), hsound.thumbnail,
      if_neg (by simp [sniffed_ne_unknown, image_text_sniffed])]
    simp [hthumbnail]
  · rw [if_pos (by simpa using hthumbnail)]
    simp [hthumbnail]

/-- A cell is live and carries a chunk, whenever it is asked for. -/
def Serves (receive : Program.Handler Op Error τ) (outpoint : OutPoint) (chunk : Bytes) : Prop :=
  ∀ t, ∃ cell t', receive _ (.getLiveCell outpoint) t = (.ok (.live cell), t') ∧
    cell.output.data = .bytes chunk

theorem downloadChunks_run {outpoints : List OutPoint} {pieces : List Bytes}
    (hserves : List.Forall₂ (Serves receive) outpoints pieces)
    (hsizes : ∀ piece ∈ pieces, piece.length ≤ ATTACHMENT_CHUNK_BYTES) (i : Nat) (t : τ) :
    ∃ t', Program.run receive (downloadChunks deps i outpoints) t = (.ok pieces, t') := by
  induction hserves generalizing i t with
  | nil => exact ⟨t, rfl⟩
  | @cons outpoint piece outpoints pieces hserve _ ih =>
    obtain ⟨cell, mid, hcell, hdata⟩ := hserve t
    obtain ⟨t', hrest⟩ := ih (fun other hother => hsizes other (List.mem_cons_of_mem _ hother))
      (i + 1) mid
    have hsize : piece.length ≤ ATTACHMENT_CHUNK_BYTES := hsizes piece (by simp)
    refine ⟨t', ?_⟩
    simp only [downloadChunks, call, Program.bind_eq_bind, Program.run_bind, Program.run_perform,
      hcell, hdata, ReceiveDeps.cellData, if_neg (not_lt.mpr hsize), hrest]
    rfl

theorem openAttachment_sealed {format : ImageEncodeFormat} {limits : ImageLimits}
    (lawful : crypto.Lawful) (hsound : chunks.prepared.Sound format limits crypto.ckbHash)
    (hsealed : chunks.encrypted.Sealed crypto attachmentKey chunks.prepared.bytes)
    (hmanifest : buildManifestForCommittedChunks chunks chunksTxHash reclaimGroupId =
      .ok manifest) :
    openAttachment crypto manifest attachmentKey chunks.encrypted.ciphertext =
      .ok chunks.prepared.downloaded := by
  obtain ⟨-, hmanifest⟩ := buildManifest_eq hmanifest
  have hopen : decryptAttachment crypto chunks.encrypted.ciphertext chunks.encrypted.nonce
      attachmentKey chunks.encrypted.attachmentId = .ok chunks.prepared.bytes := by
    unfold decryptAttachment
    rw [if_neg (not_not.mpr hsealed.nonce), hsealed.ciphertext]
    exact lawful.decrypt_encrypt _ _ _ _ hsealed.key hsealed.nonce
  have hmime : (if sniffImageFormat chunks.prepared.bytes = .unknown then "unknown"
      else "image/" ++ (sniffImageFormat chunks.prepared.bytes).text) =
        chunks.prepared.mimeType := by
    rw [hsound.encoded.sniffed, if_neg (sniffed_ne_unknown format), image_text_sniffed,
      hsound.mimeType]
  rw [hmanifest]
  simp [PreparedImage.downloaded, openAttachment, hsealed.cipherHash, hopen, hsound.contentHash, hmime, bind, Except.bind,
    pure, Except.pure]

theorem downloadAttachment_sealed {format : ImageEncodeFormat} {limits : ImageLimits}
    (lawful : deps.crypto.Lawful)
    (hsound : chunks.prepared.Sound format limits deps.crypto.ckbHash)
    (hsealed : chunks.encrypted.Sealed deps.crypto attachmentKey chunks.prepared.bytes)
    (hchunks : chunks.chunks = chunks.encrypted.ciphertext.toChunks ATTACHMENT_CHUNK_BYTES)
    (hmanifest : buildManifestForCommittedChunks chunks chunksTxHash reclaimGroupId =
      .ok manifest)
    (hcheck : checkManifest manifest DEFAULT_IMAGE_LIMITS = .ok)
    (hserves : ∀ index chunk, chunks.chunks[index]? = some chunk →
      Serves receive ⟨chunksTxHash, index⟩ chunk) (t : τ) :
    ∃ t', Program.run receive (downloadAttachment deps manifest attachmentKey) t =
      (.ok chunks.prepared.downloaded, t') := by
  obtain ⟨houtpoints, -⟩ := buildManifest_eq hmanifest
  have hcells : List.Forall₂ (Serves receive) manifest.chunk_outpoints chunks.chunks := by
    rw [houtpoints, List.forall₂_iff_get]
    refine ⟨by simp, fun i _ hi => ?_⟩
    have hserve := hserves i chunks.chunks[i] (List.getElem?_eq_getElem hi)
    simpa using hserve
  have hsizes : ∀ piece ∈ chunks.chunks, piece.length ≤ ATTACHMENT_CHUNK_BYTES := by
    rw [hchunks]
    exact fun piece hpiece => List.length_le_of_mem_toChunks (by decide) hpiece
  obtain ⟨t', hdownload⟩ : ∃ t', Program.run receive
      (downloadChunks deps 0 manifest.chunk_outpoints) t = (.ok chunks.chunks, t') :=
    downloadChunks_run hcells hsizes 0 t
  have hjoin : joinChunks chunks.chunks = chunks.encrypted.ciphertext := by
    rw [joinChunks, hchunks, List.flatten_toChunks]
  refine ⟨t', ?_⟩
  simp only [downloadAttachment, hcheck, Program.bind_eq_bind, Program.run_bind, hdownload, hjoin,
    openAttachment_sealed lawful hsound hsealed hmanifest, Program.run_ofExcept]

variable {Pixels υ : Type}

/-- An image that was prepared, encrypted, split and published with a manifest is accepted by the
    receiver's checks, and downloads to what was prepared, exactly when its thumbnail is small
    enough. -/
theorem published_image_received_iff {codec : ImageCodec Pixels υ} {limits : ImageLimits}
    {sourceBytes : Bytes} {format : Option ImageEncodeFormat} {u u' : υ} {s s' : σ}
    (honest : codec.Honest) (within : limits.Within DEFAULT_IMAGE_LIMITS)
    (lawful : deps.crypto.Lawful) (hdraws : DrawsLength send)
    (hprepare : Program.run codec (prepareImage deps.crypto.ckbHash sourceBytes format limits) u =
      (.ok prepared, u'))
    (hencrypt : Program.run send (encryptPreparedChunks deps.crypto.toAttachmentCrypto prepared
      attachmentKey attachmentId) s = (.ok chunks, s'))
    (hmanifest : buildManifestForCommittedChunks chunks chunksTxHash reclaimGroupId =
      .ok manifest)
    (hserves : ∀ index chunk, chunks.chunks[index]? = some chunk →
      Serves receive ⟨chunksTxHash, index⟩ chunk) :
    (checkManifest manifest DEFAULT_IMAGE_LIMITS = .ok ∧
      ∀ t, ∃ t', Program.run receive (downloadAttachment deps manifest attachmentKey) t =
        (.ok prepared.downloaded, t')) ↔
    ThumbnailFits codec limits sourceBytes format u := by
  have hedge : limits.preferredLongestEdgePx ≤ 2 ^ 50 := within.edge.trans (by decide)
  have hsound := prepareImage_sound honest hedge hprepare
  obtain ⟨rfl, hsealed, hchunks⟩ := encryptPreparedChunks_sealed hdraws hencrypt
  have hcheck := checkManifest_sealed_iff lawful within hsound hsealed hchunks hmanifest
  rw [← prepareImage_thumbnail_le_iff hprepare]
  constructor
  · rintro ⟨hok, -⟩
    exact hcheck.mp hok
  · intro hthumbnail
    have hok := hcheck.mpr hthumbnail
    exact ⟨hok, downloadAttachment_sealed lawful hsound hsealed hchunks hmanifest hok hserves⟩

/-! ### A sample image -/

def ImageEncodeFormat.magic : ImageEncodeFormat → Bytes
  | .webp => [0x52, 0x49, 0x46, 0x46, 0, 0, 0, 0, 0x57, 0x45, 0x42, 0x50]
  | .jpeg => [0xff, 0xd8, 0xff]

theorem sniffImageFormat_magic (format : ImageEncodeFormat) (rest : Bytes) :
    sniffImageFormat (format.magic ++ rest) = format.sniffed := by
  cases format <;> simp [sniffImageFormat, ImageEncodeFormat.magic, ImageEncodeFormat.sniffed]

/-- A codec without pixels. An image encodes to its magic bytes and zeros: four of them, and
    `zeros` of them in a thumbnail. -/
def sampleCodec (zeros : Nat) : ImageCodec Unit Unit := fun _ op s =>
  match op with
  | .decode _ => (.ok ⟨640, 480, ()⟩, s)
  | .resize _ width height => (.ok ⟨width, height, ()⟩, s)
  | .encode _ format quality =>
    (.ok (format.magic ++ List.replicate (if quality = THUMBNAIL_QUALITY then zeros else 4) 0), s)

theorem sampleCodec_honest (zeros : Nat) : (sampleCodec zeros).Honest := by
  intro image format quality s bytes s' hencode
  obtain rfl := Except.ok.inj (Prod.mk.inj hencode).1
  exact sniffImageFormat_magic format _

/-- A cipher that appends a tag of zeros. -/
def sampleCipher : AttachmentCipher where
  deriveSendAttachmentKey _ _ _ _ _ := List.replicate 32 0
  aes256GcmEncrypt _ _ plaintext _ := plaintext ++ List.replicate 16 0
  ckbHash bytes := bytes
  aes256GcmDecrypt _ _ ciphertext _ := .ok (ciphertext.take (ciphertext.length - 16))

theorem sampleCipher_lawful : sampleCipher.Lawful where
  encrypt_length := by simp [sampleCipher]
  decrypt_encrypt := by simp [sampleCipher]

def sampleReceiver : ReceiveDeps where
  crypto := sampleCipher
  encodeEnvelope _ := []

/-- The sample image as its own codec encodes it. -/
def sampleBytes : Bytes := ImageEncodeFormat.webp.magic ++ List.replicate 4 0

def sealedImage (zeros : Nat) : PreparedImage where
  bytes := sampleBytes
  mimeType := "image/webp"
  width := 640
  height := 480
  thumbnail := ImageEncodeFormat.webp.magic ++ List.replicate zeros 0
  contentHash := sampleBytes

theorem sampleCodec_compresses (zeros : Nat) :
    Program.run (sampleCodec zeros) (compressToLimits ⟨640, 480, ()⟩ .webp DEFAULT_IMAGE_LIMITS)
      () = (.ok ⟨sampleBytes, .webp, 82, ⟨640, 480⟩, true⟩, ()) := by
  have hfit : planImageFit ⟨640, 480⟩ 960 = .ok ⟨640, 480⟩ := rfl
  have hwidth : scaled 640 (Binary64.fl 1) = 640 := by decide +kernel
  have hheight : scaled 480 (Binary64.fl 1) = 480 := by decide +kernel
  simp [sampleCodec, compressToLimits, tryEdges, tryQualities, resizeTo, EDGE_STEPS,
    QUALITY_STEPS, DecodedImage.dimensions, Program.run_bind, hfit, hwidth, hheight,
    sampleBytes, ImageEncodeFormat.magic, THUMBNAIL_QUALITY, DEFAULT_IMAGE_LIMITS]

theorem sampleCodec_prepares (zeros : Nat) :
    Program.run (sampleCodec zeros) (prepareImage sampleCipher.ckbHash
      ImageEncodeFormat.webp.magic none DEFAULT_IMAGE_LIMITS) () = (.ok (sealedImage zeros), ()) := by
  have hsniff : sniffImageFormat ImageEncodeFormat.webp.magic ≠ .unknown := by decide
  have hthumb : planThumbnailFit ⟨640, 480⟩ DEFAULT_IMAGE_LIMITS = .ok ⟨320, 240⟩ := by
    decide +kernel
  have hcompress := sampleCodec_compresses zeros
  simp only [prepareImage, if_neg hsniff, Option.getD_none, Program.bind_eq_bind,
    Program.run_bind, Program.run_perform, Program.run_ofExcept]
  simp only [sampleCodec, DecodedImage.dimensions, hthumb] at hcompress ⊢
  rw [hcompress]
  rfl

/-- A sender that draws zeros, and a receiver's node on which every cell is live with the sample
    image's only chunk. -/
def sampleNode : Program.Handler Op Error Unit := fun _ op s =>
  match op with
  | .randomBytes length => (.ok (List.replicate length 0), s)
  | .getLiveCell outPoint =>
    (.ok (.live ⟨outPoint, 0, ⟨0, .data, []⟩, none, .bytes (sampleBytes ++ List.replicate 16 0)⟩),
      s)
  | _ => (.error (.other "not reachable"), s)

theorem sampleNode_drawsLength : DrawsLength sampleNode := by
  intro length s bytes s' hdraw
  obtain rfl := Except.ok.inj (Prod.mk.inj hdraw).1
  simp

def sampleKey : Bytes := List.replicate 32 0

def sealedChunks (zeros : Nat) : PreparedChunks where
  prepared := sealedImage zeros
  encrypted :=
    { attachmentId := List.replicate 16 0
      nonce := List.replicate 12 0
      ciphertext := sampleBytes ++ List.replicate 16 0
      cipherHash := sampleBytes ++ List.replicate 16 0 }
  chunks := [sampleBytes ++ List.replicate 16 0]

theorem sealedChunks_encrypted (zeros : Nat) :
    Program.run sampleNode (encryptPreparedChunks sampleCipher.toAttachmentCrypto
      (sealedImage zeros) sampleKey none) () = (.ok (sealedChunks zeros), ()) := rfl

def sealedManifest (zeros : Nat) : AttachmentManifestV1 where
  attachment_id := List.replicate 16 0
  ckbfs_root := ⟨7, 0⟩
  chunk_outpoints := [⟨7, 0⟩]
  encrypted_size := 32
  plaintext_size := 16
  mime_type := "image/webp"
  width := 640
  height := 480
  thumbnail := some (ImageEncodeFormat.webp.magic ++ List.replicate zeros 0)
  content_hash := sampleBytes
  cipher_hash := sampleBytes ++ List.replicate 16 0
  encryption_nonce := List.replicate 12 0
  encryption_algorithm := ⟨0x03, 1⟩
  reclaim_group_id := []

theorem sealedManifest_built (zeros : Nat) :
    buildManifestForCommittedChunks (sealedChunks zeros) 7 [] = .ok (sealedManifest zeros) := rfl

theorem sampleNode_serves (zeros : Nat) (index : Nat) (chunk : Bytes)
    (hchunk : (sealedChunks zeros).chunks[index]? = some chunk) :
    Serves sampleNode ⟨7, index⟩ chunk := by
  have hmem := List.mem_of_getElem? hchunk
  obtain rfl := List.mem_singleton.mp hmem
  exact fun t => ⟨_, t, rfl, rfl⟩

/-- A thumbnail of 20 bytes: the image arrives. -/
theorem sealedImage_received :
    checkManifest (sealedManifest 8) DEFAULT_IMAGE_LIMITS = .ok ∧
      ∀ t, ∃ t', Program.run sampleNode (downloadAttachment sampleReceiver (sealedManifest 8)
        sampleKey) t = (.ok (sealedImage 8).downloaded, t') := by
  have hfits : ThumbnailFits (sampleCodec 8) DEFAULT_IMAGE_LIMITS ImageEncodeFormat.webp.magic
      none () := (prepareImage_thumbnail_le_iff (sampleCodec_prepares 8)).mp (by decide)
  exact Iff.mpr (published_image_received_iff (sampleCodec_honest 8) DEFAULT_IMAGE_LIMITS_within
    sampleCipher_lawful sampleNode_drawsLength (sampleCodec_prepares 8)
    (sealedChunks_encrypted 8) (sealedManifest_built 8) (sampleNode_serves 8)) hfits

theorem sealedManifest_refused {zeros : Nat} (hlarge : 32768 < zeros + 12) :
    checkManifest (sealedManifest zeros) DEFAULT_IMAGE_LIMITS =
      .fail "thumbnail exceeds 32 KiB" := by
  have hthumbnail : 32768 < (ImageEncodeFormat.webp.magic ++ List.replicate zeros 0).length := by
    rw [List.length_append, List.length_replicate, Nat.add_comm]
    exact hlarge
  simp only [checkManifest, sealedManifest, Option.map_some, Option.getD_some, hthumbnail]
  simp [DEFAULT_IMAGE_LIMITS, ATTACHMENT_CHUNK_BYTES]

/-- A thumbnail of 32769 bytes: every step of the sender succeeds, and the receiver refuses. -/
theorem largeThumbnail_refused :
    (sampleCodec 32757).Honest ∧
      Program.run (sampleCodec 32757) (prepareImage sampleCipher.ckbHash
        ImageEncodeFormat.webp.magic none DEFAULT_IMAGE_LIMITS) () =
          (.ok (sealedImage 32757), ()) ∧
      Program.run sampleNode (encryptPreparedChunks sampleCipher.toAttachmentCrypto
        (sealedImage 32757) sampleKey none) () = (.ok (sealedChunks 32757), ()) ∧
      buildManifestForCommittedChunks (sealedChunks 32757) 7 [] = .ok (sealedManifest 32757) ∧
      checkManifest (sealedManifest 32757) DEFAULT_IMAGE_LIMITS =
        .fail "thumbnail exceeds 32 KiB" := by
  refine ⟨sampleCodec_honest _, sampleCodec_prepares _, sealedChunks_encrypted _,
    sealedManifest_built _, sealedManifest_refused (by decide)⟩

end cemp.images
