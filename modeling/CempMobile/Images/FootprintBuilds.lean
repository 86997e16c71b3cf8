import CempMobile.Images.FootprintSizes

open Except Molecule mol cemp.core.codec cemp.crypto
open cemp.ckb.cighash cemp.ckb.signing

namespace cemp.images.footprint

/-! Every send within the limits of the protocol is built. -/

/-- A send within the limits, with keys, ids and hashes of their lengths, from a wallet that can
    pay. -/
structure Sendable (lib : Libraries) (wallet : Wallet) (parties : Parties) (drawn : Drawn)
    (prepared : PreparedImage) (caption chunksTxHash : String) : Prop where
  image : prepared.bytes.length ≤ DEFAULT_IMAGE_LIMITS.maxAttachmentBytes
  thumbnail : prepared.thumbnail.length ≤ 32768
  caption : (Utf8.encode caption.toList).length ≤ core.V1_LIMITS.maxTextBytes
  mimeType : (Utf8.encode prepared.mimeType.toList).length ≤ 64
  width : prepared.width < 2 ^ 32
  height : prepared.height < 2 ^ 32
  contentHash : prepared.contentHash.length = 32
  ckbHash : ∀ bytes, (lib.ckbHash bytes).length = 32
  chunksTxHash : ∃ hash, hexToBytes chunksTxHash = .ok hash ∧ hash.length = 32
  recipientKemPublicKey : ∃ secretKey, lib.suite.KeyPair parties.recipientKemPublicKey secretKey
  senderProfileId : parties.senderProfileId.length = 32
  recipientProfileId : parties.recipientProfileId.length = 32
  senderDeviceId : parties.senderDeviceId.length = 16
  kemMessage : drawn.kemMessage.length = 32
  nonce : drawn.nonce.length = 12
  attachmentId : drawn.attachmentId.length = 16
  attachmentNonce : drawn.attachmentNonce.length = 12
  reclaimGroupId : drawn.reclaimGroupId.length = 16
  messageId : drawn.ambient.messageId.length = 16
  messageNonce : drawn.ambient.messageNonce.length = 16
  padding : drawn.ambient.padding.length ≤ core.V1_LIMITS.maxPaddingBytes
  nowMs : Holds 8 (drawn.ambient.nowMs / 1000)
  completes : ∀ tx, ∃ completion, lib.ccc.complete wallet tx DEFAULT_FEE_RATE = .ok completion

section Builds

variable {lib : Libraries} {wallet : Wallet} {parties : Parties} {drawn : Drawn}
  {prepared : PreparedImage} {caption chunksTxHash : String}

theorem Sendable.attachmentKey (hsuite : lib.suite.Correct)
    (h : Sendable lib wallet parties drawn prepared caption chunksTxHash) :
    ∃ key, deriveSendAttachmentKey lib.suite ⟨parties.recipientKemPublicKey, drawn.kemMessage,
        drawn.nonce, parties.senderProfileId, parties.recipientProfileId⟩ = .ok key ∧
      key.length = 32 := by
  obtain ⟨secretKey, hkeys⟩ := h.recipientKemPublicKey
  obtain ⟨cipherText, sharedSecret, hencapsulated, -, -⟩ := hkeys.encapsulates _ h.kemMessage
  refine ⟨_, ?_, deriveMessageKey_length hsuite sharedSecret drawn.nonce parties.senderProfileId
    parties.recipientProfileId .AttachmentKey⟩
  refine bind_eq_ok_iff.2 ⟨(), requireLength_eq_ok_iff.2 hkeys.publicKey_length, ?_⟩
  refine bind_eq_ok_iff.2 ⟨(), requireLength_eq_ok_iff.2 h.kemMessage, ?_⟩
  refine bind_eq_ok_iff.2 ⟨(), requireLength_eq_ok_iff.2 h.nonce, ?_⟩
  refine bind_eq_ok_iff.2 ⟨(), requireLength_eq_ok_iff.2 h.senderProfileId, ?_⟩
  refine bind_eq_ok_iff.2 ⟨(), requireLength_eq_ok_iff.2 h.recipientProfileId, ?_⟩
  exact bind_eq_ok_iff.2 ⟨(_, sharedSecret), orThrow_eq_ok_iff.2 hencapsulated, rfl⟩

/-- What is known of the chunks of a send. -/
structure ChunksOf (prepared : PreparedImage) (drawn : Drawn) (chunks : PreparedChunks) : Prop where
  image : chunks.prepared = prepared
  attachmentId : chunks.encrypted.attachmentId = drawn.attachmentId
  nonce : chunks.encrypted.nonce = drawn.attachmentNonce
  cipherHash : chunks.encrypted.cipherHash.length = 32
  ciphertext : chunks.encrypted.ciphertext.length = prepared.bytes.length + 16
  pieces : chunks.chunks = chunks.encrypted.ciphertext.toChunks ATTACHMENT_CHUNK_BYTES

theorem Sendable.chunks (hsuite : lib.suite.Correct)
    (h : Sendable lib wallet parties drawn prepared caption chunksTxHash) {attachmentKey : Buffer}
    (hkey : attachmentKey.length = 32) :
    ∃ chunks, encryptPreparedChunks lib.suite lib.ckbHash prepared attachmentKey
        drawn.attachmentId drawn.attachmentNonce = .ok chunks ∧ ChunksOf prepared drawn chunks := by
  have hlength := hsuite.gcm_length attachmentKey drawn.attachmentNonce
    (aadFor drawn.attachmentId) prepared.bytes
  set ciphertext := lib.suite.gcmEncrypt attachmentKey drawn.attachmentNonce
    (aadFor drawn.attachmentId) prepared.bytes with hciphertext
  have hlength : ciphertext.length = prepared.bytes.length + 16 := hlength
  have hpieces : splitIntoChunks ciphertext ATTACHMENT_CHUNK_BYTES =
      .ok (ciphertext.toChunks ATTACHMENT_CHUNK_BYTES) := by
    unfold splitIntoChunks
    rw [if_neg (by decide), if_neg]
    rintro hempty
    rw [hempty, List.length_nil] at hlength
    omega
  refine ⟨⟨prepared, ⟨drawn.attachmentId, drawn.attachmentNonce, ciphertext,
    lib.ckbHash ciphertext⟩, ciphertext.toChunks ATTACHMENT_CHUNK_BYTES⟩, ?_, rfl, rfl, rfl,
    h.ckbHash _, hlength, rfl⟩
  refine bind_eq_ok_iff.2 ⟨⟨drawn.attachmentId, drawn.attachmentNonce, ciphertext,
    lib.ckbHash ciphertext⟩, ?_, ?_⟩
  · unfold encryptAttachment
    rw [if_neg (not_not.2 hkey), if_neg (not_not.2 h.attachmentId)]
    refine bind_eq_ok_iff.2 ⟨ciphertext, lift_eq_ok_iff.2 ?_, rfl⟩
    exact aes256GcmEncrypt_eq_ok_iff.2 ⟨⟨hkey, h.attachmentNonce⟩, hciphertext⟩
  · exact bind_eq_ok_iff.2 ⟨_, lift_eq_ok_iff.2 hpieces, rfl⟩

theorem estimateFee_pos (bytes : Nat) : estimateFee bytes DEFAULT_FEE_RATE ≠ 0 := by
  unfold estimateFee DEFAULT_FEE_RATE
  omega

/-- A wallet that can complete a transaction pays a fee for it. -/
theorem Sendable.finalizes (hccc : lib.ccc.Documented lib.reader)
    (h : Sendable lib wallet parties drawn prepared caption chunksTxHash) (tx : RawTransaction) :
    ∃ built, completeAndFinalize lib.ccc wallet tx = .ok built := by
  obtain ⟨completion, hcompletion⟩ := h.completes tx
  obtain ⟨prepared, -, hfee⟩ := hccc.fee hcompletion
  refine ⟨⟨completed wallet tx completion, completion.fee⟩, bind_eq_ok_iff.2 ⟨completion,
    hcompletion, ?_⟩⟩
  rw [if_neg (by rw [hfee]; exact estimateFee_pos _)]
  rfl

theorem Sendable.chunksTx (hccc : lib.ccc.Documented lib.reader)
    (h : Sendable lib wallet parties drawn prepared caption chunksTxHash) {chunks : PreparedChunks}
    (hchunks : ChunksOf prepared drawn chunks) :
    ∃ built, buildDataCellsTx lib.ccc wallet chunks.chunks = .ok built := by
  have hciphertext : chunks.encrypted.ciphertext ≠ [] := by
    intro hempty
    have hlength := hchunks.ciphertext
    rw [hempty, List.length_nil] at hlength
    omega
  have hpieces : ∀ piece ∈ chunks.chunks, piece ≠ [] := by
    intro piece hpiece
    rw [hchunks.pieces] at hpiece
    exact List.ne_nil_of_mem_toChunks (by decide) hciphertext hpiece
  have hsome : chunks.chunks ≠ [] := by
    intro hnone
    have hflatten := List.flatten_toChunks ATTACHMENT_CHUNK_BYTES chunks.encrypted.ciphertext
    rw [← hchunks.pieces, hnone, List.flatten_nil] at hflatten
    exact hciphertext hflatten.symm
  have hfilled : ¬ chunks.chunks.any List.isEmpty = true := by
    rw [List.any_eq_true]
    rintro ⟨piece, hpiece, hempty⟩
    exact hpieces piece hpiece (List.isEmpty_iff.1 hempty)
  unfold buildDataCellsTx
  rw [if_neg hsome, if_neg hfilled]
  exact h.finalizes hccc _

theorem holds_zero : Holds 8 0 := ⟨le_rfl, by decide⟩

theorem holds_one : Holds 1 1 := ⟨by decide, by decide⟩

theorem holds_three : Holds 1 3 := ⟨by decide, by decide⟩

theorem manifestOutpoints_eq_ok {txHash : String} {hash : Buffer}
    (hhash : hexToBytes txHash = .ok hash) (indices : List Nat) :
    manifestOutpoints (indices.map fun index => ⟨txHash, index⟩) =
      .ok (indices.map fun (index : Nat) => (⟨hash, (index : Int)⟩ : OutPointV1)) := by
  induction indices with
  | nil => rfl
  | cons index rest ih =>
    refine bind_eq_ok_iff.2 ⟨hash, hhash, ?_⟩
    exact bind_eq_ok_iff.2 ⟨_, ih, rfl⟩

/-- The manifest of a send has parts of their lengths. -/
theorem Sendable.manifest
    (h : Sendable lib wallet parties drawn prepared caption chunksTxHash) {chunks : PreparedChunks}
    (hchunks : ChunksOf prepared drawn chunks) (hsome : chunks.chunks ≠ []) :
    ∃ manifest, buildManifestForCommittedChunks chunks chunksTxHash drawn.reclaimGroupId =
        .ok manifest ∧ ManifestSized manifest := by
  obtain ⟨hash, hhash, hlength⟩ := h.chunksTxHash
  obtain ⟨image, encrypted, pieces⟩ := chunks
  obtain rfl := hchunks.image
  have himage : image.bytes.length ≤ 1048576 := h.image
  have hciphertext : encrypted.ciphertext.length = image.bytes.length + 16 := hchunks.ciphertext
  have hcount : pieces.length ≤ 33 := by
    have hpieces : pieces = encrypted.ciphertext.toChunks ATTACHMENT_CHUNK_BYTES := hchunks.pieces
    rw [hpieces, List.length_toChunks (by decide), ATTACHMENT_CHUNK_BYTES]
    omega
  have houtpoints := manifestOutpoints_eq_ok hhash (List.range pieces.length)
  have hsized : ∀ outPoint ∈ (List.range pieces.length).map fun (index : Nat) =>
      (⟨hash, (index : Int)⟩ : OutPointV1), OutPointSized outPoint := by
    intro outPoint hmem
    obtain ⟨index, hindex, rfl⟩ := List.mem_map.1 hmem
    have hindex := List.mem_range.1 hindex
    exact ⟨hlength, Int.natCast_nonneg _, by simp only; omega⟩
  unfold buildManifestForCommittedChunks buildAttachmentManifest
  simp only [houtpoints]
  cases hlist : (List.range pieces.length).map fun (index : Nat) =>
      (⟨hash, (index : Int)⟩ : OutPointV1) with
  | nil =>
    have hnone := congrArg List.length hlist
    rw [List.length_map, List.length_range, List.length_nil] at hnone
    exact absurd (List.length_eq_zero_iff.1 hnone) hsome
  | cons root rest =>
    rw [hlist] at hsized
    have hwidth : image.width < 2 ^ 32 := h.width
    have hheight : image.height < 2 ^ 32 := h.height
    exact ⟨_, rfl,
      { attachment_id := hchunks.attachmentId ▸ h.attachmentId
        ckbfs_root := hsized root List.mem_cons_self
        chunk_outpoints := hsized
        encrypted_size := ⟨Int.natCast_nonneg _, by simp only [manifestOf]; omega⟩
        plaintext_size := ⟨Int.natCast_nonneg _, by simp only [manifestOf]; omega⟩
        width := ⟨Int.natCast_nonneg _, by simp only [manifestOf]; omega⟩
        height := ⟨Int.natCast_nonneg _, by simp only [manifestOf]; omega⟩
        content_hash := h.contentHash
        cipher_hash := hchunks.cipherHash
        encryption_nonce := hchunks.nonce ▸ h.attachmentNonce
        family := holds_three
        parameter := holds_one
        reclaim_group_id := h.reclaimGroupId }⟩

/-- A manifest that fits a payload with the longest caption. -/
def Small (manifest : AttachmentManifestV1) : Prop :=
  52 * manifest.chunk_outpoints.length + manifest.mime_type.length +
    optionBytes manifest.thumbnail ≤ 34552

theorem Sendable.small
    (h : Sendable lib wallet parties drawn prepared caption chunksTxHash) {chunks : PreparedChunks}
    (hchunks : ChunksOf prepared drawn chunks) {manifest : AttachmentManifestV1}
    (hmanifest : buildManifestForCommittedChunks chunks chunksTxHash drawn.reclaimGroupId =
      .ok manifest) : Small manifest := by
  obtain ⟨houtpoints, hmime, hthumbnail⟩ := buildManifest_eq_ok hmanifest
  have himage : prepared.bytes.length ≤ 1048576 := h.image
  have hcount : chunks.chunks.length ≤ 33 := by
    rw [hchunks.pieces, List.length_toChunks (by decide), hchunks.ciphertext,
      ATTACHMENT_CHUNK_BYTES]
    omega
  have hmimeLength := h.mimeType
  have hthumbnailLength := h.thumbnail
  unfold Small
  rw [houtpoints, hmime, hthumbnail, hchunks.image, optionBytes]
  omega

theorem captionBytes_le (caption : String) :
    captionBytes caption ≤ 4 + (Utf8.encode caption.toList).length := by
  unfold captionBytes
  split
  · omega
  · exact le_rfl

/-- The payload of a send encodes, and is valid. -/
theorem Sendable.payload (hreads : lib.reader.Reads)
    (h : Sendable lib wallet parties drawn prepared caption chunksTxHash)
    {manifest : AttachmentManifestV1} (hmanifest : ManifestSized manifest)
    (hsmall : Small manifest) :
    ∃ bytes, Schema.CempPayloadV1.encode lib.reader (ckb.wire.textPayload
          (imageParams parties drawn caption manifest) drawn.ambient none) = .ok bytes ∧
      validatePayload lib.reader lib.libraryText bytes = .ok := by
  set payload := ckb.wire.textPayload (imageParams parties drawn caption manifest) drawn.ambient none
    with hpayload
  have htakes := @payload_takes lib.reader hreads payload manifest rfl rfl rfl rfl
  have htext : optionBytes payload.text = captionBytes caption := optionBytes_payloadText ..
  have hcaption := captionBytes_le caption
  have hcaptionLimit : (Utf8.encode caption.toList).length ≤ 16384 := h.caption
  have hpadding : payload.padding.length ≤ 255 := h.padding
  unfold Small at hsmall
  rw [htext] at htakes
  have hsized : PayloadSized payload :=
    { message_id := h.messageId
      body_type := holds_three
      recipient_profile_id := h.recipientProfileId
      attachment_manifests := fun m hm => List.mem_singleton.1 hm ▸ hmanifest
      receipt_request := holds_one
      client_timestamp := h.nowMs
      sender_device_id := h.senderDeviceId }
  obtain ⟨bytes, hbytes⟩ :=
    (CempPayloadV1Codec_lawful hreads).encodes (htakes.inRange hsized (by omega))
  have hlength := htakes.length hbytes
  refine ⟨bytes, strictEncode_eq_ok_iff.2 hbytes, validatePayload_eq_ok_iff.2 ⟨payload,
    strictDecode_eq_ok_iff.2 ⟨(CempPayloadV1Codec_lawful hreads).decodes hbytes, hbytes⟩, ?_⟩⟩
  have htextLength : (payload.text.map List.length).getD 0 ≤ 16384 := by
    cases hsome : payload.text with
    | none => exact Nat.zero_le _
    | some text =>
      rw [hsome] at htext
      simp only [optionBytes] at htext
      simp only [Option.map_some, Option.getD_some]
      omega
  have hreceipts : payload.receipts = [] := rfl
  have hmanifests : payload.attachment_manifests = [manifest] := rfl
  have hbody : payload.body_type = 3 := rfl
  have hrequest : payload.receipt_request = 1 := rfl
  unfold validatePayloadFields
  simp only [hreceipts, hmanifests, hbody, hrequest, List.find?_nil]
  rw [if_neg (by decide), if_neg (by decide), if_neg (by simp only [core.V1_LIMITS.maxTextBytes]; omega),
    if_neg (by simp only [core.V1_LIMITS.maxPayloadBytes, Option.getD_some]; omega),
    if_neg (by simp only [core.V1_LIMITS.maxPaddingBytes]; omega), if_neg (by decide),
    if_neg (by rw [List.length_singleton]; decide), if_neg fun h => absurd h.1 (by decide)]

theorem Sendable.conversationId
    (h : Sendable lib wallet parties drawn prepared caption chunksTxHash) :
    (ckb.wire.deriveConversationId lib.ckbHash parties.senderProfileId
      parties.recipientProfileId).length = 32 := by
  unfold ckb.wire.deriveConversationId
  split
  · exact h.ckbHash _
  · exact h.ckbHash _

theorem Sendable.header (hreads : lib.reader.Reads)
    (h : Sendable lib wallet parties drawn prepared caption chunksTxHash)
    (manifest : AttachmentManifestV1) :
    AcceptedHeader lib.reader (ckb.wire.envelopeHeader lib.ckbHash
      (imageParams parties drawn caption manifest) drawn.ambient) := by
  have hsized : HeaderSized (ckb.wire.envelopeHeader lib.ckbHash
      (imageParams parties drawn caption manifest) drawn.ambient) :=
    { protocol_version := holds_one
      network := holds_one
      content_type := holds_three
      message_id := h.messageId
      conversation_id := h.conversationId
      sender_profile_id := h.senderProfileId
      created_at_client := h.nowMs
      expiry_hint := holds_zero }
  have htakes := @header_takes lib.reader hreads (ckb.wire.envelopeHeader lib.ckbHash
    (imageParams parties drawn caption manifest) drawn.ambient) rfl
  obtain ⟨aad, haad⟩ :=
    (CempEnvelopeHeaderV1Codec_lawful hreads).encodes (htakes.inRange hsized (by decide))
  exact (acceptedHeader_iff hreads).2 ⟨⟨rfl, rfl, rfl⟩, aad, strictEncode_eq_ok_iff.2 haad⟩

/-- The message of a send assembles. -/
theorem Sendable.assembled (hreads : lib.reader.Reads) (hsuite : lib.suite.Correct)
    (h : Sendable lib wallet parties drawn prepared caption chunksTxHash)
    {manifest : AttachmentManifestV1} (hmanifest : ManifestSized manifest)
    (hsmall : Small manifest) :
    ∃ assembled, ckb.wire.assembleTextMessage lib.ckbHash lib.suite lib.reader lib.libraryText
          drawn.ambient (imageParams parties drawn caption manifest) = .ok assembled ∧
      validateEnvelope lib.reader lib.libraryText assembled.envelopeBytes = .ok ∧
      assembled.routeTag.length = 32 ∧ assembled.conversationTag.length = 16 ∧
      assembled.messageNonce.length = 16 := by
  obtain ⟨payload, hpayload, hvalid⟩ := h.payload hreads hmanifest hsmall
  obtain ⟨secretKey, hkeys⟩ := h.recipientKemPublicKey
  have hdecode : Schema.CempPayloadV1.decode lib.reader payload = .ok (ckb.wire.textPayload
      (imageParams parties drawn caption manifest) drawn.ambient none) := strictDecode_eq_ok_iff.2
    ⟨(CempPayloadV1Codec_lawful hreads).decodes (strictEncode_eq_ok_iff.1 hpayload),
      strictEncode_eq_ok_iff.1 hpayload⟩
  obtain ⟨sealed, sharedSecret, aad, -, hsealing⟩ := @sealing_exists lib.suite lib.reader
    lib.libraryText hreads hsuite drawn.ambient.entropy (ckb.wire.envelopeParams lib.ckbHash
      drawn.ambient (imageParams parties drawn caption manifest) payload) _ secretKey hkeys hvalid
    (h.header hreads manifest) hdecode rfl rfl h.nonce h.kemMessage
  refine ⟨_, bind_eq_ok_iff.2 ⟨none, rfl, bind_eq_ok_iff.2 ⟨payload,
    ckb.wire.lift_eq_ok_iff.2 hpayload, bind_eq_ok_iff.2 ⟨(),
      ckb.wire.checkPayload_eq_ok_iff.2 hvalid, bind_eq_ok_iff.2 ⟨sealed,
        ckb.wire.lift_eq_ok_iff.2 (encryptEnvelope_eq_ok_iff.2 ⟨_, _, _, hsealing⟩), rfl⟩⟩⟩⟩,
    hsealing.valid, h.ckbHash _, ?_, h.messageNonce⟩
  change ((ckb.wire.deriveConversationId lib.ckbHash parties.senderProfileId
    parties.recipientProfileId).take 16).length = 16
  rw [List.length_take, h.conversationId]
  rfl

/-- Every send within the limits builds its two transactions. -/
theorem Sendable.builds (hreads : lib.reader.Reads) (hsuite : lib.suite.Correct)
    (hccc : lib.ccc.Documented lib.reader)
    (h : Sendable lib wallet parties drawn prepared caption chunksTxHash) :
    ∃ transactions, imageTransactions lib wallet parties drawn prepared caption chunksTxHash =
      .ok transactions := by
  obtain ⟨attachmentKey, hkey, hkeyLength⟩ := h.attachmentKey hsuite
  obtain ⟨chunks, hchunks, hparts⟩ := h.chunks hsuite hkeyLength
  obtain ⟨chunksTx, hchunksTx⟩ := h.chunksTx hccc hparts
  have hsome : chunks.chunks ≠ [] := (guard_eq_ok_iff.1 hchunksTx).1
  obtain ⟨manifest, hmanifest, hsized⟩ := h.manifest hparts hsome
  obtain ⟨assembled, hassembled, hvalid, hroute, hconversation, hnonce⟩ :=
    h.assembled hreads hsuite hsized (h.small hparts hmanifest)
  obtain ⟨hlimit, envelope, hdecode, -⟩ := validateEnvelope_eq_ok_iff.1 hvalid
  have hmessageTx : ∃ built, buildSendMessageTx lib.ccc wallet lib.reader lib.libraryText assembled =
      .ok built := by
    have htypeArgs := (@ckb.buildMessageTypeArgs_eq_ok_iff ⟨assembled.routeTag,
      assembled.conversationTag, assembled.messageNonce⟩ _).2 ⟨⟨hroute, hconversation, hnonce⟩, rfl⟩
    have hfilled : assembled.envelopeBytes.length ≠ 0 := by
      have hencode := (strictDecode_eq_ok_iff.1 hdecode).2
      have hsome : assembled.envelopeBytes ≠ [] := (@table_nonEmpty _ lib.reader _ _ _ hencode)
      exact fun hzero => hsome (List.length_eq_zero_iff.1 hzero)
    obtain ⟨built, hbuilt⟩ := h.finalizes hccc ⟨0, [wallet.messageType.cellDep], [], [],
      [sized lib.ccc wallet.lock (some ⟨wallet.messageType.codeHash, wallet.messageType.hashType,
        _⟩) assembled.envelopeBytes], [assembled.envelopeBytes]⟩
    refine ⟨built, ?_⟩
    unfold buildSendMessageTx
    simp only [hvalid]
    rw [if_neg hfilled, if_neg (Nat.not_lt.2 hlimit)]
    exact bind_eq_ok_iff.2 ⟨_, htypeArgs, hbuilt⟩
  obtain ⟨messageTx, hmessageTx⟩ := hmessageTx
  refine ⟨⟨chunks, assembled, chunksTx, messageTx⟩, ?_⟩
  refine bind_eq_ok_iff.2 ⟨attachmentKey, lift_eq_ok_iff.2 hkey, ?_⟩
  refine bind_eq_ok_iff.2 ⟨chunks, hchunks, ?_⟩
  refine bind_eq_ok_iff.2 ⟨chunksTx, lift_eq_ok_iff.2 hchunksTx, ?_⟩
  refine bind_eq_ok_iff.2 ⟨manifest, lift_eq_ok_iff.2 hmanifest, ?_⟩
  refine bind_eq_ok_iff.2 ⟨assembled, lift_eq_ok_iff.2 hassembled, ?_⟩
  exact bind_eq_ok_iff.2 ⟨messageTx, lift_eq_ok_iff.2 hmessageTx, rfl⟩

end Builds

/-! ### A sample -/

/-- A completion that spends one cell and leaves no change. -/
def sampleCcc : Ccc where
  occupied output data := occupiedSize output data * SHANNON_PER_CKB
  complete wallet tx rate :=
    let inputs : List CellInput := [⟨List.replicate 32 7, 0, 0⟩]
    .ok ⟨inputs, none, estimateFee (serializedBytes (ensurePlaceholderWitnesses offsetReader
      ⟨completed wallet tx ⟨inputs, none, 0⟩, []⟩).2) rate⟩

def sampleLibraries : Libraries :=
  ⟨sampleCcc, sampleSuite, fun _ => List.replicate 32 8, offsetReader, ""⟩

def sampleWallet : Wallet where
  lock := ⟨List.replicate 32 1, .type, List.replicate 37 0⟩
  lockCellDep := ⟨⟨List.replicate 32 2, 3⟩, .code⟩
  messageType := ⟨List.replicate 32 3, .data1, ⟨⟨List.replicate 32 4, 0⟩, .code⟩⟩
  lock_args := List.length_replicate
  deployments := by decide

def sampleParties : Parties :=
  ⟨List.replicate 32 9, List.replicate 16 11, List.replicate 32 10, samplePublicKey⟩

def sampleDrawn : Drawn where
  kemMessage := List.replicate 32 6
  nonce := List.replicate 12 5
  attachmentId := List.replicate 16 12
  attachmentNonce := List.replicate 12 13
  reclaimGroupId := List.replicate 16 14
  ambient := ckb.wire.sampleAmbient

/-- An image and its thumbnail, of these sizes. -/
def sampleImage (bytes thumbnail : Nat) : PreparedImage where
  bytes := List.replicate bytes 0
  mimeType := "image/webp"
  width := 640
  height := 480
  thumbnail := List.replicate thumbnail 0
  contentHash := List.replicate 32 15

def sampleCaption (length : Nat) : String := String.ofList (List.replicate length 'a')

def sampleTxHash : String := "0x" ++ String.ofList (List.replicate 64 'a')

/-- Placeholders are written for any number of inputs. -/
theorem ensurePlaceholderWitnesses_ok {reader : Reader} (hreads : reader.Reads)
    (raw : RawTransaction) :
    ∃ prepared, ensurePlaceholderWitnesses reader ⟨raw, []⟩ = (none, prepared) := by
  obtain ⟨witness, hwitness⟩ := (WitnessArgsCodec_lawful hreads).encodes
    ((@placeholder_takes reader).inRange trivial (by decide))
  have hone : ∀ i, ensureWitness reader i [] = .ok witness := by
    intro i
    refine ensureWitness_eq_ok.2 ⟨none, rfl, ?_⟩
    rw [if_neg (by simp [hasRealLock])]
    exact hwitness
  have hall : ∀ i count, ensureWitnesses reader i count (List.replicate count []) =
      (none, List.replicate count witness) := by
    intro i count
    induction count generalizing i with
    | zero => rfl
    | succ count ih => rw [List.replicate_succ, ensureWitnesses, hone, ih]; rfl
  have hpad : padWitnesses raw.inputs.length [] = List.replicate raw.inputs.length [] := rfl
  unfold ensurePlaceholderWitnesses
  rw [hpad, hall]
  exact ⟨_, rfl⟩

theorem sampleCcc_documented : sampleCcc.Documented offsetReader where
  occupied _ _ := rfl
  fee := by
    intro wallet tx rate completion hcomplete
    obtain rfl := ok.inj hcomplete
    obtain ⟨prepared, hprepared⟩ := ensurePlaceholderWitnesses_ok offsetReader_reads
      (completed wallet tx ⟨[⟨List.replicate 32 7, 0, 0⟩], none, 0⟩)
    exact ⟨prepared, hprepared, by rw [hprepared]⟩

theorem length_encode_sampleCaption (length : Nat) :
    (Utf8.encode (sampleCaption length).toList).length = length := by
  unfold sampleCaption
  rw [String.toList_ofList]
  induction length with
  | zero => rfl
  | succ length ih =>
    rw [List.replicate_succ]
    change (String.utf8EncodeChar 'a' ++ Utf8.encode (List.replicate length 'a')).length = _
    rw [List.length_append, ih]
    exact Nat.add_comm 1 length

theorem sample_sendable {bytes thumbnail caption : Nat} (hbytes : bytes ≤ 1048576)
    (hthumbnail : thumbnail ≤ 32768) (hcaption : caption ≤ 16384) :
    Sendable sampleLibraries sampleWallet sampleParties sampleDrawn (sampleImage bytes thumbnail)
      (sampleCaption caption) sampleTxHash where
  image := List.length_replicate.trans_le hbytes
  thumbnail := List.length_replicate.trans_le hthumbnail
  caption := (length_encode_sampleCaption caption).trans_le hcaption
  mimeType := (by decide +kernel : (Utf8.encode "image/webp".toList).length ≤ 64)
  width := (by decide : 640 < 2 ^ 32)
  height := (by decide : 480 < 2 ^ 32)
  contentHash := List.length_replicate
  ckbHash _ := List.length_replicate
  chunksTxHash := by
    have hread : (hexToBytes sampleTxHash).toOption.map List.length = some 32 := by decide +kernel
    cases hhash : hexToBytes sampleTxHash with
    | error failure => simp [hhash, Except.toOption] at hread
    | ok hash =>
      rw [hhash] at hread
      exact ⟨hash, rfl, Option.some.inj hread⟩
  recipientKemPublicKey := ⟨_, sampleSuite_keyPair⟩
  senderProfileId := List.length_replicate
  recipientProfileId := List.length_replicate
  senderDeviceId := List.length_replicate
  kemMessage := List.length_replicate
  nonce := List.length_replicate
  attachmentId := List.length_replicate
  attachmentNonce := List.length_replicate
  reclaimGroupId := List.length_replicate
  messageId := List.length_replicate
  messageNonce := List.length_replicate
  padding := by decide
  nowMs := ⟨by decide, by decide⟩
  completes _ := ⟨_, rfl⟩

end cemp.images.footprint
