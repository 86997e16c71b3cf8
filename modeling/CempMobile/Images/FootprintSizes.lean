import CempMobile.Images.Footprint
import CempMobile.Images.Receive

open Except Molecule mol cemp.core.codec cemp.crypto
open cemp.ckb.cighash cemp.ckb.signing

namespace cemp.images.footprint

variable {reader : Reader} (hreads : reader.Reads)

/-! ### The message -/

/-- An integer that so many bytes hold. -/
def Holds (width : Nat) (value : Int) : Prop := 0 ≤ value ∧ value < 256 ^ width

structure OutPointSized (outPoint : OutPointV1) : Prop where
  tx_hash : outPoint.tx_hash.length = 32
  index : Holds 4 outPoint.index

/-- The parts of a manifest whose lengths the schema fixes have them. -/
structure ManifestSized (manifest : AttachmentManifestV1) : Prop where
  attachment_id : manifest.attachment_id.length = 16
  ckbfs_root : OutPointSized manifest.ckbfs_root
  chunk_outpoints : ∀ outPoint ∈ manifest.chunk_outpoints, OutPointSized outPoint
  encrypted_size : Holds 8 manifest.encrypted_size
  plaintext_size : Holds 8 manifest.plaintext_size
  width : Holds 4 manifest.width
  height : Holds 4 manifest.height
  content_hash : manifest.content_hash.length = 32
  cipher_hash : manifest.cipher_hash.length = 32
  encryption_nonce : manifest.encryption_nonce.length = 12
  family : Holds 1 manifest.encryption_algorithm.family
  parameter : Holds 1 manifest.encryption_algorithm.parameter
  reclaim_group_id : manifest.reclaim_group_id.length = 16

structure PayloadSized (payload : CempPayloadV1) : Prop where
  message_id : payload.message_id.length = 16
  body_type : Holds 1 payload.body_type
  recipient_profile_id : payload.recipient_profile_id.length = 32
  attachment_manifests : ∀ manifest ∈ payload.attachment_manifests, ManifestSized manifest
  receipt_request : Holds 1 payload.receipt_request
  client_timestamp : Holds 8 payload.client_timestamp
  sender_device_id : payload.sender_device_id.length = 16

structure HeaderSized (header : CempEnvelopeHeaderV1) : Prop where
  protocol_version : Holds 1 header.protocol_version
  network : Holds 1 header.network
  content_type : Holds 1 header.content_type
  message_id : header.message_id.length = 16
  conversation_id : header.conversation_id.length = 32
  sender_profile_id : header.sender_profile_id.length = 32
  created_at_client : Holds 8 header.created_at_client
  expiry_hint : Holds 8 header.expiry_hint

/-- What an optional string of bytes takes. -/
def optionBytes : Option Buffer → Nat
  | none => 0
  | some bytes => 4 + bytes.length

theorem bytesOpt_takes (v : Option Buffer) : (BytesOptMol reader).Takes v (optionBytes v) True := by
  cases v with
  | none => exact option_none_takes
  | some bytes => exact (byteVec_takes bytes).some

/-- A guard on the reading side changes nothing on this one. -/
theorem guarded_takes {α : Type} {codec : Codec α} {items : List α} {size : Nat} {parts : Prop}
    (structureName : String) (h : (dynItemVec reader codec).Takes items size parts) :
    (guardedDynItemVec reader structureName codec).Takes items size parts :=
  ⟨h.length, h.inRange⟩

include hreads

theorem outPoint_takes (outPoint : OutPointV1) :
    (OutPointV1Codec reader).Takes outPoint 48 (OutPointSized outPoint) :=
  (Codec.Takes.as <| Fields.Takes.table reader <| .cons ((fixedBytes_lawful 32).takes rfl _) <|
    .cons ((Uint32Mol_lawful hreads).takes rfl _) Fields.nil_takes :
      (OutPointV1Codec reader).Takes outPoint _ _).of rfl fun h => ⟨h.tx_hash, h.index, trivial⟩

/-- The fields of a manifest, whose sizes are fixed but for the chunks, the type and the
    thumbnail. -/
theorem manifest_takes (manifest : AttachmentManifestV1) :
    (AttachmentManifestV1Codec reader).Takes manifest
      (250 + 52 * manifest.chunk_outpoints.length + manifest.mime_type.length +
        optionBytes manifest.thumbnail) (ManifestSized manifest) := by
  have hid := (fixedBytes_lawful 16).takes rfl
  have hhash := (fixedBytes_lawful 32).takes rfl
  have hword := (Uint64Mol_lawful hreads).takes rfl
  have hindex := (Uint32Mol_lawful hreads).takes rfl
  have halgorithm : (AlgorithmIdV1Codec reader).Takes manifest.encryption_algorithm 2 _ :=
    (AlgorithmIdV1Codec_lawful hreads).takes rfl _
  have houtpoints : (OutPointVecMol reader).Takes manifest.chunk_outpoints _ _ :=
    guarded_takes _ <| Codec.Takes.dynItemVec reader fun outPoint _ => outPoint_takes hreads outPoint
  have htable : (AttachmentManifestV1Codec reader).Takes manifest _ _ :=
    Codec.Takes.as <| Fields.Takes.table reader <| .cons (hid _) <|
    .cons (outPoint_takes hreads _) <|
    .cons houtpoints <|
    .cons (hword _) <|
    .cons (hword _) <|
    .cons (byteVec_takes _) <|
    .cons (hindex _) <|
    .cons (hindex _) <|
    .cons (bytesOpt_takes _) <|
    .cons (hhash _) <|
    .cons (hhash _) <|
    .cons ((fixedBytes_lawful 12).takes rfl _) <|
    .cons halgorithm <|
    .cons (hid _) Fields.nil_takes
  refine htable.of ?_ fun h => ⟨h.attachment_id, h.ckbfs_root, h.chunk_outpoints, h.encrypted_size,
    h.plaintext_size, trivial, h.width, h.height, trivial, h.content_hash, h.cipher_hash,
    h.encryption_nonce, ⟨h.family, h.parameter, trivial⟩, h.reclaim_group_id, trivial⟩
  simp only [headerSize]
  omega

/-- The payload of a message with one manifest, and without a reply or receipts. -/
theorem payload_takes {payload : CempPayloadV1} {manifest : AttachmentManifestV1}
    (hmanifests : payload.attachment_manifests = [manifest])
    (hmessage : payload.reply_to_message_id = none) (houtpoint : payload.reply_to_outpoint = none)
    (hreceipts : payload.receipts = []) :
    (CempPayloadV1Codec reader).Takes payload
      (392 + 52 * manifest.chunk_outpoints.length + manifest.mime_type.length +
        optionBytes manifest.thumbnail + optionBytes payload.text + payload.padding.length)
      (PayloadSized payload) := by
  have hid := (fixedBytes_lawful 16).takes rfl
  have hbyte := (byteMol_lawful hreads).takes rfl
  have hmanifest : (AttachmentManifestVecMol reader).Takes [manifest] _ _ :=
    guarded_takes _ <| Codec.Takes.dynItemVec reader fun m hm => by
      rw [List.mem_singleton.1 hm]
      exact manifest_takes hreads manifest
  have hnone : (ReceiptVecMol reader).Takes [] 4 _ :=
    guarded_takes _ <|
      @Codec.Takes.dynItemVec _ reader _ [] 0 (fun _ => True) fun receipt h => by cases h
  rw [← hmanifests] at hmanifest
  rw [← hreceipts] at hnone
  have hnoMessage : (Byte16OptMol reader).Takes payload.reply_to_message_id 0 True := by
    rw [hmessage]
    exact option_none_takes
  have hnoOutpoint : (OutPointOptMol reader).Takes payload.reply_to_outpoint 0 True := by
    rw [houtpoint]
    exact option_none_takes
  have htable : (CempPayloadV1Codec reader).Takes payload _ _ :=
    Codec.Takes.as <| Fields.Takes.table reader <| .cons (hid _) <|
    .cons (hbyte _) <|
    .cons ((fixedBytes_lawful 32).takes rfl _) <|
    .cons (bytesOpt_takes _) <|
    .cons hmanifest <|
    .cons hnoMessage <|
    .cons hnoOutpoint <|
    .cons hnone <|
    .cons (hbyte _) <|
    .cons ((Uint64Mol_lawful hreads).takes rfl _) <|
    .cons (hid _) <|
    .cons (byteVec_takes _) Fields.nil_takes
  refine htable.of ?_ fun h => ⟨h.message_id, h.body_type, h.recipient_profile_id, trivial,
    h.attachment_manifests, trivial, trivial, fun _ _ => trivial, h.receipt_request,
    h.client_timestamp, h.sender_device_id, trivial, trivial⟩
  rw [hmanifests]
  simp only [headerSize, List.length_singleton]
  omega

/-- The header of a message that is no reply. -/
theorem header_takes {header : CempEnvelopeHeaderV1} (hreply : header.reply_to_message_id = none) :
    (CempEnvelopeHeaderV1Codec reader).Takes header 139 (HeaderSized header) := by
  have hbyte := (byteMol_lawful hreads).takes rfl
  have hhash := (fixedBytes_lawful 32).takes rfl
  have hword := (Uint64Mol_lawful hreads).takes rfl
  have hnoMessage : (Byte16OptMol reader).Takes header.reply_to_message_id 0 True := by
    rw [hreply]
    exact option_none_takes
  have htable : (CempEnvelopeHeaderV1Codec reader).Takes header _ _ :=
    Codec.Takes.as <| Fields.Takes.table reader <| .cons (hbyte _) <| .cons (hbyte _) <|
    .cons (hbyte _) <| .cons ((fixedBytes_lawful 16).takes rfl _) <| .cons (hhash _) <|
    .cons (hhash _) <| .cons (hword _) <| .cons hnoMessage <| .cons (hword _) Fields.nil_takes
  exact htable.of rfl fun h => ⟨h.protocol_version, h.network, h.content_type, h.message_id,
    h.conversation_id, h.sender_profile_id, h.created_at_client, trivial, h.expiry_hint, trivial⟩

theorem envelope_length {envelope : CempEnvelopeV1}
    (hreply : envelope.header.reply_to_message_id = none) {bytes : Buffer}
    (hencode : (CempEnvelopeV1Codec reader).encode envelope = .ok bytes) :
    bytes.length = 1263 + envelope.encrypted_payload.length := by
  have htable : (CempEnvelopeV1Codec reader).Takes envelope _ _ :=
    Codec.Takes.as <| Fields.Takes.table reader <| .cons (header_takes hreads hreply) <|
    .cons ((fixedBytes_lawful 1088).takes rfl _) <|
    .cons ((fixedBytes_lawful 12).takes rfl _) <|
    .cons (byteVec_takes _) Fields.nil_takes
  rw [htable.length hencode]
  simp only [headerSize]
  omega

omit hreads

theorem lift_eq_ok_iff {ε α : Type} {wrap : ε → SendError} {result : Except ε α} {value : α} :
    lift wrap result = .ok value ↔ result = .ok value := by
  cases result <;> simp [lift]

theorem manifestOutpoints_length {chunkOutpoints : List ChunkOutpoint}
    {outpoints : List OutPointV1} (h : manifestOutpoints chunkOutpoints = .ok outpoints) :
    outpoints.length = chunkOutpoints.length := by
  induction chunkOutpoints generalizing outpoints with
  | nil =>
    obtain rfl := ok.inj h
    rfl
  | cons outpoint rest ih =>
    obtain ⟨tx_hash, -, h1⟩ := bind_eq_ok_iff.1 h
    obtain ⟨tail, htail, h2⟩ := bind_eq_ok_iff.1 h1
    obtain rfl := ok.inj h2
    rw [List.length_cons, List.length_cons, ih htail]

/-- The manifest lists every chunk. -/
theorem buildManifest_eq_ok {chunks : PreparedChunks} {chunksTxHash : String}
    {reclaimGroupId : Buffer} {manifest : AttachmentManifestV1}
    (h : buildManifestForCommittedChunks chunks chunksTxHash reclaimGroupId = .ok manifest) :
    manifest.chunk_outpoints.length = chunks.chunks.length ∧
      manifest.mime_type = Utf8.encode chunks.prepared.mimeType.toList ∧
      manifest.thumbnail = some chunks.prepared.thumbnail := by
  unfold buildManifestForCommittedChunks buildAttachmentManifest at h
  split at h
  · cases h
  · cases h
  · next root rest houtpoints =>
    have hlength := manifestOutpoints_length houtpoints
    rw [List.length_map, List.length_range] at hlength
    obtain rfl := ok.inj h
    exact ⟨hlength, rfl, rfl⟩

/-- What a caption takes in a payload: an empty one is left out. -/
def captionBytes (caption : String) : Nat :=
  if caption = "" then 0 else 4 + (Utf8.encode caption.toList).length

theorem optionBytes_payloadText (parties : Parties) (drawn : Drawn) (caption : String)
    (manifest : AttachmentManifestV1) :
    optionBytes (ckb.wire.payloadText (imageParams parties drawn caption manifest)) =
      captionBytes caption := by
  unfold ckb.wire.payloadText captionBytes
  by_cases hempty : caption = ""
  · rw [if_pos ⟨rfl, hempty⟩, if_pos hempty]
    rfl
  · rw [if_neg fun h => hempty h.2, if_neg hempty]
    rfl

/-- The envelope of an image message, by the sizes of its parts. -/
theorem envelopeBytes_length (hreads : reader.Reads) {suite : Suite} (hsuite : suite.Correct)
    {ckbHash : Buffer → Buffer} {libraryText : String} {parties : Parties} {drawn : Drawn}
    {caption : String} {manifest : AttachmentManifestV1} {assembled : ckb.wire.AssembledMessage}
    (h : ckb.wire.assembleTextMessage ckbHash suite reader libraryText drawn.ambient
      (imageParams parties drawn caption manifest) = .ok assembled) :
    assembled.envelopeBytes.length = 1671 + 52 * manifest.chunk_outpoints.length +
      manifest.mime_type.length + optionBytes manifest.thumbnail + captionBytes caption +
      drawn.ambient.padding.length := by
  obtain ⟨outpoint, payload, sealed, houtpoint, hpayload, -, hsealed, hbytes, -⟩ :=
    ckb.wire.assembleTextMessage_ok h
  obtain rfl := ok.inj houtpoint
  obtain ⟨decoded, sharedSecret, aad, hsealing⟩ := encryptEnvelope_eq_ok_iff.1 hsealed
  have hpayloadLength := (@payload_takes reader hreads (ckb.wire.textPayload
    (imageParams parties drawn caption manifest) drawn.ambient none) manifest rfl rfl rfl rfl).length
    (strictEncode_eq_ok_iff.1 hpayload)
  have henvelope := @envelope_length reader hreads ⟨_, _, _, _⟩ rfl _
    (strictEncode_eq_ok_iff.1 hsealing.envelope)
  have htext : optionBytes (ckb.wire.textPayload (imageParams parties drawn caption manifest)
      drawn.ambient none).text = captionBytes caption := optionBytes_payloadText ..
  rw [htext] at hpayloadLength
  rw [hbytes, henvelope, hsuite.gcm_length]
  change 1263 + (payload.length + 16) = _
  rw [hpayloadLength]
  change 1263 + (_ + drawn.ambient.padding.length + 16) = _
  omega

/-- The chunks of an image are slices of a ciphertext that is 16 bytes longer. -/
theorem encryptPreparedChunks_eq_ok {suite : Suite} (hsuite : suite.Correct)
    {ckbHash : Buffer → Buffer} {prepared : PreparedImage}
    {attachmentKey attachmentId nonce : Buffer} {chunks : PreparedChunks}
    (h : encryptPreparedChunks suite ckbHash prepared attachmentKey attachmentId nonce = .ok chunks) :
    chunks.prepared = prepared ∧ chunks.chunks.flatten.length = prepared.bytes.length + 16 ∧
      chunks.chunks.length =
        (prepared.bytes.length + 16 + (ATTACHMENT_CHUNK_BYTES - 1)) / ATTACHMENT_CHUNK_BYTES := by
  obtain ⟨encrypted, hencrypted, h1⟩ := bind_eq_ok_iff.1 h
  obtain ⟨pieces, hpieces, h2⟩ := bind_eq_ok_iff.1 h1
  obtain rfl := ok.inj h2
  unfold encryptAttachment at hencrypted
  obtain ⟨-, h3⟩ := guard_eq_ok_iff.1 hencrypted
  obtain ⟨-, h4⟩ := guard_eq_ok_iff.1 h3
  obtain ⟨ciphertext, hciphertext, h5⟩ := bind_eq_ok_iff.1 h4
  obtain rfl := ok.inj h5
  obtain ⟨-, rfl⟩ := aes256GcmEncrypt_eq_ok_iff.1 (lift_eq_ok_iff.1 hciphertext)
  obtain rfl := splitIntoChunks_ok (lift_eq_ok_iff.1 hpieces)
  have hlength := hsuite.gcm_length attachmentKey nonce (aadFor attachmentId) prepared.bytes
  refine ⟨rfl, ?_, ?_⟩
  · rw [List.flatten_toChunks]
    exact hlength
  · rw [List.length_toChunks (by decide), hlength]
    rfl

/-! ### The transactions -/

/-- The placeholder witness of an input. -/
theorem placeholder_takes : (WitnessArgsCodec reader).Takes (withPlaceholder none) 5282 True := by
  have hlock := (@bytesOpt_takes reader (some placeholderLock)).of
    (congrArg (4 + ·) List.length_replicate) id
  have htable : (WitnessArgsCodec reader).Takes (withPlaceholder none) _ _ :=
    Codec.Takes.as <| Fields.Takes.table reader <| .cons hlock <|
    .cons option_none_takes <| .cons option_none_takes Fields.nil_takes
  exact htable.of rfl fun _ => ⟨trivial, trivial, trivial, trivial⟩

theorem ensureWitnesses_empty {i count : Nat} {witnesses : List Buffer}
    (h : ensureWitnesses reader i count (List.replicate count []) = (none, witnesses)) :
    (witnesses.map fun witness => 4 + witness.length) = List.replicate count 5286 := by
  induction count generalizing i witnesses with
  | zero =>
    cases h
    rfl
  | succ count ih =>
    rw [List.replicate_succ, ensureWitnesses] at h
    cases hfirst : ensureWitness reader i [] with
    | error failure =>
      rw [hfirst] at h
      cases h
    | ok witness =>
      rw [hfirst] at h
      obtain ⟨existing, hexisting, hencode⟩ := ensureWitness_eq_ok.1 hfirst
      cases hexisting
      rw [if_neg (by simp [hasRealLock])] at hencode
      cases hrest : ensureWitnesses reader (i + 1) count (List.replicate count []) with
      | mk failure rest =>
        rw [hrest] at h
        cases h
        rw [List.map_cons, placeholder_takes.length hencode, ih hrest, List.replicate_succ]

/-- A prepared transaction has a placeholder witness for every input. -/
theorem serializedBytes_prepared {raw : RawTransaction} {prepared : ckb.signing.Transaction}
    (h : ensurePlaceholderWitnesses reader ⟨raw, []⟩ = (none, prepared)) :
    serializedBytes prepared = 16 + rawBytes raw + 5290 * raw.inputs.length := by
  unfold ensurePlaceholderWitnesses at h
  cases hwitnesses : ensureWitnesses reader 0 raw.inputs.length
      (padWitnesses raw.inputs.length []) with
  | mk failure witnesses =>
    simp only [hwitnesses, Prod.mk.injEq] at h
    obtain ⟨rfl, rfl⟩ := h
    have hsizes := ensureWitnesses_empty hwitnesses
    simp only [serializedBytes, hsizes, vectorBytes, headerSize, List.length_replicate,
      List.sum_replicate_nat]
    omega

theorem vectorBytes_data (data : List Buffer) :
    vectorBytes (data.map fun item => 4 + item.length) =
      4 + 8 * data.length + data.flatten.length := by
  have hsum : (data.map fun item => 4 + item.length).sum = 4 * data.length + data.flatten.length := by
    induction data with
    | nil => rfl
    | cons item rest ih =>
      rw [List.map_cons, List.sum_cons, ih, List.flatten_cons, List.length_append, List.length_cons]
      ring
  rw [vectorBytes, headerSize, hsum, List.length_map]
  ring

variable {ccc : Ccc} {wallet : Wallet} {tx : RawTransaction} {built : BuiltTransaction}

theorem completeAndFinalize_eq_ok (h : completeAndFinalize ccc wallet tx = .ok built) :
    ∃ completion, ccc.complete wallet tx DEFAULT_FEE_RATE = .ok completion ∧
      built = ⟨completed wallet tx completion, completion.fee⟩ := by
  obtain ⟨completion, hcompletion, h1⟩ := bind_eq_ok_iff.1 h
  obtain ⟨-, h2⟩ := guard_eq_ok_iff.1 h1
  exact ⟨completion, hcompletion, (ok.inj h2).symm⟩

/-- The fee of a completed transaction. -/
theorem estimatedFee_of_ok (hccc : ccc.Documented reader)
    (h : completeAndFinalize ccc wallet tx = .ok built) :
    built.estimatedFee =
      estimateFee (16 + rawBytes built.tx + 5290 * built.tx.inputs.length) DEFAULT_FEE_RATE := by
  obtain ⟨completion, hcompletion, rfl⟩ := completeAndFinalize_eq_ok h
  obtain ⟨prepared, hprepared, hfee⟩ := hccc.fee hcompletion
  rw [hfee, serializedBytes_prepared hprepared]

/-- An output with the signer's lock and no type script. -/
theorem outputBytes_plain (wallet : Wallet) (capacity : Nat) :
    outputBytes ⟨capacity, wallet.lock, none⟩ = 114 := by
  simp only [outputBytes, scriptBytes, headerSize, wallet.lock_args]
  rfl

/-- What completion adds to the outputs has no type script, and carries nothing. -/
theorem completed_change (wallet : Wallet) (tx : RawTransaction) (completion : Completion) :
    ∃ change : List Nat, (completed wallet tx completion).outputs =
        tx.outputs ++ change.map (fun capacity => ⟨capacity, wallet.lock, none⟩) ∧
      (completed wallet tx completion).outputsData =
        tx.outputsData ++ List.replicate change.length [] := by
  cases hchange : completion.change with
  | none => exact ⟨[], by simp [completed, hchange], by simp [completed, hchange]⟩
  | some capacity => exact ⟨[capacity], by simp [completed, hchange], by simp [completed, hchange]⟩

theorem completed_cellDeps (h : wallet.lockCellDep ∉ tx.cellDeps) (completion : Completion) :
    (completed wallet tx completion).cellDeps = tx.cellDeps ++ [wallet.lockCellDep] := by
  unfold completed Transaction.addCellDeps
  rw [if_neg h]

theorem completed_headerDeps (wallet : Wallet) (tx : RawTransaction) (completion : Completion) :
    (completed wallet tx completion).headerDeps = tx.headerDeps := by
  unfold completed Transaction.addCellDeps
  split <;> rfl

/-- The serialization of a completed transaction, by the outputs it was built with: every input
    takes 5334 bytes with its witness, and every further output 126. -/
theorem rawBytes_completed (hdep : wallet.lockCellDep ∉ tx.cellDeps) (hheaders : tx.headerDeps = [])
    (hdata : tx.outputsData.length = tx.outputs.length) (completion : Completion) :
    16 + rawBytes (completed wallet tx completion) +
          5290 * (completed wallet tx completion).inputs.length + 114 * tx.outputs.length =
      105 + 37 * tx.cellDeps.length + 5334 * (completed wallet tx completion).inputs.length +
        126 * (completed wallet tx completion).outputs.length + tx.outputsData.flatten.length +
        (tx.outputs.map outputBytes).sum := by
  obtain ⟨change, houtputs, houtputsData⟩ := completed_change wallet tx completion
  have hchange : ((change.map fun capacity => (⟨capacity, wallet.lock, none⟩ : CellOutput)).map
      outputBytes).sum = 114 * change.length := by
    rw [List.map_map]
    clear houtputs houtputsData
    induction change with
    | nil => rfl
    | cons capacity rest ih =>
      rw [List.map_cons, List.sum_cons, ih, Function.comp_apply, outputBytes_plain,
        List.length_cons]
      ring
  simp only [rawBytes, vectorBytes_data]
  rw [completed_cellDeps hdep, completed_headerDeps, houtputs, houtputsData]
  simp only [vectorBytes, headerSize, hheaders, hdata, hchange, List.map_append, List.sum_append,
    List.length_append, List.length_map, List.length_replicate, List.flatten_append,
    List.flatten_replicate_nil, List.append_nil, List.length_singleton, List.length_nil]
  ring

/-- What a chunk transaction comes to. -/
def chunksTxBytes (inputs outputs ciphertext : Nat) : Nat :=
  105 + 5334 * inputs + 126 * outputs + ciphertext

/-- What a message transaction comes to. -/
def messageTxBytes (inputs outputs envelope : Nat) : Nat :=
  276 + 5334 * inputs + 126 * outputs + envelope

/-- The chunk cells lock their bytes and their margins. -/
theorem sum_sized (hccc : ccc.Documented reader) (datasets : List Buffer) :
    ((datasets.map (sized ccc wallet.lock none)).map CellOutput.capacity).sum =
      (79 * datasets.length + datasets.flatten.length) * SHANNON_PER_CKB := by
  have hcapacity : ∀ data, (sized ccc wallet.lock none data).capacity =
      (79 + data.length) * SHANNON_PER_CKB := by
    intro data
    simp only [sized, hccc.occupied, occupiedSize, scriptOccupied, wallet.lock_args,
      CAPACITY_MARGIN, SHANNON_PER_CKB, Option.map_none, Option.getD_none]
    omega
  rw [List.map_map]
  induction datasets with
  | nil => simp
  | cons data rest ih =>
    rw [List.map_cons, List.sum_cons, ih, Function.comp_apply, hcapacity, List.flatten_cons,
      List.length_append, List.length_cons]
    ring

theorem buildDataCellsTx_eq_ok (hccc : ccc.Documented reader) {datasets : List Buffer}
    (h : buildDataCellsTx ccc wallet datasets = .ok built) :
    built.locked datasets.length =
        (79 * datasets.length + datasets.flatten.length) * SHANNON_PER_CKB ∧
      built.estimatedFee = estimateFee (chunksTxBytes built.tx.inputs.length
        built.tx.outputs.length datasets.flatten.length) DEFAULT_FEE_RATE := by
  unfold buildDataCellsTx at h
  obtain ⟨-, h1⟩ := guard_eq_ok_iff.1 h
  obtain ⟨-, h2⟩ := guard_eq_ok_iff.1 h1
  rw [estimatedFee_of_ok hccc h2]
  obtain ⟨completion, -, rfl⟩ := completeAndFinalize_eq_ok h2
  set tx : RawTransaction := ⟨0, [], [], [], datasets.map (sized ccc wallet.lock none), datasets⟩
  constructor
  · obtain ⟨change, houtputs, -⟩ := completed_change wallet tx completion
    have hlength : tx.outputs.length = datasets.length := List.length_map _
    unfold BuiltTransaction.locked
    rw [houtputs, ← hlength, List.take_left, hlength]
    exact sum_sized hccc datasets
  · have hplain : (tx.outputs.map outputBytes).sum = 114 * tx.outputs.length := by
      have hsizes : tx.outputs.map outputBytes = List.replicate tx.outputs.length 114 := by
        refine List.map_eq_replicate_iff.2 fun output hmem => ?_
        obtain ⟨data, -, rfl⟩ := List.mem_map.1 hmem
        exact outputBytes_plain wallet _
      rw [hsizes, List.sum_replicate_nat, Nat.mul_comm]
    have hlengths : tx.outputsData.length = tx.outputs.length := (List.length_map _).symm
    have hbytes := @rawBytes_completed wallet tx List.not_mem_nil rfl hlengths completion
    congr 1
    simp only [chunksTxBytes]
    have hdeps : tx.cellDeps.length = 0 := rfl
    have hdata : tx.outputsData = datasets := rfl
    rw [hplain, hdeps, hdata] at hbytes
    omega

/-- The message cell locks its bytes and its margin. -/
theorem buildSendMessageTx_eq_ok (hccc : ccc.Documented reader) {libraryText : String}
    {assembled : ckb.wire.AssembledMessage}
    (h : buildSendMessageTx ccc wallet reader libraryText assembled = .ok built) :
    built.locked 1 = (193 + assembled.envelopeBytes.length) * SHANNON_PER_CKB ∧
      built.estimatedFee = estimateFee (messageTxBytes built.tx.inputs.length
        built.tx.outputs.length assembled.envelopeBytes.length) DEFAULT_FEE_RATE := by
  unfold buildSendMessageTx at h
  obtain ⟨-, h1⟩ := guard_eq_ok_iff.1 h
  obtain ⟨-, h2⟩ := guard_eq_ok_iff.1 h1
  split at h2
  · cases h2
  obtain ⟨typeArgs, htypeArgs, h3⟩ := bind_eq_ok_iff.1 h2
  have hargs : typeArgs.length = 81 := by
    obtain ⟨hsized, rfl⟩ := (@ckb.buildMessageTypeArgs_eq_ok_iff ⟨_, _, _⟩ _).1 htypeArgs
    exact hsized.length_layout
  rw [estimatedFee_of_ok hccc h3]
  obtain ⟨completion, -, rfl⟩ := completeAndFinalize_eq_ok h3
  set type : Script := ⟨wallet.messageType.codeHash, wallet.messageType.hashType, typeArgs⟩
  set tx : RawTransaction := ⟨0, [wallet.messageType.cellDep], [], [],
    [sized ccc wallet.lock (some type) assembled.envelopeBytes], [assembled.envelopeBytes]⟩
  constructor
  · obtain ⟨change, houtputs, -⟩ := completed_change wallet tx completion
    unfold BuiltTransaction.locked
    rw [houtputs]
    simp only [tx, type, sized, hccc.occupied, occupiedSize, scriptOccupied, wallet.lock_args,
      hargs, CAPACITY_MARGIN, SHANNON_PER_CKB, Option.map_some, Option.getD_some,
      List.singleton_append, List.take_succ_cons, List.take_zero, List.map_cons, List.map_nil,
      List.sum_singleton]
    omega
  · have hdep : wallet.lockCellDep ∉ tx.cellDeps := by
      intro hmem
      exact wallet.deployments (List.mem_singleton.1 hmem).symm
    have hbytes := @rawBytes_completed wallet tx hdep rfl rfl completion
    have hsum : (tx.outputs.map outputBytes).sum = 248 := by
      simp only [tx, type, sized, outputBytes, scriptBytes, headerSize, wallet.lock_args, hargs,
        Option.map_some, Option.getD_some, List.map_cons, List.map_nil, List.sum_singleton]
    have hdata : tx.outputsData.flatten = assembled.envelopeBytes := List.append_nil _
    have hdeps : tx.cellDeps.length = 1 := rfl
    have hone : tx.outputs.length = 1 := rfl
    rw [hsum, hdata, hdeps, hone] at hbytes
    congr 1
    simp only [messageTxBytes]
    omega

end cemp.images.footprint
