import CempMobile.Lib.MolCodec

open Molecule mol

namespace cemp.core.codec

/-! The CEMP v1 structures as the wire carries them: hashes, texts and ids are bytes, and integers
    are what a caller may pass, in range or not. -/

/-- A codec failure: the structure, the step that failed, and what it failed with. -/
structure CempCodecError where
  structureName : String
  step : String
  cause : Option Fault
  deriving DecidableEq, Repr

/-- A byte array of a fixed length, which the library checks on both sides. -/
def fixedBytes (byteLength : Nat) : Codec Buffer where
  encode value := if value.length = byteLength then .ok value else .error .library
  decode buffer := if buffer.length = byteLength then .ok buffer else .error .library
  byteLength := some byteLength
  inRange value := value.length = byteLength
  ordered _ := True

/-- Refuses an integer out of range before it is encoded. -/
def guardUintRange (label : String) (max : Int) (value : Int) : Except Fault Int :=
  if value < 0 ∨ max < value then
    .error (.message (label ++ ": integer out of range: " ++ toString value))
  else .ok value

section Codecs

variable (reader : Reader)

/-- The header checks of a vector of tables, before the library sees it. -/
def guardHeader (structureName : String) (value : Buffer) : Except Fault Unit := do
  if value.length < 4 then
    throw (.message (structureName ++ ": too short buffer, expected at least 4 bytes, but got " ++
      toString value.length))
  else
    let declaredTotal ← reader.uint 4 (value.take 4)
    if declaredTotal ≠ value.length then
      throw (.message (structureName ++ ": invalid buffer size, expected " ++
        toString declaredTotal ++ ", but got " ++ toString value.length))
    else if 4 < declaredTotal then
      let firstOffset ← reader.uint 4 ((value.drop 4).take 4)
      if firstOffset < 8 ∨ declaredTotal < firstOffset ∨ (firstOffset - 4) % 4 ≠ 0 then
        throw (.message (structureName ++ ": invalid first offset " ++ toString firstOffset ++
          " for total size " ++ toString declaredTotal))
      else
        let itemCount := (firstOffset - 4) / 4
        if declaredTotal < 4 + itemCount * 4 then
          throw (.message (structureName ++ ": declared " ++ toString itemCount ++
            " items overflow total size " ++ toString declaredTotal))
        else return ()
    else return ()

/-- The buffers that the item decoders of a guarded vector are given. -/
def itemBuffers (structureName : String) (value : Buffer) : Except Fault (List Buffer) := do
  guardHeader reader structureName value
  reader.dynItemVec value

/-- A vector of tables whose header is checked first. -/
def guardedDynItemVec {α : Type} (structureName : String) (itemCodec : Codec α) :
    Codec (List α) :=
  { dynItemVec reader itemCodec with
    decode := fun value => do
      guardHeader reader structureName value
      (dynItemVec reader itemCodec).decode value }

/-! ### Primitives -/

def Uint32Mol : Codec Int := (uint reader 4).mapIn (guardUintRange "Uint32" 0xffffffff)

def Uint64Mol : Codec Int := (uint reader 8).mapIn (guardUintRange "Uint64" 0xffffffffffffffff)

def byteMol : Codec Int := (uint reader 1).mapIn (guardUintRange "byte" 0xff)

def BytesMol : Codec Buffer := byteVec reader

def BytesOptMol : Codec (Option Buffer) := option reader (BytesMol reader)

def Byte12Mol : Codec Buffer := fixedBytes 12

def Byte16Mol : Codec Buffer := fixedBytes 16

def Byte32Mol : Codec Buffer := fixedBytes 32

def Byte16OptMol : Codec (Option Buffer) := option reader Byte16Mol

def Byte32OptMol : Codec (Option Buffer) := option reader Byte32Mol

/-! ### Algorithm identifiers -/

structure AlgorithmIdV1 where
  family : Int
  parameter : Int
  deriving DecidableEq, Repr

def AlgorithmIdV1Codec : Codec AlgorithmIdV1 :=
  (struct reader <| .cons (byteMol reader) <| .cons (byteMol reader) .nil).as
    (fun v => (v.family, v.parameter, ()))
    fun (family, parameter, _) => ⟨family, parameter⟩

/-! ### Profile -/

def MlDsa65PublicKeyMol : Codec Buffer := fixedBytes 1952

def MlKem768PublicKeyMol : Codec Buffer := fixedBytes 1184

def ProtocolVersionsMol : Codec (List Int) := fixedItemVec reader (byteMol reader)

structure CempProfileV1 where
  protocol_version : Int
  sig_algorithm : AlgorithmIdV1
  kem_algorithm : AlgorithmIdV1
  ml_dsa_public_key : Buffer
  ml_kem_public_key : Buffer
  lock_script_hash : Buffer
  supported_protocol_versions : List Int
  supported_attachments : Int
  handle : Option Buffer
  icon_hash : Option Buffer
  key_created_at : Int
  rotation_sequence : Int
  previous_profile_id : Option Buffer
  revoked : Int
  deriving DecidableEq, Repr

def CempProfileV1Codec : Codec CempProfileV1 :=
  (table reader <|
    .cons (byteMol reader) <|
    .cons (AlgorithmIdV1Codec reader) <|
    .cons (AlgorithmIdV1Codec reader) <|
    .cons MlDsa65PublicKeyMol <|
    .cons MlKem768PublicKeyMol <|
    .cons Byte32Mol <|
    .cons (ProtocolVersionsMol reader) <|
    .cons (byteMol reader) <|
    .cons (BytesOptMol reader) <|
    .cons (Byte32OptMol reader) <|
    .cons (Uint64Mol reader) <|
    .cons (Uint32Mol reader) <|
    .cons (Byte32OptMol reader) <|
    .cons (byteMol reader) .nil).as
    (fun v => (v.protocol_version, v.sig_algorithm, v.kem_algorithm, v.ml_dsa_public_key,
      v.ml_kem_public_key, v.lock_script_hash, v.supported_protocol_versions,
      v.supported_attachments, v.handle, v.icon_hash, v.key_created_at, v.rotation_sequence,
      v.previous_profile_id, v.revoked, ()))
    fun (protocol_version, sig_algorithm, kem_algorithm, ml_dsa_public_key, ml_kem_public_key,
      lock_script_hash, supported_protocol_versions, supported_attachments, handle, icon_hash,
      key_created_at, rotation_sequence, previous_profile_id, revoked, _) =>
      ⟨protocol_version, sig_algorithm, kem_algorithm, ml_dsa_public_key, ml_kem_public_key,
        lock_script_hash, supported_protocol_versions, supported_attachments, handle, icon_hash,
        key_created_at, rotation_sequence, previous_profile_id, revoked⟩

/-! ### Envelope -/

def MlKem768CiphertextMol : Codec Buffer := fixedBytes 1088

def AesGcmNonceMol : Codec Buffer := fixedBytes 12

structure CempEnvelopeHeaderV1 where
  protocol_version : Int
  network : Int
  content_type : Int
  message_id : Buffer
  conversation_id : Buffer
  sender_profile_id : Buffer
  created_at_client : Int
  reply_to_message_id : Option Buffer
  expiry_hint : Int
  deriving DecidableEq, Repr

def CempEnvelopeHeaderV1Codec : Codec CempEnvelopeHeaderV1 :=
  (table reader <|
    .cons (byteMol reader) <|
    .cons (byteMol reader) <|
    .cons (byteMol reader) <|
    .cons Byte16Mol <|
    .cons Byte32Mol <|
    .cons Byte32Mol <|
    .cons (Uint64Mol reader) <|
    .cons (Byte16OptMol reader) <|
    .cons (Uint64Mol reader) .nil).as
    (fun v => (v.protocol_version, v.network, v.content_type, v.message_id, v.conversation_id,
      v.sender_profile_id, v.created_at_client, v.reply_to_message_id, v.expiry_hint, ()))
    fun (protocol_version, network, content_type, message_id, conversation_id, sender_profile_id,
      created_at_client, reply_to_message_id, expiry_hint, _) =>
      ⟨protocol_version, network, content_type, message_id, conversation_id, sender_profile_id,
        created_at_client, reply_to_message_id, expiry_hint⟩

structure CempEnvelopeV1 where
  header : CempEnvelopeHeaderV1
  kem_ciphertext : Buffer
  nonce : Buffer
  encrypted_payload : Buffer
  deriving DecidableEq, Repr

def CempEnvelopeV1Codec : Codec CempEnvelopeV1 :=
  (table reader <|
    .cons (CempEnvelopeHeaderV1Codec reader) <|
    .cons MlKem768CiphertextMol <|
    .cons AesGcmNonceMol <|
    .cons (BytesMol reader) .nil).as
    (fun v => (v.header, v.kem_ciphertext, v.nonce, v.encrypted_payload, ()))
    fun (header, kem_ciphertext, nonce, encrypted_payload, _) =>
      ⟨header, kem_ciphertext, nonce, encrypted_payload⟩

/-! ### Payload -/

structure OutPointV1 where
  tx_hash : Buffer
  index : Int
  deriving DecidableEq, Repr

def OutPointV1Codec : Codec OutPointV1 :=
  (table reader <| .cons Byte32Mol <| .cons (Uint32Mol reader) .nil).as
    (fun v => (v.tx_hash, v.index, ()))
    fun (tx_hash, index, _) => ⟨tx_hash, index⟩

def OutPointOptMol : Codec (Option OutPointV1) := option reader (OutPointV1Codec reader)

def OutPointVecMol : Codec (List OutPointV1) :=
  guardedDynItemVec reader "OutPointVec" (OutPointV1Codec reader)

structure ReceiptEntryV1 where
  message_id : Buffer
  status : Int
  deriving DecidableEq, Repr

def ReceiptEntryV1Codec : Codec ReceiptEntryV1 :=
  (table reader <| .cons Byte16Mol <| .cons (byteMol reader) .nil).as
    (fun v => (v.message_id, v.status, ()))
    fun (message_id, status, _) => ⟨message_id, status⟩

def ReceiptVecMol : Codec (List ReceiptEntryV1) :=
  guardedDynItemVec reader "ReceiptVec" (ReceiptEntryV1Codec reader)

structure AttachmentManifestV1 where
  attachment_id : Buffer
  ckbfs_root : OutPointV1
  chunk_outpoints : List OutPointV1
  encrypted_size : Int
  plaintext_size : Int
  mime_type : Buffer
  width : Int
  height : Int
  thumbnail : Option Buffer
  content_hash : Buffer
  cipher_hash : Buffer
  encryption_nonce : Buffer
  encryption_algorithm : AlgorithmIdV1
  reclaim_group_id : Buffer
  deriving DecidableEq, Repr

def AttachmentManifestV1Codec : Codec AttachmentManifestV1 :=
  (table reader <|
    .cons Byte16Mol <|
    .cons (OutPointV1Codec reader) <|
    .cons (OutPointVecMol reader) <|
    .cons (Uint64Mol reader) <|
    .cons (Uint64Mol reader) <|
    .cons (BytesMol reader) <|
    .cons (Uint32Mol reader) <|
    .cons (Uint32Mol reader) <|
    .cons (BytesOptMol reader) <|
    .cons Byte32Mol <|
    .cons Byte32Mol <|
    .cons AesGcmNonceMol <|
    .cons (AlgorithmIdV1Codec reader) <|
    .cons Byte16Mol .nil).as
    (fun v => (v.attachment_id, v.ckbfs_root, v.chunk_outpoints, v.encrypted_size,
      v.plaintext_size, v.mime_type, v.width, v.height, v.thumbnail, v.content_hash,
      v.cipher_hash, v.encryption_nonce, v.encryption_algorithm, v.reclaim_group_id, ()))
    fun (attachment_id, ckbfs_root, chunk_outpoints, encrypted_size, plaintext_size, mime_type,
      width, height, thumbnail, content_hash, cipher_hash, encryption_nonce,
      encryption_algorithm, reclaim_group_id, _) =>
      ⟨attachment_id, ckbfs_root, chunk_outpoints, encrypted_size, plaintext_size, mime_type,
        width, height, thumbnail, content_hash, cipher_hash, encryption_nonce,
        encryption_algorithm, reclaim_group_id⟩

def AttachmentManifestVecMol : Codec (List AttachmentManifestV1) :=
  guardedDynItemVec reader "AttachmentManifestVec" (AttachmentManifestV1Codec reader)

structure CempPayloadV1 where
  message_id : Buffer
  body_type : Int
  recipient_profile_id : Buffer
  text : Option Buffer
  attachment_manifests : List AttachmentManifestV1
  reply_to_message_id : Option Buffer
  reply_to_outpoint : Option OutPointV1
  receipts : List ReceiptEntryV1
  receipt_request : Int
  client_timestamp : Int
  sender_device_id : Buffer
  padding : Buffer
  deriving DecidableEq, Repr

def CempPayloadV1Codec : Codec CempPayloadV1 :=
  (table reader <|
    .cons Byte16Mol <|
    .cons (byteMol reader) <|
    .cons Byte32Mol <|
    .cons (BytesOptMol reader) <|
    .cons (AttachmentManifestVecMol reader) <|
    .cons (Byte16OptMol reader) <|
    .cons (OutPointOptMol reader) <|
    .cons (ReceiptVecMol reader) <|
    .cons (byteMol reader) <|
    .cons (Uint64Mol reader) <|
    .cons Byte16Mol <|
    .cons (BytesMol reader) .nil).as
    (fun v => (v.message_id, v.body_type, v.recipient_profile_id, v.text, v.attachment_manifests,
      v.reply_to_message_id, v.reply_to_outpoint, v.receipts, v.receipt_request,
      v.client_timestamp, v.sender_device_id, v.padding, ()))
    fun (message_id, body_type, recipient_profile_id, text, attachment_manifests,
      reply_to_message_id, reply_to_outpoint, receipts, receipt_request, client_timestamp,
      sender_device_id, padding, _) =>
      ⟨message_id, body_type, recipient_profile_id, text, attachment_manifests,
        reply_to_message_id, reply_to_outpoint, receipts, receipt_request, client_timestamp,
        sender_device_id, padding⟩

/-! ### Reclaim journal -/

structure ReclaimGroupV1 where
  reclaim_group_id : Buffer
  reason : Int
  created_at : Int
  outpoints : List OutPointV1
  deriving DecidableEq, Repr

def ReclaimGroupV1Codec : Codec ReclaimGroupV1 :=
  (table reader <|
    .cons Byte16Mol <|
    .cons (byteMol reader) <|
    .cons (Uint64Mol reader) <|
    .cons (OutPointVecMol reader) .nil).as
    (fun v => (v.reclaim_group_id, v.reason, v.created_at, v.outpoints, ()))
    fun (reclaim_group_id, reason, created_at, outpoints, _) =>
      ⟨reclaim_group_id, reason, created_at, outpoints⟩

end Codecs

/-! ### Strict encode and decode -/

def strictEncode {α : Type} (structureName : String) (codec : Codec α) (value : α) :
    Except CempCodecError Buffer :=
  match codec.encode value with
  | .ok bytes => .ok bytes
  | .error fault => .error ⟨structureName, "encode failed: ", some fault⟩

/-- Decodes, and refuses a buffer that the decoded value does not encode to. -/
def strictDecode {α : Type} (structureName : String) (codec : Codec α) (bytes : Buffer) :
    Except CempCodecError α :=
  match codec.decode bytes with
  | .error fault => .error ⟨structureName, "decode failed: ", some fault⟩
  | .ok decoded =>
    match codec.encode decoded with
    | .error fault => .error ⟨structureName, "canonical re-encode failed: ", some fault⟩
    | .ok canonical =>
      if canonical ≠ bytes then
        .error ⟨structureName, "non-canonical Molecule encoding (re-encode differs from input)",
          none⟩
      else .ok decoded

/-- The structures that have a strict pair. -/
inductive Schema where
  | Uint32 | Uint64 | Bytes | BytesOpt | Byte12 | Byte16 | Byte32 | Byte16Opt | Byte32Opt
  | AlgorithmIdV1 | MlDsa65PublicKey | MlKem768PublicKey | ProtocolVersions | MlKem768Ciphertext
  | AesGcmNonce | CempProfileV1 | CempEnvelopeHeaderV1 | CempEnvelopeV1 | OutPointV1 | OutPointOpt
  | OutPointVec | ReceiptEntryV1 | ReceiptVec | AttachmentManifestV1 | AttachmentManifestVec
  | CempPayloadV1 | ReclaimGroupV1
  deriving DecidableEq, Repr

def Schema.Value : Schema → Type
  | Uint32 | Uint64 => Int
  | Bytes | Byte12 | Byte16 | Byte32 => Buffer
  | BytesOpt | Byte16Opt | Byte32Opt => Option Buffer
  | AlgorithmIdV1 => codec.AlgorithmIdV1
  | MlDsa65PublicKey | MlKem768PublicKey | MlKem768Ciphertext | AesGcmNonce => Buffer
  | ProtocolVersions => List Int
  | CempProfileV1 => codec.CempProfileV1
  | CempEnvelopeHeaderV1 => codec.CempEnvelopeHeaderV1
  | CempEnvelopeV1 => codec.CempEnvelopeV1
  | OutPointV1 => codec.OutPointV1
  | OutPointOpt => Option codec.OutPointV1
  | OutPointVec => List codec.OutPointV1
  | ReceiptEntryV1 => codec.ReceiptEntryV1
  | ReceiptVec => List codec.ReceiptEntryV1
  | AttachmentManifestV1 => codec.AttachmentManifestV1
  | AttachmentManifestVec => List codec.AttachmentManifestV1
  | CempPayloadV1 => codec.CempPayloadV1
  | ReclaimGroupV1 => codec.ReclaimGroupV1

def Schema.wire (reader : Reader) : (s : Schema) → Codec s.Value
  | Uint32 => Uint32Mol reader
  | Uint64 => Uint64Mol reader
  | Bytes => BytesMol reader
  | BytesOpt => BytesOptMol reader
  | Byte12 => Byte12Mol
  | Byte16 => Byte16Mol
  | Byte32 => Byte32Mol
  | Byte16Opt => Byte16OptMol reader
  | Byte32Opt => Byte32OptMol reader
  | AlgorithmIdV1 => AlgorithmIdV1Codec reader
  | MlDsa65PublicKey => MlDsa65PublicKeyMol
  | MlKem768PublicKey => MlKem768PublicKeyMol
  | ProtocolVersions => ProtocolVersionsMol reader
  | MlKem768Ciphertext => MlKem768CiphertextMol
  | AesGcmNonce => AesGcmNonceMol
  | CempProfileV1 => CempProfileV1Codec reader
  | CempEnvelopeHeaderV1 => CempEnvelopeHeaderV1Codec reader
  | CempEnvelopeV1 => CempEnvelopeV1Codec reader
  | OutPointV1 => OutPointV1Codec reader
  | OutPointOpt => OutPointOptMol reader
  | OutPointVec => OutPointVecMol reader
  | ReceiptEntryV1 => ReceiptEntryV1Codec reader
  | ReceiptVec => ReceiptVecMol reader
  | AttachmentManifestV1 => AttachmentManifestV1Codec reader
  | AttachmentManifestVec => AttachmentManifestVecMol reader
  | CempPayloadV1 => CempPayloadV1Codec reader
  | ReclaimGroupV1 => ReclaimGroupV1Codec reader

/-- The name a strict pair reports its errors under. -/
def Schema.name : Schema → String
  | Uint32 => "Uint32"
  | Uint64 => "Uint64"
  | Bytes => "Bytes"
  | BytesOpt => "BytesOpt"
  | Byte12 => "Byte12"
  | Byte16 => "Byte16"
  | Byte32 => "Byte32"
  | Byte16Opt => "Byte16Opt"
  | Byte32Opt => "Byte32Opt"
  | AlgorithmIdV1 => "AlgorithmIdV1"
  | MlDsa65PublicKey => "MlDsa65PublicKey"
  | MlKem768PublicKey => "MlKem768PublicKey"
  | ProtocolVersions => "ProtocolVersions"
  | MlKem768Ciphertext => "MlKem768Ciphertext"
  | AesGcmNonce => "AesGcmNonce"
  | CempProfileV1 => "CempProfileV1"
  | CempEnvelopeHeaderV1 => "CempEnvelopeHeaderV1"
  | CempEnvelopeV1 => "CempEnvelopeV1"
  | OutPointV1 => "OutPointV1"
  | OutPointOpt => "OutPointOpt"
  | OutPointVec => "OutPointVec"
  | ReceiptEntryV1 => "ReceiptEntryV1"
  | ReceiptVec => "ReceiptVec"
  | AttachmentManifestV1 => "AttachmentManifestV1"
  | AttachmentManifestVec => "AttachmentManifestVec"
  | CempPayloadV1 => "CempPayloadV1"
  | ReclaimGroupV1 => "ReclaimGroupV1"

def Schema.encode (s : Schema) (reader : Reader) (value : s.Value) :
    Except CempCodecError Buffer :=
  strictEncode s.name (s.wire reader) value

def Schema.decode (s : Schema) (reader : Reader) (bytes : Buffer) :
    Except CempCodecError s.Value :=
  strictDecode s.name (s.wire reader) bytes

end cemp.core.codec
