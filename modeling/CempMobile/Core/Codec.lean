import CempMobile.Core.Error

namespace cemp.core

abbrev Bytes : Type := List UInt8

/-- A 32-byte profile id. -/
abbrev ProfileId : Type := Bytes

/-- A 16-byte envelope message id. -/
abbrev MessageId : Type := Bytes

/-- A transaction hash. -/
abbrev Hash : Type := Nat

structure OutPoint where
  txHash : Hash
  index : Nat
  deriving DecidableEq, Repr

structure AlgorithmIdV1 where
  family : Nat
  parameter : Nat
  deriving DecidableEq, Repr

/-- The manifest of one attachment, as the encrypted payload carries it. -/
structure AttachmentManifestV1 where
  attachment_id : Bytes
  ckbfs_root : OutPoint
  chunk_outpoints : List OutPoint
  encrypted_size : Nat
  plaintext_size : Nat
  mime_type : String
  width : Nat
  height : Nat
  thumbnail : Option Bytes
  content_hash : Bytes
  cipher_hash : Bytes
  encryption_nonce : Bytes
  encryption_algorithm : AlgorithmIdV1
  reclaim_group_id : Bytes
  deriving DecidableEq, Repr

/-- A receipt: the message it names and a status. -/
structure Receipt where
  messageId : MessageId
  status : Nat
  deriving DecidableEq, Repr

structure CempPayloadV1 where
  message_id : MessageId
  body_type : Nat
  recipient_profile_id : ProfileId
  text : Option String
  attachment_manifests : List AttachmentManifestV1
  reply_to_message_id : Option MessageId
  reply_to_outpoint : Option OutPoint
  receipts : List Receipt
  receipt_request : Nat
  client_timestamp : Nat
  sender_device_id : Bytes
  padding : Bytes
  deriving DecidableEq, Repr

/-- The clear header of an envelope. Anyone can read it on chain. -/
structure CempEnvelopeHeaderV1 where
  protocol_version : Nat
  network : Nat
  content_type : Nat
  message_id : MessageId
  conversation_id : Bytes
  sender_profile_id : ProfileId
  created_at_client : Nat
  reply_to_message_id : Option MessageId
  expiry_hint : Nat
  deriving DecidableEq, Repr

/-- An encrypted envelope: its header is in the clear, the payload is sealed. -/
structure CempEnvelopeV1 where
  header : CempEnvelopeHeaderV1
  payload : CempPayloadV1
  deriving DecidableEq, Repr

/-- The outcome of a check: accepted, or rejected for a reason. -/
inductive ValidationResult where
  | ok
  | fail (reason : String)
  deriving DecidableEq, Repr

def ValidationResult.isOk : ValidationResult → Bool
  | ok => true
  | fail _ => false

namespace V1_LIMITS

def maxTextBytes : Nat := 16384
def maxPayloadBytes : Nat := 65536
def maxPaddingBytes : Nat := 255
def maxAttachmentManifests : Nat := 4
def maxReceipts : Nat := 64
def maxEnvelopeBytes : Nat := 82000
def maxHandleBytes : Nat := 64
def maxProfileBytes : Nat := 4096
def maxProtocolVersions : Nat := 8

end V1_LIMITS

namespace CONTENT_TYPE

def text : Nat := 0x01
def receipt : Nat := 0x02
def attachmentManifest : Nat := 0x03

end CONTENT_TYPE

/-- A byte in the hexadecimal form of the reasons. -/
def hexByte (value : Nat) : String :=
  let digits := String.ofList (Nat.toDigits 16 value)
  "0x" ++ (if value < 16 then "0" ++ digits else digits)

/-- Lowercase hexadecimal text of bytes. -/
def bytesToHex (bytes : Bytes) : String :=
  String.ofList (bytes.flatMap fun b => [Nat.digitChar (b.toNat / 16), Nat.digitChar (b.toNat % 16)])

theorem length_bytesToHex (bytes : Bytes) :
    (bytesToHex bytes).toList.length = 2 * bytes.length := by
  rw [bytesToHex, String.toList_ofList]
  induction bytes with
  | nil => rfl
  | cons b bytes ih =>
    rw [List.flatMap_cons, List.length_append, ih, List.length_cons]
    exact (Nat.add_comm ..).trans (Nat.mul_succ ..).symm

/-- The field checks of a decoded payload, in the order of the source. `totalBytes` is the
    size of its serialization, where that is known. -/
def validatePayloadFields (payload : CempPayloadV1) (totalBytes : Option Nat) :
    ValidationResult :=
  if payload.body_type ∉ [CONTENT_TYPE.text, CONTENT_TYPE.receipt, CONTENT_TYPE.attachmentManifest] then
    .fail ("unknown body_type " ++ hexByte payload.body_type ++ " (spec §8)")
  else if payload.receipt_request > 0x03 then
    .fail ("receipt_request " ++ hexByte payload.receipt_request ++
      " is not a valid 0x01|0x02 bitmask")
  else match payload.receipts.find? fun receipt => 0x06 < receipt.status with
  | some receipt => .fail ("unknown receipt status " ++ hexByte receipt.status ++ " (spec §9)")
  | none =>
    let textBytes := (payload.text.map String.utf8ByteSize).getD 0
    if V1_LIMITS.maxTextBytes < textBytes then
      .fail ("text is " ++ toString textBytes ++ " bytes (max " ++
        toString V1_LIMITS.maxTextBytes ++ ")")
    else if V1_LIMITS.maxPayloadBytes < totalBytes.getD 0 then
      .fail ("payload is " ++ toString (totalBytes.getD 0) ++ " bytes, exceeds the " ++
        toString V1_LIMITS.maxPayloadBytes ++ "-byte limit (spec §11)")
    else if V1_LIMITS.maxPaddingBytes < payload.padding.length then
      .fail ("padding is " ++ toString payload.padding.length ++ " bytes (max " ++
        toString V1_LIMITS.maxPaddingBytes ++ ")")
    else if V1_LIMITS.maxReceipts < payload.receipts.length then
      .fail ("payload carries " ++ toString payload.receipts.length ++ " receipts (max " ++
        toString V1_LIMITS.maxReceipts ++ ")")
    else if V1_LIMITS.maxAttachmentManifests < payload.attachment_manifests.length then
      .fail ("payload carries " ++ toString payload.attachment_manifests.length ++
        " attachment manifests (max " ++ toString V1_LIMITS.maxAttachmentManifests ++ ")")
    else if payload.body_type = CONTENT_TYPE.text ∧ payload.text = none then
      .fail "body_type 0x01 (text) requires the text field to be present (spec §8)"
    else .ok

/-- The cross-checks between the clear header, the decrypted payload and the own profile id. -/
def validateSemanticConsistency (header : CempEnvelopeHeaderV1) (payload : CempPayloadV1)
    (ownProfileId : ProfileId) : ValidationResult :=
  if payload.message_id ≠ header.message_id then
    .fail "payload message_id does not match header message_id (spec §12.5)"
  else if payload.body_type ≠ header.content_type then
    .fail ("payload body_type " ++ hexByte payload.body_type ++ " does not match header " ++
      "content_type " ++ hexByte header.content_type ++ " (spec §12.5)")
  else if ownProfileId.length ≠ 32 then
    .fail ("own profile id is " ++ toString ownProfileId.length ++ " bytes, expected 32")
  else if payload.recipient_profile_id ≠ ownProfileId then
    .fail "payload recipient_profile_id does not match own profile id (spec §12.5)"
  else .ok

theorem validateSemanticConsistency_ok {header : CempEnvelopeHeaderV1} {payload : CempPayloadV1}
    {ownProfileId : ProfileId} :
    validateSemanticConsistency header payload ownProfileId = .ok ↔
      payload.message_id = header.message_id ∧ payload.body_type = header.content_type ∧
        ownProfileId.length = 32 ∧ payload.recipient_profile_id = ownProfileId := by
  unfold validateSemanticConsistency
  split_ifs <;> simp_all

/-- A profile, as its cell carries it. -/
structure CempProfileV1 where
  protocol_version : Nat
  sig_algorithm : AlgorithmIdV1
  kem_algorithm : AlgorithmIdV1
  ml_dsa_public_key : Bytes
  ml_kem_public_key : Bytes
  lock_script_hash : Bytes
  supported_protocol_versions : List Nat
  supported_attachments : Nat
  handle : Option Bytes
  icon_hash : Option Bytes
  key_created_at : Nat
  rotation_sequence : Nat
  previous_profile_id : Option ProfileId
  revoked : Nat
  deriving DecidableEq, Repr

def validateProfileFields (profile : CempProfileV1) : ValidationResult :=
  if profile.protocol_version ≠ 1 then
    .fail ("unknown protocol_version " ++ toString profile.protocol_version ++ " (expected 1)")
  else if profile.sig_algorithm ≠ ⟨0x01, 61⟩ then
    .fail ("unknown sig_algorithm (family " ++ hexByte profile.sig_algorithm.family ++
      ", parameter " ++ toString profile.sig_algorithm.parameter ++ ")")
  else if profile.kem_algorithm ≠ ⟨0x02, 3⟩ then
    .fail ("unknown kem_algorithm (family " ++ hexByte profile.kem_algorithm.family ++
      ", parameter " ++ toString profile.kem_algorithm.parameter ++ ")")
  else if V1_LIMITS.maxProtocolVersions < profile.supported_protocol_versions.length then
    .fail ("supported_protocol_versions has " ++
      toString profile.supported_protocol_versions.length ++ " entries (max " ++
      toString V1_LIMITS.maxProtocolVersions ++ ")")
  else if 1 ∉ profile.supported_protocol_versions then
    .fail "supported_protocol_versions does not contain v1"
  else if V1_LIMITS.maxHandleBytes < (profile.handle.map List.length).getD 0 then
    .fail ("handle is " ++ toString ((profile.handle.map List.length).getD 0) ++ " bytes (max " ++
      toString V1_LIMITS.maxHandleBytes ++ ")")
  else if profile.revoked ≠ 0x00 ∧ profile.revoked ≠ 0x01 then
    .fail ("unknown revoked value " ++ hexByte profile.revoked ++ " (spec §5.3)")
  else if 0x03 < profile.supported_attachments then
    .fail ("supported_attachments " ++ hexByte profile.supported_attachments ++
      " is not a valid bitmask")
  else .ok

/-- The size gate of a profile, then its field checks. -/
def validateProfile (encode : CempProfileV1 → Bytes) (profile : CempProfileV1) : ValidationResult :=
  if V1_LIMITS.maxProfileBytes < (encode profile).length then
    .fail ("profile data is " ++ toString (encode profile).length ++ " bytes, exceeds the " ++
      toString V1_LIMITS.maxProfileBytes ++ "-byte limit (spec §11)")
  else validateProfileFields profile

end cemp.core
