import CempMobile.Core.Codec
import CempMobile.Core.Canonical

open Molecule mol

namespace cemp.core.codec

/-! The validation of wire data: hostile bytes are refused with a reason, and nothing throws. -/

/-- The tag that AES-256-GCM appends to `encrypted_payload`. -/
def gcmTagBytes : Nat := 16

def NETWORK_CKB_TESTNET : Int := 0x01
def NETWORK_RESERVED_MAINNET : Int := 0x00

def isKnownContentType (contentType : Int) : Bool :=
  [CONTENT_TYPE.text, CONTENT_TYPE.receipt, CONTENT_TYPE.attachmentManifest].any
    fun known => contentType == known

section Validate

variable (reader : Reader)

-- What an error of the library says.
variable (libraryText : String)

def faultText : Fault → String
  | .library => libraryText
  | .message text => text

/-- `error.message` -/
def CempCodecError.message (error : CempCodecError) : String :=
  error.structureName ++ ": " ++ error.step ++ (error.cause.map (faultText libraryText)).getD ""

/-- A strict decode, whose failure is the reason. -/
def tryDecode (s : Schema) (data : Buffer) : Except String s.Value :=
  match s.decode reader data with
  | .ok value => .ok value
  | .error error => .error (s.name ++ " rejected: " ++ error.message libraryText)

/-! ### Envelope -/

/-- Checks the fields of a decoded envelope, before any key is needed. -/
def validateEnvelopeFields (envelope : CempEnvelopeV1) : ValidationResult :=
  let header := envelope.header
  if header.protocol_version ≠ 1 then
    .fail ("unknown protocol_version " ++ toString header.protocol_version ++ " (expected 1)")
  else if header.network ≠ NETWORK_CKB_TESTNET then
    if header.network = NETWORK_RESERVED_MAINNET then
      .fail "network 0x00 is reserved for mainnet and not enabled (AGENTS.md rule 12)"
    else .fail ("unknown network byte " ++ hexByte header.network.toNat)
  else if isKnownContentType header.content_type = false then
    .fail ("unknown content_type " ++ hexByte header.content_type.toNat)
  else if envelope.kem_ciphertext.length ≠ 1088 then
    .fail ("internal: kem_ciphertext is " ++ toString envelope.kem_ciphertext.length ++
      " bytes, expected 1088")
  else if envelope.nonce.length ≠ 12 then
    .fail ("internal: nonce is " ++ toString envelope.nonce.length ++ " bytes, expected 12")
  else if envelope.encrypted_payload.length < gcmTagBytes then
    .fail ("encrypted_payload is " ++ toString envelope.encrypted_payload.length ++
      " bytes, shorter than the " ++ toString gcmTagBytes ++ "-byte GCM tag")
  else .ok

/-- The size of an envelope, then its shape, then its fields. -/
def validateEnvelope (data : Buffer) : ValidationResult :=
  if V1_LIMITS.maxEnvelopeBytes < data.length then
    .fail ("envelope data is " ++ toString data.length ++ " bytes, exceeds the " ++
      toString V1_LIMITS.maxEnvelopeBytes ++ "-byte limit (spec §11)")
  else
    match tryDecode reader libraryText .CempEnvelopeV1 data with
    | .error reason => .fail reason
    | .ok envelope => validateEnvelopeFields envelope

/-! ### Payload -/

def validatePayloadFields (payload : CempPayloadV1) (totalBytes : Option Nat) : ValidationResult :=
  if isKnownContentType payload.body_type = false then
    .fail ("unknown body_type " ++ hexByte payload.body_type.toNat ++ " (spec §8)")
  else if 0x03 < payload.receipt_request then
    .fail ("receipt_request " ++ hexByte payload.receipt_request.toNat ++
      " is not a valid 0x01|0x02 bitmask")
  else
    match payload.receipts.find? fun receipt => 0x06 < receipt.status with
    | some receipt => .fail ("unknown receipt status " ++ hexByte receipt.status.toNat ++ " (spec §9)")
    | none =>
      let textBytes := (payload.text.map List.length).getD 0
      if V1_LIMITS.maxTextBytes < textBytes then
        .fail ("text is " ++ toString textBytes ++ " bytes (max " ++
          toString V1_LIMITS.maxTextBytes ++ ")")
      else if V1_LIMITS.maxPayloadBytes < totalBytes.getD 0 then
        .fail ("payload is " ++ toString (totalBytes.getD 0) ++ " bytes, exceeds the " ++
          toString V1_LIMITS.maxPayloadBytes ++ "-byte limit (spec §11)")
      else if V1_LIMITS.maxPaddingBytes < payload.padding.length then
        .fail ("padding is " ++ toString payload.padding.length ++ " bytes (max " ++
          toString V1_LIMITS.maxPaddingBytes ++ ")")
      else if V1_LIMITS.maxReceipts < payload.receipts.length then
        .fail ("payload carries " ++ toString payload.receipts.length ++ " receipts (max " ++
          toString V1_LIMITS.maxReceipts ++ ")")
      else if V1_LIMITS.maxAttachmentManifests < payload.attachment_manifests.length then
        .fail ("payload carries " ++ toString payload.attachment_manifests.length ++
          " attachment manifests (max " ++ toString V1_LIMITS.maxAttachmentManifests ++ ")")
      else if payload.body_type = CONTENT_TYPE.text ∧ payload.text = none then
        .fail "body_type 0x01 (text) requires the text field to be present (spec §8)"
      else .ok

def validatePayload (bytes : Buffer) : ValidationResult :=
  match tryDecode reader libraryText .CempPayloadV1 bytes with
  | .error reason => .fail reason
  | .ok payload => validatePayloadFields payload (some bytes.length)

/-! ### Header and payload -/

def validateSemanticConsistency (header : CempEnvelopeHeaderV1) (payload : CempPayloadV1)
    (ownProfileId : Buffer) : ValidationResult :=
  if payload.message_id ≠ header.message_id then
    .fail "payload message_id does not match header message_id (spec §12.5)"
  else if payload.body_type ≠ header.content_type then
    .fail ("payload body_type " ++ hexByte payload.body_type.toNat ++ " does not match header " ++
      "content_type " ++ hexByte header.content_type.toNat ++ " (spec §12.5)")
  else if ownProfileId.length ≠ 32 then
    .fail ("own profile id is " ++ toString ownProfileId.length ++ " bytes, expected 32")
  else if payload.recipient_profile_id ≠ ownProfileId then
    .fail "payload recipient_profile_id does not match own profile id (spec §12.5)"
  else .ok

end Validate

/-! ### What is accepted -/

section Accepted

variable {reader : Reader} {libraryText : String}

theorem tryDecode_eq_ok_iff {s : Schema} {data : Buffer} {value : s.Value} :
    tryDecode reader libraryText s data = .ok value ↔ s.decode reader data = .ok value := by
  unfold tryDecode
  cases s.decode reader data with
  | error error => simp
  | ok decoded => simp

/-- A header of this version and network, with a known content type. -/
structure CempEnvelopeHeaderV1.Valid (header : CempEnvelopeHeaderV1) : Prop where
  version : header.protocol_version = 1
  network : header.network = NETWORK_CKB_TESTNET
  contentType : isKnownContentType header.content_type = true

theorem validateEnvelopeFields_eq_ok_iff {envelope : CempEnvelopeV1} :
    validateEnvelopeFields envelope = .ok ↔
      envelope.header.Valid ∧ envelope.kem_ciphertext.length = 1088 ∧
        envelope.nonce.length = 12 ∧ gcmTagBytes ≤ envelope.encrypted_payload.length := by
  unfold validateEnvelopeFields
  dsimp only
  constructor
  · intro h
    split_ifs at h with hversion hnetwork hmainnet hcontent hkem hnonce htag
    exact ⟨⟨not_not.1 hversion, not_not.1 hnetwork, Bool.not_eq_false _ ▸ hcontent⟩,
      not_not.1 hkem, not_not.1 hnonce, Nat.le_of_not_lt htag⟩
  · rintro ⟨⟨hversion, hnetwork, hcontent⟩, hkem, hnonce, htag⟩
    rw [if_neg (not_not.2 hversion), if_neg (not_not.2 hnetwork), if_neg (by simp [hcontent]),
      if_neg (not_not.2 hkem), if_neg (not_not.2 hnonce), if_neg (Nat.not_lt.2 htag)]

theorem validateEnvelope_eq_ok_iff {data : Buffer} :
    validateEnvelope reader libraryText data = .ok ↔
      data.length ≤ V1_LIMITS.maxEnvelopeBytes ∧
        ∃ envelope, Schema.CempEnvelopeV1.decode reader data = .ok envelope ∧
          validateEnvelopeFields envelope = .ok := by
  unfold validateEnvelope
  by_cases hsize : V1_LIMITS.maxEnvelopeBytes < data.length
  · rw [if_pos hsize]
    constructor
    · intro h
      cases h
    · rintro ⟨hle, -⟩
      omega
  · rw [if_neg hsize]
    cases hdecode : tryDecode reader libraryText .CempEnvelopeV1 data with
    | error reason =>
      constructor
      · intro h
        cases h
      · rintro ⟨-, envelope, hok, -⟩
        cases hdecode.symm.trans (tryDecode_eq_ok_iff.2 hok)
    | ok envelope =>
      have hok := tryDecode_eq_ok_iff.1 hdecode
      constructor
      · intro h
        exact ⟨Nat.le_of_not_lt hsize, envelope, hok, h⟩
      · rintro ⟨-, envelope', hok', h⟩
        cases hok.symm.trans hok'
        exact h

theorem validatePayload_eq_ok_iff {bytes : Buffer} :
    validatePayload reader libraryText bytes = .ok ↔
      ∃ payload, Schema.CempPayloadV1.decode reader bytes = .ok payload ∧
        validatePayloadFields payload (some bytes.length) = .ok := by
  unfold validatePayload
  cases hdecode : tryDecode reader libraryText .CempPayloadV1 bytes with
  | error reason =>
    constructor
    · intro h
      cases h
    · rintro ⟨payload, hok, -⟩
      cases hdecode.symm.trans (tryDecode_eq_ok_iff.2 hok)
  | ok payload =>
    have hok := tryDecode_eq_ok_iff.1 hdecode
    constructor
    · intro h
      exact ⟨payload, hok, h⟩
    · rintro ⟨payload', hok', h⟩
      cases hok.symm.trans hok'
      exact h

/-- An accepted payload is no longer than the limit. -/
theorem payload_size_of_ok {payload : CempPayloadV1} {totalBytes : Nat}
    (h : validatePayloadFields payload (some totalBytes) = .ok) :
    totalBytes ≤ V1_LIMITS.maxPayloadBytes := by
  unfold validatePayloadFields at h
  split at h
  · cases h
  split at h
  · cases h
  split at h
  · cases h
  dsimp only at h
  split at h
  · cases h
  split at h
  · cases h
  next hsize =>
  exact Nat.le_of_not_lt hsize

theorem validateSemanticConsistency_eq_ok_iff {header : CempEnvelopeHeaderV1}
    {payload : CempPayloadV1} {ownProfileId : Buffer} :
    validateSemanticConsistency header payload ownProfileId = .ok ↔
      payload.message_id = header.message_id ∧ payload.body_type = header.content_type ∧
        ownProfileId.length = 32 ∧ payload.recipient_profile_id = ownProfileId := by
  unfold validateSemanticConsistency
  constructor
  · intro h
    split_ifs at h with hid htype hlength hrecipient
    exact ⟨not_not.1 hid, not_not.1 htype, not_not.1 hlength, not_not.1 hrecipient⟩
  · rintro ⟨hid, htype, hlength, hrecipient⟩
    rw [if_neg (not_not.2 hid), if_neg (not_not.2 htype), if_neg (not_not.2 hlength),
      if_neg (not_not.2 hrecipient)]

end Accepted

end cemp.core.codec
