import CempMobile.Crypto.Envelope
import CempMobile.Lib.MolSize
import CempMobile.Lib.Results

open Except Molecule mol cemp.core.codec

namespace cemp.crypto

/-! ### Results of the steps -/

theorem requireLength_eq_ok_iff {label : String} {value : Buffer} {expected : Nat} :
    requireLength label value expected = .ok () ↔ value.length = expected := by
  unfold requireLength
  rw [guard_eq_ok_iff, not_not, and_iff_left rfl]

theorem orThrow_eq_ok_iff {α : Type} {result : Option α} {message : String} {value : α} :
    orThrow result message = .ok value ↔ result = some value := by
  cases result <;> simp [orThrow]

theorem ofCodec_eq_ok_iff {α : Type} {result : Except CempCodecError α} {value : α} :
    ofCodec result = .ok value ↔ result = .ok value := by
  cases result <;> simp [ofCodec]

theorem checkKeyAndNonce_eq_ok_iff {key nonce : Buffer} :
    checkKeyAndNonce key nonce = .ok () ↔
      key.length = AES_256_KEY_BYTES ∧ nonce.length = AES_256_GCM_NONCE_BYTES := by
  unfold checkKeyAndNonce
  rw [guard_eq_ok_iff, guard_eq_ok_iff, not_not, not_not, and_iff_left rfl]

section Steps

variable {suite : Suite} {reader : Reader} {libraryText : String}

theorem checkedPayload_eq_ok_iff {bytes : Buffer} {header : CempEnvelopeHeaderV1}
    {payload : CempPayloadV1} :
    checkedPayload reader bytes header = .ok payload ↔
      Schema.CempPayloadV1.decode reader bytes = .ok payload ∧
        payload.message_id = header.message_id ∧ payload.body_type = header.content_type := by
  unfold checkedPayload
  cases hdecode : Schema.CempPayloadV1.decode reader bytes with
  | error error => simp
  | ok decoded =>
    dsimp only
    rw [guard_eq_ok_iff, guard_eq_ok_iff, not_not, not_not]
    constructor
    · rintro ⟨hid, htype, heq⟩
      cases heq
      exact ⟨rfl, hid, htype⟩
    · rintro ⟨heq, hid, htype⟩
      cases heq
      exact ⟨hid, htype, rfl⟩

theorem checkedEnvelope_eq_ok_iff {bytes : Buffer} :
    checkedEnvelope reader libraryText bytes = .ok () ↔
      validateEnvelope reader libraryText bytes = .ok := by
  unfold checkedEnvelope
  cases validateEnvelope reader libraryText bytes <;> simp

theorem preDecryptCheck_eq_ok_iff {bytes : Buffer} :
    preDecryptCheck reader libraryText bytes = .ok () ↔
      validateEnvelope reader libraryText bytes = .ok := by
  unfold preDecryptCheck
  cases validateEnvelope reader libraryText bytes <;> simp

theorem aes256GcmEncrypt_eq_ok_iff {key nonce plaintext aad ciphertext : Buffer} :
    aes256GcmEncrypt suite key nonce plaintext aad = .ok ciphertext ↔
      (key.length = AES_256_KEY_BYTES ∧ nonce.length = AES_256_GCM_NONCE_BYTES) ∧
        suite.gcmEncrypt key nonce aad plaintext = ciphertext := by
  unfold aes256GcmEncrypt
  rw [bind_eq_ok_iff, ← checkKeyAndNonce_eq_ok_iff]
  constructor
  · rintro ⟨⟨⟩, hcheck, hpure⟩
    exact ⟨hcheck, Except.ok.inj hpure⟩
  · rintro ⟨hcheck, hcipher⟩
    exact ⟨(), hcheck, congrArg Except.ok hcipher⟩

theorem aes256GcmDecrypt_encrypt (hsuite : suite.Correct) {key nonce plaintext aad : Buffer}
    (hkey : key.length = AES_256_KEY_BYTES) (hnonce : nonce.length = AES_256_GCM_NONCE_BYTES) :
    aes256GcmDecrypt suite key nonce (suite.gcmEncrypt key nonce aad plaintext) aad =
      .ok plaintext := by
  unfold aes256GcmDecrypt
  rw [bind_eq_ok_iff]
  refine ⟨(), checkKeyAndNonce_eq_ok_iff.2 ⟨hkey, hnonce⟩, ?_⟩
  have hlong := hsuite.gcm_length key nonce aad plaintext
  rw [if_neg (by omega), hsuite.gcm_opens key nonce aad plaintext hkey hnonce]
  rfl

theorem deriveMessageKey_length (hsuite : suite.Correct)
    (sharedSecret nonce senderProfileId recipientProfileId : Buffer) (domain : MessageKeyDomain) :
    (deriveMessageKey suite sharedSecret nonce senderProfileId recipientProfileId domain).length =
      AES_256_KEY_BYTES :=
  hsuite.hkdf_length _ _ _ _

/-- What a sealed envelope is made of. -/
structure Sealing (suite : Suite) (reader : Reader) (libraryText : String) (entropy : Entropy)
    (params : EncryptEnvelopeParams) (sealed : EncryptEnvelopeResult) (payload : CempPayloadV1)
    (sharedSecret aad : Buffer) : Prop where
  publicKey : params.recipientKemPublicKey.length = ML_KEM_768_SIZES.publicKey
  nonce : params.nonce.getD entropy.nonce = sealed.nonce
  nonce_length : sealed.nonce.length = AES_256_GCM_NONCE_BYTES
  kemMessage : ∀ kemMessage ∈ params.kemMessage, kemMessage.length = ML_KEM_768_SIZES.sharedSecret
  decoded : Schema.CempPayloadV1.decode reader params.payload = .ok payload
  message_id : payload.message_id = params.header.message_id
  body_type : payload.body_type = params.header.content_type
  encapsulated : suite.encapsulate params.recipientKemPublicKey
    (params.kemMessage.getD entropy.kemMessage) = some (sealed.kemCiphertext, sharedSecret)
  ciphertext : sealed.kemCiphertext.length = ML_KEM_768_SIZES.ciphertext
  header : Schema.CempEnvelopeHeaderV1.encode reader params.header = .ok aad
  messageKey : (deriveMessageKey suite sharedSecret sealed.nonce params.header.sender_profile_id
    payload.recipient_profile_id .MessageKey).length = AES_256_KEY_BYTES
  envelope : Schema.CempEnvelopeV1.encode reader ⟨params.header, sealed.kemCiphertext, sealed.nonce,
    suite.gcmEncrypt (deriveMessageKey suite sharedSecret sealed.nonce
      params.header.sender_profile_id payload.recipient_profile_id .MessageKey)
      sealed.nonce aad params.payload⟩ = .ok sealed.envelopeBytes
  valid : validateEnvelope reader libraryText sealed.envelopeBytes = .ok
  attachmentKey : sealed.attachmentKey = deriveMessageKey suite sharedSecret sealed.nonce
    params.header.sender_profile_id payload.recipient_profile_id .AttachmentKey

theorem encryptEnvelope_eq_ok_iff {entropy : Entropy} {params : EncryptEnvelopeParams}
    {sealed : EncryptEnvelopeResult} :
    encryptEnvelope suite reader libraryText entropy params = .ok sealed ↔
      ∃ payload sharedSecret aad,
        Sealing suite reader libraryText entropy params sealed payload sharedSecret aad := by
  have hkem : (params.kemMessage.map fun kemMessage =>
      requireLength "kemMessage" kemMessage ML_KEM_768_SIZES.sharedSecret).getD (.ok ()) = .ok () ↔
        ∀ kemMessage ∈ params.kemMessage, kemMessage.length = ML_KEM_768_SIZES.sharedSecret := by
    cases params.kemMessage with
    | none => simp
    | some kemMessage => simp [requireLength_eq_ok_iff]
  unfold encryptEnvelope
  constructor
  · intro h
    obtain ⟨⟨⟩, hpublic, h1⟩ := bind_eq_ok_iff.1 h
    obtain ⟨⟨⟩, hnonce, h2⟩ := bind_eq_ok_iff.1 h1
    obtain ⟨⟨⟩, hmessage, h3⟩ := bind_eq_ok_iff.1 h2
    obtain ⟨payload, hpayload, h4⟩ := bind_eq_ok_iff.1 h3
    obtain ⟨⟨cipherText, sharedSecret⟩, hencapsulated, h5⟩ := bind_eq_ok_iff.1 h4
    obtain ⟨⟨⟩, hcipher, h6⟩ := bind_eq_ok_iff.1 h5
    obtain ⟨aad, haad, h7⟩ := bind_eq_ok_iff.1 h6
    obtain ⟨encrypted, hencrypted, h8⟩ := bind_eq_ok_iff.1 h7
    obtain ⟨bytes, hbytes, h9⟩ := bind_eq_ok_iff.1 h8
    obtain ⟨⟨⟩, hvalid, h10⟩ := bind_eq_ok_iff.1 h9
    cases h10
    obtain ⟨hdecode, hid, htype⟩ := checkedPayload_eq_ok_iff.1 hpayload
    obtain ⟨⟨hkey, -⟩, rfl⟩ := aes256GcmEncrypt_eq_ok_iff.1 hencrypted
    exact ⟨payload, sharedSecret, aad, requireLength_eq_ok_iff.1 hpublic, rfl,
      requireLength_eq_ok_iff.1 hnonce, hkem.1 hmessage, hdecode, hid, htype,
      orThrow_eq_ok_iff.1 hencapsulated, requireLength_eq_ok_iff.1 hcipher,
      ofCodec_eq_ok_iff.1 haad, hkey, ofCodec_eq_ok_iff.1 hbytes,
      checkedEnvelope_eq_ok_iff.1 hvalid, rfl⟩
  · rintro ⟨payload, sharedSecret, aad, hsealing⟩
    obtain ⟨bytes, cipherText, nonce, attachmentKey⟩ := sealed
    obtain rfl := hsealing.nonce
    have hattachment : attachmentKey = deriveMessageKey suite sharedSecret
        (params.nonce.getD entropy.nonce) params.header.sender_profile_id
        payload.recipient_profile_id .AttachmentKey := hsealing.attachmentKey
    subst hattachment
    refine bind_eq_ok_iff.2 ⟨(), requireLength_eq_ok_iff.2 hsealing.publicKey, ?_⟩
    refine bind_eq_ok_iff.2 ⟨(), requireLength_eq_ok_iff.2 hsealing.nonce_length, ?_⟩
    refine bind_eq_ok_iff.2 ⟨(), hkem.2 hsealing.kemMessage, ?_⟩
    refine bind_eq_ok_iff.2 ⟨payload, checkedPayload_eq_ok_iff.2
      ⟨hsealing.decoded, hsealing.message_id, hsealing.body_type⟩, ?_⟩
    refine bind_eq_ok_iff.2 ⟨(cipherText, sharedSecret),
      orThrow_eq_ok_iff.2 hsealing.encapsulated, ?_⟩
    refine bind_eq_ok_iff.2 ⟨(), requireLength_eq_ok_iff.2 hsealing.ciphertext, ?_⟩
    refine bind_eq_ok_iff.2 ⟨aad, ofCodec_eq_ok_iff.2 hsealing.header, ?_⟩
    refine bind_eq_ok_iff.2 ⟨_, aes256GcmEncrypt_eq_ok_iff.2
      ⟨⟨hsealing.messageKey, hsealing.nonce_length⟩, rfl⟩, ?_⟩
    refine bind_eq_ok_iff.2 ⟨bytes, ofCodec_eq_ok_iff.2 hsealing.envelope, ?_⟩
    exact bind_eq_ok_iff.2 ⟨(), checkedEnvelope_eq_ok_iff.2 hsealing.valid, rfl⟩

/-! ### Sizes -/

theorem header_atMost (hreads : reader.Reads) : (CempEnvelopeHeaderV1Codec reader).AtMost 155 := by
  have hbyte := (byteMol_lawful hreads).atMost rfl
  have hword := (Uint64Mol_lawful hreads).atMost rfl
  have hid := (fixedBytes_lawful 16).atMost rfl
  have hhash := (fixedBytes_lawful 32).atMost rfl
  refine Codec.AtMost.as (Fields.AtMost.table ?_ (.cons hbyte <| .cons hbyte <| .cons hbyte <|
    .cons hid <| .cons hhash <| .cons hhash <| .cons hword <| .cons hid.option <|
    .cons hword Fields.nil_atMost))
  exact .cons (byteMol_lawful hreads) <|
    .cons (byteMol_lawful hreads) <|
    .cons (byteMol_lawful hreads) <|
    .cons (fixedBytes_lawful 16) <|
    .cons (fixedBytes_lawful 32) <|
    .cons (fixedBytes_lawful 32) <|
    .cons (Uint64Mol_lawful hreads) <|
    .cons (Byte16OptMol_lawful hreads) <|
    .cons (Uint64Mol_lawful hreads) Fields.nil_lawful

/-- An envelope with a sealed payload of at most the limit and a tag encodes, within the limit of
    envelopes. -/
theorem envelope_encodes (hreads : reader.Reads) (envelope : CempEnvelopeV1) {aad : Buffer}
    (hheader : Schema.CempEnvelopeHeaderV1.encode reader envelope.header = .ok aad)
    (hcipher : envelope.kem_ciphertext.length = 1088) (hnonce : envelope.nonce.length = 12)
    (hsealed : envelope.encrypted_payload.length ≤
      core.V1_LIMITS.maxPayloadBytes + AES_256_GCM_TAG_BYTES) :
    ∃ bytes, Schema.CempEnvelopeV1.encode reader envelope = .ok bytes ∧
      bytes.length ≤ core.V1_LIMITS.maxEnvelopeBytes := by
  have hsealed : envelope.encrypted_payload.length ≤ 65552 := hsealed
  have hencode := strictEncode_eq_ok_iff.1 hheader
  have hsize : ∀ {parts}, (Fields.cons (CempEnvelopeHeaderV1Codec reader) <|
      Fields.cons MlKem768CiphertextMol <| Fields.cons AesGcmNonceMol <|
      Fields.cons (BytesMol reader) Fields.nil).encode
        (envelope.header, envelope.kem_ciphertext, envelope.nonce,
          envelope.encrypted_payload, ()) = .ok parts →
      totalSize parts ≤ 66831 := by
    intro parts hparts
    obtain ⟨header, rest₁, hfirst, h1, rfl⟩ := Fields.cons_encode hparts
    obtain ⟨cipher, rest₂, hsecond, h2, rfl⟩ := Fields.cons_encode h1
    obtain ⟨nonce, rest₃, hthird, h3, rfl⟩ := Fields.cons_encode h2
    obtain ⟨payload, rest₄, hfourth, h4, rfl⟩ := Fields.cons_encode h3
    obtain rfl := Except.ok.inj h4
    have hlengths := header_atMost hreads hfirst
    have hcipherLength := (fixedBytes_lawful 1088).length hsecond rfl
    have hnonceLength := (fixedBytes_lawful 12).length hthird rfl
    have hpayloadLength : payload.length = 4 + envelope.encrypted_payload.length :=
      byteVec_length hfourth
    simp only [totalSize, headerSize, List.length_cons, List.length_nil, List.flatten_cons,
      List.flatten_nil, List.length_append]
    omega
  have hrange : (CempEnvelopeV1Codec reader).inRange envelope := by
    refine ⟨⟨(CempEnvelopeHeaderV1Codec_lawful hreads).inRange hencode, hcipher, hnonce, ?_,
      trivial⟩, fun parts hparts => ?_⟩
    · change envelope.encrypted_payload.length < 2 ^ 32
      omega
    · have hparts := hsize hparts
      omega
  obtain ⟨bytes, hbytes⟩ := (CempEnvelopeV1Codec_lawful hreads).encodes hrange
  refine ⟨bytes, strictEncode_eq_ok_iff.2 hbytes, ?_⟩
  obtain ⟨parts, hparts, hlayout⟩ := bind_eq_ok hbytes
  obtain ⟨-, rfl⟩ := encodeLayout_eq_ok.1 hlayout
  have hparts := hsize hparts
  rw [length_layout]
  simp only [core.V1_LIMITS.maxEnvelopeBytes]
  omega

/-! ### Both sides -/

/-- The recipient opens what was sealed to it, and derives the same attachment key. -/
theorem decryptEnvelope_of_sealing (hreads : reader.Reads) (hsuite : suite.Correct)
    {entropy : Entropy} {params : EncryptEnvelopeParams} {sealed : EncryptEnvelopeResult}
    {payload : CempPayloadV1} {sharedSecret aad secretKey : Buffer}
    (hkeys : suite.KeyPair params.recipientKemPublicKey secretKey)
    (hmessage : (params.kemMessage.getD entropy.kemMessage).length = ML_KEM_768_SIZES.sharedSecret)
    (hsealing : Sealing suite reader libraryText entropy params sealed payload sharedSecret aad) :
    decryptEnvelope suite reader libraryText
        ⟨sealed.envelopeBytes, secretKey, payload.recipient_profile_id⟩ =
      .ok ⟨params.header, params.payload, sealed.attachmentKey⟩ := by
  have hdecode : Schema.CempEnvelopeV1.decode reader sealed.envelopeBytes =
      .ok ⟨params.header, sealed.kemCiphertext, sealed.nonce,
        suite.gcmEncrypt (deriveMessageKey suite sharedSecret sealed.nonce
          params.header.sender_profile_id payload.recipient_profile_id .MessageKey)
          sealed.nonce aad params.payload⟩ := by
    have hencode := strictEncode_eq_ok_iff.1 hsealing.envelope
    exact strictDecode_eq_ok_iff.2
      ⟨(CempEnvelopeV1Codec_lawful hreads).decodes hencode, hencode⟩
  have hrecipient : payload.recipient_profile_id.length = PROFILE_ID_BYTES := by
    have hencode := (strictDecode_eq_ok_iff.1 hsealing.decoded).2
    exact ((CempPayloadV1Codec_lawful hreads).inRange hencode).1.2.2.1
  have hsecret : suite.decapsulate sealed.kemCiphertext secretKey = some sharedSecret := by
    obtain ⟨cipherText, shared, hencapsulated, -, hdecapsulated⟩ := hkeys.encapsulates _ hmessage
    cases hencapsulated.symm.trans hsealing.encapsulated
    exact hdecapsulated
  unfold decryptEnvelope
  refine bind_eq_ok_iff.2 ⟨(), preDecryptCheck_eq_ok_iff.2 hsealing.valid, ?_⟩
  refine bind_eq_ok_iff.2 ⟨_, ofCodec_eq_ok_iff.2 hdecode, ?_⟩
  refine bind_eq_ok_iff.2 ⟨(), requireLength_eq_ok_iff.2 hkeys.secretKey_length, ?_⟩
  refine bind_eq_ok_iff.2 ⟨(), requireLength_eq_ok_iff.2 hrecipient, ?_⟩
  refine bind_eq_ok_iff.2 ⟨sharedSecret, orThrow_eq_ok_iff.2 hsecret, ?_⟩
  refine bind_eq_ok_iff.2 ⟨aad, ofCodec_eq_ok_iff.2 hsealing.header, ?_⟩
  refine bind_eq_ok_iff.2 ⟨params.payload,
    aes256GcmDecrypt_encrypt hsuite hsealing.messageKey hsealing.nonce_length, ?_⟩
  rw [hsealing.attachmentKey]
  rfl

/-- The header of a decoded envelope whose fields pass. -/
def AcceptedHeader (reader : Reader) (header : CempEnvelopeHeaderV1) : Prop :=
  ∃ data envelope, Schema.CempEnvelopeV1.decode reader data = .ok envelope ∧
    envelope.header = header ∧ validateEnvelopeFields envelope = .ok

theorem acceptedHeader_iff (hreads : reader.Reads) {header : CempEnvelopeHeaderV1} :
    AcceptedHeader reader header ↔
      header.Valid ∧ ∃ aad, Schema.CempEnvelopeHeaderV1.encode reader header = .ok aad := by
  constructor
  · rintro ⟨data, envelope, hdecode, rfl, hfields⟩
    have hencode := (strictDecode_eq_ok_iff.1 hdecode).2
    have hrange := ((CempEnvelopeV1Codec_lawful hreads).inRange hencode).1.1
    obtain ⟨aad, haad⟩ := (CempEnvelopeHeaderV1Codec_lawful hreads).encodes hrange
    exact ⟨(validateEnvelopeFields_eq_ok_iff.1 hfields).1, aad, strictEncode_eq_ok_iff.2 haad⟩
  · rintro ⟨hvalid, aad, haad⟩
    obtain ⟨bytes, hbytes, -⟩ := envelope_encodes hreads ⟨header, List.replicate 1088 0,
      List.replicate 12 0, List.replicate 16 0⟩ haad List.length_replicate List.length_replicate
      (by simp [AES_256_GCM_TAG_BYTES])
    have hencode := strictEncode_eq_ok_iff.1 hbytes
    refine ⟨bytes, _, strictDecode_eq_ok_iff.2
      ⟨(CempEnvelopeV1Codec_lawful hreads).decodes hencode, hencode⟩, rfl, ?_⟩
    exact validateEnvelopeFields_eq_ok_iff.2 ⟨hvalid, List.length_replicate,
      List.length_replicate, List.length_replicate.ge⟩

/-- An accepted payload is sealed under any accepted header that matches it. -/
theorem sealing_exists (hreads : reader.Reads) (hsuite : suite.Correct) {entropy : Entropy}
    {params : EncryptEnvelopeParams} {payload : CempPayloadV1} {secretKey : Buffer}
    (hkeys : suite.KeyPair params.recipientKemPublicKey secretKey)
    (hpayload : validatePayload reader libraryText params.payload = .ok)
    (hheader : AcceptedHeader reader params.header)
    (hdecode : Schema.CempPayloadV1.decode reader params.payload = .ok payload)
    (hid : payload.message_id = params.header.message_id)
    (htype : payload.body_type = params.header.content_type)
    (hnonce : (params.nonce.getD entropy.nonce).length = AES_256_GCM_NONCE_BYTES)
    (hmessage : (params.kemMessage.getD entropy.kemMessage).length =
      ML_KEM_768_SIZES.sharedSecret) :
    ∃ sealed sharedSecret aad, sealed.envelopeBytes.length ≤ core.V1_LIMITS.maxEnvelopeBytes ∧
      Sealing suite reader libraryText entropy params sealed payload sharedSecret aad := by
  obtain ⟨cipherText, sharedSecret, hencapsulated, hcipher, -⟩ := hkeys.encapsulates _ hmessage
  obtain ⟨hvalidHeader, aad, haad⟩ := (acceptedHeader_iff hreads).1 hheader
  have hkey := deriveMessageKey_length hsuite sharedSecret (params.nonce.getD entropy.nonce)
    params.header.sender_profile_id payload.recipient_profile_id .MessageKey
  have hsealed := hsuite.gcm_length (deriveMessageKey suite sharedSecret
    (params.nonce.getD entropy.nonce) params.header.sender_profile_id payload.recipient_profile_id
    .MessageKey) (params.nonce.getD entropy.nonce) aad params.payload
  have hsize : params.payload.length ≤ core.V1_LIMITS.maxPayloadBytes := by
    obtain ⟨_, -, hfields⟩ := validatePayload_eq_ok_iff.1 hpayload
    exact payload_size_of_ok hfields
  obtain ⟨bytes, hbytes, hlimit⟩ := envelope_encodes hreads ⟨params.header, cipherText,
    params.nonce.getD entropy.nonce, _⟩ haad hcipher hnonce
    (hsealed.le.trans (Nat.add_le_add_right hsize _))
  have hvalid : validateEnvelope reader libraryText bytes = .ok := by
    have hencode := strictEncode_eq_ok_iff.1 hbytes
    refine validateEnvelope_eq_ok_iff.2 ⟨hlimit, _, strictDecode_eq_ok_iff.2
      ⟨(CempEnvelopeV1Codec_lawful hreads).decodes hencode, hencode⟩, ?_⟩
    refine validateEnvelopeFields_eq_ok_iff.2 ⟨hvalidHeader, hcipher, hnonce, ?_⟩
    exact (Nat.le_add_left 16 params.payload.length).trans hsealed.ge
  have hmessage' : ∀ kemMessage ∈ params.kemMessage,
      kemMessage.length = ML_KEM_768_SIZES.sharedSecret := by
    intro kemMessage hsome
    rw [Option.mem_def.1 hsome] at hmessage
    exact hmessage
  refine ⟨⟨bytes, cipherText, params.nonce.getD entropy.nonce, deriveMessageKey suite sharedSecret
    (params.nonce.getD entropy.nonce) params.header.sender_profile_id payload.recipient_profile_id
    .AttachmentKey⟩, sharedSecret, aad, hlimit, ?_⟩
  exact ⟨hkeys.publicKey_length, rfl, hnonce, hmessage', hdecode, hid, htype, hencapsulated,
    hcipher, haad, hkey, hbytes, hvalid, rfl⟩

/-- The key of a send, derived before its envelope, is the key of the envelope. -/
theorem deriveSendAttachmentKey_of_sealing (hreads : reader.Reads) {entropy : Entropy}
    {params : EncryptEnvelopeParams} {sealed : EncryptEnvelopeResult} {payload : CempPayloadV1}
    {sharedSecret aad : Buffer}
    (hmessage : (params.kemMessage.getD entropy.kemMessage).length = ML_KEM_768_SIZES.sharedSecret)
    (hsealing : Sealing suite reader libraryText entropy params sealed payload sharedSecret aad) :
    deriveSendAttachmentKey suite ⟨params.recipientKemPublicKey,
        params.kemMessage.getD entropy.kemMessage, sealed.nonce, params.header.sender_profile_id,
        payload.recipient_profile_id⟩ =
      .ok sealed.attachmentKey := by
  have hrecipient : payload.recipient_profile_id.length = 32 := by
    have hencode := (strictDecode_eq_ok_iff.1 hsealing.decoded).2
    exact ((CempPayloadV1Codec_lawful hreads).inRange hencode).1.2.2.1
  have hsender : params.header.sender_profile_id.length = 32 := by
    have hencode := strictEncode_eq_ok_iff.1 hsealing.header
    exact ((CempEnvelopeHeaderV1Codec_lawful hreads).inRange hencode).1.2.2.2.2.2.1
  unfold deriveSendAttachmentKey
  refine bind_eq_ok_iff.2 ⟨(), requireLength_eq_ok_iff.2 hsealing.publicKey, ?_⟩
  refine bind_eq_ok_iff.2 ⟨(), requireLength_eq_ok_iff.2 hmessage, ?_⟩
  refine bind_eq_ok_iff.2 ⟨(), requireLength_eq_ok_iff.2 hsealing.nonce_length, ?_⟩
  refine bind_eq_ok_iff.2 ⟨(), requireLength_eq_ok_iff.2 hsender, ?_⟩
  refine bind_eq_ok_iff.2 ⟨(), requireLength_eq_ok_iff.2 hrecipient, ?_⟩
  refine bind_eq_ok_iff.2 ⟨(_, sharedSecret), orThrow_eq_ok_iff.2 hsealing.encapsulated, ?_⟩
  rw [hsealing.attachmentKey]
  rfl

/-! ### What a seal is bound to -/

theorem aad_injective (hreads : reader.Reads) {header header' : CempEnvelopeHeaderV1}
    {aad : Buffer} (h : Schema.CempEnvelopeHeaderV1.encode reader header = .ok aad)
    (h' : Schema.CempEnvelopeHeaderV1.encode reader header' = .ok aad) : header = header' := by
  have hdecode := (CempEnvelopeHeaderV1Codec_lawful hreads).decodes (strictEncode_eq_ok_iff.1 h)
  have hdecode' := (CempEnvelopeHeaderV1Codec_lawful hreads).decodes (strictEncode_eq_ok_iff.1 h')
  exact Except.ok.inj (hdecode.symm.trans hdecode')

theorem keyInput_recipient_injective {sharedSecret nonce senderProfileId recipientProfileId
    recipientProfileId' : Buffer} {domain : MessageKeyDomain}
    (h : keyInput sharedSecret nonce senderProfileId recipientProfileId domain =
      keyInput sharedSecret nonce senderProfileId recipientProfileId' domain) :
    recipientProfileId = recipientProfileId' :=
  List.append_cancel_left (congrArg KeyInput.info h)

end Steps

/-! ### A sample -/

/-- Primitives without any secrecy that keep the promises. -/
def sampleSuite : Suite where
  encapsulate _ message := some (message ++ List.replicate 1056 0, message)
  decapsulate cipherText _ := some (cipherText.take 32)
  hkdf ikm salt info length := (ikm ++ salt ++ info ++ List.replicate length 0).take length
  gcmEncrypt _ _ _ plaintext := plaintext ++ List.replicate 16 0
  gcmDecrypt _ _ _ ciphertext := some (ciphertext.take (ciphertext.length - 16))

theorem sampleSuite_correct : sampleSuite.Correct where
  hkdf_length ikm salt info length := by
    change ((ikm ++ salt ++ info ++ List.replicate length 0).take length).length = length
    rw [List.length_take, List.length_append, List.length_replicate]
    omega
  gcm_length key nonce aad plaintext := by
    change (plaintext ++ List.replicate 16 0).length = plaintext.length + 16
    rw [List.length_append, List.length_replicate]
  gcm_opens key nonce aad plaintext _ _ := by
    change some ((plaintext ++ List.replicate 16 0).take
      ((plaintext ++ List.replicate 16 0).length - 16)) = some plaintext
    rw [List.length_append, List.length_replicate, Nat.add_sub_cancel, List.take_left]

def samplePublicKey : Buffer := List.replicate 1184 1
def sampleSecretKey : Buffer := List.replicate 2400 2

theorem sampleSuite_keyPair : sampleSuite.KeyPair samplePublicKey sampleSecretKey where
  publicKey_length := List.length_replicate
  secretKey_length := List.length_replicate
  encapsulates message hmessage := by
    have hmessage : message.length = 32 := hmessage
    refine ⟨_, _, rfl, ?_, ?_⟩
    · rw [List.length_append, hmessage, List.length_replicate]
      rfl
    · have htake : (message ++ List.replicate 1056 0).take 32 = message := by
        rw [← hmessage, List.take_left]
      exact congrArg some htake

def samplePayload : CempPayloadV1 where
  message_id := List.replicate 16 3
  body_type := 1
  recipient_profile_id := List.replicate 32 4
  text := some [104, 105]
  attachment_manifests := []
  reply_to_message_id := none
  reply_to_outpoint := none
  receipts := [⟨List.replicate 16 5, 3⟩]
  receipt_request := 1
  client_timestamp := 1700000000
  sender_device_id := List.replicate 16 6
  padding := [7]

def sampleHeader : CempEnvelopeHeaderV1 where
  protocol_version := 1
  network := 1
  content_type := 1
  message_id := List.replicate 16 3
  conversation_id := List.replicate 32 8
  sender_profile_id := List.replicate 32 9
  created_at_client := 1700000000
  reply_to_message_id := none
  expiry_hint := 0

theorem sampleHeader_accepted : AcceptedHeader offsetReader sampleHeader := by
  refine (acceptedHeader_iff offsetReader_reads).2 ⟨⟨rfl, rfl, by decide⟩, ?_⟩
  have hencodes : ((CempEnvelopeHeaderV1Codec offsetReader).encode sampleHeader).toBool = true := by
    decide +kernel
  cases hencode : (CempEnvelopeHeaderV1Codec offsetReader).encode sampleHeader with
  | error fault => simp [hencode, Except.toBool] at hencodes
  | ok bytes => exact ⟨bytes, strictEncode_eq_ok_iff.2 hencode⟩

theorem samplePayload_accepted : ∃ bytes,
    Schema.CempPayloadV1.decode offsetReader bytes = .ok samplePayload ∧
      validatePayload offsetReader "" bytes = .ok := by
  have haccepted : ((CempPayloadV1Codec offsetReader).encode samplePayload).toOption.map
      (validatePayload offsetReader "") = some .ok := by
    decide +kernel
  cases hencode : (CempPayloadV1Codec offsetReader).encode samplePayload with
  | error fault => simp [hencode, Except.toOption] at haccepted
  | ok bytes =>
    rw [hencode] at haccepted
    exact ⟨bytes, strictDecode_eq_ok_iff.2
      ⟨(CempPayloadV1Codec_lawful offsetReader_reads).decodes hencode, hencode⟩,
      Option.some.inj haccepted⟩

end cemp.crypto
