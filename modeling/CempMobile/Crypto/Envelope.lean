import CempMobile.Core.Validate

open Molecule mol cemp.core.codec

namespace cemp.crypto

/-! The encryption of envelopes: both sides, and the attachment key of a send. -/

/-- What the envelope functions fail with: an error of their own, or one of the codec. -/
inductive EnvelopeError where
  | cempCrypto (message : String)
  | codec (error : CempCodecError)
  deriving DecidableEq, Repr

/-- ML-KEM-768, HKDF-SHA-256 and AES-256-GCM, as the libraries provide them. -/
structure Suite where
  /-- The ciphertext and the shared secret of a message, none when it throws. -/
  encapsulate (publicKey message : Buffer) : Option (Buffer × Buffer)
  decapsulate (cipherText secretKey : Buffer) : Option Buffer
  hkdf (ikm salt info : Buffer) (length : Nat) : Buffer
  gcmEncrypt (key nonce aad plaintext : Buffer) : Buffer
  gcmDecrypt (key nonce aad ciphertext : Buffer) : Option Buffer

namespace ML_KEM_768_SIZES

def publicKey : Nat := 1184
def secretKey : Nat := 2400
def ciphertext : Nat := 1088
def sharedSecret : Nat := 32

end ML_KEM_768_SIZES

def AES_256_KEY_BYTES : Nat := 32
def AES_256_GCM_NONCE_BYTES : Nat := 12
def AES_256_GCM_TAG_BYTES : Nat := 16
def PROFILE_ID_BYTES : Nat := 32

def requireLength (label : String) (value : Buffer) (expected : Nat) : Except EnvelopeError Unit :=
  if value.length ≠ expected then
    .error (.cempCrypto (label ++ " is " ++ toString value.length ++ " bytes, expected " ++
      toString expected))
  else .ok ()

/-- What the library gave, or an error when it threw. -/
def orThrow {α : Type} (result : Option α) (message : String) : Except EnvelopeError α :=
  match result with
  | some value => .ok value
  | none => .error (.cempCrypto message)

def ofCodec {α : Type} : Except CempCodecError α → Except EnvelopeError α
  | .ok value => .ok value
  | .error error => .error (.codec error)

/-! ### Keys -/

inductive MessageKeyDomain where
  | MessageKey
  | AttachmentKey

def MessageKeyDomain.bytes : MessageKeyDomain → Buffer
  | MessageKey => "CEMP-MESSAGE-KEY-V1".toUTF8.toList
  | AttachmentKey => "CEMP-ATTACHMENT-KEY-V1".toUTF8.toList

/-- What a key is derived from. -/
structure KeyInput where
  ikm : Buffer
  salt : Buffer
  info : Buffer
  deriving DecidableEq, Repr

def keyInput (sharedSecret nonce senderProfileId recipientProfileId : Buffer)
    (domain : MessageKeyDomain) : KeyInput where
  ikm := sharedSecret
  salt := nonce
  info := domain.bytes ++ senderProfileId ++ recipientProfileId

section Functions

variable (suite : Suite)

def deriveMessageKey (sharedSecret nonce senderProfileId recipientProfileId : Buffer)
    (domain : MessageKeyDomain) : Buffer :=
  let input := keyInput sharedSecret nonce senderProfileId recipientProfileId domain
  suite.hkdf input.ikm input.salt input.info 32

def checkKeyAndNonce (key nonce : Buffer) : Except EnvelopeError Unit :=
  if key.length ≠ AES_256_KEY_BYTES then
    .error (.cempCrypto ("aes256Gcm: key length " ++ toString key.length ++ " != " ++
      toString AES_256_KEY_BYTES))
  else if nonce.length ≠ AES_256_GCM_NONCE_BYTES then
    .error (.cempCrypto ("aes256Gcm: nonce length " ++ toString nonce.length ++ " != " ++
      toString AES_256_GCM_NONCE_BYTES))
  else .ok ()

def aes256GcmEncrypt (key nonce plaintext aad : Buffer) : Except EnvelopeError Buffer := do
  checkKeyAndNonce key nonce
  return suite.gcmEncrypt key nonce aad plaintext

def aes256GcmDecrypt (key nonce ciphertextWithTag aad : Buffer) : Except EnvelopeError Buffer := do
  checkKeyAndNonce key nonce
  if ciphertextWithTag.length < AES_256_GCM_TAG_BYTES then
    .error (.cempCrypto ("aes256Gcm: ciphertext is " ++ toString ciphertextWithTag.length ++
      " bytes, shorter than the " ++ toString AES_256_GCM_TAG_BYTES ++ "-byte tag"))
  else
    orThrow (suite.gcmDecrypt key nonce aad ciphertextWithTag) "AES-256-GCM authentication failed"

structure DeriveSendAttachmentKeyParams where
  recipientKemPublicKey : Buffer
  kemMessage : Buffer
  nonce : Buffer
  senderProfileId : Buffer
  recipientProfileId : Buffer

/-- The attachment key of a send, before its envelope is sealed. -/
def deriveSendAttachmentKey (params : DeriveSendAttachmentKeyParams) :
    Except EnvelopeError Buffer := do
  requireLength "recipientKemPublicKey" params.recipientKemPublicKey ML_KEM_768_SIZES.publicKey
  requireLength "kemMessage" params.kemMessage ML_KEM_768_SIZES.sharedSecret
  requireLength "nonce" params.nonce AES_256_GCM_NONCE_BYTES
  requireLength "senderProfileId" params.senderProfileId 32
  requireLength "recipientProfileId" params.recipientProfileId 32
  let (_, sharedSecret) ← orThrow
    (suite.encapsulate params.recipientKemPublicKey params.kemMessage)
    "ML-KEM-768 encapsulation failed"
  return deriveMessageKey suite sharedSecret params.nonce params.senderProfileId
    params.recipientProfileId .AttachmentKey

/-! ### Encryption -/

variable (reader : Reader) (libraryText : String)

/-- What the generator draws where a caller fixes nothing. -/
structure Entropy where
  nonce : Buffer
  kemMessage : Buffer

structure EncryptEnvelopeParams where
  payload : Buffer
  recipientKemPublicKey : Buffer
  header : CempEnvelopeHeaderV1
  nonce : Option Buffer
  kemMessage : Option Buffer

structure EncryptEnvelopeResult where
  envelopeBytes : Buffer
  kemCiphertext : Buffer
  nonce : Buffer
  attachmentKey : Buffer

/-- The payload, whose message id and body type have to be those of the header. -/
def checkedPayload (payload : Buffer) (header : CempEnvelopeHeaderV1) :
    Except EnvelopeError CempPayloadV1 :=
  match Schema.CempPayloadV1.decode reader payload with
  | .error _ =>
    .error (.cempCrypto "encryptEnvelope: payload is not a canonical CempPayloadV1 encoding")
  | .ok decodedPayload =>
    if decodedPayload.message_id ≠ header.message_id then
      .error (.cempCrypto "encryptEnvelope: payload message_id does not match header message_id")
    else if decodedPayload.body_type ≠ header.content_type then
      .error (.cempCrypto "encryptEnvelope: payload body_type does not match header content_type")
    else .ok decodedPayload

/-- The gate of the sender: what is published has to pass the check of the recipient. -/
def checkedEnvelope (envelopeBytes : Buffer) : Except EnvelopeError Unit :=
  match validateEnvelope reader libraryText envelopeBytes with
  | .ok => .ok ()
  | .fail reason =>
    .error (.cempCrypto ("encryptEnvelope produced an invalid envelope: " ++ reason))

def encryptEnvelope (entropy : Entropy) (params : EncryptEnvelopeParams) :
    Except EnvelopeError EncryptEnvelopeResult := do
  let header := params.header
  requireLength "recipientKemPublicKey" params.recipientKemPublicKey ML_KEM_768_SIZES.publicKey
  let nonce := params.nonce.getD entropy.nonce
  requireLength "nonce" nonce AES_256_GCM_NONCE_BYTES
  (params.kemMessage.map fun kemMessage =>
    requireLength "kemMessage" kemMessage ML_KEM_768_SIZES.sharedSecret).getD (.ok ())
  let decodedPayload ← checkedPayload reader params.payload header
  let (cipherText, sharedSecret) ← orThrow
    (suite.encapsulate params.recipientKemPublicKey (params.kemMessage.getD entropy.kemMessage))
    "ML-KEM-768 encapsulation failed"
  requireLength "internal kemCiphertext" cipherText ML_KEM_768_SIZES.ciphertext
  let messageKey := deriveMessageKey suite sharedSecret nonce header.sender_profile_id
    decodedPayload.recipient_profile_id .MessageKey
  let aad ← ofCodec (Schema.CempEnvelopeHeaderV1.encode reader header)
  let encryptedPayload ← aes256GcmEncrypt suite messageKey nonce params.payload aad
  let attachmentKey := deriveMessageKey suite sharedSecret nonce header.sender_profile_id
    decodedPayload.recipient_profile_id .AttachmentKey
  let envelopeBytes ← ofCodec
    (Schema.CempEnvelopeV1.encode reader ⟨header, cipherText, nonce, encryptedPayload⟩)
  checkedEnvelope reader libraryText envelopeBytes
  return ⟨envelopeBytes, cipherText, nonce, attachmentKey⟩

/-! ### Decryption -/

structure DecryptEnvelopeParams where
  envelopeBytes : Buffer
  recipientKemSecretKey : Buffer
  ownProfileId : Buffer

structure DecryptEnvelopeResult where
  header : CempEnvelopeHeaderV1
  payloadBytes : Buffer
  attachmentKey : Buffer

/-- The check that runs before any key is used. -/
def preDecryptCheck (envelopeBytes : Buffer) : Except EnvelopeError Unit :=
  match validateEnvelope reader libraryText envelopeBytes with
  | .ok => .ok ()
  | .fail reason =>
    .error (.cempCrypto ("envelope rejected by pre-decrypt validation: " ++ reason))

def decryptEnvelope (params : DecryptEnvelopeParams) :
    Except EnvelopeError DecryptEnvelopeResult := do
  preDecryptCheck reader libraryText params.envelopeBytes
  let (envelope : CempEnvelopeV1) ←
    ofCodec (Schema.CempEnvelopeV1.decode reader params.envelopeBytes)
  requireLength "recipientKemSecretKey" params.recipientKemSecretKey ML_KEM_768_SIZES.secretKey
  requireLength "ownProfileId" params.ownProfileId PROFILE_ID_BYTES
  let sharedSecret ← orThrow
    (suite.decapsulate envelope.kem_ciphertext params.recipientKemSecretKey)
    "ML-KEM-768 decapsulation failed"
  let messageKey := deriveMessageKey suite sharedSecret envelope.nonce
    envelope.header.sender_profile_id params.ownProfileId .MessageKey
  let aad ← ofCodec (Schema.CempEnvelopeHeaderV1.encode reader envelope.header)
  let payloadBytes ← aes256GcmDecrypt suite messageKey envelope.nonce envelope.encrypted_payload aad
  let attachmentKey := deriveMessageKey suite sharedSecret envelope.nonce
    envelope.header.sender_profile_id params.ownProfileId .AttachmentKey
  return ⟨envelope.header, payloadBytes, attachmentKey⟩

end Functions

/-! ### What the libraries promise -/

/-- Keys have the length asked for, and what AES-256-GCM sealed, with a 16-byte tag, opens again. -/
structure Suite.Correct (suite : Suite) : Prop where
  hkdf_length : ∀ ikm salt info length, (suite.hkdf ikm salt info length).length = length
  gcm_length : ∀ key nonce aad plaintext,
    (suite.gcmEncrypt key nonce aad plaintext).length = plaintext.length + AES_256_GCM_TAG_BYTES
  gcm_opens : ∀ key nonce aad plaintext, key.length = AES_256_KEY_BYTES →
    nonce.length = AES_256_GCM_NONCE_BYTES →
    suite.gcmDecrypt key nonce aad (suite.gcmEncrypt key nonce aad plaintext) = some plaintext

/-- A pair of ML-KEM-768 keys: what is encapsulated to one is decapsulated by the other. -/
structure Suite.KeyPair (suite : Suite) (publicKey secretKey : Buffer) : Prop where
  publicKey_length : publicKey.length = ML_KEM_768_SIZES.publicKey
  secretKey_length : secretKey.length = ML_KEM_768_SIZES.secretKey
  encapsulates : ∀ message, message.length = ML_KEM_768_SIZES.sharedSecret →
    ∃ cipherText sharedSecret, suite.encapsulate publicKey message = some (cipherText, sharedSecret) ∧
      cipherText.length = ML_KEM_768_SIZES.ciphertext ∧
      suite.decapsulate cipherText secretKey = some sharedSecret

end cemp.crypto
