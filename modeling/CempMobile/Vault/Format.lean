import CempMobile.Core.Codec
import CempMobile.Core.Json

open cemp.core

namespace cemp.secureVault

/-! Vault file format v1: the document, its text, and the strict parser. -/

inductive VaultErrorCode where
  | wrong_password | locked | not_initialized | already_initialized | corrupt_vault
  | invalid_mnemonic | biometric_unavailable | biometric_denied | kdf_params_out_of_range
  | keystore_error
  deriving DecidableEq, Repr

/-- Errors of the vault, of the cryptography under it, and of its storage, key store and KDF
    engine, whose texts are their own. -/
inductive VaultError where
  | coded (code : VaultErrorCode) (message : String)
  | crypto (message : String)
  | external
  deriving DecidableEq, Repr

/-- A number of the runtime. -/
inductive Number where
  | finite (value : ℚ)
  | notFinite
  deriving DecidableEq

/-- `Number.isInteger`, and within bounds. -/
def Number.isIntegerIn (min max : Nat) : Number → Bool
  | .finite value => value.den = 1 && (min : ℚ) ≤ value && value ≤ max
  | .notFinite => false

def Number.value : Number → ℚ
  | .finite value => value
  | .notFinite => 0

def MAX_SAFE_INTEGER : Nat := 2 ^ 53 - 1

def VAULT_FORMAT_VERSION : Nat := 1
def VAULT_FILE_MAX_BYTES : Nat := 65536
def BIOMETRIC_BLOB_MAX_BYTES : Nat := 512
def VEK_BYTES : Nat := 32
def VEK_WRAP_BYTES : Nat := VEK_BYTES + 16
def AES_GCM_NONCE_BYTES : Nat := 12
def SEED_BYTES : Nat := 64

/-- Parameters of the password derivation, as the file records them. -/
inductive KdfParams where
  | argon2id (m t p : Number) (salt : Bytes)
  | scrypt (logN r p : Number) (salt : Bytes)
  deriving DecidableEq

inductive KdfAlgorithm where
  | argon2id
  | scrypt
  deriving DecidableEq, Repr

def KdfParams.alg : KdfParams → KdfAlgorithm
  | .argon2id .. => .argon2id
  | .scrypt .. => .scrypt

def KdfParams.salt : KdfParams → Bytes
  | .argon2id _ _ _ salt => salt
  | .scrypt _ _ _ salt => salt

/-- The same algorithm and costs under another salt. -/
def KdfParams.withSalt (salt : Bytes) : KdfParams → KdfParams
  | .argon2id m t p _ => .argon2id m t p salt
  | .scrypt logN r p _ => .scrypt logN r p salt

inductive VaultWordCount where
  | twelve
  | twentyFour
  deriving DecidableEq, Repr

def VaultWordCount.toNat : VaultWordCount → Nat
  | .twelve => 12
  | .twentyFour => 24

def VaultWordCount.entropyBytes : VaultWordCount → Nat
  | .twelve => 16
  | .twentyFour => 32

structure WrapSlot where
  nonce : Bytes
  wrappedVek : Bytes
  deriving DecidableEq, Repr

structure BiometricWrapSlot where
  nonce : Option Bytes
  wrappedVek : Bytes
  deriving DecidableEq, Repr

structure VaultFileMeta where
  createdAt : Number
  wordCount : VaultWordCount
  hasPassphrase : Bool
  autoLockSeconds : Number
  deriving DecidableEq

structure VaultPayload where
  nonce : Bytes
  ct : Bytes
  deriving DecidableEq, Repr

/-- What the payload's encryption authenticates. -/
structure VaultHeader where
  kdf : KdfParams
  passwordSlot : WrapSlot
  biometricSlot : Option BiometricWrapSlot
  deriving DecidableEq

/-- Parsed vault file. Its version is always `VAULT_FORMAT_VERSION`. -/
structure VaultFileV1 extends VaultHeader where
  payload : VaultPayload
  fileMeta : VaultFileMeta
  deriving DecidableEq

/-! ### Key derivation parameters -/

def kdfFail {α : Type} (detail : String) : Except VaultError α :=
  .error (.coded .kdf_params_out_of_range ("vault KDF parameters out of range: " ++ detail))

def validateKdfParams (params : KdfParams) : Except VaultError Unit :=
  if params.salt.length < 8 ∨ 64 < params.salt.length then kdfFail "salt length"
  else
    match params with
    | .argon2id m t p _ =>
      if m.isIntegerIn 8 1048576 && t.isIntegerIn 1 16 && p.isIntegerIn 1 8 &&
          decide (8 * p.value ≤ m.value) then .ok ()
      else kdfFail "argon2id m/t/p"
    | .scrypt logN r p _ =>
      if logN.isIntegerIn 1 20 && r.isIntegerIn 1 8 && p.isIntegerIn 1 8 then .ok ()
      else kdfFail "scrypt logN/r/p"

/-- Creation-time selection of the algorithm and its costs. -/
inductive KdfOptions where
  | argon2id (m t p : Option Number)
  | scrypt (logN r p : Option Number)
  deriving DecidableEq

def resolveKdfParams (options : Option KdfOptions) (salt : Bytes) : KdfParams :=
  match options with
  | some (.scrypt logN r p) =>
    .scrypt (logN.getD (.finite 17)) (r.getD (.finite 8)) (p.getD (.finite 1)) salt
  | some (.argon2id m t p) =>
    .argon2id (m.getD (.finite 65536)) (t.getD (.finite 3)) (p.getD (.finite 1)) salt
  | none => .argon2id (.finite 65536) (.finite 3) (.finite 1) salt

/-! ### Secret payload codec -/

structure VaultSecretPayload where
  entropy : Bytes
  seed : Bytes
  hasPassphrase : Bool
  deriving DecidableEq, Repr

/-- `entropyLen(1) ‖ entropy ‖ seed(64) ‖ flag(1)`. -/
def encodeSecretPayload (payload : VaultSecretPayload) : Except VaultError Bytes :=
  if payload.entropy.length ≠ 16 ∧ payload.entropy.length ≠ 32 then
    .error (.coded .corrupt_vault "secret payload entropy must be 16 or 32 bytes")
  else if payload.seed.length ≠ SEED_BYTES then
    .error (.coded .corrupt_vault
      ("secret payload seed must be " ++ toString SEED_BYTES ++ " bytes"))
  else .ok (UInt8.ofNat payload.entropy.length :: (payload.entropy ++ payload.seed ++
    [if payload.hasPassphrase then 1 else 0]))

def fail {α : Type} (detail : String) : Except VaultError α :=
  .error (.coded .corrupt_vault ("vault file is not a valid v1 document: " ++ detail))

/-- Strict inverse of `encodeSecretPayload`. -/
def decodeSecretPayload (bytes : Bytes) : Except VaultError VaultSecretPayload :=
  match bytes with
  | [] => fail "secret payload has an invalid entropy length"
  | first :: rest =>
    if first.toNat ≠ 16 ∧ first.toNat ≠ 32 then
      fail "secret payload has an invalid entropy length"
    else if bytes.length ≠ 1 + first.toNat + SEED_BYTES + 1 then
      fail "secret payload has an invalid total length"
    else
      let flag := bytes.getLastD 0
      if flag ≠ 0 ∧ flag ≠ 1 then fail "secret payload has an invalid passphrase flag"
      else .ok
        { entropy := rest.take first.toNat
          seed := (rest.drop first.toNat).take SEED_BYTES
          hasPassphrase := decide (flag = 1) }

def secretPayloadBytes (wordCount : VaultWordCount) : Nat :=
  1 + wordCount.entropyBytes + SEED_BYTES + 1

/-! ### Canonical wire form -/

def hexChars (bytes : Bytes) : List Char :=
  bytes.flatMap fun b => [Nat.digitChar (b.toNat / 16), Nat.digitChar (b.toNat % 16)]

def hexJson (bytes : Bytes) : Json := .string (String.ofList (hexChars bytes))

/-- A number as it comes back from the text: what is not finite is written as null. -/
def Number.toWire : Number → Json
  | .finite value => .number value
  | .notFinite => .null

def kdfToWire : KdfParams → Json
  | .argon2id m t p salt => .object
      [("alg", .string "argon2id"), ("m", m.toWire), ("t", t.toWire), ("p", p.toWire),
        ("salt", hexJson salt)]
  | .scrypt logN r p salt => .object
      [("alg", .string "scrypt"), ("logN", logN.toWire), ("r", r.toWire), ("p", p.toWire),
        ("salt", hexJson salt)]

/-- The nonce is written only when present. -/
def slotToWire (nonce : Option Bytes) (wrappedVek : Bytes) : Json :=
  match nonce with
  | some nonce => .object [("nonce", hexJson nonce), ("wrappedVek", hexJson wrappedVek)]
  | none => .object [("wrappedVek", hexJson wrappedVek)]

def biometricToWire : Option BiometricWrapSlot → Json
  | none => .null
  | some slot => slotToWire slot.nonce slot.wrappedVek

def headerToWire (header : VaultHeader) : List (String × Json) :=
  [("version", .number VAULT_FORMAT_VERSION),
    ("kdf", kdfToWire header.kdf),
    ("passwordSlot", slotToWire (some header.passwordSlot.nonce) header.passwordSlot.wrappedVek),
    ("biometricSlot", biometricToWire header.biometricSlot)]

def metaToWire (fileMeta : VaultFileMeta) : Json := .object
  [("createdAt", fileMeta.createdAt.toWire),
    ("wordCount", .number fileMeta.wordCount.toNat),
    ("hasPassphrase", .bool fileMeta.hasPassphrase),
    ("autoLockSeconds", fileMeta.autoLockSeconds.toWire)]

/-- The document of a vault file. Storage keeps its text, which spells it. -/
def serializeVaultFile (file : VaultFileV1) : Json := .object
  (headerToWire file.toVaultHeader ++
    [("payload", .object [("nonce", hexJson file.payload.nonce), ("ct", hexJson file.payload.ct)]),
      ("meta", metaToWire file.fileMeta)])

/-! ### The text of a document -/

/-- A character of a string literal of the text. -/
def quoteChar (c : Char) : List Char :=
  if c = '"' then ['\\', '"']
  else if c = '\\' then ['\\', '\\']
  else if c.toNat = 8 then ['\\', 'b']
  else if c.toNat = 9 then ['\\', 't']
  else if c.toNat = 10 then ['\\', 'n']
  else if c.toNat = 12 then ['\\', 'f']
  else if c.toNat = 13 then ['\\', 'r']
  else if c.toNat < 32 then
    ['\\', 'u', '0', '0', Nat.digitChar (c.toNat / 16), Nat.digitChar (c.toNat % 16)]
  else [c]

def quote (text : String) : List Char := '"' :: (text.toList.flatMap quoteChar ++ ['"'])

/-- Integers of up to twenty-one digits are written in full. How other numbers are written is the
    runtime's matter. -/
def numberText (otherNumberText : ℚ → List Char) (value : ℚ) : List Char :=
  if value.den = 1 ∧ 0 ≤ value.num ∧ value.num < 10 ^ 21 then Nat.toDigits 10 value.num.toNat
  else otherNumberText value

mutual

/-- `JSON.stringify`. -/
def stringify (otherNumberText : ℚ → List Char) : Json → List Char
  | .null => ['n', 'u', 'l', 'l']
  | .bool true => ['t', 'r', 'u', 'e']
  | .bool false => ['f', 'a', 'l', 's', 'e']
  | .number value => numberText otherNumberText value
  | .infinite => ['n', 'u', 'l', 'l']
  | .string value => quote value
  | .array items => '[' :: (stringifyItems otherNumberText items ++ [']'])
  | .object fields => '\x7b' :: (stringifyFields otherNumberText fields ++ ['\x7d'])

def stringifyItems (otherNumberText : ℚ → List Char) : List Json → List Char
  | [] => []
  | [item] => stringify otherNumberText item
  | item :: items => stringify otherNumberText item ++ ',' :: stringifyItems otherNumberText items

def stringifyFields (otherNumberText : ℚ → List Char) : List (String × Json) → List Char
  | [] => []
  | [(name, value)] => quote name ++ ':' :: stringify otherNumberText value
  | (name, value) :: fields =>
    quote name ++ ':' :: (stringify otherNumberText value ++
      ',' :: stringifyFields otherNumberText fields)

end

/-- `textEncoder.encode`. -/
def textBytes (text : List Char) : Bytes := text.flatMap String.utf8EncodeChar

/-- The bytes of a document's text. -/
def documentBytes (otherNumberText : ℚ → List Char) (document : Json) : Bytes :=
  textBytes (stringify otherNumberText document)

/-- The authenticated data of the payload: the canonical text of the header. -/
def payloadAad (otherNumberText : ℚ → List Char) (header : VaultHeader) : Bytes :=
  documentBytes otherNumberText (.object (headerToWire header))

/-! ### Parse -/

def expectObject (value : Json) (detail : String) : Except VaultError (List (String × Json)) :=
  match value with
  | .object fields => .ok fields
  | _ => fail (detail ++ " must be an object")

def expectUint (value : Json) (detail : String) (min max : Nat) : Except VaultError Number :=
  let refused : Except VaultError Number :=
    fail (detail ++ " must be an integer in [" ++ toString min ++ ", " ++ toString max ++ "]")
  match value with
  | .number q => if (Number.finite q).isIntegerIn min max then .ok (.finite q) else refused
  | _ => refused

def expectBool (value : Json) (detail : String) : Except VaultError Bool :=
  match value with
  | .bool b => .ok b
  | _ => fail (detail ++ " must be a boolean")

def expectObjectField (fields : List (String × Json)) (field detail : String) :
    Except VaultError Json :=
  match fields.lookup field with
  | some value => .ok value
  | none => fail (detail ++ " is missing \"" ++ field ++ "\"")

def hexDigit? (c : Char) : Option Nat :=
  if '0' ≤ c ∧ c ≤ '9' then some (c.toNat - '0'.toNat)
  else if 'a' ≤ c ∧ c ≤ 'f' then some (c.toNat - 'a'.toNat + 10)
  else none

/-- Pairs of lowercase digits. -/
def hexPairs : List Char → Option Bytes
  | [] => some []
  | [_] => none
  | high :: low :: rest => do
    let high ← hexDigit? high
    let low ← hexDigit? low
    let bytes ← hexPairs rest
    return UInt8.ofNat (16 * high + low) :: bytes

def hexToBytes (value : Json) (detail : String) : Except VaultError Bytes :=
  let refused : Except VaultError Bytes := fail (detail ++ " must be lowercase even-length hex")
  match value with
  | .string hex =>
    match hexPairs hex.toList with
    | some bytes => .ok bytes
    | none => refused
  | _ => refused

def expectHexField (fields : List (String × Json)) (field detail : String) :
    Except VaultError Bytes := do
  let value ← expectObjectField fields field detail
  hexToBytes value (detail ++ "." ++ field)

/-- A field that has to be an integer in a range. -/
def expectUintField (fields : List (String × Json)) (field detail : String) (min max : Nat) :
    Except VaultError Number := do
  let value ← expectObjectField fields field detail
  expectUint value (detail ++ "." ++ field) min max

def parseKdf (value : Json) : Except VaultError KdfParams := do
  let obj ← expectObject value "kdf"
  let alg ← expectObjectField obj "alg" "kdf"
  let salt ← expectHexField obj "salt" "kdf"
  let params ← match alg with
    | .string "argon2id" => do
      let m ← expectUintField obj "m" "kdf" 1 MAX_SAFE_INTEGER
      let t ← expectUintField obj "t" "kdf" 1 MAX_SAFE_INTEGER
      let p ← expectUintField obj "p" "kdf" 1 MAX_SAFE_INTEGER
      pure (KdfParams.argon2id m t p salt)
    | .string "scrypt" => do
      let logN ← expectUintField obj "logN" "kdf" 1 63
      let r ← expectUintField obj "r" "kdf" 1 MAX_SAFE_INTEGER
      let p ← expectUintField obj "p" "kdf" 1 MAX_SAFE_INTEGER
      pure (KdfParams.scrypt logN r p salt)
    | _ => fail "kdf.alg is not a supported algorithm"
  validateKdfParams params
  return params

def parsePasswordSlot (value : Json) : Except VaultError WrapSlot := do
  let obj ← expectObject value "passwordSlot"
  let nonce ← expectHexField obj "nonce" "passwordSlot"
  let wrappedVek ← expectHexField obj "wrappedVek" "passwordSlot"
  if nonce.length ≠ AES_GCM_NONCE_BYTES then fail "passwordSlot.nonce has an invalid length"
  else if wrappedVek.length ≠ VEK_WRAP_BYTES then
    fail "passwordSlot.wrappedVek has an invalid length"
  else return ⟨nonce, wrappedVek⟩

def parseBiometricSlot (value : Json) : Except VaultError (Option BiometricWrapSlot) :=
  match value with
  | .null => .ok none
  | value => do
    let obj ← expectObject value "biometricSlot"
    let wrappedVek ← expectHexField obj "wrappedVek" "biometricSlot"
    if wrappedVek.length < 16 ∨ BIOMETRIC_BLOB_MAX_BYTES < wrappedVek.length then
      fail "biometricSlot.wrappedVek has an invalid length"
    else
      match obj.lookup "nonce" with
      | some value => do
        let nonce ← hexToBytes value "biometricSlot.nonce"
        if nonce.length ≠ AES_GCM_NONCE_BYTES then fail "biometricSlot.nonce has an invalid length"
        else return some ⟨some nonce, wrappedVek⟩
      | none => return some ⟨none, wrappedVek⟩

def parseWordCount (fields : List (String × Json)) : Except VaultError VaultWordCount := do
  let wordCountRaw ← expectUintField fields "wordCount" "meta" 12 24
  if wordCountRaw = .finite 12 then return .twelve
  else if wordCountRaw = .finite 24 then return .twentyFour
  else fail "meta.wordCount must be 12 or 24"

def parseMeta (fields : List (String × Json)) : Except VaultError VaultFileMeta := do
  let wordCount ← parseWordCount fields
  let createdAt ← expectUintField fields "createdAt" "meta" 0 MAX_SAFE_INTEGER
  let hasPassphraseRaw ← expectObjectField fields "hasPassphrase" "meta"
  let hasPassphrase ← expectBool hasPassphraseRaw "meta.hasPassphrase"
  let autoLockSeconds ← expectUintField fields "autoLockSeconds" "meta" 1 2147483
  return ⟨createdAt, wordCount, hasPassphrase, autoLockSeconds⟩

/-- The checks of a stored document, whose text has `byteLength` bytes. -/
def parseDocument (byteLength : Nat) (raw : Json) : Except VaultError VaultFileV1 := do
  if VAULT_FILE_MAX_BYTES < byteLength then
    fail ("file is " ++ toString byteLength ++ " bytes, above the " ++
      toString VAULT_FILE_MAX_BYTES ++ "-byte cap")
  else
    let obj ← expectObject raw "vault file"
    let version ← expectObjectField obj "version" "vault file"
    let _ ← expectUint version "version" 1 1
    let kdfRaw ← expectObjectField obj "kdf" "vault file"
    let kdf ← parseKdf kdfRaw
    let passwordSlotRaw ← expectObjectField obj "passwordSlot" "vault file"
    let passwordSlot ← parsePasswordSlot passwordSlotRaw
    let biometricSlotRaw ← expectObjectField obj "biometricSlot" "vault file"
    let biometricSlot ← parseBiometricSlot biometricSlotRaw
    let payloadRaw ← expectObjectField obj "payload" "vault file"
    let payloadObj ← expectObject payloadRaw "payload"
    let payloadNonce ← expectHexField payloadObj "nonce" "payload"
    let ct ← expectHexField payloadObj "ct" "payload"
    if payloadNonce.length ≠ AES_GCM_NONCE_BYTES then
      fail "payload.nonce has an invalid length"
    else
      let metaRaw ← expectObjectField obj "meta" "vault file"
      let metaObj ← expectObject metaRaw "meta"
      let fileMeta ← parseMeta metaObj
      if ct.length ≠ secretPayloadBytes fileMeta.wordCount + 16 then
        fail "payload.ct length is inconsistent with meta.wordCount"
      else return ⟨⟨kdf, passwordSlot, biometricSlot⟩, ⟨payloadNonce, ct⟩, fileMeta⟩

def parseVaultFile (otherNumberText : ℚ → List Char) (document : Json) :
    Except VaultError VaultFileV1 :=
  parseDocument (documentBytes otherNumberText document).length document

/-- What storage holds under a name: the text of a document, or bytes that spell none. -/
inductive Stored where
  | document (document : Json)
  | bytes (content : Bytes)

def parseStored (otherNumberText : ℚ → List Char) : Stored → Except VaultError VaultFileV1
  | .document document => parseVaultFile otherNumberText document
  | .bytes content =>
    if VAULT_FILE_MAX_BYTES < content.length then
      fail ("file is " ++ toString content.length ++ " bytes, above the " ++
        toString VAULT_FILE_MAX_BYTES ++ "-byte cap")
    else fail "not valid JSON"

end cemp.secureVault
