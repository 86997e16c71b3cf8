import CempMobile.Lib.Program
import CempMobile.Vault.Format

open cemp.core

namespace cemp.secureVault

/-! The vault: what it keeps in memory, the calls it makes, and its methods. -/

inductive VaultState where
  | locked
  | unlocked
  | uninitialized
  deriving DecidableEq, Repr

/-- The deadline of the inactivity timer: so many seconds after it was armed. -/
structure Deadline where
  armedAt : Number
  seconds : Number
  deriving DecidableEq

/-- The fields of the vault object. A timer is armed whenever there is a deadline. -/
structure Memory where
  state : VaultState
  vek : Option Bytes
  seed : Option Bytes
  dbKey : Option Bytes
  autoLockSeconds : Number
  autoLockDeadline : Option Deadline
  deriving DecidableEq

def DEFAULT_AUTO_LOCK_SECONDS : Number := .finite 300
def MAX_AUTO_LOCK_SECONDS : ℚ := 3600
def KDF_SALT_BYTES : Nat := 16

def clampAutoLockSeconds : Number → Number
  | .finite seconds => .finite (min seconds MAX_AUTO_LOCK_SECONDS)
  | .notFinite => .notFinite

namespace Memory

def clearLiveState (m : Memory) : Memory := { m with vek := none, seed := none, dbKey := none }

def clearAutoLockTimer (m : Memory) : Memory := { m with autoLockDeadline := none }

def startAutoLockTimer (m : Memory) (now : Number) : Memory :=
  { m with autoLockDeadline := some ⟨now, m.autoLockSeconds⟩ }

def setUnlocked (m : Memory) (vek seed : Bytes) (autoLockSeconds now : Number) : Memory :=
  { m.clearLiveState with
    vek := some vek
    seed := some seed
    autoLockSeconds := autoLockSeconds
    state := .unlocked }.startAutoLockTimer now

end Memory

/-- What a method does to the vault object at once, between two of its awaits. -/
inductive Change where
  | setUnlocked (vek seed : Bytes) (autoLockSeconds : Number)
  | lock
  | touch
  | clear
  | setUninitialized
  | cacheDatabaseKey (key : Bytes)

def Change.apply (now : Number) : Change → Memory → Memory
  | .setUnlocked vek seed autoLockSeconds, m => m.setUnlocked vek seed autoLockSeconds now
  | .lock, m =>
    { m.clearAutoLockTimer.clearLiveState with
      state := if m.state = .unlocked then .locked else m.state }
  | .touch, m => if m.state = .unlocked then m.startAutoLockTimer now else m
  | .clear, m => m.clearAutoLockTimer.clearLiveState
  | .setUninitialized, m => { m with state := .uninitialized }
  | .cacheDatabaseKey key, m => { m with dbKey := some key }

inductive StorageName where
  | vaultFile
  | databaseKey
  deriving DecidableEq, Repr

/-- The calls of a method: to storage, the key store, the KDF engine, the clock and the random
    generator, and its accesses to the vault object. -/
inductive VaultOp : Type → Type where
  | read (name : StorageName) : VaultOp (Option Stored)
  | write (name : StorageName) (content : Stored) : VaultOp Unit
  | delete (name : StorageName) : VaultOp Unit
  | wrap (key : Option Bytes) (biometric : Bool) : VaultOp Bytes
  | unwrap (blob : Bytes) : VaultOp Bytes
  | isBiometricAvailable : VaultOp Bool
  | deleteKey : VaultOp Unit
  | deriveKek (password : String) (params : KdfParams) : VaultOp Bytes
  | randomBytes (count : Nat) : VaultOp Bytes
  | now : VaultOp Number
  | memory : VaultOp Memory
  | update (change : Change) : VaultOp Unit

abbrev Vault (α : Type) : Type 1 := Program VaultOp VaultError α

/-- The cryptography that the methods call, and how the runtime writes numbers that are no
    integers. -/
structure Crypto where
  otherNumberText : ℚ → List Char
  gcmEncrypt (key nonce plaintext aad : Bytes) : Bytes
  gcmDecrypt (key nonce ciphertext aad : Bytes) : Option Bytes
  entropyToMnemonic : Bytes → Except VaultError String
  validateMnemonic : String → Bool
  mnemonicToEntropy : String → Option Bytes
  mnemonicToSeed (mnemonic : String) (passphrase : Option String) : Except VaultError Bytes
  deriveLocalDatabaseKey : Bytes → Except VaultError Bytes
  /-- `trim().toLowerCase()` -/
  normalizeAnswer : String → String

/-! ### AES-256-GCM -/

def AES_256_KEY_BYTES : Nat := 32
def AES_256_GCM_TAG_BYTES : Nat := 16

def checkKeyAndNonce (key nonce : Bytes) : Except VaultError Unit :=
  if key.length ≠ AES_256_KEY_BYTES then
    .error (.crypto ("aes256Gcm: key length " ++ toString key.length ++ " != " ++
      toString AES_256_KEY_BYTES))
  else if nonce.length ≠ AES_GCM_NONCE_BYTES then
    .error (.crypto ("aes256Gcm: nonce length " ++ toString nonce.length ++ " != " ++
      toString AES_GCM_NONCE_BYTES))
  else .ok ()

section Methods

variable (crypto : Crypto)

def aes256GcmEncrypt (key nonce plaintext aad : Bytes) : Except VaultError Bytes := do
  checkKeyAndNonce key nonce
  return crypto.gcmEncrypt key nonce plaintext aad

def aes256GcmDecrypt (key nonce ciphertextWithTag aad : Bytes) : Except VaultError Bytes := do
  checkKeyAndNonce key nonce
  if ciphertextWithTag.length < AES_256_GCM_TAG_BYTES then
    throw (.crypto ("aes256Gcm: ciphertext is " ++ toString ciphertextWithTag.length ++
      " bytes, shorter than the " ++ toString AES_256_GCM_TAG_BYTES ++ "-byte tag"))
  else
    match crypto.gcmDecrypt key nonce ciphertextWithTag aad with
    | some plaintext => return plaintext
    | none => throw (.crypto "AES-256-GCM authentication failed")

def PASSWORD_WRAP_AAD : Bytes := "CEMP/VAULT/wrap/password/v1".toUTF8.toList

/-- A reference to live key material, which is null unless it is live. -/
def deref (key : Option Bytes) : Except VaultError Bytes :=
  match key with
  | some key => .ok key
  | none => .error (.crypto "null is not a byte array")

/-! ### Internal -/

def wrongPassword : VaultError := .coded .wrong_password "vault password authentication failed"

/-- What a failed payload decryption is reported as. -/
inductive DecryptCode where
  | wrong_password
  | corrupt_vault

def DecryptCode.error : DecryptCode → VaultError
  | .wrong_password => wrongPassword
  | .corrupt_vault => .coded .corrupt_vault "vault payload authentication failed"

def readVaultFile : Vault VaultFileV1 := do
  match ← Program.perform (.read .vaultFile) with
  | none => throw (.coded .not_initialized "no vault exists on this install")
  | some stored => Program.ofExcept (parseStored crypto.otherNumberText stored)

def decryptPayloadBytes (file : VaultFileV1) (vek : Option Bytes) (code : DecryptCode) :
    Except VaultError Bytes :=
  let aad := payloadAad crypto.otherNumberText file.toVaultHeader
  let decrypted := do
    let key ← deref vek
    aes256GcmDecrypt crypto key file.payload.nonce file.payload.ct aad
  match decrypted with
  | .ok plaintext => .ok plaintext
  | .error _ => .error code.error

def decryptPayload (file : VaultFileV1) (vek : Option Bytes) (code : DecryptCode) :
    Except VaultError VaultSecretPayload := do
  let plaintext ← decryptPayloadBytes crypto file vek code
  decodeSecretPayload plaintext

/-- The vault key of a file, unwrapped under a key derived from a password. -/
def unwrapVek (file : VaultFileV1) (kek : Bytes) : Except VaultError Bytes :=
  match aes256GcmDecrypt crypto kek file.passwordSlot.nonce file.passwordSlot.wrappedVek
      PASSWORD_WRAP_AAD with
  | .ok vek => .ok vek
  | .error _ => .error wrongPassword

/-- A vault key, wrapped under a key derived from a password. -/
def wrapVek (kek nonce vek : Bytes) : Except VaultError WrapSlot := do
  let wrappedVek ← aes256GcmEncrypt crypto kek nonce vek PASSWORD_WRAP_AAD
  return ⟨nonce, wrappedVek⟩

/-- The payload, sealed under a vault key and bound to a header. -/
def sealPayload (vek nonce plaintext : Bytes) (header : VaultHeader) :
    Except VaultError VaultPayload := do
  let ct ← aes256GcmEncrypt crypto vek nonce plaintext
    (payloadAad crypto.otherNumberText header)
  return ⟨nonce, ct⟩

def assertUnlocked : Vault Memory := do
  let m ← Program.perform .memory
  match m.state with
  | .uninitialized => throw (.coded .not_initialized "no vault exists on this install")
  | .locked => throw (.coded .locked "the vault is locked")
  | .unlocked => return m

def requireVek : Vault (Option Bytes) := do
  let m ← assertUnlocked
  return m.vek

def requireSeed : Vault (Option Bytes) := do
  let m ← assertUnlocked
  return m.seed

def writeVaultFile (file : VaultFileV1) : Vault Unit :=
  Program.perform (.write .vaultFile (.document (serializeVaultFile file)))

/-! ### Creation -/

/-- Fixed byte inputs that make creation deterministic. -/
structure VaultFixedInputs where
  entropy : Option Bytes := none
  vek : Option Bytes := none
  kdfSalt : Option Bytes := none
  passwordSlotNonce : Option Bytes := none
  payloadNonce : Option Bytes := none
  createdAt : Option Number := none

structure CreateVaultOptions where
  kdf : Option KdfOptions := none
  autoLockSeconds : Option Number := none
  fixedInputs : VaultFixedInputs := {}

/-- A fixed input, or what the program answers when there is none. -/
def orElse {α : Type} (fixed : Option α) (fresh : Vault α) : Vault α :=
  match fixed with
  | some value => pure value
  | none => fresh

def randomBytes (count : Nat) : Vault Bytes := Program.perform (.randomBytes count)

def assertCanInitialize : Vault Unit := do
  let existing ← Program.perform (.read .vaultFile)
  let m ← Program.perform .memory
  if existing.isSome ∨ m.state ≠ .uninitialized then
    throw (.coded .already_initialized "a vault already exists; wipe it first")
  else return ()

/-- What creation has made before anything is stored. -/
structure PreparedVault where
  file : VaultFileV1
  vek : Bytes
  dbKeyBlob : Bytes

/-- The first part of creation: keys, the file, and the wrapped database key. -/
def prepareVault (payload : VaultSecretPayload) (wordCount : VaultWordCount) (password : String)
    (opts : CreateVaultOptions) : Vault PreparedVault := do
  let fixed := opts.fixedInputs
  let salt ← orElse fixed.kdfSalt (randomBytes KDF_SALT_BYTES)
  let kdf := resolveKdfParams opts.kdf salt
  Program.ofExcept (validateKdfParams kdf)
  let kek ← Program.perform (.deriveKek password kdf)
  let vek ← orElse fixed.vek (randomBytes VEK_BYTES)
  if vek.length ≠ VEK_BYTES then
    throw (.coded .corrupt_vault "fixed VEK has an invalid length")
  else
    let passwordSlotNonce ← orElse fixed.passwordSlotNonce (randomBytes AES_GCM_NONCE_BYTES)
    let passwordSlot ← Program.ofExcept (wrapVek crypto kek passwordSlotNonce vek)
    let header : VaultHeader := ⟨kdf, passwordSlot, none⟩
    let payloadNonce ← orElse fixed.payloadNonce (randomBytes AES_GCM_NONCE_BYTES)
    let payloadPlaintext ← Program.ofExcept (encodeSecretPayload payload)
    let sealed ← Program.ofExcept (sealPayload crypto vek payloadNonce payloadPlaintext header)
    let createdAt ← orElse fixed.createdAt (Program.perform .now)
    let fileMeta : VaultFileMeta :=
      { createdAt := createdAt
        wordCount := wordCount
        hasPassphrase := payload.hasPassphrase
        autoLockSeconds := opts.autoLockSeconds.getD DEFAULT_AUTO_LOCK_SECONDS }
    let dbKey ← Program.ofExcept (crypto.deriveLocalDatabaseKey payload.seed)
    let dbKeyBlob ← tryCatch (Program.perform (.wrap (some dbKey) false)) fun _ =>
      throw (.coded .keystore_error "platform keystore failed to wrap the database key")
    return ⟨⟨header, sealed, fileMeta⟩, vek, dbKeyBlob⟩

/-- Shared creation path for generate and import. Ends in the unlocked state. -/
def buildVault (payload : VaultSecretPayload) (wordCount : VaultWordCount) (password : String)
    (opts : CreateVaultOptions) : Vault Unit := do
  -- The database key is wrapped before anything is stored.
  let prepared ← prepareVault crypto payload wordCount password opts
  writeVaultFile prepared.file
  Program.perform (.write .databaseKey (.bytes prepared.dbKeyBlob))
  Program.perform
    (.update (.setUnlocked prepared.vek payload.seed prepared.file.fileMeta.autoLockSeconds))

def createWithNewMnemonic (wordCount : VaultWordCount) (password : String)
    (opts : CreateVaultOptions) : Vault (List String) := do
  assertCanInitialize
  let entropy ← orElse opts.fixedInputs.entropy (randomBytes wordCount.entropyBytes)
  if entropy.length ≠ wordCount.entropyBytes then
    throw (.coded .invalid_mnemonic "fixed entropy does not match the word count")
  else
    let mnemonic ← Program.ofExcept (crypto.entropyToMnemonic entropy)
    let words := mnemonic.splitOn " "
    let seed ← Program.ofExcept (crypto.mnemonicToSeed (" ".intercalate words) none)
    buildVault crypto ⟨entropy, seed, false⟩ wordCount password opts
    return words

def invalidMnemonic : VaultError :=
  .coded .invalid_mnemonic "mnemonic failed wordlist/checksum validation"

/-- An empty passphrase is none. -/
def normalizePassphrase (passphrase : Option String) : Option String :=
  if passphrase = some "" then none else passphrase

def importMnemonic (words : List String) (password : String) (passphrase : Option String)
    (opts : CreateVaultOptions) : Vault Unit := do
  assertCanInitialize
  let joined := " ".intercalate words
  if !crypto.validateMnemonic joined then throw invalidMnemonic
  else
    match crypto.mnemonicToEntropy joined with
    | none => throw invalidMnemonic
    | some entropy =>
      if entropy.length ≠ 16 ∧ entropy.length ≠ 32 then
        throw (.coded .invalid_mnemonic "mnemonic must encode 16 or 32 bytes of entropy")
      else
        let wordCount := if entropy.length = 16 then VaultWordCount.twelve else .twentyFour
        let normalizedPassphrase := normalizePassphrase passphrase
        let seed ← Program.ofExcept (crypto.mnemonicToSeed joined normalizedPassphrase)
        buildVault crypto ⟨entropy, seed, normalizedPassphrase.isSome⟩ wordCount password opts

/-! ### Unlock -/

/-- What an opened file yields: the vault key and the secret payload. -/
structure OpenedVault where
  vek : Bytes
  payload : VaultSecretPayload

def openWithPassword (file : VaultFileV1) (password : String) : Vault OpenedVault := do
  let kek ← Program.perform (.deriveKek password file.kdf)
  let vek ← Program.ofExcept (unwrapVek crypto file kek)
  let payload ← Program.ofExcept (decryptPayload crypto file (some vek) .wrong_password)
  return ⟨vek, payload⟩

def openWithBiometrics (file : VaultFileV1) : Vault OpenedVault := do
  match file.biometricSlot with
  | none => throw (.coded .biometric_unavailable "biometric unlock is not enabled")
  | some slot => do
    let vek ← tryCatch (Program.perform (.unwrap slot.wrappedVek)) fun _ =>
      throw (.coded .biometric_denied "biometric authentication failed")
    if vek.length ≠ VEK_BYTES then
      throw (.coded .corrupt_vault "biometric unwrap returned an invalid VEK")
    else
      let payload ← Program.ofExcept (decryptPayload crypto file (some vek) .corrupt_vault)
      return ⟨vek, payload⟩

/-- The change that installs what a file yielded. -/
def install (file : VaultFileV1) (opened : OpenedVault) : Change :=
  .setUnlocked opened.vek opened.payload.seed (clampAutoLockSeconds file.fileMeta.autoLockSeconds)

def unlock (password : String) : Vault Unit := do
  let file ← readVaultFile crypto
  let opened ← openWithPassword crypto file password
  Program.perform (.update (install file opened))

def unlockWithBiometrics : Vault Unit := do
  let file ← readVaultFile crypto
  let opened ← openWithBiometrics crypto file
  Program.perform (.update (install file opened))

def lock : Vault Unit := Program.perform (.update .lock)

def touch : Vault Unit := Program.perform (.update .touch)

/-! ### Password-gated flows -/

def revealMnemonic (password : String) : Vault (List String) := do
  let file ← readVaultFile crypto
  let opened ← openWithPassword crypto file password
  let mnemonic ← Program.ofExcept (crypto.entropyToMnemonic opened.payload.entropy)
  return mnemonic.splitOn " "

/-- The file under another password: the same vault key in a new slot, and the payload sealed
    again, since the header that it authenticates changed. -/
def rewrapFile (file : VaultFileV1) (oldPassword newPassword : String) : Vault VaultFileV1 := do
  let oldKek ← Program.perform (.deriveKek oldPassword file.kdf)
  let vek ← Program.ofExcept (unwrapVek crypto file oldKek)
  -- Fresh salt and nonce, same algorithm and costs.
  let salt ← randomBytes KDF_SALT_BYTES
  let newKdf := file.kdf.withSalt salt
  let newKek ← Program.perform (.deriveKek newPassword newKdf)
  let newSlotNonce ← randomBytes AES_GCM_NONCE_BYTES
  let newPasswordSlot ← Program.ofExcept (wrapVek crypto newKek newSlotNonce vek)
  let payloadPlaintext ←
    Program.ofExcept (decryptPayloadBytes crypto file (some vek) .wrong_password)
  let newHeader : VaultHeader := ⟨newKdf, newPasswordSlot, file.biometricSlot⟩
  let newPayloadNonce ← randomBytes AES_GCM_NONCE_BYTES
  let newPayload ←
    Program.ofExcept (sealPayload crypto vek newPayloadNonce payloadPlaintext newHeader)
  return ⟨newHeader, newPayload, file.fileMeta⟩

def changePassword (oldPassword newPassword : String) : Vault Unit := do
  let file ← readVaultFile crypto
  let updated ← rewrapFile crypto file oldPassword newPassword
  writeVaultFile updated

/-! ### Biometrics -/

/-- The file with edited slots, its payload sealed again under the live vault key. -/
def resealFile (file : VaultFileV1) (passwordSlot : WrapSlot)
    (biometricSlot : Option BiometricWrapSlot) : Vault VaultFileV1 := do
  let vek ← requireVek
  let payloadPlaintext ← Program.ofExcept (decryptPayloadBytes crypto file vek .corrupt_vault)
  let header : VaultHeader := ⟨file.kdf, passwordSlot, biometricSlot⟩
  let payloadNonce ← randomBytes AES_GCM_NONCE_BYTES
  let key ← Program.ofExcept (deref vek)
  let payload ← Program.ofExcept (sealPayload crypto key payloadNonce payloadPlaintext header)
  return ⟨header, payload, file.fileMeta⟩

def rewriteSlots (file : VaultFileV1) (passwordSlot : WrapSlot)
    (biometricSlot : Option BiometricWrapSlot) : Vault Unit := do
  let updated ← resealFile crypto file passwordSlot biometricSlot
  writeVaultFile updated

/-- The vault key, wrapped by the key store behind a biometric prompt. -/
def wrapLiveVek : Vault Bytes :=
  tryCatch
    (do
      let vek ← requireVek
      Program.perform (.wrap vek true))
    fun _ => throw (.coded .keystore_error "platform keystore failed to wrap the VEK")

def enableBiometrics : Vault Unit := do
  let _ ← assertUnlocked
  let available ← Program.perform .isBiometricAvailable
  if !available then
    throw (.coded .biometric_unavailable "biometrics are not available on this device")
  else
    let file ← readVaultFile crypto
    if file.biometricSlot.isSome then return ()
    else
      let blob ← wrapLiveVek
      rewriteSlots crypto file file.passwordSlot (some ⟨none, blob⟩)

def disableBiometrics : Vault Unit := do
  let _ ← assertUnlocked
  let file ← readVaultFile crypto
  if file.biometricSlot.isNone then return ()
  else rewriteSlots crypto file file.passwordSlot none

/-! ### Key access -/

/-- The seed that is lent to the caller's function. -/
def withUnlockedSeed : Vault (Option Bytes) := do
  let _ ← assertUnlocked
  requireSeed

/-- Derives the database key from the live seed, and keeps it. -/
def deriveDatabaseKey : Vault Bytes := do
  let seed ← requireSeed
  let bytes ← Program.ofExcept (deref seed)
  let key ← Program.ofExcept (crypto.deriveLocalDatabaseKey bytes)
  Program.perform (.update (.cacheDatabaseKey key))
  return key

def getDatabaseKey : Vault Bytes := do
  let m ← assertUnlocked
  match m.dbKey with
  | some key => return key
  | none => deriveDatabaseKey crypto

def unwrapDatabaseKey : Vault Bytes := do
  let _ ← assertUnlocked
  match ← Program.perform (.read .databaseKey) with
  | none =>
    throw (.coded .keystore_error "wrapped database key is missing from storage")
  | some (.document document) =>
    tryCatch (Program.perform (.unwrap (documentBytes crypto.otherNumberText document))) fun _ =>
      throw (.coded .keystore_error "platform keystore failed to unwrap the database key")
  | some (.bytes blob) =>
    tryCatch (Program.perform (.unwrap blob)) fun _ =>
      throw (.coded .keystore_error "platform keystore failed to unwrap the database key")

/-! ### Quiz -/

def mnemonicWordsWhileUnlocked : Vault (List String) := do
  let file ← readVaultFile crypto
  let vek ← requireVek
  let payload ← Program.ofExcept (decryptPayload crypto file vek .corrupt_vault)
  let mnemonic ← Program.ofExcept (crypto.entropyToMnemonic payload.entropy)
  return mnemonic.splitOn " "

def swap (pool : List Nat) (i j : Nat) : List Nat :=
  (pool.set i (pool.getD j 0)).set j (pool.getD i 0)

/-- A partial Fisher-Yates shuffle of positions, from position `i` on. -/
def shuffle : Nat → Nat → List Nat → Vault (List Nat)
  | 0, _, pool => pure pool
  | count + 1, i, pool => do
    let bytes ← randomBytes 1
    let j := i + (bytes.headD 0).toNat % (pool.length - i)
    shuffle count (i + 1) (swap pool i j)

/-- The one-based positions of a quiz, ascending. -/
def generateMnemonicQuiz (wordCount : Nat) : Vault (List Nat) := do
  let _ ← assertUnlocked
  let words ← mnemonicWordsWhileUnlocked crypto
  let count := min (max 1 wordCount) words.length
  let pool ← shuffle count 0 (List.range words.length)
  return ((pool.take count).map (· + 1)).mergeSort

def verifyMnemonicQuiz (positions : List Nat) (answers : List String) : Vault Bool := do
  let _ ← assertUnlocked
  if answers.length ≠ positions.length then return false
  else
    let words ← mnemonicWordsWhileUnlocked crypto
    return (positions.zip answers).all fun (position, answer) =>
      decide (1 ≤ position) && decide (position ≤ words.length) &&
        words[position - 1]? == some (crypto.normalizeAnswer answer)

/-! ### Wipe -/

def wipe : Vault Unit := do
  Program.perform (.update .clear)
  Program.perform (.delete .vaultFile)
  Program.perform (.delete .databaseKey)
  tryCatch (Program.perform .deleteKey) fun _ =>
    throw (.coded .keystore_error "platform keystore failed to delete its key")
  Program.perform (.update .setUninitialized)

structure VaultMetadata where
  createdAt : Number
  kdfAlgorithm : KdfAlgorithm
  biometricEnabled : Bool
  autoLockSeconds : Number
  wordCount : VaultWordCount
  hasPassphrase : Bool

def getMetadata : Vault VaultMetadata := do
  let file ← readVaultFile crypto
  return {
    createdAt := file.fileMeta.createdAt
    kdfAlgorithm := file.kdf.alg
    biometricEnabled := file.biometricSlot.isSome
    autoLockSeconds := clampAutoLockSeconds file.fileMeta.autoLockSeconds
    wordCount := file.fileMeta.wordCount
    hasPassphrase := file.fileMeta.hasPassphrase }

end Methods

end cemp.secureVault
