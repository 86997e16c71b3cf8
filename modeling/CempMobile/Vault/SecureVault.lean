import CempMobile.Core.Codec
import CempMobile.Lib.Heap

open cemp.core

namespace cemp.vault

inductive VaultState where
  | uninitialized | locked | unlocked
  deriving DecidableEq, Repr

inductive VaultErrorCode where
  | wrong_password | locked | not_initialized | already_initialized | biometric_denied
  | keystore_error
  deriving DecidableEq, Repr

/-- The errors of the vault and of the key derivation under it. -/
inductive VaultError where
  | coded (code : VaultErrorCode) (message : String)
  | crypto (message : String)
  deriving DecidableEq, Repr

def BIP39_SEED_BYTES : Nat := 64

/-- The local-database key of a seed. `deriveSubSeed` is the key derivation function under the
    database's domain. -/
def deriveLocalDatabaseKey (deriveSubSeed : Bytes → Bytes) (bip39Seed : Bytes) :
    Except VaultError Bytes :=
  if bip39Seed.length ≠ BIP39_SEED_BYTES then
    .error (.crypto ("deriveLocalDatabaseKey: bip39Seed length " ++ toString bip39Seed.length ++
      " != " ++ toString BIP39_SEED_BYTES))
  else .ok (deriveSubSeed bip39Seed)

/-- The vault: what its file seals, and the buffers that are live while it is unlocked. -/
structure SecureVault where
  /-- The seed the vault file holds encrypted, when there is a file. -/
  file : Option Bytes
  state : VaultState
  buffers : Heap Bytes
  /-- References into `buffers`. -/
  seed : Option Nat
  dbKey : Option Nat
  /-- How often the vault was unlocked. It is here for the specifications. -/
  sessions : Nat

/-- An opened vault over existing storage. -/
def SecureVault.open (file : Option Bytes) : SecureVault :=
  ⟨file, if file.isNone then .uninitialized else .locked, .empty [], none, none, 0⟩

/-- `buffer.fill(0)`. -/
def zeroed (bytes : Bytes) : Bytes := List.replicate bytes.length 0

def fillZero (buffers : Heap Bytes) : Option Nat → Heap Bytes
  | none => buffers
  | some r => buffers.set r (zeroed (buffers.get r))

namespace SecureVault

/-- Zeroes the live key material and drops it. -/
def clearLiveState (v : SecureVault) : SecureVault :=
  { v with buffers := fillZero (fillZero v.buffers v.seed) v.dbKey, seed := none, dbKey := none }

/-- Enters the unlocked state with a decrypted seed. -/
def setUnlocked (v : SecureVault) (seed : Bytes) : SecureVault :=
  let cleared := v.clearLiveState
  let allocated := cleared.buffers.alloc seed
  { cleared with
    buffers := allocated.2
    seed := some allocated.1
    state := .unlocked
    sessions := v.sessions + 1 }

/-- Creates a vault from a new or an imported mnemonic. The keystore has to wrap the database
    key before anything is stored. -/
def buildVault (v : SecureVault) (seed : Bytes) (wraps : Bool) :
    Except VaultError Unit × SecureVault :=
  if v.file.isSome ∨ v.state ≠ .uninitialized then
    (.error (.coded .already_initialized "a vault already exists; wipe it first"), v)
  else if ¬wraps then
    (.error (.coded .keystore_error "platform keystore failed to wrap the database key"), v)
  else (.ok (), { v with file := some seed }.setUnlocked seed)

/-- Unlocks the vault when the password, or the biometric prompt, authenticates. -/
def unlockBy (denied : VaultError) (v : SecureVault) (authenticated : Bool) :
    Except VaultError Unit × SecureVault :=
  match v.file with
  | none => (.error (.coded .not_initialized "no vault exists on this install"), v)
  | some seed => if authenticated then (.ok (), v.setUnlocked seed) else (.error denied, v)

def unlock : SecureVault → Bool → Except VaultError Unit × SecureVault :=
  unlockBy (.coded .wrong_password "vault password authentication failed")

def unlockWithBiometrics : SecureVault → Bool → Except VaultError Unit × SecureVault :=
  unlockBy (.coded .biometric_denied "biometric authentication failed")

def lock (v : SecureVault) : SecureVault :=
  let cleared := v.clearLiveState
  { cleared with state := if v.state = .unlocked then .locked else v.state }

def assertUnlocked (v : SecureVault) : Except VaultError Unit :=
  match v.state with
  | .uninitialized => .error (.coded .not_initialized "no vault exists on this install")
  | .locked => .error (.coded .locked "the vault is locked")
  | .unlocked => .ok ()

/-- The cached database key, derived from the live seed on the first call. The caller borrows
    the buffer the vault keeps. -/
def getDatabaseKey (deriveSubSeed : Bytes → Bytes) (v : SecureVault) :
    Except VaultError Nat × SecureVault :=
  match v.assertUnlocked with
  | .error e => (.error e, v)
  | .ok _ =>
    match v.dbKey with
    | some r => (.ok r, v)
    | none =>
      match v.seed with
      | none => (.error (.crypto "the seed is not live"), v)
      | some seed =>
        match deriveLocalDatabaseKey deriveSubSeed (v.buffers.get seed) with
        | .error e => (.error e, v)
        | .ok key =>
          let allocated := v.buffers.alloc key
          (.ok allocated.1, { v with buffers := allocated.2, dbKey := some allocated.1 })

/-- Deletes everything. The state only changes when the keystore deletes its key as well. -/
def wipe (v : SecureVault) (deletesKey : Bool) : Except VaultError Unit × SecureVault :=
  let cleared := { v.clearLiveState with file := none }
  if deletesKey then (.ok (), { cleared with state := .uninitialized })
  else (.error (.coded .keystore_error "platform keystore failed to delete its key"), cleared)

end SecureVault

end cemp.vault
