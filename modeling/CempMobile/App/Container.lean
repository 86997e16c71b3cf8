import CempMobile.Vault.SecureVault

open cemp.core cemp.vault

namespace cemp.app

inductive AppContainerState where
  | uninitialized | locked | ready
  deriving DecidableEq, Repr

/-- The errors of a container operation: the vault's, or one of the platform under it. -/
inductive AppError where
  | vault (e : VaultError)
  | platform (message : String)
  deriving DecidableEq, Repr

/-- A key that was handed to `OpSqlCipherAdapter.open`, with the vault's seed and session. -/
structure Opening where
  key : Bytes
  seed : Option Bytes
  session : Nat
  deriving DecidableEq, Repr

/-- The container: its vault, the key of its database handle when it has one, what is built
    over the handle, and the openings so far. -/
structure AppContainer where
  vault : SecureVault
  db : Option Bytes
  repositories : Bool
  messaging : Bool
  state : AppContainerState
  openings : List Opening

namespace AppContainer

def containerState (vault : SecureVault) : AppContainerState :=
  if vault.state = .uninitialized then .uninitialized else .locked

/-- A started app over a vault file. -/
def init (file : Option Bytes) : AppContainer :=
  let vault := SecureVault.open file
  ⟨vault, none, false, false, containerState vault, []⟩

/-- Opens the database under the vault's key, unless it is open, and wipes the borrowed key.
    `opens` and `migrates` tell whether the adapter opens and whether the migration runs: under
    a wrong key it does not. -/
def openDatabase (deriveSubSeed : Bytes → Bytes) (opens migrates : Bool) (c : AppContainer) :
    Except AppError Unit × AppContainer :=
  if c.db.isSome then (.ok (), c)
  else
    match c.vault.getDatabaseKey deriveSubSeed with
    | (.error e, vault) => (.error (.vault e), { c with vault := vault })
    | (.ok dbKey, vault) =>
      let key := vault.buffers.get dbKey
      let wiped : AppContainer :=
        { c with
          vault := { vault with buffers := fillZero vault.buffers (some dbKey) }
          openings := c.openings ++ [⟨key, vault.file, vault.sessions⟩] }
      if ¬opens then (.error (.platform "the database did not open"), wiped)
      else if ¬migrates then
        (.error (.platform "the migration failed"), { wiped with db := some key })
      else (.ok (), { wiped with db := some key, repositories := true })

/-- Called after create, import and unlock. `initializes` tells whether the messaging service
    starts. -/
def afterVaultUnlock (deriveSubSeed : Bytes → Bytes) (opens migrates initializes : Bool)
    (c : AppContainer) : Except AppError Unit × AppContainer :=
  if c.vault.state ≠ .unlocked then (.ok (), { c with state := containerState c.vault })
  else
    match c.openDatabase deriveSubSeed opens migrates with
    | (.error e, c) => (.error e, c)
    | (.ok _, c) =>
      if c.messaging then (.ok (), { c with state := .ready })
      else if ¬initializes then (.error (.platform "the messaging service did not start"), c)
      else (.ok (), { c with messaging := true, state := .ready })

def closeDatabase (closes : Bool) (c : AppContainer) : Except AppError Unit × AppContainer :=
  let disposed := { c with messaging := false, repositories := false }
  if c.db.isNone then (.ok (), disposed)
  else if ¬closes then (.error (.platform "the database did not close"), disposed)
  else (.ok (), { disposed with db := none })

/-- Deletes the database file. Without a live handle one is taken under a throwaway key. -/
def resetLocalData (destroys : Bool) (c : AppContainer) : Except AppError Unit × AppContainer :=
  let reset := { c with messaging := false, repositories := false, db := none }
  if destroys then (.ok (), reset) else (.error (.platform "the database was not deleted"), reset)

def lock (closes : Bool) (c : AppContainer) : Except AppError Unit × AppContainer :=
  match { c with vault := c.vault.lock }.closeDatabase closes with
  | (.error e, c) => (.error e, c)
  | (.ok _, c) => (.ok (), { c with state := .locked })

/-- The poll found the vault locked by its inactivity timer. -/
def handleExternalLock (closes : Bool) (c : AppContainer) : Except AppError Unit × AppContainer :=
  match c.closeDatabase closes with
  | (.error e, c) => (.error e, c)
  | (.ok _, c) => (.ok (), { c with state := containerState c.vault })

def wipe (destroys deletesKey : Bool) (c : AppContainer) : Except AppError Unit × AppContainer :=
  match c.resetLocalData destroys with
  | (.error e, c) => (.error e, c)
  | (.ok _, c) =>
    match c.vault.wipe deletesKey with
    | (.error e, vault) => (.error (.vault e), { c with vault := vault })
    | (.ok _, vault) => (.ok (), { c with vault := vault, state := .uninitialized })

/-- What the screens and the timers do to the app, with what the platform answers. -/
inductive Operation where
  | buildVault (seed : Bytes) (wraps : Bool)
  | unlock (authenticated : Bool)
  | unlockWithBiometrics (authenticated : Bool)
  | afterVaultUnlock (opens migrates initializes : Bool)
  | resetLocalData (destroys : Bool)
  | lock (closes : Bool)
  | autoLock
  | handleExternalLock (closes : Bool)
  | wipe (destroys deletesKey : Bool)
  deriving DecidableEq, Repr

/-- The app after an operation, whether it succeeded or threw. -/
def step (deriveSubSeed : Bytes → Bytes) (c : AppContainer) : Operation → AppContainer
  | .buildVault seed wraps => { c with vault := (c.vault.buildVault seed wraps).2 }
  | .unlock authenticated => { c with vault := (c.vault.unlock authenticated).2 }
  | .unlockWithBiometrics authenticated =>
    { c with vault := (c.vault.unlockWithBiometrics authenticated).2 }
  | .afterVaultUnlock opens migrates initializes =>
    (c.afterVaultUnlock deriveSubSeed opens migrates initializes).2
  | .resetLocalData destroys => (c.resetLocalData destroys).2
  | .lock closes => (c.lock closes).2
  | .autoLock => { c with vault := c.vault.lock }
  | .handleExternalLock closes => (c.handleExternalLock closes).2
  | .wipe destroys deletesKey => (c.wipe destroys deletesKey).2

/-- The app after a sequence of operations. -/
def run (deriveSubSeed : Bytes → Bytes) (c : AppContainer) (operations : List Operation) :
    AppContainer :=
  operations.foldl (step deriveSubSeed) c

end AppContainer

end cemp.app
