import CempMobile.Lib.Calls
import CempMobile.Vault.Impl

open cemp.core

namespace cemp.secureVault

/-! What surrounds the vault: its object, and the storage under it. -/

structure World where
  memory : Memory
  storage : StorageName → Option Stored

def World.write (w : World) (name : StorageName) (content : Option Stored) : World :=
  { w with storage := fun other => if other = name then content else w.storage other }

/-- What the calls of a method do to the vault object. Whatever is awaited may answer anything,
    and may throw. -/
def memoryEffect : Program.Effect VaultOp VaultError Memory
  | _, .memory, m, r, m' => r = .ok m ∧ m' = m
  | _, .update change, m, r, m' => r = .ok () ∧ ∃ now, m' = change.apply now m
  | _, _, m, _, m' => m' = m

/-- What they do to the vault object and to storage. A storage call that throws changed nothing. -/
def storageEffect : Program.Effect VaultOp VaultError World
  | _, .memory, w, r, w' => r = .ok w.memory ∧ w' = w
  | _, .update change, w, r, w' =>
    r = .ok () ∧ ∃ now, w' = { w with memory := change.apply now w.memory }
  | _, .read name, w, r, w' => (r = .ok (w.storage name) ∨ ∃ e, r = .error e) ∧ w' = w
  | _, .write name content, w, r, w' =>
    (r = .ok () ∧ w' = w.write name (some content)) ∨ ∃ e, r = .error e ∧ w' = w
  | _, .delete name, w, r, w' =>
    (r = .ok () ∧ w' = w.write name none) ∨ ∃ e, r = .error e ∧ w' = w
  | _, _, w, _, w' => w' = w

/-- The vault object as `open` makes it. -/
def Memory.opened (stored : Bool) : Memory :=
  ⟨if stored then .locked else .uninitialized, none, none, none, DEFAULT_AUTO_LOCK_SECONDS, none⟩

/-! ### Quiet programs -/

/-- Calls that leave the vault object and storage as they are. -/
def Quiet : ∀ β : Type, VaultOp β → Prop
  | _, .write _ _ => False
  | _, .delete _ => False
  | _, .update _ => False
  | _, _ => True

theorem Quiet.storage {β : Type} {op : VaultOp β} {w w' : World} {r : Except VaultError β}
    (hquiet : Quiet β op) (h : storageEffect β op w r w') : w' = w := by
  cases op with
  | memory => exact h.2
  | read name => exact h.2
  | update change => exact hquiet.elim
  | write name content => exact hquiet.elim
  | delete name => exact hquiet.elim
  | wrap key biometric => exact h
  | unwrap blob => exact h
  | isBiometricAvailable => exact h
  | deleteKey => exact h
  | deriveKek password params => exact h
  | randomBytes count => exact h
  | now => exact h

section Quiet

variable {crypto : Crypto}

theorem performs_quiet {α : Type} {op : VaultOp α} (h : Quiet α op) :
    Program.Uses Quiet (Program.perform op : Vault α) :=
  Program.uses_perform.2 h

theorem ofExcept_quiet {α : Type} (r : Except VaultError α) :
    Program.Uses Quiet (Program.ofExcept r : Vault α) := by
  cases r <;> trivial

theorem readVaultFile_quiet : Program.Uses Quiet (readVaultFile crypto) := by
  refine Program.Uses.bind ⟨trivial, fun r => ofExcept_quiet r⟩ fun stored => ?_
  cases stored with
  | none => trivial
  | some stored => exact ofExcept_quiet _

theorem orElse_quiet {α : Type} {fixed : Option α} {fresh : Vault α}
    (h : Program.Uses Quiet fresh) : Program.Uses Quiet (orElse fixed fresh) := by
  cases fixed with
  | none => exact h
  | some value => trivial

theorem assertCanInitialize_quiet : Program.Uses Quiet assertCanInitialize := by
  refine (performs_quiet (by trivial)).bind fun existing => ?_
  refine (performs_quiet (by trivial)).bind fun m => ?_
  split <;> trivial

theorem prepareVault_quiet (payload : VaultSecretPayload) (wordCount : VaultWordCount)
    (password : String) (opts : CreateVaultOptions) :
    Program.Uses Quiet (prepareVault crypto payload wordCount password opts) := by
  unfold prepareVault
  refine (orElse_quiet (performs_quiet (by trivial))).bind fun salt => ?_
  refine (ofExcept_quiet _).bind fun _ => ?_
  refine (performs_quiet (by trivial)).bind fun kek => ?_
  refine (orElse_quiet (performs_quiet (by trivial))).bind fun vek => ?_
  split
  · trivial
  · refine (orElse_quiet (performs_quiet (by trivial))).bind fun passwordSlotNonce => ?_
    refine (ofExcept_quiet _).bind fun passwordSlot => ?_
    refine (orElse_quiet (performs_quiet (by trivial))).bind fun payloadNonce => ?_
    refine (ofExcept_quiet _).bind fun payloadPlaintext => ?_
    refine (ofExcept_quiet _).bind fun sealed => ?_
    refine (orElse_quiet (performs_quiet (by trivial))).bind fun createdAt => ?_
    refine (ofExcept_quiet _).bind fun dbKey => ?_
    refine Program.Uses.bind ((performs_quiet (by trivial)).catchError fun _ => trivial) fun blob =>
      trivial

theorem openWithPassword_quiet (file : VaultFileV1) (password : String) :
    Program.Uses Quiet (openWithPassword crypto file password) := by
  refine (performs_quiet (by trivial)).bind fun kek => ?_
  refine (ofExcept_quiet _).bind fun vek => ?_
  exact (ofExcept_quiet _).bind fun payload => trivial

theorem openWithBiometrics_quiet (file : VaultFileV1) :
    Program.Uses Quiet (openWithBiometrics crypto file) := by
  unfold openWithBiometrics
  split
  · trivial
  · refine Program.Uses.bind ((performs_quiet (by trivial)).catchError fun _ => trivial) fun vek => ?_
    split
    · trivial
    · exact (ofExcept_quiet _).bind fun payload => trivial

theorem revealMnemonic_quiet (password : String) :
    Program.Uses Quiet (revealMnemonic crypto password) := by
  refine readVaultFile_quiet.bind fun file => ?_
  refine (openWithPassword_quiet _ _).bind fun opened => ?_
  exact (ofExcept_quiet _).bind fun mnemonic => trivial

theorem rewrapFile_quiet (file : VaultFileV1) (oldPassword newPassword : String) :
    Program.Uses Quiet (rewrapFile crypto file oldPassword newPassword) := by
  refine (performs_quiet (by trivial)).bind fun oldKek => ?_
  refine (ofExcept_quiet _).bind fun vek => ?_
  refine (performs_quiet (by trivial)).bind fun salt => ?_
  refine (performs_quiet (by trivial)).bind fun newKek => ?_
  refine (performs_quiet (by trivial)).bind fun newSlotNonce => ?_
  refine (ofExcept_quiet _).bind fun newPasswordSlot => ?_
  refine (ofExcept_quiet _).bind fun payloadPlaintext => ?_
  refine (performs_quiet (by trivial)).bind fun newPayloadNonce => ?_
  exact (ofExcept_quiet _).bind fun newPayload => trivial

theorem assertUnlocked_quiet : Program.Uses Quiet assertUnlocked := by
  refine (performs_quiet (by trivial)).bind fun m => ?_
  split <;> trivial

theorem requireVek_quiet : Program.Uses Quiet requireVek :=
  assertUnlocked_quiet.bind fun _ => trivial

theorem resealFile_quiet (file : VaultFileV1) (passwordSlot : WrapSlot)
    (biometricSlot : Option BiometricWrapSlot) :
    Program.Uses Quiet (resealFile crypto file passwordSlot biometricSlot) := by
  refine requireVek_quiet.bind fun vek => ?_
  refine (ofExcept_quiet _).bind fun payloadPlaintext => ?_
  refine (performs_quiet (by trivial)).bind fun payloadNonce => ?_
  refine (ofExcept_quiet _).bind fun key => ?_
  exact (ofExcept_quiet _).bind fun payload => trivial

theorem wrapLiveVek_quiet : Program.Uses Quiet wrapLiveVek := by
  refine Program.Uses.catchError ?_ fun _ => trivial
  exact requireVek_quiet.bind fun vek => performs_quiet (by trivial)

theorem unwrapDatabaseKey_quiet : Program.Uses Quiet (unwrapDatabaseKey crypto) := by
  refine assertUnlocked_quiet.bind fun _ => ?_
  refine (performs_quiet (by trivial)).bind fun stored => ?_
  split
  · trivial
  · exact (performs_quiet (by trivial)).catchError fun _ => trivial
  · exact (performs_quiet (by trivial)).catchError fun _ => trivial

theorem mnemonicWordsWhileUnlocked_quiet :
    Program.Uses Quiet (mnemonicWordsWhileUnlocked crypto) := by
  refine readVaultFile_quiet.bind fun file => ?_
  refine requireVek_quiet.bind fun vek => ?_
  refine (ofExcept_quiet _).bind fun payload => ?_
  exact (ofExcept_quiet _).bind fun mnemonic => trivial

theorem shuffle_quiet (count i : Nat) (pool : List Nat) :
    Program.Uses Quiet (shuffle count i pool) := by
  induction count generalizing i pool with
  | zero => trivial
  | succ count ih => exact (performs_quiet (by trivial)).bind fun bytes => ih _ _

theorem generateMnemonicQuiz_quiet (wordCount : Nat) :
    Program.Uses Quiet (generateMnemonicQuiz crypto wordCount) := by
  refine assertUnlocked_quiet.bind fun _ => ?_
  refine mnemonicWordsWhileUnlocked_quiet.bind fun words => ?_
  exact (shuffle_quiet _ _ _).bind fun pool => trivial

theorem verifyMnemonicQuiz_quiet (positions : List Nat) (answers : List String) :
    Program.Uses Quiet (verifyMnemonicQuiz crypto positions answers) := by
  refine assertUnlocked_quiet.bind fun _ => ?_
  split
  · trivial
  · exact mnemonicWordsWhileUnlocked_quiet.bind fun words => trivial

end Quiet

/-! ### A rig -/

/-- Cryptography with the shape of the real one: the ciphertext is the plaintext behind which
    the first half of the key stands as a tag. -/
def rigCrypto : Crypto where
  otherNumberText _ := []
  gcmEncrypt key _ plaintext _ := plaintext ++ key.take 16
  gcmDecrypt key _ ciphertext _ :=
    if ciphertext.drop (ciphertext.length - 16) = key.take 16 then
      some (ciphertext.take (ciphertext.length - 16))
    else none
  entropyToMnemonic _ := .ok "abandon"
  validateMnemonic _ := true
  mnemonicToEntropy _ := some (List.replicate 16 3)
  mnemonicToSeed _ _ := .ok (List.replicate 64 4)
  deriveLocalDatabaseKey _ := .ok (List.replicate 32 5)
  normalizeAnswer answer := answer

/-- A world and the storage items whose next writes and deletions are to throw. -/
structure Rig where
  world : World
  brokenWrites : List StorageName := []
  brokenDeletions : List StorageName := []
  /-- How many bytes a wrapped key has, before the key itself. -/
  blobHeader : Nat := 13

/-- The key that a password derives. -/
def rigKek (password : String) : Bytes := List.replicate 32 (UInt8.ofNat password.length)

def Rig.handle : Program.Handler VaultOp VaultError Rig
  | _, .memory, rig => (.ok rig.world.memory, rig)
  | _, .update change, rig =>
    (.ok (), { rig with world.memory := change.apply (.finite 0) rig.world.memory })
  | _, .read name, rig => (.ok (rig.world.storage name), rig)
  | _, .write name content, rig =>
    if name ∈ rig.brokenWrites then (.error .external, rig)
    else (.ok (), { rig with world := rig.world.write name (some content) })
  | _, .delete name, rig =>
    if name ∈ rig.brokenDeletions then (.error .external, rig)
    else (.ok (), { rig with world := rig.world.write name none })
  | _, .wrap (some key) _, rig => (.ok (List.replicate rig.blobHeader 1 ++ key), rig)
  | _, .wrap none _, rig => (.error .external, rig)
  | _, .unwrap blob, rig => (.ok (blob.drop rig.blobHeader), rig)
  | _, .isBiometricAvailable, rig => (.ok true, rig)
  | _, .deleteKey, rig => (.ok (), rig)
  | _, .deriveKek password _, rig => (.ok (rigKek password), rig)
  | _, .randomBytes count, rig => (.ok (List.replicate count 6), rig)
  | _, .now, rig => (.ok (.finite 0), rig)

theorem Rig.handle_memory {β : Type} (op : VaultOp β) (rig : Rig) :
    memoryEffect β op rig.world.memory (Rig.handle β op rig).1
      (Rig.handle β op rig).2.world.memory := by
  cases op with
  | memory => exact ⟨rfl, rfl⟩
  | update change => exact ⟨rfl, .finite 0, rfl⟩
  | write name content =>
    simp only [handle, memoryEffect]
    split <;> rfl
  | delete name =>
    simp only [handle, memoryEffect]
    split <;> rfl
  | wrap key biometric => cases key <;> rfl
  | read name => rfl
  | unwrap blob => rfl
  | isBiometricAvailable => rfl
  | deleteKey => rfl
  | deriveKek password params => rfl
  | randomBytes count => rfl
  | now => rfl

theorem Rig.handle_storage {β : Type} (op : VaultOp β) (rig : Rig) :
    storageEffect β op rig.world (Rig.handle β op rig).1 (Rig.handle β op rig).2.world := by
  cases op with
  | memory => exact ⟨rfl, rfl⟩
  | update change => exact ⟨rfl, .finite 0, rfl⟩
  | read name => exact ⟨.inl rfl, rfl⟩
  | write name content =>
    simp only [handle, storageEffect]
    split
    · exact .inr ⟨_, rfl, rfl⟩
    · exact .inl ⟨rfl, rfl⟩
  | delete name =>
    simp only [handle, storageEffect]
    split
    · exact .inr ⟨_, rfl, rfl⟩
    · exact .inl ⟨rfl, rfl⟩
  | wrap key biometric => cases key <;> rfl
  | unwrap blob => rfl
  | isBiometricAvailable => rfl
  | deleteKey => rfl
  | deriveKek password params => rfl
  | randomBytes count => rfl
  | now => rfl

/-- An empty device. -/
def Rig.fresh : Rig where
  world := ⟨Memory.opened false, fun _ => none⟩

end cemp.secureVault
