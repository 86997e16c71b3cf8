import CempMobile.Vault.Device

open cemp.core Except

namespace cemp.secureVault

/-! What the stored file is after any sequence of successful calls. -/

variable {crypto : Crypto} {kdf : String → KdfParams → Bytes}

/-! ### Creation -/

def Creation.program (crypto : Crypto) : Creation → Vault (List String)
  | .createWithNewMnemonic wordCount password opts =>
    secureVault.createWithNewMnemonic crypto wordCount password opts
  | .importMnemonic words password passphrase opts =>
    (secureVault.importMnemonic crypto words password passphrase opts).bind fun _ => .ret words

def Creation.password : Creation → String
  | .createWithNewMnemonic _ password _ => password
  | .importMnemonic _ password _ _ => password

def Creation.opts : Creation → CreateVaultOptions
  | .createWithNewMnemonic _ _ opts => opts
  | .importMnemonic _ _ _ opts => opts

/-- The secret payload that belongs to the words of a creation. -/
def Creation.Original (crypto : Crypto) (words : List String) (payload : VaultSecretPayload) :
    Creation → Prop
  | .createWithNewMnemonic wordCount _ _ =>
    (∃ mnemonic, crypto.entropyToMnemonic payload.entropy = .ok mnemonic ∧
      words = mnemonic.splitOn " ") ∧
      payload.entropy.length = wordCount.entropyBytes ∧
      crypto.mnemonicToSeed (" ".intercalate words) none = .ok payload.seed ∧
      payload.hasPassphrase = false
  | .importMnemonic imported _ passphrase _ =>
    words = imported ∧ crypto.mnemonicToEntropy (" ".intercalate imported) = some payload.entropy ∧
      crypto.mnemonicToSeed (" ".intercalate imported) (normalizePassphrase passphrase) =
        .ok payload.seed ∧
      payload.hasPassphrase = (normalizePassphrase passphrase).isSome

/-- The options whose values the reader of the file accepts. -/
structure CreateVaultOptions.InRange (opts : CreateVaultOptions) : Prop where
  autoLockSeconds :
    (opts.autoLockSeconds.getD DEFAULT_AUTO_LOCK_SECONDS).isIntegerIn 1 2147483 = true
  createdAt : ∀ t, opts.fixedInputs.createdAt = some t →
    t.isIntegerIn 0 MAX_SAFE_INTEGER = true

/-- A blob that the reader accepts in a biometric slot. -/
def BlobInRange (blob : Bytes) : Prop :=
  16 ≤ blob.length ∧ blob.length ≤ BIOMETRIC_BLOB_MAX_BYTES

/-! ### The invariant -/

/-- What holds of a device on which a vault was created with these options and this payload, and
    whose password is the given one. -/
structure Holds (crypto : Crypto) (kdf : String → KdfParams → Bytes) (opts : CreateVaultOptions)
    (payload : VaultSecretPayload) (password : String) (d : Device) (file : VaultFileV1)
    (vek plaintext : Bytes) : Prop where
  stored : d.world.storage .vaultFile = some (.document (serializeVaultFile file))
  seals : Seals crypto kdf file password vek plaintext
  encoded : encodeSecretPayload payload = .ok plaintext
  count : plaintext.length = secretPayloadBytes file.fileMeta.wordCount
  createdAt : file.fileMeta.createdAt.isIntegerIn 0 MAX_SAFE_INTEGER = true ↔
    ∀ t, opts.fixedInputs.createdAt = some t → t.isIntegerIn 0 MAX_SAFE_INTEGER = true
  autoLockSeconds :
    file.fileMeta.autoLockSeconds = opts.autoLockSeconds.getD DEFAULT_AUTO_LOCK_SECONDS
  live : d.world.memory.state = .unlocked → d.world.memory.vek = some vek
  slot : ∀ slot ∈ file.biometricSlot, slot.nonce = none ∧
    (∃ e ∈ d.wrapped, e.biometric = true ∧ e.blob = slot.wrappedVek) ∧
    ∀ e ∈ d.wrapped, e.blob = slot.wrappedVek → e.key = vek
  blobs : ∀ e ∈ d.wrapped, e.biometric = true →
    BlobInRange e.blob ∨ file.biometricSlot = some ⟨none, e.blob⟩

/-- A device with a vault, for some file and vault key. -/
def Vaulted (crypto : Crypto) (kdf : String → KdfParams → Bytes) (opts : CreateVaultOptions)
    (payload : VaultSecretPayload) (password : String) (d : Device) : Prop :=
  ∃ file vek plaintext, Holds crypto kdf opts payload password d file vek plaintext

/-- What the stored file is supposed to be: it is accepted, opens with the password and with no
    earlier one, decrypts to the payload, and its biometric slot unwraps the same vault key. -/
structure FileOpens (crypto : Crypto) (kdf : String → KdfParams → Bytes) (d : Device)
    (password : String) (earlier : List String) (payload : VaultSecretPayload)
    (stored : Stored) (file : VaultFileV1) (vek : Bytes) : Prop where
  read : d.world.storage .vaultFile = some stored
  accepted : parseStored crypto.otherNumberText stored = .ok file
  opens : unwrapVek crypto file (kdf password file.kdf) = .ok vek
  decrypts : decryptPayload crypto file (some vek) .wrong_password = .ok payload
  earlier : ∀ other ∈ earlier, other ≠ password →
    unwrapVek crypto file (kdf other file.kdf) = .error wrongPassword
  biometric : ∀ slot ∈ file.biometricSlot,
    (∃ e ∈ d.wrapped, e.blob = slot.wrappedVek) ∧
      ∀ e ∈ d.wrapped, e.blob = slot.wrappedVek → e.key = vek

section Holds

variable {opts : CreateVaultOptions} {payload : VaultSecretPayload} {password : String}
  {d : Device} {file : VaultFileV1} {vek plaintext : Bytes} {passwords : List String}

theorem Holds.parse_iff (h : Holds crypto kdf opts payload password d file vek plaintext)
    {stored : Stored} (hstored : d.world.storage .vaultFile = some stored)
    {file' : VaultFileV1} :
    parseStored crypto.otherNumberText stored = .ok file' ↔ file' = file ∧ file.Acceptable := by
  rw [h.stored] at hstored
  obtain rfl := Option.some.inj hstored
  exact parseVaultFile_serializeVaultFile

/-- The stored file is acceptable when the options were in range, and every blob that the key
    store returned for a biometric slot. -/
theorem Holds.acceptable_iff (h : Holds crypto kdf opts payload password d file vek plaintext)
    (hcorrect : Correct crypto kdf passwords) :
    file.Acceptable ↔
      opts.InRange ∧ ∀ e ∈ d.wrapped, e.biometric = true → BlobInRange e.blob := by
  rw [h.seals.acceptable_iff hcorrect h.count]
  constructor
  · rintro ⟨hslot, hcreatedAt, hautoLock⟩
    refine ⟨⟨h.autoLockSeconds ▸ hautoLock, h.createdAt.1 hcreatedAt⟩, fun e he hbiometric => ?_⟩
    obtain hrange | heq := h.blobs e he hbiometric
    · exact hrange
    · have hacceptable := hslot _ heq
      exact ⟨hacceptable.min, hacceptable.max⟩
  · rintro ⟨hrange, hblobs⟩
    refine ⟨fun slot hslot => ?_, h.createdAt.2 hrange.createdAt, ?_⟩
    · obtain ⟨hnonce, ⟨e, he, hbiometric, hblob⟩, -⟩ := h.slot slot hslot
      obtain ⟨hmin, hmax⟩ := hblobs e he hbiometric
      rw [hblob] at hmin hmax
      exact ⟨hmin, hmax, by simp [hnonce]⟩
    · rw [h.autoLockSeconds]
      exact hrange.autoLockSeconds

theorem Holds.decrypts (h : Holds crypto kdf opts payload password d file vek plaintext)
    (hcorrect : Correct crypto kdf passwords) (code : DecryptCode) :
    decryptPayload crypto file (some vek) code = .ok payload :=
  bind_eq_ok_iff.2 ⟨plaintext, h.seals.decrypts hcorrect code,
    (decodeSecretPayload_encodeSecretPayload h.encoded).1⟩

theorem Holds.opens_iff (h : Holds crypto kdf opts payload password d file vek plaintext)
    (hcorrect : Correct crypto kdf passwords) (hpassword : password ∈ passwords)
    {earlier : List String} (hearlier : ∀ other ∈ earlier, other ∈ passwords) :
    (∃ stored file' vek', FileOpens crypto kdf d password earlier payload stored file' vek') ↔
      opts.InRange ∧ ∀ e ∈ d.wrapped, e.biometric = true → BlobInRange e.blob := by
  rw [← h.acceptable_iff hcorrect]
  constructor
  · rintro ⟨stored, file', vek', hopens⟩
    exact ((h.parse_iff hopens.read).1 hopens.accepted).2
  · intro hacceptable
    refine ⟨_, file, vek, h.stored, (h.parse_iff h.stored).2 ⟨rfl, hacceptable⟩,
      h.seals.unwrapVek hcorrect, h.decrypts hcorrect _, ?_, ?_⟩
    · intro other hother hne
      exact h.seals.wrongPassword hcorrect hpassword (hearlier other hother) hne
    · intro slot hslot
      obtain ⟨-, ⟨e, he, -, hblob⟩, hkeys⟩ := h.slot slot hslot
      exact ⟨⟨e, he, hblob⟩, hkeys⟩

/-- A call that reads the file finds it acceptable. -/
theorem Holds.read (h : Holds crypto kdf opts payload password d file vek plaintext)
    {d' : Device} {file' : VaultFileV1}
    (hread : Program.Runs (deviceEffect kdf) (readVaultFile crypto) d (.ok file') d') :
    d' = d ∧ file' = file ∧ file.Acceptable := by
  obtain ⟨rfl, stored, hstored, hparse⟩ := readVaultFile_runs hread
  exact ⟨rfl, (h.parse_iff hstored).1 hparse⟩

end Holds

/-! ### The calls -/

section Creation

variable {d d' : Device}

theorem orElse_runs {α : Type} {fixed : Option α} {fresh : Vault α} {a : α}
    (h : Program.Runs (deviceEffect kdf) (orElse fixed fresh) d (.ok a) d') :
    (fixed = some a ∧ d' = d) ∨
      fixed = none ∧ Program.Runs (deviceEffect kdf) fresh d (.ok a) d' := by
  cases fixed with
  | none => exact .inr ⟨rfl, h⟩
  | some value =>
    obtain ⟨hok, rfl⟩ := h
    exact .inl ⟨congrArg some (ok.inj hok).symm, rfl⟩

theorem orElse_randomBytes_runs {fixed : Option Bytes} {count : Nat} {bytes : Bytes}
    (h : Program.Runs (deviceEffect kdf) (orElse fixed (randomBytes count)) d (.ok bytes) d') :
    d' = d := by
  obtain ⟨-, rfl⟩ | ⟨-, hfresh⟩ := orElse_runs h
  · rfl
  · exact (randomBytes_runs hfresh).1

theorem orElse_now_runs {fixed : Option Number} {t : Number}
    (h : Program.Runs (deviceEffect kdf) (orElse fixed (Program.perform .now)) d (.ok t) d') :
    d' = d ∧ (t.isIntegerIn 0 MAX_SAFE_INTEGER = true ↔
      ∀ t, fixed = some t → t.isIntegerIn 0 MAX_SAFE_INTEGER = true) := by
  obtain ⟨rfl, rfl⟩ | ⟨rfl, hnow⟩ := orElse_runs h
  · exact ⟨rfl, fun h t' ht' => Option.some.inj ht' ▸ h, fun h => h t rfl⟩
  · obtain ⟨rfl, hanswer⟩ := Program.runs_perform.1 hnow
    exact ⟨rfl, iff_of_true (hanswer t rfl) nofun⟩

theorem assertCanInitialize_device
    (h : Program.Runs (deviceEffect kdf) assertCanInitialize d (.ok ()) d') :
    d' = d ∧ d.world.storage .vaultFile = none := by
  obtain ⟨existing, mid, hreadRun, h1⟩ := Program.runs_bind_ok.1 h
  obtain ⟨rfl, rfl⟩ := read_runs hreadRun
  obtain ⟨m, mid, hmemoryRun, h2⟩ := Program.runs_bind_ok.1 h1
  obtain ⟨rfl, rfl⟩ := memory_runs hmemoryRun
  split at h2
  · cases h2.1
  · next hfree =>
    obtain ⟨-, rfl⟩ := h2
    rw [not_or, Bool.not_eq_true, Option.isSome_eq_false_iff, Option.isNone_iff_eq_none] at hfree
    exact ⟨rfl, hfree.1⟩

/-- What creation prepares: a file sealed under the password, which has no biometric slot yet. -/
theorem prepareVault_runs {payload : VaultSecretPayload} {wordCount : VaultWordCount}
    {password : String} {opts : CreateVaultOptions} {prepared : PreparedVault}
    (h : Program.Runs (deviceEffect kdf) (prepareVault crypto payload wordCount password opts) d
      (.ok prepared) d') :
    d'.world = d.world ∧ (∃ dbKey blob, d'.wrapped = ⟨blob, dbKey, false⟩ :: d.wrapped) ∧
      prepared.file.biometricSlot = none ∧ prepared.file.fileMeta.wordCount = wordCount ∧
      prepared.file.fileMeta.autoLockSeconds =
        opts.autoLockSeconds.getD DEFAULT_AUTO_LOCK_SECONDS ∧
      (prepared.file.fileMeta.createdAt.isIntegerIn 0 MAX_SAFE_INTEGER = true ↔
        ∀ t, opts.fixedInputs.createdAt = some t → t.isIntegerIn 0 MAX_SAFE_INTEGER = true) ∧
      ∃ plaintext, encodeSecretPayload payload = .ok plaintext ∧
        Seals crypto kdf prepared.file password prepared.vek plaintext := by
  obtain ⟨salt, mid, hsaltRun, h1⟩ := Program.runs_bind_ok.1 h
  obtain rfl := orElse_randomBytes_runs hsaltRun
  obtain ⟨_, mid, hparamsRun, h2⟩ := Program.runs_bind_ok.1 h1
  obtain ⟨rfl, hparams⟩ := ofExcept_runs hparamsRun
  obtain ⟨kek, mid, hkekRun, h3⟩ := Program.runs_bind_ok.1 h2
  obtain ⟨rfl, rfl⟩ := deriveKek_runs hkekRun
  obtain ⟨vek, mid, hvekRun, h4⟩ := Program.runs_bind_ok.1 h3
  obtain rfl := orElse_randomBytes_runs hvekRun
  split at h4
  · cases h4.1
  · next hlength =>
    obtain ⟨slotNonce, mid, hslotNonceRun, h5⟩ := Program.runs_bind_ok.1 h4
    obtain rfl := orElse_randomBytes_runs hslotNonceRun
    obtain ⟨slot, mid, hslotRun, h6⟩ := Program.runs_bind_ok.1 h5
    obtain ⟨rfl, hslot⟩ := ofExcept_runs hslotRun
    obtain ⟨payloadNonce, mid, hpayloadNonceRun, h7⟩ := Program.runs_bind_ok.1 h6
    obtain rfl := orElse_randomBytes_runs hpayloadNonceRun
    obtain ⟨plaintext, mid, hplaintextRun, h8⟩ := Program.runs_bind_ok.1 h7
    obtain ⟨rfl, hplaintext⟩ := ofExcept_runs hplaintextRun
    obtain ⟨sealed, mid, hsealedRun, h9⟩ := Program.runs_bind_ok.1 h8
    obtain ⟨rfl, hsealed⟩ := ofExcept_runs hsealedRun
    obtain ⟨createdAt, mid, hcreatedAtRun, h10⟩ := Program.runs_bind_ok.1 h9
    obtain ⟨rfl, hcreatedAt⟩ := orElse_now_runs hcreatedAtRun
    obtain ⟨dbKey, mid, hdbKeyRun, h11⟩ := Program.runs_bind_ok.1 h10
    obtain ⟨rfl, -⟩ := ofExcept_runs hdbKeyRun
    obtain ⟨blob, mid, hblobRun, h12⟩ := Program.runs_bind_ok.1 h11
    obtain ⟨hprepared, rfl⟩ := h12
    obtain rfl := ok.inj hprepared
    obtain ⟨rfl, hslot⟩ := wrapVek_eq_ok.1 hslot
    obtain ⟨rfl, hsealed⟩ := sealPayload_eq_ok.1 hsealed
    have hseals : Seals crypto kdf ⟨⟨resolveKdfParams opts.kdf salt, slot, none⟩, sealed,
        ⟨createdAt, wordCount, payload.hasPassphrase,
          opts.autoLockSeconds.getD DEFAULT_AUTO_LOCK_SECONDS⟩⟩ password vek plaintext :=
      ⟨hparams, not_ne_iff.1 hlength, hslot, hsealed⟩
    obtain ⟨_, hwrap, hok⟩ | ⟨e, _, -, hthrow⟩ := Program.runs_catchError.1 hblobRun
    · obtain ⟨e, herror, -⟩ | ⟨blob', key, -, -, -, rfl⟩ := Program.runs_perform.1 hwrap
      · cases herror
      · exact ⟨rfl, ⟨key, blob', rfl⟩, rfl, rfl, rfl, hcreatedAt, plaintext, hplaintext, hseals⟩
    · cases hthrow.1

/-- A creation that succeeded leaves a vault file, and the vault open under its key. -/
theorem buildVault_runs {payload : VaultSecretPayload} {wordCount : VaultWordCount}
    {password : String} {opts : CreateVaultOptions} (hfresh : d.wrapped = [])
    (hcount : payload.entropy.length = wordCount.entropyBytes)
    (h : Program.Runs (deviceEffect kdf) (buildVault crypto payload wordCount password opts) d
      (.ok ()) d') : Vaulted crypto kdf opts payload password d' := by
  obtain ⟨prepared, d1, hprepared, h1⟩ := Program.runs_bind_ok.1 h
  obtain ⟨-, ⟨dbKey, blob, hwrapped⟩, hslot, hwordCount, hautoLock, hcreatedAt, plaintext, hplaintext,
    hseals⟩ := prepareVault_runs hprepared
  obtain ⟨_, d2, hfile, h2⟩ := Program.runs_bind_ok.1 h1
  obtain ⟨hwrapped2, -, hstored2, -⟩ := write_runs hfile
  obtain ⟨_, d3, hkey, h3⟩ := Program.runs_bind_ok.1 h2
  obtain ⟨hwrapped3, -, -, hother⟩ := write_runs hkey
  obtain ⟨-, hwrapped4, hstorage, now, hmemory⟩ := update_runs h3
  have hentries : d'.wrapped = [⟨blob, dbKey, false⟩] := by
    rw [hwrapped4, hwrapped3, hwrapped2, hwrapped, hfresh]
  obtain ⟨-, -, -, hlength⟩ := decodeSecretPayload_encodeSecretPayload hplaintext
  refine ⟨prepared.file, prepared.vek, plaintext, ?_⟩
  refine ⟨?_, hseals, hplaintext, ?_, hcreatedAt, hautoLock, fun _ => ?_, ?_, ?_⟩
  · rw [hstorage, hother .vaultFile (by decide)]
    exact hstored2
  · rw [hlength, hwordCount, hcount]
    rfl
  · rw [hmemory]
    rfl
  · rw [hslot]
    intro slot hmem
    cases hmem
  · rw [hentries]
    intro e he hbiometric
    obtain rfl := List.mem_singleton.1 he
    cases hbiometric

/-- A vault that was just created, and the payload that belongs to its words. -/
theorem Creation.vaulted {creation : Creation} {words : List String}
    (h : Program.Runs (deviceEffect kdf) (creation.program crypto) Device.fresh (.ok words) d') :
    ∃ payload, creation.Original crypto words payload ∧
      Vaulted crypto kdf creation.opts payload creation.password d' := by
  cases creation with
  | createWithNewMnemonic wordCount password opts =>
    obtain ⟨_, mid, hassert, h1⟩ := Program.runs_bind_ok.1 h
    obtain ⟨rfl, -⟩ := assertCanInitialize_device hassert
    obtain ⟨entropy, mid, hentropy, h2⟩ := Program.runs_bind_ok.1 h1
    obtain rfl := orElse_randomBytes_runs hentropy
    split at h2
    · cases h2.1
    · next hlength =>
      obtain ⟨mnemonic, mid, hmnemonicRun, h3⟩ := Program.runs_bind_ok.1 h2
      obtain ⟨rfl, hmnemonic⟩ := ofExcept_runs hmnemonicRun
      obtain ⟨seed, mid, hseedRun, h4⟩ := Program.runs_bind_ok.1 h3
      obtain ⟨rfl, hseed⟩ := ofExcept_runs hseedRun
      obtain ⟨_, mid, hbuild, h5⟩ := Program.runs_bind_ok.1 h4
      obtain ⟨hwords, rfl⟩ := h5
      obtain rfl := ok.inj hwords
      exact ⟨⟨entropy, seed, false⟩, ⟨⟨mnemonic, hmnemonic, rfl⟩, not_ne_iff.1 hlength, hseed, rfl⟩,
        buildVault_runs rfl (not_ne_iff.1 hlength) hbuild⟩
  | importMnemonic imported password passphrase opts =>
    obtain ⟨_, mid, himport, h1⟩ := Program.runs_bind_ok.1 h
    obtain ⟨hwords, rfl⟩ := h1
    obtain rfl := ok.inj hwords
    obtain ⟨_, mid, hassert, h2⟩ := Program.runs_bind_ok.1 himport
    obtain ⟨rfl, -⟩ := assertCanInitialize_device hassert
    extract_lets joined at h2
    split at h2
    · cases h2.1
    · split at h2
      · cases h2.1
      · next entropy hentropy =>
        split at h2
        · cases h2.1
        · next hlength =>
          obtain ⟨seed, mid, hseedRun, h3⟩ := Program.runs_bind_ok.1 h2
          obtain ⟨rfl, hseed⟩ := ofExcept_runs hseedRun
          refine ⟨⟨entropy, seed, _⟩, ⟨rfl, hentropy, hseed, rfl⟩, buildVault_runs rfl ?_ h3⟩
          by_cases hshort : entropy.length = 16
          · rw [if_pos hshort]
            exact hshort
          · rw [if_neg hshort]
            exact not_ne_iff.1 fun hlong => hlength ⟨hshort, hlong⟩

end Creation

section Call

theorem isBiometricAvailable_runs {d d' : Device} {available : Bool}
    (h : Program.Runs (deviceEffect kdf) (Program.perform .isBiometricAvailable) d (.ok available)
      d') : d' = d := by
  obtain ⟨hworld, hwrapped⟩ := Program.runs_perform.1 h
  cases d'
  cases d
  exact congrArg₂ Device.mk hworld hwrapped

variable {opts : CreateVaultOptions} {payload : VaultSecretPayload} {password : String}
  {d d' : Device} {file : VaultFileV1} {vek plaintext : Bytes} {passwords : List String}

/-- Calls that leave storage and the key store alone only have to install the right key. -/
theorem Holds.frame (h : Holds crypto kdf opts payload password d file vek plaintext)
    (hstorage : d'.world.storage = d.world.storage) (hwrapped : d'.wrapped = d.wrapped)
    (hlive : d'.world.memory.state = .unlocked → d'.world.memory.vek = some vek) :
    Holds crypto kdf opts payload password d' file vek plaintext where
  stored := by rw [hstorage]; exact h.stored
  seals := h.seals
  encoded := h.encoded
  count := h.count
  createdAt := h.createdAt
  autoLockSeconds := h.autoLockSeconds
  live := hlive
  slot := by rw [hwrapped]; exact h.slot
  blobs := by rw [hwrapped]; exact h.blobs

/-- The file was written again, with the same metadata and the slot that the key store answered
    for. Only the key store has changed in between. -/
theorem Holds.rewrite (h : Holds crypto kdf opts payload password d file vek plaintext)
    {newPassword : String} {updated : VaultFileV1} {wrapped : List Wrapped}
    (hwrite : Program.Runs (deviceEffect kdf) (writeVaultFile updated) ⟨d.world, wrapped⟩ (.ok ())
      d')
    (hmeta : updated.fileMeta = file.fileMeta)
    (hseals : Seals crypto kdf updated newPassword vek plaintext)
    (hslot : ∀ slot ∈ updated.biometricSlot, slot.nonce = none ∧
      (∃ e ∈ wrapped, e.biometric = true ∧ e.blob = slot.wrappedVek) ∧
      ∀ e ∈ wrapped, e.blob = slot.wrappedVek → e.key = vek)
    (hblobs : ∀ e ∈ wrapped, e.biometric = true →
      BlobInRange e.blob ∨ updated.biometricSlot = some ⟨none, e.blob⟩) :
    Holds crypto kdf opts payload newPassword d' updated vek plaintext := by
  obtain ⟨hwrapped, hmemory, hstored, -⟩ := write_runs hwrite
  refine ⟨hstored, hseals, h.encoded, ?_, ?_, ?_, ?_, ?_, ?_⟩
  · rw [hmeta]
    exact h.count
  · rw [hmeta]
    exact h.createdAt
  · rw [hmeta]
    exact h.autoLockSeconds
  · rw [hmemory]
    exact h.live
  · rw [hwrapped]
    exact hslot
  · rw [hwrapped]
    exact hblobs

theorem Holds.blobInRange (h : Holds crypto kdf opts payload password d file vek plaintext)
    (hacceptable : file.Acceptable) {e : Wrapped} (he : e ∈ d.wrapped)
    (hbiometric : e.biometric = true) : BlobInRange e.blob := by
  obtain hrange | heq := h.blobs e he hbiometric
  · exact hrange
  · have hslot := hacceptable.biometricSlot _ heq
    exact ⟨hslot.min, hslot.max⟩

/-- Installing the key that the file holds. -/
theorem Holds.install (h : Holds crypto kdf opts payload password d file vek plaintext)
    {opened : OpenedVault} (hvek : opened.vek = vek)
    (hrun : Program.Runs (deviceEffect kdf) (Program.perform (.update (install file opened))) d
      (.ok ()) d') : Vaulted crypto kdf opts payload password d' := by
  obtain ⟨-, hwrapped, hstorage, now, hmemory⟩ := update_runs hrun
  refine ⟨file, vek, plaintext, h.frame hstorage hwrapped fun _ => ?_⟩
  rw [hmemory, ← hvek]
  rfl

theorem Vaulted.unlock (h : Vaulted crypto kdf opts payload password d)
    (hcorrect : Correct crypto kdf passwords) (hpassword : password ∈ passwords)
    {given : String} (hgiven : given ∈ passwords)
    (hrun : Program.Runs (deviceEffect kdf) (unlock crypto given) d (.ok ()) d') :
    Vaulted crypto kdf opts payload password d' := by
  obtain ⟨file, vek, plaintext, h⟩ := h
  obtain ⟨file', mid, hreadRun, h1⟩ := Program.runs_bind_ok.1 hrun
  obtain ⟨rfl, rfl, -⟩ := h.read hreadRun
  obtain ⟨opened, mid, hopen, h2⟩ := Program.runs_bind_ok.1 h1
  obtain ⟨rfl, hunwrap, -⟩ := openWithPassword_runs hopen
  exact h.install (h.seals.eq_of_unwrapVek hcorrect hpassword hgiven hunwrap) h2

theorem Vaulted.unlockWithBiometrics (h : Vaulted crypto kdf opts payload password d)
    (hrun : Program.Runs (deviceEffect kdf) (unlockWithBiometrics crypto) d (.ok ()) d') :
    Vaulted crypto kdf opts payload password d' := by
  obtain ⟨file, vek, plaintext, h⟩ := h
  obtain ⟨file', mid, hreadRun, h1⟩ := Program.runs_bind_ok.1 hrun
  obtain ⟨rfl, rfl, -⟩ := h.read hreadRun
  obtain ⟨opened, mid, hopen, h2⟩ := Program.runs_bind_ok.1 h1
  obtain ⟨rfl, slot, hslot, e, he, hblob, hkey⟩ := openWithBiometrics_runs hopen
  obtain ⟨-, -, hkeys⟩ := h.slot slot hslot
  exact h.install (hkey.symm.trans (hkeys e he hblob)) h2

theorem Vaulted.lock (h : Vaulted crypto kdf opts payload password d)
    (hrun : Program.Runs (deviceEffect kdf) lock d (.ok ()) d') :
    Vaulted crypto kdf opts payload password d' := by
  obtain ⟨file, vek, plaintext, h⟩ := h
  obtain ⟨-, hwrapped, hstorage, now, hmemory⟩ := update_runs hrun
  refine ⟨file, vek, plaintext, h.frame hstorage hwrapped fun hstate => ?_⟩
  rw [hmemory] at hstate
  simp only [Change.apply] at hstate
  split at hstate
  · cases hstate
  · next hne => exact absurd hstate hne

/-- The file after a change of password opens with the new one, and seals the same payload. -/
theorem Vaulted.changePassword (h : Vaulted crypto kdf opts payload password d)
    (hcorrect : Correct crypto kdf passwords) (hpassword : password ∈ passwords)
    {oldPassword newPassword : String} (hold : oldPassword ∈ passwords)
    (hrun : Program.Runs (deviceEffect kdf) (changePassword crypto oldPassword newPassword) d
      (.ok ()) d') : Vaulted crypto kdf opts payload newPassword d' := by
  obtain ⟨file, vek, plaintext, h⟩ := h
  obtain ⟨file', mid, hreadRun, h1⟩ := Program.runs_bind_ok.1 hrun
  obtain ⟨rfl, rfl, -⟩ := h.read hreadRun
  obtain ⟨updated, mid, hrewrap, hwrite⟩ := Program.runs_bind_ok.1 h1
  obtain ⟨rfl, vek', plaintext', salt, hsalt, hunwrap, hdecrypt, hkdf, hslot, hmeta, hwrapped,
    hsealed⟩ := rewrapFile_runs hrewrap
  obtain rfl := h.seals.eq_of_unwrapVek hcorrect hpassword hold hunwrap
  obtain rfl := ok.inj (hdecrypt.symm.trans (h.seals.decrypts hcorrect _))
  have hparams : validateKdfParams updated.kdf = .ok () := by
    rw [hkdf]
    exact validateKdfParams_withSalt h.seals.params hsalt
  refine ⟨updated, vek', plaintext', h.rewrite hwrite hmeta ?_ ?_ ?_⟩
  · exact ⟨hparams, h.seals.vekLength, hwrapped, hsealed⟩
  · rw [hslot]
    exact h.slot
  · rw [hslot]
    exact h.blobs

/-- Rewritten slots keep the password slot, and seal the same payload. -/
theorem Holds.rewriteSlots (h : Holds crypto kdf opts payload password d file vek plaintext)
    (hcorrect : Correct crypto kdf passwords) (hlive : d.world.memory.vek = some vek)
    {biometricSlot : Option BiometricWrapSlot} {wrapped : List Wrapped}
    (hslot : ∀ slot ∈ biometricSlot, slot.nonce = none ∧
      (∃ e ∈ wrapped, e.biometric = true ∧ e.blob = slot.wrappedVek) ∧
      ∀ e ∈ wrapped, e.blob = slot.wrappedVek → e.key = vek)
    (hblobs : ∀ e ∈ wrapped, e.biometric = true →
      BlobInRange e.blob ∨ biometricSlot = some ⟨none, e.blob⟩)
    (hrun : Program.Runs (deviceEffect kdf)
      (rewriteSlots crypto file file.passwordSlot biometricSlot) ⟨d.world, wrapped⟩ (.ok ()) d') :
    Vaulted crypto kdf opts payload password d' := by
  obtain ⟨updated, mid, hreseal, hwrite⟩ := Program.runs_bind_ok.1 hrun
  obtain ⟨rfl, vek', plaintext', hvek, hdecrypt, hkdf, hpasswordSlot, hbiometric, hmeta, hsealed⟩ :=
    resealFile_runs hreseal
  obtain rfl := Option.some.inj (hvek.symm.trans hlive)
  obtain rfl := ok.inj (hdecrypt.symm.trans (h.seals.decrypts hcorrect _))
  refine ⟨updated, vek', plaintext', h.rewrite hwrite hmeta ?_ ?_ ?_⟩
  · refine ⟨?_, h.seals.vekLength, ?_, hsealed⟩
    · rw [hkdf]
      exact h.seals.params
    · rw [hkdf, hpasswordSlot]
      exact h.seals.slot
  · rw [hbiometric]
    exact hslot
  · rw [hbiometric]
    exact hblobs

theorem Vaulted.enableBiometrics (h : Vaulted crypto kdf opts payload password d)
    (hcorrect : Correct crypto kdf passwords)
    (hrun : Program.Runs (deviceEffect kdf) (enableBiometrics crypto) d (.ok ()) d') :
    Vaulted crypto kdf opts payload password d' := by
  obtain ⟨file, vek, plaintext, h⟩ := h
  obtain ⟨m, mid, hassert, h1⟩ := Program.runs_bind_ok.1 hrun
  obtain ⟨rfl, rfl, hstate⟩ := assertUnlocked_device hassert
  obtain ⟨available, mid, havailable, h2⟩ := Program.runs_bind_ok.1 h1
  obtain rfl := isBiometricAvailable_runs havailable
  split at h2
  · cases h2.1
  · obtain ⟨file', mid, hreadRun, h3⟩ := Program.runs_bind_ok.1 h2
    obtain ⟨rfl, rfl, hacceptable⟩ := h.read hreadRun
    split at h3
    · obtain ⟨-, rfl⟩ := h3
      exact ⟨file', vek, plaintext, h⟩
    · next hnone =>
      rw [Bool.not_eq_true, Option.isSome_eq_false_iff, Option.isNone_iff_eq_none] at hnone
      obtain ⟨blob, mid, hwrap, h4⟩ := Program.runs_bind_ok.1 h3
      obtain ⟨key, hkey, hfresh, rfl⟩ := wrapLiveVek_runs hwrap
      have hlive := h.live hstate
      obtain rfl := Option.some.inj (hkey.symm.trans hlive)
      refine h.rewriteSlots hcorrect hlive ?_ ?_ h4
      · intro slot hslot
        obtain rfl := Option.some.inj hslot
        refine ⟨rfl, ⟨_, List.mem_cons_self, rfl, rfl⟩, fun e he hblob => ?_⟩
        obtain rfl | he := List.mem_cons.1 he
        · rfl
        · exact hfresh e he hblob
      · intro e he hbiometric
        obtain rfl | he := List.mem_cons.1 he
        · exact .inr rfl
        · exact .inl (h.blobInRange hacceptable he hbiometric)

theorem Vaulted.disableBiometrics (h : Vaulted crypto kdf opts payload password d)
    (hcorrect : Correct crypto kdf passwords)
    (hrun : Program.Runs (deviceEffect kdf) (disableBiometrics crypto) d (.ok ()) d') :
    Vaulted crypto kdf opts payload password d' := by
  obtain ⟨file, vek, plaintext, h⟩ := h
  obtain ⟨m, mid, hassert, h1⟩ := Program.runs_bind_ok.1 hrun
  obtain ⟨rfl, rfl, hstate⟩ := assertUnlocked_device hassert
  obtain ⟨file', mid, hreadRun, h2⟩ := Program.runs_bind_ok.1 h1
  obtain ⟨rfl, rfl, hacceptable⟩ := h.read hreadRun
  split at h2
  · obtain ⟨-, rfl⟩ := h2
    exact ⟨file', vek, plaintext, h⟩
  · exact h.rewriteSlots hcorrect (h.live hstate) (fun slot hslot => by cases hslot)
      (fun e he hbiometric => .inl (h.blobInRange hacceptable he hbiometric)) h2

end Call

end cemp.secureVault
