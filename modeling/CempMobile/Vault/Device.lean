import CempMobile.Vault.Creation
import CempMobile.Vault.FormatRoundTrip

open cemp.core Except

namespace cemp.secureVault

/-! A device whose storage, key store, KDF and cipher work, and what the parts of the methods leave
    on it when they succeed. -/

/-- A key that the key store wrapped. -/
structure Wrapped where
  blob : Bytes
  key : Bytes
  biometric : Bool

structure Device where
  world : World
  wrapped : List Wrapped

/-- A device without a vault. -/
def Device.fresh : Device := ⟨⟨Memory.opened false, fun _ => none⟩, []⟩

/-- What the calls of a method do on a device. The key store may answer a key with any blob that
    does not stand for another key, the random generator with any bytes. -/
def deviceEffect (kdf : String → KdfParams → Bytes) : Program.Effect VaultOp VaultError Device
  | _, .wrap key biometric, d, r, d' =>
    (∃ e, r = .error e ∧ d' = d) ∨
      ∃ blob bytes, r = .ok blob ∧ key = some bytes ∧
        (∀ e ∈ d.wrapped, e.blob = blob → e.key = bytes) ∧
        d' = { d with wrapped := ⟨blob, bytes, biometric⟩ :: d.wrapped }
  | _, .unwrap blob, d, r, d' =>
    d' = d ∧ ∀ key, r = .ok key → ∃ e ∈ d.wrapped, e.blob = blob ∧ e.key = key
  | _, .deriveKek password params, d, r, d' =>
    d' = d ∧ ∀ kek, r = .ok kek → kek = kdf password params
  | _, .randomBytes count, d, r, d' => d' = d ∧ ∀ bytes, r = .ok bytes → bytes.length = count
  | _, .now, d, r, d' => d' = d ∧ ∀ t, r = .ok t → t.isIntegerIn 0 MAX_SAFE_INTEGER = true
  | β, op, d, r, d' => storageEffect β op d.world r d'.world ∧ d'.wrapped = d.wrapped

/-- The cipher and the password derivation work: what was sealed opens, a tag is appended, and
    among these passwords none derives another one's key or opens what another one sealed. -/
structure Correct (crypto : Crypto) (kdf : String → KdfParams → Bytes) (passwords : List String) :
    Prop where
  decrypt : ∀ {key nonce plaintext aad}, key.length = AES_256_KEY_BYTES →
    nonce.length = AES_GCM_NONCE_BYTES →
    crypto.gcmDecrypt key nonce (crypto.gcmEncrypt key nonce plaintext aad) aad = some plaintext
  length : ∀ {key nonce plaintext aad}, key.length = AES_256_KEY_BYTES →
    (crypto.gcmEncrypt key nonce plaintext aad).length = plaintext.length + AES_256_GCM_TAG_BYTES
  distinct : ∀ {p q params}, p ∈ passwords → q ∈ passwords → p ≠ q → kdf p params ≠ kdf q params
  authentic : ∀ {p q params nonce plaintext aad}, p ∈ passwords → q ∈ passwords →
    kdf p params ≠ kdf q params →
    crypto.gcmDecrypt (kdf q params) nonce
      (crypto.gcmEncrypt (kdf p params) nonce plaintext aad) aad = none

variable {crypto : Crypto} {kdf : String → KdfParams → Bytes}

/-! ### The cipher -/

theorem aes256GcmEncrypt_eq_ok {key nonce plaintext aad ct : Bytes} :
    aes256GcmEncrypt crypto key nonce plaintext aad = .ok ct ↔
      key.length = AES_256_KEY_BYTES ∧ nonce.length = AES_GCM_NONCE_BYTES ∧
        ct = crypto.gcmEncrypt key nonce plaintext aad := by
  unfold aes256GcmEncrypt checkKeyAndNonce
  rw [bind_eq_ok_iff]
  simp only [guard_eq_ok_iff, ne_eq, not_not, pure, Except.pure, ok.injEq]
  constructor
  · rintro ⟨_, ⟨hkey, hnonce, -⟩, rfl⟩
    exact ⟨hkey, hnonce, rfl⟩
  · rintro ⟨hkey, hnonce, rfl⟩
    exact ⟨(), ⟨hkey, hnonce, trivial⟩, rfl⟩

/-- Under the key, nonce and data that it was encrypted with, a ciphertext decrypts. -/
theorem aes256GcmDecrypt_encrypt {passwords : List String} (hcorrect : Correct crypto kdf passwords)
    {key nonce plaintext aad ct : Bytes}
    (h : aes256GcmEncrypt crypto key nonce plaintext aad = .ok ct) :
    aes256GcmDecrypt crypto key nonce ct aad = .ok plaintext := by
  obtain ⟨hkey, hnonce, rfl⟩ := aes256GcmEncrypt_eq_ok.1 h
  have hlength := @Correct.length _ _ _ hcorrect key nonce plaintext aad hkey
  unfold aes256GcmDecrypt checkKeyAndNonce
  rw [if_neg (by simp [hkey]), if_neg (by simp [hnonce])]
  simp only [bind, Except.bind]
  rw [if_neg (by omega), hcorrect.decrypt hkey hnonce]
  rfl

theorem wrapVek_eq_ok {kek nonce vek : Bytes} {slot : WrapSlot} :
    wrapVek crypto kek nonce vek = .ok slot ↔
      slot.nonce = nonce ∧
        aes256GcmEncrypt crypto kek nonce vek PASSWORD_WRAP_AAD = .ok slot.wrappedVek := by
  unfold wrapVek
  rw [bind_eq_ok_iff]
  constructor
  · rintro ⟨ct, hct, hslot⟩
    obtain rfl := ok.inj hslot
    exact ⟨rfl, hct⟩
  · rintro ⟨rfl, hct⟩
    exact ⟨_, hct, rfl⟩

theorem sealPayload_eq_ok {vek nonce plaintext : Bytes} {header : VaultHeader}
    {payload : VaultPayload} :
    sealPayload crypto vek nonce plaintext header = .ok payload ↔
      payload.nonce = nonce ∧
        aes256GcmEncrypt crypto vek nonce plaintext (payloadAad crypto.otherNumberText header) =
          .ok payload.ct := by
  unfold sealPayload
  rw [bind_eq_ok_iff]
  constructor
  · rintro ⟨ct, hct, hpayload⟩
    obtain rfl := ok.inj hpayload
    exact ⟨rfl, hct⟩
  · rintro ⟨rfl, hct⟩
    exact ⟨_, hct, rfl⟩

theorem unwrapVek_eq_ok {file : VaultFileV1} {kek vek : Bytes} :
    unwrapVek crypto file kek = .ok vek ↔
      aes256GcmDecrypt crypto kek file.passwordSlot.nonce file.passwordSlot.wrappedVek
        PASSWORD_WRAP_AAD = .ok vek := by
  unfold unwrapVek
  split
  · next heq => rw [heq]
  · next heq =>
    rw [heq]
    constructor
    · intro h
      cases h
    · intro h
      cases h

theorem decryptPayloadBytes_eq_ok {file : VaultFileV1} {vek : Option Bytes} {code : DecryptCode}
    {plaintext : Bytes} :
    decryptPayloadBytes crypto file vek code = .ok plaintext ↔
      ∃ key, vek = some key ∧ aes256GcmDecrypt crypto key file.payload.nonce file.payload.ct
        (payloadAad crypto.otherNumberText file.toVaultHeader) = .ok plaintext := by
  unfold decryptPayloadBytes
  cases vek with
  | none =>
    constructor
    · intro h
      cases h
    · rintro ⟨key, hkey, -⟩
      cases hkey
  | some key =>
    simp only [deref, bind, Except.bind, Option.some.injEq, exists_eq_left']
    split
    · next heq => rw [heq]
    · next heq =>
      rw [heq]
      constructor
      · intro h
        cases h
      · intro h
        cases h

/-! ### Sealed files -/

/-- A file whose vault key opens under a password, and which seals a plaintext. -/
structure Seals (crypto : Crypto) (kdf : String → KdfParams → Bytes) (file : VaultFileV1)
    (password : String) (vek plaintext : Bytes) : Prop where
  params : validateKdfParams file.kdf = .ok ()
  vekLength : vek.length = VEK_BYTES
  slot : aes256GcmEncrypt crypto (kdf password file.kdf) file.passwordSlot.nonce vek
    PASSWORD_WRAP_AAD = .ok file.passwordSlot.wrappedVek
  payload : aes256GcmEncrypt crypto vek file.payload.nonce plaintext
    (payloadAad crypto.otherNumberText file.toVaultHeader) = .ok file.payload.ct

section Seals

variable {passwords : List String} {file : VaultFileV1} {password : String}
  {vek plaintext : Bytes}

theorem Seals.unwrapVek (h : Seals crypto kdf file password vek plaintext)
    (hcorrect : Correct crypto kdf passwords) :
    secureVault.unwrapVek crypto file (kdf password file.kdf) = .ok vek :=
  unwrapVek_eq_ok.2 (aes256GcmDecrypt_encrypt hcorrect h.slot)

/-- Another password opens nothing. -/
theorem Seals.wrongPassword (h : Seals crypto kdf file password vek plaintext)
    (hcorrect : Correct crypto kdf passwords) (hpassword : password ∈ passwords) {other : String}
    (hother : other ∈ passwords) (hne : other ≠ password) :
    secureVault.unwrapVek crypto file (kdf other file.kdf) = .error secureVault.wrongPassword := by
  obtain ⟨-, -, hct⟩ := aes256GcmEncrypt_eq_ok.1 h.slot
  have hnone : crypto.gcmDecrypt (kdf other file.kdf) file.passwordSlot.nonce
      file.passwordSlot.wrappedVek PASSWORD_WRAP_AAD = none := by
    rw [hct]
    exact hcorrect.authentic hpassword hother (hcorrect.distinct hpassword hother (Ne.symm hne))
  cases hopens : secureVault.unwrapVek crypto file (kdf other file.kdf) with
  | error e =>
    unfold secureVault.unwrapVek at hopens
    split at hopens
    · cases hopens
    · exact hopens.symm
  | ok v =>
    have hdecrypt := unwrapVek_eq_ok.1 hopens
    unfold aes256GcmDecrypt at hdecrypt
    obtain ⟨_, -, hdecrypt⟩ := bind_eq_ok_iff.1 hdecrypt
    rw [hnone] at hdecrypt
    split at hdecrypt
    · cases hdecrypt
    · cases hdecrypt

theorem Seals.eq_of_unwrapVek (h : Seals crypto kdf file password vek plaintext)
    (hcorrect : Correct crypto kdf passwords) (hpassword : password ∈ passwords) {other : String}
    (hother : other ∈ passwords) {v : Bytes}
    (hopens : secureVault.unwrapVek crypto file (kdf other file.kdf) = .ok v) : v = vek := by
  by_cases heq : other = password
  · subst heq
    exact ok.inj (hopens.symm.trans (h.unwrapVek hcorrect))
  · rw [h.wrongPassword hcorrect hpassword hother heq] at hopens
    cases hopens

theorem Seals.decrypts (h : Seals crypto kdf file password vek plaintext)
    (hcorrect : Correct crypto kdf passwords) (code : DecryptCode) :
    decryptPayloadBytes crypto file (some vek) code = .ok plaintext :=
  decryptPayloadBytes_eq_ok.2 ⟨vek, rfl, aes256GcmDecrypt_encrypt hcorrect h.payload⟩

/-- A sealed file is acceptable when its metadata and its biometric slot are. -/
theorem Seals.acceptable_iff (h : Seals crypto kdf file password vek plaintext)
    (hcorrect : Correct crypto kdf passwords)
    (hplaintext : plaintext.length = secretPayloadBytes file.fileMeta.wordCount) :
    file.Acceptable ↔
      (∀ slot ∈ file.biometricSlot, slot.Acceptable) ∧
        file.fileMeta.createdAt.isIntegerIn 0 MAX_SAFE_INTEGER = true ∧
        file.fileMeta.autoLockSeconds.isIntegerIn 1 2147483 = true := by
  obtain ⟨hkek, hnonce, hslot⟩ := aes256GcmEncrypt_eq_ok.1 h.slot
  obtain ⟨hvek, hpayloadNonce, hct⟩ := aes256GcmEncrypt_eq_ok.1 h.payload
  constructor
  · intro hacceptable
    exact ⟨hacceptable.biometricSlot, hacceptable.createdAt, hacceptable.autoLockSeconds⟩
  · rintro ⟨hbiometric, hcreatedAt, hautoLock⟩
    refine ⟨h.params, hnonce, ?_, hbiometric, hpayloadNonce, ?_, hcreatedAt, hautoLock⟩
    · rw [hslot, hcorrect.length hkek, h.vekLength]
      rfl
    · rw [hct, hcorrect.length hvek, hplaintext]
      rfl

end Seals

theorem validateKdfParams_withSalt {params : KdfParams} (h : validateKdfParams params = .ok ())
    {salt : Bytes} (hsalt : salt.length = KDF_SALT_BYTES) :
    validateKdfParams (params.withSalt salt) = .ok () := by
  have hbounds : 8 ≤ salt.length ∧ salt.length ≤ 64 := by
    rw [hsalt]
    decide
  cases params with
  | argon2id m t p _ =>
    exact validateKdfParams_argon2id.2 ⟨hbounds, (validateKdfParams_argon2id.1 h).2⟩
  | scrypt logN r p _ =>
    exact validateKdfParams_scrypt.2 ⟨hbounds, (validateKdfParams_scrypt.1 h).2⟩

/-! ### Parts of the methods -/

section Runs

variable {d d' : Device}

theorem ofExcept_runs {α : Type} {r : Except VaultError α} {a : α}
    (h : Program.Runs (deviceEffect kdf) (Program.ofExcept r) d (.ok a) d') : d' = d ∧ r = .ok a :=
  ⟨(Program.runs_ofExcept.1 h).2, (Program.runs_ofExcept.1 h).1.symm⟩

theorem randomBytes_runs {count : Nat} {bytes : Bytes}
    (h : Program.Runs (deviceEffect kdf) (randomBytes count) d (.ok bytes) d') :
    d' = d ∧ bytes.length = count :=
  ⟨(Program.runs_perform.1 h).1, (Program.runs_perform.1 h).2 bytes rfl⟩

theorem deriveKek_runs {password : String} {params : KdfParams} {kek : Bytes}
    (h : Program.Runs (deviceEffect kdf) (Program.perform (.deriveKek password params)) d (.ok kek)
      d') : d' = d ∧ kek = kdf password params :=
  ⟨(Program.runs_perform.1 h).1, (Program.runs_perform.1 h).2 kek rfl⟩

theorem memory_runs {m : Memory}
    (h : Program.Runs (deviceEffect kdf) (Program.perform .memory) d (.ok m) d') :
    d' = d ∧ m = d.world.memory := by
  obtain ⟨⟨hok, hworld⟩, hwrapped⟩ := Program.runs_perform.1 h
  refine ⟨?_, ok.inj hok⟩
  cases d'
  cases d
  simp only at hworld hwrapped
  rw [hworld, hwrapped]

theorem update_runs {change : Change} {out : Except VaultError Unit}
    (h : Program.Runs (deviceEffect kdf) (Program.perform (.update change)) d out d') :
    out = .ok () ∧ d'.wrapped = d.wrapped ∧ d'.world.storage = d.world.storage ∧
      ∃ now, d'.world.memory = change.apply now d.world.memory := by
  obtain ⟨⟨hok, now, hworld⟩, hwrapped⟩ := Program.runs_perform.1 h
  exact ⟨hok, hwrapped, by rw [hworld], now, by rw [hworld]⟩

theorem read_runs {name : StorageName} {content : Option Stored}
    (h : Program.Runs (deviceEffect kdf) (Program.perform (.read name)) d (.ok content) d') :
    d' = d ∧ content = d.world.storage name := by
  obtain ⟨⟨hok | ⟨e, herror⟩, hworld⟩, hwrapped⟩ := Program.runs_perform.1 h
  · refine ⟨?_, ok.inj hok⟩
    cases d'
    cases d
    simp only at hworld hwrapped
    rw [hworld, hwrapped]
  · cases herror

theorem write_runs {name : StorageName} {content : Stored}
    (h : Program.Runs (deviceEffect kdf) (Program.perform (.write name content)) d (.ok ()) d') :
    d'.wrapped = d.wrapped ∧ d'.world.memory = d.world.memory ∧
      d'.world.storage name = some content ∧
      ∀ other, other ≠ name → d'.world.storage other = d.world.storage other := by
  obtain ⟨⟨-, hworld⟩ | ⟨e, herror, -⟩, hwrapped⟩ := Program.runs_perform.1 h
  · rw [hworld]
    exact ⟨hwrapped, rfl, by simp [World.write], fun other hne => by simp [World.write, hne]⟩
  · cases herror

theorem readVaultFile_runs {file : VaultFileV1}
    (h : Program.Runs (deviceEffect kdf) (readVaultFile crypto) d (.ok file) d') :
    d' = d ∧ ∃ stored, d.world.storage .vaultFile = some stored ∧
      parseStored crypto.otherNumberText stored = .ok file := by
  obtain ⟨content, mid, hreadRun, h1⟩ := Program.runs_bind_ok.1 h
  obtain ⟨rfl, hcontent⟩ := read_runs hreadRun
  cases content with
  | none => cases h1.1
  | some stored =>
    obtain ⟨rfl, hparse⟩ := ofExcept_runs h1
    exact ⟨rfl, stored, hcontent.symm, hparse⟩

/-- A password opens a file under the key that it derives. -/
theorem openWithPassword_runs {file : VaultFileV1} {password : String} {opened : OpenedVault}
    (h : Program.Runs (deviceEffect kdf) (openWithPassword crypto file password) d (.ok opened)
      d') :
    d' = d ∧ unwrapVek crypto file (kdf password file.kdf) = .ok opened.vek ∧
      decryptPayload crypto file (some opened.vek) .wrong_password = .ok opened.payload := by
  obtain ⟨kek, mid, hkekRun, h1⟩ := Program.runs_bind_ok.1 h
  obtain ⟨rfl, rfl⟩ := deriveKek_runs hkekRun
  obtain ⟨vek, mid, hvekRun, h2⟩ := Program.runs_bind_ok.1 h1
  obtain ⟨rfl, hvek⟩ := ofExcept_runs hvekRun
  obtain ⟨payload, mid, hpayloadRun, h3⟩ := Program.runs_bind_ok.1 h2
  obtain ⟨rfl, hpayload⟩ := ofExcept_runs hpayloadRun
  obtain ⟨hopened, rfl⟩ := h3
  obtain rfl := ok.inj hopened
  exact ⟨rfl, hvek, hpayload⟩

/-- A biometric prompt opens a file with the key that stands behind its blob. -/
theorem openWithBiometrics_runs {file : VaultFileV1} {opened : OpenedVault}
    (h : Program.Runs (deviceEffect kdf) (openWithBiometrics crypto file) d (.ok opened) d') :
    d' = d ∧ ∃ slot ∈ file.biometricSlot, ∃ e ∈ d.wrapped,
      e.blob = slot.wrappedVek ∧ e.key = opened.vek := by
  unfold openWithBiometrics at h
  split at h
  · cases h.1
  · next slot hslot =>
    obtain ⟨vek, mid, hvekRun, h1⟩ := Program.runs_bind_ok.1 h
    obtain ⟨_, hunwrap, hok⟩ | ⟨e, _, -, hthrow⟩ := Program.runs_catchError.1 hvekRun
    · obtain rfl := ok.inj hok
      obtain ⟨rfl, hanswer⟩ := Program.runs_perform.1 hunwrap
      obtain ⟨e, he, hblob, hkey⟩ := hanswer vek rfl
      split at h1
      · cases h1.1
      · obtain ⟨payload, mid, hpayloadRun, h2⟩ := Program.runs_bind_ok.1 h1
        obtain ⟨rfl, -⟩ := ofExcept_runs hpayloadRun
        obtain ⟨hopened, rfl⟩ := h2
        obtain rfl := ok.inj hopened
        exact ⟨rfl, slot, hslot, e, he, hblob, hkey⟩
    · cases hthrow.1

/-- The rewrapped file: the vault key that the old password opens, under the new one. -/
theorem rewrapFile_runs {file updated : VaultFileV1} {oldPassword newPassword : String}
    (h : Program.Runs (deviceEffect kdf) (rewrapFile crypto file oldPassword newPassword) d
      (.ok updated) d') :
    d' = d ∧ ∃ vek plaintext salt, salt.length = KDF_SALT_BYTES ∧
      unwrapVek crypto file (kdf oldPassword file.kdf) = .ok vek ∧
      decryptPayloadBytes crypto file (some vek) .wrong_password = .ok plaintext ∧
      updated.kdf = file.kdf.withSalt salt ∧ updated.biometricSlot = file.biometricSlot ∧
      updated.fileMeta = file.fileMeta ∧
      aes256GcmEncrypt crypto (kdf newPassword updated.kdf) updated.passwordSlot.nonce vek
        PASSWORD_WRAP_AAD = .ok updated.passwordSlot.wrappedVek ∧
      aes256GcmEncrypt crypto vek updated.payload.nonce plaintext
        (payloadAad crypto.otherNumberText updated.toVaultHeader) = .ok updated.payload.ct := by
  obtain ⟨oldKek, mid, holdKekRun, h1⟩ := Program.runs_bind_ok.1 h
  obtain ⟨rfl, rfl⟩ := deriveKek_runs holdKekRun
  obtain ⟨vek, mid, hvekRun, h2⟩ := Program.runs_bind_ok.1 h1
  obtain ⟨rfl, hvek⟩ := ofExcept_runs hvekRun
  obtain ⟨salt, mid, hsaltRun, h3⟩ := Program.runs_bind_ok.1 h2
  obtain ⟨rfl, hsalt⟩ := randomBytes_runs hsaltRun
  obtain ⟨newKek, mid, hnewKekRun, h4⟩ := Program.runs_bind_ok.1 h3
  obtain ⟨rfl, rfl⟩ := deriveKek_runs hnewKekRun
  obtain ⟨nonce, mid, hnonceRun, h5⟩ := Program.runs_bind_ok.1 h4
  obtain ⟨rfl, -⟩ := randomBytes_runs hnonceRun
  obtain ⟨slot, mid, hslotRun, h6⟩ := Program.runs_bind_ok.1 h5
  obtain ⟨rfl, hslot⟩ := ofExcept_runs hslotRun
  obtain ⟨plaintext, mid, hplaintextRun, h7⟩ := Program.runs_bind_ok.1 h6
  obtain ⟨rfl, hplaintext⟩ := ofExcept_runs hplaintextRun
  obtain ⟨payloadNonce, mid, hpayloadNonceRun, h8⟩ := Program.runs_bind_ok.1 h7
  obtain ⟨rfl, -⟩ := randomBytes_runs hpayloadNonceRun
  obtain ⟨payload, mid, hpayloadRun, h9⟩ := Program.runs_bind_ok.1 h8
  obtain ⟨rfl, hpayload⟩ := ofExcept_runs hpayloadRun
  obtain ⟨hupdated, rfl⟩ := h9
  obtain rfl := ok.inj hupdated
  obtain ⟨rfl, hslot⟩ := wrapVek_eq_ok.1 hslot
  obtain ⟨rfl, hpayload⟩ := sealPayload_eq_ok.1 hpayload
  exact ⟨rfl, vek, plaintext, salt, hsalt, hvek, hplaintext, rfl, rfl, rfl, hslot, hpayload⟩

theorem assertUnlocked_device {m : Memory}
    (h : Program.Runs (deviceEffect kdf) assertUnlocked d (.ok m) d') :
    d' = d ∧ m = d.world.memory ∧ m.state = .unlocked := by
  obtain ⟨read, mid, hreadRun, h1⟩ := Program.runs_bind_ok.1 h
  obtain ⟨rfl, hmemory⟩ := memory_runs hreadRun
  cases hstate : read.state with
  | uninitialized =>
    rw [hstate] at h1
    cases h1.1
  | locked =>
    rw [hstate] at h1
    cases h1.1
  | unlocked =>
    rw [hstate] at h1
    obtain ⟨hok, rfl⟩ := h1
    obtain rfl := ok.inj hok
    exact ⟨rfl, hmemory, hstate⟩

theorem requireVek_device {vek : Option Bytes}
    (h : Program.Runs (deviceEffect kdf) requireVek d (.ok vek) d') :
    d' = d ∧ vek = d.world.memory.vek ∧ d.world.memory.state = .unlocked := by
  obtain ⟨m, mid, hassertRun, h1⟩ := Program.runs_bind_ok.1 h
  obtain ⟨rfl, rfl, hstate⟩ := assertUnlocked_device hassertRun
  obtain ⟨hok, rfl⟩ := h1
  exact ⟨rfl, ok.inj hok, hstate⟩

/-- The resealed file: new slots, and the payload that the live vault key opens. -/
theorem resealFile_runs {file updated : VaultFileV1} {passwordSlot : WrapSlot}
    {biometricSlot : Option BiometricWrapSlot}
    (h : Program.Runs (deviceEffect kdf) (resealFile crypto file passwordSlot biometricSlot) d
      (.ok updated) d') :
    d' = d ∧ ∃ vek plaintext, d.world.memory.vek = some vek ∧
      decryptPayloadBytes crypto file (some vek) .corrupt_vault = .ok plaintext ∧
      updated.kdf = file.kdf ∧ updated.passwordSlot = passwordSlot ∧
      updated.biometricSlot = biometricSlot ∧ updated.fileMeta = file.fileMeta ∧
      aes256GcmEncrypt crypto vek updated.payload.nonce plaintext
        (payloadAad crypto.otherNumberText updated.toVaultHeader) = .ok updated.payload.ct := by
  obtain ⟨live, mid, hliveRun, h1⟩ := Program.runs_bind_ok.1 h
  obtain ⟨rfl, rfl, -⟩ := requireVek_device hliveRun
  obtain ⟨plaintext, mid, hplaintextRun, h2⟩ := Program.runs_bind_ok.1 h1
  obtain ⟨rfl, hplaintext⟩ := ofExcept_runs hplaintextRun
  obtain ⟨payloadNonce, mid, hnonceRun, h3⟩ := Program.runs_bind_ok.1 h2
  obtain ⟨rfl, -⟩ := randomBytes_runs hnonceRun
  obtain ⟨key, mid, hkeyRun, h4⟩ := Program.runs_bind_ok.1 h3
  obtain ⟨rfl, hkey⟩ := ofExcept_runs hkeyRun
  obtain ⟨payload, mid, hpayloadRun, h5⟩ := Program.runs_bind_ok.1 h4
  obtain ⟨rfl, hpayload⟩ := ofExcept_runs hpayloadRun
  obtain ⟨hupdated, rfl⟩ := h5
  obtain rfl := ok.inj hupdated
  obtain ⟨vek, hvek, -⟩ := decryptPayloadBytes_eq_ok.1 hplaintext
  rw [hvek] at hkey hplaintext
  obtain rfl := ok.inj hkey
  obtain ⟨rfl, hpayload⟩ := sealPayload_eq_ok.1 hpayload
  exact ⟨rfl, vek, plaintext, hvek, hplaintext, rfl, rfl, rfl, rfl, hpayload⟩

/-- The key store stores the live vault key behind a biometric blob. -/
theorem wrapLiveVek_runs {blob : Bytes}
    (h : Program.Runs (deviceEffect kdf) wrapLiveVek d (.ok blob) d') :
    ∃ vek, d.world.memory.vek = some vek ∧ (∀ e ∈ d.wrapped, e.blob = blob → e.key = vek) ∧
      d' = { d with wrapped := ⟨blob, vek, true⟩ :: d.wrapped } := by
  obtain ⟨_, hwrap, hok⟩ | ⟨e, _, -, hthrow⟩ := Program.runs_catchError.1 h
  · obtain rfl := ok.inj hok
    obtain ⟨live, mid, hlive, hwrap⟩ := Program.runs_bind_ok.1 hwrap
    obtain ⟨rfl, rfl, -⟩ := requireVek_device hlive
    obtain ⟨e, herror, -⟩ | ⟨_, vek, hblob, hvek, hfresh, rfl⟩ := Program.runs_perform.1 hwrap
    · cases herror
    · obtain rfl := ok.inj hblob
      exact ⟨vek, hvek, hfresh, rfl⟩
  · cases hthrow.1

end Runs

end cemp.secureVault
