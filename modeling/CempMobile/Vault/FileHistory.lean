import CempMobile.Vault.FileInvariant

open cemp.core Except

namespace cemp.secureVault

/-! Creation, and then any sequence of successful calls on the vault. -/

/-- The calls that open, close and rewrite a vault. -/
def Maintains : VaultCall → Prop
  | .unlock _ | .unlockWithBiometrics | .lock | .timer => True
  | .changePassword _ _ | .enableBiometrics | .disableBiometrics => True
  | .createWithNewMnemonic _ _ _ | .importMnemonic _ _ _ _ => True
  | _ => False

/-- The passwords that a call is given. -/
def VaultCall.passwords : VaultCall → List String
  | .unlock password => [password]
  | .changePassword oldPassword newPassword => [oldPassword, newPassword]
  | _ => []

/-- The most recent password and the earlier ones, after a call. -/
def track (tracked : String × List String) : VaultCall → String × List String
  | .changePassword _ newPassword => (newPassword, tracked.1 :: tracked.2)
  | _ => tracked

variable {crypto : Crypto} {kdf : String → KdfParams → Bytes} {opts : CreateVaultOptions}
  {payload : VaultSecretPayload} {passwords : List String} {d d' : Device}

/-- Where a vault is, none is created. -/
theorem Vaulted.refuses {password : String} (h : Vaulted crypto kdf opts payload password d)
    (hassert : Program.Runs (deviceEffect kdf) assertCanInitialize d (.ok ()) d') : False := by
  obtain ⟨file, vek, plaintext, h⟩ := h
  have hempty := (assertCanInitialize_device hassert).2
  rw [h.stored] at hempty
  cases hempty

/-- What one successful call keeps. -/
theorem Vaulted.step {tracked : String × List String} {call : VaultCall}
    (h : Vaulted crypto kdf opts payload tracked.1 d) (hcorrect : Correct crypto kdf passwords)
    (htracked : tracked.1 ∈ passwords) (hmaintains : Maintains call)
    (hgiven : ∀ password ∈ call.passwords, password ∈ passwords)
    (hrun : Program.Runs (deviceEffect kdf) (method crypto call) d (.ok ()) d') :
    Vaulted crypto kdf opts payload (track tracked call).1 d' := by
  cases call with
  | unlock given => exact h.unlock hcorrect htracked (hgiven _ (by simp [VaultCall.passwords])) hrun
  | unlockWithBiometrics => exact h.unlockWithBiometrics hrun
  | lock => exact h.lock hrun
  | timer => exact h.lock hrun
  | changePassword oldPassword newPassword =>
    exact h.changePassword hcorrect htracked (hgiven _ (by simp [VaultCall.passwords])) hrun
  | enableBiometrics => exact h.enableBiometrics hcorrect hrun
  | disableBiometrics => exact h.disableBiometrics hcorrect hrun
  | createWithNewMnemonic wordCount password opts =>
    obtain ⟨words, mid, hcreate, -⟩ := Program.runs_bind_ok.1 hrun
    obtain ⟨_, _, hassert, -⟩ := Program.runs_bind_ok.1 hcreate
    exact (h.refuses hassert).elim
  | importMnemonic words password passphrase opts =>
    obtain ⟨_, _, hassert, -⟩ := Program.runs_bind_ok.1 hrun
    exact (h.refuses hassert).elim
  | revealMnemonic password => exact hmaintains.elim
  | touch => exact hmaintains.elim
  | withUnlockedSeed => exact hmaintains.elim
  | getDatabaseKey => exact hmaintains.elim
  | unwrapDatabaseKey => exact hmaintains.elim
  | generateMnemonicQuiz wordCount => exact hmaintains.elim
  | verifyMnemonicQuiz positions answers => exact hmaintains.elim
  | wipe => exact hmaintains.elim
  | getMetadata => exact hmaintains.elim

/-- The tracked passwords are among those that were given. -/
theorem track_mem {tracked : String × List String} {call : VaultCall}
    (htracked : ∀ password ∈ tracked.1 :: tracked.2, password ∈ passwords)
    (hgiven : ∀ password ∈ call.passwords, password ∈ passwords) :
    ∀ password ∈ (track tracked call).1 :: (track tracked call).2, password ∈ passwords := by
  cases call with
  | changePassword oldPassword newPassword =>
    intro password hpassword
    obtain rfl | hearlier := List.mem_cons.1 hpassword
    · exact hgiven _ (by simp [VaultCall.passwords])
    · exact htracked password hearlier
  | _ => exact htracked

/-- What a run of successful calls keeps. -/
theorem Vaulted.run {tracked : String × List String} {calls : List VaultCall}
    (h : Vaulted crypto kdf opts payload tracked.1 d) (hcorrect : Correct crypto kdf passwords)
    (htracked : ∀ password ∈ tracked.1 :: tracked.2, password ∈ passwords)
    (hcalls : ∀ call ∈ calls, Maintains call ∧ ∀ password ∈ call.passwords, password ∈ passwords)
    (hrun : Program.Runs (deviceEffect kdf) (Program.forEach (method crypto) calls) d (.ok ()) d') :
    Vaulted crypto kdf opts payload (calls.foldl track tracked).1 d' ∧
      ∀ password ∈ (calls.foldl track tracked).1 :: (calls.foldl track tracked).2,
        password ∈ passwords := by
  induction calls generalizing tracked d with
  | nil =>
    obtain ⟨-, rfl⟩ := hrun
    exact ⟨h, htracked⟩
  | cons call calls ih =>
    obtain ⟨hmaintains, hgiven⟩ := hcalls call List.mem_cons_self
    obtain ⟨_, mid, hfirst, hrest⟩ := Program.runs_bind_ok.1 hrun
    exact ih (h.step hcorrect (htracked _ List.mem_cons_self) hmaintains hgiven hfirst)
      (track_mem htracked hgiven) (fun c hc => hcalls c (List.mem_cons_of_mem _ hc)) hrest

/-- After a creation and any sequence of successful calls, the stored file is accepted, opens with
    the most recent password alone, holds the original payload, and a biometric slot that unwraps
    its key, exactly when the options of the creation were in the range that the reader accepts, and
    every blob that the key store returned for a biometric slot. -/
theorem stored_file_opens_iff {creation : Creation} {words : List String}
    (hcreate : Program.Runs (deviceEffect kdf) (creation.program crypto) Device.fresh (.ok words) d) :
    ∃ payload, creation.Original crypto words payload ∧
      ∀ (calls : List VaultCall) (d' : Device), (∀ call ∈ calls, Maintains call) →
        Correct crypto kdf (creation.password :: calls.flatMap VaultCall.passwords) →
        Program.Runs (deviceEffect kdf) (Program.forEach (method crypto) calls) d (.ok ()) d' →
        ((∃ stored file vek, FileOpens crypto kdf d'
            (calls.foldl track (creation.password, [])).1
            (calls.foldl track (creation.password, [])).2 payload stored file vek) ↔
          creation.opts.InRange ∧
            ∀ e ∈ d'.wrapped, e.biometric = true → BlobInRange e.blob) := by
  obtain ⟨payload, horiginal, hvaulted⟩ := Creation.vaulted hcreate
  refine ⟨payload, horiginal, fun calls d' hmaintains hcorrect hrun => ?_⟩
  have hfirst : ∀ password ∈ [creation.password],
      password ∈ creation.password :: calls.flatMap VaultCall.passwords :=
    fun password h => List.mem_singleton.1 h ▸ List.mem_cons_self
  have hcalls : ∀ call ∈ calls, Maintains call ∧ ∀ password ∈ call.passwords,
      password ∈ creation.password :: calls.flatMap VaultCall.passwords :=
    fun call hcall => ⟨hmaintains call hcall, fun password h =>
      List.mem_cons_of_mem _ (List.mem_flatMap.2 ⟨call, hcall, h⟩)⟩
  have hstart : Vaulted crypto kdf creation.opts payload (creation.password, ([] : List String)).1 d :=
    hvaulted
  obtain ⟨⟨file, vek, plaintext, hholds⟩, hpasswords⟩ := hstart.run hcorrect hfirst hcalls hrun
  exact hholds.opens_iff hcorrect (hpasswords _ List.mem_cons_self)
    fun other hother => hpasswords other (List.mem_cons_of_mem _ hother)

/-! ### A rig -/

/-- A device, and how many bytes a wrapped key has before the key itself. -/
structure DeviceRig where
  device : Device
  blobHeader : Nat := 13

/-- A key store that answers a key with a blob of its own, and everything else as before. -/
def DeviceRig.handle : Program.Handler VaultOp VaultError DeviceRig
  | _, .wrap (some key) biometric, rig =>
    let blob := List.replicate rig.blobHeader 1 ++ key
    if rig.device.wrapped.all fun e => e.blob ≠ blob || e.key = key then
      (.ok blob, { rig with device.wrapped := ⟨blob, key, biometric⟩ :: rig.device.wrapped })
    else (.error .external, rig)
  | _, .wrap none _, rig => (.error .external, rig)
  | _, .unwrap blob, rig =>
    match rig.device.wrapped.find? fun e => e.blob = blob with
    | some e => (.ok e.key, rig)
    | none => (.error .external, rig)
  | β, op, rig =>
    let answer := Rig.handle β op { world := rig.device.world }
    (answer.1, { rig with device.world := answer.2.world })

def deviceKek (password : String) (_ : KdfParams) : Bytes := rigKek password

theorem DeviceRig.handle_device {β : Type} (op : VaultOp β) (rig : DeviceRig) :
    deviceEffect deviceKek β op rig.device (handle β op rig).1 (handle β op rig).2.device := by
  cases op with
  | wrap key biometric =>
    cases key with
    | none => exact .inl ⟨_, rfl, rfl⟩
    | some key =>
      simp only [handle]
      split
      · next hall =>
        refine .inr ⟨_, key, rfl, rfl, fun e he hblob => ?_, rfl⟩
        have hentry := List.all_eq_true.1 hall e he
        simpa [hblob] using hentry
      · exact .inl ⟨_, rfl, rfl⟩
  | unwrap blob =>
    simp only [handle]
    split
    · next e hfound =>
      refine ⟨rfl, fun key hkey => ?_⟩
      have hblob := List.find?_some hfound
      exact ⟨e, List.mem_of_find?_eq_some hfound, by simpa using hblob, ok.inj hkey⟩
    · exact ⟨rfl, fun key hkey => by cases hkey⟩
  | deriveKek password params => exact ⟨rfl, fun kek hkek => (ok.inj hkek).symm⟩
  | randomBytes count =>
    refine ⟨rfl, fun bytes hbytes => ?_⟩
    rw [← ok.inj hbytes, List.length_replicate]
  | now =>
    refine ⟨rfl, fun t ht => ?_⟩
    rw [← ok.inj ht]
    decide
  | memory => exact ⟨Rig.handle_storage .memory { world := rig.device.world }, rfl⟩
  | update change =>
    exact ⟨Rig.handle_storage (.update change) { world := rig.device.world }, rfl⟩
  | read name => exact ⟨Rig.handle_storage (.read name) { world := rig.device.world }, rfl⟩
  | write name content =>
    exact ⟨Rig.handle_storage (.write name content) { world := rig.device.world }, rfl⟩
  | delete name => exact ⟨Rig.handle_storage (.delete name) { world := rig.device.world }, rfl⟩
  | isBiometricAvailable => exact ⟨rfl, rfl⟩
  | deleteKey => exact ⟨rfl, rfl⟩

theorem rigKek_length (password : String) : (rigKek password).length = AES_256_KEY_BYTES :=
  List.length_replicate

/-- The cryptography of the rig is correct for passwords that differ in length. -/
theorem rigCrypto_correct {passwords : List String}
    (hdistinct : ∀ p ∈ passwords, ∀ q ∈ passwords, p ≠ q →
      UInt8.ofNat p.length ≠ UInt8.ofNat q.length) :
    Correct rigCrypto deviceKek passwords := by
  have htag : ∀ {key : Bytes}, key.length = AES_256_KEY_BYTES → (key.take 16).length = 16 := by
    intro key hkey
    rw [List.length_take, hkey]
    rfl
  have hopen : ∀ {key other plaintext : Bytes}, key.length = AES_256_KEY_BYTES →
      (plaintext ++ key.take 16).length - 16 = plaintext.length := by
    intro key other plaintext hkey
    rw [List.length_append, htag hkey, Nat.add_sub_cancel]
  refine ⟨?_, ?_, ?_, ?_⟩
  · intro key nonce plaintext aad hkey _
    simp only [rigCrypto, @hopen key key plaintext hkey, List.drop_left, List.take_left, if_true]
  · intro key nonce plaintext aad hkey
    simp only [rigCrypto, List.length_append, htag hkey]
    rfl
  · intro p q params hp hq hne heq
    obtain ⟨-, h32 | hbyte⟩ := List.replicate_inj.1 heq
    · cases h32
    · exact hdistinct p hp q hq hne hbyte
  · intro p q params nonce plaintext aad hp hq hne
    have hp16 := @hopen (rigKek p) (rigKek q) plaintext (rigKek_length p)
    simp only [rigCrypto, deviceKek, hp16, List.drop_left]
    rw [if_neg]
    intro heq
    simp only [rigKek, List.take_replicate] at heq
    obtain ⟨-, h16 | hbyte⟩ := List.replicate_inj.1 heq
    · cases h16
    · exact hne (congrArg (List.replicate 32) hbyte)

/-! A vault is created, its password is changed, and it is locked. -/

def keptVault : Creation := .importMnemonic ["abandon"] "password" none {}

def maintained : List VaultCall :=
  [.changePassword "password" "a longer password", .lock]

def createdRun (creation : Creation) : Except VaultError (List String) × DeviceRig :=
  Program.run DeviceRig.handle (creation.program rigCrypto) ⟨Device.fresh, 13⟩

def maintainedRun : Except VaultError Unit × DeviceRig :=
  Program.run DeviceRig.handle (Program.forEach (method rigCrypto) maintained)
    (createdRun keptVault).2

theorem createdRun_runs {creation : Creation} {words : List String}
    (hwords : (createdRun creation).1 = .ok words) :
    Program.Runs (deviceEffect deviceKek) (creation.program rigCrypto) Device.fresh (.ok words)
      (createdRun creation).2.device := by
  rw [← hwords]
  exact Program.runs_of_run DeviceRig.handle DeviceRig.device DeviceRig.handle_device
    (creation.program rigCrypto) ⟨Device.fresh, 13⟩

theorem maintainedRun_out : maintainedRun.1 = .ok () := by decide +kernel

theorem maintainedRun_runs :
    Program.Runs (deviceEffect deviceKek) (Program.forEach (method rigCrypto) maintained)
      (createdRun keptVault).2.device (.ok ()) maintainedRun.2.device := by
  rw [← maintainedRun_out]
  exact Program.runs_of_run DeviceRig.handle DeviceRig.device DeviceRig.handle_device _ _

theorem stored_file_opens_maintained :
    ∃ payload, keptVault.Original rigCrypto ["abandon"] payload ∧
      ((∃ stored file vek, FileOpens rigCrypto deviceKek maintainedRun.2.device
          "a longer password" ["password"] payload stored file vek) ↔
        keptVault.opts.InRange ∧ ∀ e ∈ maintainedRun.2.device.wrapped, e.biometric = true →
          BlobInRange e.blob) := by
  have hcreate : Program.Runs (deviceEffect deviceKek) (keptVault.program rigCrypto) Device.fresh
      (.ok ["abandon"]) (createdRun keptVault).2.device := createdRun_runs (by decide +kernel)
  obtain ⟨payload, horiginal, hopens⟩ := stored_file_opens_iff hcreate
  refine ⟨payload, horiginal, hopens maintained _ ?_ (rigCrypto_correct ?_) maintainedRun_runs⟩
  · simp [maintained, Maintains]
  · decide +kernel

/-! A vault that is created with an inactivity deadline of no seconds is stored, and refused. -/

def refusedVault : Creation :=
  .importMnemonic ["abandon"] "password" none { autoLockSeconds := some (.finite 0) }

theorem stored_file_refused :
    ¬∀ (crypto : Crypto) (kdf : String → KdfParams → Bytes) (creation : Creation)
      (words : List String) (d d' : Device) (calls : List VaultCall),
      (∀ call ∈ calls, Maintains call) →
      Correct crypto kdf (creation.password :: calls.flatMap VaultCall.passwords) →
      Program.Runs (deviceEffect kdf) (creation.program crypto) Device.fresh (.ok words) d →
      Program.Runs (deviceEffect kdf) (Program.forEach (method crypto) calls) d (.ok ()) d' →
      ∃ payload stored file vek, creation.Original crypto words payload ∧
        FileOpens crypto kdf d' (calls.foldl track (creation.password, [])).1
          (calls.foldl track (creation.password, [])).2 payload stored file vek := by
  intro h
  have hcreate : Program.Runs (deviceEffect deviceKek) (refusedVault.program rigCrypto)
      Device.fresh (.ok ["abandon"]) (createdRun refusedVault).2.device :=
    createdRun_runs (by decide +kernel)
  have hcorrect : Correct rigCrypto deviceKek [refusedVault.password] :=
    rigCrypto_correct (by decide +kernel)
  generalize (createdRun refusedVault).2.device = d at hcreate
  obtain ⟨payload, stored, file, vek, -, hopens⟩ :=
    h rigCrypto deviceKek refusedVault ["abandon"] d d [] (by simp) hcorrect hcreate
      (Program.runs_ret.2 ⟨rfl, rfl⟩)
  obtain ⟨_, -, file', vek', plaintext, hholds⟩ := Creation.vaulted hcreate
  have hacceptable := ((hholds.parse_iff hopens.read).1 hopens.accepted).2
  obtain ⟨hrange, -⟩ := (hholds.acceptable_iff hcorrect).1 hacceptable
  exact absurd hrange.autoLockSeconds (by decide +kernel)

end cemp.secureVault
