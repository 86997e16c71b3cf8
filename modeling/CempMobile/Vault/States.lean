import CempMobile.Vault.World

open cemp.core

namespace cemp.secureVault

/-! Sequences of vault calls, any of which may throw wherever it awaits something. -/

/-- A call on the vault, or the inactivity timer firing. -/
inductive VaultCall where
  | createWithNewMnemonic (wordCount : VaultWordCount) (password : String)
    (opts : CreateVaultOptions)
  | importMnemonic (words : List String) (password : String) (passphrase : Option String)
    (opts : CreateVaultOptions)
  | unlock (password : String)
  | unlockWithBiometrics
  | lock
  | timer
  | revealMnemonic (password : String)
  | changePassword (oldPassword newPassword : String)
  | enableBiometrics
  | disableBiometrics
  | touch
  | withUnlockedSeed
  | getDatabaseKey
  | unwrapDatabaseKey
  | generateMnemonicQuiz (wordCount : Nat)
  | verifyMnemonicQuiz (positions : List Nat) (answers : List String)
  | wipe
  | getMetadata

/-- The method of a call. Its result is not followed. -/
def method (crypto : Crypto) : VaultCall → Vault Unit
  | .createWithNewMnemonic wordCount password opts =>
    (createWithNewMnemonic crypto wordCount password opts).bind fun _ => .ret ()
  | .importMnemonic words password passphrase opts =>
    importMnemonic crypto words password passphrase opts
  | .unlock password => unlock crypto password
  | .unlockWithBiometrics => unlockWithBiometrics crypto
  | .lock => lock
  | .timer => lock
  | .revealMnemonic password => (revealMnemonic crypto password).bind fun _ => .ret ()
  | .changePassword oldPassword newPassword => changePassword crypto oldPassword newPassword
  | .enableBiometrics => enableBiometrics crypto
  | .disableBiometrics => disableBiometrics crypto
  | .touch => touch
  | .withUnlockedSeed => withUnlockedSeed.bind fun _ => .ret ()
  | .getDatabaseKey => (getDatabaseKey crypto).bind fun _ => .ret ()
  | .unwrapDatabaseKey => (unwrapDatabaseKey crypto).bind fun _ => .ret ()
  | .generateMnemonicQuiz wordCount =>
    (generateMnemonicQuiz crypto wordCount).bind fun _ => .ret ()
  | .verifyMnemonicQuiz positions answers =>
    (verifyMnemonicQuiz crypto positions answers).bind fun _ => .ret ()
  | .wipe => wipe
  | .getMetadata => (getMetadata crypto).bind fun _ => .ret ()

/-- The secrets are there, with a deadline, while the vault reports `unlocked`; otherwise there
    are none. -/
structure Memory.Sound (m : Memory) : Prop where
  unlocked : m.state = .unlocked ↔
    m.vek.isSome = true ∧ m.seed.isSome = true ∧ m.autoLockDeadline.isSome = true
  absent : m.state ≠ .unlocked → m.vek = none ∧ m.seed = none ∧ m.dbKey = none

theorem Memory.opened_sound (stored : Bool) : (Memory.opened stored).Sound := by
  cases stored with
  | false => exact ⟨by simp [opened], by simp [opened]⟩
  | true => exact ⟨by simp [opened], by simp [opened]⟩

/-! ### Single changes -/

section Change

variable {m : Memory} {now : Number}

theorem Memory.setUnlocked_sound (m : Memory) (vek seed : Bytes) (seconds now : Number) :
    (m.setUnlocked vek seed seconds now).Sound :=
  ⟨by simp [setUnlocked, startAutoLockTimer], by simp [setUnlocked, startAutoLockTimer]⟩

theorem Memory.lock_sound : (Change.lock.apply now m).Sound := by
  have hstate : (Change.lock.apply now m).state ≠ .unlocked := by
    simp only [Change.apply]
    split
    · decide
    · assumption
  refine ⟨iff_of_false hstate ?_, fun _ => ⟨rfl, rfl, rfl⟩⟩
  rintro ⟨hvek, -⟩
  cases hvek

theorem Memory.Sound.touch (h : m.Sound) : (Change.touch.apply now m).Sound := by
  simp only [Change.apply]
  split
  · next hstate =>
    obtain ⟨hvek, hseed, -⟩ := h.unlocked.1 hstate
    refine ⟨iff_of_true hstate ⟨hvek, hseed, rfl⟩, fun hne => absurd hstate hne⟩
  · exact h

/-- Clearing the secrets is sound only where the state does not say that they are there. -/
theorem Memory.clear_sound_iff : (Change.clear.apply now m).Sound ↔ m.state ≠ .unlocked := by
  constructor
  · intro h hstate
    obtain ⟨hvek, -⟩ := h.unlocked.1 hstate
    cases hvek
  · intro hstate
    refine ⟨iff_of_false hstate ?_, fun _ => ⟨rfl, rfl, rfl⟩⟩
    rintro ⟨hvek, -⟩
    cases hvek

theorem Memory.setUninitialized_sound (later : Number) :
    (Change.setUninitialized.apply later (Change.clear.apply now m)).Sound := by
  refine ⟨iff_of_false (by simp [Change.apply]) ?_, fun _ => ⟨rfl, rfl, rfl⟩⟩
  rintro ⟨hvek, -⟩
  cases hvek

end Change

/-! ### The methods that keep the equivalence -/

/-- Calls that keep the equivalence wherever they are made. -/
def Keeps : ∀ β : Type, VaultOp β → Prop
  | _, .update .clear => False
  | _, .update .setUninitialized => False
  | _, .update (.cacheDatabaseKey _) => False
  | _, _ => True

theorem Keeps.sound {β : Type} {op : VaultOp β} {m m' : Memory} {r : Except VaultError β}
    (hkeeps : Keeps β op) (h : memoryEffect β op m r m') (hm : m.Sound) : m'.Sound := by
  cases op with
  | memory => exact h.2 ▸ hm
  | update change =>
    obtain ⟨-, now, rfl⟩ := h
    cases change with
    | setUnlocked vek seed seconds => exact m.setUnlocked_sound vek seed seconds now
    | lock => exact Memory.lock_sound
    | touch => exact hm.touch
    | clear => exact hkeeps.elim
    | setUninitialized => exact hkeeps.elim
    | cacheDatabaseKey key => exact hkeeps.elim
  | read name => exact h ▸ hm
  | write name content => exact h ▸ hm
  | delete name => exact h ▸ hm
  | wrap key biometric => exact h ▸ hm
  | unwrap blob => exact h ▸ hm
  | isBiometricAvailable => exact h ▸ hm
  | deleteKey => exact h ▸ hm
  | deriveKek password params => exact h ▸ hm
  | randomBytes count => exact h ▸ hm
  | now => exact h ▸ hm

variable {crypto : Crypto}

theorem keeps_of_quiet {α : Type} {p : Vault α} (h : Program.Uses Quiet p) :
    Program.Uses Keeps p := by
  refine h.mono fun β op hquiet => ?_
  cases op with
  | update change => exact hquiet.elim
  | _ => trivial

theorem performs_keeps {α : Type} {op : VaultOp α} (h : Keeps α op) :
    Program.Uses Keeps (Program.perform op : Vault α) :=
  Program.uses_perform.2 h

theorem unlock_keeps (password : String) : Program.Uses Keeps (unlock crypto password) := by
  refine (keeps_of_quiet readVaultFile_quiet).bind fun file => ?_
  refine (keeps_of_quiet (openWithPassword_quiet _ _)).bind fun opened => ?_
  exact performs_keeps (by trivial)

theorem unlockWithBiometrics_keeps : Program.Uses Keeps (unlockWithBiometrics crypto) := by
  refine (keeps_of_quiet readVaultFile_quiet).bind fun file => ?_
  refine (keeps_of_quiet (openWithBiometrics_quiet _)).bind fun opened => ?_
  exact performs_keeps (by trivial)

theorem buildVault_keeps (payload : VaultSecretPayload) (wordCount : VaultWordCount)
    (password : String) (opts : CreateVaultOptions) :
    Program.Uses Keeps (buildVault crypto payload wordCount password opts) := by
  refine (keeps_of_quiet (prepareVault_quiet _ _ _ _)).bind fun prepared => ?_
  refine (performs_keeps (by trivial)).bind fun _ => ?_
  exact (performs_keeps (by trivial)).bind fun _ => performs_keeps (by trivial)

theorem createWithNewMnemonic_keeps (wordCount : VaultWordCount) (password : String)
    (opts : CreateVaultOptions) :
    Program.Uses Keeps (createWithNewMnemonic crypto wordCount password opts) := by
  refine (keeps_of_quiet assertCanInitialize_quiet).bind fun _ => ?_
  refine (keeps_of_quiet (orElse_quiet (performs_quiet (by trivial)))).bind fun entropy => ?_
  split
  · trivial
  · refine (keeps_of_quiet (ofExcept_quiet _)).bind fun mnemonic => ?_
    refine (keeps_of_quiet (ofExcept_quiet _)).bind fun seed => ?_
    exact (buildVault_keeps _ _ _ _).bind fun _ => trivial

theorem importMnemonic_keeps (words : List String) (password : String)
    (passphrase : Option String) (opts : CreateVaultOptions) :
    Program.Uses Keeps (importMnemonic crypto words password passphrase opts) := by
  refine (keeps_of_quiet assertCanInitialize_quiet).bind fun _ => ?_
  dsimp only
  split
  · trivial
  · split
    · trivial
    · split
      · trivial
      · exact (keeps_of_quiet (ofExcept_quiet _)).bind fun seed => buildVault_keeps _ _ _ _

theorem changePassword_keeps (oldPassword newPassword : String) :
    Program.Uses Keeps (changePassword crypto oldPassword newPassword) := by
  refine (keeps_of_quiet readVaultFile_quiet).bind fun file => ?_
  refine (keeps_of_quiet (rewrapFile_quiet _ _ _)).bind fun updated => ?_
  exact performs_keeps (by trivial)

theorem rewriteSlots_keeps (file : VaultFileV1) (passwordSlot : WrapSlot)
    (biometricSlot : Option BiometricWrapSlot) :
    Program.Uses Keeps (rewriteSlots crypto file passwordSlot biometricSlot) :=
  (keeps_of_quiet (resealFile_quiet _ _ _)).bind fun updated => performs_keeps (by trivial)

theorem enableBiometrics_keeps : Program.Uses Keeps (enableBiometrics crypto) := by
  refine (keeps_of_quiet assertUnlocked_quiet).bind fun _ => ?_
  refine (performs_keeps (by trivial)).bind fun available => ?_
  split
  · trivial
  · refine (keeps_of_quiet readVaultFile_quiet).bind fun file => ?_
    split
    · trivial
    · exact (keeps_of_quiet wrapLiveVek_quiet).bind fun blob => rewriteSlots_keeps _ _ _

theorem disableBiometrics_keeps : Program.Uses Keeps (disableBiometrics crypto) := by
  refine (keeps_of_quiet assertUnlocked_quiet).bind fun _ => ?_
  refine (keeps_of_quiet readVaultFile_quiet).bind fun file => ?_
  split
  · trivial
  · exact rewriteSlots_keeps _ _ _

/-! ### The two others -/

theorem assertUnlocked_runs {m m' : Memory} {out : Except VaultError Memory}
    (h : Program.Runs memoryEffect assertUnlocked m out m') :
    m' = m ∧ ∀ read, out = .ok read → read = m ∧ m.state = .unlocked := by
  obtain ⟨read, mid, hread, hrest⟩ | ⟨e, hread, rfl⟩ := Program.runs_bind.1 h
  · obtain ⟨hok, rfl⟩ := Program.runs_perform.1 hread
    obtain rfl := Except.ok.inj hok
    cases hstate : read.state with
    | uninitialized =>
      rw [hstate] at hrest
      obtain ⟨rfl, rfl⟩ := hrest
      exact ⟨rfl, by simp⟩
    | locked =>
      rw [hstate] at hrest
      obtain ⟨rfl, rfl⟩ := hrest
      exact ⟨rfl, by simp⟩
    | unlocked =>
      rw [hstate] at hrest
      obtain ⟨rfl, rfl⟩ := hrest
      exact ⟨rfl, by simp⟩
  · obtain ⟨hok, -⟩ := Program.runs_perform.1 hread
    cases hok

theorem Memory.Sound.cacheDatabaseKey {m : Memory} {key : Bytes} {now : Number} (h : m.Sound)
    (hstate : m.state = .unlocked) : ((Change.cacheDatabaseKey key).apply now m).Sound :=
  ⟨h.unlocked, fun hne => absurd hstate hne⟩

/-- Calls that change nothing but the cached database key. -/
def Caches : ∀ β : Type, VaultOp β → Prop
  | _, .update (.cacheDatabaseKey _) => True
  | _, .update _ => False
  | _, _ => True

theorem Caches.sound {β : Type} {op : VaultOp β} {m m' : Memory} {r : Except VaultError β}
    (hcaches : Caches β op) (h : memoryEffect β op m r m') (hm : m.Sound ∧ m.state = .unlocked) :
    m'.Sound ∧ m'.state = .unlocked := by
  cases op with
  | memory => exact h.2 ▸ hm
  | update change =>
    obtain ⟨-, now, rfl⟩ := h
    cases change with
    | cacheDatabaseKey key => exact ⟨hm.1.cacheDatabaseKey hm.2, hm.2⟩
    | setUnlocked vek seed seconds => exact hcaches.elim
    | lock => exact hcaches.elim
    | touch => exact hcaches.elim
    | clear => exact hcaches.elim
    | setUninitialized => exact hcaches.elim
  | read name => exact h ▸ hm
  | write name content => exact h ▸ hm
  | delete name => exact h ▸ hm
  | wrap key biometric => exact h ▸ hm
  | unwrap blob => exact h ▸ hm
  | isBiometricAvailable => exact h ▸ hm
  | deleteKey => exact h ▸ hm
  | deriveKek password params => exact h ▸ hm
  | randomBytes count => exact h ▸ hm
  | now => exact h ▸ hm

theorem ofExcept_caches {α : Type} (r : Except VaultError α) :
    Program.Uses Caches (Program.ofExcept r : Vault α) := by
  cases r <;> trivial

theorem requireSeed_caches : Program.Uses Caches requireSeed := by
  refine Program.Uses.bind (Program.Uses.bind (Program.uses_perform.2 trivial) fun m => ?_)
    fun m => trivial
  split <;> trivial

theorem deriveDatabaseKey_caches : Program.Uses Caches (deriveDatabaseKey crypto) := by
  refine requireSeed_caches.bind fun seed => ?_
  refine (ofExcept_caches _).bind fun bytes => ?_
  refine (ofExcept_caches _).bind fun key => ?_
  exact Program.Uses.bind (Program.uses_perform.2 trivial) fun _ => trivial

/-- The database key is cached only next to the seed it was derived from. -/
theorem getDatabaseKey_sound {m m' : Memory} {out : Except VaultError Bytes}
    (h : Program.Runs memoryEffect (getDatabaseKey crypto) m out m') (hm : m.Sound) : m'.Sound := by
  obtain ⟨read, mid, hread, hrest⟩ | ⟨e, hread, rfl⟩ := Program.runs_bind.1 h
  · obtain ⟨rfl, hunlocked⟩ := assertUnlocked_runs hread
    obtain ⟨rfl, hstate⟩ := hunlocked read rfl
    split at hrest
    · obtain ⟨-, rfl⟩ := hrest
      exact hm
    · exact (hrest.preserves deriveDatabaseKey_caches (fun _ _ _ _ _ => Caches.sound)
        ⟨hm, hstate⟩).1
  · obtain ⟨rfl, -⟩ := assertUnlocked_runs hread
    exact hm

/-- A wipe clears the secrets first, and says so only when everything was deleted. -/
theorem wipe_runs {m m' : Memory} {out : Except VaultError Unit}
    (h : Program.Runs memoryEffect wipe m out m') :
    (∃ e now, out = .error e ∧ m' = Change.clear.apply now m) ∨
      out = .ok () ∧
        ∃ now later, m' = Change.setUninitialized.apply later (Change.clear.apply now m) := by
  obtain ⟨_, mid, hclear, hrest⟩ | ⟨e, hclear, rfl⟩ := Program.runs_bind.1 h
  · obtain ⟨-, now, rfl⟩ := Program.runs_perform.1 hclear
    obtain ⟨_, mid, hfile, hrest⟩ | ⟨e, hfile, rfl⟩ := Program.runs_bind.1 hrest
    · obtain rfl := Program.runs_perform.1 hfile
      obtain ⟨_, mid, hkey, hrest⟩ | ⟨e, hkey, rfl⟩ := Program.runs_bind.1 hrest
      · obtain rfl := Program.runs_perform.1 hkey
        obtain ⟨_, mid, hdelete, hrest⟩ | ⟨e, hdelete, rfl⟩ := Program.runs_bind.1 hrest
        · obtain ⟨_, hdelete, -⟩ | ⟨e, mid', hdelete, hthrow⟩ := Program.runs_catchError.1 hdelete
          · obtain rfl := Program.runs_perform.1 hdelete
            obtain ⟨rfl, later, rfl⟩ := Program.runs_perform.1 hrest
            exact .inr ⟨rfl, now, later, rfl⟩
          · cases hthrow.1
        · obtain ⟨_, -, heq⟩ | ⟨e', mid', hdelete, hthrow⟩ := Program.runs_catchError.1 hdelete
          · cases heq
          · obtain rfl := Program.runs_perform.1 hdelete
            exact .inl ⟨e, now, rfl, hthrow.2⟩
      · obtain rfl := Program.runs_perform.1 hkey
        exact .inl ⟨e, now, rfl, rfl⟩
    · obtain rfl := Program.runs_perform.1 hfile
      exact .inl ⟨e, now, rfl, rfl⟩
  · obtain ⟨hok, -⟩ := Program.runs_perform.1 hclear
    cases hok

/-! ### Sequences of calls -/

theorem method_keeps {call : VaultCall} (hwipe : call ≠ .wipe) (hkey : call ≠ .getDatabaseKey) :
    Program.Uses Keeps (method crypto call) := by
  cases call with
  | createWithNewMnemonic wordCount password opts =>
    exact (createWithNewMnemonic_keeps _ _ _).bind fun _ => trivial
  | importMnemonic words password passphrase opts => exact importMnemonic_keeps _ _ _ _
  | unlock password => exact unlock_keeps _
  | unlockWithBiometrics => exact unlockWithBiometrics_keeps
  | lock => exact performs_keeps trivial
  | timer => exact performs_keeps trivial
  | revealMnemonic password => exact (keeps_of_quiet (revealMnemonic_quiet _)).bind fun _ => trivial
  | changePassword oldPassword newPassword => exact changePassword_keeps _ _
  | enableBiometrics => exact enableBiometrics_keeps
  | disableBiometrics => exact disableBiometrics_keeps
  | touch => exact performs_keeps trivial
  | withUnlockedSeed =>
    refine Program.Uses.bind ((keeps_of_quiet assertUnlocked_quiet).bind fun _ => ?_) fun _ => trivial
    exact (keeps_of_quiet assertUnlocked_quiet).bind fun _ => trivial
  | getDatabaseKey => exact absurd rfl hkey
  | unwrapDatabaseKey => exact (keeps_of_quiet unwrapDatabaseKey_quiet).bind fun _ => trivial
  | generateMnemonicQuiz wordCount =>
    exact (keeps_of_quiet (generateMnemonicQuiz_quiet _)).bind fun _ => trivial
  | verifyMnemonicQuiz positions answers =>
    exact (keeps_of_quiet (verifyMnemonicQuiz_quiet _ _)).bind fun _ => trivial
  | wipe => exact absurd rfl hwipe
  | getMetadata =>
    refine Program.Uses.bind ?_ fun _ => trivial
    exact (keeps_of_quiet readVaultFile_quiet).bind fun _ => trivial

/-- Every call but a wipe keeps the equivalence, and a wipe does unless it throws where the vault
    was unlocked. -/
theorem method_sound_iff {call : VaultCall} {m m' : Memory} {out : Except VaultError Unit}
    (h : Program.Runs memoryEffect (method crypto call) m out m') (hm : m.Sound) :
    m'.Sound ↔ (call = .wipe → m.state = .unlocked → out = .ok ()) := by
  by_cases hwipe : call = .wipe
  · subst hwipe
    obtain ⟨e, now, rfl, rfl⟩ | ⟨rfl, now, later, rfl⟩ := wipe_runs h
    · rw [Memory.clear_sound_iff]
      simp
    · exact iff_of_true (Memory.setUninitialized_sound later) fun _ _ => rfl
  · refine iff_of_true ?_ fun heq => absurd heq hwipe
    by_cases hkey : call = .getDatabaseKey
    · subst hkey
      obtain ⟨key, mid, hrun, hret⟩ | ⟨e, hrun, rfl⟩ := Program.runs_bind.1 h
      · obtain ⟨-, rfl⟩ := hret
        exact getDatabaseKey_sound hrun hm
      · exact getDatabaseKey_sound hrun hm
    · exact h.preserves (method_keeps hwipe hkey) (fun _ _ _ _ _ => Keeps.sound) hm

/-- The equivalence holds after every call of a sequence, if it held before, exactly when no wipe
    of an unlocked vault throws. -/
theorem sound_iff_of_sound {crypto : Crypto} {m : Memory} (hm : m.Sound)
    {calls : List (Program.Call VaultCall VaultError Unit Memory)}
    (hruns : Program.Calls memoryEffect (method crypto) (fun s _ s' => s' = s) m calls)
    (hended : ∀ c ∈ calls, c.out ≠ none) :
    (∀ c ∈ calls, c.after.Sound) ↔
      ∀ c ∈ calls, c.input = .wipe → c.before.state = .unlocked → c.out = some (.ok ()) := by
  induction calls generalizing m with
  | nil => simp
  | cons first calls ih =>
    obtain ⟨hbefore, hends, hrest⟩ := hruns
    obtain ⟨out, hout⟩ := Option.ne_none_iff_exists'.1 (hended first List.mem_cons_self)
    unfold Program.Call.Ends at hends
    rw [hout] at hends
    have hfirst := method_sound_iff hends (hbefore ▸ hm)
    have hothers := fun h : first.after.Sound =>
      ih h hrest fun c hc => hended c (List.mem_cons_of_mem _ hc)
    simp only [List.forall_mem_cons, hfirst, hout, Option.some.injEq]
    constructor
    · rintro ⟨hwipe, hall⟩
      exact ⟨hwipe, (hothers (hfirst.2 hwipe)).1 hall⟩
    · rintro ⟨hwipe, hall⟩
      exact ⟨hwipe, (hothers (hfirst.2 hwipe)).2 hall⟩

/-- From an opened vault on, whatever the calls are and wherever they throw, the vault reports
    `unlocked` exactly while its secrets are present, if and only if no wipe throws that was called
    on an unlocked vault. -/
theorem unlocked_iff_secrets_present {crypto : Crypto} {stored : Bool}
    {calls : List (Program.Call VaultCall VaultError Unit Memory)}
    (hruns : Program.Calls memoryEffect (method crypto) (fun s _ s' => s' = s)
      (Memory.opened stored) calls)
    (hended : ∀ c ∈ calls, c.out ≠ none) :
    (∀ c ∈ calls, c.after.Sound) ↔
      ∀ c ∈ calls, c.input = .wipe → c.before.state = .unlocked → c.out = some (.ok ()) :=
  sound_iff_of_sound (Memory.opened_sound stored) hruns hended

/-! A vault is created, and wiping it throws at the deletion of its file. -/

def importCall : VaultCall := .importMnemonic ["abandon"] "password" none {}

/-- The call, as the rig answers it. -/
def rigCall (call : VaultCall) (rig : Rig) : Program.Call VaultCall VaultError Unit Memory where
  input := call
  before := rig.world.memory
  out := some (Program.run Rig.handle (method rigCrypto call) rig).1
  after := (Program.run Rig.handle (method rigCrypto call) rig).2.world.memory

theorem rigCall_ends (call : VaultCall) (rig : Rig) :
    (rigCall call rig).Ends memoryEffect (method rigCrypto) :=
  Program.runs_of_run Rig.handle (fun rig => rig.world.memory) Rig.handle_memory _ rig

def brokenRig : Rig := { Rig.fresh with brokenDeletions := [.vaultFile] }

def importedRig : Rig := (Program.run Rig.handle (method rigCrypto importCall) brokenRig).2

def wipedCalls : List (Program.Call VaultCall VaultError Unit Memory) :=
  [rigCall importCall brokenRig, rigCall .wipe importedRig]

theorem wipedCalls_run :
    Program.Calls memoryEffect (method rigCrypto) (fun s _ s' => s' = s) (Memory.opened false)
      wipedCalls :=
  ⟨rfl, rigCall_ends _ _, rfl, rigCall_ends _ _, trivial⟩

theorem wipedCalls_ended : ∀ c ∈ wipedCalls, c.out ≠ none := by
  simp [wipedCalls, rigCall]

/-- After the wipe that threw, the vault reports `unlocked` and has no secrets. -/
theorem wipedCalls_unsound : ¬(rigCall .wipe importedRig).after.Sound := by
  intro h
  have hunlocked : (rigCall .wipe importedRig).after.state = .unlocked := by decide +kernel
  have hvek : (rigCall .wipe importedRig).after.vek = none := by decide +kernel
  have hpresent := (h.unlocked.1 hunlocked).1
  rw [hvek] at hpresent
  cases hpresent

theorem not_unlocked_iff_secrets_present :
    ¬∀ (crypto : Crypto) (stored : Bool)
      (calls : List (Program.Call VaultCall VaultError Unit Memory)),
      Program.Calls memoryEffect (method crypto) (fun s _ s' => s' = s) (Memory.opened stored)
        calls → (∀ c ∈ calls, c.out ≠ none) → ∀ c ∈ calls, c.after.Sound := by
  intro h
  refine wipedCalls_unsound (h rigCrypto false wipedCalls wipedCalls_run wipedCalls_ended _ ?_)
  simp [wipedCalls]

theorem unlocked_iff_secrets_present_wiped :
    (∀ c ∈ wipedCalls, c.after.Sound) ↔
      ∀ c ∈ wipedCalls, c.input = .wipe → c.before.state = .unlocked → c.out = some (.ok ()) :=
  unlocked_iff_secrets_present wipedCalls_run wipedCalls_ended


end cemp.secureVault
