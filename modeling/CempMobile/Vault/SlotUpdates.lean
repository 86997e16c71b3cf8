import CempMobile.Lib.Relabel
import CempMobile.Vault.FormatRoundTrip
import CempMobile.Vault.States

open cemp.core

namespace cemp.secureVault

/-! Changes of the password and of the biometric slot, whose calls interleave. -/

inductive SlotJob where
  | changePassword (oldPassword newPassword : String)
  | enableBiometrics
  | disableBiometrics

def SlotJob.call : SlotJob → VaultCall
  | .changePassword oldPassword newPassword => .changePassword oldPassword newPassword
  | .enableBiometrics => .enableBiometrics
  | .disableBiometrics => .disableBiometrics

/-- The calls of a method, each with the operation that makes it. -/
inductive SlotOp : Type → Type 1 where
  | op {β : Type} (job : SlotJob) (op : VaultOp β) : SlotOp β

def SlotJob.body (crypto : Crypto) (job : SlotJob) : Program SlotOp VaultError Unit :=
  (method crypto job.call).relabel fun _ op => .op job op

/-- A property of a stored document. -/
def Stored.property (name : String) : Stored → Option Json
  | .document json => json.property name
  | .bytes _ => none

/-- The vault, and what the operations that resolved last made of its file. -/
structure Slots where
  world : World
  /-- What the `changePassword` that resolved last wrote. -/
  password : Stored
  /-- What the biometric operation that wrote last wrote. -/
  biometric : Stored
  /-- Whether the biometric operation that resolved last enables. -/
  enabled : Bool

/-- A vault whose file is the given one, before any operation resolved. -/
def Slots.start (memory : Memory) (databaseKey : Option Stored) (file : VaultFileV1) : Slots where
  world := ⟨memory, fun
    | .vaultFile => some (.document (serializeVaultFile file))
    | .databaseKey => databaseKey⟩
  password := .document (serializeVaultFile file)
  biometric := .document (serializeVaultFile file)
  enabled := file.biometricSlot.isSome

/-- An operation resolves when its write is answered. -/
def Slots.written (s : Slots) (content : Stored) : SlotJob → Slots
  | .changePassword _ _ => { s with password := content }
  | .enableBiometrics => { s with biometric := content, enabled := true }
  | .disableBiometrics => { s with biometric := content, enabled := false }

/-- An operation that finds its biometric slot as it wants it resolves when it read the file. -/
def Slots.found (s : Slots) (file : VaultFileV1) : SlotJob → Slots
  | .changePassword _ _ => s
  | .enableBiometrics => if file.biometricSlot.isSome then { s with enabled := true } else s
  | .disableBiometrics => if file.biometricSlot.isNone then { s with enabled := false } else s

def Slots.note (crypto : Crypto) (s : Slots) (job : SlotJob) :
    ∀ {β : Type}, VaultOp β → Except VaultError β → Slots
  | _, .write .vaultFile content, .ok _ => s.written content job
  | _, .read .vaultFile, .ok (some content) =>
    match parseStored crypto.otherNumberText content with
    | .ok file => s.found file job
    | .error _ => s
  | _, _, _ => s

def slotEffect (crypto : Crypto) : Program.Effect SlotOp VaultError Slots
  | β, .op job op, s, r, s' =>
    ∃ w', storageEffect β op s.world r w' ∧ s' = { s.note crypto job op r with world := w' }

/-- What an operation may write, by what it read: the slots that are not its own are carried
    over. -/
def Carries (file updated : VaultFileV1) : SlotJob → Prop
  | .changePassword _ _ => updated.biometricSlot = file.biometricSlot
  | .enableBiometrics => updated.kdf = file.kdf ∧ updated.passwordSlot = file.passwordSlot ∧
      updated.biometricSlot.isSome = true
  | .disableBiometrics => updated.kdf = file.kdf ∧ updated.passwordSlot = file.passwordSlot ∧
      updated.biometricSlot = none

/-- The automaton that watches an operation. It remembers what the operation read. -/
def slotWatch (crypto : Crypto) : Automaton SlotOp VaultError (Option Stored) where
  allowed
    | _, read, .op job (.write .vaultFile content) => ∃ stored file updated, read = some stored ∧
        parseStored crypto.otherNumberText stored = .ok file ∧
        content = .document (serializeVaultFile updated) ∧ Carries file updated job
    | _, _, .op _ (.write .databaseKey _) => False
    | _, _, .op _ (.delete _) => False
    | _, _, .op _ (.update _) => False
    | _, _, _ => True
  next
    | _, _, .op _ (.read .vaultFile), .ok content => content
    | _, read, _, _ => read

def slotSystem (crypto : Crypto) : System SlotOp VaultError SlotJob (Option Stored) Slots where
  body := SlotJob.body crypto
  watch := slotWatch crypto
  start _ := none
  effect := slotEffect crypto
  drift _ _ := False
  restart s := { s with world.memory := Memory.opened (s.world.storage .vaultFile).isSome }

/-- The slots that an operation carries over are in storage what they were when it read them. -/
def Untouched (stored read : Stored) : SlotJob → Prop
  | .changePassword _ _ => stored.property "biometricSlot" = read.property "biometricSlot"
  | _ => stored.property "kdf" = read.property "kdf" ∧
      stored.property "passwordSlot" = read.property "passwordSlot"

/-- When an operation writes, nothing has changed that it carries over. -/
def Unraced : StepCondition SlotOp VaultError SlotJob (Option Stored) Slots where
  answer
    | _, _, _, read, .op job (.write .vaultFile _), s, _, _ =>
      ∀ stored ∈ s.world.storage .vaultFile, ∀ content ∈ read, Untouched stored content job
    | _, _, _, _, _, _, _, _ => True

/-- The stored file has the password slot of the `changePassword` that resolved last, and its
    biometric slot reflects the biometric operation that resolved last. -/
structure Slots.Current (s : Slots) (stored : Stored) : Prop where
  read : s.world.storage .vaultFile = some stored
  kdf : stored.property "kdf" = s.password.property "kdf"
  passwordSlot : stored.property "passwordSlot" = s.password.property "passwordSlot"
  biometricSlot : stored.property "biometricSlot" = s.biometric.property "biometricSlot"
  enabled : stored.property "biometricSlot" = some .null ↔ s.enabled = false

/-! ### The operations conform -/

/-- What holds of the value of a program, if it has one. -/
def Yields {α : Type} (P : α → Prop) : Except VaultError α → Prop
  | .ok a => P a
  | .error _ => True

section Conforms

variable {crypto : Crypto} {job : SlotJob}

/-- The automaton as the operations of one job see it. -/
def slotWatchAt (crypto : Crypto) (job : SlotJob) : Automaton VaultOp VaultError (Option Stored) :=
  (slotWatch crypto).comap fun _ op => .op job op

variable {read : Option Stored} {file : VaultFileV1}

theorem readVaultFile_slots :
    Program.Conforms (slotWatchAt crypto job) read (readVaultFile crypto) fun read' =>
      Yields fun file => ∃ stored, read' = some stored ∧
        parseStored crypto.otherNumberText stored = .ok file := by
  refine Program.Conforms.step trivial (fun e => trivial) fun content => ?_
  cases content with
  | none => trivial
  | some stored =>
    refine Program.conforms_ofExcept.2 ?_
    cases hparse : parseStored crypto.otherNumberText stored with
    | error e => trivial
    | ok file => exact ⟨stored, rfl, hparse⟩

/-- A file under another password keeps its biometric slot. -/
theorem rewrapFile_slots (oldPassword newPassword : String) :
    Program.Conforms (slotWatchAt crypto job) read (rewrapFile crypto file oldPassword newPassword)
      fun read' r => read' = read ∧ Yields (fun updated =>
        updated.biometricSlot = file.biometricSlot) r := by
  refine Program.Conforms.step trivial (fun _ => ⟨rfl, trivial⟩) fun oldKek => ?_
  refine Program.Conforms.ofExcept (fun _ => ⟨rfl, trivial⟩) fun vek _ => ?_
  refine Program.Conforms.step trivial (fun _ => ⟨rfl, trivial⟩) fun salt => ?_
  refine Program.Conforms.step trivial (fun _ => ⟨rfl, trivial⟩) fun newKek => ?_
  refine Program.Conforms.step trivial (fun _ => ⟨rfl, trivial⟩) fun newSlotNonce => ?_
  refine Program.Conforms.ofExcept (fun _ => ⟨rfl, trivial⟩) fun newPasswordSlot _ => ?_
  refine Program.Conforms.ofExcept (fun _ => ⟨rfl, trivial⟩) fun payloadPlaintext _ => ?_
  refine Program.Conforms.step trivial (fun _ => ⟨rfl, trivial⟩) fun newPayloadNonce => ?_
  exact Program.Conforms.ofExcept (fun _ => ⟨rfl, trivial⟩) fun newPayload _ => ⟨rfl, rfl⟩

theorem assertUnlocked_slots :
    Program.Conforms (slotWatchAt crypto job) read assertUnlocked fun read' _ => read' = read := by
  refine Program.Conforms.step trivial (fun _ => rfl) fun m => ?_
  split <;> rfl

theorem requireVek_slots :
    Program.Conforms (slotWatchAt crypto job) read requireVek fun read' _ => read' = read :=
  assertUnlocked_slots.bind (fun _ _ h => h) fun _ _ h => h

theorem wrapLiveVek_slots :
    Program.Conforms (slotWatchAt crypto job) read wrapLiveVek fun read' _ => read' = read := by
  have hwrap : Program.Conforms (slotWatchAt crypto job) read
      (requireVek.bind fun vek => Program.perform (.wrap vek true)) fun read' _ => read' = read :=
    requireVek_slots.bind (fun _ vek h => Program.conforms_perform.2 ⟨trivial, fun _ => h⟩)
      fun _ _ h => h
  exact hwrap.catchError (fun _ _ h => h) fun _ _ h => h

/-- A file with edited slots keeps the password slot that it is given, under the same KDF. -/
theorem resealFile_slots {passwordSlot : WrapSlot} {biometricSlot : Option BiometricWrapSlot} :
    Program.Conforms (slotWatchAt crypto job) read
      (resealFile crypto file passwordSlot biometricSlot) fun read' r => read' = read ∧
        Yields (fun updated => updated.kdf = file.kdf ∧ updated.passwordSlot = passwordSlot ∧
          updated.biometricSlot = biometricSlot) r := by
  refine requireVek_slots.bind (fun read' vek h => ?_) fun _ _ h => ⟨h, trivial⟩
  subst h
  refine Program.Conforms.ofExcept (fun _ => ⟨rfl, trivial⟩) fun payloadPlaintext _ => ?_
  refine Program.Conforms.step trivial (fun _ => ⟨rfl, trivial⟩) fun payloadNonce => ?_
  refine Program.Conforms.ofExcept (fun _ => ⟨rfl, trivial⟩) fun key _ => ?_
  exact Program.Conforms.ofExcept (fun _ => ⟨rfl, trivial⟩) fun payload _ => ⟨rfl, rfl, rfl, rfl⟩

theorem rewriteSlots_slots {biometricSlot : Option BiometricWrapSlot} {stored : Stored}
    (hread : read = some stored) (hparse : parseStored crypto.otherNumberText stored = .ok file)
    (hcarries : ∀ updated : VaultFileV1, updated.kdf = file.kdf →
      updated.passwordSlot = file.passwordSlot → updated.biometricSlot = biometricSlot →
      Carries file updated job) :
    Program.Conforms (slotWatchAt crypto job) read
      (rewriteSlots crypto file file.passwordSlot biometricSlot) fun _ _ => True := by
  refine resealFile_slots.bind (fun read' updated h => ?_) fun _ _ _ => trivial
  obtain ⟨rfl, hkdf, hslot, hbiometric⟩ := h
  exact Program.conforms_perform.2
    ⟨⟨stored, file, updated, hread, hparse, rfl, hcarries updated hkdf hslot hbiometric⟩,
      fun _ => trivial⟩

theorem changePassword_slots {oldPassword newPassword : String} :
    Program.Conforms (slotWatchAt crypto (.changePassword oldPassword newPassword)) read
      (changePassword crypto oldPassword newPassword) fun _ _ => True := by
  refine readVaultFile_slots.bind (fun read' file h => ?_) fun _ _ _ => trivial
  obtain ⟨stored, rfl, hparse⟩ := h
  refine (rewrapFile_slots oldPassword newPassword).bind (fun read' updated h => ?_)
    fun _ _ _ => trivial
  obtain ⟨rfl, hslot⟩ := h
  exact Program.conforms_perform.2
    ⟨⟨stored, file, updated, rfl, hparse, rfl, hslot⟩, fun _ => trivial⟩

theorem enableBiometrics_slots :
    Program.Conforms (slotWatchAt crypto .enableBiometrics) read (enableBiometrics crypto)
      fun _ _ => True := by
  refine assertUnlocked_slots.bind (fun read' m h => ?_) fun _ _ _ => trivial
  refine Program.Conforms.step trivial (fun _ => trivial) fun available => ?_
  split
  · trivial
  · refine readVaultFile_slots.bind (fun read' file h => ?_) fun _ _ _ => trivial
    obtain ⟨stored, rfl, hparse⟩ := h
    split
    · trivial
    · refine wrapLiveVek_slots.bind (fun read' blob h => ?_) fun _ _ _ => trivial
      subst h
      refine rewriteSlots_slots rfl hparse fun updated hkdf hslot hbiometric => ⟨hkdf, hslot, ?_⟩
      rw [hbiometric]
      rfl

theorem disableBiometrics_slots :
    Program.Conforms (slotWatchAt crypto .disableBiometrics) read (disableBiometrics crypto)
      fun _ _ => True := by
  refine assertUnlocked_slots.bind (fun read' m h => ?_) fun _ _ _ => trivial
  refine readVaultFile_slots.bind (fun read' file h => ?_) fun _ _ _ => trivial
  obtain ⟨stored, rfl, hparse⟩ := h
  split
  · trivial
  · exact rewriteSlots_slots rfl hparse fun updated hkdf hslot hbiometric =>
      ⟨hkdf, hslot, hbiometric⟩

theorem SlotJob.body_conforms (job : SlotJob) :
    Program.Conforms (slotWatch crypto) none (job.body crypto) fun _ _ => True := by
  refine Program.conforms_relabel.2 ?_
  cases job with
  | changePassword oldPassword newPassword => exact changePassword_slots
  | enableBiometrics => exact enableBiometrics_slots
  | disableBiometrics => exact disableBiometrics_slots

end Conforms

/-! ### The invariant -/

@[simp] theorem property_kdf (file : VaultFileV1) :
    (Stored.document (serializeVaultFile file)).property "kdf" = some (kdfToWire file.kdf) := rfl

@[simp] theorem property_passwordSlot (file : VaultFileV1) :
    (Stored.document (serializeVaultFile file)).property "passwordSlot" =
      some (slotToWire (some file.passwordSlot.nonce) file.passwordSlot.wrappedVek) := rfl

@[simp] theorem property_biometricSlot (file : VaultFileV1) :
    (Stored.document (serializeVaultFile file)).property "biometricSlot" =
      some (biometricToWire file.biometricSlot) := rfl

theorem biometricToWire_eq_null {slot : Option BiometricWrapSlot} :
    biometricToWire slot = .null ↔ slot.isSome = false := by
  cases slot with
  | none => simp [biometricToWire]
  | some slot =>
    obtain ⟨nonce, wrappedVek⟩ := slot
    cases nonce with
    | none => simp [biometricToWire, slotToWire]
    | some nonce => simp [biometricToWire, slotToWire]

/-- The stored file is current, and every operation read some file. -/
structure Tracked (crew : Crew SlotJob (Option Stored)) (s : Slots) : Prop where
  current : ∃ file, s.Current (.document (serializeVaultFile file))
  read : ∀ i job stored, crew i = some (job, some stored) →
    ∃ file, stored = .document (serializeVaultFile file)

section Step

variable {crypto : Crypto} {s : Slots} {job : SlotJob} {file updated : VaultFileV1}

/-- Where nothing that an operation carries over has changed, what it writes is current. -/
theorem Slots.Current.written {cur : VaultFileV1}
    (h : s.Current (.document (serializeVaultFile cur))) (hcarries : Carries file updated job)
    (hmet : Untouched (.document (serializeVaultFile cur)) (.document (serializeVaultFile file)) job) :
    ({ s.written (.document (serializeVaultFile updated)) job with
      world := s.world.write .vaultFile (some (.document (serializeVaultFile updated))) } : Slots).Current
      (.document (serializeVaultFile updated)) := by
  have hkdf := h.kdf
  have hpassword := h.passwordSlot
  have hbiometric := h.biometricSlot
  have henabled := h.enabled
  cases job with
  | changePassword oldPassword newPassword =>
    have hsame : biometricToWire updated.biometricSlot = biometricToWire cur.biometricSlot := by
      rw [hcarries]
      exact (Option.some.inj hmet).symm
    refine ⟨rfl, rfl, rfl, ?_, ?_⟩
    · rw [property_biometricSlot, hsame]
      exact hbiometric
    · rw [property_biometricSlot, hsame]
      exact henabled
  | enableBiometrics =>
    obtain ⟨hkdf', hslot', hsome⟩ := hcarries
    obtain ⟨hkdfSame, hslotSame⟩ := hmet
    refine ⟨rfl, ?_, ?_, rfl, ?_⟩
    · rw [property_kdf, hkdf', ← property_kdf, ← hkdfSame]
      exact hkdf
    · rw [property_passwordSlot, hslot', ← property_passwordSlot, ← hslotSame]
      exact hpassword
    · rw [property_biometricSlot, Option.some.injEq, biometricToWire_eq_null, hsome]
      exact Iff.rfl
  | disableBiometrics =>
    obtain ⟨hkdf', hslot', hnone⟩ := hcarries
    obtain ⟨hkdfSame, hslotSame⟩ := hmet
    refine ⟨rfl, ?_, ?_, rfl, ?_⟩
    · rw [property_kdf, hkdf', ← property_kdf, ← hkdfSame]
      exact hkdf
    · rw [property_passwordSlot, hslot', ← property_passwordSlot, ← hslotSame]
      exact hpassword
    · rw [property_biometricSlot, Option.some.injEq, biometricToWire_eq_null, hnone]
      exact Iff.rfl

/-- An operation that finds its slot as it wants it finds it in the stored file. -/
theorem Slots.Current.found (h : s.Current (.document (serializeVaultFile file))) :
    ({ s.found file job with world := s.world } : Slots).Current
      (.document (serializeVaultFile file)) := by
  cases job with
  | changePassword oldPassword newPassword => exact h
  | enableBiometrics =>
    simp only [Slots.found]
    split
    · next hsome =>
      refine ⟨h.read, h.kdf, h.passwordSlot, h.biometricSlot, ?_⟩
      rw [property_biometricSlot, Option.some.injEq, biometricToWire_eq_null, hsome]
    · exact h
  | disableBiometrics =>
    simp only [Slots.found]
    split
    · next hnone =>
      refine ⟨h.read, h.kdf, h.passwordSlot, h.biometricSlot, ?_⟩
      rw [property_biometricSlot, Option.some.injEq, biometricToWire_eq_null]
      exact iff_of_true (by simpa using hnone) rfl
    · exact h

end Step

/-- What one answer leaves: a current file, and a file that the operation read. -/
theorem current_answer {crypto : Crypto} {crew : Crew SlotJob (Option Stored)} {s s' : Slots}
    {caller : SlotJob} {read : Option Stored} {β : Type} {op : SlotOp β} {r : Except VaultError β}
    (hcurrent : ∃ file, s.Current (.document (serializeVaultFile file)))
    (hread : ∀ stored ∈ read, ∃ file, stored = .document (serializeVaultFile file))
    (hallowed : (slotWatch crypto).allowed β read op) (heffect : slotEffect crypto β op s r s')
    (hmet : Unraced.answer β crew caller read op s r s') :
    (∃ file, s'.Current (.document (serializeVaultFile file))) ∧
      ∀ stored ∈ (slotWatch crypto).next β read op r,
        ∃ file, stored = .document (serializeVaultFile file) := by
  obtain ⟨job, op⟩ := op
  obtain ⟨w, hstorage, rfl⟩ := heffect
  obtain ⟨cur, hcur⟩ := hcurrent
  cases op with
  | read name =>
    obtain ⟨hanswer, rfl⟩ := hstorage
    cases name with
    | databaseKey => exact ⟨⟨cur, hcur⟩, hread⟩
    | vaultFile =>
      obtain rfl | ⟨e, rfl⟩ := hanswer
      · rw [hcur.read]
        refine ⟨⟨cur, ?_⟩, fun stored hstored => ⟨cur, (Option.some.inj hstored).symm⟩⟩
        simp only [Slots.note]
        split
        · next file hparse =>
          obtain ⟨rfl, -⟩ := parseVaultFile_serializeVaultFile.1 hparse
          exact hcur.found
        · exact hcur
      · exact ⟨⟨cur, hcur⟩, hread⟩
  | write name content =>
    cases name with
    | databaseKey => exact hallowed.elim
    | vaultFile =>
      obtain ⟨stored, file, updated, rfl, hparse, rfl, hcarries⟩ := hallowed
      obtain ⟨rfl, rfl⟩ | ⟨e, rfl, rfl⟩ := hstorage
      · obtain ⟨file', rfl⟩ := hread stored rfl
        obtain ⟨rfl, -⟩ := parseVaultFile_serializeVaultFile.1 hparse
        exact ⟨⟨updated, hcur.written hcarries (hmet _ hcur.read _ rfl)⟩, hread⟩
      · exact ⟨⟨cur, hcur⟩, hread⟩
  | delete name => exact hallowed.elim
  | update change => exact hallowed.elim
  | memory =>
    obtain ⟨-, rfl⟩ := hstorage
    exact ⟨⟨cur, hcur⟩, hread⟩
  | wrap key biometric =>
    obtain rfl := hstorage
    exact ⟨⟨cur, hcur⟩, hread⟩
  | unwrap blob =>
    obtain rfl := hstorage
    exact ⟨⟨cur, hcur⟩, hread⟩
  | isBiometricAvailable =>
    obtain rfl := hstorage
    exact ⟨⟨cur, hcur⟩, hread⟩
  | deleteKey =>
    obtain rfl := hstorage
    exact ⟨⟨cur, hcur⟩, hread⟩
  | deriveKek password params =>
    obtain rfl := hstorage
    exact ⟨⟨cur, hcur⟩, hread⟩
  | randomBytes count =>
    obtain rfl := hstorage
    exact ⟨⟨cur, hcur⟩, hread⟩
  | now =>
    obtain rfl := hstorage
    exact ⟨⟨cur, hcur⟩, hread⟩

theorem tracked_inductive (crypto : Crypto) :
    System.Inductive (slotSystem crypto) Unraced (fun _ _ => True) System.Unconditional
      Tracked where
  spawn crew s i job _ h _ _ := by
    refine ⟨h.current, fun j job' stored hj => ?_⟩
    by_cases hji : j = i
    · subst hji
      rw [Function.update_self] at hj
      cases hj
    · rw [Function.update_of_ne hji] at hj
      exact h.read j job' stored hj
  answer β crew s i job read op r s' _ h next hallowed heffect hmet := by
    have hread : ∀ stored ∈ read, ∃ file, stored = .document (serializeVaultFile file) := by
      rintro stored rfl
      exact h.read i job stored next
    obtain ⟨hcurrent, hown⟩ := current_answer h.current hread hallowed heffect hmet
    refine ⟨hcurrent, fun j job' stored hj => ?_⟩
    by_cases hji : j = i
    · subst hji
      rw [Function.update_self] at hj
      obtain ⟨rfl, hstored⟩ := Prod.mk.inj (Option.some.inj hj)
      exact hown stored hstored
    · rw [Function.update_of_ne hji] at hj
      exact h.read j job' stored hj
  finish crew s i job read _ h _ _ := by
    refine ⟨h.current, fun j job' stored hj => ?_⟩
    by_cases hji : j = i
    · subst hji
      rw [Function.update_self] at hj
      cases hj
    · rw [Function.update_of_ne hji] at hj
      exact h.read j job' stored hj
  drift crew s s' _ h moved _ := moved.elim
  crash crew s _ h _ := by
    obtain ⟨file, hcurrent⟩ := h.current
    exact ⟨⟨file, hcurrent.read, hcurrent.kdf, hcurrent.passwordSlot, hcurrent.biometricSlot,
      hcurrent.enabled⟩, fun _ _ _ hj => by cases hj⟩

/-- No update of the file is lost in any run of password changes and biometric changes in which,
    whenever an operation writes, the slots that it carries over are in storage what they were when
    it read them. -/
theorem slot_updates_kept {crypto : Crypto} {memory : Memory} {databaseKey : Option Stored}
    {file : VaultFileV1} {p : Pool SlotOp VaultError SlotJob (Option Stored) Slots}
    (hrun : System.Reaches (slotSystem crypto) Unraced
      (Pool.idle (Slots.start memory databaseKey file)) p) :
    ∃ stored, p.world.Current stored := by
  have hstart : Tracked (fun _ => none) (Slots.start memory databaseKey file) := by
    refine ⟨⟨file, rfl, rfl, rfl, rfl, ?_⟩, fun _ _ _ hj => by cases hj⟩
    rw [property_biometricSlot, Option.some.injEq, biometricToWire_eq_null]
    exact Iff.rfl
  have htracked : Tracked p.crew p.world :=
    (tracked_inductive crypto).holds (fun job => job.body_conforms) hrun hstart
  obtain ⟨file', hcurrent⟩ := htracked.current
  exact ⟨_, hcurrent⟩

/-! ### Schedules -/

/-- Answers as the rig gives them. -/
def slotHandle : Program.Handler SlotOp VaultError Slots
  | β, .op job op, s =>
    let answer := Rig.handle β op { world := s.world }
    (answer.1, { s.note rigCrypto job op answer.1 with world := answer.2.world })

theorem slotHandle_allowed {β : Type} (op : SlotOp β) (s : Slots) :
    slotEffect rigCrypto β op s (slotHandle β op s).1 (slotHandle β op s).2 := by
  obtain ⟨job, op⟩ := op
  exact ⟨_, Rig.handle_storage op { world := s.world }, rfl⟩

/-- A vault key, and its tag under the rig's cipher. -/
def slotVek : Bytes := List.replicate 32 6

/-- A vault file with a biometric slot. -/
def slotFile : VaultFileV1 where
  kdf := resolveKdfParams none (List.replicate 16 1)
  passwordSlot := ⟨List.replicate 12 2, slotVek ++ (rigKek "password").take 16⟩
  biometricSlot := some ⟨none, List.replicate 13 1 ++ slotVek⟩
  payload := ⟨List.replicate 12 3, List.replicate 82 4 ++ slotVek.take 16⟩
  fileMeta := ⟨.finite 0, .twelve, false, .finite 300⟩

def slotStart : Slots :=
  Slots.start ((Memory.opened true).setUnlocked slotVek (List.replicate 64 5) (.finite 300)
    (.finite 0)) none slotFile

/-- Two operations that have both read the file. -/
def overlapping : List (System.Turn SlotJob) :=
  [.spawn 0 (.changePassword "password" "another"), .answer 0, .spawn 1 .disableBiometrics,
    .answer 1, .answer 1]

/-- Both go on to write: the biometric slot first, and then the password slot. -/
def lostUpdate : List (System.Turn SlotJob) :=
  overlapping ++ [.answer 1, .answer 1, .answer 1, .answer 0, .answer 0, .answer 0, .answer 0,
    .answer 0, .answer 0]

def slotPool (turns : List (System.Turn SlotJob)) :
    Pool SlotOp VaultError SlotJob (Option Stored) Slots :=
  turns.foldl ((slotSystem rigCrypto).play slotHandle) (Pool.idle slotStart)

theorem slot_updates_kept_overlapping : ∃ stored, (slotPool overlapping).world.Current stored :=
  slot_updates_kept (System.reaches_schedule slotHandle_allowed (.refl _)
    ⟨trivial, trivial, trivial, trivial, trivial, trivial⟩)

/-- Whether a stored document has no biometric slot. -/
def lacksBiometrics (stored : Option Stored) : Bool :=
  match stored.bind (Stored.property "biometricSlot") with
  | some .null => true
  | _ => false

theorem not_slot_updates_kept :
    ¬∀ (crypto : Crypto) (memory : Memory) (databaseKey : Option Stored) (file : VaultFileV1)
      (p : Pool SlotOp VaultError SlotJob (Option Stored) Slots),
      System.Reaches (slotSystem crypto) System.Anyhow
        (Pool.idle (Slots.start memory databaseKey file)) p → ∃ stored, p.world.Current stored := by
  intro h
  have hrun : System.Reaches (slotSystem rigCrypto) System.Anyhow (Pool.idle slotStart)
      (slotPool lostUpdate) := System.reaches_anyhow slotHandle_allowed lostUpdate _
  obtain ⟨stored, hcurrent⟩ := h _ _ _ _ _ hrun
  have hdisabled : (slotPool lostUpdate).world.enabled = false ∧
      lacksBiometrics ((slotPool lostUpdate).world.world.storage .vaultFile) = false := by
    decide +kernel
  have hnull := hcurrent.enabled.2 hdisabled.1
  have hlacks := hdisabled.2
  rw [hcurrent.read] at hlacks
  simp only [lacksBiometrics, Option.bind_some, hnull] at hlacks
  cases hlacks

end cemp.secureVault
