import CempMobile.Lib.Relabel
import CempMobile.Vault.States

open cemp.core

namespace cemp.secureVault

/-! Unlocks, locks and wipes of one vault, whose calls interleave. -/

/-- The calls of a method, each with the moment at which the method itself was called: how many
    locks and wipes had resolved by then. -/
inductive TimedOp : Type → Type 1 where
  | called : TimedOp Nat
  | op {β : Type} (moment : Nat) (op : VaultOp β) : TimedOp β

inductive SessionJob where
  | unlock (password : String)
  | unlockWithBiometrics
  | lock
  | wipe

def SessionJob.call : SessionJob → VaultCall
  | .unlock password => .unlock password
  | .unlockWithBiometrics => .unlockWithBiometrics
  | .lock => .lock
  | .wipe => .wipe

def SessionJob.body (crypto : Crypto) (job : SessionJob) : Program TimedOp VaultError Unit :=
  (Program.perform .called).bind fun moment =>
    (method crypto job.call).relabel fun _ op => .op moment op

/-- The vault, and what happened to it. -/
structure Session where
  world : World
  /-- How many locks and wipes have resolved. -/
  ended : Nat
  /-- How many had, when the unlock was called that installed its secrets last. -/
  installedFrom : Nat
  /-- An unlock installed its secrets, and nothing cleared them since. -/
  live : Bool
  /-- A wipe has resolved. -/
  wiped : Bool

def Session.start (w : World) : Session := ⟨w, 0, 0, false, false⟩

/-- What is noted of a call. -/
def Session.note (s : Session) (moment : Nat) : ∀ {β : Type}, VaultOp β → Session
  | _, .update (.setUnlocked _ _ _) => { s with installedFrom := moment, live := true }
  | _, .update .lock => { s with ended := s.ended + 1, live := false }
  | _, .update .clear => { s with live := false }
  | _, .update .setUninitialized => { s with ended := s.ended + 1, wiped := true }
  | _, _ => s

def sessionEffect : Program.Effect TimedOp VaultError Session
  | _, .called, s, r, s' => r = .ok s.ended ∧ s' = s
  | β, .op moment op, s, r, s' =>
    ∃ w', storageEffect β op s.world r w' ∧ s' = { s.note moment op with world := w' }

/-- Where a call is: when it was made, and what it did so far. -/
structure Progress where
  moment : Option Nat := none
  /-- It read a vault file. -/
  file : Bool := false
  /-- It cleared the secrets. -/
  cleared : Bool := false
  /-- It deleted the vault file. -/
  deleted : Bool := false

def Progress.Allows (p : Progress) {β : Type} : VaultOp β → Prop
  | .update (.setUnlocked _ _ _) => p.file = true
  | .update .setUninitialized => p.cleared = true ∧ p.deleted = true
  | .update .lock => True
  | .update .clear => True
  | .update _ => False
  | .write _ _ => False
  | _ => True

def Progress.next (p : Progress) : ∀ {β : Type}, VaultOp β → Except VaultError β → Progress
  | _, .read .vaultFile, .ok (some _) => { p with file := true }
  | _, .update .clear, _ => { p with cleared := true }
  | _, .delete .vaultFile, .ok _ => { p with deleted := true }
  | _, _, _ => p

/-- The automaton that watches a call. -/
def sessionWatch : Automaton TimedOp VaultError Progress where
  allowed
    | _, p, .called => p = {}
    | _, p, .op moment op => p.moment = some moment ∧ p.Allows op
  next
    | _, p, .called, .ok moment => { p with moment := some moment }
    | _, p, .called, .error _ => p
    | _, p, .op _ op, r => p.next op r

/-- The vault after a restart of the app. -/
def Session.restart (s : Session) : Session :=
  { s with world.memory := Memory.opened (s.world.storage .vaultFile).isSome }

def sessions (crypto : Crypto) : System TimedOp VaultError SessionJob Progress Session where
  body := SessionJob.body crypto
  watch := sessionWatch
  start _ := {}
  effect := sessionEffect
  drift _ _ := False
  restart := Session.restart

/-- When an unlock installs its secrets, no lock or wipe has resolved since it was called, and when
    a wipe resolves, no unlock has installed secrets that nothing cleared since. -/
def Timely : StepCondition TimedOp VaultError SessionJob Progress Session where
  answer
    | _, _, _, _, .op moment (.update (.setUnlocked _ _ _)), s, _, _ => moment = s.ended
    | _, _, _, _, .op _ (.update .setUninitialized), s, _, _ => s.live = false
    | _, _, _, _, _, _, _, _ => True

/-- The vault is unlocked only by an unlock that was called after every lock and wipe that has
    resolved, and after a wipe has resolved it is uninitialized, without a vault key or a seed. -/
structure Session.Final (s : Session) : Prop where
  lock : s.world.memory.state = .unlocked → s.installedFrom = s.ended
  wipe : s.wiped = true → s.world.memory.vek = none ∧ s.world.memory.seed = none ∧
    s.world.memory.state = .uninitialized

/-! ### The calls conform -/

section Conforms

variable {crypto : Crypto} {moment : Nat}

/-- The automaton as a method's own operations see it. -/
def watchAt (moment : Nat) : Automaton VaultOp VaultError Progress :=
  sessionWatch.comap fun _ op => .op moment op

/-- A quiet program keeps what is known of a call. -/
theorem Quiet.progress {α : Type} {p : Vault α} (hquiet : Program.Uses Quiet p) {s : Progress}
    (hs : s.moment = some moment ∧ s.file = true) :
    Program.Conforms (watchAt moment) s p fun s' _ =>
      s'.moment = some moment ∧ s'.file = true := by
  refine hquiet.conforms (fun β op s hop hs => ?_) hs
  cases op with
  | read name =>
    refine ⟨⟨hs.1, trivial⟩, fun r => ?_⟩
    cases name with
    | databaseKey => exact hs
    | vaultFile =>
      cases r with
      | error e => exact hs
      | ok content =>
        cases content with
        | none => exact hs
        | some stored => exact ⟨hs.1, rfl⟩
  | write name content => exact hop.elim
  | delete name => exact hop.elim
  | update change => exact hop.elim
  | memory => exact ⟨⟨hs.1, trivial⟩, fun _ => hs⟩
  | wrap key biometric => exact ⟨⟨hs.1, trivial⟩, fun _ => hs⟩
  | unwrap blob => exact ⟨⟨hs.1, trivial⟩, fun _ => hs⟩
  | isBiometricAvailable => exact ⟨⟨hs.1, trivial⟩, fun _ => hs⟩
  | deleteKey => exact ⟨⟨hs.1, trivial⟩, fun _ => hs⟩
  | deriveKek password params => exact ⟨⟨hs.1, trivial⟩, fun _ => hs⟩
  | randomBytes count => exact ⟨⟨hs.1, trivial⟩, fun _ => hs⟩
  | now => exact ⟨⟨hs.1, trivial⟩, fun _ => hs⟩

/-- A vault file is read before anything is made of it. -/
theorem readVaultFile_progress {s : Progress} (hs : s.moment = some moment) :
    Program.Conforms (watchAt moment) s (readVaultFile crypto) fun s' r =>
      ∀ file, r = .ok file → s'.moment = some moment ∧ s'.file = true := by
  refine Program.Conforms.step ⟨hs, trivial⟩ (fun e file h => ?_) fun content => ?_
  · cases h
  · cases content with
    | none =>
      intro file h
      cases h
    | some stored => exact Program.conforms_ofExcept.2 fun _ _ => ⟨hs, rfl⟩

/-- Both unlocks read the file, open it, and install what it yielded. -/
theorem unlock_progress {s : Progress} (hs : s.moment = some moment)
    {opening : VaultFileV1 → Vault OpenedVault}
    (hopening : ∀ file, Program.Uses Quiet (opening file)) :
    Program.Conforms (watchAt moment) s
      ((readVaultFile crypto).bind fun file => (opening file).bind fun opened =>
        Program.perform (.update (install file opened))) fun _ _ => True := by
  refine (readVaultFile_progress hs).bind (fun s' file hfile => ?_) fun _ _ _ => trivial
  refine (Quiet.progress (hopening file) (hfile file rfl)).bind (fun s' opened hopened => ?_)
    fun _ _ _ => trivial
  exact Program.conforms_perform.2 ⟨⟨hopened.1, hopened.2⟩, fun _ => trivial⟩

theorem lock_progress {s : Progress} (hs : s.moment = some moment) :
    Program.Conforms (watchAt moment) s lock fun _ _ => True :=
  Program.conforms_perform.2 ⟨⟨hs, trivial⟩, fun _ => trivial⟩

theorem wipe_progress {s : Progress} (hs : s.moment = some moment) :
    Program.Conforms (watchAt moment) s wipe fun _ _ => True := by
  refine Program.Conforms.step ⟨hs, trivial⟩ (fun _ => trivial) fun _ => ?_
  refine Program.Conforms.step ⟨hs, trivial⟩ (fun _ => trivial) fun _ => ?_
  refine Program.Conforms.step ⟨hs, trivial⟩ (fun _ => trivial) fun _ => ?_
  refine Program.conforms_bind.2 (Program.conforms_catchError.2 ?_)
  refine Program.conforms_perform.2 ⟨⟨hs, trivial⟩, fun r => ?_⟩
  cases r with
  | error e => trivial
  | ok _ => exact Program.conforms_perform.2 ⟨⟨hs, rfl, rfl⟩, fun _ => trivial⟩

theorem SessionJob.body_conforms (job : SessionJob) :
    Program.Conforms sessionWatch {} (job.body crypto) fun _ _ => True := by
  refine Program.Conforms.step rfl (fun _ => trivial) fun moment => Program.conforms_relabel.2 ?_
  cases job with
  | unlock password =>
    exact unlock_progress rfl fun file => openWithPassword_quiet file password
  | unlockWithBiometrics => exact unlock_progress rfl fun file => openWithBiometrics_quiet file
  | lock => exact lock_progress rfl
  | wipe => exact wipe_progress rfl

end Conforms

/-! ### The invariant -/

theorem Memory.opened_locked (stored : Bool) : (Memory.opened stored).state ≠ .unlocked := by
  cases stored with
  | false => exact nofun
  | true => exact nofun

/-- What a call in flight knows of the vault. -/
structure Knows (s : Session) (p : Progress) : Prop where
  moment : ∀ m ∈ p.moment, m ≤ s.ended
  /-- After a wipe, only calls from before it can have read a file. -/
  file : s.wiped = true → p.file = true → ∀ m ∈ p.moment, m < s.ended
  cleared : p.cleared = true → s.live = false →
    s.world.memory.vek = none ∧ s.world.memory.seed = none
  deleted : p.deleted = true → s.world.storage .vaultFile = none

structure Session.Safe (s : Session) : Prop where
  final : s.Final
  gone : s.wiped = true → s.world.storage .vaultFile = none

section Step

variable {s s' : Session} {p q : Progress} {β : Type} {moment : Nat}

/-- What one answer leaves: the vault safe, and what its own call and every other one knows. -/
structure Kept (s s' : Session) (p' : Progress) : Prop where
  safe : s'.Safe
  own : Knows s' p'
  others : ∀ q, Knows s q → Knows s' q

theorem Kept.refl (hsafe : s.Safe) (hknows : Knows s p) : Kept s s p := ⟨hsafe, hknows, fun _ h => h⟩

/-- Quiet calls change nothing. -/
theorem Quiet.kept {op : VaultOp β} {r : Except VaultError β} {w : World} (hquiet : Quiet β op)
    (hsafe : s.Safe) (hknows : Knows s p) (heffect : storageEffect β op s.world r w)
    (hnote : s.note moment op = s) : Kept s { s.note moment op with world := w } (p.next op r) := by
  obtain rfl := hquiet.storage heffect
  rw [hnote]
  cases op with
  | read name =>
    cases name with
    | databaseKey => exact .refl hsafe hknows
    | vaultFile =>
      cases r with
      | error e => exact .refl hsafe hknows
      | ok content =>
        cases content with
        | none => exact .refl hsafe hknows
        | some stored =>
          refine .refl hsafe ⟨hknows.moment, fun hwiped => ?_, hknows.cleared, hknows.deleted⟩
          obtain ⟨hread | ⟨e, herror⟩, -⟩ := heffect
          · rw [hsafe.gone hwiped] at hread
            cases hread
          · cases herror
  | write name content => exact hquiet.elim
  | delete name => exact hquiet.elim
  | update change => exact hquiet.elim
  | memory => exact .refl hsafe hknows
  | wrap key biometric => exact .refl hsafe hknows
  | unwrap blob => exact .refl hsafe hknows
  | isBiometricAvailable => exact .refl hsafe hknows
  | deleteKey => exact .refl hsafe hknows
  | deriveKek password params => exact .refl hsafe hknows
  | randomBytes count => exact .refl hsafe hknows
  | now => exact .refl hsafe hknows

theorem kept_delete {name : StorageName} {r : Except VaultError Unit} {w : World} (hsafe : s.Safe)
    (hknows : Knows s p) (heffect : storageEffect _ (.delete name) s.world r w) :
    Kept s { s with world := w } (p.next (.delete name) r) := by
  obtain ⟨rfl, rfl⟩ | ⟨e, rfl, rfl⟩ := heffect
  · have hkeeps : s.world.storage .vaultFile = none →
        (s.world.write name none).storage .vaultFile = none := by
      intro h
      simp only [World.write]
      split
      · rfl
      · exact h
    have hothers : ∀ q, Knows s q → Knows { s with world := s.world.write name none } q :=
      fun q h => ⟨h.moment, h.file, h.cleared, fun hq => hkeeps (h.deleted hq)⟩
    refine ⟨⟨⟨hsafe.final.lock, hsafe.final.wipe⟩, fun h => hkeeps (hsafe.gone h)⟩, ?_, hothers⟩
    cases name with
    | databaseKey => exact hothers p hknows
    | vaultFile => exact ⟨hknows.moment, hknows.file, hknows.cleared, fun _ => rfl⟩
  · cases name with
    | databaseKey => exact .refl hsafe hknows
    | vaultFile => exact .refl hsafe hknows

/-- An unlock installs its secrets in time: no lock or wipe has resolved since it was called. -/
theorem kept_setUnlocked {vek seed : Bytes} {seconds now : Number}
    (hknows : Knows s p) (hmoment : p.moment = some moment) (hfile : p.file = true)
    (htimely : moment = s.ended) :
    Kept s { s with
      installedFrom := moment
      live := true
      world.memory := s.world.memory.setUnlocked vek seed seconds now } p := by
  have hunwiped : s.wiped ≠ true := by
    intro hwiped
    have hbefore := hknows.file hwiped hfile moment hmoment
    omega
  have hothers : ∀ q, Knows s q → Knows { s with
      installedFrom := moment
      live := true
      world.memory := s.world.memory.setUnlocked vek seed seconds now } q :=
    fun q h => ⟨h.moment, fun hwiped => absurd hwiped hunwiped, fun _ hlive => Bool.noConfusion hlive,
      h.deleted⟩
  exact ⟨⟨⟨fun _ => htimely, fun hwiped => absurd hwiped hunwiped⟩,
    fun hwiped => absurd hwiped hunwiped⟩, hothers p hknows, hothers⟩

theorem kept_lock {now : Number} (hsafe : s.Safe) (hknows : Knows s p) :
    Kept s { s with
      ended := s.ended + 1
      live := false
      world.memory := Change.lock.apply now s.world.memory } p := by
  have hothers : ∀ q, Knows s q → Knows { s with
      ended := s.ended + 1
      live := false
      world.memory := Change.lock.apply now s.world.memory } q := fun q h =>
    ⟨fun m hm => Nat.le_succ_of_le (h.moment m hm), fun _ _ m hm => Nat.lt_succ_of_le (h.moment m hm),
      fun _ _ => ⟨rfl, rfl⟩, h.deleted⟩
  refine ⟨⟨⟨fun hunlocked => ?_, fun hwiped => ⟨rfl, rfl, ?_⟩⟩, hsafe.gone⟩, hothers p hknows, hothers⟩
  · simp only [Change.apply] at hunlocked
    split at hunlocked
    · cases hunlocked
    · next hne => exact absurd hunlocked hne
  · obtain ⟨-, -, hstate⟩ := hsafe.final.wipe hwiped
    simp [Change.apply, hstate, Memory.clearLiveState, Memory.clearAutoLockTimer]

theorem kept_clear {now : Number} (hsafe : s.Safe) (hknows : Knows s p) :
    Kept s { s with live := false, world.memory := Change.clear.apply now s.world.memory }
      { p with cleared := true } := by
  refine ⟨⟨⟨hsafe.final.lock, fun hwiped => ⟨rfl, rfl, (hsafe.final.wipe hwiped).2.2⟩⟩, hsafe.gone⟩,
    ⟨hknows.moment, hknows.file, fun _ _ => ⟨rfl, rfl⟩, hknows.deleted⟩, fun q h => ?_⟩
  exact ⟨h.moment, h.file, fun _ _ => ⟨rfl, rfl⟩, h.deleted⟩

/-- A wipe resolves where no unlock installed secrets since it cleared them. -/
theorem kept_setUninitialized {now : Number} (hknows : Knows s p)
    (hcleared : p.cleared = true) (hdeleted : p.deleted = true) (htimely : s.live = false) :
    Kept s { s with
      ended := s.ended + 1
      wiped := true
      world.memory := Change.setUninitialized.apply now s.world.memory } p := by
  have hsecrets := hknows.cleared hcleared htimely
  have hothers : ∀ q, Knows s q → Knows { s with
      ended := s.ended + 1
      wiped := true
      world.memory := Change.setUninitialized.apply now s.world.memory } q := fun q h =>
    ⟨fun m hm => Nat.le_succ_of_le (h.moment m hm), fun _ _ m hm => Nat.lt_succ_of_le (h.moment m hm),
      h.cleared, h.deleted⟩
  refine ⟨⟨⟨fun hunlocked => ?_, fun _ => ⟨hsecrets.1, hsecrets.2, rfl⟩⟩,
    fun _ => hknows.deleted hdeleted⟩, hothers p hknows, hothers⟩
  cases hunlocked

end Step

/-- What holds of the vault and of every call in flight. -/
def Guarded (crew : Crew SessionJob Progress) (s : Session) : Prop :=
  s.Safe ∧ ∀ i job p, crew i = some (job, p) → Knows s p

/-- What an answer keeps when every unlock and wipe is in time. -/
theorem kept_answer {s s' : Session} {p : Progress} {crew : Crew SessionJob Progress}
    {job : SessionJob} {β : Type} {op : TimedOp β} {r : Except VaultError β} (hsafe : s.Safe)
    (hknows : Knows s p) (hallowed : sessionWatch.allowed β p op)
    (heffect : sessionEffect β op s r s') (hmet : Timely.answer β crew job p op s r s') :
    Kept s s' (sessionWatch.next β p op r) := by
  cases op with
  | called =>
    obtain ⟨rfl, rfl⟩ := heffect
    obtain rfl : p = {} := hallowed
    refine ⟨hsafe, ⟨?_, ?_, ?_, ?_⟩, fun _ h => h⟩
    · intro m hm
      exact (Option.some.inj hm).ge
    · intro _ hfile
      cases hfile
    · intro hcleared
      cases hcleared
    · intro hdeleted
      cases hdeleted
  | op moment op =>
    obtain ⟨hmoment, hallows⟩ := hallowed
    obtain ⟨w, hstorage, rfl⟩ := heffect
    cases op with
    | update change =>
      obtain ⟨rfl, now, rfl⟩ := hstorage
      cases change with
      | setUnlocked vek seed seconds => exact kept_setUnlocked hknows hmoment hallows hmet
      | lock => exact kept_lock hsafe hknows
      | clear => exact kept_clear hsafe hknows
      | setUninitialized => exact kept_setUninitialized hknows hallows.1 hallows.2 hmet
      | touch => exact hallows.elim
      | cacheDatabaseKey key => exact hallows.elim
    | write name content => exact hallows.elim
    | delete name => exact kept_delete hsafe hknows hstorage
    | read name => exact Quiet.kept trivial hsafe hknows hstorage rfl
    | wrap key biometric => exact Quiet.kept trivial hsafe hknows hstorage rfl
    | unwrap blob => exact Quiet.kept trivial hsafe hknows hstorage rfl
    | isBiometricAvailable => exact Quiet.kept trivial hsafe hknows hstorage rfl
    | deleteKey => exact Quiet.kept trivial hsafe hknows hstorage rfl
    | deriveKek password params => exact Quiet.kept trivial hsafe hknows hstorage rfl
    | randomBytes count => exact Quiet.kept trivial hsafe hknows hstorage rfl
    | now => exact Quiet.kept trivial hsafe hknows hstorage rfl
    | memory => exact Quiet.kept trivial hsafe hknows hstorage rfl

theorem guarded_inductive (crypto : Crypto) :
    System.Inductive (sessions crypto) Timely (fun _ _ => True) System.Unconditional Guarded where
  spawn crew s i job _ h _ _ := by
    refine ⟨h.1, fun j job' p hj => ?_⟩
    by_cases hji : j = i
    · subst hji
      rw [Function.update_self] at hj
      obtain ⟨rfl, rfl⟩ := Prod.mk.inj (Option.some.inj hj)
      exact ⟨nofun, nofun, nofun, nofun⟩
    · rw [Function.update_of_ne hji] at hj
      exact h.2 j job' p hj
  answer β crew s i job p op r s' _ h next hallowed heffect hmet := by
    have hkept := kept_answer h.1 (h.2 i job p next) hallowed heffect hmet
    refine ⟨hkept.safe, fun j job' q hj => ?_⟩
    by_cases hji : j = i
    · subst hji
      rw [Function.update_self] at hj
      obtain ⟨rfl, rfl⟩ := Prod.mk.inj (Option.some.inj hj)
      exact hkept.own
    · rw [Function.update_of_ne hji] at hj
      exact hkept.others q (h.2 j job' q hj)
  finish crew s i job p _ h _ _ := by
    refine ⟨h.1, fun j job' q hj => ?_⟩
    by_cases hji : j = i
    · subst hji
      rw [Function.update_self] at hj
      cases hj
    · rw [Function.update_of_ne hji] at hj
      exact h.2 j job' q hj
  drift crew s s' _ h moved _ := moved.elim
  crash crew s _ h _ := by
    refine ⟨⟨⟨fun hunlocked => ?_, fun hwiped => ?_⟩, h.1.gone⟩, nofun⟩
    · exact absurd hunlocked (Memory.opened_locked _)
    · have hgone := h.1.gone hwiped
      simp only [sessions, Session.restart, hgone]
      exact ⟨rfl, rfl, rfl⟩

/-- Locks and wipes are final in every run of unlocks, locks and wipes in which no lock or wipe
    resolves between the call of an unlock and the install of its secrets, and no secrets are
    installed and left while a wipe is under way. -/
theorem lock_and_wipe_final {crypto : Crypto} {w : World}
    {p : Pool TimedOp VaultError SessionJob Progress Session}
    (hrun : System.Reaches (sessions crypto) Timely (Pool.idle (Session.start w)) p) :
    p.world.Final := by
  have hguarded : Guarded p.crew p.world :=
    (guarded_inductive crypto).holds (fun job => job.body_conforms) hrun
      ⟨⟨⟨fun _ => rfl, nofun⟩, nofun⟩, nofun⟩
  exact hguarded.1.final

/-! ### Schedules -/

/-- Answers as the rig gives them. -/
def sessionHandle : Program.Handler TimedOp VaultError Session
  | _, .called, s => (.ok s.ended, s)
  | β, .op moment op, s =>
    let answer := Rig.handle β op { world := s.world }
    (answer.1, { s.note moment op with world := answer.2.world })

theorem sessionHandle_allowed {β : Type} (op : TimedOp β) (s : Session) :
    sessionEffect β op s (sessionHandle β op s).1 (sessionHandle β op s).2 := by
  cases op with
  | called => exact ⟨rfl, rfl⟩
  | op moment op => exact ⟨_, Rig.handle_storage op { world := s.world }, rfl⟩

/-- A device on which a vault was just created. -/
def openWorld : World := (Program.run Rig.handle (method rigCrypto importCall) Rig.fresh).2.world

/-- An unlock finds the file deleted by a wipe that was called after it. -/
def wipedSchedule : List (System.Turn SessionJob) :=
  [.spawn 0 (.unlock "password"), .answer 0, .spawn 1 .wipe, .answer 1, .answer 1, .answer 1,
    .answer 0, .answer 1, .answer 1, .answer 1]

def wipedPool : Pool TimedOp VaultError SessionJob Progress Session :=
  wipedSchedule.foldl ((sessions rigCrypto).play sessionHandle) (Pool.idle (Session.start openWorld))

theorem lock_and_wipe_final_wiped : wipedPool.world.wiped = true ∧ wipedPool.world.Final :=
  ⟨rfl, lock_and_wipe_final (System.reaches_schedule sessionHandle_allowed (.refl _)
    ⟨trivial, trivial, trivial, trivial, trivial, trivial, trivial, trivial, trivial, rfl, trivial⟩)⟩

/-- An unlock derives its key while a lock is called and resolves, and then installs. -/
def lockedSchedule : List (System.Turn SessionJob) :=
  [.spawn 0 (.unlock "password"), .answer 0, .answer 0, .answer 0, .spawn 1 .lock, .answer 1,
    .answer 1, .answer 0]

def lockedPool : Pool TimedOp VaultError SessionJob Progress Session :=
  lockedSchedule.foldl ((sessions rigCrypto).play sessionHandle) (Pool.idle (Session.start openWorld))

theorem not_lock_and_wipe_final :
    ¬∀ (crypto : Crypto) (w : World) (p : Pool TimedOp VaultError SessionJob Progress Session),
      System.Reaches (sessions crypto) System.Anyhow (Pool.idle (Session.start w)) p →
        p.world.Final := by
  intro h
  have hfinal := h _ _ _ (System.reaches_anyhow sessionHandle_allowed lockedSchedule
    (Pool.idle (Session.start openWorld)) : System.Reaches (sessions rigCrypto) _ _ _)
  have hunlocked : lockedPool.world.world.memory.state = .unlocked ∧
      lockedPool.world.installedFrom ≠ lockedPool.world.ended := by decide +kernel
  exact hunlocked.2 (hfinal.lock hunlocked.1)

end cemp.secureVault
