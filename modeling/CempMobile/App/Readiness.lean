import CempMobile.App.Container

/-! What the container reports, against what it has open. -/

open cemp.core cemp.vault

namespace cemp.app

/-- What the start of the messaging service does. It migrates the database too, near its
    beginning. -/
inductive MessagingInit where
  | starts
  | throwsBeforeMigration
  | throwsAfterMigration
  deriving DecidableEq, Repr

/-- The calls and events of a container, with what throws in them, and those of its vault. -/
inductive ContainerEvent where
  | buildVault (seed : Bytes) (wraps : Bool)
  | unlock (authenticated : Bool)
  | unlockWithBiometrics (authenticated : Bool)
  | autoLock
  | afterVaultUnlock (opens migrates : Bool) (messaging : MessagingInit)
  | lock
  | wipe
  | resetLocalData
  | reconcileVaultState (deadlinePassed : Bool)
  | externalLock
  deriving DecidableEq, Repr

namespace AppContainer

/-- The vault is usable where its deadline has not passed on the wall clock. -/
def vaultUsable (deadlinePassed : Bool) (c : AppContainer) : Bool :=
  c.state = .ready ∧ c.vault.state = .unlocked ∧ deadlinePassed = false

def reconcileVaultState (deadlinePassed : Bool) (c : AppContainer) :
    Except AppError Unit × AppContainer :=
  if c.state ≠ .ready ∨ c.vaultUsable deadlinePassed then (.ok (), c)
  else if c.vault.state = .unlocked then
    { c with vault := c.vault.lock }.handleExternalLock true
  else c.handleExternalLock true

def perform (deriveSubSeed : Bytes → Bytes) (c : AppContainer) : ContainerEvent → AppContainer
  | .buildVault seed wraps => step deriveSubSeed c (.buildVault seed wraps)
  | .unlock authenticated => step deriveSubSeed c (.unlock authenticated)
  | .unlockWithBiometrics authenticated => step deriveSubSeed c (.unlockWithBiometrics authenticated)
  | .autoLock => step deriveSubSeed c .autoLock
  | .afterVaultUnlock opens migrates messaging =>
    step deriveSubSeed c (.afterVaultUnlock opens migrates (messaging = .starts))
  | .lock => step deriveSubSeed c (.lock true)
  | .wipe => step deriveSubSeed c (.wipe true true)
  | .resetLocalData => step deriveSubSeed c (.resetLocalData true)
  | .reconcileVaultState deadlinePassed => (c.reconcileVaultState deadlinePassed).2
  | .externalLock => step deriveSubSeed c (.handleExternalLock true)

end AppContainer

/-- A container, and whether the database behind its handle is migrated. -/
structure TrackedContainer where
  container : AppContainer
  migrated : Bool

namespace TrackedContainer

/-- Whether the database is migrated after an event. A handle that stays was migrated before, or the
    messaging service has done it. -/
def migratedAfter (t : TrackedContainer) : ContainerEvent → Bool
  | .afterVaultUnlock _ migrates messaging =>
    if t.container.db.isSome then
      t.migrated || (t.container.vault.state = .unlocked && !t.container.messaging &&
        messaging ≠ .throwsBeforeMigration)
    else migrates
  | _ => t.migrated

def step (deriveSubSeed : Bytes → Bytes) (t : TrackedContainer) (event : ContainerEvent) :
    TrackedContainer :=
  let container := t.container.perform deriveSubSeed event
  ⟨container, container.db.isSome && t.migratedAfter event⟩

def init (file : Option Bytes) : TrackedContainer := ⟨.init file, false⟩

def run (deriveSubSeed : Bytes → Bytes) (t : TrackedContainer) (events : List ContainerEvent) :
    TrackedContainer :=
  events.foldl (step deriveSubSeed) t

/-- What `ready` promises: the database is open and migrated, and the repositories are there. -/
structure Open (t : TrackedContainer) : Prop where
  db : t.container.db.isSome = true
  migrated : t.migrated = true
  repositories : t.container.repositories = true

def Honest (t : TrackedContainer) : Prop := t.container.state = .ready → t.Open

/-- An `afterVaultUnlock` of an unlocked vault that succeeds leaves the app usable. -/
def Recovers (deriveSubSeed : Bytes → Bytes) (t : TrackedContainer) : ContainerEvent → Prop
  | .afterVaultUnlock opens migrates messaging =>
    t.container.vault.state = .unlocked →
      (t.container.afterVaultUnlock deriveSubSeed opens migrates (messaging = .starts)).1 = .ok () →
      let after := t.step deriveSubSeed (.afterVaultUnlock opens migrates messaging)
      after.container.state = .ready ∧ after.Open ∧ after.container.messaging = true
  | _ => True

/-- No `afterVaultUnlock` that completes finds a handle without repositories, and the local data is
    not reset under a container that is ready. -/
def Careful (t : TrackedContainer) : ContainerEvent → Prop
  | .afterVaultUnlock _ _ messaging =>
    t.container.vault.state = .unlocked → t.container.db.isSome = true →
      (t.container.messaging = true ∨ messaging = .starts) → t.container.repositories = true
  | .resetLocalData => t.container.state ≠ .ready
  | _ => True

/-- What holds of every container: what is built over a handle goes with it. -/
structure Sound (t : TrackedContainer) : Prop where
  repositories : t.container.repositories = true → t.container.db.isSome = true ∧ t.migrated = true
  messaging : t.container.messaging = true → t.container.db.isSome = true ∧ t.migrated = true

end TrackedContainer

namespace AppContainer

variable {deriveSubSeed : Bytes → Bytes} {opens migrates initializes : Bool} {c : AppContainer}

/-- What an `openDatabase` without a handle comes to: no handle, a handle that is not migrated, or
    one with its repositories. -/
theorem openDatabase_without_handle (hdb : c.db = none) :
    (∃ e vault openings, c.openDatabase deriveSubSeed opens migrates =
      (.error e, { c with vault := vault, openings := openings })) ∨
    (∃ e key vault openings, migrates = false ∧ c.openDatabase deriveSubSeed opens migrates =
      (.error e, { c with db := some key, vault := vault, openings := openings })) ∨
    ∃ key vault openings, migrates = true ∧ c.openDatabase deriveSubSeed opens migrates =
      (.ok (), { c with db := some key, repositories := true, vault := vault, openings := openings }) := by
  have hnone : ¬ c.db.isSome = true := by rw [hdb]; decide
  unfold openDatabase
  rw [if_neg hnone]
  cases c.vault.getDatabaseKey deriveSubSeed with
  | mk found vault =>
    cases found with
    | error e => exact .inl ⟨_, _, _, rfl⟩
    | ok dbKey =>
      cases opens with
      | false => exact .inl ⟨_, _, _, rfl⟩
      | true =>
        cases migrates with
        | false => exact .inr (.inl ⟨_, _, _, _, rfl, rfl⟩)
        | true => exact .inr (.inr ⟨_, _, _, rfl, rfl⟩)

theorem afterVaultUnlock_locked (hlocked : c.vault.state ≠ .unlocked) :
    c.afterVaultUnlock deriveSubSeed opens migrates initializes =
      (.ok (), { c with state := containerState c.vault }) :=
  if_pos hlocked

/-- Over an open handle an unlocked vault needs no more than the messaging service. -/
theorem afterVaultUnlock_open (hunlocked : c.vault.state = .unlocked) (hdb : c.db.isSome = true) :
    (c.messaging = true ∨ initializes = true) ∧
        c.afterVaultUnlock deriveSubSeed opens migrates initializes =
          (.ok (), { c with messaging := true, state := .ready }) ∨
      c.messaging = false ∧ initializes = false ∧
        ∃ e, c.afterVaultUnlock deriveSubSeed opens migrates initializes = (.error e, c) := by
  have hopen : c.openDatabase deriveSubSeed opens migrates = (.ok (), c) := if_pos hdb
  unfold afterVaultUnlock
  rw [if_neg (not_not.2 hunlocked), hopen]
  cases hmessaging : c.messaging with
  | true =>
    refine .inl ⟨.inl rfl, ?_⟩
    simp only [if_pos, ← hmessaging]
  | false =>
    cases initializes with
    | true => exact .inl ⟨.inr rfl, by simp only [hmessaging]; rfl⟩
    | false => exact .inr ⟨rfl, rfl, _, by simp only [hmessaging]; rfl⟩

/-- Without a handle, an unlocked vault's container has opened one, left one, or has none. -/
theorem afterVaultUnlock_closed (hunlocked : c.vault.state = .unlocked) (hdb : c.db = none)
    (hmessaging : c.messaging = false) :
    (∃ e vault openings, c.afterVaultUnlock deriveSubSeed opens migrates initializes =
      (.error e, { c with vault := vault, openings := openings })) ∨
    (∃ e key vault openings, migrates = false ∧
      c.afterVaultUnlock deriveSubSeed opens migrates initializes =
        (.error e, { c with db := some key, vault := vault, openings := openings })) ∨
    (∃ e key vault openings, migrates = true ∧
      c.afterVaultUnlock deriveSubSeed opens migrates initializes =
        (.error e, { c with
          db := some key, repositories := true, vault := vault, openings := openings })) ∨
    ∃ key vault openings, migrates = true ∧
      c.afterVaultUnlock deriveSubSeed opens migrates initializes =
        (.ok (), { c with
          db := some key, repositories := true, messaging := true, state := .ready
          vault := vault, openings := openings }) := by
  unfold afterVaultUnlock
  rw [if_neg (not_not.2 hunlocked)]
  rcases openDatabase_without_handle hdb with ⟨e, vault, openings, heq⟩ | ⟨e, key, vault, openings, hm, heq⟩ |
    ⟨key, vault, openings, hm, heq⟩
  · rw [heq]
    exact .inl ⟨e, vault, openings, rfl⟩
  · rw [heq]
    exact .inr (.inl ⟨e, key, vault, openings, hm, rfl⟩)
  · rw [heq]
    simp only [hmessaging]
    cases initializes with
    | false => exact .inr (.inr (.inl ⟨_, key, vault, openings, hm, rfl⟩))
    | true => exact .inr (.inr (.inr ⟨key, vault, openings, hm, rfl⟩))

/-- An external lock leaves no handle, and nothing over one. -/
theorem handleExternalLock_true (c : AppContainer) : c.handleExternalLock true =
    (.ok (), { c with
      db := none, messaging := false, repositories := false, state := containerState c.vault }) := by
  unfold handleExternalLock closeDatabase
  cases hdb : c.db with
  | none => simp
  | some key => simp

theorem lock_true (c : AppContainer) : c.lock true =
    (.ok (), { c with
      vault := c.vault.lock, db := none, messaging := false, repositories := false
      state := .locked }) := by
  unfold AppContainer.lock closeDatabase
  cases hdb : c.db with
  | none => simp
  | some key => simp

theorem containerState_ne_ready (vault : SecureVault) : containerState vault ≠ .ready := by
  unfold containerState
  split <;> decide

end AppContainer

namespace TrackedContainer

variable {deriveSubSeed : Bytes → Bytes} {t : TrackedContainer} {opens migrates : Bool}
  {messaging : MessagingInit}

/-- The effect of an event on all that is tracked but the vault. -/
theorem step_eq (event : ContainerEvent) :
    t.step deriveSubSeed event =
      ⟨t.container.perform deriveSubSeed event,
        (t.container.perform deriveSubSeed event).db.isSome && t.migratedAfter event⟩ :=
  rfl

/-- Without a handle nothing is built over one. -/
theorem Sound.closed (h : t.Sound) (hdb : t.container.db = none) :
    t.container.repositories = false ∧ t.container.messaging = false := by
  constructor
  · rw [← Bool.not_eq_true]
    intro hrepositories
    have hopen := (h.repositories hrepositories).1
    rw [hdb] at hopen
    cases hopen
  · rw [← Bool.not_eq_true]
    intro hmessaging
    have hopen := (h.messaging hmessaging).1
    rw [hdb] at hopen
    cases hopen

/-- A container without anything over its handle is sound, and honest unless it says it is ready. -/
theorem sound_of_bare (hrepositories : t.container.repositories = false)
    (hmessaging : t.container.messaging = false) : t.Sound :=
  ⟨fun h => absurd (hrepositories.symm.trans h) (by decide),
    fun h => absurd (hmessaging.symm.trans h) (by decide)⟩

theorem honest_of_ne_ready (h : t.container.state ≠ .ready) : t.Honest :=
  fun hready => absurd hready h

/-- What an event keeps and shows: the container stays sound, and it stays honest and recovers
    exactly where the event is careful. -/
structure Steps (deriveSubSeed : Bytes → Bytes) (t : TrackedContainer) (event : ContainerEvent) :
    Prop where
  sound : (t.step deriveSubSeed event).Sound
  honest_iff : (t.step deriveSubSeed event).Honest ∧ t.Recovers deriveSubSeed event ↔ t.Careful event

/-- An event of the vault leaves what is open as it is. -/
theorem steps_vault (h : t.Sound) (hhonest : t.Honest) {event : ContainerEvent}
    {vault : SecureVault}
    (heq : t.container.perform deriveSubSeed event = { t.container with vault := vault })
    (hmigrated : t.migratedAfter event = t.migrated) (hrecovers : t.Recovers deriveSubSeed event)
    (hcareful : t.Careful event) : Steps deriveSubSeed t event := by
  have hdb : (t.container.perform deriveSubSeed event).db = t.container.db := by rw [heq]
  constructor
  · constructor
    · intro hrepositories
      rw [step_eq, heq] at hrepositories
      obtain ⟨hopen, hdone⟩ := h.repositories hrepositories
      rw [step_eq, heq, hmigrated, hdone]
      exact ⟨hopen, by simpa using hopen⟩
    · intro hmessaging
      rw [step_eq, heq] at hmessaging
      obtain ⟨hopen, hdone⟩ := h.messaging hmessaging
      rw [step_eq, heq, hmigrated, hdone]
      exact ⟨hopen, by simpa using hopen⟩
  · refine iff_of_true ⟨fun hready => ?_, hrecovers⟩ hcareful
    rw [step_eq, heq] at hready
    obtain ⟨hopen, hdone, hrepositories⟩ := hhonest hready
    rw [step_eq, heq, hmigrated, hdone]
    exact ⟨hopen, by simpa using hopen, hrepositories⟩

/-- An event that closes the handle and leaves the ready state. -/
theorem steps_closing {event : ContainerEvent}
    (hrepositories : (t.container.perform deriveSubSeed event).repositories = false)
    (hmessaging : (t.container.perform deriveSubSeed event).messaging = false)
    (hstate : (t.container.perform deriveSubSeed event).state ≠ .ready)
    (hrecovers : t.Recovers deriveSubSeed event) (hcareful : t.Careful event) :
    Steps deriveSubSeed t event :=
  ⟨sound_of_bare hrepositories hmessaging,
    iff_of_true ⟨honest_of_ne_ready hstate, hrecovers⟩ hcareful⟩

/-- An `afterVaultUnlock` that throws leaves the container honest where it was. -/
theorem recovers_of_error {e : AppError} {container : AppContainer}
    (heq : t.container.afterVaultUnlock deriveSubSeed opens migrates (messaging = .starts) =
      (.error e, container)) :
    t.Recovers deriveSubSeed (.afterVaultUnlock opens migrates messaging) := by
  intro _ hok
  rw [heq] at hok
  cases hok

theorem steps_afterVaultUnlock_locked (h : t.Sound) (hlocked : t.container.vault.state ≠ .unlocked) :
    Steps deriveSubSeed t (.afterVaultUnlock opens migrates messaging) := by
  have heq : t.container.perform deriveSubSeed (.afterVaultUnlock opens migrates messaging) =
      { t.container with state := AppContainer.containerState t.container.vault } :=
    congrArg Prod.snd (AppContainer.afterVaultUnlock_locked hlocked)
  have hkept (hopen : t.container.db.isSome = true) (hdone : t.migrated = true) :
      (t.step deriveSubSeed (.afterVaultUnlock opens migrates messaging)).container.db.isSome = true ∧
        (t.step deriveSubSeed (.afterVaultUnlock opens migrates messaging)).migrated = true := by
    rw [step_eq, heq, migratedAfter, if_pos hopen, hdone]
    exact ⟨hopen, by simpa using hopen⟩
  constructor
  · constructor
    · intro hrepositories
      rw [step_eq, heq] at hrepositories
      exact hkept (h.repositories hrepositories).1 (h.repositories hrepositories).2
    · intro hmessaging
      rw [step_eq, heq] at hmessaging
      exact hkept (h.messaging hmessaging).1 (h.messaging hmessaging).2
  · refine iff_of_true ⟨honest_of_ne_ready ?_, fun hunlocked => absurd hunlocked hlocked⟩
      fun hunlocked => absurd hunlocked hlocked
    rw [step_eq, heq]
    exact AppContainer.containerState_ne_ready _

theorem steps_afterVaultUnlock_open (h : t.Sound) (hhonest : t.Honest)
    (hunlocked : t.container.vault.state = .unlocked) (hdb : t.container.db.isSome = true) :
    Steps deriveSubSeed t (.afterVaultUnlock opens migrates messaging) := by
  rcases @AppContainer.afterVaultUnlock_open deriveSubSeed opens migrates (messaging = .starts)
      t.container hunlocked hdb with ⟨hstarts, hresult⟩ | ⟨hmessaging, hinit, e, hresult⟩
  · have heq : t.step deriveSubSeed (.afterVaultUnlock opens migrates messaging) =
        ⟨{ t.container with messaging := true, state := .ready }, true⟩ := by
      have hperform : t.container.perform deriveSubSeed (.afterVaultUnlock opens migrates messaging) =
          { t.container with messaging := true, state := .ready } := congrArg Prod.snd hresult
      have hmigrated : t.migratedAfter (.afterVaultUnlock opens migrates messaging) = true := by
        rw [migratedAfter, if_pos hdb]
        cases hmessaging : t.container.messaging with
        | true => rw [(h.messaging hmessaging).2, Bool.true_or]
        | false =>
          have hinit : messaging = .starts := of_decide_eq_true (hstarts.resolve_left (by simp [hmessaging]))
          simp [hunlocked, hinit]
      rw [step_eq, hperform, hmigrated, Bool.and_true, hdb]
    have hcareful : t.Careful (.afterVaultUnlock opens migrates messaging) ↔
        t.container.repositories = true := by
      refine ⟨fun hcareful => hcareful hunlocked hdb ?_, fun hrepositories _ _ _ => hrepositories⟩
      exact hstarts.imp_right of_decide_eq_true
    constructor
    · rw [heq]
      exact ⟨fun _ => ⟨hdb, rfl⟩, fun _ => ⟨hdb, rfl⟩⟩
    · rw [hcareful, heq]
      constructor
      · rintro ⟨hready, -⟩
        exact (hready rfl).repositories
      · intro hrepositories
        refine ⟨fun _ => ⟨hdb, rfl, hrepositories⟩, fun _ _ => ?_⟩
        rw [heq]
        exact ⟨rfl, ⟨hdb, rfl, hrepositories⟩, rfl⟩
  · have hperform : t.container.perform deriveSubSeed (.afterVaultUnlock opens migrates messaging) =
        t.container := congrArg Prod.snd hresult
    have hkept (hdone : t.migrated = true) :
        (t.step deriveSubSeed (.afterVaultUnlock opens migrates messaging)).migrated = true := by
      rw [step_eq, hperform, migratedAfter, if_pos hdb, hdone, hdb]
      rfl
    constructor
    · constructor
      · intro hrepositories
        rw [step_eq, hperform] at hrepositories
        exact ⟨by rw [step_eq, hperform]; exact hdb, hkept (h.repositories hrepositories).2⟩
      · intro hstarted
        rw [step_eq, hperform, hmessaging] at hstarted
        cases hstarted
    · refine iff_of_true ⟨fun hready => ?_, recovers_of_error hresult⟩ ?_
      · rw [step_eq, hperform] at hready
        obtain ⟨-, hdone, hrepositories⟩ := hhonest hready
        exact ⟨by rw [step_eq, hperform]; exact hdb, hkept hdone,
          by rw [step_eq, hperform]; exact hrepositories⟩
      · rintro - - (hstarted | hstarts)
        · exact absurd (hmessaging.symm.trans hstarted) (by decide)
        · exact absurd hstarts (of_decide_eq_false hinit)

theorem steps_afterVaultUnlock_closed (h : t.Sound) (hhonest : t.Honest)
    (hunlocked : t.container.vault.state = .unlocked) (hdb : t.container.db = none) :
    Steps deriveSubSeed t (.afterVaultUnlock opens migrates messaging) := by
  obtain ⟨hrepositories, hmessaging⟩ := h.closed hdb
  have hnone : ¬ t.container.db.isSome = true := by rw [hdb]; decide
  have hstate : t.container.state ≠ .ready := fun hready => hnone (hhonest hready).db
  have hcareful : t.Careful (.afterVaultUnlock opens migrates messaging) :=
    fun _ hopen => absurd hopen hnone
  have hstep {e : Except AppError Unit} {container : AppContainer}
      (hresult : t.container.afterVaultUnlock deriveSubSeed opens migrates (messaging = .starts) =
        (e, container)) :
      t.step deriveSubSeed (.afterVaultUnlock opens migrates messaging) =
        ⟨container, container.db.isSome && migrates⟩ := by
    have hperform : t.container.perform deriveSubSeed (.afterVaultUnlock opens migrates messaging) =
        container := congrArg Prod.snd hresult
    rw [step_eq, hperform, migratedAfter, if_neg hnone]
  rcases @AppContainer.afterVaultUnlock_closed deriveSubSeed opens migrates (messaging = .starts)
      t.container hunlocked hdb hmessaging with ⟨e, vault, openings, hresult⟩ |
    ⟨e, key, vault, openings, hfailed, hresult⟩ | ⟨e, key, vault, openings, hdone, hresult⟩ |
    ⟨key, vault, openings, hdone, hresult⟩
  · constructor
    · rw [hstep hresult]
      exact sound_of_bare hrepositories hmessaging
    · refine iff_of_true ⟨honest_of_ne_ready ?_, recovers_of_error hresult⟩ hcareful
      rw [hstep hresult]
      exact hstate
  · constructor
    · rw [hstep hresult]
      exact sound_of_bare hrepositories hmessaging
    · refine iff_of_true ⟨honest_of_ne_ready ?_, recovers_of_error hresult⟩ hcareful
      rw [hstep hresult]
      exact hstate
  · constructor
    · rw [hstep hresult, hdone]
      exact ⟨fun _ => ⟨rfl, rfl⟩, fun _ => ⟨rfl, rfl⟩⟩
    · refine iff_of_true ⟨honest_of_ne_ready ?_, recovers_of_error hresult⟩ hcareful
      rw [hstep hresult]
      exact hstate
  · constructor
    · rw [hstep hresult, hdone]
      exact ⟨fun _ => ⟨rfl, rfl⟩, fun _ => ⟨rfl, rfl⟩⟩
    · refine iff_of_true ⟨?_, fun _ _ => ?_⟩ hcareful
      · rw [hstep hresult, hdone]
        exact fun _ => ⟨rfl, rfl, rfl⟩
      · rw [hstep hresult, hdone]
        exact ⟨rfl, ⟨rfl, rfl, rfl⟩, rfl⟩

theorem steps_externalLock {event : ContainerEvent} {container : AppContainer}
    (heq : t.container.perform deriveSubSeed event = (container.handleExternalLock true).2)
    (hrecovers : t.Recovers deriveSubSeed event) (hcareful : t.Careful event) :
    Steps deriveSubSeed t event := by
  rw [AppContainer.handleExternalLock_true] at heq
  refine steps_closing (by rw [heq]) (by rw [heq]) ?_ hrecovers hcareful
  rw [heq]
  exact AppContainer.containerState_ne_ready _

theorem steps_resetLocalData : Steps deriveSubSeed t .resetLocalData := by
  constructor
  · exact sound_of_bare rfl rfl
  · refine ⟨fun h hready => ?_, fun hstate => ⟨honest_of_ne_ready hstate, trivial⟩⟩
    have hopen := (h.1 hready).db
    cases hopen

/-- One event, whichever it is. -/
theorem steps (h : t.Sound) (hhonest : t.Honest) (event : ContainerEvent) :
    Steps deriveSubSeed t event := by
  cases event with
  | buildVault seed wraps => exact steps_vault h hhonest rfl rfl trivial trivial
  | unlock authenticated => exact steps_vault h hhonest rfl rfl trivial trivial
  | unlockWithBiometrics authenticated => exact steps_vault h hhonest rfl rfl trivial trivial
  | autoLock => exact steps_vault h hhonest rfl rfl trivial trivial
  | afterVaultUnlock opens migrates messaging =>
    by_cases hunlocked : t.container.vault.state = .unlocked
    · cases hdb : t.container.db with
      | none => exact steps_afterVaultUnlock_closed h hhonest hunlocked hdb
      | some key => exact steps_afterVaultUnlock_open h hhonest hunlocked (hdb ▸ rfl)
    · exact steps_afterVaultUnlock_locked h hunlocked
  | lock =>
    have heq : t.container.perform deriveSubSeed .lock = (t.container.lock true).2 := rfl
    rw [AppContainer.lock_true] at heq
    refine steps_closing (by rw [heq]) (by rw [heq]) ?_ trivial trivial
    rw [heq]
    exact fun hready => nomatch hready
  | wipe => exact steps_closing rfl rfl (fun hready => nomatch hready) trivial trivial
  | resetLocalData => exact steps_resetLocalData
  | reconcileVaultState deadlinePassed =>
    by_cases hkept : t.container.state ≠ .ready ∨ t.container.vaultUsable deadlinePassed
    · have heq : t.container.perform deriveSubSeed (.reconcileVaultState deadlinePassed) =
          { t.container with vault := t.container.vault } := congrArg Prod.snd (if_pos hkept)
      exact steps_vault h hhonest heq rfl trivial trivial
    · by_cases hunlocked : t.container.vault.state = .unlocked
      · have heq : t.container.perform deriveSubSeed (.reconcileVaultState deadlinePassed) =
            (AppContainer.handleExternalLock true
              { t.container with vault := t.container.vault.lock }).2 :=
          congrArg Prod.snd ((if_neg hkept).trans (if_pos hunlocked))
        exact steps_externalLock heq trivial trivial
      · have heq : t.container.perform deriveSubSeed (.reconcileVaultState deadlinePassed) =
            (t.container.handleExternalLock true).2 :=
          congrArg Prod.snd ((if_neg hkept).trans (if_neg hunlocked))
        exact steps_externalLock heq trivial trivial
  | externalLock => exact steps_externalLock rfl trivial trivial

theorem sound_init (file : Option Bytes) : (init file).Sound := sound_of_bare rfl rfl

theorem honest_init (file : Option Bytes) : (init file).Honest :=
  honest_of_ne_ready (AppContainer.containerState_ne_ready _)

theorem run_append (events : List ContainerEvent) (event : ContainerEvent) :
    run deriveSubSeed t (events ++ [event]) = (run deriveSubSeed t events).step deriveSubSeed event := by
  rw [run, List.foldl_append]
  rfl

/-- The container is honest after each part of a run, and each `afterVaultUnlock` in it that
    succeeds on an unlocked vault leaves the app usable. -/
def RunsHonestly (deriveSubSeed : Bytes → Bytes) (t : TrackedContainer)
    (events : List ContainerEvent) : Prop :=
  (∀ before after, events = before ++ after → (run deriveSubSeed t before).Honest) ∧
    ∀ before event after, events = before ++ event :: after →
      (run deriveSubSeed t before).Recovers deriveSubSeed event

/-- Each event of a run is careful where it happens. -/
def RunsCarefully (deriveSubSeed : Bytes → Bytes) : TrackedContainer → List ContainerEvent → Prop
  | _, [] => True
  | t, event :: events =>
    t.Careful event ∧ RunsCarefully deriveSubSeed (t.step deriveSubSeed event) events

theorem runsHonestly_cons {event : ContainerEvent} {events : List ContainerEvent} :
    RunsHonestly deriveSubSeed t (event :: events) ↔
      t.Honest ∧ t.Recovers deriveSubSeed event ∧
        RunsHonestly deriveSubSeed (t.step deriveSubSeed event) events := by
  constructor
  · rintro ⟨hhonest, hrecovers⟩
    refine ⟨hhonest [] _ rfl, hrecovers [] event events rfl, fun before after heq => ?_,
      fun before later after heq => ?_⟩
    · exact hhonest (event :: before) after (congrArg (event :: ·) heq)
    · exact hrecovers (event :: before) later after (congrArg (event :: ·) heq)
  · rintro ⟨hhonest, hrecovers, hrest⟩
    constructor
    · rintro (- | ⟨first, before⟩) after heq
      · exact hhonest
      · obtain ⟨rfl, htail⟩ := List.cons.inj heq
        exact hrest.1 before after htail
    · rintro (- | ⟨first, before⟩) later after heq
      · obtain ⟨rfl, -⟩ := List.cons.inj heq
        exact hrecovers
      · obtain ⟨rfl, htail⟩ := List.cons.inj heq
        exact hrest.2 before later after htail

theorem runsHonestly_iff_of_sound (h : t.Sound) (hhonest : t.Honest) (events : List ContainerEvent) :
    RunsHonestly deriveSubSeed t events ↔ RunsCarefully deriveSubSeed t events := by
  induction events generalizing t with
  | nil =>
    refine iff_of_true ⟨fun before after heq => ?_, fun before event after heq => ?_⟩ trivial
    · rw [(List.append_eq_nil_iff.1 heq.symm).1]
      exact hhonest
    · exact absurd heq.symm (List.append_ne_nil_of_right_ne_nil _ (List.cons_ne_nil _ _))
  | cons event events ih =>
    have hsteps : Steps deriveSubSeed t event := steps h hhonest event
    rw [runsHonestly_cons, RunsCarefully]
    constructor
    · rintro ⟨-, hrecovers, hrest⟩
      have hnext := hrest.1 [] events rfl
      exact ⟨hsteps.honest_iff.1 ⟨hnext, hrecovers⟩, (ih hsteps.sound hnext).1 hrest⟩
    · rintro ⟨hcareful, hrest⟩
      obtain ⟨hnext, hrecovers⟩ := hsteps.honest_iff.2 hcareful
      exact ⟨hhonest, hrecovers, (ih hsteps.sound hnext).2 hrest⟩

/-- Over every run of the app, `ready` tells of an open and migrated database with its repositories,
    and every success of `afterVaultUnlock` of a usable app, exactly where each event is careful. -/
theorem runsHonestly_iff (deriveSubSeed : Bytes → Bytes) (file : Option Bytes)
    (events : List ContainerEvent) :
    RunsHonestly deriveSubSeed (init file) events ↔ RunsCarefully deriveSubSeed (init file) events :=
  runsHonestly_iff_of_sound (sound_init file) (honest_init file) events

/-- The migration throws, and the retry finds the handle that it has left. -/
theorem ready_without_repositories : ¬ ∀ (deriveSubSeed : Bytes → Bytes) file events,
    RunsHonestly deriveSubSeed (init file) events := by
  intro h
  have hruns := h (fun _ => List.replicate 32 1) (some (List.replicate 64 7))
    [.unlock true, .afterVaultUnlock true false .starts, .afterVaultUnlock true true .starts]
  have hready := (hruns.1 _ [] (List.append_nil _).symm (by decide +kernel)).repositories
  exact absurd hready (by decide +kernel)

end TrackedContainer

end cemp.app
