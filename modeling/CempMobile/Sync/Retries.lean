import CempMobile.Core.Text
import CempMobile.Sync.Leases

/-! The retries of the workers: a counter of failures in a row that outlives the process, and the
    one-shot that runs a failed worker again. -/

open cemp.core Binary64

namespace cemp.sync

/-! ### The policy -/

/-- A policy that doubles its delays. -/
structure BackoffPolicy where
  baseMs : Nat
  capMs : Nat
  jitter : ℚ
  deriving DecidableEq, Repr

namespace BackoffPolicy

/-- The delay without jitter. Two to the power of 1024 is infinite. -/
def nominal (policy : BackoffPolicy) (attempt : Nat) : Nat :=
  if attempt < 1024 then min policy.capMs (policy.baseMs * 2 ^ attempt) else policy.capMs

def delay (policy : BackoffPolicy) (random : ℚ) (attempt : Nat) : ℤ :=
  let nominal : ℚ := policy.nominal attempt
  let spread := fl (nominal * policy.jitter)
  round (fl (fl (nominal - spread) + fl (fl (2 * spread) * random)))

theorem nominal_le (policy : BackoffPolicy) (attempt : Nat) :
    policy.nominal attempt ≤ policy.capMs := by
  unfold nominal
  split
  · exact Nat.min_le_left _ _
  · exact Nat.le_refl _

/-- Without jitter the delay is the nominal one. -/
theorem delay_of_jitter {policy : BackoffPolicy} (hjitter : policy.jitter = 0)
    (hcap : policy.capMs ≤ 2 ^ 53) (random : ℚ) (attempt : Nat) :
    policy.delay random attempt = policy.nominal attempt := by
  have hzero : fl 0 = 0 := if_pos rfl
  have hexact : fl (policy.nominal attempt : ℚ) = policy.nominal attempt :=
    fl_natCast (Nat.le_trans (policy.nominal_le attempt) hcap)
  unfold delay
  simp only [hjitter, mul_zero, hzero, sub_zero, zero_mul, add_zero, hexact, round_natCast]

end BackoffPolicy

/-! ### The engine -/

/-- How far a run of a worker is. -/
inductive Phase where
  | working
  /-- The worker succeeded; its counter is to be deleted. -/
  | deleting
  /-- The one-shot is to be cancelled. -/
  | cancelling
  /-- The worker failed; its counter is to be read. -/
  | reading
  | writing (attempt : Nat)
  | scheduling (attempt : Nat)
  | releasing
  deriving DecidableEq, Repr

structure RetryWorld where
  lease : LeaseWorld
  /-- The phase of an engine's run of a worker. -/
  phase : String → String → Phase
  /-- `sync_cursors`. -/
  cursors : String → Option String
  /-- What the scheduler was last told of each worker's one-shot. -/
  oneShots : String → Option ℤ
  /-- The failures in a row that were counted. -/
  failures : String → Nat

/-- `SyncEngine.retryAttempt`. -/
def retryAttempt (cursors : String → Option String) (workerId : String) : Nat :=
  match cursors ("retry:" ++ workerId) with
  | none => 0
  | some raw =>
    match text.number raw.toList with
    | some parsed => if parsed.den = 1 ∧ 0 ≤ parsed then parsed.num.toNat else 0
    | none => 0

/-- The engine's active run of a worker. -/
def activeRun (lease : LeaseWorld) (engineId workerId : String) : Option LeasedRun :=
  lease.active.find? fun run => run.resource = workerResource workerId ∧ run.owner = engineId

inductive RetryEvent where
  | runWorker (engineId workerId : String)
  /-- A run goes on: its worker ends, or the call ends that it waits for. -/
  | advance (engineId workerId : String) (succeeds : Bool) (random : ℚ)
  /-- A run ends with its process. -/
  | die (engineId workerId : String)
  | prune
  | tick (ms : Nat)
  deriving DecidableEq, Repr

namespace RetryWorld

def setPhase (engineId workerId : String) (phase : Phase) (w : RetryWorld) : RetryWorld :=
  { w with
    phase := Function.update w.phase engineId
      (Function.update (w.phase engineId) workerId phase) }

/-- What a run does next, from its phase. -/
def advance (policy : BackoffPolicy) (engineId workerId : String) (succeeds : Bool) (random : ℚ)
    (run : LeasedRun) (w : RetryWorld) : RetryWorld :=
  match w.phase engineId workerId with
  | .working => setPhase engineId workerId (if succeeds then .deleting else .reading) w
  | .deleting =>
    setPhase engineId workerId .cancelling
      { w with
        cursors := Function.update w.cursors ("retry:" ++ workerId) none
        failures := Function.update w.failures workerId 0 }
  | .cancelling =>
    setPhase engineId workerId .releasing
      { w with oneShots := Function.update w.oneShots workerId none }
  | .reading => setPhase engineId workerId (.writing (retryAttempt w.cursors workerId)) w
  | .writing attempt =>
    setPhase engineId workerId (.scheduling attempt)
      { w with
        cursors := Function.update w.cursors ("retry:" ++ workerId)
          (some (String.ofList (Nat.toDigits 10 (attempt + 1))))
        failures := Function.update w.failures workerId (w.failures workerId + 1) }
  | .scheduling attempt =>
    setPhase engineId workerId .releasing
      { w with
        oneShots := Function.update w.oneShots workerId (some (policy.delay random attempt)) }
  | .releasing => { w with lease := (LeaseEvent.finish run).exec w.lease }

def step (policy : BackoffPolicy) (w : RetryWorld) : RetryEvent → RetryWorld
  | .runWorker engineId workerId =>
    let lease := (LeaseEvent.runWorker engineId workerId).exec w.lease
    if lease.active = w.lease.active then { w with lease := lease }
    else setPhase engineId workerId .working { w with lease := lease }
  | .advance engineId workerId succeeds random =>
    match activeRun w.lease engineId workerId with
    | none => w
    | some run => advance policy engineId workerId succeeds random run w
  | .die engineId workerId =>
    match activeRun w.lease engineId workerId with
    | none => w
    | some run => { w with lease := (LeaseEvent.die run).exec w.lease }
  | .prune => { w with lease := LeaseEvent.prune.exec w.lease }
  | .tick ms => { w with lease := (LeaseEvent.tick ms).exec w.lease }

def run (policy : BackoffPolicy) (w : RetryWorld) (events : List RetryEvent) : RetryWorld :=
  events.foldl (step policy) w

end RetryWorld

/-- No engine runs a worker that it is running. -/
def RetryEvent.NotReentrant (w : RetryWorld) : RetryEvent → Prop
  | .runWorker engineId workerId => (LeaseEvent.runWorker engineId workerId).NotReentrant w.lease
  | _ => True

/-- Every run ends within its lease's time to live, and no engine is re-entrant. -/
def Undisturbed (policy : BackoffPolicy) : RetryWorld → List RetryEvent → Prop
  | w, [] => w.lease.Timely
  | w, event :: events =>
    w.lease.Timely ∧ event.NotReentrant w ∧ Undisturbed policy (w.step policy event) events

/-- A scheduler without one-shots, and an empty database. -/
def freshWorld : RetryWorld :=
  ⟨idleWorld, fun _ _ => .working, fun _ => none, fun _ => none, fun _ => 0⟩

/-- What a phase knows of the failures that were counted. -/
def Phase.Agrees (failures : Nat) : Phase → Prop
  | .cancelling => failures = 0
  | .writing attempt => attempt = failures
  | .scheduling attempt => attempt + 1 = failures
  | _ => True

/-- The one-shot is still to follow the counter. -/
def Phase.Pending : Phase → Prop
  | .cancelling => True
  | .scheduling _ => True
  | _ => False

/-- No run dies between its counter and its one-shot. -/
def RetryEvent.Orderly (w : RetryWorld) : RetryEvent → Prop
  | .die engineId workerId => ¬ (w.phase engineId workerId).Pending
  | _ => True

def NeverCutShort (policy : BackoffPolicy) : RetryWorld → List RetryEvent → Prop
  | _, [] => True
  | w, event :: events => event.Orderly w ∧ NeverCutShort policy (w.step policy event) events

section Decidable

instance (w : RetryWorld) : (event : RetryEvent) → Decidable (event.NotReentrant w)
  | .runWorker engineId workerId =>
    inferInstanceAs (Decidable ((LeaseEvent.runWorker engineId workerId).NotReentrant w.lease))
  | .advance .. => isTrue trivial
  | .die .. => isTrue trivial
  | .prune => isTrue trivial
  | .tick _ => isTrue trivial

instance decidableUndisturbed (policy : BackoffPolicy) :
    (w : RetryWorld) → (events : List RetryEvent) → Decidable (Undisturbed policy w events)
  | w, [] => inferInstanceAs (Decidable w.lease.Timely)
  | w, event :: events =>
    have := decidableUndisturbed policy (w.step policy event) events
    inferInstanceAs (Decidable
      (w.lease.Timely ∧ event.NotReentrant w ∧ Undisturbed policy (w.step policy event) events))

instance : (phase : Phase) → Decidable phase.Pending
  | .cancelling => isTrue trivial
  | .scheduling _ => isTrue trivial
  | .working => isFalse id
  | .deleting => isFalse id
  | .reading => isFalse id
  | .writing _ => isFalse id
  | .releasing => isFalse id

instance (w : RetryWorld) : (event : RetryEvent) → Decidable (event.Orderly w)
  | .die engineId workerId => inferInstanceAs (Decidable ¬ (w.phase engineId workerId).Pending)
  | .runWorker .. => isTrue trivial
  | .advance .. => isTrue trivial
  | .prune => isTrue trivial
  | .tick _ => isTrue trivial

instance decidableNeverCutShort (policy : BackoffPolicy) :
    (w : RetryWorld) → (events : List RetryEvent) → Decidable (NeverCutShort policy w events)
  | _, [] => isTrue trivial
  | w, event :: events =>
    have := decidableNeverCutShort policy (w.step policy event) events
    inferInstanceAs (Decidable (event.Orderly w ∧ NeverCutShort policy (w.step policy event) events))

end Decidable

/-- The stored form of a counter. -/
def counterText (failures : Nat) : Option String :=
  if failures = 0 then none else some (String.ofList (Nat.toDigits 10 failures))

structure Counted (w : RetryWorld) : Prop where
  held : Held w.lease
  counter : ∀ workerId, w.cursors ("retry:" ++ workerId) = counterText (w.failures workerId)
  agrees : ∀ run ∈ w.lease.active, ∀ workerId, run.resource = workerResource workerId →
    (w.phase run.owner workerId).Agrees (w.failures workerId)

/-- The one-shot that follows from a counter. -/
def dueDelay (policy : BackoffPolicy) (failures : Nat) : Option ℤ :=
  if failures = 0 then none else some (policy.nominal (failures - 1))

/-- The one-shots follow the counters, but where a run is about to see to it. -/
def Due (policy : BackoffPolicy) (w : RetryWorld) : Prop :=
  ∀ workerId, (∀ run ∈ w.lease.active, run.resource = workerResource workerId →
    ¬ (w.phase run.owner workerId).Pending) →
      w.oneShots workerId = dueDelay policy (w.failures workerId)

section Runs

variable {policy : BackoffPolicy} {w : RetryWorld} {engineId workerId : String} {run : LeasedRun}

theorem workerResource_inj {id id' : String} (h : workerResource id = workerResource id') :
    id = id' := by
  unfold workerResource at h
  exact (String.append_right_inj _).1 h

theorem retryKey_ne {id id' : String} (h : id' ≠ id) : "retry:" ++ id' ≠ "retry:" ++ id :=
  fun heq => h ((String.append_right_inj _).1 heq)

theorem mem_activeRun {lease : LeaseWorld} (h : activeRun lease engineId workerId = some run) :
    run ∈ lease.active ∧ run.resource = workerResource workerId ∧ run.owner = engineId := by
  unfold activeRun at h
  have hfound := List.find?_some h
  exact ⟨List.mem_of_find?_eq_some h, of_decide_eq_true hfound⟩

theorem retryAttempt_of_counter {cursors : String → Option String} {failures : Nat}
    (h : cursors ("retry:" ++ workerId) = counterText failures) (hsmall : failures ≤ 2 ^ 53) :
    retryAttempt cursors workerId = failures := by
  unfold retryAttempt
  rw [h]
  unfold counterText
  split
  · next heq =>
    split at heq
    · next hzero => exact hzero.symm
    · cases heq
  · next raw heq =>
    split at heq
    · cases heq
    · obtain rfl := Option.some.inj heq
      simp only [String.toList_ofList, text.number_toDigits hsmall, Rat.den_natCast, true_and,
        Nat.cast_nonneg, if_true, Rat.num_natCast, Int.toNat_natCast]

namespace RetryWorld

theorem phase_setPhase_self (phase : Phase) :
    (w.setPhase engineId workerId phase).phase engineId workerId = phase := by
  simp only [setPhase, Function.update_self]

theorem phase_setPhase_of_ne {id : String} (h : id ≠ workerId) (owner : String) (phase : Phase) :
    (w.setPhase engineId workerId phase).phase owner id = w.phase owner id := by
  by_cases howner : owner = engineId
  · subst howner
    simp only [setPhase, Function.update_self, Function.update_of_ne h]
  · simp only [setPhase, Function.update_of_ne howner]

/-- What a run does is about its own worker, and no run becomes active by it. -/
theorem advance_frame (policy : BackoffPolicy) (succeeds : Bool) (random : ℚ) :
    (∀ other ∈ (w.advance policy engineId workerId succeeds random run).lease.active,
      other ∈ w.lease.active) ∧
    ∀ id, id ≠ workerId →
      (∀ owner, (w.advance policy engineId workerId succeeds random run).phase owner id =
        w.phase owner id) ∧
      (w.advance policy engineId workerId succeeds random run).cursors ("retry:" ++ id) =
        w.cursors ("retry:" ++ id) ∧
      (w.advance policy engineId workerId succeeds random run).oneShots id = w.oneShots id ∧
      (w.advance policy engineId workerId succeeds random run).failures id = w.failures id := by
  unfold advance
  cases w.phase engineId workerId with
  | releasing =>
    refine ⟨fun other hother => ?_, fun id _ => ⟨fun _ => rfl, rfl, rfl, rfl⟩⟩
    simp only [LeaseEvent.exec] at hother
    split at hother
    · exact List.mem_of_mem_erase hother
    · exact hother
  | _ =>
    refine ⟨fun other hother => hother, fun id hid => ⟨fun owner => ?_, ?_, ?_, ?_⟩⟩
    · exact phase_setPhase_of_ne hid owner _
    all_goals first
      | rfl
      | exact Function.update_of_ne (retryKey_ne hid) _ _
      | exact Function.update_of_ne hid _ _

end RetryWorld

open RetryWorld

/-- What a run does to its own worker, whose only run it is. -/
theorem Counted.advance_self (h : Counted w) (htimely : w.lease.Timely)
    (hrun : activeRun w.lease engineId workerId = some run)
    (hsmall : w.failures workerId < 2 ^ 53) (succeeds : Bool) (random : ℚ) :
    Held (w.advance policy engineId workerId succeeds random run).lease ∧
      (w.advance policy engineId workerId succeeds random run).cursors ("retry:" ++ workerId) =
        counterText ((w.advance policy engineId workerId succeeds random run).failures workerId) ∧
      ((w.advance policy engineId workerId succeeds random run).phase engineId workerId).Agrees
        ((w.advance policy engineId workerId succeeds random run).failures workerId) := by
  obtain ⟨hactive, hresource, howner⟩ := mem_activeRun hrun
  have hagrees := h.agrees run hactive workerId hresource
  have hcounter := h.counter workerId
  rw [howner] at hagrees
  unfold RetryWorld.advance
  cases hphase : w.phase engineId workerId with
  | working =>
    dsimp only
    rw [phase_setPhase_self]
    refine ⟨h.held, hcounter, ?_⟩
    cases succeeds <;> exact trivial
  | deleting =>
    dsimp only
    rw [phase_setPhase_self]
    refine ⟨h.held, ?_, Function.update_self ..⟩
    simp only [setPhase, Function.update_self]
    rfl
  | cancelling =>
    dsimp only
    rw [phase_setPhase_self]
    exact ⟨h.held, hcounter, trivial⟩
  | reading =>
    dsimp only
    rw [phase_setPhase_self]
    exact ⟨h.held, hcounter, retryAttempt_of_counter hcounter hsmall.le⟩
  | writing attempt =>
    rw [hphase] at hagrees
    have hattempt : attempt = w.failures workerId := hagrees
    subst hattempt
    dsimp only
    rw [phase_setPhase_self]
    have hfailures : Function.update w.failures workerId (w.failures workerId + 1) workerId =
        w.failures workerId + 1 := Function.update_self ..
    refine ⟨h.held, ?_, hfailures.symm⟩
    simp only [setPhase, Function.update_self]
    rfl
  | scheduling attempt =>
    dsimp only
    rw [phase_setPhase_self]
    exact ⟨h.held, hcounter, trivial⟩
  | releasing =>
    have hfinish : (LeaseEvent.finish run).NotReentrant w.lease := trivial
    refine ⟨h.held.exec htimely hfinish, hcounter, ?_⟩
    dsimp only
    rw [hphase]
    trivial

theorem Counted.advance (h : Counted w) (htimely : w.lease.Timely)
    (hrun : activeRun w.lease engineId workerId = some run)
    (hsmall : w.failures workerId < 2 ^ 53) (succeeds : Bool) (random : ℚ) :
    Counted (w.advance policy engineId workerId succeeds random run) := by
  obtain ⟨hactive, hresource, howner⟩ := mem_activeRun hrun
  obtain ⟨hsubset, hframe⟩ := @advance_frame w engineId workerId run policy succeeds random
  obtain ⟨hheld, hcounter, hagrees⟩ := h.advance_self htimely hrun hsmall succeeds random
  refine ⟨hheld, fun id => ?_, fun other hother id hsame => ?_⟩
  · by_cases hid : id = workerId
    · subst hid
      exact hcounter
    · obtain ⟨-, hcursor, -, hfailures⟩ := hframe id hid
      rw [hcursor, hfailures]
      exact h.counter id
  · by_cases hid : id = workerId
    · subst hid
      have hown := h.held.exclusive.unique hactive (hsubset other hother)
        (hsame.trans hresource.symm)
      rw [hown, howner]
      exact hagrees
    · obtain ⟨hphase, -, -, hfailures⟩ := hframe id hid
      rw [hphase, hfailures]
      exact h.agrees other (hsubset other hother) id hsame

/-- Fewer active runs, and nothing else that matters to the counters. -/
theorem Counted.congr {lease : LeaseWorld} (h : Counted w) (hheld : Held lease)
    (hactive : ∀ run ∈ lease.active, run ∈ w.lease.active) : Counted { w with lease := lease } :=
  ⟨hheld, h.counter, fun run hrun => h.agrees run (hactive run hrun)⟩

/-- A run that begins is the only one of its worker. -/
theorem exec_runWorker_cases (lease : LeaseWorld) (engineId workerId : String) :
    ((LeaseEvent.runWorker engineId workerId).exec lease).active = lease.active ∨
      ∃ run, ((LeaseEvent.runWorker engineId workerId).exec lease).active = run :: lease.active ∧
        run.resource = workerResource workerId ∧ run.owner = engineId := by
  unfold LeaseEvent.runWorker
  simp only [LeaseEvent.exec]
  split
  · exact .inl rfl
  · exact .inr ⟨_, rfl, rfl, rfl⟩

theorem step_runWorker_cases (policy : BackoffPolicy) (w : RetryWorld)
    (engineId workerId : String) :
    (w.step policy (.runWorker engineId workerId) =
        { w with lease := (LeaseEvent.runWorker engineId workerId).exec w.lease } ∧
      ((LeaseEvent.runWorker engineId workerId).exec w.lease).active = w.lease.active) ∨
    ∃ run, w.step policy (.runWorker engineId workerId) =
        RetryWorld.setPhase engineId workerId .working
          { w with lease := (LeaseEvent.runWorker engineId workerId).exec w.lease } ∧
      ((LeaseEvent.runWorker engineId workerId).exec w.lease).active = run :: w.lease.active ∧
        run.resource = workerResource workerId ∧ run.owner = engineId := by
  simp only [RetryWorld.step]
  obtain hsame | ⟨run, hmore, hresource, howner⟩ := exec_runWorker_cases w.lease engineId workerId
  · rw [if_pos hsame]
    exact .inl ⟨rfl, hsame⟩
  · have hne : ((LeaseEvent.runWorker engineId workerId).exec w.lease).active ≠ w.lease.active := by
      rw [hmore]
      exact List.cons_ne_self _ _
    rw [if_neg hne]
    exact .inr ⟨run, rfl, hmore, hresource, howner⟩

theorem Counted.step {event : RetryEvent} (h : Counted w) (htimely : w.lease.Timely)
    (hfree : event.NotReentrant w) (hsmall : ∀ workerId, w.failures workerId < 2 ^ 53) :
    Counted (w.step policy event) := by
  cases event with
  | runWorker engineId workerId =>
    have hfree' : (LeaseEvent.runWorker engineId workerId).NotReentrant w.lease := hfree
    have hheld := h.held.exec htimely hfree'
    obtain ⟨heq, hsame⟩ | ⟨run, heq, hmore, hresource, howner⟩ :=
      step_runWorker_cases policy w engineId workerId
    · rw [heq]
      exact h.congr hheld fun run hrun => hsame ▸ hrun
    · rw [heq]
      refine ⟨hheld, h.counter, fun other hother id hid => ?_⟩
      have hother' : other ∈ ((LeaseEvent.runWorker engineId workerId).exec w.lease).active :=
        hother
      have hrun : run ∈ ((LeaseEvent.runWorker engineId workerId).exec w.lease).active :=
        hmore ▸ List.mem_cons_self
      by_cases hown : id = workerId
      · subst hown
        have hone := hheld.exclusive.unique hrun hother' (hid.trans hresource.symm)
        rw [hone, howner, phase_setPhase_self]
        trivial
      · have hold : other ∈ w.lease.active := by
          rw [hmore] at hother'
          obtain rfl | hold := List.mem_cons.1 hother'
          · exact absurd (workerResource_inj (hid.symm.trans hresource)) hown
          · exact hold
        rw [phase_setPhase_of_ne hown]
        exact h.agrees other hold id hid
  | advance engineId workerId succeeds random =>
    simp only [RetryWorld.step]
    split
    · exact h
    · next run hrun => exact h.advance htimely hrun (hsmall workerId) succeeds random
  | die engineId workerId =>
    simp only [RetryWorld.step]
    split
    · exact h
    · next run hrun =>
      have hdie : (LeaseEvent.die run).NotReentrant w.lease := trivial
      exact h.congr (h.held.exec htimely hdie) fun other hother => List.mem_of_mem_erase hother
  | prune =>
    have hprune : LeaseEvent.prune.NotReentrant w.lease := trivial
    exact h.congr (h.held.exec htimely hprune) fun other hother => hother
  | tick ms =>
    have htick : (LeaseEvent.tick ms).NotReentrant w.lease := trivial
    exact h.congr (h.held.exec htimely htick) fun other hother => hother

/-! ### One-shots -/

theorem dueDelay_succ (policy : BackoffPolicy) (attempt : Nat) :
    dueDelay policy (attempt + 1) = some (policy.nominal attempt) :=
  if_neg (Nat.succ_ne_zero _)

theorem advance_active {other : LeasedRun} (h : other ∈ w.lease.active) (hother : other ≠ run)
    (policy : BackoffPolicy) (succeeds : Bool) (random : ℚ) :
    other ∈ (w.advance policy engineId workerId succeeds random run).lease.active := by
  unfold RetryWorld.advance
  cases w.phase engineId workerId with
  | releasing =>
    simp only [LeaseEvent.exec]
    split
    · exact (List.mem_erase_of_ne hother).2 h
    · exact h
  | _ => exact h

/-- A run that goes on keeps the one-shots in step with the counters. -/
theorem Due.advance (h : Due policy w) (hcounted : Counted w) (hjitter : policy.jitter = 0)
    (hcap : policy.capMs ≤ 2 ^ 53) (hrun : activeRun w.lease engineId workerId = some run)
    (succeeds : Bool) (random : ℚ) :
    Due policy (w.advance policy engineId workerId succeeds random run) := by
  obtain ⟨hactive, hresource, howner⟩ := mem_activeRun hrun
  have hagrees := hcounted.agrees run hactive workerId hresource
  rw [howner] at hagrees
  obtain ⟨hsubset, hframe⟩ := @advance_frame w engineId workerId run policy succeeds random
  -- The worker's only run was not about to change its one-shot.
  have hquiet : ¬ (w.phase engineId workerId).Pending →
      w.oneShots workerId = dueDelay policy (w.failures workerId) := by
    intro hphase
    refine h workerId fun other hother hsame => ?_
    rw [hcounted.held.exclusive.unique hactive hother (hsame.trans hresource.symm), howner]
    exact hphase
  intro id hsettled
  by_cases hid : id = workerId
  · subst hid
    unfold RetryWorld.advance at hsettled ⊢
    cases hphase : w.phase engineId id with
    | working =>
      rw [hphase] at hquiet
      exact hquiet fun hpending => hpending
    | deleting =>
      rw [hphase] at hsettled
      have hpending := hsettled run hactive hresource
      rw [howner, phase_setPhase_self] at hpending
      exact absurd trivial hpending
    | cancelling =>
      rw [hphase] at hagrees
      have hzero : w.failures id = 0 := hagrees
      have hnone : Function.update w.oneShots id none id = dueDelay policy (w.failures id) := by
        rw [Function.update_self, hzero]
        rfl
      exact hnone
    | reading =>
      rw [hphase] at hquiet
      exact hquiet fun hpending => hpending
    | writing attempt =>
      rw [hphase] at hsettled
      have hpending := hsettled run hactive hresource
      rw [howner, phase_setPhase_self] at hpending
      exact absurd trivial hpending
    | scheduling attempt =>
      rw [hphase] at hagrees
      have hfailures : attempt + 1 = w.failures id := hagrees
      have hdelay : Function.update w.oneShots id (some (policy.delay random attempt)) id =
          dueDelay policy (w.failures id) := by
        rw [Function.update_self, ← hfailures, dueDelay_succ]
        exact congrArg some (BackoffPolicy.delay_of_jitter hjitter hcap random attempt)
      exact hdelay
    | releasing =>
      rw [hphase] at hquiet
      exact hquiet fun hpending => hpending
  · obtain ⟨hphase, -, honeShot, hfailures⟩ := hframe id hid
    rw [honeShot, hfailures]
    refine h id fun other hother hsame => ?_
    have hne : other ≠ run := by
      rintro rfl
      exact hid (workerResource_inj (hsame.symm.trans hresource))
    have hpending := hsettled other (advance_active hother hne policy succeeds random) hsame
    rwa [hphase] at hpending

/-- Worlds that differ in their leases alone, where the runs that are gone leave nothing pending. -/
theorem Due.congr {lease : LeaseWorld} (h : Due policy w)
    (hgone : ∀ run ∈ w.lease.active, run ∈ lease.active ∨
      ∀ workerId, run.resource = workerResource workerId → ¬ (w.phase run.owner workerId).Pending) :
    Due policy { w with lease := lease } := by
  intro id hsettled
  refine h id fun run hrun hresource => ?_
  obtain hactive | hquiet := hgone run hrun
  · exact hsettled run hactive hresource
  · exact hquiet id hresource

theorem Due.step {event : RetryEvent} (h : Due policy w) (hcounted : Counted w)
    (htimely : w.lease.Timely) (hfree : event.NotReentrant w) (horderly : event.Orderly w)
    (hjitter : policy.jitter = 0) (hcap : policy.capMs ≤ 2 ^ 53) :
    Due policy (w.step policy event) := by
  cases event with
  | runWorker engineId workerId =>
    have hfree' : (LeaseEvent.runWorker engineId workerId).NotReentrant w.lease := hfree
    have hheld := hcounted.held.exec htimely hfree'
    obtain ⟨heq, hsame⟩ | ⟨run, heq, hmore, hresource, howner⟩ :=
      step_runWorker_cases policy w engineId workerId
    · rw [heq]
      exact h.congr fun run hrun => .inl (hsame ▸ hrun)
    · rw [heq]
      have hrun : run ∈ ((LeaseEvent.runWorker engineId workerId).exec w.lease).active :=
        hmore ▸ List.mem_cons_self
      intro id hsettled
      refine h id fun other hother hsame => ?_
      have hstill : other ∈ ((LeaseEvent.runWorker engineId workerId).exec w.lease).active :=
        hmore ▸ List.mem_cons_of_mem _ hother
      have hown : id ≠ workerId := by
        rintro rfl
        have hnodup : (run :: w.lease.active).Nodup := hmore ▸ List.Nodup.of_map _ hheld.exclusive
        have hone := hheld.exclusive.unique hrun hstill (hsame.trans hresource.symm)
        exact (List.nodup_cons.1 hnodup).1 (hone ▸ hother)
      have hpending := hsettled other hstill hsame
      rwa [phase_setPhase_of_ne hown] at hpending
  | advance engineId workerId succeeds random =>
    simp only [RetryWorld.step]
    split
    · exact h
    · next run hrun => exact h.advance hcounted hjitter hcap hrun succeeds random
  | die engineId workerId =>
    simp only [RetryWorld.step]
    split
    · exact h
    · next run hrun =>
      obtain ⟨-, hresource, howner⟩ := mem_activeRun hrun
      refine h.congr fun other hother => ?_
      by_cases hone : other = run
      · subst hone
        refine .inr fun id hid => ?_
        obtain rfl := workerResource_inj (hid.symm.trans hresource)
        rw [howner]
        exact horderly
      · exact .inl ((List.mem_erase_of_ne hone).2 hother)
  | prune => exact h.congr fun run hrun => .inl hrun
  | tick ms => exact h.congr fun run hrun => .inl hrun

/-! ### Whole runs -/

/-- An event counts at most one failure. -/
theorem step_failures_le (policy : BackoffPolicy) (w : RetryWorld) (event : RetryEvent)
    (id : String) : (w.step policy event).failures id ≤ w.failures id + 1 := by
  cases event with
  | runWorker engineId workerId =>
    obtain ⟨heq, -⟩ | ⟨run, heq, -⟩ := step_runWorker_cases policy w engineId workerId
    · rw [heq]
      exact Nat.le_succ _
    · rw [heq]
      exact Nat.le_succ _
  | advance engineId workerId succeeds random =>
    simp only [RetryWorld.step]
    split
    · exact Nat.le_succ _
    · next run hrun =>
      by_cases hid : id = workerId
      · subst hid
        unfold RetryWorld.advance
        cases w.phase engineId id with
        | deleting => simp only [setPhase, Function.update_self, Nat.zero_le]
        | writing attempt => simp only [setPhase, Function.update_self, Nat.le_refl]
        | _ => exact Nat.le_succ _
      · obtain ⟨-, hframe⟩ := @advance_frame w engineId workerId run policy succeeds random
        rw [(hframe id hid).2.2.2]
        exact Nat.le_succ _
  | die engineId workerId =>
    simp only [RetryWorld.step]
    split <;> exact Nat.le_succ _
  | prune => exact Nat.le_succ _
  | tick ms => exact Nat.le_succ _

theorem Undisturbed.now {events : List RetryEvent} (h : Undisturbed policy w events) :
    w.lease.Timely := by
  cases events with
  | nil => exact h
  | cons event events => exact h.1

/-- Along a run the counters stay what was counted, and the one-shots follow them. -/
theorem Counted.events {events : List RetryEvent} {bound : Nat} (h : Counted w)
    (hundisturbed : Undisturbed policy w events) (hfailures : ∀ id, w.failures id ≤ bound)
    (hfew : bound + events.length ≤ 2 ^ 53) :
    Counted (w.run policy events) ∧
      (∀ id, (w.run policy events).failures id ≤ bound + events.length) ∧
      (policy.jitter = 0 → policy.capMs ≤ 2 ^ 53 → NeverCutShort policy w events → Due policy w →
        Due policy (w.run policy events)) := by
  induction events generalizing w bound with
  | nil => exact ⟨h, hfailures, fun _ _ _ hdue => hdue⟩
  | cons event events ih =>
    obtain ⟨htimely, hfree, hrest⟩ := hundisturbed
    rw [List.length_cons] at hfew ⊢
    have hsmall : ∀ id, w.failures id < 2 ^ 53 := by
      intro id
      have hle := hfailures id
      omega
    have hstep : Counted (w.step policy event) := h.step htimely hfree hsmall
    have hmore : ∀ id, (w.step policy event).failures id ≤ bound + 1 := fun id =>
      (step_failures_le policy w event id).trans (Nat.succ_le_succ (hfailures id))
    obtain ⟨hcounted, hbound, hdue⟩ := ih hstep hrest hmore (by omega)
    refine ⟨hcounted, fun id => ?_, fun hjitter hcap horderly hbefore => ?_⟩
    · have hle := hbound id
      simp only [RetryWorld.run, List.foldl_cons] at hle ⊢
      omega
    · exact hdue hjitter hcap horderly.2
        (hbefore.step h htimely hfree horderly.1 hjitter hcap)

theorem freshWorld_counted : Counted freshWorld :=
  ⟨⟨fun _ hrun => absurd hrun List.not_mem_nil, List.nodup_nil⟩, fun _ => rfl,
    fun _ hrun => absurd hrun List.not_mem_nil⟩

/-- Whatever the engines do, and whichever processes die: the counter that a retry reads is the
    number of failures since the worker last succeeded. Where no process dies between the two writes
    of a run's end, a worker that is idle has the one-shot of its last failure, and none after a
    success. -/
theorem retries_counted {events : List RetryEvent} (hfew : events.length ≤ 2 ^ 53)
    (hundisturbed : Undisturbed policy freshWorld events) (workerId : String) :
    retryAttempt (freshWorld.run policy events).cursors workerId =
        (freshWorld.run policy events).failures workerId ∧
      (policy.jitter = 0 → policy.capMs ≤ 2 ^ 53 → NeverCutShort policy freshWorld events →
        (∀ run ∈ (freshWorld.run policy events).lease.active,
          run.resource ≠ workerResource workerId) →
        (freshWorld.run policy events).oneShots workerId =
          dueDelay policy ((freshWorld.run policy events).failures workerId)) := by
  have hzero : ∀ id, freshWorld.failures id ≤ 0 := fun _ => Nat.le_refl _
  obtain ⟨hcounted, hbound, hdue⟩ :=
    freshWorld_counted.events hundisturbed hzero (by omega)
  have hle := hbound workerId
  refine ⟨retryAttempt_of_counter (hcounted.counter workerId) (by omega),
    fun hjitter hcap horderly hidle => ?_⟩
  have hfresh : Due policy freshWorld := fun _ _ => rfl
  exact hdue hjitter hcap horderly hfresh workerId fun run hrun hresource =>
    absurd hresource (hidle run hrun)

/-- A worker that fails in one engine and then in another, after a process died with it. -/
def failingTwice : List RetryEvent :=
  [.runWorker "app" "response-sender"] ++
    List.replicate 4 (.advance "app" "response-sender" false 0) ++
    [.advance "app" "response-sender" false 0, .runWorker "background" "response-sender",
      .die "background" "response-sender", .runWorker "background" "response-sender"] ++
    List.replicate 5 (.advance "background" "response-sender" false 0)

def appPolicy : BackoffPolicy := ⟨30000, 1800000, 0⟩

theorem failingTwice_counted :
    retryAttempt (freshWorld.run appPolicy failingTwice).cursors "response-sender" = 2 ∧
      (freshWorld.run appPolicy failingTwice).oneShots "response-sender" = some 60000 := by
  obtain ⟨hattempt, honeShot⟩ :=
    @retries_counted appPolicy failingTwice (by decide) (by decide) "response-sender"
  exact ⟨hattempt, honeShot rfl (by decide) (by decide) (by decide)⟩

end Runs

end cemp.sync
