import Mathlib.Data.List.Basic
import Mathlib.Data.Rat.Defs
import Mathlib.Tactic.Common

/-! The scheduler of the sweeps while the app is in the foreground, with the timers and the sweeps
    that run beside it. -/

namespace cemp.app

variable {ε : Type}

def CHAT_CADENCE_MS : ℚ := 10000
def IDLE_CADENCE_MS : ℚ := 30000

/-- The fields of the scheduler. Timers and sweeps are known by their numbers. -/
structure ForegroundSync where
  handle : Option Nat
  cadenceMs : ℚ
  started : Bool
  paused : Bool
  inFlight : Bool
  current : Option Nat

/-- The scheduler among the timers that are pending and the calls of `sync` that have not settled.
    Timers and sweeps are numbered as they come. -/
structure SyncWorld (ε : Type) where
  scheduler : ForegroundSync
  timers : List (Nat × ℚ)
  timersSet : Nat
  sweeps : List Nat
  sweepsBegun : Nat
  reported : List ε

namespace SyncWorld

/-- A scheduler that was just made. -/
def initial : SyncWorld ε := ⟨⟨none, IDLE_CADENCE_MS, false, false, false, none⟩, [], 0, [], 0, []⟩

def running (world : SyncWorld ε) : Bool := world.scheduler.started && !world.scheduler.paused

def cancelTimer (world : SyncWorld ε) : SyncWorld ε :=
  match world.scheduler.handle with
  | none => world
  | some handle =>
    { world with
      scheduler := { world.scheduler with handle := none }
      timers := world.timers.filter fun timer => timer.1 ≠ handle }

def rearm (world : SyncWorld ε) : SyncWorld ε :=
  let world := world.cancelTimer
  { world with
    scheduler := { world.scheduler with handle := some world.timersSet }
    timers := world.timers ++ [(world.timersSet, world.scheduler.cadenceMs)]
    timersSet := world.timersSet + 1 }

/-- The `finally` of a sweep. -/
def finish (world : SyncWorld ε) : SyncWorld ε :=
  let world := { world with scheduler := { world.scheduler with inFlight := false } }
  if world.scheduler.started && !world.scheduler.paused then world.rearm else world

def report (world : SyncWorld ε) (error : ε) : SyncWorld ε :=
  { world with reported := world.reported ++ [error] }

/-- `#run`, up to where it waits. The call of `sync` may throw at once. -/
def run (world : SyncWorld ε) (thrown : Option ε) : SyncWorld ε :=
  if !world.scheduler.started || world.scheduler.paused || world.scheduler.inFlight then world
  else
    let begun := world.sweepsBegun
    let world := { world with
      scheduler := { world.scheduler with inFlight := true, current := some begun }
      sweepsBegun := begun + 1 }
    match thrown with
    | none => { world with sweeps := begun :: world.sweeps }
    | some error => (world.report error).finish

def setCadence (world : SyncWorld ε) (cadenceMs : ℚ) : SyncWorld ε :=
  let tightening := decide (cadenceMs < world.scheduler.cadenceMs)
  let world := { world with scheduler := { world.scheduler with cadenceMs := cadenceMs } }
  if tightening && world.scheduler.started && !world.scheduler.paused && !world.scheduler.inFlight
  then world.rearm
  else world

def start (world : SyncWorld ε) (cadenceMs : ℚ) (thrown : Option ε) : SyncWorld ε :=
  if world.scheduler.started then world.setCadence cadenceMs
  else
    let scheduler :=
      { world.scheduler with started := true, paused := false, cadenceMs := cadenceMs }
    { world with scheduler := scheduler }.run thrown

/-- `runNow`, and the sweep it waits for. -/
def runNow (world : SyncWorld ε) (thrown : Option ε) : SyncWorld ε × Option Nat :=
  if world.scheduler.inFlight then (world, world.scheduler.current)
  else
    let after := world.run thrown
    (after, if world.running then after.scheduler.current else none)

def pause (world : SyncWorld ε) : SyncWorld ε :=
  if !world.scheduler.started || world.scheduler.paused then world
  else { world with scheduler := { world.scheduler with paused := true } }.cancelTimer

def resume (world : SyncWorld ε) (thrown : Option ε) : SyncWorld ε :=
  if !world.scheduler.started || !world.scheduler.paused then world
  else
    let world := { world with scheduler := { world.scheduler with paused := false } }
    if !world.scheduler.inFlight then world.run thrown else world

def stop (world : SyncWorld ε) : SyncWorld ε :=
  { world with scheduler := { world.scheduler with started := false, paused := false } }.cancelTimer

/-- The callback of a timer, which is no longer pending. -/
def fire (world : SyncWorld ε) (handle : Nat) (thrown : Option ε) : SyncWorld ε :=
  let world := { world with timers := world.timers.filter fun timer => timer.1 ≠ handle }
  { world with scheduler := { world.scheduler with handle := none } }.run thrown

/-- What a sweep does once its call of `sync` has settled. -/
def complete (world : SyncWorld ε) (sweep : Nat) (failure : Option ε) : SyncWorld ε :=
  let world := { world with sweeps := world.sweeps.erase sweep }
  match failure with
  | none => world.finish
  | some error => (world.report error).finish

/-- What can happen to a scheduler, in any order. -/
inductive Event (ε : Type) where
  | start (cadenceMs : ℚ) (thrown : Option ε)
  | setCadence (cadenceMs : ℚ)
  | runNow (thrown : Option ε)
  | pause
  | resume (thrown : Option ε)
  | stop
  | fire (handle : Nat) (thrown : Option ε)
  | complete (sweep : Nat) (failure : Option ε)

/-- Only a pending timer fires, and only a sweep in flight completes. -/
def Enabled (world : SyncWorld ε) : Event ε → Prop
  | .fire handle _ => handle ∈ world.timers.map Prod.fst
  | .complete sweep _ => sweep ∈ world.sweeps
  | _ => True

instance (world : SyncWorld ε) : (event : Event ε) → Decidable (world.Enabled event)
  | .fire handle _ => inferInstanceAs (Decidable (handle ∈ world.timers.map Prod.fst))
  | .complete sweep _ => inferInstanceAs (Decidable (sweep ∈ world.sweeps))
  | .start .. | .setCadence _ | .runNow _ | .pause | .resume _ | .stop => isTrue trivial

def step (world : SyncWorld ε) : Event ε → SyncWorld ε
  | .start cadenceMs thrown => world.start cadenceMs thrown
  | .setCadence cadenceMs => world.setCadence cadenceMs
  | .runNow thrown => (world.runNow thrown).1
  | .pause => world.pause
  | .resume thrown => world.resume thrown
  | .stop => world.stop
  | .fire handle thrown => world.fire handle thrown
  | .complete sweep failure => world.complete sweep failure

/-- The world some events lead to, each enabled where it happens. -/
inductive Reaches : SyncWorld ε → List (Event ε) → SyncWorld ε → Prop where
  | nil (world) : Reaches world [] world
  | cons {world event events after} (henabled : world.Enabled event)
    (hrest : Reaches (world.step event) events after) : Reaches world (event :: events) after

/-- The timer of the handle is the one that is pending, and the flag says whether a sweep is in
    flight. -/
structure Linked (world : SyncWorld ε) : Prop where
  timers : world.timers.map Prod.fst = world.scheduler.handle.toList
  sweeps : world.sweeps = if world.scheduler.inFlight then world.scheduler.current.toList else []
  current : world.scheduler.inFlight = true → world.scheduler.current.isSome = true

/-- The invariant: a scheduler that runs has a sweep in flight or a timer, and one that does not
    has no timer. -/
structure Sound (world : SyncWorld ε) : Prop extends Linked world where
  stopped : world.running = false → world.scheduler.handle = none
  alive : world.running = true → world.scheduler.inFlight = false →
    world.scheduler.handle.isSome = true

variable {world : SyncWorld ε}

theorem sound_initial : Sound (initial : SyncWorld ε) where
  timers := rfl
  sweeps := rfl
  current hflight := nomatch hflight
  stopped _ := rfl
  alive hrunning := nomatch hrunning

theorem filter_timers {timers : List (Nat × ℚ)} {handle : Nat}
    (hone : timers.map Prod.fst = [handle]) :
    (timers.filter fun timer => timer.1 ≠ handle) = [] := by
  rw [List.filter_eq_nil_iff]
  intro timer hmem
  have heq := List.mem_singleton.1 (hone ▸ List.mem_map_of_mem hmem)
  simp [heq]

theorem Linked.cancelTimer (h : Linked world) :
    Linked world.cancelTimer ∧ world.cancelTimer.scheduler.handle = none ∧
      world.cancelTimer.timers = [] := by
  unfold SyncWorld.cancelTimer
  cases hhandle : world.scheduler.handle with
  | none =>
    refine ⟨h, hhandle, ?_⟩
    have htimers := h.timers
    rw [hhandle] at htimers
    exact List.map_eq_nil_iff.1 htimers
  | some handle =>
    have hnone : (world.timers.filter fun timer => timer.1 ≠ handle) = [] :=
      filter_timers (by rw [h.timers, hhandle]; rfl)
    refine ⟨?_, rfl, hnone⟩
    exact { h with timers := congrArg (List.map Prod.fst) hnone }

@[simp] theorem cancelTimer_started : world.cancelTimer.scheduler.started = world.scheduler.started := by
  unfold SyncWorld.cancelTimer
  split <;> rfl

@[simp] theorem cancelTimer_paused : world.cancelTimer.scheduler.paused = world.scheduler.paused := by
  unfold SyncWorld.cancelTimer
  split <;> rfl

@[simp] theorem cancelTimer_inFlight :
    world.cancelTimer.scheduler.inFlight = world.scheduler.inFlight := by
  unfold SyncWorld.cancelTimer
  split <;> rfl

@[simp] theorem cancelTimer_sweepsBegun : world.cancelTimer.sweepsBegun = world.sweepsBegun := by
  unfold SyncWorld.cancelTimer
  split <;> rfl

theorem running_cancelTimer : world.cancelTimer.running = world.running := by
  simp [running]

/-- Where the scheduler runs, arming it again leaves it sound. -/
theorem Linked.rearm (h : Linked world) (hrunning : world.running = true) : Sound world.rearm := by
  obtain ⟨hlinked, -, hnone⟩ := h.cancelTimer
  have htimers : world.cancelTimer.timers ++
      [(world.cancelTimer.timersSet, world.cancelTimer.scheduler.cadenceMs)] =
        [(world.cancelTimer.timersSet, world.cancelTimer.scheduler.cadenceMs)] := by
    rw [hnone, List.nil_append]
  exact { hlinked with
    timers := congrArg (List.map Prod.fst) htimers
    stopped := fun hstopped => by
      have hsame : world.rearm.running = world.running := running_cancelTimer
      rw [hsame, hrunning] at hstopped
      cases hstopped
    alive := fun _ _ => rfl }

/-- The end of a sweep: none is in flight any more, and the next is scheduled. -/
theorem sound_finish (htimers : world.timers.map Prod.fst = world.scheduler.handle.toList)
    (hsweeps : world.sweeps = []) (hstopped : world.running = false → world.scheduler.handle = none) :
    Sound world.finish := by
  have hlinked : Linked { world with scheduler := { world.scheduler with inFlight := false } } :=
    ⟨htimers, hsweeps, fun hflight => nomatch hflight⟩
  unfold SyncWorld.finish
  simp only
  split
  · next hrunning => exact hlinked.rearm hrunning
  · next hnot =>
    have hrunning : world.running = false := (Bool.not_eq_true _).mp hnot
    exact { hlinked with
      stopped := hstopped
      alive := fun hruns => absurd (hrunning.symm.trans hruns) (by decide) }

/-- A run starts a sweep where the scheduler may have one. -/
theorem Linked.run (h : Linked world)
    (hstopped : world.running = false → world.scheduler.handle = none) (thrown : Option ε) :
    Sound (world.run thrown) := by
  unfold SyncWorld.run
  split
  · next hskip =>
    refine { h with stopped := hstopped, alive := fun hrunning hidle => ?_ }
    obtain ⟨hstarted, hpaused⟩ : world.scheduler.started = true ∧ world.scheduler.paused = false := by
      simpa [running] using hrunning
    rw [hstarted, hpaused, hidle] at hskip
    cases hskip
  · next hstart =>
    obtain ⟨hstarted, hpaused, hidle⟩ : world.scheduler.started = true ∧
        world.scheduler.paused = false ∧ world.scheduler.inFlight = false := by
      simpa [and_assoc] using hstart
    have hsweeps : world.sweeps = [] := by
      rw [h.sweeps, hidle]
      rfl
    have hrunning : world.running = true := by simp [running, hstarted, hpaused]
    cases thrown with
    | none =>
      exact {
        timers := h.timers
        sweeps := congrArg (List.cons world.sweepsBegun) hsweeps
        current := fun _ => rfl
        stopped := fun hnot => absurd (hrunning.symm.trans hnot) (by decide)
        alive := fun _ hnot => nomatch hnot }
    | some error =>
      exact sound_finish h.timers hsweeps fun hnot => absurd (hrunning.symm.trans hnot) (by decide)

/-! ### Each call keeps the invariant -/

theorem Sound.setCadence (h : Sound world) (cadenceMs : ℚ) : Sound (world.setCadence cadenceMs) := by
  have hlinked : Sound { world with
      scheduler := { world.scheduler with cadenceMs := cadenceMs } } := { h with }
  unfold SyncWorld.setCadence
  simp only
  split
  · next htighter =>
    refine hlinked.toLinked.rearm ?_
    simp only [Bool.and_eq_true, Bool.not_eq_true'] at htighter
    simp [running, htighter]
  · exact hlinked

theorem Sound.start (h : Sound world) (cadenceMs : ℚ) (thrown : Option ε) :
    Sound (world.start cadenceMs thrown) := by
  unfold SyncWorld.start
  split
  · exact h.setCadence cadenceMs
  · have hlinked : Linked { world with scheduler :=
        { world.scheduler with started := true, paused := false, cadenceMs := cadenceMs } } :=
      { h.toLinked with }
    exact hlinked.run (fun hstopped => nomatch hstopped) thrown

theorem Sound.runNow (h : Sound world) (thrown : Option ε) : Sound (world.runNow thrown).1 := by
  unfold SyncWorld.runNow
  split
  · exact h
  · exact h.toLinked.run h.stopped thrown

/-- A scheduler that has stopped or is paused has cancelled its timer. -/
theorem Linked.halt (h : Linked world) (hstopped : world.running = false) : Sound world.cancelTimer := by
  obtain ⟨hlinked, hnone, -⟩ := h.cancelTimer
  exact { hlinked with
    stopped := fun _ => hnone
    alive := fun hrunning => by
      rw [running_cancelTimer, hstopped] at hrunning
      cases hrunning }

theorem Sound.pause (h : Sound world) : Sound world.pause := by
  unfold SyncWorld.pause
  split
  · exact h
  · refine Linked.halt { h.toLinked with } ?_
    simp [running]

theorem Sound.stop (h : Sound world) : Sound world.stop :=
  Linked.halt { h.toLinked with } rfl

theorem Sound.resume (h : Sound world) (thrown : Option ε) : Sound (world.resume thrown) := by
  unfold SyncWorld.resume
  split
  · exact h
  · next hpaused =>
    obtain ⟨hstarted, hpaused⟩ : world.scheduler.started = true ∧ world.scheduler.paused = true := by
      simpa using hpaused
    have hrunning : SyncWorld.running { world with
        scheduler := { world.scheduler with paused := false } } = true := by
      simp [running, hstarted]
    have hlinked : Linked { world with
        scheduler := { world.scheduler with paused := false } } := { h.toLinked with }
    simp only
    split
    · exact hlinked.run (fun hnot => absurd (hrunning.symm.trans hnot) (by decide)) thrown
    · next hflight =>
      exact { hlinked with
        stopped := fun hnot => absurd (hrunning.symm.trans hnot) (by decide)
        alive := fun _ hidle => absurd hidle (by simpa using hflight) }

theorem Sound.fire (h : Sound world) {handle : Nat} (hpending : handle ∈ world.timers.map Prod.fst)
    (thrown : Option ε) : Sound (world.fire handle thrown) := by
  have hhandle : world.scheduler.handle = some handle := by
    rw [h.timers, Option.mem_toList] at hpending
    exact hpending
  have hnone : (world.timers.filter fun timer => timer.1 ≠ handle) = [] :=
    filter_timers (by rw [h.timers, hhandle]; rfl)
  have hlinked : Linked { world with
      timers := world.timers.filter fun timer => timer.1 ≠ handle
      scheduler := { world.scheduler with handle := none } } :=
    { h.toLinked with timers := congrArg (List.map Prod.fst) hnone }
  exact hlinked.run (fun _ => rfl) thrown

theorem Sound.complete (h : Sound world) {sweep : Nat} (hflight : sweep ∈ world.sweeps)
    (failure : Option ε) : Sound (world.complete sweep failure) := by
  have hone : world.sweeps = [sweep] := by
    have hsweeps := h.sweeps
    split at hsweeps
    · rw [hsweeps, Option.mem_toList] at hflight
      rw [hsweeps, hflight]
      rfl
    · rw [hsweeps] at hflight
      cases hflight
  have hnone : world.sweeps.erase sweep = [] := by
    rw [hone, List.erase_cons_head]
  cases failure with
  | none => exact sound_finish h.timers hnone h.stopped
  | some error => exact sound_finish h.timers hnone h.stopped

theorem Sound.step (h : Sound world) {event : Event ε} (henabled : world.Enabled event) :
    Sound (world.step event) := by
  cases event with
  | start cadenceMs thrown => exact h.start cadenceMs thrown
  | setCadence cadenceMs => exact h.setCadence cadenceMs
  | runNow thrown => exact h.runNow thrown
  | pause => exact h.pause
  | resume thrown => exact h.resume thrown
  | stop => exact h.stop
  | fire handle thrown => exact h.fire henabled thrown
  | complete sweep failure => exact h.complete henabled failure

theorem Reaches.sound {events : List (Event ε)} {after : SyncWorld ε}
    (hrun : Reaches world events after) (h : Sound world) : Sound after := by
  induction hrun with
  | nil => exact h
  | cons henabled _ ih => exact ih (h.step henabled)

/-! ### A scheduler that does not run -/

/-- The calls after which a scheduler that did not run may run. -/
def Event.starts : Event ε → Bool
  | .start .. => true
  | .resume .. => true
  | _ => false

/-- It neither runs nor sweeps, and has begun so many sweeps. -/
structure Quiet (begun : Nat) (world : SyncWorld ε) : Prop where
  sound : Sound world
  running : world.running = false
  idle : world.sweeps = []
  begun : world.sweepsBegun = begun

variable {begun : Nat}

theorem Quiet.timers (h : Quiet begun world) : world.timers = [] := by
  have htimers := h.sound.timers
  rw [h.sound.stopped h.running] at htimers
  exact List.map_eq_nil_iff.1 htimers

theorem Quiet.cancelTimer (h : Quiet begun world) : world.cancelTimer = world := by
  unfold SyncWorld.cancelTimer
  rw [h.sound.stopped h.running]

theorem Quiet.skips (h : Quiet begun world) :
    (!world.scheduler.started || world.scheduler.paused) = true := by
  have hnot : (!world.scheduler.started || world.scheduler.paused) = !world.running := by
    unfold SyncWorld.running
    rw [Bool.not_and, Bool.not_not]
  rw [hnot, h.running]
  rfl

theorem Quiet.run (h : Quiet begun world) (thrown : Option ε) : world.run thrown = world := by
  unfold SyncWorld.run
  rw [h.skips, Bool.true_or, if_pos rfl]

theorem Quiet.setCadence (h : Quiet begun world) (cadenceMs : ℚ) :
    world.setCadence cadenceMs =
      { world with scheduler := { world.scheduler with cadenceMs := cadenceMs } } := by
  unfold SyncWorld.setCadence
  refine if_neg fun htighter => ?_
  simp only [Bool.and_eq_true, Bool.not_eq_true'] at htighter
  have hskips := h.skips
  simp [htighter] at hskips

/-- Nothing but a start or a resumption has a quiet scheduler do anything. -/
theorem Quiet.step (h : Quiet begun world) {event : Event ε} (henabled : world.Enabled event)
    (hevent : event.starts = false) : Quiet begun (world.step event) := by
  have hsound := h.sound.step henabled
  cases event with
  | start => cases hevent
  | resume => cases hevent
  | setCadence cadenceMs =>
    change Sound (world.setCadence cadenceMs) at hsound
    change Quiet begun (world.setCadence cadenceMs)
    rw [h.setCadence cadenceMs] at hsound ⊢
    exact { h with sound := hsound }
  | runNow thrown =>
    have hsame : (world.runNow thrown).1 = world := by
      unfold SyncWorld.runNow
      split
      · rfl
      · exact h.run thrown
    change Quiet begun (world.runNow thrown).1
    rw [hsame]
    exact h
  | pause =>
    have hsame : world.pause = world := if_pos h.skips
    change Quiet begun world.pause
    rw [hsame]
    exact h
  | stop =>
    have hhandle := h.sound.stopped h.running
    refine ⟨hsound, ?_, ?_, ?_⟩
    · exact running_cancelTimer.trans rfl
    · simp only [SyncWorld.step, SyncWorld.stop, SyncWorld.cancelTimer, hhandle, h.idle]
    · simp only [SyncWorld.step, SyncWorld.stop, SyncWorld.cancelTimer, hhandle, h.begun]
  | fire handle thrown =>
    have hpending : handle ∈ world.timers.map Prod.fst := henabled
    rw [h.timers] at hpending
    cases hpending
  | complete sweep failure =>
    have hflight : sweep ∈ world.sweeps := henabled
    rw [h.idle] at hflight
    cases hflight

theorem Reaches.quiet {events : List (Event ε)} {after : SyncWorld ε}
    (hrun : Reaches world events after) (h : Quiet begun world)
    (hevents : ∀ event ∈ events, event.starts = false) : Quiet begun after := by
  induction hrun with
  | nil => exact h
  | cons henabled _ ih =>
    exact ih (h.step henabled (hevents _ List.mem_cons_self))
      fun event hmem => hevents event (List.mem_cons_of_mem _ hmem)

theorem running_stop : world.stop.running = false := running_cancelTimer.trans rfl

theorem running_pause : world.pause.running = false := by
  unfold SyncWorld.pause
  split
  · next hskips =>
    unfold running
    rw [← Bool.not_eq_true', Bool.not_and, Bool.not_not]
    exact hskips
  · exact running_cancelTimer.trans (by simp [running])

/-- In every run at most one sweep is in flight and at most one timer is pending. A scheduler that
    runs without a sweep has a timer. One that was stopped or paused without a sweep has none, and
    begins no sweep before it is started or resumed. -/
theorem scheduler_sound {events : List (Event ε)} (hrun : Reaches initial events world) :
    world.sweeps.length ≤ 1 ∧ world.timers.length ≤ 1 ∧
      (world.running = true → world.sweeps = [] → world.timers.length = 1) ∧
      ∀ halt, halt = .stop ∨ halt = .pause → (world.step halt).sweeps = [] →
        (world.step halt).timers = [] ∧
        ∀ later after, (∀ event ∈ later, event.starts = false) →
          Reaches (world.step halt) later after →
          after.sweepsBegun = (world.step halt).sweepsBegun := by
  have hsound := hrun.sound sound_initial
  have htimers : world.timers.length = world.scheduler.handle.toList.length := by
    rw [← hsound.timers, List.length_map]
  refine ⟨?_, ?_, ?_, ?_⟩
  · rw [hsound.sweeps]
    split
    · exact Option.length_toList_le
    · exact Nat.zero_le 1
  · rw [htimers]
    exact Option.length_toList_le
  · intro hrunning hidle
    have hflight : world.scheduler.inFlight = false := by
      by_contra hflight
      rw [Bool.not_eq_false] at hflight
      have hsweeps := hsound.sweeps
      rw [hidle, if_pos hflight] at hsweeps
      have hsome := hsound.current hflight
      rw [Option.toList_eq_nil_iff.1 hsweeps.symm] at hsome
      cases hsome
    obtain ⟨handle, hhandle⟩ := Option.isSome_iff_exists.1 (hsound.alive hrunning hflight)
    rw [htimers, hhandle]
    rfl
  · intro halt hhalt hidle
    have hquiet : Quiet (world.step halt).sweepsBegun (world.step halt) := by
      refine ⟨?_, ?_, hidle, rfl⟩
      · rcases hhalt with rfl | rfl
        · exact hsound.stop
        · exact hsound.pause
      · rcases hhalt with rfl | rfl
        · exact running_stop
        · exact running_pause
    exact ⟨hquiet.timers, fun later after hlater hreaches => (hreaches.quiet hquiet hlater).begun⟩

/-- A start, a timer that was set when the first sweep failed, and a pause. -/
theorem scheduler_sound_sample :
    let world : SyncWorld String := (((initial.start 30000 none).complete 0 (some "offline")).fire 0
      none)
    world.sweeps.length ≤ 1 ∧ world.timers.length ≤ 1 ∧
      (world.running = true → world.sweeps = [] → world.timers.length = 1) ∧
      ∀ halt, halt = .stop ∨ halt = .pause → (world.step halt).sweeps = [] →
        (world.step halt).timers = [] ∧
        ∀ later after, (∀ event ∈ later, event.starts = false) →
          Reaches (world.step halt) later after →
          after.sweepsBegun = (world.step halt).sweepsBegun :=
  scheduler_sound (@Reaches.cons _ _ (.start 30000 none) _ _ trivial
    (@Reaches.cons _ _ (.complete 0 (some "offline")) _ _ (by decide +kernel)
      (@Reaches.cons _ _ (.fire 0 none) _ _ (by decide +kernel) (.nil _))))

end SyncWorld

end cemp.app
