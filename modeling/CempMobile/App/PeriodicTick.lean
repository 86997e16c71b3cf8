import CempMobile.Lib.InsertionOrder
import Mathlib.Data.List.TakeDrop

/-! The periodic tick of the background sync: the requests of all workers collapsed into one, as a
    registry asks for it and as WorkManager holds it across sessions, crashes and upgrades. -/

namespace cemp.app.workManager

/-- WorkManager rejects periodic work below 15 minutes. -/
def WORKMANAGER_MIN_INTERVAL_MS : Nat := 15 * 60000

structure PeriodicSpec where
  id : String
  intervalMs : Nat
  requiresNetwork : Bool
  deriving DecidableEq, Repr

structure CoalescedTick where
  intervalMs : Nat
  requiresNetwork : Bool
  deriving DecidableEq, Repr

/-- The tick that runs every worker: as often as the most frequent, under the strictest
    constraint. -/
def coalesce (specs : List PeriodicSpec) : Option CoalescedTick :=
  (specs.map PeriodicSpec.intervalMs).min?.map fun shortest =>
    ⟨max shortest WORKMANAGER_MIN_INTERVAL_MS, specs.any PeriodicSpec.requiresNetwork⟩

structure TickUpdate where
  tick : CoalescedTick
  replaceExisting : Bool
  deriving DecidableEq, Repr

/-- What each worker asked for, and the tick that was last handed to the native scheduler. -/
structure SpecRegistry where
  specs : List PeriodicSpec
  scheduled : Option CoalescedTick
  nodup : (specs.map PeriodicSpec.id).Nodup

namespace SpecRegistry

def empty : SpecRegistry := ⟨[], none, List.nodup_nil⟩

/-- An empty registry keeps what was scheduled, and an unchanged tick needs no call. -/
def recompute (registry : SpecRegistry) : Option TickUpdate × SpecRegistry :=
  match coalesce registry.specs with
  | none => (none, registry)
  | some tick =>
    if registry.scheduled = some tick then (none, registry)
    else (some ⟨tick, registry.scheduled.isSome⟩, { registry with scheduled := some tick })

/-- `#specs.set(spec.id, spec)`. -/
def set (spec : PeriodicSpec) (registry : SpecRegistry) : SpecRegistry :=
  { registry with
    specs := InsertionOrder.set PeriodicSpec.id registry.specs spec
    nodup := InsertionOrder.nodup_set registry.nodup spec }

/-- `#specs.delete(id)`. -/
def delete (id : String) (registry : SpecRegistry) : SpecRegistry :=
  { registry with
    specs := InsertionOrder.delete PeriodicSpec.id registry.specs id
    nodup := InsertionOrder.nodup_delete registry.nodup id }

def add (spec : PeriodicSpec) (registry : SpecRegistry) : Option TickUpdate × SpecRegistry :=
  (registry.set spec).recompute

def remove (id : String) (registry : SpecRegistry) : Option TickUpdate × SpecRegistry :=
  (registry.delete id).recompute

end SpecRegistry

/-! ### The native scheduler -/

def PERIODIC_WORK : String := "cemp-sync-tick"

/-- Work that WorkManager holds. Periodic work is enqueued under a generation, and a new one starts
    its period again. -/
inductive Work where
  | periodic (tick : CoalescedTick) (generation : Nat)
  | oneShot (delayMs : Nat)
  deriving DecidableEq, Repr

inductive ExistingPeriodicWorkPolicy where
  | keep
  | update
  deriving DecidableEq, Repr

/-- What outlives the process: the unique work of WorkManager, and the preference that names the
    schedule version it was enqueued under. -/
structure Device where
  work : String → Option Work
  scheduleVersion : Nat
  generation : Nat

namespace Device

def fresh : Device := ⟨fun _ => none, 0, 0⟩

/-- The tick that is enqueued. -/
def periodic (device : Device) : Option CoalescedTick :=
  match device.work PERIODIC_WORK with
  | some (.periodic tick _) => some tick
  | _ => none

def enqueueUniquePeriodicWork (name : String) (policy : ExistingPeriodicWorkPolicy)
    (tick : CoalescedTick) (device : Device) : Device :=
  if policy = .keep ∧ (device.work name).isSome then device
  else
    { device with
      work := Function.update device.work name (some (.periodic tick (device.generation + 1)))
      generation := device.generation + 1 }

def enqueueUniqueWork (name : String) (delayMs : Nat) (device : Device) : Device :=
  { device with work := Function.update device.work name (some (.oneShot delayMs)) }

def cancelUniqueWork (name : String) (device : Device) : Device :=
  { device with work := Function.update device.work name none }

/-- The work of another schedule version is replaced whatever the session asks for. -/
def policy (version : Nat) (update : TickUpdate) (device : Device) : ExistingPeriodicWorkPolicy :=
  let upgraded := device.scheduleVersion != version
  if update.replaceExisting || upgraded then .update else .keep

/-- `CempSchedulerModule.schedulePeriodic` of a release with a schedule version. -/
def schedulePeriodic (version : Nat) (update : TickUpdate) (device : Device) : Device :=
  { enqueueUniquePeriodicWork PERIODIC_WORK (device.policy version update) update.tick device with
    scheduleVersion := version }

/-- The calls of the native module. A call may fail, and then nothing is changed. -/
inductive Call where
  | schedulePeriodic (update : TickUpdate)
  | scheduleOneShot (id : String) (delayMs : Nat)
  | cancel (id : String)
  | cancelPeriodic
  deriving DecidableEq, Repr

def perform (version : Nat) (succeeds : Call → Bool) (call : Call) (device : Device) : Device :=
  if succeeds call then
    match call with
    | .schedulePeriodic update => device.schedulePeriodic version update
    | .scheduleOneShot id delayMs => device.enqueueUniqueWork id delayMs
    | .cancel id => device.cancelUniqueWork id
    | .cancelPeriodic => device.cancelUniqueWork PERIODIC_WORK
  else device

end Device

/-! ### The scheduler of a session -/

namespace WorkManagerScheduler

def schedulePeriodic (spec : PeriodicSpec) (registry : SpecRegistry) :
    List Device.Call × SpecRegistry :=
  let (update, registry) := registry.add spec
  ((update.map Device.Call.schedulePeriodic).toList, registry)

def cancel (id : String) (registry : SpecRegistry) : List Device.Call × SpecRegistry :=
  let (update, registry) := registry.remove id
  ((update.map Device.Call.schedulePeriodic).toList ++ [.cancel id], registry)

end WorkManagerScheduler

/-- The unique name of a worker's retry. -/
def retryId (workerId : String) : String := workerId ++ ":retry"

/-- From an unlock on: the scheduler that was made for it, and the workers that `SyncEngine.start`
    has yet to register. -/
structure Session where
  version : Nat
  registry : SpecRegistry
  rest : List PeriodicSpec

structure State where
  device : Device
  session : Option Session

def State.fresh : State := ⟨.fresh, none⟩

inductive Event where
  /-- An unlock under a release. It makes a scheduler, and starts an engine. -/
  | unlock (version : Nat)
  /-- The engine registers its next worker. -/
  | register (succeeds : Device.Call → Bool)
  /-- A worker failed, and its retry is scheduled. -/
  | retry (workerId : String) (delayMs : Nat) (succeeds : Device.Call → Bool)
  /-- A worker ran, and its retry is cancelled. -/
  | clearRetry (workerId : String) (succeeds : Device.Call → Bool)
  /-- The factory wipe cancels the tick, through a scheduler of its own. -/
  | wipe (succeeds : Device.Call → Bool)
  /-- The vault is locked, or the process dies. -/
  | stop

/-- An event in which no call fails and the session goes on. -/
def Event.Smooth : Event → Prop
  | unlock _ => False
  | register succeeds => ∀ call, succeeds call = true
  | retry _ _ succeeds => ∀ call, succeeds call = true
  | clearRetry _ succeeds => ∀ call, succeeds call = true
  | wipe _ => False
  | stop => False

section

/-! The workers of the release with a schedule version. A release that changes its workers has a
    version of its own. -/

variable (releases : Nat → List PeriodicSpec)

/-- `new Map(deps.workers.map((worker) => [worker.id, worker]))`, in its order. -/
def engineWorkers (version : Nat) : List PeriodicSpec :=
  (releases version).foldl (InsertionOrder.set PeriodicSpec.id) []

def performAll (version : Nat) (succeeds : Device.Call → Bool) (calls : List Device.Call) (device : Device) :
    Device :=
  calls.foldl (fun device call => device.perform version succeeds call) device

def step (state : State) : Event → State
  | .unlock version =>
    { state with session := some ⟨version, .empty, engineWorkers releases version⟩ }
  | .register succeeds =>
    match state.session with
    | some ⟨version, registry, spec :: rest⟩ =>
      let (calls, registry) := WorkManagerScheduler.schedulePeriodic spec registry
      ⟨performAll version succeeds calls state.device, some ⟨version, registry, rest⟩⟩
    | _ => state
  | .retry workerId delayMs succeeds =>
    match state.session with
    | some session =>
      { state with
        device := state.device.perform session.version succeeds
          (.scheduleOneShot (retryId workerId) delayMs) }
    | none => state
  | .clearRetry workerId succeeds =>
    match state.session with
    | some ⟨version, registry, rest⟩ =>
      let (calls, registry) := WorkManagerScheduler.cancel (retryId workerId) registry
      ⟨performAll version succeeds calls state.device, some ⟨version, registry, rest⟩⟩
    | none => state
  | .wipe succeeds => ⟨state.device.perform 0 succeeds .cancelPeriodic, none⟩
  | .stop => { state with session := none }

def run (state : State) (events : List Event) : State := events.foldl (step releases) state

end

/-! ### The tick of some workers -/

theorem coalesce_eq_none_iff {specs : List PeriodicSpec} : coalesce specs = none ↔ specs = [] := by
  simp [coalesce, List.min?_eq_none_iff]

/-- A tick comes often enough for a worker, though never below the floor, and under the constraint
    that the worker needs. -/
structure CoalescedTick.Serves (tick : CoalescedTick) (spec : PeriodicSpec) : Prop where
  floor : WORKMANAGER_MIN_INTERVAL_MS ≤ tick.intervalMs
  interval : tick.intervalMs ≤ max spec.intervalMs WORKMANAGER_MIN_INTERVAL_MS
  network : spec.requiresNetwork = true → tick.requiresNetwork = true

theorem coalesce_serves {specs : List PeriodicSpec} {tick : CoalescedTick}
    (h : coalesce specs = some tick) : ∀ spec ∈ specs, tick.Serves spec := by
  obtain ⟨shortest, hmin, rfl⟩ := Option.map_eq_some_iff.1 h
  intro spec hspec
  have hshortest : shortest ≤ spec.intervalMs :=
    (List.min?_eq_some_iff.1 hmin).2 _ (List.mem_map_of_mem hspec)
  refine ⟨by simp only; omega, by simp only; omega, fun hnetwork => ?_⟩
  exact List.any_eq_true.2 ⟨spec, hspec, hnetwork⟩

namespace SpecRegistry

variable {registry : SpecRegistry} {spec : PeriodicSpec} {tick : CoalescedTick}

theorem recompute_unchanged (h : registry.scheduled = coalesce registry.specs) :
    registry.recompute = (none, registry) := by
  unfold recompute
  split
  · rfl
  · next tick hcoalesce => exact if_pos (h.trans hcoalesce)

theorem recompute_changed (h : coalesce registry.specs = some tick)
    (hne : registry.scheduled ≠ some tick) :
    registry.recompute =
      (some ⟨tick, registry.scheduled.isSome⟩, { registry with scheduled := some tick }) := by
  simp only [recompute, h]
  exact if_neg hne

/-- A worker that is new to a registry is appended. The registry is then up to date, and asks for
    the tick if it is another. -/
theorem add_new (hnew : spec.id ∉ registry.specs.map PeriodicSpec.id)
    (h : coalesce (registry.specs ++ [spec]) = some tick) :
    (registry.add spec).2.specs = registry.specs ++ [spec] ∧
      (registry.add spec).2.scheduled = some tick ∧
      (registry.add spec).1 = if registry.scheduled = some tick then none
        else some ⟨tick, registry.scheduled.isSome⟩ := by
  have hspecs : (registry.set spec).specs = registry.specs ++ [spec] :=
    InsertionOrder.set_of_new hnew
  rw [← hspecs] at h
  unfold add
  split
  · next hsame =>
    have hscheduled : (registry.set spec).scheduled = coalesce (registry.set spec).specs :=
      hsame.trans h.symm
    rw [recompute_unchanged hscheduled]
    exact ⟨hspecs, hsame, rfl⟩
  · next hchanged =>
    have hscheduled : (registry.set spec).scheduled ≠ some tick := hchanged
    rw [recompute_changed h hscheduled]
    exact ⟨hspecs, rfl, rfl⟩

/-- What no worker is called is removed without effect. -/
theorem remove_new {id : String} (hnew : id ∉ registry.specs.map PeriodicSpec.id)
    (h : registry.scheduled = coalesce registry.specs) : registry.remove id = (none, registry) := by
  have hsame : registry.delete id = registry := by
    obtain ⟨specs, scheduled, nodup⟩ := registry
    simp only [delete, InsertionOrder.delete_of_new hnew]
  rw [remove, hsame, recompute_unchanged h]

end SpecRegistry

/-! ### The work of the tick -/

theorem retryId_ne (workerId : String) : retryId workerId ≠ PERIODIC_WORK := by
  intro h
  have hlast : (retryId workerId).toList.getLast? = PERIODIC_WORK.toList.getLast? := by rw [h]
  have hsuffix : (":retry" : String).toList ≠ [] := by decide
  rw [retryId, String.toList_append, List.getLast?_append_of_ne_nil _ hsuffix] at hlast
  exact absurd hlast (by decide)

namespace Device

variable {device : Device} {version : Nat} {update : TickUpdate} {succeeds : Call → Bool}

/-- An enqueued tick is the new one, or the one before it if that is to be kept. -/
theorem schedulePeriodic_cases (version : Nat) (update : TickUpdate) (device : Device) :
    (device.schedulePeriodic version update).scheduleVersion = version ∧
      ((update.replaceExisting = false ∧ device.scheduleVersion = version ∧
          (device.work PERIODIC_WORK).isSome = true ∧
          (device.schedulePeriodic version update).work = device.work) ∨
        (device.schedulePeriodic version update).work PERIODIC_WORK =
          some (.periodic update.tick (device.generation + 1))) := by
  refine ⟨rfl, ?_⟩
  by_cases hkept : device.policy version update = .keep ∧ (device.work PERIODIC_WORK).isSome = true
  · have hsame : device.enqueueUniquePeriodicWork PERIODIC_WORK (device.policy version update)
        update.tick = device := if_pos hkept
    have hpolicy : (update.replaceExisting || device.scheduleVersion != version) = false := by
      by_contra hupdate
      have hupdates : device.policy version update = .update :=
        if_pos (eq_true_of_ne_false hupdate)
      exact absurd (hupdates.symm.trans hkept.1) (by decide)
    obtain ⟨hreplace, hversion⟩ := Bool.or_eq_false_iff.1 hpolicy
    refine .inl ⟨hreplace, by simpa using hversion, hkept.2, ?_⟩
    simp only [schedulePeriodic, hsame]
  · have hnew : device.enqueueUniquePeriodicWork PERIODIC_WORK (device.policy version update)
        update.tick =
          { device with
            work := Function.update device.work PERIODIC_WORK
              (some (.periodic update.tick (device.generation + 1)))
            generation := device.generation + 1 } := if_neg hkept
    refine .inr ?_
    simp only [schedulePeriodic, hnew]
    exact Function.update_self ..

/-- Work of the same version is kept by an update that is not to replace it. -/
theorem schedulePeriodic_kept (tick : CoalescedTick) (hversion : device.scheduleVersion = version)
    (hsome : (device.work PERIODIC_WORK).isSome = true) :
    device.schedulePeriodic version ⟨tick, false⟩ = device := by
  subst hversion
  have hpolicy : device.policy device.scheduleVersion ⟨tick, false⟩ = .keep := by
    simp [policy]
  have hsame : device.enqueueUniquePeriodicWork PERIODIC_WORK .keep tick = device :=
    if_pos ⟨rfl, hsome⟩
  simp only [schedulePeriodic, hpolicy, hsame]

theorem work_cancelUniqueWork (name : String) : (device.cancelUniqueWork name).work name = none := by
  simp only [cancelUniqueWork, Function.update_self]

theorem perform_retry (workerId : String) (delayMs : Nat) :
    (device.perform version succeeds (.scheduleOneShot (retryId workerId) delayMs)).work
        PERIODIC_WORK = device.work PERIODIC_WORK ∧
      (device.perform version succeeds (.scheduleOneShot (retryId workerId) delayMs)).scheduleVersion
        = device.scheduleVersion := by
  unfold perform
  split
  · exact ⟨Function.update_of_ne (retryId_ne workerId).symm .., rfl⟩
  · exact ⟨rfl, rfl⟩

theorem perform_cancel (workerId : String) :
    (device.perform version succeeds (.cancel (retryId workerId))).work PERIODIC_WORK =
        device.work PERIODIC_WORK ∧
      (device.perform version succeeds (.cancel (retryId workerId))).scheduleVersion =
        device.scheduleVersion := by
  unfold perform
  split
  · exact ⟨Function.update_of_ne (retryId_ne workerId).symm .., rfl⟩
  · exact ⟨rfl, rfl⟩

end Device

end cemp.app.workManager
