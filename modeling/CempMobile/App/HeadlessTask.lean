import Mathlib.Data.List.Nodup
import Mathlib.Logic.Function.Basic
import Mathlib.Tactic.Common

/-! Background ticks: each worker starts a headless task and waits for its end, while JavaScript,
    the UI thread, the timeouts and other workers go on. -/

namespace cemp.app.headless

/-- A task of a React context. Every context numbers its own. -/
structure Task where
  reactContext : Nat
  taskId : Nat
  deriving DecidableEq, Repr

/-- What the UI thread has to run. -/
inductive UiJob where
  /-- The start of a tick's task. -/
  | start (tickId : Nat)
  /-- The listeners of a task that ended. -/
  | finish (task : Task)
  deriving DecidableEq, Repr

/-- How `finished` was completed. -/
inductive Completion where
  | completed
  | exceptionally
  deriving DecidableEq, Repr

inductive Result where
  | success
  | retry
  deriving DecidableEq, Repr

/-- A call of `runTask`. While it has not ended its listener is registered. -/
structure Worker where
  reactContext : Nat
  startedTaskId : Option Nat
  finished : Option Completion
  /-- How it ended, and the task that was started by then. -/
  ended : Option (Result × Option Nat)
  deriving DecidableEq, Repr

structure State where
  lastTickId : Nat
  workers : Nat → Option Worker
  /-- `CempHeadlessTaskRegistry.pending`. -/
  pending : Nat → Option Task
  lastTaskId : Nat → Nat
  /-- `HeadlessJsTaskContext.activeTasks`. -/
  active : Task → Bool
  ui : List UiJob
  /-- The tasks whose listeners were called for, the last one first. -/
  announced : List Task

namespace State

def init : State := ⟨0, fun _ => none, fun _ => none, fun _ => 0, fun _ => false, [], []⟩

/-- A worker that takes the next tick id. -/
def enter (worker : Worker) (s : State) : State :=
  { s with
    lastTickId := s.lastTickId + 1
    workers := Function.update s.workers (s.lastTickId + 1) (some worker) }

/-- `HeadlessJsTaskContext.finishTask`, which calls the listeners of an active task only. -/
def finishTask (task : Task) (s : State) : State :=
  if s.active task then
    { s with
      active := Function.update s.active task false
      ui := s.ui ++ [.finish task]
      announced := task :: s.announced }
  else s

/-- `CempHeadlessTaskRegistry.finish`. -/
def finish (tickId : Nat) (s : State) : State :=
  match s.pending tickId with
  | none => s
  | some task => finishTask task { s with pending := Function.update s.pending tickId none }

/-- `HeadlessJsTaskContext.startTask`, with what the runnable does next. -/
def startTask (tickId : Nat) (worker : Worker) (s : State) : State :=
  let task : Task := ⟨worker.reactContext, s.lastTaskId worker.reactContext + 1⟩
  { s with
    lastTaskId := Function.update s.lastTaskId worker.reactContext task.taskId
    active := Function.update s.active task true
    workers := Function.update s.workers tickId
      (some { worker with startedTaskId := some task.taskId })
    pending := Function.update s.pending tickId (some task) }

/-- `finished.complete`, which does nothing to what is complete. -/
def complete (tickId : Nat) (worker : Worker) (how : Completion) (s : State) : State :=
  { s with
    workers := Function.update s.workers tickId
      (some { worker with finished := some (worker.finished.getD how) }) }

/-- The listener of a worker, called for a task. -/
def listen (task : Task) (worker : Worker) : Worker :=
  if worker.ended = none ∧ worker.reactContext = task.reactContext ∧
      worker.startedTaskId = some task.taskId then
    { worker with finished := some (worker.finished.getD .completed) }
  else worker

/-- A worker leaves `runTask`: it removes its listener and forgets its tick. -/
def leave (tickId : Nat) (worker : Worker) (result : Result) (s : State) : State :=
  { s with
    workers := Function.update s.workers tickId
      (some { worker with ended := some (result, worker.startedTaskId) })
    pending := Function.update s.pending tickId none }

/-! What is changed for a tick, and that nothing is changed for the others. -/

variable {s : State} {tickId tickId' : Nat} {worker : Worker} {result : Result} {how : Completion}

theorem workers_enter_self : (s.enter worker).workers (s.lastTickId + 1) = some worker :=
  Function.update_self ..

theorem workers_enter_of_ne (h : tickId ≠ s.lastTickId + 1) :
    (s.enter worker).workers tickId = s.workers tickId :=
  Function.update_of_ne h ..

theorem workers_leave_self : (s.leave tickId worker result).workers tickId =
    some { worker with ended := some (result, worker.startedTaskId) } :=
  Function.update_self ..

theorem workers_leave_of_ne (h : tickId' ≠ tickId) :
    (s.leave tickId worker result).workers tickId' = s.workers tickId' :=
  Function.update_of_ne h ..

theorem pending_leave_self : (s.leave tickId worker result).pending tickId = none :=
  Function.update_self ..

theorem pending_leave_of_ne (h : tickId' ≠ tickId) :
    (s.leave tickId worker result).pending tickId' = s.pending tickId' :=
  Function.update_of_ne h ..

theorem workers_complete_self : (s.complete tickId worker how).workers tickId =
    some { worker with finished := some (worker.finished.getD how) } :=
  Function.update_self ..

theorem workers_complete_of_ne (h : tickId' ≠ tickId) :
    (s.complete tickId worker how).workers tickId' = s.workers tickId' :=
  Function.update_of_ne h ..

theorem workers_startTask_self : (s.startTask tickId worker).workers tickId =
    some { worker with startedTaskId := some (s.lastTaskId worker.reactContext + 1) } :=
  Function.update_self ..

theorem workers_startTask_of_ne (h : tickId' ≠ tickId) :
    (s.startTask tickId worker).workers tickId' = s.workers tickId' :=
  Function.update_of_ne h ..

theorem pending_startTask_self : (s.startTask tickId worker).pending tickId =
    some ⟨worker.reactContext, s.lastTaskId worker.reactContext + 1⟩ :=
  Function.update_self ..

theorem pending_startTask_of_ne (h : tickId' ≠ tickId) :
    (s.startTask tickId worker).pending tickId' = s.pending tickId' :=
  Function.update_of_ne h ..

theorem lastTaskId_startTask_self : (s.startTask tickId worker).lastTaskId worker.reactContext =
    s.lastTaskId worker.reactContext + 1 :=
  Function.update_self ..

theorem lastTaskId_startTask_of_ne {reactContext : Nat} (h : reactContext ≠ worker.reactContext) :
    (s.startTask tickId worker).lastTaskId reactContext = s.lastTaskId reactContext :=
  Function.update_of_ne h ..

theorem active_startTask_self : (s.startTask tickId worker).active
    ⟨worker.reactContext, s.lastTaskId worker.reactContext + 1⟩ = true :=
  Function.update_self ..

theorem active_startTask_of_ne {task : Task}
    (h : task ≠ ⟨worker.reactContext, s.lastTaskId worker.reactContext + 1⟩) :
    (s.startTask tickId worker).active task = s.active task :=
  Function.update_of_ne h ..

end State

inductive Event where
  /-- A worker enters `runTask` with a React context. -/
  | runTask (reactContext : Nat) (posted : Bool)
  /-- The UI thread runs its next job, in which `startTask` may throw. -/
  | ui (throws : Bool)
  /-- JavaScript calls `notifyTaskFinished`. -/
  | notifyTaskFinished (tickId : Nat)
  /-- A task's own timeout ends it. -/
  | taskTimeout (task : Task)
  /-- A worker goes on after `finished.await()`. -/
  | resume (tickId : Nat)
  /-- A worker's timeout cancels its wait. -/
  | cancel (tickId : Nat)
  deriving DecidableEq, Repr

open State

def step (s : State) : Event → State
  | .runTask reactContext posted =>
    let tickId := s.lastTickId + 1
    let worker : Worker := ⟨reactContext, none, none, none⟩
    if posted then { enter worker s with ui := s.ui ++ [.start tickId] }
    else leave tickId worker .retry (enter worker s)
  | .ui throws =>
    match s.ui with
    | [] => s
    | .start tickId :: rest =>
      match s.workers tickId with
      | none => { s with ui := rest }
      | some worker =>
        if throws then complete tickId worker .exceptionally { s with ui := rest }
        else startTask tickId worker { s with ui := rest }
    | .finish task :: rest =>
      { s with ui := rest, workers := fun tickId => (s.workers tickId).map (listen task) }
  | .notifyTaskFinished tickId => finish tickId s
  | .taskTimeout task => finishTask task s
  | .resume tickId =>
    match s.workers tickId with
    | some worker =>
      match worker.ended, worker.finished with
      | none, some .completed => leave tickId worker .success s
      | none, some .exceptionally => leave tickId worker .retry s
      | _, _ => s
    | none => s
  | .cancel tickId =>
    match s.workers tickId with
    | some worker => if worker.ended = none then leave tickId worker .retry s else s
    | none => s

def run (s : State) (events : List Event) : State := events.foldl step s

end cemp.app.headless
