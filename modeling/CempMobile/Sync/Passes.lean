import CempMobile.Sync.LoraPoll
import CempMobile.Sync.Responses

open cemp.core cemp.database cemp.ckb cemp.lora

namespace cemp.sync

/-- The workers, as far as they work on messages, transactions and watches. -/
inductive Worker where
  | pendingTransactions
  | incomingDiscovery (pages : Nat)
  | lora
  | responseSender
  | watchedOutpoints
  | reclaimBatch
  deriving DecidableEq, Repr

/-- What a worker runs. -/
def Worker.program (deps : LoraWorkerDeps) : Worker → Prog Unit
  | .pendingTransactions => runPendingTransactions deps.pipeline
  | .incomingDiscovery pages => runIncomingDiscovery deps.toSyncWorkerDeps pages
  | .lora => runLoraPoll deps
  | .responseSender => runResponseSender deps.pipeline
  | .watchedOutpoints => do
    let _ ← pollWatchesOnce
    return ()
  | .reclaimBatch => do
    let _ ← executeReclaimBatch deps.pipeline none
    return ()

/-- One pass of a worker: the database it finds after other work, how it ended, or that it was cut
    short, and the state it leaves. -/
structure WorkerPass (σ : Type) where
  worker : Worker
  found : Db
  outcome : Option (Except Error Unit)
  after : σ

/-- A pass as a run of its worker's program. A pass that is cut short may be so anywhere. -/
def WorkerPass.Runs {σ : Type} (pass : WorkerPass σ) (deps : LoraWorkerDeps)
    (effect : Program.Effect Op Error σ) (start : σ) : Prop :=
  match pass.outcome with
  | some out => Program.Runs effect (pass.worker.program deps) start out pass.after
  | none => Program.Interrupted effect Program.Anywhere (pass.worker.program deps) start pass.after

section Steps

variable {σ : Type} {deps : LoraWorkerDeps}

theorem runLoraPoll_uses : Program.Uses WorkerStep (runLoraPoll deps) := by
  have fetch : ∀ (transport : LoraTransport) tag since,
      Program.Uses WorkerStep (fetchJson transport tag since) := by
    intro transport tag since
    refine Program.Uses.bind (Program.Uses.catchError
      ((Program.uses_perform.2 trivial).bind fun _ => trivial) fun _ => trivial) fun answer => ?_
    cases answer with
    | error e => trivial
    | ok response =>
      simp only
      split
      · trivial
      · split <;> trivial
  have routes : ∀ (transport : LoraTransport) since tags result,
      Program.Uses WorkerStep (pollRoutes transport since tags result) := by
    intro transport since tags
    induction tags with
    | nil => exact fun _ => trivial
    | cons tag tags ih =>
      intro result
      refine (fetch transport tag since).bind fun body => ?_
      cases hparse : parseObjectsResponse body with
      | error e => trivial
      | ok page => exact ih _
  have poll : ∀ (id : ProfileId) (transport : LoraTransport),
      Program.Uses WorkerStep (pollGateway deps id transport) := by
    intro id transport
    refine (Program.uses_perform.2 trivial).bind fun since => (routes _ _ _ _).bind fun result => ?_
    refine Program.Uses.bind (Program.Uses.forEach fun object _ => ?_) fun _ => ?_
    · exact Program.Uses.catchError ((ingestIncomingCellData_uses _ _ _ _).mono
        fun _ _ h => h.worker) fun _ => trivial
    · split
      · exact Program.uses_perform.2 trivial
      · trivial
  refine (Program.uses_perform.2 trivial).bind fun enabled => ?_
  split
  · trivial
  · refine (Program.uses_perform.2 trivial).bind fun settingsUrl => ?_
    split
    · trivial
    · refine (Program.uses_perform.2 trivial).bind fun own => ?_
      cases own with
      | none => trivial
      | some id =>
        refine (Program.uses_perform.2 trivial).bind fun nowMs => ?_
        refine Program.Uses.bind ?_ fun transport => poll id transport
        cases LoraTransport.create _ _ deps.validateEnvelope <;> trivial

/-- Every worker but the response sender takes worker steps only. -/
theorem Worker.uses {worker : Worker} (h : worker ≠ .responseSender) :
    Program.Uses WorkerStep (worker.program deps) := by
  cases worker with
  | pendingTransactions => exact runPendingTransactions_uses deps.pipeline
  | incomingDiscovery pages => exact runIncomingDiscovery_uses deps.toSyncWorkerDeps pages
  | lora => exact runLoraPoll_uses
  | responseSender => exact absurd rfl h
  | watchedOutpoints => exact (work_of_plain pollWatchesOnce_uses).bind fun _ => trivial
  | reclaimBatch =>
    exact (work_of_plain (executeReclaimBatch_uses deps.pipeline none)).bind fun _ => trivial

/-- What is known along a pass is known where it is cut short, and what is known where it stops,
    where it stopped. -/
theorem WorkerPass.Runs.known {pass : WorkerPass σ} {effect : Program.Effect Op Error σ}
    {start : σ} {during : ∀ β : Type, Op β → σ → Prop} {post : Except Error Unit → σ → Prop}
    {cut : σ → Prop} (hruns : pass.Runs deps effect start)
    (h : Program.Always effect during (pass.worker.program deps) start post)
    (hcut : ∀ (β : Type) (op : Op β) (s : σ), during β op s → cut s) :
    match pass.outcome with
    | some out => post out pass.after
    | none => cut pass.after := by
  unfold WorkerPass.Runs at hruns
  cases hout : pass.outcome with
  | some out =>
    rw [hout] at hruns
    exact h.runs hruns
  | none =>
    rw [hout] at hruns
    exact h.interrupted (fun β op s _ hs => hcut β op s hs) hruns

end Steps

end cemp.sync
