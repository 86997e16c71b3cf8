import CempMobile.Database.WorkerLeases
import Mathlib.Data.List.Nodup

open cemp.database

namespace cemp.sync

/-- The resource of a worker's lease. -/
def workerResource (workerId : String) : String := "worker:" ++ workerId

/-- The resource of the reclaim job, whichever worker runs it. -/
def reclaimResource : String := "reclaim:batch"

def WORKER_LEASE_TTL_MS : Nat := 10 * 60000

/-- A run under a lease: from the acquisition that answered a lease until it ends. -/
structure LeasedRun where
  resource : String
  owner : String
  expiresAtMs : Nat
  deriving DecidableEq, Repr

/-- The leases in the database, the runs that are active, and the clock that all engines read. -/
structure LeaseWorld where
  leases : LeaseTable
  active : List LeasedRun
  nowMs : Nat

/-- What happens to leases. -/
inductive LeaseEvent where
  /-- `acquire`, which read the clock some time before its transaction began. Without a lease
      nothing is run. -/
  | acquire (resource owner : String) (ttlMs waitedMs : Nat)
  /-- An active run ends, well or with an error, and releases its resource. -/
  | finish (run : LeasedRun)
  /-- A run ends with its process. -/
  | die (run : LeasedRun)
  | prune
  | tick (ms : Nat)
  deriving DecidableEq, Repr

/-- `runWorker`, as far as its lease: the run is skipped where the lease is refused. -/
def LeaseEvent.runWorker (engineId workerId : String) : LeaseEvent :=
  .acquire (workerResource workerId) engineId WORKER_LEASE_TTL_MS 0

def LeaseEvent.exec (w : LeaseWorld) : LeaseEvent → LeaseWorld
  | acquire resource owner ttlMs waitedMs =>
    match WorkerLeaseRepository.acquire resource owner ttlMs (w.nowMs - waitedMs) w.leases with
    | (none, leases) => { w with leases := leases }
    | (some lease, leases) =>
      { w with leases := leases, active := ⟨resource, owner, lease.expiresAtMs⟩ :: w.active }
  | finish run =>
    if run ∈ w.active then
      { w with
        leases := WorkerLeaseRepository.release run.resource run.owner w.leases
        active := w.active.erase run }
    else w
  | die run => { w with active := w.active.erase run }
  | prune => { w with leases := WorkerLeaseRepository.pruneExpired w.nowMs w.leases }
  | tick ms => { w with nowMs := w.nowMs + ms }

/-- Every active run is within the time to live of its lease. -/
def LeaseWorld.Timely (w : LeaseWorld) : Prop := ∀ run ∈ w.active, w.nowMs < run.expiresAtMs

/-- At most one run is active per resource. -/
def LeaseWorld.Exclusive (w : LeaseWorld) : Prop := (w.active.map (·.resource)).Nodup

/-- A fact about every world that a schedule goes through. -/
def Throughout (fact : LeaseWorld → Prop) : LeaseWorld → List LeaseEvent → Prop
  | w, [] => fact w
  | w, event :: events => fact w ∧ Throughout fact (event.exec w) events

/-- No owner acquires a resource on which a run of its own is active. -/
def LeaseEvent.NotReentrant (w : LeaseWorld) : LeaseEvent → Prop
  | acquire resource owner .. => ∀ run ∈ w.active, run.resource = resource → run.owner ≠ owner
  | _ => True

def NeverReentrant : LeaseWorld → List LeaseEvent → Prop
  | _, [] => True
  | w, event :: events => event.NotReentrant w ∧ NeverReentrant (event.exec w) events

section Decidable

instance (w : LeaseWorld) : Decidable w.Timely :=
  inferInstanceAs (Decidable (∀ run ∈ w.active, w.nowMs < run.expiresAtMs))

instance (w : LeaseWorld) : Decidable w.Exclusive :=
  inferInstanceAs (Decidable (w.active.map (·.resource)).Nodup)

instance decidableThroughout (fact : LeaseWorld → Prop) [DecidablePred fact] :
    (w : LeaseWorld) → (events : List LeaseEvent) → Decidable (Throughout fact w events)
  | w, [] => inferInstanceAs (Decidable (fact w))
  | w, event :: events =>
    have := decidableThroughout fact (event.exec w) events
    inferInstanceAs (Decidable (fact w ∧ Throughout fact (event.exec w) events))

instance (w : LeaseWorld) : (event : LeaseEvent) → Decidable (event.NotReentrant w)
  | .acquire resource owner _ _ =>
    inferInstanceAs (Decidable (∀ run ∈ w.active, run.resource = resource → run.owner ≠ owner))
  | .finish _ => isTrue trivial
  | .die _ => isTrue trivial
  | .prune => isTrue trivial
  | .tick _ => isTrue trivial

instance decidableNeverReentrant :
    (w : LeaseWorld) → (events : List LeaseEvent) → Decidable (NeverReentrant w events)
  | _, [] => isTrue trivial
  | w, event :: events =>
    have := decidableNeverReentrant (event.exec w) events
    inferInstanceAs (Decidable (event.NotReentrant w ∧ NeverReentrant (event.exec w) events))

end Decidable

/-- What holds of every world as long as no acquisition is re-entrant: a run has the lease of its
    resource, for at least as long as it may run, and the resource to itself. -/
structure Held (w : LeaseWorld) : Prop where
  leased : ∀ run ∈ w.active, ∃ lease, w.leases run.resource = some lease ∧
    lease.owner = run.owner ∧ run.expiresAtMs ≤ lease.expiresAtMs
  exclusive : w.Exclusive

section Leases

variable {w : LeaseWorld} {run other : LeasedRun} {resource owner : String} {ttlMs waitedMs : Nat}
  {event : LeaseEvent} {events : List LeaseEvent}

theorem LeaseWorld.Exclusive.erase (h : w.Exclusive) (run : LeasedRun) :
    ((w.active.erase run).map (·.resource)).Nodup :=
  h.sublist ((List.erase_sublist).map _)

/-- Two active runs on one resource are the same. -/
theorem LeaseWorld.Exclusive.unique (h : w.Exclusive) (hrun : run ∈ w.active)
    (hother : other ∈ w.active) (hresource : other.resource = run.resource) : other = run :=
  List.inj_on_of_nodup_map h hother hrun hresource

theorem Held.acquire (h : Held w) (htimely : w.Timely)
    (hfree : (LeaseEvent.acquire resource owner ttlMs waitedMs).NotReentrant w) :
    Held ((LeaseEvent.acquire resource owner ttlMs waitedMs).exec w) := by
  obtain ⟨hrefused, -⟩ | ⟨lease, hacquired, howner, -, hexisting⟩ :=
    WorkerLeaseRepository.acquire_cases resource owner ttlMs (w.nowMs - waitedMs) w.leases
  · simp only [LeaseEvent.exec, hrefused]
    exact h
  simp only [LeaseEvent.exec, hacquired]
  -- whoever had the resource is gone: its lease was the owner's own, or had expired
  have hnone : ∀ run ∈ w.active, run.resource ≠ resource := by
    intro run hrun hresource
    obtain ⟨held, hheld, hholder, hlong⟩ := h.leased run hrun
    rw [hresource] at hheld
    obtain hown | hexpired := hexisting held hheld
    · exact hfree run hrun hresource (hholder.symm.trans hown)
    · have hlive := htimely run hrun
      omega
  constructor
  · intro run hrun
    obtain rfl | hrun := List.mem_cons.1 hrun
    · exact ⟨lease, Function.update_self .., howner, Nat.le_refl _⟩
    · obtain ⟨held, hheld, hlease⟩ := h.leased run hrun
      exact ⟨held, (Function.update_of_ne (hnone run hrun) _ _).trans hheld, hlease⟩
  · refine List.nodup_cons.2 ⟨fun hmem => ?_, h.exclusive⟩
    obtain ⟨run, hrun, hresource⟩ := List.mem_map.1 hmem
    exact hnone run hrun hresource

theorem Held.exec (h : Held w) (htimely : w.Timely) (hfree : event.NotReentrant w) :
    Held (event.exec w) := by
  cases event with
  | acquire resource owner ttlMs waitedMs => exact h.acquire htimely hfree
  | finish run =>
    by_cases hactive : run ∈ w.active
    · simp only [LeaseEvent.exec, if_pos hactive]
      refine ⟨fun other hother => ?_, h.exclusive.erase run⟩
      have hmem := List.mem_of_mem_erase hother
      obtain ⟨held, hheld, hlease⟩ := h.leased other hmem
      have hne : other.resource ≠ run.resource := by
        intro hresource
        obtain rfl := h.exclusive.unique hactive hmem hresource
        have hnodup : w.active.Nodup := List.Nodup.of_map _ h.exclusive
        exact hnodup.not_mem_erase hother
      exact ⟨held, (WorkerLeaseRepository.release_of_ne hne).trans hheld, hlease⟩
    · simp only [LeaseEvent.exec, if_neg hactive]
      exact h
  | die run =>
    exact ⟨fun other hother => h.leased other (List.mem_of_mem_erase hother), h.exclusive.erase run⟩
  | prune =>
    refine ⟨fun run hrun => ?_, h.exclusive⟩
    obtain ⟨held, hheld, howner, hlong⟩ := h.leased run hrun
    have hlive := htimely run hrun
    exact ⟨held, WorkerLeaseRepository.pruneExpired_of_live hheld (by omega), howner, hlong⟩
  | tick ms => exact ⟨h.leased, h.exclusive⟩

/-- A re-entrant acquisition succeeds, beside the run that is active. -/
theorem Held.reentrant (h : Held w) (hreentrant : ¬event.NotReentrant w) :
    ¬(event.exec w).Exclusive := by
  cases event with
  | acquire resource owner ttlMs waitedMs =>
    simp only [LeaseEvent.NotReentrant, not_forall, not_not] at hreentrant
    obtain ⟨run, hrun, rfl, rfl⟩ := hreentrant
    obtain ⟨held, hheld, howner, -⟩ := h.leased run hrun
    obtain ⟨refreshed, hacquired⟩ :=
      WorkerLeaseRepository.acquire_own hheld howner ttlMs (w.nowMs - waitedMs)
    intro hexclusive
    simp only [LeaseEvent.exec, hacquired, LeaseWorld.Exclusive, List.map_cons] at hexclusive
    exact (List.nodup_cons.1 hexclusive).1 (List.mem_map_of_mem hrun)
  | _ => exact absurd trivial hreentrant

theorem Throughout.now {fact : LeaseWorld → Prop} (h : Throughout fact w events) : fact w := by
  cases events with
  | nil => exact h
  | cons event events => exact h.1

/-- From any world in which the leases are held, exclusion holds throughout exactly when no
    acquisition is re-entrant. -/
theorem Held.exclusive_iff (h : Held w) (htimely : Throughout LeaseWorld.Timely w events) :
    Throughout LeaseWorld.Exclusive w events ↔ NeverReentrant w events := by
  induction events generalizing w with
  | nil => exact iff_of_true h.exclusive trivial
  | cons event events ih =>
    obtain ⟨hnow, hlater⟩ := htimely
    by_cases hfree : event.NotReentrant w
    · have hrest := ih (h.exec hnow hfree) hlater
      exact ⟨fun hexclusive => ⟨hfree, hrest.1 hexclusive.2⟩,
        fun hnever => ⟨h.exclusive, hrest.2 hnever.2⟩⟩
    · exact iff_of_false (fun hexclusive => h.reentrant hfree hexclusive.2.now)
        fun hnever => hfree hnever.1

/-- Over every schedule in which each run ends within its lease's time to live, at most one run is
    active per resource exactly when no owner acquires a resource on which a run of its own is
    active. -/
theorem leases_exclusive_iff (hidle : w.active = [])
    (htimely : Throughout LeaseWorld.Timely w events) :
    Throughout LeaseWorld.Exclusive w events ↔ NeverReentrant w events := by
  refine Held.exclusive_iff ⟨fun run hrun => ?_, ?_⟩ htimely
  · rw [hidle] at hrun
    cases hrun
  · rw [LeaseWorld.Exclusive, hidle]
    exact .nil

/-- Two engines that run the same worker, the second one after the first has finished. -/
def alternatingEngines : List LeaseEvent :=
  [.runWorker "app" "reclaimBatch", .runWorker "background" "reclaimBatch",
    .finish ⟨"worker:reclaimBatch", "app", 600000⟩, .runWorker "background" "reclaimBatch"]

def idleWorld : LeaseWorld := ⟨fun _ => none, [], 0⟩

theorem alternatingEngines_exclusive :
    Throughout LeaseWorld.Exclusive idleWorld alternatingEngines := by
  have htimely : Throughout LeaseWorld.Timely idleWorld alternatingEngines := by decide
  exact (leases_exclusive_iff rfl htimely).2 (by decide)

/-- An engine that starts a worker again while it runs. When one of the two runs ends, its release
    takes the lease of the other, and a second engine starts the worker too. -/
def overlappingRuns : List LeaseEvent :=
  [.runWorker "app" "reclaimBatch", .runWorker "app" "reclaimBatch",
    .finish ⟨"worker:reclaimBatch", "app", 600000⟩, .runWorker "background" "reclaimBatch"]

theorem overlappingRuns_overlap :
    Throughout LeaseWorld.Timely idleWorld overlappingRuns ∧
      ¬Throughout LeaseWorld.Exclusive idleWorld overlappingRuns ∧
      ((overlappingRuns.foldl LeaseEvent.exec idleWorld).active.map (·.owner)) =
        ["background", "app"] := by
  refine ⟨by decide, by decide, by decide⟩

end Leases

end cemp.sync
