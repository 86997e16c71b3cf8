import CempMobile.App.HeadlessTask

/-! Runs of background ticks, in any order of what happens. -/

namespace cemp.app.headless

open State

def Worker.task (worker : Worker) (taskId : Nat) : Task := ⟨worker.reactContext, taskId⟩

variable {s : State} {tickId : Nat} {worker : Worker} {task : Task}

/-- What holds of a worker. -/
structure Fits (s : State) (tickId : Nat) (worker : Worker) : Prop where
  known : tickId ≤ s.lastTickId
  numbered : ∀ taskId ∈ worker.startedTaskId, taskId ≤ s.lastTaskId worker.reactContext
  completed : worker.finished = some .completed →
    ∃ taskId ∈ worker.startedTaskId, worker.task taskId ∈ s.announced
  failed : worker.finished = some .exceptionally → worker.startedTaskId = none
  ended : ∀ result taskId, worker.ended = some (result, some taskId) →
    worker.startedTaskId = some taskId ∧ s.pending tickId = none
  success : ∀ taskId?, worker.ended = some (.success, taskId?) →
    worker.finished = some .completed ∧ taskId? = worker.startedTaskId
  awaitsStart : worker.ended = none → worker.startedTaskId = none →
    .start tickId ∈ s.ui ∨ worker.finished = some .exceptionally
  awaitsEnd : worker.ended = none → ∀ taskId ∈ worker.startedTaskId,
    (s.active (worker.task taskId) = true ∧ s.pending tickId = some (worker.task taskId)) ∨
      .finish (worker.task taskId) ∈ s.ui ∨ worker.finished = some .completed

/-- What holds in every state. -/
structure Sound (s : State) : Prop where
  workers : ∀ tickId worker, s.workers tickId = some worker → Fits s tickId worker
  distinct : ∀ tickId tickId' worker worker' taskId, s.workers tickId = some worker →
    s.workers tickId' = some worker' → worker.startedTaskId = some taskId →
      worker'.startedTaskId = some taskId → worker.reactContext = worker'.reactContext →
        tickId = tickId'
  pending : ∀ tickId task, s.pending tickId = some task → ∃ worker, s.workers tickId = some worker ∧
    worker.startedTaskId = some task.taskId ∧ worker.task task.taskId = task
  active : ∀ task, s.active task = true →
    task.taskId ≤ s.lastTaskId task.reactContext ∧ task ∉ s.announced
  announced : ∀ task ∈ s.announced, task.taskId ≤ s.lastTaskId task.reactContext
  nodup : s.announced.Nodup
  finishes : ∀ task, .finish task ∈ s.ui → task ∈ s.announced
  starts : ∀ tickId, .start tickId ∈ s.ui → ∃ worker, s.workers tickId = some worker ∧
    worker.startedTaskId = none ∧ worker.finished = none
  queue : s.ui.Nodup

theorem sound_init : Sound .init where
  workers _ _ h := by cases h
  distinct _ _ _ _ _ h := by cases h
  pending _ _ h := by cases h
  active _ h := by cases h
  announced _ h := by cases h
  nodup := List.nodup_nil
  finishes _ h := by cases h
  starts _ h := by cases h
  queue := List.nodup_nil

/-! ### The end of a task -/

/-- An active task ends, while the registry forgets a tick or not. -/
def announce (task : Task) (pending : Nat → Option Task) (s : State) : State :=
  { s with
    pending := pending
    active := Function.update s.active task false
    ui := s.ui ++ [.finish task]
    announced := task :: s.announced }

theorem Sound.announce {pending : Nat → Option Task} (h : Sound s) (hactive : s.active task = true)
    (hpending : ∀ tickId, pending tickId = s.pending tickId ∨
      pending tickId = none ∧ s.pending tickId = some task) :
    Sound (headless.announce task pending s) where
  workers tickId worker hworker := by
    have hfits := h.workers tickId worker hworker
    refine
      { known := hfits.known
        numbered := hfits.numbered
        completed := fun hcompleted => ?_
        failed := hfits.failed
        ended := fun result taskId hended => ?_
        success := hfits.success
        awaitsStart := fun hended hstarted => ?_
        awaitsEnd := fun hended taskId htask => ?_ }
    · obtain ⟨taskId, htask, hmem⟩ := hfits.completed hcompleted
      exact ⟨taskId, htask, List.mem_cons_of_mem _ hmem⟩
    · obtain ⟨hstarted, hnone⟩ := hfits.ended result taskId hended
      obtain heq | ⟨heq, -⟩ := hpending tickId
      · exact ⟨hstarted, heq.trans hnone⟩
      · exact ⟨hstarted, heq⟩
    · obtain hmem | hfailed := hfits.awaitsStart hended hstarted
      · exact .inl (List.mem_append_left _ hmem)
      · exact .inr hfailed
    · by_cases hsame : worker.task taskId = task
      · exact .inr (.inl (List.mem_append_right _ (hsame ▸ List.mem_singleton_self _)))
      · obtain ⟨hown, hregistered⟩ | hmem | hcompleted := hfits.awaitsEnd hended taskId htask
        · obtain heq | ⟨-, hother⟩ := hpending tickId
          · exact .inl ⟨(Function.update_of_ne hsame ..).trans hown, heq.trans hregistered⟩
          · exact absurd (Option.some.inj (hregistered.symm.trans hother)) hsame
        · exact .inr (.inl (List.mem_append_left _ hmem))
        · exact .inr (.inr hcompleted)
  distinct := h.distinct
  pending tickId task' htask := by
    obtain heq | ⟨heq, -⟩ := hpending tickId
    · exact h.pending tickId task' (heq.symm.trans htask)
    · cases heq.symm.trans htask
  active task' htask := by
    by_cases hsame : task' = task
    · subst hsame
      simp [headless.announce] at htask
    · have hactive' : s.active task' = true := (Function.update_of_ne hsame ..).symm.trans htask
      obtain ⟨hle, hnot⟩ := h.active task' hactive'
      exact ⟨hle, List.not_mem_cons_of_ne_of_not_mem hsame hnot⟩
  announced task' htask := by
    obtain rfl | htask := List.mem_cons.1 htask
    · exact (h.active _ hactive).1
    · exact h.announced task' htask
  nodup := List.nodup_cons.2 ⟨(h.active task hactive).2, h.nodup⟩
  finishes task' htask := by
    obtain htask | htask := List.mem_append.1 htask
    · exact List.mem_cons_of_mem _ (h.finishes task' htask)
    · obtain heq := List.mem_singleton.1 htask
      cases heq
      exact List.mem_cons_self
  starts tickId hstart := by
    obtain hstart | hstart := List.mem_append.1 hstart
    · exact h.starts tickId hstart
    · cases List.mem_singleton.1 hstart
  queue := by
    refine List.Nodup.append h.queue (List.nodup_singleton _) ?_
    rw [List.disjoint_singleton]
    exact fun hmem => (h.active task hactive).2 (h.finishes task hmem)

theorem Sound.finishTask (h : Sound s) (task : Task) : Sound (s.finishTask task) := by
  unfold State.finishTask
  split
  · next hactive => exact h.announce hactive fun _ => .inl rfl
  · exact h

/-- A signal of JavaScript. Where the task is not active any more, its end was announced before. -/
theorem Sound.finish (h : Sound s) (tickId : Nat) : Sound (s.finish tickId) := by
  unfold State.finish
  split
  · exact h
  · next task hpending =>
    by_cases hactive : s.active task = true
    · have hfinish : State.finishTask task
          { s with pending := Function.update s.pending tickId none } =
          headless.announce task (Function.update s.pending tickId none) s := if_pos hactive
      rw [hfinish]
      refine h.announce hactive fun tickId' => ?_
      by_cases hsame : tickId' = tickId
      · exact .inr ⟨hsame ▸ Function.update_self .., hsame ▸ hpending⟩
      · exact .inl (Function.update_of_ne hsame ..)
    · have hfinish : State.finishTask task
          { s with pending := Function.update s.pending tickId none } =
          { s with pending := Function.update s.pending tickId none } := if_neg hactive
      rw [hfinish]
      have hcases : ∀ tickId', Function.update s.pending tickId none tickId' = s.pending tickId' ∨
          Function.update s.pending tickId none tickId' = none ∧ s.pending tickId' = some task := by
        intro tickId'
        by_cases hsame : tickId' = tickId
        · exact .inr ⟨hsame ▸ Function.update_self .., hsame ▸ hpending⟩
        · exact .inl (Function.update_of_ne hsame ..)
      refine
        { h with
          workers := fun tickId' worker hworker => ?_
          pending := fun tickId' task' htask => ?_ }
      · have hfits := h.workers tickId' worker hworker
        refine
          { hfits with
            ended := fun result taskId hended => ?_
            awaitsEnd := fun hended taskId htask => ?_ }
        · obtain ⟨hstarted, hnone⟩ := hfits.ended result taskId hended
          obtain heq | ⟨heq, -⟩ := hcases tickId'
          · exact ⟨hstarted, heq.trans hnone⟩
          · exact ⟨hstarted, heq⟩
        · obtain ⟨hown, hregistered⟩ | hrest := hfits.awaitsEnd hended taskId htask
          · obtain heq | ⟨-, hother⟩ := hcases tickId'
            · exact .inl ⟨hown, heq.trans hregistered⟩
            · obtain rfl := Option.some.inj (hregistered.symm.trans hother)
              exact absurd hown hactive
          · exact .inr hrest
      · obtain heq | ⟨heq, -⟩ := hcases tickId'
        · exact h.pending tickId' task' (heq.symm.trans htask)
        · cases heq.symm.trans htask

/-! ### Workers -/

/-- What a worker has started stays as it is. -/
def Alike (s s' : State) : Prop :=
  ∀ tickId, (s'.workers tickId).map (fun worker => (worker.reactContext, worker.startedTaskId)) =
    (s.workers tickId).map fun worker => (worker.reactContext, worker.startedTaskId)

theorem Alike.before {s' : State} (h : Alike s s') (hworker : s'.workers tickId = some worker) :
    ∃ before, s.workers tickId = some before ∧ before.reactContext = worker.reactContext ∧
      before.startedTaskId = worker.startedTaskId := by
  have hsame := h tickId
  rw [hworker, Option.map_some, eq_comm, Option.map_eq_some_iff] at hsame
  obtain ⟨before, hbefore, heq⟩ := hsame
  obtain ⟨hcontext, hstarted⟩ := Prod.mk.inj heq
  exact ⟨before, hbefore, hcontext, hstarted⟩

theorem Alike.after {s' : State} (h : Alike s s') (hworker : s.workers tickId = some worker) :
    ∃ after, s'.workers tickId = some after ∧ after.reactContext = worker.reactContext ∧
      after.startedTaskId = worker.startedTaskId := by
  have hsame := h tickId
  rw [hworker, Option.map_some, Option.map_eq_some_iff] at hsame
  obtain ⟨after, hafter, heq⟩ := hsame
  obtain ⟨hcontext, hstarted⟩ := Prod.mk.inj heq
  exact ⟨after, hafter, hcontext, hstarted⟩

theorem Alike.distinct {s' : State} (halike : Alike s s') (h : Sound s) (tickId tickId' : Nat)
    (worker worker' : Worker) (taskId : Nat) (hworker : s'.workers tickId = some worker)
    (hworker' : s'.workers tickId' = some worker') (hstarted : worker.startedTaskId = some taskId)
    (hstarted' : worker'.startedTaskId = some taskId)
    (hcontext : worker.reactContext = worker'.reactContext) : tickId = tickId' := by
  obtain ⟨before, hbefore, hsame, hsameTask⟩ := halike.before hworker
  obtain ⟨before', hbefore', hsame', hsameTask'⟩ := halike.before hworker'
  exact h.distinct tickId tickId' before before' taskId hbefore hbefore'
    (hsameTask.trans hstarted) (hsameTask'.trans hstarted')
    (hsame.trans (hcontext.trans hsame'.symm))

theorem Alike.pending {s' : State} (halike : Alike s s') (h : Sound s) (tickId : Nat) (task : Task)
    (htask : s.pending tickId = some task) : ∃ worker, s'.workers tickId = some worker ∧
      worker.startedTaskId = some task.taskId ∧ worker.task task.taskId = task := by
  obtain ⟨worker, hworker, hstarted, hown⟩ := h.pending tickId task htask
  obtain ⟨after, hafter, hcontext, hsame⟩ := halike.after hworker
  refine ⟨after, hafter, hsame.trans hstarted, ?_⟩
  rwa [Worker.task, hcontext]

theorem alike_update {s' : State} {after : Worker} (hworker : s.workers tickId = some worker)
    (hworkers : s'.workers = Function.update s.workers tickId (some after))
    (hcontext : after.reactContext = worker.reactContext)
    (hstarted : after.startedTaskId = worker.startedTaskId) : Alike s s' := by
  intro tickId'
  rw [hworkers]
  by_cases hsame : tickId' = tickId
  · subst hsame
    rw [Function.update_self, hworker, Option.map_some, Option.map_some, hcontext, hstarted]
  · rw [Function.update_of_ne hsame]

/-- A worker that has not ended leaves, and successfully if its task ended only. -/
theorem Sound.leave {result : Result} (h : Sound s) (hworker : s.workers tickId = some worker)
    (hresult : result = .success → worker.finished = some .completed) :
    Sound (s.leave tickId worker result) := by
  have hfits := h.workers tickId worker hworker
  have halike : Alike s (s.leave tickId worker result) := alike_update hworker rfl rfl rfl
  refine
    { h with
      workers := fun tickId' worker' hworker' => ?_
      distinct := halike.distinct h
      pending := fun tickId' task htask => ?_
      starts := fun tickId' hstart => ?_ }
  · by_cases hsame : tickId' = tickId
    · subst hsame
      obtain rfl := Option.some.inj (workers_leave_self.symm.trans hworker')
      exact
        { hfits with
          ended := fun _ taskId heq => by
            obtain ⟨-, hstarted⟩ := Prod.mk.inj (Option.some.inj heq)
            exact ⟨hstarted, pending_leave_self⟩
          success := fun _ heq => by
            obtain ⟨hsuccess, hstarted⟩ := Prod.mk.inj (Option.some.inj heq)
            exact ⟨hresult hsuccess, hstarted.symm⟩
          awaitsStart := fun hnone => by cases hnone
          awaitsEnd := fun hnone => by cases hnone }
    · have hbefore : s.workers tickId' = some worker' :=
        (workers_leave_of_ne hsame).symm.trans hworker'
      have hpending : (s.leave tickId worker result).pending tickId' = s.pending tickId' :=
        pending_leave_of_ne hsame
      have hother := h.workers tickId' worker' hbefore
      exact
        { hother with
          ended := fun result taskId heq => by
            rw [hpending]
            exact hother.ended result taskId heq
          awaitsEnd := by
            rw [hpending]
            exact hother.awaitsEnd }
  · by_cases hsame : tickId' = tickId
    · subst hsame
      cases pending_leave_self.symm.trans htask
    · exact halike.pending h tickId' task ((pending_leave_of_ne hsame).symm.trans htask)
  · obtain ⟨before, hbefore, hstarted, hfinished⟩ := h.starts tickId' hstart
    by_cases hsame : tickId' = tickId
    · subst hsame
      obtain rfl := Option.some.inj (hworker.symm.trans hbefore)
      exact ⟨_, workers_leave_self, hstarted, hfinished⟩
    · exact ⟨before, (workers_leave_of_ne hsame).trans hbefore, hstarted, hfinished⟩

/-! ### Jobs of the UI thread -/

theorem mem_rest {job job' : UiJob} {rest : List UiJob} (hui : s.ui = job :: rest)
    (hmem : job' ∈ s.ui) (hne : job' ≠ job) : job' ∈ rest := by
  rw [hui] at hmem
  exact (List.mem_cons.1 hmem).resolve_left hne

theorem mem_ui {job job' : UiJob} {rest : List UiJob} (hui : s.ui = job :: rest)
    (hmem : job' ∈ rest) : job' ∈ s.ui := by
  rw [hui]
  exact List.mem_cons_of_mem _ hmem

/-- The start of a tick's task is queued once. -/
theorem Sound.other_start {rest : List UiJob} (h : Sound s) (hui : s.ui = .start tickId :: rest)
    {tickId' : Nat} (hstart : .start tickId' ∈ rest) : tickId' ≠ tickId := by
  rintro rfl
  have hqueue := h.queue
  rw [hui, List.nodup_cons] at hqueue
  exact hqueue.1 hstart

theorem Sound.rest_nodup {job : UiJob} {rest : List UiJob} (h : Sound s)
    (hui : s.ui = job :: rest) : rest.Nodup := by
  have hqueue := h.queue
  rw [hui, List.nodup_cons] at hqueue
  exact hqueue.2

/-- Once another tick's start is taken from the queue, a worker waits for its own as before. -/
theorem Fits.dequeued {rest : List UiJob} {tickId' : Nat} {worker' : Worker}
    (h : Fits s tickId' worker') (hui : s.ui = .start tickId :: rest) (hother : tickId' ≠ tickId) :
    Fits { s with ui := rest } tickId' worker' := by
  refine
    { h with
      awaitsStart := fun hended hnone => ?_
      awaitsEnd := fun hended taskId htask => ?_ }
  · refine (h.awaitsStart hended hnone).imp_left fun hmem => mem_rest hui hmem ?_
    intro heq
    exact hother (UiJob.start.inj heq)
  · refine (h.awaitsEnd hended taskId htask).imp_right (Or.imp_left fun hmem => ?_)
    exact mem_rest hui hmem (fun heq => by cases heq)

theorem Sound.complete {rest : List UiJob} (h : Sound s) (hui : s.ui = .start tickId :: rest)
    (hworker : s.workers tickId = some worker) :
    Sound (State.complete tickId worker .exceptionally { s with ui := rest }) := by
  obtain ⟨worker', hworker', hstarted, hfinished⟩ := h.starts tickId (hui ▸ List.mem_cons_self)
  obtain rfl := Option.some.inj (hworker.symm.trans hworker')
  have hfits := h.workers tickId worker hworker
  have halike : Alike s (State.complete tickId worker .exceptionally { s with ui := rest }) :=
    alike_update hworker rfl rfl rfl
  refine
    { h with
      workers := fun tickId' worker' hworker' => ?_
      distinct := halike.distinct h
      pending := halike.pending h
      finishes := fun task hmem => h.finishes task (mem_ui hui hmem)
      starts := fun tickId' hmem => ?_
      queue := h.rest_nodup hui }
  · by_cases hsame : tickId' = tickId
    · subst hsame
      obtain rfl := Option.some.inj (workers_complete_self.symm.trans hworker')
      have hexceptionally : worker.finished.getD .exceptionally = .exceptionally := by
        rw [hfinished]
        rfl
      exact
        { hfits with
          completed := fun hcompleted => by
            rw [hexceptionally] at hcompleted
            cases hcompleted
          failed := fun _ => hstarted
          success := fun taskId? hended => by
            have hcompleted := (hfits.success taskId? hended).1
            rw [hfinished] at hcompleted
            cases hcompleted
          awaitsStart := fun _ _ => .inr (congrArg some hexceptionally)
          awaitsEnd := fun _ taskId htask => by
            rw [hstarted] at htask
            cases htask }
    · have hother := h.workers tickId' worker' ((workers_complete_of_ne hsame).symm.trans hworker')
      exact { hother.dequeued hui hsame with }
  · have hne := h.other_start hui hmem
    obtain ⟨worker', hworker', hrest⟩ := h.starts tickId' (mem_ui hui hmem)
    exact ⟨worker', (workers_complete_of_ne hne).trans hworker', hrest⟩

theorem lastTaskId_startTask_le (tickId reactContext : Nat) :
    s.lastTaskId reactContext ≤ (s.startTask tickId worker).lastTaskId reactContext := by
  by_cases hsame : reactContext = worker.reactContext
  · subst hsame
    rw [lastTaskId_startTask_self]
    exact Nat.le_succ _
  · exact Nat.le_of_eq (lastTaskId_startTask_of_ne hsame).symm

/-- A task that is numbered already is not the one that starts. -/
theorem active_startTask (htask : task.taskId ≤ s.lastTaskId task.reactContext) :
    (s.startTask tickId worker).active task = s.active task := by
  refine active_startTask_of_ne ?_
  rintro rfl
  exact Nat.not_succ_le_self _ htask

/-- The next number is new: no worker has started a task that is called so. -/
theorem Sound.number_fresh (h : Sound s) {tickId' : Nat} {worker' : Worker}
    (hworker' : s.workers tickId' = some worker')
    (hcontext : worker'.reactContext = worker.reactContext) :
    worker'.startedTaskId ≠ some (s.lastTaskId worker.reactContext + 1) := by
  intro htask
  have hle := (h.workers tickId' worker' hworker').numbered _ htask
  rw [hcontext] at hle
  exact Nat.not_succ_le_self _ hle

/-- The worker whose task starts has had no other end before. -/
theorem Fits.startTask_self {rest : List UiJob} (h : Fits s tickId worker)
    (hstarted : worker.startedTaskId = none) (hfinished : worker.finished = none) :
    Fits (State.startTask tickId worker { s with ui := rest }) tickId
      { worker with startedTaskId := some (s.lastTaskId worker.reactContext + 1) } := by
  refine
    { known := h.known
      numbered := fun taskId htask => ?_
      completed := fun hcompleted => ?_
      failed := fun hfailed => ?_
      ended := fun result taskId hended => ?_
      success := fun taskId? hended => ?_
      awaitsStart := fun _ hnone => by cases hnone
      awaitsEnd := fun _ taskId htask => ?_ }
  · obtain rfl := Option.some.inj htask
    have hself : (State.startTask tickId worker { s with ui := rest }).lastTaskId
        worker.reactContext = s.lastTaskId worker.reactContext + 1 := lastTaskId_startTask_self
    exact Nat.le_of_eq hself.symm
  · cases hfinished.symm.trans hcompleted
  · cases hfinished.symm.trans hfailed
  · cases hstarted.symm.trans (h.ended result taskId hended).1
  · cases hfinished.symm.trans (h.success taskId? hended).1
  · obtain rfl := Option.some.inj htask
    exact .inl ⟨active_startTask_self, pending_startTask_self⟩

/-- The start of a task leaves the other workers as they are. -/
theorem Fits.startTask_of_ne {tickId' : Nat} {worker' : Worker} (h : Fits s tickId' worker')
    (hother : tickId' ≠ tickId) : Fits (s.startTask tickId worker) tickId' worker' := by
  have hactive : ∀ taskId ∈ worker'.startedTaskId,
      (s.startTask tickId worker).active (worker'.task taskId) = s.active (worker'.task taskId) :=
    fun taskId htask => active_startTask (h.numbered taskId htask)
  have hpending : (s.startTask tickId worker).pending tickId' = s.pending tickId' :=
    pending_startTask_of_ne hother
  refine
    { h with
      numbered := fun taskId htask =>
        Nat.le_trans (h.numbered taskId htask) (lastTaskId_startTask_le _ _)
      ended := fun result taskId hended => ?_
      awaitsEnd := fun hended taskId htask => ?_ }
  · rw [hpending]
    exact h.ended result taskId hended
  · rw [hactive taskId htask, hpending]
    exact h.awaitsEnd hended taskId htask

theorem Sound.startTask_distinct (h : Sound s) {tickId₁ tickId₂ taskId : Nat}
    {worker₁ worker₂ : Worker}
    (hworker₁ : (s.startTask tickId worker).workers tickId₁ = some worker₁)
    (hworker₂ : (s.startTask tickId worker).workers tickId₂ = some worker₂)
    (htask₁ : worker₁.startedTaskId = some taskId) (htask₂ : worker₂.startedTaskId = some taskId)
    (hcontext : worker₁.reactContext = worker₂.reactContext) : tickId₁ = tickId₂ := by
  by_cases hsame₁ : tickId₁ = tickId
  · by_cases hsame₂ : tickId₂ = tickId
    · exact hsame₁.trans hsame₂.symm
    · subst hsame₁
      obtain rfl := Option.some.inj (workers_startTask_self.symm.trans hworker₁)
      obtain rfl := Option.some.inj htask₁
      have hbefore₂ := (workers_startTask_of_ne hsame₂).symm.trans hworker₂
      exact absurd htask₂ (h.number_fresh hbefore₂ hcontext.symm)
  · have hbefore₁ := (workers_startTask_of_ne hsame₁).symm.trans hworker₁
    by_cases hsame₂ : tickId₂ = tickId
    · subst hsame₂
      obtain rfl := Option.some.inj (workers_startTask_self.symm.trans hworker₂)
      obtain rfl := Option.some.inj htask₂
      exact absurd htask₁ (h.number_fresh hbefore₁ hcontext)
    · have hbefore₂ := (workers_startTask_of_ne hsame₂).symm.trans hworker₂
      exact h.distinct tickId₁ tickId₂ worker₁ worker₂ taskId hbefore₁ hbefore₂ htask₁ htask₂
        hcontext

theorem Sound.startTask_active (h : Sound s) (tickId : Nat)
    (hactive : (s.startTask tickId worker).active task = true) :
    task.taskId ≤ (s.startTask tickId worker).lastTaskId task.reactContext ∧
      task ∉ s.announced := by
  by_cases hsame : task = ⟨worker.reactContext, s.lastTaskId worker.reactContext + 1⟩
  · subst hsame
    refine ⟨Nat.le_of_eq lastTaskId_startTask_self.symm, fun hmem => ?_⟩
    exact Nat.not_succ_le_self _ (h.announced _ hmem)
  · obtain ⟨hbound, hnot⟩ := h.active task ((active_startTask_of_ne hsame).symm.trans hactive)
    exact ⟨Nat.le_trans hbound (lastTaskId_startTask_le _ _), hnot⟩

theorem Sound.startTask {rest : List UiJob} (h : Sound s) (hui : s.ui = .start tickId :: rest)
    (hworker : s.workers tickId = some worker) :
    Sound (State.startTask tickId worker { s with ui := rest }) := by
  obtain ⟨worker', hworker', hstarted, hfinished⟩ := h.starts tickId (hui ▸ List.mem_cons_self)
  obtain rfl := Option.some.inj (hworker.symm.trans hworker')
  refine
    { workers := fun tickId' worker' hworker' => ?_
      distinct := fun _ _ _ _ _ hworker₁ hworker₂ htask₁ htask₂ hcontext =>
        h.startTask_distinct hworker₁ hworker₂ htask₁ htask₂ hcontext
      pending := fun tickId' task htask => ?_
      active := fun task hactive => h.startTask_active tickId hactive
      announced := fun task hmem =>
        Nat.le_trans (h.announced task hmem) (lastTaskId_startTask_le tickId _)
      nodup := h.nodup
      finishes := fun task hmem => h.finishes task (mem_ui hui hmem)
      starts := fun tickId' hmem => ?_
      queue := h.rest_nodup hui }
  · by_cases hsame : tickId' = tickId
    · subst hsame
      obtain rfl := Option.some.inj (workers_startTask_self.symm.trans hworker')
      exact (h.workers tickId' worker hworker).startTask_self hstarted hfinished
    · have hbefore := (workers_startTask_of_ne hsame).symm.trans hworker'
      exact ((h.workers tickId' worker' hbefore).dequeued hui hsame).startTask_of_ne hsame
  · by_cases hsame : tickId' = tickId
    · subst hsame
      obtain rfl := Option.some.inj (pending_startTask_self.symm.trans htask)
      exact ⟨_, workers_startTask_self, rfl, rfl⟩
    · obtain ⟨worker', hworker', hrest⟩ :=
        h.pending tickId' task ((pending_startTask_of_ne hsame).symm.trans htask)
      exact ⟨worker', (workers_startTask_of_ne hsame).trans hworker', hrest⟩
  · have hne := h.other_start hui hmem
    obtain ⟨worker', hworker', hrest⟩ := h.starts tickId' (mem_ui hui hmem)
    exact ⟨worker', (workers_startTask_of_ne hne).trans hworker', hrest⟩

/-- A listener changes nothing but whether its own worker's wait is over. -/
theorem listen_cases (task : Task) (worker : Worker) :
    (worker.ended = none ∧ ∃ taskId, worker.startedTaskId = some taskId ∧
        worker.task taskId = task ∧ State.listen task worker =
          { worker with finished := some (worker.finished.getD .completed) }) ∨
      (State.listen task worker = worker ∧ (worker.ended = none →
        ∀ taskId ∈ worker.startedTaskId, worker.task taskId ≠ task)) := by
  unfold State.listen
  split
  · next hown =>
    obtain ⟨hended, hcontext, hstarted⟩ := hown
    refine .inl ⟨hended, task.taskId, hstarted, ?_, rfl⟩
    rw [Worker.task, hcontext]
  · next hother =>
    refine .inr ⟨rfl, ?_⟩
    rintro hended taskId htask rfl
    exact hother ⟨hended, rfl, htask⟩

/-- The wait of a worker whose task has started never ends otherwise. -/
theorem Fits.getD_completed {taskId : Nat} (h : Fits s tickId worker)
    (hstarted : worker.startedTaskId = some taskId) :
    worker.finished.getD .completed = .completed := by
  cases hcase : worker.finished with
  | none => rfl
  | some how =>
    cases how with
    | completed => rfl
    | exceptionally => cases hstarted.symm.trans (h.failed hcase)

theorem Sound.listen {rest : List UiJob} (h : Sound s) (hui : s.ui = .finish task :: rest) :
    Sound { s with
      ui := rest, workers := fun tickId => (s.workers tickId).map (State.listen task) } := by
  have hannounced := h.finishes task (hui ▸ List.mem_cons_self)
  have hlisten : ∀ worker, (State.listen task worker).reactContext = worker.reactContext ∧
      (State.listen task worker).startedTaskId = worker.startedTaskId := by
    intro worker
    obtain ⟨-, -, -, -, heq⟩ | ⟨heq, -⟩ := listen_cases task worker
    · rw [heq]
      exact ⟨rfl, rfl⟩
    · rw [heq]
      exact ⟨rfl, rfl⟩
  have halike : Alike s { s with
      ui := rest, workers := fun tickId => (s.workers tickId).map (State.listen task) } := by
    intro tickId
    simp only [Option.map_map]
    congr 1
    funext worker
    obtain ⟨hcontext, hstarted⟩ := hlisten worker
    simp only [Function.comp_apply, hcontext, hstarted]
  refine
    { h with
      workers := fun tickId worker' hworker' => ?_
      distinct := halike.distinct h
      pending := halike.pending h
      finishes := fun task hmem => h.finishes task (mem_ui hui hmem)
      starts := fun tickId hmem => ?_
      queue := h.rest_nodup hui }
  · obtain ⟨worker, hworker, rfl⟩ := Option.map_eq_some_iff.1 hworker'
    have hfits := h.workers tickId worker hworker
    obtain ⟨hended, taskId, hstarted, rfl, heq⟩ | ⟨heq, hother⟩ := listen_cases task worker
    · have hfinished := hfits.getD_completed hstarted
      rw [heq]
      exact
        { hfits with
          completed := fun _ => ⟨taskId, hstarted, hannounced⟩
          failed := fun hfailed => by
            rw [hfinished] at hfailed
            cases hfailed
          success := fun _ hsome => by cases hended.symm.trans hsome
          awaitsStart := fun _ hnone => by cases hstarted.symm.trans hnone
          awaitsEnd := fun _ _ _ => .inr (.inr (congrArg some hfinished)) }
    · rw [heq]
      refine
        { hfits with
          awaitsStart := fun hended hnone => ?_
          awaitsEnd := fun hended taskId htask => ?_ }
      · refine (hfits.awaitsStart hended hnone).imp_left fun hmem => ?_
        exact mem_rest hui hmem (fun heq => by cases heq)
      · refine (hfits.awaitsEnd hended taskId htask).imp_right (Or.imp_left fun hmem => ?_)
        exact mem_rest hui hmem fun heq => hother hended taskId htask (UiJob.finish.inj heq)
  · obtain ⟨worker, hworker, hstarted, hfinished⟩ := h.starts tickId (mem_ui hui hmem)
    obtain ⟨-, taskId, hsome, -⟩ | ⟨heq, -⟩ := listen_cases task worker
    · cases hstarted.symm.trans hsome
    · refine ⟨worker, ?_, hstarted, hfinished⟩
      simp only [hworker, Option.map_some, heq]

/-! ### A new worker -/

/-- No worker has the next tick id. -/
theorem Sound.workers_fresh (h : Sound s) : s.workers (s.lastTickId + 1) = none := by
  cases hworker : s.workers (s.lastTickId + 1) with
  | none => rfl
  | some worker => exact absurd (h.workers _ worker hworker).known (Nat.not_succ_le_self _)

theorem Sound.pending_fresh (h : Sound s) : s.pending (s.lastTickId + 1) = none := by
  cases hpending : s.pending (s.lastTickId + 1) with
  | none => rfl
  | some task =>
    obtain ⟨worker, hworker, -⟩ := h.pending _ task hpending
    cases h.workers_fresh.symm.trans hworker

theorem Sound.ne_fresh (h : Sound s) (hworker : s.workers tickId = some worker) :
    tickId ≠ s.lastTickId + 1 := by
  rintro rfl
  cases h.workers_fresh.symm.trans hworker

/-- A new worker has not started a task. -/
theorem Sound.enter_distinct {after : Worker} (h : Sound s) (hstarted : after.startedTaskId = none)
    {tickId₁ tickId₂ taskId : Nat} {worker₁ worker₂ : Worker}
    (hworker₁ : (s.enter after).workers tickId₁ = some worker₁)
    (hworker₂ : (s.enter after).workers tickId₂ = some worker₂)
    (htask₁ : worker₁.startedTaskId = some taskId) (htask₂ : worker₂.startedTaskId = some taskId)
    (hcontext : worker₁.reactContext = worker₂.reactContext) : tickId₁ = tickId₂ := by
  have hbefore : ∀ {tickId worker}, (s.enter after).workers tickId = some worker →
      worker.startedTaskId = some taskId → s.workers tickId = some worker := by
    intro tickId worker hworker htask
    by_cases hsame : tickId = s.lastTickId + 1
    · subst hsame
      obtain rfl := Option.some.inj (workers_enter_self.symm.trans hworker)
      cases hstarted.symm.trans htask
    · exact (workers_enter_of_ne hsame).symm.trans hworker
  exact h.distinct tickId₁ tickId₂ worker₁ worker₂ taskId (hbefore hworker₁ htask₁)
    (hbefore hworker₂ htask₂) htask₁ htask₂ hcontext

/-- A worker enters with the next tick id, and its start is queued unless it has failed. -/
theorem Sound.enter {after : Worker} {ui : List UiJob} (h : Sound s)
    (hstarted : after.startedTaskId = none) (hfinished : after.finished = none)
    (hended : after.ended = none ∧ ui = s.ui ++ [.start (s.lastTickId + 1)] ∨
      after.ended = some (.retry, none) ∧ ui = s.ui) :
    Sound { s.enter after with ui := ui } := by
  have hmem : ∀ job, job ∈ s.ui → job ∈ ui := by
    intro job hjob
    obtain ⟨-, rfl⟩ | ⟨-, rfl⟩ := hended
    · exact List.mem_append_left _ hjob
    · exact hjob
  have hmem' : ∀ job, job ∈ ui → job ∈ s.ui ∨
      job = .start (s.lastTickId + 1) ∧ after.ended = none := by
    intro job hjob
    obtain ⟨hnone, rfl⟩ | ⟨-, rfl⟩ := hended
    · obtain hjob | hjob := List.mem_append.1 hjob
      · exact .inl hjob
      · exact .inr ⟨List.mem_singleton.1 hjob, hnone⟩
    · exact .inl hjob
  refine
    { h with
      workers := fun tickId worker hworker => ?_
      distinct := fun _ _ _ _ _ hworker₁ hworker₂ htask₁ htask₂ hcontext =>
        h.enter_distinct hstarted hworker₁ hworker₂ htask₁ htask₂ hcontext
      pending := fun tickId task htask => ?_
      finishes := fun task hjob => ?_
      starts := fun tickId hjob => ?_
      queue := ?_ }
  · by_cases hsame : tickId = s.lastTickId + 1
    · subst hsame
      obtain rfl := Option.some.inj (workers_enter_self.symm.trans hworker)
      exact
        { known := Nat.le_refl _
          numbered := fun _ htask => by cases hstarted.symm.trans htask
          completed := fun hcompleted => by cases hfinished.symm.trans hcompleted
          failed := fun _ => hstarted
          ended := fun result taskId hsome => by
            obtain ⟨hnone, -⟩ | ⟨hretry, -⟩ := hended
            · cases hnone.symm.trans hsome
            · cases hretry.symm.trans hsome
          success := fun _ hsome => by
            obtain ⟨hnone, -⟩ | ⟨hretry, -⟩ := hended
            · cases hnone.symm.trans hsome
            · cases hretry.symm.trans hsome
          awaitsStart := fun hnone _ => by
            obtain ⟨-, rfl⟩ | ⟨hretry, -⟩ := hended
            · exact .inl (List.mem_append_right _ (List.mem_singleton_self _))
            · cases hretry.symm.trans hnone
          awaitsEnd := fun _ _ htask => by cases hstarted.symm.trans htask }
    · have hbefore := (workers_enter_of_ne hsame).symm.trans hworker
      have hfits := h.workers tickId worker hbefore
      exact
        { hfits with
          known := Nat.le_succ_of_le hfits.known
          awaitsStart := fun hnone hsome => (hfits.awaitsStart hnone hsome).imp_left (hmem _)
          awaitsEnd := fun hnone taskId htask =>
            (hfits.awaitsEnd hnone taskId htask).imp_right (Or.imp_left (hmem _)) }
  · obtain ⟨worker, hworker, hrest⟩ := h.pending tickId task htask
    exact ⟨worker, (workers_enter_of_ne (h.ne_fresh hworker)).trans hworker, hrest⟩
  · obtain hjob | ⟨hjob, -⟩ := hmem' _ hjob
    · exact h.finishes task hjob
    · cases hjob
  · obtain hjob | ⟨hjob, -⟩ := hmem' _ hjob
    · obtain ⟨worker, hworker, hrest⟩ := h.starts tickId hjob
      exact ⟨worker, (workers_enter_of_ne (h.ne_fresh hworker)).trans hworker, hrest⟩
    · obtain rfl := UiJob.start.inj hjob
      exact ⟨after, workers_enter_self, hstarted, hfinished⟩
  · obtain ⟨-, rfl⟩ | ⟨-, rfl⟩ := hended
    · refine List.Nodup.append h.queue (List.nodup_singleton _) ?_
      rw [List.disjoint_singleton]
      intro hjob
      obtain ⟨worker, hworker, -⟩ := h.starts _ hjob
      exact h.ne_fresh hworker rfl
    · exact h.queue

/-- A worker whose start was not posted leaves at once, and its tick was not registered. -/
theorem Sound.leave_enter (h : Sound s) : (s.enter worker).leave (s.lastTickId + 1) worker .retry =
    s.enter { worker with ended := some (.retry, worker.startedTaskId) } := by
  have hpending : Function.update s.pending (s.lastTickId + 1) none = s.pending :=
    Function.update_eq_self_iff.2 h.pending_fresh.symm
  simp only [State.leave, State.enter, Function.update_idem, hpending]

theorem Sound.step (h : Sound s) (event : Event) : Sound (headless.step s event) := by
  cases event with
  | runTask reactContext posted =>
    cases posted with
    | true => exact h.enter rfl rfl (.inl ⟨rfl, rfl⟩)
    | false =>
      have hleave : headless.step s (.runTask reactContext false) =
          s.enter ⟨reactContext, none, none, some (.retry, none)⟩ := h.leave_enter
      rw [hleave]
      exact h.enter rfl rfl (.inr ⟨rfl, rfl⟩)
  | ui throws =>
    simp only [headless.step]
    split
    · exact h
    · next tickId rest hui =>
      obtain ⟨worker, hworker, -⟩ := h.starts tickId (hui ▸ List.mem_cons_self)
      simp only [hworker]
      cases throws with
      | true => exact h.complete hui hworker
      | false => exact h.startTask hui hworker
    · next task rest hui => exact h.listen hui
  | notifyTaskFinished tickId => exact h.finish tickId
  | taskTimeout task => exact h.finishTask task
  | resume tickId =>
    simp only [headless.step]
    split
    · next worker hworker =>
      split
      · next hfinished => exact h.leave hworker fun _ => hfinished
      · exact h.leave hworker fun hsuccess => by cases hsuccess
      · exact h
    · exact h
  | cancel tickId =>
    simp only [headless.step]
    split
    · next worker hworker =>
      split
      · exact h.leave hworker fun hsuccess => by cases hsuccess
      · exact h
    · exact h

theorem Sound.run (h : Sound s) (events : List Event) : Sound (headless.run s events) := by
  induction events generalizing s with
  | nil => exact h
  | cons event events ih => exact ih (h.step event)

end cemp.app.headless
