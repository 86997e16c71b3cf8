import CempMobile.App.HeadlessRuns

/-! Signals of JavaScript that a tick is over: what they end, and that they do end it. -/

namespace cemp.app.headless

open State

variable {s : State} {tickId : Nat} {worker : Worker} {task : Task}

/-! ### What signals and ends are about -/

/-- A signal for a tick that is not registered does nothing. -/
theorem finish_of_none (h : s.pending tickId = none) : s.finish tickId = s := by
  unfold State.finish
  rw [h]

theorem announced_finishTask (task : Task) :
    (s.finishTask task).announced = s.announced ∨
      (s.finishTask task).announced = task :: s.announced := by
  unfold State.finishTask
  split
  · exact .inr rfl
  · exact .inl rfl

/-- A signal ends at most the task that the tick's own worker started. -/
theorem Sound.announced_finish (h : Sound s) (tickId : Nat) :
    (s.finish tickId).announced = s.announced ∨
      ∃ worker taskId, s.workers tickId = some worker ∧ worker.startedTaskId = some taskId ∧
        (s.finish tickId).announced = worker.task taskId :: s.announced := by
  unfold State.finish
  split
  · exact .inl rfl
  · next task hpending =>
    obtain ⟨worker, hworker, hstarted, hown⟩ := h.pending tickId task hpending
    obtain hsame | hmore := @announced_finishTask
      { s with pending := Function.update s.pending tickId none } task
    · exact .inl hsame
    · exact .inr ⟨worker, task.taskId, hworker, hstarted, hown ▸ hmore⟩

/-- A tick's task is over, and its worker has heard of it or will after `jobs` jobs at most. -/
def Signalled (tickId reactContext taskId jobs : Nat) (s : State) : Prop :=
  ∃ worker, s.workers tickId = some worker ∧ worker.reactContext = reactContext ∧
    worker.startedTaskId = some taskId ∧
      (worker.ended = some (.success, some taskId) ∨ worker.ended = none ∧
        (worker.finished = some .completed ∨ .finish ⟨reactContext, taskId⟩ ∈ s.ui.take jobs))

/-- How many jobs the UI thread is given the time for. -/
def served : List Event → Nat
  | [] => 0
  | .ui _ :: events => served events + 1
  | _ :: events => served events

variable {reactContext taskId jobs : Nat}

/-- What leaves the worker and the queue in front as they are. -/
theorem Signalled.keep {s' : State} (h : Signalled tickId reactContext taskId jobs s)
    (hworkers : s'.workers tickId = s.workers tickId) (hui : s.ui <+: s'.ui) :
    Signalled tickId reactContext taskId jobs s' := by
  obtain ⟨worker, hworker, hcontext, hstarted, hrest⟩ := h
  refine ⟨worker, hworkers.trans hworker, hcontext, hstarted, hrest.imp_right fun hwait => ?_⟩
  refine hwait.imp_right (Or.imp_right fun hmem => ?_)
  obtain ⟨more, hmore⟩ := hui
  rw [← hmore, List.take_append]
  exact List.mem_append_left _ hmem

theorem finishTask_frame (task : Task) :
    (s.finishTask task).workers = s.workers ∧ s.ui <+: (s.finishTask task).ui := by
  unfold State.finishTask
  split
  · exact ⟨rfl, List.prefix_append _ _⟩
  · exact ⟨rfl, List.prefix_rfl⟩

theorem finish_frame (tickId : Nat) :
    (s.finish tickId).workers = s.workers ∧ s.ui <+: (s.finish tickId).ui := by
  unfold State.finish
  split
  · exact ⟨rfl, List.prefix_rfl⟩
  · next task hpending => exact finishTask_frame (s := { s with pending := _ }) task

/-- The first job is the one that is waited for, or this one is a place nearer without it. -/
theorem mem_take_tail {job own : UiJob} {rest : List UiJob} (hui : s.ui = job :: rest)
    (hmem : own ∈ s.ui.take jobs) : job = own ∨ own ∈ rest.take (jobs - 1) := by
  cases jobs with
  | zero => cases hmem
  | succ jobs =>
    rw [hui, List.take_succ_cons] at hmem
    exact (List.mem_cons.1 hmem).imp_left Eq.symm

/-- A job of the UI thread: it is the listeners' for the task, or they are one place nearer. -/
theorem Signalled.ui (h : Signalled tickId reactContext taskId jobs s) (hsound : Sound s)
    (throws : Bool) :
    Signalled tickId reactContext taskId (jobs - 1) (headless.step s (.ui throws)) := by
  obtain ⟨worker, hworker, hcontext, hstarted, hrest⟩ := h
  simp only [headless.step]
  split
  · next hui =>
    refine ⟨worker, hworker, hcontext, hstarted, hrest.imp_right (And.imp_right (Or.imp_right ?_))⟩
    intro hmem
    rw [hui, List.take_nil] at hmem
    cases hmem
  · next tickId' rest hui =>
    obtain ⟨worker', hworker', hnone, -⟩ := hsound.starts tickId' (hui ▸ List.mem_cons_self)
    have hother : tickId ≠ tickId' := by
      rintro rfl
      obtain rfl := Option.some.inj (hworker.symm.trans hworker')
      cases hstarted.symm.trans hnone
    have hrest' : worker.ended = some (.success, some taskId) ∨ worker.ended = none ∧
        (worker.finished = some .completed ∨
          .finish ⟨reactContext, taskId⟩ ∈ rest.take (jobs - 1)) := by
      refine hrest.imp_right (And.imp_right (Or.imp_right fun hmem => ?_))
      exact (mem_take_tail hui hmem).resolve_left fun heq => by cases heq
    simp only [hworker']
    split
    · exact ⟨worker, (workers_complete_of_ne hother).trans hworker, hcontext, hstarted, hrest'⟩
    · exact ⟨worker, (workers_startTask_of_ne hother).trans hworker, hcontext, hstarted, hrest'⟩
  · next task rest hui =>
    have hafter : (s.workers tickId).map (State.listen task) = some (State.listen task worker) := by
      rw [hworker, Option.map_some]
    obtain ⟨hended, taskId', hstarted', htask, heq⟩ | ⟨heq, hother⟩ := listen_cases task worker
    · have hfinished := (hsound.workers tickId worker hworker).getD_completed hstarted
      rw [heq] at hafter
      exact ⟨_, hafter, hcontext, hstarted, .inr ⟨hended, .inl (congrArg some hfinished)⟩⟩
    · rw [heq] at hafter
      refine ⟨worker, hafter, hcontext, hstarted, hrest.imp_right ?_⟩
      rintro ⟨hended, hwait⟩
      refine ⟨hended, hwait.imp_right fun hmem => (mem_take_tail hui hmem).resolve_left ?_⟩
      intro hown
      refine hother hended taskId hstarted ?_
      rw [UiJob.finish.inj hown, ← hcontext]
      rfl

/-- A worker leaves: another one, or the signalled one with what its wait came to. -/
theorem Signalled.leave {tickId' : Nat} {result : Result} {worker' : Worker}
    (h : Signalled tickId reactContext taskId jobs s) (hworker' : s.workers tickId' = some worker')
    (hown : tickId' = tickId → worker'.ended = none ∧
      (worker'.startedTaskId = some taskId → result = .success)) :
    Signalled tickId reactContext taskId jobs (s.leave tickId' worker' result) := by
  by_cases hsame : tickId = tickId'
  · subst hsame
    obtain ⟨worker, hworker, hcontext, hstarted, -⟩ := h
    obtain rfl := Option.some.inj (hworker.symm.trans hworker')
    obtain ⟨-, hsuccess⟩ := hown rfl
    refine ⟨_, workers_leave_self, hcontext, hstarted, .inl ?_⟩
    simp only [hsuccess hstarted, hstarted]
  · exact h.keep (workers_leave_of_ne hsame) List.prefix_rfl

theorem Signalled.step {event : Event} (h : Signalled tickId reactContext taskId jobs s)
    (hsound : Sound s) (hevent : event ≠ .cancel tickId) :
    Signalled tickId reactContext taskId (jobs - served [event]) (headless.step s event) := by
  cases event with
  | runTask reactContext' posted =>
    have hother : tickId ≠ s.lastTickId + 1 := by
      obtain ⟨worker, hworker, -⟩ := h
      exact hsound.ne_fresh hworker
    cases posted with
    | true => exact h.keep (workers_enter_of_ne hother) (List.prefix_append _ _)
    | false =>
      exact h.keep ((workers_leave_of_ne hother).trans (workers_enter_of_ne hother)) List.prefix_rfl
  | ui throws => exact h.ui hsound throws
  | notifyTaskFinished tickId' =>
    obtain ⟨hworkers, hui⟩ := finish_frame (s := s) tickId'
    exact h.keep (congrFun hworkers tickId) hui
  | taskTimeout task =>
    obtain ⟨hworkers, hui⟩ := finishTask_frame (s := s) task
    exact h.keep (congrFun hworkers tickId) hui
  | resume tickId' =>
    simp only [headless.step]
    split
    · next worker' hworker' =>
      split
      · next hended _ => exact h.leave hworker' fun _ => ⟨hended, fun _ => rfl⟩
      · next hended hfailed =>
        refine h.leave hworker' fun _ => ⟨hended, fun hstarted => ?_⟩
        cases hstarted.symm.trans ((hsound.workers tickId' worker' hworker').failed hfailed)
      · exact h
    · exact h
  | cancel tickId' =>
    simp only [headless.step]
    split
    · next worker' hworker' =>
      split
      · refine h.leave hworker' ?_
        rintro rfl
        exact absurd rfl hevent
      · exact h
    · exact h

theorem Signalled.run {events : List Event} (h : Signalled tickId reactContext taskId jobs s)
    (hsound : Sound s) (hevents : .cancel tickId ∉ events) :
    Signalled tickId reactContext taskId (jobs - served events) (headless.run s events) := by
  induction events generalizing s jobs with
  | nil => exact h
  | cons event events ih =>
    have hevent : event ≠ .cancel tickId := fun heq => hevents (heq ▸ List.mem_cons_self)
    have hrest : .cancel tickId ∉ events := fun hmem => hevents (List.mem_cons_of_mem _ hmem)
    have hstep := h.step hsound hevent
    have hserved : jobs - served (event :: events) = jobs - served [event] - served events := by
      cases event <;> simp only [served] <;> omega
    rw [hserved]
    exact ih hstep (hsound.step event) hrest

/-- The signal of a tick whose started worker waits. -/
theorem Sound.signalled (h : Sound s) (hworker : s.workers tickId = some worker)
    (hstarted : worker.startedTaskId = some taskId) (hended : worker.ended = none) :
    Signalled tickId worker.reactContext taskId (s.ui.length + 1) (s.finish tickId) := by
  obtain ⟨hactive, hpending⟩ | hfinish | hcompleted :=
    (h.workers tickId worker hworker).awaitsEnd hended taskId hstarted
  · have hfinish : s.finish tickId = headless.announce (worker.task taskId)
        (Function.update s.pending tickId none) s := by
      unfold State.finish
      rw [hpending]
      exact if_pos hactive
    rw [hfinish]
    refine ⟨worker, hworker, rfl, hstarted, .inr ⟨hended, .inr ?_⟩⟩
    rw [List.take_of_length_le]
    · exact List.mem_append_right _ (List.mem_singleton_self _)
    · exact Nat.le_of_eq List.length_append
  · have hsignalled : Signalled tickId worker.reactContext taskId (s.ui.length + 1) s := by
      refine ⟨worker, hworker, rfl, hstarted, .inr ⟨hended, .inr ?_⟩⟩
      rw [List.take_of_length_le (Nat.le_succ _)]
      exact hfinish
    obtain ⟨hworkers, hui⟩ := finish_frame (s := s) tickId
    exact hsignalled.keep (congrFun hworkers tickId) hui
  · have hsignalled : Signalled tickId worker.reactContext taskId (s.ui.length + 1) s :=
      ⟨worker, hworker, rfl, hstarted, .inr ⟨hended, .inl hcompleted⟩⟩
    obtain ⟨hworkers, hui⟩ := finish_frame (s := s) tickId
    exact hsignalled.keep (congrFun hworkers tickId) hui

end cemp.app.headless
