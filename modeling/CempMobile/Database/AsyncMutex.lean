import Mathlib.Data.List.Basic
import Mathlib.Tactic.Common

/-! The queue of promises that has its callers run one at a time. -/

namespace cemp.database

/-- What the bodies of a mutex do. Calling one and each of its steps may change what is shared, and
    a body that has settled has an outcome. -/
structure Bodies (Job Body Shared Outcome : Type) where
  admits : Job → Shared → Prop
  begins : Job → Shared → Body → Shared → Prop
  advances : Job → Body → Shared → Body → Shared → Prop
  outcome : Body → Option Outcome
  /-- What code outside the mutex does to what is shared. -/
  ambient : Shared → Shared → Prop
  /-- Whatever is shared, a call of a function does something. -/
  begins_total : ∀ job shared, ∃ body shared', begins job shared body shared'

/-- A body that calls and runs of a function lead to. -/
inductive Bodies.Ran {Job Body Shared Outcome : Type} (bodies : Bodies Job Body Shared Outcome)
    (job : Job) : Body → Prop where
  | begins {shared body shared'} (hbegins : bodies.begins job shared body shared') : Ran bodies job body
  | advances {body shared body' shared'} (hbody : Ran bodies job body)
    (hpending : bodies.outcome body = none)
    (hadvances : bodies.advances job body shared body' shared') : Ran bodies job body'

/-- Where a call of `runExclusive` stands: it waits for the promise before it, its body has been
    called, or it has returned or thrown the outcome of its body. -/
inductive Phase (Body Outcome : Type) where
  | waiting
  | running (body : Body)
  | done (body : Body) (result : Outcome)

/-- A call, the promise that was in the queue before it, and whether its own is resolved. A promise
    is known by the number of its call; there is none before the first. -/
structure Caller (Job Body Outcome : Type) where
  job : Job
  previous : Option Nat
  phase : Phase Body Outcome
  released : Bool

/-- `#queue` is the promise of the last call. -/
structure AsyncMutex (Job Body Shared Outcome : Type) where
  callers : List (Caller Job Body Outcome)
  queue : Option Nat
  shared : Shared

namespace AsyncMutex

variable {Job Body Shared Outcome : Type}

def initial (shared : Shared) : AsyncMutex Job Body Shared Outcome := ⟨[], none, shared⟩

/-- Whether an awaited promise is resolved. -/
def Resolved (mutex : AsyncMutex Job Body Shared Outcome) : Option Nat → Prop
  | none => True
  | some index => ∃ caller, mutex.callers[index]? = some caller ∧ caller.released = true

/-- `runExclusive` up to where it waits. -/
def call (mutex : AsyncMutex Job Body Shared Outcome) (job : Job) :
    AsyncMutex Job Body Shared Outcome :=
  { mutex with
    callers := mutex.callers ++ [⟨job, mutex.queue, .waiting, false⟩]
    queue := some mutex.callers.length }

/-- A call whose body is in some state now. -/
def withBody (mutex : AsyncMutex Job Body Shared Outcome) (index : Nat)
    (caller : Caller Job Body Outcome) (body : Body) (shared : Shared) :
    AsyncMutex Job Body Shared Outcome :=
  { mutex with
    callers := mutex.callers.set index { caller with phase := .running body }
    shared := shared }

/-- The `finally` of a call, and its return. -/
def release (mutex : AsyncMutex Job Body Shared Outcome) (index : Nat)
    (caller : Caller Job Body Outcome) (body : Body) (result : Outcome) :
    AsyncMutex Job Body Shared Outcome :=
  { mutex with
    callers := mutex.callers.set index { caller with phase := .done body result, released := true } }

/-- What happens next: a call, the resumption of one that waited, a step of a body, the end of a
    call, or a change of what is shared by code outside the mutex. -/
inductive Event where
  | call
  | resume (index : Nat)
  | advance (index : Nat)
  | finish (index : Nat)
  | ambient
  deriving DecidableEq, Repr

variable (bodies : Bodies Job Body Shared Outcome)

inductive Step : AsyncMutex Job Body Shared Outcome → Event →
    AsyncMutex Job Body Shared Outcome → Prop where
  | call {mutex job} (hadmits : bodies.admits job mutex.shared) :
    Step mutex .call (mutex.call job)
  | resume {mutex index caller body shared} (hcaller : mutex.callers[index]? = some caller)
    (hwaiting : caller.phase = .waiting) (hresolved : mutex.Resolved caller.previous)
    (hbegins : bodies.begins caller.job mutex.shared body shared) :
    Step mutex (.resume index) (mutex.withBody index caller body shared)
  | advance {mutex index caller body body' shared} (hcaller : mutex.callers[index]? = some caller)
    (hrunning : caller.phase = .running body) (hpending : bodies.outcome body = none)
    (hadvances : bodies.advances caller.job body mutex.shared body' shared) :
    Step mutex (.advance index) (mutex.withBody index caller body' shared)
  | finish {mutex index caller body result} (hcaller : mutex.callers[index]? = some caller)
    (hrunning : caller.phase = .running body) (hsettled : bodies.outcome body = some result) :
    Step mutex (.finish index) (mutex.release index caller body result)
  | ambient {mutex shared} (hambient : bodies.ambient mutex.shared shared) :
    Step mutex .ambient { mutex with shared := shared }

/-- The states that any number of calls and any interleaving of their bodies lead to. -/
inductive Reachable (shared : Shared) : AsyncMutex Job Body Shared Outcome → Prop where
  | initial : Reachable shared (initial shared)
  | step {mutex event mutex'} (hmutex : Reachable shared mutex)
    (hstep : Step bodies mutex event mutex') : Reachable shared mutex'

/-- The promise before a call. -/
def before : Nat → Option Nat
  | 0 => none
  | index + 1 => some index

/-- What a call's phase says of it: its body is its own, and so is the outcome that it returns. -/
def Standing (caller : Caller Job Body Outcome) : Prop :=
  match caller.phase with
  | .waiting => caller.released = false
  | .running body => bodies.Ran caller.job body ∧ caller.released = false
  | .done body result =>
    bodies.Ran caller.job body ∧ bodies.outcome body = some result ∧ caller.released = true

/-- The invariant: every call waits for the one before it, and where a body was called the promises
    of the calls before it are resolved. -/
structure Sound (mutex : AsyncMutex Job Body Shared Outcome) : Prop where
  queue : mutex.queue = before mutex.callers.length
  previous : ∀ {index : Nat} {caller : Caller Job Body Outcome},
    mutex.callers[index]? = some caller → caller.previous = before index
  standing : ∀ {index : Nat} {caller : Caller Job Body Outcome},
    mutex.callers[index]? = some caller → Standing bodies caller
  order : ∀ {first second : Nat} {a b : Caller Job Body Outcome}, first < second →
    mutex.callers[first]? = some a → mutex.callers[second]? = some b → b.phase ≠ .waiting →
      a.released = true

variable {bodies} {mutex mutex' : AsyncMutex Job Body Shared Outcome} {index : Nat}
  {caller : Caller Job Body Outcome}

theorem Standing.done_of_released (h : Standing bodies caller) (hreleased : caller.released = true) :
    ∃ body result, caller.phase = .done body result := by
  unfold Standing at h
  split at h
  · exact absurd (h.symm.trans hreleased) (by decide)
  · exact absurd (h.2.symm.trans hreleased) (by decide)
  · exact ⟨_, _, ‹_›⟩

theorem Standing.ran (h : Standing bodies caller) {body : Body} (hrunning : caller.phase = .running body) :
    bodies.Ran caller.job body := by
  simp only [Standing, hrunning] at h
  exact h.1

theorem Standing.done (h : Standing bodies caller) {body : Body} {result : Outcome}
    (hdone : caller.phase = .done body result) :
    bodies.Ran caller.job body ∧ bodies.outcome body = some result ∧ caller.released = true := by
  simpa only [Standing, hdone] using h

theorem Standing.not_released (h : Standing bodies caller)
    (hphase : ∀ body result, caller.phase ≠ .done body result) : caller.released = false := by
  rw [← Bool.not_eq_true]
  intro hreleased
  obtain ⟨body, result, hdone⟩ := h.done_of_released hreleased
  exact hphase body result hdone

theorem sound_initial (shared : Shared) :
    Sound bodies (initial shared : AsyncMutex Job Body Shared Outcome) where
  queue := rfl
  previous hcaller := nomatch hcaller
  standing hcaller := nomatch hcaller
  order _ hcaller := nomatch hcaller

/-- A call of the state after another call is the new one or stood there before. -/
theorem callers_call {job : Job} (hcaller : (mutex.call job).callers[index]? = some caller) :
    mutex.callers[index]? = some caller ∨
      index = mutex.callers.length ∧ caller = ⟨job, mutex.queue, .waiting, false⟩ := by
  rcases Nat.lt_trichotomy index mutex.callers.length with hlt | rfl | hgt
  · exact .inl ((List.getElem?_append_left hlt).symm.trans hcaller)
  · have hlast : (mutex.call job).callers[mutex.callers.length]? =
        some ⟨job, mutex.queue, .waiting, false⟩ := List.getElem?_concat_length
    exact .inr ⟨rfl, Option.some.inj (hcaller.symm.trans hlast)⟩
  · have hlength := (List.getElem?_eq_some_iff.1 hcaller).1
    simp only [AsyncMutex.call, List.length_append, List.length_singleton] at hlength
    omega

/-- Where one call went on, every other stands as it did. -/
theorem callers_set {target : Nat} {caller' : Caller Job Body Outcome}
    (hlength : target < mutex.callers.length)
    (hcaller : (mutex.callers.set target caller')[index]? = some caller) :
    index ≠ target ∧ mutex.callers[index]? = some caller ∨ index = target ∧ caller = caller' := by
  by_cases hsame : index = target
  · rw [hsame, List.getElem?_set_self hlength] at hcaller
    exact .inr ⟨hsame, (Option.some.inj hcaller).symm⟩
  · rw [List.getElem?_set_ne (Ne.symm hsame)] at hcaller
    exact .inl ⟨hsame, hcaller⟩

theorem Sound.call (h : Sound bodies mutex) (job : Job) : Sound bodies (mutex.call job) := by
  constructor
  · simp only [AsyncMutex.call, List.length_append, List.length_singleton]
    rfl
  · intro index caller hcaller
    rcases callers_call hcaller with hold | ⟨rfl, rfl⟩
    · exact h.previous hold
    · exact h.queue
  · intro index caller hcaller
    rcases callers_call hcaller with hold | ⟨rfl, rfl⟩
    · exact h.standing hold
    · exact rfl
  · intro first second a b hlt hfirst hsecond hphase
    rcases callers_call hsecond with hold | ⟨rfl, rfl⟩
    · rcases callers_call hfirst with hfirst | ⟨rfl, rfl⟩
      · exact h.order hlt hfirst hold hphase
      · have hlength := (List.getElem?_eq_some_iff.1 hold).1
        omega
    · exact absurd rfl hphase

/-- A call goes on. What is asked of its new state is what the invariant says of one call. -/
theorem Sound.set (h : Sound bodies mutex) (hcaller : mutex.callers[index]? = some caller)
    (caller' : Caller Job Body Outcome) (hprevious : caller'.previous = caller.previous)
    (hstanding : Standing bodies caller')
    (horder : ∀ {first : Nat} {a : Caller Job Body Outcome}, first < index →
      mutex.callers[first]? = some a → a.released = true)
    (hkept : caller.released = true → caller'.released = true) (shared : Shared) :
    Sound bodies ⟨mutex.callers.set index caller', mutex.queue, shared⟩ := by
  have hlength := (List.getElem?_eq_some_iff.1 hcaller).1
  constructor
  · simp only [List.length_set]
    exact h.queue
  · intro other c hother
    rcases callers_set hlength hother with ⟨-, hold⟩ | ⟨rfl, rfl⟩
    · exact h.previous hold
    · exact hprevious.trans (h.previous hcaller)
  · intro other c hother
    rcases callers_set hlength hother with ⟨-, hold⟩ | ⟨-, rfl⟩
    · exact h.standing hold
    · exact hstanding
  · intro first second a b hlt hfirst hsecond hphase
    rcases callers_set hlength hfirst with ⟨-, hold⟩ | ⟨heq, rfl⟩
    · rcases callers_set hlength hsecond with ⟨-, hold'⟩ | ⟨heq, rfl⟩
      · exact h.order hlt hold hold' hphase
      · exact horder (heq ▸ hlt) hold
    · rcases callers_set hlength hsecond with ⟨-, hold'⟩ | ⟨heq', rfl⟩
      · exact hkept (h.order (heq ▸ hlt) hcaller hold' hphase)
      · omega

/-- Where the promise before a call is resolved, those of all calls before it are. -/
theorem Sound.released_of_resolved (h : Sound bodies mutex)
    (hcaller : mutex.callers[index]? = some caller) (hresolved : mutex.Resolved caller.previous)
    {first : Nat} {a : Caller Job Body Outcome} (hlt : first < index)
    (hfirst : mutex.callers[first]? = some a) : a.released = true := by
  rw [h.previous hcaller] at hresolved
  cases index with
  | zero => exact absurd hlt (Nat.not_lt_zero _)
  | succ index =>
    obtain ⟨last, hlast, hreleased⟩ := hresolved
    rcases Nat.lt_succ_iff_lt_or_eq.1 hlt with hlt | rfl
    · obtain ⟨body, result, hphase⟩ := (h.standing hlast).done_of_released hreleased
      exact h.order hlt hfirst hlast (by simp [hphase])
    · rw [hlast] at hfirst
      exact Option.some.inj hfirst ▸ hreleased

theorem Sound.resolved_of_released (h : Sound bodies mutex)
    (hcaller : mutex.callers[index]? = some caller)
    (hreleased : ∀ {first : Nat} {a : Caller Job Body Outcome}, first < index →
      mutex.callers[first]? = some a → a.released = true) : mutex.Resolved caller.previous := by
  rw [h.previous hcaller]
  cases index with
  | zero => trivial
  | succ index =>
    have hlength := (List.getElem?_eq_some_iff.1 hcaller).1
    have hlast := List.getElem?_eq_getElem (Nat.lt_of_succ_lt hlength)
    exact ⟨_, hlast, hreleased (Nat.lt_succ_self _) hlast⟩

theorem Sound.step (h : Sound bodies mutex) {event : Event} (hstep : Step bodies mutex event mutex') :
    Sound bodies mutex' := by
  cases hstep with
  | call => exact h.call _
  | @resume index caller body shared hcaller hwaiting hresolved hbegins =>
    have hnot : caller.released = false := by simpa only [Standing, hwaiting] using h.standing hcaller
    refine h.set hcaller { caller with phase := .running body } rfl ?_
      (h.released_of_resolved hcaller hresolved) id shared
    exact ⟨.begins hbegins, hnot⟩
  | @advance index caller body body' shared hcaller hrunning hpending hadvances =>
    have hstanding := h.standing hcaller
    simp only [Standing, hrunning] at hstanding
    have hcalled : caller.phase ≠ .waiting := by simp [hrunning]
    refine h.set hcaller { caller with phase := .running body' } rfl ?_
      (fun hlt hfirst => h.order hlt hfirst hcaller hcalled) id shared
    exact ⟨.advances hstanding.1 hpending hadvances, hstanding.2⟩
  | @finish index caller body result hcaller hrunning hsettled =>
    have hcalled : caller.phase ≠ .waiting := by simp [hrunning]
    refine h.set hcaller { caller with phase := .done body result, released := true } rfl ?_
      (fun hlt hfirst => h.order hlt hfirst hcaller hcalled) (fun _ => rfl) mutex.shared
    exact ⟨(h.standing hcaller).ran hrunning, hsettled, rfl⟩
  | ambient => exact ⟨h.queue, h.previous, h.standing, h.order⟩

theorem Reachable.sound {shared : Shared} (h : Reachable bodies shared mutex) : Sound bodies mutex := by
  induction h with
  | initial => exact sound_initial shared
  | step _ hstep ih => exact ih.step hstep

/-- A step keeps every call and its body's function, and what has returned stays as it is. -/
theorem Step.keeps {event : Event} (hstep : Step bodies mutex event mutex')
    (hcaller : mutex.callers[index]? = some caller) :
    ∃ caller', mutex'.callers[index]? = some caller' ∧ caller'.job = caller.job ∧
      (∀ body result, caller.phase = .done body result → caller' = caller) := by
  have hlength := (List.getElem?_eq_some_iff.1 hcaller).1
  have hset {target : Nat} {old new : Caller Job Body Outcome}
      (hold : mutex.callers[target]? = some old) (hjob : new.job = old.job)
      (hphase : ∀ body result, old.phase ≠ .done body result) :
      ∃ caller', (mutex.callers.set target new)[index]? = some caller' ∧ caller'.job = caller.job ∧
        (∀ body result, caller.phase = .done body result → caller' = caller) := by
    by_cases hsame : index = target
    · rw [← hsame, hcaller] at hold
      cases hold
      rw [← hsame, List.getElem?_set_self hlength]
      exact ⟨new, rfl, hjob, fun body result hdone => absurd hdone (hphase body result)⟩
    · rw [List.getElem?_set_ne (Ne.symm hsame)]
      exact ⟨caller, hcaller, rfl, fun _ _ _ => rfl⟩
  cases hstep with
  | call => exact ⟨caller, (List.getElem?_append_left hlength).trans hcaller, rfl, fun _ _ _ => rfl⟩
  | resume hold hwaiting _ _ => exact hset hold rfl (by simp [hwaiting])
  | advance hold hrunning _ _ => exact hset hold rfl (by simp [hrunning])
  | finish hold hrunning _ => exact hset hold rfl (by simp [hrunning])
  | ambient => exact ⟨caller, hcaller, rfl, fun _ _ _ => rfl⟩

variable (bodies) in
/-- What the callers of a mutex see of it, whatever their bodies do. -/
structure Serialized (mutex : AsyncMutex Job Body Shared Outcome) : Prop where
  exclusive : ∀ {first second : Nat} {a b : Caller Job Body Outcome} {body body' : Body},
    mutex.callers[first]? = some a → mutex.callers[second]? = some b →
      a.phase = .running body → b.phase = .running body' → first = second
  /-- A body is called after those of the earlier calls have settled. -/
  order : ∀ {first second : Nat} {a b : Caller Job Body Outcome}, first < second →
    mutex.callers[first]? = some a → mutex.callers[second]? = some b → b.phase ≠ .waiting →
      ∃ body result, a.phase = .done body result
  /-- A call returns or throws what its own body did. -/
  own : ∀ {index : Nat} {caller : Caller Job Body Outcome} {body result},
    mutex.callers[index]? = some caller → caller.phase = .done body result →
      bodies.Ran caller.job body ∧ bodies.outcome body = some result
  /-- Whatever the outcomes of the earlier calls are, the next body is called. -/
  resumes : ∀ {index : Nat} {caller : Caller Job Body Outcome},
    mutex.callers[index]? = some caller → caller.phase = .waiting →
      (∀ {first : Nat} {a : Caller Job Body Outcome}, first < index →
        mutex.callers[first]? = some a → ∃ body result, a.phase = .done body result) →
      ∃ body shared, Step bodies mutex (.resume index) (mutex.withBody index caller body shared)
  /-- A call keeps its function, and what it has returned stays as it is. -/
  keeps : ∀ {event : Event} {mutex' : AsyncMutex Job Body Shared Outcome} {index : Nat}
    {caller : Caller Job Body Outcome}, Step bodies mutex event mutex' →
      mutex.callers[index]? = some caller →
      ∃ caller', mutex'.callers[index]? = some caller' ∧ caller'.job = caller.job ∧
        (∀ body result, caller.phase = .done body result → caller' = caller)

theorem Sound.serialized (h : Sound bodies mutex) : Serialized bodies mutex where
  exclusive {first second a b body body'} hfirst hsecond ha hb := by
    have hlt {x y : Nat} {c d : Caller Job Body Outcome} {body body' : Body}
        (hx : mutex.callers[x]? = some c) (hy : mutex.callers[y]? = some d)
        (hc : c.phase = .running body) (hd : d.phase = .running body') : ¬ x < y := by
      intro hlt
      have hreleased := h.order hlt hx hy (by simp [hd])
      have hnot := (h.standing hx).not_released (by simp [hc])
      exact absurd (hnot.symm.trans hreleased) (by decide)
    exact Nat.le_antisymm (Nat.le_of_not_lt (hlt hsecond hfirst hb ha))
      (Nat.le_of_not_lt (hlt hfirst hsecond ha hb))
  order hlt hfirst hsecond hphase :=
    (h.standing hfirst).done_of_released (h.order hlt hfirst hsecond hphase)
  own hcaller hdone := by
    obtain ⟨hran, houtcome, -⟩ := (h.standing hcaller).done hdone
    exact ⟨hran, houtcome⟩
  resumes {index caller} hcaller hwaiting hdone := by
    have hresolved := h.resolved_of_released hcaller fun hlt hfirst => by
      obtain ⟨body, result, hphase⟩ := hdone hlt hfirst
      exact ((h.standing hfirst).done hphase).2.2
    obtain ⟨body, shared, hbegins⟩ := bodies.begins_total caller.job mutex.shared
    exact ⟨body, shared, .resume hcaller hwaiting hresolved hbegins⟩
  keeps hstep hcaller := hstep.keeps hcaller

/-- The states of a mutex through time. Between two of them a step was taken, or none. -/
structure Run (bodies : Bodies Job Body Shared Outcome) (shared : Shared) where
  state : Nat → AsyncMutex Job Body Shared Outcome
  start : state 0 = initial shared
  next : ∀ time, state (time + 1) = state time ∨
    ∃ event, Step bodies (state time) event (state (time + 1))

namespace Run

variable {shared : Shared} (run : Run bodies shared)

/-- The call has returned or thrown. -/
def Done (index time : Nat) : Prop :=
  ∃ caller body result, (run.state time).callers[index]? = some caller ∧
    caller.phase = .done body result

/-- Every body settles, resolving or rejecting, and what waits for a settled promise goes on. -/
structure Fair : Prop where
  resumes : ∀ {time index : Nat} {caller : Caller Job Body Outcome},
    (run.state time).callers[index]? = some caller → caller.phase = .waiting →
      (run.state time).Resolved caller.previous →
      ∃ later caller', time ≤ later ∧ (run.state later).callers[index]? = some caller' ∧
        caller'.phase ≠ .waiting
  settles : ∀ {time index : Nat} {caller : Caller Job Body Outcome} {body},
    (run.state time).callers[index]? = some caller → caller.phase = .running body →
      ∃ later caller' body' result, time ≤ later ∧
        (run.state later).callers[index]? = some caller' ∧ caller'.phase = .running body' ∧
        bodies.outcome body' = some result
  returns : ∀ {time index : Nat} {caller : Caller Job Body Outcome} {body result},
    (run.state time).callers[index]? = some caller → caller.phase = .running body →
      bodies.outcome body = some result → ∃ later, time ≤ later ∧ run.Done index later

variable {run}

theorem reachable (time : Nat) : Reachable bodies shared (run.state time) := by
  induction time with
  | zero => exact run.start ▸ .initial
  | succ time ih =>
    rcases run.next time with hsame | ⟨event, hstep⟩
    · exact hsame ▸ ih
    · exact ih.step hstep

theorem keeps {time later : Nat} (hle : time ≤ later)
    (hcaller : (run.state time).callers[index]? = some caller) :
    ∃ caller', (run.state later).callers[index]? = some caller' ∧ caller'.job = caller.job ∧
      (∀ body result, caller.phase = .done body result → caller' = caller) := by
  induction hle with
  | refl => exact ⟨caller, hcaller, rfl, fun _ _ _ => rfl⟩
  | @step later _ ih =>
    obtain ⟨middle, hmiddle, hjob, hdone⟩ := ih
    rcases run.next later with hsame | ⟨event, hstep⟩
    · exact ⟨middle, hsame ▸ hmiddle, hjob, hdone⟩
    · obtain ⟨caller', hcaller', hjob', hdone'⟩ := hstep.keeps hmiddle
      refine ⟨caller', hcaller', hjob'.trans hjob, fun body result hphase => ?_⟩
      have heq := hdone body result hphase
      exact (hdone' body result (heq ▸ hphase)).trans heq

theorem Done.mono {time later : Nat} (h : run.Done index time) (hle : time ≤ later) :
    run.Done index later := by
  obtain ⟨caller, body, result, hcaller, hdone⟩ := h
  obtain ⟨caller', hcaller', -, hkept⟩ := keeps hle hcaller
  exact ⟨caller', body, result, hcaller', by rw [hkept body result hdone, hdone]⟩

/-- What happens to each of the calls before one happens to all of them. -/
theorem exists_all_done {time : Nat}
    (h : ∀ first, first < index → ∃ later, time ≤ later ∧ run.Done first later) :
    ∃ later, time ≤ later ∧ ∀ first, first < index → run.Done first later := by
  induction index with
  | zero => exact ⟨time, Nat.le_refl _, fun first hlt => absurd hlt (Nat.not_lt_zero _)⟩
  | succ index ih =>
    obtain ⟨later, hle, hall⟩ := ih fun first hlt => h first (Nat.lt_succ_of_lt hlt)
    obtain ⟨last, hle', hlast⟩ := h index (Nat.lt_succ_self _)
    refine ⟨max later last, Nat.le_trans hle (Nat.le_max_left _ _), fun first hlt => ?_⟩
    rcases Nat.lt_succ_iff_lt_or_eq.1 hlt with hlt | rfl
    · exact (hall first hlt).mono (Nat.le_max_left _ _)
    · exact hlast.mono (Nat.le_max_right _ _)

/-- A body that was called leads to the end of its call. -/
theorem Fair.done_of_called (hfair : run.Fair) {time : Nat}
    (hcaller : (run.state time).callers[index]? = some caller) (hcalled : caller.phase ≠ .waiting) :
    ∃ later, time ≤ later ∧ run.Done index later := by
  cases hphase : caller.phase with
  | waiting => exact absurd hphase hcalled
  | running body =>
    obtain ⟨settled, caller', body', result, hle, hcaller', hrunning, houtcome⟩ :=
      hfair.settles hcaller hphase
    obtain ⟨later, hle', hdone⟩ := hfair.returns hcaller' hrunning houtcome
    exact ⟨later, Nat.le_trans hle hle', hdone⟩
  | done body result => exact ⟨time, Nat.le_refl _, caller, body, result, hcaller, hphase⟩

/-- Every call returns, behind whatever number of calls and however their bodies have settled. By
    induction on the number of the call: the promise before it is resolved in time. -/
theorem Fair.done (hfair : run.Fair) {time : Nat}
    (hcaller : (run.state time).callers[index]? = some caller) :
    ∃ later, time ≤ later ∧ run.Done index later := by
  induction index using Nat.strongRecOn generalizing time caller with
  | ind index ih =>
    have hlength := (List.getElem?_eq_some_iff.1 hcaller).1
    obtain ⟨middle, hle, hall⟩ := exists_all_done fun first hlt =>
      ih first hlt (List.getElem?_eq_getElem (Nat.lt_trans hlt hlength))
    obtain ⟨caller', hcaller', -, -⟩ := keeps hle hcaller
    have hsound := (run.reachable middle).sound
    have hresolved : (run.state middle).Resolved caller'.previous := by
      refine hsound.resolved_of_released hcaller' fun {first a} hlt hfirst => ?_
      obtain ⟨b, body, result, hb, hphase⟩ := hall first hlt
      obtain rfl := Option.some.inj (hfirst.symm.trans hb)
      exact ((hsound.standing hb).done hphase).2.2
    by_cases hwaiting : caller'.phase = .waiting
    · obtain ⟨called, caller'', hle', hcaller'', hcalled⟩ :=
        hfair.resumes hcaller' hwaiting hresolved
      obtain ⟨later, hle'', hdone⟩ := hfair.done_of_called hcaller'' hcalled
      exact ⟨later, Nat.le_trans hle (Nat.le_trans hle' hle''), hdone⟩
    · obtain ⟨later, hle', hdone⟩ := hfair.done_of_called hcaller' hwaiting
      exact ⟨later, Nat.le_trans hle hle', hdone⟩

end Run

end AsyncMutex

end cemp.database
