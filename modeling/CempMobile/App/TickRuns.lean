import CempMobile.App.PeriodicTick

/-! Runs of the scheduler: unlocks, locks, crashes, failed calls and upgrades, in any order. -/

namespace cemp.app.workManager

section

variable {releases : Nat → List PeriodicSpec} {device : Device} {version k : Nat}
  {session : Session} {state : State} {event : Event}

/-- The tick of the first workers of a release. -/
def prefixTick (releases : Nat → List PeriodicSpec) (version k : Nat) : Option CoalescedTick :=
  coalesce ((engineWorkers releases version).take k)

theorem nodup_engineWorkers (releases : Nat → List PeriodicSpec) (version : Nat) :
    ((engineWorkers releases version).map PeriodicSpec.id).Nodup :=
  @InsertionOrder.nodup_foldl_set _ _ _ _ [] List.nodup_nil _

/-- WorkManager holds no tick, or one for the first workers of the release whose version it was
    enqueued under. -/
def Held (releases : Nat → List PeriodicSpec) (device : Device) : Prop :=
  ∃ k generation, device.work PERIODIC_WORK =
    (prefixTick releases device.scheduleVersion k).map (Work.periodic · generation)

/-- The engine has registered its first `k` workers. -/
structure Registered (releases : Nat → List PeriodicSpec) (session : Session) (k : Nat) : Prop where
  specs : session.registry.specs = (engineWorkers releases session.version).take k
  rest : session.rest = (engineWorkers releases session.version).drop k
  scheduled : session.registry.scheduled = prefixTick releases session.version k

/-- No worker is called what the retry of another is. -/
def Distinct (releases : Nat → List PeriodicSpec) : Prop :=
  ∀ version, ∀ spec ∈ releases version, ∀ workerId, spec.id ≠ retryId workerId

theorem Registered.initial (version : Nat) :
    Registered releases ⟨version, .empty, engineWorkers releases version⟩ 0 :=
  ⟨rfl, rfl, rfl⟩

/-- The next worker is registered, with a call where the tick is another one for it. -/
theorem Registered.register {registry : SpecRegistry} {spec : PeriodicSpec}
    {rest : List PeriodicSpec} (h : Registered releases ⟨version, registry, spec :: rest⟩ k) :
    ∃ tick registry', prefixTick releases version (k + 1) = some tick ∧
      WorkManagerScheduler.schedulePeriodic spec registry =
        (if prefixTick releases version k = some tick then []
          else [.schedulePeriodic ⟨tick, (prefixTick releases version k).isSome⟩], registry') ∧
      Registered releases ⟨version, registry', rest⟩ (k + 1) := by
  obtain ⟨hspecs, hrest, hscheduled⟩ := h
  simp only at hspecs hrest hscheduled
  have hlt : k < (engineWorkers releases version).length := by
    by_contra hge
    rw [List.drop_eq_nil_of_le (Nat.not_lt.1 hge)] at hrest
    cases hrest
  have hdrop := List.drop_eq_getElem_cons hlt
  rw [← hrest, List.cons.injEq] at hdrop
  obtain ⟨hspec, hafter⟩ := hdrop
  have htake : (engineWorkers releases version).take (k + 1) = registry.specs ++ [spec] := by
    rw [List.take_succ_eq_append_getElem hlt, ← hspec, hspecs]
  have hnew : spec.id ∉ registry.specs.map PeriodicSpec.id := by
    have hnodup := (nodup_engineWorkers releases version).sublist
      ((List.take_sublist (k + 1) _).map PeriodicSpec.id)
    rw [htake, List.map_append, List.nodup_append] at hnodup
    intro hmem
    exact hnodup.2.2 _ hmem _ (List.mem_singleton_self _) rfl
  cases htick : prefixTick releases version (k + 1) with
  | none =>
    rw [prefixTick, coalesce_eq_none_iff, htake] at htick
    simp at htick
  | some tick =>
    rw [prefixTick, htake] at htick
    obtain ⟨hspecs', hscheduled', hupdate⟩ := SpecRegistry.add_new hnew htick
    refine ⟨tick, (registry.add spec).2, rfl, ?_, hspecs'.trans htake.symm, hafter, ?_⟩
    · simp only [WorkManagerScheduler.schedulePeriodic, hupdate, hscheduled]
      split <;> rfl
    · rw [prefixTick, htake]
      exact hscheduled'.trans htick.symm

/-- Before the first worker there is no tick, and from it on there is one. -/
theorem Registered.eq_zero {registry : SpecRegistry} {spec : PeriodicSpec}
    {rest : List PeriodicSpec} (h : Registered releases ⟨version, registry, spec :: rest⟩ k)
    (hnone : prefixTick releases version k = none) : k = 0 := by
  obtain hk | hnil := List.take_eq_nil_iff.1 (coalesce_eq_none_iff.1 hnone)
  · exact hk
  · have hrest := h.rest
    rw [hnil, List.drop_nil] at hrest
    cases hrest

theorem Registered.cancel (hdistinct : Distinct releases) (h : Registered releases session k)
    (workerId : String) :
    WorkManagerScheduler.cancel (retryId workerId) session.registry =
      ([.cancel (retryId workerId)], session.registry) := by
  have hnew : retryId workerId ∉ session.registry.specs.map PeriodicSpec.id := by
    intro hmem
    obtain ⟨spec, hspec, hid⟩ := List.mem_map.1 hmem
    rw [h.specs] at hspec
    obtain hspec | hspec := InsertionOrder.mem_of_mem_foldl_set (List.mem_of_mem_take hspec)
    · cases hspec
    · exact hdistinct _ spec hspec workerId hid
  have hscheduled : session.registry.scheduled = coalesce session.registry.specs := by
    rw [h.scheduled, h.specs]
    rfl
  simp [WorkManagerScheduler.cancel, SpecRegistry.remove_new hnew hscheduled]

theorem Held.congr {device' : Device} (h : Held releases device)
    (hwork : device'.work PERIODIC_WORK = device.work PERIODIC_WORK)
    (hversion : device'.scheduleVersion = device.scheduleVersion) : Held releases device' := by
  obtain ⟨k, generation, hheld⟩ := h
  exact ⟨k, generation, by rw [hwork, hversion, hheld]⟩

theorem Held.schedulePeriodic {tick : CoalescedTick} {replaceExisting : Bool}
    (h : Held releases device) (htick : prefixTick releases version k = some tick) :
    Held releases (device.schedulePeriodic version ⟨tick, replaceExisting⟩) := by
  obtain ⟨hversion, ⟨-, hsame, -, hwork⟩ | hwork⟩ :=
    Device.schedulePeriodic_cases version ⟨tick, replaceExisting⟩ device
  · exact h.congr (by rw [hwork]) (hversion.trans hsame.symm)
  · exact ⟨k, device.generation + 1, by rw [hwork, hversion, htick]; rfl⟩

/-- What holds in every state. -/
structure Sound (releases : Nat → List PeriodicSpec) (state : State) : Prop where
  held : Held releases state.device
  registered : ∀ session ∈ state.session, ∃ k, Registered releases session k

theorem sound_fresh : Sound releases .fresh :=
  ⟨⟨0, 0, rfl⟩, fun _ h => by cases h⟩

theorem Sound.step (hdistinct : Distinct releases) (h : Sound releases state) (event : Event) :
    Sound releases (step releases state event) := by
  obtain ⟨device, session⟩ := state
  obtain ⟨hheld, hregistered⟩ := h
  simp only at hheld hregistered
  cases event with
  | unlock version =>
    refine ⟨hheld, fun session hsession => ⟨0, ?_⟩⟩
    obtain rfl := Option.some.inj hsession
    exact .initial version
  | register succeeds =>
    match session with
    | none => exact ⟨hheld, hregistered⟩
    | some ⟨version, registry, []⟩ => exact ⟨hheld, hregistered⟩
    | some ⟨version, registry, spec :: rest⟩ =>
      obtain ⟨k, hk⟩ := hregistered _ rfl
      obtain ⟨tick, registry', htick, hcalls, hnext⟩ := hk.register
      refine ⟨?_, fun session hsession => ⟨k + 1, ?_⟩⟩
      · simp only [workManager.step, hcalls]
        split
        · exact hheld
        · simp only [performAll, List.foldl_cons, List.foldl_nil, Device.perform]
          split
          · exact hheld.schedulePeriodic htick
          · exact hheld
      · simp only [workManager.step, hcalls] at hsession
        obtain rfl := Option.some.inj hsession
        exact hnext
  | retry workerId delayMs succeeds =>
    cases session with
    | none => exact ⟨hheld, hregistered⟩
    | some session =>
      obtain ⟨hwork, hversion⟩ :=
        @Device.perform_retry device session.version succeeds workerId delayMs
      exact ⟨hheld.congr hwork hversion, hregistered⟩
  | clearRetry workerId succeeds =>
    match session with
    | none => exact ⟨hheld, hregistered⟩
    | some ⟨version, registry, rest⟩ =>
      obtain ⟨k, hk⟩ := hregistered _ rfl
      have hcalls := hk.cancel hdistinct workerId
      obtain ⟨hwork, hversion⟩ := @Device.perform_cancel device version succeeds workerId
      simp only at hcalls
      simp only [workManager.step, hcalls, performAll, List.foldl_cons, List.foldl_nil]
      exact ⟨hheld.congr hwork hversion, fun session hsession => hregistered session hsession⟩
  | wipe succeeds =>
    refine ⟨?_, fun _ hsession => by cases hsession⟩
    simp only [workManager.step, Device.perform]
    split
    · exact ⟨0, 0, Device.work_cancelUniqueWork PERIODIC_WORK⟩
    · exact hheld
  | stop => exact ⟨hheld, fun _ hsession => by cases hsession⟩

theorem Sound.run (hdistinct : Distinct releases) (h : Sound releases state)
    (events : List Event) : Sound releases (run releases state events) := by
  induction events generalizing state with
  | nil => exact h
  | cons event events ih => exact ih (h.step hdistinct event)

/-! ### A session in which nothing fails -/

/-- A session that has registered `k` workers without a failure. As long as all ticks have been the
    same WorkManager may keep the one it had before the session, and then it has the last one. -/
structure Enrolled (releases : Nat → List PeriodicSpec) (state : State) (session : Session)
    (k : Nat) : Prop where
  standing : state.session = some session
  registered : Registered releases session k
  held : Held releases state.device
  enqueued : 0 < k → state.device.scheduleVersion = session.version ∧
    (state.device.work PERIODIC_WORK).isSome = true ∧
      (state.device.periodic = prefixTick releases session.version k ∨
        ∀ i ≤ k, 0 < i → prefixTick releases session.version i =
          prefixTick releases session.version 1)

theorem Enrolled.congr {device' : Device} (h : Enrolled releases state session k)
    (hwork : device'.work PERIODIC_WORK = state.device.work PERIODIC_WORK)
    (hversion : device'.scheduleVersion = state.device.scheduleVersion) :
    Enrolled releases { state with device := device' } session k := by
  have hperiodic : device'.periodic = state.device.periodic := by
    simp only [Device.periodic, hwork]
  refine ⟨h.standing, h.registered, h.held.congr hwork hversion, fun hk => ?_⟩
  simp only [hwork, hversion, hperiodic]
  exact h.enqueued hk

theorem Enrolled.register {registry : SpecRegistry} {spec : PeriodicSpec}
    {rest : List PeriodicSpec} {succeeds : Device.Call → Bool}
    (h : Enrolled releases state ⟨version, registry, spec :: rest⟩ k)
    (hsucceeds : ∀ call, succeeds call = true) :
    ∃ registry', Enrolled releases (workManager.step releases state (.register succeeds))
      ⟨version, registry', rest⟩ (k + 1) := by
  obtain ⟨tick, registry', htick, hcalls, hnext⟩ := h.registered.register
  refine ⟨registry', ?_⟩
  obtain ⟨device, session⟩ := state
  obtain rfl : session = _ := h.standing
  simp only [workManager.step, hcalls]
  by_cases hsame : prefixTick releases version k = some tick
  · have hpositive : 0 < k := by
      cases k with
      | zero => cases hsame
      | succ k => exact Nat.succ_pos k
    obtain ⟨hversion, hsome, hcurrent⟩ := h.enqueued hpositive
    rw [if_pos hsame]
    refine ⟨rfl, hnext, h.held, fun _ => ⟨hversion, hsome, ?_⟩⟩
    obtain hcurrent | hcurrent := hcurrent
    · exact .inl (hcurrent.trans (hsame.trans htick.symm))
    · refine .inr fun i hi hpos => ?_
      obtain rfl | hi := Nat.eq_or_lt_of_le hi
      · exact (htick.trans hsame.symm).trans (hcurrent k (Nat.le_refl k) hpositive)
      · exact hcurrent i (Nat.le_of_lt_succ hi) hpos
  · rw [if_neg hsame]
    simp only [performAll, List.foldl_cons, List.foldl_nil, Device.perform, hsucceeds, if_true]
    refine ⟨rfl, hnext, h.held.schedulePeriodic htick, fun _ => ?_⟩
    obtain ⟨hversion, ⟨hreplace, -, hsome, hwork⟩ | hwork⟩ := Device.schedulePeriodic_cases version
      ⟨tick, (prefixTick releases version k).isSome⟩ device
    · refine ⟨hversion, by rwa [hwork], .inr fun i hi hpos => ?_⟩
      have hzero := h.registered.eq_zero (by simpa using hreplace)
      obtain rfl : i = 1 := by omega
      rfl
    · refine ⟨hversion, by rw [hwork]; rfl, .inl ?_⟩
      simp only [Device.periodic, hwork, htick]

theorem Enrolled.step (hdistinct : Distinct releases) (h : Enrolled releases state session k)
    (hsmooth : event.Smooth) :
    ∃ session' k', session'.version = session.version ∧
      Enrolled releases (workManager.step releases state event) session' k' := by
  obtain ⟨version, registry, rest⟩ := session
  cases event with
  | unlock version => exact hsmooth.elim
  | register succeeds =>
    cases rest with
    | nil =>
      have hsame : workManager.step releases state (.register succeeds) = state := by
        simp only [workManager.step, h.standing]
      refine ⟨⟨version, registry, []⟩, k, rfl, ?_⟩
      rw [hsame]
      exact h
    | cons spec rest =>
      obtain ⟨registry', hnext⟩ := h.register hsmooth
      exact ⟨⟨version, registry', rest⟩, k + 1, rfl, hnext⟩
  | retry workerId delayMs succeeds =>
    have hstep : workManager.step releases state (.retry workerId delayMs succeeds) =
        { state with
          device := state.device.perform version succeeds
            (.scheduleOneShot (retryId workerId) delayMs) } := by
      simp only [workManager.step, h.standing]
    obtain ⟨hwork, hversion⟩ :=
      @Device.perform_retry state.device version succeeds workerId delayMs
    exact ⟨_, k, rfl, hstep ▸ h.congr hwork hversion⟩
  | clearRetry workerId succeeds =>
    have hcalls := h.registered.cancel hdistinct workerId
    simp only at hcalls
    have hstep : workManager.step releases state (.clearRetry workerId succeeds) =
        { state with
          device := state.device.perform version succeeds (.cancel (retryId workerId)) } := by
      simp only [workManager.step, h.standing, hcalls, performAll, List.foldl_cons, List.foldl_nil]
    obtain ⟨hwork, hversion⟩ := @Device.perform_cancel state.device version succeeds workerId
    exact ⟨_, k, rfl, hstep ▸ h.congr hwork hversion⟩
  | wipe succeeds => exact hsmooth.elim
  | stop => exact hsmooth.elim

theorem Enrolled.run (hdistinct : Distinct releases) {events : List Event}
    (h : Enrolled releases state session k) (hsmooth : ∀ event ∈ events, event.Smooth) :
    ∃ session' k', session'.version = session.version ∧
      Enrolled releases (workManager.run releases state events) session' k' := by
  induction events generalizing state session k with
  | nil => exact ⟨session, k, rfl, h⟩
  | cons event events ih =>
    obtain ⟨session', k', hversion, hnext⟩ := h.step hdistinct (hsmooth event List.mem_cons_self)
    obtain ⟨session'', k'', hversion', hlast⟩ := ih hnext fun e he =>
      hsmooth e (List.mem_cons_of_mem _ he)
    exact ⟨session'', k'', hversion'.trans hversion, hlast⟩

theorem enrolled_unlock (h : Sound releases state) (version : Nat) :
    Enrolled releases (workManager.step releases state (.unlock version))
      ⟨version, .empty, engineWorkers releases version⟩ 0 :=
  ⟨rfl, .initial version, h.held, fun hk => absurd hk (Nat.lt_irrefl 0)⟩

/-- A session with no worker left to register has the tick of all of them. -/
theorem Enrolled.tick (h : Enrolled releases state session k) (hdone : session.rest = [])
    (hworkers : engineWorkers releases session.version ≠ []) :
    state.device.periodic = coalesce (engineWorkers releases session.version) := by
  have hall : ∀ i, k ≤ i → prefixTick releases session.version i =
      coalesce (engineWorkers releases session.version) := by
    intro i hi
    have hlength := List.drop_eq_nil_iff.1 (h.registered.rest.symm.trans hdone)
    rw [prefixTick, List.take_of_length_le (Nat.le_trans hlength hi)]
  have hpositive : 0 < k := by
    refine Nat.pos_of_ne_zero fun hzero => hworkers (coalesce_eq_none_iff.1 ?_)
    rw [← hall k (Nat.le_refl k), hzero]
    rfl
  obtain ⟨hversion, hsome, hcurrent⟩ := h.enqueued hpositive
  obtain hcurrent | hcurrent := hcurrent
  · exact hcurrent.trans (hall k (Nat.le_refl k))
  · -- WorkManager kept the tick of some workers, and all ticks are the same.
    obtain ⟨i, generation, hheld⟩ := h.held
    rw [hversion] at hheld
    have hlast := (hcurrent k (Nat.le_refl k) hpositive).symm.trans (hall k (Nat.le_refl k))
    have htick : prefixTick releases session.version i =
        coalesce (engineWorkers releases session.version) := by
      obtain hle | hlt := Nat.lt_or_ge k i
      · exact hall i (Nat.le_of_lt hle)
      · refine (hcurrent i hlt (Nat.pos_of_ne_zero fun hzero => ?_)).trans hlast
        rw [hheld, hzero] at hsome
        cases hsome
    cases hcoalesce : coalesce (engineWorkers releases session.version) with
    | none => exact absurd (coalesce_eq_none_iff.1 hcoalesce) hworkers
    | some tick =>
      rw [htick, hcoalesce] at hheld
      simp only [Device.periodic, hheld, Option.map_some]

/-- The release stays the same, and the tick is not cancelled. Sessions end, and calls fail. -/
def Event.Of (version : Nat) : Event → Prop
  | unlock version' => version' = version
  | wipe _ => False
  | _ => True

/-- The work that was enqueued for a release stands, and every session is one of that release. -/
structure Standing (releases : Nat → List PeriodicSpec) (version : Nat) (work : Work)
    (state : State) : Prop where
  sound : Sound releases state
  scheduleVersion : state.device.scheduleVersion = version
  work : state.device.work PERIODIC_WORK = some work
  session : ∀ session ∈ state.session, session.version = version

/-- Only the first tick is asked for, and it is not to replace the one that stands. -/
theorem performAll_kept {work : Work} {tick : CoalescedTick} (succeeds : Device.Call → Bool)
    (hsame : ∀ k, 0 < k → prefixTick releases version k = prefixTick releases version 1)
    (htick : prefixTick releases version (k + 1) = some tick)
    (hversion : device.scheduleVersion = version) (hwork : device.work PERIODIC_WORK = some work) :
    performAll version succeeds
      (if prefixTick releases version k = some tick then []
        else [.schedulePeriodic ⟨tick, (prefixTick releases version k).isSome⟩]) device =
      device := by
  split
  · rfl
  · next hchanged =>
    have hzero : k = 0 := by
      by_contra hk
      exact hchanged ((hsame k (Nat.pos_of_ne_zero hk)).trans
        ((hsame (k + 1) (Nat.succ_pos k)).symm.trans htick))
    subst hzero
    have hkept := Device.schedulePeriodic_kept tick hversion (Option.isSome_of_mem hwork)
    simp only [performAll, List.foldl_cons, List.foldl_nil, Device.perform]
    split
    · exact hkept
    · rfl

theorem Standing.step {work : Work} (hdistinct : Distinct releases)
    (hsame : ∀ k, 0 < k → prefixTick releases version k = prefixTick releases version 1)
    (h : Standing releases version work state) (hevent : event.Of version) :
    Standing releases version work (workManager.step releases state event) := by
  have hsound := h.sound.step hdistinct event
  obtain ⟨device, session⟩ := state
  obtain ⟨⟨-, hregistered⟩, hversion, hwork, hsession⟩ := h
  simp only at hregistered hversion hwork hsession
  cases event with
  | unlock version' =>
    obtain rfl := hevent
    exact ⟨hsound, hversion, hwork, fun session h => Option.some.inj h ▸ rfl⟩
  | register succeeds =>
    match session with
    | none => exact ⟨hsound, hversion, hwork, hsession⟩
    | some ⟨version', registry, []⟩ => exact ⟨hsound, hversion, hwork, hsession⟩
    | some ⟨version', registry, spec :: rest⟩ =>
      obtain rfl : version' = version := hsession _ rfl
      obtain ⟨k, hk⟩ := hregistered _ rfl
      obtain ⟨tick, registry', htick, hcalls, hnext⟩ := hk.register
      have hperform := performAll_kept succeeds hsame htick hversion hwork
      simp only [workManager.step, hcalls, hperform] at hsound ⊢
      exact ⟨hsound, hversion, hwork, fun session h => Option.some.inj h ▸ rfl⟩
  | retry workerId delayMs succeeds =>
    cases session with
    | none => exact ⟨hsound, hversion, hwork, hsession⟩
    | some session =>
      obtain ⟨hsamework, hsameversion⟩ :=
        @Device.perform_retry device session.version succeeds workerId delayMs
      exact ⟨hsound, hsameversion.trans hversion, hsamework.trans hwork, hsession⟩
  | clearRetry workerId succeeds =>
    match session with
    | none => exact ⟨hsound, hversion, hwork, hsession⟩
    | some ⟨version', registry, rest⟩ =>
      obtain ⟨k, hk⟩ := hregistered _ rfl
      have hcalls := hk.cancel hdistinct workerId
      obtain ⟨hsamework, hsameversion⟩ := @Device.perform_cancel device version' succeeds workerId
      simp only at hcalls
      simp only [workManager.step, hcalls, performAll, List.foldl_cons, List.foldl_nil] at hsound ⊢
      exact ⟨hsound, hsameversion.trans hversion, hsamework.trans hwork, hsession⟩
  | wipe succeeds => exact hevent.elim
  | stop => exact ⟨hsound, hversion, hwork, fun _ h => by cases h⟩

end

/-! ### The workers of the app -/

/-- `buildWorkerSpecs`, as far as the scheduler sees it, with its `WORKER_INTERVALS`. -/
def buildWorkerSpecs : List PeriodicSpec :=
  [⟨"pending-transactions", 15 * 60000, true⟩,
    ⟨"incoming-discovery", 15 * 60000, true⟩,
    ⟨"lora", 30000, true⟩,
    ⟨"response-sender", 15 * 60000, true⟩,
    ⟨"watched-outpoints", 30 * 60000, true⟩,
    ⟨"reclaim-batch", 60 * 60000, true⟩,
    ⟨"balance-refresh", 30 * 60000, true⟩,
    ⟨"profile-refresh", 6 * 3600000, true⟩,
    ⟨"database-maintenance", 24 * 3600000, false⟩]

/-- Releases that all have these workers. -/
def appReleases : Nat → List PeriodicSpec := fun _ => buildWorkerSpecs

theorem appReleases_distinct : Distinct appReleases := by
  intro version spec hspec workerId hid
  have hsuffix : (":retry" : String).toList <:+ spec.id.toList :=
    ⟨workerId.toList, by rw [hid, retryId, String.toList_append]⟩
  have hworkers : ∀ spec ∈ buildWorkerSpecs, ¬(":retry" : String).toList <:+ spec.id.toList := by
    decide
  exact hworkers spec hspec hsuffix

/-- However many of them are registered, the tick is the one that the first of them asks for. -/
theorem appReleases_tick (version : Nat) (k : Nat) (hk : 0 < k) :
    prefixTick appReleases version k = some ⟨WORKMANAGER_MIN_INTERVAL_MS, true⟩ := by
  have hsmall : ∀ k < 10, 0 < k →
      coalesce (buildWorkerSpecs.take k) = some ⟨WORKMANAGER_MIN_INTERVAL_MS, true⟩ := by decide
  have hworkers : engineWorkers appReleases version = buildWorkerSpecs := by
    have hengine : engineWorkers appReleases version =
      buildWorkerSpecs.foldl (InsertionOrder.set PeriodicSpec.id) [] := rfl
    rw [hengine]
    decide
  rw [prefixTick, hworkers]
  obtain hlt | hge := Nat.lt_or_ge k 10
  · exact hsmall k hlt hk
  · have hlength : buildWorkerSpecs.length ≤ k := Nat.le_trans (by decide) hge
    rw [List.take_of_length_le hlength]
    exact hsmall 9 (by decide) (by decide)

/-- A session that registers every worker. -/
def registerAll : List Event := List.replicate 9 (.register fun _ => true)

/-- A session in which a call fails, and the process dies before its last worker. -/
def brokenSession : List Event :=
  .unlock 1 :: .register (fun _ => false) :: List.replicate 4 (.register fun _ => true) ++ [.stop]

end cemp.app.workManager
