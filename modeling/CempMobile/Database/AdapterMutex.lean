import CempMobile.Database.AsyncMutex

/-! The two adapters over the mutex: `transaction`, `close` and `destroy`. -/

namespace cemp.database

inductive Statement where
  | BEGIN
  | COMMIT
  | ROLLBACK
  deriving DecidableEq, Repr

/-- How far a function that was awaited has come. -/
inductive Progress (Value Error : Type) where
  | pending
  | resolved (value : Value)
  | rejected (error : Error)

/-- The database library, and the functions that are passed to `transaction`. A statement that throws
    may have changed the database too. -/
structure Driver (Db Fn Value Error : Type) where
  execute : Statement → Db → Db × Option Error
  close : Db → Db × Option Error
  delete : Db → Db × Option Error
  /-- A handle that was opened again to delete its file, the errors of which are ignored. -/
  deleteClosed : Db → Db
  callback : Fn → Db → Progress Value Error → Db → Prop

/-- What the adapter keeps of its connection. -/
structure Connection (Db : Type) where
  db : Db
  closed : Bool

/-- Where the function that `transaction` passes to the mutex stands. -/
inductive TransactionBody (Value Error : Type) where
  | beginning
  | calling
  | committing (value : Value)
  | rollingBack (error : Error)
  /-- `close` and `destroy` resolve to no value. -/
  | settled (result : Except Error (Option Value))

def TransactionBody.outcome {Value Error : Type} :
    TransactionBody Value Error → Option (Except Error (Option Value))
  | settled result => some result
  | _ => none

variable {Db Fn Value Error : Type}

/-- `close` under the lock, which is the same in both adapters. -/
def closeLocked (driver : Driver Db Fn Value Error) (connection : Connection Db) :
    TransactionBody Value Error × Connection Db :=
  if connection.closed then (.settled (.ok none), connection)
  else
    match driver.close connection.db with
    | (db, some error) => (.settled (.error error), ⟨db, false⟩)
    | (db, none) => (.settled (.ok none), ⟨db, true⟩)

namespace NodeSqliteAdapter

inductive Job (Fn : Type) where
  | transaction (fn : Fn)
  | close

/-- `BEGIN IMMEDIATE`. The handle is synchronous: the function is called where it does not throw. -/
def begin (driver : Driver Db Fn Value Error) (connection : Connection Db) :
    TransactionBody Value Error × Connection Db :=
  match driver.execute .BEGIN connection.db with
  | (db, some error) => (.settled (.error error), { connection with db := db })
  | (db, none) => (.calling, { connection with db := db })

/-- The `catch`: what `ROLLBACK` throws takes the place of the error. -/
def rollback (driver : Driver Db Fn Value Error) (error : Error) (connection : Connection Db) :
    TransactionBody Value Error × Connection Db :=
  match driver.execute .ROLLBACK connection.db with
  | (db, some thrown) => (.settled (.error thrown), { connection with db := db })
  | (db, none) => (.settled (.error error), { connection with db := db })

/-- What follows where the function is pending still, has resolved or has rejected. -/
def afterCall (driver : Driver Db Fn Value Error) (connection : Connection Db) :
    Progress Value Error → TransactionBody Value Error × Connection Db
  | .pending => (.calling, connection)
  | .resolved value =>
    match driver.execute .COMMIT connection.db with
    | (db, some error) => rollback driver error { connection with db := db }
    | (db, none) => (.settled (.ok (some value)), { connection with db := db })
  | .rejected error => rollback driver error connection

def calls (driver : Driver Db Fn Value Error) :
    Job Fn → Connection Db → TransactionBody Value Error × Connection Db
  | .transaction _, connection => begin driver connection
  | .close, connection => closeLocked driver connection

inductive Advances (driver : Driver Db Fn Value Error) : Job Fn → TransactionBody Value Error →
    Connection Db → TransactionBody Value Error → Connection Db → Prop where
  | calling {fn connection progress db}
    (hcallback : driver.callback fn connection.db progress db) :
    Advances driver (.transaction fn) .calling connection
      (afterCall driver { connection with db := db } progress).1
      (afterCall driver { connection with db := db } progress).2

/-- On a closed connection both methods end before the mutex. Statements outside of it change the
    database, but close nothing. -/
def bodies (driver : Driver Db Fn Value Error) :
    Bodies (Job Fn) (TransactionBody Value Error) (Connection Db) (Except Error (Option Value)) where
  admits _ connection := connection.closed = false
  begins job connection body connection' := calls driver job connection = (body, connection')
  advances := Advances driver
  outcome := TransactionBody.outcome
  ambient connection connection' := connection'.closed = connection.closed
  begins_total _ _ := ⟨_, _, rfl⟩

end NodeSqliteAdapter

namespace OpSqlCipherAdapter

inductive Job (Fn : Type) where
  | transaction (fn : Fn)
  | close
  | destroy

/-- `destroy` under the lock. -/
def destroyLocked (driver : Driver Db Fn Value Error) (connection : Connection Db) :
    TransactionBody Value Error × Connection Db :=
  if connection.closed then
    (.settled (.ok none), { connection with db := driver.deleteClosed connection.db })
  else
    match driver.delete connection.db with
    | (db, some error) => (.settled (.error error), ⟨db, false⟩)
    | (db, none) => (.settled (.ok none), ⟨db, true⟩)

def calls (driver : Driver Db Fn Value Error) :
    Job Fn → Connection Db → TransactionBody Value Error × Connection Db
  | .transaction _, connection => (.beginning, connection)
  | .close, connection => closeLocked driver connection
  | .destroy, connection => destroyLocked driver connection

/-- The statement that was awaited has thrown or not. -/
def afterStatement (driver : Driver Db Fn Value Error) (connection : Connection Db) :
    TransactionBody Value Error → TransactionBody Value Error × Connection Db
  | .beginning =>
    match driver.execute .BEGIN connection.db with
    | (db, some error) => (.settled (.error error), { connection with db := db })
    | (db, none) => (.calling, { connection with db := db })
  | .committing value =>
    match driver.execute .COMMIT connection.db with
    | (db, some error) => (.rollingBack error, { connection with db := db })
    | (db, none) => (.settled (.ok (some value)), { connection with db := db })
  | .rollingBack error =>
    match driver.execute .ROLLBACK connection.db with
    | (db, some thrown) => (.settled (.error thrown), { connection with db := db })
    | (db, none) => (.settled (.error error), { connection with db := db })
  | body => (body, connection)

def afterCall : Progress Value Error → TransactionBody Value Error
  | .pending => .calling
  | .resolved value => .committing value
  | .rejected error => .rollingBack error

inductive Advances (driver : Driver Db Fn Value Error) : Job Fn → TransactionBody Value Error →
    Connection Db → TransactionBody Value Error → Connection Db → Prop where
  | statement {fn connection body} (hbody : body ≠ .calling) :
    Advances driver (.transaction fn) body connection (afterStatement driver connection body).1
      (afterStatement driver connection body).2
  | calling {fn connection progress db}
    (hcallback : driver.callback fn connection.db progress db) :
    Advances driver (.transaction fn) .calling connection (afterCall progress)
      { connection with db := db }

/-- `destroy` does not ask whether the connection is closed before it queues. -/
def bodies (driver : Driver Db Fn Value Error) :
    Bodies (Job Fn) (TransactionBody Value Error) (Connection Db) (Except Error (Option Value)) where
  admits job connection := job = .destroy ∨ connection.closed = false
  begins job connection body connection' := calls driver job connection = (body, connection')
  advances := Advances driver
  outcome := TransactionBody.outcome
  ambient connection connection' := connection'.closed = connection.closed
  begins_total _ _ := ⟨_, _, rfl⟩

end OpSqlCipherAdapter

open AsyncMutex

section Guarded

variable {Job Body Outcome : Type} (bodies : Bodies Job Body (Connection Db) Outcome)
  (transaction closing : Job → Prop)

/-- The connection is closed only where the function of a closing job is called. -/
structure ClosesWhenCalled : Prop where
  begins : ∀ {job connection body connection'}, bodies.begins job connection body connection' →
    connection.closed = false → connection'.closed = true → closing job
  advances : ∀ {job body connection body' connection'},
    bodies.advances job body connection body' connection' → connection'.closed = connection.closed
  ambient : ∀ {connection connection'}, bodies.ambient connection connection' →
    connection'.closed = connection.closed

/-- No two transactions are in progress at once, a teardown is called when every call queued before
    it has returned, and the connection is closed by nothing else. -/
structure Guarded (mutex : AsyncMutex Job Body (Connection Db) Outcome) : Prop where
  apart : ∀ {first second : Nat} {a b : Caller Job Body Outcome} {body body' : Body},
    mutex.callers[first]? = some a → mutex.callers[second]? = some b →
      transaction a.job → transaction b.job →
      a.phase = .running body → b.phase = .running body' → first = second
  waits : ∀ {first index : Nat} {a caller : Caller Job Body Outcome}, first < index →
    mutex.callers[first]? = some a → mutex.callers[index]? = some caller → closing caller.job →
      caller.phase ≠ .waiting → ∃ body result, a.phase = .done body result
  closed : ∀ {event : Event} {mutex'}, Step bodies mutex event mutex' →
    mutex.shared.closed = false → mutex'.shared.closed = true →
      ∃ index caller, event = .resume index ∧ mutex.callers[index]? = some caller ∧
        closing caller.job ∧ ∀ other a, mutex.callers[other]? = some a →
          (∃ body result, a.phase = .done body result) ∨ index ≤ other ∧ a.phase = .waiting

variable {bodies transaction closing}

theorem ClosesWhenCalled.guarded (h : ClosesWhenCalled bodies closing)
    {mutex : AsyncMutex Job Body (Connection Db) Outcome} (hsound : Sound bodies mutex) :
    Guarded bodies transaction closing mutex where
  apart hfirst hsecond _ _ ha hb := hsound.serialized.exclusive hfirst hsecond ha hb
  waits hlt hfirst hcaller _ hcalled := hsound.serialized.order hlt hfirst hcaller hcalled
  closed {event mutex'} hstep hopen hclosed := by
    cases hstep with
    | call => exact absurd (hopen.symm.trans hclosed) (by decide)
    | advance hcaller hrunning hpending hadvances =>
      exact absurd (((h.advances hadvances).trans hopen).symm.trans hclosed) (by decide)
    | finish => exact absurd (hopen.symm.trans hclosed) (by decide)
    | ambient hambient =>
      exact absurd (((h.ambient hambient).trans hopen).symm.trans hclosed) (by decide)
    | @resume index caller body shared hcaller hwaiting hresolved hbegins =>
      refine ⟨index, caller, rfl, hcaller, h.begins hbegins hopen hclosed, fun other a hother => ?_⟩
      by_cases hlt : other < index
      · have hreleased := hsound.released_of_resolved hcaller hresolved hlt hother
        exact .inl ((hsound.standing hother).done_of_released hreleased)
      · refine .inr ⟨Nat.le_of_not_lt hlt, ?_⟩
        by_contra hcalled
        rcases Nat.lt_or_eq_of_le (Nat.le_of_not_lt hlt) with hlt | rfl
        · have hreleased := hsound.order hlt hcaller hother hcalled
          obtain ⟨body, result, hdone⟩ := (hsound.standing hcaller).done_of_released hreleased
          rw [hwaiting] at hdone
          cases hdone
        · rw [hcaller] at hother
          exact hcalled (Option.some.inj hother ▸ hwaiting)

end Guarded

namespace NodeSqliteAdapter

def IsTransaction (job : Job Fn) : Prop := ∃ fn, job = .transaction fn

theorem closed_begin (driver : Driver Db Fn Value Error) (connection : Connection Db) :
    (begin driver connection).2.closed = connection.closed := by
  unfold begin
  split <;> rfl

theorem closed_rollback (driver : Driver Db Fn Value Error) (error : Error)
    (connection : Connection Db) :
    (rollback driver error connection).2.closed = connection.closed := by
  unfold rollback
  split <;> rfl

theorem closed_afterCall (driver : Driver Db Fn Value Error) (connection : Connection Db)
    (progress : Progress Value Error) :
    (afterCall driver connection progress).2.closed = connection.closed := by
  cases progress with
  | pending => rfl
  | resolved value =>
    simp only [afterCall]
    split
    · exact closed_rollback driver _ _
    · rfl
  | rejected error => exact closed_rollback driver error connection

theorem closesWhenCalled (driver : Driver Db Fn Value Error) :
    ClosesWhenCalled (bodies driver) (· = .close) where
  begins {job connection body connection'} hbegins hopen hclosed := by
    cases job with
    | transaction fn =>
      have hkept := closed_begin driver connection
      rw [show begin driver connection = (body, connection') from hbegins, hclosed, hopen] at hkept
      cases hkept
    | close => rfl
  advances hadvances := by
    cases hadvances with
    | calling hcallback => exact closed_afterCall driver _ _
  ambient hambient := hambient

end NodeSqliteAdapter

namespace OpSqlCipherAdapter

def IsTransaction (job : Job Fn) : Prop := ∃ fn, job = .transaction fn

theorem closed_afterStatement (driver : Driver Db Fn Value Error) (connection : Connection Db)
    (body : TransactionBody Value Error) :
    (afterStatement driver connection body).2.closed = connection.closed := by
  cases body with
  | beginning =>
    simp only [afterStatement]
    split <;> rfl
  | calling => rfl
  | committing value =>
    simp only [afterStatement]
    split <;> rfl
  | rollingBack error =>
    simp only [afterStatement]
    split <;> rfl
  | settled result => rfl

theorem closesWhenCalled (driver : Driver Db Fn Value Error) :
    ClosesWhenCalled (bodies driver) (fun job => job = .close ∨ job = .destroy) where
  begins {job connection body connection'} hbegins hopen hclosed := by
    cases job with
    | transaction fn =>
      cases hbegins
      exact absurd (hopen.symm.trans hclosed) (by decide)
    | close => exact .inl rfl
    | destroy => exact .inr rfl
  advances hadvances := by
    cases hadvances with
    | statement hbody => exact closed_afterStatement driver _ _
    | calling hcallback => rfl
  ambient hambient := hambient

end OpSqlCipherAdapter

/-- Bodies run one at a time in the order of their calls, each call ends as its own body does, and
    every call ends where every body settles, whichever way. So the transactions of an adapter never
    overlap, and its teardown waits for those that were queued before it. -/
theorem mutex_serializes :
    (∀ {Job Body Shared Outcome : Type} (bodies : Bodies Job Body Shared Outcome) (shared : Shared),
      (∀ mutex, Reachable bodies shared mutex → Serialized bodies mutex) ∧
      ∀ run : Run bodies shared, run.Fair → ∀ time index caller,
        (run.state time).callers[index]? = some caller →
          ∃ later, time ≤ later ∧ run.Done index later) ∧
    (∀ {Db Fn Value Error : Type} (driver : Driver Db Fn Value Error) connection mutex,
      Reachable (NodeSqliteAdapter.bodies driver) connection mutex →
        Guarded (NodeSqliteAdapter.bodies driver) NodeSqliteAdapter.IsTransaction (· = .close)
          mutex) ∧
    ∀ {Db Fn Value Error : Type} (driver : Driver Db Fn Value Error) connection mutex,
      Reachable (OpSqlCipherAdapter.bodies driver) connection mutex →
        Guarded (OpSqlCipherAdapter.bodies driver) OpSqlCipherAdapter.IsTransaction
          (fun job => job = .close ∨ job = .destroy) mutex := by
  refine ⟨fun bodies shared => ⟨?_, ?_⟩, ?_, ?_⟩
  · intro mutex hmutex
    exact hmutex.sound.serialized
  · intro run hfair time index caller hcaller
    exact hfair.done hcaller
  · intro Db Fn Value Error driver connection mutex hmutex
    exact (NodeSqliteAdapter.closesWhenCalled driver).guarded hmutex.sound
  · intro Db Fn Value Error driver connection mutex hmutex
    exact (OpSqlCipherAdapter.closesWhenCalled driver).guarded hmutex.sound

/-- Functions that settle when they are called. -/
def settling : Bodies (Except String Nat) (Except String Nat) Unit (Except String Nat) where
  admits _ _ := True
  begins job _ body _ := body = job
  advances _ _ _ _ _ := False
  outcome body := some body
  ambient _ _ := True
  begins_total job _ := ⟨job, (), rfl⟩

/-- Two calls, the body of the first of which rejects. -/
def rejectsFirst : Nat → AsyncMutex (Except String Nat) (Except String Nat) Unit (Except String Nat)
  | 0 => ⟨[], none, ()⟩
  | 1 => ⟨[⟨.error "offline", none, .waiting, false⟩], some 0, ()⟩
  | 2 => ⟨[⟨.error "offline", none, .waiting, false⟩, ⟨.ok 7, some 0, .waiting, false⟩], some 1, ()⟩
  | 3 => ⟨[⟨.error "offline", none, .running (.error "offline"), false⟩,
      ⟨.ok 7, some 0, .waiting, false⟩], some 1, ()⟩
  | 4 => ⟨[⟨.error "offline", none, .done (.error "offline") (.error "offline"), true⟩,
      ⟨.ok 7, some 0, .waiting, false⟩], some 1, ()⟩
  | 5 => ⟨[⟨.error "offline", none, .done (.error "offline") (.error "offline"), true⟩,
      ⟨.ok 7, some 0, .running (.ok 7), false⟩], some 1, ()⟩
  | _ => ⟨[⟨.error "offline", none, .done (.error "offline") (.error "offline"), true⟩,
      ⟨.ok 7, some 0, .done (.ok 7) (.ok 7), true⟩], some 1, ()⟩

def rejectsFirstRun : Run settling () where
  state := rejectsFirst
  start := rfl
  next
    | 0 => .inr ⟨_, @Step.call _ _ _ _ settling _ (.error "offline") trivial⟩
    | 1 => .inr ⟨_, @Step.call _ _ _ _ settling _ (.ok 7) trivial⟩
    | 2 => .inr ⟨_, @Step.resume _ _ _ _ settling (rejectsFirst 2) 0 _ _ () rfl rfl trivial rfl⟩
    | 3 => .inr ⟨_, @Step.finish _ _ _ _ settling (rejectsFirst 3) 0 _ _ _ rfl rfl rfl⟩
    | 4 => .inr ⟨_, @Step.resume _ _ _ _ settling (rejectsFirst 4) 1 ⟨.ok 7, some 0, .waiting, false⟩
        _ () rfl rfl ⟨_, rfl, rfl⟩ rfl⟩
    | 5 => .inr ⟨_, @Step.finish _ _ _ _ settling (rejectsFirst 5) 1 _ _ _ rfl rfl rfl⟩
    | _ + 6 => .inl rfl

theorem rejectsFirstRun_done {time index : Nat}
    {caller : Caller (Except String Nat) (Except String Nat) (Except String Nat)}
    (hcaller : (rejectsFirstRun.state time).callers[index]? = some caller) :
    rejectsFirstRun.Done index (time + 6) := by
  obtain ⟨caller', hcaller', -, -⟩ := Run.keeps (Nat.le_add_right time 6) hcaller
  rcases index with - | - | index
  · exact ⟨⟨_, _, .done (.error "offline") (.error "offline"), _⟩, _, _, rfl, rfl⟩
  · exact ⟨⟨_, _, .done (.ok 7) (.ok 7), _⟩, _, _, rfl, rfl⟩
  · exact nomatch hcaller'

theorem rejectsFirstRun_fair : rejectsFirstRun.Fair where
  resumes {time index caller} hcaller _ _ := by
    obtain ⟨caller', body, result, hcaller', hdone⟩ := rejectsFirstRun_done hcaller
    exact ⟨time + 6, caller', Nat.le_add_right time 6, hcaller', by simp [hdone]⟩
  settles {time index caller body} hcaller hrunning :=
    ⟨time, caller, body, body, Nat.le_refl time, hcaller, hrunning, rfl⟩
  returns {time index caller body result} hcaller _ _ :=
    ⟨time + 6, Nat.le_add_right time 6, rejectsFirstRun_done hcaller⟩

/-- A driver that throws nothing. -/
def silentDriver : Driver Unit Unit Unit String where
  execute _ db := (db, none)
  close db := (db, none)
  delete db := (db, none)
  deleteClosed db := db
  callback _ _ progress _ := progress = .resolved ()

/-- The second call returns behind the rejected one, and a close that is queued behind a transaction
    waits for it. -/
theorem mutex_serializes_sample :
    Serialized settling (rejectsFirst 5) ∧
    (∃ later, 2 ≤ later ∧ rejectsFirstRun.Done 1 later) ∧
    Guarded (NodeSqliteAdapter.bodies silentDriver) NodeSqliteAdapter.IsTransaction (· = .close)
      (((AsyncMutex.initial ⟨(), false⟩).call (.transaction ())).call .close) ∧
    Guarded (OpSqlCipherAdapter.bodies silentDriver) OpSqlCipherAdapter.IsTransaction
      (fun job => job = .close ∨ job = .destroy)
      (((AsyncMutex.initial ⟨(), false⟩).call (.transaction ())).call .destroy) := by
  have hreachable : Reachable settling () (rejectsFirst 5) := rejectsFirstRun.reachable 5
  refine ⟨?_, ?_, ?_, ?_⟩
  · exact (mutex_serializes.1 settling ()).1 _ hreachable
  · exact (mutex_serializes.1 settling ()).2 rejectsFirstRun rejectsFirstRun_fair 2 1
      ⟨.ok 7, some 0, .waiting, false⟩ rfl
  · exact mutex_serializes.2.1 silentDriver ⟨(), false⟩ _ ((Reachable.initial.step (.call rfl)).step
      (.call rfl))
  · exact mutex_serializes.2.2 silentDriver ⟨(), false⟩ _
      ((Reachable.initial.step (.call (Or.inr rfl))).step (.call (Or.inl rfl)))

end cemp.database
