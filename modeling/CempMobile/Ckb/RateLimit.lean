import CempMobile.Ckb.Incoming
import CempMobile.Lib.Runs
import CempMobile.Lib.TokenBucket

open Program TokenBucket cemp.core cemp.database

namespace cemp.ckb.limiter

/-- `tokens` and `updatedAt`, the last update in milliseconds. -/
abbrev RateLimitBucketState : Type := TokenBucket ℚ

abbrev RateLimitStore : Type := BucketName → Option RateLimitBucketState

/-- Messages an hour, none of them a negative number. -/
structure HourlyRates extends RateLimiterConfig where
  perContact_nonneg : 0 ≤ perContactPerHour
  global_nonneg : 0 ≤ globalPerHour

/-- The rate a bucket is refilled at, which is also its capacity. -/
def HourlyRates.perHour (config : HourlyRates) (bucket : BucketName) : ℚ :=
  match bucket.profileId with
  | none => config.globalPerHour
  | some _ => config.perContactPerHour

/-- What a limiter asks of its store. -/
inductive BucketOp : Type → Type
  | get (bucket : BucketName) : BucketOp (Option RateLimitBucketState)
  | set (bucket : BucketName) (state : RateLimitBucketState) : BucketOp Unit

abbrev Prog (α : Type) : Type 1 := Program BucketOp Error α

/-- The tokens of a bucket now. A bucket seen for the first time is full, and stored so. -/
def refill (bucket : BucketName) (perHour now : ℚ) : Prog ℚ := do
  let existing ← perform (.get bucket)
  match existing with
  | none =>
    perform (.set bucket ⟨perHour, now⟩)
    return perHour
  | some existing =>
    let elapsed := max 0 (now - existing.updatedAt)
    return min perHour (existing.tokens + elapsed / HOUR_MS * perHour)

/-- Charges the bucket of the sender and the global one, or neither. A sender without a profile
    is charged to the global one only. -/
def consume (config : RateLimiterConfig) (scope : RateLimitScope) (profileId : Option ProfileId)
    (now : ℚ) : Prog Bool := do
  let global ← refill ⟨scope, none⟩ config.globalPerHour now
  match profileId with
  | none =>
    if global < 1 then return false
    else
      perform (.set ⟨scope, none⟩ ⟨global - 1, now⟩)
      return true
  | some profileId =>
    let contact ← refill ⟨scope, some profileId⟩ config.perContactPerHour now
    if contact < 1 ∨ global < 1 then return false
    else
      perform (.set ⟨scope, some profileId⟩ ⟨contact - 1, now⟩)
      perform (.set ⟨scope, none⟩ ⟨global - 1, now⟩)
      return true

/-- What the store does: an access that fails leaves it as it is. -/
inductive Answers : (β : Type) → BucketOp β → RateLimitStore → Except Error β → RateLimitStore → Prop
  | get (bucket : BucketName) (store : RateLimitStore) :
      Answers _ (.get bucket) store (.ok (store bucket)) store
  | set (bucket : BucketName) (state : RateLimitBucketState) (store : RateLimitStore) :
      Answers _ (.set bucket state) store (.ok ()) (Function.update store bucket (some state))
  | fails (β : Type) (op : BucketOp β) (store : RateLimitStore) (e : Error) :
      Answers β op store (.error e) store

/-- A call of `consume`, with the time its clock showed. -/
structure Call where
  scope : RateLimitScope
  profileId : Option ProfileId
  now : ℚ
  deriving DecidableEq

def Call.body (config : RateLimiterConfig) (call : Call) : Prog Bool :=
  consume config call.scope call.profileId call.now

/-- The buckets a call charges when it is accepted. -/
def Call.buckets (call : Call) : List BucketName :=
  match call.profileId with
  | none => [⟨call.scope, none⟩]
  | some profileId => [⟨call.scope, some profileId⟩, ⟨call.scope, none⟩]

/-- What a call's accesses have shown it of the buckets, and those it has charged. A write over a
    row is a charge, and one where there was none is a refill. -/
structure History where
  seen : BucketName → Option (Option RateLimitBucketState)
  charged : List BucketName

def History.empty : History := ⟨fun _ => none, []⟩

def History.next (h : History) : (β : Type) → BucketOp β → Except Error β → History
  | _, .get bucket, .ok row => { h with seen := Function.update h.seen bucket (some row) }
  | _, .set bucket state, .ok _ =>
    { seen := Function.update h.seen bucket (some (some state))
      charged := if h.seen bucket = some none then h.charged else bucket :: h.charged }
  | _, _, .error _ => h

/-- A call in flight or done. -/
structure Running where
  call : Call
  history : History
  rest : Prog Bool

def Running.begin (config : RateLimiterConfig) (call : Call) : Running :=
  ⟨call, .empty, call.body config⟩

def Running.outcome (c : Running) : Option Bool :=
  match c.rest with
  | .ret accepted => some accepted
  | _ => none

def Running.finished (c : Running) : Bool :=
  match c.rest with
  | .call _ _ => false
  | _ => true

/-- The bucket that an access writes. -/
def BucketOp.writes {β : Type} : BucketOp β → Option BucketName
  | .get _ => none
  | .set bucket _ => some bucket

/-- When a call may begin beside others, and when it may write a bucket. -/
structure Discipline where
  begins : List Running → Prop
  writes : RateLimitStore → List Running → Running → BucketName → Prop

/-- Any overlap. -/
def Discipline.any : Discipline := ⟨fun _ => True, fun _ _ _ _ => True⟩

/-- One call after another. -/
def Discipline.serial : Discipline :=
  ⟨fun calls => ∀ c ∈ calls, c.finished = true, fun _ _ _ _ => True⟩

/-- A call writes over the row it has seen, and over none that a call which began later has
    charged. -/
def Discipline.undisturbed : Discipline where
  begins _ := True
  writes store others c bucket :=
    c.history.seen bucket = some (store bucket) ∧
      ∀ other ∈ others, bucket ∈ other.history.charged → other.call.now ≤ c.call.now

/-- The runs of overlapping calls over one store: a call begins, the clock never going back, or
    one of its accesses is answered. -/
inductive Run (config : RateLimiterConfig) (discipline : Discipline) (store₀ : RateLimitStore) :
    RateLimitStore → List Running → Prop
  | start : Run config discipline store₀ store₀ []
  | begins {store : RateLimitStore} {calls : List Running}
      (run : Run config discipline store₀ store calls) (call : Call)
      (clock : ∀ c ∈ calls, c.call.now ≤ call.now) (met : discipline.begins calls) :
      Run config discipline store₀ store (calls ++ [.begin config call])
  | access {store store' : RateLimitStore} {front back : List Running} {c : Running} {β : Type}
      {op : BucketOp β} {k : Except Error β → Prog Bool} {answer : Except Error β}
      (run : Run config discipline store₀ store (front ++ c :: back)) (next : c.rest = .call op k)
      (met : ∀ bucket, op.writes = some bucket → discipline.writes store (front ++ back) c bucket)
      (answered : Answers β op store answer store') :
      Run config discipline store₀ store'
        (front ++ ⟨c.call, c.history.next β op answer, k answer⟩ :: back)

/-- The calls that were accepted in a window, among those that `p` selects. -/
def acceptedWithin (calls : List Running) (p : Call → Bool) (first last : ℚ) : Nat :=
  calls.countP fun c =>
    c.outcome == some true && p c.call && (first ≤ c.call.now && c.call.now ≤ last)

/-- What the limiter promises: in every window no more is accepted than the hourly rate and what
    it gives in the length of the window. -/
structure Bounded (config : RateLimiterConfig) (calls : List Running) : Prop where
  contact : ∀ scope profileId first d, 0 ≤ d →
    (acceptedWithin calls (fun call => call.scope = scope ∧ call.profileId = some profileId)
      first (first + d) : ℚ) ≤ config.perContactPerHour * (1 + d / HOUR_MS)
  global : ∀ scope first d, 0 ≤ d →
    (acceptedWithin calls (fun call => call.scope = scope) first (first + d) : ℚ) ≤
      config.globalPerHour * (1 + d / HOUR_MS)

/-- The token level of a bucket at a time. -/
def level (config : HourlyRates) (store : RateLimitStore) (bucket : BucketName) (time : ℚ) : ℚ :=
  match store bucket with
  | none => config.perHour bucket
  | some state => refilled HOUR_MS (config.perHour bucket) state time

end cemp.ckb.limiter
