import Mathlib.Data.List.Basic
import Mathlib.Data.List.Count

/-! The live camera scans: `CempQrScannerModule` with the one scan that it holds pending, across the
    bridge's threads, the main thread and the activities that it launches. -/

namespace cemp.app.scanner

def REQUEST_CODE_BASE : Nat := 0x4800

def REQUEST_CODE_MASK : Nat := 0xFF

/-- A scan in flight. Every call has a promise of its own. -/
structure PendingScan where
  /-- What `nextRequestCode` was. -/
  serial : Nat
  promise : Nat
  deriving DecidableEq, Repr

def PendingScan.requestCode (scan : PendingScan) : Nat :=
  REQUEST_CODE_BASE + (scan.serial &&& REQUEST_CODE_MASK)

/-- How an activity ends: `RESULT_OK` with the text in its data, if any, or another result. -/
inductive Outcome where
  | ok (text : Option String)
  | permissionDenied
  | canceled
  deriving DecidableEq, Repr

inductive Settlement where
  | resolve (text : Option String)
  | reject (code message : String)
  deriving DecidableEq, Repr

def Outcome.settlement : Outcome → Settlement
  | permissionDenied => .reject "qr-permission-denied" "camera permission was denied"
  | canceled => .resolve none
  | ok text => .resolve text

/-- What the activity of a scan ended with. -/
structure ActivityResult where
  scan : PendingScan
  outcome : Outcome
  deriving DecidableEq, Repr

/-- A promise that was settled, by the result of the activity if by one. -/
structure Settled where
  promise : Nat
  settlement : Settlement
  activity : Option PendingScan
  deriving DecidableEq, Repr

/-- What a thread is about to do. -/
inductive Task where
  /-- `scanWithCamera`, in a foreground activity: `nextRequestCode.getAndIncrement()`. -/
  | numbering (promise : Nat)
  /-- `pending.getAndSet(scan)`. -/
  | installing (scan : PendingScan)
  /-- The rejection of the scan that was pending. -/
  | superseding (scan : PendingScan) (prior : Option PendingScan)
  /-- `startActivityForResult`. -/
  | launching (scan : PendingScan)
  /-- `pending.compareAndSet(scan, null)`, after a launch that failed. -/
  | withdrawing (scan : PendingScan)
  | refusing (promise : Nat)
  /-- `onActivityResult`: `pending.get()`, and the comparison of the request codes. -/
  | reading (result : ActivityResult)
  /-- `pending.compareAndSet(current, null)`. -/
  | swapping (current : PendingScan) (result : ActivityResult)
  | delivering (current : PendingScan) (result : ActivityResult)
  /-- `invalidate`: `pending.getAndSet(null)`. -/
  | closing
  | dropping (prior : PendingScan)
  deriving DecidableEq, Repr

structure World where
  pending : Option PendingScan
  /-- The promises of the scans that took a request code, in order. `nextRequestCode` is how many
      there are. -/
  numbered : List Nat
  /-- Whether the module is still registered as a listener. -/
  listening : Bool
  /-- How many promises there are. -/
  calls : Nat
  tasks : List Task
  /-- The activities that are open. -/
  activities : List PendingScan
  settled : List Settled
  /-- The promises whose launch failed when their scan was no longer pending. -/
  late : List Nat

namespace World

def settle (promise : Nat) (settlement : Settlement) (activity : Option PendingScan) (w : World) :
    World :=
  { w with settled := w.settled ++ [⟨promise, settlement, activity⟩] }

def spawn (task : Task) (w : World) : World := { w with tasks := task :: w.tasks }

end World

open World

/-- One atomic step of a thread. -/
def Task.exec (launches : Bool) (w : World) : Task → World
  | numbering promise =>
    spawn (.installing ⟨w.numbered.length, promise⟩)
      { w with numbered := w.numbered ++ [promise] }
  | installing scan => spawn (.superseding scan w.pending) { w with pending := some scan }
  | superseding scan none => spawn (.launching scan) w
  | superseding scan (some prior) =>
    spawn (.launching scan)
      (settle prior.promise (.reject "qr-scan-cancelled" "superseded by a new scan") none w)
  | launching scan =>
    if launches then { w with activities := scan :: w.activities }
    else spawn (.withdrawing scan) w
  | withdrawing scan =>
    if w.pending = some scan then spawn (.refusing scan.promise) { w with pending := none }
    else spawn (.refusing scan.promise) { w with late := scan.promise :: w.late }
  | refusing promise =>
    settle promise (.reject "qr-scan-error" "could not launch the camera scanner") none w
  | reading result =>
    match w.pending with
    | none => w
    | some current =>
      -- A result of a scan that was superseded already.
      if current.requestCode ≠ result.scan.requestCode then w
      else spawn (.swapping current result) w
  | swapping current result =>
    if w.pending = some current then spawn (.delivering current result) { w with pending := none }
    else w
  | delivering current result =>
    settle current.promise result.outcome.settlement (some result.scan) w
  | closing =>
    match w.pending with
    | none => w
    | some prior => spawn (.dropping prior) { w with pending := none }
  | dropping prior =>
    settle prior.promise
      (.reject "qr-scan-cancelled" "the camera scanner was closed before a result arrived") none w

inductive Event where
  /-- `scanWithCamera` is called, in a foreground activity or without one. -/
  | scan (foreground : Bool)
  /-- A thread goes on; where it launches an activity, the launch succeeds or fails. -/
  | proceed (task : Task) (launches : Bool)
  /-- An activity ends. -/
  | finish (scan : PendingScan) (outcome : Outcome)
  | invalidate
  deriving DecidableEq, Repr

namespace World

def step (w : World) : Event → World
  | .scan foreground =>
    if foreground then spawn (.numbering w.calls) { w with calls := w.calls + 1 }
    else
      settle w.calls (.reject "qr-scan-error" "no foreground activity to launch the scanner") none
        { w with calls := w.calls + 1 }
  | .proceed task launches =>
    if task ∈ w.tasks then task.exec launches { w with tasks := w.tasks.erase task } else w
  | .finish scan outcome =>
    if scan ∈ w.activities then
      if w.listening then
        spawn (.reading ⟨scan, outcome⟩) { w with activities := w.activities.erase scan }
      else { w with activities := w.activities.erase scan }
    else w
  | .invalidate => spawn .closing { w with listening := false }

def run (w : World) (events : List Event) : World := events.foldl step w

/-- A module that was just registered. -/
def fresh : World := ⟨none, [], true, 0, [], [], [], []⟩

/-- How often a promise was settled. -/
def settlements (w : World) (promise : Nat) : Nat :=
  w.settled.countP (·.promise = promise)

end World

/-- No launch of an activity fails. -/
def Event.Launches : Event → Prop
  | .proceed _ launches => launches = true
  | _ => True

/-! ### Who settles a promise -/

/-- The promise that a thread is bound to settle. -/
def Task.holds : Task → Option Nat
  | numbering promise => some promise
  | installing scan => some scan.promise
  | superseding _ prior => prior.map (·.promise)
  | refusing promise => some promise
  | delivering current _ => some current.promise
  | dropping prior => some prior.promise
  | _ => none

/-- The settlements of a promise, those that threads are bound to, and the one that is pending. -/
def World.share (w : World) (promise : Nat) : Nat :=
  w.settlements promise + w.tasks.countP (·.holds = some promise) +
    w.pending.toList.countP (·.promise = promise)

/-- A scan took its request code. -/
def PendingScan.Known (numbered : List Nat) (scan : PendingScan) : Prop :=
  numbered[scan.serial]? = some scan.promise

/-- The scans a thread works with, and which of them have one request code. -/
def Task.Known (numbered : List Nat) : Task → Prop
  | installing scan => scan.Known numbered
  | superseding scan prior => scan.Known numbered ∧ ∀ scan ∈ prior, scan.Known numbered
  | launching scan => scan.Known numbered
  | withdrawing scan => scan.Known numbered
  | reading result => result.scan.Known numbered
  | swapping current result =>
    current.Known numbered ∧ result.scan.Known numbered ∧
      current.requestCode = result.scan.requestCode
  | delivering current result =>
    current.Known numbered ∧ result.scan.Known numbered ∧
      current.requestCode = result.scan.requestCode
  | dropping prior => prior.Known numbered
  | _ => True

/-- A settlement by a result: the scan of the promise has the activity's request code. -/
def Settled.Known (numbered : List Nat) (settled : Settled) : Prop :=
  ∀ activity ∈ settled.activity, activity.Known numbered ∧
    ∃ scan : PendingScan, scan.Known numbered ∧ scan.promise = settled.promise ∧
      scan.requestCode = activity.requestCode

/-- A thread that will see to the pending scan. -/
def Task.Tends (scan : PendingScan) : Task → Prop
  | superseding own _ => own = scan
  | launching own => own = scan
  | withdrawing own => own = scan
  | reading result => result.scan = scan
  | swapping current _ => current = scan
  | _ => False

structure Sound (w : World) : Prop where
  /-- Every promise is settled, held by one thread, or pending. -/
  shares : ∀ promise, w.share promise = (if promise < w.calls then 1 else 0) + w.late.count promise
  tasks : ∀ task ∈ w.tasks, task.Known w.numbered
  pending : ∀ scan ∈ w.pending, scan.Known w.numbered
  activities : ∀ scan ∈ w.activities, scan.Known w.numbered
  settled : ∀ settled ∈ w.settled, settled.Known w.numbered
  /-- The pending scan is going to have a result, as long as the module listens. -/
  tended : w.listening = true → ∀ scan ∈ w.pending,
    scan ∈ w.activities ∨ ∃ task ∈ w.tasks, task.Tends scan

section Shares

variable {w : World} {task task' : Task} {scan : PendingScan} {promise : Nat}

theorem share_spawn (task : Task) (w : World) (promise : Nat) :
    (spawn task w).share promise =
      w.share promise + if task.holds = some promise then 1 else 0 := by
  simp only [World.share, settlements, spawn, List.countP_cons, decide_eq_true_eq]
  omega

theorem share_settle (settled promise : Nat) (settlement : Settlement)
    (activity : Option PendingScan) (w : World) :
    (settle settled settlement activity w).share promise =
      w.share promise + if settled = promise then 1 else 0 := by
  simp only [World.share, settlements, settle, List.countP_append, List.countP_singleton,
    decide_eq_true_eq]
  omega

theorem share_none (w : World) (promise : Nat) :
    w.share promise =
      ({ w with pending := none } : World).share promise +
        w.pending.toList.countP (·.promise = promise) :=
  rfl

/-- The threads in another order. -/
theorem Sound.front (h : Sound w) (hmem : task ∈ w.tasks) :
    Sound (spawn task { w with tasks := w.tasks.erase task }) := by
  have hperm : w.tasks.Perm (task :: w.tasks.erase task) := List.perm_cons_erase hmem
  refine ⟨fun promise => ?_, fun other hother => h.tasks other (hperm.mem_iff.2 hother), h.pending,
    h.activities, h.settled, fun hlistening scan hscan => ?_⟩
  · refine Eq.trans ?_ (h.shares promise)
    simp only [World.share, settlements, spawn, hperm.countP_eq]
  · obtain hopen | ⟨other, hother, htends⟩ := h.tended hlistening scan hscan
    · exact .inl hopen
    · exact .inr ⟨other, hperm.mem_iff.1 hother, htends⟩

/-- A thread that held no promise ends, and was not about to see to the pending scan. -/
theorem Sound.drop (h : Sound (spawn task w)) (hholds : task.holds = none)
    (htends : ∀ scan ∈ w.pending, ¬ task.Tends scan) : Sound w := by
  refine ⟨fun promise => ?_, fun other hother => h.tasks other (List.mem_cons_of_mem _ hother),
    h.pending, h.activities, h.settled, fun hlistening scan hscan => ?_⟩
  · have hshare := h.shares promise
    rw [share_spawn, hholds, if_neg (Option.some_ne_none promise).symm] at hshare
    exact hshare
  · obtain hopen | ⟨other, hother, hsees⟩ := h.tended hlistening scan hscan
    · exact .inl hopen
    · obtain rfl | hother := List.mem_cons.1 hother
      · exact absurd hsees (htends scan hscan)
      · exact .inr ⟨other, hother, hsees⟩

/-- A thread goes on, with the promise that it held. -/
theorem Sound.replace (h : Sound (spawn task w)) (hholds : task'.holds = task.holds)
    (hknown : task'.Known w.numbered)
    (htends : ∀ scan ∈ w.pending, task.Tends scan → task'.Tends scan) : Sound (spawn task' w) := by
  refine ⟨fun promise => ?_, fun other hother => ?_, h.pending, h.activities, h.settled,
    fun hlistening scan hscan => ?_⟩
  · have hshare := h.shares promise
    rw [share_spawn] at hshare
    rw [share_spawn, hholds]
    exact hshare
  · obtain rfl | hother := List.mem_cons.1 hother
    · exact hknown
    · exact h.tasks other (List.mem_cons_of_mem _ hother)
  · obtain hopen | ⟨other, hother, hsees⟩ := h.tended hlistening scan hscan
    · exact .inl hopen
    · obtain rfl | hother := List.mem_cons.1 hother
      · exact .inr ⟨task', List.mem_cons_self, htends scan hscan hsees⟩
      · exact .inr ⟨other, List.mem_cons_of_mem _ hother, hsees⟩

/-- A thread takes the pending scan. -/
theorem Sound.take (h : Sound (spawn task w)) (hnone : task.holds = none)
    (hpending : w.pending = some scan) (hholds : task'.holds = some scan.promise)
    (hknown : task'.Known w.numbered) : Sound (spawn task' { w with pending := none }) := by
  refine ⟨fun promise => ?_, fun other hother => ?_, nofun, h.activities, h.settled, nofun⟩
  · have hshare := h.shares promise
    rw [share_spawn, hnone, share_none, hpending] at hshare
    rw [share_spawn, hholds]
    simp only [Option.toList_some, List.countP_singleton, decide_eq_true_eq, reduceCtorEq, if_false,
      Option.some.injEq, Nat.add_zero] at hshare ⊢
    exact hshare
  · obtain rfl | hother := List.mem_cons.1 hother
    · exact hknown
    · exact h.tasks other (List.mem_cons_of_mem _ hother)

/-- A thread hands its promise to a new one. -/
theorem Sound.split {first second : Task} (h : Sound (spawn task w))
    (hfirst : first.holds = task.holds) (hsecond : second.holds = none) (hknown : first.Known w.numbered ∧
      second.Known w.numbered) (htends : ∀ scan ∈ w.pending, task.Tends scan → second.Tends scan) :
    Sound (spawn first (spawn second w)) := by
  refine ⟨fun promise => ?_, fun other hother => ?_, h.pending, h.activities, h.settled,
    fun hlistening scan hscan => ?_⟩
  · have hshare := h.shares promise
    rw [share_spawn] at hshare
    rw [share_spawn, share_spawn, hfirst, hsecond, if_neg (Option.some_ne_none promise).symm]
    exact hshare
  · obtain rfl | hother := List.mem_cons.1 hother
    · exact hknown.1
    · obtain rfl | hother := List.mem_cons.1 hother
      · exact hknown.2
      · exact h.tasks other (List.mem_cons_of_mem _ hother)
  · obtain hopen | ⟨other, hother, hsees⟩ := h.tended hlistening scan hscan
    · exact .inl hopen
    · obtain rfl | hother := List.mem_cons.1 hother
      · exact .inr ⟨second, List.mem_cons_of_mem _ List.mem_cons_self, htends scan hscan hsees⟩
      · exact .inr ⟨other, List.mem_cons_of_mem _ (List.mem_cons_of_mem _ hother), hsees⟩

/-- A thread settles the promise that it held, and ends. -/
theorem Sound.settles {settlement : Settlement} {activity : Option PendingScan}
    (h : Sound (spawn task w)) (hholds : task.holds = some promise)
    (htends : ∀ scan, ¬ task.Tends scan)
    (hknown : Settled.Known w.numbered ⟨promise, settlement, activity⟩) :
    Sound (settle promise settlement activity w) := by
  refine ⟨fun other => ?_, fun other hother => h.tasks other (List.mem_cons_of_mem _ hother),
    h.pending, h.activities, fun settled hsettled => ?_, fun hlistening scan hscan => ?_⟩
  · have hshare := h.shares other
    rw [share_spawn, hholds] at hshare
    rw [share_settle]
    simp only [Option.some.injEq] at hshare
    exact hshare
  · obtain hold | hnew := List.mem_append.1 hsettled
    · exact h.settled settled hold
    · obtain rfl := List.mem_singleton.1 hnew
      exact hknown
  · obtain hopen | ⟨other, hother, hsees⟩ := h.tended hlistening scan hscan
    · exact .inl hopen
    · obtain rfl | hother := List.mem_cons.1 hother
      · exact absurd hsees (htends scan)
      · exact .inr ⟨other, hother, hsees⟩

theorem PendingScan.Known.append {numbered : List Nat} (h : scan.Known numbered) (more : List Nat) :
    scan.Known (numbered ++ more) :=
  (List.getElem?_append_left (List.getElem?_eq_some_iff.1 h).1).trans h

theorem Task.Known.append {numbered : List Nat} (h : task.Known numbered) (more : List Nat) :
    task.Known (numbered ++ more) := by
  cases task with
  | installing scan => exact PendingScan.Known.append h more
  | superseding scan prior =>
    exact ⟨h.1.append more, fun scan hscan => (h.2 scan hscan).append more⟩
  | launching scan => exact PendingScan.Known.append h more
  | withdrawing scan => exact PendingScan.Known.append h more
  | reading result => exact PendingScan.Known.append h more
  | swapping current result => exact ⟨h.1.append more, h.2.1.append more, h.2.2⟩
  | delivering current result => exact ⟨h.1.append more, h.2.1.append more, h.2.2⟩
  | dropping prior => exact PendingScan.Known.append h more
  | _ => trivial

theorem Settled.Known.append {numbered : List Nat} {settled : Settled} (h : settled.Known numbered)
    (more : List Nat) : settled.Known (numbered ++ more) := by
  intro activity hactivity
  obtain ⟨hknown, own, hown, hpromise, hcode⟩ := h activity hactivity
  exact ⟨hknown.append more, own, hown.append more, hpromise, hcode⟩

/-- A call takes its request code. -/
theorem Sound.number (h : Sound (spawn (.numbering promise) w)) :
    Sound (spawn (.installing ⟨w.numbered.length, promise⟩)
      { w with numbered := w.numbered ++ [promise] }) := by
  refine ⟨fun other => ?_, fun other hother => ?_,
    fun scan hscan => (h.pending scan hscan).append _,
    fun scan hscan => (h.activities scan hscan).append _,
    fun settled hsettled => (h.settled settled hsettled).append _, fun hlistening scan hscan => ?_⟩
  · have hshare := h.shares other
    rw [share_spawn] at hshare ⊢
    exact hshare
  · obtain rfl | hother := List.mem_cons.1 hother
    · exact List.getElem?_concat_length
    · exact (h.tasks other (List.mem_cons_of_mem _ hother)).append _
  · obtain hopen | ⟨other, hother, hsees⟩ := h.tended hlistening scan hscan
    · exact .inl hopen
    · obtain rfl | hother := List.mem_cons.1 hother
      · exact absurd hsees id
      · exact .inr ⟨other, List.mem_cons_of_mem _ hother, hsees⟩

/-- A scan becomes the pending one, and the thread takes the one that was pending. -/
theorem Sound.install (h : Sound (spawn (.installing scan) w)) :
    Sound (spawn (.superseding scan w.pending) { w with pending := some scan }) := by
  have hscan : scan.Known w.numbered := h.tasks _ List.mem_cons_self
  refine ⟨fun other => ?_, fun other hother => ?_, fun own hown => ?_, h.activities, h.settled,
    fun _ own hown => ?_⟩
  · have hshare := h.shares other
    rw [share_spawn, share_none] at hshare ⊢
    refine Eq.trans ?_ hshare
    cases w.pending with
    | none =>
      simp only [Task.holds, Option.map_none, Option.toList_none, Option.toList_some,
        List.countP_singleton, List.countP_nil, decide_eq_true_eq, reduceCtorEq, if_false,
        Option.some.injEq, Nat.add_zero]
    | some prior =>
      simp only [Task.holds, Option.map_some, Option.toList_some, List.countP_singleton,
        decide_eq_true_eq, Option.some.injEq]
      exact Nat.add_right_comm ..
  · obtain rfl | hother := List.mem_cons.1 hother
    · exact ⟨hscan, h.pending⟩
    · exact h.tasks other (List.mem_cons_of_mem _ hother)
  · obtain rfl := Option.some.inj hown
    exact hscan
  · obtain rfl := Option.some.inj hown
    exact .inr ⟨_, List.mem_cons_self, rfl⟩

/-- An activity opens. -/
theorem Sound.launch (h : Sound (spawn (.launching scan) w)) :
    Sound { w with activities := scan :: w.activities } := by
  have hscan : scan.Known w.numbered := h.tasks _ List.mem_cons_self
  refine ⟨fun other => ?_, fun other hother => h.tasks other (List.mem_cons_of_mem _ hother),
    h.pending, fun own hown => ?_, h.settled, fun hlistening own hown => ?_⟩
  · have hshare := h.shares other
    rw [share_spawn] at hshare
    exact hshare
  · obtain rfl | hown := List.mem_cons.1 hown
    · exact hscan
    · exact h.activities own hown
  · obtain hopen | ⟨other, hother, hsees⟩ := h.tended hlistening own hown
    · exact .inl (List.mem_cons_of_mem _ hopen)
    · obtain rfl | hother := List.mem_cons.1 hother
      · obtain rfl : scan = own := hsees
        exact .inl List.mem_cons_self
      · exact .inr ⟨other, hother, hsees⟩

/-- A launch failed when its scan was no longer pending: its promise is refused beside. -/
theorem Sound.refuse (h : Sound (spawn (.withdrawing scan) w)) (hpending : w.pending ≠ some scan) :
    Sound (spawn (.refusing scan.promise) { w with late := scan.promise :: w.late }) := by
  refine ⟨fun other => ?_, fun other hother => ?_, h.pending, h.activities, h.settled,
    fun hlistening own hown => ?_⟩
  · have hshare := h.shares other
    rw [share_spawn] at hshare ⊢
    have hlate : (scan.promise :: w.late).count other =
        w.late.count other + if scan.promise = other then 1 else 0 := by
      simp only [List.count_cons, beq_iff_eq]
    have hbefore : w.share other = (if other < w.calls then 1 else 0) + w.late.count other := by
      simp only [Task.holds, reduceCtorEq, if_false, Nat.add_zero] at hshare
      exact hshare
    have hafter : w.share other + (if some scan.promise = some other then 1 else 0) =
        (if other < w.calls then 1 else 0) + (scan.promise :: w.late).count other := by
      rw [hbefore, hlate]
      simp only [Option.some.injEq, Nat.add_assoc]
    exact hafter
  · obtain rfl | hother := List.mem_cons.1 hother
    · trivial
    · exact h.tasks other (List.mem_cons_of_mem _ hother)
  · obtain hopen | ⟨other, hother, hsees⟩ := h.tended hlistening own hown
    · exact .inl hopen
    · obtain rfl | hother := List.mem_cons.1 hother
      · obtain rfl : scan = own := hsees
        exact absurd hown hpending
      · exact .inr ⟨other, List.mem_cons_of_mem _ hother, hsees⟩

/-- A thread takes one step. -/
theorem Sound.exec (h : Sound (spawn task w)) (launches : Bool) : Sound (task.exec launches w) := by
  have hknown : task.Known w.numbered := h.tasks task List.mem_cons_self
  cases task with
  | numbering promise => exact h.number
  | installing scan => exact h.install
  | superseding scan prior =>
    cases prior with
    | none => exact h.replace rfl hknown.1 fun _ _ hsees => hsees
    | some prior =>
      have hprior : prior.Known w.numbered := hknown.2 prior rfl
      have hsplit : Sound (spawn (.dropping prior) (spawn (.launching scan) w)) :=
        h.split rfl rfl ⟨hprior, hknown.1⟩ fun _ _ hsees => hsees
      exact hsplit.settles rfl (fun _ => id) nofun
  | launching scan =>
    cases launches with
    | true => exact h.launch
    | false => exact h.replace rfl hknown fun _ _ hsees => hsees
  | withdrawing scan =>
    simp only [Task.exec]
    split
    · next hpending => exact h.take rfl hpending rfl trivial
    · next hpending => exact h.refuse hpending
  | refusing promise => exact h.settles rfl (fun _ => id) nofun
  | reading result =>
    simp only [Task.exec]
    split
    · next hpending =>
      refine h.drop rfl fun scan hscan => ?_
      rw [hpending] at hscan
      cases hscan
    · next current hpending =>
      have hcurrent := h.pending current hpending
      split
      · next hcode =>
        refine h.drop rfl fun scan hscan hsees => ?_
        obtain rfl := Option.some.inj (hpending.symm.trans hscan)
        obtain rfl : result.scan = current := hsees
        exact hcode rfl
      · next hcode =>
        refine h.replace rfl ⟨hcurrent, hknown, not_not.1 hcode⟩ fun scan hscan _ => ?_
        exact Option.some.inj (hpending.symm.trans hscan)
  | swapping current result =>
    simp only [Task.exec]
    split
    · next hpending => exact h.take rfl hpending rfl hknown
    · next hpending =>
      refine h.drop rfl fun scan hscan hsees => ?_
      obtain rfl : current = scan := hsees
      exact hpending hscan
  | delivering current result =>
    obtain ⟨hcurrent, hresult, hcode⟩ := hknown
    refine h.settles rfl (fun _ => id) fun activity hactivity => ?_
    obtain rfl := Option.some.inj hactivity
    exact ⟨hresult, current, hcurrent, rfl, hcode⟩
  | closing =>
    simp only [Task.exec]
    split
    · exact h.drop rfl fun _ _ => id
    · next prior hpending => exact h.take rfl hpending rfl (h.pending prior hpending)
  | dropping prior => exact h.settles rfl (fun _ => id) nofun

theorem Sound.scanWithCamera (h : Sound w) (foreground : Bool) :
    Sound (w.step (.scan foreground)) := by
  cases foreground with
  | false =>
    refine ⟨fun promise => ?_, h.tasks, h.pending, h.activities, fun settled hsettled => ?_,
      h.tended⟩
    · have hshare := h.shares promise
      simp only [World.step, Bool.false_eq_true, if_false, share_settle]
      simp only [World.share, settlements, World.settle] at hshare ⊢
      grind
    · obtain hold | hnew := List.mem_append.1 hsettled
      · exact h.settled settled hold
      · obtain rfl := List.mem_singleton.1 hnew
        exact nofun
  | true =>
    refine ⟨fun promise => ?_, fun other hother => ?_, h.pending, h.activities, h.settled,
      fun hlistening scan hscan => ?_⟩
    · have hshare := h.shares promise
      simp only [World.step, if_true, share_spawn, Task.holds, Option.some.injEq]
      simp only [World.share, settlements, spawn] at hshare ⊢
      grind
    · obtain rfl | hother := List.mem_cons.1 hother
      · trivial
      · exact h.tasks other hother
    · obtain hopen | ⟨other, hother, hsees⟩ := h.tended hlistening scan hscan
      · exact .inl hopen
      · exact .inr ⟨other, List.mem_cons_of_mem _ hother, hsees⟩

/-- An activity ends: its result is read on a thread of its own, if anyone listens. -/
theorem Sound.finish (h : Sound w) (scan : PendingScan) (outcome : Outcome) :
    Sound (w.step (.finish scan outcome)) := by
  simp only [World.step]
  split
  · next hopen =>
    have hstill : ∀ own ∈ w.activities.erase scan, own.Known w.numbered := fun own hown =>
      h.activities own (List.mem_of_mem_erase hown)
    split
    · refine ⟨fun promise => ?_, fun other hother => ?_, h.pending, hstill, h.settled,
        fun hlistening own hown => ?_⟩
      · rw [share_spawn]
        exact h.shares promise
      · obtain rfl | hother := List.mem_cons.1 hother
        · exact h.activities scan hopen
        · exact h.tasks other hother
      · obtain hactive | ⟨other, hother, hsees⟩ := h.tended hlistening own hown
        · by_cases hsame : own = scan
          · exact .inr ⟨_, List.mem_cons_self, hsame.symm⟩
          · exact .inl ((List.mem_erase_of_ne hsame).2 hactive)
        · exact .inr ⟨other, List.mem_cons_of_mem _ hother, hsees⟩
    · next hdeaf =>
      exact ⟨h.shares, h.tasks, h.pending, hstill, h.settled,
        fun hlistening => absurd hlistening hdeaf⟩
  · exact h

theorem Sound.invalidate (h : Sound w) : Sound (w.step .invalidate) := by
  refine ⟨fun promise => ?_, fun other hother => ?_, h.pending, h.activities, h.settled, nofun⟩
  · simp only [World.step, share_spawn]
    exact h.shares promise
  · obtain rfl | hother := List.mem_cons.1 hother
    · trivial
    · exact h.tasks other hother

theorem Sound.step (h : Sound w) (event : Event) : Sound (w.step event) := by
  cases event with
  | scan foreground => exact h.scanWithCamera foreground
  | proceed task launches =>
    simp only [World.step]
    split
    · next hmem => exact (h.front hmem).exec launches
    · exact h
  | finish scan outcome => exact h.finish scan outcome
  | invalidate => exact h.invalidate

theorem Sound.run {events : List Event} (h : Sound w) : Sound (w.run events) := by
  induction events generalizing w with
  | nil => exact h
  | cons event events ih => exact ih (h.step event)

theorem fresh_sound : Sound fresh :=
  ⟨fun _ => rfl, nofun, nofun, nofun, nofun, nofun⟩

end Shares

/-! ### Launches that fail -/

/-- No launch has failed. -/
structure Untroubled (w : World) : Prop where
  late : w.late = []
  launched : ∀ scan, Task.withdrawing scan ∉ w.tasks

theorem Untroubled.exec {w : World} {task : Task} (h : Untroubled w)
    (htask : ∀ scan, task ≠ .withdrawing scan) : Untroubled (task.exec true w) := by
  have hspawn : ∀ {next : Task} {w : World}, Untroubled w → (∀ scan, next ≠ .withdrawing scan) →
      Untroubled (spawn next w) := by
    intro next w huntroubled hnext
    refine ⟨huntroubled.late, fun scan hmem => ?_⟩
    obtain heq | hmem := List.mem_cons.1 hmem
    · exact hnext scan heq.symm
    · exact huntroubled.launched scan hmem
  cases task with
  | superseding scan prior => cases prior <;> exact hspawn ⟨h.late, h.launched⟩ nofun
  | withdrawing scan => exact absurd rfl (htask scan)
  | reading result =>
    simp only [Task.exec]
    split
    · exact h
    · split
      · exact h
      · exact hspawn h nofun
  | swapping current result =>
    simp only [Task.exec]
    split
    · exact hspawn ⟨h.late, h.launched⟩ nofun
    · exact h
  | closing =>
    simp only [Task.exec]
    split
    · exact h
    · exact hspawn ⟨h.late, h.launched⟩ nofun
  | numbering promise => exact hspawn ⟨h.late, h.launched⟩ nofun
  | installing scan => exact hspawn ⟨h.late, h.launched⟩ nofun
  | _ => exact ⟨h.late, h.launched⟩

theorem Untroubled.step {w : World} {event : Event} (h : Untroubled w) (hevent : event.Launches) :
    Untroubled (w.step event) := by
  cases event with
  | scan foreground =>
    cases foreground with
    | false => exact ⟨h.late, h.launched⟩
    | true =>
      refine ⟨h.late, fun scan hmem => ?_⟩
      obtain heq | hmem := List.mem_cons.1 hmem
      · cases heq
      · exact h.launched scan hmem
  | proceed task launches =>
    obtain rfl : launches = true := hevent
    simp only [World.step]
    split
    · next hmem =>
      have hrest : Untroubled { w with tasks := w.tasks.erase task } :=
        ⟨h.late, fun scan hscan => h.launched scan (List.mem_of_mem_erase hscan)⟩
      exact hrest.exec fun scan heq => h.launched scan (heq ▸ hmem)
    · exact h
  | finish scan outcome =>
    simp only [World.step]
    split
    · split
      · refine ⟨h.late, fun own hmem => ?_⟩
        obtain heq | hmem := List.mem_cons.1 hmem
        · cases heq
        · exact h.launched own hmem
      · exact ⟨h.late, h.launched⟩
    · exact h
  | invalidate =>
    refine ⟨h.late, fun own hmem => ?_⟩
    obtain heq | hmem := List.mem_cons.1 hmem
    · cases heq
    · exact h.launched own hmem

theorem Untroubled.run {w : World} {events : List Event} (h : Untroubled w)
    (hevents : ∀ event ∈ events, event.Launches) : Untroubled (w.run events) := by
  induction events generalizing w with
  | nil => exact h
  | cons event events ih =>
    exact ih (h.step (hevents event List.mem_cons_self)) fun other hother =>
      hevents other (List.mem_cons_of_mem _ hother)

/-! ### Whole runs -/

theorem requestCode_eq_iff (scan other : PendingScan) :
    scan.requestCode = other.requestCode ↔ scan.serial % 256 = other.serial % 256 := by
  have hmask : ∀ serial, serial &&& REQUEST_CODE_MASK = serial % 256 := fun serial =>
    Nat.and_two_pow_sub_one_eq_mod serial 8
  simp only [PendingScan.requestCode, hmask, Nat.add_left_cancel_iff]

/-- Whatever the threads, the activities and the bridge do in any order: once no thread is at work,
    every promise was settled exactly once, but for the pending one, whose activity is still open as
    long as the module listens, and but for a promise that was refused beside because its launch
    failed too late. A result went to the promise of its own scan, up to 256 scans. -/
theorem scans_settled {events : List Event} {w : World} (hrun : fresh.run events = w)
    (hquiet : w.tasks = []) :
    (∀ promise < w.calls,
      w.settlements promise + w.pending.toList.countP (·.promise = promise) =
        1 + w.late.count promise) ∧
    ((∀ event ∈ events, event.Launches) → w.late = []) ∧
    (w.listening = true → ∀ scan ∈ w.pending, scan ∈ w.activities) ∧
    ∀ settled ∈ w.settled, ∀ activity ∈ settled.activity,
      (∃ serial, w.numbered[serial]? = some settled.promise ∧
        serial % 256 = activity.serial % 256) ∧
      (w.numbered.length ≤ 256 → activity.promise = settled.promise) := by
  have hsound : Sound w := hrun ▸ fresh_sound.run
  refine ⟨fun promise hcalled => ?_, fun hlaunches => ?_, fun hlistening scan hscan => ?_,
    fun settled hsettled activity hactivity => ?_⟩
  · have hshare := hsound.shares promise
    rw [if_pos hcalled] at hshare
    simpa only [World.share, hquiet, List.countP_nil, Nat.add_zero] using hshare
  · have huntroubled : Untroubled fresh := ⟨rfl, nofun⟩
    exact (hrun ▸ huntroubled.run hlaunches : Untroubled w).late
  · obtain hopen | ⟨task, htask, -⟩ := hsound.tended hlistening scan hscan
    · exact hopen
    · rw [hquiet] at htask
      cases htask
  · obtain ⟨hknown, scan, hscan, hpromise, hcode⟩ :=
      hsound.settled settled hsettled activity hactivity
    have hserial := (requestCode_eq_iff scan activity).1 hcode
    refine ⟨⟨scan.serial, hpromise ▸ hscan, hserial⟩, fun hfew => ?_⟩
    have hlt := (List.getElem?_eq_some_iff.1 hknown).1
    have hlt' := (List.getElem?_eq_some_iff.1 hscan).1
    have hsame : scan.serial = activity.serial := by omega
    have hpromises : some activity.promise = some scan.promise :=
      hknown.symm.trans (hsame ▸ hscan)
    exact (Option.some.inj hpromises).trans hpromise

/-- A scan that is overtaken by another one while its activity is open, and ends late. -/
def overtakenScan : List Event :=
  [.scan true, .proceed (.numbering 0) true, .proceed (.installing ⟨0, 0⟩) true,
    .proceed (.superseding ⟨0, 0⟩ none) true, .proceed (.launching ⟨0, 0⟩) true,
    .scan true, .proceed (.numbering 1) true, .proceed (.installing ⟨1, 1⟩) true,
    .finish ⟨0, 0⟩ (.ok (some "late")), .proceed (.superseding ⟨1, 1⟩ (some ⟨0, 0⟩)) true,
    .proceed (.reading ⟨⟨0, 0⟩, .ok (some "late")⟩) true, .proceed (.launching ⟨1, 1⟩) true,
    .finish ⟨1, 1⟩ (.ok (some "card")), .proceed (.reading ⟨⟨1, 1⟩, .ok (some "card")⟩) true,
    .proceed (.swapping ⟨1, 1⟩ ⟨⟨1, 1⟩, .ok (some "card")⟩) true,
    .proceed (.delivering ⟨1, 1⟩ ⟨⟨1, 1⟩, .ok (some "card")⟩) true]

theorem overtakenScan_settled :
    (fresh.run overtakenScan).settlements 0 = 1 ∧ (fresh.run overtakenScan).settlements 1 = 1 ∧
      (∀ settled ∈ (fresh.run overtakenScan).settled, ∀ activity ∈ settled.activity,
        activity.promise = settled.promise) := by
  obtain ⟨hsettled, -, -, hown⟩ := @scans_settled overtakenScan _ rfl (by decide)
  refine ⟨hsettled 0 (by decide), hsettled 1 (by decide), fun settled hmem activity hactivity => ?_⟩
  exact (hown settled hmem activity hactivity).2 (by decide)

end cemp.app.scanner
