import Mathlib.Tactic.Common

namespace cemp.database

variable {σ : Type}

/-- A write statement that the connection has executed, by the caller that issued it. -/
structure Write (σ : Type) where
  serial : Nat
  caller : Nat
  sql : σ
  deriving DecidableEq, Repr

/-- The open transaction: the caller that holds the mutex, and what the connection wrote since
    `BEGIN IMMEDIATE`. -/
structure OpenTransaction (σ : Type) where
  owner : Nat
  writes : List (Write σ)
  deriving DecidableEq, Repr

/-- The adapter and its one connection. The database is what the writes in `durable`, and behind
    them those of the open transaction, leave of it. -/
structure SqliteAdapter (σ : Type) where
  durable : List (Write σ)
  inTransaction : Option (OpenTransaction σ)
  /-- The callers that wait for the mutex, in the order of their calls. -/
  queue : List Nat
  nextSerial : Nat
  /-- The writes that resolved outside any transaction of their caller. -/
  resolved : List (Write σ)
  deriving DecidableEq, Repr

def SqliteAdapter.opened : SqliteAdapter σ := ⟨[], none, [], 0, []⟩

/-- What the adapter does next. Whether a `run` or a `get` belongs to a transaction depends on its
    caller alone: the connection does not tell them apart. -/
inductive AdapterEvent (σ : Type) where
  | run (caller : Nat) (sql : σ)
  /-- `get` or `all`. -/
  | get (caller : Nat)
  /-- `transaction` is called and queues on the mutex. -/
  | transaction (caller : Nat)
  /-- The mutex is the caller's, and `BEGIN IMMEDIATE` is executed. -/
  | begin (caller : Nat)
  /-- The body has returned, and `COMMIT` is executed. -/
  | commit (caller : Nat)
  /-- The body or the `COMMIT` has thrown, and `ROLLBACK` is executed. -/
  | rollback (caller : Nat)
  deriving DecidableEq, Repr

namespace SqliteAdapter

/-- A write goes to the open transaction, whoever issued it. -/
def write (a : SqliteAdapter σ) (caller : Nat) (sql : σ) : SqliteAdapter σ :=
  let written : Write σ := ⟨a.nextSerial, caller, sql⟩
  match a.inTransaction with
  | none =>
    ⟨a.durable ++ [written], none, a.queue, a.nextSerial + 1, a.resolved ++ [written]⟩
  | some tx =>
    ⟨a.durable, some ⟨tx.owner, tx.writes ++ [written]⟩, a.queue, a.nextSerial + 1,
      if caller = tx.owner then a.resolved else a.resolved ++ [written]⟩

/-- A caller that waits for the mutex does nothing else, and only the owner of the open
    transaction ends it. -/
def exec (a : SqliteAdapter σ) : AdapterEvent σ → Option (SqliteAdapter σ)
  | .run caller sql => if caller ∈ a.queue then none else some (a.write caller sql)
  | .get caller => if caller ∈ a.queue then none else some a
  | .transaction caller =>
    if caller ∈ a.queue then none else some { a with queue := a.queue ++ [caller] }
  | .begin caller =>
    match a.inTransaction, a.queue with
    | none, next :: queue =>
      if next = caller then some { a with inTransaction := some ⟨caller, []⟩, queue := queue }
      else none
    | _, _ => none
  | .commit caller =>
    match a.inTransaction with
    | some tx =>
      if tx.owner = caller ∧ caller ∉ a.queue then
        some { a with durable := a.durable ++ tx.writes, inTransaction := none }
      else none
    | none => none
  | .rollback caller =>
    match a.inTransaction with
    | some tx =>
      if tx.owner = caller ∧ caller ∉ a.queue then some { a with inTransaction := none } else none
    | none => none

/-- No write that resolved outside a transaction has been undone. -/
def Kept (a : SqliteAdapter σ) : Prop :=
  ∀ w ∈ a.resolved, w ∈ a.durable ∨ ∃ tx ∈ a.inTransaction, w ∈ tx.writes

/-- Another caller's write stands in the open transaction. -/
def Intruded (a : SqliteAdapter σ) : Prop :=
  ∃ tx ∈ a.inTransaction, ∃ w ∈ tx.writes, w.caller ≠ tx.owner

end SqliteAdapter

/-- The event is a statement of a caller. -/
def AdapterEvent.StatementOf (owner : Nat) : AdapterEvent σ → Prop
  | run caller _ | get caller => caller = owner
  | _ => False

/-- Where the event is a statement of the open transaction's body, it sees its own caller's writes
    only, of those made since the transaction began. -/
def SqliteAdapter.SeesOwn (a : SqliteAdapter σ) (event : AdapterEvent σ) : Prop :=
  ∀ tx ∈ a.inTransaction, event.StatementOf tx.owner → ∀ w ∈ tx.writes, w.caller = tx.owner

/-- An interleaving that the adapter can go through. -/
def Interleaving : SqliteAdapter σ → List (AdapterEvent σ) → Prop
  | _, [] => True
  | a, event :: events => ∃ next, a.exec event = some next ∧ Interleaving next events

/-- Isolation throughout an interleaving: nothing that resolved outside a transaction is undone, and
    a transaction's statements see no other caller's writes. -/
def Isolated : SqliteAdapter σ → List (AdapterEvent σ) → Prop
  | a, [] => a.Kept
  | a, event :: events =>
    a.Kept ∧ a.SeesOwn event ∧ ∀ next, a.exec event = some next → Isolated next events

/-- The open transaction has no further statement, and it does not roll back. -/
def OnlyCommits (owner : Nat) : List (AdapterEvent σ) → Prop
  | [] => True
  | .commit _ :: _ => True
  | .rollback _ :: _ => False
  | event :: events => ¬ event.StatementOf owner ∧ OnlyCommits owner events

/-- Up to the end of the open transaction: once another caller writes, the owner only commits. -/
def UndisturbedBody (owner : Nat) : List (AdapterEvent σ) → Prop
  | [] => True
  | .commit _ :: _ => True
  | .rollback _ :: _ => True
  | .run caller _ :: events =>
    (caller ≠ owner → OnlyCommits owner events) ∧ UndisturbedBody owner events
  | _ :: events => UndisturbedBody owner events

/-- No `run` of another caller falls between the `BEGIN` of a transaction and a later statement of
    its body, or its `ROLLBACK`. -/
def Undisturbed : List (AdapterEvent σ) → Prop
  | [] => True
  | .begin owner :: events => UndisturbedBody owner events ∧ Undisturbed events
  | _ :: events => Undisturbed events

theorem OnlyCommits.undisturbedBody {owner : Nat} {events : List (AdapterEvent σ)}
    (only : OnlyCommits owner events) : UndisturbedBody owner events := by
  induction events with
  | nil => trivial
  | cons event events ih =>
    cases event with
    | run caller sql => exact ⟨fun _ => only.2, ih only.2⟩
    | get caller => exact ih only.2
    | transaction caller => exact ih only.2
    | begin caller => exact ih only.2
    | commit caller => trivial
    | rollback caller => trivial

namespace SqliteAdapter

variable {a next : SqliteAdapter σ} {tx : OpenTransaction σ} {event : AdapterEvent σ}
  {events : List (AdapterEvent σ)} {caller : Nat} {sql : σ}

/-- What holds of an adapter as long as nothing resolved has been undone. -/
structure Sound (a : SqliteAdapter σ) : Prop where
  numbered : ∀ w ∈ a.durable, w.serial < a.nextSerial
  pending : ∀ tx ∈ a.inTransaction, ∀ w ∈ tx.writes, w.serial < a.nextSerial ∧ w ∉ a.durable
  resolved : ∀ w ∈ a.resolved, w ∈ a.durable ∨
    ∃ tx ∈ a.inTransaction, w ∈ tx.writes ∧ w.caller ≠ tx.owner
  foreign : ∀ tx ∈ a.inTransaction, ∀ w ∈ tx.writes, w.caller ≠ tx.owner → w ∈ a.resolved

theorem Sound.opened : (opened : SqliteAdapter σ).Sound := by
  constructor <;> simp [SqliteAdapter.opened]

theorem Sound.kept (sound : a.Sound) : a.Kept := by
  intro w hw
  rcases sound.resolved w hw with durable | ⟨tx, open_, pending, -⟩
  · exact .inl durable
  · exact .inr ⟨tx, open_, pending⟩

theorem write_of_none (closed : a.inTransaction = none) :
    a.write caller sql = ⟨a.durable ++ [⟨a.nextSerial, caller, sql⟩], none, a.queue,
      a.nextSerial + 1, a.resolved ++ [⟨a.nextSerial, caller, sql⟩]⟩ := by
  simp only [write, closed]

theorem write_of_some (opened : a.inTransaction = some tx) :
    a.write caller sql = ⟨a.durable, some ⟨tx.owner, tx.writes ++ [⟨a.nextSerial, caller, sql⟩]⟩,
      a.queue, a.nextSerial + 1,
      if caller = tx.owner then a.resolved
      else a.resolved ++ [⟨a.nextSerial, caller, sql⟩]⟩ := by
  simp only [write, opened]

theorem intruded_of_some (opened : a.inTransaction = some tx) :
    a.Intruded ↔ ∃ w ∈ tx.writes, w.caller ≠ tx.owner := by
  simp [Intruded, opened]

/-- What an enabled event does, one case an event. -/
theorem exec_cases (ran : a.exec event = some next) :
    (∃ caller sql, event = .run caller sql ∧ next = a.write caller sql) ∨
    (∃ caller, event = .get caller ∧ next = a) ∨
    (∃ caller, event = .transaction caller ∧ next = { a with queue := a.queue ++ [caller] }) ∨
    (∃ caller queue, event = .begin caller ∧ a.inTransaction = none ∧
      next = { a with inTransaction := some ⟨caller, []⟩, queue := queue }) ∨
    (∃ tx, event = .commit tx.owner ∧ a.inTransaction = some tx ∧
      next = { a with durable := a.durable ++ tx.writes, inTransaction := none }) ∨
    (∃ tx, event = .rollback tx.owner ∧ a.inTransaction = some tx ∧
      next = { a with inTransaction := none }) := by
  cases event with
  | run caller sql =>
    simp only [exec] at ran
    split at ran
    · cases ran
    · cases ran
      exact .inl ⟨caller, sql, rfl, rfl⟩
  | get caller =>
    simp only [exec] at ran
    split at ran
    · cases ran
    · cases ran
      exact .inr (.inl ⟨caller, rfl, rfl⟩)
  | transaction caller =>
    simp only [exec] at ran
    split at ran
    · cases ran
    · cases ran
      exact .inr (.inr (.inl ⟨caller, rfl, rfl⟩))
  | begin caller =>
    simp only [exec] at ran
    split at ran
    · rename_i head queue closed hqueue
      split at ran
      · cases ran
        exact .inr (.inr (.inr (.inl ⟨caller, queue, rfl, closed, rfl⟩)))
      · cases ran
    · cases ran
  | commit caller =>
    simp only [exec] at ran
    split at ran
    · rename_i tx opened
      split at ran
      · rename_i owned
        cases ran
        obtain ⟨rfl, -⟩ := owned
        exact .inr (.inr (.inr (.inr (.inl ⟨tx, rfl, opened, rfl⟩))))
      · cases ran
    · cases ran
  | rollback caller =>
    simp only [exec] at ran
    split at ran
    · rename_i tx opened
      split at ran
      · rename_i owned
        cases ran
        obtain ⟨rfl, -⟩ := owned
        exact .inr (.inr (.inr (.inr (.inr ⟨tx, rfl, opened, rfl⟩))))
      · cases ran
    · cases ran

theorem Sound.write (sound : a.Sound) (caller : Nat) (sql : σ) : (a.write caller sql).Sound := by
  have unnumbered : (⟨a.nextSerial, caller, sql⟩ : Write σ) ∉ a.durable := by
    intro mem
    exact absurd (sound.numbered _ mem) (Nat.lt_irrefl _)
  cases opened : a.inTransaction with
  | none =>
    rw [write_of_none opened]
    constructor
    · intro w hw
      rcases List.mem_append.1 hw with old | new
      · have := sound.numbered w old
        exact Nat.lt_succ_of_lt this
      · rw [List.mem_singleton.1 new]
        exact Nat.lt_succ_self _
    · nofun
    · intro w hw
      rcases List.mem_append.1 hw with old | new
      · have := sound.resolved w old
        simp only [opened, Option.mem_def, reduceCtorEq, false_and, exists_false, or_false] at this
        exact .inl (List.mem_append_left _ this)
      · exact .inl (List.mem_append_right _ new)
    · nofun
  | some tx =>
    rw [write_of_some opened]
    have pending := sound.pending tx opened
    constructor
    · intro w hw
      exact Nat.lt_succ_of_lt (sound.numbered w hw)
    · rintro _ ⟨⟩ w hw
      rcases List.mem_append.1 hw with old | new
      · exact ⟨Nat.lt_succ_of_lt (pending w old).1, (pending w old).2⟩
      · rw [List.mem_singleton.1 new]
        exact ⟨Nat.lt_succ_self _, unnumbered⟩
    · intro w hw
      have old : w ∈ a.resolved → w ∈ a.durable ∨ ∃ later ∈ some (OpenTransaction.mk tx.owner
          (tx.writes ++ [⟨a.nextSerial, caller, sql⟩])), w ∈ later.writes ∧
            w.caller ≠ later.owner := by
        intro hw
        rcases sound.resolved w hw with durable | ⟨tx', opened', mem, foreign⟩
        · exact .inl durable
        · cases opened.symm.trans opened'
          exact .inr ⟨_, rfl, List.mem_append_left _ mem, foreign⟩
      by_cases own : caller = tx.owner
      · rw [if_pos own] at hw
        exact old hw
      · rw [if_neg own] at hw
        rcases List.mem_append.1 hw with hw | new
        · exact old hw
        · rw [List.mem_singleton.1 new]
          exact .inr ⟨_, rfl, List.mem_append_right _ (List.mem_singleton_self _), own⟩
    · rintro _ ⟨⟩ w hw foreign
      by_cases own : caller = tx.owner
      · rw [if_pos own]
        rcases List.mem_append.1 hw with old | new
        · exact sound.foreign tx opened w old foreign
        · rw [List.mem_singleton.1 new] at foreign
          exact absurd own foreign
      · rw [if_neg own]
        rcases List.mem_append.1 hw with old | new
        · exact List.mem_append_left _ (sound.foreign tx opened w old foreign)
        · exact List.mem_append_right _ new

/-- A commit makes the transaction's writes durable, another caller's among them. -/
theorem Sound.commit (sound : a.Sound) (opened : a.inTransaction = some tx) :
    Sound { a with durable := a.durable ++ tx.writes, inTransaction := none } := by
  constructor
  · intro w hw
    rcases List.mem_append.1 hw with old | new
    · exact sound.numbered w old
    · exact (sound.pending tx opened w new).1
  · nofun
  · intro w hw
    rcases sound.resolved w hw with durable | ⟨tx', opened', mem, -⟩
    · exact .inl (List.mem_append_left _ durable)
    · cases opened.symm.trans opened'
      exact .inl (List.mem_append_right _ mem)
  · nofun

/-- A rollback undoes what the transaction wrote: it keeps everything that resolved outside a
    transaction where no other caller wrote into this one. -/
theorem Sound.kept_rollback_iff (sound : a.Sound) :
    Kept { a with inTransaction := none } ↔ ¬ a.Intruded := by
  constructor
  · rintro kept ⟨tx, opened, w, mem, foreign⟩
    rcases kept w (sound.foreign tx opened w mem foreign) with durable | ⟨_, closed, -⟩
    · exact (sound.pending tx opened w mem).2 durable
    · cases closed
  · intro unintruded w hw
    rcases sound.resolved w hw with durable | ⟨tx, opened, mem, foreign⟩
    · exact .inl durable
    · exact absurd ⟨tx, opened, w, mem, foreign⟩ unintruded

theorem Sound.rollback (sound : a.Sound) (unintruded : ¬ a.Intruded) :
    Sound { a with inTransaction := none } := by
  refine ⟨sound.numbered, nofun, ?_, nofun⟩
  intro w hw
  rcases sound.kept_rollback_iff.2 unintruded w hw with durable | ⟨_, closed, -⟩
  · exact .inl durable
  · cases closed

/-- One event keeps an adapter sound, unless a rollback undoes a write that had resolved. -/
theorem Sound.exec (sound : a.Sound) (ran : a.exec event = some next) (kept : next.Kept) :
    next.Sound := by
  rcases exec_cases ran with ⟨caller, sql, -, rfl⟩ | ⟨caller, -, rfl⟩ | ⟨caller, -, rfl⟩ |
    ⟨caller, queue, -, closed, rfl⟩ | ⟨tx, -, opened, rfl⟩ | ⟨tx, -, opened, rfl⟩
  · exact sound.write caller sql
  · exact sound
  · exact ⟨sound.numbered, sound.pending, sound.resolved, sound.foreign⟩
  · refine ⟨sound.numbered, ?_, ?_, ?_⟩
    · rintro _ ⟨⟩ w ⟨⟩
    · intro w hw
      have := sound.resolved w hw
      simp only [closed, Option.mem_def, reduceCtorEq, false_and, exists_false, or_false] at this
      exact .inl this
    · rintro _ ⟨⟩ w ⟨⟩
  · exact sound.commit opened
  · exact sound.rollback (sound.kept_rollback_iff.1 kept)

/-- What the rest of an interleaving may hold, from an adapter that may be in a transaction. -/
def Clear (a : SqliteAdapter σ) (events : List (AdapterEvent σ)) : Prop :=
  Undisturbed events ∧ ∀ tx ∈ a.inTransaction,
    (a.Intruded → OnlyCommits tx.owner events) ∧
      (¬ a.Intruded → UndisturbedBody tx.owner events)

theorem clear_of_none (closed : a.inTransaction = none) : a.Clear events ↔ Undisturbed events := by
  simp [Clear, closed]

theorem seesOwn_of_some (opened : a.inTransaction = some tx) :
    a.SeesOwn event ↔ (event.StatementOf tx.owner → ¬ a.Intruded) := by
  simp [SeesOwn, opened, intruded_of_some opened]

theorem clear_run_iff :
    a.Clear (.run caller sql :: events) ↔
      a.SeesOwn (.run caller sql : AdapterEvent σ) ∧ (a.write caller sql).Clear events := by
  cases opened : a.inTransaction with
  | none =>
    have closed : (a.write caller sql).inTransaction = none := by rw [write_of_none opened]
    simp [clear_of_none opened, clear_of_none closed, Undisturbed, SeesOwn, opened]
  | some tx =>
    have intruded : (a.write caller sql).Intruded ↔ a.Intruded ∨ caller ≠ tx.owner := by
      rw [write_of_some opened, intruded_of_some rfl, intruded_of_some opened]
      simp only [List.mem_append, List.mem_singleton, or_and_right, exists_or, exists_eq_left]
    have clear : (a.write caller sql).Clear events ↔ Undisturbed events ∧
        ((a.write caller sql).Intruded → OnlyCommits tx.owner events) ∧
        (¬ (a.write caller sql).Intruded → UndisturbedBody tx.owner events) := by
      simp [Clear, write_of_some opened]
    rw [clear, intruded, seesOwn_of_some opened]
    simp only [Clear, opened, Option.mem_def, Option.some.injEq, forall_eq', Undisturbed,
      OnlyCommits, UndisturbedBody, AdapterEvent.StatementOf]
    by_cases before : a.Intruded
    · simp only [before, true_or, not_true_eq_false]
      tauto
    · by_cases own : caller = tx.owner
      · simp [before, own]
      · have body := @OnlyCommits.undisturbedBody _ tx.owner events
        simp only [before, own, false_or, ne_eq, not_false_eq_true]
        tauto

/-- One event of an interleaving that is clear, while the adapter has kept everything: the event
    sees what it should, the adapter still keeps everything, and the rest is clear. -/
theorem Sound.clear_cons_iff (sound : a.Sound) (ran : a.exec event = some next) :
    a.Clear (event :: events) ↔ a.SeesOwn event ∧ next.Kept ∧ next.Clear events := by
  rcases exec_cases ran with ⟨caller, sql, rfl, rfl⟩ | ⟨caller, rfl, rfl⟩ | ⟨caller, rfl, rfl⟩ |
    ⟨caller, queue, rfl, closed, rfl⟩ | ⟨tx, rfl, opened, rfl⟩ | ⟨tx, rfl, opened, rfl⟩
  · simp only [(sound.write caller sql).kept, true_and]
    exact clear_run_iff
  · simp only [sound.kept, true_and]
    cases opened : next.inTransaction with
    | none => simp [clear_of_none opened, Undisturbed, SeesOwn, opened]
    | some tx =>
      rw [seesOwn_of_some opened]
      simp only [Clear, opened, Option.mem_def, Option.some.injEq, forall_eq', Undisturbed,
        OnlyCommits, UndisturbedBody, AdapterEvent.StatementOf]
      tauto
  · have kept : Kept { a with queue := a.queue ++ [caller] } := sound.kept
    simp only [kept, true_and]
    cases opened : a.inTransaction with
    | none => simp [Clear, Undisturbed, SeesOwn, opened]
    | some tx =>
      rw [seesOwn_of_some opened]
      simp [Clear, Intruded, opened, Undisturbed, OnlyCommits, UndisturbedBody,
        AdapterEvent.StatementOf]
  · have kept : Kept { a with inTransaction := some ⟨caller, []⟩, queue := queue } := by
      intro w hw
      rcases sound.kept w hw with durable | ⟨tx, opened, -⟩
      · exact .inl durable
      · cases closed.symm.trans opened
    simp only [kept, true_and]
    simp only [clear_of_none closed, Undisturbed, SeesOwn, closed]
    simp [Clear, Intruded, and_comm]
  · have kept := (sound.commit opened).kept
    have ended : Clear { a with durable := a.durable ++ tx.writes, inTransaction := none } events ↔
        Undisturbed events := clear_of_none rfl
    simp only [kept, true_and]
    rw [ended, seesOwn_of_some opened]
    simp [Clear, Undisturbed, OnlyCommits, UndisturbedBody, AdapterEvent.StatementOf]
  · have ended : Clear { a with inTransaction := none } events ↔ Undisturbed events :=
      clear_of_none rfl
    rw [sound.kept_rollback_iff, ended, seesOwn_of_some opened]
    simp only [Clear, opened, Option.mem_def, Option.some.injEq, forall_eq', Undisturbed,
      OnlyCommits, UndisturbedBody, AdapterEvent.StatementOf]
    tauto

theorem isolated_kept (isolated : Isolated a events) : a.Kept := by
  cases events with
  | nil => exact isolated
  | cons event events => exact isolated.1

/-- A sound adapter isolates an interleaving exactly where the interleaving is clear. -/
theorem Sound.isolated_iff (sound : a.Sound) (valid : Interleaving a events) :
    Isolated a events ↔ a.Clear events := by
  induction events generalizing a with
  | nil =>
    simp only [Isolated, sound.kept, Clear, Undisturbed, OnlyCommits, UndisturbedBody, true_iff]
    exact ⟨trivial, fun _ _ => ⟨fun _ => trivial, fun _ => trivial⟩⟩
  | cons event events ih =>
    obtain ⟨next, ran, rest⟩ := valid
    rw [sound.clear_cons_iff ran]
    simp only [Isolated, sound.kept, true_and, ran, Option.some.injEq, forall_eq']
    by_cases kept : next.Kept
    · rw [ih (sound.exec ran kept) rest]
      simp only [kept, true_and]
    · have broken : ¬ Isolated next events := fun isolated => kept (isolated_kept isolated)
      simp only [kept, broken, false_and, and_false]

end SqliteAdapter

/-- An interleaving of statements and transactions on an adapter is isolated, in that no write that
    resolved outside a transaction is undone and no transaction's statement sees a later write of
    another caller, if and only if no `run` of another caller falls between a transaction's `BEGIN`
    and a later statement of its body or its `ROLLBACK`. -/
theorem adapter_isolated_iff (events : List (AdapterEvent σ))
    (valid : Interleaving SqliteAdapter.opened events) :
    Isolated SqliteAdapter.opened events ↔ Undisturbed events :=
  (SqliteAdapter.Sound.opened.isolated_iff valid).trans (SqliteAdapter.clear_of_none rfl)

/-- A transaction may be followed by another caller's write, and even commit that write. -/
theorem sharedCommit_isolated :
    Isolated (SqliteAdapter.opened : SqliteAdapter String)
      [.transaction 0, .begin 0, .get 0, .run 0 "UPDATE wallet_balances SET reserved_shannon = 4",
        .run 1 "UPDATE wallet_balances SET reclaimable_shannon = 0", .commit 0] := by
  refine (adapter_isolated_iff _ ?_).2 ?_
  · simp [Interleaving, SqliteAdapter.exec, SqliteAdapter.opened, SqliteAdapter.write]
  · simp [Undisturbed, UndisturbedBody, OnlyCommits]

/-- A caller's fee burn resolves while another caller's move of the ledger is in its transaction. It
    is undone where the move throws, and overwritten where the move goes on to its own write. -/
theorem burnDuringMove_not_isolated :
    let moved : List (AdapterEvent String) :=
      [.transaction 0, .begin 0, .get 0,
        .run 1 "UPDATE wallet_balances SET reclaimable_shannon = 0"]
    let thrown := moved ++ [.rollback 0]
    let overwritten := moved ++ [.run 0 "UPDATE wallet_balances SET reclaimable_shannon = 9"]
    (Interleaving SqliteAdapter.opened thrown ∧ ¬ Isolated SqliteAdapter.opened thrown) ∧
      Interleaving SqliteAdapter.opened overwritten ∧
        ¬ Isolated SqliteAdapter.opened overwritten := by
  refine ⟨⟨?_, ?_⟩, ?_, ?_⟩
  · simp [Interleaving, SqliteAdapter.exec, SqliteAdapter.opened, SqliteAdapter.write]
  · simp [Isolated, SqliteAdapter.exec, SqliteAdapter.opened, SqliteAdapter.write,
      SqliteAdapter.Kept]
  · simp [Interleaving, SqliteAdapter.exec, SqliteAdapter.opened, SqliteAdapter.write]
  · simp [Isolated, SqliteAdapter.exec, SqliteAdapter.opened, SqliteAdapter.write,
      SqliteAdapter.SeesOwn, AdapterEvent.StatementOf]

end cemp.database
