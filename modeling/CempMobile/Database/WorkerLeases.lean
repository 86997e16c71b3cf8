import Mathlib.Logic.Function.Basic
import Mathlib.Tactic.Common

namespace cemp.database

/-- A row of `worker_leases`. -/
structure WorkerLease where
  resource : String
  owner : String
  acquiredAtMs : Nat
  expiresAtMs : Nat
  deriving DecidableEq, Repr

/-- The leases by their resource, which is the key of the table. -/
abbrev LeaseTable : Type := String → Option WorkerLease

namespace WorkerLeaseRepository

/-- Acquires a resource until `nowMs + ttlMs`. An owner's own lease is refreshed, an expired one of
    another owner is taken over. -/
def acquire (resource owner : String) (ttlMs nowMs : Nat) (leases : LeaseTable) :
    Option WorkerLease × LeaseTable :=
  let lease : WorkerLease := ⟨resource, owner, nowMs, nowMs + ttlMs⟩
  match leases resource with
  | none => (some lease, Function.update leases resource (some lease))
  | some existing =>
    if existing.owner = owner then
      let refreshed := { existing with expiresAtMs := nowMs + ttlMs }
      (some refreshed, Function.update leases resource (some refreshed))
    else if nowMs < existing.expiresAtMs then (none, leases)
    else (some lease, Function.update leases resource (some lease))

/-- Releases a resource, if the owner still holds it. -/
def release (resource owner : String) (leases : LeaseTable) : LeaseTable :=
  if (leases resource).map (·.owner) = some owner then Function.update leases resource none
  else leases

/-- Deletes the leases that have expired. -/
def pruneExpired (nowMs : Nat) (leases : LeaseTable) : LeaseTable := fun resource =>
  (leases resource).filter fun lease => nowMs < lease.expiresAtMs

section Lemmas

variable {resource other owner : String} {ttlMs nowMs : Nat} {leases : LeaseTable}
  {lease : WorkerLease}

/-- What an acquisition does: it is refused, or it leaves the owner the lease that it answers. -/
theorem acquire_cases (resource owner : String) (ttlMs nowMs : Nat) (leases : LeaseTable) :
    acquire resource owner ttlMs nowMs leases = (none, leases) ∧
        (∃ existing, leases resource = some existing ∧ existing.owner ≠ owner ∧
          nowMs < existing.expiresAtMs) ∨
      ∃ lease, acquire resource owner ttlMs nowMs leases =
          (some lease, Function.update leases resource (some lease)) ∧
        lease.owner = owner ∧ lease.expiresAtMs = nowMs + ttlMs ∧
        ∀ existing, leases resource = some existing →
          existing.owner = owner ∨ existing.expiresAtMs ≤ nowMs := by
  cases hexisting : leases resource with
  | none =>
    simp only [acquire, hexisting]
    exact .inr ⟨_, rfl, rfl, rfl, nofun⟩
  | some existing =>
    have hother : ∀ other, some existing = some other → other = existing := by
      intro other h
      exact (Option.some.inj h).symm
    by_cases howner : existing.owner = owner
    · simp only [acquire, hexisting, if_pos howner]
      refine .inr ⟨_, rfl, howner, rfl, fun other h => ?_⟩
      rw [hother other h]
      exact .inl howner
    by_cases hlive : nowMs < existing.expiresAtMs
    · simp only [acquire, hexisting, if_neg howner, if_pos hlive]
      exact .inl ⟨trivial, existing, rfl, howner, hlive⟩
    · simp only [acquire, hexisting, if_neg howner, if_neg hlive]
      refine .inr ⟨_, rfl, rfl, rfl, fun other h => ?_⟩
      rw [hother other h]
      exact .inr (Nat.le_of_not_lt hlive)

/-- An owner that holds a resource acquires it again. -/
theorem acquire_own (h : leases resource = some lease) (howner : lease.owner = owner)
    (ttlMs nowMs : Nat) :
    ∃ refreshed, acquire resource owner ttlMs nowMs leases =
      (some refreshed, Function.update leases resource (some refreshed)) := by
  simp only [acquire, h, if_pos howner]
  exact ⟨_, rfl⟩

theorem release_of_ne (h : other ≠ resource) : release resource owner leases other = leases other := by
  unfold release
  split_ifs
  · exact Function.update_of_ne h _ _
  · rfl

theorem pruneExpired_of_live (h : leases resource = some lease) (hlive : nowMs < lease.expiresAtMs) :
    pruneExpired nowMs leases resource = some lease := by
  unfold pruneExpired
  rw [h]
  simp [hlive]

end Lemmas

end WorkerLeaseRepository

end cemp.database
