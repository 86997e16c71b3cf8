import CempMobile.Lib.Molecule

/-! Machine words and slices of bytes as a Rust program uses them: a sum that leaves the word and a
    read outside a slice end the program. -/

namespace Rust

open Molecule

inductive Panic where
  | overflow
  | outOfBounds
  deriving DecidableEq, Repr

/-- A function that returns an `Option`, or panics. -/
abbrev Run (α : Type) : Type := OptionT (Except Panic) α

/-- `usize::MAX + 1` on a target of 64 bits. -/
def usizeLimit : Nat := 2 ^ 64

/-- The operator `+`. Where it panics, a build without overflow checks would wrap. -/
def add (a b : Nat) : Except Panic Nat :=
  if a + b < usizeLimit then .ok (a + b) else .error .overflow

def checked_add (a b : Nat) : Option Nat := if a + b < usizeLimit then some (a + b) else none

/-- `slice[at]`. -/
def index (bytes : Buffer) (i : Nat) : Except Panic UInt8 :=
  match bytes[i]? with
  | some byte => .ok byte
  | none => .error .outOfBounds

/-- `slice.get(start..stop)`. -/
def get (bytes : Buffer) (start stop : Nat) : Option Buffer :=
  if start ≤ stop ∧ stop ≤ bytes.length then some (slice bytes start stop) else none

/-- `&slice[..stop]`. -/
def sliceTo (bytes : Buffer) (stop : Nat) : Except Panic Buffer :=
  if stop ≤ bytes.length then .ok (bytes.take stop) else .error .outOfBounds

/-- An option inside a function that returns one: the operator `?`. -/
def ofOption {α : Type} (x : Option α) : Run α := .mk (.ok x)

section

variable {a b start stop : Nat} {bytes : Buffer}

theorem add_of_lt (h : a + b < usizeLimit) : add a b = .ok (a + b) := if_pos h

theorem checked_add_of_lt (h : a + b < usizeLimit) : checked_add a b = some (a + b) := if_pos h

theorem index_of_lt (h : a < bytes.length) : index bytes a = .ok bytes[a] := by
  rw [index, List.getElem?_eq_getElem h]

theorem sliceTo_of_le (h : stop ≤ bytes.length) : sliceTo bytes stop = .ok (bytes.take stop) :=
  if_pos h

theorem get_of_le (hstart : start ≤ stop) (hstop : stop ≤ bytes.length) :
    get bytes start stop = some (slice bytes start stop) :=
  if_pos ⟨hstart, hstop⟩

theorem length_slice (hstop : stop ≤ bytes.length) :
    (slice bytes start stop).length = stop - start := by
  simp only [slice, List.length_drop, List.length_take]
  omega

/-- What `get` returns is as long as its range. -/
theorem length_of_get {piece : Buffer} (h : get bytes start stop = some piece) :
    piece.length = stop - start := by
  unfold get at h
  split at h
  · next hrange =>
    obtain rfl := Option.some.inj h
    exact length_slice hrange.2
  · cases h

end

/-! ### Runs without a panic -/

variable {α β : Type} {x : Run α} {f : α → Run β} {p : α → Prop} {q : β → Prop}

/-- A run that does not panic, and of which every value it returns satisfies `p`. -/
def Run.Safe (x : Run α) (p : α → Prop) : Prop :=
  ∃ result, x.run = .ok result ∧ ∀ a ∈ result, p a

theorem safe_failure : Run.Safe (failure : Run α) p := ⟨none, rfl, nofun⟩

theorem safe_pure {a : α} (h : p a) : Run.Safe (pure a) p :=
  ⟨some a, rfl, fun _ hmem => Option.some.inj hmem ▸ h⟩

theorem safe_ofOption {result : Option α} (h : ∀ a ∈ result, p a) : Run.Safe (ofOption result) p :=
  ⟨result, rfl, h⟩

theorem safe_lift {y : Except Panic α} {a : α} (hy : y = .ok a) (h : p a) :
    Run.Safe (liftM y : Run α) p := by
  subst hy
  exact safe_pure h

theorem run_bind_some {a : α} (h : x.run = .ok (some a)) : (x >>= f).run = (f a).run := by
  rw [OptionT.run_bind, h]
  rfl

theorem Run.Safe.bind (h : x.Safe p) (hf : ∀ a, p a → (f a).Safe q) : (x >>= f).Safe q := by
  obtain ⟨result, hrun, hresult⟩ := h
  cases result with
  | none =>
    refine ⟨none, ?_, nofun⟩
    rw [OptionT.run_bind, hrun]
    rfl
  | some a =>
    obtain ⟨result, hnext, hq⟩ := hf a (hresult a rfl)
    exact ⟨result, (run_bind_some hrun).trans hnext, hq⟩

end Rust
