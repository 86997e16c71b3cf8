import Mathlib.Logic.Function.Basic
import Mathlib.Tactic.Common
import Mathlib.Tactic.TypeStar

/-- A heap of mutable cells. A reference names a cell for good: whoever holds it sees every
    later write. -/
structure Heap (β : Type*) where
  mem : Nat → β
  next : Nat

namespace Heap

variable {β : Type*} {h : Heap β} {r r' : Nat} {b : β}

/-- The heap without a cell. Reading an unallocated one gives `b`. -/
def empty (b : β) : Heap β := ⟨fun _ => b, 0⟩

/-- The content of a cell. -/
def get (h : Heap β) (r : Nat) : β := h.mem r

/-- A new cell: its reference and the heap that has it. -/
def alloc (h : Heap β) (b : β) : Nat × Heap β :=
  (h.next, ⟨Function.update h.mem h.next b, h.next + 1⟩)

/-- Overwrites a cell. -/
def set (h : Heap β) (r : Nat) (b : β) : Heap β := { h with mem := Function.update h.mem r b }

@[simp] theorem next_set : (h.set r b).next = h.next := rfl

@[simp] theorem fst_alloc : (h.alloc b).1 = h.next := rfl

@[simp] theorem next_alloc : (h.alloc b).2.next = h.next + 1 := rfl

@[simp] theorem get_set_self : (h.set r b).get r = b := Function.update_self ..

theorem get_set_of_ne (hne : r ≠ r') : (h.set r' b).get r = h.get r :=
  Function.update_of_ne hne ..

@[simp] theorem get_alloc_self : (h.alloc b).2.get h.next = b := Function.update_self ..

/-- An allocation does not touch the cells there are. -/
theorem get_alloc_of_lt (hlt : r < h.next) : (h.alloc b).2.get r = h.get r :=
  Function.update_of_ne (Nat.ne_of_lt hlt) ..

end Heap
