import Mathlib.Data.List.Defs
import Mathlib.Tactic.Common

/-! Slicing a list into pieces of a fixed size: the pieces join to the list again, none is
    larger than the size, and their number is the length divided by the size, rounded up. -/

namespace List

variable {α : Type*} {n : Nat}

/-- A piece that is full starts the next one, so the pieces are as many as the sizes add up to. -/
private theorem ceilDiv_add_self {k : Nat} (hn : 0 < n) :
    (n + (k + 1) + n - 1) / n = 1 + (1 + k + n - 1) / n := by
  have hsum : n + (k + 1) + n - 1 = (1 + k + n - 1) + n := by omega
  rw [hsum, Nat.add_div_right _ hn]
  omega

private theorem ceilDiv_last {k : Nat} (hk : 0 < k) (hkn : k ≤ n) : (k + n - 1) / n = 1 := by
  have hsum : k + n - 1 = (k - 1) + n := by omega
  rw [hsum, Nat.add_div_right _ (by omega), Nat.div_eq_of_lt (by omega)]

theorem flatten_toChunks_go (xs : List α) (piece : Array α) (done : Array (List α)) :
    (toChunks.go n xs piece done).flatten = done.toList.flatten ++ (piece.toList ++ xs) := by
  induction xs generalizing piece done with
  | nil => simp [toChunks.go]
  | cons x xs ih =>
    simp only [toChunks.go]
    split
    · simp [ih]
    · simp [ih]

theorem length_le_of_mem_toChunks_go {xs : List α} {piece : Array α} {done : Array (List α)}
    (hpiece : piece.size ≤ n) (hn : 0 < n) (hdone : ∀ c ∈ done, c.length ≤ n)
    {chunk : List α} (hchunk : chunk ∈ toChunks.go n xs piece done) : chunk.length ≤ n := by
  induction xs generalizing piece done with
  | nil =>
    simp only [toChunks.go, Array.toList_push, mem_append, mem_singleton, Array.mem_toList_iff]
      at hchunk
    rcases hchunk with hold | rfl
    · exact hdone chunk hold
    · simpa using hpiece
  | cons x xs ih =>
    simp only [toChunks.go] at hchunk
    split at hchunk
    · refine ih (by simp; omega) (fun c hc => ?_) hchunk
      rcases Array.mem_push.mp hc with hold | rfl
      · exact hdone c hold
      · simpa using hpiece
    · next hfull =>
      have hroom : piece.size ≠ n := by simpa using hfull
      exact ih (by simp; omega) hdone hchunk

theorem length_toChunks_go {xs : List α} {piece : Array α} {done : Array (List α)}
    (hpos : 0 < piece.size) (hpiece : piece.size ≤ n) :
    (toChunks.go n xs piece done).length = done.size + (piece.size + xs.length + n - 1) / n := by
  induction xs generalizing piece done with
  | nil =>
    have hone := ceilDiv_last hpos hpiece
    simp [toChunks.go, hone]
  | cons x xs ih =>
    simp only [toChunks.go]
    split
    · next hfull =>
      have hsize : piece.size = n := by simpa using hfull
      have hnext := @ceilDiv_add_self n xs.length (by omega)
      rw [ih (by simp) (by simp; omega)]
      simp only [Array.size_push, List.length_cons, hsize]
      simp
      omega
    · next hfull =>
      have hroom : piece.size ≠ n := by simpa using hfull
      rw [ih (by simp) (by simp; omega)]
      simp only [Array.size_push, length_cons]
      have hsum : piece.size + 1 + xs.length + n - 1 = piece.size + (xs.length + 1) + n - 1 := by
        omega
      rw [hsum]

/-- The slices of a list join to it. -/
@[simp] theorem flatten_toChunks (n : Nat) (xs : List α) : (xs.toChunks n).flatten = xs := by
  rcases xs with - | ⟨x, xs⟩
  · simp [toChunks]
  · rcases n with - | n
    · simp [toChunks]
    · simp [toChunks, flatten_toChunks_go]

theorem length_le_of_mem_toChunks (hn : 0 < n) {xs chunk : List α}
    (hchunk : chunk ∈ xs.toChunks n) : chunk.length ≤ n := by
  rcases xs with - | ⟨x, xs⟩
  · simp [toChunks] at hchunk
  · rcases n with - | n
    · omega
    · exact length_le_of_mem_toChunks_go (by simp) hn (by simp) hchunk

theorem length_toChunks (hn : 0 < n) (xs : List α) :
    (xs.toChunks n).length = (xs.length + (n - 1)) / n := by
  rcases xs with - | ⟨x, xs⟩
  · have hzero : (n - 1) / n = 0 := Nat.div_eq_of_lt (by omega)
    simp [toChunks, hzero]
  · rcases n with - | n
    · omega
    · simp only [toChunks]
      rw [length_toChunks_go (by simp) (by simp)]
      simp only [List.length_cons, Array.size_empty]
      simp
      congr 1
      omega

/-- An empty piece would leave the others too few for what they join to. -/
theorem length_flatten_le_of_nil_mem {pieces : List (List α)}
    (hle : ∀ piece ∈ pieces, piece.length ≤ n) (hnil : [] ∈ pieces) :
    pieces.flatten.length ≤ n * (pieces.length - 1) := by
  have hall : ∀ rest : List (List α), (∀ piece ∈ rest, piece.length ≤ n) →
      rest.flatten.length ≤ n * rest.length := by
    intro rest hrest
    induction rest with
    | nil => simp
    | cons piece rest ih =>
      have hpiece := hrest piece mem_cons_self
      have htail := ih fun other hother => hrest other (mem_cons_of_mem piece hother)
      rw [flatten_cons, length_append, length_cons, Nat.mul_succ]
      omega
  obtain ⟨front, back, rfl⟩ := append_of_mem hnil
  have hfront := hall front fun piece hpiece => hle piece (mem_append_left _ hpiece)
  have hback := hall back fun piece hpiece =>
    hle piece (mem_append_right _ (mem_cons_of_mem _ hpiece))
  have hcount : (front ++ [] :: back).length - 1 = front.length + back.length := by simp
  rw [hcount, flatten_append, flatten_cons, nil_append, length_append, Nat.mul_add]
  omega

/-- No piece of a list that has items is empty. -/
theorem ne_nil_of_mem_toChunks (hn : 0 < n) {xs chunk : List α} (hxs : xs ≠ [])
    (hchunk : chunk ∈ xs.toChunks n) : chunk ≠ [] := by
  rintro rfl
  have hle := length_flatten_le_of_nil_mem (fun _ h => length_le_of_mem_toChunks hn h) hchunk
  rw [flatten_toChunks, length_toChunks hn] at hle
  have hpos : 0 < xs.length := length_pos_iff.2 hxs
  have hcount : (xs.length + (n - 1)) / n - 1 = (xs.length - 1) / n := by
    have hsum : xs.length + (n - 1) = xs.length - 1 + n := by omega
    rw [hsum, Nat.add_div_right _ hn, Nat.add_sub_cancel]
  rw [hcount] at hle
  have hfloor := Nat.mul_div_le (xs.length - 1) n
  omega

end List
