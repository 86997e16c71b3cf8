import Mathlib.Data.List.Nodup

/-! Lists with one element for each key, in the order in which the keys were first set. -/

namespace InsertionOrder

variable {α κ : Type} [DecidableEq κ] (key : α → κ)

/-- An element takes the place of the one with its key, or the last place. -/
def set (xs : List α) (x : α) : List α :=
  if key x ∈ xs.map key then xs.map fun y => if key y = key x then x else y else xs ++ [x]

def delete (xs : List α) (k : κ) : List α := xs.filter fun y => key y ≠ k

variable {key} {xs ys : List α} {x : α} {k : κ}

theorem set_of_new (h : key x ∉ xs.map key) : set key xs x = xs ++ [x] := if_neg h

theorem map_key_set (xs : List α) (x : α) :
    (set key xs x).map key = if key x ∈ xs.map key then xs.map key else xs.map key ++ [key x] := by
  unfold set
  split
  · rw [List.map_map]
    refine List.map_congr_left fun y _ => ?_
    simp only [Function.comp_apply]
    split
    · next h => exact h.symm
    · rfl
  · rw [List.map_append, List.map_singleton]

theorem nodup_set (h : (xs.map key).Nodup) (x : α) : ((set key xs x).map key).Nodup := by
  rw [map_key_set]
  split
  · exact h
  · next hnew =>
    refine List.Nodup.append h (List.nodup_singleton _) ?_
    rwa [List.disjoint_singleton]

theorem nodup_foldl_set (h : (xs.map key).Nodup) (ys : List α) :
    ((ys.foldl (set key) xs).map key).Nodup := by
  induction ys generalizing xs with
  | nil => exact h
  | cons y ys ih => exact ih (nodup_set h y)

theorem mem_of_mem_set {y : α} (h : y ∈ set key xs x) : y ∈ xs ∨ y = x := by
  unfold set at h
  split at h
  · obtain ⟨z, hz, hy⟩ := List.mem_map.1 h
    split at hy
    · exact .inr hy.symm
    · exact .inl (hy ▸ hz)
  · simpa using h

theorem mem_of_mem_foldl_set {y : α} (h : y ∈ ys.foldl (set key) xs) : y ∈ xs ∨ y ∈ ys := by
  induction ys generalizing xs with
  | nil => exact .inl h
  | cons z ys ih =>
    obtain hmem | hmem := ih h
    · obtain hmem | rfl := mem_of_mem_set hmem
      · exact .inl hmem
      · exact .inr List.mem_cons_self
    · exact .inr (List.mem_cons_of_mem _ hmem)

theorem nodup_delete (h : (xs.map key).Nodup) (k : κ) : ((delete key xs k).map key).Nodup :=
  (List.filter_sublist.map key).nodup h

theorem delete_of_new (h : k ∉ xs.map key) : delete key xs k = xs := by
  refine List.filter_eq_self.2 fun y hy => ?_
  have hne : key y ≠ k := by
    rintro rfl
    exact h (List.mem_map_of_mem hy)
  exact decide_eq_true hne

end InsertionOrder
