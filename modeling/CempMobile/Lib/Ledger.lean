import Mathlib.Algebra.BigOperators.Group.List.Basic
import Mathlib.Algebra.Order.Ring.Int
import Mathlib.Tactic.Ring

/-! Cells under distinct keys, and references that spend them: what is left is worth what was there
    less what was spent. -/

namespace Ledger

variable {κ α : Type} [DecidableEq κ] {weight : α → ℤ} {cells : List (κ × α)} {refs : List κ}

def total (weight : α → ℤ) (cells : List (κ × α)) : ℤ := (cells.map fun c => weight c.2).sum

/-- What the cell under a key is worth, nothing when there is none. -/
def valueAt (weight : α → ℤ) (cells : List (κ × α)) (k : κ) : ℤ := ((cells.lookup k).map weight).getD 0

/-- The cells that no reference spends. -/
def unspent (cells : List (κ × α)) (refs : List κ) : List (κ × α) := cells.filter fun c => c.1 ∉ refs

theorem valueAt_cons (k : κ) (a : α) (r : κ) :
    valueAt weight ((k, a) :: cells) r = if r = k then weight a else valueAt weight cells r := by
  unfold valueAt
  by_cases hr : r = k
  · subst hr
    simp
  · simp [List.lookup_cons, beq_false_of_ne hr, hr]

theorem valueAt_eq_zero {k : κ} (h : k ∉ cells.map Prod.fst) : valueAt weight cells k = 0 := by
  unfold valueAt
  rw [List.lookup_eq_none_iff.2]
  · rfl
  · intro c hc
    exact bne_iff_ne.2 fun heq => h (List.mem_map.2 ⟨c, hc, heq.symm⟩)

/-- One of distinct references may be the special one. -/
theorem sum_map_ite (hrefs : refs.Nodup) {k : κ} {c : ℤ} {f : κ → ℤ} (hk : f k = 0) :
    (refs.map fun r => if r = k then c else f r).sum =
      (if k ∈ refs then c else 0) + (refs.map f).sum := by
  induction refs with
  | nil => simp
  | cons r refs ih =>
    obtain ⟨hr, hrest⟩ := List.nodup_cons.1 hrefs
    rw [List.map_cons, List.sum_cons, ih hrest, List.map_cons, List.sum_cons]
    by_cases heq : r = k
    · subst heq
      simp [hr, hk]
    · simp only [if_neg heq, List.mem_cons, Ne.symm heq, false_or]
      ring

theorem total_unspent (hkeys : (cells.map Prod.fst).Nodup) (hrefs : refs.Nodup) :
    total weight (unspent cells refs) =
      total weight cells - (refs.map (valueAt weight cells)).sum := by
  induction cells with
  | nil =>
    have hzero : ∀ refs : List κ, (refs.map (valueAt weight ([] : List (κ × α)))).sum = 0 := by
      intro refs
      induction refs with
      | nil => rfl
      | cons r refs ih =>
        rw [List.map_cons, List.sum_cons, ih]
        rfl
    simp [total, unspent, hzero]
  | cons cell cells ih =>
    obtain ⟨k, a⟩ := cell
    obtain ⟨hk, hrest⟩ := List.nodup_cons.1 hkeys
    have hsum : (refs.map (valueAt weight ((k, a) :: cells))).sum =
        (if k ∈ refs then weight a else 0) + (refs.map (valueAt weight cells)).sum := by
      rw [← sum_map_ite hrefs (valueAt_eq_zero hk)]
      exact congrArg List.sum (List.map_congr_left fun r _ => valueAt_cons k a r)
    have hcells := ih hrest
    unfold total unspent at hcells ⊢
    rw [hsum, List.filter_cons]
    by_cases hspent : k ∈ refs
    · simp only [hspent, not_true_eq_false, decide_false, Bool.false_eq_true, if_false, if_true,
        List.map_cons, List.sum_cons, hcells]
      ring
    · simp only [hspent, not_false_eq_true, decide_true, if_true, if_false, List.map_cons,
        List.sum_cons, hcells]
      ring

end Ledger
