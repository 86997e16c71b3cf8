import Mathlib.Data.List.Perm.Basic
import Mathlib.Data.List.Nodup

/-! A shuffle that stops early: the first places of a list get elements drawn from the rest. -/

namespace Shuffle

variable {α : Type*}

/-- Two elements change places; nothing happens outside of the list. -/
def exchange (pool : List α) (i j : Nat) : List α :=
  match pool[i]?, pool[j]? with
  | some x, some y => (pool.set i y).set j x
  | _, _ => pool

/-- From place `i` on, each place is exchanged with one that is drawn from there on. -/
def partialShuffle : List Nat → Nat → List α → List α
  | [], _, pool => pool
  | draw :: draws, i, pool =>
    partialShuffle draws (i + 1) (exchange pool i (i + draw % (pool.length - i)))

section Exchange

variable {pool : List α} {i j : Nat} {x : α}

theorem exchange_of_lt (hi : i < pool.length) (hj : j < pool.length) :
    exchange pool i j = (pool.set i pool[j]).set j pool[i] := by
  simp only [exchange, List.getElem?_eq_getElem hi, List.getElem?_eq_getElem hj]

theorem exchange_perm (pool : List α) (i j : Nat) : (exchange pool i j).Perm pool := by
  by_cases hi : i < pool.length
  · by_cases hj : j < pool.length
    · rw [exchange_of_lt hi hj]
      exact List.set_set_perm hi hj
    · simp only [exchange, List.getElem?_eq_none (Nat.le_of_not_lt hj)]
      cases pool[i]? <;> exact .refl _
  · simp only [exchange, List.getElem?_eq_none (Nat.le_of_not_lt hi)]
    exact .refl _

/-- The places before both are as they were. -/
theorem take_exchange (hij : i ≤ j) : (exchange pool i j).take i = pool.take i := by
  by_cases hi : i < pool.length
  · by_cases hj : j < pool.length
    · rw [exchange_of_lt hi hj, List.take_set_of_le hij, List.take_set_of_le (Nat.le_refl i)]
    · simp only [exchange, List.getElem?_eq_none (Nat.le_of_not_lt hj)]
      cases pool[i]? <;> rfl
  · simp only [exchange, List.getElem?_eq_none (Nat.le_of_not_lt hi)]

/-- The first of the two places has what the second one had. -/
theorem getElem?_exchange (hi : i < pool.length) (hx : pool[j]? = some x) :
    (exchange pool i j)[i]? = some x := by
  obtain ⟨hj, rfl⟩ := List.getElem?_eq_some_iff.1 hx
  rw [exchange_of_lt hi hj]
  by_cases hij : j = i
  · subst hij
    rw [List.getElem?_set_self (by rwa [List.length_set])]
  · rw [List.getElem?_set_ne hij, List.getElem?_set_self hi]

theorem take_succ_exchange (hij : i ≤ j) (hi : i < pool.length) (hx : pool[j]? = some x) :
    (exchange pool i j).take (i + 1) = pool.take i ++ [x] := by
  rw [List.take_add_one, take_exchange hij, getElem?_exchange hi hx]
  rfl

end Exchange

section PartialShuffle

variable {pool : List α}

theorem partialShuffle_perm (draws : List Nat) (i : Nat) (pool : List α) :
    (partialShuffle draws i pool).Perm pool := by
  induction draws generalizing i pool with
  | nil => exact .refl _
  | cons draw draws ih => exact (ih _ _).trans (exchange_perm _ _ _)

/-- Whatever the rest of the list has can be drawn, in any order. -/
theorem partialShuffle_reaches {targets : List α} {i : Nat} (hpool : pool.Nodup)
    (htargets : targets.Nodup) (hrest : ∀ x ∈ targets, x ∈ pool.drop i) :
    ∃ draws : List Nat, draws.length = targets.length ∧ (∀ draw ∈ draws, draw < pool.length) ∧
      (partialShuffle draws i pool).take (i + targets.length) = pool.take i ++ targets := by
  induction targets generalizing i pool with
  | nil => exact ⟨[], rfl, nofun, by simp [partialShuffle]⟩
  | cons x targets ih =>
    obtain ⟨hx, htargets⟩ := List.nodup_cons.1 htargets
    obtain ⟨draw, hdraw⟩ := List.mem_iff_getElem?.1 (hrest x List.mem_cons_self)
    rw [List.getElem?_drop] at hdraw
    have hlt := (List.getElem?_eq_some_iff.1 hdraw).1
    have hsmall : draw % (pool.length - i) = draw := Nat.mod_eq_of_lt (by omega)
    have hperm := exchange_perm pool i (i + draw)
    have htake := take_succ_exchange (Nat.le_add_right i draw) (by omega) hdraw
    have hrest' : ∀ y ∈ targets, y ∈ (exchange pool i (i + draw)).drop (i + 1) := by
      intro y hy
      have hin := hrest y (List.mem_cons_of_mem _ hy)
      have hmem : y ∈ exchange pool i (i + draw) := hperm.mem_iff.2 (List.mem_of_mem_drop hin)
      rw [← List.take_append_drop (i + 1) (exchange pool i (i + draw)), htake] at hmem
      obtain hfront | hback := List.mem_append.1 hmem
      · obtain hbefore | hsame := List.mem_append.1 hfront
        · have hdisjoint := List.disjoint_take_drop hpool (Nat.le_refl i)
          exact absurd hin (hdisjoint hbefore)
        · exact absurd (List.mem_singleton.1 hsame ▸ hy) hx
      · exact hback
    obtain ⟨draws, hlength, hbound, hdrawn⟩ := ih (hperm.nodup_iff.2 hpool) htargets hrest'
    rw [hperm.length_eq] at hbound
    refine ⟨draw :: draws, by simp [hlength], ?_, ?_⟩
    · intro other hother
      obtain rfl | hother := List.mem_cons.1 hother
      · omega
      · exact hbound other hother
    · rw [partialShuffle, hsmall, List.length_cons, ← Nat.add_assoc, Nat.add_right_comm, hdrawn, htake,
        List.append_assoc, List.singleton_append]

end PartialShuffle

end Shuffle
