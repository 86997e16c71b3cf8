import Mathlib.Data.Nat.ModEq
import Mathlib.Logic.Function.Iterate

/-! A wheel of positions that turns by one place after every so many ticks. -/

structure Wheel where
  position : Nat
  ticks : Nat

namespace Wheel

variable {n period : Nat}

/-- One tick: the last one of a period turns the wheel. -/
def tick (n period : Nat) (wheel : Wheel) : Wheel :=
  if wheel.ticks + 1 = period then ⟨(wheel.position + 1) % n, 0⟩
  else ⟨wheel.position, wheel.ticks + 1⟩

theorem tick_ticks_lt (hperiod : 0 < period) {wheel : Wheel} (hticks : wheel.ticks < period) :
    (tick n period wheel).ticks < period := by
  unfold tick
  split
  · exact hperiod
  · change wheel.ticks + 1 < period
    omega

theorem tick_position_lt (hn : 0 < n) {wheel : Wheel} (hposition : wheel.position < n) :
    (tick n period wheel).position < n := by
  unfold tick
  split
  · exact Nat.mod_lt _ hn
  · exact hposition

/-- A tick moves the wheel exactly at the end of a period. -/
theorem tick_position_ne_iff (hn : 2 ≤ n) {wheel : Wheel} (hposition : wheel.position < n) :
    (tick n period wheel).position ≠ wheel.position ↔ wheel.ticks + 1 = period := by
  unfold tick
  split
  · next hturn =>
    refine iff_of_true ?_ hturn
    change (wheel.position + 1) % n ≠ wheel.position
    rcases Nat.lt_or_ge (wheel.position + 1) n with hlt | hge
    · rw [Nat.mod_eq_of_lt hlt]
      omega
    · have hlast : wheel.position + 1 = n := by omega
      rw [hlast, Nat.mod_self]
      omega
  · next hstay => exact iff_of_false (fun hne => hne rfl) hstay

/-- Where the wheel is after a number of ticks. -/
theorem iterate_tick (hperiod : 0 < period) {wheel : Wheel} (hposition : wheel.position < n)
    (hticks : wheel.ticks < period) (m : Nat) :
    (tick n period)^[m] wheel = ⟨(wheel.position + (wheel.ticks + m) / period) % n,
      (wheel.ticks + m) % period⟩ := by
  induction m with
  | zero =>
    rw [Function.iterate_zero_apply, Nat.add_zero, Nat.div_eq_of_lt hticks, Nat.add_zero,
      Nat.mod_eq_of_lt hposition, Nat.mod_eq_of_lt hticks]
  | succ m ih =>
    rw [Function.iterate_succ_apply', ih, ← Nat.add_assoc]
    have hrest := Nat.mod_lt (wheel.ticks + m) hperiod
    have hdiv := Nat.div_add_mod (wheel.ticks + m) period
    have hsucc : wheel.ticks + m + 1 =
        (wheel.ticks + m) % period + 1 + period * ((wheel.ticks + m) / period) := by omega
    have hquotient := Nat.add_mul_div_left ((wheel.ticks + m) % period + 1)
      ((wheel.ticks + m) / period) hperiod
    have hremainder := Nat.add_mul_mod_self_left ((wheel.ticks + m) % period + 1) period
      ((wheel.ticks + m) / period)
    rw [← hsucc] at hquotient hremainder
    rw [hquotient, hremainder]
    unfold tick
    split
    · next hturn =>
      change (wheel.ticks + m) % period + 1 = period at hturn
      rw [hturn, Nat.div_self hperiod, Nat.mod_self, Nat.mod_add_mod, Nat.add_assoc,
        Nat.add_comm _ 1]
    · next hstay =>
      change ¬(wheel.ticks + m) % period + 1 = period at hstay
      have hsmall : (wheel.ticks + m) % period + 1 < period := by omega
      rw [Nat.div_eq_of_lt hsmall, Nat.mod_eq_of_lt hsmall, Nat.zero_add]

/-- The places a wheel comes to are the next ones, one way round. -/
theorem place_eq_iff {position place k k' : Nat} (hposition : position < n) (hk : 0 < k ∧ k ≤ n)
    (hk' : 0 < k' ∧ k' ≤ n) (hplace : (position + k) % n = place) :
    (position + k') % n = place ↔ k' = k := by
  constructor
  · intro hsame
    have hmod (j : Nat) (hj : 0 < j ∧ j ≤ n) :
        (position + j) % n = if position + j < n then position + j else position + j - n := by
      split
      · next hlt => exact Nat.mod_eq_of_lt hlt
      · next hge =>
        rw [Nat.mod_eq_sub_mod (by omega), Nat.mod_eq_of_lt (by omega)]
    rw [← hplace, hmod k hk, hmod k' hk'] at hsame
    split at hsame <;> split at hsame <;> omega
  · rintro rfl
    exact hplace

/-- A wheel turns with the tick that completes a period, and is then at the next place. -/
theorem turn_iff (hn : 2 ≤ n) (hperiod : 0 < period) {wheel : Wheel}
    (hposition : wheel.position < n) (hticks : wheel.ticks < period) {m place : Nat} :
    (((tick n period)^[m + 1] wheel).position ≠ ((tick n period)^[m] wheel).position ∧
        ((tick n period)^[m + 1] wheel).position = place) ↔
      ∃ k, 0 < k ∧ wheel.ticks + m + 1 = period * k ∧ (wheel.position + k) % n = place := by
  have hturns : ((tick n period)^[m + 1] wheel).position ≠
      ((tick n period)^[m] wheel).position ↔ (wheel.ticks + m) % period + 1 = period := by
    rw [Function.iterate_succ_apply', iterate_tick hperiod hposition hticks]
    exact tick_position_ne_iff hn (Nat.mod_lt _ (by omega))
  have hdiv := Nat.div_add_mod (wheel.ticks + m) period
  rw [hturns, iterate_tick hperiod hposition hticks, ← Nat.add_assoc]
  constructor
  · rintro ⟨hend, hplace⟩
    have hsum : wheel.ticks + m + 1 = period * ((wheel.ticks + m) / period + 1) := by
      rw [Nat.mul_succ]
      omega
    rw [hsum, Nat.mul_div_cancel_left _ hperiod] at hplace
    exact ⟨_, Nat.succ_pos _, hsum, hplace⟩
  · rintro ⟨k, hk, hsum, hplace⟩
    refine ⟨?_, by rwa [hsum, Nat.mul_div_cancel_left _ hperiod]⟩
    obtain ⟨j, rfl⟩ : ∃ j, k = j + 1 := ⟨k - 1, by omega⟩
    have hbefore : wheel.ticks + m = period - 1 + period * j := by
      rw [Nat.mul_succ] at hsum
      omega
    rw [hbefore, Nat.add_mul_mod_self_left, Nat.mod_eq_of_lt (by omega)]
    omega

/-- One way round: of as many periods as the wheel has places, each place is turned to once. -/
theorem existsUnique_turn (hn : 2 ≤ n) (hperiod : 0 < period) {wheel : Wheel}
    (hposition : wheel.position < n) (hticks : wheel.ticks < period) {place : Nat}
    (hplace : place < n) :
    ∃! m, m < n * period ∧
      ((tick n period)^[m + 1] wheel).position ≠ ((tick n period)^[m] wheel).position ∧
      ((tick n period)^[m + 1] wheel).position = place := by
  obtain ⟨k, hk, hfirst⟩ : ∃ k, (0 < k ∧ k ≤ n) ∧ (wheel.position + k) % n = place := by
    rcases Nat.lt_or_ge wheel.position place with hlt | hge
    · refine ⟨place - wheel.position, by omega, ?_⟩
      rw [Nat.add_sub_cancel' hlt.le, Nat.mod_eq_of_lt hplace]
    · refine ⟨place + n - wheel.position, by omega, ?_⟩
      rw [Nat.add_sub_cancel' (by omega), Nat.add_mod_right, Nat.mod_eq_of_lt hplace]
  have hlow : period * 1 ≤ period * k := Nat.mul_le_mul_left _ hk.1
  have hhigh : period * k ≤ period * n := Nat.mul_le_mul_left _ hk.2
  rw [Nat.mul_one] at hlow
  refine ⟨period * k - 1 - wheel.ticks, ⟨?_, ?_⟩, ?_⟩
  · rw [Nat.mul_comm n]
    omega
  · rw [turn_iff hn hperiod hposition hticks]
    exact ⟨k, hk.1, by omega, hfirst⟩
  · rintro m ⟨hm, hturn⟩
    rw [turn_iff hn hperiod hposition hticks] at hturn
    obtain ⟨k', hk', hsum, hsame⟩ := hturn
    have hround : k' ≤ n := by
      by_contra hmore
      have hover : period * (n + 1) ≤ period * k' := Nat.mul_le_mul_left _ (by omega)
      rw [Nat.mul_succ, Nat.mul_comm period n] at hover
      omega
    obtain rfl := (place_eq_iff hposition hk ⟨hk', hround⟩ hfirst).1 hsame
    omega

end Wheel
