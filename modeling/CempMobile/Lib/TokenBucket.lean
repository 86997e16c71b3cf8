import Mathlib.Algebra.Order.Field.Basic
import Mathlib.Data.List.Basic
import Mathlib.Tactic.FieldSimp
import Mathlib.Tactic.Linarith
import Mathlib.Tactic.Ring

/-! A bucket of tokens that is refilled continuously, up to a capacity, at the rate of one capacity
a period, and from which a token is taken at a time. -/

@[ext] structure TokenBucket (K : Type) where
  tokens : K
  updatedAt : K
  deriving DecidableEq, Repr

namespace TokenBucket

variable {K : Type} [LinearOrder K]

/-- The number of the times from `first` on. -/
def since (first : K) (times : List K) : Nat := times.countP (first ≤ ·)

/-- The number of the times in a window. -/
def within (first last : K) (times : List K) : Nat :=
  times.countP fun t => first ≤ t && t ≤ last

section Times

variable {first last now : K} {times times' : List K}

theorem since_eq_zero (h : ∀ t ∈ times, t < first) : since first times = 0 := by
  rw [since, List.countP_eq_zero]
  intro t ht hle
  exact absurd (of_decide_eq_true hle) (not_le.2 (h t ht))

theorem within_eq_since (h : ∀ t ∈ times, t ≤ last) : within first last times = since first times := by
  refine List.countP_congr fun t ht => ?_
  simp [h t ht]

theorem since_insert (h : first ≤ now) :
    since first (times ++ now :: times') = since first (times ++ times') + 1 := by
  simp only [since, List.countP_append, List.countP_cons, h, decide_true, if_true]
  omega

theorem within_insert_of_not (h : ¬(first ≤ now ∧ now ≤ last)) :
    within first last (times ++ now :: times') = within first last (times ++ times') := by
  simp only [within, List.countP_append, List.countP_cons]
  rw [if_neg (by simpa using h), Nat.add_zero]

end Times

variable [Field K]

/-- The tokens at a time. A time before the last update gains nothing. -/
def refilled (period capacity : K) (b : TokenBucket K) (now : K) : K :=
  min capacity (b.tokens + max 0 (now - b.updatedAt) / period * capacity)

/-- A bucket that a token was taken from at some times, and what that says about it. A bucket
    nothing was taken from yet can be anything. -/
structure Charged (period capacity : K) (b : Option (TokenBucket K)) (times : List K) : Prop where
  /-- The tokens left and those taken since a time are no more than the capacity and what has
      been refilled since. -/
  level : times ≠ [] → ∃ b', b = some b' ∧ b'.updatedAt ∈ times ∧ (∀ t ∈ times, t ≤ b'.updatedAt) ∧
    0 ≤ b'.tokens ∧ ∀ first ≤ b'.updatedAt,
      b'.tokens + since first times ≤ capacity * (1 + (b'.updatedAt - first) / period)
  window : ∀ first last, first ≤ last →
    (within first last times : K) ≤ capacity * (1 + (last - first) / period)

variable {period capacity now first last : K} {b : TokenBucket K} {row : Option (TokenBucket K)}
  {times times' : List K}

theorem refilled_le : refilled period capacity b now ≤ capacity := min_le_left _ _

/-- Where there is no bucket nothing has been taken from it. -/
theorem Charged.eq_nil (h : Charged period capacity none times) : times = [] := by
  by_contra hne
  obtain ⟨b', hb, -⟩ := h.level hne
  cases hb

variable [IsStrictOrderedRing K]

/-- A full bucket stays full. -/
theorem refilled_full (hperiod : 0 < period) (hcapacity : 0 ≤ capacity) (updatedAt : K) :
    refilled period capacity ⟨capacity, updatedAt⟩ now = capacity := by
  have hgain : 0 ≤ max 0 (now - updatedAt) / period * capacity :=
    mul_nonneg (div_nonneg (le_max_left _ _) hperiod.le) hcapacity
  exact min_eq_left (le_add_of_nonneg_right hgain)

theorem le_capacity_mul (hperiod : 0 < period) (hcapacity : 0 ≤ capacity) (h : first ≤ last) :
    capacity ≤ capacity * (1 + (last - first) / period) := by
  have hgain : 0 ≤ (last - first) / period := div_nonneg (sub_nonneg.2 h) hperiod.le
  nlinarith

namespace Charged

/-- Nothing has been taken from the bucket yet. -/
theorem nil (hperiod : 0 < period) (hcapacity : 0 ≤ capacity) (row : Option (TokenBucket K)) :
    Charged period capacity row [] where
  level h := absurd rfl h
  window first last h := by
    have hle := le_capacity_mul hperiod hcapacity h
    simp only [within, List.countP_nil, Nat.cast_zero]
    exact hcapacity.trans hle

/-- Tokens and those taken since a time, right after one more is taken. -/
theorem level_insert (hperiod : 0 < period) (hcapacity : 0 ≤ capacity)
    (h : Charged period capacity (some b) (times ++ times'))
    (hlater : ∀ t ∈ times ++ times', t ≤ now) (hfirst : first ≤ now) :
    refilled period capacity b now - 1 + since first (times ++ now :: times') ≤
      capacity * (1 + (now - first) / period) := by
  rw [since_insert hfirst]
  push_cast
  have hfull := le_capacity_mul hperiod hcapacity hfirst
  have hcapped : refilled period capacity b now ≤ capacity := refilled_le
  by_cases hnone : ∀ t ∈ times ++ times', t < first
  · rw [since_eq_zero hnone]
    push_cast
    linarith
  · obtain ⟨t, ht, hle⟩ : ∃ t ∈ times ++ times', first ≤ t := by simpa using hnone
    obtain ⟨b', hb, hstamp, hlast, -, hbound⟩ := h.level (List.ne_nil_of_mem ht)
    obtain rfl := Option.some.inj hb
    have hbefore := hbound first (hle.trans (hlast t ht))
    have hgain : refilled period capacity b now ≤
        b.tokens + (now - b.updatedAt) / period * capacity := by
      have hmax := max_eq_right (sub_nonneg.2 (hlater _ hstamp))
      unfold refilled
      rw [hmax]
      exact min_le_right _ _
    have hsplit : capacity * (1 + (now - first) / period) =
        capacity * (1 + (b.updatedAt - first) / period) +
          (now - b.updatedAt) / period * capacity := by
      field_simp
      ring
    linarith

/-- A token is taken at a time no earlier than those before it. -/
theorem insert (hperiod : 0 < period) (hcapacity : 0 ≤ capacity)
    (h : Charged period capacity (some b) (times ++ times'))
    (hlater : ∀ t ∈ times ++ times', t ≤ now) (htoken : 1 ≤ refilled period capacity b now) :
    Charged period capacity (some ⟨refilled period capacity b now - 1, now⟩)
      (times ++ now :: times') := by
  have hall : ∀ t ∈ times ++ now :: times', t ≤ now := by
    intro t ht
    simp only [List.mem_append, List.mem_cons] at ht hlater
    obtain ht | rfl | ht := ht
    · exact hlater t (.inl ht)
    · exact le_rfl
    · exact hlater t (.inr ht)
  constructor
  · intro _
    exact ⟨_, rfl, by simp, hall, sub_nonneg.2 htoken,
      fun first hfirst => h.level_insert hperiod hcapacity hlater hfirst⟩
  · intro first last hle
    by_cases hin : first ≤ now ∧ now ≤ last
    · have hlevel := h.level_insert hperiod hcapacity hlater hin.1
      have hmono : capacity * (1 + (now - first) / period) ≤
          capacity * (1 + (last - first) / period) := by
        have := (div_le_div_iff_of_pos_right hperiod).2 (sub_le_sub_right hin.2 first)
        gcongr
      rw [within_eq_since fun t ht => (hall t ht).trans hin.2]
      linarith
    · rw [within_insert_of_not hin]
      exact h.window first last hle

end Charged

end TokenBucket
