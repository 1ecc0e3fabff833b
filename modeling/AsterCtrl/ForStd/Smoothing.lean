import Mathlib.Tactic.Common

/-!
# Smoothing with integers

A filter moves its value by a part of the distance to each sample.  With integers the division
truncates, so the value comes near to a constant sample but need not reach it: it stops as soon as
the distance is smaller than the divisor.

## Key results

- `smooth_cases`: one step, with its distance from the sample as a natural number
- `smooth_between`: the value stays between the old value and the sample
- `natAbs_smooth_sub`: how the distance to the sample shrinks
-/

/-- One step of the filter. -/
def smooth (k : Nat) (value sample : Int) : Int := value + (sample - value).tdiv k

variable {k : Nat} {value sample low high : Int}

/-- The value moves towards the sample by a part of the distance. -/
theorem smooth_cases (k : Nat) (value sample : Int) :
    ∃ d : Nat, (sample = value + d ∧ smooth k value sample = value + (d / k : Nat)) ∨
      (sample = value - d ∧ smooth k value sample = value - (d / k : Nat)) := by
  unfold smooth
  obtain ⟨d, hd | hd⟩ := (sample - value).eq_nat_or_neg
  · refine ⟨d, .inl ⟨by omega, ?_⟩⟩
    rw [hd, ← Int.ofNat_tdiv]
  · refine ⟨d, .inr ⟨by omega, ?_⟩⟩
    rw [hd, Int.neg_tdiv, ← Int.ofNat_tdiv]
    rfl

theorem smooth_between (k : Nat) (hvalue : low ≤ value ∧ value ≤ high)
    (hsample : low ≤ sample ∧ sample ≤ high) :
    low ≤ smooth k value sample ∧ smooth k value sample ≤ high := by
  obtain ⟨d, h⟩ := smooth_cases k value sample
  have hle := Nat.div_le_self d k
  generalize d / k = part at h hle
  omega

/-- The distance to the sample shrinks by its part. -/
theorem natAbs_smooth_sub (k : Nat) (value sample : Int) :
    (smooth k value sample - sample).natAbs =
      (value - sample).natAbs - (value - sample).natAbs / k := by
  obtain ⟨d, h⟩ := smooth_cases k value sample
  have hdistance : (value - sample).natAbs = d := by omega
  rw [hdistance]
  have hle := Nat.div_le_self d k
  generalize d / k = part at h hle ⊢
  omega

theorem natAbs_smooth_sub_le (k : Nat) (value sample : Int) :
    (smooth k value sample - sample).natAbs ≤ (value - sample).natAbs := by
  rw [natAbs_smooth_sub]
  exact Nat.sub_le _ _

theorem natAbs_smooth_sub_lt (hk : 0 < k) (h : k ≤ (value - sample).natAbs) :
    (smooth k value sample - sample).natAbs < (value - sample).natAbs := by
  rw [natAbs_smooth_sub]
  have := Nat.div_pos h hk
  omega

/-- The value stops near the sample. -/
theorem smooth_eq_of_lt (h : (value - sample).natAbs < k) : smooth k value sample = value := by
  obtain ⟨d, hd⟩ := smooth_cases k value sample
  have hdistance : (value - sample).natAbs = d := by omega
  rw [Nat.div_eq_of_lt (hdistance ▸ h)] at hd
  omega
