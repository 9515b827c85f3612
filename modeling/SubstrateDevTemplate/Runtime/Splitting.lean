import Mathlib.Algebra.Order.BigOperators.Group.List
import SubstrateDevTemplate.Runtime.WeightToFee

/-!
# Runtime — Splitting

One weight, or the same weight in parts: what the rounding of `WeightToFee` makes of the difference.
The rate is rounded once for all weights, so only the rounding of each fee counts.

* `split_weightToFee`: the fees of `n` weights and the fee of their sum are at most `(n + 1) / 2`
  apart, however the products round.  Two weights that are put together change the total by at most
  one unit.

A weight is a `u64`, and so is the sum of those that are put together.
-/

namespace SubstrateDevTemplate.Runtime
open Rounding

section
variable {mul : Perbill → Nat → Nat} {b : Nat}

/-- A weight in a list is no more than the whole list. -/
theorem weight_lt {weights : List Nat} (h : weights.sum < 2 ^ 64) {w : Nat} (hw : w ∈ weights) :
    w < 2 ^ 64 :=
  (List.le_sum_of_mem hw).trans_lt h

/-- Before each fee is rounded, the fees of the parts make up the fee of the whole. -/
theorem sum_rate (b : Nat) (weights : List Nat) :
    (weights.map fun w : Nat => (rateParts b * w / 1000000000 : ℚ)).sum =
      rateParts b * weights.sum / 1000000000 := by
  induction weights with
  | nil => simp
  | cons w weights ih =>
    rw [List.map_cons, List.sum_cons, List.sum_cons, ih]
    push_cast
    ring

/-- **Splitting a weight.**  The fees of `n` weights differ from the fee of their sum by at most
`(n + 1) / 2`. -/
theorem split_weightToFee (hmul : RoundsToNearest mul) (hb : 0 < b) (weights : List Nat)
    (h : weights.sum < 2 ^ 64) :
    |(((weights.map (weightToFee mul b)).sum : ℚ) - weightToFee mul b weights.sum)| ≤
      (weights.length + 1) / 2 := by
  have hparts := sum_nearest weights fun w hw => weightToFee_nearest hmul hb (weight_lt h hw)
  have hwhole : |(weightToFee mul b weights.sum : ℚ) - rateParts b * weights.sum / 1000000000| ≤
      1 / 2 := weightToFee_nearest hmul hb h
  rw [sum_rate] at hparts
  rw [abs_sub_comm] at hwhole
  have htotal := (abs_sub_le ..).trans (add_le_add hparts hwhole)
  exact htotal.trans_eq (by ring)

end

/-- A weight of 124 in two parts costs nothing; in one it costs a unit. -/
theorem split_weightToFee_halves :
    |((([62, 62].map (weightToFee Perbill.mul extrinsicBaseWeight)).sum : ℚ) -
      weightToFee Perbill.mul extrinsicBaseWeight [62, 62].sum)| ≤ ([62, 62].length + 1) / 2 :=
  split_weightToFee roundsToNearest_mul (by decide) [62, 62] (by decide)

example : [62, 62].map (weightToFee Perbill.mul extrinsicBaseWeight) = [0, 0] ∧
    weightToFee Perbill.mul extrinsicBaseWeight 124 = 1 := by decide

end SubstrateDevTemplate.Runtime
