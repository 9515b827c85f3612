import Mathlib.Tactic.FieldSimp
import Mathlib.Tactic.NormNum
import Mathlib.Tactic.Ring
import SubstrateDevTemplate.Support.Rounding

/-!
# Runtime — WeightToFee

`WeightToFee::polynomial` of the runtime: the one coefficient that turns a weight's `ref_time` into
a fee.  The rate `p / q` is kept as a whole part and a `Perbill`, a fraction in parts per billion.

* `weightToFee_decomposes`: the evaluation never saturates, is off the rate `p / q` by at most
  `w / 10⁹ + 1/2`, and is monotone in the weight.
* `documented_fee_iff`: the rate the comment gives, `MILLIUNIT / 10` for the extrinsic base weight,
  is a hundred times the one charged.  The fee is near it only where it is itself next to nothing.

`sp_runtime` is not part of the repository.  `Perbill::from_rational` rounds down; how `Perbill * w`
rounds to a nearest number is a parameter, `mul`.
-/

namespace SubstrateDevTemplate.Runtime
open Rounding

/-- `MILLIUNIT`. -/
def milliunit : Nat := 1000000000

/-- `Balance::MAX`, of `u128`. -/
def balanceMax : Nat := 2 ^ 128 - 1

/-- A fraction of one, in parts per billion. -/
structure Perbill where
  parts : Nat
  le_one : parts ≤ 1000000000

/-- `Perbill::from_rational(x, q)`. -/
def Perbill.fromRational (x q : Nat) : Perbill :=
  ⟨min (x * 1000000000 / q) 1000000000, Nat.min_le_right ..⟩

/-- `WeightToFeeCoefficient`. -/
structure Coefficient where
  degree : Nat
  negative : Bool
  coeffFrac : Perbill
  coeffInteger : Nat

/-- `WeightToFee::polynomial`, for an `ExtrinsicBaseWeight` of `baseWeight`. -/
def polynomial (baseWeight : Nat) : List Coefficient :=
  let p := milliunit / 10
  let q := 100 * baseWeight
  [{ degree := 1
     negative := false
     coeffFrac := .fromRational (p % q) q
     coeffInteger := p / q }]

section
variable (mul : Perbill → Nat → Nat)

/-- `Perbill * w` is a nearest number to the fraction of `w`. -/
def RoundsToNearest : Prop :=
  ∀ (x : Perbill) (w : Nat), Nearest (mul x w) (x.parts * w / 1000000000)

/-- One term is added to, or taken from, the sum so far. -/
def term (acc w : Nat) (t : Coefficient) : Nat :=
  let power := min (w ^ t.degree) balanceMax
  let frac := mul t.coeffFrac power
  let integer := min (t.coeffInteger * power) balanceMax
  if t.negative then acc - frac - integer
  else min (min (acc + frac) balanceMax + integer) balanceMax

/-- The polynomial at `w`, in saturating arithmetic. -/
def evaluate (terms : List Coefficient) (w : Nat) : Nat := terms.foldl (term mul · w) 0

/-- No operation on the way to one more term goes past `Balance::MAX`. -/
def Unsaturated (acc w : Nat) (t : Coefficient) : Prop :=
  w ^ t.degree ≤ balanceMax ∧ t.coeffInteger * w ^ t.degree ≤ balanceMax ∧
    (t.negative = false →
      acc + mul t.coeffFrac (w ^ t.degree) + t.coeffInteger * w ^ t.degree ≤ balanceMax)

/-- Nor does any on the way to the whole sum. -/
def NeverSaturates : Nat → Nat → List Coefficient → Prop
  | _, _, [] => True
  | acc, w, t :: terms => Unsaturated mul acc w t ∧ NeverSaturates (term mul acc w t) w terms

/-- The fee for a weight with the `ref_time` `w`. -/
def weightToFee (baseWeight w : Nat) : Nat := evaluate mul (polynomial baseWeight) w

end

/-- `ExtrinsicBaseWeight` of `weights/extrinsic_weights.rs`: 125 000 ns, at a thousand to one. -/
def extrinsicBaseWeight : Nat := 1000 * 125000

/-- `Perbill * w`, down at a tie. -/
def Perbill.mul (x : Perbill) (w : Nat) : Nat := nearestDown (x.parts * w) 1000000000

theorem roundsToNearest_mul : RoundsToNearest Perbill.mul := fun x w => by
  have h := nearest_nearestDown (x.parts * w) (q := 1000000000) (by norm_num)
  rwa [Nat.cast_mul, Nat.cast_ofNat] at h

/-! ### The rate -/

/-- The whole part of the rate `p / q`. -/
def whole (b : Nat) : Nat := milliunit / 10 / (100 * b)

/-- The rest of it. -/
def frac (b : Nat) : Perbill := .fromRational (milliunit / 10 % (100 * b)) (100 * b)

/-- The rate in parts per billion, rounded down. -/
def rateParts (b : Nat) : Nat := milliunit / 10 * 1000000000 / (100 * b)

theorem polynomial_eq (b : Nat) : polynomial b = [⟨1, false, frac b, whole b⟩] := rfl

section
variable {mul : Perbill → Nat → Nat} {b w : Nat}

/-- The fraction is that of a remainder, so it does not reach one. -/
theorem frac_parts (hb : 0 < b) :
    (frac b).parts = milliunit / 10 % (100 * b) * 1000000000 / (100 * b) := by
  have hlt : milliunit / 10 % (100 * b) < 100 * b := Nat.mod_lt _ (by omega)
  exact Nat.min_eq_left (Nat.div_le_of_le_mul (Nat.mul_le_mul_right _ hlt.le))

/-- The whole part and the fraction make up the rate. -/
theorem whole_add_frac (hb : 0 < b) : whole b * 1000000000 + (frac b).parts = rateParts b := by
  rw [frac_parts hb]
  exact div_mul_add_mod_mul _ _ (by omega)

theorem rateParts_le (b : Nat) :
    (rateParts b : ℚ) ≤ (milliunit / 10 : Nat) * 1000000000 / (100 * b : Nat) := by
  have h := Nat.cast_div_le (α := ℚ) (m := milliunit / 10 * 1000000000) (n := 100 * b)
  rwa [Nat.cast_mul (milliunit / 10)] at h

theorem sub_rateParts_lt (hb : 0 < b) :
    (milliunit / 10 : Nat) * 1000000000 / (100 * b : Nat) - (rateParts b : ℚ) < 1 := by
  have h := sub_div_lt (milliunit / 10 * 1000000000) (q := 100 * b) (by omega)
  rwa [Nat.cast_mul (milliunit / 10)] at h

/-! ### One fee -/

/-- A fraction of `w` is no more than `w`. -/
theorem mul_le (hmul : RoundsToNearest mul) (x : Perbill) (w : Nat) : mul x w ≤ w := by
  have hparts : (x.parts : ℚ) ≤ 1000000000 := by exact_mod_cast x.le_one
  refine (hmul x w).le_nat ?_
  rw [div_le_iff₀ (by norm_num), mul_comm (w : ℚ)]
  exact mul_le_mul_of_nonneg_right hparts (Nat.cast_nonneg w)

/-- A `u64` weight is far from the top of `u128`, at any rate there is. -/
theorem fee_le_balanceMax (hmul : RoundsToNearest mul) (hw : w < 2 ^ 64) (b : Nat) :
    mul (frac b) w + whole b * w ≤ balanceMax := by
  have h₁ := mul_le hmul (frac b) w
  have h₂ : whole b * w ≤ 100000000 * w := Nat.mul_le_mul_right w (Nat.div_le_self ..)
  rw [balanceMax]
  omega

theorem neverSaturates (hmul : RoundsToNearest mul) (hw : w < 2 ^ 64) (b : Nat) :
    NeverSaturates mul 0 w (polynomial b) := by
  have hmax := fee_le_balanceMax hmul hw b
  rw [polynomial_eq]
  refine ⟨⟨?_, ?_, fun _ => ?_⟩, trivial⟩
  · rw [pow_one, balanceMax]; omega
  · rw [pow_one]; exact le_trans (Nat.le_add_left ..) hmax
  · rw [pow_one, Nat.zero_add]; exact hmax

theorem weightToFee_eq (hmul : RoundsToNearest mul) (hw : w < 2 ^ 64) (b : Nat) :
    weightToFee mul b w = mul (frac b) w + whole b * w := by
  have hmax := fee_le_balanceMax hmul hw b
  have hpow : min (w ^ 1) balanceMax = w := by rw [pow_one, balanceMax]; omega
  have h₁ : min (whole b * w) balanceMax = whole b * w := by omega
  have h₂ : min (mul (frac b) w) balanceMax = mul (frac b) w := by omega
  rw [weightToFee, polynomial_eq, evaluate, List.foldl_cons, List.foldl_nil, term]
  simp only [hpow, h₁, h₂, Nat.zero_add, Bool.false_eq_true, if_false]
  exact Nat.min_eq_left hmax

/-- **The fee is the rate in parts per billion, rounded to a nearest number once.** -/
theorem weightToFee_nearest (hmul : RoundsToNearest mul) (hb : 0 < b) (hw : w < 2 ^ 64) :
    Nearest (weightToFee mul b w) (rateParts b * w / 1000000000) := by
  have hsub : ((mul (frac b) w : ℚ) + whole b * w) -
      (whole b * 1000000000 + (frac b).parts) * w / 1000000000 =
        mul (frac b) w - (frac b).parts * w / 1000000000 := by ring
  have hfrac := hmul (frac b) w
  rw [Nearest, ← hsub] at hfrac
  rw [Nearest, weightToFee_eq hmul hw b, ← whole_add_frac hb]
  push_cast
  exact hfrac

/-! ### The rate charged -/

/-- Rounding the rate to parts per billion costs less than `w / 10⁹`. -/
theorem rate_error (hb : 0 < b) (w : Nat) :
    |(rateParts b * w / 1000000000 : ℚ) - w * (milliunit / 10 : Nat) / (100 * b : Nat)| ≤
      w / 1000000000 := by
  have hw : (0 : ℚ) ≤ w := Nat.cast_nonneg w
  have h₁ := mul_le_mul_of_nonneg_right (rateParts_le b) hw
  have h₂ := mul_le_mul_of_nonneg_right (sub_rateParts_lt hb).le hw
  have hrate : (w * (milliunit / 10 : Nat) / (100 * b : Nat) : ℚ) =
      (milliunit / 10 : Nat) * 1000000000 / (100 * b : Nat) * w / 1000000000 := by ring
  rw [hrate, ← sub_div, abs_div, abs_of_pos (by norm_num : (0 : ℚ) < 1000000000)]
  refine div_le_div_of_nonneg_right ?_ (by norm_num)
  exact abs_le.mpr ⟨by linarith, by linarith⟩

theorem weightToFee_mono (hmul : RoundsToNearest mul) (hb : 0 < b) {w w' : Nat} (h : w ≤ w')
    (hw' : w' < 2 ^ 64) : weightToFee mul b w ≤ weightToFee mul b w' := by
  have hn := weightToFee_nearest hmul hb (h.trans_lt hw')
  have hn' := weightToFee_nearest hmul hb hw'
  rcases Nat.eq_zero_or_pos (rateParts b) with hR | hR
  · -- a rate that rounds to nothing charges nothing
    rw [hR, Nat.cast_zero, zero_mul, zero_div] at hn
    exact (hn.eq_zero (by norm_num)).trans_le (Nat.zero_le _)
  · rcases h.eq_or_lt with rfl | hlt
    · exact le_rfl
    · refine hn.le_of_lt hn' (div_lt_div_of_pos_right ?_ (by norm_num))
      exact mul_lt_mul_of_pos_left (by exact_mod_cast hlt) (by exact_mod_cast hR)

/-- **The decomposition.**  The evaluation is that of the two parts, without saturation; it is off
`w · p / q` by at most `w / 10⁹ + 1/2`, and it is monotone. -/
theorem weightToFee_decomposes (hmul : RoundsToNearest mul) (hb : 0 < b) :
    (∀ w < 2 ^ 64, NeverSaturates mul 0 w (polynomial b) ∧
      weightToFee mul b w = mul (frac b) w + whole b * w ∧
      |(weightToFee mul b w : ℚ) - w * (milliunit / 10 : Nat) / (100 * b : Nat)| ≤
        w / 10 ^ 9 + 1 / 2) ∧
    ∀ w w', w ≤ w' → w' < 2 ^ 64 → weightToFee mul b w ≤ weightToFee mul b w' := by
  refine ⟨fun w hw => ⟨neverSaturates hmul hw b, weightToFee_eq hmul hw b, ?_⟩,
    fun w w' h hw' => weightToFee_mono hmul hb h hw'⟩
  have hround : |(weightToFee mul b w : ℚ) - rateParts b * w / 1000000000| ≤ 1 / 2 :=
    weightToFee_nearest hmul hb hw
  have hrate := rate_error hb w
  calc |(weightToFee mul b w : ℚ) - w * (milliunit / 10 : Nat) / (100 * b : Nat)|
      ≤ |(weightToFee mul b w : ℚ) - rateParts b * w / 1000000000| +
          |(rateParts b * w / 1000000000 : ℚ) - w * (milliunit / 10 : Nat) / (100 * b : Nat)| :=
        abs_sub_le ..
    _ ≤ 1 / 2 + w / 1000000000 := add_le_add hround hrate
    _ = w / 10 ^ 9 + 1 / 2 := by ring

/-- A millisecond of weight. -/
theorem weightToFee_decomposes_milli :
    |(weightToFee Perbill.mul extrinsicBaseWeight 1000000000 : ℚ) -
      (1000000000 : Nat) * (milliunit / 10 : Nat) / (100 * extrinsicBaseWeight : Nat)| ≤
        (1000000000 : Nat) / 10 ^ 9 + 1 / 2 :=
  ((weightToFee_decomposes roundsToNearest_mul (by decide)).1 1000000000 (by decide)).2.2

/-! ### The rate the comment gives -/

/-- `MILLIUNIT / 10` for a base weight, which is what the comment says is charged for the weight
`w`. -/
def documentedFee (b w : Nat) : ℚ := w * (milliunit / 10 : Nat) / b

/-- The rate charged is at most a hundredth of it. -/
theorem rate_le_documentedFee (hb : 0 < b) (w : Nat) :
    (rateParts b * w / 1000000000 : ℚ) ≤ documentedFee b w / 100 := by
  have hb' : (0 : ℚ) < b := by exact_mod_cast hb
  have h := mul_le_mul_of_nonneg_right (rateParts_le b) (Nat.cast_nonneg (α := ℚ) w)
  rw [div_le_iff₀ (by norm_num)]
  refine h.trans_eq ?_
  rw [documentedFee]
  push_cast
  field_simp

/-- At a rate of a part per billion or more, `w / 10⁹` is a hundredth of the documented fee too. -/
theorem tolerance_le_documentedFee (hb : 0 < b) (hR : 0 < rateParts b) (w : Nat) :
    (w / 1000000000 : ℚ) ≤ documentedFee b w / 100 := by
  refine le_trans ?_ (rate_le_documentedFee hb w)
  have hR' : (1 : ℚ) ≤ rateParts b := by exact_mod_cast hR
  refine div_le_div_of_nonneg_right ?_ (by norm_num)
  exact le_mul_of_one_le_left (Nat.cast_nonneg w) hR'

theorem documentedFee_nonneg (b w : Nat) : 0 ≤ documentedFee b w :=
  div_nonneg (mul_nonneg (Nat.cast_nonneg _) (Nat.cast_nonneg _)) (Nat.cast_nonneg _)

/-- A documented fee of less than 50 charges nothing. -/
theorem weightToFee_eq_zero (hmul : RoundsToNearest mul) (hb : 0 < b) (hw : w < 2 ^ 64)
    (h : rateParts b = 0 ∨ documentedFee b w < 50) : weightToFee mul b w = 0 := by
  refine (weightToFee_nearest hmul hb hw).eq_zero ?_
  rcases h with hR | hd
  · rw [hR, Nat.cast_zero, zero_mul, zero_div]; norm_num
  · have hle := rate_le_documentedFee hb w
    linarith

/-- **The documented rate is not the one charged.**  The fee is within `w / 10⁹ + 1` of the
documented one exactly where the documented fee is itself that small; nothing is charged there. -/
theorem documented_fee_iff (hmul : RoundsToNearest mul) (hb : 0 < b) (hw : w < 2 ^ 64) :
    |(weightToFee mul b w : ℚ) - documentedFee b w| ≤ w / 10 ^ 9 + 1 ↔
      documentedFee b w ≤ w / 10 ^ 9 + 1 := by
  have hnear := weightToFee_nearest hmul hb hw
  have hnonneg := documentedFee_nonneg b w
  have hbillion : (w / 10 ^ 9 : ℚ) = w / 1000000000 := by norm_num
  rw [hbillion]
  -- either side leaves a fee of nothing
  have hzero : rateParts b = 0 ∨ documentedFee b w < 50 →
      (|(weightToFee mul b w : ℚ) - documentedFee b w| ≤ w / 1000000000 + 1 ↔
        documentedFee b w ≤ w / 1000000000 + 1) := fun h => by
    rw [weightToFee_eq_zero hmul hb hw h, Nat.cast_zero, zero_sub, abs_neg, abs_of_nonneg hnonneg]
  by_cases hR : rateParts b = 0
  · exact hzero (.inl hR)
  have hrate := rate_le_documentedFee hb w
  have htol := tolerance_le_documentedFee hb (Nat.pos_of_ne_zero hR) w
  constructor
  · intro h
    have h₁ := (abs_le.mp h).1
    have h₂ := hnear.sub_le
    exact (hzero (.inr (by linarith))).mp h
  · intro h
    exact (hzero (.inr (by linarith))).mpr h

/-- A weight of one, for which the documented fee is `0.8`. -/
theorem documented_fee_one :
    |(weightToFee Perbill.mul extrinsicBaseWeight 1 : ℚ) - documentedFee extrinsicBaseWeight 1| ≤
      (1 : Nat) / 10 ^ 9 + 1 :=
  (documented_fee_iff roundsToNearest_mul (by decide) (by decide)).mpr
    (by norm_num [documentedFee, milliunit, extrinsicBaseWeight])

/-- **The base weight itself.**  It is documented to cost `MILLIUNIT / 10`, and costs a hundredth of
that. -/
theorem base_weight_undercharged :
    ¬ ∀ mul, RoundsToNearest mul → ∀ b w, 0 < b → b < 2 ^ 64 → w < 2 ^ 64 →
      |(weightToFee mul b w : ℚ) - documentedFee b w| ≤ w / 10 ^ 9 + 1 := by
  intro h
  have hfee := h _ roundsToNearest_mul extrinsicBaseWeight extrinsicBaseWeight (by decide)
    (by decide) (by decide)
  have hcharged : weightToFee Perbill.mul extrinsicBaseWeight extrinsicBaseWeight = 1000000 := by
    decide
  rw [hcharged] at hfee
  have hlow := (abs_le.mp hfee).1
  norm_num [documentedFee, milliunit, extrinsicBaseWeight] at hlow

end

end SubstrateDevTemplate.Runtime
