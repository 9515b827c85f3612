import Mathlib.Algebra.Order.Floor.Semifield
import Mathlib.Data.List.DropRight
import Mathlib.Data.Rat.Floor
import Mathlib.Tactic.Positivity
import SubstrateDevTemplate.Support.Decimal

/-!
# Support — Number

Nonnegative numbers with a finite decimal expansion, computed with exactly, and how JavaScript
writes one (`Number.prototype.toString`).

* A `Fraction` is `coeff / 10 ^ scale`.  Multiplication, shifts of the point and the floor stay
  among fractions.
* `numberToString`: plain digits from `10⁻⁶` on and below `10²¹`, and an exponent outside.
* `Fraction.Writes`: a numeral is worth the fraction, with no more fraction digits than it needs.
* `numberToString_plain`: in that range the text is such a numeral.
* `numberToString_exponent`: outside it, it is no numeral at all.
-/

namespace Decimal

/-! ### The digits of a number -/

/-- The digits of `n`, the most significant first; none for `0`. -/
def digits (n : Nat) : List (Fin 10) := ((Nat.digits 10 n).map (Fin.ofNat 10)).reverse

/-- The digits up to the last one that is not zero. -/
def significant (n : Nat) : List (Fin 10) := (digits n).rdropWhile (· = 0)

theorem length_digits (n : Nat) : (digits n).length = (Nat.digits 10 n).length := by
  rw [digits, List.length_reverse, List.length_map]

theorem ofDigits_digits (n : Nat) : ofDigits (digits n) = n := by
  have hval : ((Nat.digits 10 n).map (Fin.ofNat 10)).map Fin.val = Nat.digits 10 n := by
    rw [List.map_map]
    refine (List.map_congr_left fun d hd => ?_).trans (List.map_id _)
    exact Nat.mod_eq_of_lt (Nat.digits_lt_base (by norm_num) hd)
  rw [ofDigits, digits, List.reverse_reverse, hval, Nat.ofDigits_digits]

/-- What is dropped is zeros. -/
theorem digits_eq (n : Nat) :
    ∃ t, digits n = significant n ++ List.replicate t 0 := by
  refine ⟨((digits n).rtakeWhile (· = 0)).length, ?_⟩
  have hzeros : (digits n).rtakeWhile (· = 0) =
      List.replicate ((digits n).rtakeWhile (· = 0)).length 0 := by
    refine List.eq_replicate_of_mem fun d hd => ?_
    simpa using List.mem_rtakeWhile_imp hd
  rw [← hzeros, significant, List.rdropWhile_append_rtakeWhile]

theorem significant_ne_nil {n : Nat} (h : n ≠ 0) : significant n ≠ [] := by
  intro hnil
  obtain ⟨t, ht⟩ := digits_eq n
  rw [hnil, List.nil_append] at ht
  have hn := ofDigits_digits n
  rw [ht, ofDigits_replicate_zero] at hn
  exact h hn.symm

/-- Digits that do not end in a zero are no multiple of ten. -/
theorem ofDigits_mod {ds : List (Fin 10)} (h : ds ≠ []) (hlast : ds.getLast h ≠ 0) :
    ¬ 10 ∣ ofDigits ds := by
  have hds : ds = ds.dropLast ++ [ds.getLast h] := (List.dropLast_append_getLast h).symm
  rw [hds, ofDigits_append, List.length_singleton, pow_one,
    Nat.dvd_add_right (Nat.dvd_mul_left ..)]
  intro hdvd
  refine hlast (Fin.ext ?_)
  have hone : ofDigits [ds.getLast h] = (ds.getLast h).val := by simp [ofDigits]
  rw [hone] at hdvd
  exact Nat.eq_zero_of_dvd_of_lt hdvd (ds.getLast h).isLt

theorem significant_mod {n : Nat} (h : n ≠ 0) : ¬ 10 ∣ ofDigits (significant n) := by
  have hne := significant_ne_nil h
  exact ofDigits_mod hne fun hlast => List.rdropWhile_last_not _ _ hne (decide_eq_true hlast)

/-! ### Fractions -/

/-- The number `coeff / 10 ^ scale`. -/
structure Fraction where
  coeff : Nat
  scale : Nat
  deriving DecidableEq

namespace Fraction

/-- The rational a fraction is. -/
def value (x : Fraction) : ℚ := x.coeff / 10 ^ x.scale

/-- A natural number. -/
def ofNat (n : Nat) : Fraction := ⟨n, 0⟩

/-- `x * y`. -/
def mul (x y : Fraction) : Fraction := ⟨x.coeff * y.coeff, x.scale + y.scale⟩

/-- `x * 10 ^ k`. -/
def shiftLeft (x : Fraction) (k : Nat) : Fraction := ⟨x.coeff * 10 ^ k, x.scale⟩

/-- `x / 10 ^ k`. -/
def shiftRight (x : Fraction) (k : Nat) : Fraction := ⟨x.coeff, x.scale + k⟩

/-- `Math.floor(x)`. -/
def floor (x : Fraction) : Fraction := ⟨x.coeff / 10 ^ x.scale, 0⟩

/-- `Number.isSafeInteger(x)`. -/
def isSafeInteger (x : Fraction) : Bool :=
  x.coeff % 10 ^ x.scale = 0 ∧ x.coeff / 10 ^ x.scale ≤ 2 ^ 53 - 1

theorem value_ofNat (n : Nat) : (ofNat n).value = n := by simp [value, ofNat]

theorem value_mul (x y : Fraction) : (x.mul y).value = x.value * y.value := by
  simp only [value, mul, Nat.cast_mul, pow_add]
  rw [div_mul_div_comm]

theorem value_shiftLeft (x : Fraction) (k : Nat) : (x.shiftLeft k).value = x.value * 10 ^ k := by
  simp only [value, shiftLeft, Nat.cast_mul, Nat.cast_pow, Nat.cast_ofNat]
  ring

theorem value_shiftRight (x : Fraction) (k : Nat) :
    (x.shiftRight k).value = x.value / 10 ^ k := by
  simp only [value, shiftRight, pow_add]
  rw [div_div]

theorem value_nonneg (x : Fraction) : 0 ≤ x.value := div_nonneg (Nat.cast_nonneg _) (by positivity)

theorem value_floor (x : Fraction) : x.floor.value = ⌊x.value⌋₊ := by
  have h : ⌊x.value⌋₊ = x.coeff / 10 ^ x.scale := by
    rw [value, ← Nat.floor_div_eq_div (K := ℚ)]
    push_cast
    rfl
  rw [h]
  simp [value, floor]

theorem value_eq_nat_iff (x : Fraction) (n : Nat) :
    x.value = n ↔ x.coeff = n * 10 ^ x.scale := by
  have h : (10 : ℚ) ^ x.scale ≠ 0 := pow_ne_zero _ (by norm_num)
  rw [value, div_eq_iff h, ← Nat.cast_inj (R := ℚ)]
  push_cast
  rfl

/-- The safe integers are the integers up to `2⁵³ - 1`. -/
theorem isSafeInteger_iff (x : Fraction) :
    x.isSafeInteger = true ↔ ∃ n : Nat, n ≤ 2 ^ 53 - 1 ∧ x.value = n := by
  have hpos : 0 < 10 ^ x.scale := by positivity
  simp only [isSafeInteger, decide_eq_true_eq, value_eq_nat_iff]
  constructor
  · rintro ⟨hmod, hle⟩
    exact ⟨_, hle, (Nat.div_mul_cancel (Nat.dvd_of_mod_eq_zero hmod)).symm⟩
  · rintro ⟨n, hle, hn⟩
    rw [hn, Nat.mul_mod_left, Nat.mul_div_cancel _ hpos]
    exact ⟨rfl, hle⟩

end Fraction

/-! ### Numerals that waste no digit -/

/-- Where the last digit of the fraction is not zero, there are no more fraction digits than it
takes to scale the value to an integer. -/
theorem Numeral.n_le_iff {y : Numeral} (h : y.n = 0 ∨ ¬ 10 ∣ y.mantissa) (D : Nat) :
    y.n ≤ D ↔ ∃ k : Nat, y.value * 10 ^ D = k := by
  simp only [eq_comm (a := y.value * 10 ^ D), eq_scaled_iff]
  constructor
  · intro hle
    refine ⟨y.mantissa * 10 ^ (D - y.n), ?_⟩
    rw [Nat.mul_assoc, ← Nat.pow_add, Nat.sub_add_cancel hle]
  · rintro ⟨k, hk⟩
    by_contra hlt
    obtain ⟨j, hj⟩ : ∃ j, y.n = D + (j + 1) := ⟨y.n - D - 1, by omega⟩
    rw [hj, Nat.pow_add, Nat.mul_left_comm, Nat.mul_comm y.mantissa] at hk
    have hm : k * 10 ^ (j + 1) = y.mantissa := Nat.eq_of_mul_eq_mul_left (by positivity) hk
    refine h.elim (by omega) fun hnd => hnd ?_
    rw [← hm, Nat.pow_succ]
    exact (Nat.dvd_mul_left ..).mul_left k

/-- `y` has `x`'s digits, with the point in `x`'s place, and no zero at the end of a fraction. -/
structure Fraction.Writes (x : Fraction) (y : Numeral) : Prop where
  mantissa : y.mantissa * 10 ^ x.scale = x.coeff * 10 ^ y.n
  short : y.n = 0 ∨ ¬ 10 ∣ y.mantissa

namespace Fraction.Writes
variable {x : Fraction}

theorem value {y : Numeral} (h : x.Writes y) : y.value = x.value := by
  have h₁ : (10 : ℚ) ^ y.n ≠ 0 := pow_ne_zero _ (by norm_num)
  have h₂ : (10 : ℚ) ^ x.scale ≠ 0 := pow_ne_zero _ (by norm_num)
  rw [Numeral.value_eq, Fraction.value, div_eq_div_iff h₁ h₂]
  exact_mod_cast h.mantissa

theorem n_le_iff {y : Numeral} (h : x.Writes y) (D : Nat) :
    y.n ≤ D ↔ ∃ k : Nat, x.value * 10 ^ D = k := by
  rw [← h.value]
  exact Numeral.n_le_iff h.short D

theorem zero (h : x.coeff = 0) : x.Writes ⟨[0], by simp, none⟩ where
  mantissa := by
    have hm : (⟨[0], by simp, none⟩ : Numeral).mantissa = 0 := rfl
    rw [hm, h, Nat.zero_mul, Nat.zero_mul]
  short := .inl rfl

variable {ds : List (Fin 10)} {t : Nat}

/-- Multiplied by ten as often as there are dropped zeros, the digits are `x`'s. -/
theorem shifted (hds : ofDigits ds * 10 ^ t = x.coeff) {f : Nat} (hf : t + f = x.scale) :
    ofDigits ds * 10 ^ x.scale = x.coeff * 10 ^ f := by
  rw [← hf, Nat.pow_add, ← Nat.mul_assoc, hds]

/-- No digit stands after the point. -/
theorem whole (hds : ofDigits ds * 10 ^ t = x.coeff) (hne : ds ≠ []) (ht : x.scale ≤ t) :
    x.Writes ⟨ds ++ List.replicate (t - x.scale) 0, by simp [hne], none⟩ where
  mantissa := by
    rw [Numeral.mantissa, Numeral.n, Numeral.fracDigits, Option.map_none, Option.getD_none,
      List.append_nil, ofDigits_append_zeros, Nat.mul_assoc, ← Nat.pow_add,
      Nat.sub_add_cancel ht, hds, List.length_nil, pow_zero, Nat.mul_one]
  short := .inl rfl

/-- The point stands after the first `i` digits. -/
theorem split (hds : ofDigits ds * 10 ^ t = x.coeff) (hmod : ¬ 10 ∣ ofDigits ds) {i : Nat}
    (htake : ds.take i ≠ []) (hdrop : ds.drop i ≠ []) (hi : t + (ds.length - i) = x.scale) :
    x.Writes ⟨ds.take i, htake, some ⟨ds.drop i, hdrop⟩⟩ where
  mantissa := by
    rw [Numeral.mantissa, Numeral.n, Numeral.fracDigits, Option.map_some, Option.getD_some,
      List.take_append_drop, List.length_drop]
    exact shifted hds hi
  short := by
    rw [Numeral.mantissa, Numeral.fracDigits, Option.map_some, Option.getD_some,
      List.take_append_drop]
    exact .inr hmod

/-- The point stands before the digits, with `z` zeros between. -/
theorem small (hds : ofDigits ds * 10 ^ t = x.coeff) (hmod : ¬ 10 ∣ ofDigits ds) {z : Nat}
    (hne : List.replicate z 0 ++ ds ≠ []) (hz : t + (z + ds.length) = x.scale) :
    x.Writes ⟨[0], by simp, some ⟨List.replicate z 0 ++ ds, hne⟩⟩ := by
  have hdigits : ofDigits ([0] ++ (List.replicate z 0 ++ ds)) = ofDigits ds := by
    rw [← List.append_assoc, ← List.replicate_one, List.replicate_append_replicate,
      ofDigits_append, ofDigits_replicate_zero, Nat.zero_mul, Nat.zero_add]
  constructor
  · rw [Numeral.mantissa, Numeral.n, Numeral.fracDigits, Option.map_some, Option.getD_some,
      hdigits, List.length_append, List.length_replicate]
    exact shifted hds hz
  · rw [Numeral.mantissa, Numeral.fracDigits, Option.map_some, Option.getD_some, hdigits]
    exact .inr hmod

end Fraction.Writes

end Decimal

namespace Js
open Decimal

/-! ### Writing a number -/

/-- `x.toString()`.  The point of `x` stands after the first `length - scale` of the digits of its
`coeff`; the zeros among them at the end are not written after a point. -/
def numberToString (x : Fraction) : List Char :=
  if x.coeff = 0 then ['0']
  else
    let ds := (significant x.coeff).map digitChar
    let length := (digits x.coeff).length
    if ds.length + x.scale ≤ length ∧ length ≤ 21 + x.scale then
      ds ++ List.replicate (length - x.scale - ds.length) '0'
    else if x.scale < length ∧ length ≤ 21 + x.scale then
      ds.take (length - x.scale) ++ '.' :: ds.drop (length - x.scale)
    else if x.scale < length + 6 ∧ length ≤ x.scale then
      '0' :: '.' :: (List.replicate (x.scale - length) '0' ++ ds)
    else
      ds.take 1 ++ (if ds.length = 1 then [] else '.' :: ds.drop 1) ++ 'e' ::
        (if x.scale < length then '+' :: (digits (length - x.scale - 1)).map digitChar
        else '-' :: (digits (x.scale + 1 - length)).map digitChar)

/-- The numbers that are written without an exponent. -/
def Plain (x : Fraction) : Prop := x.value = 0 ∨ 1 / 10 ^ 6 ≤ x.value ∧ x.value < 10 ^ 21

theorem value_eq_zero_iff {x : Fraction} : x.value = 0 ↔ x.coeff = 0 := by
  have h := x.value_eq_nat_iff 0
  simpa using h

/-- In digits, the point stands no more than five places before the first, and twenty-one after
it. -/
theorem plain_iff {x : Fraction} (h : x.coeff ≠ 0) :
    Plain x ↔ x.scale < (digits x.coeff).length + 6 ∧
      (digits x.coeff).length ≤ 21 + x.scale := by
  have hpos : (0 : ℚ) < 10 ^ x.scale := by positivity
  have hlow : 1 / 10 ^ 6 ≤ x.value ↔ 10 ^ x.scale ≤ x.coeff * 10 ^ 6 := by
    rw [Fraction.value, div_le_div_iff₀ (by positivity) hpos, one_mul]
    exact_mod_cast Iff.rfl
  have hhigh : x.value < 10 ^ 21 ↔ x.coeff < 10 ^ (21 + x.scale) := by
    rw [Fraction.value, div_lt_iff₀ hpos, ← pow_add]
    exact_mod_cast Iff.rfl
  rw [Plain, or_iff_right (mt value_eq_zero_iff.mp h), hlow, hhigh, length_digits,
    Nat.digits_length_le_iff (by norm_num)]
  refine and_congr_left fun _ => ?_
  rw [Nat.mul_comm, ← Nat.lt_digits_length_iff (by norm_num),
    Nat.digits_base_pow_mul (by norm_num) (Nat.pos_of_ne_zero h), List.length_append,
    List.length_replicate, Nat.add_comm]

/-- **A number in range is written as a plain numeral**, with its own digits. -/
theorem numberToString_plain {x : Fraction} (h : Plain x) :
    ∃ y : Numeral, y.text = numberToString x ∧ x.Writes y := by
  by_cases hx : x.coeff = 0
  · refine ⟨_, ?_, .zero hx⟩
    rw [numberToString, if_pos hx]
    rfl
  obtain ⟨t, ht⟩ := digits_eq x.coeff
  have hcoeff : ofDigits (significant x.coeff) * 10 ^ t = x.coeff := by
    rw [← ofDigits_append_zeros, ← ht, ofDigits_digits]
  have hlen : (digits x.coeff).length = (significant x.coeff).length + t := by
    rw [ht, List.length_append, List.length_replicate]
  have hne := significant_ne_nil hx
  have hmod := significant_mod hx
  have hpos : 0 < (significant x.coeff).length := List.length_pos_of_ne_nil hne
  obtain ⟨hlow, hhigh⟩ := (plain_iff hx).mp h
  rw [numberToString, if_neg hx]
  simp only [List.length_map]
  by_cases h₁ : (significant x.coeff).length + x.scale ≤ (digits x.coeff).length
  · refine ⟨_, ?_, .whole hcoeff hne (by omega)⟩
    have hzeros : (digits x.coeff).length - x.scale - (significant x.coeff).length =
        t - x.scale := by omega
    rw [if_pos ⟨h₁, hhigh⟩, hzeros]
    simp [Numeral.text]
  rw [if_neg (fun hc => h₁ hc.1)]
  by_cases h₂ : x.scale < (digits x.coeff).length
  · have htake : (significant x.coeff).take ((digits x.coeff).length - x.scale) ≠ [] := by
      rw [Ne, List.take_eq_nil_iff]
      exact fun hc => hc.elim (by omega) hne
    have hdrop : (significant x.coeff).drop ((digits x.coeff).length - x.scale) ≠ [] := by
      rw [Ne, List.drop_eq_nil_iff]
      omega
    refine ⟨_, ?_, .split hcoeff hmod htake hdrop (by omega)⟩
    rw [if_pos ⟨h₂, hhigh⟩]
    simp [Numeral.text, List.map_take, List.map_drop]
  · have hne' : List.replicate (x.scale - (digits x.coeff).length) 0 ++ significant x.coeff ≠ [] :=
      by simp [hne]
    refine ⟨_, ?_, .small hcoeff hmod hne' (by omega)⟩
    rw [if_neg (fun hc => h₂ hc.1), if_pos ⟨hlow, by omega⟩]
    simp [Numeral.text]

/-- A numeral has no `e` in it. -/
theorem e_notMem_text (y : Numeral) : 'e' ∉ y.text := by
  have hchar : ∀ d : Fin 10, digitChar d ≠ 'e' := by decide
  obtain ⟨is, his, fs⟩ := y
  cases fs with
  | none => simpa [Numeral.text] using fun d _ => hchar d
  | some fs =>
      simpa [Numeral.text] using ⟨fun d _ => hchar d, fun d _ => hchar d⟩

/-- **A number out of range is written with an exponent**, and no numeral is. -/
theorem numberToString_exponent {x : Fraction} (h : ¬ Plain x) (y : Numeral) :
    y.text ≠ numberToString x := by
  have hx : x.coeff ≠ 0 := fun hx => h (.inl (value_eq_zero_iff.mpr hx))
  rw [plain_iff hx] at h
  intro htext
  refine e_notMem_text y ?_
  obtain ⟨t, ht⟩ := digits_eq x.coeff
  have hlen : (digits x.coeff).length = (significant x.coeff).length + t := by
    rw [ht, List.length_append, List.length_replicate]
  rw [htext, numberToString, if_neg hx]
  simp only [List.length_map]
  rw [if_neg (by omega), if_neg (by omega), if_neg (by omega)]
  exact List.mem_append_right _ (List.mem_cons_self ..)

/-- The numeral a number is written as, if it is written as one. -/
theorem writes_of_text {x : Fraction} {y : Numeral} (h : y.text = numberToString x) :
    Plain x ∧ x.Writes y := by
  by_cases hplain : Plain x
  · obtain ⟨z, hz, hw⟩ := numberToString_plain hplain
    exact ⟨hplain, Numeral.text_injective (h.trans hz.symm) ▸ hw⟩
  · exact absurd h (numberToString_exponent hplain y)

end Js
