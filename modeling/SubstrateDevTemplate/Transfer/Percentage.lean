import SubstrateDevTemplate.Support.Rounding
import SubstrateDevTemplate.Transfer.Definitions

/-!
# Transfer — Percentage

The amount a percentage button stores.  With `c` the share of the raw balance, the page writes
`c / 10ᴰ`, where `c` is a safe integer, and otherwise `c / 10ᴰ` with everything after its
thousandths cut off.  Neither is spendable for every balance: the first is written with an exponent
below `10⁻⁶`, the second from `10²¹` up, and the second has up to three fraction digits on a chain
that has fewer.

* `spendable_numberToString_iff`: a written number is spendable when it is in range, has no more
  digits than the chain, and is at most the share.
* `setPercentage_spendable_iff`: when the stored amount is.
-/

namespace SubstrateDevTemplate.Transfer
open Decimal (Fraction Numeral)

/-- `percent` per cent of the balance. -/
def share (rawBalance : Nat) (percent : Fraction) : ℚ := rawBalance * percent.value / 100

/-- The amount is a plain numeral, with no more fraction digits than the chain has, and at most the
share of the balance. -/
def Spendable (rawBalance tokenDecimals : Nat) (percent : Fraction) (amount : List Char) : Prop :=
  ∃ y : Numeral, y.text = amount ∧ y.n ≤ tokenDecimals ∧
    y.value * 10 ^ tokenDecimals ≤ share rawBalance percent

/-- The share is the safe integer `n`. -/
def IsSafe (c : ℚ) (n : Nat) : Prop := n ≤ 2 ^ 53 - 1 ∧ c = n

/-- The shares a percentage button stores a spendable amount for: a safe integer that is nothing or
at least a millionth of a token; and any other share below `10²¹` tokens, where the chain has three
decimals or what the share has after its point is less than one of the places that are missing. -/
def Divisible (tokenDecimals : Nat) (c : ℚ) : Prop :=
  (∃ n, IsSafe c n ∧ (n = 0 ∨ 10 ^ tokenDecimals ≤ n * 10 ^ 6)) ∨
  (¬ ∃ n, IsSafe c n) ∧ c < 10 ^ (tokenDecimals + 21) ∧
    (3 ≤ tokenDecimals ∨ (c - ⌊c⌋₊) * 10 ^ (3 - tokenDecimals) < 1)

theorem share_nonneg (rawBalance : Nat) (percent : Fraction) : 0 ≤ share rawBalance percent :=
  div_nonneg (mul_nonneg (Nat.cast_nonneg _) percent.value_nonneg) (by norm_num)

/-- A written number is spendable on its own terms. -/
theorem spendable_numberToString_iff (rawBalance D : Nat) (percent x : Fraction) :
    Spendable rawBalance D percent (Js.numberToString x) ↔
      Js.Plain x ∧ (∃ k : Nat, x.value * 10 ^ D = k) ∧
        x.value * 10 ^ D ≤ share rawBalance percent := by
  constructor
  · rintro ⟨y, htext, hn, hle⟩
    obtain ⟨hplain, hw⟩ := Js.writes_of_text htext
    rw [hw.value] at hle
    exact ⟨hplain, (hw.n_le_iff D).mp hn, hle⟩
  · rintro ⟨hplain, hk, hle⟩
    obtain ⟨y, htext, hw⟩ := Js.numberToString_plain hplain
    refine ⟨y, htext, (hw.n_le_iff D).mpr hk, ?_⟩
    rwa [hw.value]

/-! ### The calculated amount -/

/-- `calculatedAmount`. -/
def calculatedAmount (rawBalance tokenDecimals : Nat) (percent : Fraction) : Fraction :=
  ((Fraction.ofNat rawBalance).shiftRight tokenDecimals).mul (percent.shiftRight 2)

/-- `simpleAmount`. -/
def simpleAmount (x : Fraction) : Fraction := ((x.shiftLeft 3).floor).shiftRight 3

theorem percentAmount_eq (rawBalance D : Nat) (percent : Fraction) :
    percentAmount rawBalance D percent =
      if ((calculatedAmount rawBalance D percent).shiftLeft D).isSafeInteger then
        Js.numberToString (calculatedAmount rawBalance D percent)
      else Js.numberToString (simpleAmount (calculatedAmount rawBalance D percent)) := by
  simp only [percentAmount, Bool.not_eq_true', ← Bool.not_eq_true, ite_not]
  rfl

theorem calculatedAmount_value (rawBalance D : Nat) (percent : Fraction) :
    (calculatedAmount rawBalance D percent).value = share rawBalance percent / 10 ^ D := by
  rw [calculatedAmount, Fraction.value_mul, Fraction.value_shiftRight, Fraction.value_shiftRight,
    Fraction.value_ofNat, share]
  ring

/-- The safe-integer test is one of the share. -/
theorem isSafeInteger_calculatedAmount (rawBalance D : Nat) (percent : Fraction) :
    ((calculatedAmount rawBalance D percent).shiftLeft D).isSafeInteger = true ↔
      ∃ n, IsSafe (share rawBalance percent) n := by
  have h : (10 : ℚ) ^ D ≠ 0 := pow_ne_zero _ (by norm_num)
  rw [Fraction.isSafeInteger_iff, Fraction.value_shiftLeft, calculatedAmount_value,
    div_mul_cancel₀ _ h]
  rfl

theorem simpleAmount_value (x : Fraction) :
    (simpleAmount x).value = (⌊x.value * 1000⌋₊ : ℚ) / 1000 := by
  rw [simpleAmount, Fraction.value_shiftRight, Fraction.value_floor, Fraction.value_shiftLeft]
  norm_num

/-! ### A safe share -/

section
variable {rawBalance D : Nat} {percent : Fraction}

/-- A safe integer is written as it is, and is in range unless it is less than a millionth of a
token. -/
theorem spendable_calculatedAmount_iff {n : Nat} (h : IsSafe (share rawBalance percent) n) :
    Spendable rawBalance D percent (Js.numberToString (calculatedAmount rawBalance D percent)) ↔
      n = 0 ∨ 10 ^ D ≤ n * 10 ^ 6 := by
  obtain ⟨hle, hn⟩ := h
  have hpos : (0 : ℚ) < 10 ^ D := by positivity
  have hval : (calculatedAmount rawBalance D percent).value = n / 10 ^ D := by
    rw [calculatedAmount_value, hn]
  have hscaled : (calculatedAmount rawBalance D percent).value * 10 ^ D = n := by
    rw [hval, div_mul_cancel₀ _ hpos.ne']
  have hhigh : (n : ℚ) / 10 ^ D < 10 ^ 21 := by
    have hone : (1 : ℚ) ≤ 10 ^ D := one_le_pow₀ (by norm_num)
    have hbound : (n : ℚ) ≤ 9007199254740991 := by exact_mod_cast hle
    rw [div_lt_iff₀ hpos]
    linarith
  have hlow : 1 / 10 ^ 6 ≤ (n : ℚ) / 10 ^ D ↔ 10 ^ D ≤ n * 10 ^ 6 := by
    rw [div_le_div_iff₀ (by positivity) hpos, one_mul]
    exact_mod_cast Iff.rfl
  rw [spendable_numberToString_iff, and_iff_left ⟨⟨n, hscaled⟩, (hscaled.trans hn.symm).le⟩,
    Js.Plain, hval, and_iff_left hhigh, hlow, div_eq_zero_iff, or_iff_left hpos.ne',
    Nat.cast_eq_zero]

/-! ### Any other share -/

/-- What is cut off is less than one of `a` parts of a unit when the parts that are left make whole
units. -/
theorem dvd_floor_iff {c : ℚ} (hc : 0 ≤ c) {a : Nat} (ha : 0 < a) :
    a ∣ ⌊c * a⌋₊ ↔ (c - ⌊c⌋₊) * a < 1 := by
  have ha' : (a : ℚ) ≠ 0 := Nat.cast_ne_zero.mpr ha.ne'
  have hdiv : ⌊c * a⌋₊ / a = ⌊c⌋₊ := by
    rw [← Nat.floor_div_natCast, mul_div_cancel_right₀ _ ha']
  have hle : ⌊c⌋₊ * a ≤ ⌊c * a⌋₊ := hdiv ▸ Nat.div_mul_le_self _ _
  have hdvd : a ∣ ⌊c * a⌋₊ ↔ ⌊c * a⌋₊ < ⌊c⌋₊ * a + 1 := by
    rw [Nat.lt_succ_iff]
    constructor
    · intro h
      rw [← hdiv, Nat.div_mul_cancel h]
    · intro h
      exact ⟨⌊c⌋₊, by rw [Nat.mul_comm]; exact h.antisymm hle⟩
  rw [hdvd, Nat.floor_lt (mul_nonneg hc (Nat.cast_nonneg _)), sub_mul, sub_lt_iff_lt_add']
  push_cast
  rfl

/-- The thousandths that are left are whole units of the chain. -/
theorem simpleAmount_scaled_iff {c : ℚ} (hc : 0 ≤ c) (D : Nat) :
    (∃ k : Nat, (⌊c / 10 ^ D * 1000⌋₊ : ℚ) / 1000 * 10 ^ D = k) ↔
      3 ≤ D ∨ (c - ⌊c⌋₊) * 10 ^ (3 - D) < 1 := by
  by_cases hD : 3 ≤ D
  · obtain ⟨j, rfl⟩ := Nat.exists_eq_add_of_le hD
    refine iff_of_true ⟨⌊c / 10 ^ (3 + j) * 1000⌋₊ * 10 ^ j, ?_⟩ (.inl hD)
    push_cast
    ring
  · obtain ⟨j, hj⟩ : ∃ j, 3 = D + j := ⟨3 - D, by omega⟩
    have hpos : (10 : ℚ) ^ D ≠ 0 := pow_ne_zero _ (by norm_num)
    have hj' : (10 : ℚ) ^ j ≠ 0 := pow_ne_zero _ (by norm_num)
    have hthousand : (1000 : ℚ) = 10 ^ D * 10 ^ j := by rw [← pow_add, ← hj]; norm_num
    have hfloor : c / 10 ^ D * 1000 = c * (10 ^ j : Nat) := by
      rw [hthousand]
      push_cast
      field_simp
    have hsub : 3 - D = j := by omega
    have hcast : ((10 : ℚ) ^ j) = (10 ^ j : Nat) := by push_cast; rfl
    rw [or_iff_right hD, hsub, hcast, ← dvd_floor_iff hc (by positivity), hfloor, hthousand]
    generalize ⌊c * (10 ^ j : Nat)⌋₊ = m
    have hvalue : (m : ℚ) / (10 ^ D * 10 ^ j) * 10 ^ D = m / 10 ^ j := by field_simp
    rw [hvalue]
    constructor
    · rintro ⟨k, hk⟩
      rw [div_eq_iff hj'] at hk
      exact ⟨k, by rw [Nat.mul_comm]; exact_mod_cast hk⟩
    · rintro ⟨k, rfl⟩
      refine ⟨k, ?_⟩
      push_cast
      field_simp

/-- No more is kept than there is. -/
theorem simpleAmount_scaled_le {c : ℚ} (hc : 0 ≤ c) (D : Nat) :
    (⌊c / 10 ^ D * 1000⌋₊ : ℚ) / 1000 * 10 ^ D ≤ c := by
  have hpos : (0 : ℚ) < 10 ^ D := by positivity
  have hfloor : (⌊c / 10 ^ D * 1000⌋₊ : ℚ) ≤ c / 10 ^ D * 1000 :=
    Nat.floor_le (mul_nonneg (div_nonneg hc hpos.le) (by norm_num))
  rw [div_mul_eq_mul_div, div_le_iff₀ (by norm_num)]
  calc (⌊c / 10 ^ D * 1000⌋₊ : ℚ) * 10 ^ D ≤ c / 10 ^ D * 1000 * 10 ^ D :=
        mul_le_mul_of_nonneg_right hfloor hpos.le
    _ = c * 1000 := by field_simp

/-- The thousandths that are left are below `10²¹` when all of the share is. -/
theorem simpleAmount_lt_iff {c : ℚ} (hc : 0 ≤ c) (D : Nat) :
    (⌊c / 10 ^ D * 1000⌋₊ : ℚ) / 1000 < 10 ^ 21 ↔ c < 10 ^ (D + 21) := by
  have hpos : (0 : ℚ) < 10 ^ D := by positivity
  have hquot : 0 ≤ c / 10 ^ D * 1000 := mul_nonneg (div_nonneg hc hpos.le) (by norm_num)
  have hcut : (⌊c / 10 ^ D * 1000⌋₊ : ℚ) < (10 ^ 24 : Nat) ↔
      c / 10 ^ D * 1000 < (10 ^ 24 : Nat) := by
    rw [Nat.cast_lt, Nat.floor_lt hquot]
  rw [div_lt_iff₀ (by norm_num), pow_add, ← div_lt_iff₀' hpos]
  push_cast at hcut
  norm_num at hcut ⊢
  rw [hcut]
  constructor
  · intro h; linarith
  · intro h; linarith

/-- Thousandths are never too small to be written without an exponent. -/
theorem thousandths_plain_iff (m : Nat) :
    ((m : ℚ) / 1000 = 0 ∨ 1 / 10 ^ 6 ≤ (m : ℚ) / 1000 ∧ (m : ℚ) / 1000 < 10 ^ 21) ↔
      (m : ℚ) / 1000 < 10 ^ 21 := by
  cases m with
  | zero => norm_num
  | succ m =>
      have hm : (1 : ℚ) / 10 ^ 6 ≤ ((m + 1 : Nat) : ℚ) / 1000 := by
        have : (0 : ℚ) ≤ m := Nat.cast_nonneg m
        push_cast
        linarith
      rw [or_iff_right (by positivity), and_iff_right hm]

/-- Cut off after its thousandths, a share is in range below `10²¹` tokens. -/
theorem spendable_simpleAmount_iff :
    Spendable rawBalance D percent
        (Js.numberToString (simpleAmount (calculatedAmount rawBalance D percent))) ↔
      share rawBalance percent < 10 ^ (D + 21) ∧
        (3 ≤ D ∨ (share rawBalance percent - ⌊share rawBalance percent⌋₊) * 10 ^ (3 - D) < 1) := by
  have hc := share_nonneg rawBalance percent
  rw [spendable_numberToString_iff, Js.Plain, simpleAmount_value, calculatedAmount_value,
    ← simpleAmount_scaled_iff hc, thousandths_plain_iff, simpleAmount_lt_iff hc,
    and_iff_left (simpleAmount_scaled_le hc D)]

end

/-! ### The stored amount -/

/-- **The percentage buttons, exactly.** -/
theorem setPercentage_spendable_iff (p : Page) {rawBalance : Nat}
    (h : p.balanceRaw = some rawBalance) (percent : Fraction) :
    Spendable rawBalance p.tokenDecimals percent (p.setPercentage percent).amount ↔
      Divisible p.tokenDecimals (share rawBalance percent) := by
  have hamount : (p.setPercentage percent).amount =
      percentAmount rawBalance p.tokenDecimals percent := by
    rw [Page.setPercentage, h]
  rw [hamount, percentAmount_eq, Divisible]
  by_cases hsafe : ∃ n, IsSafe (share rawBalance percent) n
  · rw [if_pos ((isSafeInteger_calculatedAmount ..).mpr hsafe), or_iff_left fun hc => hc.1 hsafe]
    obtain ⟨n, hn⟩ := hsafe
    rw [spendable_calculatedAmount_iff hn]
    constructor
    · intro hspend
      exact ⟨n, hn, hspend⟩
    · rintro ⟨n', hn', hspend⟩
      have heq : n' = n := Nat.cast_injective (R := ℚ) (hn'.2.symm.trans hn.2)
      exact heq ▸ hspend
  · have hnone : ¬ ∃ n, IsSafe (share rawBalance percent) n ∧
        (n = 0 ∨ 10 ^ p.tokenDecimals ≤ n * 10 ^ 6) := fun ⟨n, hn, _⟩ => hsafe ⟨n, hn⟩
    rw [if_neg (mt (isSafeInteger_calculatedAmount ..).mp hsafe), spendable_simpleAmount_iff,
      or_iff_right hnone, and_iff_right hsafe]

/-- Half of three tokens, at twelve decimals. -/
theorem half_spendable : Spendable 3000000000000 12 ⟨50, 0⟩
    ({ Page.init none false with balanceRaw := some 3000000000000 }.setPercentage ⟨50, 0⟩).amount :=
  (setPercentage_spendable_iff _ rfl _).mpr
    (.inl ⟨1500000000000, ⟨by norm_num, by norm_num [share, Fraction.value]⟩,
      .inr (by norm_num [Page.init])⟩)

/-- All of the smallest balance, at twelve decimals: the page stores `1e-12`. -/
theorem exponent_not_spendable :
    ¬ ∀ (p : Page) (rawBalance : Nat) (percent : Fraction), p.balanceRaw = some rawBalance →
      rawBalance < 2 ^ 128 → percent.value ≤ 100 →
      Spendable rawBalance p.tokenDecimals percent (p.setPercentage percent).amount := by
  intro h
  obtain ⟨y, htext, -⟩ := h { Page.init none false with balanceRaw := some 1 } 1 ⟨100, 0⟩ rfl
    (by norm_num) (by norm_num [Fraction.value])
  have hamount :
      ({ Page.init none false with balanceRaw := some 1 }.setPercentage ⟨100, 0⟩).amount =
        ['1', 'e', '-', '1', '2'] := by decide
  rw [hamount] at htext
  exact Js.e_notMem_text y (htext ▸ by decide)

end SubstrateDevTemplate.Transfer
