import SubstrateDevTemplate.Support.Script
import SubstrateDevTemplate.Support.Decimal

/-!
# Transfer — the amount that is sent

`handleSubmit` of the Transfer page turns the typed amount into the integer string it passes to
the transfer call.  With a point in the amount, the digits are padded with zeros to the length
*fraction digits plus token decimals* (`rawAmount`, the `padEnd` branch).  The string so obtained
is the digits times `10 ^ (D - m)`, where `m` counts the *integer* digits (`read_rawAmount`), while
the amount typed denotes the digits times `10 ^ (D - n)`, where `n` counts the fraction digits.

* `rawAmount_exact_iff`: the string is right exactly when there is no point, when the amount is
  zero, or when `n = min m D`.
-/

namespace SubstrateDevTemplate.Transfer
open Decimal (Numeral readNat digitChar ofDigits)

/-- `rawAmount`, as `handleSubmit` computes it from `amount` and `tokenDecimals`. -/
def rawAmount (amount : List Char) (tokenDecimals : Nat) : List Char :=
  if '.' ∈ amount then
    Js.padEnd (Js.removeFirst '.' amount)
      (amount.length - Js.indexOf '.' amount - 1 + tokenDecimals) '0'
  else amount ++ Js.rep '0' tokenDecimals

/-- The string passed to the transfer call for the amount `x` is an integer: `v · 10ᴰ` when the
chain has a place for every fraction digit, and at most that when it does not. -/
def Exact (x : Numeral) (D : Nat) : Prop :=
  ∃ k, readNat (rawAmount x.text D) = some k ∧
    (x.n ≤ D → (k : ℚ) = x.value * 10 ^ D) ∧ (D < x.n → (k : ℚ) ≤ x.value * 10 ^ D)

theorem point_notMem (ds : List (Fin 10)) : '.' ∉ ds.map digitChar := by
  simp only [List.mem_map, not_exists, not_and]
  exact fun d _ => Decimal.digitChar_ne_point d

/-! ### What the string denotes -/

/-- Without a point, `D` zeros are appended. -/
theorem read_rawAmount_whole {x : Numeral} (h : x.frac = none) (D : Nat) :
    readNat (rawAmount x.text D) = some (x.mantissa * 10 ^ D) := by
  have hx : x.text = x.int.map digitChar := by simp [Numeral.text, h]
  have hm : x.mantissa = ofDigits x.int := by simp [Numeral.mantissa, Numeral.fracDigits, h]
  have hz : x.int.map digitChar ++ Js.rep '0' D =
      (x.int ++ List.replicate D 0).map digitChar := by simp [Js.rep]
  rw [rawAmount, hx, if_neg (point_notMem _), hz, hm,
    Decimal.readNat_digits (by simp [x.int_ne]), Decimal.ofDigits_append_zeros]

/-- With a point, the zeros make up for missing *integer* digits. -/
theorem read_rawAmount_point {x : Numeral} (h : x.frac ≠ none) (D : Nat) :
    readNat (rawAmount x.text D) = some (x.mantissa * 10 ^ (D - x.m)) := by
  obtain ⟨⟨fs, hfs⟩, hf⟩ := Option.ne_none_iff_exists'.mp h
  have hx : x.text = x.int.map digitChar ++ '.' :: fs.map digitChar := by
    simp [Numeral.text, hf]
  have hfrac : x.fracDigits = fs := by simp [Numeral.fracDigits, hf]
  have hidx : Js.indexOf '.' x.text = x.m := by
    rw [hx, Js.indexOf, List.idxOf_append_of_notMem (point_notMem _), List.idxOf_cons_self,
      List.length_map, Nat.add_zero, Numeral.m]
  have herase : Js.removeFirst '.' x.text = (x.int ++ fs).map digitChar := by
    rw [hx, Js.removeFirst, List.erase_append_right _ (point_notMem _), List.erase_cons_head,
      List.map_append]
  have hlen : x.text.length = x.m + (fs.length + 1) := by simp [hx, Numeral.m]
  have hpad : x.text.length - x.m - 1 + D - ((x.int ++ fs).map digitChar).length = D - x.m := by
    rw [hlen, List.length_map, List.length_append, ← Numeral.m]; omega
  have hz : (x.int ++ fs).map digitChar ++ List.replicate (D - x.m) '0' =
      ((x.int ++ fs) ++ List.replicate (D - x.m) 0).map digitChar := by simp
  rw [rawAmount, if_pos (by simp [hx]), hidx, herase, Js.padEnd, hpad, hz,
    Decimal.readNat_digits (by simp [x.int_ne]), Decimal.ofDigits_append_zeros,
    Numeral.mantissa, hfrac]

/-! ### When it is the amount typed -/

/-- A nonzero number times `10ᵃ` is at most itself times `10ᵇ` exactly when `a ≤ b`. -/
theorem mul_pow_le_iff {N a b : Nat} (hN : N ≠ 0) : N * 10 ^ a ≤ N * 10 ^ b ↔ a ≤ b := by
  rw [Nat.mul_le_mul_left_iff (Nat.pos_of_ne_zero hN), Nat.pow_le_pow_iff_right (by norm_num)]

/-- `N · 10ᵃ` is right at `n` fraction digits: equal to the amount when `n ≤ D`, at most the
amount otherwise. -/
theorem shifted_right_iff (x : Numeral) (D a : Nat) :
    ((x.n ≤ D → ((x.mantissa * 10 ^ a : Nat) : ℚ) = x.value * 10 ^ D) ∧
      (D < x.n → ((x.mantissa * 10 ^ a : Nat) : ℚ) ≤ x.value * 10 ^ D)) ↔
    x.mantissa = 0 ∨ a + x.n = D := by
  rw [x.eq_scaled_iff, x.le_scaled_iff, Nat.mul_assoc, ← Nat.pow_add]
  by_cases hN : x.mantissa = 0
  · simp [hN]
  · rw [mul_pow_le_iff hN, or_iff_right hN, Nat.mul_right_inj hN,
      Nat.pow_right_inj (by norm_num : 1 < 10)]
    constructor
    · rintro ⟨h₁, h₂⟩
      by_cases hD : x.n ≤ D
      · exact h₁ hD
      · have := h₂ (by omega); omega
    · intro h
      exact ⟨fun _ => h, fun _ => h.le⟩

/-- **The amount sent, exactly.**  The string is right when the amount has no point, when it is
zero, and when its fraction digits number `min m D`; it is wrong for every other amount. -/
theorem rawAmount_exact_iff (x : Numeral) (D : Nat) :
    Exact x D ↔ x.frac = none ∨ x.value = 0 ∨ x.n = min x.m D := by
  rw [Numeral.value_eq_zero]
  by_cases h : x.frac = none
  · have hn : x.n = 0 := by simp [Numeral.n, Numeral.fracDigits, h]
    refine iff_of_true ⟨_, read_rawAmount_whole h D, ?_⟩ (.inl h)
    exact (shifted_right_iff x D D).mpr (.inr (by omega))
  · have hread := read_rawAmount_point h D
    have hE : Exact x D ↔ x.mantissa = 0 ∨ (D - x.m) + x.n = D := by
      rw [← shifted_right_iff, Exact]
      constructor
      · rintro ⟨k, hk, hr⟩
        rw [hread, Option.some.injEq] at hk
        exact hk ▸ hr
      · exact fun hr => ⟨_, hread, hr⟩
    rw [hE, or_iff_right h]
    have : (D - x.m) + x.n = D ↔ x.n = min x.m D := by omega
    rw [this]

/-- `10.5` at twelve decimals: the page sends `105` and ten zeros, a tenth of the amount. -/
theorem rawAmount_not_exact : ¬ ∀ (x : Numeral) (D : Nat), Exact x D := by
  intro h
  let x : Numeral := ⟨[1, 0], by decide, some ⟨[5], by decide⟩⟩
  obtain ⟨k, hk, heq, -⟩ := h x 12
  have hread : readNat (rawAmount x.text 12) = some 1050000000000 := by decide
  rw [hread, Option.some.injEq] at hk
  have hval := (x.eq_scaled_iff 12 k).mp (heq (by decide))
  rw [← hk] at hval
  revert hval
  decide

end SubstrateDevTemplate.Transfer
