import Mathlib.Data.Nat.Digits.Defs
import Mathlib.Data.Nat.Digits.Lemmas
import Mathlib.Data.Rat.Defs
import Mathlib.Algebra.Order.Field.Basic
import Mathlib.Tactic.FieldSimp
import Mathlib.Tactic.Ring

/-!
# Support — Decimal

Digit strings and plain decimal numerals.

* `ofDigits ds` is the number the digits `ds` denote, the most significant first; `readNat` reads
  a nonempty string of digits, and nothing else.
* A `Numeral` is an integer part of one digit or more, and possibly a point and one fraction digit
  or more.  `Numeral.text` is how it is written, `Numeral.value` the rational it denotes.
-/

namespace Decimal

/-! ### Digits -/

/-- The number the digits `ds` denote, the most significant first. -/
def ofDigits (ds : List (Fin 10)) : Nat := Nat.ofDigits 10 (ds.reverse.map Fin.val)

theorem ofDigits_append (xs ys : List (Fin 10)) :
    ofDigits (xs ++ ys) = ofDigits xs * 10 ^ ys.length + ofDigits ys := by
  simp only [ofDigits, List.reverse_append, List.map_append, Nat.ofDigits_append,
    List.length_map, List.length_reverse]
  ring

theorem ofDigits_replicate_zero (k : Nat) : ofDigits (List.replicate k 0) = 0 := by
  rw [ofDigits, List.reverse_replicate, List.map_replicate]
  exact Nat.ofDigits_replicate_zero

/-- Zeros on the right scale by a power of ten. -/
theorem ofDigits_append_zeros (xs : List (Fin 10)) (k : Nat) :
    ofDigits (xs ++ List.replicate k 0) = ofDigits xs * 10 ^ k := by
  rw [ofDigits_append, ofDigits_replicate_zero, List.length_replicate, Nat.add_zero]

/-- The character of a digit. -/
def digitChar (d : Fin 10) : Char := Nat.digitChar d

/-- The digit a character stands for. -/
def digit? (c : Char) : Option (Fin 10) := (List.finRange 10).find? fun d => digitChar d == c

theorem digit?_digitChar (d : Fin 10) : digit? (digitChar d) = some d := by
  revert d; decide

theorem digitChar_injective : Function.Injective digitChar := by
  intro d e h
  have := congrArg digit? h
  rwa [digit?_digitChar, digit?_digitChar, Option.some.injEq] at this

theorem digitChar_ne_point (d : Fin 10) : digitChar d ≠ '.' := by
  revert d; decide

@[simp] theorem digitChar_zero : digitChar 0 = '0' := rfl

/-- Reads a nonempty string of digits as a base-10 integer. -/
def readNat (s : List Char) : Option Nat :=
  if s = [] then none else (s.mapM digit?).map ofDigits

theorem mapM_digit? (ds : List (Fin 10)) : (ds.map digitChar).mapM digit? = some ds := by
  induction ds with
  | nil => rfl
  | cons d ds ih => simp [List.mapM_cons, digit?_digitChar, ih]

theorem readNat_digits {ds : List (Fin 10)} (h : ds ≠ []) :
    readNat (ds.map digitChar) = some (ofDigits ds) := by
  rw [readNat, if_neg (by simpa using h), mapM_digit?, Option.map_some]

/-! ### Plain decimal numerals -/

/-- An integer part and, after a point, possibly a fraction. -/
structure Numeral where
  int : List (Fin 10)
  int_ne : int ≠ []
  frac : Option { ds : List (Fin 10) // ds ≠ [] }

namespace Numeral

/-- The fraction digits, none without a point. -/
def fracDigits (x : Numeral) : List (Fin 10) := (x.frac.map Subtype.val).getD []

/-- The number of integer digits. -/
def m (x : Numeral) : Nat := x.int.length

/-- The number of fraction digits. -/
def n (x : Numeral) : Nat := x.fracDigits.length

/-- All digits, read as one integer. -/
def mantissa (x : Numeral) : Nat := ofDigits (x.int ++ x.fracDigits)

/-- How the numeral is written. -/
def text (x : Numeral) : List Char :=
  x.int.map digitChar ++
    match x.frac with
    | none => []
    | some ds => '.' :: ds.1.map digitChar

/-- The rational the numeral denotes. -/
def value (x : Numeral) : ℚ := ofDigits x.int + ofDigits x.fracDigits / 10 ^ x.n

/-- A numeral is read back from its text: the integer part ends where the point stands. -/
theorem text_injective {x y : Numeral} (h : x.text = y.text) : x = y := by
  have hint : ∀ z : Numeral,
      z.text.takeWhile (· ≠ '.') = z.int.map digitChar ∧
      z.text.dropWhile (· ≠ '.') = match z.frac with
        | none => []
        | some ds => '.' :: ds.1.map digitChar := by
    intro z
    have hdigits : ∀ c ∈ z.int.map digitChar, decide (c ≠ '.') = true := by
      intro c hc
      obtain ⟨d, -, rfl⟩ := List.mem_map.mp hc
      exact decide_eq_true (digitChar_ne_point d)
    rw [text, List.takeWhile_append_of_pos hdigits, List.dropWhile_append_of_pos hdigits]
    cases z.frac with
    | none => simp
    | some ds => simp
  obtain ⟨hx₁, hx₂⟩ := hint x
  obtain ⟨hy₁, hy₂⟩ := hint y
  rw [h] at hx₁ hx₂
  have hi : x.int = y.int := List.map_injective_iff.mpr digitChar_injective (hx₁.symm.trans hy₁)
  have hf := hx₂.symm.trans hy₂
  obtain ⟨xi, hxi, xf⟩ := x
  obtain ⟨yi, hyi, yf⟩ := y
  obtain rfl := hi
  cases xf with
  | none =>
      cases yf with
      | none => rfl
      | some ds => cases hf
  | some ds =>
      cases yf with
      | none => cases hf
      | some es =>
          have htail : ds.1 = es.1 :=
            List.map_injective_iff.mpr digitChar_injective (List.cons.inj hf).2
          rw [Subtype.ext htail]

theorem value_eq (x : Numeral) : x.value = x.mantissa / 10 ^ x.n := by
  have h : (10 : ℚ) ^ x.n ≠ 0 := pow_ne_zero _ (by norm_num)
  rw [value, mantissa, ofDigits_append, ← n]
  push_cast
  field_simp

theorem value_eq_zero {x : Numeral} : x.value = 0 ↔ x.mantissa = 0 := by
  have h : (10 : ℚ) ^ x.n ≠ 0 := pow_ne_zero _ (by norm_num)
  rw [value_eq, div_eq_zero_iff, or_iff_left h, Nat.cast_eq_zero]

/-- `v · 10ᴰ` with the point shifted out: `v · 10ᴰ · 10ⁿ` is the mantissa times `10ᴰ`. -/
theorem scaled_eq (x : Numeral) (D : Nat) :
    x.value * 10 ^ D * 10 ^ x.n = (x.mantissa * 10 ^ D : Nat) := by
  have h : (10 : ℚ) ^ x.n ≠ 0 := pow_ne_zero _ (by norm_num)
  rw [value_eq]
  push_cast
  field_simp

/-- An integer `k` is `v · 10ᴰ` exactly when `k · 10ⁿ` is the mantissa times `10ᴰ`. -/
theorem eq_scaled_iff (x : Numeral) (D k : Nat) :
    (k : ℚ) = x.value * 10 ^ D ↔ k * 10 ^ x.n = x.mantissa * 10 ^ D := by
  have h : (10 : ℚ) ^ x.n ≠ 0 := pow_ne_zero _ (by norm_num)
  rw [← mul_left_inj' h, scaled_eq, ← Nat.cast_inj (R := ℚ)]
  push_cast
  rfl

theorem le_scaled_iff (x : Numeral) (D k : Nat) :
    (k : ℚ) ≤ x.value * 10 ^ D ↔ k * 10 ^ x.n ≤ x.mantissa * 10 ^ D := by
  have h : (0 : ℚ) < 10 ^ x.n := pow_pos (by norm_num) _
  rw [← mul_le_mul_iff_left₀ h, scaled_eq, ← Nat.cast_le (α := ℚ)]
  push_cast
  rfl

end Numeral

end Decimal
