import Mathlib.Algebra.BigOperators.Group.List.Basic
import Mathlib.Algebra.Order.Field.Basic
import Mathlib.Algebra.Order.Ring.Rat
import Mathlib.Data.Nat.Cast.Order.Field
import Mathlib.Tactic.Linarith
import Mathlib.Tactic.Ring

/-!
# Support — Rounding

Rationals rounded to natural numbers, downwards or to a nearest one.

* `Nearest r x` says that `r` is at most one half away from `x`.  Which of two nearest numbers is
  taken at a tie is left open; the roundings of two different numbers are in order all the same
  (`Nearest.le_of_lt`), and the errors of `n` roundings add up to at most `n / 2` (`sum_nearest`).
* `nearestDown` is one such rounding.
* `div_mul_add_mod_mul`, `sub_div_lt`: a quotient `p / q` scaled by `A` and rounded down, and how
  far it is off.

Nothing here mentions a particular program.
-/

namespace Rounding

/-! ### To a nearest number -/

/-- `r` is nearest to `x`. -/
def Nearest (r : Nat) (x : ℚ) : Prop := |(r : ℚ) - x| ≤ 1 / 2

namespace Nearest
variable {r s : Nat} {x y : ℚ}

theorem sub_le (h : Nearest r x) : (r : ℚ) - x ≤ 1 / 2 := (abs_le.mp h).2

theorem le_sub (h : Nearest r x) : -(1 / 2) ≤ (r : ℚ) - x := (abs_le.mp h).1

/-- Roundings of different numbers are in order, whatever is done at a tie. -/
theorem le_of_lt (hr : Nearest r x) (hs : Nearest s y) (h : x < y) : r ≤ s := by
  by_contra hlt
  have hcast : (s : ℚ) + 1 ≤ r := by exact_mod_cast Nat.lt_of_not_le hlt
  have h₁ := hr.sub_le
  have h₂ := hs.le_sub
  linarith

/-- What is less than one half rounds to zero. -/
theorem eq_zero (h : Nearest r x) (hx : x < 1 / 2) : r = 0 := by
  by_contra hne
  have hcast : (1 : ℚ) ≤ r := by exact_mod_cast Nat.one_le_iff_ne_zero.mpr hne
  have h₁ := h.sub_le
  linarith

/-- A bound that is a natural number is a bound of the rounding. -/
theorem le_nat (h : Nearest r x) {n : Nat} (hx : x ≤ n) : r ≤ n := by
  by_contra hlt
  have hcast : (n : ℚ) + 1 ≤ r := by exact_mod_cast Nat.lt_of_not_le hlt
  have h₁ := h.sub_le
  linarith

end Nearest

/-- Each rounding is off by at most one half, and their sum by at most a half for each of them. -/
theorem sum_nearest {α : Type*} {r : α → Nat} {x : α → ℚ} (l : List α)
    (h : ∀ a ∈ l, Nearest (r a) (x a)) :
    |((l.map r).sum : ℚ) - (l.map x).sum| ≤ l.length / 2 := by
  induction l with
  | nil => simp
  | cons a l ih =>
    have hhead : |(r a : ℚ) - x a| ≤ 1 / 2 := h a List.mem_cons_self
    have htail := ih fun b hb => h b (List.mem_cons_of_mem a hb)
    have hsplit : (((r a + (l.map r).sum : Nat) : ℚ) - (x a + (l.map x).sum)) =
        ((r a : ℚ) - x a) + (((l.map r).sum : ℚ) - (l.map x).sum) := by push_cast; ring
    rw [List.map_cons, List.map_cons, List.sum_cons, List.sum_cons, hsplit]
    calc |((r a : ℚ) - x a) + (((l.map r).sum : ℚ) - (l.map x).sum)|
        ≤ |(r a : ℚ) - x a| + |((l.map r).sum : ℚ) - (l.map x).sum| := abs_add_le ..
      _ ≤ 1 / 2 + l.length / 2 := add_le_add hhead htail
      _ = (a :: l).length / 2 := by rw [List.length_cons]; push_cast; ring

/-- `n / q`, rounded to nearest, and down at a tie. -/
def nearestDown (n q : Nat) : Nat := (2 * n + q - 1) / (2 * q)

theorem nearest_nearestDown (n : Nat) {q : Nat} (hq : 0 < q) :
    Nearest (nearestDown n q) ((n : ℚ) / q) := by
  have hq' : (0 : ℚ) < q := by exact_mod_cast hq
  have hle : 2 * q * nearestDown n q ≤ 2 * n + q - 1 := Nat.mul_div_le _ _
  have hlt : 2 * n + q - 1 < 2 * q * (nearestDown n q + 1) :=
    Nat.lt_mul_div_succ _ (by omega)
  have h₁ : 2 * q * (nearestDown n q : ℚ) ≤ 2 * n + q := by
    exact_mod_cast hle.trans (Nat.sub_le _ 1)
  have h₂ : 2 * n + q ≤ 2 * q * ((nearestDown n q : ℚ) + 1) := by
    exact_mod_cast (by omega : 2 * n + q ≤ 2 * q * (nearestDown n q + 1))
  have hn : (n : ℚ) / q * q = n := div_mul_cancel₀ _ hq'.ne'
  refine abs_le.mpr ⟨?_, ?_⟩
  · refine le_of_mul_le_mul_right ?_ hq'
    linarith
  · refine le_of_mul_le_mul_right ?_ hq'
    linarith

/-! ### Downwards -/

/-- The whole part of `p / q`, scaled, and its scaled remainder are the scaled quotient. -/
theorem div_mul_add_mod_mul (p A : Nat) {q : Nat} (hq : 0 < q) :
    p / q * A + p % q * A / q = p * A / q := by
  conv_rhs => rw [← Nat.div_add_mod p q, Nat.add_mul, Nat.mul_assoc]
  rw [Nat.mul_add_div hq]

/-- A quotient that is rounded down is less than one too small. -/
theorem sub_div_lt (n : Nat) {q : Nat} (hq : 0 < q) : (n : ℚ) / q - (n / q : Nat) < 1 := by
  have hq' : (0 : ℚ) < q := by exact_mod_cast hq
  have hlt : (n : ℚ) < ((n / q : Nat) + 1) * q := by
    exact_mod_cast Nat.lt_mul_of_div_lt (Nat.lt_succ_self _) hq
  rwa [sub_lt_iff_lt_add, div_lt_iff₀ hq', add_comm]

end Rounding
