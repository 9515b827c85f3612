import SubstrateDevTemplate.Transfer.Amount
import SubstrateDevTemplate.Extrinsics.Steps

/-!
# Extrinsics — the unit of a balance

The balance widget asks for decimal notation, to be converted to the correct precision.  Nothing
converts it: `formatParameter` passes the text on as it is typed.  A whole number of tokens is sent
as that number of the token's smallest fraction, and a number with a point is no integer at all,
where the Transfer page would append the zeros.

* `whole_pages_agree_iff`: when the two pages send the same for a whole number.
* `typed_balance_iff`: the value that is sent is the amount typed, in base units, exactly when the
  numeral has no point and either the token has no decimals or the amount is zero.
-/

namespace SubstrateDevTemplate.Extrinsics
open Js (Value)
open ParamInput (Param Widget widget)
open Decimal (Numeral readNat digitChar ofDigits)

/-- The integer that a value passed to a call denotes. -/
def Value.readInteger : Value → Option Nat
  | .string s => readNat s.toList
  | _ => none

/-- The submission passes `amount` to its call, as its `i`-th argument. -/
def Submission.Sends (s : Submission) (i : Nat) (amount : ℚ) : Prop :=
  ∃ value k, s.processedParams[i]? = some value ∧ Value.readInteger value = some k ∧
    (k : ℚ) = amount

/-! ### What is captured and passed -/

/-- A submission captures the form as it is. -/
theorem handleSubmit_captures {p : Page} {s : Submission}
    (h : p.handleSubmit.submissions[p.submissions.length]? = some s) :
    s.methodParameters = p.methodParameters ∧ s.paramValues = p.paramValues := by
  have hnone : p.submissions[p.submissions.length]? = none :=
    List.getElem?_eq_none (Nat.le_refl _)
  unfold Page.handleSubmit at h
  split at h
  · rw [hnone] at h
    cases h
  · split at h
    · have hsame := hnone.symm.trans h
      cases hsame
    · rw [List.getElem?_concat_length, Option.some.injEq] at h
      rw [← h]
      exact ⟨rfl, rfl⟩

/-- The text of a parameter with any widget but the first is passed on as it is. -/
theorem processedParams_text {s : Submission} {i : Nat} {param : Param} {module text : String}
    (hparam : s.methodParameters[i]? = some param)
    (hwidget : widget module param.name param.type ≠ .bool)
    (hvalue : Js.item s.paramValues i = some text) :
    s.processedParams[i]? = some (.string text) := by
  rw [Submission.processedParams, List.getElem?_mapIdx, hparam, Option.map_some, hvalue,
    formatParameter, ParamInput.widget_not_bool hwidget]
  rfl

/-! ### What it denotes -/

/-- A point is no digit. -/
theorem readNat_point {cs : List Char} (h : '.' ∈ cs) : readNat cs = none := by
  have hpoint : Decimal.digit? '.' = none := by decide
  have hmap : ∀ cs : List Char, '.' ∈ cs → cs.mapM Decimal.digit? = none := by
    intro cs
    induction cs with
    | nil =>
        intro h
        cases h
    | cons c cs ih =>
        intro h
        rw [List.mapM_cons]
        rcases List.mem_cons.mp h with rfl | h
        · rw [hpoint]
          rfl
        · rw [ih h]
          cases Decimal.digit? c <;> rfl
  rw [readNat, hmap cs h]
  split <;> rfl

theorem value_whole {x : Numeral} (h : x.frac = none) : x.value = ofDigits x.int := by
  simp [Numeral.value, Numeral.fracDigits, Numeral.n, h, ofDigits]

/-- A numeral is read as an integer when it has no point, and is then the number it denotes. -/
theorem readNat_text (x : Numeral) (k : Nat) :
    readNat x.text = some k ↔ x.frac = none ∧ (k : ℚ) = x.value := by
  cases hfrac : x.frac with
  | none =>
      have htext : x.text = x.int.map digitChar := by simp [Numeral.text, hfrac]
      rw [htext, value_whole hfrac, Decimal.readNat_digits x.int_ne, and_iff_right rfl,
        Option.some.injEq, Nat.cast_inj, eq_comm]
  | some fs =>
      have hmem : '.' ∈ x.text := by simp [Numeral.text, hfrac]
      rw [readNat_point hmem]
      refine iff_of_false (fun h => ?_) (fun h => ?_)
      · cases h
      · cases h.1

/-- A power of ten scales nothing but zero to itself. -/
theorem scale_eq_self_iff (v : ℚ) (D : Nat) : v = v * 10 ^ D ↔ D = 0 ∨ v = 0 := by
  by_cases hv : v = 0
  · simp [hv]
  · rw [eq_comm, mul_eq_left₀ hv, or_iff_left hv]
    constructor
    · intro h
      by_contra hD
      have hlt : (1 : ℚ) < 10 ^ D := one_lt_pow₀ (by norm_num) hD
      exact hlt.ne' h
    · rintro rfl
      exact pow_zero _

/-- The Transfer page sends the same for a whole number only where the two units are one. -/
theorem whole_pages_agree_iff {x : Numeral} (h : x.frac = none) (D : Nat) :
    readNat x.text = readNat (Transfer.rawAmount x.text D) ↔ D = 0 ∨ x.value = 0 := by
  have hm : x.mantissa = ofDigits x.int := by simp [Numeral.mantissa, Numeral.fracDigits, h]
  rw [Transfer.read_rawAmount_whole h, readNat_text, and_iff_right h, ← scale_eq_self_iff,
    value_whole h, hm]
  push_cast
  exact eq_comm

/-- **The unit of a balance.**  For any token decimals `D`, a numeral that stands in the balance
widget is sent as that many tokens exactly when it has no point and either the token has no decimals
or it is zero. -/
theorem typed_balance_iff {p : Page} {i : Nat} {param : Param} {x : Numeral} {s : Submission}
    (hparam : p.methodParameters[i]? = some param)
    (hwidget : widget p.selectedModule param.name param.type = .balance)
    (hvalue : Js.item p.paramValues i = some (String.ofList x.text))
    (hs : p.handleSubmit.submissions[p.submissions.length]? = some s) (D : Nat) :
    s.Sends i (x.value * 10 ^ D) ↔ x.frac = none ∧ (D = 0 ∨ x.value = 0) := by
  obtain ⟨hparams, hvalues⟩ := handleSubmit_captures hs
  rw [← hparams] at hparam
  rw [← hvalues] at hvalue
  have hbool : widget p.selectedModule param.name param.type ≠ .bool := by rw [hwidget]; decide
  have hpassed := processedParams_text hparam hbool hvalue
  have hread : Value.readInteger (.string (String.ofList x.text)) = readNat x.text := by
    rw [Value.readInteger, String.toList_ofList]
  have hsends : s.Sends i (x.value * 10 ^ D) ↔
      ∃ k : Nat, (x.frac = none ∧ (k : ℚ) = x.value) ∧ (k : ℚ) = x.value * 10 ^ D := by
    simp only [Submission.Sends, hpassed, Option.some.injEq, exists_and_left, exists_eq_left',
      hread, readNat_text]
  rw [hsends, ← scale_eq_self_iff]
  constructor
  · rintro ⟨k, ⟨hfrac, hk⟩, hkD⟩
    exact ⟨hfrac, hk.symm.trans hkD⟩
  · rintro ⟨hfrac, hD⟩
    have hwhole := (value_whole hfrac).symm
    exact ⟨_, ⟨hfrac, hwhole⟩, hwhole.trans hD⟩

/-- The form of `balances.transferKeepAlive`, filled in. -/
def transferForm (amount : String) : Page :=
  { Page.init with
    selectedModule := "balances"
    selectedMethod := "transferKeepAlive"
    methodParameters := [⟨"dest", "MultiAddress", false⟩, ⟨"value", "Compact<Balance>", false⟩]
    paramValues := [some "5Bob", some amount]
    accounts := [⟨"5Alice", "polkadot-js"⟩]
    selectedAccount := "5Alice" }

/-- What it submits. -/
def transferSubmission (amount : String) : Submission where
  selectedModule := "balances"
  selectedMethod := "transferKeepAlive"
  methodParameters := [⟨"dest", "MultiAddress", false⟩, ⟨"value", "Compact<Balance>", false⟩]
  paramValues := [some "5Bob", some amount]
  selectedAccount := "5Alice"
  txEvents := none
  stage := .injecting "polkadot-js"

/-- Nothing is sent as nothing. -/
theorem zero_balance_sent :
    (transferSubmission "0").Sends 1 ((⟨[0], by simp, none⟩ : Numeral).value * 10 ^ 12) :=
  (typed_balance_iff (p := transferForm "0") rfl (by decide) rfl rfl 12).mpr
    ⟨rfl, .inr (Numeral.value_eq_zero.mpr rfl)⟩

/-- One token, at twelve decimals, is sent as its smallest fraction. -/
theorem one_token_not_sent :
    ¬ ∀ (D : Nat) (p : Page) (i : Nat) (param : Param) (x : Numeral) (s : Submission),
      p.methodParameters[i]? = some param →
      widget p.selectedModule param.name param.type = .balance →
      Js.item p.paramValues i = some (String.ofList x.text) → x.n ≤ D →
      p.handleSubmit.submissions[p.submissions.length]? = some s →
      s.Sends i (x.value * 10 ^ D) := by
  intro h
  obtain ⟨value, k, hvalue, hk, heq⟩ := h 12 (transferForm "1") 1
    ⟨"value", "Compact<Balance>", false⟩ ⟨[1], by simp, none⟩ (transferSubmission "1")
    rfl (by decide) rfl (by decide) rfl
  have hpassed : (transferSubmission "1").processedParams[1]? = some (.string "1") := by decide
  rw [hpassed, Option.some.injEq] at hvalue
  have hone : Value.readInteger (.string "1") = some 1 := by decide
  rw [← hvalue, hone, Option.some.injEq] at hk
  rw [← hk] at heq
  have hval := (Numeral.eq_scaled_iff _ 12 1).mp heq
  revert hval
  decide

end SubstrateDevTemplate.Extrinsics
