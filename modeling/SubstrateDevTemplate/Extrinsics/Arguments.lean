import SubstrateDevTemplate.Support.Runs
import SubstrateDevTemplate.Extrinsics.Steps

/-!
# Extrinsics — the arguments of a submission

The Submit button compares the number of nonempty values with the number of parameters.  That is
enough because the array of values never has more entries than there are parameters, and no value
outlives a selection or a submission.

* `lastTyped`, `selection`: what the history of events says was typed and selected.
* `argument_integrity`: when the button is enabled, the values are one nonempty text for each
  parameter, the last one typed into its input since the selection or the last submission; and so
  were the values of every submission under way when its button was clicked.

The invariant is `Typed`, of the page and its history.
-/

namespace SubstrateDevTemplate.Extrinsics
open ParamInput (Param)
open Transition

/-! ### The history -/

/-- The last text typed into the `i`-th input since a selection or a submission, the latest event
first. -/
def lastTyped (i : Nat) : List Event → Option String
  | [] => none
  | .paramChange j value :: past => if i = j then some value else lastTyped i past
  | .moduleChange _ :: _ | .methodChange _ _ :: _ | .submit :: _ => none
  | _ :: past => lastTyped i past

/-- The module and the method selected last. -/
def selection : List Event → String × String
  | [] => ("", "")
  | .moduleChange newModule :: _ => (newModule, "")
  | .methodChange newMethod _ :: past => ((selection past).1, newMethod)
  | _ :: past => selection past

theorem lastTyped_quiet {e : Event} (h : e.quiet = true) (i : Nat) (past : List Event) :
    lastTyped i (e :: past) = lastTyped i past := by
  cases e with
  | moduleChange | methodChange | paramChange | submit => cases h
  | accountChange | connectWallet | walletEnabled | walletListed | injected | sent | notified =>
      rfl

theorem selection_quiet {e : Event} (h : e.quiet = true) (past : List Event) :
    selection (e :: past) = selection past := by
  cases e with
  | moduleChange | methodChange | paramChange | submit => cases h
  | accountChange | connectWallet | walletEnabled | walletListed | injected | sent | notified =>
      rfl

/-- After the history `past`, the values of the form are one nonempty text for each parameter of
the selected method, the last one typed into its input. -/
structure Answers (past : List Event) (module method : String) (params : List Param)
    (values : List (Option String)) : Prop where
  selected : selection past = (module, method)
  length : values.length = params.length
  typed : ∀ i < params.length,
    ∃ t, t ≠ "" ∧ Js.item values i = some t ∧ lastTyped i past = some t

/-! ### The invariant -/

/-- There are entries for no more than the parameters, each what was typed last; the submissions
under way captured a form that was filled in. -/
structure Typed (past : List Event) (p : Page) : Prop where
  selected : selection past = (p.selectedModule, p.selectedMethod)
  length : p.paramValues.length ≤ p.methodParameters.length
  values : ∀ i, (Js.item p.paramValues i).getD "" = (lastTyped i past).getD ""
  submissions : ∀ s ∈ p.submissions, ∃ before, .submit :: before <:+ past ∧
    Answers before s.selectedModule s.selectedMethod s.methodParameters s.paramValues

theorem typed_init : Typed [] .init :=
  ⟨rfl, Nat.le_refl _, fun _ => rfl, by intro s hs; cases hs⟩

/-- As many nonempty values as parameters, in an array no longer than the parameters, are one for
each parameter. -/
theorem all_truthy {values : List (Option String)} {n : Nat} (hn : values.length ≤ n)
    (h : (values.filter Js.truthy).length = n) :
    values.length = n ∧ ∀ i < n, ∃ t, t ≠ "" ∧ Js.item values i = some t := by
  have hle := List.length_filter_le Js.truthy values
  have hlen : values.length = n := by omega
  refine ⟨hlen, fun i hi => ?_⟩
  have hi' : i < values.length := by omega
  obtain ⟨t, ht, hne⟩ := Js.exists_of_truthy
    (List.length_filter_eq_length_iff.mp (h.trans hlen.symm) _ (List.getElem_mem hi'))
  exact ⟨t, hne, by rw [Js.item, List.getElem?_eq_getElem hi', ht]; rfl⟩

/-- Where the button is enabled, there is a value for each parameter. -/
theorem Page.SubmitEnabled.values {p : Page} (hen : p.SubmitEnabled)
    (hlen : p.paramValues.length ≤ p.methodParameters.length) :
    p.paramValues.length = p.methodParameters.length ∧
      ∀ i < p.methodParameters.length, ∃ t, t ≠ "" ∧ Js.item p.paramValues i = some t := by
  obtain ⟨-, -, -, -, -, hcount⟩ := hen
  refine all_truthy hlen ?_
  -- without parameters there is nothing to count
  by_cases hn : 0 < p.methodParameters.length
  · exact not_not.mp fun hne => hcount ⟨hn, hne⟩
  · have := List.length_filter_le Js.truthy p.paramValues
    omega

theorem eq_some_of_getD {t : String} {v : Option String} (hne : t ≠ "") (h : t = v.getD "") :
    v = some t := by
  cases v with
  | none => exact absurd h hne
  | some u => exact congrArg some h.symm

/-- So the form is filled in. -/
theorem Typed.answers {past : List Event} {p : Page} (hp : Typed past p) (he : p.SubmitEnabled) :
    Answers past p.selectedModule p.selectedMethod p.methodParameters p.paramValues := by
  obtain ⟨hlen, hall⟩ := he.values hp.length
  refine ⟨hp.selected, hlen, fun i hi => ?_⟩
  obtain ⟨t, hne, ht⟩ := hall i hi
  have hval := hp.values i
  rw [ht] at hval
  exact ⟨t, hne, ht, eq_some_of_getD hne hval⟩

/-- A submission under way stays one that was filled in. -/
theorem Typed.mono {past : List Event} {p : Page} (hp : Typed past p) (e : Event)
    {s : Submission} (hs : s ∈ p.submissions) :
    ∃ before, .submit :: before <:+ e :: past ∧
      Answers before s.selectedModule s.selectedMethod s.methodParameters s.paramValues := by
  obtain ⟨before, hb, ha⟩ := hp.submissions s hs
  exact ⟨before, hb.trans (List.suffix_cons e past), ha⟩

section
variable {api : Api}

/-- A selection leaves the form empty. -/
theorem typed_select {past : List Event} {p p₁ : Page} {e : Event} (hp : Typed past p)
    (hv : p₁.paramValues = []) (hs : p₁.submissions = p.submissions)
    (hsel : selection (e :: past) = (p₁.selectedModule, p₁.selectedMethod))
    (hl : ∀ i, lastTyped i (e :: past) = none) : Typed (e :: past) (flush api e p p₁) := by
  obtain ⟨h₁, h₂, h₃, hlen, hval⟩ := flush_reset api e p hv
  refine ⟨by rw [h₁, h₂]; exact hsel, hlen, fun i => ?_, fun s hmem => ?_⟩
  · rw [hl i]; exact hval i
  · rw [h₃, hs] at hmem
    exact hp.mono e hmem

/-- **One event.** -/
theorem typed_step {past : List Event} {p p' : Page} {e : Event} (hp : Typed past p)
    (h : step api p e = some p') : Typed (e :: past) p' := by
  rcases step_cases h with ⟨index, value, rfl, hi, rfl⟩ | ⟨newModule, rfl, rfl⟩ |
      ⟨newMethod, suffixes, rfl, rfl⟩ | ⟨rfl, hen, rfl⟩ | ⟨hq, hsame⟩
  · -- an edit: the input is one of the parameters'
    have hi' : index < p.methodParameters.length := Nat.lt_of_lt_of_le hi p.keys_length_le
    refine ⟨hp.selected, ?_, fun i => ?_, fun s hs => hp.mono _ hs⟩
    · rw [Page.handleParamChange, Js.length_assign]
      exact Nat.max_le.mpr ⟨hp.length, hi'⟩
    · rw [Page.handleParamChange, Js.item_assign, lastTyped]
      split
      · rfl
      · exact hp.values i
  · exact typed_select hp rfl rfl rfl fun _ => rfl
  · refine typed_select hp rfl rfl ?_ fun _ => rfl
    rw [selection, hp.selected]
    rfl
  · -- a submission: what it captures is the form the button was enabled for
    obtain ⟨h₁, h₂, h₃, h₄, hsub⟩ := handleSubmit_cases hen
    refine ⟨?_, by simp [h₄], fun i => by rw [h₄]; rfl, fun s hs => ?_⟩
    · rw [h₁, h₂]; exact hp.selected
    · rcases hsub s hs with hs | ⟨e₁, e₂, e₃, e₄⟩
      · exact hp.mono _ hs
      · refine ⟨past, List.suffix_refl _, ?_⟩
        rw [e₁, e₂, e₃, e₄]
        exact hp.answers hen
  · refine ⟨?_, ?_, fun i => ?_, fun s hs => ?_⟩
    · rw [selection_quiet hq, hsame.selectedModule, hsame.selectedMethod]; exact hp.selected
    · rw [hsame.paramValues, hsame.methodParameters]; exact hp.length
    · rw [hsame.paramValues, lastTyped_quiet hq]; exact hp.values i
    · obtain ⟨s', hs', hc⟩ := hsame.mem hs
      obtain ⟨e₁, e₂, e₃, e₄, -, -⟩ := (Submission.mk.injEq ..).mp hc
      rw [← e₁, ← e₂, ← e₃, ← e₄]
      exact hp.mono e hs'

/-! ### What is passed to the call -/

/-- A submission passes one value for each parameter. -/
theorem processedParams_length (s : Submission) :
    s.processedParams.length = s.methodParameters.length := List.length_mapIdx

theorem formatParameter_some (t type : String) : formatParameter (some t) type ≠ .undefined := by
  unfold formatParameter
  split
  · simp
  · simp

/-- Where every parameter has a value, none of the arguments is `undefined`. -/
theorem Answers.defined {past : List Event} {s : Submission} {module method : String}
    (h : Answers past module method s.methodParameters s.paramValues) :
    .undefined ∉ s.processedParams := by
  intro hmem
  obtain ⟨i, hi, hv⟩ := List.mem_mapIdx.mp hmem
  obtain ⟨t, -, ht, -⟩ := h.typed i hi
  rw [ht] at hv
  exact formatParameter_some t _ hv

/-- **Argument integrity.** -/
theorem argument_integrity {es : List Event} {p : Page}
    (h : Run (step api) anyEvent .init es p) :
    (p.SubmitEnabled → Answers es.reverse p.selectedModule p.selectedMethod p.methodParameters
      p.paramValues) ∧
    ∀ s ∈ p.submissions,
      (∃ before, .submit :: before <:+ es.reverse ∧
        Answers before s.selectedModule s.selectedMethod s.methodParameters s.paramValues) ∧
      s.processedParams.length = s.methodParameters.length ∧ .undefined ∉ s.processedParams := by
  have hp : Typed es.reverse p := by
    have := h.invariant_history (I := Typed) (fun _ _ _ _ ht _ hst => typed_step ht hst)
      typed_init
    rwa [List.append_nil] at this
  refine ⟨hp.answers, fun s hs => ?_⟩
  obtain ⟨before, hb, ha⟩ := hp.submissions s hs
  exact ⟨⟨before, hb, ha⟩, processedParams_length s, ha.defined⟩

end

/-- A transfer filled in backwards after a method was left half filled in. -/
theorem argument_integrity_transfer :
    let p := (exec (step noMetadata) anyEvent .init
      [.connectWallet, .walletEnabled 0 (.ok 1), .walletListed 0 (.ok [⟨"5Grw", "polkadot-js"⟩]),
        .moduleChange "balances", .methodChange "burn" [], .paramChange 0 "1",
        .methodChange "transferKeepAlive" [], .paramChange 1 "10", .paramChange 0 "5Fhn"]).get
      (by decide)
    p.SubmitEnabled ∧ p.paramValues = [some "5Fhn", some "10"] ∧
      p.paramValues.length = p.methodParameters.length := by
  refine ⟨by decide, by decide, ?_⟩
  exact ((argument_integrity (run_of_exec (Option.some_get _).symm)).1 (by decide)).length

end SubstrateDevTemplate.Extrinsics
