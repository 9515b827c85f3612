import SubstrateDevTemplate.Extrinsics.Definitions

/-!
# Extrinsics — Steps

What one event of the page does to the form (the selection, the parameters and their values) and
to what the submissions under way have captured of it.

* `handle_submit`, `handle_injected`, `handle_sent`, `handle_notified`: where an event of a
  submission can happen, and what it does; `handle_elsewhere`: no other event touches one.
* `handle_cases`, `step_cases`: an edit, a selection or a submission changes the form, and no other
  event does.
* `flush_eq`: the effects change the parameters and their values, and nothing else.
* `flush_reset`: after a selection, no value is left.
-/

namespace SubstrateDevTemplate.Extrinsics

/-- A submission as its closure has it, wherever it is. -/
def Submission.closure (s : Submission) : Submission := { s with stage := .failed }

@[simp] theorem closure_stage (s : Submission) (stage : SubmissionStage) :
    ({ s with stage := stage } : Submission).closure = s.closure := rfl

namespace Page

/-- The form, and what was captured of it, are the same. -/
structure SameForm (p p' : Page) : Prop where
  selectedModule : p'.selectedModule = p.selectedModule
  selectedMethod : p'.selectedMethod = p.selectedMethod
  methodParameters : p'.methodParameters = p.methodParameters
  paramValues : p'.paramValues = p.paramValues
  submissions : p'.submissions.map Submission.closure = p.submissions.map Submission.closure

theorem SameForm.refl (p : Page) : p.SameForm p := ⟨rfl, rfl, rfl, rfl, rfl⟩

theorem SameForm.keys {p p' : Page} (h : p.SameForm p') : p'.keys = p.keys := by
  rw [Page.keys, Page.keys, h.selectedMethod, h.methodParameters]

/-- A captured form is one that was captured before. -/
theorem SameForm.mem {p p' : Page} (h : p.SameForm p') {s : Submission}
    (hs : s ∈ p'.submissions) : ∃ s' ∈ p.submissions, s'.closure = s.closure := by
  have := List.mem_map_of_mem (f := Submission.closure) hs
  rw [h.submissions] at this
  exact List.mem_map.mp this

theorem keys_length_le (p : Page) : p.keys.length ≤ p.methodParameters.length := by
  unfold keys
  split
  · simp
  · simp

variable (p : Page)

/-! ### The handlers that leave the form alone -/

/-- A submission moves on. -/
theorem sameForm_setSubmission {k : Nat} {s : Submission} (hs : p.submissions[k]? = some s)
    (stage : SubmissionStage) : p.SameForm (p.setSubmission k s stage) := by
  obtain ⟨hk, rfl⟩ := List.getElem?_eq_some_iff.mp hs
  have hk' : k < (p.submissions.map Submission.closure).length := by simpa using hk
  have heq : (p.submissions.map Submission.closure)[k] = p.submissions[k].closure :=
    List.getElem_map _
  refine ⟨rfl, rfl, rfl, rfl, ?_⟩
  rw [setSubmission, List.map_set, closure_stage, ← heq, List.set_getElem_self]

/-- The wallet is not part of the form. -/
theorem sameForm_walletEnabled (k : Nat) (w : WalletConnection) (r : Except String Nat) :
    p.SameForm (p.walletEnabled k w r) := by
  cases r with
  | error message => exact ⟨rfl, rfl, rfl, rfl, rfl⟩
  | ok n =>
      cases n with
      | zero => exact ⟨rfl, rfl, rfl, rfl, rfl⟩
      | succ n => exact ⟨rfl, rfl, rfl, rfl, rfl⟩

theorem sameForm_walletListed (k : Nat) (w : WalletConnection)
    (r : Except String (List Account)) : p.SameForm (p.walletListed k w r) := by
  cases r with
  | error message => exact ⟨rfl, rfl, rfl, rfl, rfl⟩
  | ok accounts =>
      cases accounts with
      | nil => exact ⟨rfl, rfl, rfl, rfl, rfl⟩
      | cons account rest => exact ⟨rfl, rfl, rfl, rfl, rfl⟩

variable {p}

theorem SameForm.trans {p' p'' : Page} (h : p.SameForm p') (h' : p'.SameForm p'') :
    p.SameForm p'' :=
  ⟨h'.selectedModule.trans h.selectedModule, h'.selectedMethod.trans h.selectedMethod,
    h'.methodParameters.trans h.methodParameters, h'.paramValues.trans h.paramValues,
    h'.submissions.trans h.submissions⟩

theorem sameForm_injected (api : Api) {k : Nat} {s : Submission}
    (hs : p.submissions[k]? = some s) (r : Except String Unit) :
    p.SameForm (p.injected api k s r) := by
  have hset := fun stage => p.sameForm_setSubmission hs stage
  cases r with
  | error message => exact (hset .failed).trans ⟨rfl, rfl, rfl, rfl, rfl⟩
  | ok u =>
      simp only [injected]
      split
      · exact (hset .failed).trans ⟨rfl, rfl, rfl, rfl, rfl⟩
      · exact (hset (.sending s.selectedAccount)).trans ⟨rfl, rfl, rfl, rfl, rfl⟩

theorem sameForm_sent {k : Nat} {s : Submission} (hs : p.submissions[k]? = some s)
    (r : Except String Unit) : p.SameForm (p.sent k s r) := by
  cases r with
  | error message =>
      exact (p.sameForm_setSubmission hs .failed).trans ⟨rfl, rfl, rfl, rfl, rfl⟩
  | ok u => exact p.sameForm_setSubmission hs (.subscribed 0)

theorem sameForm_notified {k : Nat} {s : Submission} (hs : p.submissions[k]? = some s)
    (unsubs : Nat) (result : TxResult) : p.SameForm (p.notified k s unsubs result) := by
  have hset := p.sameForm_setSubmission hs (.subscribed (unsubs + 1))
  unfold notified
  split
  · exact ⟨rfl, rfl, rfl, rfl, rfl⟩
  · exact hset.trans ⟨rfl, rfl, rfl, rfl, rfl⟩
  · split
    · exact hset.trans ⟨rfl, rfl, rfl, rfl, rfl⟩
    · exact .refl p

end Page

/-! ### One event -/

/-- The event is one of a submission: it starts one, or moves one on. -/
def Event.ofSubmission : Event → Bool
  | .submit | .injected _ _ | .sent _ _ | .notified _ _ => true
  | _ => false

/-- The event is no edit, no selection and no submission. -/
def Event.quiet : Event → Bool
  | .moduleChange _ | .methodChange _ _ | .paramChange _ _ | .submit => false
  | _ => true

section
variable {api : Api} {p p' : Page}

/-! ### The submissions -/

theorem handle_submit (h : handle api p .submit = some p') :
    p.SubmitEnabled ∧ p' = p.handleSubmit := by
  simp only [handle] at h
  split at h
  · rename_i hen
    cases h
    exact ⟨hen, rfl⟩
  · cases h

theorem handle_injected {k : Nat} {injector : Except String Unit}
    (h : handle api p (.injected k injector) = some p') :
    ∃ s source, p.submissions[k]? = some s ∧ s.stage = .injecting source ∧
      p' = p.injected api k s injector := by
  simp only [handle] at h
  split at h
  · rename_i s hs
    split at h
    · rename_i source hstage
      cases h
      exact ⟨s, source, hs, hstage, rfl⟩
    · cases h
  · cases h

theorem handle_sent {k : Nat} {unsub : Except String Unit}
    (h : handle api p (.sent k unsub) = some p') :
    ∃ s account, p.submissions[k]? = some s ∧ s.stage = .sending account ∧
      p' = p.sent k s unsub := by
  simp only [handle] at h
  split at h
  · rename_i s hs
    split at h
    · rename_i account hstage
      cases h
      exact ⟨s, account, hs, hstage, rfl⟩
    · cases h
  · cases h

theorem handle_notified {k : Nat} {result : TxResult}
    (h : handle api p (.notified k result) = some p') :
    ∃ s unsubs, p.submissions[k]? = some s ∧ s.stage = .subscribed unsubs ∧
      p' = p.notified k s unsubs result := by
  simp only [handle] at h
  split at h
  · rename_i s hs
    split at h
    · rename_i unsubs hstage
      cases h
      exact ⟨s, unsubs, hs, hstage, rfl⟩
    · cases h
  · cases h

theorem walletEnabled_submissions (k : Nat) (w : WalletConnection) (r : Except String Nat) :
    (p.walletEnabled k w r).isSubmitting = p.isSubmitting ∧
      (p.walletEnabled k w r).submissions = p.submissions := by
  unfold Page.walletEnabled
  split
  · exact ⟨rfl, rfl⟩
  · exact ⟨rfl, rfl⟩
  · exact ⟨rfl, rfl⟩

theorem walletListed_submissions (k : Nat) (w : WalletConnection)
    (r : Except String (List Account)) :
    (p.walletListed k w r).isSubmitting = p.isSubmitting ∧
      (p.walletListed k w r).submissions = p.submissions := by
  unfold Page.walletListed
  split
  · exact ⟨rfl, rfl⟩
  · exact ⟨rfl, rfl⟩
  · exact ⟨rfl, rfl⟩

/-- No other event touches a submission. -/
theorem handle_elsewhere {e : Event} (he : e.ofSubmission = false)
    (h : handle api p e = some p') :
    p'.isSubmitting = p.isSubmitting ∧ p'.submissions = p.submissions := by
  cases e with
  | submit | injected | sent | notified => cases he
  | moduleChange newModule => cases h; exact ⟨rfl, rfl⟩
  | methodChange newMethod suffixes =>
      simp only [handle] at h
      split at h
      · cases h
      · cases h; exact ⟨rfl, rfl⟩
  | paramChange index value =>
      simp only [handle] at h
      split at h
      · cases h; exact ⟨rfl, rfl⟩
      · cases h
  | accountChange address =>
      simp only [handle] at h
      split at h
      · cases h
      · cases h; exact ⟨rfl, rfl⟩
  | connectWallet =>
      simp only [handle] at h
      split at h
      · cases h; exact ⟨rfl, rfl⟩
      · cases h
  | walletEnabled k extensions =>
      simp only [handle] at h
      split at h
      · cases h; exact walletEnabled_submissions ..
      · cases h
  | walletListed k accounts =>
      simp only [handle] at h
      split at h
      · cases h; exact walletListed_submissions ..
      · cases h

/-! ### The form -/

variable (api) in
/-- The effects change the parameters and their values only. -/
theorem flush_eq (e : Event) (before p : Page) : ∃ params values,
    flush api e before p = { p with methodParameters := params, paramValues := values } := by
  unfold flush
  split
  · exact ⟨_, _, rfl⟩
  · unfold Page.parameterEffect
    split
    · exact ⟨_, _, rfl⟩
    · exact ⟨_, _, rfl⟩

variable (api) in
/-- Without a change of the selection, no effect runs. -/
theorem flush_same (e : Event) {before : Page} (h₁ : p.selectedModule = before.selectedModule)
    (h₂ : p.selectedMethod = before.selectedMethod) : flush api e before p = p :=
  if_pos ⟨h₁, h₂⟩

/-- An event other than an edit, a selection or a submission leaves the form alone. -/
theorem handle_quiet {e : Event} (hq : e.quiet = true)
    (h : handle api p e = some p') : p.SameForm p' := by
  cases e with
  | moduleChange | methodChange | paramChange | submit => cases hq
  | accountChange address =>
      simp only [handle] at h
      split at h
      · cases h
      · cases h; exact ⟨rfl, rfl, rfl, rfl, rfl⟩
  | connectWallet =>
      simp only [handle] at h
      split at h
      · cases h; exact ⟨rfl, rfl, rfl, rfl, rfl⟩
      · cases h
  | walletEnabled k extensions =>
      simp only [handle] at h
      split at h
      · cases h; exact p.sameForm_walletEnabled ..
      · cases h
  | walletListed k accounts =>
      simp only [handle] at h
      split at h
      · cases h; exact p.sameForm_walletListed ..
      · cases h
  | injected k injector =>
      obtain ⟨s, source, hs, -, rfl⟩ := handle_injected h
      exact Page.sameForm_injected api hs injector
  | sent k unsub =>
      obtain ⟨s, account, hs, -, rfl⟩ := handle_sent h
      exact Page.sameForm_sent hs unsub
  | notified k result =>
      obtain ⟨s, unsubs, hs, -, rfl⟩ := handle_notified h
      exact Page.sameForm_notified hs unsubs result

/-- **What an event does to the form**, before the effects. -/
theorem handle_cases {e : Event} (h : handle api p e = some p') :
    (∃ index value, e = .paramChange index value ∧ index < p.keys.length ∧
      p' = p.handleParamChange index value) ∨
    (∃ newModule, e = .moduleChange newModule ∧ p' = p.handleModuleChange newModule) ∨
    (∃ newMethod suffixes, e = .methodChange newMethod suffixes ∧
      p' = p.handleMethodChange newMethod) ∨
    (e = .submit ∧ p.SubmitEnabled ∧ p' = p.handleSubmit) ∨
    (e.quiet = true ∧ p.SameForm p') := by
  cases hq : e.quiet with
  | true => exact .inr (.inr (.inr (.inr ⟨rfl, handle_quiet hq h⟩)))
  | false =>
      cases e with
      | paramChange index value =>
          simp only [handle] at h
          split at h
          · rename_i hi
            cases h
            exact .inl ⟨index, value, rfl, hi, rfl⟩
          · cases h
      | moduleChange newModule =>
          cases h
          exact .inr (.inl ⟨newModule, rfl, rfl⟩)
      | methodChange newMethod suffixes =>
          simp only [handle] at h
          split at h
          · cases h
          · cases h
            exact .inr (.inr (.inl ⟨newMethod, suffixes, rfl, rfl⟩))
      | submit => exact .inr (.inr (.inr (.inl ⟨rfl, handle_submit h⟩)))
      | accountChange | connectWallet | walletEnabled | walletListed | injected | sent | notified =>
          cases hq

variable (api) in
/-- What a selection leaves: no value, and an entry in the array for no more than the parameters
there are. -/
theorem flush_reset (e : Event) (before : Page) (hv : p.paramValues = []) :
    (flush api e before p).selectedModule = p.selectedModule ∧
    (flush api e before p).selectedMethod = p.selectedMethod ∧
    (flush api e before p).submissions = p.submissions ∧
    (flush api e before p).paramValues.length ≤ (flush api e before p).methodParameters.length ∧
    ∀ i, (Js.item (flush api e before p).paramValues i).getD "" = "" := by
  have hreset : p.paramValues.length ≤ p.methodParameters.length ∧
      ∀ i, (Js.item p.paramValues i).getD "" = "" := by simp [hv]
  unfold flush
  split
  · exact ⟨rfl, rfl, rfl, hreset⟩
  · unfold Page.parameterEffect
    split
    · exact ⟨rfl, rfl, rfl, hreset⟩
    · refine ⟨rfl, rfl, rfl, by simp, fun i => ?_⟩
      rw [Js.item_replicate]
      split <;> rfl

/-- A submission empties the values, and captures the form if the account is one of the wallet's. -/
theorem handleSubmit_cases (hen : p.SubmitEnabled) :
    p.handleSubmit.selectedModule = p.selectedModule ∧
    p.handleSubmit.selectedMethod = p.selectedMethod ∧
    p.handleSubmit.methodParameters = p.methodParameters ∧
    p.handleSubmit.paramValues = [] ∧
    ∀ s ∈ p.handleSubmit.submissions, s ∈ p.submissions ∨
      (s.selectedModule = p.selectedModule ∧ s.selectedMethod = p.selectedMethod ∧
        s.methodParameters = p.methodParameters ∧ s.paramValues = p.paramValues) := by
  have haccount : p.selectedAccount ≠ "" := hen.2.2.2.2.1
  rw [Page.handleSubmit, if_neg haccount]
  split
  · exact ⟨rfl, rfl, rfl, rfl, fun s hs => .inl hs⟩
  · refine ⟨rfl, rfl, rfl, rfl, fun s hs => ?_⟩
    rcases List.mem_append.mp hs with hs | hs
    · exact .inl hs
    · rw [List.mem_singleton.mp hs]
      exact .inr ⟨rfl, rfl, rfl, rfl⟩

/-- The same with the effects, which run after a selection only. -/
theorem step_cases {e : Event} (h : step api p e = some p') :
    (∃ index value, e = .paramChange index value ∧ index < p.keys.length ∧
      p' = p.handleParamChange index value) ∨
    (∃ newModule, e = .moduleChange newModule ∧
      p' = flush api e p (p.handleModuleChange newModule)) ∨
    (∃ newMethod suffixes, e = .methodChange newMethod suffixes ∧
      p' = flush api e p (p.handleMethodChange newMethod)) ∨
    (e = .submit ∧ p.SubmitEnabled ∧ p' = p.handleSubmit) ∨
    (e.quiet = true ∧ p.SameForm p') := by
  obtain ⟨p₁, h₁, rfl⟩ := Option.map_eq_some_iff.mp h
  rcases handle_cases h₁ with ⟨index, value, rfl, hi, rfl⟩ | ⟨newModule, rfl, rfl⟩ |
      ⟨newMethod, suffixes, rfl, rfl⟩ | ⟨rfl, hen, rfl⟩ | ⟨hq, hsame⟩
  · exact .inl ⟨index, value, rfl, hi, flush_same api _ rfl rfl⟩
  · exact .inr (.inl ⟨newModule, rfl, rfl⟩)
  · exact .inr (.inr (.inl ⟨newMethod, suffixes, rfl, rfl⟩))
  · obtain ⟨h₂, h₃, -⟩ := handleSubmit_cases hen
    exact .inr (.inr (.inr (.inl ⟨rfl, hen, flush_same api _ h₂ h₃⟩)))
  · rw [flush_same api _ hsame.selectedModule hsame.selectedMethod]
    exact .inr (.inr (.inr (.inr ⟨hq, hsame⟩)))

end

/-- An api without metadata. -/
def noMetadata : Api where
  tx _ := none
  findMetaCall _ := .ok none
  txError _ _ _ := none

end SubstrateDevTemplate.Extrinsics
