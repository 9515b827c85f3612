import SubstrateDevTemplate.Extrinsics.Arguments
import SubstrateDevTemplate.Extrinsics.Hosted

/-!
# Extrinsics — the arguments are for the chain

Another instance may be published while the form is filled in.  The parameter effect depends on the
instance, so that the form then starts again, with the parameters of the new chain; and what a
submission passes is what was typed for the chain it goes to.

* `lastTyped`: what was typed since the selection, the last submission or another instance.
* `FormFor`, `Filled`: the form is that of an instance, and is filled in for it.
* `arguments_fit_chain`: the form is that of the instance there is, filled in for it where the
  button is enabled; and so it was, for the instance it captured, when a submission was clicked.

The invariant is `Fits`.
-/

namespace SubstrateDevTemplate.Extrinsics
open ParamInput (Param)
open Service (ApiPromise)
open Transition

/-! ### The effects -/

theorem parametersOf_some (api : Api) (suffixes : List String) (module method : String) :
    ∃ params, parametersOf (some api) suffixes module method = some params := by
  unfold parametersOf
  split
  · exact ⟨_, rfl⟩
  · split
    · exact ⟨_, rfl⟩
    · split
      · exact ⟨_, rfl⟩
      · split
        · exact ⟨_, rfl⟩
        · exact ⟨_, rfl⟩

namespace Hosted

section
variable {chain : ApiPromise → Chain}

/-- The lists and the error are no part of the form. -/
structure SamePage (h h' : Hosted) : Prop where
  page : h'.page = h.page
  api : h'.api = h.api
  isApiReady : h'.isApiReady = h.isApiReady
  apis : h'.apis = h.apis

variable (chain) in
theorem samePage_modulesEffect (h : Hosted) : h.SamePage (h.modulesEffect chain) := by
  unfold modulesEffect
  split
  · exact ⟨rfl, rfl, rfl, rfl⟩
  · split
    · exact ⟨rfl, rfl, rfl, rfl⟩
    · split
      · exact ⟨rfl, rfl, rfl, rfl⟩
      · exact ⟨rfl, rfl, rfl, rfl⟩

variable (chain) in
theorem samePage_methodsEffect (h : Hosted) : h.SamePage (h.methodsEffect chain) := by
  unfold methodsEffect
  split
  · exact ⟨rfl, rfl, rfl, rfl⟩
  · split
    · exact ⟨rfl, rfl, rfl, rfl⟩
    · split
      · exact ⟨rfl, rfl, rfl, rfl⟩
      · exact ⟨rfl, rfl, rfl, rfl⟩

theorem SamePage.trans {h h' h'' : Hosted} (h₁ : h.SamePage h') (h₂ : h'.SamePage h'') :
    h.SamePage h'' :=
  ⟨h₂.page.trans h₁.page, h₂.api.trans h₁.api, h₂.isApiReady.trans h₁.isApiReady,
    h₂.apis.trans h₁.apis⟩

/-- What the parameter effect depends on. -/
def parameterDeps (h : Hosted) : Option ApiPromise × String × String :=
  (h.api, h.page.selectedModule, h.page.selectedMethod)

variable (chain) in
/-- **The effects** change the form only where the parameter effect runs. -/
theorem flush_cases (suffixes : List String) (before h : Hosted) :
    ((flush chain suffixes before h).api = h.api ∧
      (flush chain suffixes before h).isApiReady = h.isApiReady ∧
      (flush chain suffixes before h).apis = h.apis) ∧
    ((h.parameterDeps = before.parameterDeps ∧ (flush chain suffixes before h).page = h.page) ∨
      (h.parameterDeps ≠ before.parameterDeps ∧ (flush chain suffixes before h).page =
        h.page.parameterEffect (h.api.map fun api => (chain api).api) suffixes)) := by
  have hlists : ∀ b b' : Prop, [Decidable b] → [Decidable b'] → h.SamePage
      (if b' then (if b then h.modulesEffect chain else h).methodsEffect chain
        else if b then h.modulesEffect chain else h) := by
    intro b b' _ _
    have h₁ : h.SamePage (if b then h.modulesEffect chain else h) := by
      split
      · exact samePage_modulesEffect chain h
      · exact ⟨rfl, rfl, rfl, rfl⟩
    split
    · exact h₁.trans (samePage_methodsEffect chain _)
    · exact h₁
  have hdeps : h.parameterDeps = before.parameterDeps ↔ ¬ (h.api ≠ before.api ∨
      h.page.selectedModule ≠ before.page.selectedModule ∨
      h.page.selectedMethod ≠ before.page.selectedMethod) := by
    simp only [parameterDeps, Prod.mk.injEq, not_or, not_not]
  have hs := hlists (h.api ≠ before.api ∨ h.isApiReady ≠ before.isApiReady)
    (h.api ≠ before.api ∨ h.page.selectedModule ≠ before.page.selectedModule)
  by_cases hd : h.parameterDeps = before.parameterDeps
  · have hflush : h.SamePage (flush chain suffixes before h) := by
      simp only [flush, if_neg (hdeps.mp hd)]
      exact hs
    exact ⟨⟨hflush.api, hflush.isApiReady, hflush.apis⟩, .inl ⟨hd, hflush.page⟩⟩
  · have hb := not_not.mp (mt hdeps.mpr hd)
    simp only [flush, if_pos hb]
    refine ⟨⟨hs.api, hs.isApiReady, hs.apis⟩, .inr ⟨hd, ?_⟩⟩
    rw [parameterEffect, hs.page, hs.api]

end

/-- What the parameter effect leaves: the parameters of the instance there is, and no value. -/
theorem parameterEffect_sets (api : Option Api) (suffixes : List String) (p : Page) :
    (p.parameterEffect api suffixes).selectedModule = p.selectedModule ∧
    (p.parameterEffect api suffixes).selectedMethod = p.selectedMethod ∧
    (p.parameterEffect api suffixes).submissions = p.submissions ∧
    (p.paramValues.length ≤ p.methodParameters.length →
      (p.parameterEffect api suffixes).paramValues.length ≤
        (p.parameterEffect api suffixes).methodParameters.length) ∧
    ∀ a, api = some a →
      parametersOf (some a) suffixes p.selectedModule p.selectedMethod =
        some (p.parameterEffect api suffixes).methodParameters ∧
      ∀ i, (Js.item (p.parameterEffect api suffixes).paramValues i).getD "" = "" := by
  unfold Page.parameterEffect
  split
  · rename_i hnone
    refine ⟨rfl, rfl, rfl, id, ?_⟩
    rintro a rfl
    obtain ⟨params, hparams⟩ := parametersOf_some a suffixes p.selectedModule p.selectedMethod
    rw [hparams] at hnone
    cases hnone
  · rename_i params hparams
    refine ⟨rfl, rfl, rfl, fun _ => by simp, ?_⟩
    rintro a rfl
    refine ⟨hparams, fun i => ?_⟩
    rw [Js.item_replicate]
    split
    · rfl
    · rfl

/-! ### One event of the page -/

variable {chain : ApiPromise → Chain} {h h' : Hosted}

/-- What the submissions have captured is not changed by an event that starts none. -/
theorem handle_closures {api : Api} {p p' : Page} {e : Extrinsics.Event} (he : e ≠ .submit)
    (hh : Extrinsics.handle api p e = some p') :
    p'.submissions.map Submission.closure = p.submissions.map Submission.closure := by
  rcases handle_cases hh with ⟨index, value, rfl, -, rfl⟩ | ⟨newModule, rfl, rfl⟩ |
      ⟨newMethod, suffixes, rfl, rfl⟩ | ⟨rfl, -⟩ | ⟨-, hsame⟩
  · rfl
  · rfl
  · rfl
  · exact absurd rfl he
  · exact hsame.submissions

/-- What is handled is handled by the page; a submission captures the instance there is. -/
theorem handle_page {e : Extrinsics.Event} (hh : handle chain h e = some h') :
    (e = .submit ∧ h.api = none ∧ h' = h) ∨
    ∃ api p, Extrinsics.handle api h.page e = some p ∧
      ((e ≠ .submit ∧ h' = { h with page := p }) ∨
        ∃ a, e = .submit ∧ h.api = some a ∧ h' = { h with page := p, apis := h.capture p a }) := by
  have hcapture : ∀ {api : Api} {p : Page} (a : ApiPromise), e ≠ .submit →
      Extrinsics.handle api h.page e = some p → h.capture p a = h.apis := by
    intro api p a he hp
    have hlen := congrArg List.length (handle_closures he hp)
    rw [List.length_map, List.length_map] at hlen
    exact if_neg (by rw [hlen]; exact Nat.lt_irrefl _)
  simp only [handle] at hh
  split at hh
  · split at hh
    · rename_i hapi
      split at hh
      · cases hh; exact .inl ⟨rfl, hapi, rfl⟩
      · cases hh
    · rename_i e _ _ api _ hapi
      obtain ⟨p, hp, rfl⟩ := Option.map_eq_some_iff.mp hh
      refine .inr ⟨_, p, hp, ?_⟩
      by_cases he : e = .submit
      · subst he
        exact .inr ⟨api, rfl, hapi, rfl⟩
      · rw [hcapture api he hp]
        exact .inl ⟨he, rfl⟩
    · rename_i _ _ _ hne _ _
      obtain ⟨p, hp, rfl⟩ := Option.map_eq_some_iff.mp hh
      exact .inr ⟨_, p, hp, .inl ⟨hne, rfl⟩⟩
  · cases hh

/-! ### The history -/

/-- The instance there is after the history, where there was `start` before. -/
def published (start : Option ApiPromise) : List Event → Option ApiPromise
  | [] => start
  | .context api _ _ :: _ => api
  | .page _ :: past => published start past

/-- The last text typed into the `i`-th input since a selection, a submission or another instance,
the latest event first. -/
def lastTyped (start : Option ApiPromise) (i : Nat) : List Event → Option String
  | [] => none
  | .context api _ _ :: past => if api = published start past then lastTyped start i past else none
  | .page (.paramChange j value) :: past => if i = j then some value else lastTyped start i past
  | .page (.moduleChange _) :: _ | .page (.methodChange _ _) :: _ | .page .submit :: _ => none
  | .page _ :: past => lastTyped start i past

/-- The events of the page's own. -/
def pageEvents (past : List Event) : List Extrinsics.Event :=
  past.filterMap fun
    | .context _ _ _ => none
    | .page e => some e

variable (chain) in
/-- After the history `past` the form is that of the instance there is: the parameters are those of
the selected method on its chain, and the value of each is the last one typed into its input since
it was published, or empty. -/
structure FormFor (start : Option ApiPromise) (past : List Event) (api : ApiPromise) (p : Page) :
    Prop where
  current : published start past = some api
  selected : selection (pageEvents past) = (p.selectedModule, p.selectedMethod)
  parameters : ∃ suffixes, parametersOf (some (chain api).api) suffixes p.selectedModule
    p.selectedMethod = some p.methodParameters
  length : p.paramValues.length ≤ p.methodParameters.length
  values : ∀ i, (Js.item p.paramValues i).getD "" = (lastTyped start i past).getD ""

variable (chain) in
/-- After the history `past` the form is filled in for the instance there is: the parameters are
those of the method on its chain, each with a nonempty value, the last one typed into its input
since it was published. -/
structure Filled (start : Option ApiPromise) (past : List Event) (api : ApiPromise)
    (module method : String) (params : List Param) (values : List (Option String)) : Prop where
  current : published start past = some api
  selected : selection (pageEvents past) = (module, method)
  parameters : ∃ suffixes,
    parametersOf (some (chain api).api) suffixes module method = some params
  length : values.length = params.length
  typed : ∀ i < params.length,
    ∃ t, t ≠ "" ∧ Js.item values i = some t ∧ lastTyped start i past = some t

/-- Where every parameter has a value, none of the arguments is `undefined`. -/
theorem Filled.defined {start : Option ApiPromise} {past : List Event} {api : ApiPromise}
    {s : Submission} {module method : String}
    (hs : Filled chain start past api module method s.methodParameters s.paramValues) :
    .undefined ∉ s.processedParams := by
  intro hmem
  obtain ⟨i, hi, hv⟩ := List.mem_mapIdx.mp hmem
  obtain ⟨t, -, ht, -⟩ := hs.typed i hi
  rw [ht] at hv
  exact formatParameter_some t _ hv

variable (chain) in
/-- A submission captured a form that was filled in for the instance it captured. -/
def FilledSubmission (start : Option ApiPromise) (past : List Event) (s : Submission)
    (api : ApiPromise) : Prop :=
  ∃ before, .page .submit :: before <:+ past ∧ Filled chain start before api s.selectedModule
    s.selectedMethod s.methodParameters s.paramValues

/-! ### The invariant -/

variable (chain) in
/-- The form is that of the instance there is, with what was typed for it. -/
structure Fits (start : Option ApiPromise) (past : List Event) (h : Hosted) : Prop where
  current : published start past = h.api
  selected : selection (pageEvents past) = (h.page.selectedModule, h.page.selectedMethod)
  length : h.page.paramValues.length ≤ h.page.methodParameters.length
  parameters : ∀ api, h.api = some api → ∃ suffixes, parametersOf (some (chain api).api) suffixes
    h.page.selectedModule h.page.selectedMethod = some h.page.methodParameters
  values : h.api ≠ none → ∀ i,
    (Js.item h.page.paramValues i).getD "" = (lastTyped start i past).getD ""
  submissions : List.Forall₂ (FilledSubmission chain start past)
    (h.page.submissions.map Submission.closure) h.apis

variable {start : Option ApiPromise} {past : List Event}

/-- What a submission captured is not changed by what happens later. -/
theorem filledSubmission_later (e : Event) {s : Submission} {api : ApiPromise}
    (hs : FilledSubmission chain start past s api) :
    FilledSubmission chain start (e :: past) s api := by
  obtain ⟨before, hb, hfilled⟩ := hs
  exact ⟨before, hb.trans (List.suffix_cons e past), hfilled⟩

theorem Fits.later (hf : Fits chain start past h) (e : Event) :
    List.Forall₂ (FilledSubmission chain start (e :: past))
      (h.page.submissions.map Submission.closure) h.apis :=
  hf.submissions.imp fun _ _ => filledSubmission_later e

/-- With an instance there, the form is its. -/
theorem Fits.formFor {api : ApiPromise} (hf : Fits chain start past h) (hapi : h.api = some api) :
    FormFor chain start past api h.page where
  current := hf.current.trans hapi
  selected := hf.selected
  parameters := hf.parameters api hapi
  length := hf.length
  values := hf.values (by rw [hapi]; rintro ⟨⟩)

/-- Where the button is enabled, it is filled in. -/
theorem FormFor.filled {api : ApiPromise} {p : Page} (hf : FormFor chain start past api p)
    (hen : p.SubmitEnabled) :
    Filled chain start past api p.selectedModule p.selectedMethod p.methodParameters
      p.paramValues := by
  obtain ⟨hlen, hall⟩ := hen.values hf.length
  refine ⟨hf.current, hf.selected, hf.parameters, hlen, fun i hi => ?_⟩
  obtain ⟨t, hne, ht⟩ := hall i hi
  have hval := hf.values i
  rw [ht] at hval
  exact ⟨t, hne, ht, eq_some_of_getD hne hval⟩

/-- A submission captures the form, if the account is one of the wallet's, and waits for the
injector of that one. -/
theorem handleSubmit_submissions {p : Page} (hen : p.SubmitEnabled) :
    p.handleSubmit.submissions = p.submissions ∨
    ∃ account ∈ p.accounts, account.address = p.selectedAccount ∧ p.handleSubmit.submissions =
      p.submissions ++ [{ p.clicked with stage := .injecting account.source }] := by
  have haccount : p.selectedAccount ≠ "" := hen.2.2.2.2.1
  rw [Page.handleSubmit, if_neg haccount]
  split
  · exact .inl rfl
  · rename_i account hfound
    exact .inr ⟨account, List.mem_of_find?_eq_some hfound,
      by simpa using List.find?_some hfound, rfl⟩

/-- It captures the instance with it. -/
theorem fits_submit {api : ApiPromise} (hf : Fits chain start past h) (hapi : h.api = some api)
    (hen : h.page.SubmitEnabled) :
    List.Forall₂ (FilledSubmission chain start (.page .submit :: past))
      (h.page.handleSubmit.submissions.map Submission.closure)
      (h.capture h.page.handleSubmit api) := by
  rcases handleSubmit_submissions hen with hsame | ⟨account, -, -, hs⟩
  · rw [capture, if_neg (by rw [hsame]; exact Nat.lt_irrefl _), hsame]
    exact hf.later _
  · rw [capture, if_pos (by rw [hs, List.length_append]; exact Nat.lt_succ_self _), hs,
      List.map_append, List.map_singleton]
    exact List.rel_append (hf.later _)
      (.cons ⟨past, List.suffix_refl _, (hf.formFor hapi).filled hen⟩ .nil)

/-! ### One event -/

/-- The parameter effect is run, if what it depends on has changed: where it has not, the form is as
it was, and where it has, it starts again. -/
theorem fits_flush {suffixes : List String} {e : Event} (hf : Fits chain start past h)
    (hcurrent : published start (e :: past) = h'.api)
    (hselected : selection (pageEvents (e :: past)) =
      (h'.page.selectedModule, h'.page.selectedMethod))
    (hlength : h'.page.paramValues.length ≤ h'.page.methodParameters.length)
    (hparams : h'.page.methodParameters = h.page.methodParameters)
    (hsubmissions : List.Forall₂ (FilledSubmission chain start (e :: past))
      (h'.page.submissions.map Submission.closure) h'.apis)
    (hkept : h'.parameterDeps = h.parameterDeps → h'.api ≠ none → ∀ i,
      (Js.item h'.page.paramValues i).getD "" = (lastTyped start i (e :: past)).getD "")
    (hreset : h'.parameterDeps ≠ h.parameterDeps → ∀ i, lastTyped start i (e :: past) = none) :
    Fits chain start (e :: past) (flush chain suffixes h h') := by
  obtain ⟨⟨hapi, -, happis⟩, ⟨hd, hpage⟩ | ⟨hd, hpage⟩⟩ := flush_cases chain suffixes h h'
  · have hd' := hd
    simp only [parameterDeps, Prod.mk.injEq] at hd'
    obtain ⟨h₁, h₂, h₃⟩ := hd'
    refine ⟨hcurrent.trans hapi.symm, ?_, ?_, fun api ha => ?_, fun ha i => ?_, ?_⟩
    · rw [hpage]; exact hselected
    · rw [hpage]; exact hlength
    · rw [hpage, hparams, h₂, h₃]
      exact hf.parameters api (h₁.symm.trans (hapi.symm.trans ha))
    · rw [hpage]; exact hkept hd (by rwa [hapi] at ha) i
    · rw [hpage, happis]; exact hsubmissions
  · obtain ⟨h₁, h₂, h₃, hlen, hset⟩ :=
      parameterEffect_sets (h'.api.map fun api => (chain api).api) suffixes h'.page
    refine ⟨hcurrent.trans hapi.symm, ?_, ?_, fun api ha => ?_, fun ha i => ?_, ?_⟩
    · rw [hpage, h₁, h₂]; exact hselected
    · rw [hpage]; exact hlen hlength
    · rw [hpage, h₁, h₂]
      exact ⟨suffixes, (hset _ (by rw [← hapi, ha]; rfl)).1⟩
    · obtain ⟨api, ha⟩ := Option.ne_none_iff_exists'.mp ha
      rw [hpage, (hset (chain api).api (by rw [← hapi, ha]; rfl)).2 i, hreset hd i]
      rfl
    · rw [hpage, h₃, happis]; exact hsubmissions

/-- An event that starts no submission. -/
theorem fits_page {api : Api} {e : Extrinsics.Event} {p : Page} (hf : Fits chain start past h)
    (he : e ≠ .submit) (hp : Extrinsics.handle api h.page e = some p) :
    Fits chain start (.page e :: past) (flush chain e.suffixes h { h with page := p }) := by
  rcases handle_cases hp with ⟨index, value, rfl, hi, rfl⟩ | ⟨newModule, rfl, rfl⟩ |
      ⟨newMethod, suffixes, rfl, rfl⟩ | ⟨rfl, -⟩ | ⟨hq, hsame⟩
  · -- an edit: the input is one of the parameters'
    have hi' : index < h.page.methodParameters.length :=
      Nat.lt_of_lt_of_le hi h.page.keys_length_le
    refine fits_flush hf hf.current hf.selected ?_ rfl (hf.later _) (fun _ ha i => ?_)
      fun hd => absurd rfl hd
    · rw [Page.handleParamChange, Js.length_assign]
      exact Nat.max_le.mpr ⟨hf.length, hi'⟩
    · rw [Page.handleParamChange, Js.item_assign, lastTyped]
      split
      · rfl
      · exact hf.values ha i
  · exact fits_flush hf hf.current rfl (Nat.zero_le _) rfl (hf.later _) (fun _ _ _ => rfl)
      fun _ _ => rfl
  · refine fits_flush hf hf.current ?_ (Nat.zero_le _) rfl (hf.later _) (fun _ _ _ => rfl)
      fun _ _ => rfl
    have hselected := congrArg Prod.fst hf.selected
    exact congrArg (Prod.mk · newMethod) hselected
  · exact absurd rfl he
  · -- any other event leaves the form alone
    have htyped : ∀ i, lastTyped start i (.page e :: past) = lastTyped start i past := by
      intro i
      cases e with
      | moduleChange | methodChange | paramChange | submit => cases hq
      | accountChange | connectWallet | walletEnabled | walletListed | injected | sent | notified =>
          rfl
    refine fits_flush hf hf.current ?_ ?_ hsame.methodParameters ?_ (fun _ ha i => ?_) fun hd => ?_
    · rw [hsame.selectedModule, hsame.selectedMethod]
      exact (selection_quiet hq _).trans hf.selected
    · rw [hsame.paramValues, hsame.methodParameters]; exact hf.length
    · rw [hsame.submissions]; exact hf.later _
    · rw [hsame.paramValues, htyped]; exact hf.values ha i
    · refine absurd ?_ hd
      rw [parameterDeps, parameterDeps, hsame.selectedModule, hsame.selectedMethod]

/-- **One event.** -/
theorem fits_step {e : Event} (hf : Fits chain start past h) (hs : step chain h e = some h') :
    Fits chain start (e :: past) h' := by
  cases e with
  | context api isApiReady suffixes =>
      cases hs
      refine fits_flush hf rfl hf.selected hf.length rfl (hf.later _) (fun hd ha i => ?_)
        fun hd i => ?_
      · have hapi : api = h.api := congrArg Prod.fst hd
        rw [lastTyped, if_pos (hapi.trans hf.current.symm)]
        exact hf.values (hapi ▸ ha) i
      · have hapi : api ≠ h.api := by
          rintro rfl
          exact hd rfl
        exact if_neg (by rw [hf.current]; exact hapi)
  | page e =>
      obtain ⟨h₁, hh, rfl⟩ := Option.map_eq_some_iff.mp hs
      rcases handle_page hh with ⟨rfl, hnone, rfl⟩ | ⟨api, p, hp, ⟨he, rfl⟩ | ⟨a, rfl, ha, rfl⟩⟩
      · -- the handler has returned at once
        exact fits_flush hf hf.current hf.selected hf.length rfl (hf.later _)
          (fun _ ha => absurd hnone ha) fun hd => absurd rfl hd
      · exact fits_page hf he hp
      · obtain ⟨hen, rfl⟩ := handle_submit hp
        obtain ⟨h₁, h₂, h₃, h₄, -⟩ := handleSubmit_cases hen
        refine fits_flush hf hf.current ?_ ?_ h₃ (fits_submit hf ha hen) (fun _ _ i => ?_)
          fun hd => ?_
        · rw [h₁, h₂]; exact hf.selected
        · rw [h₄]; exact Nat.zero_le _
        · rw [h₄]; rfl
        · refine absurd ?_ hd
          rw [parameterDeps, parameterDeps, h₁, h₂]

variable (chain) in
/-- The page, mounted, has no form yet. -/
theorem fits_mount (isApiReady : Bool) :
    Fits chain start [] (mount chain start isApiReady) := by
  have hsame : (init start isApiReady).SamePage
      (((init start isApiReady).modulesEffect chain).methodsEffect chain) :=
    (samePage_modulesEffect chain _).trans (samePage_methodsEffect chain _)
  obtain ⟨h₁, h₂, h₃, hlen, hset⟩ :=
    parameterEffect_sets (start.map fun api => (chain api).api) [] Page.init
  have hpage : (mount chain start isApiReady).page =
      Page.init.parameterEffect (start.map fun api => (chain api).api) [] := by
    rw [mount, parameterEffect, hsame.page, hsame.api]
    rfl
  refine ⟨hsame.api.symm, ?_, ?_, fun api ha => ?_, fun ha i => ?_, ?_⟩
  · rw [hpage, h₁, h₂]; rfl
  · rw [hpage]; exact hlen (Nat.le_refl _)
  · have hstart : start = some api := hsame.api.symm.trans ha
    subst hstart
    rw [hpage, h₁, h₂]
    exact ⟨[], (hset _ rfl).1⟩
  · obtain ⟨api, ha⟩ := Option.ne_none_iff_exists'.mp ha
    have hstart : start = some api := hsame.api.symm.trans ha
    subst hstart
    rw [hpage]
    exact (hset _ rfl).2 i
  · have hapis : (mount chain start isApiReady).apis = [] := hsame.apis
    rw [hpage, h₃, hapis]
    exact .nil

/-- **In every run.** -/
theorem fits_run {isApiReady : Bool} {es : List Event}
    (hrun : Run (step chain) anyEvent (mount chain start isApiReady) es h) :
    Fits chain start es.reverse h := by
  have hf := hrun.invariant_history (I := Fits chain start)
    (fun _ _ _ _ hI _ hs => fits_step hI hs) (fits_mount chain isApiReady)
  rwa [List.append_nil] at hf

/-- **The arguments are for the chain.**  In every run, with any instances published in it: with an
instance there, the form is that of the instance, and filled in for it where the button is enabled;
and a submission under way captured one with the form, which was filled in for it when the button
was clicked, so that it passes one defined argument for each parameter of the method on its
chain. -/
theorem arguments_fit_chain {isApiReady : Bool} {es : List Event}
    (hrun : Run (step chain) anyEvent (mount chain start isApiReady) es h) :
    (∀ api, h.api = some api → FormFor chain start es.reverse api h.page ∧
      (h.page.SubmitEnabled → Filled chain start es.reverse api h.page.selectedModule
        h.page.selectedMethod h.page.methodParameters h.page.paramValues)) ∧
    ∀ (k : Nat) s, h.page.submissions[k]? = some s → ∃ api, h.apis[k]? = some api ∧
      FilledSubmission chain start es.reverse s api ∧
      s.processedParams.length = s.methodParameters.length ∧ .undefined ∉ s.processedParams := by
  have hf := fits_run hrun
  refine ⟨fun api hapi => ⟨hf.formFor hapi, (hf.formFor hapi).filled⟩, fun k s hk => ?_⟩
  obtain ⟨hlen, hget⟩ := List.forall₂_iff_get.mp hf.submissions
  obtain ⟨hk', rfl⟩ := List.getElem?_eq_some_iff.mp hk
  rw [List.length_map] at hlen
  have hapis : k < h.apis.length := hlen ▸ hk'
  have hfilled : FilledSubmission chain start es.reverse h.page.submissions[k] h.apis[k] := by
    have hclosure : FilledSubmission chain start es.reverse h.page.submissions[k].closure
        h.apis[k] := by
      simpa only [List.get_eq_getElem, List.getElem_map] using
        hget k (by rwa [List.length_map]) hapis
    exact hclosure
  obtain ⟨before, hb, ha⟩ := hfilled
  exact ⟨h.apis[k], List.getElem?_eq_getElem hapis, ⟨before, hb, ha⟩,
    processedParams_length _, ha.defined⟩

/-- A chain with one module of one method. -/
def oneMethod : Chain where
  api := noMetadata
  modules := .ok ["balances", "$metadata"]
  methods _ := .ok ["transferKeepAlive"]

/-- The chain is changed while a transfer is filled in; what was typed is gone, and typed again. -/
theorem arguments_fit_chain_changed :
    ∃ h, Run (step fun _ => oneMethod) anyEvent (mount (fun _ => oneMethod) none false)
        [.context (some ⟨0, "wss://rpc.polkadot.io"⟩) true [], .page .connectWallet,
          .page (.walletEnabled 0 (.ok 1)), .page (.walletListed 0 (.ok [⟨"5Grw", "polkadot-js"⟩])),
          .page (.moduleChange "balances"), .page (.methodChange "transferKeepAlive" []),
          .page (.paramChange 0 "5Fhn"), .context (some ⟨1, "wss://kusama-rpc.polkadot.io"⟩) true [],
          .page (.paramChange 1 "10"), .page (.paramChange 0 "5Dor"), .page .submit] h ∧
      ∀ (k : Nat) s, h.page.submissions[k]? = some s → ∃ api, h.apis[k]? = some api ∧
        s.processedParams.length = s.methodParameters.length ∧ .undefined ∉ s.processedParams :=
  exists_run_and (by decide) fun _ hrun k s hk =>
    let ⟨api, hapi, _, hlen, hdef⟩ := (arguments_fit_chain hrun).2 k s hk
    ⟨api, hapi, hlen, hdef⟩

end Hosted

end SubstrateDevTemplate.Extrinsics
