import SubstrateDevTemplate.Support.Runs
import SubstrateDevTemplate.ChainState.Definitions
import SubstrateDevTemplate.Extrinsics.Steps

/-!
# ParamInput — what is shown and what is sent

The text of an input is held twice, by the input and by the page.  Typing changes both.  The pages
empty their own copy in several handlers, and the input keeps its text wherever its key (the
parameter's name and index) is rendered again.

* `chainState_step_iff`, `extrinsics_step_iff`: from a state in which the two copies agree, an
  event keeps them so exactly when no input that keeps its text has one, where the page empties
  its copy (`ChainState.Keeps`, `Extrinsics.Keeps`).
* `inputs_show_values`: the same along runs of either page.
-/

namespace SubstrateDevTemplate.ParamInput
open Inputs (Input reconcile typed Shows KeepsNoText)
open Transition

namespace Screen
variable {π ε : Type*} {keys : π → List String} {handle : π → ε → Option π} {flush : ε → π → π → π}
  {typedAt : ε → Option (Nat × String)}

/-- The inputs are the ones the page renders. -/
def Aligned (keys : π → List String) (s : Screen π) : Prop := s.inputs.map Input.key = keys s.page

/-- The inputs show the page's values. -/
def Agrees (values : π → List (Option String)) (s : Screen π) : Prop :=
  Inputs.Shows s.inputs (values s.page)

theorem aligned_step {s s' : Screen π} {e : ε}
    (h : s.step keys handle flush typedAt e = some s') : s'.Aligned keys := by
  obtain ⟨p, -, rfl⟩ := Option.map_eq_some_iff.mp h
  exact Inputs.map_key_reconcile _ _

/-- What an event makes of the page and of the inputs. -/
theorem step_eq {s s' : Screen π} {e : ε} {p : π}
    (h : s.step keys handle flush typedAt e = some s') (hp : handle s.page e = some p) :
    s'.page = flush e s.page p ∧ s'.inputs = reconcile (keys (flush e s.page p))
      (reconcile (keys p) ((typedAt e).elim s.inputs fun t => typed t.1 t.2 s.inputs)) := by
  obtain ⟨p', hp', rfl⟩ := Option.map_eq_some_iff.mp h
  obtain rfl := Option.some.inj (hp.symm.trans hp')
  exact ⟨rfl, rfl⟩

/-- An event that no effect follows, and that leaves the keys alone, changes the inputs only by what
is typed. -/
theorem inputs_eq {s s' : Screen π} {e : ε} {p : π} (ha : s.Aligned keys)
    (h : s.step keys handle flush typedAt e = some s') (hp : handle s.page e = some p)
    (hf : flush e s.page p = p) (hk : keys p = keys s.page) :
    s'.page = p ∧ s'.inputs = (typedAt e).elim s.inputs fun t => typed t.1 t.2 s.inputs := by
  obtain ⟨h₁, h₂⟩ := step_eq h hp
  have hkeys : ((typedAt e).elim s.inputs fun t => typed t.1 t.2 s.inputs).map Input.key =
      keys s.page := by
    cases typedAt e with
    | none => exact ha
    | some t => exact (Inputs.map_key_typed ..).trans ha
  refine ⟨h₁.trans hf, ?_⟩
  rw [h₂, hf, hk, Inputs.reconcile_reconcile, ← hkeys, Inputs.reconcile_map_key]

/-- Nothing is typed, and no value changes. -/
theorem Agrees.same {values : π → List (Option String)} {s s' : Screen π} {e : ε} {p : π}
    (hs : s.Agrees values) (ha : s.Aligned keys)
    (h : s.step keys handle flush typedAt e = some s') (hp : handle s.page e = some p)
    (hf : flush e s.page p = p) (hk : keys p = keys s.page) (ht : typedAt e = none)
    (hv : values p = values s.page) : s'.Agrees values := by
  obtain ⟨h₁, h₂⟩ := inputs_eq ha h hp hf hk
  rw [ht] at h₂
  rw [Agrees, h₁, h₂, hv]
  exact hs

/-- What is typed into an input is assigned to its value. -/
theorem Agrees.typed {values : π → List (Option String)} {s s' : Screen π} {e : ε} {p : π}
    {t : Nat × String} (hs : s.Agrees values) (ha : s.Aligned keys)
    (h : s.step keys handle flush typedAt e = some s') (hp : handle s.page e = some p)
    (hf : flush e s.page p = p) (hk : keys p = keys s.page) (ht : typedAt e = some t)
    (hv : values p = Js.assign (values s.page) t.1 t.2) : s'.Agrees values := by
  obtain ⟨h₁, h₂⟩ := inputs_eq ha h hp hf hk
  rw [ht] at h₂
  rw [Agrees, h₁, h₂, hv]
  exact Inputs.shows_typed hs t.1 t.2

end Screen

end SubstrateDevTemplate.ParamInput

/-! ### ChainState -/

namespace SubstrateDevTemplate.ChainState
open ParamInput (Screen)
open Inputs (KeepsNoText)

variable {ρ : Type*}

/-- What an event types, and where. -/
def Event.typed : Event ρ → Option (Nat × String)
  | .paramChange index value => some (index, value)
  | _ => none

/-- One event of the page and its inputs; the page has no effects. -/
def screenStep (modules : List ChainStateModule) (s : Screen (Page ρ)) (e : Event ρ) :
    Option (Screen (Page ρ)) :=
  s.step (Page.keys modules) (step modules) (fun _ _ p => p) Event.typed e

/-- A method is selected when no input has a text that its parameters' inputs would keep. -/
def Keeps (modules : List ChainStateModule) (s : Screen (Page ρ)) : Event ρ → Prop
  | .methodChange newMethod =>
      KeepsNoText (Page.keys modules { s.page with selectedMethod := newMethod }) s.inputs
  | _ => True

instance (modules : List ChainStateModule) (s : Screen (Page ρ)) :
    (e : Event ρ) → Decidable (Keeps modules s e)
  | .methodChange _ => inferInstanceAs (Decidable (KeepsNoText _ _))
  | .moduleChange _ | .paramChange _ _ | .query | .settled _ _ => isTrue trivial

/-- Everything an event can do. -/
theorem step_cases {modules : List ChainStateModule} {p p' : Page ρ} {e : Event ρ}
    (h : step modules p e = some p') :
    (∃ newModule, e = .moduleChange newModule ∧ p' = p.handleModuleChange newModule) ∨
    (∃ newMethod, e = .methodChange newMethod ∧ p' = p.handleMethodChange newMethod) ∨
    (∃ index value, e = .paramChange index value ∧ p' = p.handleParamChange index value) ∨
    (e = .query ∧ p' = p.handleQuery modules) ∨
    (∃ k outcome, e = .settled k outcome ∧ p' = p.querySettled k outcome) := by
  cases e with
  | moduleChange newModule =>
      cases h
      exact .inl ⟨newModule, rfl, rfl⟩
  | methodChange newMethod =>
      simp only [step] at h
      split at h
      · cases h
      · cases h; exact .inr (.inl ⟨newMethod, rfl, rfl⟩)
  | paramChange index value =>
      simp only [step] at h
      split at h
      · cases h; exact .inr (.inr (.inl ⟨index, value, rfl, rfl⟩))
      · cases h
  | query =>
      simp only [step] at h
      split at h
      · cases h
      · cases h; exact .inr (.inr (.inr (.inl ⟨rfl, rfl⟩)))
  | settled k outcome =>
      simp only [step] at h
      split at h
      · cases h; exact .inr (.inr (.inr (.inr ⟨k, outcome, rfl, rfl⟩)))
      · cases h

/-- **One event.** -/
theorem chainState_step_iff {modules : List ChainStateModule} {s s' : Screen (Page ρ)}
    {e : Event ρ} (ha : s.Aligned (Page.keys modules)) (hs : s.Agrees Page.params)
    (h : screenStep modules s e = some s') : s'.Agrees Page.params ↔ Keeps modules s e := by
  obtain ⟨p, hp, -⟩ := Option.map_eq_some_iff.mp h
  obtain ⟨hpage, hinputs⟩ := Screen.step_eq h hp
  rcases step_cases hp with ⟨newModule, rfl, rfl⟩ | ⟨newMethod, rfl, rfl⟩ |
      ⟨index, value, rfl, rfl⟩ | ⟨rfl, rfl⟩ | ⟨k, outcome, rfl, rfl⟩
  · -- without a method there are no inputs
    rw [Screen.Agrees, hinputs]
    exact iff_of_true (Inputs.shows_nil _) trivial
  · -- the page is rendered twice with the new method's parameters
    rw [Screen.Agrees, hinputs, hpage, Inputs.reconcile_reconcile]
    exact Inputs.shows_cleared_iff (fun _ => rfl) _ s.inputs
  · exact iff_of_true (hs.typed ha h hp rfl rfl rfl rfl) trivial
  · exact iff_of_true (hs.same ha h hp rfl rfl rfl rfl) trivial
  · refine iff_of_true ?_ trivial
    cases outcome with
    | ok result => exact hs.same ha h hp rfl rfl rfl rfl
    | error message => exact hs.same ha h hp rfl rfl rfl rfl

end SubstrateDevTemplate.ChainState

/-! ### Extrinsics -/

namespace SubstrateDevTemplate.Extrinsics
open ParamInput (Screen Param inputKeys)
open Inputs (KeepsNoText)

/-- What an event types, and where. -/
def Event.typed : Event → Option (Nat × String)
  | .paramChange index value => some (index, value)
  | _ => none

/-- One event of the page and its inputs. -/
def screenStep (api : Api) (s : Screen Page) (e : Event) : Option (Screen Page) :=
  s.step Page.keys (handle api) (flush api) Event.typed e

/-- The parameters there are after `newMethod` has been selected. -/
def nextParameters (api : Api) (p : Page) (newMethod : String) (suffixes : List String) :
    List Param :=
  if newMethod = p.selectedMethod then p.methodParameters
  else (parametersOf (some api) suffixes p.selectedModule newMethod).getD p.methodParameters

/-- A method is selected when no input has a text that its parameters' inputs would keep, and the
form is submitted when no input has a text. -/
def Keeps (api : Api) (s : Screen Page) : Event → Prop
  | .methodChange newMethod suffixes => newMethod ≠ "" →
      KeepsNoText (inputKeys (nextParameters api s.page newMethod suffixes)) s.inputs
  | .submit => ∀ input ∈ s.inputs, input.value = ""
  | _ => True

instance (api : Api) (s : Screen Page) : (e : Event) → Decidable (Keeps api s e)
  | .methodChange _ _ => inferInstanceAs (Decidable (_ → KeepsNoText _ _))
  | .submit => inferInstanceAs (Decidable (∀ input ∈ _, _))
  | .moduleChange _ | .paramChange _ _ | .accountChange _ | .connectWallet | .walletEnabled _ _
  | .walletListed _ _ | .injected _ _ | .sent _ _ | .notified _ _ => isTrue trivial

variable {api : Api}

/-- The keys after a selection are the new parameters'. -/
theorem keys_methodChange {p : Page} {newMethod : String} (hne : newMethod ≠ "")
    (suffixes : List String) :
    (flush api (.methodChange newMethod suffixes) p (p.handleMethodChange newMethod)).keys =
      inputKeys (nextParameters api p newMethod suffixes) := by
  unfold flush nextParameters
  by_cases he : newMethod = p.selectedMethod
  · rw [if_pos ⟨rfl, he⟩, if_pos he, Page.keys]
    exact if_neg hne
  · rw [if_neg (fun h => he h.2), if_neg he, Page.parameterEffect]
    have hparams : parametersOf (some api) (Event.methodChange newMethod suffixes).suffixes
        (p.handleMethodChange newMethod).selectedModule
        (p.handleMethodChange newMethod).selectedMethod =
        parametersOf (some api) suffixes p.selectedModule newMethod := rfl
    rw [hparams]
    cases parametersOf (some api) suffixes p.selectedModule newMethod with
    | none => exact if_neg hne
    | some params => exact if_neg hne

variable (api) in
/-- Without a method there are no inputs. -/
theorem keys_unselected (e : Event) (before : Page) {p : Page} (hp : p.selectedMethod = "")
    (hv : p.paramValues = []) : p.keys = [] ∧ (flush api e before p).keys = [] := by
  refine ⟨if_pos hp, if_pos ?_⟩
  rw [(flush_reset api e before hv).2.1, hp]

/-- A selection empties the values.  The page renders the inputs there were under their keys, before
the effect has set the new parameters. -/
theorem methodChange_iff {s s' : Screen Page} {newMethod : String} {suffixes : List String}
    (ha : s.Aligned Page.keys)
    (h : screenStep api s (.methodChange newMethod suffixes) = some s')
    (hp : handle api s.page (.methodChange newMethod suffixes) =
      some (s.page.handleMethodChange newMethod)) :
    s'.Agrees Page.paramValues ↔ Keeps api s (.methodChange newMethod suffixes) := by
  obtain ⟨hpage, hinputs⟩ := Screen.step_eq h hp
  obtain ⟨-, -, -, -, hempty⟩ := flush_reset api
    (.methodChange newMethod suffixes) s.page (p := s.page.handleMethodChange newMethod) rfl
  rw [Screen.Agrees, hpage, hinputs]
  by_cases hne : newMethod = ""
  · -- the inputs are gone
    obtain ⟨h₁, h₂⟩ := keys_unselected api (.methodChange newMethod suffixes) s.page
      (p := s.page.handleMethodChange newMethod) hne rfl
    rw [h₂]
    exact iff_of_true (Inputs.shows_nil _) fun h => absurd hne h
  · rw [Inputs.shows_cleared_iff hempty, keys_methodChange hne]
    have hfirst : (s.page.handleMethodChange newMethod).keys = inputKeys s.page.methodParameters :=
      if_neg hne
    by_cases hsel : s.page.selectedMethod = ""
    · -- there were none, so the ones rendered first have no text
      have hnil : s.inputs = [] := List.map_eq_nil_iff.mp (ha.trans (if_pos hsel))
      have hnone : ∀ input ∈ Inputs.reconcile (inputKeys s.page.methodParameters) [],
          input.value = "" :=
        (Inputs.shows_empty_iff hempty _).mp
          ((Inputs.shows_cleared_iff hempty _ _).mpr (by intro x hx; cases hx))
      refine iff_of_true ?_ fun _ => ?_
      · intro x hx _
        rw [hfirst, hnil] at hx
        exact hnone x.1 (List.fst_mem_of_mem_zipIdx hx)
      · rw [hnil]
        intro x hx
        cases hx
    · have hkeys : (s.page.handleMethodChange newMethod).keys = s.page.keys :=
        hfirst.trans (if_neg hsel).symm
      have hinputs' : Inputs.reconcile (s.page.handleMethodChange newMethod).keys s.inputs =
          s.inputs := by
        have ha' : s.inputs.map Inputs.Input.key = s.page.keys := ha
        rw [hkeys, ← ha', Inputs.reconcile_map_key]
      rw [show (Event.methodChange newMethod suffixes).typed = none from rfl, Option.elim_none,
        hinputs']
      exact ⟨fun h _ => h, fun h => h hne⟩

/-- **One event.** -/
theorem extrinsics_step_iff {s s' : Screen Page} {e : Event} (ha : s.Aligned Page.keys)
    (hs : s.Agrees Page.paramValues) (h : screenStep api s e = some s') :
    s'.Agrees Page.paramValues ↔ Keeps api s e := by
  obtain ⟨p, hp, -⟩ := Option.map_eq_some_iff.mp h
  rcases handle_cases hp with ⟨index, value, rfl, -, rfl⟩ | ⟨newModule, rfl, rfl⟩ |
      ⟨newMethod, suffixes, rfl, rfl⟩ | ⟨rfl, hen, rfl⟩ | ⟨hq, hsame⟩
  · exact iff_of_true (hs.typed ha h hp (flush_same api _ rfl rfl) rfl rfl rfl) trivial
  · refine iff_of_true ?_ trivial
    obtain ⟨-, hinputs⟩ := Screen.step_eq h hp
    obtain ⟨-, h₂⟩ := keys_unselected api (.moduleChange newModule) s.page
      (p := s.page.handleModuleChange newModule) rfl rfl
    rw [Screen.Agrees, hinputs, h₂]
    exact Inputs.shows_nil _
  · exact methodChange_iff ha h hp
  · -- the inputs stay, and the values go
    obtain ⟨h₁, h₂, h₃, h₄, -⟩ := handleSubmit_cases hen
    have hk : s.page.handleSubmit.keys = s.page.keys := by rw [Page.keys, Page.keys, h₂, h₃]
    obtain ⟨e₁, e₂⟩ := Screen.inputs_eq ha h hp (flush_same api _ h₁ h₂) hk
    rw [Screen.Agrees, e₁, e₂, h₄]
    exact Inputs.shows_empty_iff (fun _ => rfl) s.inputs
  · have hflush := flush_same api e hsame.selectedModule hsame.selectedMethod
    refine iff_of_true (hs.same ha h hp hflush hsame.keys ?_ hsame.paramValues) ?_
    · cases e with
      | paramChange => cases hq
      | moduleChange | methodChange | submit | accountChange | connectWallet | walletEnabled
      | walletListed | injected | sent | notified => rfl
    · cases e with
      | methodChange | submit => cases hq
      | moduleChange | paramChange | accountChange | connectWallet | walletEnabled
      | walletListed | injected | sent | notified => trivial

end SubstrateDevTemplate.Extrinsics

/-! ### Runs of either page -/

namespace SubstrateDevTemplate.ParamInput
open Transition

/-- **What the form shows is what is sent**, in runs that keep no text where the page empties its
values; and an event after such a run leaves the two copies agreeing exactly when it keeps none. -/
theorem inputs_show_values {ρ : Type*} :
    (∀ (modules : List ChainState.ChainStateModule) (es : List (ChainState.Event ρ))
        (s : Screen (ChainState.Page ρ)),
      Run (ChainState.screenStep modules) (ChainState.Keeps modules) ⟨.init, []⟩ es s →
        s.Agrees ChainState.Page.params ∧
        ∀ e s', ChainState.screenStep modules s e = some s' →
          (s'.Agrees ChainState.Page.params ↔ ChainState.Keeps modules s e)) ∧
    (∀ (api : Extrinsics.Api) (es : List Extrinsics.Event) (s : Screen Extrinsics.Page),
      Run (Extrinsics.screenStep api) (Extrinsics.Keeps api) ⟨.init, []⟩ es s →
        s.Agrees Extrinsics.Page.paramValues ∧
        ∀ e s', Extrinsics.screenStep api s e = some s' →
          (s'.Agrees Extrinsics.Page.paramValues ↔ Extrinsics.Keeps api s e)) := by
  constructor
  · intro modules es s h
    have hs : s.Aligned (ChainState.Page.keys modules) ∧ s.Agrees ChainState.Page.params := by
      refine h.invariant (I := fun s => s.Aligned (ChainState.Page.keys modules) ∧
        s.Agrees ChainState.Page.params) ?_ ⟨rfl, Inputs.shows_nil _⟩
      intro s e s' hs hg hst
      exact ⟨Screen.aligned_step hst, (ChainState.chainState_step_iff hs.1 hs.2 hst).mpr hg⟩
    exact ⟨hs.2, fun e s' hst => ChainState.chainState_step_iff hs.1 hs.2 hst⟩
  · intro api es s h
    have hs : s.Aligned Extrinsics.Page.keys ∧ s.Agrees Extrinsics.Page.paramValues := by
      refine h.invariant (I := fun s => s.Aligned Extrinsics.Page.keys ∧
        s.Agrees Extrinsics.Page.paramValues) ?_ ⟨rfl, Inputs.shows_nil _⟩
      intro s e s' hs hg hst
      exact ⟨Screen.aligned_step hst, (Extrinsics.extrinsics_step_iff hs.1 hs.2 hst).mpr hg⟩
    exact ⟨hs.2, fun e s' hst => Extrinsics.extrinsics_step_iff hs.1 hs.2 hst⟩

/-- A storage module with two maps. -/
def systemModule : List ChainState.ChainStateModule :=
  [⟨"system", [⟨"account", [⟨"key", "Codec", false⟩]⟩, ⟨"blockHash", [⟨"key", "Codec", false⟩]⟩]⟩]

/-- Text typed and cleared again before another method is selected. -/
theorem inputs_show_values_cleared :
    ((exec (ChainState.screenStep systemModule) (ChainState.Keeps systemModule) ⟨.init, []⟩
      [.moduleChange "system", .methodChange "account", .paramChange 0 "5Grw", .query,
        .settled 0 (.ok "free: 1"), .paramChange 0 "", .methodChange "blockHash",
        .paramChange 0 "7"]).get (by decide)).Agrees ChainState.Page.params ∧
    ((exec (Extrinsics.screenStep Extrinsics.noMetadata)
      (Extrinsics.Keeps Extrinsics.noMetadata) ⟨.init, []⟩
      [.moduleChange "balances", .methodChange "transferKeepAlive" [], .paramChange 1 "10",
        .methodChange "burn" [], .paramChange 0 "1"]).get (by decide)).Agrees
      Extrinsics.Page.paramValues :=
  ⟨((inputs_show_values (ρ := String)).1 _ _ _ (run_of_exec (Option.some_get _).symm)).1,
    ((inputs_show_values (ρ := String)).2 _ _ _ (run_of_exec (Option.some_get _).symm)).1⟩

/-- **The text stays behind.**  On either page, the text typed for one method is shown again for the
next one whose parameter has the same name and index, while the page has no value for it. -/
theorem inputs_show_stale :
    (∃ s : Screen (ChainState.Page String), Run (ChainState.screenStep systemModule) anyEvent
        ⟨.init, []⟩ [.moduleChange "system", .methodChange "account", .paramChange 0 "5Grw",
          .methodChange "blockHash"] s ∧
      s.inputs = [⟨"key-0", "5Grw"⟩] ∧ s.page.params = [] ∧ ¬ s.Agrees ChainState.Page.params) ∧
    ∃ s : Screen Extrinsics.Page, Run (Extrinsics.screenStep Extrinsics.noMetadata) anyEvent
        ⟨.init, []⟩ [.moduleChange "balances", .methodChange "transferAllowDeath" [],
          .paramChange 0 "5Grw", .methodChange "transferKeepAlive" []] s ∧
      s.inputs = [⟨"dest-0", "5Grw"⟩, ⟨"value-1", ""⟩] ∧
      s.page.paramValues = [some "", some ""] ∧ ¬ s.Agrees Extrinsics.Page.paramValues := by
  constructor
  · refine exists_run_of (P := fun s : Screen (ChainState.Page String) =>
      s.inputs = [⟨"key-0", "5Grw"⟩] ∧ s.page.params = []) (by decide) ?_
    intro s ⟨hi, hv⟩
    refine ⟨hi, hv, fun h => ?_⟩
    have hshown := h 0 ⟨"key-0", "5Grw"⟩ (by rw [hi]; rfl)
    rw [hv] at hshown
    revert hshown
    decide
  · refine exists_run_of (P := fun s : Screen Extrinsics.Page =>
      s.inputs = [⟨"dest-0", "5Grw"⟩, ⟨"value-1", ""⟩] ∧
      s.page.paramValues = [some "", some ""]) (by decide) ?_
    intro s ⟨hi, hv⟩
    refine ⟨hi, hv, fun h => ?_⟩
    have hshown := h 0 ⟨"dest-0", "5Grw"⟩ (by rw [hi]; rfl)
    rw [hv] at hshown
    revert hshown
    decide

end SubstrateDevTemplate.ParamInput
