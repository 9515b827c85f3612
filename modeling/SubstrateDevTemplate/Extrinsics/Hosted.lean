import SubstrateDevTemplate.Support.Objects
import SubstrateDevTemplate.Service.Definitions
import SubstrateDevTemplate.Extrinsics.Steps

/-!
# Extrinsics — Hosted

The Extrinsics page under the provider, which may publish another instance at any time: the page's
part of `useApi()`, the lists the two selects offer, the error shown in place of the form, and the
instances the submissions under way have captured.

`chain api` is what the page reads of the instance `api`.  The three effects run after every event
their variables have changed in.  Fetching the modules does not wait for anything, so that
`isLoading` is never rendered.
-/

namespace SubstrateDevTemplate.Extrinsics
open Service (ApiPromise)

/-- What the page reads of a connected `ApiPromise`. -/
structure Chain where
  api : Api
  /-- `Object.keys(api.tx)`: what it throws, or what it lists -/
  modules : Except String (List String)
  /-- `Object.keys(api.tx[module])` -/
  methods : String → Except String (List String)

/-- What a submission that is clicked captures of the page. -/
def Page.clicked (p : Page) : Submission where
  selectedModule := p.selectedModule
  selectedMethod := p.selectedMethod
  methodParameters := p.methodParameters
  paramValues := p.paramValues
  selectedAccount := p.selectedAccount
  txEvents := p.txEvents
  stage := .failed

/-- The page, with what it has of the context.  `apis` are what the closures of the submissions
captured, in their order. -/
structure Hosted where
  page : Page
  api : Option ApiPromise
  isApiReady : Bool
  modules : List String
  methods : List String
  error : Option String
  apis : List ApiPromise

namespace Hosted

/-- The page as it is rendered first. -/
def init (api : Option ApiPromise) (isApiReady : Bool) : Hosted where
  page := .init
  api := api
  isApiReady := isApiReady
  modules := []
  methods := []
  error := none
  apis := []

/-! ### The effects -/

section
variable (chain : ApiPromise → Chain)

/-- The modules are fetched. -/
def modulesEffect (h : Hosted) : Hosted :=
  match h.api with
  | none => h
  | some api =>
      if h.isApiReady = false then h
      else
        match (chain api).modules with
        | .error message => { h with error := some message }
        | .ok modules =>
            { h with
              modules := (Js.sort modules).filter fun module =>
                decide (module ≠ "$metadata") && decide (module ≠ "council")
              error := none }

/-- The methods of the selected module are fetched. -/
def methodsEffect (h : Hosted) : Hosted :=
  match h.api with
  | none => { h with methods := [] }
  | some api =>
      if h.page.selectedModule = "" then { h with methods := [] }
      else
        match (chain api).methods h.page.selectedModule with
        | .error _ => { h with methods := [] }
        | .ok methods =>
            { h with methods := Js.sort (methods.filter fun method => !Js.startsWith method "$") }

/-- The parameter effect, with the instance there is. -/
def parameterEffect (suffixes : List String) (h : Hosted) : Hosted :=
  { h with page := h.page.parameterEffect (h.api.map fun api => (chain api).api) suffixes }

/-- The effects an event is followed by, each where a variable it depends on has changed. -/
def flush (suffixes : List String) (before h : Hosted) : Hosted :=
  let module := h.page.selectedModule ≠ before.page.selectedModule
  let method := h.page.selectedMethod ≠ before.page.selectedMethod
  let h₁ := if h.api ≠ before.api ∨ h.isApiReady ≠ before.isApiReady then h.modulesEffect chain
    else h
  let h₂ := if h.api ≠ before.api ∨ module then h₁.methodsEffect chain else h₁
  if h.api ≠ before.api ∨ module ∨ method then h₂.parameterEffect chain suffixes else h₂

/-- The page, mounted. -/
def mount (api : Option ApiPromise) (isApiReady : Bool) : Hosted :=
  (((init api isApiReady).modulesEffect chain).methodsEffect chain).parameterEffect chain []

end

/-! ### Events -/

/-- The form is rendered. -/
def FormShown (h : Hosted) : Prop := h.isApiReady = true ∧ h.error = none

instance (h : Hosted) : Decidable h.FormShown := inferInstanceAs (Decidable (_ ∧ _))

/-- What the page offers: its form, with the options of the selects.  What a handler waits for
comes whatever is rendered. -/
def Offers (h : Hosted) : Extrinsics.Event → Prop
  | .moduleChange newModule => h.FormShown ∧ newModule ∈ "" :: h.modules
  | .methodChange newMethod _ => h.FormShown ∧ newMethod ∈ "" :: h.methods
  | .paramChange _ _ | .accountChange _ | .connectWallet | .submit => h.FormShown
  | .walletEnabled _ _ | .walletListed _ _ | .injected _ _ | .sent _ _ | .notified _ _ => True

instance (h : Hosted) : (e : Extrinsics.Event) → Decidable (h.Offers e)
  | .moduleChange _ | .methodChange _ _ => inferInstanceAs (Decidable (_ ∧ _))
  | .paramChange _ _ | .accountChange _ | .connectWallet | .submit =>
      inferInstanceAs (Decidable h.FormShown)
  | .walletEnabled _ _ | .walletListed _ _ | .injected _ _ | .sent _ _ | .notified _ _ =>
      isTrue trivial

/-- The instance an event is handled with: the one its closure captured, or the one there is. -/
def apiFor (h : Hosted) : Extrinsics.Event → Option ApiPromise
  | .injected k _ => h.apis[k]?
  | _ => h.api

/-- The instances captured after an event has been handled: a submission that starts captures the
one there is. -/
def capture (h : Hosted) (p : Page) (api : ApiPromise) : List ApiPromise :=
  if h.page.submissions.length < p.submissions.length then h.apis ++ [api] else h.apis

/-- The handler of an event of the page. -/
def handle (chain : ApiPromise → Chain) (h : Hosted) (e : Extrinsics.Event) : Option Hosted :=
  if h.Offers e then
    match e, h.apiFor e with
    -- `handleSubmit` returns at once
    | .submit, none => if h.page.SubmitEnabled then some h else none
    | e, some api => (Extrinsics.handle (chain api).api h.page e).map fun p =>
        { h with page := p, apis := h.capture p api }
    -- no other event reads the instance
    | e, none => (Extrinsics.handle noMetadata h.page e).map fun p => { h with page := p }
  else none

/-- What happens to the page: the context has another api, or another readiness; or an event of the
page's own. -/
inductive Event where
  | context (api : Option ApiPromise) (isApiReady : Bool) (suffixes : List String)
  | page (e : Extrinsics.Event)

/-- One event, with its effects. -/
def step (chain : ApiPromise → Chain) (h : Hosted) : Event → Option Hosted
  | .context api isApiReady suffixes =>
      some (flush chain suffixes h { h with api := api, isApiReady := isApiReady })
  | .page e => (handle chain h e).map (flush chain e.suffixes h)

end Hosted

end SubstrateDevTemplate.Extrinsics
