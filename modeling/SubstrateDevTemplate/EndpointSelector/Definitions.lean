import SubstrateDevTemplate.Context.Attempts

/-!
# EndpointSelector — Definitions

The endpoint selector of the Home page, `components/common/EndpointSelector.tsx`, over the provider:
its three state variables, the effect that follows the published endpoint, and its handlers.

`step` is one event of the two, with the effect run after it where the endpoint has changed.
Leaving the Home page and coming back mounts the selector anew; reloading the page loads the service
anew, from the endpoint that is stored.
-/

namespace SubstrateDevTemplate.EndpointSelector
open Context (Provider)

/-- `PREDEFINED_ENDPOINTS`. -/
def predefinedEndpoints : List (String × String) :=
  [("Local Node", "ws://127.0.0.1:41689"),
    ("Polkadot", "wss://rpc.polkadot.io"),
    ("Kusama", "wss://kusama-rpc.polkadot.io"),
    ("Westend", "wss://westend-rpc.polkadot.io"),
    ("Rococo", "wss://rococo-rpc.polkadot.io")]

/-- The options of the select. -/
def options : List String := predefinedEndpoints.map Prod.fst ++ ["custom"]

/-- The selector's state. -/
structure Selector where
  customEndpoint : String
  selectedEndpoint : String
  showCustom : Bool
  deriving DecidableEq

/-- The selector as it is rendered first. -/
def Selector.init : Selector where
  customEndpoint := ""
  selectedEndpoint := "custom"
  showCustom := false

/-- The effect, which depends on the endpoint. -/
def Selector.endpointEffect (s : Selector) (endpoint : String) : Selector :=
  let foundKey := (predefinedEndpoints.find? fun entry => entry.2 = endpoint).map Prod.fst
  if Js.truthy foundKey then
    { s with selectedEndpoint := foundKey.getD "", showCustom := false }
  else
    { selectedEndpoint := "custom", customEndpoint := endpoint, showCustom := true }

/-- The provider, and the selector under it. -/
structure Home where
  provider : Provider
  selector : Selector
  deriving DecidableEq

/-- The page, loaded. -/
def Home.load (savedEndpoint env : Option String) : Home where
  provider := .load savedEndpoint env
  selector := Selector.init.endpointEffect (Provider.load savedEndpoint env).endpoint

/-- Another option is selected; the custom endpoint is edited; Connect is clicked; the Home page is
entered again; the page is reloaded; something happens to the provider. -/
inductive Event where
  | presetChange (selected : String)
  | customChange (value : String)
  | connectClick
  | mount
  | reload
  | provider (e : Context.Event)
  deriving DecidableEq

section
variable (wsProviderError : String → Option String) (env : Option String)

/-- `handleConnect`, which ignores an empty endpoint. -/
def Home.handleConnect (h : Home) (endpointToUse : String) : Option Home :=
  if endpointToUse = "" then some h
  else (Context.step wsProviderError h.provider (.handleConnect endpointToUse)).map fun provider =>
    { h with provider := provider }

/-- `handlePresetChange`. -/
def Home.handlePresetChange (h : Home) (selected : String) : Option Home :=
  if selected = "custom" then
    some { h with selector := { h.selector with selectedEndpoint := selected, showCustom := true } }
  else
    let h := { h with
      selector := { h.selector with selectedEndpoint := selected, showCustom := false } }
    let newEndpoint := predefinedEndpoints.lookup selected
    if Js.truthy newEndpoint then h.handleConnect wsProviderError (newEndpoint.getD "") else some h

/-- The handler of an event, where the page lets it happen. -/
def handle (h : Home) : Event → Option Home
  | .presetChange selected =>
      -- a select tells of a change only, to one of its options
      if selected ∈ options ∧ selected ≠ h.selector.selectedEndpoint then
        h.handlePresetChange wsProviderError selected
      else none
  | .customChange value =>
      if h.selector.showCustom = true then
        some { h with selector := { h.selector with customEndpoint := value } }
      else none
  | .connectClick =>
      if h.selector.showCustom = true ∧
          h.provider.connectDisabled h.selector.customEndpoint = false then
        h.handleConnect wsProviderError h.selector.customEndpoint
      else none
  | .mount => some { h with selector := Selector.init.endpointEffect h.provider.endpoint }
  | .reload => some (.load h.provider.service.state.localStorage env)
  -- the provider's `changeEndpoint` is called by the selector only
  | .provider (.handleConnect _) => none
  | .provider e => (Context.step wsProviderError h.provider e).map fun provider =>
      { h with provider := provider }

/-- The effect is run after a rendering with another endpoint. -/
def flush (before h : Home) : Home :=
  if h.provider.endpoint = before.provider.endpoint then h
  else { h with selector := h.selector.endpointEffect h.provider.endpoint }

/-- One event, with its effect. -/
def step (h : Home) (e : Event) : Option Home :=
  (handle wsProviderError env h e).map (flush h)

end

end SubstrateDevTemplate.EndpointSelector
