import SubstrateDevTemplate.ChainState.Hosted
import SubstrateDevTemplate.EndpointSelector.Definitions
import SubstrateDevTemplate.Extrinsics.Hosted
import SubstrateDevTemplate.Transfer.Frames

/-!
# App — Definitions

The whole of `App.tsx`: `ApiProvider`, and under it the page the router shows, of the four there
are.

The page that is shown is told of what the provider publishes after each of its events.  The
endpoint selector is on the Home page only; the other pages are mounted anew when they are entered.
A page that is left is unmounted: its timers and effects are gone, and what it shows, but not what
its handlers wait for, so that a transaction that was waiting for its injector is still signed.
Reloading the page ends that too.

`Chains` is what the pages read of the instances.
-/

namespace SubstrateDevTemplate.App
open Service (ApiPromise)
open Context (Provider)
open EndpointSelector (Home)

/-- What the pages read of a connected `ApiPromise`, and `formatBalance` of `@polkadot/util`. -/
structure Chains where
  transfer : ApiPromise → Transfer.Chain
  extrinsics : ApiPromise → Extrinsics.Chain
  query : ApiPromise → Except String (Catalogue.Table Catalogue.StorageTests)
  formatBalance : Nat → String → Nat → String

/-- The routes of `App.tsx`. -/
inductive Route where
  | home | chainState | extrinsics | transfer
  deriving DecidableEq

/-- The page that is shown; results of queries are in `ρ`.  The Home page's selector is kept with
the provider. -/
inductive Screen (ρ : Type*) where
  | home
  | chainState (h : ChainState.Hosted ρ)
  | extrinsics (h : Extrinsics.Hosted)
  | transfer (p : Transfer.Page)

/-- An event of the page that is shown, or of one that was. -/
inductive PageEvent (ρ : Type*) where
  | chainState (e : ChainState.Event ρ)
  | extrinsics (e : Extrinsics.Event)
  | transfer (e : Transfer.Event)

namespace PageEvent
variable {ρ : Type*}

/-- A handler that has awaited goes on, where that matters to a page that has been left: one of a
submission. -/
def goesOn : PageEvent ρ → Bool
  | .chainState _ => false
  | .extrinsics (.injected _ _) | .extrinsics (.sent _ _) | .extrinsics (.notified _ _) => true
  | .extrinsics _ => false
  | .transfer (.injected _ _) | .transfer (.sent _ _) | .transfer (.notified _ _) => true
  | .transfer _ => false

/-- The button that submits is clicked. -/
def submits : PageEvent ρ → Bool
  | .extrinsics .submit | .transfer .submit => true
  | _ => false

end PageEvent

namespace Screen
variable {ρ : Type*} (chains : Chains)

def route : Screen ρ → Route
  | .home => .home
  | .chainState _ => .chainState
  | .extrinsics _ => .extrinsics
  | .transfer _ => .transfer

/-- The page of a route, mounted. -/
def mount (api : Option ApiPromise) (isApiReady : Bool) : Route → Screen ρ
  | .home => .home
  | .chainState => .chainState (.mount chains.query api isApiReady)
  | .extrinsics => .extrinsics (.mount chains.extrinsics api isApiReady)
  | .transfer => .transfer (.mount chains.transfer api isApiReady)

/-- The page that is shown is told what the provider publishes. -/
def context (api : Option ApiPromise) (isApiReady : Bool) (suffixes : List String)
    (s : Screen ρ) : Screen ρ :=
  match s with
  | .home => .home
  | .chainState h =>
      ((h.step chains.query (.context api isApiReady)).map Screen.chainState).getD s
  | .extrinsics h =>
      ((h.step chains.extrinsics (.context api isApiReady suffixes)).map Screen.extrinsics).getD s
  | .transfer p =>
      ((Transfer.step chains.transfer chains.formatBalance p (.context api isApiReady)).map
        Screen.transfer).getD s

/-- An event of the page that is shown. -/
def step : Screen ρ → PageEvent ρ → Option (Screen ρ)
  | .chainState h, .chainState e => (h.step chains.query (.page e)).map .chainState
  | .extrinsics h, .extrinsics e => (h.step chains.extrinsics (.page e)).map .extrinsics
  -- the context is the provider's
  | .transfer _, .transfer (.context _ _) => none
  | .transfer p, .transfer e =>
      (Transfer.step chains.transfer chains.formatBalance p e).map .transfer
  | _, _ => none

/-- An event of a page that has been left. -/
def goOn (s : Screen ρ) (e : PageEvent ρ) : Option (Screen ρ) :=
  if e.goesOn then
    match s, e with
    | .extrinsics h, .extrinsics e => (h.handle chains.extrinsics e).map .extrinsics
    | .transfer p, .transfer e =>
        (Transfer.handle chains.transfer chains.formatBalance p e).map .transfer
    | _, _ => none
  else none

end Screen

/-- The provider with the selector, the page that is shown, and those that have been left. -/
structure State (ρ : Type*) where
  home : Home
  screen : Screen ρ
  left : List (Screen ρ)

variable {ρ : Type*}

def State.provider (a : State ρ) : Provider := a.home.provider

/-- The page, loaded at a route. -/
def State.load (chains : Chains) (savedEndpoint env : Option String) (route : Route) : State ρ where
  home := .load savedEndpoint env
  screen := .mount chains none false route
  left := []

/-- Something happens to the provider or the selector, with the suffixes of the parameter effect
that may follow; a link is followed; something happens to the page that is shown, or to one that has
been left. -/
inductive Event (ρ : Type*) where
  | home (e : EndpointSelector.Event) (suffixes : List String)
  | navigate (route : Route)
  | page (e : PageEvent ρ)
  | left (k : Nat) (e : PageEvent ρ)

section
variable (chains : Chains) (wsProviderError : String → Option String) (env : Option String)

/-- An event of the provider or of the selector, of which the page that is shown is told. -/
def State.homeStep (a : State ρ) (e : EndpointSelector.Event) (suffixes : List String) :
    Option (State ρ) :=
  (EndpointSelector.step wsProviderError env a.home e).map fun home =>
    { a with
      home := home
      screen := a.screen.context chains home.provider.api home.provider.isApiReady suffixes }

/-- The page is loaded again, at the route it is at. -/
def State.reload (a : State ρ) : Option (State ρ) :=
  (EndpointSelector.step wsProviderError env a.home .reload).map fun home =>
    { home := home
      screen := .mount chains home.provider.api home.provider.isApiReady a.screen.route
      left := [] }

/-- Another page is entered. -/
def State.navigate (a : State ρ) (route : Route) : Option (State ρ) :=
  let entered := if route = .home then EndpointSelector.step wsProviderError env a.home .mount
    else some a.home
  entered.map fun home =>
    { home := home
      screen := .mount chains home.provider.api home.provider.isApiReady route
      left := a.left ++ [a.screen] }

def step (a : State ρ) : Event ρ → Option (State ρ)
  | .home (.provider e) suffixes =>
      a.homeStep chains wsProviderError env (.provider e) suffixes
  | .home .reload _ => a.reload chains wsProviderError env
  -- the selector is mounted by the router
  | .home .mount _ => none
  | .home e suffixes =>
      if a.screen.route = .home then a.homeStep chains wsProviderError env e suffixes else none
  | .navigate route =>
      if route = a.screen.route then none else a.navigate chains wsProviderError env route
  | .page e => (a.screen.step chains e).map fun screen => { a with screen := screen }
  | .left k e =>
      (a.left[k]?).bind fun s => (s.goOn chains e).map fun s' => { a with left := a.left.set k s' }

end

end SubstrateDevTemplate.App
