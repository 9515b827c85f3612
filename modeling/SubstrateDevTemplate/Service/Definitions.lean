import Mathlib.Data.Finset.Basic
import SubstrateDevTemplate.Support.Script

/-!
# Service — Definitions

The connection service `services/polkadot/api.ts`: its two module variables `currentEndpoint` and
`api`, the stored endpoint, and the calls `initializeApi`, `changeEndpoint` and `disconnectApi`.

A call runs synchronously from one `await` to the next.  `Request.enter` is the code from the start
of a call to its first `await`, `Frame.resume` the code from one `await` to the next; each returns
the module state it leaves and how far the call got: suspended in a `Frame`, or settled with an
`Outcome`.  A `Config` is the module state with the calls in flight, and `step` lets any caller
start a call at any time and the awaits of the calls in flight complete in any order.

`@polkadot/api` is not part of the repository.  What the model takes of it:

* an `ApiPromise` belongs to the endpoint its `WsProvider` was constructed for; `ApiPromise.create`
  resolves with a connected instance, or stays pending;
* `new WsProvider(e)` throws an error, with the message `wsProviderError e`, or does not
  (`wsProviderError e = none`);
* `connect()` and `disconnect()` resolve; when `connect()` has resolved the instance is connected;
* `isConnected` follows the socket, which may close at any time, and which an instance that was
  not told to disconnect opens again.
-/

namespace SubstrateDevTemplate.Service

/-- An `ApiPromise`: its identity, and the endpoint of its `WsProvider`. -/
structure ApiPromise where
  id : Nat
  endpoint : String
  deriving DecidableEq

/-- `getDefaultEndpoint`, from the stored endpoint and `REACT_APP_WS_ENDPOINT`. -/
def getDefaultEndpoint (savedEndpoint env : Option String) : String :=
  if Js.truthy savedEndpoint then savedEndpoint.getD ""
  else if Js.truthy env then env.getD ""
  else ""

/-- The module's variables, the stored endpoint, and the instances' connections. -/
structure State where
  /-- `localStorage.getItem('polkadot_endpoint')` -/
  localStorage : Option String
  currentEndpoint : String
  api : Option ApiPromise
  /-- the number of instances constructed so far -/
  constructed : Nat
  /-- the instances constructed and not told to disconnect -/
  opened : Finset ApiPromise
  /-- the instances whose `isConnected` is true -/
  connected : Finset ApiPromise
  deriving DecidableEq

/-- The module as it is loaded. -/
def State.load (savedEndpoint env : Option String) : State where
  localStorage := savedEndpoint
  currentEndpoint := getDefaultEndpoint savedEndpoint env
  api := none
  constructed := 0
  opened := ∅
  connected := ∅

/-- `inst.disconnect()` is called. -/
def State.disconnect (s : State) (inst : ApiPromise) : State :=
  { s with opened := s.opened.erase inst }

/-- `inst`'s socket opens. -/
def State.connect (s : State) (inst : ApiPromise) : State :=
  { s with connected := insert inst s.connected }

/-- `inst`'s socket closes. -/
def State.close (s : State) (inst : ApiPromise) : State :=
  { s with connected := s.connected.erase inst }

/-- `if (endpoint) { currentEndpoint = endpoint; localStorage.setItem(…) }`. -/
def State.retarget (s : State) (endpoint : Option String) : State :=
  if Js.truthy endpoint then
    { s with currentEndpoint := endpoint.getD "", localStorage := endpoint }
  else s

/-- The instance the next `new WsProvider(wsEndpoint, 1000)` belongs to. -/
def State.nextInstance (s : State) (wsEndpoint : String) : ApiPromise :=
  ⟨s.constructed, wsEndpoint⟩

/-- `new WsProvider(wsEndpoint, 1000)` succeeds. -/
def State.construct (s : State) (wsEndpoint : String) : State :=
  { s with
    constructed := s.constructed + 1
    opened := insert (s.nextInstance wsEndpoint) s.opened }

/-- A call of the service.  `endpoint` is `none` where the argument is left out. -/
inductive Request where
  | initializeApi (endpoint : Option String)
  | disconnectApi
  deriving DecidableEq

/-- `changeEndpoint(newEndpoint)` is `initializeApi(newEndpoint)`. -/
def changeEndpoint (newEndpoint : String) : Request := .initializeApi (some newEndpoint)

/-- The `await` an `initializeApi` call is suspended at. -/
inductive Stage where
  /-- `await api.disconnect()` -/
  | disconnecting
  /-- `await ApiPromise.create({ provider, … })` -/
  | creating (inst : ApiPromise)
  /-- `await api.isReady`, after the creation -/
  | ready
  /-- `await api.connect()` -/
  | connecting (inst : ApiPromise)
  /-- `await api.isReady`, after the reconnection -/
  | reconnected
  deriving DecidableEq

/-- A suspended call: its argument, its local variable `wsEndpoint`, and where it is. -/
inductive Frame where
  | initializeApi (endpoint : Option String) (wsEndpoint : String) (stage : Stage)
  | disconnectApi
  deriving DecidableEq

/-- The call a frame belongs to. -/
def Frame.request : Frame → Request
  | .initializeApi endpoint _ _ => .initializeApi endpoint
  | .disconnectApi => .disconnectApi

/-- How a call settles.  `initializeApi` resolves with the value of the variable `api`. -/
inductive Outcome where
  | resolved (value : Option ApiPromise)
  | rejected (message : String)
  deriving DecidableEq

/-- How far a call gets before it yields. -/
inductive Progress where
  | suspended (frame : Frame)
  | settled (outcome : Outcome)
  deriving DecidableEq

/-- The message of the `TypeError` reading `isReady` of `null` throws. -/
def nullIsReady : String := "Cannot read properties of null (reading 'isReady')"

/-- What `new WsProvider(e)` throws on an endpoint that is not a WebSocket URL. -/
def schemeError (e : String) : Option String :=
  if Js.startsWith e "ws://" || Js.startsWith e "wss://" then none
  else some ("Endpoint should start with 'ws://', received '" ++ e ++ "'")

section
variable (wsProviderError : String → Option String)

/-- `initializeApi` from the check that the API is connected to its end. -/
def checkConnected (s : State) (endpoint : Option String) (wsEndpoint : String) :
    State × Progress :=
  match s.api with
  | none => (s, .settled (.resolved none))
  | some inst =>
      if inst ∈ s.connected then (s, .settled (.resolved (some inst)))
      else (s, .suspended (.initializeApi endpoint wsEndpoint (.connecting inst)))

/-- `initializeApi` from the update of the current endpoint to the creation of the API. -/
def establish (s : State) (endpoint : Option String) (wsEndpoint : String) : State × Progress :=
  match wsProviderError wsEndpoint with
  | some message => (s.retarget endpoint, .settled (.rejected message))
  | none =>
      ((s.retarget endpoint).construct wsEndpoint,
        .suspended (.initializeApi endpoint wsEndpoint
          (.creating ((s.retarget endpoint).nextInstance wsEndpoint))))

/-- A call from its start to its first `await`. -/
def Request.enter (s : State) : Request → State × Progress
  | .initializeApi endpoint =>
      let wsEndpoint := Js.or endpoint s.currentEndpoint
      match s.api with
      | none => establish wsProviderError s endpoint wsEndpoint
      | some inst =>
          -- the argument itself is compared, so a call without one disconnects
          if endpoint ≠ some s.currentEndpoint then
            (s.disconnect inst, .suspended (.initializeApi endpoint wsEndpoint .disconnecting))
          else checkConnected s endpoint wsEndpoint
  | .disconnectApi =>
      match s.api with
      | none => (s, .settled (.resolved none))
      | some inst => (s.disconnect inst, .suspended .disconnectApi)

/-- A call from the completion of the `await` it is suspended at to the next one. -/
def Frame.resume (s : State) : Frame → State × Progress
  | .initializeApi endpoint wsEndpoint .disconnecting =>
      establish wsProviderError { s with api := none } endpoint wsEndpoint
  | .initializeApi endpoint wsEndpoint (.creating inst) =>
      ({ s.connect inst with api := some inst },
        .suspended (.initializeApi endpoint wsEndpoint .ready))
  | .initializeApi endpoint wsEndpoint .ready => checkConnected s endpoint wsEndpoint
  | .initializeApi endpoint wsEndpoint (.connecting inst) =>
      -- `api.isReady` reads the variable, which another call may have cleared
      match s.api with
      | none => (s.connect inst, .settled (.rejected nullIsReady))
      | some _ => (s.connect inst, .suspended (.initializeApi endpoint wsEndpoint .reconnected))
  | .initializeApi _ _ .reconnected => (s, .settled (.resolved s.api))
  | .disconnectApi => ({ s with api := none }, .settled (.resolved none))

/-! ### The service under any number of calls -/

/-- A call in flight, with what its caller does when it settles. -/
structure Pending (κ : Type*) where
  caller : κ
  frame : Frame
  deriving DecidableEq

/-- A call that has settled. -/
structure Settled (κ : Type*) where
  caller : κ
  request : Request
  outcome : Outcome
  deriving DecidableEq

/-- The module state and the calls.  `issued` is the call started last. -/
structure Config (κ : Type*) where
  state : State
  calls : List (Pending κ)
  settled : List (Settled κ)
  issued : Option Request
  deriving DecidableEq

/-- The loaded module, before any call. -/
def Config.load {κ : Type*} (savedEndpoint env : Option String) : Config κ where
  state := .load savedEndpoint env
  calls := []
  settled := []
  issued := none

/-- Where a call got: it joins the calls in flight, or the settled ones. -/
def Config.record {κ : Type*} (c : Config κ) (caller : κ) (request : Request) :
    State × Progress → Config κ
  | (s, .suspended frame) => { c with state := s, calls := c.calls ++ [⟨caller, frame⟩] }
  | (s, .settled outcome) =>
      { c with state := s, settled := c.settled ++ [⟨caller, request, outcome⟩] }

/-- A call is started; the `await` of the `k`-th call in flight completes; a connected instance's
socket closes; an instance not told to disconnect opens its socket again. -/
inductive Event (κ : Type*) where
  | call (caller : κ) (request : Request)
  | resume (k : Nat)
  | close (inst : ApiPromise)
  | reopen (inst : ApiPromise)
  deriving DecidableEq

def step {κ : Type*} (c : Config κ) : Event κ → Option (Config κ)
  | .call caller request =>
      some ({ c with issued := some request }.record caller request
        (request.enter wsProviderError c.state))
  | .resume k =>
      match c.calls[k]? with
      | none => none
      | some p =>
          some ({ c with calls := c.calls.eraseIdx k }.record p.caller p.frame.request
            (p.frame.resume wsProviderError c.state))
  | .close inst =>
      if inst ∈ c.state.connected then some { c with state := c.state.close inst } else none
  | .reopen inst =>
      if inst ∈ c.state.opened ∧ inst ∉ c.state.connected then
        some { c with state := c.state.connect inst }
      else none

end

end SubstrateDevTemplate.Service
