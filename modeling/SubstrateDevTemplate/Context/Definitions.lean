import SubstrateDevTemplate.Service.Steps

/-!
# Context — Definitions

`ApiProvider` of `context/ApiContext.tsx`: the React state it publishes, its `connect` effect with
the effect's cleanup, and `handleChangeEndpoint`, on top of the connection service.

The provider's calls of the service are tagged by what awaits them (`Caller`).  A service call that
has settled waits in `settled` until its caller goes on (`deliver`); `connect` then waits once more,
for `apiInstance.isReady` (`ready`).  Every one of these continuations runs in a step of its own, in
any order.

An `ApiPromise` emits `'disconnected'` when its socket closes, and the handlers on it run then.
`connect` puts its handlers on the instance it got; `handleChangeEndpoint` puts none.
-/

namespace SubstrateDevTemplate.Context
open Service (ApiPromise Request Outcome Pending Settled Config)

/-- What awaits a call of the service. -/
inductive Caller where
  /-- `connect`, in the effect -/
  | connect
  /-- `handleChangeEndpoint(newEndpoint)` -/
  | changeEndpoint (newEndpoint : String)
  /-- the effect's cleanup -/
  | cleanup
  deriving DecidableEq

/-- The service, the provider's React state, the `connect`s suspended at
`await apiInstance.isReady`, and the instances that carry `connect`'s handlers. -/
structure Provider where
  service : Config Caller
  connecting : List ApiPromise
  listeners : Finset ApiPromise
  api : Option ApiPromise
  isApiReady : Bool
  isConnecting : Bool
  connectionError : Option String
  endpoint : String
  deriving DecidableEq

/-- The provider as it is rendered first; `useState(getCurrentEndpoint())`. -/
def Provider.load (savedEndpoint env : Option String) : Provider where
  service := .load savedEndpoint env
  connecting := []
  listeners := ∅
  api := none
  isApiReady := false
  isConnecting := false
  connectionError := none
  endpoint := Service.getDefaultEndpoint savedEndpoint env

/-- No call is in flight: none in the service, none whose caller has yet to go on. -/
def Provider.Idle (p : Provider) : Prop :=
  p.service.calls = [] ∧ p.service.settled = [] ∧ p.connecting = []

instance (p : Provider) : Decidable p.Idle := inferInstanceAs (Decidable (_ ∧ _ ∧ _))

/-- The effect starts `connect`; `handleConnect` of the endpoint selector calls
`handleChangeEndpoint`; the cleanup runs; an `await` of the service completes; the caller of the
`k`-th settled call goes on; the `k`-th wait for `apiInstance.isReady` ends; an instance's socket
closes or opens; an instance emits `'error'`. -/
inductive Event where
  | connect
  | handleConnect (endpointToUse : String)
  | cleanup
  | resume (k : Nat)
  | deliver (k : Nat)
  | ready (k : Nat)
  | close (inst : ApiPromise)
  | reopen (inst : ApiPromise)
  | error (inst : ApiPromise) (message : String)
  deriving DecidableEq

/-- Both functions begin with `setIsConnecting(true); setConnectionError(null)`. -/
def Provider.begin (p : Provider) : Provider :=
  { p with isConnecting := true, connectionError := none }

/-- `connect`'s `catch`. -/
def Provider.connectFailed (p : Provider) (message : String) : Provider :=
  { p with connectionError := some message, isConnecting := false, isApiReady := false }

/-- `connect` from the end of `await apiInstance.isReady` on. -/
def Provider.connected (p : Provider) (apiInstance : ApiPromise) : Provider :=
  { p with
    api := some apiInstance
    isApiReady := true
    isConnecting := false
    endpoint := p.service.state.currentEndpoint
    listeners := insert apiInstance p.listeners }

/-- `handleChangeEndpoint` once `changeEndpoint(newEndpoint)` has resolved. -/
def Provider.changed (p : Provider) (newEndpoint : String) (apiInstance : Option ApiPromise) :
    Provider :=
  { p with
    api := apiInstance
    endpoint := newEndpoint
    isApiReady := true
    connectionError := none
    isConnecting := false }

/-- `handleChangeEndpoint`'s `catch` and `finally`. -/
def Provider.changeFailed (p : Provider) (newEndpoint message : String) : Provider :=
  { p with
    connectionError := some ("Failed to connect to " ++ newEndpoint ++ ": " ++ message)
    isApiReady := false
    isConnecting := false }

/-- The caller of a settled call goes on.  `connect` reads `isReady` of what it got. -/
def Provider.deliver (p : Provider) (r : Settled Caller) : Provider :=
  match r.caller, r.outcome with
  | .connect, .resolved (some inst) => { p with connecting := p.connecting ++ [inst] }
  | .connect, .resolved none => p.connectFailed Service.nullIsReady
  | .connect, .rejected message => p.connectFailed message
  | .changeEndpoint e, .resolved value => p.changed e value
  | .changeEndpoint e, .rejected message => p.changeFailed e message
  | .cleanup, _ => p

section
variable (wsProviderError : String → Option String)

/-- A step of the service, in the provider. -/
def Provider.serve (p : Provider) (e : Service.Event Caller) : Option Provider :=
  (Service.step wsProviderError p.service e).map fun service => { p with service := service }

def step (p : Provider) : Event → Option Provider
  | .connect => p.begin.serve wsProviderError (.call .connect (.initializeApi none))
  | .handleConnect endpointToUse =>
      -- the selector ignores an empty endpoint
      if endpointToUse = "" then none
      else p.begin.serve wsProviderError
        (.call (.changeEndpoint endpointToUse) (Service.changeEndpoint endpointToUse))
  | .cleanup => p.serve wsProviderError (.call .cleanup .disconnectApi)
  | .resume k => p.serve wsProviderError (.resume k)
  | .deliver k =>
      match p.service.settled[k]? with
      | none => none
      | some r =>
          some ({ p with service :=
            { p.service with settled := p.service.settled.eraseIdx k } }.deliver r)
  | .ready k =>
      match p.connecting[k]? with
      | none => none
      | some inst => some ({ p with connecting := p.connecting.eraseIdx k }.connected inst)
  | .close inst =>
      (p.serve wsProviderError (.close inst)).map fun p =>
        -- `connect`'s handler, where it is on the instance
        if inst ∈ p.listeners then { p with isApiReady := false } else p
  | .reopen inst => p.serve wsProviderError (.reopen inst)
  | .error inst message =>
      if inst ∈ p.listeners then
        some { p with connectionError := some ("Connection error: " ++ message) }
      else none

end

end SubstrateDevTemplate.Context
