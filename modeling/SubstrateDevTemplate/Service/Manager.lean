import SubstrateDevTemplate.Service.Serial

/-!
# Service — the manager of one connection

What the service is for: it has an endpoint, and at most one connection, which belongs to that
endpoint.  A `Manager` is a state of that kind, and `Manager.Serves` says what it may answer to a
call.

* `call_serves`: a call of the service that nothing runs beside is one a manager serves.
* `serial_refines`: after every call, whatever sockets closed in between, the service holds one
  connection or none, to the current endpoint, which is the one a reload would read back.
-/

namespace SubstrateDevTemplate.Service
open Transition

/-! ### The manager -/

/-- An endpoint, and at most one connection, which belongs to it. -/
structure Manager where
  endpoint : String
  connection : Option ApiPromise
  belongs : ∀ inst, connection = some inst → inst.endpoint = endpoint

namespace Manager

/-- No connection. -/
def idle (endpoint : String) : Manager := ⟨endpoint, none, by rintro inst ⟨⟩⟩

/-- Connected through `inst`. -/
def on (inst : ApiPromise) : Manager := ⟨inst.endpoint, some inst, by rintro _ ⟨⟩; rfl⟩

/-- `m` may answer `outcome` to the call `request`, and be `m'` afterwards. -/
inductive Serves (m : Manager) : Request → Outcome → Manager → Prop where
  /-- the connection there is, asked for by its endpoint, is kept -/
  | keep {inst : ApiPromise} (h : m.connection = some inst) :
      Serves m (.initializeApi (some m.endpoint)) (.resolved (some inst)) m
  /-- a new connection replaces it -/
  | connect {endpoint : Option String} {inst : ApiPromise}
      (h : inst.endpoint = Js.or endpoint m.endpoint) :
      Serves m (.initializeApi endpoint) (.resolved (some inst)) (on inst)
  /-- a new connection cannot be made, and there is none -/
  | fail (endpoint : Option String) (message : String) :
      Serves m (.initializeApi endpoint) (.rejected message) (idle (Js.or endpoint m.endpoint))
  /-- it is given up -/
  | release : Serves m .disconnectApi (.resolved none) (idle m.endpoint)

/-- A connection that is asked for belongs to the argument, or without one to the endpoint there
was. -/
theorem Serves.returned {m m' : Manager} {endpoint : Option String} {value : Option ApiPromise}
    (h : m.Serves (.initializeApi endpoint) (.resolved value) m') :
    ∃ inst, value = some inst ∧ m'.connection = some inst ∧
      inst.endpoint = Js.or endpoint m.endpoint := by
  cases h with
  | keep h => exact ⟨_, rfl, h, by rw [Js.or_self]; exact m.belongs _ h⟩
  | connect h => exact ⟨_, rfl, rfl, h⟩

end Manager

/-! ### The service as a manager -/

/-- The service is in a state of the manager `m`: its open instances are `m`'s connection, and
`m`'s endpoint is what a reload would compute. -/
structure State.Implements (s : State) (env : Option String) (m : Manager) : Prop where
  api : s.api = m.connection
  opened : s.opened = m.connection.toFinset
  endpoint : s.currentEndpoint = m.endpoint
  reload : m.endpoint = getDefaultEndpoint s.localStorage env

theorem implements_load (savedEndpoint env : Option String) :
    (State.load savedEndpoint env).Implements env
      (.idle (getDefaultEndpoint savedEndpoint env)) :=
  ⟨rfl, rfl, rfl, rfl⟩

/-- Which sockets are open does not matter to the manager. -/
theorem State.Implements.sockets {s : State} {env : Option String} {m : Manager}
    (h : s.Implements env m) (C : Finset ApiPromise) :
    ({ s with connected := C } : State).Implements env m :=
  ⟨h.api, h.opened, h.endpoint, h.reload⟩

/-- An endpoint that becomes current is stored, so a reload computes it. -/
theorem retarget_reload {s : State} {env : Option String}
    (h : s.currentEndpoint = getDefaultEndpoint s.localStorage env) (endpoint : Option String) :
    Js.or endpoint s.currentEndpoint =
      getDefaultEndpoint (s.retarget endpoint).localStorage env := by
  cases ht : Js.truthy endpoint with
  | false => rw [Js.or_of_falsy ht, h]; simp [State.retarget, ht]
  | true => rw [Js.or_of_truthy ht]; simp [State.retarget, ht, getDefaultEndpoint]

section
variable {wsProviderError : String → Option String}

variable (wsProviderError) in
/-- **One call.**  It settles, as a manager serves it; what it returns is connected. -/
theorem call_serves {s : State} {env : Option String} {m : Manager} (hm : s.Implements env m)
    (request : Request) :
    ∃ s' outcome m', request.call wsProviderError s = (s', .settled outcome) ∧
      m.Serves request outcome m' ∧ s'.Implements env m' ∧
      ∀ inst, outcome = .resolved (some inst) → inst ∈ s'.connected := by
  have hclosed : s.leave.opened = ∅ := State.leave_opened (by rw [hm.opened, hm.api])
  have hreload : s.currentEndpoint = getDefaultEndpoint s.localStorage env :=
    hm.endpoint.trans hm.reload
  cases request with
  | disconnectApi =>
      refine ⟨s.leave, .resolved none, .idle m.endpoint, call_disconnectApi s, .release, ?_,
        by rintro inst ⟨⟩⟩
      exact ⟨by simp [Manager.idle], by simp [hclosed, Manager.idle],
        by simp [hm.endpoint, Manager.idle], by simpa [Manager.idle] using hm.reload⟩
  | initializeApi endpoint =>
      have hstored : Js.or endpoint s.currentEndpoint =
          getDefaultEndpoint (s.leave.retarget endpoint).localStorage env := by
        simpa using retarget_reload (s := s.leave) (by simpa using hreload) endpoint
      rcases initializeApi_cases wsProviderError s endpoint with
        ⟨inst, ha, rfl, h⟩ | ⟨message, -, -, h⟩ | ⟨-, -, h⟩
      · have hc : m.connection = some inst := hm.api.symm.trans ha
        refine ⟨_, _, m, h, ?_, hm.sockets _, ?_⟩
        · rw [hm.endpoint]; exact .keep hc
        · rintro _ ⟨⟩; simp
      · refine ⟨_, _, .idle (Js.or endpoint m.endpoint), h, .fail endpoint message, ?_,
          by rintro inst ⟨⟩⟩
        rw [← hm.endpoint]
        exact ⟨by simp [Manager.idle], by simp [hclosed, Manager.idle], by simp [Manager.idle],
          hstored⟩
      · refine ⟨_, _, .on _, h, .connect (by simp [hm.endpoint]), ?_, ?_⟩
        · exact ⟨rfl, by simp [hclosed, Manager.on], by simp [Manager.on], hstored⟩
        · rintro _ ⟨⟩; simp

/-- Along a run of whole calls the service is always in a state of a manager. -/
theorem serial_implements {savedEndpoint env : Option String} {ops : List Op} {s : State}
    (h : Run (serialStep wsProviderError) anyEvent (.load savedEndpoint env) ops s) :
    ∃ m, s.Implements env m := by
  refine h.invariant (I := fun s => ∃ m, s.Implements env m) ?_ ⟨_, implements_load _ _⟩
  rintro s op s' ⟨m, hm⟩ - hst
  cases op with
  | call request =>
      obtain ⟨s₁, outcome, m', hcall, -, hm', -⟩ :=
        call_serves wsProviderError hm request
      obtain rfl := Option.some.inj hst
      exact ⟨m', hcall ▸ hm'⟩
  | drop inst =>
      simp only [serialStep] at hst
      split at hst
      · cases hst; exact ⟨m, hm.sockets _⟩
      · cases hst
  | reconnect inst =>
      simp only [serialStep] at hst
      split at hst
      · cases hst; exact ⟨m, hm.sockets _⟩
      · cases hst

/-- One connection or none, and nothing else open; it belongs to the current endpoint; a reload
would resume that endpoint. -/
structure State.Single (s : State) (env : Option String) : Prop where
  opened : s.opened = s.api.toFinset
  agrees : ∀ inst, s.api = some inst → inst.endpoint = s.currentEndpoint
  reload : s.currentEndpoint = getDefaultEndpoint s.localStorage env

theorem State.Implements.single {s : State} {env : Option String} {m : Manager}
    (h : s.Implements env m) : s.Single env where
  opened := by rw [h.opened, h.api]
  agrees inst hi := by rw [h.endpoint]; exact m.belongs inst (h.api.symm.trans hi)
  reload := h.endpoint.trans h.reload

/-- A call made in `s` that resolved to a connection returned `api`, connected, created for the
argument or, without one, for the endpoint that was current. -/
def Request.Returns (request : Request) (s : State) (outcome : Outcome) (s' : State) : Prop :=
  ∀ endpoint value, request = .initializeApi endpoint → outcome = .resolved value →
    ∃ inst, value = some inst ∧ s'.api = some inst ∧ inst ∈ s'.connected ∧
      inst.endpoint = Js.or endpoint s.currentEndpoint

/-- **Serial runs refine the manager of one connection.** -/
theorem serial_refines {savedEndpoint env : Option String} {ops : List Op} {s : State}
    (h : Run (serialStep wsProviderError) anyEvent (.load savedEndpoint env) ops s)
    (request : Request) :
    ∃ s' outcome, request.call wsProviderError s = (s', .settled outcome) ∧
      s'.Single env ∧ request.Returns s outcome s' := by
  obtain ⟨m, hm⟩ := serial_implements h
  obtain ⟨s', outcome, m', hcall, hserves, hm', hconn⟩ :=
    call_serves wsProviderError hm request
  refine ⟨s', outcome, hcall, hm'.single, ?_⟩
  rintro endpoint value rfl rfl
  obtain ⟨inst, rfl, hc, he⟩ := hserves.returned
  exact ⟨inst, rfl, hm'.api.trans hc, hconn inst rfl, by rw [hm.endpoint]; exact he⟩

end

/-- A reconnection: the instance is dropped after a change of endpoint has failed and the next one
has not, and the current endpoint is asked for again. -/
theorem serial_refines_dropped :
    ∃ s' outcome,
      (changeEndpoint "wss://rpc.polkadot.io").call schemeError
        ((exec (serialStep schemeError) anyEvent (.load none none)
          [.call (changeEndpoint "localhost:9944"), .call (changeEndpoint "wss://rpc.polkadot.io"),
            .drop ⟨0, "wss://rpc.polkadot.io"⟩]).get (by decide)) = (s', .settled outcome) ∧
      s'.Single none :=
  have hrun : Run (serialStep schemeError) anyEvent (.load none none)
      [.call (changeEndpoint "localhost:9944"), .call (changeEndpoint "wss://rpc.polkadot.io"),
        .drop ⟨0, "wss://rpc.polkadot.io"⟩] _ := run_of_exec (Option.some_get _).symm
  have ⟨s', outcome, h, hs, _⟩ := serial_refines hrun (changeEndpoint "wss://rpc.polkadot.io")
  ⟨s', outcome, h, hs⟩

end SubstrateDevTemplate.Service
