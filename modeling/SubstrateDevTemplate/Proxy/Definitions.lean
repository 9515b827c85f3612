import SubstrateDevTemplate.Support.Json
import SubstrateDevTemplate.Support.Promise

/-!
# Proxy — Definitions

The serverless function `netlify/functions/wsProxy.js`: it opens a WebSocket to the endpoint a
request names, sends the request's payload, and answers with the first message that comes back.

`validate` is the `try` block up to the socket.  From there on the handler is suspended at one of
its two promises, which the socket's listeners and two timers settle (`Session`); each of its
`await`s completes in a step of its own (`resume`), so the socket may do anything in between.

`ws` is not part of the repository.  What the model takes of it:

* `new WebSocket(url)` does not throw on a `wss:` URL, nor does `send` on a socket that has opened;
* a socket emits `'open'`, `'error'` and `'message'` in any order and number; what it emits without
  a listener is lost.

An error is its message, and a message what its `toString` returns.
-/

namespace SubstrateDevTemplate.Proxy
open Js (Json JSON Promise)

/-- What the handler reads of its `event`. -/
structure Request where
  httpMethod : String
  body : Option String
  deriving DecidableEq

structure Response where
  statusCode : Nat
  body : String
  deriving DecidableEq

def allowedEndpoints : List String :=
  ["wss://rpc.polkadot.io", "wss://kusama-rpc.polkadot.io", "wss://westend-rpc.polkadot.io",
    "wss://rococo-rpc.polkadot.io"]

section
variable (json : JSON)

/-- `JSON.stringify({ error })`. -/
def errorBody (error : String) : Except String String :=
  json.stringify (.object [("error", .string error)])

/-- `catch (error)`: the handler's promise, where the `try` block returned or threw. -/
def recover : Except String Response → Except String Response
  | .ok response => .ok response
  | .error message => do return ⟨500, ← errorBody json message⟩

/-- `const { endpoint, payload } = body`. -/
def destructure : Json → Except String (Option Json × Option Json)
  | .null => .error "Cannot destructure property 'endpoint' of 'body' as it is null."
  | body => .ok (body.get "endpoint", body.get "payload")

/-- The `try` block up to the socket: what it returns, or the socket's URL and the payload. -/
def validate (event : Request) : Except String (Response ⊕ String × Option Json) := do
  let body ← json.parse (Js.or event.body "\x7b\x7d")
  let (endpoint, payload) ← destructure body
  if Json.truthy endpoint = false then
    return .inl ⟨400, ← errorBody json "Missing endpoint parameter"⟩
  -- `includes` compares strictly, so no value but a string is among the allowed ones
  match endpoint with
  | some (.string url) =>
      if url ∈ allowedEndpoints then return .inr (url, payload)
      return .inl ⟨403, ← errorBody json "Endpoint not allowed"⟩
  | _ => return .inl ⟨403, ← errorBody json "Endpoint not allowed"⟩

end

/-- A WebSocket, as the handler has used it. -/
structure Socket where
  url : String
  sent : List String
  /-- how often `ws.close()` was called -/
  closes : Nat
  /-- it has emitted `'error'` -/
  failed : Bool
  deriving DecidableEq

def Socket.send (ws : Socket) (data : String) : Socket := { ws with sent := ws.sent ++ [data] }

def Socket.close (ws : Socket) : Socket := { ws with closes := ws.closes + 1 }

/-- Where the handler is. -/
inductive Stage where
  /-- `await connectPromise` -/
  | connecting
  /-- `await responsePromise` -/
  | responding
  /-- the handler's promise is settled -/
  | settled (result : Except String Response)

/-- A call of the handler that has created its socket. -/
structure Session where
  payload : Option Json
  socket : Socket
  connectPromise : Promise Unit
  /-- the timer of `connectPromise` has yet to fire -/
  connectTimer : Bool
  /-- there once its listeners are -/
  responsePromise : Option (Promise String)
  responseTimer : Bool
  stage : Stage

/-- The socket emits an event; one of the two timers fires; the `await` the handler is suspended at
completes. -/
inductive Event where
  | open
  | error (message : String)
  | message (data : String)
  | connectTimeout
  | responseTimeout
  | resume
  deriving DecidableEq

namespace Session

/-- `new WebSocket(endpoint)`, and the first promise with its listeners and its timer. -/
def start (url : String) (payload : Option Json) : Session where
  payload := payload
  socket := ⟨url, [], 0, false⟩
  connectPromise := .pending
  connectTimer := true
  responsePromise := none
  responseTimer := false
  stage := .connecting

def settleConnect (s : Session) (p : Promise Unit) : Session :=
  { s with connectPromise := s.connectPromise.settle p }

def settleResponse (s : Session) (p : Promise String) : Session :=
  { s with responsePromise := s.responsePromise.map fun q => q.settle p }

def close (s : Session) : Session := { s with socket := s.socket.close }

def send (s : Session) (data : String) : Session := { s with socket := s.socket.send data }

section
variable (json : JSON)

/-- `if (payload) ws.send(JSON.stringify(payload))`, or what that throws. -/
def sendPayload (s : Session) : Except String Session :=
  match s.payload with
  | none => .ok s
  | some payload =>
      if Json.truthy (some payload) then do return s.send (← json.stringify payload) else .ok s

/-- The second promise is created, with its listeners and its timer. -/
def awaitResponse (s : Session) : Session :=
  { s with
    responsePromise := some .pending
    responseTimer := true
    stage := .responding }

/-- The `try` block returns or throws. -/
def finish (s : Session) (result : Except String Response) : Session :=
  { s with stage := .settled (recover json result) }

/-- The first promise is fulfilled: the payload is sent and the response is waited for, unless the
payload cannot be written. -/
def opened (s : Session) : Session :=
  match s.sendPayload json with
  | .ok s => s.awaitResponse
  | .error message => s.finish json (.error message)

/-- The handler goes on, where the promise it waits for is settled. -/
def resume (s : Session) : Option Session :=
  match s.stage with
  | .connecting =>
      match s.connectPromise with
      | .pending => none
      | .fulfilled () => some (s.opened json)
      | .rejected message => some (s.finish json (.error message))
  | .responding =>
      match s.responsePromise with
      | none | some .pending => none
      | some (.fulfilled response) => some (s.finish json (.ok ⟨200, response⟩))
      | some (.rejected message) => some (s.finish json (.error message))
  | .settled _ => none

def step (s : Session) : Event → Option Session
  | .open => some (s.settleConnect (.fulfilled ()))
  | .error message =>
      some ({ s with socket := { s.socket with failed := true } }.settleConnect
        (.rejected message) |>.settleResponse (.rejected message))
  | .message data =>
      -- the listener is put on the socket with the second promise
      if s.responsePromise.isSome then some (s.settleResponse (.fulfilled data)).close else some s
  | .connectTimeout =>
      if s.connectTimer then
        some ({ s with connectTimer := false }.settleConnect (.rejected "Connection timeout"))
      else none
  | .responseTimeout =>
      if s.responseTimer then
        some ({ s with responseTimer := false }.close.settleResponse
          (.rejected "Response timeout"))
      else none
  | .resume => s.resume json

end

end Session

/-- A call of the handler. -/
inductive Handler where
  /-- it settled without a socket -/
  | settled (result : Except String Response)
  | running (session : Session)

namespace Handler

/-- `exports.handler`, up to its first `await`. -/
def start (json : JSON) (event : Request) : Handler :=
  if event.httpMethod ≠ "POST" then .settled (.ok ⟨405, "Method Not Allowed"⟩)
  else
    match validate json event with
    | .error message => .settled (recover json (.error message))
    | .ok (.inl response) => .settled (recover json (.ok response))
    | .ok (.inr (url, payload)) => .running (.start url payload)

def step (json : JSON) : Handler → Event → Option Handler
  | .settled _, _ => none
  | .running s, e => (s.step json e).map .running

/-- The socket it has created. -/
def socket : Handler → Option Socket
  | .settled _ => none
  | .running s => some s.socket

/-- What it has returned or thrown. -/
def result : Handler → Option (Except String Response)
  | .settled result => some result
  | .running s =>
      match s.stage with
      | .settled result => some result
      | _ => none

end Handler

end SubstrateDevTemplate.Proxy
