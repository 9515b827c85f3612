import SubstrateDevTemplate.Proxy.Definitions

/-!
# Proxy — Steps

What one event does to a call of the handler.  An event of the socket and a timer settle promises
(`Heard`); the completion of an `await` moves the handler on (`Resumes`).

* `step_cases`: every event does one or the other.
* `errorBody_ok`, `recover_error`: the body of an error response can be written.
* `start_cases`: the handler creates a socket only for a `POST` that names an allowed endpoint, and
  what it returns without one is no 200.
-/

namespace SubstrateDevTemplate.Proxy
open Js (Json JSON Promise)

/-- What an event settles the first promise with. -/
def Event.connects : Event → Promise Unit
  | .open => .fulfilled ()
  | .error reason => .rejected reason
  | .connectTimeout => .rejected "Connection timeout"
  | .message _ | .responseTimeout | .resume => .pending

/-- What an event settles the second promise with, once that is there. -/
def Event.responds : Event → Promise String
  | .message data => .fulfilled data
  | .error reason => .rejected reason
  | .responseTimeout => .rejected "Response timeout"
  | .open | .connectTimeout | .resume => .pending

/-- The socket has been told to close, or has ended with an error. -/
def Socket.Released (ws : Socket) : Prop := 0 < ws.closes ∨ ws.failed = true

instance (ws : Socket) : Decidable ws.Released := inferInstanceAs (Decidable (_ ∨ _))

/-- An event of the socket, or a timer: `s` becomes `s'`. -/
structure Heard (s : Session) (e : Event) (s' : Session) : Prop where
  payload : s'.payload = s.payload
  stage : s'.stage = s.stage
  url : s'.socket.url = s.socket.url
  sent : s'.socket.sent = s.socket.sent
  connectPromise : s'.connectPromise = s.connectPromise.settle e.connects
  responsePromise : s'.responsePromise = s.responsePromise.map fun p => p.settle e.responds
  connectTimer : e.connects = .pending → s'.connectTimer = s.connectTimer
  responseTimer : e.responds = .pending → s'.responseTimer = s.responseTimer
  released : s.socket.Released → s'.socket.Released
  /-- an error of the socket ends it -/
  ended : ∀ message, e = .error message → s'.socket.Released
  /-- what settles the second promise closes the socket, or ends it -/
  answered : e.responds.Settled → s.responsePromise ≠ none → s'.socket.Released

/-- What is sent of a payload, or what writing it throws. -/
def payloadTexts (json : JSON) : Option Json → Except String (List String)
  | none => .ok []
  | some payload =>
      if Json.truthy (some payload) then (json.stringify payload).map fun text => [text]
      else .ok []

/-- The texts have been sent. -/
def Session.sendTexts (s : Session) (texts : List String) : Session :=
  { s with socket := { s.socket with sent := s.socket.sent ++ texts } }

/-- The handler goes on, at its first `await` or at its second. -/
inductive Resumes (json : JSON) (s : Session) : Session → Prop where
  | opened (texts : List String) (hstage : s.stage = .connecting)
      (h : s.connectPromise = .fulfilled ()) (htexts : payloadTexts json s.payload = .ok texts) :
      Resumes json s (s.sendTexts texts).awaitResponse
  | unsent (message : String) (hstage : s.stage = .connecting)
      (h : s.connectPromise = .fulfilled ())
      (hthrows : payloadTexts json s.payload = .error message) :
      Resumes json s (s.finish json (.error message))
  | refused (message : String) (hstage : s.stage = .connecting)
      (h : s.connectPromise = .rejected message) : Resumes json s (s.finish json (.error message))
  | answered (response : String) (hstage : s.stage = .responding)
      (h : s.responsePromise = some (.fulfilled response)) :
      Resumes json s (s.finish json (.ok ⟨200, response⟩))
  | unanswered (message : String) (hstage : s.stage = .responding)
      (h : s.responsePromise = some (.rejected message)) :
      Resumes json s (s.finish json (.error message))

namespace Session
variable (s : Session)

theorem sendTexts_nil : s.sendTexts [] = s := by rw [sendTexts, List.append_nil]

/-- The payload is sent and the response waited for, or the handler has returned. -/
theorem opened_eq (json : JSON) :
    s.opened json = match payloadTexts json s.payload with
      | .ok texts => (s.sendTexts texts).awaitResponse
      | .error message => s.finish json (.error message) := by
  unfold opened sendPayload payloadTexts
  cases s.payload with
  | none => simp only [sendTexts_nil]
  | some payload =>
      by_cases htruthy : Json.truthy (some payload) = true
      · simp only [if_pos htruthy]
        cases json.stringify payload with
        | error message => rfl
        | ok text => rfl
      · simp only [if_neg htruthy, sendTexts_nil]

theorem map_settle_pending (p : Option (Promise String)) :
    p = p.map fun q => q.settle .pending := by
  simp only [Promise.settle_pending, Option.map_id_fun', id_eq]

end Session

/-! ### The bodies of the error responses -/

section
variable (json : JSON)

theorem errorBody_ok (error : String) : ∃ body, errorBody json error = .ok body :=
  json.stringify_flat "error" error

/-- An error is a 500. -/
theorem recover_error (message : String) :
    ∃ body, recover json (.error message) = .ok ⟨500, body⟩ := by
  obtain ⟨body, hbody⟩ := errorBody_ok json message
  refine ⟨body, ?_⟩
  simp only [recover, hbody]
  rfl

end

section
variable {json : JSON} {s s' : Session}

/-! ### One event of a call with a socket -/

theorem heard_open : Heard s .open (s.settleConnect (.fulfilled ())) where
  payload := rfl
  stage := rfl
  url := rfl
  sent := rfl
  connectPromise := rfl
  responsePromise := Session.map_settle_pending s.responsePromise
  connectTimer _ := rfl
  responseTimer _ := rfl
  released h := h
  ended _ h := nomatch h
  answered h := absurd rfl h

theorem heard_error (message : String) :
    Heard s (.error message) ({ s with socket := { s.socket with failed := true } }.settleConnect
      (.rejected message) |>.settleResponse (.rejected message)) where
  payload := rfl
  stage := rfl
  url := rfl
  sent := rfl
  connectPromise := rfl
  responsePromise := rfl
  connectTimer _ := rfl
  responseTimer _ := rfl
  released _ := .inr rfl
  ended _ _ := .inr rfl
  answered _ _ := .inr rfl

/-- A message that is listened to. -/
theorem heard_message (data : String) :
    Heard s (.message data) (s.settleResponse (.fulfilled data)).close where
  payload := rfl
  stage := rfl
  url := rfl
  sent := rfl
  connectPromise := s.connectPromise.settle_pending.symm
  responsePromise := rfl
  connectTimer _ := rfl
  responseTimer _ := rfl
  released _ := .inl (Nat.succ_pos _)
  ended _ h := nomatch h
  answered _ _ := .inl (Nat.succ_pos _)

/-- A message before that. -/
theorem heard_lost (data : String) (hnone : s.responsePromise = none) :
    Heard s (.message data) s where
  payload := rfl
  stage := rfl
  url := rfl
  sent := rfl
  connectPromise := s.connectPromise.settle_pending.symm
  responsePromise := by rw [hnone, Option.map_none]
  connectTimer _ := rfl
  responseTimer _ := rfl
  released h := h
  ended _ h := nomatch h
  answered _ h := absurd hnone h

theorem heard_connectTimeout :
    Heard s .connectTimeout ({ s with connectTimer := false }.settleConnect
      (.rejected "Connection timeout")) where
  payload := rfl
  stage := rfl
  url := rfl
  sent := rfl
  connectPromise := rfl
  responsePromise := Session.map_settle_pending s.responsePromise
  connectTimer h := nomatch h
  responseTimer _ := rfl
  released h := h
  ended _ h := nomatch h
  answered h := absurd rfl h

theorem heard_responseTimeout :
    Heard s .responseTimeout ({ s with responseTimer := false }.close.settleResponse
      (.rejected "Response timeout")) where
  payload := rfl
  stage := rfl
  url := rfl
  sent := rfl
  connectPromise := s.connectPromise.settle_pending.symm
  responsePromise := rfl
  connectTimer _ := rfl
  responseTimer h := nomatch h
  released _ := .inl (Nat.succ_pos _)
  ended _ h := nomatch h
  answered _ _ := .inl (Nat.succ_pos _)

theorem resume_cases (h : s.resume json = some s') : Resumes json s s' := by
  unfold Session.resume at h
  split at h
  · rename_i hstage
    split at h
    · cases h
    · rename_i hc
      cases h
      rw [Session.opened_eq]
      cases htexts : payloadTexts json s.payload with
      | ok texts => exact .opened texts hstage hc htexts
      | error message => exact .unsent message hstage hc htexts
    · rename_i message hc
      cases h
      exact .refused message hstage hc
  · rename_i hstage
    split at h
    · cases h
    · cases h
    · rename_i response hr
      cases h
      exact .answered response hstage hr
    · rename_i message hr
      cases h
      exact .unanswered message hstage hr
  · cases h

/-- A call that has settled does not go on. -/
theorem Resumes.not_settled {result : Except String Response} (h : Resumes json s s') :
    s.stage ≠ .settled result := by
  intro hstage
  cases h with
  | opened _ hwaits | unsent _ hwaits | refused _ hwaits | answered _ hwaits
  | unanswered _ hwaits =>
      rw [hstage] at hwaits
      cases hwaits

/-- **Every event** settles promises, or moves the handler on. -/
theorem step_cases {e : Event} (h : s.step json e = some s') :
    (e ≠ .resume ∧ Heard s e s') ∨ (e = .resume ∧ Resumes json s s') := by
  cases e with
  | resume => exact .inr ⟨rfl, resume_cases h⟩
  | «open» =>
      cases h
      exact .inl ⟨nofun, heard_open⟩
  | error message =>
      cases h
      exact .inl ⟨nofun, heard_error message⟩
  | message data =>
      simp only [Session.step] at h
      split at h
      · cases h
        exact .inl ⟨nofun, heard_message data⟩
      · rename_i hnone
        cases h
        exact .inl ⟨nofun, heard_lost data (Option.not_isSome_iff_eq_none.mp hnone)⟩
  | connectTimeout =>
      simp only [Session.step] at h
      split at h
      · cases h
        exact .inl ⟨nofun, heard_connectTimeout⟩
      · cases h
  | responseTimeout =>
      simp only [Session.step] at h
      split at h
      · cases h
        exact .inl ⟨nofun, heard_responseTimeout⟩
      · cases h

/-! ### The start of a call -/

/-- The request asks for a socket to `url`, and to send `payload`. -/
structure Asks (json : JSON) (event : Request) (url : String) (payload : Option Json) : Prop where
  method : event.httpMethod = "POST"
  parses : ∃ body, json.parse (Js.or event.body "\x7b\x7d") = .ok body ∧
    body.get "endpoint" = some (.string url) ∧ body.get "payload" = payload
  allowed : url ∈ allowedEndpoints

theorem destructure_ok {body : Json} {endpoint payload : Option Json}
    (h : destructure body = .ok (endpoint, payload)) :
    body.get "endpoint" = endpoint ∧ body.get "payload" = payload := by
  cases body with
  | null => cases h
  | bool | number | infinity | string | array | object => cases h; exact ⟨rfl, rfl⟩

/-- What the `try` block does before there is a socket: it throws, or returns no 200, or goes on
with an allowed endpoint. -/
theorem validate_cases {event : Request} (hmethod : event.httpMethod = "POST") :
    (∃ message, validate json event = .error message) ∨
    (∃ response, validate json event = .ok (.inl response) ∧ response.statusCode ≠ 200) ∨
    ∃ url payload, validate json event = .ok (.inr (url, payload)) ∧
      Asks json event url payload := by
  unfold validate
  cases hparse : json.parse (Js.or event.body "\x7b\x7d") with
  | error message => exact .inl ⟨message, rfl⟩
  | ok body =>
      cases hbody : destructure body with
      | error message => exact .inl ⟨message, by simp only [bind, Except.bind, hbody]⟩
      | ok names =>
          obtain ⟨endpoint, payload⟩ := names
          obtain ⟨hendpoint, hpayload⟩ := destructure_ok hbody
          obtain ⟨missing, hmissing⟩ := errorBody_ok json "Missing endpoint parameter"
          obtain ⟨refused, hrefused⟩ := errorBody_ok json "Endpoint not allowed"
          simp only [bind, Except.bind, hbody, hmissing, hrefused]
          split
          · exact .inr (.inl ⟨_, rfl, nofun⟩)
          · split
            · rename_i url _
              split
              · rename_i hurl
                refine .inr (.inr ⟨url, payload, rfl, hmethod, ?_, hurl⟩)
                exact ⟨body, hparse, hendpoint, hpayload⟩
              · exact .inr (.inl ⟨_, rfl, nofun⟩)
            · exact .inr (.inl ⟨_, rfl, nofun⟩)

variable (json) in
/-- **The start**: the handler returns no 200, or creates a socket that the request asks for. -/
theorem start_cases (event : Request) :
    (∃ response, Handler.start json event = .settled (.ok response) ∧
      response.statusCode ≠ 200) ∨
    ∃ url payload, Handler.start json event = .running (.start url payload) ∧
      Asks json event url payload := by
  unfold Handler.start
  by_cases hmethod : event.httpMethod = "POST"
  · rw [if_neg (not_not.mpr hmethod)]
    rcases validate_cases hmethod with ⟨message, h⟩ | ⟨response, h, hne⟩ | ⟨url, payload, h, hasks⟩
    · obtain ⟨body, hbody⟩ := recover_error json message
      rw [h]
      exact .inl ⟨_, congrArg Handler.settled hbody, nofun⟩
    · rw [h]
      exact .inl ⟨response, rfl, hne⟩
    · rw [h]
      exact .inr ⟨url, payload, rfl, hasks⟩
  · rw [if_pos hmethod]
    exact .inl ⟨_, rfl, nofun⟩

end

end SubstrateDevTemplate.Proxy
