import SubstrateDevTemplate.Support.Runs
import SubstrateDevTemplate.Proxy.Steps

/-!
# Proxy — what is relayed

To whom a socket is opened, and what a 200 stands for.  Both promises settle once, so a late event
of the socket, or the first timer when it fires during the second wait, changes no response.

* `proxy_relays`: a socket is to an allowed endpoint that the request names; what the handler has
  returned is one response, for good; a 200 is the first message after the payload was sent.

The invariant is `Trace`, of the events so far.
-/

namespace SubstrateDevTemplate.Proxy
open Js (Json JSON Promise)
open Transition (Run anyEvent)

/-- The socket opened, with no error and no timeout before; the handler went on, and sent the
payload, once; then `body` was delivered, with no other message, no error and no timeout since. -/
def Relayed (es : List Event) (body : String) : Prop :=
  ∃ before opened waiting rest,
    es = before ++ .open :: opened ++ .resume :: waiting ++ .message body :: rest ∧
    (∀ e ∈ before, e.connects = .pending) ∧ .resume ∉ before ++ opened ∧
    ∀ e ∈ waiting, e.responds = .pending

/-- Where the events `es` have got the handler. -/
inductive Trace (json : JSON) (es : List Event) (s : Session) : Prop where
  | connecting (hstage : s.stage = .connecting) (hes : .resume ∉ es)
      (hconnect : s.connectPromise = .race (es.map Event.connects))
      (hresponse : s.responsePromise = none) (hsent : s.socket.sent = [])
  | refused (message : String) (hstage : s.stage = .settled (recover json (.error message)))
  | responding (before after : List Event) (hstage : s.stage = .responding)
      (hes : es = before ++ .resume :: after) (hbefore : .resume ∉ before)
      (hconnect : .race (before.map Event.connects) = Promise.fulfilled ())
      (hresponse : s.responsePromise = some (.race (after.map Event.responds)))
      (hsent : payloadTexts json s.payload = .ok s.socket.sent)
  | answered (response : String) (hstage : s.stage = .settled (recover json (.ok ⟨200, response⟩)))
      (hes : Relayed es response) (hsent : payloadTexts json s.payload = .ok s.socket.sent)

section
variable {json : JSON} {es : List Event} {s s' : Session} {e : Event}

/-- More events after a message do not change that it was relayed. -/
theorem Relayed.concat {body : String} (h : Relayed es body) (e : Event) :
    Relayed (es ++ [e]) body := by
  obtain ⟨before, opened, waiting, rest, rfl, h₁, h₂, h₃⟩ := h
  refine ⟨before, opened, waiting, rest ++ [e], ?_, h₁, h₂, h₃⟩
  simp only [List.append_assoc, List.cons_append]

/-- The promises say what was relayed. -/
theorem relayed_of_race {before after : List Event} {body : String} (hno : .resume ∉ before)
    (hconnect : .race (before.map Event.connects) = Promise.fulfilled ())
    (hresponse : .race (after.map Event.responds) = Promise.fulfilled body) :
    Relayed (before ++ .resume :: after) body := by
  obtain ⟨before₁, e₁, opened, rfl, he₁, h₁⟩ :=
    Promise.race_map_settled (f := Event.connects)
      (by rw [hconnect]; exact Promise.fulfilled_settled ())
  obtain ⟨waiting, e₂, rest, rfl, he₂, h₂⟩ :=
    Promise.race_map_settled (f := Event.responds)
      (by rw [hresponse]; exact Promise.fulfilled_settled body)
  rw [hconnect] at he₁
  rw [hresponse] at he₂
  cases e₁ with
  | «open» =>
      cases e₂ with
      | message data =>
          cases he₂
          refine ⟨before₁, opened, waiting, rest, by simp, h₁, fun hmem => hno ?_, h₂⟩
          rcases List.mem_append.mp hmem with hmem | hmem
          · exact List.mem_append_left _ hmem
          · exact List.mem_append_right _ (List.mem_cons_of_mem _ hmem)
      | «open» | error | connectTimeout | responseTimeout | resume => cases he₂
  | error | message | connectTimeout | responseTimeout | resume => cases he₁

/-- An event of the socket, or a timer, keeps the trace: a wait hears it, and nothing else does. -/
theorem trace_heard (hI : Trace json es s) (hne : e ≠ .resume) (heard : Heard s e s') :
    Trace json (es ++ [e]) s' := by
  cases hI with
  | connecting hstage hes hconnect hresponse hsent =>
      refine .connecting (heard.stage.trans hstage) ?_ ?_ ?_ (heard.sent.trans hsent)
      · intro hmem
        rcases List.mem_append.mp hmem with hmem | hmem
        · exact hes hmem
        · exact hne (List.mem_singleton.mp hmem).symm
      · rw [heard.connectPromise, hconnect, List.map_append, List.map_singleton,
          Promise.race_concat]
      · rw [heard.responsePromise, hresponse, Option.map_none]
  | refused message hstage => exact .refused message (heard.stage.trans hstage)
  | responding before after hstage hes hbefore hconnect hresponse hsent =>
      refine .responding before (after ++ [e]) (heard.stage.trans hstage) ?_ hbefore hconnect ?_ ?_
      · rw [hes, List.append_assoc, List.cons_append]
      · rw [heard.responsePromise, hresponse, Option.map_some, List.map_append,
          List.map_singleton, Promise.race_concat]
      · rw [heard.sent, heard.payload, hsent]
  | answered response hstage hes hsent =>
      refine .answered response (heard.stage.trans hstage) (hes.concat e) ?_
      rw [heard.sent, heard.payload, hsent]

/-- The handler goes on: a wait is over, with what the events have settled its promise to. -/
theorem trace_resumes (hI : Trace json es s) (hresumes : Resumes json s s') :
    Trace json (es ++ [.resume]) s' := by
  cases hI with
  | connecting hstage hes hconnect hresponse hsent =>
      cases hresumes with
      | opened texts _ hopen htexts =>
          refine .responding es [] rfl rfl hes (hconnect ▸ hopen) rfl ?_
          have hall : s.socket.sent ++ texts = texts := by rw [hsent, List.nil_append]
          exact htexts.trans (congrArg Except.ok hall.symm)
      | unsent message | refused message => exact .refused message rfl
      | answered _ hstage' | unanswered _ hstage' => rw [hstage] at hstage'; cases hstage'
  | responding before after hstage hes hbefore hconnect hresponse hsent =>
      cases hresumes with
      | opened _ hstage' | unsent _ hstage' | refused _ hstage' =>
          rw [hstage] at hstage'
          cases hstage'
      | answered response _ hanswer =>
          rw [hresponse, Option.some.injEq] at hanswer
          have hrelayed := hes ▸ relayed_of_race hbefore hconnect hanswer
          exact .answered response rfl (hrelayed.concat _) hsent
      | unanswered message => exact .refused message rfl
  | refused message hstage | answered message hstage => exact absurd hstage hresumes.not_settled

/-- **One event** keeps the trace. -/
theorem trace_step (hI : Trace json es s) (h : s.step json e = some s') :
    Trace json (es ++ [e]) s' := by
  rcases step_cases h with ⟨hne, heard⟩ | ⟨rfl, hresumes⟩
  · exact trace_heard hI hne heard
  · exact trace_resumes hI hresumes

/-- The payload and the URL stay. -/
theorem step_request (h : s.step json e = some s') :
    s'.payload = s.payload ∧ s'.socket.url = s.socket.url := by
  rcases step_cases h with ⟨-, heard⟩ | ⟨-, hresumes⟩
  · exact ⟨heard.payload, heard.url⟩
  · cases hresumes with
    | opened | unsent | refused | answered | unanswered => exact ⟨rfl, rfl⟩

/-! ### The handler -/

/-- The handler settled without a socket, or has one that the request asks for. -/
inductive Handles (json : JSON) (event : Request) (es : List Event) : Handler → Prop where
  | settled (response : Response) (h : response.statusCode ≠ 200) :
      Handles json event es (.settled (.ok response))
  | running (s : Session) (hasks : Asks json event s.socket.url s.payload)
      (htrace : Trace json es s) : Handles json event es (.running s)

variable {event : Request} {h h' : Handler}

theorem handles_start : Handles json event [] (.start json event) := by
  rcases start_cases json event with
    ⟨response, hstart, hne⟩ | ⟨url, payload, hstart, hasks⟩
  · rw [hstart]
    exact .settled response hne
  · rw [hstart]
    refine .running _ hasks (.connecting rfl ?_ rfl rfl rfl)
    rintro ⟨⟩

theorem handles_step (hI : Handles json event es h) (hs : h.step json e = some h') :
    Handles json event (es ++ [e]) h' := by
  cases hI with
  | settled => cases hs
  | running s hasks htrace =>
      obtain ⟨s', hstep, rfl⟩ := Option.map_eq_some_iff.mp hs
      obtain ⟨hpayload, hurl⟩ := step_request hstep
      exact .running s' (by rw [hpayload, hurl]; exact hasks) (trace_step htrace hstep)

/-- A settled handler stays as it is. -/
theorem result_step {result : Except String Response} (hr : h.result = some result)
    (hs : h.step json e = some h') : h'.result = some result := by
  cases h with
  | settled => cases hs
  | running s =>
      obtain ⟨s', hstep, rfl⟩ := Option.map_eq_some_iff.mp hs
      simp only [Handler.result] at hr
      split at hr
      · rename_i hstage
        rcases step_cases hstep with ⟨-, heard⟩ | ⟨-, hresumes⟩
        · simp only [Handler.result, heard.stage, hstage]
          exact hr
        · exact absurd hstage hresumes.not_settled
      · cases hr

/-- **What the proxy relays**, whatever the request is, and in whatever order the socket and the
timers do what they do. -/
theorem proxy_relays (hrun : Run (Handler.step json) anyEvent (.start json event) es h) :
    (∀ ws, h.socket = some ws → ∃ payload, Asks json event ws.url payload) ∧
    ∀ result, h.result = some result →
      (∀ es' h', Run (Handler.step json) anyEvent h es' h' → h'.result = some result) ∧
      ∃ response, result = .ok response ∧ (response.statusCode = 200 →
        ∃ ws payload, h.socket = some ws ∧ Asks json event ws.url payload ∧
          payloadTexts json payload = .ok ws.sent ∧ Relayed es response.body) := by
  have hI : Handles json event (es.reverse ++ []).reverse h := by
    refine hrun.invariant_history (I := fun past h => Handles json event past.reverse h) ?_
      handles_start
    intro past h e h' hI _ hs
    rw [List.reverse_cons]
    exact handles_step hI hs
  rw [List.append_nil, List.reverse_reverse] at hI
  refine ⟨?_, fun result hresult => ⟨?_, ?_⟩⟩
  · cases hI with
    | settled => nofun
    | running s hasks _ =>
        rintro ws ⟨⟩
        exact ⟨s.payload, hasks⟩
  · intro es' h' hrun'
    exact hrun'.invariant (I := fun h => h.result = some result)
      (fun _ _ _ hr _ hs => result_step hr hs) hresult
  · cases hI with
    | settled response hne =>
        cases hresult
        exact ⟨response, rfl, fun h200 => absurd h200 hne⟩
    | running s hasks htrace =>
        cases htrace with
        | connecting hstage | responding _ _ hstage =>
            rw [Handler.result, hstage] at hresult
            cases hresult
        | refused message hstage =>
            obtain ⟨body, hbody⟩ := recover_error json message
            rw [Handler.result, hstage, hbody] at hresult
            cases hresult
            exact ⟨_, rfl, nofun⟩
        | answered response hstage hes hsent =>
            rw [Handler.result, hstage] at hresult
            cases hresult
            exact ⟨_, rfl, fun _ => ⟨s.socket, s.payload, rfl, hasks, hsent, hes⟩⟩

end

/-- A request that asks for `"ping"` to be sent to Polkadot. -/
def pingBody : String :=
  "\x7b\"endpoint\":\"wss://rpc.polkadot.io\",\"payload\":\"ping\"\x7d"

/-- JSON, as far as that goes. -/
def pingJson : JSON where
  parse text :=
    if text = pingBody then
      .ok (.object [("endpoint", .string "wss://rpc.polkadot.io"), ("payload", .string "ping")])
    else .error "Unexpected end of JSON input"
  stringify
    | .string s => .ok ("\"" ++ s ++ "\"")
    | .object [(name, .string s)] => .ok ("\x7b\"" ++ name ++ "\":\"" ++ s ++ "\"\x7d")
    | _ => .error "Maximum call stack size exceeded"
  stringify_flat _ _ := ⟨_, rfl⟩

/-- The first timer fires while the answer is waited for. -/
theorem proxy_relays_ping :
    ∃ h, Run (Handler.step pingJson) anyEvent (.start pingJson ⟨"POST", some pingBody⟩)
        [.open, .resume, .connectTimeout, .message "pong", .resume] h ∧
      ∃ ws payload, h.socket = some ws ∧ Asks pingJson ⟨"POST", some pingBody⟩ ws.url payload ∧
        payloadTexts pingJson payload = .ok ws.sent := by
  obtain ⟨h, hrun, hresult⟩ : ∃ h, Run (Handler.step pingJson) anyEvent
      (.start pingJson ⟨"POST", some pingBody⟩)
      [.open, .resume, .connectTimeout, .message "pong", .resume] h ∧
      h.result = some (.ok ⟨200, "pong"⟩) := Transition.exists_run (by decide)
  obtain ⟨-, response, hok, h200⟩ := (proxy_relays hrun).2 _ hresult
  cases hok
  obtain ⟨ws, payload, hws, hasks, hsent, -⟩ := h200 rfl
  exact ⟨h, hrun, ws, payload, hws, hasks, hsent⟩

end SubstrateDevTemplate.Proxy
