import SubstrateDevTemplate.Proxy.Relay

/-!
# Proxy — the socket is released

Who closes the socket.  The second promise is settled by a message or by its timer, which close the
socket, or by an error, which has ended it.  On two ways out of the first wait nobody does: the
first timer only rejects, and a socket that does not open in time is left to itself when the handler
returns; and where the payload cannot be written the handler returns with the socket it has opened.

* `socket_released`: in every run in which the first timer fires only once the first promise is
  settled, and the payload of an opened socket can be written, the handler has released its socket
  when it returns.
* `timeout_not_released`, `unsent_not_released`: where the timer settles it, or the payload cannot
  be written, the handler can return without.

The invariant is `Accounted`.  `Waits` says what a wait can still be ended by.
-/

namespace SubstrateDevTemplate.Proxy
open Js (Json JSON Promise)
open Transition (Run anyEvent)

/-- A socket has been released by the time the handler has settled. -/
def Released (h : Handler) : Prop :=
  ∀ ws result, h.socket = some ws → h.result = some result → ws.Released

/-- The payload is falsy, or can be written. -/
def Sendable (json : JSON) (payload : Option Json) : Prop :=
  (payloadTexts json payload).isOk = true

/-- The first timer fires when the socket has opened or failed; and the handler goes on with a
socket that has opened only if the payload can be written. -/
def OpensAndSends (json : JSON) : Handler → Event → Prop
  | .running s, .connectTimeout => s.connectPromise.Settled
  | .running s, .resume => s.connectPromise = .fulfilled () → Sendable json s.payload
  | _, _ => True

instance (json : JSON) : (h : Handler) → (e : Event) → Decidable (OpensAndSends json h e)
  | .running s, .connectTimeout => inferInstanceAs (Decidable s.connectPromise.Settled)
  | .running s, .resume =>
      inferInstanceAs (Decidable (s.connectPromise = .fulfilled () →
        (payloadTexts json s.payload).isOk = true))
  | .running _, .open | .running _, .error _ | .running _, .message _
  | .running _, .responseTimeout | .settled _, _ => isTrue trivial

/-- Whatever ends a wait has released the socket. -/
structure Accounted (s : Session) : Prop where
  refused : ∀ message, s.connectPromise = .rejected message → s.socket.Released
  answered : ∀ p, s.responsePromise = some p → p.Settled → s.socket.Released
  settled : ∀ result, s.stage = .settled result → s.socket.Released

section
variable {json : JSON} {s s' : Session} {e : Event}

theorem accounted_start (url : String) (payload : Option Json) :
    Accounted (.start url payload) where
  refused _ h := nomatch h
  answered _ h := nomatch h
  settled _ h := nomatch h

/-- Only the first timer rejects the first promise without an end of the socket. -/
theorem heard_refused (hI : Accounted s) (hg : e = .connectTimeout → s.connectPromise.Settled)
    (heard : Heard s e s') {message : String} (h : s'.connectPromise = .rejected message) :
    s'.socket.Released := by
  rw [heard.connectPromise] at h
  by_cases hp : s.connectPromise = .pending
  · rw [hp, Promise.pending_settle] at h
    cases e with
    | error reason => exact heard.ended reason rfl
    | connectTimeout => exact absurd hp (hg rfl)
    | «open» | message | responseTimeout | resume => cases h
  · rw [Promise.settle_settled hp] at h
    exact heard.released (hI.refused message h)

theorem heard_answered (hI : Accounted s) (heard : Heard s e s') {p : Promise String}
    (h : s'.responsePromise = some p) (hp : p.Settled) : s'.socket.Released := by
  rw [heard.responsePromise] at h
  obtain ⟨q, hq, rfl⟩ := Option.map_eq_some_iff.mp h
  by_cases hpending : q = .pending
  · rw [hpending, Promise.pending_settle] at hp
    exact heard.answered hp (by rw [hq]; exact Option.some_ne_none q)
  · exact heard.released (hI.answered q hq hpending)

/-- **One event** keeps the account. -/
theorem accounted_step (hI : Accounted s) (hg : OpensAndSends json (.running s) e)
    (h : s.step json e = some s') : Accounted s' := by
  rcases step_cases h with ⟨-, heard⟩ | ⟨rfl, hresumes⟩
  · have htimeout : e = .connectTimeout → s.connectPromise.Settled := by
      rintro rfl
      exact hg
    refine ⟨fun message hc => heard_refused hI htimeout heard hc,
      fun p hr hp => heard_answered hI heard hr hp, fun result hstage => ?_⟩
    exact heard.released (hI.settled result (heard.stage.symm.trans hstage))
  · cases hresumes with
    | opened _ _ hopen =>
        refine ⟨fun message hc => ?_, fun p hr hp => ?_, fun result hstage => ?_⟩
        · have hboth := hopen.symm.trans hc
          cases hboth
        · obtain rfl := Option.some.inj hr
          exact absurd rfl hp
        · cases hstage
    | unsent message _ hopen hthrows =>
        have hsendable := hg hopen
        rw [Sendable, hthrows] at hsendable
        cases hsendable
    | refused message _ hrefused =>
        have hws := hI.refused message hrefused
        exact ⟨fun _ _ => hws, fun _ _ _ => hws, fun _ _ => hws⟩
    | answered response _ hanswered =>
        have hws := hI.answered _ hanswered (Promise.fulfilled_settled response)
        exact ⟨fun _ _ => hws, fun _ _ _ => hws, fun _ _ => hws⟩
    | unanswered message _ hanswered =>
        have hws := hI.answered _ hanswered (Promise.rejected_settled message)
        exact ⟨fun _ _ => hws, fun _ _ _ => hws, fun _ _ => hws⟩

variable {event : Request} {es : List Event} {h : Handler}

/-- What every admitted event preserves of a call with a socket holds along every run. -/
theorem session_invariant {I : Session → Prop} {guard : Handler → Event → Prop}
    (hrun : Run (Handler.step json) guard (.start json event) es h)
    (hstart : ∀ url payload, I (.start url payload))
    (hI : ∀ s e s', I s → guard (.running s) e → s.step json e = some s' → I s') :
    ∀ s, h = .running s → I s := by
  refine hrun.invariant (I := fun h => ∀ s, h = .running s → I s) ?_ ?_
  · intro h e h' hh hg hs s' hs'
    cases h with
    | settled => cases hs
    | running s =>
        subst hs'
        obtain ⟨s₁, hstep, heq⟩ := Option.map_eq_some_iff.mp hs
        cases heq
        exact hI s e s' (hh s rfl) hg hstep
  · intro s hs
    rcases start_cases json event with ⟨response, hsettled, -⟩ | ⟨url, payload, hruns, -⟩
    · rw [hsettled] at hs
      cases hs
    · rw [hruns] at hs
      cases hs
      exact hstart url payload

/-- **The socket is released**, in every run in which it opens or fails before the first timer, and
is sent what can be written. -/
theorem socket_released
    (hrun : Run (Handler.step json) (OpensAndSends json) (.start json event) es h) :
    Released h := by
  have hI : ∀ s, h = .running s → Accounted s :=
    session_invariant hrun (fun _ _ => accounted_start _ _)
      fun s e s' hI hg hstep => accounted_step hI hg hstep
  intro ws result hws hresult
  cases h with
  | settled => cases hws
  | running s =>
      cases hws
      simp only [Handler.result] at hresult
      split at hresult
      · rename_i result' hstage
        exact (hI s rfl).settled result' hstage
      · cases hresult

/-! ### The ways out that release nothing -/

variable (json) in
/-- The first timer fires with the first promise pending. -/
theorem connectTimeout_fires (hpending : s.connectPromise = .pending)
    (htimer : s.connectTimer = true) :
    ∃ s', s.step json .connectTimeout = some s' ∧ s'.stage = s.stage ∧ s'.socket = s.socket ∧
      s'.connectPromise = .rejected "Connection timeout" := by
  refine ⟨_, if_pos htimer, rfl, rfl, ?_⟩
  rw [Session.settleConnect, hpending, Promise.pending_settle]

variable (json) in
theorem step_refused {message : String} (hstage : s.stage = .connecting)
    (h : s.connectPromise = .rejected message) :
    s.step json .resume = some (s.finish json (.error message)) := by
  simp only [Session.step, Session.resume, hstage, h]

theorem Handler.step_running (h : s.step json e = some s') :
    Handler.step json (.running s) e = some (.running s') := by
  rw [Handler.step, h, Option.map_some]

/-- Where the first timer settles the first promise, the handler can return with its socket left to
itself. -/
theorem timeout_not_released (hstage : s.stage = .connecting)
    (hpending : s.connectPromise = .pending) (htimer : s.connectTimer = true)
    (hws : ¬ s.socket.Released) :
    ∃ h, Run (Handler.step json) anyEvent (.running s) [.connectTimeout, .resume] h ∧
      ¬ Released h := by
  obtain ⟨s₁, hfires, hstage₁, hsocket, hrefused⟩ :=
    connectTimeout_fires json hpending htimer
  have hresume := step_refused json (hstage₁.trans hstage) hrefused
  refine ⟨_, .more trivial (Handler.step_running hfires)
    (.one trivial (Handler.step_running hresume)), fun hreleased => hws ?_⟩
  rw [← hsocket]
  exact hreleased _ _ rfl rfl

/-- Where the payload cannot be written, the handler returns with its socket open. -/
theorem unsent_not_released (hstage : s.stage = .connecting)
    (hopen : s.connectPromise = .fulfilled ()) (hthrows : ¬ Sendable json s.payload)
    (hws : ¬ s.socket.Released) :
    ∃ h, Run (Handler.step json) anyEvent (.running s) [.resume] h ∧ ¬ Released h := by
  cases htexts : payloadTexts json s.payload with
  | ok texts => exact absurd (congrArg Except.isOk htexts) hthrows
  | error message =>
      have hresume : s.step json .resume = some (s.finish json (.error message)) := by
        simp only [Session.step, Session.resume, hstage, hopen, Session.opened_eq, htexts]
      refine ⟨_, .one trivial (Handler.step_running hresume), fun hreleased => hws ?_⟩
      exact hreleased _ _ rfl rfl

/-! ### What ends a wait -/

/-- A wait that nothing has ended has its timer running. -/
structure Waits (s : Session) : Prop where
  connecting : s.stage = .connecting → s.connectPromise = .pending → s.connectTimer = true
  responding : s.stage = .responding →
    ∃ p, s.responsePromise = some p ∧ (p = .pending → s.responseTimer = true)

theorem waits_start (url : String) (payload : Option Json) : Waits (.start url payload) where
  connecting _ _ := rfl
  responding h := nomatch h

theorem waits_step (hI : Waits s) (h : s.step json e = some s') : Waits s' := by
  rcases step_cases h with ⟨-, heard⟩ | ⟨-, hresumes⟩
  · constructor
    · intro hstage hpending
      rw [heard.connectPromise, Promise.settle_eq_pending] at hpending
      rw [heard.connectTimer hpending.2]
      exact hI.connecting (heard.stage.symm.trans hstage) hpending.1
    · intro hstage
      obtain ⟨p, hp, htimer⟩ := hI.responding (heard.stage.symm.trans hstage)
      refine ⟨p.settle e.responds, ?_, fun hpending => ?_⟩
      · rw [heard.responsePromise, hp, Option.map_some]
      · rw [Promise.settle_eq_pending] at hpending
        rw [heard.responseTimer hpending.2]
        exact htimer hpending.1
  · cases hresumes with
    | opened => exact ⟨nofun, fun _ => ⟨.pending, rfl, fun _ => rfl⟩⟩
    | unsent | refused | answered | unanswered => exact ⟨nofun, nofun⟩

/-- The event is none of the socket. -/
def Event.ofHandler : Event → Bool
  | .connectTimeout | .responseTimeout | .resume => true
  | .open | .error _ | .message _ => false

end

/-- A message in time. -/
theorem socket_released_ping :
    ∃ h, Run (Handler.step pingJson) (OpensAndSends pingJson)
        (.start pingJson ⟨"POST", some pingBody⟩)
        [.open, .resume, .connectTimeout, .message "pong", .resume] h ∧ Released h :=
  Transition.exists_run_and (by decide) fun _ hrun => socket_released hrun

/-- A socket that never opens. -/
theorem connect_timeout_not_released :
    ¬ ∀ (json : JSON) (event : Request) (es : List Event) (h : Handler),
      Run (Handler.step json) anyEvent (.start json event) es h → Released h := by
  intro hall
  obtain ⟨h, hrun, hws, hresult⟩ : ∃ h, Run (Handler.step pingJson) anyEvent
      (.start pingJson ⟨"POST", some pingBody⟩) [.connectTimeout, .resume] h ∧
      h.socket = some ⟨"wss://rpc.polkadot.io", [], 0, false⟩ ∧ h.result ≠ none :=
    Transition.exists_run (by decide)
  obtain ⟨result, hresult⟩ := Option.ne_none_iff_exists'.mp hresult
  have hreleased := hall _ _ _ h hrun _ result hws hresult
  revert hreleased
  decide

end SubstrateDevTemplate.Proxy
