import SubstrateDevTemplate.Proxy.Release
import SubstrateDevTemplate.Support.Work

/-!
# Proxy — the handler ends

The timers fire once each, and the handler goes on twice at most, whatever its socket does
meanwhile, and however often.  Where neither timer runs and the handler cannot go on, it has
returned.

* `works`: a timer that fires, and the handler that goes on, do a part of the work in hand; the
  socket adds none.
* `Sends`, `sends_step`: what has been sent.
* `handler_ends`: the handler ends, with a response; and what it has sent by then is the payload,
  once, to a socket that had opened.
-/

namespace SubstrateDevTemplate.Proxy
open Js (Json JSON Promise)
open Transition (Run Stuck Works anyEvent exists_run_and)

/-- How often the handler may still go on, counting a timer that is yet to be set. -/
def Stage.ahead : Stage → Nat
  | .connecting => 3
  | .responding => 1
  | .settled _ => 0

/-- That, with the timers that are yet to fire. -/
def Session.work (s : Session) : Nat :=
  s.stage.ahead + s.connectTimer.toNat + s.responseTimer.toNat

def Handler.work : Handler → Nat
  | .settled _ => 0
  | .running s => s.work

section
variable {json : JSON} {s s' : Session} {e : Event}

/-- A timer that fires is not set any more, and nothing else sets one off. -/
theorem work_heard (hne : e ≠ .resume) (h : s.step json e = some s') :
    s'.work ≤ s.work ∧ (e.ofHandler = true → s'.work < s.work) := by
  cases e with
  | resume => exact absurd rfl hne
  | «open» =>
      cases h
      exact ⟨Nat.le_refl _, by rintro ⟨⟩⟩
  | error message =>
      cases h
      exact ⟨Nat.le_refl _, by rintro ⟨⟩⟩
  | message data =>
      simp only [Session.step] at h
      split at h
      · cases h
        exact ⟨Nat.le_refl _, by rintro ⟨⟩⟩
      · cases h
        exact ⟨Nat.le_refl _, by rintro ⟨⟩⟩
  | connectTimeout =>
      simp only [Session.step] at h
      split at h
      · rename_i htimer
        cases h
        have hlt : (Session.settleConnect { s with connectTimer := false }
            (.rejected "Connection timeout")).work < s.work := by
          simp only [Session.work, Session.settleConnect, htimer, Bool.toNat_true, Bool.toNat_false]
          omega
        exact ⟨hlt.le, fun _ => hlt⟩
      · cases h
  | responseTimeout =>
      simp only [Session.step] at h
      split at h
      · rename_i htimer
        cases h
        have hlt : ({ s with responseTimer := false }.close.settleResponse
            (.rejected "Response timeout")).work < s.work := by
          simp only [Session.work, Session.settleResponse, Session.close, htimer, Bool.toNat_true,
            Bool.toNat_false]
          omega
        exact ⟨hlt.le, fun _ => hlt⟩
      · cases h

/-- The handler that goes on has gone on once; where it sets the second timer, that was counted. -/
theorem work_resumes (h : Resumes json s s') : s'.work < s.work := by
  cases h with
  | opened texts hstage =>
      simp only [Session.awaitResponse, Session.sendTexts, Session.work, hstage, Stage.ahead,
        Bool.toNat_true]
      omega
  | unsent _ hstage | refused _ hstage | answered _ hstage | unanswered _ hstage =>
      simp only [Session.finish, Session.work, hstage, Stage.ahead]
      omega

variable (json) in
/-- **A timer that fires, or the handler that goes on**, does a part of the work; the socket adds
none. -/
theorem works : Works (Handler.step json) anyEvent Event.ofHandler Handler.work := by
  have hstep : ∀ h e h', Handler.step json h e = some h' →
      h'.work ≤ h.work ∧ (e.ofHandler = true → h'.work < h.work) := by
    intro h e h' hs
    cases h with
    | settled => cases hs
    | running s =>
        obtain ⟨s', hstep, rfl⟩ := Option.map_eq_some_iff.mp hs
        rcases step_cases hstep with ⟨hne, -⟩ | ⟨-, hresumes⟩
        · exact work_heard hne hstep
        · have hlt := work_resumes hresumes
          exact ⟨hlt.le, fun _ => hlt⟩
  exact ⟨fun h e h' _ hs he => (hstep h e h' hs).2 he, fun h e h' _ hs => (hstep h e h' hs).1⟩

/-- A call that waits has something to wait for. -/
theorem settled_of_stuck (hI : Waits s)
    (hstuck : Stuck (Handler.step json) Event.ofHandler (.running s)) :
    ∃ result, s.stage = .settled result := by
  have hnone : ∀ e, e.ofHandler = true → s.step json e = none :=
    fun e he => Option.map_eq_none_iff.mp (hstuck e he)
  cases hstage : s.stage with
  | settled result => exact ⟨result, rfl⟩
  | connecting =>
      have hresume := hnone .resume rfl
      simp only [Session.step, Session.resume, hstage] at hresume
      cases hc : s.connectPromise with
      | fulfilled u => rw [hc] at hresume; cases hresume
      | rejected message => rw [hc] at hresume; cases hresume
      | pending =>
          have htimeout := hnone .connectTimeout rfl
          simp only [Session.step, hI.connecting hstage hc] at htimeout
          cases htimeout
  | responding =>
      obtain ⟨p, hp, htimer⟩ := hI.responding hstage
      have hresume := hnone .resume rfl
      simp only [Session.step, Session.resume, hstage, hp] at hresume
      cases hpending : p with
      | fulfilled response => rw [hpending] at hresume; cases hresume
      | rejected message => rw [hpending] at hresume; cases hresume
      | pending =>
          have htimeout := hnone .responseTimeout rfl
          simp only [Session.step, htimer hpending] at htimeout
          cases htimeout

/-! ### What is sent -/

/-- Nothing has been sent; or the socket has opened, and the payload has been sent, once. -/
structure Sends (json : JSON) (past : List Event) (s : Session) : Prop where
  opens : ∀ u, s.connectPromise = .fulfilled u → .open ∈ past
  first : s.stage = .connecting → s.socket.sent = []
  sent : s.socket.sent = [] ∨ .open ∈ past ∧ payloadTexts json s.payload = .ok s.socket.sent

theorem sends_step {past : List Event} (hI : Sends json past s) (h : s.step json e = some s') :
    Sends json (e :: past) s' := by
  have hmem : .open ∈ past → .open ∈ e :: past := List.mem_cons_of_mem e
  rcases step_cases h with ⟨-, heard⟩ | ⟨rfl, hresumes⟩
  · refine ⟨fun u hu => ?_, fun hstage => ?_, ?_⟩
    · rw [heard.connectPromise] at hu
      by_cases hp : s.connectPromise = .pending
      · rw [hp, Promise.pending_settle] at hu
        cases e with
        | «open» => exact List.mem_cons_self
        | error | message | connectTimeout | responseTimeout | resume => cases hu
      · rw [Promise.settle_settled hp] at hu
        exact hmem (hI.opens u hu)
    · rw [heard.sent]
      exact hI.first (heard.stage.symm.trans hstage)
    · rw [heard.sent, heard.payload]
      exact hI.sent.imp id fun ⟨hopen, hsent⟩ => ⟨hmem hopen, hsent⟩
  · cases hresumes with
    | opened texts hstage hopen htexts =>
        have hpast := hmem (hI.opens () hopen)
        have hall : s.socket.sent ++ texts = texts := by rw [hI.first hstage, List.nil_append]
        exact ⟨fun _ _ => hpast, by rintro ⟨⟩,
          .inr ⟨hpast, htexts.trans (congrArg Except.ok hall.symm)⟩⟩
    | unsent _ hstage | refused _ hstage | answered _ hstage | unanswered _ hstage =>
        exact ⟨fun u hu => hmem (hI.opens u hu), by rintro ⟨⟩,
          hI.sent.imp id fun ⟨hopen, hsent⟩ => ⟨hmem hopen, hsent⟩⟩

/-! ### The handler -/

variable (json) in
/-- `catch` lets nothing through. -/
theorem recover_ok (result : Except String Response) :
    ∃ response, recover json result = .ok response := by
  cases result with
  | error message =>
      obtain ⟨body, hbody⟩ := recover_error json message
      exact ⟨_, hbody⟩
  | ok response => exact ⟨response, rfl⟩

/-- What holds of a call with a socket, after the events of `past`. -/
structure Ends (json : JSON) (event : Request) (past : List Event) (s : Session) : Prop where
  asks : Asks json event s.socket.url s.payload
  waits : Waits s
  sends : Sends json past s
  responds : ∀ result, s.stage = .settled result → ∃ response, result = .ok response

/-- The same of every call. -/
def Handler.Ends (json : JSON) (event : Request) (past : List Event) : Handler → Prop
  | .settled result => ∃ response, result = .ok response
  | .running s => Proxy.Ends json event past s

variable {event : Request} {es : List Event} {h h' : Handler}

theorem ends_start : Handler.Ends json event [] (.start json event) := by
  rcases start_cases json event with ⟨response, hstart, -⟩ | ⟨url, payload, hstart, hasks⟩
  · rw [hstart]
    exact ⟨response, rfl⟩
  · rw [hstart]
    exact ⟨hasks, waits_start url payload, ⟨by rintro u ⟨⟩, fun _ => rfl, .inl rfl⟩,
      by rintro result ⟨⟩⟩

theorem ends_step {past : List Event} (hI : Handler.Ends json event past h)
    (hs : h.step json e = some h') : Handler.Ends json event (e :: past) h' := by
  cases h with
  | settled => cases hs
  | running s =>
      obtain ⟨s', hstep, rfl⟩ := Option.map_eq_some_iff.mp hs
      obtain ⟨hpayload, hurl⟩ := step_request hstep
      have hends : Proxy.Ends json event past s := hI
      refine ⟨by rw [hpayload, hurl]; exact hends.asks, waits_step hends.waits hstep,
        sends_step hends.sends hstep, fun result hstage => ?_⟩
      rcases step_cases hstep with ⟨-, heard⟩ | ⟨-, hresumes⟩
      · exact hends.responds result (heard.stage.symm.trans hstage)
      · cases hresumes with
        | opened => cases hstage
        | unsent | refused | answered | unanswered =>
            cases hstage
            exact recover_ok json _

theorem ends_run {past : List Event} {h₀ : Handler} (h₀ends : Handler.Ends json event past h₀)
    (hrun : Run (Handler.step json) anyEvent h₀ es h) :
    Handler.Ends json event (es.reverse ++ past) h :=
  hrun.invariant_history (fun _ _ _ _ hI _ hs => ends_step hI hs) h₀ends

/-- A call that cannot go on has responded. -/
theorem Handler.Ends.responded {past : List Event} (hends : h.Ends json event past)
    (hstuck : Stuck (Handler.step json) Event.ofHandler h) :
    ∃ response, h.result = some (.ok response) := by
  cases h with
  | settled result =>
      obtain ⟨response, rfl⟩ := hends
      exact ⟨response, rfl⟩
  | running s =>
      obtain ⟨result, hstage⟩ := settled_of_stuck hends.waits hstuck
      obtain ⟨response, rfl⟩ := hends.responds result hstage
      exact ⟨response, by simp only [Handler.result, hstage]⟩

variable (json event) in
theorem work_start : (Handler.start json event).work ≤ 4 := by
  rcases start_cases json event with ⟨response, hstart, -⟩ | ⟨url, payload, hstart, -⟩
  · rw [hstart]
    exact Nat.zero_le 4
  · rw [hstart]
    exact Nat.le_refl 4

/-- **The handler ends.**  In a run of any events of the socket the timers fire and the handler goes
on no more than four times; where none of this can happen any more it has returned a response, and
from anywhere it comes to that without the socket.  What it has sent by then is the payload of the
request, once, to a socket that had opened; or nothing. -/
theorem handler_ends (hrun : Run (Handler.step json) anyEvent (.start json event) es h) :
    es.countP Event.ofHandler ≤ 4 ∧
    (Stuck (Handler.step json) Event.ofHandler h → ∃ response, h.result = some (.ok response)) ∧
    (∃ es' h', Run (Handler.step json) anyEvent h es' h' ∧ (∀ e ∈ es', e.ofHandler = true) ∧
      ∃ response, h'.result = some (.ok response)) ∧
    ∀ ws, h.socket = some ws → ws.sent = [] ∨
      .open ∈ es ∧
        ∃ payload, Asks json event ws.url payload ∧ payloadTexts json payload = .ok ws.sent := by
  have hends : Handler.Ends json event es.reverse h := by
    have := ends_run ends_start hrun
    rwa [List.append_nil] at this
  refine ⟨?_, hends.responded, ?_, fun ws hws => ?_⟩
  · have hdone := hrun.work_done (works json)
    have hstart := work_start json event
    omega
  · obtain ⟨es', h', hrun', hall, hstuck⟩ := Run.drain (works json) (fun _ _ _ => trivial) h
    exact ⟨es', h', hrun', hall, (ends_run hends hrun').responded hstuck⟩
  · cases h with
    | settled => cases hws
    | running s =>
        cases hws
        refine hends.sends.sent.imp id fun ⟨hopen, hsent⟩ => ?_
        exact ⟨List.mem_reverse.mp hopen, s.payload, hends.asks, hsent⟩

end

/-- The socket opens and answers after the first timer has fired, and the second timer still runs.
-/
theorem handler_ends_late :
    ∃ h, Run (Handler.step pingJson) anyEvent (.start pingJson ⟨"POST", some pingBody⟩)
        [.open, .resume, .connectTimeout, .message "pong", .message "late", .resume] h ∧
      ∀ ws, h.socket = some ws → ws.sent = [] ∨ .open ∈ [Event.open, .resume, .connectTimeout,
        .message "pong", .message "late", .resume] ∧ ∃ payload,
        Asks pingJson ⟨"POST", some pingBody⟩ ws.url payload ∧
        payloadTexts pingJson payload = .ok ws.sent :=
  exists_run_and (by decide) fun _ hrun => (handler_ends hrun).2.2.2

end SubstrateDevTemplate.Proxy
