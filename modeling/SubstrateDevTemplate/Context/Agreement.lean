import SubstrateDevTemplate.Context.Steps
import SubstrateDevTemplate.Service.Agreement

/-!
# Context — the chain shown is the chain talked to

`handleChangeEndpoint` publishes the endpoint it was asked for, `connect` the current endpoint at
the time it goes on; both publish the instance the service returned, at the same moment.

* `shows_its_chain`: in a run in which a call starts beside others only to join them, a provider
  that is ready, with no call in flight, publishes an instance of the endpoint it publishes.
* `late_mount_shows_other`: a saved endpoint that answers after the user has chosen another one
  replaces the instance and not the endpoint.

The invariant is `Shown`; the service's part of it is `Service.Joined`.
-/

namespace SubstrateDevTemplate.Context
open Service (ApiPromise Request Outcome Pending Settled Config Frame)
open Transition

/-- Ready and at rest, the provider publishes an instance of the endpoint it publishes. -/
def ShowsItsChain (p : Provider) : Prop :=
  p.Idle → p.isApiReady = true → ∃ inst, p.api = some inst ∧ inst.endpoint = p.endpoint

/-- A call starts when none is in flight, or joins the ones in flight: it asks for the current
endpoint, and none of them waits for a disconnection. -/
def Joins (p : Provider) : Event → Prop
  | .connect | .cleanup => p.Idle
  | .handleConnect e => p.Idle ∨ (e = p.service.state.currentEndpoint ∧
      ∀ q ∈ p.service.calls, q.frame.leaving = false)
  | _ => True

instance (p : Provider) : (e : Event) → Decidable (Joins p e)
  | .connect | .cleanup => inferInstanceAs (Decidable p.Idle)
  | .handleConnect _ => inferInstanceAs (Decidable (_ ∨ _ ∧ ∀ q ∈ _, _))
  | .resume _ | .deliver _ | .ready _ | .close _ | .reopen _ | .error _ _ => isTrue trivial

/-! ### The invariant -/

/-- The call of the service a caller makes. -/
def Caller.Asks : Caller → Request → Prop
  | .connect, request => request = .initializeApi none
  | .changeEndpoint e, request => e ≠ "" ∧ request = Service.changeEndpoint e
  | .cleanup, request => request = .disconnectApi

structure Shown (p : Provider) : Prop where
  joined : Service.Joined p.service
  /-- nothing waits to be published while a call waits for a disconnection -/
  alone : ∀ q ∈ p.service.calls, q.frame.leaving = true →
    p.service.settled = [] ∧ p.connecting = []
  calls : ∀ q ∈ p.service.calls, q.caller.Asks q.frame.request
  settled : ∀ r ∈ p.service.settled, r.caller.Asks r.request ∧ r.Landed p.service.state
  connecting : ∀ inst ∈ p.connecting, inst.endpoint = p.service.state.currentEndpoint
  shown : p.isApiReady = true → ∃ inst, p.api = some inst ∧ inst.endpoint = p.endpoint

theorem shown_load (savedEndpoint env : Option String) : Shown (.load savedEndpoint env) where
  joined := ⟨by rintro i ⟨⟩, .inr (by rintro q ⟨⟩)⟩
  alone := by rintro q ⟨⟩
  calls := by rintro q ⟨⟩
  settled := by rintro r ⟨⟩
  connecting := by rintro inst ⟨⟩
  shown := by rintro ⟨⟩

/-- What landed at the current endpoint stays landed while that endpoint does. -/
theorem landed_congr {s s' : Service.State} {r : Settled Caller} (h : r.Landed s)
    (hc : s'.currentEndpoint = s.currentEndpoint) : r.Landed s' := by
  intro endpoint hr
  have := h endpoint hr
  cases ho : r.outcome with
  | rejected message => trivial
  | resolved value => rw [ho] at this; simpa only [Service.Progress.Lands, hc] using this

section
variable {wsProviderError : String → Option String}

/-- A step of the service. -/
theorem shown_serve {p p' : Provider} {e : Service.Event Caller} (hp : Shown p)
    (hg : ∀ caller request, e = .call caller request → caller.Asks request ∧
      (p.Idle ∨ (request = .initializeApi (some p.service.state.currentEndpoint) ∧
        ∀ q ∈ p.service.calls, q.frame.leaving = false)))
    (h : p.serve wsProviderError e = some p') : Shown p' := by
  obtain ⟨c, hc, rfl⟩ := Option.map_eq_some_iff.mp h
  have hjoins : Service.Joins p.service e := by
    cases e with
    | call caller request => exact (hg _ _ rfl).2.imp (fun hi => hi.1) id
    | resume | close | reopen => trivial
  obtain ⟨hj, hset⟩ := Service.joined_step hp.joined hjoins hc
  -- either nothing waits to be published, or the current endpoint stays
  have hkeep : (p.service.settled = [] ∧ p.connecting = []) ∨
      c.state.currentEndpoint = p.service.state.currentEndpoint := by
    by_cases hl : ∃ q ∈ p.service.calls, q.frame.leaving = true
    · obtain ⟨q, hq, hl⟩ := hl
      exact .inl (hp.alone q hq hl)
    · have hl' : ∀ q ∈ p.service.calls, q.frame.leaving = false := fun q hq => by
        simpa using fun h' => hl ⟨q, hq, h'⟩
      by_cases hi : p.Idle
      · exact .inl hi.2
      · exact .inr (Service.joined_endpoint hp.joined hl'
          (fun caller request he => ((hg _ _ he).2.resolve_left hi).1) hc)
  refine ⟨hj, fun q hq hl => ?_, fun q hq => ?_, fun r hr => ?_, fun inst hi => ?_, hp.shown⟩
  · obtain ⟨h₁, hq'⟩ := Service.leaving_step hp.joined hjoins hc hq hl
    have hnone : p.service.settled = [] ∧ p.connecting = [] := by
      rcases hq' with hq' | ⟨caller, request, rfl, hne⟩
      · exact hp.alone q hq' hl
      · rcases (hg _ _ rfl).2 with hi | ⟨he, -⟩
        · exact hi.2
        · exact absurd he hne
    exact ⟨h₁.trans hnone.1, hnone.2⟩
  · rcases Service.mem_calls_step hc hq with hq' | ⟨request, rfl, hf⟩ | ⟨q', hq', hcall, hf⟩
    · exact hp.calls q hq'
    · rw [Service.enter_suspended hf]
      exact (hg _ _ rfl).1
    · rw [(Service.resume_suspended hf).1, hcall]
      exact hp.calls q' hq'
  · refine ⟨?_, ?_⟩
    · rcases Service.mem_settled_step hc hr with hr' | ⟨rfl, -⟩ | ⟨q', hq', h₁, h₂, -⟩
      · exact (hp.settled r hr').1
      · exact (hg _ _ rfl).1
      · rw [h₁, h₂]; exact hp.calls q' hq'
    · rcases hset r hr with hr' | hr'
      · rcases hkeep with ⟨h₀, -⟩ | hk
        · rw [h₀] at hr'; cases hr'
        · exact landed_congr (hp.settled r hr').2 hk
      · exact hr'
  · rcases hkeep with ⟨-, h₀⟩ | hk
    · rw [h₀] at hi; cases hi
    · exact (hp.connecting inst hi).trans hk.symm

/-- The provider's own fields do not matter to the calls in flight. -/
theorem Shown.begin {p : Provider} (hp : Shown p) : Shown p.begin :=
  ⟨hp.joined, hp.alone, hp.calls, hp.settled, hp.connecting, hp.shown⟩

/-- A settled call is taken out.  No call waits for a disconnection then, so only what is published
is to be checked. -/
theorem Shown.take {p p' : Provider} {rest : List (Settled Caller)} (hp : Shown p)
    (hsettled : p.service.settled ≠ []) (hrest : ∀ q ∈ rest, q ∈ p.service.settled)
    (hservice : p'.service = { p.service with settled := rest })
    (hconnecting : ∀ inst ∈ p'.connecting, inst.endpoint = p.service.state.currentEndpoint)
    (hshown : p'.isApiReady = true → ∃ inst, p'.api = some inst ∧ inst.endpoint = p'.endpoint) :
    Shown p' where
  joined := by rw [hservice]; exact ⟨hp.joined.agrees, hp.joined.calls⟩
  alone := by
    rw [hservice]
    exact fun q hq hl => absurd (hp.alone q hq hl).1 hsettled
  calls := by rw [hservice]; exact hp.calls
  settled := by rw [hservice]; exact fun q hq => hp.settled q (hrest q hq)
  connecting := by rw [hservice]; exact hconnecting
  shown := hshown

/-- A caller goes on with what it got. -/
theorem shown_deliver {p : Provider} {r : Settled Caller} {rest : List (Settled Caller)}
    (hp : Shown p) (hr : r ∈ p.service.settled) (hrest : ∀ q ∈ rest, q ∈ p.service.settled) :
    Shown ({ p with service := { p.service with settled := rest } }.deliver r) := by
  obtain ⟨hask, hland⟩ := hp.settled r hr
  have hne : p.service.settled ≠ [] := List.ne_nil_of_mem hr
  obtain ⟨caller, request, outcome⟩ := r
  cases caller with
  | cleanup => exact hp.take hne hrest rfl hp.connecting hp.shown
  | connect =>
      obtain rfl := hask
      cases outcome with
      | rejected message => exact hp.take hne hrest rfl hp.connecting (by rintro ⟨⟩)
      | resolved value =>
          obtain ⟨-, inst, rfl, hinst⟩ := hland _ rfl
          refine hp.take hne hrest rfl (fun i hi => ?_) hp.shown
          rcases List.mem_append.mp hi with hi | hi
          · exact hp.connecting i hi
          · rw [List.mem_singleton.mp hi]; exact hinst
  | changeEndpoint e =>
      obtain ⟨hnonempty, rfl⟩ := hask
      cases outcome with
      | rejected message => exact hp.take hne hrest rfl hp.connecting (by rintro ⟨⟩)
      | resolved value =>
          exact hp.take hne hrest rfl hp.connecting fun _ => hland.endpoint rfl hnonempty rfl

/-- `connect` publishes the instance it got, and the current endpoint. -/
theorem shown_ready {p : Provider} {inst : ApiPromise} {rest : List ApiPromise} (hp : Shown p)
    (hi : inst ∈ p.connecting) (hrest : ∀ i ∈ rest, i ∈ p.connecting) :
    Shown ({ p with connecting := rest }.connected inst) := by
  refine ⟨hp.joined, fun q hq hl => ?_, hp.calls, hp.settled, fun i hmem => ?_, fun _ => ?_⟩
  · rw [(hp.alone q hq hl).2] at hi; cases hi
  · exact hp.connecting i (hrest i hmem)
  · exact ⟨inst, rfl, hp.connecting inst hi⟩

/-- **One step.** -/
theorem shown_step {p p' : Provider} {e : Event} (hp : Shown p) (hg : Joins p e)
    (h : step wsProviderError p e = some p') : Shown p' := by
  cases e with
  | connect =>
      refine shown_serve hp.begin ?_ h
      rintro _ _ ⟨⟩
      exact ⟨rfl, .inl hg⟩
  | handleConnect e =>
      obtain ⟨hne, hserve⟩ := step_handleConnect h
      refine shown_serve hp.begin ?_ hserve
      rintro _ _ ⟨⟩
      exact ⟨⟨hne, rfl⟩, hg.imp id fun ⟨he, hl⟩ => ⟨by rw [he]; rfl, hl⟩⟩
  | cleanup =>
      refine shown_serve hp ?_ h
      rintro _ _ ⟨⟩
      exact ⟨rfl, .inl hg⟩
  | resume k => exact shown_serve hp (by rintro _ _ ⟨⟩) h
  | deliver k =>
      obtain ⟨r, hr, rfl⟩ := step_deliver h
      exact shown_deliver hp (List.mem_of_getElem? hr) fun q hq => List.mem_of_mem_eraseIdx hq
  | ready k =>
      obtain ⟨inst, hi, rfl⟩ := step_ready h
      exact shown_ready hp (List.mem_of_getElem? hi) fun i hi => List.mem_of_mem_eraseIdx hi
  | close inst =>
      obtain ⟨p₁, hserve, hp'⟩ := step_close h
      have hp₁ : Shown p₁ := shown_serve hp (by rintro _ _ ⟨⟩) hserve
      rcases hp' with rfl | rfl
      · exact ⟨hp₁.joined, hp₁.alone, hp₁.calls, hp₁.settled, hp₁.connecting, by rintro ⟨⟩⟩
      · exact hp₁
  | reopen inst => exact shown_serve hp (by rintro _ _ ⟨⟩) h
  | error inst message =>
      obtain rfl := step_error h
      exact ⟨hp.joined, hp.alone, hp.calls, hp.settled, hp.connecting, hp.shown⟩

/-- **The UI shows the chain it talks to**, when the calls that start beside others join them. -/
theorem shows_its_chain {savedEndpoint env : Option String} {es : List Event} {p : Provider}
    (h : Run (step wsProviderError) Joins (.load savedEndpoint env) es p) : ShowsItsChain p :=
  fun _ => (h.invariant (fun _ _ _ hp hg hst => shown_step hp hg hst)
    (shown_load savedEndpoint env)).shown

end

/-- The mount, a change of endpoint, and a second click on the same endpoint while it is being
connected. -/
theorem shows_its_chain_changed :
    ShowsItsChain ((exec (step Service.schemeError) Joins
      (.load (some "wss://rpc.polkadot.io") none)
      [.connect, .resume 0, .resume 0, .deliver 0, .ready 0,
        .handleConnect "wss://kusama-rpc.polkadot.io", .resume 0,
        .handleConnect "wss://kusama-rpc.polkadot.io", .resume 0, .resume 0, .resume 0, .resume 0,
        .deliver 0, .deliver 0]).get (by decide)) :=
  shows_its_chain (run_of_exec (Option.some_get _).symm)

/-- **A dead saved endpoint comes back.**  The user chooses Kusama while the saved Polkadot endpoint
does not answer; Kusama is connected; then Polkadot answers, and the page shows Kusama's endpoint
over Polkadot's instance. -/
theorem late_mount_shows_other :
    ∃ p, Run (step Service.schemeError) anyEvent (.load (some "wss://rpc.polkadot.io") none)
        [.connect, .handleConnect "wss://kusama-rpc.polkadot.io", .resume 1, .resume 1, .deliver 0,
          .resume 0, .resume 0, .deliver 0, .ready 0] p ∧
      p.Idle ∧ p.isApiReady = true ∧ p.api = some ⟨0, "wss://rpc.polkadot.io"⟩ ∧
      p.endpoint = "wss://kusama-rpc.polkadot.io" ∧ ¬ ShowsItsChain p := by
  refine exists_run_of (P := fun p => p.Idle ∧ p.isApiReady = true ∧
    p.api = some ⟨0, "wss://rpc.polkadot.io"⟩ ∧ p.endpoint = "wss://kusama-rpc.polkadot.io")
    (by decide) ?_
  intro p ⟨hi, hready, ha, he⟩
  refine ⟨hi, hready, ha, he, fun h => ?_⟩
  obtain ⟨inst, hinst, hend⟩ := h hi hready
  rw [ha, Option.some.injEq] at hinst
  rw [← hinst, he] at hend
  revert hend
  decide

end SubstrateDevTemplate.Context
