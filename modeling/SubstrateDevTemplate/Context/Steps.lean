import SubstrateDevTemplate.Context.Definitions

/-!
# Context — Steps

What one event of the provider does, where it is more than a step of the service: a choice of
endpoint, a caller that goes on, a socket that closes, an error of an instance.

* `step_handleConnect`, `step_deliver`, `step_ready`, `step_close`, `step_error`: where the event
  can happen, and what it leaves.
* `deliver_service`: a caller that goes on changes nothing of the service.
* `step_serves`: what every event is to the service.
* `callers_step`: the callers of the calls in flight are those that were there, and that of the call
  that starts.
-/

namespace SubstrateDevTemplate.Context
open Service (ApiPromise Outcome Settled)

variable {wsProviderError : String → Option String} {p p' : Provider}

/-- The endpoint is not empty, and the change begins. -/
theorem step_handleConnect {endpointToUse : String}
    (h : step wsProviderError p (.handleConnect endpointToUse) = some p') :
    endpointToUse ≠ "" ∧ p.begin.serve wsProviderError
      (.call (.changeEndpoint endpointToUse) (Service.changeEndpoint endpointToUse)) = some p' := by
  simp only [step] at h
  split at h
  · cases h
  · rename_i hne
    exact ⟨hne, h⟩

/-- The settled call is taken out, and its caller goes on. -/
theorem step_deliver {k : Nat} (h : step wsProviderError p (.deliver k) = some p') :
    ∃ r, p.service.settled[k]? = some r ∧ ({ p with service :=
      { p.service with settled := p.service.settled.eraseIdx k } } : Provider).deliver r = p' := by
  simp only [step] at h
  split at h
  · cases h
  · rename_i r hr
    exact ⟨r, hr, Option.some.inj h⟩

/-- The instance is taken out, and published. -/
theorem step_ready {k : Nat} (h : step wsProviderError p (.ready k) = some p') :
    ∃ inst, p.connecting[k]? = some inst ∧
      ({ p with connecting := p.connecting.eraseIdx k } : Provider).connected inst = p' := by
  simp only [step] at h
  split at h
  · cases h
  · rename_i inst hi
    exact ⟨inst, hi, Option.some.inj h⟩

/-- After the service's step, `connect`'s handler may run. -/
theorem step_close {inst : ApiPromise} (h : step wsProviderError p (.close inst) = some p') :
    ∃ p₁, p.serve wsProviderError (.close inst) = some p₁ ∧
      (p' = { p₁ with isApiReady := false } ∨ p' = p₁) := by
  obtain ⟨p₁, hserve, rfl⟩ := Option.map_eq_some_iff.mp h
  refine ⟨p₁, hserve, ?_⟩
  split
  · exact .inl rfl
  · exact .inr rfl

/-- The handler shows the error. -/
theorem step_error {inst : ApiPromise} {message : String}
    (h : step wsProviderError p (.error inst message) = some p') :
    p' = { p with connectionError := some ("Connection error: " ++ message) } := by
  simp only [step] at h
  split at h
  · exact (Option.some.inj h).symm
  · cases h

/-- Going on changes nothing of the service. -/
@[simp] theorem deliver_service (p : Provider) (r : Settled Caller) :
    (p.deliver r).service = p.service := by
  obtain ⟨caller, request, outcome⟩ := r
  cases caller with
  | cleanup => cases outcome <;> rfl
  | changeEndpoint e => cases outcome <;> rfl
  | connect =>
      cases outcome with
      | rejected message => rfl
      | resolved value => cases value <;> rfl

/-- The event of the service that an event of the provider is. -/
def Event.serves : Event → Option (Service.Event Caller)
  | .connect => some (.call .connect (.initializeApi none))
  | .handleConnect e => some (.call (.changeEndpoint e) (Service.changeEndpoint e))
  | .cleanup => some (.call .cleanup .disconnectApi)
  | .resume k => some (.resume k)
  | .close inst => some (.close inst)
  | .reopen inst => some (.reopen inst)
  | .deliver _ | .ready _ | .error _ _ => none

theorem serve_step {e : Service.Event Caller} (h : p.serve wsProviderError e = some p') :
    Service.step wsProviderError p.service e = some p'.service := by
  obtain ⟨c, hc, rfl⟩ := Option.map_eq_some_iff.mp h
  exact hc

/-- **An event of the provider** is one of the service, or lets a caller go on, which takes at most a
settled call out of it. -/
theorem step_serves {e : Event} (h : step wsProviderError p e = some p') :
    (∃ e', e.serves = some e' ∧ Service.step wsProviderError p.service e' = some p'.service) ∨
    (e.serves = none ∧ ∃ rest, p'.service = { p.service with settled := rest } ∧
      ∀ r ∈ rest, r ∈ p.service.settled) := by
  cases e with
  | connect => exact .inl ⟨_, rfl, serve_step (p := p.begin) h⟩
  | handleConnect endpointToUse =>
      exact .inl ⟨_, rfl, serve_step (p := p.begin) (step_handleConnect h).2⟩
  | cleanup => exact .inl ⟨_, rfl, serve_step h⟩
  | resume k => exact .inl ⟨_, rfl, serve_step h⟩
  | reopen inst => exact .inl ⟨_, rfl, serve_step h⟩
  | close inst =>
      obtain ⟨p₁, hserve, hp'⟩ := step_close h
      have hservice : p'.service = p₁.service := by
        rcases hp' with rfl | rfl
        · rfl
        · rfl
      exact .inl ⟨_, rfl, hservice ▸ serve_step hserve⟩
  | deliver k =>
      obtain ⟨r, -, rfl⟩ := step_deliver h
      exact .inr ⟨rfl, _, deliver_service _ r, fun r' hr' => List.mem_of_mem_eraseIdx hr'⟩
  | ready k =>
      obtain ⟨inst, -, rfl⟩ := step_ready h
      exact .inr ⟨rfl, _, rfl, fun _ hr => hr⟩
  | error inst message =>
      obtain rfl := step_error h
      exact .inr ⟨rfl, _, rfl, fun _ hr => hr⟩

/-- What awaits the calls of the service satisfies `P`. -/
structure Provider.Callers (P : Caller → Prop) (p : Provider) : Prop where
  calls : ∀ q ∈ p.service.calls, P q.caller
  settled : ∀ r ∈ p.service.settled, P r.caller

theorem callers_step {P : Caller → Prop} {e : Event} (hp : p.Callers P)
    (he : ∀ caller request, e.serves = some (.call caller request) → P caller)
    (h : step wsProviderError p e = some p') : p'.Callers P := by
  rcases step_serves h with ⟨e', hs, hc⟩ | ⟨-, rest, hserv, hrest⟩
  · refine ⟨fun q hq => ?_, fun r hr => ?_⟩
    · rcases Service.mem_calls_step hc hq with hq' | ⟨request, rfl, -⟩ | ⟨q', hq', hcall, -⟩
      · exact hp.calls q hq'
      · exact he _ _ hs
      · rw [hcall]; exact hp.calls q' hq'
    · rcases Service.mem_settled_step hc hr with hr' | ⟨rfl, -⟩ | ⟨q', hq', hcall, -⟩
      · exact hp.settled r hr'
      · exact he _ _ hs
      · rw [hcall]; exact hp.calls q' hq'
  · refine ⟨?_, ?_⟩
    · rw [hserv]; exact hp.calls
    · rw [hserv]; exact fun r hr => hp.settled r (hrest r hr)

end SubstrateDevTemplate.Context
