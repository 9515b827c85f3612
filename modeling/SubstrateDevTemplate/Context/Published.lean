import SubstrateDevTemplate.Context.Agreement
import SubstrateDevTemplate.Service.Endpoint

/-!
# Context — the published endpoint and the current one

The provider publishes an endpoint when a call settles; the service has a current endpoint from the
moment a call makes it so.  Where the calls that start beside others only join them, the two part
company only while a change is under way.

* `heading_provider`: the endpoint the calls in flight head for is that of the last change.
* `endpoint_step`: an endpoint that is newly published is the one the calls head for.
* `published_step`: a provider that is ready publishes the current endpoint, or a change is under
  way.
-/

namespace SubstrateDevTemplate.Context
open Service (ApiPromise Settled Config)

/-- A provider that is ready publishes the current endpoint, or a call that names one is in
flight. -/
def Published (p : Provider) : Prop :=
  p.isApiReady = true →
    p.endpoint = p.service.state.currentEndpoint ∨ ∃ e, p.service.Asks (some e)

section
variable {wsProviderError : String → Option String} {p p' : Provider}

/-- What joins in the provider joins in the service. -/
theorem joins_serves {e : Event} {e' : Service.Event Caller} (hg : Joins p e)
    (hs : e.serves = some e') : Service.Joins p.service e' := by
  cases e with
  | connect => cases hs; exact .inl hg.1
  | cleanup => cases hs; exact .inl hg.1
  | handleConnect e =>
      cases hs
      rcases hg with hi | ⟨rfl, hl⟩
      · exact .inl hi.1
      · exact .inr ⟨rfl, hl⟩
  | resume k => cases hs; trivial
  | close inst => cases hs; trivial
  | reopen inst => cases hs; trivial
  | deliver | ready | error => cases hs

/-- **Where the calls head for** is changed by a change of endpoint only. -/
theorem heading_provider {e : Event} (hp : Shown p) (hg : Joins p e)
    (h : step wsProviderError p e = some p') :
    p'.service.heading = match e with
      | .handleConnect endpoint => endpoint
      | _ => p.service.heading := by
  rcases step_serves h with ⟨e', hs, hc⟩ | ⟨hs, rest, hserv, -⟩
  · have hstep := Service.heading_step hp.joined (joins_serves hg hs) hc
    cases e with
    | connect => cases hs; exact hstep.trans (Js.or_of_falsy rfl)
    | cleanup => cases hs; exact hstep
    | handleConnect endpoint =>
        cases hs
        exact hstep.trans (Js.or_some (step_handleConnect h).1)
    | resume k => cases hs; exact hstep
    | close inst => cases hs; exact hstep
    | reopen inst => cases hs; exact hstep
    | deliver | ready | error => cases hs
  · rw [hserv]
    cases e with
    | connect | cleanup | handleConnect | resume | close | reopen => cases hs
    | deliver | ready | error => rfl

/-- While something waits to be published, no call waits for a disconnection. -/
theorem Shown.heading (hp : Shown p) (h : p.service.settled ≠ [] ∨ p.connecting ≠ []) :
    p.service.heading = p.service.state.currentEndpoint := by
  refine Service.heading_current fun q hq => ?_
  cases hl : q.frame.leaving with
  | false => rfl
  | true =>
      obtain ⟨hsettled, hconnecting⟩ := hp.alone q hq hl
      rcases h with h | h
      · exact absurd hsettled h
      · exact absurd hconnecting h

/-- A change that resolved is one to the current endpoint. -/
theorem Shown.changed (hp : Shown p) {r : Settled Caller} (hr : r ∈ p.service.settled)
    {e : String} {value : Option ApiPromise} (hcaller : r.caller = .changeEndpoint e)
    (hv : r.outcome = .resolved value) : e = p.service.state.currentEndpoint := by
  obtain ⟨hask, hland⟩ := hp.settled r hr
  rw [hcaller] at hask
  obtain ⟨hne, hreq⟩ := hask
  have hl := hland _ hreq
  rw [hv] at hl
  exact (Js.or_some hne).symm.trans hl.1

/-- What a caller that goes on publishes. -/
theorem deliver_publishes (p : Provider) (r : Settled Caller) :
    (∃ e value, r.caller = .changeEndpoint e ∧ r.outcome = .resolved value ∧
      (p.deliver r).endpoint = e) ∨
    ((p.deliver r).endpoint = p.endpoint ∧
      ((p.deliver r).isApiReady = true →
        p.isApiReady = true ∧ ∀ e, r.caller ≠ .changeEndpoint e)) := by
  obtain ⟨caller, request, outcome⟩ := r
  cases caller with
  | cleanup => exact .inr ⟨by cases outcome <;> rfl, fun h => ⟨by cases outcome <;> exact h, by simp⟩⟩
  | changeEndpoint e =>
      cases outcome with
      | resolved value => exact .inl ⟨e, value, rfl, rfl, rfl⟩
      | rejected message => exact .inr ⟨rfl, by rintro ⟨⟩⟩
  | connect =>
      cases outcome with
      | rejected message => exact .inr ⟨rfl, by rintro ⟨⟩⟩
      | resolved value =>
          cases value with
          | none => exact .inr ⟨rfl, by rintro ⟨⟩⟩
          | some inst => exact .inr ⟨rfl, fun h => ⟨h, by simp⟩⟩

/-- **An endpoint that is newly published** is the one the calls in flight head for. -/
theorem endpoint_step {e : Event} (hp : Shown p) (h : step wsProviderError p e = some p')
    (hne : p'.endpoint ≠ p.endpoint) : p'.endpoint = p'.service.heading := by
  have hserve : ∀ {p₀ p₁ : Provider} {e' : Service.Event Caller}, p₀.endpoint = p.endpoint →
      p₀.serve wsProviderError e' = some p₁ → p₁.endpoint = p.endpoint := by
    intro p₀ p₁ e' h₀ hs
    obtain ⟨c, -, rfl⟩ := Option.map_eq_some_iff.mp hs
    exact h₀
  cases e with
  | connect => exact absurd (hserve (show p.begin.endpoint = p.endpoint from rfl) h) hne
  | handleConnect endpoint =>
      exact absurd (hserve (show p.begin.endpoint = p.endpoint from rfl) (step_handleConnect h).2)
        hne
  | cleanup => exact absurd (hserve rfl h) hne
  | resume k => exact absurd (hserve rfl h) hne
  | reopen inst => exact absurd (hserve rfl h) hne
  | close inst =>
      obtain ⟨p₁, hs, hp'⟩ := step_close h
      have hend : p₁.endpoint = p.endpoint := hserve rfl hs
      refine absurd ?_ hne
      rcases hp' with rfl | rfl
      · exact hend
      · exact hend
  | error inst message =>
      obtain rfl := step_error h
      exact absurd rfl hne
  | deliver k =>
      obtain ⟨r, hk, rfl⟩ := step_deliver h
      have hr := List.mem_of_getElem? hk
      have hhead := hp.heading (.inl (List.ne_nil_of_mem hr))
      rw [deliver_service]
      rcases deliver_publishes _ r with ⟨e, value, hcaller, hv, hend⟩ | ⟨hend, -⟩
      · rw [hend, hp.changed hr hcaller hv]
        exact hhead.symm
      · exact absurd hend hne
  | ready k =>
      obtain ⟨inst, hk, rfl⟩ := step_ready h
      exact (hp.heading (.inr (List.ne_nil_of_mem (List.mem_of_getElem? hk)))).symm

/-- A service step keeps to the endpoint that is published, or has a change under way. -/
theorem published_serve {p₁ : Provider} {e : Service.Event Caller} (hp : Published p)
    (hready : p₁.isApiReady = true → p.isApiReady = true) (hend : p₁.endpoint = p.endpoint)
    (hc : Service.step wsProviderError p.service e = some p₁.service) : Published p₁ := by
  intro hr
  rw [hend]
  rcases hp (hready hr) with he | ⟨e, hasks⟩
  · obtain ⟨endpoint, hret, hnone | hasks⟩ := Service.step_retargets hc
    · rw [hret.currentEndpoint, hnone]
      exact .inl (he.trans (Js.or_of_falsy rfl).symm)
    · cases endpoint with
      | none =>
          rw [hret.currentEndpoint]
          exact .inl (he.trans (Js.or_of_falsy rfl).symm)
      | some e => exact .inr ⟨e, hasks⟩
  · exact .inr ⟨e, Service.asks_step hasks hc⟩

/-- **One step.** -/
theorem published_step {e : Event} (hs : Shown p) (hp : Published p)
    (h : step wsProviderError p e = some p') : Published p' := by
  have hserve : ∀ {p₀ p₁ : Provider} {e' : Service.Event Caller}, p₀.service = p.service →
      p₀.isApiReady = p.isApiReady → p₀.endpoint = p.endpoint →
      p₀.serve wsProviderError e' = some p₁ → Published p₁ := by
    intro p₀ p₁ e' h₀ h₁ h₂ hstep
    obtain ⟨c, hc, rfl⟩ := Option.map_eq_some_iff.mp hstep
    exact published_serve hp (fun hr => h₁ ▸ hr) h₂ (h₀ ▸ hc)
  cases e with
  | connect => exact hserve (show p.begin.service = p.service from rfl) rfl rfl h
  | handleConnect endpoint =>
      exact hserve (show p.begin.service = p.service from rfl) rfl rfl (step_handleConnect h).2
  | cleanup => exact hserve rfl rfl rfl h
  | resume k => exact hserve rfl rfl rfl h
  | reopen inst => exact hserve rfl rfl rfl h
  | close inst =>
      obtain ⟨p₁, hstep, hp'⟩ := step_close h
      have hp₁ : Published p₁ := hserve rfl rfl rfl hstep
      rcases hp' with rfl | rfl
      · rintro ⟨⟩
      · exact hp₁
  | error inst message =>
      obtain rfl := step_error h
      exact hp
  | ready k =>
      obtain ⟨inst, hk, rfl⟩ := step_ready h
      exact fun _ => .inl rfl
  | deliver k =>
      obtain ⟨r, hk, rfl⟩ := step_deliver h
      have hr := List.mem_of_getElem? hk
      intro hready
      rw [deliver_service]
      rcases deliver_publishes _ r with ⟨e, value, hcaller, hv, hend⟩ | ⟨hend, hback⟩
      · exact .inl (hend.trans (hs.changed hr hcaller hv))
      · obtain ⟨hbefore, hother⟩ := hback hready
        rw [hend]
        rcases hp hbefore with he | ⟨e, ⟨q, hq, hreq⟩ | ⟨r', hr', hreq⟩⟩
        · exact .inl he
        · exact .inr ⟨e, .inl ⟨q, hq, hreq⟩⟩
        · -- the call taken out is not a change of endpoint
          obtain ⟨l₁, l₂, hl, hl'⟩ := Service.eraseIdx_split hk
          refine .inr ⟨e, .inr ⟨r', ?_, hreq⟩⟩
          simp only [hl']
          rw [hl, List.mem_append, List.mem_cons] at hr'
          rcases hr' with hr' | rfl | hr'
          · exact List.mem_append_left _ hr'
          · exfalso
            have hask := (hs.settled r' hr).1
            rw [hreq] at hask
            cases hcaller : r'.caller with
            | connect => rw [hcaller] at hask; cases hask
            | cleanup => rw [hcaller] at hask; cases hask
            | changeEndpoint e' => exact hother e' hcaller
          · exact List.mem_append_right _ hr'

end

/-- At rest, a provider that is ready publishes the current endpoint. -/
theorem Published.idle {p : Provider} (hp : Published p) (hi : p.Idle) (hr : p.isApiReady = true) :
    p.endpoint = p.service.state.currentEndpoint := by
  rcases hp hr with he | ⟨e, ⟨q, hq, -⟩ | ⟨r, hr', -⟩⟩
  · exact he
  · rw [hi.1] at hq; cases hq
  · rw [hi.2.1] at hr'; cases hr'

end SubstrateDevTemplate.Context
