import SubstrateDevTemplate.Service.Origins
import SubstrateDevTemplate.EndpointSelector.Steps

/-!
# EndpointSelector — where the page connects to

Whatever overlaps, fails or is reloaded, the page connects to no endpoint but the one it was loaded
with, the presets that were selected, and what the custom endpoint's field showed where Connect was
clicked; and a reload of the page starts from the endpoint that was current.

* `Known`: the endpoints the page was given.
* `within_provider`: an event of the provider brings in no endpoint but that of a change.
* `connects_to_known`: every instance, in every state of every run, is of an endpoint known by then.
* `reload_resumes`: so is every page load, of the endpoint that was current.
-/

namespace SubstrateDevTemplate.Context
open Service (Settled Outcome)

/-- The endpoints the provider has in hand are in `A`. -/
structure Provider.Within (A : String → Prop) (p : Provider) : Prop where
  service : p.service.Within A
  connecting : ∀ inst ∈ p.connecting, A inst.endpoint
  api : ∀ inst, p.api = some inst → A inst.endpoint
  endpoint : A p.endpoint

section
variable {wsProviderError : String → Option String} {A : String → Prop} {p p' : Provider}

theorem within_taken {rest : List (Settled Caller)} (hp : p.Within A)
    (hrest : ∀ r ∈ rest, r ∈ p.service.settled) :
    ({ p with service := { p.service with settled := rest } } : Provider).Within A :=
  ⟨⟨hp.service.state, hp.service.calls, fun r hr => hp.service.settled r (hrest r hr)⟩,
    hp.connecting, hp.api, hp.endpoint⟩

/-- A caller goes on with what it got. -/
theorem within_deliver {r : Settled Caller} (hp : p.Within A) (hr : r.outcome.Within A)
    (hcaller : ∀ e, r.caller = .changeEndpoint e → A e) : (p.deliver r).Within A := by
  obtain ⟨caller, request, outcome⟩ := r
  cases caller with
  | cleanup => cases outcome <;> exact hp
  | changeEndpoint e =>
      cases outcome with
      | rejected message => exact ⟨hp.service, hp.connecting, hp.api, hp.endpoint⟩
      | resolved value =>
          refine ⟨hp.service, hp.connecting, ?_, hcaller e rfl⟩
          rintro inst rfl
          exact hr
  | connect =>
      cases outcome with
      | rejected message => exact ⟨hp.service, hp.connecting, hp.api, hp.endpoint⟩
      | resolved value =>
          cases value with
          | none => exact ⟨hp.service, hp.connecting, hp.api, hp.endpoint⟩
          | some inst =>
              refine ⟨hp.service, fun i hi => ?_, hp.api, hp.endpoint⟩
              rcases List.mem_append.mp hi with hi | hi
              · exact hp.connecting i hi
              · rw [List.mem_singleton.mp hi]; exact hr

/-- **An event of the provider** brings in no endpoint but that of a change. -/
theorem within_provider {e : Event} (hp : p.Within A)
    (hcallers : p.Callers fun caller => ∀ v, caller = .changeEndpoint v → A v)
    (he : ∀ v, e = .handleConnect v → A v) (h : step wsProviderError p e = some p') :
    p'.Within A := by
  have hserve : ∀ {p₀ p₁ : Provider} {e' : Service.Event Caller}, p₀.Within A →
      (∀ caller request, e' = .call caller request → request.Within A) →
      p₀.serve wsProviderError e' = some p₁ → p₁.Within A := by
    intro p₀ p₁ e' h₀ hcall hs
    obtain ⟨c, hc, rfl⟩ := Option.map_eq_some_iff.mp hs
    exact ⟨Service.within_step h₀.service hcall hc, h₀.connecting, h₀.api, h₀.endpoint⟩
  have hbegin : p.begin.Within A := ⟨hp.service, hp.connecting, hp.api, hp.endpoint⟩
  cases e with
  | connect => exact hserve hbegin (by rintro _ _ ⟨⟩ ⟨⟩) h
  | handleConnect v =>
      refine hserve hbegin ?_ (step_handleConnect h).2
      rintro _ _ ⟨⟩ -
      exact he v rfl
  | cleanup => exact hserve hp (by rintro _ _ ⟨⟩; trivial) h
  | resume k => exact hserve hp (by rintro _ _ ⟨⟩) h
  | reopen inst => exact hserve hp (by rintro _ _ ⟨⟩) h
  | close inst =>
      obtain ⟨p₁, hs, hp'⟩ := step_close h
      have hp₁ : p₁.Within A := hserve hp (by rintro _ _ ⟨⟩) hs
      rcases hp' with rfl | rfl
      · exact ⟨hp₁.service, hp₁.connecting, hp₁.api, hp₁.endpoint⟩
      · exact hp₁
  | error inst message =>
      obtain rfl := step_error h
      exact ⟨hp.service, hp.connecting, hp.api, hp.endpoint⟩
  | deliver k =>
      obtain ⟨r, hk, rfl⟩ := step_deliver h
      have hr := List.mem_of_getElem? hk
      exact within_deliver (within_taken hp fun r' hr' => List.mem_of_mem_eraseIdx hr')
        (hp.service.settled r hr) (hcallers.settled r hr)
  | ready k =>
      obtain ⟨inst, hk, rfl⟩ := step_ready h
      have hi := hp.connecting inst (List.mem_of_getElem? hk)
      refine ⟨hp.service, fun i hi => hp.connecting i (List.mem_of_mem_eraseIdx hi), ?_,
        hp.service.state.currentEndpoint⟩
      rintro i ⟨⟩
      exact hi

/-- A page load has its endpoint in hand, and no instance. -/
theorem within_load {savedEndpoint env : Option String}
    (h : A (Service.getDefaultEndpoint savedEndpoint env)) :
    (Provider.load savedEndpoint env).Within A :=
  ⟨⟨⟨h, by rintro i ⟨⟩, by simp [Provider.load, Service.Config.load, Service.State.load],
    by simp [Provider.load, Service.Config.load, Service.State.load]⟩, by rintro q ⟨⟩,
    by rintro r ⟨⟩⟩, by rintro i ⟨⟩, by rintro i ⟨⟩, h⟩

theorem reloads_provider {e : Event} {env : Option String} (hp : p.service.state.Reloads env)
    (h : step wsProviderError p e = some p') : p'.service.state.Reloads env := by
  rcases step_serves h with ⟨e', -, hc⟩ | ⟨-, rest, hserv, -⟩
  · exact Service.reloads_step hp hc
  · rw [hserv]; exact hp

end

end SubstrateDevTemplate.Context

namespace SubstrateDevTemplate.EndpointSelector
open Context (Provider)
open Transition

section
variable (wsProviderError : String → Option String) (savedEndpoint env : Option String)

/-- The endpoints the page is given by the events `es`: the one it is loaded with, the presets that
are selected, and what the custom endpoint's field shows where Connect is clicked. -/
def Known (es : List Event) (endpoint : String) : Prop :=
  endpoint = Service.getDefaultEndpoint savedEndpoint env ∨
  (∃ key, .presetChange key ∈ es ∧ (key, endpoint) ∈ predefinedEndpoints) ∨
  ∃ before clicked after, es = before ++ .connectClick :: after ∧
    Run (step wsProviderError env) anyEvent (.load savedEndpoint env) before clicked ∧
    clicked.selector.showCustom = true ∧ clicked.selector.customEndpoint = endpoint

end

/-- Every endpoint in hand is in `A`, and a reload of the page starts from the current one. -/
structure Within (env : Option String) (A : String → Prop) (h : Home) : Prop where
  provider : h.provider.Within A
  callers : h.provider.Callers fun caller => ∀ v, caller = .changeEndpoint v → A v
  reloads : h.provider.service.state.Reloads env

section
variable {wsProviderError : String → Option String} {env : Option String} {A : String → Prop}
  {h h' : Home}

theorem within_load {savedEndpoint : Option String}
    (hs : A (Service.getDefaultEndpoint savedEndpoint env)) :
    Within env A (.load savedEndpoint env) where
  provider := Context.within_load hs
  callers := ⟨by rintro q ⟨⟩, by rintro r ⟨⟩⟩
  reloads := rfl

/-- **One step.** -/
theorem within_step {e : Event} (hw : Within env A h)
    (hpreset : ∀ key v, e = .presetChange key → (key, v) ∈ predefinedEndpoints → A v)
    (hclick : e = .connectClick → h.selector.showCustom = true → A h.selector.customEndpoint)
    (hs : step wsProviderError env h e = some h') : Within env A h' := by
  obtain ⟨h₁, hm, rfl⟩ := step_moves hs
  suffices Within env A h₁ by
    refine ⟨?_, ?_, ?_⟩ <;> rw [flush_provider]
    exacts [this.provider, this.callers, this.reloads]
  -- an event of the provider, which changes to an endpoint in `A`, if to any
  have hmove : ∀ {e' : Context.Event} {p' : Provider} {s : Selector},
      (∀ v, e' = .handleConnect v → A v) →
      Context.step wsProviderError h.provider e' = some p' → Within env A ⟨p', s⟩ := by
    intro e' p' s hv hp
    refine ⟨Context.within_provider hw.provider hw.callers hv hp, ?_,
      Context.reloads_provider hw.reloads hp⟩
    refine Context.callers_step hw.callers (fun caller request hserves => ?_) hp
    rintro v rfl
    cases e' with
    | handleConnect v' => cases hserves; exact hv _ rfl
    | connect | cleanup | resume | deliver | ready | close | reopen | error => cases hserves
  cases hm with
  | custom | type | mount => exact ⟨hw.provider, hw.callers, hw.reloads⟩
  | preset hmem hne hp => exact hmove (by rintro v ⟨⟩; exact hpreset _ _ rfl hmem) hp
  | click hshow hflag hne hp => exact hmove (by rintro v ⟨⟩; exact hclick rfl hshow) hp
  | reload =>
      refine within_load ?_
      rw [hw.reloads]
      exact hw.provider.service.state.currentEndpoint
  | provider he hp => exact hmove (fun v hv => absurd hv (he v)) hp

variable {savedEndpoint : Option String} {es : List Event}

theorem within_run
    (hrun : Run (step wsProviderError env) anyEvent (.load savedEndpoint env) es h) :
    Within env (Known wsProviderError savedEndpoint env es) h := by
  refine hrun.steps.invariant ?_ (within_load (.inl rfl))
  rintro h e h' hw ⟨-, before, after, hes, hbefore⟩ hs
  refine within_step hw ?_ ?_ hs
  · rintro key v rfl hmem
    exact .inr (.inl ⟨key, hes ▸ List.mem_append_right _ List.mem_cons_self, hmem⟩)
  · rintro rfl hshow
    exact .inr (.inr ⟨before, h, after, hes, hbefore, hshow, rfl⟩)

/-- **The page connects to no endpoint that was not given to it.** -/
theorem connects_to_known
    (hrun : Run (step wsProviderError env) anyEvent (.load savedEndpoint env) es h) :
    (∀ inst, inst ∈ h.provider.service.state.opened ∨ inst ∈ h.provider.service.state.connected ∨
        h.provider.service.state.api = some inst ∨ h.provider.api = some inst →
      Known wsProviderError savedEndpoint env es inst.endpoint) ∧
    Known wsProviderError savedEndpoint env es h.provider.endpoint := by
  have hw := within_run hrun
  refine ⟨?_, hw.provider.endpoint⟩
  rintro inst (hi | hi | hi | hi)
  · exact hw.provider.service.state.opened inst hi
  · exact hw.provider.service.state.connected inst hi
  · exact hw.provider.service.state.api inst hi
  · exact hw.provider.api inst hi

/-- **A reload starts from the current endpoint**, whatever was under way. -/
theorem reload_resumes
    (hrun : Run (step wsProviderError env) anyEvent (.load savedEndpoint env) es h) :
    ∃ h', step wsProviderError env h .reload = some h' ∧ h'.provider.Idle ∧
      h'.provider.service.state.currentEndpoint = h.provider.service.state.currentEndpoint ∧
      h'.provider.endpoint = h.provider.service.state.currentEndpoint ∧
      h'.selector = Selector.init.endpointEffect h.provider.service.state.currentEndpoint := by
  have hr := (within_run hrun).reloads
  have hload : (Home.load h.provider.service.state.localStorage env).provider.endpoint =
      h.provider.service.state.currentEndpoint := hr
  refine ⟨_, rfl, ?_, ?_, ?_, ?_⟩
  · rw [flush_provider]; exact ⟨rfl, rfl, rfl⟩
  · rw [flush_provider]; exact hr
  · rw [flush_provider]; exact hr
  · rw [← hload, flush]
    split
    · rfl
    · exact Selector.endpointEffect_twice _ _

end

/-- What was typed is connected to while the change to a preset is still under way. -/
theorem connects_to_known_typed :
    let es : List Event := [.provider .connect, .presetChange "Kusama", .provider (.resume 0),
      .presetChange "custom", .customChange "ws://10.0.0.1:9944", .provider (.deliver 0),
      .connectClick, .provider (.resume 0), .provider (.resume 0)]
    ∃ h, Run (step Service.schemeError none) anyEvent (.load none none) es h ∧
      ∀ inst ∈ h.provider.service.state.opened,
        Known Service.schemeError none none es inst.endpoint :=
  exists_run_and (by decide) fun _ h inst hi => (connects_to_known h).1 inst (.inl hi)

/-- The page is reloaded in the middle of a change. -/
theorem reload_resumes_kusama :
    ∃ h, Run (step Service.schemeError none) anyEvent (.load (some "wss://rpc.polkadot.io") none)
        [.provider .connect, .presetChange "Kusama", .provider (.resume 0)] h ∧
      ∃ h', step Service.schemeError none h .reload = some h' ∧ h'.provider.Idle ∧
        h'.provider.endpoint = h.provider.service.state.currentEndpoint :=
  exists_run_and (by decide) fun _ h =>
    let ⟨h', hs, hi, _, he, _⟩ := reload_resumes h
    ⟨h', hs, hi, he⟩

end SubstrateDevTemplate.EndpointSelector
