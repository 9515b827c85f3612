import SubstrateDevTemplate.Context.Published
import SubstrateDevTemplate.EndpointSelector.Steps

/-!
# EndpointSelector — the preset shown is the chain talked to

The select is set by the user's choice at once, and by the effect whenever another endpoint is
published; a choice that fails leaves it where the user put it.

* `preset_is_chain`: in a run in which a call starts beside others only to join them, a preset that
  is shown while the provider is ready and at rest is the chain the published instance is of.
* `failed_choice_shown`: after a choice that fails, the select shows it, and the published endpoint
  is still the one before.

The invariant is `Follows`: the preset shown is that of the endpoint the calls in flight head for,
or of the one that is published.
-/

namespace SubstrateDevTemplate.EndpointSelector
open Context (Provider Shown Published)
open Transition

/-- The call an event starts, if it starts one, is alone or joins those in flight. -/
def Joins (h : Home) : Event → Prop
  | .presetChange selected => ∀ v ∈ predefinedEndpoints.lookup selected,
      Context.Joins h.provider (.handleConnect v)
  | .connectClick => Context.Joins h.provider (.handleConnect h.selector.customEndpoint)
  | .provider e => Context.Joins h.provider e
  | .customChange _ | .mount | .reload => True

instance (h : Home) : (e : Event) → Decidable (Joins h e)
  | .presetChange selected =>
      inferInstanceAs (Decidable (∀ v ∈ predefinedEndpoints.lookup selected, _))
  | .connectClick =>
      inferInstanceAs (Decidable (Context.Joins h.provider (.handleConnect h.selector.customEndpoint)))
  | .provider e => inferInstanceAs (Decidable (Context.Joins h.provider e))
  | .customChange _ | .mount | .reload => isTrue trivial

/-! ### The invariant -/

/-- The endpoint of the preset that is shown, if one is, is `endpoint`. -/
def Selector.Agrees (s : Selector) (endpoint : String) : Prop :=
  ∀ v, (s.selectedEndpoint, v) ∈ predefinedEndpoints → v = endpoint

theorem agrees_endpointEffect (s : Selector) (endpoint : String) :
    (s.endpointEffect endpoint).Agrees endpoint := by
  intro v hv
  rcases s.endpointEffect_cases endpoint with ⟨key, hmem, he⟩ | he
  · rw [he] at hv
    exact predefined_unique hv hmem
  · rw [he] at hv
    exact absurd rfl (predefined_entries _ hv).2.2.1

theorem Selector.Valid.agrees {s : Selector} (hs : s.Valid) (hshow : s.showCustom = true)
    (endpoint : String) : s.Agrees endpoint := by
  intro v hv
  exact absurd (hs.custom.mp hshow) (predefined_entries _ hv).2.2.1

/-- The preset shown is that of the endpoint the calls in flight head for; or the selector has been
mounted since, and it is that of the published endpoint. -/
structure Follows (h : Home) : Prop where
  shown : Shown h.provider
  published : Published h.provider
  valid : h.selector.Valid
  preset : h.selector.Agrees h.provider.service.heading ∨ h.selector.Agrees h.provider.endpoint

theorem follows_load (savedEndpoint env : Option String) : Follows (.load savedEndpoint env) where
  shown := Context.shown_load savedEndpoint env
  published := by rintro ⟨⟩
  valid := valid_load savedEndpoint env
  preset := .inr (agrees_endpointEffect _ _)

section
variable {wsProviderError : String → Option String} {env : Option String} {h h' : Home}

/-- The effect follows an endpoint that is newly published, and the calls head for that one. -/
theorem preset_flush {before : Home}
    (hh : h.selector.Agrees h.provider.service.heading ∨ h.selector.Agrees h.provider.endpoint)
    (he : h.provider.endpoint ≠ before.provider.endpoint →
      h.provider.endpoint = h.provider.service.heading) :
    (flush before h).selector.Agrees (flush before h).provider.service.heading ∨
      (flush before h).selector.Agrees (flush before h).provider.endpoint := by
  rw [flush_provider]
  unfold flush
  split
  · exact hh
  · rename_i hne
    rw [← he hne]
    exact .inl (agrees_endpointEffect _ _)

/-- **One step.** -/
theorem follows_step {e : Event} (hf : Follows h) (hg : Joins h e)
    (hs : step wsProviderError env h e = some h') : Follows h' := by
  obtain ⟨h₁, hm, rfl⟩ := step_moves hs
  have hvalid : (flush h h₁).selector.Valid := valid_flush (hm.valid hf.valid)
  -- where the provider takes a step of its own, only the selection is left to check
  have hmove : ∀ {e' : Context.Event}, Context.Joins h.provider e' →
      Context.step wsProviderError h.provider e' = some h₁.provider →
      (h₁.provider.endpoint = h.provider.endpoint →
        h₁.selector.Agrees h₁.provider.service.heading ∨
          h₁.selector.Agrees h₁.provider.endpoint) → Follows (flush h h₁) := by
    intro e' hj hstep hagrees
    have hshown := Context.shown_step hf.shown hj hstep
    have hpub := Context.published_step hf.shown hf.published hstep
    have hend := Context.endpoint_step hf.shown hstep
    refine ⟨by rw [flush_provider]; exact hshown, by rw [flush_provider]; exact hpub, hvalid, ?_⟩
    by_cases hsame : h₁.provider.endpoint = h.provider.endpoint
    · exact preset_flush (hagrees hsame) hend
    · rw [flush_provider, flush, if_neg hsame]
      exact .inr (agrees_endpointEffect _ _)
  cases hm with
  | custom hne =>
      rw [flush_selector]
      exact ⟨hf.shown, hf.published, Selector.valid_custom _,
        .inl ((Selector.valid_custom _).agrees rfl _)⟩
  | @preset key v p' hmem hne hp =>
      have hj := hg v (predefined_entries _ hmem).1
      refine hmove hj hp fun _ => .inl fun v' hv' => ?_
      exact (predefined_unique hv' hmem).trans (Context.heading_provider hf.shown hj hp).symm
  | type hshow value =>
      rw [flush_selector]
      exact ⟨hf.shown, hf.published, ⟨hf.valid.option, hf.valid.custom⟩, hf.preset⟩
  | click hshow hflag hne hp =>
      have hj : Context.Joins h.provider (.handleConnect h.selector.customEndpoint) := hg
      exact hmove hj hp fun _ => .inl (hf.valid.agrees hshow _)
  | mount =>
      rw [flush_selector]
      exact ⟨hf.shown, hf.published, Selector.valid_endpointEffect _ _,
        .inr (agrees_endpointEffect _ _)⟩
  | reload =>
      have hl := follows_load h.provider.service.state.localStorage env
      refine ⟨by rw [flush_provider]; exact hl.shown, by rw [flush_provider]; exact hl.published,
        hvalid, preset_flush hl.preset fun _ => rfl⟩
  | @provider e' p' he hp =>
      refine hmove hg hp fun hsame => hf.preset.imp ?_ fun hpreset => hsame ▸ hpreset
      intro hpreset
      have hh := Context.heading_provider hf.shown hg hp
      cases e' with
      | handleConnect v => exact absurd rfl (he v)
      | connect | cleanup | resume | deliver | ready | close | reopen | error =>
          rw [hh]
          exact hpreset

/-- **The preset shown is the chain talked to.** -/
theorem preset_is_chain {savedEndpoint : Option String} {es : List Event}
    (hrun : Run (step wsProviderError env) Joins (.load savedEndpoint env) es h)
    (hi : h.provider.Idle) (hready : h.provider.isApiReady = true) :
    (∃ inst, h.provider.api = some inst ∧ inst.endpoint = h.provider.endpoint) ∧
      ∀ key v, (key, v) ∈ predefinedEndpoints → h.selector.selectedEndpoint = key →
        v = h.provider.endpoint := by
  have hf : Follows h :=
    hrun.invariant (fun _ _ _ hI hg hs => follows_step hI hg hs) (follows_load _ _)
  refine ⟨hf.shown.shown hready, ?_⟩
  rintro key v hmem rfl
  rcases hf.preset with hagrees | hagrees
  · have hhead : h.provider.service.heading = h.provider.service.state.currentEndpoint :=
      Service.heading_current (by rw [hi.1]; rintro q ⟨⟩)
    rw [hagrees v hmem, hhead]
    exact (hf.published.idle hi hready).symm
  · exact hagrees v hmem

end

/-- The saved endpoint is connected; a preset is selected; while it is being connected, the user
leaves the page and comes back. -/
theorem preset_is_chain_kusama :
    let h := (exec (step Service.schemeError none) Joins
      (.load (some "wss://rpc.polkadot.io") none)
      [.provider .connect, .provider (.resume 0), .provider (.resume 0), .provider (.deliver 0),
        .provider (.ready 0), .presetChange "Kusama", .provider (.resume 0), .mount,
        .provider (.resume 0), .provider (.resume 0), .provider (.deliver 0)]).get (by decide)
    h.selector.selectedEndpoint = "Kusama" ∧ "wss://kusama-rpc.polkadot.io" = h.provider.endpoint := by
  refine ⟨by decide, ?_⟩
  exact (preset_is_chain (run_of_exec (Option.some_get _).symm) (by decide) (by decide)).2 "Kusama" _
    (by decide) (by decide)

/-- The local preset is refused, and the select shows it over the endpoint there was. -/
theorem failed_choice_shown :
    ∃ h, Run (step (fun e => if e = "ws://127.0.0.1:41689" then some "refused" else none) none) Joins
        (.load (some "wss://rpc.polkadot.io") none)
        [.provider .connect, .provider (.resume 0), .provider (.resume 0), .provider (.deliver 0),
          .provider (.ready 0), .presetChange "Local Node", .provider (.resume 0),
          .provider (.deliver 0)] h ∧
      h.provider.Idle ∧ h.provider.isApiReady = false ∧
      h.selector.selectedEndpoint = "Local Node" ∧ h.provider.endpoint = "wss://rpc.polkadot.io" :=
  exists_run (by decide)

end SubstrateDevTemplate.EndpointSelector
