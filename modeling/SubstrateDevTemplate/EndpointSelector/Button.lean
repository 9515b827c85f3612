import SubstrateDevTemplate.Context.OneAttempt
import SubstrateDevTemplate.EndpointSelector.Steps

/-!
# EndpointSelector — the Connect button

The Connect button is disabled while `isConnecting` is set; the select is not.  Where the provider
is mounted at rest only, and never unmounted, a user who keeps to the button therefore never has two
attempts in flight, and none of what can go wrong with calls that overlap can happen.  StrictMode,
which unmounts the provider and mounts it again while it connects, is left out.

* `button_keeps_chain`: with the button alone, `isConnecting` is right, at most one instance is
  open, and a provider that is ready shows the chain it talks to, at every moment.
* `preset_overlaps`: a preset, chosen while the mount connects, starts a second attempt.
-/

namespace SubstrateDevTemplate.EndpointSelector
open Context (Provider Lone)
open Transition

/-- No preset is selected; the provider is mounted only where it is at rest, and its cleanup is
never run. -/
def ButtonOnly (h : Home) : Event → Prop
  | .presetChange selected => selected = "custom"
  | .provider .connect => h.provider.Idle
  | .provider .cleanup => False
  | _ => True

instance (h : Home) : (e : Event) → Decidable (ButtonOnly h e)
  | .presetChange _ => inferInstanceAs (Decidable (_ = _))
  | .provider .connect => inferInstanceAs (Decidable h.provider.Idle)
  | .provider .cleanup => isFalse id
  | .customChange _ | .connectClick | .mount | .reload => isTrue trivial
  | .provider (.handleConnect _) | .provider (.resume _) | .provider (.deliver _)
  | .provider (.ready _) | .provider (.close _) | .provider (.reopen _)
  | .provider (.error _ _) => isTrue trivial

section
variable {wsProviderError : String → Option String} {savedEndpoint env : Option String} {h h' : Home}

/-- The button keeps to the flag. -/
theorem lone_button {e : Event} (hp : Lone h.provider) (hg : ButtonOnly h e)
    (hs : step wsProviderError env h e = some h') : Lone h'.provider := by
  obtain ⟨h₁, hm, rfl⟩ := step_moves hs
  rw [flush_provider]
  cases hm with
  | custom hne => exact hp
  | preset hmem hne hstep => exact absurd hg (predefined_entries _ hmem).2.2.1
  | type hshow value => exact hp
  | click hshow hflag hne hstep => exact Context.lone_step (e := .handleConnect _) hp hflag hstep
  | mount => exact hp
  | reload => exact Context.lone_load _ _
  | @provider e' p' he hstep =>
      refine Context.lone_step hp ?_ hstep
      cases e' with
      | handleConnect v => exact absurd rfl (he v)
      | connect | cleanup => exact hg
      | resume | deliver | ready | close | reopen | error => trivial

/-- **The Connect button is safe.** -/
theorem button_keeps_chain {es : List Event}
    (hrun : Run (step wsProviderError env) ButtonOnly (.load savedEndpoint env) es h) :
    (h.provider.isConnecting = true ↔ ¬ h.provider.Idle) ∧ h.provider.attempts ≤ 1 ∧
      h.provider.service.state.opened.card ≤ 1 ∧
      (h.provider.isApiReady = true →
        ∃ inst, h.provider.api = some inst ∧ inst.endpoint = h.provider.endpoint) := by
  have hp : Lone h.provider := hrun.invariant (I := fun h => Lone h.provider)
    (fun _ _ _ hI hg hs => lone_button hI hg hs) (Context.lone_load _ _)
  exact ⟨hp.flag, hp.single, Context.opened_le_one hp.sole, hp.shown.shown⟩

end

/-- The saved endpoint is connected; another one is typed over it, and connected. -/
theorem button_keeps_chain_typed :
    ∃ h, Run (step Service.schemeError none) ButtonOnly (.load (some "ws://127.0.0.1:9944") none)
        [.provider .connect, .provider (.resume 0), .provider (.resume 0), .provider (.deliver 0),
          .provider (.ready 0), .customChange "ws://127.0.0.1:38087", .connectClick,
          .provider (.resume 0), .provider (.resume 0), .provider (.resume 0),
          .provider (.deliver 0)] h ∧
      (h.provider.isApiReady = true →
        ∃ inst, h.provider.api = some inst ∧ inst.endpoint = h.provider.endpoint) :=
  exists_run_and (by decide) fun _ hrun => (button_keeps_chain hrun).2.2.2

/-- The select is not disabled while the mount connects. -/
theorem preset_overlaps :
    ∃ h, Run (step Service.schemeError none) anyEvent (.load (some "ws://127.0.0.1:9944") none)
        [.provider .connect, .presetChange "Kusama"] h ∧ h.provider.attempts = 2 :=
  exists_run (by decide)

end SubstrateDevTemplate.EndpointSelector
