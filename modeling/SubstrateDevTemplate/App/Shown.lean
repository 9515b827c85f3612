import SubstrateDevTemplate.App.Chain
import SubstrateDevTemplate.Extrinsics.Options

/-!
# App — the chain that is shown

The page that is shown is told what the provider publishes, and is otherwise as it would be alone:
it has been reached by a run of its own from where it was mounted.  What holds in every run of a
page holds of it in the app.

* `Screen.Reached`, `reached_run`: the runs of the pages.
* `shown_of_chain`: in a run in which a call of the service starts beside others only to join them,
  what any page shows is of the chain whose endpoint is published, as far as that can be read.
* `shown_before`: a token that cannot be read is shown as it was before.
* `shown_elsewhere`: where calls overlap freely, it may be of another one.
-/

namespace SubstrateDevTemplate.App
open Service (ApiPromise)
open EndpointSelector (Follows)
open Catalogue (Enumerates StorageTests)
open Transition

variable {ρ : Type*} {chains : Chains}

namespace Screen

variable (chains) in
/-- The page has been reached by a run of its own. -/
def Reached : Screen ρ → Prop
  | .home => True
  | .chainState h => ∃ api isApiReady es,
      Run (ChainState.Hosted.step chains.query) anyEvent (.mount chains.query api isApiReady) es h
  | .extrinsics h => ∃ api isApiReady es,
      Run (Extrinsics.Hosted.step chains.extrinsics) anyEvent
        (.mount chains.extrinsics api isApiReady) es h
  | .transfer p => ∃ api isApiReady es,
      Run (Transfer.step chains.transfer chains.formatBalance) anyEvent
        (.mount chains.transfer api isApiReady) es p

variable (ρ chains) in
theorem reached_mount (api : Option ApiPromise) (isApiReady : Bool) (route : Route) :
    (mount chains api isApiReady route : Screen ρ).Reached chains := by
  cases route with
  | home => trivial
  | chainState | extrinsics | transfer => exact ⟨api, isApiReady, [], .refl _⟩

/-- What the provider publishes is an event of the page's run. -/
theorem reached_context (api : Option ApiPromise) (isApiReady : Bool) (suffixes : List String)
    {s : Screen ρ} (hs : s.Reached chains) :
    (s.context chains api isApiReady suffixes).Reached chains := by
  cases s with
  | home => trivial
  | chainState h =>
      obtain ⟨api₀, isApiReady₀, es, hrun⟩ := hs
      exact ⟨api₀, isApiReady₀, es ++ [.context api isApiReady], hrun.trans (.one trivial rfl)⟩
  | extrinsics h =>
      obtain ⟨api₀, isApiReady₀, es, hrun⟩ := hs
      exact ⟨api₀, isApiReady₀, es ++ [.context api isApiReady suffixes],
        hrun.trans (.one trivial rfl)⟩
  | transfer p =>
      obtain ⟨api₀, isApiReady₀, es, hrun⟩ := hs
      exact ⟨api₀, isApiReady₀, es ++ [.context api isApiReady], hrun.trans (.one trivial rfl)⟩

theorem reached_step {s s' : Screen ρ} {e : PageEvent ρ} (hs : s.Reached chains)
    (h : s.step chains e = some s') : s'.Reached chains := by
  unfold step at h
  split at h
  · rename_i c e
    obtain ⟨c', hc, rfl⟩ := Option.map_eq_some_iff.mp h
    obtain ⟨api, isApiReady, es, hrun⟩ := hs
    exact ⟨api, isApiReady, es ++ [.page e], hrun.trans (.one trivial hc)⟩
  · rename_i c e
    obtain ⟨c', hc, rfl⟩ := Option.map_eq_some_iff.mp h
    obtain ⟨api, isApiReady, es, hrun⟩ := hs
    exact ⟨api, isApiReady, es ++ [.page e], hrun.trans (.one trivial hc)⟩
  · cases h
  · rename_i p e _
    obtain ⟨p', hp, rfl⟩ := Option.map_eq_some_iff.mp h
    obtain ⟨api, isApiReady, es, hrun⟩ := hs
    exact ⟨api, isApiReady, es ++ [e], hrun.trans (.one trivial hp)⟩
  · cases h

variable (chains) in
/-- What the page shows is of the chain of `api`: its catalogue, or why that cannot be listed; its
options, or why they cannot; its token, where that can be read. -/
def ShowsChain (api : ApiPromise) : Screen ρ → Prop
  | .home => True
  | .chainState h =>
      (∀ query, chains.query api = .ok query → Enumerates query →
        h.hook = ⟨Catalogue.catalogue StorageTests.describe query, false, none⟩) ∧
      (∀ query, chains.query api = .ok query → ¬ Enumerates query →
        ∃ name ∈ query.keys, name ≠ "$metadata" ∧ ∃ message,
          query.get name = some (.error message) ∧ h.hook.error = some message) ∧
      ∀ message, chains.query api = .error message → h.hook.error = some message
  | .extrinsics h =>
      (∀ modules, (chains.extrinsics api).modules = .ok modules →
        h.modules = Extrinsics.offeredModules modules ∧ h.error = none) ∧
      (∀ message, (chains.extrinsics api).modules = .error message → h.error = some message) ∧
      h.methods = Extrinsics.offeredMethodsOf (chains.extrinsics api) h.page.selectedModule
  | .transfer p => ∀ token, (chains.transfer api).token = some token →
      (p.tokenSymbol, p.tokenDecimals) = token

/-- **A page that has been reached** shows the chain it is told of. -/
theorem Reached.shows {s : Screen ρ} {api : ApiPromise} (hs : s.Reached chains)
    (hsync : s.Synced (some api) true) : s.ShowsChain chains api := by
  cases s with
  | home => trivial
  | chainState h =>
      obtain ⟨api₀, isApiReady₀, es, hrun⟩ := hs
      have hf := ChainState.Hosted.fetched_run hrun
      exact ⟨fun query hquery henum => hf.of_ok hsync.1 hsync.2 hquery henum,
        fun query hquery henum => hf.of_error hsync.1 hsync.2 hquery henum,
        fun message hthrows => hf.of_throws hsync.1 hsync.2 hthrows⟩
  | extrinsics h =>
      obtain ⟨api₀, isApiReady₀, es, hrun⟩ := hs
      obtain ⟨hmodules, hmethods⟩ := Extrinsics.Hosted.held_run hrun
      have hheld := hmodules api hsync.1 hsync.2
      refine ⟨fun modules hm => ?_, fun message hm => ?_, hmethods api hsync.1⟩
      · rw [hm] at hheld
        exact hheld
      · rw [hm] at hheld
        exact hheld
  | transfer p =>
      obtain ⟨api₀, isApiReady₀, es, hrun⟩ := hs
      exact fun token ht => (Transfer.tokenHeld_run hrun).of_api hsync.1 hsync.2 ht

end Screen

section
variable {wsProviderError : String → Option String} {savedEndpoint env : Option String}
  {route : Route} {es : List (Event ρ)} {a a' : State ρ}

theorem reached_app_step {e : Event ρ} (hr : a.screen.Reached chains)
    (h : step chains wsProviderError env a e = some a') : a'.screen.Reached chains := by
  cases step_moves h with
  | told suffixes hne hs => exact Screen.reached_context _ _ _ hr
  | reloaded suffixes hs => exact Screen.reached_mount ρ chains _ _ _
  | entered route hroute hs => exact Screen.reached_mount ρ chains _ _ _
  | stepped hs => exact Screen.reached_step hr hs
  | wentOn hk hs => exact hr

/-- **In every run.** -/
theorem reached_run {G : State ρ → Event ρ → Prop}
    (hrun : Run (step chains wsProviderError env) G (.load chains savedEndpoint env route) es a) :
    a.screen.Reached chains :=
  hrun.invariant (I := fun a => a.screen.Reached chains)
    (fun _ _ _ hI _ hs => reached_app_step hI hs) (Screen.reached_mount ρ chains none false route)

/-- **What is shown is of the chain that is published.**  While the provider is ready, it has an
instance of the endpoint it publishes; and whatever page is shown, and however it was come by, its
catalogue and its options are those of that instance's chain, or the page has the error that listing
them threw; its token is that chain's where that can be read; and a click is for that instance. -/
theorem shown_of_chain
    (hrun : Run (step chains wsProviderError env) Joins
      (.load chains savedEndpoint env route) es a)
    (hready : a.provider.isApiReady = true) :
    ∃ api, a.provider.api = some api ∧ api.endpoint = a.provider.endpoint ∧
      a.screen.ShowsChain chains api ∧ ∀ x, a.screen.prepared chains = some x → x.api = api := by
  obtain ⟨hfollows, hwired⟩ := follows_wired hrun
  obtain ⟨api, hapi, hend⟩ := hfollows.shown.shown hready
  have hsync : a.screen.Synced (some api) true := by
    have := hwired.synced
    rwa [show a.home.provider.api = some api from hapi,
      show a.home.provider.isApiReady = true from hready] at this
  exact ⟨api, hapi, hend, (reached_run hrun).shows hsync,
    fun x hx => (Option.some.inj (Screen.prepared_api hsync hx)).symm⟩

end

/-- The token that is shown, if the page shows one. -/
def Screen.shownToken : Screen ρ → Option (String × Nat)
  | .transfer p => some (p.tokenSymbol, p.tokenDecimals)
  | .home | .chainState _ | .extrinsics _ => none

/-- Polkadot's token on the first instance, Kusama's on the others. -/
def tokenChains : Chains :=
  { plainChains with
    transfer := fun api =>
      { plainChains.transfer api with
        chainProperties := .ok (some ⟨some [if api.id = 0 then "DOT" else "KSM"],
          some [if api.id = 0 then 10 else 12]⟩) } }

/-- Kusama is chosen on the Home page, and connected while the Transfer page is shown. -/
def kusamaEntered : List (Event Unit) :=
  [.home (.provider .connect) [], .home (.provider (.resume 0)) [],
    .home (.provider (.resume 0)) [], .home (.provider (.deliver 0)) [],
    .home (.provider (.ready 0)) [], .home (.presetChange "Kusama") [], .navigate .transfer,
    .home (.provider (.resume 0)) [], .home (.provider (.resume 0)) [],
    .home (.provider (.resume 0)) [], .home (.provider (.deliver 0)) []]

theorem shown_of_chain_entered :
    ∃ a : State Unit, Run (step tokenChains Service.schemeError none) Joins
        (.load tokenChains (some "wss://rpc.polkadot.io") none .home) kusamaEntered a ∧
      ∃ api, a.provider.api = some api ∧ api.endpoint = a.provider.endpoint ∧
        a.screen.ShowsChain tokenChains api ∧
        ∀ x, a.screen.prepared tokenChains = some x → x.api = api := by
  obtain ⟨a, hrun, hready⟩ : ∃ a : State Unit, Run (step tokenChains Service.schemeError none) Joins
      (.load tokenChains (some "wss://rpc.polkadot.io") none .home) kusamaEntered a ∧
      a.provider.isApiReady = true := exists_run (by decide)
  exact ⟨a, hrun, shown_of_chain hrun hready⟩

/-- **A token that cannot be read** is not shown: the page keeps Polkadot's. -/
theorem shown_before :
    let chains : Chains :=
      { tokenChains with
        transfer := fun api =>
          if api.id = 0 then tokenChains.transfer api
          else { tokenChains.transfer api with chainProperties := .error "no properties" } }
    ∃ a : State Unit, Run (step chains Service.schemeError none) Joins
        (.load chains (some "wss://rpc.polkadot.io") none .home) kusamaEntered a ∧
      a.provider.isApiReady = true ∧ a.provider.endpoint = "wss://kusama-rpc.polkadot.io" ∧
      a.screen.shownToken = some ("DOT", 10) :=
  exists_run (by decide)

/-- **Another chain's token is shown.**  Kusama is chosen while the saved Polkadot endpoint does not
answer, and Polkadot answers last: Kusama's endpoint is published, and Polkadot's token shown. -/
theorem shown_elsewhere :
    ∃ a : State Unit, Run (step tokenChains Service.schemeError none) anyEvent
        (.load tokenChains (some "wss://rpc.polkadot.io") none .home)
        [.home (.provider .connect) [], .home (.presetChange "Kusama") [],
          .home (.provider (.resume 1)) [], .home (.provider (.resume 1)) [],
          .home (.provider (.deliver 0)) [], .home (.provider (.resume 0)) [],
          .home (.provider (.resume 0)) [], .home (.provider (.deliver 0)) [],
          .home (.provider (.ready 0)) [], .navigate .transfer] a ∧
      a.provider.isApiReady = true ∧ a.provider.endpoint = "wss://kusama-rpc.polkadot.io" ∧
      a.screen.shownToken = some ("DOT", 10) :=
  exists_run (by decide)

end SubstrateDevTemplate.App
