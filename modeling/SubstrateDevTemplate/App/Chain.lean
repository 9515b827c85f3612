import SubstrateDevTemplate.App.Steps

/-!
# App — the chain a transaction goes to

What the service, the provider, the selector and the pages do together, when a transaction is
signed.

* `signed_as_clicked`: in a run in which a call of the service starts beside others only to join
  them, what is signed is what a page's state gave when its button was clicked, for the chain whose
  endpoint was published then; on whichever page, whatever has been published since, and even if the
  page has been left.
* `signed_elsewhere`: where calls overlap freely, a transfer is signed for another chain than the
  one published.
-/

namespace SubstrateDevTemplate.App
open Service (ApiPromise)
open Context (Provider)
open EndpointSelector (Follows)
open Transition

variable {ρ : Type*} {chains : Chains}

/-- What the page's state gives is for the instance that the provider publishes. -/
theorem Screen.prepared_api {s : Screen ρ} {api : Option ApiPromise} {isApiReady : Bool}
    {x : Signing} (hs : s.Synced api isApiReady) (hx : s.prepared chains = some x) :
    api = some x.api := by
  cases s with
  | home | chainState => cases hx
  | extrinsics h =>
      obtain ⟨inst, hapi, rfl⟩ := Option.map_eq_some_iff.mp hx
      exact hs.1.symm.trans hapi
  | transfer p =>
      obtain ⟨inst, hapi, hx⟩ := Option.bind_eq_some_iff.mp hx
      obtain ⟨method, -, rfl⟩ := Option.map_eq_some_iff.mp hx
      exact hs.1.symm.trans hapi

/-- Its button is there while the provider is ready. -/
theorem Screen.SubmitEnabled.ready {s : Screen ρ} {api : Option ApiPromise} {isApiReady : Bool}
    (hs : s.Synced api isApiReady) (hen : s.SubmitEnabled) : isApiReady = true := by
  cases s with
  | home | chainState => exact hen.elim
  | extrinsics h => exact hs.2.symm.trans hen.1.1
  | transfer p => exact hs.2.symm.trans hen.1

section
variable {wsProviderError : String → Option String} {savedEndpoint env : Option String}
  {route : Route} {es : List (Event ρ)} {a : State ρ}

theorem wired_run {G : State ρ → Event ρ → Prop}
    (hrun : Run (step chains wsProviderError env) G (.load chains savedEndpoint env route) es a) :
    Wired a :=
  hrun.invariant (fun _ _ _ hI _ hs => wired_step hI hs) (wired_load _ _ _)

/-- **What a submission under way is for** was given by the state of a page of its kind, when the
button of that was clicked. -/
theorem clicked_of_signings {G : State ρ → Event ρ → Prop}
    (hrun : Run (step chains wsProviderError env) G (.load chains savedEndpoint env route) es a)
    {s : Screen ρ} (hs : s ∈ a.screen :: a.left) {x : Signing} (hx : x ∈ s.signings chains) :
    ∃ before click after clicked screen, es = before ++ .page click :: after ∧
      click.submits = true ∧ Run (step chains wsProviderError env) G
        (.load chains savedEndpoint env route) before clicked ∧
      clicked.screen.step chains click = some screen ∧ clicked.screen.route = s.route ∧
      clicked.screen.SubmitEnabled ∧ clicked.screen.prepared chains = some x ∧
      x.account ∈ clicked.screen.accounts := by
  have hnone : ¬ ∃ t ∈ (State.load chains savedEndpoint env route : State ρ).screen :: [],
      t.route = s.route ∧ x ∈ t.signings chains := by
    rintro ⟨t, ht, -, hx⟩
    obtain ⟨-, -, hnone⟩ := Screen.mounted ρ chains none false route
    rw [List.mem_singleton.mp ht, State.load, hnone] at hx
    cases hx
  -- the submission it is of was not there at first: a click has added it
  obtain ⟨before, e, after, b, b', rfl, hbefore, -, hstep, hno, t, ht, hroute, ht'⟩ :=
    hrun.origin (P := fun a => ∃ t ∈ a.screen :: a.left, t.route = s.route ∧ x ∈ t.signings chains)
      hnone ⟨s, hs, rfl, hx⟩
  rcases page_signings_step (wired_run hbefore) hstep ht ht' with
    ⟨u, hu, hroute', hx'⟩ | ⟨click, rfl, hclick, hroute', hen, hprepared, haccount⟩
  · exact absurd ⟨u, hu, hroute'.trans hroute, hx'⟩ hno
  · obtain ⟨screen, hscreen, -⟩ := Option.map_eq_some_iff.mp hstep
    exact ⟨before, click, after, b, screen, rfl, hclick, hbefore, hscreen, hroute'.trans hroute,
      hen, hprepared, haccount⟩

/-- The button is clicked, and the page's state gives the signing, for the chain that is published.
-/
structure Click (chains : Chains) (a : State ρ) (x : Signing) : Prop where
  enabled : a.screen.SubmitEnabled
  prepared : a.screen.prepared chains = some x
  listed : x.account ∈ a.screen.accounts
  ready : a.provider.isApiReady = true
  api : a.provider.api = some x.api

theorem follows_wired
    (hrun : Run (step chains wsProviderError env) Joins
      (.load chains savedEndpoint env route) es a) :
    Follows a.home ∧ Wired a := by
  refine hrun.invariant (I := fun a => Follows a.home ∧ Wired a) (fun a e a' hI hg hs => ?_)
    ⟨EndpointSelector.follows_load _ _, wired_load _ _ _⟩
  refine ⟨?_, wired_step hI.2 hs⟩
  rcases (step_moves hs).home with hsame | ⟨e', hhome, hjoins⟩
  · rw [hsame]; exact hI.1
  · exact EndpointSelector.follows_step hI.1 (hjoins hg) hhome

/-- **A transaction is as it was clicked**: it goes to the chain that was published at its click,
with what the page's state gave there. -/
theorem signed_as_clicked
    (hrun : Run (step chains wsProviderError env) Joins
      (.load chains savedEndpoint env route) es a)
    {e : Event ρ} {x : Signing} (hx : a.signs chains e = some x) :
    ∃ before click after clicked, es = before ++ .page click :: after ∧ click.submits = true ∧
      Run (step chains wsProviderError env) Joins (.load chains savedEndpoint env route) before
        clicked ∧
      Click chains clicked x ∧ clicked.provider.endpoint = x.api.endpoint := by
  obtain ⟨s, hs, hx⟩ := mem_signings.mp (signs_mem hx)
  obtain ⟨before, click, after, clicked, -, rfl, hclick, hbefore, -, -, hen, hprepared, hlisted⟩ :=
    clicked_of_signings hrun hs hx
  obtain ⟨hfollows, hwired⟩ := follows_wired hbefore
  have hready := hen.ready hwired.synced
  have hapi := Screen.prepared_api hwired.synced hprepared
  obtain ⟨inst, hinst, hend⟩ := hfollows.shown.shown hready
  refine ⟨before, click, after, clicked, rfl, hclick, hbefore,
    ⟨hen, hprepared, hlisted, hready, hapi⟩, ?_⟩
  rw [hapi] at hinst
  cases hinst
  exact hend.symm

end

/-- Chains with one transfer method. -/
def plainChains : Chains where
  transfer _ := ⟨.ok none, some ["transferKeepAlive"], fun _ _ _ => none,
    fun _ _ => .error "Unable to find Error"⟩
  extrinsics _ := ⟨Extrinsics.noMetadata, .ok [], fun _ => .ok []⟩
  query _ := .ok ⟨[], List.nodup_nil⟩
  formatBalance free _ _ := toString free

/-- The wallet is connected and a transfer clicked, on the Transfer page. -/
def transferClicked : List (Event Unit) :=
  [.navigate .transfer, .page (.transfer .connectWallet),
    .page (.transfer (.walletEnabled 0 (.ok 1))),
    .page (.transfer (.walletListed 0 (.ok [⟨"5Grw", "polkadot-js"⟩]))),
    .page (.transfer (.recipientChange "5Fhn")), .page (.transfer (.amountChange ['1'])),
    .page (.transfer .submit)]

/-- What is signed for the wallet's account on `api`. -/
def transferOn (api : ApiPromise) : Signing :=
  ⟨api, "5Grw", "balances", "transferKeepAlive", [.string "5Fhn", .string "1000000000000"]⟩

/-- The page is left while the injector is waited for, and another chain is chosen: the transfer is
signed for the chain it was clicked on. -/
theorem signed_as_clicked_left :
    let es : List (Event Unit) := [.home (.provider .connect) [], .home (.provider (.resume 0)) [],
      .home (.provider (.resume 0)) [], .home (.provider (.deliver 0)) [],
      .home (.provider (.ready 0)) []] ++ transferClicked ++ [.navigate .home,
      .home (.presetChange "Kusama") [], .home (.provider (.resume 0)) []]
    ∃ a, Run (step plainChains Service.schemeError none) Joins
        (.load plainChains (some "wss://rpc.polkadot.io") none .home) es a ∧
      ∃ before click after clicked, es = before ++ .page click :: after ∧ click.submits = true ∧
        Run (step plainChains Service.schemeError none) Joins
          (.load plainChains (some "wss://rpc.polkadot.io") none .home) before clicked ∧
        Click plainChains clicked (transferOn ⟨0, "wss://rpc.polkadot.io"⟩) ∧
        clicked.provider.endpoint = "wss://rpc.polkadot.io" := by
  intro es
  obtain ⟨a, hrun, hx⟩ : ∃ a, Run (step plainChains Service.schemeError none) Joins
      (.load plainChains (some "wss://rpc.polkadot.io") none .home) es a ∧
      a.signs plainChains (.left 1 (.transfer (.injected 0 (.ok ())))) =
        some (transferOn ⟨0, "wss://rpc.polkadot.io"⟩) := exists_run (by decide)
  exact ⟨a, hrun, signed_as_clicked hrun hx⟩

/-- **A transfer goes to another chain.**  Kusama is chosen while the saved Polkadot endpoint does
not answer, and Polkadot answers last: Kusama's endpoint is published, and the transfer is signed
for Polkadot. -/
theorem signed_elsewhere :
    ∃ a : State Unit, Run (step plainChains Service.schemeError none) anyEvent
        (.load plainChains (some "wss://rpc.polkadot.io") none .home)
        ([.home (.provider .connect) [], .home (.presetChange "Kusama") [],
          .home (.provider (.resume 1)) [], .home (.provider (.resume 1)) [],
          .home (.provider (.deliver 0)) [], .home (.provider (.resume 0)) [],
          .home (.provider (.resume 0)) [], .home (.provider (.deliver 0)) [],
          .home (.provider (.ready 0)) []] ++ transferClicked) a ∧
      a.provider.Idle ∧ a.provider.isApiReady = true ∧
      a.provider.endpoint = "wss://kusama-rpc.polkadot.io" ∧
      a.signs plainChains (.page (.transfer (.injected 0 (.ok ())))) =
        some (transferOn ⟨0, "wss://rpc.polkadot.io"⟩) :=
  exists_run (by decide)

end SubstrateDevTemplate.App
