import SubstrateDevTemplate.App.Shown
import SubstrateDevTemplate.Transfer.Form

/-!
# App — what was entered last

What is signed was clicked on a visit of a page of the kind it is signed for, and is made of what
was entered last on that visit.  A transfer is to the recipient typed last; its amount is the string
`rawAmount` makes, with the decimals of the chain it goes to, of the amount entered last.  An
extrinsic calls the method selected last, with one argument for each parameter of it on the chain it
goes to, made of the text typed last into that parameter's input since.

* `visit`: the events of the visit that the app is at.
* `Screen.Filled`, `filled_app_step`: what the page that is shown holds, was entered last on it.
* `signed_as_typed`, `signed_as_filled`: in every run, with any calls overlapping.
-/

namespace SubstrateDevTemplate

/-! ### The pages -/

namespace Transfer
open Service (ApiPromise)

variable {chain : ApiPromise → Chain} {past : List Event} {p : Page} {x : Signing}

variable (chain) in
/-- After the history `past`, the signing is a transfer of what was entered last, by a method of the
chain it goes to and with that chain's decimals, where they can be read. -/
def PaysEntered (past : List Event) (x : Signing) : Prop :=
  ∃ recipient amount tokenDecimals, lastRecipient past = some recipient ∧ LastAmount amount past ∧
    x.module = "balances" ∧ (chain x.api).transferMethod = some x.method ∧
    x.args = [.string recipient, .string (String.ofList (rawAmount amount tokenDecimals))] ∧
    ∀ token, (chain x.api).token = some token → tokenDecimals = token.2

/-- What the state of a page gives, whose button is enabled. -/
theorem Filled.pays (hp : Filled past p) (hheld : TokenHeld chain p) (hready : p.isApiReady = true)
    (hen : p.SubmitEnabled) (hx : p.prepared chain = some x) : PaysEntered chain past x := by
  obtain ⟨inst, hapi, hx⟩ := Option.bind_eq_some_iff.mp hx
  obtain ⟨method, hmethod, rfl⟩ := Option.map_eq_some_iff.mp hx
  refine ⟨p.recipient, p.amount, p.tokenDecimals, hp.recipient.resolve_left hen.2.2.1,
    hp.amount.resolve_left hen.2.2.2, rfl, hmethod, rfl, fun token htoken => ?_⟩
  exact congrArg Prod.snd (hheld.of_api hapi hready htoken)

end Transfer

namespace Extrinsics.Hosted
open Service (ApiPromise)

variable {chain : ApiPromise → Chain} {start : Option ApiPromise} {past : List Event} {h : Hosted}
  {x : Signing}

/-- What was typed last for an instance, was typed last. -/
theorem lastTyped_pageEvents {i : Nat} {text : String} (h : lastTyped start i past = some text) :
    Extrinsics.lastTyped i (pageEvents past) = some text := by
  induction past with
  | nil => cases h
  | cons e past ih =>
      cases e with
      | context api isApiReady suffixes =>
          simp only [lastTyped] at h
          split at h
          · exact ih h
          · cases h
      | page e =>
          cases e with
          | paramChange j value =>
              have hhead :
                  Extrinsics.lastTyped i (pageEvents (.page (.paramChange j value) :: past)) =
                    if i = j then some value else Extrinsics.lastTyped i (pageEvents past) := rfl
              rw [hhead]
              simp only [lastTyped] at h
              split at h
              · rename_i heq
                rw [if_pos heq, h]
              · rename_i hne
                rw [if_neg hne, ih h]
          | moduleChange | methodChange | submit => cases h
          | _ => exact ih h

variable (chain) in
/-- After the history `past`, the signing calls the method selected last, with one argument for each
parameter of it on the chain it goes to, made of the text typed last into that parameter's input
since. -/
def CallsFilled (past : List Extrinsics.Event) (x : Signing) : Prop :=
  selection past = (x.module, x.method) ∧
  ∃ suffixes params,
    parametersOf (some (chain x.api).api) suffixes x.module x.method = some params ∧
    x.args.length = params.length ∧
    ∀ i param, params[i]? = some param → ∃ text, text ≠ "" ∧
      Extrinsics.lastTyped i past = some text ∧
      x.args[i]? = some (formatParameter (some text) param.type)

/-- What the state of a page gives, whose button is enabled. -/
theorem Fits.calls (hf : Fits chain start past h) (hen : h.page.SubmitEnabled)
    (hx : h.prepared = some x) : CallsFilled chain (pageEvents past) x := by
  obtain ⟨inst, hapi, rfl⟩ := Option.map_eq_some_iff.mp hx
  have hfilled := (hf.formFor hapi).filled hen
  obtain ⟨suffixes, hparams⟩ := hfilled.parameters
  refine ⟨hfilled.selected, suffixes, h.page.methodParameters, hparams,
    processedParams_length h.page.clicked, fun i param hi => ?_⟩
  obtain ⟨hlt, -⟩ := List.getElem?_eq_some_iff.mp hi
  obtain ⟨text, hne, hitem, hlast⟩ := hfilled.typed i hlt
  refine ⟨text, hne, lastTyped_pageEvents hlast, ?_⟩
  show h.page.clicked.processedParams[i]? = _
  rw [Submission.processedParams, List.getElem?_mapIdx]
  show (h.page.methodParameters[i]?).map _ = _
  rw [hi, Option.map_some]
  show some (formatParameter (Js.item h.page.paramValues i) param.type) = _
  rw [hitem]

end Extrinsics.Hosted

/-! ### The app -/

namespace App
open Service (ApiPromise)
open Transition

variable {ρ : Type*} {chains : Chains}

def PageEvent.ofTransfer : PageEvent ρ → Option Transfer.Event
  | .transfer e => some e
  | .chainState _ | .extrinsics _ => none

def PageEvent.ofExtrinsics : PageEvent ρ → Option Extrinsics.Event
  | .extrinsics e => some e
  | .chainState _ | .transfer _ => none

/-- The events of the page that is shown, since it was mounted, the latest one first. -/
def visit : List (Event ρ) → List (PageEvent ρ)
  | [] | .navigate _ :: _ | .home .reload _ :: _ => []
  | .page e :: past => e :: visit past
  | .home _ _ :: past | .left _ _ :: past => visit past

/-- What happens to the provider or the selector, but for a reload, ends no visit. -/
theorem visit_home {e : EndpointSelector.Event} (he : e ≠ .reload) (suffixes : List String)
    (past : List (Event ρ)) : visit (.home e suffixes :: past) = visit past := by
  cases e with
  | reload => exact absurd rfl he
  | _ => rfl

namespace Screen

variable (chains) in
/-- What the page holds was entered last, in the events `own` of it. -/
def Filled (own : List (PageEvent ρ)) : Screen ρ → Prop
  | .home | .chainState _ => True
  | .extrinsics h => ∃ start past, Extrinsics.Hosted.Fits chains.extrinsics start past h ∧
      Extrinsics.Hosted.pageEvents past = own.filterMap PageEvent.ofExtrinsics
  | .transfer p => Transfer.Filled (own.filterMap PageEvent.ofTransfer) p

variable {own : List (PageEvent ρ)} {s s' : Screen ρ}

variable (ρ chains) in
theorem filled_mount (api : Option ApiPromise) (isApiReady : Bool) (route : Route) :
    (mount chains api isApiReady route : Screen ρ).Filled chains [] := by
  cases route with
  | home | chainState => trivial
  | extrinsics =>
      exact ⟨api, [], Extrinsics.Hosted.fits_mount chains.extrinsics isApiReady, rfl⟩
  | transfer => exact .mount chains.transfer api isApiReady

/-- What the provider publishes leaves what has been entered. -/
theorem filled_context (api : Option ApiPromise) (isApiReady : Bool) (suffixes : List String)
    (h : s.Filled chains own) : (s.context chains api isApiReady suffixes).Filled chains own := by
  cases s with
  | home | chainState => trivial
  | extrinsics =>
      obtain ⟨start, past, hfits, hown⟩ := h
      exact ⟨start, .context api isApiReady suffixes :: past,
        Extrinsics.Hosted.fits_step hfits rfl, hown⟩
  | transfer p =>
      have hstep : Transfer.step chains.transfer chains.formatBalance p (.context api isApiReady) =
          some _ := rfl
      exact (Transfer.Filled.step h hstep).of_cons rfl

/-- **An event of the page.** -/
theorem filled_step {e : PageEvent ρ} (hs : s.Filled chains own) (h : s.step chains e = some s') :
    s'.Filled chains (e :: own) := by
  unfold step at h
  split at h
  · obtain ⟨c, -, rfl⟩ := Option.map_eq_some_iff.mp h
    trivial
  · rename_i c e
    obtain ⟨c', hc, rfl⟩ := Option.map_eq_some_iff.mp h
    obtain ⟨start, past, hfits, hown⟩ := hs
    exact ⟨start, .page e :: past, Extrinsics.Hosted.fits_step hfits hc,
      congrArg (List.cons e) hown⟩
  · cases h
  · obtain ⟨p', hp, rfl⟩ := Option.map_eq_some_iff.mp h
    exact Transfer.Filled.step hs hp
  · cases h

/-- The button that submits is on two of the pages. -/
theorem step_submits {e : PageEvent ρ} (he : e.submits = true) (h : s.step chains e = some s') :
    (∃ h, s = .extrinsics h ∧ e = .extrinsics .submit) ∨
      ∃ p, s = .transfer p ∧ e = .transfer .submit := by
  unfold step at h
  split at h
  · cases he
  · rename_i c e
    cases e with
    | submit => exact .inl ⟨c, rfl, rfl⟩
    | _ => cases he
  · cases h
  · rename_i p e _
    cases e with
    | submit => exact .inr ⟨p, rfl, rfl⟩
    | _ => cases he
  · cases h

end Screen

section
variable {wsProviderError : String → Option String} {savedEndpoint env : Option String}
  {route : Route} {es : List (Event ρ)} {a a' : State ρ}

/-- **One event of the app.** -/
theorem filled_app_step {past : List (Event ρ)} {e : Event ρ}
    (hf : a.screen.Filled chains (visit past)) (h : step chains wsProviderError env a e = some a') :
    a'.screen.Filled chains (visit (e :: past)) := by
  cases step_moves h with
  | told suffixes hr hs =>
      rw [visit_home hr]
      exact Screen.filled_context _ _ _ hf
  | reloaded suffixes hs => exact Screen.filled_mount ρ chains _ _ _
  | entered route hroute hs => exact Screen.filled_mount ρ chains _ _ _
  | stepped hs => exact Screen.filled_step hf hs
  | wentOn hk hs => exact hf

/-- **In every run.** -/
theorem filled_run {G : State ρ → Event ρ → Prop}
    (hrun : Run (step chains wsProviderError env) G (.load chains savedEndpoint env route) es a) :
    a.screen.Filled chains (visit es.reverse) := by
  have hstart : (State.load chains savedEndpoint env route : State ρ).screen.Filled chains
      (visit []) := Screen.filled_mount ρ chains none false route
  have hf := hrun.invariant_history (I := fun past a => a.screen.Filled chains (visit past))
    (fun _ _ _ _ hf _ hs => filled_app_step hf hs) hstart
  rwa [List.append_nil] at hf

/-- The event of a page that an event is. -/
def Event.ofPage : Event ρ → Option (PageEvent ρ)
  | .page e | .left _ e => some e
  | .home _ _ | .navigate _ => none

/-- What is signed is signed by one of the pages. -/
theorem signs_ofPage {e : Event ρ} {x : Signing} (hx : a.signs chains e = some x) :
    ∃ e' s, e.ofPage = some e' ∧ s ∈ a.screen :: a.left ∧ s.signs chains e' = some x := by
  cases e with
  | home | navigate => cases hx
  | page e => exact ⟨e, a.screen, rfl, List.mem_cons_self, hx⟩
  | left k e =>
      obtain ⟨s, hk, hs⟩ := Option.bind_eq_some_iff.mp hx
      split at hs
      · exact ⟨e, s, rfl, List.mem_cons_of_mem _ (List.mem_of_getElem? hk), hs⟩
      · cases hs

/-- **A transfer pays what was entered last.**  It was clicked on a Transfer page, whose state gave
it.  On that visit its recipient was typed last, and its amount entered last: typed, or made by a
percentage button of the free balance fetched last.  What is paid is the string `rawAmount` makes of
it, with the decimals of the chain it goes to, where these can be read. -/
theorem signed_as_typed
    (hrun : Run (step chains wsProviderError env) anyEvent
      (.load chains savedEndpoint env route) es a)
    {e : Event ρ} {event : Transfer.Event} (he : e.ofPage = some (.transfer event)) {x : Signing}
    (hx : a.signs chains e = some x) :
    ∃ before after clicked p, es = before ++ .page (.transfer .submit) :: after ∧
      Run (step chains wsProviderError env) anyEvent (.load chains savedEndpoint env route) before
        clicked ∧
      clicked.screen = .transfer p ∧ p.prepared chains.transfer = some x ∧
      Transfer.PaysEntered chains.transfer
        ((visit before.reverse).filterMap PageEvent.ofTransfer) x := by
  obtain ⟨e', s, he', hs, hsigns⟩ := signs_ofPage hx
  cases he.symm.trans he'
  cases s with
  | home | chainState | extrinsics => cases hsigns
  | transfer p₀ =>
      obtain ⟨before, click, after, clicked, screen, rfl, hclick, hbefore, hstep, hroute, hen,
        hprepared, -⟩ := clicked_of_signings hrun hs (Transfer.Page.signs_mem hsigns)
      have hfilled := filled_run hbefore
      have hreached := reached_run hbefore
      rcases Screen.step_submits hclick hstep with ⟨h, hscreen, -⟩ | ⟨p, hscreen, rfl⟩
      · rw [hscreen] at hroute
        cases hroute
      · rw [hscreen] at hfilled hreached hen hprepared
        obtain ⟨inst, ready, own, hown⟩ := hreached
        exact ⟨before, after, clicked, p, rfl, hbefore, hscreen, hprepared,
          Transfer.Filled.pays hfilled (Transfer.tokenHeld_run hown) hen.1 hen.2 hprepared⟩

/-- **An extrinsic calls with what was typed last.**  It was clicked on an Extrinsics page, whose
state gave it.  On that visit its method was selected last; and it has one argument for each
parameter of the method on the chain it goes to, made of the text that was typed last into that
parameter's input since. -/
theorem signed_as_filled
    (hrun : Run (step chains wsProviderError env) anyEvent
      (.load chains savedEndpoint env route) es a)
    {e : Event ρ} {event : Extrinsics.Event} (he : e.ofPage = some (.extrinsics event))
    {x : Signing} (hx : a.signs chains e = some x) :
    ∃ before after clicked h, es = before ++ .page (.extrinsics .submit) :: after ∧
      Run (step chains wsProviderError env) anyEvent (.load chains savedEndpoint env route) before
        clicked ∧
      clicked.screen = .extrinsics h ∧ h.prepared = some x ∧
      Extrinsics.Hosted.CallsFilled chains.extrinsics
        ((visit before.reverse).filterMap PageEvent.ofExtrinsics) x := by
  obtain ⟨e', s, he', hs, hsigns⟩ := signs_ofPage hx
  cases he.symm.trans he'
  cases s with
  | home | chainState | transfer => cases hsigns
  | extrinsics h₀ =>
      obtain ⟨before, click, after, clicked, screen, rfl, hclick, hbefore, hstep, hroute, hen,
        hprepared, -⟩ := clicked_of_signings hrun hs (Extrinsics.Hosted.signs_mem hsigns)
      have hfilled := filled_run hbefore
      rcases Screen.step_submits hclick hstep with ⟨h, hscreen, rfl⟩ | ⟨p, hscreen, -⟩
      · rw [hscreen] at hfilled hen hprepared
        obtain ⟨start, past, hfits, hown⟩ := hfilled
        refine ⟨before, after, clicked, h, rfl, hbefore, hscreen, hprepared, ?_⟩
        rw [← hown]
        exact hfits.calls hen.2 hprepared
      · rw [hscreen] at hroute
        cases hroute

end

/-- Half of a balance of three tokens is sent, and the page left before it is signed. -/
def halfSent : List (Event Unit) :=
  [.home (.provider .connect) [], .home (.provider (.resume 0)) [],
    .home (.provider (.resume 0)) [], .home (.provider (.deliver 0)) [],
    .home (.provider (.ready 0)) [], .navigate .transfer,
    .page (.transfer .connectWallet), .page (.transfer (.walletEnabled 0 (.ok 1))),
    .page (.transfer (.walletListed 0 (.ok [⟨"5Grw", "polkadot-js"⟩]))),
    .page (.transfer (.fetched 0 (.ok (some 30000000000)))),
    .page (.transfer (.recipientChange "5Fhn")), .page (.transfer (.percentage (.ofNat 50))),
    .page (.transfer .submit), .navigate .home]

/-- The transfer of a token and a half, at Polkadot's ten decimals. -/
theorem signed_as_typed_half :
    let x : Signing := ⟨⟨0, "wss://rpc.polkadot.io"⟩, "5Grw", "balances", "transferKeepAlive",
      [.string "5Fhn", .string "15000000000"]⟩
    let start := State.load tokenChains (some "wss://rpc.polkadot.io") none .home
    (∃ a, Run (step tokenChains Service.schemeError none) anyEvent start halfSent a ∧
      a.signs tokenChains (.left 1 (.transfer (.injected 0 (.ok ())))) = some x) ∧
    ∃ before after clicked p, halfSent = before ++ .page (.transfer .submit) :: after ∧
      Run (step tokenChains Service.schemeError none) anyEvent start before clicked ∧
      clicked.screen = .transfer p ∧ p.prepared tokenChains.transfer = some x ∧
      Transfer.PaysEntered tokenChains.transfer
        ((visit before.reverse).filterMap PageEvent.ofTransfer) x := by
  intro x start
  obtain ⟨a, hrun, hx⟩ : ∃ a, Run (step tokenChains Service.schemeError none) anyEvent start
      halfSent a ∧ a.signs tokenChains (.left 1 (.transfer (.injected 0 (.ok ())))) = some x :=
    exists_run (by decide)
  exact ⟨⟨a, hrun, hx⟩, signed_as_typed hrun rfl hx⟩

/-- Every chain has one method. -/
def oneMethodChains : Chains :=
  { plainChains with extrinsics := fun _ => Extrinsics.Hosted.oneMethod }

/-- A transfer is filled in backwards on the Extrinsics page, and that page left before it is
signed. -/
def filledBackwards : List (Event Unit) :=
  [.home (.provider .connect) [], .home (.provider (.resume 0)) [],
    .home (.provider (.resume 0)) [], .home (.provider (.deliver 0)) [],
    .home (.provider (.ready 0)) [], .navigate .extrinsics,
    .page (.extrinsics .connectWallet), .page (.extrinsics (.walletEnabled 0 (.ok 1))),
    .page (.extrinsics (.walletListed 0 (.ok [⟨"5Grw", "polkadot-js"⟩]))),
    .page (.extrinsics (.moduleChange "balances")),
    .page (.extrinsics (.methodChange "transferKeepAlive" [])),
    .page (.extrinsics (.paramChange 1 "10")), .page (.extrinsics (.paramChange 0 "5Fhn")),
    .page (.extrinsics .submit), .navigate .home]

/-- Its arguments are in order. -/
theorem signed_as_filled_backwards :
    let x : Signing := ⟨⟨0, "wss://rpc.polkadot.io"⟩, "5Grw", "balances", "transferKeepAlive",
      [.string "5Fhn", .string "10"]⟩
    let start := State.load oneMethodChains (some "wss://rpc.polkadot.io") none .home
    (∃ a, Run (step oneMethodChains Service.schemeError none) anyEvent start filledBackwards a ∧
      a.signs oneMethodChains (.left 1 (.extrinsics (.injected 0 (.ok ())))) = some x) ∧
    ∃ before after clicked h, filledBackwards = before ++ .page (.extrinsics .submit) :: after ∧
      Run (step oneMethodChains Service.schemeError none) anyEvent start before clicked ∧
      clicked.screen = .extrinsics h ∧ h.prepared = some x ∧
      Extrinsics.Hosted.CallsFilled oneMethodChains.extrinsics
        ((visit before.reverse).filterMap PageEvent.ofExtrinsics) x := by
  intro x start
  obtain ⟨a, hrun, hx⟩ : ∃ a, Run (step oneMethodChains Service.schemeError none) anyEvent start
      filledBackwards a ∧
      a.signs oneMethodChains (.left 1 (.extrinsics (.injected 0 (.ok ())))) = some x :=
    exists_run (by decide)
  exact ⟨⟨a, hrun, hx⟩, signed_as_filled hrun rfl hx⟩

end App

end SubstrateDevTemplate
