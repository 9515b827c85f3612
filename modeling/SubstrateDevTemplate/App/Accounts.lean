import SubstrateDevTemplate.App.Chain
import SubstrateDevTemplate.Extrinsics.Wallet
import SubstrateDevTemplate.Transfer.Wallet

/-!
# App — who signs

An account is selected, and signs, only after the wallet has listed it.

* `Screen.accounts_step`: the accounts of a page are those it had, or those that are listed to it.
* `signed_by_listed`: in every run, with any calls overlapping, what is signed is signed by an
  account that the wallet has listed in it.
-/

namespace SubstrateDevTemplate.App
open Service (ApiPromise)
open Extrinsics (Account)
open Transition

variable {ρ : Type*} {chains : Chains}

/-- The accounts that the wallet lists to the page. -/
def PageEvent.lists : PageEvent ρ → List String
  | .transfer (.walletListed _ (.ok accounts)) => accounts.map Account.address
  | .extrinsics (.walletListed _ (.ok accounts)) => accounts.map Account.address
  | _ => []

def Event.lists : Event ρ → List String
  | .page e => e.lists
  | .home _ _ | .navigate _ | .left _ _ => []

/-- One of the events has listed the account. -/
def Listed (es : List (Event ρ)) (address : String) : Prop := ∃ e ∈ es, address ∈ e.lists

theorem Listed.cons {past : List (Event ρ)} {address : String} (h : Listed past address)
    (e : Event ρ) : Listed (e :: past) address := by
  obtain ⟨e', hmem, hlists⟩ := h
  exact ⟨e', List.mem_cons_of_mem e hmem, hlists⟩

/-! ### The accounts of a page -/

theorem transfer_accounts {chain : ApiPromise → Transfer.Chain}
    {formatBalance : Nat → String → Nat → String} {p p' : Transfer.Page} {e : Transfer.Event}
    (h : Transfer.step chain formatBalance p e = some p') :
    p'.accounts = p.accounts ∨ ∃ k, e = .walletListed k (.ok p'.accounts) := by
  obtain ⟨p₁, hh, rfl⟩ := Option.map_eq_some_iff.mp h
  have hflush : (Transfer.flush chain p p₁).accounts = p₁.accounts :=
    congrArg Prod.fst (Transfer.wallet_flush p)
  rw [hflush]
  rcases Transfer.handle_wallet hh with hsame | ⟨address, -, hw⟩ | ⟨-, -, rfl⟩ |
      ⟨k, extensions, -, rfl⟩ | ⟨k, accounts, rfl, -, rfl⟩
  · exact .inl (congrArg Prod.fst hsame)
  · exact .inl (congrArg Prod.fst hw)
  · exact .inl rfl
  · refine .inl ?_
    unfold Transfer.Page.walletEnabled
    split
    · rfl
    · rfl
    · rfl
  · cases accounts with
    | error message => exact .inl rfl
    | ok accounts =>
        cases accounts with
        | nil => exact .inl rfl
        | cons account rest => exact .inr ⟨k, rfl⟩

theorem extrinsics_accounts {api : Extrinsics.Api} {p p' : Extrinsics.Page} {e : Extrinsics.Event}
    (h : Extrinsics.handle api p e = some p') :
    p'.accounts = p.accounts ∨ ∃ k, e = .walletListed k (.ok p'.accounts) := by
  rcases Extrinsics.handle_wallet h with hsame | ⟨address, -, -, hw⟩ | ⟨-, -, rfl⟩ |
      ⟨k, account, extensions, -, rfl⟩ | ⟨k, account, accounts, rfl, -, rfl⟩
  · exact .inl (congrArg Prod.fst hsame)
  · exact .inl (congrArg Prod.fst hw)
  · exact .inl rfl
  · refine .inl ?_
    unfold Extrinsics.Page.walletEnabled
    split
    · rfl
    · rfl
    · rfl
  · cases accounts with
    | error message => exact .inl rfl
    | ok accounts =>
        cases accounts with
        | nil => exact .inr ⟨k, rfl⟩
        | cons first rest => exact .inr ⟨k, rfl⟩

namespace Screen

/-- **The accounts of a page** are those it had, or those that are listed to it. -/
theorem accounts_step {s s' : Screen ρ} {e : PageEvent ρ} (h : s.step chains e = some s')
    {address : String} (hmem : address ∈ s'.accounts) :
    address ∈ s.accounts ∨ address ∈ e.lists := by
  unfold step at h
  split at h
  · obtain ⟨c, -, rfl⟩ := Option.map_eq_some_iff.mp h
    exact .inl hmem
  · rename_i c e
    obtain ⟨c', hc, rfl⟩ := Option.map_eq_some_iff.mp h
    obtain ⟨c₁, hh, rfl⟩ := Option.map_eq_some_iff.mp hc
    have hflush : (Extrinsics.Hosted.flush chains.extrinsics e.suffixes c c₁).page.accounts =
        c₁.page.accounts :=
      congrArg Prod.fst (Extrinsics.Hosted.wallet_flush chains.extrinsics e.suffixes c c₁)
    rw [accounts, hflush] at hmem
    have hcases : c₁.page.accounts = c.page.accounts ∨
        ∃ k, e = .walletListed k (.ok c₁.page.accounts) := by
      rcases Extrinsics.Hosted.handle_page hh with ⟨-, -, rfl⟩ |
          ⟨api, p, hpage, ⟨-, rfl⟩ | ⟨a, -, -, rfl⟩⟩
      · exact .inl rfl
      · exact extrinsics_accounts hpage
      · exact extrinsics_accounts hpage
    rcases hcases with hsame | ⟨k, rfl⟩
    · rw [hsame] at hmem
      exact .inl hmem
    · exact .inr hmem
  · cases h
  · rename_i p e _
    obtain ⟨p', hp, rfl⟩ := Option.map_eq_some_iff.mp h
    rcases transfer_accounts hp with hsame | ⟨k, rfl⟩
    · rw [accounts, hsame] at hmem
      exact .inl hmem
    · exact .inr hmem
  · cases h

variable (chains ρ) in
/-- A page that is mounted has no accounts. -/
theorem accounts_mount (api : Option ApiPromise) (isApiReady : Bool) (route : Route) :
    (mount chains api isApiReady route : Screen ρ).accounts = [] := by
  cases route with
  | home | chainState => rfl
  | extrinsics =>
      have hnone : (Extrinsics.Hosted.mount chains.extrinsics api isApiReady).page.accounts = [] :=
        congrArg Prod.fst (Extrinsics.Hosted.wallet_mount chains.extrinsics api isApiReady)
      rw [mount, accounts, hnone]
      rfl
  | transfer =>
      obtain ⟨a, ha⟩ :=
        (Transfer.Page.init api isApiReady).runEffects_eq chains.transfer true true
      rw [mount, Transfer.Page.mount, ha]
      rfl

variable (chains) in
/-- What the provider publishes leaves the accounts. -/
theorem accounts_context (api : Option ApiPromise) (isApiReady : Bool) (suffixes : List String)
    (s : Screen ρ) : (s.context chains api isApiReady suffixes).accounts = s.accounts := by
  cases s with
  | home | chainState => rfl
  | extrinsics h =>
      simp only [context, Extrinsics.Hosted.step, Option.map_some, Option.getD_some]
      exact congrArg (fun wallet => wallet.1.map Account.address)
        (Extrinsics.Hosted.wallet_flush chains.extrinsics suffixes h _)
  | transfer p =>
      simp only [context, Transfer.step, Transfer.handle, Option.map_some, Option.getD_some]
      exact congrArg (fun wallet => wallet.1.map Account.address) (Transfer.wallet_flush p)

end Screen

/-! ### The app -/

section
variable {wsProviderError : String → Option String} {savedEndpoint env : Option String}
  {route : Route} {es : List (Event ρ)} {a a' : State ρ}

variable (chains) in
/-- The accounts of the page that is shown have been listed, and so has every account that a
submission under way is for. -/
structure Authorized (past : List (Event ρ)) (a : State ρ) : Prop where
  wired : Wired a
  accounts : ∀ address ∈ a.screen.accounts, Listed past address
  signings : ∀ x ∈ a.signings chains, Listed past x.account

/-- **One event.** -/
theorem authorized_step {past : List (Event ρ)} {e : Event ρ} (hI : Authorized chains past a)
    (h : step chains wsProviderError env a e = some a') : Authorized chains (e :: past) a' := by
  refine ⟨wired_step hI.wired h, fun address hmem => ?_, fun x hx => ?_⟩
  · cases step_moves h with
    | told suffixes hr hs =>
        rw [Screen.accounts_context] at hmem
        exact (hI.accounts address hmem).cons _
    | reloaded suffixes hs =>
        rw [Screen.accounts_mount] at hmem
        cases hmem
    | entered route hroute hs =>
        rw [Screen.accounts_mount] at hmem
        cases hmem
    | stepped hs =>
        rcases Screen.accounts_step hs hmem with hmem | hlists
        · exact (hI.accounts address hmem).cons _
        · exact ⟨_, List.mem_cons_self, hlists⟩
    | wentOn hk hs => exact (hI.accounts address hmem).cons _
  · rcases signings_step hI.wired h hx with hx | ⟨click, rfl, -, -, -, haccount⟩
    · exact (hI.signings x hx).cons e
    · exact (hI.accounts _ haccount).cons _

/-- **Only an account that the wallet has listed signs.** -/
theorem signed_by_listed
    (hrun : Run (step chains wsProviderError env) anyEvent
      (.load chains savedEndpoint env route) es a)
    {e : Event ρ} {x : Signing} (hx : a.signs chains e = some x) : Listed es x.account := by
  have hstart : Authorized chains [] (State.load chains savedEndpoint env route : State ρ) := by
    refine ⟨wired_load _ _ _, fun address hmem => ?_, fun x hx => ?_⟩
    · rw [State.load, Screen.accounts_mount] at hmem
      cases hmem
    · obtain ⟨-, -, hnone⟩ := Screen.mounted ρ chains none false route
      rw [State.signings, State.load, hnone] at hx
      cases hx
  have hI := hrun.invariant_history (fun _ _ _ _ hI _ hs => authorized_step hI hs) hstart
  rw [List.append_nil] at hI
  obtain ⟨e', hmem, hlists⟩ := hI.signings x (signs_mem hx)
  exact ⟨e', List.mem_reverse.mp hmem, hlists⟩

end

/-- A wallet lists one account on the Transfer page; the page is left before it signs. -/
theorem signed_by_listed_left :
    let es : List (Event Unit) := [.home (.provider .connect) [], .home (.provider (.resume 0)) [],
      .home (.provider (.resume 0)) [], .home (.provider (.deliver 0)) [],
      .home (.provider (.ready 0)) []] ++ transferClicked ++ [.navigate .chainState]
    ∃ a, Run (step plainChains Service.schemeError none) anyEvent
        (.load plainChains (some "wss://rpc.polkadot.io") none .home) es a ∧ Listed es "5Grw" := by
  intro es
  obtain ⟨a, hrun, hx⟩ : ∃ a, Run (step plainChains Service.schemeError none) anyEvent
      (.load plainChains (some "wss://rpc.polkadot.io") none .home) es a ∧
      a.signs plainChains (.left 1 (.transfer (.injected 0 (.ok ())))) =
        some (transferOn ⟨0, "wss://rpc.polkadot.io"⟩) := exists_run (by decide)
  exact ⟨a, hrun, signed_by_listed hrun hx⟩

end SubstrateDevTemplate.App
