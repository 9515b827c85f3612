import SubstrateDevTemplate.Extrinsics.Chains
import SubstrateDevTemplate.Support.Runs

/-!
# Extrinsics — the wallet

The Connect Wallet button is there while there are no accounts.  It is not disabled while a
connection is under way, as the Transfer page's is, so that two may overlap.

* `handle_wallet`: what an event does to the wallet's part of the page.
* `account_found`: where no connection is started while another one is under way, the selected
  account is one of the wallet's, and with an instance there a click on Submit always starts a
  submission for it.
* `account_lost`: where two overlap, the selected account may be no account of the wallet's, and a
  click fails.

The invariant is `WalletHeld`.
-/

namespace SubstrateDevTemplate.Extrinsics
open Service (ApiPromise)
open Transition

/-- The connections under way. -/
def underWay (stages : List WalletStage) : Nat := stages.countP fun stage => stage ≠ .done

/-- Where one connection at most is under way, it is the one that goes on. -/
theorem underWay_set {stages : List WalletStage} {k : Nat} {stage : WalletStage}
    (hle : underWay stages ≤ 1) (hk : stages[k]? = some stage) (hne : stage ≠ .done)
    (next : WalletStage) : underWay stages = 1 ∧
      underWay (stages.set k next) = if next = .done then 0 else 1 := by
  obtain ⟨hlt, rfl⟩ := List.getElem?_eq_some_iff.mp hk
  have hpos : 0 < underWay stages :=
    List.countP_pos_iff.mpr ⟨_, List.getElem_mem hlt, by simpa using hne⟩
  have hone : underWay stages = 1 := Nat.le_antisymm hle hpos
  refine ⟨hone, ?_⟩
  rw [underWay] at hone
  rw [underWay, List.countP_set hlt, hone]
  by_cases hd : next = .done
  · simp [hd, hne]
  · simp [hd, hne]

namespace Page

/-- The wallet's part of the page. -/
def wallet (p : Page) : List Account × String × List WalletConnection :=
  (p.accounts, p.selectedAccount, p.wallets)

end Page

/-- The account that is selected is one of the options; a wallet is connected while no other
connection is under way. -/
def OneConnection (p : Page) : Event → Prop
  | .accountChange address => address ∈ p.accounts.map Account.address
  | .connectWallet => underWay (p.wallets.map WalletConnection.stage) = 0
  | _ => True

instance (p : Page) : (e : Event) → Decidable (OneConnection p e)
  | .accountChange address => inferInstanceAs (Decidable (address ∈ p.accounts.map Account.address))
  | .connectWallet =>
      inferInstanceAs (Decidable (underWay (p.wallets.map WalletConnection.stage) = 0))
  | .moduleChange _ | .methodChange _ _ | .paramChange _ _ | .walletEnabled _ _ | .walletListed _ _
  | .submit | .injected _ _ | .sent _ _ | .notified _ _ => isTrue trivial

section
variable {api : Api} {p p' : Page}

/-- **What an event does to the wallet's part.** -/
theorem handle_wallet {e : Event} (h : handle api p e = some p') :
    p'.wallet = p.wallet ∨
    (∃ address, e = .accountChange address ∧ p.accounts ≠ [] ∧
      p'.wallet = (p.accounts, address, p.wallets)) ∨
    (e = .connectWallet ∧ p.accounts = [] ∧ p' = p.connectWallet) ∨
    (∃ k account extensions, p.wallets[k]? = some ⟨account, .enabling⟩ ∧
      p' = p.walletEnabled k ⟨account, .enabling⟩ extensions) ∨
    ∃ k account accounts, e = .walletListed k accounts ∧ p.wallets[k]? = some ⟨account, .listing⟩ ∧
      p' = p.walletListed k ⟨account, .listing⟩ accounts := by
  cases e with
  | moduleChange newModule => cases h; exact .inl rfl
  | methodChange newMethod suffixes =>
      simp only [handle] at h
      split at h
      · cases h
      · cases h; exact .inl rfl
  | paramChange index value =>
      simp only [handle] at h
      split at h
      · cases h; exact .inl rfl
      · cases h
  | accountChange address =>
      simp only [handle] at h
      split at h
      · cases h
      · rename_i hne
        cases h
        exact .inr (.inl ⟨address, rfl, hne, rfl⟩)
  | connectWallet =>
      simp only [handle] at h
      split at h
      · rename_i hnone
        cases h
        exact .inr (.inr (.inl ⟨rfl, hnone, rfl⟩))
      · cases h
  | walletEnabled k extensions =>
      simp only [handle] at h
      split at h
      · rename_i account hk
        cases h
        exact .inr (.inr (.inr (.inl ⟨k, account, extensions, hk, rfl⟩)))
      · cases h
  | walletListed k accounts =>
      simp only [handle] at h
      split at h
      · rename_i account hk
        cases h
        exact .inr (.inr (.inr (.inr ⟨k, account, accounts, rfl, hk, rfl⟩)))
      · cases h
  | submit =>
      obtain ⟨-, rfl⟩ := handle_submit h
      unfold Page.handleSubmit
      split
      · exact .inl rfl
      · split
        · exact .inl rfl
        · exact .inl rfl
  | injected k injector =>
      obtain ⟨s, source, -, -, rfl⟩ := handle_injected h
      unfold Page.injected
      split
      · exact .inl rfl
      · split
        · exact .inl rfl
        · exact .inl rfl
  | sent k unsub =>
      obtain ⟨s, account, -, -, rfl⟩ := handle_sent h
      cases unsub with
      | error message => exact .inl rfl
      | ok u => exact .inl rfl
  | notified k result =>
      obtain ⟨s, unsubs, -, -, rfl⟩ := handle_notified h
      unfold Page.notified
      split
      · exact .inl rfl
      · exact .inl rfl
      · split
        · exact .inl rfl
        · exact .inl rfl

end

/-! ### The invariant -/

/-- One connection at most is under way, and only while there are no accounts; then none is
selected, and none was when it started.  Where there are accounts, one of them is selected. -/
structure WalletHeld (wallet : List Account × String × List WalletConnection) : Prop where
  single : underWay (wallet.2.2.map WalletConnection.stage) ≤ 1
  waits : underWay (wallet.2.2.map WalletConnection.stage) = 1 → wallet.1 = []
  unselected : wallet.1 = [] → wallet.2.1 = ""
  selected : wallet.1 ≠ [] → wallet.2.1 ∈ wallet.1.map Account.address
  captured : ∀ w ∈ wallet.2.2, w.stage ≠ .done → w.selectedAccount = ""

namespace WalletHeld
variable {accounts : List Account} {selectedAccount : String} {wallets : List WalletConnection}
  {k : Nat} {w : WalletConnection}

theorem starts (hw : WalletHeld ([], selectedAccount, wallets))
    (hfree : underWay (wallets.map WalletConnection.stage) = 0) :
    WalletHeld ([], selectedAccount, wallets ++ [⟨selectedAccount, .enabling⟩]) := by
  have hone : underWay ((wallets ++ [(⟨selectedAccount, .enabling⟩ : WalletConnection)]).map
      WalletConnection.stage) = 1 := by
    rw [underWay] at hfree ⊢
    rw [List.map_append, List.countP_append, hfree]
    rfl
  refine ⟨hone.le, fun _ => rfl, hw.unselected, fun h => absurd rfl h, fun w hmem hne => ?_⟩
  rcases List.mem_append.mp hmem with hmem | hmem
  · exact hw.captured w hmem hne
  · rw [List.mem_singleton.mp hmem]
    exact hw.unselected rfl

/-- A connection that goes on or ends is the only one. -/
theorem moves (hw : WalletHeld (accounts, selectedAccount, wallets)) (hk : wallets[k]? = some w)
    (hne : w.stage ≠ .done) (next : WalletStage) :
    accounts = [] ∧ selectedAccount = "" ∧ w.selectedAccount = "" ∧
      underWay ((wallets.set k { w with stage := next }).map WalletConnection.stage) =
        (if next = .done then 0 else 1) ∧
      ∀ v ∈ wallets.set k { w with stage := next }, v.stage ≠ .done → v.selectedAccount = "" := by
  have hstage : (wallets.map WalletConnection.stage)[k]? = some w.stage := by
    rw [List.getElem?_map, hk, Option.map_some]
  obtain ⟨hone, hset⟩ := underWay_set hw.single hstage hne next
  have hempty := hw.waits hone
  have hcaptured := hw.captured w (List.mem_of_getElem? hk) hne
  refine ⟨hempty, hw.unselected hempty, hcaptured, ?_, fun v hv hvne => ?_⟩
  · rw [List.map_set]
    exact hset
  · rcases List.mem_or_eq_of_mem_set hv with hv | rfl
    · exact hw.captured v hv hvne
    · exact hcaptured

theorem goesOn (hw : WalletHeld (accounts, selectedAccount, wallets)) (hk : wallets[k]? = some w)
    (hne : w.stage ≠ .done) :
    WalletHeld (accounts, selectedAccount, wallets.set k { w with stage := .listing }) := by
  obtain ⟨hempty, -, -, hone, hcaptured⟩ := hw.moves hk hne .listing
  exact ⟨hone.le, fun _ => hempty, hw.unselected, hw.selected, hcaptured⟩

/-- It ends without an account, or with one. -/
theorem ends (hw : WalletHeld (accounts, selectedAccount, wallets)) (hk : wallets[k]? = some w)
    (hne : w.stage ≠ .done) :
    WalletHeld (accounts, selectedAccount, wallets.set k { w with stage := .done }) := by
  obtain ⟨hempty, -, -, hzero, hcaptured⟩ := hw.moves hk hne .done
  rw [if_pos rfl] at hzero
  exact ⟨hzero.le.trans (Nat.zero_le 1), fun _ => hempty, hw.unselected, hw.selected, hcaptured⟩

theorem connects {account : Account} {rest : List Account}
    (hw : WalletHeld (accounts, selectedAccount, wallets)) (hk : wallets[k]? = some w)
    (hne : w.stage ≠ .done) :
    WalletHeld (account :: rest, (if w.selectedAccount = "" then account.address else
      selectedAccount), wallets.set k { w with stage := .done }) := by
  obtain ⟨-, -, hnone, hzero, hcaptured⟩ := hw.moves hk hne .done
  rw [if_pos rfl] at hzero
  rw [if_pos hnone]
  exact ⟨hzero.le.trans (Nat.zero_le 1), fun h => absurd (hzero.symm.trans h) Nat.zero_ne_one,
    fun h => absurd h (List.cons_ne_nil _ _), fun _ => List.mem_cons_self, hcaptured⟩

end WalletHeld

section
variable {api : Api} {p p' : Page}

/-- **One event.** -/
theorem walletHeld_handle {e : Event} (hp : WalletHeld p.wallet) (hg : OneConnection p e)
    (h : handle api p e = some p') : WalletHeld p'.wallet := by
  rcases handle_wallet h with hsame | ⟨address, rfl, hne, hw⟩ | ⟨rfl, hnone, rfl⟩ |
      ⟨k, account, extensions, hk, rfl⟩ | ⟨k, account, accounts, -, hk, rfl⟩
  · rw [hsame]; exact hp
  · rw [hw]
    exact ⟨hp.single, hp.waits, fun h => absurd h hne, fun _ => hg, hp.captured⟩
  · rw [Page.wallet, hnone] at hp
    have hstarts := hp.starts hg
    rw [← hnone] at hstarts
    exact hstarts
  · cases extensions with
    | error message => exact hp.ends hk (by rintro ⟨⟩)
    | ok n =>
        cases n with
        | zero => exact hp.ends hk (by rintro ⟨⟩)
        | succ n => exact hp.goesOn hk (by rintro ⟨⟩)
  · cases accounts with
    | error message => exact hp.ends hk (by rintro ⟨⟩)
    | ok accounts =>
        cases accounts with
        | nil =>
            -- there were no accounts before
            obtain ⟨hempty, -⟩ := hp.moves hk (by rintro ⟨⟩) .done
            have hends := hp.ends hk (by rintro ⟨⟩)
            rwa [hempty] at hends
        | cons first rest => exact hp.connects hk (by rintro ⟨⟩)

end

/-! ### The runs of the page -/

namespace Hosted

/-- The same for the page under an api that changes. -/
def OneConnection (h : Hosted) : Event → Prop
  | .context _ _ _ => True
  | .page e => Extrinsics.OneConnection h.page e

instance (h : Hosted) : (e : Event) → Decidable (h.OneConnection e)
  | .context _ _ _ => isTrue trivial
  | .page e => inferInstanceAs (Decidable (Extrinsics.OneConnection h.page e))

variable {chain : ApiPromise → Chain} {h h' : Hosted}

variable (chain) in
/-- The effects leave the wallet alone. -/
theorem wallet_flush (suffixes : List String) (before h : Hosted) :
    (flush chain suffixes before h).page.wallet = h.page.wallet := by
  obtain ⟨-, ⟨-, hpage⟩ | ⟨-, hpage⟩⟩ := flush_cases chain suffixes before h
  · rw [hpage]
  · rw [hpage]
    unfold Page.parameterEffect
    split
    · rfl
    · rfl

variable (chain) in
/-- A page that is mounted has no wallet. -/
theorem wallet_mount (start : Option ApiPromise) (isApiReady : Bool) :
    (mount chain start isApiReady).page.wallet = ([], "", []) := by
  have hsame : (init start isApiReady).SamePage
      (((init start isApiReady).modulesEffect chain).methodsEffect chain) :=
    (samePage_modulesEffect _ _).trans (samePage_methodsEffect _ _)
  rw [mount, parameterEffect, hsame.page]
  unfold Page.parameterEffect
  split
  · rfl
  · rfl

theorem walletHeld_step {e : Event} (hp : WalletHeld h.page.wallet) (hg : h.OneConnection e)
    (hs : step chain h e = some h') : WalletHeld h'.page.wallet := by
  cases e with
  | context api isApiReady suffixes =>
      cases hs
      rw [wallet_flush]
      exact hp
  | page e =>
      obtain ⟨h₁, hh, rfl⟩ := Option.map_eq_some_iff.mp hs
      rw [wallet_flush]
      rcases handle_page hh with ⟨-, -, rfl⟩ | ⟨api, p, hpage, ⟨-, rfl⟩ | ⟨a, -, -, rfl⟩⟩
      · exact hp
      · exact walletHeld_handle hp hg hpage
      · exact walletHeld_handle hp hg hpage

/-- An enabled button is clicked with an instance there. -/
theorem step_submit {api : ApiPromise} (hapi : h.api = some api) (hform : h.FormShown)
    (hen : h.page.SubmitEnabled) :
    step chain h (.page .submit) = some (flush chain [] h
      { h with page := h.page.handleSubmit, apis := h.capture h.page.handleSubmit api }) := by
  have hoffers : h.Offers .submit := hform
  have hfor : h.apiFor .submit = some api := hapi
  have hpage : Extrinsics.handle (chain api).api h.page .submit = some h.page.handleSubmit :=
    if_pos hen
  simp only [step, handle, if_pos hoffers, hfor, hpage, Option.map_some]
  rfl

/-- Without an instance, a click changes nothing. -/
theorem step_submit_none (hapi : h.api = none) (hs : step chain h (.page .submit) = some h') :
    h' = h := by
  obtain ⟨h₁, hh, rfl⟩ := Option.map_eq_some_iff.mp hs
  rcases handle_page hh with ⟨-, -, rfl⟩ | ⟨api, p, -, ⟨hne, -⟩ | ⟨a, -, ha, -⟩⟩
  · simp [flush]
  · exact absurd rfl hne
  · rw [hapi] at ha
    cases ha

variable (chain) in
/-- A click that starts a submission captures the instance with it. -/
theorem click_starts (api : ApiPromise) {s : Submission}
    (hsubmissions : h.page.handleSubmit.submissions = h.page.submissions ++ [s]) :
    (flush chain [] h { h with
      page := h.page.handleSubmit
      apis := h.capture h.page.handleSubmit api }).page.submissions = h.page.submissions ++ [s] ∧
    (flush chain [] h { h with
      page := h.page.handleSubmit
      apis := h.capture h.page.handleSubmit api }).apis = h.apis ++ [api] := by
  have hcapture : h.capture h.page.handleSubmit api = h.apis ++ [api] := by
    rw [capture, hsubmissions, List.length_append, List.length_singleton,
      if_pos (Nat.lt_succ_self _)]
  obtain ⟨⟨-, -, hapis⟩, ⟨-, hpage⟩ | ⟨-, hpage⟩⟩ := flush_cases chain [] h
    { h with page := h.page.handleSubmit, apis := h.capture h.page.handleSubmit api }
  · exact ⟨(congrArg Page.submissions hpage).trans hsubmissions, hapis.trans hcapture⟩
  · obtain ⟨-, -, hkept, -⟩ := parameterEffect_sets (h.api.map fun api => (chain api).api) []
      h.page.handleSubmit
    exact ⟨(congrArg Page.submissions hpage).trans (hkept.trans hsubmissions),
      hapis.trans hcapture⟩

/-- **The account is found.**  Where no connection is started while another one is under way, none
is under way while there are accounts, and one of these is selected.  So with an instance there, a
click on Submit, when the form is shown and the button enabled, starts a submission for the account
and the instance, and never fails for want of one; without an instance it changes nothing. -/
theorem account_found {start : Option ApiPromise} {isApiReady : Bool} {es : List Event}
    (hrun : Run (step chain) OneConnection (mount chain start isApiReady) es h) :
    (h.page.accounts ≠ [] → underWay (h.page.wallets.map WalletConnection.stage) = 0 ∧
      h.page.selectedAccount ∈ h.page.accounts.map Account.address) ∧
    (h.page.accounts = [] → h.page.selectedAccount = "") ∧
    (∀ api, h.api = some api → h.FormShown → h.page.SubmitEnabled →
      ∃ h' account, step chain h (.page .submit) = some h' ∧ account ∈ h.page.accounts ∧
        account.address = h.page.selectedAccount ∧
        h'.page.submissions =
          h.page.submissions ++ [{ h.page.clicked with stage := .injecting account.source }] ∧
        h'.apis = h.apis ++ [api]) ∧
    ∀ h', h.api = none → step chain h (.page .submit) = some h' → h' = h := by
  have hp : WalletHeld h.page.wallet := by
    refine hrun.invariant (I := fun h => WalletHeld h.page.wallet)
      (fun _ _ _ hI hg hs => walletHeld_step hI hg hs) ?_
    rw [wallet_mount]
    exact ⟨Nat.zero_le 1, by rintro ⟨⟩, fun _ => rfl, fun h => absurd rfl h, by rintro w ⟨⟩⟩
  refine ⟨fun hne => ⟨?_, hp.selected hne⟩, hp.unselected, fun api hapi hform hen => ?_,
    fun h' hnone hs => step_submit_none hnone hs⟩
  · rcases Nat.le_one_iff_eq_zero_or_eq_one.mp hp.single with hzero | hone
    · exact hzero
    · exact absurd (hp.waits hone) hne
  · have hselected : h.page.selectedAccount ∈ h.page.accounts.map Account.address :=
      hp.selected hen.2.2.2.1
    obtain ⟨listed, hmem, haddress⟩ := List.mem_map.mp hselected
    have hfind :
        (h.page.accounts.find? fun a => a.address = h.page.selectedAccount).isSome = true :=
      List.find?_isSome.mpr ⟨listed, hmem, by simpa using haddress⟩
    obtain ⟨account, hfound⟩ := Option.isSome_iff_exists.mp hfind
    have hsubmissions : h.page.handleSubmit.submissions =
        h.page.submissions ++ [{ h.page.clicked with stage := .injecting account.source }] := by
      simp only [Page.handleSubmit, if_neg hen.2.2.2.2.1, hfound]
      rfl
    obtain ⟨hstarted, hcaptured⟩ := click_starts chain api hsubmissions
    exact ⟨_, account, step_submit hapi hform hen, List.mem_of_find?_eq_some hfound,
      by simpa using List.find?_some hfound, hstarted, hcaptured⟩

end Hosted

/-- A chain with one module, of one method without parameters. -/
def pingChain : Chain := ⟨noMetadata, .ok ["ping"], fun _ => .ok ["ping"]⟩

/-- A connection fails, and another one lists two accounts; the second one is selected. -/
theorem Hosted.account_found_retried :
    let api : ApiPromise := ⟨0, "wss://rpc.polkadot.io"⟩
    ∃ h, Run (step fun _ => pingChain) OneConnection (mount (fun _ => pingChain) (some api) true)
        [.page .connectWallet, .page (.walletEnabled 0 (.ok 0)), .page .connectWallet,
          .page (.walletEnabled 1 (.ok 1)),
          .page (.walletListed 1 (.ok [⟨"5Alice", "polkadot-js"⟩, ⟨"5Bob", "polkadot-js"⟩])),
          .page (.accountChange "5Bob"), .page (.moduleChange "ping"),
          .page (.methodChange "ping" [])] h ∧
      ∃ h' account, step (fun _ => pingChain) h (.page .submit) = some h' ∧
        account ∈ h.page.accounts ∧ account.address = h.page.selectedAccount ∧
        h'.page.submissions =
          h.page.submissions ++ [{ h.page.clicked with stage := .injecting account.source }] ∧
        h'.apis = h.apis ++ [api] := by
  intro api
  obtain ⟨h, hrun, hapi, hform, hen⟩ : ∃ h, Run (step fun _ => pingChain) OneConnection
      (mount (fun _ => pingChain) (some api) true)
        [.page .connectWallet, .page (.walletEnabled 0 (.ok 0)), .page .connectWallet,
          .page (.walletEnabled 1 (.ok 1)),
          .page (.walletListed 1 (.ok [⟨"5Alice", "polkadot-js"⟩, ⟨"5Bob", "polkadot-js"⟩])),
          .page (.accountChange "5Bob"), .page (.moduleChange "ping"),
          .page (.methodChange "ping" [])] h ∧
      h.api = some api ∧ h.FormShown ∧ h.page.SubmitEnabled := exists_run (by decide)
  exact ⟨h, hrun, (account_found hrun).2.2.1 api hapi hform hen⟩

/-- **The account is lost.**  Of two connections that overlap the second one lists no account, and a
third one lists another wallet's: the account that is selected is the first one's still, and the
submission fails. -/
theorem Hosted.account_lost :
    let api : ApiPromise := ⟨0, "wss://rpc.polkadot.io"⟩
    ∃ h, Run (step fun _ => pingChain) anyEvent (mount (fun _ => pingChain) (some api) true)
        [.page .connectWallet, .page .connectWallet, .page (.walletEnabled 0 (.ok 1)),
          .page (.walletEnabled 1 (.ok 1)),
          .page (.walletListed 0 (.ok [⟨"5Alice", "polkadot-js"⟩])), .page (.walletListed 1 (.ok [])),
          .page .connectWallet, .page (.walletEnabled 2 (.ok 1)),
          .page (.walletListed 2 (.ok [⟨"5Bob", "polkadot-js"⟩])), .page (.moduleChange "ping"),
          .page (.methodChange "ping" [])] h ∧
      h.page.SubmitEnabled ∧ h.page.selectedAccount = "5Alice" ∧
      h.page.accounts = [⟨"5Bob", "polkadot-js"⟩] ∧
      h.page.handleSubmit.submissions = h.page.submissions ∧
      h.page.handleSubmit.submissionError = some "Selected account not found" :=
  exists_run (by decide)

end SubstrateDevTemplate.Extrinsics
