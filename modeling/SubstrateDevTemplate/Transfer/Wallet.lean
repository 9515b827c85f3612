import SubstrateDevTemplate.Extrinsics.Wallet
import SubstrateDevTemplate.Support.Runs
import SubstrateDevTemplate.Transfer.Frames

/-!
# Transfer — the wallet

The Connect Wallet button is there while there are no accounts, and disabled while `isConnecting` is
set; what a connection has given is not given up again.

* `handle_wallet`: what an event does to the wallet's part of the page.
* `wallet_held`: in every state of every run `isConnecting` is set exactly while one connection is
  under way, which is never while there are accounts; and the selected account is one of them, so
  that a submission finds it.

The invariant is `WalletHeld`.
-/

namespace SubstrateDevTemplate.Transfer
open Service (ApiPromise)
open Extrinsics (Account WalletStage underWay underWay_set)
open Transition

namespace Page

/-- The wallet's part of the page. -/
def wallet (p : Page) : List Account × String × Bool × List WalletStage :=
  (p.accounts, p.selectedAccount, p.isConnecting, p.wallets)

end Page

section
variable {chain : ApiPromise → Chain} {formatBalance : Nat → String → Nat → String} {p p' : Page}

/-- **What an event does to the wallet's part**, before the effects. -/
theorem handle_wallet {e : Event} (h : handle chain formatBalance p e = some p') :
    p'.wallet = p.wallet ∨
    (∃ address, address ∈ p.accounts.map Account.address ∧
      p'.wallet = (p.accounts, address, p.isConnecting, p.wallets)) ∨
    (p.accounts = [] ∧ p.isConnecting = false ∧ p' = p.connectWallet) ∨
    (∃ k extensions, p.wallets[k]? = some .enabling ∧ p' = p.walletEnabled k extensions) ∨
    ∃ k accounts, e = .walletListed k accounts ∧ p.wallets[k]? = some .listing ∧
      p' = p.walletListed k accounts := by
  cases handle_moves h with
  | context | recipientTyped | amountTyped | shared | fetching | sending => exact .inl rfl
  | @selected address hmem => exact .inr (.inl ⟨address, hmem, rfl⟩)
  | connecting hnone hclear => exact .inr (.inr (.inl ⟨hnone, hclear, rfl⟩))
  | @enabled k extensions hk => exact .inr (.inr (.inr (.inl ⟨k, extensions, hk, rfl⟩)))
  | @listed k accounts hk => exact .inr (.inr (.inr (.inr ⟨k, accounts, rfl, hk, rfl⟩)))

end

/-! ### The invariant -/

/-- The flag is right; no connection is under way while there are accounts; one of them is
selected. -/
def WalletHeld : List Account × String × Bool × List WalletStage → Prop
  | (accounts, selectedAccount, isConnecting, wallets) =>
      underWay wallets = (if isConnecting then 1 else 0) ∧ (isConnecting = true → accounts = []) ∧
        (accounts ≠ [] → selectedAccount ∈ accounts.map Account.address)

namespace WalletHeld
variable {accounts : List Account} {selectedAccount : String} {isConnecting : Bool}
  {wallets : List WalletStage} {k : Nat} {stage : WalletStage}

/-- A connection under way is the only one, and the flag is set. -/
theorem only (hw : WalletHeld (accounts, selectedAccount, isConnecting, wallets))
    (hk : wallets[k]? = some stage) (hne : stage ≠ .done) (next : WalletStage) :
    isConnecting = true ∧ underWay (wallets.set k next) = if next = .done then 0 else 1 := by
  have hflag : underWay wallets = if isConnecting then 1 else 0 := hw.1
  have hle : underWay wallets ≤ 1 := by
    rw [hflag]
    split
    · exact Nat.le_refl 1
    · exact Nat.zero_le 1
  obtain ⟨hone, hset⟩ := underWay_set hle hk hne next
  refine ⟨?_, hset⟩
  cases isConnecting with
  | false => exact absurd (hflag.symm.trans hone) Nat.zero_ne_one
  | true => rfl

theorem starts (hw : WalletHeld ([], selectedAccount, false, wallets)) :
    WalletHeld ([], selectedAccount, true, wallets ++ [.enabling]) := by
  have hnone : wallets.countP (fun stage => stage ≠ .done) = 0 := hw.1
  refine ⟨?_, fun _ => rfl, hw.2.2⟩
  rw [underWay, List.countP_append, hnone]
  rfl

theorem goesOn (hw : WalletHeld (accounts, selectedAccount, isConnecting, wallets))
    (hk : wallets[k]? = some stage) (hne : stage ≠ .done) :
    WalletHeld (accounts, selectedAccount, isConnecting, wallets.set k .listing) := by
  obtain ⟨rfl, hcount⟩ := hw.only hk hne .listing
  exact ⟨hcount, hw.2⟩

theorem ends (hw : WalletHeld (accounts, selectedAccount, isConnecting, wallets))
    (hk : wallets[k]? = some stage) (hne : stage ≠ .done) :
    WalletHeld (accounts, selectedAccount, false, wallets.set k .done) :=
  ⟨(hw.only hk hne .done).2, by rintro ⟨⟩, hw.2.2⟩

theorem connects {account : Account} {rest : List Account}
    (hw : WalletHeld (accounts, selectedAccount, isConnecting, wallets))
    (hk : wallets[k]? = some stage) (hne : stage ≠ .done) :
    WalletHeld (account :: rest, account.address, false, wallets.set k .done) :=
  ⟨(hw.only hk hne .done).2, by rintro ⟨⟩, fun _ => List.mem_cons_self⟩

end WalletHeld

section
variable {chain : ApiPromise → Chain} {formatBalance : Nat → String → Nat → String} {p p' : Page}

/-- **One event.** -/
theorem walletHeld_handle {e : Event} (hp : WalletHeld p.wallet)
    (h : handle chain formatBalance p e = some p') : WalletHeld p'.wallet := by
  rcases handle_wallet h with hsame | ⟨address, hmem, hw⟩ | ⟨hnone, hclear, rfl⟩ |
      ⟨k, extensions, hk, rfl⟩ | ⟨k, accounts, -, hk, rfl⟩
  · rw [hsame]; exact hp
  · rw [hw]; exact ⟨hp.1, hp.2.1, fun _ => hmem⟩
  · rw [Page.wallet, hnone, hclear] at hp
    have hstarts := hp.starts
    rw [← hnone] at hstarts
    exact hstarts
  · cases extensions with
    | error message => exact hp.ends hk (by rintro ⟨⟩)
    | ok n =>
        cases n with
        | zero => exact hp.ends hk (by rintro ⟨⟩)
        | succ n => exact hp.goesOn hk (by rintro ⟨⟩)
  · cases accounts with
    | error message => exact hp.ends hk (by rintro ⟨⟩)
    | ok accounts =>
        cases accounts with
        | nil => exact hp.ends hk (by rintro ⟨⟩)
        | cons account rest => exact hp.connects hk (by rintro ⟨⟩)

/-- The effects leave the wallet alone. -/
theorem wallet_flush (before : Page) : (flush chain before p).wallet = p.wallet := by
  obtain ⟨a, ha⟩ := flush_eq chain before p
  rw [ha]
  rfl

theorem walletHeld_step {e : Event} (hp : WalletHeld p.wallet)
    (h : step chain formatBalance p e = some p') : WalletHeld p'.wallet := by
  obtain ⟨p₁, hh, rfl⟩ := Option.map_eq_some_iff.mp h
  rw [wallet_flush]
  exact walletHeld_handle hp hh

/-- **The wallet is connected once.**  `isConnecting` is set exactly while one connection is under
way, never two, and never while there are accounts; a selected account is one of them, so that the
form, as long as its button is enabled, is submitted for an account that is found. -/
theorem wallet_held {api : Option ApiPromise} {isApiReady : Bool} {es : List Event}
    (hrun : Run (step chain formatBalance) anyEvent (.mount chain api isApiReady) es p) :
    (p.wallets.countP (fun stage => stage ≠ .done) = if p.isConnecting then 1 else 0) ∧
    (p.isConnecting = true → p.accounts = []) ∧
    (p.accounts ≠ [] → p.selectedAccount ∈ p.accounts.map Account.address) ∧
    (p.SubmitEnabled → ∃ account, account ∈ p.accounts ∧
      p.accounts.find? (fun a => a.address = p.selectedAccount) = some account) := by
  have hp : WalletHeld p.wallet := by
    refine hrun.invariant (I := fun p => WalletHeld p.wallet)
      (fun _ _ _ hI _ hs => walletHeld_step hI hs) ?_
    obtain ⟨a, ha⟩ := (Page.init api isApiReady).runEffects_eq chain true true
    rw [Page.mount, ha]
    exact ⟨rfl, by rintro ⟨⟩, fun h => absurd rfl h⟩
  obtain ⟨hflag, hwait, hselected⟩ := hp
  refine ⟨hflag, hwait, hselected, fun hen => ?_⟩
  obtain ⟨account, hmem, haddress⟩ := List.mem_map.mp (hselected hen.1)
  have hfind : (p.accounts.find? fun a => a.address = p.selectedAccount).isSome = true :=
    List.find?_isSome.mpr ⟨account, hmem, by simpa using haddress⟩
  obtain ⟨found, hfound⟩ := Option.isSome_iff_exists.mp hfind
  exact ⟨found, List.mem_of_find?_eq_some hfound, hfound⟩

end

/-- A connection fails, and is tried again; then the second of the accounts is selected. -/
theorem wallet_held_retried :
    let chain : ApiPromise → Chain := fun _ =>
      ⟨.ok none, none, fun _ _ _ => none, fun _ _ => .error "Unable to find Error"⟩
    ∃ p, Run (step chain fun free _ _ => toString free) anyEvent (.mount chain none false)
        [.connectWallet, .walletEnabled 0 (.ok 0), .connectWallet, .walletEnabled 1 (.ok 1),
          .walletListed 1 (.ok [⟨"5Alice", "polkadot-js"⟩, ⟨"5Bob", "polkadot-js"⟩]),
          .accountChange "5Bob"] p ∧
      (p.accounts ≠ [] → p.selectedAccount ∈ p.accounts.map Account.address) :=
  exists_run_and (by decide) fun _ hrun => (wallet_held hrun).2.2.1

end SubstrateDevTemplate.Transfer
