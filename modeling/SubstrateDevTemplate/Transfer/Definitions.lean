import SubstrateDevTemplate.Support.Number
import SubstrateDevTemplate.Service.Definitions
import SubstrateDevTemplate.Extrinsics.Definitions
import SubstrateDevTemplate.Transfer.Amount

/-!
# Transfer — Definitions

The Transfer page, `pages/Transfer.tsx`: its state, its two effects (the chain's token properties,
and the balance with its refresh timer), the wallet connection, the percentage buttons, and the
submissions under way.  Accounts, statuses and the stages of a submission are those of the
Extrinsics page.

As there, a handler that awaits runs from one `await` to the next, and a `Fetch` and a `Submission`
carry what their closure captured.  `step` is one event of the page, with the effects run after it
whose dependencies have changed.

`chain api` is what the page reads of the instance `api`, and `formatBalance` is the function of
`@polkadot/util`; neither is part of the repository.
-/

namespace SubstrateDevTemplate.Transfer
open Service (ApiPromise)
open Extrinsics (Account Status SubmissionStage WalletStage)
open Decimal (Fraction)

/-! ### The chain -/

/-- Why a dispatch failed: an error of a module, or another one as its text. -/
inductive DispatchError where
  | module (index error : Nat)
  | other (text : String)
  deriving DecidableEq

/-- What the status callback reads of a notification. -/
structure TxResult where
  status : Status
  dispatchError : Option DispatchError
  txHash : String
  deriving DecidableEq

/-- `registry.getChainProperties()`. -/
structure ChainProperties where
  tokenSymbol : Option (List String)
  tokenDecimals : Option (List Nat)
  deriving DecidableEq

/-- What the page reads of a connected `ApiPromise`. -/
structure Chain where
  chainProperties : Except String (Option ChainProperties)
  /-- the methods of `tx.balances`, where there is such a module -/
  balances : Option (List String)
  /-- what `tx.balances[method](recipient, rawAmount)` throws, if it throws -/
  transferError : String → String → List Char → Option String
  /-- `registry.findMetaError`: what it throws, or the error's section and name -/
  findMetaError : Nat → Nat → Except String (String × String)

/-- The message of a failed dispatch, where it can be decoded. -/
def Chain.errorMessage (chain : Chain) : DispatchError → Except String String
  | .module index error => (chain.findMetaError index error).map fun e => e.1 ++ "." ++ e.2
  | .other text => .ok text

/-- The check that there is a method to transfer with: what it throws, or the notice it gives. -/
def Chain.checkTransfer (chain : Chain) : Except String (Option String) :=
  match chain.balances with
  | none => .error "Balances module not found on this chain"
  | some methods =>
      if "transfer" ∈ methods then .ok none
      else
        match methods.find? fun m => Js.includes (Js.toLowerCase m) "transfer" with
        | none => .error "Transfer method not found in balances module"
        | some m => .ok (some ("Using " ++ m ++ " instead of transfer"))

/-- The transfer extrinsic is created: what that throws, if it throws. -/
def Chain.createTransfer (chain : Chain) (recipient : String) (rawAmount : List Char) :
    Option String :=
  if "transfer" ∈ chain.balances.getD [] then
    chain.transferError "transfer" recipient rawAmount
  else if "transferKeepAlive" ∈ chain.balances.getD [] then
    chain.transferError "transferKeepAlive" recipient rawAmount
  else some "No suitable transfer method found"

/-! ### The page -/

/-- The amount `setPercentage` makes of the raw balance `rawBalance`, where the point of the token
is `tokenDecimals` places from its right.  A JavaScript number is a finite decimal, and its
arithmetic is taken to be exact. -/
def percentAmount (rawBalance tokenDecimals : Nat) (percent : Fraction) : List Char :=
  let factor := percent.shiftRight 2
  let balanceNum := (Fraction.ofNat rawBalance).shiftRight tokenDecimals
  let calculatedAmount := balanceNum.mul factor
  if !(calculatedAmount.shiftLeft tokenDecimals).isSafeInteger then
    let simpleAmount := ((calculatedAmount.shiftLeft 3).floor).shiftRight 3
    Js.numberToString simpleAmount
  else Js.numberToString calculatedAmount

inductive StatusType where
  | success | error | info
  deriving DecidableEq

/-- The `status` of the page. -/
structure StatusMessage where
  type : Option StatusType
  message : Option String
  deriving DecidableEq

def StatusMessage.info (message : String) : StatusMessage := ⟨some .info, some message⟩
def StatusMessage.error (message : String) : StatusMessage := ⟨some .error, some message⟩
def StatusMessage.success (message : String) : StatusMessage := ⟨some .success, some message⟩

/-- A call of `fetchBalance` at `await api.query.system.account(selectedAccount)`. -/
structure Fetch where
  api : ApiPromise
  selectedAccount : String
  tokenSymbol : String
  tokenDecimals : Nat
  deriving DecidableEq

/-- A call of `handleSubmit` past its first checks. -/
structure Submission where
  api : ApiPromise
  selectedAccount : String
  recipient : String
  amount : List Char
  tokenDecimals : Nat
  stage : SubmissionStage
  deriving DecidableEq

/-- The page's state with what it has of the context, and its calls. -/
structure Page where
  api : Option ApiPromise
  isApiReady : Bool
  accounts : List Account
  selectedAccount : String
  recipient : String
  amount : List Char
  balance : Option String
  balanceRaw : Option Nat
  isConnecting : Bool
  isSubmitting : Bool
  status : StatusMessage
  tokenSymbol : String
  tokenDecimals : Nat
  txHash : Option String
  blockHash : Option String
  fetches : List Fetch
  submissions : List Submission
  wallets : List WalletStage
  deriving DecidableEq

/-- The page as it is rendered first. -/
def Page.init (api : Option ApiPromise) (isApiReady : Bool) : Page where
  api := api
  isApiReady := isApiReady
  accounts := []
  selectedAccount := ""
  recipient := ""
  amount := []
  balance := none
  balanceRaw := none
  isConnecting := false
  isSubmitting := false
  status := ⟨none, none⟩
  tokenSymbol := "UNIT"
  tokenDecimals := 12
  txHash := none
  blockHash := none
  fetches := []
  submissions := []
  wallets := []

namespace Page

/-! ### The effects -/

/-- The token's symbol and decimals are read.  Reading an empty list throws, and nothing is set. -/
def chainPropertiesEffect (chain : ApiPromise → Chain) (p : Page) : Page :=
  match p.api with
  | none => p
  | some api =>
      if p.isApiReady = false then p
      else
        match (chain api).chainProperties with
        | .error _ | .ok none => p
        | .ok (some properties) =>
            match (properties.tokenSymbol.getD ["UNIT"])[0]?,
              (properties.tokenDecimals.getD [12])[0]? with
            | some tokenSymbol, some tokenDecimals =>
                { p with tokenSymbol := tokenSymbol, tokenDecimals := tokenDecimals }
            | _, _ => p

def clearBalance (p : Page) : Page := { p with balance := none, balanceRaw := none }

/-- `fetchBalance`, up to its `await`. -/
def fetchBalance (p : Page) : Page :=
  match p.api with
  | none => p.clearBalance
  | some api =>
      if p.isApiReady = false ∨ p.selectedAccount = "" then p.clearBalance
      else
        { p with
          fetches := p.fetches ++ [⟨api, p.selectedAccount, p.tokenSymbol, p.tokenDecimals⟩] }

/-- What the balance effect depends on. -/
def balanceDeps (p : Page) : Option ApiPromise × Bool × String × String × Nat :=
  (p.api, p.isApiReady, p.selectedAccount, p.tokenSymbol, p.tokenDecimals)

/-- The effects, run after a rendering in which the balance effect's dependencies or those of the
token effect have changed.  A token that changes renders the page again. -/
def runEffects (chain : ApiPromise → Chain) (balance properties : Bool) (p : Page) : Page :=
  let q := if balance then p.fetchBalance else p
  let r := if properties then q.chainPropertiesEffect chain else q
  if r.tokenSymbol = p.tokenSymbol ∧ r.tokenDecimals = p.tokenDecimals then r else r.fetchBalance

/-- The page, mounted. -/
def mount (chain : ApiPromise → Chain) (api : Option ApiPromise) (isApiReady : Bool) : Page :=
  (init api isApiReady).runEffects chain true true

/-- `accountInfo` has arrived, with a free balance or without, or the query has failed. -/
def balanceFetched (formatBalance : Nat → String → Nat → String) (p : Page) (k : Nat) (f : Fetch) :
    Except String (Option Nat) → Page
  | .error _ => { p.clearBalance with fetches := p.fetches.eraseIdx k }
  | .ok none => { p with fetches := p.fetches.eraseIdx k }
  | .ok (some free) =>
      { p with
        balanceRaw := some free
        balance := some (formatBalance free f.tokenSymbol f.tokenDecimals)
        fetches := p.fetches.eraseIdx k }

/-! ### The wallet -/

/-- `connectWallet`, up to its first `await`. -/
def connectWallet (p : Page) : Page :=
  { p with
    isConnecting := true
    status := .info "Connecting to wallet..."
    wallets := p.wallets ++ [.enabling] }

/-- `connectWallet`'s `catch` and `finally`. -/
def walletFailed (p : Page) (k : Nat) (message : String) : Page :=
  { p with status := .error message, isConnecting := false, wallets := p.wallets.set k .done }

/-- `web3Enable` has settled, with so many extensions. -/
def walletEnabled (p : Page) (k : Nat) : Except String Nat → Page
  | .error message => p.walletFailed k message
  | .ok 0 =>
      p.walletFailed k
        "No extension found. Please install Polkadot.js extension or SubWallet."
  | .ok (_ + 1) => { p with wallets := p.wallets.set k .listing }

/-- `web3Accounts` has settled. -/
def walletListed (p : Page) (k : Nat) : Except String (List Account) → Page
  | .error message => p.walletFailed k message
  | .ok [] =>
      p.walletFailed k "No accounts found. Please create an account in your wallet extension."
  | .ok (account :: rest) =>
      { p with
        accounts := account :: rest
        selectedAccount := account.address
        status := .success "Wallet connected successfully"
        isConnecting := false
        wallets := p.wallets.set k .done }

/-! ### The percentage buttons -/

def setPercentage (p : Page) (percent : Fraction) : Page :=
  match p.balanceRaw with
  | none => p
  | some rawBalance => { p with amount := percentAmount rawBalance p.tokenDecimals percent }

/-! ### Submission -/

def resetTxState (p : Page) : Page :=
  { p with status := ⟨none, none⟩, txHash := none, blockHash := none }

/-- The condition the Send button is there and enabled under. -/
def SubmitEnabled (p : Page) : Prop :=
  p.accounts ≠ [] ∧ p.isSubmitting = false ∧ p.recipient ≠ "" ∧ p.amount ≠ []

instance (p : Page) : Decidable p.SubmitEnabled := inferInstanceAs (Decidable (_ ∧ _ ∧ _ ∧ _))

/-- `handleSubmit`'s `catch`. -/
def submitFailed (p : Page) (message : String) : Page :=
  { p with status := .error message, isSubmitting := false }

/-- `handleSubmit`, up to its first `await`. -/
def handleSubmit (chain : ApiPromise → Chain) (p : Page) : Page :=
  let started :=
    { { p with isSubmitting := true }.resetTxState with
      status := .info "Preparing transaction..." }
  match p.api with
  | none => { p with status := .error "Please fill in all fields" }
  | some api =>
      if p.isApiReady = false ∨ p.selectedAccount = "" ∨ p.recipient = "" ∨ p.amount = [] then
        { p with status := .error "Please fill in all fields" }
      else
        match (chain api).checkTransfer with
        | .error message => started.submitFailed message
        | .ok notice =>
            let checked :=
              { started with status := (notice.map StatusMessage.info).getD started.status }
            match p.accounts.find? fun a => a.address = p.selectedAccount with
            | none => checked.submitFailed "Selected account not found"
            | some selectedAccountObj =>
                { checked with
                  submissions := p.submissions ++ [{
                    api := api
                    selectedAccount := p.selectedAccount
                    recipient := p.recipient
                    amount := p.amount
                    tokenDecimals := p.tokenDecimals
                    stage := .injecting selectedAccountObj.source }] }

def setSubmission (p : Page) (k : Nat) (s : Submission) (stage : SubmissionStage) : Page :=
  { p with submissions := p.submissions.set k { s with stage := stage } }

/-- `web3FromSource` has settled: the extrinsic is created. -/
def injected (chain : ApiPromise → Chain) (p : Page) (k : Nat) (s : Submission) :
    Except String Unit → Page
  | .error message => (p.setSubmission k s .failed).submitFailed message
  | .ok () =>
      let waiting := { p with status := .info "Waiting for signature..." }
      match (chain s.api).createTransfer s.recipient (rawAmount s.amount s.tokenDecimals) with
      | some message => (waiting.setSubmission k s .failed).submitFailed message
      | none => waiting.setSubmission k s (.sending s.selectedAccount)

/-- `signAndSend` has settled. -/
def sent (p : Page) (k : Nat) (s : Submission) : Except String Unit → Page
  | .error message => (p.setSubmission k s .failed).submitFailed message
  | .ok () => p.setSubmission k s (.subscribed 0)

/-- The end of the status callback: `unsub()` and `setIsSubmitting(false)`. -/
def submitEnded (p : Page) (k : Nat) (s : Submission) (unsubs : Nat) : Page :=
  { p.setSubmission k s (.subscribed (unsubs + 1)) with isSubmitting := false }

/-- The status callback, of a submission that has unsubscribed `unsubs` times.  The hash of the
transaction is an object, and truthy. -/
def notified (chain : ApiPromise → Chain) (p : Page) (k : Nat) (s : Submission) (unsubs : Nat)
    (result : TxResult) : Page :=
  match result.status with
  | .inBlock hash =>
      { p with
        txHash := some result.txHash
        blockHash := some hash
        status := .info ("Transaction included in block " ++ hash) }
  | .finalized hash =>
      let finalized := { p with txHash := some result.txHash, blockHash := some hash }
      match result.dispatchError with
      | none =>
          { finalized with
            status := .success ("Transaction finalized in block " ++ hash)
            amount := []
            recipient := "" }.submitEnded k s unsubs
      | some dispatchError =>
          match (chain s.api).errorMessage dispatchError with
          -- the callback throws here, and goes no further
          | .error _ => finalized
          | .ok errorMessage =>
              { finalized with
                status := .error ("Transaction failed: " ++ errorMessage) }.submitEnded k s unsubs
  | _ => { p with txHash := some result.txHash }

end Page

/-! ### Events -/

/-- What happens to the page. -/
inductive Event where
  /-- the context has another api, or another readiness -/
  | context (api : Option ApiPromise) (isApiReady : Bool)
  | accountChange (address : String)
  | recipientChange (recipient : String)
  | amountChange (amount : List Char)
  | percentage (percent : Fraction)
  /-- the six-second timer of the balance effect fires -/
  | refresh
  | fetched (k : Nat) (outcome : Except String (Option Nat))
  | connectWallet
  | walletEnabled (k : Nat) (extensions : Except String Nat)
  | walletListed (k : Nat) (accounts : Except String (List Account))
  | submit
  | injected (k : Nat) (injector : Except String Unit)
  | sent (k : Nat) (unsub : Except String Unit)
  | notified (k : Nat) (result : TxResult)

/-- The handler of an event, where the page lets it happen. -/
def handle (chain : ApiPromise → Chain) (formatBalance : Nat → String → Nat → String) (p : Page) :
    Event → Option Page
  | .context api isApiReady => some { p with api := api, isApiReady := isApiReady }
  | .accountChange address =>
      if address ∈ p.accounts.map Account.address then
        some { p with selectedAccount := address }
      else none
  | .recipientChange recipient =>
      if p.accounts = [] then none else some { p with recipient := recipient }
  | .amountChange amount => if p.accounts = [] then none else some { p with amount := amount }
  | .percentage percent =>
      if p.accounts = [] ∨ p.balanceRaw = none then none else some (p.setPercentage percent)
  | .refresh => some p.fetchBalance
  | .fetched k outcome => p.fetches[k]?.map fun f => p.balanceFetched formatBalance k f outcome
  | .connectWallet =>
      if p.accounts = [] ∧ p.isConnecting = false then some p.connectWallet else none
  | .walletEnabled k extensions =>
      match p.wallets[k]? with
      | some .enabling => some (p.walletEnabled k extensions)
      | _ => none
  | .walletListed k accounts =>
      match p.wallets[k]? with
      | some .listing => some (p.walletListed k accounts)
      | _ => none
  | .submit => if p.SubmitEnabled then some (p.handleSubmit chain) else none
  | .injected k injector =>
      match p.submissions[k]? with
      | some s =>
          match s.stage with
          | .injecting _ => some (p.injected chain k s injector)
          | _ => none
      | none => none
  | .sent k unsub =>
      match p.submissions[k]? with
      | some s =>
          match s.stage with
          | .sending _ => some (p.sent k s unsub)
          | _ => none
      | none => none
  | .notified k result =>
      match p.submissions[k]? with
      | some s =>
          match s.stage with
          | .subscribed unsubs => some (p.notified chain k s unsubs result)
          | _ => none
      | none => none

/-- The effects an event is followed by. -/
def flush (chain : ApiPromise → Chain) (before p : Page) : Page :=
  p.runEffects chain (p.balanceDeps ≠ before.balanceDeps)
    (p.api ≠ before.api ∨ p.isApiReady ≠ before.isApiReady)

/-- One event, with its effects. -/
def step (chain : ApiPromise → Chain) (formatBalance : Nat → String → Nat → String) (p : Page)
    (e : Event) : Option Page :=
  (handle chain formatBalance p e).map (flush chain p)

end SubstrateDevTemplate.Transfer
