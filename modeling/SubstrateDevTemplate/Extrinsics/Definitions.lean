import SubstrateDevTemplate.ParamInput.Definitions

/-!
# Extrinsics — Definitions

The Extrinsics page, `pages/Extrinsics.tsx`: where the parameters of a selected method come from
(`KNOWN_PARAMETERS`, two fallbacks by the method's name, and the metadata), and the page's state
with its handlers, the wallet connection and the submissions under way.

A handler that awaits runs from one `await` to the next.  What it read when it was called stays as
it was then: a `Submission` and a `WalletConnection` carry the part of the page their closure
captured.  `step` is one event of the page, with the parameter effect run after it where the
selection it depends on has changed.

`@polkadot/api` and the wallet extension are not part of the repository.  An `Api` is what the page
reads of the one; what the other answers comes with the events.
-/

namespace SubstrateDevTemplate.Extrinsics
open Js (Value)
open ParamInput (Param inputKeys)

/-! ### Parameters -/

/-- `KNOWN_PARAMETERS`.  Only its own entries are looked up here; the names an object literal
inherits (`constructor`, `toString`, …) are not names of modules. -/
def knownParameters : List (String × List (String × List Param)) :=
  [("balances",
    [("transfer",
        [⟨"dest", "MultiAddress", false⟩, ⟨"value", "Compact<Balance>", false⟩]),
      ("transferKeepAlive",
        [⟨"dest", "MultiAddress", false⟩, ⟨"value", "Compact<Balance>", false⟩]),
      ("transferAll",
        [⟨"dest", "MultiAddress", false⟩, ⟨"keepAlive", "bool", false⟩]),
      ("forceTransfer",
        [⟨"source", "MultiAddress", false⟩, ⟨"dest", "MultiAddress", false⟩,
          ⟨"value", "Compact<Balance>", false⟩]),
      ("setBalance",
        [⟨"who", "MultiAddress", false⟩, ⟨"newFree", "Compact<Balance>", false⟩,
          ⟨"newReserved", "Compact<Balance>", false⟩]),
      ("forceSetBalance",
        [⟨"who", "MultiAddress", false⟩, ⟨"newFree", "Compact<Balance>", false⟩]),
      ("upgradeAccounts",
        [⟨"who", "Vec<AccountId32>", false⟩]),
      ("transferAllowDeath",
        [⟨"dest", "MultiAddress", false⟩, ⟨"value", "Compact<Balance>", false⟩]),
      ("forceUnreserve",
        [⟨"who", "MultiAddress", false⟩, ⟨"amount", "u128", false⟩]),
      ("forceAdjustTotalIssuance",
        [⟨"adjustment", "i128", false⟩]),
      ("burn",
        [⟨"amount", "Compact<Balance>", false⟩])]),
    ("system",
      [("remark", [⟨"remark", "Bytes", false⟩]),
        ("setCode", [⟨"code", "Bytes", false⟩]),
        ("setStorage", [⟨"items", "Vec<KeyValue>", false⟩]),
        ("killStorage", [⟨"keys", "Vec<Key>", false⟩]),
        ("killPrefix", [⟨"prefix", "Key", false⟩, ⟨"subkeys", "u32", false⟩]),
        ("remarkWithEvent", [⟨"remark", "Bytes", false⟩])]),
    ("timestamp",
      [("set", [⟨"now", "Compact<u64>", false⟩])]),
    ("sudo",
      [("sudo", [⟨"call", "Call", false⟩]),
        ("sudoAs", [⟨"who", "MultiAddress", false⟩, ⟨"call", "Call", false⟩]),
        ("sudoUncheckedWeight", [⟨"call", "Call", false⟩, ⟨"weight", "Weight", false⟩])]),
    ("assets",
      [("create",
          [⟨"id", "Compact<u32>", false⟩, ⟨"admin", "MultiAddress", false⟩,
            ⟨"minBalance", "u128", false⟩]),
        ("transfer",
          [⟨"id", "Compact<u32>", false⟩, ⟨"target", "MultiAddress", false⟩,
            ⟨"amount", "Compact<u128>", false⟩])])]

/-- `KNOWN_PARAMETERS[module] && KNOWN_PARAMETERS[module][method]`. -/
def known (module method : String) : Option (List Param) :=
  (knownParameters.lookup module).bind fun methods => methods.lookup method

/-- The parameters assumed of a method whose name contains `transfer`. -/
def transferParameters : List Param :=
  [⟨"dest", "MultiAddress", false⟩, ⟨"value", "Compact<Balance>", false⟩]

/-- The parameter assumed of a method whose name contains `set`. -/
def setterParameters : List Param := [⟨"value", "any", false⟩]

/-- An argument of a call, in the metadata. -/
structure Arg where
  name : Option String
  type : Option String
  deriving DecidableEq

/-- What `findMetaCall` returns. -/
structure CallMeta where
  args : Option (List Arg)
  deriving DecidableEq

/-- What the page reads of a connected `ApiPromise`. -/
structure Api where
  /-- the call index of `tx[module][method]`, where there is such a module and such a method -/
  tx : String → Option (String → Option Nat)
  /-- `registry.findMetaCall(callIndex)`: what it throws, or what it returns -/
  findMetaCall : Nat → Except String (Option CallMeta)
  /-- what `tx[module][method](...params)` throws, if it throws -/
  txError : String → String → List Value → Option String

/-- The parameter for the `i`-th argument in the metadata, with a made-up name where the argument
has none. -/
def argParameter (suffixes : List String) (i : Nat) (arg : Arg) : Param where
  name := arg.name.getD ("param" ++ suffixes.getD i "")
  type := arg.type.getD "unknown"
  isOptional := false

/-- The parameters the metadata gives.  None for a module or a method there is not, and none where
the lookup throws or finds no arguments. -/
def metadataParameters (api : Api) (suffixes : List String) (module method : String) :
    List Param :=
  match (api.tx module).bind fun methods => methods method with
  | none => []
  | some callIndex =>
      match api.findMetaCall callIndex with
      | .ok (some ⟨some args⟩) => args.mapIdx (argParameter suffixes)
      | _ => []

/-- What the parameter effect sets `methodParameters` to, if it sets it. -/
def parametersOf (api : Option Api) (suffixes : List String) (module method : String) :
    Option (List Param) :=
  if module = "" ∨ method = "" then some []
  else
    match known module method with
    | some params => some params
    | none =>
        if Js.includes (Js.toLowerCase method) "transfer" then some transferParameters
        else if Js.includes (Js.toLowerCase method) "set" then some setterParameters
        -- without an api the effect returns here, and sets nothing
        else api.map fun api => metadataParameters api suffixes module method

/-- `formatParameter`; the argument is `undefined` where the page has no value. -/
def formatParameter (param : Option String) (type : String) : Value :=
  if Js.includes (Js.toLowerCase type) "bool" then .bool (param = some "true")
  else param.elim .undefined .string

/-! ### The page -/

/-- An account of the wallet. -/
structure Account where
  address : String
  source : String
  deriving DecidableEq

/-- An event a transaction caused. -/
structure TxEvent where
  section_ : String
  method : String
  data : String
  deriving DecidableEq

/-- The status of a transaction. -/
inductive Status where
  | future | ready | broadcast
  | inBlock (hash : String)
  | retracted
  | finalized (hash : String)
  | finalityTimeout | usurped | dropped | invalid
  deriving DecidableEq

/-- A status notification. -/
structure TxResult where
  status : Status
  isError : Bool
  txHash : String
  events : Option (List TxEvent)
  deriving DecidableEq

/-- Where a submission is. -/
inductive SubmissionStage where
  /-- `await web3FromSource(source)` -/
  | injecting (source : String)
  /-- `await extrinsic.signAndSend(account, …)` -/
  | sending (account : String)
  /-- it is subscribed, and has called `unsub()` `unsubs` times -/
  | subscribed (unsubs : Nat)
  /-- it failed before it was subscribed -/
  | failed
  deriving DecidableEq

/-- A call of `handleSubmit` past its first checks, with what its closure captured. -/
structure Submission where
  selectedModule : String
  selectedMethod : String
  methodParameters : List Param
  paramValues : List (Option String)
  selectedAccount : String
  txEvents : Option (List TxEvent)
  stage : SubmissionStage
  deriving DecidableEq

/-- `processedParams`. -/
def Submission.processedParams (s : Submission) : List Value :=
  s.methodParameters.mapIdx fun index param =>
    formatParameter (Js.item s.paramValues index) param.type

/-- Where a call of `connectWallet` is. -/
inductive WalletStage where
  /-- `await web3Enable(…)` -/
  | enabling
  /-- `await web3Accounts()` -/
  | listing
  | done
  deriving DecidableEq

/-- A call of `connectWallet`, with the `selectedAccount` its closure captured. -/
structure WalletConnection where
  selectedAccount : String
  stage : WalletStage
  deriving DecidableEq

/-- The page's state, and its calls. -/
structure Page where
  selectedModule : String
  selectedMethod : String
  methodParameters : List Param
  paramValues : List (Option String)
  accounts : List Account
  selectedAccount : String
  submissionStatus : Option String
  isSubmitting : Bool
  submissionError : Option String
  txHash : Option String
  blockHash : Option String
  txEvents : Option (List TxEvent)
  submissions : List Submission
  wallets : List WalletConnection
  deriving DecidableEq

/-- The page as it is rendered first. -/
def Page.init : Page where
  selectedModule := ""
  selectedMethod := ""
  methodParameters := []
  paramValues := []
  accounts := []
  selectedAccount := ""
  submissionStatus := none
  isSubmitting := false
  submissionError := none
  txHash := none
  blockHash := none
  txEvents := none
  submissions := []
  wallets := []

namespace Page

/-- The parameter effect. -/
def parameterEffect (api : Option Api) (suffixes : List String) (p : Page) : Page :=
  match parametersOf api suffixes p.selectedModule p.selectedMethod with
  | none => p
  | some params =>
      { p with
        methodParameters := params
        paramValues := List.replicate params.length (some "") }

def resetTxState (p : Page) : Page :=
  { p with
    submissionStatus := none
    txHash := none
    blockHash := none
    txEvents := none
    submissionError := none
    paramValues := [] }

def handleModuleChange (p : Page) (newModule : String) : Page :=
  { p with selectedModule := newModule, selectedMethod := "" }.resetTxState

def handleMethodChange (p : Page) (newMethod : String) : Page :=
  { p with selectedMethod := newMethod }.resetTxState

def handleParamChange (p : Page) (index : Nat) (value : String) : Page :=
  { p with paramValues := Js.assign p.paramValues index value }

/-! ### The wallet -/

def setWallet (p : Page) (k : Nat) (w : WalletConnection) (stage : WalletStage) : Page :=
  { p with wallets := p.wallets.set k { w with stage := stage } }

/-- `connectWallet`, up to its first `await`. -/
def connectWallet (p : Page) : Page :=
  { p with wallets := p.wallets ++ [⟨p.selectedAccount, .enabling⟩] }

/-- `web3Enable` has settled, with so many extensions. -/
def walletEnabled (p : Page) (k : Nat) (w : WalletConnection) : Except String Nat → Page
  | .error message => { p.setWallet k w .done with submissionError := some message }
  | .ok 0 =>
      { p.setWallet k w .done with
        submissionError := some "No extension found. Please install Polkadot.js extension." }
  | .ok (_ + 1) => p.setWallet k w .listing

/-- `web3Accounts` has settled.  The first account is selected if none was when the wallet was
connected. -/
def walletListed (p : Page) (k : Nat) (w : WalletConnection) :
    Except String (List Account) → Page
  | .error message => { p.setWallet k w .done with submissionError := some message }
  | .ok [] => { p.setWallet k w .done with accounts := [] }
  | .ok (account :: rest) =>
      { p.setWallet k w .done with
        accounts := account :: rest
        selectedAccount := if w.selectedAccount = "" then account.address else p.selectedAccount }

/-! ### Submission -/

/-- The condition the Submit button is enabled under. -/
def SubmitEnabled (p : Page) : Prop :=
  p.isSubmitting = false ∧ p.selectedModule ≠ "" ∧ p.selectedMethod ≠ "" ∧ p.accounts ≠ [] ∧
    p.selectedAccount ≠ "" ∧
    ¬ (0 < p.methodParameters.length ∧
      (p.paramValues.filter Js.truthy).length ≠ p.methodParameters.length)

instance (p : Page) : Decidable p.SubmitEnabled :=
  inferInstanceAs (Decidable (_ ∧ _ ∧ _ ∧ _ ∧ _ ∧ ¬ (_ ∧ _)))

/-- `handleSubmit`'s `catch`. -/
def submitFailed (p : Page) (message : String) : Page :=
  { p with submissionError := some message, isSubmitting := false }

/-- `handleSubmit`, up to its first `await`.  The api is there. -/
def handleSubmit (p : Page) : Page :=
  let started :=
    { { p with isSubmitting := true }.resetTxState with
      submissionStatus := some "Preparing transaction..." }
  if p.selectedAccount = "" then p
  else
    match p.accounts.find? fun a => a.address = p.selectedAccount with
    | none => started.submitFailed "Selected account not found"
    | some selectedAccountObj =>
        -- the closure has the form as it was before `resetTxState`
        { started with
          submissions := p.submissions ++ [{
            selectedModule := p.selectedModule
            selectedMethod := p.selectedMethod
            methodParameters := p.methodParameters
            paramValues := p.paramValues
            selectedAccount := p.selectedAccount
            txEvents := p.txEvents
            stage := .injecting selectedAccountObj.source }] }

def setSubmission (p : Page) (k : Nat) (s : Submission) (stage : SubmissionStage) : Page :=
  { p with submissions := p.submissions.set k { s with stage := stage } }

/-- `web3FromSource` has settled: the extrinsic is created. -/
def injected (api : Api) (p : Page) (k : Nat) (s : Submission) : Except String Unit → Page
  | .error message => (p.setSubmission k s .failed).submitFailed message
  | .ok () =>
      let waiting := { p with submissionStatus := some "Waiting for signature..." }
      match api.txError s.selectedModule s.selectedMethod s.processedParams with
      | some message =>
          (waiting.setSubmission k s .failed).submitFailed
            ("Error creating extrinsic: " ++ message)
      | none => waiting.setSubmission k s (.sending s.selectedAccount)

/-- `signAndSend` has settled. -/
def sent (p : Page) (k : Nat) (s : Submission) : Except String Unit → Page
  | .error message => (p.setSubmission k s .failed).submitFailed message
  | .ok () => p.setSubmission k s (.subscribed 0)

/-- The events that are shown. -/
def shownEvents (events : List TxEvent) : List TxEvent :=
  events.filter fun e =>
    !Js.includes e.section_ "system" || !Js.includes e.method "ExtrinsicSuccess"

/-- The status callback, of a submission that has unsubscribed `unsubs` times. -/
def notified (p : Page) (k : Nat) (s : Submission) (unsubs : Nat) (result : TxResult) : Page :=
  match result.status with
  | .inBlock hash =>
      { p with
        blockHash := some hash
        txHash := some result.txHash
        submissionStatus := some ("Included in block " ++ hash)
        txEvents := result.events.elim p.txEvents fun events => some (shownEvents events) }
  | .finalized hash =>
      { p.setSubmission k s (.subscribed (unsubs + 1)) with
        blockHash := some hash
        submissionStatus := some ("Finalized in block " ++ hash)
        -- `txEvents` is the one the submission's closure captured
        txEvents := match s.txEvents, result.events with
          | none, some events => some (shownEvents events)
          | _, _ => p.txEvents
        isSubmitting := false }
  | _ =>
      if result.isError then
        { p.setSubmission k s (.subscribed (unsubs + 1)) with
          submissionError := some "Transaction failed"
          isSubmitting := false }
      else p

/-! ### Events -/

/-- The keys of the parameter inputs the page renders. -/
def keys (p : Page) : List String :=
  if p.selectedMethod = "" then [] else inputKeys p.methodParameters

end Page

/-- What happens to the page.  `suffixes` are the random suffixes of the run of the parameter effect
that follows. -/
inductive Event where
  | moduleChange (newModule : String)
  | methodChange (newMethod : String) (suffixes : List String)
  | paramChange (index : Nat) (value : String)
  | accountChange (address : String)
  | connectWallet
  | walletEnabled (k : Nat) (extensions : Except String Nat)
  | walletListed (k : Nat) (accounts : Except String (List Account))
  | submit
  | injected (k : Nat) (injector : Except String Unit)
  | sent (k : Nat) (unsub : Except String Unit)
  | notified (k : Nat) (result : TxResult)

/-- The handler of an event, where the page lets it happen. -/
def handle (api : Api) (p : Page) : Event → Option Page
  | .moduleChange newModule => some (p.handleModuleChange newModule)
  | .methodChange newMethod _ =>
      if p.selectedModule = "" then none else some (p.handleMethodChange newMethod)
  | .paramChange index value =>
      if index < p.keys.length then some (p.handleParamChange index value) else none
  | .accountChange address =>
      if p.accounts = [] then none else some { p with selectedAccount := address }
  | .connectWallet => if p.accounts = [] then some p.connectWallet else none
  | .walletEnabled k extensions =>
      match p.wallets[k]? with
      | some ⟨account, .enabling⟩ => some (p.walletEnabled k ⟨account, .enabling⟩ extensions)
      | _ => none
  | .walletListed k accounts =>
      match p.wallets[k]? with
      | some ⟨account, .listing⟩ => some (p.walletListed k ⟨account, .listing⟩ accounts)
      | _ => none
  | .submit => if p.SubmitEnabled then some p.handleSubmit else none
  | .injected k injector =>
      match p.submissions[k]? with
      | some s =>
          match s.stage with
          | .injecting _ => some (p.injected api k s injector)
          | _ => none
      | none => none
  | .sent k unsub =>
      match p.submissions[k]? with
      | some s =>
          match s.stage with
          | .sending _ => some (p.sent k s unsub)
          | _ => none
      | none => none
  | .notified k result =>
      match p.submissions[k]? with
      | some s =>
          match s.stage with
          | .subscribed unsubs => some (p.notified k s unsubs result)
          | _ => none
      | none => none

/-- The random suffixes of the parameter effect's next run; a change of module needs none. -/
def Event.suffixes : Event → List String
  | .methodChange _ suffixes => suffixes
  | _ => []

/-- The effects an event is followed by: the parameter effect runs again where one of the variables
it depends on has changed. -/
def flush (api : Api) (e : Event) (before p : Page) : Page :=
  if p.selectedModule = before.selectedModule ∧ p.selectedMethod = before.selectedMethod then p
  else p.parameterEffect (some api) e.suffixes

/-- One event, with its effects. -/
def step (api : Api) (p : Page) (e : Event) : Option Page :=
  (handle api p e).map (flush api e p)

end SubstrateDevTemplate.Extrinsics
