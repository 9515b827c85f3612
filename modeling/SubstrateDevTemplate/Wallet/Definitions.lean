import Mathlib.Data.List.Basic

/-!
# Wallet — Definitions

The wallet service `services/polkadot/wallet.ts`: its two module variables, and the calls
`connectWallet` and `connectAny`.

A call of `connectWallet` runs synchronously from one `await` to the next.  `enabled` is the code
from the end of `await web3Enable(appName)` on, `listed` the code from the end of
`await web3Accounts()` on.  `step` lets any caller start a call at any time, and the awaits of the
calls in flight complete in any order; `connectWallet` is a whole call with nothing beside it.

`@polkadot/extension-dapp` is not part of the repository.  What its functions settle with comes with
the events: a list, or a rejection with its message.

`connectAny` touches the module through `connectWallet` only; the step it waits for that one's
promise in is left out.
-/

namespace SubstrateDevTemplate.Wallet

structure InjectedExtension where
  name : String
  version : String
  deriving DecidableEq

/-- An account; `connectWithoutExtension`'s has no source. -/
structure Account where
  address : String
  name : Option String
  source : Option String
  deriving DecidableEq

/-- The module's variables.  `connectWallet` resolves with their values. -/
structure State where
  extensions : List InjectedExtension
  accounts : List Account
  deriving DecidableEq

/-- The module as it is loaded. -/
def State.load : State := ⟨[], []⟩

def getAccounts (s : State) : List Account := s.accounts

def getExtensions (s : State) : List InjectedExtension := s.extensions

/-- The message where `web3Enable` returns no extension. -/
def noExtension : String :=
  "No wallet extension found. " ++
    "Please install a compatible wallet like SubWallet or Polkadot.js extension."

/-- The message where `web3Accounts` returns no account. -/
def noAccounts : String := "No accounts found. Please create an account in your wallet."

/-- `connectWallet` once `web3Enable` has settled: it settles too, or goes on to ask for the
accounts (`none`). -/
def enabled (s : State) :
    Except String (List InjectedExtension) → State × Option (Except String State)
  | .error message => (s, some (.error message))
  | .ok extensions =>
      -- the variable is assigned, and then checked
      if extensions = [] then ({ s with extensions := extensions }, some (.error noExtension))
      else ({ s with extensions := extensions }, none)

/-- `connectWallet` once `web3Accounts` has settled. -/
def listed (s : State) : Except String (List Account) → State × Except String State
  | .error message => (s, .error message)
  | .ok accounts =>
      if accounts = [] then ({ s with accounts := accounts }, .error noAccounts)
      else ({ s with accounts := accounts }, .ok { s with accounts := accounts })

/-- A whole call of `connectWallet`, with nothing beside it: what its `await`s settle with, and what
it settles with. -/
def connectWallet (s : State) (enable : Except String (List InjectedExtension))
    (list : Except String (List Account)) : State × Except String State :=
  match enabled s enable with
  | (s, some result) => (s, result)
  | (s, none) => listed s list

def connectWithoutExtension : List Account :=
  [⟨"5GrwvaEF5zXb26Fz9rcQpDWS57CtERHpNehXCPcNoHGKutQY", some "Development Account", none⟩]

inductive Method where
  | connectWallet
  | connectAny
  deriving DecidableEq

/-- How a call settles. -/
inductive Outcome where
  | connected (value : State)
  | accounts (value : List Account)
  | rejected (message : String)
  deriving DecidableEq

/-- What the call settles with where `connectWallet` settles with the one or the other: `connectAny`
catches a rejection. -/
def Method.outcome : Method → Except String State → Outcome
  | .connectWallet, .ok value => .connected value
  | .connectWallet, .error message => .rejected message
  | .connectAny, .ok value => .accounts value.accounts
  | .connectAny, .error _ => .accounts connectWithoutExtension

/-! ### The service under any number of calls -/

/-- The `await` a call is suspended at. -/
inductive Stage where
  /-- `await web3Enable(appName)` -/
  | enabling
  /-- `await web3Accounts()` -/
  | listing
  deriving DecidableEq

structure Pending where
  method : Method
  stage : Stage
  deriving DecidableEq

structure Config where
  state : State
  calls : List Pending
  /-- how the calls that have settled did, the latest last -/
  outcomes : List Outcome
  deriving DecidableEq

/-- The loaded module, before any call. -/
def Config.load : Config := ⟨.load, [], []⟩

/-- A call is started; what the `k`-th call in flight waits for settles. -/
inductive Event where
  | call (method : Method)
  | enabled (k : Nat) (extensions : Except String (List InjectedExtension))
  | listed (k : Nat) (accounts : Except String (List Account))
  deriving DecidableEq

def step (c : Config) : Event → Option Config
  | .call method => some { c with calls := c.calls ++ [⟨method, .enabling⟩] }
  | .enabled k extensions =>
      match c.calls[k]? with
      | some ⟨method, .enabling⟩ =>
          match Wallet.enabled c.state extensions with
          | (s, some result) =>
              some ⟨s, c.calls.eraseIdx k, c.outcomes ++ [method.outcome result]⟩
          | (s, none) => some ⟨s, c.calls.set k ⟨method, .listing⟩, c.outcomes⟩
      | _ => none
  | .listed k accounts =>
      match c.calls[k]? with
      | some ⟨method, .listing⟩ =>
          let r := Wallet.listed c.state accounts
          some ⟨r.1, c.calls.eraseIdx k, c.outcomes ++ [method.outcome r.2]⟩
      | _ => none

end SubstrateDevTemplate.Wallet
