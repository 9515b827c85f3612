import SubstrateDevTemplate.Support.Runs
import SubstrateDevTemplate.Wallet.Definitions

/-!
# Wallet — connections that fail

`connectWallet` assigns each of its variables before it checks what it has assigned, and nothing
restores the one or the other.

* `serial_runs`: where the calls do not overlap, the interleaved system does what whole calls do,
  and they settle alike.
* `connectWallet_connects`: the four ways a whole call fails, and the one it succeeds in.
* `unchanged_iff`: a call that fails changes nothing exactly where what it has assigned was there
  before (`Harmless`).
* `links_simulated`: where all the failures are of that kind, the service holds what the last
  connection has given (`Link`), or nothing.
* `failures_change_nothing`: so there are accounts only where there are extensions.
-/

namespace SubstrateDevTemplate.Wallet
open Transition

/-! ### Whole calls -/

/-- A whole call, with what its `await`s settle with. -/
structure Call where
  method : Method
  enable : Except String (List InjectedExtension)
  list : Except String (List Account)
  deriving DecidableEq

def Call.run (call : Call) (s : State) : State × Except String State :=
  connectWallet s call.enable call.list

/-- The service with no call in flight. -/
structure Rest where
  state : State
  outcomes : List Outcome
  deriving DecidableEq

def Rest.load : Rest := ⟨.load, []⟩

def serialStep (r : Rest) (call : Call) : Option Rest :=
  some ⟨(call.run r.state).1, r.outcomes ++ [call.method.outcome (call.run r.state).2]⟩

/-- A call is started with no call in flight. -/
def Serial (c : Config) : Event → Prop
  | .call _ => c.calls = []
  | .enabled _ _ | .listed _ _ => True

instance (c : Config) : (e : Event) → Decidable (Serial c e)
  | .call _ => inferInstanceAs (Decidable (c.calls = []))
  | .enabled _ _ | .listed _ _ => isTrue trivial

/-- The interleaved system is at rest in `r`, or in the middle of a call that started there. -/
inductive InCall (c : Config) (r : Rest) : Prop where
  | rest (hc : c.calls = []) (hs : c.state = r.state) (ho : c.outcomes = r.outcomes)
  | enabling (method : Method) (hc : c.calls = [⟨method, .enabling⟩]) (hs : c.state = r.state)
      (ho : c.outcomes = r.outcomes)
  | listing (method : Method) (enable : Except String (List InjectedExtension))
      (hc : c.calls = [⟨method, .listing⟩]) (hs : enabled r.state enable = (c.state, none))
      (ho : c.outcomes = r.outcomes)

variable {c c' : Config} {r : Rest} {s : State}

/-- `web3Enable` settles.  The call settles with it, whatever the accounts would be, or goes on. -/
theorem inCall_enabled {method : Method} {k : Nat}
    {enable : Except String (List InjectedExtension)} (hc : c.calls = [⟨method, .enabling⟩])
    (hs : c.state = r.state) (ho : c.outcomes = r.outcomes)
    (h : step c (.enabled k enable) = some c') :
    ∃ calls r', Run serialStep anyEvent r calls r' ∧ InCall c' r' := by
  cases k with
  | succ k => rw [step, hc] at h; cases h
  | zero =>
      simp only [step, hc, List.getElem?_cons_zero] at h
      rw [hs] at h
      split at h
      · rename_i s result hen
        cases h
        refine ⟨[⟨method, enable, .error ""⟩], _, .one trivial rfl, .rest rfl ?_ ?_⟩
        · simp only [Call.run, connectWallet, hen]
        · simp only [Call.run, connectWallet, hen, ho]
      · rename_i s hen
        cases h
        exact ⟨[], r, .refl r, .listing method enable rfl hen ho⟩

/-- `web3Accounts` settles, and the call with it. -/
theorem inCall_listed {method : Method} {k : Nat}
    {enable : Except String (List InjectedExtension)} {list : Except String (List Account)}
    (hc : c.calls = [⟨method, .listing⟩]) (hs : enabled r.state enable = (c.state, none))
    (ho : c.outcomes = r.outcomes) (h : step c (.listed k list) = some c') :
    ∃ calls r', Run serialStep anyEvent r calls r' ∧ InCall c' r' := by
  cases k with
  | succ k => rw [step, hc] at h; cases h
  | zero =>
      simp only [step, hc, List.getElem?_cons_zero] at h
      cases h
      refine ⟨[⟨method, enable, list⟩], _, .one trivial rfl, .rest rfl ?_ ?_⟩
      · simp only [Call.run, connectWallet, hs]
      · simp only [Call.run, connectWallet, hs, ho]

/-- A step within a call is no whole call, until the call settles. -/
theorem inCall_step {e : Event} (hR : InCall c r) (hg : Serial c e) (h : step c e = some c') :
    ∃ calls r', Run serialStep anyEvent r calls r' ∧ InCall c' r' := by
  cases e with
  | call method =>
      cases hR with
      | rest hc hs ho =>
          cases h
          exact ⟨[], r, .refl r, .enabling method (by rw [hc]; rfl) hs ho⟩
      | enabling _ hc | listing _ _ hc =>
          have hnil := hc.symm.trans hg
          cases hnil
  | enabled k enable =>
      cases hR with
      | rest hc => rw [step, hc] at h; cases h
      | enabling method hc hs ho => exact inCall_enabled hc hs ho h
      | listing method _ hc =>
          cases k with
          | zero | succ k => rw [step, hc] at h; cases h
  | listed k list =>
      cases hR with
      | rest hc => rw [step, hc] at h; cases h
      | listing method enable hc hs ho => exact inCall_listed hc hs ho h
      | enabling method hc =>
          cases k with
          | zero | succ k => rw [step, hc] at h; cases h

/-- **Whole calls are enough.** -/
theorem serial_runs {es : List Event} (h : Run step Serial .load es c) (hc : c.calls = []) :
    ∃ calls, Run serialStep anyEvent .load calls ⟨c.state, c.outcomes⟩ := by
  obtain ⟨calls, r, hrun, hR⟩ :=
    h.simulation (fun _ _ _ _ hR hg hst => inCall_step hR hg hst) (t := .load) (.rest rfl rfl rfl)
  cases hR with
  | rest _ hs ho => exact ⟨calls, by rw [hs, ho]; exact hrun⟩
  | enabling _ hcalls | listing _ _ hcalls =>
      have hnil := hcalls.symm.trans hc
      cases hnil

/-! ### What a call does -/

/-- What `connectWallet` leaves behind, and what it settles with. -/
inductive Connects (s : State) :
    Except String (List InjectedExtension) → Except String (List Account) →
      State × Except String State → Prop where
  | notEnabled (message : String) (list : Except String (List Account)) :
      Connects s (.error message) list (s, .error message)
  | noExtension (list : Except String (List Account)) :
      Connects s (.ok []) list (⟨[], s.accounts⟩, .error noExtension)
  | notListed {extensions : List InjectedExtension} (he : extensions ≠ []) (message : String) :
      Connects s (.ok extensions) (.error message) (⟨extensions, s.accounts⟩, .error message)
  | noAccounts {extensions : List InjectedExtension} (he : extensions ≠ []) :
      Connects s (.ok extensions) (.ok []) (⟨extensions, []⟩, .error noAccounts)
  | connected {extensions : List InjectedExtension} {accounts : List Account}
      (he : extensions ≠ []) (ha : accounts ≠ []) :
      Connects s (.ok extensions) (.ok accounts)
        (⟨extensions, accounts⟩, .ok ⟨extensions, accounts⟩)

theorem connectWallet_connects (s : State) (enable : Except String (List InjectedExtension))
    (list : Except String (List Account)) :
    Connects s enable list (connectWallet s enable list) := by
  cases enable with
  | error message => exact .notEnabled message list
  | ok extensions =>
      cases extensions with
      | nil => exact .noExtension list
      | cons extension rest =>
          have he : extension :: rest ≠ [] := List.cons_ne_nil _ _
          cases list with
          | error message => exact .notListed he message
          | ok accounts =>
              cases accounts with
              | nil => exact .noAccounts he
              | cons account rest => exact .connected he (List.cons_ne_nil _ _)

/-- `connectWallet` rejects. -/
def Call.Rejects (call : Call) (s : State) : Prop := ∃ message, (call.run s).2 = .error message

/-- `getExtensions()` and `getAccounts()` return what they returned before the call. -/
def Call.Unchanged (call : Call) (s : State) : Prop :=
  getExtensions (call.run s).1 = getExtensions s ∧ getAccounts (call.run s).1 = getAccounts s

/-- A promise of the extension is fulfilled, and with something. -/
def provides {α : Type*} : Except String (List α) → Bool
  | .ok values => !values.isEmpty
  | .error _ => false

/-- What the call waits for rejects, or returns nothing. -/
def Call.Fails (call : Call) : Prop :=
  provides call.enable = false ∨ provides call.list = false

/-- What the call would assign on its way to a failure is what there is: the extensions, and then,
if there are any, the accounts. -/
def Call.Harmless (call : Call) (s : State) : Prop :=
  match call.enable, call.list with
  | .error _, _ => True
  | .ok extensions, .error _ => extensions = s.extensions
  | .ok extensions, .ok accounts =>
      extensions = s.extensions ∧ (extensions = [] ∨ accounts = s.accounts)

/-- A call that fails assigns nothing new. -/
def FailsHarmlessly (r : Rest) (call : Call) : Prop := call.Fails → call.Harmless r.state

instance (call : Call) : Decidable call.Fails := inferInstanceAs (Decidable (_ ∨ _))

instance : (call : Call) → (s : State) → Decidable (call.Harmless s)
  | ⟨_, .error _, _⟩, _ => isTrue trivial
  | ⟨_, .ok _, .error _⟩, _ => inferInstanceAs (Decidable (_ = _))
  | ⟨_, .ok _, .ok _⟩, _ => inferInstanceAs (Decidable (_ ∧ (_ ∨ _)))

instance (r : Rest) (call : Call) : Decidable (FailsHarmlessly r call) :=
  inferInstanceAs (Decidable (_ → _))

/-- There are accounts only where there are extensions. -/
def Consistent (s : State) : Prop := getAccounts s ≠ [] → getExtensions s ≠ []

/-! ### What the service is for -/

/-- Extensions, and the accounts that came from them. -/
structure Link where
  extensions : List InjectedExtension
  accounts : List Account
  extensions_ne : extensions ≠ []
  accounts_ne : accounts ≠ []

/-- A connection replaces the link there is as a whole, and a failure leaves it. -/
def relink (link : Option Link) : Option Link → Option (Option Link)
  | some new => some (some new)
  | none => some link

/-- The variables are those of the link, or as they were loaded. -/
def State.Holds (s : State) : Option Link → Prop
  | none => s = .load
  | some link => s = ⟨link.extensions, link.accounts⟩

theorem State.Holds.consistent {link : Option Link} (h : s.Holds link) : Consistent s := by
  cases link with
  | none => exact fun haccounts => absurd (congrArg State.accounts h) haccounts
  | some link => exact fun _ => (congrArg State.extensions h).trans_ne link.extensions_ne

/-! ### Failures -/

section
variable {enable : Except String (List InjectedExtension)} {list : Except String (List Account)}
  {result : State × Except String State}

/-- Whether it rejects is decided by what it waits for. -/
theorem Connects.rejects_iff (h : Connects s enable list result) :
    (∃ message, result.2 = .error message) ↔ provides enable = false ∨ provides list = false := by
  cases h with
  | notEnabled message => exact iff_of_true ⟨message, rfl⟩ (.inl rfl)
  | noExtension => exact iff_of_true ⟨_, rfl⟩ (.inl rfl)
  | notListed he message => exact iff_of_true ⟨message, rfl⟩ (.inr rfl)
  | noAccounts he => exact iff_of_true ⟨_, rfl⟩ (.inr rfl)
  | connected he ha =>
      refine iff_of_false ?_ ?_
      · rintro ⟨message, ⟨⟩⟩
      · simp only [provides, List.isEmpty_eq_false_iff.mpr he, List.isEmpty_eq_false_iff.mpr ha,
          Bool.not_false, Bool.true_eq_false, or_self, not_false_eq_true]

/-- A rejection leaves the two variables as they were where it is harmless, and there only. -/
theorem Connects.unchanged_iff {method : Method} {message : String}
    (h : Connects s enable list result) (hrejected : result.2 = .error message) :
    result.1.extensions = s.extensions ∧ result.1.accounts = s.accounts ↔
      (⟨method, enable, list⟩ : Call).Harmless s := by
  cases h with
  | notEnabled => exact iff_of_true ⟨rfl, rfl⟩ trivial
  | noExtension list =>
      cases list with
      | error => exact and_iff_left rfl
      | ok => simp only [Call.Harmless, true_or]
  | notListed => exact and_iff_left rfl
  | noAccounts he => simp only [Call.Harmless, he, false_or]
  | connected => cases hrejected

/-- Without a rejection both variables are assigned. -/
theorem Connects.links (h : Connects s enable list result)
    (hresolved : ¬ ∃ message, result.2 = .error message) :
    ∃ link, result.1.Holds (some link) := by
  cases h with
  | connected he ha => exact ⟨⟨_, _, he, ha⟩, rfl⟩
  | notEnabled | noExtension | notListed | noAccounts => exact absurd ⟨_, rfl⟩ hresolved

end

theorem rejects_iff (call : Call) (s : State) : call.Rejects s ↔ call.Fails :=
  (connectWallet_connects s call.enable call.list).rejects_iff

/-- **A call that rejects** changes nothing exactly where what it has assigned was there before. -/
theorem unchanged_iff {call : Call} (hrejects : call.Rejects s) :
    call.Unchanged s ↔ call.Harmless s := by
  obtain ⟨message, hrejected⟩ := hrejects
  exact (connectWallet_connects s call.enable call.list).unchanged_iff hrejected

/-- **One call** links the wallet anew, or leaves it as it is. -/
theorem holds_run {call : Call} {link : Option Link} (hs : s.Holds link)
    (hg : call.Fails → call.Harmless s) :
    ∃ new link', relink link new = some link' ∧ (call.run s).1.Holds link' := by
  by_cases hrejects : call.Rejects s
  · have hharmless := hg ((rejects_iff call s).mp hrejects)
    obtain ⟨hextensions, haccounts⟩ := (unchanged_iff hrejects).mpr hharmless
    have hsame : (call.run s).1 = s := congrArg₂ State.mk hextensions haccounts
    exact ⟨none, link, rfl, hsame.symm ▸ hs⟩
  · obtain ⟨new, hnew⟩ := (connectWallet_connects s call.enable call.list).links hrejects
    exact ⟨some new, some new, rfl, hnew⟩

/-- **The service is a link**, where its failures are harmless. -/
theorem links_simulated {calls : List Call}
    (hrun : Run serialStep FailsHarmlessly .load calls r) :
    ∃ news link, Run relink anyEvent none news link ∧ r.state.Holds link := by
  refine hrun.simulation (R := fun r link => r.state.Holds link) ?_ (t := none) rfl
  intro r link call r' hs hg hst
  cases hst
  obtain ⟨new, link', hrelink, hs'⟩ := holds_run hs hg
  exact ⟨[new], link', .one trivial hrelink, hs'⟩

/-- **Failures change nothing** where they are harmless, and there only; after calls whose failures
all are, there are accounts only where there are extensions. -/
theorem failures_change_nothing (r : Rest) (calls : List Call) :
    (∀ call : Call, (call.Rejects r.state → call.Unchanged r.state) ↔ FailsHarmlessly r call) ∧
      (Run serialStep FailsHarmlessly .load calls r → Consistent r.state) := by
  constructor
  · intro call
    rw [FailsHarmlessly, ← rejects_iff call r.state]
    exact forall_congr' fun hrejects => unchanged_iff hrejects
  · intro hrun
    obtain ⟨news, link, -, hs⟩ := links_simulated hrun
    exact hs.consistent

/-- A connection, and one that the user turns down. -/
theorem failures_change_nothing_rejected :
    ∃ r, Run serialStep FailsHarmlessly .load
        [⟨.connectWallet, .ok [⟨"polkadot-js", "0.46.1"⟩],
            .ok [⟨"5Alice", some "Alice", some "polkadot-js"⟩]⟩,
          ⟨.connectAny, .error "Cancelled", .ok []⟩] r ∧ Consistent r.state :=
  exists_run_and (by decide) fun r hrun => (failures_change_nothing r _).2 hrun

/-- **The extensions are lost.**  After a connection, the extension no longer answers: the call
fails, and the accounts are left without it. -/
theorem lost_extension :
    ¬ ∀ (es : List Event) (c : Config), Run step Serial .load es c → c.calls = [] →
      Consistent c.state ∧ ∀ call : Call, call.Rejects c.state → call.Unchanged c.state := by
  intro h
  obtain ⟨c, hrun, hcalls, haccounts, hextensions⟩ : ∃ c, Run step Serial .load
      [.call .connectWallet, .enabled 0 (.ok [⟨"polkadot-js", "0.46.1"⟩]),
        .listed 0 (.ok [⟨"5Alice", some "Alice", some "polkadot-js"⟩]),
        .call .connectWallet, .enabled 0 (.ok [])] c ∧
      c.calls = [] ∧ getAccounts c.state ≠ [] ∧ getExtensions c.state = [] :=
    exists_run (by decide)
  exact (h _ c hrun hcalls).1 haccounts hextensions

end SubstrateDevTemplate.Wallet
