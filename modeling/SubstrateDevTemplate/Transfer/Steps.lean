import SubstrateDevTemplate.Transfer.Definitions

/-!
# Transfer — Steps

What the effects of the page touch, which events are of a submission, and which of a balance query.

* `flush_eq`: the effects change the token, the balance and the queries under way, and nothing else.
* `handle_steady`: an event that is of neither changes neither.
* `handle_elsewhere`: the submissions and `isSubmitting` are changed by no event that is not of a
  submission.
* `handle_submit`, `handle_injected`, `handle_sent`, `handle_notified`: where an event of a
  submission can happen, and what it does.
-/

namespace SubstrateDevTemplate.Transfer
open Service (ApiPromise)
open Extrinsics (Account)
open Decimal (Fraction)

/-- The token, the balance and the queries under way. -/
structure Holding where
  tokenSymbol : String
  tokenDecimals : Nat
  balance : Option String
  balanceRaw : Option Nat
  fetches : List Fetch

namespace Page

/-- The page with another token, balance and queries. -/
def withHolding (p : Page) (a : Holding) : Page :=
  { p with
    tokenSymbol := a.tokenSymbol
    tokenDecimals := a.tokenDecimals
    balance := a.balance
    balanceRaw := a.balanceRaw
    fetches := a.fetches }

theorem fetchBalance_eq (p : Page) : ∃ a, p.fetchBalance = p.withHolding a := by
  unfold fetchBalance
  split
  · exact ⟨⟨_, _, _, _, _⟩, rfl⟩
  · split
    · exact ⟨⟨_, _, _, _, _⟩, rfl⟩
    · exact ⟨⟨_, _, _, _, _⟩, rfl⟩

theorem chainPropertiesEffect_eq (chain : ApiPromise → Chain) (p : Page) :
    ∃ a, p.chainPropertiesEffect chain = p.withHolding a := by
  have hsame : ∃ a, p = p.withHolding a := ⟨⟨_, _, _, _, _⟩, rfl⟩
  unfold chainPropertiesEffect
  split
  · exact hsame
  · split
    · exact hsame
    · split
      · exact hsame
      · exact hsame
      · split
        · exact ⟨⟨_, _, _, _, _⟩, rfl⟩
        · exact hsame

/-- The effects touch the token, the balance and the queries only. -/
theorem runEffects_eq (chain : ApiPromise → Chain) (balance properties : Bool) (p : Page) :
    ∃ a, p.runEffects chain balance properties = p.withHolding a := by
  have hbalance : ∃ a, (if balance then p.fetchBalance else p) = p.withHolding a := by
    cases balance with
    | false => exact ⟨⟨_, _, _, _, _⟩, rfl⟩
    | true => exact p.fetchBalance_eq
  have hproperties : ∃ a, (if properties then
      (if balance then p.fetchBalance else p).chainPropertiesEffect chain
      else (if balance then p.fetchBalance else p)) = p.withHolding a := by
    obtain ⟨a, ha⟩ := hbalance
    rw [ha]
    cases properties with
    | false => exact ⟨a, rfl⟩
    | true =>
        obtain ⟨b, hb⟩ := (p.withHolding a).chainPropertiesEffect_eq chain
        exact ⟨b, hb⟩
  obtain ⟨a, ha⟩ := hproperties
  simp only [runEffects, ha]
  split
  · exact ⟨a, rfl⟩
  · obtain ⟨b, hb⟩ := (p.withHolding a).fetchBalance_eq
    exact ⟨b, hb⟩

end Page

theorem flush_eq (chain : ApiPromise → Chain) (before p : Page) :
    ∃ a, flush chain before p = p.withHolding a := p.runEffects_eq chain _ _

/-! ### The form and the wallet -/

namespace Page

/-- The balance, its queries and the submissions are the same. -/
structure Steady (p p' : Page) : Prop where
  balanceRaw : p'.balanceRaw = p.balanceRaw
  fetches : p'.fetches = p.fetches
  isSubmitting : p'.isSubmitting = p.isSubmitting
  submissions : p'.submissions = p.submissions

variable (p : Page)

theorem steady_setPercentage (percent : Fraction) : p.Steady (p.setPercentage percent) := by
  unfold setPercentage
  split
  · exact ⟨rfl, rfl, rfl, rfl⟩
  · exact ⟨rfl, rfl, rfl, rfl⟩

theorem steady_walletEnabled (k : Nat) (extensions : Except String Nat) :
    p.Steady (p.walletEnabled k extensions) := by
  unfold walletEnabled
  split
  · exact ⟨rfl, rfl, rfl, rfl⟩
  · exact ⟨rfl, rfl, rfl, rfl⟩
  · exact ⟨rfl, rfl, rfl, rfl⟩

theorem steady_walletListed (k : Nat) (accounts : Except String (List Account)) :
    p.Steady (p.walletListed k accounts) := by
  unfold walletListed
  split
  · exact ⟨rfl, rfl, rfl, rfl⟩
  · exact ⟨rfl, rfl, rfl, rfl⟩
  · exact ⟨rfl, rfl, rfl, rfl⟩

end Page

/-- The event is one of a submission: it starts one, or moves one on. -/
def Event.ofSubmission : Event → Bool
  | .submit | .injected _ _ | .sent _ _ | .notified _ _ => true
  | _ => false

/-- The event is one of a balance query: it sends one, or is its reply. -/
def Event.ofBalance : Event → Bool
  | .refresh | .fetched _ _ => true
  | _ => false

section
variable {chain : ApiPromise → Chain} {formatBalance : Nat → String → Nat → String} {p p' : Page}

/-- An event of neither leaves both alone, before the effects. -/
theorem handle_steady {e : Event} (hs : e.ofSubmission = false) (hb : e.ofBalance = false)
    (h : handle chain formatBalance p e = some p') : p.Steady p' := by
  cases e with
  | submit | injected | sent | notified => cases hs
  | refresh | fetched => cases hb
  | context api isApiReady => cases h; exact ⟨rfl, rfl, rfl, rfl⟩
  | accountChange address =>
      simp only [handle] at h
      split at h
      · cases h; exact ⟨rfl, rfl, rfl, rfl⟩
      · cases h
  | recipientChange recipient =>
      simp only [handle] at h
      split at h
      · cases h
      · cases h; exact ⟨rfl, rfl, rfl, rfl⟩
  | amountChange amount =>
      simp only [handle] at h
      split at h
      · cases h
      · cases h; exact ⟨rfl, rfl, rfl, rfl⟩
  | percentage percent =>
      simp only [handle] at h
      split at h
      · cases h
      · cases h; exact p.steady_setPercentage percent
  | connectWallet =>
      simp only [handle] at h
      split at h
      · cases h; exact ⟨rfl, rfl, rfl, rfl⟩
      · cases h
  | walletEnabled k extensions =>
      simp only [handle] at h
      split at h
      · cases h; exact p.steady_walletEnabled k extensions
      · cases h
  | walletListed k accounts =>
      simp only [handle] at h
      split at h
      · cases h; exact p.steady_walletListed k accounts
      · cases h

/-! ### The balance queries -/

theorem balanceFetched_submissions (formatBalance : Nat → String → Nat → String) (k : Nat)
    (f : Fetch) (outcome : Except String (Option Nat)) :
    (p.balanceFetched formatBalance k f outcome).isSubmitting = p.isSubmitting ∧
      (p.balanceFetched formatBalance k f outcome).submissions = p.submissions := by
  unfold Page.balanceFetched
  split
  · exact ⟨rfl, rfl⟩
  · exact ⟨rfl, rfl⟩
  · exact ⟨rfl, rfl⟩

/-- No event but a submission's touches a submission. -/
theorem handle_elsewhere {e : Event} (he : e.ofSubmission = false)
    (h : handle chain formatBalance p e = some p') :
    p'.isSubmitting = p.isSubmitting ∧ p'.submissions = p.submissions := by
  cases hb : e.ofBalance with
  | false =>
      have hsteady := handle_steady he hb h
      exact ⟨hsteady.isSubmitting, hsteady.submissions⟩
  | true =>
      cases e with
      | refresh =>
          cases h
          obtain ⟨a, ha⟩ := p.fetchBalance_eq
          rw [ha]
          exact ⟨rfl, rfl⟩
      | fetched k outcome =>
          obtain ⟨f, -, rfl⟩ := Option.map_eq_some_iff.mp h
          exact balanceFetched_submissions formatBalance k f outcome
      | _ => cases hb

/-! ### The submissions -/

theorem handle_submit (h : handle chain formatBalance p .submit = some p') :
    p.SubmitEnabled ∧ p' = p.handleSubmit chain := by
  simp only [handle] at h
  split at h
  · rename_i hen
    cases h
    exact ⟨hen, rfl⟩
  · cases h

theorem handle_injected {k : Nat} {injector : Except String Unit}
    (h : handle chain formatBalance p (.injected k injector) = some p') :
    ∃ s source, p.submissions[k]? = some s ∧ s.stage = .injecting source ∧
      p' = p.injected chain k s injector := by
  simp only [handle] at h
  split at h
  · rename_i s hs
    split at h
    · rename_i source hstage
      cases h
      exact ⟨s, source, hs, hstage, rfl⟩
    · cases h
  · cases h

theorem handle_sent {k : Nat} {unsub : Except String Unit}
    (h : handle chain formatBalance p (.sent k unsub) = some p') :
    ∃ s account, p.submissions[k]? = some s ∧ s.stage = .sending account ∧
      p' = p.sent k s unsub := by
  simp only [handle] at h
  split at h
  · rename_i s hs
    split at h
    · rename_i account hstage
      cases h
      exact ⟨s, account, hs, hstage, rfl⟩
    · cases h
  · cases h

theorem handle_notified {k : Nat} {result : TxResult}
    (h : handle chain formatBalance p (.notified k result) = some p') :
    ∃ s unsubs, p.submissions[k]? = some s ∧ s.stage = .subscribed unsubs ∧
      p' = p.notified chain k s unsubs result := by
  simp only [handle] at h
  split at h
  · rename_i s hs
    split at h
    · rename_i unsubs hstage
      cases h
      exact ⟨s, unsubs, hs, hstage, rfl⟩
    · cases h
  · cases h

end

end SubstrateDevTemplate.Transfer
