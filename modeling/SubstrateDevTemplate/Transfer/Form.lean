import SubstrateDevTemplate.Transfer.Balance
import SubstrateDevTemplate.Transfer.Frames

/-!
# Transfer — the form

Where the form's two texts come from.  A recipient is typed.  An amount is typed, or it is what a
percentage button makes of the free balance that has been fetched.  A transfer that is finalized
clears both, and nothing is submitted without both.

* `lastRecipient`, `LastAmount`, `lastBalance`: what the history of events says was entered and
  fetched last.
* `handle_entry`: no other event enters a text.
* `Filled.handle`, `Filled.flush`: what the form holds was entered last, and so was fetched the
  balance.

The invariant is `Filled`.
-/

namespace SubstrateDevTemplate.Transfer
open Service (ApiPromise)

/-! ### The history -/

/-- The recipient that was typed last, the latest event first. -/
def lastRecipient : List Event → Option String
  | [] => none
  | .recipientChange recipient :: _ => some recipient
  | _ :: past => lastRecipient past

/-- The free balance that was fetched last. -/
def lastBalance : List Event → Option Nat
  | [] => none
  | .fetched _ (.ok (some free)) :: _ => some free
  | _ :: past => lastBalance past

/-- The amount is the one entered last: it was typed, or it is what a percentage button made of the
free balance fetched last. -/
def LastAmount (amount : List Char) : List Event → Prop
  | [] => False
  | .amountChange typed :: _ => amount = typed
  | .percentage percent :: past => ∃ rawBalance tokenDecimals,
      lastBalance past = some rawBalance ∧ amount = percentAmount rawBalance tokenDecimals percent
  | _ :: past => LastAmount amount past

/-- The event enters a text, or fetches a balance. -/
def Event.enters : Event → Bool
  | .recipientChange _ | .amountChange _ | .percentage _ | .fetched _ _ => true
  | _ => false

theorem lastRecipient_cons {e : Event} (he : e.enters = false) (past : List Event) :
    lastRecipient (e :: past) = lastRecipient past := by
  cases e with
  | recipientChange | amountChange | percentage | fetched => cases he
  | _ => rfl

theorem lastBalance_cons {e : Event} (he : e.enters = false) (past : List Event) :
    lastBalance (e :: past) = lastBalance past := by
  cases e with
  | recipientChange | amountChange | percentage | fetched => cases he
  | _ => rfl

theorem lastAmount_cons {e : Event} (he : e.enters = false) (amount : List Char)
    (past : List Event) : LastAmount amount (e :: past) ↔ LastAmount amount past := by
  cases e with
  | recipientChange | amountChange | percentage | fetched => cases he
  | _ => exact Iff.rfl

/-! ### What an event does -/

/-- The form's two texts. -/
def Page.entry (p : Page) : String × List Char := (p.recipient, p.amount)

section
variable {chain : ApiPromise → Chain} {formatBalance : Nat → String → Nat → String} {p p' : Page}

variable (chain p) in
/-- A click leaves the form. -/
theorem entry_handleSubmit : (p.handleSubmit chain).entry = p.entry := by
  unfold Page.handleSubmit
  split
  · rfl
  · split
    · rfl
    · split
      · rfl
      · split
        · rfl
        · rfl

variable (chain p) in
theorem entry_injected (k : Nat) (s : Submission) (injector : Except String Unit) :
    (p.injected chain k s injector).entry = p.entry := by
  unfold Page.injected
  split
  · rfl
  · split
    · rfl
    · rfl

variable (p) in
theorem entry_sent (k : Nat) (s : Submission) (unsub : Except String Unit) :
    (p.sent k s unsub).entry = p.entry := by
  unfold Page.sent
  split
  · rfl
  · rfl

variable (chain p) in
/-- A notification leaves the form, or clears it. -/
theorem entry_notified (k : Nat) (s : Submission) (unsubs : Nat) (result : TxResult) :
    (p.notified chain k s unsubs result).entry = p.entry ∨
      (p.notified chain k s unsubs result).entry = ("", []) := by
  unfold Page.notified
  split
  · exact .inl rfl
  · split
    · exact .inr rfl
    · split
      · exact .inl rfl
      · exact .inl rfl
  · exact .inl rfl

/-- An event of a submission leaves the form, or clears it. -/
theorem handle_sending {e : Event} (he : e.ofSubmission = true)
    (h : handle chain formatBalance p e = some p') : p'.entry = p.entry ∨ p'.entry = ("", []) := by
  cases e with
  | submit =>
      obtain ⟨-, rfl⟩ := handle_submit h
      exact .inl (entry_handleSubmit chain p)
  | injected k injector =>
      obtain ⟨s, source, -, -, rfl⟩ := handle_injected h
      exact .inl (entry_injected chain p k s injector)
  | sent k unsub =>
      obtain ⟨s, account, -, -, rfl⟩ := handle_sent h
      exact .inl (entry_sent p k s unsub)
  | notified k result =>
      obtain ⟨s, unsubs, -, -, rfl⟩ := handle_notified h
      exact entry_notified chain p k s unsubs result
  | context | accountChange | recipientChange | amountChange | percentage | refresh | fetched
  | connectWallet | walletEnabled | walletListed => cases he

/-- **An event that enters nothing** leaves the form, or clears it. -/
theorem handle_entry {e : Event} (he : e.enters = false)
    (h : handle chain formatBalance p e = some p') : p'.entry = p.entry ∨ p'.entry = ("", []) := by
  cases handle_moves h with
  | context | selected | connecting | fetching => exact .inl rfl
  | recipientTyped | amountTyped | shared => cases he
  | @enabled k extensions hk =>
      obtain ⟨w, hw⟩ := p.walletEnabled_eq k extensions
      rw [hw]
      exact .inl rfl
  | @listed k accounts hk =>
      obtain ⟨w, hw⟩ := p.walletListed_eq k accounts
      rw [hw]
      exact .inl rfl
  | sending b hs => exact handle_sending hs h

/-- It has no balance but the one that was there. -/
theorem handle_balanceRaw {e : Event} (he : e.enters = false)
    (h : handle chain formatBalance p e = some p') :
    p'.balanceRaw = none ∨ p'.balanceRaw = p.balanceRaw := by
  by_cases hr : e = .refresh
  · subst hr
    cases h
    exact p.fetchBalance_balance.imp id And.left
  · have hf : ∀ k outcome, e ≠ .fetched k outcome := by
      rintro k outcome rfl
      cases he
    exact .inr (handle_balance hf hr h).1

/-! ### The invariant -/

/-- What the form holds was entered last, and the balance was fetched last. -/
structure Filled (past : List Event) (p : Page) : Prop where
  recipient : p.recipient = "" ∨ lastRecipient past = some p.recipient
  amount : p.amount = [] ∨ LastAmount p.amount past
  balance : p.balanceRaw = none ∨ lastBalance past = p.balanceRaw

variable {past : List Event}

namespace Filled

/-- An event that enters nothing. -/
theorem other {e : Event} (hp : Filled past p) (he : e.enters = false)
    (h : handle chain formatBalance p e = some p') : Filled (e :: past) p' := by
  have hbalance : p'.balanceRaw = none ∨ lastBalance (e :: past) = p'.balanceRaw := by
    rw [lastBalance_cons he]
    rcases handle_balanceRaw he h with hnone | hsame
    · exact .inl hnone
    · rw [hsame]
      exact hp.balance
  rcases handle_entry he h with hsame | hclear
  · obtain ⟨hr, ha⟩ := Prod.mk.inj hsame
    refine ⟨?_, ?_, hbalance⟩
    · rw [lastRecipient_cons he, show p'.recipient = p.recipient from hr]
      exact hp.recipient
    · rw [lastAmount_cons he, show p'.amount = p.amount from ha]
      exact hp.amount
  · obtain ⟨hr, ha⟩ := Prod.mk.inj hclear
    exact ⟨.inl hr, .inl ha, hbalance⟩

/-- A balance that arrives, or does not. -/
theorem fetched {k : Nat} {outcome : Except String (Option Nat)} (hp : Filled past p)
    (h : handle chain formatBalance p (.fetched k outcome) = some p') :
    Filled (.fetched k outcome :: past) p' := by
  obtain ⟨f, -, rfl⟩ := Option.map_eq_some_iff.mp h
  cases outcome with
  | error message => exact ⟨hp.recipient, hp.amount, .inl rfl⟩
  | ok free =>
      cases free with
      | none => exact ⟨hp.recipient, hp.amount, hp.balance⟩
      | some free => exact ⟨hp.recipient, hp.amount, .inr rfl⟩

/-- **One event.** -/
theorem handle {e : Event} (hp : Filled past p) (h : handle chain formatBalance p e = some p') :
    Filled (e :: past) p' := by
  cases he : e.enters with
  | false => exact hp.other he h
  | true =>
      cases e with
      | fetched k outcome => exact hp.fetched h
      | recipientChange recipient =>
          cases handle_moves h with
          | recipientTyped => exact ⟨.inr rfl, hp.amount, hp.balance⟩
          | fetching a hb => cases hb
          | sending b hs => cases hs
      | amountChange amount =>
          cases handle_moves h with
          | amountTyped => exact ⟨hp.recipient, .inr rfl, hp.balance⟩
          | fetching a hb => cases hb
          | sending b hs => cases hs
      | percentage percent =>
          cases handle_moves h with
          | @shared _ rawBalance hraw =>
              have hlast : lastBalance past = some rawBalance := by
                rw [← hraw]
                exact hp.balance.resolve_left (by rw [hraw]; exact Option.some_ne_none rawBalance)
              exact ⟨hp.recipient, .inr ⟨rawBalance, p.tokenDecimals, hlast, rfl⟩, hp.balance⟩
          | fetching a hb => cases hb
          | sending b hs => cases hs
      | context | accountChange | refresh | connectWallet | walletEnabled | walletListed | submit
      | injected | sent | notified => cases he

/-- An event that enters nothing may be left out of the history. -/
theorem of_cons {e : Event} (he : e.enters = false) (hp : Filled (e :: past) p) :
    Filled past p where
  recipient := lastRecipient_cons he past ▸ hp.recipient
  amount := hp.amount.imp id (lastAmount_cons he p.amount past).mp
  balance := lastBalance_cons he past ▸ hp.balance

/-- The effects leave the form; they clear the balance, or leave it too. -/
theorem flush {before : Page} (hp : Filled past p) : Filled past (flush chain before p) := by
  obtain ⟨a, ha⟩ := flush_eq chain before p
  have hbalance : (Transfer.flush chain before p).balanceRaw = none ∨
      (Transfer.flush chain before p).balanceRaw = p.balanceRaw :=
    (p.runEffects_balance chain (p.balanceDeps ≠ before.balanceDeps)
      (p.api ≠ before.api ∨ p.isApiReady ≠ before.isApiReady)).imp id And.left
  rw [ha] at hbalance ⊢
  refine ⟨hp.recipient, hp.amount, ?_⟩
  rcases hbalance with hnone | hsame
  · exact .inl hnone
  · rw [hsame]
    exact hp.balance

/-- **One event, with its effects.** -/
theorem step {e : Event} (hp : Filled past p) (h : step chain formatBalance p e = some p') :
    Filled (e :: past) p' := by
  obtain ⟨p₁, hh, rfl⟩ := Option.map_eq_some_iff.mp h
  exact (hp.handle hh).flush

variable (chain) in
/-- A page that is mounted has an empty form. -/
theorem mount (api : Option ApiPromise) (isApiReady : Bool) :
    Filled [] (.mount chain api isApiReady) := by
  obtain ⟨a, ha⟩ := (Page.init api isApiReady).runEffects_eq chain true true
  have hnone : (Page.mount chain api isApiReady).balanceRaw = none := by
    rcases (Page.init api isApiReady).runEffects_balance chain true true with hnone | ⟨hsame, -⟩
    · exact hnone
    · exact hsame
  rw [Page.mount, ha] at hnone ⊢
  exact ⟨.inl rfl, .inl rfl, .inl hnone⟩

end Filled

end

end SubstrateDevTemplate.Transfer
