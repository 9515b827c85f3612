import SubstrateDevTemplate.Transfer.Steps

/-!
# Transfer — Frames

What an event changes of the page, and what it leaves alone.  An event of a submission changes the
submissions with their part of the page (`Sending`), and nothing else; a connection to the wallet
changes the wallet's (`Linking`).

* `handleSubmit_eq`, `injected_eq`, `sent_eq`, `notified_eq`: each of the handlers.
* `handle_ofSubmission`: every event of a submission.
* `handle_moves`: each way an event changes the page.
* `handle_closures`: what the submissions have captured stays, and a click adds the form.
-/

namespace SubstrateDevTemplate.Transfer
open Service (ApiPromise)
open Extrinsics (Account)
open Decimal (Fraction)

/-- A submission as its closure has it, wherever it is. -/
def Submission.closure (s : Submission) : Submission := { s with stage := .failed }

@[simp] theorem closure_stage (s : Submission) (stage : Extrinsics.SubmissionStage) :
    ({ s with stage := stage } : Submission).closure = s.closure := rfl

/-- The form's two texts, the submissions, and what they show. -/
structure Sending where
  recipient : String
  amount : List Char
  isSubmitting : Bool
  status : StatusMessage
  txHash : Option String
  blockHash : Option String
  submissions : List Submission

namespace Page

/-- The page with another form and other submissions. -/
def withSending (p : Page) (b : Sending) : Page :=
  { p with
    recipient := b.recipient
    amount := b.amount
    isSubmitting := b.isSubmitting
    status := b.status
    txHash := b.txHash
    blockHash := b.blockHash
    submissions := b.submissions }

section
variable (chain : ApiPromise → Chain) (p : Page)

theorem handleSubmit_eq : ∃ b, p.handleSubmit chain = p.withSending b := by
  unfold handleSubmit
  split
  · exact ⟨⟨_, _, _, _, _, _, _⟩, rfl⟩
  · split
    · exact ⟨⟨_, _, _, _, _, _, _⟩, rfl⟩
    · split
      · exact ⟨⟨_, _, _, _, _, _, _⟩, rfl⟩
      · split
        · exact ⟨⟨_, _, _, _, _, _, _⟩, rfl⟩
        · exact ⟨⟨_, _, _, _, _, _, _⟩, rfl⟩

theorem injected_eq (k : Nat) (s : Submission) (injector : Except String Unit) :
    ∃ b, p.injected chain k s injector = p.withSending b := by
  unfold injected
  split
  · exact ⟨⟨_, _, _, _, _, _, _⟩, rfl⟩
  · split
    · exact ⟨⟨_, _, _, _, _, _, _⟩, rfl⟩
    · exact ⟨⟨_, _, _, _, _, _, _⟩, rfl⟩

theorem sent_eq (k : Nat) (s : Submission) (unsub : Except String Unit) :
    ∃ b, p.sent k s unsub = p.withSending b := by
  unfold sent
  split
  · exact ⟨⟨_, _, _, _, _, _, _⟩, rfl⟩
  · exact ⟨⟨_, _, _, _, _, _, _⟩, rfl⟩

theorem notified_eq (k : Nat) (s : Submission) (unsubs : Nat) (result : TxResult) :
    ∃ b, p.notified chain k s unsubs result = p.withSending b := by
  unfold notified
  split
  · exact ⟨⟨_, _, _, _, _, _, _⟩, rfl⟩
  · split
    · exact ⟨⟨_, _, _, _, _, _, _⟩, rfl⟩
    · split
      · exact ⟨⟨_, _, _, _, _, _, _⟩, rfl⟩
      · exact ⟨⟨_, _, _, _, _, _, _⟩, rfl⟩
  · exact ⟨⟨_, _, _, _, _, _, _⟩, rfl⟩

end

end Page

/-! ### What an event does -/

/-- The wallet's part of the page, and what it shows. -/
structure Linking where
  accounts : List Account
  selectedAccount : String
  isConnecting : Bool
  status : StatusMessage
  wallets : List Extrinsics.WalletStage

namespace Page

/-- The page with another wallet. -/
def withLinking (p : Page) (w : Linking) : Page :=
  { p with
    accounts := w.accounts
    selectedAccount := w.selectedAccount
    isConnecting := w.isConnecting
    status := w.status
    wallets := w.wallets }

theorem walletEnabled_eq (p : Page) (k : Nat) (extensions : Except String Nat) :
    ∃ w, p.walletEnabled k extensions = p.withLinking w := by
  unfold walletEnabled
  split
  · exact ⟨⟨_, _, _, _, _⟩, rfl⟩
  · exact ⟨⟨_, _, _, _, _⟩, rfl⟩
  · exact ⟨⟨_, _, _, _, _⟩, rfl⟩

theorem walletListed_eq (p : Page) (k : Nat) (accounts : Except String (List Account)) :
    ∃ w, p.walletListed k accounts = p.withLinking w := by
  unfold walletListed
  split
  · exact ⟨⟨_, _, _, _, _⟩, rfl⟩
  · exact ⟨⟨_, _, _, _, _⟩, rfl⟩
  · exact ⟨⟨_, _, _, _, _⟩, rfl⟩

end Page

/-- **Each way an event changes the page**, before the effects. -/
inductive Moves (p : Page) : Event → Page → Prop where
  | context (api : Option ApiPromise) (isApiReady : Bool) :
      Moves p (.context api isApiReady) { p with api := api, isApiReady := isApiReady }
  | selected {address : String} (h : address ∈ p.accounts.map Account.address) :
      Moves p (.accountChange address) { p with selectedAccount := address }
  | recipientTyped (recipient : String) :
      Moves p (.recipientChange recipient) { p with recipient := recipient }
  | amountTyped (amount : List Char) : Moves p (.amountChange amount) { p with amount := amount }
  | shared (percent : Fraction) {rawBalance : Nat} (h : p.balanceRaw = some rawBalance) :
      Moves p (.percentage percent)
        { p with amount := percentAmount rawBalance p.tokenDecimals percent }
  | connecting (hnone : p.accounts = []) (hclear : p.isConnecting = false) :
      Moves p .connectWallet p.connectWallet
  | enabled {k : Nat} (extensions : Except String Nat) (hk : p.wallets[k]? = some .enabling) :
      Moves p (.walletEnabled k extensions) (p.walletEnabled k extensions)
  | listed {k : Nat} (accounts : Except String (List Account))
      (hk : p.wallets[k]? = some .listing) :
      Moves p (.walletListed k accounts) (p.walletListed k accounts)
  | fetching {e : Event} (a : Holding) (he : e.ofBalance = true)
      (htoken : a.tokenSymbol = p.tokenSymbol ∧ a.tokenDecimals = p.tokenDecimals) :
      Moves p e (p.withHolding a)
  | sending {e : Event} (b : Sending) (he : e.ofSubmission = true) : Moves p e (p.withSending b)

section
variable {chain : ApiPromise → Chain} {formatBalance : Nat → String → Nat → String} {p p' : Page}

/-- **An event of a submission** changes the submissions' part only. -/
theorem handle_ofSubmission {e : Event} (he : e.ofSubmission = true)
    (h : handle chain formatBalance p e = some p') : ∃ b, p' = p.withSending b := by
  cases e with
  | submit =>
      obtain ⟨-, rfl⟩ := handle_submit h
      exact p.handleSubmit_eq chain
  | injected k injector =>
      obtain ⟨s, source, -, -, rfl⟩ := handle_injected h
      exact p.injected_eq chain k s injector
  | sent k unsub =>
      obtain ⟨s, account, -, -, rfl⟩ := handle_sent h
      exact p.sent_eq k s unsub
  | notified k result =>
      obtain ⟨s, unsubs, -, -, rfl⟩ := handle_notified h
      exact p.notified_eq chain k s unsubs result
  | context | accountChange | recipientChange | amountChange | percentage | refresh | fetched
  | connectWallet | walletEnabled | walletListed => cases he

/-- An event of a balance query changes the balance's part only. -/
theorem handle_ofBalance {e : Event} (he : e.ofBalance = true)
    (h : handle chain formatBalance p e = some p') : ∃ a, p' = p.withHolding a ∧
      a.tokenSymbol = p.tokenSymbol ∧ a.tokenDecimals = p.tokenDecimals := by
  cases e with
  | refresh =>
      cases h
      unfold Page.fetchBalance
      split
      · exact ⟨⟨_, _, _, _, _⟩, rfl, rfl, rfl⟩
      · split
        · exact ⟨⟨_, _, _, _, _⟩, rfl, rfl, rfl⟩
        · exact ⟨⟨_, _, _, _, _⟩, rfl, rfl, rfl⟩
  | fetched k outcome =>
      obtain ⟨f, -, rfl⟩ := Option.map_eq_some_iff.mp h
      unfold Page.balanceFetched
      split
      · exact ⟨⟨_, _, _, _, _⟩, rfl, rfl, rfl⟩
      · exact ⟨⟨_, _, _, _, _⟩, rfl, rfl, rfl⟩
      · exact ⟨⟨_, _, _, _, _⟩, rfl, rfl, rfl⟩
  | context | accountChange | recipientChange | amountChange | percentage | connectWallet
  | walletEnabled | walletListed | submit | injected | sent | notified => cases he

theorem handle_moves {e : Event} (h : handle chain formatBalance p e = some p') : Moves p e p' := by
  cases e with
  | submit | injected | sent | notified =>
      obtain ⟨b, rfl⟩ := handle_ofSubmission rfl h
      exact .sending b rfl
  | refresh | fetched =>
      obtain ⟨a, rfl, htoken⟩ := handle_ofBalance rfl h
      exact .fetching a rfl htoken
  | context api isApiReady => cases h; exact .context api isApiReady
  | accountChange address =>
      simp only [handle] at h
      split at h
      · rename_i hmem
        cases h
        exact .selected hmem
      · cases h
  | recipientChange recipient =>
      simp only [handle] at h
      split at h
      · cases h
      · cases h; exact .recipientTyped recipient
  | amountChange amount =>
      simp only [handle] at h
      split at h
      · cases h
      · cases h; exact .amountTyped amount
  | percentage percent =>
      simp only [handle] at h
      split at h
      · cases h
      · rename_i hen
        cases h
        unfold Page.setPercentage
        split
        · rename_i hnone
          exact absurd (.inr hnone) hen
        · rename_i rawBalance hraw
          exact .shared percent hraw
  | connectWallet =>
      simp only [handle] at h
      split at h
      · rename_i hen
        cases h
        exact .connecting hen.1 hen.2
      · cases h
  | walletEnabled k extensions =>
      simp only [handle] at h
      split at h
      · rename_i hk
        cases h
        exact .enabled extensions hk
      · cases h
  | walletListed k accounts =>
      simp only [handle] at h
      split at h
      · rename_i hk
        cases h
        exact .listed accounts hk
      · cases h

/-! ### What the submissions have captured -/

/-- What a submission that is clicked captures. -/
def Page.clicked (p : Page) (api : ApiPromise) : Submission where
  api := api
  selectedAccount := p.selectedAccount
  recipient := p.recipient
  amount := p.amount
  tokenDecimals := p.tokenDecimals
  stage := .failed

/-- What the submissions under way have captured. -/
def Page.closures (p : Page) : List Submission := p.submissions.map Submission.closure

theorem closures_setSubmission {k : Nat} {s : Submission} (hs : p.submissions[k]? = some s)
    (stage : Extrinsics.SubmissionStage) : (p.setSubmission k s stage).closures = p.closures := by
  obtain ⟨hk, rfl⟩ := List.getElem?_eq_some_iff.mp hs
  have hk' : k < (p.submissions.map Submission.closure).length := by simpa using hk
  have heq : (p.submissions.map Submission.closure)[k] = p.submissions[k].closure :=
    List.getElem_map _
  rw [Page.closures, Page.setSubmission, List.map_set, closure_stage, ← heq, List.set_getElem_self]
  rfl

/-- Each handler of a submission moves it on. -/
theorem closures_injected {k : Nat} {s : Submission} (hs : p.submissions[k]? = some s)
    (injector : Except String Unit) : (p.injected chain k s injector).closures = p.closures := by
  have hset := closures_setSubmission hs
  unfold Page.injected
  split
  · exact hset .failed
  · split
    · exact hset .failed
    · exact hset _

theorem closures_sent {k : Nat} {s : Submission} (hs : p.submissions[k]? = some s)
    (unsub : Except String Unit) : (p.sent k s unsub).closures = p.closures := by
  have hset := closures_setSubmission hs
  unfold Page.sent
  split
  · exact hset .failed
  · exact hset _

theorem closures_notified {k : Nat} {s : Submission} (hs : p.submissions[k]? = some s)
    (unsubs : Nat) (result : TxResult) :
    (p.notified chain k s unsubs result).closures = p.closures := by
  have hset := closures_setSubmission hs
  unfold Page.notified
  split
  · rfl
  · split
    · exact hset _
    · split
      · rfl
      · exact hset _
  · rfl

variable (chain p) in
/-- A click captures the form, and waits for the injector of its account; or it fails. -/
theorem submissions_handleSubmit : (p.handleSubmit chain).submissions = p.submissions ∨
    ∃ api account, p.api = some api ∧ p.isApiReady = true ∧ account ∈ p.accounts ∧
      account.address = p.selectedAccount ∧ (p.handleSubmit chain).submissions =
        p.submissions ++ [{ p.clicked api with stage := .injecting account.source }] := by
  unfold Page.handleSubmit
  split
  · exact .inl rfl
  · rename_i api hapi
    split
    · exact .inl rfl
    · rename_i hready
      split
      · exact .inl rfl
      · split
        · exact .inl rfl
        · rename_i account hfound
          exact .inr ⟨api, account, hapi, by simpa using fun h => hready (.inl h),
            List.mem_of_find?_eq_some hfound, by simpa using List.find?_some hfound, rfl⟩

variable (chain p) in
theorem closures_handleSubmit : (p.handleSubmit chain).closures = p.closures ∨
    ∃ api, p.api = some api ∧ p.isApiReady = true ∧
      p.selectedAccount ∈ p.accounts.map Account.address ∧
      (p.handleSubmit chain).closures = p.closures ++ [p.clicked api] := by
  rcases submissions_handleSubmit chain p with hsame | ⟨api, account, hapi, hready, hmem, heq, hs⟩
  · exact .inl (congrArg (List.map Submission.closure) hsame)
  · refine .inr ⟨api, hapi, hready, heq ▸ List.mem_map_of_mem hmem, ?_⟩
    rw [Page.closures, hs, List.map_append]
    rfl

/-- **What is captured, stays**; a click adds the form. -/
theorem handle_closures {e : Event} (h : handle chain formatBalance p e = some p') :
    p'.closures = p.closures ∨ ∃ api, e = .submit ∧ p.SubmitEnabled ∧ p.api = some api ∧
      p.isApiReady = true ∧ p.selectedAccount ∈ p.accounts.map Account.address ∧
      p'.closures = p.closures ++ [p.clicked api] := by
  cases he : e.ofSubmission with
  | false => exact .inl (congrArg (List.map Submission.closure) (handle_elsewhere he h).2)
  | true =>
      cases e with
      | submit =>
          obtain ⟨hen, rfl⟩ := handle_submit h
          rcases closures_handleSubmit chain p with hsame | ⟨api, ha, hr, hmem, hc⟩
          · exact .inl hsame
          · exact .inr ⟨api, rfl, hen, ha, hr, hmem, hc⟩
      | injected k injector =>
          obtain ⟨s, source, hs, -, rfl⟩ := handle_injected h
          exact .inl (closures_injected hs injector)
      | sent k unsub =>
          obtain ⟨s, account, hs, -, rfl⟩ := handle_sent h
          exact .inl (closures_sent hs unsub)
      | notified k result =>
          obtain ⟨s, unsubs, hs, -, rfl⟩ := handle_notified h
          exact .inl (closures_notified hs unsubs result)
      | context | accountChange | recipientChange | amountChange | percentage | refresh | fetched
      | connectWallet | walletEnabled | walletListed => cases he

end

end SubstrateDevTemplate.Transfer
