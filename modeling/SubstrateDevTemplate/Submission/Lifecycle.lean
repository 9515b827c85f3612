import SubstrateDevTemplate.Submission.Protocol
import SubstrateDevTemplate.Extrinsics.Steps
import SubstrateDevTemplate.Transfer.Steps

/-!
# Submission — Lifecycle

The two pages against the protocol.  The Extrinsics page keeps it, with every status a transaction
can have.  The Transfer page's callback ends a submission at `Finalized` only, and not even there
if the error of the dispatch cannot be decoded: after any other terminal status the page is
`Sending...` for good, and its subscription stays open.

* `Extrinsics.step_protocol`, `Transfer.step_protocol`: one event of a page is a step of the
  protocol; on the Transfer page, of those events that it handles.
* `submission_lifecycle`: the lifecycle of both pages.
* `unhandled_not_lifecycle`: any notification that the Transfer page does not handle breaks it.
-/

namespace SubstrateDevTemplate
open Service (ApiPromise)
open Submission (Delivery Deliverable Desk Lifecycle Step)
open Extrinsics (SubmissionStage)
open Transition (Run)

/-! ### The Extrinsics page -/

namespace Extrinsics

/-- The page's submissions. -/
def Page.desk (p : Page) : Desk := ⟨p.isSubmitting, p.submissions.map Submission.stage⟩

/-- The status an event delivers. -/
def Event.delivery : Event → Option Delivery
  | .notified k result => some ⟨k, result.status⟩
  | _ => none

/-- `isError` is that of the status. -/
def Reported (_ : Page) : Event → Prop
  | .notified _ result => result.isError = result.status.isError
  | _ => True

instance (p : Page) : (e : Event) → Decidable (Reported p e)
  | .notified _ result => inferInstanceAs (Decidable (result.isError = result.status.isError))
  | .moduleChange _ | .methodChange _ _ | .paramChange _ _ | .accountChange _ | .connectWallet
  | .walletEnabled _ _ | .walletListed _ _ | .submit | .injected _ _ | .sent _ _ => isTrue trivial

namespace Page
variable {p : Page}

/-- A submission that is started is the protocol's start, unless it fails at once. -/
theorem handleSubmit_protocol (h : p.SubmitEnabled) : Step p.desk none p.handleSubmit.desk := by
  have hfree : p.isSubmitting = false := h.1
  unfold handleSubmit desk
  split
  · exact .other _
  · split
    · rw [hfree]
      exact .other _
    · simp only [resetTxState, hfree]
      exact .ofStart rfl

theorem injected_protocol (api : Api) {k : Nat} {s : Submission} {source : String}
    (hs : p.submissions[k]? = some s) (hstage : s.stage = .injecting source)
    (r : Except String Unit) : Step p.desk none (p.injected api k s r).desk := by
  cases r with
  | error message => exact .ofFailInject hs hstage rfl
  | ok u =>
      simp only [injected]
      split
      · exact .ofFailInject hs hstage rfl
      · exact .ofInject hs hstage rfl

theorem sent_protocol {k : Nat} {s : Submission} {account : String}
    (hs : p.submissions[k]? = some s) (hstage : s.stage = .sending account)
    (r : Except String Unit) : Step p.desk none (p.sent k s r).desk := by
  cases r with
  | error message => exact .ofSent hs hstage (.inl ⟨rfl, rfl⟩)
  | ok u => exact .ofSent hs hstage (.inr ⟨rfl, rfl⟩)

/-- Finalized ends a submission, and so does each error. -/
theorem notified_protocol {k : Nat} {s : Submission} {unsubs : Nat} {result : TxResult}
    (hs : p.submissions[k]? = some s) (hstage : s.stage = .subscribed unsubs)
    (hr : result.isError = result.status.isError) :
    Step p.desk (some ⟨k, result.status⟩) (p.notified k s unsubs result).desk := by
  unfold notified
  split
  · rename_i hash hstatus
    rw [hstatus]
    exact .ofTell hs hstage rfl
  · rename_i hash hstatus
    rw [hstatus]
    exact .ofFinish hs hstage rfl rfl
  · rename_i hblock hfinal
    have hterm : result.status.isTerminal = result.status.isError := by
      cases hst : result.status with
      | finalized hash => exact absurd hst (hfinal hash)
      | _ => rfl
    rw [hr, ← hterm]
    split
    · rename_i ht
      exact .ofFinish hs hstage rfl ht
    · rename_i ht
      exact .ofTell hs hstage (Bool.eq_false_iff.mpr ht)

end Page

theorem flush_desk (api : Api) (e : Event) (before p : Page) :
    (flush api e before p).desk = p.desk := by
  obtain ⟨params, values, hflush⟩ := flush_eq api e before p
  rw [hflush]
  rfl

/-- **One event of the page is a step of the protocol.** -/
theorem step_protocol (api : Api) (p : Page) (e : Event) (p' : Page) (g : Reported p e)
    (h : step api p e = some p') : Step p.desk e.delivery p'.desk := by
  obtain ⟨q, hq, rfl⟩ := Option.map_eq_some_iff.mp h
  rw [flush_desk]
  cases he : e.ofSubmission with
  | false =>
      obtain ⟨h₁, h₂⟩ := handle_elsewhere he hq
      refine .ofOther (by rw [Page.desk, Page.desk, h₁, h₂]) ?_
      cases e with
      | notified k result => cases he
      | _ => rfl
  | true =>
      cases e with
      | submit =>
          obtain ⟨hen, rfl⟩ := handle_submit hq
          exact Page.handleSubmit_protocol hen
      | injected k injector =>
          obtain ⟨s, source, hs, hstage, rfl⟩ := handle_injected hq
          exact Page.injected_protocol api hs hstage injector
      | sent k unsub =>
          obtain ⟨s, account, hs, hstage, rfl⟩ := handle_sent hq
          exact Page.sent_protocol hs hstage unsub
      | notified k result =>
          obtain ⟨s, unsubs, hs, hstage, rfl⟩ := handle_notified hq
          exact Page.notified_protocol hs hstage g
      | _ => cases he

end Extrinsics

/-! ### The Transfer page -/

namespace Transfer

/-- The page's submissions. -/
def Page.desk (p : Page) : Desk := ⟨p.isSubmitting, p.submissions.map Submission.stage⟩

/-- The status an event delivers. -/
def Event.delivery : Event → Option Delivery
  | .notified k result => some ⟨k, result.status⟩
  | _ => none

/-- The status callback comes to its end where one is due: no error status, and no error of a
dispatch that cannot be decoded. -/
def Chain.completes (chain : Chain) (result : TxResult) : Bool :=
  match result.status, result.dispatchError with
  | .finalized _, some dispatchError => (chain.errorMessage dispatchError).isOk
  | status, _ => !status.isError

/-- The notifications the page handles. -/
def Handled (chain : ApiPromise → Chain) (p : Page) : Event → Prop
  | .notified k result => (p.submissions[k]?).all fun s => (chain s.api).completes result
  | _ => True

instance (chain : ApiPromise → Chain) (p : Page) : (e : Event) → Decidable (Handled chain p e)
  | .notified k result =>
      inferInstanceAs (Decidable
        ((p.submissions[k]?).all (fun s => (chain s.api).completes result) = true))
  | .context _ _ | .accountChange _ | .recipientChange _ | .amountChange _ | .percentage _
  | .refresh | .fetched _ _ | .connectWallet | .walletEnabled _ _ | .walletListed _ _ | .submit
  | .injected _ _ | .sent _ _ => isTrue trivial

namespace Page
variable {chain : ApiPromise → Chain} {p : Page}

/-- A submission that is started is the protocol's start, unless it fails at once. -/
theorem handleSubmit_protocol (h : p.SubmitEnabled) :
    Step p.desk none (p.handleSubmit chain).desk := by
  have hfree : p.isSubmitting = false := h.2.1
  unfold handleSubmit
  split
  · exact .other _
  · split
    · exact .other _
    · split
      · unfold desk
        rw [hfree]
        exact .other _
      · split
        · unfold desk
          rw [hfree]
          exact .other _
        · simp only [desk, resetTxState, hfree]
          exact .ofStart rfl

theorem injected_protocol {k : Nat} {s : Submission} {source : String}
    (hs : p.submissions[k]? = some s) (hstage : s.stage = .injecting source)
    (r : Except String Unit) : Step p.desk none (p.injected chain k s r).desk := by
  cases r with
  | error message => exact .ofFailInject hs hstage rfl
  | ok u =>
      simp only [injected]
      split
      · exact .ofFailInject hs hstage rfl
      · exact .ofInject hs hstage rfl

theorem sent_protocol {k : Nat} {s : Submission} {account : String}
    (hs : p.submissions[k]? = some s) (hstage : s.stage = .sending account)
    (r : Except String Unit) : Step p.desk none (p.sent k s r).desk := by
  cases r with
  | error message => exact .ofSent hs hstage (.inl ⟨rfl, rfl⟩)
  | ok u => exact .ofSent hs hstage (.inr ⟨rfl, rfl⟩)

/-- Finalized ends a submission; no error does. -/
theorem notified_protocol {k : Nat} {s : Submission} {unsubs : Nat} {result : TxResult}
    (hs : p.submissions[k]? = some s) (hstage : s.stage = .subscribed unsubs)
    (hr : (chain s.api).completes result = true) :
    Step p.desk (some ⟨k, result.status⟩) (p.notified chain k s unsubs result).desk := by
  unfold notified
  split
  · rename_i hash hstatus
    rw [hstatus]
    exact .ofTell hs hstage rfl
  · rename_i hash hstatus
    rw [hstatus]
    split
    · exact .ofFinish hs hstage rfl rfl
    · rename_i dispatchError herror
      simp only [Chain.completes, hstatus, herror] at hr
      split
      · rename_i message hm
        rw [hm] at hr
        cases hr
      · exact .ofFinish hs hstage rfl rfl
  · rename_i hblock hfinal
    have hterm : result.status.isTerminal = false := by
      cases hst : result.status with
      | finalized hash => exact absurd hst (hfinal hash)
      | future | ready | broadcast | inBlock | retracted => rfl
      | finalityTimeout | usurped | dropped | invalid =>
          simp [Chain.completes, hst, Extrinsics.Status.isError] at hr
    exact .ofTell hs hstage hterm

end Page

section
variable {chain : ApiPromise → Chain} {formatBalance : Nat → String → Nat → String}

theorem flush_desk (before p : Page) : (flush chain before p).desk = p.desk := by
  obtain ⟨a, ha⟩ := flush_eq chain before p
  rw [ha]
  rfl

/-- **One event that the page handles is a step of the protocol.** -/
theorem step_protocol (p : Page) (e : Event) (p' : Page) (g : Handled chain p e)
    (h : step chain formatBalance p e = some p') : Step p.desk e.delivery p'.desk := by
  obtain ⟨q, hq, rfl⟩ := Option.map_eq_some_iff.mp h
  rw [flush_desk]
  cases he : e.ofSubmission with
  | false =>
      obtain ⟨h₁, h₂⟩ := handle_elsewhere he hq
      refine .ofOther (by rw [Page.desk, Page.desk, h₁, h₂]) ?_
      cases e with
      | notified k result => cases he
      | _ => rfl
  | true =>
      cases e with
      | submit =>
          obtain ⟨hen, rfl⟩ := handle_submit hq
          exact Page.handleSubmit_protocol hen
      | injected k injector =>
          obtain ⟨s, source, hs, hstage, rfl⟩ := handle_injected hq
          exact Page.injected_protocol hs hstage injector
      | sent k unsub =>
          obtain ⟨s, account, hs, hstage, rfl⟩ := handle_sent hq
          exact Page.sent_protocol hs hstage unsub
      | notified k result =>
          obtain ⟨s, unsubs, hs, hstage, rfl⟩ := handle_notified hq
          simp only [Handled, hs, Option.all_some] at g
          exact Page.notified_protocol hs hstage g
      | _ => cases he

theorem mount_desk (api : Option ApiPromise) (isApiReady : Bool) :
    (Page.mount chain api isApiReady).desk = ⟨false, []⟩ := by
  obtain ⟨a, ha⟩ := (Page.init api isApiReady).runEffects_eq chain true true
  rw [Page.mount, ha]
  rfl

/-- Where the callback does not come to its end, the submission is left as it is. -/
theorem notified_unhandled {p : Page} {k : Nat} {s : Submission} {unsubs : Nat} {result : TxResult}
    (h : (chain s.api).completes result = false) :
    (p.notified chain k s unsubs result).desk = p.desk ∧ result.status.isTerminal = true := by
  unfold Page.notified
  cases hst : result.status with
  | finalized hash =>
      cases herr : result.dispatchError with
      | none => simp [Chain.completes, hst, herr, Extrinsics.Status.isError] at h
      | some d =>
          simp only [Chain.completes, hst, herr] at h
          cases hm : (chain s.api).errorMessage d with
          | error message => simp only [hm]; exact ⟨rfl, rfl⟩
          | ok message => rw [hm] at h; cases h
  | future | ready | broadcast | inBlock | retracted =>
      simp [Chain.completes, hst, Extrinsics.Status.isError] at h
  | finalityTimeout | usurped | dropped | invalid => exact ⟨rfl, rfl⟩

/-- A notification that the page does not handle breaks the lifecycle. -/
theorem unhandled_not_lifecycle {p p' : Page} {e : Event} {ds : List Delivery}
    (hl : Submission.Inv p.desk ds) (hd : Deliverable (e.delivery.toList ++ ds))
    (h : step chain formatBalance p e = some p') (hun : ¬ Handled chain p e) :
    ¬ Lifecycle p'.desk (e.delivery.toList ++ ds) := by
  obtain ⟨q, hq, rfl⟩ := Option.map_eq_some_iff.mp h
  rw [flush_desk]
  cases e with
  | notified k result =>
      obtain ⟨s, unsubs, hs, hstage, rfl⟩ := handle_notified hq
      rw [Handled, hs, Option.all_some, Bool.not_eq_true] at hun
      obtain ⟨hsame, hterm⟩ : (p.notified chain k s unsubs result).desk = p.desk ∧ _ :=
        notified_unhandled hun
      have hk : (p.submissions.map Submission.stage)[k]? = some (.subscribed unsubs) :=
        Step.stages_getElem? hs hstage
      have hzero : unsubs = 0 := hl.subscribed k unsubs hk hd.not_ended
      intro hlife
      have hended := hlife.unsubscribed k (Submission.ended_cons.mpr (.inl ⟨rfl, hterm⟩))
      rw [hsame, Page.desk, hk, hzero] at hended
      cases hended
  | _ => exact absurd trivial hun

end

end Transfer

/-! ### Both pages -/

namespace Submission

/-- **The lifecycle of a submission.**  The Extrinsics page has it in every run; the Transfer page
has it in every run whose notifications it handles. -/
theorem submission_lifecycle (metadata : Extrinsics.Api) (chain : ApiPromise → Transfer.Chain)
    (formatBalance : Nat → String → Nat → String) (api : Option ApiPromise) (isApiReady : Bool) :
    (∀ (es : List Extrinsics.Event) (p : Extrinsics.Page),
      Run (Extrinsics.step metadata) Extrinsics.Reported .init es p →
      Deliverable (es.reverse.filterMap Extrinsics.Event.delivery) →
      Lifecycle p.desk (es.reverse.filterMap Extrinsics.Event.delivery)) ∧
    (∀ (es : List Transfer.Event) (p : Transfer.Page),
      Run (Transfer.step chain formatBalance) (Transfer.Handled chain)
        (.mount chain api isApiReady) es p →
      Deliverable (es.reverse.filterMap Transfer.Event.delivery) →
      Lifecycle p.desk (es.reverse.filterMap Transfer.Event.delivery)) := by
  constructor
  · intro es p hrun hd
    exact lifecycle_of_run (Extrinsics.step_protocol metadata) hrun rfl hd
  · intro es p hrun hd
    exact lifecycle_of_run Transfer.step_protocol hrun (Transfer.mount_desk api isApiReady) hd

/-- A chain that transfers, with no module errors. -/
def plainChain (_ : ApiPromise) : Transfer.Chain where
  chainProperties := .ok none
  balances := some ["transfer"]
  transferError _ _ _ := none
  findMetaError _ _ := .error "Unable to find Error"

/-- The Transfer page's events up to a subscription. -/
def transferSubmitted : List Transfer.Event :=
  [.connectWallet, .walletEnabled 0 (.ok 1), .walletListed 0 (.ok [⟨"5Alice", "polkadot-js"⟩]),
    .recipientChange "5Bob", .amountChange ['1'], .submit, .injected 0 (.ok ()), .sent 0 (.ok ())]

/-- The Extrinsics page's. -/
def extrinsicsSubmitted : List Extrinsics.Event :=
  [.connectWallet, .walletEnabled 0 (.ok 1), .walletListed 0 (.ok [⟨"5Alice", "polkadot-js"⟩]),
    .moduleChange "system", .methodChange "remark" [], .paramChange 0 "0x00", .submit,
    .injected 0 (.ok ()), .sent 0 (.ok ())]

/-- A dropped extrinsic, and a finalized transfer. -/
theorem submission_lifecycle_ended :
    (∃ p, Run (Extrinsics.step Extrinsics.noMetadata) Extrinsics.Reported .init
        (extrinsicsSubmitted ++ [.notified 0 ⟨.dropped, true, "0xcc", none⟩]) p ∧
      Lifecycle p.desk [⟨0, .dropped⟩]) ∧
    (∃ p, Run (Transfer.step plainChain fun free _ _ => toString free) (Transfer.Handled plainChain)
        (.mount plainChain (some ⟨0, "ws://a"⟩) true)
        (transferSubmitted ++ [.notified 0 ⟨.finalized "0xbb", none, "0xcc"⟩]) p ∧
      Lifecycle p.desk [⟨0, .finalized "0xbb"⟩]) := by
  constructor
  · refine Transition.exists_run_and (by decide) fun p hr => ?_
    have hl := (submission_lifecycle Extrinsics.noMetadata plainChain (fun free _ _ => toString free)
      none false).1 _ p hr (by decide)
    exact hl
  · refine Transition.exists_run_and (by decide) fun p hr => ?_
    have hl := (submission_lifecycle Extrinsics.noMetadata plainChain (fun free _ _ => toString free)
      (some ⟨0, "ws://a"⟩) true).2 _ p hr (by decide)
    exact hl

/-- A transfer that is dropped from the pool: the page is still submitting, and still
subscribed. -/
theorem dropped_not_lifecycle :
    ¬ ∀ (chain : ApiPromise → Transfer.Chain) (formatBalance : Nat → String → Nat → String)
      (api : Option ApiPromise) (isApiReady : Bool) (es : List Transfer.Event) (p : Transfer.Page),
      Run (Transfer.step chain formatBalance) Transition.anyEvent
        (.mount chain api isApiReady) es p →
      Deliverable (es.reverse.filterMap Transfer.Event.delivery) →
      Lifecycle p.desk (es.reverse.filterMap Transfer.Event.delivery) := by
  intro h
  obtain ⟨p, hr, hstage⟩ : ∃ p, Run (Transfer.step plainChain fun free _ _ => toString free)
      Transition.anyEvent (.mount plainChain (some ⟨0, "ws://a"⟩) true)
      (transferSubmitted ++ [.notified 0 ⟨.dropped, none, "0xcc"⟩]) p ∧
      p.desk.stages[0]? = some (.subscribed 0) := Transition.exists_run (by decide)
  have hended := (h _ _ _ _ _ p hr (by decide)).unsubscribed 0 ⟨⟨0, .dropped⟩, by decide, rfl, rfl⟩
  rw [hstage] at hended
  cases hended

end Submission

end SubstrateDevTemplate
