import SubstrateDevTemplate.Submission.Lifecycle

/-!
# Submission — Outcome

What the two pages report of one and the same extrinsic, once it is finalized.  The Transfer page
reads `dispatchError`.  The Extrinsics page reads the status and `isError`, which a dispatch that
failed is not: an extrinsic that is included and fails is reported as finalized, in green.

* `Transfer.finalized_outcome`, `Extrinsics.finalized_outcome`: what a page shows after a
  submission that is told `Finalized` last.
* `outcome_iff`: both pages report the outcome exactly when there is no `dispatchError`.
-/

namespace SubstrateDevTemplate
open Service (ApiPromise)
open Extrinsics (Status TxEvent)
open Transfer (DispatchError)
open Transition (Run anyEvent)

namespace Submission

/-- What `signAndSend` tells its callback. -/
structure SubmittableResult where
  status : Status
  dispatchError : Option DispatchError
  txHash : String
  events : Option (List TxEvent)

/-- What the Transfer page reads of it. -/
def SubmittableResult.toTransfer (r : SubmittableResult) : Transfer.TxResult :=
  ⟨r.status, r.dispatchError, r.txHash⟩

/-- What the Extrinsics page reads of it. -/
def SubmittableResult.toExtrinsics (r : SubmittableResult) : Extrinsics.TxResult :=
  ⟨r.status, r.status.isError, r.txHash, r.events⟩

/-- Success is reported of a dispatch that succeeded, and an error of one that failed. -/
def Reports (success error : Prop) (dispatchError : Option DispatchError) : Prop :=
  (success ↔ dispatchError = none) ∧ (error ↔ dispatchError ≠ none)

end Submission
open Submission (SubmittableResult Reports)

/-! ### The Transfer page -/

namespace Transfer

/-- The page's status is of the type `success`. -/
def Page.ReportsSuccess (p : Page) : Prop := p.status.type = some .success

/-- The page's status is of the type `error`. -/
def Page.ReportsError (p : Page) : Prop := p.status.type = some .error

/-- A submission, its notifications, and the last of them. -/
def submission (p : Page) (results : List SubmittableResult) (final : SubmittableResult) :
    List Event :=
  let k := p.submissions.length
  [.submit, .injected k (.ok ()), .sent k (.ok ())] ++
    results.map (fun r => .notified k r.toTransfer) ++ [.notified k final.toTransfer]

variable {chain : ApiPromise → Chain} {formatBalance : Nat → String → Nat → String}

/-- A notification that is let happen runs the callback. -/
theorem notified_inv {p p' : Page} {k : Nat} {result : TxResult}
    (h : step chain formatBalance p (.notified k result) = some p') :
    ∃ s unsubs, p'.status = (p.notified chain k s unsubs result).status := by
  obtain ⟨q, hq, rfl⟩ := Option.map_eq_some_iff.mp h
  obtain ⟨s, unsubs, -, -, rfl⟩ := handle_notified hq
  obtain ⟨a, ha⟩ := flush_eq chain p (p.notified chain k s unsubs result)
  refine ⟨s, unsubs, ?_⟩
  rw [ha]
  rfl

/-- Finalized without an error, the page reports success. -/
theorem finalized_outcome {p p' : Page} {results : List SubmittableResult}
    {final : SubmittableResult} {hash : String} (hfinal : final.status = .finalized hash)
    (h : Run (step chain formatBalance) anyEvent p (submission p results final) p')
    (hnone : final.dispatchError = none) : p'.status.type = some .success := by
  obtain ⟨q, -, hq⟩ := h.split
  obtain ⟨p₁, hlast, hend⟩ := hq.uncons
  cases hend
  obtain ⟨s, unsubs, hstatus⟩ := notified_inv hlast
  rw [hstatus]
  simp only [Page.notified, SubmittableResult.toTransfer, hfinal, hnone]
  rfl

end Transfer

/-! ### The Extrinsics page -/

namespace Extrinsics

/-- The page shows `Finalized`, in green, and no error. -/
def Page.ReportsSuccess (p : Page) : Prop :=
  p.submissionError = none ∧ ∃ status, p.submissionStatus = some status ∧
    Js.includes status "Finalized" = true

/-- The page shows an error. -/
def Page.ReportsError (p : Page) : Prop := p.submissionError ≠ none

/-- A submission, its notifications, and the last of them. -/
def submission (p : Page) (results : List SubmittableResult) (final : SubmittableResult) :
    List Event :=
  let k := p.submissions.length
  [.submit, .injected k (.ok ()), .sent k (.ok ())] ++
    results.map (fun r => .notified k r.toExtrinsics) ++ [.notified k final.toExtrinsics]

variable {api : Api}

/-- The effects report nothing. -/
theorem flush_report (api : Api) (e : Event) (before p : Page) :
    (flush api e before p).submissionError = p.submissionError ∧
      (flush api e before p).submissionStatus = p.submissionStatus ∧
      (flush api e before p).submissions = p.submissions := by
  obtain ⟨params, values, hflush⟩ := flush_eq api e before p
  rw [hflush]
  exact ⟨rfl, rfl, rfl⟩

/-- A submission that is there after Submit was pressed has no error yet. -/
theorem submit_report {p p' : Page} (h : step api p .submit = some p')
    (hk : p.submissions.length < p'.submissions.length) : p'.submissionError = none := by
  obtain ⟨q, hq, rfl⟩ := Option.map_eq_some_iff.mp h
  obtain ⟨herr, -, hsub⟩ := flush_report api .submit p q
  rw [hsub] at hk
  rw [herr]
  obtain ⟨-, rfl⟩ := handle_submit hq
  unfold Page.handleSubmit at hk ⊢
  split
  · rename_i ha
    rw [if_pos ha] at hk
    exact absurd hk (Nat.lt_irrefl _)
  · rename_i ha
    rw [if_neg ha] at hk
    split
    · rename_i hfind
      rw [hfind] at hk
      exact absurd hk (Nat.lt_irrefl _)
    · rfl

/-- The submission `k` is there when it gets its injector; it fails, or no error is reported. -/
theorem injected_report {p p' : Page} {k : Nat} (h : step api p (.injected k (.ok ())) = some p') :
    k < p.submissions.length ∧
      ((∃ s, p'.submissions[k]? = some s ∧ s.stage = .failed) ∨
        p'.submissionError = p.submissionError) := by
  obtain ⟨q, hq, rfl⟩ := Option.map_eq_some_iff.mp h
  obtain ⟨herr, -, hsub⟩ := flush_report api (.injected k (.ok ())) p q
  rw [herr, hsub]
  obtain ⟨s, source, hs, -, rfl⟩ := handle_injected hq
  have hlt := (List.getElem?_eq_some_iff.mp hs).1
  refine ⟨hlt, ?_⟩
  simp only [Page.injected]
  split
  · exact .inl ⟨{ s with stage := .failed }, List.getElem?_set_self hlt, rfl⟩
  · exact .inr rfl

/-- It is there, and has not failed, when it is sent. -/
theorem sent_report {p p' : Page} {k : Nat} (h : step api p (.sent k (.ok ())) = some p') :
    (∃ s account, p.submissions[k]? = some s ∧ s.stage = .sending account) ∧
      p'.submissionError = p.submissionError := by
  obtain ⟨q, hq, rfl⟩ := Option.map_eq_some_iff.mp h
  rw [(flush_report api (.sent k (.ok ())) p q).1]
  obtain ⟨s, account, hs, hstage, rfl⟩ := handle_sent hq
  exact ⟨⟨s, account, hs, hstage⟩, rfl⟩

/-- A status that is not terminal reports no error, and neither does `Finalized`. -/
theorem notified_report {p p' : Page} {k : Nat} {r : SubmittableResult}
    (h : step api p (.notified k r.toExtrinsics) = some p') (hr : r.status.isError = false) :
    p'.submissionError = p.submissionError ∧
      ∀ hash, r.status = .finalized hash →
        p'.submissionStatus = some ("Finalized in block " ++ hash) := by
  obtain ⟨q, hq, rfl⟩ := Option.map_eq_some_iff.mp h
  obtain ⟨herr, hst, -⟩ := flush_report api (.notified k r.toExtrinsics) p q
  rw [herr, hst]
  obtain ⟨s, unsubs, -, -, rfl⟩ := handle_notified hq
  unfold Page.notified
  simp only [SubmittableResult.toExtrinsics, hr]
  split
  · rename_i hblock
    refine ⟨rfl, fun hash hf => ?_⟩
    cases hblock.symm.trans hf
  · rename_i hash hfinal
    refine ⟨rfl, fun hash' hf => ?_⟩
    cases hfinal.symm.trans hf
    rfl
  · rename_i hfinal
    exact ⟨rfl, fun hash hf => absurd hf (hfinal hash)⟩

/-- Neither does any sequence of them. -/
theorem notifications_report {k : Nat} : ∀ {results : List SubmittableResult} {p p' : Page},
    Run (step api) anyEvent p (results.map fun r => .notified k r.toExtrinsics) p' →
    (∀ r ∈ results, r.status.isTerminal = false) → p'.submissionError = p.submissionError := by
  intro results
  induction results with
  | nil =>
      intro p p' h _
      cases h
      rfl
  | cons r results ih =>
      intro p p' h hopen
      obtain ⟨p₁, hstep, hrest⟩ := h.uncons
      have hr := Status.isError_eq_false (hopen r (List.mem_cons_self ..))
      rw [ih hrest fun r' h' => hopen r' (List.mem_cons_of_mem _ h')]
      exact (notified_report hstep hr).1

/-- Finalized, with whatever error, the page reports success. -/
theorem finalized_outcome {p p' : Page} {results : List SubmittableResult}
    {final : SubmittableResult} {hash : String} (hfinal : final.status = .finalized hash)
    (hopen : ∀ r ∈ results, r.status.isTerminal = false)
    (h : Run (step api) anyEvent p (submission p results final) p') :
    p'.submissionError = none ∧ p'.submissionStatus = some ("Finalized in block " ++ hash) := by
  obtain ⟨p₄, hfirst, hq⟩ := h.split
  obtain ⟨p₅, hlast, hend⟩ := hq.uncons
  cases hend
  obtain ⟨p₃, hstart, hnotes⟩ := hfirst.split
  obtain ⟨p₁, hsubmit, hstart⟩ := hstart.uncons
  obtain ⟨p₂, hinjected, hstart⟩ := hstart.uncons
  obtain ⟨p₃, hsent, hend⟩ := hstart.uncons
  cases hend
  obtain ⟨herr, hst⟩ := notified_report hlast (by rw [hfinal]; rfl)
  obtain ⟨⟨s, account, hs, hstage⟩, herr₃⟩ := sent_report hsent
  obtain ⟨hlt, hinj⟩ := injected_report hinjected
  have herr₂ : p₂.submissionError = p₁.submissionError := by
    rcases hinj with ⟨s', hs', hfail⟩ | h
    · rw [hs, Option.some.injEq] at hs'
      rw [hs', hfail] at hstage
      cases hstage
    · exact h
  have herr₁ : p₁.submissionError = none := submit_report hsubmit hlt
  refine ⟨?_, hst hash hfinal⟩
  rw [herr, notifications_report hnotes hopen, herr₃, herr₂, herr₁]

end Extrinsics

/-! ### Both pages -/

namespace Submission

/-- **The outcome of an extrinsic, on both pages**, exactly. -/
theorem outcome_iff {chain : ApiPromise → Transfer.Chain}
    {formatBalance : Nat → String → Nat → String} {api : Extrinsics.Api}
    {pt pt' : Transfer.Page} {pe pe' : Extrinsics.Page} {results : List SubmittableResult}
    {final : SubmittableResult} {hash : String} (hfinal : final.status = .finalized hash)
    (hopen : ∀ r ∈ results, r.status.isTerminal = false)
    (ht : Run (Transfer.step chain formatBalance) anyEvent pt
      (Transfer.submission pt results final) pt')
    (he : Run (Extrinsics.step api) anyEvent pe (Extrinsics.submission pe results final) pe') :
    (Reports pt'.ReportsSuccess pt'.ReportsError final.dispatchError ∧
      Reports pe'.ReportsSuccess pe'.ReportsError final.dispatchError) ↔
    final.dispatchError = none := by
  obtain ⟨herr, hstatus⟩ := Extrinsics.finalized_outcome hfinal hopen he
  have hsuccess : pe'.ReportsSuccess :=
    ⟨herr, _, hstatus, Js.includes_append "Finalized" (" in block " ++ hash)⟩
  constructor
  · rintro ⟨-, hreports⟩
    exact hreports.1.mp hsuccess
  · intro hnone
    have htype := Transfer.finalized_outcome hfinal ht hnone
    have herror : ¬ pt'.ReportsError := by
      rw [Transfer.Page.ReportsError, htype]
      nofun
    exact ⟨⟨iff_of_true htype hnone, iff_of_false herror (not_not.mpr hnone)⟩,
      ⟨iff_of_true hsuccess hnone, iff_of_false (not_not.mpr herr) (not_not.mpr hnone)⟩⟩

/-- A Transfer page that is filled in. -/
def filledTransfer : Transfer.Page :=
  { Transfer.Page.init (some ⟨0, "ws://a"⟩) true with
    accounts := [⟨"5Alice", "polkadot-js"⟩]
    selectedAccount := "5Alice"
    recipient := "5Bob"
    amount := ['1'] }

/-- An Extrinsics page that is. -/
def filledExtrinsics : Extrinsics.Page :=
  { Extrinsics.Page.init with
    selectedModule := "system"
    selectedMethod := "remark"
    methodParameters := [⟨"remark", "Bytes", false⟩]
    paramValues := [some "0x00"]
    accounts := [⟨"5Alice", "polkadot-js"⟩]
    selectedAccount := "5Alice" }

/-- An extrinsic that is included and finalized. -/
theorem outcome_succeeded :
    ∃ pt', Run (Transfer.step plainChain fun free _ _ => toString free) anyEvent filledTransfer
        (Transfer.submission filledTransfer [⟨.inBlock "0xaa", none, "0xcc", none⟩]
          ⟨.finalized "0xbb", none, "0xcc", none⟩) pt' ∧
      ∃ pe', Run (Extrinsics.step Extrinsics.noMetadata) anyEvent filledExtrinsics
        (Extrinsics.submission filledExtrinsics [⟨.inBlock "0xaa", none, "0xcc", none⟩]
          ⟨.finalized "0xbb", none, "0xcc", none⟩) pe' ∧
        Reports pt'.ReportsSuccess pt'.ReportsError none ∧
        Reports pe'.ReportsSuccess pe'.ReportsError none := by
  refine Transition.exists_run_and (by decide) fun pt' ht => ?_
  refine Transition.exists_run_and (by decide) fun pe' he => ?_
  exact (outcome_iff rfl (by decide) ht he).mpr rfl

/-- An extrinsic that is finalized and failed: the Extrinsics page reports success. -/
theorem failed_dispatch_not_reported :
    ¬ ∀ (chain : ApiPromise → Transfer.Chain) (formatBalance : Nat → String → Nat → String)
      (api : Extrinsics.Api) (pt pt' : Transfer.Page) (pe pe' : Extrinsics.Page)
      (results : List SubmittableResult) (final : SubmittableResult) (hash : String),
      final.status = .finalized hash → (∀ r ∈ results, r.status.isTerminal = false) →
      Run (Transfer.step chain formatBalance) anyEvent pt
        (Transfer.submission pt results final) pt' →
      Run (Extrinsics.step api) anyEvent pe (Extrinsics.submission pe results final) pe' →
      Reports pt'.ReportsSuccess pt'.ReportsError final.dispatchError ∧
        Reports pe'.ReportsSuccess pe'.ReportsError final.dispatchError := by
  intro h
  obtain ⟨pt', ht, -⟩ : ∃ pt', Run (Transfer.step plainChain fun free _ _ => toString free)
      anyEvent filledTransfer (Transfer.submission filledTransfer []
        ⟨.finalized "0xbb", some (.other "BadOrigin"), "0xcc", none⟩) pt' ∧ True :=
    Transition.exists_run (by decide)
  obtain ⟨pe', he, herr⟩ : ∃ pe', Run (Extrinsics.step Extrinsics.noMetadata) anyEvent
      filledExtrinsics (Extrinsics.submission filledExtrinsics []
        ⟨.finalized "0xbb", some (.other "BadOrigin"), "0xcc", none⟩) pe' ∧
      pe'.submissionError = none := Transition.exists_run (by decide)
  obtain ⟨-, -, herror⟩ := h _ _ _ _ pt' _ pe' _ _ "0xbb" rfl (by decide) ht he
  exact herror.mpr nofun herr

end Submission

end SubstrateDevTemplate
