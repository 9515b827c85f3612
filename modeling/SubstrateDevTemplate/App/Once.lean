import SubstrateDevTemplate.App.Chain
import SubstrateDevTemplate.Support.Ledger

/-!
# App — each click is signed once

A submission waits for its injector, and `signAndSend` is called when it comes.  What waits is held
in the ledger: a click takes in what the page's state gives, and a signing gives it out.

* `signs_sending`: `signAndSend` is called where a submission goes on to sending, and nowhere else.
* `Screen.waiting_step`, `waiting_step`: one event of a page, and of the app.
* `signed_once`: what is signed in a run is among what was clicked in it, each click at most once.
-/

namespace SubstrateDevTemplate
open Transition (Covers outputs)

/-- The injector is waited for. -/
def Extrinsics.SubmissionStage.waits : SubmissionStage → Bool
  | .injecting _ => true
  | .sending _ | .subscribed _ | .failed => false

/-! ### The Transfer page -/

namespace Transfer
open Service (ApiPromise)

variable (chain : ApiPromise → Chain)

/-- What a submission that waits for its injector is for. -/
def Submission.waits (s : Submission) : Option Signing :=
  if s.stage.waits then s.signing chain else none

namespace Page

def waiting (p : Page) : List Signing := p.submissions.flatMap fun s => (s.waits chain).toList

/-- What a click takes in. -/
def clicks (p : Page) : Event → Option Signing
  | .submit => p.prepared chain
  | _ => none

variable {chain} {formatBalance : Nat → String → Nat → String} {p p' : Page}

/-- **`signAndSend` is called** where a submission goes on to sending. -/
theorem signs_sending {k : Nat} {injector : Except String Unit}
    (h : handle chain formatBalance p (.injected k injector) = some p') :
    ∃ s, p.submissions[k]? = some s ∧
      (p.signs chain (.injected k injector) = s.signing chain ∧ (s.signing chain).isSome = true ∧
          p'.submissions = p.submissions.set k { s with stage := .sending s.selectedAccount } ∨
        p.signs chain (.injected k injector) = none ∧
          p'.submissions = p.submissions.set k { s with stage := .failed }) := by
  obtain ⟨s, source, hs, hstage, rfl⟩ := handle_injected h
  refine ⟨s, hs, ?_⟩
  cases injector with
  | error message => exact .inr ⟨rfl, rfl⟩
  | ok u =>
      simp only [signs, hs, Option.bind_some, hstage, injected]
      cases hcreate : (chain s.api).createTransfer s.recipient (rawAmount s.amount s.tokenDecimals)
      with
      | some message => exact .inr ⟨if_neg (Option.some_ne_none _), rfl⟩
      | none =>
          refine .inl ⟨if_pos rfl, ?_, rfl⟩
          -- without a method, no extrinsic is created
          rw [createTransfer_eq] at hcreate
          rw [Submission.signing, Option.isSome_map]
          cases hm : (chain s.api).transferMethod with
          | some method => rfl
          | none => rw [hm] at hcreate; cases hcreate

variable (p) in
/-- A submission that does not wait goes on, and does not wait then. -/
theorem submissions_sent (k : Nat) (s : Submission) (unsub : Except String Unit) :
    ∃ stage : Extrinsics.SubmissionStage, stage.waits = false ∧
      (p.sent k s unsub).submissions = p.submissions.set k { s with stage := stage } := by
  cases unsub with
  | error message => exact ⟨.failed, rfl, rfl⟩
  | ok u => exact ⟨.subscribed 0, rfl, rfl⟩

variable (chain p) in
theorem submissions_notified (k : Nat) (s : Submission) (unsubs : Nat) (result : TxResult) :
    (p.notified chain k s unsubs result).submissions = p.submissions ∨
    ∃ stage : Extrinsics.SubmissionStage, stage.waits = false ∧
      (p.notified chain k s unsubs result).submissions =
        p.submissions.set k { s with stage := stage } := by
  unfold notified
  split
  · exact .inl rfl
  · split
    · exact .inr ⟨.subscribed (unsubs + 1), rfl, rfl⟩
    · split
      · exact .inl rfl
      · exact .inr ⟨.subscribed (unsubs + 1), rfl, rfl⟩
  · exact .inl rfl

variable (chain) in
/-- Submissions that stay are covered. -/
theorem covers_same (hs : p'.submissions = p.submissions) (taken : Option Signing) :
    Covers taken (p.waiting chain) none (p'.waiting chain) := by
  rw [waiting, waiting, hs]
  exact .of_subperm _ (List.Subperm.refl _)

/-- Where a submission goes on to a stage in which it does not wait, it gives out what it waited
with, or nothing. -/
theorem covers_set {k : Nat} {s : Submission} {given : Option Signing}
    {stage : Extrinsics.SubmissionStage} (hs : p.submissions[k]? = some s)
    (hgiven : ∀ x ∈ given, s.waits chain = some x) (hstage : stage.waits = false)
    (hset : p'.submissions = p.submissions.set k { s with stage := stage }) :
    Covers none (p.waiting chain) given (p'.waiting chain) := by
  have hdone : ({ s with stage := stage } : Submission).waits chain = none :=
    if_neg (by rw [hstage]; exact Bool.false_ne_true)
  rw [waiting, waiting, hset]
  refine Covers.flatMap_set (b := s) ?_ hs
  rw [hdone]
  exact Covers.gives hgiven

/-- A click takes in what the page's state gives, if anything. -/
theorem covers_handleSubmit (p : Page) :
    Covers (p.prepared chain) (p.waiting chain) none ((p.handleSubmit chain).waiting chain) := by
  rcases submissions_handleSubmit chain p with hsame | ⟨api, account, hapi, -, -, -, hs⟩
  · exact covers_same chain hsame _
  · rw [waiting, waiting, hs, prepared, hapi, List.flatMap_append, List.flatMap_singleton]
    exact .takes (fun x hx => hx) _

/-- **One event of the page.** -/
theorem waiting_handle {e : Event} (h : handle chain formatBalance p e = some p') :
    Covers (p.clicks chain e) (p.waiting chain) (p.signs chain e) (p'.waiting chain) := by
  cases he : e.ofSubmission with
  | false =>
      have hsame := covers_same chain (handle_elsewhere he h).2 none
      cases e with
      | submit | injected | sent | notified => cases he
      | _ => exact hsame
  | true =>
      cases e with
      | submit =>
          obtain ⟨-, rfl⟩ := handle_submit h
          exact covers_handleSubmit p
      | injected k injector =>
          obtain ⟨s, source, hs, hstage, -⟩ := handle_injected h
          obtain ⟨s', hs', hcase⟩ := signs_sending h
          cases hs.symm.trans hs'
          have hwaits : s.waits chain = s.signing chain := if_pos (by rw [hstage]; rfl)
          rcases hcase with ⟨hsigns, -, hset⟩ | ⟨hsigns, hset⟩
          · rw [hsigns, ← hwaits]
            exact covers_set hs (fun x hx => hx) rfl hset
          · rw [hsigns]
            exact covers_set hs (by rintro x ⟨⟩) rfl hset
      | sent k unsub =>
          obtain ⟨s, account, hs, -, rfl⟩ := handle_sent h
          obtain ⟨stage, hstage, hset⟩ := submissions_sent p k s unsub
          exact covers_set hs (by rintro x ⟨⟩) hstage hset
      | notified k result =>
          obtain ⟨s, unsubs, hs, -, rfl⟩ := handle_notified h
          rcases submissions_notified chain p k s unsubs result with
            hsame | ⟨stage, hstage, hset⟩
          · exact covers_same chain hsame none
          · exact covers_set hs (by rintro x ⟨⟩) hstage hset
      | context | accountChange | recipientChange | amountChange | percentage | refresh | fetched
      | connectWallet | walletEnabled | walletListed => cases he

end Page

end Transfer

/-! ### The Extrinsics page -/

namespace Extrinsics
open Service (ApiPromise)

/-- What a submission that waits for its injector is for. -/
def Submission.waits (s : Submission) (api : ApiPromise) : Option Signing :=
  if s.stage.waits then some (s.signing api) else none

namespace Page
variable {p : Page}

/-- A submission that does not wait goes on, and does not wait then. -/
theorem submissions_sent (p : Page) (k : Nat) (s : Submission) (unsub : Except String Unit) :
    ∃ stage : SubmissionStage, stage.waits = false ∧
      (p.sent k s unsub).submissions = p.submissions.set k { s with stage := stage } := by
  cases unsub with
  | error message => exact ⟨.failed, rfl, rfl⟩
  | ok u => exact ⟨.subscribed 0, rfl, rfl⟩

theorem submissions_notified (p : Page) (k : Nat) (s : Submission) (unsubs : Nat)
    (result : TxResult) : (p.notified k s unsubs result).submissions = p.submissions ∨
    ∃ stage : SubmissionStage, stage.waits = false ∧
      (p.notified k s unsubs result).submissions =
        p.submissions.set k { s with stage := stage } := by
  unfold notified
  split
  · exact .inl rfl
  · exact .inr ⟨.subscribed (unsubs + 1), rfl, rfl⟩
  · split
    · exact .inr ⟨.subscribed (unsubs + 1), rfl, rfl⟩
    · exact .inl rfl

end Page

namespace Hosted

def waiting (h : Hosted) : List Signing :=
  (h.page.submissions.zip h.apis).flatMap fun s => (s.1.waits s.2).toList

/-- What a click takes in. -/
def clicks (h : Hosted) : Extrinsics.Event → Option Signing
  | .submit => h.prepared
  | _ => none

variable {chain : ApiPromise → Chain} {h h' : Hosted}

/-- The injector of a submission comes to the instance that it has captured. -/
theorem handle_injected {k : Nat} {injector : Except String Unit} (hp : h.Paired)
    (hh : handle chain h (.injected k injector) = some h') :
    ∃ s source api, h.page.submissions[k]? = some s ∧ s.stage = .injecting source ∧
      h.apis[k]? = some api ∧
      h' = { h with page := h.page.injected (chain api).api k s injector } := by
  unfold handle at hh
  rw [if_pos (show h.Offers (.injected k injector) from trivial)] at hh
  cases hk : h.apis[k]? with
  | none =>
      simp only [apiFor, hk] at hh
      obtain ⟨p, hpage, -⟩ := Option.map_eq_some_iff.mp hh
      obtain ⟨s, source, hs, -⟩ := Extrinsics.handle_injected hpage
      -- each submission has captured an instance
      obtain ⟨hlt, -⟩ := List.getElem?_eq_some_iff.mp hs
      exact absurd hlt (Nat.not_lt.mpr (hp ▸ List.getElem?_eq_none_iff.mp hk))
  | some api =>
      simp only [apiFor, hk] at hh
      obtain ⟨p, hpage, rfl⟩ := Option.map_eq_some_iff.mp hh
      have hlen := congrArg List.length (handle_closures (by rintro ⟨⟩) hpage)
      rw [List.length_map, List.length_map] at hlen
      obtain ⟨s, source, hs, hstage, rfl⟩ := Extrinsics.handle_injected hpage
      refine ⟨s, source, api, hs, hstage, rfl, ?_⟩
      rw [capture, if_neg (by rw [hlen]; exact Nat.lt_irrefl _)]

/-- **`signAndSend` is called** where a submission goes on to sending. -/
theorem signs_sending {k : Nat} {injector : Except String Unit} (hp : h.Paired)
    (hh : handle chain h (.injected k injector) = some h') :
    ∃ s api, h.page.submissions[k]? = some s ∧ h.apis[k]? = some api ∧ s.stage.waits = true ∧
      h'.apis = h.apis ∧
      (h.signs chain (.injected k injector) = some (s.signing api) ∧
          h'.page.submissions =
            h.page.submissions.set k { s with stage := .sending s.selectedAccount } ∨
        h.signs chain (.injected k injector) = none ∧
          h'.page.submissions = h.page.submissions.set k { s with stage := .failed }) := by
  obtain ⟨s, source, api, hs, hstage, hapi, rfl⟩ := handle_injected hp hh
  refine ⟨s, api, hs, hapi, by rw [hstage]; rfl, rfl, ?_⟩
  cases injector with
  | error message => exact .inr ⟨rfl, rfl⟩
  | ok u =>
      simp only [signs, hs, hapi, Option.bind_some, hstage, Page.injected]
      cases (chain api).api.txError s.selectedModule s.selectedMethod s.processedParams with
      | some message => exact .inr ⟨if_neg (Option.some_ne_none _), rfl⟩
      | none => exact .inl ⟨if_pos rfl, rfl⟩

/-- A submission under way has captured an instance. -/
theorem Paired.captured {k : Nat} {s : Submission} (hp : h.Paired)
    (hs : h.page.submissions[k]? = some s) : ∃ api, h.apis[k]? = some api := by
  obtain ⟨hlt, -⟩ := List.getElem?_eq_some_iff.mp hs
  exact ⟨_, List.getElem?_eq_getElem (hp.symm ▸ hlt)⟩

/-- Submissions that stay are covered. -/
theorem covers_same (hs : h'.page.submissions = h.page.submissions) (ha : h'.apis = h.apis)
    (taken : Option Signing) : Covers taken h.waiting none h'.waiting := by
  rw [waiting, waiting, hs, ha]
  exact .of_subperm _ (List.Subperm.refl _)

theorem covers_page {p : Page} (hs : p.submissions = h.page.submissions)
    (taken : Option Signing) : Covers taken h.waiting none (waiting { h with page := p }) := by
  unfold waiting
  dsimp only
  rw [hs]
  exact .of_subperm _ (List.Subperm.refl _)

/-- The effects leave what waits. -/
theorem waiting_flush (suffixes : List String) (before h : Hosted) :
    (flush chain suffixes before h).waiting = h.waiting := by
  obtain ⟨hsubmissions, hapis⟩ := flush_submissions chain suffixes before h
  rw [waiting, waiting, hsubmissions, hapis]

theorem zip_set {k : Nat} (s : Submission) {api : ApiPromise} :
    ∀ {ss : List Submission} {apis : List ApiPromise}, apis[k]? = some api →
      (ss.set k s).zip apis = (ss.zip apis).set k (s, api) := by
  induction k with
  | zero =>
      rintro (_ | ⟨t, ss⟩) (_ | ⟨a, apis⟩) hk
      · rfl
      · rfl
      · cases hk
      · cases hk; rfl
  | succ k ih =>
      rintro (_ | ⟨t, ss⟩) (_ | ⟨a, apis⟩) hk
      · rfl
      · rfl
      · cases hk
      · exact congrArg (List.cons (t, a)) (ih hk)

/-- Where a submission goes on to a stage in which it does not wait, it gives out what it waited
with, or nothing. -/
theorem covers_set {k : Nat} {s : Submission} {api : ApiPromise} {given : Option Signing}
    {stage : SubmissionStage} (hs : h.page.submissions[k]? = some s) (hk : h.apis[k]? = some api)
    (hgiven : ∀ x ∈ given, s.waits api = some x) (hstage : stage.waits = false)
    (hset : h'.page.submissions = h.page.submissions.set k { s with stage := stage })
    (ha : h'.apis = h.apis) : Covers none h.waiting given h'.waiting := by
  have hdone : ({ s with stage := stage } : Submission).waits api = none :=
    if_neg (by rw [hstage]; exact Bool.false_ne_true)
  have hzip : (h.page.submissions.zip h.apis)[k]? = some (s, api) := by
    rw [List.getElem?_zip_eq_some]
    exact ⟨hs, hk⟩
  rw [waiting, waiting, hset, ha, zip_set _ hk]
  refine Covers.flatMap_set (b := (s, api)) ?_ hzip
  dsimp only
  rw [hdone]
  exact Covers.gives hgiven

/-- A click takes in what the page's state gives, if anything. -/
theorem covers_handleSubmit {api : ApiPromise} (hp : h.Paired) (hapi : h.api = some api)
    (hen : h.page.SubmitEnabled) :
    Covers h.prepared h.waiting none
      (waiting
        { h with page := h.page.handleSubmit, apis := h.capture h.page.handleSubmit api }) := by
  rcases handleSubmit_capture h api hen with ⟨hsame, hcapture⟩ | ⟨account, -, -, hs, hcapture⟩
  · exact covers_same hsame hcapture _
  · simp only [waiting, hcapture, hs, prepared, hapi]
    rw [List.zip_append hp.symm, List.flatMap_append, List.zip_cons_cons, List.zip_nil_left,
      List.flatMap_singleton]
    exact .takes (fun x hx => hx) _

/-- **One event of the page.** -/
theorem waiting_handle {e : Extrinsics.Event} (hp : h.Paired) (hh : handle chain h e = some h') :
    Covers (h.clicks e) h.waiting (h.signs chain e) h'.waiting := by
  rcases handle_page hh with ⟨rfl, -, rfl⟩ | ⟨api, p, hpage, ⟨hne, rfl⟩ | ⟨inst, rfl, hinst, rfl⟩⟩
  · exact covers_same rfl rfl _
  · cases he : e.ofSubmission with
    | false =>
        have hsame := covers_page (handle_elsewhere he hpage).2 none
        cases e with
        | submit | injected | sent | notified => cases he
        | _ => exact hsame
    | true =>
        cases e with
        | submit => exact absurd rfl hne
        | injected k injector =>
            obtain ⟨s, api, hs, hk, hstage, ha, ⟨hsigns, hset⟩ | ⟨hsigns, hset⟩⟩ :=
              signs_sending hp hh
            · rw [hsigns]
              exact covers_set hs hk (by rintro x ⟨⟩; exact if_pos hstage) rfl hset ha
            · rw [hsigns]
              exact covers_set hs hk (by rintro x ⟨⟩) rfl hset ha
        | sent k unsub =>
            obtain ⟨s, account, hs, -, rfl⟩ := handle_sent hpage
            obtain ⟨a, hk⟩ := hp.captured hs
            obtain ⟨stage, hstage, hset⟩ := h.page.submissions_sent k s unsub
            exact covers_set hs hk (by rintro x ⟨⟩) hstage hset rfl
        | notified k result =>
            obtain ⟨s, unsubs, hs, -, rfl⟩ := handle_notified hpage
            obtain ⟨a, hk⟩ := hp.captured hs
            rcases h.page.submissions_notified k s unsubs result with hsame | ⟨stage, hstage, hset⟩
            · exact covers_page hsame none
            · exact covers_set hs hk (by rintro x ⟨⟩) hstage hset rfl
        | moduleChange | methodChange | paramChange | accountChange | connectWallet | walletEnabled
        | walletListed => cases he
  · obtain ⟨hen, rfl⟩ := handle_submit hpage
    exact covers_handleSubmit hp hinst hen

end Hosted

end Extrinsics

/-! ### The app -/

namespace App
open Transition (Run anyEvent exists_run_and)

variable {ρ : Type*} (chains : Chains)

namespace Screen

/-- What the submissions that wait for their injector are for. -/
def waiting : Screen ρ → List Signing
  | .home | .chainState _ => []
  | .extrinsics h => h.waiting
  | .transfer p => p.waiting chains.transfer

/-- What a click takes in. -/
def clicks : Screen ρ → PageEvent ρ → Option Signing
  | .extrinsics h, .extrinsics e => h.clicks e
  | .transfer p, .transfer e => p.clicks chains.transfer e
  | _, _ => none

variable {chains} {s s' : Screen ρ} {e : PageEvent ρ}

/-- **An event of the page that is shown.** -/
theorem waiting_step (hp : s.Paired) (h : s.step chains e = some s') :
    Covers (s.clicks chains e) (s.waiting chains) (s.signs chains e) (s'.waiting chains) := by
  unfold step at h
  split at h
  · obtain ⟨c, -, rfl⟩ := Option.map_eq_some_iff.mp h
    exact .of_subperm _ (List.Subperm.refl _)
  · rename_i c e
    obtain ⟨c', hc, rfl⟩ := Option.map_eq_some_iff.mp h
    obtain ⟨c₁, hh, rfl⟩ := Option.map_eq_some_iff.mp hc
    have hcovers := Extrinsics.Hosted.waiting_handle hp hh
    rwa [← Extrinsics.Hosted.waiting_flush e.suffixes c c₁] at hcovers
  · cases h
  · rename_i p e _
    obtain ⟨p', hp', rfl⟩ := Option.map_eq_some_iff.mp h
    obtain ⟨p₁, hh, rfl⟩ := Option.map_eq_some_iff.mp hp'
    obtain ⟨a, ha⟩ := Transfer.flush_eq chains.transfer p p₁
    have hcovers := Transfer.Page.waiting_handle hh
    rw [ha]
    exact hcovers
  · cases h

/-- An event of a page that has been left takes nothing in. -/
theorem waiting_goOn (hp : s.Paired) (h : s.goOn chains e = some s') :
    e.goesOn = true ∧ Covers none (s.waiting chains) (s.signs chains e) (s'.waiting chains) := by
  unfold goOn at h
  split at h
  · rename_i hgoes
    refine ⟨hgoes, ?_⟩
    split at h
    · rename_i c e
      obtain ⟨c', hc, rfl⟩ := Option.map_eq_some_iff.mp h
      have hcovers := Extrinsics.Hosted.waiting_handle hp hc
      cases e with
      | submit => cases hgoes
      | _ => exact hcovers
    · rename_i p e
      obtain ⟨p', hp', rfl⟩ := Option.map_eq_some_iff.mp h
      have hcovers := Transfer.Page.waiting_handle hp'
      cases e with
      | submit => cases hgoes
      | _ => exact hcovers
    · cases h
  · cases h

variable (ρ chains) in
theorem waiting_mount (api : Option Service.ApiPromise) (isApiReady : Bool) (route : Route) :
    (mount chains api isApiReady route : Screen ρ).waiting chains = [] := by
  cases route with
  | home | chainState => rfl
  | extrinsics =>
      obtain ⟨-, -, hsubmissions, -⟩ :=
        Extrinsics.Hosted.mount_empty chains.extrinsics api isApiReady
      rw [mount, waiting, Extrinsics.Hosted.waiting, hsubmissions]
      rfl
  | transfer =>
      obtain ⟨a, ha⟩ :=
        (Transfer.Page.init api isApiReady).runEffects_eq chains.transfer true true
      rw [mount, Transfer.Page.mount, ha]
      rfl

variable (chains) in
theorem waiting_context (api : Option Service.ApiPromise) (isApiReady : Bool)
    (suffixes : List String) (s : Screen ρ) :
    (s.context chains api isApiReady suffixes).waiting chains = s.waiting chains := by
  cases s with
  | home | chainState => rfl
  | extrinsics h =>
      simp only [context, Extrinsics.Hosted.step, Option.map_some, Option.getD_some, waiting]
      rw [Extrinsics.Hosted.waiting_flush]
      rfl
  | transfer p =>
      obtain ⟨a, ha⟩ := Transfer.flush_eq chains.transfer p
        { p with api := api, isApiReady := isApiReady }
      simp only [context, Transfer.step, Transfer.handle, Option.map_some, Option.getD_some, ha]
      rfl

end Screen

/-- What the submissions that wait for their injector are for, those of pages that have been left
included. -/
def State.waiting (a : State ρ) : List Signing :=
  a.screen.waiting chains ++ a.left.flatMap (Screen.waiting chains)

/-- What a click takes in. -/
def State.clicks (a : State ρ) : Event ρ → Option Signing
  | .page e => a.screen.clicks chains e
  | .home _ _ | .navigate _ | .left _ _ => none

section
variable {chains : Chains} {wsProviderError : String → Option String}
  {savedEndpoint env : Option String} {route : Route} {es : List (Event ρ)} {a a' : State ρ}

/-- **One event of the app.** -/
theorem waiting_step {e : Event ρ} (hw : Wired a)
    (h : step chains wsProviderError env a e = some a') :
    Covers (a.clicks chains e) (a.waiting chains) (a.signs chains e) (a'.waiting chains) := by
  cases step_moves h with
  | told suffixes hr hs =>
      refine .of_subperm none ?_
      rw [State.waiting, Screen.waiting_context]
      exact List.Subperm.refl _
  | reloaded suffixes hs =>
      refine .of_subperm none ?_
      rw [State.waiting, Screen.waiting_mount]
      exact List.nil_subperm
  | entered route hroute hs =>
      refine .of_subperm none ?_
      rw [State.waiting, Screen.waiting_mount, List.nil_append, List.flatMap_append,
        List.flatMap_singleton]
      exact List.perm_append_comm.subperm
  | stepped hs => exact (Screen.waiting_step hw.paired hs).append_right _
  | wentOn hk hs =>
      obtain ⟨hgoes, hcovers⟩ := Screen.waiting_goOn (hw.left _ (List.mem_of_getElem? hk)) hs
      rw [State.signs, hk, Option.bind_some, if_pos hgoes]
      exact (hcovers.flatMap_set hk).append_left _

/-- **Each click is signed once**: what is signed in a run, with what still waits at its end, is
among what the pages' states gave when their buttons were clicked, each click once at most. -/
theorem signed_once
    (hrun : Run (step chains wsProviderError env) anyEvent
      (.load chains savedEndpoint env route) es a) :
    (outputs (step chains wsProviderError env) (State.signs chains)
        (.load chains savedEndpoint env route) es ++ a.waiting chains).Subperm
      (outputs (step chains wsProviderError env) (State.clicks chains)
        (.load chains savedEndpoint env route) es) := by
  have hstep : ∀ (a : State ρ) e a', Wired a → anyEvent a e →
      step chains wsProviderError env a e = some a' → Wired a' ∧
        Covers (a.clicks chains e) (a.waiting chains) (a.signs chains e) (a'.waiting chains) :=
    fun a e a' hw _ hs => ⟨wired_step hw hs, waiting_step hw hs⟩
  have hcovers := hrun.covers hstep (wired_load _ _ _)
  have hnone : (State.load chains savedEndpoint env route : State ρ).waiting chains = [] := by
    rw [State.waiting, State.load, Screen.waiting_mount]
    rfl
  rwa [hnone, List.append_nil] at hcovers

end

/-- A transfer is clicked, the page left and entered again, and the same transfer clicked again.
The second one's injector comes first. -/
def clickedTwice : List (Event Unit) :=
  [.home (.provider .connect) [], .home (.provider (.resume 0)) [],
    .home (.provider (.resume 0)) [], .home (.provider (.deliver 0)) [],
    .home (.provider (.ready 0)) []] ++ transferClicked ++
    [.navigate .home] ++ transferClicked ++ [.page (.transfer (.injected 0 (.ok ()))),
    .left 1 (.transfer (.injected 0 (.ok ())))]

/-- Both are signed, each once. -/
theorem signed_once_left :
    let start : State Unit := .load plainChains (some "wss://rpc.polkadot.io") none .home
    ∃ a, Run (step plainChains Service.schemeError none) anyEvent start clickedTwice a ∧
      (outputs (step plainChains Service.schemeError none) (State.signs plainChains) start
          clickedTwice ++ a.waiting plainChains).Subperm
        (outputs (step plainChains Service.schemeError none) (State.clicks plainChains) start
          clickedTwice) :=
  exists_run_and (by decide) fun _ h => signed_once h

example : outputs (step plainChains Service.schemeError none) (State.signs plainChains)
    (.load plainChains (some "wss://rpc.polkadot.io") none .home) clickedTwice =
      [transferOn ⟨0, "wss://rpc.polkadot.io"⟩, transferOn ⟨0, "wss://rpc.polkadot.io"⟩] := by
  decide

end App

end SubstrateDevTemplate
