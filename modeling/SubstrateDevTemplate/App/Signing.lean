import SubstrateDevTemplate.App.Definitions
import SubstrateDevTemplate.Extrinsics.Chains

/-!
# App — what is signed

`signAndSend` is called by a submission once it has its injector.  What it is called for is fixed
when the submission is clicked: the instance, the account, and the call made of the page's state
then.  The state is not what the page displays: an amount goes through `rawAmount` and a parameter
through `formatParameter`, and an input that was mounted again displays none of the value it is for.

* `Signing`: what `signAndSend` is called for.
* `Screen.prepared`: what a submission clicked now would be for; `Screen.signings`: what the
  submissions under way are for.
* `signings_handle`: the submissions of a page are for what they were for, and a click adds what the
  page's state gives.
* `signs_mem`: what is signed is what a submission under way is for.
-/

namespace SubstrateDevTemplate

/-- What `signAndSend` is called for: on `api`, by `account`, the call
`tx[module][method](...args)`. -/
structure Signing where
  api : Service.ApiPromise
  account : String
  module : String
  method : String
  args : List Js.Value
  deriving DecidableEq

/-! ### The Transfer page -/

namespace Transfer
open Service (ApiPromise)

/-- The method that transfers, if there is one. -/
def Chain.transferMethod (chain : Chain) : Option String :=
  if "transfer" ∈ chain.balances.getD [] then some "transfer"
  else if "transferKeepAlive" ∈ chain.balances.getD [] then some "transferKeepAlive"
  else none

/-- A transfer is created with this method. -/
theorem createTransfer_eq (chain : Chain) (recipient : String) (rawAmount : List Char) :
    chain.createTransfer recipient rawAmount = match chain.transferMethod with
      | some method => chain.transferError method recipient rawAmount
      | none => some "No suitable transfer method found" := by
  unfold Chain.createTransfer Chain.transferMethod
  split
  · rfl
  · split
    · rfl
    · rfl

variable (chain : ApiPromise → Chain)

/-- What a submission is for. -/
def Submission.signing (s : Submission) : Option Signing :=
  (chain s.api).transferMethod.map fun method =>
    { api := s.api
      account := s.selectedAccount
      module := "balances"
      method := method
      args := [.string s.recipient, .string (String.ofList (rawAmount s.amount s.tokenDecimals))] }

namespace Page

def signings (p : Page) : List Signing := p.closures.filterMap (Submission.signing chain)

/-- What the page's state gives a submission, for the instance there is. -/
def prepared (p : Page) : Option Signing := p.api.bind fun api => (p.clicked api).signing chain

/-- What an event calls `signAndSend` for. -/
def signs (p : Page) : Event → Option Signing
  | .injected k (.ok ()) =>
      (p.submissions[k]?).bind fun s =>
        match s.stage with
        | .injecting _ =>
            if (chain s.api).createTransfer s.recipient (rawAmount s.amount s.tokenDecimals) = none
            then s.signing chain
            else none
        | _ => none
  | _ => none

variable {chain} {formatBalance : Nat → String → Nat → String} {p p' : Page}

/-- **What the submissions are for, stays**; a click adds what the page's state gives. -/
theorem signings_handle {e : Event} (h : handle chain formatBalance p e = some p') {x : Signing}
    (hx : x ∈ p'.signings chain) : x ∈ p.signings chain ∨
      e = .submit ∧ p.SubmitEnabled ∧ p.isApiReady = true ∧ p.prepared chain = some x ∧
        x.account ∈ p.accounts.map Extrinsics.Account.address := by
  rcases handle_closures h with hc | ⟨api, he, hen, hapi, hready, hmem, hc⟩
  · rw [signings, hc] at hx
    exact .inl hx
  · rw [signings, hc, List.filterMap_append, List.mem_append] at hx
    refine hx.imp id fun hx => ?_
    obtain ⟨s, hs, hsigning⟩ := List.mem_filterMap.mp hx
    rw [List.mem_singleton] at hs
    refine ⟨he, hen, hready, ?_, ?_⟩
    · rw [prepared, hapi, Option.bind_some, ← hs]
      exact hsigning
    · obtain ⟨method, -, rfl⟩ := Option.map_eq_some_iff.mp hsigning
      rw [hs]
      exact hmem

/-- What is signed is what a submission is for. -/
theorem signs_mem {e : Event} {x : Signing} (h : p.signs chain e = some x) :
    x ∈ p.signings chain := by
  unfold signs at h
  split at h
  · obtain ⟨s, hs, h⟩ := Option.bind_eq_some_iff.mp h
    split at h
    · split at h
      · exact List.mem_filterMap.mpr
          ⟨s.closure, List.mem_map_of_mem (List.mem_of_getElem? hs), h⟩
      · cases h
    · cases h
  · cases h

end Page

end Transfer

/-! ### The Extrinsics page -/

namespace Extrinsics
open Service (ApiPromise)

/-- What a submission is for, which captured the instance `api`. -/
def Submission.signing (s : Submission) (api : ApiPromise) : Signing where
  api := api
  account := s.selectedAccount
  module := s.selectedModule
  method := s.selectedMethod
  args := s.processedParams

namespace Hosted

def signings (h : Hosted) : List Signing :=
  List.zipWith Submission.signing (h.page.submissions.map Submission.closure) h.apis

/-- What the page's state gives a submission, for the instance there is. -/
def prepared (h : Hosted) : Option Signing := h.api.map fun api => h.page.clicked.signing api

/-- What an event calls `signAndSend` for. -/
def signs (chain : ApiPromise → Chain) (h : Hosted) : Extrinsics.Event → Option Signing
  | .injected k (.ok ()) =>
      (h.page.submissions[k]?).bind fun s => (h.apis[k]?).bind fun api =>
        match s.stage with
        | .injecting _ =>
            if (chain api).api.txError s.selectedModule s.selectedMethod s.processedParams = none
            then some (s.signing api)
            else none
        | _ => none
  | _ => none

variable {chain : ApiPromise → Chain} {h h' : Hosted}

/-- Each submission has captured an instance. -/
def Paired (h : Hosted) : Prop := h.apis.length = h.page.submissions.length

variable (chain) in
/-- The effects leave the submissions. -/
theorem flush_submissions (suffixes : List String) (before h : Hosted) :
    (flush chain suffixes before h).page.submissions = h.page.submissions ∧
      (flush chain suffixes before h).apis = h.apis := by
  obtain ⟨⟨-, -, hapis⟩, ⟨-, hpage⟩ | ⟨-, hpage⟩⟩ := flush_cases chain suffixes before h
  · exact ⟨by rw [hpage], hapis⟩
  · refine ⟨?_, hapis⟩
    rw [hpage]
    exact (parameterEffect_sets _ suffixes h.page).2.2.1

variable (chain) in
/-- A page that is mounted has the context, and no submissions. -/
theorem mount_empty (api : Option ApiPromise) (isApiReady : Bool) :
    (mount chain api isApiReady).api = api ∧ (mount chain api isApiReady).isApiReady = isApiReady ∧
      (mount chain api isApiReady).page.submissions = [] ∧
      (mount chain api isApiReady).apis = [] := by
  have hsame : (init api isApiReady).SamePage
      (((init api isApiReady).modulesEffect chain).methodsEffect chain) :=
    (samePage_modulesEffect _ _).trans (samePage_methodsEffect _ _)
  refine ⟨hsame.api, hsame.isApiReady, ?_, hsame.apis⟩
  rw [mount, parameterEffect, hsame.page]
  exact (parameterEffect_sets _ [] _).2.2.1

/-- A click captures a submission and an instance, or neither. -/
theorem handleSubmit_capture (h : Hosted) (api : ApiPromise) (hen : h.page.SubmitEnabled) :
    (h.page.handleSubmit.submissions = h.page.submissions ∧
      h.capture h.page.handleSubmit api = h.apis) ∨
    ∃ account ∈ h.page.accounts, account.address = h.page.selectedAccount ∧
      h.page.handleSubmit.submissions =
        h.page.submissions ++ [{ h.page.clicked with stage := .injecting account.source }] ∧
      h.capture h.page.handleSubmit api = h.apis ++ [api] := by
  rcases handleSubmit_submissions hen with hsame | ⟨account, hmem, heq, hs⟩
  · exact .inl ⟨hsame, if_neg (by rw [hsame]; exact Nat.lt_irrefl _)⟩
  · exact .inr ⟨account, hmem, heq, hs,
      if_pos (by rw [hs, List.length_append]; exact Nat.lt_succ_self _)⟩

theorem paired_handle {e : Extrinsics.Event} (hp : h.Paired) (hh : handle chain h e = some h') :
    h'.Paired := by
  rcases handle_page hh with ⟨-, -, rfl⟩ | ⟨api, p, hpage, ⟨he, rfl⟩ | ⟨a, rfl, -, rfl⟩⟩
  · exact hp
  · have hlen := congrArg List.length (handle_closures he hpage)
    rw [List.length_map, List.length_map] at hlen
    exact hp.trans hlen.symm
  · obtain ⟨hen, rfl⟩ := handle_submit hpage
    rcases handleSubmit_capture h a hen with ⟨hs, ha⟩ | ⟨account, -, -, hs, ha⟩
    · exact (congrArg List.length ha).trans (hp.trans (congrArg List.length hs).symm)
    · rw [Paired, ha, hs, List.length_append, List.length_append, hp]
      rfl

/-- **What the submissions are for, stays**; a click adds what the page's state gives. -/
theorem signings_handle {e : Extrinsics.Event} (hp : h.Paired) (hh : handle chain h e = some h')
    {x : Signing} (hx : x ∈ h'.signings) : x ∈ h.signings ∨
      e = .submit ∧ h.page.SubmitEnabled ∧ h.FormShown ∧ h.prepared = some x ∧
        x.account ∈ h.page.accounts.map Account.address := by
  have hoffers : h.Offers e := by
    unfold handle at hh
    split at hh
    · assumption
    · cases hh
  rcases handle_page hh with ⟨-, -, rfl⟩ | ⟨api, p, hpage, ⟨he, rfl⟩ | ⟨a, rfl, hapi, rfl⟩⟩
  · exact .inl hx
  · rw [signings, handle_closures he hpage] at hx
    exact .inl hx
  · obtain ⟨hen, rfl⟩ := handle_submit hpage
    rcases handleSubmit_capture h a hen with ⟨hs, ha⟩ | ⟨account, hmem, heq, hs, ha⟩
    · rw [signings, hs, ha] at hx
      exact .inl hx
    · rw [signings, hs, ha, List.map_append, List.zipWith_append (by rw [List.length_map, hp]),
        List.mem_append, List.map_singleton] at hx
      refine hx.imp id fun hx => ⟨rfl, hen, hoffers, ?_, ?_⟩
      · rw [prepared, hapi, Option.map_some, List.mem_singleton.mp hx]
        rfl
      · have hlisted : h.page.selectedAccount ∈ h.page.accounts.map Account.address :=
          heq ▸ List.mem_map_of_mem hmem
        rw [List.mem_singleton.mp hx]
        exact hlisted

/-- What is signed is what a submission is for. -/
theorem signs_mem {e : Extrinsics.Event} {x : Signing} (hs : h.signs chain e = some x) :
    x ∈ h.signings := by
  unfold signs at hs
  split at hs
  · rename_i k
    obtain ⟨s, hk, hs⟩ := Option.bind_eq_some_iff.mp hs
    obtain ⟨api, hk', hs⟩ := Option.bind_eq_some_iff.mp hs
    split at hs
    · split at hs
      · cases hs
        refine List.mem_of_getElem? (i := k) ?_
        rw [signings, List.getElem?_zipWith, List.getElem?_map, hk, hk']
        rfl
      · cases hs
    · cases hs
  · cases hs

end Hosted

end Extrinsics

/-! ### The page that is shown, and those that have been left -/

namespace App.Screen
open Service (ApiPromise)
variable {ρ : Type*} {chains : Chains}

variable (chains) in
/-- What the submissions under way of a page are for. -/
def signings : Screen ρ → List Signing
  | .home | .chainState _ => []
  | .extrinsics h => h.signings
  | .transfer p => p.signings chains.transfer

variable (chains) in
/-- What the page's state gives a submission that is clicked now. -/
def prepared : Screen ρ → Option Signing
  | .home | .chainState _ => none
  | .extrinsics h => h.prepared
  | .transfer p => p.prepared chains.transfer

variable (chains) in
/-- What an event of the page calls `signAndSend` for. -/
def signs : Screen ρ → PageEvent ρ → Option Signing
  | .extrinsics h, .extrinsics e => h.signs chains.extrinsics e
  | .transfer p, .transfer e => p.signs chains.transfer e
  | _, _ => none

/-- The button that submits is there, and enabled. -/
def SubmitEnabled : Screen ρ → Prop
  | .home | .chainState _ => False
  | .extrinsics h => h.FormShown ∧ h.page.SubmitEnabled
  | .transfer p => p.isApiReady = true ∧ p.SubmitEnabled

/-- The accounts that the wallet has listed. -/
def accounts : Screen ρ → List String
  | .home | .chainState _ => []
  | .extrinsics h => h.page.accounts.map Extrinsics.Account.address
  | .transfer p => p.accounts.map Extrinsics.Account.address

/-- The page has the context of the provider that publishes `api`. -/
def Synced (api : Option ApiPromise) (isApiReady : Bool) : Screen ρ → Prop
  | .home => True
  | .chainState h => h.api = api ∧ h.isApiReady = isApiReady
  | .extrinsics h => h.api = api ∧ h.isApiReady = isApiReady
  | .transfer p => p.api = api ∧ p.isApiReady = isApiReady

/-- Each submission has captured an instance. -/
def Paired : Screen ρ → Prop
  | .extrinsics h => h.Paired
  | .home | .chainState _ | .transfer _ => True

end App.Screen

end SubstrateDevTemplate
