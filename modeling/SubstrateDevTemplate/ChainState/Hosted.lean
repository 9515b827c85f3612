import SubstrateDevTemplate.Support.Runs
import SubstrateDevTemplate.Service.Definitions
import SubstrateDevTemplate.Catalogue.Definitions

/-!
# ChainState — Hosted

The ChainState page under the provider: the catalogue of `useChainState`, fetched of every instance
that is published ready, and the instances the queries under way have captured.

`table api` is `api.query`, as the hook enumerates it, or what enumerating it throws.  What
`executeQuery` settles with comes with the event; without an instance it throws at once.
-/

namespace SubstrateDevTemplate.ChainState
open Service (ApiPromise)
open Catalogue (Hook StorageTests Table)

/-- The page, with the hook and what it has of the context.  `apis` are what the queries captured,
in their order. -/
structure Hosted (ρ : Type*) where
  page : Page ρ
  hook : Hook
  api : Option ApiPromise
  isApiReady : Bool
  apis : List (Option ApiPromise)

namespace Hosted
variable {ρ : Type*}

/-- The page as it is rendered first. -/
def init (api : Option ApiPromise) (isApiReady : Bool) : Hosted ρ where
  page := .init
  hook := ⟨[], false, none⟩
  api := api
  isApiReady := isApiReady
  apis := []

section
variable (table : ApiPromise → Except String (Table StorageTests))

/-- The hook's effect. -/
def hookEffect (h : Hosted ρ) : Hosted ρ :=
  match h.api with
  | none => h
  | some api =>
      if h.isApiReady = false then h
      else { h with hook := StorageTests.fetchModules (table api) h.hook }

/-- The page, mounted. -/
def mount (api : Option ApiPromise) (isApiReady : Bool) : Hosted ρ :=
  (init api isApiReady).hookEffect table

end

/-- The form is rendered. -/
def FormShown (h : Hosted ρ) : Prop := h.isApiReady = true ∧ h.hook.error = none

instance (h : Hosted ρ) : Decidable h.FormShown := inferInstanceAs (Decidable (_ ∧ _))

/-- What a query can settle with: without an instance, with the error thrown for it. -/
def Settles (api : Option ApiPromise) : Except String ρ → Bool
  | .ok _ => api.isSome
  | .error message => api.isSome || decide (message = "API not ready")

/-- What the page offers: its form, with the options of the selects.  A query settles whatever is
rendered. -/
def Offers (h : Hosted ρ) : ChainState.Event ρ → Prop
  | .moduleChange newModule =>
      h.FormShown ∧ newModule ∈ "" :: h.hook.modules.map ChainStateModule.name
  | .methodChange newMethod =>
      h.FormShown ∧ newMethod ∈ "" :: (h.page.moduleMethods h.hook.modules).map Method.name
  | .paramChange _ _ | .query => h.FormShown
  | .settled k outcome => ∀ api ∈ h.apis[k]?, Settles api outcome = true

instance (h : Hosted ρ) : (e : ChainState.Event ρ) → Decidable (h.Offers e)
  | .moduleChange _ | .methodChange _ => inferInstanceAs (Decidable (_ ∧ _))
  | .paramChange _ _ | .query => inferInstanceAs (Decidable h.FormShown)
  | .settled k outcome =>
      inferInstanceAs (Decidable (∀ api ∈ h.apis[k]?, Settles api outcome = true))

/-- The instances captured, after an event. -/
def capture (h : Hosted ρ) : ChainState.Event ρ → List (Option ApiPromise)
  | .query => h.apis ++ [h.api]
  | .settled k _ => h.apis.eraseIdx k
  | .moduleChange _ | .methodChange _ | .paramChange _ _ => h.apis

/-- What happens to the page: the context has another api, or another readiness; or an event of the
page's own. -/
inductive Event (ρ : Type*) where
  | context (api : Option ApiPromise) (isApiReady : Bool)
  | page (e : ChainState.Event ρ)

/-- The handler of an event of the page. -/
def handle (h : Hosted ρ) (e : ChainState.Event ρ) : Option (Hosted ρ) :=
  if h.Offers e then
    (ChainState.step h.hook.modules h.page e).map fun p =>
      { h with page := p, apis := h.capture e }
  else none

/-- One event, with its effect, which depends on the context only. -/
def step (table : ApiPromise → Except String (Table StorageTests)) (h : Hosted ρ) :
    Event ρ → Option (Hosted ρ)
  | .context api isApiReady =>
      let h' := { h with api := api, isApiReady := isApiReady }
      some (if api ≠ h.api ∨ isApiReady ≠ h.isApiReady then h'.hookEffect table else h')
  | .page e => h.handle e

end Hosted

end SubstrateDevTemplate.ChainState
