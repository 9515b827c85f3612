import SubstrateDevTemplate.Extrinsics.Chains

/-!
# Extrinsics — the options are the chain's

The two selects offer what was listed of some instance: the modules when it was published ready, the
methods when it was published or the module was selected.  Neither list outlives the instance it is
of, as long as there is one.

* `held_flush`, `held_run`: what the effects leave of the two lists.
* `options_of_chain`: with an instance there and the form shown, the options are the modules of its
  chain and the methods of the selected one there, in order; and no methods where it has no such
  module.
-/

namespace SubstrateDevTemplate.Extrinsics
open Service (ApiPromise)
open Transition

/-- The modules the page offers of those of a chain. -/
def offeredModules (modules : List String) : List String :=
  (Js.sort modules).filter fun module =>
    decide (module ≠ "$metadata") && decide (module ≠ "council")

/-- The methods it offers of those of a module. -/
def offeredMethods (methods : List String) : List String :=
  Js.sort (methods.filter fun method => !Js.startsWith method "$")

/-- The methods it offers of a module of a chain: none where they cannot be read. -/
def offeredMethodsOf (chain : Chain) (module : String) : List String :=
  if module = "" then []
  else
    match chain.methods module with
    | .error _ => []
    | .ok methods => offeredMethods methods

theorem mem_offeredModules {modules : List String} {module : String} :
    module ∈ offeredModules modules ↔
      module ∈ modules ∧ module ≠ "$metadata" ∧ module ≠ "council" := by
  simp [offeredModules, (Js.sort_perm modules).mem_iff]

theorem mem_offeredMethods {methods : List String} {method : String} :
    method ∈ offeredMethods methods ↔ method ∈ methods ∧ Js.startsWith method "$" = false := by
  simp [offeredMethods, (Js.sort_perm _).mem_iff]

/-- Both are in order, and offer nothing twice that is not there twice. -/
structure Listing (offered available : List String) : Prop where
  sorted : offered.Pairwise Js.SortsBefore
  once : available.Nodup → offered.Nodup

theorem listing_modules (modules : List String) : Listing (offeredModules modules) modules where
  sorted := (Js.sort_sorted modules).filter _
  once h := ((Js.sort_perm modules).nodup_iff.mpr h).filter _

theorem listing_methods (methods : List String) : Listing (offeredMethods methods) methods where
  sorted := Js.sort_sorted _
  once h := (Js.sort_perm _).nodup_iff.mpr (h.filter _)

namespace Hosted
variable {chain : ApiPromise → Chain} {h h' : Hosted}

variable (chain) in
/-- The modules, or the error, are those of the instance there is, if it is ready. -/
def ModulesHeld (h : Hosted) : Prop :=
  ∀ api, h.api = some api → h.isApiReady = true →
    match (chain api).modules with
    | .ok modules => h.modules = offeredModules modules ∧ h.error = none
    | .error message => h.error = some message

variable (chain) in
/-- The methods are those of the selected module on the chain of the instance there is. -/
def MethodsHeld (h : Hosted) : Prop :=
  ∀ api, h.api = some api → h.methods = offeredMethodsOf (chain api) h.page.selectedModule

theorem modulesHeld_effect (h : Hosted) : ModulesHeld chain (h.modulesEffect chain) := by
  unfold modulesEffect
  split
  · rename_i hnone
    intro api hapi
    rw [hnone] at hapi
    cases hapi
  · rename_i api hapi
    split
    · rename_i hready
      intro api' _ hready'
      rw [hready] at hready'
      cases hready'
    · split
      · rename_i message hmodules
        intro api' hapi' _
        obtain rfl : api = api' := Option.some.inj (hapi.symm.trans hapi')
        rw [hmodules]
      · rename_i modules hmodules
        intro api' hapi' _
        obtain rfl : api = api' := Option.some.inj (hapi.symm.trans hapi')
        rw [hmodules]
        exact ⟨rfl, rfl⟩

theorem methodsHeld_effect (h : Hosted) : MethodsHeld chain (h.methodsEffect chain) := by
  intro api hapi
  rw [(samePage_methodsEffect chain h).api] at hapi
  rw [(samePage_methodsEffect chain h).page, methodsEffect, hapi, offeredMethodsOf]
  by_cases hempty : h.page.selectedModule = ""
  · simp only [if_pos hempty]
  · simp only [if_neg hempty]
    cases (chain api).methods h.page.selectedModule with
    | error message => rfl
    | ok methods => rfl

theorem ModulesHeld.congr (hm : ModulesHeld chain h) (hapi : h'.api = h.api)
    (hready : h'.isApiReady = h.isApiReady) (hmodules : h'.modules = h.modules)
    (herror : h'.error = h.error) : ModulesHeld chain h' := by
  intro api ha hr
  rw [hmodules, herror]
  exact hm api (hapi ▸ ha) (hready ▸ hr)

theorem MethodsHeld.congr (hm : MethodsHeld chain h) (hapi : h'.api = h.api)
    (hmodule : h'.page.selectedModule = h.page.selectedModule) (hmethods : h'.methods = h.methods) :
    MethodsHeld chain h' := by
  intro api ha
  rw [hmodule, hmethods]
  exact hm api (hapi ▸ ha)

variable (chain) in
/-- The methods are no modules. -/
theorem methodsEffect_modules (h : Hosted) : (h.methodsEffect chain).modules = h.modules ∧
    (h.methodsEffect chain).error = h.error := by
  unfold methodsEffect
  split
  · exact ⟨rfl, rfl⟩
  · split
    · exact ⟨rfl, rfl⟩
    · split
      · exact ⟨rfl, rfl⟩
      · exact ⟨rfl, rfl⟩

variable (chain) in
theorem modulesEffect_methods (h : Hosted) : (h.modulesEffect chain).methods = h.methods := by
  unfold modulesEffect
  split
  · rfl
  · split
    · rfl
    · split
      · rfl
      · rfl

/-- The parameter effect leaves the lists, and what they are of. -/
theorem parameterEffect_lists (suffixes : List String)
    (hheld : ModulesHeld chain h ∧ MethodsHeld chain h) :
    ModulesHeld chain (h.parameterEffect chain suffixes) ∧
      MethodsHeld chain (h.parameterEffect chain suffixes) :=
  ⟨hheld.1.congr rfl rfl rfl rfl,
    hheld.2.congr rfl (parameterEffect_sets _ suffixes h.page).1 rfl⟩

/-- **The effects** list again what is of another instance, or of another module. -/
theorem held_flush {suffixes : List String} {before : Hosted}
    (hmodules : h.api = before.api → h.isApiReady = before.isApiReady → ModulesHeld chain h)
    (hmethods : h.api = before.api → h.page.selectedModule = before.page.selectedModule →
      MethodsHeld chain h) :
    ModulesHeld chain (flush chain suffixes before h) ∧
      MethodsHeld chain (flush chain suffixes before h) := by
  have hlast : ∀ (b : Prop) [Decidable b] (q : Hosted), ModulesHeld chain q ∧ MethodsHeld chain q →
      ModulesHeld chain (if b then q.parameterEffect chain suffixes else q) ∧
        MethodsHeld chain (if b then q.parameterEffect chain suffixes else q) := by
    intro b _ q hq
    split
    · exact parameterEffect_lists suffixes hq
    · exact hq
  refine hlast _ _ ⟨?_, ?_⟩
  · have hfirst : ModulesHeld chain
        (if h.api ≠ before.api ∨ h.isApiReady ≠ before.isApiReady then h.modulesEffect chain
          else h) := by
      split
      · exact modulesHeld_effect h
      · rename_i hsame
        obtain ⟨hapi, hready⟩ := not_or.mp hsame |>.imp not_not.mp not_not.mp
        exact hmodules hapi hready
    split
    · obtain ⟨h₁, h₂⟩ := methodsEffect_modules chain
        (if h.api ≠ before.api ∨ h.isApiReady ≠ before.isApiReady then h.modulesEffect chain else h)
      have hsame := samePage_methodsEffect chain
        (if h.api ≠ before.api ∨ h.isApiReady ≠ before.isApiReady then h.modulesEffect chain else h)
      exact hfirst.congr hsame.api hsame.isApiReady h₁ h₂
    · exact hfirst
  · split
    · exact methodsHeld_effect _
    · rename_i hsame
      obtain ⟨hapi, hmodule⟩ := not_or.mp hsame |>.imp not_not.mp not_not.mp
      have hheld := hmethods hapi hmodule
      split
      · have hfirst := samePage_modulesEffect chain h
        exact hheld.congr hfirst.api (by rw [hfirst.page]) (modulesEffect_methods chain h)
      · exact hheld

/-- **One event.** -/
theorem held_step {e : Event} (hheld : ModulesHeld chain h ∧ MethodsHeld chain h)
    (hs : step chain h e = some h') : ModulesHeld chain h' ∧ MethodsHeld chain h' := by
  cases e with
  | context api isApiReady suffixes =>
      cases hs
      exact held_flush (fun hapi hready => hheld.1.congr hapi hready rfl rfl)
        fun hapi _ => hheld.2.congr hapi rfl rfl
  | page e =>
      obtain ⟨h₁, hh, rfl⟩ := Option.map_eq_some_iff.mp hs
      rcases handle_page hh with ⟨-, -, rfl⟩ | ⟨api, p, -, ⟨-, rfl⟩ | ⟨a, -, -, rfl⟩⟩
      · exact held_flush (fun _ _ => hheld.1) fun _ _ => hheld.2
      · exact held_flush (fun _ _ => hheld.1.congr rfl rfl rfl rfl)
          fun _ hmodule => hheld.2.congr rfl hmodule rfl
      · exact held_flush (fun _ _ => hheld.1.congr rfl rfl rfl rfl)
          fun _ hmodule => hheld.2.congr rfl hmodule rfl

/-- **In every run.** -/
theorem held_run {start : Option ApiPromise} {isApiReady : Bool} {es : List Event}
    (hrun : Run (step chain) anyEvent (mount chain start isApiReady) es h) :
    ModulesHeld chain h ∧ MethodsHeld chain h := by
  refine hrun.invariant (I := fun h => ModulesHeld chain h ∧ MethodsHeld chain h)
    (fun _ _ _ hI _ hs => held_step hI hs) ?_
  have hfirst : ModulesHeld chain _ := modulesHeld_effect (init start isApiReady)
  have hsame := samePage_methodsEffect chain ((init start isApiReady).modulesEffect chain)
  obtain ⟨h₁, h₂⟩ := methodsEffect_modules chain ((init start isApiReady).modulesEffect chain)
  exact parameterEffect_lists []
    ⟨hfirst.congr hsame.api hsame.isApiReady h₁ h₂, methodsHeld_effect _⟩

/-- What is shown is of the instance there is. -/
theorem ModulesHeld.of_api (hm : ModulesHeld chain h) {api : ApiPromise} (hapi : h.api = some api)
    (hform : h.FormShown) : ∃ modules, (chain api).modules = .ok modules ∧
      h.modules = offeredModules modules := by
  have hm := hm api hapi hform.1
  cases hmodules : (chain api).modules with
  | error message =>
      rw [hmodules, hform.2] at hm
      cases hm
  | ok modules =>
      rw [hmodules] at hm
      exact ⟨modules, rfl, hm.1⟩

/-- **The options are the chain's.**  With an instance there and the form shown, the modules that
can be selected are those of its chain but `$metadata` and `council`, and the methods those of the
selected module there but the ones with a `$`; each list in order, and nothing twice in it.  With no
module selected, or one whose methods cannot be read there, there is no method to select. -/
theorem options_of_chain {start : Option ApiPromise} {isApiReady : Bool} {es : List Event}
    (hrun : Run (step chain) anyEvent (mount chain start isApiReady) es h) {api : ApiPromise}
    (hapi : h.api = some api) (hform : h.FormShown) :
    (∃ modules, (chain api).modules = .ok modules ∧ Listing h.modules modules ∧
      ∀ module, module ∈ h.modules ↔
        module ∈ modules ∧ module ≠ "$metadata" ∧ module ≠ "council") ∧
    (∀ methods, h.page.selectedModule ≠ "" →
      (chain api).methods h.page.selectedModule = .ok methods → Listing h.methods methods ∧
      ∀ method, method ∈ h.methods ↔ method ∈ methods ∧ Js.startsWith method "$" = false) ∧
    (h.page.selectedModule = "" ∨
      (∃ message, (chain api).methods h.page.selectedModule = .error message) →
      h.methods = []) := by
  obtain ⟨hmodules, hmethodsHeld⟩ := held_run hrun
  have hheld := hmethodsHeld api hapi
  refine ⟨?_, fun methods hne hmethods => ?_, fun hnone => ?_⟩
  · obtain ⟨modules, hm, hlist⟩ := hmodules.of_api hapi hform
    rw [hlist]
    exact ⟨modules, hm, listing_modules modules, fun _ => mem_offeredModules⟩
  · rw [offeredMethodsOf, if_neg hne, hmethods] at hheld
    rw [hheld]
    exact ⟨listing_methods methods, fun _ => mem_offeredMethods⟩
  · rw [hheld, offeredMethodsOf]
    split
    · rfl
    · rename_i hne
      obtain ⟨message, hmessage⟩ := hnone.resolve_left hne
      rw [hmessage]

end Hosted

/-- Two chains, of which only the first has a module `system`. -/
def twoChains (api : ApiPromise) : Chain :=
  let modules := if api.id = 0 then ["system", "council"] else ["utility", "balances"]
  { api := noMetadata
    modules := .ok modules
    methods := fun module =>
      if module ∈ modules then .ok ["transfer", "$meta", "burn"]
      else .error "Cannot convert undefined or null to object" }

/-- The page shows one chain's modules, and then another's, which has no methods for the module
that is selected. -/
theorem Hosted.options_of_chain_changed :
    ∃ h, Run (step twoChains) anyEvent
        (mount twoChains (some ⟨0, "wss://rpc.polkadot.io"⟩) true) [.page (.moduleChange "system"),
          .context (some ⟨1, "wss://kusama-rpc.polkadot.io"⟩) true []] h ∧
      (∃ modules, (twoChains ⟨1, "wss://kusama-rpc.polkadot.io"⟩).modules = .ok modules ∧
        Listing h.modules modules ∧ ∀ module, module ∈ h.modules ↔
          module ∈ modules ∧ module ≠ "$metadata" ∧ module ≠ "council") ∧
      h.methods = [] := by
  obtain ⟨h, hrun, hapi, hform, hmodule⟩ : ∃ h, Run (step twoChains) anyEvent
      (mount twoChains (some ⟨0, "wss://rpc.polkadot.io"⟩) true) [.page (.moduleChange "system"),
        .context (some ⟨1, "wss://kusama-rpc.polkadot.io"⟩) true []] h ∧
      h.api = some ⟨1, "wss://kusama-rpc.polkadot.io"⟩ ∧ h.FormShown ∧
      h.page.selectedModule = "system" := exists_run (by decide)
  obtain ⟨hmodules, -, hnone⟩ := options_of_chain hrun hapi hform
  refine ⟨h, hrun, hmodules, hnone (.inr ⟨"Cannot convert undefined or null to object", ?_⟩)⟩
  rw [hmodule]
  decide

end SubstrateDevTemplate.Extrinsics
