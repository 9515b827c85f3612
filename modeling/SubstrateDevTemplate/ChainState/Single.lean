import SubstrateDevTemplate.Catalogue.Complete
import SubstrateDevTemplate.ChainState.Hosted

/-!
# ChainState — one query at a time

The Query button is disabled while `isQuerying` is set, whatever is selected meanwhile and whatever
is published.

* `Single.handle`: an event of the page keeps the flag and what is shown in step.
* `query_single`: in every state of every run, the flag is set exactly while one query is under way,
  and nothing is shown then; a result and an error are never shown together.
* `catalogue_of_chain`: what is listed is what there is on the chain that is connected, or the page
  shows why it cannot be listed.
-/

namespace SubstrateDevTemplate.ChainState
open Service (ApiPromise)
open Catalogue (StorageTests Table Catalogued Enumerates)
open Transition

namespace Hosted
variable {ρ : Type*} {table : ApiPromise → Except String (Table StorageTests)} {h h' : Hosted ρ}

/-- The flag is right, and only what settled last is shown. -/
structure Single (h : Hosted ρ) : Prop where
  queries : h.page.queries.length = if h.page.isQuerying then 1 else 0
  apis : h.apis.length = h.page.queries.length
  waiting : h.page.isQuerying = true → h.page.queryResult = none ∧ h.page.queryError = none
  shown : h.page.queryResult = none ∨ h.page.queryError = none

theorem single_init (api : Option ApiPromise) (isApiReady : Bool) :
    (init api isApiReady : Hosted ρ).Single :=
  ⟨rfl, rfl, fun _ => ⟨rfl, rfl⟩, .inl rfl⟩

/-- The hook is no part of the query. -/
theorem Single.hookEffect (hs : h.Single) : (h.hookEffect table).Single := by
  unfold Hosted.hookEffect
  split
  · exact hs
  · split
    · exact hs
    · exact ⟨hs.queries, hs.apis, hs.waiting, hs.shown⟩

/-- A selection clears what is shown, and leaves the query. -/
theorem Single.cleared {p : Page ρ} (hs : h.Single) (hflag : p.isQuerying = h.page.isQuerying)
    (hqueries : p.queries = h.page.queries) (hresult : p.queryResult = none)
    (herror : p.queryError = none) : ({ h with page := p } : Hosted ρ).Single :=
  ⟨by rw [hqueries, hflag]; exact hs.queries, by rw [hqueries]; exact hs.apis,
    fun _ => ⟨hresult, herror⟩, .inl hresult⟩

theorem Single.handle {e : ChainState.Event ρ} (hs : h.Single) (hh : h.handle e = some h') :
    h'.Single := by
  unfold Hosted.handle at hh
  split at hh
  · obtain ⟨p, hp, rfl⟩ := Option.map_eq_some_iff.mp hh
    cases e with
    | moduleChange newModule =>
        cases hp
        exact hs.cleared rfl rfl rfl rfl
    | methodChange newMethod =>
        simp only [ChainState.step] at hp
        split at hp
        · cases hp
        · cases hp; exact hs.cleared rfl rfl rfl rfl
    | paramChange index value =>
        simp only [ChainState.step] at hp
        split at hp
        · cases hp; exact ⟨hs.queries, hs.apis, hs.waiting, hs.shown⟩
        · cases hp
    | query =>
        simp only [ChainState.step] at hp
        split at hp
        · cases hp
        · rename_i hen
          cases hp
          have hclear : h.page.isQuerying = false := by simpa using fun h => hen (.inl h)
          have hnone := hs.queries
          rw [hclear] at hnone
          refine ⟨?_, ?_, fun _ => ⟨rfl, rfl⟩, .inl rfl⟩
          · simpa [Page.handleQuery] using hnone
          · simp only [capture, Page.handleQuery, List.length_append, hs.apis, List.length_singleton]
    | settled k outcome =>
        simp only [ChainState.step] at hp
        split at hp
        · rename_i hk
          -- there is one query, and it is this one
          have hone : h.page.queries.length = 1 := by
            have := hs.queries
            split at this
            · exact this
            · omega
          have hapis := hs.apis
          have hk' : k < h.apis.length := by omega
          have hrest : (h.page.queries.eraseIdx k).length = 0 := by
            rw [List.length_eraseIdx_of_lt hk, hone]
          have hresta : (h.apis.eraseIdx k).length = 0 := by
            rw [List.length_eraseIdx_of_lt hk']
            omega
          have hflag : h.page.isQuerying = true := by
            have := hs.queries
            split at this
            · assumption
            · omega
          obtain ⟨hresult, herror⟩ := hs.waiting hflag
          cases outcome with
          | ok result =>
              cases hp
              exact ⟨hrest, hresta.trans hrest.symm, by rintro ⟨⟩, .inr herror⟩
          | error message =>
              cases hp
              exact ⟨hrest, hresta.trans hrest.symm, by rintro ⟨⟩, .inl hresult⟩
        · cases hp
  · cases hh

theorem Single.step {e : Event ρ} (hs : h.Single) (hst : Hosted.step table h e = some h') :
    h'.Single := by
  cases e with
  | context api isApiReady =>
      cases hst
      have hcontext : ({ h with api := api, isApiReady := isApiReady } : Hosted ρ).Single :=
        ⟨hs.queries, hs.apis, hs.waiting, hs.shown⟩
      split
      · exact hcontext.hookEffect
      · exact hcontext
  | page e => exact hs.handle hst

/-- **One query at a time.** -/
theorem query_single {api : Option ApiPromise} {isApiReady : Bool} {es : List (Event ρ)}
    (hrun : Run (Hosted.step table) anyEvent (mount table api isApiReady) es h) :
    (h.page.queries.length = if h.page.isQuerying then 1 else 0) ∧
    (h.page.isQuerying = true → h.page.queryResult = none ∧ h.page.queryError = none) ∧
    (h.page.queryResult = none ∨ h.page.queryError = none) := by
  have hs : h.Single := hrun.invariant (fun _ _ _ hI _ hst => hI.step hst)
    (single_init api isApiReady).hookEffect
  exact ⟨hs.queries, hs.waiting, hs.shown⟩

/-! ### The catalogue -/

variable (table) in
/-- The catalogue was fetched of the instance there is, if it is ready. -/
def Fetched (h : Hosted ρ) : Prop :=
  ∀ api, h.api = some api → h.isApiReady = true →
    ∃ hook, h.hook = StorageTests.fetchModules (table api) hook

theorem fetched_hookEffect (h : Hosted ρ) : Fetched table (h.hookEffect table) := by
  unfold hookEffect
  split
  · rename_i hnone
    intro api hapi
    rw [hnone] at hapi
    cases hapi
  · rename_i api hapi
    split
    · rename_i hready
      intro api' _ hready'
      rw [hready] at hready'
      cases hready'
    · intro api' hapi' _
      obtain rfl : api = api' := Option.some.inj (hapi.symm.trans hapi')
      exact ⟨h.hook, rfl⟩

/-- An event of the page leaves the hook and the context. -/
theorem handle_context {e : ChainState.Event ρ} (hh : h.handle e = some h') :
    h'.hook = h.hook ∧ h'.api = h.api ∧ h'.isApiReady = h.isApiReady := by
  unfold handle at hh
  split at hh
  · obtain ⟨p, -, rfl⟩ := Option.map_eq_some_iff.mp hh
    exact ⟨rfl, rfl, rfl⟩
  · cases hh

theorem fetched_step {e : Event ρ} (hf : Fetched table h) (hs : Hosted.step table h e = some h') :
    Fetched table h' := by
  cases e with
  | context api isApiReady =>
      cases hs
      split
      · exact fetched_hookEffect _
      · rename_i hsame
        obtain ⟨rfl, rfl⟩ := not_or.mp hsame |>.imp not_not.mp not_not.mp
        exact hf
  | page e =>
      obtain ⟨h₁, h₂, h₃⟩ := handle_context hs
      intro api hapi hready
      rw [h₁]
      exact hf api (h₂ ▸ hapi) (h₃ ▸ hready)

theorem fetched_run {start : Option ApiPromise} {isApiReady : Bool} {es : List (Event ρ)}
    (hrun : Run (Hosted.step table) anyEvent (mount table start isApiReady) es h) :
    Fetched table h :=
  hrun.invariant (fun _ _ _ hI _ hs => fetched_step hI hs) (fetched_hookEffect _)

/-- What was fetched of an instance that can be enumerated. -/
theorem Fetched.of_ok (hf : Fetched table h) {api : ApiPromise} (hapi : h.api = some api)
    (hready : h.isApiReady = true) {query : Table StorageTests} (hquery : table api = .ok query)
    (henum : Enumerates query) :
    h.hook = ⟨Catalogue.catalogue StorageTests.describe query, false, none⟩ := by
  obtain ⟨hook, hhook⟩ := hf api hapi hready
  rw [hhook, hquery]
  exact Catalogue.fetchModules_eq henum hook

/-- Of one that cannot, the error is what enumerating some module threw. -/
theorem Fetched.of_error (hf : Fetched table h) {api : ApiPromise} (hapi : h.api = some api)
    (hready : h.isApiReady = true) {query : Table StorageTests} (hquery : table api = .ok query)
    (henum : ¬ Enumerates query) :
    ∃ name ∈ query.keys, name ≠ "$metadata" ∧ ∃ message,
      query.get name = some (.error message) ∧ h.hook.error = some message := by
  obtain ⟨hook, hhook⟩ := hf api hapi hready
  obtain ⟨name, hname, hmeta, message, hget, hfetch⟩ :=
    Catalogue.fetchModules_error StorageTests.describe henum hook
  refine ⟨name, hname, hmeta, message, hget, ?_⟩
  rw [hhook, hquery, StorageTests.fetchModules, hfetch]

/-- Or it is what enumerating the modules threw. -/
theorem Fetched.of_throws (hf : Fetched table h) {api : ApiPromise} (hapi : h.api = some api)
    (hready : h.isApiReady = true) {message : String} (hthrows : table api = .error message) :
    h.hook.error = some message := by
  obtain ⟨hook, hhook⟩ := hf api hapi hready
  rw [hhook, hthrows]
  rfl

/-- **What is listed is what there is on the chain.**  Of an instance that is connected and ready,
the catalogue lists the modules and the entries, each once; or the page shows why it cannot: what
enumerating the modules threw, or the entries of one of them. -/
theorem catalogue_of_chain {start : Option ApiPromise} {isApiReady : Bool} {es : List (Event ρ)}
    (hrun : Run (Hosted.step table) anyEvent (mount table start isApiReady) es h) {api : ApiPromise}
    (hapi : h.api = some api) (hready : h.isApiReady = true) :
    (∀ query, table api = .ok query → Enumerates query →
      h.FormShown ∧ Catalogued query h.hook.modules) ∧
    (∀ query, table api = .ok query → ¬ Enumerates query →
      ∃ name ∈ query.keys, name ≠ "$metadata" ∧ ∃ message,
        query.get name = some (.error message) ∧ h.hook.error = some message) ∧
    ∀ message, table api = .error message → h.hook.error = some message := by
  have hf := fetched_run hrun
  refine ⟨fun query hquery henum => ?_, fun query hquery henum => ?_, fun message hthrows => ?_⟩
  · have hcat := hf.of_ok hapi hready hquery henum
    refine ⟨⟨hready, by rw [hcat]⟩, ?_⟩
    rw [hcat]
    exact Catalogue.catalogue_catalogued StorageTests.describe_name
  · exact hf.of_error hapi hready hquery henum
  · exact hf.of_throws hapi hready hthrows

end Hosted

/-- A storage entry without keys. -/
def plainEntry : StorageTests where
  isFunction := true
  hasCreator := .ok true
  creatorIsObject := .ok true
  metaInCreator := .ok true
  hasMeta := .ok true
  typeInMeta := .ok true
  isMap := .ok false
  isDoubleMap := .ok false

/-- `api.query` of a chain with one storage entry. -/
def oneEntry : Except String (Table StorageTests) :=
  .ok ⟨[("system", .ok ⟨[("number", plainEntry)], List.nodup_singleton _⟩)], List.nodup_singleton _⟩

/-- The selection is changed under a query, which settles then. -/
theorem Hosted.query_single_late :
    ∃ h : Hosted Nat, Run (Hosted.step fun _ => oneEntry) anyEvent
        (.mount (fun _ => oneEntry) (some ⟨0, "wss://rpc.polkadot.io"⟩) true)
        [.page (.moduleChange "system"), .page (.methodChange "number"), .page .query,
          .page (.moduleChange ""), .page (.settled 0 (.ok 7))] h ∧
      (h.page.queryResult = none ∨ h.page.queryError = none) :=
  exists_run_and (by decide) fun _ hrun => (query_single hrun).2.2

/-- `api.query` of a chain with a module that cannot be enumerated. -/
def brokenModule : Table StorageTests :=
  ⟨[("system", .ok ⟨[("number", plainEntry)], List.nodup_singleton _⟩),
    ("staking", .error "no metadata")], (by decide : ["system", "staking"].Nodup)⟩

theorem brokenModule_throws : ¬ Enumerates brokenModule := by
  intro henum
  obtain ⟨module, hmodule⟩ := henum "staking" (by decide) (by decide)
  cases hmodule

/-- A chain with a module that cannot be enumerated is connected, and another one after it. -/
theorem Hosted.catalogue_of_chain_other :
    let table : ApiPromise → Except String (Table StorageTests) := fun api =>
      if api.id = 0 then .ok brokenModule else oneEntry
    (∃ h : Hosted Nat, Run (Hosted.step table) anyEvent (.mount table none false)
        [.context (some ⟨0, "wss://rpc.polkadot.io"⟩) true] h ∧
      ∃ message, h.hook.error = some message) ∧
    ∃ h : Hosted Nat, Run (Hosted.step table) anyEvent (.mount table none false)
        [.context (some ⟨0, "wss://rpc.polkadot.io"⟩) true,
          .context (some ⟨0, "wss://rpc.polkadot.io"⟩) false,
          .context (some ⟨1, "wss://kusama-rpc.polkadot.io"⟩) true] h ∧
      ∀ query, oneEntry = .ok query → Enumerates query →
        h.FormShown ∧ Catalogued query h.hook.modules := by
  intro table
  constructor
  · obtain ⟨h, hrun, hapi, hready⟩ : ∃ h : Hosted Nat, Run (Hosted.step table) anyEvent
        (.mount table none false) [.context (some ⟨0, "wss://rpc.polkadot.io"⟩) true] h ∧
        h.api = some ⟨0, "wss://rpc.polkadot.io"⟩ ∧ h.isApiReady = true :=
      exists_run (by decide)
    obtain ⟨name, -, -, message, -, herror⟩ :=
      (catalogue_of_chain hrun hapi hready).2.1 brokenModule rfl brokenModule_throws
    exact ⟨h, hrun, message, herror⟩
  · obtain ⟨h, hrun, hapi, hready⟩ : ∃ h : Hosted Nat, Run (Hosted.step table) anyEvent
        (.mount table none false) [.context (some ⟨0, "wss://rpc.polkadot.io"⟩) true,
          .context (some ⟨0, "wss://rpc.polkadot.io"⟩) false,
          .context (some ⟨1, "wss://kusama-rpc.polkadot.io"⟩) true] h ∧
        h.api = some ⟨1, "wss://kusama-rpc.polkadot.io"⟩ ∧ h.isApiReady = true :=
      exists_run (by decide)
    exact ⟨h, hrun, (catalogue_of_chain hrun hapi hready).1⟩

end SubstrateDevTemplate.ChainState
