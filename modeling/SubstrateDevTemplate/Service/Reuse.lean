import SubstrateDevTemplate.Service.Serial

/-!
# Service — the reuse of a live connection

An `initializeApi` call goes to its effective endpoint, `wsEndpoint`: the argument, or without one
the current endpoint.  Whether there is anything to do for it is decided by the argument, as it is.

* `effective_eq_current_iff`: which arguments mean the current endpoint.
* `call_leaves`: every argument but the current endpoint itself takes the live instance down, and
  ends in an error or in an instance of its own.
* `live_reused_iff`: a live connection is reused exactly when it is asked for by name.
-/

namespace SubstrateDevTemplate.Service
open Transition

/-- The result `r` of a call made in `s` is the instance `inst`, and the call has left everything as
it was. -/
structure Reused (s : State) (inst : ApiPromise) (r : State × Progress) : Prop where
  returned : r.2 = .settled (.resolved (some inst))
  constructed : r.1.constructed = s.constructed
  opened : r.1.opened = s.opened
  currentEndpoint : r.1.currentEndpoint = s.currentEndpoint
  localStorage : r.1.localStorage = s.localStorage

/-- A second call does nothing that the first one has not done, and has the same result. -/
def IdempotentAt (wsProviderError : String → Option String) (s : State) (request : Request) :
    Prop :=
  request.call wsProviderError (request.call wsProviderError s).1 = request.call wsProviderError s

/-- The argument is left out, or empty, or the current endpoint itself. -/
theorem effective_eq_current_iff (s : State) (endpoint : Option String) :
    Js.or endpoint s.currentEndpoint = s.currentEndpoint ↔
      endpoint = none ∨ endpoint = some "" ∨ endpoint = some s.currentEndpoint := by
  cases endpoint with
  | none => exact iff_of_true rfl (.inl rfl)
  | some e =>
      by_cases he : e = ""
      · subst he
        exact iff_of_true rfl (.inr (.inl rfl))
      · simp only [Js.or_some he, reduceCtorEq, false_or, Option.some.injEq, he]

section
variable {wsProviderError : String → Option String} {s : State} {inst : ApiPromise}

variable (wsProviderError) in
/-- A live instance, asked for by its endpoint, is returned before the call's first `await`. -/
theorem call_live (ha : s.api = some inst) (hconn : inst ∈ s.connected) :
    (Request.initializeApi (some s.currentEndpoint)).call wsProviderError s =
      (s, .settled (.resolved (some inst))) := by
  rw [call_reuses ha, State.connect_of_mem hconn]

/-- What any other call does to it. -/
theorem call_leaves (ha : s.api = some inst) {endpoint : Option String}
    (he : endpoint ≠ some s.currentEndpoint) :
    ((Request.initializeApi endpoint).enter wsProviderError s).1.opened = s.opened.erase inst ∧
    ((∃ message, ((Request.initializeApi endpoint).call wsProviderError s).2 =
        .settled (.rejected message)) ∨
      ((Request.initializeApi endpoint).call wsProviderError s).1.constructed =
        s.constructed + 1) := by
  constructor
  · rw [enter_initializeApi_leave ha he]
    rfl
  · rcases initializeApi_cases wsProviderError s endpoint with
      ⟨-, -, hcur, -⟩ | ⟨message, -, -, h⟩ | ⟨-, -, h⟩
    · exact absurd hcur he
    · rw [h]
      exact .inl ⟨message, rfl⟩
    · rw [h, State.leave_some ha]
      refine .inr ?_
      unfold State.retarget
      split <;> rfl

/-- **A live connection is reused** exactly when the argument is the current endpoint. -/
theorem live_reused_iff (ha : s.api = some inst) (hconn : inst ∈ s.connected)
    (endpoint : Option String) :
    Reused s inst ((Request.initializeApi endpoint).call wsProviderError s) ∧
        IdempotentAt wsProviderError s (.initializeApi endpoint) ↔
      endpoint = some s.currentEndpoint := by
  constructor
  · rintro ⟨hreused, -⟩
    by_contra he
    rcases (call_leaves ha he).2 with ⟨message, hrejected⟩ | hconstructed
    · have hboth := hrejected.symm.trans hreused.returned
      cases hboth
    · exact Nat.succ_ne_self _ (hconstructed.symm.trans hreused.constructed)
  · rintro rfl
    have hcall := call_live wsProviderError ha hconn
    refine ⟨?_, ?_⟩
    · rw [hcall]
      exact ⟨rfl, rfl, rfl, rfl, rfl⟩
    · rw [IdempotentAt, hcall, hcall]

end

/-- Polkadot, asked for by name. -/
theorem live_reused_polkadot :
    Reused onPolkadot ⟨0, "wss://rpc.polkadot.io"⟩
      ((Request.initializeApi (some "wss://rpc.polkadot.io")).call schemeError onPolkadot) :=
  ((live_reused_iff (s := onPolkadot) rfl (by decide) _).mpr rfl).1

/-- **A call without an argument reconnects**, after the first one has connected. -/
theorem second_call_reconnects :
    ¬ ∀ (es : List (Event Unit)) (c : Config Unit) (inst : ApiPromise) (endpoint : Option String),
      Run (step schemeError) Serial (.load (some "wss://rpc.polkadot.io") none) es c →
      c.calls = [] → c.state.api = some inst → inst ∈ c.state.connected →
      Js.or endpoint c.state.currentEndpoint = c.state.currentEndpoint →
      Reused c.state inst ((Request.initializeApi endpoint).call schemeError c.state) ∧
        IdempotentAt schemeError c.state (.initializeApi endpoint) := by
  intro h
  obtain ⟨c, hrun, hcalls, hstate⟩ : ∃ c : Config Unit,
      Run (step schemeError) Serial (.load (some "wss://rpc.polkadot.io") none)
        [.call () (.initializeApi none), .resume 0, .resume 0] c ∧
      c.calls = [] ∧ c.state = onPolkadot := exists_run (by decide)
  obtain ⟨hreused, -⟩ := h _ c ⟨0, "wss://rpc.polkadot.io"⟩ none hrun hcalls
    (by rw [hstate]; rfl) (by rw [hstate]; decide) rfl
  rw [hstate] at hreused
  have hconstructed := hreused.constructed
  revert hconstructed
  decide

end SubstrateDevTemplate.Service
