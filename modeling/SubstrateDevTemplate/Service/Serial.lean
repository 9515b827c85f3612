import Mathlib.Data.Finset.Option
import SubstrateDevTemplate.Support.Runs
import SubstrateDevTemplate.Service.Steps

/-!
# Service — one call at a time

Runs in which each call settles before the next one starts, with sockets that close and reopen in
between.  `Request.call` is a whole call, and `serialStep` the system whose events are whole calls.

* `initializeApi_cases`, `call_disconnectApi`: everything a call can do.
* `serial_runs`: the system of whole calls is what the interleaved one does when its calls do not
  overlap.
* `changeEndpoint_rejected`: a change of endpoint that fails is carried through.  The old instance
  is disconnected, and the new endpoint is current and stored.
-/

namespace SubstrateDevTemplate.Service
open Transition

section
variable (wsProviderError : String → Option String)

/-! ### A call on its own -/

/-- The `await`s a call has yet to reach complete one after the other, at most `n` of them. -/
def finish : Nat → State × Progress → State × Progress
  | 0, r => r
  | n + 1, (s, .suspended f) => finish n (f.resume wsProviderError s)
  | _ + 1, (s, .settled outcome) => (s, .settled outcome)

/-- A call, from its start to its end; it has five `await`s. -/
def Request.call (s : State) (request : Request) : State × Progress :=
  finish wsProviderError 5 (request.enter wsProviderError s)

/-- A whole call; a connected instance's socket closes; an open instance's socket opens again. -/
inductive Op where
  | call (request : Request)
  | drop (inst : ApiPromise)
  | reconnect (inst : ApiPromise)
  deriving DecidableEq

def serialStep (s : State) : Op → Option State
  | .call request => some (request.call wsProviderError s).1
  | .drop inst => if inst ∈ s.connected then some (s.close inst) else none
  | .reconnect inst =>
      if inst ∈ s.opened ∧ inst ∉ s.connected then some (s.connect inst) else none

end

/-- The module's instance, if there is one, has been disconnected. -/
def State.leave (s : State) : State :=
  match s.api with
  | none => s
  | some inst => { s.disconnect inst with api := none }

/-- An instance for `w` has been created, and is the module's. -/
def State.create (s : State) (w : String) : State :=
  { (s.construct w).connect (s.nextInstance w) with api := some (s.nextInstance w) }

namespace State
variable (s : State) (w : String)

@[simp] theorem leave_api : s.leave.api = none := by
  unfold leave; split <;> simp_all

@[simp] theorem leave_currentEndpoint : s.leave.currentEndpoint = s.currentEndpoint := by
  unfold leave; split <;> rfl

@[simp] theorem leave_localStorage : s.leave.localStorage = s.localStorage := by
  unfold leave; split <;> rfl

theorem leave_none {s : State} (h : s.api = none) : s.leave = s := by simp [leave, h]

theorem leave_some {s : State} {inst : ApiPromise} (h : s.api = some inst) :
    s.leave = { s.disconnect inst with api := none } := by simp [leave, h]

/-- What is open is what the module's instance was, so nothing is. -/
theorem leave_opened {s : State} (h : s.opened = s.api.toFinset) : s.leave.opened = ∅ := by
  cases ha : s.api with
  | none => rw [leave_none ha, h, ha]; rfl
  | some inst => rw [leave_some ha]; simp [h, ha]

@[simp] theorem create_api : (s.create w).api = some (s.nextInstance w) := rfl
@[simp] theorem create_opened :
    (s.create w).opened = insert (s.nextInstance w) s.opened := rfl
@[simp] theorem create_connected :
    (s.create w).connected = insert (s.nextInstance w) s.connected := rfl
@[simp] theorem create_currentEndpoint :
    (s.create w).currentEndpoint = s.currentEndpoint := rfl
@[simp] theorem create_localStorage : (s.create w).localStorage = s.localStorage := rfl

theorem connect_of_mem {s : State} {inst : ApiPromise} (h : inst ∈ s.connected) :
    s.connect inst = s := by
  rw [connect, Finset.insert_eq_of_mem h]

end State

/-! ### What a call does -/

section
variable {wsProviderError : String → Option String}

@[simp] theorem finish_settled (n : Nat) (s : State) (outcome : Outcome) :
    finish wsProviderError n (s, .settled outcome) = (s, .settled outcome) := by
  cases n <;> rfl

variable (wsProviderError) in
/-- Past its disconnection, a call throws, or creates an instance and returns it. -/
theorem finish_establish (s : State) (endpoint : Option String) (w : String) (n : Nat) :
    (∃ message, wsProviderError w = some message ∧
      finish wsProviderError (n + 2) (establish wsProviderError s endpoint w) =
        (s.retarget endpoint, .settled (.rejected message))) ∨
    (wsProviderError w = none ∧
      finish wsProviderError (n + 2) (establish wsProviderError s endpoint w) =
        ((s.retarget endpoint).create w,
          .settled (.resolved (some ((s.retarget endpoint).nextInstance w))))) := by
  rcases establish_cases wsProviderError s endpoint w with
    ⟨message, he, h⟩ | ⟨he, h⟩
  · rw [h]
    exact .inl ⟨message, he, finish_settled ..⟩
  · -- the instance it has just created is connected, so the last check returns it
    have hcheck : checkConnected ((s.retarget endpoint).create w) endpoint w =
        ((s.retarget endpoint).create w,
          .settled (.resolved (some ((s.retarget endpoint).nextInstance w)))) := by
      simp [checkConnected]
    rw [h]
    refine .inr ⟨he, ?_⟩
    exact (congrArg (finish wsProviderError n) hcheck).trans (finish_settled ..)

/-- A call that reuses the module's instance returns it, connected. -/
theorem call_reuses {s : State} {inst : ApiPromise} (ha : s.api = some inst) :
    (Request.initializeApi (some s.currentEndpoint)).call wsProviderError s =
      (s.connect inst, .settled (.resolved (some inst))) := by
  rw [Request.call, enter_reuses ⟨by simp [ha], rfl⟩]
  rcases checkConnected_cases s (some s.currentEndpoint) s.currentEndpoint with
    ⟨h, -⟩ | ⟨i, hi, hc, h⟩ | ⟨i, hi, -, h⟩
  · rw [ha] at h; cases h
  · obtain rfl := Option.some.inj (ha.symm.trans hi)
    rw [h, finish_settled, State.connect_of_mem hc]
  · obtain rfl := Option.some.inj (ha.symm.trans hi)
    rw [h]
    simp [finish, Frame.resume, ha]

variable (wsProviderError) in
/-- Any other one leaves the instance there was first. -/
theorem call_initializeApi {s : State} {endpoint : Option String}
    (h : s.api = none ∨ endpoint ≠ some s.currentEndpoint) :
    ∃ n, (Request.initializeApi endpoint).call wsProviderError s =
      finish wsProviderError (n + 2)
        (establish wsProviderError s.leave endpoint (Js.or endpoint s.currentEndpoint)) := by
  cases ha : s.api with
  | none => exact ⟨3, by rw [Request.call, enter_initializeApi_none ha, State.leave_none ha]⟩
  | some inst =>
      have he : endpoint ≠ some s.currentEndpoint := h.resolve_left (by simp [ha])
      refine ⟨2, ?_⟩
      rw [Request.call, enter_initializeApi_leave ha he, State.leave_some ha]
      rfl

variable (wsProviderError) in
/-- Everything an `initializeApi` call can do. -/
theorem initializeApi_cases (s : State) (endpoint : Option String) :
    (∃ inst, s.api = some inst ∧ endpoint = some s.currentEndpoint ∧
      (Request.initializeApi endpoint).call wsProviderError s =
        (s.connect inst, .settled (.resolved (some inst)))) ∨
    (∃ message, (s.api = none ∨ endpoint ≠ some s.currentEndpoint) ∧
      wsProviderError (Js.or endpoint s.currentEndpoint) = some message ∧
      (Request.initializeApi endpoint).call wsProviderError s =
        (s.leave.retarget endpoint, .settled (.rejected message))) ∨
    ((s.api = none ∨ endpoint ≠ some s.currentEndpoint) ∧
      wsProviderError (Js.or endpoint s.currentEndpoint) = none ∧
      (Request.initializeApi endpoint).call wsProviderError s =
        ((s.leave.retarget endpoint).create (Js.or endpoint s.currentEndpoint),
          .settled (.resolved (some ((s.leave.retarget endpoint).nextInstance
            (Js.or endpoint s.currentEndpoint)))))) := by
  by_cases h : s.api = none ∨ endpoint ≠ some s.currentEndpoint
  · obtain ⟨n, hn⟩ := call_initializeApi wsProviderError h
    rw [hn]
    rcases finish_establish wsProviderError s.leave endpoint
      (Js.or endpoint s.currentEndpoint) n with ⟨message, he, hf⟩ | ⟨he, hf⟩
    · exact .inr (.inl ⟨message, h, he, hf⟩)
    · exact .inr (.inr ⟨h, he, hf⟩)
  · obtain ⟨h₁, h₂⟩ := not_or.mp h
    obtain ⟨inst, ha⟩ := Option.ne_none_iff_exists'.mp h₁
    obtain rfl := not_not.mp h₂
    exact .inl ⟨inst, ha, rfl, call_reuses ha⟩

/-- A `disconnectApi` call leaves the instance there is. -/
theorem call_disconnectApi (s : State) :
    Request.disconnectApi.call wsProviderError s = (s.leave, .settled (.resolved none)) := by
  cases ha : s.api with
  | none =>
      rw [Request.call, enter_disconnectApi_none ha, State.leave_none ha, finish_settled]
  | some inst =>
      rw [Request.call, enter_disconnectApi_some ha, State.leave_some ha]
      rfl

variable (wsProviderError) in
/-- Every call settles. -/
theorem call_settles (s : State) (request : Request) :
    ∃ s' outcome, request.call wsProviderError s = (s', .settled outcome) := by
  cases request with
  | disconnectApi => exact ⟨_, _, call_disconnectApi s⟩
  | initializeApi endpoint =>
      rcases initializeApi_cases wsProviderError s endpoint with
        ⟨inst, -, -, h⟩ | ⟨message, -, -, h⟩ | ⟨-, -, h⟩
      · exact ⟨_, _, h⟩
      · exact ⟨_, _, h⟩
      · exact ⟨_, _, h⟩

end

/-! ### Calls that do not overlap -/

/-- A call is started, and a socket closes or opens, with no call in flight. -/
def Serial {κ : Type*} (c : Config κ) : Event κ → Prop
  | .resume _ => True
  | _ => c.calls = []

instance {κ : Type*} [DecidableEq κ] (c : Config κ) : (e : Event κ) → Decidable (Serial c e)
  | .resume _ => isTrue trivial
  | .call _ _ | .close _ | .reopen _ => inferInstanceAs (Decidable (c.calls = []))

section
variable {κ : Type*} {wsProviderError : String → Option String}

/-- The interleaved system is at rest in `s`, or in the middle of a call that started in `s`. -/
inductive InCall (wsProviderError : String → Option String) (c : Config κ) (s : State) : Prop where
  | rest (hc : c.calls = []) (hs : c.state = s)
  | within (p : Pending κ) (request : Request) (n : Nat) (hc : c.calls = [p])
      (hn : finish wsProviderError n (c.state, .suspended p.frame) =
        request.call wsProviderError s)

/-- How far the only call there is has got. -/
theorem inCall_record {c : Config κ} (hc : c.calls = []) {caller : κ} {request request' : Request}
    {s : State} {r : State × Progress} {n : Nat}
    (hr : finish wsProviderError n r = request.call wsProviderError s) :
    ∃ ops s', Run (serialStep wsProviderError) anyEvent s ops s' ∧
      InCall wsProviderError (c.record caller request' r) s' := by
  obtain ⟨s₁, progress⟩ := r
  cases progress with
  | suspended f =>
      exact ⟨[], s, .refl s, .within ⟨caller, f⟩ request n
        (by rw [record_suspended_calls, hc]; rfl) hr⟩
  | settled outcome =>
      rw [finish_settled] at hr
      refine ⟨[.call request], s₁, .one trivial ?_, .rest hc rfl⟩
      rw [serialStep, ← hr]

/-- A step within a call is no step of the system of whole calls, until the call settles. -/
theorem inCall_step {c c' : Config κ} {s : State} {e : Event κ} (hR : InCall wsProviderError c s)
    (hg : Serial c e) (h : step wsProviderError c e = some c') :
    ∃ ops s', Run (serialStep wsProviderError) anyEvent s ops s' ∧
      InCall wsProviderError c' s' := by
  -- with no call in flight, the two systems are in the same state
  have hrest : c.calls = [] → c.state = s := fun hc => by
    cases hR with
    | rest hc' hs => exact hs
    | within p request n hp hn => rw [hc] at hp; cases hp
  rcases step_cases h with ⟨caller, request, rfl, rfl⟩ | ⟨k, p, l₁, l₂, rfl, hl, rfl⟩ |
      ⟨inst, rfl, hi, rfl⟩ | ⟨inst, rfl, ho, hi, rfl⟩
  · obtain rfl := hrest hg
    exact inCall_record (c := { c with issued := some request }) (n := 5) hg rfl
  · rcases hR with ⟨hc, -⟩ | ⟨q, request, n, hq, hn⟩
    · rw [hc] at hl; simp at hl
    · obtain ⟨hnil, rfl⟩ := eq_of_split_singleton (hl.symm.trans hq)
      cases n with
      | zero =>
          -- a call that settles is not still suspended at its end
          obtain ⟨s', outcome, hcall⟩ :=
            call_settles wsProviderError s request
          rw [hcall] at hn
          cases hn
      | succ n => exact inCall_record (c := { c with calls := l₁ ++ l₂ }) hnil hn
  · obtain rfl := hrest hg
    exact ⟨[.drop inst], c.state.close inst, .one trivial (by simp [serialStep, hi]),
      .rest hg rfl⟩
  · obtain rfl := hrest hg
    exact ⟨[.reconnect inst], c.state.connect inst, .one trivial (by simp [serialStep, ho, hi]),
      .rest hg rfl⟩

/-- **Whole calls are enough.**  Where its calls do not overlap, the interleaved system is, whenever
no call is in flight, in a state that whole calls lead to. -/
theorem serial_runs {savedEndpoint env : Option String} {es : List (Event κ)} {c : Config κ}
    (h : Run (step wsProviderError) Serial (.load savedEndpoint env) es c) (hc : c.calls = []) :
    ∃ ops, Run (serialStep wsProviderError) anyEvent (.load savedEndpoint env) ops c.state := by
  obtain ⟨ops, s, hrun, hR⟩ := h.simulation (fun _ _ _ _ hR hg hst => inCall_step hR hg hst)
    (t := .load savedEndpoint env) (.rest rfl rfl)
  cases hR with
  | rest hc' hs => exact ⟨ops, hs ▸ hrun⟩
  | within p request n hp hn => rw [hc] at hp; cases hp

/-! ### A change of endpoint that fails -/

/-- **A failed change is carried through.**  The provider's constructor rejects a new endpoint when
the instance there was has already been disconnected, and the new endpoint is already current and
stored. -/
theorem changeEndpoint_rejected {s : State} {inst : ApiPromise} {e : String}
    (ha : s.api = some inst) (he : wsProviderError e ≠ none) :
    (e ≠ "" → e ≠ s.currentEndpoint → ∃ message,
      ((changeEndpoint e).call wsProviderError s).2 = .settled (.rejected message)) ∧
    ∀ s' message, (changeEndpoint e).call wsProviderError s = (s', .settled (.rejected message)) →
      s'.currentEndpoint = (if e = "" then s.currentEndpoint else e) ∧
      s'.localStorage = (if e = "" then s.localStorage else some e) ∧
      s'.api = none ∧ s'.opened = s.opened.erase inst ∧ s'.constructed = s.constructed := by
  rw [changeEndpoint]
  rcases initializeApi_cases wsProviderError s (some e) with
    ⟨i, -, hcur, h⟩ | ⟨message, -, -, h⟩ | ⟨-, hok, h⟩
  · rw [h]
    refine ⟨fun _ hne => absurd (Option.some.inj hcur) hne, ?_⟩
    rintro s' message ⟨⟩
  · rw [h]
    refine ⟨fun _ _ => ⟨message, rfl⟩, ?_⟩
    rintro s' _ ⟨⟩
    rw [State.leave_some ha]
    by_cases hne : e = ""
    · simp [State.retarget, hne]
    · simp [State.retarget, hne]
  · rw [h]
    refine ⟨fun hne _ => absurd ?_ he, ?_⟩
    · rwa [Js.or_some hne] at hok
    · rintro s' message ⟨⟩

end

/-- The service, connected to Polkadot. -/
def onPolkadot : State where
  localStorage := some "wss://rpc.polkadot.io"
  currentEndpoint := "wss://rpc.polkadot.io"
  api := some ⟨0, "wss://rpc.polkadot.io"⟩
  constructed := 1
  opened := {⟨0, "wss://rpc.polkadot.io"⟩}
  connected := {⟨0, "wss://rpc.polkadot.io"⟩}

/-- The user types an endpoint without its scheme. -/
theorem changeEndpoint_rejected_scheme :
    (∃ message, ((changeEndpoint "localhost:9944").call schemeError onPolkadot).2 =
        .settled (.rejected message)) ∧
      ((changeEndpoint "localhost:9944").call schemeError onPolkadot).1.localStorage =
        some "localhost:9944" :=
  have h := changeEndpoint_rejected (s := onPolkadot) (e := "localhost:9944") rfl
    (show schemeError "localhost:9944" ≠ none by decide)
  ⟨h.1 (by decide) (by decide), (h.2 _ _ rfl).2.1⟩

/-- **Nothing is restored.**  After the change to `localhost:9944` has failed, that is the current
endpoint and the stored one, and Polkadot's instance is gone. -/
theorem failed_change_not_undone :
    ¬ ∀ (s s' : State) (inst : ApiPromise) (e message : String),
      s.api = some inst → inst ∈ s.opened → inst ∈ s.connected → schemeError e ≠ none →
      (changeEndpoint e).call schemeError s = (s', .settled (.rejected message)) →
      s'.currentEndpoint = s.currentEndpoint ∧ s'.localStorage = s.localStorage ∧
        s'.api = some inst ∧ inst ∈ s'.opened := by
  intro h
  obtain ⟨hcur, -⟩ := h onPolkadot _ _ "localhost:9944" _ rfl (by decide) (by decide) (by decide)
    rfl
  revert hcur
  decide

end SubstrateDevTemplate.Service
