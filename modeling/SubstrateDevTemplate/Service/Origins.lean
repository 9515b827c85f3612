import SubstrateDevTemplate.Service.Endpoint
import SubstrateDevTemplate.Service.Manager

/-!
# Service — where endpoints come from

The service makes no endpoint up: each one it has in hand was the current endpoint before, or was
the argument of a call.  `Within A` says that all of them are in a set `A`, for the state, for a
call in flight and for what one settles with.

* `within_step`: they stay within, as long as the arguments of the calls are.
* `reloads_step`: a step keeps the current endpoint to what a page load would start with.
-/

namespace SubstrateDevTemplate.Service

variable (A : String → Prop)

structure State.Within (s : State) : Prop where
  currentEndpoint : A s.currentEndpoint
  api : ∀ inst, s.api = some inst → A inst.endpoint
  opened : ∀ inst ∈ s.opened, A inst.endpoint
  connected : ∀ inst ∈ s.connected, A inst.endpoint

/-- An argument that is left out, or is empty, names no endpoint. -/
def Request.Within : Request → Prop
  | .initializeApi endpoint => Js.truthy endpoint = true → A (endpoint.getD "")
  | .disconnectApi => True

def Stage.Within : Stage → Prop
  | .creating inst | .connecting inst => A inst.endpoint
  | .disconnecting | .ready | .reconnected => True

def Frame.Within : Frame → Prop
  | .initializeApi endpoint w stage =>
      (Request.initializeApi endpoint).Within A ∧ A w ∧ stage.Within A
  | .disconnectApi => True

def Outcome.Within : Outcome → Prop
  | .resolved (some inst) => A inst.endpoint
  | .resolved none | .rejected _ => True

def Progress.Within : Progress → Prop
  | .suspended f => f.Within A
  | .settled outcome => outcome.Within A

variable {A} {s : State}

/-- The endpoint a call is for. -/
theorem or_within {endpoint : Option String} {d : String}
    (hr : (Request.initializeApi endpoint).Within A) (hd : A d) : A (Js.or endpoint d) := by
  cases ht : Js.truthy endpoint with
  | false => rw [Js.or_of_falsy ht]; exact hd
  | true => rw [Js.or_of_truthy ht]; exact hr ht

theorem State.Within.erased (h : s.Within A) (inst : ApiPromise) : (s.disconnect inst).Within A :=
  ⟨h.currentEndpoint, h.api, fun i hi => h.opened i (Finset.mem_of_mem_erase hi), h.connected⟩

theorem State.Within.connect (h : s.Within A) {inst : ApiPromise} (hi : A inst.endpoint) :
    (s.connect inst).Within A := by
  refine ⟨h.currentEndpoint, h.api, h.opened, fun i hmem => ?_⟩
  rcases Finset.mem_insert.mp hmem with rfl | hmem
  · exact hi
  · exact h.connected i hmem

theorem State.Within.forget (h : s.Within A) : ({ s with api := none } : State).Within A :=
  ⟨h.currentEndpoint, by rintro inst ⟨⟩, h.opened, h.connected⟩

section
variable {wsProviderError : String → Option String}

variable (wsProviderError) in
theorem establish_within (hs : s.Within A) {endpoint : Option String} {w : String}
    (hr : (Request.initializeApi endpoint).Within A) (hw : A w) :
    (establish wsProviderError s endpoint w).1.Within A ∧
      (establish wsProviderError s endpoint w).2.Within A := by
  have hret : (s.retarget endpoint).Within A := by
    refine ⟨?_, by simpa using hs.api, by simpa using hs.opened, by simpa using hs.connected⟩
    rw [State.retarget_currentEndpoint]
    exact or_within hr hs.currentEndpoint
  rcases establish_cases wsProviderError s endpoint w with ⟨message, -, h⟩ | ⟨-, h⟩
  · rw [h]; exact ⟨hret, trivial⟩
  · rw [h]
    refine ⟨⟨hret.currentEndpoint, hret.api, fun i hi => ?_, hret.connected⟩, hr, hw, hw⟩
    rcases Finset.mem_insert.mp hi with rfl | hi
    · exact hw
    · exact hret.opened i hi

theorem checkConnected_within (hs : s.Within A) {endpoint : Option String} {w : String}
    (hr : (Request.initializeApi endpoint).Within A) (hw : A w) :
    (checkConnected s endpoint w).1.Within A ∧ (checkConnected s endpoint w).2.Within A := by
  rcases checkConnected_cases s endpoint w with ⟨-, h⟩ | ⟨inst, ha, -, h⟩ | ⟨inst, ha, -, h⟩
  · rw [h]; exact ⟨hs, trivial⟩
  · rw [h]; exact ⟨hs, hs.api inst ha⟩
  · rw [h]; exact ⟨hs, hr, hw, hs.api inst ha⟩

variable (wsProviderError) in
/-- A call that starts. -/
theorem enter_within (hs : s.Within A) {request : Request} (hr : request.Within A) :
    (request.enter wsProviderError s).1.Within A ∧
      (request.enter wsProviderError s).2.Within A := by
  cases ha : s.api with
  | none =>
      cases request with
      | disconnectApi => rw [enter_disconnectApi_none ha]; exact ⟨hs, trivial⟩
      | initializeApi endpoint =>
          rw [enter_initializeApi_none ha]
          exact establish_within wsProviderError hs hr (or_within hr hs.currentEndpoint)
  | some inst =>
      cases request with
      | disconnectApi => rw [enter_disconnectApi_some ha]; exact ⟨hs.erased inst, trivial⟩
      | initializeApi endpoint =>
          by_cases he : endpoint = some s.currentEndpoint
          · subst he
            rw [enter_reuses ⟨by simp [ha], rfl⟩]
            exact checkConnected_within hs hr hs.currentEndpoint
          · rw [enter_initializeApi_leave ha he]
            exact ⟨hs.erased inst, hr, or_within hr hs.currentEndpoint, trivial⟩

variable (wsProviderError) in
/-- A call that goes on. -/
theorem resume_within (hs : s.Within A) {f : Frame} (hf : f.Within A) :
    (f.resume wsProviderError s).1.Within A ∧ (f.resume wsProviderError s).2.Within A := by
  cases f with
  | disconnectApi => exact ⟨hs.forget, trivial⟩
  | initializeApi endpoint w stage =>
      obtain ⟨hr, hw, hstage⟩ := hf
      cases stage with
      | disconnecting => exact establish_within wsProviderError hs.forget hr hw
      | creating inst =>
          have hc := hs.connect hstage
          exact ⟨⟨hc.currentEndpoint, by rintro i ⟨⟩; exact hstage, hc.opened, hc.connected⟩, hr, hw,
            trivial⟩
      | ready => exact checkConnected_within hs hr hw
      | connecting inst =>
          simp only [Frame.resume]
          split
          · exact ⟨hs.connect hstage, trivial⟩
          · exact ⟨hs.connect hstage, hr, hw, trivial⟩
      | reconnected =>
          refine ⟨hs, ?_⟩
          cases ha : s.api with
          | none => simp only [Frame.resume, ha]; trivial
          | some inst => simp only [Frame.resume, ha]; exact hs.api inst ha

end

/-! ### Any number of calls -/

variable {κ : Type*}

variable (A) in
structure Config.Within (c : Config κ) : Prop where
  state : c.state.Within A
  calls : ∀ q ∈ c.calls, q.frame.Within A
  settled : ∀ r ∈ c.settled, r.outcome.Within A

theorem Config.Within.record {c : Config κ} {r : State × Progress} (caller : κ) (request : Request)
    (hcalls : ∀ q ∈ c.calls, q.frame.Within A) (hsettled : ∀ r ∈ c.settled, r.outcome.Within A)
    (hr : r.1.Within A ∧ r.2.Within A) : (c.record caller request r).Within A := by
  refine ⟨by rw [record_state]; exact hr.1, fun q hq => ?_, fun q hq => ?_⟩
  · rcases mem_record_calls hq with hq | ⟨-, hq⟩
    · exact hcalls q hq
    · have := hr.2; rw [hq] at this; exact this
  · rcases mem_record_settled hq with hq | ⟨-, -, hq⟩
    · exact hsettled q hq
    · have := hr.2; rw [hq] at this; exact this

section
variable {wsProviderError : String → Option String} {c c' : Config κ} {e : Event κ}

/-- **One step.** -/
theorem within_step (hc : c.Within A)
    (hcall : ∀ caller request, e = .call caller request → request.Within A)
    (h : step wsProviderError c e = some c') : c'.Within A := by
  rcases step_cases h with ⟨caller, request, rfl, rfl⟩ | ⟨k, q, l₁, l₂, rfl, hl, rfl⟩ |
      ⟨inst, rfl, -, rfl⟩ | ⟨inst, rfl, hopen, -, rfl⟩
  · exact Config.Within.record caller request hc.calls hc.settled
      (enter_within wsProviderError hc.state (hcall _ _ rfl))
  · refine Config.Within.record q.caller q.frame.request (fun q' hq' => hc.calls q' ?_) hc.settled
      (resume_within wsProviderError hc.state (hc.calls q (by simp [hl])))
    exact hl ▸ mem_of_mem_split hq'
  · have hs := hc.state
    exact ⟨⟨hs.currentEndpoint, hs.api, hs.opened, fun i hi => hs.connected i
      (Finset.mem_of_mem_erase hi)⟩, hc.calls, hc.settled⟩
  · exact ⟨hc.state.connect (hc.state.opened inst hopen), hc.calls, hc.settled⟩

/-- A page load would start with the current endpoint. -/
def State.Reloads (s : State) (env : Option String) : Prop :=
  getDefaultEndpoint s.localStorage env = s.currentEndpoint

/-- **The current endpoint is the one a page load would start with**, at every step. -/
theorem reloads_step {env : Option String} (hc : c.state.Reloads env)
    (h : step wsProviderError c e = some c') : c'.state.Reloads env := by
  obtain ⟨endpoint, hret, -⟩ := step_retargets h
  rw [State.Reloads, hret.localStorage, hret.currentEndpoint]
  exact (retarget_reload (Eq.symm hc) endpoint).symm

end

end SubstrateDevTemplate.Service
