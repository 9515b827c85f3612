import Mathlib.Data.Finset.Basic
import SubstrateDevTemplate.Service.Definitions

/-!
# Service — Steps

What one step of the service can do, said once: the fields each state update leaves alone, the
inversion of `step` (`step_cases`), and one lemma for each piece of code a call runs.

* `establish_cases`: the provider's constructor throws, or an instance is being created.
* `checkConnected_quiet`, `resume_quiet`: past the creation, a call changes nothing but which
  sockets are open.
* `checkConnected_cases`, `enter_initializeApi`, …: how far each piece of code gets.
-/

namespace SubstrateDevTemplate.Service

/-! ### The state updates -/

namespace State
variable (s : State) (inst : ApiPromise) (endpoint : Option String) (w : String)

@[simp] theorem disconnect_api : (s.disconnect inst).api = s.api := rfl
@[simp] theorem disconnect_opened : (s.disconnect inst).opened = s.opened.erase inst := rfl
@[simp] theorem disconnect_connected : (s.disconnect inst).connected = s.connected := rfl
@[simp] theorem disconnect_currentEndpoint :
    (s.disconnect inst).currentEndpoint = s.currentEndpoint := rfl
@[simp] theorem disconnect_localStorage :
    (s.disconnect inst).localStorage = s.localStorage := rfl
@[simp] theorem disconnect_constructed :
    (s.disconnect inst).constructed = s.constructed := rfl

@[simp] theorem connect_api : (s.connect inst).api = s.api := rfl
@[simp] theorem connect_opened : (s.connect inst).opened = s.opened := rfl
@[simp] theorem connect_connected : (s.connect inst).connected = insert inst s.connected := rfl
@[simp] theorem connect_currentEndpoint :
    (s.connect inst).currentEndpoint = s.currentEndpoint := rfl
@[simp] theorem connect_localStorage : (s.connect inst).localStorage = s.localStorage := rfl

@[simp] theorem retarget_api : (s.retarget endpoint).api = s.api := by
  unfold retarget; split <;> rfl

@[simp] theorem retarget_opened : (s.retarget endpoint).opened = s.opened := by
  unfold retarget; split <;> rfl

@[simp] theorem retarget_connected : (s.retarget endpoint).connected = s.connected := by
  unfold retarget; split <;> rfl

/-- The current endpoint becomes the argument, unless the argument is absent or empty. -/
@[simp] theorem retarget_currentEndpoint :
    (s.retarget endpoint).currentEndpoint = Js.or endpoint s.currentEndpoint := by
  unfold retarget Js.or; split <;> rfl

@[simp] theorem construct_api : (s.construct w).api = s.api := rfl
@[simp] theorem construct_opened :
    (s.construct w).opened = insert (s.nextInstance w) s.opened := rfl
@[simp] theorem construct_connected : (s.construct w).connected = s.connected := rfl
@[simp] theorem construct_currentEndpoint :
    (s.construct w).currentEndpoint = s.currentEndpoint := rfl
@[simp] theorem construct_localStorage : (s.construct w).localStorage = s.localStorage := rfl
@[simp] theorem nextInstance_endpoint : (s.nextInstance w).endpoint = w := rfl

end State

/-! ### The code of a call -/

variable {wsProviderError : String → Option String}

variable (wsProviderError) in
/-- The provider's constructor throws, or the call goes on to create an instance. -/
theorem establish_cases (s : State) (endpoint : Option String) (w : String) :
    (∃ message, wsProviderError w = some message ∧
      establish wsProviderError s endpoint w =
        (s.retarget endpoint, .settled (.rejected message))) ∨
    (wsProviderError w = none ∧
      establish wsProviderError s endpoint w =
        ((s.retarget endpoint).construct w, .suspended (.initializeApi endpoint w
          (.creating ((s.retarget endpoint).nextInstance w))))) := by
  cases h : wsProviderError w with
  | none => exact .inr ⟨rfl, by simp [establish, h]⟩
  | some message => exact .inl ⟨message, rfl, by simp [establish, h]⟩

/-- The last check returns the module's instance if it is connected, and reconnects it if it is
not; without an instance it returns `null`. -/
theorem checkConnected_cases (s : State) (endpoint : Option String) (w : String) :
    (s.api = none ∧ checkConnected s endpoint w = (s, .settled (.resolved none))) ∨
    (∃ inst, s.api = some inst ∧ inst ∈ s.connected ∧
      checkConnected s endpoint w = (s, .settled (.resolved (some inst)))) ∨
    (∃ inst, s.api = some inst ∧ inst ∉ s.connected ∧
      checkConnected s endpoint w =
        (s, .suspended (.initializeApi endpoint w (.connecting inst)))) := by
  cases h : s.api with
  | none => exact .inl ⟨rfl, by simp [checkConnected, h]⟩
  | some inst =>
      by_cases hc : inst ∈ s.connected
      · exact .inr (.inl ⟨inst, rfl, hc, by simp [checkConnected, h, hc]⟩)
      · exact .inr (.inr ⟨inst, rfl, hc, by simp [checkConnected, h, hc]⟩)

/-- A frame is *quiet* once its call has been through the creation: what is left of it neither
constructs nor disconnects, and writes no variable. -/
def Frame.quiet : Frame → Bool
  | .initializeApi _ _ (.disconnecting) | .initializeApi _ _ (.creating _) | .disconnectApi => false
  | .initializeApi _ _ (.ready) | .initializeApi _ _ (.connecting _)
  | .initializeApi _ _ (.reconnected) => true

/-- A call that is suspended, if at all, in a quiet frame of the same call. -/
def Progress.Quiet (endpoint : Option String) (w : String) (r : Progress) : Prop :=
  ∀ f, r = .suspended f → ∃ stage, f = .initializeApi endpoint w stage ∧ f.quiet = true

theorem checkConnected_quiet (s : State) (endpoint : Option String) (w : String) :
    (checkConnected s endpoint w).1 = s ∧ (checkConnected s endpoint w).2.Quiet endpoint w := by
  rcases checkConnected_cases s endpoint w with ⟨-, h⟩ | ⟨inst, -, -, h⟩ | ⟨inst, -, -, h⟩
  · exact h ▸ ⟨rfl, by rintro f ⟨⟩⟩
  · exact h ▸ ⟨rfl, by rintro f ⟨⟩⟩
  · exact h ▸ ⟨rfl, by rintro f ⟨⟩; exact ⟨_, rfl, rfl⟩⟩

variable (wsProviderError) in
/-- A quiet frame changes nothing but which sockets are open. -/
theorem resume_quiet (s : State) {f : Frame} (h : f.quiet = true) :
    ∃ endpoint w C, f.request = .initializeApi endpoint ∧
      (f.resume wsProviderError s).1 = { s with connected := C } ∧
      (f.resume wsProviderError s).2.Quiet endpoint w := by
  cases f with
  | disconnectApi => cases h
  | initializeApi endpoint w stage =>
      refine ⟨endpoint, w, ?_⟩
      cases stage with
      | disconnecting => cases h
      | creating inst => cases h
      | ready => exact ⟨s.connected, rfl, checkConnected_quiet s endpoint w⟩
      | connecting inst =>
          refine ⟨insert inst s.connected, rfl, ?_⟩
          simp only [Frame.resume]
          split
          · exact ⟨rfl, by rintro f ⟨⟩⟩
          · exact ⟨rfl, by rintro f ⟨⟩; exact ⟨_, rfl, rfl⟩⟩
      | reconnected => exact ⟨s.connected, rfl, rfl, by rintro f ⟨⟩⟩

theorem enter_initializeApi_none {s : State} {endpoint : Option String} (ha : s.api = none) :
    (Request.initializeApi endpoint).enter wsProviderError s =
      establish wsProviderError s endpoint (Js.or endpoint s.currentEndpoint) := by
  simp only [Request.enter, ha]

theorem enter_initializeApi_leave {s : State} {endpoint : Option String} {inst : ApiPromise}
    (ha : s.api = some inst) (he : endpoint ≠ some s.currentEndpoint) :
    (Request.initializeApi endpoint).enter wsProviderError s =
      (s.disconnect inst, .suspended (.initializeApi endpoint (Js.or endpoint s.currentEndpoint)
        .disconnecting)) := by
  simp only [Request.enter, ha, if_pos he]

/-- A call *reuses* the module's instance when it asks for the current endpoint by name. -/
def Request.reuses (s : State) (request : Request) : Prop :=
  s.api ≠ none ∧ request = .initializeApi (some s.currentEndpoint)

instance (s : State) (request : Request) : Decidable (request.reuses s) :=
  inferInstanceAs (Decidable (_ ∧ _))

/-- Such a call goes straight to the last check. -/
theorem enter_reuses {s : State} {request : Request} (h : request.reuses s) :
    request.enter wsProviderError s =
      checkConnected s (some s.currentEndpoint) s.currentEndpoint := by
  obtain ⟨ha, rfl⟩ := h
  obtain ⟨inst, hi⟩ := Option.ne_none_iff_exists'.mp ha
  simp only [Request.enter, hi, ne_eq, not_true_eq_false, if_false, Js.or_self]

theorem enter_disconnectApi_none {s : State} (ha : s.api = none) :
    Request.disconnectApi.enter wsProviderError s = (s, .settled (.resolved none)) := by
  simp only [Request.enter, ha]

theorem enter_disconnectApi_some {s : State} {inst : ApiPromise} (ha : s.api = some inst) :
    Request.disconnectApi.enter wsProviderError s =
      (s.disconnect inst, .suspended .disconnectApi) := by
  simp only [Request.enter, ha]

/-- The call waits for a disconnection. -/
def Frame.leaving : Frame → Bool
  | .initializeApi _ _ .disconnecting | .disconnectApi => true
  | _ => false

/-- A call that is suspended is suspended in a frame of its own. -/
theorem enter_suspended {s : State} {request : Request} {f : Frame}
    (h : (request.enter wsProviderError s).2 = .suspended f) : f.request = request := by
  cases request with
  | disconnectApi =>
      cases ha : s.api with
      | none => rw [enter_disconnectApi_none ha] at h; cases h
      | some inst => rw [enter_disconnectApi_some ha] at h; cases h; rfl
  | initializeApi endpoint =>
      cases ha : s.api with
      | none =>
          rw [enter_initializeApi_none ha] at h
          rcases establish_cases wsProviderError s endpoint
            (Js.or endpoint s.currentEndpoint) with ⟨_, -, he⟩ | ⟨-, he⟩
          · rw [he] at h; cases h
          · rw [he] at h; cases h; rfl
      | some inst =>
          by_cases he : endpoint = some s.currentEndpoint
          · obtain rfl := he
            rw [enter_reuses ⟨by simp [ha], rfl⟩] at h
            obtain ⟨stage, rfl, -⟩ := (checkConnected_quiet s _ _).2 f h
            rfl
          · rw [enter_initializeApi_leave ha he] at h; cases h; rfl

/-- A call that goes on is suspended in a frame of its own, past its disconnection. -/
theorem resume_suspended {s : State} {f f' : Frame}
    (h : (f.resume wsProviderError s).2 = .suspended f') :
    f'.request = f.request ∧ f'.leaving = false := by
  cases hq : f.quiet with
  | true =>
      obtain ⟨endpoint, w, C, hr, -, h₂⟩ := resume_quiet wsProviderError s hq
      obtain ⟨stage, rfl, hq'⟩ := h₂ f' h
      refine ⟨hr.symm, ?_⟩
      cases stage with
      | disconnecting => cases hq'
      | creating inst => cases hq'
      | ready | connecting | reconnected => rfl
  | false =>
      cases f with
      | disconnectApi => cases h
      | initializeApi endpoint w stage =>
          cases stage with
          | disconnecting =>
              rcases establish_cases wsProviderError
                { s with api := none } endpoint w with ⟨_, -, he⟩ | ⟨-, he⟩
              · rw [Frame.resume, he] at h; cases h
              · rw [Frame.resume, he] at h; cases h; exact ⟨rfl, rfl⟩
          | creating inst => cases h; exact ⟨rfl, rfl⟩
          | ready => cases hq
          | connecting inst => cases hq
          | reconnected => cases hq

/-! ### The steps -/

/-- Taking the `k`-th element out of a list splits it there. -/
theorem eraseIdx_split {α : Type*} {l : List α} {k : Nat} {a : α} (h : l[k]? = some a) :
    ∃ l₁ l₂, l = l₁ ++ a :: l₂ ∧ l.eraseIdx k = l₁ ++ l₂ := by
  obtain ⟨hk, rfl⟩ := List.getElem?_eq_some_iff.mp h
  refine ⟨l.take k, l.drop (k + 1), ?_, List.eraseIdx_eq_take_drop_succ l k⟩
  rw [List.cons_getElem_drop_succ, List.take_append_drop]

/-- An element of a list of one is that one, and leaves none. -/
theorem eq_of_split_singleton {α : Type*} {l₁ l₂ : List α} {a b : α} (h : l₁ ++ a :: l₂ = [b]) :
    l₁ ++ l₂ = [] ∧ a = b := by
  rcases List.append_eq_singleton_iff.mp h with ⟨rfl, h₂⟩ | ⟨-, h₂⟩
  · obtain ⟨rfl, rfl⟩ := List.cons.inj h₂
    exact ⟨rfl, rfl⟩
  · cases h₂

/-- Everything a step can do. -/
theorem step_cases {κ : Type*} {c c' : Config κ} {e : Event κ}
    (h : step wsProviderError c e = some c') :
    (∃ caller request, e = .call caller request ∧
      c' = { c with issued := some request }.record caller request
        (request.enter wsProviderError c.state)) ∨
    (∃ k p l₁ l₂, e = .resume k ∧ c.calls = l₁ ++ p :: l₂ ∧
      c' = { c with calls := l₁ ++ l₂ }.record p.caller p.frame.request
        (p.frame.resume wsProviderError c.state)) ∨
    (∃ inst, e = .close inst ∧ inst ∈ c.state.connected ∧
      c' = { c with state := c.state.close inst }) ∨
    (∃ inst, e = .reopen inst ∧ inst ∈ c.state.opened ∧ inst ∉ c.state.connected ∧
      c' = { c with state := c.state.connect inst }) := by
  cases e with
  | call caller request =>
      simp only [step, Option.some.injEq] at h
      exact .inl ⟨caller, request, rfl, h.symm⟩
  | resume k =>
      simp only [step] at h
      split at h
      · cases h
      · rename_i p hp
        obtain ⟨l₁, l₂, hl, hl'⟩ := eraseIdx_split hp
        rw [hl', Option.some.injEq] at h
        exact .inr (.inl ⟨k, p, l₁, l₂, rfl, hl, h.symm⟩)
  | close inst =>
      simp only [step] at h
      split at h
      · rename_i hc
        rw [Option.some.injEq] at h
        exact .inr (.inr (.inl ⟨inst, rfl, hc, h.symm⟩))
      · cases h
  | reopen inst =>
      simp only [step] at h
      split at h
      · rename_i hc
        rw [Option.some.injEq] at h
        exact .inr (.inr (.inr ⟨inst, rfl, hc.1, hc.2, h.symm⟩))
      · cases h

/-- A list without one of its elements has no others. -/
theorem mem_of_mem_split {α : Type*} {l₁ l₂ : List α} {a b : α} (h : b ∈ l₁ ++ l₂) :
    b ∈ l₁ ++ a :: l₂ := by
  rcases List.mem_append.mp h with h | h
  · exact List.mem_append_left _ h
  · exact List.mem_append_right _ (List.mem_cons_of_mem _ h)

section
variable {κ : Type*} (c : Config κ) (caller : κ) (request : Request) (s : State)

@[simp] theorem record_state (r : State × Progress) :
    (c.record caller request r).state = r.1 := by
  obtain ⟨s, p⟩ := r; cases p <;> rfl

@[simp] theorem record_issued (r : State × Progress) :
    (c.record caller request r).issued = c.issued := by
  obtain ⟨s, p⟩ := r; cases p <;> rfl

@[simp] theorem record_suspended_calls (f : Frame) :
    (c.record caller request (s, .suspended f)).calls = c.calls ++ [⟨caller, f⟩] := rfl

@[simp] theorem record_suspended_settled (f : Frame) :
    (c.record caller request (s, .suspended f)).settled = c.settled := rfl

@[simp] theorem record_settled_calls (o : Outcome) :
    (c.record caller request (s, .settled o)).calls = c.calls := rfl

@[simp] theorem record_settled_settled (o : Outcome) :
    (c.record caller request (s, .settled o)).settled =
      c.settled ++ [⟨caller, request, o⟩] := rfl

variable {c caller request}

theorem mem_record_calls {r : State × Progress} {q : Pending κ}
    (h : q ∈ (c.record caller request r).calls) :
    q ∈ c.calls ∨ (q.caller = caller ∧ r.2 = .suspended q.frame) := by
  obtain ⟨s, p⟩ := r
  cases p with
  | settled o => exact .inl h
  | suspended f =>
      rcases List.mem_append.mp h with h | h
      · exact .inl h
      · rw [List.mem_singleton.mp h]; exact .inr ⟨rfl, rfl⟩

theorem mem_record_settled {r : State × Progress} {q : Settled κ}
    (h : q ∈ (c.record caller request r).settled) :
    q ∈ c.settled ∨ (q.caller = caller ∧ q.request = request ∧ r.2 = .settled q.outcome) := by
  obtain ⟨s, p⟩ := r
  cases p with
  | suspended f => exact .inl h
  | settled o =>
      rcases List.mem_append.mp h with h | h
      · exact .inl h
      · rw [List.mem_singleton.mp h]; exact .inr ⟨rfl, rfl, rfl⟩

end

/-- Where a call in flight comes from: it was in flight, it has just started, or it has gone on. -/
theorem mem_calls_step {κ : Type*} {c c' : Config κ} {e : Event κ}
    (h : step wsProviderError c e = some c') {q : Pending κ} (hq : q ∈ c'.calls) :
    q ∈ c.calls ∨
    (∃ request, e = .call q.caller request ∧
      (request.enter wsProviderError c.state).2 = .suspended q.frame) ∨
    (∃ p ∈ c.calls, q.caller = p.caller ∧
      (p.frame.resume wsProviderError c.state).2 = .suspended q.frame) := by
  rcases step_cases h with ⟨caller, request, rfl, rfl⟩ | ⟨k, p, l₁, l₂, rfl, hl, rfl⟩ |
      ⟨inst, rfl, -, rfl⟩ | ⟨inst, rfl, -, -, rfl⟩
  · rcases mem_record_calls hq with hq' | ⟨rfl, hq'⟩
    · exact .inl hq'
    · exact .inr (.inl ⟨request, rfl, hq'⟩)
  · rcases mem_record_calls hq with hq' | ⟨h₁, hq'⟩
    · exact .inl (hl ▸ mem_of_mem_split hq')
    · exact .inr (.inr ⟨p, by simp [hl], h₁, hq'⟩)
  · exact .inl hq
  · exact .inl hq

/-- Where a settled call comes from. -/
theorem mem_settled_step {κ : Type*} {c c' : Config κ} {e : Event κ}
    (h : step wsProviderError c e = some c') {q : Settled κ} (hq : q ∈ c'.settled) :
    q ∈ c.settled ∨
    (e = .call q.caller q.request ∧
      q.request.enter wsProviderError c.state = (c'.state, .settled q.outcome)) ∨
    (∃ p ∈ c.calls, q.caller = p.caller ∧ q.request = p.frame.request ∧
      p.frame.resume wsProviderError c.state = (c'.state, .settled q.outcome)) := by
  rcases step_cases h with ⟨caller, request, rfl, rfl⟩ | ⟨k, p, l₁, l₂, rfl, hl, rfl⟩ |
      ⟨inst, rfl, -, rfl⟩ | ⟨inst, rfl, -, -, rfl⟩
  · rcases mem_record_settled hq with hq' | ⟨rfl, rfl, hq'⟩
    · exact .inl hq'
    · exact .inr (.inl ⟨rfl, Prod.ext (by simp) hq'⟩)
  · rcases mem_record_settled hq with hq' | ⟨h₁, h₂, hq'⟩
    · exact .inl hq'
    · exact .inr (.inr ⟨p, by simp [hl], h₁, h₂, Prod.ext (by simp) hq'⟩)
  · exact .inl hq
  · exact .inl hq

end SubstrateDevTemplate.Service
