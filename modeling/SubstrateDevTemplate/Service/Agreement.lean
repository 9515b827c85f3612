import SubstrateDevTemplate.Support.Runs
import SubstrateDevTemplate.Service.Leaks

/-!
# Service — a connection belongs to its endpoint

`initializeApi` assigns `currentEndpoint` before it creates the instance and `api` after it, and it
returns the variable `api`, not the instance it created.  Two calls for different endpoints that
overlap can therefore leave the two variables at odds, and one of them can return the other's
instance, or `null`.

* `endpoints_agree`: in a run in which a call starts beside others only to *join* them (it asks for
  the current endpoint by name, and no other call waits for a disconnection), a call for `e`
  resolves with an instance of `e`, and with no call in flight `api` belongs to `currentEndpoint`.
* `overlap_returns_other`: without that, a call for Kusama returns the instance of Polkadot.

The invariant is `Joined`: either one call alone is waiting for a disconnection, or every call in
flight is for the current endpoint (`Frame.OnCurrent`).
-/

namespace SubstrateDevTemplate.Service
open Transition

variable {κ : Type*}

/-- A call for `e` that resolved, resolved with an instance of `e`; with no call in flight, the
module's instance belongs to the current endpoint. -/
def EndpointsAgree (c : Config κ) : Prop :=
  (∀ r ∈ c.settled, ∀ e value, r.request = .initializeApi (some e) → e ≠ "" →
    r.outcome = .resolved value → ∃ inst, value = some inst ∧ inst.endpoint = e) ∧
  (c.calls = [] → ∀ inst, c.state.api = some inst →
    inst.endpoint = c.state.currentEndpoint)

/-- A call starts when none is in flight, or joins the ones in flight: it asks for the current
endpoint by name, and none of them waits for a disconnection. -/
def Joins (c : Config κ) : Event κ → Prop
  | .call _ request => c.calls = [] ∨
      (request = .initializeApi (some c.state.currentEndpoint) ∧
        ∀ p ∈ c.calls, p.frame.leaving = false)
  | _ => True

instance (c : Config κ) : (e : Event κ) → Decidable (Joins c e)
  | .call _ _ => inferInstanceAs (Decidable (_ ∨ _ ∧ ∀ p ∈ _, _))
  | .resume _ | .close _ | .reopen _ => isTrue trivial

/-! ### The invariant -/

/-- A stage of a call for the current endpoint, with nothing left to disconnect. -/
def Stage.OnCurrent (s : State) : Stage → Prop
  | .disconnecting => False
  | .creating inst => inst.endpoint = s.currentEndpoint
  | .ready | .connecting _ | .reconnected => s.api ≠ none

/-- The call is for the current endpoint, and its disconnection, if any, is behind it. -/
def Frame.OnCurrent (s : State) : Frame → Prop
  | .initializeApi endpoint w stage =>
      Js.or endpoint s.currentEndpoint = s.currentEndpoint ∧ w = s.currentEndpoint ∧
        stage.OnCurrent s
  | .disconnectApi => False

/-- The call is about to leave the current endpoint, or to disconnect. -/
def Frame.Leaves (s : State) : Frame → Prop
  | .initializeApi endpoint w stage =>
      w = Js.or endpoint s.currentEndpoint ∧ stage = .disconnecting
  | .disconnectApi => True

/-- The module's instance belongs to the current endpoint. -/
def State.Agrees (s : State) : Prop :=
  ∀ inst, s.api = some inst → inst.endpoint = s.currentEndpoint

/-- Either one call is alone and waits for a disconnection, or every call is for the current
endpoint. -/
structure Joined (c : Config κ) : Prop where
  agrees : c.state.Agrees
  calls : (∃ p, c.calls = [p] ∧ p.frame.Leaves c.state) ∨
    ∀ p ∈ c.calls, p.frame.OnCurrent c.state

theorem Frame.OnCurrent.not_leaving {s : State} {f : Frame} (h : f.OnCurrent s) :
    f.leaving = false := by
  cases f with
  | disconnectApi => exact h.elim
  | initializeApi endpoint w stage =>
      cases stage with
      | disconnecting => exact h.2.2.elim
      | creating | ready | connecting | reconnected => rfl

theorem Frame.Leaves.leaving {s : State} {f : Frame} (h : f.Leaves s) : f.leaving = true := by
  cases f with
  | disconnectApi => rfl
  | initializeApi endpoint w stage => obtain ⟨-, rfl⟩ := h; rfl

/-- A frame stays on the current endpoint while that endpoint and an instance remain. -/
theorem Frame.OnCurrent.mono {s s' : State} {f : Frame} (h : f.OnCurrent s)
    (hc : s'.currentEndpoint = s.currentEndpoint) (ha : s.api ≠ none → s'.api ≠ none) :
    f.OnCurrent s' := by
  cases f with
  | disconnectApi => exact h
  | initializeApi endpoint w stage =>
      obtain ⟨h₁, h₂, h₃⟩ := h
      refine ⟨by rw [hc]; exact h₁, by rw [hc]; exact h₂, ?_⟩
      cases stage with
      | disconnecting => exact h₃
      | creating inst => exact h₃.trans hc.symm
      | ready | connecting | reconnected => exact ha h₃

/-! ### How far a call for the current endpoint gets -/

/-- A call for the current endpoint is suspended on it, or settles with an instance of it. -/
def Progress.Lands (s : State) (endpoint : Option String) : Progress → Prop
  | .suspended f => f.request = .initializeApi endpoint ∧ f.OnCurrent s
  | .settled (.resolved value) =>
      Js.or endpoint s.currentEndpoint = s.currentEndpoint ∧
        ∃ inst, value = some inst ∧ inst.endpoint = s.currentEndpoint
  | .settled (.rejected _) => True

theorem checkConnected_lands {s : State} {endpoint : Option String} (hs : s.Agrees)
    (ha : s.api ≠ none) (he : Js.or endpoint s.currentEndpoint = s.currentEndpoint) :
    (checkConnected s endpoint s.currentEndpoint).2.Lands s endpoint := by
  rcases checkConnected_cases s endpoint s.currentEndpoint with
    ⟨h₀, -⟩ | ⟨inst, h₁, -, h⟩ | ⟨inst, -, -, h⟩
  · exact absurd h₀ ha
  · rw [h]; exact ⟨he, inst, rfl, hs inst h₁⟩
  · rw [h]; exact ⟨rfl, he, rfl, ha⟩

section
variable {wsProviderError : String → Option String}

variable (wsProviderError) in
/-- A call that constructs its provider makes its endpoint the current one. -/
theorem establish_lands {s : State} {endpoint : Option String} {w : String}
    (hw : w = Js.or endpoint s.currentEndpoint) :
    (establish wsProviderError s endpoint w).1.currentEndpoint = w ∧
      (establish wsProviderError s endpoint w).1.api = s.api ∧
      (establish wsProviderError s endpoint w).2.Lands
        (establish wsProviderError s endpoint w).1 endpoint := by
  rcases establish_cases wsProviderError s endpoint w with
    ⟨message, -, h⟩ | ⟨-, h⟩
  · rw [h]; exact ⟨by simp [hw], by simp, trivial⟩
  · rw [h]
    refine ⟨by simp [hw], by simp, rfl, ?_, ?_, ?_⟩
    · simp [Js.or_or]
    · simp [hw]
    · simp [Stage.OnCurrent, hw]

variable (wsProviderError) in
/-- A call for the current endpoint goes on, and leaves the endpoint and the instance in place. -/
theorem resume_lands {s : State} {f : Frame} (hs : s.Agrees) (hf : f.OnCurrent s) :
    (f.resume wsProviderError s).1.currentEndpoint = s.currentEndpoint ∧
      (s.api ≠ none → (f.resume wsProviderError s).1.api ≠ none) ∧
      (f.resume wsProviderError s).1.Agrees ∧
      ∃ endpoint, f.request = .initializeApi endpoint ∧
        (f.resume wsProviderError s).2.Lands (f.resume wsProviderError s).1 endpoint := by
  cases f with
  | disconnectApi => exact hf.elim
  | initializeApi endpoint w stage =>
      obtain ⟨he, rfl, hstage⟩ := hf
      cases stage with
      | disconnecting => exact hstage.elim
      | creating inst =>
          refine ⟨rfl, by simp [Frame.resume], ?_, endpoint, rfl, rfl, he, rfl, ?_⟩
          · rintro i ⟨⟩; exact hstage
          · simp [Stage.OnCurrent, Frame.resume]
      | ready =>
          have h₁ := (checkConnected_quiet s endpoint s.currentEndpoint).1
          have h₂ := checkConnected_lands hs hstage he
          simp only [Frame.resume]
          rw [h₁]
          exact ⟨rfl, id, hs, endpoint, rfl, h₂⟩
      | connecting inst =>
          obtain ⟨i, hi⟩ := Option.ne_none_iff_exists'.mp hstage
          simp only [Frame.resume, hi]
          refine ⟨rfl, by simp [hi], hs, endpoint, rfl, rfl, he, rfl, ?_⟩
          simp [Stage.OnCurrent, hi]
      | reconnected =>
          obtain ⟨i, hi⟩ := Option.ne_none_iff_exists'.mp hstage
          exact ⟨rfl, id, hs, endpoint, rfl, he, i, hi, hs i hi⟩

end

/-! ### One step -/

/-- What settled is a call that landed, or a disconnection. -/
def Settled.Landed (s : State) (r : Settled κ) : Prop :=
  ∀ endpoint, r.request = .initializeApi endpoint → (Progress.settled r.outcome).Lands s endpoint

/-- Whatever has newly settled has landed. -/
def SettlesLanded (c c' : Config κ) : Prop :=
  ∀ r ∈ c'.settled, r ∈ c.settled ∨ r.Landed c'.state

/-- The outcome of one call is added. -/
theorem settlesLanded_append {c c' : Config κ} {r : Settled κ}
    (h : c'.settled = c.settled ++ [r]) (hr : r.Landed c'.state) : SettlesLanded c c' := by
  intro q hq
  rw [h] at hq
  rcases List.mem_append.mp hq with hq | hq
  · exact .inl hq
  · rw [List.mem_singleton.mp hq]; exact .inr hr

/-- A call lands beside calls for the current endpoint. -/
theorem joined_record {c : Config κ} {caller : κ} {endpoint : Option String}
    {r : State × Progress} (hs : r.1.Agrees) (hr : r.2.Lands r.1 endpoint)
    (hc : ∀ p ∈ c.calls, p.frame.OnCurrent r.1) :
    Joined (c.record caller (.initializeApi endpoint) r) ∧
      SettlesLanded c (c.record caller (.initializeApi endpoint) r) := by
  obtain ⟨s, r⟩ := r
  cases r with
  | suspended f =>
      refine ⟨⟨hs, .inr fun p hp => ?_⟩, fun _ => .inl⟩
      rcases List.mem_append.mp hp with hp | hp
      · exact hc p hp
      · rw [List.mem_singleton.mp hp]; exact hr.2
  | settled o =>
      exact ⟨⟨hs, .inr hc⟩, settlesLanded_append rfl (by rintro e ⟨⟩; exact hr)⟩

/-- A call that waits for a disconnection is alone. -/
theorem joined_record_leaving {c : Config κ} {caller : κ} {request : Request} {s : State}
    {f : Frame} (hs : s.Agrees) (hf : f.Leaves s) (hc : c.calls = []) :
    Joined (c.record caller request (s, .suspended f)) ∧
      SettlesLanded c (c.record caller request (s, .suspended f)) :=
  ⟨⟨hs, .inl ⟨⟨caller, f⟩, by rw [record_suspended_calls, hc]; rfl, hf⟩⟩, fun _ => .inl⟩

section
variable {wsProviderError : String → Option String}

/-- A call constructs its provider, with no call beside it or for the current endpoint. -/
theorem joined_establish {c : Config κ} {caller : κ} {endpoint : Option String} {w : String}
    {s : State} (hw : w = Js.or endpoint s.currentEndpoint) (ha : s.api = none)
    (hc : ∀ p ∈ c.calls, p.frame.OnCurrent s ∧ w = s.currentEndpoint) :
    Joined (c.record caller (.initializeApi endpoint)
        (establish wsProviderError s endpoint w)) ∧
      SettlesLanded c (c.record caller (.initializeApi endpoint)
        (establish wsProviderError s endpoint w)) := by
  obtain ⟨h₁, h₂, h₃⟩ := establish_lands wsProviderError hw
  refine joined_record (fun i hi => ?_) h₃ fun p hp => ?_
  · rw [h₂, ha] at hi; cases hi
  · obtain ⟨hp₁, hp₂⟩ := hc p hp
    exact hp₁.mono (h₁.trans hp₂) fun hn => absurd ha hn

/-- A call that reuses the module's instance, beside calls for the current endpoint. -/
theorem joined_reuses {c : Config κ} {caller : κ} (hj : c.state.Agrees)
    (ha : c.state.api ≠ none) (hc : ∀ p ∈ c.calls, p.frame.OnCurrent c.state) :
    Joined (c.record caller (.initializeApi (some c.state.currentEndpoint))
        ((Request.initializeApi (some c.state.currentEndpoint)).enter wsProviderError c.state)) ∧
      SettlesLanded c (c.record caller (.initializeApi (some c.state.currentEndpoint))
        ((Request.initializeApi (some c.state.currentEndpoint)).enter wsProviderError
          c.state)) := by
  have h₁ := (checkConnected_quiet c.state (some c.state.currentEndpoint)
    c.state.currentEndpoint).1
  have h₂ := checkConnected_lands hj ha (Js.or_self _)
  rw [enter_reuses ⟨ha, rfl⟩]
  exact joined_record (by rw [h₁]; exact hj) (by rw [h₁]; exact h₂) (by rw [h₁]; exact hc)

/-- A call starts with none in flight. -/
theorem joined_first {c : Config κ} {caller : κ} {request : Request} (hj : c.state.Agrees)
    (hc : c.calls = []) :
    Joined (c.record caller request (request.enter wsProviderError c.state)) ∧
      SettlesLanded c (c.record caller request (request.enter wsProviderError c.state)) := by
  cases ha : c.state.api with
  | none =>
      cases request with
      | initializeApi endpoint =>
          rw [enter_initializeApi_none ha]
          exact joined_establish rfl ha (by rw [hc]; simp)
      | disconnectApi =>
          rw [enter_disconnectApi_none ha]
          exact ⟨⟨hj, .inr (by rw [record_settled_calls, hc]; simp)⟩,
            settlesLanded_append rfl (by rintro e ⟨⟩)⟩
  | some inst =>
      cases request with
      | initializeApi endpoint =>
          by_cases he : endpoint = some c.state.currentEndpoint
          · obtain rfl := he
            exact joined_reuses hj (by simp [ha]) (by rw [hc]; simp)
          · rw [enter_initializeApi_leave ha he]
            exact joined_record_leaving hj ⟨rfl, rfl⟩ hc
      | disconnectApi =>
          rw [enter_disconnectApi_some ha]
          exact joined_record_leaving hj trivial hc

/-- A call joins calls for the current endpoint. -/
theorem joined_join {c : Config κ} {caller : κ} (hj : c.state.Agrees)
    (hc : ∀ p ∈ c.calls, p.frame.OnCurrent c.state) :
    Joined (c.record caller (.initializeApi (some c.state.currentEndpoint))
        ((Request.initializeApi (some c.state.currentEndpoint)).enter wsProviderError c.state)) ∧
      SettlesLanded c (c.record caller (.initializeApi (some c.state.currentEndpoint))
        ((Request.initializeApi (some c.state.currentEndpoint)).enter wsProviderError
          c.state)) := by
  by_cases ha : c.state.api = none
  · rw [enter_initializeApi_none ha, Js.or_self]
    exact joined_establish (Js.or_self _).symm ha fun p hp => ⟨hc p hp, rfl⟩
  · exact joined_reuses hj ha hc

/-- A call that waited for a disconnection, alone, goes on. -/
theorem joined_resume_leaving {c : Config κ} {p : Pending κ} (hp : p.frame.Leaves c.state)
    (hc : c.calls = []) :
    Joined (c.record p.caller p.frame.request (p.frame.resume wsProviderError c.state)) ∧
      SettlesLanded c
        (c.record p.caller p.frame.request (p.frame.resume wsProviderError c.state)) := by
  obtain ⟨caller, frame⟩ := p
  cases frame with
  | disconnectApi =>
      refine ⟨⟨by rintro i ⟨⟩, .inr ?_⟩, settlesLanded_append rfl (by rintro e ⟨⟩)⟩
      rw [Frame.resume, record_settled_calls, hc]
      simp
  | initializeApi endpoint w stage =>
      obtain ⟨hw, rfl⟩ := hp
      exact joined_establish (s := { c.state with api := none }) hw rfl (by rw [hc]; simp)

/-- **One step.** -/
theorem joined_step {c c' : Config κ} {e : Event κ} (hj : Joined c) (hg : Joins c e)
    (h : step wsProviderError c e = some c') : Joined c' ∧ SettlesLanded c c' := by
  rcases step_cases h with ⟨caller, request, rfl, rfl⟩ | ⟨k, p, l₁, l₂, rfl, hl, rfl⟩ |
      ⟨inst, rfl, -, rfl⟩ | ⟨inst, rfl, -, -, rfl⟩
  · rcases hg with hc | ⟨rfl, hg⟩
    · exact joined_first (c := { c with issued := some request }) hj.agrees hc
    · refine joined_join
        (c := { c with issued := some (.initializeApi (some c.state.currentEndpoint)) })
        hj.agrees ?_
      rcases hj.calls with ⟨p, hp, hp'⟩ | hall
      · -- nothing joins a call that waits for a disconnection
        have := hg p (by simp [hp])
        rw [hp'.leaving] at this
        cases this
      · exact hall
  · rcases hj.calls with ⟨q, hq, hq'⟩ | hall
    · -- the only call there is
      obtain ⟨hnil, hp⟩ := eq_of_split_singleton (hl.symm.trans hq)
      exact joined_resume_leaving (c := { c with calls := l₁ ++ l₂ }) (hp ▸ hq') hnil
    · -- the calls beside it stay where they are
      have hp : p.frame.OnCurrent c.state := hall p (by simp [hl])
      obtain ⟨h₁, h₂, h₃, endpoint, hreq, h₄⟩ := resume_lands
        wsProviderError hj.agrees hp
      rw [hreq]
      exact joined_record (c := { c with calls := l₁ ++ l₂ }) h₃ h₄ fun q hq =>
        (hall q (hl ▸ mem_of_mem_split hq)).mono h₁ h₂
  · refine ⟨⟨hj.agrees, ?_⟩, fun _ => .inl⟩
    exact hj.calls.imp id fun hall p hp => (hall p hp).mono rfl id
  · refine ⟨⟨hj.agrees, ?_⟩, fun _ => .inl⟩
    exact hj.calls.imp id fun hall p hp => (hall p hp).mono rfl id

/-- A call that joins, and a call that goes on, leave the current endpoint alone. -/
theorem joined_endpoint {c c' : Config κ} {e : Event κ} (hj : Joined c)
    (hl : ∀ p ∈ c.calls, p.frame.leaving = false)
    (hg : ∀ caller request, e = .call caller request →
      request = .initializeApi (some c.state.currentEndpoint))
    (h : step wsProviderError c e = some c') :
    c'.state.currentEndpoint = c.state.currentEndpoint := by
  rcases step_cases h with ⟨caller, request, rfl, rfl⟩ | ⟨k, p, l₁, l₂, rfl, hsplit, rfl⟩ |
      ⟨inst, rfl, -, rfl⟩ | ⟨inst, rfl, -, -, rfl⟩
  · obtain rfl := hg _ _ rfl
    rw [record_state]
    by_cases ha : c.state.api = none
    · rw [enter_initializeApi_none ha, Js.or_self]
      exact (establish_lands wsProviderError (Js.or_self _).symm).1
    · rw [enter_reuses ⟨ha, rfl⟩, (checkConnected_quiet _ _ _).1]
  · have hp : p ∈ c.calls := by simp [hsplit]
    rw [record_state]
    rcases hj.calls with ⟨q, hq, hq'⟩ | hall
    · rw [hq, List.mem_singleton] at hp
      have := hl q (by simp [hq])
      rw [hq'.leaving] at this
      cases this
    · exact (resume_lands wsProviderError hj.agrees (hall p hp)).1
  · rfl
  · rfl

/-- A call that asks for the current endpoint by name does not wait for a disconnection. -/
theorem enter_join_not_leaving {s : State} {f : Frame}
    (h : ((Request.initializeApi (some s.currentEndpoint)).enter wsProviderError s).2 =
      .suspended f) : f.leaving = false := by
  by_cases ha : s.api = none
  · rw [enter_initializeApi_none ha] at h
    rcases establish_cases wsProviderError s (some s.currentEndpoint)
      (Js.or (some s.currentEndpoint) s.currentEndpoint) with ⟨_, -, he⟩ | ⟨-, he⟩
    · rw [he] at h; cases h
    · rw [he] at h; cases h; rfl
  · rw [enter_reuses ⟨ha, rfl⟩] at h
    obtain ⟨stage, rfl, hq⟩ := (checkConnected_quiet s _ _).2 f h
    cases stage with
    | disconnecting => cases hq
    | creating inst => cases hq
    | ready | connecting | reconnected => rfl

/-- A call that waits for a disconnection has been waiting, or has just started on its own; the
step settles no call. -/
theorem leaving_step {c c' : Config κ} {e : Event κ} (hj : Joined c) (hg : Joins c e)
    (h : step wsProviderError c e = some c') {q : Pending κ} (hq : q ∈ c'.calls)
    (hl : q.frame.leaving = true) :
    c'.settled = c.settled ∧ (q ∈ c.calls ∨ ∃ caller request, e = .call caller request ∧
      request ≠ .initializeApi (some c.state.currentEndpoint)) := by
  rcases step_cases h with ⟨caller, request, rfl, rfl⟩ | ⟨k, p, l₁, l₂, rfl, hsplit, rfl⟩ |
      ⟨inst, rfl, -, rfl⟩ | ⟨inst, rfl, -, -, rfl⟩
  · rcases mem_record_calls hq with hq' | ⟨-, hq'⟩
    · rcases hg with hc | ⟨-, hg⟩
      · rw [hc] at hq'; cases hq'
      · rw [hg q hq'] at hl; cases hl
    · refine ⟨?_, .inr ⟨caller, request, rfl, ?_⟩⟩
      · rw [← Prod.mk.eta (p := Request.enter _ _ _), hq', record_suspended_settled]
      · rintro rfl
        rw [enter_join_not_leaving hq'] at hl; cases hl
  · -- nothing that goes on waits for a disconnection, and nothing waits beside one that does
    exfalso
    rcases mem_record_calls hq with hq' | ⟨-, hq'⟩
    · rcases hj.calls with ⟨p', hp, -⟩ | hall
      · rw [(eq_of_split_singleton (hsplit.symm.trans hp)).1] at hq'
        cases hq'
      · have := (hall q (hsplit ▸ mem_of_mem_split hq')).not_leaving
        rw [hl] at this; cases this
    · rw [(resume_suspended hq').2] at hl; cases hl
  · exact ⟨rfl, .inl hq⟩
  · exact ⟨rfl, .inl hq⟩

/-! ### Runs -/

/-- A call for `e` that landed resolved with an instance of `e`. -/
theorem Settled.Landed.endpoint {s : State} {r : Settled κ} (h : r.Landed s) {e : String}
    {value : Option ApiPromise} (hr : r.request = .initializeApi (some e)) (he : e ≠ "")
    (hv : r.outcome = .resolved value) : ∃ inst, value = some inst ∧ inst.endpoint = e := by
  have hl := h _ hr
  rw [hv] at hl
  obtain ⟨h₁, inst, rfl, h₂⟩ := hl
  rw [Js.or_some he] at h₁
  exact ⟨inst, rfl, h₂.trans h₁.symm⟩

/-- **Endpoint agreement**, when the calls that start beside others join them. -/
theorem endpoints_agree {savedEndpoint env : Option String} {es : List (Event κ)} {c : Config κ}
    (h : Run (step wsProviderError) Joins (.load savedEndpoint env) es c) : EndpointsAgree c := by
  let I : Config κ → Prop := fun c => Joined c ∧ ∀ r ∈ c.settled, ∀ e value,
    r.request = .initializeApi (some e) → e ≠ "" → r.outcome = .resolved value →
      ∃ inst, value = some inst ∧ inst.endpoint = e
  have hI : I c := by
    refine h.invariant (I := I) (fun c e c' ⟨hj, hset⟩ hg hst => ?_)
      ⟨⟨by rintro i ⟨⟩, .inr (by rintro p ⟨⟩)⟩, by rintro r ⟨⟩⟩
    obtain ⟨hj', hs⟩ := joined_step hj hg hst
    refine ⟨hj', fun r hr => ?_⟩
    rcases hs r hr with hr | hr
    · exact hset r hr
    · exact fun e value h₁ h₂ h₃ => hr.endpoint h₁ h₂ h₃
  exact ⟨hI.2, fun _ => hI.1.agrees⟩

end

/-- Two calls for the current endpoint, the second joining the first. -/
theorem endpoints_agree_join :
    EndpointsAgree ((exec (step schemeError) Joins (.load none none)
      [.call () (changeEndpoint "wss://rpc.polkadot.io"),
        .call () (changeEndpoint "wss://rpc.polkadot.io"), .resume 1, .resume 1,
        .resume 0, .resume 0]).get (by decide)) :=
  endpoints_agree (run_of_exec (Option.some_get _).symm)

/-- **Two endpoints overlap.**  The creation for Polkadot, started first, completes last: the call
for Kusama resolves with Polkadot's instance, and the module is left with Polkadot's instance under
Kusama's endpoint. -/
theorem overlap_returns_other :
    ∃ c, Run (step schemeError) anyEvent (.load none none)
        [.call () (changeEndpoint "wss://rpc.polkadot.io"),
          .call () (changeEndpoint "wss://kusama-rpc.polkadot.io"),
          .resume 1, .resume 0, .resume 0, .resume 0] c ∧
      c.calls = [] ∧ c.state.api = some ⟨0, "wss://rpc.polkadot.io"⟩ ∧
      c.state.currentEndpoint = "wss://kusama-rpc.polkadot.io" ∧ ¬ EndpointsAgree c := by
  refine exists_run_of (P := fun c : Config Unit => c.calls = [] ∧
    c.state.api = some ⟨0, "wss://rpc.polkadot.io"⟩ ∧
    c.state.currentEndpoint = "wss://kusama-rpc.polkadot.io") (by decide) ?_
  intro c ⟨hc, ha, he⟩
  refine ⟨hc, ha, he, fun h => ?_⟩
  have hagree := h.2 hc _ ha
  rw [he] at hagree
  revert hagree
  decide

end SubstrateDevTemplate.Service
