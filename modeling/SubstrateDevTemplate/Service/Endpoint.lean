import SubstrateDevTemplate.Service.Agreement

/-!
# Service — the current endpoint

What a step does to `currentEndpoint` and to the endpoint that is stored: the two are written
together, and only by a call that names an endpoint.

* `step_retargets`: a step leaves both as they are, or sets both to the endpoint of a call that is
  then in flight or has just settled.
* `heading_step`: the endpoint the calls in flight head for, where they only join each other, is
  that of the call started last.
-/

namespace SubstrateDevTemplate.Service

/-- `s'` has the current endpoint and the stored one that `s.retarget endpoint` has. -/
structure State.Retargets (s s' : State) (endpoint : Option String) : Prop where
  currentEndpoint : s'.currentEndpoint = Js.or endpoint s.currentEndpoint
  localStorage : s'.localStorage = (s.retarget endpoint).localStorage

theorem State.Retargets.same {s s' : State} (h₁ : s'.currentEndpoint = s.currentEndpoint)
    (h₂ : s'.localStorage = s.localStorage) : s.Retargets s' none :=
  ⟨h₁.trans (Js.or_of_falsy rfl).symm, h₂⟩

section
variable {wsProviderError : String → Option String}

variable (wsProviderError) in
theorem establish_retargets (s : State) (endpoint : Option String) (w : String) :
    s.Retargets (establish wsProviderError s endpoint w).1 endpoint := by
  rcases establish_cases wsProviderError s endpoint w with ⟨message, -, h⟩ | ⟨-, h⟩
  · rw [h]; exact ⟨State.retarget_currentEndpoint .., rfl⟩
  · rw [h]; exact ⟨State.retarget_currentEndpoint .., rfl⟩

variable (wsProviderError) in
/-- A call that starts. -/
theorem enter_retargets (s : State) (request : Request) :
    ∃ endpoint, s.Retargets (request.enter wsProviderError s).1 endpoint ∧
      (endpoint = none ∨ request = .initializeApi endpoint) := by
  have hsame : ∀ {s' : State}, s'.currentEndpoint = s.currentEndpoint →
      s'.localStorage = s.localStorage → ∃ endpoint, s.Retargets s' endpoint ∧
        (endpoint = none ∨ request = .initializeApi endpoint) :=
    fun h₁ h₂ => ⟨none, .same h₁ h₂, .inl rfl⟩
  cases ha : s.api with
  | none =>
      cases request with
      | disconnectApi => rw [enter_disconnectApi_none ha]; exact hsame rfl rfl
      | initializeApi endpoint =>
          rw [enter_initializeApi_none ha]
          exact ⟨endpoint, establish_retargets wsProviderError _ _ _, .inr rfl⟩
  | some inst =>
      cases request with
      | disconnectApi => rw [enter_disconnectApi_some ha]; exact hsame rfl rfl
      | initializeApi endpoint =>
          by_cases he : endpoint = some s.currentEndpoint
          · subst he
            have h := (checkConnected_quiet s (some s.currentEndpoint) s.currentEndpoint).1
            rw [enter_reuses ⟨by simp [ha], rfl⟩]
            exact hsame (by rw [h]) (by rw [h])
          · rw [enter_initializeApi_leave ha he]; exact hsame rfl rfl

variable (wsProviderError) in
/-- A call that goes on. -/
theorem resume_retargets (s : State) (f : Frame) :
    ∃ endpoint, s.Retargets (f.resume wsProviderError s).1 endpoint ∧
      (endpoint = none ∨ f.request = .initializeApi endpoint) := by
  cases hq : f.quiet with
  | true =>
      obtain ⟨endpoint, w, C, -, h, -⟩ := resume_quiet wsProviderError s hq
      rw [h]
      exact ⟨none, .same rfl rfl, .inl rfl⟩
  | false =>
      cases f with
      | disconnectApi => exact ⟨none, .same rfl rfl, .inl rfl⟩
      | initializeApi endpoint w stage =>
          cases stage with
          | disconnecting =>
              have h := establish_retargets wsProviderError { s with api := none } endpoint w
              refine ⟨endpoint, ⟨h.currentEndpoint, h.localStorage.trans ?_⟩, .inr rfl⟩
              unfold State.retarget
              split
              · rfl
              · rfl
          | creating inst => exact ⟨none, .same rfl rfl, .inl rfl⟩
          | ready | connecting | reconnected => cases hq

end

section
variable {κ : Type*}

/-- A call with this argument is in flight, or has settled. -/
def Config.Asks (c : Config κ) (endpoint : Option String) : Prop :=
  (∃ q ∈ c.calls, q.frame.request = .initializeApi endpoint) ∨
    ∃ r ∈ c.settled, r.request = .initializeApi endpoint

/-- The call that is recorded is there. -/
theorem asks_record (c : Config κ) (caller : κ) (endpoint : Option String) (r : State × Progress)
    (hr : ∀ f, r.2 = .suspended f → f.request = .initializeApi endpoint) :
    (c.record caller (.initializeApi endpoint) r).Asks endpoint := by
  obtain ⟨s, progress⟩ := r
  cases progress with
  | suspended f =>
      exact .inl ⟨⟨caller, f⟩, List.mem_append_right _ (List.mem_singleton_self _), hr f rfl⟩
  | settled o => exact .inr ⟨_, List.mem_append_right _ (List.mem_singleton_self _), rfl⟩

/-- The calls there were are still there. -/
theorem Config.Asks.record {c : Config κ} {endpoint : Option String} (h : c.Asks endpoint)
    (caller : κ) (request : Request) (r : State × Progress) :
    (c.record caller request r).Asks endpoint := by
  obtain ⟨s, progress⟩ := r
  cases progress with
  | suspended f => exact h.imp (fun ⟨q, hq, hf⟩ => ⟨q, List.mem_append_left _ hq, hf⟩) id
  | settled o => exact h.imp id fun ⟨q, hq, hf⟩ => ⟨q, List.mem_append_left _ hq, hf⟩

variable {wsProviderError : String → Option String} {c c' : Config κ} {e : Event κ}

/-- **The current endpoint and the stored one are written together**, and by a call that names the
endpoint. -/
theorem step_retargets (h : step wsProviderError c e = some c') :
    ∃ endpoint, c.state.Retargets c'.state endpoint ∧ (endpoint = none ∨ c'.Asks endpoint) := by
  rcases step_cases h with ⟨caller, request, rfl, rfl⟩ | ⟨k, q, l₁, l₂, rfl, -, rfl⟩ |
      ⟨inst, rfl, -, rfl⟩ | ⟨inst, rfl, -, -, rfl⟩
  · obtain ⟨endpoint, hr, hasks⟩ := enter_retargets wsProviderError c.state request
    refine ⟨endpoint, by rw [record_state]; exact hr, hasks.imp id ?_⟩
    rintro rfl
    exact asks_record _ _ _ _ fun f hf => enter_suspended hf
  · obtain ⟨endpoint, hr, hasks⟩ := resume_retargets wsProviderError c.state q.frame
    refine ⟨endpoint, by rw [record_state]; exact hr, hasks.imp id fun hreq => ?_⟩
    rw [hreq]
    exact asks_record _ _ _ _ fun f hf => (resume_suspended hf).1.trans hreq
  · exact ⟨none, .same rfl rfl, .inl rfl⟩
  · exact ⟨none, .same rfl rfl, .inl rfl⟩

/-- A step takes no call away. -/
theorem asks_step {endpoint : Option String} (hc : c.Asks endpoint)
    (h : step wsProviderError c e = some c') : c'.Asks endpoint := by
  rcases step_cases h with ⟨caller, request, rfl, rfl⟩ | ⟨k, q, l₁, l₂, rfl, hl, rfl⟩ |
      ⟨inst, rfl, -, rfl⟩ | ⟨inst, rfl, -, -, rfl⟩
  · exact Config.Asks.record (c := { c with issued := some request }) hc ..
  · rcases hc with ⟨q', hq', hreq⟩ | hsettled
    · rw [hl, List.mem_append, List.mem_cons] at hq'
      have hrest : q' ∈ l₁ ++ l₂ ∨ q' = q := by
        rcases hq' with h | h | h
        · exact .inl (List.mem_append_left _ h)
        · exact .inr h
        · exact .inl (List.mem_append_right _ h)
      rcases hrest with hq' | rfl
      · exact Config.Asks.record (c := { c with calls := l₁ ++ l₂ }) (.inl ⟨q', hq', hreq⟩) ..
      · -- the call that goes on is recorded again
        rw [hreq]
        exact asks_record _ _ _ _ fun f hf => (resume_suspended hf).1.trans hreq
    · exact Config.Asks.record (c := { c with calls := l₁ ++ l₂ }) (.inr hsettled) ..
  · exact hc
  · exact hc

/-! ### Where the calls in flight head for -/

/-- The endpoint that is the current one once the call that waits for a disconnection has gone on.
-/
def Config.heading (c : Config κ) : String :=
  match c.calls with
  | [⟨_, .initializeApi endpoint _ .disconnecting⟩] => Js.or endpoint c.state.currentEndpoint
  | _ => c.state.currentEndpoint

theorem heading_current (hl : ∀ q ∈ c.calls, q.frame.leaving = false) :
    c.heading = c.state.currentEndpoint := by
  unfold Config.heading
  split
  · rename_i caller endpoint w hcalls
    have := hl _ (hcalls ▸ List.mem_singleton_self _)
    cases this
  · rfl

/-- A call that starts, with no other in flight. -/
theorem heading_enter (hc : c.calls = []) (caller : κ) (request : Request) :
    (c.record caller request (request.enter wsProviderError c.state)).heading =
      match request with
      | .initializeApi endpoint => Js.or endpoint c.state.currentEndpoint
      | .disconnectApi => c.state.currentEndpoint := by
  have hnone : ∀ q ∈ c.calls, q.frame.leaving = false := by rw [hc]; rintro q ⟨⟩
  cases ha : c.state.api with
  | none =>
      cases request with
      | disconnectApi =>
          rw [enter_disconnectApi_none ha]
          exact heading_current hnone
      | initializeApi endpoint =>
          rw [enter_initializeApi_none ha, heading_current, record_state]
          · exact (establish_retargets wsProviderError _ _ _).currentEndpoint
          · intro q hq
            rcases mem_record_calls hq with hq | ⟨-, hq⟩
            · exact hnone q hq
            · rcases establish_cases wsProviderError c.state endpoint
                (Js.or endpoint c.state.currentEndpoint) with ⟨_, -, he⟩ | ⟨-, he⟩
              · rw [he] at hq; cases hq
              · rw [he] at hq; rw [← Progress.suspended.inj hq]; rfl
  | some inst =>
      cases request with
      | disconnectApi =>
          rw [enter_disconnectApi_some ha]
          simp only [Config.heading, record_suspended_calls, hc, List.nil_append, record_state]
          rfl
      | initializeApi endpoint =>
          by_cases he : endpoint = some c.state.currentEndpoint
          · subst he
            have henter : (Request.initializeApi (some c.state.currentEndpoint)).enter
                wsProviderError c.state = checkConnected c.state (some c.state.currentEndpoint)
                  c.state.currentEndpoint := enter_reuses ⟨by simp [ha], rfl⟩
            rw [henter, heading_current, record_state, (checkConnected_quiet _ _ _).1]
            · exact (Js.or_self _).symm
            · intro q hq
              rcases mem_record_calls hq with hq | ⟨-, hq⟩
              · exact hnone q hq
              · exact enter_join_not_leaving ((congrArg Prod.snd henter).trans hq)
          · rw [enter_initializeApi_leave ha he]
            simp only [Config.heading, record_suspended_calls, hc, List.nil_append, record_state]
            rfl

/-- **One step**, of calls that join: the heading is that of the call that starts, if one does. -/
theorem heading_step (hj : Joined c) (hg : Joins c e) (h : step wsProviderError c e = some c') :
    c'.heading = match e with
      | .call _ (.initializeApi endpoint) => Js.or endpoint c.heading
      | _ => c.heading := by
  have hquiet : ∀ {c₁ : Config κ}, c₁.calls = c.calls →
      c₁.state.currentEndpoint = c.state.currentEndpoint → c₁.heading = c.heading := by
    intro c₁ h₁ h₂
    simp only [Config.heading, h₁, h₂]
  rcases step_cases h with ⟨caller, request, rfl, rfl⟩ | ⟨k, q, l₁, l₂, rfl, hl, rfl⟩ |
      ⟨inst, rfl, -, rfl⟩ | ⟨inst, rfl, -, -, rfl⟩
  · rcases hg with hc | ⟨rfl, hleaving⟩
    · have hhead : c.heading = c.state.currentEndpoint :=
        heading_current (by rw [hc]; rintro q ⟨⟩)
      refine (heading_enter (c := { c with issued := some request }) hc caller request).trans ?_
      cases request with
      | initializeApi endpoint => rw [hhead]
      | disconnectApi => exact hhead.symm
    · -- the call joins: it asks for the current endpoint, and none waits for a disconnection
      have hend := joined_endpoint hj hleaving (by rintro _ _ ⟨⟩; rfl) h
      rw [heading_current hleaving, heading_current, hend]
      · exact (Js.or_self _).symm
      · intro q hq
        rcases mem_record_calls hq with hq | ⟨-, hq⟩
        · exact hleaving q hq
        · exact enter_join_not_leaving hq
  · rcases hj.calls with ⟨q', hq', hleaves⟩ | hall
    · -- the call that was alone is past its disconnection
      obtain ⟨hnil, rfl⟩ := eq_of_split_singleton (hl.symm.trans hq')
      rw [heading_current]
      · rw [record_state]
        obtain ⟨caller, frame⟩ := q
        cases frame with
        | disconnectApi => simp only [Config.heading, hq']; rfl
        | initializeApi endpoint w stage =>
            obtain ⟨-, rfl⟩ := hleaves
            simp only [Config.heading, hq']
            exact (establish_retargets wsProviderError { c.state with api := none }
              endpoint w).currentEndpoint
      · intro q₁ hq₁
        rcases mem_record_calls hq₁ with hq₁ | ⟨-, hq₁⟩
        · simp only [hnil] at hq₁
          cases hq₁
        · exact (resume_suspended hq₁).2
    · have hleaving : ∀ q ∈ c.calls, q.frame.leaving = false := fun q hq => (hall q hq).not_leaving
      have hend := joined_endpoint hj hleaving (by rintro _ _ ⟨⟩) h
      rw [heading_current hleaving, heading_current, hend]
      intro q₁ hq₁
      rcases mem_record_calls hq₁ with hq₁ | ⟨-, hq₁⟩
      · exact hleaving q₁ (hl ▸ mem_of_mem_split hq₁)
      · exact (resume_suspended hq₁).2
  · exact hquiet rfl rfl
  · exact hquiet rfl rfl

end

end SubstrateDevTemplate.Service
