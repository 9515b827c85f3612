import Mathlib.Data.Finset.Option
import SubstrateDevTemplate.Support.Runs
import SubstrateDevTemplate.Service.Steps

/-!
# Service — which instances stay open

An instance is reachable through `api` only from the completion of its creation on, so a call that
starts while another one is waiting for a creation or a disconnection looks at a variable that does
not hold the connection in progress.

* `no_leak`: in a run in which no call that constructs or disconnects starts while another waits
  for a disconnection or a creation, nothing leaks: with no call in flight, the open instances are
  the value of `api`, and none after a `disconnectApi()` that was issued last.
* `strict_mode_leaks`: a mount, its cleanup and a second mount leave two instances open.

The invariant is `Sole`: at most one call is at such an `await`, and the open instances are the
ones it holds, or the value of `api` when there is no such call.
-/

namespace SubstrateDevTemplate.Service
open Transition

variable {κ : Type*}

/-- With no call in flight, the open instances are the value of `api` (none when it is null), and a
`disconnectApi()` issued last has left none. -/
def NoLeak (c : Config κ) : Prop :=
  c.calls = [] → c.state.opened = c.state.api.toFinset ∧
    (c.issued = some .disconnectApi → c.state.opened = ∅ ∧ c.state.api = none)

instance [DecidableEq κ] (c : Config κ) : Decidable (NoLeak c) :=
  inferInstanceAs (Decidable (_ → _ ∧ (_ → _ ∧ _)))

/-- The frames suspended at a disconnection or a creation. -/
def changing (calls : List (Pending κ)) : List Frame :=
  (calls.map Pending.frame).filter fun f => !f.quiet

/-- A call is started only when no call waits for a disconnection or a creation, or when it reuses
the module's instance. -/
def StartsSettled (c : Config κ) : Event κ → Prop
  | .call _ request => changing c.calls = [] ∨ request.reuses c.state
  | _ => True

instance (c : Config κ) : (e : Event κ) → Decidable (StartsSettled c e)
  | .call _ _ => inferInstanceAs (Decidable (_ ∨ _))
  | .resume _ | .close _ | .reopen _ => isTrue trivial

/-! ### The invariant -/

/-- The instances only a suspended call can reach. -/
def Frame.holds : Frame → Finset ApiPromise
  | .initializeApi _ _ (.creating inst) => {inst}
  | _ => ∅

/-- At most one call waits for a disconnection or a creation, and the open instances are those it
holds, or those of `api` if there is none. -/
structure Sole (c : Config κ) : Prop where
  opened : (changing c.calls = [] ∧ c.state.opened = c.state.api.toFinset) ∨
    ∃ f, changing c.calls = [f] ∧ c.state.opened = f.holds
  issued : c.issued = some .disconnectApi →
    (changing c.calls = [] ∧ c.state.api = none) ∨ changing c.calls = [.disconnectApi]

theorem changing_append (l₁ l₂ : List (Pending κ)) :
    changing (l₁ ++ l₂) = changing l₁ ++ changing l₂ := by
  simp [changing]

theorem changing_quiet {p : Pending κ} (h : p.frame.quiet = true) : changing [p] = [] := by
  simp [changing, h]

theorem changing_not_quiet {p : Pending κ} (h : p.frame.quiet = false) :
    changing [p] = [p.frame] := by
  simp [changing, h]

theorem changing_cons (p : Pending κ) (l : List (Pending κ)) :
    changing (p :: l) = changing [p] ++ changing l := changing_append [p] l

/-- A call that got no further than a quiet frame is not among those that change anything. -/
theorem changing_record_quiet {c : Config κ} {caller : κ} {request : Request} {s : State}
    {r : Progress} {endpoint : Option String} {w : String} (hr : r.Quiet endpoint w) :
    changing (c.record caller request (s, r)).calls = changing c.calls := by
  cases r with
  | settled o => rfl
  | suspended f =>
      obtain ⟨stage, rfl, hq⟩ := hr f rfl
      rw [record_suspended_calls, changing_append, changing_quiet hq, List.append_nil]

/-- A call that is not quiet is the only one, if there is at most one. -/
theorem changing_eq_singleton {l₁ l₂ : List (Pending κ)} {p : Pending κ} {f : Frame}
    (hp : p.frame.quiet = false) (h : changing (l₁ ++ p :: l₂) = [f]) :
    p.frame = f ∧ changing (l₁ ++ l₂) = [] := by
  rw [changing_append, changing_cons, changing_not_quiet hp] at h
  rw [changing_append]
  cases h₁ : changing l₁ with
  | nil =>
      rw [h₁] at h
      obtain ⟨hf, h₂⟩ := List.cons.inj h
      exact ⟨hf, h₂⟩
  | cons g gs => rw [h₁] at h; simp at h

theorem sole_load (savedEndpoint env : Option String) :
    Sole (.load savedEndpoint env : Config κ) :=
  ⟨.inl ⟨rfl, rfl⟩, by rintro ⟨⟩⟩

/-- A step that leaves the calls waiting, `api` and the open instances alone. -/
theorem Sole.congr {c c' : Config κ} (h : Sole c) (hc : changing c'.calls = changing c.calls)
    (ha : c'.state.api = c.state.api) (ho : c'.state.opened = c.state.opened)
    (hi : c'.issued = c.issued) : Sole c' :=
  ⟨by rw [hc, ha, ho]; exact h.opened, by rw [hc, ha, hi]; exact h.issued⟩

section
variable {wsProviderError : String → Option String}

/-- A call that goes on to construct its provider, from a state in which nothing is open. -/
theorem sole_establish {c : Config κ} {caller : κ} {endpoint : Option String} {w : String}
    (hc : changing c.calls = []) (hi : c.issued ≠ some .disconnectApi) {s : State}
    (ha : s.api = none) (ho : s.opened = ∅) :
    Sole (c.record caller (.initializeApi endpoint)
      (establish wsProviderError s endpoint w)) := by
  rcases establish_cases wsProviderError s endpoint w with
    ⟨message, -, h⟩ | ⟨-, h⟩
  · rw [h]
    exact ⟨.inl ⟨hc, by simp [ha, ho]⟩, fun e => absurd e (by simpa using hi)⟩
  · rw [h]
    refine ⟨.inr ⟨.initializeApi endpoint w (.creating ((s.retarget endpoint).nextInstance w)),
      ?_, ?_⟩, fun e => absurd e (by simpa using hi)⟩
    · rw [record_suspended_calls, changing_append, hc, changing_not_quiet rfl, List.nil_append]
    · simp [ho, Frame.holds]

/-- A call that reuses the module's instance goes straight to the check that it is connected. -/
theorem sole_reuses {c : Config κ} {caller : κ} {request : Request} (hs : Sole c)
    (hr : request.reuses c.state) :
    Sole ({ c with issued := some request }.record caller request
      (request.enter wsProviderError c.state)) := by
  obtain ⟨h₁, h₂⟩ := checkConnected_quiet c.state (some c.state.currentEndpoint)
    c.state.currentEndpoint
  rw [enter_reuses hr]
  refine ⟨?_, by simp [hr.2]⟩
  rw [changing_record_quiet h₂, record_state, h₁]
  exact hs.opened

/-- A call starts with none waiting for a disconnection or a creation. -/
theorem sole_start {c : Config κ} {caller : κ} {request : Request} (hs : Sole c)
    (hc : changing c.calls = []) :
    Sole ({ c with issued := some request }.record caller request
      (request.enter wsProviderError c.state)) := by
  have ho : c.state.opened = c.state.api.toFinset := by
    rcases hs.opened with ⟨-, ho⟩ | ⟨f, hf, -⟩
    · exact ho
    · rw [hc] at hf; cases hf
  cases ha : c.state.api with
  | none =>
      rw [ha] at ho
      cases request with
      | initializeApi endpoint =>
          rw [enter_initializeApi_none ha]
          exact sole_establish (c := { c with issued := some (.initializeApi endpoint) }) hc
            (by simp) ha ho
      | disconnectApi =>
          rw [enter_disconnectApi_none ha]
          exact ⟨.inl ⟨hc, by simp [ha, ho]⟩, fun _ => .inl ⟨hc, ha⟩⟩
  | some inst =>
      have hclosed : c.state.opened.erase inst = ∅ := by simp [ho, ha]
      have hleave : ∀ f : Frame, f.quiet = false →
          changing (c.calls ++ [⟨caller, f⟩]) = [f] := fun f hf => by
        rw [changing_append, changing_not_quiet hf, hc, List.nil_append]
      cases request with
      | initializeApi endpoint =>
          by_cases he : endpoint = some c.state.currentEndpoint
          · exact sole_reuses hs ⟨by simp [ha], by rw [he]⟩
          · rw [enter_initializeApi_leave ha he]
            exact ⟨.inr ⟨_, hleave _ rfl, hclosed⟩, by simp⟩
      | disconnectApi =>
          rw [enter_disconnectApi_some ha]
          exact ⟨.inr ⟨_, hleave _ rfl, hclosed⟩, fun _ => .inr (hleave _ rfl)⟩

/-- The one call that waits for a disconnection or a creation goes on. -/
theorem sole_resume {c : Config κ} {p : Pending κ} {l₁ l₂ : List (Pending κ)} (hs : Sole c)
    (hl : c.calls = l₁ ++ p :: l₂) (hq : p.frame.quiet = false) :
    Sole ({ c with calls := l₁ ++ l₂ }.record p.caller p.frame.request
      (p.frame.resume wsProviderError c.state)) := by
  obtain ⟨f, hf, ho⟩ : ∃ f, changing c.calls = [f] ∧ c.state.opened = f.holds := by
    rcases hs.opened with ⟨h₀, -⟩ | h₁
    · rw [hl, changing_append, changing_cons, changing_not_quiet hq] at h₀; simp at h₀
    · exact h₁
  obtain ⟨rfl, hrest⟩ := changing_eq_singleton hq (hl ▸ hf)
  -- unless it is a `disconnectApi()`, the call issued last is none
  have hi : p.frame ≠ .disconnectApi → c.issued ≠ some .disconnectApi := fun hp e => by
    rcases hs.issued e with ⟨h₀, -⟩ | h₀
    · rw [hf] at h₀; cases h₀
    · rw [hf] at h₀; exact hp (List.cons.inj h₀).1
  obtain ⟨caller, frame⟩ := p
  cases frame with
  | disconnectApi => exact ⟨.inl ⟨hrest, ho⟩, fun _ => .inl ⟨hrest, rfl⟩⟩
  | initializeApi endpoint w stage =>
      cases stage with
      | disconnecting =>
          exact sole_establish (c := { c with calls := l₁ ++ l₂ })
            (s := { c.state with api := none }) hrest (hi (by simp)) rfl ho
      | creating inst =>
          refine ⟨.inl ⟨?_, ho⟩, fun e => absurd e (hi (by simp))⟩
          rw [Frame.resume, record_suspended_calls, changing_append, changing_quiet rfl,
            List.append_nil]
          exact hrest
      | ready => cases hq
      | connecting inst => cases hq
      | reconnected => cases hq

/-- **One step.** -/
theorem sole_step {c c' : Config κ} {e : Event κ} (hs : Sole c) (hg : StartsSettled c e)
    (h : step wsProviderError c e = some c') : Sole c' := by
  rcases step_cases h with ⟨caller, request, rfl, rfl⟩ | ⟨k, p, l₁, l₂, rfl, hl, rfl⟩ |
      ⟨inst, rfl, -, rfl⟩ | ⟨inst, rfl, -, -, rfl⟩
  · rcases hg with hc | hr
    · exact sole_start hs hc
    · exact sole_reuses hs hr
  · cases hq : p.frame.quiet with
    | false => exact sole_resume hs hl hq
    | true =>
        -- past its creation, the call touches neither `api` nor the open instances
        obtain ⟨endpoint, w, C, -, h₁, h₂⟩ := resume_quiet wsProviderError c.state hq
        refine hs.congr ?_ (by rw [record_state, h₁]) (by rw [record_state, h₁]) (by simp)
        rw [changing_record_quiet h₂, hl, changing_append, changing_append, changing_cons p l₂,
          changing_quiet hq, List.nil_append]
  · exact hs.congr rfl rfl rfl rfl
  · exact hs.congr rfl rfl rfl rfl

theorem Sole.noLeak {c : Config κ} (hs : Sole c) : NoLeak c := by
  intro hc
  have h₀ : changing c.calls = [] := by rw [hc]; rfl
  have ho : c.state.opened = c.state.api.toFinset := by
    rcases hs.opened with ⟨-, ho⟩ | ⟨f, hf, -⟩
    · exact ho
    · rw [h₀] at hf; cases hf
  refine ⟨ho, fun hi => ?_⟩
  rcases hs.issued hi with ⟨-, ha⟩ | hf
  · exact ⟨by rw [ho, ha]; rfl, ha⟩
  · rw [h₀] at hf; cases hf

/-- **No leaked connection**, when the calls that construct or disconnect start only while none
waits for a disconnection or a creation. -/
theorem no_leak {savedEndpoint env : Option String} {es : List (Event κ)} {c : Config κ}
    (h : Run (step wsProviderError) StartsSettled (.load savedEndpoint env) es c) : NoLeak c :=
  (h.invariant (fun _ _ _ hs hg hst => sole_step hs hg hst) (sole_load _ _)).noLeak

end

/-! ### The mount, its cleanup, and the second mount -/

/-- Connect, disconnect, and connect again, each call after the last has settled. -/
theorem no_leak_serial :
    NoLeak ((exec (step schemeError) StartsSettled (.load (some "wss://rpc.polkadot.io") none)
      [.call () (.initializeApi none), .resume 0, .resume 0, .call () .disconnectApi, .resume 0,
        .call () (.initializeApi none), .resume 0, .resume 0]).get (by decide)) :=
  no_leak (run_of_exec (Option.some_get _).symm)

/-- **StrictMode.**  The first mount is creating its instance when the cleanup runs, so the cleanup
finds `api` null and the second mount creates another instance; once both creations have
completed, both instances are open. -/
theorem strict_mode_leaks :
    ∃ c, Run (step schemeError) anyEvent (.load (some "wss://rpc.polkadot.io") none)
        [.call () (.initializeApi none), .call () .disconnectApi, .call () (.initializeApi none),
          .resume 0, .resume 0, .resume 0, .resume 0] c ∧
      c.calls = [] ∧ c.state.opened.card = 2 ∧ ¬ NoLeak c :=
  exists_run (by decide)

end SubstrateDevTemplate.Service
