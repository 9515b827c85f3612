import SubstrateDevTemplate.Context.Agreement
import SubstrateDevTemplate.Context.Attempts

/-!
# Context — one attempt at a time

Where an attempt starts only while `isConnecting` is clear, there is never more than one: the flag
is then right, and what is proved of calls that do not overlap holds of every such run.

* `attempts_quiet`: an event that starts no call does not add to the attempts.
* `Lone`: the one attempt, if any, is the only call in flight.
* `lone_step`: so it is again after every event that keeps to the flag (`KeepsToFlag`).
-/

namespace SubstrateDevTemplate.Context
open Service (ApiPromise Request Pending Settled Config)
open Transition

/-- An attempt starts only while none is shown to be under way; the provider is not unmounted. -/
def KeepsToFlag (p : Provider) : Event → Prop
  | .connect => p.Idle
  | .handleConnect _ => p.isConnecting = false
  | .cleanup => False
  | _ => True

instance (p : Provider) : (e : Event) → Decidable (KeepsToFlag p e)
  | .connect => inferInstanceAs (Decidable p.Idle)
  | .handleConnect _ => inferInstanceAs (Decidable (_ = _))
  | .cleanup => isFalse id
  | .resume _ | .deliver _ | .ready _ | .close _ | .reopen _ | .error _ _ => isTrue trivial

/-- Every call in flight is an attempt's, and there is at most one; the flag says so. -/
structure Lone (p : Provider) : Prop where
  shown : Shown p
  sole : Service.Sole p.service
  counts : Counts p
  single : p.attempts ≤ 1
  callers : p.Callers fun caller => caller.attempt = true

theorem lone_load (savedEndpoint env : Option String) : Lone (.load savedEndpoint env) where
  shown := shown_load savedEndpoint env
  sole := Service.sole_load savedEndpoint env
  counts := iff_of_false (by rintro ⟨⟩) (Nat.lt_irrefl 0)
  single := Nat.zero_le 1
  callers := ⟨by rintro q ⟨⟩, by rintro r ⟨⟩⟩

/-- Where all calls are attempts', no attempt means no call. -/
theorem Lone.idle {p : Provider} (hp : Lone p) (h : p.attempts = 0) : p.Idle := by
  have hcalls : (p.service.calls.countP fun q => q.caller.attempt) = p.service.calls.length :=
    List.countP_eq_length.mpr hp.callers.calls
  have hsettled : (p.service.settled.countP fun r => r.caller.attempt) =
      p.service.settled.length := List.countP_eq_length.mpr hp.callers.settled
  simp only [Provider.attempts, callAttempts, hcalls, hsettled] at h
  refine ⟨?_, ?_, ?_⟩
  · exact List.eq_nil_of_length_eq_zero (by omega)
  · exact List.eq_nil_of_length_eq_zero (by omega)
  · exact List.eq_nil_of_length_eq_zero (by omega)

/-- The flag is clear exactly at rest. -/
theorem Lone.flag {p : Provider} (hp : Lone p) : p.isConnecting = true ↔ ¬ p.Idle := by
  constructor
  · rintro hflag ⟨hcalls, hsettled, hconnecting⟩
    have := hp.counts.mp hflag
    simp [Provider.attempts, callAttempts, hcalls, hsettled, hconnecting] at this
  · intro hbusy
    refine hp.counts.mpr (Nat.pos_of_ne_zero fun h => hbusy (hp.idle h))

theorem Lone.idle_of_flag {p : Provider} (hp : Lone p) (h : p.isConnecting = false) : p.Idle := by
  by_contra hbusy
  rw [hp.flag.mpr hbusy] at h
  cases h

/-- At most one instance is open: that of `api`, or that of the call which is creating it. -/
theorem opened_le_one {κ : Type*} {c : Config κ} (hs : Service.Sole c) :
    c.state.opened.card ≤ 1 := by
  rcases hs.opened with ⟨-, ho⟩ | ⟨f, -, ho⟩
  · rw [ho]
    cases c.state.api with
    | none => exact Nat.zero_le 1
    | some inst => exact Nat.le_refl 1
  · rw [ho]
    unfold Service.Frame.holds
    split
    · exact Nat.le_refl 1
    · exact Nat.zero_le 1

section
variable {wsProviderError : String → Option String} {p p' : Provider}

/-- A caller that goes on is one attempt less, or waits once more. -/
theorem attempts_deliver_le (p : Provider) (r : Settled Caller) :
    (p.deliver r).attempts ≤ p.attempts + if r.caller.attempt then 1 else 0 := by
  have hconnecting : (p.deliver r).connecting.length ≤
      p.connecting.length + if r.caller.attempt then 1 else 0 := by
    obtain ⟨caller, request, outcome⟩ := r
    cases caller with
    | cleanup => exact Nat.le_refl _
    | changeEndpoint e => cases outcome <;> exact Nat.le_succ _
    | connect =>
        cases outcome with
        | rejected message => exact Nat.le_succ _
        | resolved value =>
            cases value with
            | none => exact Nat.le_succ _
            | some inst => exact Nat.le_of_eq List.length_append
  rw [Provider.attempts, Provider.attempts, deliver_service, Nat.add_assoc]
  exact Nat.add_le_add_left hconnecting _

/-- **An event that starts no call adds no attempt.** -/
theorem attempts_quiet {e : Event}
    (he : ∀ caller request, e.serves ≠ some (.call caller request))
    (h : step wsProviderError p e = some p') : p'.attempts ≤ p.attempts := by
  cases e with
  | connect | handleConnect | cleanup => exact absurd rfl (he _ _)
  | resume k => exact Nat.le_of_eq (attempts_serve h).1
  | deliver k =>
      obtain ⟨r, hk, rfl⟩ := step_deliver h
      rw [attempts_taken hk]
      exact attempts_deliver_le _ r
  | ready k =>
      obtain ⟨inst, hk, rfl⟩ := step_ready h
      exact Nat.add_le_add_left (List.length_eraseIdx_le ..) _
  | close inst =>
      obtain ⟨p₁, hserve, hp'⟩ := step_close h
      have hle := Nat.le_of_eq (attempts_serve hserve).1
      rcases hp' with rfl | rfl
      · exact hle
      · exact hle
  | reopen inst => exact Nat.le_of_eq (attempts_serve h).1
  | error inst message =>
      obtain rfl := step_error h
      exact Nat.le_refl _

/-- The open instances stay in hand, where a call starts at rest. -/
theorem sole_provider {e : Event} (hs : Service.Sole p.service)
    (hg : ∀ caller request, e.serves = some (.call caller request) → p.Idle)
    (h : step wsProviderError p e = some p') : Service.Sole p'.service := by
  rcases step_serves h with ⟨e', he', hc⟩ | ⟨-, rest, hserv, -⟩
  · refine Service.sole_step hs ?_ hc
    cases e' with
    | call caller request =>
        refine .inl ?_
        rw [(hg _ _ he').1]
        rfl
    | resume | close | reopen => trivial
  · rw [hserv]
    exact ⟨hs.opened, hs.issued⟩

/-- **One event** that keeps to the flag leaves at most one attempt. -/
theorem lone_step {e : Event} (hp : Lone p) (hg : KeepsToFlag p e)
    (h : step wsProviderError p e = some p') : Lone p' := by
  have hcleanup : e ≠ .cleanup := by rintro rfl; exact hg
  -- an attempt starts at rest only
  have hstart : ∀ caller request, e.serves = some (.call caller request) → p.Idle := by
    intro caller request hs
    cases e with
    | connect => exact hg
    | handleConnect v => exact hp.idle_of_flag hg
    | cleanup => exact absurd rfl hcleanup
    | resume | deliver | ready | close | reopen | error => cases hs
  have hjoins : Joins p e := by
    cases e with
    | connect => exact hstart _ _ rfl
    | handleConnect v => exact .inl (hstart _ _ rfl)
    | cleanup => exact absurd rfl hcleanup
    | resume | deliver | ready | close | reopen | error => trivial
  have hends : EndsAlone p e := by
    intro hsettles
    have hsingle := hp.single
    cases step_accounts h with
    | starts he _ _ => rw [he] at hsettles; cases hsettles
    | settles _ hattempts _ => omega
    | neither he _ _ => rw [he] at hsettles; cases hsettles
  have hsingle : p'.attempts ≤ 1 := by
    by_cases hs : ∃ caller request, e.serves = some (.call caller request)
    · obtain ⟨caller, request, hs⟩ := hs
      obtain ⟨hcalls, hsettled, hconnecting⟩ := hstart caller request hs
      have hnone : p.attempts = 0 := by
        simp [Provider.attempts, callAttempts, hcalls, hsettled, hconnecting]
      cases step_accounts h with
      | starts _ hattempts _ => omega
      | settles _ hattempts _ => omega
      | neither _ hattempts _ => omega
    · have hle := attempts_quiet (fun caller request he => hs ⟨caller, request, he⟩) h
      exact Nat.le_trans hle hp.single
  have hcallers : p'.Callers fun caller => caller.attempt = true := by
    refine callers_step hp.callers (fun caller request hs => ?_) h
    cases e with
    | connect => cases hs; rfl
    | handleConnect v => cases hs; rfl
    | cleanup => exact absurd rfl hcleanup
    | resume | deliver | ready | close | reopen | error => cases hs
  exact ⟨shown_step hp.shown hjoins h, sole_provider hp.sole hstart h,
    (step_counts_iff hp.counts h).mpr hends, hsingle, hcallers⟩

end

end SubstrateDevTemplate.Context
